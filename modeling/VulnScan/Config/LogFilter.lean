import VulnScan.Config.Directive

/-! # Which events are logged

A filter is a list of directives, written with commas between them. The directive with the longest
target that fits an event decides about it; of two with the same target the one with a field, else
the later one.

Events here stand outside of all spans and carry a message only, so directives about spans and
about the values of fields never apply to them; but a filter that has such a directive is not
empty.
-/

set_option autoImplicit false

namespace VulnScan.Config

namespace Directive

/-- Whether it applies to an event of a target that stands outside of all spans and carries a
message. -/
def admits (d : Directive) (target : List Char) : Bool :=
  !d.isScoped && (d.target.all fun t => (Text.after t target).isSome)
    && d.field.all fun f => !f.2 && f.1 = ['m', 'e', 's', 's', 'a', 'g', 'e']

/-- Whether `d` is more specific than `e`: its target is longer, or it asks for a field. -/
def outranks (d e : Directive) : Bool :=
  let size (d : Directive) := (d.target.map fun t => t.length + 1).getD 0
  size e < size d || (size e == size d && d.field.isSome && e.field.isNone)

end Directive

/-- A filter. -/
abbrev LogFilter := List Directive

namespace LogFilter

/-- The texts of the directives in the text of a filter. -/
def pieces (s : String) : List (List Char) :=
  (Text.splitAll ',' s.toList).filter (!·.isEmpty)

/-- The directives in texts, as long as there is no fault. -/
def strict (s : String) : Except DirectiveFault LogFilter := (pieces s).mapM Directive.read

/-- The directives in texts without those that are malformed; there are none if one is torn. -/
def readable? : List (List Char) → Option LogFilter
  | [] => some []
  | s :: ss =>
    match Directive.read s with
    | .ok d => (readable? ss).map (d :: ·)
    | .error .malformed => readable? ss
    | .error .torn => none

/-- The filter that lets errors pass. -/
def errorsOnly : LogFilter := [{ threshold := Level.error.rank }]

/-- The filter in a text whose malformed directives do not count; if no other is left, errors
pass. -/
def lenient? (s : String) : Option LogFilter :=
  (readable? (pieces s)).map fun f => if f.isEmpty then errorsOnly else f

/-- The filter of a log: that of the environment, if it is not malformed, else that of the
settings. There is no log if a directive on the way to it is torn. -/
def choose? (fromEnvironment : Option String) (level : String) : Option LogFilter :=
  match fromEnvironment.map strict with
  | some (.ok f) => some f
  | some (.error .torn) => none
  | some (.error .malformed) | none => lenient? level

/-- The directive that decides about events of a target. -/
def deciding (f : LogFilter) (target : List Char) : Option Directive :=
  (f.filter fun d => d.admits target).foldl
    (fun best d => match best with
      | none => some d
      | some b => if b.outranks d then some b else some d)
    none

/-- Whether events of a target and a level pass. -/
def passes (f : LogFilter) (target : String) (l : Level) : Bool :=
  match f.deciding target.toList with
  | some d => l.rank ≤ d.threshold
  | none => false

/-- The levels of a target that pass. -/
def levels (f : LogFilter) (target : String) : List Level :=
  Level.all.filter fun l => f.passes target l

end LogFilter

end VulnScan.Config
