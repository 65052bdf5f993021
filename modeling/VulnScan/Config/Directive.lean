import VulnScan.Config.Pattern
import VulnScan.Number.Word
import VulnScan.Text.Ascii
import VulnScan.Text.Numeral
import VulnScan.Text.Split
import VulnScan.Text.Utf8

/-! # Directives of a log filter

A directive gives a level, perhaps for the targets whose names start in some way, and perhaps only
for events with a certain field or within a certain span: `target[span{field=value}]=level`.

A directive is read character by character. The places where its parts begin and end are found in
the text without the blanks around it, but counted in octets and applied to the text with the
blanks. So blanks before a directive shift its parts, and if they take several octets a place may
even lie within a character; then the directive is torn.
-/

set_option autoImplicit false

namespace VulnScan.Config

/-- The level of an event. -/
inductive Level where
  | trace
  | debug
  | info
  | warn
  | error
deriving DecidableEq, Inhabited

namespace Level

/-- All levels, the most talkative first. -/
def all : List Level := [.trace, .debug, .info, .warn, .error]

/-- The name of a level. -/
def name : Level → String
  | .trace => "trace"
  | .debug => "debug"
  | .info => "info"
  | .warn => "warn"
  | .error => "error"

/-- How talkative a level is. -/
def rank : Level → Nat
  | .error => 1
  | .warn => 2
  | .info => 3
  | .debug => 4
  | .trace => 5

end Level

/-- How much passes: levels up to a rank, by a number or by a name. No name means errors. -/
def threshold? (s : List Char) : Option Nat :=
  match (Text.parseBelow Number.longWordBound s).filter (· < 6) with
  | some n => some n
  | none =>
    if s = [] then some 1
    else if Text.sameName (String.ofList s) "off" then some 0
    else (Level.all.find? fun l => Text.sameName l.name (String.ofList s)).map Level.rank

/-- One directive. -/
structure Directive where
  /-- The start of the names of its targets. -/
  target : Option (List Char) := none
  /-- Whether it applies within a span only. -/
  isScoped : Bool := false
  /-- The field that an event has to have, and whether its value matters. -/
  field : Option (List Char × Bool) := none
  threshold : Nat := Level.trace.rank
deriving DecidableEq, Inhabited

/-- Why a text is not read as a directive. -/
inductive DirectiveFault where
  /-- It is none. -/
  | malformed
  /-- A part of it begins or ends within a character. -/
  | torn
deriving DecidableEq

namespace Directive

/-! ## Fields -/

/-- Whether an exponent completes a number. -/
def isExponent : List Char → Bool
  | [] => true
  | c :: r =>
    let ds := match r with
      | '+' :: ds | '-' :: ds => ds
      | ds => ds
    (c = 'e' || c = 'E') && !ds.isEmpty && ds.all Text.isDigit

/-- Whether a text is a number: digits with at most one point and perhaps an exponent, or the name
of a number that has no digits. -/
def isNumber (s : List Char) : Bool :=
  let s := match s with
    | '+' :: r | '-' :: r => r
    | s => s
  let whole := s.takeWhile Text.isDigit
  let rest := s.drop whole.length
  let fraction := match rest with
    | '.' :: r => r.takeWhile Text.isDigit
    | _ => []
  let rest := match rest with
    | '.' :: r => r.drop fraction.length
    | r => r
  (!(whole ++ fraction).isEmpty && isExponent rest)
    || ["inf", "infinity", "nan"].any fun name => Text.sameName name (String.ofList s)

/-- A field with its value, if it has one: a number or a pattern. What stands after a second equals
sign does not count. -/
def readField? (s : List Char) : Option (List Char × Bool) :=
  match Text.splitAll '=' s with
  | name :: value :: _ => if isNumber value || isPattern value then some (name, true) else none
  | _ => if s = [] then none else some (s, false)

/-! ## Reading -/

/-- What is being read, and at which octet it begins. -/
inductive Part where
  | nothing
  /-- A level, or the target if more follows. -/
  | word (start : Nat)
  | span (start : Nat)
  | field (start : Nat)
  /-- The field has ended. -/
  | afterField
  /-- The span has ended. -/
  | afterSpan
  | level (start : Nat)
deriving DecidableEq

/-- A directive as far as it has been read. -/
structure Draft where
  part : Part := .nothing
  directive : Directive := {}

/-- The octets of a text from `low` up to `high`. -/
def cut (text : List Char) (low high : Nat) : Except DirectiveFault (List Char) :=
  match Text.Utf8.cut? low high text with
  | some s => .ok s
  | none => .error .torn

/-- Whether a directive may start with a character. -/
def mayStart (c : Char) : Bool := c = '-' || c = ':' || c = '_' || Text.isAlphanumeric c

/-- Reads the character `c` at octet `i` of the directive in `text`. -/
def Draft.step (text : List Char) (d : Draft) (i : Nat) (c : Char) :
    Except DirectiveFault Draft := do
  match d.part with
  | .nothing =>
    if c = '[' then return { d with part := .span (i + 1) }
    else if mayStart c then return { d with part := .word i }
    else .error .malformed
  | .word start =>
    if c = '=' ∨ c = '[' then
      let target ← cut text start i
      return ⟨if c = '=' then .level (i + 1) else .span (i + 1),
        { d.directive with target := some target }⟩
    else return d
  | .span start =>
    if c = ']' then
      let _ ← cut text start i
      return ⟨.afterSpan, { d.directive with isScoped := true }⟩
    else if c = '\x7b' then
      let name ← cut text start i
      return ⟨.field (i + 1), { d.directive with isScoped := !name.isEmpty }⟩
    else return d
  | .field start =>
    if c = '\x7d' then
      match readField? (← cut text start i) with
      | some field => return ⟨.afterField, { d.directive with field := some field }⟩
      | none => .error .malformed
    else return d
  | .afterField => if c = ']' then return { d with part := .afterSpan } else .error .malformed
  | .afterSpan => if c = '=' then return { d with part := .level (i + 1) } else .error .malformed
  | .level _ => return d

/-- Reads characters, the first at octet `i`. -/
def Draft.steps (text : List Char) (d : Draft) : (i : Nat) → List Char → Except DirectiveFault Draft
  | _, [] => .ok d
  | i, c :: s => do (← d.step text i c).steps text (i + c.utf8Size) s

/-- The directive when its text is over. A word that is no level is the name of a target, for which
everything passes, as it does if there is nothing after the equals sign. -/
def Draft.finish (text : List Char) (d : Draft) : Except DirectiveFault Directive := do
  match d.part with
  | .word start =>
    let word ← cut text start (Text.Utf8.size text)
    match threshold? word with
    | some threshold => return { d.directive with threshold }
    | none => return { d.directive with target := some word }
  | .level start =>
    let level ← cut text start (Text.Utf8.size text)
    if level.isEmpty then return d.directive
    else match threshold? level with
      | some threshold => return { d.directive with threshold }
      | none => .error .malformed
  | .afterSpan => return d.directive
  | .nothing | .span _ | .field _ | .afterField => .error .malformed

/-- The directive in a text. -/
def read (text : List Char) : Except DirectiveFault Directive := do
  (← Draft.steps text {} 0 (Text.trim text)).finish text

end Directive

end VulnScan.Config
