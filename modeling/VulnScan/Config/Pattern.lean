import VulnScan.Text.Alphanumeric
import VulnScan.Text.Blank
import VulnScan.Text.Hexadecimal

/-! # Patterns of field values

A directive of a log filter may ask for the values of fields, by a regular expression. No event
that the scanner logs ever meets such a directive, so all that counts is whether the expression is
one, which `isPattern` decides.

A pattern is a sequence of items: characters, escapes, classes in brackets, assertions about the
place, and groups in parentheses. An item may be repeated by `*`, `+` or `?`, each perhaps with one
more `?` behind it, and sequences are alternatives between `|`. A brace opens a count; since the
value of a field ends at the first closing brace, a count is never complete.

Flags are set for one group or for what is left of a group. A pattern is about text and must not
match a part of a character. By default characters are those of Unicode, but neither the folding
of their case nor the classes that escapes name are known; what needs them is no pattern. Without
the flag `u` only ASCII counts: its named classes are known, but a class must not hold other
characters, nor say only which characters it does not hold.

Patterns have a greatest depth. Items that stand together, alternatives, groups, repetitions and
classes each lie one level above their parts; while a pattern is read, the depths of the parts of
everything that is still open are kept.
-/

set_option autoImplicit false

namespace VulnScan.Config

namespace Pattern

/-- The flags that decide what is a pattern; others only decide what it matches. -/
structure Flags where
  /-- Blanks and comments do not count. -/
  isVerbose : Bool := false
  /-- Characters are those of Unicode. -/
  isUnicode : Bool := true
  /-- The case of letters does not count. -/
  foldsCase : Bool := false
deriving DecidableEq, Inhabited

/-- What a character or an escape stands for. -/
inductive Atom where
  | char (c : Char)
  /-- A set of characters. -/
  | set
  /-- An assertion about the place. -/
  | place
deriving DecidableEq

/-- Whether only ASCII is meant. -/
def Atom.isAscii : Atom → Bool
  | .char c => c.toNat < 128
  | _ => true

/-- The text after blanks and comments; a comment lasts up to the end of the line. -/
def dropVerbose : (inComment : Bool) → List Char → List Char
  | _, [] => []
  | true, c :: r => dropVerbose (c != '\n') r
  | false, c :: r =>
    if Text.isBlank c then dropVerbose false r
    else if c = '#' then dropVerbose true r
    else c :: r

namespace Flags

/-- The text after what does not count. -/
def skip (f : Flags) (s : List Char) : List Char := if f.isVerbose then dropVerbose false s else s

/-- The character that a dash in a class has behind it; of a comment only the mark is passed
over. -/
def peek (f : Flags) (s : List Char) : Option Char :=
  if f.isVerbose then
    let next := match s.dropWhile Text.isBlank with
      | '#' :: r => r.dropWhile Text.isBlank
      | r => r
    next.head?.or s.head?
  else s.head?

/-- The flags with one of them set or not, if there is a flag with that letter. -/
def set? (f : Flags) (letter : Char) (on : Bool) : Option Flags :=
  match letter with
  | 'x' => some { f with isVerbose := on }
  | 'u' => some { f with isUnicode := on }
  | 'i' => some { f with foldsCase := on }
  | 'm' | 's' | 'U' | 'R' => some f
  | _ => none

/-- Whether the case of a character can be treated as the flags ask for. -/
def knowsCase (f : Flags) : Bool := !(f.isUnicode && f.foldsCase)

/-- Whether an atom may be an item. -/
def admits (f : Flags) : Atom → Bool
  | .char _ => f.knowsCase
  | _ => true

/-- Whether an atom may stand in a class. -/
def admitsInClass (f : Flags) : Atom → Bool
  | .place => false
  | a => if f.isUnicode then f.knowsCase else a.isAscii

end Flags

/-- The greatest depth of a pattern. -/
def depthLimit : Nat := 250

/-- The depth of parts that stand together; a part alone is as deep as it is. -/
def joined : List Nat → Nat
  | [] => 0
  | [n] => n
  | ns => ns.foldl max 0 + 1

/-! ## Escapes -/

/-- The value of a number of hexadecimal digits, read after `n`. -/
def hex (f : Flags) : (count n : Nat) → List Char → Option (Nat × List Char)
  | 0, n, s => some (n, s)
  | count + 1, n, s =>
    match f.skip s with
    | [] => none
    | c :: r => do hex f count (16 * n + (← Text.hexValue? c)) r

/-- The character whose code has so many hexadecimal digits. -/
def code (f : Flags) (count : Nat) (s : List Char) : Option (Atom × List Char) := do
  let (n, r) ← hex f count 0 s
  if n.isValidChar then some (.char (Char.ofNat n), r) else none

/-- Whether a backslash before a character makes it stand for itself. -/
def isEscapable (c : Char) : Bool := c.toNat < 128 && !c.isAlphanum && c != '<' && c != '>'

/-- An escape, after its backslash. Two hexadecimal digits write an octet if characters are not
those of Unicode. -/
def escape (f : Flags) : List Char → Option (Atom × List Char)
  | [] => none
  | c :: r =>
    if isEscapable c then some (.char c, r)
    else match c with
      | 'a' => some (.char '\x07', r)
      | 'f' => some (.char '\x0c', r)
      | 'n' => some (.char '\n', r)
      | 'r' => some (.char '\r', r)
      | 't' => some (.char '\t', r)
      | 'v' => some (.char '\x0b', r)
      | 'A' | 'z' => some (.place, r)
      | 'b' | 'B' | '<' | '>' => if f.isUnicode then none else some (.place, r)
      | 'd' | 's' | 'w' => if f.isUnicode then none else some (.set, r)
      | 'x' => (code f 2 r).filter fun p => f.isUnicode || p.1.isAscii
      | 'u' => code f 4 r
      | 'U' => code f 8 r
      | _ => none

/-- A character or an escape. -/
def atom (f : Flags) (c : Char) (r : List Char) : Option (Atom × List Char) :=
  if c = '\\' then escape f r else some (.char c, r)

/-! ## Classes -/

/-- The names of classes between colons. -/
def classNames : List String :=
  ["alnum", "alpha", "ascii", "blank", "cntrl", "digit", "graph", "lower", "print", "punct",
   "space", "upper", "word", "xdigit"]

/-- A named class after its bracket: whether it is negated, and the text after it. -/
def namedClass (s : List Char) : Option (Bool × List Char) :=
  match s with
  | ':' :: r =>
    let (negated, r) := match r with
      | '^' :: r => (true, r)
      | r => (false, r)
    let name := r.takeWhile (· != ':')
    match r.drop name.length with
    | ':' :: ']' :: r =>
      if classNames.contains (String.ofList name) then some (negated, r) else none
    | _ => none
  | _ => none

/-- What a member of a class is, after its first atom, with the text after it: the atom alone, or a
range up to a second one. -/
def range (f : Flags) (a : Atom) (s : List Char) : Option (List Char) :=
  match f.skip s with
  | '-' :: r =>
    if f.peek r = some ']' ∨ f.peek r = some '-' then some ('-' :: r)
    else match f.skip r with
      | [] => none
      | c :: r => do
        let (b, r) ← atom f c r
        match a, b with
        | .char low, .char high =>
          if low ≤ high && f.admitsInClass b then some r else none
        | _, _ => none
  | s => some s

/-- Where a class is being read. -/
inductive Spot where
  /-- After its bracket. -/
  | opened
  /-- After the sign that negates it. -/
  | negated
  /-- After dashes at its start. -/
  | dashed
  | inside
deriving DecidableEq

/-- The depths of what has been read of a class: of the left side of an operation, if there is one,
and of the members after it. -/
structure Class where
  left : Option Nat := none
  members : List Nat := []

namespace Class

/-- The class with one more member. -/
def add (k : Class) (depth : Nat) : Class := { k with members := depth :: k.members }

/-- The depth of everything so far. -/
def depth (k : Class) : Nat :=
  match k.left with
  | none => joined k.members
  | some l => max l (joined k.members) + 1

/-- The class as the left side of an operation. -/
def operand (k : Class) : Class := { left := some k.depth }

end Class

/-- The depth of a class and the text after it, from a spot in it on; `outer` are the classes
around it. At the start of a class dashes stand for themselves, and so does a closing bracket.
Every step reads a character. -/
def classRest (f : Flags) :
    (fuel : Nat) → (outer : List Class) → Class → Spot → List Char → Option (Nat × List Char)
  | 0, _, _, _, _ => none
  | fuel + 1, outer, k, spot, s =>
    match f.skip s with
    | [] => none
    | c :: r =>
      if spot = .opened ∧ c = '^' then
        if f.isUnicode then classRest f fuel outer k .negated r else none
      else if spot ≠ .inside ∧ c = '-' then
        if f.admitsInClass (.char c) then classRest f fuel outer (k.add 0) .dashed r else none
      else if (spot = .opened ∨ spot = .negated) ∧ c = ']' then
        if f.admitsInClass (.char c) then classRest f fuel outer (k.add 0) .inside r else none
      else if c = '[' then
        match namedClass r with
        | some (negated, r) =>
          if if f.isUnicode then f.knowsCase else !negated then
            classRest f fuel outer (k.add 0) .inside r
          else none
        | none => classRest f fuel (k :: outer) {} .opened r
      else if c = ']' then
        match outer with
        | [] => some (k.depth + 1, r)
        | around :: outer => classRest f fuel outer (around.add (k.depth + 1)) .inside r
      else if (c = '&' ∨ c = '-' ∨ c = '~') ∧ r.head? = some c then
        classRest f fuel outer k.operand .inside (r.drop 1)
      else
        match atom f c r with
        | some (a, r) =>
          if f.admitsInClass a then
            match range f a r with
            | some r => classRest f fuel outer (k.add 0) .inside r
            | none => none
          else none
        | none => none

/-- The depth of a class and the text after it, after its bracket. -/
def classAfter (f : Flags) (s : List Char) : Option (Nat × List Char) :=
  classRest f (s.length + 1) [] {} .opened s

/-! ## Groups -/

/-- What an opening parenthesis leads to: a group with its flags and perhaps a name, or flags for
what is left of the present group. -/
inductive Opening where
  | group (f : Flags) (name : Option (List Char))
  | flags (f : Flags)

/-- The letters of flags, up to the sign after them: every letter at most once, and a dash before
those that are not to be set. -/
def flags (f : Flags) (on : Bool) (seen : List Char) : List Char → Option (Opening × List Char)
  | [] => none
  | c :: r =>
    if c = ':' ∨ c = ')' then
      if seen.head? = some '-' then none
      else if c = ':' then some (.group f none, r)
      else if seen = [] then none
      else some (.flags f, r)
    else if seen.contains c then none
    else if c = '-' then flags f false (c :: seen) r
    else match f.set? c on with
      | some f => flags f on (c :: seen) r
      | none => none

/-- Whether a text is the name of a group. -/
def isName : List Char → Bool
  | [] => false
  | c :: r =>
    (c = '_' || Text.isAlphabetic c)
      && r.all fun c => ['_', '.', '[', ']'].contains c || Text.isAlphanumeric c

/-- The name of a group, after its bracket. -/
def named (f : Flags) (s : List Char) : Option (Opening × List Char) :=
  let name := s.takeWhile (· != '>')
  match s.drop name.length with
  | _ :: r => if isName name then some (.group f (some name), r) else none
  | [] => none

/-- What stands after an opening parenthesis. -/
def opening (f : Flags) (s : List Char) : Option (Opening × List Char) :=
  match f.skip s with
  | '?' :: 'P' :: '<' :: r | '?' :: '<' :: r => named f r
  | '?' :: r => flags f true [] r
  | s => some (.group f none, s)

/-! ## Sequences -/

/-- What has been read of a group, or of a whole pattern. -/
structure Group where
  /-- The flags for what follows. -/
  flags : Flags := {}
  /-- The depths of the alternatives before the present one. -/
  branches : List Nat := []
  /-- The depths of the items of the present alternative, the latest first. -/
  items : List Nat := []
  /-- Whether the latest item can be repeated. -/
  isRepeatable : Bool := false

namespace Group

/-- The group with one more item. -/
def add (g : Group) (depth : Nat) : Group :=
  { g with items := depth :: g.items, isRepeatable := true }

/-- The group with its latest item repeated. -/
def repeated? (g : Group) : Option Group :=
  match g.isRepeatable, g.items with
  | true, n :: ns => some { g with items := (n + 1) :: ns }
  | _, _ => none

/-- The group at the start of one more alternative. -/
def branch (g : Group) : Group :=
  { g with branches := joined g.items :: g.branches, items := [], isRepeatable := false }

/-- The depth of everything so far. -/
def depth (g : Group) : Nat := joined (joined g.items :: g.branches)

end Group

/-- How far a pattern has been read. -/
structure Progress where
  /-- The innermost open group. -/
  group : Group := {}
  /-- The groups around it, the next one first. -/
  outer : List Group := []
  /-- The names of groups. -/
  names : List (List Char) := []

namespace Progress

/-- What an opening parenthesis does; no two groups have the same name. -/
def open? (p : Progress) : Opening → Option Progress
  | .flags f => some { p with group := { p.group.add 0 with flags := f, isRepeatable := false } }
  | .group f name =>
    if name.any p.names.contains then none
    else some
      { group := { flags := f }, outer := p.group :: p.outer, names := name.toList ++ p.names }

/-- What a closing parenthesis does: the flags are again those around the group. -/
def close? (p : Progress) : Option Progress :=
  match p.outer with
  | [] => none
  | g :: gs => some { p with group := g.add (p.group.depth + 1), outer := gs }

/-- One step from the character `c` on, and the text after it. -/
def step? (p : Progress) (c : Char) (r : List Char) : Option (Progress × List Char) :=
  let f := p.group.flags
  let item (depth : Nat) : Progress := { p with group := p.group.add depth }
  match c with
  | '(' => do
    let (o, r) ← opening f r
    return (← p.open? o, r)
  | ')' => p.close?.map fun p => (p, r)
  | '|' => some ({ p with group := p.group.branch }, r)
  | '[' => (classAfter f r).map fun q => (item q.1, q.2)
  | '*' | '+' | '?' =>
    p.group.repeated?.map fun g =>
      ({ p with group := g }, match r with | '?' :: r => r | r => r)
  | '\x7b' => none
  | '.' => if f.isUnicode then some (item 0, r) else none
  | '^' | '$' => some (item 0, r)
  | c => do
    let (a, r) ← atom f c r
    if f.admits a then some (item 0, r) else none

/-- Whether a pattern is complete: no group is open, and it is not too deep. -/
def isComplete (p : Progress) : Bool := p.outer.isEmpty && p.group.depth ≤ depthLimit

end Progress

/-- Whether a text completes a pattern. Every step reads a character. -/
def completes : (fuel : Nat) → Progress → List Char → Bool
  | 0, _, _ => false
  | fuel + 1, p, s =>
    match p.group.flags.skip s with
    | [] => p.isComplete
    | c :: r =>
      match p.step? c r with
      | some (p, r) => completes fuel p r
      | none => false

end Pattern

/-- Whether a text is a pattern. -/
def isPattern (s : List Char) : Bool := Pattern.completes (s.length + 1) {} s

end VulnScan.Config
