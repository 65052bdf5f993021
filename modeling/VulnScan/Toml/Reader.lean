import VulnScan.Toml.Scalar

/-! # Reading configuration files

A file is read line by line: a comment, the header of a table or of one more table in a list, or a
key with its value. What is read goes into the tree at once, so an entry that may not stand where
it does is refused like any other fault. Values nest less than eighty deep, and a key has less than
eighty parts.
-/

set_option autoImplicit false

namespace VulnScan.Toml

/-- The bound that the depth of values and the number of parts of a key have to stay below. -/
def depthLimit : Nat := 80

/-! ## Keys -/

/-- Whether a character may stand in a key without quotes. -/
def isBare (c : Char) : Bool :=
  ('a' ≤ c && c ≤ 'z') || ('A' ≤ c && c ≤ 'Z') || Text.isDigit c || c = '_' || c = '-'

/-- One part of a key. -/
def keyPart (s : List Char) : Option (String × List Char) :=
  match s with
  | '"' :: r => (basicLine (r.length + 1) r).map fun p => (String.ofList p.1, p.2)
  | '\'' :: r => (literalLine r).map fun p => (String.ofList p.1, p.2)
  | s =>
    let part := s.takeWhile isBare
    if part.isEmpty then none else some (String.ofList part, s.dropWhile isBare)

/-- The parts of a key, with points between them and blanks around them. -/
def keyParts : (fuel : Nat) → List Char → Option (List String × List Char)
  | 0, _ => none
  | fuel + 1, s => do
    let (part, s) ← keyPart (skipSpace s)
    match skipSpace s with
    | '.' :: r =>
      let (parts, s) ← keyParts fuel r
      return (part :: parts, s)
    | s => return ([part], s)

/-- A key: the parts before the last one, and the last one. -/
def key (s : List Char) : Option ((List String × String) × List Char) := do
  let (parts, s) ← keyParts (depthLimit - 1) s
  let last ← parts.getLast?
  return ((parts.dropLast, last), s)

/-! ## Values -/

/-- The text after a comment, if it starts with one. -/
def skipComment : List Char → List Char
  | '#' :: r => r.dropWhile isPlain
  | s => s

/-- The text after blanks, comments and ends of lines. -/
def skipAny : (fuel : Nat) → List Char → List Char
  | 0, s => s
  | fuel + 1, s =>
    let s := skipSpace s
    let t := skipComment s
    match newline? t with
    | some r => skipAny fuel r
    | none => s

/-- A truth value. -/
def truth (s : List Char) : Option (Node × List Char) :=
  match Text.after ['t', 'r', 'u', 'e'] s, Text.after ['f', 'a', 'l', 's', 'e'] s with
  | some r, _ => some (.bool true, r)
  | none, some r => some (.bool false, r)
  | none, none => none

/-- A value without parts. -/
def atom (s : List Char) : Option (Node × List Char) :=
  match s with
  | '"' :: _ | '\'' :: _ => (string s).map fun p => (.string p.1, p.2)
  | 't' :: _ | 'f' :: _ => truth s
  | s => number s

mutual

/-- A value. It may nest at most `depth` deep. -/
def value : (fuel depth : Nat) → List Char → Option (Node × List Char)
  | 0, _, _ => none
  | fuel + 1, depth, s =>
    match s, depth with
    | '[' :: _, 0 | '\x7b' :: _, 0 => none
    | '[' :: r, depth + 1 => do
      let (items, s) ← arrayItems fuel depth r
      return (.array items, s)
    | '\x7b' :: r, depth + 1 =>
      match skipSpace r with
      | '\x7d' :: s => some (.table .braces [], s)
      | _ => do
        let (es, s) ← braceEntries fuel depth [] r
        return (.table .braces es, s)
    | s, _ => atom s

/-- The items of an array, after its bracket or after a comma. -/
def arrayItems : (fuel depth : Nat) → List Char → Option (List Node × List Char)
  | 0, _, _ => none
  | fuel + 1, depth, s =>
    match skipAny (s.length + 1) s with
    | ']' :: r => some ([], r)
    | s => do
      let (v, s) ← value fuel depth s
      match skipAny (s.length + 1) s with
      | ']' :: r => some ([v], r)
      | ',' :: r => do
        let (vs, s) ← arrayItems fuel depth r
        return (v :: vs, s)
      | _ => none

/-- The entries of a table between braces, after its brace or after a comma. -/
def braceEntries : (fuel depth : Nat) → Entries → List Char → Option (Entries × List Char)
  | 0, _, _, _ => none
  | fuel + 1, depth, es, s => do
    let ((path, name), s) ← key s
    let s ← Text.after ['='] s
    let (v, s) ← value fuel depth (skipSpace s)
    let es ← assign path name v .header es
    match skipSpace s with
    | '\x7d' :: r => some (es, r)
    | ',' :: r => braceEntries fuel depth es r
    | _ => none

end

/-! ## Lines -/

/-- What has been read of a file: the tree, and where the present table is. -/
structure Draft where
  root : Entries := []
  path : List String := []

/-- The text after the end of a line, with a comment before it. -/
def endLine (s : List Char) : Option (List Char) :=
  match skipComment (skipSpace s) with
  | [] => some []
  | s => newline? s

/-- The header of a table, after its brackets. -/
def header (isItem : Bool) (d : Draft) (s : List Char) : Option (Draft × List Char) := do
  let ((parents, name), s) ← key s
  let s ← Text.after (if isItem then [']', ']'] else [']']) s
  let root ← if isItem then openItem parents name d.root else openTable parents name d.root
  return (⟨root, parents ++ [name]⟩, s)

/-- A key with its value, in the present table. -/
def entry (d : Draft) (s : List Char) : Option (Draft × List Char) := do
  let ((path, name), s) ← key s
  let s ← Text.after ['='] s
  let s := skipSpace s
  let (v, s) ← value (s.length + 1) (depthLimit - 1) s
  let root ← descend .header (assign path name v) d.path .header d.root
  return ({ d with root }, s)

/-- What stands on a line. -/
def line (d : Draft) (s : List Char) : Option (Draft × List Char) :=
  match skipSpace s with
  | '[' :: '[' :: r => header true d r
  | '[' :: r => header false d r
  | s =>
    match endLine s with
    | some _ => some (d, s)
    | none => entry d s

/-- The lines of a file. -/
def lines : (fuel : Nat) → Draft → List Char → Option Draft
  | 0, _, _ => none
  | _, d, [] => some d
  | fuel + 1, d, s => do
    let (d, s) ← line d s
    lines fuel d (← endLine s)

/-- The entries of a whole file. A mark of the byte order at its start does not count. -/
def read? (s : List Char) : Option Entries :=
  let s := match s with
    | '\uFEFF' :: r => r
    | s => s
  (lines (s.length + 1) {} s).map Draft.root

end VulnScan.Toml
