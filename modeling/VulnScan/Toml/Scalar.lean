import VulnScan.Number.Binary
import VulnScan.Text.Hexadecimal
import VulnScan.Text.Numeral
import VulnScan.Text.Split
import VulnScan.Time.Calendar
import VulnScan.Toml.Node

/-! # Strings, numbers and dates in configuration files

Strings stand between double quotes, with escapes, or between single quotes, without; three quotes
of either kind enclose a string of several lines. Numbers may have underscores between their
digits. Every reader gives what the text starts with and the rest, if it starts with such a thing.
-/

set_option autoImplicit false

namespace VulnScan.Toml

/-- Whether a character is a blank within a line. -/
def isSpace (c : Char) : Bool := c = ' ' || c = '\t'

/-- Whether a character may stand in a comment, and in a string if it is not special there. -/
def isPlain (c : Char) : Bool := c = '\t' || (0x20 ≤ c.toNat && c.toNat ≠ 0x7F)

/-- The text after blanks. -/
def skipSpace (s : List Char) : List Char := s.dropWhile isSpace

/-- The text after the end of a line, if it starts with one. -/
def newline? : List Char → Option (List Char)
  | '\n' :: r => some r
  | '\r' :: '\n' :: r => some r
  | _ => none

/-! ## Strings -/

/-- The number written by exactly `n` hexadecimal digits. -/
def hexNumber (n : Nat) (s : List Char) : Option (Nat × List Char) := do
  let ds := s.take n
  if ds.length < n then none
  else
    let v ← ds.foldlM (fun v c => (Text.hexValue? c).map (16 * v + ·)) 0
    return (v, s.drop n)

/-- The character of a code point. -/
def ofCodePoint (n : Nat) : Option Char :=
  if n.isValidChar then some (Char.ofNat n) else none

/-- The character of an escape, after the backslash. -/
def escape : List Char → Option (Char × List Char)
  | 'b' :: r => some ('\x08', r)
  | 't' :: r => some ('\t', r)
  | 'n' :: r => some ('\n', r)
  | 'f' :: r => some ('\x0c', r)
  | 'r' :: r => some ('\r', r)
  | '"' :: r => some ('"', r)
  | '\\' :: r => some ('\\', r)
  | 'u' :: r => do
    let (n, r) ← hexNumber 4 r
    return (← ofCodePoint n, r)
  | 'U' :: r => do
    let (n, r) ← hexNumber 8 r
    return (← ofCodePoint n, r)
  | _ => none

/-- A string of one line, after its opening double quote. -/
def basicLine : (fuel : Nat) → List Char → Option (List Char × List Char)
  | 0, _ | _, [] => none
  | _ + 1, '"' :: r => some ([], r)
  | fuel + 1, '\\' :: r => do
    let (c, r) ← escape r
    let (cs, r) ← basicLine fuel r
    return (c :: cs, r)
  | fuel + 1, c :: r =>
    if isPlain c then do
      let (cs, r) ← basicLine fuel r
      return (c :: cs, r)
    else none

/-- A string of one line without escapes, after its opening single quote. -/
def literalLine : List Char → Option (List Char × List Char)
  | [] => none
  | '\'' :: r => some ([], r)
  | c :: r =>
    if isPlain c then (literalLine r).map fun p => (c :: p.1, p.2) else none

/-- The rest after a backslash at the end of a line: all blanks and ends of lines are skipped, and
there has to be an end of a line after the first blanks. -/
def skipLines (fuel : Nat) (s : List Char) : Option (List Char) :=
  (newline? (skipSpace s)).map (skipAll fuel)
where
  /-- Skips blanks and ends of lines. -/
  skipAll : Nat → List Char → List Char
    | 0, s => s
    | fuel + 1, s =>
      match newline? (skipSpace s) with
      | some r => skipAll fuel r
      | none => skipSpace s

/-- What a run of `n` quotes means within a string that three quotes close: whether it closes the
string, how many quotes belong to the string, and how many are left. -/
def quoteRun (n : Nat) : Bool × Nat × Nat :=
  if n < 3 then (false, n, 0)
  else
    let inner := min (n - 3) 2
    (true, inner, n - 3 - inner)

/-- A string of several lines, after its opening quotes `q`. Only double quotes allow escapes. -/
def manyLines (q : Char) : (fuel : Nat) → List Char → Option (List Char × List Char)
  | 0, _ | _, [] => none
  | fuel + 1, c :: r =>
    if c = q then
      let run := (c :: r).takeWhile (· == q)
      let rest := (c :: r).dropWhile (· == q)
      let (closes, inner, left) := quoteRun run.length
      let quotes := List.replicate inner q
      if closes then some (quotes, List.replicate left q ++ rest)
      else (manyLines q fuel rest).map fun p => (quotes ++ p.1, p.2)
    else if c = '\\' ∧ q = '"' then
      match skipLines fuel r with
      | some r => manyLines q fuel r
      | none => do
        let (e, r) ← escape r
        let (cs, r) ← manyLines q fuel r
        return (e :: cs, r)
    else
      match newline? (c :: r) with
      | some r => (manyLines q fuel r).map fun p => ('\n' :: p.1, p.2)
      | none =>
        if isPlain c then (manyLines q fuel r).map fun p => (c :: p.1, p.2) else none

/-- A string of several lines; an end of a line right after the quotes does not count. -/
def manyLinesFrom (q : Char) (s : List Char) : Option (List Char × List Char) :=
  let s := (newline? s).getD s
  manyLines q (s.length + 1) s

/-- A string of any kind. -/
def string : List Char → Option (String × List Char)
  | '"' :: '"' :: '"' :: r => (manyLinesFrom '"' r).map fun p => (String.ofList p.1, p.2)
  | '\'' :: '\'' :: '\'' :: r => (manyLinesFrom '\'' r).map fun p => (String.ofList p.1, p.2)
  | '"' :: r => (basicLine (r.length + 1) r).map fun p => (String.ofList p.1, p.2)
  | '\'' :: r => (literalLine r).map fun p => (String.ofList p.1, p.2)
  | _ => none

/-! ## Numbers -/

/-- More digits; an underscore has to stand before a digit. -/
def moreDigits (isDigit : Char → Bool) : List Char → Option (List Char × List Char)
  | '_' :: c :: r =>
    if isDigit c then (moreDigits isDigit r).map fun p => (c :: p.1, p.2) else none
  | ['_'] => none
  | c :: r =>
    if isDigit c then (moreDigits isDigit r).map fun p => (c :: p.1, p.2) else some ([], c :: r)
  | [] => some ([], [])

/-- At least one digit. -/
def someDigits (isDigit : Char → Bool) : List Char → Option (List Char × List Char)
  | c :: r =>
    if isDigit c then (moreDigits isDigit r).map fun p => (c :: p.1, p.2) else none
  | [] => none

/-- Digits that start with a zero only if there are no more. -/
def wholeDigits : List Char → Option (List Char × List Char)
  | '0' :: r => some (['0'], r)
  | s => someDigits Text.isDigit s

/-- An integer of 64 bits. -/
def integer64 (negative : Bool) (n : Nat) : Option Node :=
  let i : Int := if negative then -n else n
  if -0x8000000000000000 ≤ i ∧ i < 0x8000000000000000 then some (.integer i) else none

/-- An integer in another base than ten, after its mark. -/
def based (base : Nat) (s : List Char) : Option (Node × List Char) := do
  let isDigit (c : Char) := (Text.hexValue? c).any (· < base)
  let (ds, r) ← someDigits isDigit s
  let n := ds.foldl (fun n c => base * n + (Text.hexValue? c).getD 0) 0
  return (← integer64 false n, r)

/-- Whether the number with digits `ds` and a power of ten is beyond double precision. -/
def isTooLarge (ds : List Char) (power : Int) : Bool :=
  let m := Text.value ds
  let magnitude : Int := (Text.digits m).length + power
  if m = 0 ∨ magnitude < 300 then false
  else if 310 < magnitude then true
  else Number.Format.double.round false (m * Nat.pow 10 power.toNat) (Nat.pow 10 (-power).toNat)
    == .infinite false

/-- A number with a fraction or an exponent, if it is in the range of double precision; only a
negative one may be beyond. -/
def float (negative : Bool) (whole fraction : List Char) (power : Int) : Option Node :=
  if !negative && isTooLarge (whole ++ fraction) (power - fraction.length) then none
  else some .float

/-- The exponent of a number, after its letter. -/
def exponent (s : List Char) : Option (Int × List Char) := do
  let (negative, s) := match s with
    | '-' :: r => (true, r)
    | '+' :: r => (false, r)
    | s => (false, s)
  let (ds, r) ← someDigits Text.isDigit s
  let n : Int := Text.value ds
  return (if negative then -n else n, r)

/-- A decimal number after its sign. -/
def decimal (negative : Bool) (s : List Char) : Option (Node × List Char) := do
  let (whole, s) ← wholeDigits s
  match s with
  | '.' :: r =>
    let (fraction, s) ← someDigits Text.isDigit r
    let (power, s) ← match s with
      | 'e' :: r | 'E' :: r => exponent r
      | s => some (0, s)
    return (← float negative whole fraction power, s)
  | 'e' :: r | 'E' :: r =>
    let (power, s) ← exponent r
    return (← float negative whole [] power, s)
  | s => return (← integer64 negative (Text.value whole), s)

/-- A number after its sign. -/
def unsigned (negative : Bool) (s : List Char) : Option (Node × List Char) :=
  match Text.after ['i', 'n', 'f'] s, Text.after ['n', 'a', 'n'] s with
  | some r, _ | none, some r => some (.float, r)
  | none, none => decimal negative s

/-! ## Dates -/

/-- The number written by exactly `n` digits. -/
def fixedDigits (n : Nat) (s : List Char) : Option (Nat × List Char) :=
  let ds := s.take n
  if ds.length = n ∧ ds.all Text.isDigit then some (Text.value ds, s.drop n) else none

/-- The time of a day, with seconds and perhaps a fraction. -/
def clockTime (s : List Char) : Option (List Char) := do
  let (hour, s) ← fixedDigits 2 s
  let s ← Text.after [':'] s
  let (minute, s) ← fixedDigits 2 s
  let s ← Text.after [':'] s
  let (second, s) ← fixedDigits 2 s
  if 24 ≤ hour ∨ 60 ≤ minute ∨ 60 < second then none
  else
    match s with
    | '.' :: c :: r => if Text.isDigit c then some (r.dropWhile Text.isDigit) else some s
    | s => some s

/-- The offset of a time from universal time. -/
def offset (s : List Char) : Option (List Char) := do
  match s with
  | 'Z' :: r | 'z' :: r => some r
  | '+' :: r | '-' :: r =>
    let (hour, s) ← fixedDigits 2 r
    let s ← Text.after [':'] s
    let (minute, s) ← fixedDigits 2 s
    if 24 ≤ hour ∨ 60 ≤ minute then none else some s
  | _ => none

/-- A day of a calendar. -/
def calendarDay (s : List Char) : Option (List Char) := do
  let (year, s) ← fixedDigits 4 s
  let s ← Text.after ['-'] s
  let (month, s) ← fixedDigits 2 s
  let s ← Text.after ['-'] s
  let (day, s) ← fixedDigits 2 s
  if 1 ≤ month ∧ month ≤ 12 ∧ 1 ≤ day ∧ day ≤ Time.monthLength year month then some s else none

/-- A day, perhaps with a time and its offset, or a time alone. -/
def date (s : List Char) : Option (Node × List Char) :=
  match calendarDay s with
  | some rest =>
    let timed := match rest with
      | 'T' :: r | 't' :: r | ' ' :: r => clockTime r
      | _ => none
    some (.date, match timed with
      | some r => (offset r).getD r
      | none => rest)
  | none => (clockTime s).map fun r => (.date, r)

/-- A number or a date. -/
def number (s : List Char) : Option (Node × List Char) :=
  (date s).or <|
    match s with
    | '+' :: r => unsigned false r
    | '-' :: r => unsigned true r
    | '0' :: 'x' :: r => based 16 r
    | '0' :: 'o' :: r => based 8 r
    | '0' :: 'b' :: r => based 2 r
    | s => unsigned false s

end VulnScan.Toml
