import VulnScan.Text.Blank
import VulnScan.Text.Utf8
import VulnScan.Time.Timestamp

/-!
# Reading timestamps

A timestamp is read as year, month, day, a separator (`T`, `t` or a space), hour, minute, second,
an optional fraction and an offset from universal time. Blanks may stand before every number,
colon and hyphen and before the offset. A year has four digits at most, or a sign and any number
of digits. The offset is `Z`, `UTC` or a sign with hours and minutes.

The text is read from left to right and the first fault counts; that a date exists and that its
offset is less than a day is noticed at the end.
-/

set_option autoImplicit false

namespace VulnScan.Time

/-- Why a text is not a timestamp. -/
inductive TimestampFault where
  | tooShort
  | unexpected
  | outOfRange
  | trailing
  | impossible
deriving DecidableEq

/-- The wording of a fault. -/
def TimestampFault.message : TimestampFault → String
  | .tooShort => "premature end of input"
  | .unexpected => "input contains invalid characters"
  | .outOfRange => "input is out of range"
  | .trailing => "trailing input"
  | .impossible => "no possible date and time matching input"

namespace Timestamp

/-- Reads at least one digit and at most `width`, if a width is given. -/
def number (width : Option Nat) (s : List Char) : Except TimestampFault (Nat × List Char) :=
  let run := s.takeWhile Text.isDigit
  let ds := match width with
    | some w => run.take w
    | none => run
  if s = [] then .error .tooShort
  else if ds = [] then .error .unexpected
  else
    let n := Text.value ds
    if n < 0x8000000000000000 then .ok (n, s.drop ds.length) else .error .outOfRange

/-- Reads a number of at most two digits between `low` and `high`, after blanks. -/
def field (low high : Nat) (s : List Char) : Except TimestampFault (Nat × List Char) := do
  let (n, r) ← number (some 2) (Text.trimLeft s)
  if low ≤ n ∧ n ≤ high then .ok (n, r) else .error .outOfRange

/-- Reads a year from `low` up to but not including `high`, after blanks. -/
def yearWithin (low high : Int) (s : List Char) : Except TimestampFault (Int × List Char) := do
  let (y, r) ← match Text.trimLeft s with
    | '-' :: r => do
      let (n, r) ← number none r
      pure (-(n : Int), r)
    | '+' :: r => do
      let (n, r) ← number none r
      pure ((n : Int), r)
    | s => do
      let (n, r) ← number (some 4) s
      pure ((n : Int), r)
  if low ≤ y ∧ y < high then .ok (y, r) else .error .outOfRange

/-- Reads a year of 32 bits. -/
def year (s : List Char) : Except TimestampFault (Int × List Char) :=
  yearWithin (-0x80000000) 0x80000000 s

/-- Reads the character `c`, after blanks. -/
def mark (c : Char) (s : List Char) : Except TimestampFault (Unit × List Char) :=
  match Text.trimLeft s with
  | [] => .error .tooShort
  | d :: r => if d = c then .ok ((), r) else .error .unexpected

/-- Reads a point and a fraction of a second, if there is a point; digits after the ninth are
dropped. -/
def fraction : (s : List Char) → Except TimestampFault (Nat × List Char)
  | '.' :: r => do
    let (n, rest) ← number (some 9) r
    let places := r.length - rest.length
    .ok (n * Nat.pow 10 (9 - places), rest.dropWhile Text.isDigit)
  | s => .ok (0, s)

/-- Two digits that stand for a number; the first one is at most `top`. -/
def pair (top : Char) : (s : List Char) → Except TimestampFault (Nat × List Char)
  | a :: b :: r =>
    if !(Text.isDigit a && Text.isDigit b) then .error .unexpected
    else if top < a then .error .outOfRange
    else .ok (Text.value [a, b], r)
  | _ => .error .tooShort

/-- Whether fewer than two octets are left. -/
def lacksPair (s : List Char) : Bool := Text.Utf8.size s < 2

/-- Reads two digits out of at least two octets. -/
def offsetPair (top : Char) (s : List Char) : Except TimestampFault (Nat × List Char) :=
  if lacksPair s then .error .tooShort
  else match s with
    | [_] => .error .unexpected
    | s => pair top s

/-- Reads the offset from universal time, in seconds. -/
def offset (s : List Char) : Except TimestampFault (Int × List Char) :=
  match s with
  | [] => .error .tooShort
  | c :: r =>
    if c = 'Z' ∨ c = 'z' then .ok (0, r)
    else if c = '+' ∨ c = '-' ∨ c = '−' then do
      let (hours, r) ← offsetPair '9' r
      let r := r.dropWhile fun c => c = ':' || Text.isBlank c
      let (minutes, r) ← offsetPair '5' r
      let seconds : Int := (hours * 3600 + minutes * 60 : Nat)
      .ok (if c = '+' then seconds else -seconds, r)
    else .error .unexpected

/-- Reads the offset from universal time; `UTC`, in any case, is one too. -/
def zone (s : List Char) : Except TimestampFault (Int × List Char) :=
  match s with
  | u :: t :: c :: r =>
    if [u, t, c].map Char.toUpper = ['U', 'T', 'C'] then .ok (0, r) else offset s
  | s => offset s

/-- The timestamp of a local date and time at an offset. -/
def atOffset (d : Date) (second nano : Nat) (offset : Int) : Except TimestampFault Timestamp :=
  if !d.isValid || d.year < firstYear || lastYear < d.year then .error .outOfRange
  else if (secondsPerDay : Int) ≤ offset.natAbs then .error .outOfRange
  else
    let total := (second : Int) - offset
    match of? (dayNumber d + total / secondsPerDay) (total % secondsPerDay).toNat nano with
    | some t => .ok t
    | none => .error .impossible

/-- Reads a timestamp; the whole text has to be used up, blanks at its end apart. -/
def read (s : List Char) : Except TimestampFault Timestamp := do
  let (y, s) ← year s
  let (_, s) ← mark '-' s
  let (m, s) ← field 1 12 s
  let (_, s) ← mark '-' s
  let (d, s) ← field 1 31 s
  let s ← match s with
    | [] => .error TimestampFault.tooShort
    | c :: r => if c = 't' ∨ c = 'T' ∨ c = ' ' then pure r else .error .unexpected
  let (hour, s) ← field 0 23 s
  let (_, s) ← mark ':' s
  let (minute, s) ← field 0 59 s
  let (_, s) ← mark ':' s
  let (second, s) ← field 0 60 s
  let (nano, s) ← fraction s
  let (offset, s) ← zone (Text.trimLeft s)
  if Text.trimLeft s ≠ [] then .error .trailing
  else
    let leap := if second = 60 then 1 else 0
    atOffset ⟨y, m, d⟩ (hour * 3600 + minute * 60 + (second - leap))
      (nano + leap * nanosPerSecond) offset

end Timestamp

end VulnScan.Time
