import VulnScan.Number.Shortest
import VulnScan.Number.Word

/-!
# Decimal literals

A `Literal` is a number as it is spelled: sign, whole digits, digits after the point, exponent.
Texts are read into literals, and a literal is turned into a number only when a number is asked
for. The reading of a literal is that of a fast reader: it keeps the first digits that fit into 64
bits, converts them and scales the result by one power of ten, so that a literal with a point or
an exponent costs at most two roundings. A literal beyond the range of double precision has no
value.

A binary number becomes a literal through its shortest decimal and a `Layout`, which says up to
where the digits are written out and from where an exponent is used.
-/

set_option autoImplicit false

namespace VulnScan.Number

/-- The spelling of a number; the digits after the point are empty if there is no point, and the
exponent is a sign with its digits. -/
structure Literal where
  negative : Bool
  whole : List Char
  fraction : List Char
  exponent : Option (Bool × List Char)
deriving DecidableEq, Inhabited

namespace Literal

/-- The literal of a natural. -/
def ofNat (n : Nat) : Literal := ⟨false, Text.digits n, [], none⟩

/-- The literal as a text. -/
def spell (l : Literal) : List Char :=
  (if l.negative then ['-'] else []) ++ l.whole
    ++ (if l.fraction = [] then [] else '.' :: l.fraction)
    ++ match l.exponent with
      | none => []
      | some (negative, ds) => 'e' :: (if negative then '-' else '+') :: ds

end Literal

/-- What a literal stands for: an integer of 64 bits, or a number in double precision. -/
inductive Numeral where
  | natural (n : Nat)
  | negative (n : Nat)
  | real (x : Binary)
deriving DecidableEq

/-- Appends digits to the significand `s` as long as it stays below `2 ^ 64`; returns it with the
digits that did not fit. -/
def absorb (s : Nat) : List Char → Nat × List Char
  | [] => (s, [])
  | c :: cs =>
    let next := 10 * s + Text.digitValue c
    if next < longWordBound then absorb next cs else (s, c :: cs)

/-- The powers of ten that double precision can hold. -/
def greatestPower : Nat := 308

/-- `x · 10 ^ e` in double precision, one scaling step at a time: a large negative exponent is
approached in steps of the greatest power. There is no result beyond the range. -/
def scaleTen (x : Binary) : (steps : Nat) → (e : Int) → Option Binary
  | 0, _ => some x
  | steps + 1, e =>
    let power := Format.double.ofNat (Nat.pow 10 e.natAbs)
    if e.natAbs ≤ greatestPower then
      if 0 ≤ e then
        match Format.double.mul x power with
        | .infinite _ => none
        | y => some y
      else some (Format.double.div x power)
    else match x with
      | .finite _ 0 _ => some x
      | _ =>
        if 0 ≤ e then none
        else scaleTen (Format.double.div x (Format.double.ofNat (Nat.pow 10 greatestPower))) steps
          (e + greatestPower)

/-- The sign of a number set to `negative`. -/
def Binary.withSign (negative : Bool) : Binary → Binary
  | .finite _ m e => .finite negative m e
  | .infinite _ => .infinite negative
  | .nan => .nan

/-- The number written by the significand `s`, scaled by `10 ^ e`. Three steps reach every
exponent for which the result is not zero. -/
def realOf (negative : Bool) (s : Nat) (e : Int) : Option Binary :=
  (scaleTen (Format.double.ofNat s) 4 e).map (Binary.withSign negative)

/-- The value of an exponent; one of more than 31 bits only says on which side of the range the
number lies. -/
def exponentValue (ds : List Char) : Option Nat :=
  let n := Text.value ds
  if n < 0x80000000 then some n else none

/-- Keeps an exponent within 32 bits. -/
def clampExponent (e : Int) : Int := max (-0x80000000) (min 0x7FFFFFFF e)

/-- What the literal stands for, unless it lies beyond the range. -/
def Literal.numeral? (l : Literal) : Option Numeral :=
  let (s, dropped) := absorb 0 l.whole
  match l.fraction, l.exponent, dropped with
  | [], none, [] =>
    if !l.negative then some (.natural s)
    else if 0 < s ∧ s ≤ 0x8000000000000000 then some (.negative s)
    else some (.real ((Format.double.ofNat s).withSign true))
  | fraction, exponent, dropped =>
    let (s, rest) := absorb s fraction
    let base : Int := dropped.length - (fraction.length - rest.length : Nat)
    match exponent with
    | none => (realOf l.negative s base).map .real
    | some (below, ds) =>
      match exponentValue ds with
      | some n =>
        (realOf l.negative s (clampExponent (if below then base - n else base + n))).map .real
      | none =>
        if s ≠ 0 ∧ !below then none else some (.real (.finite l.negative 0 Format.double.least))

/-- Where a number is written out: the least and the greatest exponent of its first digit for
which no exponent is written. -/
structure Layout where
  leastPlain : Int
  greatestPlain : Int

/-- The literal of `± d`, laid out; a number that is written out has at least one digit after the
point. -/
def Layout.literal (y : Layout) (negative : Bool) (d : Decimal) : Literal :=
  let ds := Text.digits d.digits
  let first := d.exponent + ds.length - 1
  if d.digits = 0 then ⟨negative, ['0'], ['0'], none⟩
  else if y.leastPlain ≤ first ∧ first ≤ y.greatestPlain then
    if 0 ≤ d.exponent then
      ⟨negative, ds ++ List.replicate d.exponent.toNat '0', ['0'], none⟩
    else if 0 ≤ first then
      ⟨negative, ds.take (first.toNat + 1), ds.drop (first.toNat + 1), none⟩
    else ⟨negative, ['0'], List.replicate (-first - 1).toNat '0' ++ ds, none⟩
  else
    ⟨negative, ds.take 1, ds.drop 1, some (first < 0, Text.digits first.natAbs)⟩

end VulnScan.Number
