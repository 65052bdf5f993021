import VulnScan.Number.Literal

/-!
# Numbers in single precision

A severity score is a number of 32 bits. `Single` keeps the bits, so two scores are equal exactly
when they are the same number with the same sign; `toBinary` and `ofBinary` go to and from sign,
significand and exponent.
-/

set_option autoImplicit false

namespace VulnScan.Number

/-- A number in single precision, as its 32 bits. -/
structure Single where
  bits : UInt32
deriving DecidableEq, Inhabited

namespace Single

/-- The number the bits stand for. -/
def toBinary (x : Single) : Binary :=
  let n := x.bits.toNat
  let negative := n / 0x80000000 == 1
  let biased : Nat := n / 0x800000 % 256
  let fraction := n % 0x800000
  if biased = 255 then if fraction = 0 then .infinite negative else .nan
  else if biased = 0 then .finite negative fraction (-149)
  else .finite negative (0x800000 + fraction) ((biased : Int) - 150)

/-- The bits of a number of the single format. -/
def ofBinary : Binary → Single
  | .nan => ⟨0x7FC00000⟩
  | .infinite negative => ⟨if negative then 0xFF800000 else 0x7F800000⟩
  | .finite negative m e =>
    let sign := if negative then 0x80000000 else 0
    let low := if m < 0x800000 then m else (e + 150).toNat * 0x800000 + (m - 0x800000)
    ⟨UInt32.ofNat (sign + low)⟩

/-- The number nearest to what a literal stands for. -/
def ofNumeral : Numeral → Single
  | .natural n => ofBinary (Format.single.ofNat n)
  | .negative n => ofBinary (Format.single.round true n 1)
  | .real (.finite s m e) => ofBinary (Format.single.roundScaled s m e)
  | .real x => ofBinary x

/-- A score is written out from a millionth up to thirteen digits before the point. -/
def layout : Layout := ⟨-6, 12⟩

/-- The shortest literal of a finite number. -/
def literal? (x : Single) : Option Literal :=
  match x.toBinary with
  | .finite negative m e => some (layout.literal negative (shortest .single m e))
  | _ => none

/-- Whether the number is neither infinite nor undefined. -/
def isFinite (x : Single) : Bool :=
  match x.toBinary with
  | .finite _ _ _ => true
  | _ => false

end Single

end VulnScan.Number
