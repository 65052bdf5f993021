import VulnScan.Number.Binary
import VulnScan.Text.Numeral

/-!
# The shortest decimal of a binary number

A finite number is written with the fewest decimal digits that are read back as the same number,
and among the decimals of that length with the one nearest to it. A decimal is read back as the
number exactly when it lies in the rounding interval: halfway to the neighbour below, halfway to
the neighbour above, the ends themselves if the significand is even.

`shortest` looks for the coarsest decimal grid on which one of the two grid points around the
number lies in that interval.
-/

set_option autoImplicit false

namespace VulnScan.Number

/-- The decimal `digits · 10 ^ exponent`. -/
structure Decimal where
  digits : Nat
  exponent : Int
deriving DecidableEq, Inhabited

/-- `d · 10 ^ k` and `u · 2 ^ e`, both multiplied by the least factor that makes them naturals
whatever the signs of the exponents. -/
def commonUnit (d : Nat) (k : Int) (u : Nat) (e : Int) : Nat × Nat :=
  (d * Nat.pow 10 k.toNat * Nat.pow 2 (-e).toNat,
    u * Nat.pow 10 (-k).toNat * Nat.pow 2 e.toNat)

/-- Whether `d · 10 ^ k` is read back as `m · 2 ^ e`. The gap below a power of two is half the
gap above it, unless the unit cannot get smaller. -/
def readsBack (f : Format) (m : Nat) (e : Int) (d : Nat) (k : Int) : Bool :=
  let low := if m = Nat.pow 2 (f.precision - 1) ∧ f.least < e then 4 * m - 1 else 4 * m - 2
  let atLow := commonUnit d k low (e - 2)
  let atHigh := commonUnit d k (4 * m + 2) (e - 2)
  if m % 2 = 0 then atLow.2 ≤ atLow.1 && atHigh.1 ≤ atHigh.2
  else atLow.2 < atLow.1 && atHigh.1 < atHigh.2

/-- How many steps of `10 ^ k` fit into `m · 2 ^ e`. -/
def gridFloor (m : Nat) (e k : Int) : Nat :=
  (m * Nat.pow 2 e.toNat * Nat.pow 10 (-k).toNat)
    / (Nat.pow 2 (-e).toNat * Nat.pow 10 k.toNat)

/-- The grid point of `10 ^ k` that is read back as `m · 2 ^ e`, if one is; of two the nearer one,
and on a tie the even one. -/
def onGrid? (f : Format) (m : Nat) (e k : Int) : Option Decimal :=
  let d := gridFloor m e k
  let below := d != 0 && readsBack f m e d k
  let above := readsBack f m e (d + 1) k
  let (middle, v) := commonUnit (2 * d + 1) k (2 * m) e
  match below, above with
  | true, true =>
    if v < middle ∨ (v = middle ∧ d % 2 = 0) then some ⟨d, k⟩ else some ⟨d + 1, k⟩
  | true, false => some ⟨d, k⟩
  | false, true => some ⟨d + 1, k⟩
  | false, false => none

/-- An exponent `k` with `m · 2 ^ e ≤ 10 ^ k`. -/
def topExponent (m : Nat) (e : Int) : Int :=
  let num := m * Nat.pow 2 e.toNat
  let den := Nat.pow 2 (-e).toNat
  if den ≤ num then (Text.digits (num / den)).length
  else 1 - ((Text.digits (den / num)).length : Int)

/-- The first hit on the grids `10 ^ k`, `10 ^ (k - 1)`, … ; `steps` of them are tried. -/
def searchGrids (f : Format) (m : Nat) (e : Int) : (steps : Nat) → (k : Int) → Decimal
  | 0, k => ⟨gridFloor m e k, k⟩
  | steps + 1, k => (onGrid? f m e k).getD (searchGrids f m e steps (k - 1))

/-- The shortest decimal that is read back as `m · 2 ^ e`. Any binary number of at most 53 bits
is found on one of the first 19 grids. -/
def shortest (f : Format) (m : Nat) (e : Int) : Decimal :=
  if m = 0 then ⟨0, 0⟩ else searchGrids f m e 19 (topExponent m e)

/-! ## Examples -/

example : shortest .single 10276045 (-20) = ⟨98, -1⟩ := by decide +kernel
example : shortest .double 5404319552844595 (-54) = ⟨3, -1⟩ := by decide +kernel
example : shortest .double 1 (-1074) = ⟨5, -324⟩ := by decide +kernel

end VulnScan.Number
