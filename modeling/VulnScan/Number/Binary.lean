/-!
# Binary floating-point numbers

Scores are kept in single precision and delays are computed in double precision. Both are
described by one `Format`, and a number is a sign, a significand and the exponent of its unit.
Every operation computes the exact result as a fraction of naturals and rounds it once, to the
nearest number of the format; a tie goes to the even significand. Nothing else about the
arithmetic is left open, so all of it can be evaluated and reasoned about.
-/

set_option autoImplicit false

namespace VulnScan.Number

/-- A binary format: significands are below `2 ^ precision`, and units range from `2 ^ least` to
`2 ^ greatest`. -/
structure Format where
  precision : Nat
  least : Int
  greatest : Int

/-- The format of 32 bits. -/
def Format.single : Format := ⟨24, -149, 104⟩

/-- The format of 64 bits. -/
def Format.double : Format := ⟨53, -1074, 971⟩

/-- A floating-point number; a finite one is `± significand · 2 ^ exponent`. -/
inductive Binary where
  | nan
  | infinite (negative : Bool)
  | finite (negative : Bool) (significand : Nat) (exponent : Int)
deriving DecidableEq, Inhabited

/-- The natural nearest to `num / den`; a tie goes to the even one. -/
def roundDiv (num den : Nat) : Nat :=
  let q := num / den
  let r := num % den
  if 2 * r < den then q else if den < 2 * r then q + 1 else q + q % 2

/-- The fraction `num / den` divided by `2 ^ e`, as a numerator and a denominator. -/
def scaleDown (num den : Nat) (e : Int) : Nat × Nat :=
  (num * Nat.pow 2 (-e).toNat, den * Nat.pow 2 e.toNat)

namespace Format

/-- The exponent of the unit in which `num / den` has exactly `precision` bits. -/
def unitOf (f : Format) (num den : Nat) : Int :=
  let gap : Int := (Nat.log2 num : Int) - Nat.log2 den
  let s := scaleDown num den gap
  let top := if s.2 ≤ s.1 then gap else gap - 1
  top - (f.precision - 1)

/-- The number of the format nearest to `± num / den`; too large a one becomes infinite. -/
def round (f : Format) (negative : Bool) (num den : Nat) : Binary :=
  if num = 0 then .finite negative 0 f.least
  else
    let e := max f.least (f.unitOf num den)
    let s := scaleDown num den e
    let q := roundDiv s.1 s.2
    let (q, e) := if q = Nat.pow 2 f.precision then (Nat.pow 2 (f.precision - 1), e + 1) else (q, e)
    if f.greatest < e then .infinite negative else .finite negative q e

/-- The number of the format nearest to `± m · 2 ^ e`. -/
def roundScaled (f : Format) (negative : Bool) (m : Nat) (e : Int) : Binary :=
  f.round negative (m * Nat.pow 2 e.toNat) (Nat.pow 2 (-e).toNat)

/-- The number of the format nearest to a natural. -/
def ofNat (f : Format) (n : Nat) : Binary := f.round false n 1

/-- The product, rounded. -/
def mul (f : Format) : Binary → Binary → Binary
  | .nan, _ | _, .nan => .nan
  | .infinite s, .infinite t => .infinite (s != t)
  | .infinite s, .finite t m _ | .finite t m _, .infinite s =>
    if m = 0 then .nan else .infinite (s != t)
  | .finite s m e, .finite t n g => f.roundScaled (s != t) (m * n) (e + g)

/-- The quotient of a number by a finite number other than zero, rounded. -/
def div (f : Format) : Binary → Binary → Binary
  | .finite s m e, .finite t n g =>
    f.round (s != t) (m * Nat.pow 2 (e - g).toNat) (n * Nat.pow 2 (g - e).toNat)
  | .infinite s, .finite t _ _ => .infinite (s != t)
  | _, _ => .nan

/-- The sum of two finite numbers that are not negative, rounded. -/
def addMagnitudes (f : Format) : Binary → Binary → Binary
  | .finite _ m e, .finite _ n g =>
    let low := min e g
    f.roundScaled false (m * Nat.pow 2 (e - low).toNat + n * Nat.pow 2 (g - low).toNat) low
  | .infinite s, _ | _, .infinite s => .infinite s
  | _, _ => .nan

/-- The product of `n` factors `x`, by repeated squaring from the lowest bit of `n` upward. -/
def powFrom (f : Format) (acc x : Binary) (n : Nat) : Binary :=
  let acc := if n % 2 = 1 then f.mul acc x else acc
  if h : n / 2 = 0 then acc else f.powFrom acc (f.mul x x) (n / 2)
termination_by n
decreasing_by omega

/-- `x` to the power `n`. -/
def pow (f : Format) (x : Binary) (n : Nat) : Binary := f.powFrom (f.ofNat 1) x n

end Format

namespace Binary

/-- Whether `x < y`; never when one of them is not a number. -/
def lt : Binary → Binary → Bool
  | .nan, _ | _, .nan => false
  | .infinite s, .infinite t => s && !t
  | .infinite s, .finite _ _ _ => s
  | .finite _ _ _, .infinite t => !t
  | .finite s m e, .finite t n g =>
    let low := min e g
    let a : Int := (m * Nat.pow 2 (e - low).toNat : Nat)
    let b : Int := (n * Nat.pow 2 (g - low).toNat : Nat)
    (if s then -a else a) < (if t then -b else b)

/-- The larger of two numbers; one that is not a number loses. -/
def maximum (x y : Binary) : Binary :=
  if x = .nan then y else if y = .nan then x else if x.lt y then y else x

/-- The smaller of two numbers; one that is not a number loses. -/
def minimum (x y : Binary) : Binary :=
  if x = .nan then y else if y = .nan then x else if y.lt x then y else x

end Binary

/-! ## Small facts -/

/-- Rounding to the nearest natural is off by at most one half. -/
theorem roundDiv_near (num den : Nat) (h : 0 < den) :
    2 * num ≤ 2 * (roundDiv num den) * den + den ∧
      2 * (roundDiv num den) * den ≤ 2 * num + den := by
  have hd : den * (num / den) + num % den = num := Nat.div_add_mod num den
  have hr : num % den < den := Nat.mod_lt _ h
  have hc : num / den * den = den * (num / den) := Nat.mul_comm _ _
  simp only [roundDiv]
  split
  · constructor <;> (rw [Nat.mul_assoc, hc]; omega)
  · split
    · constructor <;> (rw [Nat.mul_assoc, Nat.add_mul, hc]; omega)
    · next h1 h2 =>
      have ht : 2 * (num % den) = den := by omega
      have hq : num / den % 2 = 0 ∨ num / den % 2 = 1 := by omega
      rcases hq with hq | hq <;> rw [hq] <;>
        constructor <;> (rw [Nat.mul_assoc, Nat.add_mul, hc]; omega)

end VulnScan.Number
