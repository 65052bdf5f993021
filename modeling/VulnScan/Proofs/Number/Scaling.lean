import VulnScan.Number.Literal
import VulnScan.Proofs.Number.Rounding

/-! # Scaling by a power of ten

The reader of numbers turns a significand and a decimal exponent into a number of double precision
with one multiplication or division by a rounded power of ten. The result is close to the exact
value (`scaleTen_near`). It is exact if the value is a number of double precision and the power of
ten is one, too (`scaleTen_exact`).
-/

set_option autoImplicit false

namespace VulnScan.Number

/-- The number is finite, not negative, and has the given value. -/
def Binary.Is (b : Binary) (x : ℚ) : Prop := ∃ m e, b = .finite false m e ∧ (m : ℚ) * 2 ^ e = x

/-! ## Rounded fractions -/

section

variable {num den : ℕ}

/-- Fractions of moderate size are rounded to double precision by a small part. -/
theorem double_near (hden : 0 < den) (hlow : 1 / 2 ^ 240 ≤ (num : ℚ) / den)
    (hhigh : (num : ℚ) / den ≤ 2 ^ 240) :
    ∃ y, (Format.double.round false num den).Is y ∧ |y - num / den| ≤ num / den / 2 ^ 53 := by
  have hnum : 0 < num := by
    refine Nat.pos_of_ne_zero ?_
    rintro rfl
    norm_num at hlow
  have hleast : (2 : ℚ) ^ (Format.double.least + (Format.double.precision - 1)) ≤ 1 / 2 ^ 240 := by
    rw [one_div, ← zpow_natCast, ← zpow_neg]
    exact zpow_le_zpow_right₀ one_le_two (by decide)
  have hgreatest :
      (2 : ℚ) ^ 240 < 2 ^ (Format.double.greatest + (Format.double.precision - 1)) := by
    rw [← zpow_natCast]
    exact zpow_lt_zpow_right₀ one_lt_two (by decide)
  obtain ⟨m, e, hround, hnear⟩ := round_near Format.double false hnum hden (by decide)
    (hleast.trans hlow) (hhigh.trans_lt hgreatest)
  exact ⟨_, ⟨m, e, hround, rfl⟩, hnear⟩

/-- Fractions that are numbers of double precision are kept. -/
theorem double_exact {m : ℕ} {e : ℤ} (hnum : 0 < num) (hden : 0 < den)
    (h : (num : ℚ) / den = m * 2 ^ e) (hm : m < 2 ^ 53) (hleast : -1074 ≤ e) (hgreatest : e ≤ 971) :
    (Format.double.round false num den).Is (num / den) := by
  obtain ⟨m', e', hround, hvalue⟩ :=
    round_exact Format.double false hnum hden h hm hleast hgreatest
  exact ⟨m', e', hround, hvalue⟩

end

/-! ## Operations -/

section

variable {b c : Binary} {x y : ℚ}

theorem scaled_ratio (m : ℕ) (e : ℤ) :
    ((m * Nat.pow 2 e.toNat : ℕ) : ℚ) / (Nat.pow 2 (-e).toNat : ℕ) = m * 2 ^ e := by
  rw [← zpow_toNat 2 e]
  simp only [Nat.pow_eq, Nat.cast_mul, Nat.cast_pow, Nat.cast_ofNat]
  ring

/-- A product is the rounded fraction. -/
theorem mul_eq_round (hb : b.Is x) (hc : c.Is y) :
    ∃ num den : ℕ, 0 < den ∧ (num : ℚ) / den = x * y ∧
      Format.double.mul b c = Format.double.round false num den := by
  obtain ⟨m, e, rfl, rfl⟩ := hb
  obtain ⟨n, g, rfl, rfl⟩ := hc
  refine ⟨m * n * Nat.pow 2 (e + g).toNat, Nat.pow 2 (-(e + g)).toNat, Nat.pow_pos (by decide), ?_,
    rfl⟩
  rw [scaled_ratio, zpow_add₀ two_ne_zero]
  push_cast
  ring

/-- A quotient is the rounded fraction. -/
theorem div_eq_round (hb : b.Is x) (hc : c.Is y) (hy : 0 < y) :
    ∃ num den : ℕ, 0 < den ∧ (num : ℚ) / den = x / y ∧
      Format.double.div b c = Format.double.round false num den := by
  obtain ⟨m, e, rfl, rfl⟩ := hb
  obtain ⟨n, g, rfl, rfl⟩ := hc
  have hn : 0 < n := by
    refine Nat.pos_of_ne_zero ?_
    rintro rfl
    simp at hy
  refine ⟨m * Nat.pow 2 (e - g).toNat, n * Nat.pow 2 (g - e).toNat,
    Nat.mul_pos hn (Nat.pow_pos (by decide)), ?_, rfl⟩
  have hratio := zpow_toNat 2 (e - g)
  rw [zpow_sub₀ two_ne_zero, neg_sub] at hratio
  simp only [Nat.pow_eq, Nat.cast_mul, Nat.cast_pow, Nat.cast_ofNat]
  rw [mul_div_mul_comm, hratio, mul_div_mul_comm]

end

/-! ## Scaling -/

/-- What is lost by two roundings at most. -/
abbrev slack : ℕ := 1025

section

variable {s : ℕ} {E : ℤ}

theorem scaleTen_eq (x : Binary) (h : E.natAbs ≤ greatestPower) :
    scaleTen x 4 E = if 0 ≤ E then
        match Format.double.mul x (Format.double.ofNat (Nat.pow 10 E.natAbs)) with
        | .infinite _ => none
        | y => some y
      else some (Format.double.div x (Format.double.ofNat (Nat.pow 10 E.natAbs))) := by
  show (if E.natAbs ≤ greatestPower then _ else _) = _
  refine (if_pos h).trans ?_
  cases Format.double.mul x (Format.double.ofNat (Nat.pow 10 E.natAbs)) <;> rfl

theorem ofNat_exact (hs : 0 < s) (hsize : s < 2 ^ 53) : (Format.double.ofNat s).Is s := by
  have := @double_exact s 1 s 0 hs one_pos (by simp) hsize (by decide) (by decide)
  simpa [Format.ofNat] using this

/-- Powers of ten are almost numbers of double precision. -/
theorem power_near {k : ℕ} (hk : k ≤ 55) : ∃ y, (Format.double.ofNat (Nat.pow 10 k)).Is y ∧
    |y - 10 ^ k| ≤ 10 ^ k / 2 ^ 53 := by
  have hlow : (1 : ℚ) ≤ 10 ^ k := one_le_pow₀ (by norm_num)
  have hhigh : (10 : ℚ) ^ k ≤ 10 ^ 55 := pow_le_pow_right₀ (by norm_num) hk
  have hvalue : ((Nat.pow 10 k : ℕ) : ℚ) / (1 : ℕ) = 10 ^ k := by simp
  obtain ⟨y, hy, hnear⟩ := @double_near (Nat.pow 10 k) 1 one_pos
    (by rw [hvalue]; norm_num at hlow ⊢; linarith) (by rw [hvalue]; norm_num at hhigh ⊢; linarith)
  rw [hvalue] at hnear
  exact ⟨y, hy, hnear⟩

/-- Small powers of ten are numbers of double precision. -/
theorem power_exact {k : ℕ} (hk : k ≤ 22) : (Format.double.ofNat (Nat.pow 10 k)).Is (10 ^ k) := by
  have hfive : 5 ^ k < 2 ^ 53 := (Nat.pow_le_pow_right (by decide) hk).trans_lt (by decide)
  have hvalue : ((Nat.pow 10 k : ℕ) : ℚ) / (1 : ℕ) = (5 ^ k : ℕ) * 2 ^ (k : ℤ) := by
    rw [zpow_natCast]
    push_cast [Nat.pow_eq]
    rw [← mul_pow]
    norm_num
  have := double_exact (Nat.pow_pos (by decide)) one_pos hvalue hfive (by omega) (by omega)
  simpa [Format.ofNat] using this

/-- Both ways of scaling are one rounding of a fraction, with the power of ten rounded before. -/
theorem scaleTen_eq_round {p : ℚ} (hs : 0 < s) (hsize : s < 2 ^ 53) (hE : E.natAbs ≤ 55)
    (hp : (Format.double.ofNat (Nat.pow 10 E.natAbs)).Is p) (hpos : 0 < p) :
    ∃ num den : ℕ, 0 < den ∧ (num : ℚ) / den = (if 0 ≤ E then s * p else s / p) ∧
      ∀ y, (Format.double.round false num den).Is y →
        scaleTen (Format.double.ofNat s) 4 E = some (Format.double.round false num den) := by
  rw [scaleTen_eq _ (hE.trans (by decide))]
  split
  · obtain ⟨num, den, hden, hvalue, hmul⟩ := mul_eq_round (ofNat_exact hs hsize) hp
    refine ⟨num, den, hden, hvalue, fun y ⟨m, e, hround, _⟩ => ?_⟩
    rw [hmul, hround]
  · obtain ⟨num, den, hden, hvalue, hdiv⟩ := div_eq_round (ofNat_exact hs hsize) hp hpos
    exact ⟨num, den, hden, hvalue, fun y _ => by rw [hdiv]⟩

/-- The rounding of the power of ten moves the fraction by a small part. -/
theorem fraction_near {p : ℚ} (h : |p - 10 ^ E.natAbs| ≤ 10 ^ E.natAbs / 2 ^ 53) :
    |(if 0 ≤ E then (s : ℚ) * p else s / p) - s * 10 ^ E|
      ≤ s * 10 ^ E * (1 / 2 ^ 53 + 1 / 2 ^ 100) := by
  have hs : (0 : ℚ) ≤ s := Nat.cast_nonneg s
  have ht : (0 : ℚ) < 10 ^ E.natAbs := by positivity
  rw [abs_le] at h
  split
  · next hE =>
    have hpow : (10 : ℚ) ^ E = 10 ^ E.natAbs := by
      rw [← zpow_natCast, Int.natAbs_of_nonneg hE]
    rw [hpow]
    generalize (10 : ℚ) ^ E.natAbs = t at h ht
    rw [abs_le]
    norm_num at h ⊢
    constructor <;> nlinarith
  · next hE =>
    have hpow : (10 : ℚ) ^ E = (10 ^ E.natAbs)⁻¹ := by
      rw [← zpow_natCast, ← zpow_neg]
      congr 1
      omega
    rw [hpow, ← div_eq_mul_inv]
    generalize (10 : ℚ) ^ E.natAbs = t at h ht
    norm_num at h
    have hp : 0 < p := by linarith
    have hz : (s : ℚ) / p - s / t = s / t * ((t - p) / p) := by field_simp
    have hpart : |(t - p) / p| ≤ 1 / 2 ^ 53 + 1 / 2 ^ 100 := by
      rw [abs_div, abs_of_pos hp, div_le_iff₀ hp, abs_le]
      norm_num
      constructor <;> linarith
    rw [hz, abs_mul, abs_of_nonneg (by positivity)]
    exact mul_le_mul_of_nonneg_left hpart (by positivity)

/-- The result is off by less than this part of `2 ^ 62`. -/
theorem scaleTen_near (hs : 0 < s) (hsize : s < 2 ^ 53) (hE : E.natAbs ≤ 55) :
    ∃ b y, scaleTen (Format.double.ofNat s) 4 E = some b ∧ b.Is y ∧
      |y - s * 10 ^ E| ≤ s * 10 ^ E * (slack / 2 ^ 62) := by
  obtain ⟨p, hp, hnear⟩ := power_near hE
  have hpos : 0 < p := by
    have : (0 : ℚ) < 10 ^ E.natAbs := by positivity
    rw [abs_le] at hnear
    norm_num at hnear
    linarith
  obtain ⟨num, den, hden, hvalue, hscale⟩ := scaleTen_eq_round hs hsize hE hp hpos
  have hfraction : |(num : ℚ) / den - s * 10 ^ E| ≤ s * 10 ^ E * (1 / 2 ^ 53 + 1 / 2 ^ 100) := by
    rw [hvalue]
    exact fraction_near hnear
  have hmoderate : 1 / 2 ^ 230 ≤ (s : ℚ) * 10 ^ E ∧ (s : ℚ) * 10 ^ E ≤ 2 ^ 238 := by
    have hone : (1 : ℚ) ≤ s := by exact_mod_cast hs
    have hmost : (s : ℚ) ≤ 2 ^ 53 := by exact_mod_cast hsize.le
    have hlow : (10 : ℚ) ^ (-55 : ℤ) ≤ 10 ^ E := zpow_le_zpow_right₀ (by norm_num) (by omega)
    have hhigh : (10 : ℚ) ^ E ≤ 10 ^ (55 : ℤ) := zpow_le_zpow_right₀ (by norm_num) (by omega)
    constructor
    · refine le_trans ?_ (mul_le_mul hone hlow (by positivity) (by positivity))
      norm_num
    · refine (mul_le_mul hmost hhigh (by positivity) (by positivity)).trans ?_
      norm_num
  rw [abs_le] at hfraction
  norm_num at hfraction hmoderate
  have hlow : 1 / 2 ^ 240 ≤ (num : ℚ) / den := by
    norm_num
    linarith
  have hhigh : (num : ℚ) / den ≤ 2 ^ 240 := by
    norm_num
    linarith
  obtain ⟨y, hy, hround⟩ := double_near hden hlow hhigh
  refine ⟨_, y, hscale y hy, hy, ?_⟩
  rw [abs_le] at hround ⊢
  norm_num at hround ⊢
  constructor <;> linarith

/-- Nothing is lost if the power of ten and the value are numbers of double precision. -/
theorem scaleTen_exact {m : ℕ} {e : ℤ} (hs : 0 < s) (hsize : s < 2 ^ 53) (hE : E.natAbs ≤ 22)
    (hvalue : (s : ℚ) * 10 ^ E = m * 2 ^ e) (hm : m < 2 ^ 53) (hleast : -1074 ≤ e)
    (hgreatest : e ≤ 971) :
    ∃ b, scaleTen (Format.double.ofNat s) 4 E = some b ∧ b.Is (s * 10 ^ E) := by
  obtain ⟨num, den, hden, hfraction, hscale⟩ :=
    scaleTen_eq_round hs hsize (hE.trans (by decide)) (power_exact hE) (by positivity)
  have hsame : (num : ℚ) / den = s * 10 ^ E := by
    rw [hfraction]
    split
    · next hpos => rw [← zpow_natCast, Int.natAbs_of_nonneg hpos]
    · next hneg =>
      rw [div_eq_mul_inv, ← zpow_natCast, ← zpow_neg]
      congr 2
      omega
  have hnum : 0 < num := by
    refine Nat.pos_of_ne_zero ?_
    rintro rfl
    have : (0 : ℚ) < s * 10 ^ E := mul_pos (by exact_mod_cast hs) (by positivity)
    rw [Nat.cast_zero, zero_div] at hsame
    linarith
  have hexact := double_exact hnum hden (hsame.trans hvalue) hm hleast hgreatest
  rw [hsame] at hexact
  exact ⟨_, hscale _ hexact, hexact⟩

end

end VulnScan.Number
