import Mathlib.Algebra.Order.Field.Power
import Mathlib.Data.Rat.Cast.Order
import Mathlib.Tactic.FieldSimp
import Mathlib.Tactic.Linarith
import Mathlib.Tactic.NormNum
import Mathlib.Tactic.Positivity
import Mathlib.Tactic.Ring
import VulnScan.Number.Binary

/-! # Rounding to a binary format

`Format.round` gives the number of the format that is nearest to a fraction. The unit of a fraction
is the one in which it has just as many bits as the format (`unitOf_spec`). From this follow the
three facts that the reading of decimals rests on: a fraction within half a unit of a number is
rounded to it (`round_eq`), rounding is off by a small part of the fraction (`round_near`), and a
number of the format stays as it is (`round_exact`).
-/

set_option autoImplicit false

namespace VulnScan.Number

/-! ## Powers -/

theorem zpow_toNat (b : ℚ) (e : ℤ) : b ^ e.toNat / b ^ (-e).toNat = b ^ e := by
  rcases le_total 0 e with he | he
  · obtain ⟨n, rfl⟩ := Int.eq_ofNat_of_zero_le he
    simp
  · obtain ⟨n, hn⟩ := Int.eq_ofNat_of_zero_le (neg_nonneg.2 he)
    have he : e = -(n : ℤ) := by omega
    subst he
    simp [zpow_neg]

theorem scaleDown_den_pos {num den : ℕ} (hden : 0 < den) (e : ℤ) : 0 < (scaleDown num den e).2 :=
  Nat.mul_pos hden (Nat.pow_pos (by decide))

/-- A fraction counted in units of `2 ^ e`. -/
theorem scaleDown_ratio {num den : ℕ} (e : ℤ) :
    ((scaleDown num den e).1 : ℚ) / (scaleDown num den e).2 = num / den / 2 ^ e := by
  rw [← zpow_toNat 2 e]
  simp only [scaleDown, Nat.pow_eq, Nat.cast_mul, Nat.cast_pow, Nat.cast_ofNat]
  field_simp

/-! ## Rounding to naturals -/

/-- Rounding is off by at most one half. -/
theorem roundDiv_le_half {num den : ℕ} (hden : 0 < den) :
    |(roundDiv num den : ℚ) - num / den| ≤ 1 / 2 := by
  obtain ⟨hlow, hhigh⟩ := roundDiv_near num den hden
  have hd : (0 : ℚ) < den := by exact_mod_cast hden
  have hlow' : (2 : ℚ) * num ≤ 2 * roundDiv num den * den + den := by exact_mod_cast hlow
  have hhigh' : (2 : ℚ) * roundDiv num den * den ≤ 2 * num + den := by exact_mod_cast hhigh
  rw [abs_le]
  constructor
  · rw [neg_le_sub_iff_le_add, div_le_iff₀ hd]
    linarith
  · rw [sub_le_iff_le_add, ← sub_le_iff_le_add', le_div_iff₀ hd]
    linarith

/-- A fraction halfway between two naturals is rounded to the even one. -/
theorem roundDiv_even {num den k : ℕ} (hden : 0 < den) (h : 2 * num = (2 * k + 1) * den) :
    roundDiv num den % 2 = 0 := by
  have hdiv : num / den = k := by
    refine Nat.div_eq_of_lt_le ?_ ?_ <;> nlinarith
  have hmod : 2 * (num % den) = den := by
    have hsum := Nat.div_add_mod num den
    rw [hdiv] at hsum
    nlinarith
  simp only [roundDiv, hdiv, hmod, lt_irrefl, if_false]
  omega

/-- The natural within less than one half of a fraction is what the fraction is rounded to, and so
is an even one at a distance of one half. -/
theorem roundDiv_eq {num den q : ℕ} (hden : 0 < den)
    (h : |(num : ℚ) / den - q| < 1 / 2 ∨ |(num : ℚ) / den - q| = 1 / 2 ∧ q % 2 = 0) :
    roundDiv num den = q := by
  have hd : (0 : ℚ) < den := by exact_mod_cast hden
  have hclose : |(roundDiv num den : ℚ) - q| ≤ 1 / 2 + |(num : ℚ) / den - q| :=
    (abs_sub_le _ _ _).trans (add_le_add_left (roundDiv_le_half hden) _)
  rcases h with hless | ⟨htie, hq⟩
  · have hone : |(roundDiv num den : ℤ) - q| < 1 := by
      have : |(roundDiv num den : ℚ) - q| < 1 := by linarith
      exact_mod_cast this
    have := Int.abs_lt_one_iff.1 hone
    omega
  · have hone : |(roundDiv num den : ℤ) - q| ≤ 1 := by
      have : |(roundDiv num den : ℚ) - q| ≤ 1 := by linarith
      exact_mod_cast this
    -- both are even, so a distance of at most one is none
    have heven : roundDiv num den % 2 = 0 := by
      rcases abs_eq (by norm_num) |>.1 htie with h | h
      · refine roundDiv_even (k := q) hden ?_
        have : (2 : ℚ) * num = (2 * q + 1) * den := by
          field_simp at h
          linarith
        exact_mod_cast this
      · have hpos : 0 < q := by
          refine Nat.pos_of_ne_zero ?_
          rintro rfl
          have : (0 : ℚ) ≤ num / den := by positivity
          rw [Nat.cast_zero, sub_zero] at h
          linarith
        refine roundDiv_even (k := q - 1) hden ?_
        have : (2 : ℚ) * num = (2 * ((q - 1 : ℕ) : ℚ) + 1) * den := by
          rw [Nat.cast_sub hpos]
          field_simp at h
          push_cast
          linarith
        exact_mod_cast this
    rw [abs_le] at hone
    omega

/-! ## Units -/

section

variable {f : Format} {num den : ℕ}

/-- The logarithms tell a fraction up to a factor of two to either side. -/
theorem log2_bounds (hnum : 0 < num) (hden : 0 < den) :
    (2 : ℚ) ^ ((Nat.log2 num : ℤ) - Nat.log2 den - 1) ≤ (num : ℚ) / den ∧
      (num : ℚ) / den < (2 : ℚ) ^ ((Nat.log2 num : ℤ) - Nat.log2 den + 1) := by
  have hd : (0 : ℚ) < den := by exact_mod_cast hden
  have hlow : (2 : ℚ) ^ Nat.log2 num ≤ num := by exact_mod_cast Nat.log2_self_le hnum.ne'
  have hhigh : (num : ℚ) < 2 ^ (Nat.log2 num + 1) := by exact_mod_cast Nat.lt_log2_self
  have hlow' : (2 : ℚ) ^ Nat.log2 den ≤ den := by exact_mod_cast Nat.log2_self_le hden.ne'
  have hhigh' : (den : ℚ) < 2 ^ (Nat.log2 den + 1) := by exact_mod_cast Nat.lt_log2_self
  constructor
  · rw [sub_sub, zpow_sub₀ two_ne_zero, zpow_natCast, le_div_iff₀ hd]
    refine le_trans ?_ hlow
    rw [div_mul_eq_mul_div, div_le_iff₀ (by positivity)]
    refine mul_le_mul_of_nonneg_left ?_ (by positivity)
    exact_mod_cast hhigh'.le
  · rw [sub_add_eq_add_sub, zpow_sub₀ two_ne_zero, zpow_natCast, div_lt_div_iff₀ hd (by positivity)]
    refine lt_of_lt_of_le ?_ (mul_le_mul_of_nonneg_left hlow' (by positivity))
    refine mul_lt_mul_of_pos_right ?_ (by positivity)
    exact_mod_cast hhigh

/-- In its unit a fraction has just as many bits as the format. -/
theorem unitOf_spec (f : Format) (hnum : 0 < num) (hden : 0 < den) :
    (2 : ℚ) ^ (f.unitOf num den + (f.precision - 1)) ≤ (num : ℚ) / den ∧
      (num : ℚ) / den < (2 : ℚ) ^ (f.unitOf num den + f.precision) := by
  obtain ⟨hlow, hhigh⟩ := log2_bounds hnum hden
  set gap : ℤ := (Nat.log2 num : ℤ) - Nat.log2 den with hgap
  have hratio := @scaleDown_ratio num den gap
  have hs : (0 : ℚ) < (scaleDown num den gap).2 := by exact_mod_cast scaleDown_den_pos hden gap
  have hp : (0 : ℚ) < 2 ^ gap := by positivity
  have hunit : f.unitOf num den = (if (scaleDown num den gap).2 ≤ (scaleDown num den gap).1 then gap
      else gap - 1) - (f.precision - 1) := rfl
  rw [hunit]
  split
  · next hle =>
    have hone : (1 : ℚ) ≤ num / den / 2 ^ gap := by
      rw [← hratio, le_div_iff₀ hs, one_mul]
      exact_mod_cast hle
    rw [le_div_iff₀ hp, one_mul] at hone
    refine ⟨?_, ?_⟩
    · rwa [sub_add_cancel]
    · rwa [show gap - ((f.precision : ℤ) - 1) + f.precision = gap + 1 by omega]
  · next hlt =>
    have hone : (num : ℚ) / den / 2 ^ gap < 1 := by
      rw [← hratio, div_lt_one hs]
      exact_mod_cast not_le.1 hlt
    rw [div_lt_one hp] at hone
    refine ⟨?_, ?_⟩
    · rwa [sub_add_cancel]
    · rwa [show gap - 1 - ((f.precision : ℤ) - 1) + f.precision = gap by omega]

/-! ## Rounding to the format -/

theorem round_of_lt {f : Format} {negative : Bool} {q : ℕ} {e : ℤ} (hnum : 0 < num)
    (he : max f.least (f.unitOf num den) = e)
    (hq : roundDiv (scaleDown num den e).1 (scaleDown num den e).2 = q)
    (hlt : q < 2 ^ f.precision) (hle : e ≤ f.greatest) :
    f.round negative num den = .finite negative q e := by
  simp only [Format.round, hnum.ne', if_false, he, hq, Nat.pow_eq, hlt.ne, not_lt.2 hle]

theorem round_of_carry {f : Format} {negative : Bool} {e : ℤ} (hnum : 0 < num)
    (he : max f.least (f.unitOf num den) = e)
    (hq : roundDiv (scaleDown num den e).1 (scaleDown num den e).2 = 2 ^ f.precision)
    (hlt : e < f.greatest) :
    f.round negative num den = .finite negative (2 ^ (f.precision - 1)) (e + 1) := by
  simp only [Format.round, hnum.ne', if_false, he, hq, Nat.pow_eq, if_true,
    not_lt.2 (Int.add_one_le_of_lt hlt)]

/-- A fraction within half a unit of a number of the format is rounded to it, an even one included
at half a unit. Powers of two are left out, as the units below them are smaller. -/
theorem round_eq {f : Format} {negative : Bool} {m : ℕ} {e : ℤ} (hnum : 0 < num) (hden : 0 < den)
    (hm : m < 2 ^ f.precision) (hnormal : e = f.least ∨ f.least ≤ e ∧ 2 ^ (f.precision - 1) < m)
    (hp : 0 < f.precision) (hgreatest : e ≤ f.greatest)
    (h : |(num : ℚ) / den / 2 ^ e - m| < 1 / 2 ∨
      |(num : ℚ) / den / 2 ^ e - m| = 1 / 2 ∧ m % 2 = 0) :
    f.round negative num den = .finite negative m e := by
  obtain ⟨hlow, hhigh⟩ := unitOf_spec f hnum hden
  have hnear : |(num : ℚ) / den / 2 ^ e - m| ≤ 1 / 2 := h.elim le_of_lt fun h => h.1.le
  rw [abs_le] at hnear
  have hpow : (0 : ℚ) < 2 ^ e := by positivity
  have hbelow : f.unitOf num den ≤ e := by
    have hsmall : (num : ℚ) / den < 2 ^ (e + f.precision) := by
      have hm' : (m : ℚ) + 1 ≤ 2 ^ f.precision := by exact_mod_cast hm
      rw [zpow_add₀ two_ne_zero, zpow_natCast, ← div_lt_iff₀' hpow]
      linarith
    have := (zpow_lt_zpow_iff_right₀ one_lt_two).1 (hlow.trans_lt hsmall)
    omega
  have he : max f.least (f.unitOf num den) = e := by
    rcases hnormal with hleast | ⟨hleast, hlarge⟩
    · omega
    · have hsize : (2 : ℚ) ^ (e + (f.precision - 1 : ℕ)) < num / den := by
        have hm' : (2 : ℚ) ^ (f.precision - 1) + 1 ≤ m := by exact_mod_cast hlarge
        rw [zpow_add₀ two_ne_zero, zpow_natCast, ← lt_div_iff₀' hpow]
        linarith
      have := (zpow_lt_zpow_iff_right₀ one_lt_two).1 (hsize.trans hhigh)
      omega
  refine round_of_lt hnum he (roundDiv_eq (scaleDown_den_pos hden e) ?_) hm hgreatest
  rwa [scaleDown_ratio]

/-- A fraction that is neither too small nor too large is rounded to a number of the format by a
small part of it. -/
theorem round_near (f : Format) (negative : Bool) (hnum : 0 < num) (hden : 0 < den)
    (hp : 0 < f.precision) (hleast : (2 : ℚ) ^ (f.least + (f.precision - 1)) ≤ num / den)
    (hgreatest : (num : ℚ) / den < 2 ^ (f.greatest + (f.precision - 1))) :
    ∃ m e, f.round negative num den = .finite negative m e ∧
      |(m : ℚ) * 2 ^ e - num / den| ≤ num / den / 2 ^ f.precision := by
  obtain ⟨hlow, hhigh⟩ := unitOf_spec f hnum hden
  set u := f.unitOf num den with hu
  have hle : f.least ≤ u := by
    have := (zpow_lt_zpow_iff_right₀ one_lt_two).1 (hleast.trans_lt hhigh)
    omega
  have hlt : u < f.greatest := by
    have := (zpow_lt_zpow_iff_right₀ one_lt_two).1 (hlow.trans_lt hgreatest)
    omega
  have hmax : max f.least u = u := max_eq_right hle
  have hpow : (0 : ℚ) < 2 ^ u := by positivity
  set q := roundDiv (scaleDown num den u).1 (scaleDown num den u).2 with hq
  have hhalf : |(q : ℚ) - num / den / 2 ^ u| ≤ 1 / 2 := by
    rw [← scaleDown_ratio]
    exact roundDiv_le_half (scaleDown_den_pos hden u)
  have herror : |(q : ℚ) * 2 ^ u - num / den| ≤ num / den / 2 ^ f.precision := by
    have hunits : (q : ℚ) * 2 ^ u - num / den = (q - num / den / 2 ^ u) * 2 ^ u := by field_simp
    have hbits : (2 : ℚ) ^ u * 2 ^ f.precision = 2 ^ (u + (f.precision - 1)) * 2 := by
      rw [← zpow_natCast, ← zpow_add₀ two_ne_zero, ← zpow_add_one₀ two_ne_zero]
      congr 1
      omega
    rw [hunits, abs_mul, abs_of_pos hpow, le_div_iff₀ (by positivity), mul_assoc, hbits]
    calc |(q : ℚ) - num / den / 2 ^ u| * (2 ^ (u + ((f.precision : ℤ) - 1)) * 2)
        ≤ 1 / 2 * (num / den * 2) := by gcongr
      _ = num / den := by ring
  have hsmall : q ≤ 2 ^ f.precision := by
    rw [zpow_add₀ two_ne_zero, zpow_natCast, ← div_lt_iff₀' hpow] at hhigh
    rw [abs_le] at hhalf
    have : (q : ℚ) < 2 ^ f.precision + 1 := by linarith
    exact Nat.lt_succ_iff.1 (by exact_mod_cast this)
  rcases hsmall.lt_or_eq with hsmall | hcarry
  · exact ⟨q, u, round_of_lt hnum hmax rfl hsmall hlt.le, herror⟩
  · refine ⟨_, _, round_of_carry hnum hmax hcarry hlt, ?_⟩
    rw [hcarry] at herror
    have hsame : ((2 ^ (f.precision - 1) : ℕ) : ℚ) * 2 ^ (u + 1)
        = ((2 ^ f.precision : ℕ) : ℚ) * 2 ^ u := by
      rw [zpow_add_one₀ two_ne_zero, ← Nat.sub_add_cancel hp, Nat.add_sub_cancel]
      push_cast
      ring
    rwa [hsame]

/-- A fraction that is a number of the format stays as it is. -/
theorem round_exact (f : Format) (negative : Bool) {m : ℕ} {e : ℤ} (hnum : 0 < num) (hden : 0 < den)
    (h : (num : ℚ) / den = m * 2 ^ e) (hm : m < 2 ^ f.precision) (hleast : f.least ≤ e)
    (hgreatest : e ≤ f.greatest) :
    ∃ m' e', f.round negative num den = .finite negative m' e' ∧ (m' : ℚ) * 2 ^ e' = num / den := by
  obtain ⟨hlow, hhigh⟩ := unitOf_spec f hnum hden
  set u := f.unitOf num den with hu
  have hu : u ≤ e := by
    have hsmall : (num : ℚ) / den < 2 ^ (e + f.precision) := by
      have hm' : (m : ℚ) < 2 ^ f.precision := by exact_mod_cast hm
      rw [h, zpow_add₀ two_ne_zero, zpow_natCast, mul_comm]
      gcongr
    have := (zpow_lt_zpow_iff_right₀ one_lt_two).1 (hlow.trans_lt hsmall)
    omega
  obtain ⟨k, hk⟩ := Int.eq_ofNat_of_zero_le (show 0 ≤ e - max f.least u by omega)
  have hpow : (0 : ℚ) < 2 ^ max f.least u := by positivity
  -- counted in the unit that is rounded to, the fraction is a natural
  have hunits : (num : ℚ) / den = (m * 2 ^ k : ℕ) * 2 ^ max f.least u := by
    rw [h, show e = max f.least u + k by omega, zpow_add₀ two_ne_zero, zpow_natCast]
    push_cast
    ring
  have hwhole : (num : ℚ) / den / 2 ^ max f.least u = (m * 2 ^ k : ℕ) := by
    rw [hunits, mul_div_cancel_right₀ _ hpow.ne']
  have hlt : m * 2 ^ k < 2 ^ f.precision := by
    have : ((m * 2 ^ k : ℕ) : ℚ) < 2 ^ f.precision := by
      rw [← hwhole, div_lt_iff₀' hpow]
      refine hhigh.trans_le ?_
      rw [← zpow_natCast, ← zpow_add₀ two_ne_zero]
      exact zpow_le_zpow_right₀ one_le_two (by omega)
    exact_mod_cast this
  refine ⟨m * 2 ^ k, max f.least u, round_of_lt hnum rfl ?_ hlt (by omega), hunits.symm⟩
  refine roundDiv_eq (scaleDown_den_pos hden _) (.inl ?_)
  rw [scaleDown_ratio, hwhole, sub_self, abs_zero]
  norm_num

end

end VulnScan.Number
