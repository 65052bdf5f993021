import VulnScan.Proofs.Number.Literals
import VulnScan.Proofs.Number.Shortest

/-! # Reading a decimal that was laid out

However a decimal is laid out, the reader takes it apart into the same digits and the same power of
ten, but for the zeros that stand after its last digit (`Layout.numeral?_literal`).
-/

set_option autoImplicit false

namespace VulnScan.Text

theorem valueFrom_replicate_zero (s k : ℕ) : valueFrom s (List.replicate k '0') = s * 10 ^ k := by
  induction k generalizing s with
  | zero => simp [valueFrom]
  | succ k ih =>
    have hzero : digitValue '0' = 0 := by decide
    rw [List.replicate_succ, valueFrom_cons, hzero, ih, pow_succ]
    ring

/-- Zeros behind a numeral multiply its value by a power of ten. -/
theorem value_append_zeros (n k : ℕ) :
    value (digits n ++ List.replicate k '0') = n * 10 ^ k := by
  rw [value, valueFrom_append, valueFrom_replicate_zero]
  exact congrArg (· * 10 ^ k) (value_digits n)

end VulnScan.Text

namespace VulnScan.Number

namespace Literal

variable {negative : Bool} {whole fraction : List Char}

/-- All digits fit into the significand. -/
theorem absorb_whole_fraction (hsize : Text.value (whole ++ fraction) < longWordBound) :
    absorb 0 whole = (Text.value whole, []) ∧
      absorb (Text.value whole) fraction = (Text.value (whole ++ fraction), []) := by
  have hvalue : Text.value (whole ++ fraction) = Text.valueFrom (Text.value whole) fraction :=
    Text.valueFrom_append ..
  rw [hvalue] at hsize ⊢
  exact ⟨absorb_eq (Nat.lt_of_le_of_lt (Text.le_valueFrom _ _) hsize), absorb_eq hsize⟩

/-- Digits with a point among them stand for a significand and the places after the point. -/
theorem numeral?_point (hpoint : fraction ≠ [])
    (hsize : Text.value (whole ++ fraction) < longWordBound) :
    (⟨negative, whole, fraction, none⟩ : Literal).numeral?
      = (realOf negative (Text.value (whole ++ fraction)) (-(fraction.length : ℤ))).map .real := by
  obtain ⟨hwhole, hfraction⟩ := absorb_whole_fraction hsize
  obtain ⟨c, cs, rfl⟩ := List.exists_cons_of_ne_nil hpoint
  simp [numeral?, hwhole, hfraction]

/-- An exponent is added to minus the places after the point. -/
theorem numeral?_exponent {below : Bool} {n : ℕ} (hn : n < 2 ^ 30)
    (hlength : fraction.length < 2 ^ 30)
    (hsize : Text.value (whole ++ fraction) < longWordBound) :
    (⟨negative, whole, fraction, some (below, Text.digits n)⟩ : Literal).numeral?
      = (realOf negative (Text.value (whole ++ fraction))
          ((if below then -(n : ℤ) else n) - fraction.length)).map .real := by
  obtain ⟨hwhole, hfraction⟩ := absorb_whole_fraction hsize
  have hexponent : exponentValue (Text.digits n) = some n := by
    rw [exponentValue, Text.value_digits]
    exact if_pos (by omega)
  have hclamp : clampExponent (if below then -(fraction.length : ℤ) - n else -fraction.length + n)
      = (if below then -(n : ℤ) else n) - fraction.length := by
    rw [clampExponent]
    split <;> omega
  simp [numeral?, hwhole, hfraction, hexponent, hclamp]

end Literal

/-- What a decimal that was laid out is read as: a significand and a power of ten. -/
def Layout.significand (y : Layout) (d : Decimal) : ℕ × ℤ :=
  let first := d.exponent + (Text.digits d.digits).length - 1
  if y.leastPlain ≤ first ∧ first ≤ y.greatestPlain ∧ 0 ≤ d.exponent then
    (d.digits * 10 ^ (d.exponent.toNat + 1), -1)
  else (d.digits, d.exponent)

section

variable {y : Layout} {d : Decimal}

/-- The significand stands for the decimal. -/
theorem Layout.significand_value :
    ((y.significand d).1 : ℚ) * 10 ^ (y.significand d).2 = d.digits * 10 ^ d.exponent := by
  simp only [significand]
  split
  · next h =>
    obtain ⟨n, hn⟩ := Int.eq_ofNat_of_zero_le h.2.2
    rw [hn]
    push_cast
    rw [Int.toNat_natCast, pow_succ, zpow_natCast, zpow_neg_one]
    field_simp
  · rfl

/-- It is no larger than the digits of the decimal, or than what is written out at most. -/
theorem Layout.significand_lt {width : ℕ} (hdigits : d.digits < 10 ^ width) :
    (y.significand d).1 < 10 ^ max width (y.greatestPlain.toNat + 2) := by
  simp only [significand]
  split
  · next h =>
    have hlen := Text.length_digits_pos d.digits
    have hlt := lt_pow_length_digits d.digits
    calc d.digits * 10 ^ (d.exponent.toNat + 1)
        < 10 ^ (Text.digits d.digits).length * 10 ^ (d.exponent.toNat + 1) := by gcongr
      _ = 10 ^ ((Text.digits d.digits).length + (d.exponent.toNat + 1)) := (pow_add ..).symm
      _ ≤ 10 ^ max width (y.greatestPlain.toNat + 2) :=
        Nat.pow_le_pow_right (by decide) (by omega)
  · exact hdigits.trans_le (Nat.pow_le_pow_right (by decide) (le_max_left ..))

/-- **A decimal that was laid out is read as its significand**, scaled by the power of ten. -/
theorem Layout.numeral?_literal (negative : Bool) (hpos : d.digits ≠ 0)
    (hdigits : d.digits < 10 ^ 19) (hplain : y.greatestPlain ≤ 17)
    (hexponent : d.exponent.natAbs < 2 ^ 29) :
    (y.literal negative d).numeral?
      = (realOf negative (y.significand d).1 (y.significand d).2).map .real := by
  have hlen := Text.length_digits_pos d.digits
  have hlen' := Text.length_digits_le (by decide) hdigits
  have hvalue := Text.value_digits d.digits
  have hsize : d.digits < longWordBound := hdigits.trans (by decide)
  have hsignificand := significand_lt (y := y) hdigits
  rw [max_eq_left (by omega)] at hsignificand
  simp only [literal, significand, if_neg hpos] at hsignificand ⊢
  set len := (Text.digits d.digits).length
  by_cases hwritten : y.leastPlain ≤ d.exponent + len - 1 ∧ d.exponent + len - 1 ≤ y.greatestPlain
  · rw [if_pos hwritten]
    by_cases hwhole : 0 ≤ d.exponent
    · rw [if_pos hwhole]
      rw [if_pos ⟨hwritten.1, hwritten.2, hwhole⟩] at hsignificand ⊢
      have hzeros :
          Text.value (Text.digits d.digits ++ List.replicate d.exponent.toNat '0' ++ ['0'])
          = d.digits * 10 ^ (d.exponent.toNat + 1) := by
        rw [List.append_assoc, ← List.replicate_succ', Text.value_append_zeros]
      rw [Literal.numeral?_point (by simp) (by rw [hzeros]; exact hsignificand.trans (by decide)),
        hzeros]
      rfl
    · have hplace : ¬(y.leastPlain ≤ d.exponent + len - 1 ∧ d.exponent + len - 1 ≤ y.greatestPlain ∧
          0 ≤ d.exponent) := fun h => hwhole h.2.2
      rw [if_neg hwhole, if_neg hplace]
      by_cases hpoint : 0 ≤ d.exponent + len - 1
      · rw [if_pos hpoint, Literal.numeral?_point (by simp; omega)
            (by rwa [List.take_append_drop, hvalue]),
          List.take_append_drop, hvalue, List.length_drop]
        congr 2
        omega
      · have hzeros : Text.value (['0'] ++ (List.replicate (-(d.exponent + len - 1) - 1).toNat '0'
            ++ Text.digits d.digits)) = d.digits := by
          rw [← List.append_assoc, List.singleton_append, ← List.replicate_succ, Text.value,
            Text.valueFrom_zeros]
          exact hvalue
        rw [if_neg hpoint, Literal.numeral?_point (by simp [Text.digits_ne_nil]) (by rwa [hzeros]),
          hzeros, List.length_append, List.length_replicate]
        congr 2
        omega
  · rw [if_neg hwritten, if_neg fun h => hwritten ⟨h.1, h.2.1⟩, Literal.numeral?_exponent (by omega)
        (by rw [List.length_drop]; omega) (by rwa [List.take_append_drop, hvalue]),
      List.take_append_drop, hvalue, List.length_drop]
    congr 2
    simp only [decide_eq_true_eq]
    split <;> omega

end

end VulnScan.Number
