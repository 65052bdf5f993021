import VulnScan.Proofs.Number.Rounding

/-! # Decimals close to the middle between two numbers

A decimal with few digits is not very close to the middle between two numbers in single precision,
unless it is that middle. In half units the middle is a natural `n` of at most 26 bits, and the
decimal is a multiple `q` of a fraction that depends on the power of ten alone (`ratio`). So `n / q`
is an approximation of that fraction, and it is no better than the best ones with such numerators.
These stand on either side of a bracket of neighbours (`bracket`), and one bracket for each power of
ten and either side settles the matter: `middle_below` and `middle_above`. A single decimal comes
too close.
-/

set_option autoImplicit false

namespace VulnScan.Number

/-! ## Neighbours -/

/-- A fraction strictly between two neighbours has at least the sum of their numerators. -/
theorem le_numerator_of_between {a b c d n q : ℕ} (hneighbours : c * b = a * d + 1)
    (hlow : a * q < n * b) (hhigh : n * d < c * q) : a + c ≤ n := by
  have hlow' : c * (a * q + 1) ≤ c * (n * b) := Nat.mul_le_mul_left c hlow
  have hhigh' : a * (n * d + 1) ≤ a * (c * q) := Nat.mul_le_mul_left a hhigh
  have hn : c * (n * b) = a * (n * d) + n := by
    calc c * (n * b) = n * (c * b) := by ring
      _ = n * (a * d + 1) := by rw [hneighbours]
      _ = a * (n * d) + n := by ring
  nlinarith

/-- Two fractions. -/
structure Bracket where
  a : ℕ
  b : ℕ
  c : ℕ
  d : ℕ
deriving DecidableEq

/-- Narrows neighbours `a / b` and `c / d` around `num / den` as long as the numerators stay within
the limit. The fraction itself may be taken for the lower one or, otherwise, for the upper one. -/
def Bracket.narrow (limit num den : ℕ) (lower : Bool) : (steps : ℕ) → Bracket → Bracket
  | 0, around => around
  | steps + 1, ⟨a, b, c, d⟩ =>
    let above := den * c - num * d
    let low := num * b - den * a - (if lower then 0 else 1)
    let k := if above = 0 then (limit - a) / c else min (low / above) ((limit - a) / c)
    let (a, b) := (a + k * c, b + k * d)
    let below := num * b - den * a
    let high := above - (if lower then 1 else 0)
    let k := if below = 0 then (limit - c) / a else min (high / below) ((limit - c) / a)
    narrow limit num den lower steps ⟨a, b, c + k * a, d + k * b⟩

/-- The largest middle in half units. -/
abbrev middleLimit : ℕ := 2 ^ 25 + 1

/-- The best fractions around `num / den` for middles. -/
def bracket (num den : ℕ) (lower : Bool) : Bracket :=
  Bracket.narrow middleLimit num den lower 20 ⟨0, 1, 1, 0⟩

/-! ## Powers of ten in half units -/

/-- The exponent of the power of two below `10 ^ K`. -/
def binade (K : ℤ) : ℤ :=
  if 0 ≤ K then Nat.log2 (10 ^ K.toNat) else -Nat.log2 (10 ^ (-K).toNat) - 1

/-- `10 ^ K` in half units of its binade, as a fraction. -/
def ratio (K : ℤ) : ℕ × ℕ := scaleDown (10 ^ K.toNat) (10 ^ (-K).toNat) (binade K - 1)

/-! ## Keeping apart -/

/-- Multiples of `num / den` that are larger than a middle are so by at least this part of
`2 ^ 62`, and so are those that are smaller. -/
abbrev margin : ℕ := 1100

namespace Bracket

/-- The bracket shows that no middle is just below a multiple of `num / den`. -/
def Below (around : Bracket) (num den : ℕ) : Prop :=
  around.c * around.b = around.a * around.d + 1 ∧ middleLimit < around.a + around.c ∧
    num * around.d ≤ around.c * den ∧
    around.a * den * 2 ^ 62 + num * around.b * margin ≤ num * around.b * 2 ^ 62

/-- Above a multiple of `num / den` the next middle is no smaller than what the bracket says. -/
def Above (around : Bracket) (num den : ℕ) : Prop :=
  around.c * around.b = around.a * around.d + 1 ∧ middleLimit < around.a + around.c ∧
    around.a * den ≤ num * around.b

instance (around : Bracket) (num den : ℕ) : Decidable (around.Below num den) :=
  inferInstanceAs (Decidable (_ ∧ _))

instance (around : Bracket) (num den : ℕ) : Decidable (around.Above num den) :=
  inferInstanceAs (Decidable (_ ∧ _))

variable {around : Bracket} {num den n q : ℕ}

theorem Below.apart (h : around.Below num den) (hn : n ≤ middleLimit)
    (hlt : n * den < num * q) : n * den * 2 ^ 62 + num * q * margin ≤ num * q * 2 ^ 62 := by
  obtain ⟨hneighbours, hwide, hupper, hapart⟩ := h
  have hb : 0 < around.b := Nat.pos_of_ne_zero fun hzero => by rw [hzero] at hneighbours; omega
  have hc : 0 < around.c := Nat.pos_of_ne_zero fun hzero => by rw [hzero] at hneighbours; omega
  have hq : 0 < q := Nat.pos_of_ne_zero fun hzero => by rw [hzero] at hlt; omega
  have hhigh : n * around.d < around.c * q := by
    rcases Nat.eq_zero_or_pos around.d with hzero | hd
    · rw [hzero, Nat.mul_zero]
      exact Nat.mul_pos hc hq
    · refine Nat.lt_of_mul_lt_mul_right (a := den) ?_
      calc n * around.d * den = n * den * around.d := by ring
        _ < num * q * around.d := Nat.mul_lt_mul_of_pos_right hlt hd
        _ = num * around.d * q := by ring
        _ ≤ around.c * den * q := Nat.mul_le_mul_right _ hupper
        _ = around.c * q * den := by ring
  have hlow : n * around.b ≤ around.a * q := by
    refine not_lt.1 fun hlow => ?_
    have := le_numerator_of_between hneighbours hlow hhigh
    omega
  refine Nat.le_of_mul_le_mul_right ?_ hb
  calc (n * den * 2 ^ 62 + num * q * margin) * around.b
      = n * around.b * (den * 2 ^ 62) + num * q * margin * around.b := by ring
    _ ≤ around.a * q * (den * 2 ^ 62) + num * q * margin * around.b := by gcongr
    _ = (around.a * den * 2 ^ 62 + num * around.b * margin) * q := by ring
    _ ≤ num * around.b * 2 ^ 62 * q := Nat.mul_le_mul_right _ hapart
    _ = num * q * 2 ^ 62 * around.b := by ring

theorem Above.le (h : around.Above num den) (hn : n ≤ middleLimit) (hlt : num * q < n * den) :
    around.c * q ≤ n * around.d := by
  obtain ⟨hneighbours, hwide, hlower⟩ := h
  have hb : 0 < around.b := Nat.pos_of_ne_zero fun hzero => by rw [hzero] at hneighbours; omega
  have hlow : around.a * q < n * around.b := by
    refine Nat.lt_of_mul_lt_mul_right (a := den) ?_
    calc around.a * q * den = around.a * den * q := by ring
      _ ≤ num * around.b * q := Nat.mul_le_mul_right _ hlower
      _ = num * q * around.b := by ring
      _ < n * den * around.b := Nat.mul_lt_mul_of_pos_right hlt hb
      _ = n * around.b * den := by ring
  refine not_lt.1 fun hhigh => ?_
  have := le_numerator_of_between hneighbours hlow hhigh
  omega

/-- Unless the bracket itself comes too close, no middle is just above a multiple of `num / den`. -/
theorem Above.apart (h : around.Above num den) (hn : n ≤ middleLimit) (hlt : num * q < n * den)
    (hclose : num * around.d * (2 ^ 62 + margin) ≤ around.c * den * 2 ^ 62) (hd : 0 < around.d) :
    num * q * (2 ^ 62 + margin) ≤ n * den * 2 ^ 62 := by
  refine Nat.le_of_mul_le_mul_right ?_ hd
  calc num * q * (2 ^ 62 + margin) * around.d = num * around.d * (2 ^ 62 + margin) * q := by ring
    _ ≤ around.c * den * 2 ^ 62 * q := Nat.mul_le_mul_right _ hclose
    _ = around.c * q * (den * 2 ^ 62) := by ring
    _ ≤ n * around.d * (den * 2 ^ 62) := Nat.mul_le_mul_right _ (h.le hn hlt)
    _ = n * den * 2 ^ 62 * around.d := by ring

/-- A bracket that comes too close still does so with one middle only. -/
theorem Above.apart_of_ne (h : around.Above num den) (hn : n ≤ middleLimit)
    (hlt : num * q < n * den) (hupper : num * around.d ≤ around.c * den)
    (hcoprime : Nat.Coprime around.c around.d) (hlarge : middleLimit < 2 * around.c)
    (hsmall : margin * middleLimit * around.d ≤ 2 ^ 62) (hd : 0 < around.d) (hq : 0 < q)
    (hne : ¬(n = around.c ∧ q = around.d)) :
    num * q * (2 ^ 62 + margin) ≤ n * den * 2 ^ 62 := by
  -- a multiple of the upper fraction of the bracket would be too large
  have hless : around.c * q + 1 ≤ n * around.d := by
    refine Nat.lt_of_le_of_ne (h.le hn hlt) fun hsame => hne ?_
    obtain ⟨j, rfl⟩ : around.d ∣ q := hcoprime.symm.dvd_of_dvd_mul_left ⟨n, by rw [hsame]; ring⟩
    have hnj : n = around.c * j := by
      refine Nat.eq_of_mul_eq_mul_right hd ?_
      rw [← hsame]
      ring
    have hj : j = 1 := by
      have hj0 : 0 < j := Nat.pos_of_mul_pos_left hq
      have : ¬2 ≤ j := fun hj2 => by nlinarith
      omega
    simp [hnj, hj]
  have hmargin : margin * (num * q) * around.d ≤ den * 2 ^ 62 := by
    calc margin * (num * q) * around.d ≤ margin * (middleLimit * den) * around.d := by
          refine Nat.mul_le_mul_right _ (Nat.mul_le_mul_left _ (hlt.le.trans ?_))
          exact Nat.mul_le_mul_right _ hn
      _ = den * (margin * middleLimit * around.d) := by ring
      _ ≤ den * 2 ^ 62 := Nat.mul_le_mul_left _ hsmall
  refine Nat.le_of_mul_le_mul_right ?_ hd
  calc num * q * (2 ^ 62 + margin) * around.d
      = num * around.d * q * 2 ^ 62 + margin * (num * q) * around.d := by ring
    _ ≤ around.c * den * q * 2 ^ 62 + den * 2 ^ 62 := by gcongr
    _ = (around.c * q + 1) * (den * 2 ^ 62) := by ring
    _ ≤ n * around.d * (den * 2 ^ 62) := Nat.mul_le_mul_right _ hless
    _ = n * den * 2 ^ 62 * around.d := by ring

end Bracket

/-! ## All powers of ten -/

/-- What is checked for one power of ten: it is not just below a power of two, and brackets keep the
middles away from its multiples; all but one of them on both sides. -/
def Settled (K : ℤ) : Prop :=
  let (num, den) := ratio K
  let above := bracket num den true
  num * (2 ^ 25 + 1) ≤ 4 * 2 ^ 25 * den ∧ (bracket num den false).Below num den ∧
    above.Above num den ∧ 0 < above.d ∧
    if K = -32 then above = ⟨14495598, 4466801, 22841339, 7038531⟩ ∧ num * above.d ≤ above.c * den
    else num * above.d * (2 ^ 62 + margin) ≤ above.c * den * 2 ^ 62

instance (K : ℤ) : Decidable (Settled K) := inferInstanceAs (Decidable (_ ∧ _))

theorem settled_from : ∀ i < 84, Settled ((i : ℕ) - 45) := by
  decide +kernel

theorem settled {K : ℤ} (hlow : -45 ≤ K) (hhigh : K ≤ 38) : Settled K := by
  obtain ⟨i, hi⟩ := Int.eq_ofNat_of_zero_le (show 0 ≤ K + 45 by omega)
  have := settled_from i (by omega)
  rwa [show (i : ℤ) - 45 = K by omega] at this

/-! ## Decimals and middles -/

section

variable {D n : ℕ} {K e : ℤ}

theorem ratio_den_pos (K : ℤ) : 0 < (ratio K).2 :=
  scaleDown_den_pos (Nat.pow_pos (by decide)) _

theorem ratio_eq (K : ℤ) :
    ((ratio K).1 : ℚ) / (ratio K).2 * 2 ^ (binade K - 1) = 10 ^ K := by
  have hpow : (0 : ℚ) < 2 ^ (binade K - 1) := by positivity
  rw [ratio, scaleDown_ratio, div_mul_cancel₀ _ hpow.ne', Nat.cast_pow, Nat.cast_pow,
    Nat.cast_ofNat, zpow_toNat]

/-- A power of ten that is almost a unit is at least one. -/
theorem le_binade (hK : Settled K) (h : (2 : ℚ) ^ e * (1 - 1 / 2 ^ 26) < 10 ^ K) :
    e ≤ binade K := by
  refine not_lt.1 fun hlt => ?_
  have hden : (0 : ℚ) < (ratio K).2 := by exact_mod_cast ratio_den_pos K
  have hroom : ((ratio K).1 : ℚ) * (2 ^ 25 + 1) ≤ 4 * 2 ^ 25 * (ratio K).2 := by exact_mod_cast hK.1
  have hratio : ((ratio K).1 : ℚ) / (ratio K).2 ≤ 4 * 2 ^ 25 / (2 ^ 25 + 1) := by
    rw [div_le_div_iff₀ hden (by norm_num)]
    exact hroom
  have hunit : (2 : ℚ) ^ (binade K - 1) * 4 ≤ 2 ^ e := by
    rw [show (4 : ℚ) = 2 ^ (2 : ℤ) by norm_num, ← zpow_add₀ two_ne_zero]
    exact zpow_le_zpow_right₀ one_le_two (by omega)
  have hpow : (0 : ℚ) < 2 ^ (binade K - 1) := by positivity
  have hten : (10 : ℚ) ^ K ≤ 4 * 2 ^ 25 / (2 ^ 25 + 1) * 2 ^ (binade K - 1) := by
    rw [← ratio_eq K]
    gcongr
  norm_num at h hten
  linarith

/-- The decimal in half units of `2 ^ e`. -/
theorem decimal_eq (D : ℕ) (h : e ≤ binade K) : (D : ℚ) * 10 ^ K
    = (D * 2 ^ (binade K - e).toNat : ℕ) * ((ratio K).1 / (ratio K).2) * 2 ^ (e - 1) := by
  have hpow : (2 : ℚ) ^ (binade K - 1) = 2 ^ (binade K - e).toNat * 2 ^ (e - 1) := by
    rw [← zpow_natCast, Int.toNat_of_nonneg (by omega), ← zpow_add₀ two_ne_zero]
    congr 1
    omega
  rw [← ratio_eq K, hpow]
  push_cast
  ring

/-- A middle below a decimal is well below it. -/
theorem middle_below (hlow : -45 ≤ K) (hhigh : K ≤ 38)
    (hcoarse : (2 : ℚ) ^ e * (1 - 1 / 2 ^ 26) < 10 ^ K) (hn : n ≤ middleLimit)
    (h : (n : ℚ) * 2 ^ (e - 1) < D * 10 ^ K) :
    (n : ℚ) * 2 ^ (e - 1) ≤ D * 10 ^ K * (1 - margin / 2 ^ 62) := by
  have hK := settled hlow hhigh
  have hden : (0 : ℚ) < (ratio K).2 := by exact_mod_cast ratio_den_pos K
  have hhalf : (0 : ℚ) < 2 ^ (e - 1) := by positivity
  rw [decimal_eq D (le_binade hK hcoarse)] at h ⊢
  generalize D * 2 ^ (binade K - e).toNat = q at h ⊢
  have hlt : n * (ratio K).2 < (ratio K).1 * q := by
    rw [mul_lt_mul_iff_left₀ hhalf, mul_div_assoc', lt_div_iff₀ hden] at h
    have : (n : ℚ) * (ratio K).2 < (ratio K).1 * q := by linarith
    exact_mod_cast this
  have hapart : (n : ℚ) * (ratio K).2 * 2 ^ 62 + (ratio K).1 * q * margin
      ≤ (ratio K).1 * q * 2 ^ 62 := by
    exact_mod_cast hK.2.1.apart hn hlt
  rw [mul_right_comm, mul_le_mul_iff_left₀ hhalf, mul_div_assoc', div_mul_eq_mul_div,
    le_div_iff₀ hden]
  norm_num at hapart ⊢
  linarith

/-- A middle above a decimal is well above it, except for a single one. -/
theorem middle_above (hlow : -45 ≤ K) (hhigh : K ≤ 38)
    (hcoarse : (2 : ℚ) ^ e * (1 - 1 / 2 ^ 26) < 10 ^ K) (hn : n ≤ middleLimit)
    (h : (D : ℚ) * 10 ^ K < n * 2 ^ (e - 1)) (hD : 0 < D)
    (hne : ¬(K = -32 ∧ D = 7038531 ∧ n = 22841339)) :
    (D : ℚ) * 10 ^ K * (1 + margin / 2 ^ 62) ≤ n * 2 ^ (e - 1) := by
  have hK := settled hlow hhigh
  have hden : (0 : ℚ) < (ratio K).2 := by exact_mod_cast ratio_den_pos K
  have hhalf : (0 : ℚ) < 2 ^ (e - 1) := by positivity
  rw [decimal_eq D (le_binade hK hcoarse)] at h ⊢
  have hq : 0 < D * 2 ^ (binade K - e).toNat := Nat.mul_pos hD (by positivity)
  have hodd : D * 2 ^ (binade K - e).toNat = 7038531 → D = 7038531 := by
    intro hsame
    cases ht : (binade K - e).toNat with
    | zero => simpa [ht] using hsame
    | succ t =>
      rw [ht, pow_succ, ← mul_assoc] at hsame
      omega
  generalize D * 2 ^ (binade K - e).toNat = q at h hq hodd ⊢
  have hlt : (ratio K).1 * q < n * (ratio K).2 := by
    rw [mul_lt_mul_iff_left₀ hhalf, mul_div_assoc', div_lt_iff₀ hden] at h
    have : ((ratio K).1 : ℚ) * q < n * (ratio K).2 := by linarith
    exact_mod_cast this
  have hapart : ((ratio K).1 : ℚ) * q * (2 ^ 62 + margin) ≤ n * (ratio K).2 * 2 ^ 62 := by
    obtain ⟨-, -, habove, hd, hclose⟩ := hK
    have : (ratio K).1 * q * (2 ^ 62 + margin) ≤ n * (ratio K).2 * 2 ^ 62 := by
      split at hclose
      · next hexception =>
        obtain ⟨hbracket, hupper⟩ := hclose
        refine habove.apart_of_ne hn hlt hupper ?_ ?_ ?_ hd hq ?_ <;> rw [hbracket]
        · decide +kernel
        · decide
        · decide
        · exact fun ⟨hn, hq⟩ => hne ⟨hexception, hodd hq, hn⟩
      · exact habove.apart hn hlt hclose hd
    exact_mod_cast this
  rw [mul_right_comm, mul_le_mul_iff_left₀ hhalf, mul_div_assoc', div_mul_eq_mul_div,
    div_le_iff₀ hden]
  norm_num at hapart ⊢
  linarith

end

end VulnScan.Number
