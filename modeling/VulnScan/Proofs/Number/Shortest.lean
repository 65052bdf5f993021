import VulnScan.Number.Shortest
import VulnScan.Proofs.Number.Rounding
import VulnScan.Proofs.Text.Numerals

/-! # What the search for the shortest decimal finds

The decimal that is found for a number other than a power of two lies in the rounding interval of
the number, and no decimal with its places is nearer. The search comes to an end early enough for it
to have few digits (`shortest_spec`).
-/

set_option autoImplicit false

namespace VulnScan.Number

/-! ## Lengths of numerals -/

theorem lt_pow_length_digits (n : ℕ) : n < 10 ^ (Text.digits n).length := by
  fun_induction Text.digits n with
  | case1 n hn => simpa using hn
  | case2 n hn ih =>
    rw [List.length_append, List.length_singleton, pow_succ]
    omega

theorem pow_length_digits_le {n : ℕ} (hn : 0 < n) : 10 ^ ((Text.digits n).length - 1) ≤ n := by
  have hpos := Text.length_digits_pos n
  rcases Nat.eq_zero_or_pos ((Text.digits n).length - 1) with hzero | hlong
  · rwa [hzero, pow_zero]
  · refine not_lt.1 fun hlt => ?_
    have := Text.length_digits_le hlong hlt
    omega

/-! ## Decimals and units -/

variable {f : Format} {m d : ℕ} {e k : ℤ}

/-- In a common unit, a decimal and a binary number are compared by naturals. -/
theorem commonUnit_spec (d : ℕ) (k : ℤ) (u : ℕ) (e : ℤ) :
    ∃ unit : ℚ, 0 < unit ∧ ((commonUnit d k u e).1 : ℚ) = d * 10 ^ k * unit ∧
      ((commonUnit d k u e).2 : ℚ) = u * 2 ^ e * unit := by
  refine ⟨10 ^ (-k).toNat * 2 ^ (-e).toNat, by positivity, ?_, ?_⟩
  · rw [← zpow_toNat 10 k]
    simp only [commonUnit, Nat.pow_eq, Nat.cast_mul, Nat.cast_pow, Nat.cast_ofNat]
    field_simp
  · rw [← zpow_toNat 2 e]
    simp only [commonUnit, Nat.pow_eq, Nat.cast_mul, Nat.cast_pow, Nat.cast_ofNat]
    field_simp

section

variable {u : ℕ}

theorem commonUnit_le_iff :
    (commonUnit d k u e).1 ≤ (commonUnit d k u e).2 ↔ (d : ℚ) * 10 ^ k ≤ u * 2 ^ e := by
  obtain ⟨unit, hunit, hfirst, hsecond⟩ := commonUnit_spec d k u e
  rw [← @Nat.cast_le ℚ, hfirst, hsecond, mul_le_mul_iff_left₀ hunit]

theorem commonUnit_ge_iff :
    (commonUnit d k u e).2 ≤ (commonUnit d k u e).1 ↔ (u : ℚ) * 2 ^ e ≤ d * 10 ^ k := by
  obtain ⟨unit, hunit, hfirst, hsecond⟩ := commonUnit_spec d k u e
  rw [← @Nat.cast_le ℚ, hfirst, hsecond, mul_le_mul_iff_left₀ hunit]

theorem commonUnit_lt_iff :
    (commonUnit d k u e).1 < (commonUnit d k u e).2 ↔ (d : ℚ) * 10 ^ k < u * 2 ^ e := by
  rw [← not_le, commonUnit_ge_iff, not_le]

theorem commonUnit_gt_iff :
    (commonUnit d k u e).2 < (commonUnit d k u e).1 ↔ (u : ℚ) * 2 ^ e < d * 10 ^ k := by
  rw [← not_le, commonUnit_le_iff, not_le]

end

/-- The grid points up to a number. -/
theorem le_gridFloor_iff : d ≤ gridFloor m e k ↔ (d : ℚ) * 10 ^ k ≤ m * 2 ^ e := by
  have hden : 0 < Nat.pow 2 (-e).toNat * Nat.pow 10 k.toNat :=
    Nat.mul_pos (Nat.pow_pos (by decide)) (Nat.pow_pos (by decide))
  rw [gridFloor, Nat.le_div_iff_mul_le hden, ← commonUnit_le_iff]
  have hfirst : d * (Nat.pow 2 (-e).toNat * Nat.pow 10 k.toNat) = (commonUnit d k m e).1 := by
    simp only [commonUnit]
    ring
  have hsecond : m * Nat.pow 2 e.toNat * Nat.pow 10 (-k).toNat = (commonUnit d k m e).2 := by
    simp only [commonUnit]
    ring
  rw [hfirst, hsecond]

theorem gridFloor_le (m : ℕ) (e k : ℤ) : (gridFloor m e k : ℚ) * 10 ^ k ≤ m * 2 ^ e :=
  le_gridFloor_iff.1 le_rfl

theorem lt_gridFloor_succ (m : ℕ) (e k : ℤ) :
    (m : ℚ) * 2 ^ e < (gridFloor m e k + 1 : ℕ) * 10 ^ k :=
  not_le.1 fun h => absurd (le_gridFloor_iff.2 h) (Nat.not_succ_le_self _)

/-! ## The rounding interval -/

/-- Whether the decimal lies in the rounding interval of a number that is no power of two. -/
theorem readsBack_iff (hm : 0 < m) (hnormal : ¬(m = 2 ^ (f.precision - 1) ∧ f.least < e)) :
    readsBack f m e d k = true ↔ |(d : ℚ) * 10 ^ k - m * 2 ^ e| < 2 ^ e / 2 ∨
      |(d : ℚ) * 10 ^ k - m * 2 ^ e| = 2 ^ e / 2 ∧ m % 2 = 0 := by
  have hquarter : (2 : ℚ) ^ (e - 2) = 2 ^ e / 4 := by
    rw [zpow_sub₀ two_ne_zero]
    norm_num
  have hlow : ((4 * m - 2 : ℕ) : ℚ) * 2 ^ (e - 2) = m * 2 ^ e - 2 ^ e / 2 := by
    rw [hquarter, Nat.cast_sub (by omega)]
    push_cast
    ring
  have hhigh : ((4 * m + 2 : ℕ) : ℚ) * 2 ^ (e - 2) = m * 2 ^ e + 2 ^ e / 2 := by
    rw [hquarter]
    push_cast
    ring
  simp only [readsBack, Nat.pow_eq, if_neg hnormal]
  split
  · next heven =>
    simp only [Bool.and_eq_true, decide_eq_true_eq, commonUnit_ge_iff, commonUnit_le_iff, hlow,
      hhigh, heven, and_true, ← le_iff_lt_or_eq, abs_le]
    constructor <;> rintro ⟨h, h'⟩ <;> constructor <;> linarith
  · next hodd =>
    simp only [Bool.and_eq_true, decide_eq_true_eq, commonUnit_gt_iff, commonUnit_lt_iff, hlow,
      hhigh, hodd, and_false, or_false, abs_lt]
    constructor <;> rintro ⟨h, h'⟩ <;> constructor <;> linarith

/-! ## Grids -/

section

variable (hm : 0 < m) (hnormal : ¬(m = 2 ^ (f.precision - 1) ∧ f.least < e))
include hm hnormal

/-- What is found on a grid lies in the rounding interval, and no grid point is nearer. -/
theorem onGrid?_spec {D : ℕ} {K : ℤ} (h : onGrid? f m e k = some ⟨D, K⟩) :
    K = k ∧ 0 < D ∧ readsBack f m e D k = true ∧ |(D : ℚ) * 10 ^ k - m * 2 ^ e| ≤ 10 ^ k / 2 := by
  have hlow := gridFloor_le m e k
  have hhigh := lt_gridFloor_succ m e k
  have hpow : (0 : ℚ) < 10 ^ k := by positivity
  have hunit : (0 : ℚ) < 2 ^ e := by positivity
  have hone : (1 : ℚ) * 2 ^ e ≤ m * 2 ^ e := by
    have : (1 : ℚ) ≤ m := by exact_mod_cast hm
    gcongr
  generalize hd : gridFloor m e k = d at hlow hhigh
  have hsum : ((d + 1 : ℕ) : ℚ) * 10 ^ k = d * 10 ^ k + 10 ^ k := by
    push_cast
    ring
  have hbelow : |(d : ℚ) * 10 ^ k - m * 2 ^ e| = m * 2 ^ e - d * 10 ^ k := by
    rw [abs_sub_comm, abs_of_nonneg (sub_nonneg.2 hlow)]
  have habove : |((d + 1 : ℕ) : ℚ) * 10 ^ k - m * 2 ^ e| = d * 10 ^ k + 10 ^ k - m * 2 ^ e := by
    rw [abs_of_pos (sub_pos.2 hhigh), hsum]
  have hmiss : ∀ {D : ℕ}, readsBack f m e D k = false →
      2 ^ e / 2 ≤ |(D : ℚ) * 10 ^ k - m * 2 ^ e| :=
    fun h => not_lt.1 fun hlt => by simp [(readsBack_iff hm hnormal).2 (.inl hlt)] at h
  have hhit : ∀ {D : ℕ}, readsBack f m e D k = true → |(D : ℚ) * 10 ^ k - m * 2 ^ e| ≤ 2 ^ e / 2 :=
    fun h => ((readsBack_iff hm hnormal).1 h).elim le_of_lt fun h => h.1.le
  cases hb : d != 0 && readsBack f m e d k <;> cases ha : readsBack f m e (d + 1) k <;>
    simp only [onGrid?, hd, hb, ha] at h
  · cases h
  · cases h
    refine ⟨rfl, d.succ_pos, ha, ?_⟩
    have hhit := hhit ha
    rw [habove] at hhit ⊢
    -- the point below is missed, or there is none
    rcases Nat.eq_zero_or_pos d with hzero | hpos
    · rw [hzero, Nat.cast_zero, zero_mul] at hhit ⊢
      linarith
    · have hmiss := @hmiss d (by simpa [hpos.ne'] using hb)
      rw [hbelow] at hmiss
      linarith
  · cases h
    rw [Bool.and_eq_true] at hb
    refine ⟨rfl, Nat.pos_of_ne_zero (by simpa using hb.1), hb.2, ?_⟩
    have hhit := hhit hb.2
    have hmiss := hmiss ha
    rw [habove] at hmiss
    rw [hbelow] at hhit ⊢
    linarith
  · rw [Bool.and_eq_true] at hb
    split at h
    · next hnear =>
      cases h
      refine ⟨rfl, Nat.pos_of_ne_zero (by simpa using hb.1), hb.2, ?_⟩
      have hle := commonUnit_ge_iff.1 (hnear.elim le_of_lt fun h => h.1.le)
      push_cast at hle
      rw [hbelow]
      linarith
    · next hfar =>
      cases h
      refine ⟨rfl, d.succ_pos, ha, ?_⟩
      have hle := commonUnit_le_iff.1 (not_lt.1 fun hlt => hfar (.inl hlt))
      push_cast at hle
      rw [habove]
      linarith

/-- A grid finer than the unit of a number is hit. -/
theorem onGrid?_isSome (h : (10 : ℚ) ^ k < 2 ^ e) : (onGrid? f m e k).isSome := by
  have hlow := gridFloor_le m e k
  have hhigh := lt_gridFloor_succ m e k
  have hone : (1 : ℚ) * 2 ^ e ≤ m * 2 ^ e := by
    have : (1 : ℚ) ≤ m := by exact_mod_cast hm
    gcongr
  have hpos : gridFloor m e k ≠ 0 := by
    have : 1 ≤ gridFloor m e k := le_gridFloor_iff.2 (by rw [Nat.cast_one]; linarith)
    omega
  have hsum : ((gridFloor m e k + 1 : ℕ) : ℚ) * 10 ^ k = gridFloor m e k * 10 ^ k + 10 ^ k := by
    push_cast
    ring
  -- the nearer of the two points around the number is in its interval
  rcases le_total ((m : ℚ) * 2 ^ e - gridFloor m e k * 10 ^ k) (10 ^ k / 2) with hnear | hnear
  · have hbelow : readsBack f m e (gridFloor m e k) k = true := by
      refine (readsBack_iff hm hnormal).2 (.inl ?_)
      rw [abs_sub_comm, abs_of_nonneg (sub_nonneg.2 hlow)]
      linarith
    cases ha : readsBack f m e (gridFloor m e k + 1) k
    · simp only [onGrid?, bne_iff_ne.2 hpos, hbelow, ha, Bool.and_self]
      rfl
    · simp only [onGrid?, bne_iff_ne.2 hpos, hbelow, ha, Bool.and_self]
      split <;> rfl
  · have habove : readsBack f m e (gridFloor m e k + 1) k = true := by
      refine (readsBack_iff hm hnormal).2 (.inl ?_)
      rw [abs_of_pos (sub_pos.2 hhigh), hsum]
      linarith
    cases hb : gridFloor m e k != 0 && readsBack f m e (gridFloor m e k) k
    · simp only [onGrid?, hb, habove]
      rfl
    · simp only [onGrid?, hb, habove]
      split <;> rfl

/-- A search that comes to a grid finer than the unit ends with a hit, either at once or right after
a grid that is not finer. -/
theorem searchGrids_spec (steps : ℕ) (k : ℤ) (h : (10 : ℚ) ^ (k - steps) < 2 ^ e) :
    ∃ D K, searchGrids f m e (steps + 1) k = ⟨D, K⟩ ∧ onGrid? f m e K = some ⟨D, K⟩ ∧
      (K = k ∨ (2 : ℚ) ^ e ≤ 10 ^ (K + 1)) := by
  have hhit : ∀ {k : ℤ} (steps : ℕ), (onGrid? f m e k).isSome → ∃ D K,
      searchGrids f m e (steps + 1) k = ⟨D, K⟩ ∧ onGrid? f m e K = some ⟨D, K⟩ ∧ K = k := by
    intro k steps hsome
    obtain ⟨⟨D, K⟩, hgrid⟩ := Option.isSome_iff_exists.1 hsome
    obtain ⟨rfl, -⟩ := onGrid?_spec hm hnormal hgrid
    exact ⟨D, K, by rw [searchGrids, hgrid, Option.getD_some], hgrid, rfl⟩
  induction steps generalizing k with
  | zero =>
    rw [Nat.cast_zero, sub_zero] at h
    obtain ⟨D, K, hsearch, hgrid, hK⟩ := hhit 0 (onGrid?_isSome hm hnormal h)
    exact ⟨D, K, hsearch, hgrid, .inl hK⟩
  | succ steps ih =>
    cases hgrid : onGrid? f m e k with
    | some found =>
      obtain ⟨D, K, hsearch, hgrid, hK⟩ := hhit (steps + 1) (by rw [hgrid]; rfl)
      exact ⟨D, K, hsearch, hgrid, .inl hK⟩
    | none =>
      have hcoarse : (2 : ℚ) ^ e ≤ 10 ^ k :=
        not_lt.1 fun hlt => by simpa [hgrid] using onGrid?_isSome hm hnormal hlt
      obtain ⟨D, K, hsearch, hfound, hK⟩ := ih (k - 1) (by
        rwa [show k - 1 - (steps : ℤ) = k - (steps + 1 : ℕ) by push_cast; ring])
      refine ⟨D, K, by rw [searchGrids, hgrid, Option.getD_none, hsearch], hfound, .inr ?_⟩
      rcases hK with rfl | hK
      · rwa [sub_add_cancel]
      · exact hK

end

/-- A fraction of one or more is as large as its whole part is long. -/
theorem digits_div_bounds {num den : ℕ} (hden : 0 < den) (h : den ≤ num) :
    (10 : ℚ) ^ ((Text.digits (num / den)).length - 1 : ℤ) ≤ (num : ℚ) / den ∧
      (num : ℚ) / den ≤ 10 ^ ((Text.digits (num / den)).length : ℤ) := by
  have hd : (0 : ℚ) < den := by exact_mod_cast hden
  have hlow := pow_length_digits_le (Nat.div_pos h hden)
  have hhigh := lt_pow_length_digits (num / den)
  have hlen := Text.length_digits_pos (num / den)
  generalize (Text.digits (num / den)).length = len at hlow hhigh hlen ⊢
  constructor
  · rw [le_div_iff₀ hd, show (len : ℤ) - 1 = (len - 1 : ℕ) by omega, zpow_natCast]
    have := (Nat.le_div_iff_mul_le hden).1 hlow
    exact_mod_cast this
  · rw [div_le_iff₀ hd, zpow_natCast]
    have := ((Nat.div_lt_iff_lt_mul hden).1 hhigh).le
    exact_mod_cast this

/-- The first grid of the search. -/
theorem topExponent_spec (hm : 0 < m) (e : ℤ) :
    (10 : ℚ) ^ (topExponent m e - 1) ≤ m * 2 ^ e ∧ (m : ℚ) * 2 ^ e ≤ 10 ^ topExponent m e := by
  have hnum : 0 < m * Nat.pow 2 e.toNat := Nat.mul_pos hm (Nat.pow_pos (by decide))
  have hden : 0 < Nat.pow 2 (-e).toNat := Nat.pow_pos (by decide)
  have hvalue : (m : ℚ) * 2 ^ e = (m * Nat.pow 2 e.toNat : ℕ) / (Nat.pow 2 (-e).toNat : ℕ) := by
    rw [← zpow_toNat 2 e]
    simp only [Nat.pow_eq, Nat.cast_mul, Nat.cast_pow, Nat.cast_ofNat]
    field_simp
  rw [hvalue]
  simp only [topExponent]
  split
  · next hle => exact digits_div_bounds hden hle
  · next hlt =>
    obtain ⟨hlow, hhigh⟩ := digits_div_bounds hnum (not_le.1 hlt).le
    set len : ℤ := ((Text.digits _).length : ℤ)
    rw [← inv_div, show 1 - len - 1 = -len by ring, show 1 - len = -(len - 1) by ring, zpow_neg,
      zpow_neg]
    have hquotient : (0 : ℚ) < (Nat.pow 2 (-e).toNat : ℕ) / (m * Nat.pow 2 e.toNat : ℕ) :=
      div_pos (by exact_mod_cast hden) (by exact_mod_cast hnum)
    exact ⟨inv_anti₀ hquotient hhigh, inv_anti₀ (by positivity) hlow⟩

/-- The shortest decimal of a number that is no power of two: it has few digits, lies in the
rounding interval of the number, and no decimal with as many places is nearer. -/
theorem shortest_spec (hm : 0 < m) (hnormal : ¬(m = 2 ^ (f.precision - 1) ∧ f.least < e))
    (hsize : m < 10 ^ 17) :
    ∃ D K, shortest f m e = ⟨D, K⟩ ∧ 0 < D ∧ D < 10 * (m + 1) ∧ readsBack f m e D K = true ∧
      |(D : ℚ) * 10 ^ K - m * 2 ^ e| ≤ 10 ^ K / 2 := by
  obtain ⟨hlow, hhigh⟩ := topExponent_spec hm e
  have hunit : (0 : ℚ) < 2 ^ e := by positivity
  have hfine : (10 : ℚ) ^ (topExponent m e - (18 : ℕ)) < 2 ^ e := by
    have hm' : (m : ℚ) < 10 ^ 17 := by exact_mod_cast hsize
    have hsplit : (10 : ℚ) ^ (topExponent m e - 1)
        = 10 ^ (topExponent m e - (18 : ℕ)) * 10 ^ 17 := by
      rw [← zpow_natCast, ← zpow_add₀ (by norm_num)]
      congr 1
      omega
    rw [hsplit] at hlow
    nlinarith
  obtain ⟨D, K, hsearch, hgrid, hK⟩ := searchGrids_spec hm hnormal 18 _ hfine
  obtain ⟨-, hpos, hreads, hnear⟩ := onGrid?_spec hm hnormal hgrid
  refine ⟨D, K, by rw [shortest, if_neg hm.ne', hsearch], hpos, ?_, hreads, hnear⟩
  have hpow : (0 : ℚ) < 10 ^ K := by positivity
  have hm' : (1 : ℚ) ≤ m := by exact_mod_cast hm
  have hupper : (D : ℚ) * 10 ^ K ≤ m * 2 ^ e + 2 ^ e / 2 := by
    have := ((readsBack_iff hm hnormal).1 hreads).elim le_of_lt fun h => h.1.le
    rw [abs_le] at this
    linarith
  have hbound : (D : ℚ) * 10 ^ K < 10 * (m + 1) * 10 ^ K := by
    rcases hK with rfl | hcoarse
    · nlinarith
    · rw [zpow_add_one₀ (by norm_num)] at hcoarse
      nlinarith
  have := lt_of_mul_lt_mul_right hbound hpow.le
  exact_mod_cast this

end VulnScan.Number
