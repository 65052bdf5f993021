import VulnScan.Proofs.Number.Layouts
import VulnScan.Proofs.Number.NearMiss
import VulnScan.Proofs.Number.Scaling

/-! # Scores are read back

A finite score is written as its shortest decimal. The reader scales the digits in double precision
and rounds the result to single precision, so it rounds three times. The score comes back all the
same (`Single.readsBack`): on a fine grid the decimal is far from the ends of the rounding interval,
on a coarse one the ends are never close to a decimal, and a decimal at an end is scaled exactly.
-/

set_option autoImplicit false

namespace VulnScan.Number

variable {m D : ℕ} {e K : ℤ}

/-! ## Errors of scaling -/

section

variable {y : ℚ}

/-- The decimals of a fine grid that are nearest to a number are well inside its interval. -/
theorem kept_of_fine (hm : m < 2 ^ 24) (hnear : |(D : ℚ) * 10 ^ K - m * 2 ^ e| ≤ 10 ^ K / 2)
    (hfine : (10 : ℚ) ^ K ≤ 2 ^ e * (1 - 1 / 2 ^ 26))
    (hscale : |y - D * 10 ^ K| ≤ D * 10 ^ K * (slack / 2 ^ 62)) :
    |y - m * 2 ^ e| < 2 ^ e / 2 := by
  have hunit : (0 : ℚ) < 2 ^ e := by positivity
  have hsize : (m : ℚ) * 2 ^ e ≤ (2 ^ 24 - 1) * 2 ^ e := by
    have : (m : ℚ) + 1 ≤ 2 ^ 24 := by exact_mod_cast hm
    gcongr
    linarith
  generalize (D : ℚ) * 10 ^ K = x at hnear hscale
  generalize (m : ℚ) * 2 ^ e = v at hnear hsize ⊢
  rw [abs_le] at hnear hscale
  rw [abs_lt]
  norm_num at hnear hscale hfine hsize ⊢
  constructor <;> linarith

/-- On a coarse grid the ends of the interval keep away from the decimals. -/
theorem kept_of_coarse (hm : 0 < m) (hsize : m < 2 ^ 24) (hlow : -45 ≤ K) (hhigh : K ≤ 38)
    (hcoarse : (2 : ℚ) ^ e * (1 - 1 / 2 ^ 26) < 10 ^ K)
    (hinside : |(D : ℚ) * 10 ^ K - m * 2 ^ e| < 2 ^ e / 2) (hD : 0 < D)
    (hne : ¬(K = -32 ∧ D = 7038531 ∧ m = 11420669))
    (hscale : |y - D * 10 ^ K| ≤ D * 10 ^ K * (slack / 2 ^ 62)) :
    |y - m * 2 ^ e| < 2 ^ e / 2 := by
  have hpos : (0 : ℚ) < D * 10 ^ K := mul_pos (by exact_mod_cast hD) (by positivity)
  have hbelow : ((2 * m - 1 : ℕ) : ℚ) * 2 ^ (e - 1) = m * 2 ^ e - 2 ^ e / 2 := by
    rw [Nat.cast_sub (by omega), zpow_sub_one₀ two_ne_zero]
    push_cast
    ring
  have habove : ((2 * m + 1 : ℕ) : ℚ) * 2 ^ (e - 1) = m * 2 ^ e + 2 ^ e / 2 := by
    rw [zpow_sub_one₀ two_ne_zero]
    push_cast
    ring
  have hleft := middle_below (D := D) (n := 2 * m - 1) hlow hhigh hcoarse
    (show 2 * m - 1 ≤ 2 ^ 25 + 1 by omega)
  have hright := middle_above (D := D) (n := 2 * m + 1) hlow hhigh hcoarse
    (show 2 * m + 1 ≤ 2 ^ 25 + 1 by omega)
  rw [hbelow] at hleft
  rw [habove] at hright
  rw [abs_lt] at hinside ⊢
  rw [abs_le] at hscale
  have hleft := hleft (by linarith)
  have hright := hright (by linarith) hD (by omega)
  generalize (D : ℚ) * 10 ^ K = x at *
  norm_num at hleft hright hscale
  constructor <;> linarith

end

/-! ## Ends of intervals -/

/-- A decimal that is a binary number with a small significand has a small exponent. -/
theorem natAbs_le_of_eq {n : ℕ} {g : ℤ} (hn : 0 < n) (hsize : n < 5 ^ 23) (hD : 0 < D)
    (hdigits : D < 5 ^ 23) (h : (D : ℚ) * 10 ^ K = n * 2 ^ g) : K.natAbs ≤ 22 := by
  have hsame : (commonUnit D K n g).1 = (commonUnit D K n g).2 :=
    le_antisymm (commonUnit_le_iff.2 h.le) (commonUnit_ge_iff.2 h.ge)
  have hfive : ∀ k : ℕ, 5 ^ k ∣ Nat.pow 10 k := fun k => pow_dvd_pow_of_dvd (by decide) k
  have hcoprime : ∀ k j : ℕ, Nat.Coprime (5 ^ k) (Nat.pow 2 j) := fun k j =>
    Nat.Coprime.pow k j (by decide)
  have hless : ∀ {k b : ℕ}, 0 < b → b < 5 ^ 23 → 5 ^ k ∣ b → k ≤ 22 := fun hb hlt hdvd =>
    Nat.lt_succ_iff.1
      ((Nat.pow_lt_pow_iff_right (by decide)).1 ((Nat.le_of_dvd hb hdvd).trans_lt hlt))
  simp only [commonUnit] at hsame
  -- the fives of the power of ten divide the digits on the other side
  rcases le_total 0 K with hK | hK
  · have hdvd : 5 ^ K.toNat ∣ n * Nat.pow 10 (-K).toNat * Nat.pow 2 g.toNat :=
      hsame ▸ ((hfive _).mul_left D).mul_right _
    rw [show (-K).toNat = 0 by omega] at hdvd
    have := hless hn hsize (by simpa using (hcoprime _ _).dvd_of_dvd_mul_right hdvd)
    omega
  · have hdvd : 5 ^ (-K).toNat ∣ D * Nat.pow 10 K.toNat * Nat.pow 2 (-g).toNat :=
      hsame ▸ ((hfive _).mul_left n).mul_right _
    rw [show K.toNat = 0 by omega] at hdvd
    have := hless hD hdigits (by simpa using (hcoprime _ _).dvd_of_dvd_mul_right hdvd)
    omega

/-! ## Bounds of exponents -/

section

variable (hm : 0 < m) (hsize : m < 2 ^ 24) (hleast : -149 ≤ e) (hgreatest : e ≤ 104)
include hm hsize hleast hgreatest

/-- The shortest decimal of a number has a moderate exponent. -/
theorem exponent_bounds (hD : 0 < D) (hdigits : D < 10 * (m + 1))
    (hinside : |(D : ℚ) * 10 ^ K - m * 2 ^ e| ≤ 2 ^ e / 2) : -53 ≤ K ∧ K ≤ 38 := by
  have hpow : (0 : ℚ) < 10 ^ K := by positivity
  have hunit : (0 : ℚ) < 2 ^ e := by positivity
  have hmin : (2 : ℚ) ^ (-149 : ℤ) ≤ 2 ^ e := zpow_le_zpow_right₀ one_le_two hleast
  have hmax : (2 : ℚ) ^ e ≤ 2 ^ (104 : ℤ) := zpow_le_zpow_right₀ one_le_two hgreatest
  have hm1 : (1 : ℚ) ≤ m := by exact_mod_cast hm
  have hm2 : (m : ℚ) + 1 ≤ 2 ^ 24 := by exact_mod_cast hsize
  have hD1 : (1 : ℚ) ≤ D := by exact_mod_cast hD
  have hD2 : (D : ℚ) ≤ 10 * 2 ^ 24 := by
    have : (D : ℚ) < 10 * (m + 1) := by exact_mod_cast hdigits
    linarith
  rw [abs_le] at hinside
  constructor
  · have hlow : (2 : ℚ) ^ e / 2 ≤ 10 * 2 ^ 24 * 10 ^ K := by nlinarith
    have : (10 : ℚ) ^ (-54 : ℤ) < 10 ^ K := by
      norm_num at hmin hlow ⊢
      linarith
    have := (zpow_lt_zpow_iff_right₀ (by norm_num)).1 this
    omega
  · have hhigh : (10 : ℚ) ^ K ≤ 2 ^ 24 * 2 ^ e := by nlinarith
    have : (10 : ℚ) ^ K < 10 ^ (39 : ℤ) := by
      norm_num at hmax hhigh ⊢
      linarith
    have := (zpow_lt_zpow_iff_right₀ (by norm_num)).1 this
    omega

end

/-- A coarse grid is not among the finest. -/
theorem le_of_coarse (hleast : -149 ≤ e) (hcoarse : (2 : ℚ) ^ e * (1 - 1 / 2 ^ 26) < 10 ^ K) :
    -45 ≤ K := by
  have hmin : (2 : ℚ) ^ (-149 : ℤ) ≤ 2 ^ e := zpow_le_zpow_right₀ one_le_two hleast
  have : (10 : ℚ) ^ (-46 : ℤ) < 10 ^ K := by
    norm_num at hmin hcoarse ⊢
    linarith
  have := (zpow_lt_zpow_iff_right₀ (by norm_num)).1 this
  omega

/-! ## Rounding to single precision -/

/-- The number in single precision that is nearest. -/
def Binary.toSingle : Binary → Binary
  | .finite negative m e => Format.single.roundScaled negative m e
  | x => x

/-- The sign has no influence on how a fraction is rounded. -/
theorem withSign_round (f : Format) (negative negative' : Bool) (num den : ℕ) :
    (f.round negative num den).withSign negative' = f.round negative' num den := by
  simp only [Format.round]
  split_ifs <;> rfl

theorem Binary.toSingle_withSign (b : Binary) (negative : Bool) :
    (b.withSign negative).toSingle = b.toSingle.withSign negative := by
  cases b with
  | finite s m e => exact (withSign_round ..).symm
  | infinite s => rfl
  | nan => rfl

theorem Single.ofNumeral_real (b : Binary) : ofNumeral (.real b) = ofBinary b.toSingle := by
  cases b <;> rfl

/-- What is within half a unit of a number is rounded to it. -/
theorem Binary.toSingle_eq {b : Binary} {y : ℚ} (hb : b.Is y) (hy : 0 < y) (hm : m < 2 ^ 24)
    (hnormal : e = -149 ∨ -149 ≤ e ∧ 2 ^ 23 < m) (he : e ≤ 104)
    (h : |y - m * 2 ^ e| < 2 ^ e / 2 ∨ |y - m * 2 ^ e| = 2 ^ e / 2 ∧ m % 2 = 0) :
    b.toSingle = .finite false m e := by
  obtain ⟨n, g, rfl, rfl⟩ := hb
  have hn : 0 < n := by
    refine Nat.pos_of_ne_zero ?_
    rintro rfl
    simp at hy
  have hunit : (0 : ℚ) < 2 ^ e := by positivity
  have hunits : |(n : ℚ) * 2 ^ g - m * 2 ^ e| = |(n : ℚ) * 2 ^ g / 2 ^ e - m| * 2 ^ e := by
    rw [← abs_of_pos hunit, ← abs_mul, abs_of_pos hunit, sub_mul, div_mul_cancel₀ _ hunit.ne']
  refine round_eq (Nat.mul_pos hn (Nat.pow_pos (by decide))) (Nat.pow_pos (by decide)) hm hnormal
    (by decide) he ?_
  rw [scaled_ratio]
  rw [hunits] at h
  refine h.imp (fun h => ?_) fun ⟨h, heven⟩ => ⟨?_, heven⟩
  · exact lt_of_mul_lt_mul_right (by linarith) hunit.le
  · exact mul_right_cancel₀ hunit.ne' (by linarith)

/-! ## Regaining a number -/

/-- The shortest decimal of the number has few digits, and its significand is scaled to something
that is rounded to the number. -/
def Regained (m : ℕ) (e : ℤ) : Prop :=
  let d := shortest .single m e
  let s := Single.layout.significand d
  d.digits ≠ 0 ∧ d.digits < 10 ^ 19 ∧ d.exponent.natAbs < 2 ^ 29 ∧
    (scaleTen (Format.double.ofNat s.1) 4 s.2).map Binary.toSingle = some (.finite false m e)

instance (m : ℕ) (e : ℤ) : Decidable (Regained m e) :=
  inferInstanceAs (Decidable (_ ∧ _))

/-- The only decimal that comes too close to a middle is on the right side of it. -/
theorem regained_closest : Regained 11420669 (-107) := by
  decide +kernel

theorem regained_powers_from : ∀ i < 253, Regained (2 ^ 23) ((i : ℕ) - 148) := by
  decide +kernel

/-- Powers of two are regained. -/
theorem regained_power (hleast : -149 < e) (hgreatest : e ≤ 104) : Regained (2 ^ 23) e := by
  obtain ⟨i, hi⟩ := Int.eq_ofNat_of_zero_le (show 0 ≤ e + 148 by omega)
  have := regained_powers_from i (by omega)
  rwa [show (i : ℤ) - 148 = e by omega] at this

/-- The unit of the number next to the decimal that comes too close to a middle. -/
theorem closest_unit
    (h : |((7038531 : ℕ) : ℚ) * 10 ^ (-32 : ℤ) - (11420669 : ℕ) * 2 ^ e| ≤ 2 ^ e / 2) :
    e = -107 := by
  rw [abs_le] at h
  norm_num at h
  by_contra hne
  rcases lt_or_gt_of_ne hne with hlt | hgt
  · have : (2 : ℚ) ^ e ≤ 2 ^ (-108 : ℤ) := zpow_le_zpow_right₀ one_le_two (by omega)
    norm_num at this
    linarith
  · have : (2 : ℚ) ^ (-106 : ℤ) ≤ 2 ^ e := zpow_le_zpow_right₀ one_le_two (by omega)
    norm_num at this
    linarith

section

variable {s : ℕ} {E : ℤ} (hm : 0 < m) (hsize : m < 2 ^ 24) (hleast : -149 ≤ e) (hgreatest : e ≤ 104)
  (hs : 0 < s)
include hm hsize hleast hs

/-- A decimal inside the interval is scaled to something inside it. -/
theorem scaleTen_inside (hsmall : s < 2 ^ 53) (hE : E.natAbs ≤ 55)
    (hvalue : (s : ℚ) * 10 ^ E = D * 10 ^ K) (hD : 0 < D) (hK : K ≤ 38)
    (hnear : |(D : ℚ) * 10 ^ K - m * 2 ^ e| ≤ 10 ^ K / 2)
    (hinside : |(D : ℚ) * 10 ^ K - m * 2 ^ e| < 2 ^ e / 2)
    (hne : ¬(K = -32 ∧ D = 7038531 ∧ m = 11420669)) :
    ∃ b y, scaleTen (Format.double.ofNat s) 4 E = some b ∧ b.Is y ∧ 0 < y ∧
      |y - m * 2 ^ e| < 2 ^ e / 2 := by
  obtain ⟨b, y, hscale, hb, herror⟩ := scaleTen_near hs hsmall hE
  rw [hvalue] at herror
  have hx : (0 : ℚ) < D * 10 ^ K := mul_pos (by exact_mod_cast hD) (by positivity)
  have hy : 0 < y := by
    rw [abs_le] at herror
    norm_num at herror
    linarith
  refine ⟨b, y, hscale, hb, hy, ?_⟩
  rcases le_or_gt ((10 : ℚ) ^ K) (2 ^ e * (1 - 1 / 2 ^ 26)) with hfine | hcoarse
  · exact kept_of_fine hsize hnear hfine herror
  · exact kept_of_coarse hm hsize (le_of_coarse hleast hcoarse) hK hcoarse hinside hD hne herror

include hgreatest

/-- A decimal at an end of the interval is scaled exactly. -/
theorem scaleTen_end (hsmall : s < 5 ^ 22) (hend : |(s : ℚ) * 10 ^ E - m * 2 ^ e| = 2 ^ e / 2) :
    ∃ b, scaleTen (Format.double.ofNat s) 4 E = some b ∧ b.Is (s * 10 ^ E) := by
  obtain ⟨n, hn, hmiddle, hvalue⟩ :
      ∃ n : ℕ, 0 < n ∧ n < 2 ^ 25 ∧ (s : ℚ) * 10 ^ E = n * 2 ^ (e - 1) := by
    rw [zpow_sub_one₀ two_ne_zero]
    rcases (abs_eq (by positivity)).1 hend with habove | hbelow
    · refine ⟨2 * m + 1, by omega, by omega, ?_⟩
      push_cast
      linarith
    · refine ⟨2 * m - 1, by omega, by omega, ?_⟩
      rw [Nat.cast_sub (by omega)]
      push_cast
      linarith
  have hE := natAbs_le_of_eq hn (hmiddle.trans (by decide)) hs (hsmall.trans (by decide)) hvalue
  exact scaleTen_exact hs (hsmall.trans (by decide)) hE hvalue (hmiddle.trans (by decide))
    (by omega) (by omega)

end

theorem Layout.significand_exponent (y : Layout) (d : Decimal) :
    (y.significand d).2 = d.exponent ∨ (y.significand d).2 = -1 := by
  rw [significand]
  split_ifs
  · exact .inr rfl
  · exact .inl rfl

/-- Numbers that are no powers of two are regained. -/
theorem regained_of_normal (hm : 0 < m) (hsize : m < 2 ^ 24)
    (hnormal : e = -149 ∨ -149 ≤ e ∧ 2 ^ 23 < m) (hgreatest : e ≤ 104) : Regained m e := by
  have hleast : -149 ≤ e := hnormal.elim ge_of_eq And.left
  have hnopower : ¬(m = 2 ^ (Format.single.precision - 1) ∧ Format.single.least < e) := by
    simp only [Format.single]
    omega
  obtain ⟨D, K, hshortest, hD, hdigits, hreads, hnear⟩ :=
    shortest_spec (f := .single) hm hnopower (hsize.trans (by decide))
  have hinterval := (readsBack_iff hm hnopower).1 hreads
  have hclose := hinterval.elim le_of_lt fun h => h.1.le
  obtain ⟨hlow, hhigh⟩ := exponent_bounds hm hsize hleast hgreatest hD hdigits hclose
  by_cases hclosest : K = -32 ∧ D = 7038531 ∧ m = 11420669
  · obtain ⟨rfl, rfl, rfl⟩ := hclosest
    rw [closest_unit hclose]
    exact regained_closest
  -- what the reader makes of the decimal
  set s := Single.layout.significand ⟨D, K⟩ with hs
  have hvalue : (s.1 : ℚ) * 10 ^ s.2 = D * 10 ^ K := Layout.significand_value
  have hsmall : s.1 < 10 ^ 14 :=
    @Layout.significand_lt Single.layout ⟨D, K⟩ 9 (show D < 10 ^ 9 by omega)
  have hexponent : s.2 = K ∨ s.2 = -1 := Layout.significand_exponent ..
  have hx : (0 : ℚ) < D * 10 ^ K := mul_pos (by exact_mod_cast hD) (by positivity)
  have hpos : 0 < s.1 := by
    refine Nat.pos_of_ne_zero fun hzero => ?_
    rw [hzero, Nat.cast_zero, zero_mul] at hvalue
    linarith
  obtain ⟨b, y, hscale, hb, hy, hkept⟩ : ∃ b y, scaleTen (Format.double.ofNat s.1) 4 s.2 = some b ∧
      b.Is y ∧ 0 < y ∧
        (|y - m * 2 ^ e| < 2 ^ e / 2 ∨ |y - m * 2 ^ e| = 2 ^ e / 2 ∧ m % 2 = 0) := by
    rcases hinterval with hinside | ⟨hend, heven⟩
    · obtain ⟨b, y, hscale, hb, hy, hkept⟩ := scaleTen_inside hm hsize hleast hpos
        (hsmall.trans (by decide)) (show s.2.natAbs ≤ 55 by omega) hvalue hD hhigh hnear hinside
        hclosest
      exact ⟨b, y, hscale, hb, hy, .inl hkept⟩
    · rw [← hvalue] at hx hend
      obtain ⟨b, hscale, hb⟩ :=
        scaleTen_end hm hsize hleast hgreatest hpos (hsmall.trans (by decide)) hend
      exact ⟨b, _, hscale, hb, hx, .inr ⟨hend, heven⟩⟩
  rw [Regained, hshortest]
  refine ⟨hD.ne', show D < _ by omega, show K.natAbs < _ by omega, ?_⟩
  rw [← hs, hscale, Option.map_some, Binary.toSingle_eq hb hy hsize hnormal hgreatest hkept]

/-! ## Scores -/

namespace Single

variable {x : Single} {negative : Bool}

/-- The bits of a finite number tell its sign, significand and exponent. -/
theorem ofBinary_of_toBinary (h : x.toBinary = .finite negative m e) :
    ofBinary (.finite negative m e) = x := by
  obtain ⟨bits⟩ := x
  have hbits := bits.toNat_lt
  have hparts : bits.toNat = bits.toNat / 0x80000000 * 0x80000000
      + bits.toNat / 0x800000 % 256 * 0x800000 + bits.toNat % 0x800000 := by omega
  have hsign : (if bits.toNat / 0x80000000 = 1 then 0x80000000 else 0)
      = bits.toNat / 0x80000000 * 0x80000000 := by split <;> omega
  simp only [toBinary] at h
  split_ifs at h with hfraction hsmall hsmall
  all_goals
    cases h
    rw [ofBinary, Single.mk.injEq, ← UInt32.toNat_inj, UInt32.toNat_ofNat']
    simp only [beq_iff_eq]
  · rw [hsign, if_pos (Nat.mod_lt _ (by decide))]
    omega
  · rw [hsign, if_neg (by omega), sub_add_cancel, Int.toNat_natCast, Nat.add_sub_cancel_left,
      ← Nat.add_assoc, ← hparts, Nat.mod_eq_of_lt hbits]

/-- The significands and exponents of finite numbers. -/
theorem toBinary_bounds (h : x.toBinary = .finite negative m e) :
    m < 2 ^ 24 ∧ e ≤ 104 ∧ (e = -149 ∨ -149 < e ∧ 2 ^ 23 ≤ m) := by
  simp only [toBinary] at h
  split_ifs at h <;> cases h <;> refine ⟨?_, ?_, ?_⟩ <;> omega

/-- A number that is regained is read back. -/
theorem readsBack_of_regained (hx : x.toBinary = .finite negative m e) (h : Regained m e) :
    x.ReadsBack := by
  obtain ⟨hpos, hdigits, hexponent, hregained⟩ := h
  obtain ⟨b, hscale, hb⟩ := Option.map_eq_some_iff.1 hregained
  have hliteral : x.literal? = some (layout.literal negative (shortest .single m e)) := by
    rw [literal?, hx]
  rw [ReadsBack, hliteral, Option.bind_some,
    Layout.numeral?_literal negative hpos hdigits (by decide) hexponent, realOf, hscale]
  rw [Option.map_some, Option.map_some, Option.map_some, ofNumeral_real,
    Binary.toSingle_withSign, hb]
  exact congrArg some (ofBinary_of_toBinary hx)

/-- **A finite number is read back from its literal.** -/
theorem readsBack (h : x.isFinite = true) : x.ReadsBack := by
  cases hx : x.toBinary with
  | finite negative m e =>
    obtain ⟨hsize, hgreatest, hnormal⟩ := toBinary_bounds hx
    rcases Nat.eq_zero_or_pos m with rfl | hm
    · obtain rfl : e = -149 := by omega
      rw [← ofBinary_of_toBinary hx]
      cases negative <;> decide +kernel
    · refine readsBack_of_regained hx ?_
      by_cases hpower : -149 < e ∧ m = 2 ^ 23
      · rw [hpower.2]
        exact regained_power hpower.1 hgreatest
      · exact regained_of_normal hm hsize (by omega) hgreatest
  | infinite negative => simp [isFinite, hx] at h
  | nan => simp [isFinite, hx] at h

end Single

end VulnScan.Number

namespace VulnScan.Json.Codec

open Number

/-- Finite scores come back. -/
theorem single_returns {x : Single} (h : x.isFinite = true) : Codec.single.Returns x x := by
  obtain ⟨n, hbind, hx⟩ := Option.map_eq_some_iff.1 (Single.readsBack h)
  obtain ⟨l, hl, hn⟩ := Option.bind_eq_some_iff.1 hbind
  rcases x.literal?_cases with ⟨-, l', hl', hsound⟩ | ⟨hinfinite, -⟩
  · obtain rfl : l = l' := Option.some.inj (hl.symm.trans hl')
    have hencode : single.encode x = .number l := by simp [single, hl]
    refine ⟨?_, ?_⟩ <;> rw [hencode]
    · exact hsound
    · simp [single, numeralOf, hn, hx, Except.map]
  · rw [h] at hinfinite
    cases hinfinite

/-- What comes back of an optional score: a score that is not finite is lost. -/
theorem score_returns (a : Option Single) :
    Codec.single.option.Returns a (a.filter Single.isFinite) := by
  cases a with
  | none => exact option_returns_none _
  | some x =>
    rcases x.literal?_cases with ⟨hfinite, l, hl, -⟩ | ⟨hinfinite, hnone⟩
    · have hencode : Codec.single.encode x ≠ .null := by simp [single, hl]
      simpa [Option.filter, hfinite] using option_returns_some (single_returns hfinite) hencode
    · have hencode : Codec.single.encode x = .null := by simp [single, hnone]
      simpa [Option.filter, hinfinite] using option_returns_of_null hencode

end VulnScan.Json.Codec
