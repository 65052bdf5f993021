import Mathlib.Algebra.Ring.Nat
import Mathlib.Data.List.Induction
import VulnScan.Text.Hexadecimal
import VulnScan.Text.Numeral

/-! # Numerals and their digits

What readers rely on when they meet a numeral: it consists of digits, has no zero in front unless
it is the zero, is as long as its number is large, and padding does not change its value. Without a
zero in front there is only one way to write a number (`digits_value`).
-/

set_option autoImplicit false

namespace VulnScan.Text

theorem isDigit_of_mem_digits {n : Nat} {c : Char} (h : c ∈ digits n) : isDigit c = true :=
  List.all_eq_true.1 (digits_all_isDigit n) c h

/-- Only the numeral of zero starts with a zero. -/
theorem digits_head_zero {n : Nat} (h : (digits n).head? = some '0') : digits n = ['0'] := by
  fun_induction digits n with
  | case1 n hn => simpa using h
  | case2 n hn ih =>
    have hne : digits (n / 10) ≠ [] := digits_ne_nil _
    obtain ⟨c, cs, hcs⟩ := List.exists_cons_of_ne_nil hne
    rw [hcs, List.cons_append] at h
    have hzero : digits (n / 10) = ['0'] := ih (by rw [hcs]; exact h)
    -- the numeral of a number other than zero would have the value zero
    have hvalue := value_digits (n / 10)
    rw [hzero] at hvalue
    have : value ['0'] = 0 := rfl
    omega

theorem length_digits_pos (n : Nat) : 0 < (digits n).length :=
  List.length_pos_iff.2 (digits_ne_nil n)

/-- A number below `10 ^ width` has at most `width` digits. -/
theorem length_digits_le {n width : Nat} (hw : 0 < width) (h : n < 10 ^ width) :
    (digits n).length ≤ width := by
  induction width generalizing n with
  | zero => omega
  | succ width ih =>
    rw [digits]
    split
    · simp
    · next hn =>
      have hlow : n / 10 < 10 ^ width := by omega
      have hpos : 0 < width := by
        rcases Nat.eq_zero_or_pos width with rfl | hpos
        · omega
        · exact hpos
      simpa using ih hpos hlow

theorem valueFrom_cons (s : Nat) (c : Char) (ds : List Char) :
    valueFrom s (c :: ds) = valueFrom (10 * s + digitValue c) ds := by
  rw [valueFrom, List.foldl_cons, ← valueFrom]

theorem le_valueFrom (s : Nat) (ds : List Char) : s ≤ valueFrom s ds := by
  induction ds generalizing s with
  | nil => exact Nat.le_refl s
  | cons c ds ih =>
    rw [valueFrom_cons]
    exact Nat.le_trans (by omega) (ih _)

/-- The character of a digit is the digit. -/
theorem digitChar_digitValue {c : Char} (h : isDigit c = true) : digitChar (digitValue c) = c := by
  simp only [isDigit, Bool.and_eq_true, decide_eq_true_eq] at h
  have hlow : 48 ≤ c.toNat := h.1
  have hhigh : c.toNat ≤ 57 := h.2
  have hcode : 48 + digitValue c % 10 = c.toNat := by
    unfold digitValue
    omega
  rw [digitChar, hcode, Char.ofNat_toNat]

theorem digitValue_lt {c : Char} (h : isDigit c = true) : digitValue c < 10 := by
  have hvalue := (digitChar_facts (digitValue c)).1
  rw [digitChar_digitValue h] at hvalue
  omega

/-- Digits make a number below the power of ten of their count. -/
theorem value_lt {ds : List Char} (hds : ∀ c ∈ ds, isDigit c = true) :
    value ds < 10 ^ ds.length := by
  induction ds using List.reverseRecOn with
  | nil => exact Nat.one_pos
  | append_singleton ds c ih =>
    have hc : digitValue c < 10 := digitValue_lt (hds c (by simp))
    have hds' : value ds < 10 ^ ds.length := ih fun c hc => hds c (List.mem_append_left _ hc)
    have hsum : value (ds ++ [c]) = 10 * value ds + digitValue c := by
      rw [value, valueFrom_append]
      rfl
    rw [hsum, List.length_append, List.length_singleton, Nat.pow_succ]
    omega

/-- A number that is not written with a zero in front is not zero. -/
theorem value_pos {c : Char} (hc : isDigit c = true) (hzero : c ≠ '0') (ds : List Char) :
    0 < value (c :: ds) := by
  have hpos : digitValue c ≠ 0 := by
    intro h
    have hchar := digitChar_digitValue hc
    rw [h] at hchar
    exact hzero (hchar.symm.trans (by decide))
  have hle : 10 * 0 + digitValue c ≤ value (c :: ds) := by
    rw [value, valueFrom_cons]
    exact le_valueFrom _ ds
  omega

/-- Digits without a zero in front are the numeral of their value. -/
theorem digits_value {ds : List Char} (hds : ∀ c ∈ ds, isDigit c = true) (hne : ds ≠ [])
    (hzero : ds.head? = some '0' → ds.length = 1) : digits (value ds) = ds := by
  induction ds using List.reverseRecOn with
  | nil => exact absurd rfl hne
  | append_singleton ds c ih =>
    have hc : isDigit c = true := hds c (List.mem_append_right _ List.mem_cons_self)
    have hlt : digitValue c < 10 := digitValue_lt hc
    have hsum : value (ds ++ [c]) = 10 * value ds + digitValue c := by
      rw [value, valueFrom_append]
      rfl
    have hlast : digitChar (10 * value ds + digitValue c) = c := by
      have hmod : (10 * value ds + digitValue c) % 10 = digitValue c % 10 := by omega
      rw [digitChar, hmod, ← digitChar, digitChar_digitValue hc]
    rw [hsum, digits, hlast]
    cases ds with
    | nil =>
      have hvalue : value [] = 0 := rfl
      rw [if_pos (by omega)]
      rfl
    | cons b ds =>
      -- what stands before the last digit is a numeral itself, of a number that is not zero
      have hb : b ≠ '0' := by
        rintro rfl
        have hlength := hzero rfl
        simp at hlength
      have hdigits : ∀ c ∈ b :: ds, isDigit c = true := fun c hc =>
        hds c (List.mem_append_left _ hc)
      have hpos := value_pos (hdigits b List.mem_cons_self) hb ds
      have hdiv : (10 * value (b :: ds) + digitValue c) / 10 = value (b :: ds) := by omega
      rw [if_neg (by omega), hdiv, ih hdigits (List.cons_ne_nil b ds) fun h =>
        absurd (Option.some.inj h) hb]

/-! ## Reading -/

/-- `s` writes the number `n`: in digits, with one plus sign before them or none. -/
def Writes (s : List Char) (n : Nat) : Prop :=
  ∃ ds, (s = ds ∨ s = '+' :: ds) ∧ ds ≠ [] ∧ (∀ c ∈ ds, isDigit c = true) ∧ value ds = n

theorem writes_digits (n : Nat) : Writes (digits n) n :=
  ⟨digits n, .inl rfl, digits_ne_nil n, fun _ => isDigit_of_mem_digits, value_digits n⟩

/-- A text that writes a number holds digits and plus signs only. -/
theorem Writes.notMem {s : List Char} {n : Nat} {c : Char} (h : Writes s n)
    (hc : isDigit c = false) (hplus : c ≠ '+') : c ∉ s := by
  obtain ⟨ds, hs, -, hds, -⟩ := h
  have hdigit : c ∉ ds := fun hmem => by simp [hds c hmem] at hc
  rcases hs with rfl | rfl
  · exact hdigit
  · simp [hplus, hdigit]

theorem Writes.ne_nil {s : List Char} {n : Nat} (h : Writes s n) : s ≠ [] := by
  obtain ⟨ds, rfl | rfl, hne, -⟩ := h
  · exact hne
  · exact List.cons_ne_nil _ _

theorem dropPlus_of_isDigit {ds : List Char} (hds : ∀ c ∈ ds, isDigit c = true) :
    dropPlus ds = ds := by
  cases ds with
  | nil => rfl
  | cons c ds =>
    have hc : c ≠ '+' := by
      rintro rfl
      exact absurd (hds '+' List.mem_cons_self) (by decide)
    simp [dropPlus, hc]

theorem eq_or_eq_plus (s : List Char) : s = dropPlus s ∨ s = '+' :: dropPlus s := by
  unfold dropPlus
  split
  · exact .inr rfl
  · exact .inl rfl

/-- A reader of numbers takes the texts that write them, and no others. -/
theorem parseBelow_eq_some_iff {bound : Nat} {s : List Char} {p : Fin bound} :
    parseBelow bound s = some p ↔ Writes s p := by
  constructor
  · intro h
    obtain ⟨n, hn, hp⟩ := Option.bind_eq_some_iff.1 h
    simp only [numeral?, List.all_eq_true] at hn
    split at hn
    · next hds =>
      cases hn
      split at hp
      · cases hp
        exact ⟨dropPlus s, eq_or_eq_plus s, hds.1, hds.2, rfl⟩
      · cases hp
    · cases hn
  · rintro ⟨ds, hs, hne, hds, hvalue⟩
    have hdrop : dropPlus s = ds := by
      rcases hs with rfl | rfl
      · exact dropPlus_of_isDigit hds
      · rfl
    have hnumeral : numeral? ds = some p.val := by
      rw [numeral?, if_pos ⟨hne, List.all_eq_true.2 hds⟩, hvalue]
    simp [parseBelow, hdrop, hnumeral]

theorem parseBelow_eq_none_iff {bound : Nat} {s : List Char} :
    parseBelow bound s = none ↔ ∀ p : Fin bound, ¬ Writes s p := by
  rw [Option.eq_none_iff_forall_ne_some]
  exact forall_congr' fun p => not_congr parseBelow_eq_some_iff

/-! ## Padding -/

theorem valueFrom_zeros (k : Nat) (ds : List Char) :
    valueFrom 0 (List.replicate k '0' ++ ds) = valueFrom 0 ds := by
  induction k with
  | zero => rfl
  | succ k ih =>
    have hzero : 10 * 0 + digitValue '0' = 0 := by decide
    rw [List.replicate_succ, List.cons_append, valueFrom_cons, hzero, ih]

theorem value_padded (width n : Nat) : value (padded width n) = n := by
  rw [padded, value, valueFrom_zeros]
  exact value_digits n

theorem isDigit_of_mem_padded {width n : Nat} {c : Char} (h : c ∈ padded width n) :
    isDigit c = true := by
  rcases List.mem_append.1 h with h | h
  · rw [List.eq_of_mem_replicate h]
    rfl
  · exact isDigit_of_mem_digits h

theorem length_padded_eq_max (width n : Nat) :
    (padded width n).length = max width (digits n).length := by
  simp only [padded, List.length_append, List.length_replicate]
  omega

theorem length_padded {width n : Nat} (hw : 0 < width) (h : n < 10 ^ width) :
    (padded width n).length = width := by
  rw [length_padded_eq_max]
  exact Nat.max_eq_left (length_digits_le hw h)

theorem padded_ne_nil (width n : Nat) : padded width n ≠ [] := by
  have := length_digits_pos n
  have := length_padded_eq_max width n
  exact List.length_pos_iff.1 (by omega)

/-! ## Digits before something else -/

/-- What follows a run of digits does not start with one. -/
def NoDigit (r : List Char) : Prop := ∀ c, r.head? = some c → isDigit c = false

theorem noDigit_nil : NoDigit [] := nofun

theorem noDigit_cons {c : Char} (h : isDigit c = false) (r : List Char) : NoDigit (c :: r) := by
  intro d hd
  cases hd
  exact h

theorem takeWhile_isDigit {ds r : List Char} (hds : ∀ c ∈ ds, isDigit c = true) (hr : NoDigit r) :
    (ds ++ r).takeWhile isDigit = ds := by
  rw [List.takeWhile_append_of_pos hds]
  cases r with
  | nil => simp
  | cons c r => simp [hr c rfl]

theorem dropWhile_isDigit {ds r : List Char} (hds : ∀ c ∈ ds, isDigit c = true) (hr : NoDigit r) :
    (ds ++ r).dropWhile isDigit = r := by
  rw [List.dropWhile_append_of_pos hds]
  cases r with
  | nil => simp
  | cons c r => simp [hr c rfl]

/-! ## Hexadecimal numerals -/

theorem spanHex_cons {c : Char} {d : Nat} (h : hexValue? c = some d) (n : Nat) (s : List Char) :
    spanHex n (c :: s) = spanHex (16 * n + d) s := by
  simp [spanHex, h]

/-- Reading the numeral of a number gives the number, and goes on with what follows. -/
theorem spanHex_hexDigits (n : Nat) (r : List Char) :
    spanHex 0 (hexDigits n ++ r) = spanHex n r := by
  fun_induction hexDigits n generalizing r with
  | case1 n h =>
    rw [List.cons_append, List.nil_append, spanHex_cons (hexValue?_hexDigit n), Nat.mod_eq_of_lt h]
    simp
  | case2 n h ih =>
    rw [List.append_assoc, ih, List.cons_append, List.nil_append,
      spanHex_cons (hexValue?_hexDigit n), Nat.div_add_mod]

/-- What is read of a hexadecimal numeral are the digits in front. -/
theorem spanHex_eq {n v : Nat} {s r : List Char} (h : spanHex n s = (v, r)) :
    ∃ ds, s = ds ++ r ∧ spanHex n ds = (v, []) := by
  induction s generalizing n with
  | nil =>
    cases h
    exact ⟨[], rfl, rfl⟩
  | cons c s ih =>
    cases hc : hexValue? c with
    | none =>
      simp only [spanHex, hc] at h
      cases h
      exact ⟨[], rfl, rfl⟩
    | some d =>
      rw [spanHex_cons hc] at h
      obtain ⟨ds, rfl, hds⟩ := ih h
      exact ⟨c :: ds, rfl, by rw [spanHex_cons hc, hds]⟩

/-- After the digits the reader goes on with what follows them. -/
theorem spanHex_append {n v : Nat} {ds : List Char} (h : spanHex n ds = (v, [])) (r : List Char) :
    spanHex n (ds ++ r) = spanHex v r := by
  induction ds generalizing n with
  | nil =>
    cases h
    rfl
  | cons c ds ih =>
    cases hc : hexValue? c with
    | none =>
      simp only [spanHex, hc] at h
      cases h
    | some d =>
      rw [spanHex_cons hc] at h
      rw [List.cons_append, spanHex_cons hc, ih h]

/-- What is read to its end are digits. -/
theorem isSome_hexValue?_of_span {n v : Nat} {ds : List Char} (h : spanHex n ds = (v, [])) :
    ∀ c ∈ ds, (hexValue? c).isSome = true := by
  induction ds generalizing n with
  | nil => nofun
  | cons c ds ih =>
    cases hc : hexValue? c with
    | none =>
      simp only [spanHex, hc] at h
      cases h
    | some d =>
      rw [spanHex_cons hc] at h
      intro b hb
      rcases List.mem_cons.1 hb with rfl | hb
      · rw [hc]
        rfl
      · exact ih h b hb

theorem hexDigits_ne_nil (n : Nat) : hexDigits n ≠ [] := by
  unfold hexDigits
  split <;> simp

/-- A number below `16 ^ width` has at most `width` hexadecimal digits. -/
theorem length_hexDigits_le {n width : Nat} (hw : 0 < width) (h : n < 16 ^ width) :
    (hexDigits n).length ≤ width := by
  induction width generalizing n with
  | zero => omega
  | succ width ih =>
    rw [hexDigits]
    split
    · simp
    · next hn =>
      have hlow : n / 16 < 16 ^ width := by omega
      have hpos : 0 < width := by
        rcases Nat.eq_zero_or_pos width with rfl | hpos
        · omega
        · exact hpos
      simpa using ih hpos hlow

end VulnScan.Text
