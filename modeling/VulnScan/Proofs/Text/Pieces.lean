import Mathlib.Data.List.TakeWhile
import VulnScan.Text.Blank
import VulnScan.Text.Numeral
import VulnScan.Text.Split

/-! # Trimming and cutting

What is left of a text when it is trimmed is told by what it is made of (`Trims`): blanks, then the
text that is left, which neither begins nor ends with a blank, then blanks. Likewise the pieces of a
text are told by what they are: they hold no separator, and joined they are the text
(`splitAll_eq_iff`).
-/

set_option autoImplicit false

namespace VulnScan.Text

/-! ## Trimming -/

/-- All characters are blank. -/
def AllBlank (s : List Char) : Prop := ∀ c ∈ s, isBlank c = true

/-- There is no blank at either end. -/
structure IsTrimmed (t : List Char) : Prop where
  head : ∀ c, t.head? = some c → isBlank c = false
  last : ∀ c, t.getLast? = some c → isBlank c = false

/-- `t` is what is left of `s` without the blanks at either end. -/
def Trims (s t : List Char) : Prop :=
  IsTrimmed t ∧ ∃ before after, AllBlank before ∧ AllBlank after ∧ s = before ++ t ++ after

theorem AllBlank.reverse {s : List Char} (h : AllBlank s) : AllBlank s.reverse :=
  fun c hc => h c (List.mem_reverse.1 hc)

theorem trimLeft_cons {c : Char} (h : isBlank c = false) (s : List Char) :
    trimLeft (c :: s) = c :: s := by
  simp [trimLeft, h]

theorem trimLeft_append {b s : List Char} (hb : AllBlank b) : trimLeft (b ++ s) = trimLeft s :=
  List.dropWhile_append_of_pos hb

theorem trimRight_append {b s : List Char} (hb : AllBlank b) :
    trimRight (s ++ b) = trimRight s := by
  rw [trimRight, List.reverse_append, List.dropWhile_append_of_pos hb.reverse, ← trimRight]

/-- Blanks around a text do not count. -/
theorem trim_append {a s b : List Char} (ha : AllBlank a) (hb : AllBlank b) :
    trim (a ++ s ++ b) = trim s := by
  rw [trim, List.append_assoc, trimLeft_append ha, trim, trimLeft, trimLeft,
    List.dropWhile_append]
  split
  · next hnil =>
    -- the text is blank itself, and so is what follows it
    have hs : s.dropWhile isBlank = [] := by simpa using hnil
    have hb' : b.dropWhile isBlank = [] := List.dropWhile_eq_nil_iff.2 hb
    rw [hs, hb']
  · exact trimRight_append hb

theorem IsTrimmed.trim_eq {t : List Char} (h : IsTrimmed t) : trim t = t := by
  have hleft : trimLeft t = t := by
    cases t with
    | nil => rfl
    | cons c t => exact trimLeft_cons (h.head c rfl) t
  have hright : trimRight t = t := by
    rw [trimRight]
    cases hrev : t.reverse with
    | nil => simpa using hrev.symm
    | cons c r =>
      have hlast : t.getLast? = some c := by
        rw [List.getLast?_eq_head?_reverse, hrev]
        rfl
      rw [List.dropWhile_cons_of_neg (by simp [h.last c hlast]), ← hrev, List.reverse_reverse]
  rw [trim, hleft, hright]

theorem trimLeft_spec (s : List Char) :
    (∃ b, AllBlank b ∧ s = b ++ trimLeft s) ∧
      ∀ c, (trimLeft s).head? = some c → isBlank c = false := by
  refine ⟨⟨s.takeWhile isBlank, List.all_eq_true.1 List.all_takeWhile,
    List.takeWhile_append_dropWhile.symm⟩, fun c hc => ?_⟩
  have hnot := List.head?_dropWhile_not isBlank s
  rw [trimLeft] at hc
  rw [hc] at hnot
  simpa using hnot

theorem trimRight_spec (s : List Char) :
    (∃ b, AllBlank b ∧ s = trimRight s ++ b) ∧
      ∀ c, (trimRight s).getLast? = some c → isBlank c = false := by
  obtain ⟨⟨b, hb, hs⟩, hhead⟩ := trimLeft_spec s.reverse
  refine ⟨⟨b.reverse, hb.reverse, ?_⟩, fun c hc => hhead c ?_⟩
  · have hrev := congrArg List.reverse hs
    rwa [List.reverse_reverse, List.reverse_append] at hrev
  · rwa [trimRight, List.getLast?_reverse] at hc

/-- Nothing but blanks at the ends is taken away, and all of them. -/
theorem trims_trim (s : List Char) : Trims s (trim s) := by
  obtain ⟨⟨before, hbefore, hs⟩, hhead⟩ := trimLeft_spec s
  obtain ⟨⟨after, hafter, hleft⟩, hlast⟩ := trimRight_spec (trimLeft s)
  refine ⟨⟨fun c hc => hhead c ?_, hlast⟩, before, after, hbefore, hafter, ?_⟩
  · -- the first character is still that of the text without blanks in front
    rw [hleft, List.head?_append]
    rw [trim] at hc
    rw [hc]
    rfl
  · rw [List.append_assoc, trim, ← hleft, ← hs]

/-- What is left of a text when it is trimmed is determined by what it is made of. -/
theorem trims_iff {s t : List Char} : Trims s t ↔ trim s = t := by
  constructor
  · rintro ⟨ht, before, after, hbefore, hafter, rfl⟩
    rw [trim_append hbefore hafter, ht.trim_eq]
  · rintro rfl
    exact trims_trim s

/-- A text without any blank is trimmed. -/
theorem isTrimmed_of_noBlank {t : List Char} (h : ∀ c ∈ t, isBlank c = false) : IsTrimmed t where
  head c hc := h c (List.mem_of_head? hc)
  last c hc := h c (List.mem_of_getLast? hc)

theorem isBlank_of_isDigit {c : Char} (h : isDigit c = true) : isBlank c = false := by
  have hcode : 48 ≤ c.toNat ∧ c.toNat ≤ 57 := by
    simp only [isDigit, Bool.and_eq_true, decide_eq_true_eq, Char.le_def, UInt32.le_iff_toNat_le]
      at h
    exact h
  have hcodes : ∀ n < 58, 48 ≤ n → inRanges blankRanges n = false := by decide
  exact hcodes c.toNat (by omega) hcode.1

/-! ## Cutting -/

theorem eq_of_after {mark s r : List Char} (h : after mark s = some r) : s = mark ++ r := by
  induction mark generalizing s with
  | nil =>
    cases h
    rfl
  | cons m ms ih =>
    cases s with
    | nil => cases h
    | cons c cs =>
      simp only [after] at h
      split at h
      · next hc => rw [hc, ih h, List.cons_append]
      · cases h

theorem after_append (mark r : List Char) : after mark (mark ++ r) = some r := by
  induction mark with
  | nil => rfl
  | cons m ms ih => rw [List.cons_append, after, if_pos rfl, ih]

theorem after_eq_some_iff {mark s r : List Char} : after mark s = some r ↔ s = mark ++ r := by
  constructor
  · exact eq_of_after
  · rintro rfl
    exact after_append mark r

/-- `a` and `b` stand before and after the first place of `mark` in `s`. -/
structure CutsAt (mark s a b : List Char) : Prop where
  whole : s = a ++ mark ++ b
  first : ∀ a' b', s = a' ++ mark ++ b' → a.length ≤ a'.length

theorem splitAtMark_eq_some_iff {mark s a b : List Char} :
    splitAtMark mark s = some (a, b) ↔ CutsAt mark s a b := by
  induction s generalizing a with
  | nil =>
    rw [splitAtMark, Option.map_eq_some_iff]
    constructor
    · rintro ⟨r, hr, hpair⟩
      cases hpair
      exact ⟨eq_of_after hr, fun _ _ _ => Nat.zero_le _⟩
    · intro h
      obtain ⟨rfl, hmark, rfl⟩ : a = [] ∧ mark = [] ∧ b = [] := by simpa using h.whole.symm
      exact ⟨[], after_eq_some_iff.2 (by rw [hmark]; rfl), rfl⟩
  | cons c cs ih =>
    rw [splitAtMark]
    cases hafter : after mark (c :: cs) with
    | some r =>
      have hr := eq_of_after hafter
      constructor
      · intro h
        cases h
        exact ⟨hr, fun _ _ _ => Nat.zero_le _⟩
      · intro h
        obtain rfl : a = [] := List.length_eq_zero_iff.1 (Nat.le_zero.1 (h.first [] r hr))
        rw [List.append_cancel_left (hr.symm.trans h.whole)]
    | none =>
      -- the mark does not stand in front, so its first place is behind `c`
      have hne : ∀ a b, c :: cs = a ++ mark ++ b → ∃ a', a = c :: a' ∧ cs = a' ++ mark ++ b := by
        intro a b h
        cases a with
        | nil =>
          have hsome : after mark (c :: cs) = some b := after_eq_some_iff.2 h
          rw [hafter] at hsome
          cases hsome
        | cons c' a' =>
          obtain ⟨rfl, htail⟩ := List.cons.inj h
          exact ⟨a', rfl, htail⟩
      simp only [Option.map_eq_some_iff]
      constructor
      · rintro ⟨⟨a₀, b₀⟩, hp, hpair⟩
        cases hpair
        have hcut := ih.1 hp
        refine ⟨by rw [hcut.whole]; rfl, fun a' b' h => ?_⟩
        obtain ⟨a', rfl, htail⟩ := hne a' b' h
        exact Nat.succ_le_succ (hcut.first a' b' htail)
      · intro h
        obtain ⟨a', rfl, htail⟩ := hne a b h.whole
        refine ⟨(a', b), ih.2 ⟨htail, fun a₂ b₂ h₂ => ?_⟩, rfl⟩
        have hle := h.first (c :: a₂) b₂ (by rw [h₂]; rfl)
        simpa using hle

/-- What follows a text does not change where it is cut. -/
theorem CutsAt.append {mark s a b : List Char} (h : CutsAt mark s a b) (t : List Char) :
    CutsAt mark (s ++ t) a (b ++ t) := by
  refine ⟨by rw [h.whole, List.append_assoc, List.append_assoc],
    fun a' b' hcut => ?_⟩
  by_contra hlt
  -- an earlier place would end within the text itself
  have hlen : (a' ++ mark).length ≤ s.length := by
    rw [h.whole]
    simp only [List.length_append]
    omega
  have hpre : a' ++ mark <+: s ++ t := ⟨b', hcut.symm⟩
  obtain ⟨b'', hs⟩ := List.prefix_of_prefix_length_le hpre (List.prefix_append s t) hlen
  exact hlt (h.first a' b'' hs.symm)

theorem splitAtMark_eq_none_iff {mark s : List Char} :
    splitAtMark mark s = none ↔ ¬ mark <:+: s := by
  constructor
  · rintro hnone ⟨a, b, rfl⟩
    induction a with
    | nil =>
      rw [List.nil_append] at hnone
      cases hs : mark ++ b with
      | nil =>
        have hmark : after mark [] = some b := by rw [← hs, after_append]
        simp [hs, splitAtMark, hmark] at hnone
      | cons c cs =>
        have hmark : after mark (c :: cs) = some b := by rw [← hs, after_append]
        simp [hs, splitAtMark, hmark] at hnone
    | cons c a ih =>
      rw [List.cons_append, List.cons_append, splitAtMark] at hnone
      split at hnone
      · cases hnone
      · exact ih (Option.map_eq_none_iff.1 hnone)
  · intro h
    rw [Option.eq_none_iff_forall_ne_some]
    rintro ⟨a, b⟩ hsome
    exact h ⟨a, b, (splitAtMark_eq_some_iff.1 hsome).whole.symm⟩

variable {sep : Char}

theorem splitFirst_append {a : List Char} (ha : sep ∉ a) (b : List Char) :
    splitFirst sep (a ++ sep :: b) = some (a, b) := by
  induction a with
  | nil => simp [splitFirst]
  | cons c a ih =>
    obtain ⟨hc, ha⟩ : sep ≠ c ∧ sep ∉ a := by simpa using ha
    rw [List.cons_append, splitFirst, if_neg (Ne.symm hc), ih ha]
    rfl

theorem splitFirst_of_notMem {s : List Char} (hs : sep ∉ s) : splitFirst sep s = none := by
  induction s with
  | nil => rfl
  | cons c s ih =>
    obtain ⟨hc, hs⟩ : sep ≠ c ∧ sep ∉ s := by simpa using hs
    rw [splitFirst, if_neg (Ne.symm hc), ih hs]
    rfl

theorem splitFirst_eq_some_iff {s a b : List Char} :
    splitFirst sep s = some (a, b) ↔ sep ∉ a ∧ s = a ++ sep :: b := by
  constructor
  · intro h
    by_cases hs : sep ∈ s
    · obtain ⟨a', b', rfl, ha'⟩ := List.eq_append_cons_of_mem hs
      rw [splitFirst_append ha'] at h
      cases h
      exact ⟨ha', rfl⟩
    · rw [splitFirst_of_notMem hs] at h
      cases h
  · rintro ⟨ha, rfl⟩
    exact splitFirst_append ha b

theorem splitLast_eq_some_iff {s a b : List Char} :
    splitLast sep s = some (a, b) ↔ sep ∉ b ∧ s = a ++ sep :: b := by
  constructor
  · intro h
    obtain ⟨⟨b', a'⟩, hfirst, hpair⟩ := Option.map_eq_some_iff.1 h
    cases hpair
    obtain ⟨hb, hs⟩ := splitFirst_eq_some_iff.1 hfirst
    refine ⟨fun hmem => hb (List.mem_reverse.1 hmem), ?_⟩
    rw [← List.reverse_reverse s, hs, List.reverse_append, List.reverse_cons, List.append_assoc,
      List.singleton_append]
  · rintro ⟨hb, rfl⟩
    rw [splitLast, List.reverse_append, List.reverse_cons, List.append_assoc,
      List.singleton_append, splitFirst_append fun hmem => hb (List.mem_reverse.1 hmem)]
    simp

theorem splitAll_append {p : List Char} (hp : sep ∉ p) (s : List Char) :
    splitAll sep (p ++ sep :: s) = p :: splitAll sep s := by
  induction p with
  | nil => simp [splitAll]
  | cons c p ih =>
    obtain ⟨hc, hp⟩ : sep ≠ c ∧ sep ∉ p := by simpa using hp
    rw [List.cons_append, splitAll, if_neg (Ne.symm hc), ih hp]

theorem splitAll_of_notMem {p : List Char} (hp : sep ∉ p) : splitAll sep p = [p] := by
  induction p with
  | nil => rfl
  | cons c p ih =>
    obtain ⟨hc, hp⟩ : sep ≠ c ∧ sep ∉ p := by simpa using hp
    rw [splitAll, if_neg (Ne.symm hc), ih hp]

/-- No piece holds a separator. -/
theorem notMem_of_mem_splitAll {s p : List Char} (h : p ∈ splitAll sep s) : sep ∉ p := by
  induction s generalizing p with
  | nil =>
    rw [splitAll, List.mem_singleton] at h
    rw [h]
    exact List.not_mem_nil
  | cons c s ih =>
    rw [splitAll] at h
    by_cases hc : c = sep
    · rw [if_pos hc] at h
      rcases List.mem_cons.1 h with rfl | h
      · exact List.not_mem_nil
      · exact ih h
    · rw [if_neg hc] at h
      obtain ⟨q, qs, hqs⟩ := List.exists_cons_of_ne_nil (splitAll_ne_nil sep s)
      rw [hqs] at h ih
      rcases List.mem_cons.1 h with rfl | h
      · simpa using ⟨Ne.symm hc, ih List.mem_cons_self⟩
      · exact ih (List.mem_cons_of_mem q h)

/-- Pieces without separators are found again in the text that they make. -/
theorem splitAll_joinWith {ps : List (List Char)} (hne : ps ≠ []) (hps : ∀ p ∈ ps, sep ∉ p) :
    splitAll sep (joinWith [sep] ps) = ps := by
  induction ps with
  | nil => exact absurd rfl hne
  | cons p ps ih =>
    have hp : sep ∉ p := hps p List.mem_cons_self
    cases ps with
    | nil => exact splitAll_of_notMem hp
    | cons q qs =>
      have hrest := ih (List.cons_ne_nil q qs) fun p hp => hps p (List.mem_cons_of_mem _ hp)
      rw [joinWith, List.append_assoc, List.singleton_append, splitAll_append hp, hrest]

/-- The pieces of a text are what stands between its separators. -/
theorem splitAll_eq_iff {s : List Char} {ps : List (List Char)} : splitAll sep s = ps ↔
    ps ≠ [] ∧ (∀ p ∈ ps, sep ∉ p) ∧ joinWith [sep] ps = s := by
  constructor
  · rintro rfl
    exact ⟨splitAll_ne_nil sep s, fun _ => notMem_of_mem_splitAll, joinWith_splitAll sep s⟩
  · rintro ⟨hne, hps, rfl⟩
    exact splitAll_joinWith hne hps

end VulnScan.Text
