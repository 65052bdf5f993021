import Mathlib.Tactic.SplitIfs
import VulnScan.Proofs.Json.Spelling
import VulnScan.Proofs.Text.Numerals

/-! # Reading what is written

Any way to write a value is read as this value, and what follows it is left (`Spells.reads`). Hence
a whole text that writes a value is read as it (`readText_eq`).
-/

set_option autoImplicit false

namespace VulnScan.Json

/-! ## Strings -/

/-- How a character is found again in a string: as itself, or as the unit of a numeric escape. -/
def pieceOf (c : Char) : Piece :=
  if c.toNat < 32 ∧ c ∉ ['\n', '\r', '\t', '\x08', '\x0c'] then .unit c.toNat else .char c

theorem hexUnit?_control {n : Nat} (h : n < 32) :
    hexUnit? '0' '0' (Text.hexDigit (n / 16)) (Text.hexDigit n) = some n := by
  have hzero : Text.hexValue? '0' = some 0 := by decide
  simp only [hexUnit?, hzero, Text.hexValue?_hexDigit, Option.pure_def, Option.bind_eq_bind,
    Option.bind_some, Option.some.injEq]
  omega

theorem scanString_plain {c : Char} (t : List Char) (hquote : c ≠ '"') (hslash : c ≠ '\\')
    (hcontrol : ¬ c.toNat < 32) :
    scanString (c :: t) = (.char c :: (scanString t).1, (scanString t).2) := by
  have hgap : c ≠ gap := by
    rintro rfl
    exact hcontrol (by decide)
  rw [scanString]
  · rw [if_neg hgap, if_neg hcontrol]
  all_goals simp_all

theorem scanString_escapeChar (c : Char) (t : List Char) :
    scanString (escapeChar c ++ t) = (pieceOf c :: (scanString t).1, (scanString t).2) := by
  unfold escapeChar
  split_ifs with hquote hslash hn hr ht hb hf hcontrol
  · subst hquote; simp [scanString, escaped?, pieceOf]
  · subst hslash; simp [scanString, escaped?, pieceOf]
  · subst hn; simp [scanString, escaped?, pieceOf]
  · subst hr; simp [scanString, escaped?, pieceOf]
  · subst ht; simp [scanString, escaped?, pieceOf]
  · obtain rfl : c = '\x08' := Char.ext (UInt32.toNat_inj.1 hb)
    simp [scanString, escaped?, pieceOf]
  · obtain rfl : c = '\x0c' := Char.ext (UInt32.toNat_inj.1 hf)
    simp [scanString, escaped?, pieceOf]
  · have hb' : c ≠ '\x08' := by rintro rfl; exact hb rfl
    have hf' : c ≠ '\x0c' := by rintro rfl; exact hf rfl
    simp [scanString, hexUnit?_control hcontrol, pieceOf, *]
  · have hpiece : pieceOf c = .char c := if_neg fun h => hcontrol h.1
    rw [hpiece]
    exact scanString_plain t hquote hslash hcontrol

theorem scanString_escaped (s r : List Char) :
    scanString (s.flatMap escapeChar ++ '"' :: r) = (s.map pieceOf, .ok r) := by
  induction s with
  | nil => simp [scanString]
  | cons c s ih =>
      rw [List.flatMap_cons, List.append_assoc, scanString_escapeChar, ih]
      rfl

theorem assemble_cons (c : Char) (ps : List Piece) :
    assemble none (pieceOf c :: ps) = (assemble none ps).map (c :: ·) := by
  unfold pieceOf
  split_ifs with h
  · -- a numeric escape below 32 is no half of a pair
    have hhigh : isHigh c.toNat = false := by simp [isHigh]; omega
    have hlow : isLow c.toNat = false := by simp [isLow]; omega
    cases ps with
    | nil => simp [assemble, hhigh, hlow]
    | cons p ps => cases p <;> simp [assemble, hhigh, hlow]
  · simp [assemble]

theorem assemble_pieceOf (s : List Char) : assemble none (s.map pieceOf) = .ok s := by
  induction s with
  | nil => rfl
  | cons c s ih => rw [List.map_cons, assemble_cons, ih]; rfl

theorem readString_escaped (s : String) (r : List Char) :
    readString (s.toList.flatMap escapeChar ++ '"' :: r) = .ok (.ok s, r) := by
  simp [readString, scanString_escaped, assemble_pieceOf, Except.map, String.ofList_toList]

/-! ## Numbers -/

/-- What comes next does not go on with a number. -/
def Stops (r : List Char) : Prop :=
  ∀ c, r.head? = some c → Text.isDigit c = false ∧ c ≠ '.' ∧ c ≠ 'e' ∧ c ≠ 'E'

theorem Stops.noDigit {r : List Char} (h : Stops r) : Text.NoDigit r := fun c hc => (h c hc).1

theorem stops_nil : Stops [] := nofun

theorem spanDigits_append {ds r : List Char} (hds : ∀ c ∈ ds, Text.isDigit c = true)
    (hr : Text.NoDigit r) : spanDigits (ds ++ r) = (ds, r) := by
  rw [spanDigits, Text.takeWhile_isDigit hds hr, Text.dropWhile_isDigit hds hr]

theorem readWhole_append {l : Number.Literal} (h : l.Sound) {r : List Char} (hr : Text.NoDigit r) :
    readWhole (l.whole ++ r) = .ok (l.whole, r) := by
  cases hwhole : l.whole with
  | nil => exact absurd hwhole h.whole_ne_nil
  | cons c cs =>
      have hspan := spanDigits_append h.whole_digits hr
      rw [hwhole, List.cons_append] at hspan
      by_cases hc : c = '0'
      · -- a zero is alone
        subst hc
        have hcs : cs = [] := by simpa [hwhole] using h.whole_zero
        subst hcs
        have hhead : (r.head?.map Text.isDigit).getD false = false := by
          cases r with
          | nil => rfl
          | cons d r => exact hr d rfl
        simp [readWhole, hhead]
      · simp only [readWhole]
        split
        · next heq => simp_all
        · rw [List.cons_append, hspan]
          simp

theorem readFraction?_append {l : Number.Literal} (h : l.Sound) {r : List Char}
    (hr : Text.NoDigit r) (hpoint : r.head? ≠ some '.') :
    readFraction? ((if l.fraction = [] then [] else '.' :: l.fraction) ++ r)
      = .ok (l.fraction, r) := by
  by_cases hf : l.fraction = []
  · simp only [hf, if_pos, List.nil_append, readFraction?]
    split
    · simp at hpoint
    · rfl
  · simp [readFraction?, hf, spanDigits_append h.fraction_digits hr]

/-- The text of an exponent. -/
def exponentText : Option (Bool × List Char) → List Char
  | none => []
  | some (negative, ds) => 'e' :: (if negative then '-' else '+') :: ds

theorem readExponent?_append {l : Number.Literal} (h : l.Sound) {r : List Char} (hr : Stops r) :
    readExponent? (exponentText l.exponent ++ r) = .ok (l.exponent, r) := by
  cases he : l.exponent with
  | none =>
      cases r with
      | nil => rfl
      | cons c r =>
          obtain ⟨-, -, h1, h2⟩ := hr c rfl
          simp [exponentText, readExponent?, h1, h2]
  | some p =>
      obtain ⟨negative, ds⟩ := p
      obtain ⟨hne, hds⟩ := h.exponent_digits negative ds he
      have hspan := spanDigits_append hds hr.noDigit
      cases negative <;>
        simp [exponentText, readExponent?, readExponent, signedDigits, hspan, hne, Except.map]

theorem exponentText_stop (e : Option (Bool × List Char)) {r : List Char} (hr : Stops r) :
    Text.NoDigit (exponentText e ++ r) ∧ (exponentText e ++ r).head? ≠ some '.' := by
  cases e with
  | none => exact ⟨hr.noDigit, fun h => (hr '.' h).2.1 rfl⟩
  | some p => exact ⟨fun c hc => by cases hc; rfl, by simp [exponentText]⟩

/-- The text of a literal without its sign. -/
def unsignedText (l : Number.Literal) : List Char :=
  l.whole ++ ((if l.fraction = [] then [] else '.' :: l.fraction) ++ exponentText l.exponent)

theorem spell_eq (l : Number.Literal) :
    l.spell = (if l.negative then ['-'] else []) ++ unsignedText l := by
  obtain ⟨negative, whole, fraction, _ | ⟨below, ds⟩⟩ := l <;>
    simp [Number.Literal.spell, unsignedText, exponentText]

theorem readNumber_append {l : Number.Literal} (h : l.Sound) {r : List Char} (hr : Stops r) :
    readNumber l.negative (unsignedText l ++ r) = .ok (l, r) := by
  obtain ⟨hdigit, hpoint⟩ := exponentText_stop l.exponent hr
  have hfraction : Text.NoDigit ((if l.fraction = [] then [] else '.' :: l.fraction)
      ++ (exponentText l.exponent ++ r)) := by
    split_ifs
    · exact hdigit
    · exact fun c hc => by cases hc; rfl
  simp only [readNumber, unsignedText, List.append_assoc, readWhole_append h hfraction,
    readFraction?_append h hdigit hpoint, readExponent?_append h hr, bind, Except.bind, pure,
    Except.pure]

/-! ## Tokens -/

/-- The value of a step and the rest that it leaves. -/
def Step.pair {α : Type} {s : List Char} (t : Step α s) : α × List Char := (t.value, t.rest)

theorem wordStep_pair {v : Value} {letters s r : List Char} (h : readWord letters s = .ok r) :
    (wordStep v letters s).pair = (v, r) := by
  unfold wordStep
  split
  · next rest h' =>
    rw [h] at h'
    cases h'
    rfl
  · next fault h' =>
    rw [h] at h'
    cases h'

theorem numberStep_pair {negative : Bool} {s r : List Char} {l : Number.Literal}
    (h : readNumber negative s = .ok (l, r)) :
    (numberStep negative s).pair = (.number l, r) := by
  unfold numberStep
  split
  · next p h' =>
    rw [h] at h'
    cases h'
    rfl
  · next fault h' =>
    rw [h] at h'
    cases h'

theorem stringStep_pair {s r : List Char} {content : Content}
    (h : readString s = .ok (content, r)) :
    (stringStep s).pair = (.ok content, r) := by
  unfold stringStep
  split
  · next content' rest h' =>
    rw [h] at h'
    cases h'
    rfl
  · next flaws h' =>
    rw [h] at h'
    cases h'

/-- A string with its quotes, after the first of which it is read. -/
theorem printString_append (s : String) (r : List Char) :
    printString s ++ r = '"' :: (s.toList.flatMap escapeChar ++ '"' :: r) := by
  simp [printString]

theorem atomStep_string (s : String) (r : List Char) :
    (atomStep (printString s ++ r)).pair = (.text s, r) := by
  have h := stringStep_pair (readString_escaped s r)
  simp only [Step.pair, Prod.mk.injEq] at h
  rw [printString_append]
  simp only [atomStep, Step.pair]
  split
  · next content h' =>
    rw [h.1] at h'
    cases h'
    exact congrArg (Prod.mk _) h.2
  · next flaws h' =>
    rw [h.1] at h'
    cases h'

theorem isDigit_cases {c : Char} (hc : Text.isDigit c = true) :
    c ∈ ['0', '1', '2', '3', '4', '5', '6', '7', '8', '9'] := by
  simp only [Text.isDigit, Bool.and_eq_true, decide_eq_true_eq] at hc
  have h1 : 48 ≤ c.toNat := hc.1
  have h2 : c.toNat ≤ 57 := hc.2
  have all : ∀ n < 58, 48 ≤ n →
      Char.ofNat n ∈ ['0', '1', '2', '3', '4', '5', '6', '7', '8', '9'] := by decide
  simpa using all c.toNat (by omega) h1

theorem atomStep_digit {c : Char} (hc : Text.isDigit c = true) (s : List Char) :
    atomStep (c :: s) = numberStep false (c :: s) := by
  have := isDigit_cases hc
  simp only [List.mem_cons, List.not_mem_nil, or_false] at this
  rcases this with rfl | rfl | rfl | rfl | rfl | rfl | rfl | rfl | rfl | rfl <;> rfl

theorem unsignedText_head {l : Number.Literal} (h : l.Sound) :
    ∃ c s, unsignedText l = c :: s ∧ Text.isDigit c = true := by
  cases hwhole : l.whole with
  | nil => exact absurd hwhole h.whole_ne_nil
  | cons c cs =>
      refine ⟨c, _, by rw [unsignedText, hwhole]; rfl, h.whole_digits c ?_⟩
      rw [hwhole]
      exact List.mem_cons_self

theorem atomStep_number {l : Number.Literal} (h : l.Sound) {r : List Char} (hr : Stops r) :
    (atomStep (l.spell ++ r)).pair = (.number l, r) := by
  have hread := readNumber_append h hr
  rw [spell_eq]
  cases hsign : l.negative with
  | true =>
      rw [hsign] at hread
      exact numberStep_pair hread
  | false =>
      rw [hsign] at hread
      obtain ⟨c, s, hs, hc⟩ := unsignedText_head h
      have htext : [] ++ unsignedText l ++ r = c :: (s ++ r) := by rw [hs]; rfl
      show (atomStep ([] ++ unsignedText l ++ r)).pair = _
      rw [htext, atomStep_digit hc]
      rw [hs] at hread
      exact numberStep_pair hread

theorem atomStep_printAtom {v : Value} (isAtom : v.IsAtom) (sound : v.Sound) {r : List Char}
    (hr : Stops r) : (atomStep (printAtom v ++ r)).pair = (v, r) := by
  match v, isAtom, sound with
  | .null, _, _ =>
    have hread : readWord ['u', 'l', 'l'] ('u' :: 'l' :: 'l' :: r) = .ok r := rfl
    exact wordStep_pair hread
  | .bool true, _, _ =>
    have hread : readWord ['r', 'u', 'e'] ('r' :: 'u' :: 'e' :: r) = .ok r := rfl
    exact wordStep_pair hread
  | .bool false, _, _ =>
    have hread : readWord ['a', 'l', 's', 'e'] ('a' :: 'l' :: 's' :: 'e' :: r) = .ok r := rfl
    exact wordStep_pair hread
  | .number l, _, sound => exact atomStep_number sound hr
  | .string (.ok s), _, _ => exact atomStep_string s r

/-! ## Values -/

theorem skipSpace_append {w : List Char} (hw : Spaces w) (s : List Char) :
    skipSpace (w ++ s) = skipSpace s := List.dropWhile_append_of_pos hw

theorem skipSpace_cons {c : Char} (hc : isSpace c = false) (s : List Char) :
    skipSpace (c :: s) = c :: s := by simp [skipSpace, hc]

theorem stops_append {w r : List Char} (hw : Spaces w) (hr : Stops r) : Stops (w ++ r) := by
  cases w with
  | nil => exact hr
  | cons c w =>
      intro d hd
      cases hd
      have hc := hw c List.mem_cons_self
      simp only [isSpace, Bool.or_eq_true, decide_eq_true_eq] at hc
      rcases hc with ((rfl | rfl) | rfl) | rfl <;> decide

theorem stops_mark {c : Char} (hc : c ∈ [',', ']', '\x7d']) (r : List Char) : Stops (c :: r) := by
  intro d hd
  cases hd
  simp only [List.mem_cons, List.not_mem_nil, or_false] at hc
  rcases hc with rfl | rfl | rfl <;> decide

/-- A single token does not start like anything else. -/
theorem printAtom_head {v : Value} (isAtom : v.IsAtom) (sound : v.Sound) :
    ∃ c t, printAtom v = c :: t ∧ isSpace c = false ∧ c ≠ ']' ∧ c ≠ '[' ∧ c ≠ '\x7b' := by
  match v, isAtom, sound with
  | .null, _, _ => exact ⟨_, _, rfl, by decide⟩
  | .bool true, _, _ => exact ⟨_, _, rfl, by decide⟩
  | .bool false, _, _ => exact ⟨_, _, rfl, by decide⟩
  | .string (.ok s), _, _ => exact ⟨_, _, rfl, by decide⟩
  | .number l, _, sound =>
    obtain ⟨c, t, ht, hc⟩ := unsignedText_head sound
    show ∃ c t, l.spell = c :: t ∧ _
    rw [spell_eq]
    cases l.negative with
    | true => exact ⟨_, _, rfl, by decide⟩
    | false =>
        refine ⟨c, t, ht, ?_⟩
        have := isDigit_cases hc
        simp only [List.mem_cons, List.not_mem_nil, or_false] at this
        rcases this with rfl | rfl | rfl | rfl | rfl | rfl | rfl | rfl | rfl | rfl <;> decide

/-- A value starts neither with a space nor with the end of an array. -/
theorem Spells.head {v : Value} {s : List Char} (h : Spells v s) :
    ∃ c t, s = c :: t ∧ isSpace c = false ∧ c ≠ ']' := by
  cases h with
  | atom isAtom sound =>
      obtain ⟨c, t, ht, hspace, hc, -, -⟩ := printAtom_head isAtom sound
      exact ⟨c, t, ht, hspace, hc⟩
  | emptyArray _ => exact ⟨_, _, rfl, by decide⟩
  | array _ => exact ⟨_, _, rfl, by decide⟩
  | emptyObject _ => exact ⟨_, _, rfl, by decide⟩
  | object _ => exact ⟨_, _, rfl, by decide⟩

theorem readValue_atom {s r : List Char} {v : Value} (harray : ∀ t, skipSpace s ≠ '[' :: t)
    (hobject : ∀ t, skipSpace s ≠ '\x7b' :: t) (hv : (atomStep (skipSpace s)).pair = (v, r)) :
    (readValue s).pair = (v, r) := by
  rw [readValue]
  split
  · next h' => exact absurd h' (harray _)
  · next h' => exact absurd h' (hobject _)
  · exact hv

theorem readValue_array {s t r : List Char} {items : Items} (h : skipSpace s = '[' :: t)
    (hi : (readItems t).pair = (items, r)) : (readValue s).pair = (.array items.1 items.2, r) := by
  rw [readValue]
  split
  · next t' h' =>
    rw [h] at h'
    cases h'
    simp only [Step.pair, Prod.mk.injEq] at hi ⊢
    rw [hi.1, hi.2]
    exact ⟨rfl, rfl⟩
  · next h' => simp_all
  · next h' => simp_all

theorem readValue_object {s t r : List Char} {v : Value} (h : skipSpace s = '\x7b' :: t)
    (hm : (readMembers t).pair = (v, r)) : (readValue s).pair = (v, r) := by
  rw [readValue]
  split
  · next h' => simp_all
  · next t' h' =>
    rw [h] at h'
    cases h'
    exact hm
  · next h' => simp_all

theorem readItems_close {s r : List Char} (h : skipSpace s = ']' :: r) :
    (readItems s).pair = (([], .closed), r) := by
  rw [readItems]
  split
  · next h' => simp_all
  · next r' h' =>
    rw [h] at h'
    cases h'
    rfl
  · next h' => simp_all

theorem readItems_cons {s t q r : List Char} {c : Char} {v : Value} {vs : List Value}
    {ending : Ending} (h : skipSpace s = c :: t) (hc : c ≠ ']')
    (hv : (readValue (c :: t)).pair = (v, q)) (hm : (readMoreItems q).pair = ((vs, ending), r)) :
    (readItems s).pair = ((v :: vs, ending), r) := by
  rw [readItems]
  split
  · next h' => simp_all
  · next h' =>
    rw [h] at h'
    cases h'
    exact absurd rfl hc
  · next c' t' h' =>
    rw [h] at h'
    cases h'
    simp only [Step.pair, Prod.mk.injEq] at hv hm
    obtain ⟨rfl, rfl⟩ := hv
    obtain ⟨hm, rfl⟩ := hm
    simp [Step.pair, hm]

theorem readMoreItems_close {s r : List Char} (h : skipSpace s = ']' :: r) :
    (readMoreItems s).pair = (([], .closed), r) := by
  rw [readMoreItems]
  split
  · next h' => simp_all
  · next r' h' =>
    rw [h] at h'
    cases h'
    rfl
  · next h' => simp_all
  · next h' => simp_all

theorem readMoreItems_comma {s t q r : List Char} {c : Char} {u : List Char} {v : Value}
    {vs : List Value} {ending : Ending} (h : skipSpace s = ',' :: t) (ht : skipSpace t = c :: u)
    (hc : c ≠ ']') (hv : (readValue t).pair = (v, q))
    (hm : (readMoreItems q).pair = ((vs, ending), r)) :
    (readMoreItems s).pair = ((v :: vs, ending), r) := by
  rw [readMoreItems]
  split
  · next h' => simp_all
  · next h' => simp_all
  · next t' h' =>
    rw [h] at h'
    cases h'
    simp only [Step.pair, Prod.mk.injEq] at hv hm
    obtain ⟨rfl, rfl⟩ := hv
    obtain ⟨hm, rfl⟩ := hm
    split
    · next h' => simp_all
    · next h' =>
      rw [ht] at h'
      cases h'
      exact absurd rfl hc
    · simp [Step.pair, hm]
  · next h' => simp_all

theorem readMembers_close {s r : List Char} (h : skipSpace s = '\x7d' :: r) :
    (readMembers s).pair = (.object [] .closed, r) := by
  rw [readMembers]
  split
  · next h' => simp_all
  · next r' h' =>
    rw [h] at h'
    cases h'
    rfl
  · next h' => simp_all
  · next h' => simp_all

theorem readMembers_quote {s t r : List Char} {ms : Members} (h : skipSpace s = '"' :: t)
    (hm : (readMember t).pair = (ms, r)) : (readMembers s).pair = (.object ms.1 ms.2, r) := by
  rw [readMembers]
  split
  · next h' => simp_all
  · next h' => simp_all
  · next t' h' =>
    rw [h] at h'
    cases h'
    simp only [Step.pair, Prod.mk.injEq] at hm ⊢
    rw [hm.1, hm.2]
    exact ⟨rfl, rfl⟩
  · next h' => simp_all

theorem readMember_append {s k t q r : List Char} {key : Content} {v : Value}
    {ms : List (Content × Value)} {ending : Ending} (hkey : (stringStep s).pair = (.ok key, k))
    (h : skipSpace k = ':' :: t) (hv : (readValue t).pair = (v, q))
    (hm : (readMoreMembers q).pair = ((ms, ending), r)) :
    (readMember s).pair = (((key, v) :: ms, ending), r) := by
  rw [readMember]
  simp only [Step.pair, Prod.mk.injEq] at hkey hv hm
  obtain ⟨rfl, rfl⟩ := hv
  obtain ⟨hm, rfl⟩ := hm
  split
  · next heq => simp_all
  · next heq =>
    rw [heq] at hkey
    obtain ⟨hk, rfl⟩ := hkey
    cases hk
    split
    · next h' => simp_all
    · next t' h' =>
      rw [h] at h'
      cases h'
      simp [Step.pair, hm]
    · next h' => simp_all

theorem readMoreMembers_close {s r : List Char} (h : skipSpace s = '\x7d' :: r) :
    (readMoreMembers s).pair = (([], .closed), r) := by
  rw [readMoreMembers]
  split
  · next h' => simp_all
  · next r' h' =>
    rw [h] at h'
    cases h'
    rfl
  · next h' => simp_all
  · next h' => simp_all

theorem readMoreMembers_comma {s t q r : List Char} {ms : Members} (h : skipSpace s = ',' :: t)
    (ht : skipSpace t = '"' :: q) (hm : (readMember q).pair = (ms, r)) :
    (readMoreMembers s).pair = (ms, r) := by
  rw [readMoreMembers]
  split
  · next h' => simp_all
  · next h' => simp_all
  · next t' h' =>
    rw [h] at h'
    cases h'
    split
    · next h' => simp_all
    · next q' h' =>
      rw [ht] at h'
      cases h'
      exact hm
    · next h' => simp_all
  · next h' => simp_all

/-! ## Any way to write a value -/

theorem skipSpace_mark {w : List Char} (hw : Spaces w) {c : Char} (hc : isSpace c = false)
    (s : List Char) : skipSpace (w ++ c :: s) = c :: s := by
  rw [skipSpace_append hw, skipSpace_cons hc]

/-- The first item that is written, or the next one after a comma. -/
theorem readItems_next {v : Value} {vs : List Value} {ending : Ending}
    {w before s rest r : List Char} (hw : Spaces w) (hbefore : Spaces before) (hv : Spells v s)
    (hread : ∀ {w : List Char}, Spaces w → (readValue (w ++ (s ++ rest))).pair = (v, rest))
    (hm : (readMoreItems rest).pair = ((vs, ending), r)) :
    (readItems (before ++ (s ++ rest))).pair = ((v :: vs, ending), r) ∧
      (readMoreItems (w ++ ',' :: (before ++ (s ++ rest)))).pair = ((v :: vs, ending), r) := by
  obtain ⟨c, t, rfl, hspace, hc⟩ := hv.head
  have hskip : skipSpace (before ++ (c :: t ++ rest)) = c :: (t ++ rest) :=
    skipSpace_mark hbefore hspace _
  exact ⟨readItems_cons hskip hc (hread spaces_nil) hm,
    readMoreItems_comma (skipSpace_mark hw (by decide) _) hskip hc (hread hbefore) hm⟩

/-- The first member that is written, or the next one after a comma. -/
theorem readMembers_next {key : String} {v : Value} {ms : List (Content × Value)} {ending : Ending}
    {w before inner s rest r : List Char} (hw : Spaces w) (hbefore : Spaces before)
    (hinner : Spaces inner)
    (hread : ∀ {w : List Char}, Spaces w → (readValue (w ++ (s ++ rest))).pair = (v, rest))
    (hm : (readMoreMembers rest).pair = ((ms, ending), r)) :
    (readMembers (before ++ (printString key ++ ':' :: (inner ++ (s ++ rest))))).pair
        = (.object ((.ok key, v) :: ms) ending, r) ∧
      (readMoreMembers
        (w ++ ',' :: (before ++ (printString key ++ ':' :: (inner ++ (s ++ rest)))))).pair
        = (((.ok key, v) :: ms, ending), r) := by
  have hmember := readMember_append (stringStep_pair (readString_escaped key _))
    (skipSpace_cons (by decide) _) (hread hinner) hm
  have hskip : skipSpace (before ++ (printString key ++ ':' :: (inner ++ (s ++ rest)))) =
      '"' :: (key.toList.flatMap escapeChar ++ '"' :: ':' :: (inner ++ (s ++ rest))) := by
    rw [skipSpace_append hbefore, printString_append, skipSpace_cons (by decide)]
  exact ⟨readMembers_quote hskip hmember,
    readMoreMembers_comma (skipSpace_mark hw (by decide) _) hskip hmember⟩

mutual

/-- **A value is read from any text that writes it**, after spaces, and what follows is left. -/
theorem Spells.reads {v : Value} {s : List Char} : Spells v s → ∀ {w r : List Char}, Spaces w →
    Stops r → (readValue (w ++ (s ++ r))).pair = (v, r)
  | .atom isAtom sound, w, r, hw, hr => by
    obtain ⟨c, t, ht, hspace, -, harray, hobject⟩ := printAtom_head isAtom sound
    have hskip : skipSpace (w ++ (printAtom v ++ r)) = printAtom v ++ r := by
      rw [ht]
      exact skipSpace_mark hw hspace _
    have hmark : ∀ {m : Char}, c ≠ m → ∀ t', skipSpace (w ++ (printAtom v ++ r)) ≠ m :: t' := by
      intro m hm t' h
      rw [hskip, ht, List.cons_append] at h
      exact hm (List.cons.inj h).1
    refine readValue_atom (hmark harray) (hmark hobject) ?_
    rw [hskip]
    exact atomStep_printAtom isAtom sound hr
  | .emptyArray spaces, w, r, hw, _ => by
    have hclose := readItems_close (skipSpace_mark spaces (by decide) r)
    rw [List.cons_append, List.append_assoc]
    exact readValue_array (skipSpace_mark hw (by decide) _) hclose
  | .array items, w, r, hw, _ => by
    rw [List.cons_append, List.append_assoc]
    exact readValue_array (skipSpace_mark hw (by decide) _) (items.reads spaces_nil).1
  | .emptyObject spaces, w, r, hw, _ => by
    have hclose := readMembers_close (skipSpace_mark spaces (by decide) r)
    rw [List.cons_append, List.append_assoc]
    exact readValue_object (skipSpace_mark hw (by decide) _) hclose
  | .object members, w, r, hw, _ => by
    rw [List.cons_append, List.append_assoc]
    exact readValue_object (skipSpace_mark hw (by decide) _) (members.reads spaces_nil).1

/-- Items are read from the start of an array, and after a comma. -/
theorem SpellsItems.reads {vs : List Value} {s : List Char} : SpellsItems vs s →
    ∀ {w r : List Char}, Spaces w → (readItems (s ++ ']' :: r)).pair = ((vs, .closed), r) ∧
      (readMoreItems (w ++ ',' :: (s ++ ']' :: r))).pair = ((vs, .closed), r)
  | .last before value after, w, r, hw => by
    have hstop := stops_append after (stops_mark (c := ']') (by decide) r)
    rw [List.append_assoc, List.append_assoc]
    exact readItems_next hw before value (fun hw => value.reads hw hstop)
      (readMoreItems_close (skipSpace_mark after (by decide) r))
  | .more before value after items, w, r, hw => by
    have hstop := fun t => stops_append after (stops_mark (c := ',') (by decide) t)
    rw [List.append_assoc, List.append_assoc, List.append_assoc]
    exact readItems_next hw before value (fun hw => value.reads hw (hstop _)) (items.reads after).2

/-- Members are read from the start of an object, and after a comma. -/
theorem SpellsMembers.reads {ms : List (Content × Value)} {s : List Char} : SpellsMembers ms s →
    ∀ {w r : List Char}, Spaces w →
      (readMembers (s ++ '\x7d' :: r)).pair = (.object ms .closed, r) ∧
        (readMoreMembers (w ++ ',' :: (s ++ '\x7d' :: r))).pair = ((ms, .closed), r)
  | .last before inner value after, w, r, hw => by
    have hstop := stops_append after (stops_mark (c := '\x7d') (by decide) r)
    rw [List.append_assoc, List.append_assoc, List.cons_append, List.append_assoc,
      List.append_assoc]
    exact readMembers_next hw before inner (fun hw => value.reads hw hstop)
      (readMoreMembers_close (skipSpace_mark after (by decide) r))
  | .more before inner value after members, w, r, hw => by
    have hstop := fun t => stops_append after (stops_mark (c := ',') (by decide) t)
    rw [List.append_assoc, List.append_assoc, List.cons_append, List.append_assoc,
      List.append_assoc, List.append_assoc]
    exact readMembers_next hw before inner (fun hw => value.reads hw (hstop _))
      (members.reads after).2

end

/-! ## Whole texts -/

theorem readText_eq {v : Value} {s : List Char} (h : Spells v s) : readText s = (v, false) := by
  have hread := h.reads spaces_nil stops_nil
  rw [List.append_nil] at hread
  simp only [Step.pair, List.nil_append, Prod.mk.injEq] at hread
  simp [readText, hread.1, hread.2, skipSpace]

end VulnScan.Json
