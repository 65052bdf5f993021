import VulnScan.Net.Address
import VulnScan.Proofs.Text.Numerals
import VulnScan.Proofs.Text.Pieces

/-! # The texts of addresses

`Denotes` is the grammar of addresses: four octets, or eight groups of which a run of zeros may be
left out and the last two may be written as octets. The reader accepts exactly these texts
(`read?_iff`). For four octets it has no choice. Before every group it tries octets in vain, and
where two colons stand for zeros it fills up to eight groups.

An address is written in one of its texts (`denotes_spell`), so it is read as it is written
(`ofText?_text`). All texts of addresses are made of a few characters (`Denotes.isAddressChar`).
-/

set_option autoImplicit false

namespace VulnScan.Net.Address

open Text

/-! ## Grammar -/

/-- The text of a group: up to four hexadecimal digits, in lower or in upper case. -/
structure GroupText (ds : List Char) (g : Group) : Prop where
  ne_nil : ds ≠ []
  length_le : ds.length ≤ 4
  span : spanHex 0 ds = (g.val, [])

/-- The texts of groups, with a colon between neighbours. If the flag is set, the last two groups
are written as four octets. -/
inductive GroupTexts : Bool → List Char → List Group → Prop
  | nil : GroupTexts false [] []
  | last {ds : List Char} {g : Group} (h : GroupText ds g) : GroupTexts false ds [g]
  | quad (a b c d : Octet) : GroupTexts true (quadText a b c d) [groupOf a b, groupOf c d]
  | cons {quad : Bool} {ds s : List Char} {g g' : Group} {gs : List Group} (h : GroupText ds g)
      (hs : GroupTexts quad s (g' :: gs)) : GroupTexts quad (ds ++ ':' :: s) (g :: g' :: gs)

/-- The texts of an address. -/
inductive Denotes : List Char → Address → Prop
  | short (a b c d : Octet) : Denotes (quadText a b c d) (.short a b c d)
  | plain {quad : Bool} {s : List Char} {groups : Vector Group 8}
      (h : GroupTexts quad s groups.toList) : Denotes s (.long groups)
  /-- Two colons stand for one zero group or more. -/
  | elided {quad : Bool} {s t : List Char} {front back : List Group} {count : Nat}
      {groups : Vector Group 8} (hfront : GroupTexts false s front)
      (hback : GroupTexts quad t back)
      (hgroups : groups.toList = front ++ List.replicate (count + 1) 0 ++ back) :
      Denotes (s ++ ':' :: ':' :: t) (.long groups)

/-! ## Four octets are read -/

theorem readOctet_append (o : Octet) {r : List Char} (hr : NoDigit r) :
    readOctet (digits o ++ r) = some (o, r) := by
  have hdigits : ∀ c ∈ digits o, isDigit c = true := fun _ => isDigit_of_mem_digits
  have hlength : (digits o).length ≤ 3 := length_digits_le (by decide) (by have := o.isLt; omega)
  have hzero : ¬ ((digits o).head? = some '0' ∧ 1 < (digits o).length) := by
    rintro ⟨hhead, hlong⟩
    rw [digits_head_zero hhead] at hlong
    exact absurd hlong (by decide)
  have hcond : ¬ (digits o = [] ∨ 3 < (digits o).length ∨
      ((digits o).head? = some '0' ∧ 1 < (digits o).length)) := by
    rintro (h | h | h)
    · exact digits_ne_nil _ h
    · omega
    · exact hzero h
  simp only [readOctet, takeWhile_isDigit hdigits hr, dropWhile_isDigit hdigits hr, if_neg hcond,
    value_digits, o.isLt, dif_pos]

theorem skip_cons (c : Char) (s : List Char) : skip c (c :: s) = some s := by
  simp [skip, after]

theorem quadText_append (a b c d : Octet) (r : List Char) :
    quadText a b c d ++ r
      = digits a ++ '.' :: (digits b ++ '.' :: (digits c ++ '.' :: (digits d ++ r))) := by
  simp [quadText, joinWith]

theorem readQuad_append (a b c d : Octet) {r : List Char} (hr : NoDigit r) :
    readQuad (quadText a b c d ++ r) = some ((a, b, c, d), r) := by
  have hpoint : ∀ t, NoDigit ('.' :: t) := noDigit_cons (by decide)
  rw [quadText_append]
  simp [readQuad, readOctet_append _ (hpoint _), readOctet_append d hr, skip_cons]

/-- No octets without a point. -/
theorem readQuad_eq_none {s : List Char} (h : (s.dropWhile isDigit).head? ≠ some '.') :
    readQuad s = none := by
  cases hoctet : readOctet s with
  | none => simp [readQuad, hoctet]
  | some p =>
    have hrest : p.2 = s.dropWhile isDigit := by
      simp only [readOctet] at hoctet
      split at hoctet
      · cases hoctet
      · split at hoctet
        · cases hoctet
          rfl
        · cases hoctet
    have hskip : skip '.' p.2 = none := by
      rw [hrest]
      cases hs : s.dropWhile isDigit with
      | nil => rfl
      | cons c t =>
        rw [hs] at h
        have hc : '.' ≠ c := fun hc => h (by rw [hc]; rfl)
        simp [skip, after, hc]
    simp [readQuad, hoctet, hskip]

/-! ## Groups are read -/

/-- The text ends here or goes on with a colon. -/
def AtColon (r : List Char) : Prop := r = [] ∨ ∃ t, r = ':' :: t

/-- The text ends here or goes on with two colons, so no group can follow. -/
def Stops (r : List Char) : Prop := r = [] ∨ ∃ t, r = ':' :: ':' :: t

theorem Stops.atColon {r : List Char} (h : Stops r) : AtColon r :=
  h.imp id fun ⟨t, ht⟩ => ⟨':' :: t, ht⟩

theorem AtColon.noDigit {r : List Char} (h : AtColon r) : NoDigit r := by
  rcases h with rfl | ⟨t, rfl⟩
  · exact noDigit_nil
  · exact noDigit_cons (by decide) t

theorem GroupText.readGroup_eq {ds r : List Char} {g : Group} (h : GroupText ds g)
    (hr : AtColon r) : readGroup (ds ++ r) = some (g, r) := by
  have hspan : spanHex 0 (ds ++ r) = (g.val, r) := by
    rw [spanHex_append h.span]
    rcases hr with rfl | ⟨t, rfl⟩
    · rfl
    · rfl
  have hcount : (ds ++ r).length - r.length = ds.length := by
    rw [List.length_append]
    omega
  have hpos : ds.length ≠ 0 := fun hzero => h.ne_nil (List.length_eq_zero_iff.1 hzero)
  have hle : ds.length ≤ 4 := h.length_le
  have hcond : ¬ (ds.length = 0 ∨ 4 < ds.length) := by omega
  simp only [readGroup, hspan, hcount, if_neg hcond, g.isLt, dif_pos]

/-- A group is not taken for the first of four octets. -/
theorem GroupText.readQuad_eq {ds r : List Char} {g : Group} (h : GroupText ds g)
    (hr : AtColon r) : readQuad (ds ++ r) = none := by
  have hpoint : ∀ c ∈ ds, c ≠ '.' := by
    intro c hc hd
    have hdigit := isSome_hexValue?_of_span h.span c hc
    rw [hd] at hdigit
    exact absurd hdigit (by decide)
  have hhead : ∀ ds : List Char, (∀ c ∈ ds, c ≠ '.') →
      ((ds ++ r).dropWhile isDigit).head? ≠ some '.' := by
    intro ds hds
    induction ds with
    | nil =>
      rcases hr with rfl | ⟨t, rfl⟩
      · nofun
      · simp [show isDigit ':' = false by decide]
    | cons c ds ih =>
      rw [List.cons_append, List.dropWhile_cons]
      split
      · exact ih fun c hc => hds c (List.mem_cons_of_mem _ hc)
      · simpa using hds c List.mem_cons_self
  exact readQuad_eq_none (hhead _ hpoint)

/-- No octets where no group can follow. -/
theorem Stops.readQuad_eq {r : List Char} (h : Stops r) : readQuad r = none := by
  rcases h with rfl | ⟨t, rfl⟩
  · rfl
  · exact readQuad_eq_none (by simp [show isDigit ':' = false by decide])

/-- The reader of groups does not go on where no group can follow. -/
theorem Stops.readGroups_eq {r : List Char} (h : Stops r) (room : Nat) (isFirst : Bool) :
    readGroups room isFirst r = ([], false, r) := by
  cases room with
  | zero => rfl
  | succ room =>
    have hquad : ∀ s, readQuad (':' :: s) = none := fun s =>
      readQuad_eq_none (by simp [show isDigit ':' = false by decide])
    have hgroup : ∀ s, readGroup (':' :: s) = none := by
      intro s
      have hspan : spanHex 0 (':' :: s) = (0, ':' :: s) := rfl
      simp [readGroup, hspan]
    rcases h with rfl | ⟨t, rfl⟩
    · cases isFirst
      · rfl
      · simp [readGroups, show readQuad [] = none from rfl, show readGroup [] = none from rfl]
    · cases isFirst <;> simp [readGroups, skip_cons, hquad, hgroup]

/-- One group is read, and then the others. -/
theorem readGroups_group {room : Nat} {isFirst : Bool} {x ds r : List Char} {g : Group}
    (hx : (if isFirst then some x else skip ':' x) = some (ds ++ r)) (hg : GroupText ds g)
    (hr : AtColon r) {gs : List Group} {quad : Bool} {rest : List Char}
    (h : readGroups room false r = (gs, quad, rest)) :
    readGroups (room + 1) isFirst x = (g :: gs, quad, rest) := by
  rw [readGroups, hx]
  simp [hg.readQuad_eq hr, hg.readGroup_eq hr, h]

/-- The reader gets through all groups of a text, up to where none can follow. The induction is on
the text; the first group may or may not have a colon before it. -/
theorem GroupTexts.readGroups_lead {quad : Bool} {s r : List Char} {gs : List Group}
    (h : GroupTexts quad s gs) (hr : Stops r) (hne : gs ≠ []) {room : Nat}
    (hroom : gs.length ≤ room) {isFirst : Bool} {x : List Char}
    (hx : (if isFirst then some x else skip ':' x) = some (s ++ r)) :
    readGroups room isFirst x = (gs, quad, r) := by
  induction h generalizing room isFirst x with
  | nil => exact absurd rfl hne
  | last hg =>
    obtain ⟨room, rfl⟩ : ∃ k, room = k + 1 := ⟨room - 1, by simp at hroom; omega⟩
    exact readGroups_group hx hg hr.atColon (hr.readGroups_eq room false)
  | quad a b c d =>
    -- four octets take the room of two groups
    obtain ⟨room, rfl⟩ : ∃ k, room = k + 2 := ⟨room - 2, by simp at hroom; omega⟩
    rw [readGroups, hx]
    simp [readQuad_append a b c d hr.atColon.noDigit]
  | @cons quad ds s g g' gs hg hs ih =>
    obtain ⟨room, rfl⟩ : ∃ k, room = k + 1 := ⟨room - 1, by simp at hroom; omega⟩
    have hrest : readGroups room false (':' :: (s ++ r)) = (g' :: gs, quad, r) :=
      ih (by simp) (by simpa using hroom) (by simp [skip_cons])
    have hx' : (if isFirst then some x else skip ':' x) = some (ds ++ ':' :: (s ++ r)) := by
      rw [hx, List.append_assoc]
      rfl
    exact readGroups_group hx' hg (.inr ⟨s ++ r, rfl⟩) hrest

theorem GroupTexts.readGroups_eq {quad : Bool} {s r : List Char} {gs : List Group}
    (h : GroupTexts quad s gs) (hr : Stops r) {room : Nat} (hroom : gs.length ≤ room) :
    readGroups room true (s ++ r) = (gs, quad, r) := by
  by_cases hne : gs = []
  · subst hne
    cases h
    exact hr.readGroups_eq room true
  · exact h.readGroups_lead hr hne hroom (by simp)

/-- Groups do not begin with four octets, unless these are all of them. -/
theorem GroupTexts.readQuad_eq {quad : Bool} {s r : List Char} {gs : List Group}
    (h : GroupTexts quad s gs) (hr : Stops r) (hlength : quad = true → 2 < gs.length) :
    readQuad (s ++ r) = none := by
  cases h with
  | nil => exact hr.readQuad_eq
  | last hg => exact hg.readQuad_eq hr.atColon
  | quad a b c d =>
    have hmore := hlength rfl
    simp at hmore
  | @cons quad ds s g g' gs hg hs =>
    rw [List.append_assoc]
    exact hg.readQuad_eq (.inr ⟨s ++ r, rfl⟩)

/-! ## Addresses are read -/

theorem ofGroups?_toList (groups : Vector Group 8) :
    ofGroups? groups.toList = some (.long groups) := by
  simp [ofGroups?, Vector.toList]

theorem readLong_plain {quad : Bool} {s : List Char} {groups : Vector Group 8}
    (h : GroupTexts quad s groups.toList) : readLong s = some (.long groups, []) := by
  have hread : readGroups 8 true (s ++ []) = (groups.toList, quad, []) :=
    h.readGroups_eq (.inl rfl) (Nat.le_of_eq groups.length_toList)
  rw [List.append_nil] at hread
  simp [readLong, hread, ofGroups?_toList]

theorem readLong_elided {quad : Bool} {s t : List Char} {front back : List Group} {count : Nat}
    {groups : Vector Group 8} (hfront : GroupTexts false s front)
    (hback : GroupTexts quad t back)
    (hgroups : groups.toList = front ++ List.replicate (count + 1) 0 ++ back) :
    readLong (s ++ ':' :: ':' :: t) = some (.long groups, []) := by
  have hlength := congrArg List.length hgroups
  simp only [Vector.length_toList, List.length_append, List.length_replicate] at hlength
  have hread : readGroups 8 true (s ++ ':' :: ':' :: t) = (front, false, ':' :: ':' :: t) :=
    hfront.readGroups_eq (.inr ⟨t, rfl⟩) (by omega)
  have hrest : readGroups (7 - front.length) true (t ++ []) = (back, quad, []) :=
    hback.readGroups_eq (.inl rfl) (by omega)
  rw [List.append_nil] at hrest
  have hshort : front.length ≠ 8 := by omega
  have hzeros : 8 - front.length - back.length = count + 1 := by omega
  have hof := ofGroups?_toList groups
  rw [hgroups, List.append_assoc] at hof
  simp [readLong, hread, hshort, after, hrest, hzeros, hof]

/-- The reader accepts every text of an address. -/
theorem Denotes.read?_eq {s : List Char} {a : Address} (h : Denotes s a) : read? s = some a := by
  cases h with
  | short a b c d =>
    have hread := readQuad_append a b c d noDigit_nil
    rw [List.append_nil] at hread
    simp [read?, hread]
  | @plain _ _ groups h =>
    have hquad := h.readQuad_eq (.inl rfl) fun _ => by
      rw [groups.length_toList]
      decide
    rw [List.append_nil] at hquad
    simp [read?, hquad, readLong_plain h]
  | @elided _ _ t _ _ _ _ hfront hback hgroups =>
    have hquad := hfront.readQuad_eq (r := ':' :: ':' :: t) (.inr ⟨t, rfl⟩) nofun
    simp [read?, hquad, readLong_elided hfront hback hgroups]

/-! ## Nothing else is read -/

theorem eq_of_skip {c : Char} {s t : List Char} (h : skip c s = some t) : s = c :: t :=
  eq_of_after h

theorem eq_of_readOctet {s r : List Char} {o : Octet} (h : readOctet s = some (o, r)) :
    s = digits o ++ r := by
  simp only [readOctet] at h
  split at h
  · cases h
  · next hcond =>
    obtain ⟨hne, -, hzero⟩ := not_or.1 hcond |>.imp id not_or.1
    split at h
    · next hlt =>
      cases h
      have hdigits : digits (value (s.takeWhile isDigit)) = s.takeWhile isDigit := by
        refine digits_value (List.all_eq_true.1 List.all_takeWhile) hne fun hhead => ?_
        have hpos := List.length_pos_iff.2 hne
        have hle : ¬ 1 < (s.takeWhile isDigit).length := fun hlong => hzero ⟨hhead, hlong⟩
        omega
      rw [hdigits, List.takeWhile_append_dropWhile]
    · cases h

/-- Four octets are written in one way only. -/
theorem eq_of_readQuad {s r : List Char} {a b c d : Octet}
    (h : readQuad s = some ((a, b, c, d), r)) : s = quadText a b c d ++ r := by
  simp only [readQuad, Option.bind_eq_bind, Option.bind_eq_some_iff, Option.pure_def,
    Option.some.injEq] at h
  obtain ⟨⟨a', s₁⟩, ha, s₂, hs₂, ⟨b', s₃⟩, hb, s₄, hs₄, ⟨c', s₅⟩, hc, s₆, hs₆, ⟨d', s₇⟩, hd,
    heq⟩ := h
  cases heq
  dsimp only at hs₂ hs₄ hs₆
  rw [eq_of_readOctet ha, eq_of_skip hs₂, eq_of_readOctet hb, eq_of_skip hs₄, eq_of_readOctet hc,
    eq_of_skip hs₆, eq_of_readOctet hd, quadText_append]

theorem groupText_of_readGroup {s r : List Char} {g : Group} (h : readGroup s = some (g, r)) :
    ∃ ds, s = ds ++ r ∧ GroupText ds g := by
  simp only [readGroup] at h
  split at h
  · cases h
  · next hcond =>
    split at h
    · next hlt =>
      cases h
      obtain ⟨ds, hs, hspan⟩ := spanHex_eq (n := 0) (s := s) rfl
      have hlength : s.length = ds.length + (spanHex 0 s).2.length := by
        rw [← List.length_append, ← hs]
      refine ⟨ds, hs, ⟨?_, by omega, hspan⟩⟩
      rintro rfl
      exact hcond (.inl (by rw [hlength, List.length_nil]; omega))
    · cases h

/-- What the reader of groups has read is a text of groups; if it has read none, it has not moved.
The induction is on the room for groups. -/
theorem groupTexts_of_readGroups {room : Nat} {isFirst quad : Bool} {s r : List Char}
    {gs : List Group} (h : readGroups room isFirst s = (gs, quad, r)) :
    gs.length ≤ room ∧ ((gs = [] ∧ quad = false ∧ r = s) ∨ gs ≠ [] ∧ ∃ text,
      GroupTexts quad text gs ∧ (if isFirst then some s else skip ':' s) = some (text ++ r)) := by
  induction room generalizing isFirst s gs quad r with
  | zero =>
    cases h
    exact ⟨Nat.le_refl 0, .inl ⟨rfl, rfl, rfl⟩⟩
  | succ room ih =>
    rw [readGroups] at h
    cases hbody : (if isFirst then some s else skip ':' s) with
    | none =>
      rw [hbody] at h
      cases h
      exact ⟨Nat.zero_le _, .inl ⟨rfl, rfl, rfl⟩⟩
    | some body =>
      rw [hbody] at h
      cases hquad : (if room = 0 then none else readQuad body) with
      | some p =>
        obtain ⟨⟨a, b, c, d⟩, rest⟩ := p
        simp only [hquad] at h
        cases h
        by_cases hroom : room = 0
        · rw [if_pos hroom] at hquad
          cases hquad
        · rw [if_neg hroom] at hquad
          refine ⟨?_, .inr ⟨List.cons_ne_nil _ _, _, .quad a b c d, ?_⟩⟩
          · simp only [List.length_cons, List.length_nil]
            omega
          · rw [eq_of_readQuad hquad]
      | none =>
        simp only [hquad] at h
        cases hgroup : readGroup body with
        | none =>
          simp only [hgroup] at h
          cases h
          exact ⟨Nat.zero_le _, .inl ⟨rfl, rfl, rfl⟩⟩
        | some p =>
          obtain ⟨g, rest⟩ := p
          obtain ⟨ds, rfl, hg⟩ := groupText_of_readGroup hgroup
          simp only [hgroup] at h
          obtain ⟨hlength, hmore⟩ := @ih false _ _ _ _ rfl
          cases h
          refine ⟨Nat.succ_le_succ hlength, .inr ⟨List.cons_ne_nil _ _, ?_⟩⟩
          rcases hmore with ⟨hnil, hflag, hrest⟩ | ⟨hne, text, htext, hskip⟩
          · rw [hnil, hflag, hrest]
            exact ⟨ds, .last hg, rfl⟩
          · have hrest : rest = ':' :: (text ++ (readGroups room false rest).2.2) :=
              eq_of_skip hskip
            obtain ⟨g', gs', hgs⟩ := List.exists_cons_of_ne_nil hne
            refine ⟨ds ++ ':' :: text, ?_, ?_⟩
            · rw [hgs] at htext ⊢
              exact .cons hg htext
            · rw [List.append_assoc, List.cons_append, ← hrest]

theorem groupTexts_of_readGroups_first {room : Nat} {quad : Bool} {s r : List Char}
    {gs : List Group} (h : readGroups room true s = (gs, quad, r)) :
    gs.length ≤ room ∧ ∃ text, s = text ++ r ∧ GroupTexts quad text gs := by
  obtain ⟨hlength, ⟨rfl, rfl, rfl⟩ | ⟨-, text, htext, hs⟩⟩ := groupTexts_of_readGroups h
  · exact ⟨hlength, [], rfl, .nil⟩
  · exact ⟨hlength, text, Option.some.inj hs, htext⟩

theorem eq_of_ofGroups? {gs : List Group} {a : Address} (h : ofGroups? gs = some a) :
    ∃ groups : Vector Group 8, groups.toList = gs ∧ a = .long groups := by
  simp only [ofGroups?] at h
  split at h
  · next hlength =>
    cases h
    exact ⟨_, by simp [Vector.toList], rfl⟩
  · cases h

/-- A long address is read from one of its texts. -/
theorem denotes_of_readLong {s : List Char} {a : Address} (h : readLong s = some (a, [])) :
    Denotes s a := by
  generalize hfront : readGroups 8 true s = p at h
  obtain ⟨front, quad, rest⟩ := p
  obtain ⟨hle, text, rfl, htext⟩ := groupTexts_of_readGroups_first hfront
  simp only [readLong, hfront] at h
  by_cases hall : front.length = 8
  · simp only [hall, if_true, Option.bind_eq_bind, Option.bind_eq_some_iff, Option.pure_def,
      Option.some.injEq, Prod.mk.injEq] at h
    obtain ⟨a', hof, rfl, rfl⟩ := h
    obtain ⟨groups, rfl, rfl⟩ := eq_of_ofGroups? hof
    rw [List.append_nil]
    exact .plain htext
  · rw [if_neg hall] at h
    cases quad with
    | true => cases h
    | false =>
      simp only [Bool.false_eq_true, if_false, Option.bind_eq_bind, Option.bind_eq_some_iff,
        Option.pure_def, Option.some.injEq, Prod.mk.injEq] at h
      obtain ⟨rest', hcolons, a', hof, rfl, hend⟩ := h
      generalize hback : readGroups (7 - front.length) true rest' = p at hof hend
      obtain ⟨back, quad, r⟩ := p
      obtain ⟨hroom, text', rfl, htext'⟩ := groupTexts_of_readGroups_first hback
      dsimp only at hof hend
      subst hend
      obtain ⟨groups, hgroups, rfl⟩ := eq_of_ofGroups? hof
      -- the groups that were read leave room for one zero at least
      have hzeros : 8 - front.length - back.length = 7 - front.length - back.length + 1 := by omega
      rw [hzeros] at hgroups
      rw [eq_of_after hcolons, List.append_nil]
      exact .elided htext htext' (by rw [hgroups, List.append_assoc])

/-- The reader accepts nothing but the texts of addresses. -/
theorem denotes_of_read? {s : List Char} {a : Address} (h : read? s = some a) : Denotes s a := by
  unfold read? at h
  cases hquad : readQuad s with
  | none =>
    rw [hquad] at h
    cases hlong : readLong s with
    | none => simp [hlong] at h
    | some p =>
      obtain ⟨a', rest⟩ := p
      cases rest with
      | nil =>
        simp only [hlong, Option.some.injEq] at h
        subst h
        exact denotes_of_readLong hlong
      | cons c rest => simp [hlong] at h
  | some p =>
    obtain ⟨⟨a', b, c, d⟩, rest⟩ := p
    cases rest with
    | nil =>
      simp only [hquad, Option.some.injEq] at h
      rw [← h, eq_of_readQuad hquad, List.append_nil]
      exact .short a' b c d
    | cons c rest => simp [hquad] at h

/-- **The reader accepts exactly the texts of addresses.** -/
theorem read?_iff {s : List Char} {a : Address} : read? s = some a ↔ Denotes s a :=
  ⟨denotes_of_read?, Denotes.read?_eq⟩

/-! ## Addresses are written -/

theorem groupText_hexDigits (g : Group) : GroupText (hexDigits g) g where
  ne_nil := hexDigits_ne_nil g
  length_le := length_hexDigits_le (by decide) (by have := g.isLt; omega)
  span := by
    have hspan := spanHex_hexDigits g.val []
    rwa [List.append_nil] at hspan

theorem groupTexts_groupsText (gs : List Group) : GroupTexts false (groupsText gs) gs := by
  induction gs with
  | nil => exact .nil
  | cons g gs ih =>
    cases gs with
    | nil => exact .last (groupText_hexDigits g)
    | cons g' gs =>
      have hjoin : groupsText (g :: g' :: gs)
          = hexDigits g ++ ':' :: groupsText (g' :: gs) := by
        simp [groupsText, joinWith]
      rw [hjoin]
      exact .cons (groupText_hexDigits g) ih

/-- The octets of an address stand for its last two groups. -/
theorem mapped?_eq_some {gs : List Group} {a b c d : Octet} (h : mapped? gs = some (a, b, c, d)) :
    gs = List.replicate 5 0 ++ [65535, groupOf a b, groupOf c d] := by
  unfold mapped? at h
  split at h
  · next ones g g' =>
    split at h
    · next hones =>
      have hlast : ones = 65535 := Fin.ext hones
      have hgroup : ∀ g : Group, groupOf (Fin.ofNat 256 (g / 256)) (Fin.ofNat 256 g) = g := by
        intro g
        apply Fin.ext
        simp only [groupOf, Fin.ofNat]
        omega
      cases h
      rw [hgroup, hgroup, hlast]
      rfl
    · cases h
  · cases h

/-- The groups of an address that stands for one of four octets. -/
theorem groupTexts_mapped (a b c d : Octet) :
    GroupTexts true (['f', 'f', 'f', 'f'] ++ ':' :: quadText a b c d)
      [65535, groupOf a b, groupOf c d] :=
  .cons ⟨nofun, by decide, rfl⟩ (.quad a b c d)

/-- The groups that a run of zeros takes up are zeros. -/
theorem take_zeroRun (gs : List Group) : gs.take (zeroRun gs) = List.replicate (zeroRun gs) 0 := by
  induction gs with
  | nil => rfl
  | cons g gs ih =>
    by_cases hg : g = 0
    · have hrun : zeroRun (g :: gs) = zeroRun gs + 1 := by simp [zeroRun, hg]
      rw [hrun, List.take_succ_cons, ih, hg]
      rfl
    · have hrun : zeroRun (g :: gs) = 0 := by simp [zeroRun, hg]
      rw [hrun]
      rfl

theorem zeroRun_le (gs : List Group) : zeroRun gs ≤ gs.length :=
  (List.takeWhile_prefix _).length_le

/-- The longest run lies within the groups, and consists of zeros. -/
theorem longestRun_spec (gs : List Group) (start : Nat) : ∃ before,
    (longestRun start gs).1 = start + before ∧
      before + (longestRun start gs).2 ≤ gs.length ∧
      (gs.drop before).take (longestRun start gs).2
        = List.replicate (longestRun start gs).2 0 := by
  induction gs generalizing start with
  | nil => exact ⟨0, rfl, Nat.le_refl _, rfl⟩
  | cons g gs ih =>
    rw [longestRun]
    split
    · exact ⟨0, rfl, by simpa using zeroRun_le (g :: gs), take_zeroRun (g :: gs)⟩
    · obtain ⟨before, hstart, hlength, hzeros⟩ := ih (start + 1)
      refine ⟨before + 1, ?_, ?_, hzeros⟩
      · omega
      · rw [List.length_cons]
        omega

/-- The groups around their longest run of zeros. -/
theorem eq_around_longestRun (gs : List Group) :
    gs = gs.take (longestRun 0 gs).1 ++ List.replicate (longestRun 0 gs).2 0
      ++ gs.drop ((longestRun 0 gs).1 + (longestRun 0 gs).2) := by
  obtain ⟨before, hstart, -, hzeros⟩ := longestRun_spec gs 0
  rw [Nat.zero_add] at hstart
  rw [hstart, ← hzeros, List.append_assoc, ← List.drop_drop, List.take_append_drop,
    List.take_append_drop]

theorem denotes_longText (groups : Vector Group 8) :
    Denotes (longText groups.toList) (.long groups) := by
  rw [longText]
  split
  · next a b c d hmapped =>
    have hgroups : groups.toList
        = [] ++ List.replicate (4 + 1) 0 ++ [65535, groupOf a b, groupOf c d] :=
      mapped?_eq_some hmapped
    exact .elided .nil (groupTexts_mapped a b c d) hgroups
  · split
    next start length hrun =>
    split
    · exact .plain (groupTexts_groupsText groups.toList)
    · next hlong =>
      have hgroups := eq_around_longestRun groups.toList
      rw [hrun] at hgroups
      obtain ⟨count, rfl⟩ : ∃ count, length = count + 1 := ⟨length - 1, by omega⟩
      rw [List.append_assoc]
      exact .elided (groupTexts_groupsText _) (groupTexts_groupsText _) hgroups

/-- An address is written in one of its texts. -/
theorem denotes_spell (a : Address) : Denotes a.spell a := by
  cases a with
  | short a b c d => exact .short a b c d
  | long groups => exact denotes_longText groups

/-- **Every address is read as it is written.** -/
theorem ofText?_text (a : Address) : ofText? a.text = some a := by
  rw [ofText?, text, String.toList_ofList]
  exact (denotes_spell a).read?_eq

/-! ## The characters of addresses -/

/-- Whether a character may stand in the text of an address. -/
def isAddressChar (c : Char) : Bool := (hexValue? c).isSome || c = '.' || c = ':'

theorem isAddressChar_of_isDigit {c : Char} (h : isDigit c = true) : isAddressChar c = true := by
  have hvalue : hexValue? c = some (c.toNat - 48) := by
    rw [hexValue?, if_pos (by simpa [isDigit] using h)]
  simp [isAddressChar, hvalue]

theorem isAddressChar_quadText {a b c d : Octet} {x : Char} (h : x ∈ quadText a b c d) :
    isAddressChar x = true := by
  have hoctet : ∀ o : Octet, x ∈ digits o → isAddressChar x = true := fun o ho =>
    isAddressChar_of_isDigit (isDigit_of_mem_digits ho)
  have htext := quadText_append a b c d []
  simp only [List.append_nil] at htext
  rw [htext] at h
  simp only [List.mem_append, List.mem_cons] at h
  rcases h with h | rfl | h | rfl | h | rfl | h
  · exact hoctet a h
  · rfl
  · exact hoctet b h
  · rfl
  · exact hoctet c h
  · rfl
  · exact hoctet d h

theorem GroupTexts.isAddressChar {quad : Bool} {s : List Char} {gs : List Group}
    (h : GroupTexts quad s gs) : ∀ c ∈ s, isAddressChar c = true := by
  have hgroup : ∀ {ds : List Char} {g : Group}, GroupText ds g →
      ∀ c ∈ ds, Address.isAddressChar c = true := fun hg c hc => by
    simp [Address.isAddressChar, isSome_hexValue?_of_span hg.span c hc]
  induction h with
  | nil => nofun
  | last hg => exact hgroup hg
  | quad a b c d => exact fun _ => isAddressChar_quadText
  | cons hg _ ih =>
    intro c hc
    rcases List.mem_append.1 hc with hc | hc
    · exact hgroup hg c hc
    · rcases List.mem_cons.1 hc with rfl | hc
      · rfl
      · exact ih c hc

/-- Addresses are written with hexadecimal digits, points and colons. -/
theorem Denotes.isAddressChar {s : List Char} {a : Address} (h : Denotes s a) :
    ∀ c ∈ s, isAddressChar c = true := by
  cases h with
  | short a b c d => exact fun _ => isAddressChar_quadText
  | plain h => exact h.isAddressChar
  | elided hfront hback =>
    intro c hc
    simp only [List.mem_append, List.mem_cons] at hc
    rcases hc with hc | rfl | rfl | hc
    · exact hfront.isAddressChar c hc
    · rfl
    · rfl
    · exact hback.isAddressChar c hc

/-- No address is written without characters. -/
theorem Denotes.ne_nil {s : List Char} {a : Address} (h : Denotes s a) : s ≠ [] := by
  rintro rfl
  have hread : read? [] = none := rfl
  rw [h.read?_eq] at hread
  cases hread

end VulnScan.Net.Address
