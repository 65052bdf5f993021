import Mathlib.Tactic.SplitIfs
import VulnScan.Json.Printer
import VulnScan.Json.Reader

/-! # How a JSON value may be written

`Spells v s` is the grammar of JSON texts: `s` is a way to write `v`, with any spaces between its
tokens. Only values without a fault can be written (`Value.Sound`). Both printers write every such
value: compactly (`spells_compact`) and over several lines (`spells_pretty`).
-/

set_option autoImplicit false

namespace VulnScan.Number

/-- The parts of the literal are spelled as the grammar of numbers wants them. -/
structure Literal.Sound (l : Literal) : Prop where
  whole_digits : ∀ c ∈ l.whole, Text.isDigit c = true
  whole_ne_nil : l.whole ≠ []
  /-- A zero comes first only if it is alone. -/
  whole_zero : l.whole.head? = some '0' → l.whole = ['0']
  fraction_digits : ∀ c ∈ l.fraction, Text.isDigit c = true
  exponent_digits : ∀ negative ds, l.exponent = some (negative, ds) →
    ds ≠ [] ∧ ∀ c ∈ ds, Text.isDigit c = true

end VulnScan.Number

namespace VulnScan.Json

/-! ## Values that can be written -/

mutual

/-- Neither the value nor any part of it has a fault. -/
def Value.Sound : Value → Prop
  | .null | .bool _ | .string (.ok _) => True
  | .number l => l.Sound
  | .array items .closed => SoundItems items
  | .object members .closed => SoundMembers members
  | .string (.error _) | .array _ (.cut _ _) | .object _ (.cut _ _) | .keyless _ | .broken _ =>
    False

/-- No item has a fault. -/
def SoundItems : List Value → Prop
  | [] => True
  | v :: vs => v.Sound ∧ SoundItems vs

/-- Neither a key nor a value has a fault. -/
def SoundMembers : List (Content × Value) → Prop
  | [] => True
  | (.ok _, v) :: ms => v.Sound ∧ SoundMembers ms
  | (.error _, _) :: _ => False

end

/-- The value is written as a single token. -/
def Value.IsAtom : Value → Prop
  | .null | .bool _ | .number _ | .string _ => True
  | .array _ _ | .object _ _ | .keyless _ | .broken _ => False

/-! ## The grammar -/

/-- Nothing but spaces. -/
def Spaces (w : List Char) : Prop := ∀ c ∈ w, isSpace c = true

theorem spaces_nil : Spaces [] := nofun

theorem spaces_one : Spaces [' '] := by
  intro c hc
  rw [List.mem_singleton.1 hc]
  rfl

theorem Spaces.append {w w' : List Char} (h : Spaces w) (h' : Spaces w') : Spaces (w ++ w') := by
  intro c hc
  rcases List.mem_append.1 hc with hc | hc
  · exact h c hc
  · exact h' c hc

mutual

/-- `s` is a way to write the value, without spaces around it. -/
inductive Spells : Value → List Char → Prop
  | atom {v : Value} (isAtom : v.IsAtom) (sound : v.Sound) : Spells v (printAtom v)
  | emptyArray {w : List Char} (spaces : Spaces w) :
    Spells (.array [] .closed) ('[' :: (w ++ [']']))
  | array {vs : List Value} {s : List Char} (items : SpellsItems vs s) :
    Spells (.array vs .closed) ('[' :: (s ++ [']']))
  | emptyObject {w : List Char} (spaces : Spaces w) :
    Spells (.object [] .closed) ('\x7b' :: (w ++ ['\x7d']))
  | object {ms : List (Content × Value)} {s : List Char} (members : SpellsMembers ms s) :
    Spells (.object ms .closed) ('\x7b' :: (s ++ ['\x7d']))

/-- `s` is a way to write the items, at least one, with commas between them. -/
inductive SpellsItems : List Value → List Char → Prop
  | last {v : Value} {before s after : List Char} (spacesBefore : Spaces before)
      (value : Spells v s) (spacesAfter : Spaces after) :
    SpellsItems [v] (before ++ (s ++ after))
  | more {v : Value} {vs : List Value} {before s after t : List Char}
      (spacesBefore : Spaces before) (value : Spells v s) (spacesAfter : Spaces after)
      (items : SpellsItems vs t) :
    SpellsItems (v :: vs) (before ++ (s ++ (after ++ ',' :: t)))

/-- `s` is a way to write the members, at least one, with commas between them. -/
inductive SpellsMembers : List (Content × Value) → List Char → Prop
  | last {key : String} {v : Value} {before inner s after : List Char}
      (spacesBefore : Spaces before) (spacesInner : Spaces inner) (value : Spells v s)
      (spacesAfter : Spaces after) :
    SpellsMembers [(.ok key, v)] (before ++ (printString key ++ ':' :: (inner ++ (s ++ after))))
  | more {key : String} {v : Value} {ms : List (Content × Value)}
      {before inner s after t : List Char}
      (spacesBefore : Spaces before) (spacesInner : Spaces inner) (value : Spells v s)
      (spacesAfter : Spaces after) (members : SpellsMembers ms t) :
    SpellsMembers ((.ok key, v) :: ms)
      (before ++ (printString key ++ ':' :: (inner ++ (s ++ (after ++ ',' :: t)))))

end

/-! ## Spaces at the end -/

theorem SpellsItems.append {vs : List Value} {s w : List Char} (h : SpellsItems vs s)
    (hw : Spaces w) : SpellsItems vs (s ++ w) := by
  induction vs generalizing s with
  | nil => cases h
  | cons v vs ih =>
      cases h with
      | last before value after =>
          simp only [List.append_assoc]
          exact .last before value (after.append hw)
      | more before value after items =>
          simp only [List.append_assoc, List.cons_append]
          exact .more before value after (ih items)

theorem SpellsMembers.append {ms : List (Content × Value)} {s w : List Char}
    (h : SpellsMembers ms s) (hw : Spaces w) : SpellsMembers ms (s ++ w) := by
  induction ms generalizing s with
  | nil => cases h
  | cons m ms ih =>
      cases h with
      | last before inner value after =>
          simp only [List.append_assoc, List.cons_append]
          exact .last before inner value (after.append hw)
      | more before inner value after members =>
          simp only [List.append_assoc, List.cons_append]
          exact .more before inner value after (ih members)

/-! ## Nothing is written that stands for a gap -/

theorem ne_gap_of_isDigit {c : Char} (h : Text.isDigit c = true) : c ≠ gap := by
  rintro rfl
  exact absurd h (by decide)

theorem Spaces.no_gap {w : List Char} (h : Spaces w) : gap ∉ w :=
  fun hgap => absurd (h gap hgap) (by decide)

theorem hexDigit_ne_gap (d : Nat) : Text.hexDigit d ≠ gap := by
  intro h
  have hvalue := Text.hexValue?_hexDigit d
  rw [h] at hvalue
  exact absurd hvalue (by simp [show Text.hexValue? gap = none by decide])

theorem escapeChar_no_gap (c : Char) : gap ∉ escapeChar c := by
  have hdigit : ∀ d, '\x00' ≠ Text.hexDigit d := fun d => (hexDigit_ne_gap d).symm
  unfold escapeChar
  split_ifs with _ _ _ _ _ _ _ hcontrol
  case neg =>
    -- a character that stands for itself is no control character
    intro h
    rw [← List.mem_singleton.1 h] at hcontrol
    exact hcontrol (by decide)
  all_goals simp [gap, hdigit]

theorem printString_no_gap (s : String) : gap ∉ printString s := by
  have hescaped : gap ∉ s.toList.flatMap escapeChar := by
    intro h
    obtain ⟨c, -, hc⟩ := List.mem_flatMap.1 h
    exact escapeChar_no_gap c hc
  simpa [printString, show gap ≠ '"' by decide] using hescaped

theorem spell_no_gap {l : Number.Literal} (h : l.Sound) : gap ∉ l.spell := by
  have hdigits : ∀ {ds : List Char}, (∀ c ∈ ds, Text.isDigit c = true) → gap ∉ ds :=
    fun h hgap => ne_gap_of_isDigit (h gap hgap) rfl
  unfold Number.Literal.spell
  simp only [List.mem_append, not_or]
  refine ⟨⟨⟨?_, hdigits h.whole_digits⟩, ?_⟩, ?_⟩
  · split <;> simp [gap]
  · split
    · simp
    · simpa [gap] using hdigits h.fraction_digits
  · split
    · simp
    · next below ds hexponent =>
      have hds := hdigits (h.exponent_digits below ds hexponent).2
      cases below <;> simpa [gap] using hds

theorem printAtom_no_gap {v : Value} (isAtom : v.IsAtom) (sound : v.Sound) : gap ∉ printAtom v := by
  match v, isAtom, sound with
  | .null, _, _ => decide
  | .bool true, _, _ => decide
  | .bool false, _, _ => decide
  | .number l, _, sound => exact spell_no_gap sound
  | .string (.ok s), _, _ => exact printString_no_gap s

mutual

theorem Spells.no_gap {v : Value} {s : List Char} : Spells v s → gap ∉ s
  | .atom isAtom sound => printAtom_no_gap isAtom sound
  | .emptyArray spaces | .emptyObject spaces => by simpa [gap] using spaces.no_gap
  | .array items => by simpa [gap] using items.no_gap
  | .object members => by simpa [gap] using members.no_gap

theorem SpellsItems.no_gap {vs : List Value} {s : List Char} : SpellsItems vs s → gap ∉ s
  | .last before value after => by
    simpa using ⟨before.no_gap, value.no_gap, after.no_gap⟩
  | .more before value after items => by
    simpa [gap] using ⟨before.no_gap, value.no_gap, after.no_gap, items.no_gap⟩

theorem SpellsMembers.no_gap {ms : List (Content × Value)} {s : List Char} :
    SpellsMembers ms s → gap ∉ s
  | .last before inner value after => by
    simpa [gap] using
      ⟨before.no_gap, printString_no_gap _, inner.no_gap, value.no_gap, after.no_gap⟩
  | .more before inner value after members => by
    simpa [gap] using
      ⟨before.no_gap, printString_no_gap _, inner.no_gap, value.no_gap, after.no_gap,
        members.no_gap⟩

end

/-- The reader sees a text that writes a value as it is. -/
theorem Spells.map_seen {v : Value} {s : List Char} (h : Spells v s) : s.map seen = s := by
  have hseen : ∀ c ∈ s, seen c = c := by
    intro c hc
    refine if_neg ?_
    rintro rfl
    exact h.no_gap hc
  rw [List.map_congr_left hseen, List.map_id']

/-! ## The printers keep to the grammar -/

mutual

theorem spells_compact : ∀ v : Value, v.Sound → Spells v v.compact
  | .null, h | .bool _, h | .number _, h | .string (.ok _), h => .atom trivial h
  | .array [] .closed, _ => .emptyArray spaces_nil
  | .array (v :: vs) .closed, h => .array (spells_compactItems (v :: vs) h (by simp))
  | .object [] .closed, _ => .emptyObject spaces_nil
  | .object (m :: ms) .closed, h => .object (spells_compactMembers (m :: ms) h (by simp))

theorem spells_compactItems : ∀ vs : List Value, SoundItems vs → vs ≠ [] →
    SpellsItems vs (compactItems vs)
  | [v], h, _ => by
    have := SpellsItems.last spaces_nil (spells_compact v h.1) spaces_nil
    simpa [compactItems] using this
  | v :: w :: vs, h, _ =>
    .more spaces_nil (spells_compact v h.1) spaces_nil
      (spells_compactItems (w :: vs) h.2 (by simp))

theorem spells_compactMembers : ∀ ms : List (Content × Value), SoundMembers ms → ms ≠ [] →
    SpellsMembers ms (compactMembers ms)
  | [(.ok key, v)], h, _ => by
    have : SpellsMembers [(.ok key, v)] _ :=
      .last spaces_nil spaces_nil (spells_compact v h.1) spaces_nil
    simpa [compactMembers, printContent] using this
  | (.ok key, v) :: m :: ms, h, _ => by
    have : SpellsMembers ((.ok key, v) :: m :: ms) _ :=
      .more spaces_nil spaces_nil (spells_compact v h.1) spaces_nil
        (spells_compactMembers (m :: ms) h.2 (by simp))
    simpa [compactMembers, printContent] using this

end

theorem spaces_newLine (level : Nat) : Spaces (newLine level) := by
  intro c hc
  rcases List.mem_cons.1 hc with rfl | hc
  · rfl
  · rw [List.eq_of_mem_replicate hc]
    rfl

mutual

theorem spells_prettyAt (level : Nat) : ∀ v : Value, v.Sound → Spells v (v.prettyAt level)
  | .null, h | .bool _, h | .number _, h | .string (.ok _), h => .atom trivial h
  | .array [] .closed, _ => .emptyArray spaces_nil
  | .array (v :: vs) .closed, h => .array <|
    (spells_prettyItems (level + 1) (v :: vs) h (by simp)).append (spaces_newLine level)
  | .object [] .closed, _ => .emptyObject spaces_nil
  | .object (m :: ms) .closed, h => .object <|
    (spells_prettyMembers (level + 1) (m :: ms) h (by simp)).append (spaces_newLine level)

theorem spells_prettyItems (level : Nat) : ∀ vs : List Value, SoundItems vs → vs ≠ [] →
    SpellsItems vs (prettyItems level vs)
  | [v], h, _ => by
    have := SpellsItems.last (spaces_newLine level) (spells_prettyAt level v h.1) spaces_nil
    simpa [prettyItems] using this
  | v :: w :: vs, h, _ => by
    have := SpellsItems.more (spaces_newLine level) (spells_prettyAt level v h.1) spaces_nil
      (spells_prettyItems level (w :: vs) h.2 (by simp))
    simpa [prettyItems] using this

theorem spells_prettyMembers (level : Nat) : ∀ ms : List (Content × Value), SoundMembers ms →
    ms ≠ [] → SpellsMembers ms (prettyMembers level ms)
  | [(.ok key, v)], h, _ => by
    have : SpellsMembers [(.ok key, v)] _ :=
      .last (spaces_newLine level) spaces_one (spells_prettyAt level v h.1) spaces_nil
    simpa [prettyMembers, printContent] using this
  | (.ok key, v) :: m :: ms, h, _ => by
    have : SpellsMembers ((.ok key, v) :: m :: ms) _ :=
      .more (spaces_newLine level) spaces_one (spells_prettyAt level v h.1) spaces_nil
        (spells_prettyMembers level (m :: ms) h.2 (by simp))
    simpa [prettyMembers, printContent] using this

end

theorem spells_pretty (v : Value) (h : v.Sound) : Spells v v.pretty := spells_prettyAt 0 v h

end VulnScan.Json
