import Mathlib.Data.List.Nodup
import VulnScan.Json.Record
import VulnScan.Json.Text
import VulnScan.Proofs.Outcomes

/-! # Where the values of a record come from

The value of a field is what stands for it in the text: the member with its name, or in an array
the item at its place (`Value.field?`). A record is read only if each of its fields can be read in
this way, or has a value for the case that nothing stands for it (`decode_takes`). No member hides
another one of the same name, since a field that is given twice is refused.
-/

set_option autoImplicit false

namespace VulnScan.Json

/-- The first member with a name. -/
def memberOf? (name : String) : List (Content × Value) → Option Value
  | [] => none
  | (.ok key, v) :: ms => if key = name then some v else memberOf? name ms
  | (.error _, _) :: ms => memberOf? name ms

/-- What stands for a field that is called `name` and has the place `i` in its record. -/
def Value.field? (i : Nat) (name : String) : Value → Option Value
  | .object ms _ => memberOf? name ms
  | .array items _ => items[i]?
  | _ => none

/-- The field has the value `a` if `found` stands for it. -/
def Field.Takes (f : Field) (found : Option Value) (a : f.Carrier) : Prop :=
  match found with
  | some v => f.codec.decode v = .ok a
  | none => f.absent = some a

/-- Every field has its value; `find` says what stands for the field at a place, and the first of
the fields has the place `i`. -/
def Parts.Take (find : Nat → String → Option Value) :
    (i : Nat) → {fs : List Field} → Parts fs → Prop
  | _, [], _ => True
  | i, f :: _, (a, parts) => f.Takes (find i f.name) a ∧ Take find (i + 1) parts

/-! ## Members -/

/-- How the slot of a field is filled by members: none of them is its own, or it was empty. -/
def Field.Fills (f : Field) (ms : List (Content × Value)) (slot slot' : Option f.Carrier) : Prop :=
  match memberOf? f.name ms with
  | some v => slot = none ∧ ∃ a, f.codec.decode v = .ok a ∧ slot' = some a
  | none => slot' = slot

/-- How all slots are filled by members. -/
def Slots.Fill (ms : List (Content × Value)) : {fs : List Field} → Slots fs → Slots fs → Prop
  | [], _, _ => True
  | f :: _, (slot, slots), (slot', slots') => f.Fills ms slot slot' ∧ Fill ms slots slots'

theorem memberOf?_cons_of_ne {name key : String} (h : name ≠ key) (v : Value)
    (ms : List (Content × Value)) : memberOf? name ((.ok key, v) :: ms) = memberOf? name ms := by
  rw [memberOf?, if_neg (Ne.symm h)]

section

variable {key : String} {v : Value} {ms : List (Content × Value)}

theorem fill_nil : ∀ {fs : List Field} (slots : Slots fs), slots.Fill [] slots
  | [], _ => trivial
  | _ :: _, (_, slots) => ⟨rfl, fill_nil slots⟩

/-- A member that belongs to no field fills none. -/
theorem fill_cons_of_ne : ∀ {fs : List Field} {slots slots' : Slots fs},
    (∀ f ∈ fs, f.name ≠ key) → slots.Fill ms slots' → slots.Fill ((.ok key, v) :: ms) slots'
  | [], _, _, _, _ => trivial
  | f :: _, (_, _), (_, _), hne, ⟨hfirst, hrest⟩ => by
    refine ⟨?_, fill_cons_of_ne (fun f hf => hne f (List.mem_cons_of_mem _ hf)) hrest⟩
    rwa [Field.Fills, memberOf?_cons_of_ne (hne f List.mem_cons_self)]

theorem ne_of_put?_eq_none : ∀ {fs : List Field} {slots : Slots fs},
    slots.put? key v = none → ∀ f ∈ fs, f.name ≠ key
  | [], _, _ => nofun
  | f :: fs, (slot, slots), h => by
    rw [Slots.put?] at h
    split at h
    · cases h
    · next hne =>
      rw [Option.map_eq_none_iff] at h
      exact List.forall_mem_cons.2 ⟨hne, ne_of_put?_eq_none h⟩

/-- A member fills the slot of its field, which was empty. -/
theorem fill_of_put? : ∀ {fs : List Field} {slots slots₁ slots' : Slots fs},
    (fs.map Field.name).Nodup → slots.put? key v = some (.ok slots₁) → slots₁.Fill ms slots' →
      slots.Fill ((.ok key, v) :: ms) slots'
  | [], _, _, _, _, h, _ => nomatch h
  | f :: fs, (slot, slots), (slot₁, slots₁), (slot', slots'), hnames, h, hfill => by
    obtain ⟨hnot, hnames⟩ := List.nodup_cons.1 hnames
    rw [Slots.put?] at h
    -- induction on the fields: the member is of the first one or of one of the others
    by_cases hkey : f.name = key
    · rw [if_pos hkey, Option.some.injEq] at h
      have hempty : slot = none := by
        cases slot with
        | none => rfl
        | some a => cases h
      subst hempty
      cases hv : f.codec.decode v with
      | error fault =>
        rw [hv] at h
        cases h
      | ok a =>
        rw [hv] at h
        cases h
        obtain ⟨hfirst, hrest⟩ := hfill
        have hothers : ∀ g ∈ fs, g.name ≠ key := by
          rintro g hg rfl
          exact hnot (hkey ▸ List.mem_map_of_mem hg)
        refine ⟨?_, fill_cons_of_ne hothers hrest⟩
        -- the slot is full now, so no later member is of this field
        rw [Field.Fills] at hfirst ⊢
        rw [memberOf?, if_pos hkey.symm]
        cases hmember : memberOf? f.name ms with
        | some w =>
          rw [hmember] at hfirst
          exact nomatch hfirst.1
        | none =>
          rw [hmember] at hfirst
          exact ⟨rfl, a, hv, hfirst⟩
    · rw [if_neg hkey] at h
      obtain ⟨read, hread, hmap⟩ := Option.map_eq_some_iff.1 h
      cases read with
      | error fault => cases hmap
      | ok rest =>
        cases hmap
        obtain ⟨hfirst, hrest⟩ := hfill
        refine ⟨?_, fill_of_put? hnames hread hrest⟩
        rwa [Field.Fills, memberOf?_cons_of_ne hkey]

/-- Reading members one after the other fills the slots of their fields. -/
theorem fill_of_readMembers {other : String → Value → Except Fault Unit} {fs : List Field}
    (hnames : (fs.map Field.name).Nodup) {slots slots' : Slots fs}
    (h : slots.readMembers other ms = .ok slots') : slots.Fill ms slots' := by
  induction ms generalizing slots with
  | nil =>
    cases h
    exact fill_nil _
  | cons m ms ih =>
    obtain ⟨content, v⟩ := m
    rw [Slots.readMembers] at h
    obtain ⟨key, hkey, h⟩ := bind_eq_ok_iff.1 h
    cases content with
    | error flaw => cases hkey
    | ok key' =>
      obtain rfl : key' = key := Except.ok.inj hkey
      cases hput : slots.put? key' v with
      | none =>
        rw [hput] at h
        obtain ⟨-, -, h⟩ := bind_eq_ok_iff.1 h
        exact fill_cons_of_ne (ne_of_put?_eq_none hput) (ih h)
      | some read =>
        rw [hput] at h
        obtain ⟨slots₁, rfl, h⟩ := bind_eq_ok_iff.1 h
        exact fill_of_put? hnames hput (ih h)

theorem take_of_complete : ∀ {fs : List Field} {slots : Slots fs} {parts : Parts fs} (i : Nat),
    (Slots.empty fs).Fill ms slots → slots.complete = .ok parts →
      parts.Take (fun _ name => memberOf? name ms) i
  | [], _, _, _, _, _ => trivial
  | f :: _, (slot, slots), (a, parts), i, ⟨hfirst, hrest⟩, h => by
    rw [Slots.complete] at h
    cases hvalue : slot.or f.absent with
    | none =>
      rw [hvalue] at h
      cases h
    | some b =>
      rw [hvalue] at h
      obtain ⟨b', hb, h⟩ := bind_eq_ok_iff.1 h
      cases hb
      obtain ⟨parts', hparts, h⟩ := bind_eq_ok_iff.1 h
      cases h
      refine ⟨?_, take_of_complete (i + 1) hrest hparts⟩
      rw [Field.Fills] at hfirst
      show f.Takes (memberOf? f.name ms) _
      cases hmember : memberOf? f.name ms with
      | some w =>
        rw [hmember] at hfirst
        obtain ⟨-, c, hc, rfl⟩ := hfirst
        cases hvalue
        exact hc
      | none =>
        rw [hmember] at hfirst
        subst hfirst
        exact hvalue

end

/-! ## Items -/

theorem take_shift {find : Nat → String → Option Value} : ∀ {fs : List Field} {parts : Parts fs}
    {i : Nat}, parts.Take (fun j => find (j + 1)) i → parts.Take find (i + 1)
  | [], _, _, _ => trivial
  | _ :: _, (_, _), _, ⟨hfirst, hrest⟩ => ⟨hfirst, take_shift hrest⟩

/-- The items are the values of the fields, in their order. -/
theorem take_of_readItems {short : Nat → Fault} {ending : Ending} : ∀ {fs : List Field} {read : Nat}
    {vs rest : List Value} {parts : Parts fs},
    Parts.readItems short ending read fs vs = .ok (parts, rest) →
      parts.Take (fun i _ => vs[i]?) 0
  | [], _, _, _, _, _ => trivial
  | f :: fs, read, [], rest, (a, parts), h => by
    rw [Parts.readItems] at h
    obtain ⟨-, -, h⟩ := bind_eq_ok_iff.1 h
    cases habsent : f.absent with
    | none =>
      rw [habsent] at h
      cases h
    | some b =>
      rw [habsent] at h
      obtain ⟨⟨parts', rest'⟩, hparts, h⟩ := bind_eq_ok_iff.1 h
      cases h
      refine ⟨habsent, take_shift ?_⟩
      simpa using take_of_readItems hparts
  | f :: fs, read, v :: vs, rest, (a, parts), h => by
    rw [Parts.readItems] at h
    obtain ⟨b, hb, h⟩ := bind_eq_ok_iff.1 h
    obtain ⟨⟨parts', rest'⟩, hparts, h⟩ := bind_eq_ok_iff.1 h
    cases h
    refine ⟨hb, take_shift ?_⟩
    simpa using take_of_readItems hparts

/-! ## Records -/

/-- **Each field of a record that is read has the value that stands for it**, or, if nothing does,
the value of a field that is left out. -/
theorem decode_takes {h : Heading} {fs : List Field} (hnames : (fs.map Field.name).Nodup)
    {v : Value} {parts : Parts fs} (hv : Parts.decode h fs v = .ok parts) :
    parts.Take (fun i name => v.field? i name) 0 := by
  cases v with
  | object members ending =>
    rw [Parts.decode] at hv
    obtain ⟨slots, hslots, hv⟩ := bind_eq_ok_iff.1 hv
    obtain ⟨-, -, hcomplete⟩ := bind_eq_ok_iff.1 hv
    exact take_of_complete 0 (fill_of_readMembers hnames hslots) hcomplete
  | array items ending =>
    rw [Parts.decode] at hv
    obtain ⟨⟨parts', rest⟩, hitems, hv⟩ := bind_eq_ok_iff.1 hv
    obtain ⟨-, -, hv⟩ := bind_eq_ok_iff.1 hv
    cases hv
    exact take_of_readItems hitems
  | null | bool _ | number _ | string _ | keyless _ | broken _ => cases hv

namespace Codec

variable {α : Type} {h : Heading} {fs : List Field} {parts : α → Parts fs} {build : Parts fs → α}

theorem recordOf_takes (hnames : (fs.map Field.name).Nodup) {v : Value} {a : α}
    (hv : (recordOf h fs parts build).decode v = .ok a) :
    ∃ ps : Parts fs, build ps = a ∧ ps.Take (fun i name => v.field? i name) 0 := by
  simp only [recordOf] at hv
  cases hps : Parts.decode h fs v with
  | error fault =>
    rw [hps] at hv
    cases hv
  | ok ps =>
    rw [hps] at hv
    exact ⟨ps, Except.ok.inj hv, decode_takes hnames hps⟩

theorem decode_of_required {name : String} {c : Codec α} {found : Option Value} {a : α}
    (h : (Field.required name c).Takes found a) : ∃ v, c.decode v = .ok a := by
  cases found with
  | none => cases h
  | some v => exact ⟨v, h⟩

theorem decode_of_defaulted {name : String} {c : Codec α} {found : Option Value} {absent a : α}
    (h : (Field.defaulted name c absent).Takes found a) : a = absent ∨ ∃ v, c.decode v = .ok a := by
  cases found with
  | none => exact .inl (Option.some.inj h).symm
  | some v => exact .inr ⟨v, h⟩

/-- A record that may be left out, since each of its fields may. -/
theorem defaulted_takes {name : String} {found : Option Value} {absent a : α}
    (ha : (Field.defaulted name (recordOf h fs parts build) absent).Takes found a)
    (initial : Parts fs) (hinitial : initial.Take (fun _ _ => none) 0)
    (habsent : build initial = absent) (hnames : (fs.map Field.name).Nodup) :
    ∃ ps : Parts fs, build ps = a ∧
      ps.Take (fun i key => found.bind fun v => v.field? i key) 0 := by
  cases found with
  | none => exact ⟨initial, habsent.trans (Option.some.inj ha), hinitial⟩
  | some v => exact recordOf_takes hnames ha

/-! ## Lists and texts -/

theorem decode_of_mem_decodeItems {c : Codec α} {vs : List Value} {as : List α}
    (h : decodeItems c vs = .ok as) : ∀ a ∈ as, ∃ v, c.decode v = .ok a := by
  induction vs generalizing as with
  | nil =>
    cases h
    nofun
  | cons v vs ih =>
    obtain ⟨b, hb, h⟩ := bind_eq_ok_iff.1 h
    obtain ⟨bs, hbs, h⟩ := bind_eq_ok_iff.1 h
    cases h
    exact List.forall_mem_cons.2 ⟨⟨v, hb⟩, ih hbs⟩

/-- Each member of a list was read from some value. -/
theorem decode_of_mem_list {c : Codec α} {v : Value} {as : List α} (h : c.list.decode v = .ok as) :
    ∀ a ∈ as, ∃ v, c.decode v = .ok a := by
  cases v with
  | array items ending =>
    obtain ⟨bs, hbs, h⟩ := bind_eq_ok_iff.1 h
    obtain ⟨-, -, h⟩ := bind_eq_ok_iff.1 h
    cases h
    exact decode_of_mem_decodeItems hbs
  | null | bool _ | number _ | string _ | object _ _ | keyless _ | broken _ => cases h

theorem decode_of_read {c : Codec α} {s : String} {a : α} (h : c.read s = .ok a) :
    ∃ v, c.decode v = .ok a := by
  obtain ⟨b, hb, h⟩ := bind_eq_ok_iff.1 h
  split at h
  · cases h
  · cases h
    exact ⟨_, hb⟩

end Codec

end VulnScan.Json
