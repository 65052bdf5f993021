import VulnScan.Json.Record
import VulnScan.Proofs.Json.Codecs

/-! # Records that lose nothing

A field keeps a value if the codec returns it, or, where it is not written, if it is the value that
a missing field takes. A record whose fields have different names and keep their values comes back
(`recordOf_returns`): its members are read one after the other into slots of their own.
-/

set_option autoImplicit false

namespace VulnScan.Json

/-- The value `a` of the field comes back as `b`, whether it is written or left out. -/
def Field.Keeps (f : Field) (a b : f.Carrier) : Prop :=
  if f.hides a then f.absent = some b else f.codec.Returns a b

/-- Every value comes back as its counterpart. -/
def Parts.Keep : {fs : List Field} → Parts fs → Parts fs → Prop
  | [], _, _ => True
  | f :: _, (a, parts), (b, parts') => f.Keeps a b ∧ Keep parts parts'

/-! ## Kinds of fields -/

namespace Field

variable {α : Type} {name : String} {c : Codec α}

theorem keeps_required {a b : α} (h : c.Returns a b) : (required name c).Keeps a b := by
  simpa [Keeps] using h

theorem keeps_defaulted {absent a b : α} (h : c.Returns a b) :
    (defaulted name c absent).Keeps a b := by
  simpa [Keeps] using h

theorem keeps_optional {a b : Option α} (h : c.option.Returns a b) (hab : a = none → b = none) :
    (optional name c).Keeps a b := by
  cases a with
  | none => simp [Keeps, hab rfl]
  | some a => simpa [Keeps] using h

theorem keeps_listed {as bs : List α} (h : c.list.Returns as bs) (hab : as = [] → bs = []) :
    (listed name c).Keeps as bs := by
  cases as with
  | nil => simp [Keeps, hab rfl]
  | cons a as => simpa [Keeps] using h

theorem keeps_worded (s : String) : (worded name).Keeps s s := by
  by_cases hs : s = ""
  · simp [Keeps, hs]
  · simpa [Keeps, hs] using Codec.string_faithful.returns s

end Field

/-! ## Members and their slots -/

/-- Members with names, as the reader of members sees them. -/
abbrev named (ms : List (String × Value)) : List (Content × Value) :=
  ms.map fun m => (.ok m.1, m.2)

theorem soundMembers_members : ∀ {fs : List Field} {parts parts' : Parts fs}, parts.Keep parts' →
    SoundMembers (named parts.members)
  | [], _, _, _ => trivial
  | f :: fs, (a, parts), (b, parts'), ⟨hab, hparts⟩ => by
    have hrest := soundMembers_members hparts
    rw [Parts.members]
    split
    · exact hrest
    · next hwritten =>
      rw [Field.Keeps, if_neg hwritten] at hab
      exact ⟨hab.sound, hrest⟩

/-- The names of the written members are names of fields. -/
theorem mem_names_of_mem_members : ∀ {fs : List Field} {parts : Parts fs} {m : String × Value},
    m ∈ parts.members → m.1 ∈ fs.map Field.name
  | [], _, _, h => nomatch h
  | f :: fs, (a, parts), m, h => by
    rw [Parts.members] at h
    split at h
    · exact List.mem_cons_of_mem _ (mem_names_of_mem_members h)
    · rcases List.mem_cons.1 h with rfl | h
      · exact List.mem_cons_self
      · exact List.mem_cons_of_mem _ (mem_names_of_mem_members h)

section

variable {other : String → Value → Except Fault Unit} {f : Field} {fs : List Field}

theorem readMembers_cons {slots slots' : Slots fs} {key : String} {v : Value}
    {ms : List (String × Value)} (h : slots.put? key v = some (.ok slots')) :
    slots.readMembers other (named ((key, v) :: ms)) = slots'.readMembers other (named ms) := by
  simp only [named, List.map_cons, Slots.readMembers, Content.read, Except.mapError, bind,
    Except.bind, h]

/-- Members of other fields do not touch the first slot. -/
theorem readMembers_skipping {slot : Option f.Carrier} {slots slots' : Slots fs}
    {ms : List (String × Value)} (hname : ∀ m ∈ ms, f.name ≠ m.1)
    (h : slots.readMembers other (named ms) = .ok slots') :
    @Slots.readMembers (f :: fs) other (slot, slots) (named ms) = .ok (slot, slots') := by
  induction ms generalizing slots with
  | nil =>
    cases h
    rfl
  | cons m ms ih =>
    have hm : f.name ≠ m.1 := hname m List.mem_cons_self
    have hrest := fun m hm => hname m (List.mem_cons_of_mem _ hm)
    simp only [named, List.map_cons, Slots.readMembers, Content.read, Except.mapError, bind,
      Except.bind] at h ⊢
    have hput : @Slots.put? (f :: fs) (slot, slots) m.1 m.2
        = (slots.put? m.1 m.2).map fun r => r.map fun slots => (slot, slots) := by
      simp [Slots.put?, hm]
    rw [hput]
    cases hslots : slots.put? m.1 m.2 with
    | none =>
      rw [hslots] at h
      cases hother : other m.1 m.2 with
      | error fault => simp [hother] at h
      | ok u => 
        simp only [hother] at h
        simpa using ih hrest h
    | some read =>
      rw [hslots] at h
      cases read with
      | error fault => simp at h
      | ok slots₁ => exact ih hrest h

/-- The member of the first field fills its slot. -/
theorem put?_first {slots : Slots fs} {v : Value} {b : f.Carrier} (h : f.codec.decode v = .ok b) :
    @Slots.put? (f :: fs) (none, slots) f.name v = some (.ok (some b, slots)) := by
  simp [Slots.put?, h, Except.map]

theorem complete_cons {slot : Option f.Carrier} {slots : Slots fs} {b : f.Carrier}
    {parts : Parts fs} (hslot : slot.or f.absent = some b) (h : slots.complete = .ok parts) :
    @Slots.complete (f :: fs) (slot, slots) = .ok (b, parts) := by
  simp [Slots.complete, hslot, h, bind, Except.bind, pure, Except.pure]

end

/-- **The members of a record fill the slots with its values.** Induction on the fields: the first
one fills its slot, or leaves it for the value of a missing field, and the members of the others do
not touch it. -/
theorem readMembers_members {other : String → Value → Except Fault Unit} : ∀ {fs : List Field}
    {parts parts' : Parts fs}, (fs.map Field.name).Nodup → parts.Keep parts' →
    ∃ slots, (Slots.empty fs).readMembers other (named parts.members) = .ok slots ∧
      slots.complete = .ok parts'
  | [], _, _, _, _ => ⟨(), rfl, rfl⟩
  | f :: fs, (a, parts), (b, parts'), hnames, ⟨hab, hparts⟩ => by
    obtain ⟨hfirst, hothers⟩ := List.nodup_cons.1 hnames
    obtain ⟨slots, hread, hcomplete⟩ := @readMembers_members other _ _ _ hothers hparts
    have hskip : ∀ m ∈ parts.members, f.name ≠ m.1 := fun m hm hf =>
      hfirst (hf ▸ mem_names_of_mem_members hm)
    rw [Field.Keeps] at hab
    rw [Parts.members, Slots.empty]
    by_cases hidden : f.hides a = true
    · rw [if_pos hidden] at hab ⊢
      exact ⟨(none, slots), readMembers_skipping hskip hread, complete_cons hab hcomplete⟩
    · rw [if_neg hidden] at hab ⊢
      refine ⟨(some b, slots), ?_, complete_cons rfl hcomplete⟩
      rw [readMembers_cons (put?_first hab.decode)]
      exact readMembers_skipping hskip hread

/-! ## Records -/

namespace Codec

variable {α : Type} {h : Heading} {fs : List Field} {parts : α → Parts fs} {build : Parts fs → α}

theorem recordOf_returns (hnames : (fs.map Field.name).Nodup) {a b : α}
    (hkeep : (parts a).Keep (parts b)) (hbuild : build (parts b) = b) :
    (recordOf h fs parts build).Returns a b := by
  obtain ⟨slots, hread, hcomplete⟩ := @readMembers_members (h.other fs) _ _ _ hnames hkeep
  refine ⟨soundMembers_members hkeep, ?_⟩
  simp [recordOf, Value.record, Parts.decode, hread, hcomplete, hbuild, Ending.check, bind,
    Except.bind, Except.map]

theorem recordOf_faithful (hnames : (fs.map Field.name).Nodup)
    (hkeep : ∀ a, (parts a).Keep (parts a)) (hbuild : ∀ a, build (parts a) = a) :
    (recordOf h fs parts build).Faithful where
  returns a := recordOf_returns hnames (hkeep a) (hbuild a)
  evident _ := nofun

end Codec

end VulnScan.Json
