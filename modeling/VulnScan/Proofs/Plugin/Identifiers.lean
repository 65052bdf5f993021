import VulnScan.Proofs.Plugin.Registration

/-! # What the identifier of a plugin tells

An identifier is made of author, role, name and version with slashes between them, and none of the
three that anybody may choose is kept free of slashes. So from the identifier alone the parts are
not known: a slash more in the author can be one less in the name, and what stands between can be
the name of a role (`Definition.id_shared`). But how many slashes the author and the name have is
all that is missing (`Definition.sameParts_iff`): between plugins that have as many, equal
identifiers mean equal parts, and no registration replaces another plugin.
-/

set_option autoImplicit false

namespace VulnScan.Plugin

variable {σ : Type}

/-- The number of slashes in a text. -/
def slashes (s : String) : Nat := s.toList.count '/'

/-- Two texts with a slash after them are told apart by the numbers of their own slashes. -/
theorem append_slash_inj {u v x y : List Char} (count : u.count '/' = v.count '/')
    (h : u ++ '/' :: x = v ++ '/' :: y) : u = v ∧ x = y := by
  induction u generalizing v with
  | nil =>
      cases v with
      | nil => exact ⟨rfl, (List.cons.inj h).2⟩
      | cons c v =>
          -- the first slash would end the one text and stand within the other
          obtain ⟨hc, -⟩ := List.cons.inj h
          rw [← hc, List.count_cons_self, List.count_nil] at count
          omega
  | cons b u ih =>
      cases v with
      | nil =>
          obtain ⟨hb, -⟩ := List.cons.inj h
          rw [hb, List.count_cons_self, List.count_nil] at count
          omega
      | cons c v =>
          obtain ⟨rfl, hrest⟩ := List.cons.inj h
          rw [List.count_cons, List.count_cons] at count
          obtain ⟨rfl, hxy⟩ := ih (by omega) hrest
          exact ⟨rfl, hxy⟩

namespace Role

theorem name_injective : Function.Injective name := by
  intro a b h
  cases a <;> cases b <;> first | rfl | exact absurd h (by decide)

theorem slashes_name (r : Role) : slashes r.name = 0 := by
  cases r <;> decide

end Role

namespace Definition

variable {d d' : Definition}

/-- Both definitions have the parts that an identifier is made of in common. -/
structure SameParts (d d' : Definition) : Prop where
  author : d.author = d'.author
  role : d.role = d'.role
  name : d.name = d'.name
  version : d.version = d'.version

/-- The authors have equally many slashes, and the names too. -/
structure SlashedAlike (d d' : Definition) : Prop where
  author : slashes d.author = slashes d'.author
  name : slashes d.name = slashes d'.name

theorem toList_id (d : Definition) :
    d.id.toList = '/' :: (d.author.toList ++ '/' :: (d.role.name.toList ++
      '/' :: (d.name.toList ++ '/' :: d.version.toList))) := by
  simp [id]

/-- The author takes up the identifier to a slash of its own number, and then comes the role. -/
theorem author_of_id (same : d.id = d'.id) (count : slashes d.author = slashes d'.author) :
    d.author = d'.author ∧ d.role = d'.role ∧
      d.name.toList ++ '/' :: d.version.toList = d'.name.toList ++ '/' :: d'.version.toList := by
  have hlist := congrArg String.toList same
  rw [toList_id, toList_id] at hlist
  obtain ⟨hauthor, hrest⟩ := append_slash_inj count (List.cons.inj hlist).2
  -- no role has a slash in its name, so it ends at the next one
  have hroles : slashes d.role.name = slashes d'.role.name := by
    rw [Role.slashes_name, Role.slashes_name]
  obtain ⟨hrole, hrest⟩ := append_slash_inj hroles hrest
  exact ⟨String.toList_inj.1 hauthor, Role.name_injective (String.toList_inj.1 hrole), hrest⟩

/-- Definitions with one identifier have the same parts exactly if their authors and their names
have equally many slashes. -/
theorem sameParts_iff (same : d.id = d'.id) : d.SameParts d' ↔ d.SlashedAlike d' := by
  constructor
  · intro h
    exact ⟨congrArg slashes h.author, congrArg slashes h.name⟩
  · intro h
    obtain ⟨hauthor, hrole, hrest⟩ := author_of_id same h.author
    obtain ⟨hname, hversion⟩ := append_slash_inj h.name hrest
    exact ⟨hauthor, hrole, String.toList_inj.1 hname, String.toList_inj.1 hversion⟩

/-- A port scanner of which the version has slashes. -/
def slashed : Definition :=
  { role := .portScanner, author := "a", name := "x", version := "VULN_DETECTION/y/1" }

/-- A detector of which the author has slashes. -/
def slashedAuthor : Definition :=
  { role := .detector, author := "a/PORT_SCAN/x", name := "y", version := "1" }

/-- Two plugins with one identifier that have no part of it in common: registering the detector
takes the port scanner away. -/
theorem id_shared :
    slashed.id = slashedAuthor.id ∧ slashed.author ≠ slashedAuthor.author ∧
      slashed.role ≠ slashedAuthor.role ∧ slashed.name ≠ slashedAuthor.name ∧
      slashed.version ≠ slashedAuthor.version ∧
      ∀ (scanner detector : Instance Unit),
        ((Registry.empty.register ⟨slashed, scanner⟩).register ⟨slashedAuthor, detector⟩).entries
          = [⟨slashedAuthor, detector⟩] := by
  have hid : slashed.id = slashedAuthor.id := by decide
  refine ⟨hid, by decide, by decide, by decide, by decide, fun scanner detector => ?_⟩
  simp [Registry.register, Registry.empty, upsert, Entry.id, hid]

end Definition

namespace Registry

/-- Only a plugin with the identifier of a new one gives way to it. -/
theorem id_of_replaced {assertions : Bool} {r : Registry σ} {c : Registration σ} {x : Entry σ}
    (hx : x ∈ r.entries) (gone : x ∉ (r.call assertions c).entries) :
    ∃ e, c.entered? assertions = some e ∧ x.id = e.id := by
  rw [call_eq] at gone
  cases hentry : c.entered? assertions with
  | none => exact absurd hx (by simpa [hentry] using gone)
  | some e =>
      refine ⟨e, rfl, Decidable.byContradiction fun hne => gone ?_⟩
      rw [hentry]
      exact (mem_upsert r.nodup).2 (.inr ⟨hx, hne⟩)

/-- Plugins of other roles are as before if no plugin of another role has the identifier. -/
theorem ofRole_call {assertions : Bool} {r : Registry σ} {c : Registration σ} {role : Role}
    (other : ∀ e, c.entered? assertions = some e → e.definition.role ≠ role)
    (alike : ∀ e, c.entered? assertions = some e → ∀ x ∈ r.entries, x.id = e.id →
      x.definition.role = e.definition.role) :
    (r.call assertions c).ofRole role = r.ofRole role := by
  rw [call_eq]
  cases hentry : c.entered? assertions with
  | none => rfl
  | some e =>
      have hpicked : ∀ x ∈ r.entries, x.id = e.id →
          decide (x.definition.role = role) = decide (e.definition.role = role) :=
        fun x hx hid => by rw [alike e hentry x hx hid]
      have hfilter := filter_upsert (p := fun x => decide (x.definition.role = role)) hpicked
      rwa [if_neg (by simpa using other e hentry)] at hfilter

/-- Up to the numbers of slashes in authors and names, an identifier tells all four parts, and so
no registration replaces a plugin of which one part is another. -/
theorem call_spares_others :
    (∀ d d' : Definition, d.id = d'.id →
      (d.SameParts d' ↔ d.SlashedAlike d') ∧
      (slashes d.author = slashes d'.author → d.author = d'.author ∧ d.role = d'.role)) ∧
    ∀ (assertions : Bool) (r : Registry σ) (c : Registration σ),
      (∀ x ∈ r.entries, x ∉ (r.call assertions c).entries →
        ∃ e, c.entered? assertions = some e ∧ x.id = e.id ∧
        (x.definition.SlashedAlike e.definition → x.definition.SameParts e.definition)) ∧
      ((∀ e, c.entered? assertions = some e → ∀ x ∈ r.entries, x.id = e.id →
          slashes x.definition.author = slashes e.definition.author) →
        ∀ role, (∀ e, c.entered? assertions = some e → e.definition.role ≠ role) →
          (r.call assertions c).ofRole role = r.ofRole role) := by
  refine ⟨fun d d' same => ⟨Definition.sameParts_iff same, fun count => ?_⟩,
    fun assertions r c => ⟨?_, ?_⟩⟩
  · obtain ⟨hauthor, hrole, -⟩ := Definition.author_of_id same count
    exact ⟨hauthor, hrole⟩
  · intro x hx gone
    obtain ⟨e, hentry, hid⟩ := id_of_replaced hx gone
    exact ⟨e, hentry, hid, (Definition.sameParts_iff hid).2⟩
  · intro count role other
    exact ofRole_call other fun e hentry x hx hid =>
      (Definition.author_of_id hid (count e hentry x hx hid)).2.1

end Registry

end VulnScan.Plugin
