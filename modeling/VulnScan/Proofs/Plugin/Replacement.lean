import Mathlib.Data.List.Perm.Subperm
import VulnScan.Plugin.Registry
import VulnScan.Proofs.LanguageServer.Queue

/-! # Plugins registered one after the other

A plugin registered under a known identifier replaces the old one at its place. So of plugins that
are registered one after the other, the identifiers are kept in the order of first registration
(`Registry.ids_foldl_register`), and for each identifier the plugin that came last
(`Registry.mem_foldl_register`). Nothing is lost exactly if no identifier comes twice.
-/

set_option autoImplicit false

namespace VulnScan.Plugin

variable {σ : Type}

/-! ## One registration -/

/-- A known identifier stays where it is, a new one comes at the end. -/
theorem map_id_upsert (e : Entry σ) (es : List (Entry σ)) :
    (upsert e es).map Entry.id
      = if e.id ∈ es.map Entry.id then es.map Entry.id else es.map Entry.id ++ [e.id] := by
  induction es with
  | nil => simp [upsert]
  | cons x xs ih =>
      by_cases hx : x.id = e.id
      · simp [upsert, hx]
      · have hne : ¬ e.id = x.id := fun h => hx h.symm
        simp only [upsert, if_neg hx, List.map_cons, ih, List.mem_cons, hne, false_or]
        split <;> simp

/-- A plugin with a new identifier comes at the end, and all others stay. -/
theorem upsert_of_notMem {e : Entry σ} {es : List (Entry σ)} (new : e.id ∉ es.map Entry.id) :
    upsert e es = es ++ [e] := by
  induction es with
  | nil => rfl
  | cons x xs ih =>
      simp only [List.map_cons, List.mem_cons, not_or] at new
      have hx : ¬ x.id = e.id := fun h => new.1 h.symm
      rw [upsert, if_neg hx, ih new.2, List.cons_append]

/-- After a registration there is the new plugin, and of the others all with other identifiers. -/
theorem mem_upsert {e x : Entry σ} {es : List (Entry σ)} (distinct : (es.map Entry.id).Nodup) :
    x ∈ upsert e es ↔ x = e ∨ (x ∈ es ∧ x.id ≠ e.id) := by
  induction es with
  | nil => simp [upsert]
  | cons y ys ih =>
      obtain ⟨hy, hys⟩ := List.nodup_cons.1 distinct
      by_cases h : y.id = e.id
      · -- `y` gives way, and no other plugin has its identifier
        have hkept : x ∈ ys → x.id ≠ e.id := fun hx hid =>
          hy (List.mem_map.2 ⟨x, hx, hid.trans h.symm⟩)
        simp only [upsert, if_pos h, List.mem_cons]
        constructor
        · rintro (rfl | hx)
          · exact .inl rfl
          · exact .inr ⟨.inr hx, hkept hx⟩
        · rintro (rfl | ⟨rfl | hx, hne⟩)
          · exact .inl rfl
          · exact absurd h hne
          · exact .inr hx
      · simp only [upsert, if_neg h, List.mem_cons, ih hys]
        constructor
        · rintro (rfl | rfl | ⟨hx, hne⟩)
          · exact .inr ⟨.inl rfl, h⟩
          · exact .inl rfl
          · exact .inr ⟨.inr hx, hne⟩
        · rintro (rfl | ⟨rfl | hx, hne⟩)
          · exact .inr (.inl rfl)
          · exact .inl rfl
          · exact .inr (.inr ⟨hx, hne⟩)

/-! ## Many registrations -/

/-- `e` is the last of `es` with its identifier. -/
def IsLast (es : List (Entry σ)) (e : Entry σ) : Prop :=
  ∃ before after, es = before ++ e :: after ∧ e.id ∉ after.map Entry.id

theorem isLast_concat {es : List (Entry σ)} {e x : Entry σ} :
    IsLast (es ++ [e]) x ↔ x = e ∨ (IsLast es x ∧ x.id ≠ e.id) := by
  constructor
  · rintro ⟨before, after, h, hx⟩
    induction after using List.reverseRecOn with
    | nil =>
        obtain ⟨-, h⟩ := List.append_inj' h rfl
        exact .inl (List.cons.inj h).1.symm
    | append_singleton after y _ =>
        rw [← List.cons_append, ← List.append_assoc] at h
        obtain ⟨hes, hy⟩ := List.append_inj' h rfl
        obtain rfl : e = y := (List.cons.inj hy).1
        simp only [List.map_append, List.map_cons, List.map_nil, List.mem_append,
          List.mem_singleton, not_or] at hx
        exact .inr ⟨⟨before, after, hes, hx.1⟩, hx.2⟩
  · rintro (rfl | ⟨⟨before, after, rfl, hx⟩, hne⟩)
    · exact ⟨es, [], rfl, by simp⟩
    · refine ⟨before, after ++ [e], by simp, ?_⟩
      simp only [List.map_append, List.map_cons, List.map_nil, List.mem_append,
        List.mem_singleton, not_or]
      exact ⟨hx, hne⟩

namespace Registry

/-- The identifiers are those that were registered, in the order in which they first were. -/
theorem ids_foldl_register (es : List (Entry σ)) :
    (es.foldl register empty).entries.map Entry.id = (es.map Entry.id).eraseDups := by
  induction es using List.reverseRecOn with
  | nil => rfl
  | append_singleton es e ih =>
      have hids : ((es ++ [e]).foldl register empty).entries.map Entry.id
          = (upsert e (es.foldl register empty).entries).map Entry.id := by
        rw [List.foldl_append]
        rfl
      rw [hids, map_id_upsert, ih, List.map_append, List.map_singleton,
        LanguageServer.eraseDups_concat]
      simp only [List.mem_eraseDups]

/-- The registered plugins are those that came last with their identifiers. -/
theorem mem_foldl_register (es : List (Entry σ)) (x : Entry σ) :
    x ∈ (es.foldl register empty).entries ↔ IsLast es x := by
  induction es using List.reverseRecOn with
  | nil => simp [empty, IsLast]
  | append_singleton es e ih =>
      rw [List.foldl_append, isLast_concat, ← ih]
      exact mem_upsert (es.foldl register empty).nodup

/-- What is registered after some plugins was registered before or is one of them. -/
theorem mem_of_mem_foldl_register {es : List (Entry σ)} {r : Registry σ} {x : Entry σ}
    (h : x ∈ (es.foldl register r).entries) : x ∈ r.entries ∨ x ∈ es := by
  induction es generalizing r with
  | nil => exact .inl h
  | cons e es ih =>
      rcases ih h with hr | hes
      · rcases (mem_upsert r.nodup).1 hr with rfl | ⟨hr, -⟩
        · exact .inr List.mem_cons_self
        · exact .inl hr
      · exact .inr (List.mem_cons_of_mem _ hes)

/-- Plugins with distinct identifiers are all kept, in their order. -/
theorem entries_foldl_register {es : List (Entry σ)} (distinct : (es.map Entry.id).Nodup) :
    (es.foldl register empty).entries = es := by
  induction es using List.reverseRecOn with
  | nil => rfl
  | append_singleton es e ih =>
      rw [List.map_append, List.map_singleton, List.nodup_append] at distinct
      obtain ⟨hes, -, hne⟩ := distinct
      have hnew : e.id ∉ es.map Entry.id := fun h => hne _ h _ (List.mem_singleton.2 rfl) rfl
      rw [List.foldl_append]
      show upsert e (es.foldl register empty).entries = es ++ [e]
      rw [ih hes, upsert_of_notMem hnew]

/-- As many plugins are kept as were registered only if their identifiers are distinct. -/
theorem size_foldl_register_eq {es : List (Entry σ)} :
    (es.foldl register empty).size = es.length ↔ (es.map Entry.id).Nodup := by
  constructor
  · intro h
    have hids : ((es.foldl register empty).entries.map Entry.id).Nodup := Registry.nodup _
    have hsub : (es.foldl register empty).entries.map Entry.id ⊆ es.map Entry.id := by
      rw [ids_foldl_register]
      exact fun i hi => List.mem_eraseDups.1 hi
    -- distinct identifiers, none of them new and as many: the same up to the order
    have hperm := (List.subperm_of_subset hids hsub).perm_of_length_le (by
      rw [List.length_map, List.length_map]
      exact Nat.le_of_eq h.symm)
    exact hperm.nodup_iff.1 hids
  · intro h
    rw [size, entries_foldl_register h]

end Registry

end VulnScan.Plugin
