import VulnScan.LanguageServer.Proxy

/-! # The registry of plugins

The registry knows all plugins in the order in which they were registered. It holds at most one
plugin per identifier: a plugin registered under a known identifier takes the place of the old
one.
-/

set_option autoImplicit false

namespace VulnScan.Plugin

open Execution (Activity)

/-- A plugin that looks for vulnerabilities, and the advisories it can report. -/
structure Detector (σ : Type) where
  detect : Net.Host → List Net.Service → Activity σ (List Finding.Report)
  advisories : List Finding.Vulnerability := []

/-- A plugin at work. -/
inductive Instance (σ : Type) where
  | portScanner (scan : Net.Endpoint → Activity σ Net.Survey)
  | fingerprinter (identify : Net.Host → Net.Service → Activity σ (List Net.Service))
  | detector (d : Detector σ)
  | host (p : LanguageServer.Proxy σ)

/-- The role in which a plugin works. -/
def Instance.role {σ : Type} : Instance σ → Role
  | .portScanner _ => .portScanner
  | .fingerprinter _ => .fingerprinter
  | .detector _ => .detector
  | .host _ => .host

/-- What a plugin at work is called. -/
def Role.kind : Role → String
  | .portScanner => "PortScanner"
  | .fingerprinter => "ServiceFingerprinter"
  | .detector => "VulnDetector"
  | .host => "RemoteVulnDetector"

/-- A registered plugin. -/
structure Entry (σ : Type) where
  definition : Definition
  body : Instance σ

/-- The identifier of a registered plugin. -/
def Entry.id {σ : Type} (e : Entry σ) : String := e.definition.id

/-- Replaces the entry with the identifier of `e`, or adds `e` at the end. -/
def upsert {σ : Type} (e : Entry σ) : List (Entry σ) → List (Entry σ)
  | [] => [e]
  | x :: xs => if x.id = e.id then e :: xs else x :: upsert e xs

theorem mem_ids_upsert {σ : Type} {e : Entry σ} {es : List (Entry σ)} {i : String}
    (h : i ∈ (upsert e es).map Entry.id) : i = e.id ∨ i ∈ es.map Entry.id := by
  induction es with
  | nil => simpa [upsert] using h
  | cons x xs ih =>
    simp only [upsert] at h
    split at h
    · next hx =>
      simp only [List.map_cons, List.mem_cons] at h ⊢
      rcases h with h | h
      · exact .inl h
      · exact .inr (.inr h)
    · simp only [List.map_cons, List.mem_cons] at h ⊢
      rcases h with h | h
      · exact .inr (.inl h)
      · rcases ih h with h | h
        · exact .inl h
        · exact .inr (.inr h)

/-- Identifiers stay distinct. -/
theorem nodup_upsert {σ : Type} {e : Entry σ} {es : List (Entry σ)}
    (h : (es.map Entry.id).Nodup) : ((upsert e es).map Entry.id).Nodup := by
  induction es with
  | nil => simp [upsert]
  | cons x xs ih =>
    simp only [List.map_cons, List.nodup_cons] at h
    simp only [upsert]
    split
    · next hx =>
      simp only [List.map_cons, List.nodup_cons]
      exact ⟨hx ▸ h.1, h.2⟩
    · next hx =>
      simp only [List.map_cons, List.nodup_cons]
      refine ⟨fun hm => ?_, ih h.2⟩
      rcases mem_ids_upsert hm with hm | hm
      · exact hx hm
      · exact h.1 hm

/-- The registered plugins, in order, with distinct identifiers. -/
structure Registry (σ : Type) where
  entries : List (Entry σ)
  nodup : (entries.map Entry.id).Nodup

namespace Registry

variable {σ : Type}

/-- The registry without plugins. -/
def empty : Registry σ := ⟨[], by simp⟩

instance : Inhabited (Registry σ) := ⟨empty⟩

/-- The registry with one more plugin, or with one replaced. -/
def register (r : Registry σ) (e : Entry σ) : Registry σ :=
  ⟨upsert e r.entries, nodup_upsert r.nodup⟩

/-- The registry with one more plugin, by the helper for the role in which the plugin works. The
helper asserts that the definition has this role. A build with debug assertions checks that and
refuses the plugin otherwise; any other build registers it all the same. -/
def registerTyped (assertions : Bool) (r : Registry σ) (e : Entry σ) : Option (Registry σ) :=
  if assertions = true ∧ e.definition.role ≠ e.body.role then none else some (r.register e)

/-- The registered plugins of a role. -/
def ofRole (r : Registry σ) (role : Role) : List (Entry σ) :=
  r.entries.filter fun e => e.definition.role = role

/-- The number of registered plugins. -/
def size (r : Registry σ) : Nat := r.entries.length

end Registry

end VulnScan.Plugin
