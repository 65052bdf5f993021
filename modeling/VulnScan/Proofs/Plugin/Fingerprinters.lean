import Mathlib.Data.List.Forall2
import Mathlib.Data.Option.Basic
import VulnScan.Plugin.Selection

/-! # Which plugin fingerprints a service

A plugin identifies a service if it is registered as a fingerprinter, works as one and is made for
services of that name (`Entry.Identifies`). The fingerprinter of a service is the first one
registered that identifies it.
-/

set_option autoImplicit false

namespace VulnScan.Plugin

open Execution (Activity)

variable {σ : Type}

/-- The plugin is made for the service: it wants services of this name, where a service without a
name counts as one of every name, or it wants web services and this is one. -/
inductive Definition.MadeFor (d : Definition) (s : Net.Service) : Prop
  | nameless {names : List String} (wanted : d.serviceNames = some names) (unnamed : s.name = "")
  | named {names : List String} {name : String} (wanted : d.serviceNames = some names)
      (listed : name ∈ names) (same : Text.sameName name s.name = true)
  | web (wanted : d.forWeb = true) (isWeb : s.isWeb = true)

theorem Definition.admitsName_iff {d : Definition} {s : Net.Service} :
    d.admitsName s = true ↔ d.MadeFor s := by
  constructor
  · intro h
    rw [admitsName, Bool.or_eq_true, Bool.and_eq_true] at h
    rcases h with h | ⟨hweb, hs⟩
    · cases hnames : d.serviceNames with
      | none => simp [hnames] at h
      | some names =>
          simp only [hnames, Bool.or_eq_true, decide_eq_true_eq, List.any_eq_true] at h
          rcases h with h | ⟨name, hlisted, hsame⟩
          · exact .nameless hnames h
          · exact .named hnames hlisted hsame
    · exact .web hweb hs
  · intro h
    rw [admitsName, Bool.or_eq_true, Bool.and_eq_true]
    cases h with
    | nameless wanted unnamed => exact .inl (by simp [wanted, unnamed])
    | named wanted listed same =>
        refine .inl ?_
        simp only [wanted, Bool.or_eq_true, List.any_eq_true]
        exact .inr ⟨_, listed, same⟩
    | web wanted isWeb => exact .inr ⟨wanted, isWeb⟩

/-- The registered plugin identifies the service, by what `identify` does. -/
structure Entry.Identifies (e : Entry σ) (s : Net.Service)
    (identify : Net.Host → Net.Service → Activity σ (List Net.Service)) : Prop where
  role : e.definition.role = .fingerprinter
  body : e.body = .fingerprinter identify
  madeFor : e.definition.MadeFor s

/-- What is found first in two lists is related if what their entries contribute is. -/
theorem rel_findSome {α₁ α₂ β₁ β₂ : Type} {R : α₁ → α₂ → Prop} {S : β₁ → β₂ → Prop}
    {f₁ : α₁ → Option β₁} {f₂ : α₂ → Option β₂} {l₁ : List α₁} {l₂ : List α₂}
    (h : List.Forall₂ R l₁ l₂) (hf : ∀ a₁ a₂, R a₁ a₂ → Option.Rel S (f₁ a₁) (f₂ a₂)) :
    Option.Rel S (l₁.findSome? f₁) (l₂.findSome? f₂) := by
  induction h with
  | nil => exact .none
  | @cons a₁ a₂ l₁ l₂ ha _ ih =>
      rw [List.findSome?_cons, List.findSome?_cons]
      have hfound := hf a₁ a₂ ha
      generalize f₁ a₁ = o₁ at hfound ⊢
      generalize f₂ a₂ = o₂ at hfound ⊢
      cases hfound with
      | some hb => exact .some hb
      | none => exact ih

namespace Registry

variable {r : Registry σ} {s : Net.Service}

/-- What a registered plugin contributes to the search for a fingerprinter. -/
def fingerprinterOf (s : Net.Service) (e : Entry σ) :
    Option (Chosen (Net.Host → Net.Service → Activity σ (List Net.Service))) :=
  if e.definition.role = .fingerprinter ∧ e.definition.admitsName s then
    match e.body with
    | .fingerprinter identify => some ⟨e.definition, identify, [s]⟩
    | _ => none
  else none

theorem fingerprinterFor_eq : r.fingerprinterFor s = r.entries.findSome? (fingerprinterOf s) := by
  rw [fingerprinterFor, ofRole]
  induction r.entries with
  | nil => rfl
  | cons e es ih =>
      rw [List.filter_cons, List.findSome?_cons, ← ih]
      obtain ⟨definition, body⟩ := e
      by_cases hrole : definition.role = .fingerprinter
      · by_cases hname : definition.admitsName s
        · cases body <;> simp [fingerprinterOf, hrole, hname]
        · simp [fingerprinterOf, hrole, hname]
      · simp [fingerprinterOf, hrole]

theorem fingerprinterOf_eq_some {e : Entry σ}
    {c : Chosen (Net.Host → Net.Service → Activity σ (List Net.Service))} :
    fingerprinterOf s e = some c ↔
      e.Identifies s c.body ∧ c.plugin = e.definition ∧ c.services = [s] := by
  unfold fingerprinterOf
  constructor
  · intro h
    split at h
    · next hcond =>
        split at h
        · next identify hbody =>
            cases h
            exact ⟨⟨hcond.1, hbody, Definition.admitsName_iff.1 hcond.2⟩, rfl, rfl⟩
        · cases h
    · cases h
  · rintro ⟨⟨hrole, hbody, hmade⟩, hplugin, hservices⟩
    rw [if_pos ⟨hrole, Definition.admitsName_iff.2 hmade⟩, hbody]
    cases c
    simp_all

theorem fingerprinterOf_eq_none {e : Entry σ} :
    fingerprinterOf s e = none ↔ ∀ identify, ¬ e.Identifies s identify := by
  rw [Option.eq_none_iff_forall_not_mem]
  constructor
  · intro h identify hid
    exact h ⟨e.definition, identify, [s]⟩ (fingerprinterOf_eq_some.2 ⟨hid, rfl, rfl⟩)
  · intro h c hc
    exact h c.body (fingerprinterOf_eq_some.1 hc).1

/-- A service has no fingerprinter if no registered plugin identifies it. -/
theorem fingerprinterFor_eq_none :
    r.fingerprinterFor s = none ↔ ∀ e ∈ r.entries, ∀ identify, ¬ e.Identifies s identify := by
  rw [fingerprinterFor_eq, List.findSome?_eq_none_iff]
  simp only [fingerprinterOf_eq_none]

/-- The fingerprinter of a service is the first registered plugin that identifies it. -/
theorem fingerprinterFor_eq_some
    {c : Chosen (Net.Host → Net.Service → Activity σ (List Net.Service))} :
    r.fingerprinterFor s = some c ↔
      ∃ before e after, r.entries = before ++ e :: after ∧
        (e.Identifies s c.body ∧ c.plugin = e.definition ∧ c.services = [s]) ∧
        ∀ e' ∈ before, ∀ identify, ¬ e'.Identifies s identify := by
  rw [fingerprinterFor_eq, List.findSome?_eq_some_iff]
  simp only [fingerprinterOf_eq_some, fingerprinterOf_eq_none]

end Registry

end VulnScan.Plugin
