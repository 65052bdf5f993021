import VulnScan.Proofs.Plugin.Selection

/-! # Which detectors are selected

Detectors are selected one candidate after the other, and every candidate contributes at most one
detector, under its own definition. So the detectors for a survey stand in the order in which they
were registered, each at most once (`detectorsFor_sublist`).
-/

set_option autoImplicit false

namespace VulnScan.Plugin.Registry

open Execution (Activity Outcome)
open Execution.Activity

variable {σ α β : Type}

/-- A composition that ends in a value has come through a value of its first part. -/
theorem mayEnd_andThen_value {a : Activity σ α} {f : α → Activity σ β} {v : β}
    (h : (a.andThen f).MayEnd (.value v)) : ∃ u, a.MayEnd (.value u) ∧ (f u).MayEnd (.value v) := by
  obtain ⟨o, ho, hrest⟩ := mayEnd_andThen h
  cases o with
  | value u => exact ⟨u, ho, hrest⟩
  | fault e => simp [Activity.andThen, MayEnd] at hrest
  | collapse message => simp [Activity.andThen, MayEnd] at hrest

theorem eq_of_mayEnd_value {u v : α} (h : (Activity.value u : Activity σ α).MayEnd (.value v)) :
    v = u := by
  simpa [Activity.value, MayEnd] using h

/-- A candidate contributes nothing, or a detector under its own definition. -/
theorem plugin_of_mayEnd_chooseDetector {survey : Net.Survey} {e : Entry σ}
    {c : Option (Chosen (Detector σ))} (h : (chooseDetector survey e).MayEnd (.value c)) :
    c = none ∨ ∃ d, c = some d ∧ d.plugin = e.definition := by
  unfold chooseDetector at h
  split at h
  · next d _ =>
      obtain rfl := eq_of_mayEnd_value h
      by_cases hempty : (e.definition.servicesIn survey).isEmpty
      · exact .inl (if_pos hempty)
      · exact .inr ⟨_, if_neg hempty, rfl⟩
  · next p _ =>
      obtain ⟨q, -, hq⟩ := mayEnd_andThen_value h
      obtain rfl := eq_of_mayEnd_value hq
      exact .inr ⟨_, rfl, rfl⟩
  · exact .inl (eq_of_mayEnd_value h)

theorem chooseDetectors_sublist {survey : Net.Survey} {es : List (Entry σ)}
    {cs : List (Chosen (Detector σ))} (h : (chooseDetectors survey es).MayEnd (.value cs)) :
    (cs.map Chosen.plugin).Sublist (es.map Entry.definition) := by
  induction es generalizing cs with
  | nil =>
      obtain rfl := eq_of_mayEnd_value h
      exact .slnil
  | cons e es ih =>
      obtain ⟨c, hc, hrest⟩ := mayEnd_andThen_value h
      obtain ⟨rest, htail, hcs⟩ := mayEnd_andThen_value hrest
      obtain rfl := eq_of_mayEnd_value hcs
      have hsublist : (rest.map Chosen.plugin).Sublist (es.map Entry.definition) := ih htail
      rw [List.map_append, List.map_cons]
      rcases plugin_of_mayEnd_chooseDetector hc with rfl | ⟨d, rfl, hd⟩
      · exact hsublist.cons _
      · rw [← hd]
        exact hsublist.cons_cons _

/-- The detectors for a survey stand in the order of registration, each at most once. -/
theorem detectorsFor_sublist {r : Registry σ} {s : Selection} {survey : Net.Survey}
    {cs : List (Chosen (Detector σ))} (h : (r.detectorsFor s survey).MayEnd (.value cs)) :
    (cs.map Chosen.plugin).Sublist (r.entries.map Entry.definition) := by
  have hcandidates : (cs.map Chosen.plugin).Sublist ((r.candidates s).map Entry.definition) :=
    chooseDetectors_sublist h
  exact hcandidates.trans (List.filter_sublist.map Entry.definition)

end VulnScan.Plugin.Registry
