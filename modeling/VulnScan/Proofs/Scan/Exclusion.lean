import VulnScan.Proofs.Plugin.DetectorRule
import VulnScan.Proofs.Scan.AtOnce
import VulnScan.Proofs.Scan.Requests

/-! # How far exclusion reaches

Plugins are excluded by name, or because they need a callback server and there is none. This
decides about the plugins that are registered: no other detector is ever selected, and a server
whose proxy is excluded is asked for nothing. It does not decide about the plugins that a server
offers: they are run whatever their names and needs are (`Workflow.run_permitted`,
`catalogueWorkflow_runs_forbidden`).
-/

set_option autoImplicit false

namespace VulnScan.Scan

open Execution (Activity Moment Signals)
open LanguageServer (Answers Calls Proxy Request runsOf)
open Plugin (Chosen Detector Entry matchedIn)

variable {σ : Type} {log : σ → List Request}

theorem mem_plugins_matchedIn {survey : Net.Survey} {ds : List Plugin.Definition}
    {d : Plugin.Definition} :
    d ∈ (matchedIn survey ds).map Plugin.Matched.plugin ↔ d ∈ ds := by
  rw [matchedIn, List.mem_map]
  constructor
  · rintro ⟨matched, hmatched, rfl⟩
    obtain ⟨d, hd, rfl⟩ := List.mem_map.1 (List.mem_eraseDups.1 hmatched)
    exact hd
  · intro hd
    exact ⟨_, List.mem_eraseDups.2 (List.mem_map_of_mem hd), rfl⟩

namespace Workflow

variable {w : Workflow σ} {e : Entry σ} {p : Proxy σ} {answers : Answers}

theorem permits_of_mem_candidates {e : Entry σ} (h : e ∈ w.registry.candidates w.selection) :
    w.selection.Permits e.definition := by
  have hadmits := (List.mem_filter.1 h).2
  rw [Bool.and_eq_true] at hadmits
  exact Plugin.Selection.admits_iff.1 hadmits.2

/-- **How far exclusion reaches.** The detectors of a scan are permitted, and a server whose proxy
is not permitted is asked for nothing. But of a server whose proxy is, everything is run that it
offers: a request for a run names the offered plugins and no others, permitted or not. -/
theorem run_permitted (h : w.ServedBy e p log answers) (target : Net.Endpoint) (signals : Signals)
    (m : Moment σ) :
    (∀ survey chosen, (w.registry.detectorsFor w.selection survey).MayEnd (.value chosen) →
      ∀ c ∈ chosen, w.selection.Permits c.plugin) ∧
    (¬ w.selection.Permits e.definition →
      log (w.run target signals m).final.world = log m.world) ∧
    ∃ requests, runsOf (log (w.run target signals m).final.world) =
        runsOf (log m.world) ++ requests ∧
      ∀ r ∈ requests, ∀ d, d ∈ r.plugins.map Plugin.Matched.plugin ↔
        d ∈ p.offered answers (Calls.of (log m.world)) := by
  refine ⟨fun survey chosen hchosen c hc => ?_, fun forbidden => ?_, ?_⟩
  · -- every detector is what a candidate contributes
    obtain ⟨e', he', hcontributes⟩ := Plugin.Registry.exists_contributes hchosen hc
    rw [hcontributes.plugin_eq]
    exact permits_of_mem_candidates he'
  · exact h.run_silent fun candidate => forbidden (permits_of_mem_candidates candidate)
  · rcases h.run_asks with hruns | ⟨survey, m₂, -, hruns | hruns⟩
    · exact ⟨[], by rw [hruns, List.append_nil], by simp⟩
    · exact ⟨[], by rw [hruns, List.append_nil], by simp⟩
    · refine ⟨_, hruns, fun r hr d => ?_⟩
      rw [List.mem_singleton.1 hr]
      exact mem_plugins_matchedIn

end Workflow

/-- The server offers a plugin that is excluded, and another that is not; both are in whatever
run it is asked for. -/
theorem catalogueWorkflow_permitted :
    catalogueWorkflow.ServedBy catalogueDetector catalogueProxy id catalogue ∧
      ¬ catalogueWorkflow.selection.Permits callbackProbe ∧
      ∃ requests, runsOf (catalogueWorkflow.run (.ofHostname "localhost") {}
          ⟨0, [], false⟩).final.world = requests ∧
        ∀ r ∈ requests, ∀ d, d ∈ r.plugins.map Plugin.Matched.plugin ↔
          d ∈ [probe, callbackProbe, probe] := by
  refine ⟨catalogueWorkflow_servedBy, fun h => ?_, ?_⟩
  · exact h.excluded (by decide)
  · exact (Workflow.run_permitted catalogueWorkflow_servedBy (.ofHostname "localhost") {}
      ⟨0, [], false⟩).2.2

/-- **Excluded plugins are run.** One of the plugins on offer is excluded by name and needs a
callback server, which there is not, and the scan has it run all the same. -/
theorem catalogueWorkflow_runs_forbidden :
    callbackProbe.name ∈ catalogueWorkflow.selection.excluded ∧
      callbackProbe.needsCallback = true ∧ catalogueWorkflow.selection.hasCallback = false ∧
      ∃ out m', catalogueWorkflow.run (.ofHostname "localhost") {} ⟨0, [], false⟩ =
          .reached out m' ∧
        ∃ r ∈ runsOf m'.world, callbackProbe ∈ r.plugins.map Plugin.Matched.plugin := by
  refine ⟨by decide, rfl, rfl, ?_⟩
  have hrun : ∃ out, catalogueWorkflow.run (.ofHostname "localhost") {} ⟨0, [], false⟩ =
      .reached out ⟨0, [.health, .list, .health,
        .run (Workflow.requestFor catalogueProxy catalogue []
          ⟨{}, [{ endpoint := {}, name := "ssh" }]⟩)], false⟩ ∧ _ :=
    Workflow.run_at_once rfl rfl (by decide) rfl rfl
  obtain ⟨out, hrun, -⟩ := hrun
  exact ⟨out, _, hrun, _, List.mem_singleton_self _, mem_plugins_matchedIn.2 (by decide)⟩

end VulnScan.Scan
