import VulnScan.Proofs.Scan.Conclusion
import VulnScan.Proofs.Scan.Hosting

/-! # What becomes of a failed listing

When a language server does not tell its plugins, its proxy is selected with an empty queue and the
error is dropped. Whether the scan notices depends on what the server answers afterwards, when the
proxy is run: `Workflow.run_unlisted`. A server that has recovered by then, or that merely refuses
to list, makes the run succeed although none of its plugins was asked for
(`refusedWorkflow_succeeds`).
-/

set_option autoImplicit false

namespace VulnScan.Scan

open Execution (Activity Course Outcome Record Recorded Session Signals Moment Task)
open LanguageServer (Answers Calls Proxy)
open Plugin (Chosen Detector Entry)

variable {σ γ : Type} {view : σ → γ}

namespace Workflow

variable {w : Workflow σ} {target : Net.Endpoint} {signals : Signals} {m m' : Moment σ}

/-- In a scan that completes, the record of the detector is what the answers of its server after
the failed listing make of it. -/
theorem Completes.unlisted {view : σ → Calls} {answers : Answers} {e : Entry σ} {p : Proxy σ}
    {error : Error} {ports survey : Net.Survey} {records : List (Record (List Finding.Report))}
    (completes : w.Completes signals ports m survey records m')
    (candidate : e ∈ w.registry.candidates w.selection) (body : e.body = .host p)
    (gives : p.server.Gives view answers)
    (others : ∀ e' ∈ w.registry.entries, e' ≠ e → e'.body.Keeps view)
    (unlisted : (p.listed answers (view m.world)).1 = .fault error) :
    ∃ record ∈ records, Recorded w.pool.deadline m'.cancelled
      (fun o => o = (p.ran answers survey.host (p.listed answers (view m.world)).2).1)
      (w.hostedTask e p survey) record := by
  -- a failed listing offers nothing, so nothing is queued
  have hqueued : p = Plugin.Registry.queueAll p survey (p.offered answers (view m.world)) := by
    rw [Proxy.offered, unlisted]
    rfl
  have hgives : p.server.Gives (fun w => id (view w)) answers := gives
  exact completes.hosted candidate body hgives others hqueued

/-- **What becomes of a failed listing.** The listing of the plugins of a language server fails.
Then in every scan that completes, the execution of its detector succeeds if the server serves
again by then, or says that it does not serve, and it is not late; only otherwise does the scan
report a failure. -/
theorem run_unlisted {view : σ → Calls} {answers : Answers} {e : Entry σ} {p : Proxy σ}
    {error : Error} (candidate : e ∈ w.registry.candidates w.selection) (body : e.body = .host p)
    (gives : p.server.Gives view answers)
    (others : ∀ e' ∈ w.registry.entries, e' ≠ e → e'.body.Keeps view)
    (unlisted : (p.listed answers (view m.world)).1 = .fault error) :
    (w.run target signals m).Meets
      (fun out _ => ∀ survey, out.2.survey = some survey →
        ∃ records start duration, out.2 = conclude survey records start duration ∧
          ∃ record ∈ records, record.plugin = e.definition ∧ record.services = survey.services ∧
            (record.status = .timedOut → w.pool.deadline.isSome) ∧
            (record.isSucceeded = true ↔ record.status ≠ .timedOut ∧ ∃ reports,
              (p.ran answers survey.host (p.listed answers (view m.world)).2).1 = .value reports) ∧
            (record.isSucceeded = false → ReportsFailure e.id out.2))
      (w.Excused target signals) := by
  refine (w.run_meets target signals m).imp ?_ fun _ => id
  rintro ⟨t', r⟩ m' - ⟨-, hcomes⟩ survey hsurvey
  have hr : w.ComesTo target signals m m' r := hcomes
  cases hr with
  | cancelled called => cases hsurvey
  | failed _ scans => cases hsurvey
  | @completed t ports survey' m₁ records scans completes =>
      obtain rfl : survey' = survey := by simpa [conclude_eq] using hsurvey
      have hscanners : ∀ e' ∈ w.registry.entries, ∀ scan, e'.body = .portScanner scan →
          e'.body.Keeps view := by
        intro e' he' scan hscan
        refine others e' he' ?_
        rintro rfl
        rw [body] at hscan
        cases hscan
      have hview₁ : view m₁.world = view m.world := by
        have hkeeps : view (w.scanPorts target signals m).final.world = view m.world :=
          scanPorts_keeps hscanners
        rw [scans] at hkeeps
        exact hkeeps
      rw [← hview₁] at unlisted ⊢
      obtain ⟨record, hrecord, hrecorded⟩ :=
        completes.unlisted candidate body gives others unlisted
      refine ⟨records, _, _, rfl, record, hrecord, hrecorded.plugin_eq, hrecorded.services_eq,
        ?_, ?_, ?_⟩
      · exact hrecorded.deadline_isSome
      · exact hrecorded.isSucceeded_iff fun hm' => completes.isSucceeded hm' record hrecord
      · intro hfailed
        have hid : e.id = record.plugin.id := by
          rw [hrecorded.plugin_eq]
          rfl
        rw [hid]
        exact conclude_of_failed hrecord hfailed

end Workflow

/-! ## A server that refuses to list its plugins -/

/-- The answers of a server that is well and runs what it is asked to run, but lists no plugins. -/
def refusal : Answers where
  health _ := .ok .serving
  list _ := .error (.api 503 "unavailable")
  run _ _ := .ok []

/-- A single service, on a host that is otherwise unknown. -/
def sshSurvey : Net.Survey :=
  ⟨{}, [{ endpoint := (Net.Endpoint.ofHostname "localhost").withPort 22, name := "ssh" }]⟩

/-- A port scanner that always finds this service. -/
def sshScanner : Entry Calls where
  definition := { role := .portScanner, name := "Ports", author := "t", version := "1.0" }
  body := .portScanner fun _ => .value sshSurvey

/-- The proxy of the server that refuses. -/
def refusedProxy : Proxy Calls := { server := refusal.server }

/-- The detectors of the server that refuses. -/
def refusedDetector : Entry Calls where
  definition := { role := .host, name := "Remote", author := "t", version := "1.0" }
  body := .host refusedProxy

/-- A workflow that has no detectors but those of the server that refuses. -/
def refusedWorkflow : Workflow Calls where
  registry := ⟨[sshScanner, refusedDetector], by decide⟩
  selection := {}
  pool := .ofSlots 1
  clock _ := .epoch
  crash _ message := message

/-- The listing fails, and yet the execution of the detector succeeds in every scan that completes,
because the server answers the run. -/
theorem refusedWorkflow_holds_succeeded :
    refusedDetector ∈ refusedWorkflow.registry.candidates refusedWorkflow.selection ∧
      refusedProxy.server.Gives id refusal ∧
      (∀ e ∈ refusedWorkflow.registry.entries, e ≠ refusedDetector →
        e.body.Keeps (id : Calls → Calls)) ∧
      (refusedProxy.listed refusal {}).1 =
        .fault (LanguageServer.Proxy.unanswered (.api 503 "unavailable")) ∧
      (refusedWorkflow.run (.ofHostname "localhost") {} ⟨0, {}, false⟩).Meets
        (fun out _ => ∀ survey, out.2.survey = some survey →
          ∃ records start duration, out.2 = conclude survey records start duration ∧
            ∃ record ∈ records, record.plugin = refusedDetector.definition ∧
              record.isSucceeded = true)
        (refusedWorkflow.Excused (.ofHostname "localhost") {}) := by
  have candidate : refusedDetector ∈
      refusedWorkflow.registry.candidates refusedWorkflow.selection :=
    List.mem_filter.2 ⟨by simp [refusedWorkflow], by decide⟩
  have others : ∀ e ∈ refusedWorkflow.registry.entries, e ≠ refusedDetector →
      e.body.Keeps (id : Calls → Calls) := by
    intro e he hne
    simp only [refusedWorkflow, List.mem_cons, List.not_mem_nil, or_false] at he
    rcases he with rfl | rfl
    · exact fun target => trivial
    · exact absurd rfl hne
  refine ⟨candidate, refusal.server_gives, others, rfl, ?_⟩
  refine (Workflow.run_unlisted candidate rfl refusal.server_gives others rfl).imp ?_ fun _ => id
  rintro ⟨t, r⟩ m' - h survey hsurvey
  obtain ⟨records, start, duration, hr, record, hrecord, hplugin, -, hlate, hsucceeded, -⟩ :=
    h survey hsurvey
  refine ⟨records, start, duration, hr, record, hrecord, hplugin, hsucceeded.2 ⟨?_, [], rfl⟩⟩
  -- there is no deadline, so it is not late
  intro hstatus
  exact absurd (hlate hstatus) (by decide)

/-! Step by step, a scan with this workflow runs as follows. -/

theorem refusedWorkflow_scanPorts (target : Net.Endpoint) :
    (refusedWorkflow.scanPorts target {} ⟨0, {}, false⟩).Meets
      (fun out m => out.1.stage = .portScanning ∧ out.2 = .ok sshSurvey ∧ m = ⟨0, {}, false⟩)
      fun _ => False := by
  refine Session.meets_bind ?_
  rw [Workflow.traced_eq rfl, Course.meets_reached]
  refine Session.meets_bind ?_
  rw [Execution.Pool.execute_ended rfl rfl]
  exact ⟨rfl, rfl, rfl⟩

theorem refusedWorkflow_fingerprint {t : Tracer} (ht : t.stage = .portScanning) :
    (refusedWorkflow.fingerprint t sshSurvey {} ⟨0, {}, false⟩).Meets
      (fun out m => out.1.stage = .fingerprinting ∧ out.2 = sshSurvey ∧ m = ⟨0, {}, false⟩)
      fun _ => False := by
  refine Session.meets_bind ?_
  rw [Workflow.traced_eq (if_pos ht), Course.meets_reached]
  refine Session.meets_bind ?_
  show Course.Meets _ _ (refusedWorkflow.pool.execute [] {} _)
  rw [Execution.Pool.execute_nil]
  exact ⟨rfl, rfl, rfl⟩

theorem refusedWorkflow_detect {t : Tracer} (ht : t.stage = .fingerprinting) :
    (refusedWorkflow.detect t sshSurvey {} ⟨0, {}, false⟩).Meets
      (fun out _ => out.1.stage = .detecting ∧ ∃ record : Record (List Finding.Report),
        out.2 = .ok [record] ∧ record.isSucceeded = true)
      fun _ => False := by
  -- the server is asked for its health and for its plugins, and the proxy is taken as it is
  have hselected : (refusedWorkflow.registry.detectorsFor refusedWorkflow.selection
      sshSurvey).alone {} ⟨0, {}, false⟩ =
        .reached (some (.value [⟨refusedDetector.definition,
          ⟨fun host _ => refusedProxy.detect host, []⟩, sshSurvey.services⟩]))
          ⟨0, ⟨1, 1, 0⟩, false⟩ := rfl
  refine Session.meets_bind ?_
  rw [Workflow.isCancelled_apply, Course.meets_reached]
  refine Session.meets_bind ?_
  rw [hselected, Course.meets_reached]
  refine Session.meets_bind ?_
  rw [Workflow.traced_eq (if_pos ht), Course.meets_reached]
  refine Session.meets_bind ?_
  show Course.Meets _ _ (refusedWorkflow.pool.execute [_] {} _)
  rw [Execution.Pool.execute_ended rfl rfl]
  exact ⟨rfl, _, rfl, rfl⟩

/-- **A failed listing can go unnoticed.** The server refuses to list its plugins, the error is
dropped, and the scan completes and succeeds. -/
theorem refusedWorkflow_succeeds :
    (refusedProxy.listed refusal {}).1 =
        .fault (LanguageServer.Proxy.unanswered (.api 503 "unavailable")) ∧
      ∃ out m', refusedWorkflow.run (.ofHostname "localhost") {} ⟨0, {}, false⟩ =
          .reached out m' ∧
        out.2.survey = some sshSurvey ∧ out.2.status = .succeeded := by
  refine ⟨rfl, Course.Meets.exists_reached ?_ fun _ => id⟩
  unfold Workflow.run Workflow.phases
  refine Session.meets_bind ?_
  refine Session.meets_bind (Session.meets_bind ((refusedWorkflow_scanPorts _).imp ?_ fun _ => id))
  rintro ⟨t₁, out⟩ m - ⟨ht₁, hout, rfl⟩
  obtain rfl : out = .ok sshSurvey := hout
  unfold Workflow.afterPorts
  refine Session.meets_bind ?_
  rw [Workflow.isCancelled_apply, Course.meets_reached]
  refine Session.meets_bind ((refusedWorkflow_fingerprint ht₁).imp ?_ fun _ => id)
  rintro ⟨t₂, survey⟩ m - ⟨ht₂, hout, rfl⟩
  obtain rfl : survey = sshSurvey := hout
  refine Session.meets_bind ?_
  rw [Workflow.isCancelled_apply, Course.meets_reached]
  refine Session.meets_bind ((refusedWorkflow_detect ht₂).imp ?_ fun _ => id)
  rintro ⟨t₃, out⟩ m - ⟨ht₃, record, hout, hsucceeded⟩
  obtain rfl : out = .ok [record] := hout
  refine Session.meets_bind ?_
  rw [Workflow.isCancelled_apply, Course.meets_reached]
  have hall : (!([record] : List _).all Record.isSucceeded && m.cancelled) = false := by
    simp [hsucceeded]
  rw [hall]
  refine Session.meets_bind ?_
  rw [Workflow.traced_eq (if_pos ht₃), Course.meets_reached]
  refine ⟨rfl, ?_⟩
  show (conclude _ [record] _ _).status = _
  rw [conclude_eq, verdict_of_all_succeeded (by simpa using hsucceeded)]

end VulnScan.Scan
