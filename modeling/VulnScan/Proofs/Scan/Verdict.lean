import VulnScan.Proofs.Plugin.Detectors
import VulnScan.Proofs.Scan.Conclusion
import VulnScan.Proofs.Scan.Phases

/-! # The verdict of a scan

A scan is aborted with an error, or its detectors are all decided and their records make up the
results. `Workflow.run_verdict` says what the results are in both cases: which reports and findings
they hold and in which order, what the status is, and which plugins the message names.
-/

set_option autoImplicit false

namespace VulnScan.Scan

open Execution (Record Recorded Signals Moment Task)
open Plugin (Chosen Detector)

variable {σ : Type}

/-- The reports of the detectors that succeeded, in the order of the records. -/
def successes (records : List (Record (List Finding.Report))) : List (List Finding.Report) :=
  records.filterMap fun r =>
    match r.ending with
    | .succeeded reports => some reports
    | .failed _ | .timedOut _ => none

/-- The identifiers of the detectors that did not succeed, in the order of the records. -/
def failures (records : List (Record (List Finding.Report))) : List String :=
  (records.filter fun r => r.status ≠ .succeeded).map fun r => r.plugin.id

/-- The results are drawn from the records of detectors that ran against a survey. -/
structure DrawnFrom (survey : Net.Survey) (records : List (Record (List Finding.Report)))
    (r : Finding.Results) : Prop where
  survey : r.survey = some survey
  reports : r.reports = (successes records).flatten
  findings : r.findings =
    (r.reports.filter fun report => report.verdict = .present ∨ report.verdict = .verified).map
      Finding.Report.exposure
  succeeded : (r.status = .succeeded ∧ r.message = "") ↔
    ∀ record ∈ records, record.status = .succeeded
  failed : (r.status = .failed ∧ r.message = "All VulnDetectors failed.") ↔
    records ≠ [] ∧ ∀ record ∈ records, record.status ≠ .succeeded
  partly : (r.status = .partly ∧
      r.message = "Failed plugins:\n" ++ Text.joinTexts "\n" (failures records)) ↔
    (∃ record ∈ records, record.status = .succeeded) ∧
      ∃ record ∈ records, record.status ≠ .succeeded

/-- The results of a scan that was aborted with an error: they hold nothing but its text. -/
structure AbortedWith (e : Error) (r : Finding.Results) : Prop where
  status : r.status = .failed
  message : r.message = e.message
  findings : r.findings = []
  reports : r.reports = []
  survey : r.survey = none

/-! ## Records and what is drawn from them -/

section

variable {survey : Net.Survey} {records : List (Record (List Finding.Report))}
  {start : Time.Timestamp} {duration : Time.Span}

theorem isSucceeded_iff_status {α : Type} {r : Record α} :
    r.isSucceeded = true ↔ r.status = .succeeded := by
  obtain ⟨plugin, services, ending, elapsed⟩ := r
  cases ending <;> simp [Record.isSucceeded, Record.status]

theorem failedPlugins_eq_failures : failedPlugins records = failures records := by
  unfold failedPlugins failures
  congr 1
  refine List.filter_congr fun r _ => ?_
  have hsucceeded : r.isSucceeded = decide (r.status = .succeeded) := by
    rw [Bool.eq_iff_iff, isSucceeded_iff_status, decide_eq_true_iff]
  rw [hsucceeded, ← decide_not]

theorem failures_eq_nil :
    failures records = [] ↔ ∀ record ∈ records, record.status = .succeeded := by
  simp [failures]

theorem failures_length_eq :
    (failures records).length = records.length ↔
      ∀ record ∈ records, record.status ≠ .succeeded := by
  unfold failures
  rw [List.length_map, List.length_filter_eq_length_iff]
  simp

theorem reported_eq_flatten : reported records = (successes records).flatten := by
  unfold reported successes
  induction records with
  | nil => rfl
  | cons r records ih =>
      obtain ⟨plugin, services, ending, elapsed⟩ := r
      rw [List.flatMap_cons, List.filterMap_cons, ih]
      cases ending with
      | succeeded reports => rfl
      | failed e => rfl
      | timedOut e => rfl

theorem isFinding_iff {v : Finding.Verdict} :
    v.isFinding = true ↔ v = .present ∨ v = .verified := by
  cases v <;> simp [Finding.Verdict.isFinding]

theorem exposuresOf_eq (reports : List Finding.Report) :
    Finding.exposuresOf reports =
      (reports.filter fun report =>
        report.verdict = .present ∨ report.verdict = .verified).map Finding.Report.exposure := by
  unfold Finding.exposuresOf
  congr 1
  refine List.filter_congr fun report _ => ?_
  rw [Bool.eq_iff_iff, isFinding_iff, decide_eq_true_iff]

/-- The three verdicts: no detector failed, or all of at least one did, or only some of them. -/
theorem verdict_cases (records : List (Record (List Finding.Report))) :
    ((∀ record ∈ records, record.status = .succeeded) ∧ verdict records = (.succeeded, "")) ∨
    ((records ≠ [] ∧ ∀ record ∈ records, record.status ≠ .succeeded) ∧
      verdict records = (.failed, "All VulnDetectors failed.")) ∨
    (((∃ record ∈ records, record.status = .succeeded) ∧
        ∃ record ∈ records, record.status ≠ .succeeded) ∧
      verdict records =
        (.partly, "Failed plugins:\n" ++ Text.joinTexts "\n" (failures records))) := by
  have hisEmpty : (failures records).isEmpty = true ↔
      ∀ record ∈ records, record.status = .succeeded := by
    rw [List.isEmpty_iff, failures_eq_nil]
  unfold verdict
  simp only [failedPlugins_eq_failures]
  by_cases hnone : (failures records).isEmpty = true
  · exact .inl ⟨hisEmpty.1 hnone, if_pos hnone⟩
  · have hfailed : ∃ record ∈ records, record.status ≠ .succeeded := by
      rw [hisEmpty] at hnone
      push Not at hnone
      exact hnone
    simp only [if_neg hnone]
    by_cases hall : (failures records).length = records.length
    · obtain ⟨record, hrecord, -⟩ := hfailed
      exact .inr (.inl ⟨⟨List.ne_nil_of_mem hrecord, failures_length_eq.1 hall⟩, if_pos hall⟩)
    · have hsucceeded : ∃ record ∈ records, record.status = .succeeded := by
        rw [failures_length_eq] at hall
        push Not at hall
        exact hall
      exact .inr (.inr ⟨⟨hsucceeded, hfailed⟩, if_neg hall⟩)

/-- What a scan makes of the records of its detectors is drawn from them. -/
theorem conclude_drawnFrom : DrawnFrom survey records (conclude survey records start duration) := by
  rw [conclude_eq]
  -- the three verdicts exclude each other, so each statement is decided by the case it is in
  rcases verdict_cases records with
    ⟨hall, hv⟩ | ⟨⟨hne, hall⟩, hv⟩ | ⟨⟨⟨r₁, hr₁, hs₁⟩, r₂, hr₂, hs₂⟩, hv⟩ <;> rw [hv]
  · refine ⟨rfl, reported_eq_flatten, exposuresOf_eq _, iff_of_true ⟨rfl, rfl⟩ hall, ?_, ?_⟩
    · refine iff_of_false (by simp) fun ⟨hne, hfailed⟩ => ?_
      obtain ⟨r, hr⟩ := List.exists_mem_of_ne_nil records hne
      exact hfailed r hr (hall r hr)
    · exact iff_of_false (by simp) fun ⟨_, r, hr, hfailed⟩ => hfailed (hall r hr)
  · obtain ⟨r, hr⟩ := List.exists_mem_of_ne_nil records hne
    refine ⟨rfl, reported_eq_flatten, exposuresOf_eq _, ?_, iff_of_true ⟨rfl, rfl⟩ ⟨hne, hall⟩, ?_⟩
    · exact iff_of_false (by simp) fun hsucceeded => hall r hr (hsucceeded r hr)
    · exact iff_of_false (by simp) fun ⟨⟨r', hr', hsucceeded⟩, _⟩ => hall r' hr' hsucceeded
  · refine ⟨rfl, reported_eq_flatten, exposuresOf_eq _, ?_, ?_,
      iff_of_true ⟨rfl, rfl⟩ ⟨⟨r₁, hr₁, hs₁⟩, r₂, hr₂, hs₂⟩⟩
    · exact iff_of_false (by simp) fun hsucceeded => hs₂ (hsucceeded r₂ hr₂)
    · exact iff_of_false (by simp) fun ⟨_, hfailed⟩ => hfailed r₁ hr₁ hs₁

end

/-! ## Whole scans -/

namespace Workflow

/-- The detectors that a scan selected for a survey, and their records: each was run once against
the survey, and they stand in the order in which the plugins are registered. -/
structure Detects (w : Workflow σ) (signals : Signals) (survey : Net.Survey)
    (records : List (Record (List Finding.Report))) (m' : Moment σ) : Prop where
  executed : ∃ chosen m₁ m₂,
    (w.registry.detectorsFor w.selection survey).alone signals m₁ =
      .reached (some (.value chosen)) m₂ ∧
    w.pool.execute (w.detection survey chosen) signals m₂ = .reached records m' ∧
    List.Forall₂ (fun t => Recorded w.pool.deadline m'.cancelled t.activity.MayEnd t)
      (w.detection survey chosen) records
  inOrder : (records.map Record.plugin).Sublist (w.registry.entries.map Plugin.Entry.definition)

theorem Completes.detects {w : Workflow σ} {signals : Signals} {ports survey : Net.Survey}
    {m m' : Moment σ} {records : List (Record (List Finding.Report))}
    (h : w.Completes signals ports m survey records m') :
    w.Detects signals survey records m' := by
  cases h with
  | @mk identities m₁ m₂ _ chosen _ identifies uncancelled selects detects verdict =>
      have hends : (w.registry.detectorsFor w.selection (w.surveyed ports identities)).MayEnd
          (.value chosen) :=
        ((Execution.Activity.alone_meets _ signals m₁).of_reached selects).mayEnd _ rfl
      have hrecorded := ((w.pool.execute_meets _ signals m₂).of_reached detects).1
      refine ⟨⟨chosen, m₁, m₂, selects, detects, hrecorded⟩, ?_⟩
      have hplugins : records.map Record.plugin = chosen.map Chosen.plugin := by
        rw [Execution.Recorded.plugins_eq hrecorded, detection, List.map_map]
        rfl
      rw [hplugins]
      exact Plugin.Registry.detectorsFor_sublist hends

/-- **The verdict of a scan.** Where the phases of a scan are not aborted, its detectors are all
recorded, whether they succeeded, failed, broke off or were late, and the results are drawn from
their records. Where they are aborted, the results tell the error and nothing else. -/
theorem run_verdict (w : Workflow σ) (target : Net.Endpoint) (signals : Signals) (m : Moment σ) :
    (w.run target signals m).Meets
      (fun out m' =>
        (∃ t survey records, w.phases target signals m = .reached (t, .ok (survey, records)) m' ∧
          w.Detects signals survey records m' ∧ DrawnFrom survey records out.2) ∨
        (∃ t e, w.phases target signals m = .reached (t, .error e) m' ∧ AbortedWith e out.2))
      (w.Excused target signals) := by
  unfold run
  refine Execution.Session.meets_bind ?_
  refine Execution.Session.meets_bind ?_
  refine (w.phases_meets target signals m).imp ?_ fun _ => id
  rintro ⟨t, outcome⟩ m' hphases ⟨-, hout⟩
  refine Execution.Session.meets_bind ?_
  cases outcome with
  | error e => exact .inr ⟨t, e, hphases, rfl, rfl, rfl, rfl, rfl⟩
  | ok result =>
      obtain ⟨survey, records⟩ := result
      obtain ⟨-, ports, m₁, -, completes⟩ := hout
      exact .inl ⟨t, survey, records, hphases, completes.detects, conclude_drawnFrom⟩

end Workflow

end VulnScan.Scan
