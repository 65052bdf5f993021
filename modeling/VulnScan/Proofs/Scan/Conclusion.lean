import VulnScan.Scan.Workflow

/-! # What results say about detectors

The status of a scan that completes depends on which of its detectors failed, and its message
names them: a failed detector never goes unnoticed (`conclude_of_failed`).
-/

set_option autoImplicit false

namespace VulnScan.Scan

open Execution (Record)

variable {survey : Net.Survey} {records : List (Record (List Finding.Report))}
  {start : Time.Timestamp} {duration : Time.Span}

/-- The plugins whose executions did not succeed. -/
def failedPlugins (records : List (Record (List Finding.Report))) : List String :=
  (records.filter fun r => !r.isSucceeded).map fun r => r.plugin.id

/-- All that the successful detectors reported. -/
def reported (records : List (Record (List Finding.Report))) : List Finding.Report :=
  records.flatMap fun r =>
    match r.result with
    | .ok reports => reports
    | .error _ => []

/-- The status and the message of a scan whose detectors left these records. -/
def verdict (records : List (Record (List Finding.Report))) : Finding.Status × String :=
  if (failedPlugins records).isEmpty then (.succeeded, "")
  else if (failedPlugins records).length = records.length then
    (.failed, "All VulnDetectors failed.")
  else (.partly, "Failed plugins:\n" ++ Text.joinTexts "\n" (failedPlugins records))

theorem conclude_eq :
    conclude survey records start duration =
      { status := (verdict records).1, message := (verdict records).2, start, duration
        findings := Finding.exposuresOf (reported records), reports := reported records
        survey := some survey } :=
  rfl

theorem failedPlugins_eq_nil :
    failedPlugins records = [] ↔ ∀ r ∈ records, r.isSucceeded = true := by
  simp [failedPlugins]

/-- Without failed detectors the scan succeeds. -/
theorem verdict_of_all_succeeded (h : ∀ r ∈ records, r.isSucceeded = true) :
    verdict records = (.succeeded, "") := by
  rw [verdict, failedPlugins_eq_nil.2 h]
  rfl

/-- The results say that the plugin failed: it is named, or all are said to have failed. -/
inductive ReportsFailure (id : String) (r : Finding.Results) : Prop
  | all (status : r.status = .failed) (message : r.message = "All VulnDetectors failed.")
  | some {failed : List String} (status : r.status = .partly) (named : id ∈ failed)
      (message : r.message = "Failed plugins:\n" ++ Text.joinTexts "\n" failed)

/-- A failed detector never goes unnoticed. -/
theorem conclude_of_failed {record : Record (List Finding.Report)} (h : record ∈ records)
    (failed : record.isSucceeded = false) :
    ReportsFailure record.plugin.id (conclude survey records start duration) := by
  have hnamed : record.plugin.id ∈ failedPlugins records :=
    List.mem_map.2 ⟨record, List.mem_filter.2 ⟨h, by simp [failed]⟩, rfl⟩
  rw [conclude_eq, verdict, if_neg (by simp [List.ne_nil_of_mem hnamed])]
  split
  · exact .all rfl rfl
  · exact .some rfl hnamed rfl

end VulnScan.Scan
