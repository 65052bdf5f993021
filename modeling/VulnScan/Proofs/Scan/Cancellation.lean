import VulnScan.Proofs.Scan.Conclusion
import VulnScan.Proofs.Scan.Phases

/-! # The verdict about a cancelled scan

A scan can be cancelled at any time: from outside, by one of its plugins, while plugins wait for a
slot or while language servers are asked for their plugins. `Workflow.run_cancelled` says what
becomes of it: it fails with one fixed message and without anything it has found so far, or it was
too late to cancel it, because every detector has succeeded.
-/

set_option autoImplicit false

namespace VulnScan.Scan

open Execution (Record Signals Moment)

variable {σ : Type}

/-- A scan that began at `m` was cancelled before it ended at `m'`. -/
inductive CancelledWithin (signals : Signals) (m m' : Moment σ) : Prop
  /-- The world knows that it is cancelled. -/
  | known (called : m'.cancelled = true)
  /-- It was cancelled from outside, at a time in between. -/
  | outside {time : Nat} (called : signals.cancelAt = some time) (begun : m.now ≤ time)
      (unfinished : time < m'.now)

/-- The results of a scan that failed because it was cancelled: they hold nothing else. -/
structure FailedAsCancelled (r : Finding.Results) : Prop where
  status : r.status = .failed
  message : r.message = "Scan cancelled: scan cancelled by caller"
  survey : r.survey = none
  reports : r.reports = []
  findings : r.findings = []

/-- The results of a scan in which every detector succeeded, drawn from the records of the
detectors. -/
structure SucceededThroughout (w : Workflow σ) (target : Net.Endpoint) (signals : Signals)
    (m m' : Moment σ) (r : Finding.Results) : Prop where
  status : r.status = .succeeded
  message : r.message = ""
  detected : ∃ t ports m₁ survey records,
    w.scanPorts target signals m = .reached (t, .ok ports) m₁ ∧
    w.Completes signals ports m₁ survey records m' ∧
    (∀ record ∈ records, record.isSucceeded = true) ∧
    r = conclude survey records (w.clock m.world) ((w.clock m'.world).since (w.clock m.world))

/-- A cancellation that came in time is known in the end. -/
theorem CancelledWithin.cancelled {signals : Signals} {m m' : Moment σ}
    (h : CancelledWithin signals m m') (hup : signals.UpToDate m → signals.UpToDate m') :
    m'.cancelled = true := by
  cases h with
  | known called => exact called
  | @outside time called begun unfinished =>
      have hm : signals.UpToDate m := by
        intro t ht
        rw [called] at ht
        cases ht
        exact .inr begun
      -- the scan went on past that time, so it must have noticed
      rcases hup hm time called with hc | hle
      · exact hc
      · omega

/-- **The verdict about a cancelled scan.** Whatever the plugins do and whenever the scan is
cancelled before it ends, it fails as a cancelled scan does, or every detector has succeeded. It
never comes to a standstill once somebody cancels it. -/
theorem Workflow.run_cancelled (w : Workflow σ) (target : Net.Endpoint) (signals : Signals)
    (m : Moment σ) :
    (w.run target signals m).Meets
      (fun out m' => CancelledWithin signals m m' →
        FailedAsCancelled out.2 ∨ SucceededThroughout w target signals m m' out.2)
      (w.Excused target signals) := by
  refine (w.run_meets target signals m).imp ?_ fun _ => id
  rintro ⟨t, r⟩ m' - ⟨hup, hcomes⟩ hwithin
  have hm' := hwithin.cancelled hup
  have hr : w.ComesTo target signals m m' r := hcomes
  show FailedAsCancelled r ∨ SucceededThroughout w target signals m m' r
  cases hr with
  | cancelled _ => exact .inl ⟨rfl, rfl, rfl, rfl, rfl⟩
  | failed uncancelled _ =>
      -- the error of a port scanner counts only in a scan that is not cancelled
      rw [hm'] at uncancelled
      cases uncancelled
  | @completed t ports survey m₁ records scans completes =>
      have hall := completes.isSucceeded hm'
      refine .inr ⟨?_, ?_, t, ports, m₁, survey, records, scans, completes, hall, rfl⟩
      · rw [conclude_eq, verdict_of_all_succeeded hall]
      · rw [conclude_eq, verdict_of_all_succeeded hall]

end VulnScan.Scan
