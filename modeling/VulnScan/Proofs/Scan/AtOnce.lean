import VulnScan.Proofs.Scan.Conclusion
import VulnScan.Proofs.Scan.Phases

/-! # Scans that take no time

A scan whose port scanner and only detector end without waiting can be followed step by step: it
leaves the world as these two and the listings of plugins leave it, and it succeeds
(`Workflow.run_at_once`).
-/

set_option autoImplicit false

namespace VulnScan.Scan

open Execution (Activity Course Record Session Moment Task)
open Plugin (Chosen Detector)

variable {σ : Type}

namespace Workflow

variable {w : Workflow σ} {target : Net.Endpoint} {ports : Net.Survey} {now : Nat}
  {d : Chosen (Detector σ)} {reports : List Finding.Report} {w₀ w₁ w₂ w₃ : σ}

theorem scanPorts_at_once {c : Chosen (Net.Endpoint → Activity σ Net.Survey)}
    {cs : List (Chosen (Net.Endpoint → Activity σ Net.Survey))}
    (scanners : w.registry.portScanners = c :: cs)
    (scans : (c.body target).settle now w₀ false = (.ended (.value ports), w₁, false)) :
    ∃ t, t.stage = .portScanning ∧
      w.scanPorts target {} ⟨now, w₀, false⟩ = .reached (t, .ok ports) ⟨now, w₁, false⟩ := by
  have hmeets : (w.scanPorts target {} ⟨now, w₀, false⟩).Meets
      (fun out m' => out.1.stage = .portScanning ∧ out.2 = .ok ports ∧ m' = ⟨now, w₁, false⟩)
      fun _ => False := by
    unfold scanPorts
    rw [scanners]
    refine Session.meets_bind ?_
    rw [traced_eq rfl, Course.meets_reached]
    refine Session.meets_bind ?_
    rw [Execution.Pool.execute_ended rfl scans]
    exact ⟨rfl, rfl, rfl⟩
  obtain ⟨⟨t, out⟩, m', hscan, hstage, hout, rfl⟩ := hmeets.exists_reached fun _ => id
  obtain rfl : out = .ok ports := hout
  exact ⟨t, hstage, hscan⟩

/-- Services that have no fingerprinter are left as the port scanner saw them. -/
theorem fingerprint_at_once {t : Tracer} {m : Moment σ} (stage : t.stage = .portScanning)
    (unidentified : ∀ s ∈ ports.services, w.registry.fingerprinterFor s = none) :
    ∃ t', t'.stage = .fingerprinting ∧
      w.fingerprint t ports {} m = .reached (t', ports) m := by
  have hkept : w.unmatched ports = ports.services :=
    List.filter_eq_self.2 fun s hs => by rw [unidentified s hs]; rfl
  have htasks : w.identification ports = [] := by
    have hchosen : (ports.services.filterMap fun s =>
        (w.registry.fingerprinterFor s).map fun c => (c, s)) = [] :=
      List.filterMap_eq_nil_iff.2 fun s hs => by rw [unidentified s hs]; rfl
    rw [identification, hchosen]
    rfl
  have hmeets : (w.fingerprint t ports {} m).Meets
      (fun out m' => out.1.stage = .fingerprinting ∧ out.2 = ports ∧ m' = m)
      fun _ => False := by
    refine Session.meets_bind ?_
    rw [traced_eq (if_pos stage), Course.meets_reached]
    refine Session.meets_bind ?_
    show Course.Meets _ _ (w.pool.execute (w.identification ports) {} m)
    rw [htasks, Execution.Pool.execute_nil]
    refine ⟨rfl, ?_, rfl⟩
    show (⟨ports.host, w.unmatched ports ++ identified []⟩ : Net.Survey) = ports
    rw [hkept]
    exact congrArg (Net.Survey.mk ports.host) (List.append_nil _)
  obtain ⟨⟨t', out⟩, m', hfingerprint, hstage, hout, rfl⟩ := hmeets.exists_reached fun _ => id
  obtain rfl : out = ports := hout
  exact ⟨t', hstage, hfingerprint⟩

theorem detect_at_once {t : Tracer} (stage : t.stage = .fingerprinting)
    (selects : (w.registry.detectorsFor w.selection ports).alone {} ⟨now, w₁, false⟩ =
      .reached (some (.value [d])) ⟨now, w₂, false⟩)
    (detects : (d.body.detect ports.host d.services).settle now w₂ false =
      (.ended (.value reports), w₃, false)) :
    ∃ t' record, t'.stage = .detecting ∧ record.ending = .succeeded reports ∧
      w.detect t ports {} ⟨now, w₁, false⟩ = .reached (t', .ok [record]) ⟨now, w₃, false⟩ := by
  have hmeets : (w.detect t ports {} ⟨now, w₁, false⟩).Meets
      (fun out m' => out.1.stage = .detecting ∧ m' = ⟨now, w₃, false⟩ ∧
        ∃ record : Record (List Finding.Report),
          out.2 = .ok [record] ∧ record.ending = .succeeded reports) fun _ => False := by
    refine Session.meets_bind ?_
    rw [isCancelled_apply, Course.meets_reached]
    refine Session.meets_bind ?_
    rw [selects, Course.meets_reached]
    refine Session.meets_bind ?_
    rw [traced_eq (if_pos stage), Course.meets_reached]
    refine Session.meets_bind ?_
    show Course.Meets _ _ (w.pool.execute
      [w.task d (d.body.detect ports.host d.services)] {} ⟨now, w₂, false⟩)
    rw [Execution.Pool.execute_ended rfl detects]
    exact ⟨rfl, rfl, _, rfl, rfl⟩
  obtain ⟨⟨t', out⟩, m', hdetect, hstage, rfl, record, hout, hrecord⟩ :=
    hmeets.exists_reached fun _ => id
  obtain rfl : out = .ok [record] := hout
  exact ⟨t', record, hstage, hrecord, hdetect⟩

/-- **A scan that takes no time.** The port scanner ends at once, the services it finds have no
fingerprinter, and the only detector ends at once as well. Then the scan succeeds. -/
theorem run_at_once {c : Chosen (Net.Endpoint → Activity σ Net.Survey)}
    {cs : List (Chosen (Net.Endpoint → Activity σ Net.Survey))}
    (scanners : w.registry.portScanners = c :: cs)
    (scans : (c.body target).settle now w₀ false = (.ended (.value ports), w₁, false))
    (unidentified : ∀ s ∈ ports.services, w.registry.fingerprinterFor s = none)
    (selects : (w.registry.detectorsFor w.selection ports).alone {} ⟨now, w₁, false⟩ =
      .reached (some (.value [d])) ⟨now, w₂, false⟩)
    (detects : (d.body.detect ports.host d.services).settle now w₂ false =
      (.ended (.value reports), w₃, false)) :
    ∃ out, w.run target {} ⟨now, w₀, false⟩ = .reached out ⟨now, w₃, false⟩ ∧
      out.2.survey = some ports ∧ out.2.status = .succeeded := by
  obtain ⟨t₁, hstage₁, hscan⟩ := scanPorts_at_once scanners scans
  obtain ⟨t₂, hstage₂, hfingerprint⟩ := fingerprint_at_once hstage₁ unidentified
  obtain ⟨t₃, record, hstage₃, hrecord, hdetect⟩ := detect_at_once hstage₂ selects detects
  have hsucceeded : ∀ r ∈ [record], r.isSucceeded = true := by
    intro r hr
    rw [List.mem_singleton.1 hr, Record.isSucceeded, hrecord]
  have hmeets : (w.run target {} ⟨now, w₀, false⟩).Meets
      (fun out m' => m' = ⟨now, w₃, false⟩ ∧ out.2.survey = some ports ∧
        out.2.status = .succeeded) fun _ => False := by
    unfold run phases
    refine Session.meets_bind ?_
    rw [Session.moment_apply, Course.meets_reached]
    refine Session.meets_bind (Session.meets_bind ?_)
    rw [hscan, Course.meets_reached]
    unfold afterPorts
    refine Session.meets_bind ?_
    rw [isCancelled_apply, Course.meets_reached]
    refine Session.meets_bind ?_
    rw [hfingerprint, Course.meets_reached]
    refine Session.meets_bind ?_
    rw [isCancelled_apply, Course.meets_reached]
    refine Session.meets_bind ?_
    rw [hdetect, Course.meets_reached]
    refine Session.meets_bind ?_
    rw [isCancelled_apply, Course.meets_reached, Bool.and_false]
    refine Session.meets_bind ?_
    rw [traced_eq (if_pos hstage₃), Course.meets_reached]
    refine ⟨rfl, rfl, ?_⟩
    show (conclude _ [record] _ _).status = _
    rw [conclude_eq, verdict_of_all_succeeded hsucceeded]
  obtain ⟨out, m', hrun, rfl, hout⟩ := hmeets.exists_reached fun _ => id
  exact ⟨out, hrun, hout⟩

end Workflow

end VulnScan.Scan
