import VulnScan.Proofs.Execution.ReplayPool
import VulnScan.Proofs.Plugin.Fingerprinters
import VulnScan.Proofs.Plugin.Repeats
import VulnScan.Proofs.Scan.Phases
import VulnScan.Proofs.Scan.Schedule

/-! # Scans that are replayed

A scan whose plugins repeat themselves goes the same way from every moment, phase by phase: the
same plugins are selected, they leave the same records and enter the same in the log, and the scan
ends in the same way (`Workflow.run_replay`).
-/

set_option autoImplicit false

namespace VulnScan.Scan

open Execution (Activity Record Replay ResultsTell Session Task)
open Plugin (Chosen Detector)

variable {σ ρ α : Type} {r : Replay σ ρ}

/-! ## Tracers -/

/-- Both tracers are at the same stage and remember the same selections. -/
structure TracersAgree (t t' : Tracer) : Prop where
  stage : t.stage = t'.stage
  portScanning : t.portScanning.selected = t'.portScanning.selected
  fingerprinting : t.fingerprinting.selected = t'.fingerprinting.selected
  detecting : t.detecting.selected = t'.detecting.selected

theorem TracersAgree.refl (t : Tracer) : TracersAgree t t := ⟨rfl, rfl, rfl, rfl⟩

/-- Both tracers go on, or both refuse for the same reason. -/
inductive StepsAgree : Except Misuse Tracer → Except Misuse Tracer → Prop
  | ok {t t' : Tracer} (agree : TracersAgree t t') : StepsAgree (.ok t) (.ok t')
  | error (misuse : Misuse) : StepsAgree (.error misuse) (.error misuse)

namespace TracersAgree

variable {t t' : Tracer} (h : TracersAgree t t') (now now' : Nat)

include h

theorem expect {next next' : Tracer} (hnext : TracersAgree next next') (stage : Stage) :
    StepsAgree (t.expect stage next) (t'.expect stage next') := by
  unfold Tracer.expect
  rw [h.stage]
  split
  · exact .ok hnext
  · exact .error _

theorem startPortScanning (selected : List Selected) :
    StepsAgree (t.startPortScanning now selected) (t'.startPortScanning now' selected) := by
  refine h.expect ?_ .start
  exact ⟨rfl, rfl, h.fingerprinting, h.detecting⟩

theorem startFingerprinting (selected : List Selected) :
    StepsAgree (t.startFingerprinting now selected) (t'.startFingerprinting now' selected) := by
  refine h.expect ?_ .portScanning
  exact ⟨rfl, h.portScanning, rfl, h.detecting⟩

theorem startDetecting (selected : List Selected) :
    StepsAgree (t.startDetecting now selected) (t'.startDetecting now' selected) := by
  refine h.expect ?_ .fingerprinting
  exact ⟨rfl, h.portScanning, h.fingerprinting, rfl⟩

theorem setDone : StepsAgree (t.setDone now) (t'.setDone now') := by
  refine h.expect ?_ .detecting
  exact ⟨rfl, h.portScanning, h.fingerprinting, h.detecting⟩

theorem forceDone : TracersAgree (t.forceDone now) (t'.forceDone now') :=
  ⟨rfl, h.portScanning, h.fingerprinting, h.detecting⟩

end TracersAgree

theorem traced_replay {step step' : (now : Nat) → Except Misuse Tracer}
    (h : ∀ now now', StepsAgree (step now) (step' now')) :
    r.Sessions TracersAgree (traced step) (traced step') := by
  unfold traced
  refine Replay.Sessions.moment.bind fun m m' _ => ?_
  have hstep := h (instant m.now) (instant m'.now)
  generalize step (instant m.now) = t at hstep ⊢
  generalize step' (instant m'.now) = t' at hstep ⊢
  cases hstep with
  | ok agree => exact .pure agree
  | error misuse => exact .collapse _

theorem isCancelled_replay : r.Sessions Eq isCancelled isCancelled :=
  Replay.Sessions.moment.bind fun _ _ hm => .pure hm.cancelled

/-! ## Phase by phase -/

/-- The tracers agree, and what was come to are values that `R` relates, or errors with the same
message. -/
structure PhasesAgree (R : α → α → Prop) (out out' : Tracer × Except Error α) : Prop where
  tracer : TracersAgree out.1 out'.1
  outcome : ResultsTell R out.2 out'.2

/-- The surveys are the same, and the records tell the same. -/
structure CompletionsAgree (x x' : Net.Survey × List (Record (List Finding.Report))) : Prop where
  survey : x.1 = x'.1
  records : List.Forall₂ Record.Alike x.2 x'.2

namespace Workflow

/-- The same workflow, when the runtime gives other numbers to what it runs, and so reports
breakdowns in other words. -/
def renumbered (w : Workflow σ) (crash : Selected → String → String) : Workflow σ :=
  { w with crash }

section

variable (w : Workflow σ) (crash : Selected → String → String)

theorem identification_renumbered (ports : Net.Survey) :
    (w.renumbered crash).identification ports =
      (w.identification ports).map fun t => { t with crash := crash (Selected.ofTask t) } := by
  rw [identification, identification, List.map_map]
  rfl

theorem detection_renumbered (survey : Net.Survey) (chosen : List (Chosen (Detector σ))) :
    (w.renumbered crash).detection survey chosen =
      (w.detection survey chosen).map fun t => { t with crash := crash (Selected.ofTask t) } := by
  rw [detection, detection, List.map_map]
  rfl

end

variable {w : Workflow σ} {target : Net.Endpoint}
  (h : ∀ e ∈ w.registry.entries, e.body.All fun _ a => a.Repeats r.log r.calls)
  (crash : Selected → String → String)

include h

theorem scanPorts_replay (target : Net.Endpoint) :
    r.Sessions (PhasesAgree Eq) (w.scanPorts target) ((w.renumbered crash).scanPorts target) := by
  have hsame : (w.renumbered crash).registry.portScanners = w.registry.portScanners := rfl
  unfold scanPorts
  rw [hsame]
  cases hc : w.registry.portScanners with
  | nil => exact .pure ⟨.refl _, .error rfl⟩
  | cons c cs =>
      have hscan : (c.body target).Repeats r.log r.calls := by
        refine scanner_inherits h ?_ target
        rw [hc]
        exact List.mem_cons_self
      have hscans : ∀ task ∈ [w.task c (c.body target)], task.activity.Repeats r.log r.calls :=
        List.forall_mem_singleton.2 hscan
      refine (traced_replay fun now now' => ?_).bind fun t t' ht => ?_
      · exact (TracersAgree.refl _).startPortScanning now now' _
      have hreplay := Replay.execute hscans w.pool fun _ => crash (.of c)
      refine hreplay.bind fun records records' hr => ?_
      -- both pools leave as many records, and only a single one is looked at
      cases hr with
      | nil => exact .pure ⟨ht, .error rfl⟩
      | cons hr hrest =>
          cases hrest with
          | nil => exact .pure ⟨ht, hr.result⟩
          | cons _ _ => exact .pure ⟨ht, .error rfl⟩

theorem fingerprint_replay {t t' : Tracer} (ht : TracersAgree t t') (ports : Net.Survey) :
    r.Sessions (fun out out' => TracersAgree out.1 out'.1 ∧ out.2 = out'.2)
      (w.fingerprint t ports) ((w.renumbered crash).fingerprint t' ports) := by
  have htasks : ∀ task ∈ w.identification ports, task.activity.Repeats r.log r.calls :=
    identification_inherits h ports
  unfold fingerprint
  refine (traced_replay fun now now' => ht.startFingerprinting now now' _).bind
    fun t₁ t₁' ht₁ => ?_
  have hreplay := Replay.execute htasks w.pool fun t => crash (Selected.ofTask t)
  rw [← identification_renumbered] at hreplay
  refine hreplay.bind fun records records' hr => .pure ⟨ht₁, ?_⟩
  show w.surveyed ports records = w.surveyed ports records'
  rw [surveyed, surveyed, identified_agree hr]

theorem detect_replay {t t' : Tracer} (ht : TracersAgree t t') (survey : Net.Survey) :
    r.Sessions (PhasesAgree (List.Forall₂ Record.Alike)) (w.detect t survey)
      ((w.renumbered crash).detect t' survey) := by
  unfold detect
  refine isCancelled_replay.bind ?_
  rintro cancelled _ rfl
  split
  · exact .pure ⟨ht, .error rfl⟩
  have hcomposes := Plugin.repeats_composes r.log r.calls
  have hselects := Plugin.Registry.detectorsFor_inherits hcomposes h w.selection survey
  refine (Replay.alone hselects).bind ?_
  rintro o _ ⟨rfl, hends⟩
  rcases o with _ | o
  · exact .pure ⟨ht, .error rfl⟩
  cases o with
  | fault e => exact .pure ⟨ht, .error rfl⟩
  | collapse message => exact .collapse message
  | value chosen =>
      have htasks : ∀ task ∈ w.detection survey chosen, task.activity.Repeats r.log r.calls :=
        detection_inherits h hcomposes (hends _ rfl)
      refine (traced_replay fun now now' => ht.startDetecting now now' _).bind
        fun t₁ t₁' ht₁ => ?_
      have hreplay := Replay.execute htasks w.pool fun t => crash (Selected.ofTask t)
      rw [← detection_renumbered] at hreplay
      exact hreplay.bind fun records records' hr => .pure ⟨ht₁, .ok hr⟩

theorem afterPorts_replay {t t' : Tracer} (ht : TracersAgree t t') (ports : Net.Survey) :
    r.Sessions (PhasesAgree CompletionsAgree) (w.afterPorts t ports)
      ((w.renumbered crash).afterPorts t' ports) := by
  unfold afterPorts
  refine isCancelled_replay.bind ?_
  rintro cancelled _ rfl
  split
  · exact .pure ⟨ht, .error rfl⟩
  refine (fingerprint_replay h crash ht ports).bind ?_
  rintro ⟨t₁, survey⟩ ⟨t₁', _⟩ ⟨ht₁, rfl⟩
  refine isCancelled_replay.bind ?_
  rintro cancelled _ rfl
  dsimp only
  split
  · exact .pure ⟨ht₁, .error rfl⟩
  refine (detect_replay h crash ht₁ survey).bind ?_
  rintro ⟨t₂, out⟩ ⟨t₂', out'⟩ ⟨ht₂, hout⟩
  cases hout with
  | error message => exact .pure ⟨ht₂, .error message⟩
  | @ok records records' hrecords =>
      dsimp only
      rw [← Record.Alike.all_isSucceeded_eq hrecords]
      refine isCancelled_replay.bind ?_
      rintro cancelled _ rfl
      split
      · exact .pure ⟨ht₂, .error rfl⟩
      exact (traced_replay ht₂.setDone).bind fun t₃ t₃' ht₃ => .pure ⟨ht₃, .ok ⟨rfl, hrecords⟩⟩

theorem phases_replay (target : Net.Endpoint) :
    r.Sessions (PhasesAgree CompletionsAgree) (w.phases target)
      ((w.renumbered crash).phases target) := by
  unfold phases
  refine (scanPorts_replay h crash target).bind ?_
  rintro ⟨t, out⟩ ⟨t', out'⟩ ⟨ht, hout⟩
  cases hout with
  | error message =>
      refine isCancelled_replay.bind ?_
      rintro cancelled _ rfl
      refine .pure ⟨ht, .error ?_⟩
      split
      · rfl
      · exact message
  | @ok ports _ related =>
      obtain rfl := related
      exact afterPorts_replay h crash ht ports

/-- **A scan goes the same way every time.** If its plugins repeat themselves, a scan selects the
same plugins and comes to the same results from every moment, or it breaks off in the same way,
whatever numbers the runtime gives to its executions. -/
theorem run_replay (target : Net.Endpoint) :
    r.Sessions (fun out out' => TracersAgree out.1 out'.1 ∧ ResultsAgree out.2 out'.2)
      (w.run target) ((w.renumbered crash).run target) := by
  unfold run
  refine Replay.Sessions.moment.bind fun m m' _ => ?_
  refine (phases_replay h crash target).bind ?_
  rintro ⟨t, out⟩ ⟨t', out'⟩ ⟨ht, hout⟩
  refine Replay.Sessions.moment.bind fun m₁ m₁' _ => ?_
  cases hout with
  | error message => exact .pure ⟨ht.forceDone _ _, ⟨rfl, message, rfl, rfl, rfl⟩⟩
  | @ok x x' agree =>
      obtain ⟨survey, records⟩ := x
      obtain ⟨_, records'⟩ := x'
      obtain ⟨rfl, hrecords⟩ := agree
      exact .pure ⟨ht, conclude_agree hrecords _ _ _ _⟩

end Workflow

end VulnScan.Scan
