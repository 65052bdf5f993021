import VulnScan.Proofs.Plugin.Agreement
import VulnScan.Proofs.Scan.Conclusion
import VulnScan.Proofs.Scan.Phases

/-! # Results do not depend on the schedule

Two scans of the same target, with plugins that answer alike, differ in how long the plugins take,
in the sizes of their pools and so in the order in which the plugins begin and end, and in what the
runtime reports of plugins that break off. Phase by phase they come to the same, and so do their
results (`Workflow.run_alike`): a pool gives its records back in the order of its tasks, and of an
error only the message is looked at, which names the plugin and not its breakdown.
-/

set_option autoImplicit false

namespace VulnScan.Scan

open Execution (Activity Outcome Pool Record ResultsTell Session Task)
open Plugin (Chosen Detector DetectorsAgree)

variable {σ₁ σ₂ : Type}

/-- The results are the same, except for the times of the scan. -/
structure ResultsAgree (r₁ r₂ : Finding.Results) : Prop where
  status : r₁.status = r₂.status
  message : r₁.message = r₂.message
  findings : r₁.findings = r₂.findings
  reports : r₁.reports = r₂.reports
  survey : r₁.survey = r₂.survey

/-- Records that tell the same make for results that are the same. -/
theorem conclude_agree {survey : Net.Survey}
    {records₁ records₂ : List (Record (List Finding.Report))}
    (h : List.Forall₂ Record.Alike records₁ records₂) (start₁ start₂ : Time.Timestamp)
    (duration₁ duration₂ : Time.Span) :
    ResultsAgree (conclude survey records₁ start₁ duration₁)
      (conclude survey records₂ start₂ duration₂) := by
  have hfailed : failedPlugins records₁ = failedPlugins records₂ := by
    unfold failedPlugins
    induction h with
    | nil => rfl
    | cons hr _ ih =>
        rw [List.filter_cons, List.filter_cons, hr.isSucceeded_eq]
        split
        · rw [List.map_cons, List.map_cons, ih, hr.plugin]
        · exact ih
  have hverdict : verdict records₁ = verdict records₂ := by
    rw [verdict, verdict, hfailed, h.length_eq]
  have hreported : reported records₁ = reported records₂ := by
    clear hfailed hverdict
    unfold reported
    induction h with
    | nil => rfl
    | @cons r₁ r₂ _ _ hr _ ih =>
        have hresult := hr.result
        rw [List.flatMap_cons, List.flatMap_cons, ih]
        generalize r₁.result = x₁ at hresult ⊢
        generalize r₂.result = x₂ at hresult ⊢
        cases hresult with
        | ok related => rw [related]
        | error message => rfl
  rw [conclude_eq, conclude_eq, hverdict, hreported]
  exact ⟨rfl, rfl, rfl, rfl, rfl⟩

/-! ## Phase by phase -/

variable {tells : String → Prop}

/-- Both tracers are at the stage. -/
def BothAt (stage : Stage) (t₁ t₂ : Tracer) : Prop := t₁.stage = stage ∧ t₂.stage = stage

theorem traced_alike {step₁ step₂ : (now : Nat) → Except Misuse Tracer} {stage : Stage}
    (h₁ : ∀ now, ∃ t, step₁ now = .ok t ∧ t.stage = stage)
    (h₂ : ∀ now, ∃ t, step₂ now = .ok t ∧ t.stage = stage) :
    Session.Alike (BothAt stage) tells
      (traced step₁ : Session σ₁ Tracer) (traced step₂ : Session σ₂ Tracer) := by
  intro m₁ m₂ hm₁ hm₂
  obtain ⟨t₁, ht₁, hs₁⟩ := h₁ (instant m₁.now)
  obtain ⟨t₂, ht₂, hs₂⟩ := h₂ (instant m₂.now)
  rw [Workflow.traced_eq ht₁, Workflow.traced_eq ht₂]
  exact .reached ⟨hs₁, hs₂⟩ hm₁ hm₂

theorem isCancelled_alike :
    Session.Alike (fun c₁ c₂ => c₁ = false ∧ c₂ = false) tells (isCancelled : Session σ₁ Bool)
      (isCancelled : Session σ₂ Bool) :=
  fun _ _ hm₁ hm₂ => .reached ⟨hm₁, hm₂⟩ hm₁ hm₂

/-- What a tracer does from the stage that it expects. -/
theorem exists_expect {t next : Tracer} {stage stage' : Stage} (h : t.stage = stage)
    (hnext : next.stage = stage') : ∃ t', t.expect stage next = .ok t' ∧ t'.stage = stage' :=
  ⟨next, if_pos h, hnext⟩

namespace Workflow

/-- Both tracers are at the same stage and both phases came to the same survey, or to errors with
the same message. -/
structure PortsAlike (out₁ out₂ : Tracer × Except Error Net.Survey) : Prop where
  outcome : ResultsTell Eq out₁.2 out₂.2
  stage₁ : ∀ ports, out₁.2 = .ok ports → out₁.1.stage = .portScanning
  stage₂ : ∀ ports, out₂.2 = .ok ports → out₂.1.stage = .portScanning

theorem scanPorts_alike {w₁ : Workflow σ₁} {w₂ : Workflow σ₂}
    (registry : w₁.registry.Agree w₂.registry) (unlimited₁ : w₁.pool.deadline = none)
    (unlimited₂ : w₂.pool.deadline = none) (target : Net.Endpoint) :
    Session.Alike PortsAlike tells (w₁.scanPorts target) (w₂.scanPorts target) := by
  unfold scanPorts
  have hscanners := registry.portScanners
  generalize w₁.registry.portScanners = cs₁ at hscanners ⊢
  generalize w₂.registry.portScanners = cs₂ at hscanners ⊢
  cases hscanners with
  | nil => exact .pure ⟨.error rfl, fun _ h => (by cases h), fun _ h => (by cases h)⟩
  | @cons c₁ c₂ _ _ hc _ =>
      refine .bind (R := BothAt .portScanning)
        (traced_alike (fun _ => exists_expect rfl rfl) fun _ => exists_expect rfl rfl)
        fun t₁ t₂ ht => ?_
      have htask : List.Forall₂ Task.Alike
          [w₁.task c₁ (c₁.body target)] [w₂.task c₂ (c₂.body target)] :=
        .cons ⟨hc.plugin, hc.services, hc.body target⟩ .nil
      refine (Pool.execute_alike unlimited₁ unlimited₂ htask).bind fun records₁ records₂ hr => ?_
      -- both pools leave as many records, and only a single one is looked at
      cases hr with
      | nil => exact .pure ⟨.error rfl, fun _ _ => ht.1, fun _ _ => ht.2⟩
      | cons hr hrest =>
          cases hrest with
          | nil => exact .pure ⟨hr.result, fun _ _ => ht.1, fun _ _ => ht.2⟩
          | cons _ _ => exact .pure ⟨.error rfl, fun _ _ => ht.1, fun _ _ => ht.2⟩

theorem identified_agree {records₁ records₂ : List (Record (List Net.Service))}
    (h : List.Forall₂ Record.Alike records₁ records₂) :
    identified records₁ = identified records₂ := by
  unfold identified
  induction h with
  | nil => rfl
  | @cons r₁ r₂ _ _ hr _ ih =>
      have hresult := hr.result
      rw [List.flatMap_cons, List.flatMap_cons, ih, hr.services]
      generalize r₁.result = x₁ at hresult ⊢
      generalize r₂.result = x₂ at hresult ⊢
      cases hresult with
      | ok related => rw [related]
      | error message => rfl

theorem unmatched_agree {w₁ : Workflow σ₁} {w₂ : Workflow σ₂}
    (registry : w₁.registry.Agree w₂.registry) (ports : Net.Survey) :
    w₁.unmatched ports = w₂.unmatched ports := by
  refine List.filter_congr fun s _ => ?_
  have hs := registry.fingerprinterFor s
  generalize w₁.registry.fingerprinterFor s = c₁ at hs ⊢
  generalize w₂.registry.fingerprinterFor s = c₂ at hs ⊢
  cases hs <;> rfl

theorem identification_alike {w₁ : Workflow σ₁} {w₂ : Workflow σ₂}
    (registry : w₁.registry.Agree w₂.registry) (ports : Net.Survey) :
    List.Forall₂ Task.Alike (w₁.identification ports) (w₂.identification ports) := by
  unfold identification
  obtain ⟨host, services⟩ := ports
  induction services with
  | nil => exact .nil
  | cons s services ih =>
      have hs := registry.fingerprinterFor s
      rw [List.filterMap_cons, List.filterMap_cons]
      generalize w₁.registry.fingerprinterFor s = c₁ at hs ⊢
      generalize w₂.registry.fingerprinterFor s = c₂ at hs ⊢
      cases hs with
      | none => exact ih
      | some hc => exact .cons ⟨hc.plugin, hc.services, hc.body host s⟩ ih

theorem fingerprint_alike {w₁ : Workflow σ₁} {w₂ : Workflow σ₂}
    (registry : w₁.registry.Agree w₂.registry) (unlimited₁ : w₁.pool.deadline = none)
    (unlimited₂ : w₂.pool.deadline = none) {t₁ t₂ : Tracer} (ht : BothAt .portScanning t₁ t₂)
    (ports : Net.Survey) :
    Session.Alike (fun out₁ out₂ => BothAt .fingerprinting out₁.1 out₂.1 ∧ out₁.2 = out₂.2) tells
      (w₁.fingerprint t₁ ports) (w₂.fingerprint t₂ ports) := by
  unfold fingerprint
  refine .bind (R := BothAt .fingerprinting)
    (traced_alike (fun _ => exists_expect ht.1 rfl) fun _ => exists_expect ht.2 rfl)
    fun t₁' t₂' ht' => ?_
  refine (Pool.execute_alike unlimited₁ unlimited₂ (identification_alike registry ports)).bind
    fun records₁ records₂ hr => .pure ⟨ht', ?_⟩
  show w₁.surveyed ports records₁ = w₂.surveyed ports records₂
  rw [surveyed, surveyed, unmatched_agree registry, identified_agree hr]

/-- Both third phases failed with the same error or left records that tell the same. -/
inductive DetectionAlike :
    Tracer × Except Error (List (Record (List Finding.Report))) →
      Tracer × Except Error (List (Record (List Finding.Report))) → Prop
  | error {t₁ t₂ : Tracer} (e : Error) : DetectionAlike (t₁, .error e) (t₂, .error e)
  | ok {t₁ t₂ : Tracer} {records₁ records₂ : List (Record (List Finding.Report))}
      (stage : BothAt .detecting t₁ t₂) (records : List.Forall₂ Record.Alike records₁ records₂) :
      DetectionAlike (t₁, .ok records₁) (t₂, .ok records₂)

theorem detect_alike {w₁ : Workflow σ₁} {w₂ : Workflow σ₂}
    (registry : w₁.registry.Agree w₂.registry) (selection : w₁.selection = w₂.selection)
    (unlimited₁ : w₁.pool.deadline = none) (unlimited₂ : w₂.pool.deadline = none)
    {t₁ t₂ : Tracer} (ht : BothAt .fingerprinting t₁ t₂) (survey : Net.Survey) :
    Session.Alike DetectionAlike (w₁.registry.MayBreakOff w₁.selection) (w₁.detect t₁ survey)
      (w₂.detect t₂ survey) := by
  unfold detect
  refine isCancelled_alike.bind ?_
  rintro _ _ ⟨rfl, rfl⟩
  rw [← selection]
  refine (Activity.alone_alike (registry.detectorsFor w₁.selection survey)).bind ?_
  rintro _ _ ⟨o₁, o₂, rfl, rfl, hends, ho⟩
  cases ho with
  | fault e => exact .pure (.error e)
  | collapse message =>
      -- both selections break off, and with them both scans
      exact fun _ _ _ _ => .collapsed (Plugin.Registry.mayEnd_detectorsFor_collapse hends)
  | @value chosen₁ chosen₂ hchosen =>
      refine .bind (R := BothAt .detecting)
        (traced_alike (fun _ => exists_expect ht.1 rfl) fun _ => exists_expect ht.2 rfl)
        fun t₁' t₂' ht' => ?_
      have htasks : List.Forall₂ Task.Alike (w₁.detection survey chosen₁)
          (w₂.detection survey chosen₂) := by
        unfold detection
        simp only [List.forall₂_map_left_iff, List.forall₂_map_right_iff]
        refine hchosen.imp fun c₁ c₂ hc => ⟨hc.plugin, hc.services, ?_⟩
        show (c₁.body.detect survey.host c₁.services).Agree
          (c₂.body.detect survey.host c₂.services)
        rw [hc.services]
        exact hc.body survey.host c₂.services
      exact (Pool.execute_alike unlimited₁ unlimited₂ htasks).bind
        fun records₁ records₂ hr => .pure (.ok ht' hr)

/-- Both scans failed with the same message, or came to the same survey and to records that tell
the same. -/
inductive OutcomesAlike : Tracer × Outcome → Tracer × Outcome → Prop
  | error {t₁ t₂ : Tracer} {e₁ e₂ : Error} (message : e₁.message = e₂.message) :
      OutcomesAlike (t₁, .error e₁) (t₂, .error e₂)
  | ok {t₁ t₂ : Tracer} {records₁ records₂ : List (Record (List Finding.Report))}
      (survey : Net.Survey) (records : List.Forall₂ Record.Alike records₁ records₂) :
      OutcomesAlike (t₁, .ok (survey, records₁)) (t₂, .ok (survey, records₂))

theorem afterPorts_alike {w₁ : Workflow σ₁} {w₂ : Workflow σ₂}
    (registry : w₁.registry.Agree w₂.registry) (selection : w₁.selection = w₂.selection)
    (unlimited₁ : w₁.pool.deadline = none) (unlimited₂ : w₂.pool.deadline = none)
    {t₁ t₂ : Tracer} (ht : BothAt .portScanning t₁ t₂) (ports : Net.Survey) :
    Session.Alike OutcomesAlike (w₁.registry.MayBreakOff w₁.selection) (w₁.afterPorts t₁ ports)
      (w₂.afterPorts t₂ ports) := by
  unfold afterPorts
  refine isCancelled_alike.bind ?_
  rintro _ _ ⟨rfl, rfl⟩
  refine (fingerprint_alike registry unlimited₁ unlimited₂ ht ports).bind ?_
  rintro ⟨t₁', survey⟩ ⟨t₂', _⟩ ⟨ht', rfl⟩
  refine isCancelled_alike.bind ?_
  rintro _ _ ⟨rfl, rfl⟩
  refine (detect_alike registry selection unlimited₁ unlimited₂ ht' survey).bind ?_
  intro out₁ out₂ hout
  cases hout with
  | error e => exact .pure (.error rfl)
  | ok stage records =>
      refine isCancelled_alike.bind ?_
      rintro _ _ ⟨rfl, rfl⟩
      simp only [Bool.and_false, Bool.false_eq_true, if_false]
      exact .bind (R := BothAt .done)
        (traced_alike (fun _ => exists_expect stage.1 rfl) fun _ => exists_expect stage.2 rfl)
        fun _ _ _ => .pure (.ok survey records)

theorem phases_alike {w₁ : Workflow σ₁} {w₂ : Workflow σ₂}
    (registry : w₁.registry.Agree w₂.registry) (selection : w₁.selection = w₂.selection)
    (unlimited₁ : w₁.pool.deadline = none) (unlimited₂ : w₂.pool.deadline = none)
    (target : Net.Endpoint) :
    Session.Alike OutcomesAlike (w₁.registry.MayBreakOff w₁.selection) (w₁.phases target)
      (w₂.phases target) := by
  unfold phases
  refine (scanPorts_alike registry unlimited₁ unlimited₂ target).bind ?_
  rintro ⟨t₁, out₁⟩ ⟨t₂, out₂⟩ ⟨houtcome, hstage₁, hstage₂⟩
  cases houtcome with
  | error message =>
      refine isCancelled_alike.bind ?_
      rintro _ _ ⟨rfl, rfl⟩
      exact .pure (.error message)
  | @ok ports _ related =>
      obtain rfl := related
      exact afterPorts_alike registry selection unlimited₁ unlimited₂
        ⟨hstage₁ ports rfl, hstage₂ ports rfl⟩ ports

/-- **Results do not depend on the schedule.** Two scans of a target, whose plugins agree and are
selected alike, and which have no deadline and are neither cancelled nor abandoned, come to the
same results, down to the order of every list. What their plugins wait for, what the world looks
like and how many plugins run at the same time makes no difference. Neither comes to results only
if both break off with the same message, in the listing of a language server. -/
theorem run_alike {w₁ : Workflow σ₁} {w₂ : Workflow σ₂}
    (registry : w₁.registry.Agree w₂.registry) (selection : w₁.selection = w₂.selection)
    (unlimited₁ : w₁.pool.deadline = none) (unlimited₂ : w₂.pool.deadline = none)
    (target : Net.Endpoint) :
    Session.Alike (fun out₁ out₂ => ResultsAgree out₁.2 out₂.2)
      (w₁.registry.MayBreakOff w₁.selection) (w₁.run target) (w₂.run target) := by
  unfold run
  refine Session.Alike.moment.bind fun start₁ start₂ _ => ?_
  refine (phases_alike registry selection unlimited₁ unlimited₂ target).bind ?_
  intro out₁ out₂ hout
  refine Session.Alike.moment.bind fun m₁ m₂ _ => ?_
  cases hout with
  | error message => exact .pure ⟨rfl, message, rfl, rfl, rfl⟩
  | ok survey records => exact .pure (conclude_agree records _ _ _ _)

end Workflow

/-- A plugin of the runs below. -/
def pacedPlugin (role : Plugin.Role) (name : String) : Plugin.Definition :=
  { role, name, author := "t", version := "1.0" }

/-- A workflow with one port scanner and two detectors, of which the second fails, on a pool with
the given slots. What they wait for is given as well. -/
def pacedWorkflow (slots scanning first second : Nat) : Workflow Unit where
  registry :=
    { entries :=
        [⟨pacedPlugin .portScanner "Ports", .portScanner fun target =>
            .wait scanning (.value ⟨{ endpoints := [target] }, [{ endpoint := target }]⟩)⟩,
          ⟨pacedPlugin .detector "First", .detector ⟨fun _ _ => .wait first (.value []), []⟩⟩,
          ⟨pacedPlugin .detector "Second", .detector
            ⟨fun _ _ => .wait second (.fault noPortScanner), []⟩⟩]
      nodup := (by decide :
        ([pacedPlugin .portScanner "Ports", pacedPlugin .detector "First",
          pacedPlugin .detector "Second"].map Plugin.Definition.id).Nodup) }
  selection := {}
  pool := .ofSlots slots
  clock _ := .epoch
  crash _ message := message

/-- One after the other with the failing detector last, or both at the same time with the failing
detector first: the results are the same. -/
theorem pacedWorkflow_alike :
    (pacedWorkflow 1 2 5 3).registry.Agree (pacedWorkflow 2 0 9 1).registry ∧
      Session.Alike (fun out₁ out₂ => ResultsAgree out₁.2 out₂.2)
        ((pacedWorkflow 1 2 5 3).registry.MayBreakOff {})
        ((pacedWorkflow 1 2 5 3).run (.ofHostname "localhost"))
        ((pacedWorkflow 2 0 9 1).run (.ofHostname "localhost")) := by
  have registry : (pacedWorkflow 1 2 5 3).registry.Agree (pacedWorkflow 2 0 9 1).registry := by
    refine .cons ⟨rfl, .portScanner fun target => ⟨_, rfl, rfl⟩⟩ ?_
    refine .cons ⟨rfl, .detector fun host services => ⟨_, rfl, rfl⟩⟩ ?_
    exact .cons ⟨rfl, .detector fun host services => ⟨_, rfl, rfl⟩⟩ .nil
  exact ⟨registry, Workflow.run_alike registry rfl rfl rfl _⟩

end VulnScan.Scan
