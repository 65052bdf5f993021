import VulnScan.Proofs.Scan.Steps
import VulnScan.Proofs.Scan.Timers

/-! # No phase begins before the one before it is decided

However the executions of a scan are interleaved, its phases do not overlap
(`Workflow.Path.orderly`). The scan itself only waits, so that is no matter of course: it holds
because a batch that the scan has waited for is done, and nothing more happens to a batch that is
done. `Workflow.Stands` says which batches are done where the scan is, and a step keeps to it
(`Workflow.Stands.step`).
-/

set_option autoImplicit false

namespace VulnScan.Scan

open Execution (Batch Happening History Moment Record Signals Task submissions lifeOf)
open Plugin (Chosen Detector)

variable {σ α : Type}

/-- The latest phase of which something can have been told. -/
def Control.rank : Control → Nat
  | .begun => 0
  | .scanning _ => 1
  | .identifying _ _ | .listing _ _ | .lost => 2
  | .detecting _ _ => 3
  | .returned _ _ => 4

theorem Control.rank_le (c : Control) : c.rank ≤ 4 := by
  cases c <;> simp [rank]

/-! ## Which tasks a scan submits -/

/-- The tracer remembers the plugins and services of these tasks, phase by phase. -/
structure Tracer.Remembers (t : Tracer) (scanning : List (Task σ Net.Survey))
    (identifying : List (Task σ (List Net.Service)))
    (detecting : List (Task σ (List Finding.Report))) : Prop where
  scanning : t.portScanning.selected = scanning.map Selected.ofTask
  identifying : t.fingerprinting.selected = identifying.map Selected.ofTask
  detecting : t.detecting.selected = detecting.map Selected.ofTask

namespace Workflow

/-- The first phase is over: the first port scanner was run against the target, and reported
`ports`. -/
structure Scanned (w : Workflow σ) (target : Net.Endpoint) (ports : Net.Survey)
    (b : Batch σ Net.Survey) : Prop where
  tasks : b.tasks = w.inspection target
  reported : w.Reported ports b

/-- The second phase is over: the fingerprinters of the services in `ports` were run, each against
its service and the host, and left the records `identities`. -/
structure Identified (w : Workflow σ) (ports : Net.Survey)
    (identities : List (Record (List Net.Service))) (b : Batch σ (List Net.Service)) : Prop where
  tasks : b.tasks = w.identification ports
  joined : b.Joins w.pool.deadline identities

/-- The detectors that the selection came to, at some moment and under some signals. -/
def Lists (w : Workflow σ) (survey : Net.Survey) (chosen : List (Chosen (Detector σ))) : Prop :=
  ∃ signals m m', (w.registry.detectorsFor w.selection survey).alone signals m =
    .reached (some (.value chosen)) m'

/-- The batches of the phases hold what was selected for them: the first port scanner, with the
target; the fingerprinters of the services that it reported, with its host; and the detectors for
the survey that these led to, each with its host and with its own services. A phase has tasks only
once the phase before it is over. -/
inductive Assigned (w : Workflow σ) (target : Net.Endpoint) : Batch σ Net.Survey →
    Batch σ (List Net.Service) → Batch σ (List Finding.Report) → Prop
  | begun : Assigned w target {} {} {}
  | scanning {b₁ : Batch σ Net.Survey} (tasks : b₁.tasks = w.inspection target) :
      Assigned w target b₁ {} {}
  | identifying {b₁ : Batch σ Net.Survey} {b₂ : Batch σ (List Net.Service)} {ports : Net.Survey}
      (scanned : w.Scanned target ports b₁) (tasks : b₂.tasks = w.identification ports) :
      Assigned w target b₁ b₂ {}
  | detecting {b₁ : Batch σ Net.Survey} {b₂ : Batch σ (List Net.Service)}
      {b₃ : Batch σ (List Finding.Report)} {ports : Net.Survey}
      {identities : List (Record (List Net.Service))} {chosen : List (Chosen (Detector σ))}
      (scanned : w.Scanned target ports b₁) (identified : w.Identified ports identities b₂)
      (listed : w.Lists (w.surveyed ports identities) chosen)
      (tasks : b₃.tasks = w.detection (w.surveyed ports identities) chosen) :
      Assigned w target b₁ b₂ b₃

/-! ## Where a scan stands -/

/-- The batches of a scan that is at some point of its course: those of the phases that are over
are done, and those of the phases to come are empty. -/
inductive Stands (w : Workflow σ) (target : Net.Endpoint) : Control → Batch σ Net.Survey →
    Batch σ (List Net.Service) → Batch σ (List Finding.Report) → Prop
  | begun : Stands w target .begun {} {} {}
  | scanning {t : Tracer} {b₁ : Batch σ Net.Survey} (tasks : b₁.tasks = w.inspection target)
      (remembers : t.Remembers b₁.tasks ([] : List (Task σ _)) ([] : List (Task σ _))) :
      Stands w target (.scanning t) b₁ {} {}
  | identifying {t : Tracer} {ports : Net.Survey} {b₁ : Batch σ Net.Survey}
      {b₂ : Batch σ (List Net.Service)} (scanned : w.Scanned target ports b₁)
      (tasks : b₂.tasks = w.identification ports)
      (remembers : t.Remembers b₁.tasks b₂.tasks ([] : List (Task σ _))) :
      Stands w target (.identifying t ports) b₁ b₂ {}
  | listing {t : Tracer} {ports : Net.Survey} {identities : List (Record (List Net.Service))}
      {b₁ : Batch σ Net.Survey} {b₂ : Batch σ (List Net.Service)}
      (scanned : w.Scanned target ports b₁) (identified : w.Identified ports identities b₂)
      (remembers : t.Remembers b₁.tasks b₂.tasks ([] : List (Task σ _))) :
      Stands w target (.listing t (w.surveyed ports identities)) b₁ b₂ {}
  | detecting {t : Tracer} {ports : Net.Survey} {identities : List (Record (List Net.Service))}
      {chosen : List (Chosen (Detector σ))} {b₁ : Batch σ Net.Survey}
      {b₂ : Batch σ (List Net.Service)} {b₃ : Batch σ (List Finding.Report)}
      (scanned : w.Scanned target ports b₁) (identified : w.Identified ports identities b₂)
      (listed : w.Lists (w.surveyed ports identities) chosen)
      (tasks : b₃.tasks = w.detection (w.surveyed ports identities) chosen)
      (remembers : t.Remembers b₁.tasks b₂.tasks b₃.tasks) :
      Stands w target (.detecting t (w.surveyed ports identities)) b₁ b₂ b₃
  | returned {t : Tracer} {r : Finding.Results} {b₁ : Batch σ Net.Survey}
      {b₂ : Batch σ (List Net.Service)} {b₃ : Batch σ (List Finding.Report)}
      (assigned : w.Assigned target b₁ b₂ b₃) (done₁ : b₁.Done) (done₂ : b₂.Done)
      (done₃ : b₃.Done) (remembers : t.Remembers b₁.tasks b₂.tasks b₃.tasks) :
      Stands w target (.returned t r) b₁ b₂ b₃
  | lost {b₁ : Batch σ Net.Survey} {b₂ : Batch σ (List Net.Service)}
      (assigned : w.Assigned target b₁ b₂ {}) (done₁ : b₁.Done) (done₂ : b₂.Done) :
      Stands w target .lost b₁ b₂ {}

section

variable {w : Workflow σ} {target : Net.Endpoint} {c : Control} {b₁ : Batch σ Net.Survey}
  {b₂ : Batch σ (List Net.Service)} {b₃ : Batch σ (List Finding.Report)}

theorem Stands.assigned (h : w.Stands target c b₁ b₂ b₃) : w.Assigned target b₁ b₂ b₃ := by
  cases h with
  | begun => exact .begun
  | scanning tasks remembers => exact .scanning tasks
  | identifying scanned tasks remembers => exact .identifying scanned tasks
  | listing scanned identified remembers => exact .identifying scanned identified.tasks
  | detecting scanned identified listed tasks remembers =>
      exact .detecting scanned identified listed tasks
  | returned assigned done₁ done₂ done₃ remembers => exact assigned
  | lost assigned done₁ done₂ => exact assigned

theorem Scanned.done {ports : Net.Survey} (h : w.Scanned target ports b₁) : b₁.Done := by
  obtain ⟨r, joined, -⟩ := h.reported
  exact joined.done

theorem Identified.done {ports : Net.Survey} {identities : List (Record (List Net.Service))}
    (h : w.Identified ports identities b₂) : b₂.Done :=
  h.joined.done

/-- A batch that is not done is the one that the scan waits for. -/
theorem Stands.done_or_waits (h : w.Stands target c b₁ b₂ b₃) :
    (b₁.Done ∨ ∃ t, c = .scanning t) ∧ (b₂.Done ∨ ∃ t ports, c = .identifying t ports) ∧
      (b₃.Done ∨ ∃ t survey, c = .detecting t survey) := by
  cases h with
  | begun => exact ⟨.inl Batch.done_empty, .inl Batch.done_empty, .inl Batch.done_empty⟩
  | scanning tasks remembers =>
      exact ⟨.inr ⟨_, rfl⟩, .inl Batch.done_empty, .inl Batch.done_empty⟩
  | identifying scanned tasks remembers =>
      exact ⟨.inl scanned.done, .inr ⟨_, _, rfl⟩, .inl Batch.done_empty⟩
  | listing scanned identified remembers =>
      exact ⟨.inl scanned.done, .inl identified.done, .inl Batch.done_empty⟩
  | detecting scanned identified listed tasks remembers =>
      exact ⟨.inl scanned.done, .inl identified.done, .inr ⟨_, _, rfl⟩⟩
  | returned assigned done₁ done₂ done₃ remembers => exact ⟨.inl done₁, .inl done₂, .inl done₃⟩
  | lost assigned done₁ done₂ => exact ⟨.inl done₁, .inl done₂, .inl Batch.done_empty⟩

/-- The batch of a phase that the scan has not entered is empty. -/
theorem Stands.phases_eq_nil (h : w.Stands target c b₁ b₂ b₃) :
    (c.rank < 1 → b₁.phases = []) ∧ (c.rank < 2 → b₂.phases = []) ∧
      (c.rank < 3 → b₃.phases = []) := by
  cases h <;> simp [Control.rank]

/-- The batch of a phase that the scan has left is done. -/
theorem Stands.done (h : w.Stands target c b₁ b₂ b₃) :
    (1 < c.rank → b₁.Done) ∧ (2 < c.rank → b₂.Done) ∧ (3 < c.rank → b₃.Done) := by
  obtain ⟨h₁, h₂, h₃⟩ := h.done_or_waits
  refine ⟨fun hc => h₁.resolve_right ?_, fun hc => h₂.resolve_right ?_,
    fun hc => h₃.resolve_right ?_⟩
  · rintro ⟨t, rfl⟩
    exact Nat.lt_irrefl _ hc
  · rintro ⟨t, ports, rfl⟩
    exact Nat.lt_irrefl _ hc
  · rintro ⟨t, survey, rfl⟩
    exact Nat.lt_irrefl _ hc

end

end Workflow

/-! ## What the tracer remembers -/

namespace Tracer

variable {t t' : Tracer} {now : Nat} {ts₁ : List (Task σ Net.Survey)}
  {ts₂ : List (Task σ (List Net.Service))} {ts₃ : List (Task σ (List Finding.Report))}

theorem Remembers.forceDone (h : t.Remembers ts₁ ts₂ ts₃) :
    (t.forceDone now).Remembers ts₁ ts₂ ts₃ :=
  ⟨h.scanning, h.identifying, h.detecting⟩

theorem Remembers.setDone (h : t.Remembers ts₁ ts₂ ts₃) (ht : t.setDone now = .ok t') :
    t'.Remembers ts₁ ts₂ ts₃ := by
  rw [(eq_of_expect ht).2]
  exact ⟨h.scanning, h.identifying, h.detecting⟩

theorem Remembers.startFingerprinting (h : t.Remembers ts₁ ([] : List (Task σ _)) ts₃)
    (ht : t.startFingerprinting now (ts₂.map Selected.ofTask) = .ok t') :
    t'.Remembers ts₁ ts₂ ts₃ := by
  rw [(eq_of_expect ht).2]
  exact ⟨h.scanning, rfl, h.detecting⟩

theorem Remembers.startDetecting (h : t.Remembers ts₁ ts₂ ([] : List (Task σ _)))
    (ht : t.startDetecting now (ts₃.map Selected.ofTask) = .ok t') :
    t'.Remembers ts₁ ts₂ ts₃ := by
  rw [(eq_of_expect ht).2]
  exact ⟨h.scanning, h.identifying, rfl⟩

end Tracer

/-! ## A step keeps to where the scan stands -/

namespace Workflow

variable {w : Workflow σ} {target : Net.Endpoint} {s s' : State σ} {e h : List (Event σ)}

/-- Where a scan is about to return with an error, all of its batches are done. -/
theorem Fails.done {t : Tracer} {err : Error} (fails : w.Fails s t err)
    (stands : w.Stands target s.control s.scanning s.identifying s.detecting) :
    (s.scanning.Done ∧ s.identifying.Done ∧ s.detecting.Done) ∧
      t.Remembers s.scanning.tasks s.identifying.tasks s.detecting.tasks := by
  obtain ⟨start, moment, control, b₁, b₂, b₃⟩ := s
  cases fails with
  | unregistered control missing =>
      cases control
      cases stands
      exact ⟨⟨Batch.done_empty, Batch.done_empty, Batch.done_empty⟩, rfl, rfl, rfl⟩
  | scanning control joined failed =>
      cases control
      cases stands with
      | scanning tasks remembers =>
          exact ⟨⟨joined.done, Batch.done_empty, Batch.done_empty⟩, remembers⟩
  | scanned control reported cancelled =>
      cases control
      cases stands with
      | scanning tasks remembers =>
          exact ⟨⟨Scanned.done ⟨tasks, reported⟩, Batch.done_empty, Batch.done_empty⟩, remembers⟩
  | identified control joined cancelled =>
      cases control
      cases stands with
      | identifying scanned tasks remembers =>
          exact ⟨⟨scanned.done, joined.done, Batch.done_empty⟩, remembers⟩
  | listing control cancelled =>
      cases control
      cases stands with
      | listing scanned identified remembers =>
          exact ⟨⟨scanned.done, identified.done, Batch.done_empty⟩, remembers⟩
  | detected control joined failed cancelled =>
      cases control
      cases stands with
      | detecting scanned identified listed tasks remembers =>
          exact ⟨⟨scanned.done, identified.done, joined.done⟩, remembers⟩

/-- A step leaves the scan where it stands, or takes it to where it stands then. -/
theorem Stands.step (stands : w.Stands target s.control s.scanning s.identifying s.detecting)
    (step : w.Step target s e s') :
    w.Stands target s'.control s'.scanning s'.identifying s'.detecting := by
  obtain ⟨hscanning, hidentifying, hdetecting⟩ := stands.done_or_waits
  obtain ⟨start, moment, control, b₁, b₂, b₃⟩ := s
  cases step with
  | passes now => exact stands
  | called => exact stands
  | scanning step =>
      obtain ⟨t, control⟩ := hscanning.resolve_left fun done => done.not_step step
      cases control
      cases stands with
      | scanning tasks remembers =>
          rw [← step.tasks_eq] at tasks remembers
          exact .scanning tasks remembers
  | identifying step =>
      obtain ⟨t, ports, control⟩ := hidentifying.resolve_left fun done => done.not_step step
      cases control
      cases stands with
      | identifying scanned tasks remembers =>
          rw [← step.tasks_eq] at tasks remembers
          exact .identifying scanned tasks remembers
  | detecting step =>
      obtain ⟨t, survey, control⟩ := hdetecting.resolve_left fun done => done.not_step step
      cases control
      cases stands with
      | detecting scanned identified listed tasks remembers =>
          rw [← step.tasks_eq] at tasks remembers
          exact .detecting scanned identified listed tasks remembers
  | @inspects c cs t control first traced =>
      cases control
      cases stands
      refine .scanning rfl ?_
      have htasks : w.inspection target = [w.task c (c.body target)] := by
        rw [inspection, first]
        rfl
      rw [(Tracer.eq_of_expect traced).2, htasks]
      exact ⟨rfl, rfl, rfl⟩
  | identifies control reported uncancelled traced =>
      cases control
      cases stands with
      | scanning tasks remembers =>
          exact .identifying ⟨tasks, reported⟩ rfl (remembers.startFingerprinting traced)
  | surveys control joined uncancelled =>
      cases control
      cases stands with
      | identifying scanned tasks remembers => exact .listing scanned ⟨tasks, joined⟩ remembers
  | @detects t t' survey chosen signals m control uncancelled listed traced =>
      cases control
      cases stands with
      | @listing t ports identities b₁ b₂ scanned identified remembers =>
          have hselected : chosen.map Selected.of =
              (w.detection (w.surveyed ports identities) chosen).map Selected.ofTask := by
            rw [detection, List.map_map]
            rfl
          rw [hselected] at traced
          exact .detecting scanned identified ⟨_, _, _, listed⟩ rfl
            (remembers.startDetecting traced)
  | givesUp control uncancelled listed => exact stands
  | breaksOff control uncancelled m =>
      cases control
      cases stands with
      | listing scanned identified remembers =>
          exact .lost (.identifying scanned identified.tasks) scanned.done identified.done
  | fails fails =>
      obtain ⟨⟨done₁, done₂, done₃⟩, remembers⟩ := fails.done stands
      exact .returned stands.assigned done₁ done₂ done₃ remembers.forceDone
  | concludes control joined verdict traced =>
      cases control
      cases stands with
      | detecting scanned identified listed tasks remembers =>
          exact .returned (.detecting scanned identified listed tasks) scanned.done identified.done
            joined.done (remembers.setDone traced)

/-- Any number of steps take the scan to where it stands then. -/
theorem Path.stands (path : w.Path target s e s')
    (stands : w.Stands target s.control s.scanning s.identifying s.detecting) :
    w.Stands target s'.control s'.scanning s'.identifying s'.detecting := by
  induction path with
  | start => exact stands
  | step path step ih => exact ih.step step

end Workflow

/-! ## What is told before an event -/

/-- The phase of an event; the return of the scan comes after all of them. -/
def Event.rank : Event σ → Nat
  | .scanning _ _ => 1
  | .identifying _ _ => 2
  | .detecting _ _ => 3
  | .returned => 4

/-- What has to be told before an event: that the executions of all phases before its own are
decided. -/
def Event.Awaits (s : State σ) (before : List (Event σ)) : Event σ → Prop
  | .scanning _ _ => True
  | .identifying _ _ => Batch.Completes s.scanning.tasks (scannings before)
  | .detecting _ _ => Batch.Completes s.scanning.tasks (scannings before) ∧
      Batch.Completes s.identifying.tasks (identifyings before)
  | .returned => Batch.Completes s.scanning.tasks (scannings before) ∧
      Batch.Completes s.identifying.tasks (identifyings before) ∧
      Batch.Completes s.detecting.tasks (detectings before)

section

variable {h l : List (Event σ)}

theorem scannings_append (h l : List (Event σ)) : scannings (h ++ l) = scannings h ++ scannings l :=
  List.filterMap_append

theorem identifyings_append (h l : List (Event σ)) :
    identifyings (h ++ l) = identifyings h ++ identifyings l :=
  List.filterMap_append

theorem detectings_append (h l : List (Event σ)) :
    detectings (h ++ l) = detectings h ++ detectings l :=
  List.filterMap_append

/-- Events of other phases tell nothing of a phase. -/
theorem filterMap_append_of_rank {β : Type} {tells : Event σ → Option β} {n : Nat}
    (htells : ∀ x, x.rank ≠ n → tells x = none) (hl : ∀ x ∈ l, x.rank ≠ n) :
    (h ++ l).filterMap tells = h.filterMap tells := by
  have hnil : l.filterMap tells = [] :=
    List.filterMap_eq_nil_iff.2 fun x hx => htells x (hl x hx)
  rw [List.filterMap_append, hnil, List.append_nil]

theorem scannings_append_of_rank (hl : ∀ x ∈ l, x.rank ≠ 1) : scannings (h ++ l) = scannings h := by
  refine filterMap_append_of_rank (fun x hx => ?_) hl
  cases x <;> first | rfl | exact absurd rfl hx

theorem identifyings_append_of_rank (hl : ∀ x ∈ l, x.rank ≠ 2) :
    identifyings (h ++ l) = identifyings h := by
  refine filterMap_append_of_rank (fun x hx => ?_) hl
  cases x <;> first | rfl | exact absurd rfl hx

theorem detectings_append_of_rank (hl : ∀ x ∈ l, x.rank ≠ 3) :
    detectings (h ++ l) = detectings h := by
  refine filterMap_append_of_rank (fun x hx => ?_) hl
  cases x <;> first | rfl | exact absurd rfl hx

theorem scannings_map (e : History σ Net.Survey) :
    scannings (e.map fun x => .scanning x.1 x.2) = e := by
  simp [scannings, List.filterMap_map]

theorem identifyings_map (e : History σ (List Net.Service)) :
    identifyings (e.map fun x => .identifying x.1 x.2) = e := by
  simp [identifyings, List.filterMap_map]

theorem detectings_map (e : History σ (List Finding.Report)) :
    detectings (e.map fun x => .detecting x.1 x.2) = e := by
  simp [detectings, List.filterMap_map]

end

namespace Workflow

variable {w : Workflow σ} {target : Net.Endpoint} {s s' : State σ} {e h : List (Event σ)}

theorem Step.stays_cancelled (step : w.Step target s e s') (hs : s.moment.cancelled = true) :
    s'.moment.cancelled = true := by
  cases step with
  | called => rfl
  | scanning step => exact step.stays_cancelled hs
  | identifying step => exact step.stays_cancelled hs
  | detecting step => exact step.stays_cancelled hs
  | detects control uncancelled listed traced => simp [hs] at uncancelled
  | givesUp control uncancelled listed => simp [hs] at uncancelled
  | breaksOff control uncancelled m => simp [hs] at uncancelled
  | _ => exact hs

theorem Fails.rank_lt {t : Tracer} {err : Error} (fails : w.Fails s t err) :
    s.control.rank < 4 := by
  cases fails with
  | unregistered control missing => simp [control, Control.rank]
  | scanning control joined failed => simp [control, Control.rank]
  | scanned control reported cancelled => simp [control, Control.rank]
  | identified control joined cancelled => simp [control, Control.rank]
  | listing control cancelled => simp [control, Control.rank]
  | detected control joined failed cancelled => simp [control, Control.rank]

/-- What a step tells belongs to the phase that the scan is in, or is its return. A scan that has
returned tells nothing. -/
theorem Step.rank (step : w.Step target s e s')
    (stands : w.Stands target s.control s.scanning s.identifying s.detecting) :
    s.control.rank ≤ s'.control.rank ∧ (∀ x ∈ e, x.rank = s'.control.rank) ∧
      (s.control.rank = 4 → e = []) := by
  obtain ⟨hscanning, hidentifying, hdetecting⟩ := stands.done_or_waits
  cases step with
  | passes now => exact ⟨Nat.le_refl _, by simp, fun _ => rfl⟩
  | called => exact ⟨Nat.le_refl _, by simp, fun _ => rfl⟩
  | scanning step =>
      obtain ⟨t, control⟩ := hscanning.resolve_left fun done => done.not_step step
      refine ⟨Nat.le_refl _, fun x hx => ?_, by simp [control, Control.rank]⟩
      obtain ⟨y, -, rfl⟩ := List.mem_map.1 hx
      simp [control, Control.rank, Event.rank]
  | identifying step =>
      obtain ⟨t, ports, control⟩ := hidentifying.resolve_left fun done => done.not_step step
      refine ⟨Nat.le_refl _, fun x hx => ?_, by simp [control, Control.rank]⟩
      obtain ⟨y, -, rfl⟩ := List.mem_map.1 hx
      simp [control, Control.rank, Event.rank]
  | detecting step =>
      obtain ⟨t, survey, control⟩ := hdetecting.resolve_left fun done => done.not_step step
      refine ⟨Nat.le_refl _, fun x hx => ?_, by simp [control, Control.rank]⟩
      obtain ⟨y, -, rfl⟩ := List.mem_map.1 hx
      simp [control, Control.rank, Event.rank]
  | inspects control first traced => simp [control, Control.rank]
  | identifies control reported uncancelled traced => simp [control, Control.rank]
  | surveys control joined uncancelled => simp [control, Control.rank]
  | detects control uncancelled listed traced => simp [control, Control.rank]
  | givesUp control uncancelled listed => exact ⟨Nat.le_refl _, by simp, fun _ => rfl⟩
  | breaksOff control uncancelled m => simp [control, Control.rank]
  | fails fails =>
      have hlt := fails.rank_lt
      refine ⟨Nat.le_of_lt hlt, ?_, fun h => absurd h (Nat.ne_of_lt hlt)⟩
      simp [Control.rank, Event.rank]
  | concludes control joined verdict traced => simp [control, Control.rank, Event.rank]

/-- The tasks of a phase are settled once the scan has entered it. -/
theorem Step.tasks_eq (step : w.Step target s e s') :
    (1 ≤ s.control.rank → s'.scanning.tasks = s.scanning.tasks) ∧
      (2 ≤ s.control.rank → s'.identifying.tasks = s.identifying.tasks) ∧
      (3 ≤ s.control.rank → s'.detecting.tasks = s.detecting.tasks) := by
  cases step with
  | scanning step => exact ⟨fun _ => step.tasks_eq, fun _ => rfl, fun _ => rfl⟩
  | identifying step => exact ⟨fun _ => rfl, fun _ => step.tasks_eq, fun _ => rfl⟩
  | detecting step => exact ⟨fun _ => rfl, fun _ => rfl, fun _ => step.tasks_eq⟩
  | inspects control first traced => simp [control, Control.rank]
  | identifies control reported uncancelled traced => simp [control, Control.rank]
  | detects control uncancelled listed traced => simp [control, Control.rank]
  | _ => exact ⟨fun _ => rfl, fun _ => rfl, fun _ => rfl⟩

/-- What was told before an event stays told. -/
theorem Step.awaits {x : Event σ} {before : List (Event σ)} (step : w.Step target s e s')
    (hx : x.rank ≤ s.control.rank) (awaits : x.Awaits s before) : x.Awaits s' before := by
  obtain ⟨hscanning, hidentifying, hdetecting⟩ := step.tasks_eq
  cases x with
  | scanning i y => trivial
  | identifying i y =>
      have hrank : 2 ≤ s.control.rank := hx
      show Batch.Completes _ _
      rw [hscanning (by omega)]
      exact awaits
  | detecting i y =>
      have hrank : 3 ≤ s.control.rank := hx
      show Batch.Completes _ _ ∧ Batch.Completes _ _
      rw [hscanning (by omega), hidentifying (by omega)]
      exact awaits
  | returned =>
      have hrank : 4 ≤ s.control.rank := hx
      show Batch.Completes _ _ ∧ Batch.Completes _ _ ∧ Batch.Completes _ _
      rw [hscanning (by omega), hidentifying (by omega), hdetecting (by omega)]
      exact awaits

/-! ## What a history tells of a scan -/

/-- The history tells what has happened in a scan: it tells what has happened to each of its
batches, and before an event it tells of the phases before. -/
structure Told (w : Workflow σ) (target : Net.Endpoint) (h : List (Event σ)) (s : State σ) :
    Prop where
  scanning : s.scanning.Told s.moment.cancelled (scannings h)
  identifying : s.identifying.Told s.moment.cancelled (identifyings h)
  detecting : s.detecting.Told s.moment.cancelled (detectings h)
  stands : w.Stands target s.control s.scanning s.identifying s.detecting
  rank_le : ∀ x ∈ h, x.rank ≤ s.control.rank
  awaits : ∀ before x after, h = before ++ x :: after → x.Awaits s before
  last : ∀ before after, h = before ++ .returned :: after → after = []
  returned : s.control.rank = 4 → .returned ∈ h

/-- A step tells what happens to the batches. -/
theorem Told.batches (told : Told w target h s) (step : w.Step target s e s') :
    s'.scanning.Told s'.moment.cancelled (scannings (h ++ e)) ∧
      s'.identifying.Told s'.moment.cancelled (identifyings (h ++ e)) ∧
      s'.detecting.Told s'.moment.cancelled (detectings (h ++ e)) := by
  have hc := step.stays_cancelled
  have hscanning := told.scanning.imp hc
  have hidentifying := told.identifying.imp hc
  have hdetecting := told.detecting.imp hc
  -- no task of a phase has been submitted before the scan enters it
  have hempty := told.stands.phases_eq_nil
  cases step with
  | scanning step =>
      refine ⟨?_, ?_, ?_⟩
      · rw [scannings_append, scannings_map]
        exact told.scanning.step step
      · rw [identifyings_append_of_rank (List.forall_mem_map.2 fun _ _ => by simp [Event.rank])]
        exact hidentifying
      · rw [detectings_append_of_rank (List.forall_mem_map.2 fun _ _ => by simp [Event.rank])]
        exact hdetecting
  | identifying step =>
      refine ⟨?_, ?_, ?_⟩
      · rw [scannings_append_of_rank (List.forall_mem_map.2 fun _ _ => by simp [Event.rank])]
        exact hscanning
      · rw [identifyings_append, identifyings_map]
        exact told.identifying.step step
      · rw [detectings_append_of_rank (List.forall_mem_map.2 fun _ _ => by simp [Event.rank])]
        exact hdetecting
  | detecting step =>
      refine ⟨?_, ?_, ?_⟩
      · rw [scannings_append_of_rank (List.forall_mem_map.2 fun _ _ => by simp [Event.rank])]
        exact hscanning
      · rw [identifyings_append_of_rank (List.forall_mem_map.2 fun _ _ => by simp [Event.rank])]
        exact hidentifying
      · rw [detectings_append, detectings_map]
        exact told.detecting.step step
  | inspects control first traced =>
      rw [List.append_nil]
      exact ⟨hscanning.assign (hempty.1 (by simp [control, Control.rank])), hidentifying,
        hdetecting⟩
  | identifies control reported uncancelled traced =>
      rw [List.append_nil]
      exact ⟨hscanning, hidentifying.assign (hempty.2.1 (by simp [control, Control.rank])),
        hdetecting⟩
  | detects control uncancelled listed traced =>
      rw [List.append_nil]
      exact ⟨hscanning, hidentifying,
        hdetecting.assign (hempty.2.2 (by simp [control, Control.rank]))⟩
  | fails fails =>
      rw [scannings_append_of_rank (by simp [Event.rank]),
        identifyings_append_of_rank (by simp [Event.rank]),
        detectings_append_of_rank (by simp [Event.rank])]
      exact ⟨hscanning, hidentifying, hdetecting⟩
  | concludes control joined verdict traced =>
      rw [scannings_append_of_rank (by simp [Event.rank]),
        identifyings_append_of_rank (by simp [Event.rank]),
        detectings_append_of_rank (by simp [Event.rank])]
      exact ⟨hscanning, hidentifying, hdetecting⟩
  | _ =>
      rw [List.append_nil]
      exact ⟨hscanning, hidentifying, hdetecting⟩

/-- Where an event stands in a history that goes on: in what was told before, or in what is
new. -/
theorem split_append {ε : Type} {h e before after : List ε} {x : ε}
    (heq : h ++ e = before ++ x :: after) :
    (∃ c, h = before ++ x :: c ∧ after = c ++ e) ∨ ∃ a, before = h ++ a ∧ e = a ++ x :: after := by
  rcases List.append_eq_append_iff.1 heq with ⟨a, hbefore, he⟩ | ⟨c, hh, hafter⟩
  · exact .inr ⟨a, hbefore, he⟩
  · cases c with
    | nil => exact .inr ⟨[], by rw [hh, List.append_nil, List.append_nil], hafter.symm⟩
    | cons y c =>
        obtain ⟨rfl, rfl⟩ := List.cons.inj hafter
        exact .inl ⟨c, hh, rfl⟩

theorem Step.eq_returned (step : w.Step target s e s') (he : .returned ∈ e) : e = [.returned] := by
  cases step with
  | scanning step => simp at he
  | identifying step => simp at he
  | detecting step => simp at he
  | fails fails => rfl
  | concludes control joined verdict traced => rfl
  | _ => simp at he

theorem Step.returns (step : w.Step target s e s') (hs : s'.control.rank = 4) :
    s.control.rank = 4 ∨ e = [.returned] := by
  cases step with
  | inspects control first traced => cases hs
  | identifies control reported uncancelled traced => cases hs
  | surveys control joined uncancelled => cases hs
  | detects control uncancelled listed traced => cases hs
  | breaksOff control uncancelled m => cases hs
  | fails fails => exact .inr rfl
  | concludes control joined verdict traced => exact .inr rfl
  | _ => exact .inl hs

/-- Whatever is told next, the executions of the phases before it are decided. -/
theorem Told.awaits_new (told : Told w target h s) (step : w.Step target s e s')
    {a after : List (Event σ)} {x : Event σ} (he : e = a ++ x :: after) :
    x.Awaits s' (h ++ a) := by
  obtain ⟨-, hrank, -⟩ := step.rank told.stands
  obtain ⟨hscanning, hidentifying, hdetecting⟩ := told.batches step
  obtain ⟨done₁, done₂, done₃⟩ := (told.stands.step step).done
  have hx : x.rank = s'.control.rank := hrank x (by simp [he])
  -- of the phases before that of the event nothing new is told
  have hother : ∀ {k}, k < x.rank → ∀ y ∈ e, y.rank ≠ k := by
    intro k hk y hy
    rw [hrank y hy, ← hx]
    exact Nat.ne_of_gt hk
  have hbefore : ∀ {k}, k < x.rank → ∀ y ∈ a, y.rank ≠ k :=
    fun hk y hy => hother hk y (by simp [he, hy])
  have completes₁ : 1 < x.rank → Batch.Completes s'.scanning.tasks (scannings (h ++ a)) := by
    intro hlt
    have hcompletes := (hscanning.completes (done₁ (hx ▸ hlt))).1
    rw [scannings_append_of_rank (hother hlt)] at hcompletes
    rwa [scannings_append_of_rank (hbefore hlt)]
  have completes₂ : 2 < x.rank → Batch.Completes s'.identifying.tasks (identifyings (h ++ a)) := by
    intro hlt
    have hcompletes := (hidentifying.completes (done₂ (hx ▸ hlt))).1
    rw [identifyings_append_of_rank (hother hlt)] at hcompletes
    rwa [identifyings_append_of_rank (hbefore hlt)]
  have completes₃ : 3 < x.rank → Batch.Completes s'.detecting.tasks (detectings (h ++ a)) := by
    intro hlt
    have hcompletes := (hdetecting.completes (done₃ (hx ▸ hlt))).1
    rw [detectings_append_of_rank (hother hlt)] at hcompletes
    rwa [detectings_append_of_rank (hbefore hlt)]
  cases x with
  | scanning i y => trivial
  | identifying i y => exact completes₁ (Nat.lt_succ_self 1)
  | detecting i y => exact ⟨completes₁ (by simp [Event.rank]), completes₂ (Nat.lt_succ_self 2)⟩
  | returned =>
      exact ⟨completes₁ (by simp [Event.rank]), completes₂ (by simp [Event.rank]),
        completes₃ (Nat.lt_succ_self 3)⟩

/-- A step keeps to what the history tells. -/
theorem Told.step (told : Told w target h s) (step : w.Step target s e s') :
    Told w target (h ++ e) s' := by
  obtain ⟨hle, hrank, hover⟩ := step.rank told.stands
  obtain ⟨hscanning, hidentifying, hdetecting⟩ := told.batches step
  refine ⟨hscanning, hidentifying, hdetecting, told.stands.step step, ?_, ?_, ?_, ?_⟩
  · intro x hx
    rcases List.mem_append.1 hx with hx | hx
    · exact Nat.le_trans (told.rank_le x hx) hle
    · exact Nat.le_of_eq (hrank x hx)
  · intro before x after heq
    rcases split_append heq with ⟨c, hh, -⟩ | ⟨a, rfl, he⟩
    · have hx : x ∈ h := by simp [hh]
      exact step.awaits (told.rank_le x hx) (told.awaits before x c hh)
    · exact told.awaits_new step he
  · intro before after heq
    rcases split_append heq with ⟨c, hh, rfl⟩ | ⟨a, -, he⟩
    · -- the scan has returned, and so nothing is new
      have hge : 4 ≤ s.control.rank := told.rank_le .returned (by simp [hh])
      have hreturned : s.control.rank = 4 := Nat.le_antisymm s.control.rank_le hge
      rw [told.last before c hh, hover hreturned]
      rfl
    · have honly : a ++ Event.returned :: after = [.returned] := by
        rw [← he]
        exact step.eq_returned (by simp [he])
      have hlength := congrArg List.length honly
      simp only [List.length_append, List.length_cons, List.length_nil] at hlength
      exact List.eq_nil_of_length_eq_zero (by omega)
  · intro hreturned
    rcases step.returns hreturned with hbefore | rfl
    · exact List.mem_append_left _ (told.returned hbefore)
    · exact List.mem_append_right _ List.mem_cons_self

/-- A scan that has not begun has no history. -/
theorem told_start (w : Workflow σ) (target : Net.Endpoint) (start : Time.Timestamp)
    (m : Moment σ) : Told w target [] { start, moment := m } where
  scanning := Batch.told_empty
  identifying := Batch.told_empty
  detecting := Batch.told_empty
  stands := .begun
  rank_le := by simp
  awaits := by simp
  last := by simp
  returned := nofun

/-- Whatever way a scan takes, its history tells what has happened. -/
theorem Path.told {start : Time.Timestamp} {m : Moment σ}
    (path : w.Path target { start, moment := m } h s) : Told w target h s := by
  induction path with
  | start => exact told_start w target start m
  | step path step ih => exact ih.step step

/-! ## Every path is orderly -/

/-- A scan that has returned, with its tracer: all that it submitted is decided, every logic was
called unless the scan was cancelled, and the tracer remembers exactly what was submitted. -/
structure Returned (t : Tracer) (h : List (Event σ)) (s : State σ) : Prop where
  returned : .returned ∈ h
  scanning : Batch.Completes s.scanning.tasks (scannings h)
  identifying : Batch.Completes s.identifying.tasks (identifyings h)
  detecting : Batch.Completes s.detecting.tasks (detectings h)
  called : s.moment.cancelled = false → Batch.AllCalled s.scanning.tasks (scannings h) ∧
    Batch.AllCalled s.identifying.tasks (identifyings h) ∧
    Batch.AllCalled s.detecting.tasks (detectings h)
  remembers : t.Remembers (submissions (scannings h)) (submissions (identifyings h))
    (submissions (detectings h))

/-- The history of a scan is orderly: it submits what was selected for its phases, every logic is
called once at most, nothing is told of a phase before the executions of all earlier phases are
decided, and nothing at all is told after the return. -/
structure Orderly (w : Workflow σ) (target : Net.Endpoint) (h : List (Event σ)) (s : State σ) :
    Prop where
  assigned : w.Assigned target s.scanning s.identifying s.detecting
  scanning : Batch.OnceEach s.scanning.tasks (scannings h)
  identifying : Batch.OnceEach s.identifying.tasks (identifyings h)
  detecting : Batch.OnceEach s.detecting.tasks (detectings h)
  awaits : ∀ before x after, h = before ++ x :: after → x.Awaits s before
  last : ∀ before after, h = before ++ .returned :: after → after = []
  returned : ∀ t r, s.control = .returned t r → Returned t h s

theorem Told.orderly (told : Told w target h s) : w.Orderly target h s := by
  refine ⟨told.stands.assigned, told.scanning.onceEach, told.identifying.onceEach,
    told.detecting.onceEach, told.awaits, told.last, ?_⟩
  intro t r control
  have hrank : s.control.rank = 4 := by
    rw [control]
    rfl
  obtain ⟨done₁, done₂, done₃⟩ := told.stands.done
  obtain ⟨completes₁, called₁⟩ := told.scanning.completes (done₁ (by omega))
  obtain ⟨completes₂, called₂⟩ := told.identifying.completes (done₂ (by omega))
  obtain ⟨completes₃, called₃⟩ := told.detecting.completes (done₃ (by omega))
  refine ⟨told.returned hrank, completes₁, completes₂, completes₃,
    fun hc => ⟨called₁ hc, called₂ hc, called₃ hc⟩, ?_⟩
  rw [completes₁.submitted, completes₂.submitted, completes₃.submitted]
  have stands := told.stands
  rw [control] at stands
  cases stands with
  | returned assigned done₁ done₂ done₃ remembers => exact remembers

end Workflow
end VulnScan.Scan
