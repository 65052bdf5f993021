import VulnScan.Proofs.Execution.Polls
import VulnScan.Proofs.Scan.Phases

/-! # Scans, step by step

The course of a scan and the executions that it submits go on beside each other: the scan hands a
batch of tasks to the pool and waits until all of them are decided, but what runs on the pool obeys
nobody else. `Workflow.Step` lets the executions of every batch move at any time, also those of a
phase that the scan has left and those of a scan that has returned. What happens is told as a list
of events. `Workflow.Trail` leaves out what no clock allows, and `Workflow.Polls` what the
executions do not do because they look at the cancellation whenever they are polled.
-/

set_option autoImplicit false

namespace VulnScan.Scan

open Execution (Batch Happening History Moment Record Signals Task)
open Plugin (Chosen Detector)

variable {σ α : Type}

/-! ## Events -/

/-- What happens in a scan: something to an execution of one of its phases, or its return. -/
inductive Event (σ : Type) where
  | scanning (i : Nat) (x : Happening σ Net.Survey)
  | identifying (i : Nat) (x : Happening σ (List Net.Service))
  | detecting (i : Nat) (x : Happening σ (List Finding.Report))
  | returned

/-- Whether the logic of a plugin runs. -/
def Event.isRun : Event σ → Bool
  | .scanning _ x => x.isRun
  | .identifying _ x => x.isRun
  | .detecting _ x => x.isRun
  | .returned => false

/-- What happens to the execution of the port scanner. -/
def scannings (h : List (Event σ)) : History σ Net.Survey :=
  h.filterMap fun
    | .scanning i x => some (i, x)
    | _ => none

/-- What happens to the executions of the fingerprinters. -/
def identifyings (h : List (Event σ)) : History σ (List Net.Service) :=
  h.filterMap fun
    | .identifying i x => some (i, x)
    | _ => none

/-- What happens to the executions of the detectors. -/
def detectings (h : List (Event σ)) : History σ (List Finding.Report) :=
  h.filterMap fun
    | .detecting i x => some (i, x)
    | _ => none

/-! ## States -/

/-- Where the course of a scan is. -/
inductive Control where
  | begun
  /-- It waits for the port scanner. -/
  | scanning (t : Tracer)
  /-- It waits for the fingerprinters of the services that the port scanner found. -/
  | identifying (t : Tracer) (ports : Net.Survey)
  /-- It selects detectors. -/
  | listing (t : Tracer) (survey : Net.Survey)
  /-- It waits for the detectors. -/
  | detecting (t : Tracer) (survey : Net.Survey)
  | returned (t : Tracer) (r : Finding.Results)
  /-- It will never return. -/
  | lost

/-- The state of a scan: where it is, and the batches of its phases. -/
structure State (σ : Type) where
  start : Time.Timestamp
  moment : Moment σ
  control : Control := .begun
  scanning : Batch σ Net.Survey := {}
  identifying : Batch σ (List Net.Service) := {}
  detecting : Batch σ (List Finding.Report) := {}

/-- The number of slots that are taken. -/
def State.taken (s : State σ) : Nat := s.scanning.taken + s.identifying.taken + s.detecting.taken

namespace Workflow

/-- The ticks after which an execution is late. -/
def limit (w : Workflow σ) : Option Nat := w.pool.deadline.map Time.Span.ticks

/-- The tasks of the first phase: the first port scanner, if there is one. -/
def inspection (w : Workflow σ) (target : Net.Endpoint) : List (Task σ Net.Survey) :=
  (w.registry.portScanners.take 1).map
    fun (c : Chosen (Net.Endpoint → Execution.Activity σ Net.Survey)) => w.task c (c.body target)

/-- The port scanner is decided, and has reported `ports`. -/
def Reported (w : Workflow σ) (ports : Net.Survey) (b : Batch σ Net.Survey) : Prop :=
  ∃ r, b.Joins w.pool.deadline [r] ∧ r.result = .ok ports

/-! ## Steps -/

/-- The scan is about to return with an error, and this is its tracer. -/
inductive Fails (w : Workflow σ) (s : State σ) : Tracer → Error → Prop
  | unregistered (control : s.control = .begun) (missing : w.registry.portScanners = []) :
      Fails w s .fresh (if s.moment.cancelled then cancellation else noPortScanner)
  | scanning {t : Tracer} {r : Record Net.Survey} {e : Error} (control : s.control = .scanning t)
      (joined : s.scanning.Joins w.pool.deadline [r]) (failed : r.result = .error e) :
      Fails w s t (if s.moment.cancelled then cancellation else e)
  | scanned {t : Tracer} {ports : Net.Survey} (control : s.control = .scanning t)
      (reported : w.Reported ports s.scanning) (cancelled : s.moment.cancelled = true) :
      Fails w s t cancellation
  | identified {t : Tracer} {ports : Net.Survey} {identities : List (Record (List Net.Service))}
      (control : s.control = .identifying t ports)
      (joined : s.identifying.Joins w.pool.deadline identities)
      (cancelled : s.moment.cancelled = true) : Fails w s t cancellation
  | listing {t : Tracer} {survey : Net.Survey} (control : s.control = .listing t survey)
      (cancelled : s.moment.cancelled = true) : Fails w s t cancellation
  | detected {t : Tracer} {survey : Net.Survey} {records : List (Record (List Finding.Report))}
      (control : s.control = .detecting t survey)
      (joined : s.detecting.Joins w.pool.deadline records)
      (failed : records.all Record.isSucceeded = false) (cancelled : s.moment.cancelled = true) :
      Fails w s t cancellation

/-- One step of a scan or of one of its executions, and what happens. -/
inductive Step (w : Workflow σ) (target : Net.Endpoint) (s : State σ) :
    List (Event σ) → State σ → Prop
  /-- The clock shows another time. -/
  | passes (now : Nat) : Step w target s [] { s with moment := { s.moment with now := now } }
  /-- The scan is cancelled from outside. -/
  | called : Step w target s [] { s with moment := { s.moment with cancelled := true } }
  | scanning {e : History σ Net.Survey} {m : Moment σ} {b : Batch σ Net.Survey}
      (step : s.scanning.Step w.limit (s.taken < w.pool.slots) s.moment e m b) :
      Step w target s (e.map fun x => .scanning x.1 x.2) { s with moment := m, scanning := b }
  | identifying {e : History σ (List Net.Service)} {m : Moment σ} {b : Batch σ (List Net.Service)}
      (step : s.identifying.Step w.limit (s.taken < w.pool.slots) s.moment e m b) :
      Step w target s (e.map fun x => .identifying x.1 x.2)
        { s with moment := m, identifying := b }
  | detecting {e : History σ (List Finding.Report)} {m : Moment σ}
      {b : Batch σ (List Finding.Report)}
      (step : s.detecting.Step w.limit (s.taken < w.pool.slots) s.moment e m b) :
      Step w target s (e.map fun x => .detecting x.1 x.2) { s with moment := m, detecting := b }
  /-- The port scanner is submitted. -/
  | inspects {c : Chosen (Net.Endpoint → Execution.Activity σ Net.Survey)}
      {cs : List (Chosen (Net.Endpoint → Execution.Activity σ Net.Survey))} {t : Tracer}
      (control : s.control = .begun) (first : w.registry.portScanners = c :: cs)
      (traced : Tracer.fresh.startPortScanning (instant s.moment.now) [Selected.of c] = .ok t) :
      Step w target s []
        { s with control := .scanning t, scanning := { tasks := w.inspection target } }
  /-- The port scanner is decided, and the fingerprinters are submitted. -/
  | identifies {t t' : Tracer} {ports : Net.Survey} (control : s.control = .scanning t)
      (reported : w.Reported ports s.scanning) (uncancelled : s.moment.cancelled = false)
      (traced : t.startFingerprinting (instant s.moment.now)
        ((w.identification ports).map Selected.ofTask) = .ok t') :
      Step w target s []
        { s with control := .identifying t' ports
                 identifying := { tasks := w.identification ports } }
  /-- The fingerprinters are decided. -/
  | surveys {t : Tracer} {ports : Net.Survey} {identities : List (Record (List Net.Service))}
      (control : s.control = .identifying t ports)
      (joined : s.identifying.Joins w.pool.deadline identities)
      (uncancelled : s.moment.cancelled = false) :
      Step w target s [] { s with control := .listing t (w.surveyed ports identities) }
  /-- The detectors are selected and submitted. -/
  | detects {t t' : Tracer} {survey : Net.Survey} {chosen : List (Chosen (Detector σ))}
      {signals : Signals} {m : Moment σ} (control : s.control = .listing t survey)
      (uncancelled : s.moment.cancelled = false)
      (listed : (w.registry.detectorsFor w.selection survey).alone signals s.moment =
        .reached (some (.value chosen)) m)
      (traced : t.startDetecting (instant m.now) (chosen.map Selected.of) = .ok t') :
      Step w target s []
        { s with moment := m
                 control := .detecting t' survey
                 detecting := { tasks := w.detection survey chosen } }
  /-- The selection of detectors is given up. -/
  | givesUp {t : Tracer} {survey : Net.Survey} {signals : Signals} {m : Moment σ}
      (control : s.control = .listing t survey) (uncancelled : s.moment.cancelled = false)
      (listed : (w.registry.detectorsFor w.selection survey).alone signals s.moment =
        .reached none m) : Step w target s [] { s with moment := m }
  /-- The selection of detectors comes to no end, or breaks off. -/
  | breaksOff {t : Tracer} {survey : Net.Survey} (control : s.control = .listing t survey)
      (uncancelled : s.moment.cancelled = false) (m : Moment σ) :
      Step w target s [] { s with moment := m, control := .lost }
  | fails {t : Tracer} {e : Error} (fails : w.Fails s t e) :
      Step w target s [.returned]
        { s with control := .returned (t.forceDone (instant s.moment.now))
                  (.failure e.message s.start ((w.clock s.moment.world).since s.start)) }
  | concludes {t t' : Tracer} {survey : Net.Survey}
      {records : List (Record (List Finding.Report))} (control : s.control = .detecting t survey)
      (joined : s.detecting.Joins w.pool.deadline records)
      (verdict : records.all Record.isSucceeded = true ∨ s.moment.cancelled = false)
      (traced : t.setDone (instant s.moment.now) = .ok t') :
      Step w target s [.returned]
        { s with control := .returned t'
                  (conclude survey records s.start ((w.clock s.moment.world).since s.start)) }

/-- Any number of steps, and all that happens. -/
inductive Path (w : Workflow σ) (target : Net.Endpoint) (s : State σ) :
    List (Event σ) → State σ → Prop
  | start : Path w target s [] s
  | step {h e : List (Event σ)} {s₁ s' : State σ} (path : Path w target s h s₁)
      (step : w.Step target s₁ e s') : Path w target s (h ++ e) s'

/-- A step by the clock: it does not go back, and the scan begins at once. -/
structure Tick (w : Workflow σ) (target : Net.Endpoint) (s : State σ) (e : List (Event σ))
    (s' : State σ) : Prop where
  step : w.Step target s e s'
  onward : s.moment.now ≤ s'.moment.now
  prompt : s.control = .begun → s'.moment.now = s.moment.now

/-- Any number of steps by the clock. -/
inductive Trail (w : Workflow σ) (target : Net.Endpoint) (s : State σ) :
    List (Event σ) → State σ → Prop
  | start : Trail w target s [] s
  | step {h e : List (Event σ)} {s₁ s' : State σ} (trail : Trail w target s h s₁)
      (tick : w.Tick target s₁ e s') : Trail w target s (h ++ e) s'

theorem Trail.path {w : Workflow σ} {target : Net.Endpoint} {s s' : State σ} {h : List (Event σ)}
    (t : w.Trail target s h s') : w.Path target s h s' := by
  induction t with
  | start => exact .start
  | step trail tick ih => exact .step ih tick.step

/-! ## Polls -/

/-- A step by the clock of a scan whose executions move on only when they are polled. -/
inductive Poll (w : Workflow σ) (target : Net.Endpoint) (s : State σ) :
    List (Event σ) → State σ → Prop
  | scanning {e : History σ Net.Survey} {m : Moment σ} {b : Batch σ Net.Survey}
      (tick : s.scanning.Tick w.limit (s.taken < w.pool.slots) s.moment e m b) :
      Poll w target s (e.map fun x => .scanning x.1 x.2) { s with moment := m, scanning := b }
  | identifying {e : History σ (List Net.Service)} {m : Moment σ} {b : Batch σ (List Net.Service)}
      (tick : s.identifying.Tick w.limit (s.taken < w.pool.slots) s.moment e m b) :
      Poll w target s (e.map fun x => .identifying x.1 x.2)
        { s with moment := m, identifying := b }
  | detecting {e : History σ (List Finding.Report)} {m : Moment σ}
      {b : Batch σ (List Finding.Report)}
      (tick : s.detecting.Tick w.limit (s.taken < w.pool.slots) s.moment e m b) :
      Poll w target s (e.map fun x => .detecting x.1 x.2) { s with moment := m, detecting := b }
  /-- The scan itself moves on, or something happens outside. -/
  | besides {e : List (Event σ)} {s' : State σ} (tick : w.Tick target s e s')
      (own : ∀ x ∈ e, x = .returned) : Poll w target s e s'

section

variable {w : Workflow σ} {target : Net.Endpoint} {s s' : State σ} {e : List (Event σ)}

/-- What happens by polls does so by the clock. -/
theorem Poll.tick (poll : w.Poll target s e s') : w.Tick target s e s' := by
  cases poll with
  | scanning tick =>
      exact ⟨.scanning tick.step, Nat.le_of_eq tick.step.now_eq.symm, fun _ => tick.step.now_eq⟩
  | identifying tick =>
      exact ⟨.identifying tick.step, Nat.le_of_eq tick.step.now_eq.symm,
        fun _ => tick.step.now_eq⟩
  | detecting tick =>
      exact ⟨.detecting tick.step, Nat.le_of_eq tick.step.now_eq.symm, fun _ => tick.step.now_eq⟩
  | besides tick own => exact tick

/-- Once the scan is cancelled no logic is called and none goes on: every poll looks at the
cancellation first. -/
theorem Poll.heeds (poll : w.Poll target s e s') (cancelled : s.moment.cancelled = true) :
    ∀ x ∈ e, x.isRun = false := by
  cases poll with
  | scanning tick => exact List.forall_mem_map.2 (tick.heeds cancelled)
  | identifying tick => exact List.forall_mem_map.2 (tick.heeds cancelled)
  | detecting tick => exact List.forall_mem_map.2 (tick.heeds cancelled)
  | besides tick own =>
      intro x hx
      rw [own x hx]
      rfl

end

/-- Any number of polls, and what happens besides. -/
inductive Polls (w : Workflow σ) (target : Net.Endpoint) (s : State σ) :
    List (Event σ) → State σ → Prop
  | start : Polls w target s [] s
  | step {h e : List (Event σ)} {s₁ s' : State σ} (polls : Polls w target s h s₁)
      (poll : w.Poll target s₁ e s') : Polls w target s (h ++ e) s'

theorem Polls.trail {w : Workflow σ} {target : Net.Endpoint} {s s' : State σ} {h : List (Event σ)}
    (p : w.Polls target s h s') : w.Trail target s h s' := by
  induction p with
  | start => exact .start
  | step polls poll ih => exact .step ih poll.tick

end Workflow

end VulnScan.Scan
