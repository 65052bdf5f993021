import VulnScan.Proofs.Execution.Calling
import VulnScan.Proofs.Scan.Cancellation
import VulnScan.Proofs.Scan.Tracing

/-! # Scans that are cancelled before they begin

A scan that is cancelled before it begins does nothing: it submits its port scanner, if it has one,
and returns as a cancelled scan when that is dismissed. However its steps are interleaved, no logic
is called, no plugins are listed and the world stays as it is (`Workflow.Polls.still`), and the run
of the scan ends at the moment at which it began (`Workflow.run_of_cancelled`). A scan that is not
cancelled, on the other hand, is not cancelled by its end: it takes a plugin or somebody outside to
call for that (`Workflow.run_calm`).
-/

set_option autoImplicit false

namespace VulnScan.Scan

open Execution (Activity Batch Moment Session Signals)

variable {σ : Type}

/-! ## Nothing happens -/

/-- The tracer knows of no fingerprinter and of no detector. -/
structure Tracer.Unselected (t : Tracer) : Prop where
  fingerprinting : t.fingerprinting.selected = []
  detecting : t.detecting.selected = []

/-- Nothing has been done but to submit the port scanner, or to return as a cancelled scan. -/
inductive Control.Idle : Control → Prop
  | begun : Idle .begun
  | scanning {t : Tracer} (unselected : t.Unselected) : Idle (.scanning t)
  | returned {t : Tracer} {r : Finding.Results} (stage : t.stage = .done)
      (unselected : t.Unselected) (failed : FailedAsCancelled r) : Idle (.returned t r)

/-- Nothing has been done in a scan that was cancelled before it began at `m`. -/
structure Still (m : Moment σ) (s : State σ) : Prop where
  cancelled : s.moment.cancelled = true
  world : s.moment.world = m.world
  control : s.control.Idle
  identifying : s.identifying = {}
  detecting : s.detecting = {}

/-- No logic has been called, and no fingerprinter and no detector has been submitted. -/
structure Uneventful (h : List (Event σ)) : Prop where
  quiet : ∀ x ∈ h, x.isRun = false
  identifying : identifyings h = []
  detecting : detectings h = []

theorem Uneventful.append {h e : List (Event σ)} (hh : Uneventful h) (he : Uneventful e) :
    Uneventful (h ++ e) where
  quiet x hx := (List.mem_append.1 hx).elim (hh.quiet x) (he.quiet x)
  identifying := by rw [identifyings_append, hh.identifying, he.identifying, List.append_nil]
  detecting := by rw [detectings_append, hh.detecting, he.detecting, List.append_nil]

theorem uneventful_nil : Uneventful ([] : List (Event σ)) := ⟨by simp, rfl, rfl⟩

theorem failedAsCancelled (start : Time.Timestamp) (duration : Time.Span) :
    FailedAsCancelled (.failure cancellation.message start duration) := ⟨rfl, rfl, rfl, rfl, rfl⟩

namespace Workflow

variable {w : Workflow σ} {target : Net.Endpoint} {s s' : State σ} {e h : List (Event σ)}
  {m : Moment σ}

/-- A scan that is cancelled and about to fail does so as a cancelled scan. -/
theorem Fails.eq_cancellation {t : Tracer} {err : Error} (fails : w.Fails s t err)
    (cancelled : s.moment.cancelled = true) : err = cancellation := by
  cases fails with
  | unregistered control missing => rw [if_pos cancelled]
  | scanning control joined failed => rw [if_pos cancelled]
  | scanned control reported cancelled => rfl
  | identified control joined cancelled => rfl
  | listing control cancelled => rfl
  | detected control joined failed cancelled => rfl

/-- A step of a scan in which nothing has been done does nothing either. -/
theorem Poll.still (poll : w.Poll target s e s') (still : Still m s) :
    Still m s' ∧ Uneventful e := by
  obtain ⟨cancelled, world, control, identifying, detecting⟩ := still
  have hquiet := poll.heeds cancelled
  have step := poll.tick.step
  have huncancelled : s.moment.cancelled ≠ false := by
    rw [cancelled]
    exact Bool.noConfusion
  cases step with
  | passes now => exact ⟨⟨cancelled, world, control, identifying, detecting⟩, uneventful_nil⟩
  | called => exact ⟨⟨rfl, world, control, identifying, detecting⟩, uneventful_nil⟩
  | @scanning e m' b step =>
      have hquiet' : ∀ x ∈ e, x.2.isRun = false := fun x hx =>
        hquiet _ (List.mem_map_of_mem hx)
      obtain rfl := step.moment_eq hquiet'
      exact ⟨⟨cancelled, world, control, identifying, detecting⟩, hquiet, by
        rw [identifyings, List.filterMap_map]
        exact List.filterMap_eq_nil_iff.2 fun _ _ => rfl, by
        rw [detectings, List.filterMap_map]
        exact List.filterMap_eq_nil_iff.2 fun _ _ => rfl⟩
  | identifying step =>
      rw [identifying] at step
      exact absurd step Batch.done_empty.not_step
  | detecting step =>
      rw [detecting] at step
      exact absurd step Batch.done_empty.not_step
  | inspects begun first traced =>
      obtain ⟨-, rfl⟩ := Tracer.eq_of_expect traced
      exact ⟨⟨cancelled, world, .scanning ⟨rfl, rfl⟩, identifying, detecting⟩, uneventful_nil⟩
  | identifies scanning reported uncancelled traced => exact absurd uncancelled huncancelled
  | surveys identified joined uncancelled => exact absurd uncancelled huncancelled
  | detects listing uncancelled listed traced => exact absurd uncancelled huncancelled
  | givesUp listing uncancelled listed => exact absurd uncancelled huncancelled
  | breaksOff listing uncancelled m => exact absurd uncancelled huncancelled
  | @fails t err fails =>
      -- a scan in which nothing has been done can fail only in its first phase
      have hunselected : t.Unselected := by
        cases fails with
        | unregistered begun missing => exact ⟨rfl, rfl⟩
        | scanning scanning joined failed =>
            rw [scanning] at control
            cases control with
            | scanning unselected => exact unselected
        | scanned scanning reported _ =>
            rw [scanning] at control
            cases control with
            | scanning unselected => exact unselected
        | identified identified joined _ =>
            rw [identified] at control
            cases control
        | listing listing _ =>
            rw [listing] at control
            cases control
        | detected detected joined failed _ =>
            rw [detected] at control
            cases control
      rw [fails.eq_cancellation cancelled]
      refine ⟨⟨cancelled, world, .returned rfl ⟨?_, ?_⟩ (failedAsCancelled _ _), identifying,
        detecting⟩, hquiet, rfl, rfl⟩
      · exact hunselected.fingerprinting
      · exact hunselected.detecting
  | concludes detected joined verdict traced =>
      rw [detected] at control
      cases control

/-- **A scan that is cancelled before it begins does nothing**, however its steps are
interleaved. -/
theorem Polls.still {start : Time.Timestamp} (hm : m.cancelled = true)
    (polls : w.Polls target { start, moment := m } h s) : Still m s ∧ Uneventful h := by
  induction polls with
  | start => exact ⟨⟨hm, rfl, .begun, rfl, rfl⟩, uneventful_nil⟩
  | step polls poll ih =>
      obtain ⟨still, uneventful⟩ := ih
      obtain ⟨still', uneventful'⟩ := poll.still still
      exact ⟨still', uneventful.append uneventful'⟩

/-! ## The run of a scan that is cancelled -/

/-- The first phase of a cancelled scan fails at once. -/
theorem scanPorts_of_cancelled (w : Workflow σ) (target : Net.Endpoint) (hm : m.cancelled = true) :
    ∃ t err, t.Unselected ∧
      (t.forceDone (instant m.now)).Complete (instant m.now) (instant m.now) ∧
      ∀ signals, w.scanPorts target signals m = .reached (t, .error err) m := by
  unfold scanPorts
  cases hc : w.registry.portScanners with
  | nil =>
      exact ⟨.fresh, noPortScanner, ⟨rfl, rfl⟩, Tracer.complete_forceDone_fresh _, fun _ => rfl⟩
  | cons c cs =>
      obtain ⟨t, traced⟩ : ∃ t,
          Tracer.fresh.startPortScanning (instant m.now) [Selected.of c] = .ok t := ⟨_, rfl⟩
      have hunselected : t.Unselected := by
        obtain ⟨-, rfl⟩ := Tracer.eq_of_expect traced
        exact ⟨rfl, rfl⟩
      refine ⟨t, Execution.blame c.plugin Execution.cancellation, hunselected,
        (Tracer.accounts_startPortScanning traced).forceDone, fun signals => ?_⟩
      refine Session.bind_eq_reached.2 ⟨t, m, traced_eq traced, ?_⟩
      refine Session.bind_eq_reached.2 ⟨_, m, w.pool.execute_of_cancelled _ signals hm, ?_⟩
      rfl

/-- **The run of a scan that is cancelled before it begins** ends at once, and as a cancelled scan,
whatever plugins there are. -/
theorem run_of_cancelled (w : Workflow σ) (target : Net.Endpoint) (hm : m.cancelled = true) :
    ∃ t r, t.Complete (instant m.now) (instant m.now) ∧ t.Unselected ∧ FailedAsCancelled r ∧
      ∀ signals, w.run target signals m = .reached (t, r) m := by
  obtain ⟨t, err, hunselected, hcomplete, hscan⟩ := w.scanPorts_of_cancelled target hm
  have hphases : ∀ signals, w.phases target signals m = .reached (t, .error cancellation) m := by
    intro signals
    refine Session.bind_eq_reached.2 ⟨_, m, hscan signals, ?_⟩
    refine Session.bind_eq_reached.2 ⟨_, m, isCancelled_apply, ?_⟩
    rw [if_pos hm]
    rfl
  refine ⟨t.forceDone (instant m.now), _, hcomplete,
    ⟨hunselected.fingerprinting, hunselected.detecting⟩,
    failedAsCancelled (w.clock m.world) ((w.clock m.world).since (w.clock m.world)),
    fun signals => ?_⟩
  refine Session.bind_eq_reached.2 ⟨m, m, rfl, ?_⟩
  refine Session.bind_eq_reached.2 ⟨_, m, hphases signals, ?_⟩
  exact Session.bind_eq_reached.2 ⟨m, m, rfl, rfl⟩

/-! ## Scans that nobody cancels -/

theorem traced_calm {step : (now : Nat) → Except Misuse Tracer} {signals : Signals} :
    (traced step).Calm signals m := by
  refine Session.Calm.moment.bind fun m₁ m' _ => ?_
  cases step (instant m₁.now) with
  | ok t => exact .pure t
  | error misuse => exact .collapse _

theorem isCancelled_calm {signals : Signals} : isCancelled.Calm signals m :=
  Session.Calm.moment.bind fun _ _ _ => .pure _

section

variable {signals : Signals} (quiet : signals.cancelAt = none)
  (calm : ∀ e ∈ w.registry.entries, e.body.All fun _ a => ¬ a.MayCancel)

include quiet calm

theorem scanPorts_calm : (w.scanPorts target).Calm signals m := by
  unfold scanPorts
  cases hc : w.registry.portScanners with
  | nil => exact .pure _
  | cons c cs =>
      have hscan : ¬ (c.body target).MayCancel := by
        refine scanner_inherits calm ?_ target
        rw [hc]
        exact List.mem_cons_self
      refine traced_calm.bind fun t m₁ _ => ?_
      refine (w.pool.execute_calm quiet fun t ht => ?_).bind fun records m₂ _ => ?_
      · rw [List.mem_singleton.1 ht]
        exact hscan
      · split <;> exact .pure _

theorem fingerprint_calm {t : Tracer} {ports : Net.Survey} :
    (w.fingerprint t ports).Calm signals m := by
  refine traced_calm.bind fun t m₁ _ => ?_
  exact (w.pool.execute_calm quiet (identification_inherits calm ports)).bind
    fun records m₂ _ => .pure _

theorem detect_calm {t : Tracer} {survey : Net.Survey} : (w.detect t survey).Calm signals m := by
  have hselects := Plugin.Registry.detectorsFor_inherits Activity.calm_composes calm w.selection
    survey
  unfold detect
  refine isCancelled_calm.bind fun cancelled m₁ _ => ?_
  split
  · exact .pure _
  refine (Activity.alone_calm quiet hselects m₁).bind fun o m₂ ho => ?_
  have hends := ((w.registry.detectorsFor w.selection survey).alone_meets signals
    m₁).of_reached ho
  rcases o with _ | o
  · exact .pure _
  cases o with
  | fault e => exact .pure _
  | collapse message => exact .collapse message
  | value chosen =>
      refine traced_calm.bind fun t m₃ _ => ?_
      exact (w.pool.execute_calm quiet
        (detection_inherits calm Activity.calm_composes (hends.mayEnd _ rfl))).bind
        fun records m₄ _ => .pure _

theorem afterPorts_calm {t : Tracer} {ports : Net.Survey} :
    (w.afterPorts t ports).Calm signals m := by
  unfold afterPorts
  refine isCancelled_calm.bind fun cancelled m₁ _ => ?_
  split
  · exact .pure _
  refine (fingerprint_calm quiet calm).bind fun out m₂ _ => ?_
  refine isCancelled_calm.bind fun cancelled m₃ _ => ?_
  split
  · exact .pure _
  refine (detect_calm quiet calm).bind fun out m₄ _ => ?_
  split
  · exact .pure _
  · refine isCancelled_calm.bind fun cancelled m₅ _ => ?_
    split
    · exact .pure _
    · exact traced_calm.bind fun t m₆ _ => .pure _

/-- **A scan does not cancel itself.** Wherever it ends, it has been cancelled before or from
outside, if no plugin calls for that. -/
theorem run_calm : (w.run target).Calm signals m := by
  refine Session.Calm.moment.bind fun m₁ _ _ => ?_
  refine Session.Calm.bind ?_ fun out m₂ _ => ?_
  · refine (scanPorts_calm quiet calm).bind fun out m₂ _ => ?_
    split
    · exact isCancelled_calm.bind fun cancelled m₃ _ => .pure _
    · exact afterPorts_calm quiet calm
  · refine Session.Calm.moment.bind fun m₃ _ _ => ?_
    split <;> exact .pure _

end

end Workflow

end VulnScan.Scan
