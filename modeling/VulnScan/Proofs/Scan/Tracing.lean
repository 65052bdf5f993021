import VulnScan.Proofs.Scan.StepRun

/-! # The tracer throughout a scan

Wherever a scan is, its tracer is in the stage of that phase, so every call that the scan makes to
it is permitted; that holds of all ways in which the executions can be interleaved. And by the
clock the timers of the tracer show all of the time since the start (`Control.Follows`), so they
show the time that the scan took when it returns, in whatever way it does (`Workflow.run_traced`).
-/

set_option autoImplicit false

namespace VulnScan.Scan

open Execution (Batch Course Moment Record Signals)
open Plugin (Chosen Detector)

variable {σ : Type}

/-! ## The tracer of a scan at work -/

/-- While the scan works, its tracer is in the stage of its phase, and `P` holds of it. -/
inductive Control.Follows (P : Tracer → Prop) : Control → Prop
  | begun : Follows P .begun
  | scanning {t : Tracer} (stage : t.stage = .portScanning) (holds : P t) : Follows P (.scanning t)
  | identifying {t : Tracer} {ports : Net.Survey} (stage : t.stage = .fingerprinting)
      (holds : P t) : Follows P (.identifying t ports)
  | listing {t : Tracer} {survey : Net.Survey} (stage : t.stage = .fingerprinting) (holds : P t) :
      Follows P (.listing t survey)
  | detecting {t : Tracer} {survey : Net.Survey} (stage : t.stage = .detecting) (holds : P t) :
      Follows P (.detecting t survey)
  | returned {t : Tracer} {r : Finding.Results} : Follows P (.returned t r)
  | lost : Follows P .lost

/-- What holds of the tracer may become something else. -/
theorem Control.Follows.imp {P P' : Tracer → Prop} {c : Control} (h : c.Follows P)
    (hP : ∀ t, P t → P' t) : c.Follows P' := by
  cases h with
  | begun => exact .begun
  | scanning stage holds => exact .scanning stage (hP _ holds)
  | identifying stage holds => exact .identifying stage (hP _ holds)
  | listing stage holds => exact .listing stage (hP _ holds)
  | detecting stage holds => exact .detecting stage (hP _ holds)
  | returned => exact .returned
  | lost => exact .lost

namespace Workflow

variable {w : Workflow σ} {target : Net.Endpoint} {s s' : State σ} {e h : List (Event σ)}

/-- The scan is about to call its tracer. -/
inductive Calls (w : Workflow σ) (s : State σ) : Tracer → Tracer.Call → Prop
  | inspects (control : s.control = .begun) (found : w.registry.portScanners ≠ []) :
      Calls w s .fresh .startPortScanning
  | identifies {t : Tracer} {ports : Net.Survey} (control : s.control = .scanning t)
      (reported : w.Reported ports s.scanning) (uncancelled : s.moment.cancelled = false) :
      Calls w s t .startFingerprinting
  | detects {t : Tracer} {survey : Net.Survey} {chosen : List (Chosen (Detector σ))}
      {signals : Signals} {m : Moment σ} (control : s.control = .listing t survey)
      (uncancelled : s.moment.cancelled = false)
      (listed : (w.registry.detectorsFor w.selection survey).alone signals s.moment =
        .reached (some (.value chosen)) m) : Calls w s t .startDetecting
  | concludes {t : Tracer} {survey : Net.Survey} {records : List (Record (List Finding.Report))}
      (control : s.control = .detecting t survey)
      (joined : s.detecting.Joins w.pool.deadline records)
      (verdict : records.all Record.isSucceeded = true ∨ s.moment.cancelled = false) :
      Calls w s t .setDone
  /-- The scan asks for the trace as soon as its tracer is done, if it has come to results. -/
  | traces {t t' : Tracer} {survey : Net.Survey} {records : List (Record (List Finding.Report))}
      (control : s.control = .detecting t survey)
      (joined : s.detecting.Joins w.pool.deadline records)
      (verdict : records.all Record.isSucceeded = true ∨ s.moment.cancelled = false)
      (traced : t.setDone (instant s.moment.now) = .ok t') : Calls w s t' .trace

/-- A tracer that follows the scan permits all calls that the scan makes. -/
theorem Calls.permitted {t : Tracer} {call : Tracer.Call} (calls : w.Calls s t call)
    (follows : s.control.Follows Tracer.Sound) : t.Permits call := by
  cases calls with
  | inspects control found => rfl
  | identifies control reported uncancelled =>
      rw [control] at follows
      cases follows with
      | scanning stage sound => exact sound.permits.2.1 stage
  | detects control uncancelled listed =>
      rw [control] at follows
      cases follows with
      | listing stage sound => exact sound.permits.2.2.1 stage
  | concludes control joined verdict =>
      rw [control] at follows
      cases follows with
      | detecting stage sound => exact sound.permits.2.2.2 stage
  | traces control joined verdict traced =>
      obtain ⟨-, rfl⟩ := Tracer.eq_of_expect traced
      rfl

/-- A step keeps the tracer in the stage of the scan. What held of it before holds afterwards, or
what holds after a call to it. -/
theorem Step.follows {P P' : Tracer → Prop} (step : w.Step target s e s') (h : s.control.Follows P)
    (keeps : ∀ t, P t → P' t)
    (scans : ∀ t selected, s.control = .begun → s'.moment = s.moment →
      Tracer.fresh.startPortScanning (instant s.moment.now) selected = .ok t → P' t)
    (identifies : ∀ t t' selected, P' t →
      t.startFingerprinting (instant s'.moment.now) selected = .ok t' → P' t')
    (detects : ∀ t t' selected, P' t →
      t.startDetecting (instant s'.moment.now) selected = .ok t' → P' t') :
    s'.control.Follows P' := by
  cases step with
  | passes now => exact h.imp keeps
  | called => exact h.imp keeps
  | scanning step => exact h.imp keeps
  | identifying step => exact h.imp keeps
  | detecting step => exact h.imp keeps
  | inspects control first traced =>
      refine .scanning ?_ (scans _ _ control rfl traced)
      rw [(Tracer.eq_of_expect traced).2]
  | identifies control reported uncancelled traced =>
      rw [control] at h
      cases h with
      | scanning stage holds =>
          refine .identifying ?_ (identifies _ _ _ (keeps _ holds) traced)
          rw [(Tracer.eq_of_expect traced).2]
  | surveys control joined uncancelled =>
      rw [control] at h
      cases h with
      | identifying stage holds => exact .listing stage (keeps _ holds)
  | detects control uncancelled listed traced =>
      rw [control] at h
      cases h with
      | listing stage holds =>
          refine .detecting ?_ (detects _ _ _ (keeps _ holds) traced)
          rw [(Tracer.eq_of_expect traced).2]
  | givesUp control uncancelled listed => exact h.imp keeps
  | breaksOff control uncancelled m => exact .lost
  | fails fails => exact .returned
  | concludes control joined verdict traced => exact .returned

/-- However the executions are interleaved, the timer of the stage runs, and no other. -/
theorem Path.follows {start : Time.Timestamp} {m : Moment σ}
    (path : w.Path target { start, moment := m } h s) : s.control.Follows Tracer.Sound := by
  induction path with
  | start => exact .begun
  | step path step ih =>
      exact step.follows ih (fun _ => id)
        (fun _ _ _ _ traced => Tracer.sound_fresh.startPortScanning traced)
        (fun _ _ _ sound traced => sound.startFingerprinting traced)
        (fun _ _ _ sound traced => sound.startDetecting traced)

/-! ## The time that a scan takes -/

theorem instant_le {m n : Nat} (h : m ≤ n) : instant m ≤ instant n := Nat.mul_le_mul_right _ h

/-- The timers of the scan show all of the time since it began at `m`. -/
structure Timed (m : Moment σ) (s : State σ) : Prop where
  begun : s.control = .begun → s.moment.now = m.now
  accounts : s.control.Follows fun t => t.Accounts (instant m.now) (instant s.moment.now)

theorem Tick.timed {m : Moment σ} (tick : w.Tick target s e s') (timed : Timed m s) :
    Timed m s' := by
  have honward := instant_le tick.onward
  refine ⟨fun begun => ?_, ?_⟩
  · -- a scan that has not begun its first phase has just been called
    have hbegun : s.control = .begun := by
      have hstep := tick.step
      cases hstep <;> first | exact begun | cases begun
    rw [tick.prompt hbegun, timed.begun hbegun]
  · refine tick.step.follows timed.accounts (fun t accounts => accounts.onward honward) ?_ ?_ ?_
    · intro t selected begun moment traced
      rw [moment, timed.begun begun]
      rw [timed.begun begun] at traced
      exact Tracer.accounts_startPortScanning traced
    · exact fun t t' selected accounts traced => accounts.startFingerprinting traced
    · exact fun t t' selected accounts traced => accounts.startDetecting traced

theorem Trail.le_now (trail : w.Trail target s h s') : s.moment.now ≤ s'.moment.now := by
  induction trail with
  | start => exact Nat.le_refl _
  | step trail tick ih => exact Nat.le_trans ih tick.onward

theorem Trail.timed {start : Time.Timestamp} {m : Moment σ}
    (trail : w.Trail target { start, moment := m } h s) : Timed m s := by
  induction trail with
  | start => exact ⟨fun _ => rfl, .begun⟩
  | step trail tick ih => exact tick.timed ih

/-- Where a scan is about to fail, its tracer can be told so. -/
theorem Fails.complete {m : Moment σ} {t : Tracer} {err : Error} (fails : w.Fails s t err)
    (timed : Timed m s) :
    (t.forceDone (instant s.moment.now)).Complete (instant m.now) (instant s.moment.now) := by
  have haccounts := timed.accounts
  cases fails with
  | unregistered control missing =>
      rw [timed.begun control]
      exact Tracer.complete_forceDone_fresh _
  | scanning control joined failed =>
      rw [control] at haccounts
      cases haccounts with
      | scanning stage accounts => exact accounts.forceDone
  | scanned control reported cancelled =>
      rw [control] at haccounts
      cases haccounts with
      | scanning stage accounts => exact accounts.forceDone
  | identified control joined cancelled =>
      rw [control] at haccounts
      cases haccounts with
      | identifying stage accounts => exact accounts.forceDone
  | listing control cancelled =>
      rw [control] at haccounts
      cases haccounts with
      | listing stage accounts => exact accounts.forceDone
  | detected control joined failed cancelled =>
      rw [control] at haccounts
      cases haccounts with
      | detecting stage accounts => exact accounts.forceDone

/-- A scan that returns has a tracer that is done, and whose timers show the time since `m`. -/
theorem Tick.complete {m : Moment σ} (tick : w.Tick target s [.returned] s') (timed : Timed m s) :
    ∃ t r, s'.control = .returned t r ∧
      t.Complete (instant m.now) (instant s'.moment.now) := by
  have hstep := tick.step
  generalize he : [Event.returned] = e at hstep
  -- of all steps only the last two return
  cases hstep with
  | passes now => cases he
  | called => cases he
  | scanning step =>
      obtain ⟨x, -, hx⟩ := List.mem_map.1 (he ▸ List.mem_singleton_self _)
      cases hx
  | identifying step =>
      obtain ⟨x, -, hx⟩ := List.mem_map.1 (he ▸ List.mem_singleton_self _)
      cases hx
  | detecting step =>
      obtain ⟨x, -, hx⟩ := List.mem_map.1 (he ▸ List.mem_singleton_self _)
      cases hx
  | inspects control first traced => cases he
  | identifies control reported uncancelled traced => cases he
  | surveys control joined uncancelled => cases he
  | detects control uncancelled listed traced => cases he
  | givesUp control uncancelled listed => cases he
  | breaksOff control uncancelled m => cases he
  | fails fails => exact ⟨_, _, rfl, fails.complete timed⟩
  | concludes control joined verdict traced =>
      have haccounts := timed.accounts
      rw [control] at haccounts
      cases haccounts with
      | detecting stage accounts => exact ⟨_, _, rfl, accounts.setDone traced⟩

/-- **The tracer is used as it demands, and accounts for all of the time.** However the executions
of a scan are interleaved, every call that the scan makes to its tracer is permitted: the stages
are entered in their order, with the timers that the tracer expects to run, and the trace is asked
for only in the end. When the scan returns, as successful, failed or cancelled, the tracer is
complete: the scan is done, no timer runs, and the timers of the phases together show the time that
the scan took. So it is with the run of a scan, whatever signals come. -/
theorem run_traced (w : Workflow σ) (target : Net.Endpoint) (m : Moment σ) :
    (∀ h s t call, w.Path target { start := w.clock m.world, moment := m } h s →
      w.Calls s t call → t.Permits call) ∧
    (∀ h s s', w.Trail target { start := w.clock m.world, moment := m } h s →
      w.Tick target s [.returned] s' → ∃ t r, s'.control = .returned t r ∧
        t.Complete (instant m.now) (instant s'.moment.now)) ∧
    ∀ signals, (w.run target signals m).Meets
      (fun out m' => m.now ≤ m'.now ∧ out.1.Complete (instant m.now) (instant m'.now))
      (w.Excused target signals) := by
  refine ⟨fun h s t call path calls => calls.permitted path.follows,
    fun h s s' trail tick => tick.complete trail.timed, fun signals => ?_⟩
  refine ((w.run_polls target signals m).and (w.run_meets target signals m)).imp ?_
    fun br hbr => hbr.2
  rintro ⟨t, r⟩ m' - ⟨⟨h, s, polls, s', poll, control, rfl⟩, -⟩
  obtain ⟨t', r', control', complete⟩ := poll.tick.complete polls.trail.timed
  rw [control] at control'
  cases control'
  exact ⟨(polls.step poll).trail.le_now, complete⟩

end Workflow

end VulnScan.Scan
