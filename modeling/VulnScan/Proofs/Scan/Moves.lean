import VulnScan.Proofs.Scan.Timers

/-! # Calls that move a tracer

A tracer accepts a call only in the stage before the one that the call leads to, except that it can
be moved to the end from everywhere (`Tracer.take_accepted_iff`). A call first insists on its stage
and on what the timers do, and then changes the tracer line by line (`Tracer.Move.work`); where the
timers are sound it comes to the same as a call that is taken as a whole, so its assertions about
the timers hold whenever the stage is right (`Tracer.work_eq`). Of the parts of the scan that have
been reached a call only stops the timers (`Tracer.phase_of_take`).
-/

set_option autoImplicit false

namespace VulnScan.Scan

/-- The stage that follows a stage. -/
def Stage.next? : Stage → Option Stage
  | .start => some .portScanning
  | .portScanning => some .fingerprinting
  | .fingerprinting => some .detecting
  | .detecting => some .done
  | .done => none

/-- The number of stages before a stage. -/
def Stage.rank : Stage → Nat
  | .start => 0
  | .portScanning => 1
  | .fingerprinting => 2
  | .detecting => 3
  | .done => 4

namespace Tracer

variable {start now : Nat} {t t' : Tracer}

/-! ## Calls that move a tracer -/

/-- The parts of a scan, each with a timer and a selection of plugins. -/
inductive Part where
  | portScanning
  | fingerprinting
  | detecting

/-- The stage in which a part of the scan is at work. -/
def Part.stage : Part → Stage
  | .portScanning => .portScanning
  | .fingerprinting => .fingerprinting
  | .detecting => .detecting

/-- What a tracer knows about a part of the scan. -/
def phase (t : Tracer) : Part → Phase
  | .portScanning => t.portScanning
  | .fingerprinting => t.fingerprinting
  | .detecting => t.detecting

/-- Changes what a tracer knows about a part of the scan. -/
def update (f : Phase → Phase) (t : Tracer) : Part → Tracer
  | .portScanning => { t with portScanning := f t.portScanning }
  | .fingerprinting => { t with fingerprinting := f t.fingerprinting }
  | .detecting => { t with detecting := f t.detecting }

/-- The calls that move a tracer from one stage to another. -/
inductive Move where
  | begin (part : Part) (selected : List Selected)
  | setDone
  | forceDone

/-- The stage that a call leads to. -/
def Move.target : Move → Stage
  | .begin part _ => part.stage
  | .setDone => .done
  | .forceDone => .done

/-- What a tracer makes of a call. -/
def take (now : Nat) (t : Tracer) : Move → Except Misuse Tracer
  | .begin .portScanning selected => t.startPortScanning now selected
  | .begin .fingerprinting selected => t.startFingerprinting now selected
  | .begin .detecting selected => t.startDetecting now selected
  | .setDone => t.setDone now
  | .forceDone => .ok (t.forceDone now)

/-- A call is accepted if it leads to the next stage, or to the end by force. -/
theorem take_accepted_iff {move : Move} : (∃ t', t.take now move = .ok t') ↔
    move = .forceDone ∨ t.stage.next? = some move.target := by
  obtain ⟨stage, _, _, _⟩ := t
  rcases move with ⟨_ | _ | _, selected⟩ | _ | _ <;> cases stage <;>
    simp [take, startPortScanning, startFingerprinting, startDetecting, setDone, expect,
      Stage.next?, Move.target, Part.stage]

/-- What it is to accept a call: the stages before and after, and how the tracer changes. -/
inductive Accepted (now : Nat) (t t' : Tracer) : Move → Prop
  | portScanning {selected : List Selected} (before : t.stage = .start)
      (after : t'.stage = .portScanning) (traced : t.startPortScanning now selected = .ok t') :
      Accepted now t t' (.begin .portScanning selected)
  | fingerprinting {selected : List Selected} (before : t.stage = .portScanning)
      (after : t'.stage = .fingerprinting) (traced : t.startFingerprinting now selected = .ok t') :
      Accepted now t t' (.begin .fingerprinting selected)
  | detecting {selected : List Selected} (before : t.stage = .fingerprinting)
      (after : t'.stage = .detecting) (traced : t.startDetecting now selected = .ok t') :
      Accepted now t t' (.begin .detecting selected)
  | setDone (before : t.stage = .detecting) (after : t'.stage = .done)
      (traced : t.setDone now = .ok t') : Accepted now t t' .setDone
  | forceDone (traced : t' = t.forceDone now) : Accepted now t t' .forceDone

theorem accepted_of_take {move : Move} (h : t.take now move = .ok t') : Accepted now t t' move := by
  cases move with
  | begin part selected =>
      cases part with
      | portScanning =>
          have hstep : t.startPortScanning now selected = .ok t' := h
          obtain ⟨hstage, rfl⟩ := eq_of_expect hstep
          exact .portScanning hstage rfl hstep
      | fingerprinting =>
          have hstep : t.startFingerprinting now selected = .ok t' := h
          obtain ⟨hstage, rfl⟩ := eq_of_expect hstep
          exact .fingerprinting hstage rfl hstep
      | detecting =>
          have hstep : t.startDetecting now selected = .ok t' := h
          obtain ⟨hstage, rfl⟩ := eq_of_expect hstep
          exact .detecting hstage rfl hstep
  | setDone =>
      have hstep : t.setDone now = .ok t' := h
      obtain ⟨hstage, rfl⟩ := eq_of_expect hstep
      exact .setDone hstage rfl hstep
  | forceDone => exact .forceDone (Except.ok.inj h).symm

/-- All that a tracer can have against a call is its stage. -/
theorem misuse_of_take {move : Move} {m : Misuse} (h : t.take now move = .error m) :
    m = .illegalStep t.stage := by
  have hexpect : ∀ stage next, t.expect stage next = .error m → m = .illegalStep t.stage := by
    intro stage next hrefused
    unfold expect at hrefused
    split at hrefused
    · cases hrefused
    · exact (Except.error.inj hrefused).symm
  rcases move with ⟨_ | _ | _, selected⟩ | _ | _
  · exact hexpect _ _ h
  · exact hexpect _ _ h
  · exact hexpect _ _ h
  · exact hexpect _ _ h
  · cases h

/-! ## Calls line by line -/

/-- Why a call breaks off: it is out of order, or what it asserts about the timers is wrong. -/
inductive Refusal where
  | misuse (m : Misuse)
  | wrongTimer

/-- A piece of a call: it changes the tracer and may break off, and then what it has changed stays
changed. -/
abbrev Work : Type → Type := ExceptT Refusal (StateM Tracer)

namespace Work

/-- Insists on the stage. -/
def checkStage (stage : Stage) : Work Unit := do
  let t ← get
  if t.stage = stage then pure () else throw (.misuse (.illegalStep t.stage))

/-- Insists on what the timer of a part does. -/
def assertRunning (part : Part) (running : Bool) : Work Unit := do
  let t ← get
  if (t.phase part).watch.isRunning = running then pure () else throw .wrongTimer

/-- Starts the timer of a part. -/
def startTimer (now : Nat) (part : Part) : Work Unit :=
  modify fun t => update (fun p => { p with watch := p.watch.start now }) t part

/-- Stops the timer of a part. -/
def stopTimer (now : Nat) (part : Part) : Work Unit :=
  modify fun t => update (fun p => { p with watch := p.watch.stop now }) t part

/-- Records the plugins that were selected for a part. -/
def record (selected : List Selected) (part : Part) : Work Unit :=
  modify fun t => update (fun p => { p with selected }) t part

/-- Enters a stage. -/
def enter (stage : Stage) : Work Unit := modify fun t => { t with stage }

variable {next : Work Unit}

theorem run_checkStage (stage : Stage) (t : Tracer) :
    (checkStage stage >>= fun _ => next).run.run t =
      if t.stage = stage then next.run.run t
      else (.error (.misuse (.illegalStep t.stage)), t) := by
  have hlooked : (checkStage stage >>= fun _ => next).run.run t =
      ((if t.stage = stage then pure () else throw (.misuse (.illegalStep t.stage)) : Work Unit)
        >>= fun _ => next).run.run t := rfl
  rw [hlooked]
  split <;> rfl

theorem run_assertRunning (part : Part) (running : Bool) (t : Tracer) :
    (assertRunning part running >>= fun _ => next).run.run t =
      if (t.phase part).watch.isRunning = running then next.run.run t
      else (.error .wrongTimer, t) := by
  have hlooked : (assertRunning part running >>= fun _ => next).run.run t =
      ((if (t.phase part).watch.isRunning = running then pure () else throw .wrongTimer : Work Unit)
        >>= fun _ => next).run.run t := rfl
  rw [hlooked]
  split <;> rfl

end Work

open Work in
/-- What a tracer does when it is called, line by line. -/
def Move.work (now : Nat) : Move → Work Unit
  | .begin .portScanning selected => do
    checkStage .start
    startTimer now .portScanning
    enter .portScanning
    record selected .portScanning
  | .begin .fingerprinting selected => do
    checkStage .portScanning
    assertRunning .portScanning true
    stopTimer now .portScanning
    startTimer now .fingerprinting
    enter .fingerprinting
    record selected .fingerprinting
  | .begin .detecting selected => do
    checkStage .fingerprinting
    assertRunning .fingerprinting true
    stopTimer now .fingerprinting
    startTimer now .detecting
    enter .detecting
    record selected .detecting
  | .setDone => do
    checkStage .detecting
    assertRunning .portScanning false
    assertRunning .fingerprinting false
    assertRunning .detecting true
    stopTimer now .detecting
    enter .done
  | .forceDone => do
    stopTimer now .portScanning
    stopTimer now .fingerprinting
    stopTimer now .detecting
    enter .done

/-- The timer of a part is found running exactly in the stage of that part. -/
theorem Sound.isRunning_eq (h : t.Sound) (part : Part) :
    (t.phase part).watch.isRunning = decide (t.stage = part.stage) := by
  cases part with
  | portScanning => exact h.scanning
  | fingerprinting => exact h.identifying
  | detecting => exact h.detecting

/-- What is asserted about a timer is right if it fits the stage. -/
theorem Sound.run_assertRunning (h : t.Sound) {stage : Stage} (hstage : t.stage = stage)
    (part : Part) (running : Bool) (fits : decide (stage = part.stage) = running)
    {next : Work Unit} :
    (Work.assertRunning part running >>= fun _ => next).run.run t = next.run.run t := by
  have hrunning : (t.phase part).watch.isRunning = running := by
    rw [h.isRunning_eq, hstage, fits]
  rw [Work.run_assertRunning, if_pos hrunning]

/-- A call that insists on the stage, and in this stage does line by line what it does at once. -/
theorem run_checkStage_eq {stage : Stage} {next : Tracer} {rest : Work Unit}
    (rest_eq : t.stage = stage → rest.run.run t = (.ok (), next)) :
    (Work.checkStage stage >>= fun _ => rest).run.run t =
      match t.expect stage next with
      | .ok t' => (.ok (), t')
      | .error m => (.error (.misuse m), t) := by
  rw [Work.run_checkStage, expect]
  split
  · next hstage => exact rest_eq hstage
  · rfl

/-- A tracer whose timers are sound takes a call as a whole: if it refuses, it does so for its
stage and before it has changed anything. -/
theorem work_eq (h : t.Sound) (now : Nat) (move : Move) : (move.work now).run.run t =
    match t.take now move with
    | .ok t' => (.ok (), t')
    | .error m => (.error (.misuse m), t) := by
  cases move with
  | begin part selected =>
      cases part with
      | portScanning => exact run_checkStage_eq fun _ => rfl
      | fingerprinting =>
          refine run_checkStage_eq fun hstage => ?_
          rw [h.run_assertRunning hstage .portScanning true rfl]
          rfl
      | detecting =>
          refine run_checkStage_eq fun hstage => ?_
          rw [h.run_assertRunning hstage .fingerprinting true rfl]
          rfl
  | setDone =>
      refine run_checkStage_eq fun hstage => ?_
      rw [h.run_assertRunning hstage .portScanning false rfl,
        h.run_assertRunning hstage .fingerprinting false rfl,
        h.run_assertRunning hstage .detecting true rfl]
      rfl
  | forceDone => rfl

/-! ## Parts of the scan that have been reached -/

theorem Sound.isRunning_iff (h : t.Sound) (part : Part) :
    (t.phase part).watch.isRunning = true ↔ t.stage = part.stage := by
  rw [h.isRunning_eq, decide_eq_true_iff]

theorem rank_le_of_take {move : Move} (accepted : t.take now move = .ok t') :
    t.stage.rank ≤ t'.stage.rank := by
  have hcall := accepted_of_take accepted
  cases hcall with
  | portScanning before after traced => rw [before, after]; decide
  | fingerprinting before after traced => rw [before, after]; decide
  | detecting before after traced => rw [before, after]; decide
  | setDone before after traced => rw [before, after]; decide
  | forceDone traced =>
      rw [traced]
      show t.stage.rank ≤ 4
      cases t.stage <;> decide

/-- A call leaves a part of the scan that has been reached as it is, or stops its timer. -/
theorem phase_of_take {move : Move} {part : Part} (accepted : t.take now move = .ok t')
    (reached : part.stage.rank ≤ t.stage.rank) :
    t'.phase part = t.phase part ∨ t'.phase part = (t.phase part).finish now := by
  have hcall := accepted_of_take accepted
  cases hcall with
  | portScanning before after traced =>
      rw [before] at reached
      cases part <;> exact absurd reached (by decide)
  | fingerprinting before after traced =>
      obtain rfl := (eq_of_expect traced).2
      rw [before] at reached
      cases part with
      | portScanning => exact .inr rfl
      | fingerprinting => exact absurd reached (by decide)
      | detecting => exact absurd reached (by decide)
  | detecting before after traced =>
      obtain rfl := (eq_of_expect traced).2
      rw [before] at reached
      cases part with
      | portScanning => exact .inl rfl
      | fingerprinting => exact .inr rfl
      | detecting => exact absurd reached (by decide)
  | setDone before after traced =>
      obtain rfl := (eq_of_expect traced).2
      cases part with
      | portScanning => exact .inl rfl
      | fingerprinting => exact .inl rfl
      | detecting => exact .inr rfl
  | forceDone traced =>
      subst traced
      cases part <;> exact .inr rfl

/-- The selection of a part of the scan that has been reached stays. -/
theorem selected_of_take {move : Move} {part : Part} (accepted : t.take now move = .ok t')
    (reached : part.stage.rank ≤ t.stage.rank) :
    (t'.phase part).selected = (t.phase part).selected := by
  rcases phase_of_take accepted reached with h | h <;> rw [h]
  rfl

theorem Sound.isRunning_of_past {part : Part} (h : t.Sound)
    (past : part.stage.rank < t.stage.rank) : (t.phase part).watch.isRunning = false := by
  rw [← Bool.not_eq_true, h.isRunning_iff]
  intro hstage
  rw [hstage] at past
  exact absurd past (Nat.lt_irrefl _)

/-- A part of the scan that is over stays as it is, its timer included. -/
theorem Sound.phase_of_take {move : Move} {part : Part} (h : t.Sound)
    (accepted : t.take now move = .ok t') (past : part.stage.rank < t.stage.rank) :
    t'.phase part = t.phase part := by
  rcases Tracer.phase_of_take accepted (Nat.le_of_lt past) with hphase | hphase
  · exact hphase
  · rw [hphase, Phase.finish, Time.Stopwatch.stop_of_not_isRunning (h.isRunning_of_past past)]

/-- A call that begins a part of the scan records its selection. -/
theorem begun_of_take {part : Part} {selected : List Selected}
    (accepted : t.take now (.begin part selected) = .ok t') :
    t'.stage = part.stage ∧ (t'.phase part).selected = selected := by
  have hcall := accepted_of_take accepted
  cases hcall with
  | portScanning before after traced =>
      obtain rfl := (eq_of_expect traced).2
      exact ⟨rfl, rfl⟩
  | fingerprinting before after traced =>
      obtain rfl := (eq_of_expect traced).2
      exact ⟨rfl, rfl⟩
  | detecting before after traced =>
      obtain rfl := (eq_of_expect traced).2
      exact ⟨rfl, rfl⟩

theorem Complete.sound {stop : Nat} (h : t.Complete start stop) : t.Sound := by
  obtain ⟨hstage, ⟨h₁, h₂, h₃⟩, -, -⟩ := h
  refine ⟨?_, ?_, ?_⟩
  · rw [h₁, hstage]
    rfl
  · rw [h₂, hstage]
    rfl
  · rw [h₃, hstage]
    rfl

/-- To move a tracer to the end that is there already changes nothing. -/
theorem Complete.forceDone_eq {stop : Nat} (h : t.Complete start stop) (now : Nat) :
    t.forceDone now = t := by
  obtain ⟨hstage, ⟨h₁, h₂, h₃⟩, -, -⟩ := h
  simp only [Tracer.forceDone, Phase.finish, Time.Stopwatch.stop_of_not_isRunning h₁,
    Time.Stopwatch.stop_of_not_isRunning h₂, Time.Stopwatch.stop_of_not_isRunning h₃, ← hstage]

/-- A tracer that is done accepts no call but to be moved to the end, where it is already. -/
theorem Complete.eq_of_take {move : Move} {stop : Nat} (h : t.Complete start stop)
    (accepted : t.take now move = .ok t') : move = .forceDone ∧ t' = t := by
  have hcall := accepted_of_take accepted
  have hstage := h.stage
  cases hcall with
  | portScanning before after traced =>
      rw [hstage] at before
      cases before
  | fingerprinting before after traced =>
      rw [hstage] at before
      cases before
  | detecting before after traced =>
      rw [hstage] at before
      cases before
  | setDone before after traced =>
      rw [hstage] at before
      cases before
  | forceDone traced => exact ⟨rfl, traced.trans (h.forceDone_eq now)⟩

end Tracer

end VulnScan.Scan
