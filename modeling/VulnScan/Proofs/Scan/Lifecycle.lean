import Mathlib.Data.List.Induction
import VulnScan.Proofs.Scan.Moves

/-! # The life of a tracer

A tracer takes whatever calls come, in any order and with any time in between (`Tracer.run`). What
it has come to by then is one of four standings (`Tracer.Stands`): it has not begun, it is at work
and its timers account for all of the time, or it is done, with or without having begun. From these
follows what its users rely on (`Tracer.run_orderly`).
-/

set_option autoImplicit false

namespace VulnScan.Scan.Tracer

variable {start now : Nat} {t t' : Tracer}

/-! ## Histories -/

/-- What happens around a tracer: time passes, or it is called. -/
inductive Event where
  | passes (nanos : Nat)
  | called (move : Move)

/-- A tracer at some moment. -/
structure Situation where
  now : Nat
  tracer : Tracer

namespace Situation

/-- The tracer accepts the call. -/
def Accepts (s : Situation) (move : Move) : Prop := ∃ t, s.tracer.take s.now move = .ok t

/-- The situation after an event. A refused call leaves the tracer as it is. -/
def after (s : Situation) : Event → Situation
  | .passes nanos => { s with now := s.now + nanos }
  | .called move =>
    match s.tracer.take s.now move with
    | .ok t => { s with tracer := t }
    | .error _ => s

/-- What the timer of a part of the scan shows. -/
def shown (s : Situation) (part : Part) : Nat := (s.tracer.phase part).watch.total s.now

/-- A call either is accepted, with what the tracer makes of it, or nothing changes. -/
theorem after_called (s : Situation) (move : Move) :
    (∃ t, s.tracer.take s.now move = .ok t ∧ s.after (.called move) = { s with tracer := t }) ∨
      (s.tracer.take s.now move = .error (.illegalStep s.tracer.stage) ∧
        s.after (.called move) = s) := by
  cases h : s.tracer.take s.now move with
  | ok t => exact .inl ⟨t, rfl, by simp only [after, h]⟩
  | error m =>
      obtain rfl := misuse_of_take h
      exact .inr ⟨rfl, by simp only [after, h]⟩

end Situation

/-- The situation after a history that begins with a fresh tracer at the moment `start`. -/
def run (start : Nat) (es : List Event) : Situation := es.foldl Situation.after ⟨start, fresh⟩

variable {es later : List Event} {e : Event}

theorem run_concat (start : Nat) (es : List Event) (e : Event) :
    run start (es ++ [e]) = (run start es).after e := by
  rw [run, List.foldl_append]
  rfl

/-- At the moment `n` of the history there was an event as described. -/
def At (P : Situation → Event → Prop) (start : Nat) (es : List Event) (n : Nat) : Prop :=
  ∃ before e later, es = before ++ e :: later ∧ P (run start before) e ∧ n = (run start before).now

/-- An event of a longer history is one of the history before, or the last one. -/
theorem at_concat {P : Situation → Event → Prop} {n : Nat} : At P start (es ++ [e]) n ↔
    At P start es n ∨ (P (run start es) e ∧ n = (run start es).now) := by
  constructor
  · rintro ⟨before, x, later, h, hP, hn⟩
    induction later using List.reverseRecOn with
    | nil =>
        obtain ⟨rfl, hx⟩ := List.append_inj' h rfl
        obtain rfl := (List.cons.inj hx).1
        exact .inr ⟨hP, hn⟩
    | append_singleton later y _ =>
        rw [← List.cons_append, ← List.append_assoc] at h
        exact .inl ⟨before, x, later, (List.append_inj' h rfl).1, hP, hn⟩
  · rintro (⟨before, x, later, rfl, hP, hn⟩ | ⟨hP, hn⟩)
    · exact ⟨before, x, later ++ [e], by simp, hP, hn⟩
    · exact ⟨es, e, [], rfl, hP, hn⟩

/-- A call to begin port scanning that is accepted. -/
def Begins (s : Situation) (e : Event) : Prop :=
  ∃ selected, e = .called (.begin .portScanning selected) ∧
    s.Accepts (.begin .portScanning selected)

/-- An event by which the tracer comes to its end. -/
def Ends (s : Situation) (e : Event) : Prop :=
  s.tracer.stage ≠ .done ∧ (s.after e).tracer.stage = .done

/-! ## What a tracer has come to -/

/-- What a tracer has come to after a history: it has not begun, it is at work, or it is done, with
or without having begun. -/
inductive Stands (start : Nat) (es : List Event) : Prop
  | fresh (tracer : (run start es).tracer = fresh) (unbegun : ∀ n, ¬ At Begins start es n)
      (unended : ∀ n, ¬ At Ends start es n)
  | working {began : Nat} (left : (run start es).tracer.stage ≠ .start)
      (undone : (run start es).tracer.stage ≠ .done)
      (begun : ∀ n, At Begins start es n ↔ n = began) (unended : ∀ n, ¬ At Ends start es n)
      (accounts : (run start es).tracer.Accounts began (run start es).now)
  | done {began ended : Nat} (begun : ∀ n, At Begins start es n ↔ n = began)
      (ends : ∀ n, At Ends start es n ↔ n = ended)
      (complete : (run start es).tracer.Complete began ended)
  | skipped {ended : Nat} (unbegun : ∀ n, ¬ At Begins start es n)
      (ends : ∀ n, At Ends start es n ↔ n = ended)
      (complete : (run start es).tracer.Complete ended ended)

section

variable {move : Move} {n : Nat}

theorem run_called (accepted : (run start es).tracer.take (run start es).now move = .ok t) :
    run start (es ++ [.called move]) = { run start es with tracer := t } := by
  rw [run_concat, Situation.after, accepted]

/-- Of all calls that are accepted, only one begins the scan. -/
theorem at_begins_called (accepted : (run start es).tracer.take (run start es).now move = .ok t) :
    At Begins start (es ++ [.called move]) n ↔ At Begins start es n ∨
      ((∃ selected, move = .begin .portScanning selected) ∧ n = (run start es).now) := by
  have hlast : Begins (run start es) (.called move) ↔
      ∃ selected, move = .begin .portScanning selected := by
    constructor
    · rintro ⟨selected, hmove, -⟩
      exact ⟨selected, Event.called.inj hmove⟩
    · rintro ⟨selected, rfl⟩
      exact ⟨selected, rfl, t, accepted⟩
  rw [at_concat, hlast]

theorem at_ends_called (accepted : (run start es).tracer.take (run start es).now move = .ok t)
    (undone : (run start es).tracer.stage ≠ .done) :
    At Ends start (es ++ [.called move]) n ↔ At Ends start es n ∨
      (t.stage = .done ∧ n = (run start es).now) := by
  rw [at_concat, Ends, ← run_concat, run_called accepted]
  simp only [undone, ne_eq, not_false_eq_true, true_and]

end

namespace Stands

theorem sound (h : Stands start es) : (run start es).tracer.Sound := by
  cases h with
  | fresh tracer unbegun unended =>
      rw [tracer]
      exact sound_fresh
  | working left undone begun unended accounts => exact accounts.sound
  | done begun ends complete => exact complete.sound
  | skipped unbegun ends complete => exact complete.sound

/-- An event that leaves the tracer as it is changes nothing about where it stands. -/
theorem unmoved (h : Stands start es) (later : (run start es).now ≤ (run start (es ++ [e])).now)
    (same : (run start (es ++ [e])).tracer = (run start es).tracer)
    (quiet : ¬ Begins (run start es) e) : Stands start (es ++ [e]) := by
  have hbegins : ∀ n, At Begins start (es ++ [e]) n ↔ At Begins start es n := fun n => by
    rw [at_concat]
    simp only [quiet, false_and, or_false]
  have hends : ∀ n, At Ends start (es ++ [e]) n ↔ At Ends start es n := fun n => by
    have hquiet : ¬ Ends (run start es) e := fun ⟨hundone, hdone⟩ => by
      rw [← run_concat, same] at hdone
      exact hundone hdone
    rw [at_concat]
    simp only [hquiet, false_and, or_false]
  cases h with
  | fresh tracer unbegun unended =>
      exact .fresh (same.trans tracer) (fun n => (hbegins n).not.2 (unbegun n))
        fun n => (hends n).not.2 (unended n)
  | working left undone begun unended accounts =>
      refine .working ?_ ?_ (fun n => (hbegins n).trans (begun n))
        (fun n => (hends n).not.2 (unended n)) ?_
      · rw [same]
        exact left
      · rw [same]
        exact undone
      · rw [same]
        exact accounts.onward later
  | done begun ends complete =>
      refine .done (fun n => (hbegins n).trans (begun n)) (fun n => (hends n).trans (ends n)) ?_
      rw [same]
      exact complete
  | skipped unbegun ends complete =>
      refine .skipped (fun n => (hbegins n).not.2 (unbegun n))
        (fun n => (hends n).trans (ends n)) ?_
      rw [same]
      exact complete

/-- A call that brings a scan on to a stage at work. -/
theorem working_of_take {move : Move} (began : Nat)
    (accepted : (run start es).tracer.take (run start es).now move = .ok t)
    (undone : (run start es).tracer.stage ≠ .done) (unended : ∀ n, ¬ At Ends start es n)
    (begun : ∀ n, At Begins start (es ++ [.called move]) n ↔ n = began)
    (left : t.stage ≠ .start) (working : t.stage ≠ .done)
    (accounts : t.Accounts began (run start es).now) : Stands start (es ++ [.called move]) := by
  have hrun := run_called accepted
  refine .working ?_ ?_ begun (fun n => ?_) ?_
  · rw [hrun]
    exact left
  · rw [hrun]
    exact working
  · rw [at_ends_called accepted undone]
    rintro (hended | ⟨hdone, -⟩)
    · exact unended n hended
    · exact working hdone
  · rw [hrun]
    exact accounts

/-- A call that is the last one of a scan. -/
theorem at_ends_of_done {move : Move} {n : Nat}
    (accepted : (run start es).tracer.take (run start es).now move = .ok t)
    (undone : (run start es).tracer.stage ≠ .done) (unended : ∀ n, ¬ At Ends start es n)
    (done : t.stage = .done) :
    At Ends start (es ++ [.called move]) n ↔ n = (run start es).now := by
  rw [at_ends_called accepted undone, or_iff_right (unended n), and_iff_right done]

/-- A tracer that has not begun and accepts a call begins, or is moved to the end. -/
theorem of_fresh {move : Move} (tracer : (run start es).tracer = Tracer.fresh)
    (unbegun : ∀ n, ¬ At Begins start es n) (unended : ∀ n, ¬ At Ends start es n)
    (accepted : (run start es).tracer.take (run start es).now move = .ok t) :
    Stands start (es ++ [.called move]) := by
  have undone : (run start es).tracer.stage ≠ .done := by
    rw [tracer]
    exact Stage.noConfusion
  have hcall := accepted_of_take accepted
  rw [tracer] at hcall
  cases hcall with
  | @portScanning selected before after traced =>
      refine working_of_take (run start es).now accepted undone unended (fun n => ?_) ?_ ?_
        (accounts_startPortScanning traced)
      · rw [at_begins_called accepted, or_iff_right (unbegun n), and_iff_right ⟨selected, rfl⟩]
      · rw [after]
        exact Stage.noConfusion
      · rw [after]
        exact Stage.noConfusion
  | fingerprinting before after traced => exact Stage.noConfusion before
  | detecting before after traced => exact Stage.noConfusion before
  | setDone before after traced => exact Stage.noConfusion before
  | forceDone traced =>
      refine .skipped (fun n => ?_)
        (fun n => at_ends_of_done accepted undone unended (by rw [traced]; rfl)) ?_
      · rw [at_begins_called accepted]
        rintro (hbegun | ⟨⟨_, hmove⟩, -⟩)
        · exact unbegun n hbegun
        · cases hmove
      · rw [run_called accepted, traced]
        exact complete_forceDone_fresh _

/-- A tracer at work that accepts a call goes on to the next stage, or comes to its end. -/
theorem of_working {move : Move} {began : Nat} (left : (run start es).tracer.stage ≠ .start)
    (undone : (run start es).tracer.stage ≠ .done) (begun : ∀ n, At Begins start es n ↔ n = began)
    (unended : ∀ n, ¬ At Ends start es n)
    (accounts : (run start es).tracer.Accounts began (run start es).now)
    (accepted : (run start es).tracer.take (run start es).now move = .ok t) :
    Stands start (es ++ [.called move]) := by
  have hcall := accepted_of_take accepted
  -- port scanning has begun before, so it is not by this call that it does
  have hbegun : ∀ n, At Begins start (es ++ [.called move]) n ↔ n = began := fun n => by
    rw [at_begins_called accepted, begun n]
    refine or_iff_left fun ⟨⟨selected, hmove⟩, _⟩ => ?_
    subst hmove
    cases hcall with
    | portScanning before after traced => exact left before
  cases hcall with
  | portScanning before after traced => exact absurd before left
  | fingerprinting before after traced =>
      refine working_of_take began accepted undone unended hbegun ?_ ?_
        (accounts.startFingerprinting traced)
      · rw [after]
        exact Stage.noConfusion
      · rw [after]
        exact Stage.noConfusion
  | detecting before after traced =>
      refine working_of_take began accepted undone unended hbegun ?_ ?_
        (accounts.startDetecting traced)
      · rw [after]
        exact Stage.noConfusion
      · rw [after]
        exact Stage.noConfusion
  | setDone before after traced =>
      refine .done hbegun (fun n => at_ends_of_done accepted undone unended after) ?_
      rw [run_called accepted]
      exact accounts.setDone traced
  | forceDone traced =>
      refine .done hbegun
        (fun n => at_ends_of_done accepted undone unended (by rw [traced]; rfl)) ?_
      rw [run_called accepted, traced]
      exact accounts.forceDone

end Stands

/-- After every history a tracer has come to one of its standings. -/
theorem stands (start : Nat) (es : List Event) : Stands start es := by
  induction es using List.reverseRecOn with
  | nil =>
      have hnever : ∀ P n, ¬ At P start [] n := fun P n ⟨before, e, later, h, _⟩ =>
        List.append_ne_nil_of_right_ne_nil before (List.cons_ne_nil e later) h.symm
      exact .fresh rfl (hnever Begins) (hnever Ends)
  | append_singleton es e ih =>
      have hrun := run_concat start es e
      cases e with
      | passes nanos =>
          refine ih.unmoved ?_ ?_ fun ⟨selected, hcall, _⟩ => by cases hcall
          · rw [hrun]
            exact Nat.le_add_right _ _
          · rw [hrun]
            rfl
      | called move =>
          rcases (run start es).after_called move with ⟨t, accepted, hafter⟩ | ⟨refused, hafter⟩
          · -- an accepted call changes nothing only where the tracer is done already
            have hdone : ∀ began ended, (run start es).tracer.Complete began ended →
                Stands start (es ++ [.called move]) := fun began ended complete => by
              obtain ⟨rfl, rfl⟩ := complete.eq_of_take accepted
              have hsame := hrun.trans hafter
              refine ih.unmoved ?_ ?_ fun ⟨selected, hcall, _⟩ => by cases hcall
              · exact Nat.le_of_eq (congrArg Situation.now hsame.symm)
              · exact congrArg Situation.tracer hsame
            cases ih with
            | fresh tracer unbegun unended => exact .of_fresh tracer unbegun unended accepted
            | working left undone begun unended accounts =>
                exact .of_working left undone begun unended accounts accepted
            | done begun ends complete => exact hdone _ _ complete
            | skipped unbegun ends complete => exact hdone _ _ complete
          · have hsame := hrun.trans hafter
            refine ih.unmoved ?_ ?_ fun ⟨selected, hcall, accepts⟩ => ?_
            · exact Nat.le_of_eq (congrArg Situation.now hsame.symm)
            · exact congrArg Situation.tracer hsame
            · cases hcall
              obtain ⟨t, accepted⟩ := accepts
              rw [refused] at accepted
              cases accepted

/-! ## What stays -/

/-- What sound tracers keep at every call that they accept, a tracer keeps from then on. -/
theorem run_keeps {P : Tracer → Prop} (h : P (run start es).tracer)
    (keeps : ∀ {now t t' move}, t.Sound → P t → t.take now move = .ok t' → P t')
    (later : List Event) : P (run start (es ++ later)).tracer := by
  induction later using List.reverseRecOn with
  | nil =>
      rw [List.append_nil]
      exact h
  | append_singleton later e ih =>
      rw [← List.append_assoc, run_concat]
      cases e with
      | passes nanos => exact ih
      | called move =>
          rcases (run start (es ++ later)).after_called move with
            ⟨t, accepted, hafter⟩ | ⟨-, hafter⟩
          · rw [hafter]
            exact keeps (stands start (es ++ later)).sound ih accepted
          · rw [hafter]
            exact ih

/-- A part of the scan that is over stays as it is from then on. -/
theorem run_phase {part : Part} (past : part.stage.rank < (run start es).tracer.stage.rank)
    (later : List Event) :
    (run start (es ++ later)).tracer.phase part = (run start es).tracer.phase part := by
  refine (run_keeps (P := fun t => part.stage.rank < t.stage.rank ∧
    t.phase part = (run start es).tracer.phase part) ⟨past, rfl⟩ ?_ later).2
  rintro now t t' move sound ⟨past, hphase⟩ accepted
  exact ⟨Nat.lt_of_lt_of_le past (rank_le_of_take accepted),
    (sound.phase_of_take accepted past).trans hphase⟩

/-- The selection of a part of the scan that has been reached stays from then on. -/
theorem run_selected {part : Part} (reached : part.stage.rank ≤ (run start es).tracer.stage.rank)
    (later : List Event) : ((run start (es ++ later)).tracer.phase part).selected
      = ((run start es).tracer.phase part).selected := by
  refine (run_keeps (P := fun t => part.stage.rank ≤ t.stage.rank ∧
    (t.phase part).selected = ((run start es).tracer.phase part).selected)
    ⟨reached, rfl⟩ ?_ later).2
  rintro now t t' move sound ⟨reached, hselected⟩ accepted
  exact ⟨Nat.le_trans reached (rank_le_of_take accepted),
    (selected_of_take accepted reached).trans hselected⟩

/-! ## Every history -/

/-- What all timers are to show after a history: nothing if port scanning has not begun, and else
the time since then, up to now or to the end. -/
inductive Due (start : Nat) (es : List Event) : Nat → Prop
  | unbegun (never : ∀ n, ¬ At Begins start es n) : Due start es 0
  | working {began : Nat} (begun : At Begins start es began)
      (undone : (run start es).tracer.stage ≠ .done) : Due start es ((run start es).now - began)
  | done {began ended : Nat} (begun : At Begins start es began) (ends : At Ends start es ended) :
      Due start es (ended - began)

theorem due_iff {d : Nat} :
    Due start es d ↔ d = (run start es).tracer.runtime (run start es).now := by
  constructor
  · intro due
    cases stands start es with
    | fresh tracer unbegun unended =>
        rw [tracer]
        cases due with
        | unbegun never => rfl
        | working begun undone => exact absurd begun (unbegun _)
        | done begun ends => exact absurd begun (unbegun _)
    | working left undone begun unended accounts =>
        rw [accounts.runtime _ (Nat.le_refl _)]
        cases due with
        | unbegun never => exact absurd ((begun _).2 rfl) (never _)
        | working begun' _ => rw [(begun _).1 begun']
        | done begun' ends => exact absurd ends (unended _)
    | done begun ends complete =>
        rw [complete.runtime]
        cases due with
        | unbegun never => exact absurd ((begun _).2 rfl) (never _)
        | working begun' undone => exact absurd complete.stage undone
        | done begun' ends' => rw [(begun _).1 begun', (ends _).1 ends']
    | skipped unbegun ends complete =>
        rw [complete.runtime, Nat.sub_self]
        cases due with
        | unbegun never => rfl
        | working begun undone => exact absurd begun (unbegun _)
        | done begun ends' => exact absurd begun (unbegun _)
  · rintro rfl
    cases stands start es with
    | fresh tracer unbegun unended =>
        rw [tracer]
        exact .unbegun unbegun
    | working left undone begun unended accounts =>
        rw [accounts.runtime _ (Nat.le_refl _)]
        exact .working ((begun _).2 rfl) undone
    | done begun ends complete =>
        rw [complete.runtime]
        exact .done ((begun _).2 rfl) ((ends _).2 rfl)
    | skipped unbegun ends complete =>
        rw [complete.runtime, Nat.sub_self]
        exact .unbegun unbegun

/-- **A tracer in whatever way it is used.** After every history of calls, with any time in between:

* a call is accepted exactly if it leads to the next stage, or moves the tracer to the end;
* line by line it comes to the same as all at once: none of its assertions about the timers fails,
  and a refused call changes nothing;
* the timer of a part of the scan runs exactly in the stage of that part;
* what the timer of a stage shows that is over stays as it is;
* together the timers show the time since port scanning began, up to now or to the end;
* the selection with which a part of the scan begins stays as it is. -/
theorem run_orderly (start : Nat) (es : List Event) :
    let s := run start es
    (∀ move, s.Accepts move ↔ move = .forceDone ∨ s.tracer.stage.next? = some move.target) ∧
    (∀ move, (s.Accepts move ∧
        (move.work s.now).run.run s.tracer = (.ok (), (s.after (.called move)).tracer)) ∨
      (¬ s.Accepts move ∧ (move.work s.now).run.run s.tracer
        = (.error (.misuse (.illegalStep s.tracer.stage)), s.tracer))) ∧
    (∀ part, (s.tracer.phase part).watch.isRunning = true ↔ s.tracer.stage = part.stage) ∧
    (∀ part later, part.stage.rank < s.tracer.stage.rank →
      (run start (es ++ later)).shown part = s.shown part) ∧
    (∀ d, Due start es d ↔ d = s.tracer.runtime s.now) ∧
    ∀ part selected later, s.Accepts (.begin part selected) →
      ((run start (es ++ .called (.begin part selected) :: later)).tracer.phase part).selected
        = selected := by
  have hsound := (stands start es).sound
  refine ⟨fun move => take_accepted_iff, fun move => ?_, hsound.isRunning_iff,
    fun part later past => ?_, fun d => due_iff, ?_⟩
  · rw [work_eq hsound]
    rcases (run start es).after_called move with ⟨t, accepted, hafter⟩ | ⟨refused, hafter⟩
    · rw [accepted, hafter]
      exact .inl ⟨⟨t, accepted⟩, rfl⟩
    · rw [refused]
      exact .inr ⟨by simp [Situation.Accepts, refused], rfl⟩
  · rw [Situation.shown, run_phase past]
    exact Time.Stopwatch.total_eq_of_not_isRunning (hsound.isRunning_of_past past) _ _
  · rintro part selected later ⟨t, accepted⟩
    obtain ⟨hstage, hselected⟩ := begun_of_take accepted
    have hrun := run_called accepted
    have hlist : es ++ .called (.begin part selected) :: later
        = (es ++ [.called (.begin part selected)]) ++ later := by simp
    rw [hlist, run_selected, hrun]
    · exact hselected
    · rw [hrun]
      exact Nat.le_of_eq (congrArg Stage.rank hstage.symm)

/-- Port scanning for three nanoseconds, fingerprinting for two, and then the scan is given up. -/
example :
    let s := run 10 [.called (.begin .portScanning []), .passes 3, .called .setDone,
      .called (.begin .fingerprinting []), .passes 2, .called .forceDone, .passes 7]
    s.tracer.runtime s.now = 5 := by
  decide

end VulnScan.Scan.Tracer
