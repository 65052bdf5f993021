import VulnScan.Proofs.Execution.BatchRun
import VulnScan.Proofs.Execution.Calm

/-! # What a cancellation does to executions

A scan is cancelled from outside or by one of its own plugins. Up to then its executions go like
those of a scan that nobody cancels (`Batch.Tick.calm`). From then on every poll dismisses: nothing
that was decided changes, no logic is called, and none goes on (`Batch.Trail.still`). In between is
the poll in which a logic calls for the cancellation. It is not broken into, so that logic may still
come to its own end, or find that its time is over (`Phase.CallsOff`).

Polls are taken as a whole here: if two of them overlap, all goes as if one had come after the
other. Taken apart (`Shared.Step`), a poll looks whether the scan is cancelled and then calls the
logic. If the scan is cancelled between the two, the logic is called all the same, and the poll
counts as one that came before the cancellation; it is the last one of this execution that does not
dismiss.

`Batch.Trail.cut` takes a trail apart into these three, and `Pool.cancelled_executions` says what
becomes of every single execution.
-/

set_option autoImplicit false

namespace VulnScan.Execution

variable {σ α : Type}

/-! ## Dismissals -/

/-- The record of a task that was dismissed. -/
def Task.dismissal (t : Task σ α) (elapsed : Time.Span) : Record α :=
  ⟨t.plugin, t.services,
    .failed (.plugin ("Plugin execution error on '" ++ t.plugin.id ++ "'.")
      ["Scan cancelled: plugin execution cancelled"]), elapsed⟩

theorem Task.record_of_cancelled (t : Task σ α) (deadline : Option Time.Span) {d : Decision α}
    (hd : d.resolution = .cancelled) :
    t.record deadline d = t.dismissal (.ofTicks d.elapsed) := by
  rw [record, hd]
  rfl

theorem Phase.eq_decided_of_isDecided {p : Phase σ α} (h : p.isDecided = true) :
    ∃ d, p = .decided d := by
  cases p with
  | decided d => exact ⟨d, rfl⟩
  | queued submitted job => cases h
  | waiting since timer next limit => cases h
  | idle since limit => cases h

/-- A job of a cancelled scan is decided as cancelled, unless it was decided before. -/
theorem Phase.resolution_cancel {p : Phase σ α} (undecided : p.isDecided = false) (now : Nat) :
    (p.cancel now).resolution = .cancelled := by
  cases p with
  | decided d => cases undecided
  | queued submitted job => rfl
  | waiting since timer next limit => rfl
  | idle since limit => rfl

namespace Batch

section

variable {slots : Nat} {deadline : Option Nat} {free : Prop} [Decidable free] {m m' : Moment σ}
  {b b' : Batch σ α} {e h : History σ α} {i : Nat} {d : Decision α}

/-- What was decided stays so. -/
theorem Tick.keeps (tick : b.Tick deadline free m e m' b')
    (at_i : b.phases[i]? = some (.decided d)) : b'.phases[i]? = some (.decided d) := by
  cases tick with
  | submits next =>
      have hi : i < b.phases.length := (List.getElem?_eq_some_iff.1 at_i).1
      exact (List.getElem?_append_left hi).trans at_i
  | @polls k p q m' at_k polled =>
      have hne : k ≠ i := by
        rintro rfl
        rw [at_i] at at_k
        cases at_k
        cases Phase.undecided_of_poll polled
      exact (List.getElem?_set_ne hne).trans at_i

/-- A poll in a cancelled scan decides nothing but that an execution is cancelled. -/
theorem Tick.dismisses (tick : b.Tick deadline free m e m' b') (hm : m.cancelled = true)
    (at_i : b'.phases[i]? = some (.decided d)) :
    b.phases[i]? = some (.decided d) ∨ d.resolution = .cancelled := by
  cases tick with
  | @submits t next =>
      rcases Nat.lt_or_ge i b.phases.length with hlt | hge
      · exact .inl ((List.getElem?_append_left hlt).symm.trans at_i)
      · -- the new job waits for a slot
        have hnew := List.mem_of_getElem? ((List.getElem?_append_right hge).symm.trans at_i)
        cases List.mem_singleton.1 hnew
  | @polls k p q m' at_k polled =>
      obtain ⟨undecided, rfl, rfl⟩ := Phase.eq_of_poll polled hm
      rcases getElem?_set_cases at_i with ⟨-, hd⟩ | ⟨-, hold⟩
      · cases hd
        exact .inr (Phase.resolution_cancel undecided _)
      · exact .inl hold

namespace Trail

theorem keeps (trail : Trail slots deadline m b h m' b')
    (at_i : b.phases[i]? = some (.decided d)) : b'.phases[i]? = some (.decided d) := by
  induction trail with
  | done => exact at_i
  | passes now onward rest ih => exact ih at_i
  | called rest ih => exact ih at_i
  | step tick rest ih => exact ih (tick.keeps at_i)

theorem dismisses (trail : Trail slots deadline m b h m' b') (hm : m.cancelled = true)
    (at_i : b'.phases[i]? = some (.decided d)) :
    b.phases[i]? = some (.decided d) ∨ d.resolution = .cancelled := by
  induction trail with
  | done => exact .inl at_i
  | passes now onward rest ih => exact ih hm at_i
  | called rest ih => exact ih rfl at_i
  | step tick rest ih =>
      rcases ih (tick.step.stays_cancelled hm) at_i with hold | hd
      · exact tick.dismisses hm hold
      · exact .inr hd

/-- Once the scan is cancelled it stays so, the executions change nothing in the world, no logic is
called, and none goes on. -/
theorem still (trail : Trail slots deadline m b h m' b') (hm : m.cancelled = true) :
    m'.cancelled = true ∧ m'.world = m.world ∧ ∀ x ∈ h, x.2.isRun = false := by
  induction trail with
  | done => exact ⟨hm, rfl, by simp⟩
  | passes now onward rest ih => exact ih hm
  | called rest ih => exact ih rfl
  | step tick rest ih =>
      have hquiet := tick.heeds hm
      obtain rfl := tick.step.moment_eq hquiet
      obtain ⟨hcancelled, hworld, hrest⟩ := ih hm
      exact ⟨hcancelled, hworld, fun x hx => (List.mem_append.1 hx).elim (hquiet x) (hrest x)⟩

end Trail

end

end Batch

/-! ## Without the cancellation -/

/-- The batch without its calls for a cancellation. -/
def Batch.calm (b : Batch σ α) : Batch σ α :=
  { b with tasks := b.tasks.map Task.calm, phases := b.phases.map Phase.calm }

theorem Batch.taken_calm (b : Batch σ α) : b.calm.taken = b.taken :=
  Phase.countP_isRunning_map_calm b.phases

theorem Phase.ready_calm (p : Phase σ α) (now : Nat) (free : Prop) :
    p.calm.Ready now free ↔ p.Ready now free := by
  cases p <;> exact Iff.rfl

/-- A poll leads to the same without the calls for a cancellation. -/
theorem Phase.poll_calm (p : Phase σ α) (deadline : Option Nat) (turn : Nat) (free : Prop)
    [Decidable free] {m : Moment σ} (hm : m.cancelled = false) :
    p.calm.poll deadline turn free m =
      (p.poll deadline turn free m).map fun q => (q.1.calm, q.2.calm) := by
  have hadvance := p.advance_calm deadline turn m
  rw [Moment.calm_eq_self hm] at hadvance
  simp only [poll, isDecided_calm, hm, Bool.false_eq_true, if_false, p.ready_calm, hadvance]
  split
  · rfl
  · split <;> rfl

namespace Batch

section

variable {slots : Nat} {deadline : Option Nat} {m m' : Moment σ} {b b' : Batch σ α}
  {e h : History σ α}

/-- What happens in a scan that is not cancelled can happen without the calls for a cancellation. -/
theorem Tick.calm {free : Prop} [Decidable free] (tick : b.Tick deadline free m e m' b')
    (hm : m.cancelled = false) : ∃ e', b.calm.Tick deadline free m e' m'.calm b'.calm := by
  cases tick with
  | @submits t next =>
      have hnext : b.calm.tasks[b.calm.phases.length]? = some t.calm := by
        simp only [Batch.calm, List.length_map, List.getElem?_map, next, Option.map_some]
      have htick : b.calm.Tick deadline free m _ m _ := .submits hnext
      simp only [Batch.calm, List.map_append, Moment.calm_eq_self hm]
      exact ⟨_, htick⟩
  | @polls i p q m' at_i polled =>
      have hat : b.calm.phases[i]? = some p.calm := by
        simp only [Batch.calm, List.getElem?_map, at_i, Option.map_some]
      have hpolled : p.calm.poll deadline b.calm.turn free m = some (q.calm, m'.calm) := by
        rw [Phase.poll_calm p _ _ _ hm, show b.calm.turn = b.turn from rfl, polled]
        rfl
      have htick := Tick.polls hat hpolled
      simp only [Batch.calm, List.map_set]
      exact ⟨_, htick⟩

/-! ## The cut -/

/-- How a scan comes to be cancelled, at the moment `m`: it is so already, it is cancelled from
outside, or a logic that is polled calls for it. -/
inductive Cancels (slots : Nat) (deadline : Option Nat) (m : Moment σ) (b : Batch σ α) :
    History σ α → Moment σ → Batch σ α → Prop
  | already (cancelled : m.cancelled = true) : Cancels slots deadline m b [] m b
  | outside (uncancelled : m.cancelled = false) :
      Cancels slots deadline m b [] { m with cancelled := true } b
  | inside {e : History σ α} {m' : Moment σ} {b' : Batch σ α} (uncancelled : m.cancelled = false)
      (tick : b.Tick deadline (b.taken < slots) m e m' b') (calls : m'.cancelled = true) :
      Cancels slots deadline m b e m' b'

theorem Cancels.keeps (cancels : b.Cancels slots deadline m e m' b') {i : Nat} {d : Decision α}
    (at_i : b.phases[i]? = some (.decided d)) : b'.phases[i]? = some (.decided d) := by
  cases cancels with
  | already cancelled => exact at_i
  | outside uncancelled => exact at_i
  | inside uncancelled tick calls => exact tick.keeps at_i

theorem Cancels.cancelled (cancels : b.Cancels slots deadline m e m' b') :
    m'.cancelled = true := by
  cases cancels with
  | already cancelled => exact cancelled
  | outside uncancelled => rfl
  | inside uncancelled tick calls => exact calls

/-- **A cancellation comes at one point.** What happens in a scan that is cancelled in the end can
be cut there, and without the calls for a cancellation the same can happen up to that point. -/
theorem Trail.cut (trail : Trail slots deadline m b h m' b') (cancelled : m'.cancelled = true) :
    ∃ h₁ e h₂ m₁ b₁ m₂ b₂, h = h₁ ++ (e ++ h₂) ∧ Trail slots deadline m b h₁ m₁ b₁ ∧
      b₁.Cancels slots deadline m₁ e m₂ b₂ ∧ Trail slots deadline m₂ b₂ h₂ m' b' ∧
      ∃ h₀, Trail slots deadline m.calm b.calm h₀ m₂.calm b₂.calm := by
  cases hm : m.cancelled with
  | true => exact ⟨[], [], h, m, b, m, b, rfl, .done, .already hm, trail, [], .done⟩
  | false =>
      -- the cut is at the first element of the trail after which the scan is cancelled
      induction trail with
      | done =>
          rw [cancelled] at hm
          cases hm
      | @passes m m' b b' h now onward rest ih =>
          obtain ⟨h₁, e, h₂, m₁, b₁, m₂, b₂, heq, before, cancels, after, h₀, without⟩ :=
            ih cancelled hm
          exact ⟨h₁, e, h₂, m₁, b₁, m₂, b₂, heq, .passes now onward before, cancels, after, h₀,
            .passes now onward without⟩
      | @called m m' b b' h rest ih =>
          exact ⟨[], [], h, m, b, _, b, rfl, .done, .outside hm, rest, [], .done⟩
      | @step m m₁ m' b b₁ b' e h tick rest ih =>
          obtain ⟨e₀, hcalm⟩ := tick.calm hm
          have hstep : Trail slots deadline m.calm b.calm e₀ m₁.calm b₁.calm := by
            rw [Moment.calm_eq_self hm]
            refine .single ?_
            simpa only [taken_calm] using hcalm
          cases hm₁ : m₁.cancelled with
          | true =>
              exact ⟨[], e, h, m, b, m₁, b₁, rfl, .done, .inside hm tick hm₁, rest, e₀, hstep⟩
          | false =>
              obtain ⟨h₁, e₁, h₂, m₂, b₂, m₃, b₃, heq, before, cancels, after, h₀, without⟩ :=
                ih cancelled hm₁
              refine ⟨e ++ h₁, e₁, h₂, m₂, b₂, m₃, b₃, ?_, .step tick before, cancels, after, _,
                hstep.trans without⟩
              rw [heq, List.append_assoc]

end

end Batch

/-! ## The logic that calls for the cancellation -/

/-- The logic that is called, or goes on, when the job moves. -/
def Phase.logic : Phase σ α → Option (Activity σ α)
  | .queued _ job => some job
  | .waiting _ _ next _ => some next
  | .idle _ _ | .decided _ => none

/-- The time at which the job is late, if it moves at `now`. -/
def Phase.lateAt (deadline : Option Nat) (now : Nat) : Phase σ α → Option Nat
  | .queued _ _ => deadline.map (now + ·)
  | .waiting _ _ _ limit | .idle _ limit => limit.map Timer.time
  | .decided _ => none

/-- The logic of a job calls for the cancellation in a poll at the moment `m`, which takes the job
from `p` to its new state: the logic ends, or it waits again, for which there may be no time. -/
inductive Phase.CallsOff (deadline : Option Nat) (m : Moment σ) (p : Phase σ α) : Phase σ α → Prop
  | ended {a : Activity σ α} {o : Outcome α} {w : σ} {elapsed : Nat} (logic : p.logic = some a)
      (settle : a.settle m.now m.world false = (.ended o, w, true)) :
      CallsOff deadline m p (.decided ⟨.ofOutcome o, elapsed⟩)
  | late {a : Activity σ α} {stop : Activity.Stop σ α} {w : σ} {t elapsed : Nat}
      (logic : p.logic = some a) (settle : a.settle m.now m.world false = (stop, w, true))
      (waits : ∀ o, stop ≠ .ended o) (limit : p.lateAt deadline m.now = some t)
      (past : t ≤ m.now) : CallsOff deadline m p (.decided ⟨.timedOut, elapsed⟩)
  | waits {a : Activity σ α} {stop : Activity.Stop σ α} {w : σ} {q : Phase σ α}
      (logic : p.logic = some a) (settle : a.settle m.now m.world false = (stop, w, true))
      (waits : ∀ o, stop ≠ .ended o) (inTime : ∀ t, p.lateAt deadline m.now = some t → m.now < t)
      (running : q.isRunning = true) : CallsOff deadline m p q

section

variable {slots turn since : Nat} {deadline : Option Nat} {m m' : Moment σ} {p q : Phase σ α}

/-- What becomes of a logic that calls for the cancellation is settled where it stops, and by its
deadline if it does not end there. -/
theorem Phase.callsOff_of_after {a : Activity σ α} {stop : Activity.Stop σ α} {w : σ}
    {limit : Option Timer} (logic : p.logic = some a)
    (settle : a.settle m.now m.world false = (stop, w, true))
    (lateAt : p.lateAt deadline m.now = limit.map Timer.time) :
    p.CallsOff deadline m (after since m.now turn limit stop) := by
  -- the two ways in which the deadline can be looked at, apart from where the logic has stopped
  have hlate : limit.any (·.time ≤ m.now) = true →
      ∃ t, p.lateAt deadline m.now = some t ∧ t ≤ m.now := by
    rw [lateAt]
    cases limit with
    | none =>
        intro hl
        cases hl
    | some l => exact fun hl => ⟨l.time, rfl, of_decide_eq_true hl⟩
  have hinTime : ¬ limit.any (·.time ≤ m.now) = true →
      ∀ t, p.lateAt deadline m.now = some t → m.now < t := by
    rw [lateAt]
    cases limit with
    | none =>
        intro _ t ht
        cases ht
    | some l =>
        intro hl t ht
        cases ht
        simpa using hl
  cases stop with
  | ended o => exact .ended logic settle
  | idle =>
      have hwaits : ∀ o, (.idle : Activity.Stop σ α) ≠ .ended o := by simp
      simp only [after]
      split
      · next hl =>
          obtain ⟨t, ht, past⟩ := hlate hl
          exact .late logic settle hwaits ht past
      · next hl => exact .waits logic settle hwaits (hinTime hl) rfl
  | waiting d next =>
      have hwaits : ∀ o, (.waiting d next : Activity.Stop σ α) ≠ .ended o := by simp
      simp only [after]
      split
      · next hl =>
          obtain ⟨t, ht, past⟩ := hlate hl
          exact .late logic settle hwaits ht past
      · next hl => exact .waits logic settle hwaits (hinTime hl) rfl

/-- A move which cancels the scan is one whose logic calls for that. -/
theorem Phase.callsOff_of_advance (h : p.advance deadline turn m = some (q, m'))
    (hm : m.cancelled = false) (calls : m'.cancelled = true) : p.CallsOff deadline m q := by
  cases p with
  | queued submitted job =>
      simp only [advance, hm, Option.some.injEq, Prod.mk.injEq] at h
      obtain ⟨rfl, rfl⟩ := h
      refine callsOff_of_after rfl (Prod.ext rfl (Prod.ext rfl calls)) ?_
      rw [lateAt, Option.map_map]
      rfl
  | waiting since timer next limit =>
      simp only [advance, hm] at h
      split at h <;> simp only [Option.some.injEq, Prod.mk.injEq] at h <;> obtain ⟨rfl, rfl⟩ := h
      · exact callsOff_of_after rfl (Prod.ext rfl (Prod.ext rfl calls)) rfl
      · rw [hm] at calls
        cases calls
  | idle since limit =>
      cases h
      rw [hm] at calls
      cases calls
  | decided d => cases h

/-- When a scan comes to be cancelled no execution moves, or one whose logic calls for that. -/
theorem Batch.Cancels.phases {b b' : Batch σ α} {e : History σ α}
    (cancels : b.Cancels slots deadline m e m' b') :
    b'.phases = b.phases ∨ ∃ i p q, b.phases[i]? = some p ∧ p.CallsOff deadline m q ∧
      b'.phases = b.phases.set i q := by
  cases cancels with
  | already cancelled => exact .inl rfl
  | outside uncancelled => exact .inl rfl
  | inside uncancelled tick calls =>
      cases tick with
      | submits next =>
          rw [uncancelled] at calls
          cases calls
      | @polls i p q m' at_i polled =>
          obtain ⟨-, advances⟩ := Phase.advance_of_poll polled uncancelled
          exact .inr ⟨i, p, q, at_i, Phase.callsOff_of_advance advances uncancelled calls, rfl⟩

end

/-! ## Cancelled executions -/

/-- What a cancellation does to a batch, which is `b₁` before it and `b₂` after it, and which in the
end is `b'`. -/
structure Batch.Dismissed (slots : Nat) (deadline : Option Time.Span) (m₁ : Moment σ)
    (b₁ : Batch σ α) (m₂ : Moment σ) (b₂ : Batch σ α) (h : History σ α) (m' : Moment σ)
    (b' : Batch σ α) : Prop where
  /-- No logic is called and none goes on but one that calls for the cancellation itself. -/
  own : b₂.phases = b₁.phases ∨ ∃ (i : Nat) (p q : Phase σ α), b₁.phases[i]? = some p ∧
    p.CallsOff (deadline.map Time.Span.ticks) m₁ q ∧ b₂.phases = b₁.phases.set i q
  after : Batch.Trail slots (deadline.map Time.Span.ticks) m₂ b₂ h m' b'
  quiet : ∀ x ∈ h, x.2.isRun = false
  world : m'.world = m₂.world
  /-- What was decided before is kept. -/
  kept : ∀ (i : Nat) (d : Decision α),
    b₁.phases[i]? = some (.decided d) ∨ b₂.phases[i]? = some (.decided d) →
      b'.phases[i]? = some (.decided d)
  /-- Every other execution is recorded as cancelled when it is decided. -/
  dismissed : ∀ (i : Nat) (t : Task σ α) (d : Decision α), b'.tasks[i]? = some t →
    b'.phases[i]? = some (.decided d) → b₂.phases[i]? ≠ some (.decided d) →
      t.record deadline d = t.dismissal (.ofTicks d.elapsed)
  /-- Its next poll decides it, whatever it waits for. -/
  resolves : ∀ (i : Nat) (p : Phase σ α), b'.phases[i]? = some p → p.isDecided = false →
    ∀ (turn : Nat) (free : Prop) [Decidable free],
      p.poll (deadline.map Time.Span.ticks) turn free m' = some (.decided (p.cancel m'.now), m')

theorem Batch.Trail.dismissed {slots : Nat} {deadline : Option Time.Span} {m₁ m₂ m' : Moment σ}
    {b₁ b₂ b' : Batch σ α} {e h : History σ α}
    (cancels : b₁.Cancels slots (deadline.map Time.Span.ticks) m₁ e m₂ b₂)
    (after : Trail slots (deadline.map Time.Span.ticks) m₂ b₂ h m' b') :
    Dismissed slots deadline m₁ b₁ m₂ b₂ h m' b' := by
  have hm₂ := cancels.cancelled
  obtain ⟨hcancelled, hworld, hquiet⟩ := after.still hm₂
  refine ⟨cancels.phases, after, hquiet, hworld, fun i d hd => ?_, fun i t d ht hd hne => ?_,
    fun i p hp undecided turn free _ => Phase.poll_of_cancelled hcancelled undecided⟩
  · rcases hd with hd | hd
    · exact after.keeps (cancels.keeps hd)
    · exact after.keeps hd
  · rcases after.dismisses hm₂ hd with hold | hcancel
    · exact absurd hold hne
    · exact t.record_of_cancelled deadline hcancel

/-- The jobs of tasks that are submitted at given times, before any has begun. -/
def Jobs.submitted (m : Moment σ) (tasks : List (Nat × Task σ α)) : Jobs σ α :=
  ⟨m, 0, tasks.map fun t => .queued t.1 t.2.activity⟩

theorem Jobs.calm_submitted (m : Moment σ) (tasks : List (Nat × Task σ α)) :
    (submitted m tasks).calm = submitted m.calm (tasks.map fun t => (t.1, t.2.calm)) := by
  simp only [submitted, Jobs.calm, List.map_map]
  rfl

theorem Jobs.ahead_submitted (m : Moment σ) (tasks : List (Nat × Task σ α)) :
    (submitted m tasks).Ahead := by
  have h := ahead_queued m 0 (tasks.map fun t => (t.1, t.2.activity))
  rw [List.map_map] at h
  exact h

namespace Pool

variable {pool : Pool} {tasks : List (Nat × Task σ α)} {signals : Signals} {m m' : Moment σ}

theorem run_activities (pool : Pool) (tasks : List (Nat × Task σ α)) (signals : Signals)
    (m : Moment σ) : pool.run signals (tasks.map fun t => (t.1, t.2.activity)) m =
      (Jobs.submitted m tasks).run pool.slots (pool.deadline.map Time.Span.ticks) signals := by
  rw [run, List.map_map]
  rfl

theorem executeAt_eq_reached {records : List (Record α)} :
    pool.executeAt tasks signals m = .reached records m' ↔
      ∃ ds, (Jobs.submitted m tasks).run pool.slots (pool.deadline.map Time.Span.ticks) signals =
          .reached ds m' ∧
        (tasks.zip ds).map (fun p => p.1.2.record pool.deadline p.2) = records := by
  refine Session.bind_eq_reached.trans ?_
  rw [run_activities]
  constructor
  · rintro ⟨ds, m₁, hrun, h⟩
    cases h
    exact ⟨ds, hrun, rfl⟩
  · rintro ⟨ds, hrun, rfl⟩
    exact ⟨ds, m', hrun, rfl⟩

theorem executeAt_final :
    (pool.executeAt tasks signals m).final = ((Jobs.submitted m tasks).run pool.slots
      (pool.deadline.map Time.Span.ticks) signals).final := by
  rw [← run_activities]
  unfold executeAt
  simp only [bind, Session.andThen]
  cases pool.run signals (tasks.map fun t => (t.1, t.2.activity)) m <;> rfl

theorem getElem?_records (pool : Pool) {ds : List (Decision α)} {i : Nat} {e : Nat × Task σ α}
    {d : Decision α} (he : tasks[i]? = some e) (hd : ds[i]? = some d) :
    ((tasks.zip ds).map fun p => p.1.2.record pool.deadline p.2)[i]? =
      some (e.2.record pool.deadline d) := by
  have hzip : (tasks.zip ds)[i]? = some (e, d) := List.getElem?_zip_eq_some.2 ⟨he, hd⟩
  rw [List.getElem?_map, hzip]
  rfl

/-- What is decided when the run that nobody cancels comes by is what its records tell. -/
theorem getElem?_of_goes {t : Jobs σ α} (goes : (Jobs.submitted m tasks).calm.Goes pool.slots
      (pool.deadline.map Time.Span.ticks) t) {i : Nat} {d : Decision α}
    (at_i : t.phases[i]? = some (.decided d)) {e : Nat × Task σ α} (he : tasks[i]? = some e)
    {records : List (Record α)} (hcalm : pool.executeAt (tasks.map fun t => (t.1, t.2.calm)) {}
      m.calm = .reached records m') : records[i]? = some (e.2.record pool.deadline d) := by
  obtain ⟨ds, hrun, rfl⟩ := executeAt_eq_reached.1 hcalm
  rw [← Jobs.calm_submitted, goes.run_eq] at hrun
  have hd := (Jobs.run_leads _ _ _ t).stays_decided at_i hrun
  have he' : (tasks.map fun t => (t.1, t.2.calm))[i]? = some (e.1, e.2.calm) := by
    rw [List.getElem?_map, he]
    rfl
  have hrecord := getElem?_records pool he' hd
  exact hrecord

/-- What a run of a pool comes to that is cancelled. -/
structure CutShort (pool : Pool) (tasks : List (Nat × Task σ α)) (m : Moment σ)
    (records : List (Record α)) (m' : Moment σ) : Prop where
  /-- The run is one of the ways in which the executions can be polled. -/
  trail : ∃ h b', Batch.Trail pool.slots (pool.deadline.map Time.Span.ticks) m
    ⟨tasks.map Prod.snd, (Jobs.submitted m tasks).phases, 0⟩ h m' b' ∧
      b'.Joins pool.deadline records
  /-- Where it is cancelled, the run that nobody cancels comes by. What is decided there is recorded
  as in that run, and everything else as cancelled. -/
  cut : ∃ cut t : Jobs σ α, (Jobs.submitted m tasks).calm.Goes pool.slots
      (pool.deadline.map Time.Span.ticks) t ∧ t.phases = cut.phases.map Phase.calm ∧
    ∀ (i : Nat) (e : Nat × Task σ α), tasks[i]? = some e →
      (∃ d : Decision α, cut.phases[i]? = some (.decided d) ∧
        records[i]? = some (e.2.record pool.deadline d) ∧
        ∀ records₀ m₀, pool.executeAt (tasks.map fun t => (t.1, t.2.calm)) {} m.calm =
          .reached records₀ m₀ → records₀[i]? = some (e.2.record pool.deadline d)) ∨
      ∃ (p : Phase σ α) (elapsed : Time.Span), cut.phases[i]? = some p ∧ p.isDecided = false ∧
        records[i]? = some (e.2.dismissal elapsed)

/-- A run that is cancelled comes to an end nevertheless. -/
theorem executeAt_cancelled (quiet : signals.abandonAt = none)
    (cancelled : (pool.executeAt tasks signals m).final.cancelled = true) :
    ∃ records m', pool.executeAt tasks signals m = .reached records m' ∧
      pool.CutShort tasks m records m' := by
  rw [executeAt_final] at cancelled
  obtain ⟨cut, t, hrun, goes, hphases⟩ := Jobs.run_cut quiet cancelled
  have hlength : (Jobs.submitted m tasks).phases.length = (tasks.map Prod.snd).length := by
    simp [Jobs.submitted]
  have htrail := Jobs.run_trail pool.slots (pool.deadline.map Time.Span.ticks) signals
    (Jobs.submitted m tasks) (tasks.map Prod.snd) (Jobs.ahead_submitted m tasks) hlength
  rw [hrun, Jobs.cancel, Course.meets_reached] at htrail
  obtain ⟨h, turn, hds, trail⟩ := htrail
  refine ⟨_, _, executeAt_eq_reached.2 ⟨_, hrun, rfl⟩, ⟨h, _, trail, _, ⟨rfl, hds⟩, ?_⟩, cut, t,
    goes, hphases, fun i e he => ?_⟩
  · rw [List.zip_map_left, List.map_map]
    rfl
  · have hi : i < cut.phases.length := by
      rw [List.length_map, List.length_map] at hds
      rw [hds]
      exact (List.getElem?_eq_some_iff.1 he).1
    obtain ⟨p, hp⟩ : ∃ p, cut.phases[i]? = some p := ⟨_, List.getElem?_eq_getElem hi⟩
    have hcancel : (cut.phases.map (Phase.cancel cut.moment.now))[i]? =
        some (p.cancel cut.moment.now) := by
      rw [List.getElem?_map, hp]
      rfl
    have hrecord := getElem?_records pool he hcancel
    cases hdecided : p.isDecided with
    | false =>
        rw [e.2.record_of_cancelled _ (Phase.resolution_cancel hdecided _)] at hrecord
        exact .inr ⟨p, _, hp, hdecided, hrecord⟩
    | true =>
        obtain ⟨d, rfl⟩ := Phase.eq_decided_of_isDecided hdecided
        have ht : t.phases[i]? = some (.decided d) := by
          rw [hphases, List.getElem?_map, hp]
          rfl
        exact .inl ⟨d, hp, hrecord, fun _ _ hcalm => getElem?_of_goes goes ht he hcalm⟩

/-- **What a cancellation does to executions.** However the executions of a batch are polled, if
the scan is cancelled then there is a point up to which all goes as it would without the
cancellation, and from which on no logic is called or goes on. What was decided by then is kept. A
logic that calls for the cancellation itself is still run until it ends or waits, and if its time is
over when it waits it is late; whatever is decided later is recorded as cancelled, and any poll
decides it. The run of a pool is such a trail and comes to its end. -/
theorem cancelled_executions (pool : Pool) (m : Moment σ) :
    (∀ (b : Batch σ α) h m' b',
      Batch.Trail pool.slots (pool.deadline.map Time.Span.ticks) m b h m' b' →
      m'.cancelled = true →
      ∃ h₁ e h₂ m₁ b₁ m₂ b₂, h = h₁ ++ (e ++ h₂) ∧
        Batch.Trail pool.slots (pool.deadline.map Time.Span.ticks) m b h₁ m₁ b₁ ∧
        b₁.Cancels pool.slots (pool.deadline.map Time.Span.ticks) m₁ e m₂ b₂ ∧
        (∃ h₀, Batch.Trail pool.slots (pool.deadline.map Time.Span.ticks) m.calm b.calm h₀ m₂.calm
          b₂.calm) ∧
        Batch.Dismissed pool.slots pool.deadline m₁ b₁ m₂ b₂ h₂ m' b') ∧
    ∀ (tasks : List (Nat × Task σ α)) signals, signals.abandonAt = none →
      (pool.executeAt tasks signals m).final.cancelled = true →
      ∃ records m', pool.executeAt tasks signals m = .reached records m' ∧
        pool.CutShort tasks m records m' := by
  constructor
  · intro b h m' b' trail cancelled
    obtain ⟨h₁, e, h₂, m₁, b₁, m₂, b₂, heq, before, cancels, after, without⟩ :=
      trail.cut cancelled
    exact ⟨h₁, e, h₂, m₁, b₁, m₂, b₂, heq, before, cancels, without,
      Batch.Trail.dismissed cancels after⟩
  · exact fun tasks signals quiet cancelled => executeAt_cancelled quiet cancelled

end Pool

/-! ## A logic that has no time left -/

/-- A task that calls for the cancellation after five ticks, and then waits for ever. -/
def quitter : Task Unit Nat :=
  ⟨{ role := .detector, name := "Quitter", author := "t", version := "1.0" }, [],
    .wait 5 (.cancel .forever), id⟩

/-- A single slot, and a deadline of five ticks. -/
def punctualPool : Pool := { Pool.ofSlots 1 with deadline := some (.ofMillis 5) }

/-- The only job of a pool that runs `quitter`, until it goes on. -/
def quitting : Phase Unit Nat := .waiting 0 ⟨5, 0⟩ (.cancel .forever) (some ⟨5, 1⟩)

/-- **A logic that cancels its scan can be late nevertheless.** It is not decided when it goes on,
and it waits again after its call; but its deadline is over at the same tick, so that it is recorded
as timed out and not as cancelled. -/
theorem quitter_is_late :
    (Jobs.submitted ⟨0, (), false⟩ [(0, quitter)]).Goes punctualPool.slots
        (punctualPool.deadline.map Time.Span.ticks) ⟨⟨0, (), false⟩, 2, [quitting]⟩ ∧
      quitting.isDecided = false ∧ quitting.logic = some (.cancel .forever) ∧
      (Activity.cancel .forever : Activity Unit Nat).settle 5 () false = (.idle, (), true) ∧
      ∃ record, punctualPool.executeAt [(0, quitter)] {} ⟨0, (), false⟩ =
          .reached [record] ⟨5, (), true⟩ ∧
        record.status = .timedOut ∧ ∀ elapsed, record ≠ quitter.dismissal elapsed := by
  have hgoes : (Jobs.submitted ⟨0, (), false⟩ [(0, quitter)]).Goes punctualPool.slots
      (punctualPool.deadline.map Time.Span.ticks) ⟨⟨0, (), false⟩, 2, [quitting]⟩ :=
    .event rfl rfl rfl rfl .here
  -- at the fifth tick both the wait and the deadline are over, and the wait comes first
  have hlate : (⟨⟨0, (), false⟩, 2, [quitting]⟩ : Jobs Unit Nat).Goes punctualPool.slots
      (punctualPool.deadline.map Time.Span.ticks)
      ⟨⟨5, (), true⟩, 4, [.decided ⟨.timedOut, 5⟩]⟩ := .event rfl rfl rfl rfl .here
  refine ⟨hgoes, rfl, rfl, rfl, quitter.record punctualPool.deadline ⟨.timedOut, 5⟩, ?_, rfl, ?_⟩
  · refine Pool.executeAt_eq_reached.2 ⟨[⟨.timedOut, 5⟩], ?_, rfl⟩
    rw [hgoes.run_eq, hlate.run_eq, Jobs.run_of_cancelled rfl]
    rfl
  · intro elapsed h
    have hstatus := congrArg Record.status h
    cases hstatus

end VulnScan.Execution
