import VulnScan.Proofs.Execution.Contention
import VulnScan.Proofs.Execution.Dismissal

/-! # The time that executions took

The clock of an execution starts when its logic is called, which is when it has its slot, and it
stops when the execution is decided. The life of an execution tells both times (`runTime`), and
whoever else uses the pool meanwhile, the time that is recorded is the one between them
(`Pool.executions_timed`). An execution that was dismissed while it waited for a slot took no time.
The one exception are logics that break off: they are recorded with no time at all, however long
they ran (`crash_loses_time`).
-/

set_option autoImplicit false

namespace VulnScan.Execution

variable {σ α : Type}

/-! ## Times in a life -/

/-- Whether the execution is decided. -/
def Happening.isDecision : Happening σ α → Bool
  | .decided => true
  | .submitted _ | .begins _ | .goesOn => false

/-- The time at which the logic is called. -/
def calledAt (life : List (Nat × Happening σ α)) : Option Nat :=
  (life.find? fun x => x.2.isBegin).map Prod.fst

/-- The time at which the execution is decided. -/
def decidedAt (life : List (Nat × Happening σ α)) : Option Nat :=
  (life.find? fun x => x.2.isDecision).map Prod.fst

/-- The time from the call of the logic to the decision; none if it is never called. -/
def runTime (life : List (Nat × Happening σ α)) : Nat :=
  match calledAt life, decidedAt life with
  | some began, some ended => ended - began
  | _, _ => 0

/-- The time since when a job has its slot. -/
def Phase.since? : Phase σ α → Option Nat
  | .waiting since _ _ _ | .idle since _ => some since
  | .queued _ _ | .decided _ => none

/-- The life of an execution with its times, given its task and the state of its job. -/
inductive Phase.Timed (now : Nat) (t : Task σ α) :
    List (Nat × Happening σ α) → Phase σ α → Prop
  | queued {submitted : Nat} (h : submitted ≤ now) :
      Timed now t [(submitted, .submitted t)] (.queued submitted t.activity)
  | running {submitted since : Nat} {on : List (Nat × Happening σ α)} {p : Phase σ α}
      (h : submitted ≤ since) (h' : since ≤ now) (goesOn : ∀ x ∈ on, x.2 = .goesOn)
      (slot : p.since? = some since) :
      Timed now t ((submitted, .submitted t) :: (since, .begins t.activity) :: on) p
  | ran {submitted since ended : Nat} {on : List (Nat × Happening σ α)} {r : Resolution α}
      (h : submitted ≤ since) (h' : since ≤ ended) (h'' : ended ≤ now)
      (goesOn : ∀ x ∈ on, x.2 = .goesOn) :
      Timed now t
        ((submitted, .submitted t) :: (since, .begins t.activity) :: (on ++ [(ended, .decided)]))
        (.decided ⟨r, ended - since⟩)
  | dismissed {submitted ended : Nat} (h : submitted ≤ ended) (h' : ended ≤ now) :
      Timed now t [(submitted, .submitted t), (ended, .decided)] (.decided ⟨.cancelled, 0⟩)

section

variable {now now' : Nat} {t : Task σ α} {life on : List (Nat × Happening σ α)} {p q : Phase σ α}
  {d : Decision α}

theorem find?_isDecision_goesOn (h : ∀ x ∈ on, x.2 = .goesOn) (ended : Nat) :
    (on ++ [((ended, .decided) : Nat × Happening σ α)]).find? (fun x => x.2.isDecision) =
      some (ended, .decided) := by
  rw [List.find?_append, List.find?_eq_none.2 fun x hx => by rw [h x hx]; exact Bool.noConfusion]
  rfl

/-- The time that a decision counts is the one that the life tells. -/
theorem Phase.Timed.elapsed_eq (h : Phase.Timed now t life (.decided d)) :
    d.elapsed = runTime life := by
  generalize hp : (.decided d : Phase σ α) = p at h
  cases h with
  | queued h => cases hp
  | running h h' goesOn slot =>
      subst hp
      cases slot
  | @ran submitted since ended on r h h' h'' goesOn =>
      cases hp
      have hcalled : calledAt ((submitted, Happening.submitted t) ::
          (since, .begins t.activity) :: (on ++ [(ended, .decided)])) = some since := rfl
      have hdecided : decidedAt ((submitted, Happening.submitted t) ::
          (since, .begins t.activity) :: (on ++ [(ended, .decided)])) = some ended := by
        show ((on ++ [(ended, Happening.decided)]).find? _).map Prod.fst = some ended
        rw [find?_isDecision_goesOn goesOn]
        rfl
      rw [runTime, hcalled, hdecided]
  | dismissed h h' =>
      cases hp
      rfl

/-- An execution whose logic was never called took no time. -/
theorem runTime_of_uncalled (h : calledAt life = none) : runTime life = 0 := by
  unfold runTime
  rw [h]

theorem Phase.Timed.later (h : Phase.Timed now t life p) (onward : now ≤ now') :
    Phase.Timed now' t life p := by
  cases h with
  | queued h => exact .queued (Nat.le_trans h onward)
  | running h h' goesOn slot => exact .running h (Nat.le_trans h' onward) goesOn slot
  | ran h h' h'' goesOn => exact .ran h h' (Nat.le_trans h'' onward) goesOn
  | dismissed h h' => exact .dismissed h (Nat.le_trans h' onward)

/-- Where an activity has stopped, its job still has its slot, or it is decided with the time since
it got it. -/
theorem since?_after (since now turn : Nat) (limit : Option Timer) (stop : Activity.Stop σ α) :
    ((after since now turn limit stop).since? = some since ∧
        (after since now turn limit stop).conclusion = []) ∨
      ∃ r, after since now turn limit stop = .decided ⟨r, now - since⟩ := by
  cases stop with
  | ended o => exact .inr ⟨_, rfl⟩
  | idle =>
      simp only [after]
      split
      · exact .inr ⟨_, rfl⟩
      · exact .inl ⟨rfl, rfl⟩
  | waiting d next =>
      simp only [after]
      split
      · exact .inr ⟨_, rfl⟩
      · exact .inl ⟨rfl, rfl⟩

/-- The life of an execution whose logic has just stopped. -/
theorem Phase.timed_after {submitted since turn : Nat} {limit : Option Timer}
    {stop : Activity.Stop σ α} (h : submitted ≤ since) (h' : since ≤ now)
    (goesOn : ∀ x ∈ on, x.2 = .goesOn) :
    Phase.Timed now t
      ((submitted, .submitted t) :: (since, .begins t.activity) ::
        (on ++ (after since now turn limit stop).conclusion.map fun x => (now, x)))
      (after since now turn limit stop) := by
  rcases since?_after since now turn limit stop with ⟨hsince, hconclusion⟩ | ⟨r, hr⟩
  · rw [hconclusion, List.map_nil, List.append_nil]
    exact .running h h' goesOn hsince
  · rw [hr]
    exact .ran h h' (Nat.le_refl now) goesOn

/-- A poll takes a life on. -/
theorem Phase.Timed.polled {deadline : Option Nat} {turn : Nat} {m m' : Moment σ}
    (h : Phase.Timed m.now t life p) (hp : p.Polled deadline turn m q m') :
    Phase.Timed m'.now t (life ++ (p.pollEvents m q).map fun x => (m.now, x)) q := by
  -- a job that has its slot and is decided now
  have hdecided : ∀ {since : Nat} (r : Resolution α), p.since? = some since →
      Phase.Timed m.now t (life ++ [(m.now, .decided)]) (.decided ⟨r, m.now - since⟩) := by
    intro since r hsince
    cases h with
    | queued h => cases hsince
    | running h h' goesOn slot =>
        cases slot.symm.trans hsince
        exact .ran h h' (Nat.le_refl _) goesOn
    | ran h h' h'' goesOn => cases hsince
    | dismissed h h' => cases hsince
  cases hp with
  | dismissed cancelled undecided =>
      rw [Phase.pollEvents, if_pos cancelled]
      cases p with
      | queued submitted a =>
          cases h with
          | queued h => exact .dismissed h (Nat.le_refl _)
          | running h h' goesOn slot => cases slot
      | waiting since timer next limit => exact hdecided _ rfl
      | idle since limit => exact hdecided _ rfl
      | decided d => cases undecided
  | begins uncancelled settle =>
      rw [Phase.pollEvents, uncancelled, if_neg Bool.noConfusion]
      cases h with
      | queued h => exact Phase.timed_after h (Nat.le_refl _) (List.forall_mem_nil _)
      | running h h' goesOn slot => cases slot
  | @goesOn since timer next limit stop w c uncancelled due settle =>
      rw [Phase.pollEvents, uncancelled, if_neg Bool.noConfusion]
      cases h with
      | @running submitted since' on p h h' goesOn slot =>
          cases slot
          have hon : ∀ x ∈ on ++ [(m.now, Happening.goesOn (σ := σ) (α := α))], x.2 = .goesOn := by
            intro x hx
            rcases List.mem_append.1 hx with hx | hx
            · exact goesOn x hx
            · rw [List.mem_singleton.1 hx]
          have hafter : Phase.Timed m.now t ((submitted, .submitted t) ::
              (since, .begins t.activity) :: ((on ++ [(m.now, .goesOn)]) ++
                (after since m.now turn limit stop).conclusion.map fun x => (m.now, x)))
              (after since m.now turn limit stop) := Phase.timed_after h h' hon
          rw [Phase.resumption, if_pos due, List.cons_append, List.cons_append, List.map_append]
          rw [List.append_assoc] at hafter
          exact hafter
  | late uncancelled waits due =>
      rw [Phase.pollEvents, uncancelled, if_neg Bool.noConfusion, Phase.resumption,
        if_neg (Nat.not_le.2 waits)]
      exact hdecided _ rfl
  | lateIdle uncancelled due =>
      rw [Phase.pollEvents, uncancelled, if_neg Bool.noConfusion]
      exact hdecided _ rfl

end

theorem Phase.timed_lasting (deadline : Option Nat) :
    Batch.Lasting deadline (fun now _ (t : Task σ α) life p => Phase.Timed now t life p) where
  submitted now _ _ := .queued (Nat.le_refl now)
  later onward _ h := h.later onward
  polled h hpoll := h.polled (Phase.polled_of_poll hpoll)

/-! ## Recorded times -/

/-- What the record of a task tells of the time, given the life of its execution. -/
structure Task.Clocked (deadline : Option Time.Span) (now : Nat) (t : Task σ α)
    (life : List (Nat × Happening σ α)) (d : Decision α) : Prop where
  lived : Phase.Timed now t life (.decided d)
  elapsed : (∀ message, d.resolution ≠ .collapse message) →
    (t.record deadline d).elapsed = .ofTicks (runTime life)
  uncalled : calledAt life = none → (t.record deadline d).elapsed = .zero
  /-- A logic that breaks off loses its time. -/
  collapsed : ∀ message, d.resolution = .collapse message → (t.record deadline d).elapsed = .zero

theorem Phase.Timed.clocked {now : Nat} {t : Task σ α} {life : List (Nat × Happening σ α)}
    {d : Decision α} (h : Phase.Timed now t life (.decided d)) (deadline : Option Time.Span) :
    t.Clocked deadline now life d := by
  have hticks : d.elapsed = runTime life := h.elapsed_eq
  have hcollapsed : ∀ message, d.resolution = .collapse message →
      (t.record deadline d).elapsed = .zero := by
    intro message hd
    rw [Task.record, hd]
  have helapsed : (∀ message, d.resolution ≠ .collapse message) →
      (t.record deadline d).elapsed = .ofTicks (runTime life) := by
    intro hd
    rw [Task.record, ← hticks]
    cases hr : d.resolution with
    | collapse message => exact absurd hr (hd message)
    | value a => rfl
    | fault e => rfl
    | timedOut => rfl
    | cancelled => rfl
  refine ⟨h, helapsed, fun huncalled => ?_, hcollapsed⟩
  by_cases hd : ∃ message, d.resolution = .collapse message
  · obtain ⟨message, hd⟩ := hd
    exact hcollapsed message hd
  · rw [helapsed fun message hm => hd ⟨message, hm⟩, runTime_of_uncalled huncalled]
    rfl

/-- **The time that is recorded is the time that the logic ran.** However the executions of tasks go
that share their pool with others, one that is decided was recorded with the time from the call of
its logic to the decision, and with none if its logic was never called. Only an execution whose
logic breaks off is recorded with no time in any case. The runs of a pool are of this kind. -/
theorem Pool.executions_timed (pool : Pool) (tasks : List (Task σ α)) (m : Moment σ) :
    (∀ h m' b', Batch.Passage (pool.deadline.map Time.Span.ticks) m { tasks } h m' b' →
      ∀ (i : Nat) (t : Task σ α) (d : Decision α), tasks[i]? = some t →
        b'.phases[i]? = some (.decided d) → t.Clocked pool.deadline m'.now (lifeIn i h) d) ∧
    ∀ signals, (pool.execute tasks signals m).Meets
      (fun records m' => records.length = tasks.length ∧ ∃ h b',
        Batch.Passage (pool.deadline.map Time.Span.ticks) m { tasks } h m' b' ∧
        ∀ (i : Nat) (t : Task σ α) (r : Record α), tasks[i]? = some t → records[i]? = some r →
          ∃ d, r = t.record pool.deadline d ∧ t.Clocked pool.deadline m'.now (lifeIn i h) d)
      fun _ => True := by
  have hpassage : ∀ h m' b',
      Batch.Passage (pool.deadline.map Time.Span.ticks) m { tasks } h m' b' →
      ∀ (i : Nat) (t : Task σ α) (d : Decision α), tasks[i]? = some t →
        b'.phases[i]? = some (.decided d) → t.Clocked pool.deadline m'.now (lifeIn i h) d := by
    intro h m' b' passage i t d ht hd
    have hupholds := passage.upholds (Phase.timed_lasting _)
    rw [← show b'.tasks = tasks from passage.tasks_eq] at ht
    exact (hupholds.jobs ht hd).clocked pool.deadline
  exact ⟨hpassage, fun signals => pool.execute_decided hpassage signals⟩

/-- A task that gets its slot after three ticks and then waits for five is recorded with five. -/
theorem delayed_timed :
    Batch.Passage none ⟨0, (), false⟩ { tasks := [pacedTask 5 (.value 7)] }
      (delayed 3 5 (.value 7)) ⟨8, (), false⟩ (delayedBatch 5 (.value 7)) ∧
    runTime (lifeIn 0 (delayed 3 5 (.value 7))) = 5 ∧
    ((pacedTask 5 (.value 7)).record none ⟨.value 7, 5⟩).elapsed = .ofTicks 5 := by
  have passage := passage_delayed 3 (by decide : 0 < 5) (.value 7)
  have clocked : (pacedTask 5 (.value 7)).Clocked none 8 (lifeIn 0 (delayed 3 5 (.value 7)))
      ⟨.value 7, 5⟩ :=
    (Pool.executions_timed (Pool.ofSlots 1) [pacedTask 5 (.value 7)] ⟨0, (), false⟩).1
      _ _ _ passage 0 _ _ rfl rfl
  exact ⟨passage, rfl, clocked.elapsed fun message h => by cases h⟩

/-! ## A logic that breaks off -/

/-- A task whose logic breaks off after five ticks. -/
def crasher : Task Unit Nat := pacedTask 5 (.collapse "boom")

/-- What happens when it runs alone. -/
def crash : Annals Unit Nat := delayed 0 5 (.collapse "boom")

/-- **A logic that breaks off loses its time**: it ran for five ticks, but it is recorded with no
time. -/
theorem crash_loses_time :
    ∃ record b', (Pool.ofSlots 1).execute [crasher] {} ⟨0, (), false⟩ =
        .reached [record] ⟨5, (), false⟩ ∧
      Batch.Passage none ⟨0, (), false⟩ { tasks := [crasher] } crash ⟨5, (), false⟩ b' ∧
      b'.Joins none [record] ∧
      runTime (lifeIn 0 crash) = 5 ∧ record.elapsed ≠ .ofTicks (runTime (lifeIn 0 crash)) := by
  refine ⟨crasher.record none ⟨.collapse "boom", 5⟩, _, ?_,
    passage_delayed 0 (by decide) (.collapse "boom"),
    ⟨[⟨.collapse "boom", 5⟩], ⟨rfl, rfl⟩, rfl⟩, rfl, by decide⟩
  have hgoes : (Jobs.submitted ⟨0, (), false⟩ [(0, crasher)]).Goes 1 none
      ⟨⟨5, (), false⟩, 4, [.decided ⟨.collapse "boom", 5⟩]⟩ :=
    .event rfl rfl rfl rfl (.event rfl rfl rfl rfl .here)
  refine Pool.executeAt_eq_reached.2 ⟨[⟨.collapse "boom", 5⟩], ?_, rfl⟩
  have hover :
      (⟨⟨5, (), false⟩, 4, [.decided ⟨.collapse "boom", 5⟩]⟩ : Jobs Unit Nat).run 1 none {} =
        .reached [⟨.collapse "boom", 5⟩] ⟨5, (), false⟩ := by
    rw [Jobs.run]
    rfl
  exact hgoes.run_eq.trans hover

end VulnScan.Execution
