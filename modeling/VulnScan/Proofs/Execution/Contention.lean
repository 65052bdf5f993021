import VulnScan.Proofs.Execution.BatchRun
import VulnScan.Proofs.Execution.Isolation

/-! # Executions among others

A batch seldom has its pool for itself. Between two polls of its executions the clock moves on,
others change the world, and the scan may be cancelled; and whether there is a free slot when an
execution is polled is up to everybody who uses the pool. `Batch.Passage` allows all of this, and
writes down what happens to the executions of the batch, and when.

What holds of an execution when it is submitted, and goes on to hold however it is polled and
whatever the others do meanwhile, holds of it at all times (`Batch.Passage.upholds`). The trails
of a batch are passages, and so are the runs of a pool (`Pool.execute_passage`).
-/

set_option autoImplicit false

namespace VulnScan.Execution

variable {σ α : Type}

/-! ## Annals -/

/-- What happens to the executions of a batch, each with its time and the number of the
execution. -/
abbrev Annals (σ α : Type) : Type := List (Nat × Nat × Happening σ α)

/-- The history, with one time for all that happens. -/
def History.dated (now : Nat) (h : History σ α) : Annals σ α := h.map fun x => (now, x)

/-- What happens to the execution with number `i`, and when. -/
def lifeIn (i : Nat) (h : Annals σ α) : List (Nat × Happening σ α) :=
  (h.filter fun e => e.2.1 = i).map fun e => (e.1, e.2.2)

@[simp] theorem lifeIn_append (i : Nat) (h h' : Annals σ α) :
    lifeIn i (h ++ h') = lifeIn i h ++ lifeIn i h' := by
  simp only [lifeIn, List.filter_append, List.map_append]

theorem lifeIn_dated_self (i now : Nat) (l : List (Happening σ α)) :
    lifeIn i (History.dated now (l.map fun x => (i, x))) = l.map fun x => (now, x) := by
  simp [lifeIn, History.dated, List.filter_map, Function.comp_def]

theorem lifeIn_dated_of_ne {i j : Nat} (h : j ≠ i) (now : Nat) (l : List (Happening σ α)) :
    lifeIn i (History.dated now (l.map fun x => (j, x))) = [] := by
  simp [lifeIn, History.dated, List.filter_map, Function.comp_def, h]

/-! ## What a poll can come to -/

/-- `p.Polled deadline turn m q m'`: a poll at the moment `m` takes a job from `p` to `q`, and
leaves the moment `m'`. -/
inductive Phase.Polled (deadline : Option Nat) (turn : Nat) (m : Moment σ) :
    Phase σ α → Phase σ α → Moment σ → Prop
  /-- The scan is cancelled. -/
  | dismissed {p : Phase σ α} (cancelled : m.cancelled = true) (undecided : p.isDecided = false) :
      Polled deadline turn m p (.decided (p.cancel m.now)) m
  /-- It gets its slot. -/
  | begins {submitted : Nat} {a : Activity σ α} {stop : Activity.Stop σ α} {w : σ} {c : Bool}
      (uncancelled : m.cancelled = false)
      (settle : a.settle m.now m.world m.cancelled = (stop, w, c)) :
      Polled deadline turn m (.queued submitted a)
        (after m.now m.now turn (deadline.map fun d => ⟨m.now + d, turn + 1⟩) stop) ⟨m.now, w, c⟩
  /-- Its wait is over. -/
  | goesOn {since : Nat} {timer : Timer} {next : Activity σ α} {limit : Option Timer}
      {stop : Activity.Stop σ α} {w : σ} {c : Bool} (uncancelled : m.cancelled = false)
      (due : timer.time ≤ m.now)
      (settle : next.settle m.now m.world m.cancelled = (stop, w, c)) :
      Polled deadline turn m (.waiting since timer next limit) (after since m.now turn limit stop)
        ⟨m.now, w, c⟩
  /-- Its deadline is over, while it still waits. -/
  | late {since : Nat} {timer limit : Timer} {next : Activity σ α}
      (uncancelled : m.cancelled = false) (waits : m.now < timer.time)
      (due : limit.time ≤ m.now) :
      Polled deadline turn m (.waiting since timer next (some limit))
        (.decided ⟨.timedOut, m.now - since⟩) m
  /-- Its deadline is over, and it would never go on. -/
  | lateIdle {since : Nat} {limit : Timer} (uncancelled : m.cancelled = false)
      (due : limit.time ≤ m.now) :
      Polled deadline turn m (.idle since (some limit)) (.decided ⟨.timedOut, m.now - since⟩) m

theorem Phase.polled_of_poll {deadline : Option Nat} {turn : Nat} {free : Prop} [Decidable free]
    {m m' : Moment σ} {p q : Phase σ α} (h : p.poll deadline turn free m = some (q, m')) :
    p.Polled deadline turn m q m' := by
  cases hm : m.cancelled with
  | true =>
      obtain ⟨undecided, rfl, rfl⟩ := Phase.eq_of_poll h hm
      exact .dismissed hm undecided
  | false =>
      obtain ⟨ready, advances⟩ := Phase.advance_of_poll h hm
      cases p with
      | queued submitted a =>
          cases advances
          exact .begins hm rfl
      | waiting since timer next limit =>
          by_cases due : timer.time ≤ m.now
          · rw [advance, if_pos due] at advances
            cases advances
            exact .goesOn hm due rfl
          · rw [advance, if_neg due] at advances
            cases advances
            obtain ⟨l, rfl, hl⟩ := ready.resolve_left due
            exact .late hm (Nat.lt_of_not_le due) hl
      | idle since limit =>
          cases advances
          obtain ⟨l, rfl, hl⟩ := ready
          exact .lateIdle hm hl
      | decided d => cases advances

namespace Batch

/-! ## Passages -/

/-- What can happen to the executions of a batch on a pool that others use too. -/
inductive Passage (deadline : Option Nat) :
    Moment σ → Batch σ α → Annals σ α → Moment σ → Batch σ α → Prop
  | done {m : Moment σ} {b : Batch σ α} : Passage deadline m b [] m b
  /-- None of the executions is polled for a while. -/
  | meanwhile {m m' : Moment σ} {b b' : Batch σ α} {h : Annals σ α} (m₁ : Moment σ)
      (onward : m.now ≤ m₁.now) (stays : m.cancelled = true → m₁.cancelled = true)
      (rest : Passage deadline m₁ b h m' b') : Passage deadline m b h m' b'
  /-- An execution is polled, or submitted. There is a slot for it or not. -/
  | step {m m₁ m' : Moment σ} {b b₁ b' : Batch σ α} {e : History σ α} {h : Annals σ α}
      (free : Prop) [Decidable free] (tick : b.Tick deadline free m e m₁ b₁)
      (rest : Passage deadline m₁ b₁ h m' b') :
      Passage deadline m b (e.dated m.now ++ h) m' b'

variable {deadline : Option Nat} {m m' : Moment σ} {b b' : Batch σ α}

/-- A trail is a passage in which the batch has its pool for itself. -/
theorem Trail.passage {slots : Nat} {h : History σ α} (trail : Trail slots deadline m b h m' b') :
    ∃ h', Passage deadline m b h' m' b' ∧ h'.map Prod.snd = h := by
  induction trail with
  | done => exact ⟨[], .done, rfl⟩
  | @passes m m' b b' h now onward rest ih =>
      obtain ⟨h', passage, hmap⟩ := ih
      exact ⟨h', .meanwhile { m with now := now } onward id passage, hmap⟩
  | @called m m' b b' h rest ih =>
      obtain ⟨h', passage, hmap⟩ := ih
      exact ⟨h', .meanwhile { m with cancelled := true } (Nat.le_refl m.now) (fun _ => rfl) passage,
        hmap⟩
  | @step m m₁ m' b b₁ b' e h tick rest ih =>
      obtain ⟨h', passage, hmap⟩ := ih
      refine ⟨_, .step _ tick passage, ?_⟩
      rw [List.map_append, hmap, History.dated, List.map_map]
      exact congrArg (· ++ h) (List.map_id e)

/-! ## What is upheld in all passages -/

/-- What is claimed of an execution: at which time and in a scan that is cancelled or not, of which
task, after what life, in which state of its job. -/
abbrev Claim (σ α : Type) : Type :=
  Nat → Bool → Task σ α → List (Nat × Happening σ α) → Phase σ α → Prop

/-- The claim holds of an execution that is submitted, it is not affected by what happens elsewhere,
and it is kept by a poll. -/
structure Lasting (deadline : Option Nat) (claim : Claim σ α) : Prop where
  submitted : ∀ now cancelled t,
    claim now cancelled t [(now, .submitted t)] (.queued now t.activity)
  later : ∀ {now now' cancelled cancelled' t l p}, now ≤ now' →
    (cancelled = true → cancelled' = true) → claim now cancelled t l p →
      claim now' cancelled' t l p
  polled : ∀ {turn free} [Decidable free] {m m' : Moment σ} {t l p q},
    claim m.now m.cancelled t l p → p.poll deadline turn free m = some (q, m') →
      claim m'.now m'.cancelled t (l ++ (p.pollEvents m q).map fun x => (m.now, x)) q

/-- The claim holds of all executions of the batch, with their lives in the annals. -/
structure Upholds (claim : Claim σ α) (m : Moment σ) (b : Batch σ α) (h : Annals σ α) : Prop where
  jobs : ∀ {i t p}, b.tasks[i]? = some t → b.phases[i]? = some p →
    claim m.now m.cancelled t (lifeIn i h) p
  unborn : ∀ {i}, b.phases.length ≤ i → lifeIn i h = []

variable {claim : Claim σ α} {h h' : Annals σ α} {e : History σ α} {free : Prop}
  [Decidable free]

theorem Upholds.later (upholds : b.Upholds claim m h) (lasting : Lasting deadline claim)
    (onward : m.now ≤ m'.now) (stays : m.cancelled = true → m'.cancelled = true) :
    b.Upholds claim m' h :=
  ⟨fun ht hp => lasting.later onward stays (upholds.jobs ht hp), upholds.unborn⟩

/-- A step keeps what lasts. -/
theorem Upholds.step (upholds : b.Upholds claim m h) (lasting : Lasting deadline claim)
    (tick : b.Tick deadline free m e m' b') : b'.Upholds claim m' (h ++ e.dated m.now) := by
  have hnow : m.now ≤ m'.now := Nat.le_of_eq tick.step.now_eq.symm
  have hstays : m.cancelled = true → m'.cancelled = true := tick.step.stays_cancelled
  cases tick with
  | @submits t next =>
      have hown := lifeIn_dated_self b.phases.length m.now [Happening.submitted t]
      have hother : ∀ i, b.phases.length ≠ i →
          lifeIn i (History.dated m.now [(b.phases.length, Happening.submitted t)]) = [] :=
        fun i hi => lifeIn_dated_of_ne hi m.now [Happening.submitted t]
      constructor
      · intro i t' p ht hp
        rcases Nat.lt_trichotomy i b.phases.length with hlt | rfl | hgt
        · rw [lifeIn_append, hother i (by omega), List.append_nil]
          exact upholds.jobs ht ((List.getElem?_append_left hlt).symm.trans hp)
        · -- the task that is submitted now, to which nothing has happened before
          rw [List.getElem?_concat_length] at hp
          have htask : some t = some t' := next.symm.trans ht
          cases hp
          cases htask
          rw [lifeIn_append, upholds.unborn (Nat.le_refl _)]
          exact hown ▸ lasting.submitted m.now m.cancelled t
        · rw [List.getElem?_eq_none (by simp; omega)] at hp
          cases hp
      · intro i hi
        rw [List.length_append, List.length_singleton] at hi
        rw [lifeIn_append, upholds.unborn (by omega), hother i (by omega), List.append_nil]
  | @polls k p q m' at_k polled =>
      constructor
      · intro i t p' ht hp'
        rw [lifeIn_append]
        rcases getElem?_set_cases hp' with ⟨rfl, rfl⟩ | ⟨hne, hold⟩
        · rw [lifeIn_dated_self]
          exact lasting.polled (upholds.jobs ht at_k) polled
        · rw [lifeIn_dated_of_ne (Ne.symm hne), List.append_nil]
          exact lasting.later hnow hstays (upholds.jobs ht hold)
      · intro i hi
        have hlen : b.phases.length ≤ i := by simpa using hi
        have hne : k ≠ i := by
          have hk : k < b.phases.length := (List.getElem?_eq_some_iff.1 at_k).1
          omega
        rw [lifeIn_append, upholds.unborn hlen, lifeIn_dated_of_ne hne, List.append_nil]

theorem Upholds.passage (passage : Passage deadline m b h' m' b')
    (lasting : Lasting deadline claim) (upholds : b.Upholds claim m h) :
    b'.Upholds claim m' (h ++ h') := by
  induction passage generalizing h with
  | done => rwa [List.append_nil]
  | meanwhile m₁ onward stays rest ih => exact ih (upholds.later lasting onward stays)
  | step free tick rest ih =>
      rw [← List.append_assoc]
      exact ih (upholds.step lasting tick)

/-- **What lasts holds at all times**, of every task that was submitted. -/
theorem Passage.upholds {tasks : List (Task σ α)} (passage : Passage deadline m { tasks } h m' b')
    (lasting : Lasting deadline claim) : b'.Upholds claim m' h := by
  have hstart : Upholds claim m ({ tasks } : Batch σ α) [] :=
    ⟨nofun, fun _ => rfl⟩
  exact hstart.passage passage lasting

/-- A passage leaves the tasks as they are. -/
theorem Passage.tasks_eq (passage : Passage deadline m b h m' b') : b'.tasks = b.tasks := by
  induction passage with
  | done => rfl
  | meanwhile m₁ onward stays rest ih => exact ih
  | step free tick rest ih => exact ih.trans tick.step.tasks_eq

/-- The records of a batch that is done are those of its decisions. -/
theorem Joins.exists_decision {limit : Option Time.Span} {records : List (Record α)}
    (joins : b.Joins limit records) {i : Nat} {t : Task σ α} {r : Record α}
    (ht : b.tasks[i]? = some t) (hr : records[i]? = some r) :
    ∃ d, b.phases[i]? = some (.decided d) ∧ r = t.record limit d := by
  obtain ⟨ds, hds, rfl⟩ := joins
  rw [List.getElem?_map, Option.map_eq_some_iff] at hr
  obtain ⟨⟨t', d⟩, hzip, rfl⟩ := hr
  obtain ⟨ht', hd⟩ := List.getElem?_zip_eq_some.1 hzip
  obtain rfl : t = t' := Option.some.inj (ht.symm.trans ht')
  refine ⟨d, ?_, rfl⟩
  rw [hds.phases, List.getElem?_map, hd]
  rfl

theorem Joins.length_eq {limit : Option Time.Span} {records : List (Record α)}
    (joins : b.Joins limit records) : records.length = b.tasks.length := by
  obtain ⟨ds, hds, rfl⟩ := joins
  rw [List.length_map, List.length_zip, hds.length, Nat.min_self]

end Batch

/-- The run of a pool is a passage of its batch. Where it leads to records, they are those that
the batch leaves in the end. -/
theorem Pool.execute_passage (pool : Pool) (tasks : List (Task σ α)) (signals : Signals)
    (m : Moment σ) :
    (pool.execute tasks signals m).Meets
      (fun records m' => ∃ h b',
        Batch.Passage (pool.deadline.map Time.Span.ticks) m { tasks } h m' b' ∧
          b'.Joins pool.deadline records)
      (fun br => ∃ h b',
        Batch.Passage (pool.deadline.map Time.Span.ticks) m { tasks } h br.moment b') := by
  refine (pool.execute_trail tasks signals m).imp ?_ ?_
  · rintro records m' - ⟨h, b', trail, joins⟩
    obtain ⟨h', passage, -⟩ := trail.passage
    exact ⟨h', b', passage, joins⟩
  · rintro br ⟨h, b', trail⟩
    obtain ⟨h', passage, -⟩ := trail.passage
    exact ⟨h', b', passage⟩

/-- What holds of every task that is decided, whoever uses the pool meanwhile, holds of all the
records of a run of the pool. -/
theorem Pool.execute_decided (pool : Pool) {tasks : List (Task σ α)} {m : Moment σ}
    {Q : Annals σ α → Moment σ → Nat → Task σ α → Decision α → Prop}
    (hQ : ∀ h m' b', Batch.Passage (pool.deadline.map Time.Span.ticks) m { tasks } h m' b' →
      ∀ (i : Nat) (t : Task σ α) (d : Decision α), tasks[i]? = some t →
        b'.phases[i]? = some (.decided d) → Q h m' i t d)
    (signals : Signals) :
    (pool.execute tasks signals m).Meets
      (fun records m' => records.length = tasks.length ∧ ∃ h b',
        Batch.Passage (pool.deadline.map Time.Span.ticks) m { tasks } h m' b' ∧
        ∀ (i : Nat) (t : Task σ α) (r : Record α), tasks[i]? = some t → records[i]? = some r →
          ∃ d, r = t.record pool.deadline d ∧ Q h m' i t d)
      fun _ => True := by
  refine (pool.execute_passage tasks signals m).imp ?_ fun _ _ => trivial
  rintro records m' - ⟨h, b', passage, joins⟩
  have htasks : b'.tasks = tasks := passage.tasks_eq
  refine ⟨htasks ▸ joins.length_eq, h, b', passage, fun i t r ht hr => ?_⟩
  obtain ⟨d, hd, hrecord⟩ := joins.exists_decision (htasks.symm ▸ ht) hr
  exact ⟨d, hrecord, hQ h m' b' passage i t d ht hd⟩

/-! ## A task on a busy pool -/

/-- What happens to a task that only waits, if all slots are taken by others for some ticks. -/
def delayed (busy ticks : Nat) (o : Outcome Nat) : Annals Unit Nat :=
  [(0, 0, .submitted (pacedTask ticks o)), (busy, 0, .begins (pacedTask ticks o).activity),
    (busy + ticks, 0, .goesOn), (busy + ticks, 0, .decided)]

/-- The job of the task while it runs. -/
def delayedJob (busy ticks : Nat) (o : Outcome Nat) : Phase Unit Nat :=
  .waiting busy ⟨busy + ticks, 0⟩ (.finish o) none

/-- The batch of the task in the end. -/
def delayedBatch (ticks : Nat) (o : Outcome Nat) : Batch Unit Nat :=
  ⟨[pacedTask ticks o], [.decided ⟨.ofOutcome o, ticks⟩], 4⟩

theorem poll_delayedJob (busy ticks : Nat) (o : Outcome Nat) :
    (delayedJob busy ticks o).poll none 2 True ⟨busy + ticks, (), false⟩ =
      some (.decided ⟨.ofOutcome o, ticks⟩, ⟨busy + ticks, (), false⟩) := by
  have ready : (delayedJob busy ticks o).Ready (busy + ticks) True := Or.inl (Nat.le_refl _)
  rw [Phase.poll_of_uncancelled rfl ready, delayedJob, Phase.advance, if_pos (Nat.le_refl _)]
  show some (Phase.decided ⟨.ofOutcome o, busy + ticks - busy⟩, _) = _
  rw [Nat.add_sub_cancel_left]

/-- The task goes on as soon as the others leave it a slot. -/
theorem passage_delayed (busy : Nat) {ticks : Nat} (h : 0 < ticks) (o : Outcome Nat) :
    Batch.Passage none ⟨0, (), false⟩ { tasks := [pacedTask ticks o] } (delayed busy ticks o)
      ⟨busy + ticks, (), false⟩ (delayedBatch ticks o) := by
  obtain ⟨ticks, rfl⟩ := Nat.exists_eq_succ_of_ne_zero (Nat.ne_of_gt h)
  have submitted : Batch.Tick none False ⟨0, (), false⟩ { tasks := [pacedTask (ticks + 1) o] }
      [(0, .submitted (pacedTask (ticks + 1) o))] ⟨0, (), false⟩
      ⟨[pacedTask (ticks + 1) o], [.queued 0 (pacedTask (ticks + 1) o).activity], 0⟩ :=
    .submits rfl
  have begins : Batch.Tick none True ⟨busy, (), false⟩
      ⟨[pacedTask (ticks + 1) o], [.queued 0 (pacedTask (ticks + 1) o).activity], 0⟩
      [(0, .begins (pacedTask (ticks + 1) o).activity)] ⟨busy, (), false⟩
      ⟨[pacedTask (ticks + 1) o], [delayedJob busy (ticks + 1) o], 2⟩ :=
    .polls (i := 0) (p := .queued 0 (pacedTask (ticks + 1) o).activity)
      (q := delayedJob busy (ticks + 1) o) rfl rfl
  have ends : Batch.Tick none True ⟨busy + (ticks + 1), (), false⟩
      ⟨[pacedTask (ticks + 1) o], [delayedJob busy (ticks + 1) o], 2⟩
      [(0, .goesOn), (0, .decided)] ⟨busy + (ticks + 1), (), false⟩
      (delayedBatch (ticks + 1) o) := by
    have tick := Batch.Tick.polls
      (b := ⟨[pacedTask (ticks + 1) o], [delayedJob busy (ticks + 1) o], 2⟩) (i := 0) rfl
      (poll_delayedJob busy (ticks + 1) o)
    simpa [Phase.pollEvents, Phase.resumption, Phase.conclusion, delayedJob, delayedBatch]
      using tick
  exact .step False submitted (.meanwhile ⟨busy, (), false⟩ (Nat.zero_le busy) id
    (.step True begins (.meanwhile ⟨busy + (ticks + 1), (), false⟩ (Nat.le_add_right _ _) id
      (.step True ends .done))))

end VulnScan.Execution
