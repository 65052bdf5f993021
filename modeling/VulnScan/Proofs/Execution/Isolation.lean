import VulnScan.Proofs.Execution.Records
import VulnScan.Text.Quoted

/-! # Executions do not disturb each other

Plugins that only wait before they end have a *prospect*: how long they take by themselves, and
what they come to. On a pool with a deadline the prospect of a job alone settles its decision
(`Prospect.decision?`): how long the job waited for its slot, how its siblings end and how many
slots there are plays no part. So every record is the one that the task leaves on a pool of its own
(`Pool.execute_isolated`), up to the number by which the runtime reports a breakdown.

Timers have a resolution of one tick, and a deadline between two ticks ends at the later one. So a
plugin can take longer than such a deadline and still be in time. And what the runtime reports of a
breakdown names the number that it gave to the execution, so no two reports are the same.
-/

set_option autoImplicit false

namespace VulnScan.Execution

variable {σ α : Type}

/-! ## Prospects -/

/-- What becomes of an activity that only waits: it ends after so many ticks, or never. -/
inductive Prospect (α : Type) where
  | ends (ticks : Nat) (o : Outcome α)
  | never

namespace Prospect

/-- The prospect after one more wait. -/
def later (d : Nat) : Prospect α → Prospect α
  | .ends ticks o => .ends (d + ticks) o
  | .never => .never

/-- It takes longer than the limit. -/
def Exceeds (limit : Nat) : Prospect α → Prop
  | .ends ticks _ => limit < ticks
  | .never => True

/-- The decision about a job with the prospect. There is none if it never ends and has no
deadline. -/
def decision? : Option Nat → Prospect α → Option (Decision α)
  | none, .ends ticks o => some ⟨.ofOutcome o, ticks⟩
  | none, .never => none
  | some limit, .ends ticks o =>
    some (if ticks ≤ limit then ⟨.ofOutcome o, ticks⟩ else ⟨.timedOut, limit⟩)
  | some limit, .never => some ⟨.timedOut, limit⟩

theorem later_zero (r : Prospect α) : r.later 0 = r := by
  cases r with
  | ends ticks o => simp only [later, Nat.zero_add]
  | never => rfl

theorem later_later (d d' : Nat) (r : Prospect α) : (r.later d').later d = r.later (d + d') := by
  cases r with
  | ends ticks o => simp only [later, Nat.add_assoc]
  | never => rfl

/-- A job whose limit comes before the end of a wait is late by then. -/
theorem decision?_of_exceeds {limit : Nat} {r : Prospect α} (h : r.Exceeds limit) :
    r.decision? (some limit) = some ⟨.timedOut, limit⟩ := by
  cases r with
  | ends ticks o =>
      have hlate : limit < ticks := h
      simp only [decision?, if_neg (Nat.not_le.2 hlate)]
  | never => rfl

theorem exceeds_later {limit d : Nat} {r : Prospect α} (h : limit < d) :
    (r.later d).Exceeds limit := by
  cases r with
  | ends ticks o =>
      show limit < d + ticks
      omega
  | never => trivial

/-- A job that ends by its limit is decided by its outcome. -/
theorem decision?_of_le {deadline : Option Nat} {ticks : Nat} {o : Outcome α}
    (h : ∀ limit, deadline = some limit → ticks ≤ limit) :
    (ends ticks o).decision? deadline = some ⟨.ofOutcome o, ticks⟩ := by
  cases deadline with
  | none => rfl
  | some limit => simp only [decision?, if_pos (h limit rfl)]

end Prospect

namespace Activity

/-- The activity waits any number of times and then ends or hangs. It neither changes the world nor
calls for a cancellation. -/
def OnlyWaits : Activity σ α → Prop
  | .finish _ | .forever => True
  | .wait _ next => next.OnlyWaits
  | .touch _ _ | .cancel _ => False

/-- How long an activity that only waits takes by itself, and what it comes to. -/
def prospect : Activity σ α → Prospect α
  | .finish o => .ends 0 o
  | .wait d next => next.prospect.later d
  | .forever | .touch _ _ | .cancel _ => .never

/-- Where an activity with the prospect stops: it has ended or hangs, or has a wait before it. -/
def Stop.Foretold (r : Prospect α) : Stop σ α → Prop
  | .ended o => r = .ends 0 o
  | .idle => r = .never
  | .waiting d next => 0 < d ∧ next.OnlyWaits ∧ r = next.prospect.later d

/-- Up to its next wait an activity that only waits does nothing, and its prospect foretells where
it stops. -/
theorem OnlyWaits.settle {a : Activity σ α} {now : Nat} {w w' : σ} {c c' : Bool}
    {stop : Stop σ α} (h : a.OnlyWaits) (hs : a.settle now w c = (stop, w', c')) :
    w' = w ∧ c' = c ∧ stop.Foretold a.prospect := by
  induction a generalizing w c with
  | finish o =>
      cases hs
      exact ⟨rfl, rfl, rfl⟩
  | forever =>
      cases hs
      exact ⟨rfl, rfl, rfl⟩
  | wait d next ih =>
      cases d with
      | zero =>
          -- no time at all is no wait
          have hprospect : (wait 0 next).prospect = next.prospect := Prospect.later_zero _
          rw [hprospect]
          exact ih h hs
      | succ d =>
          cases hs
          exact ⟨rfl, rfl, Nat.succ_pos d, h, rfl⟩
  | touch change next ih => exact h.elim
  | cancel next ih => exact h.elim

end Activity

/-! ## The prospect settles the decision -/

/-- A job on its way to the decision that its prospect `r` settles. Its times count from the moment
at which it got its slot. -/
def Phase.Heads (deadline : Option Nat) (r : Prospect α) : Phase σ α → Prop
  | .queued _ a => a.OnlyWaits ∧ a.prospect = r
  | .waiting since timer next limit =>
    limit.map Timer.time = deadline.map (since + ·) ∧
      ∃ d, timer.time = since + d ∧ next.OnlyWaits ∧ next.prospect.later d = r
  | .idle since limit => limit.map Timer.time = deadline.map (since + ·) ∧ r = .never
  | .decided d => r.decision? deadline = some d

/-- An activity that went on for `d` ticks, no longer than its limit, and stops again. -/
theorem heads_after {deadline : Option Nat} {b : Activity σ α} {since d turn : Nat}
    {limit : Option Timer} {w w' : σ} {c c' : Bool} {stop : Activity.Stop σ α} (hb : b.OnlyWaits)
    (hlimit : limit.map Timer.time = deadline.map (since + ·))
    (inTime : ∀ l, deadline = some l → d ≤ l)
    (hs : b.settle (since + d) w c = (stop, w', c')) :
    (after since (since + d) turn limit stop).Heads deadline (b.prospect.later d) := by
  obtain ⟨-, -, hstop⟩ := hb.settle hs
  -- a limit that is due by now is due at this very tick
  have hdue : limit.any (·.time ≤ since + d) = true → deadline = some d := by
    intro h
    cases limit with
    | none => simp at h
    | some t =>
        cases deadline with
        | none => simp at hlimit
        | some l =>
            simp only [Option.map_some, Option.some.injEq] at hlimit
            simp only [Option.any_some, decide_eq_true_eq] at h
            have hle := inTime l rfl
            have : l = d := by omega
            rw [this]
  cases stop with
  | ended o =>
      have hprospect : b.prospect = .ends 0 o := hstop
      show (b.prospect.later d).decision? deadline = some ⟨.ofOutcome o, since + d - since⟩
      rw [hprospect, Nat.add_sub_cancel_left]
      exact Prospect.decision?_of_le inTime
  | idle =>
      have hprospect : b.prospect = .never := hstop
      simp only [after, hprospect]
      split
      · next h =>
          show Prospect.decision? deadline .never = some ⟨.timedOut, since + d - since⟩
          rw [hdue h, Nat.add_sub_cancel_left]
          rfl
      · exact ⟨hlimit, rfl⟩
  | waiting d' next =>
      obtain ⟨hpos, hnext, hprospect⟩ := hstop
      simp only [after]
      rw [hprospect, Prospect.later_later]
      split
      · next h =>
          show (next.prospect.later (d + d')).decision? deadline =
            some ⟨.timedOut, since + d - since⟩
          rw [hdue h, Nat.add_sub_cancel_left]
          exact Prospect.decision?_of_exceeds (Prospect.exceeds_later (by omega))
      · exact ⟨hlimit, d + d', by simp only [Nat.add_assoc], hnext, rfl⟩

/-- An event keeps a job on its way, and neither changes the world nor cancels anything. -/
theorem Phase.Heads.moves {deadline : Option Nat} {r : Prospect α} {turn : Nat} {m m' : Moment σ}
    {p q : Phase σ α} (h : p.Heads deadline r) (hm : p.Moves deadline turn m q m') :
    q.Heads deadline r ∧ m'.world = m.world ∧ m'.cancelled = m.cancelled := by
  cases hm with
  | starts hs =>
      obtain ⟨hwaits, rfl⟩ := h
      obtain ⟨hw, hc, -⟩ := hwaits.settle hs
      refine ⟨?_, hw, hc⟩
      rw [← Prospect.later_zero (Activity.prospect _)]
      refine heads_after (d := 0) hwaits ?_ (fun _ _ => Nat.zero_le _) hs
      simp [Option.map_map, Function.comp_def]
  | @resumes since timer next limit stop w c due inTime hs =>
      obtain ⟨hlimit, d, htimer, hnext, rfl⟩ := h
      obtain ⟨hw, hc, -⟩ := hnext.settle hs
      refine ⟨?_, hw, hc⟩
      have hnow : m.now = since + d := due.symm.trans htimer
      rw [hnow] at hs ⊢
      refine heads_after hnext hlimit (fun l hl => ?_) hs
      cases limit with
      | none => simp [hl] at hlimit
      | some t =>
          have hle := inTime t rfl
          simp only [hl, Option.map_some, Option.some.injEq] at hlimit
          omega
  | @expires since timer limit next due late =>
      obtain ⟨hlimit, d, htimer, -, rfl⟩ := h
      cases deadline with
      | none => simp at hlimit
      | some l =>
          simp only [Option.map_some, Option.some.injEq] at hlimit
          have helapsed : m.now - since = l := by omega
          refine ⟨?_, rfl, rfl⟩
          show (next.prospect.later d).decision? (some l) = some ⟨.timedOut, m.now - since⟩
          rw [helapsed]
          exact Prospect.decision?_of_exceeds (Prospect.exceeds_later (by omega))
  | @expiresIdle since limit due =>
      obtain ⟨hlimit, rfl⟩ := h
      cases deadline with
      | none => simp at hlimit
      | some l =>
          simp only [Option.map_some, Option.some.injEq] at hlimit
          have helapsed : m.now - since = l := by omega
          refine ⟨?_, rfl, rfl⟩
          show Prospect.decision? (some l) .never = some ⟨.timedOut, m.now - since⟩
          rw [helapsed]
          rfl

/-- Every job comes to the decision that its prospect settles, whatever order the jobs are run
in, if nobody interrupts the run and every job without end has a limit. -/
theorem Jobs.Leads.heads {slots : Nat} {deadline : Option Nat} {s : Jobs σ α}
    {c : Course σ (List (Decision α))} {rs : List (Prospect α)} (h : s.Leads slots deadline {} c)
    (hslots : 0 < slots) (hm : s.moment.cancelled = false)
    (limited : ∀ r ∈ rs, r = .never → deadline.isSome)
    (heads : List.Forall₂ (fun r p => p.Heads deadline r) rs s.phases) :
    c.Meets (fun ds _ => List.Forall₂ (fun r d => r.decision? deadline = some d) rs ds)
      fun _ => False := by
  induction h with
  | decided all =>
      rw [all, List.forall₂_map_right_iff] at heads
      exact heads
  | cancelled undecided called =>
      rcases called with called | called
      · simp [hm] at called
      · cases called
  | abandoned called => cases called
  | stuck undecided uncancelled uncalled none =>
      -- a job that never goes on has a limit
      obtain ⟨since, hidle⟩ := exists_idle_of_next_eq_none hslots undecided none
      obtain ⟨i, hi⟩ := List.mem_iff_getElem?.1 hidle
      obtain ⟨r, hr, -, hlimit, hnever⟩ := exists_of_forall₂_getElem? heads hi
      have hsome := limited r hr hnever
      cases deadline with
      | none => cases hsome
      | some l => cases hlimit
  | event uncancelled next quiet at_i moves rest ih =>
      obtain ⟨r, hr, hi, hp⟩ := exists_of_forall₂_getElem? heads at_i
      obtain ⟨hq, -, hc⟩ := hp.moves moves
      refine ih (hc.trans hm) (forall₂_set heads fun r' hr' => ?_)
      rw [hi] at hr'
      cases hr'
      exact hq

/-! ## Records -/

namespace Pool

/-- The prospects of tasks on a pool without interruptions settle their records. -/
theorem execute_of_onlyWaits (pool : Pool) (tasks : List (Task σ α)) {m : Moment σ}
    (hm : m.cancelled = false) (waits : ∀ t ∈ tasks, t.activity.OnlyWaits)
    (limited : ∀ t ∈ tasks, t.activity.prospect = .never → pool.deadline.isSome) :
    ∃ records m', pool.execute tasks {} m = .reached records m' ∧
      List.Forall₂ (fun t r => ∃ d,
        t.activity.prospect.decision? (pool.deadline.map Time.Span.ticks) = some d ∧
          r = t.record pool.deadline d) tasks records := by
  refine Course.Meets.exists_reached (execute_meets_of_run (B := fun _ => False) ?_) fun _ => id
  have limited' : ∀ r ∈ tasks.map (fun t => t.activity.prospect), r = .never →
      (pool.deadline.map Time.Span.ticks).isSome := by
    simpa using limited
  refine ((run_leads pool {} _ m).heads pool.slots_pos hm limited' ?_).imp ?_ fun _ => id
  · simp only [List.forall₂_map_left_iff, List.forall₂_map_right_iff]
    exact List.forall₂_same.2 fun t ht => ⟨waits t ht, rfl⟩
  · intro ds m' _ hds
    clear * - hds
    induction tasks generalizing ds with
    | nil => exact .nil
    | cons t tasks ih =>
        obtain ⟨d, ds, hd, hrest, rfl⟩ := List.forall₂_cons_left_iff.1 hds
        exact .cons ⟨d, hd, rfl⟩ (ih ds hrest)

/-- A record tells that the task was late if and only if its prospect exceeds the deadline. -/
theorem status_eq_timedOut_iff {deadline : Option Time.Span} {t : Task σ α} {r : Prospect α}
    {d : Decision α} (h : r.decision? (deadline.map Time.Span.ticks) = some d) :
    (t.record deadline d).status = .timedOut ↔
      ∃ limit, deadline = some limit ∧ r.Exceeds limit.ticks := by
  have hended : ∀ (o : Outcome α) (elapsed : Nat),
      (t.record deadline ⟨.ofOutcome o, elapsed⟩).status ≠ .timedOut := by
    intro o elapsed
    cases o <;> exact nofun
  cases deadline with
  | none =>
      cases r with
      | ends ticks o =>
          cases h
          exact iff_of_false (hended o ticks) (by simp)
      | never => cases h
  | some limit =>
      by_cases hlate : r.Exceeds limit.ticks
      · have hd : some (⟨.timedOut, limit.ticks⟩ : Decision α) = some d :=
          (Prospect.decision?_of_exceeds hlate).symm.trans h
        cases hd
        exact iff_of_true rfl ⟨limit, rfl, hlate⟩
      · cases r with
        | ends ticks o =>
            have hle : ticks ≤ limit.ticks := Nat.not_lt.1 hlate
            have hd : some (⟨.ofOutcome o, ticks⟩ : Decision α) = some d := by
              rw [← h]
              refine (Prospect.decision?_of_le fun l hl => ?_).symm
              cases hl
              exact hle
            cases hd
            refine iff_of_false (hended o ticks) ?_
            rintro ⟨limit', hlimit, hexceeds⟩
            cases hlimit
            exact hlate hexceeds
        | never => exact absurd trivial hlate

/-- **Executions do not disturb each other.** Tasks that only wait before they end, and that end by
themselves if there is no deadline, are executed together on a pool and nobody interrupts them.
Then all of them are recorded, and every record is the same, to the error and the time it took, as
the one that the task leaves alone on an idle pool of any size with the same deadline; only if it
breaks off, the error tells what the runtime reports of this execution and not of the other. The
record tells that the task was late if and only if there is a deadline and the task takes longer by
itself than that many ticks, however long it waited for its slot. -/
theorem execute_isolated {pool : Pool} {tasks : List (Task σ α)} {m : Moment σ}
    (hm : m.cancelled = false) (waits : ∀ t ∈ tasks, t.activity.OnlyWaits)
    (limited : ∀ t ∈ tasks, t.activity.prospect = .never → pool.deadline.isSome) :
    ∃ records m', pool.execute tasks {} m = .reached records m' ∧
      List.Forall₂ (fun t r =>
        (∀ (idle : Pool) (m₁ : Moment σ) (crash : String → String),
          idle.deadline = pool.deadline → m₁.cancelled = false →
          ∃ r₁ m₂, idle.execute [{ t with crash }] {} m₁ = .reached [r₁] m₂ ∧
            r.RetoldAs t.crash crash r₁) ∧
        (r.status = .timedOut ↔
          ∃ limit, pool.deadline = some limit ∧ t.activity.prospect.Exceeds limit.ticks))
        tasks records := by
  obtain ⟨records, m', hrun, hrecords⟩ := pool.execute_of_onlyWaits tasks hm waits limited
  refine ⟨records, m', hrun, ?_⟩
  have hboth := (List.forall₂_and_left (p := (· ∈ tasks)) _ _).2 ⟨fun t ht => ht, hrecords⟩
  refine hboth.imp ?_
  rintro t r ⟨ht, d, hd, rfl⟩
  refine ⟨fun idle m₁ crash hdeadline hm₁ => ?_, status_eq_timedOut_iff hd⟩
  -- alone the task has the same prospect, and so the same decision
  obtain ⟨records₁, m₂, hrun₁, hrecords₁⟩ := idle.execute_of_onlyWaits [{ t with crash }] hm₁
    (by simpa using waits t ht) (by simpa [hdeadline] using limited t ht)
  obtain ⟨r₁, rest, ⟨d₁, hd₁, hr₁⟩, hrest, rfl⟩ := List.forall₂_cons_left_iff.1 hrecords₁
  cases hrest
  rw [hdeadline, hd] at hd₁
  cases hd₁
  rw [hr₁, hdeadline] at hrun₁
  exact ⟨_, m₂, hrun₁, t.record_retoldAs crash pool.deadline d⟩

end Pool

/-! ## Runs with a short deadline -/

/-- The plugin of the tasks below. -/
def pacedDetector : Plugin.Definition :=
  { role := .detector, name := "Paced", author := "t", version := "1.0" }

/-- What is reported of the execution with a number that breaks off. -/
def numbered (number : Nat) (message : String) : String :=
  "task " ++ Text.decimal number ++ " panicked with message " ++ Text.quoted message

/-- A task that does nothing but wait, and then ends. -/
def pacedTask (ticks : Nat) (o : Outcome Nat) : Task Unit Nat :=
  ⟨pacedDetector, [], .wait ticks (.finish o), numbered 1⟩

/-- Four tasks: one in time, one that breaks off, one that is late and one that hangs. -/
def contendingTasks : List (Task Unit Nat) :=
  [pacedTask 2 (.value 7), { pacedTask 1 (.collapse "boom") with crash := numbered 2 },
    { pacedTask 3 (.value 8) with crash := numbered 3 },
    ⟨pacedDetector, [], .forever, numbered 4⟩]

/-- A single slot, and a deadline of two ticks. -/
def narrowPool : Pool := { Pool.ofSlots 1 with deadline := some (.ofMillis 2) }

/-- The four tasks run one after the other on a single slot, each as it would run alone. -/
theorem contendingTasks_isolated :
    (∀ t ∈ contendingTasks, t.activity.OnlyWaits) ∧
      (∀ t ∈ contendingTasks, t.activity.prospect = .never → narrowPool.deadline.isSome) ∧
      ∃ records m', narrowPool.execute contendingTasks {} ⟨0, (), false⟩ = .reached records m' ∧
        List.Forall₂ (fun t r =>
          (∀ (idle : Pool) (m₁ : Moment Unit) (crash : String → String),
            idle.deadline = narrowPool.deadline → m₁.cancelled = false →
            ∃ r₁ m₂, idle.execute [{ t with crash }] {} m₁ = .reached [r₁] m₂ ∧
              r.RetoldAs t.crash crash r₁) ∧
          (r.status = .timedOut ↔
            ∃ limit, narrowPool.deadline = some limit ∧ t.activity.prospect.Exceeds limit.ticks))
          contendingTasks records := by
  have waits : ∀ t ∈ contendingTasks, t.activity.OnlyWaits := by
    simp [contendingTasks, pacedTask, Activity.OnlyWaits]
  have limited : ∀ t ∈ contendingTasks, t.activity.prospect = .never →
      narrowPool.deadline.isSome := fun _ _ _ => rfl
  exact ⟨waits, limited, Pool.execute_isolated rfl waits limited⟩

/-- A deadline of one nanosecond. -/
def hastyPool : Pool := { Pool.ofSlots 1 with deadline := some ⟨1, by decide⟩ }

/-- A task that ends by itself before its deadline is recorded as its outcome says. -/
theorem execute_pacedTask {pool : Pool} {ticks : Nat} {o : Outcome Nat} (crash : String → String)
    (inTime : ∀ limit, pool.deadline = some limit → ticks ≤ limit.ticks) :
    ∃ m', pool.execute [{ pacedTask ticks o with crash }] {} ⟨0, (), false⟩ =
      .reached [({ pacedTask ticks o with crash } : Task Unit Nat).record pool.deadline
        ⟨.ofOutcome o, ticks⟩] m' := by
  have waits : ∀ t ∈ [({ pacedTask ticks o with crash } : Task Unit Nat)],
      t.activity.OnlyWaits := by
    simp [pacedTask, Activity.OnlyWaits]
  have ends : (pacedTask ticks o).activity.prospect = .ends ticks o := rfl
  obtain ⟨records, m', hrun, hrecords⟩ := pool.execute_of_onlyWaits _
    (m := ⟨0, (), false⟩) rfl waits (by simp [ends])
  obtain ⟨record, rest, ⟨d, hd, rfl⟩, hrest, rfl⟩ := List.forall₂_cons_left_iff.1 hrecords
  cases hrest
  have hdecision : (Prospect.ends ticks o).decision? (pool.deadline.map Time.Span.ticks) = some d :=
    hd
  rw [Prospect.decision?_of_le (by simpa using inTime)] at hdecision
  cases hdecision
  exact ⟨m', hrun⟩

/-- **A plugin can take longer than its deadline and still be in time**, and no two breakdowns are
reported alike. The deadline of a nanosecond ends at the next tick, and a plugin that takes a tick
ends by then: it is recorded as having taken a million times as long as it was given, and it
succeeds. If it breaks off, the record depends on the number that the runtime gave to it. -/
theorem pacedTask_not_isolated :
    (∃ record m' limit, hastyPool.execute [pacedTask 1 (.value 7)] {} ⟨0, (), false⟩ =
        .reached [record] m' ∧
      hastyPool.deadline = some limit ∧ limit.nanos < record.elapsed.nanos ∧
      record.status = .succeeded) ∧
    ∃ r₁ r₂ m₁ m₂,
      hastyPool.execute [{ pacedTask 1 (.collapse "boom") with crash := numbered 1 }] {}
        ⟨0, (), false⟩ = .reached [r₁] m₁ ∧
      hastyPool.execute [{ pacedTask 1 (.collapse "boom") with crash := numbered 2 }] {}
        ⟨0, (), false⟩ = .reached [r₂] m₂ ∧
      r₁ ≠ r₂ := by
  -- one nanosecond ends at the first tick, and so does the wait
  have inTime : ∀ limit, hastyPool.deadline = some limit → 1 ≤ limit.ticks := by
    intro limit h
    cases h
    decide
  obtain ⟨m', hrun⟩ := execute_pacedTask (o := .value 7) (numbered 1) inTime
  obtain ⟨m₁, hrun₁⟩ := execute_pacedTask (o := .collapse "boom") (numbered 1) inTime
  obtain ⟨m₂, hrun₂⟩ := execute_pacedTask (o := .collapse "boom") (numbered 2) inTime
  refine ⟨⟨_, m', _, hrun, rfl, by decide, rfl⟩, _, _, m₁, m₂, hrun₁, hrun₂, fun h => ?_⟩
  -- the number stands in the cause of the error
  let causes (r : Record Nat) : List String := match r.result with
    | .error e => e.causes
    | .ok _ => []
  exact absurd (congrArg causes h) (by decide +kernel)

end VulnScan.Execution
