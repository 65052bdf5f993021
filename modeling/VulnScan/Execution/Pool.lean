import VulnScan.Execution.Activity
import VulnScan.Execution.Course
import VulnScan.Execution.Progress

/-! # The pool of running plugins

A pool runs several activities at the same time, but never more than it has slots. Jobs wait for a
slot in the order in which they were submitted. A job that holds a slot is running; it may have a
deadline, which counts from the moment it got its slot.

Computation takes no time: between two events nothing happens, and an event is that a timer of a
running job is due, or that a job gets a free slot. At the same tick timers come first, in the
order in which they were set, and jobs get free slots afterwards. A job whose last timer and whose
deadline are due at the same tick still finishes.

Once the scan is cancelled, every job that is not decided fails, whether it is running or waits
for a slot.
-/

set_option autoImplicit false

namespace VulnScan.Execution

/-- How a job of the pool ended. -/
inductive Resolution (α : Type) where
  | value (a : α)
  | fault (e : Error)
  | collapse (message : String)
  | timedOut
  | cancelled

/-- The resolution of a job whose activity ended. -/
def Resolution.ofOutcome {α : Type} : Outcome α → Resolution α
  | .value a => .value a
  | .fault e => .fault e
  | .collapse message => .collapse message

/-- A resolution and the time that the job was running. -/
structure Decision (α : Type) where
  resolution : Resolution α
  elapsed : Nat

/-- A timer that was set, and its place among all that were set. -/
structure Timer where
  time : Nat
  turn : Nat

/-- The state of a job. -/
inductive Phase (σ α : Type) where
  /-- It was submitted at a time and has no slot yet. -/
  | queued (submitted : Nat) (job : Activity σ α)
  /-- It runs, and goes on when its timer is due. -/
  | waiting (since : Nat) (timer : Timer) (next : Activity σ α) (limit : Option Timer)
  /-- It runs, and will never go on. -/
  | idle (since : Nat) (limit : Option Timer)
  | decided (d : Decision α)

variable {σ α : Type}

/-- The jobs of a pool at some moment. `turn` counts the timers that were set. -/
structure Jobs (σ α : Type) where
  moment : Moment σ
  turn : Nat
  phases : List (Phase σ α)

/-- Whether a job holds a slot. -/
def Phase.isRunning : Phase σ α → Bool
  | .waiting _ _ _ _ | .idle _ _ => true
  | .queued _ _ | .decided _ => false

/-- Whether a job is decided. -/
def Phase.isDecided : Phase σ α → Bool
  | .decided _ => true
  | _ => false

/-- The number of slots that are taken. -/
def Jobs.taken (s : Jobs σ α) : Nat := s.phases.countP Phase.isRunning

/-! ## Events -/

/-- When an event is due, and its place among those of the same time: timers before slots, then by
turn. -/
structure Due where
  time : Nat
  isSlot : Bool
  turn : Nat

/-- Whether `a` comes before `b`. -/
def Due.before (a b : Due) : Bool :=
  a.time < b.time ||
    (a.time == b.time &&
      ((!a.isSlot && b.isSlot) || (a.isSlot == b.isSlot && a.turn < b.turn)))

/-- The event of a timer. -/
def Due.ofTimer (t : Timer) : Due := ⟨t.time, false, t.turn⟩

/-- The earlier of two events. -/
def Due.earlier (a b : Due) : Due := if b.before a then b else a

/-- The next event of the job with number `i`. -/
def Phase.due (now : Nat) (hasFree : Bool) (i : Nat) : Phase σ α → Option Due
  | .queued submitted _ => if hasFree then some ⟨max now submitted, true, i⟩ else none
  | .waiting _ timer _ none => some (.ofTimer timer)
  | .waiting _ timer _ (some limit) => some (Due.earlier (.ofTimer timer) (.ofTimer limit))
  | .idle _ limit => limit.map .ofTimer
  | .decided _ => none

/-- The first event of jobs that are numbered from `i`, with its job. -/
def firstDue (now : Nat) (hasFree : Bool) : (i : Nat) → List (Phase σ α) → Option (Due × Nat)
  | _, [] => none
  | i, p :: ps =>
    match p.due now hasFree i, firstDue now hasFree (i + 1) ps with
    | some d, some (e, j) => if e.before d then some (e, j) else some (d, i)
    | some d, none => some (d, i)
    | none, later => later

/-- The next event of the pool. -/
def Jobs.next (slots : Nat) (s : Jobs σ α) : Option (Due × Nat) :=
  firstDue s.moment.now (s.taken < slots) 0 s.phases

/-- The state of a running job whose activity has stopped at `now`. -/
def after (since now turn : Nat) (limit : Option Timer) : Activity.Stop σ α → Phase σ α
  | .ended o => .decided ⟨.ofOutcome o, now - since⟩
  | .idle =>
    if limit.any (·.time ≤ now) then .decided ⟨.timedOut, now - since⟩ else .idle since limit
  | .waiting d next =>
    if limit.any (·.time ≤ now) then .decided ⟨.timedOut, now - since⟩
    else .waiting since ⟨now + d, turn⟩ next limit

/-- What an event at the time of the moment does to its job, and to the moment. -/
def Phase.advance (deadline : Option Nat) (turn : Nat) (m : Moment σ) :
    Phase σ α → Option (Phase σ α × Moment σ)
  | .queued _ job =>
    let (stop, world, cancelled) := job.settle m.now m.world m.cancelled
    let limit := deadline.map fun d => ⟨m.now + d, turn + 1⟩
    some (after m.now m.now turn limit stop, ⟨m.now, world, cancelled⟩)
  | .waiting since timer next limit =>
    if timer.time ≤ m.now then
      let (stop, world, cancelled) := next.settle m.now m.world m.cancelled
      some (after since m.now turn limit stop, ⟨m.now, world, cancelled⟩)
    else some (.decided ⟨.timedOut, m.now - since⟩, m)
  | .idle since _ => some (.decided ⟨.timedOut, m.now - since⟩, m)
  | .decided _ => none

/-- The state after the event of job `i` at a time. -/
def Jobs.advance (deadline : Option Nat) (s : Jobs σ α) (time i : Nat) : Option (Jobs σ α) :=
  match s.phases[i]? with
  | none => none
  | some p =>
    (p.advance deadline s.turn { s.moment with now := time }).map fun q =>
      ⟨q.2, s.turn + 2, s.phases.set i q.1⟩

/-! ## Every run ends -/

/-- How far a job is from its end. -/
def Phase.rank : Phase σ α → Nat × Activity σ α
  | .decided _ => (0, .forever)
  | .idle _ _ => (1, .forever)
  | .waiting _ _ next _ => (2, next)
  | .queued _ _ => (3, .forever)

/-- `Nearer p q`: `p` is nearer to its end than `q`. -/
abbrev Nearer (p q : Phase σ α) : Prop := Prod.Lex (· < ·) Activity.Later p.rank q.rank

theorem nearer_wellFounded : WellFounded (@Nearer σ α) :=
  InvImage.wf Phase.rank (Prod.lex ⟨_, Nat.lt_wfRel.wf⟩ ⟨_, Activity.later_wellFounded⟩).wf

instance : WellFoundedRelation (List (Phase σ α)) :=
  ⟨Progress Nearer, Progress.wellFounded nearer_wellFounded⟩

theorem rank_after_lt {since now turn : Nat} {limit : Option Timer} {stop : Activity.Stop σ α} :
    (after since now turn limit stop).rank.1 < 3 := by
  cases stop <;> simp only [after] <;> (try split) <;> simp [Phase.rank]

theorem nearer_after {since since' now turn : Nat} {timer : Timer} {limit limit' : Option Timer}
    {next : Activity σ α} {stop : Activity.Stop σ α}
    (h : ∀ d a, stop = .waiting d a → Activity.Later a next) :
    Nearer (after since now turn limit stop) (.waiting since' timer next limit') := by
  cases stop with
  | ended o => exact Prod.Lex.left _ _ (by simp)
  | idle =>
    simp only [after]
    split <;> exact Prod.Lex.left _ _ (by simp)
  | waiting d a =>
    simp only [after]
    split
    · exact Prod.Lex.left _ _ (by simp)
    · exact Prod.Lex.right _ (h d a rfl)

/-- An event brings its job nearer to its end. -/
theorem nearer_advance {deadline : Option Nat} {turn : Nat} {m m' : Moment σ} {p q : Phase σ α}
    (h : p.advance deadline turn m = some (q, m')) : Nearer q p := by
  cases p with
  | queued submitted job =>
    simp only [Phase.advance, Option.some.injEq, Prod.mk.injEq] at h
    obtain ⟨rfl, -⟩ := h
    exact Prod.Lex.left _ _ rank_after_lt
  | waiting since timer next limit =>
    simp only [Phase.advance] at h
    split at h
    · simp only [Option.some.injEq, Prod.mk.injEq] at h
      obtain ⟨rfl, -⟩ := h
      exact nearer_after fun d a hs => Activity.later_settle hs
    · simp only [Option.some.injEq, Prod.mk.injEq] at h
      obtain ⟨rfl, -⟩ := h
      exact Prod.Lex.left _ _ (by simp)
  | idle since limit =>
    simp only [Phase.advance, Option.some.injEq, Prod.mk.injEq] at h
    obtain ⟨rfl, -⟩ := h
    exact Prod.Lex.left _ _ (by simp)
  | decided d => simp [Phase.advance] at h

/-- An event is progress of the pool. -/
theorem progress_advance {deadline : Option Nat} {s s' : Jobs σ α} {time i : Nat}
    (h : s.advance deadline time i = some s') : Progress Nearer s'.phases s.phases := by
  simp only [Jobs.advance] at h
  split at h
  · simp at h
  · next p hp =>
    obtain ⟨q, hq, rfl⟩ := Option.map_eq_some_iff.1 h
    exact Progress.set hp (nearer_advance hq)

/-! ## Running -/

/-- The decision about a job when the scan is cancelled at `now`. -/
def Phase.cancel (now : Nat) : Phase σ α → Decision α
  | .decided d => d
  | .queued _ _ => ⟨.cancelled, 0⟩
  | .waiting since _ _ _ | .idle since _ => ⟨.cancelled, now - since⟩

/-- The time at which a job is decided when the scan is cancelled at `now`. -/
def Phase.cancelTime (now : Nat) : Phase σ α → Nat
  | .queued submitted _ => max now submitted
  | _ => now

/-- The end of a run that is cancelled at its moment. -/
def Jobs.cancel (s : Jobs σ α) : Course σ (List (Decision α)) :=
  let now := s.moment.now
  let last := (s.phases.map (Phase.cancelTime now)).foldl max now
  .reached (s.phases.map (Phase.cancel now)) { s.moment with now := last, cancelled := true }

/-- The decisions about jobs that are all decided. -/
def decisions? (phases : List (Phase σ α)) : Option (List (Decision α)) :=
  phases.mapM fun p => match p with
    | .decided d => some d
    | _ => none

/-- Runs the jobs of a pool until all are decided. -/
def Jobs.run (slots : Nat) (deadline : Option Nat) (signals : Signals) (s : Jobs σ α) :
    Course σ (List (Decision α)) :=
  match decisions? s.phases with
  | some ds => .reached ds s.moment
  | none =>
    if s.moment.cancelled then s.cancel
    else
      let next := s.next slots
      match signals.first (next.map (·.1.time)) with
      | some (.abandoned t) => .abandoned { s.moment with now := max s.moment.now t }
      | some (.cancelled t) =>
        Jobs.cancel { s with moment := { s.moment with now := max s.moment.now t } }
      | none =>
        match next with
        | none => .stuck s.moment
        | some (due, i) =>
          match h : s.advance deadline due.time i with
          | none => .stuck s.moment
          | some s' =>
            have := progress_advance h
            s'.run slots deadline signals
termination_by s.phases
decreasing_by assumption

/-- How many jobs run at the same time, and for how long at most. -/
structure Pool where
  slots : Nat
  slots_pos : 0 < slots
  deadline : Option Time.Span := none

namespace Pool

variable {σ α : Type}

/-- The pool with `n` slots, but at least one. -/
def ofSlots (n : Nat) : Pool := { slots := max n 1, slots_pos := by omega }

/-- The greatest number of slots. -/
def mostSlots : Nat := 0x1FFFFFFFFFFFFFFF

/-- The pool with `n` slots, but at least one; there is none with more than the greatest number. -/
def ofSlots? (n : Nat) : Option Pool := if n ≤ mostSlots then some (ofSlots n) else none

/-- What is said about a pool with too many slots. -/
def tooMany : String :=
  "a semaphore may not have more than MAX_PERMITS permits (" ++ Text.decimal mostSlots ++ ")"

/-- How many slots nobody has. -/
def available (pool : Pool) (s : Jobs σ α) : Nat := pool.slots - s.taken

/-- Once all jobs are decided nobody has a slot. -/
theorem available_decided (pool : Pool) (m : Moment σ) (turn : Nat) (ds : List (Decision α)) :
    pool.available ⟨m, turn, ds.map .decided⟩ = pool.slots := by
  have htaken : (⟨m, turn, ds.map .decided⟩ : Jobs σ α).taken = 0 := by
    rw [Jobs.taken, List.countP_map, List.countP_eq_zero]
    simp [Phase.isRunning]
  rw [available, htaken, Nat.sub_zero]

/-- Runs jobs, each submitted at a time, from a moment on. -/
def run (pool : Pool) (signals : Signals) (jobs : List (Nat × Activity σ α)) (m : Moment σ) :
    Course σ (List (Decision α)) :=
  (Jobs.mk m 0 (jobs.map fun j => .queued j.1 j.2)).run pool.slots
    (pool.deadline.map Time.Span.ticks) signals

end Pool

end VulnScan.Execution
