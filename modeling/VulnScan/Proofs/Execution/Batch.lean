import VulnScan.Proofs.Execution.Records

/-! # Batches of tasks, step by step

A run of a pool is one of the many ways in which its tasks can be interleaved. `Batch.Step` allows
all of them: while some tasks of a batch are running, others are still being submitted; a job that
is ready moves on whenever it comes to it, no matter which others are ready; and once the scan is
cancelled, jobs can be dismissed in any order, but one that has just looked may still move on. What
a step does to an execution is told in a history.

The history of every execution has one of a few shapes (`Life`), and a step keeps to them
(`Batch.Told.step`): the logic of a task is called once at most, it is the logic of that task, and
nothing happens to an execution that is decided.
-/

set_option autoImplicit false

namespace VulnScan.Execution

variable {σ α : Type}

/-! ## Histories -/

/-- What happens to an execution. -/
inductive Happening (σ α : Type) where
  /-- Its task is handed to the pool. -/
  | submitted (t : Task σ α)
  /-- It has a slot, and its logic is called. -/
  | begins (logic : Activity σ α)
  /-- Its logic goes on after a wait. -/
  | goesOn
  | decided

namespace Happening

/-- The task that is handed over. -/
def task? : Happening σ α → Option (Task σ α)
  | .submitted t => some t
  | .begins _ | .goesOn | .decided => none

/-- Whether the logic is called. -/
def isBegin : Happening σ α → Bool
  | .begins _ => true
  | .submitted _ | .goesOn | .decided => false

/-- Whether the logic runs: it is called, or it goes on. -/
def isRun : Happening σ α → Bool
  | .begins _ | .goesOn => true
  | .submitted _ | .decided => false

end Happening

/-- What happens to the executions of a batch, which are numbered like its tasks. -/
abbrev History (σ α : Type) : Type := List (Nat × Happening σ α)

/-- What happens to the execution with number `i`. -/
def lifeOf (i : Nat) (h : History σ α) : List (Happening σ α) :=
  (h.filter fun e => e.1 = i).map Prod.snd

/-- The tasks that are handed over, in order. -/
def submissions (h : History σ α) : List (Task σ α) := h.filterMap fun e => e.2.task?

@[simp] theorem lifeOf_append (i : Nat) (h h' : History σ α) :
    lifeOf i (h ++ h') = lifeOf i h ++ lifeOf i h' := by
  simp only [lifeOf, List.filter_append, List.map_append]

theorem lifeOf_map_self (i : Nat) (l : List (Happening σ α)) :
    lifeOf i (l.map fun x => (i, x)) = l := by
  simp [lifeOf, List.filter_map, Function.comp_def]

theorem lifeOf_map_of_ne {i j : Nat} (h : j ≠ i) (l : List (Happening σ α)) :
    lifeOf i (l.map fun x => (j, x)) = [] := by
  simp [lifeOf, List.filter_map, Function.comp_def, h]

@[simp] theorem submissions_append (h h' : History σ α) :
    submissions (h ++ h') = submissions h ++ submissions h' :=
  List.filterMap_append

/-! ## Steps -/

/-- Tasks that are submitted one after the other, and the jobs of those that have been. -/
structure Batch (σ α : Type) where
  tasks : List (Task σ α) := []
  phases : List (Phase σ α) := []
  turn : Nat := 0

/-- The number of slots that are taken. -/
def Batch.taken (b : Batch σ α) : Nat := b.phases.countP Phase.isRunning

/-- Whether something can happen to a job at `now`, if `free` tells whether there is a slot. -/
def Phase.Ready (now : Nat) (free : Prop) : Phase σ α → Prop
  | .queued _ _ => free
  | .waiting _ timer _ limit => timer.time ≤ now ∨ ∃ l, limit = some l ∧ l.time ≤ now
  | .idle _ limit => ∃ l, limit = some l ∧ l.time ≤ now
  | .decided _ => False

/-- What begins when a job in this state moves at `now`. -/
def Phase.resumption (now : Nat) : Phase σ α → List (Happening σ α)
  | .queued _ logic => [.begins logic]
  | .waiting _ timer _ _ => if timer.time ≤ now then [.goesOn] else []
  | .idle _ _ | .decided _ => []

/-- What a move ends with that leaves a job in this state. -/
def Phase.conclusion : Phase σ α → List (Happening σ α)
  | .decided _ => [.decided]
  | .queued _ _ | .waiting _ _ _ _ | .idle _ _ => []

/-- One step of one execution, at the moment `m`: what happens, and what the moment and the batch
are then. Slots are `free` or not. -/
inductive Batch.Step (deadline : Option Nat) (free : Prop) (m : Moment σ) (b : Batch σ α) :
    History σ α → Moment σ → Batch σ α → Prop
  /-- The next task is handed to the pool. -/
  | submits {t : Task σ α} (next : b.tasks[b.phases.length]? = some t) :
      Step deadline free m b [(b.phases.length, .submitted t)] m
        { b with phases := b.phases ++ [.queued m.now t.activity] }
  /-- A job that is ready moves, even if the scan was cancelled right before. -/
  | moves {i : Nat} {p q : Phase σ α} {m' : Moment σ} (at_i : b.phases[i]? = some p)
      (ready : p.Ready m.now free) (advances : p.advance deadline b.turn m = some (q, m')) :
      Step deadline free m b ((p.resumption m.now ++ q.conclusion).map fun x => (i, x)) m'
        { b with phases := b.phases.set i q, turn := b.turn + 2 }
  /-- A job of a cancelled scan is dismissed. -/
  | dismisses {i : Nat} {p : Phase σ α} (cancelled : m.cancelled = true)
      (at_i : b.phases[i]? = some p) (undecided : p.isDecided = false) :
      Step deadline free m b [(i, .decided)] m
        { b with phases := b.phases.set i (.decided (p.cancel m.now)) }

/-- A job that moves is running afterwards, or decided. -/
theorem Phase.running_or_decided_of_advance {deadline : Option Nat} {turn : Nat} {m m' : Moment σ}
    {p q : Phase σ α} (h : p.advance deadline turn m = some (q, m')) :
    q.isRunning = true ∨ ∃ d, q = .decided d := by
  have hafter : ∀ since limit (stop : Activity.Stop σ α),
      (after since m.now turn limit stop).isRunning = true ∨
        ∃ d, after since m.now turn limit stop = .decided d := by
    intro since limit stop
    cases stop with
    | ended o => exact .inr ⟨_, rfl⟩
    | idle =>
        simp only [after]
        split
        · exact .inr ⟨_, rfl⟩
        · exact .inl rfl
    | waiting d next =>
        simp only [after]
        split
        · exact .inr ⟨_, rfl⟩
        · exact .inl rfl
  cases p with
  | queued submitted logic =>
      simp only [Phase.advance, Option.some.injEq, Prod.mk.injEq] at h
      rw [← h.1]
      exact hafter _ _ _
  | waiting since timer next limit =>
      simp only [Phase.advance] at h
      split at h <;> simp only [Option.some.injEq, Prod.mk.injEq] at h <;> rw [← h.1]
      · exact hafter _ _ _
      · exact .inr ⟨_, rfl⟩
  | idle since limit =>
      simp only [Phase.advance, Option.some.injEq, Prod.mk.injEq] at h
      rw [← h.1]
      exact .inr ⟨_, rfl⟩
  | decided d => simp [Phase.advance] at h

/-- The logic of a running job goes on, or the job runs into its limit. -/
theorem Phase.resumption_of_isRunning {p : Phase σ α} (h : p.isRunning = true) (now : Nat) :
    ∃ k, p.resumption now = List.replicate k .goesOn := by
  cases p with
  | queued submitted logic => simp [isRunning] at h
  | waiting since timer next limit =>
      simp only [resumption]
      split
      · exact ⟨1, rfl⟩
      · exact ⟨0, rfl⟩
  | idle since limit => exact ⟨0, rfl⟩
  | decided d => simp [isRunning] at h

/-- A logic can cancel the scan, but not take that back. -/
theorem Activity.settle_cancelled (a : Activity σ α) (now : Nat) (w : σ) :
    (a.settle now w true).2.2 = true := by
  induction a generalizing w with
  | finish o => rfl
  | forever => rfl
  | wait d next ih =>
      cases d with
      | zero => exact ih w
      | succ d => rfl
  | touch change next ih => exact ih now w (change now w)
  | cancel next ih => exact ih w

/-- A move in a scan that is cancelled leaves it so. -/
theorem Phase.stays_cancelled {deadline : Option Nat} {turn : Nat} {m m' : Moment σ}
    {p q : Phase σ α} (h : p.advance deadline turn m = some (q, m')) (hm : m.cancelled = true) :
    m'.cancelled = true := by
  have hsettle : ∀ a : Activity σ α, (a.settle m.now m.world m.cancelled).2.2 = true := by
    intro a
    rw [hm]
    exact a.settle_cancelled m.now m.world
  cases p with
  | queued submitted logic =>
      simp only [Phase.advance, Option.some.injEq, Prod.mk.injEq] at h
      rw [← h.2]
      exact hsettle logic
  | waiting since timer next limit =>
      simp only [Phase.advance] at h
      split at h <;> simp only [Option.some.injEq, Prod.mk.injEq] at h <;> rw [← h.2]
      · exact hsettle next
      · exact hm
  | idle since limit =>
      simp only [Phase.advance, Option.some.injEq, Prod.mk.injEq] at h
      rw [← h.2]
      exact hm
  | decided d => simp [Phase.advance] at h

/-- A move takes no time. -/
theorem Phase.now_eq_of_advance {deadline : Option Nat} {turn : Nat} {m m' : Moment σ}
    {p q : Phase σ α} (h : p.advance deadline turn m = some (q, m')) : m'.now = m.now := by
  cases p with
  | queued submitted logic =>
      simp only [Phase.advance, Option.some.injEq, Prod.mk.injEq] at h
      rw [← h.2]
  | waiting since timer next limit =>
      simp only [Phase.advance] at h
      split at h <;> simp only [Option.some.injEq, Prod.mk.injEq] at h <;> rw [← h.2]
  | idle since limit =>
      simp only [Phase.advance, Option.some.injEq, Prod.mk.injEq] at h
      rw [← h.2]
  | decided d => simp [Phase.advance] at h

/-- What begins when a job moves is that its logic runs. -/
theorem Phase.isRun_of_mem_resumption {p : Phase σ α} {now : Nat} {x : Happening σ α}
    (hx : x ∈ p.resumption now) : x.isRun = true := by
  cases p with
  | queued submitted logic => rw [List.mem_singleton.1 hx]; rfl
  | waiting since timer next limit =>
      simp only [resumption] at hx
      split at hx
      · rw [List.mem_singleton.1 hx]; rfl
      · cases hx
  | idle since limit => cases hx
  | decided d => cases hx

/-- A move with which no logic runs leaves the moment as it is. -/
theorem Phase.eq_of_resumption_eq_nil {deadline : Option Nat} {turn : Nat} {m m' : Moment σ}
    {p q : Phase σ α} (h : p.advance deadline turn m = some (q, m'))
    (quiet : p.resumption m.now = []) : m' = m := by
  cases p with
  | queued submitted logic => cases quiet
  | waiting since timer next limit =>
      simp only [Phase.resumption] at quiet
      split at quiet
      · cases quiet
      · next hdue =>
          simp only [Phase.advance, if_neg hdue, Option.some.injEq, Prod.mk.injEq] at h
          exact h.2.symm
  | idle since limit =>
      simp only [Phase.advance, Option.some.injEq, Prod.mk.injEq] at h
      exact h.2.symm
  | decided d => cases h

/-- A move submits nothing. -/
theorem Phase.task?_eq_none_of_mem {p q : Phase σ α} (now : Nat) :
    ∀ x ∈ p.resumption now ++ q.conclusion, x.task? = none := by
  intro x hx
  rcases List.mem_append.1 hx with hx | hx
  · cases p with
    | queued submitted logic => rw [List.mem_singleton.1 hx]; rfl
    | waiting since timer next limit =>
        simp only [resumption] at hx
        split at hx
        · rw [List.mem_singleton.1 hx]; rfl
        · simp at hx
    | idle since limit => simp [resumption] at hx
    | decided d => simp [resumption] at hx
  · cases q with
    | decided d => rw [List.mem_singleton.1 hx]; rfl
    | queued submitted logic => simp [conclusion] at hx
    | waiting since timer next limit => simp [conclusion] at hx
    | idle since limit => simp [conclusion] at hx

/-! ## Lives -/

/-- The life of an execution up to now, given its task and the state of its job, in a scan that is
or is not cancelled. Its logic is called once at most, and only a cancellation keeps it from being
called. -/
inductive Life (cancelled : Bool) :
    Option (Task σ α) → List (Happening σ α) → Option (Phase σ α) → Prop
  | unsubmitted {t : Option (Task σ α)} : Life cancelled t [] none
  | queued {t : Task σ α} {submitted : Nat} :
      Life cancelled (some t) [.submitted t] (some (.queued submitted t.activity))
  | running {t : Task σ α} {n : Nat} {p : Phase σ α} (running : p.isRunning = true) :
      Life cancelled (some t)
        (.submitted t :: .begins t.activity :: List.replicate n .goesOn) (some p)
  | ran {t : Task σ α} {n : Nat} {d : Decision α} :
      Life cancelled (some t)
        (.submitted t :: .begins t.activity :: (List.replicate n .goesOn ++ [.decided]))
        (some (.decided d))
  | dismissed {t : Task σ α} {d : Decision α} (called : cancelled = true) :
      Life cancelled (some t) [.submitted t, .decided] (some (.decided d))

namespace Life

variable {cancelled cancelled' : Bool} {t? : Option (Task σ α)} {t : Task σ α}
  {l l' : List (Happening σ α)} {p? : Option (Phase σ α)} {p q : Phase σ α}

/-- A later cancellation changes nothing about a life. -/
theorem imp (h : Life cancelled t? l p?) (hc : cancelled = true → cancelled' = true) :
    Life cancelled' t? l p? := by
  cases h with
  | unsubmitted => exact .unsubmitted
  | queued => exact .queued
  | running running => exact .running running
  | ran => exact .ran
  | dismissed called => exact .dismissed (hc called)

/-- Nothing has happened to an execution that was not submitted. -/
theorem eq_nil_of_none (h : Life cancelled t? l none) : l = [] := by
  cases h
  rfl

theorem countP_isBegin_replicate (n : Nat) :
    (List.replicate n (Happening.goesOn (σ := σ) (α := α))).countP Happening.isBegin = 0 := by
  simp [List.countP_replicate, Happening.isBegin]

theorem begins_count_le (h : Life cancelled t? l p?) : l.countP Happening.isBegin ≤ 1 := by
  cases h <;> simp [List.countP_cons, countP_isBegin_replicate, Happening.isBegin]

theorem eq_of_begins_mem {logic : Activity σ α} (h : Life cancelled t? l p?)
    (hl : .begins logic ∈ l) : ∃ t, t? = some t ∧ logic = t.activity := by
  cases h with
  | unsubmitted => simp at hl
  | queued => simp at hl
  | running running => exact ⟨_, rfl, by simpa [List.mem_replicate] using hl⟩
  | ran => exact ⟨_, rfl, by simpa [List.mem_replicate] using hl⟩
  | dismissed called => simp at hl

/-- Nothing happens to an execution that is decided. -/
theorem eq_nil_of_decided {k r : List (Happening σ α)} (h : Life cancelled t? l p?)
    (hl : l = k ++ .decided :: r) : r = [] := by
  have hlast : .decided ∉ l.dropLast := by
    cases h with
    | unsubmitted => simp
    | queued => simp
    | running running =>
        intro hmem
        simpa [List.mem_replicate] using List.dropLast_subset _ hmem
    | @ran t n d =>
        rw [← List.cons_append, ← List.cons_append, List.dropLast_concat]
        simp [List.mem_replicate]
    | dismissed called => simp
  by_contra hr
  refine hlast ?_
  rw [hl, List.dropLast_append_of_ne_nil (List.cons_ne_nil _ _), List.dropLast_cons_of_ne_nil hr]
  simp

/-- An execution that is decided was submitted, and its logic was called unless the scan is
cancelled. -/
theorem of_decided {d : Decision α} (h : Life cancelled t? l (some (.decided d))) :
    .decided ∈ l ∧ (cancelled = false → l.countP Happening.isBegin = 1) := by
  cases h with
  | running running => simp [Phase.isRunning] at running
  | ran =>
      exact ⟨by simp, fun _ => by
        simp [List.countP_cons, countP_isBegin_replicate, Happening.isBegin]⟩
  | dismissed called => exact ⟨by simp, fun h => by simp [called] at h⟩

/-- The life of an execution whose logic was called and went on `n` times, and that runs or is
decided now. -/
theorem resumed {n : Nat} (hq : q.isRunning = true ∨ ∃ d, q = .decided d) :
    Life cancelled (some t)
      (.submitted t :: .begins t.activity :: (List.replicate n .goesOn ++ q.conclusion))
      (some q) := by
  rcases hq with hq | ⟨d, rfl⟩
  · have hconclusion : q.conclusion = [] := by
      cases q <;> first | rfl | simp [Phase.isRunning] at hq
    rw [hconclusion, List.append_nil]
    exact .running hq
  · exact .ran

/-- A move of its job takes a life on. -/
theorem moves {deadline : Option Nat} {turn : Nat} {m m' : Moment σ}
    (h : Life cancelled t? l (some p)) (advances : p.advance deadline turn m = some (q, m')) :
    Life cancelled' t? (l ++ (p.resumption m.now ++ q.conclusion)) (some q) := by
  have hq := Phase.running_or_decided_of_advance advances
  cases h with
  | queued => exact resumed (n := 0) hq
  | @running t n p running =>
      obtain ⟨k, hk⟩ := Phase.resumption_of_isRunning running m.now
      rw [hk, List.cons_append, List.cons_append, ← List.append_assoc,
        List.replicate_append_replicate]
      exact resumed hq
  | ran => simp [Phase.advance] at advances
  | dismissed called => simp [Phase.advance] at advances

/-- A dismissal ends a life. -/
theorem dismiss {d : Decision α} (h : Life cancelled t? l (some p)) (hc : cancelled = true)
    (undecided : p.isDecided = false) :
    Life cancelled t? (l ++ [.decided]) (some (.decided d)) := by
  cases h with
  | queued => exact .dismissed hc
  | running running => exact .ran
  | ran => simp [Phase.isDecided] at undecided
  | dismissed called => simp [Phase.isDecided] at undecided

end Life

/-! ## What a history tells of a batch -/

namespace Batch

/-- The history tells what has happened to the executions of a batch: the tasks were submitted in
their order, and every execution lives one of the possible lives. -/
structure Told (cancelled : Bool) (b : Batch σ α) (h : History σ α) : Prop where
  submitted : submissions h = b.tasks.take b.phases.length
  lives : ∀ i, Life cancelled b.tasks[i]? (lifeOf i h) b.phases[i]?

variable {deadline : Option Nat} {free : Prop} {m m' : Moment σ} {b b' : Batch σ α}
  {h e : History σ α} {cancelled : Bool}

theorem submissions_eq_nil {i : Nat} {l : List (Happening σ α)} (hl : ∀ x ∈ l, x.task? = none) :
    submissions (l.map fun x => (i, x)) = [] := by
  simpa [submissions, List.filterMap_eq_nil_iff] using hl

/-- What happens to one job takes its life on and leaves all others as they are. -/
theorem Told.set {i : Nat} {p q : Phase σ α} {l : List (Happening σ α)} {turn : Nat}
    (told : Told cancelled b h) (at_i : b.phases[i]? = some p) (hl : ∀ x ∈ l, x.task? = none)
    (life : ∀ t? k, Life cancelled t? k (some p) → Life cancelled t? (k ++ l) (some q)) :
    Told cancelled { b with phases := b.phases.set i q, turn := turn }
      (h ++ l.map fun x => (i, x)) := by
  have hi : i < b.phases.length := (List.getElem?_eq_some_iff.1 at_i).1
  refine ⟨?_, fun j => ?_⟩
  · rw [submissions_append, submissions_eq_nil hl, List.append_nil, told.submitted,
      List.length_set]
  · by_cases hj : i = j
    · subst hj
      have hlife := told.lives i
      rw [at_i] at hlife
      rw [lifeOf_append, lifeOf_map_self, List.getElem?_set_self hi]
      exact life _ _ hlife
    · rw [lifeOf_append, lifeOf_map_of_ne hj, List.append_nil, List.getElem?_set_ne hj]
      exact told.lives j

/-- A later cancellation changes nothing about what a history tells. -/
theorem Told.imp {cancelled' : Bool} (told : Told cancelled b h)
    (hc : cancelled = true → cancelled' = true) : Told cancelled' b h :=
  ⟨told.submitted, fun i => (told.lives i).imp hc⟩

theorem told_empty : Told cancelled ({} : Batch σ α) [] := ⟨rfl, fun _ => .unsubmitted⟩

/-- As long as nothing was submitted, the tasks can be any. -/
theorem Told.assign {tasks : List (Task σ α)} (told : Told cancelled b h) (hb : b.phases = []) :
    Told cancelled { tasks } h := by
  refine ⟨?_, fun i => ?_⟩
  · rw [told.submitted, hb]
    rfl
  · have life := told.lives i
    rw [hb, List.getElem?_nil] at life
    rw [life.eq_nil_of_none]
    exact .unsubmitted

/-- A step happens as it is told. -/
theorem Told.step (told : Told m.cancelled b h) (step : b.Step deadline free m e m' b') :
    Told m'.cancelled b' (h ++ e) := by
  cases step with
  | @submits t next =>
      have hn : b.phases.length < b.tasks.length := (List.getElem?_eq_some_iff.1 next).1
      refine ⟨?_, fun j => ?_⟩
      · rw [submissions_append, told.submitted, List.length_append, List.length_singleton,
          List.take_add_one, next]
        rfl
      · have hlife := told.lives j
        by_cases hj : b.phases.length = j
        · -- nothing has happened to the execution before
          subst hj
          rw [List.getElem?_eq_none (Nat.le_refl _)] at hlife
          rw [lifeOf_append, hlife.eq_nil_of_none, List.nil_append, List.getElem?_concat_length,
            next]
          exact lifeOf_map_self b.phases.length [.submitted t] ▸ .queued
        · have hother : lifeOf j [(b.phases.length, Happening.submitted t)] = [] :=
            lifeOf_map_of_ne hj [.submitted t]
          rw [lifeOf_append, hother, List.append_nil]
          rcases Nat.lt_or_ge j b.phases.length with hlt | hge
          · rw [List.getElem?_append_left hlt]
            exact hlife
          · have hout : (b.phases ++ [.queued m.now t.activity])[j]? = none := by
              rw [List.getElem?_eq_none]
              rw [List.length_append, List.length_singleton]
              omega
            rw [List.getElem?_eq_none hge] at hlife
            rw [hout]
            exact hlife
  | @moves i p q m' at_i ready advances =>
      have hlater : Told m'.cancelled b h := told.imp (Phase.stays_cancelled advances)
      refine hlater.set at_i (Phase.task?_eq_none_of_mem m.now) fun t? k life =>
        life.moves advances
  | @dismisses i p cancelled at_i undecided =>
      exact told.set at_i (l := [.decided]) (by simp [Happening.task?])
        fun t? k life => life.dismiss cancelled undecided

theorem Step.tasks_eq (step : b.Step deadline free m e m' b') : b'.tasks = b.tasks := by
  cases step <;> rfl

/-- A step takes no time. -/
theorem Step.now_eq (step : b.Step deadline free m e m' b') : m'.now = m.now := by
  cases step with
  | submits next => rfl
  | moves at_i ready advances => exact Phase.now_eq_of_advance advances
  | dismisses cancelled at_i undecided => rfl

/-- A step with which no logic runs leaves the moment as it is. -/
theorem Step.moment_eq (step : b.Step deadline free m e m' b')
    (quiet : ∀ x ∈ e, x.2.isRun = false) : m' = m := by
  cases step with
  | submits next => rfl
  | @moves i p q m' at_i ready advances =>
      refine Phase.eq_of_resumption_eq_nil advances
        (List.eq_nil_iff_forall_not_mem.2 fun x hx => ?_)
      have hquiet := quiet (i, x) (List.mem_map.2 ⟨x, List.mem_append_left _ hx, rfl⟩)
      rw [Phase.isRun_of_mem_resumption hx] at hquiet
      cases hquiet
  | dismisses cancelled at_i undecided => rfl

/-- A scan that is cancelled stays so. -/
theorem Step.stays_cancelled (step : b.Step deadline free m e m' b') (hm : m.cancelled = true) :
    m'.cancelled = true := by
  cases step with
  | submits next => exact hm
  | moves at_i ready advances => exact Phase.stays_cancelled advances hm
  | dismisses cancelled at_i undecided => exact hm

/-! ## Batches that are done -/

/-- All tasks were submitted, and their jobs are decided as in `ds`. -/
structure Decides (b : Batch σ α) (ds : List (Decision α)) : Prop where
  phases : b.phases = ds.map .decided
  length : ds.length = b.tasks.length

/-- The batch is done, and leaves these records. -/
def Joins (deadline : Option Time.Span) (b : Batch σ α) (records : List (Record α)) : Prop :=
  ∃ ds, b.Decides ds ∧ records = (b.tasks.zip ds).map fun p => p.1.record deadline p.2

/-- The batch is done. -/
def Done (b : Batch σ α) : Prop := ∃ ds, b.Decides ds

theorem Joins.done {limit : Option Time.Span} {records : List (Record α)}
    (h : b.Joins limit records) : b.Done := by
  obtain ⟨ds, hds, -⟩ := h
  exact ⟨ds, hds⟩

/-- A batch without tasks is done. -/
theorem done_empty : ({} : Batch σ α).Done := ⟨[], rfl, rfl⟩

/-- Nothing more happens to a batch that is done. -/
theorem Done.not_step (done : b.Done) : ¬ b.Step deadline free m e m' b' := by
  intro step
  obtain ⟨ds, hb⟩ := done
  have hdecided : ∀ {i : Nat} {p : Phase σ α}, b.phases[i]? = some p → ∃ d, p = .decided d := by
    intro i p hp
    rw [hb.phases, List.getElem?_map, Option.map_eq_some_iff] at hp
    obtain ⟨d, -, rfl⟩ := hp
    exact ⟨d, rfl⟩
  cases step with
  | submits next =>
      have hlt : b.phases.length < b.tasks.length := (List.getElem?_eq_some_iff.1 next).1
      rw [hb.phases, List.length_map, hb.length] at hlt
      omega
  | moves at_i ready advances =>
      obtain ⟨d, rfl⟩ := hdecided at_i
      exact ready
  | dismisses cancelled at_i undecided =>
      obtain ⟨d, rfl⟩ := hdecided at_i
      cases undecided

theorem Done.taken_eq_zero (done : b.Done) : b.taken = 0 := by
  obtain ⟨ds, hb⟩ := done
  rw [taken, hb.phases, List.countP_map, List.countP_eq_zero]
  simp [Phase.isRunning]

/-- The history tells of executions of these tasks: they were submitted in their order, the logic
of each was called once at most, and it was the logic of its own task, and nothing happened to an
execution that was decided. -/
structure OnceEach (tasks : List (Task σ α)) (h : History σ α) : Prop where
  inOrder : submissions h <+: tasks
  once : ∀ i, (lifeOf i h).countP Happening.isBegin ≤ 1
  own : ∀ i logic, .begins logic ∈ lifeOf i h → ∃ t, tasks[i]? = some t ∧ logic = t.activity
  last : ∀ i k r, lifeOf i h = k ++ .decided :: r → r = []

/-- The history tells that all of these tasks were submitted, and their executions decided. -/
structure Completes (tasks : List (Task σ α)) (h : History σ α) : Prop where
  submitted : submissions h = tasks
  decided : ∀ i < tasks.length, .decided ∈ lifeOf i h

/-- The history tells that the logic of every task was called. -/
def AllCalled (tasks : List (Task σ α)) (h : History σ α) : Prop :=
  ∀ i < tasks.length, (lifeOf i h).countP Happening.isBegin = 1

theorem Told.onceEach (told : Told cancelled b h) : OnceEach b.tasks h where
  inOrder := told.submitted ▸ List.take_prefix _ _
  once i := (told.lives i).begins_count_le
  own i _ hlogic := (told.lives i).eq_of_begins_mem hlogic
  last i _ _ hlife := (told.lives i).eq_nil_of_decided hlife

/-- The history of a batch that is done is complete, and only a cancellation can have kept a logic
from being called. -/
theorem Told.completes (told : Told cancelled b h) (done : b.Done) :
    Completes b.tasks h ∧ (cancelled = false → AllCalled b.tasks h) := by
  obtain ⟨ds, hb⟩ := done
  have hlife : ∀ i < b.tasks.length,
      .decided ∈ lifeOf i h ∧ (cancelled = false → (lifeOf i h).countP Happening.isBegin = 1) := by
    intro i hi
    have hlt : i < ds.length := by rw [hb.length]; exact hi
    have hdecided : b.phases[i]? = some (.decided ds[i]) := by
      rw [hb.phases, List.getElem?_map, List.getElem?_eq_getElem hlt]
      rfl
    have life := told.lives i
    rw [hdecided] at life
    exact life.of_decided
  refine ⟨⟨?_, fun i hi => (hlife i hi).1⟩, fun hc i hi => (hlife i hi).2 hc⟩
  rw [told.submitted, hb.phases, List.length_map, hb.length, List.take_length]

end Batch

end VulnScan.Execution
