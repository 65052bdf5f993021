import VulnScan.Proofs.Execution.BatchRun
import VulnScan.Proofs.Execution.SharedPool

/-! # Batches on a shared pool

The executions of a batch take their slots as executions on a shared pool do: whatever path a batch
takes, a shared pool can come to the same (`Batch.Path.mirrored`). So the bounds for shared pools
hold of the runs of the pool.
-/

set_option autoImplicit false

namespace VulnScan.Execution

variable {S σ α : Type}

/-- Where the execution of a job in this state stands. -/
def Phase.station : Phase σ α → Station α
  | .queued _ _ => .submitted
  | .waiting _ _ _ _ | .idle _ _ => .running
  | .decided d => .done d.resolution

/-- Only where executions are `limited` does a job have a limit. -/
def Phase.Limited (limited : Prop) : Phase σ α → Prop
  | .queued _ _ | .decided _ => True
  | .waiting _ _ _ limit | .idle _ limit => limit.isSome = true → limited

/-- Where an execution can be that has just moved on: its logic runs or has ended, or it was late,
which only happens where executions are `limited`. -/
inductive Station.Onward (limited : Prop) : Station α → Prop
  | running : Onward limited .running
  | ended (o : Outcome α) : Onward limited (.done (.ofOutcome o))
  | late (h : limited) : Onward limited (.done .timedOut)

/-- A move takes a job onward. -/
theorem Phase.Limited.advance {deadline : Option Nat} {turn : Nat} {m m' : Moment σ}
    {free limited : Prop} {p q : Phase σ α} (h : p.Limited limited)
    (hlimited : deadline.isSome = true → limited) (ready : p.Ready m.now free)
    (advances : p.advance deadline turn m = some (q, m')) :
    q.Limited limited ∧ q.station.Onward limited := by
  have hafter : ∀ {since limit} (stop : Activity.Stop σ α), (limit.isSome = true → limited) →
      (after since m.now turn limit stop).Limited limited ∧
        (after since m.now turn limit stop).station.Onward limited := by
    intro since limit stop hlimit
    have hdue : limit.any (·.time ≤ m.now) = true → limited := by
      intro hany
      cases limit with
      | none => simp at hany
      | some l => exact hlimit rfl
    cases stop with
    | ended o => exact ⟨trivial, .ended o⟩
    | idle =>
        simp only [after]
        split
        · next hany => exact ⟨trivial, .late (hdue hany)⟩
        · exact ⟨hlimit, .running⟩
    | waiting d next =>
        simp only [after]
        split
        · next hany => exact ⟨trivial, .late (hdue hany)⟩
        · exact ⟨hlimit, .running⟩
  cases p with
  | queued submitted logic =>
      simp only [Phase.advance, Option.some.injEq, Prod.mk.injEq] at advances
      rw [← advances.1]
      exact hafter _ fun hsome => hlimited (by simpa using hsome)
  | waiting since timer next limit =>
      simp only [Phase.advance] at advances
      split at advances
      · simp only [Option.some.injEq, Prod.mk.injEq] at advances
        rw [← advances.1]
        exact hafter _ h
      · next hlate =>
          simp only [Option.some.injEq, Prod.mk.injEq] at advances
          rw [← advances.1]
          obtain ⟨l, rfl, -⟩ := ready.resolve_left hlate
          exact ⟨trivial, .late (h rfl)⟩
  | idle since limit =>
      simp only [Phase.advance, Option.some.injEq, Prod.mk.injEq] at advances
      rw [← advances.1]
      obtain ⟨l, rfl, -⟩ := ready
      exact ⟨trivial, .late (h rfl)⟩
  | decided d => exact ready.elim

/-! ## Several steps at once -/

namespace Shared

variable {sem : Semaphore S} {i : Nat} {x y : Shared S α} {e : Executor} {st : Station α}

/-- The shared pool can come from `x` to the same, but with the execution `i` at another station. -/
def Comes (sem : Semaphore S) (x : Shared S α) (i : Nat) (e : Executor) (st : Station α) : Prop :=
  ∃ y, x.Leads sem y ∧ y.members = x.members.set i ⟨e, st⟩ ∧ y.cancelled = x.cancelled

theorem At.move {e' : Executor} {st' : Station α} (at_i : x.At i e st) :
    (x.move i e' st').At i e' st' :=
  List.getElem?_set_self (List.getElem?_eq_some_iff.1 at_i).1

theorem At.set_eq (at_i : x.At i e st) : x.members.set i ⟨e, st⟩ = x.members := by
  obtain ⟨hlt, heq⟩ := List.getElem?_eq_some_iff.1 at_i
  rw [← heq, List.set_getElem_self]

/-- An execution that finds a free slot calls its logic. -/
theorem At.runs (fifo : sem.Fifo) (at_i : x.At i e .submitted) (hfree : 0 < sem.free x.permits) :
    Comes sem x i e .running := by
  have granted : i ∈ sem.holders (sem.ask i x.permits) := by
    rw [(fifo.ask_free i hfree).2.1]
    exact List.mem_cons_self
  have asked : x.Leads sem _ := .step .start (.asks at_i)
  have admitted := asked.step (.admits at_i.move granted)
  have running := admitted.step (.begins at_i.move.move)
  refine ⟨_, running, ?_, rfl⟩
  show ((x.members.set i _).set i _).set i _ = _
  rw [List.set_set, List.set_set]

/-- An execution that is decided drops its permit. -/
theorem At.drops {r : Resolution α} (at_i : x.At i e st)
    (decided : x.Step sem (x.move i e (.leaving r))) : Comes sem x i e (.done r) := by
  refine ⟨_, (Leads.start.step decided).step (.leaves at_i.move), ?_, rfl⟩
  show (x.members.set i _).set i _ = _
  rw [List.set_set]

/-- What an execution comes to after its logic was called. -/
theorem Comes.trans {st' : Station α} (h : Comes sem x i e st)
    (h' : ∀ y : Shared S α, y.members = x.members.set i ⟨e, st⟩ → Comes sem y i e st') :
    Comes sem x i e st' := by
  obtain ⟨y, leads, members, cancelled⟩ := h
  obtain ⟨z, leads', members', cancelled'⟩ := h' y members
  refine ⟨z, leads.trans leads', ?_, cancelled'.trans cancelled⟩
  rw [members', members, List.set_set]

end Shared

/-! ## Steps of a batch -/

/-- The shared pool is where the batch is at the moment `m`: every execution stands where its job
does, and it is cancelled if the scan is. -/
structure Batch.Mirrors (e : Executor) (m : Moment σ) (b : Batch σ α) (x : Shared S α) : Prop where
  members : x.members = b.phases.map fun p => ⟨e, p.station⟩
  cancelled : m.cancelled = true ↔ e.token ∈ x.cancelled
  limited : ∀ p ∈ b.phases, p.Limited (e.deadline.isSome = true)

namespace Batch.Mirrors

variable {sem : Semaphore S} {slots i : Nat} {e : Executor} {m m' : Moment σ} {b b' : Batch σ α}
  {x : Shared S α} {h : History σ α} {deadline : Option Nat} {p q : Phase σ α}

theorem at_i (mirrors : b.Mirrors e m x) (hp : b.phases[i]? = some p) : x.At i e p.station := by
  rw [Shared.At, mirrors.members, List.getElem?_map, hp]
  rfl

/-- The executions that are active are those whose jobs take up slots. -/
theorem active_eq (mirrors : b.Mirrors e m x) : x.active = b.taken := by
  rw [Shared.active, taken, mirrors.members, List.countP_map]
  refine List.countP_congr fun p _ => ?_
  cases p <;> simp [Phase.station, Station.isActive, Phase.isRunning]

/-- The job `i` moves, and its execution with it. -/
theorem set {y : Shared S α} {turn : Nat} (mirrors : b.Mirrors e m x)
    (members : y.members = x.members.set i ⟨e, q.station⟩)
    (cancelled : m'.cancelled = true ↔ e.token ∈ y.cancelled)
    (hq : q.Limited (e.deadline.isSome = true)) :
    Batch.Mirrors e m' { b with phases := b.phases.set i q, turn := turn } y where
  members := by rw [members, mirrors.members, List.map_set]
  cancelled := cancelled
  limited p hp := by
    rcases List.mem_or_eq_of_mem_set hp with hp | rfl
    · exact mirrors.limited p hp
    · exact hq

/-- As long as not all slots are taken by the batch, the semaphore has a free permit. -/
theorem free_pos (mirrors : b.Mirrors e m x) (sound : x.Sound sem slots)
    (hfree : b.taken < slots) : 0 < sem.free x.permits := by
  have hnodup : (sem.holders x.permits).Nodup := (List.nodup_append.1 sound.balanced.nodup).1
  have hsubset : sem.holders x.permits ⊆ b.phases.findIdxs Phase.isRunning := by
    intro i hi
    have hlt : i < b.phases.length := by
      by_contra hge
      refine (sound.absent i ?_).1 hi
      rw [mirrors.members, List.length_map]
      omega
    have hplaced := sound.placed i e _ (mirrors.at_i (List.getElem?_eq_getElem hlt))
    refine List.mem_findIdxs_iff_exists_getElem_pos.2 ⟨hlt, ?_⟩
    -- only the execution of a job that is running holds a permit
    cases hp : b.phases[i] with
    | queued submitted logic =>
        rw [hp] at hplaced
        exact absurd hi hplaced.1
    | waiting since timer next limit => rfl
    | idle since limit => rfl
    | decided d =>
        rw [hp] at hplaced
        exact absurd hi hplaced.1
  have hlength := (hnodup.subperm hsubset).length_le
  rw [List.length_findIdxs] at hlength
  have htotal := sound.balanced.total
  unfold taken at hfree
  omega

/-- An execution whose job moves comes to where the job is then. -/
theorem comes {free : Prop} (fifo : sem.Fifo) (mirrors : b.Mirrors e m x)
    (hp : b.phases[i]? = some p)
    (hfree : p.station = .submitted → 0 < sem.free x.permits)
    (hq : q.station.Onward (e.deadline.isSome = true)) (ready : p.Ready m.now free) :
    Shared.Comes sem x i e q.station := by
  have at_i : x.At i e p.station := mirrors.at_i hp
  have running : Shared.Comes sem x i e .running := by
    cases p with
    | queued submitted logic => exact at_i.runs fifo (hfree rfl)
    | waiting since timer next limit => exact ⟨x, .start, at_i.set_eq.symm, rfl⟩
    | idle since limit => exact ⟨x, .start, at_i.set_eq.symm, rfl⟩
    | decided d => exact ready.elim
  have at_running : ∀ {y : Shared S α}, y.members = x.members.set i ⟨e, .running⟩ →
      y.At i e .running := by
    intro y members
    rw [Shared.At, members]
    exact List.getElem?_set_self (List.getElem?_eq_some_iff.1 at_i).1
  generalize q.station = st at hq
  cases hq with
  | running => exact running
  | ended o =>
      exact running.trans fun y members =>
        (at_running members).drops (.ends (at_running members) o)
  | late limited =>
      exact running.trans fun y members =>
        (at_running members).drops (.expires (at_running members) limited)

/-- A step of a batch takes some steps of the shared pool. -/
theorem step (fifo : sem.Fifo) (sound : x.Sound sem slots) (mirrors : b.Mirrors e m x)
    (hdeadline : deadline.isSome = true → e.deadline.isSome = true)
    (step : b.Step deadline (b.taken < slots) m h m' b') :
    ∃ y, x.Leads sem y ∧ b'.Mirrors e m' y := by
  cases step with
  | @submits t next =>
      refine ⟨_, .step .start (.submits e), ?_, mirrors.cancelled, ?_⟩
      · show x.members ++ _ = _
        rw [mirrors.members, List.map_append]
        rfl
      · intro p hp
        rcases List.mem_append.1 hp with hp | hp
        · exact mirrors.limited p hp
        · rw [List.mem_singleton.1 hp]
          trivial
  | @moves i p q m' at_i ready advances =>
      have hp := mirrors.limited p (List.mem_of_getElem? at_i)
      obtain ⟨hlimited, hq⟩ := hp.advance hdeadline ready advances
      have hfree : p.station = .submitted → 0 < sem.free x.permits := by
        intro hstation
        cases p with
        | queued submitted logic => exact mirrors.free_pos sound ready
        | _ => cases hstation
      obtain ⟨y, hy, members, cancelled⟩ := mirrors.comes fifo at_i hfree hq ready
      cases hm : m'.cancelled with
      | false =>
          have htoken : e.token ∉ y.cancelled := by
            rw [cancelled, ← mirrors.cancelled]
            intro hbefore
            rw [Phase.stays_cancelled advances hbefore] at hm
            cases hm
          exact ⟨y, hy, mirrors.set members (by simp [hm, htoken]) hlimited⟩
      | true =>
          -- the logic may have cancelled the scan
          exact ⟨_, hy.step (.cancels e.token), mirrors.set members (by simp [hm]) hlimited⟩
  | @dismisses i p cancelled at_i undecided =>
      have htoken : e.token ∈ x.cancelled := mirrors.cancelled.1 cancelled
      have hat := mirrors.at_i at_i
      have hcomes : Shared.Comes sem x i e (.done .cancelled) := by
        cases p with
        | queued submitted logic => exact ⟨_, .step .start (.turnsAway hat htoken), rfl, rfl⟩
        | waiting since timer next limit => exact hat.drops (.dismisses (.inr hat) htoken)
        | idle since limit => exact hat.drops (.dismisses (.inr hat) htoken)
        | decided d => cases undecided
      have hstation : (Phase.decided (p.cancel m.now) : Phase σ α).station = .done .cancelled := by
        cases p <;> first | rfl | cases undecided
      obtain ⟨y, hy, members, cancelled⟩ := hcomes
      refine ⟨y, hy, mirrors.set (by rw [members, hstation]) ?_ trivial⟩
      rw [cancelled]
      exact mirrors.cancelled

end Batch.Mirrors

/-- **A batch takes its slots as executions on a shared pool do.** Whatever path it takes, a shared
pool can come to the same. -/
theorem Batch.Path.mirrored {sem : Semaphore S} {slots : Nat} {e : Executor} {m m' : Moment σ}
    {b b' : Batch σ α} {h : History σ α} {deadline : Option Nat} {x : Shared S α} (fifo : sem.Fifo)
    (hdeadline : deadline.isSome = true → e.deadline.isSome = true)
    (path : Batch.Path slots deadline m b h m' b') (sound : x.Sound sem slots)
    (mirrors : b.Mirrors e m x) : ∃ y, x.Leads sem y ∧ b'.Mirrors e m' y := by
  induction path generalizing x with
  | done => exact ⟨x, .start, mirrors⟩
  | passes now rest ih => exact ih sound ⟨mirrors.members, mirrors.cancelled, mirrors.limited⟩
  | called rest ih =>
      have hcancels : x.Step sem { x with cancelled := e.token :: x.cancelled } := .cancels e.token
      obtain ⟨y, hy, hmirrors⟩ := ih (hcancels.sound fifo sound)
        ⟨mirrors.members, by simp, mirrors.limited⟩
      exact ⟨y, (Shared.Leads.start.step hcancels).trans hy, hmirrors⟩
  | step step rest ih =>
      obtain ⟨y, hy, hmirrors⟩ := mirrors.step fifo sound hdeadline step
      obtain ⟨z, hz, hmirrors⟩ := ih (hy.sound fifo sound) hmirrors
      exact ⟨z, hy.trans hz, hmirrors⟩

/-- A batch of which nothing was submitted is mirrored by a pool that nobody uses. -/
theorem Batch.exists_mirrors (sem : Semaphore S) (e : Executor) (m : Moment σ)
    (tasks : List (Task σ α)) (s : S) :
    ∃ x : Shared S α, Shared.Leads sem { permits := s } x ∧ x.permits = s ∧
      Batch.Mirrors e m { tasks } x := by
  cases hm : m.cancelled with
  | false => exact ⟨_, .start, rfl, rfl, by simp [hm], by simp⟩
  | true =>
      -- the scan was cancelled before anything is submitted
      exact ⟨_, .step .start (.cancels e.token), rfl, rfl, by simp [hm], by simp⟩

/-! ## Bounds -/

/-- **No more plugins run than there are slots, and no slot is lost.** Any number of executors
share a pool of `n` slots, but at least one. Whatever they submit and cancel, and however the
executions end and are interleaved, no more logics have been called and are not done than slots
are taken, an execution waits for a slot only while all of them are taken, and once all executions
are done all slots are free again. Whatever path a batch takes on the pool, it is one of these
interleavings, so never are more of its jobs running than there are slots. -/
theorem Pool.shared_bounds {sem : Semaphore S} (fifo : sem.Fifo) {n : Nat} {pool : Pool}
    (hpool : Pool.ofSlots? n = some pool) :
    pool.slots = max n 1 ∧
    (∀ x : Shared S α, Shared.Reachable sem pool.slots x →
      x.active ≤ pool.slots - sem.free x.permits ∧ sem.free x.permits ≤ pool.slots ∧
      (∀ i, x.Waits sem i → sem.free x.permits = 0) ∧
      ((∀ e ∈ x.members, ∃ r, e.station = .done r) → sem.free x.permits = pool.slots)) ∧
    ∀ (deadline : Option Time.Span) (tasks : List (Task σ α)) (m m' : Moment σ) (h : History σ α)
      (b : Batch σ α), Batch.Path pool.slots (deadline.map Time.Span.ticks) m { tasks } h m' b →
      b.taken ≤ pool.slots ∧
        ∃ x, Shared.Reachable sem pool.slots x ∧ b.Mirrors ⟨deadline, 0⟩ m' x := by
  have hslots : pool.slots = max n 1 ∧ pool.slots ≤ mostSlots := by
    unfold ofSlots? at hpool
    split at hpool
    · next hn =>
        cases hpool
        refine ⟨rfl, ?_⟩
        show max n 1 ≤ mostSlots
        exact Nat.max_le.2 ⟨hn, by decide⟩
    · cases hpool
  refine ⟨hslots.1, fun x reachable => ?_, fun deadline tasks m m' h b path => ?_⟩
  · have sound := reachable.sound fifo hslots.2
    have hactive := sound.active_le
    have htotal := sound.balanced.total
    exact ⟨by omega, by omega, fun i => sound.free_of_waits, fun done =>
      (sound.idle_of_done done).free⟩
  · have hdeadline : (deadline.map Time.Span.ticks).isSome = true → deadline.isSome = true := by
      simp
    obtain ⟨x, hx, -, mirrors⟩ :=
      Batch.exists_mirrors sem ⟨deadline, 0⟩ m tasks (sem.new pool.slots)
    have reachable : Shared.Reachable sem pool.slots x := hx
    obtain ⟨y, hxy, hmirrors⟩ := path.mirrored fifo hdeadline (reachable.sound fifo hslots.2)
      mirrors
    have hy : Shared.Reachable sem pool.slots y := hx.trans hxy
    have sound := hy.sound fifo hslots.2
    have hactive := sound.active_le
    have htotal := sound.balanced.total
    rw [hmirrors.active_eq] at hactive
    exact ⟨by omega, y, hy, hmirrors⟩

/-! ## A turnstile -/

/-- The state of a turnstile. -/
structure Turnstile where
  free : Nat
  holders : List Nat := []
  waiters : List Nat := []

/-- A semaphore that keeps its requests in two lists. -/
def turnstile : Semaphore Turnstile where
  new n := { free := n }
  free := Turnstile.free
  holders := Turnstile.holders
  waiters := Turnstile.waiters
  ask i s :=
    if s.free = 0 then { s with waiters := s.waiters ++ [i] }
    else { s with free := s.free - 1, holders := i :: s.holders }
  drop i s :=
    if i ∈ s.holders then
      match s.waiters with
      | [] => { s with free := s.free + 1, holders := s.holders.erase i }
      | j :: js => { s with holders := j :: s.holders.erase i, waiters := js }
    else { s with waiters := s.waiters.erase i }

theorem turnstile_fifo : turnstile.Fifo where
  free_new _ := rfl
  holders_new _ := rfl
  waiters_new _ := rfl
  ask_free {s} i h := by
    have hpos : 0 < s.free := h
    have hfree : s.free ≠ 0 := Nat.ne_of_gt hpos
    have hpred : s.free - 1 + 1 = s.free := Nat.sub_add_cancel hpos
    simp [turnstile, hfree, hpred]
  ask_full {s} i h := by
    have hfree : s.free = 0 := h
    simp [turnstile, hfree]
  drop_free {s i} h hw := by
    have hmem : i ∈ s.holders := h
    have hwaiters : s.waiters = [] := hw
    simp [turnstile, hmem, hwaiters]
  drop_next {s i j js} h hw := by
    have hmem : i ∈ s.holders := h
    have hwaiters : s.waiters = j :: js := hw
    simp [turnstile, hmem, hwaiters]
  drop_waiter {s i} h _ := by
    have hmem : i ∉ s.holders := h
    simp [turnstile, hmem]

/-- An executor without a deadline. -/
def patient : Executor := ⟨none, 0⟩

/-- An executor with a deadline. -/
def hasty : Executor := ⟨some (.ofMillis 5), 1⟩

/-- The only slot is taken, and a second execution waits for it. -/
def crowded : Shared Turnstile Nat :=
  { permits := ⟨0, [0], [1]⟩, members := [⟨patient, .running⟩, ⟨hasty, .asking⟩] }

/-- The first execution broke off, and the second was cancelled when it had its slot. -/
def deserted : Shared Turnstile Nat :=
  { permits := ⟨1, [], []⟩, cancelled := [1]
    members := [⟨patient, .done (.collapse "boom")⟩, ⟨hasty, .done .cancelled⟩] }

theorem crowded_reachable : Shared.Reachable turnstile 1 crowded := by
  have idle : Shared.Reachable (α := Nat) turnstile 1 { permits := ⟨1, [], []⟩ } := .start
  have submitted : Shared.Reachable (α := Nat) turnstile 1
      { permits := ⟨1, [], []⟩, members := [⟨patient, .submitted⟩, ⟨hasty, .submitted⟩] } :=
    (idle.step (.submits patient)).step (.submits hasty)
  have asked : Shared.Reachable (α := Nat) turnstile 1
      { permits := ⟨0, [0], []⟩, members := [⟨patient, .asking⟩, ⟨hasty, .submitted⟩] } :=
    submitted.step (.asks (i := 0) rfl)
  have running : Shared.Reachable (α := Nat) turnstile 1
      { permits := ⟨0, [0], []⟩, members := [⟨patient, .running⟩, ⟨hasty, .submitted⟩] } :=
    (asked.step (.admits (i := 0) rfl List.mem_cons_self)).step
      (.begins (i := 0) rfl)
  exact running.step (.asks (i := 1) rfl)

theorem deserted_reachable : Shared.Reachable turnstile 1 deserted := by
  have ended : Shared.Reachable (α := Nat) turnstile 1
      { permits := ⟨0, [0], [1]⟩
        members := [⟨patient, .leaving (.collapse "boom")⟩, ⟨hasty, .asking⟩] } :=
    crowded_reachable.step (.ends (x := crowded) (i := 0) rfl (.collapse "boom"))
  -- the slot goes to the execution that waits
  have left : Shared.Reachable (α := Nat) turnstile 1
      { permits := ⟨0, [1], []⟩
        members := [⟨patient, .done (.collapse "boom")⟩, ⟨hasty, .asking⟩] } :=
    ended.step (.leaves (i := 0) rfl)
  have admitted : Shared.Reachable (α := Nat) turnstile 1
      { permits := ⟨0, [1], []⟩
        members := [⟨patient, .done (.collapse "boom")⟩, ⟨hasty, .admitted⟩] } :=
    left.step (.admits (i := 1) rfl List.mem_cons_self)
  have dismissed : Shared.Reachable (α := Nat) turnstile 1
      { permits := ⟨0, [1], []⟩, cancelled := [1]
        members := [⟨patient, .done (.collapse "boom")⟩, ⟨hasty, .leaving .cancelled⟩] } :=
    (admitted.step (.cancels 1)).step (.dismisses (i := 1) (.inl rfl) List.mem_cons_self)
  exact dismissed.step (.leaves (i := 1) rfl)

/-- A pool of no slots has one. While it is taken no other logic has been called and the second
execution waits, and it is free again when both executions are done. -/
theorem turnstile_bounds : turnstile.Fifo ∧ Pool.ofSlots? 0 = some (Pool.ofSlots 0) ∧
    crowded.active = 1 ∧ turnstile.free crowded.permits = 0 ∧
    turnstile.free deserted.permits = 1 := by
  obtain ⟨hslots, hbounds, -⟩ := Pool.shared_bounds (σ := Unit) (α := Nat) turnstile_fifo
    (show Pool.ofSlots? 0 = some (Pool.ofSlots 0) from rfl)
  obtain ⟨hactive, -, hfull, -⟩ := hbounds crowded crowded_reachable
  obtain ⟨-, -, -, hfree⟩ := hbounds deserted deserted_reachable
  have hwaits : crowded.Waits turnstile 1 := ⟨hasty, rfl, by decide⟩
  have hnone : turnstile.free crowded.permits = 0 := hfull 1 hwaits
  have hone : 1 ≤ crowded.active := by decide
  rw [hslots, hnone] at hactive
  rw [hslots] at hfree
  refine ⟨turnstile_fifo, rfl, by omega, hnone, hfree fun e he => ?_⟩
  rcases List.mem_cons.1 he with rfl | he
  · exact ⟨_, rfl⟩
  · rw [List.mem_singleton.1 he]
    exact ⟨_, rfl⟩

end VulnScan.Execution
