import Mathlib.Data.List.Nodup
import Mathlib.Data.List.Perm.Subperm
import VulnScan.Execution.Pool

/-! # Executors that share a pool

A pool is a semaphore with one permit for each slot, and any number of executors share it. Every
execution is a task of its own: it asks for a permit, runs its logic while it holds one, and drops
the permit when it is decided, however it was decided. An execution whose scan is cancelled may
drop what it has asked for before it is granted.

The semaphore itself is not modelled. What is assumed of it is `Semaphore.Fifo`: it grants permits
in the order in which they were asked for, each to one holder, and takes them back when they are
dropped. From this `Shared.Sound` is derived, the invariant that accounts for every permit, and
`Shared.Step.sound` carries it through all interleavings.
-/

set_option autoImplicit false

namespace VulnScan.Execution

variable {S α : Type}

/-! ## Semaphores -/

/-- A semaphore, whose requests are numbered. -/
structure Semaphore (S : Type) where
  new : Nat → S
  /-- The number of permits that nobody holds. -/
  free : S → Nat
  /-- The requests that hold a permit. -/
  holders : S → List Nat
  /-- The requests that wait for a permit. -/
  waiters : S → List Nat
  /-- A request for a permit. -/
  ask : Nat → S → S
  /-- A request is dropped, with the permit if it holds one. -/
  drop : Nat → S → S

/-- What is assumed of a semaphore. -/
structure Semaphore.Fifo (sem : Semaphore S) : Prop where
  free_new : ∀ {n}, n ≤ Pool.mostSlots → sem.free (sem.new n) = n
  holders_new : ∀ n, sem.holders (sem.new n) = []
  waiters_new : ∀ n, sem.waiters (sem.new n) = []
  /-- A free permit is granted at once. -/
  ask_free : ∀ {s} i, 0 < sem.free s → sem.free (sem.ask i s) + 1 = sem.free s ∧
    sem.holders (sem.ask i s) = i :: sem.holders s ∧ sem.waiters (sem.ask i s) = sem.waiters s
  /-- If none is free, the request waits behind the others. -/
  ask_full : ∀ {s} i, sem.free s = 0 → sem.free (sem.ask i s) = 0 ∧
    sem.holders (sem.ask i s) = sem.holders s ∧ sem.waiters (sem.ask i s) = sem.waiters s ++ [i]
  /-- A permit that nobody waits for is free again when it is dropped. -/
  drop_free : ∀ {s i}, i ∈ sem.holders s → sem.waiters s = [] →
    sem.free (sem.drop i s) = sem.free s + 1 ∧
      sem.holders (sem.drop i s) = (sem.holders s).erase i ∧ sem.waiters (sem.drop i s) = []
  /-- Otherwise it is granted to the first that waits. -/
  drop_next : ∀ {s i j js}, i ∈ sem.holders s → sem.waiters s = j :: js →
    sem.free (sem.drop i s) = sem.free s ∧
      sem.holders (sem.drop i s) = j :: (sem.holders s).erase i ∧ sem.waiters (sem.drop i s) = js
  /-- A request that is dropped while it waits leaves the queue. -/
  drop_waiter : ∀ {s i}, i ∉ sem.holders s → i ∈ sem.waiters s →
    sem.free (sem.drop i s) = sem.free s ∧ sem.holders (sem.drop i s) = sem.holders s ∧
      sem.waiters (sem.drop i s) = (sem.waiters s).erase i

/-! ## Executions -/

/-- What an executor is set up with: a deadline, and the token by which it is cancelled. -/
structure Executor where
  deadline : Option Time.Span := none
  token : Nat

/-- Where an execution stands. -/
inductive Station (α : Type) where
  /-- It was submitted. -/
  | submitted
  /-- It has asked for a permit. -/
  | asking
  /-- It has taken its permit. -/
  | admitted
  /-- Its logic has been called. -/
  | running
  /-- It is decided, and about to drop its permit. -/
  | leaving (r : Resolution α)
  | done (r : Resolution α)

/-- Whether the logic may have been called and the execution has not delivered its result. -/
def Station.isActive : Station α → Bool
  | .running | .leaving _ => true
  | .submitted | .asking | .admitted | .done _ => false

/-- An execution, and the executor that it was submitted to. -/
structure Member (α : Type) where
  executor : Executor
  station : Station α

/-- A shared pool: its semaphore, the tokens that are cancelled, and all executions. -/
structure Shared (S α : Type) where
  permits : S
  cancelled : List Nat := []
  members : List (Member α) := []

namespace Shared

/-- The number of executions whose logic was called and that are not done. -/
def active (x : Shared S α) : Nat := x.members.countP fun e => e.station.isActive

/-- The execution with number `i` is moved to a station. -/
def move (x : Shared S α) (i : Nat) (e : Executor) (station : Station α) : Shared S α :=
  { x with members := x.members.set i ⟨e, station⟩ }

/-- The execution with number `i` is at a station. -/
def At (x : Shared S α) (i : Nat) (e : Executor) (station : Station α) : Prop :=
  x.members[i]? = some ⟨e, station⟩

/-- The execution with number `i` waits for a slot. -/
def Waits (sem : Semaphore S) (x : Shared S α) (i : Nat) : Prop :=
  ∃ e, x.At i e .asking ∧ i ∉ sem.holders x.permits

/-- One step of one execution, or of those who submit and cancel executions. -/
inductive Step (sem : Semaphore S) (x : Shared S α) : Shared S α → Prop
  | submits (e : Executor) : Step sem x { x with members := x.members ++ [⟨e, .submitted⟩] }
  | cancels (token : Nat) : Step sem x { x with cancelled := token :: x.cancelled }
  /-- An execution asks for a permit, even if it was cancelled right before. -/
  | asks {i : Nat} {e : Executor} (at_i : x.At i e .submitted) :
      Step sem x { x.move i e .asking with permits := sem.ask i x.permits }
  | admits {i : Nat} {e : Executor} (at_i : x.At i e .asking)
      (granted : i ∈ sem.holders x.permits) : Step sem x (x.move i e .admitted)
  /-- Its logic is called, even if it was cancelled after the same poll looked for that. -/
  | begins {i : Nat} {e : Executor} (at_i : x.At i e .admitted) : Step sem x (x.move i e .running)
  /-- The logic ends with a value or an error, or breaks off. -/
  | ends {i : Nat} {e : Executor} (at_i : x.At i e .running) (o : Outcome α) :
      Step sem x (x.move i e (.leaving (.ofOutcome o)))
  | expires {i : Nat} {e : Executor} (at_i : x.At i e .running)
      (limited : e.deadline.isSome = true) : Step sem x (x.move i e (.leaving .timedOut))
  /-- A cancelled execution does not ask. -/
  | turnsAway {i : Nat} {e : Executor} (at_i : x.At i e .submitted)
      (cancelled : e.token ∈ x.cancelled) : Step sem x (x.move i e (.done .cancelled))
  /-- A cancelled execution drops its request, whether or not it was granted meanwhile. -/
  | withdraws {i : Nat} {e : Executor} (at_i : x.At i e .asking)
      (cancelled : e.token ∈ x.cancelled) :
      Step sem x { x.move i e (.done .cancelled) with permits := sem.drop i x.permits }
  /-- A cancelled execution does not call its logic, or drops it. -/
  | dismisses {i : Nat} {e : Executor} (at_i : x.At i e .admitted ∨ x.At i e .running)
      (cancelled : e.token ∈ x.cancelled) : Step sem x (x.move i e (.leaving .cancelled))
  /-- A decided execution drops its permit. -/
  | leaves {i : Nat} {e : Executor} {r : Resolution α} (at_i : x.At i e (.leaving r)) :
      Step sem x { x.move i e (.done r) with permits := sem.drop i x.permits }

/-- Any number of steps. -/
inductive Leads (sem : Semaphore S) (x : Shared S α) : Shared S α → Prop
  | start : Leads sem x x
  | step {y z : Shared S α} (leads : Leads sem x y) (step : y.Step sem z) : Leads sem x z

theorem Leads.trans {sem : Semaphore S} {x y z : Shared S α} (h : x.Leads sem y)
    (h' : y.Leads sem z) : x.Leads sem z := by
  induction h' with
  | start => exact h
  | step leads step ih => exact ih.step step

/-- The states of a pool with so many slots. -/
def Reachable (sem : Semaphore S) (slots : Nat) (x : Shared S α) : Prop :=
  Leads sem { permits := sem.new slots } x

end Shared

/-! ## Every permit is accounted for -/

/-- The permits of a semaphore with so many slots: each is free or has one holder, and who waits
waits for good reason. -/
structure Semaphore.Balanced (sem : Semaphore S) (slots : Nat) (s : S) : Prop where
  total : sem.free s + (sem.holders s).length = slots
  full : sem.waiters s ≠ [] → sem.free s = 0
  nodup : (sem.holders s ++ sem.waiters s).Nodup

/-- All permits of a semaphore with so many slots are free, and nobody waits for one. -/
structure Semaphore.Idle (sem : Semaphore S) (slots : Nat) (s : S) : Prop where
  free : sem.free s = slots
  holders : sem.holders s = []
  waiters : sem.waiters s = []

namespace Semaphore

variable {sem : Semaphore S} {slots i j : Nat} {s : S}

theorem idle_new (fifo : sem.Fifo) (h : slots ≤ Pool.mostSlots) :
    sem.Idle slots (sem.new slots) :=
  ⟨fifo.free_new h, fifo.holders_new slots, fifo.waiters_new slots⟩

theorem Idle.balanced (idle : sem.Idle slots s) : sem.Balanced slots s := by
  refine ⟨?_, fun hwaiters => absurd idle.waiters hwaiters, ?_⟩
  · rw [idle.free, idle.holders]
    rfl
  · rw [idle.holders, idle.waiters]
    exact List.nodup_nil

/-- A new request keeps the balance. -/
theorem Balanced.ask (balanced : sem.Balanced slots s) (fifo : sem.Fifo) (hh : i ∉ sem.holders s)
    (hw : i ∉ sem.waiters s) : sem.Balanced slots (sem.ask i s) := by
  have hnew : (i :: (sem.holders s ++ sem.waiters s)).Nodup :=
    List.nodup_cons.2 ⟨by simp [hh, hw], balanced.nodup⟩
  have htotal := balanced.total
  rcases Nat.eq_zero_or_pos (sem.free s) with hfree | hfree
  · obtain ⟨hf, hholders, hwaiters⟩ := fifo.ask_full i hfree
    refine ⟨by rw [hf, hholders]; omega, fun _ => hf, ?_⟩
    rw [hholders, hwaiters, ← List.append_assoc]
    exact (List.perm_append_singleton i _).nodup_iff.2 hnew
  · obtain ⟨hf, hholders, hwaiters⟩ := fifo.ask_free i hfree
    refine ⟨by rw [hholders, List.length_cons]; omega, ?_, by rw [hholders, hwaiters]; exact hnew⟩
    intro hne
    rw [hwaiters] at hne
    have := balanced.full hne
    omega

/-- A request that is made is granted or waits, and all others stay as they are. -/
theorem Fifo.mem_ask (fifo : sem.Fifo) (i : Nat) (s : S) :
    (i ∈ sem.holders (sem.ask i s) ∨ i ∈ sem.waiters (sem.ask i s)) ∧
      ∀ j, j ≠ i → (j ∈ sem.holders (sem.ask i s) ↔ j ∈ sem.holders s) ∧
        (j ∈ sem.waiters (sem.ask i s) ↔ j ∈ sem.waiters s) := by
  rcases Nat.eq_zero_or_pos (sem.free s) with hfree | hfree
  · obtain ⟨-, hholders, hwaiters⟩ := fifo.ask_full i hfree
    rw [hholders, hwaiters]
    exact ⟨.inr (by simp), fun j hj => by simp [hj]⟩
  · obtain ⟨-, hholders, hwaiters⟩ := fifo.ask_free i hfree
    rw [hholders, hwaiters]
    exact ⟨.inl List.mem_cons_self, fun j hj => by simp [hj]⟩

/-- A request that is dropped, granted or not, keeps the balance. -/
theorem Balanced.drop (balanced : sem.Balanced slots s) (fifo : sem.Fifo)
    (hi : i ∈ sem.holders s ∨ i ∈ sem.waiters s) : sem.Balanced slots (sem.drop i s) := by
  have htotal := balanced.total
  have hnodup := balanced.nodup
  by_cases hh : i ∈ sem.holders s
  · have hlength := List.length_erase_of_mem hh
    have hpos := List.length_pos_of_mem hh
    cases hw : sem.waiters s with
    | nil =>
        obtain ⟨hf, hholders, hwaiters⟩ := fifo.drop_free hh hw
        refine ⟨by rw [hf, hholders]; omega, fun h => absurd hwaiters h, ?_⟩
        rw [hholders, hwaiters, List.append_nil]
        exact (List.nodup_append.1 hnodup).1.erase i
    | cons j js =>
        -- the permit goes on to the first that waits
        obtain ⟨hf, hholders, hwaiters⟩ := fifo.drop_next hh hw
        refine ⟨by rw [hf, hholders, List.length_cons]; omega, fun _ => ?_, ?_⟩
        · rw [hf]
          exact balanced.full (by rw [hw]; exact List.cons_ne_nil _ _)
        · rw [hw, List.nodup_middle] at hnodup
          rw [hholders, hwaiters, List.cons_append]
          exact hnodup.sublist ((List.erase_sublist.append_right js).cons_cons j)
  · obtain ⟨hf, hholders, hwaiters⟩ := fifo.drop_waiter hh (hi.resolve_left hh)
    refine ⟨by rw [hf, hholders]; omega, fun h => ?_, ?_⟩
    · rw [hf]
      refine balanced.full fun hnil => h ?_
      rw [hwaiters, hnil]
      rfl
    · rw [hholders, hwaiters]
      exact hnodup.sublist (List.erase_sublist.append_left _)

/-- A request that is dropped is gone. Others stay, and may be granted what was dropped. -/
theorem Balanced.mem_drop (balanced : sem.Balanced slots s) (fifo : sem.Fifo)
    (hi : i ∈ sem.holders s ∨ i ∈ sem.waiters s) :
    (i ∉ sem.holders (sem.drop i s) ∧ i ∉ sem.waiters (sem.drop i s)) ∧
      ∀ j, j ≠ i → (j ∈ sem.holders s → j ∈ sem.holders (sem.drop i s)) ∧
        (j ∈ sem.holders (sem.drop i s) ∨ j ∈ sem.waiters (sem.drop i s) ↔
          j ∈ sem.holders s ∨ j ∈ sem.waiters s) := by
  obtain ⟨hholds, hwaits, hdisjoint⟩ := List.nodup_append.1 balanced.nodup
  by_cases hh : i ∈ sem.holders s
  · have hgone : i ∉ (sem.holders s).erase i := fun h => (hholds.mem_erase_iff.1 h).1 rfl
    have hother : ∀ j, j ≠ i → (j ∈ (sem.holders s).erase i ↔ j ∈ sem.holders s) :=
      fun j hj => List.mem_erase_of_ne hj
    have hi' : i ∉ sem.waiters s := fun h => hdisjoint i hh i h rfl
    cases hw : sem.waiters s with
    | nil =>
        obtain ⟨-, hholders, hwaiters⟩ := fifo.drop_free hh hw
        rw [hholders, hwaiters]
        exact ⟨⟨hgone, List.not_mem_nil⟩, fun j hj => by simp [hother j hj]⟩
    | cons k ks =>
        obtain ⟨-, hholders, hwaiters⟩ := fifo.drop_next hh hw
        rw [hw, List.mem_cons, not_or] at hi'
        rw [hholders, hwaiters]
        refine ⟨⟨by simp [hi'.1, hgone], hi'.2⟩, fun j hj => ?_⟩
        simp only [List.mem_cons, hother j hj]
        tauto
  · obtain ⟨-, hholders, hwaiters⟩ := fifo.drop_waiter hh (hi.resolve_left hh)
    rw [hholders, hwaiters]
    refine ⟨⟨hh, fun h => (hwaits.mem_erase_iff.1 h).1 rfl⟩, fun j hj => ⟨id, ?_⟩⟩
    rw [List.mem_erase_of_ne hj]

end Semaphore

/-- What an execution at a station has of the semaphore: it `holds` a permit, or it `waits`, or
neither. -/
def Station.Placed (holds waits : Prop) : Station α → Prop
  | .submitted | .done _ => ¬ holds ∧ ¬ waits
  | .asking => holds ∨ waits
  | .admitted | .running | .leaving _ => holds

namespace Shared

variable {sem : Semaphore S} {slots : Nat} {x y : Shared S α}

/-- Every permit is accounted for: each is free or held by an execution, and an execution holds or
waits for one if and only if it has asked and has not dropped it. -/
structure Sound (sem : Semaphore S) (slots : Nat) (x : Shared S α) : Prop where
  balanced : sem.Balanced slots x.permits
  placed : ∀ i e st, x.At i e st → st.Placed (i ∈ sem.holders x.permits) (i ∈ sem.waiters x.permits)
  absent : ∀ i, x.members.length ≤ i → i ∉ sem.holders x.permits ∧ i ∉ sem.waiters x.permits

/-- One execution moves, and the semaphore changes to `s` for its sake. -/
theorem Sound.move {i : Nat} {e : Executor} {st st' : Station α} {s : S} (sound : x.Sound sem slots)
    (at_i : x.At i e st) (balanced : sem.Balanced slots s)
    (placed : st'.Placed (i ∈ sem.holders s) (i ∈ sem.waiters s))
    (others : ∀ j, j ≠ i → (j ∈ sem.holders x.permits → j ∈ sem.holders s) ∧
      (j ∈ sem.holders s ∨ j ∈ sem.waiters s ↔
        j ∈ sem.holders x.permits ∨ j ∈ sem.waiters x.permits)) :
    Sound sem slots { x.move i e st' with permits := s } := by
  have hi : i < x.members.length := (List.getElem?_eq_some_iff.1 at_i).1
  refine ⟨balanced, fun j e' st'' at_j => ?_, fun j hj => ?_⟩
  · have hmember : (x.members.set i ⟨e, st'⟩)[j]? = some ⟨e', st''⟩ := at_j
    by_cases hj : i = j
    · subst hj
      rw [List.getElem?_set_self hi, Option.some.injEq, Member.mk.injEq] at hmember
      obtain ⟨-, rfl⟩ := hmember
      exact placed
    · rw [List.getElem?_set_ne hj] at hmember
      have hplaced := sound.placed j e' st'' hmember
      obtain ⟨hholds, hiff⟩ := others j (Ne.symm hj)
      cases st'' with
      | asking => exact hiff.2 hplaced
      | admitted => exact hholds hplaced
      | running => exact hholds hplaced
      | leaving r => exact hholds hplaced
      | submitted => exact not_or.1 (hiff.not.2 (not_or.2 hplaced))
      | done r => exact not_or.1 (hiff.not.2 (not_or.2 hplaced))
  · have hlength : x.members.length ≤ j := by
      rw [← List.length_set (a := (⟨e, st'⟩ : Member α))]
      exact hj
    have hne : j ≠ i := by omega
    exact not_or.1 ((others j hne).2.not.2 (not_or.2 (sound.absent j hlength)))

/-- One execution moves, and keeps what it has of the semaphore. -/
theorem Sound.keep {i : Nat} {e : Executor} {st st' : Station α} (sound : x.Sound sem slots)
    (at_i : x.At i e st)
    (placed : st'.Placed (i ∈ sem.holders x.permits) (i ∈ sem.waiters x.permits)) :
    Sound sem slots (x.move i e st') :=
  sound.move at_i sound.balanced placed fun _ _ => ⟨id, Iff.rfl⟩

/-- One execution moves to a station where it needs no more of the semaphore than before. -/
theorem Sound.stay {i : Nat} {e : Executor} {st st' : Station α} (sound : x.Sound sem slots)
    (at_i : x.At i e st) (stay : ∀ {holds waits : Prop}, st.Placed holds waits →
      st'.Placed holds waits) : Sound sem slots (x.move i e st') :=
  sound.keep at_i (stay (sound.placed i e st at_i))

/-- **A step keeps every permit accounted for.** -/
theorem Step.sound (fifo : sem.Fifo) (sound : x.Sound sem slots) (step : x.Step sem y) :
    y.Sound sem slots := by
  cases step with
  | submits e =>
      refine ⟨sound.balanced, fun i e' st at_i => ?_, fun i hi => ?_⟩
      · have hmember : (x.members ++ [⟨e, .submitted⟩])[i]? = some ⟨e', st⟩ := at_i
        rcases Nat.lt_or_ge i x.members.length with hlt | hge
        · rw [List.getElem?_append_left hlt] at hmember
          exact sound.placed i e' st hmember
        · -- the new execution has not asked for anything
          rw [List.getElem?_append_right hge, List.getElem?_singleton] at hmember
          split at hmember
          · rw [Option.some.injEq, Member.mk.injEq] at hmember
            obtain ⟨-, rfl⟩ := hmember
            exact sound.absent i hge
          · cases hmember
      · have hlength : x.members.length + 1 ≤ i := by simpa using hi
        exact sound.absent i (by omega)
  | cancels token => exact ⟨sound.balanced, sound.placed, sound.absent⟩
  | @asks i e at_i =>
      obtain ⟨hh, hw⟩ := sound.placed i e _ at_i
      obtain ⟨hi, hothers⟩ := fifo.mem_ask i x.permits
      refine sound.move at_i (sound.balanced.ask fifo hh hw) hi fun j hj => ?_
      obtain ⟨hholders, hwaiters⟩ := hothers j hj
      rw [hholders, hwaiters]
      exact ⟨id, Iff.rfl⟩
  | admits at_i granted => exact sound.keep at_i granted
  | begins at_i => exact sound.stay at_i id
  | ends at_i o => exact sound.stay at_i id
  | expires at_i limited => exact sound.stay at_i id
  | turnsAway at_i cancelled => exact sound.stay at_i id
  | withdraws at_i cancelled =>
      have hi := sound.placed _ _ _ at_i
      obtain ⟨hgone, hothers⟩ := sound.balanced.mem_drop fifo hi
      exact sound.move at_i (sound.balanced.drop fifo hi) hgone hothers
  | dismisses at_i cancelled =>
      rcases at_i with at_i | at_i
      · exact sound.stay at_i id
      · exact sound.stay at_i id
  | @leaves i e r at_i =>
      have hi : i ∈ sem.holders x.permits ∨ i ∈ sem.waiters x.permits :=
        .inl (sound.placed i e _ at_i)
      obtain ⟨hgone, hothers⟩ := sound.balanced.mem_drop fifo hi
      exact sound.move at_i (sound.balanced.drop fifo hi) hgone hothers

/-- Whatever happens on a shared pool, every permit is accounted for. -/
theorem Leads.sound (fifo : sem.Fifo) (leads : x.Leads sem y) (sound : x.Sound sem slots) :
    y.Sound sem slots := by
  induction leads with
  | start => exact sound
  | step leads step ih => exact step.sound fifo ih

/-- A pool that nobody uses is sound. -/
theorem sound_of_idle {s : S} (idle : sem.Idle slots s) (cancelled : List Nat) :
    Sound sem slots ({ permits := s, cancelled } : Shared S α) := by
  refine ⟨idle.balanced, fun i e st at_i => ?_, fun i _ => ?_⟩
  · exact absurd at_i (by simp [At])
  · rw [idle.holders, idle.waiters]
    exact ⟨List.not_mem_nil, List.not_mem_nil⟩

theorem Reachable.sound (fifo : sem.Fifo) (hslots : slots ≤ Pool.mostSlots)
    (reachable : Reachable sem slots x) : x.Sound sem slots :=
  Leads.sound fifo reachable (sound_of_idle (Semaphore.idle_new fifo hslots) [])

/-! ## Bounds -/

/-- Whoever is active holds a permit. -/
theorem Sound.active_le (sound : x.Sound sem slots) :
    x.active ≤ (sem.holders x.permits).length := by
  rw [active, ← List.length_findIdxs (s := 0)]
  refine (List.nodup_findIdxs.subperm fun i hi => ?_).length_le
  obtain ⟨hlt, hactive⟩ := List.mem_findIdxs_iff_exists_getElem_pos.1 hi
  have at_i : x.At i x.members[i].executor x.members[i].station :=
    List.getElem?_eq_getElem hlt
  have hplaced := sound.placed i _ _ at_i
  cases hst : x.members[i].station with
  | running => rwa [hst] at hplaced
  | leaving r => rwa [hst] at hplaced
  | submitted => simp [hst, Station.isActive] at hactive
  | asking => simp [hst, Station.isActive] at hactive
  | admitted => simp [hst, Station.isActive] at hactive
  | done r => simp [hst, Station.isActive] at hactive

/-- Who waits for a slot waits because every slot is taken. -/
theorem Sound.free_of_waits {i : Nat} (sound : x.Sound sem slots) (waits : x.Waits sem i) :
    sem.free x.permits = 0 := by
  obtain ⟨e, at_i, hnot⟩ := waits
  have hplaced : i ∈ sem.holders x.permits ∨ i ∈ sem.waiters x.permits := sound.placed i e _ at_i
  exact sound.balanced.full (List.ne_nil_of_mem (hplaced.resolve_left hnot))

/-- Once all executions are done, every slot is free, and nobody waits for one. -/
theorem Sound.idle_of_done (sound : x.Sound sem slots)
    (done : ∀ e ∈ x.members, ∃ r, e.station = .done r) : sem.Idle slots x.permits := by
  have hnone : ∀ i, i ∉ sem.holders x.permits ∧ i ∉ sem.waiters x.permits := by
    intro i
    rcases Nat.lt_or_ge i x.members.length with hlt | hge
    · have at_i : x.At i x.members[i].executor x.members[i].station :=
        List.getElem?_eq_getElem hlt
      have hplaced := sound.placed i _ _ at_i
      obtain ⟨r, hr⟩ := done _ (List.getElem_mem hlt)
      rwa [hr] at hplaced
    · exact sound.absent i hge
  have hholders : sem.holders x.permits = [] :=
    List.eq_nil_iff_forall_not_mem.2 fun i => (hnone i).1
  have htotal := sound.balanced.total
  rw [hholders, List.length_nil, Nat.add_zero] at htotal
  exact ⟨htotal, hholders, List.eq_nil_iff_forall_not_mem.2 fun i => (hnone i).2⟩

end Shared

end VulnScan.Execution
