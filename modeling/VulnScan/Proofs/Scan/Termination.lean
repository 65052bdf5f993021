import VulnScan.Proofs.Execution.Deadlines
import VulnScan.Proofs.Execution.Isolation
import VulnScan.Proofs.Scan.Phases

/-! # Under a deadline everything ends

All plugins of a scan run on its pool, so under a deadline none of them can keep the scan from
going on. What is left are the language servers, which are asked for their plugins before these run:
if every such call comes to an end, so does the scan (`Workflow.run_meets_of_deadline`).

`deadline_ends` puts this beside the times by which the executions of a pool are decided. Timers
have a resolution of one tick, so a deadline counts in whole ticks, rounded up
(`hastyPool_overruns`).
-/

set_option autoImplicit false

namespace VulnScan.Scan

open Execution (Activity Break Course Jobs Moment Phase Pool Record Signals Task hastyPool
  narrowPool pacedDetector)

variable {σ : Type}

/-! ## What never hangs -/

/-- What is composed of activities that never hang never hangs. -/
theorem not_mayHang_composes :
    Activity.Composes fun (α : Type) (a : Activity σ α) => ¬ a.MayHang where
  finish o h := by
    have heq := Activity.part_finish.1 h
    cases heq
  wait d next h hhang := by
    rcases Activity.part_wait.1 hhang with heq | hnext
    · cases heq
    · exact h hnext
  andThen h hf hhang := by
    rcases Plugin.Registry.mayHang_andThen hhang with ha | ⟨v, -, hv⟩
    · exact h ha
    · exact hf v hv
  tried h hhang := h (Plugin.Registry.mayHang_of_tried hhang)

/-- The language servers answer every call that a scan makes to learn their plugins. -/
def Workflow.Answered (w : Workflow σ) : Prop :=
  ∀ e ∈ w.registry.entries, ∀ p, e.body = .host p →
    (∀ limit, ¬ (p.server.health limit).MayHang) ∧ ∀ limit, ¬ (p.server.list limit).MayHang

/-- Under a deadline a scan whose language servers answer never hangs. -/
theorem Workflow.Answered.not_mayHang {w : Workflow σ} {target : Net.Endpoint}
    (answered : w.Answered) (hlimit : w.pool.deadline ≠ none) : ¬ w.MayHang target := by
  intro h
  cases h with
  | scanning unlimited selected hangs => exact hlimit unlimited
  | identifying unlimited selected hangs => exact hlimit unlimited
  | detecting unlimited listed selected hangs => exact hlimit unlimited
  | @listing survey hangs =>
      obtain ⟨e, he, p, hp, hplugins⟩ := Plugin.Registry.mayHang_chooseDetectors hangs
      obtain ⟨health, list⟩ := answered e (List.mem_filter.1 he).1 p hp
      exact p.plugins_inherits not_mayHang_composes health list hplugins

/-- Under a deadline a scan whose language servers answer leads to results, unless it is abandoned
from outside or the listing of plugins breaks off. -/
theorem Workflow.run_meets_of_deadline {w : Workflow σ} {signals : Signals} (target : Net.Endpoint)
    (m : Moment σ) (answered : w.Answered) (hlimit : w.pool.deadline ≠ none)
    (quiet : signals.abandonAt = none) :
    (w.run target signals m).Meets (fun out m' => w.ComesTo target signals m m' out.2)
      fun br => ∃ message m', br = .collapsed message m' ∧
        w.registry.MayBreakOff w.selection message := by
  refine (w.run_meets target signals m).imp (fun out m' _ h => h.2) fun br hbr => ?_
  exact Signals.Excuse.exists_collapsed hbr quiet (answered.not_mayHang hlimit)

/-- **Under a deadline everything ends.** However many tasks are submitted together, and whatever
they do, if they are not cancelled then each is decided: with `p` slots the task with the number `i`
after at most `i / p + 1` deadlines in whole ticks. And under a deadline a scan never hangs if its
language servers answer the calls for their plugins, whatever its plugins do. -/
theorem deadline_ends (limit : Time.Span) :
    (∀ {σ α : Type} (pool : Pool) (tasks : List (Task σ α)) (signals : Signals) (m : Moment σ),
      pool.deadline = some limit → signals.abandonAt = none →
      (pool.execute tasks signals m).final.cancelled = false →
      ∃ records m', pool.execute tasks signals m = .reached records m' ∧
        ∀ (i : Nat) (t : Task σ α), tasks[i]? = some t → ∃ s d,
          (Jobs.submitted m (tasks.map fun t => (m.now, t))).Goes pool.slots
            (pool.deadline.map Time.Span.ticks) s ∧
          s.phases[i]? = some (.decided d) ∧
          s.moment.now ≤ m.now + (i / pool.slots + 1) * limit.ticks ∧
          records[i]? = some (t.record pool.deadline d)) ∧
    ∀ {σ : Type} (w : Workflow σ) (target : Net.Endpoint) (signals : Signals) (m : Moment σ),
      w.pool.deadline = some limit → signals.abandonAt = none → w.Answered →
      (w.run target signals m).Meets (fun out m' => w.ComesTo target signals m m' out.2)
        fun br => ∃ message m', br = .collapsed message m' ∧
          w.registry.MayBreakOff w.selection message := by
  constructor
  · intro σ α pool tasks signals m hlimit quiet uncancelled
    exact Execution.Pool.execute_in_rounds hlimit quiet uncancelled
  · intro σ w target signals m hlimit quiet answered
    exact w.run_meets_of_deadline target m answered (by rw [hlimit]; exact nofun) quiet

/-! ## Tasks that never end -/

/-- A task that never ends. -/
def endless : Task Unit Nat := ⟨pacedDetector, [], .forever, id⟩

/-- Nothing cancels tasks that never end. -/
theorem endless_uncancelled {pool : Pool} {limit : Time.Span} (hlimit : pool.deadline = some limit)
    (n : Nat) :
    (pool.execute (List.replicate n endless) {} ⟨0, (), false⟩).final.cancelled = false := by
  refine Pool.execute_uncancelled hlimit rfl rfl rfl fun t ht => ?_
  rw [List.eq_of_mem_replicate ht]
  rintro ⟨next, hnext⟩
  have heq := Activity.part_forever.1 hnext
  cases heq

/-- On a single slot under a deadline of two ticks, three tasks that never end are decided after
two, four and six ticks at the latest. -/
theorem endless_in_rounds : ∃ records m',
    narrowPool.execute (List.replicate 3 endless) {} ⟨0, (), false⟩ = .reached records m' ∧
      ∀ (i : Nat) (t : Task Unit Nat), (List.replicate 3 endless)[i]? = some t → ∃ s d,
        (Jobs.submitted ⟨0, (), false⟩ ((List.replicate 3 endless).map fun t => (0, t))).Goes
          narrowPool.slots (narrowPool.deadline.map Time.Span.ticks) s ∧
        s.phases[i]? = some (.decided d) ∧ s.moment.now ≤ 0 + (i / 1 + 1) * 2 ∧
        records[i]? = some (t.record narrowPool.deadline d) :=
  (deadline_ends (.ofMillis 2)).1 narrowPool (List.replicate 3 endless) {} ⟨0, (), false⟩ rfl rfl
    (endless_uncancelled rfl 3)

/-- **A deadline between two ticks ends at the later one.** Under a deadline of one nanosecond a
task that never ends is not decided within a nanosecond, although there is a slot for it. -/
theorem hastyPool_overruns : ∃ limit, hastyPool.deadline = some limit ∧
    (hastyPool.execute [endless] {} ⟨0, (), false⟩).final.cancelled = false ∧
    ¬ ∃ (s : Jobs Unit Nat) (d : Execution.Decision Nat),
      (Jobs.submitted ⟨0, (), false⟩ [(0, endless)]).Goes hastyPool.slots
        (hastyPool.deadline.map Time.Span.ticks) s ∧
      s.phases[0]? = some (.decided d) ∧
      instant s.moment.now ≤ (0 / hastyPool.slots + 1) * limit.nanos := by
  refine ⟨_, rfl, endless_uncancelled rfl 1, ?_⟩
  rintro ⟨s, d, goes, hd, hle⟩
  -- it gets its slot at once, and its deadline ends with the first tick
  cases goes with
  | here => cases hd
  | event _ _ next advances rest =>
      cases (rfl : (Jobs.submitted ⟨0, (), false⟩ [(0, endless)]).next hastyPool.slots =
        some (⟨0, true, 0⟩, 0)).symm.trans next
      cases advances
      cases rest with
      | here => cases hd
      | event _ _ next advances rest =>
          cases (rfl : (Jobs.mk ⟨0, (), false⟩ 2 [.idle 0 (some ⟨1, 1⟩)] : Jobs Unit Nat).next
            hastyPool.slots = some (⟨1, false, 1⟩, 0)).symm.trans next
          cases advances
          cases rest with
          | here => exact absurd hle (by decide)
          | event unfinished _ _ _ _ => cases unfinished

end VulnScan.Scan
