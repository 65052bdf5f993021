import VulnScan.Execution.Alone
import VulnScan.Proofs.Execution.PoolRun

/-! # The clock of a run

The clock of a run only moves on. A pool goes on with the first of the events that are due, so at
no time one of its timers is over (`Jobs.Ahead`); what an event leads to waits for later times. An
activity on its own goes on when its wait is over.
-/

set_option autoImplicit false

namespace VulnScan.Execution

variable {σ α : Type}

/-! ## Pools -/

/-- No timer of the job is over. -/
def Phase.Ahead (now : Nat) : Phase σ α → Prop
  | .queued _ _ => True
  | .waiting _ timer _ limit => now ≤ timer.time ∧ ∀ l, limit = some l → now ≤ l.time
  | .idle _ limit => ∀ l, limit = some l → now ≤ l.time
  | .decided _ => True

/-- No timer of the pool is over. -/
def Jobs.Ahead (s : Jobs σ α) : Prop := ∀ p ∈ s.phases, p.Ahead s.moment.now

/-- An event is due no earlier than now. -/
theorem Phase.Ahead.le_due {now i : Nat} {hasFree : Bool} {p : Phase σ α} {d : Due}
    (h : p.Ahead now) (hd : p.due now hasFree i = some d) : now ≤ d.time := by
  cases p with
  | queued submitted job =>
      simp only [Phase.due] at hd
      split at hd
      · cases hd
        exact Nat.le_max_left _ _
      · cases hd
  | waiting since timer next limit =>
      obtain ⟨htimer, hlimit⟩ := h
      cases limit with
      | none =>
          cases hd
          exact htimer
      | some l =>
          have hl := hlimit l rfl
          cases hd
          rw [Due.time_earlier]
          exact Nat.le_min.2 ⟨htimer, hl⟩
  | idle since limit =>
      simp only [Phase.due, Option.map_eq_some_iff] at hd
      obtain ⟨l, hl, rfl⟩ := hd
      exact h l hl
  | decided d => cases hd

/-- Until its next event is due, no timer of a job is over. -/
theorem Phase.Ahead.until {now later i : Nat} {hasFree : Bool} {p : Phase σ α} (h : p.Ahead now)
    (hd : ∀ d, p.due now hasFree i = some d → later ≤ d.time) : p.Ahead later := by
  cases p with
  | queued submitted job => trivial
  | waiting since timer next limit =>
      cases limit with
      | none => exact ⟨hd _ rfl, nofun⟩
      | some l =>
          have hmin := hd _ rfl
          rw [Due.time_earlier] at hmin
          refine ⟨by omega, fun l' hl' => ?_⟩
          cases hl'
          omega
  | idle since limit =>
      cases limit with
      | none => exact nofun
      | some l =>
          intro l' hl'
          cases hl'
          exact hd _ rfl
  | decided d => trivial

theorem Due.time_le_of_before {a b : Due} (h : a.before b = true) : a.time ≤ b.time := by
  rw [before_iff] at h
  omega

theorem Due.time_le_of_not_before {a b : Due} (h : ¬ a.before b = true) : b.time ≤ a.time := by
  rw [before_iff] at h
  omega

/-- Whether a job has a next event does not depend on its number. -/
theorem Phase.due_eq_none {now i j : Nat} {hasFree : Bool} {p : Phase σ α}
    (h : p.due now hasFree i = none) : p.due now hasFree j = none := by
  cases p with
  | queued submitted job =>
      simp only [Phase.due] at h ⊢
      split at h
      · cases h
      · next hfree => rw [if_neg hfree]
  | waiting since timer next limit => cases limit <;> cases h
  | idle since limit => exact h
  | decided d => rfl

/-- The first event is no later than that of the first job, and than the first of the others. -/
theorem firstDue_cons_le {now i j : Nat} {hasFree : Bool} {q : Phase σ α} {ps : List (Phase σ α)}
    {due : Due} (h : firstDue now hasFree i (q :: ps) = some (due, j)) :
    (∀ d, q.due now hasFree i = some d → due.time ≤ d.time) ∧
      ∀ e j', firstDue now hasFree (i + 1) ps = some (e, j') → due.time ≤ e.time := by
  simp only [firstDue] at h
  split at h
  · next dq e j' hq hps =>
      rw [hq, hps]
      split at h <;> cases h
      · next hbefore =>
          refine ⟨fun d hd => ?_, fun e' j'' he => ?_⟩
          · cases hd
            exact Due.time_le_of_before hbefore
          · cases he
            exact Nat.le_refl _
      · next hbefore =>
          refine ⟨fun d hd => ?_, fun e' j'' he => ?_⟩
          · cases hd
            exact Nat.le_refl _
          · cases he
            exact Due.time_le_of_not_before hbefore
  · next dq hq hps =>
      cases h
      rw [hq, hps]
      exact ⟨fun d hd => by cases hd; exact Nat.le_refl _, fun e j' he => by cases he⟩
  · next hq =>
      have hnone : q.due now hasFree i = none := by
        cases hdq : q.due now hasFree i with
        | none => rfl
        | some dq => cases hps : firstDue now hasFree (i + 1) ps <;> simp_all
      rw [hnone, h]
      refine ⟨fun d hd => (by cases hd), fun e j' he => ?_⟩
      cases he
      exact Nat.le_refl _

/-- No event is due before the first one. -/
theorem firstDue_le {now i j : Nat} {hasFree : Bool} {ps : List (Phase σ α)} {due : Due}
    (h : firstDue now hasFree i ps = some (due, j)) {k : Nat} {p : Phase σ α} {d : Due}
    (hp : ps[k]? = some p) (hd : p.due now hasFree (i + k) = some d) : due.time ≤ d.time := by
  induction ps generalizing i j k due with
  | nil => simp at hp
  | cons q ps ih =>
      obtain ⟨hq, hps⟩ := firstDue_cons_le h
      cases k with
      | zero =>
          cases hp
          exact hq d hd
      | succ k =>
          rw [List.getElem?_cons_succ] at hp
          rw [Nat.add_succ, ← Nat.succ_add] at hd
          cases hfirst : firstDue now hasFree (i + 1) ps with
          | none =>
              obtain ⟨j', hj'⟩ := firstDue_eq_none hfirst (List.mem_of_getElem? hp)
              rw [Phase.due_eq_none hj'] at hd
              cases hd
          | some x => exact Nat.le_trans (hps x.1 x.2 hfirst) (ih hfirst hp hd)

/-- Where an activity stops, it waits for later times. -/
theorem ahead_after (since now turn : Nat) (limit : Option Timer) (stop : Activity.Stop σ α) :
    (after since now turn limit stop).Ahead now := by
  have hlimit : ¬ limit.any (·.time ≤ now) = true → ∀ l, limit = some l → now ≤ l.time := by
    rintro h l rfl
    simp only [Option.any_some, decide_eq_true_eq] at h
    omega
  cases stop with
  | ended o => trivial
  | idle =>
      simp only [after]
      split
      · trivial
      · next h => exact hlimit h
  | waiting d next =>
      simp only [after]
      split
      · trivial
      · next h => exact ⟨Nat.le_add_right _ _, hlimit h⟩

theorem Phase.Moves.ahead {deadline : Option Nat} {turn : Nat} {m m' : Moment σ} {p q : Phase σ α}
    (h : p.Moves deadline turn m q m') : q.Ahead m'.now := by
  cases h with
  | starts settle => exact ahead_after _ _ _ _ _
  | resumes due inTime settle => exact ahead_after _ _ _ _ _
  | expires due late => trivial
  | expiresIdle due => trivial

namespace Jobs

variable {slots : Nat} {deadline : Option Nat} {s : Jobs σ α} {d : Due} {i : Nat} {p q : Phase σ α}
  {m : Moment σ}

theorem Ahead.le_next (h : s.Ahead) (next : s.next slots = some (d, i)) :
    s.moment.now ≤ d.time := by
  obtain ⟨k, p, rfl, hp, hd⟩ := firstDue_eq_some next
  exact (h p (List.mem_of_getElem? hp)).le_due hd

/-- After an event still no timer is over. -/
theorem Ahead.event (h : s.Ahead) (next : s.next slots = some (d, i))
    (moves : p.Moves deadline s.turn { s.moment with now := d.time } q m) :
    (Jobs.mk m (s.turn + 2) (s.phases.set i q)).Ahead := by
  intro r hr
  have hnow : m.now = d.time := moves.now_eq
  rcases List.mem_or_eq_of_mem_set hr with hr | rfl
  · obtain ⟨k, hk⟩ := List.mem_iff_getElem?.1 hr
    show r.Ahead m.now
    rw [hnow]
    have hlater : ∀ e, r.due s.moment.now (s.taken < slots) (0 + k) = some e → d.time ≤ e.time :=
      fun e he => firstDue_le next hk he
    exact (h r hr).until hlater
  · exact moves.ahead

/-- Before a run no timer is set. -/
theorem ahead_queued (m : Moment σ) (turn : Nat) (jobs : List (Nat × Activity σ α)) :
    (Jobs.mk m turn (jobs.map fun j => .queued j.1 j.2)).Ahead := by
  intro p hp
  obtain ⟨j, -, rfl⟩ := List.mem_map.1 hp
  trivial

end Jobs

/-! ## Cancelled pools -/

theorem le_foldl_max (l : List Nat) (n : Nat) : n ≤ l.foldl max n := by
  induction l generalizing n with
  | nil => exact Nat.le_refl n
  | cons k l ih => exact Nat.le_trans (Nat.le_max_left n k) (ih (max n k))

theorem foldl_max_eq_self {l : List Nat} {n : Nat} (h : ∀ k ∈ l, k ≤ n) : l.foldl max n = n := by
  induction l with
  | nil => rfl
  | cons k l ih =>
      rw [List.foldl_cons, Nat.max_eq_left (h k List.mem_cons_self)]
      exact ih fun k' hk' => h k' (List.mem_cons_of_mem k hk')

/-- In a scan that is cancelled already, a pool decides all of its jobs and does nothing else. -/
theorem Jobs.run_of_cancelled {slots : Nat} {deadline : Option Nat} {signals : Signals}
    {s : Jobs σ α} (hs : s.moment.cancelled = true) :
    s.run slots deadline signals = s.cancel := by
  rw [run]
  cases hd : decisions? s.phases with
  | none => simp only [hs, if_true]
  | some ds =>
      -- jobs that are decided stay as they are
      rw [decisions?_eq_some] at hd
      have hdecisions : s.phases.map (Phase.cancel s.moment.now) = ds := by
        rw [hd, List.map_map]
        exact List.map_id ds
      have hlast : (s.phases.map (Phase.cancelTime s.moment.now)).foldl max s.moment.now =
          s.moment.now := by
        refine foldl_max_eq_self fun k hk => ?_
        obtain ⟨p, hp, rfl⟩ := List.mem_map.1 hk
        rw [hd] at hp
        obtain ⟨d, -, rfl⟩ := List.mem_map.1 hp
        exact Nat.le_refl _
      rw [cancel, hdecisions, hlast, ← hs]

/-! ## Activities on their own -/

/-- An activity on its own ends no earlier than it began. -/
theorem Activity.le_alone (a : Activity σ α) (signals : Signals) (m : Moment σ) :
    m.now ≤ (a.alone signals m).final.now := by
  induction a generalizing m with
  | finish o => exact Nat.le_refl _
  | forever =>
      rw [alone]
      split
      · exact Nat.le_refl _
      · split
        · exact Nat.le_max_left _ _
        · exact Nat.le_max_left _ _
        · exact Nat.le_refl _
  | wait d next ih =>
      cases d with
      | zero => exact ih m
      | succ d =>
          rw [alone]
          split
          · exact Nat.le_refl _
          · split
            · exact Nat.le_max_left _ _
            · exact Nat.le_max_left _ _
            · exact Nat.le_trans (Nat.le_add_right _ _) (ih { m with now := m.now + (d + 1) })
  | touch change next ih =>
      rw [alone]
      exact ih m.now m.world { m with world := change m.now m.world }
  | cancel next ih =>
      rw [alone]
      exact ih { m with cancelled := true }

end VulnScan.Execution
