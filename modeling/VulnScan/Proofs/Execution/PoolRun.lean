import Mathlib.Data.Set.List
import VulnScan.Execution.Pool
import VulnScan.Proofs.Execution.Courses

/-! # Runs of a pool, event by event

The run of a pool is a sequence of events, and an event moves one job. `Phase.Moves` lists all
that can happen to a job: it gets its slot, its timer is due, or it runs into its limit.
`Jobs.Leads` lists all that can happen to the pool, and `Jobs.run_leads` says that the run is
among it. What holds of runs is proved by induction on `Jobs.Leads`, with one case for events; for
what all events preserve that is done once (`Jobs.Leads.final_of_invariant`).
-/

set_option autoImplicit false

namespace VulnScan.Execution

variable {σ α : Type}

/-! ## Events -/

/-- `p.Moves deadline turn m q m'`: at the moment `m` an event takes a job from `p` to `q`, and
leaves the moment `m'`. -/
inductive Phase.Moves (deadline : Option Nat) (turn : Nat) (m : Moment σ) :
    Phase σ α → Phase σ α → Moment σ → Prop
  /-- It gets a slot, and its deadline begins to count. -/
  | starts {submitted : Nat} {a : Activity σ α} {stop : Activity.Stop σ α} {w : σ} {c : Bool}
      (settle : a.settle m.now m.world m.cancelled = (stop, w, c)) :
      Moves deadline turn m (.queued submitted a)
        (after m.now m.now turn (deadline.map fun d => ⟨m.now + d, turn + 1⟩) stop)
        ⟨m.now, w, c⟩
  /-- Its timer is due, no later than its limit. -/
  | resumes {since : Nat} {timer : Timer} {next : Activity σ α} {limit : Option Timer}
      {stop : Activity.Stop σ α} {w : σ} {c : Bool} (due : timer.time = m.now)
      (inTime : ∀ l, limit = some l → m.now ≤ l.time)
      (settle : next.settle m.now m.world m.cancelled = (stop, w, c)) :
      Moves deadline turn m (.waiting since timer next limit) (after since m.now turn limit stop)
        ⟨m.now, w, c⟩
  /-- Its limit is due before its timer. -/
  | expires {since : Nat} {timer limit : Timer} {next : Activity σ α} (due : limit.time = m.now)
      (late : m.now < timer.time) :
      Moves deadline turn m (.waiting since timer next (some limit))
        (.decided ⟨.timedOut, m.now - since⟩) m
  /-- Its limit is due, and it has no timer. -/
  | expiresIdle {since : Nat} {limit : Timer} (due : limit.time = m.now) :
      Moves deadline turn m (.idle since (some limit)) (.decided ⟨.timedOut, m.now - since⟩) m

theorem Phase.Moves.now_eq {deadline : Option Nat} {turn : Nat} {m m' : Moment σ} {p q : Phase σ α}
    (h : p.Moves deadline turn m q m') : m'.now = m.now := by
  cases h <;> rfl

theorem Due.before_iff {a b : Due} :
    a.before b = true ↔
      a.time < b.time ∨ (a.time = b.time ∧
        ((a.isSlot = false ∧ b.isSlot = true) ∨ (a.isSlot = b.isSlot ∧ a.turn < b.turn))) := by
  simp [before]

theorem Due.time_earlier (a b : Timer) :
    (Due.earlier (.ofTimer a) (.ofTimer b)).time = min a.time b.time := by
  rw [earlier, apply_ite Due.time]
  split
  · next h =>
      rw [before_iff] at h
      simp only [ofTimer] at h ⊢
      omega
  · next h =>
      rw [before_iff] at h
      simp only [ofTimer] at h ⊢
      omega

/-- When the next event of a job is due, it moves the job. -/
theorem Phase.moves_of_due {deadline : Option Nat} {now turn i : Nat} {hasFree : Bool}
    {m m' : Moment σ} {p q : Phase σ α} {due : Due} (hd : p.due now hasFree i = some due)
    (hm : m.now = due.time) (h : p.advance deadline turn m = some (q, m')) :
    p.Moves deadline turn m q m' := by
  cases p with
  | queued submitted a =>
      simp only [Phase.advance, Option.some.injEq, Prod.mk.injEq] at h
      obtain ⟨rfl, rfl⟩ := h
      exact .starts rfl
  | waiting since timer next limit =>
      -- the event is due at the earlier of its two timers
      have hle : due.time ≤ timer.time ∧
          ∀ l, limit = some l → due.time = min timer.time l.time := by
        cases limit with
        | none =>
            simp only [Phase.due, Option.some.injEq] at hd
            subst hd
            exact ⟨Nat.le_refl _, by simp⟩
        | some l =>
            simp only [Phase.due, Option.some.injEq] at hd
            subst hd
            rw [Due.time_earlier]
            exact ⟨Nat.min_le_left _ _, by simp⟩
      simp only [Phase.advance] at h
      split at h
      · next ht =>
          simp only [Option.some.injEq, Prod.mk.injEq] at h
          obtain ⟨rfl, rfl⟩ := h
          refine .resumes (by omega) (fun l hl => ?_) rfl
          have := hle.2 l hl
          omega
      · next ht =>
          simp only [Option.some.injEq, Prod.mk.injEq] at h
          obtain ⟨rfl, rfl⟩ := h
          cases limit with
          | none =>
              simp only [Phase.due, Option.some.injEq] at hd
              subst hd
              exact absurd (Nat.le_of_eq hm.symm) ht
          | some l =>
              have := hle.2 l rfl
              exact .expires (by omega) (by omega)
  | idle since limit =>
      simp only [Phase.advance, Option.some.injEq, Prod.mk.injEq] at h
      obtain ⟨rfl, rfl⟩ := h
      simp only [Phase.due, Option.map_eq_some_iff] at hd
      obtain ⟨l, rfl, rfl⟩ := hd
      exact .expiresIdle hm.symm
  | decided d => simp [Phase.advance] at h

/-- A job that has a next event can be moved by it. -/
theorem Phase.advance_isSome_of_due {deadline : Option Nat} {now turn i : Nat} {hasFree : Bool}
    {m : Moment σ} {p : Phase σ α} {due : Due} (hd : p.due now hasFree i = some due) :
    (p.advance deadline turn m).isSome := by
  cases p with
  | queued submitted a => rfl
  | waiting since timer next limit =>
      simp only [Phase.advance]
      split <;> rfl
  | idle since limit => rfl
  | decided d => simp [Phase.due] at hd

/-! ## The next event of the pool -/

theorem firstDue_eq_some {now j i : Nat} {hasFree : Bool} {ps : List (Phase σ α)} {due : Due}
    (h : firstDue now hasFree i ps = some (due, j)) :
    ∃ k p, j = i + k ∧ ps[k]? = some p ∧ p.due now hasFree j = some due := by
  induction ps generalizing i with
  | nil => simp [firstDue] at h
  | cons p ps ih =>
      -- the first event is that of `p`, or it is the first event of the others
      have hcases : (p.due now hasFree i = some due ∧ j = i) ∨
          firstDue now hasFree (i + 1) ps = some (due, j) := by
        simp only [firstDue] at h
        split at h
        · next d e j' hp hps =>
            split at h <;> simp only [Option.some.injEq, Prod.mk.injEq] at h <;>
              obtain ⟨rfl, rfl⟩ := h
            · exact .inr hps
            · exact .inl ⟨hp, rfl⟩
        · next d hp hps =>
            simp only [Option.some.injEq, Prod.mk.injEq] at h
            obtain ⟨rfl, rfl⟩ := h
            exact .inl ⟨hp, rfl⟩
        · exact .inr h
      rcases hcases with ⟨hp, rfl⟩ | h
      · exact ⟨0, p, rfl, rfl, hp⟩
      · obtain ⟨k, q, rfl, hq, hd⟩ := ih h
        exact ⟨k + 1, q, by omega, by simpa using hq, hd⟩

theorem firstDue_eq_none {now i : Nat} {hasFree : Bool} {ps : List (Phase σ α)}
    (h : firstDue now hasFree i ps = none) {p : Phase σ α} (hp : p ∈ ps) :
    ∃ j, p.due now hasFree j = none := by
  induction ps generalizing i with
  | nil => simp at hp
  | cons q ps ih =>
      simp only [firstDue] at h
      split at h
      · split at h <;> simp at h
      · simp at h
      · next hq =>
          have hq' : q.due now hasFree i = none := by
            cases hd : q.due now hasFree i with
            | none => rfl
            | some d => cases hf : firstDue now hasFree (i + 1) ps <;> simp_all
          rcases List.mem_cons.1 hp with rfl | hp
          · exact ⟨i, hq'⟩
          · exact ih h hp

/-! ## Runs -/

@[simp] theorem decisions?_eq_some {ps : List (Phase σ α)} {ds : List (Decision α)} :
    decisions? ps = some ds ↔ ps = ds.map Phase.decided := by
  induction ps generalizing ds with
  | nil => cases ds <;> simp [decisions?]
  | cons p ps ih =>
      cases p with
      | decided d =>
          have hcons : decisions? (.decided d :: ps) = (decisions? ps).map (d :: ·) := by
            simp only [decisions?, List.mapM_cons]
            generalize List.mapM (m := Option) _ ps = x
            cases x <;> rfl
          rw [hcons, Option.map_eq_some_iff]
          constructor
          · rintro ⟨ds', hds, rfl⟩
            rw [List.map_cons, ← ih.1 hds]
          · intro h
            cases ds with
            | nil => simp at h
            | cons d' ds =>
                simp only [List.map_cons, List.cons.injEq, Phase.decided.injEq] at h
                exact ⟨ds, ih.2 h.2, by rw [h.1]⟩
      | queued submitted a => cases ds <;> simp [decisions?, List.mapM_cons]
      | waiting since timer next limit => cases ds <;> simp [decisions?, List.mapM_cons]
      | idle since limit => cases ds <;> simp [decisions?, List.mapM_cons]

/-- A pool comes to a standstill only with a job that never goes on and has no limit. -/
theorem exists_idle_of_next_eq_none {slots : Nat} {s : Jobs σ α} (hslots : 0 < slots)
    (undecided : decisions? s.phases = none) (h : s.next slots = none) :
    ∃ since, Phase.idle since none ∈ s.phases := by
  by_contra hidle
  have hdue := fun p hp => firstDue_eq_none h (p := p) hp
  -- every other job that runs has a timer, so no job runs
  have hrunning : ∀ p ∈ s.phases, p.isRunning = false := by
    intro p hp
    obtain ⟨j, hj⟩ := hdue p hp
    cases p with
    | queued submitted a => rfl
    | waiting since timer next limit => cases limit <;> simp [Phase.due] at hj
    | idle since limit =>
        cases limit with
        | none => exact absurd ⟨since, hp⟩ hidle
        | some l => simp [Phase.due] at hj
    | decided d => rfl
  have hfree : s.taken < slots := by
    rw [Jobs.taken, List.countP_eq_zero.2 fun p hp => by simp [hrunning p hp]]
    exact hslots
  -- and then a job that waits for a slot could have one
  have hdecided : ∀ p ∈ s.phases, ∃ d, p = .decided d := by
    intro p hp
    obtain ⟨j, hj⟩ := hdue p hp
    cases p with
    | queued submitted a => simp [Phase.due, hfree] at hj
    | waiting since timer next limit => simpa [Phase.isRunning] using hrunning _ hp
    | idle since limit => simpa [Phase.isRunning] using hrunning _ hp
    | decided d => exact ⟨d, rfl⟩
  have hrange : s.phases ∈ Set.range (List.map Phase.decided) := by
    rw [Set.range_list_map]
    exact fun p hp => (hdecided p hp).imp fun d hd => hd.symm
  obtain ⟨ds, hds⟩ := hrange
  rw [decisions?_eq_some.2 hds.symm] at undecided
  cases undecided

/-- All that can happen to a pool from a state on, and where it leads. -/
inductive Jobs.Leads (slots : Nat) (deadline : Option Nat) (signals : Signals) :
    Jobs σ α → Course σ (List (Decision α)) → Prop
  | decided {s : Jobs σ α} {ds : List (Decision α)} (all : s.phases = ds.map .decided) :
      Leads slots deadline signals s (.reached ds s.moment)
  | cancelled {s : Jobs σ α} {now : Nat} (undecided : decisions? s.phases = none)
      (called : s.moment.cancelled = true ∨ signals.cancelAt.isSome) :
      Leads slots deadline signals s
        (Jobs.cancel { s with moment := { s.moment with now := now } })
  | abandoned {s : Jobs σ α} {now : Nat} (called : signals.abandonAt.isSome) :
      Leads slots deadline signals s (.abandoned { s.moment with now := now })
  | stuck {s : Jobs σ α} (undecided : decisions? s.phases = none)
      (uncancelled : s.moment.cancelled = false) (uncalled : signals.cancelAt = none)
      (none : s.next slots = none) : Leads slots deadline signals s (.stuck s.moment)
  | event {s : Jobs σ α} {due : Due} {i : Nat} {p q : Phase σ α} {m : Moment σ}
      {c : Course σ (List (Decision α))} (uncancelled : s.moment.cancelled = false)
      (next : s.next slots = some (due, i)) (quiet : signals.first (some due.time) = .none)
      (at_i : s.phases[i]? = some p)
      (moves : p.Moves deadline s.turn { s.moment with now := due.time } q m)
      (rest : Leads slots deadline signals ⟨m, s.turn + 2, s.phases.set i q⟩ c) :
      Leads slots deadline signals s c

/-- The run of a pool is one of the things that can happen to it. -/
theorem Jobs.run_leads (slots : Nat) (deadline : Option Nat) (signals : Signals) (s : Jobs σ α) :
    s.Leads slots deadline signals (s.run slots deadline signals) := by
  fun_induction Jobs.run slots deadline signals s with
  | case1 s ds h => exact .decided (decisions?_eq_some.1 h)
  | case2 s h hc => exact .cancelled h (.inl hc)
  | case3 s h hc next t ht => exact .abandoned (Signals.isSome_of_first_abandoned ht)
  | case4 s h hc next t ht => exact .cancelled h (.inr (Signals.isSome_of_first_cancelled ht))
  | case5 s h hc next hq hn =>
      -- no signal comes and nothing is left to wait for
      refine .stuck h (by simpa using hc) (Signals.cancelAt_of_first_eq_none ?_) hn
      simpa only [hn, Option.map_none] using hq
  | case6 s h hc next hq due i hn ha =>
      -- an event that is due moves its job, so this case cannot arise
      obtain ⟨k, p, rfl, hp, hd⟩ := firstDue_eq_some hn
      rw [Jobs.advance, Nat.zero_add, hp] at ha
      have hsome : (p.advance deadline s.turn { s.moment with now := due.time }).isSome :=
        Phase.advance_isSome_of_due hd
      simp_all
  | case7 s h hc next hq due i hn s' ha _ ih =>
      -- the next event comes before every signal
      obtain ⟨k, p, rfl, hp, hd⟩ := firstDue_eq_some hn
      rw [Jobs.advance, Nat.zero_add, hp] at ha
      obtain ⟨⟨q, m⟩, hadv, rfl⟩ := Option.map_eq_some_iff.1 ha
      rw [Nat.zero_add] at hd hn
      refine .event (by simpa using hc) hn ?_ hp (Phase.moves_of_due hd rfl hadv) ih
      simpa only [hn, Option.map_some] using hq

/-- What every event preserves still holds where a run ends, in whatever way it does. -/
theorem Jobs.Leads.final_of_invariant {slots : Nat} {deadline : Option Nat} {signals : Signals}
    {s : Jobs σ α} {c : Course σ (List (Decision α))} {I : Jobs σ α → Prop}
    (h : s.Leads slots deadline signals c) (start : I s)
    (step : ∀ {s : Jobs σ α} {i now : Nat} {p q : Phase σ α} {m : Moment σ}, I s →
      s.phases[i]? = some p → p.Moves deadline s.turn { s.moment with now := now } q m →
      I ⟨m, s.turn + 2, s.phases.set i q⟩) :
    ∃ s', I s' ∧ c.final.world = s'.moment.world := by
  induction h with
  | decided all => exact ⟨_, start, rfl⟩
  | cancelled undecided called => exact ⟨_, start, rfl⟩
  | abandoned called => exact ⟨_, start, rfl⟩
  | stuck undecided uncancelled uncalled none => exact ⟨_, start, rfl⟩
  | event uncancelled next quiet at_i moves rest ih => exact ih (step start at_i moves)

/-- Where a run is not over and no signal comes first, it goes on with its next event. -/
theorem Jobs.run_eq_of_advance {slots i : Nat} {deadline : Option Nat} {signals : Signals}
    {s s' : Jobs σ α} {d : Due} (undecided : decisions? s.phases = none)
    (uncancelled : s.moment.cancelled = false) (next : s.next slots = some (d, i))
    (quiet : signals.first (some d.time) = none)
    (advances : s.advance deadline d.time i = some s') :
    s.run slots deadline signals = s'.run slots deadline signals := by
  rw [Jobs.run]
  simp only [undecided, uncancelled, next, Option.map_some, quiet, Bool.false_eq_true, if_false]
  split
  · next h =>
      rw [advances] at h
      cases h
  · next h =>
      rw [advances] at h
      cases h
      rfl

end VulnScan.Execution
