import VulnScan.Proofs.Execution.Dismissal

/-! # How long a deadline lets executions take

Jobs get their slots in the order of their numbers, and under a deadline no job keeps its slot for
longer than that. So the jobs go by in rounds of as many as there are slots: a job has its slot when
all earlier rounds have had their time (`latestStart`), and it is decided one deadline later
(`latestEnd`), whatever the jobs do.

What carries the induction is `Jobs.Paced`. While a job waits for a slot and none is free, there are
as many jobs with slots as there are slots, and all of them came before it; so one of them is a
round ahead (`Jobs.Paced.exists_round_ahead`), and its deadline comes before the job is overdue.
-/

set_option autoImplicit false

namespace VulnScan.Execution

variable {σ α : Type}

/-! ## The first event -/

theorem Due.not_before_self (a : Due) : ¬ a.before a = true := by
  rw [before_iff]
  simp

theorem Due.not_before_of_before {a b : Due} (h : a.before b = true) : ¬ b.before a = true := by
  obtain ⟨atime, aslot, aturn⟩ := a
  obtain ⟨btime, bslot, bturn⟩ := b
  simp only [before_iff] at h ⊢
  cases aslot <;> cases bslot <;> simp at h ⊢ <;> omega

theorem Due.not_before_trans {a b c : Due} (hab : ¬ b.before a = true)
    (hbc : ¬ c.before b = true) : ¬ c.before a = true := by
  obtain ⟨atime, aslot, aturn⟩ := a
  obtain ⟨btime, bslot, bturn⟩ := b
  obtain ⟨ctime, cslot, cturn⟩ := c
  simp only [before_iff] at hab hbc ⊢
  cases aslot <;> cases bslot <;> cases cslot <;> simp at hab hbc ⊢ <;> omega

/-- The first event is that of the first job, unless one of the others comes before it. -/
theorem firstDue_cons {now i j : Nat} {hasFree : Bool} {q : Phase σ α} {ps : List (Phase σ α)}
    {due : Due} (h : firstDue now hasFree i (q :: ps) = some (due, j)) :
    (q.due now hasFree i = some due ∧
        ∀ e j', firstDue now hasFree (i + 1) ps = some (e, j') → ¬ e.before due = true) ∨
      (firstDue now hasFree (i + 1) ps = some (due, j) ∧
        ∀ d, q.due now hasFree i = some d → due.before d = true) := by
  rw [firstDue] at h
  split at h
  · next d e j' hq hps =>
      split at h <;> cases h
      · next hbefore =>
          refine .inr ⟨hps, fun d' hd' => ?_⟩
          cases hq.symm.trans hd'
          exact hbefore
      · next hbefore =>
          refine .inl ⟨hq, fun e' j'' he' => ?_⟩
          cases hps.symm.trans he'
          exact hbefore
  · next d hq hps =>
      cases h
      refine .inl ⟨hq, fun e j' he => ?_⟩
      cases hps.symm.trans he
  · next hq =>
      refine .inr ⟨h, fun d hd => ?_⟩
      cases hq.symm.trans hd

/-- No event comes before the first one. -/
theorem firstDue_first {now i j : Nat} {hasFree : Bool} {ps : List (Phase σ α)} {due : Due}
    (h : firstDue now hasFree i ps = some (due, j)) {k : Nat} {p : Phase σ α} {d : Due}
    (hp : ps[k]? = some p) (hd : p.due now hasFree (i + k) = some d) : ¬ d.before due = true := by
  induction ps generalizing i j k due with
  | nil => simp at hp
  | cons q ps ih =>
      cases k with
      | zero =>
          obtain rfl : q = p := Option.some.inj hp
          rcases firstDue_cons h with ⟨hq, -⟩ | ⟨-, hq⟩
          · obtain rfl : due = d := Option.some.inj (hq.symm.trans hd)
            exact Due.not_before_self due
          · exact Due.not_before_of_before (hq d hd)
      | succ k =>
          rw [List.getElem?_cons_succ] at hp
          rw [Nat.add_succ, ← Nat.succ_add] at hd
          rcases firstDue_cons h with ⟨-, hps⟩ | ⟨hps, -⟩
          · cases hfirst : firstDue now hasFree (i + 1) ps with
            | none =>
                obtain ⟨j', hj'⟩ := firstDue_eq_none hfirst (List.mem_of_getElem? hp)
                rw [Phase.due_eq_none hj'] at hd
                cases hd
            | some x => exact Due.not_before_trans (hps x.1 x.2 hfirst) (ih hfirst hp hd)
          · exact ih hps hp hd

/-! ## Rounds -/

/-- The latest time at which the job with number `i` gets its slot: all earlier rounds have had
their time. -/
def latestStart (slots limit start i : Nat) : Nat := start + i / slots * limit

/-- The latest time at which the job with number `i` is decided. -/
def latestEnd (slots limit start i : Nat) : Nat := start + (i / slots + 1) * limit

section

variable {slots limit start i j : Nat}

theorem latestStart_add_limit :
    latestStart slots limit start i + limit = latestEnd slots limit start i := by
  rw [latestStart, latestEnd, Nat.succ_mul, Nat.add_assoc]

theorem start_le_latestStart : start ≤ latestStart slots limit start i := Nat.le_add_right _ _

/-- The jobs of a round end before the jobs of the next one are overdue. -/
theorem latestEnd_le_latestStart (hslots : 0 < slots) (h : j + slots ≤ i) :
    latestEnd slots limit start j ≤ latestStart slots limit start i := by
  have hround : j / slots + 1 ≤ i / slots := by
    rw [← Nat.add_div_right j hslots]
    exact Nat.div_le_div_right h
  exact Nat.add_le_add_left (Nat.mul_le_mul_right limit hround) start

/-- As many entries of a list have a property as there are places for them. -/
theorem countP_le_sub {β : Type} {f : β → Bool} {l : List β} {a b : Nat}
    (h : ∀ (k : Nat) (x : β), l[k]? = some x → f x = true → a ≤ k ∧ k < b) :
    l.countP f ≤ b - a := by
  induction l generalizing a b with
  | nil => exact Nat.zero_le _
  | cons x l ih =>
      have hrest : l.countP f ≤ (b - 1) - (a - 1) := by
        refine ih fun k y hy hf => ?_
        have hk := h (k + 1) y (by simpa using hy) hf
        omega
      rw [List.countP_cons]
      split
      · next hx =>
          have h0 := h 0 x rfl hx
          omega
      · omega

end

/-! ## Paced pools -/

/-- Whether a job waits for a slot. -/
def Phase.isQueued : Phase σ α → Bool
  | .queued _ _ => true
  | .waiting _ _ _ _ | .idle _ _ | .decided _ => false

theorem Phase.eq_queued_of_isQueued {p : Phase σ α} (h : p.isQueued = true) :
    ∃ submitted a, p = .queued submitted a := by
  cases p with
  | queued submitted a => exact ⟨submitted, a, rfl⟩
  | waiting since timer next limit => cases h
  | idle since limit => cases h
  | decided d => cases h

theorem Phase.isRunning_of_isQueued {p : Phase σ α} (h : p.isQueued = true) :
    p.isRunning = false := by
  obtain ⟨submitted, a, rfl⟩ := Phase.eq_queued_of_isQueued h
  rfl

/-- The job is not overdue: it waits for a slot that it can get until `latest`, or it got one by
then and ends after the limit at the latest. -/
def Phase.Paced (now limit latest : Nat) : Phase σ α → Prop
  | .queued submitted _ => submitted ≤ now ∧ now ≤ latest
  | .waiting since _ _ l | .idle since l =>
    since ≤ latest ∧ ∃ t, l = some t ∧ t.time = since + limit
  | .decided _ => True

namespace Phase.Paced

variable {now now' limit latest i : Nat} {hasFree : Bool} {p : Phase σ α}

/-- The next event of a job with a slot comes when its limit is over at the latest. -/
theorem due_le (h : p.Paced now limit latest) (running : p.isRunning = true) :
    ∃ d, p.due now hasFree i = some d ∧ d.time ≤ latest + limit := by
  cases p with
  | queued submitted job => cases running
  | waiting since timer next l =>
      obtain ⟨hsince, t, rfl, ht⟩ := h
      refine ⟨_, rfl, ?_⟩
      rw [Due.time_earlier]
      omega
  | idle since l =>
      obtain ⟨hsince, t, rfl, ht⟩ := h
      exact ⟨_, rfl, show t.time ≤ latest + limit by omega⟩
  | decided d => cases running

/-- A job that waits can get a free slot now. -/
theorem due_of_isQueued (h : p.Paced now limit latest) (queued : p.isQueued = true) :
    p.due now true i = some ⟨now, true, i⟩ := by
  obtain ⟨submitted, a, rfl⟩ := Phase.eq_queued_of_isQueued queued
  have hsubmitted : submitted ≤ now := h.1
  rw [Phase.due, if_pos rfl, Nat.max_eq_left hsubmitted]

/-- A job stays in time while others move, until it is overdue. -/
theorem later (h : p.Paced now limit latest) (onward : now ≤ now')
    (hq : p.isQueued = true → now' ≤ latest) : p.Paced now' limit latest := by
  cases p with
  | queued submitted job => exact ⟨Nat.le_trans h.1 onward, hq rfl⟩
  | waiting since timer next l => exact h
  | idle since l => exact h
  | decided d => exact h

end Phase.Paced

/-- Where an activity stops, its job is in time if it got its slot in time. -/
theorem paced_after {now since turn limit latest now' : Nat} {l : Timer}
    (hsince : since ≤ latest) (hl : l.time = since + limit) (stop : Activity.Stop σ α) :
    (after since now turn (some l) stop).Paced now' limit latest := by
  cases stop with
  | ended o => trivial
  | idle =>
      simp only [after]
      split
      · trivial
      · exact ⟨hsince, l, rfl, hl⟩
  | waiting d next =>
      simp only [after]
      split
      · trivial
      · exact ⟨hsince, l, rfl, hl⟩

/-- A job that moves in time is in time afterwards. -/
theorem Phase.Paced.moves {limit latest now turn : Nat} {m m' : Moment σ} {p q : Phase σ α}
    (h : p.Paced now limit latest) (hm : p.isQueued = true → m.now ≤ latest)
    (moves : p.Moves (some limit) turn m q m') : q.Paced m'.now limit latest := by
  cases moves with
  | starts settle => exact paced_after (hm rfl) rfl _
  | resumes due inTime settle =>
      obtain ⟨hsince, t, rfl, ht⟩ := h
      exact paced_after hsince ht _
  | expires due late => trivial
  | expiresIdle due => trivial

/-- What moves a job is what the pool does to it. -/
theorem Phase.Moves.advance_eq {deadline : Option Nat} {turn : Nat} {m m' : Moment σ}
    {p q : Phase σ α} (h : p.Moves deadline turn m q m') :
    p.advance deadline turn m = some (q, m') := by
  cases h with
  | starts settle => simp only [advance, settle]
  | resumes due inTime settle => simp only [advance, if_pos (Nat.le_of_eq due), settle]
  | expires due late => simp only [advance, if_neg (Nat.not_le.2 late)]
  | expiresIdle due => rfl

/-- A job that has moved does not wait for a slot any more. -/
theorem Phase.Moves.not_isQueued {deadline : Option Nat} {turn : Nat} {m m' : Moment σ}
    {p q : Phase σ α} (h : p.Moves deadline turn m q m') : ¬ q.isQueued = true := by
  intro queued
  rcases Phase.running_or_decided_of_advance h.advance_eq with running | ⟨d, rfl⟩
  · rw [Phase.isRunning_of_isQueued queued] at running
    cases running
  · cases queued

namespace Jobs

variable {slots limit start i : Nat} {s : Jobs σ α} {p q : Phase σ α} {d : Due} {m : Moment σ}

/-- No job is overdue, and those that wait for a slot come after all others. -/
structure Paced (slots limit start : Nat) (s : Jobs σ α) : Prop where
  ahead : s.Ahead
  inOrder : ∀ {i j : Nat} {p q : Phase σ α}, i < j → s.phases[i]? = some p → p.isQueued = true →
    s.phases[j]? = some q → q.isQueued = true
  inTime : ∀ {i : Nat} {p : Phase σ α}, s.phases[i]? = some p →
    p.Paced s.moment.now limit (latestStart slots limit start i)

/-- While a job waits and no slot is free, a job that is a round ahead of it has a slot. -/
theorem Paced.exists_round_ahead (paced : s.Paced slots limit start) (hslots : 0 < slots)
    (full : slots ≤ s.taken) (hp : s.phases[i]? = some p) (queued : p.isQueued = true) :
    ∃ j q, s.phases[j]? = some q ∧ q.isRunning = true ∧ j + slots ≤ i := by
  by_contra hnone
  -- otherwise there are not enough places for those that have the slots
  have hplaces : ∀ (j : Nat) (q : Phase σ α), s.phases[j]? = some q → q.isRunning = true →
      i + 1 - slots ≤ j ∧ j < i := by
    intro j q hq running
    have hround : ¬ j + slots ≤ i := fun h => hnone ⟨j, q, hq, running, h⟩
    have hbefore : j < i := by
      by_contra hge
      have hqueued : q.isQueued = true := by
        rcases Nat.eq_or_lt_of_le (Nat.le_of_not_lt hge) with rfl | hlt
        · obtain rfl : p = q := Option.some.inj (hp.symm.trans hq)
          exact queued
        · exact paced.inOrder hlt hp queued hq
      rw [Phase.isRunning_of_isQueued hqueued] at running
      cases running
    omega
  have hcount : s.taken ≤ i - (i + 1 - slots) := countP_le_sub hplaces
  omega

/-- The next event comes before any job that waits for a slot is overdue. -/
theorem Paced.next_le (paced : s.Paced slots limit start) (hslots : 0 < slots)
    {k : Nat} (next : s.next slots = some (d, k)) (hp : s.phases[i]? = some p)
    (queued : p.isQueued = true) : d.time ≤ latestStart slots limit start i := by
  have hpaced := paced.inTime hp
  by_cases free : s.taken < slots
  · -- it could get a slot now
    have hdue : p.due s.moment.now (s.taken < slots) (0 + i) =
        some ⟨s.moment.now, true, 0 + i⟩ := by
      rw [decide_eq_true free]
      exact hpaced.due_of_isQueued queued
    have hle : d.time ≤ s.moment.now := firstDue_le next hp hdue
    obtain ⟨submitted, a, rfl⟩ := Phase.eq_queued_of_isQueued queued
    exact Nat.le_trans hle hpaced.2
  · obtain ⟨j, q, hq, running, hround⟩ :=
      paced.exists_round_ahead hslots (Nat.le_of_not_lt free) hp queued
    obtain ⟨e, he, hle⟩ := (paced.inTime hq).due_le running
    calc d.time ≤ e.time := firstDue_le next hq he
      _ ≤ latestStart slots limit start j + limit := hle
      _ = latestEnd slots limit start j := latestStart_add_limit
      _ ≤ latestStart slots limit start i := latestEnd_le_latestStart hslots hround

/-- A job moves before it is overdue. -/
theorem Paced.moves_in_time (paced : s.Paced slots limit start) (hslots : 0 < slots)
    {k : Nat} (next : s.next slots = some (d, k)) (hp : s.phases[k]? = some p) :
    d.time ≤ latestEnd slots limit start k := by
  rw [← latestStart_add_limit]
  have hdue : p.due s.moment.now (s.taken < slots) k = some d := by
    obtain ⟨k', p', rfl, hp', hdue⟩ := firstDue_eq_some next
    rw [Nat.zero_add] at hp hdue ⊢
    obtain rfl : p' = p := Option.some.inj (hp'.symm.trans hp)
    exact hdue
  cases hrunning : p.isRunning with
  | true =>
      obtain ⟨e, he, hle⟩ := (paced.inTime hp).due_le hrunning
      obtain rfl : e = d := Option.some.inj (he.symm.trans hdue)
      exact hle
  | false =>
      cases p with
      | queued submitted job => exact Nat.le_add_right_of_le (paced.next_le hslots next hp rfl)
      | waiting since timer next l => cases hrunning
      | idle since l => cases hrunning
      | decided d => cases hdue

/-- Of the jobs that wait for a slot the first gets one. -/
theorem Paced.starts_in_order (paced : s.Paced slots limit start) {k : Nat}
    (next : s.next slots = some (d, k)) (hq : s.phases[k]? = some q) (hqueued : q.isQueued = true)
    (hp : s.phases[i]? = some p) (queued : p.isQueued = true) : k ≤ i := by
  obtain ⟨k', q', rfl, hq', hdue⟩ := firstDue_eq_some next
  rw [Nat.zero_add] at hq hdue next ⊢
  obtain rfl : q' = q := Option.some.inj (hq'.symm.trans hq)
  have hfree : decide (s.taken < slots) = true := by
    obtain ⟨submitted, a, rfl⟩ := Phase.eq_queued_of_isQueued hqueued
    by_contra hfree
    rw [Phase.due, if_neg hfree] at hdue
    cases hdue
  rw [hfree, (paced.inTime hq).due_of_isQueued hqueued] at hdue
  cases hdue
  have hp' : p.due s.moment.now (s.taken < slots) (0 + i) =
      some ⟨s.moment.now, true, 0 + i⟩ := by
    rw [hfree]
    exact (paced.inTime hp).due_of_isQueued queued
  have hfirst := firstDue_first next hp hp'
  rw [Due.before_iff] at hfirst
  simp at hfirst
  omega

/-- An event keeps the pace. -/
theorem Paced.event (paced : s.Paced slots limit start) (hslots : 0 < slots) {k : Nat}
    (next : s.next slots = some (d, k)) (hp : s.phases[k]? = some p)
    (moves : p.Moves (some limit) s.turn { s.moment with now := d.time } q m) :
    (Jobs.mk m (s.turn + 2) (s.phases.set k q)).Paced slots limit start := by
  have hnow : m.now = d.time := moves.now_eq
  refine ⟨paced.ahead.event next moves, fun {i j r r'} hij hr hqueued hr' => ?_,
    fun {i r} hr => ?_⟩
  · rcases getElem?_set_cases hr with ⟨rfl, rfl⟩ | ⟨-, hold⟩
    · exact absurd hqueued moves.not_isQueued
    · rcases getElem?_set_cases hr' with ⟨rfl, rfl⟩ | ⟨-, hold'⟩
      · -- the job that has moved came after one that waits, so it would have waited too
        have hpqueued : p.isQueued = true := paced.inOrder hij hold hqueued hp
        have hle := paced.starts_in_order next hp hpqueued hold hqueued
        omega
      · exact paced.inOrder hij hold hqueued hold'
  · rcases getElem?_set_cases hr with ⟨rfl, rfl⟩ | ⟨-, hold⟩
    · exact (paced.inTime hp).moves (fun queued => paced.next_le hslots next hp queued) moves
    · show r.Paced m.now limit _
      rw [hnow]
      exact (paced.inTime hold).later (paced.ahead.le_next next)
        fun queued => paced.next_le hslots next hold queued

/-- Jobs that are submitted together keep the pace before the first event. -/
theorem paced_submitted (slots limit : Nat) (m : Moment σ) (tasks : List (Task σ α)) :
    (submitted m (tasks.map fun t => (m.now, t))).Paced slots limit m.now := by
  have hphase : ∀ {i : Nat} {p : Phase σ α},
      (submitted m (tasks.map fun t => (m.now, t))).phases[i]? = some p →
        ∃ a, p = .queued m.now a := by
    intro i p hp
    rw [submitted, List.map_map, List.getElem?_map, Option.map_eq_some_iff] at hp
    obtain ⟨t, -, rfl⟩ := hp
    exact ⟨t.activity, rfl⟩
  refine ⟨ahead_submitted m _, fun _ _ _ hq => ?_, fun hp => ?_⟩
  · obtain ⟨a, rfl⟩ := hphase hq
    rfl
  · obtain ⟨a, rfl⟩ := hphase hp
    exact ⟨Nat.le_refl _, start_le_latestStart⟩


/-! ## Runs under a deadline -/

theorem decisions?_eq_none {ps : List (Phase σ α)} (hp : ps[i]? = some p)
    (undecided : p.isDecided = false) : decisions? ps = none := by
  cases hds : decisions? ps with
  | none => rfl
  | some ds =>
      rw [decisions?_eq_some] at hds
      rw [hds, List.getElem?_map, Option.map_eq_some_iff] at hp
      obtain ⟨d, -, rfl⟩ := hp
      cases undecided

/-- **A paced pool decides every job in time**, if it is neither cancelled nor abandoned. -/
theorem Paced.decides {signals : Signals} {c : Course σ (List (Decision α))}
    (paced : s.Paced slots limit start) (leads : s.Leads slots (some limit) signals c)
    (hslots : 0 < slots) (quiet : signals.abandonAt = none)
    (uncancelled : c.final.cancelled = false) (hp : s.phases[i]? = some p)
    (undecided : p.isDecided = false) :
    ∃ s' d, s.Goes slots (some limit) s' ∧ s'.Leads slots (some limit) signals c ∧
      s'.phases[i]? = some (.decided d) ∧ s'.moment.now ≤ latestEnd slots limit start i := by
  induction leads generalizing p with
  | decided all =>
      rw [all, List.getElem?_map, Option.map_eq_some_iff] at hp
      obtain ⟨d, -, rfl⟩ := hp
      cases undecided
  | cancelled _ called => cases uncancelled
  | abandoned called =>
      rw [quiet] at called
      cases called
  | stuck unfinished _ _ none =>
      -- every job that never goes on has a limit
      obtain ⟨since, hidle⟩ := exists_idle_of_next_eq_none hslots unfinished none
      obtain ⟨j, hj⟩ := List.mem_iff_getElem?.1 hidle
      obtain ⟨-, t, ht, -⟩ := paced.inTime hj
      cases ht
  | @event s d k r q m c before next _ at_k moves rest ih =>
      have hpaced := paced.event hslots next at_k moves
      have advances : s.advance (some limit) d.time k =
          some ⟨m, s.turn + 2, s.phases.set k q⟩ := by
        rw [Jobs.advance, at_k]
        simp only [moves.advance_eq, Option.map_some]
      have hgoes : ∀ {s'}, (Jobs.mk m (s.turn + 2) (s.phases.set k q)).Goes slots (some limit) s' →
          s.Goes slots (some limit) s' :=
        fun goes => .event (decisions?_eq_none hp undecided) before next advances goes
      have hlater : ∀ {p'}, (s.phases.set k q)[i]? = some p' → p'.isDecided = false →
          ∃ s' d, s.Goes slots (some limit) s' ∧ s'.Leads slots (some limit) signals c ∧
            s'.phases[i]? = some (.decided d) ∧
            s'.moment.now ≤ latestEnd slots limit start i := by
        intro p' hp' hundecided
        obtain ⟨s', d', goes, hrest, hd, hle⟩ := ih hpaced uncancelled hp' hundecided
        exact ⟨s', d', hgoes goes, hrest, hd, hle⟩
      by_cases hk : k = i
      · subst hk
        have hq : (s.phases.set k q)[k]? = some q := by
          rw [List.getElem?_set_self (List.getElem?_eq_some_iff.1 at_k).1]
        cases hdecided : q.isDecided with
        | false => exact hlater hq hdecided
        | true =>
            -- the event decides the job, and no event comes too late for that
            obtain ⟨d', rfl⟩ := Phase.eq_decided_of_isDecided hdecided
            refine ⟨_, d', hgoes .here, rest, hq, ?_⟩
            show m.now ≤ _
            rw [moves.now_eq]
            exact paced.moves_in_time hslots next at_k
      · exact hlater ((List.getElem?_set_ne hk).trans hp) undecided

end Jobs

namespace Pool

variable {pool : Pool} {tasks : List (Task σ α)} {signals : Signals} {m : Moment σ}

/-- Under a deadline an execution comes to its end, whatever the tasks do. -/
theorem execute_reached {limit : Time.Span} (hlimit : pool.deadline = some limit)
    (quiet : signals.abandonAt = none) :
    ∃ records m', pool.execute tasks signals m = .reached records m' := by
  have hlimited : ¬ (pool.deadline = none ∧ ∃ t ∈ tasks, t.activity.MayHang) := by
    rintro ⟨hnone, -⟩
    rw [hlimit] at hnone
    cases hnone
  have hbreak : ∀ b : Break σ, ¬ signals.Excuse
      (pool.deadline = none ∧ ∃ t ∈ tasks, t.activity.MayHang) (fun _ => False) b := by
    intro b hb
    obtain ⟨message, m', -, hfalse⟩ := hb.exists_collapsed quiet hlimited
    exact hfalse
  obtain ⟨records, m', hrun, -⟩ := (pool.execute_meets tasks signals m).exists_reached hbreak
  exact ⟨records, m', hrun⟩

/-- Under a deadline every task of an execution that is not cancelled is decided by the end of its
round, and recorded as it was decided. -/
theorem execute_in_rounds {limit : Time.Span} (hlimit : pool.deadline = some limit)
    (quiet : signals.abandonAt = none)
    (uncancelled : (pool.execute tasks signals m).final.cancelled = false) :
    ∃ records m', pool.execute tasks signals m = .reached records m' ∧
      ∀ (i : Nat) (t : Task σ α), tasks[i]? = some t → ∃ s d,
        (Jobs.submitted m (tasks.map fun t => (m.now, t))).Goes pool.slots
          (pool.deadline.map Time.Span.ticks) s ∧
        s.phases[i]? = some (.decided d) ∧
        s.moment.now ≤ latestEnd pool.slots limit.ticks m.now i ∧
        records[i]? = some (t.record pool.deadline d) := by
  obtain ⟨records, m', hexecute⟩ : ∃ records m', pool.execute tasks signals m =
      .reached records m' := execute_reached hlimit quiet
  obtain ⟨ds, hrun, hrecords⟩ : ∃ ds, (Jobs.submitted m (tasks.map fun t => (m.now, t))).run
        pool.slots (pool.deadline.map Time.Span.ticks) signals = .reached ds m' ∧
      ((tasks.map fun t => (m.now, t)).zip ds).map (fun p => p.1.2.record pool.deadline p.2) =
        records := executeAt_eq_reached.1 hexecute
  rw [hexecute] at uncancelled
  have leads := Jobs.run_leads pool.slots (some limit.ticks) signals
    (Jobs.submitted m (tasks.map fun t => (m.now, t)))
  have hdeadline : pool.deadline.map Time.Span.ticks = some limit.ticks := by rw [hlimit]; rfl
  rw [hdeadline] at hrun ⊢
  rw [hrun] at leads
  refine ⟨records, m', hexecute, fun i t ht => ?_⟩
  have hentry : (tasks.map fun t => (m.now, t))[i]? = some (m.now, t) := by
    rw [List.getElem?_map, ht]
    rfl
  have hqueued : (Jobs.submitted m (tasks.map fun t => (m.now, t))).phases[i]? =
      some (.queued m.now t.activity) := by
    rw [Jobs.submitted, List.getElem?_map, hentry]
    rfl
  obtain ⟨s, d, goes, hrest, hd, hle⟩ :=
    (Jobs.paced_submitted pool.slots limit.ticks m tasks).decides leads pool.slots_pos quiet
      uncancelled hqueued rfl
  refine ⟨s, d, goes, hd, hle, ?_⟩
  rw [← hrecords]
  exact getElem?_records pool hentry (hrest.stays_decided hd rfl)

/-- Under a deadline an execution is not cancelled if nobody calls for it. -/
theorem execute_uncancelled {limit : Time.Span} (hlimit : pool.deadline = some limit)
    (quiet : signals.abandonAt = none) (hm : m.cancelled = false)
    (uncalled : signals.cancelAt = none) (calls : ∀ t ∈ tasks, ¬ t.activity.MayCancel) :
    (pool.execute tasks signals m).final.cancelled = false := by
  obtain ⟨records, m', hexecute⟩ : ∃ records m', pool.execute tasks signals m =
      .reached records m' := execute_reached hlimit quiet
  have hcalled := ((pool.execute_meets tasks signals m).of_reached hexecute).2.1
  rw [hexecute]
  show m'.cancelled = false
  refine Bool.eq_false_iff.2 fun hm' => ?_
  rcases hcalled hm' with h | h | ⟨t, ht, h⟩
  · rw [hm] at h
    cases h
  · rw [uncalled] at h
    cases h
  · exact calls t ht h

end Pool

end VulnScan.Execution
