import VulnScan.Proofs.Execution.Polls

/-! # The run of a pool as a path of steps

The run of a pool takes one of the many paths that its batch can take: all tasks are submitted
first, then the jobs are polled in the order in which they are due, and if a cancellation comes all
that are left are dismissed at once. This path is a trail of polls (`Pool.execute_trail`), so
whatever holds of all trails holds of the run.
-/

set_option autoImplicit false

namespace VulnScan.Execution

variable {σ α : Type}

/-- A job that an event moves was ready for it. -/
theorem Phase.Moves.ready {deadline : Option Nat} {turn now i : Nat} {m m' : Moment σ} {d : Due}
    {free : Prop} {hasFree : Bool} {p q : Phase σ α} (h : p.Moves deadline turn m q m')
    (hd : p.due now hasFree i = some d) (hfree : hasFree = true → free) : p.Ready m.now free := by
  cases h with
  | starts settle =>
      simp only [Phase.due] at hd
      split at hd
      · next hslot => exact hfree hslot
      · cases hd
  | resumes due inTime settle => exact .inl (Nat.le_of_eq due)
  | expires due late => exact .inr ⟨_, rfl, Nat.le_of_eq due⟩
  | expiresIdle due => exact ⟨_, rfl, Nat.le_of_eq due⟩

namespace Batch

/-- Any number of steps of a batch on a pool. Between them the clock shows any time, and the scan
may be cancelled from outside. -/
inductive Path (slots : Nat) (deadline : Option Nat) :
    Moment σ → Batch σ α → History σ α → Moment σ → Batch σ α → Prop
  | done {m : Moment σ} {b : Batch σ α} : Path slots deadline m b [] m b
  | passes {m m' : Moment σ} {b b' : Batch σ α} {h : History σ α} (now : Nat)
      (rest : Path slots deadline { m with now := now } b h m' b') :
      Path slots deadline m b h m' b'
  | called {m m' : Moment σ} {b b' : Batch σ α} {h : History σ α}
      (rest : Path slots deadline { m with cancelled := true } b h m' b') :
      Path slots deadline m b h m' b'
  | step {m m₁ m' : Moment σ} {b b₁ b' : Batch σ α} {e h : History σ α}
      (step : b.Step deadline (b.taken < slots) m e m₁ b₁)
      (rest : Path slots deadline m₁ b₁ h m' b') : Path slots deadline m b (e ++ h) m' b'

theorem Trail.path {slots : Nat} {deadline : Option Nat} {m m' : Moment σ} {b b' : Batch σ α}
    {h : History σ α} (t : Trail slots deadline m b h m' b') :
    Path slots deadline m b h m' b' := by
  induction t with
  | done => exact .done
  | passes now onward rest ih => exact .passes now ih
  | called rest ih => exact .called ih
  | step tick rest ih => exact .step tick.step ih

end Batch

/-- The run of a pool none of whose timers is over is a trail of its batch. -/
theorem Jobs.run_trail (slots : Nat) (deadline : Option Nat) (signals : Signals) (s : Jobs σ α)
    (tasks : List (Task σ α)) (ahead : s.Ahead) (hlength : s.phases.length = tasks.length) :
    (s.run slots deadline signals).Meets
      (fun ds m' => ∃ h turn, ds.length = tasks.length ∧
        Batch.Trail slots deadline s.moment ⟨tasks, s.phases, s.turn⟩ h m'
          ⟨tasks, ds.map .decided, turn⟩)
      (fun br => ∃ h b', Batch.Trail slots deadline s.moment ⟨tasks, s.phases, s.turn⟩ h
        br.moment b') := by
  fun_induction Jobs.run slots deadline signals s with
  | case1 s ds all =>
      rw [decisions?_eq_some] at all
      refine ⟨[], s.turn, ?_, ?_⟩
      · rw [← hlength, all, List.length_map]
      · rw [all]
        exact .done
  | case2 s undecided cancelled =>
      obtain ⟨h, trail⟩ := Batch.Trail.cancel slots deadline (Nat.le_refl s.moment.now) tasks s.turn
        s.phases
      exact ⟨h, s.turn, by rw [List.length_map, hlength], trail⟩
  | case3 s undecided cancelled next t first =>
      exact ⟨[], _, .passes _ (Nat.le_max_left _ _) .done⟩
  | case4 s undecided cancelled next t first =>
      obtain ⟨h, trail⟩ := Batch.Trail.cancel slots deadline (Nat.le_max_left s.moment.now t) tasks
        s.turn s.phases
      exact ⟨h, s.turn, by rw [List.length_map, hlength], trail⟩
  | case5 s undecided cancelled next quiet none => exact ⟨[], _, .done⟩
  | case6 s undecided cancelled next quiet due i some advances => exact ⟨[], _, .done⟩
  | case7 s undecided uncancelled next quiet due i hnext s' advances _ ih =>
      obtain ⟨k, p, rfl, hp, hd⟩ := firstDue_eq_some hnext
      rw [Jobs.advance, Nat.zero_add, hp] at advances
      obtain ⟨⟨q, m⟩, hadvance, rfl⟩ := Option.map_eq_some_iff.1 advances
      rw [Nat.zero_add] at hd hnext
      have hmoves := Phase.moves_of_due hd rfl hadvance
      have huncancelled : ({ s.moment with now := due.time } : Moment σ).cancelled = false :=
        Bool.eq_false_iff.2 uncancelled
      -- the time of the event comes, and its job is polled
      have hready : p.Ready due.time (Batch.taken ⟨tasks, s.phases, s.turn⟩ < slots) :=
        hmoves.ready hd of_decide_eq_true
      have hpolled : p.poll deadline s.turn (Batch.taken ⟨tasks, s.phases, s.turn⟩ < slots)
          { s.moment with now := due.time } = some (q, m) :=
        (Phase.poll_of_uncancelled huncancelled hready).trans hadvance
      have htick : Batch.Tick deadline (Batch.taken ⟨tasks, s.phases, s.turn⟩ < slots)
          { s.moment with now := due.time } ⟨tasks, s.phases, s.turn⟩ _ m _ := .polls hp hpolled
      rw [if_neg uncancelled] at htick
      have trail : ∀ {h m' b'}, Batch.Trail slots deadline m ⟨tasks, s.phases.set k q, s.turn + 2⟩
          h m' b' → ∃ h', Batch.Trail slots deadline s.moment ⟨tasks, s.phases, s.turn⟩ h' m' b' :=
        fun rest => ⟨_, .passes due.time (ahead.le_next hnext) (.step htick rest)⟩
      refine (ih (ahead.event hnext hmoves) (by rw [List.length_set, hlength])).imp ?_ ?_
      · rintro ds m' - ⟨h, turn, hds, rest⟩
        obtain ⟨h', trail⟩ := trail rest
        exact ⟨h', turn, hds, trail⟩
      · rintro br ⟨h, b', rest⟩
        obtain ⟨h', trail⟩ := trail rest
        exact ⟨h', b', trail⟩

/-- **The run of a pool is a trail of its batch.** Where it leads to records, they are those that
the batch leaves in the end. -/
theorem Pool.execute_trail (pool : Pool) (tasks : List (Task σ α)) (signals : Signals)
    (m : Moment σ) :
    (pool.execute tasks signals m).Meets
      (fun records m' => ∃ h b',
        Batch.Trail pool.slots (pool.deadline.map Time.Span.ticks) m { tasks } h m' b' ∧
          b'.Joins pool.deadline records)
      (fun br => ∃ h b',
        Batch.Trail pool.slots (pool.deadline.map Time.Span.ticks) m { tasks } h br.moment b') := by
  refine execute_meets_of_run ?_
  obtain ⟨h₀, hsubmit⟩ := Batch.Trail.submit_all pool.slots (pool.deadline.map Time.Span.ticks) m
    tasks 0 tasks [] rfl
  have hjobs : ([] : List (Phase σ α)) ++ tasks.map (fun t => .queued m.now t.activity) =
      (tasks.map fun t => (m.now, t.activity)).map fun j => .queued j.1 j.2 := by
    rw [List.nil_append, List.map_map]
    rfl
  rw [hjobs] at hsubmit
  have hlength : ((tasks.map fun t => (m.now, t.activity)).map fun j =>
      (Phase.queued j.1 j.2 : Phase σ α)).length = tasks.length := by simp
  refine (Jobs.run_trail pool.slots (pool.deadline.map Time.Span.ticks) signals _ tasks
    (Jobs.ahead_queued m 0 _) hlength).imp ?_ ?_
  · rintro ds m' - ⟨h, turn, hds, trail⟩
    exact ⟨_, _, hsubmit.trans trail, ds, ⟨rfl, hds⟩, rfl⟩
  · rintro br ⟨h, b', trail⟩
    exact ⟨_, b', hsubmit.trans trail⟩

end VulnScan.Execution
