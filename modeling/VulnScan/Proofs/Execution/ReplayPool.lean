import VulnScan.Proofs.Execution.Alike
import VulnScan.Proofs.Execution.PoolRun
import VulnScan.Proofs.Execution.Replay

/-! # Replays of what a pool runs

Two pools whose jobs are in step (`Replay.Jobs`) have the same next event, and stay in step when it
happens (`Replay.Jobs.advance`). So the whole run of a pool can be replayed (`Replay.Jobs.run`),
with the same decisions and the same elapsed times, and an execution leaves records that tell the
same every time (`Replay.execute`).
-/

set_option autoImplicit false

namespace VulnScan.Execution.Replay

variable {σ ρ α β : Type} {r : Replay σ ρ}

/-! ## Jobs in step -/

/-- Timers that were set in the same turn, for times in step. -/
structure Timers (r : Replay σ ρ) (t t' : Timer) : Prop where
  time : r.Times t.time t'.time
  turn : t.turn = t'.turn

/-- Events of the same kind and turn, due at times in step. -/
structure Dues (r : Replay σ ρ) (d d' : Due) : Prop where
  time : r.Times d.time d'.time
  isSlot : d.isSlot = d'.isSlot
  turn : d.turn = d'.turn

/-- Both jobs are at the same point of the same activity. -/
inductive Phases (r : Replay σ ρ) : Phase σ α → Phase σ α → Prop
  | queued {t t' : Nat} {a : Activity σ α} (submitted : r.Times t t')
      (repeats : a.Repeats r.log r.calls) : Phases r (.queued t a) (.queued t' a)
  | waiting {t t' : Nat} {timer timer' : Timer} {next : Activity σ α} {limit limit' : Option Timer}
      (since : r.Times t t') (timers : r.Timers timer timer')
      (limits : Option.Rel r.Timers limit limit') (repeats : next.Repeats r.log r.calls) :
      Phases r (.waiting t timer next limit) (.waiting t' timer' next limit')
  | idle {t t' : Nat} {limit limit' : Option Timer} (since : r.Times t t')
      (limits : Option.Rel r.Timers limit limit') : Phases r (.idle t limit) (.idle t' limit')
  | decided (d : Decision α) : Phases r (.decided d) (.decided d)

/-- Both pools are at the same point of their runs. -/
structure Jobs (r : Replay σ ρ) (s s' : Execution.Jobs σ α) : Prop where
  moment : r.Moments s.moment s'.moment
  turn : s.turn = s'.turn
  phases : List.Forall₂ r.Phases s.phases s'.phases

/-! ## The next event -/

theorem before_eq {d d' e e' : Due} (hd : r.Dues d d') (he : r.Dues e e') :
    d.before e = d'.before e' := by
  rw [Bool.eq_iff_iff, Due.before_iff, Due.before_iff, hd.time.lt_iff he.time,
    hd.time.eq_iff he.time, hd.isSlot, he.isSlot, hd.turn, he.turn]

theorem earlier {d d' e e' : Due} (hd : r.Dues d d') (he : r.Dues e e') :
    r.Dues (d.earlier e) (d'.earlier e') := by
  unfold Due.earlier
  rw [before_eq he hd]
  split
  · exact he
  · exact hd

theorem ofTimer {t t' : Timer} (h : r.Timers t t') : r.Dues (.ofTimer t) (.ofTimer t') :=
  ⟨h.time, rfl, h.turn⟩

theorem Phases.due {now now' : Nat} {p p' : Phase σ α} (h : r.Phases p p')
    (hnow : r.Times now now') (hasFree : Bool) (i : Nat) :
    Option.Rel r.Dues (p.due now hasFree i) (p'.due now' hasFree i) := by
  cases h with
  | queued submitted repeats =>
      simp only [Phase.due]
      split
      · exact .some ⟨hnow.max submitted, rfl, rfl⟩
      · exact .none
  | waiting since timers limits repeats =>
      cases limits with
      | none => exact .some (ofTimer timers)
      | some hl => exact .some (earlier (ofTimer timers) (ofTimer hl))
  | idle since limits =>
      cases limits with
      | none => exact .none
      | some hl => exact .some (ofTimer hl)
  | decided d => exact .none

/-- The same job has the first event. -/
theorem firstDue {now now' : Nat} {ps ps' : List (Phase σ α)} (h : List.Forall₂ r.Phases ps ps')
    (hnow : r.Times now now') (hasFree : Bool) (i : Nat) :
    Option.Rel (fun x x' => r.Dues x.1 x'.1 ∧ x.2 = x'.2) (Execution.firstDue now hasFree i ps)
      (Execution.firstDue now' hasFree i ps') := by
  induction h generalizing i with
  | nil => exact .none
  | @cons p p' ps ps' hp _ ih =>
      have hdue := hp.due hnow hasFree i
      have hlater := ih (i + 1)
      unfold Execution.firstDue
      generalize p.due now hasFree i = d at hdue ⊢
      generalize p'.due now' hasFree i = d' at hdue ⊢
      generalize Execution.firstDue now hasFree (i + 1) ps = e at hlater ⊢
      generalize Execution.firstDue now' hasFree (i + 1) ps' = e' at hlater ⊢
      cases hdue with
      | none => exact hlater
      | some hd =>
          cases hlater with
          | none => exact .some ⟨hd, rfl⟩
          | some he =>
              dsimp only
              rw [before_eq he.1 hd]
              split
              · exact .some he
              · exact .some ⟨hd, rfl⟩

theorem countP_isRunning_eq {ps ps' : List (Phase σ α)} (h : List.Forall₂ r.Phases ps ps') :
    ps.countP Phase.isRunning = ps'.countP Phase.isRunning := by
  induction h with
  | nil => rfl
  | cons hp _ ih =>
      rw [List.countP_cons, List.countP_cons, ih]
      cases hp <;> rfl

theorem Jobs.next {s s' : Execution.Jobs σ α} (h : r.Jobs s s') (slots : Nat) :
    Option.Rel (fun x x' => r.Dues x.1 x'.1 ∧ x.2 = x'.2) (s.next slots) (s'.next slots) := by
  unfold Execution.Jobs.next Execution.Jobs.taken
  rw [countP_isRunning_eq h.phases]
  exact firstDue h.phases h.moment.now _ 0

theorem times_of_next {x x' : Option (Due × Nat)}
    (h : Option.Rel (fun x x' => r.Dues x.1 x'.1 ∧ x.2 = x'.2) x x') :
    Option.Rel r.Times (x.map (·.1.time)) (x'.map (·.1.time)) := by
  cases h with
  | none => exact .none
  | some hx => exact .some hx.1.time

/-! ## Events -/

theorem any_le_eq {now now' : Nat} {l l' : Option Timer} (hl : Option.Rel r.Timers l l')
    (hnow : r.Times now now') : l.any (·.time ≤ now) = l'.any (·.time ≤ now') := by
  cases hl with
  | none => rfl
  | some hl => simp only [Option.any_some, hl.time.le_iff hnow]

theorem after {since since' now now' turn : Nat} {l l' : Option Timer}
    {stop : Activity.Stop σ α} (hsince : r.Times since since') (hnow : r.Times now now')
    (hl : Option.Rel r.Timers l l')
    (hnext : ∀ d next, stop = .waiting d next → next.Repeats r.log r.calls) :
    r.Phases (Execution.after since now turn l stop)
      (Execution.after since' now' turn l' stop) := by
  cases stop with
  | ended o =>
      simp only [Execution.after, hnow.sub_eq hsince]
      exact .decided _
  | idle =>
      simp only [Execution.after, any_le_eq hl hnow, hnow.sub_eq hsince]
      split
      · exact .decided _
      · exact .idle hsince hl
  | waiting d next =>
      simp only [Execution.after, any_le_eq hl hnow, hnow.sub_eq hsince]
      split
      · exact .decided _
      · exact .waiting hsince ⟨hnow.add d, rfl⟩ hl (hnext d next rfl)

/-- An event does the same to a job in both runs. -/
theorem Phases.advance {m m' : Moment σ} {p p' : Phase σ α} (h : r.Phases p p')
    (hm : r.Moments m m') (deadline : Option Nat) (turn : Nat) :
    Option.Rel (fun x x' => r.Phases x.1 x'.1 ∧ r.Moments x.2 x'.2) (p.advance deadline turn m)
      (p'.advance deadline turn m') := by
  cases h with
  | queued submitted repeats =>
      obtain ⟨stop, w, w', c, hs, hs', hmoments, hnext⟩ := settle repeats hm
      simp only [Phase.advance, hs, hs']
      refine .some ⟨after hm.now hm.now ?_ hnext, hmoments⟩
      cases deadline with
      | none => exact .none
      | some d => exact .some ⟨hm.now.add d, rfl⟩
  | waiting since timers limits repeats =>
      simp only [Phase.advance, timers.time.le_iff hm.now]
      split
      · obtain ⟨stop, w, w', c, hs, hs', hmoments, hnext⟩ := settle repeats hm
        simp only [hs, hs']
        exact .some ⟨after since hm.now limits hnext, hmoments⟩
      · rw [hm.now.sub_eq since]
        exact .some ⟨.decided _, hm⟩
  | idle since limits =>
      simp only [Phase.advance, hm.now.sub_eq since]
      exact .some ⟨.decided _, hm⟩
  | decided d => exact .none

theorem rel_getElem? {R : α → β → Prop} {as : List α} {bs : List β} (h : List.Forall₂ R as bs)
    (i : Nat) : Option.Rel R as[i]? bs[i]? := by
  induction h generalizing i with
  | nil => exact .none
  | cons hab _ ih =>
      cases i with
      | zero => exact .some hab
      | succ i => simpa using ih i

theorem rel_set {R : α → β → Prop} {as : List α} {bs : List β} {a : α} {b : β}
    (h : List.Forall₂ R as bs) (hab : R a b) (i : Nat) :
    List.Forall₂ R (as.set i a) (bs.set i b) := by
  induction h generalizing i with
  | nil => exact .nil
  | cons hhead hrest ih =>
      cases i with
      | zero => exact .cons hab hrest
      | succ i => exact .cons hhead (ih i)

/-- An event leaves the pools in step. -/
theorem Jobs.advance {s s' : Execution.Jobs σ α} {t t' : Nat} (h : r.Jobs s s')
    (ht : r.Times t t') (deadline : Option Nat) (i : Nat) :
    Option.Rel r.Jobs (s.advance deadline t i) (s'.advance deadline t' i) := by
  unfold Execution.Jobs.advance
  have hp := rel_getElem? h.phases i
  generalize s.phases[i]? = p at hp ⊢
  generalize s'.phases[i]? = p' at hp ⊢
  cases hp with
  | none => exact .none
  | @some p p' hp =>
      have hadvance := hp.advance (h.moment.goOn ht) deadline s.turn
      dsimp only
      rw [← h.turn]
      generalize p.advance deadline s.turn { s.moment with now := t } = q at hadvance ⊢
      generalize p'.advance deadline s.turn { s'.moment with now := t' } = q' at hadvance ⊢
      cases hadvance with
      | none => exact .none
      | some hq => exact .some ⟨hq.2, rfl, rel_set h.phases hq.1 i⟩

/-! ## Runs -/

theorem decisions?_eq {ps ps' : List (Phase σ α)} (h : List.Forall₂ r.Phases ps ps') :
    decisions? ps = decisions? ps' := by
  induction h with
  | nil => rfl
  | cons hp _ ih =>
      unfold decisions? at ih ⊢
      rw [List.mapM_cons, List.mapM_cons, ih]
      cases hp <;> rfl

theorem Phases.cancel_eq {t t' : Nat} {p p' : Phase σ α} (h : r.Phases p p')
    (ht : r.Times t t') : p.cancel t = p'.cancel t' := by
  cases h with
  | queued submitted repeats => rfl
  | waiting since timers limits repeats => simp only [Phase.cancel, ht.sub_eq since]
  | idle since limits => simp only [Phase.cancel, ht.sub_eq since]
  | decided d => rfl

theorem Phases.cancelTime {t t' : Nat} {p p' : Phase σ α} (h : r.Phases p p')
    (ht : r.Times t t') : r.Times (p.cancelTime t) (p'.cancelTime t') := by
  cases h with
  | queued submitted repeats => exact ht.max submitted
  | waiting since timers limits repeats => exact ht
  | idle since limits => exact ht
  | decided d => exact ht

/-- A cancellation decides the same about all jobs. -/
theorem Jobs.cancel {s s' : Execution.Jobs σ α} {t t' : Nat} (h : r.Jobs s s')
    (ht : r.Times t t') (calls : r.calls) :
    r.Courses Eq (Execution.Jobs.cancel { s with moment := { s.moment with now := t } })
      (Execution.Jobs.cancel { s' with moment := { s'.moment with now := t' } }) := by
  have hdecisions : s.phases.map (Phase.cancel t) = s'.phases.map (Phase.cancel t') := by
    have hmapped := List.rel_map (P := Eq) (fun _ _ hp => hp.cancel_eq ht) h.phases
    rwa [List.forall₂_eq_eq_eq] at hmapped
  have hlast : r.Times ((s.phases.map (Phase.cancelTime t)).foldl max t)
      ((s'.phases.map (Phase.cancelTime t')).foldl max t') :=
    List.rel_foldl (fun _ _ hu _ _ hv => hu.max hv) ht
      (List.rel_map (fun _ _ hp => hp.cancelTime ht) h.phases)
  exact .reached hdecisions ((h.moment.goOn hlast).cancel calls)

/-- The run of a pool ends in the same way when it is replayed, with the same decisions. -/
theorem Jobs.run {s s' : Execution.Jobs σ α} {g g' : Execution.Signals} (h : r.Jobs s s')
    (hg : r.Signals g g') (slots : Nat) (deadline : Option Nat) :
    r.Courses Eq (s.run slots deadline g) (s'.run slots deadline g') := by
  -- by induction on the progress of the jobs, as the run itself is defined
  generalize hps : s.phases = ps
  induction ps using (Progress.wellFounded nearer_wellFounded).induction generalizing s s' with
  | _ ps ih =>
  subst hps
  rw [Execution.Jobs.run, Execution.Jobs.run, ← decisions?_eq h.phases, ← h.moment.cancelled]
  split
  · exact .reached rfl h.moment
  split
  · next hc => exact h.cancel h.moment.now (h.moment.called hc)
  have hnext := h.next slots
  have hfirst := hg.first (times_of_next hnext)
  dsimp only
  generalize hf : g.first ((s.next slots).map (·.1.time)) = f at hfirst ⊢
  generalize g'.first ((s'.next slots).map (·.1.time)) = f' at hfirst ⊢
  cases hfirst with
  | some hi =>
      cases hi with
      | abandoned time => exact .abandoned (h.moment.goOn (h.moment.now.max time))
      | cancelled time =>
          exact h.cancel (h.moment.now.max time) (hg.called (Signals.isSome_of_first_cancelled hf))
  | none =>
      generalize s.next slots = x at hnext ⊢
      generalize s'.next slots = x' at hnext ⊢
      cases hnext with
      | none => exact .stuck h.moment
      | @some x x' hx =>
          obtain ⟨d, i⟩ := x
          obtain ⟨d', i'⟩ := x'
          obtain ⟨hd, rfl⟩ : r.Dues d d' ∧ i = i' := hx
          have hadvance := h.advance hd.time deadline i
          dsimp only
          split
          · next hs =>
              split
              · exact .stuck h.moment
              · next s₁' hs' =>
                  rw [hs, hs'] at hadvance
                  cases hadvance
          · next s₁ hs =>
              split
              · next hs' =>
                  rw [hs, hs'] at hadvance
                  cases hadvance
              · next s₁' hs' =>
                  rw [hs, hs'] at hadvance
                  cases hadvance with
                  | some hs₁ => exact ih _ (progress_advance hs) hs₁ rfl

/-! ## Executions -/

/-- Tasks whose activities repeat themselves leave records that tell the same when they are
replayed, whatever the runtime reports of them then. -/
theorem execute {tasks : List (Task σ α)} (h : ∀ t ∈ tasks, t.activity.Repeats r.log r.calls)
    (pool : Pool) (crash : Task σ α → String → String) :
    r.Sessions (List.Forall₂ Record.Alike) (pool.execute tasks)
      (pool.execute (tasks.map fun t => { t with crash := crash t })) := by
  refine Sessions.moment.bind fun m m' hm => ?_
  unfold Pool.executeAt
  simp only [List.map_map, Function.comp_def]
  refine Sessions.bind (R := Eq) ?_ ?_
  · intro g g' m₁ m₁' hg hm₁
    have hphases : List.Forall₂ r.Phases
        ((tasks.map fun t => (m.now, t.activity)).map fun j => .queued j.1 j.2)
        ((tasks.map fun t => (m'.now, t.activity)).map fun j => .queued j.1 j.2) := by
      simp only [List.map_map, List.forall₂_map_left_iff, List.forall₂_map_right_iff,
        List.forall₂_same, Function.comp_apply]
      exact fun t ht => .queued hm.now (h t ht)
    have hjobs : r.Jobs ⟨m₁, 0, _⟩ ⟨m₁', 0, _⟩ := ⟨hm₁, rfl, hphases⟩
    exact hjobs.run hg _ _
  · rintro ds _ rfl
    refine .pure ?_
    simp only [List.zip_map_left, List.map_map, Function.comp_def, Prod.map,
      List.forall₂_map_left_iff, List.forall₂_map_right_iff, List.forall₂_same]
    exact fun x _ => (x.1.record_retoldAs _ _ _).alike

end VulnScan.Execution.Replay
