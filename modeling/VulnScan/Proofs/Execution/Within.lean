import VulnScan.Proofs.Execution.Records

/-! # What holds all the time

What an activity does to its view has to be known even where the run is abandoned in the middle of
it. `a.Within view P b` says that the view satisfies `P` at every moment of `a`, provided that the
view is `b` now and that nobody else changes it. In a pool the view may belong to one of the jobs
(`Jobs.Guarded`), and then it satisfies `P` wherever the run of the pool ends
(`Pool.execute_within`).
-/

set_option autoImplicit false

namespace VulnScan.Execution

variable {σ α β γ : Type} {view : σ → γ} {P : γ → Prop}

namespace Activity

/-- The view satisfies `P` at every moment of the activity; it is `b` now, and only the activity
itself changes it. -/
def Within (view : σ → γ) (P : γ → Prop) : Activity σ α → γ → Prop
  | .finish _, b | .forever, b => P b
  | .wait _ next, b | .cancel next, b => next.Within view P b
  | .touch change next, b =>
    P b ∧ ∀ now w, view w = b → (next now w).Within view P (view (change now w))

namespace Within

variable {a : Activity σ α} {b : γ}

theorem now (h : a.Within view P b) : P b := by
  induction a with
  | finish o => exact h
  | forever => exact h
  | wait d next ih => exact ih h
  | touch change next _ => exact h.1
  | cancel next ih => exact ih h

/-- An activity that keeps its view does nothing to what the view satisfies. -/
theorem of_keeps (h : a.Keeps view) (hb : P b) : a.Within view P b := by
  induction a with
  | finish o => exact hb
  | forever => exact hb
  | wait d next ih => exact ih h
  | touch change next ih =>
      refine ⟨hb, fun now w hw => ?_⟩
      rw [(h now w).1, hw]
      exact ih now w (h now w).2
  | cancel next ih => exact ih h

/-- Before an activity with a guarded view another one may run that keeps the view. -/
theorem after_keeps {f : α → Activity σ β} (h : a.Keeps view)
    (hf : ∀ v, (f v).Within view P b) (hb : P b) : (a.andThen f).Within view P b := by
  induction a with
  | finish o =>
      cases o with
      | value v => exact hf v
      | fault e => exact hb
      | collapse message => exact hb
  | forever => exact hb
  | wait d next ih => exact ih h
  | touch change next ih =>
      refine ⟨hb, fun now w hw => ?_⟩
      rw [(h now w).1, hw]
      exact ih now w (h now w).2
  | cancel next ih => exact ih h

/-- After an activity with a guarded view others may run that keep the view. -/
theorem andThen_keeps {f : α → Activity σ β} (h : a.Within view P b)
    (hf : ∀ v, (f v).Keeps view) : (a.andThen f).Within view P b := by
  induction a generalizing b with
  | finish o =>
      cases o with
      | value v => exact of_keeps (hf v) h
      | fault e => exact h
      | collapse message => exact h
  | forever => exact h
  | wait d next ih => exact ih h
  | touch change next ih => exact ⟨h.1, fun now w hw => ih now w (h.2 now w hw)⟩
  | cancel next ih => exact ih h

/-- Up to its next wait an activity guards its view, and it goes on to do so afterwards. -/
theorem settle {now : Nat} {w w' : σ} {c c' : Bool} {stop : Stop σ α}
    (h : a.Within view P (view w)) (hs : a.settle now w c = (stop, w', c')) :
    P (view w') ∧ ∀ d next, stop = .waiting d next → next.Within view P (view w') := by
  induction a generalizing w c with
  | finish o =>
      cases hs
      exact ⟨h, by simp⟩
  | forever =>
      cases hs
      exact ⟨h, by simp⟩
  | wait d next ih =>
      cases d with
      | zero => exact ih h hs
      | succ d =>
          cases hs
          have hnext : next.Within view P (view _) := h
          refine ⟨hnext.now, fun d' next' hn => ?_⟩
          cases hn
          exact hnext
  | touch change next ih => exact ih now _ (h.2 now _ rfl) hs
  | cancel next ih => exact ih h hs

end Within

end Activity

/-! ## In a pool -/

/-- The view satisfies `P` from now on while the job is at work; it is `b` now. -/
def Phase.Within (view : σ → γ) (P : γ → Prop) (b : γ) : Phase σ α → Prop
  | .queued _ a | .waiting _ _ a _ => a.Within view P b
  | .idle _ _ | .decided _ => P b

theorem within_after {since now turn : Nat} {limit : Option Timer} {stop : Activity.Stop σ α}
    {b : γ} (hb : P b) (h : ∀ d next, stop = .waiting d next → next.Within view P b) :
    (after since now turn limit stop).Within view P b := by
  cases stop with
  | ended o => exact hb
  | idle =>
      simp only [after]
      split <;> exact hb
  | waiting d next =>
      simp only [after]
      split
      · exact hb
      · exact h d next rfl

/-- An event of a job that guards its view leaves it guarded. -/
theorem Phase.Within.moves {deadline : Option Nat} {turn : Nat} {m m' : Moment σ} {p q : Phase σ α}
    (h : p.Within view P (view m.world)) (hm : p.Moves deadline turn m q m') :
    P (view m'.world) ∧ q.Within view P (view m'.world) := by
  cases hm with
  | starts hs =>
      obtain ⟨hb, hnext⟩ := Activity.Within.settle h hs
      exact ⟨hb, within_after hb hnext⟩
  | resumes _ _ hs =>
      obtain ⟨hb, hnext⟩ := Activity.Within.settle h hs
      exact ⟨hb, within_after hb hnext⟩
  | @expires _ _ _ next _ _ =>
      have hnext : next.Within view P (view m.world) := h
      exact ⟨hnext.now, hnext.now⟩
  | expiresIdle _ => exact ⟨h, h⟩

/-- The view satisfies `P` and belongs to the job with number `j`, which guards it; all other jobs
keep it. -/
structure Jobs.Guarded (view : σ → γ) (P : γ → Prop) (j : Nat) (s : Jobs σ α) : Prop where
  now : P (view s.moment.world)
  within : ∀ p, s.phases[j]? = some p → p.Within view P (view s.moment.world)
  keeps : ∀ i p, i ≠ j → s.phases[i]? = some p → p.Keeps view

theorem Jobs.Guarded.moves {s : Jobs σ α} {deadline : Option Nat} {i j turn now : Nat}
    {p q : Phase σ α} {m : Moment σ} (h : s.Guarded view P j) (at_i : s.phases[i]? = some p)
    (hm : p.Moves deadline s.turn { s.moment with now := now } q m) :
    (Jobs.mk m turn (s.phases.set i q)).Guarded view P j := by
  by_cases hij : i = j
  · -- the job itself moves, and takes its view on
    subst hij
    have hp : p.Within view P (view ({ s.moment with now := now } : Moment σ).world) :=
      h.within p at_i
    obtain ⟨hb, hq⟩ := hp.moves hm
    refine ⟨hb, fun p' hp' => ?_, fun k p' hk hp' => ?_⟩
    · rcases getElem?_set_cases hp' with ⟨-, rfl⟩ | ⟨hne, -⟩
      · exact hq
      · exact absurd rfl hne
    · rcases getElem?_set_cases hp' with ⟨hki, -⟩ | ⟨-, hp'⟩
      · exact absurd hki hk
      · exact h.keeps k p' hk hp'
  · -- another job moves, and leaves the view as it is
    obtain ⟨hq, hw⟩ := (h.keeps i p hij at_i).moves hm
    have hview : view m.world = view s.moment.world := hw
    refine ⟨?_, fun p' hp' => ?_, fun k p' hk hp' => ?_⟩
    · show P (view m.world)
      rw [hview]
      exact h.now
    · show p'.Within view P (view m.world)
      rw [hview]
      rcases getElem?_set_cases hp' with ⟨hji, -⟩ | ⟨-, hp'⟩
      · exact absurd hji.symm hij
      · exact h.within p' hp'
    · rcases getElem?_set_cases hp' with ⟨-, rfl⟩ | ⟨-, hp'⟩
      · exact hq
      · exact h.keeps k p' hk hp'

/-- Where the run of a pool ends, a view that one of the jobs guards satisfies `P`. -/
theorem Jobs.Leads.within {slots j : Nat} {deadline : Option Nat} {signals : Signals}
    {s : Jobs σ α} {c : Course σ (List (Decision α))} (h : s.Leads slots deadline signals c)
    (hs : s.Guarded view P j) : P (view c.final.world) := by
  obtain ⟨s', hs', hworld⟩ := h.final_of_invariant hs fun hs₁ at_i moves => hs₁.moves at_i moves
  rw [hworld]
  exact hs'.now

/-- What a task guards holds wherever the execution ends, if all other tasks keep its view. -/
theorem Pool.execute_within {pool : Pool} {signals : Signals} {m : Moment σ}
    {before after : List (Task σ α)} {t : Task σ α}
    (ht : t.activity.Within view P (view m.world))
    (hbefore : ∀ t' ∈ before, t'.activity.Keeps view)
    (hafter : ∀ t' ∈ after, t'.activity.Keeps view) :
    P (view (pool.execute (before ++ t :: after) signals m).final.world) := by
  rw [execute_final]
  have hguarded : (Jobs.mk m 0 (((before ++ t :: after).map fun t' => (m.now, t'.activity)).map
      fun j => Phase.queued j.1 j.2)).Guarded view P before.length := by
    refine ⟨ht.now, fun p hp => ?_, fun i p hi hp => keeps_queued hbefore hafter hi hp⟩
    simp at hp
    subst hp
    exact ht
  exact (run_leads pool signals _ m).within hguarded

end VulnScan.Execution
