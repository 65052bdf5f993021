import VulnScan.Proofs.Execution.Alone
import VulnScan.Proofs.Execution.Clock
import VulnScan.Proofs.Execution.Records

/-! # Who calls for a cancellation

A run leaves the scan cancelled only if it was so before, if it is cancelled from outside, or if
one of the activities calls for it; that it ends, in whatever way, is no reason. And the run of a
pool in a scan that is cancelled already does nothing at all (`Pool.execute_of_cancelled`): no
activity is begun, and no time passes.
-/

set_option autoImplicit false

namespace VulnScan.Execution

variable {σ α β : Type}

/-! ## Sessions that cancel nothing -/

/-- Wherever the session ends, it has not made the scan cancelled. -/
def Session.Calm (s : Session σ α) (signals : Signals) (m : Moment σ) : Prop :=
  (s signals m).final.cancelled = true → m.cancelled = true

namespace Session.Calm

variable {signals : Signals} {m : Moment σ}

theorem pure (a : α) : (Pure.pure a : Session σ α).Calm signals m := id

theorem collapse (message : String) : (Session.collapse message : Session σ α).Calm signals m := id

/-- A composition cancels nothing if its parts cancel nothing. -/
theorem bind {s : Session σ α} {f : α → Session σ β} (h : s.Calm signals m)
    (hf : ∀ a m₁, s signals m = .reached a m₁ → (f a).Calm signals m₁) :
    (s >>= f).Calm signals m := by
  refine final_bind (P := fun m' => m'.cancelled = true → m.cancelled = true) h ?_
  intro a m₁ hs hfinal
  have hm₁ : m₁.cancelled = true := hf a m₁ hs hfinal
  have hs' := h
  rw [Calm, hs] at hs'
  exact hs' hm₁

theorem moment : (Session.moment : Session σ (Moment σ)).Calm signals m := id

end Session.Calm

/-! ## Pools -/

/-- A pool leaves the scan cancelled only if it was so before, if it is cancelled from outside, or
if one of the activities of its jobs may call for it. -/
theorem Jobs.Leads.called {slots : Nat} {deadline : Option Nat} {signals : Signals} {s : Jobs σ α}
    {c : Course σ (List (Decision α))} {as : List (Activity σ α)}
    (h : s.Leads slots deadline signals c)
    (traces : List.Forall₂ (fun a p => Phase.Traces deadline a p) as s.phases)
    (cancelled : c.final.cancelled = true) :
    s.moment.cancelled = true ∨ signals.cancelAt.isSome ∨ ∃ a ∈ as, a.MayCancel := by
  induction h with
  | decided all => exact .inl cancelled
  | cancelled undecided called => exact called.imp_right .inl
  | abandoned called => exact .inl cancelled
  | stuck undecided uncancelled uncalled none => exact .inl cancelled
  | event uncancelled next quiet at_i moves rest ih =>
      obtain ⟨a, ha, hai, hp⟩ := exists_of_forall₂_getElem? traces at_i
      obtain ⟨hq, hcalled⟩ := hp.moves moves
      have htraces := forall₂_set traces fun a' ha' => by
        obtain rfl : a = a' := Option.some.inj (hai.symm.trans ha')
        exact hq
      rcases ih htraces cancelled with hm | hs | hc
      · exact (hcalled hm).imp_right fun hcancel => .inr ⟨a, ha, hcancel⟩
      · exact .inr (.inl hs)
      · exact .inr (.inr hc)

namespace Pool

variable {signals : Signals} {m : Moment σ} {tasks : List (Task σ α)}

/-- Tasks that never call for a cancellation do not make the scan cancelled. -/
theorem execute_calm (pool : Pool) (quiet : signals.cancelAt = none)
    (calm : ∀ t ∈ tasks, ¬ t.activity.MayCancel) : (pool.execute tasks).Calm signals m := by
  intro hfinal
  rw [execute_final] at hfinal
  rcases (run_leads pool signals _ m).called
    (forall₂_traces_queued (pool.deadline.map Time.Span.ticks) m.now tasks) hfinal with hm | hs | hc
  · exact hm
  · rw [quiet] at hs
    cases hs
  · obtain ⟨a, ha, hcancel⟩ := hc
    obtain ⟨t, ht, rfl⟩ := List.mem_map.1 ha
    exact absurd hcancel (calm t ht)

/-- In a scan that is cancelled already all tasks are decided at once, and nothing else happens. -/
theorem execute_of_cancelled (pool : Pool) (tasks : List (Task σ α)) (signals : Signals)
    (hm : m.cancelled = true) :
    pool.execute tasks signals m =
      .reached (tasks.map fun t => t.record pool.deadline ⟨.cancelled, 0⟩) m := by
  have hrun : pool.run signals (tasks.map fun t => (m.now, t.activity)) m =
      .reached (tasks.map fun _ => ⟨.cancelled, 0⟩) m := by
    have hlast : (((tasks.map fun t => (m.now, t.activity)).map fun j =>
        (Phase.queued j.1 j.2 : Phase σ α)).map (Phase.cancelTime m.now)).foldl max m.now =
          m.now := by
      refine foldl_max_eq_self fun k hk => ?_
      simp only [List.map_map, List.mem_map, Function.comp_apply, Phase.cancelTime] at hk
      obtain ⟨t, -, rfl⟩ := hk
      exact Nat.le_of_eq (Nat.max_self _)
    rw [run, Jobs.run_of_cancelled hm, Jobs.cancel, hlast, ← hm]
    simp only [List.map_map]
    rfl
  have hrecords : ∀ ts : List (Task σ α),
      (ts.zip (ts.map fun _ => (⟨.cancelled, 0⟩ : Decision α))).map
        (fun p => p.1.record pool.deadline p.2) =
      ts.map fun t => t.record pool.deadline ⟨.cancelled, 0⟩ := by
    intro ts
    induction ts with
    | nil => rfl
    | cons t ts ih => rw [List.map_cons, List.zip_cons_cons, List.map_cons, ih, List.map_cons]
  rw [execute_eq_of_run hrun, hrecords]

end Pool

/-! ## Activities on their own -/

/-- What is composed of activities that never call for a cancellation never does so either. -/
theorem Activity.calm_composes : Composes fun α (a : Activity σ α) => ¬ a.MayCancel where
  finish _ := by simp [MayCancel]
  wait _ _ h := by simpa [MayCancel] using h
  andThen h hf := fun hc => (mayCancel_andThen hc).elim h fun ⟨v, hv⟩ => hf v hv
  tried h := fun hc => h (mayCancel_tried hc)

/-- An activity on its own that never calls for a cancellation does not make the scan cancelled. -/
theorem Activity.alone_calm {a : Activity σ α} {signals : Signals} (quiet : signals.cancelAt = none)
    (calm : ¬ a.MayCancel) (m : Moment σ) : a.alone.Calm signals m := by
  induction a generalizing m with
  | finish o => exact id
  | forever =>
      unfold Session.Calm
      rw [alone]
      split
      · exact id
      · split
        · exact id
        · next t ht =>
            have := Signals.isSome_of_first_cancelled ht
            rw [quiet] at this
            cases this
        · exact id
  | wait d next ih =>
      have hnext : ¬ next.MayCancel := fun h => calm (h.of_next (.wait d next))
      cases d with
      | zero => exact ih hnext m
      | succ d =>
          unfold Session.Calm
          rw [alone]
          split
          · exact id
          · split
            · exact id
            · next t ht =>
                have := Signals.isSome_of_first_cancelled ht
                rw [quiet] at this
                cases this
            · exact ih hnext { m with now := m.now + (d + 1) }
  | touch change next ih =>
      have hnext : ¬ (next m.now m.world).MayCancel := fun h =>
        calm (h.of_next (.touch change next m.now m.world))
      exact ih m.now m.world hnext { m with world := change m.now m.world }
  | cancel next ih => exact absurd ⟨next, .refl _⟩ calm

end VulnScan.Execution
