import VulnScan.Execution.Alone
import VulnScan.Proofs.Execution.Courses
import VulnScan.Proofs.Execution.View

/-! # What an activity on its own leads to

An activity that runs outside of a pool ends, or is given up because the scan was cancelled. It
has no deadline, so it can come to a standstill if it never ends and nobody cancels the scan.
-/

set_option autoImplicit false

namespace VulnScan.Execution.Activity

variable {σ α γ : Type}

/-- What can come of an activity on its own, from the moment `m` on. -/
structure LeadsAlone (signals : Signals) (m : Moment σ) (a : Activity σ α)
    (o : Option (Outcome α)) (m' : Moment σ) : Prop where
  /-- It is given up only in a cancelled scan. -/
  givenUp : o = none → m'.cancelled = true
  mayEnd : ∀ o', o = some o' → a.MayEnd o'
  called : m'.cancelled = true → m.cancelled = true ∨ signals.cancelAt.isSome ∨ a.MayCancel
  upToDate : signals.UpToDate m → signals.UpToDate m'

/-- What is left of an activity after one step leads nowhere else than the activity itself. -/
theorem alone_meets_of_next {signals : Signals} {m m₁ : Moment σ} {a b : Activity σ α}
    (h : (b.alone signals m₁).Meets (LeadsAlone signals m₁ b)
      (signals.Excuse b.MayHang fun _ => False))
    (hb : Next b a) (hcalled : m₁.cancelled = true → m.cancelled = true ∨ a.MayCancel)
    (hup : signals.UpToDate m → signals.UpToDate m₁) :
    (b.alone signals m₁).Meets (LeadsAlone signals m a)
      (signals.Excuse a.MayHang fun _ => False) := by
  refine h.imp (fun o m' _ ho => ⟨ho.givenUp, fun o' ho' => ?_, fun hm' => ?_, ho.upToDate ∘ hup⟩)
    fun br hbr => hbr.imp (fun hh => hh.trans hb.part) fun _ => id
  · exact (ho.mayEnd o' ho').trans hb.part
  · rcases ho.called hm' with hm₁ | hs | ⟨next, hn⟩
    · exact (hcalled hm₁).imp_right .inr
    · exact .inr (.inl hs)
    · exact .inr (.inr ⟨next, hn.trans hb.part⟩)

/-- An activity on its own ends in one of its outcomes, or is given up in a cancelled scan. -/
theorem alone_meets (a : Activity σ α) (signals : Signals) (m : Moment σ) :
    (a.alone signals m).Meets (LeadsAlone signals m a)
      (signals.Excuse a.MayHang fun _ => False) := by
  induction a generalizing m with
  | finish o =>
      refine ⟨by simp, fun o' ho => ?_, .inl, id⟩
      cases ho
      exact .refl _
  | forever =>
      -- it hangs, unless it is cancelled already or a signal comes at any time
      rw [alone]
      split
      · next hc => exact ⟨fun _ => hc, by simp, .inl, id⟩
      · next hc =>
          split
          · next t ht => exact Signals.isSome_of_first_abandoned ht
          · next t ht =>
              have := Signals.isSome_of_first_cancelled ht
              exact ⟨fun _ => rfl, by simp, fun _ => .inr (.inl this), fun _ _ _ => .inl rfl⟩
          · next hn =>
              exact ⟨by simpa using hc, Signals.cancelAt_of_first_eq_none hn, .refl _⟩
  | wait d next ih =>
      cases d with
      | zero =>
          rw [alone]
          exact alone_meets_of_next (ih m) (.wait 0 next) .inl id
      | succ d =>
          -- a signal breaks into the wait only before its last tick
          rw [alone]
          split
          · next hc => exact ⟨fun _ => hc, by simp, .inl, id⟩
          · split
            · next t ht => exact Signals.isSome_of_first_abandoned ht
            · next t ht =>
                have := Signals.isSome_of_first_cancelled ht
                exact ⟨fun _ => rfl, by simp, fun _ => .inr (.inl this), fun _ _ _ => .inl rfl⟩
            · next hn =>
                exact alone_meets_of_next (ih _) (.wait (d + 1) next) .inl
                  fun _ t ht => .inr (Signals.lt_of_first_eq_none hn ht)
  | touch change next ih =>
      rw [alone]
      exact alone_meets_of_next (ih m.now m.world _) (.touch change next m.now m.world) .inl id
  | cancel next ih =>
      rw [alone]
      exact alone_meets_of_next (ih _) (.cancel next) (fun _ => .inr ⟨next, .refl _⟩)
        fun _ _ _ => .inl rfl

/-- On its own an activity makes of its view what it does anywhere. -/
theorem alone_yields {view : σ → γ} {Q : Outcome α → γ → Prop} (a : Activity σ α)
    (signals : Signals) (m : Moment σ) (h : a.Yields view Q (view m.world)) :
    (a.alone signals m).Meets (fun o m' => ∀ o', o = some o' → Q o' (view m'.world))
      fun _ => True := by
  induction a generalizing m with
  | finish o =>
      intro o' ho
      cases ho
      exact h
  | forever =>
      rw [alone]
      split
      · exact fun _ ho => by cases ho
      · split
        · trivial
        · exact fun _ ho => by cases ho
        · trivial
  | wait d next ih =>
      cases d with
      | zero => exact ih m h
      | succ d =>
          rw [alone]
          split
          · exact fun _ ho => by cases ho
          · split
            · trivial
            · exact fun _ ho => by cases ho
            · exact ih _ h
  | touch change next ih => exact ih m.now m.world _ (h m.now m.world rfl)
  | cancel next ih => exact ih _ h

/-- An activity on its own that keeps a view leaves it as it was, wherever it ends. -/
theorem alone_keeps {view : σ → γ} {a : Activity σ α} (h : a.Keeps view) (signals : Signals)
    (m : Moment σ) :
    view (a.alone signals m).final.world = view m.world := by
  induction a generalizing m with
  | finish o => rfl
  | forever =>
      rw [alone]
      split
      · rfl
      · split <;> rfl
  | wait d next ih =>
      cases d with
      | zero => exact ih h m
      | succ d =>
          rw [alone]
          split
          · rfl
          · split
            · rfl
            · rfl
            · exact ih h _
  | touch change next ih =>
      obtain ⟨hw, hnext⟩ := h m.now m.world
      rw [← hw]
      exact ih m.now m.world hnext _
  | cancel next ih => exact ih h _

end VulnScan.Execution.Activity
