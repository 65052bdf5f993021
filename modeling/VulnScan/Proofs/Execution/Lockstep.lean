import VulnScan.Proofs.Execution.Alike

/-! # Activities in lockstep

Two activities are in lockstep if they do the same to the same world, wait for the same times and
differ only in the values that they end with, by what a relation allows. It is a relation on
activities as trees, and so composes (`Lockstep.andThen`). Run on their own from one moment and
under the same signals, such activities lead to the same moment (`Lockstep.alone`), whether they
end or not.
-/

set_option autoImplicit false

namespace VulnScan.Execution

variable {σ α α₁ α₂ β₁ β₂ : Type}

/-- Both courses lead to one moment, to results that `R` relates if they reach any. -/
inductive Course.Beside (R : α₁ → α₂ → Prop) : Course σ α₁ → Course σ α₂ → Prop
  | reached {a₁ : α₁} {a₂ : α₂} (related : R a₁ a₂) (m : Moment σ) :
      Beside R (.reached a₁ m) (.reached a₂ m)
  | abandoned (m : Moment σ) : Beside R (.abandoned m) (.abandoned m)
  | stuck (m : Moment σ) : Beside R (.stuck m) (.stuck m)
  | collapsed (message : String) (m : Moment σ) :
      Beside R (.collapsed message m) (.collapsed message m)

namespace Activity

/-- Both activities go the same way, and end in outcomes that differ only as `R` allows. -/
inductive Lockstep (R : α₁ → α₂ → Prop) : Activity σ α₁ → Activity σ α₂ → Prop
  | finish {o₁ : Outcome α₁} {o₂ : Outcome α₂} (ending : o₁.Alike R o₂) :
      Lockstep R (.finish o₁) (.finish o₂)
  | forever : Lockstep R .forever .forever
  | wait (d : Nat) {a₁ : Activity σ α₁} {a₂ : Activity σ α₂} (next : Lockstep R a₁ a₂) :
      Lockstep R (.wait d a₁) (.wait d a₂)
  | touch (change : Nat → σ → σ) {f₁ : Nat → σ → Activity σ α₁} {f₂ : Nat → σ → Activity σ α₂}
      (next : ∀ now w, Lockstep R (f₁ now w) (f₂ now w)) :
      Lockstep R (.touch change f₁) (.touch change f₂)
  | cancel {a₁ : Activity σ α₁} {a₂ : Activity σ α₂} (next : Lockstep R a₁ a₂) :
      Lockstep R (.cancel a₁) (.cancel a₂)

namespace Lockstep

variable {R : α₁ → α₂ → Prop} {R' : β₁ → β₂ → Prop} {a₁ : Activity σ α₁} {a₂ : Activity σ α₂}

theorem value {v₁ : α₁} {v₂ : α₂} (h : R v₁ v₂) :
    Lockstep R (Activity.value v₁ : Activity σ α₁) (Activity.value v₂) :=
  .finish (.value h)

/-- Every activity is in lockstep with itself. -/
theorem refl (a : Activity σ α) : Lockstep Eq a a := by
  induction a with
  | finish o =>
      cases o with
      | value v => exact .finish (.value rfl)
      | fault e => exact .finish (.fault e)
      | collapse message => exact .finish (.collapse message)
  | forever => exact .forever
  | wait d a ih => exact .wait d ih
  | touch change f ih => exact .touch change ih
  | cancel a ih => exact .cancel ih

theorem andThen {f₁ : α₁ → Activity σ β₁} {f₂ : α₂ → Activity σ β₂} (h : Lockstep R a₁ a₂)
    (hf : ∀ v₁ v₂, R v₁ v₂ → Lockstep R' (f₁ v₁) (f₂ v₂)) :
    Lockstep R' (a₁.andThen f₁) (a₂.andThen f₂) := by
  induction h with
  | finish ending =>
      cases ending with
      | value related => exact hf _ _ related
      | fault e => exact .finish (.fault e)
      | collapse message => exact .finish (.collapse message)
  | forever => exact .forever
  | wait d _ ih => exact .wait d ih
  | touch change _ ih => exact .touch change ih
  | cancel _ ih => exact .cancel ih

/-- Activities in lockstep that are run on their own lead to the same moment. -/
theorem alone (h : Lockstep R a₁ a₂) (signals : Signals) (m : Moment σ) :
    Course.Beside (Option.Rel (Outcome.Alike R)) (a₁.alone signals m) (a₂.alone signals m) := by
  induction h generalizing m with
  | finish ending => exact .reached (.some ending) m
  | forever =>
      unfold Activity.alone
      split
      · exact .reached .none m
      · split
        · exact .abandoned _
        · exact .reached .none _
        · exact .stuck m
  | wait d _ ih =>
      -- nothing breaks into a wait of no time
      cases d with
      | zero => exact ih m
      | succ d =>
          unfold Activity.alone
          split
          · exact .reached .none m
          · split
            · exact .abandoned _
            · exact .reached .none _
            · exact ih _
  | touch change _ ih => exact ih _ _ _
  | cancel _ ih => exact ih _

end Lockstep

end Activity

end VulnScan.Execution
