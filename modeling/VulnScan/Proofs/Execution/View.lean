import VulnScan.Proofs.Execution.Parts

/-! # What activities end in

`a.SurelyEnds o` says that an activity ends in `o` whatever the world does; how long it takes may
still depend on it.

Some plugins answer from a state of their own: a language server, for instance, answers by the
calls it got before. Such a state is a `view` of the world. `a.Yields view Q b` says that `a` ends,
if it does, in an outcome and with a view that meet `Q`, provided that its view is `b` now and that
nobody else changes it. Nobody else changes it if all other activities have `Keeps view`.
-/

set_option autoImplicit false

namespace VulnScan.Execution

namespace Activity

variable {σ α β γ : Type}

/-! ## Sure outcomes -/

/-- The activity ends in `o`, whatever the world does, and cancels nothing. -/
def SurelyEnds (o : Outcome α) : Activity σ α → Prop
  | .finish o' => o' = o
  | .forever | .cancel _ => False
  | .wait _ next => next.SurelyEnds o
  | .touch _ next => ∀ now w, (next now w).SurelyEnds o

namespace SurelyEnds

variable {a b : Activity σ α} {f : α → Activity σ β} {o : Outcome α}

/-- What is left of an activity with a sure outcome has the same one. -/
theorem part (h : a.SurelyEnds o) (hb : Part b a) : b.SurelyEnds o := by
  induction a with
  | finish o' =>
      rw [part_finish.1 hb]
      exact h
  | forever => exact h.elim
  | wait d next ih =>
      rcases part_wait.1 hb with rfl | hb
      · exact h
      · exact ih h hb
  | touch change next ih =>
      rcases part_touch.1 hb with rfl | ⟨now, w, hb⟩
      · exact h
      · exact ih now w (h now w) hb
  | cancel next ih => exact h.elim

theorem not_mayHang (h : a.SurelyEnds o) : ¬ a.MayHang := fun hh => h.part hh

theorem not_mayCancel (h : a.SurelyEnds o) : ¬ a.MayCancel := fun ⟨_, hc⟩ => h.part hc

theorem eq_of_mayEnd {o' : Outcome α} (h : a.SurelyEnds o) (h' : a.MayEnd o') : o' = o :=
  h.part h'

/-- A composition goes on from where its first part has ended, in whatever way. -/
theorem andThen {o' : Outcome β} (h : a.SurelyEnds o)
    (hf : ((Activity.finish o).andThen f).SurelyEnds o') : (a.andThen f).SurelyEnds o' := by
  induction a with
  | finish _ =>
      obtain rfl := h
      exact hf
  | forever => exact h.elim
  | wait d next ih => exact ih h
  | touch change next ih => exact fun now w => ih now w (h now w)
  | cancel next ih => exact h.elim

theorem tried (h : a.SurelyEnds o) : a.tried.SurelyEnds o.tried := by
  induction a with
  | finish o' =>
      obtain rfl := h
      cases o' <;> rfl
  | forever => exact h.elim
  | wait d next ih => exact ih h
  | touch change next ih => exact fun now w => ih now w (h now w)
  | cancel next ih => exact h.elim

end SurelyEnds

/-! ## Keeping a view -/

/-- The activity never changes what the world shows through `view`. -/
def Keeps (view : σ → γ) : Activity σ α → Prop
  | .finish _ | .forever => True
  | .wait _ next | .cancel next => next.Keeps view
  | .touch change next => ∀ now w, view (change now w) = view w ∧ (next now w).Keeps view

namespace Keeps

variable {view : σ → γ} {a : Activity σ α}

theorem andThen {f : α → Activity σ β} (h : a.Keeps view) (hf : ∀ v, (f v).Keeps view) :
    (a.andThen f).Keeps view := by
  induction a with
  | finish o =>
      cases o with
      | value v => exact hf v
      | fault e => trivial
      | collapse m => trivial
  | forever => trivial
  | wait d next ih => exact ih h
  | touch change next ih => exact fun now w => ⟨(h now w).1, ih now w (h now w).2⟩
  | cancel next ih => exact ih h

theorem tried (h : a.Keeps view) : a.tried.Keeps view := by
  induction a with
  | finish o => cases o <;> trivial
  | forever => trivial
  | wait d next ih => exact ih h
  | touch change next ih => exact fun now w => ⟨(h now w).1, ih now w (h now w).2⟩
  | cancel next ih => exact ih h

/-- What is seen of a view that is kept is kept as well. -/
theorem seen {δ : Type} (see : γ → δ) (h : a.Keeps view) : a.Keeps fun w => see (view w) := by
  induction a with
  | finish o => trivial
  | forever => trivial
  | wait d next ih => exact ih h
  | touch change next ih => exact fun now w => ⟨congrArg see (h now w).1, ih now w (h now w).2⟩
  | cancel next ih => exact ih h

/-- Up to its next wait an activity keeps a view if it does so at all, and afterwards as well. -/
theorem settle {now : Nat} {w w' : σ} {c c' : Bool} {stop : Stop σ α} (h : a.Keeps view)
    (hs : a.settle now w c = (stop, w', c')) :
    view w' = view w ∧ ∀ d next, stop = .waiting d next → next.Keeps view := by
  induction a generalizing w c with
  | finish o =>
      cases hs
      exact ⟨rfl, by simp⟩
  | forever =>
      cases hs
      exact ⟨rfl, by simp⟩
  | wait d next ih =>
      cases d with
      | zero => exact ih h hs
      | succ d =>
          cases hs
          refine ⟨rfl, fun d' next' hn => ?_⟩
          cases hn
          exact h
  | touch change next ih =>
      obtain ⟨hw, hn⟩ := h now w
      rw [← hw]
      exact ih now w hn hs
  | cancel next ih => exact ih h hs

end Keeps

/-! ## What composed activities inherit -/

/-- An activity that is composed of others satisfies `P` if they do. -/
structure Composes (P : (α : Type) → Activity σ α → Prop) : Prop where
  finish : ∀ {α : Type} (o : Outcome α), P α (.finish o)
  wait : ∀ {α : Type} (d : Nat) {next : Activity σ α}, P α next → P α (.wait d next)
  andThen : ∀ {α β : Type} {a : Activity σ α} {f : α → Activity σ β}, P α a →
    (∀ v, P β (f v)) → P β (a.andThen f)
  tried : ∀ {α : Type} {a : Activity σ α}, P α a → P (Except Error α) a.tried

theorem Keeps.composes (view : σ → γ) : Composes fun α (a : Activity σ α) => a.Keeps view where
  finish _ := trivial
  wait _ _ h := h
  andThen h hf := Keeps.andThen h hf
  tried h := Keeps.tried h

/-! ## What an activity makes of its view -/

/-- If the activity ends, its outcome and its view then meet `Q`; its view is `b` now, and only
the activity itself changes it. -/
def Yields (view : σ → γ) (Q : Outcome α → γ → Prop) : Activity σ α → γ → Prop
  | .finish o, b => Q o b
  | .forever, _ => True
  | .wait _ next, b | .cancel next, b => next.Yields view Q b
  | .touch change next, b =>
    ∀ now w, view w = b → (next now w).Yields view Q (view (change now w))

namespace Yields

variable {view : σ → γ} {a : Activity σ α} {b : γ} {Q Q' : Outcome α → γ → Prop}

theorem imp (h : a.Yields view Q b) (hQ : ∀ o b', Q o b' → Q' o b') : a.Yields view Q' b := by
  induction a generalizing b with
  | finish o => exact hQ o b h
  | forever => trivial
  | wait d next ih => exact ih h
  | touch change next ih => exact fun now w hw => ih now w (h now w hw)
  | cancel next ih => exact ih h

/-- A composition goes on from where its first part has ended, in whatever way. -/
theorem andThen {f : α → Activity σ β} {P : Outcome β → γ → Prop}
    (h : a.Yields view (fun o b' => ((Activity.finish o).andThen f).Yields view P b') b) :
    (a.andThen f).Yields view P b := by
  induction a generalizing b with
  | finish o => exact h
  | forever => trivial
  | wait d next ih => exact ih h
  | touch change next ih => exact fun now w hw => ih now w (h now w hw)
  | cancel next ih => exact ih h

/-- The values of a composition are those that its second part makes of the values of the first. -/
theorem andThen_value {f : α → Activity σ β} {P : β → γ → Prop}
    (h : a.Yields view (fun o b' => ∀ v, o = .value v →
      (f v).Yields view (fun o' b'' => ∀ u, o' = .value u → P u b'') b') b) :
    (a.andThen f).Yields view (fun o' b'' => ∀ u, o' = .value u → P u b'') b := by
  refine andThen (h.imp fun o b' hf => ?_)
  cases o with
  | value v => exact hf v rfl
  | fault e => exact fun u hu => by cases hu
  | collapse m => exact fun u hu => by cases hu

theorem tried {P : Outcome (Except Error α) → γ → Prop}
    (h : a.Yields view (fun o b' => P o.tried b') b) : a.tried.Yields view P b := by
  induction a generalizing b with
  | finish o => cases o <;> exact h
  | forever => trivial
  | wait d next ih => exact ih h
  | touch change next ih => exact fun now w hw => ih now w (h now w hw)
  | cancel next ih => exact ih h

/-- An activity that keeps its view ends with it. -/
theorem of_keeps (h : a.Keeps view) (b : γ) : a.Yields view (fun _ b' => b' = b) b := by
  induction a with
  | finish o => rfl
  | forever => trivial
  | wait d next ih => exact ih h
  | touch change next ih =>
      intro now w hw
      rw [(h now w).1, hw]
      exact ih now w (h now w).2
  | cancel next ih => exact ih h

/-- What depends only on something that is seen of the view can be said of the view. -/
theorem of_seen {δ : Type} {see : γ → δ} {Q : Outcome α → δ → Prop}
    (h : a.Yields (fun w => see (view w)) Q (see b)) :
    a.Yields view (fun o b' => Q o (see b')) b := by
  induction a generalizing b with
  | finish o => exact h
  | forever => trivial
  | wait d next ih => exact ih h
  | touch change next ih => exact fun now w hw => ih now w (h now w (congrArg see hw))
  | cancel next ih => exact ih h

/-- Up to its next wait an activity makes of its view what it does as a whole, or it goes on to do
so afterwards. -/
theorem settle {now : Nat} {w w' : σ} {c c' : Bool} {stop : Stop σ α}
    (h : a.Yields view Q (view w)) (hs : a.settle now w c = (stop, w', c')) :
    (∀ o, stop = .ended o → Q o (view w')) ∧
      ∀ d next, stop = .waiting d next → next.Yields view Q (view w') := by
  induction a generalizing w c with
  | finish o =>
      cases hs
      refine ⟨fun o' ho => ?_, by simp⟩
      cases ho
      exact h
  | forever =>
      cases hs
      exact ⟨by simp, by simp⟩
  | wait d next ih =>
      cases d with
      | zero => exact ih h hs
      | succ d =>
          cases hs
          refine ⟨by simp, fun d' next' hn => ?_⟩
          cases hn
          exact h
  | touch change next ih => exact ih now w (h now w rfl) hs
  | cancel next ih => exact ih h hs

end Yields

end Activity

end VulnScan.Execution
