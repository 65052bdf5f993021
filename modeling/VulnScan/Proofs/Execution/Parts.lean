import Mathlib.Logic.Relation
import VulnScan.Execution.Activity

/-! # What an activity may come to

An activity is a tree: every look at the world branches. A *part* of it (`Part`) is what can be
left of it at some moment, whatever the world did in between; an activity may end in an outcome,
may hang and may cancel if it has such a part. All that a pool does to an activity is to go on
with one of its parts (`part_settle`), so these notions speak about every run of the activity,
alone or among others.
-/

set_option autoImplicit false

namespace VulnScan.Execution

/-- The outcome of an activity whose error is taken as a value. -/
def Outcome.tried {α : Type} : Outcome α → Outcome (Except Error α)
  | .value a => .value (.ok a)
  | .fault e => .value (.error e)
  | .collapse m => .collapse m

namespace Activity

variable {σ α β : Type}

/-! ## Parts -/

/-- `Part b a`: `b` is what is left of `a` at some moment, `a` itself at the start. -/
def Part : Activity σ α → Activity σ α → Prop := Relation.ReflTransGen Next

/-- The activity can end in an outcome. -/
def MayEnd (a : Activity σ α) (o : Outcome α) : Prop := Part (.finish o) a

/-- The activity can reach a point from which it never goes on. -/
def MayHang (a : Activity σ α) : Prop := Part .forever a

/-- The activity can call for the scan to be cancelled. -/
def MayCancel (a : Activity σ α) : Prop := ∃ next, Part (.cancel next) a

theorem Part.refl (a : Activity σ α) : Part a a := Relation.ReflTransGen.refl

theorem Part.trans {a b c : Activity σ α} (h : Part c b) (h' : Part b a) : Part c a :=
  Relation.ReflTransGen.trans h h'

theorem Next.part {a b : Activity σ α} (h : Next b a) : Part b a :=
  Relation.ReflTransGen.single h

@[simp] theorem part_finish {b : Activity σ α} {o : Outcome α} :
    Part b (.finish o) ↔ b = .finish o := by
  constructor
  · intro h
    rcases Relation.ReflTransGen.cases_tail h with h | ⟨c, -, h⟩
    · exact h.symm
    · cases h
  · rintro rfl
    exact .refl _

@[simp] theorem part_forever {b : Activity σ α} : Part b .forever ↔ b = .forever := by
  constructor
  · intro h
    rcases Relation.ReflTransGen.cases_tail h with h | ⟨c, -, h⟩
    · exact h.symm
    · cases h
  · rintro rfl
    exact .refl _

@[simp] theorem part_wait {b next : Activity σ α} {d : Nat} :
    Part b (.wait d next) ↔ b = .wait d next ∨ Part b next := by
  constructor
  · intro h
    rcases Relation.ReflTransGen.cases_tail h with h | ⟨c, hc, h⟩
    · exact .inl h.symm
    · cases h
      exact .inr hc
  · rintro (rfl | h)
    · exact .refl _
    · exact h.trans (Next.wait d next).part

@[simp] theorem part_touch {b : Activity σ α} {change : Nat → σ → σ}
    {next : Nat → σ → Activity σ α} :
    Part b (.touch change next) ↔ b = .touch change next ∨ ∃ now w, Part b (next now w) := by
  constructor
  · intro h
    rcases Relation.ReflTransGen.cases_tail h with h | ⟨c, hc, h⟩
    · exact .inl h.symm
    · cases h with
      | touch _ _ now w => exact .inr ⟨now, w, hc⟩
  · rintro (rfl | ⟨now, w, h⟩)
    · exact .refl _
    · exact h.trans (Next.touch change next now w).part

@[simp] theorem part_cancel {b next : Activity σ α} :
    Part b (.cancel next) ↔ b = .cancel next ∨ Part b next := by
  constructor
  · intro h
    rcases Relation.ReflTransGen.cases_tail h with h | ⟨c, hc, h⟩
    · exact .inl h.symm
    · cases h
      exact .inr hc
  · rintro (rfl | h)
    · exact .refl _
    · exact h.trans (Next.cancel next).part

theorem MayCancel.of_next {a b : Activity σ α} (h : b.MayCancel) (hb : Next b a) : a.MayCancel := by
  obtain ⟨next, hnext⟩ := h
  exact ⟨next, hnext.trans hb.part⟩

/-! ## Parts of composed activities -/

/-- A part of a composition is a part of the first activity that still has to go on with the
second, or it is a part of the second. -/
theorem part_andThen {a : Activity σ α} {f : α → Activity σ β} {b : Activity σ β}
    (h : Part b (a.andThen f)) :
    (∃ a', Part a' a ∧ b = a'.andThen f) ∨ ∃ v, a.MayEnd (.value v) ∧ Part b (f v) := by
  induction a with
  | finish o =>
      -- only a value lets the second activity begin
      cases o with
      | value v => exact .inr ⟨v, .refl _, h⟩
      | fault e => exact .inl ⟨_, .refl _, part_finish.1 h⟩
      | collapse m => exact .inl ⟨_, .refl _, part_finish.1 h⟩
  | forever => exact .inl ⟨_, .refl _, part_forever.1 h⟩
  | wait d next ih =>
      rcases part_wait.1 h with h | h
      · exact .inl ⟨_, .refl _, h⟩
      · rcases ih h with ⟨a', ha, hb⟩ | ⟨v, hv, hb⟩
        · exact .inl ⟨a', part_wait.2 (.inr ha), hb⟩
        · exact .inr ⟨v, part_wait.2 (.inr hv), hb⟩
  | touch change next ih =>
      rcases part_touch.1 h with h | ⟨now, w, h⟩
      · exact .inl ⟨_, .refl _, h⟩
      · rcases ih now w h with ⟨a', ha, hb⟩ | ⟨v, hv, hb⟩
        · exact .inl ⟨a', part_touch.2 (.inr ⟨now, w, ha⟩), hb⟩
        · exact .inr ⟨v, part_touch.2 (.inr ⟨now, w, hv⟩), hb⟩
  | cancel next ih =>
      rcases part_cancel.1 h with h | h
      · exact .inl ⟨_, .refl _, h⟩
      · rcases ih h with ⟨a', ha, hb⟩ | ⟨v, hv, hb⟩
        · exact .inl ⟨a', part_cancel.2 (.inr ha), hb⟩
        · exact .inr ⟨v, part_cancel.2 (.inr hv), hb⟩

/-- A composition ends as it does from where its first part has ended, in whatever way. -/
theorem mayEnd_andThen {a : Activity σ α} {f : α → Activity σ β} {o : Outcome β}
    (h : (a.andThen f).MayEnd o) :
    ∃ o', a.MayEnd o' ∧ ((Activity.finish o').andThen f).MayEnd o := by
  rcases part_andThen h with ⟨a', ha, hb⟩ | ⟨v, hv, hb⟩
  · cases a' with
    | finish o' => exact ⟨o', ha, by rw [MayEnd, hb]; exact .refl _⟩
    | forever => simp [andThen] at hb
    | wait d next => simp [andThen] at hb
    | touch change next => simp [andThen] at hb
    | cancel next => simp [andThen] at hb
  · exact ⟨.value v, hv, hb⟩

/-- An activity whose error is taken as a value ends in a value or breaks off. -/
theorem mayEnd_tried {a : Activity σ α} {o : Outcome (Except Error α)} (h : a.tried.MayEnd o) :
    ∃ o', a.MayEnd o' ∧ o = o'.tried := by
  induction a with
  | finish o' => exact ⟨o', .refl _, by cases o' <;> simpa [tried, MayEnd, Outcome.tried] using h⟩
  | forever => simp [tried, MayEnd] at h
  | wait d next ih => simpa [tried, MayEnd] using ih (by simpa [tried, MayEnd] using h)
  | touch change next ih =>
      obtain ⟨now, w, h⟩ : ∃ now w, (next now w).tried.MayEnd o := by
        simpa [tried, MayEnd] using h
      obtain ⟨o', ho, rfl⟩ := ih now w h
      exact ⟨o', part_touch.2 (.inr ⟨now, w, ho⟩), rfl⟩
  | cancel next ih => simpa [tried, MayEnd] using ih (by simpa [tried, MayEnd] using h)

/-- A composition calls for a cancellation only if one of its parts may. -/
theorem mayCancel_andThen {a : Activity σ α} {f : α → Activity σ β}
    (h : (a.andThen f).MayCancel) : a.MayCancel ∨ ∃ v, (f v).MayCancel := by
  obtain ⟨next, hnext⟩ := h
  rcases part_andThen hnext with ⟨a', ha, hb⟩ | ⟨v, -, hb⟩
  · cases a' with
    | finish o =>
        cases o with
        | value v => exact .inr ⟨v, next, by rw [hb]; exact .refl _⟩
        | fault e => simp [andThen] at hb
        | collapse m => simp [andThen] at hb
    | forever => simp [andThen] at hb
    | wait d next => simp [andThen] at hb
    | touch change next => simp [andThen] at hb
    | cancel b => exact .inl ⟨b, ha⟩
  · exact .inr ⟨v, next, hb⟩

theorem mayCancel_tried {a : Activity σ α} (h : a.tried.MayCancel) : a.MayCancel := by
  induction a with
  | finish o => cases o <;> simp [tried, MayCancel] at h
  | forever => simp [tried, MayCancel] at h
  | wait d next ih =>
      obtain ⟨b, hb⟩ := h
      rcases part_wait.1 hb with hb | hb
      · cases hb
      · exact (ih ⟨b, hb⟩).of_next (.wait d next)
  | touch change next ih =>
      obtain ⟨b, hb⟩ := h
      rcases part_touch.1 hb with hb | ⟨now, w, hb⟩
      · cases hb
      · exact (ih now w ⟨b, hb⟩).of_next (.touch change next now w)
  | cancel next ih => exact ⟨next, .refl _⟩

/-! ## Running to the next wait -/

/-- Where an activity stops it has come to one of its parts, and it has called for the scan to be
cancelled only if it may. -/
theorem part_settle {a : Activity σ α} {now : Nat} {w w' : σ} {c c' : Bool} {stop : Stop σ α}
    (h : a.settle now w c = (stop, w', c')) :
    (match stop with
      | .ended o => a.MayEnd o
      | .idle => a.MayHang
      | .waiting _ next => Part next a) ∧
    (c' = true → c = true ∨ a.MayCancel) := by
  induction a generalizing w c with
  | finish o =>
      cases h
      exact ⟨.refl _, .inl⟩
  | forever =>
      cases h
      exact ⟨.refl _, .inl⟩
  | wait d next ih =>
      cases d with
      | zero =>
          -- no time at all is no wait
          obtain ⟨hs, hc⟩ := ih h
          refine ⟨?_, fun h' => (hc h').imp_right fun ⟨b, hb⟩ => ⟨b, part_wait.2 (.inr hb)⟩⟩
          cases stop <;> exact part_wait.2 (.inr hs)
      | succ d =>
          cases h
          exact ⟨part_wait.2 (.inr (.refl _)), .inl⟩
  | touch change next ih =>
      obtain ⟨hs, hc⟩ := ih now w h
      refine ⟨?_, fun h' => (hc h').imp_right fun ⟨b, hb⟩ =>
        ⟨b, part_touch.2 (.inr ⟨now, w, hb⟩)⟩⟩
      cases stop <;> exact part_touch.2 (.inr ⟨now, w, hs⟩)
  | cancel next ih =>
      -- it calls for the cancellation itself, whatever comes after
      obtain ⟨hs, -⟩ := ih h
      refine ⟨?_, fun _ => .inr ⟨next, .refl _⟩⟩
      cases stop <;> exact part_cancel.2 (.inr hs)

end Activity

end VulnScan.Execution
