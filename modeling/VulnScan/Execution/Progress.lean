/-! # Progress of one among several

Several processes run side by side, and in every step one of them makes progress. If each process
can only make progress finitely often, so can all of them together.
-/

set_option autoImplicit false

namespace VulnScan.Execution

variable {β : Type}

/-- `Progress r m l`: the list `m` is `l` with one element replaced by one below it. -/
inductive Progress (r : β → β → Prop) : List β → List β → Prop
  | here {b a : β} {l : List β} : r b a → Progress r (b :: l) (a :: l)
  | there {a : β} {m l : List β} : Progress r m l → Progress r (a :: m) (a :: l)

namespace Progress

theorem acc_cons {r : β → β → Prop} {a : β} {l : List β} (ha : Acc r a)
    (hl : Acc (Progress r) l) : Acc (Progress r) (a :: l) := by
  induction ha generalizing l with
  | intro a _ iha =>
    induction hl with
    | intro l hl ihl =>
      refine ⟨_, fun m h => ?_⟩
      cases h with
      | here hb => exact iha _ hb ⟨_, hl⟩
      | there hm => exact ihl _ hm

/-- Progress of one among several ends, if progress of each does. -/
theorem wellFounded {r : β → β → Prop} (h : WellFounded r) : WellFounded (Progress r) := by
  constructor
  intro l
  induction l with
  | nil => exact ⟨_, fun m h => by cases h⟩
  | cons a l ih => exact acc_cons (h.apply a) ih

/-- Replacing one element by one below it is progress. -/
theorem set {r : β → β → Prop} {l : List β} {i : Nat} {a b : β} (h : l[i]? = some a)
    (hb : r b a) : Progress r (l.set i b) l := by
  induction l generalizing i with
  | nil => simp at h
  | cons x l ih =>
    cases i with
    | zero =>
      simp only [List.getElem?_cons_zero, Option.some.injEq] at h
      subst h
      exact .here hb
    | succ i => exact .there (ih (by simpa using h))

end Progress

end VulnScan.Execution
