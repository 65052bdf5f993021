import Mathlib.Data.List.Basic

/-! # Readings that may fail

A reading of several steps is a result if every step is one. A row of readings is read if each of
its members is (`exists_mapM_eq_ok`), and fails like the first of them that cannot be read
(`mapM_eq_error_iff`).
-/

set_option autoImplicit false

namespace VulnScan

variable {α β ε : Type} {read : α → Except ε β}

theorem bind_eq_ok_iff {x : Except ε α} {b : β} :
    (x >>= read) = .ok b ↔ ∃ a, x = .ok a ∧ read a = .ok b := by
  cases x with
  | error e => exact ⟨nofun, nofun⟩
  | ok a =>
    constructor
    · intro h
      exact ⟨a, rfl, h⟩
    · rintro ⟨a', ha, h⟩
      cases ha
      exact h

theorem mapError_eq_ok_iff {ε' : Type} {f : ε → ε'} {x : Except ε α} {a : α} :
    x.mapError f = .ok a ↔ x = .ok a := by
  cases x <;> simp [Except.mapError]

/-- What is read of a row is what is read of its members. -/
theorem mem_of_mapM_eq_ok {xs : List α} {ys : List β} (h : xs.mapM read = .ok ys) :
    (∀ x ∈ xs, ∃ y, read x = .ok y) ∧ ∀ y, y ∈ ys ↔ ∃ x ∈ xs, read x = .ok y := by
  induction xs generalizing ys with
  | nil =>
    cases h
    exact ⟨nofun, fun y => by simp⟩
  | cons x xs ih =>
    rw [List.mapM_cons] at h
    cases hx : read x with
    | error e =>
      rw [hx] at h
      cases h
    | ok z =>
      cases hxs : xs.mapM read with
      | error e =>
        rw [hx, hxs] at h
        cases h
      | ok zs =>
        rw [hx, hxs] at h
        cases h
        obtain ⟨hall, hmem⟩ := ih hxs
        refine ⟨List.forall_mem_cons.2 ⟨⟨z, hx⟩, hall⟩, fun y => ?_⟩
        rw [List.mem_cons, List.exists_mem_cons_iff, hmem, hx, Except.ok.injEq]
        exact or_congr_left eq_comm

/-- The first member that cannot be read decides how a row fails. -/
theorem mapM_eq_error_iff {xs : List α} {e : ε} :
    xs.mapM read = .error e ↔ ∃ before x after, xs = before ++ x :: after ∧
      (∀ b ∈ before, ∃ y, read b = .ok y) ∧ read x = .error e := by
  induction xs with
  | nil => simp [pure, Except.pure]
  | cons x xs ih =>
    rw [List.mapM_cons]
    cases hx : read x with
    | error e' =>
      -- the row fails here, and nothing before this member could fail first
      constructor
      · intro h
        cases h
        exact ⟨[], x, xs, rfl, nofun, hx⟩
      · rintro ⟨before, b, after, heq, hbefore, hb⟩
        cases before with
        | nil =>
          cases heq
          rw [hx] at hb
          cases hb
          rfl
        | cons a before =>
          cases heq
          obtain ⟨y, hy⟩ := hbefore x List.mem_cons_self
          rw [hx] at hy
          cases hy
    | ok y =>
      -- the member that fails is one of the others, and this one stands before it
      have hrest : ((do let ys ← xs.mapM read; pure (y :: ys) : Except ε (List β)) = .error e) ↔
          xs.mapM read = .error e := by
        cases xs.mapM read <;> simp [bind, Except.bind, pure, Except.pure]
      refine Iff.trans hrest (ih.trans ⟨?_, ?_⟩)
      · rintro ⟨before, b, after, rfl, hbefore, hb⟩
        refine ⟨x :: before, b, after, rfl, fun a ha => ?_, hb⟩
        rcases List.mem_cons.1 ha with rfl | ha
        · exact ⟨y, hx⟩
        · exact hbefore a ha
      · rintro ⟨before, b, after, heq, hbefore, hb⟩
        cases before with
        | nil =>
          cases heq
          rw [hx] at hb
          cases hb
        | cons a before =>
          cases heq
          exact ⟨before, b, after, rfl, fun a ha => hbefore a (List.mem_cons_of_mem x ha), hb⟩

/-- A row is read if each of its members is. -/
theorem exists_mapM_eq_ok {xs : List α} (h : ∀ x ∈ xs, ∃ y, read x = .ok y) :
    ∃ ys, xs.mapM read = .ok ys := by
  cases hxs : xs.mapM read with
  | ok ys => exact ⟨ys, rfl⟩
  | error e =>
    obtain ⟨before, x, after, rfl, -, hx⟩ := mapM_eq_error_iff.1 hxs
    obtain ⟨y, hy⟩ := h x (by simp)
    rw [hx] at hy
    cases hy

end VulnScan
