import VulnScan.Execution.Course

/-! # Reasoning about courses

A claim about a session has two sides: what holds where it leads to a result, and how it may break
off otherwise (`Course.Meets`). Sessions are composed of smaller ones, and so are such claims
(`Session.meets_bind`). Whether it leads to a result or not, a course ends at a moment
(`Course.final`). The ways to break off that the signals of a run account for are
`Signals.Excuse`: a run is abandoned only if it was to be, and comes to a standstill only if it
hangs and nobody cancels it.
-/

set_option autoImplicit false

namespace VulnScan.Execution

variable {σ α β : Type}

/-- How a course can end without a result. -/
inductive Break (σ : Type) where
  | abandoned (m : Moment σ)
  | stuck (m : Moment σ)
  | collapsed (message : String) (m : Moment σ)

/-- The moment at which a course breaks off. -/
def Break.moment : Break σ → Moment σ
  | .abandoned m | .stuck m | .collapsed _ m => m

namespace Course

/-- The course leads to a result that meets `Q`, or breaks off in a way that meets `B`. -/
def Meets (Q : α → Moment σ → Prop) (B : Break σ → Prop) : Course σ α → Prop
  | .reached a m => Q a m
  | .abandoned m => B (.abandoned m)
  | .stuck m => B (.stuck m)
  | .collapsed message m => B (.collapsed message m)

@[simp] theorem meets_reached {Q : α → Moment σ → Prop} {B : Break σ → Prop} {a : α}
    {m : Moment σ} : (reached a m).Meets Q B ↔ Q a m := Iff.rfl

theorem Meets.imp {Q Q' : α → Moment σ → Prop} {B B' : Break σ → Prop} {c : Course σ α}
    (h : c.Meets Q B) (hQ : ∀ a m, c = .reached a m → Q a m → Q' a m)
    (hB : ∀ b, B b → B' b) : c.Meets Q' B' := by
  cases c with
  | reached a m => exact hQ a m rfl h
  | abandoned m => exact hB _ h
  | stuck m => exact hB _ h
  | collapsed message m => exact hB _ h

theorem Meets.and {Q Q' : α → Moment σ → Prop} {B B' : Break σ → Prop} {c : Course σ α}
    (h : c.Meets Q B) (h' : c.Meets Q' B') :
    c.Meets (fun a m => Q a m ∧ Q' a m) fun b => B b ∧ B' b := by
  cases c <;> exact ⟨h, h'⟩

theorem Meets.exists_reached {Q : α → Moment σ → Prop} {B : Break σ → Prop} {c : Course σ α}
    (h : c.Meets Q B) (hB : ∀ b, ¬ B b) : ∃ a m, c = .reached a m ∧ Q a m := by
  cases c with
  | reached a m => exact ⟨a, m, rfl, h⟩
  | abandoned m => exact (hB _ h).elim
  | stuck m => exact (hB _ h).elim
  | collapsed message m => exact (hB _ h).elim

theorem Meets.of_reached {Q : α → Moment σ → Prop} {B : Break σ → Prop} {c : Course σ α} {a : α}
    {m : Moment σ} (h : c.Meets Q B) (hc : c = .reached a m) : Q a m := by
  subst hc
  exact h

/-- The moment at which a course ends, in whatever way. -/
def final : Course σ α → Moment σ
  | .reached _ m | .abandoned m | .stuck m | .collapsed _ m => m

/-- What holds where a course ends holds there in whatever way it ends. -/
theorem meets_of_final {P : Moment σ → Prop} {c : Course σ α} (h : P c.final) :
    c.Meets (fun _ => P) fun br => P br.moment := by
  cases c <;> exact h

end Course

namespace Session

variable {signals : Signals} {m : Moment σ}

/-- A composition meets what its second part meets wherever its first part leads. -/
theorem meets_bind {s : Session σ α} {f : α → Session σ β} {Q : β → Moment σ → Prop}
    {B : Break σ → Prop} (h : (s signals m).Meets (fun a m₁ => (f a signals m₁).Meets Q B) B) :
    ((s >>= f) signals m).Meets Q B := by
  show (andThen s f signals m).Meets Q B
  cases hs : s signals m with
  | reached a m₁ => simpa [andThen, hs] using h.of_reached hs
  | abandoned m₁ => simpa [andThen, hs, Course.Meets] using h
  | stuck m₁ => simpa [andThen, hs, Course.Meets] using h
  | collapsed message m₁ => simpa [andThen, hs, Course.Meets] using h

/-- A composition that leads to a result has come through one of its first part. -/
theorem bind_eq_reached {s : Session σ α} {f : α → Session σ β} {b : β} {m' : Moment σ} :
    (s >>= f) signals m = .reached b m' ↔
      ∃ a m₁, s signals m = .reached a m₁ ∧ f a signals m₁ = .reached b m' := by
  show andThen s f signals m = _ ↔ _
  simp only [andThen]
  cases hs : s signals m with
  | reached a m₁ =>
      constructor
      · intro h
        exact ⟨a, m₁, rfl, h⟩
      · rintro ⟨a', m₁', h, hf⟩
        cases h
        exact hf
  | abandoned m₁ => simp
  | stuck m₁ => simp
  | collapsed message m₁ => simp

/-- A composition ends where its first part breaks off, or where its second part ends. -/
theorem final_bind {s : Session σ α} {f : α → Session σ β} {P : Moment σ → Prop}
    (hs : P (s signals m).final)
    (hf : ∀ a m₁, s signals m = .reached a m₁ → P (f a signals m₁).final) :
    P ((s >>= f) signals m).final := by
  show P (andThen s f signals m).final
  unfold andThen
  generalize s signals m = c at hs hf
  cases c with
  | reached a m₁ => exact hf a m₁ rfl
  | abandoned m₁ => exact hs
  | stuck m₁ => exact hs
  | collapsed message m₁ => exact hs

@[simp] theorem moment_apply : (moment : Session σ (Moment σ)) signals m = .reached m m := rfl

@[simp] theorem pure_apply (a : α) : (pure a : Session σ α) signals m = .reached a m := rfl

end Session

namespace Signals

/-- The ways to break off that the signals of a run account for: it is abandoned from outside, or
nobody cancels it though something in it `hangs`. By itself it breaks off only with a message that
`tells` allows. -/
def Excuse (s : Signals) (hangs : Prop) (tells : String → Prop) : Break σ → Prop
  | .abandoned _ => s.abandonAt.isSome
  | .stuck m => m.cancelled = false ∧ s.cancelAt = none ∧ hangs
  | .collapsed message _ => tells message

theorem Excuse.imp {s : Signals} {hangs hangs' : Prop} {tells tells' : String → Prop} {b : Break σ}
    (h : s.Excuse hangs tells b) (hh : hangs → hangs')
    (hs : ∀ message, tells message → tells' message) :
    s.Excuse hangs' tells' b := by
  cases b with
  | abandoned m => exact h
  | stuck m => exact ⟨h.1, h.2.1, hh h.2.2⟩
  | collapsed message m => exact hs message h

/-- A run that nobody abandons and in which nothing hangs breaks off with a message only. -/
theorem Excuse.exists_collapsed {s : Signals} {hangs : Prop} {tells : String → Prop} {b : Break σ}
    (h : s.Excuse hangs tells b) (quiet : s.abandonAt = none) (moving : ¬ hangs) :
    ∃ message m, b = .collapsed message m ∧ tells message := by
  cases b with
  | abandoned m =>
      have habandoned : s.abandonAt.isSome = true := h
      rw [quiet] at habandoned
      cases habandoned
  | stuck m => exact absurd h.2.2 moving
  | collapsed message m => exact ⟨message, m, rfl, h⟩

/-- Nothing breaks off a run that nobody cancels or abandons, if nothing in it hangs. -/
theorem not_excuse {hangs : Prop} (h : ¬ hangs) (b : Break σ) :
    ¬ Excuse {} hangs (fun _ => False) b := by
  intro hb
  obtain ⟨message, m, -, hfalse⟩ := hb.exists_collapsed rfl h
  exact hfalse

/-- The run has not missed the cancellation that was called for from outside. -/
def UpToDate (s : Signals) (m : Moment σ) : Prop :=
  ∀ t, s.cancelAt = some t → m.cancelled = true ∨ m.now ≤ t

/-- No signal comes by the limit. -/
theorem first_eq_none {s : Signals} {limit : Option Nat} (h : s.first limit = none) :
    s.abandonAt.filter (isBy limit) = none ∧ s.cancelAt.filter (isBy limit) = none := by
  simp only [first] at h
  split at h
  · split at h <;> simp at h
  · simp at h
  · simp at h
  · next ha hc => exact ⟨ha, hc⟩

theorem lt_of_first_eq_none {s : Signals} {limit t : Nat} (h : s.first (some limit) = none)
    (ht : s.cancelAt = some t) : limit < t := by
  have := (first_eq_none h).2
  simpa [ht, isBy, Option.filter] using this

theorem cancelAt_of_first_eq_none {s : Signals} (h : s.first none = none) : s.cancelAt = none := by
  have := (first_eq_none h).2
  cases ht : s.cancelAt with
  | none => rfl
  | some t => simp [ht, isBy, Option.filter] at this

theorem isSome_of_first_abandoned {s : Signals} {limit : Option Nat} {t : Nat}
    (h : s.first limit = some (.abandoned t)) : s.abandonAt.isSome := by
  cases ha : s.abandonAt with
  | some a => rfl
  | none =>
      simp only [first, ha, Option.filter_none] at h
      split at h <;> simp_all

theorem isSome_of_first_cancelled {s : Signals} {limit : Option Nat} {t : Nat}
    (h : s.first limit = some (.cancelled t)) : s.cancelAt.isSome := by
  cases hc : s.cancelAt with
  | some c => rfl
  | none =>
      simp only [first, hc, Option.filter_none] at h
      split at h <;> simp_all

end Signals

end VulnScan.Execution
