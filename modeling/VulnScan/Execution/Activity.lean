import VulnScan.Error

/-! # Activities

An activity is what a plugin does when it runs, as far as the scanner can tell: it waits, looks at
and changes the world around it, calls for the whole scan to be cancelled, and ends in an outcome
or not at all. Time is counted in ticks of a millisecond.

An activity runs without interruption until it has to wait. `settle` is that part of a run; what
is left is strictly less than the whole (`later_settle`), so every run of an activity comes to an
end or waits for ever.
-/

set_option autoImplicit false

namespace VulnScan.Execution

/-- How an activity ends. -/
inductive Outcome (α : Type) where
  | value (a : α)
  | fault (e : Error)
  /-- It broke off with a message instead of an error. -/
  | collapse (message : String)

/-- What a plugin does, in a world of type `σ`. -/
inductive Activity (σ α : Type) where
  | finish (o : Outcome α)
  | forever
  | wait (ticks : Nat) (next : Activity σ α)
  /-- Changes the world; what comes next depends on the time and on the world before the change. -/
  | touch (change : Nat → σ → σ) (next : Nat → σ → Activity σ α)
  /-- Calls for the scan to be cancelled. -/
  | cancel (next : Activity σ α)

namespace Activity

variable {σ α β : Type}

/-- Ends at once with a value. -/
def value (a : α) : Activity σ α := .finish (.value a)

/-- Ends at once with an error. -/
def fault (e : Error) : Activity σ α := .finish (.fault e)

/-- Goes on with the value of an activity, if it has one. -/
def andThen : Activity σ α → (α → Activity σ β) → Activity σ β
  | .finish (.value a), f => f a
  | .finish (.fault e), _ => .finish (.fault e)
  | .finish (.collapse m), _ => .finish (.collapse m)
  | .forever, _ => .forever
  | .wait d next, f => .wait d (next.andThen f)
  | .touch change next, f => .touch change fun now w => (next now w).andThen f
  | .cancel next, f => .cancel (next.andThen f)

instance : Monad (Activity σ) where
  pure := value
  bind := andThen

/-- The activity with its error as a value. -/
def tried : Activity σ α → Activity σ (Except Error α)
  | .finish (.value a) => .finish (.value (.ok a))
  | .finish (.fault e) => .finish (.value (.error e))
  | .finish (.collapse m) => .finish (.collapse m)
  | .forever => .forever
  | .wait d next => .wait d next.tried
  | .touch change next => .touch change fun now w => (next now w).tried
  | .cancel next => .cancel next.tried

/-- Waits; no time at all is no wait. -/
def pause (d : Time.Span) : Activity σ Unit := .wait d.ticks (value ())

/-- Changes the world. -/
def change (f : Nat → σ → σ) : Activity σ Unit := .touch f fun _ _ => value ()

/-- Looks at the world, before changing it. -/
def look (f : Nat → σ → σ) : Activity σ (Nat × σ) := .touch f fun now w => value (now, w)

/-! ## Running without interruption -/

/-- Where an activity stops. -/
inductive Stop (σ α : Type) where
  | ended (o : Outcome α)
  | idle
  | waiting (ticks : Nat) (next : Activity σ α)

/-- Runs an activity until it has to wait: where it stops, the world then, and whether the scan is
cancelled. -/
def settle (now : Nat) : Activity σ α → σ → Bool → Stop σ α × σ × Bool
  | .finish o, w, cancelled => (.ended o, w, cancelled)
  | .forever, w, cancelled => (.idle, w, cancelled)
  | .wait 0 next, w, cancelled => next.settle now w cancelled
  | .wait (d + 1) next, w, cancelled => (.waiting (d + 1) next, w, cancelled)
  | .touch change next, w, cancelled => (next now w).settle now (change now w) cancelled
  | .cancel next, w, _ => next.settle now w true

/-- `Next b a`: `b` is what comes right after `a`. -/
inductive Next : Activity σ α → Activity σ α → Prop
  | wait (d : Nat) (a : Activity σ α) : Next a (.wait d a)
  | touch (change : Nat → σ → σ) (next : Nat → σ → Activity σ α) (now : Nat) (w : σ) :
    Next (next now w) (.touch change next)
  | cancel (a : Activity σ α) : Next a (.cancel a)

/-- `Later b a`: `b` is a later part of `a`. -/
def Later : Activity σ α → Activity σ α → Prop := Relation.TransGen Next

theorem next_wellFounded : WellFounded (@Next σ α) := by
  constructor
  intro a
  induction a with
  | finish o => exact ⟨_, fun b h => by cases h⟩
  | forever => exact ⟨_, fun b h => by cases h⟩
  | wait d a ih => exact ⟨_, fun b h => by cases h; exact ih⟩
  | touch change next ih => exact ⟨_, fun b h => by cases h; exact ih _ _⟩
  | cancel a ih => exact ⟨_, fun b h => by cases h; exact ih⟩

theorem later_wellFounded : WellFounded (@Later σ α) := next_wellFounded.transGen

/-- What an activity waits to do is a later part of it. -/
theorem later_settle {now : Nat} {a next : Activity σ α} {w : σ} {c : Bool} {d : Nat}
    (h : (a.settle now w c).1 = .waiting d next) : Later next a := by
  induction a generalizing w c with
  | finish o => simp [settle] at h
  | forever => simp [settle] at h
  | wait n a ih =>
    cases n with
    | zero => exact .tail (ih h) (.wait 0 a)
    | succ n =>
      simp only [settle, Stop.waiting.injEq] at h
      obtain ⟨-, rfl⟩ := h
      exact .single (.wait _ _)
  | touch change f ih => exact .tail (ih _ _ h) (.touch change f now w)
  | cancel a ih => exact .tail (ih h) (.cancel a)

end Activity

end VulnScan.Execution
