/-! # Courses of runs

A run starts at a moment and leads somewhere, unless something from outside breaks into it.
Several runs, one after the other, make up a session. A cancellation that was called for during one
run and has not come by its end still comes in a later one.
-/

set_option autoImplicit false

namespace VulnScan.Execution

/-- The time, the world and whether the scan was cancelled. -/
structure Moment (σ : Type) where
  now : Nat
  world : σ
  cancelled : Bool

/-- What may break into a run from outside: the time at which the scan is cancelled, and the time
at which nobody waits for it any more. -/
structure Signals where
  cancelAt : Option Nat := none
  abandonAt : Option Nat := none

/-- The signals of a run that starts at `now`: it is cancelled and abandoned so many ticks later,
unless a cancellation that was called for before comes earlier. -/
def Signals.startingAt (now : Nat) (pending cancel abandon : Option Nat) : Signals where
  cancelAt := pending.merge min (cancel.map (now + ·))
  abandonAt := abandon.map (now + ·)

/-- The moment some ticks later, if nothing happens but a cancellation that was called for. -/
def Moment.rest {σ : Type} (m : Moment σ) (ticks : Nat) (pending : Option Nat) : Moment σ :=
  let now := m.now + ticks
  { m with now, cancelled := m.cancelled || pending.any (· < now) }

/-- What breaks first into a wait that would last until `limit`, if it has an end. -/
inductive Interruption where
  | abandoned (time : Nat)
  | cancelled (time : Nat)

/-- Whether `time` is no later than `limit`. -/
def isBy (limit : Option Nat) (time : Nat) : Bool :=
  match limit with
  | some l => time ≤ l
  | none => true

/-- The signal that comes first, if one comes by `limit`; of two at the same time the abandoning
one. -/
def Signals.first (s : Signals) (limit : Option Nat) : Option Interruption :=
  match s.abandonAt.filter (isBy limit), s.cancelAt.filter (isBy limit) with
  | some a, some c => if a ≤ c then some (.abandoned a) else some (.cancelled c)
  | some a, none => some (.abandoned a)
  | none, some c => some (.cancelled c)
  | none, none => none

/-- Where a run leads: to a result, to its being abandoned, to a standstill in which nothing is
left to wait for, or to a collapse with a message. -/
inductive Course (σ α : Type) where
  | reached (a : α) (m : Moment σ)
  | abandoned (m : Moment σ)
  | stuck (m : Moment σ)
  | collapsed (message : String) (m : Moment σ)

/-- A run that may start at any moment, under given signals. -/
def Session (σ α : Type) : Type := Signals → Moment σ → Course σ α

namespace Session

variable {σ α β : Type}

/-- Does nothing. -/
def value (a : α) : Session σ α := fun _ m => .reached a m

/-- Goes on where a run has led. -/
def andThen (s : Session σ α) (f : α → Session σ β) : Session σ β := fun signals m =>
  match s signals m with
  | .reached a m => f a signals m
  | .abandoned m => .abandoned m
  | .stuck m => .stuck m
  | .collapsed message m => .collapsed message m

instance : Monad (Session σ) where
  pure := value
  bind := andThen

/-- The present moment. -/
def moment : Session σ (Moment σ) := fun _ m => .reached m m

/-- Breaks off. -/
def collapse (message : String) : Session σ α := fun _ m => .collapsed message m

end Session

end VulnScan.Execution
