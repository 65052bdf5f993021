import VulnScan.Time.Span

/-!
# Stopwatches

A stopwatch adds up the time during which it was running. Moments are read off a clock that only
moves forward, in nanoseconds. Starting a running stopwatch and stopping a stopped one change
nothing.
-/

set_option autoImplicit false

namespace VulnScan.Time

/-- A stopwatch: when the current interval began, if one is open, and the nanoseconds of the
closed ones. -/
structure Stopwatch where
  startedAt : Option Nat
  accumulated : Nat
deriving DecidableEq, Inhabited

namespace Stopwatch

/-- A stopwatch that has never run. -/
def fresh : Stopwatch := ⟨none, 0⟩

/-- Opens an interval, unless one is open. -/
def start (now : Nat) (s : Stopwatch) : Stopwatch :=
  { s with startedAt := some (s.startedAt.getD now) }

/-- Closes the open interval, if there is one. -/
def stop (now : Nat) (s : Stopwatch) : Stopwatch :=
  match s.startedAt with
  | some t => ⟨none, s.accumulated + (now - t)⟩
  | none => s

/-- Forgets all intervals. -/
def reset (_ : Stopwatch) : Stopwatch := fresh

/-- Whether an interval is open. -/
def isRunning (s : Stopwatch) : Bool := s.startedAt.isSome

/-- The nanoseconds in all intervals up to `now`. -/
def total (now : Nat) (s : Stopwatch) : Nat :=
  s.accumulated + match s.startedAt with
    | some t => now - t
    | none => 0

/-- The time in all intervals up to `now`. -/
def elapsed (now : Nat) (s : Stopwatch) : Span := Span.ofNanos (s.total now)

/-- The elapsed time as it is shown. -/
def display (now : Nat) (s : Stopwatch) : String := (s.elapsed now).secondsText

/-! ## Small facts -/

theorem start_of_isRunning {s : Stopwatch} {now : Nat} (h : s.isRunning = true) :
    s.start now = s := by
  cases s with
  | mk startedAt accumulated =>
    cases startedAt with
    | none => simp [isRunning] at h
    | some t => rfl

theorem stop_of_not_isRunning {s : Stopwatch} {now : Nat} (h : s.isRunning = false) :
    s.stop now = s := by
  cases s with
  | mk startedAt accumulated =>
    cases startedAt with
    | none => rfl
    | some t => simp [isRunning] at h

theorem total_stop (s : Stopwatch) (now later : Nat) :
    (s.stop now).total later = s.total now := by
  cases s with
  | mk startedAt accumulated => cases startedAt <;> simp [stop, total]

@[simp] theorem isRunning_start (s : Stopwatch) (now : Nat) : (s.start now).isRunning = true := rfl

@[simp] theorem isRunning_stop (s : Stopwatch) (now : Nat) : (s.stop now).isRunning = false := by
  cases s with
  | mk startedAt accumulated => cases startedAt <;> rfl

/-- A stopwatch that does not run shows the same at all times. -/
theorem total_eq_of_not_isRunning {s : Stopwatch} (h : s.isRunning = false) (now later : Nat) :
    s.total later = s.total now := by
  cases s with
  | mk startedAt accumulated =>
    cases startedAt with
    | none => rfl
    | some t => cases h

/-- A stopwatch that is started goes on from what it showed. -/
theorem total_start {s : Stopwatch} (h : s.isRunning = false) (now later : Nat) :
    (s.start now).total later = s.total now + (later - now) := by
  cases s with
  | mk startedAt accumulated =>
    cases startedAt with
    | none => rfl
    | some t => cases h

end Stopwatch

end VulnScan.Time
