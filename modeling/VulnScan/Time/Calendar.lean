/-!
# The calendar

Days are numbered from the first of January of the year 1, which is day 0; years before it are
zero and negative. `dayNumber` goes from a date to its number and `dateOfDay` back. A year has a
leap day if it is divisible by four, but not by a hundred unless by four hundred.
-/

set_option autoImplicit false

namespace VulnScan.Time

/-- A date of the calendar. -/
structure Date where
  year : Int
  month : Nat
  day : Nat
deriving DecidableEq, Inhabited

/-- Whether a year has 366 days. -/
def isLeapYear (y : Int) : Bool := y % 4 = 0 && (y % 100 ≠ 0 || y % 400 = 0)

/-- The lengths of the months of a year. -/
def monthLengths (y : Int) : List Nat :=
  [31, if isLeapYear y then 29 else 28, 31, 30, 31, 30, 31, 31, 30, 31, 30, 31]

/-- The days of a month, counted from 1; none outside the twelve months. -/
def monthLength (y : Int) (m : Nat) : Nat :=
  if m = 0 then 0 else (monthLengths y).getD (m - 1) 0

/-- The number of the first day of a year. -/
def yearStart (y : Int) : Int :=
  365 * (y - 1) + (y - 1) / 4 - (y - 1) / 100 + (y - 1) / 400

/-- The number of the first day of a month within its year. -/
def monthStart (y : Int) (m : Nat) : Nat := ((monthLengths y).take (m - 1)).foldl (· + ·) 0

/-- Whether the date exists. -/
def Date.isValid (d : Date) : Bool :=
  1 ≤ d.month && d.month ≤ 12 && 1 ≤ d.day && d.day ≤ monthLength d.year d.month

/-- The number of a date. -/
def dayNumber (d : Date) : Int := yearStart d.year + monthStart d.year d.month + (d.day - 1 : Nat)

/-- The year that holds day `n`: the average length of a year gives an estimate, which is at most
one year off. -/
def yearOfDay (n : Int) : Int :=
  let y := n * 400 / 146097 + 1
  if n < yearStart y then y - 1 else if yearStart (y + 1) ≤ n then y + 1 else y

/-- The month, counted from `m`, and the day of the month that day `k` falls on. -/
def monthAndDay (m : Nat) : List Nat → (k : Nat) → Nat × Nat
  | [], k => (m, k + 1)
  | l :: ls, k => if k < l then (m, k + 1) else monthAndDay (m + 1) ls (k - l)

/-- The date of day `n`. -/
def dateOfDay (n : Int) : Date :=
  let y := yearOfDay n
  let p := monthAndDay 1 (monthLengths y) (n - yearStart y).toNat
  ⟨y, p.1, p.2⟩

/-! ## Small facts -/

/-- The number of days of a year. -/
theorem yearStart_succ (y : Int) :
    yearStart (y + 1) = yearStart y + if isLeapYear y then 366 else 365 := by
  simp only [yearStart, isLeapYear]
  by_cases h4 : y % 4 = 0 <;> by_cases h100 : y % 100 = 0 <;> by_cases h400 : y % 400 = 0 <;>
    simp [h4, h100, h400] <;> omega

/-- Every day lies in the year that `yearOfDay` names. -/
theorem yearOfDay_bounds (n : Int) :
    yearStart (yearOfDay n) ≤ n ∧ n < yearStart (yearOfDay n + 1) := by
  simp only [yearOfDay]
  split
  · next h => simp only [yearStart] at h ⊢; omega
  · split
    · next h1 h2 => simp only [yearStart] at h1 h2 ⊢; omega
    · next h1 h2 => omega

example : dateOfDay (dayNumber ⟨2024, 2, 29⟩) = ⟨2024, 2, 29⟩ := by decide +kernel
example : dateOfDay (dayNumber ⟨-5, 12, 31⟩ + 1) = ⟨-4, 1, 1⟩ := by decide +kernel

end VulnScan.Time
