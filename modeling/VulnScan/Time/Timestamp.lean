import VulnScan.Time.Calendar
import VulnScan.Time.Span
import VulnScan.Text.Split

/-!
# Timestamps

A timestamp is a moment in universal time: a day, a second of the day and nanoseconds. A leap
second is kept as the second before it with a thousand million nanoseconds more. In civil time it
follows a second 59, but a timestamp may hold one after any second. The years run from -262143 to
262142.

Adding a span steps over days; it fails only beyond the last year. The distance between two
timestamps counts a leap second that is one of them, as civil time does.
-/

set_option autoImplicit false

namespace VulnScan.Time

/-- The first and the last year. -/
abbrev firstYear : Int := -262143

@[inherit_doc firstYear]
abbrev lastYear : Int := 262142

/-- The seconds of a day. -/
abbrev secondsPerDay : Nat := 86400

/-- The number of the first day of the first year. -/
def firstDay : Int := yearStart firstYear

/-- The number of the last day of the last year. -/
def lastDay : Int := yearStart (lastYear + 1) - 1

/-- Whether the parts of a timestamp fit together. -/
def isMoment (day : Int) (second nano : Nat) : Bool :=
  firstDay ≤ day && day ≤ lastDay && second < secondsPerDay && nano < 2 * nanosPerSecond

/-- A moment in universal time. -/
structure Timestamp where
  day : Int
  second : Nat
  nano : Nat
  isMoment : isMoment day second nano = true
deriving DecidableEq

namespace Timestamp

/-- The timestamp with the given parts, if they fit together. -/
def of? (day : Int) (second nano : Nat) : Option Timestamp :=
  if h : Time.isMoment day second nano = true then some ⟨day, second, nano, h⟩ else none

/-- The start of the year 1970. -/
def epoch : Timestamp := ⟨719162, 0, 0, by decide⟩

instance : Inhabited Timestamp := ⟨epoch⟩

/-- The longest span by which a timestamp is moved: the greatest signed number of 64 bits, in
milliseconds. -/
def greatestStep : Nat := 0x7FFFFFFFFFFFFFFF * 1000000

/-- The timestamp `d` later; none beyond the last year. A leap second is left at its end. -/
def add? (t : Timestamp) (d : Span) : Option Timestamp :=
  if d.nanos < nanosPerSecond ∧ nanosPerSecond ≤ t.nano ∧ t.nano + d.nanos < 2 * nanosPerSecond then
    of? t.day t.second (t.nano + d.nanos)
  else
    let nano := (if nanosPerSecond ≤ t.nano then t.nano - nanosPerSecond else t.nano) + d.subNanos
    let second := t.second + d.secs + nano / nanosPerSecond
    of? (t.day + second / secondsPerDay) (second % secondsPerDay) (nano % nanosPerSecond)

/-- How a clock is moved on: a span longer than the greatest step is no step at all. -/
def advance? (t : Timestamp) (d : Span) : Option Timestamp :=
  if greatestStep < d.nanos then some t else t.add? d

/-- The nanoseconds from `start` to `t`, negative if `t` is earlier. -/
def nanosSince (t start : Timestamp) : Int :=
  let leap : Int :=
    if start.second < t.second ∧ nanosPerSecond ≤ start.nano then 1
    else if t.second < start.second ∧ nanosPerSecond ≤ t.nano then -1
    else 0
  ((t.day - start.day) * secondsPerDay + (t.second - start.second) + leap) * nanosPerSecond
    + (t.nano - start.nano)

/-- The span from `start` to `t`; no time at all if `t` is earlier. -/
def since (t start : Timestamp) : Span := Span.ofNanos (t.nanosSince start).toNat

/-- The date a timestamp lies on. -/
def date (t : Timestamp) : Date := dateOfDay t.day

/-- The year, with at least four digits; outside 0 to 9999 it has a sign. -/
def yearText (y : Int) : List Char :=
  if 0 ≤ y ∧ y ≤ 9999 then Text.padded 4 y.toNat
  else (if y < 0 then '-' else '+') :: Text.padded 4 y.natAbs

/-- The nanoseconds after a point, in the fewest of 0, 3, 6 or 9 places that are exact. -/
def nanoText (n : Nat) : List Char :=
  if n = 0 then []
  else if n % 1000000 = 0 then '.' :: Text.padded 3 (n / 1000000)
  else if n % 1000 = 0 then '.' :: Text.padded 6 (n / 1000)
  else '.' :: Text.padded 9 n

/-- The timestamp as date, `T`, time and `Z`; a leap second is shown as the second after the one it
is kept as, which is second 60 after a second 59. -/
def text (t : Timestamp) : List Char :=
  let d := t.date
  let leap := t.nano / nanosPerSecond
  yearText d.year ++ '-' :: Text.padded 2 d.month ++ '-' :: Text.padded 2 d.day
    ++ 'T' :: Text.padded 2 (t.second / 3600) ++ ':' :: Text.padded 2 (t.second / 60 % 60)
    ++ ':' :: Text.padded 2 (t.second % 60 + leap) ++ nanoText (t.nano % nanosPerSecond) ++ ['Z']

end Timestamp

end VulnScan.Time
