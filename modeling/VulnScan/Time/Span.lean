import VulnScan.Number.Binary
import VulnScan.Number.Word
import VulnScan.Text.Numeral

/-!
# Spans of time

A span counts whole nanoseconds and is shorter than `2 ^ 64` seconds. The text of a span in a
message uses the largest unit that keeps a digit before the point (`Span.text`); stopwatches show
seconds with three places (`Span.secondsText`); delays are computed in double precision
(`Span.seconds`, `Span.ofSeconds?`). The scheduler counts ticks of one millisecond, and a span
that ends between two ticks ends at the later one (`Span.ticks`).
-/

set_option autoImplicit false

namespace VulnScan.Time

/-- The nanoseconds of a second. -/
abbrev nanosPerSecond : Nat := 1000000000

/-- The first number of nanoseconds that is too long for a span. -/
abbrev spanBound : Nat := Number.longWordBound * nanosPerSecond

/-- A span of time. -/
structure Span where
  nanos : Nat
  nanos_lt : nanos < spanBound := by decide
deriving DecidableEq

namespace Span

/-- No time at all. -/
def zero : Span := ⟨0, by decide⟩

instance : Inhabited Span := ⟨zero⟩

/-- The longest span. -/
def longest : Span := ⟨spanBound - 1, by decide⟩

/-- The span of `n` nanoseconds, or the longest one if that is too long. -/
def ofNanos (n : Nat) : Span := if h : n < spanBound then ⟨n, h⟩ else longest

/-- The span of `n` nanoseconds, unless that is too long. -/
def ofNanos? (n : Nat) : Option Span := if h : n < spanBound then some ⟨n, h⟩ else none

/-- The span of `n` seconds. -/
def ofSeconds (n : Nat) : Span := ofNanos (n * nanosPerSecond)

/-- The span of `n` milliseconds. -/
def ofMillis (n : Nat) : Span := ofNanos (n * 1000000)

/-- The whole seconds of a span. -/
def secs (d : Span) : Nat := d.nanos / nanosPerSecond

/-- The nanoseconds of a span beyond its whole seconds. -/
def subNanos (d : Span) : Nat := d.nanos % nanosPerSecond

/-- The nanoseconds in one tick of the scheduler. -/
abbrev nanosPerTick : Nat := 1000000

/-- The first tick at which the span is over, counted from its start. -/
def ticks (d : Span) : Nat := (d.nanos + (nanosPerTick - 1)) / nanosPerTick

/-- The span of `n` ticks. -/
def ofTicks (n : Nat) : Span := ofNanos (n * nanosPerTick)

/-- `whole` and the decimal places of `part / unit`, without zeros at the end. -/
def withPlaces (whole part unit : Nat) : List Char :=
  let places := (Text.padded ((Text.digits unit).length - 1) part).reverse.dropWhile (· == '0')
  if part = 0 then Text.digits whole else Text.digits whole ++ '.' :: places.reverse

/-- The span in seconds, milliseconds, microseconds or nanoseconds: the largest of these units of
which the span holds at least one. -/
def text (d : Span) : String :=
  String.ofList <|
    if d.nanos < 1000 then Text.digits d.nanos ++ ['n', 's']
    else if d.nanos < 1000000 then
      withPlaces (d.nanos / 1000) (d.nanos % 1000) 1000 ++ ['µ', 's']
    else if d.nanos < nanosPerSecond then
      withPlaces (d.nanos / 1000000) (d.nanos % 1000000) 1000000 ++ ['m', 's']
    else withPlaces d.secs d.subNanos nanosPerSecond ++ ['s']

/-- The span in seconds, in double precision: the whole seconds plus the nanoseconds over a
thousand million, each rounded. -/
def seconds (d : Span) : Number.Binary :=
  let f := Number.Format.double
  f.addMagnitudes (f.ofNat d.secs) (f.div (f.ofNat d.subNanos) (f.ofNat nanosPerSecond))

/-- The span nearest to a number of seconds, a tie going to the even nanosecond; there is none for
a number that is negative, too large or undefined. -/
def ofSeconds? : Number.Binary → Option Span
  | .finite negative m e =>
    let n := Number.roundDiv (m * Nat.pow 2 e.toNat * nanosPerSecond) (Nat.pow 2 (-e).toNat)
    if negative ∧ m ≠ 0 then none else ofNanos? n
  | _ => none

/-- The seconds of a span with three places and the unit; the number in double precision is
rounded, and a tie goes to the even last place. -/
def secondsText (d : Span) : String :=
  match d.seconds with
  | .finite _ m e =>
    let n := Number.roundDiv (m * Nat.pow 2 e.toNat * 1000) (Nat.pow 2 (-e).toNat)
    String.ofList (Text.digits (n / 1000) ++ '.' :: Text.padded 3 (n % 1000) ++ ['s'])
  | _ => "infs"

/-! ## Small facts -/

theorem ofNanos_nanos (d : Span) : ofNanos d.nanos = d := by
  simp [ofNanos, d.nanos_lt]

theorem nanos_ofNanos {n : Nat} (h : n < spanBound) : (ofNanos n).nanos = n := by
  simp [ofNanos, h]

theorem secs_mul_add (d : Span) : d.secs * nanosPerSecond + d.subNanos = d.nanos := by
  simp only [secs, subNanos, nanosPerSecond]
  omega

theorem ticks_ofMillis {n : Nat} (h : n < Number.longWordBound) : (ofMillis n).ticks = n := by
  have hn : n * 1000000 < spanBound := by
    simp only [spanBound, nanosPerSecond]
    omega
  simp only [ticks, ofMillis, nanos_ofNanos hn, nanosPerTick]
  omega

example : (ofMillis 250).text = "250ms" := by decide +kernel
example : (ofNanos 1500000000).text = "1.5s" := by decide +kernel
example : (ofNanos 1500).text = "1.5µs" := by decide +kernel
example : (ofMillis 2500).secondsText = "2.500s" := by decide +kernel

end Span

end VulnScan.Time
