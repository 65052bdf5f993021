import VulnScan.Time.Span

/-! # Backoff

Between failed attempts a client waits, each time longer by the same factor but never longer than
a limit. The delay is computed in seconds in double precision: the factor, at least one, to the
power of the attempts so far, at most 32, times the first delay; then the smaller of this and the
limit. A delay too long for a span of time does not exist.
-/

set_option autoImplicit false

namespace VulnScan.LanguageServer

open Number (Binary Format)

/-- The growth of delays between attempts. -/
structure Backoff where
  initial : Time.Span
  multiplier : Binary
  limit : Time.Span

namespace Backoff

/-- Half a second, doubled with every attempt, at most ten seconds. -/
def standard : Backoff := ⟨.ofMillis 500, Format.double.ofNat 2, .ofSeconds 10⟩

/-- What the first delay is multiplied with after `retry` more failures. -/
def factor (b : Backoff) (retry : Nat) : Binary :=
  Format.double.pow (b.multiplier.maximum (Format.double.ofNat 1)) (min retry 32)

/-- The delay after the failed attempt number `retry`, counted from zero. -/
def delay? (b : Backoff) (retry : Nat) : Option Time.Span :=
  let wanted := Format.double.mul b.initial.seconds (b.factor retry)
  Time.Span.ofSeconds? (wanted.minimum b.limit.seconds)

/-- What is said about a delay that does not exist. -/
def tooLong : String :=
  "cannot convert float seconds to Duration: value is either too big or NaN"

end Backoff

end VulnScan.LanguageServer
