import VulnScan.Execution.Activity
import VulnScan.Execution.Course

/-! # An activity on its own

An activity can also run outside of every pool: then nothing limits its time, and when the scan is
cancelled while it waits, it is given up. A wait that is over at the tick of a signal comes before
the signal.
-/

set_option autoImplicit false

namespace VulnScan.Execution

variable {σ α : Type}

/-- Runs an activity on its own; there is no outcome if it is given up. -/
def Activity.alone : Activity σ α → Session σ (Option (Outcome α))
  | .finish o, _, m => .reached (some o) m
  | .touch change next, signals, m =>
    (next m.now m.world).alone signals { m with world := change m.now m.world }
  | .cancel next, signals, m => next.alone signals { m with cancelled := true }
  | .wait 0 next, signals, m => next.alone signals m
  | .forever, signals, m =>
    if m.cancelled then .reached none m
    else match signals.first none with
      | some (.abandoned t) => .abandoned { m with now := max m.now t }
      | some (.cancelled t) => .reached none { m with now := max m.now t, cancelled := true }
      | none => .stuck m
  | .wait (d + 1) next, signals, m =>
    if m.cancelled then .reached none m
    else match signals.first (some (m.now + d)) with
      | some (.abandoned t) => .abandoned { m with now := max m.now t }
      | some (.cancelled t) => .reached none { m with now := max m.now t, cancelled := true }
      | none => next.alone signals { m with now := m.now + (d + 1) }

end VulnScan.Execution
