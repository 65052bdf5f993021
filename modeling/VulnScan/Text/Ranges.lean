/-!
# Ranges of code points

A class of characters that no simple rule describes is kept as a table of closed ranges of code
points, in increasing order.
-/

set_option autoImplicit false

namespace VulnScan.Text

/-- Whether `n` lies in one of the ranges. -/
def inRanges (ranges : List (Nat × Nat)) (n : Nat) : Bool :=
  ranges.any fun r => r.1 ≤ n && n ≤ r.2

end VulnScan.Text
