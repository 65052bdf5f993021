import VulnScan.Text.Split

/-! # Severity of vulnerabilities

The levels of severity, from one that was not assessed to one that calls for immediate action.
-/

set_option autoImplicit false

namespace VulnScan.Finding

/-- How severe a vulnerability is. -/
inductive Severity where
  | unspecified
  | minimal
  | low
  | medium
  | high
  | critical
deriving DecidableEq, Inhabited

namespace Severity

/-- All levels, in increasing order. -/
def all : List Severity := [.unspecified, .minimal, .low, .medium, .high, .critical]

/-- The place of a level in the order. -/
def rank : Severity → Nat
  | .unspecified => 0
  | .minimal => 1
  | .low => 2
  | .medium => 3
  | .high => 4
  | .critical => 5

/-- The name of a level in messages between programs. -/
def name : Severity → String
  | .unspecified => "UNSPECIFIED"
  | .minimal => "MINIMAL"
  | .low => "LOW"
  | .medium => "MEDIUM"
  | .high => "HIGH"
  | .critical => "CRITICAL"

/-- How a level is shown to people. -/
def text : Severity → String
  | .unspecified => "Unspecified"
  | .minimal => "Minimal"
  | .low => "Low"
  | .medium => "Medium"
  | .high => "High"
  | .critical => "Critical"

/-- The levels in increasing order. -/
def sorted (levels : List Severity) : List Severity :=
  levels.mergeSort fun a b => a.rank ≤ b.rank

end Severity

end VulnScan.Finding
