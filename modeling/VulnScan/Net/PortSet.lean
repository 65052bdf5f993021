import VulnScan.Net.Endpoint

/-! # Sets of ports

An operator names the ports to scan as single ports and ranges between commas. Blanks around them
do not matter. The set is listed in increasing order, each port once.
-/

set_option autoImplicit false

namespace VulnScan.Net

/-- The ports from a first to a last one. -/
structure PortRange where
  first : Port
  last : Port
  first_le_last : first ≤ last
deriving DecidableEq

/-- Why a text names no ports. -/
inductive PortFault where
  | port (text : String)
  | range (first last : Port)
deriving DecidableEq

/-- The wording of a fault. -/
def PortFault.message : PortFault → String
  | .port text => "Invalid port: " ++ text
  | .range first last =>
    "Invalid range: " ++ Text.decimal first ++ " > " ++ Text.decimal last

namespace PortRange

/-- The ports of a range, in order. -/
def ports (r : PortRange) : List Port :=
  List.ofFn fun i : Fin (r.last - r.first + 1 : Nat) =>
    ⟨r.first + i, by have := r.first_le_last; omega⟩

/-- Reads a port; `shown` is the text that a message cites. -/
def readPort (shown s : List Char) : Except PortFault Port :=
  match Text.parseBelow 65536 s with
  | some p => .ok p
  | none => .error (.port (String.ofList shown))

/-- Reads a port or a range. -/
def read (s : List Char) : Except PortFault PortRange := do
  let s := Text.trim s
  match Text.splitFirst '-' s with
  | some (first, last) =>
    let first ← readPort first (Text.trim first)
    let last ← readPort last (Text.trim last)
    if h : first ≤ last then return ⟨first, last, h⟩
    else .error (.range first last)
  | none =>
    let port ← readPort s s
    return ⟨port, port, Nat.le_refl _⟩

end PortRange

/-- The ports of all ranges: they are sorted, and those that are equal then stand side by side. -/
def portsOf (ranges : List PortRange) : List Port :=
  ((ranges.flatMap PortRange.ports).mergeSort fun p q => p ≤ q).eraseReps

/-- Reads a list of ports and ranges. -/
def readPorts (spec : String) : Except PortFault (List Port) := do
  let ranges ← (Text.splitAll ',' spec.toList).mapM PortRange.read
  return portsOf ranges

end VulnScan.Net
