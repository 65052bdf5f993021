import VulnScan.Plugin.Registry
import VulnScan.Scan.Network

/-! # The built-in port scanner

The built-in port scanner tries to connect to ports of its target. Every port that accepts the
connection is reported as a service, under the name of the service that usually listens there.
-/

set_option autoImplicit false

namespace VulnScan.Scan.PortScanner

open Execution (Activity)

/-- The definition of the port scanner. -/
def definition : Plugin.Definition :=
  { role := .portScanner, name := "TcpConnectPortScanner", author := "riptide", version := "0.1"
    description := "TCP connect port scanner" }

/-- The error of a target with neither address nor host name. -/
def noAddress : Error := .target "target has no address"

/-- The error of a host name without addresses. -/
def unresolved (name : String) : Error := .target ("could not resolve " ++ name)

variable {σ : Type}

/-- The address of a target: its own, or the first of its host name. -/
def resolve (net : Network σ) (target : Net.Endpoint) : Activity σ Net.Address :=
  match target.address, target.hostname with
  | some a, _ => .value a
  | none, none => .fault noAddress
  | none, some name => do
    match ← net.lookup name with
    | .error detail => .fault (.io detail)
    | .ok [] => .fault (unresolved name)
    | .ok (a :: _) => return a

/-- The service behind an open port of a target. -/
def serviceAt (target : Net.Endpoint) (a : Net.Address) (p : Net.Port) : Net.Service :=
  { endpoint := ⟨some a, target.hostname, some p⟩, transport := .tcp, name := Net.knownService p }

/-- The survey of a target, given the ports that accept connections. -/
def survey (target : Net.Endpoint) (a : Net.Address) (p : Probe) (accepting : List Net.Port) :
    Net.Survey :=
  let isOpen (port : Net.Port) : Bool := accepting.contains port
  ⟨⟨[target], []⟩, ((p.ports.filter isOpen).mergeSort).map (serviceAt target a)⟩

/-- Scans a target. -/
def scan (net : Network σ) (p : Probe) (target : Net.Endpoint) : Activity σ Net.Survey := do
  let a ← resolve net target
  return survey target a p (← net.accepting a p)

/-- The port scanner as it is registered. -/
def entry (net : Network σ) (p : Probe) : Plugin.Entry σ :=
  ⟨definition, .portScanner (scan net p)⟩

end VulnScan.Scan.PortScanner
