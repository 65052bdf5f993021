import VulnScan.LanguageServer.Http
import VulnScan.Net.KnownPorts

/-! # The network

What a scan needs of the network: to look up the addresses of a host name, to find out which ports
of an address accept connections, and to post messages to language servers. Each of these takes
its time in the world of the scan.
-/

set_option autoImplicit false

namespace VulnScan.Scan

open Execution (Activity)

/-- An attempt to connect to ports. -/
structure Probe where
  ports : List Net.Port := Net.commonPorts
  /-- How long a connection may take. -/
  patience : Time.Span := .ofMillis 1500
  /-- How many connections are tried at the same time. -/
  concurrency : Nat := 100
deriving DecidableEq

/-- The network, in a world of type `σ`. -/
structure Network (σ : Type) where
  /-- The addresses of a host name, or why there are none. -/
  lookup : String → Activity σ (Except String (List Net.Address))
  /-- The ports of an address that accept a connection, in any order. -/
  accepting : Net.Address → Probe → Activity σ (List Net.Port)
  send : LanguageServer.Post → Time.Span → Activity σ LanguageServer.Delivery

namespace Network

/-- What is said about a name without an address. -/
def unknownName : String :=
  "failed to lookup address information: Name or service not known"

/-- The addresses of a name that is an address, or that of the host itself. -/
def localAddresses (name : String) : Except String (List Net.Address) :=
  match Net.Address.ofText? name with
  | some a => .ok [a]
  | none => if name = "localhost" then .ok [.short 127 0 0 1] else .error unknownName

/-- A host that is cut off: it looks up no names but those of addresses and its own, no port
accepts a connection, and no message is delivered. -/
def isolated {σ : Type} : Network σ where
  lookup name := .value (localAddresses name)
  accepting _ _ := .value []
  send _ _ := .value (.unreachable "connection refused")

end Network

end VulnScan.Scan
