import VulnScan.Net.Address
import VulnScan.Text.Blank

/-! # Endpoints

An endpoint is where a service can be reached: an address, a host name or both, and perhaps a
port. An operator types a target as an address or as a host name without blanks and slashes.
-/

set_option autoImplicit false

namespace VulnScan.Net

/-- The number of a port. -/
abbrev Port := Fin 65536

/-- An address, a host name or both, with an optional port. -/
structure Endpoint where
  address : Option Address := none
  hostname : Option String := none
  port : Option Port := none
deriving DecidableEq, Inhabited

namespace Endpoint

/-- The endpoint of an address. -/
def ofAddress (a : Address) : Endpoint := ⟨some a, none, none⟩

/-- The endpoint of a host name. -/
def ofHostname (name : String) : Endpoint := ⟨none, some name, none⟩

/-- The same endpoint, bound to a port. -/
def withPort (e : Endpoint) (port : Port) : Endpoint := { e with port := some port }

/-- What to connect to: the address if it is known, else the host name. -/
def host (e : Endpoint) : Option String := (e.address.map Address.text).or e.hostname

/-- The host as it is shown; a long address stands in brackets before a port. -/
def hostText (e : Endpoint) : String :=
  match e.address, e.hostname with
  | some (.long gs), _ =>
    let a := (Address.long gs).text
    if e.port.isSome then "[" ++ a ++ "]" else a
  | some a, _ => a.text
  | none, some name => name
  | none, none => "<unknown>"

/-- How an endpoint is shown. -/
def text (e : Endpoint) : String :=
  match e.port with
  | some port => e.hostText ++ ":" ++ Text.decimal port
  | none => e.hostText

/-- Why a text is not a target. -/
inductive Refusal where
  | empty
  | unusable (name : String)
deriving DecidableEq

/-- Reads what an operator typed. -/
def read (s : String) : Except Refusal Endpoint :=
  let s := Text.trim s.toList
  if s = [] then .error .empty
  else match Address.read? s with
    | some a => .ok (ofAddress a)
    | none =>
      if s.any fun c => Text.isBlank c || c = '/' then .error (.unusable (String.ofList s))
      else .ok (ofHostname (String.ofList s))

end Endpoint

end VulnScan.Net
