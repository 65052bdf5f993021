import VulnScan.Net.Endpoint
import VulnScan.Number.Word
import VulnScan.Text.Ascii

/-! # Services

A service is something that listens on the target. Its name is what a port scanner or a
fingerprinter called it, and empty if nobody knows. Some names are those of web services, which
are reached with or without encryption.
-/

set_option autoImplicit false

namespace VulnScan.Net

/-- The transport layer protocol of a service. -/
inductive Transport where
  | unspecified
  | tcp
  | udp
  | sctp
deriving DecidableEq, Inhabited

namespace Transport

/-- All protocols. -/
def all : List Transport := [.unspecified, .tcp, .udp, .sctp]

/-- The name of a protocol. -/
def name : Transport → String
  | .unspecified => "UNSPECIFIED"
  | .tcp => "TCP"
  | .udp => "UDP"
  | .sctp => "SCTP"

end Transport

/-- Software that was identified behind a service. -/
structure Software where
  name : String
  version : Option String := none
deriving DecidableEq, Inhabited

/-- A service that listens on the target. -/
structure Service where
  endpoint : Endpoint
  transport : Transport := .unspecified
  name : String := ""
  software : Option Software := none
  banner : List String := []
  webRoot : Option String := none
deriving DecidableEq, Inhabited

/-- The names of web services, and whether they are reached without encryption. -/
def webNames : List (String × Bool) :=
  [("http", true), ("http-alt", true), ("http-proxy", true), ("https", false),
   ("radan-http", true), ("ssl/http", false), ("ssl/https", false)]

namespace Service

/-- The port of a service. -/
def port (s : Service) : Option Port := s.endpoint.port

/-- The name of the identified software, empty if there is none. -/
def softwareName (s : Service) : String := (s.software.map Software.name).getD ""

/-- The entry of the table of web services that has the name of the service. -/
def webEntry (s : Service) : Option (String × Bool) :=
  webNames.find? fun entry => Text.sameName entry.1 s.name

/-- Whether it is a web service. -/
def isWeb (s : Service) : Bool := s.webEntry.isSome

/-- Whether it is a web service that is reached without encryption. -/
def isPlainWeb (s : Service) : Bool := (s.webEntry.map Prod.snd).getD false

/-- How a service is shown. -/
def text (s : Service) : String :=
  let name := if s.name = "" then "unknown" else s.name
  match s.port with
  | some port => name ++ " (" ++ s.transport.name ++ ", port " ++ Text.decimal port ++ ")"
  | none => name ++ " (" ++ s.transport.name ++ ")"

end Service

/-- A guess at the operating system of the target; `accuracy` is a percentage. -/
structure SystemGuess where
  vendor : String := ""
  family : String := ""
  generation : String := ""
  accuracy : Number.Word := 0
deriving DecidableEq, Inhabited

/-- What is known about the scanned host. -/
structure Host where
  endpoints : List Endpoint := []
  systems : List SystemGuess := []
deriving DecidableEq, Inhabited

/-- A host and the services that were found on it. -/
structure Survey where
  host : Host
  services : List Service
deriving DecidableEq, Inhabited

end VulnScan.Net
