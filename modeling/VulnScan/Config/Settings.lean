import VulnScan.Net.Endpoint
import VulnScan.Number.Word
import VulnScan.Text.Ascii
import VulnScan.Time.Span

/-! # Settings of the scanner

The settings, with the values that they have if nobody sets them: how many plugins run at the same
time and for how long, which detectors may run, the language servers, and what is logged.
-/

set_option autoImplicit false

namespace VulnScan.Config

/-- How plugins are executed. -/
structure Execution where
  concurrency : Number.LongWord := 32
  /-- The seconds that a plugin may run; none means without limit. -/
  timeout : Option Number.LongWord := none
deriving DecidableEq, Inhabited

/-- Which detectors may run, by name; no names to include means all. -/
structure Detectors where
  included : List String := []
  excluded : List String := []
deriving DecidableEq, Inhabited

/-- A language server. -/
structure Server where
  /-- Host and port, or an address with a scheme. -/
  address : String
  /-- The command that launches it on this host. -/
  command : Option String := none
  /-- The seconds that a call may take. -/
  deadline : Number.LongWord := 120
  /-- The attempts to find it serving. -/
  attempts : Number.Word := 3
  /-- The octets that an answer may have. -/
  inboundLimit : Number.LongWord := 10485760
  /-- How it is called in logs. -/
  logId : Option String := none
deriving DecidableEq, Inhabited

/-- What is logged, and how. -/
structure Logging where
  level : String := "info"
  format : String := "pretty"
deriving DecidableEq, Inhabited

/-- All settings. -/
structure Settings where
  execution : Execution := {}
  detectors : Detectors := {}
  /-- Whether there is a callback server. -/
  hasCallback : Bool := false
  servers : List Server := []
  logging : Logging := {}
deriving DecidableEq, Inhabited

/-- The time that a plugin may run. -/
def Execution.limit (e : Execution) : Option Time.Span := e.timeout.map fun n => .ofSeconds n

namespace Server

/-- The address without slashes at its end. -/
def trimmedAddress (s : Server) : List Char := Text.dropEnd '/' s.address.toList

/-- The scheme that is assumed, and its secure sister. -/
def schemes : List (List Char) := [['h', 't', 't', 'p', ':', '/', '/'],
  ['h', 't', 't', 'p', 's', ':', '/', '/']]

/-- The address that calls are made to: with a scheme. -/
def baseUrl (s : Server) : String :=
  let a := s.trimmedAddress
  if schemes.any fun scheme => (Text.after scheme a).isSome then String.ofList a
  else String.ofList (['h', 't', 't', 'p', ':', '/', '/'] ++ a)

/-- The host and the port of the address: what is left without scheme and path. -/
def authority (s : Server) : List Char :=
  let a := s.trimmedAddress
  let a := ((Text.splitAtMark [':', '/', '/'] a).map Prod.snd).getD a
  ((Text.splitFirst '/' a).map Prod.fst).getD a

/-- The port of the address. -/
def port (s : Server) : Option Net.Port :=
  (Text.splitLast ':' s.authority).bind fun p => Text.parseBelow 65536 p.2

/-- The time that a call may take. -/
def callLimit (s : Server) : Time.Span := .ofSeconds s.deadline

end Server

/-- The forms of log lines. -/
inductive LogFormat where
  | pretty
  | json
  | compact
deriving DecidableEq, Inhabited

namespace LogFormat

/-- The form with a name; unknown names mean the pretty one. -/
def ofName (name : String) : LogFormat :=
  match Text.lowered name with
  | "json" => .json
  | "compact" => .compact
  | _ => .pretty

/-- How a form is shown. -/
def text : LogFormat → String
  | .pretty => "Pretty"
  | .json => "Json"
  | .compact => "Compact"

end LogFormat

/-- What is logged and what a log line tells. -/
structure LogStyle where
  level : String := "info"
  format : LogFormat := .pretty
  withSpans : Bool := false
  withFile : Bool := false
  withTarget : Bool := true
  withThreadIds : Bool := false
deriving DecidableEq, Inhabited

/-- The style that the settings ask for. -/
def LogStyle.ofLogging (l : Logging) : LogStyle :=
  { level := l.level, format := .ofName l.format }

end VulnScan.Config
