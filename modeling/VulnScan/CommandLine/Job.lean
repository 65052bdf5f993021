import VulnScan.CommandLine.Arguments
import VulnScan.Config.Environment
import VulnScan.LanguageServer.Registration
import VulnScan.Net.PortSet
import VulnScan.Scan.PortScanner
import VulnScan.Scan.Workflow

/-! # The job that a command line asks for

The scanner either writes down the advisories of its detectors or scans one target. Settings come
from the configuration file, from the environment and from the command line, and the latter wins.
The plugins are the built-in port scanner and one for every language server.
-/

set_option autoImplicit false

namespace VulnScan.CommandLine

open Execution (Session)

/-- Why there is no job. -/
inductive Refusal where
  | noTarget
  | severalTargets
  | ports (f : Net.PortFault)
  /-- The settings ask for too many slots. -/
  | slots
deriving DecidableEq

/-- The wording of a refusal. -/
def Refusal.message : Refusal → String
  | .noTarget => "One of --ip-v4-target, --ip-v6-target or --hostname-target is required"
  | .severalTargets =>
    "Exactly one of --ip-v4-target, --ip-v6-target or --hostname-target is allowed"
  | .ports f => "Invalid --ports: " ++ f.message
  | .slots => Execution.Pool.tooMany

namespace Arguments

/-- The target that is asked for. -/
def target (a : Arguments) : Except Refusal Net.Endpoint :=
  match a.shortTarget, a.longTarget, a.hostnameTarget with
  | some address, none, none | none, some address, none => .ok (.ofAddress address)
  | none, none, some name =>
    let name := Text.trimmed name
    if name = "" then .error .severalTargets else .ok (.ofHostname name)
  | none, none, none => .error .noTarget
  | _, _, _ => .error .severalTargets

/-- How ports are to be scanned. -/
def probe (a : Arguments) : Except Refusal Scan.Probe :=
  match a.ports with
  | none => .ok {}
  | some spec =>
    match Net.readPorts spec with
    | .ok ports => .ok { ports }
    | .error f => .error (.ports f)

/-- The settings, where the command line overrides them. A list without names is none. -/
def override (a : Arguments) (s : Config.Settings) : Config.Settings :=
  { s with
    detectors :=
      { included := if a.included = [] then s.detectors.included else a.included
        excluded := if a.excluded = [] then s.detectors.excluded else a.excluded }
    logging :=
      { level := a.logLevel.getD s.logging.level
        format := a.logFormat.getD s.logging.format } }

/-- The settings under a command line and an environment; `file` is what the configuration file
says, if there is one. -/
def settings (a : Arguments) (vars : String → Option String) (file : Option Config.Settings) :
    Config.Settings :=
  a.override ((file.getD {}).override vars)

end Arguments

variable {σ : Type}

/-- The plugins that are asked for: the built-in port scanner and one for every language
server. -/
def registry (net : Scan.Network σ) (a : Arguments) (s : Config.Settings) :
    Except Refusal (Plugin.Registry σ) := do
  let probe ← a.probe
  let ports := Plugin.Registry.empty.register (Scan.PortScanner.entry net probe)
  return LanguageServer.registerServers net.send s.servers ports

/-- What the scanner is to do. -/
inductive Job (σ : Type) where
  /-- To write advisories to a file. -/
  | advise (path : String) (advisories : List Finding.Vulnerability)
  /-- To scan a target, and to write the results to a file if there is one. -/
  | scan (target : Net.Endpoint) (w : Scan.Workflow σ) (path : Option String)

/-- The job that a command line asks for under given settings. -/
def job (net : Scan.Network σ) (runtime : Scan.Runtime σ) (a : Arguments) (s : Config.Settings) :
    Except Refusal (Job σ) := do
  let plugins ← registry net a s
  match a.advisoriesFile with
  | some path => return .advise path plugins.advisories
  | none =>
    let target ← a.target
    match Scan.Workflow.ofSettings? plugins runtime s with
    | some w => return .scan target w a.resultsFile
    | none => .error .slots

/-- What a job ends with: the file that is to be written, and whether that counts as a success. -/
structure Conclusion where
  file : Option (String × String)
  isSuccess : Bool
deriving DecidableEq, Inhabited

/-- The conclusion of a scan. -/
def Conclusion.ofResults (path : Option String) (r : Finding.Results) : Conclusion :=
  ⟨path.map fun p => (p, Wire.results.pretty r), r.status ≠ .failed⟩

/-- Does a job. -/
def Job.run : Job σ → Session σ Conclusion
  | .advise path advisories =>
    .value ⟨some (path, (Json.Codec.list Wire.vulnerability).pretty advisories), true⟩
  | .scan target w path => do
    let (_, results) ← w.run target
    return .ofResults path results

end VulnScan.CommandLine
