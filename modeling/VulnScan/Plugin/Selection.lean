import VulnScan.Plugin.Matching
import VulnScan.Plugin.Registry

/-! # Selection of plugins for a scan

For each phase of a scan the plugins that apply are selected: one port scanner, at most one
fingerprinter per service, and every detector that is admitted by name, whose needs are met and
that applies to at least one service. Detectors hosted by a language server are selected by their
proxy, which is always taken, with all services: it asks its server for the plugins and queues
each with the services that it applies to.
-/

set_option autoImplicit false

namespace VulnScan.Plugin

open Execution (Activity)

/-- Which detectors may run. -/
structure Selection where
  /-- The names of the only detectors to run; none means all. -/
  included : List String := []
  excluded : List String := []
  /-- Whether there is a callback server. -/
  hasCallback : Bool := false
deriving DecidableEq, Inhabited

namespace Selection

/-- Whether a detector is admitted by its name. -/
def admitsName (s : Selection) (name : String) : Bool :=
  (s.included.isEmpty || s.included.contains name) && !s.excluded.contains name

/-- Whether a detector may run. -/
def admits (s : Selection) (d : Definition) : Bool :=
  (s.hasCallback || !d.needsCallback) && s.admitsName d.name

end Selection

/-- A plugin that was selected, and the services it was selected for. -/
structure Chosen (β : Type) where
  plugin : Definition
  body : β
  services : List Net.Service

namespace Registry

variable {σ : Type}

/-- The port scanners; they act on the whole target and so carry no services. -/
def portScanners (r : Registry σ) : List (Chosen (Net.Endpoint → Activity σ Net.Survey)) :=
  (r.ofRole .portScanner).filterMap fun e =>
    match e.body with
    | .portScanner scan => some ⟨e.definition, scan, []⟩
    | _ => none

/-- The fingerprinter for a service: the first whose filters admit its name. -/
def fingerprinterFor (r : Registry σ) (s : Net.Service) :
    Option (Chosen (Net.Host → Net.Service → Activity σ (List Net.Service))) :=
  (r.ofRole .fingerprinter).findSome? fun e =>
    if e.definition.admitsName s then
      match e.body with
      | .fingerprinter identify => some ⟨e.definition, identify, [s]⟩
      | _ => none
    else none

/-- The detectors that may run, whatever the services. -/
def candidates (r : Registry σ) (s : Selection) : List (Entry σ) :=
  r.entries.filter fun e => e.definition.role.isDetector && s.admits e.definition

/-- The proxy with the given plugins queued, each with the services of the survey that it applies
to. -/
def queueAll (p : LanguageServer.Proxy σ) (survey : Net.Survey) (ds : List Definition) :
    LanguageServer.Proxy σ :=
  ds.foldl (fun p d => p.add ⟨d, d.servicesIn survey⟩) p

/-- The proxy with the plugins of its server queued. If the server does not tell them, nothing is
queued. -/
def queueHosted (p : LanguageServer.Proxy σ) (survey : Net.Survey) :
    Activity σ (LanguageServer.Proxy σ) := do
  match ← p.plugins.tried with
  | .ok ds => return queueAll p survey ds
  | .error _ => return p

/-- The detector that a candidate contributes, if it applies. -/
def chooseDetector (survey : Net.Survey) (e : Entry σ) :
    Activity σ (Option (Chosen (Detector σ))) :=
  match e.body with
  | .detector d =>
    let services := e.definition.servicesIn survey
    .value (if services.isEmpty then none else some ⟨e.definition, d, services⟩)
  | .host p => do
    let p ← queueHosted p survey
    return some ⟨e.definition, ⟨fun host _ => p.detect host, []⟩, survey.services⟩
  | _ => .value none

/-- The detectors that candidates contribute, one after the other. -/
def chooseDetectors (survey : Net.Survey) : List (Entry σ) →
    Activity σ (List (Chosen (Detector σ)))
  | [] => .value []
  | e :: es => do
    let c ← chooseDetector survey e
    let cs ← chooseDetectors survey es
    return c.toList ++ cs

/-- The detectors for a survey. -/
def detectorsFor (r : Registry σ) (s : Selection) (survey : Net.Survey) :
    Activity σ (List (Chosen (Detector σ))) :=
  chooseDetectors survey (r.candidates s)

/-- The detectors of all registered plugins, whatever the selection. -/
def allDetectors (r : Registry σ) : List (Detector σ) :=
  (r.entries.filter fun e => e.definition.role.isDetector).filterMap fun e =>
    match e.body with
    | .detector d => some d
    | .host p => some ⟨fun host _ => p.detect host, []⟩
    | _ => none

/-- The advisories of all registered detectors. -/
def advisories (r : Registry σ) : List Finding.Vulnerability :=
  r.allDetectors.flatMap Detector.advisories

end Registry

end VulnScan.Plugin
