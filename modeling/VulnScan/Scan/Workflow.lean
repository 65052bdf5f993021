import VulnScan.Config.Settings
import VulnScan.Execution.Alone
import VulnScan.Execution.Record
import VulnScan.Finding.Results
import VulnScan.Scan.Tracer

/-! # The course of a scan

A scan has three phases: the first port scanner is run against the target, then a fingerprinter
against every service that has one, then all detectors that apply. All plugins of a phase run on
one pool, and the next phase begins when all are decided. A port scanner that fails ends the scan;
a fingerprinter that fails leaves its service as the port scanner saw it; a detector that fails is
named in the results.

A scan that is cancelled fails, unless every detector has succeeded by then.
-/

set_option autoImplicit false

namespace VulnScan.Scan

open Execution (Activity Session Record Task Pool)
open Plugin (Chosen)

/-- What scans have from the program that runs them, in a world of type `σ`. -/
structure Runtime (σ : Type) where
  /-- The date that the clocks of the world show. -/
  clock : σ → Time.Timestamp
  /-- What is reported of the execution of a selected plugin that breaks off with a message. -/
  crash : Selected → String → String

/-- What is needed for scans in a world of type `σ`. -/
structure Workflow (σ : Type) extends Runtime σ where
  registry : Plugin.Registry σ
  selection : Plugin.Selection
  pool : Pool

/-- What is needed for scans under given settings, unless they ask for too many slots. -/
def Workflow.ofSettings? {σ : Type} (registry : Plugin.Registry σ) (runtime : Runtime σ)
    (s : Config.Settings) : Option (Workflow σ) :=
  (Pool.ofSlots? s.execution.concurrency).map fun pool =>
    { runtime with
      registry
      selection := ⟨s.detectors.included, s.detectors.excluded, s.hasCallback⟩
      pool := { pool with deadline := s.execution.limit } }

/-- The error of a scan that was cancelled. -/
def cancellation : Error := .cancelled "scan cancelled by caller"

/-- The error of a scan without a port scanner. -/
def noPortScanner : Error := .workflow "At least one PortScanner plugin is required"

/-- The nanoseconds of a number of ticks. -/
def instant (now : Nat) : Nat := now * Time.Span.nanosPerTick

variable {σ : Type}

/-- What a tracer does at the present moment; if it refuses, the scan breaks off. -/
def traced (step : (now : Nat) → Except Misuse Tracer) : Session σ Tracer := do
  let m ← Session.moment
  match step (instant m.now) with
  | .ok t => return t
  | .error misuse => Session.collapse misuse.message

/-- A chosen plugin that is to do something. -/
def Workflow.task {α β : Type} (w : Workflow σ) (c : Chosen β) (activity : Activity σ α) :
    Task σ α :=
  ⟨c.plugin, c.services, activity, w.crash (.of c)⟩

@[simp] theorem Workflow.task_plugin {α β : Type} (w : Workflow σ) (c : Chosen β)
    (activity : Activity σ α) : (w.task c activity).plugin = c.plugin := rfl

@[simp] theorem Workflow.task_services {α β : Type} (w : Workflow σ) (c : Chosen β)
    (activity : Activity σ α) : (w.task c activity).services = c.services := rfl

@[simp] theorem Workflow.task_activity {α β : Type} (w : Workflow σ) (c : Chosen β)
    (activity : Activity σ α) : (w.task c activity).activity = activity := rfl

/-- Whether the scan has been cancelled. -/
def isCancelled : Session σ Bool := do return (← Session.moment).cancelled

namespace Workflow

/-- The first phase: the survey of the port scanner. -/
def scanPorts (w : Workflow σ) (target : Net.Endpoint) :
    Session σ (Tracer × Except Error Net.Survey) := do
  match w.registry.portScanners with
  | [] => return (.fresh, .error noPortScanner)
  | c :: _ =>
    let t ← traced fun now => Tracer.fresh.startPortScanning now [Selected.of c]
    let records ← w.pool.execute [w.task c (c.body target)]
    match records with
    | [r] => return (t, r.result)
    | _ => return (t, .error noPortScanner)

/-- The services after fingerprinting, from the records of the fingerprinters. -/
def identified (records : List (Record (List Net.Service))) : List Net.Service :=
  records.flatMap fun r =>
    match r.result with
    | .ok services => services
    | .error _ => r.services

/-- The second phase: the survey with all services as well known as they can be. Those without a
fingerprinter come first. -/
def fingerprint (w : Workflow σ) (t : Tracer) (survey : Net.Survey) :
    Session σ (Tracer × Net.Survey) := do
  let kept := survey.services.filter fun s => (w.registry.fingerprinterFor s).isNone
  let chosen := survey.services.filterMap fun s =>
    (w.registry.fingerprinterFor s).map fun c => (c, s)
  let t ← traced fun now => t.startFingerprinting now (chosen.map fun c => Selected.of c.1)
  let records ← w.pool.execute <| chosen.map fun c => w.task c.1 (c.1.body survey.host c.2)
  return (t, ⟨survey.host, kept ++ identified records⟩)

/-- The third phase: the records of the detectors, unless the scan is cancelled before they are
selected. -/
def detect (w : Workflow σ) (t : Tracer) (survey : Net.Survey) :
    Session σ (Tracer × Except Error (List (Record (List Finding.Report)))) := do
  if ← isCancelled then return (t, .error cancellation)
  else
    match ← (w.registry.detectorsFor w.selection survey).alone with
    | none => return (t, .error cancellation)
    | some (.fault e) => return (t, .error e)
    | some (.collapse message) => Session.collapse message
    | some (.value chosen) =>
      let t ← traced fun now => t.startDetecting now (chosen.map Selected.of)
      let records ← w.pool.execute <|
        chosen.map fun c => w.task c (c.body.detect survey.host c.services)
      return (t, .ok records)

/-- What all phases lead to: the survey and the records of the detectors. -/
abbrev Outcome : Type := Except Error (Net.Survey × List (Record (List Finding.Report)))

/-- The phases after port scanning. -/
def afterPorts (w : Workflow σ) (t : Tracer) (survey : Net.Survey) :
    Session σ (Tracer × Outcome) := do
  if ← isCancelled then return (t, .error cancellation)
  else
    let (t, survey) ← w.fingerprint t survey
    if ← isCancelled then return (t, .error cancellation)
    else
      match ← w.detect t survey with
      | (t, .error e) => return (t, .error e)
      | (t, .ok records) =>
        if !records.all Record.isSucceeded && (← isCancelled) then
          return (t, .error cancellation)
        else
          let t ← traced t.setDone
          return (t, .ok (survey, records))

/-- All phases of a scan. -/
def phases (w : Workflow σ) (target : Net.Endpoint) : Session σ (Tracer × Outcome) := do
  match ← w.scanPorts target with
  | (t, .error e) => return (t, .error (if ← isCancelled then cancellation else e))
  | (t, .ok survey) => w.afterPorts t survey

end Workflow

/-- The results of a scan whose detectors are all decided. -/
def conclude (survey : Net.Survey) (records : List (Record (List Finding.Report)))
    (start : Time.Timestamp) (duration : Time.Span) : Finding.Results :=
  let reports := records.flatMap fun r =>
    match r.result with
    | .ok reports => reports
    | .error _ => []
  let failed := (records.filter fun r => !r.isSucceeded).map fun r => r.plugin.id
  let (status, message) :=
    if failed.isEmpty then (.succeeded, "")
    else if failed.length = records.length then (.failed, "All VulnDetectors failed.")
    else (.partly, "Failed plugins:\n" ++ Text.joinTexts "\n" failed)
  { status, message, start, duration, findings := Finding.exposuresOf reports, reports,
    survey := some survey }

/-- Scans a target: the results, and the trace of the scan. -/
def Workflow.run (w : Workflow σ) (target : Net.Endpoint) :
    Session σ (Tracer × Finding.Results) := do
  let start := w.clock (← Session.moment).world
  let (t, outcome) ← w.phases target
  let m ← Session.moment
  let duration := (w.clock m.world).since start
  match outcome with
  | .ok (survey, records) => return (t, conclude survey records start duration)
  | .error e => return (t.forceDone (instant m.now), .failure e.message start duration)

end VulnScan.Scan
