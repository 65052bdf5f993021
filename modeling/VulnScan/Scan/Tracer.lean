import VulnScan.Plugin.Selection
import VulnScan.Time.Stopwatch

/-! # The trace of a scan

A tracer follows one scan through its stages. They are entered one after the other, each once; any
other order is refused and changes nothing. It measures the time in every stage and remembers
which plugins were selected for it. A scan that fails is moved to the end from any stage.
-/

set_option autoImplicit false

namespace VulnScan.Scan

/-- The stages of a scan. -/
inductive Stage where
  | start
  | portScanning
  | fingerprinting
  | detecting
  | done
deriving DecidableEq, Inhabited

/-- The name of a stage. -/
def Stage.name : Stage → String
  | .start => "START"
  | .portScanning => "PORT_SCANNING"
  | .fingerprinting => "SERVICE_FINGERPRINTING"
  | .detecting => "VULNERABILITY_DETECTING"
  | .done => "DONE"

/-- A plugin that was selected, and the services it was selected for. -/
structure Selected where
  id : String
  services : List Net.Service
deriving DecidableEq, Inhabited

/-- What a tracer keeps of a selected plugin. -/
def Selected.of {β : Type} (c : Plugin.Chosen β) : Selected := ⟨c.plugin.id, c.services⟩

/-- The line about a selected plugin. -/
def Selected.text (s : Selected) : String :=
  if s.services.isEmpty then s.id
  else s.id ++ " was selected for the following services: "
    ++ Text.joinTexts ", " (s.services.map Net.Service.text)

/-- What a tracer knows about one phase of the scan. -/
structure Phase where
  watch : Time.Stopwatch := .fresh
  selected : List Selected := []
deriving DecidableEq, Inhabited

namespace Phase

/-- The phase begins, with the given plugins. -/
def begin (now : Nat) (selected : List Selected) (p : Phase) : Phase :=
  ⟨p.watch.start now, selected⟩

/-- The phase is over. -/
def finish (now : Nat) (p : Phase) : Phase := { p with watch := p.watch.stop now }

/-- What is said about a phase. -/
def text (now : Nat) (name : String) (p : Phase) : String :=
  "  " ++ name ++ " phase (" ++ p.watch.display now ++ ") with "
    ++ Text.decimal p.selected.length ++ " plugin(s):\n    "
    ++ Text.joinTexts "\n    " (p.selected.map Selected.text)

end Phase

/-- The state of a tracer. -/
structure Tracer where
  stage : Stage := .start
  portScanning : Phase := {}
  fingerprinting : Phase := {}
  detecting : Phase := {}
deriving DecidableEq, Inhabited

/-- Why a tracer refuses. -/
inductive Misuse where
  | illegalStep (stage : Stage)
  | unfinished
deriving DecidableEq

/-- The wording of a refusal. -/
def Misuse.message : Misuse → String
  | .illegalStep stage => "illegal execution stage transition from " ++ stage.name
  | .unfinished => "execution trace requested before the workflow is done"

namespace Tracer

/-- The tracer of a scan that has not begun. -/
def fresh : Tracer := {}

/-- Whether the scan is over. -/
def isDone (t : Tracer) : Bool := t.stage = .done

/-- Goes on only from the given stage. -/
def expect (stage : Stage) (t next : Tracer) : Except Misuse Tracer :=
  if t.stage = stage then .ok next else .error (.illegalStep t.stage)

/-- Port scanning begins. -/
def startPortScanning (now : Nat) (selected : List Selected) (t : Tracer) :
    Except Misuse Tracer :=
  t.expect .start
    { t with stage := .portScanning, portScanning := t.portScanning.begin now selected }

/-- Fingerprinting begins, and port scanning is over. -/
def startFingerprinting (now : Nat) (selected : List Selected) (t : Tracer) :
    Except Misuse Tracer :=
  t.expect .portScanning
    { t with
      stage := .fingerprinting
      portScanning := t.portScanning.finish now
      fingerprinting := t.fingerprinting.begin now selected }

/-- Detecting begins, and fingerprinting is over. -/
def startDetecting (now : Nat) (selected : List Selected) (t : Tracer) : Except Misuse Tracer :=
  t.expect .fingerprinting
    { t with
      stage := .detecting
      fingerprinting := t.fingerprinting.finish now
      detecting := t.detecting.begin now selected }

/-- The scan is over, and so is detecting. -/
def setDone (now : Nat) (t : Tracer) : Except Misuse Tracer :=
  t.expect .detecting { t with stage := .done, detecting := t.detecting.finish now }

/-- The scan is over, whatever its stage. -/
def forceDone (now : Nat) (t : Tracer) : Tracer :=
  { stage := .done
    portScanning := t.portScanning.finish now
    fingerprinting := t.fingerprinting.finish now
    detecting := t.detecting.finish now }

/-- The trace of a scan that is over and had a number of findings. -/
def text (now findings : Nat) (t : Tracer) : Except Misuse String :=
  if t.isDone then
    .ok (Text.joinTexts "\n"
      ["Riptide scanning workflow traces:",
       t.portScanning.text now "Port scanning",
       t.fingerprinting.text now "Service fingerprinting",
       t.detecting.text now "Vuln detection",
       "  # of detected vulnerability: " ++ Text.decimal findings ++ "."])
  else .error .unfinished

end Tracer

end VulnScan.Scan
