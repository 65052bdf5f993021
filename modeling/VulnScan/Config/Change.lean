import VulnScan.Config.Settings

/-! # Changes of settings

Settings can also be made by a program, one change after the other, starting from those that
nobody has set. Names of detectors and language servers add up; of all other changes to the same
setting the last one counts.
-/

set_option autoImplicit false

namespace VulnScan.Config

/-- A change of one setting. -/
inductive Change where
  | concurrency (n : Number.LongWord)
  | timeout (seconds : Number.LongWord)
  /-- One more detector that may run. -/
  | select (name : String)
  /-- One more detector that may not run. -/
  | reject (name : String)
  | callback (isThere : Bool)
  /-- One more language server. -/
  | server (address : String)
  | logLevel (level : String)
deriving DecidableEq

/-- The settings after a change. -/
def Settings.change (s : Settings) : Change → Settings
  | .concurrency n => { s with execution := { s.execution with concurrency := n } }
  | .timeout seconds => { s with execution := { s.execution with timeout := some seconds } }
  | .select name =>
    { s with detectors := { s.detectors with included := s.detectors.included ++ [name] } }
  | .reject name =>
    { s with detectors := { s.detectors with excluded := s.detectors.excluded ++ [name] } }
  | .callback isThere => { s with hasCallback := isThere }
  | .server address => { s with servers := s.servers ++ [{ address }] }
  | .logLevel level => { s with logging := { s.logging with level } }

/-- The settings after changes to those that nobody has set. -/
def Settings.ofChanges (cs : List Change) : Settings := cs.foldl Settings.change {}

end VulnScan.Config
