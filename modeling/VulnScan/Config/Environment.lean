import VulnScan.Config.Settings
import VulnScan.Text.Blank

/-! # Settings from the environment

Some settings can be overridden by variables of the environment. A number or a truth value that
cannot be read is ignored; a list is cut at commas, and blanks around its items and empty items do
not count.
-/

set_option autoImplicit false

namespace VulnScan.Config

/-- The items of a list between commas. -/
def splitList (s : String) : List String :=
  ((Text.splitAll ',' s.toList).map Text.trim).filterMap fun item =>
    if item.isEmpty then none else some (String.ofList item)

/-- Reads a truth value. -/
def truth? (s : String) : Option Bool :=
  if s = "true" then some true else if s = "false" then some false else none

/-- The variables that count. -/
def variableNames : List String :=
  ["RIPTIDE_MAX_CONCURRENCY", "RIPTIDE_PLUGIN_TIMEOUT_SECONDS", "RIPTIDE_DETECTORS_INCLUDE",
   "RIPTIDE_DETECTORS_EXCLUDE", "RIPTIDE_CALLBACK_SERVER_ENABLED", "RIPTIDE_LOG_LEVEL",
   "RIPTIDE_LOG_FORMAT"]

/-- The settings, where the environment overrides them. -/
def Settings.override (vars : String → Option String) (s : Settings) : Settings :=
  let word (name : String) : Option Number.LongWord :=
    (vars name).bind fun v => Text.parseBelow Number.longWordBound v.toList
  { s with
    execution :=
      { concurrency := (word "RIPTIDE_MAX_CONCURRENCY").getD s.execution.concurrency
        timeout := (word "RIPTIDE_PLUGIN_TIMEOUT_SECONDS").or s.execution.timeout }
    detectors :=
      { included := ((vars "RIPTIDE_DETECTORS_INCLUDE").map splitList).getD s.detectors.included
        excluded := ((vars "RIPTIDE_DETECTORS_EXCLUDE").map splitList).getD s.detectors.excluded }
    hasCallback := ((vars "RIPTIDE_CALLBACK_SERVER_ENABLED").bind truth?).getD s.hasCallback
    logging :=
      { level := (vars "RIPTIDE_LOG_LEVEL").getD s.logging.level
        format := (vars "RIPTIDE_LOG_FORMAT").getD s.logging.format } }

end VulnScan.Config
