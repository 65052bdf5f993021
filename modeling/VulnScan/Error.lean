import VulnScan.Net.Endpoint
import VulnScan.Json.Value
import VulnScan.Time.Span

/-! # Errors of a scan

An error says what went wrong, where it matters with the texts of what led to it, nearest first.
A call to a language server fails in ways of its own; such a failure is the cause of the error
that the scan reports.
-/

set_option autoImplicit false

namespace VulnScan

/-- What can go wrong in a scan. -/
inductive Error where
  /-- The scan as a whole cannot go on. -/
  | workflow (message : String)
  | cancelled (reason : String)
  /-- A failure of a single plugin, or in its name. -/
  | plugin (message : String) (causes : List String)
  | languageServer (message : String) (causes : List String)
  | transport (detail : String)
  | target (detail : String)
  | configuration (detail : String)
  | io (detail : String)
  | json (detail : String)
  | inner (detail : String)
deriving DecidableEq, Inhabited

namespace Error

/-- The code of an error. -/
def code : Error → String
  | .workflow _ => "SCANNING_WORKFLOW_ERROR"
  | .cancelled _ => "SCAN_CANCELLED"
  | .plugin _ _ => "PLUGIN_EXECUTION_ERROR"
  | .languageServer _ _ => "LANGUAGE_SERVER_ERROR"
  | .transport _ => "TRANSPORT_ERROR"
  | .target _ => "INVALID_TARGET"
  | .configuration _ => "CONFIG_ERROR"
  | .io _ => "IO_ERROR"
  | .json _ => "JSON_ERROR"
  | .inner _ => "INTERNAL_ERROR"

/-- The text of an error. -/
def message : Error → String
  | .workflow message => message
  | .cancelled reason => "Scan cancelled: " ++ reason
  | .plugin message _ => message
  | .languageServer message _ => message
  | .transport detail => "Transport error: " ++ detail
  | .target detail => "Invalid target: " ++ detail
  | .configuration detail => "Configuration error: " ++ detail
  | .io detail => "IO error: " ++ detail
  | .json detail => "JSON error: " ++ detail
  | .inner detail => "Internal error: " ++ detail

/-- What led to an error, nearest first. -/
def causes : Error → List String
  | .plugin _ causes => causes
  | .languageServer _ causes => causes
  | .io detail => [detail]
  | .json detail => [detail]
  | _ => []

/-- The text of an error and of everything that led to it. -/
def lineage (e : Error) : List String := e.message :: e.causes

/-- Whether the error is already blamed on a plugin. -/
def isPlugin : Error → Bool
  | .plugin _ _ => true
  | _ => false

/-- The error of a target that was refused. -/
def ofRefusal : Net.Endpoint.Refusal → Error
  | .empty => .target "empty target"
  | .unusable name => .target name

end Error

/-- How a call to a language server can fail. -/
inductive CallError where
  | http (detail : String)
  /-- The server answered with a status that is no success. -/
  | api (status : Nat) (body : String)
  | json (fault : Json.Fault)
  | deadline (limit : Time.Span)
  | tooLarge (size limit : Nat)
deriving DecidableEq

namespace CallError

/-- The text of a failure. Where the fault of a JSON text has no text of its own, its kind is
given. -/
def message : CallError → String
  | .http detail => "HTTP request failed: " ++ detail
  | .api status body => "Language server error (" ++ Text.decimal status ++ "): " ++ body
  | .json fault => "JSON serialization error: " ++ fault.text
  | .deadline limit => "Deadline of " ++ limit.text ++ " exceeded"
  | .tooLarge size limit =>
    "Response of " ++ Text.decimal size ++ " bytes exceeds the " ++ Text.decimal limit
      ++ " byte limit"

/-- The text of a failure and of what led to it. -/
def lineage : CallError → List String
  | .http detail => [CallError.message (.http detail), detail]
  | .json fault => [CallError.message (.json fault), fault.text]
  | e => [e.message]

end CallError

end VulnScan
