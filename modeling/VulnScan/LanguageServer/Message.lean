import VulnScan.Finding.Report
import VulnScan.Plugin.Definition

/-! # Messages between scanner and language server

A language server hosts detectors of its own. The scanner asks three things of it: whether it is
serving, which plugins it offers, and to run some of them against a host. The answers are a
health state, definitions of plugins and reports.
-/

set_option autoImplicit false

namespace VulnScan.LanguageServer

/-- The state of health that a server reports. -/
inductive Health where
  | serving
  | notServing
deriving DecidableEq, Inhabited

namespace Health

/-- All states of health. -/
def all : List Health := [.serving, .notServing]

/-- The name of a state. -/
def name : Health → String
  | .serving => "SERVING"
  | .notServing => "NOT_SERVING"

end Health

/-- A request to run plugins against a host. -/
structure RunRequest where
  host : Net.Host
  plugins : List Plugin.Matched := []
deriving DecidableEq, Inhabited

/-- What the scanner asks a server. -/
inductive Request where
  | health
  | list
  | run (r : RunRequest)
deriving DecidableEq, Inhabited

namespace Request

/-- The name of the operation that is asked for. -/
def operation : Request → String
  | .health => "health_check"
  | .list => "list_plugins"
  | .run _ => "run"

/-- The path of a request below the address of a server. -/
def path (r : Request) : String := "/plugin_service/" ++ r.operation

end Request

end VulnScan.LanguageServer
