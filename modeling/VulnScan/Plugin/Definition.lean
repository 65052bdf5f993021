import VulnScan.Net.Service
import VulnScan.Number.Word

/-! # Definitions of plugins

A definition names a plugin and says to which targets it applies. Two plugins with the same
identifier are the same plugin.
-/

set_option autoImplicit false

namespace VulnScan.Plugin

/-- The role of a plugin in a scan. A `host` stands for the detectors of a language server. -/
inductive Role where
  | portScanner
  | fingerprinter
  | detector
  | host
deriving DecidableEq, Inhabited

namespace Role

/-- All roles. -/
def all : List Role := [.portScanner, .fingerprinter, .detector, .host]

/-- The name of a role. -/
def name : Role → String
  | .portScanner => "PORT_SCAN"
  | .fingerprinter => "SERVICE_FINGERPRINT"
  | .detector => "VULN_DETECTION"
  | .host => "REMOTE_VULN_DETECTION"

/-- Whether plugins of the role detect vulnerabilities. -/
def isDetector : Role → Bool
  | .detector | .host => true
  | .portScanner | .fingerprinter => false

end Role

/-- The operating systems a detector applies to. -/
structure SystemFilter where
  vendors : List String := []
  families : List String := []
  /-- The least accuracy of a guess that counts; zero accepts any guess. -/
  minAccuracy : Number.Word := 0
deriving DecidableEq, Inhabited

/-- The identity of a plugin. -/
structure Info where
  role : Role
  name : String
  author : String
  version : String
  description : String := ""
deriving DecidableEq, Inhabited

/-- The identity of a plugin and the targets it applies to. -/
structure Definition where
  role : Role
  name : String
  author : String
  version : String
  description : String := ""
  serviceNames : Option (List String) := none
  software : Option String := none
  forWeb : Bool := false
  systems : Option SystemFilter := none
  needsCallback : Bool := false
deriving DecidableEq, Inhabited

namespace Definition

/-- The definition of a plugin that a language server offers; it applies everywhere. -/
def ofInfo (i : Info) : Definition :=
  { role := i.role, name := i.name, author := i.author, version := i.version,
    description := i.description }

/-- The definition of a plugin that is made while the program runs. -/
def dynamic (role : Role) (name author : String) (forWeb needsCallback : Bool) : Definition :=
  { role, name, author, version := "1.0", forWeb, needsCallback }

/-- The identifier of a plugin. -/
def id (d : Definition) : String :=
  "/" ++ d.author ++ "/" ++ d.role.name ++ "/" ++ d.name ++ "/" ++ d.version

/-- Whether the plugin is limited to certain services. -/
def hasServiceFilters (d : Definition) : Bool :=
  d.serviceNames.isSome || d.software.isSome || d.forWeb

end Definition

/-- A plugin that a language server offers, and the services it is to run against. -/
structure Matched where
  plugin : Definition
  services : List Net.Service := []
deriving DecidableEq, Inhabited

end VulnScan.Plugin
