import VulnScan.Finding.Severity
import VulnScan.Net.Service
import VulnScan.Number.Single
import VulnScan.Time.Timestamp

/-! # Reports of detectors

A detector reports, for one service and one vulnerability, whether the service is vulnerable.
-/

set_option autoImplicit false

namespace VulnScan.Finding

/-- The name of a vulnerability in the namespace of its publisher. -/
structure VulnerabilityId where
  publisher : String
  value : String
deriving DecidableEq, Inhabited

/-- How an identifier is shown. -/
def VulnerabilityId.text (i : VulnerabilityId) : String := i.publisher ++ ":" ++ i.value

/-- An advisory about a vulnerability. -/
structure Vulnerability where
  mainId : VulnerabilityId
  severity : Severity := .unspecified
  title : String
  description : String := ""
  recommendation : String := ""
  relatedIds : List VulnerabilityId := []
  score : Option Number.Single := none
deriving DecidableEq, Inhabited

/-- What a detector found out. -/
inductive Verdict where
  | unspecified
  | safe
  | present
  | verified
deriving DecidableEq, Inhabited

namespace Verdict

/-- All verdicts. -/
def all : List Verdict := [.unspecified, .safe, .present, .verified]

/-- The name of a verdict. -/
def name : Verdict → String
  | .unspecified => "UNSPECIFIED"
  | .safe => "SAFE"
  | .present => "VULNERABILITY_PRESENT"
  | .verified => "VULNERABILITY_VERIFIED"

/-- Whether the vulnerability is there. -/
def isFinding : Verdict → Bool
  | .present | .verified => true
  | .unspecified | .safe => false

end Verdict

/-- One verdict about one service. -/
structure Report where
  host : Net.Host
  service : Net.Service
  time : Time.Timestamp
  verdict : Verdict
  vulnerability : Vulnerability
deriving DecidableEq, Inhabited

/-- A vulnerability on a service. -/
structure Exposure where
  host : Net.Host
  service : Net.Service
  vulnerability : Vulnerability
deriving DecidableEq, Inhabited

/-- What a report is about, whatever its verdict. -/
def Report.exposure (r : Report) : Exposure := ⟨r.host, r.service, r.vulnerability⟩

/-- What is found according to reports, in their order. -/
def exposuresOf (reports : List Report) : List Exposure :=
  (reports.filter fun r => r.verdict.isFinding).map Report.exposure

end VulnScan.Finding
