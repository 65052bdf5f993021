import VulnScan.Finding.Report
import VulnScan.Time.Span

/-! # Results of a scan

The outcome of one scan of one target: a status with a message, the findings, every report of a
detector that succeeded, and the services that were known.
-/

set_option autoImplicit false

namespace VulnScan.Finding

/-- How a scan ended; `partly` means that some detectors failed. -/
inductive Status where
  | succeeded
  | partly
  | failed
deriving DecidableEq, Inhabited

namespace Status

/-- All ways a scan can end. -/
def all : List Status := [.succeeded, .partly, .failed]

/-- The name of a status. -/
def name : Status → String
  | .succeeded => "SUCCEEDED"
  | .partly => "PARTIALLY_SUCCEEDED"
  | .failed => "FAILED"

end Status

/-- The outcome of one scan. -/
structure Results where
  status : Status
  message : String := ""
  start : Time.Timestamp
  duration : Time.Span
  findings : List Exposure := []
  reports : List Report := []
  survey : Option Net.Survey := none
deriving DecidableEq, Inhabited

namespace Results

/-- A scan that failed. -/
def failure (message : String) (start : Time.Timestamp) (duration : Time.Span) : Results :=
  { status := .failed, message, start, duration }

/-- Whether the scan succeeded in full. -/
def isSucceeded (r : Results) : Bool := r.status = .succeeded

end Results

end VulnScan.Finding
