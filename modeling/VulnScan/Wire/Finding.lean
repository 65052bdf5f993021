import VulnScan.Finding.Results
import VulnScan.Time.Timestamp.Reader
import VulnScan.Wire.Net

/-! # Reports and results in JSON -/

set_option autoImplicit false

namespace VulnScan.Wire

open Json

/-- Timestamps are written as text. -/
def timestamp : Codec Time.Timestamp :=
  .worded "an RFC 3339 formatted date and time string" (fun t => String.ofList t.text) fun s =>
    (Time.Timestamp.read s.toList).mapError Time.TimestampFault.message

/-- The seconds of a span and the nanoseconds beyond them. -/
def spanParts (d : Time.Span) : Number.LongWord × Number.Word :=
  (Fin.ofNat _ d.secs, Fin.ofNat _ d.subNanos)

/-- The span of seconds and nanoseconds. Nanoseconds of a second or more are carried over. -/
def spanOf (parts : Number.LongWord × Number.Word) : Except String Time.Span :=
  let nanos : Nat := parts.1 * Time.nanosPerSecond + parts.2
  if h : nanos < Time.spanBound then .ok ⟨nanos, h⟩
  else .error "overflow deserializing Duration"

/-- Spans of time are written as seconds and nanoseconds. -/
def span : Codec Time.Span :=
  .checked
    (.strictRecord "Duration"
      [.required "secs" longWord, .required "nanos" word]
      (fun d : Number.LongWord × Number.Word => (d.1, d.2, ()))
      fun (secs, nanos, ()) => (secs, nanos))
    spanParts spanOf

/-- Levels of severity. -/
def severity : Codec Finding.Severity := .choice Finding.Severity.all Finding.Severity.name

/-- Verdicts of detectors. -/
def verdict : Codec Finding.Verdict := .choice Finding.Verdict.all Finding.Verdict.name

/-- Identifiers of vulnerabilities. -/
def vulnerabilityId : Codec Finding.VulnerabilityId :=
  .record "VulnerabilityId" [.required "publisher" .string, .required "value" .string]
    (fun i => (i.publisher, i.value, ())) fun (publisher, value, ()) => ⟨publisher, value⟩

/-- Advisories. -/
def vulnerability : Codec Finding.Vulnerability :=
  .record "Vulnerability"
    [.required "main_id" vulnerabilityId, .defaulted "severity" severity .unspecified,
     .required "title" .string, .defaulted "description" .string "",
     .defaulted "recommendation" .string "", .listed "related_ids" vulnerabilityId,
     .optional "cvss_v3_score" .single]
    (fun v => (v.mainId, v.severity, v.title, v.description, v.recommendation, v.relatedIds,
      v.score, ()))
    fun (mainId, severity, title, description, recommendation, relatedIds, score, ()) =>
      ⟨mainId, severity, title, description, recommendation, relatedIds, score⟩

/-- Reports of detectors. -/
def report : Codec Finding.Report :=
  .record "DetectionReport"
    [.required "target_info" host, .required "network_service" service,
     .required "detection_timestamp" timestamp, .required "detection_status" verdict,
     .required "vulnerability" vulnerability]
    (fun r => (r.host, r.service, r.time, r.verdict, r.vulnerability, ()))
    fun (host, service, time, verdict, vulnerability, ()) =>
      ⟨host, service, time, verdict, vulnerability⟩

/-- The reports of one detector. -/
def reports : Codec (List Finding.Report) :=
  .record "DetectionReportList" [.defaulted "detection_reports" (.list report) []]
    (fun rs => (rs, ())) fun (rs, ()) => rs

/-- What is found. -/
def exposure : Codec Finding.Exposure :=
  .record "ScanFinding"
    [.required "target_info" host, .required "network_service" service,
     .required "vulnerability" vulnerability]
    (fun f => (f.host, f.service, f.vulnerability, ()))
    fun (host, service, vulnerability, ()) => ⟨host, service, vulnerability⟩

/-- How a scan ended. -/
def status : Codec Finding.Status := .choice Finding.Status.all Finding.Status.name

/-- Results of scans. -/
def results : Codec Finding.Results :=
  .record "ScanResults"
    [.required "scan_status" status, .worded "status_message",
     .required "scan_start_timestamp" timestamp, .required "scan_duration" span,
     .defaulted "scan_findings" (.list exposure) [],
     .defaulted "full_detection_reports" reports [],
     .optional "reconnaissance_report" survey]
    (fun r => (r.status, r.message, r.start, r.duration, r.findings, r.reports, r.survey, ()))
    fun (status, message, start, duration, findings, reports, survey, ()) =>
      ⟨status, message, start, duration, findings, reports, survey⟩

end VulnScan.Wire
