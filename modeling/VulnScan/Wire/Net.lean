import VulnScan.Json.Choice
import VulnScan.Json.Record
import VulnScan.Net.Service

/-! # Hosts and services in JSON -/

set_option autoImplicit false

namespace VulnScan.Wire

open Json

/-- Addresses are written as text. -/
def address : Codec Net.Address :=
  .worded "IP address" Net.Address.text fun s =>
    match Net.Address.ofText? s with
    | some a => .ok a
    | none => .error "invalid IP address syntax"

/-- Numbers of ports. -/
def port : Codec Net.Port := .below 65536 "u16"

/-- Numbers of 32 bits. -/
def word : Codec Number.Word := .below Number.wordBound "u32"

/-- Numbers of 64 bits. -/
def longWord : Codec Number.LongWord := .below Number.longWordBound "u64"

/-- Endpoints. -/
def endpoint : Codec Net.Endpoint :=
  .record "NetworkEndpoint"
    [.optional "ip_address" address, .optional "hostname" .string, .optional "port" port]
    (fun e => (e.address, e.hostname, e.port, ()))
    fun (address, hostname, port, ()) => ⟨address, hostname, port⟩

/-- Targets of scans. -/
def target : Codec Net.Endpoint :=
  .record "ScanTarget" [.required "network_endpoint" endpoint]
    (fun e => (e, ())) fun (e, ()) => e

/-- Transport protocols. -/
def transport : Codec Net.Transport := .choice Net.Transport.all Net.Transport.name

/-- Identified software. -/
def software : Codec Net.Software :=
  .record "Software" [.required "name" .string, .optional "version" .string]
    (fun s => (s.name, s.version, ())) fun (name, version, ()) => ⟨name, version⟩

/-- Services. -/
def service : Codec Net.Service :=
  .record "NetworkService"
    [.required "network_endpoint" endpoint, .defaulted "transport_protocol" transport .unspecified,
     .defaulted "service_name" .string "", .optional "software" software,
     .listed "banner" .string, .optional "web_application_root" .string]
    (fun s => (s.endpoint, s.transport, s.name, s.software, s.banner, s.webRoot, ()))
    fun (endpoint, transport, name, software, banner, webRoot, ()) =>
      ⟨endpoint, transport, name, software, banner, webRoot⟩

/-- Guesses at operating systems. -/
def systemGuess : Codec Net.SystemGuess :=
  .record "OperatingSystemClass"
    [.defaulted "vendor" .string "", .defaulted "os_family" .string "",
     .defaulted "os_generation" .string "", .defaulted "accuracy" word 0]
    (fun g => (g.vendor, g.family, g.generation, g.accuracy, ()))
    fun (vendor, family, generation, accuracy, ()) => ⟨vendor, family, generation, accuracy⟩

/-- What is known about a host. -/
def host : Codec Net.Host :=
  .record "TargetInfo"
    [.defaulted "network_endpoints" (.list endpoint) [],
     .defaulted "operating_system_classes" (.list systemGuess) []]
    (fun h => (h.endpoints, h.systems, ())) fun (endpoints, systems, ()) => ⟨endpoints, systems⟩

/-- Surveys of a host, under a name for messages. -/
def surveyAs (title : String) : Codec Net.Survey :=
  .record title [.required "target_info" host, .required "network_services" (.list service)]
    (fun s => (s.host, s.services, ())) fun (host, services, ()) => ⟨host, services⟩

/-- What a port scanner finds. -/
def portScan : Codec Net.Survey := surveyAs "PortScanningReport"

/-- All that is known before vulnerabilities are looked for. -/
def survey : Codec Net.Survey := surveyAs "ReconnaissanceReport"

/-- What a fingerprinter finds. -/
def fingerprint : Codec (List Net.Service) :=
  .record "FingerprintingReport" [.required "network_services" (.list service)]
    (fun s => (s, ())) fun (s, ()) => s

end VulnScan.Wire
