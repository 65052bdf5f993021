import VulnScan.LanguageServer.Message
import VulnScan.Wire.Finding
import VulnScan.Wire.Plugin

/-! # Messages of language servers in JSON -/

set_option autoImplicit false

namespace VulnScan.Wire

open Json

/-- A request that says nothing but what is asked for. -/
def emptyRequest (title : String) : Codec Unit := .record title [] (fun _ => ()) fun _ => ()

/-- Requests for the state of health. -/
def healthRequest : Codec Unit := emptyRequest "HealthCheckRequest"

/-- Requests for the plugins of a server. -/
def listRequest : Codec Unit := emptyRequest "ListPluginsRequest"

/-- States of health. -/
def health : Codec LanguageServer.Health :=
  .choice LanguageServer.Health.all LanguageServer.Health.name

/-- Answers about the state of health. -/
def healthResponse : Codec LanguageServer.Health :=
  .record "HealthCheckResponse" [.required "status" health] (fun h => (h, ())) fun (h, ()) => h

/-- Answers about the plugins of a server. -/
def listResponse : Codec (List Plugin.Definition) :=
  .record "ListPluginsResponse" [.defaulted "plugins" (.list definition) []]
    (fun ds => (ds, ())) fun (ds, ()) => ds

/-- Requests to run plugins. -/
def runRequest : Codec LanguageServer.RunRequest :=
  .record "RunRequest"
    [.required "target" host, .defaulted "plugins" (.list matched) []]
    (fun r => (r.host, r.plugins, ())) fun (host, plugins, ()) => ⟨host, plugins⟩

/-- Answers with the reports of plugins. -/
def runResponse : Codec (List Finding.Report) :=
  .record "RunResponse" [.defaulted "reports" reports []]
    (fun rs => (rs, ())) fun (rs, ()) => rs

/-- The body of a request. -/
def requestBody : LanguageServer.Request → Value
  | .health => healthRequest.encode ()
  | .list => listRequest.encode ()
  | .run r => runRequest.encode r

end VulnScan.Wire
