import VulnScan.Config.Settings
import VulnScan.LanguageServer.Http
import VulnScan.Plugin.Registry

/-! # Registration of language servers

Every language server of the settings is registered as one plugin that stands for all detectors it
hosts. The plugin is named after the server: by the name it has in logs, or else by its number. Of
servers with one name only the last is kept, at the place of the first.
-/

set_option autoImplicit false

namespace VulnScan.LanguageServer

open Execution (Activity)

variable {σ : Type}

/-- The definition of the plugin that stands for the server with the number `i`. -/
def definitionOf (i : Nat) (s : Config.Server) : Plugin.Definition :=
  .dynamic .host ("RemoteVulnDetector-" ++ s.logId.getD (Text.decimal i)) "remote" false false

/-- The way to a server. -/
def clientOf (send : Post → Time.Span → Activity σ Delivery) (s : Config.Server) : Client σ :=
  { Client.ofAddress s.baseUrl send with inboundLimit := s.inboundLimit }

/-- The plugin that stands for the server with the number `i`. -/
def entryOf (send : Post → Time.Span → Activity σ Delivery) (i : Nat) (s : Config.Server) :
    Plugin.Entry σ :=
  ⟨definitionOf i s, .host
    { server := (clientOf send s).server, attempts := s.attempts, deadline := s.callLimit }⟩

/-- The plugins that stand for servers. -/
def entriesOf (send : Post → Time.Span → Activity σ Delivery) (servers : List Config.Server) :
    List (Plugin.Entry σ) :=
  servers.zipIdx.map fun p => entryOf send p.2 p.1

/-- The registry with the plugins that stand for servers. -/
def registerServers (send : Post → Time.Span → Activity σ Delivery) (servers : List Config.Server)
    (r : Plugin.Registry σ) : Plugin.Registry σ :=
  (entriesOf send servers).foldl Plugin.Registry.register r

end VulnScan.LanguageServer
