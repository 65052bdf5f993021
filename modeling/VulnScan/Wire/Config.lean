import VulnScan.Config.Settings
import VulnScan.Error
import VulnScan.Json.Record
import VulnScan.Toml.Reader
import VulnScan.Wire.Net

/-! # Settings as data

Settings are records like those of messages, and a configuration file is one way to write them.
Members that belong to no setting do not count.
-/

set_option autoImplicit false

namespace VulnScan.Wire

open Json

/-- The settings of execution. -/
def execution : Codec Config.Execution :=
  .looseRecord "PluginExecutionConfig"
    [.defaulted "max_concurrency" longWord 32,
     .defaulted "plugin_timeout_seconds" longWord.option none]
    (fun e => (e.concurrency, e.timeout, ()))
    fun (concurrency, timeout, ()) => ⟨concurrency, timeout⟩

/-- The settings of detectors. -/
def detectors : Codec Config.Detectors :=
  .looseRecord "PluginManagerConfig"
    [.defaulted "detectors_include" (.list .string) [],
     .defaulted "detectors_exclude" (.list .string) []]
    (fun d => (d.included, d.excluded, ())) fun (included, excluded, ()) => ⟨included, excluded⟩

/-- Whether there is a callback server. -/
def callback : Codec Bool :=
  .looseRecord "CallbackServerConfig" [.defaulted "enabled" .bool false]
    (fun b => (b, ())) fun (b, ()) => b

/-- The settings of a language server. -/
def server : Codec Config.Server :=
  .looseRecord "LanguageServerConfig"
    [.required "address" .string, .defaulted "command" (.option .string) none,
     .defaulted "deadline_seconds" longWord 120, .defaulted "health_check_attempts" word 3,
     .defaulted "max_inbound_message_bytes" longWord 10485760,
     .defaulted "log_id" (.option .string) none]
    (fun s => (s.address, s.command, s.deadline, s.attempts, s.inboundLimit, s.logId, ()))
    fun (address, command, deadline, attempts, inboundLimit, logId, ()) =>
      ⟨address, command, deadline, attempts, inboundLimit, logId⟩

/-- The settings of the log. -/
def logging : Codec Config.Logging :=
  .looseRecord "LoggingConfig"
    [.defaulted "level" .string "info", .defaulted "format" .string "pretty"]
    (fun l => (l.level, l.format, ())) fun (level, format, ()) => ⟨level, format⟩

/-- All settings. -/
def settings : Codec Config.Settings :=
  .looseRecord "Config"
    [.defaulted "plugin_execution" execution {}, .defaulted "plugin_manager" detectors {},
     .defaulted "callback_server" callback false,
     .defaulted "language_servers" (.list server) [], .defaulted "logging" logging {}]
    (fun s => (s.execution, s.detectors, s.hasCallback, s.servers, s.logging, ()))
    fun (execution, detectors, hasCallback, servers, logging, ()) =>
      ⟨execution, detectors, hasCallback, servers, logging⟩

/-! ## Configuration files -/

/-- An integer as a value. -/
def integerValue (n : Int) : Value :=
  .number ⟨n < 0, Text.digits n.natAbs, [], none⟩

mutual

/-- The value of a node: one with a fraction stands for all numbers that are not whole, and a date
is an object without any setting. -/
def nodeValue : Toml.Node → Value
  | .string s => .text s
  | .integer n => integerValue n
  | .bool b => .bool b
  | .float => .number ⟨false, ['0'], ['5'], none⟩
  | .date => .object [(.ok "date", .null)] .closed
  | .array items => .array (nodeValues items) .closed
  | .table _ entries => .object (entryValues entries) .closed
  | .tables items => .array (tableValues items) .closed

/-- The values of nodes. -/
def nodeValues : List Toml.Node → List Value
  | [] => []
  | n :: ns => nodeValue n :: nodeValues ns

/-- The members of entries. -/
def entryValues : List (String × Toml.Node) → List (Content × Value)
  | [] => []
  | (k, n) :: es => (.ok k, nodeValue n) :: entryValues es

/-- The values of tables. -/
def tableValues : List (List (String × Toml.Node)) → List Value
  | [] => []
  | es :: ts => .object (entryValues es) .closed :: tableValues ts

end

/-- The settings that a configuration file describes. -/
def settingsOfFile? (s : String) : Option Config.Settings := do
  let entries ← Toml.read? s.toList
  (settings.decode (.object (entryValues entries) .closed)).toOption

end VulnScan.Wire
