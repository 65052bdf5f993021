import VulnScan.Plugin.Registry
import VulnScan.Rehearsal.World

/-! # Scripts of plugins

A script says what a plugin does when it runs: how long it takes, what it does to the clock,
whether it calls for the scan to be cancelled, hangs, breaks off or fails, and what it finds. A
server script says how a language server answers.
-/

set_option autoImplicit false

namespace VulnScan.Rehearsal

open Execution (Activity)

/-- Which of its services a scripted detector reports on. -/
inductive Scope where
  | all
  | first
  | none
deriving DecidableEq, Inhabited

/-- What a scripted plugin does. -/
structure Script where
  /-- The ticks that it takes; if none, it does not wait at all. -/
  delay : Nat := 0
  /-- The date that it sets the clock to. -/
  clock : Option Time.Timestamp := none
  /-- How far it moves the clock. -/
  clockStep : Time.Span := .zero
  cancels : Bool := false
  hangs : Bool := false
  collapse : Option String := none
  error : Option Error := none
  systems : List Net.SystemGuess := []
  services : Option (List Net.Service) := none
  rename : Option String := none
  software : Option String := none
  reports : Option (List Finding.Report) := none
  scope : Scope := .all
  verdict : Finding.Verdict := .unspecified
  vulnerability : Option Finding.Vulnerability := none
  /-- The publisher of the vulnerability that it reports if no other is given. -/
  publisher : String := "REHEARSAL"
  advisories : List Finding.Vulnerability := []
deriving Inhabited

/-- What is said when the clock cannot be moved so far. -/
def clockOverflow : String := "`DateTime + TimeDelta` overflowed"

namespace Script

/-- Moves the clock. -/
def moveClock (d : Time.Span) : Activity World Unit :=
  .touch (fun _ w => { w with clock := (w.clock.advance? d).getD w.clock }) fun _ w =>
    match w.clock.advance? d with
    | some _ => .value ()
    | none => .finish (.collapse clockOverflow)

/-- What the plugin of a given name does before its result. -/
def perform {α : Type} (s : Script) (name : String) (result : α) : Activity World α := do
  Activity.change (World.note name false)
  Activity.wait s.delay (.value ())
  if let some date := s.clock then
    Activity.change fun _ w => { w with clock := date }
  moveClock s.clockStep
  if s.cancels then Activity.cancel (.value ())
  if s.hangs then Activity.forever
  if let some message := s.collapse then Activity.finish (.collapse message)
  if let some e := s.error then Activity.fault e
  Activity.change (World.note name true)
  return result

/-- The vulnerability that the plugin of a given name reports. -/
def standardVulnerability (publisher name : String) : Finding.Vulnerability :=
  { mainId := ⟨publisher, name⟩, title := "Vulnerability of " ++ name, severity := .high }

/-- The date of all scripted reports, the start of the year 2024. -/
def reportDate : Time.Timestamp := (Time.Timestamp.of? 738885 0 0).getD .epoch

/-- What a scripted port scanner finds on a target. -/
def survey (s : Script) (target : Net.Endpoint) : Net.Survey :=
  ⟨⟨[target], s.systems⟩, s.services.getD []⟩

/-- What a scripted fingerprinter makes of a service. -/
def identified (s : Script) (service : Net.Service) : List Net.Service :=
  s.services.getD
    [{ service with
        name := s.rename.getD service.name
        software := match s.software with
          | some name => some ⟨name, none⟩
          | none => service.software }]

/-- What a scripted detector reports. -/
def findings (s : Script) (name : String) (host : Net.Host) (services : List Net.Service) :
    List Finding.Report :=
  let services := match s.scope with
    | .all => services
    | .first => services.take 1
    | .none => []
  s.reports.getD <| services.map fun service =>
    ⟨host, service, reportDate, s.verdict,
      s.vulnerability.getD (standardVulnerability s.publisher name)⟩

end Script

/-- How a language server answers. Answers are given one after the other, the last one from then
on. -/
structure ServerScript where
  healths : List (Except CallError LanguageServer.Health) := []
  listErrors : List (Option CallError) := []
  runErrors : List (Option CallError) := []
  plugins : List Plugin.Definition := []
  reports : List Finding.Report := []
  /-- Whether every plugin of a request reports on all its services. -/
  echoes : Bool := false
  /-- The publisher of the vulnerabilities of such reports. -/
  publisher : String := "REHEARSAL"
  healthDelay : Nat := 0
  listDelay : Nat := 0
  runDelay : Nat := 0
  backoff : LanguageServer.Backoff := .standard
  attempts : Nat := 3
  deadline : Time.Span := .ofSeconds 120

namespace ServerScript

/-- The answer with the number `n`; the last one if there are fewer. -/
def answerAt {α : Type} (answers : List α) (n : Nat) : Option α :=
  answers[n]?.or answers.getLast?

/-- Enters a call to server `i`, waits and answers by the number of calls before. -/
def respond {α : Type} (i : Nat) (r : LanguageServer.Request) (delay : Nat) (deadline : Time.Span)
    (answer : Nat → Except CallError α) : Activity World (Except CallError α) :=
  .touch (fun now w => w.enter i ⟨now, r, deadline⟩) fun _ w =>
    .wait delay (.value (answer (w.count i r)))

/-- The reports of the plugins of a request. -/
def echo (publisher : String) (r : LanguageServer.RunRequest) : List Finding.Report :=
  r.plugins.flatMap fun m => m.services.map fun service =>
    ⟨r.host, service, Script.reportDate, .verified,
      Script.standardVulnerability publisher m.plugin.name⟩

/-- A result, unless the answer with the number `n` is an error. -/
def unlessError {α : Type} (errors : List (Option CallError)) (a : α) (n : Nat) :
    Except CallError α :=
  match (answerAt errors n).join with
  | some e => .error e
  | none => .ok a

/-- The server with the number `i`. -/
def server (s : ServerScript) (i : Nat) : LanguageServer.Server World where
  health deadline :=
    respond i .health s.healthDelay deadline fun n => (answerAt s.healths n).getD (.ok .serving)
  list deadline := respond i .list s.listDelay deadline (unlessError s.listErrors s.plugins)
  run request deadline :=
    respond i (.run request) s.runDelay deadline <|
      unlessError s.runErrors (s.reports ++ if s.echoes then echo s.publisher request else [])

/-- The proxy of the server with the number `i`. -/
def proxy (s : ServerScript) (i : Nat) : LanguageServer.Proxy World :=
  { server := s.server i, backoff := s.backoff, attempts := s.attempts, deadline := s.deadline }

end ServerScript

/-- A scripted plugin. It works in a role that may differ from that of its definition. A
fingerprinter may have scripts of its own for the services at certain ports. -/
structure Cast where
  definition : Plugin.Definition
  role : Plugin.Role
  script : Script := {}
  perPort : List (Option Net.Port × Script) := []
  server : ServerScript := {}

namespace Cast

/-- The script for a service. -/
def scriptFor (c : Cast) (service : Net.Service) : Script :=
  ((c.perPort.find? fun p => p.1 == service.port).map Prod.snd).getD c.script

/-- The plugin at work; `i` is the number of its server. -/
def body (c : Cast) (i : Nat) : Plugin.Instance World :=
  let name := c.definition.name
  match c.role with
  | .portScanner => .portScanner fun target => c.script.perform name (c.script.survey target)
  | .fingerprinter => .fingerprinter fun _ service =>
      let s := c.scriptFor service
      s.perform name (s.identified service)
  | .detector => .detector
      ⟨fun host services => c.script.perform name (c.script.findings name host services),
        c.script.advisories⟩
  | .host => .host (c.server.proxy i)

/-- The plugin as it is registered. -/
def entry (c : Cast) (i : Nat) : Plugin.Entry World := ⟨c.definition, c.body i⟩

end Cast

/-- A stage: registered plugins, and the identifiers of those that have a server. -/
structure Ensemble where
  registry : Plugin.Registry World := .empty
  hosts : List String := []

instance : Inhabited Ensemble := ⟨{}⟩

namespace Ensemble

/-- Adds a plugin, by the helper that checks its role if `typed`; it may be refused. -/
def add? (e : Ensemble) (c : Cast) (typed : Bool) : Option Ensemble :=
  let entry := c.entry e.hosts.length
  let hosts := if c.role = .host then e.hosts ++ [c.definition.id] else e.hosts
  if typed then (e.registry.registerTyped true entry).map fun r => ⟨r, hosts⟩
  else some ⟨e.registry.register entry, hosts⟩

/-- The world in which the plugins perform. -/
def world (e : Ensemble) (clock : Time.Timestamp) : World :=
  { clock, servers := e.hosts.map fun _ => {} }

end Ensemble

end VulnScan.Rehearsal
