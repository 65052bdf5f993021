import Std.Async.DNS
import Std.Async.TCP
import Std.Async.Timer
import VulnScan.CommandLine.Help
import VulnScan.Config.File
import VulnScan.Config.LogFilter
import VulnScan.LanguageServer.Framing
import VulnScan.LanguageServer.Launch
import VulnScan.Live.World
import VulnScan.Wire.Config

/-! # The scanner as a program

The program reads its command line, the configuration file and the environment, does the job that
they ask for and writes down what came of it. It answers the questions of a live scan: looks up
names, connects to ports and exchanges messages with language servers. Language servers that the
settings want launched are named in the log, for the operator to launch.
-/

set_option autoImplicit false

namespace VulnScan.Program

open Std.Async (Async)

/-! ## The network -/

/-- The address of a port, for a socket. -/
def socketAddress (a : Net.Address) (p : Net.Port) : Std.Net.SocketAddress :=
  match a with
  | .short a b c d =>
    .v4 ⟨.ofParts (.ofNat a) (.ofNat b) (.ofNat c) (.ofNat d), .ofNat p⟩
  | .long gs => .v6 ⟨⟨gs.map fun g : Net.Group => .ofNat g⟩, .ofNat p⟩

/-- An address that was looked up. -/
def addressOf : Std.Net.IPAddr → Net.Address
  | .v4 a =>
    let octet (i : Nat) : Net.Octet := Fin.ofNat 256 (a.octets.toArray.getD i 0).toNat
    .short (octet 0) (octet 1) (octet 2) (octet 3)
  | .v6 a => .long (a.segments.map fun g => Fin.ofNat 65536 g.toNat)

/-- The longest time that a timer is set to, in milliseconds. -/
def longestWait : Nat := 1000 * 60 * 60 * 24 * 365

/-- What an action yields within a time, if it ends in time. -/
def within {α : Type} (limit : Time.Span) (act : Async α) : Async (Option α) :=
  Std.Async.Async.race (do return some (← act)) do
    Std.Async.sleep (.ofNat (min limit.ticks longestWait))
    return none

/-- The addresses of a name. -/
def lookup (name : String) : Async (Except String (List Net.Address)) := do
  match Net.Address.ofText? name with
  | some a => return .ok [a]
  | none =>
    try
      return .ok ((← Std.Async.DNS.getAddrInfo name "").toList.map addressOf)
    catch e => return .error (toString e)

/-- Whether a port accepts a connection. -/
def isOpen (a : Net.Address) (patience : Time.Span) (p : Net.Port) : Async Bool := do
  try
    let socket ← Std.Async.TCP.Socket.Client.mk
    return (← within patience (socket.connect (socketAddress a p))).isSome
  catch _ => return false

/-- The ports that accept a connection. -/
def accepting (a : Net.Address) (p : Scan.Probe) : Async (List Net.Port) := do
  let mut found : List Net.Port := []
  let mut left := p.ports
  while !left.isEmpty do
    let group := left.take (max p.concurrency 1)
    left := left.drop (max p.concurrency 1)
    let tried ← Std.Async.Async.concurrentlyAll (group.map (isOpen a p.patience)).toArray
    found := found ++ ((group.zip tried.toList).filter Prod.snd).map Prod.fst
  return found

/-- All octets that come on a connection. -/
partial def receive (socket : Std.Async.TCP.Socket.Client) (received : ByteArray) :
    Async ByteArray := do
  match ← socket.recv? 65536 with
  | some more => receive socket (received ++ more)
  | none => return received

/-- Posts a message and reads the reply. -/
def exchange (p : LanguageServer.Post) (deadline : Time.Span) :
    Async LanguageServer.Delivery := do
  match LanguageServer.Origin.ofUrl? p.url with
  | none => return .unreachable ("cannot connect to " ++ p.url)
  | some origin =>
    match ← lookup origin.host with
    | .error detail => return .unreachable detail
    | .ok [] => return .unreachable Scan.Network.unknownName
    | .ok (a :: _) =>
      try
        let octets ← within deadline do
          let socket ← Std.Async.TCP.Socket.Client.mk
          socket.connect (socketAddress a origin.port)
          socket.send (p.octets origin)
          receive socket .empty
        match octets with
        | some octets => return .ofOctets octets.toList .complete
        | none => return .late
      catch e => return .unreachable (toString e)

/-- Answers a question of a live scan. -/
def answer : Live.Question → Async Live.Answer
  | .lookup name => do return .addresses (← lookup name)
  | .accepting a p => do return .ports (← accepting a p)
  | .send p deadline => do return .delivery (← exchange p deadline)

/-- Answers a question when its time has come. -/
def answerAt (started : Nat) (due : Nat) (q : Live.Question) : IO Live.Known := do
  let passed := (← IO.monoMsNow) - started
  if passed < due then IO.sleep (.ofNat (due - passed))
  let before ← IO.monoMsNow
  let a ← (answer q).block
  return ⟨q, a, (← IO.monoMsNow) - before⟩

/-! ## The job -/

/-- What is told about the run of the program. -/
structure Journal where
  filter : Config.LogFilter

/-- Tells something. -/
def Journal.tell (j : Journal) (l : Config.Level) (text : String) : IO Unit := do
  if j.filter.passes "riptide_scanner" l then IO.eprintln (l.name ++ ": " ++ text)

/-- Ends the program with what went wrong. -/
def failed (message : String) : IO UInt32 := do
  IO.eprintln ("Error: " ++ message)
  return 1

/-- The present date. -/
def date : IO Time.Timestamp := do
  let nanos := (← Std.Time.Timestamp.now).toNanosecondsSinceUnixEpoch.val.toNat
  return (Time.Timestamp.epoch.add? (.ofNanos nanos)).getD .epoch

/-- Writes down what came of a job. -/
def conclude (c : CommandLine.Conclusion) : IO UInt32 := do
  let code := if c.isSuccess then 0 else 1
  match c.file with
  | none => return code
  | some (path, contents) =>
    try
      IO.FS.writeFile path contents
      return code
    catch e => failed (Error.io (toString e)).message

/-- Does a job. -/
partial def perform (job : CommandLine.Job Live.World) (started : Nat) (w : Live.World) :
    IO UInt32 := do
  match Live.attempt job w with
  | .done c => conclude c
  | .collapsed message => failed message
  | .waiting w questions => do
    let known ← questions.mapM fun q => answerAt started q.1 q.2
    perform job started (w.learn known)

/-- What the configuration file says, if there is one. -/
def readSettings (path : String) : IO (Except String (Option Config.Settings)) := do
  try
    match Wire.settingsOfFile? (← IO.FS.readFile path) with
    | some s => return .ok (some s)
    | none => return .error (Error.configuration "Failed to parse config").message
  catch
    | .noFileOrDirectory _ _ _ => return .ok none
    | e => return .error (Error.configuration (toString e)).message

/-- Runs the program under given arguments. -/
def run (a : CommandLine.Arguments) : IO UInt32 := do
  match ← readSettings a.config with
  | .error message => failed message
  | .ok file =>
    let values ← Config.variableNames.mapM fun name => do return (name, ← IO.getEnv name)
    let s := a.settings (fun name => (values.lookup name).join) file
    match Config.LogFilter.choose? none s.logging.level with
    | none => failed "The log level cannot be read"
    | some filter =>
      let j : Journal := ⟨filter⟩
      j.tell .info "Riptide Scanner starting..."
      for command in s.servers.filterMap LanguageServer.Command.ofServer? do
        j.tell .warn ("Language server is to be launched: "
          ++ Text.joinTexts " " (command.program :: command.arguments))
      match CommandLine.job Live.network Live.World.runtime a s with
      | .error r => failed r.message
      | .ok job =>
        let code ← perform job (← IO.monoMsNow) { start := ← date }
        j.tell .info "Scan finished"
        return code

end VulnScan.Program

/-- The command line. -/
def main (words : List String) : IO UInt32 := do
  match VulnScan.CommandLine.Arguments.read words with
  | .ok a => VulnScan.Program.run a
  | .error stop =>
    if stop.isAnswer then
      IO.println stop.message
      return 0
    else
      IO.eprintln ("error: " ++ stop.message)
      return 2
