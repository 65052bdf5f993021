import VulnScan.Execution.Course
import VulnScan.LanguageServer.Message

/-! # The world of a rehearsal

In a rehearsal plugins follow scripts instead of talking to a network. Its world has a clock that
moves only when a script moves it, a log of when plugins started and ended, and for every language
server the calls that were made to it.
-/

set_option autoImplicit false

namespace VulnScan.Rehearsal

/-- A line of the log. -/
structure LogLine where
  time : Nat
  plugin : String
  isEnd : Bool
deriving DecidableEq, Inhabited

/-- A call to a language server. -/
structure Call where
  time : Nat
  request : LanguageServer.Request
  deadline : Time.Span
deriving DecidableEq

/-- What happened to a language server: how often each operation was asked for, and the calls
that were not reported yet, the latest first. -/
structure ServerLog where
  healths : Nat := 0
  lists : Nat := 0
  runs : Nat := 0
  calls : List Call := []
deriving DecidableEq, Inhabited

/-- The state of a rehearsal; the latest line of the log comes first. -/
structure World where
  clock : Time.Timestamp
  log : List LogLine := []
  servers : List ServerLog := []
deriving DecidableEq, Inhabited

/-- How often an operation was asked for. -/
def ServerLog.count (s : ServerLog) : LanguageServer.Request → Nat
  | .health => s.healths
  | .list => s.lists
  | .run _ => s.runs

/-- Enters a call. -/
def ServerLog.enter (c : Call) (s : ServerLog) : ServerLog :=
  let s := { s with calls := c :: s.calls }
  match c.request with
  | .health => { s with healths := s.healths + 1 }
  | .list => { s with lists := s.lists + 1 }
  | .run _ => { s with runs := s.runs + 1 }

namespace World

/-- Writes a line to the log. -/
def note (plugin : String) (isEnd : Bool) (now : Nat) (w : World) : World :=
  { w with log := ⟨now, plugin, isEnd⟩ :: w.log }

/-- Enters a call to server `i`. -/
def enter (i : Nat) (c : Call) (w : World) : World :=
  { w with servers := w.servers.modify i (ServerLog.enter c) }

/-- How often an operation of server `i` was asked for. -/
def count (i : Nat) (r : LanguageServer.Request) (w : World) : Nat :=
  (w.servers[i]?.map fun s => s.count r).getD 0

/-- The world with one more server. -/
def addServer (w : World) : World := { w with servers := w.servers ++ [{}] }

/-- The log in the order of time, at the same time in the order of the names of the plugins. -/
def sortedLog (w : World) : List LogLine :=
  w.log.reverse.mergeSort fun a b =>
    a.time < b.time || (a.time == b.time && (a.plugin < b.plugin || a.plugin == b.plugin))

/-- The calls to every server, in order. -/
def calls (w : World) : List (List Call) := w.servers.map fun s => s.calls.reverse

/-- Everything that was reported is forgotten. -/
def reported (w : World) : World :=
  { w with log := [], servers := w.servers.map fun s => { s with calls := [] } }

end World

end VulnScan.Rehearsal
