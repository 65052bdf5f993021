import VulnScan.Config.Settings
import VulnScan.Text.Blank

/-! # Launching language servers

A language server may run on the host of the scanner. Then the settings give the command that
launches it: the first word is the program, the others are its first arguments, and words are all
that a command has, without quoting. More arguments tell the server the port to listen at, how it
is called in logs and how long a call may take; those that are empty or zero are left out.
-/

set_option autoImplicit false

namespace VulnScan.LanguageServer

/-- A program and its arguments. -/
structure Command where
  program : String
  arguments : List String
deriving DecidableEq, Inhabited

namespace Command

/-- The arguments that every launched server gets. -/
def standardArguments (s : Config.Server) : List String :=
  ((s.port.filter (· ≠ 0)).map fun p => "--port=" ++ Text.decimal p).toList
    ++ ((s.logId.filter (· ≠ "")).map fun id => "--log_id=" ++ id).toList
    ++ if s.deadline = 0 then [] else ["--timeout_seconds=" ++ Text.decimal s.deadline]

/-- The command that launches a server, if it is to be launched. -/
def ofServer? (s : Config.Server) : Option Command := do
  let line ← s.command
  match (Text.words line.toList).map String.ofList with
  | [] => none
  | program :: arguments => some ⟨program, arguments ++ standardArguments s⟩

/-- Whether the command can be passed on: no word of it may hold the character that ends words
there. -/
def isPassable (c : Command) : Bool :=
  (c.program :: c.arguments).all fun w => !w.toList.contains '\x00'

/-- The commands for servers, where there is one and the program can be started. -/
def started (canStart : String → Bool) (servers : List Config.Server) : List (Option Command) :=
  servers.map fun s => (ofServer? s).filter fun c => c.isPassable && canStart c.program

end Command

end VulnScan.LanguageServer
