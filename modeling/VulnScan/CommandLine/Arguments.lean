import VulnScan.Net.Address
import VulnScan.Text.Split

/-! # Arguments of the command line

A command line is a list of words. An option is named by a word that starts with two hyphens; its
value follows after an equals sign or is the next word, which then must not start with a hyphen.
The option for the configuration file also has a short name of one letter, and its value may
follow the letter at once. Options that take one value may be given once; those that take a list
may be given again, and every value is cut at commas.

A value that stands in a word of its own is entered only when the next option begins or the words
end. So a word that is no option is noticed before a bad value in front of it.
-/

set_option autoImplicit false

namespace VulnScan.CommandLine

/-- An option that takes a value. -/
inductive Key where
  | config
  | logLevel
  | logFormat
  | shortTarget
  | longTarget
  | hostnameTarget
  | ports
  | resultsFile
  | advisoriesFile
  | included
  | excluded
deriving DecidableEq, Inhabited

namespace Key

/-- The names of all options. -/
def names : List (String × Key) :=
  [("config", .config), ("log-level", .logLevel), ("log-format", .logFormat),
   ("ip-v4-target", .shortTarget), ("ip-v6-target", .longTarget),
   ("hostname-target", .hostnameTarget), ("ports", .ports),
   ("scan-results-local-output-filename", .resultsFile), ("dump-advisories", .advisoriesFile),
   ("detectors-include", .included), ("detectors-exclude", .excluded)]

/-- The option with a name. -/
def ofName? (name : List Char) : Option Key := names.lookup (String.ofList name)

/-- The name of an option. -/
def name (k : Key) : String := ((names.find? fun p => p.2 = k).map Prod.fst).getD ""

/-- Whether an option takes a list. -/
def isList : Key → Bool
  | .included | .excluded => true
  | _ => false

end Key

/-- What a command line asks for. -/
structure Arguments where
  config : String := "/etc/riptide/scanner.toml"
  logLevel : Option String := none
  logFormat : Option String := none
  /-- A target with an address of four octets. -/
  shortTarget : Option Net.Address := none
  /-- A target with an address of eight groups. -/
  longTarget : Option Net.Address := none
  hostnameTarget : Option String := none
  ports : Option String := none
  resultsFile : Option String := none
  advisoriesFile : Option String := none
  included : List String := []
  excluded : List String := []
deriving DecidableEq, Inhabited

/-- Why the words of a command line are not read to their end. -/
inductive Stop where
  | help
  | version
  | unknown (word : String)
  | missing (k : Key)
  | repeated (k : Key)
  | unreadable (k : Key) (value : String)
  /-- A value stands where none belongs. -/
  | surplus (word : String)
deriving DecidableEq

namespace Key

/-- Reads an address that an option asks for. -/
def readAddress (k : Key) (isMeant : Net.Address → Bool) (value : String) :
    Except Stop Net.Address :=
  match (Net.Address.ofText? value).filter isMeant with
  | some a => .ok a
  | none => .error (.unreadable k value)

/-- Reads the path of a file. -/
def readPath (k : Key) (value : String) : Except Stop String :=
  if value = "" then .error (.missing k) else .ok value

/-- The items of a list. -/
def items (value : String) : List String :=
  (Text.splitAll ',' value.toList).map String.ofList

/-- Enters the value of an option. -/
def assign (k : Key) (value : String) (a : Arguments) : Except Stop Arguments :=
  match k with
  | .config => .ok { a with config := value }
  | .logLevel => .ok { a with logLevel := some value }
  | .logFormat => .ok { a with logFormat := some value }
  | .shortTarget => do
    return { a with shortTarget := some (← k.readAddress Net.Address.isShort value) }
  | .longTarget => do
    return { a with longTarget := some (← k.readAddress (fun x => !x.isShort) value) }
  | .hostnameTarget => .ok { a with hostnameTarget := some value }
  | .ports => .ok { a with ports := some value }
  | .resultsFile => do return { a with resultsFile := some (← k.readPath value) }
  | .advisoriesFile => do return { a with advisoriesFile := some (← k.readPath value) }
  | .included => .ok { a with included := a.included ++ items value }
  | .excluded => .ok { a with excluded := a.excluded ++ items value }

end Key

/-! ## Reading -/

/-- How far a command line has been read. -/
structure Reading where
  arguments : Arguments := {}
  /-- The options whose values are entered. -/
  given : List Key := []
  /-- The option that was named last, and the word after it, until its value is entered. -/
  pending : Option (Key × Option String) := none
deriving DecidableEq, Inhabited

namespace Reading

/-- Enters the value of an option. -/
def enter (k : Key) (value : String) (r : Reading) : Except Stop Reading :=
  if k ∈ r.given ∧ k.isList = false then .error (.repeated k)
  else do return { arguments := ← k.assign value r.arguments, given := k :: r.given }

/-- Enters the value that is pending. -/
def settle (r : Reading) : Except Stop Reading :=
  match r.pending with
  | none => .ok r
  | some (k, none) => .error (.missing k)
  | some (k, some value) => r.enter k value

/-- Begins an option, with the value that its own word gives. -/
def begin (k : Key) (value : Option String) (r : Reading) : Except Stop Reading := do
  let r ← r.settle
  match value with
  | some value => r.enter k value
  | none => return { r with pending := some (k, none) }

/-- Ends the reading, once what is pending is entered. -/
def stop (why : Stop) (r : Reading) : Except Stop Reading := do
  let _ ← r.settle
  .error why

/-- Reads an option by its name, and the value after an equals sign. -/
def named (word : String) (name : List Char) (value : Option String) (r : Reading) :
    Except Stop Reading :=
  let ask (why : Stop) : Except Stop Reading :=
    if value.isSome then .error (.surplus word) else r.stop why
  if String.ofList name = "help" then ask .help
  else if String.ofList name = "version" then ask .version
  else match Key.ofName? name with
    | some k => r.begin k value
    | none => .error (.unknown word)

/-- Reads an option by its letter, and what follows the letter. -/
def lettered (word : String) (letter : Char) (rest : List Char) (r : Reading) :
    Except Stop Reading :=
  if letter = 'h' then r.stop .help
  else if letter = 'V' then r.stop .version
  else if letter = 'c' then
    match rest with
    | [] => r.begin .config none
    | '=' :: value => r.begin .config (some (String.ofList value))
    | value => r.begin .config (some (String.ofList value))
  else .error (.unknown word)

/-- Reads a word that is no option. -/
def plain (word : String) (r : Reading) : Except Stop Reading :=
  match r.pending with
  | some (k, none) => .ok { r with pending := some (k, some word) }
  | _ => .error (.unknown word)

/-- Reads a word. -/
def word (w : String) (r : Reading) : Except Stop Reading :=
  match w.toList with
  | '-' :: '-' :: body =>
    match Text.splitFirst '=' body with
    | some (name, value) => r.named w name (some (String.ofList value))
    | none => r.named w body none
  | '-' :: letter :: rest => r.lettered w letter rest
  | _ => r.plain w

/-- Reads words; after two hyphens none may follow. -/
def words : List String → Reading → Except Stop Reading
  | [], r => r.settle
  | w :: ws, r =>
    if w = "--" then
      match ws with
      | [] => r.settle
      | x :: _ => .error (.unknown x)
    else do words ws (← r.word w)

end Reading

/-- Reads a command line. -/
def Arguments.read (ws : List String) : Except Stop Arguments := do
  return (← Reading.words ws {}).arguments

end VulnScan.CommandLine
