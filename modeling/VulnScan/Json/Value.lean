import VulnScan.Number.Literal
import VulnScan.Text.Quoted

/-!
# JSON values and their faults

A JSON text is read from left to right and its first fault counts, whether the text is malformed,
ends too early or has the wrong shape for what is expected. To keep the grammar apart from the
expectations, reading a text yields a tree that records a grammatical fault where it stands
(`Broken`, `Ending`); a decoder then walks the tree in the order of the text and stops at the first
fault of either kind.

Some faults count only if the place is looked at closely: a surrogate without a partner, or an
octet that is part of no character, spoils a string that is decoded, but not one that is skipped.
-/

set_option autoImplicit false

namespace VulnScan.Json

/-- What is wrong with a text. -/
inductive Fault where
  | malformed
  | truncated
  | mismatch (message : String)
deriving DecidableEq

/-- The text of a fault. -/
def Fault.text : Fault → String
  | .malformed => "malformed text"
  | .truncated => "text ends too early"
  | .mismatch message => message

/-- What is wrong with the spelling of a string. -/
inductive Flaw where
  /-- The text is over. -/
  | truncated
  /-- A control character stands for itself. -/
  | control
  /-- The letter after a backslash is none of those that may stand there. -/
  | letter
  /-- A numeric escape has other than four hexadecimal digits. -/
  | digits
  /-- No numeric escape follows the first half of a pair. -/
  | half
  /-- A second half has no first half, or a first half no second half. -/
  | unpaired
  /-- There are octets that write no character. -/
  | gap
deriving DecidableEq

/-- The fault of a flawed string. -/
def Flaw.fault : Flaw → Fault
  | .truncated => .truncated
  | _ => .malformed

/-- What is said about a flawed string. -/
def Flaw.message : Flaw → String
  | .truncated => "EOF while parsing a string"
  | .control => "control character (\\u0000-\\u001F) found while parsing a string"
  | .letter | .digits => "invalid escape"
  | .half => "unexpected end of hex escape"
  | .unpaired => "lone leading surrogate in hex escape"
  | .gap => "invalid unicode code point"

/-- What a string between quotes says, or the flaw that its decoding meets. -/
abbrev Content := Except Flaw String

/-- The content of a string that has to be decoded. -/
def Content.read (content : Content) : Except Fault String := content.mapError Flaw.fault

/-- The flaws of a string without an end: the one that its decoding meets, and the one that is met
if it is only skipped, when halves of pairs do not count. -/
structure Unended where
  decoded : Flaw
  skipped : Flaw
deriving DecidableEq

/-- How an array or an object ends: properly, or by a fault after the last complete part. -/
inductive Ending where
  | closed
  | cut (afterComma : Bool) (fault : Fault)
deriving DecidableEq

/-- A place where a value should stand but none does: the text is over, the character starts no
value, or a string, a number or a word is spelled wrongly. -/
inductive Broken where
  | missing
  | stray
  | text (flaws : Unended)
  | number (decoded : Fault)
  | word (fault : Fault)
deriving DecidableEq

/-- The fault of a broken place when a value of a certain kind is wanted. -/
def Broken.fault : Broken → Fault
  | .missing => .truncated
  | .stray => .malformed
  | .text flaws => flaws.decoded.fault
  | .number decoded => decoded
  | .word fault => fault

/-- The fault of a broken place when any value will do. -/
def Broken.skipFault : Broken → Fault
  | .text flaws => flaws.skipped.fault
  | .number _ => .malformed
  | b => b.fault

/-- The fault of a broken place when only a string or an object will do. -/
def Broken.choiceFault : Broken → Fault
  | .text flaws => flaws.decoded.fault
  | .missing => .truncated
  | _ => .malformed

/-- A JSON value, with its faults in place. The key of a member and the content of a string may be
flawed; a member whose key does not even end has a broken value with the same flaws. An object
whose first key is no string is `keyless`. -/
inductive Value where
  | null
  | bool (b : Bool)
  | number (l : Number.Literal)
  | string (content : Content)
  | array (items : List Value) (ending : Ending)
  | object (members : List (Content × Value)) (ending : Ending)
  | keyless (first : Value)
  | broken (b : Broken)

instance : Inhabited Value := ⟨.null⟩

namespace Value

/-- A string value. -/
def text (s : String) : Value := .string (.ok s)

/-- The value of a natural. -/
def nat (n : Nat) : Value := .number (.ofNat n)

/-- A complete array. -/
def list (items : List Value) : Value := .array items .closed

/-- A complete object with the given members, in this order. -/
def record (members : List (String × Value)) : Value :=
  .object (members.map fun m => (.ok m.1, m.2)) .closed

end Value

/-- The fault at the end of an array or an object, if there is one. -/
def Ending.check : Ending → Except Fault Unit
  | .closed => .ok ()
  | .cut _ fault => .error fault

/-- The fault at the end when nothing more is expected: what is left is not even looked at. -/
def Ending.checkClosed : Ending → Except Fault Unit
  | .closed => .ok ()
  | .cut true _ => .error .malformed
  | .cut false fault => .error fault

mutual

/-- The first grammatical fault of a value whose content does not matter. -/
def Value.skip : Value → Except Fault Unit
  | .array items ending => do
    skipItems items
    ending.check
  | .object members ending => do
    skipMembers members
    ending.check
  | .keyless _ => .error .malformed
  | .broken b => .error b.skipFault
  | _ => .ok ()

/-- The first grammatical fault of the items of an array. -/
def skipItems : List Value → Except Fault Unit
  | [] => .ok ()
  | v :: vs => do
    v.skip
    skipItems vs

/-- The first grammatical fault of the members of an object. -/
def skipMembers : List (Content × Value) → Except Fault Unit
  | [] => .ok ()
  | (_, v) :: ms => do
    v.skip
    skipMembers ms

end

/-- How double precision numbers are cited: positionally from 10⁻⁵ up to 10¹⁶, else with an
exponent. -/
def citedReal : Number.Binary → String
  | .finite negative m e =>
    let layout : Number.Layout := ⟨-5, 15⟩
    String.ofList (layout.literal negative (Number.shortest .double m e)).spell
  | .infinite negative => if negative then "-inf" else "inf"
  | .nan => "NaN"

/-- How a message cites a number. -/
def citedNumeral : Number.Numeral → String
  | .natural n => "integer `" ++ Text.decimal n ++ "`"
  | .negative n => "integer `-" ++ Text.decimal n ++ "`"
  | .real x => "floating point `" ++ citedReal x ++ "`"

/-- What a literal stands for; one beyond the range of numbers is malformed. -/
def numeralOf (l : Number.Literal) : Except Fault Number.Numeral :=
  match l.numeral? with
  | some n => .ok n
  | none => .error .malformed

/-- How a message cites a value of the wrong kind, unless the value is faulty itself. -/
def Value.cited : Value → Except Fault String
  | .null => .ok "null"
  | .bool b => .ok ("boolean `" ++ (if b then "true" else "false") ++ "`")
  | .number l => (numeralOf l).map citedNumeral
  | .string content => content.read.map fun s => "string " ++ Text.quoted s
  | .array _ _ => .ok "sequence"
  | .object _ _ | .keyless _ => .ok "map"
  | .broken b => .error b.fault

/-- The fault of a value that is not what was expected. -/
def Value.unexpected (v : Value) (expected : String) : Fault :=
  match v.cited with
  | .ok found => .mismatch ("invalid type: " ++ found ++ ", expected " ++ expected)
  | .error fault => fault

end VulnScan.Json
