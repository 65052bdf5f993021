import VulnScan.Json.Codec
import VulnScan.Json.Printer
import VulnScan.Json.Reader

/-! # JSON texts of values

The two ways of writing a value of a type with a codec, and the way of reading one from a whole
text: spaces may surround the value, but nothing else.
-/

set_option autoImplicit false

namespace VulnScan.Json.Codec

/-- The compact text of a value. -/
def compact {α : Type} (c : Codec α) (a : α) : String := String.ofList (c.encode a).compact

/-- The text of a value over several lines. -/
def pretty {α : Type} (c : Codec α) (a : α) : String := String.ofList (c.encode a).pretty

/-- The value that a text writes, as the reader sees it. -/
def readChars {α : Type} (c : Codec α) (s : List Char) : Except Fault α := do
  let (v, more) := readText s
  let a ← c.decode v
  if more then .error .malformed
  return a

/-- The value that a text writes. -/
def read {α : Type} (c : Codec α) (s : String) : Except Fault α := c.readChars (seenText s)

/-- The value that the text in octets writes. -/
def readOctets {α : Type} (c : Codec α) (os : List UInt8) : Except Fault α :=
  c.readChars (seenOctets os)

/-- What is said about a broken place. -/
def brokenText : Broken → String
  | .missing => "EOF while parsing a value"
  | .stray => "expected value"
  | .text flaws => flaws.decoded.message
  | .number .truncated => "EOF while parsing a value"
  | .number _ => "invalid number"
  | .word .truncated => "EOF while parsing a value"
  | .word _ => "expected ident"

/-- What is said about a text that does not write a single value as it should. -/
def complaint? {α : Type} (c : Codec α) (s : String) : Option String :=
  let (v, more) := readText (seenText s)
  match c.decode v with
  | .ok _ => if more then some "trailing characters" else none
  | .error (.mismatch message) => some message
  | .error fault =>
    match v with
    | .broken b => some (brokenText b)
    | .number _ => some "number out of range"
    | .string (.error flaw) => some flaw.message
    | _ => some fault.text

end VulnScan.Json.Codec
