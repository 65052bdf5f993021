import VulnScan.Json.Value
import VulnScan.Number.Single

/-! # Codecs between values and JSON

A codec says how a type is written as a JSON value and how it is read back. Reading stops at the
first fault in the order of the text: a grammatical fault, a value of the wrong kind or a value
that is out of range. This file holds the codecs of single values and of lists; records and
enumerations have files of their own.
-/

set_option autoImplicit false

namespace VulnScan.Json

/-- How values of a type are written and read. -/
structure Codec (α : Type) where
  encode : α → Value
  decode : Value → Except Fault α

namespace Codec

/-- Strings. -/
def string : Codec String where
  encode s := .text s
  decode v := match v with
    | .string content => content.read
    | v => .error (v.unexpected "a string")

/-- Truth values. -/
def bool : Codec Bool where
  encode b := .bool b
  decode v := match v with
    | .bool b => .ok b
    | v => .error (v.unexpected "a boolean")

/-- The fault of a whole number that does not fit. -/
def outOfRange (cited kind : String) : Fault :=
  .mismatch ("invalid value: " ++ cited ++ ", expected " ++ kind)

/-- Naturals below a bound; `kind` is what messages call them. -/
def below (bound : Nat) (kind : String) : Codec (Fin bound) where
  encode n := .nat n
  decode v := match v with
    | .number l => do
      match ← numeralOf l with
      | .natural n =>
        if h : n < bound then .ok ⟨n, h⟩ else .error (outOfRange (citedNumeral (.natural n)) kind)
      | .negative n => .error (outOfRange (citedNumeral (.negative n)) kind)
      | .real _ => .error (v.unexpected kind)
    | v => .error (v.unexpected kind)

/-- Numbers of single precision; one without a literal is written as null. -/
def single : Codec Number.Single where
  encode x := match x.literal? with
    | some l => .number l
    | none => .null
  decode v := match v with
    | .number l => (numeralOf l).map Number.Single.ofNumeral
    | v => .error (v.unexpected "f32")

/-- Values with a text of their own, written as strings; `kind` is what messages call them, and
the reader gives a message of its own for a string that it refuses. -/
def worded {α : Type} (kind : String) (print : α → String) (read : String → Except String α) :
    Codec α where
  encode a := .text (print a)
  decode v := match v with
    | .string content => do
      let s ← content.read
      (read s).mapError .mismatch
    | v => .error (v.unexpected kind)

/-- Null or a value. -/
def option {α : Type} (c : Codec α) : Codec (Option α) where
  encode a := match a with
    | some a => c.encode a
    | none => .null
  decode v := match v with
    | .null => .ok none
    | v => (c.decode v).map some

/-- Reads items one after the other. -/
def decodeItems {α : Type} (c : Codec α) : List Value → Except Fault (List α)
  | [] => .ok []
  | v :: vs => do
    let a ← c.decode v
    return a :: (← decodeItems c vs)

/-- Lists. -/
def list {α : Type} (c : Codec α) : Codec (List α) where
  encode as := .list (as.map c.encode)
  decode v := match v with
    | .array items ending => do
      let as ← decodeItems c items
      ending.check
      return as
    | v => .error (v.unexpected "a sequence")

/-- The values of another type that pass a check. -/
def checked {α β : Type} (c : Codec α) (down : β → α) (up : α → Except String β) : Codec β where
  encode b := c.encode (down b)
  decode v := do
    let a ← c.decode v
    (up a).mapError .mismatch

end Codec

end VulnScan.Json
