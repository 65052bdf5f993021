import VulnScan.Json.Codec
import VulnScan.Text.Split

/-! # Enumerations in JSON

A value of an enumeration is written as its name. It may also be given as an object whose only
member has the name for its key and null for its value.
-/

set_option autoImplicit false

namespace VulnScan.Json

/-- The names a message offers: one, either of two, or a list. -/
def offered : List String → String
  | [] => "there are no variants"
  | [a] => "expected `" ++ a ++ "`"
  | [a, b] => "expected `" ++ a ++ "` or `" ++ b ++ "`"
  | names => "expected one of " ++ Text.joinTexts ", " (names.map fun s => "`" ++ s ++ "`")

/-- The value with the given name. -/
def pick {α : Type} (all : List α) (name : α → String) (s : String) : Except Fault α :=
  match all.find? fun a => name a = s with
  | some a => .ok a
  | none =>
    .error (.mismatch ("unknown variant `" ++ s ++ "`, " ++ offered (all.map name)))

/-- Null, where nothing else makes sense. -/
def decodeUnit : Value → Except Fault Unit
  | .null => .ok ()
  | v => .error (v.unexpected "unit")

/-- Values that are known by name. -/
def Codec.choice {α : Type} (all : List α) (name : α → String) : Codec α where
  encode a := .text (name a)
  decode v := match v with
    | .string content => do pick all name (← content.read)
    | .object [] ending => do
      ending.check
      .error .malformed
    | .object ((key, unit) :: more) ending => do
      let a ← pick all name (← key.read)
      decodeUnit unit
      if more.isEmpty then ending.checkClosed else .error .malformed
      return a
    | .keyless first => .error (first.unexpected "variant identifier")
    | .broken b => .error b.choiceFault
    | _ => .error .malformed

end VulnScan.Json
