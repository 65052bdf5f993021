import VulnScan.Json.Codec
import VulnScan.Text.Split

/-! # Records in JSON

A record is written as an object with its fields in their order; some fields are left out when
they say nothing. It is read from an object with the fields in any order, each at most once, or
from an array of all fields in their order. A field that was left out takes its `absent` value; if
it has none, the record is incomplete.

A record form is a list of `Field`s. `Parts` holds one value per field, and `Slots` what has been
read so far.
-/

set_option autoImplicit false

namespace VulnScan.Json

/-- One field of a record. -/
structure Field where
  /-- The type of its values. -/
  Carrier : Type
  name : String
  codec : Codec Carrier
  /-- The value when it is left out. -/
  absent : Option Carrier
  /-- Which values are not written. -/
  hides : Carrier → Bool

namespace Field

/-- A field that has to be given. -/
abbrev required {α : Type} (name : String) (c : Codec α) : Field :=
  ⟨α, name, c, none, fun _ => false⟩

/-- A field that is always written and may be left out in reading. -/
abbrev defaulted {α : Type} (name : String) (c : Codec α) (absent : α) : Field :=
  ⟨α, name, c, some absent, fun _ => false⟩

/-- A field that is written only if there is a value. -/
abbrev optional {α : Type} (name : String) (c : Codec α) : Field :=
  ⟨Option α, name, c.option, some none, fun a => a.isNone⟩

/-- A list that is written only if it has items. -/
abbrev listed {α : Type} (name : String) (c : Codec α) : Field :=
  ⟨List α, name, c.list, some [], fun as => as.isEmpty⟩

/-- A text that is written only if it is not empty. -/
abbrev worded (name : String) : Field :=
  ⟨String, name, .string, some "", fun s => s.isEmpty⟩

end Field

/-- One value for each field. -/
abbrev Parts : List Field → Type
  | [] => Unit
  | f :: fs => f.Carrier × Parts fs

/-- For each field the value that has been read. -/
abbrev Slots : List Field → Type
  | [] => Unit
  | f :: fs => Option f.Carrier × Slots fs

/-- Nothing has been read. -/
def Slots.empty : (fs : List Field) → Slots fs
  | [] => ()
  | _ :: fs => (none, Slots.empty fs)

/-- Reads the value of the field called `key` into its slot, unless no field is called so. A field
that is given twice is refused before its value is looked at. -/
def Slots.put? : {fs : List Field} → Slots fs → (key : String) → Value →
    Option (Except Fault (Slots fs))
  | [], _, _, _ => none
  | f :: _, (slot, slots), key, v =>
    if f.name = key then
      some <|
        if slot.isSome then .error (.mismatch ("duplicate field `" ++ key ++ "`"))
        else (f.codec.decode v).map fun a => (some a, slots)
    else (put? slots key v).map fun r => r.map fun slots => (slot, slots)

/-- Reads members into their slots. Members that belong to no field are left to `other`. -/
def Slots.readMembers {fs : List Field} (other : String → Value → Except Fault Unit) :
    Slots fs → List (Content × Value) → Except Fault (Slots fs)
  | slots, [] => .ok slots
  | slots, (key, v) :: ms => do
    let key ← key.read
    match slots.put? key v with
    | some read => readMembers other (← read) ms
    | none =>
      other key v
      readMembers other slots ms

/-- The record that has been read. -/
def Slots.complete : {fs : List Field} → Slots fs → Except Fault (Parts fs)
  | [], _ => .ok ()
  | f :: _, (slot, slots) => do
    let a ← match slot.or f.absent with
      | some a => .ok a
      | none => .error (.mismatch ("missing field `" ++ f.name ++ "`"))
    return (a, ← complete slots)

/-- Reads fields in their order from items, and what is left of the items. `short` is the fault of
a record that ends too early, by the number of its items. -/
def Parts.readItems (short : Nat → Fault) (ending : Ending) :
    (read : Nat) → (fs : List Field) → List Value → Except Fault (Parts fs × List Value)
  | _, [], vs => .ok ((), vs)
  | read, f :: fs, [] => do
    ending.check
    match f.absent with
    | some a =>
      let (parts, vs) ← readItems short ending (read + 1) fs []
      return ((a, parts), vs)
    | none => .error (short read)
  | read, f :: fs, v :: vs => do
    let a ← f.codec.decode v
    let (parts, vs) ← readItems short ending (read + 1) fs vs
    return ((a, parts), vs)

/-- The members that are written. -/
def Parts.members : {fs : List Field} → Parts fs → List (String × Value)
  | [], _ => []
  | f :: _, (a, parts) =>
    if f.hides a then members parts else (f.name, f.codec.encode a) :: members parts

/-- How a record treats what belongs to no field. -/
inductive Manner where
  /-- Members do not count, but an array must not have more items than there are fields. -/
  | plain
  /-- Members are refused, too. -/
  | strict
  /-- Neither members nor items count. -/
  | loose
deriving DecidableEq

/-- What a record form says beside its fields: the name that messages use, and its manner. -/
structure Heading where
  title : String
  manner : Manner

namespace Heading

/-- What messages call a record. -/
def expected (h : Heading) : String := "struct " ++ h.title

/-- The fault of an array that ends too early. -/
def short (h : Heading) (fs : List Field) (read : Nat) : Fault :=
  let count :=
    if h.manner = .strict then ""
    else if fs.length = 1 then " with 1 element"
    else " with " ++ Text.decimal fs.length ++ " elements"
  .mismatch ("invalid length " ++ Text.decimal read ++ ", expected " ++ h.expected ++ count)

/-- A member that belongs to no field. -/
def other (h : Heading) (fs : List Field) (key : String) (v : Value) : Except Fault Unit :=
  if h.manner = .strict then
    let names := fs.map fun f => "`" ++ f.name ++ "`"
    .error <| .mismatch <|
      "unknown field `" ++ key ++ "`, expected " ++ Text.joinTexts " or " names
  else v.skip

/-- Items of an array that belong to no field, and the end of the array. -/
def extra (h : Heading) (items : List Value) (ending : Ending) : Except Fault Unit :=
  if h.manner = .loose then .ok ()
  else if items.isEmpty then ending.checkClosed
  else .error .malformed

end Heading

/-- Reads the fields of a record. -/
def Parts.decode (h : Heading) (fs : List Field) : Value → Except Fault (Parts fs)
  | .object members ending => do
    let slots ← (Slots.empty fs).readMembers (h.other fs) members
    ending.check
    slots.complete
  | .array items ending => do
    let (parts, rest) ← readItems (h.short fs) ending 0 fs items
    h.extra rest ending
    return parts
  | .keyless _ => .error .malformed
  | v => .error (v.unexpected h.expected)

/-- Records with the given fields, of a manner. -/
def Codec.recordOf {α : Type} (h : Heading) (fs : List Field) (parts : α → Parts fs)
    (build : Parts fs → α) : Codec α where
  encode a := .record (parts a).members
  decode v := (Parts.decode h fs v).map build

/-- Records with the given fields. -/
abbrev Codec.record {α : Type} (title : String) (fs : List Field) (parts : α → Parts fs)
    (build : Parts fs → α) : Codec α :=
  .recordOf ⟨title, .plain⟩ fs parts build

/-- Records that refuse other members. -/
abbrev Codec.strictRecord {α : Type} (title : String) (fs : List Field) (parts : α → Parts fs)
    (build : Parts fs → α) : Codec α :=
  .recordOf ⟨title, .strict⟩ fs parts build

/-- Records that disregard whatever belongs to no field. -/
abbrev Codec.looseRecord {α : Type} (title : String) (fs : List Field) (parts : α → Parts fs)
    (build : Parts fs → α) : Codec α :=
  .recordOf ⟨title, .loose⟩ fs parts build

end VulnScan.Json
