import VulnScan.Json.Text
import VulnScan.LanguageServer.Proxy
import VulnScan.Text.Utf8
import VulnScan.Wire.LanguageServer

/-! # Language servers over HTTP

A call to a language server posts a message in JSON below the address of the server, and the
answer is a message in JSON. What the network delivers is a status and a body, which comes in
chunks and may break off. The body of an answer that reports a success may not be longer than a
limit, neither as declared nor as received; up to the limit only the chunks taken together matter.
-/

set_option autoImplicit false

namespace VulnScan.LanguageServer

open Execution (Activity)
open Json (Codec)

/-- A message that is posted. -/
structure Post where
  url : String
  agent : String
  contentType : String
  body : String
deriving DecidableEq

/-- How the body of a reply ends. -/
inductive BodyEnd where
  | complete
  | broken (detail : String)
  /-- The deadline passes before it ends. -/
  | late
deriving DecidableEq

/-- A reply to a message. -/
structure Reply where
  status : Nat
  /-- The length of the body, if it is declared. -/
  declared : Option Nat
  chunks : List (List UInt8)
  ending : BodyEnd := .complete
deriving DecidableEq

/-- What becomes of a message. -/
inductive Delivery where
  | unreachable (detail : String)
  /-- The deadline passes before there is a reply. -/
  | late
  | reply (r : Reply)
deriving DecidableEq

namespace Reply

/-- Whether the status is that of a success. -/
def isSuccess (r : Reply) : Bool := 200 ≤ r.status && r.status < 300

/-- Adds chunks to what has been received, up to a limit; the fault is the length that first
exceeds it. -/
def gather (limit : Nat) (received : List UInt8) : List (List UInt8) → Except Nat (List UInt8)
  | [] => .ok received
  | c :: cs =>
    let size := received.length + c.length
    if limit < size then .error size else gather limit (received ++ c) cs

/-- The body of a success, up to a limit. -/
def body (limit : Nat) (deadline : Time.Span) (r : Reply) : Except CallError (List UInt8) :=
  match r.declared.filter (limit < ·) with
  | some size => .error (.tooLarge size limit)
  | none =>
    match gather limit [] r.chunks with
    | .error size => .error (.tooLarge size limit)
    | .ok body =>
      match r.ending with
      | .complete => .ok body
      | .broken detail => .error (.http detail)
      | .late => .error (.deadline deadline)

/-- The text of a reply that is no success; a body that breaks off has none. -/
def complaint (r : Reply) : String :=
  match r.ending with
  | .complete => Text.Utf8.text r.chunks.flatten
  | .broken _ | .late => ""

end Reply

/-- Reads a message from the octets of its JSON text. -/
def readMessage {α : Type} (c : Codec α) (octets : List UInt8) : Except CallError α :=
  match c.readOctets octets with
  | .ok a => .ok a
  | .error fault => .error (.json fault)

/-- The message that is delivered. -/
def Delivery.read {α : Type} (c : Codec α) (limit : Nat) (deadline : Time.Span) :
    Delivery → Except CallError α
  | .unreachable detail => .error (.http detail)
  | .late => .error (.deadline deadline)
  | .reply r =>
    if r.isSuccess then do readMessage c (← r.body limit deadline)
    else .error (.api r.status r.complaint)

/-- How the scanner introduces itself. -/
def agent : String := "Riptide/0.1.0"

/-- A way to the server at an address. -/
structure Client (σ : Type) where
  baseUrl : String
  inboundLimit : Nat := 10 * 1024 * 1024
  send : Post → Time.Span → Activity σ Delivery

namespace Client

variable {σ α : Type}

/-- The way to the server at an address; slashes at its end do not count. -/
def ofAddress (address : String) (send : Post → Time.Span → Activity σ Delivery) : Client σ :=
  { baseUrl := String.ofList (Text.dropEnd '/' address.toList), send }

/-- The message that asks a server something. -/
def post (c : Client σ) (r : Request) : Post :=
  { url := c.baseUrl ++ r.path
    agent
    contentType := "application/json"
    body := String.ofList (Wire.requestBody r).compact }

/-- Asks the server something. -/
def call (c : Client σ) (answer : Codec α) (r : Request) (deadline : Time.Span) :
    Activity σ (Except CallError α) := do
  let d ← c.send (c.post r) deadline
  return d.read answer c.inboundLimit deadline

/-- The server at the end of the way. -/
def server (c : Client σ) : Server σ where
  health := c.call Wire.healthResponse .health
  list := c.call Wire.listResponse .list
  run r := c.call Wire.runResponse (.run r)

end Client

end VulnScan.LanguageServer
