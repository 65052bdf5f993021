import VulnScan.LanguageServer.Http
import VulnScan.Text.Ascii
import VulnScan.Text.Blank
import VulnScan.Text.Hexadecimal

/-! # Messages on a connection

On a connection a message is a head of lines and a body. `Post.octets` writes the message that is
posted; `Delivery.ofOctets` reads what came back before the connection ended. The head of a reply
says how its body is delimited: by a length, in chunks that each have a length of their own, or by
the end of the connection.
-/

set_option autoImplicit false

namespace VulnScan.LanguageServer

/-- Where a URL without encryption leads. -/
structure Origin where
  host : String
  port : Net.Port
  path : String
deriving DecidableEq, Inhabited

namespace Origin

/-- The port of a URL that names none. -/
def standardPort : Net.Port := 80

/-- Reads host and port; an address of groups stands in brackets. -/
def readAuthority : List Char → Option (List Char × Net.Port)
  | '[' :: s => do
    let (host, rest) ← Text.splitFirst ']' s
    match rest with
    | [] => some (host, standardPort)
    | ':' :: port => (Text.parseBelow 65536 port).map fun p => (host, p)
    | _ => none
  | s =>
    match Text.splitLast ':' s with
    | some (host, port) => (Text.parseBelow 65536 port).map fun p => (host, p)
    | none => some (s, standardPort)

/-- Where a URL leads. -/
def ofUrl? (url : String) : Option Origin := do
  let s ← Text.after "http://".toList url.toList
  let (authority, path) := match Text.splitFirst '/' s with
    | some (authority, path) => (authority, '/' :: path)
    | none => (s, ['/'])
  let (host, port) ← readAuthority authority
  if host = [] then none
  else some ⟨String.ofList host, port, String.ofList path⟩

end Origin

/-- The octets of a message that is posted. -/
def Post.octets (p : Post) (o : Origin) : ByteArray :=
  let body := p.body.toUTF8
  let head := Text.joinTexts "\r\n"
    ["POST " ++ o.path ++ " HTTP/1.1", "host: " ++ o.host ++ ":" ++ Text.decimal o.port,
     "content-type: " ++ p.contentType, "user-agent: " ++ p.agent, "accept: */*",
     "content-length: " ++ Text.decimal body.size, "connection: close", "", ""]
  head.toUTF8 ++ body

/-! ## Replies -/

/-- The character with the number of an octet. -/
def charOfOctet (o : UInt8) : Char := Char.ofNat o.toNat

/-- The octet with the number of a character. -/
def octetOfChar (c : Char) : UInt8 := UInt8.ofNat c.toNat

/-- The end of a line. -/
def lineEnd : List Char := ['\r', '\n']

/-- Name and value in a line of a head; the case of a name does not count. -/
def headerOf? (line : List Char) : Option (String × List Char) :=
  (Text.splitFirst ':' line).map fun p =>
    (Text.lowered (String.ofList (Text.trim p.1)), Text.trim p.2)

/-- The chunks of a body, and whether the last one has come. Every chunk has a line with its
length in front, and an empty one is the last; `room` bounds their number. -/
def readChunks : (room : Nat) → List Char → List (List Char) × Bool
  | 0, _ => ([], false)
  | room + 1, s =>
    match Text.splitAtMark lineEnd s with
    | none => ([], false)
    | some (line, rest) =>
      let (size, after) := Text.spanHex 0 (Text.trim line)
      if after.length = (Text.trim line).length then ([], false)
      else if size = 0 then ([], true)
      else if rest.length < size then ([rest], false)
      else
        let (chunks, isWhole) := readChunks room (rest.drop (size + lineEnd.length))
        (rest.take size :: chunks, isWhole)

/-- What is said about a connection that ends too early. -/
def brokenOff : String := "connection closed before message completed"

/-- The reply with a given head, from the octets after the head. -/
def Reply.ofBody (status : Nat) (headers : List (String × List Char)) (body : List Char)
    (ending : BodyEnd) : Reply :=
  let ended (isWhole : Bool) : BodyEnd :=
    if isWhole then .complete else if ending = .complete then .broken brokenOff else ending
  let octets (chunks : List (List Char)) : List (List UInt8) := chunks.map (·.map octetOfChar)
  if (headers.lookup "transfer-encoding").any fun v => Text.lowered (String.ofList v) = "chunked"
  then
    let (chunks, isWhole) := readChunks body.length body
    ⟨status, none, octets chunks, ended isWhole⟩
  else
    match (headers.lookup "content-length").bind Text.numeral? with
    | some length =>
      ⟨status, some length, octets [body.take length], ended (length ≤ body.length)⟩
    | none => ⟨status, none, octets [body], ending⟩

/-- What was delivered by a connection: the octets that came, and how it ended. -/
def Delivery.ofOctets (octets : List UInt8) (ending : BodyEnd) : Delivery :=
  let broken : Delivery := match ending with
    | .late => .late
    | .broken detail => .unreachable detail
    | .complete => .unreachable brokenOff
  match Text.splitAtMark (lineEnd ++ lineEnd) (octets.map charOfOctet) with
  | none => broken
  | some (head, body) =>
    match (Text.splitAll '\n' head).map Text.trim with
    | [] => broken
    | first :: lines =>
      match (Text.words first)[1]?.bind (Text.parseBelow 1000) with
      | none => broken
      | some status => .reply (.ofBody status (lines.filterMap headerOf?) body ending)

end VulnScan.LanguageServer
