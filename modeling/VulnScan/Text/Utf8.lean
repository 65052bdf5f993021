/-! # Characters in octets

A text on the wire is a sequence of octets in UTF-8: a character takes one to four of them, the
first says how many, and no character is written with more than it needs. `decode` reads such a
sequence. Where the octets write no character, it yields a gap: one for every octet that begins
none, and one for the octets of a character that is cut short. A gap knows how many octets it takes.

A text can also be cut by numbers of octets (`cut?`), but not within a character.
-/

set_option autoImplicit false

namespace VulnScan.Text.Utf8

/-- The number of octets that characters take. -/
def size (s : List Char) : Nat := s.foldl (fun n c => n + c.utf8Size) 0

/-- What follows the first `n` octets of a text, unless these end within a character. -/
def drop? : (n : Nat) → List Char → Option (List Char)
  | 0, s => some s
  | _ + 1, [] => none
  | n + 1, c :: s => if c.utf8Size ≤ n + 1 then drop? (n + 1 - c.utf8Size) s else none

/-- The first `n` octets of a text, unless these end within a character. -/
def take? : (n : Nat) → List Char → Option (List Char)
  | 0, _ => some []
  | _ + 1, [] => none
  | n + 1, c :: s =>
    if c.utf8Size ≤ n + 1 then (take? (n + 1 - c.utf8Size) s).map (c :: ·) else none

/-- The octets of a text from `low` up to `high`, unless a character lies across one of the two. -/
def cut? (low high : Nat) (s : List Char) : Option (List Char) := do
  take? (high - low) (← drop? low s)

/-- What octets hold: a character, or a number of octets that write none. -/
inductive Mark where
  | char (c : Char)
  | gap (octets : Nat)
deriving DecidableEq

/-- A character that has begun: the bits so far, how many octets are owed after the next one, the
bounds of the next one, and how many octets have been seen. -/
structure Begun where
  bits : Nat
  owed : Nat
  seen : Nat := 1
  low : Nat := 0x80
  high : Nat := 0xBF
deriving DecidableEq

/-- What an octet leads to. -/
inductive Step where
  | whole (c : Char)
  | begun (b : Begun)
  /-- No character begins with it. -/
  | stray
deriving DecidableEq

/-- What an octet between two characters leads to. Bounds on the second octet keep out characters
that would take more octets than they need, surrogates and what lies beyond the last code point. -/
def start (o : UInt8) : Step :=
  let n := o.toNat
  if n < 0x80 then .whole (Char.ofNat n)
  else if n < 0xC2 then .stray
  else if n < 0xE0 then .begun { bits := n - 0xC0, owed := 0 }
  else if n = 0xE0 then .begun { bits := 0, owed := 1, low := 0xA0 }
  else if n = 0xED then .begun { bits := 0xD, owed := 1, high := 0x9F }
  else if n < 0xF0 then .begun { bits := n - 0xE0, owed := 1 }
  else if n = 0xF0 then .begun { bits := 0, owed := 2, low := 0x90 }
  else if n < 0xF4 then .begun { bits := n - 0xF0, owed := 2 }
  else if n = 0xF4 then .begun { bits := 4, owed := 2, high := 0x8F }
  else .stray

/-- What a further octet of a character leads to, if it can be one. -/
def Begun.next (b : Begun) (o : UInt8) : Option Step :=
  let n := o.toNat
  if b.low ≤ n ∧ n ≤ b.high then
    let bits := 64 * b.bits + (n - 0x80)
    some <|
      if b.owed = 0 then .whole (Char.ofNat bits)
      else .begun { bits, owed := b.owed - 1, seen := b.seen + 1 }
  else none

/-- The characters and the gaps in octets, where a character may have begun before them. -/
def decodeFrom : Option Begun → List UInt8 → List Mark
  | none, [] => []
  | some b, [] => [.gap b.seen]
  | b, o :: os =>
    let (gap, step) : List Mark × Step := match b with
      | none => ([], start o)
      | some b =>
        match b.next o with
        | some step => ([], step)
        | none => ([.gap b.seen], start o)
    gap ++ match step with
      | .whole c => .char c :: decodeFrom none os
      | .begun b => decodeFrom (some b) os
      | .stray => .gap 1 :: decodeFrom none os

/-- The characters and the gaps in octets. -/
def decode (os : List UInt8) : List Mark := decodeFrom none os

/-- How people are shown a character or a gap. -/
def Mark.shown : Mark → Char
  | .char c => c
  | .gap _ => '\uFFFD'

/-- The text in octets, for people. -/
def text (os : List UInt8) : String := String.ofList ((decode os).map Mark.shown)

end VulnScan.Text.Utf8
