import VulnScan.Text.Hexadecimal
import VulnScan.Text.Numeral
import VulnScan.Text.Split

/-! # Addresses of hosts

An address has either four octets or eight groups of 16 bits. Octets are written in decimal and
separated by points. Groups are written in hexadecimal and separated by colons; the longest run of
at least two zero groups, the first of several, is written as two colons. An address that stands
for one of four octets (five zero groups, one of ones, then the octets) ends in its octets.

Reading is stricter in the short form, where no octet has a leading zero, than in the long one,
where any address may end in four octets and two colons stand for one zero group or more.
-/

set_option autoImplicit false

namespace VulnScan.Net

/-- Part of a short address. -/
abbrev Octet := Fin 256

/-- Part of a long address. -/
abbrev Group := Fin 65536

/-- There are octets, so numerals denote some. -/
instance neZero_octet : @NeZero Nat Zero.ofOfNat0 256 := ⟨by decide⟩

/-- There are groups, so numerals denote some. -/
instance neZero_group : @NeZero Nat Zero.ofOfNat0 65536 := ⟨by decide⟩

/-- The address of a host. -/
inductive Address where
  | short (a b c d : Octet)
  | long (groups : Vector Group 8)
deriving DecidableEq

namespace Address

instance : Inhabited Address := ⟨.short 0 0 0 0⟩

/-! ## Writing -/

/-- Four octets. -/
def quadText (a b c d : Octet) : List Char :=
  Text.joinWith ['.'] ([a, b, c, d].map fun o : Octet => Text.digits o)

/-- Groups between colons. -/
def groupsText (gs : List Group) : List Char :=
  Text.joinWith [':'] (gs.map fun g : Group => Text.hexDigits g)

/-- The number of zeros at the start of `gs`. -/
def zeroRun (gs : List Group) : Nat := (gs.takeWhile (· = 0)).length

/-- The place and the length of the longest run of zeros in `gs`, whose first group has the number
`start`; the first of several. -/
def longestRun (start : Nat) : List Group → Nat × Nat
  | [] => (start, 0)
  | g :: gs =>
    let here := zeroRun (g :: gs)
    let later := longestRun (start + 1) gs
    if later.2 ≤ here then (start, here) else later

/-- The octets of the address that `gs` stands for. -/
def mapped? (gs : List Group) : Option (Octet × Octet × Octet × Octet) :=
  match gs with
  | [0, 0, 0, 0, 0, ones, g, h] =>
    if ones.val = 0xffff then
      some (Fin.ofNat 256 (g / 256), Fin.ofNat 256 g, Fin.ofNat 256 (h / 256), Fin.ofNat 256 h)
    else none
  | _ => none

/-- Eight groups. -/
def longText (gs : List Group) : List Char :=
  match mapped? gs with
  | some (a, b, c, d) => [':', ':', 'f', 'f', 'f', 'f', ':'] ++ quadText a b c d
  | none =>
    let (start, length) := longestRun 0 gs
    if length < 2 then groupsText gs
    else groupsText (gs.take start) ++ [':', ':'] ++ groupsText (gs.drop (start + length))

/-- How an address is written. -/
def spell : Address → List Char
  | .short a b c d => quadText a b c d
  | .long groups => longText groups.toList

/-- The text of an address. -/
def text (a : Address) : String := String.ofList a.spell

/-! ## Reading -/

/-- The octet that `s` starts with, and the rest. -/
def readOctet (s : List Char) : Option (Octet × List Char) :=
  let ds := s.takeWhile Text.isDigit
  if ds = [] ∨ 3 < ds.length ∨ (ds.head? = some '0' ∧ 1 < ds.length) then none
  else if h : Text.value ds < 256 then some (⟨Text.value ds, h⟩, s.dropWhile Text.isDigit)
  else none

/-- The group that `s` starts with, and the rest. -/
def readGroup (s : List Char) : Option (Group × List Char) :=
  let p := Text.spanHex 0 s
  let length := s.length - p.2.length
  if length = 0 ∨ 4 < length then none
  else if h : p.1 < 65536 then some (⟨p.1, h⟩, p.2) else none

/-- The rest of `s` after the character `c`. -/
def skip (c : Char) (s : List Char) : Option (List Char) := Text.after [c] s

/-- The four octets that `s` starts with, and the rest. -/
def readQuad (s : List Char) : Option ((Octet × Octet × Octet × Octet) × List Char) := do
  let (a, s) ← readOctet s
  let (b, s) ← readOctet (← skip '.' s)
  let (c, s) ← readOctet (← skip '.' s)
  let (d, s) ← readOctet (← skip '.' s)
  return ((a, b, c, d), s)

/-- The group of two octets. -/
def groupOf (a b : Octet) : Group := ⟨256 * a + b, by have := a.isLt; have := b.isLt; omega⟩

/-- At most `room` groups that `s` starts with, whether the last two are octets, and the rest.
Every group but the first has a colon before it. -/
def readGroups : (room : Nat) → (isFirst : Bool) → List Char → List Group × Bool × List Char
  | 0, _, s => ([], false, s)
  | room + 1, isFirst, s =>
    match if isFirst then some s else skip ':' s with
    | none => ([], false, s)
    | some body =>
      match if room = 0 then none else readQuad body with
      | some ((a, b, c, d), rest) => ([groupOf a b, groupOf c d], true, rest)
      | none =>
        match readGroup body with
        | none => ([], false, s)
        | some (g, rest) =>
          let (gs, quad, rest) := readGroups room false rest
          (g :: gs, quad, rest)

/-- The address of exactly eight groups. -/
def ofGroups? (gs : List Group) : Option Address :=
  if h : gs.length = 8 then some (.long ⟨gs.toArray, by simp [h]⟩) else none

/-- The long address that `s` starts with, and the rest. -/
def readLong (s : List Char) : Option (Address × List Char) := do
  let (front, quad, rest) := readGroups 8 true s
  if front.length = 8 then
    return (← ofGroups? front, rest)
  else if quad then none
  else
    let rest ← Text.after [':', ':'] rest
    let (back, _, rest) := readGroups (7 - front.length) true rest
    let zeros := List.replicate (8 - front.length - back.length) 0
    return (← ofGroups? (front ++ zeros ++ back), rest)

/-- The address that is written `s`. -/
def read? (s : List Char) : Option Address :=
  let found : Option (Address × List Char) := match readQuad s with
    | some ((a, b, c, d), rest) => some (.short a b c d, rest)
    | none => readLong s
  match found with
  | some (a, []) => some a
  | _ => none

/-- Whether an address has four octets. -/
def isShort : Address → Bool
  | .short _ _ _ _ => true
  | .long _ => false

/-- The address of a text. -/
def ofText? (s : String) : Option Address := read? s.toList

end Address

end VulnScan.Net
