import VulnScan.Json.Value

/-!
# Printing JSON

A value is printed compactly, without any blanks, or laid out over lines with two blanks per level.
Strings are escaped as little as possible: the quote, the backslash and the control characters.
Only values without faults have a text; of a faulty one the faults are left out.
-/

set_option autoImplicit false

namespace VulnScan.Json

/-- How one character is written inside a string. -/
def escapeChar (c : Char) : List Char :=
  if c = '"' then ['\\', '"']
  else if c = '\\' then ['\\', '\\']
  else if c = '\n' then ['\\', 'n']
  else if c = '\r' then ['\\', 'r']
  else if c = '\t' then ['\\', 't']
  else if c.toNat = 8 then ['\\', 'b']
  else if c.toNat = 12 then ['\\', 'f']
  else if c.toNat < 32 then
    ['\\', 'u', '0', '0', Text.hexDigit (c.toNat / 16), Text.hexDigit c.toNat]
  else [c]

/-- A string with its quotes. -/
def printString (s : String) : List Char := '"' :: s.toList.flatMap escapeChar ++ ['"']

/-- A string that may be flawed. -/
def printContent : Content → List Char
  | .ok s => printString s
  | .error _ => ['"', '"']

/-- A value that has no parts. -/
def printAtom : Value → List Char
  | .null => ['n', 'u', 'l', 'l']
  | .bool true => ['t', 'r', 'u', 'e']
  | .bool false => ['f', 'a', 'l', 's', 'e']
  | .number l => l.spell
  | .string content => printContent content
  | _ => []

mutual

/-- The compact text of a value. -/
def Value.compact : Value → List Char
  | .array items _ => '[' :: compactItems items ++ [']']
  | .object members _ => '\x7b' :: compactMembers members ++ ['\x7d']
  | .keyless v => '\x7b' :: v.compact
  | v => printAtom v

/-- The compact texts of items, separated by commas. -/
def compactItems : List Value → List Char
  | [] => []
  | [v] => v.compact
  | v :: w :: vs => v.compact ++ ',' :: compactItems (w :: vs)

/-- The compact texts of members, separated by commas. -/
def compactMembers : List (Content × Value) → List Char
  | [] => []
  | [(k, v)] => printContent k ++ ':' :: v.compact
  | (k, v) :: m :: ms => printContent k ++ ':' :: v.compact ++ ',' :: compactMembers (m :: ms)

end

/-- A new line at a level of nesting. -/
def newLine (level : Nat) : List Char := '\n' :: List.replicate (2 * level) ' '

mutual

/-- The text of a value over several lines, starting at a level of nesting. -/
def Value.prettyAt (level : Nat) : Value → List Char
  | .array [] _ => ['[', ']']
  | .array items _ => '[' :: prettyItems (level + 1) items ++ newLine level ++ [']']
  | .object [] _ => ['\x7b', '\x7d']
  | .object members _ => '\x7b' :: prettyMembers (level + 1) members ++ newLine level ++ ['\x7d']
  | .keyless v => '\x7b' :: v.prettyAt level
  | v => printAtom v

/-- The texts of items, each on its own line. -/
def prettyItems (level : Nat) : List Value → List Char
  | [] => []
  | [v] => newLine level ++ v.prettyAt level
  | v :: w :: vs => newLine level ++ v.prettyAt level ++ ',' :: prettyItems level (w :: vs)

/-- The texts of members, each on its own line. -/
def prettyMembers (level : Nat) : List (Content × Value) → List Char
  | [] => []
  | [(k, v)] => newLine level ++ printContent k ++ [':', ' '] ++ v.prettyAt level
  | (k, v) :: m :: ms =>
    newLine level ++ printContent k ++ [':', ' '] ++ v.prettyAt level
      ++ ',' :: prettyMembers level (m :: ms)

end

/-- The text of a value over several lines. -/
def Value.pretty (v : Value) : List Char := v.prettyAt 0

end VulnScan.Json
