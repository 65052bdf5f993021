import VulnScan.Text.Ranges

/-!
# Blank characters

The blank characters are the members of the Unicode class `White_Space`. A target typed by an
operator, an entry of a comma-separated list and a command line are all trimmed and split with
respect to this class, so it is kept in one place.

The table `blankRanges` lists the class; `isBlank` decides membership, `trim` removes blanks at
both ends and `words` splits at runs of them.
-/

set_option autoImplicit false

namespace VulnScan.Text

/-- The code points of the class `White_Space`, as closed ranges in increasing order. -/
def blankRanges : List (Nat × Nat) :=
  [(0x9, 0xD), (0x20, 0x20), (0x85, 0x85), (0xA0, 0xA0), (0x1680, 0x1680), (0x2000, 0x200A),
   (0x2028, 0x2029), (0x202F, 0x202F), (0x205F, 0x205F), (0x3000, 0x3000)]

/-- Whether `c` is a blank. -/
def isBlank (c : Char) : Bool := inRanges blankRanges c.toNat

/-- `s` without the blanks at its start. -/
def trimLeft (s : List Char) : List Char := s.dropWhile isBlank

/-- `s` without the blanks at its end. -/
def trimRight (s : List Char) : List Char := (s.reverse.dropWhile isBlank).reverse

/-- `s` without the blanks at either end. -/
def trim (s : List Char) : List Char := trimRight (trimLeft s)

/-- The text `s` without the blanks at either end. -/
def trimmed (s : String) : String := String.ofList (trim s.toList)

/-- Puts one character in front of a list of words: a blank separates, any other character
extends the first word. The flag tells whether the first word may be extended. -/
def wordStep (c : Char) : Bool × List (List Char) → Bool × List (List Char)
  | (isOpen, ws) =>
    if isBlank c then (false, ws)
    else match isOpen, ws with
      | true, w :: rest => (true, (c :: w) :: rest)
      | _, ws => (true, [c] :: ws)

/-- The words of `s`: its maximal blank-free pieces, in order. -/
def words (s : List Char) : List (List Char) := (s.foldr wordStep (false, [])).2

end VulnScan.Text
