/-! # Words

Whole numbers in settings and messages are words of a fixed width. `Word` has 32 bits and
`LongWord` has 64.
-/

set_option autoImplicit false

namespace VulnScan.Number

/-- How many words there are. -/
abbrev wordBound : Nat := 0x100000000

/-- How many long words there are. -/
abbrev longWordBound : Nat := 0x10000000000000000

/-- A number of 32 bits. -/
abbrev Word := Fin wordBound

/-- A number of 64 bits. -/
abbrev LongWord := Fin longWordBound

/-- There are words, so numerals denote some. -/
instance neZero_word : @NeZero Nat Zero.ofOfNat0 wordBound := ⟨by decide⟩

/-- There are long words, so numerals denote some. -/
instance neZero_longWord : @NeZero Nat Zero.ofOfNat0 longWordBound := ⟨by decide⟩

end VulnScan.Number
