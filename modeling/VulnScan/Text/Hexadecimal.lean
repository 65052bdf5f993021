/-! # Hexadecimal numerals

Escapes in texts and the groups of long addresses are hexadecimal. Digits are written in lower
case and read in either case.
-/

set_option autoImplicit false

namespace VulnScan.Text

/-- The hexadecimal digit of `d` modulo sixteen. -/
def hexDigit (d : Nat) : Char :=
  if d % 16 < 10 then Char.ofNat (48 + d % 16) else Char.ofNat (87 + d % 16)

/-- The hexadecimal numeral of `n`, without leading zeros. -/
def hexDigits (n : Nat) : List Char :=
  if n < 16 then [hexDigit n] else hexDigits (n / 16) ++ [hexDigit n]
termination_by n

/-- The number a hexadecimal digit stands for. -/
def hexValue? (c : Char) : Option Nat :=
  if '0' ≤ c ∧ c ≤ '9' then some (c.toNat - 48)
  else if 'a' ≤ c ∧ c ≤ 'f' then some (c.toNat - 87)
  else if 'A' ≤ c ∧ c ≤ 'F' then some (c.toNat - 55)
  else none

/-- The number that `s` starts with, read after `n`, and the rest of `s`. -/
def spanHex (n : Nat) : List Char → Nat × List Char
  | [] => (n, [])
  | c :: cs =>
    match hexValue? c with
    | some d => spanHex (16 * n + d) cs
    | none => (n, c :: cs)

/-! ## Small facts -/

/-- Reading a digit gives its number. -/
theorem hexValue?_hexDigit (d : Nat) : hexValue? (hexDigit d) = some (d % 16) := by
  have all : ∀ k < 16, hexValue? (hexDigit k) = some k := by decide
  have h : hexDigit d = hexDigit (d % 16) := by simp [hexDigit]
  rw [h]
  exact all (d % 16) (Nat.mod_lt _ (by decide))

end VulnScan.Text
