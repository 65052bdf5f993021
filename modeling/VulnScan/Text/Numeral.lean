/-!
# Decimal numerals

Ports, concurrency limits, deadlines and the like are written as unsigned decimal numerals and
have an upper bound. `digits` writes a number in the only way without leading zeros, `value` reads
a list of digits, and `parseBelow` is the reader for settings and port lists: an optional plus
sign, at least one digit, nothing else, and a value below the bound.
-/

set_option autoImplicit false

namespace VulnScan.Text

/-- The character of a digit below ten. -/
def digitChar (d : Nat) : Char := Char.ofNat (48 + d % 10)

/-- The digits of `n`, most significant first, without leading zeros. -/
def digits (n : Nat) : List Char :=
  if n < 10 then [digitChar n] else digits (n / 10) ++ [digitChar n]
termination_by n

/-- The numeral of `n` as a text. -/
def decimal (n : Nat) : String := String.ofList (digits n)

/-- The numeral of `n`, filled with zeros on the left to at least `width` digits. -/
def padded (width n : Nat) : List Char :=
  let ds := digits n
  List.replicate (width - ds.length) '0' ++ ds

/-- The numeral of an integer: a minus sign stands before a negative one. -/
def decimalInt (n : Int) : String :=
  if n < 0 then String.ofList ('-' :: digits n.natAbs) else decimal n.natAbs

/-- Whether `c` is one of the ten ASCII digits. -/
def isDigit (c : Char) : Bool := '0' ≤ c && c ≤ '9'

/-- The number a digit stands for. -/
def digitValue (c : Char) : Nat := c.toNat - 48

/-- The number written by a list of digits, read after `start`. -/
def valueFrom (start : Nat) (ds : List Char) : Nat :=
  ds.foldl (fun n c => 10 * n + digitValue c) start

/-- The number written by a list of digits. -/
def value (ds : List Char) : Nat := valueFrom 0 ds

/-- The number written by `ds`, if `ds` is a nonempty list of digits. -/
def numeral? (ds : List Char) : Option Nat :=
  if ds ≠ [] ∧ ds.all isDigit then some (value ds) else none

/-- `s` without a plus sign at its start. -/
def dropPlus : List Char → List Char
  | '+' :: r => r
  | s => s

/-- Reads an unsigned numeral below `bound`; one plus sign may precede it. -/
def parseBelow (bound : Nat) (s : List Char) : Option (Fin bound) := do
  let n ← numeral? (dropPlus s)
  if h : n < bound then some ⟨n, h⟩ else none

/-! ## Small facts -/

theorem digitChar_facts (d : Nat) :
    digitValue (digitChar d) = d % 10 ∧ isDigit (digitChar d) = true := by
  have h : d % 10 < 10 := Nat.mod_lt _ (by decide)
  have all : ∀ k < 10, digitValue (Char.ofNat (48 + k)) = k ∧
      isDigit (Char.ofNat (48 + k)) = true := by decide
  exact all (d % 10) h

theorem valueFrom_append (n : Nat) (a b : List Char) :
    valueFrom n (a ++ b) = valueFrom (valueFrom n a) b := by
  simp [valueFrom, List.foldl_append]

/-- Reading the digits of a number gives the number. -/
theorem value_digits (n : Nat) : value (digits n) = n := by
  fun_induction digits n with
  | case1 n h =>
    simp [value, valueFrom, digitChar_facts, Nat.mod_eq_of_lt h]
  | case2 n h ih =>
    simp only [value, valueFrom_append] at ih ⊢
    rw [ih]
    simp only [valueFrom, List.foldl_cons, List.foldl_nil, (digitChar_facts n).1]
    omega

theorem digits_ne_nil (n : Nat) : digits n ≠ [] := by
  unfold digits
  split <;> simp

/-- Numerals consist of digits. -/
theorem digits_all_isDigit (n : Nat) : (digits n).all isDigit = true := by
  fun_induction digits n with
  | case1 n h => simp [digitChar_facts]
  | case2 n h ih => simp [ih, digitChar_facts]

/-- The numeral of a number is read as that number. -/
theorem numeral?_digits (n : Nat) : numeral? (digits n) = some n := by
  simp only [numeral?, digits_all_isDigit, value_digits]
  simp [digits_ne_nil]

end VulnScan.Text
