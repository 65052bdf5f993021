/-!
# Comparing names without regard to ASCII case

Service names, software names and the names of log formats are compared letter by letter after
both sides are lowered. Only the letters `A` to `Z` have a lower form here: every other character,
letters of other alphabets included, is compared as it stands.
-/

set_option autoImplicit false

namespace VulnScan.Text

/-- The lower form of an ASCII capital; any other character stays as it is. -/
def lower (c : Char) : Char :=
  if 'A' ≤ c ∧ c ≤ 'Z' then Char.ofNat (c.toNat + 32) else c

/-- `s` with its ASCII capitals lowered. -/
def lowered (s : String) : String := String.ofList (s.toList.map lower)

/-- Whether `a` and `b` differ at most in the case of ASCII letters. -/
def sameName (a b : String) : Bool := a.toList.map lower == b.toList.map lower

/-! ## Small facts -/

theorem sameName_iff {a b : String} :
    sameName a b = true ↔ a.toList.map lower = b.toList.map lower := by
  simp [sameName]

theorem sameName_refl (a : String) : sameName a a = true := by simp [sameName]

end VulnScan.Text
