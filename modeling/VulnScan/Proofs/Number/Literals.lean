import VulnScan.Number.Single
import VulnScan.Proofs.Json.Codecs

/-! # Literals of scores

What `Layout.literal` spells is a number as JSON wants it (`Layout.sound_literal`), and a score has
a literal exactly if it is finite (`Single.literal?_cases`).
-/

set_option autoImplicit false

namespace VulnScan.Number

/-- The literals of a layout keep to the grammar of numbers: no zero in front, a digit on either
side of the point, and digits in the exponent. -/
theorem Layout.sound_literal (y : Layout) (negative : Bool) (d : Decimal) :
    (y.literal negative d).Sound := by
  have hds : ∀ c ∈ Text.digits d.digits, Text.isDigit c = true :=
    fun _ => Text.isDigit_of_mem_digits
  have hzeros : ∀ k, ∀ c ∈ List.replicate k '0', Text.isDigit c = true := fun k c hc => by
    rw [List.eq_of_mem_replicate hc]
    rfl
  have hzero : ∀ c ∈ ['0'], Text.isDigit c = true := hzeros 1
  rw [Layout.literal]
  split
  · exact ⟨hzero, nofun, fun _ => rfl, hzero, nofun⟩
  · next hne =>
    -- the first digit is no zero, since the number is none
    obtain ⟨c, cs, hcs⟩ := List.exists_cons_of_ne_nil (Text.digits_ne_nil d.digits)
    have hfirst : c ≠ '0' := by
      rintro rfl
      have hdigits := Text.digits_head_zero (n := d.digits) (by rw [hcs]; rfl)
      have hvalue := Text.value_digits d.digits
      rw [hdigits] at hvalue
      exact hne hvalue.symm
    have htake : ∀ k, ∀ b ∈ (Text.digits d.digits).take k, Text.isDigit b = true :=
      fun _ b hb => hds b (List.mem_of_mem_take hb)
    have hdrop : ∀ k, ∀ b ∈ (Text.digits d.digits).drop k, Text.isDigit b = true :=
      fun _ b hb => hds b (List.mem_of_mem_drop hb)
    have hhead : ∀ {t : List Char}, (c :: t).head? = some '0' → c :: t = ['0'] := fun h =>
      absurd (Option.some.inj h) hfirst
    split
    · split
      · refine ⟨?_, by simp [hcs], by rw [hcs]; exact hhead, hzero, nofun⟩
        intro b hb
        rcases List.mem_append.1 hb with hb | hb
        · exact hds b hb
        · exact hzeros _ b hb
      · split
        · refine ⟨htake _, by simp [hcs], ?_, hdrop _, nofun⟩
          rw [hcs]
          exact hhead
        · refine ⟨hzero, nofun, fun _ => rfl, ?_, nofun⟩
          intro b hb
          rcases List.mem_append.1 hb with hb | hb
          · exact hzeros _ b hb
          · exact hds b hb
    · refine ⟨htake 1, by simp [hcs], by rw [hcs]; exact hhead, hdrop 1, ?_⟩
      rintro _ ds ⟨⟩
      exact ⟨Text.digits_ne_nil _, fun _ => Text.isDigit_of_mem_digits⟩

namespace Single

/-- The number is written as a literal that is read back as the same number. -/
def ReadsBack (x : Single) : Prop := (x.literal?.bind Literal.numeral?).map ofNumeral = some x

instance (x : Single) : Decidable x.ReadsBack :=
  inferInstanceAs (Decidable (_ = _))

/-- Only finite numbers have a literal, and it keeps to the grammar. -/
theorem literal?_cases (x : Single) :
    (x.isFinite = true ∧ ∃ l, x.literal? = some l ∧ l.Sound) ∨
      (x.isFinite = false ∧ x.literal? = none) := by
  rw [isFinite, literal?]
  cases x.toBinary with
  | finite negative m e => exact .inl ⟨rfl, _, rfl, layout.sound_literal _ _⟩
  | infinite negative => exact .inr ⟨rfl, rfl⟩
  | nan => exact .inr ⟨rfl, rfl⟩

end Single

end VulnScan.Number
