import VulnScan.Error
import VulnScan.Proofs.Net.Addresses

/-! # What an operator types as a target

Only what is left of the text when it is trimmed counts. A text of an address is that address, even
if it could be a host name; the empty text and texts with blanks or slashes are refused; all else is
a host name (`read_classified`). The endpoint that is read is shown in a text that is read as the
same endpoint, since an address is shown in one of its texts, which has no blanks, and a host name
as it was typed.
-/

set_option autoImplicit false

namespace VulnScan.Net

/-- No character of an address is a blank. -/
theorem Address.isBlank_of_isAddressChar {c : Char} (h : isAddressChar c = true) :
    Text.isBlank c = false := by
  have hcode : 33 ≤ c.toNat ∧ c.toNat ≤ 126 := by
    simp only [isAddressChar, Bool.or_eq_true, decide_eq_true_eq] at h
    rcases h with (hdigit | rfl) | rfl
    · simp only [Text.hexValue?] at hdigit
      split at hdigit
      · next hc => exact ⟨Nat.le_trans (by decide) hc.1, Nat.le_trans hc.2 (by decide)⟩
      · split at hdigit
        · next hc => exact ⟨Nat.le_trans (by decide) hc.1, Nat.le_trans hc.2 (by decide)⟩
        · split at hdigit
          · next hc => exact ⟨Nat.le_trans (by decide) hc.1, Nat.le_trans hc.2 (by decide)⟩
          · cases hdigit
    · decide
    · decide
  have hcodes : ∀ n < 127, 33 ≤ n → Text.inRanges Text.blankRanges n = false := by decide
  exact hcodes c.toNat (by omega) hcode.1

theorem Address.Denotes.unique {t : List Char} {a b : Address} (ha : Denotes t a)
    (hb : Denotes t b) : a = b := by
  have hread := ha.read?_eq
  rw [hb.read?_eq] at hread
  exact (Option.some.inj hread).symm

namespace Endpoint

variable {s : String} {t : List Char}

/-- The text denotes an address. -/
def IsAddress (t : List Char) : Prop := ∃ a, Address.Denotes t a

/-- The text has a character that no host name has. -/
def IsBarred (t : List Char) : Prop := ∃ c ∈ t, Text.isBlank c = true ∨ c = '/'

/-- What is read of a text that is `t` when it is trimmed: there are four cases, and each says what
no other does. -/
theorem read_cases (ht : Text.Trims s.toList t) :
    (t = [] ∧ read s = .error .empty) ∨
    (∃ a, Address.Denotes t a ∧ read s = .ok (ofAddress a)) ∨
    (t ≠ [] ∧ ¬ IsAddress t ∧ IsBarred t ∧ read s = .error (.unusable (String.ofList t))) ∨
    (t ≠ [] ∧ ¬ IsAddress t ∧ ¬ IsBarred t ∧ read s = .ok (ofHostname (String.ofList t))) := by
  have htrim : Text.trim s.toList = t := Text.trims_iff.1 ht
  by_cases hnil : t = []
  · refine .inl ⟨hnil, ?_⟩
    simp only [read, htrim, if_pos hnil]
  · cases haddress : Address.read? t with
    | some a =>
      refine .inr (.inl ⟨a, Address.read?_iff.1 haddress, ?_⟩)
      simp only [read, htrim, if_neg hnil, haddress]
    | none =>
      have hnot : ¬ IsAddress t := by
        rintro ⟨a, ha⟩
        rw [ha.read?_eq] at haddress
        cases haddress
      have hbarred : (t.any fun c => Text.isBlank c || c = '/') = true ↔ IsBarred t := by
        simp [IsBarred, List.any_eq_true]
      by_cases hb : IsBarred t
      · refine .inr (.inr (.inl ⟨hnil, hnot, hb, ?_⟩))
        simp only [read, htrim, if_neg hnil, haddress, if_pos (hbarred.2 hb)]
      · refine .inr (.inr (.inr ⟨hnil, hnot, hb, ?_⟩))
        simp only [read, htrim, if_neg hnil, haddress, if_neg (mt hbarred.1 hb)]

/-- Just the texts of an address are read as the address. -/
theorem read_eq_ofAddress_iff (ht : Text.Trims s.toList t) (a : Address) :
    read s = .ok (ofAddress a) ↔ Address.Denotes t a := by
  rcases read_cases ht with ⟨hnil, hread⟩ | ⟨b, hb, hread⟩ | ⟨-, hnot, -, hread⟩ |
    ⟨-, hnot, -, hread⟩
  · rw [hread]
    exact ⟨nofun, fun ha => absurd hnil ha.ne_nil⟩
  · constructor
    · intro ha
      rw [hread] at ha
      cases ha
      exact hb
    · intro ha
      rw [hread, ha.unique hb]
  · rw [hread]
    exact ⟨nofun, fun ha => absurd ⟨a, ha⟩ hnot⟩
  · rw [hread]
    exact ⟨nofun, fun ha => absurd ⟨a, ha⟩ hnot⟩

/-- Just the texts that are neither empty nor of an address and have no barred character are read as
the name of a host. -/
theorem read_eq_ofHostname_iff (ht : Text.Trims s.toList t) (name : String) :
    read s = .ok (ofHostname name) ↔
      t ≠ [] ∧ ¬ IsAddress t ∧ ¬ IsBarred t ∧ name = String.ofList t := by
  rcases read_cases ht with ⟨hnil, hread⟩ | ⟨b, hb, hread⟩ | ⟨-, -, hbarred, hread⟩ |
    ⟨hne, hnot, hfree, hread⟩
  · rw [hread]
    exact ⟨nofun, fun h => absurd hnil h.1⟩
  · rw [hread]
    exact ⟨nofun, fun h => absurd ⟨b, hb⟩ h.2.1⟩
  · rw [hread]
    exact ⟨nofun, fun h => absurd hbarred h.2.2.1⟩
  · constructor
    · intro h
      rw [hread] at h
      cases h
      exact ⟨hne, hnot, hfree, rfl⟩
    · rintro ⟨-, -, -, rfl⟩
      exact hread

/-- Just the other texts are refused. -/
theorem read_eq_error_iff (ht : Text.Trims s.toList t) :
    (∃ f, read s = .error f) ↔ t = [] ∨ (¬ IsAddress t ∧ IsBarred t) := by
  rcases read_cases ht with ⟨hnil, hread⟩ | ⟨b, hb, hread⟩ | ⟨-, hnot, hbarred, hread⟩ |
    ⟨hne, -, hfree, hread⟩
  · exact ⟨fun _ => .inl hnil, fun _ => ⟨_, hread⟩⟩
  · rw [hread]
    refine ⟨nofun, fun h => ?_⟩
    rcases h with hnil | ⟨hnot, -⟩
    · exact absurd hnil hb.ne_nil
    · exact absurd ⟨b, hb⟩ hnot
  · exact ⟨fun _ => .inr ⟨hnot, hbarred⟩, fun _ => ⟨_, hread⟩⟩
  · rw [hread]
    refine ⟨nofun, fun h => ?_⟩
    rcases h with hnil | ⟨-, hbarred⟩
    · exact absurd hnil hne
    · exact absurd hbarred hfree

/-- The error of a text that is refused cites what is left of it. -/
theorem error_of_read (ht : Text.Trims s.toList t) {f : Refusal} (h : read s = .error f) :
    Error.ofRefusal f = .target (if t = [] then "empty target" else String.ofList t) := by
  rcases read_cases ht with ⟨hnil, hread⟩ | ⟨b, hb, hread⟩ | ⟨hne, -, -, hread⟩ |
    ⟨-, -, -, hread⟩ <;> rw [hread] at h <;> cases h
  · rw [if_pos hnil]
    rfl
  · rw [if_neg hne]
    rfl

/-- What is read is an address or the name of a host. -/
theorem eq_of_read {e : Endpoint} (h : read s = .ok e) :
    (∃ a, e = ofAddress a) ∨ ∃ name, e = ofHostname name := by
  rcases read_cases (Text.trims_trim s.toList) with ⟨-, hread⟩ | ⟨a, -, hread⟩ | ⟨-, -, -, hread⟩ |
    ⟨-, -, -, hread⟩ <;> rw [hread] at h <;> cases h
  · exact .inl ⟨a, rfl⟩
  · exact .inr ⟨_, rfl⟩

theorem text_ofAddress (a : Address) : (ofAddress a).text = a.text := by
  cases a <;> rfl

/-- An address is read as it is shown. -/
theorem read_text_ofAddress (a : Address) : read (ofAddress a).text = .ok (ofAddress a) := by
  have hdenotes := Address.denotes_spell a
  have hnoBlank : ∀ c ∈ a.spell, Text.isBlank c = false := fun c hc =>
    Address.isBlank_of_isAddressChar (hdenotes.isAddressChar c hc)
  have htrims : Text.Trims (ofAddress a).text.toList a.spell := by
    rw [text_ofAddress, Address.text, String.toList_ofList]
    exact Text.trims_iff.2 (Text.isTrimmed_of_noBlank hnoBlank).trim_eq
  exact (read_eq_ofAddress_iff htrims a).2 hdenotes

/-- What is left of a text is read like the text. -/
theorem read_ofList (ht : Text.Trims s.toList t) : read (String.ofList t) = read s := by
  have htrim : Text.trim s.toList = t := Text.trims_iff.1 ht
  have hself : Text.trim t = t := ht.1.trim_eq
  simp only [read, String.toList_ofList, htrim, hself]

/-- Blanks around a text do not count. -/
theorem read_padded {before after : String} (hbefore : Text.AllBlank before.toList)
    (hafter : Text.AllBlank after.toList) : read (before ++ s ++ after) = read s := by
  have htrim : Text.trim (before ++ s ++ after).toList = Text.trim s.toList := by
    rw [String.toList_append, String.toList_append]
    exact Text.trim_append hbefore hafter
  simp only [read, htrim]

/-- An endpoint is read again from its own text. -/
theorem read_text {e : Endpoint} (ht : Text.Trims s.toList t) (h : read s = .ok e) :
    read e.text = .ok e := by
  rcases eq_of_read h with ⟨a, rfl⟩ | ⟨name, rfl⟩
  · exact read_text_ofAddress a
  · obtain ⟨-, -, -, rfl⟩ := (read_eq_ofHostname_iff ht name).1 h
    exact (read_ofList ht).trans h

/-- **How a target is read.** Let `t` be the text without the blanks at its ends. It is read as an
address exactly if `t` is a text of that address; it is refused exactly if `t` is empty, or if it
is no address and has a blank or a slash; else it is read as the host name `t`. Whatever endpoint is
read is either an address or a host name and has no port, is read again from its own text, and is
read with any blanks around the text. -/
theorem read_classified (ht : Text.Trims s.toList t) :
    (∀ a, read s = .ok (ofAddress a) ↔ Address.Denotes t a) ∧
    ((∃ f, read s = .error f) ↔ t = [] ∨ (¬ IsAddress t ∧ IsBarred t)) ∧
    (∀ f, read s = .error f →
      Error.ofRefusal f = .target (if t = [] then "empty target" else String.ofList t)) ∧
    (∀ name, read s = .ok (ofHostname name) ↔
      t ≠ [] ∧ ¬ IsAddress t ∧ ¬ IsBarred t ∧ name = String.ofList t) ∧
    ∀ e, read s = .ok e →
      ((∃ a, e = ofAddress a) ∨ ∃ name, e = ofHostname name) ∧
      (e.address.isSome ↔ e.hostname = none) ∧ e.port = none ∧
      read e.text = .ok e ∧
      ∀ before after : String, Text.AllBlank before.toList → Text.AllBlank after.toList →
        read (before ++ s ++ after) = .ok e := by
  refine ⟨read_eq_ofAddress_iff ht, read_eq_error_iff ht, fun f => error_of_read ht,
    read_eq_ofHostname_iff ht, fun e h => ⟨eq_of_read h, ?_, ?_, read_text ht h,
      fun before after hbefore hafter => (read_padded hbefore hafter).trans h⟩⟩
  · rcases eq_of_read h with ⟨a, rfl⟩ | ⟨name, rfl⟩
    · exact iff_of_true rfl rfl
    · exact iff_of_false nofun nofun
  · rcases eq_of_read h with ⟨a, rfl⟩ | ⟨name, rfl⟩
    · rfl
    · rfl

/-- An address of eight groups that stands for one of four octets. -/
def carrier : Address := .long #v[0, 0, 0, 0, 0, 65535, 2560, 1]

/-- An address in capitals and with octets, between blanks. It is shown in another text, which is
read as the same address. -/
theorem read_carrier :
    Text.Trims " ::FFFF:10.0.0.1\t".toList "::FFFF:10.0.0.1".toList ∧
    read " ::FFFF:10.0.0.1\t" = .ok (ofAddress carrier) ∧
    (ofAddress carrier).text = "::ffff:10.0.0.1" ∧
    read "::ffff:10.0.0.1" = .ok (ofAddress carrier) := by
  have htrims : Text.Trims " ::FFFF:10.0.0.1\t".toList "::FFFF:10.0.0.1".toList :=
    Text.trims_iff.2 (by decide)
  have hdenotes : Address.Denotes "::FFFF:10.0.0.1".toList carrier :=
    Address.read?_iff.1 (by decide)
  have htext : (ofAddress carrier).text = "::ffff:10.0.0.1" := by decide +kernel
  obtain ⟨haddress, -, -, -, hendpoint⟩ := read_classified htrims
  have hread := (haddress carrier).2 hdenotes
  obtain ⟨-, -, -, hagain, -⟩ := hendpoint _ hread
  rw [htext] at hagain
  exact ⟨htrims, hread, htext, hagain⟩

end Endpoint

end VulnScan.Net
