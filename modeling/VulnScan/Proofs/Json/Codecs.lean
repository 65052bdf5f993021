import Mathlib.Data.List.Forall2
import VulnScan.Json.Choice
import VulnScan.Json.Text
import VulnScan.Proofs.Json.Reading

/-! # Codecs that lose nothing

`Returns c a b` says that what the codec writes for `a` is well formed and read back as `b`; then
both texts of `a` are read as `b`. A codec is `Faithful` if every value comes back as it is. Each
codec has one lemma here; those that put codecs together have one that asks the same of their parts.
-/

set_option autoImplicit false

namespace VulnScan.Json

namespace Codec

variable {α β : Type}

/-- What is written for `a` is well formed and read back as `b`. -/
structure Returns (c : Codec α) (a b : α) : Prop where
  sound : (c.encode a).Sound
  decode : c.decode (c.encode a) = .ok b

/-- Every value comes back as it is, and none is written as null. -/
structure Faithful (c : Codec α) : Prop where
  returns : ∀ a, c.Returns a a
  evident : ∀ a, c.encode a ≠ .null

/-! ## Texts -/

/-- A text that writes a value is decoded as that value. -/
theorem readChars_eq (c : Codec α) {v : Value} {s : List Char} (hs : Spells v s) :
    c.readChars s = c.decode v := by
  rw [readChars, readText_eq hs]
  cases hv : c.decode v <;> simp [hv, bind, Except.bind, pure, Except.pure]

theorem read_eq (c : Codec α) {v : Value} {s : List Char} (hs : Spells v s) :
    c.read (String.ofList s) = c.decode v := by
  rw [read, seenText, String.toList_ofList, hs.map_seen, readChars_eq c hs]

theorem Returns.read_compact {c : Codec α} {a b : α} (h : c.Returns a b) :
    c.read (c.compact a) = .ok b := by
  rw [compact, read_eq c (spells_compact _ h.sound), h.decode]

theorem Returns.read_pretty {c : Codec α} {a b : α} (h : c.Returns a b) :
    c.read (c.pretty a) = .ok b := by
  rw [pretty, read_eq c (spells_pretty _ h.sound), h.decode]

/-- Two values that come back are not written alike. -/
theorem Faithful.compact_injective {c : Codec α} (h : c.Faithful) :
    Function.Injective c.compact := by
  intro a b hab
  have ha := (h.returns a).read_compact
  rw [hab, (h.returns b).read_compact] at ha
  exact (Except.ok.inj ha).symm

theorem Faithful.pretty_injective {c : Codec α} (h : c.Faithful) : Function.Injective c.pretty := by
  intro a b hab
  have ha := (h.returns a).read_pretty
  rw [hab, (h.returns b).read_pretty] at ha
  exact (Except.ok.inj ha).symm

/-! ## Single values -/

theorem string_faithful : Codec.string.Faithful where
  returns _ := ⟨trivial, rfl⟩
  evident _ := nofun

theorem bool_faithful : Codec.bool.Faithful where
  returns _ := ⟨trivial, rfl⟩
  evident _ := nofun

theorem worded_returns {kind : String} {print : α → String} {read : String → Except String α}
    {a b : α} (h : read (print a) = .ok b) : (worded kind print read).Returns a b where
  sound := trivial
  decode := by
    show ((read (print a)).mapError Fault.mismatch) = .ok b
    rw [h]
    rfl

theorem worded_faithful {kind : String} {print : α → String} {read : String → Except String α}
    (h : ∀ a, read (print a) = .ok a) : (worded kind print read).Faithful where
  returns a := worded_returns (h a)
  evident _ := nofun

end Codec

end VulnScan.Json

namespace VulnScan.Number

/-- The reader of literals keeps all digits of a number that fits. -/
theorem absorb_eq {s : Nat} {ds : List Char} (h : Text.valueFrom s ds < longWordBound) :
    absorb s ds = (Text.valueFrom s ds, []) := by
  induction ds generalizing s with
  | nil => rfl
  | cons c ds ih =>
    rw [Text.valueFrom_cons] at h ⊢
    have hnext := Nat.lt_of_le_of_lt (Text.le_valueFrom _ ds) h
    rw [absorb, if_pos hnext, ih h]

theorem Literal.sound_ofNat (n : Nat) : (Literal.ofNat n).Sound where
  whole_digits _ := Text.isDigit_of_mem_digits
  whole_ne_nil := Text.digits_ne_nil n
  whole_zero := Text.digits_head_zero
  fraction_digits := nofun
  exponent_digits := nofun

theorem Literal.numeral?_ofNat {n : Nat} (h : n < longWordBound) :
    (Literal.ofNat n).numeral? = some (.natural n) := by
  have habsorb : absorb 0 (Text.digits n) = (n, []) := by
    have hvalue : Text.valueFrom 0 (Text.digits n) = n := Text.value_digits n
    rw [absorb_eq (by rwa [hvalue]), hvalue]
  simp [numeral?, ofNat, habsorb]

end VulnScan.Number

namespace VulnScan.Json.Codec

variable {α β : Type}

theorem below_faithful {bound : Nat} (hbound : bound ≤ Number.longWordBound) (kind : String) :
    (below bound kind).Faithful where
  returns n := by
    have hnumeral : numeralOf (.ofNat n) = .ok (.natural n) := by
      rw [numeralOf, Number.Literal.numeral?_ofNat (Nat.lt_of_lt_of_le n.isLt hbound)]
    refine ⟨Number.Literal.sound_ofNat n, ?_⟩
    simp [below, Value.nat, hnumeral, bind, Except.bind]
  evident _ := nofun

theorem choice_faithful {all : List α} {name : α → String} (hall : ∀ a, a ∈ all)
    (hname : ∀ a ∈ all, ∀ b ∈ all, name a = name b → a = b) : (choice all name).Faithful where
  returns a := by
    refine ⟨trivial, ?_⟩
    show pick all name (name a) = .ok a
    cases hfind : all.find? fun b => name b = name a with
    | none => simpa using List.find?_eq_none.1 hfind a (hall a)
    | some b =>
      have hb : name b = name a := by simpa using List.find?_some hfind
      rw [pick, hfind, hname b (hall b) a (hall a) hb]
  evident _ := nofun

/-! ## Values of values -/

theorem option_returns_none (c : Codec α) : c.option.Returns none none := ⟨trivial, rfl⟩

/-- A value that is written as null is lost. -/
theorem option_returns_of_null {c : Codec α} {a : α} (h : c.encode a = .null) :
    c.option.Returns (some a) none := by
  refine ⟨?_, ?_⟩
  · simp [option, h, Value.Sound]
  · simp [option, h]

theorem option_returns_some {c : Codec α} {a b : α} (h : c.Returns a b) (ha : c.encode a ≠ .null) :
    c.option.Returns (some a) (some b) := by
  have hdecode := h.decode
  refine ⟨h.sound, ?_⟩
  simp only [option]
  cases hv : c.encode a with
  | null => exact absurd hv ha
  | _ => rw [hv] at hdecode; simp [hdecode, Except.map]

theorem Faithful.option_returns {c : Codec α} (h : c.Faithful) (a : Option α) :
    c.option.Returns a a := by
  cases a with
  | none => exact option_returns_none c
  | some a => exact option_returns_some (h.returns a) (h.evident a)

/-- Item by item, in the order of the list. -/
theorem list_returns {c : Codec α} {as bs : List α} (h : List.Forall₂ c.Returns as bs) :
    c.list.Returns as bs := by
  have hitems : SoundItems (as.map c.encode) ∧ decodeItems c (as.map c.encode) = .ok bs := by
    induction h with
    | nil => exact ⟨trivial, rfl⟩
    | cons hab _ ih =>
      refine ⟨⟨hab.sound, ih.1⟩, ?_⟩
      simp [decodeItems, hab.decode, ih.2, bind, Except.bind, pure, Except.pure]
  refine ⟨hitems.1, ?_⟩
  simp [list, Value.list, hitems.2, Ending.check, bind, Except.bind, pure, Except.pure]

theorem list_faithful {c : Codec α} (h : c.Faithful) : c.list.Faithful where
  returns _ := list_returns (List.forall₂_same.2 fun a _ => h.returns a)
  evident _ := nofun

theorem checked_faithful {c : Codec α} (h : c.Faithful) {down : β → α}
    {up : α → Except String β} (hup : ∀ b, up (down b) = .ok b) :
    (c.checked down up).Faithful where
  returns b := by
    refine ⟨(h.returns (down b)).sound, ?_⟩
    simp [checked, (h.returns (down b)).decode, hup, bind, Except.bind, Except.mapError]
  evident b := h.evident (down b)

end VulnScan.Json.Codec
