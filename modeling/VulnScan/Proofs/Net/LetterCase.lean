import Mathlib.Data.List.Forall2
import Mathlib.Data.Option.Basic
import VulnScan.Net.Service

/-! # Surveys up to the case of letters

Names of services and of software are compared without regard to the case of ASCII letters, and an
empty name is no different from itself. So what is asked of a service by its names has the same
answer for every service whose names differ only in case (`Service.CaseAlike`). Surveys of such
services are compared place by place: `SamePlaces` says that two lists have been picked from two
surveys at the same places, whatever stands there.
-/

set_option autoImplicit false

namespace VulnScan.Text

variable {a a' b b' : String}

theorem sameName_congr (ha : sameName a a' = true) (hb : sameName b b' = true) :
    sameName a b = sameName a' b' := by
  rw [sameName, sameName, sameName_iff.1 ha, sameName_iff.1 hb]

/-- Only the empty name is spelled like the empty name. -/
theorem eq_empty_iff_of_sameName (h : sameName a b = true) : a = "" ↔ b = "" := by
  have hlength := congrArg List.length (sameName_iff.1 h)
  rw [List.length_map, List.length_map] at hlength
  rw [← String.toList_eq_nil_iff, ← String.toList_eq_nil_iff, ← List.length_eq_zero_iff,
    ← List.length_eq_zero_iff, hlength]

end VulnScan.Text

namespace VulnScan.Net

/-! ## Services -/

/-- The same software, up to the case of letters in its name. -/
structure Software.CaseAlike (a b : Software) : Prop where
  name : Text.sameName a.name b.name = true
  version : a.version = b.version

/-- The services differ only in the case of letters in their names and in those of their
software. -/
structure Service.CaseAlike (s₁ s₂ : Service) : Prop where
  name : Text.sameName s₁.name s₂.name = true
  software : Option.Rel Software.CaseAlike s₁.software s₂.software
  rest : { s₁ with name := "", software := none } = { s₂ with name := "", software := none }

/-- The surveys are of one host, and their services differ place by place only in the case of
letters. -/
structure Survey.CaseAlike (survey₁ survey₂ : Survey) : Prop where
  host : survey₁.host = survey₂.host
  services : List.Forall₂ Service.CaseAlike survey₁.services survey₂.services

namespace Service.CaseAlike

variable {s₁ s₂ : Service}

theorem softwareName (h : s₁.CaseAlike s₂) :
    Text.sameName s₁.softwareName s₂.softwareName = true := by
  have hsoftware := h.software
  unfold Service.softwareName
  generalize s₁.software = o₁ at hsoftware ⊢
  generalize s₂.software = o₂ at hsoftware ⊢
  cases hsoftware with
  | some alike => exact alike.name
  | none => rfl

/-- The table of web services has the same entry for both. -/
theorem webEntry (h : s₁.CaseAlike s₂) : s₁.webEntry = s₂.webEntry := by
  unfold Service.webEntry
  refine congrArg (List.find? · webNames) (funext fun entry => ?_)
  exact Text.sameName_congr (Text.sameName_refl entry.1) h.name

theorem isWeb (h : s₁.CaseAlike s₂) : s₁.isWeb = s₂.isWeb := by
  rw [Service.isWeb, Service.isWeb, h.webEntry]

end Service.CaseAlike

/-! ## Places -/

section

variable {α : Type} {all₁ all₂ some₁ some₂ : List α}

/-- The entries of `some₁` and `some₂` are those of `all₁` and `all₂` at the same places. -/
def SamePlaces (all₁ all₂ some₁ some₂ : List α) : Prop :=
  ∃ places : List Nat, places.Pairwise (· < ·) ∧
    some₁.map some = places.map (all₁[·]?) ∧ some₂.map some = places.map (all₂[·]?)

namespace SamePlaces

theorem nil : SamePlaces all₁ all₂ [] [] := ⟨[], .nil, rfl, rfl⟩

/-- The places within longer lists, which begin with one entry more. -/
theorem skip (a b : α) (h : SamePlaces all₁ all₂ some₁ some₂) :
    SamePlaces (a :: all₁) (b :: all₂) some₁ some₂ := by
  obtain ⟨places, hincreasing, h₁, h₂⟩ := h
  refine ⟨places.map (· + 1), ?_, ?_, ?_⟩
  · exact List.pairwise_map.2 (hincreasing.imp fun h => Nat.succ_lt_succ h)
  · rw [h₁, List.map_map]
    rfl
  · rw [h₂, List.map_map]
    rfl

/-- The same with the first entries. -/
theorem take (a b : α) (h : SamePlaces all₁ all₂ some₁ some₂) :
    SamePlaces (a :: all₁) (b :: all₂) (a :: some₁) (b :: some₂) := by
  obtain ⟨places, hincreasing, h₁, h₂⟩ := h
  -- the first place comes before all others, which move on by one
  refine ⟨0 :: places.map (· + 1), ?_, ?_, ?_⟩
  · refine List.pairwise_cons.2 ⟨fun i hi => ?_, ?_⟩
    · obtain ⟨j, -, rfl⟩ := List.mem_map.1 hi
      exact Nat.succ_pos j
    · exact List.pairwise_map.2 (hincreasing.imp fun h => Nat.succ_lt_succ h)
  · rw [List.map_cons, List.map_cons, h₁, List.map_map]
    rfl
  · rw [List.map_cons, List.map_cons, h₂, List.map_map]
    rfl

/-- What is picked by tests that agree on the entries stands at the same places. -/
theorem filter {R : α → α → Prop} {p q : α → Bool} (h : List.Forall₂ R all₁ all₂)
    (agree : ∀ a b, R a b → p a = q b) : SamePlaces all₁ all₂ (all₁.filter p) (all₂.filter q) := by
  induction h with
  | nil => exact nil
  | @cons a b all₁ all₂ hab _ ih =>
      rw [List.filter_cons, List.filter_cons, agree a b hab]
      split
      · exact ih.take a b
      · exact ih.skip a b

/-- Lists of one length are at the same places of themselves. -/
theorem whole {R : α → α → Prop} (h : List.Forall₂ R all₁ all₂) :
    SamePlaces all₁ all₂ all₁ all₂ := by
  induction h with
  | nil => exact nil
  | cons _ _ ih => exact ih.take _ _

theorem isEmpty_eq (h : SamePlaces all₁ all₂ some₁ some₂) : some₁.isEmpty = some₂.isEmpty := by
  obtain ⟨places, -, h₁, h₂⟩ := h
  have hlength₁ : some₁.length = places.length := by simpa using congrArg List.length h₁
  have hlength₂ : some₂.length = places.length := by simpa using congrArg List.length h₂
  rw [Bool.eq_iff_iff, List.isEmpty_iff_length_eq_zero, List.isEmpty_iff_length_eq_zero,
    hlength₁, hlength₂]

end SamePlaces

end

end VulnScan.Net
