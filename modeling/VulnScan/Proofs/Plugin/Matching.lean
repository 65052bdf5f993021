import VulnScan.Plugin.Matching
import VulnScan.Proofs.Plugin.Fingerprinters

/-! # To which services a plugin applies

A plugin declares filters: on operating systems, on the names of services, on software, on being a
web service. The filter on systems decides about all services at once. Of the others it is enough
that one is declared and accepts the service (`Definition.Accepts`), and if none is declared every
service will do. `Definition.AppliesTo` puts the two together, and the services of a survey that a
plugin applies to are those for which it holds, in their order (`Definition.servicesIn_eq`).
-/

set_option autoImplicit false

namespace VulnScan.Plugin

/-- The guess at the operating system is accurate enough, unless any is, and names a vendor or a
family that is wanted. -/
structure SystemFilter.Fits (f : SystemFilter) (g : Net.SystemGuess) : Prop where
  accurate : f.minAccuracy = 0 ∨ f.minAccuracy ≤ g.accuracy
  wanted : g.vendor ∈ f.vendors ∨ g.family ∈ f.families

theorem SystemFilter.admits_iff {f : SystemFilter} {g : Net.SystemGuess} :
    f.admits g = true ↔ f.Fits g := by
  rw [admits, Bool.and_eq_true, Bool.or_eq_true, Bool.or_eq_true, decide_eq_true_eq,
    decide_eq_true_eq, List.contains_iff_mem, List.contains_iff_mem]
  constructor
  · intro h
    exact ⟨h.1, h.2⟩
  · intro h
    exact ⟨h.accurate, h.wanted⟩

namespace Definition

variable {d : Definition} {s : Net.Service} {h : Net.Host} {survey : Net.Survey}

/-- If the plugin is limited to operating systems, one of the guesses at that of the host fits. -/
def SuitsHost (d : Definition) (h : Net.Host) : Prop :=
  ∀ f, d.systems = some f → ∃ g ∈ h.systems, f.Fits g

theorem admitsHost_iff : d.admitsHost h = true ↔ d.SuitsHost h := by
  unfold admitsHost SuitsHost
  cases d.systems with
  | none =>
      constructor
      · intro _ f hf
        cases hf
      · intro _
        rfl
  | some f =>
      rw [List.any_eq_true]
      constructor
      · rintro ⟨g, hg, hadmits⟩ f' hf'
        cases hf'
        exact ⟨g, hg, SystemFilter.admits_iff.1 hadmits⟩
      · intro hsuits
        obtain ⟨g, hg, hfits⟩ := hsuits f rfl
        exact ⟨g, hg, SystemFilter.admits_iff.2 hfits⟩

/-- The plugin declares no filter on services. -/
structure Unfiltered (d : Definition) : Prop where
  names : d.serviceNames = none
  software : d.software = none
  web : d.forWeb = false

theorem hasServiceFilters_eq_false : d.hasServiceFilters = false ↔ d.Unfiltered := by
  simp only [hasServiceFilters, Bool.or_eq_false_iff, Option.isSome_eq_false_iff,
    Option.isNone_iff_eq_none]
  constructor
  · rintro ⟨⟨names, software⟩, web⟩
    exact ⟨names, software, web⟩
  · intro h
    exact ⟨⟨h.names, h.software⟩, h.web⟩

/-- One of the filters that the plugin declares accepts the service. A service without a name, or
without known software, is accepted by every filter on it. -/
inductive Accepts (d : Definition) (s : Net.Service) : Prop
  | name (madeFor : d.MadeFor s)
  | unknownSoftware {wanted : String} (declared : d.software = some wanted)
      (unknown : s.softwareName = "")
  | software {wanted : String} (declared : d.software = some wanted)
      (same : Text.sameName wanted s.softwareName = true)

theorem admitsSoftware_iff :
    d.admitsSoftware s = true ↔ ∃ wanted, d.software = some wanted ∧
      (s.softwareName = "" ∨ Text.sameName wanted s.softwareName = true) := by
  unfold admitsSoftware
  cases d.software with
  | none => simp
  | some wanted => simp

theorem accepts_iff : (d.admitsName s || d.admitsSoftware s) = true ↔ d.Accepts s := by
  rw [Bool.or_eq_true, admitsName_iff, admitsSoftware_iff]
  constructor
  · rintro (madeFor | ⟨wanted, declared, unknown | same⟩)
    · exact .name madeFor
    · exact .unknownSoftware declared unknown
    · exact .software declared same
  · intro h
    cases h with
    | name madeFor => exact .inl madeFor
    | unknownSoftware declared unknown => exact .inr ⟨_, declared, .inl unknown⟩
    | software declared same => exact .inr ⟨_, declared, .inr same⟩

/-- The plugin applies to a service of the survey: it suits the host, and has no filters on
services or accepts this one. -/
structure AppliesTo (d : Definition) (survey : Net.Survey) (s : Net.Service) : Prop where
  host : d.SuitsHost survey.host
  service : d.Unfiltered ∨ d.Accepts s

theorem appliesTo_iff :
    (d.admitsHost survey.host && (!d.hasServiceFilters || (d.admitsName s || d.admitsSoftware s)))
      = true ↔ d.AppliesTo survey s := by
  rw [Bool.and_eq_true, Bool.or_eq_true, admitsHost_iff, accepts_iff, Bool.not_eq_true',
    hasServiceFilters_eq_false]
  constructor
  · intro h
    exact ⟨h.1, h.2⟩
  · intro h
    exact ⟨h.host, h.service⟩

instance : Decidable (d.AppliesTo survey s) := decidable_of_iff _ appliesTo_iff

/-- The services that a plugin applies to, in the order of the survey. -/
theorem servicesIn_eq :
    d.servicesIn survey = survey.services.filter fun s => d.AppliesTo survey s := by
  have hfilter : (survey.services.filter fun s => d.AppliesTo survey s) =
      survey.services.filter fun s =>
        d.admitsHost survey.host &&
          (!d.hasServiceFilters || (d.admitsName s || d.admitsSoftware s)) := by
    refine List.filter_congr fun s _ => ?_
    rw [Bool.eq_iff_iff, decide_eq_true_iff]
    exact appliesTo_iff.symm
  rw [hfilter, servicesIn]
  cases hhost : d.admitsHost survey.host with
  | false => simp
  | true =>
      cases hfilters : d.hasServiceFilters with
      | false => exact (List.filter_eq_self.2 fun _ _ => rfl).symm
      | true => simp

/-- A filter on names that lists none still accepts the services without a name. -/
example :
    (Definition.mk .detector "A" "t" "1" "" (some []) none false none false).servicesIn
      ⟨{}, [{ endpoint := {}, name := "ssh" }, { endpoint := {} }]⟩ = [{ endpoint := {} }] := by
  decide

end Definition

end VulnScan.Plugin
