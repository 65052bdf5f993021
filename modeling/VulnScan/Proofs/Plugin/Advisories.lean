import VulnScan.CommandLine.Job
import VulnScan.Proofs.Plugin.DetectorRule

/-! # What the advisories cover

Two selections go over the registry: one for a scan, by the names that are admitted, the needs of a
plugin and the services that it applies to, and one for the advisories, by nothing but the role. An
entry that contributes a detector to a scan always stands in the advisories
(`Entry.Contributes.exists_stands`), so what is selected for a scan is a part of what is dumped, in
the same order (`detectorsFor_sublist_all`).
-/

set_option autoImplicit false

namespace VulnScan.Plugin

open Execution (Activity Outcome)
open Execution.Activity
open LanguageServer (Proxy)

variable {σ : Type} {survey : Net.Survey}

/-! ## What an entry stands for -/

/-- The entry is registered as a detector and stands for a detector of its own, or for the proxy of
a language server, which has no advisories. -/
inductive Entry.Stands (e : Entry σ) : Detector σ → Prop
  | detector (role : e.definition.role.isDetector = true) {d : Detector σ}
      (body : e.body = .detector d) : Stands e d
  | host (role : e.definition.role.isDetector = true) {p : Proxy σ} (body : e.body = .host p) :
      Stands e ⟨fun host _ => p.detect host, []⟩

/-- The detector at work. -/
def Entry.detector? (e : Entry σ) : Option (Detector σ) :=
  match e.body with
  | .detector d => some d
  | .host p => some ⟨fun host _ => p.detect host, []⟩
  | _ => none

theorem Entry.stands_iff {e : Entry σ} {d : Detector σ} :
    e.Stands d ↔ e.definition.role.isDetector = true ∧ e.detector? = some d := by
  constructor
  · intro h
    cases h with
    | detector role body => exact ⟨role, by rw [detector?, body]⟩
    | host role body => exact ⟨role, by rw [detector?, body]⟩
  · rintro ⟨role, hd⟩
    unfold detector? at hd
    split at hd
    · next body =>
        cases hd
        exact .detector role body
    · next body =>
        cases hd
        exact .host role body
    · cases hd

/-- The selected detector and the one in the dump are of the same entry. -/
def Registry.Matches (r : Registry σ) (survey : Net.Survey) (c : Chosen (Detector σ))
    (d : Detector σ) : Prop :=
  ∃ e ∈ r.entries, e.Contributes survey c ∧ e.Stands d

/-- What contributes to a scan stands in the dump. -/
theorem Entry.Contributes.exists_stands {e : Entry σ} {c : Chosen (Detector σ)}
    (h : e.Contributes survey c) (role : e.definition.role.isDetector = true) :
    ∃ d, e.Stands d := by
  cases h with
  | detector body => exact ⟨_, .detector role body⟩
  | host body queue => exact ⟨_, .host role body⟩

/-- A detector has the same advisories in a scan and in the dump. -/
theorem Registry.Matches.advisories_eq {r : Registry σ} {c : Chosen (Detector σ)} {d : Detector σ}
    (h : r.Matches survey c d) : c.body.advisories = d.advisories := by
  obtain ⟨e, -, hcontributes, hstands⟩ := h
  cases hcontributes with
  | detector body =>
      cases hstands with
      | detector role body' =>
          rw [body] at body'
          cases body'
          rfl
      | host role body' =>
          rw [body] at body'
          cases body'
  | host body queue =>
      cases hstands with
      | detector role body' =>
          rw [body] at body'
          cases body'
      | host role body' => rfl

namespace Registry

variable {r : Registry σ}

/-- The entries that are registered as detectors. -/
def detectorEntries (r : Registry σ) : List (Entry σ) :=
  r.entries.filter fun e => e.definition.role.isDetector

theorem allDetectors_eq (r : Registry σ) :
    r.allDetectors = r.detectorEntries.filterMap Entry.detector? := rfl

theorem stands_filterMap {es : List (Entry σ)}
    (hes : ∀ e ∈ es, e.definition.role.isDetector = true) :
    List.Forall₂ Entry.Stands (es.filter fun e => e.detector?.isSome)
      (es.filterMap Entry.detector?) := by
  induction es with
  | nil => exact .nil
  | cons e es ih =>
      have hrest := ih fun e he => hes e (List.mem_cons_of_mem _ he)
      cases hd : e.detector? with
      | none =>
          rw [List.filter_cons_of_neg (by simp [hd]), List.filterMap_cons_none hd]
          exact hrest
      | some d =>
          rw [List.filter_cons_of_pos (by simp [hd]), List.filterMap_cons_some hd]
          exact .cons (Entry.stands_iff.2 ⟨hes e List.mem_cons_self, hd⟩) hrest

/-- The dump holds what the entries stand for, in the order of registration. -/
theorem allDetectors_stands (r : Registry σ) : ∃ es : List (Entry σ), es.Sublist r.entries ∧
    (∀ e ∈ r.entries, (∃ d, e.Stands d) → e ∈ es) ∧
    List.Forall₂ Entry.Stands es r.allDetectors := by
  refine ⟨r.detectorEntries.filter fun e => e.detector?.isSome,
    List.filter_sublist.trans List.filter_sublist, fun e he ⟨d, hd⟩ => ?_,
    stands_filterMap fun e he => (List.mem_filter.1 he).2⟩
  obtain ⟨role, hbody⟩ := Entry.stands_iff.1 hd
  exact List.mem_filter.2 ⟨List.mem_filter.2 ⟨he, role⟩, by rw [hbody]; rfl⟩

/-- What entries contribute to a scan matches what they stand for. -/
theorem matches_filterMap {es : List (Entry σ)} {cs : List (Chosen (Detector σ))}
    (h : List.Forall₂ (Entry.Contributes survey) es cs) (hes : ∀ e ∈ es, e ∈ r.detectorEntries) :
    List.Forall₂ (r.Matches survey) cs (es.filterMap Entry.detector?) := by
  induction h with
  | nil => exact .nil
  | @cons e c es cs hcontributes _ ih =>
      obtain ⟨he, role⟩ := List.mem_filter.1 (hes e List.mem_cons_self)
      obtain ⟨d, hd⟩ := hcontributes.exists_stands role
      rw [List.filterMap_cons_some (Entry.stands_iff.1 hd).2]
      exact .cons ⟨e, he, hcontributes, hd⟩ (ih fun e he => hes e (List.mem_cons_of_mem _ he))

/-- What is selected for a scan is a part of the dump, in the same order. -/
theorem detectorsFor_sublist_all {s : Selection} {cs : List (Chosen (Detector σ))}
    (h : (r.detectorsFor s survey).MayEnd (.value cs)) :
    List.SublistForall₂ (r.Matches survey) cs r.allDetectors := by
  -- the entries that contribute are some of those that are dumped
  have hcandidates : ((r.candidates s).filter (Entry.isDetectorFor survey)).Sublist
      r.detectorEntries :=
    List.filter_sublist.trans
      (List.monotone_filter_right _ fun e he => (Bool.and_eq_true_iff.1 he).1)
  rw [List.sublistForall₂_iff, allDetectors_eq]
  exact ⟨_, matches_filterMap (chooseDetectors_ruled h) fun e he => hcandidates.subset he,
    hcandidates.filterMap _⟩

/-- So no detector of a scan has an advisory that is not in the dump. -/
theorem flatMap_advisories_sublist {cs : List (Chosen (Detector σ))} {ds : List (Detector σ)}
    (h : List.SublistForall₂ (r.Matches survey) cs ds) :
    (cs.flatMap fun c => c.body.advisories).Sublist (ds.flatMap Detector.advisories) := by
  induction h with
  | nil => exact List.nil_sublist _
  | cons hmatches _ ih =>
      rw [List.flatMap_cons, List.flatMap_cons, hmatches.advisories_eq]
      exact ih.append_left _
  | cons_right _ ih =>
      rw [List.flatMap_cons]
      exact ih.trans (List.sublist_append_right _ _)

end Registry

end VulnScan.Plugin

namespace VulnScan.CommandLine

variable {σ : Type} {net : Scan.Network σ} {runtime : Scan.Runtime σ}

/-- The plugins that are asked for depend on the ports to scan and on the language servers. -/
theorem registry_congr {a a' : Arguments} {s s' : Config.Settings} (hports : a'.ports = a.ports)
    (hservers : s'.servers = s.servers) : registry net a' s' = registry net a s := by
  simp only [registry, Arguments.probe, hports, hservers]

theorem job_advise {a : Arguments} {s : Config.Settings} {r : Plugin.Registry σ} {path : String}
    (hregistry : registry net a s = .ok r) (hpath : a.advisoriesFile = some path) :
    job net runtime a s = .ok (.advise path r.advisories) := by
  simp only [job, hregistry, hpath]
  rfl

end VulnScan.CommandLine

namespace VulnScan.Plugin.Registry

open CommandLine (Arguments Job job registry)
open Execution (Outcome)

variable {σ : Type}

/-- **What the advisories cover.** The dump holds what the entries that are registered as detectors
stand for, in the order of registration, and the advisories are those of all of these. Whatever is
selected for a scan, under any selection and for any survey, matches a part of the dump, in the same
order, so that the advisories of the detectors that run are a part of those that are written. A job
that writes advisories writes these, whichever detectors the settings and the command line include
or exclude and whether there is a callback server. -/
theorem advisories_cover (r : Registry σ) :
    (∃ es : List (Entry σ), es.Sublist r.entries ∧
      (∀ e ∈ r.entries, (∃ d, e.Stands d) → e ∈ es) ∧
      List.Forall₂ Entry.Stands es r.allDetectors) ∧
    r.advisories = r.allDetectors.flatMap Detector.advisories ∧
    (∀ (s : Selection) (survey : Net.Survey) (o : Outcome (List (Chosen (Detector σ)))),
      (r.detectorsFor s survey).MayEnd o →
        (∃ message, o = .collapse message ∧ r.MayBreakOff s message) ∨
        ∃ cs, o = .value cs ∧ List.SublistForall₂ (r.Matches survey) cs r.allDetectors ∧
          (cs.flatMap fun c => c.body.advisories).Sublist r.advisories) ∧
    ∀ (net : Scan.Network σ) (runtime : Scan.Runtime σ) (a a' : Arguments)
      (s s' : Config.Settings) (path : String), registry net a s = .ok r →
      a'.ports = a.ports → s'.servers = s.servers → a'.advisoriesFile = some path →
      job net runtime a' s' = .ok (.advise path r.advisories) := by
  refine ⟨r.allDetectors_stands, rfl, fun s survey o h => ?_,
    fun net runtime a a' s s' path hr hports hservers hpath => ?_⟩
  · cases o with
    | value cs =>
        have hsublist := detectorsFor_sublist_all h
        exact .inr ⟨cs, rfl, hsublist, flatMap_advisories_sublist hsublist⟩
    | fault e => exact absurd h (detectorsFor_faultless r s survey e)
    | collapse message => exact .inl ⟨message, rfl, mayEnd_detectorsFor_collapse h⟩
  · exact CommandLine.job_advise ((CommandLine.registry_congr hports hservers).trans hr) hpath

end VulnScan.Plugin.Registry
