import VulnScan.Proofs.Execution.Lockstep
import VulnScan.Proofs.LanguageServer.Queue
import VulnScan.Proofs.Net.LetterCase
import VulnScan.Proofs.Plugin.Fingerprinters

/-! # The case of letters in filters

A plugin names services and software in whatever case, and so do surveys. Two registries whose
filters differ only in case, and two surveys whose names do, are told apart by no filter
(`Definition.CaseAlike.servicesIn`). So the same plugins are selected, for services at the same
places: fingerprinters, detectors, and what is queued for language servers. The listings of the
servers are asked for alike, so the two selections are in lockstep (`Registry.selections_alike`).
-/

set_option autoImplicit false

namespace VulnScan.Plugin

open Execution (Course Moment Outcome Signals)
open Execution.Activity (Lockstep)
open LanguageServer (Proxy)
open Net (SamePlaces)

variable {σ : Type}

/-! ## Definitions -/

/-- The definitions differ only in the case of letters in the names of services and of software. -/
structure Definition.CaseAlike (d₁ d₂ : Definition) : Prop where
  serviceNames : Option.Rel (List.Forall₂ fun a b => Text.sameName a b = true) d₁.serviceNames
    d₂.serviceNames
  software : Option.Rel (fun a b => Text.sameName a b = true) d₁.software d₂.software
  rest : { d₁ with serviceNames := none, software := none }
    = { d₂ with serviceNames := none, software := none }

theorem isSome_eq_of_rel {α β : Type} {R : α → β → Prop} {o₁ : Option α} {o₂ : Option β}
    (h : Option.Rel R o₁ o₂) : o₁.isSome = o₂.isSome := by
  cases h <;> rfl

namespace Definition.CaseAlike

variable {d d₁ d₂ : Definition} {s₁ s₂ : Net.Service} {survey₁ survey₂ : Net.Survey}

theorem refl (d : Definition) : d.CaseAlike d where
  serviceNames := by
    cases d.serviceNames with
    | none => exact .none
    | some names => exact .some (List.forall₂_same.2 fun name _ => Text.sameName_refl name)
  software := by
    cases d.software with
    | none => exact .none
    | some wanted => exact .some (Text.sameName_refl wanted)
  rest := rfl

theorem role (h : d₁.CaseAlike d₂) : d₁.role = d₂.role := (congrArg Definition.role h.rest :)

theorem name (h : d₁.CaseAlike d₂) : d₁.name = d₂.name := (congrArg Definition.name h.rest :)

theorem forWeb (h : d₁.CaseAlike d₂) : d₁.forWeb = d₂.forWeb :=
  (congrArg Definition.forWeb h.rest :)

theorem systems (h : d₁.CaseAlike d₂) : d₁.systems = d₂.systems :=
  (congrArg Definition.systems h.rest :)

theorem needsCallback (h : d₁.CaseAlike d₂) : d₁.needsCallback = d₂.needsCallback :=
  (congrArg Definition.needsCallback h.rest :)

theorem id_eq (h : d₁.CaseAlike d₂) : d₁.id = d₂.id := by
  have hauthor : d₁.author = d₂.author := (congrArg Definition.author h.rest :)
  have hversion : d₁.version = d₂.version := (congrArg Definition.version h.rest :)
  rw [Definition.id, Definition.id, hauthor, h.role, h.name, hversion]

/-- One of the names is that of the service in both spellings, or none is. -/
theorem any_sameName {names₁ names₂ : List String}
    (h : List.Forall₂ (fun a b => Text.sameName a b = true) names₁ names₂)
    (hs : s₁.CaseAlike s₂) :
    names₁.any (fun n => Text.sameName n s₁.name)
      = names₂.any fun n => Text.sameName n s₂.name := by
  induction h with
  | nil => rfl
  | cons hn _ ih => rw [List.any_cons, List.any_cons, ih, Text.sameName_congr hn hs.name]

theorem admitsName (h : d₁.CaseAlike d₂) (hs : s₁.CaseAlike s₂) :
    d₁.admitsName s₁ = d₂.admitsName s₂ := by
  have hnames := h.serviceNames
  unfold Definition.admitsName
  rw [h.forWeb, hs.isWeb]
  generalize d₁.serviceNames = o₁ at hnames ⊢
  generalize d₂.serviceNames = o₂ at hnames ⊢
  cases hnames with
  | none => rfl
  | some hnames =>
      dsimp only
      rw [any_sameName hnames hs, decide_eq_decide.2 (Text.eq_empty_iff_of_sameName hs.name)]

theorem admitsSoftware (h : d₁.CaseAlike d₂) (hs : s₁.CaseAlike s₂) :
    d₁.admitsSoftware s₁ = d₂.admitsSoftware s₂ := by
  have hsoftware := h.software
  unfold Definition.admitsSoftware
  generalize d₁.software = o₁ at hsoftware ⊢
  generalize d₂.software = o₂ at hsoftware ⊢
  cases hsoftware with
  | none => rfl
  | some hwanted =>
      dsimp only
      rw [Text.sameName_congr hwanted hs.softwareName,
        decide_eq_decide.2 (Text.eq_empty_iff_of_sameName hs.softwareName)]

theorem hasServiceFilters (h : d₁.CaseAlike d₂) :
    d₁.hasServiceFilters = d₂.hasServiceFilters := by
  rw [Definition.hasServiceFilters, Definition.hasServiceFilters,
    isSome_eq_of_rel h.serviceNames, isSome_eq_of_rel h.software, h.forWeb]

/-- A plugin applies to services at the same places, however they and its filters are spelled. -/
theorem servicesIn (h : d₁.CaseAlike d₂) (hsurvey : survey₁.CaseAlike survey₂) :
    SamePlaces survey₁.services survey₂.services (d₁.servicesIn survey₁)
      (d₂.servicesIn survey₂) := by
  have hhost : d₁.admitsHost survey₁.host = d₂.admitsHost survey₂.host := by
    rw [Definition.admitsHost, Definition.admitsHost, h.systems, hsurvey.host]
  unfold Definition.servicesIn
  rw [hhost, h.hasServiceFilters]
  split
  · split
    · refine .filter hsurvey.services fun s₁ s₂ hs => ?_
      rw [h.admitsName hs, h.admitsSoftware hs]
    · exact .whole hsurvey.services
  · exact .nil

end Definition.CaseAlike

/-! ## Entries -/

/-- The same plugin, with filters that differ only in the case of letters. -/
structure Entry.CaseAlike (e₁ e₂ : Entry σ) : Prop where
  definition : e₁.definition.CaseAlike e₂.definition
  body : e₁.body = e₂.body

/-- The registries hold the same plugins in the same order, with filters that differ only in the
case of letters. -/
def Registry.CaseAlike (r₁ r₂ : Registry σ) : Prop :=
  List.Forall₂ Entry.CaseAlike r₁.entries r₂.entries

/-- The same plugin is queued, for services at the same places. -/
structure Matched.Corresponds (all₁ all₂ : List Net.Service) (m₁ m₂ : Matched) : Prop where
  plugin : m₁.plugin = m₂.plugin
  services : SamePlaces all₁ all₂ m₁.services m₂.services

/-- Both are the same detector, or what a proxy hosts to which corresponding plugins were added:
if it had none before, corresponding plugins are queued. -/
inductive Detector.Corresponds (all₁ all₂ : List Net.Service) : Detector σ → Detector σ → Prop
  | own (d : Detector σ) : Corresponds all₁ all₂ d d
  | hosted (p : Proxy σ) (added₁ added₂ : List Matched)
      (added : List.Forall₂ (Matched.Corresponds all₁ all₂) added₁ added₂)
      (queued : p.queue = [] → List.Forall₂ (Matched.Corresponds all₁ all₂)
        (added₁.foldl Proxy.add p).queue (added₂.foldl Proxy.add p).queue) :
      Corresponds all₁ all₂ ⟨fun host _ => (added₁.foldl Proxy.add p).detect host, []⟩
        ⟨fun host _ => (added₂.foldl Proxy.add p).detect host, []⟩

/-- The same plugin was chosen, for services at the same places. -/
structure Chosen.Corresponds (all₁ all₂ : List Net.Service) (c₁ c₂ : Chosen (Detector σ)) :
    Prop where
  id : c₁.plugin.id = c₂.plugin.id
  services : SamePlaces all₁ all₂ c₁.services c₂.services
  body : c₁.body.Corresponds all₁ all₂ c₂.body

namespace Registry

variable {r₁ r₂ : Registry σ} {survey₁ survey₂ : Net.Survey}

/-! ## Fingerprinters -/

/-- Services that differ only in case have the same fingerprinter. -/
theorem CaseAlike.fingerprinterFor (h : r₁.CaseAlike r₂) {s₁ s₂ : Net.Service}
    (hs : s₁.CaseAlike s₂) :
    Option.Rel (fun c₁ c₂ => c₁.plugin.id = c₂.plugin.id ∧ c₁.body = c₂.body ∧
        c₁.services = [s₁] ∧ c₂.services = [s₂])
      (r₁.fingerprinterFor s₁) (r₂.fingerprinterFor s₂) := by
  rw [fingerprinterFor_eq, fingerprinterFor_eq]
  refine rel_findSome h fun e₁ e₂ he => ?_
  obtain ⟨d₁, body⟩ := e₁
  obtain ⟨d₂, _⟩ := e₂
  obtain ⟨hd, rfl⟩ := he
  unfold fingerprinterOf
  rw [hd.role, hd.admitsName hs]
  split
  · cases body with
    | fingerprinter identify => exact .some ⟨hd.id_eq, rfl, rfl, rfl⟩
    | portScanner scan => exact .none
    | detector d => exact .none
    | host p => exact .none
  · exact .none

/-! ## Detectors -/

theorem CaseAlike.candidates (h : r₁.CaseAlike r₂) (s : Selection) :
    List.Forall₂ Entry.CaseAlike (r₁.candidates s) (r₂.candidates s) := by
  refine List.rel_filter (fun e₁ e₂ he => ?_) h
  have hd := he.definition
  simp only [Selection.admits, hd.role, hd.name, hd.needsCallback]

/-- The plugins that are queued are added one after the other. -/
theorem queueAll_eq_foldl (p : Proxy σ) (survey : Net.Survey) (ds : List Definition) :
    queueAll p survey ds
      = (ds.map fun d => (⟨d, d.servicesIn survey⟩ : Matched)).foldl Proxy.add p := by
  rw [queueAll, List.foldl_map]

/-- Plugins with their services, for surveys that differ only in case. -/
theorem forall₂_matched (hsurvey : survey₁.CaseAlike survey₂) (ds : List Definition) :
    List.Forall₂ (Matched.Corresponds survey₁.services survey₂.services)
      (ds.map fun d => ⟨d, d.servicesIn survey₁⟩) (ds.map fun d => ⟨d, d.servicesIn survey₂⟩) := by
  rw [List.forall₂_map_left_iff, List.forall₂_map_right_iff, List.forall₂_same]
  exact fun d _ => ⟨rfl, (Definition.CaseAlike.refl d).servicesIn hsurvey⟩

/-- What a fresh proxy has queued are the plugins that were listed, without repetitions. -/
theorem queue_foldl_matched {p : Proxy σ} (fresh : p.queue = []) (survey : Net.Survey)
    (ds : List Definition) :
    ((ds.map fun d => (⟨d, d.servicesIn survey⟩ : Matched)).foldl Proxy.add p).queue
      = ds.eraseDups.map fun d => ⟨d, d.servicesIn survey⟩ := by
  rw [Proxy.foldl_add p fresh]
  refine LanguageServer.eraseDups_map (fun d d' h => ?_) ds
  exact congrArg Matched.plugin h

theorem queueAll_corresponds (hsurvey : survey₁.CaseAlike survey₂) (p : Proxy σ)
    (ds : List Definition) :
    Detector.Corresponds survey₁.services survey₂.services
      ⟨fun host _ => (queueAll p survey₁ ds).detect host, []⟩
      ⟨fun host _ => (queueAll p survey₂ ds).detect host, []⟩ := by
  rw [queueAll_eq_foldl, queueAll_eq_foldl]
  refine .hosted p _ _ (forall₂_matched hsurvey ds) fun fresh => ?_
  rw [queue_foldl_matched fresh, queue_foldl_matched fresh]
  exact forall₂_matched hsurvey ds.eraseDups

theorem CaseAlike.chooseDetector (hsurvey : survey₁.CaseAlike survey₂) {e₁ e₂ : Entry σ}
    (he : e₁.CaseAlike e₂) :
    Lockstep (Option.Rel (Chosen.Corresponds survey₁.services survey₂.services))
      (chooseDetector survey₁ e₁) (chooseDetector survey₂ e₂) := by
  obtain ⟨d₁, body⟩ := e₁
  obtain ⟨d₂, _⟩ := e₂
  obtain ⟨hd, rfl⟩ := he
  cases body with
  | portScanner scan => exact .value .none
  | fingerprinter identify => exact .value .none
  | detector d =>
      have hservices := hd.servicesIn hsurvey
      refine .value ?_
      dsimp only
      rw [hservices.isEmpty_eq]
      split
      · exact .none
      · exact .some ⟨hd.id_eq, hservices, .own d⟩
  | host p =>
      -- whatever the server answers, it answers both
      have hqueued : Lockstep (fun q₁ q₂ : Proxy σ =>
            Detector.Corresponds survey₁.services survey₂.services
              ⟨fun host _ => q₁.detect host, []⟩ ⟨fun host _ => q₂.detect host, []⟩)
          (queueHosted p survey₁) (queueHosted p survey₂) := by
        refine (Lockstep.refl p.plugins.tried).andThen ?_
        rintro answer _ rfl
        cases answer with
        | ok ds => exact .value (queueAll_corresponds hsurvey p ds)
        | error e => exact .value (queueAll_corresponds hsurvey p [])
      refine hqueued.andThen fun q₁ q₂ hq => .value (.some ⟨hd.id_eq, ?_, hq⟩)
      exact .whole hsurvey.services

theorem CaseAlike.detectorsFor (h : r₁.CaseAlike r₂) (hsurvey : survey₁.CaseAlike survey₂)
    (s : Selection) :
    Lockstep (List.Forall₂ (Chosen.Corresponds survey₁.services survey₂.services))
      (r₁.detectorsFor s survey₁) (r₂.detectorsFor s survey₂) := by
  have hcandidates := h.candidates s
  unfold Registry.detectorsFor
  generalize r₁.candidates s = es₁ at hcandidates ⊢
  generalize r₂.candidates s = es₂ at hcandidates ⊢
  induction hcandidates with
  | nil => exact .value .nil
  | cons he _ ih =>
      refine (CaseAlike.chooseDetector hsurvey he).andThen fun c₁ c₂ hc => ?_
      refine ih.andThen fun cs₁ cs₂ hcs => .value ?_
      cases hc with
      | none => exact hcs
      | some hc => exact .cons hc hcs

/-- Registries and surveys that differ only in the case of letters lead to the same selections:
the same detectors for services at the same places, whenever and however the selection is run, and
the same fingerprinter for services that differ only in case. -/
theorem selections_alike (h : r₁.CaseAlike r₂) (hsurvey : survey₁.CaseAlike survey₂) :
    (∀ s : Selection,
      Lockstep (List.Forall₂ (Chosen.Corresponds survey₁.services survey₂.services))
        (r₁.detectorsFor s survey₁) (r₂.detectorsFor s survey₂)) ∧
    (∀ (s : Selection) (signals : Signals) (m : Moment σ),
      Course.Beside (Option.Rel (Outcome.Alike
          (List.Forall₂ (Chosen.Corresponds survey₁.services survey₂.services))))
        ((r₁.detectorsFor s survey₁).alone signals m)
        ((r₂.detectorsFor s survey₂).alone signals m)) ∧
    ∀ s₁ s₂ : Net.Service, s₁.CaseAlike s₂ →
      Option.Rel (fun c₁ c₂ => c₁.plugin.id = c₂.plugin.id ∧ c₁.body = c₂.body ∧
          c₁.services = [s₁] ∧ c₂.services = [s₂])
        (r₁.fingerprinterFor s₁) (r₂.fingerprinterFor s₂) :=
  ⟨h.detectorsFor hsurvey, fun s signals m => (h.detectorsFor hsurvey s).alone signals m,
    fun _ _ hs => h.fingerprinterFor hs⟩

end Registry

/-- A plugin for a server that is spelled in one way or another. -/
def shell (name software : String) : Definition :=
  { role := .detector, name := "Shell", author := "t", version := "1.0",
    serviceNames := some [name], software := some software }

/-- A registry with a detector for this server. -/
def shellRegistry (name software : String) : Registry Unit :=
  ⟨[⟨shell name software, .detector ⟨fun _ _ => .value [], []⟩⟩], List.nodup_singleton _⟩

/-- A survey that has found the server. -/
def shellSurvey (name software : String) : Net.Survey :=
  ⟨{}, [{ endpoint := Net.Endpoint.ofHostname "localhost", name
          software := some ⟨software, none⟩ }]⟩

/-- Two spellings of filters and of what they are to match lead to the same selection, which is not
empty. -/
theorem shell_selections :
    (shellRegistry "SSH" "OpenSSH").CaseAlike (shellRegistry "ssh" "openSSH") ∧
      (shellSurvey "Ssh" "openssh").CaseAlike (shellSurvey "sSH" "OPENSSH") ∧
      (shell "SSH" "OpenSSH").servicesIn (shellSurvey "Ssh" "openssh") ≠ [] ∧
      Lockstep (List.Forall₂ (Chosen.Corresponds (shellSurvey "Ssh" "openssh").services
          (shellSurvey "sSH" "OPENSSH").services))
        ((shellRegistry "SSH" "OpenSSH").detectorsFor {} (shellSurvey "Ssh" "openssh"))
        ((shellRegistry "ssh" "openSSH").detectorsFor {} (shellSurvey "sSH" "OPENSSH")) := by
  have hdefinitions : (shell "SSH" "OpenSSH").CaseAlike (shell "ssh" "openSSH") :=
    ⟨.some (.cons (by decide) .nil), .some (by decide), rfl⟩
  have hregistries : (shellRegistry "SSH" "OpenSSH").CaseAlike (shellRegistry "ssh" "openSSH") :=
    .cons ⟨hdefinitions, rfl⟩ .nil
  have hsurveys : (shellSurvey "Ssh" "openssh").CaseAlike (shellSurvey "sSH" "OPENSSH") :=
    ⟨rfl, .cons ⟨by decide, .some ⟨by decide, rfl⟩, rfl⟩ .nil⟩
  exact ⟨hregistries, hsurveys, by decide, (Registry.selections_alike hregistries hsurveys).1 {}⟩

end VulnScan.Plugin
