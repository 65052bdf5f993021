import VulnScan.Proofs.Execution.PoolJobs
import VulnScan.Proofs.LanguageServer.Queue
import VulnScan.Proofs.Plugin.Detectors
import VulnScan.Proofs.Plugin.Matching

/-! # The rule by which detectors are selected

A registered plugin is selected as a detector if it is registered as one, the selection permits it
and it works either for a language server or as a detector that applies to one of the services
(`Entry.Qualifies`). The detectors for a survey are those of the entries that qualify, in the order
of registration, each with the services it applies to, or with all services if it works for a
language server (`Registry.detectorsFor_ruled`).
-/

set_option autoImplicit false

namespace VulnScan.Plugin

open Execution (Activity Outcome)
open Execution.Activity
open LanguageServer (Proxy)

variable {σ α β : Type}

/-! ## Which entries qualify -/

/-- Plugins with the definition may run: there is a callback server if they need one, and they are
included and not excluded by name. -/
structure Selection.Permits (s : Selection) (d : Definition) : Prop where
  callback : d.needsCallback = true → s.hasCallback = true
  included : s.included = [] ∨ d.name ∈ s.included
  excluded : d.name ∉ s.excluded

theorem Selection.admits_iff {s : Selection} {d : Definition} :
    s.admits d = true ↔ s.Permits d := by
  have hcallback : (s.hasCallback || !d.needsCallback) = true ↔
      (d.needsCallback = true → s.hasCallback = true) := by
    cases d.needsCallback <;> simp
  have hexcluded : (!s.excluded.contains d.name) = true ↔ d.name ∉ s.excluded := by
    rw [Bool.not_eq_true', ← Bool.not_eq_true, List.contains_iff_mem]
  rw [admits, admitsName, Bool.and_eq_true, Bool.and_eq_true, hcallback, Bool.or_eq_true,
    List.isEmpty_iff, List.contains_iff_mem, hexcluded]
  constructor
  · rintro ⟨callback, included, excluded⟩
    exact ⟨callback, included, excluded⟩
  · intro h
    exact ⟨h.callback, h.included, h.excluded⟩

/-- The plugin at work is a detector to run: the detectors of a language server always are, another
one if it applies to one of the services. -/
inductive Entry.Applies (survey : Net.Survey) (e : Entry σ) : Prop
  | detector {d : Detector σ} (body : e.body = .detector d) {service : Net.Service}
      (found : service ∈ survey.services) (applies : e.definition.AppliesTo survey service)
  | host {p : Proxy σ} (body : e.body = .host p)

/-- Whether the plugin at work is a detector to run. -/
def Entry.isDetectorFor (survey : Net.Survey) (e : Entry σ) : Bool :=
  match e.body with
  | .detector _ => !(e.definition.servicesIn survey).isEmpty
  | .host _ => true
  | _ => false

theorem Entry.isDetectorFor_iff {survey : Net.Survey} {e : Entry σ} :
    e.isDetectorFor survey = true ↔ e.Applies survey := by
  obtain ⟨definition, body⟩ := e
  cases body with
  | portScanner scan =>
      constructor
      · intro h
        cases h
      · rintro (⟨body, _, _⟩ | ⟨body⟩) <;> cases body
  | fingerprinter identify =>
      constructor
      · intro h
        cases h
      · rintro (⟨body, _, _⟩ | ⟨body⟩) <;> cases body
  | host p =>
      constructor
      · intro _
        exact .host rfl
      · intro _
        rfl
  | detector d =>
      show (!(definition.servicesIn survey).isEmpty) = true ↔ _
      rw [Bool.not_eq_true', List.isEmpty_eq_false_iff_exists_mem, Definition.servicesIn_eq]
      constructor
      · rintro ⟨service, hservice⟩
        obtain ⟨found, applies⟩ := List.mem_filter.1 hservice
        exact .detector rfl found (of_decide_eq_true applies)
      · rintro (⟨-, found, applies⟩ | ⟨body⟩)
        · exact ⟨_, List.mem_filter.2 ⟨found, decide_eq_true applies⟩⟩
        · cases body

/-- The registered plugin is one of the detectors for the survey. -/
structure Entry.Qualifies (e : Entry σ) (s : Selection) (survey : Net.Survey) : Prop where
  role : e.definition.role = .detector ∨ e.definition.role = .host
  permitted : s.Permits e.definition
  applies : e.Applies survey

theorem Role.isDetector_iff {role : Role} :
    role.isDetector = true ↔ role = .detector ∨ role = .host := by
  cases role <;> simp [isDetector]

theorem Entry.qualifies_iff {e : Entry σ} {s : Selection} {survey : Net.Survey} :
    (e.isDetectorFor survey && (e.definition.role.isDetector && s.admits e.definition)) = true ↔
      e.Qualifies s survey := by
  rw [Bool.and_eq_true, Bool.and_eq_true, isDetectorFor_iff, Role.isDetector_iff,
    Selection.admits_iff]
  constructor
  · rintro ⟨applies, role, permitted⟩
    exact ⟨role, permitted, applies⟩
  · intro h
    exact ⟨h.applies, h.role, h.permitted⟩

instance {e : Entry σ} {s : Selection} {survey : Net.Survey} : Decidable (e.Qualifies s survey) :=
  decidable_of_iff _ Entry.qualifies_iff

/-! ## What they contribute -/

/-- What an entry contributes to the detectors for a survey: a detector, with the services that it
applies to, or the proxy of a language server with some plugins queued, with all services. -/
inductive Entry.Contributes (survey : Net.Survey) (e : Entry σ) : Chosen (Detector σ) → Prop
  | detector {d : Detector σ} (body : e.body = .detector d) :
      Contributes survey e
        ⟨e.definition, d, survey.services.filter fun s => e.definition.AppliesTo survey s⟩
  | host {p : Proxy σ} (body : e.body = .host p) (queue : List Matched) :
      Contributes survey e
        ⟨e.definition, ⟨fun host _ => ({ p with queue } : Proxy σ).detect host, []⟩,
          survey.services⟩

theorem Entry.Contributes.plugin_eq {survey : Net.Survey} {e : Entry σ} {c : Chosen (Detector σ)}
    (h : e.Contributes survey c) : c.plugin = e.definition := by
  cases h <;> rfl

namespace Registry

variable {survey : Net.Survey}

/-- Only the queue of a proxy changes when plugins are queued. -/
theorem exists_queueAll_eq (p : Proxy σ) (survey : Net.Survey) (ds : List Definition) :
    ∃ queue, queueAll p survey ds = { p with queue } := by
  unfold queueAll
  induction ds generalizing p with
  | nil => exact ⟨p.queue, rfl⟩
  | cons d ds ih =>
      obtain ⟨queue, hqueue⟩ := ih (p.add ⟨d, d.servicesIn survey⟩)
      refine ⟨queue, ?_⟩
      rw [List.foldl_cons, hqueue, Proxy.add_eq]

theorem queueHosted_of_mayEnd {p q : Proxy σ} (h : (queueHosted p survey).MayEnd (.value q)) :
    ∃ queue, q = { p with queue } := by
  obtain ⟨answer, -, hq⟩ := mayEnd_andThen_value h
  cases answer with
  | ok ds =>
      obtain rfl := eq_of_mayEnd_value hq
      exact exists_queueAll_eq p survey ds
  | error e =>
      obtain rfl := eq_of_mayEnd_value hq
      exact ⟨_, rfl⟩

/-- A candidate contributes a detector if it is one for the survey, and nothing otherwise. -/
theorem contributes_of_mayEnd {e : Entry σ} {c : Option (Chosen (Detector σ))}
    (h : (chooseDetector survey e).MayEnd (.value c)) :
    List.Forall₂ (Entry.Contributes survey) ([e].filter (Entry.isDetectorFor survey)) c.toList := by
  obtain ⟨definition, body⟩ := e
  cases body with
  | portScanner scan =>
      obtain rfl := eq_of_mayEnd_value h
      exact .nil
  | fingerprinter identify =>
      obtain rfl := eq_of_mayEnd_value h
      exact .nil
  | detector d =>
      obtain rfl := eq_of_mayEnd_value h
      have heq : (⟨definition, .detector d⟩ : Entry σ).isDetectorFor survey =
          !(definition.servicesIn survey).isEmpty := rfl
      cases hempty : (definition.servicesIn survey).isEmpty with
      | true =>
          rw [List.filter_singleton, heq, hempty]
          exact .nil
      | false =>
          rw [List.filter_singleton, heq, hempty, Definition.servicesIn_eq]
          exact .cons (.detector rfl) .nil
  | host p =>
      obtain ⟨q, hq, hc⟩ := mayEnd_andThen_value h
      obtain rfl := eq_of_mayEnd_value hc
      obtain ⟨queue, rfl⟩ := queueHosted_of_mayEnd hq
      exact .cons (.host rfl queue) .nil

theorem chooseDetectors_ruled {es : List (Entry σ)} {cs : List (Chosen (Detector σ))}
    (h : (chooseDetectors survey es).MayEnd (.value cs)) :
    List.Forall₂ (Entry.Contributes survey) (es.filter (Entry.isDetectorFor survey)) cs := by
  induction es generalizing cs with
  | nil =>
      obtain rfl := eq_of_mayEnd_value h
      exact .nil
  | cons e es ih =>
      obtain ⟨c, hc, hrest⟩ := mayEnd_andThen_value h
      obtain ⟨rest, htail, hcs⟩ := mayEnd_andThen_value hrest
      obtain rfl := eq_of_mayEnd_value hcs
      have hsplit : (e :: es).filter (Entry.isDetectorFor survey) =
          [e].filter (Entry.isDetectorFor survey) ++ es.filter (Entry.isDetectorFor survey) := by
        rw [← List.filter_append, List.singleton_append]
      rw [hsplit]
      exact List.rel_append (contributes_of_mayEnd hc) (ih htail)

/-- Every detector for the survey is what one of the candidates contributes. -/
theorem exists_contributes {es : List (Entry σ)} {cs : List (Chosen (Detector σ))}
    (h : (chooseDetectors survey es).MayEnd (.value cs)) {c : Chosen (Detector σ)} (hc : c ∈ cs) :
    ∃ e ∈ es, e.Contributes survey c := by
  obtain ⟨i, hi⟩ := List.mem_iff_getElem?.1 hc
  obtain ⟨e, he, -, hcontributes⟩ :=
    Execution.exists_of_forall₂_getElem? (chooseDetectors_ruled h) hi
  exact ⟨e, (List.mem_filter.1 he).1, hcontributes⟩

/-! ## How the selection comes out -/

/-- A composition hangs where one of its parts does. -/
theorem mayHang_andThen {a : Activity σ α} {f : α → Activity σ β} (h : (a.andThen f).MayHang) :
    a.MayHang ∨ ∃ v, a.MayEnd (.value v) ∧ (f v).MayHang := by
  rcases part_andThen h with ⟨a', ha, hb⟩ | h
  · cases a' with
    | finish o =>
        cases o with
        | value v =>
            refine .inr ⟨v, ha, ?_⟩
            rw [MayHang, hb]
            exact .refl _
        | fault e => cases hb
        | collapse message => cases hb
    | forever => exact .inl ha
    | wait d next => cases hb
    | touch change next => cases hb
    | cancel next => cases hb
  · exact .inr h

theorem mayHang_of_tried {a : Activity σ α} (h : a.tried.MayHang) : a.MayHang := by
  induction a with
  | finish o => cases o <;> simp [tried, MayHang] at h
  | forever => exact .refl _
  | wait d next ih => exact part_wait.2 (.inr (ih (by simpa [tried, MayHang] using h)))
  | touch change next ih =>
      obtain ⟨now, w, h⟩ : ∃ now w, (next now w).tried.MayHang := by
        simpa [tried, MayHang] using h
      exact part_touch.2 (.inr ⟨now, w, ih now w h⟩)
  | cancel next ih => exact part_cancel.2 (.inr (ih (by simpa [tried, MayHang] using h)))

theorem not_mayHang_value {v : α} : ¬ (Activity.value v : Activity σ α).MayHang := by
  simp [Activity.value, MayHang]

theorem mayHang_queueHosted {p : Proxy σ} (h : (queueHosted p survey).MayHang) :
    p.plugins.MayHang := by
  rcases mayHang_andThen h with h | ⟨answer, -, h⟩
  · exact mayHang_of_tried h
  · cases answer <;> exact absurd h not_mayHang_value

/-- Only a language server that is asked for its plugins keeps the selection waiting. -/
theorem mayHang_chooseDetectors {es : List (Entry σ)} (h : (chooseDetectors survey es).MayHang) :
    ∃ e ∈ es, ∃ p, e.body = .host p ∧ p.plugins.MayHang := by
  induction es with
  | nil => exact absurd h not_mayHang_value
  | cons e es ih =>
      rcases mayHang_andThen h with h | ⟨c, -, h⟩
      · obtain ⟨definition, body⟩ := e
        cases body with
        | portScanner scan => exact absurd h not_mayHang_value
        | fingerprinter identify => exact absurd h not_mayHang_value
        | detector d => exact absurd h not_mayHang_value
        | host p =>
            rcases mayHang_andThen h with h | ⟨q, -, h⟩
            · exact ⟨_, List.mem_cons_self, p, rfl, mayHang_queueHosted h⟩
            · exact absurd h not_mayHang_value
      · rcases mayHang_andThen h with h | ⟨cs, -, h⟩
        · obtain ⟨e', he', hhang⟩ := ih h
          exact ⟨e', List.mem_cons_of_mem e he', hhang⟩
        · exact absurd h not_mayHang_value

/-- The detectors for a survey are what the qualified entries contribute, in the order of
registration. It takes a language server whose listing breaks off, or never comes, for the
selection not to end in them. -/
theorem detectorsFor_ruled (r : Registry σ) (s : Selection) (survey : Net.Survey) :
    (∀ o, (r.detectorsFor s survey).MayEnd o →
      (∃ message, o = .collapse message ∧ r.MayBreakOff s message) ∨
        ∃ chosen, o = .value chosen ∧ List.Forall₂ (Entry.Contributes survey)
          (r.entries.filter fun e => e.Qualifies s survey) chosen) ∧
      ((r.detectorsFor s survey).MayHang →
        ∃ e ∈ r.candidates s, ∃ p, e.body = .host p ∧ p.plugins.MayHang) := by
  -- the candidates that apply are the entries that qualify
  have hqualified : (r.candidates s).filter (Entry.isDetectorFor survey) =
      r.entries.filter fun e => e.Qualifies s survey := by
    rw [candidates, List.filter_filter]
    refine List.filter_congr fun e _ => ?_
    rw [Bool.eq_iff_iff, decide_eq_true_iff]
    exact Entry.qualifies_iff
  refine ⟨fun o h => ?_, mayHang_chooseDetectors⟩
  cases o with
  | value chosen =>
      refine .inr ⟨chosen, rfl, ?_⟩
      rw [← hqualified]
      exact chooseDetectors_ruled h
  | fault e => exact absurd h (detectorsFor_faultless r s survey e)
  | collapse message => exact .inl ⟨message, rfl, mayEnd_detectorsFor_collapse h⟩

end Registry

end VulnScan.Plugin
