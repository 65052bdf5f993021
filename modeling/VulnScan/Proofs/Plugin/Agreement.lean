import VulnScan.Proofs.Execution.Alike
import VulnScan.Proofs.Plugin.Fingerprinters
import VulnScan.Proofs.Plugin.Selection

/-! # Registries of plugins that answer alike

Two registries agree if they hold the same plugins in the same order, and every plugin of one
comes to the same outcome as that of the other whenever both are called with the same arguments.
How long a plugin takes, and in which world it works, does not matter. From such registries the
same plugins are selected.
-/

set_option autoImplicit false

namespace VulnScan.Plugin

open Execution (Activity)
open LanguageServer (Proxy)

variable {σ₁ σ₂ : Type}

/-- Both plugins work in the same role, and come to the same outcomes. For a detector hosted by a
language server this holds of the listing of its plugins, and of its runs with whatever plugins
are queued by then. -/
inductive Instance.Agree : Instance σ₁ → Instance σ₂ → Prop
  | portScanner {scan₁ : Net.Endpoint → Activity σ₁ Net.Survey}
      {scan₂ : Net.Endpoint → Activity σ₂ Net.Survey}
      (scan : ∀ target, (scan₁ target).Agree (scan₂ target)) :
      Agree (.portScanner scan₁) (.portScanner scan₂)
  | fingerprinter {identify₁ : Net.Host → Net.Service → Activity σ₁ (List Net.Service)}
      {identify₂ : Net.Host → Net.Service → Activity σ₂ (List Net.Service)}
      (identify : ∀ host s, (identify₁ host s).Agree (identify₂ host s)) :
      Agree (.fingerprinter identify₁) (.fingerprinter identify₂)
  | detector {d₁ : Detector σ₁} {d₂ : Detector σ₂}
      (detect : ∀ host services, (d₁.detect host services).Agree (d₂.detect host services)) :
      Agree (.detector d₁) (.detector d₂)
  | host {p₁ : Proxy σ₁} {p₂ : Proxy σ₂} (queue : p₁.queue = p₂.queue)
      (plugins : p₁.plugins.Agree p₂.plugins)
      (detect : ∀ queue host, (({ p₁ with queue } : Proxy σ₁).detect host).Agree
        (({ p₂ with queue } : Proxy σ₂).detect host)) :
      Agree (.host p₁) (.host p₂)

/-- Both entries are of the same plugin, with agreeing bodies. -/
structure Entry.Agree (e₁ : Entry σ₁) (e₂ : Entry σ₂) : Prop where
  definition : e₁.definition = e₂.definition
  body : e₁.body.Agree e₂.body

/-- The registries hold agreeing plugins in the same order. -/
def Registry.Agree (r₁ : Registry σ₁) (r₂ : Registry σ₂) : Prop :=
  List.Forall₂ Entry.Agree r₁.entries r₂.entries

/-- The same plugin was chosen for the same services, with bodies that `R` relates. -/
structure Chosen.Alike {β₁ β₂ : Type} (R : β₁ → β₂ → Prop) (c₁ : Chosen β₁) (c₂ : Chosen β₂) :
    Prop where
  plugin : c₁.plugin = c₂.plugin
  services : c₁.services = c₂.services
  body : R c₁.body c₂.body

/-- Both detectors come to the same outcomes. -/
def DetectorsAgree (d₁ : Detector σ₁) (d₂ : Detector σ₂) : Prop :=
  ∀ host services, (d₁.detect host services).Agree (d₂.detect host services)

/-- Both proxies have the same plugins queued, and come to the same outcomes with any. -/
structure ProxiesAgree (p₁ : Proxy σ₁) (p₂ : Proxy σ₂) : Prop where
  queue : p₁.queue = p₂.queue
  detect : ∀ queue host, (({ p₁ with queue } : Proxy σ₁).detect host).Agree
    (({ p₂ with queue } : Proxy σ₂).detect host)

theorem ProxiesAgree.add {p₁ : Proxy σ₁} {p₂ : Proxy σ₂} (h : ProxiesAgree p₁ p₂)
    (plugin : Matched) : ProxiesAgree (p₁.add plugin) (p₂.add plugin) := by
  unfold Proxy.add
  rw [h.queue]
  split
  · exact h
  · exact ⟨rfl, h.detect⟩

namespace Registry

variable {r₁ : Registry σ₁} {r₂ : Registry σ₂}

theorem Agree.ofRole (h : r₁.Agree r₂) (role : Role) :
    List.Forall₂ Entry.Agree (r₁.ofRole role) (r₂.ofRole role) :=
  List.rel_filter (fun _ _ he => by simp [he.definition]) h

theorem Agree.portScanners (h : r₁.Agree r₂) :
    List.Forall₂ (Chosen.Alike fun scan₁ scan₂ => ∀ target, (scan₁ target).Agree (scan₂ target))
      r₁.portScanners r₂.portScanners := by
  refine List.rel_filterMap (fun e₁ e₂ he => ?_) (h.ofRole .portScanner)
  obtain ⟨definition₁, body₁⟩ := e₁
  obtain ⟨definition₂, body₂⟩ := e₂
  obtain ⟨rfl, hbody⟩ := he
  cases hbody with
  | portScanner scan => exact .some ⟨rfl, rfl, scan⟩
  | fingerprinter identify => exact .none
  | detector detect => exact .none
  | host queue plugins detect => exact .none

theorem fingerprinterOf_agree (s : Net.Service) {e₁ : Entry σ₁} {e₂ : Entry σ₂}
    (h : e₁.Agree e₂) :
    Option.Rel
      (Chosen.Alike fun identify₁ identify₂ =>
        ∀ host s, (identify₁ host s).Agree (identify₂ host s))
      (fingerprinterOf s e₁) (fingerprinterOf s e₂) := by
  obtain ⟨definition₁, body₁⟩ := e₁
  obtain ⟨definition₂, body₂⟩ := e₂
  obtain ⟨rfl, hbody⟩ := h
  unfold fingerprinterOf
  split
  · cases hbody with
    | fingerprinter identify => exact .some ⟨rfl, rfl, identify⟩
    | portScanner scan => exact .none
    | detector detect => exact .none
    | host queue plugins detect => exact .none
  · exact .none

theorem Agree.fingerprinterFor (h : r₁.Agree r₂) (s : Net.Service) :
    Option.Rel
      (Chosen.Alike fun identify₁ identify₂ =>
        ∀ host s, (identify₁ host s).Agree (identify₂ host s))
      (r₁.fingerprinterFor s) (r₂.fingerprinterFor s) := by
  rw [fingerprinterFor_eq, fingerprinterFor_eq]
  exact rel_findSome h fun _ _ he => fingerprinterOf_agree s he

/-! ## Detectors -/

theorem queueAll_agree {p₁ : Proxy σ₁} {p₂ : Proxy σ₂} (h : ProxiesAgree p₁ p₂)
    (survey : Net.Survey) (ds : List Definition) :
    ProxiesAgree (queueAll p₁ survey ds) (queueAll p₂ survey ds) := by
  unfold queueAll
  induction ds generalizing p₁ p₂ with
  | nil => exact h
  | cons d ds ih => exact ih (h.add _)

/-- What the entries of a registry contribute differs only in the delays. -/
theorem chooseDetector_alike (survey : Net.Survey) {e₁ : Entry σ₁} {e₂ : Entry σ₂}
    (h : e₁.Agree e₂) :
    (chooseDetector survey e₁).Alike (Option.Rel (Chosen.Alike DetectorsAgree))
      (chooseDetector survey e₂) := by
  obtain ⟨definition₁, body₁⟩ := e₁
  obtain ⟨definition₂, body₂⟩ := e₂
  obtain ⟨rfl, hbody⟩ := h
  cases hbody with
  | portScanner scan => exact .value .none
  | fingerprinter identify => exact .value .none
  | detector detect =>
      refine .value ?_
      dsimp only
      split
      · exact .none
      · exact .some ⟨rfl, rfl, detect⟩
  | @host p₁ p₂ queue plugins detect =>
      have hp : ProxiesAgree p₁ p₂ := ⟨queue, detect⟩
      have hqueued : (queueHosted p₁ survey).Alike ProxiesAgree (queueHosted p₂ survey) := by
        refine (Activity.Alike.tried plugins).andThen ?_
        rintro answer _ rfl
        cases answer with
        | ok ds => exact .value (queueAll_agree hp survey ds)
        | error e => exact .value hp
      refine hqueued.andThen fun q₁ q₂ hq => .value (.some ⟨rfl, rfl, fun host _ => ?_⟩)
      obtain ⟨server₁, backoff₁, attempts₁, deadline₁, queue₁⟩ := q₁
      obtain ⟨server₂, backoff₂, attempts₂, deadline₂, queue₂⟩ := q₂
      obtain ⟨rfl, hdetect⟩ := hq
      exact hdetect queue₁ host

/-- Agreeing registries select the same detectors, or break off their selection alike. -/
theorem Agree.detectorsFor (h : r₁.Agree r₂) (s : Selection) (survey : Net.Survey) :
    (r₁.detectorsFor s survey).Alike (List.Forall₂ (Chosen.Alike DetectorsAgree))
      (r₂.detectorsFor s survey) := by
  have hcandidates : List.Forall₂ Entry.Agree (r₁.candidates s) (r₂.candidates s) :=
    List.rel_filter (fun _ _ he => by simp [he.definition]) h
  unfold Registry.detectorsFor
  generalize r₁.candidates s = es₁ at hcandidates ⊢
  generalize r₂.candidates s = es₂ at hcandidates ⊢
  induction hcandidates with
  | nil => exact .value .nil
  | cons he _ ih =>
      refine (chooseDetector_alike survey he).andThen fun c₁ c₂ hc => ?_
      refine ih.andThen fun cs₁ cs₂ hcs => .value ?_
      cases hc with
      | none => exact hcs
      | some hc => exact .cons hc hcs

end Registry

end VulnScan.Plugin
