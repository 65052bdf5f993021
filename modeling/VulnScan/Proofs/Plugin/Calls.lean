import VulnScan.Proofs.LanguageServer.Answers
import VulnScan.Proofs.Plugin.DetectorRule
import VulnScan.Proofs.Plugin.Hosted

/-! # What all calls of plugins satisfy

Everything that a plugin does when it is called may satisfy a predicate (`Instance.All`). A
predicate that composed activities inherit passes on from the plugins of a registry to the
selection of detectors (`Registry.detectorsFor_inherits`) and to the detectors that are selected
(`Registry.chosen_inherits`), whatever is queued on the proxies among them.
-/

set_option autoImplicit false

namespace VulnScan.LanguageServer

open Execution (Activity)

variable {σ : Type}

/-- Every call of the server satisfies `P`. -/
structure Server.All (P : (α : Type) → Activity σ α → Prop) (server : Server σ) : Prop where
  health : ∀ limit, P _ (server.health limit)
  list : ∀ limit, P _ (server.list limit)
  run : ∀ request limit, P _ (server.run request limit)

end VulnScan.LanguageServer

namespace VulnScan.Plugin

open Execution (Activity)
open Execution.Activity
open LanguageServer (Proxy)

variable {σ : Type} {P : (α : Type) → Activity σ α → Prop}

/-- Everything that the plugin does when it is called satisfies `P`. -/
def Instance.All (P : (α : Type) → Activity σ α → Prop) : Instance σ → Prop
  | .portScanner scan => ∀ target, P _ (scan target)
  | .fingerprinter identify => ∀ host s, P _ (identify host s)
  | .detector d => ∀ host services, P _ (d.detect host services)
  | .host p => p.server.All P

theorem Instance.all_of_forall (h : ∀ {α : Type} (a : Activity σ α), P α a) (body : Instance σ) :
    body.All P := by
  cases body with
  | portScanner scan => exact fun target => h _
  | fingerprinter identify => exact fun host s => h _
  | detector d => exact fun host services => h _
  | host p => exact ⟨fun limit => h _, fun limit => h _, fun request limit => h _⟩

/-- What a plugin contributes to the detectors inherits what the plugin satisfies. -/
theorem Entry.Contributes.inherits (composes : Composes P) {survey : Net.Survey} {e : Entry σ}
    {c : Chosen (Detector σ)} (h : e.Contributes survey c) (he : e.body.All P) (host : Net.Host)
    (services : List Net.Service) : P _ (c.body.detect host services) := by
  cases h with
  | detector body =>
      rw [body] at he
      exact he host services
  | @host p body queue =>
      rw [body] at he
      exact ({ p with queue } : Proxy σ).detect_inherits composes he.health he.run host

namespace Registry

variable {r : Registry σ} (composes : Composes P) (h : ∀ e ∈ r.entries, e.body.All P)

include composes h

/-- The selection of detectors inherits what all plugins satisfy. -/
theorem detectorsFor_inherits (s : Selection) (survey : Net.Survey) :
    P _ (r.detectorsFor s survey) := by
  refine chooseDetectors_inherits composes (fun e he p hp => ?_) survey
  have hbody := h e (List.mem_filter.1 he).1
  rw [hp] at hbody
  exact p.plugins_inherits composes hbody.health hbody.list

/-- The detectors that are selected inherit what all plugins satisfy. -/
theorem chosen_inherits {s : Selection} {survey : Net.Survey} {chosen : List (Chosen (Detector σ))}
    (hc : (r.detectorsFor s survey).MayEnd (.value chosen)) :
    ∀ c ∈ chosen, ∀ host services, P _ (c.body.detect host services) := by
  intro c hmem
  obtain ⟨e, he, hcontributes⟩ := exists_contributes hc hmem
  exact hcontributes.inherits composes (h e (List.mem_filter.1 he).1)

end Registry

end VulnScan.Plugin
