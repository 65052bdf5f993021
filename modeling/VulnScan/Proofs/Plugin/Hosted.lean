import VulnScan.Plugin.Selection
import VulnScan.Proofs.LanguageServer.Answers
import VulnScan.Proofs.LanguageServer.Queue
import VulnScan.Proofs.Plugin.Matching

/-! # What a language server contributes to the detectors

When the detectors for a survey are selected, a language server is asked for its plugins, and they
are queued on its proxy; if the listing ends in an error, nothing is queued and the error is
forgotten (`Registry.queueHosted_yields`). The proxy is selected in any case, with this queue
(`Registry.chooseDetectors_hosted`). All this happens in the view that the server has of its own
calls, which no other plugin changes.
-/

set_option autoImplicit false

namespace VulnScan.Plugin

open Execution (Activity Outcome)
open Execution.Activity
open LanguageServer (Answers Calls Proxy)

variable {σ γ : Type} {view : σ → γ}

/-- The plugin never changes what the world shows. -/
def Instance.Keeps (view : σ → γ) : Instance σ → Prop
  | .portScanner scan => ∀ target, (scan target).Keeps view
  | .fingerprinter identify => ∀ host s, (identify host s).Keeps view
  | .detector d => ∀ host services, (d.detect host services).Keeps view
  | .host p => p.server.Keeps view

/-- A detector that was chosen never changes what the world shows. -/
def Chosen.Keeps (view : σ → γ) (c : Chosen (Detector σ)) : Prop :=
  ∀ host services, (c.body.detect host services).Keeps view

/-- What a hosted detector contributes, by its proxy with some plugins queued. -/
def hosted (e : Entry σ) (p : Proxy σ) (survey : Net.Survey) : Chosen (Detector σ) :=
  ⟨e.definition, ⟨fun host _ => p.detect host, []⟩, survey.services⟩

/-- Plugins, each with the services of the survey that it applies to, without later repetitions. -/
def matchedIn (survey : Net.Survey) (ds : List Definition) : List Matched :=
  (ds.map fun d => ⟨d, survey.services.filter fun s => d.AppliesTo survey s⟩).eraseDups

namespace Registry

/-- What is queued on a fresh proxy. -/
theorem queueAll_eq {p : Proxy σ} (fresh : p.queue = []) (survey : Net.Survey)
    (ds : List Definition) : queueAll p survey ds = { p with queue := matchedIn survey ds } := by
  unfold queueAll matchedIn
  rw [← Proxy.foldl_add p fresh, List.foldl_map]
  simp only [Definition.servicesIn_eq]

theorem queueAll_server (p : Proxy σ) (survey : Net.Survey) (ds : List Definition) :
    (queueAll p survey ds).server = p.server := by
  unfold queueAll
  induction ds generalizing p with
  | nil => rfl
  | cons d ds ih =>
      rw [List.foldl_cons, ih, Proxy.add]
      split <;> rfl

/-- The queue of a proxy is filled without a change to a view that its server keeps. -/
theorem queueHosted_keeps {p : Proxy σ} (h : p.server.Keeps view) (survey : Net.Survey) (b : γ) :
    (queueHosted p survey).Yields view
      (fun o b' => ∀ q, o = .value q → b' = b ∧ q.server = p.server) b := by
  refine Yields.andThen_value
    (Yields.tried ((Yields.of_keeps (p.plugins_keeps h.health h.list) b).imp ?_))
  rintro o b' rfl answer -
  cases answer with
  | ok ds =>
      intro q hq
      cases hq
      exact ⟨rfl, queueAll_server p survey ds⟩
  | error e =>
      intro q hq
      cases hq
      exact ⟨rfl, rfl⟩

/-- A plugin that keeps a view does so while it is selected, and contributes a detector that
does. -/
theorem chooseDetector_keeps {e : Entry σ} (h : e.body.Keeps view) (survey : Net.Survey) (b : γ) :
    (chooseDetector survey e).Yields view
      (fun o b' => ∀ c, o = .value c → b' = b ∧ ∀ d ∈ c, d.Keeps view) b := by
  obtain ⟨definition, body⟩ := e
  cases body with
  | portScanner scan =>
      intro c hc
      cases hc
      exact ⟨rfl, by simp⟩
  | fingerprinter identify =>
      intro c hc
      cases hc
      exact ⟨rfl, by simp⟩
  | detector d =>
      intro c hc
      cases hc
      refine ⟨rfl, fun d' hd' => ?_⟩
      split at hd'
      · cases hd'
      · cases hd'
        exact h
  | host p =>
      refine Yields.andThen_value ((queueHosted_keeps h survey b).imp ?_)
      intro o b' hq q ho c hc
      obtain ⟨rfl, hserver⟩ := hq q ho
      cases hc
      refine ⟨rfl, fun d hd => ?_⟩
      cases hd
      intro host services
      refine q.detect_keeps ?_ host
      rw [hserver]
      exact h

theorem chooseDetectors_keeps {es : List (Entry σ)} (h : ∀ e ∈ es, e.body.Keeps view)
    (survey : Net.Survey) (b : γ) :
    (chooseDetectors survey es).Yields view
      (fun o b' => ∀ cs, o = .value cs → b' = b ∧ ∀ c ∈ cs, c.Keeps view) b := by
  induction es with
  | nil =>
      intro cs hcs
      cases hcs
      exact ⟨rfl, by simp⟩
  | cons e es ih =>
      refine Yields.andThen_value
        ((chooseDetector_keeps (h e List.mem_cons_self) survey b).imp fun o b₁ hc c ho => ?_)
      obtain ⟨rfl, hkeeps⟩ := hc c ho
      refine Yields.andThen_value
        ((ih fun e' he' => h e' (List.mem_cons_of_mem e he')).imp fun o b₂ hcs cs ho' => ?_)
      obtain ⟨rfl, hkeeps'⟩ := hcs cs ho'
      intro cs' hcs'
      cases hcs'
      refine ⟨rfl, fun d hd => ?_⟩
      rcases List.mem_append.1 hd with hd | hd
      · exact hkeeps d (Option.mem_toList.1 hd)
      · exact hkeeps' d hd

/-- Of a server by whose view its answers are known, the plugins that it offers are queued. -/
theorem queueHosted_yields {see : γ → Calls} {answers : Answers} {p : Proxy σ}
    (gives : p.server.Gives (fun w => see (view w)) answers) (survey : Net.Survey) (b : γ) :
    (queueHosted p survey).Yields view
      (fun o b' => ∀ q, o = .value q → q = queueAll p survey (p.offered answers (see b)) ∧
        see b' = (p.listed answers (see b)).2) b := by
  have hlisted := Yields.of_seen (Proxy.plugins_yields gives (see b))
  refine Yields.andThen_value (Yields.tried (hlisted.imp fun o b' ho answer hanswer => ?_))
  unfold Proxy.offered
  rw [← ho]
  cases o with
  | value ds =>
      cases hanswer
      intro q hq
      cases hq
      exact ⟨rfl, rfl⟩
  | fault error =>
      cases hanswer
      intro q hq
      cases hq
      exact ⟨rfl, rfl⟩
  | collapse message => cases hanswer

/-- A hosted detector is selected with the queue that its server makes for, and the other plugins
keep the view that the server has of its calls. -/
theorem chooseDetectors_hosted {before after : List (Entry σ)} {e : Entry σ} {p q : Proxy σ}
    {R : γ → Prop} {b : γ} {survey : Net.Survey} (body : e.body = .host p)
    (queues : (queueHosted p survey).Yields view
      (fun o b' => ∀ q', o = .value q' → q' = q ∧ R b') b)
    (hbefore : ∀ e' ∈ before, e'.body.Keeps view) (hafter : ∀ e' ∈ after, e'.body.Keeps view) :
    (chooseDetectors survey (before ++ e :: after)).Yields view
      (fun o b' => ∀ cs, o = .value cs → R b' ∧
        ∃ cs₁ cs₂, cs = cs₁ ++ hosted e q survey :: cs₂ ∧
          (∀ c ∈ cs₁, c.Keeps view) ∧ ∀ c ∈ cs₂, c.Keeps view) b := by
  induction before with
  | nil =>
      have hchosen : (chooseDetector survey e).Yields view
          (fun o b' => ∀ c, o = .value c → R b' ∧ c = some (hosted e q survey)) b := by
        unfold chooseDetector
        rw [body]
        refine Yields.andThen_value (queues.imp fun o b' hq q' ho c hc => ?_)
        obtain ⟨rfl, hR⟩ := hq q' ho
        cases hc
        exact ⟨hR, rfl⟩
      refine Yields.andThen_value (hchosen.imp fun o b₁ hc c ho => ?_)
      obtain ⟨hR, rfl⟩ := hc c ho
      refine Yields.andThen_value
        ((chooseDetectors_keeps hafter survey b₁).imp fun o b₂ hcs cs ho' => ?_)
      obtain ⟨rfl, hkeeps⟩ := hcs cs ho'
      intro cs' hcs'
      cases hcs'
      exact ⟨hR, [], cs, rfl, by simp, hkeeps⟩
  | cons e' before ih =>
      -- an earlier plugin may list its own server, but keeps this view
      refine Yields.andThen_value
        ((chooseDetector_keeps (hbefore e' List.mem_cons_self) survey b).imp fun o b₁ hc c ho => ?_)
      obtain ⟨rfl, hkeeps⟩ := hc c ho
      refine Yields.andThen_value ((ih fun e'' he'' =>
        hbefore e'' (List.mem_cons_of_mem e' he'')).imp fun o b₂ hcs cs ho' => ?_)
      obtain ⟨hR, cs₁, cs₂, rfl, hkeeps₁, hkeeps₂⟩ := hcs cs ho'
      intro cs' hcs'
      cases hcs'
      refine ⟨hR, c.toList ++ cs₁, cs₂, (List.append_assoc _ _ _).symm, fun d hd => ?_, hkeeps₂⟩
      rcases List.mem_append.1 hd with hd | hd
      · exact hkeeps d (Option.mem_toList.1 hd)
      · exact hkeeps₁ d hd

/-! ## While the detectors are selected -/

/-- What the listings of plugins satisfy passes on to the selection of detectors. -/
theorem chooseDetectors_inherits {P : (α : Type) → Activity σ α → Prop} (composes : Composes P)
    {es : List (Entry σ)} (h : ∀ e ∈ es, ∀ p, e.body = .host p → P _ p.plugins)
    (survey : Net.Survey) : P _ (chooseDetectors survey es) := by
  induction es with
  | nil => exact composes.finish _
  | cons e es ih =>
      have hchoose : P _ (chooseDetector survey e) := by
        unfold chooseDetector
        split
        · exact composes.finish _
        · next p hp =>
            have hqueue : P _ (queueHosted p survey) := by
              refine composes.andThen (composes.tried (h e List.mem_cons_self p hp))
                fun answer => ?_
              cases answer <;> exact composes.finish _
            exact composes.andThen hqueue fun _ => composes.finish _
        · exact composes.finish _
      have hrest := ih fun e' he' => h e' (List.mem_cons_of_mem e he')
      exact composes.andThen hchoose fun _ => composes.andThen hrest fun _ => composes.finish _

end Registry

end VulnScan.Plugin
