import Mathlib.Data.List.Nodup
import VulnScan.Proofs.Plugin.Fingerprinters
import VulnScan.Proofs.Plugin.Hosted
import VulnScan.Proofs.Scan.Phases

/-! # A scan as a language server sees it

If no other plugin changes the view that a server has of its calls, then the server sees nothing of
a scan before it is asked for its plugins, and afterwards nothing but the run of its proxy. So for
what the server sees only the third phase of a scan matters (`Workflow.final_of_detect`), and what
the scan records of the run is told by the answers of the server (`Workflow.Completes.hosted`).
-/

set_option autoImplicit false

namespace VulnScan.Scan

open Execution (Activity Course Outcome Record Recorded Session Signals Moment Task)
open LanguageServer (Answers Calls Proxy)
open Plugin (Chosen Detector Entry)

variable {σ γ : Type} {view : σ → γ}

namespace Workflow

variable {w : Workflow σ} {target : Net.Endpoint} {signals : Signals} {m m' : Moment σ}

/-- The port scanner keeps a view if all port scanners do. -/
theorem scanPorts_keeps
    (h : ∀ e ∈ w.registry.entries, ∀ scan, e.body = .portScanner scan → e.body.Keeps view) :
    view (w.scanPorts target signals m).final.world = view m.world := by
  unfold scanPorts
  cases hc : w.registry.portScanners with
  | nil => rfl
  | cons c cs =>
      have hmem : c ∈ w.registry.portScanners := by
        rw [hc]
        exact List.mem_cons_self
      have hkeeps : (c.body target).Keeps view := by
        obtain ⟨e, he, hbody⟩ := exists_of_mem_portScanners hmem
        have hscanner := h e he c.body hbody
        rw [hbody] at hscanner
        exact hscanner target
      have htasks : ∀ t ∈ [w.task c (c.body target)],
          t.activity.Keeps view := by
        simpa using hkeeps
      have hexecute := w.pool.execute_keeps _ signals m htasks
      refine Session.final_bind (P := fun m' => view m'.world = view m.world) ?_ ?_
      · rw [traced_eq rfl]
        rfl
      · intro t m₁ ht
        rw [traced_eq rfl] at ht
        cases ht
        refine Session.final_bind (P := fun m' => view m'.world = view m.world) hexecute ?_
        intro records m' hrecords
        rw [hrecords] at hexecute
        -- whatever the records are, nothing else happens
        split <;> exact hexecute

theorem identification_keeps {ports : Net.Survey}
    (h : ∀ e ∈ w.registry.entries, ∀ identify, e.body = .fingerprinter identify →
      e.body.Keeps view) :
    ∀ t ∈ w.identification ports, t.activity.Keeps view := by
  intro t ht
  obtain ⟨e, he, identify, s, hbody, hactivity⟩ := exists_of_mem_identification ht
  have hkeeps := h e he identify hbody
  rw [hbody] at hkeeps
  rw [hactivity]
  exact hkeeps ports.host s

/-! ## Up to the third phase -/

/-- The scan comes to a survey, for which it goes on to select its detectors at the moment `m₂`. -/
inductive Surveys (w : Workflow σ) (target : Net.Endpoint) (signals : Signals) (m : Moment σ) :
    Net.Survey → Moment σ → Prop
  | mk {t : Tracer} {ports : Net.Survey} {identities : List (Record (List Net.Service))}
      {m₁ m₂ : Moment σ}
      (scans : w.scanPorts target signals m = .reached (t, .ok ports) m₁)
      (identifies : w.pool.execute (w.identification ports) signals m₁ = .reached identities m₂) :
      Surveys w target signals m (w.surveyed ports identities) m₂

theorem Surveys.unique {survey survey' : Net.Survey} {m₂ m₂' : Moment σ}
    (h : w.Surveys target signals m survey m₂) (h' : w.Surveys target signals m survey' m₂') :
    survey = survey' := by
  obtain ⟨scans, identifies⟩ := h
  obtain ⟨scans', identifies'⟩ := h'
  rw [scans] at scans'
  cases scans'
  rw [identifies] at identifies'
  cases identifies'
  rfl

/-- A tracer goes on or refuses, and nothing else happens. -/
theorem traced_cases (signals : Signals) (m : Moment σ)
    (step : (now : Nat) → Except Misuse Tracer) :
    (∃ t, traced step signals m = .reached t m) ∨
      ∃ message, traced step signals m = .collapsed message m := by
  cases h : step (instant m.now) with
  | ok t => exact .inl ⟨t, traced_eq h⟩
  | error misuse =>
      refine .inr ⟨misuse.message, ?_⟩
      simp only [traced, bind, Session.andThen, Session.moment, h]
      rfl

theorem final_traced_bind {β : Type} {step : (now : Nat) → Except Misuse Tracer}
    {f : Tracer → Session σ β} {P : Moment σ → Prop} (hm : P m)
    (hf : ∀ t, P (f t signals m).final) : P ((traced step >>= f) signals m).final := by
  rcases traced_cases signals m step with ⟨t, ht⟩ | ⟨message, ht⟩
  · refine Session.final_bind ?_ fun t' m₁ ht' => ?_
    · rw [ht]
      exact hm
    · rw [ht] at ht'
      cases ht'
      exact hf t
  · refine Session.final_bind ?_ fun t' m₁ ht' => ?_
    · rw [ht]
      exact hm
    · rw [ht] at ht'
      cases ht'

theorem moment_eq_of_traced {step : (now : Nat) → Except Misuse Tracer} {t : Tracer}
    (h : traced step signals m = .reached t m') : m' = m := by
  rcases traced_cases signals m step with ⟨t', ht⟩ | ⟨message, ht⟩
  · rw [ht] at h
    cases h
    rfl
  · rw [ht] at h
    cases h

/-- Where the second phase leads to a survey, it is that of its records. -/
theorem exists_of_fingerprint {t t' : Tracer} {ports survey : Net.Survey}
    (h : w.fingerprint t ports signals m = .reached (t', survey) m') :
    ∃ identities, w.pool.execute (w.identification ports) signals m = .reached identities m' ∧
      survey = w.surveyed ports identities := by
  unfold fingerprint at h
  obtain ⟨t₁, m₁, ht, hrest⟩ := (Session.bind_eq_reached (s := traced _)).1 h
  obtain rfl : m₁ = m := moment_eq_of_traced ht
  obtain ⟨identities, m₂, hidentities, hout⟩ := Session.bind_eq_reached.1 hrest
  cases hout
  exact ⟨identities, hidentities, rfl⟩

/-- The second phase keeps a view if all fingerprinters do. -/
theorem fingerprint_keeps {t : Tracer} {ports : Net.Survey}
    (fingerprinters : ∀ e ∈ w.registry.entries, ∀ identify, e.body = .fingerprinter identify →
      e.body.Keeps view) :
    view (w.fingerprint t ports signals m).final.world = view m.world := by
  have htasks : ∀ t ∈ w.identification ports, t.activity.Keeps view :=
    identification_keeps fingerprinters
  have hexecute := w.pool.execute_keeps _ signals m htasks
  unfold fingerprint
  refine final_traced_bind (P := fun m' => view m'.world = view m.world) rfl fun t' => ?_
  refine Session.final_bind (P := fun m' => view m'.world = view m.world) hexecute ?_
  intro identities m₁ hidentities
  have hidentities : w.pool.execute (w.identification ports) signals m =
      .reached identities m₁ := hidentities
  rw [hidentities] at hexecute
  exact hexecute

/-- The phases after port scanning do to a view what the third one does, if all fingerprinters keep
it. -/
theorem afterPorts_final {P : γ → Prop} {t : Tracer} {ports : Net.Survey}
    (fingerprinters : ∀ e ∈ w.registry.entries, ∀ identify, e.body = .fingerprinter identify →
      e.body.Keeps view)
    (start : P (view m.world))
    (detects : ∀ t identities m₂,
      w.pool.execute (w.identification ports) signals m = .reached identities m₂ →
      view m₂.world = view m.world →
      P (view (w.detect t (w.surveyed ports identities) signals m₂).final.world)) :
    P (view (w.afterPorts t ports signals m).final.world) := by
  have hkeeps : view (w.fingerprint t ports signals m).final.world = view m.world :=
    fingerprint_keeps fingerprinters
  unfold afterPorts
  refine Session.final_bind (P := fun m' => P (view m'.world)) start ?_
  intro isCancelled₁ _ h
  cases h
  split
  · exact start
  · refine Session.final_bind (P := fun m' => P (view m'.world)) ?_ ?_
    · rw [hkeeps]
      exact start
    · rintro ⟨t₁, survey⟩ m₂ hfingerprint
      obtain ⟨identities, hidentities, rfl⟩ := exists_of_fingerprint hfingerprint
      rw [hfingerprint] at hkeeps
      have hm₂ : view m₂.world = view m.world := hkeeps
      have hstart : P (view m₂.world) := by
        rw [hm₂]
        exact start
      have hdetect := detects t₁ identities m₂ hidentities hm₂
      refine Session.final_bind (P := fun m' => P (view m'.world)) hstart ?_
      intro isCancelled₂ _ h
      cases h
      split
      · exact hstart
      · refine Session.final_bind (P := fun m' => P (view m'.world)) hdetect ?_
        rintro ⟨t₂, out⟩ m' hout
        rw [hout] at hdetect
        -- what is left is to look at the records
        cases out with
        | error e => exact hdetect
        | ok records =>
            refine Session.final_bind (P := fun m' => P (view m'.world)) hdetect ?_
            intro isCancelled₃ _ h
            cases h
            split
            · exact hdetect
            · exact final_traced_bind (P := fun m' => P (view m'.world)) hdetect fun _ => hdetect

/-- Of the phases only the third one can do anything to a view that port scanners and
fingerprinters keep. -/
theorem final_of_detect {P : γ → Prop}
    (scanners : ∀ e ∈ w.registry.entries, ∀ scan, e.body = .portScanner scan → e.body.Keeps view)
    (fingerprinters : ∀ e ∈ w.registry.entries, ∀ identify, e.body = .fingerprinter identify →
      e.body.Keeps view)
    (start : P (view m.world))
    (detects : ∀ t survey m₂, w.Surveys target signals m survey m₂ →
      view m₂.world = view m.world → P (view (w.detect t survey signals m₂).final.world)) :
    P (view (w.run target signals m).final.world) := by
  have hscan : view (w.scanPorts target signals m).final.world = view m.world :=
    scanPorts_keeps scanners
  have hphases : P (view (w.phases target signals m).final.world) := by
    refine Session.final_bind (P := fun m' => P (view m'.world)) ?_ ?_
    · rw [hscan]
      exact start
    · rintro ⟨t, out⟩ m₁ hports
      rw [hports] at hscan
      have hm₁ : view m₁.world = view m.world := hscan
      have hstart : P (view m₁.world) := by
        rw [hm₁]
        exact start
      cases out with
      | error e =>
          refine Session.final_bind (P := fun m' => P (view m'.world)) hstart ?_
          intro isCancelled _ h
          cases h
          exact hstart
      | ok ports =>
          refine afterPorts_final fingerprinters hstart ?_
          intro t₂ identities m₂ hidentities hm₂
          exact detects t₂ _ m₂ (.mk hports hidentities) (hm₂.trans hm₁)
  -- the results are drawn from what the phases have led to
  refine Session.final_bind (P := fun m' => P (view m'.world)) start ?_
  intro _ _ h
  cases h
  refine Session.final_bind (P := fun m' => P (view m'.world)) hphases ?_
  rintro ⟨t, outcome⟩ m' hout
  rw [hout] at hphases
  refine Session.final_bind (P := fun m' => P (view m'.world)) hphases ?_
  intro _ _ h
  cases h
  cases outcome <;> exact hphases

/-! ## The third phase -/

/-- The third phase ends while the detectors are selected, or when the selected ones have run. -/
theorem detect_final {P : Moment σ → Prop} {t : Tracer} {survey : Net.Survey} (start : P m)
    (selecting : P ((w.registry.detectorsFor w.selection survey).alone signals m).final)
    (detecting : ∀ chosen m₂, (w.registry.detectorsFor w.selection survey).alone signals m =
      .reached (some (.value chosen)) m₂ → P m₂ →
      P (w.pool.execute (w.detection survey chosen) signals m₂).final) :
    P (w.detect t survey signals m).final := by
  unfold detect
  refine Session.final_bind start fun isCancelled _ h => ?_
  cases h
  split
  · exact start
  · refine Session.final_bind selecting fun o m₂ ho => ?_
    rw [ho] at selecting
    have hm₂ : P m₂ := selecting
    cases o with
    | none => exact hm₂
    | some o =>
        cases o with
        | fault error => exact hm₂
        | collapse message => exact hm₂
        | value chosen =>
            have hexecute := detecting chosen m₂ ho hm₂
            refine final_traced_bind hm₂ fun t' => ?_
            refine Session.final_bind hexecute fun records m' hrecords => ?_
            have hrecords : w.pool.execute (w.detection survey chosen) signals m₂ =
              .reached records m' := hrecords
            rw [hrecords] at hexecute
            exact hexecute

/-- The task of the detectors of a language server. -/
def hostedTask (w : Workflow σ) (e : Entry σ) (p : Proxy σ) (survey : Net.Survey) :
    Task σ (List Finding.Report) :=
  w.task (Plugin.hosted e p survey) (p.detect survey.host)

/-- The other candidates for detection keep the view of a hosted detector. -/
theorem exists_candidates_eq {e : Entry σ} (candidate : e ∈ w.registry.candidates w.selection)
    (others : ∀ e' ∈ w.registry.entries, e' ≠ e → e'.body.Keeps view) :
    ∃ before after, w.registry.candidates w.selection = before ++ e :: after ∧
      (∀ e' ∈ before, e'.body.Keeps view) ∧ ∀ e' ∈ after, e'.body.Keeps view := by
  obtain ⟨before, after, hsplit⟩ := List.append_of_mem candidate
  have hnodup : (w.registry.candidates w.selection).Nodup :=
    (List.Nodup.of_map Entry.id w.registry.nodup).filter _
  rw [hsplit, List.nodup_middle, List.nodup_cons, List.mem_append, not_or] at hnodup
  have hkeeps : ∀ e' ∈ w.registry.candidates w.selection, e' ≠ e → e'.body.Keeps view :=
    fun e' he' => others e' (List.mem_filter.1 he').1
  refine ⟨before, after, hsplit, fun e' he' => hkeeps e' ?_ ?_, fun e' he' => hkeeps e' ?_ ?_⟩
  · rw [hsplit]
    exact List.mem_append_left _ he'
  · rintro rfl
    exact hnodup.1.1 he'
  · rw [hsplit]
    exact List.mem_append_right _ (List.mem_cons_of_mem e he')
  · rintro rfl
    exact hnodup.1.2 he'

/-- The detectors that are selected: that of the language server with the plugins queued that it
offered, among others that keep the view of its calls. -/
theorem exists_chosen_eq {see : γ → Calls} {answers : Answers} {e : Entry σ} {p q : Proxy σ}
    {survey : Net.Survey} {chosen : List (Chosen (Detector σ))}
    (candidate : e ∈ w.registry.candidates w.selection) (body : e.body = .host p)
    (gives : p.server.Gives (fun w => see (view w)) answers)
    (others : ∀ e' ∈ w.registry.entries, e' ≠ e → e'.body.Keeps view)
    (queued : q = Plugin.Registry.queueAll p survey (p.offered answers (see (view m.world))))
    (selects : (w.registry.detectorsFor w.selection survey).alone signals m =
      .reached (some (.value chosen)) m') :
    see (view m'.world) = (p.listed answers (see (view m.world))).2 ∧
      ∃ cs₁ cs₂, chosen = cs₁ ++ Plugin.hosted e q survey :: cs₂ ∧
        (∀ c ∈ cs₁, c.Keeps view) ∧ ∀ c ∈ cs₂, c.Keeps view := by
  obtain ⟨before, after, hsplit, hbefore, hafter⟩ := exists_candidates_eq candidate others
  have hqueues := Plugin.Registry.queueHosted_yields gives survey (view m.world)
  rw [← queued] at hqueues
  have hselected := Plugin.Registry.chooseDetectors_hosted body hqueues hbefore hafter
  rw [← hsplit] at hselected
  exact (Activity.alone_yields _ signals m hselected).of_reached selects _ rfl chosen rfl

/-- Tasks of detectors that keep a view keep it. -/
theorem keeps_of_detection {survey : Net.Survey} {cs : List (Chosen (Detector σ))}
    (h : ∀ c ∈ cs, c.Keeps view) : ∀ t ∈ w.detection survey cs, t.activity.Keeps view := by
  intro t ht
  obtain ⟨c, hc, rfl⟩ := List.mem_map.1 ht
  exact h c hc _ _

/-- A scan keeps a view if every plugin does that may run in it. -/
theorem run_keeps
    (scanners : ∀ e ∈ w.registry.entries, ∀ scan, e.body = .portScanner scan → e.body.Keeps view)
    (fingerprinters : ∀ e ∈ w.registry.entries, ∀ identify, e.body = .fingerprinter identify →
      e.body.Keeps view)
    (detectors : ∀ e ∈ w.registry.candidates w.selection, e.body.Keeps view) :
    view (w.run target signals m).final.world = view m.world := by
  refine final_of_detect (P := fun b => b = view m.world) scanners fingerprinters rfl ?_
  intro t survey m₂ _ hm₂
  have hlistings : ∀ e ∈ w.registry.candidates w.selection, ∀ p, e.body = .host p →
      p.plugins.Keeps view := by
    intro e he p hp
    have hkeeps := detectors e he
    rw [hp] at hkeeps
    exact p.plugins_keeps hkeeps.health hkeeps.list
  have hselects := Plugin.Registry.chooseDetectors_inherits (Activity.Keeps.composes view)
    hlistings survey
  have hselecting := Activity.alone_keeps hselects signals m₂
  refine detect_final (P := fun m' => view m'.world = view m.world) hm₂ ?_ ?_
  · exact hselecting.trans hm₂
  · intro chosen m₃ hchosen hm₃
    have hkeeps := (Activity.alone_yields _ signals m₂
      (Plugin.Registry.chooseDetectors_keeps detectors survey _)).of_reached hchosen _ rfl chosen
        rfl
    exact (w.pool.execute_keeps _ signals m₃ (keeps_of_detection hkeeps.2)).trans hm₃

/-- In a scan that completes, the record of a hosted detector is what the answers of its server
after the listing make of the plugins that it offered. -/
theorem Completes.hosted {see : γ → Calls} {answers : Answers} {e : Entry σ} {p : Proxy σ}
    {ports survey : Net.Survey} {records : List (Record (List Finding.Report))}
    (completes : w.Completes signals ports m survey records m')
    (candidate : e ∈ w.registry.candidates w.selection) (body : e.body = .host p)
    (gives : p.server.Gives (fun w => see (view w)) answers)
    (others : ∀ e' ∈ w.registry.entries, e' ≠ e → e'.body.Keeps view)
    {q : Proxy σ} (queued : q = Plugin.Registry.queueAll p survey
      (p.offered answers (see (view m.world)))) :
    ∃ record ∈ records, Recorded w.pool.deadline m'.cancelled
      (fun o => o = (q.ran answers survey.host (p.listed answers (see (view m.world))).2).1)
      (w.hostedTask e q survey) record := by
  cases completes with
  | @mk identities m₁ m₂ _ chosen _ identifies _ selects detects _ =>
      -- fingerprinting takes place before the listing, and without a call to the server
      have hidentified : ∀ t ∈ w.identification ports, t.activity.Keeps view := by
        refine identification_keeps fun e' he' identify hidentify => others e' he' ?_
        rintro rfl
        rw [body] at hidentify
        cases hidentify
      have hview₁ : view m₁.world = view m.world := by
        have hkeeps := w.pool.execute_keeps _ signals m hidentified
        rw [identifies] at hkeeps
        exact hkeeps
      rw [← hview₁] at queued ⊢
      obtain ⟨hcalls, cs₁, cs₂, rfl, hcs₁, hcs₂⟩ :=
        exists_chosen_eq candidate body gives others queued selects
      -- the run goes on with the answers after the listing, whatever runs at the same time
      have hserver : q.server.Gives (fun w => see (view w)) answers := by
        rw [queued, Plugin.Registry.queueAll_server]
        exact gives
      have hran : (w.hostedTask e q (w.surveyed ports identities)).activity.Yields view
          (fun o _ => o = (q.ran answers (w.surveyed ports identities).host
            (p.listed answers (see (view m₁.world))).2).1) (view m₂.world) := by
        refine (Activity.Yields.of_seen (Proxy.detect_yields hserver _ _)).imp fun o b ho => ?_
        rw [← hcalls, ← ho]
      unfold detection at detects
      rw [List.map_append, List.map_cons] at detects
      exact Execution.Pool.execute_yields detects hran (keeps_of_detection hcs₁)
        (keeps_of_detection hcs₂)

end Workflow

end VulnScan.Scan
