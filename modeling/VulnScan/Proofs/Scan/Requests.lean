import VulnScan.Proofs.LanguageServer.Requests
import VulnScan.Proofs.Scan.Conclusion
import VulnScan.Proofs.Scan.Hosting

/-! # What a language server is asked to run

In a scan a language server is asked for its plugins and, later and after another look at its
health, for a run. Wherever the scan ends, it has asked the server for one run at most: of the
plugins that the server offered in this scan, each with the services that it applies to and none
of them twice (`Workflow.run_requests`). The answer to this request is what the scan records.
-/

set_option autoImplicit false

namespace VulnScan.Scan

open Execution (Activity Course Outcome Record Recorded Session Signals Moment Task)
open LanguageServer (Answers Calls Firsts Proxy Request RunRequest runsOf)
open Plugin (Chosen Detector Entry matchedIn)

variable {σ : Type} {log : σ → List Request}

namespace Workflow

/-- The registered plugin is the fresh proxy of a server that logs its requests and gives these
answers, and no other plugin makes requests to the server. -/
structure ServedBy (w : Workflow σ) (e : Entry σ) (p : Proxy σ) (log : σ → List Request)
    (answers : Answers) : Prop where
  registered : e ∈ w.registry.entries
  body : e.body = .host p
  fresh : p.queue = []
  logs : p.server.Logs log id
  gives : p.server.Gives (fun w => Calls.of (log w)) answers
  others : ∀ e' ∈ w.registry.entries, e' ≠ e → e'.body.Keeps log

/-- The proxy after the listing, by the survey and the answers of the server. -/
def queued (p : Proxy σ) (answers : Answers) (requests : List Request) (survey : Net.Survey) :
    Proxy σ :=
  { p with queue := matchedIn survey (p.offered answers (Calls.of requests)) }

/-- The run that a server is asked for in a scan that comes to the survey, if the server has got
the requests before: of the plugins that it offers then. -/
def requestFor (p : Proxy σ) (answers : Answers) (requests : List Request) (survey : Net.Survey) :
    RunRequest :=
  ⟨survey.host, matchedIn survey (p.offered answers (Calls.of requests))⟩

/-- Between two moments the server was asked for no run or for this one. -/
def AskedAtMost (log : σ → List Request) (request : RunRequest) (m m' : Moment σ) : Prop :=
  runsOf (log m'.world) = runsOf (log m.world) ∨
    runsOf (log m'.world) = runsOf (log m.world) ++ [request]

variable {w : Workflow σ} {target : Net.Endpoint} {signals : Signals} {m m' : Moment σ}
  {e : Entry σ} {p : Proxy σ} {answers : Answers}

/-- While the detectors are selected the server is asked for no run. -/
theorem ServedBy.detectorsFor_keeps (h : w.ServedBy e p log answers) (survey : Net.Survey) :
    (w.registry.detectorsFor w.selection survey).Keeps fun w => runsOf (log w) := by
  refine Plugin.Registry.chooseDetectors_inherits (Activity.Keeps.composes _)
    (fun e' he' p' hp' => ?_) survey
  by_cases heq : e' = e
  · subst heq
    obtain rfl : p' = p := by
      rw [h.body] at hp'
      cases hp'
      rfl
    exact p'.plugins_keeps_runs h.logs
  · have hkeeps := h.others e' (List.mem_filter.1 he').1 heq
    rw [hp'] at hkeeps
    exact (p'.plugins_keeps hkeeps.health hkeeps.list).seen runsOf

/-- While the detectors run the server is asked for one run at most: one task makes the request,
and the others leave the log alone. -/
theorem ServedBy.execute_asks (h : w.ServedBy e p log answers) {survey : Net.Survey}
    {queue : List Plugin.Matched} {cs₁ cs₂ : List (Chosen (Detector σ))}
    (hcs₁ : ∀ c ∈ cs₁, c.Keeps log) (hcs₂ : ∀ c ∈ cs₂, c.Keeps log) :
    AskedAtMost log ⟨survey.host, queue⟩ m
      (w.pool.execute (w.detection survey (cs₁ ++ Plugin.hosted e { p with queue } survey :: cs₂))
        signals m).final := by
  have hlogs : ({ p with queue } : Proxy σ).server.Logs log id := h.logs
  have hdetect : (w.hostedTask e { p with queue } survey).activity.Within
      (fun w => runsOf (log w)) (fun runs => runs = runsOf (log m.world) ∨
        runs = runsOf (log m.world) ++ [⟨survey.host, queue⟩]) (runsOf (log m.world)) :=
    Proxy.detect_within hlogs survey.host _
  unfold detection
  rw [List.map_append, List.map_cons]
  refine Execution.Pool.execute_within hdetect ?_ ?_
  · exact fun t ht => (keeps_of_detection hcs₁ t ht).seen runsOf
  · exact fun t ht => (keeps_of_detection hcs₂ t ht).seen runsOf

/-- In the third phase the server is asked for one run at most, of what it offered. -/
theorem ServedBy.detect_asks (h : w.ServedBy e p log answers)
    (candidate : e ∈ w.registry.candidates w.selection) (t : Tracer) (survey : Net.Survey) :
    AskedAtMost log (requestFor p answers (log m.world) survey) m
      (w.detect t survey signals m).final := by
  have hselecting := Activity.alone_keeps (h.detectorsFor_keeps survey) signals m
  refine detect_final (.inl rfl) (.inl hselecting) fun chosen m₂ hchosen _ => ?_
  rw [hchosen] at hselecting
  have hruns : runsOf (log m₂.world) = runsOf (log m.world) := hselecting
  have hqueued := Plugin.Registry.queueAll_eq h.fresh survey
    (p.offered answers (Calls.of (log m.world)))
  obtain ⟨-, cs₁, cs₂, rfl, hcs₁, hcs₂⟩ :=
    exists_chosen_eq candidate h.body h.gives h.others hqueued.symm hchosen
  have hexecute : AskedAtMost log (requestFor p answers (log m.world) survey)
      m₂ (w.pool.execute (w.detection survey _) signals m₂).final := h.execute_asks hcs₁ hcs₂
  rw [AskedAtMost, hruns] at hexecute
  exact hexecute

theorem ServedBy.scanners_keep (h : w.ServedBy e p log answers) :
    ∀ e' ∈ w.registry.entries, ∀ scan, e'.body = .portScanner scan → e'.body.Keeps log := by
  intro e' he' scan hscan
  refine h.others e' he' ?_
  rintro rfl
  rw [h.body] at hscan
  cases hscan

theorem ServedBy.fingerprinters_keep (h : w.ServedBy e p log answers) :
    ∀ e' ∈ w.registry.entries, ∀ identify, e'.body = .fingerprinter identify →
      e'.body.Keeps log := by
  intro e' he' identify hidentify
  refine h.others e' he' ?_
  rintro rfl
  rw [h.body] at hidentify
  cases hidentify

/-- A server whose proxy may not run is asked for nothing at all. -/
theorem ServedBy.run_silent (h : w.ServedBy e p log answers)
    (forbidden : e ∉ w.registry.candidates w.selection) :
    log (w.run target signals m).final.world = log m.world := by
  refine run_keeps h.scanners_keep h.fingerprinters_keep fun e' he' => ?_
  refine h.others e' (List.mem_filter.1 he').1 ?_
  rintro rfl
  exact forbidden he'

/-- In a whole scan the server is asked for one run at most, of what it offered. -/
theorem ServedBy.run_asks (h : w.ServedBy e p log answers) :
    runsOf (log (w.run target signals m).final.world) = runsOf (log m.world) ∨
      ∃ survey m₂, w.Surveys target signals m survey m₂ ∧
        AskedAtMost log (requestFor p answers (log m.world) survey) m
          (w.run target signals m).final := by
  by_cases candidate : e ∈ w.registry.candidates w.selection
  · refine final_of_detect (P := fun requests => runsOf requests = runsOf (log m.world) ∨
      ∃ survey m₂, w.Surveys target signals m survey m₂ ∧
        (runsOf requests = runsOf (log m.world) ∨ runsOf requests = runsOf (log m.world) ++
          [requestFor p answers (log m.world) survey]))
      h.scanners_keep h.fingerprinters_keep (.inl rfl) ?_
    intro t survey m₂ hsurvey hm₂
    have hdetect : AskedAtMost log (requestFor p answers (log m₂.world) survey) m₂
        (w.detect t survey signals m₂).final := h.detect_asks candidate t survey
    rw [AskedAtMost, hm₂] at hdetect
    exact .inr ⟨survey, m₂, hsurvey, hdetect⟩
  · exact .inl (congrArg runsOf (h.run_silent candidate))

theorem Completes.surveys {t : Tracer} {ports survey : Net.Survey} {m₁ : Moment σ}
    {records : List (Record (List Finding.Report))}
    (completes : w.Completes signals ports m₁ survey records m')
    (scans : w.scanPorts target signals m = .reached (t, .ok ports) m₁) :
    ∃ m₂, w.Surveys target signals m survey m₂ := by
  cases completes with
  | mk identifies _ _ _ _ => exact ⟨_, .mk scans identifies⟩

/-- **What a language server is asked to run.** Wherever a scan ends, it has asked the server for
one run at most, of the plugins that it offered in this scan, each with the services of the survey
that it applies to and none of them twice. What the scan records is the answer to this request. -/
theorem run_requests (h : w.ServedBy e p log answers) (target : Net.Endpoint) (signals : Signals)
    (m : Moment σ) :
    (runsOf (log (w.run target signals m).final.world) = runsOf (log m.world) ∨
      ∃ survey m₂, w.Surveys target signals m survey m₂ ∧
        AskedAtMost log (requestFor p answers (log m.world) survey) m
          (w.run target signals m).final) ∧
    (w.run target signals m).Meets
      (fun out m' => ∀ survey, out.2.survey = some survey →
        AskedAtMost log (requestFor p answers (log m.world) survey) m m' ∧
        (e ∈ w.registry.candidates w.selection → ∃ records start duration,
          out.2 = conclude survey records start duration ∧
          ∃ record ∈ records, Recorded w.pool.deadline m'.cancelled
            (fun o => o = ((queued p answers (log m.world) survey).ran answers survey.host
              (p.listed answers (Calls.of (log m.world))).2).1)
            (w.hostedTask e (queued p answers (log m.world) survey) survey) record))
      (w.Excused target signals) ∧
    ∀ (q : Proxy σ) (added : List Plugin.Matched), q.queue = [] →
      Firsts added (added.foldl Proxy.add q).queue := by
  refine ⟨h.run_asks, (w.run_meets target signals m).imp ?_ fun _ => id, ?_⟩
  · rintro ⟨t', r⟩ m' hrun ⟨-, hcomes⟩ survey hsurvey
    have hr : w.ComesTo target signals m m' r := hcomes
    cases hr with
    | cancelled called => cases hsurvey
    | failed _ scans => cases hsurvey
    | @completed t ports survey' m₁ records scans completes =>
        obtain rfl : survey' = survey := by simpa [conclude_eq] using hsurvey
        refine ⟨?_, fun candidate => ⟨records, _, _, rfl, ?_⟩⟩
        · -- the survey of the results is the one that the detectors were selected for
          obtain ⟨m₂, hm₂⟩ := completes.surveys scans
          have hasks : runsOf (log (w.run target signals m).final.world) =
              runsOf (log m.world) ∨ _ := h.run_asks
          rw [hrun] at hasks
          rcases hasks with hasks | ⟨survey'', m₂', hsurveys, hasks⟩
          · exact .inl hasks
          · rw [hm₂.unique hsurveys]
            exact hasks
        · have hlog : log m₁.world = log m.world := by
            have hkeeps : log (w.scanPorts target signals m).final.world = log m.world :=
              scanPorts_keeps h.scanners_keep
            rw [scans] at hkeeps
            exact hkeeps
          rw [← hlog]
          exact completes.hosted candidate h.body h.gives h.others
            (Plugin.Registry.queueAll_eq h.fresh survey' _).symm
  · intro q added fresh
    rw [Proxy.foldl_add q fresh]
    exact LanguageServer.firsts_eraseDups added

end Workflow

/-! ## A server with a catalogue -/

/-- A plugin that applies to any service. -/
def probe : Plugin.Definition :=
  { role := .detector, name := "Probe", author := "t", version := "1.0" }

/-- Another one, which needs a callback server. -/
def callbackProbe : Plugin.Definition := { probe with name := "Callback", needsCallback := true }

/-- The answers of a server that is well and offers the two plugins, one of them twice. -/
def catalogue : Answers where
  health _ := .ok .serving
  list _ := .ok [probe, callbackProbe, probe]
  run _ _ := .ok []

/-- A port scanner that always finds a single service. -/
def singleScanner : Entry (List Request) where
  definition := { role := .portScanner, name := "Ports", author := "t", version := "1.0" }
  body := .portScanner fun _ => .value ⟨{}, [{ endpoint := {}, name := "ssh" }]⟩

/-- The proxy of the server with the catalogue. -/
def catalogueProxy : Proxy (List Request) := { server := catalogue.recorder }

/-- The detectors of the server with the catalogue. -/
def catalogueDetector : Entry (List Request) where
  definition := { role := .host, name := "Remote", author := "t", version := "1.0" }
  body := .host catalogueProxy

/-- A workflow with the server as its only detector. There is no callback server, and one of the
plugins on offer is excluded by name. -/
def catalogueWorkflow : Workflow (List Request) where
  registry := ⟨[singleScanner, catalogueDetector], by decide⟩
  selection := { excluded := [callbackProbe.name] }
  pool := .ofSlots 1
  clock _ := .epoch
  crash _ message := message

theorem forall_mem_catalogueWorkflow {P : Entry (List Request) → Prop} (scanner : P singleScanner)
    (detector : P catalogueDetector) : ∀ e ∈ catalogueWorkflow.registry.entries, P e := by
  simp [catalogueWorkflow, scanner, detector]

theorem catalogueWorkflow_servedBy :
    catalogueWorkflow.ServedBy catalogueDetector catalogueProxy id catalogue where
  registered := by simp [catalogueWorkflow]
  body := rfl
  fresh := rfl
  logs := catalogue.recorder_logs
  gives := catalogue.recorder_gives
  others := by
    refine forall_mem_catalogueWorkflow (fun _ target => trivial) fun hne => ?_
    exact absurd rfl hne

/-- The server is asked to run the two plugins that it offers, each once. -/
theorem catalogueWorkflow_requests :
    catalogueWorkflow.ServedBy catalogueDetector catalogueProxy id catalogue ∧
      Workflow.requestFor catalogueProxy catalogue [] ⟨{}, [{ endpoint := {}, name := "ssh" }]⟩ =
        ⟨{}, [⟨probe, [{ endpoint := {}, name := "ssh" }]⟩,
          ⟨callbackProbe, [{ endpoint := {}, name := "ssh" }]⟩]⟩ ∧
      (catalogueWorkflow.run (.ofHostname "localhost") {} ⟨0, [], false⟩).Meets
        (fun out m' => ∀ survey, out.2.survey = some survey →
          Workflow.AskedAtMost id (Workflow.requestFor catalogueProxy catalogue [] survey)
            ⟨0, [], false⟩ m')
        (catalogueWorkflow.Excused (.ofHostname "localhost") {}) := by
  refine ⟨catalogueWorkflow_servedBy, by decide, ?_⟩
  refine (Workflow.run_requests catalogueWorkflow_servedBy _ {} ⟨0, [], false⟩).2.1.imp ?_
    fun _ => id
  intro out m' _ h survey hsurvey
  exact (h survey hsurvey).1

end VulnScan.Scan
