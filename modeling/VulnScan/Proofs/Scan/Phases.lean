import VulnScan.Proofs.Execution.Alone
import VulnScan.Proofs.Execution.Records
import VulnScan.Proofs.Plugin.Calls
import VulnScan.Proofs.Plugin.Fingerprinters
import VulnScan.Proofs.Plugin.Selection
import VulnScan.Scan.Workflow

/-! # The phases of a scan, from outside

`Workflow.Completes` says what a scan that gets through its three phases has done, one equation
for each phase, and `Workflow.phases_meets` says how a scan comes out: it completes, or its port
scanner ends it, or it is cancelled. Everything else about whole scans follows from these two.

A scan breaks off without results only where `Workflow.Excused` allows it.
-/

set_option autoImplicit false

namespace VulnScan.Scan

open Execution (Activity Break Course Record Recorded Session Signals Moment Task)
open Plugin (Chosen Detector)

variable {σ : Type}

/-- What a tracer keeps of the plugin of a task. -/
def Selected.ofTask {α : Type} (t : Task σ α) : Selected := ⟨t.plugin.id, t.services⟩

namespace Workflow

/-! ## The tasks of a phase -/

/-- The services of a survey that have no fingerprinter. -/
def unmatched (w : Workflow σ) (ports : Net.Survey) : List Net.Service :=
  ports.services.filter fun s => (w.registry.fingerprinterFor s).isNone

/-- The tasks of the second phase: one for every service with a fingerprinter, in scan order. -/
def identification (w : Workflow σ) (ports : Net.Survey) : List (Task σ (List Net.Service)) :=
  (ports.services.filterMap fun s => (w.registry.fingerprinterFor s).map fun c => (c, s)).map
    fun c => w.task c.1 (c.1.body ports.host c.2)

/-- The survey after the second phase. -/
def surveyed (w : Workflow σ) (ports : Net.Survey) (records : List (Record (List Net.Service))) :
    Net.Survey :=
  ⟨ports.host, w.unmatched ports ++ identified records⟩

/-- The tasks of the third phase. -/
def detection (w : Workflow σ) (survey : Net.Survey) (chosen : List (Chosen (Detector σ))) :
    List (Task σ (List Finding.Report)) :=
  chosen.map fun c => w.task c (c.body.detect survey.host c.services)

/-- A port scanner that can be selected is registered and works as one. -/
theorem exists_of_mem_portScanners {w : Workflow σ}
    {c : Chosen (Net.Endpoint → Activity σ Net.Survey)} (h : c ∈ w.registry.portScanners) :
    ∃ e ∈ w.registry.entries, e.body = .portScanner c.body := by
  obtain ⟨e, he, hbody⟩ := List.mem_filterMap.1 h
  split at hbody
  · next scan hscan =>
      cases hbody
      exact ⟨e, (List.mem_filter.1 he).1, hscan⟩
  · cases hbody

/-- A task of the second phase is what a registered fingerprinter does with a service. -/
theorem exists_of_mem_identification {w : Workflow σ} {ports : Net.Survey}
    {t : Task σ (List Net.Service)} (h : t ∈ w.identification ports) :
    ∃ e ∈ w.registry.entries, ∃ identify s, e.body = .fingerprinter identify ∧
      t.activity = identify ports.host s := by
  obtain ⟨⟨c, s⟩, hc, rfl⟩ := List.mem_map.1 h
  obtain ⟨s', -, hs'⟩ := List.mem_filterMap.1 hc
  obtain ⟨c', hc', hpair⟩ := Option.map_eq_some_iff.1 hs'
  cases hpair
  obtain ⟨before, e, after, hentries, ⟨identifies, -, -⟩, -⟩ :=
    Plugin.Registry.fingerprinterFor_eq_some.1 hc'
  exact ⟨e, by rw [hentries]; simp, c.body, s, identifies.body, rfl⟩

section

variable {w : Workflow σ} {P : (α : Type) → Activity σ α → Prop}
  (h : ∀ e ∈ w.registry.entries, e.body.All P)

include h

/-- The run of a port scanner satisfies what all plugins satisfy. -/
theorem scanner_inherits {c : Chosen (Net.Endpoint → Activity σ Net.Survey)}
    (hc : c ∈ w.registry.portScanners) (target : Net.Endpoint) : P _ (c.body target) := by
  obtain ⟨e, he, hbody⟩ := exists_of_mem_portScanners hc
  have hall := h e he
  rw [hbody] at hall
  exact hall target

/-- The tasks of the second phase satisfy what all plugins satisfy. -/
theorem identification_inherits (ports : Net.Survey) :
    ∀ t ∈ w.identification ports, P _ t.activity := by
  intro t ht
  obtain ⟨e, he, identify, s, hbody, hactivity⟩ := exists_of_mem_identification ht
  have hall := h e he
  rw [hbody] at hall
  rw [hactivity]
  exact hall ports.host s

/-- The tasks of the third phase inherit what all plugins satisfy. -/
theorem detection_inherits (composes : Activity.Composes P) {survey : Net.Survey}
    {chosen : List (Chosen (Detector σ))}
    (hc : (w.registry.detectorsFor w.selection survey).MayEnd (.value chosen)) :
    ∀ t ∈ w.detection survey chosen, P _ t.activity := by
  intro t ht
  obtain ⟨c, hmem, rfl⟩ := List.mem_map.1 ht
  exact Plugin.Registry.chosen_inherits composes h hc c hmem _ _

end

/-! ## How a scan can break off -/

/-- Something in the scan may never end: a plugin on a pool without deadline, or the listing of
plugins. -/
inductive MayHang (w : Workflow σ) (target : Net.Endpoint) : Prop
  | scanning {c : Chosen (Net.Endpoint → Activity σ Net.Survey)}
      (unlimited : w.pool.deadline = none)
      (selected : c ∈ w.registry.portScanners) (hangs : (c.body target).MayHang)
  | identifying {ports : Net.Survey} {t : Task σ (List Net.Service)}
      (unlimited : w.pool.deadline = none) (selected : t ∈ w.identification ports)
      (hangs : t.activity.MayHang)
  | listing {survey : Net.Survey}
      (hangs : (w.registry.detectorsFor w.selection survey).MayHang)
  | detecting {survey : Net.Survey} {chosen : List (Chosen (Detector σ))}
      {t : Task σ (List Finding.Report)} (unlimited : w.pool.deadline = none)
      (listed : (w.registry.detectorsFor w.selection survey).MayEnd (.value chosen))
      (selected : t ∈ w.detection survey chosen) (hangs : t.activity.MayHang)

/-- The ways in which a scan may break off without results: it is abandoned from outside, nobody
cancels it though something in it may hang, or the listing of plugins breaks off. -/
def Excused (w : Workflow σ) (target : Net.Endpoint) (signals : Signals) : Break σ → Prop :=
  signals.Excuse (w.MayHang target) (w.registry.MayBreakOff w.selection)

/-! ## One phase after the other -/

/-- From the services that the port scanner found at `m`, the scan comes to a survey and to the
records of the detectors. -/
inductive Completes (w : Workflow σ) (signals : Signals) (ports : Net.Survey) (m : Moment σ) :
    Net.Survey → List (Record (List Finding.Report)) → Moment σ → Prop
  | mk {identities : List (Record (List Net.Service))} {m₁ m₂ m' : Moment σ}
      {chosen : List (Chosen (Detector σ))} {records : List (Record (List Finding.Report))}
      (identifies : w.pool.execute (w.identification ports) signals m = .reached identities m₁)
      (uncancelled : m₁.cancelled = false)
      (selects : (w.registry.detectorsFor w.selection (w.surveyed ports identities)).alone signals
        m₁ = .reached (some (.value chosen)) m₂)
      (detects : w.pool.execute (w.detection (w.surveyed ports identities) chosen) signals m₂ =
        .reached records m')
      (verdict : records.all Record.isSucceeded = true ∨ m'.cancelled = false) :
      Completes w signals ports m (w.surveyed ports identities) records m'

variable {signals : Signals} {m : Moment σ}

/-- A scan that completes although it is cancelled has no failed detector. -/
theorem Completes.isSucceeded {w : Workflow σ} {ports survey : Net.Survey} {m' : Moment σ}
    {records : List (Record (List Finding.Report))}
    (h : w.Completes signals ports m survey records m') (hm' : m'.cancelled = true) :
    ∀ record ∈ records, record.isSucceeded = true := by
  cases h with
  | mk _ _ _ _ verdict => exact List.all_eq_true.1 (verdict.resolve_right (by simp [hm']))

theorem traced_eq {step : (now : Nat) → Except Misuse Tracer} {t : Tracer}
    (h : step (instant m.now) = .ok t) : traced step signals m = .reached t m := by
  unfold traced
  refine Session.bind_eq_reached.2 ⟨m, m, rfl, ?_⟩
  rw [h]
  rfl

@[simp] theorem isCancelled_apply : isCancelled signals m = .reached m.cancelled m := rfl

/-- The ways in which a pool breaks off are ways in which the scan does. -/
theorem excused_of_pool {α : Type} {w : Workflow σ} {target : Net.Endpoint}
    {tasks : List (Task σ α)} {b : Break σ}
    (h : signals.Excuse (w.pool.deadline = none ∧ ∃ t ∈ tasks, t.activity.MayHang)
      (fun _ => False) b)
    (hhang : w.pool.deadline = none → ∀ t ∈ tasks, t.activity.MayHang → w.MayHang target) :
    w.Excused target signals b :=
  h.imp (fun ⟨hnone, t, ht, hh⟩ => hhang hnone t ht hh) fun _ => False.elim

theorem scanPorts_meets (w : Workflow σ) (target : Net.Endpoint) (signals : Signals)
    (m : Moment σ) :
    (w.scanPorts target signals m).Meets
      (fun out m' => (signals.UpToDate m → signals.UpToDate m') ∧
        ∀ ports, out.2 = .ok ports → out.1.stage = .portScanning)
      (w.Excused target signals) := by
  unfold scanPorts
  cases hc : w.registry.portScanners with
  | nil => exact ⟨id, fun _ h => by cases h⟩
  | cons c cs =>
      refine Session.meets_bind ?_
      rw [traced_eq rfl]
      refine Session.meets_bind ?_
      refine (w.pool.execute_meets _ signals m).imp ?_ fun b hb => excused_of_pool hb ?_
      · rintro records m' - ⟨-, -, hup⟩
        -- whatever the records are, the tracer is where it was
        split <;> exact ⟨hup, fun _ _ => rfl⟩
      · intro hnone t ht hh
        rw [List.mem_singleton.1 ht] at hh
        exact .scanning hnone (by rw [hc]; exact List.mem_cons_self) hh

theorem fingerprint_meets (w : Workflow σ) (target : Net.Endpoint) (signals : Signals)
    (m : Moment σ) {t : Tracer} (ht : t.stage = .portScanning) (ports : Net.Survey) :
    (w.fingerprint t ports signals m).Meets
      (fun out m' => (signals.UpToDate m → signals.UpToDate m') ∧
        out.1.stage = .fingerprinting ∧
        ∃ identities, w.pool.execute (w.identification ports) signals m = .reached identities m' ∧
          out.2 = w.surveyed ports identities)
      (w.Excused target signals) := by
  unfold fingerprint
  refine Session.meets_bind ?_
  rw [traced_eq (if_pos ht)]
  refine Session.meets_bind ?_
  refine (w.pool.execute_meets (w.identification ports) signals m).imp ?_ fun b hb =>
    excused_of_pool hb ?_
  · rintro identities m' hrun ⟨-, -, hup⟩
    exact ⟨hup, rfl, identities, hrun, rfl⟩
  · exact fun hnone t ht hh => .identifying hnone ht hh

theorem detect_meets (w : Workflow σ) (target : Net.Endpoint) (signals : Signals)
    (m : Moment σ) {t : Tracer} (ht : t.stage = .fingerprinting) (survey : Net.Survey) :
    (w.detect t survey signals m).Meets
      (fun out m' => (signals.UpToDate m → signals.UpToDate m') ∧
        match out.2 with
        | .error e => e = cancellation ∧ m'.cancelled = true
        | .ok records => out.1.stage = .detecting ∧
          ∃ chosen m₂, (w.registry.detectorsFor w.selection survey).alone signals m =
              .reached (some (.value chosen)) m₂ ∧
            w.pool.execute (w.detection survey chosen) signals m₂ = .reached records m')
      (w.Excused target signals) := by
  unfold detect
  refine Session.meets_bind ?_
  rw [isCancelled_apply]
  cases hm : m.cancelled with
  | true => exact ⟨id, rfl, hm⟩
  | false =>
      refine Session.meets_bind ?_
      refine ((w.registry.detectorsFor w.selection survey).alone_meets signals m).imp ?_ ?_
      · rintro o m₂ halone ⟨hgivenUp, hmayEnd, -, hup⟩
        cases o with
        | none => exact ⟨hup, rfl, hgivenUp rfl⟩
        | some o =>
            cases o with
            | fault e =>
                -- no listing makes the selection as a whole fail
                exact absurd (hmayEnd _ rfl)
                  (w.registry.detectorsFor_faultless w.selection survey e)
            | collapse message => exact Plugin.Registry.mayEnd_detectorsFor_collapse (hmayEnd _ rfl)
            | value chosen =>
                refine Session.meets_bind ?_
                rw [traced_eq (if_pos ht)]
                refine Session.meets_bind ?_
                refine (w.pool.execute_meets (w.detection survey chosen) signals m₂).imp ?_
                  fun b hb => excused_of_pool hb ?_
                · rintro records m' hrun ⟨-, -, hup'⟩
                  exact ⟨hup' ∘ hup, rfl, chosen, m₂, halone, hrun⟩
                · exact fun hnone t ht hh => .detecting hnone (hmayEnd _ rfl) ht hh
      · exact fun b hb => hb.imp .listing fun _ => False.elim

theorem afterPorts_meets (w : Workflow σ) (target : Net.Endpoint) (signals : Signals)
    (m : Moment σ) {t : Tracer} (ht : t.stage = .portScanning) (ports : Net.Survey) :
    (w.afterPorts t ports signals m).Meets
      (fun out m' => (signals.UpToDate m → signals.UpToDate m') ∧
        match out.2 with
        | .error e => e = cancellation ∧ m'.cancelled = true
        | .ok (survey, records) => w.Completes signals ports m survey records m')
      (w.Excused target signals) := by
  unfold afterPorts
  refine Session.meets_bind ?_
  rw [isCancelled_apply]
  cases hm : m.cancelled with
  | true => exact ⟨id, rfl, hm⟩
  | false =>
      refine Session.meets_bind ?_
      refine (w.fingerprint_meets target signals m ht ports).imp ?_ fun _ => id
      rintro ⟨t₁, survey⟩ m₁ - ⟨hup₁, ht₁, identities, hident, hsurvey⟩
      obtain rfl : survey = w.surveyed ports identities := hsurvey
      refine Session.meets_bind ?_
      rw [isCancelled_apply]
      cases hm₁ : m₁.cancelled with
      | true => exact ⟨hup₁, rfl, hm₁⟩
      | false =>
          refine Session.meets_bind ?_
          refine (w.detect_meets target signals m₁ ht₁ _).imp ?_ fun _ => id
          rintro ⟨t₂, out⟩ m' - ⟨hup₂, hout⟩
          cases out with
          | error e => exact ⟨hup₂ ∘ hup₁, hout⟩
          | ok records =>
              obtain ⟨ht₂, chosen, m₂, hselect, hdetect⟩ := hout
              refine Session.meets_bind ?_
              rw [isCancelled_apply]
              -- the scan fails here if it is cancelled and not all detectors have succeeded
              show ((if (!records.all Record.isSucceeded && m'.cancelled) = true then
                (pure (t₂, .error cancellation) : Session σ (Tracer × Outcome)) else _)
                  signals m').Meets _ _
              split
              · next h =>
                  rw [Bool.and_eq_true] at h
                  exact ⟨hup₂ ∘ hup₁, rfl, h.2⟩
              · next h =>
                  refine Session.meets_bind ?_
                  rw [traced_eq (if_pos ht₂)]
                  refine ⟨hup₂ ∘ hup₁, .mk hident hm₁ hselect hdetect ?_⟩
                  simpa [-List.all_eq_true, or_iff_not_imp_left] using h

/-- **How a scan comes out.** It completes the phases after its port scanner, or it fails: with
the error of the port scanner if it is not cancelled, and as a cancelled scan otherwise. -/
theorem phases_meets (w : Workflow σ) (target : Net.Endpoint) (signals : Signals) (m : Moment σ) :
    (w.phases target signals m).Meets
      (fun out m' => (signals.UpToDate m → signals.UpToDate m') ∧
        match out.2 with
        | .error e => (e = cancellation ∧ m'.cancelled = true) ∨
          (m'.cancelled = false ∧ ∃ t, w.scanPorts target signals m = .reached (t, .error e) m')
        | .ok (survey, records) => ∃ t ports m₁,
          w.scanPorts target signals m = .reached (t, .ok ports) m₁ ∧
          w.Completes signals ports m₁ survey records m')
      (w.Excused target signals) := by
  unfold phases
  refine Session.meets_bind ?_
  refine (w.scanPorts_meets target signals m).imp ?_ fun _ => id
  rintro ⟨t, out⟩ m₁ hscan ⟨hup₁, hstage⟩
  cases out with
  | error e =>
      refine Session.meets_bind ?_
      rw [isCancelled_apply]
      cases hm₁ : m₁.cancelled with
      | true => exact ⟨hup₁, .inl ⟨rfl, hm₁⟩⟩
      | false => exact ⟨hup₁, .inr ⟨hm₁, t, hscan⟩⟩
  | ok ports =>
      refine (w.afterPorts_meets target signals m₁ (hstage ports rfl) ports).imp ?_ fun _ => id
      rintro ⟨t', out⟩ m' - ⟨hup₂, hout⟩
      refine ⟨hup₂ ∘ hup₁, ?_⟩
      cases out with
      | error e => exact .inl hout
      | ok result => exact ⟨t, ports, m₁, hscan, hout⟩

/-- The results of a scan that began at `m` and ended at `m'`: they are drawn from the records of
its detectors, or tell why there are none. -/
inductive ComesTo (w : Workflow σ) (target : Net.Endpoint) (signals : Signals) (m m' : Moment σ) :
    Finding.Results → Prop
  | cancelled (called : m'.cancelled = true) :
      ComesTo w target signals m m'
        (.failure cancellation.message (w.clock m.world)
          ((w.clock m'.world).since (w.clock m.world)))
  | failed {t : Tracer} {e : Error} (uncancelled : m'.cancelled = false)
      (scans : w.scanPorts target signals m = .reached (t, .error e) m') :
      ComesTo w target signals m m'
        (.failure e.message (w.clock m.world) ((w.clock m'.world).since (w.clock m.world)))
  | completed {t : Tracer} {ports survey : Net.Survey} {m₁ : Moment σ}
      {records : List (Record (List Finding.Report))}
      (scans : w.scanPorts target signals m = .reached (t, .ok ports) m₁)
      (completes : w.Completes signals ports m₁ survey records m') :
      ComesTo w target signals m m'
        (conclude survey records (w.clock m.world)
          ((w.clock m'.world).since (w.clock m.world)))

theorem run_meets (w : Workflow σ) (target : Net.Endpoint) (signals : Signals) (m : Moment σ) :
    (w.run target signals m).Meets
      (fun out m' => (signals.UpToDate m → signals.UpToDate m') ∧
        w.ComesTo target signals m m' out.2)
      (w.Excused target signals) := by
  unfold run
  refine Session.meets_bind ?_
  refine Session.meets_bind ?_
  refine (w.phases_meets target signals m).imp ?_ fun _ => id
  rintro ⟨t, outcome⟩ m' - ⟨hup, hout⟩
  refine Session.meets_bind ?_
  cases outcome with
  | error e =>
      rcases hout with ⟨rfl, hm'⟩ | ⟨hm', t₁, hscan⟩
      · exact ⟨hup, .cancelled hm'⟩
      · exact ⟨hup, .failed hm' hscan⟩
  | ok result =>
      obtain ⟨t₁, ports, m₁, hscan, hcompletes⟩ := hout
      exact ⟨hup, .completed hscan hcompletes⟩

end Workflow

end VulnScan.Scan
