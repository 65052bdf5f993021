import VulnScan.Proofs.Execution.BatchRun
import VulnScan.Proofs.Scan.Barrier

/-! # The run of a scan as a path of steps

A scan that is run phase by phase comes about by polls of its executions (`Workflow.run_polls`): in
every phase its pool polls the batch, and between the phases the scan moves on as the workflow says.
So every run is orderly.
-/

set_option autoImplicit false

namespace VulnScan.Scan

open Execution (Batch Break Course Happening History Moment Record Session Signals Task)
open Plugin (Chosen Detector)

variable {σ α : Type}

namespace Workflow

variable {w : Workflow σ} {target : Net.Endpoint} {s₀ s s' : State σ} {e h h' : List (Event σ)}

theorem Polls.trans {s₁ : State σ} (t : w.Polls target s h s₁) (t' : w.Polls target s₁ h' s') :
    w.Polls target s (h ++ h') s' := by
  induction t' with
  | start => rwa [List.append_nil]
  | step polls tick ih =>
      rw [← List.append_assoc]
      exact .step ih tick

theorem Polls.single (poll : w.Poll target s e s') : w.Polls target s e s' := .step .start poll

/-- A step of the scan itself is one by the clock if it goes on from the present moment. -/
theorem Step.poll (step : w.Step target s e s') (moment : s'.moment = s.moment)
    (own : ∀ x ∈ e, x = .returned) : w.Poll target s e s' :=
  .besides ⟨step, by rw [moment], fun _ => by rw [moment]⟩ own

/-- The start of a scan is remembered. -/
theorem Path.start_eq (p : w.Path target s h s') : s'.start = s.start := by
  induction p with
  | start => rfl
  | step path step ih =>
      rw [← ih]
      cases step <;> rfl

/-- The state is the one that a course leads to: where that leads to results, the scan has returned
with them and with the tracer. -/
def Shows (s : State σ) (c : Course σ (Tracer × Finding.Results)) : Prop :=
  c.Meets (fun out m => s.control = .returned out.1 out.2 ∧ s.moment = m) fun br =>
    s.moment = br.moment

/-- From `s` the scan comes to a state that meets `P`. -/
def Reaches (w : Workflow σ) (target : Net.Endpoint) (s : State σ) (P : State σ → Prop) : Prop :=
  ∃ h s', w.Polls target s h s' ∧ P s'

theorem Polls.reaches {P : State σ → Prop} (polls : w.Polls target s h s')
    (reaches : w.Reaches target s' P) : w.Reaches target s P := by
  obtain ⟨h', s'', polls', hP⟩ := reaches
  exact ⟨h ++ h', s'', polls.trans polls', hP⟩

/-! ## The batch of one phase -/

/-- The scan hosts a batch: `put` puts the batch into the state of the scan at some moment, `tell`
makes events of what happens to it, and nothing else takes up slots. -/
structure Hosts (w : Workflow σ) (target : Net.Endpoint) (put : Moment σ → Batch σ α → State σ)
    (tell : Nat × Happening σ α → Event σ) : Prop where
  poll : ∀ {m b e m' b'}, b.Tick w.limit (b.taken < w.pool.slots) m e m' b' →
    w.Poll target (put m b) (e.map tell) (put m' b')
  passes : ∀ {m b} now, w.Step target (put m b) [] (put { m with now := now } b)
  called : ∀ {m b}, w.Step target (put m b) [] (put { m with cancelled := true } b)
  moment : ∀ m b, (put m b).moment = m
  working : ∀ m b, (put m b).control ≠ .begun

section

variable {put : Moment σ → Batch σ α → State σ} {tell : Nat × Happening σ α → Event σ}

/-- The polls of the batch are polls of the scan. -/
theorem Hosts.polls (hosts : w.Hosts target put tell) {m m' : Moment σ} {b b' : Batch σ α}
    {k : History σ α} (t : Batch.Trail w.pool.slots w.limit m b k m' b') :
    w.Polls target (put m b) (k.map tell) (put m' b') := by
  induction t with
  | done => exact .start
  | @passes m m' b b' h now onward rest ih =>
      refine (Polls.single (.besides ⟨hosts.passes now, ?_, fun begun => ?_⟩ (by simp))).trans ih
      · rw [hosts.moment, hosts.moment]
        exact onward
      · exact absurd begun (hosts.working m b)
  | @called m m' b b' h rest ih =>
      refine (Polls.single (.besides ⟨hosts.called, ?_, fun begun => ?_⟩ (by simp))).trans ih
      · rw [hosts.moment, hosts.moment]
      · exact absurd begun (hosts.working m b)
  | step tick rest ih =>
      rw [List.map_append]
      exact (Polls.single (hosts.poll tick)).trans ih

/-- What the pool makes of the tasks of the batch. -/
theorem Hosts.execute (hosts : w.Hosts target put tell) (tasks : List (Task σ α))
    (signals : Signals) (m : Moment σ) :
    (w.pool.execute tasks signals m).Meets
      (fun records m' => w.Reaches target (put m { tasks }) fun s =>
        ∃ b, s = put m' b ∧ b.Joins w.pool.deadline records)
      (fun br => w.Reaches target (put m { tasks }) fun s => ∃ b, s = put br.moment b) := by
  refine (w.pool.execute_trail tasks signals m).imp ?_ ?_
  · rintro records m' - ⟨k, b, polls, joined⟩
    exact ⟨_, _, hosts.polls polls, b, rfl, joined⟩
  · rintro br ⟨k, b, polls⟩
    exact ⟨_, _, hosts.polls polls, b, rfl⟩

end

/-- In every phase the scan hosts the batch, once the batches of the other phases are done. -/
theorem hosts_scanning (w : Workflow σ) (target : Net.Endpoint) (s : State σ)
    (working : s.control ≠ .begun) (h₂ : s.identifying.Done) (h₃ : s.detecting.Done) :
    w.Hosts target (fun m b => { s with moment := m, scanning := b })
      fun x => .scanning x.1 x.2 where
  poll tick := by
    refine .scanning ?_
    simpa only [State.taken, h₂.taken_eq_zero, h₃.taken_eq_zero, Nat.add_zero] using tick
  passes := .passes
  called := .called
  moment _ _ := rfl
  working _ _ := working

theorem hosts_identifying (w : Workflow σ) (target : Net.Endpoint) (s : State σ)
    (working : s.control ≠ .begun) (h₁ : s.scanning.Done) (h₃ : s.detecting.Done) :
    w.Hosts target (fun m b => { s with moment := m, identifying := b })
      fun x => .identifying x.1 x.2 where
  poll tick := by
    refine .identifying ?_
    simpa only [State.taken, h₁.taken_eq_zero, h₃.taken_eq_zero, Nat.zero_add, Nat.add_zero]
      using tick
  passes := .passes
  called := .called
  moment _ _ := rfl
  working _ _ := working

theorem hosts_detecting (w : Workflow σ) (target : Net.Endpoint) (s : State σ)
    (working : s.control ≠ .begun) (h₁ : s.scanning.Done) (h₂ : s.identifying.Done) :
    w.Hosts target (fun m b => { s with moment := m, detecting := b })
      fun x => .detecting x.1 x.2 where
  poll tick := by
    refine .detecting ?_
    simpa only [State.taken, h₁.taken_eq_zero, h₂.taken_eq_zero, Nat.zero_add] using tick
  passes := .passes
  called := .called
  moment _ _ := rfl
  working _ _ := working

/-! ## One phase after the other -/

theorem scanPorts_reaches (w : Workflow σ) (target : Net.Endpoint) (signals : Signals)
    (start : Time.Timestamp) (m : Moment σ) :
    (w.scanPorts target signals m).Meets
      (fun out m' => w.Reaches target { start, moment := m } fun s => s.moment = m' ∧
        match out.2 with
        | .error e => w.Fails s out.1 (if m'.cancelled then cancellation else e)
        | .ok ports => s.control = .scanning out.1 ∧ out.1.stage = .portScanning ∧
            w.Reported ports s.scanning)
      (fun br => w.Reaches target { start, moment := m } fun s => s.moment = br.moment) := by
  unfold scanPorts
  cases hc : w.registry.portScanners with
  | nil => exact ⟨[], _, .start, rfl, .unregistered rfl hc⟩
  | cons c cs =>
      have htasks : w.inspection target = [w.task c (c.body target)] := by
        rw [inspection, hc]
        rfl
      obtain ⟨t, traced, ht⟩ : ∃ t,
          Tracer.fresh.startPortScanning (instant m.now) [Selected.of c] = .ok t ∧
            t.stage = .portScanning := ⟨_, rfl, rfl⟩
      refine Session.meets_bind ?_
      rw [traced_eq traced, Course.meets_reached]
      refine Session.meets_bind ?_
      rw [← htasks]
      have inspects : w.Polls target { start, moment := m } []
          { start, moment := m, control := .scanning t
            scanning := { tasks := w.inspection target } } :=
        .single (Step.poll (.inspects rfl hc traced) rfl (by simp))
      have executes := (w.hosts_scanning target { start, moment := m, control := .scanning t }
        (by simp) Batch.done_empty Batch.done_empty).execute (w.inspection target) signals m
      have records := w.pool.execute_meets (w.inspection target) signals m
      refine (executes.and records).imp ?_ ?_
      · rintro records m' - ⟨⟨h, s, polls, b, rfl, joined⟩, hrecords, -, -⟩
        -- one task leaves one record
        obtain ⟨r, rfl⟩ : ∃ r, records = [r] := by
          rw [← List.length_eq_one_iff, ← hrecords.length_eq, htasks]
          rfl
        refine inspects.reaches ⟨h, _, polls, rfl, ?_⟩
        cases hr : r.result with
        | error e => exact .scanning rfl joined hr
        | ok ports => exact ⟨rfl, ht, r, joined, hr⟩
      · rintro br ⟨⟨h, s, polls, b, rfl⟩, -⟩
        exact inspects.reaches ⟨h, _, polls, rfl⟩

/-- After the port scanner has reported, the fingerprinters are run. -/
theorem fingerprint_reaches {signals : Signals} {t : Tracer} {ports : Net.Survey}
    (stands : w.Stands target s.control s.scanning s.identifying s.detecting)
    (control : s.control = .scanning t) (ht : t.stage = .portScanning)
    (reported : w.Reported ports s.scanning) (uncancelled : s.moment.cancelled = false) :
    (w.fingerprint t ports signals s.moment).Meets
      (fun out m' => w.Reaches target s fun s' => s'.moment = m' ∧
        s'.control = .identifying out.1 ports ∧ out.1.stage = .fingerprinting ∧
        ∃ identities, s'.identifying.Joins w.pool.deadline identities ∧
          out.2 = w.surveyed ports identities)
      (fun br => w.Reaches target s fun s' => s'.moment = br.moment) := by
  have hreported : s.scanning.Done := by
    obtain ⟨r, joined, -⟩ := reported
    exact joined.done
  obtain ⟨t', traced, ht'⟩ : ∃ t', t.startFingerprinting (instant s.moment.now)
      ((w.identification ports).map Selected.ofTask) = .ok t' ∧ t'.stage = .fingerprinting :=
    ⟨_, if_pos ht, rfl⟩
  have hdone : s.detecting.Done := stands.done_or_waits.2.2.resolve_right fun ⟨_, _, h⟩ => by
    rw [control] at h
    cases h
  have identifies : w.Polls target s [] { s with
      control := .identifying t' ports, identifying := { tasks := w.identification ports } } :=
    .single (Step.poll (.identifies control reported uncancelled traced) rfl (by simp))
  rw [identification, List.map_map] at traced
  unfold fingerprint
  refine Session.meets_bind ?_
  rw [traced_eq traced, Course.meets_reached]
  refine Session.meets_bind ?_
  refine ((w.hosts_identifying target { s with control := .identifying t' ports } nofun hreported
    hdone).execute (w.identification ports) signals s.moment).imp ?_ ?_
  · rintro identities m' - ⟨h, s', polls, b, rfl, joined⟩
    exact identifies.reaches ⟨h, _, polls, rfl, rfl, ht', identities, joined, rfl⟩
  · rintro br ⟨h, s', polls, b, rfl⟩
    exact identifies.reaches ⟨h, _, polls, rfl⟩

/-- After the fingerprinters are decided, the detectors are selected and run. -/
theorem detect_reaches {signals : Signals} {t : Tracer} {ports : Net.Survey}
    {identities : List (Record (List Net.Service))}
    (stands : w.Stands target s.control s.scanning s.identifying s.detecting)
    (control : s.control = .identifying t ports) (ht : t.stage = .fingerprinting)
    (joined : s.identifying.Joins w.pool.deadline identities)
    (uncancelled : s.moment.cancelled = false) :
    (w.detect t (w.surveyed ports identities) signals s.moment).Meets
      (fun out m' => w.Reaches target s fun s' => s'.moment = m' ∧
        match out.2 with
        | .error e => w.Fails s' out.1 e
        | .ok records => s'.control = .detecting out.1 (w.surveyed ports identities) ∧
            out.1.stage = .detecting ∧ s'.detecting.Joins w.pool.deadline records)
      (fun br => w.Reaches target s fun s' => s'.moment = br.moment) := by
  have hdone : s.scanning.Done := stands.done_or_waits.1.resolve_right fun ⟨_, h⟩ => by
    rw [control] at h
    cases h
  have surveys : w.Polls target s [] { s with
      control := .listing t (w.surveyed ports identities) } :=
    .single (Step.poll (.surveys control joined uncancelled) rfl (by simp))
  have breaksOff : ∀ m₂, s.moment.now ≤ m₂.now →
      w.Polls target s [] { s with moment := m₂, control := .lost } := by
    intro m₂ onward
    refine surveys.step (.besides ⟨.breaksOff rfl ?_ m₂, onward, nofun⟩ (by simp))
    exact uncancelled
  unfold detect
  refine Session.meets_bind ?_
  rw [isCancelled_apply, Course.meets_reached, uncancelled]
  refine Session.meets_bind ?_
  have clock := Course.meets_of_final (P := fun m' => s.moment.now ≤ m'.now)
    ((w.registry.detectorsFor w.selection (w.surveyed ports identities)).le_alone signals s.moment)
  refine (((w.registry.detectorsFor w.selection (w.surveyed ports identities)).alone_meets signals
    s.moment).and clock).imp ?_ ?_
  · rintro o m₂ listed ⟨⟨hgivenUp, hmayEnd, -, -⟩, onward⟩
    cases o with
    | none =>
        have givesUp : w.Polls target s [] { s with
            control := .listing t (w.surveyed ports identities), moment := m₂ } :=
          surveys.step (.besides ⟨.givesUp rfl uncancelled listed, onward, nofun⟩ (by simp))
        exact ⟨_, _, givesUp, rfl, .listing rfl (hgivenUp rfl)⟩
    | some o =>
        cases o with
        | fault e =>
            exact absurd (hmayEnd _ rfl) (w.registry.detectorsFor_faultless w.selection _ e)
        | collapse message => exact ⟨_, _, breaksOff m₂ onward, rfl⟩
        | value chosen =>
            obtain ⟨t', traced, ht'⟩ : ∃ t', t.startDetecting (instant m₂.now)
                (chosen.map Selected.of) = .ok t' ∧ t'.stage = .detecting := ⟨_, if_pos ht, rfl⟩
            have detects : w.Polls target s [] { s with
                moment := m₂
                control := .detecting t' (w.surveyed ports identities)
                detecting := { tasks := w.detection (w.surveyed ports identities) chosen } } :=
              surveys.step
                (.besides ⟨.detects rfl uncancelled listed traced, onward, nofun⟩ (by simp))
            refine Session.meets_bind ?_
            rw [traced_eq traced, Course.meets_reached]
            refine Session.meets_bind ?_
            refine ((w.hosts_detecting target
              { s with control := .detecting t' (w.surveyed ports identities) } nofun hdone
              joined.done).execute (w.detection (w.surveyed ports identities) chosen) signals
              m₂).imp ?_ ?_
            · rintro records m' - ⟨h, s', polls, b, rfl, joined'⟩
              exact detects.reaches ⟨h, _, polls, rfl, rfl, ht', joined'⟩
            · rintro br ⟨h, s', polls, b, rfl⟩
              exact detects.reaches ⟨h, _, polls, rfl⟩
  · exact fun br ⟨_, onward⟩ => ⟨_, _, breaksOff br.moment onward, rfl⟩

/-- How the phases come out, where the scan is then: it has failed, or its detectors are decided
and its tracer is done. -/
theorem afterPorts_reaches {signals : Signals} {t : Tracer} {ports : Net.Survey}
    (stands : w.Stands target s.control s.scanning s.identifying s.detecting)
    (control : s.control = .scanning t) (ht : t.stage = .portScanning)
    (reported : w.Reported ports s.scanning) :
    (w.afterPorts t ports signals s.moment).Meets
      (fun out m' => w.Reaches target s fun s' => s'.moment = m' ∧
        match out.2 with
        | .error e => w.Fails s' out.1 e
        | .ok (survey, records) => ∃ t', s'.control = .detecting t' survey ∧
            s'.detecting.Joins w.pool.deadline records ∧
            (records.all Record.isSucceeded = true ∨ s'.moment.cancelled = false) ∧
            t'.setDone (instant m'.now) = .ok out.1)
      (fun br => w.Reaches target s fun s' => s'.moment = br.moment) := by
  unfold afterPorts
  refine Session.meets_bind ?_
  rw [isCancelled_apply, Course.meets_reached]
  cases hm : s.moment.cancelled with
  | true => exact ⟨[], s, .start, rfl, .scanned control reported hm⟩
  | false =>
      refine Session.meets_bind ?_
      refine (fingerprint_reaches stands control ht reported hm).imp ?_ fun _ => id
      rintro ⟨t₁, survey⟩ m₁ - ⟨h₁, s₁, polls₁, rfl, control₁, ht₁, identities, joined, hsurvey⟩
      obtain rfl : survey = w.surveyed ports identities := hsurvey
      refine Session.meets_bind ?_
      rw [isCancelled_apply, Course.meets_reached]
      cases hm₁ : s₁.moment.cancelled with
      | true => exact ⟨h₁, s₁, polls₁, rfl, .identified control₁ joined hm₁⟩
      | false =>
          refine Session.meets_bind ?_
          refine (detect_reaches (polls₁.trail.path.stands stands) control₁ ht₁ joined hm₁).imp ?_
            fun _ reaches => polls₁.reaches reaches
          rintro ⟨t₂, out⟩ m' - ⟨h₂, s₂, polls₂, rfl, hout⟩
          cases out with
          | error e => exact polls₁.reaches ⟨h₂, s₂, polls₂, rfl, hout⟩
          | ok records =>
              obtain ⟨control₂, ht₂, joined₂⟩ := hout
              refine Session.meets_bind ?_
              rw [isCancelled_apply, Course.meets_reached]
              -- the scan fails here if it is cancelled and not all detectors have succeeded
              show ((if (!records.all Record.isSucceeded && s₂.moment.cancelled) = true then
                (pure (t₂, .error cancellation) : Session σ (Tracer × Outcome)) else _)
                  signals s₂.moment).Meets _ _
              split
              · next hfailed =>
                  rw [Bool.and_eq_true, Bool.not_eq_true'] at hfailed
                  exact polls₁.reaches
                    ⟨h₂, s₂, polls₂, rfl, .detected control₂ joined₂ hfailed.1 hfailed.2⟩
              · next hverdict =>
                  have verdict : records.all Record.isSucceeded = true ∨
                      s₂.moment.cancelled = false := by
                    simpa [-List.all_eq_true, or_iff_not_imp_left] using hverdict
                  obtain ⟨t₃, traced⟩ : ∃ t₃, t₂.setDone (instant s₂.moment.now) = .ok t₃ :=
                    ⟨_, if_pos ht₂⟩
                  refine Session.meets_bind ?_
                  rw [traced_eq traced, Course.meets_reached]
                  exact polls₁.reaches
                    ⟨h₂, s₂, polls₂, rfl, t₂, control₂, joined₂, verdict, traced⟩

/-- How a scan comes out: it fails, or its detectors are decided and its tracer is done. -/
theorem phases_reaches (w : Workflow σ) (target : Net.Endpoint) (signals : Signals)
    (start : Time.Timestamp) (m : Moment σ) :
    (w.phases target signals m).Meets
      (fun out m' => w.Reaches target { start, moment := m } fun s => s.moment = m' ∧
        match out.2 with
        | .error e => w.Fails s out.1 e
        | .ok (survey, records) => ∃ t, s.control = .detecting t survey ∧
            s.detecting.Joins w.pool.deadline records ∧
            (records.all Record.isSucceeded = true ∨ s.moment.cancelled = false) ∧
            t.setDone (instant m'.now) = .ok out.1)
      (fun br => w.Reaches target { start, moment := m } fun s => s.moment = br.moment) := by
  unfold phases
  refine Session.meets_bind ?_
  refine (w.scanPorts_reaches target signals start m).imp ?_ fun _ => id
  rintro ⟨t, out⟩ m₁ - ⟨h, s, polls, rfl, hout⟩
  cases out with
  | error e =>
      refine Session.meets_bind ?_
      rw [isCancelled_apply, Course.meets_reached]
      exact ⟨h, s, polls, rfl, hout⟩
  | ok ports =>
      obtain ⟨control, ht, reported⟩ := hout
      exact (afterPorts_reaches (polls.trail.path.stands .begun) control ht reported).imp
        (fun _ _ _ reaches => polls.reaches reaches) fun _ reaches => polls.reaches reaches

/-- **The run of a scan comes about by polls.** Where it leads to results, the last step is the
return, with the same tracer and the same results and at the same moment. -/
theorem run_polls (w : Workflow σ) (target : Net.Endpoint) (signals : Signals) (m : Moment σ) :
    (w.run target signals m).Meets
      (fun out m' => w.Reaches target { start := w.clock m.world, moment := m } fun s =>
        ∃ s', w.Poll target s [.returned] s' ∧ s'.control = .returned out.1 out.2 ∧ s'.moment = m')
      (fun br => w.Reaches target { start := w.clock m.world, moment := m } fun s =>
        s.moment = br.moment) := by
  unfold run
  refine Session.meets_bind ?_
  rw [Session.moment, Course.meets_reached]
  refine Session.meets_bind ?_
  refine (w.phases_reaches target signals (w.clock m.world) m).imp ?_ fun _ => id
  rintro ⟨t, outcome⟩ m' - ⟨h, s, polls, rfl, hout⟩
  have hstart : s.start = w.clock m.world := polls.trail.path.start_eq
  refine Session.meets_bind ?_
  rw [Session.moment, Course.meets_reached]
  cases outcome with
  | error e =>
      refine ⟨h, s, polls, _, Step.poll (.fails hout) rfl (by simp), ?_, rfl⟩
      rw [hstart]
  | ok result =>
      obtain ⟨t₁, control, joined, verdict, traced⟩ := hout
      refine ⟨h, s, polls, _, Step.poll (.concludes control joined verdict traced) rfl
        (by simp), ?_, rfl⟩
      rw [hstart]

/-- The run of a scan is a path of its steps. -/
theorem run_path (w : Workflow σ) (target : Net.Endpoint) (signals : Signals) (m : Moment σ) :
    ∃ h s, w.Path target { start := w.clock m.world, moment := m } h s ∧
      Shows s (w.run target signals m) := by
  have hrun := w.run_polls target signals m
  generalize w.run target signals m = c at hrun
  cases c with
  | reached out m' =>
      obtain ⟨h, s, polls, s', poll, shows⟩ := hrun
      exact ⟨_, s', (polls.step poll).trail.path, shows⟩
  | abandoned m' =>
      obtain ⟨h, s, polls, hs⟩ := hrun
      exact ⟨h, s, polls.trail.path, hs⟩
  | stuck m' =>
      obtain ⟨h, s, polls, hs⟩ := hrun
      exact ⟨h, s, polls.trail.path, hs⟩
  | collapsed message m' =>
      obtain ⟨h, s, polls, hs⟩ := hrun
      exact ⟨h, s, polls.trail.path, hs⟩

/-- **The phases of a scan do not overlap, and every plugin is run once.** However the executions
of a scan are interleaved, its history is orderly: the phases submit what was selected for them,
nothing happens in a phase before the executions of the phases before it are decided, every logic
is called once at most, and exactly once if the scan returns without having been cancelled, and
nothing happens after the return, when the tracer remembers what was submitted. The run of the
scan is one of these interleavings, whatever signals come. -/
theorem path_orderly (w : Workflow σ) (target : Net.Endpoint) (m : Moment σ) :
    (∀ h s, w.Path target { start := w.clock m.world, moment := m } h s → w.Orderly target h s) ∧
      ∀ signals, ∃ h s, w.Path target { start := w.clock m.world, moment := m } h s ∧
        Shows s (w.run target signals m) :=
  ⟨fun _ _ path => path.told.orderly, fun signals => w.run_path target signals m⟩

end Workflow

end VulnScan.Scan
