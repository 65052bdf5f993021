import VulnScan.Proofs.Scan.Permits
import VulnScan.Proofs.Scan.Tokens

/-! # One scan after the other

One workflow runs a series of scans, each in the household that the one before has left, in whatever
way that has ended: its tokens and its semaphore, the time and the world. The tracer of a scan, its
token and the proxies of language servers are made anew for every scan, from what is registered. All
slots are free again when the next scan begins, as the executions of a scan that is given up are
dismissed with it (`Workflow.Leaves.idle`), and the token of the workflow is only what a series of
uses makes of it (`Series.uses`). What is left is what the world has been through, and plugins that
are functions of their inputs take no notice of that: every scan goes as it would on a workflow that
was never used (`Workflow.series_fresh`).
-/

set_option autoImplicit false

namespace VulnScan.Scan

open Execution (Course Moment Replay Semaphore Signals)
open LanguageServer (Request)

variable {T S σ : Type}

/-- A scan of a series. -/
structure Trial where
  target : Net.Endpoint
  /-- The number of ticks after which nobody waits for the scan any more. -/
  patience : Option Nat := none
  /-- The number of ticks from its end to the next scan. -/
  pause : Nat := 0
  /-- What the runtime reports of breakdowns. The numbers that it gives to executions go on from
  scan to scan. -/
  crash : Selected → String → String := fun _ message => message

/-- What breaks into a scan that starts at `now`. -/
def Trial.signals (t : Trial) (now : Nat) : Signals := .startingAt now none none t.patience

/-- What scans hand on from one to the next: what is around the workflow, and the semaphore of its
pool. -/
structure Household (T S σ : Type) extends Setting T σ where
  permits : S

/-- A scan, the household in which it was started, and its course. -/
structure Episode (T S σ : Type) where
  trial : Trial
  start : Household T S σ
  course : Course σ (Tracer × Finding.Results)

/-- The moment at which a scan begins under the token `own`. -/
def Setting.moment (tokens : Tokens T) (own : Nat) (x : Setting T σ) : Moment σ :=
  ⟨x.now, x.world, tokens.isCancelled x.tokens own⟩

namespace Workflow

/-- The course of a scan, and what it leaves around the workflow. -/
def runTrial (w : Workflow σ) (tokens : Tokens T) (own : Nat) (t : Trial) (x : Setting T σ) :
    Course σ (Tracer × Finding.Results) × Setting T σ :=
  (w.renumbered t.crash).runUnder tokens own t.target (t.signals x.now) x

/-- Runs scans one after the other. A scan that comes to a standstill is given up. -/
inductive Series (w : Workflow σ) (sem : Semaphore S) (tokens : Tokens T) (own : Nat) :
    List Trial → Household T S σ → List (Episode T S σ) → Household T S σ → Prop
  | done {x : Household T S σ} : Series w sem tokens own [] x [] x
  | scan {t : Trial} {ts : List Trial} {x y : Household T S σ} {episodes : List (Episode T S σ)}
      {left : Setting T σ} {course : Course σ (Tracer × Finding.Results)} {permits : S}
      (runs : w.runTrial tokens own t x.toSetting = (course, left))
      (leaves : (w.renumbered t.crash).Leaves sem (tokens.child own x.tokens).1 t.target
        (x.toSetting.moment tokens own) course x.permits permits)
      (rest : Series w sem tokens own ts
        { left with now := left.now + t.pause, permits } episodes y) :
      Series w sem tokens own (t :: ts) x (⟨t, x, course⟩ :: episodes) y

end Workflow

/-- The runs of a trial are broken into at times in step. -/
theorem Trial.signals_replay {ρ : Type} {r : Replay σ ρ} (t : Trial) :
    r.Signals (t.signals r.start.now) (t.signals r.again.now) where
  cancelAt := .none
  abandonAt := by
    unfold signals Signals.startingAt
    cases t.patience with
    | none => exact .none
    | some d =>
        refine .some ?_
        show r.start.now + d + r.again.now = r.again.now + d + r.start.now
        omega
  called h := by cases h

namespace Workflow

variable {w : Workflow σ} {sem : Semaphore S} {tokens : Tokens T} {own : Nat} {trials : List Trial}
  {x y : Household T S σ} {episodes : List (Episode T S σ)}

/-- A scan of a series is one of the uses of the workflow, and nobody cancels it from outside. -/
theorem uses_runTrial {t : Trial} {left : Setting T σ}
    {course : Course σ (Tracer × Finding.Results)}
    (runs : w.runTrial tokens own t x.toSetting = (course, left)) (now : Nat) :
    w.Uses tokens own False x.toSetting { left with now } := by
  have scans : w.Uses tokens own False x.toSetting (w.runTrial tokens own t x.toSetting).2 :=
    .scans .start t.crash t.target _ fun called => by cases called
  rw [runs] at scans
  exact scans.rests now left.world

/-- The course of a scan of a series. -/
theorem course_of_runTrial {t : Trial} {left : Setting T σ}
    {course : Course σ (Tracer × Finding.Results)} (lawful : tokens.Lawful)
    (known : tokens.Known x.tokens own)
    (runs : w.runTrial tokens own t x.toSetting = (course, left)) :
    course = (w.renumbered t.crash).run t.target (t.signals x.now)
      (x.toSetting.moment tokens own) := by
  have hcourse := (w.renumbered t.crash).runUnder_course (x := x.toSetting) lawful known t.target
    (t.signals x.now)
  rw [runTrial] at runs
  rwa [runs] at hcourse

/-- A household that scans find in a series: they make nothing of the workflow but uses, and have
left all permits free. -/
structure Series.Finds (w : Workflow σ) (sem : Semaphore S) (tokens : Tokens T) (own : Nat)
    (x y : Household T S σ) : Prop where
  uses : w.Uses tokens own False x.toSetting y.toSetting
  idle : sem.Idle w.pool.slots y.permits

/-- Every scan of a series finds all permits free, and goes as the workflow says. -/
theorem Series.episode (series : w.Series sem tokens own trials x episodes y)
    (lawful : tokens.Lawful) (fifo : sem.Fifo) (known : tokens.Known x.tokens own)
    (idle : sem.Idle w.pool.slots x.permits) :
    (∀ e ∈ episodes, Series.Finds w sem tokens own x e.start ∧
      e.course = (w.renumbered e.trial.crash).run e.trial.target (e.trial.signals e.start.now)
        (e.start.toSetting.moment tokens own)) ∧
      Series.Finds w sem tokens own x y ∧ episodes.map Episode.trial = trials := by
  induction series with
  | done => exact ⟨by simp, ⟨.start, idle⟩, rfl⟩
  | @scan t ts x y episodes left course permits runs leaves rest ih =>
      have uses := uses_runTrial runs (left.now + t.pause)
      obtain ⟨hepisodes, hend, htrials⟩ := ih (uses.known lawful known) (leaves.idle fifo idle)
      refine ⟨fun e he => ?_, ⟨uses.trans hend.uses, hend.idle⟩, congrArg (t :: ·) htrials⟩
      rcases List.mem_cons.1 he with rfl | he
      · exact ⟨⟨.start, idle⟩, course_of_runTrial lawful known runs⟩
      · obtain ⟨hfinds, hcourse⟩ := hepisodes e he
        exact ⟨⟨uses.trans hfinds.uses, hfinds.idle⟩, hcourse⟩

/-- There is a series for any scans, as the semaphore can serve them. -/
theorem exists_series (lawful : tokens.Lawful) (fifo : sem.Fifo)
    (known : tokens.Known x.tokens own) (idle : sem.Idle w.pool.slots x.permits)
    (trials : List Trial) : ∃ episodes y, w.Series sem tokens own trials x episodes y := by
  induction trials generalizing x with
  | nil => exact ⟨[], x, .done⟩
  | cons t ts ih =>
      obtain ⟨course, left, runs⟩ : ∃ course left,
          w.runTrial tokens own t x.toSetting = (course, left) := ⟨_, _, rfl⟩
      obtain ⟨permits, leaves⟩ := (w.renumbered t.crash).exists_leaves fifo idle
        (tokens.child own x.tokens).1 t.target (t.signals x.now) (x.toSetting.moment tokens own)
      rw [← course_of_runTrial lawful known runs] at leaves
      have uses := uses_runTrial runs (left.now + t.pause)
      obtain ⟨episodes, y, rest⟩ := ih (x := { left with now := left.now + t.pause, permits })
        (uses.known lawful known) (leaves.idle fifo idle)
      exact ⟨_, y, .scan runs leaves rest⟩

/-- **Nothing leaks from one scan into the next.** The plugins of a workflow are functions of their
inputs, and the requests that are made to language servers are logged. Any scans can be run one
after the other, and in whatever way those before have ended, every scan finds all permits of the
pool free, and the token of the workflow as the uses of the workflow leave it. If that is not
cancelled, the scan ends as it would on a workflow that was never used: in the same way after the
same time, with the same results and the same selections of plugins, and having made the same
requests in the same order. And if no plugin calls for a cancellation, no scan has left the workflow
cancelled. -/
theorem series_fresh {log : σ → List (String × Request)}
    (oblivious : ∀ e ∈ w.registry.entries, e.body.All fun _ a => a.Oblivious)
    (logs : ∀ e ∈ w.registry.entries, e.body.Logs log fun request => (e.id, request))
    (lawful : tokens.Lawful) (fifo : sem.Fifo) (known : tokens.Known x.tokens own)
    (idle : sem.Idle w.pool.slots x.permits) (trials : List Trial) :
    (∃ episodes y, w.Series sem tokens own trials x episodes y) ∧
    ∀ episodes y, w.Series sem tokens own trials x episodes y →
      episodes.map Episode.trial = trials ∧ Series.Finds w sem tokens own x y ∧
      (∀ e ∈ episodes, Series.Finds w sem tokens own x e.start ∧
        (tokens.isCancelled e.start.tokens own = false →
          ∀ (crash : Selected → String → String) (fresh : Moment σ), fresh.cancelled = false →
            Replay.Courses ⟨log, True, e.start.toSetting.moment tokens own, fresh⟩
              (fun out out' => TracersAgree out.1 out'.1 ∧ ResultsAgree out.2 out'.2) e.course
              ((w.renumbered crash).run e.trial.target (e.trial.signals fresh.now) fresh))) ∧
      ((∀ e ∈ w.registry.entries, e.body.All fun _ a => ¬ a.MayCancel) →
        tokens.isCancelled x.tokens own = false →
          ∀ e ∈ episodes, tokens.isCancelled e.start.tokens own = false) := by
  refine ⟨exists_series lawful fifo known idle trials, fun episodes y series => ?_⟩
  obtain ⟨hepisodes, hend, htrials⟩ := series.episode lawful fifo known idle
  refine ⟨htrials, hend, fun e he => ?_, fun calm hx e he => ?_⟩
  · obtain ⟨hfinds, hcourse⟩ := hepisodes e he
    refine ⟨hfinds, fun hstart crash fresh hfresh => ?_⟩
    let r : Replay σ (String × Request) :=
      ⟨log, True, e.start.toSetting.moment tokens own, fresh⟩
    have hrepeats : ∀ e ∈ w.registry.entries, e.body.All fun _ a => a.Repeats r.log r.calls :=
      fun e he => Plugin.Instance.repeats (oblivious e he) (logs e he)
        (Plugin.Instance.all_of_forall (fun _ _ => trivial) e.body)
    rw [hcourse]
    exact run_replay (w := w.renumbered e.trial.crash) hrepeats crash _ _ _ _ _
      e.trial.signals_replay
      (Replay.moments_start (r := r) (hstart.trans hfresh.symm) fun _ => trivial)
  · rw [Bool.eq_false_iff] at hx ⊢
    exact fun hstart => hx ((hepisodes e he).1.uses.isCancelled_of_calm lawful known calm hstart)

end Workflow

/-! ## A scan after one that was aborted -/

/-- Two scans of a host, of which the first is given up before its port scanner has begun. -/
def secondTry : List Trial :=
  [{ target := .ofHostname "localhost", patience := some 0, pause := 5 },
    { target := .ofHostname "localhost" }]

/-- The requests to the server with the catalogue, under the identifier of its plugin. -/
def catalogueLog (requests : List Request) : List (String × Request) :=
  requests.map fun request => (catalogueDetector.id, request)

theorem catalogueWorkflow_oblivious :
    ∀ e ∈ catalogueWorkflow.registry.entries, e.body.All fun _ a => a.Oblivious := by
  refine forall_mem_catalogueWorkflow (fun target => trivial) ⟨?_, ?_, ?_⟩
  · exact fun limit => ⟨fun _ _ _ _ => rfl, fun _ _ => trivial⟩
  · exact fun limit => ⟨fun _ _ _ _ => rfl, fun _ _ => trivial⟩
  · exact fun request limit => ⟨fun _ _ _ _ => rfl, fun _ _ => trivial⟩

theorem catalogueWorkflow_logs :
    ∀ e ∈ catalogueWorkflow.registry.entries,
      e.body.Logs catalogueLog fun request => (e.id, request) := by
  refine forall_mem_catalogueWorkflow (fun target => trivial) ⟨?_, ?_, ?_⟩
  · exact fun limit => .mk (fun _ _ => List.map_append) fun _ _ => trivial
  · exact fun limit => .mk (fun _ _ => List.map_append) fun _ _ => trivial
  · exact fun request limit => .mk (fun _ _ => List.map_append) fun _ _ => trivial

/-- A workflow that was never used, with a token that is not cancelled. -/
def unused : Household Issued Execution.Turnstile (List Request) where
  tokens := granted
  now := 0
  world := []
  permits := Execution.turnstile.new catalogueWorkflow.pool.slots

/-- Both scans can be run, and go as on a workflow that was never used. -/
theorem catalogueWorkflow_series :
    (∀ e ∈ catalogueWorkflow.registry.entries, e.body.All fun _ a => a.Oblivious) ∧
      (∀ e ∈ catalogueWorkflow.registry.entries,
        e.body.Logs catalogueLog fun request => (e.id, request)) ∧
      issuing.Lawful ∧ Execution.turnstile.Fifo ∧ issuing.Known unused.tokens 0 ∧
      Execution.turnstile.Idle catalogueWorkflow.pool.slots unused.permits ∧
      ∃ episodes y,
        catalogueWorkflow.Series Execution.turnstile issuing 0 secondTry unused episodes y ∧
        episodes.length = 2 ∧
        Execution.turnstile.free y.permits = catalogueWorkflow.pool.slots ∧
        ∀ e ∈ episodes, Replay.Courses ⟨catalogueLog, True, e.start.toSetting.moment issuing 0,
            ⟨0, [], false⟩⟩
          (fun out out' => TracersAgree out.1 out'.1 ∧ ResultsAgree out.2 out'.2) e.course
          (catalogueWorkflow.run e.trial.target (e.trial.signals 0) ⟨0, [], false⟩) := by
  have hknown : issuing.Known unused.tokens 0 := Nat.zero_lt_two
  have hidle : Execution.turnstile.Idle catalogueWorkflow.pool.slots unused.permits :=
    Semaphore.idle_new Execution.turnstile_fifo (by decide)
  obtain ⟨⟨episodes, y, series⟩, hall⟩ := Workflow.series_fresh catalogueWorkflow_oblivious
    catalogueWorkflow_logs issuing_lawful Execution.turnstile_fifo hknown hidle secondTry
  obtain ⟨htrials, hend, hepisodes, hcalm⟩ := hall episodes y series
  refine ⟨catalogueWorkflow_oblivious, catalogueWorkflow_logs, issuing_lawful,
    Execution.turnstile_fifo, hknown, hidle, episodes, y, series, ?_, hend.idle.free,
    fun e he => ?_⟩
  · exact (List.length_map Episode.trial).symm.trans (congrArg List.length htrials)
  · have hstart := hcalm catalogueWorkflow_calm rfl e he
    exact (hepisodes e he).2 hstart catalogueWorkflow.crash ⟨0, [], false⟩ rfl

end VulnScan.Scan
