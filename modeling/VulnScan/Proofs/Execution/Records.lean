import VulnScan.Execution.Record
import VulnScan.Proofs.Execution.PoolJobs

/-! # What records tell of executions

A pool leaves one record per task, in the order of the tasks and not in that of their ends, and
every record belongs to its task: it names the plugin and the services of the task, and tells an
outcome of its activity, the deadline or a cancellation (`Recorded`).
-/

set_option autoImplicit false

namespace VulnScan.Execution

variable {σ α γ : Type}

/-- How a task can be recorded that ran under a deadline in a scan which was or was not cancelled
in the end; by itself it could come to the outcomes in `ends`. -/
inductive Recorded (deadline : Option Time.Span) (cancelled : Bool) (ends : Outcome α → Prop)
    (t : Task σ α) : Record α → Prop
  | succeeded {a : α} {elapsed : Time.Span} (ended : ends (.value a)) :
      Recorded deadline cancelled ends t ⟨t.plugin, t.services, .succeeded a, elapsed⟩
  | failed {e : Error} {elapsed : Time.Span} (ended : ends (.fault e)) :
      Recorded deadline cancelled ends t
        ⟨t.plugin, t.services, .failed (blame t.plugin e), elapsed⟩
  | collapsed {message : String} (ended : ends (.collapse message)) :
      Recorded deadline cancelled ends t
        ⟨t.plugin, t.services, .failed (blame t.plugin (collapse (t.crash message))), .zero⟩
  | timedOut {limit elapsed : Time.Span} (late : deadline = some limit) :
      Recorded deadline cancelled ends t
        ⟨t.plugin, t.services, .timedOut (lateness t.plugin limit), elapsed⟩
  | cancelled {elapsed : Time.Span} (called : cancelled = true) :
      Recorded deadline cancelled ends t
        ⟨t.plugin, t.services, .failed (blame t.plugin cancellation), elapsed⟩

namespace Recorded

variable {deadline : Option Time.Span} {cancelled : Bool} {ends : Outcome α → Prop}
  {t : Task σ α} {r : Record α}

theorem plugin_eq (h : Recorded deadline cancelled ends t r) : r.plugin = t.plugin := by
  cases h <;> rfl

theorem services_eq (h : Recorded deadline cancelled ends t r) : r.services = t.services := by
  cases h <;> rfl

/-- Records name the plugins of their tasks, in the same order. -/
theorem plugins_eq {ends : Task σ α → Outcome α → Prop} {tasks : List (Task σ α)}
    {records : List (Record α)}
    (h : List.Forall₂ (fun t => Recorded deadline cancelled (ends t) t) tasks records) :
    records.map Record.plugin = tasks.map Task.plugin := by
  induction h with
  | nil => rfl
  | cons hr _ ih => rw [List.map_cons, List.map_cons, hr.plugin_eq, ih]

/-- A decision that accounts for the activity of a task makes a record of the task. -/
theorem of_accounts {a : Activity σ α} {d : Decision α}
    (h : Accounts (deadline.map Time.Span.ticks) cancelled a d.resolution)
    (hends : ∀ o, d.resolution = .ofOutcome o → ends o) :
    Recorded deadline cancelled ends t (t.record deadline d) := by
  obtain ⟨resolution, elapsed⟩ := d
  cases h with
  | decided h =>
      cases h with
      | @ended o _ =>
          have ended := hends o rfl
          cases o with
          | value a => exact .succeeded ended
          | fault e => exact .failed ended
          | collapse message => exact .collapsed ended
      | timedOut h =>
          cases deadline with
          | none => cases h
          | some limit => exact .timedOut rfl
  | cancelled called => exact .cancelled called

/-- Where only one outcome was possible, the task succeeded if that is a value and it was not
late, unless it was cancelled. -/
theorem isSucceeded_iff {o : Outcome α} (h : Recorded deadline cancelled (fun o' => o' = o) t r)
    (hcancelled : cancelled = true → r.isSucceeded = true) :
    r.isSucceeded = true ↔ r.status ≠ .timedOut ∧ ∃ a, o = .value a := by
  cases h with
  | succeeded ended => exact ⟨fun _ => ⟨nofun, _, ended.symm⟩, fun _ => rfl⟩
  | failed ended =>
      subst ended
      exact ⟨nofun, fun ⟨_, _, h⟩ => by cases h⟩
  | collapsed ended =>
      subst ended
      exact ⟨nofun, fun ⟨_, _, h⟩ => by cases h⟩
  | timedOut late => exact ⟨nofun, fun ⟨h, _⟩ => absurd rfl h⟩
  | cancelled called => exact absurd (hcancelled called) nofun

theorem deadline_isSome (h : Recorded deadline cancelled ends t r) (late : r.status = .timedOut) :
    deadline.isSome := by
  cases h with
  | timedOut limit => rw [limit]; rfl
  | succeeded ended => cases late
  | failed ended => cases late
  | collapsed ended => cases late
  | cancelled called => cases late

end Recorded

namespace Pool

variable {signals : Signals} {m m' : Moment σ}

/-- The run of a pool, seen as one of the things that can happen to jobs that wait for a slot. -/
theorem run_leads (pool : Pool) (signals : Signals) (jobs : List (Nat × Activity σ α))
    (m : Moment σ) :
    (Jobs.mk m 0 (jobs.map fun j => .queued j.1 j.2)).Leads pool.slots
      (pool.deadline.map Time.Span.ticks) signals (pool.run signals jobs m) :=
  Jobs.run_leads _ _ _ _

/-- An execution meets what its pool meets, said of the records. -/
theorem execute_meets_of_run {pool : Pool} {tasks : List (Task σ α)}
    {Q : List (Record α) → Moment σ → Prop} {B : Break σ → Prop}
    (h : (pool.run signals (tasks.map fun t => (m.now, t.activity)) m).Meets
      (fun ds => Q ((tasks.zip ds).map fun p => p.1.record pool.deadline p.2)) B) :
    (pool.execute tasks signals m).Meets Q B := by
  unfold execute executeAt
  refine Session.meets_bind ?_
  refine Session.meets_bind ?_
  simp only [List.map_map]
  refine h.imp (fun ds m' _ hQ => ?_) fun _ => id
  simpa [Course.Meets, List.zip_map_left, Function.comp_def] using hQ

theorem recorded_of_accounts {deadline : Option Time.Span} {cancelled : Bool}
    {tasks : List (Task σ α)} {ds : List (Decision α)}
    (h : List.Forall₂
      (fun a d => Accounts (deadline.map Time.Span.ticks) cancelled a d.resolution)
      (tasks.map Task.activity) ds) :
    List.Forall₂ (fun t => Recorded deadline cancelled t.activity.MayEnd t) tasks
      ((tasks.zip ds).map fun p => p.1.record deadline p.2) := by
  induction tasks generalizing ds with
  | nil => exact .nil
  | cons t tasks ih =>
      obtain ⟨d, ds, hd, hds, rfl⟩ := List.forall₂_cons_left_iff.1 h
      exact .cons (.of_accounts hd fun o ho => hd.mayEnd ho) (ih hds)

/-- Before a run every job is the whole of its activity. -/
theorem forall₂_traces_queued (deadline : Option Nat) (now : Nat) (tasks : List (Task σ α)) :
    List.Forall₂ (fun a p => Phase.Traces deadline a p) (tasks.map Task.activity)
      ((tasks.map fun t => (now, t.activity)).map fun j => Phase.queued j.1 j.2) := by
  simp only [List.forall₂_map_left_iff, List.forall₂_map_right_iff]
  exact List.forall₂_same.2 fun t _ => .refl _

/-- **Every task gets its own record.** An execution leaves the records of all tasks in their
order. It breaks off only if it is abandoned, or if a task without deadline never ends. -/
theorem execute_meets (pool : Pool) (tasks : List (Task σ α)) (signals : Signals) (m : Moment σ) :
    (pool.execute tasks signals m).Meets
      (fun records m' =>
        List.Forall₂ (fun t => Recorded pool.deadline m'.cancelled t.activity.MayEnd t) tasks
          records ∧
        (m'.cancelled = true →
          m.cancelled = true ∨ signals.cancelAt.isSome ∨ ∃ t ∈ tasks, t.activity.MayCancel) ∧
        (signals.UpToDate m → signals.UpToDate m'))
      (signals.Excuse (pool.deadline = none ∧ ∃ t ∈ tasks, t.activity.MayHang) fun _ => False) := by
  refine execute_meets_of_run ?_
  have htraces := forall₂_traces_queued (pool.deadline.map Time.Span.ticks) m.now tasks
  refine ((run_leads pool signals _ m).accounts pool.slots_pos htraces).imp ?_ ?_
  · rintro ds m' - ⟨haccounts, hcalled, hup⟩
    refine ⟨recorded_of_accounts haccounts, fun hm' => ?_, hup⟩
    simpa using hcalled hm'
  · intro b hb
    refine hb.imp (fun ⟨hnone, hhang⟩ => ⟨?_, ?_⟩) fun _ => id
    · simpa using hnone
    · simpa using hhang

theorem execute_final (pool : Pool) (tasks : List (Task σ α)) (signals : Signals) (m : Moment σ) :
    (pool.execute tasks signals m).final =
      (pool.run signals (tasks.map fun t => (m.now, t.activity)) m).final := by
  have hjobs : (tasks.map fun t => (m.now, t)).map (fun t => (t.1, t.2.activity)) =
      tasks.map fun t => (m.now, t.activity) := by
    rw [List.map_map]
    rfl
  unfold execute executeAt
  simp only [bind, Session.andThen, Session.moment, hjobs]
  cases pool.run signals (tasks.map fun t => (m.now, t.activity)) m <;> rfl

/-- Tasks that all keep a view leave it as it was. -/
theorem execute_keeps {view : σ → γ} (pool : Pool) (tasks : List (Task σ α)) (signals : Signals)
    (m : Moment σ) (h : ∀ t ∈ tasks, t.activity.Keeps view) :
    view (pool.execute tasks signals m).final.world = view m.world := by
  rw [execute_final]
  refine (run_leads pool signals _ m).keeps fun p hp => ?_
  simp only [List.map_map, List.mem_map, Function.comp_apply] at hp
  obtain ⟨t, ht, rfl⟩ := hp
  exact h t ht

/-- The record of a task among others, whose decision is known to be an outcome in `Q` if it is an
outcome at all. -/
theorem exists_recorded {deadline : Option Time.Span} {cancelled : Bool} {Q : Outcome α → Prop}
    {before after : List (Task σ α)} {t : Task σ α} {ds : List (Decision α)}
    (h : List.Forall₂
      (fun a d => Accounts (deadline.map Time.Span.ticks) cancelled a d.resolution)
      ((before ++ t :: after).map Task.activity) ds)
    (hQ : ∀ (d : Decision α) (o : Outcome α), ds[before.length]? = some d →
      d.resolution = .ofOutcome o → Q o) :
    ∃ r ∈ ((before ++ t :: after).zip ds).map fun p => p.1.record deadline p.2,
      Recorded deadline cancelled Q t r := by
  have hlen : before.length < ds.length := by
    rw [← h.length_eq]
    simp
  have hget : ds[before.length]? = some ds[before.length] := List.getElem?_eq_getElem hlen
  have haccounts : Accounts (deadline.map Time.Span.ticks) cancelled t.activity
      ds[before.length].resolution := by
    simpa using h.get (i := before.length) (by simp) hlen
  refine ⟨t.record deadline ds[before.length], ?_, .of_accounts haccounts fun o => hQ _ o hget⟩
  refine List.mem_map.2 ⟨(t, ds[before.length]), ?_, rfl⟩
  refine List.mem_of_getElem? (i := before.length) ?_
  simp [List.getElem?_zip_eq_some]

/-- Before a run all jobs but one keep a view, if the activities of all other tasks do. -/
theorem keeps_queued {view : σ → γ} {before after : List (Task σ α)} {t : Task σ α} {i now : Nat}
    {p : Phase σ α} (hbefore : ∀ t' ∈ before, t'.activity.Keeps view)
    (hafter : ∀ t' ∈ after, t'.activity.Keeps view) (hi : i ≠ before.length)
    (hp : (((before ++ t :: after).map fun t' => (now, t'.activity)).map
      fun j => Phase.queued j.1 j.2)[i]? = some p) : p.Keeps view := by
  simp only [List.map_map, List.getElem?_map, Option.map_eq_some_iff, Function.comp_apply] at hp
  obtain ⟨t', ht', rfl⟩ := hp
  rcases Nat.lt_or_ge i before.length with hlt | hge
  · rw [List.getElem?_append_left hlt] at ht'
    exact hbefore t' (List.mem_of_getElem? ht')
  · obtain ⟨k, rfl⟩ : ∃ k, i = before.length + (k + 1) := ⟨i - before.length - 1, by omega⟩
    rw [List.getElem?_append_right hge, Nat.add_sub_cancel_left, List.getElem?_cons_succ] at ht'
    exact hafter t' (List.mem_of_getElem? ht')

/-- Before a run a view belongs to a task, if the activities of all others keep it. -/
theorem private_queued {view : σ → γ} {Q : Outcome α → Prop} {before after : List (Task σ α)}
    {t : Task σ α} (ht : t.activity.Yields view (fun o _ => Q o) (view m.world))
    (hbefore : ∀ t' ∈ before, t'.activity.Keeps view)
    (hafter : ∀ t' ∈ after, t'.activity.Keeps view) :
    (Jobs.mk m 0 (((before ++ t :: after).map fun t' => (m.now, t'.activity)).map
      fun j => Phase.queued j.1 j.2)).Private view Q before.length := by
  refine ⟨fun p hp => ?_, fun i p hi hp => keeps_queued hbefore hafter hi hp⟩
  simp at hp
  subst hp
  exact ht

/-- A task with a private view is recorded as its view makes it end, if all others keep the
view. -/
theorem execute_yields {view : σ → γ} {Q : Outcome α → Prop} {pool : Pool}
    {before after : List (Task σ α)} {t : Task σ α} {records : List (Record α)}
    (h : pool.execute (before ++ t :: after) signals m = .reached records m')
    (ht : t.activity.Yields view (fun o _ => Q o) (view m.world))
    (hbefore : ∀ t' ∈ before, t'.activity.Keeps view)
    (hafter : ∀ t' ∈ after, t'.activity.Keeps view) :
    ∃ r ∈ records, Recorded pool.deadline m'.cancelled Q t r := by
  have hleads := run_leads pool signals
    ((before ++ t :: after).map fun t' => (m.now, t'.activity)) m
  have haccounts := hleads.accounts pool.slots_pos (forall₂_traces_queued _ m.now _)
  have hyields := hleads.yields (private_queued ht hbefore hafter)
  have hexecute : (pool.execute (before ++ t :: after) signals m).Meets
      (fun records m₁ => ∃ r ∈ records, Recorded pool.deadline m₁.cancelled Q t r)
      fun _ => True := by
    refine execute_meets_of_run ((haccounts.and hyields).imp ?_ fun _ _ => trivial)
    rintro ds m₁ - ⟨⟨hds, -⟩, hQ⟩
    exact exists_recorded hds hQ
  exact hexecute.of_reached h

theorem execute_eq_of_run {pool : Pool} {tasks : List (Task σ α)} {ds : List (Decision α)}
    (h : pool.run signals (tasks.map fun t => (m.now, t.activity)) m = .reached ds m') :
    pool.execute tasks signals m =
      .reached ((tasks.zip ds).map fun p => p.1.record pool.deadline p.2) m' := by
  unfold execute executeAt
  refine Session.bind_eq_reached.2 ⟨m, m, rfl, Session.bind_eq_reached.2 ⟨ds, m', ?_, ?_⟩⟩
  · simpa [List.map_map, Function.comp_def] using h
  · simp [List.zip_map_left, Function.comp_def]

/-- Without tasks there is nothing to wait for. -/
theorem execute_nil (pool : Pool) (signals : Signals) (m : Moment σ) :
    pool.execute ([] : List (Task σ α)) signals m = .reached [] m := by
  have hrun : pool.run signals (([] : List (Task σ α)).map fun t => (m.now, t.activity)) m =
      .reached [] m := by
    unfold run
    rw [Jobs.run]
    rfl
  exact execute_eq_of_run hrun

/-- A single task that ends without waiting is recorded at once. -/
theorem execute_ended {pool : Pool} {t : Task σ α} {o : Outcome α} {w : σ}
    (hm : m.cancelled = false)
    (h : t.activity.settle m.now m.world false = (.ended o, w, false)) :
    pool.execute [t] {} m =
      .reached [t.record pool.deadline ⟨.ofOutcome o, 0⟩] { m with world := w } := by
  obtain ⟨now, world, cancelled⟩ := m
  obtain rfl : cancelled = false := hm
  -- the only event is that the task gets its slot
  have hadvance : (Jobs.mk (⟨now, world, false⟩ : Moment σ) 0
        (([t].map fun t => (now, t.activity)).map fun j => Phase.queued j.1 j.2)).advance
      (pool.deadline.map Time.Span.ticks) now 0 =
        some ⟨⟨now, w, false⟩, 2, [.decided ⟨.ofOutcome o, 0⟩]⟩ := by
    simp only [List.map_cons, List.map_nil, Jobs.advance, List.getElem?_cons_zero, Phase.advance,
      Option.map_some]
    rw [h]
    simp [after]
  have hrun : pool.run {} ([t].map fun t => (now, t.activity)) ⟨now, world, false⟩ =
      .reached [⟨.ofOutcome o, 0⟩] ⟨now, w, false⟩ := by
    have hpos := pool.slots_pos
    unfold run
    rw [Jobs.run_eq_of_advance (d := ⟨now, true, 0⟩) rfl rfl ?_ rfl hadvance, Jobs.run]
    · rfl
    · simp [Jobs.next, Jobs.taken, firstDue, Phase.due, Phase.isRunning, hpos]
  exact execute_eq_of_run hrun

end Pool

/-! ## What the runtime reports -/

/-- `r.RetoldAs crash crash' r'`: the records are the same, but for what the runtime reports of a
breakdown, which is told by `crash` in the first and by `crash'` in the second. -/
inductive Record.RetoldAs (crash crash' : String → String) : Record α → Record α → Prop
  | refl (r : Record α) : RetoldAs crash crash' r r
  | collapsed (plugin : Plugin.Definition) (services : List Net.Service) (message : String)
      (elapsed : Time.Span) :
      RetoldAs crash crash'
        ⟨plugin, services, .failed (blame plugin (collapse (crash message))), elapsed⟩
        ⟨plugin, services, .failed (blame plugin (collapse (crash' message))), elapsed⟩

/-- What the runtime reports of a breakdown is all that it adds to a record. -/
theorem Task.record_retoldAs (t : Task σ α) (crash : String → String) (deadline : Option Time.Span)
    (d : Decision α) :
    (t.record deadline d).RetoldAs t.crash crash
      (({ t with crash } : Task σ α).record deadline d) := by
  obtain ⟨resolution, elapsed⟩ := d
  cases resolution with
  | collapse message => exact .collapsed _ _ message _
  | value a => exact .refl _
  | fault e => exact .refl _
  | timedOut => exact .refl _
  | cancelled => exact .refl _

end VulnScan.Execution
