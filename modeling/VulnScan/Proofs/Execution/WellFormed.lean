import VulnScan.Proofs.Execution.Contention
import VulnScan.Proofs.Execution.Dismissal

/-! # Well-formed results

The result of an execution is handed over on a sheet with a status, with room for data and for an
error (`Sheet`). A sheet can be filled in wrongly: with both or neither of them, or with a status
that does not fit. The endings of executions are exactly the sheets that are filled in as they
should be (`Sheet.wellFormed_iff`), so whoever takes the result off finds the data or the error.

An error of a plugin is handed over as it is, and any other error becomes the direct cause of one
(`Blamed`). `Pool.executions_wellFormed` says what the sheet of every execution tells, whatever
became of its job.
-/

set_option autoImplicit false

namespace VulnScan.Execution

variable {σ α : Type}

/-! ## Sheets -/

/-- The result of an execution, as it is handed over. -/
structure Sheet (α : Type) where
  status : Status
  data : Option α
  exception : Option Error

namespace Sheet

/-- The error of a sheet with neither data nor an error on it. -/
def blank : Error := .inner "plugin execution result without data or exception"

/-- What is taken off the sheet: the data if there are any, and else the error. -/
def take (s : Sheet α) : Except Error α :=
  match s.data, s.exception with
  | some a, _ => .ok a
  | none, some e => .error e
  | none, none => .error blank

/-- There are either data or an error on the sheet, and data exactly if the status is that of a
success. -/
structure WellFormed (s : Sheet α) : Prop where
  either : s.data.isSome = !s.exception.isSome
  status : s.data.isSome = true ↔ s.status = .succeeded

/-- What is taken off is what is on the sheet. -/
theorem WellFormed.take_eq {s : Sheet α} (h : s.WellFormed) :
    (∃ a, s.data = some a ∧ s.exception = none ∧ s.take = .ok a) ∨
      ∃ e, s.data = none ∧ s.exception = some e ∧ s.take = .error e := by
  obtain ⟨status, data, exception⟩ := s
  have heither : data.isSome = !exception.isSome := h.either
  cases data with
  | some a =>
      cases exception with
      | none => exact .inl ⟨a, rfl, rfl, rfl⟩
      | some e => cases heither
  | none =>
      cases exception with
      | none => cases heither
      | some e => exact .inr ⟨e, rfl, rfl, rfl⟩

end Sheet

/-- The sheet of an execution that ended so. -/
def Ending.sheet : Ending α → Sheet α
  | .succeeded a => ⟨.succeeded, some a, none⟩
  | .failed e => ⟨.failed, none, some e⟩
  | .timedOut e => ⟨.timedOut, none, some e⟩

/-- The well-formed sheets are those of endings. -/
theorem Sheet.wellFormed_iff {s : Sheet α} : s.WellFormed ↔ ∃ e : Ending α, e.sheet = s := by
  constructor
  · intro h
    obtain ⟨status, data, exception⟩ := s
    have hstatus : data.isSome = true ↔ status = .succeeded := h.status
    rcases h.take_eq with ⟨a, hdata, hexception, -⟩ | ⟨e, hdata, hexception, -⟩
    · obtain rfl : data = some a := hdata
      obtain rfl : exception = none := hexception
      obtain rfl : status = .succeeded := hstatus.1 rfl
      exact ⟨.succeeded a, rfl⟩
    · obtain rfl : data = none := hdata
      obtain rfl : exception = some e := hexception
      cases status with
      | succeeded => cases hstatus.2 rfl
      | failed => exact ⟨.failed e, rfl⟩
      | timedOut => exact ⟨.timedOut e, rfl⟩
  · rintro ⟨e, rfl⟩
    cases e with
    | succeeded a => exact ⟨rfl, by simp [Ending.sheet]⟩
    | failed e => exact ⟨rfl, by simp [Ending.sheet]⟩
    | timedOut e => exact ⟨rfl, by simp [Ending.sheet]⟩

/-- The sheet of an execution. -/
def Record.sheet (r : Record α) : Sheet α := r.ending.sheet

theorem Record.sheet_wellFormed (r : Record α) : r.sheet.WellFormed :=
  Sheet.wellFormed_iff.2 ⟨r.ending, rfl⟩

@[simp] theorem Record.sheet_status (r : Record α) : r.sheet.status = r.status := by
  obtain ⟨plugin, services, ending, elapsed⟩ := r
  cases ending <;> rfl

@[simp] theorem Record.sheet_take (r : Record α) : r.sheet.take = r.result := by
  obtain ⟨plugin, services, ending, elapsed⟩ := r
  cases ending <;> rfl

/-! ## Blame -/

/-- `Blamed plugin e x`: the error `e`, as it is handed over, is the error `x` of the plugin. -/
inductive Blamed (plugin : Plugin.Definition) : Error → Error → Prop
  | already (message : String) (causes : List String) :
      Blamed plugin (.plugin message causes) (.plugin message causes)
  | wrapped {e : Error} (other : e.isPlugin = false) :
      Blamed plugin e
        (.plugin ("Plugin execution error on '" ++ plugin.id ++ "'.") (e.message :: e.causes))

theorem blamed_iff {plugin : Plugin.Definition} {e x : Error} :
    Blamed plugin e x ↔ x = blame plugin e := by
  constructor
  · intro h
    cases h with
    | already message causes => rfl
    | wrapped other =>
        unfold blame
        rw [other]
        rfl
  · rintro rfl
    unfold blame
    cases he : e.isPlugin with
    | true => cases e <;> first | exact .already _ _ | cases he
    | false => exact .wrapped he

/-- An error is handed over as an error of a plugin. -/
theorem Blamed.isPlugin {plugin : Plugin.Definition} {e x : Error} (h : Blamed plugin e x) :
    x.isPlugin = true := by
  cases h <;> rfl

/-- What was handed over once is handed over as it is by everybody else. -/
theorem Blamed.again {plugin other : Plugin.Definition} {e x y : Error} (h : Blamed plugin e x)
    (h' : Blamed other x y) : y = x := by
  cases h' with
  | already message causes => rfl
  | wrapped hx =>
      rw [h.isPlugin] at hx
      cases hx

/-! ## Jobs and their results -/

/-- The error that a job came to, unless it has a value or was late; `crash` is what the runtime
reports of a breakdown. -/
def Resolution.error? (crash : String → String) : Resolution α → Option Error
  | .fault e => some e
  | .collapse message => some (Execution.collapse (crash message))
  | .cancelled => some cancellation
  | .value _ | .timedOut => none

/-- The record tells how the job of a task was resolved, and names the plugin and the services of
the task. -/
structure Record.Tells (deadline : Option Time.Span) (t : Task σ α) (resolution : Resolution α)
    (r : Record α) : Prop where
  plugin : r.plugin = t.plugin
  services : r.services = t.services
  wellFormed : r.sheet.WellFormed
  /-- The result is the data or the error on the sheet. -/
  result : (∃ a, r.sheet.data = some a ∧ r.sheet.exception = none ∧ r.result = .ok a) ∨
    ∃ e, r.sheet.data = none ∧ r.sheet.exception = some e ∧ r.result = .error e
  data : ∀ a, r.sheet.data = some a ↔ resolution = .value a
  failed : ∀ x, (r.status = .failed ∧ r.sheet.exception = some x) ↔
    ∃ e, resolution.error? t.crash = some e ∧ Blamed t.plugin e x
  timedOut : ∀ x, (r.status = .timedOut ∧ r.sheet.exception = some x) ↔
    resolution = .timedOut ∧ ∃ limit, deadline = some limit ∧ x = lateness t.plugin limit
  /-- Every error is one of a plugin. -/
  blamed : ∀ x, r.sheet.exception = some x → x.isPlugin = true

section

variable {deadline : Option Time.Span} {t : Task σ α} {resolution : Resolution α} {elapsed : Nat}

/-- A job that came to an error has a record of that error, blamed on the plugin. -/
theorem Task.sheet_of_error {e : Error} (he : resolution.error? t.crash = some e) :
    (t.record deadline ⟨resolution, elapsed⟩).sheet = ⟨.failed, none, some (blame t.plugin e)⟩ := by
  cases resolution with
  | value a => cases he
  | timedOut => cases he
  | fault e' => cases he; rfl
  | collapse message => cases he; rfl
  | cancelled => cases he; rfl

theorem Task.tells_of_error {e : Error} (he : resolution.error? t.crash = some e) :
    (t.record deadline ⟨resolution, elapsed⟩).Tells deadline t resolution := by
  have hwell := (t.record deadline ⟨resolution, elapsed⟩).sheet_wellFormed
  have htake := hwell.take_eq
  have hstatus := (t.record deadline ⟨resolution, elapsed⟩).sheet_status
  rw [Record.sheet_take] at htake
  have hsheet : (t.record deadline ⟨resolution, elapsed⟩).sheet = _ := Task.sheet_of_error he
  rw [hsheet] at hstatus
  refine ⟨rfl, rfl, hwell, htake, fun a => ?_, fun x => ?_, fun x => ?_, fun x hx => ?_⟩
  · rw [hsheet]
    constructor
    · intro h
      cases h
    · rintro rfl
      cases he
  · rw [hsheet, ← hstatus]
    constructor
    · rintro ⟨-, hx⟩
      exact ⟨e, he, blamed_iff.2 (Option.some.inj hx).symm⟩
    · rintro ⟨e', he', hblamed⟩
      obtain rfl : e = e' := Option.some.inj (he.symm.trans he')
      rw [blamed_iff.1 hblamed]
      exact ⟨rfl, rfl⟩
  · rw [← hstatus]
    constructor
    · rintro ⟨h, -⟩
      cases h
    · rintro ⟨rfl, -⟩
      cases he
  · rw [hsheet] at hx
    cases hx
    exact (blamed_iff.2 rfl : Blamed t.plugin e _).isPlugin

/-- Whatever became of a job, its record tells it; only if there is a deadline it can be late. -/
theorem Task.record_tells (hlate : resolution = .timedOut → deadline.isSome) :
    (t.record deadline ⟨resolution, elapsed⟩).Tells deadline t resolution := by
  have hwell := (t.record deadline ⟨resolution, elapsed⟩).sheet_wellFormed
  have htake := hwell.take_eq
  rw [Record.sheet_take] at htake
  cases resolution with
  | value a =>
      refine ⟨rfl, rfl, hwell, htake, fun a' => ?_, fun x => ?_, fun x => ?_, nofun⟩
      · simp [record, Record.sheet, Ending.sheet]
      · simp [record, Record.status, Resolution.error?]
      · simp [record, Record.status]
  | timedOut =>
      obtain ⟨limit, rfl⟩ := Option.isSome_iff_exists.1 (hlate rfl)
      refine ⟨rfl, rfl, hwell, htake, fun a => ?_, fun x => ?_, fun x => ?_, fun x hx => ?_⟩
      · simp [record, Record.sheet, Ending.sheet]
      · simp [record, Record.status, Resolution.error?]
      · simp [record, Record.status, Record.sheet, Ending.sheet, eq_comm]
      · cases hx
        rfl
  | fault e => exact tells_of_error rfl
  | collapse message => exact tells_of_error rfl
  | cancelled => exact tells_of_error rfl

end

/-! ## What becomes of a job -/

/-- A poll takes a job from one part of its activity to a later one, unless the scan is
cancelled. -/
theorem Phase.Traces.polled {deadline : Option Nat} {turn : Nat} {m m' : Moment σ}
    {p q : Phase σ α} {a : Activity σ α} (h : p.Traces deadline a)
    (hp : p.Polled deadline turn m q m') (hm : m.cancelled = false) : q.Traces deadline a := by
  cases hp with
  | dismissed cancelled undecided =>
      rw [hm] at cancelled
      cases cancelled
  | begins uncancelled settle => exact traces_after h (by simp) settle
  | goesOn uncancelled due settle => exact traces_after h.1 h.2 settle
  | late uncancelled waits due => exact .timedOut (by rw [← h.2]; rfl)
  | lateIdle uncancelled due => exact .timedOut (by rw [← h.2]; rfl)

/-- The job is at a part of its activity or decided by it, or it was dismissed in a scan that is
cancelled. -/
def Phase.Accountable (deadline : Option Nat) : Batch.Claim σ α := fun _ cancelled t _ p =>
  p.Traces deadline t.activity ∨
    (cancelled = true ∧ ∃ d, p = .decided d ∧ d.resolution = .cancelled)

theorem Phase.accountable_lasting (deadline : Option Nat) :
    Batch.Lasting deadline (Phase.Accountable (σ := σ) (α := α) deadline) where
  submitted now cancelled t := .inl (.refl _)
  later onward stays h := h.imp id fun ⟨cancelled, hd⟩ => ⟨stays cancelled, hd⟩
  polled {turn free _ m m' t l p q} h hpoll := by
    have hpolled := Phase.polled_of_poll hpoll
    cases hm : m.cancelled with
    | true =>
        obtain ⟨undecided, rfl, rfl⟩ := Phase.eq_of_poll hpoll hm
        exact .inr ⟨hm, _, rfl, Phase.resolution_cancel undecided _⟩
    | false =>
        rcases h with h | ⟨cancelled, -⟩
        · exact .inl (h.polled hpolled hm)
        · rw [hm] at cancelled
          cases cancelled

/-- What a decision comes from: the activity or the deadline, or a cancellation. -/
theorem Phase.Accountable.accounts {deadline : Option Nat} {now : Nat} {cancelled : Bool}
    {t : Task σ α} {l : List (Nat × Happening σ α)} {d : Decision α}
    (h : Phase.Accountable deadline now cancelled t l (.decided d)) :
    Accounts deadline cancelled t.activity d.resolution := by
  rcases h with h | ⟨hc, d', hd, hresolution⟩
  · exact .decided h
  · cases hd
    rw [hresolution]
    exact .cancelled hc

theorem Accounts.isSome_of_timedOut {deadline : Option Time.Span} {cancelled : Bool}
    {a : Activity σ α} (h : Accounts (deadline.map Time.Span.ticks) cancelled a .timedOut) :
    deadline.isSome := by
  generalize hr : (Resolution.timedOut : Resolution α) = r at h
  cases h with
  | cancelled called => cases hr
  | decided h =>
      cases h with
      | @ended o ends => cases o <;> cases hr
      | timedOut limit => simpa using limit

/-- **The results of executions are well formed.** However the executions of tasks go that share
their pool with others, a job that is decided has come to an end of its own activity, to its
deadline or to a cancellation, and its record tells which: it is for the plugin and the services of
the task, with either data or an error on its sheet. The records of a run are of this kind. -/
theorem Pool.executions_wellFormed (pool : Pool) (tasks : List (Task σ α)) (m : Moment σ) :
    (∀ h m' b', Batch.Passage (pool.deadline.map Time.Span.ticks) m { tasks } h m' b' →
      ∀ (i : Nat) (t : Task σ α) (d : Decision α), tasks[i]? = some t →
        b'.phases[i]? = some (.decided d) →
          Accounts (pool.deadline.map Time.Span.ticks) m'.cancelled t.activity d.resolution ∧
          (t.record pool.deadline d).Tells pool.deadline t d.resolution) ∧
    ∀ signals, (pool.execute tasks signals m).Meets
      (fun records m' => List.Forall₂ (fun t r => ∃ resolution,
        Accounts (pool.deadline.map Time.Span.ticks) m'.cancelled t.activity resolution ∧
          r.Tells pool.deadline t resolution) tasks records)
      fun _ => True := by
  have hpassage : ∀ h m' b',
      Batch.Passage (pool.deadline.map Time.Span.ticks) m { tasks } h m' b' →
      ∀ (i : Nat) (t : Task σ α) (d : Decision α), tasks[i]? = some t →
        b'.phases[i]? = some (.decided d) →
          Accounts (pool.deadline.map Time.Span.ticks) m'.cancelled t.activity d.resolution ∧
          (t.record pool.deadline d).Tells pool.deadline t d.resolution := by
    intro h m' b' passage i t d ht hd
    have hupholds := passage.upholds (Phase.accountable_lasting _)
    have haccounts := (hupholds.jobs (by rw [passage.tasks_eq]; exact ht) hd).accounts
    refine ⟨haccounts, Task.record_tells fun hlate => ?_⟩
    rw [hlate] at haccounts
    exact haccounts.isSome_of_timedOut
  refine ⟨hpassage, fun signals => ?_⟩
  refine (pool.execute_decided hpassage signals).imp ?_ fun _ _ => trivial
  rintro records m' - ⟨hlength, h, b', -, hall⟩
  refine List.forall₂_iff_get.2 ⟨hlength.symm, fun i hi hi' => ?_⟩
  obtain ⟨d, hrecord, htells⟩ :=
    hall i tasks[i] records[i] (List.getElem?_eq_getElem hi) (List.getElem?_eq_getElem hi')
  rw [← hrecord] at htells
  exact ⟨d.resolution, htells⟩

/-- A task that fails after five ticks. -/
def faulty : Task Unit Nat := pacedTask 5 (.fault (.inner "boom"))

/-- If it has to wait for a slot, its error is blamed on its plugin all the same. -/
theorem delayed_wellFormed :
    Batch.Passage none ⟨0, (), false⟩ { tasks := [faulty] } (delayed 3 5 (.fault (.inner "boom")))
      ⟨8, (), false⟩ (delayedBatch 5 (.fault (.inner "boom"))) ∧
    (faulty.record none ⟨.fault (.inner "boom"), 5⟩).sheet.exception =
      some (.plugin ("Plugin execution error on '" ++ pacedDetector.id ++ "'.")
        ["Internal error: boom"]) := by
  have passage := passage_delayed 3 (by decide : 0 < 5) (.fault (.inner "boom"))
  have tells : (faulty.record none ⟨.fault (.inner "boom"), 5⟩).Tells none faulty
      (.fault (.inner "boom")) :=
    ((Pool.executions_wellFormed (Pool.ofSlots 1) [faulty] ⟨0, (), false⟩).1
      _ _ _ passage 0 _ _ rfl rfl).2
  exact ⟨passage, ((tells.failed _).2 ⟨_, rfl, .wrapped rfl⟩).2⟩

end VulnScan.Execution
