import VulnScan.Proofs.Execution.SharedPoolRun
import VulnScan.Proofs.Scan.StepRun

/-! # The permits of a scan

The executions of a scan get their permits from the semaphore of its pool, and those of a phase find
it as the phase before has left it (`State.Draws`). However the steps of a scan are interleaved, a
semaphore with all permits free can serve them (`Workflow.Path.draws`), and once all that was
submitted is decided its permits are all free again (`State.Draws.idle`). So it is with every run of
a scan, in whatever way that ends: what it leaves behind is dismissed (`Workflow.exists_leaves`).
-/

set_option autoImplicit false

namespace VulnScan.Execution

variable {S σ α : Type}

namespace Batch

/-- From the semaphore `s`, the executions of the batch come to where it is at the moment `m`, and
they leave the semaphore as `s'`. -/
def Draws (sem : Semaphore S) (e : Executor) (m : Moment σ) (b : Batch σ α) (s s' : S) : Prop :=
  ∃ x : Shared S α, Shared.Leads sem { permits := s } x ∧ b.Mirrors e m x ∧ x.permits = s'

/-- All that was submitted is decided. -/
def Settled (b : Batch σ α) : Prop := ∀ p ∈ b.phases, ∃ d, p = .decided d

theorem Done.settled {b : Batch σ α} (done : b.Done) : b.Settled := by
  obtain ⟨ds, hds⟩ := done
  intro p hp
  rw [hds.phases] at hp
  obtain ⟨d, -, rfl⟩ := List.mem_map.1 hp
  exact ⟨d, rfl⟩

variable {sem : Semaphore S} {slots : Nat} {e : Executor} {m m' : Moment σ} {b b' : Batch σ α}
  {s s' : S}

/-- A batch of which nothing was submitted leaves the semaphore as it is. -/
theorem draws_unsubmitted (sem : Semaphore S) (e : Executor) (m : Moment σ)
    (tasks : List (Task σ α)) (s : S) : Batch.Draws sem e m { tasks } s s := by
  obtain ⟨x, leads, permits, mirrors⟩ := Batch.exists_mirrors sem e m tasks s
  exact ⟨x, leads, mirrors, permits⟩

namespace Draws

/-- What happens outside the batch is nothing to its permits. -/
theorem moment (draws : b.Draws sem e m s s') (stays : m.cancelled = true → m'.cancelled = true) :
    b.Draws sem e m' s s' := by
  obtain ⟨x, leads, mirrors, permits⟩ := draws
  cases hm' : m'.cancelled with
  | false =>
      have hm : ¬ m.cancelled = true := fun h => Bool.noConfusion ((stays h).symm.trans hm')
      have hx := mirrors.cancelled.not.1 hm
      exact ⟨x, leads, ⟨mirrors.members, by simp [hm', hx], mirrors.limited⟩, permits⟩
  | true =>
      exact ⟨_, leads.step (.cancels e.token), ⟨mirrors.members, by simp [hm'], mirrors.limited⟩,
        permits⟩

/-- Whatever step the batch takes, the semaphore can serve it. -/
theorem step {deadline : Option Nat} {h : History σ α} (draws : b.Draws sem e m s s')
    (fifo : sem.Fifo) (idle : sem.Idle slots s)
    (hdeadline : deadline.isSome = true → e.deadline.isSome = true)
    (step : b.Step deadline (b.taken < slots) m h m' b') : ∃ s'', b'.Draws sem e m' s s'' := by
  obtain ⟨x, leads, mirrors, -⟩ := draws
  obtain ⟨y, hy, mirrors'⟩ :=
    mirrors.step fifo (leads.sound fifo (Shared.sound_of_idle idle [])) hdeadline step
  exact ⟨_, y, leads.trans hy, mirrors', rfl⟩

/-- Once all executions are decided, all permits are free again. -/
theorem idle (draws : b.Draws sem e m s s') (fifo : sem.Fifo) (idle : sem.Idle slots s)
    (settled : b.Settled) : sem.Idle slots s' := by
  obtain ⟨x, leads, mirrors, rfl⟩ := draws
  refine (leads.sound fifo (Shared.sound_of_idle idle [])).idle_of_done fun member hmember => ?_
  rw [mirrors.members] at hmember
  obtain ⟨p, hp, rfl⟩ := List.mem_map.1 hmember
  obtain ⟨d, rfl⟩ := settled p hp
  exact ⟨d.resolution, rfl⟩

end Draws

end Batch

end VulnScan.Execution

namespace VulnScan.Scan

open Execution (Batch Course Executor Moment Semaphore Signals)

variable {S σ : Type}

/-! ## One phase after the other -/

/-- From the semaphore `s`, the executions of all phases come to where the scan is, and they leave
the semaphore as `s'`: every phase finds what the one before has left. -/
inductive State.Draws (sem : Semaphore S) (e : Executor) (x : State σ) (s s' : S) : Prop
  | mk {s₁ s₂ : S} (scanning : x.scanning.Draws sem e x.moment s s₁)
      (identifying : x.identifying.Draws sem e x.moment s₁ s₂)
      (detecting : x.detecting.Draws sem e x.moment s₂ s')

/-- All that the scan has submitted is decided. -/
structure State.Settled (x : State σ) : Prop where
  scanning : x.scanning.Settled
  identifying : x.identifying.Settled
  detecting : x.detecting.Settled

section

variable {sem : Semaphore S} {slots : Nat} {e : Executor} {x : State σ} {s s' : S}

/-- Once all that the scan has submitted is decided, all permits are free again. -/
theorem State.Draws.idle (draws : x.Draws sem e s s') (fifo : sem.Fifo) (idle : sem.Idle slots s)
    (settled : x.Settled) : sem.Idle slots s' := by
  obtain ⟨scanning, identifying, detecting⟩ := draws
  have hscanning := scanning.idle fifo idle settled.scanning
  have hidentifying := identifying.idle fifo hscanning settled.identifying
  exact detecting.idle fifo hidentifying settled.detecting

end

namespace Workflow

variable {w : Workflow σ} {target : Net.Endpoint} {sem : Semaphore S} {token : Nat}
  {x x' : State σ} {h : List (Event σ)} {s s' : S}

/-- What the executions of the scan are set up with. -/
def executor (w : Workflow σ) (token : Nat) : Executor := ⟨w.pool.deadline, token⟩

theorem executor_limited (w : Workflow σ) (token : Nat) :
    w.limit.isSome = true → (w.executor token).deadline.isSome = true := by
  simp [limit, executor]

/-- Whatever step the scan takes, the semaphore can serve it: only the batch of one phase can move,
those of the phases before it have dropped their permits, and those after it are empty. -/
theorem Step.draws (step : w.Step target x h x') (fifo : sem.Fifo)
    (stands : w.Stands target x.control x.scanning x.identifying x.detecting)
    (idle : sem.Idle w.pool.slots s) (draws : x.Draws sem (w.executor token) s s') :
    ∃ s'', x'.Draws sem (w.executor token) s s'' := by
  obtain ⟨hscanning, hidentifying, hdetecting⟩ := stands.done_or_waits
  obtain ⟨start, moment, control, b₁, b₂, b₃⟩ := x
  obtain ⟨scanning, identifying, detecting⟩ := draws
  have hlimited := w.executor_limited token
  cases step with
  | passes now => exact ⟨_, scanning.moment id, identifying.moment id, detecting.moment id⟩
  | called =>
      exact ⟨_, scanning.moment fun _ => rfl, identifying.moment fun _ => rfl,
        detecting.moment fun _ => rfl⟩
  | scanning step =>
      obtain ⟨t, control⟩ := hscanning.resolve_left fun done => done.not_step step
      cases control
      cases stands
      simp only [State.taken, Batch.done_empty.taken_eq_zero, Nat.add_zero] at step
      obtain ⟨s₁, scanning'⟩ := scanning.step fifo idle hlimited step
      exact ⟨s₁, scanning', Batch.draws_unsubmitted _ _ _ [] _, Batch.draws_unsubmitted _ _ _ [] _⟩
  | identifying step =>
      obtain ⟨t, ports, control⟩ := hidentifying.resolve_left fun done => done.not_step step
      cases control
      cases stands with
      | identifying scanned tasks remembers =>
          have done := scanned.done
          simp only [State.taken, done.taken_eq_zero, Batch.done_empty.taken_eq_zero,
            Nat.zero_add, Nat.add_zero] at step
          have hidle := scanning.idle fifo idle done.settled
          obtain ⟨s₂, identifying'⟩ := identifying.step fifo hidle hlimited step
          exact ⟨s₂, scanning.moment step.stays_cancelled, identifying',
            Batch.draws_unsubmitted _ _ _ [] _⟩
  | detecting step =>
      obtain ⟨t, survey, control⟩ := hdetecting.resolve_left fun done => done.not_step step
      cases control
      cases stands with
      | detecting scanned identified listed tasks remembers =>
          have done₁ := scanned.done
          have done₂ := identified.done
          simp only [State.taken, done₁.taken_eq_zero, done₂.taken_eq_zero, Nat.zero_add] at step
          have hidle := identifying.idle fifo (scanning.idle fifo idle done₁.settled) done₂.settled
          obtain ⟨s₃, detecting'⟩ := detecting.step fifo hidle hlimited step
          exact ⟨s₃, scanning.moment step.stays_cancelled, identifying.moment step.stays_cancelled,
            detecting'⟩
  | inspects control first traced =>
      cases control
      cases stands
      exact ⟨s, Batch.draws_unsubmitted _ _ _ _ _, Batch.draws_unsubmitted _ _ _ [] _,
        Batch.draws_unsubmitted _ _ _ [] _⟩
  | identifies control reported uncancelled traced =>
      cases control
      cases stands
      exact ⟨_, scanning, Batch.draws_unsubmitted _ _ _ _ _, Batch.draws_unsubmitted _ _ _ [] _⟩
  | surveys control joined uncancelled => exact ⟨_, scanning, identifying, detecting⟩
  | detects control uncancelled listed traced =>
      cases control
      cases stands
      -- the selection may have taken time, but the scan was not cancelled before it
      have stays : ∀ {m : Moment σ}, moment.cancelled = true → m.cancelled = true :=
        fun h => Bool.noConfusion (h.symm.trans uncancelled)
      exact ⟨_, scanning.moment stays, identifying.moment stays,
        Batch.draws_unsubmitted _ _ _ _ _⟩
  | givesUp control uncancelled listed =>
      have stays : ∀ {m : Moment σ}, moment.cancelled = true → m.cancelled = true :=
        fun h => Bool.noConfusion (h.symm.trans uncancelled)
      exact ⟨_, scanning.moment stays, identifying.moment stays, detecting.moment stays⟩
  | breaksOff control uncancelled m =>
      have stays : ∀ {m : Moment σ}, moment.cancelled = true → m.cancelled = true :=
        fun h => Bool.noConfusion (h.symm.trans uncancelled)
      exact ⟨_, scanning.moment stays, identifying.moment stays, detecting.moment stays⟩
  | fails fails => exact ⟨_, scanning, identifying, detecting⟩
  | concludes control joined verdict traced => exact ⟨_, scanning, identifying, detecting⟩

/-- **A free semaphore can serve a scan**, however its steps are interleaved. -/
theorem Path.draws {start : Time.Timestamp} {m : Moment σ}
    (path : w.Path target { start, moment := m } h x) (fifo : sem.Fifo)
    (idle : sem.Idle w.pool.slots s) (token : Nat) :
    ∃ s', x.Draws sem (w.executor token) s s' := by
  induction path with
  | start =>
      exact ⟨s, Batch.draws_unsubmitted _ _ _ [] _, Batch.draws_unsubmitted _ _ _ [] _,
        Batch.draws_unsubmitted _ _ _ [] _⟩
  | step path step ih =>
      obtain ⟨s₁, draws⟩ := ih
      exact step.draws fifo (path.stands .begun) idle draws

/-! ## What a scan leaves behind -/

/-- All executions of a batch that the scan hosts can be dismissed, once the scan is cancelled. -/
theorem Hosts.exists_settled {α : Type} {put : Moment σ → Batch σ α → State σ}
    {tell : Nat × Execution.Happening σ α → Event σ} (hosts : w.Hosts target put tell)
    (m : Moment σ) (b : Batch σ α) :
    ∃ h m' b', w.Path target (put m b) h (put m' b') ∧ b'.Settled := by
  obtain ⟨k, trail⟩ := Batch.Trail.cancel w.pool.slots w.limit (Nat.le_refl m.now) b.tasks b.turn
    b.phases
  refine ⟨_, _, _, (hosts.polls trail).trail.path, fun p hp => ?_⟩
  obtain ⟨d, -, rfl⟩ := List.mem_map.1 hp
  exact ⟨d, rfl⟩

/-- Wherever a scan is, it can come to where all that it has submitted is decided. -/
theorem Stands.exists_settled
    (stands : w.Stands target x.control x.scanning x.identifying x.detecting) :
    ∃ h x', w.Path target x h x' ∧ x'.Settled := by
  obtain ⟨hscanning, hidentifying, hdetecting⟩ := stands.done_or_waits
  obtain ⟨start, moment, control, b₁, b₂, b₃⟩ := x
  -- only the batch that the scan waits for may be undecided
  rcases hscanning with done₁ | ⟨t, rfl⟩
  · rcases hidentifying with done₂ | ⟨t, ports, rfl⟩
    · rcases hdetecting with done₃ | ⟨t, survey, rfl⟩
      · exact ⟨[], _, .start, done₁.settled, done₂.settled, done₃.settled⟩
      · obtain ⟨h, m', b', path, settled⟩ := (w.hosts_detecting target
          ⟨start, moment, .detecting t survey, b₁, b₂, b₃⟩ nofun done₁ done₂).exists_settled moment
          b₃
        exact ⟨h, _, path, done₁.settled, done₂.settled, settled⟩
    · cases stands with
      | identifying scanned tasks remembers =>
          obtain ⟨h, m', b', path, settled⟩ := (w.hosts_identifying target
            ⟨start, moment, .identifying t ports, b₁, b₂, {}⟩ nofun done₁
            Batch.done_empty).exists_settled moment b₂
          exact ⟨h, _, path, done₁.settled, settled, Batch.done_empty.settled⟩
  · cases stands with
    | scanning tasks remembers =>
        obtain ⟨h, m', b', path, settled⟩ := (w.hosts_scanning target
          ⟨start, moment, .scanning t, b₁, {}, {}⟩ nofun Batch.done_empty
          Batch.done_empty).exists_settled moment b₁
        exact ⟨h, _, path, settled, Batch.done_empty.settled, Batch.done_empty.settled⟩

/-- A scan from `m` that takes the course `c` gets its permits from the semaphore `s`, and when all
that it has submitted is decided, be it after the scan was given up, the semaphore is `s'`. -/
inductive Leaves (w : Workflow σ) (sem : Semaphore S) (token : Nat) (target : Net.Endpoint)
    (m : Moment σ) (c : Course σ (Tracer × Finding.Results)) (s s' : S) : Prop
  | mk {h h' : List (Event σ)} {x x' : State σ}
      (path : w.Path target { start := w.clock m.world, moment := m } h x) (shows : Shows x c)
      (rest : w.Path target x h' x') (settled : x'.Settled)
      (draws : x'.Draws sem (w.executor token) s s')

/-- A scan leaves all permits free, if it has found them so. -/
theorem Leaves.idle {m : Moment σ} {c : Course σ (Tracer × Finding.Results)}
    (leaves : w.Leaves sem token target m c s s') (fifo : sem.Fifo)
    (idle : sem.Idle w.pool.slots s) : sem.Idle w.pool.slots s' := by
  obtain ⟨path, shows, rest, settled, draws⟩ := leaves
  exact draws.idle fifo idle settled

theorem Path.trans {x₀ : State σ} {h' : List (Event σ)} (path : w.Path target x₀ h x)
    (rest : w.Path target x h' x') : w.Path target x₀ (h ++ h') x' := by
  induction rest with
  | start => rwa [List.append_nil]
  | step path step ih =>
      rw [← List.append_assoc]
      exact .step ih step

/-- **Every run of a scan can be served, and leaves all permits free**, in whatever way it ends. -/
theorem exists_leaves (w : Workflow σ) (fifo : sem.Fifo) (idle : sem.Idle w.pool.slots s)
    (token : Nat) (target : Net.Endpoint) (signals : Signals) (m : Moment σ) :
    ∃ s', w.Leaves sem token target m (w.run target signals m) s s' := by
  obtain ⟨h, x, path, shows⟩ := w.run_path target signals m
  obtain ⟨h', x', rest, settled⟩ := (path.stands .begun).exists_settled
  obtain ⟨s', draws⟩ := (path.trans rest).draws fifo idle token
  exact ⟨s', path, shows, rest, settled, draws⟩

end Workflow

end VulnScan.Scan
