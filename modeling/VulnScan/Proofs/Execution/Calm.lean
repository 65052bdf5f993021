import VulnScan.Proofs.Execution.Clock
import VulnScan.Proofs.Execution.Parts
import VulnScan.Proofs.Execution.Records

/-! # Runs without their cancellation

What would a run have been like had nobody cancelled it? An activity without its calls for a
cancellation (`Activity.calm`) does what it did before and at the same times, and so does a pool
of such activities: an event leads to the same with and without the calls (`Phase.advance_calm`),
and the next event is the same (`Jobs.next_calm`). So up to the event at which it is cancelled a
run goes like the one that nobody cancels (`Jobs.run_cut`).
-/

set_option autoImplicit false

namespace VulnScan.Execution

variable {σ α : Type}

/-! ## Activities -/

namespace Activity

/-- The activity without its calls for a cancellation. -/
def calm : Activity σ α → Activity σ α
  | .finish o => .finish o
  | .forever => .forever
  | .wait d next => .wait d next.calm
  | .touch change next => .touch change fun now w => (next now w).calm
  | .cancel next => next.calm

/-- Where an activity stops, without the calls that are left. -/
def Stop.calm : Stop σ α → Stop σ α
  | .ended o => .ended o
  | .idle => .idle
  | .waiting d next => .waiting d next.calm

/-- Without its calls an activity runs as before, and cancels nothing. -/
theorem settle_calm (a : Activity σ α) (now : Nat) (w : σ) (c c' : Bool) :
    a.calm.settle now w c = ((a.settle now w c').1.calm, (a.settle now w c').2.1, c) := by
  induction a generalizing w c c' with
  | finish o => rfl
  | forever => rfl
  | wait d next ih =>
      cases d with
      | zero => exact ih w c c'
      | succ d => rfl
  | touch change next ih => exact ih now w (change now w) c c'
  | cancel next ih => exact ih w c true

/-- An activity that never calls for a cancellation has no calls to leave out. -/
theorem calm_eq_self {a : Activity σ α} (h : ¬ a.MayCancel) : a.calm = a := by
  induction a with
  | finish o => rfl
  | forever => rfl
  | wait d next ih => rw [calm, ih fun hn => h (hn.of_next (.wait d next))]
  | touch change next ih =>
      rw [calm]
      congr 1
      funext now w
      exact ih now w fun hn => h (hn.of_next (.touch change next now w))
  | cancel next ih => exact absurd ⟨next, .refl _⟩ h

end Activity

/-- The task without its calls for a cancellation. -/
def Task.calm (t : Task σ α) : Task σ α := { t with activity := t.activity.calm }

/-- The moment without the cancellation. -/
def Moment.calm (m : Moment σ) : Moment σ := { m with cancelled := false }

theorem Moment.calm_eq_self {m : Moment σ} (hm : m.cancelled = false) : m.calm = m := by
  rw [calm, ← hm]

/-! ## Jobs -/

namespace Phase

/-- The job without its calls for a cancellation. -/
def calm : Phase σ α → Phase σ α
  | .queued submitted job => .queued submitted job.calm
  | .waiting since timer next limit => .waiting since timer next.calm limit
  | .idle since limit => .idle since limit
  | .decided d => .decided d

@[simp] theorem isRunning_calm (p : Phase σ α) : p.calm.isRunning = p.isRunning := by
  cases p <;> rfl

@[simp] theorem isDecided_calm (p : Phase σ α) : p.calm.isDecided = p.isDecided := by
  cases p <;> rfl

@[simp] theorem due_calm (p : Phase σ α) (now : Nat) (hasFree : Bool) (i : Nat) :
    p.calm.due now hasFree i = p.due now hasFree i := by
  cases p with
  | waiting since timer next limit => cases limit <;> rfl
  | queued submitted job => rfl
  | idle since limit => rfl
  | decided d => rfl

theorem calm_eq_decided {p : Phase σ α} {d : Decision α} :
    p.calm = .decided d ↔ p = .decided d := by
  cases p <;> simp [calm]

theorem countP_isRunning_map_calm (ps : List (Phase σ α)) :
    (ps.map calm).countP isRunning = ps.countP isRunning := by
  rw [List.countP_map]
  exact List.countP_congr fun p _ => by rw [Function.comp_apply, isRunning_calm]

end Phase

theorem after_calm (since now turn : Nat) (limit : Option Timer) (stop : Activity.Stop σ α) :
    after since now turn limit stop.calm = (after since now turn limit stop).calm := by
  cases stop with
  | ended o => rfl
  | idle =>
      simp only [Activity.Stop.calm, after]
      split <;> rfl
  | waiting d next =>
      simp only [Activity.Stop.calm, after]
      split <;> rfl

/-- An event leads to the same without the calls for a cancellation. -/
theorem Phase.advance_calm (p : Phase σ α) (deadline : Option Nat) (turn : Nat) (m : Moment σ) :
    p.calm.advance deadline turn m.calm =
      (p.advance deadline turn m).map fun q => (q.1.calm, q.2.calm) := by
  cases p with
  | queued submitted job =>
      rw [calm, advance, advance,
        job.settle_calm m.calm.now m.calm.world m.calm.cancelled m.cancelled]
      simp only [after_calm]
      rfl
  | waiting since timer next limit =>
      by_cases hdue : timer.time ≤ m.now
      · rw [calm, advance, advance, if_pos hdue, if_pos (show timer.time ≤ m.calm.now from hdue),
          next.settle_calm m.calm.now m.calm.world m.calm.cancelled m.cancelled]
        simp only [after_calm]
        rfl
      · rw [calm, advance, advance, if_neg hdue, if_neg (show ¬ timer.time ≤ m.calm.now from hdue)]
        rfl
  | idle since limit => rfl
  | decided d => rfl

/-! ## Pools -/

namespace Jobs

/-- The jobs without their calls for a cancellation, at a moment without it. -/
def calm (s : Jobs σ α) : Jobs σ α := ⟨s.moment.calm, s.turn, s.phases.map Phase.calm⟩

theorem taken_calm (s : Jobs σ α) : s.calm.taken = s.taken :=
  Phase.countP_isRunning_map_calm s.phases

theorem firstDue_map_calm (now : Nat) (hasFree : Bool) (i : Nat) (ps : List (Phase σ α)) :
    firstDue now hasFree i (ps.map Phase.calm) = firstDue now hasFree i ps := by
  induction ps generalizing i with
  | nil => rfl
  | cons p ps ih =>
      rw [List.map_cons]
      simp only [firstDue, Phase.due_calm, ih]

/-- The next event is the same without the calls for a cancellation. -/
theorem next_calm (slots : Nat) (s : Jobs σ α) : s.calm.next slots = s.next slots := by
  rw [next, taken_calm]
  exact firstDue_map_calm s.moment.now (s.taken < slots) 0 s.phases

theorem decisions?_map_calm (ps : List (Phase σ α)) :
    decisions? (ps.map Phase.calm) = decisions? ps := by
  have hiff : ∀ ds, decisions? (ps.map Phase.calm) = some ds ↔ decisions? ps = some ds := by
    intro ds
    rw [decisions?_eq_some, decisions?_eq_some]
    induction ps generalizing ds with
    | nil => rfl
    | cons p ps ih =>
        cases ds with
        | nil => simp
        | cons d ds =>
            rw [List.map_cons, List.map_cons, List.cons.injEq, List.cons.injEq, ih,
              Phase.calm_eq_decided]
  exact Option.ext hiff

/-- An event of the pool leads to the same without the calls for a cancellation. -/
theorem advance_calm (s : Jobs σ α) (deadline : Option Nat) (time i : Nat) :
    s.calm.advance deadline time i = (s.advance deadline time i).map calm := by
  unfold advance
  have hat : s.calm.phases[i]? = s.phases[i]?.map Phase.calm := List.getElem?_map
  rw [hat]
  cases s.phases[i]? with
  | none => rfl
  | some p =>
      have hadvance := p.advance_calm deadline s.turn { s.moment with now := time }
      simp only [Option.map_some]
      rw [show ({ s.calm.moment with now := time } : Moment σ) =
        Moment.calm { s.moment with now := time } from rfl, show s.calm.turn = s.turn from rfl,
        hadvance, Option.map_map, Option.map_map]
      congr 1
      funext q
      simp only [Function.comp_apply, calm, List.map_set]

/-- From one state a pool that nobody breaks into comes to another. -/
inductive Goes (slots : Nat) (deadline : Option Nat) : Jobs σ α → Jobs σ α → Prop
  | here {s : Jobs σ α} : Goes slots deadline s s
  | event {s s₁ s' : Jobs σ α} {d : Due} {i : Nat} (undecided : decisions? s.phases = none)
      (uncancelled : s.moment.cancelled = false) (next : s.next slots = some (d, i))
      (advances : s.advance deadline d.time i = some s₁) (rest : Goes slots deadline s₁ s') :
      Goes slots deadline s s'

variable {slots : Nat} {deadline : Option Nat} {signals : Signals} {s s' : Jobs σ α}

theorem Goes.run_eq (goes : s.Goes slots deadline s') :
    s.run slots deadline {} = s'.run slots deadline {} := by
  induction goes with
  | here => rfl
  | event undecided uncancelled next advances rest ih =>
      rw [run_eq_of_advance undecided uncancelled next rfl advances, ih]

/-- A job that is decided stays as it is until the end of the run. -/
theorem Leads.stays_decided {c : Course σ (List (Decision α))}
    (h : s.Leads slots deadline signals c) {i : Nat} {d : Decision α}
    (at_i : s.phases[i]? = some (.decided d)) {ds : List (Decision α)} {m : Moment σ}
    (hc : c = .reached ds m) : ds[i]? = some d := by
  induction h with
  | @decided s ds' all =>
      cases hc
      rw [all, List.getElem?_map, Option.map_eq_some_iff] at at_i
      obtain ⟨d', hd', heq⟩ := at_i
      cases heq
      exact hd'
  | cancelled undecided called =>
      cases hc
      rw [List.getElem?_map, at_i]
      rfl
  | abandoned called => cases hc
  | stuck undecided uncancelled uncalled none => cases hc
  | @event s due k p q m c uncancelled next quiet at_k moves rest ih =>
      have hne : k ≠ i := by
        rintro rfl
        rw [at_i] at at_k
        cases at_k
        cases moves
      exact ih (by rw [List.getElem?_set_ne hne]; exact at_i) hc

/-- **A run that is cancelled goes, up to then, like the run that nobody cancels.** What it comes
to is that the jobs which were not decided by then are dismissed. -/
theorem run_cut (quiet : signals.abandonAt = none)
    (cancelled : (s.run slots deadline signals).final.cancelled = true) :
    ∃ cut t : Jobs σ α, s.run slots deadline signals = cut.cancel ∧
      s.calm.Goes slots deadline t ∧ t.phases = cut.phases.map Phase.calm := by
  cases hs : s.moment.cancelled with
  | true => exact ⟨s, s.calm, run_of_cancelled hs, .here, rfl⟩
  | false =>
      -- along the events: each leads to the same in the run that nobody cancels, until a signal
      -- or an event cancels the scan
      revert cancelled
      fun_induction Jobs.run slots deadline signals s with
      | case1 s ds all =>
          intro cancelled
          rw [show s.moment.cancelled = true from cancelled] at hs
          cases hs
      | case2 s undecided called =>
          rw [called] at hs
          cases hs
      | case3 s undecided uncancelled next t first =>
          have := Signals.isSome_of_first_abandoned first
          rw [quiet] at this
          cases this
      | case4 s undecided uncancelled next t first => exact fun _ => ⟨_, s.calm, rfl, .here, rfl⟩
      | case5 s undecided uncancelled next first none =>
          intro cancelled
          rw [show s.moment.cancelled = true from cancelled] at hs
          cases hs
      | case6 s undecided uncancelled next first due i some advances =>
          intro cancelled
          rw [show s.moment.cancelled = true from cancelled] at hs
          cases hs
      | case7 s undecided uncancelled next first due i hnext s' advances _ ih =>
          intro cancelled
          have hgoes : ∀ {t}, s'.calm.Goes slots deadline t → s.calm.Goes slots deadline t := by
            refine fun rest => .event (s := s.calm) ?_ rfl ((next_calm slots s).trans hnext) ?_ rest
            · exact (decisions?_map_calm s.phases).trans undecided
            · rw [advance_calm, advances]
              rfl
          cases hs' : s'.moment.cancelled with
          | true => exact ⟨s', s'.calm, run_of_cancelled hs', hgoes .here, rfl⟩
          | false =>
              obtain ⟨cut, t, hrun, goes, hphases⟩ := ih hs' cancelled
              exact ⟨cut, t, hrun, hgoes goes, hphases⟩

end Jobs

end VulnScan.Execution
