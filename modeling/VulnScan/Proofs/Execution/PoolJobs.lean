import Mathlib.Data.List.Forall2
import VulnScan.Proofs.Execution.PoolRun
import VulnScan.Proofs.Execution.View

/-! # What a run of a pool makes of its jobs

Two invariants are carried through a run. Every job stays at a part of its activity
(`Phase.Traces`), so that every decision accounts for its job (`Jobs.Leads.accounts`), whatever
order the jobs are run in. And a job with a private view of the world (`Jobs.Private`) goes on from
where it stopped, because all others leave that view alone (`Jobs.Leads.yields`).
-/

set_option autoImplicit false

namespace VulnScan.Execution

variable {σ α : Type}

/-! ## Accounts of decisions -/

theorem Resolution.ofOutcome_injective : Function.Injective (@Resolution.ofOutcome α) := by
  intro o o' h
  cases o <;> cases o' <;> cases h <;> rfl

/-- How a job of activity `a` can be decided by itself. -/
inductive Decided (deadline : Option Nat) (a : Activity σ α) : Resolution α → Prop
  | ended {o : Outcome α} : a.MayEnd o → Decided deadline a (.ofOutcome o)
  | timedOut : deadline.isSome → Decided deadline a .timedOut

/-- How a job of activity `a` can be decided in a run after which the scan is or is not
cancelled. -/
inductive Accounts (deadline : Option Nat) (cancelled : Bool) (a : Activity σ α) :
    Resolution α → Prop
  | decided {r : Resolution α} : Decided deadline a r → Accounts deadline cancelled a r
  | cancelled : cancelled = true → Accounts deadline cancelled a .cancelled

theorem Accounts.mayEnd {deadline : Option Nat} {cancelled : Bool} {a : Activity σ α}
    {r : Resolution α} {o : Outcome α} (h : Accounts deadline cancelled a r)
    (hr : r = .ofOutcome o) : a.MayEnd o := by
  cases h with
  | decided h =>
      cases h with
      | ended ends => exact Resolution.ofOutcome_injective hr ▸ ends
      | timedOut h => cases o <;> cases hr
  | cancelled h => cases o <;> cases hr

/-- A job is at a part of its activity, and has a limit if there is a deadline. -/
def Phase.Traces (deadline : Option Nat) (a : Activity σ α) : Phase σ α → Prop
  | .queued _ b => b.Part a
  | .waiting _ _ b limit => b.Part a ∧ limit.isSome = deadline.isSome
  | .idle _ limit => a.MayHang ∧ limit.isSome = deadline.isSome
  | .decided d => Decided deadline a d.resolution

theorem traces_after {deadline : Option Nat} {a b : Activity σ α} {now since turn : Nat}
    {limit : Option Timer} {w w' : σ} {c c' : Bool} {stop : Activity.Stop σ α} (hb : b.Part a)
    (hl : limit.isSome = deadline.isSome) (hs : b.settle now w c = (stop, w', c')) :
    (after since now turn limit stop).Traces deadline a := by
  have hstop := (Activity.part_settle hs).1
  have htimeout : limit.any (·.time ≤ now) = true → Decided deadline a .timedOut := by
    intro h
    refine .timedOut ?_
    rw [← hl]
    cases limit with
    | none => simp at h
    | some l => rfl
  cases stop with
  | ended o => exact .ended (hstop.trans hb)
  | idle =>
      simp only [after]
      split
      · next h => exact htimeout h
      · exact ⟨hstop.trans hb, hl⟩
  | waiting d next =>
      simp only [after]
      split
      · next h => exact htimeout h
      · exact ⟨hstop.trans hb, hl⟩

/-- An event takes a job from one part of its activity to a later one. -/
theorem Phase.Traces.moves {deadline : Option Nat} {turn : Nat} {m m' : Moment σ} {p q : Phase σ α}
    {a : Activity σ α} (h : p.Traces deadline a) (hm : p.Moves deadline turn m q m') :
    q.Traces deadline a ∧ (m'.cancelled = true → m.cancelled = true ∨ a.MayCancel) := by
  have hcancel : ∀ {b : Activity σ α} {stop w c}, b.Part a →
      b.settle m.now m.world m.cancelled = (stop, w, c) →
      c = true → m.cancelled = true ∨ a.MayCancel := by
    intro b stop w c hb hs hc
    exact ((Activity.part_settle hs).2 hc).imp_right fun ⟨next, hn⟩ => ⟨next, hn.trans hb⟩
  cases hm with
  | starts hs => exact ⟨traces_after h (by simp) hs, hcancel h hs⟩
  | resumes _ _ hs => exact ⟨traces_after h.1 h.2 hs, hcancel h.1 hs⟩
  | expires _ _ => exact ⟨.timedOut (by rw [← h.2]; rfl), .inl⟩
  | expiresIdle _ => exact ⟨.timedOut (by rw [← h.2]; rfl), .inl⟩

section

variable {β γ : Type} {R : β → γ → Prop} {as : List β} {bs : List γ} {i : Nat} {b : γ}

theorem exists_of_forall₂_getElem? (h : List.Forall₂ R as bs) (hb : bs[i]? = some b) :
    ∃ a ∈ as, as[i]? = some a ∧ R a b := by
  induction h generalizing i with
  | nil => simp at hb
  | cons hab _ ih =>
      cases i with
      | zero =>
          simp only [List.getElem?_cons_zero, Option.some.injEq] at hb
          subst hb
          exact ⟨_, List.mem_cons_self, rfl, hab⟩
      | succ i =>
          obtain ⟨a, ha, hi, hR⟩ := ih (by simpa using hb)
          exact ⟨a, List.mem_cons_of_mem _ ha, by simpa using hi, hR⟩

theorem forall₂_set (h : List.Forall₂ R as bs) (hb : ∀ a, as[i]? = some a → R a b) :
    List.Forall₂ R as (bs.set i b) := by
  induction h generalizing i with
  | nil => exact .nil
  | cons hab hrest ih =>
      cases i with
      | zero => exact .cons (hb _ rfl) hrest
      | succ i => exact .cons hab (ih fun a ha => hb a (by simpa using ha))

/-- What stands at a place of a list one of whose entries was replaced. -/
theorem getElem?_set_cases {l : List β} {k : Nat} {a a' : β} (h : (l.set i a)[k]? = some a') :
    (k = i ∧ a' = a) ∨ (k ≠ i ∧ l[k]? = some a') := by
  by_cases hk : k = i
  · subst hk
    rw [List.getElem?_set_self'] at h
    obtain ⟨_, -, rfl⟩ := Option.map_eq_some_iff.1 h
    exact .inl ⟨rfl, rfl⟩
  · rw [List.getElem?_set_ne (Ne.symm hk)] at h
    exact .inr ⟨hk, h⟩

end

/-- A decision that is made by a cancellation leaves the earlier ones as they are. -/
theorem Phase.Traces.cancel {deadline : Option Nat} {a : Activity σ α} {p : Phase σ α}
    (h : p.Traces deadline a) (now : Nat) :
    Accounts deadline true a (p.cancel now).resolution := by
  cases p with
  | queued submitted b => exact .cancelled rfl
  | waiting since timer next limit => exact .cancelled rfl
  | idle since limit => exact .cancelled rfl
  | decided d => exact .decided h

/-- **Every decision accounts for its job.** A run decides every job by an end of its activity, by
its deadline or by a cancellation, in the order of the jobs. It breaks off only if it is abandoned
from outside, or if a job without deadline never ends. -/
theorem Jobs.Leads.accounts {slots : Nat} {deadline : Option Nat} {signals : Signals}
    {s : Jobs σ α} {c : Course σ (List (Decision α))} {as : List (Activity σ α)}
    (h : s.Leads slots deadline signals c) (hslots : 0 < slots)
    (traces : List.Forall₂ (fun a p => p.Traces deadline a) as s.phases) :
    c.Meets
      (fun ds m =>
        List.Forall₂ (fun a d => Accounts deadline m.cancelled a d.resolution) as ds ∧
        (m.cancelled = true →
          s.moment.cancelled = true ∨ signals.cancelAt.isSome ∨ ∃ a ∈ as, a.MayCancel) ∧
        (signals.UpToDate s.moment → signals.UpToDate m))
      (signals.Excuse (deadline = none ∧ ∃ a ∈ as, a.MayHang) fun _ => False) := by
  induction h with
  | decided all =>
      refine ⟨?_, .inl, id⟩
      rw [all, List.forall₂_map_right_iff] at traces
      exact traces.imp fun a d hd => .decided hd
  | cancelled undecided called =>
      refine ⟨?_, fun _ => called.imp_right .inl, fun _ t ht => .inl rfl⟩
      rw [List.forall₂_map_right_iff]
      exact traces.imp fun a p hp => hp.cancel _
  | abandoned called => exact called
  | @stuck s undecided uncancelled uncalled none =>
      -- the job that never goes on has no limit, so there is no deadline
      obtain ⟨since, hidle⟩ := exists_idle_of_next_eq_none hslots undecided none
      obtain ⟨i, hi⟩ := List.mem_iff_getElem?.1 hidle
      obtain ⟨a, ha, -, hhang, hlimit⟩ := exists_of_forall₂_getElem? traces hi
      refine ⟨uncancelled, uncalled, ?_, a, ha, hhang⟩
      simpa using hlimit.symm
  | @event s due i p q m c uncancelled next quiet at_i moves rest ih =>
      obtain ⟨a, ha, hi, hp⟩ := exists_of_forall₂_getElem? traces at_i
      obtain ⟨hq, hcancel⟩ := hp.moves moves
      refine (ih (forall₂_set traces fun a' ha' => ?_)).imp ?_ fun _ => id
      · rw [hi] at ha'
        cases ha'
        exact hq
      · rintro ds m' - ⟨haccounts, hcancelled, hupToDate⟩
        refine ⟨haccounts, fun hm' => ?_, fun _ => hupToDate fun t ht => .inr ?_⟩
        · -- who cancels the rest of the run may be the job that moved
          rcases hcancelled hm' with hm | h
          · exact (hcancel hm).imp_right fun hc => .inr ⟨a, ha, hc⟩
          · exact .inr h
        · -- a signal by the time of the event would have come first
          rw [moves.now_eq]
          exact Nat.le_of_lt (Signals.lt_of_first_eq_none quiet ht)

/-! ## Private views -/

variable {γ : Type} {view : σ → γ} {Q : Outcome α → Prop}

/-- The rest of a job never changes what the world shows. -/
def Phase.Keeps (view : σ → γ) : Phase σ α → Prop
  | .queued _ a | .waiting _ _ a _ => a.Keeps view
  | .idle _ _ | .decided _ => True

/-- The outcome that a job comes to by itself meets `Q`, if its view is `b` now. -/
def Phase.Yields (view : σ → γ) (Q : Outcome α → Prop) (b : γ) : Phase σ α → Prop
  | .queued _ a | .waiting _ _ a _ => a.Yields view (fun o _ => Q o) b
  | .idle _ _ => True
  | .decided d => ∀ o, d.resolution = .ofOutcome o → Q o

theorem keeps_after {since now turn : Nat} {limit : Option Timer} {stop : Activity.Stop σ α}
    (h : ∀ d next, stop = .waiting d next → next.Keeps view) :
    (after since now turn limit stop).Keeps view := by
  cases stop with
  | ended o => trivial
  | idle =>
      simp only [after]
      split <;> trivial
  | waiting d next =>
      simp only [after]
      split
      · trivial
      · exact h d next rfl

theorem yields_after {since now turn : Nat} {limit : Option Timer} {stop : Activity.Stop σ α}
    {b : γ} (hended : ∀ o, stop = .ended o → Q o)
    (hwaiting : ∀ d next, stop = .waiting d next → next.Yields view (fun o _ => Q o) b) :
    (after since now turn limit stop).Yields view Q b := by
  cases stop with
  | ended o =>
      intro o' ho
      exact Resolution.ofOutcome_injective ho ▸ hended o rfl
  | idle =>
      simp only [after]
      split
      · intro o ho
        cases o <;> cases ho
      · trivial
  | waiting d next =>
      simp only [after]
      split
      · intro o ho
        cases o <;> cases ho
      · exact hwaiting d next rfl

section

variable {deadline : Option Nat} {turn : Nat} {m m' : Moment σ} {p q : Phase σ α}

/-- An event of a job that keeps a view keeps it. -/
theorem Phase.Keeps.moves (h : p.Keeps view) (hm : p.Moves deadline turn m q m') :
    q.Keeps view ∧ view m'.world = view m.world := by
  cases hm with
  | starts hs =>
      obtain ⟨hw, hn⟩ := Activity.Keeps.settle h hs
      exact ⟨keeps_after hn, hw⟩
  | resumes _ _ hs =>
      obtain ⟨hw, hn⟩ := Activity.Keeps.settle h hs
      exact ⟨keeps_after hn, hw⟩
  | expires _ _ => exact ⟨trivial, rfl⟩
  | expiresIdle _ => exact ⟨trivial, rfl⟩

/-- An event of a job with a private view takes both on. -/
theorem Phase.Yields.moves (h : p.Yields view Q (view m.world))
    (hm : p.Moves deadline turn m q m') : q.Yields view Q (view m'.world) := by
  have htimeout : ∀ elapsed b,
      (Phase.decided ⟨.timedOut, elapsed⟩ : Phase σ α).Yields view Q b := by
    intro elapsed b o ho
    cases o <;> cases ho
  cases hm with
  | starts hs =>
      obtain ⟨he, hn⟩ := Activity.Yields.settle h hs
      exact yields_after he hn
  | resumes _ _ hs =>
      obtain ⟨he, hn⟩ := Activity.Yields.settle h hs
      exact yields_after he hn
  | expires _ _ => exact htimeout _ _
  | expiresIdle _ => exact htimeout _ _

end

section

variable {slots : Nat} {deadline : Option Nat} {signals : Signals} {s : Jobs σ α}
  {c : Course σ (List (Decision α))}

/-- Jobs that all keep a view leave it as it was. -/
theorem Jobs.Leads.keeps (h : s.Leads slots deadline signals c)
    (hs : ∀ p ∈ s.phases, p.Keeps view) : view c.final.world = view s.moment.world := by
  have hfinal : ∃ s' : Jobs σ α, ((∀ p ∈ s'.phases, p.Keeps view) ∧
      view s'.moment.world = view s.moment.world) ∧ c.final.world = s'.moment.world := by
    refine h.final_of_invariant ⟨hs, rfl⟩ ?_
    rintro s₁ i now p q m ⟨hphases, hview⟩ at_i moves
    obtain ⟨hq, hw⟩ := (hphases p (List.mem_of_getElem? at_i)).moves moves
    refine ⟨fun p' hp' => ?_, hw.trans hview⟩
    rcases List.mem_or_eq_of_mem_set hp' with hp' | rfl
    · exact hphases p' hp'
    · exact hq
  obtain ⟨s', ⟨-, hview⟩, hworld⟩ := hfinal
  rw [hworld, hview]

/-- The view belongs to the job with number `j`: that comes to what its view makes of it, and all
other jobs keep the view. -/
structure Jobs.Private (view : σ → γ) (Q : Outcome α → Prop) (j : Nat) (s : Jobs σ α) : Prop where
  yields : ∀ p, s.phases[j]? = some p → p.Yields view Q (view s.moment.world)
  keeps : ∀ i p, i ≠ j → s.phases[i]? = some p → p.Keeps view

/-- An event leaves the view to the job that it belongs to, whichever job it moves. -/
theorem Jobs.Private.moves {j i turn now : Nat} {p q : Phase σ α} {m : Moment σ}
    (h : s.Private view Q j) (at_i : s.phases[i]? = some p)
    (hm : p.Moves deadline s.turn { s.moment with now := now } q m) :
    (Jobs.mk m turn (s.phases.set i q)).Private view Q j := by
  rcases eq_or_ne i j with rfl | hij
  · -- the job itself moves, and takes its view on
    have hp : p.Yields view Q (view ({ s.moment with now := now } : Moment σ).world) :=
      h.yields p at_i
    refine ⟨fun p' hp' => ?_, fun k p' hk hp' => ?_⟩
    · rcases getElem?_set_cases hp' with ⟨-, rfl⟩ | ⟨hne, -⟩
      · exact hp.moves hm
      · exact absurd rfl hne
    · rcases getElem?_set_cases hp' with ⟨hki, -⟩ | ⟨-, hp'⟩
      · exact absurd hki hk
      · exact h.keeps k p' hk hp'
  · -- another job moves, and leaves the view as it is
    obtain ⟨hq, hw⟩ := (h.keeps i p hij at_i).moves hm
    refine ⟨fun p' hp' => ?_, fun k p' hk hp' => ?_⟩
    · rcases getElem?_set_cases hp' with ⟨hji, -⟩ | ⟨-, hp'⟩
      · exact absurd hji.symm hij
      · show p'.Yields view Q (view m.world)
        rw [hw]
        exact h.yields p' hp'
    · rcases getElem?_set_cases hp' with ⟨-, rfl⟩ | ⟨-, hp'⟩
      · exact hq
      · exact h.keeps k p' hk hp'

/-- A job with a private view comes to what its view makes of it, whatever order the jobs are run
in. -/
theorem Jobs.Leads.yields {j : Nat} (h : s.Leads slots deadline signals c)
    (hs : s.Private view Q j) :
    c.Meets
      (fun ds _ => ∀ (d : Decision α) (o : Outcome α), ds[j]? = some d →
        d.resolution = .ofOutcome o → Q o)
      fun _ => True := by
  induction h with
  | decided all =>
      intro d o hd ho
      exact hs.yields (.decided d) (by rw [all, List.getElem?_map, hd, Option.map_some]) o ho
  | cancelled undecided called =>
      intro d o hd ho
      rw [List.getElem?_map, Option.map_eq_some_iff] at hd
      obtain ⟨p, hp, rfl⟩ := hd
      -- what was decided before the cancellation stays, and nothing else ends in an outcome
      cases p with
      | decided d => exact hs.yields _ hp o ho
      | queued submitted a => cases o <;> cases ho
      | waiting since timer next limit => cases o <;> cases ho
      | idle since limit => cases o <;> cases ho
  | abandoned called => trivial
  | stuck undecided uncancelled uncalled none => trivial
  | event uncancelled next quiet at_i moves rest ih => exact ih (hs.moves at_i moves)

end

end VulnScan.Execution
