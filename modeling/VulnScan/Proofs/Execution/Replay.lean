import Mathlib.Data.Option.Basic
import VulnScan.Proofs.Execution.Alone

/-! # Runs that are replayed

A plugin that is a function of its inputs does the same whenever it runs: what it does depends
neither on the time nor on the world (`Activity.Oblivious`). So a run of such plugins can be
replayed from another moment, and then goes on in step with the first: at every point as much time
has passed, and the same entries have come into a log of what the plugins do (`Replay.Moments`).

Sessions are compared this way part by part (`Replay.Sessions.bind`), down to activities that
enter the same in the log every time (`Activity.Repeats`).
-/

set_option autoImplicit false

namespace VulnScan.Execution

variable {σ ρ α β : Type}

namespace Activity

/-- What the activity does depends neither on the time nor on the world. -/
def Oblivious : Activity σ α → Prop
  | .finish _ | .forever => True
  | .wait _ next | .cancel next => next.Oblivious
  | .touch _ next =>
    (∀ now w now' w', next now w = next now' w') ∧ ∀ now w, (next now w).Oblivious

/-- The activity does the same and enters the same in the log, whenever it runs. It calls for a
cancellation only if there may be such `calls`. -/
def Repeats (log : σ → List ρ) (calls : Prop) : Activity σ α → Prop
  | .finish _ | .forever => True
  | .wait _ next => next.Repeats log calls
  | .cancel next => calls ∧ next.Repeats log calls
  | .touch change next =>
    (∃ entries, ∀ now w, log (change now w) = log w ++ entries) ∧
      (∀ now w now' w', next now w = next now' w') ∧ ∀ now w, (next now w).Repeats log calls

variable {log : σ → List ρ} {calls : Prop} {a : Activity σ α}

/-- An oblivious activity that leaves the log alone. -/
theorem Oblivious.repeats_of_keeps (h : a.Oblivious) (keeps : a.Keeps log)
    (called : a.MayCancel → calls) : a.Repeats log calls := by
  induction a with
  | finish o => trivial
  | forever => trivial
  | wait d next ih => exact ih h keeps fun hc => called (hc.of_next (.wait d next))
  | touch change next ih =>
      refine ⟨⟨[], fun now w => ?_⟩, h.1, fun now w => ?_⟩
      · rw [(keeps now w).1, List.append_nil]
      · exact ih now w (h.2 now w) (keeps now w).2
          fun hc => called (hc.of_next (.touch change next now w))
  | cancel next ih =>
      exact ⟨called ⟨next, .refl _⟩, ih h keeps fun hc => called (hc.of_next (.cancel next))⟩

namespace Repeats

theorem andThen {f : α → Activity σ β} (h : a.Repeats log calls)
    (hf : ∀ v, (f v).Repeats log calls) : (a.andThen f).Repeats log calls := by
  induction a with
  | finish o =>
      cases o with
      | value v => exact hf v
      | fault e => trivial
      | collapse message => trivial
  | forever => trivial
  | wait d next ih => exact ih h
  | touch change next ih =>
      obtain ⟨entries, same, rest⟩ := h
      refine ⟨entries, fun now w now' w' => ?_, fun now w => ih now w (rest now w)⟩
      show (next now w).andThen f = (next now' w').andThen f
      rw [same now w now' w']
  | cancel next ih => exact ⟨h.1, ih h.2⟩

theorem tried (h : a.Repeats log calls) : a.tried.Repeats log calls := by
  induction a with
  | finish o => cases o <;> trivial
  | forever => trivial
  | wait d next ih => exact ih h
  | touch change next ih =>
      obtain ⟨entries, same, rest⟩ := h
      refine ⟨entries, fun now w now' w' => ?_, fun now w => ih now w (rest now w)⟩
      show (next now w).tried = (next now' w').tried
      rw [same now w now' w']
  | cancel next ih => exact ⟨h.1, ih h.2⟩

end Repeats

end Activity

/-! ## Two runs in step -/

/-- A run and its replay: the moments at which they start, the log by which they are compared, and
whether cancellations may be called for. -/
structure Replay (σ ρ : Type) where
  log : σ → List ρ
  calls : Prop
  start : Moment σ
  again : Moment σ

namespace Replay

variable {r : Replay σ ρ}

/-- The times are as long after the start of the run and of its replay. -/
def Times (r : Replay σ ρ) (t t' : Nat) : Prop := t + r.again.now = t' + r.start.now

namespace Times

variable {t t' u u' : Nat}

theorem le_iff (h : r.Times t t') (hu : r.Times u u') : t ≤ u ↔ t' ≤ u' := by
  unfold Times at h hu
  omega

theorem lt_iff (h : r.Times t t') (hu : r.Times u u') : t < u ↔ t' < u' := by
  unfold Times at h hu
  omega

theorem eq_iff (h : r.Times t t') (hu : r.Times u u') : t = u ↔ t' = u' := by
  unfold Times at h hu
  omega

theorem sub_eq (h : r.Times t t') (hu : r.Times u u') : t - u = t' - u' := by
  unfold Times at h hu
  omega

theorem add (h : r.Times t t') (d : Nat) : r.Times (t + d) (t' + d) := by
  unfold Times at h ⊢
  omega

theorem max (h : r.Times t t') (hu : r.Times u u') : r.Times (max t u) (max t' u') := by
  unfold Times at h hu ⊢
  omega

end Times

/-- At the moments as much time has passed, the log has got the same entries, and a cancellation
was called for in both runs or in neither. -/
structure Moments (r : Replay σ ρ) (m m' : Moment σ) : Prop where
  now : r.Times m.now m'.now
  entries : ∃ es, r.log m.world = r.log r.start.world ++ es ∧
    r.log m'.world = r.log r.again.world ++ es
  cancelled : m.cancelled = m'.cancelled
  called : m.cancelled = true → r.calls

/-- What breaks into both runs is the same, at times in step. -/
inductive Interruptions (r : Replay σ ρ) : Interruption → Interruption → Prop
  | abandoned {t t' : Nat} (time : r.Times t t') : Interruptions r (.abandoned t) (.abandoned t')
  | cancelled {t t' : Nat} (time : r.Times t t') : Interruptions r (.cancelled t) (.cancelled t')

/-- Both runs are cancelled and abandoned at times in step. -/
structure Signals (r : Replay σ ρ) (s s' : Execution.Signals) : Prop where
  cancelAt : Option.Rel r.Times s.cancelAt s'.cancelAt
  abandonAt : Option.Rel r.Times s.abandonAt s'.abandonAt
  called : s.cancelAt.isSome → r.calls

/-- Both runs end in the same way, at moments in step and with results that `R` relates. -/
inductive Courses (r : Replay σ ρ) (R : α → α → Prop) : Course σ α → Course σ α → Prop
  | reached {a a' : α} {m m' : Moment σ} (related : R a a') (moments : r.Moments m m') :
      Courses r R (.reached a m) (.reached a' m')
  | abandoned {m m' : Moment σ} (moments : r.Moments m m') :
      Courses r R (.abandoned m) (.abandoned m')
  | stuck {m m' : Moment σ} (moments : r.Moments m m') : Courses r R (.stuck m) (.stuck m')
  | collapsed {m m' : Moment σ} (message : String) (moments : r.Moments m m') :
      Courses r R (.collapsed message m) (.collapsed message m')

/-- From moments in step, the session and its replay end in step. -/
def Sessions (r : Replay σ ρ) (R : α → α → Prop) (s s' : Session σ α) : Prop :=
  ∀ signals signals' m m', r.Signals signals signals' → r.Moments m m' →
    r.Courses R (s signals m) (s' signals' m')

/-- A run and its replay start in step. -/
theorem moments_start (same : r.start.cancelled = r.again.cancelled)
    (called : r.start.cancelled = true → r.calls) : r.Moments r.start r.again where
  now := Nat.add_comm _ _
  entries := ⟨[], (List.append_nil _).symm, (List.append_nil _).symm⟩
  cancelled := same
  called := called

namespace Moments

variable {m m' : Moment σ}

/-- Time goes on by as much. -/
theorem goOn {t t' : Nat} (h : r.Moments m m') (ht : r.Times t t') :
    r.Moments { m with now := t } { m' with now := t' } :=
  ⟨ht, h.entries, h.cancelled, h.called⟩

/-- A cancellation is called for. -/
theorem cancel (h : r.Moments m m') (calls : r.calls) :
    r.Moments { m with cancelled := true } { m' with cancelled := true } :=
  ⟨h.now, h.entries, rfl, fun _ => calls⟩

/-- The same is entered in both logs. -/
theorem enter {w w' : σ} {es : List ρ} (h : r.Moments m m') (hw : r.log w = r.log m.world ++ es)
    (hw' : r.log w' = r.log m'.world ++ es) :
    r.Moments { m with world := w } { m' with world := w' } := by
  obtain ⟨es₀, hm, hm'⟩ := h.entries
  refine ⟨h.now, ⟨es₀ ++ es, ?_, ?_⟩, h.cancelled, h.called⟩
  · rw [hw, hm, List.append_assoc]
  · rw [hw', hm', List.append_assoc]

end Moments

theorem Courses.imp {R R' : α → α → Prop} {c c' : Course σ α} (h : r.Courses R c c')
    (hR : ∀ a a', R a a' → R' a a') : r.Courses R' c c' := by
  cases h with
  | reached related moments => exact .reached (hR _ _ related) moments
  | abandoned moments => exact .abandoned moments
  | stuck moments => exact .stuck moments
  | collapsed message moments => exact .collapsed message moments

theorem Courses.final {R : α → α → Prop} {c c' : Course σ α} (h : r.Courses R c c') :
    r.Moments c.final c'.final := by
  cases h <;> assumption

/-- What the result of the first run meets is known of the replay as well. -/
theorem Courses.and_meets {R : α → α → Prop} {Q : α → Moment σ → Prop} {B : Break σ → Prop}
    {c c' : Course σ α} (h : r.Courses R c c') (hc : c.Meets Q B) :
    r.Courses (fun a a' => R a a' ∧ ∃ m, Q a m) c c' := by
  cases h with
  | reached related moments => exact .reached ⟨related, _, hc⟩ moments
  | abandoned moments => exact .abandoned moments
  | stuck moments => exact .stuck moments
  | collapsed message moments => exact .collapsed message moments

namespace Sessions

variable {R : α → α → Prop} {R' : β → β → Prop}

theorem pure {a a' : α} (h : R a a') : r.Sessions R (Pure.pure a) (Pure.pure a') :=
  fun _ _ _ _ _ hm => .reached h hm

theorem bind {s s' : Session σ α} {f f' : α → Session σ β} (h : r.Sessions R s s')
    (hf : ∀ a a', R a a' → r.Sessions R' (f a) (f' a')) :
    r.Sessions R' (s >>= f) (s' >>= f') := by
  intro signals signals' m m' hs hm
  show r.Courses R' (s.andThen f signals m) (s'.andThen f' signals' m')
  unfold Session.andThen
  have hc := h signals signals' m m' hs hm
  generalize s signals m = c at hc ⊢
  generalize s' signals' m' = c' at hc ⊢
  cases hc with
  | reached related moments => exact hf _ _ related _ _ _ _ hs moments
  | abandoned moments => exact .abandoned moments
  | stuck moments => exact .stuck moments
  | collapsed message moments => exact .collapsed message moments

theorem moment : r.Sessions r.Moments Session.moment Session.moment :=
  fun _ _ _ _ _ hm => .reached hm hm

theorem collapse (message : String) :
    r.Sessions R (Session.collapse message) (Session.collapse message) :=
  fun _ _ _ _ _ hm => .collapsed message hm

end Sessions

/-! ## Signals -/

theorem isBy_eq {l l' : Option Nat} {t t' : Nat} (hl : Option.Rel r.Times l l')
    (ht : r.Times t t') : isBy l t = isBy l' t' := by
  cases hl with
  | none => rfl
  | some hl => simp only [isBy, ht.le_iff hl]

theorem filter_isBy {l l' t t' : Option Nat} (hl : Option.Rel r.Times l l')
    (ht : Option.Rel r.Times t t') :
    Option.Rel r.Times (t.filter (isBy l)) (t'.filter (isBy l')) := by
  cases ht with
  | none => exact .none
  | some ht =>
      rw [Option.filter_some, Option.filter_some, isBy_eq hl ht]
      split
      · exact .some ht
      · exact .none

/-- The same signal comes first. -/
theorem Signals.first {s s' : Execution.Signals} {l l' : Option Nat} (h : r.Signals s s')
    (hl : Option.Rel r.Times l l') :
    Option.Rel r.Interruptions (s.first l) (s'.first l') := by
  have ha := filter_isBy hl h.abandonAt
  have hc := filter_isBy hl h.cancelAt
  unfold Execution.Signals.first
  generalize s.abandonAt.filter (isBy l) = a at ha ⊢
  generalize s'.abandonAt.filter (isBy l') = a' at ha ⊢
  generalize s.cancelAt.filter (isBy l) = c at hc ⊢
  generalize s'.cancelAt.filter (isBy l') = c' at hc ⊢
  cases ha with
  | none =>
      cases hc with
      | none => exact .none
      | some hc => exact .some (.cancelled hc)
  | some ha =>
      cases hc with
      | none => exact .some (.abandoned ha)
      | some hc =>
          simp only [ha.le_iff hc]
          split
          · exact .some (.abandoned ha)
          · exact .some (.cancelled hc)

/-! ## Activities -/

variable {a : Activity σ α} {m m' : Moment σ}

/-- Up to its next wait an activity does the same in both runs, and is left with the same to
do. -/
theorem settle (ha : a.Repeats r.log r.calls) (hm : r.Moments m m') :
    ∃ stop w w' c, a.settle m.now m.world m.cancelled = (stop, w, c) ∧
      a.settle m'.now m'.world m'.cancelled = (stop, w', c) ∧
      r.Moments ⟨m.now, w, c⟩ ⟨m'.now, w', c⟩ ∧
      ∀ d next, stop = .waiting d next → next.Repeats r.log r.calls := by
  induction a generalizing m m' with
  | finish o =>
      refine ⟨.ended o, m.world, m'.world, m.cancelled, rfl, by rw [hm.cancelled]; rfl, ?_, by simp⟩
      exact ⟨hm.now, hm.entries, rfl, hm.called⟩
  | forever =>
      refine ⟨.idle, m.world, m'.world, m.cancelled, rfl, by rw [hm.cancelled]; rfl, ?_, by simp⟩
      exact ⟨hm.now, hm.entries, rfl, hm.called⟩
  | wait d next ih =>
      cases d with
      | zero => exact ih ha hm
      | succ d =>
          refine ⟨.waiting (d + 1) next, m.world, m'.world, m.cancelled, rfl,
            by rw [hm.cancelled]; rfl, ⟨hm.now, hm.entries, rfl, hm.called⟩, ?_⟩
          intro d' next' hnext
          cases hnext
          exact ha
  | touch change next ih =>
      obtain ⟨⟨es, hlog⟩, same, rest⟩ := ha
      have hmoments := hm.enter (hlog m.now m.world) (hlog m'.now m'.world)
      simp only [Activity.settle]
      rw [same m'.now m'.world m.now m.world]
      exact ih m.now m.world (rest _ _) hmoments
  | cancel next ih => exact ih ha.2 (hm.cancel ha.1)

/-- A wait of an activity on its own ends in the same way: it is given up, or a signal breaks into
it, or the activity goes on. -/
theorem wait_eq {signals signals' : Execution.Signals} {l l' : Option Nat}
    {c c' : Course σ (Option (Outcome α))} (hs : r.Signals signals signals')
    (hl : Option.Rel r.Times l l') (hm : r.Moments m m') (hc : r.Courses Eq c c') :
    r.Courses Eq
      (if m.cancelled then .reached none m
        else match signals.first l with
          | some (.abandoned t) => .abandoned { m with now := max m.now t }
          | some (.cancelled t) => .reached none { m with now := max m.now t, cancelled := true }
          | none => c)
      (if m'.cancelled then .reached none m'
        else match signals'.first l' with
          | some (.abandoned t) => .abandoned { m' with now := max m'.now t }
          | some (.cancelled t) => .reached none { m' with now := max m'.now t, cancelled := true }
          | none => c') := by
  obtain ⟨now, w, cancelled⟩ := m
  obtain ⟨now', w', cancelled'⟩ := m'
  obtain rfl : cancelled = cancelled' := hm.cancelled
  dsimp only
  split
  · exact .reached rfl hm
  · have hfirst := hs.first hl
    generalize hf : signals.first l = f at hfirst ⊢
    generalize signals'.first l' = f' at hfirst ⊢
    cases hfirst with
    | none => exact hc
    | some hi =>
        cases hi with
        | abandoned time => exact .abandoned (hm.goOn (hm.now.max time))
        | cancelled time =>
            have calls := hs.called (Signals.isSome_of_first_cancelled hf)
            exact .reached rfl ((hm.goOn (hm.now.max time)).cancel calls)

/-- An activity on its own ends in the same way when it is replayed. -/
theorem alone_eq (ha : a.Repeats r.log r.calls) : r.Sessions Eq a.alone a.alone := by
  intro signals signals' m m' hs hm
  induction a generalizing m m' with
  | finish o => exact .reached rfl hm
  | forever => exact wait_eq hs .none hm (.stuck hm)
  | wait d next ih =>
      cases d with
      | zero => exact ih ha m m' hm
      | succ d =>
          exact wait_eq hs (.some (hm.now.add d)) hm (ih ha _ _ (hm.goOn (hm.now.add (d + 1))))
  | touch change next ih =>
      obtain ⟨⟨es, hlog⟩, same, rest⟩ := ha
      rw [Activity.alone, Activity.alone, same m'.now m'.world m.now m.world]
      exact ih m.now m.world (rest _ _) _ _ (hm.enter (hlog m.now m.world) (hlog m'.now m'.world))
  | cancel next ih => exact ih ha.2 _ _ (hm.cancel ha.1)

/-- An activity on its own comes to the same outcome, one that it may have. -/
theorem alone (ha : a.Repeats r.log r.calls) :
    r.Sessions (fun o o' => o = o' ∧ ∀ v, o = some v → a.MayEnd v) a.alone a.alone := by
  intro signals signals' m m' hs hm
  refine ((alone_eq ha signals signals' m m' hs hm).and_meets
    (a.alone_meets signals m)).imp ?_
  rintro o o' ⟨heq, m₁, hleads⟩
  exact ⟨heq, hleads.mayEnd⟩

end Replay

end VulnScan.Execution
