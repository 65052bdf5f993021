import Mathlib.Data.Nat.Count
import VulnScan.Time.Stopwatch

/-!
# How long a stopwatch ran

A stopwatch takes whatever calls come, in any order and with any time in between (`Stopwatch.run`).
What it is to show is told by the calls alone (`timeRun`): the nanoseconds for which the last call
by then was a start and after which no reset came. It keeps to that, although it holds only the
total of the intervals that are closed and the beginning of the one that is open (`Tallied`).
-/

set_option autoImplicit false

namespace VulnScan.Time

namespace Span

/-- More nanoseconds make no shorter span. -/
theorem nanos_ofNanos_le {n m : Nat} (h : n ≤ m) : (ofNanos n).nanos ≤ (ofNanos m).nanos := by
  by_cases hm : m < spanBound
  · rw [nanos_ofNanos (Nat.lt_of_le_of_lt h hm), nanos_ofNanos hm]
    exact h
  · have hlongest : ofNanos m = longest := dif_neg hm
    rw [hlongest]
    exact Nat.le_sub_one_of_lt (ofNanos n).nanos_lt

end Span

namespace Stopwatch

/-! ## What a stopwatch shows -/

/-- A stopwatch that runs gains the time that passes, and no other does. -/
theorem total_add {s : Stopwatch} {now : Nat} (opened : ∀ t, s.startedAt = some t → t ≤ now)
    (nanos : Nat) :
    s.total (now + nanos) = s.total now + if s.isRunning = true then nanos else 0 := by
  cases s with
  | mk startedAt accumulated =>
    cases startedAt with
    | none => rfl
    | some t =>
      have ht : t ≤ now := opened t rfl
      simp only [total, isRunning, Option.isSome_some, if_true]
      omega

/-- At the moment at which it is started a stopwatch shows what it showed before. -/
theorem total_start_self (s : Stopwatch) (now : Nat) : (s.start now).total now = s.total now := by
  cases h : s.isRunning with
  | true => rw [start_of_isRunning h]
  | false => rw [total_start h, Nat.sub_self, Nat.add_zero]

theorem total_le_total (s : Stopwatch) {now later : Nat} (h : now ≤ later) :
    s.total now ≤ s.total later := by
  cases s with
  | mk startedAt accumulated =>
    cases startedAt with
    | none => exact Nat.le_refl _
    | some t => exact Nat.add_le_add_left (Nat.sub_le_sub_right h t) _

/-! ## Histories -/

/-- The calls that a stopwatch takes. -/
inductive Call where
  | start
  | stop
  | reset
deriving DecidableEq

/-- What a call makes of a stopwatch. -/
def take (now : Nat) (s : Stopwatch) : Call → Stopwatch
  | .start => s.start now
  | .stop => s.stop now
  | .reset => s.reset

/-- No call but a reset changes what is shown at the moment at which it is made. -/
theorem total_take (s : Stopwatch) (now : Nat) {call : Call} (h : call ≠ .reset) :
    (s.take now call).total now = s.total now := by
  cases call with
  | start => exact s.total_start_self now
  | stop => exact s.total_stop now now
  | reset => exact absurd rfl h

/-- What happens around a stopwatch: time passes, it is called, or somebody looks at it. -/
inductive Event where
  | passes (nanos : Nat)
  | called (call : Call)
  | read
deriving DecidableEq

/-- A stopwatch at some moment. -/
structure Situation where
  now : Nat
  watch : Stopwatch
deriving DecidableEq

namespace Situation

/-- The situation after an event. -/
def after (s : Situation) : Event → Situation
  | .passes nanos => { s with now := s.now + nanos }
  | .called call => { s with watch := s.watch.take s.now call }
  | .read => s

/-- What the stopwatch shows. -/
def shown (s : Situation) : Span := s.watch.elapsed s.now

/-- Only a reset takes a stopwatch back. -/
theorem total_le_after (s : Situation) {e : Event} (h : e ≠ .called .reset) :
    s.watch.total s.now ≤ (s.after e).watch.total (s.after e).now := by
  cases e with
  | passes nanos => exact s.watch.total_le_total (Nat.le_add_right _ _)
  | called call =>
    have hcall : call ≠ .reset := fun hreset => h (congrArg Event.called hreset)
    exact Nat.le_of_eq (s.watch.total_take s.now hcall).symm
  | read => exact Nat.le_refl _

theorem total_le_foldl_after (s : Situation) {es : List Event} (h : .called .reset ∉ es) :
    s.watch.total s.now ≤ (es.foldl after s).watch.total (es.foldl after s).now := by
  induction es generalizing s with
  | nil => exact Nat.le_refl _
  | cons e es ih =>
    rw [List.mem_cons, not_or] at h
    exact Nat.le_trans (s.total_le_after (Ne.symm h.1)) (ih (s.after e) h.2)

end Situation

/-- The situation after a history that begins at the moment `start` with a stopwatch that has never
run. One that is made running is started at once. -/
def run (start : Nat) (es : List Event) : Situation := es.foldl Situation.after ⟨start, fresh⟩

theorem run_append (start : Nat) (es later : List Event) :
    run start (es ++ later) = later.foldl Situation.after (run start es) := List.foldl_append

/-- An event that leaves the situation as it is may be left out of every longer history. -/
theorem run_skip {start : Nat} {es : List Event} {e : Event}
    (h : (run start es).after e = run start es) (later : List Event) :
    run start (es ++ e :: later) = run start (es ++ later) := by
  rw [run_append, run_append, List.foldl_cons, h]

/-! ## The time in which it ran -/

/-- The calls of a history that begins at the moment `now`, each with the moment at which it was
made. -/
def callsFrom : Nat → List Event → List (Nat × Call)
  | _, [] => []
  | now, .passes nanos :: es => callsFrom (now + nanos) es
  | now, .called call :: es => (now, call) :: callsFrom now es
  | now, .read :: es => callsFrom now es

/-- The last of the calls that were made by the moment `m`. -/
def lastCall? (calls : List (Nat × Call)) (m : Nat) : Option Call :=
  ((calls.filter (·.1 ≤ m)).getLast?).map Prod.snd

/-- At the moment `m` the stopwatch is to run: it was started, and neither stopped nor reset
since. -/
def RunsAt (calls : List (Nat × Call)) (m : Nat) : Prop := lastCall? calls m = some .start

/-- The nanosecond that begins at the moment `m` counts: the stopwatch runs in it, and no reset
comes later. -/
def Counts (calls : List (Nat × Call)) (m : Nat) : Prop :=
  RunsAt calls m ∧ ∀ c ∈ calls, c.2 = .reset → c.1 ≤ m

instance (calls : List (Nat × Call)) : DecidablePred (RunsAt calls) :=
  fun m => inferInstanceAs (Decidable (lastCall? calls m = some .start))

instance (calls : List (Nat × Call)) : DecidablePred (Counts calls) :=
  fun m => inferInstanceAs (Decidable (RunsAt calls m ∧ ∀ c ∈ calls, c.2 = .reset → c.1 ≤ m))

/-- The nanoseconds up to `now` in which a stopwatch with these calls ran since it was made or last
reset. -/
def timeRun (calls : List (Nat × Call)) (now : Nat) : Nat := Nat.count (Counts calls) now

variable {calls : List (Nat × Call)} {call : Call} {now m : Nat}

/-- As long as no call is made, the last one stays the same. -/
theorem runsAt_iff_of_past (past : ∀ c ∈ calls, c.1 ≤ now) (h : now ≤ m) :
    RunsAt calls m ↔ RunsAt calls now := by
  have hfilter : calls.filter (·.1 ≤ m) = calls.filter (·.1 ≤ now) :=
    List.filter_congr fun c hc => by
      have hnow : c.1 ≤ now := past c hc
      simp [hnow, Nat.le_trans hnow h]
  rw [RunsAt, RunsAt, lastCall?, lastCall?, hfilter]

theorem runsAt_concat_self : RunsAt (calls ++ [(now, call)]) now ↔ call = .start := by
  simp [RunsAt, lastCall?]

/-- A call has no say in what came before it. -/
theorem runsAt_concat_of_lt (h : m < now) : RunsAt (calls ++ [(now, call)]) m ↔ RunsAt calls m := by
  simp [RunsAt, lastCall?, Nat.not_le.2 h]

/-- While no call is made, the time counts if the stopwatch runs. -/
theorem timeRun_add (past : ∀ c ∈ calls, c.1 ≤ now) (nanos : Nat) :
    timeRun calls (now + nanos) = timeRun calls now + if RunsAt calls now then nanos else 0 := by
  -- of the nanoseconds from now on either all count or none
  have hcounts : ∀ k, Counts calls (now + k) ↔ RunsAt calls now := fun k =>
    ⟨fun h => (runsAt_iff_of_past past (Nat.le_add_right _ _)).1 h.1,
      fun h => ⟨(runsAt_iff_of_past past (Nat.le_add_right _ _)).2 h,
        fun c hc _ => Nat.le_trans (past c hc) (Nat.le_add_right _ _)⟩⟩
  rw [timeRun, timeRun, Nat.count_add]
  split
  case isTrue h => rw [Nat.count_of_forall fun k _ => (hcounts k).2 h]
  case isFalse h => rw [Nat.count_of_forall_not fun k _ hk => h ((hcounts k).1 hk)]

/-- A start and a stop neither lose nor gain what has been counted. -/
theorem timeRun_concat (h : call ≠ .reset) :
    timeRun (calls ++ [(now, call)]) now = timeRun calls now := by
  -- the call comes after every nanosecond that is looked at
  have hcounts : ∀ k < now, (Counts (calls ++ [(now, call)]) k ↔ Counts calls k) := fun k hk => by
    simp [Counts, runsAt_concat_of_lt hk, or_imp, forall_and, h]
  exact Nat.le_antisymm (Nat.count_mono_left fun k hk => (hcounts k hk).1)
    (Nat.count_mono_left fun k hk => (hcounts k hk).2)

/-- A reset leaves nothing that counts. -/
theorem timeRun_concat_reset : timeRun (calls ++ [(now, .reset)]) now = 0 :=
  Nat.count_of_forall_not fun k hk h => by
    have hle : now ≤ k := h.2 (now, .reset) (by simp) rfl
    omega

/-! ## What a stopwatch keeps to -/

/-- The stopwatch agrees with the calls that were made: it runs if the last one was a start, and
shows the time that counts. -/
structure Tallied (calls : List (Nat × Call)) (s : Situation) : Prop where
  past : ∀ c ∈ calls, c.1 ≤ s.now
  opened : ∀ t, s.watch.startedAt = some t → t ≤ s.now
  running : s.watch.isRunning = true ↔ RunsAt calls s.now
  total : s.watch.total s.now = timeRun calls s.now

theorem tallied_fresh (start : Nat) : Tallied [] ⟨start, fresh⟩ where
  past := by simp
  opened := by simp [fresh]
  running := by simp [fresh, isRunning, RunsAt, lastCall?]
  total := (Nat.count_of_forall_not fun k _ h => by simp [Counts, RunsAt, lastCall?] at h).symm

namespace Tallied

variable {s : Situation}

theorem passes (h : Tallied calls s) (nanos : Nat) :
    Tallied calls (s.after (.passes nanos)) where
  past c hc := Nat.le_trans (h.past c hc) (Nat.le_add_right _ _)
  opened t ht := Nat.le_trans (h.opened t ht) (Nat.le_add_right _ _)
  running := h.running.trans (runsAt_iff_of_past h.past (Nat.le_add_right _ _)).symm
  total := by
    simp only [Situation.after, total_add h.opened, timeRun_add h.past, h.total, h.running]

/-- An interval that is open after a call was opened by then. -/
theorem opened_take (h : Tallied calls s) (call : Call) :
    ∀ t, (s.watch.take s.now call).startedAt = some t → t ≤ s.now := by
  intro t ht
  cases call with
  | start =>
    -- the interval that is open after a start is the old one, if there was one
    obtain rfl : s.watch.startedAt.getD s.now = t := Option.some.inj ht
    cases hopen : s.watch.startedAt with
    | none => exact Nat.le_refl _
    | some u => exact h.opened u hopen
  | stop =>
    have hstopped : (s.watch.take s.now .stop).isRunning = false := isRunning_stop _ _
    simp [isRunning, ht] at hstopped
  | reset => simp [take, reset, fresh] at ht

theorem called (h : Tallied calls s) (call : Call) :
    Tallied (calls ++ [(s.now, call)]) (s.after (.called call)) where
  past c hc := by
    rcases List.mem_append.1 hc with hc | hc
    · exact h.past c hc
    · exact Nat.le_of_eq (congrArg Prod.fst (List.mem_singleton.1 hc))
  opened := h.opened_take call
  running := by
    refine Iff.trans ?_ runsAt_concat_self.symm
    cases call with
    | start => simp [Situation.after, take]
    | stop => simp [Situation.after, take]
    | reset => simp [Situation.after, take, reset, fresh, isRunning]
  total := by
    by_cases hcall : call = .reset
    · rw [hcall]
      exact timeRun_concat_reset.symm
    · calc (s.watch.take s.now call).total s.now
          = s.watch.total s.now := s.watch.total_take s.now hcall
        _ = timeRun calls s.now := h.total
        _ = timeRun (calls ++ [(s.now, call)]) s.now := (timeRun_concat hcall).symm

/-- Whatever happens, the stopwatch agrees with the calls. -/
theorem foldl_after (h : Tallied calls s) (es : List Event) :
    Tallied (calls ++ callsFrom s.now es) (es.foldl Situation.after s) := by
  -- on the events to come, while the calls made so far grow
  induction es generalizing s calls with
  | nil => simpa [callsFrom] using h
  | cons e es ih =>
    cases e with
    | passes nanos => exact ih (h.passes nanos)
    | called call =>
      rw [callsFrom, ← List.singleton_append, ← List.append_assoc]
      exact ih (h.called call)
    | read => exact ih h

end Tallied

theorem tallied_run (start : Nat) (es : List Event) :
    Tallied (callsFrom start es) (run start es) :=
  (tallied_fresh start).foldl_after es

/-- **A stopwatch shows the time in which it ran.** After every history of calls and readings, with
any time in between:

* it runs exactly if it was started and neither stopped nor reset since;
* it shows the nanoseconds in which it ran since it was made or last reset, and none of them is cut
  off as long as the reading of the clock is itself a span;
* to start it while it runs, to stop it while it does not, and to read it change nothing, neither
  then nor later;
* what it shows does not decrease until it is reset. -/
theorem run_exact (start : Nat) (es : List Event) :
    let s := run start es
    let calls := callsFrom start es
    (s.watch.isRunning = true ↔ RunsAt calls s.now) ∧
    s.shown = Span.ofNanos (timeRun calls s.now) ∧
    (s.now < spanBound → s.shown.nanos = timeRun calls s.now) ∧
    (RunsAt calls s.now → ∀ later,
      run start (es ++ .called .start :: later) = run start (es ++ later)) ∧
    (¬ RunsAt calls s.now → ∀ later,
      run start (es ++ .called .stop :: later) = run start (es ++ later)) ∧
    (∀ later, run start (es ++ .read :: later) = run start (es ++ later)) ∧
    ∀ later, .called .reset ∉ later →
      s.shown.nanos ≤ (run start (es ++ later)).shown.nanos := by
  intro s calls
  have htallied : Tallied calls s := tallied_run start es
  have hshown : s.shown = Span.ofNanos (timeRun calls s.now) := congrArg Span.ofNanos htallied.total
  refine ⟨htallied.running, hshown, fun hclock => ?_, fun hruns => run_skip ?_,
    fun hstands => run_skip ?_, run_skip rfl, fun later hlater => ?_⟩
  · -- no more time was run than the clock has counted
    have hrun : timeRun calls s.now ≤ s.now := Nat.count_le _
    rw [hshown, Span.nanos_ofNanos (Nat.lt_of_le_of_lt hrun hclock)]
  · rw [Situation.after, take, start_of_isRunning (htallied.running.2 hruns)]
  · rw [← htallied.running, Bool.not_eq_true] at hstands
    rw [Situation.after, take, stop_of_not_isRunning hstands]
  · rw [run_append]
    exact Span.nanos_ofNanos_le (s.total_le_foldl_after hlater)

/-- Started at the moment 10, it runs for three nanoseconds and, started once more, for two; after a
pause of four it runs for one. -/
example :
    let es : List Event := [.called .start, .passes 3, .called .start, .passes 2, .called .stop,
      .passes 4, .called .start, .passes 1, .read]
    (run 10 es).shown = Span.ofNanos 6 ∧ timeRun (callsFrom 10 es) (run 10 es).now = 6 := by
  decide

end Stopwatch

end VulnScan.Time
