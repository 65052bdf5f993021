import VulnScan.Execution.Alone
import VulnScan.Proofs.LanguageServer.Requests

/-! # What a proxy does, step by step

Both uses of a proxy begin with health checks, and the server is asked for more only if the last of
them says that it is serving. `FollowsProtocol` says exactly what happens when nothing breaks into
such a use, whatever the server answers and however long it takes: which calls are made with which
deadline, which waits lie between them, and how it ends. A proxy keeps to it
(`Proxy.follows_protocol`), and so does one that counts its attempts in a word of 32 bits.

To see the waits, an activity is made to enter them in its world before it waits (`noted`).
-/

set_option autoImplicit false

namespace VulnScan.Execution

variable {σ α β : Type}

/-! ## Activities on their own -/

namespace Activity

/-- The activity that enters each of its waits in the world before it waits. -/
def noted (enter : Nat → σ → σ) : Activity σ α → Activity σ α
  | .finish o => .finish o
  | .forever => .forever
  | .wait d next => .touch (fun _ w => enter d w) fun _ _ => .wait d (next.noted enter)
  | .touch change next => .touch change fun now w => (next now w).noted enter
  | .cancel next => .cancel (next.noted enter)

theorem noted_andThen (enter : Nat → σ → σ) (a : Activity σ α) (f : α → Activity σ β) :
    (a.andThen f).noted enter = (a.noted enter).andThen fun v => (f v).noted enter := by
  induction a with
  | finish o => cases o <;> rfl
  | forever => rfl
  | wait d next ih => simp only [andThen, noted, ih]
  | touch change next ih => simp only [andThen, noted, ih]
  | cancel next ih => simp only [andThen, noted, ih]

/-- What has reached a value goes on from there. -/
theorem alone_andThen {a : Activity σ α} {f : α → Activity σ β} {signals : Signals}
    {m m' : Moment σ} {o : Outcome α} (h : a.alone signals m = .reached (some o) m') :
    (a.andThen f).alone signals m = ((Activity.finish o).andThen f).alone signals m' := by
  induction a generalizing m with
  | finish o' =>
    cases h
    rfl
  | forever =>
    simp only [alone] at h
    split at h
    · cases h
    · split at h <;> cases h
  | wait d next ih =>
    cases d with
    | zero => exact ih h
    | succ d =>
      simp only [andThen, alone] at h ⊢
      split at h
      · cases h
      · next hlive =>
        rw [if_neg hlive]
        split at h
        · cases h
        · cases h
        · exact ih h
  | touch change next ih => exact ih _ _ h
  | cancel next ih => exact ih h

/-- Nothing breaks into a wait. -/
theorem alone_wait (d : Nat) (next : Activity σ α) (now : Nat) (w : σ) :
    (Activity.wait d next).alone {} ⟨now, w, false⟩ = next.alone {} ⟨now + d, w, false⟩ := by
  cases d with
  | zero => rfl
  | succ d => rfl

end Activity

end VulnScan.Execution

namespace VulnScan.LanguageServer

open Execution (Activity Outcome Moment)

/-! ## Events -/

/-- What happens in the use of a proxy. -/
inductive Event where
  /-- The server is called. -/
  | call (request : Request) (deadline : Time.Span)
  /-- So many ticks pass. -/
  | pause (ticks : Nat)
deriving DecidableEq

/-- The time that passes. -/
def Event.ticks : Event → Nat
  | .call _ _ => 0
  | .pause d => d

/-- The request that is made, if one is. -/
def Event.request? : Event → Option Request
  | .call r _ => some r
  | .pause _ => none

/-- The calls among events, by their kinds. -/
def callsOf (log : List Event) : Calls := Calls.of (log.filterMap Event.request?)

/-- Enters a wait. -/
def enterPause (ticks : Nat) (log : List Event) : List Event := log ++ [.pause ticks]

/-- The time that passes in some events. -/
def elapsed (events : List Event) : Nat := events.foldr (fun event ticks => event.ticks + ticks) 0

theorem elapsed_append (events more : List Event) :
    elapsed (events ++ more) = elapsed events + elapsed more := by
  induction events with
  | nil => exact (Nat.zero_add _).symm
  | cons event events ih =>
    show event.ticks + elapsed (events ++ more) = event.ticks + elapsed events + elapsed more
    omega

/-- The moment after some events. -/
def after (now : Nat) (log events : List Event) : Moment (List Event) :=
  ⟨now + elapsed events, log ++ events, false⟩

theorem after_after (now : Nat) (log events more : List Event) :
    after (after now log events).now (log ++ events) more = after now log (events ++ more) := by
  simp [after, elapsed_append, Nat.add_assoc]

/-- How many ticks a server takes for its answers, by the number of the calls of the same kind
before. -/
structure Lags where
  health : Nat → Nat
  list : Nat → Nat
  run : Nat → Nat

/-- The server that gives these answers, each after its time, and enters its calls. -/
def Answers.timed (answers : Answers) (lags : Lags) : Server (List Event) where
  health deadline := .touch (fun _ log => log ++ [.call .health deadline]) fun _ log =>
    .wait (lags.health (callsOf log).health) (.value (answers.health (callsOf log).health))
  list deadline := .touch (fun _ log => log ++ [.call .list deadline]) fun _ log =>
    .wait (lags.list (callsOf log).list) (.value (answers.list (callsOf log).list))
  run request deadline := .touch (fun _ log => log ++ [.call (.run request) deadline]) fun _ log =>
    .wait (lags.run (callsOf log).run) (.value (answers.run (callsOf log).run request))

/-- What a server is asked for once it is serving, its answer and the time that it takes. -/
structure Errand (α : Type) where
  request : Request
  lag : Nat
  answer : Except CallError α

/-- The listing of the plugins. -/
def Answers.listing (answers : Answers) (lags : Lags) (calls : Calls) :
    Errand (List Plugin.Definition) :=
  ⟨.list, lags.list calls.list, answers.list calls.list⟩

/-- A run. -/
def Answers.running (answers : Answers) (lags : Lags) (r : RunRequest) (calls : Calls) :
    Errand (List Finding.Report) :=
  ⟨.run r, lags.run calls.run, answers.run calls.run r⟩

theorem callsOf_append_pause (log : List Event) (ticks : Nat) :
    callsOf (log ++ [.pause ticks]) = callsOf log := by
  simp [callsOf, Event.request?, List.filterMap_cons]

theorem callsOf_append_call (log : List Event) (deadline : Time.Span) :
    (callsOf (log ++ [.call .health deadline])).health = (callsOf log).health + 1 := by
  simp [callsOf, Calls.of, Event.request?]

/-- A call, and the time until its answer. -/
theorem alone_call {α : Type} {request : Request} {deadline : Time.Span} {lag : List Event → Nat}
    {answer : List Event → Except CallError α} (now : Nat) (log : List Event) :
    ((Activity.touch (fun _ log => log ++ [.call request deadline]) fun _ log =>
        .wait (lag log) (.value (answer log))).noted enterPause).alone {} ⟨now, log, false⟩
      = .reached (some (.value (answer log))) (after now log [.call request deadline,
          .pause (lag log)]) := by
  simp [Activity.noted, Activity.alone, Activity.alone_wait, Activity.value, after, enterPause,
    elapsed, Event.ticks]

/-- A wait is entered, and its time passes. -/
theorem alone_noted_wait {α : Type} (d : Nat) (a : Activity (List Event) α) (now : Nat)
    (log : List Event) :
    ((Activity.wait d a).noted enterPause).alone {} ⟨now, log, false⟩
      = (a.noted enterPause).alone {} (after now log [.pause d]) :=
  Activity.alone_wait d _ now _

/-! ## Delays -/

/-- From the thirty-third retry on the delay stays the same. -/
theorem Backoff.delay?_min (b : Backoff) (retry : Nat) :
    b.delay? (min retry 32) = b.delay? retry := by
  have hfactor : b.factor (min retry 32) = b.factor retry := by
    rw [factor, factor, Nat.min_assoc, Nat.min_self]
  rw [delay?, delay?, hfactor]

/-- The standard backoff always has a delay. -/
theorem Backoff.standard_delays (retry : Nat) : (standard.delay? retry).isSome := by
  have hfew : ∀ r < 33, (standard.delay? r).isSome := by decide +kernel
  rw [← delay?_min]
  exact hfew _ (by omega)

namespace Proxy

/-! ## Health checks -/

/-- The answers to health checks make for `k` checks, of at most `limit`: all but the last fail,
and the last one does not, unless no more may be made. -/
structure CheckCount (health : Nat → Except CallError Health) (limit k : Nat) : Prop where
  pos : 0 < k
  le : k ≤ limit
  failed : ∀ i, i + 1 < k → ∃ e, health i = .error e
  decided : k < limit → ∃ h, health (k - 1) = .ok h

/-- The answers leave no choice. -/
theorem CheckCount.unique {health : Nat → Except CallError Health} {limit k k' : Nat}
    (h : CheckCount health limit k) (h' : CheckCount health limit k') : k = k' := by
  have hle : ∀ {k k'}, CheckCount health limit k → CheckCount health limit k' → k ≤ k' := by
    intro k k' h h'
    refine Nat.not_lt.1 fun hlt => ?_
    obtain ⟨state, hok⟩ := h'.decided (Nat.lt_of_lt_of_le hlt h.le)
    obtain ⟨e, herror⟩ := h.failed (k' - 1) (by have := h'.pos; omega)
    rw [hok] at herror
    cases herror
  exact Nat.le_antisymm (hle h h') (hle h' h)

/-- What comes of the last health check. -/
def verdict : Except CallError Health → Outcome Bool
  | .ok h => .value (h == .serving)
  | .error e => .fault (unregistered e)

theorem healthFrom_zero {σ : Type} (p : Proxy σ) (i : Nat) :
    p.healthFrom i 0 =
      (p.server.health p.deadline).andThen fun answer => .finish (verdict answer) := by
  show (p.server.health p.deadline).andThen _ = _
  congr 1
  funext answer
  cases answer <;> rfl

theorem healthFrom_succ {σ : Type} (p : Proxy σ) (i left : Nat) :
    p.healthFrom i (left + 1) = (p.server.health p.deadline).andThen fun answer =>
      match answer with
      | .ok h => .finish (.value (h == .serving))
      | .error _ =>
        match p.backoff.delay? i with
        | some d => .wait d.ticks (p.healthFrom (i + 1) left)
        | none => .finish (.collapse Backoff.tooLong) := by
  show (p.server.health p.deadline).andThen _ = _
  refine congrArg _ (funext fun answer => ?_)
  cases answer with
  | ok h => rfl
  | error e =>
    show (match p.backoff.delay? i with
      | some d => (Activity.pause d).andThen fun _ => p.healthFrom (i + 1) left
      | none => .finish (.collapse Backoff.tooLong)) = _
    cases p.backoff.delay? i <;> rfl

variable (p : Proxy (List Event)) (lags : Lags)

/-- The check with the number `i`, if `n` were made in earlier uses. -/
def checkEvents (n i : Nat) : List Event :=
  [.call .health p.deadline, .pause (lags.health (n + i))]

/-- The wait after the failed check with the number `i`. -/
def retryEvents (i : Nat) : List Event :=
  match p.backoff.delay? i with
  | some d => [.pause d.ticks]
  | none => []

/-- The check with the number `i` and `more` checks after it, with the waits between them. -/
def checksFrom (n i more : Nat) : List Event :=
  (List.range' i more).flatMap (fun j => p.checkEvents lags n j ++ p.retryEvents j)
    ++ p.checkEvents lags n (i + more)

/-- `k` checks, with the waits between them. -/
def checks (n k : Nat) : List Event := p.checksFrom lags n 0 (k - 1)

theorem checksFrom_zero (n i : Nat) : p.checksFrom lags n i 0 = p.checkEvents lags n i := by
  simp [checksFrom]

theorem checksFrom_succ (n i more : Nat) : p.checksFrom lags n i (more + 1)
    = p.checkEvents lags n i ++ (p.retryEvents i ++ p.checksFrom lags n (i + 1) more) := by
  have hlast : i + (more + 1) = i + 1 + more := by omega
  simp [checksFrom, List.range'_succ, hlast]

variable {p lags} {answers : Answers}

theorem alone_check (hserver : p.server = answers.timed lags) {n i : Nat} {log : List Event}
    (hcount : (callsOf log).health = n + i) (now : Nat) :
    ((p.server.health p.deadline).noted enterPause).alone {} ⟨now, log, false⟩
      = .reached (some (.value (answers.health (n + i))))
        (after now log (p.checkEvents lags n i)) := by
  rw [hserver, checkEvents, ← hcount]
  exact alone_call now log

/-- The next check has the next number. -/
theorem callsOf_retry {n i : Nat} {log : List Event} (hcount : (callsOf log).health = n + i) :
    (callsOf (log ++ (p.checkEvents lags n i ++ p.retryEvents i))).health = n + (i + 1) := by
  have hcheck : (callsOf (log ++ p.checkEvents lags n i)).health = n + (i + 1) := by
    rw [checkEvents, ← List.singleton_append, ← List.append_assoc, callsOf_append_pause,
      callsOf_append_call, hcount]
    omega
  rw [← List.append_assoc, retryEvents]
  split
  · rw [callsOf_append_pause, hcheck]
  · rw [List.append_nil, hcheck]

/-- After a failed check and its wait, the remaining checks are made. -/
theorem alone_healthFrom_retry {n i left now : Nat} {log : List Event} {e : CallError}
    (hcheck : ((p.server.health p.deadline).noted enterPause).alone {} ⟨now, log, false⟩
      = .reached (some (.value (.error e))) (after now log (p.checkEvents lags n i)))
    (hdelay : (p.backoff.delay? i).isSome) :
    ((p.healthFrom i (left + 1)).noted enterPause).alone {} ⟨now, log, false⟩
      = ((p.healthFrom (i + 1) left).noted enterPause).alone {}
          (after now log (p.checkEvents lags n i ++ p.retryEvents i)) := by
  obtain ⟨d, hd⟩ := Option.isSome_iff_exists.1 hdelay
  have hretry : p.retryEvents i = [.pause d.ticks] := by simp only [retryEvents, hd]
  rw [healthFrom_succ, Activity.noted_andThen, Activity.alone_andThen hcheck, hretry, ← after_after]
  simp only [Activity.andThen, hd]
  exact alone_noted_wait d.ticks _ _ _

/-- The check with the number `i`, of which `left` may follow: some number `more` of checks do
follow, and the last one decides. If the wait after one of them does not exist, that one is the
last. The induction is on the checks that may follow. -/
theorem alone_healthFrom (hserver : p.server = answers.timed lags) {n : Nat} (i left : Nat)
    {log : List Event} (hcount : (callsOf log).health = n + i) (now : Nat) :
    ∃ more ≤ left, (∀ j < more, ∃ e, answers.health (n + (i + j)) = .error e) ∧
      (more < left → ∃ h, answers.health (n + (i + more)) = .ok h) ∧
      ((∀ j < more, (p.backoff.delay? (i + j)).isSome) →
        ((p.healthFrom i left).noted enterPause).alone {} ⟨now, log, false⟩
          = .reached (some (verdict (answers.health (n + (i + more)))))
              (after now log (p.checksFrom lags n i more))) ∧
      ∀ j < more, p.backoff.delay? (i + j) = none → (∀ j' < j, (p.backoff.delay? (i + j')).isSome) →
        ((p.healthFrom i left).noted enterPause).alone {} ⟨now, log, false⟩
          = .reached (some (.collapse Backoff.tooLong))
            (after now log (p.checksFrom lags n i j)) := by
  induction left generalizing i log now with
  | zero =>
    refine ⟨0, Nat.le_refl 0, nofun, fun h => absurd h (Nat.lt_irrefl 0), fun _ => ?_, nofun⟩
    rw [healthFrom_zero, Activity.noted_andThen,
      Activity.alone_andThen (alone_check hserver hcount now), checksFrom_zero]
    rfl
  | succ left ih =>
    have hcheck := alone_check hserver hcount now
    cases hanswer : answers.health (n + i) with
    | ok h =>
      rw [hanswer] at hcheck
      refine ⟨0, Nat.zero_le _, nofun, fun _ => ⟨h, hanswer⟩, fun _ => ?_, nofun⟩
      rw [healthFrom_succ, Activity.noted_andThen, Activity.alone_andThen hcheck, checksFrom_zero]
      exact congrArg (fun answer => Execution.Course.reached (some (verdict answer)) _)
        hanswer.symm
    | error e =>
      rw [hanswer] at hcheck
      obtain ⟨more, hmore, hfailed, hdecided, hdone, hstopped⟩ :=
        ih (i + 1) (callsOf_retry hcount)
          (after now log (p.checkEvents lags n i ++ p.retryEvents i)).now
      have hshift : ∀ j, i + 1 + j = i + (j + 1) := fun j => by omega
      refine ⟨more + 1, Nat.succ_le_succ hmore, ?_, ?_, ?_, ?_⟩
      · rintro (_ | j) hj
        · exact ⟨e, hanswer⟩
        · rw [← hshift]
          exact hfailed j (by omega)
      · intro hlt
        rw [← hshift]
        exact hdecided (by omega)
      · intro hdelays
        refine (alone_healthFrom_retry hcheck (hdelays 0 (Nat.succ_pos _))).trans
          ((hdone fun j hj => ?_).trans ?_)
        · rw [hshift]
          exact hdelays (j + 1) (by omega)
        · rw [hshift, after_after, List.append_assoc, ← checksFrom_succ]
      · rintro (_ | j) hj hnone hbefore
        · rw [healthFrom_succ, Activity.noted_andThen, Activity.alone_andThen hcheck,
            checksFrom_zero]
          rw [Nat.add_zero] at hnone
          simp [Activity.andThen, hnone, Activity.noted, Activity.alone]
        · refine (alone_healthFrom_retry hcheck (hbefore 0 (Nat.succ_pos _))).trans
            ((hstopped j (by omega) (by rwa [hshift]) fun j' hj' => ?_).trans ?_)
          · rw [hshift]
            exact hbefore (j' + 1) (by omega)
          · rw [after_after, List.append_assoc, ← checksFrom_succ]

/-! ## Whole uses -/

/-- What happens after the last health check, by its answer. -/
def errandEvents {α : Type} (p : Proxy (List Event)) (errand : Errand α) :
    Except CallError Health → List Event
  | .ok .serving => [.call errand.request p.deadline, .pause errand.lag]
  | .ok .notServing => []
  | .error _ => []

/-- What comes of a use, by the answer to the last health check; `idle` comes of a server that is
not serving. -/
def conclusion {α : Type} (idle : α) (errand : Errand α) : Except CallError Health → Outcome α
  | .error e => .fault (unregistered e)
  | .ok .notServing => .value idle
  | .ok .serving =>
    match errand.answer with
    | .ok a => .value a
    | .error e => .fault (unanswered e)

/-- The use of a proxy that begins at any moment is `k` health checks, as many as the answers make
for, with the delays of the backoff between them, and then the errand, if the last check found the
server serving; the last check and the answer to the errand say what comes of it. A delay that
does not exist ends the use where it would begin. -/
def FollowsProtocol {α : Type} (p : Proxy (List Event)) (answers : Answers) (lags : Lags) (idle : α)
    (errand : Calls → Errand α) (use : Activity (List Event) α) : Prop :=
  ∀ now log, ∃ k,
    CheckCount (fun i => answers.health ((callsOf log).health + i)) (max p.attempts 1) k ∧
    ((∀ i, i + 1 < k → (p.backoff.delay? i).isSome) →
      let last := answers.health ((callsOf log).health + (k - 1))
      (use.noted enterPause).alone {} ⟨now, log, false⟩
        = .reached (some (conclusion idle (errand (callsOf log)) last))
            (after now log (p.checks lags (callsOf log).health k
              ++ p.errandEvents (errand (callsOf log)) last))) ∧
    ∀ i, i + 1 < k → p.backoff.delay? i = none → (∀ j < i, (p.backoff.delay? j).isSome) →
      (use.noted enterPause).alone {} ⟨now, log, false⟩
        = .reached (some (.collapse Backoff.tooLong))
            (after now log (p.checks lags (callsOf log).health (i + 1)))

/-- Health checks are no other calls. -/
theorem callsOf_checks (n k : Nat) (log : List Event) :
    (callsOf (log ++ p.checks lags n k)).list = (callsOf log).list ∧
      (callsOf (log ++ p.checks lags n k)).run = (callsOf log).run := by
  have hcheck : ∀ j, (p.checkEvents lags n j).filterMap Event.request? = [.health] := fun _ => rfl
  have hretry : ∀ j, (p.retryEvents j).filterMap Event.request? = [] := fun j => by
    unfold retryEvents
    cases p.backoff.delay? j <;> rfl
  have hchecks : ∀ r ∈ (p.checks lags n k).filterMap Event.request?, r = .health := by
    simp only [checks, checksFrom, List.filterMap_append, List.filterMap_flatMap, hcheck, hretry]
    grind
  constructor
  · show ((log ++ _).filterMap Event.request?).count .list = _
    have hlists : ((p.checks lags n k).filterMap Event.request?).count .list = 0 :=
      List.count_eq_zero_of_not_mem fun hmem => nomatch hchecks _ hmem
    rw [List.filterMap_append, List.count_append, hlists]
    rfl
  · show (runsOf ((log ++ _).filterMap Event.request?)).length = _
    have hruns : runsOf ((p.checks lags n k).filterMap Event.request?) = [] :=
      List.filterMap_eq_nil_iff.2 fun r hr => by rw [hchecks r hr]; rfl
    rw [List.filterMap_append, runsOf_append, hruns, List.append_nil]
    rfl

/-- A use that asks the server for an errand, if it is serving, keeps to the protocol. -/
theorem whenServing_follows {α : Type} (hserver : p.server = answers.timed lags) (idle : α)
    {errand : Calls → Errand α} {call : Activity (List Event) (Except CallError α)}
    (hsame : ∀ calls calls' : Calls, calls.list = calls'.list → calls.run = calls'.run →
      errand calls = errand calls')
    (hcall : ∀ now log, (call.noted enterPause).alone {} ⟨now, log, false⟩
      = .reached (some (.value (errand (callsOf log)).answer))
          (after now log [.call (errand (callsOf log)).request p.deadline,
            .pause (errand (callsOf log)).lag])) :
    p.FollowsProtocol answers lags idle errand (p.whenServing idle call) := by
  intro now log
  obtain ⟨more, hmore, hfailed, hdecided, hdone, hstopped⟩ :=
    alone_healthFrom hserver 0 (p.attempts - 1) (Nat.add_zero _).symm now
  simp only [Nat.zero_add] at hfailed hdecided hdone hstopped
  refine ⟨more + 1, ⟨Nat.succ_pos _, by omega, fun i hi => hfailed i (by omega), fun hlt =>
    hdecided (by omega)⟩, fun hdelays => ?_, fun i hi hnone hbefore => ?_⟩
  · have hchecked := hdone fun j hj => hdelays j (by omega)
    rw [whenServing, isServing, Activity.noted_andThen, Activity.alone_andThen hchecked]
    simp only [Nat.add_sub_cancel]
    cases answers.health ((callsOf log).health + more) with
    | error e =>
      rw [errandEvents, List.append_nil]
      rfl
    | ok state =>
      cases state with
      | notServing =>
        rw [errandEvents, List.append_nil]
        rfl
      | serving =>
        obtain ⟨hlist, hrun⟩ := @callsOf_checks p lags (callsOf log).health (more + 1) log
        have hasked := hcall (after now log (p.checks lags (callsOf log).health (more + 1))).now
          (log ++ p.checks lags (callsOf log).health (more + 1))
        rw [hsame _ _ hlist hrun] at hasked
        show ((call.andThen _).noted enterPause).alone {}
          (after now log (p.checks lags (callsOf log).health (more + 1))) = _
        rw [Activity.noted_andThen]
        refine (Activity.alone_andThen hasked).trans ?_
        rw [after_after]
        unfold conclusion errandEvents
        cases (errand (callsOf log)).answer <;> rfl
  · rw [whenServing, isServing, Activity.noted_andThen,
      Activity.alone_andThen (hstopped i (by omega) hnone hbefore)]
    rfl

/-! ## Counting in words -/

/-- What is said when a counter is full. -/
def counterFull : String := "attempt to add with overflow"

/-- Asks about the health until there is an answer, with the failed attempts counted in a word, at
most `most` of them. A counter that is full ends the attempts. -/
def countedFrom {σ : Type} (p : Proxy σ) (most failed : Number.Word) : Activity σ Bool :=
  (p.server.health p.deadline).andThen fun answer =>
    match answer with
    | .ok h => .value (h == .serving)
    | .error e =>
      if h : failed.val + 1 < Number.wordBound then
        if most.val ≤ failed.val + 1 then .fault (unregistered e)
        else
          match p.backoff.delay? failed.val with
          | some d => .wait d.ticks (p.countedFrom most ⟨failed.val + 1, h⟩)
          | none => .finish (.collapse Backoff.tooLong)
      else .finish (.collapse counterFull)
termination_by Number.wordBound - failed.val

/-- Whether the server is serving, with the attempts counted in a word; at least one is made. -/
def isServingCounted {σ : Type} (p : Proxy σ) (most : Number.Word) : Activity σ Bool :=
  p.countedFrom (if most = 0 then 1 else most) 0

/-- The counter is never full, as it stays below a word. The induction is on the attempts that are
left. -/
theorem countedFrom_eq {σ : Type} (p : Proxy σ) {most failed : Number.Word} {left : Nat}
    (h : failed.val + 1 + left = most.val) :
    p.countedFrom most failed = p.healthFrom failed.val left := by
  induction left generalizing failed with
  | zero =>
    rw [countedFrom, healthFrom_zero]
    refine congrArg _ (funext fun answer => ?_)
    cases answer with
    | ok h => rfl
    | error e =>
      have hfits : failed.val + 1 < Number.wordBound := by have := most.isLt; omega
      simp only [dif_pos hfits, if_pos (show most.val ≤ failed.val + 1 by omega)]
      rfl
  | succ left ih =>
    have hfits : failed.val + 1 < Number.wordBound := by have := most.isLt; omega
    have hnext : p.countedFrom most ⟨failed.val + 1, hfits⟩ = p.healthFrom (failed.val + 1) left :=
      ih (by show failed.val + 1 + 1 + left = most.val; omega)
    rw [countedFrom, healthFrom_succ]
    refine congrArg _ (funext fun answer => ?_)
    cases answer with
    | ok h => rfl
    | error e =>
      simp only [dif_pos hfits, if_neg (show ¬most.val ≤ failed.val + 1 by omega), hnext]

theorem isServingCounted_eq {σ : Type} (p : Proxy σ) (most : Number.Word)
    (hmost : p.attempts = most.val) : p.isServingCounted most = p.isServing := by
  have hlimit : (0 : Number.Word).val + 1 + (most.val - 1)
      = (if most = 0 then 1 else most : Number.Word).val := by
    by_cases hzero : most = 0
    · subst hzero
      rfl
    · have : most.val ≠ 0 := fun h => hzero (Fin.ext h)
      rw [if_neg hzero]
      show 0 + 1 + (most.val - 1) = most.val
      omega
  rw [isServingCounted, isServing, hmost]
  exact p.countedFrom_eq hlimit

/-- The proxy with the server that gives these answers. -/
def answered {σ : Type} (p : Proxy σ) (answers : Answers) (lags : Lags) : Proxy (List Event) :=
  { p with server := answers.timed lags }

/-- Both uses of a proxy keep to the protocol, whatever the server answers and however long it
takes. So do those of one that counts its attempts in a word, whose counter is never full. -/
theorem follows_protocol {σ : Type} (p : Proxy σ) (answers : Answers) (lags : Lags) :
    (p.answered answers lags).FollowsProtocol answers lags [] (answers.listing lags)
        (p.answered answers lags).plugins ∧
      (∀ host, (p.answered answers lags).FollowsProtocol answers lags []
        (answers.running lags ⟨host, p.queue⟩) ((p.answered answers lags).detect host)) ∧
      ∀ most : Number.Word,
        { p with attempts := most.val }.isServingCounted most
          = { p with attempts := most.val }.isServing := by
  refine ⟨?_, fun host => ?_, fun most => isServingCounted_eq _ most rfl⟩
  · rw [plugins_eq]
    refine whenServing_follows rfl [] (fun calls calls' hlist _ => ?_) alone_call
    rw [Answers.listing, Answers.listing, hlist]
  · rw [detect_eq]
    refine whenServing_follows rfl [] (fun calls calls' _ hrun => ?_) alone_call
    rw [Answers.running, Answers.running, hrun]

end Proxy

end VulnScan.LanguageServer
