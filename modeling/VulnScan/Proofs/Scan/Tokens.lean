import VulnScan.Proofs.Scan.Replay
import VulnScan.Proofs.Scan.Requests
import VulnScan.Proofs.Scan.Stillness

/-! # The token of a workflow

A workflow is cancelled by its token, and so are all its scans. Every scan runs under a token of
its own, which is derived from that of the workflow and cancelled when the scan ends or is given
up, so that nothing that it leaves behind goes on.

The tokens themselves are not modelled. What is assumed of them is `Tokens.Lawful`: a derived token
is cancelled with the one that it was derived from, but not the other way round. From this it
follows that a workflow that was cancelled stays cancelled and starts nothing any more, and that no
end of a scan cancels the workflow (`Workflow.uses_cancelled`).
-/

set_option autoImplicit false

namespace VulnScan.Scan

open Execution (Course Moment Signals)
open LanguageServer (Request)

variable {T σ : Type}

/-! ## Tokens -/

/-- The tokens that have been made, which are numbered. -/
structure Tokens (T : Type) where
  /-- The token has been made. -/
  Known : T → Nat → Prop
  isCancelled : T → Nat → Bool
  /-- The second token is the first, or was derived from it, directly or not. -/
  Reaches : T → Nat → Nat → Prop
  /-- Derives a new token from another. -/
  child : Nat → T → Nat × T
  cancel : Nat → T → T

/-- What is assumed of tokens. -/
structure Tokens.Lawful (tokens : Tokens T) : Prop where
  child_new : ∀ {s parent}, tokens.Known s parent → ¬ tokens.Known s (tokens.child parent s).1
  known_child : ∀ {s parent}, tokens.Known s parent → ∀ token,
    tokens.Known (tokens.child parent s).2 token ↔
      token = (tokens.child parent s).1 ∨ tokens.Known s token
  /-- A token that is derived from a cancelled one is cancelled. -/
  isCancelled_child : ∀ {s parent}, tokens.Known s parent →
    tokens.isCancelled (tokens.child parent s).2 (tokens.child parent s).1 =
      tokens.isCancelled s parent
  isCancelled_child_other : ∀ {s parent token}, tokens.Known s parent → tokens.Known s token →
    tokens.isCancelled (tokens.child parent s).2 token = tokens.isCancelled s token
  /-- A new token reaches no other. -/
  reaches_child_new : ∀ {s parent token}, tokens.Known s parent → tokens.Known s token →
    ¬ tokens.Reaches (tokens.child parent s).2 (tokens.child parent s).1 token
  reaches_child_other : ∀ {s parent t u}, tokens.Known s parent → tokens.Known s t →
    tokens.Known s u → (tokens.Reaches (tokens.child parent s).2 t u ↔ tokens.Reaches s t u)
  reaches_self : ∀ {s token}, tokens.Known s token → tokens.Reaches s token token
  known_cancel : ∀ {s token}, tokens.Known s token → ∀ t,
    tokens.Known (tokens.cancel token s) t ↔ tokens.Known s t
  reaches_cancel : ∀ {s token}, tokens.Known s token → ∀ t u,
    tokens.Reaches (tokens.cancel token s) t u ↔ tokens.Reaches s t u
  /-- What is derived from a token is cancelled with it, and nothing else. -/
  isCancelled_cancel : ∀ {s token t}, tokens.Known s token → tokens.Known s t →
    (tokens.isCancelled (tokens.cancel token s) t = true ↔
      tokens.isCancelled s t = true ∨ tokens.Reaches s token t)

/-- The tokens, the time and the world around a workflow. -/
structure Setting (T σ : Type) where
  tokens : T
  now : Nat
  world : σ

namespace Workflow

/-- Runs a scan under a new token, which is derived from the token of the workflow. Whoever cancels
the scan cancels the workflow; and the token of the scan is cancelled in the end, however the scan
has ended. -/
def runUnder (w : Workflow σ) (tokens : Tokens T) (own : Nat) (target : Net.Endpoint)
    (signals : Signals) (x : Setting T σ) :
    Course σ (Tracer × Finding.Results) × Setting T σ :=
  let (token, derived) := tokens.child own x.tokens
  let course := w.run target signals ⟨x.now, x.world, tokens.isCancelled derived token⟩
  let m := course.final
  let left := if m.cancelled then tokens.cancel own derived else derived
  (course, ⟨tokens.cancel token left, m.now, m.world⟩)

/-- What a workflow with the token `own` may be through, one thing after the other. Its token is
cancelled, as far as it is not a plugin that does so, only if `called`. -/
inductive Uses (w : Workflow σ) (tokens : Tokens T) (own : Nat) (called : Prop)
    (x : Setting T σ) : Setting T σ → Prop
  | start : Uses w tokens own called x x
  /-- Time passes, and the world changes. -/
  | rests {y : Setting T σ} (uses : Uses w tokens own called x y) (now : Nat) (world : σ) :
      Uses w tokens own called x { y with now, world }
  | derives {y : Setting T σ} (uses : Uses w tokens own called x y) {parent : Nat}
      (known : tokens.Known y.tokens parent) :
      Uses w tokens own called x { y with tokens := (tokens.child parent y.tokens).2 }
  | cancels {y : Setting T σ} (uses : Uses w tokens own called x y) {token : Nat}
      (known : tokens.Known y.tokens token) (call : tokens.Reaches y.tokens token own → called) :
      Uses w tokens own called x { y with tokens := tokens.cancel token y.tokens }
  /-- A scan is run; the numbers that the runtime gives to its executions are new ones. -/
  | scans {y : Setting T σ} (uses : Uses w tokens own called x y)
      (crash : Selected → String → String) (target : Net.Endpoint) (signals : Signals)
      (call : signals.cancelAt.isSome → called) :
      Uses w tokens own called x ((w.renumbered crash).runUnder tokens own target signals y).2

/-- A scan that is started at `m` starts nothing: it returns `r` at once, its trace is `t`, and
nothing happens in it, however its steps are interleaved. -/
structure Declines (w : Workflow σ) (target : Net.Endpoint) (m : Moment σ) (t : Tracer)
    (r : Finding.Results) : Prop where
  complete : t.Complete (instant m.now) (instant m.now)
  unselected : t.Unselected
  failed : FailedAsCancelled r
  returns : ∀ signals, w.run target signals m = .reached (t, r) m
  polls : ∃ h s, w.Polls target { start := w.clock m.world, moment := m } h s ∧
    s.control = .returned t r ∧ s.moment = m
  still : ∀ h s, w.Polls target { start := w.clock m.world, moment := m } h s →
    Still m s ∧ Uneventful h

/-- A scan that is cancelled before it begins starts nothing. -/
theorem declines_of_cancelled (w : Workflow σ) (target : Net.Endpoint) {m : Moment σ}
    (hm : m.cancelled = true) : ∃ t r, w.Declines target m t r := by
  obtain ⟨t, r, complete, unselected, failed, returns⟩ := w.run_of_cancelled target hm
  have hruns := w.run_polls target {} m
  rw [returns, Course.meets_reached] at hruns
  obtain ⟨h, s, polls, s', poll, control, moment⟩ := hruns
  exact ⟨t, r, complete, unselected, failed, returns,
    ⟨_, s', .step polls poll, control, moment⟩, fun _ _ polls => polls.still hm⟩

section

variable {w : Workflow σ} {tokens : Tokens T} {own : Nat} {x y : Setting T σ} {called : Prop}

/-! ## One scan -/

/-- A scan is cancelled from the beginning if the workflow is. -/
theorem runUnder_course (lawful : tokens.Lawful) (known : tokens.Known x.tokens own)
    (target : Net.Endpoint) (signals : Signals) :
    (w.runUnder tokens own target signals x).1 =
      w.run target signals ⟨x.now, x.world, tokens.isCancelled x.tokens own⟩ := by
  rw [← lawful.isCancelled_child known]
  rfl

/-- Ending a scan cancels no token that was there before; only calls during the scan do. -/
theorem isCancelled_runUnder (lawful : tokens.Lawful) (known : tokens.Known x.tokens own)
    (target : Net.Endpoint) (signals : Signals) {t : Nat} (ht : tokens.Known x.tokens t) :
    tokens.isCancelled (w.runUnder tokens own target signals x).2.tokens t = true ↔
      tokens.isCancelled x.tokens t = true ∨
        (w.runUnder tokens own target signals x).1.final.cancelled = true ∧
          tokens.Reaches x.tokens own t := by
  have hknown := lawful.known_child known
  have hknown_own := (hknown own).2 (.inr known)
  have hknown_token := (hknown _).2 (.inl rfl)
  have hknown_t := (hknown t).2 (.inr ht)
  have hother := lawful.isCancelled_child_other known ht
  have hown := lawful.reaches_child_other known known ht
  -- the token of the scan is new, so that to cancel it is nothing to the others
  have hnew := lawful.reaches_child_new known ht
  simp only [runUnder]
  -- of the run it matters only whether it was cancelled
  generalize (w.run _ _ _).final = m
  cases m.cancelled with
  | false =>
      simp only [Bool.false_eq_true, if_false, false_and, or_false]
      rw [lawful.isCancelled_cancel hknown_token hknown_t, hother]
      exact or_iff_left hnew
  | true =>
      simp only [if_true, true_and]
      rw [lawful.isCancelled_cancel ((lawful.known_cancel hknown_own _).2 hknown_token)
          ((lawful.known_cancel hknown_own t).2 hknown_t),
        lawful.reaches_cancel hknown_own, lawful.isCancelled_cancel hknown_own hknown_t, hother,
        hown]
      exact or_iff_left hnew

theorem known_runUnder (lawful : tokens.Lawful) (known : tokens.Known x.tokens own)
    (target : Net.Endpoint) (signals : Signals) {t : Nat} (ht : tokens.Known x.tokens t) :
    tokens.Known (w.runUnder tokens own target signals x).2.tokens t := by
  simp only [runUnder]
  generalize (w.run _ _ _).final = m
  have hknown := lawful.known_child known
  have hknown_own := (hknown own).2 (.inr known)
  cases m.cancelled with
  | false => exact (lawful.known_cancel ((hknown _).2 (.inl rfl)) t).2 ((hknown t).2 (.inr ht))
  | true =>
      refine (lawful.known_cancel ?_ t).2 ?_
      · exact (lawful.known_cancel hknown_own _).2 ((hknown _).2 (.inl rfl))
      · exact (lawful.known_cancel hknown_own t).2 ((hknown t).2 (.inr ht))

/-! ## Many scans -/

theorem Uses.known (uses : w.Uses tokens own called x y) (lawful : tokens.Lawful)
    (known : tokens.Known x.tokens own) : tokens.Known y.tokens own := by
  induction uses with
  | start => exact known
  | rests uses now world ih => exact ih
  | derives uses parent ih => exact (lawful.known_child parent own).2 (.inr ih)
  | cancels uses token call ih => exact (lawful.known_cancel token own).2 ih
  | scans uses crash target signals call ih => exact known_runUnder lawful ih target signals ih

/-- What it may be through after something else, it may be through. -/
theorem Uses.trans {z : Setting T σ} (uses : w.Uses tokens own called x y)
    (uses' : w.Uses tokens own called y z) : w.Uses tokens own called x z := by
  induction uses' with
  | start => exact uses
  | rests _ now world ih => exact ih.rests now world
  | derives _ known ih => exact ih.derives known
  | cancels _ known call ih => exact ih.cancels known call
  | scans _ crash target signals call ih => exact ih.scans crash target signals call

/-- A workflow that was cancelled stays cancelled. -/
theorem Uses.isCancelled (uses : w.Uses tokens own called x y) (lawful : tokens.Lawful)
    (known : tokens.Known x.tokens own) (cancelled : tokens.isCancelled x.tokens own = true) :
    tokens.isCancelled y.tokens own = true := by
  induction uses with
  | start => exact cancelled
  | rests uses now world ih => exact ih
  | derives uses parent ih =>
      exact (lawful.isCancelled_child_other parent (uses.known lawful known)).trans ih
  | cancels uses token call ih =>
      exact (lawful.isCancelled_cancel token (uses.known lawful known)).2 (.inl ih)
  | scans uses crash target signals call ih =>
      have hown := uses.known lawful known
      exact (isCancelled_runUnder lawful hown target signals hown).2 (.inl ih)

/-- A workflow that nobody cancels is not cancelled by what it is used for. -/
theorem Uses.isCancelled_of_calm (uses : w.Uses tokens own False x y) (lawful : tokens.Lawful)
    (known : tokens.Known x.tokens own)
    (calm : ∀ e ∈ w.registry.entries, e.body.All fun _ a => ¬ a.MayCancel)
    (cancelled : tokens.isCancelled y.tokens own = true) :
    tokens.isCancelled x.tokens own = true := by
  induction uses with
  | start => exact cancelled
  | rests uses now world ih => exact ih cancelled
  | derives uses parent ih =>
      rw [lawful.isCancelled_child_other parent (uses.known lawful known)] at cancelled
      exact ih cancelled
  | cancels uses token call ih =>
      rcases (lawful.isCancelled_cancel token (uses.known lawful known)).1 cancelled with h | h
      · exact ih h
      · exact (call h).elim
  | @scans y uses crash target signals call ih =>
      have hown := uses.known lawful known
      rcases (isCancelled_runUnder lawful hown target signals hown).1 cancelled with h | ⟨h, -⟩
      · exact ih h
      · rw [runUnder_course lawful hown] at h
        have hquiet : signals.cancelAt = none := Option.not_isSome_iff_eq_none.1 call
        exact ih ((w.renumbered crash).run_calm hquiet calm h)

/-- **A workflow that was cancelled starts nothing.** Whatever it has been through since, every scan
that it is asked for fails as a cancelled scan at the moment at which it is started, without a call
of any logic, and without a list of the plugins that apply. Ending a scan, on the other hand, in
whatever way, does not cancel the workflow: that takes a plugin that calls for it, or somebody
outside. -/
theorem uses_cancelled (w : Workflow σ) (lawful : tokens.Lawful)
    (known : tokens.Known x.tokens own) :
    (tokens.isCancelled x.tokens own = true → ∀ y, w.Uses tokens own True x y →
      tokens.isCancelled y.tokens own = true ∧ ∀ target, ∃ t r,
        w.Declines target ⟨y.now, y.world, true⟩ t r ∧
          ∀ signals, (w.runUnder tokens own target signals y).1 =
            .reached (t, r) ⟨y.now, y.world, true⟩) ∧
    (∀ target signals t, tokens.Known x.tokens t →
      (tokens.isCancelled (w.runUnder tokens own target signals x).2.tokens t = true ↔
        tokens.isCancelled x.tokens t = true ∨
          (w.runUnder tokens own target signals x).1.final.cancelled = true ∧
            tokens.Reaches x.tokens own t)) ∧
    ((∀ e ∈ w.registry.entries, e.body.All fun _ a => ¬ a.MayCancel) →
      ∀ y, w.Uses tokens own False x y →
        tokens.isCancelled y.tokens own = tokens.isCancelled x.tokens own) := by
  refine ⟨fun cancelled y uses => ?_, fun target signals t ht => ?_, fun calm y uses => ?_⟩
  · have hy := uses.isCancelled lawful known cancelled
    refine ⟨hy, fun target => ?_⟩
    obtain ⟨t, r, declines⟩ := w.declines_of_cancelled target (m := ⟨y.now, y.world, true⟩) rfl
    refine ⟨t, r, declines, fun signals => ?_⟩
    rw [runUnder_course lawful (uses.known lawful known), hy]
    exact declines.returns signals
  · exact isCancelled_runUnder lawful known target signals ht
  · rw [Bool.eq_iff_iff]
    exact ⟨uses.isCancelled_of_calm lawful known calm, uses.isCancelled lawful known⟩

end

end Workflow

/-! ## A list of tokens -/

/-- A token that was made: those that it was derived from, directly or not. -/
structure Token where
  origins : List Nat := []
  cancelled : Bool := false

/-- All tokens that were made, in the order in which they were. -/
structure Issued where
  list : List Token := []
  /-- A token was derived from others that had been made. -/
  origins_lt : ∀ t ∈ list, ∀ i ∈ t.origins, i < list.length := by simp

namespace Issued

/-- The token is cancelled. -/
def isCancelled (s : Issued) (i : Nat) : Bool := s.list[i]?.any Token.cancelled

/-- A token that is derived from the one with number `i`. -/
def derived (s : Issued) (i : Nat) : Token :=
  ⟨(s.list[i]?.map fun t => i :: t.origins).getD [], s.isCancelled i⟩

theorem derived_origins_lt (s : Issued) (i : Nat) :
    ∀ j ∈ (s.derived i).origins, j < s.list.length := by
  intro j hj
  unfold derived at hj
  cases hi : s.list[i]? with
  | none => simp [hi] at hj
  | some t =>
      obtain ⟨hlt, -⟩ := List.getElem?_eq_some_iff.1 hi
      simp only [hi, Option.map_some, Option.getD_some, List.mem_cons] at hj
      rcases hj with rfl | hj
      · exact hlt
      · exact s.origins_lt t (List.mem_of_getElem? hi) j hj

def child (i : Nat) (s : Issued) : Nat × Issued :=
  (s.list.length,
    { list := s.list ++ [s.derived i]
      origins_lt := by
        intro t ht j hj
        rw [List.length_append, List.length_singleton]
        refine Nat.lt_succ_of_lt ?_
        rcases List.mem_append.1 ht with ht | ht
        · exact s.origins_lt t ht j hj
        · rw [List.mem_singleton.1 ht] at hj
          exact s.derived_origins_lt i j hj })

/-- The token `t` with number `i`, after that with number `j` was cancelled. -/
def heed (j i : Nat) (t : Token) : Token :=
  { t with cancelled := t.cancelled || j == i || t.origins.contains j }

def cancel (j : Nat) (s : Issued) : Issued where
  list := s.list.mapIdx (heed j)
  origins_lt := by
    intro t ht i hi
    obtain ⟨k, hk, rfl⟩ := List.mem_mapIdx.1 ht
    rw [List.length_mapIdx]
    exact s.origins_lt _ (List.getElem_mem hk) i hi

theorem getElem?_cancel (j : Nat) (s : Issued) (i : Nat) :
    (s.cancel j).list[i]? = s.list[i]?.map (heed j i) := List.getElem?_mapIdx

end Issued

/-- Tokens that are kept in a list. -/
def issuing : Tokens Issued where
  Known s i := i < s.list.length
  isCancelled := Issued.isCancelled
  Reaches s i j := i = j ∨ ∃ t, s.list[j]? = some t ∧ i ∈ t.origins
  child := Issued.child
  cancel := Issued.cancel

theorem issuing_lawful : issuing.Lawful where
  child_new _ := Nat.lt_irrefl _
  known_child {s parent} _ t := by
    show t < (s.list ++ [_]).length ↔ t = s.list.length ∨ t < s.list.length
    rw [List.length_append, List.length_singleton]
    omega
  isCancelled_child {s parent} _ := by
    show (s.list ++ [_])[s.list.length]?.any Token.cancelled = _
    rw [List.getElem?_concat_length]
    rfl
  isCancelled_child_other {s parent t} _ ht := by
    show (s.list ++ [_])[t]?.any Token.cancelled = s.list[t]?.any Token.cancelled
    rw [List.getElem?_append_left ht]
  reaches_child_new {s parent t} _ ht := by
    rintro (rfl | ⟨k, hk, hmem⟩)
    · exact Nat.lt_irrefl _ ht
    · rw [show (issuing.child parent s).2.list[t]? = s.list[t]? from
        List.getElem?_append_left ht] at hk
      exact Nat.lt_irrefl _ (s.origins_lt k (List.mem_of_getElem? hk) _ hmem)
  reaches_child_other {s parent t u} _ _ hu := by
    show (t = u ∨ ∃ k, (s.list ++ [_])[u]? = some k ∧ t ∈ k.origins) ↔ _
    rw [List.getElem?_append_left hu]
    exact Iff.rfl
  reaches_self _ := .inl rfl
  known_cancel {s token} _ t := by
    show t < (s.list.mapIdx _).length ↔ t < s.list.length
    rw [List.length_mapIdx]
  reaches_cancel {s token} _ t u := by
    show (t = u ∨ ∃ k : Token, (s.cancel token).list[u]? = some k ∧ t ∈ k.origins) ↔
      (t = u ∨ ∃ k : Token, s.list[u]? = some k ∧ t ∈ k.origins)
    rw [Issued.getElem?_cancel]
    cases s.list[u]? with
    | none => simp
    | some k => simp [Issued.heed]
  isCancelled_cancel {s token t} _ ht := by
    show (s.cancel token).list[t]?.any Token.cancelled = true ↔
      s.list[t]?.any Token.cancelled = true ∨
        (token = t ∨ ∃ k : Token, s.list[t]? = some k ∧ token ∈ k.origins)
    obtain ⟨k, hk⟩ : ∃ k, s.list[t]? = some k := ⟨_, List.getElem?_eq_getElem ht⟩
    rw [Issued.getElem?_cancel, hk]
    simp [Issued.heed, or_assoc]

/-- The tokens of a workflow that was not cancelled, and of a scan that it has run. -/
def granted : Issued where
  list := [⟨[], false⟩, ⟨[0], true⟩]

/-- The tokens of a workflow that was cancelled, and of a scan that it has run. -/
def revoked : Issued where
  list := [⟨[], true⟩, ⟨[0], true⟩]

theorem catalogueWorkflow_calm :
    ∀ e ∈ catalogueWorkflow.registry.entries, e.body.All fun _ a => ¬ a.MayCancel := by
  refine forall_mem_catalogueWorkflow (fun target => ?_) ⟨fun limit => ?_, fun limit => ?_,
    fun request limit => ?_⟩
  all_goals simp [Execution.Activity.MayCancel, Execution.Activity.value, catalogueProxy,
    LanguageServer.Answers.recorder]

/-- A cancelled workflow with a server starts nothing after a rest, and does not ask the server. One
that is not cancelled does not become so by its scans. -/
theorem catalogueWorkflow_cancelled :
    (issuing.Lawful ∧ issuing.Known revoked 0 ∧
      ∃ t r, catalogueWorkflow.Declines (.ofHostname "localhost") ⟨7, [], true⟩ t r ∧
        ∀ signals, (catalogueWorkflow.runUnder issuing 0 (.ofHostname "localhost") signals
          ⟨revoked, 7, []⟩).1 = .reached (t, r) ⟨7, [], true⟩) ∧
    issuing.Known granted 0 ∧ ∀ y, catalogueWorkflow.Uses issuing 0 False ⟨granted, 0, []⟩ y →
      issuing.isCancelled y.tokens 0 = false := by
  have hrevoked : issuing.Known revoked 0 := Nat.zero_lt_two
  have hgranted : issuing.Known granted 0 := Nat.zero_lt_two
  refine ⟨⟨issuing_lawful, hrevoked, ?_⟩, hgranted, fun y uses => ?_⟩
  · have hrest : catalogueWorkflow.Uses issuing 0 True ⟨revoked, 0, []⟩ ⟨revoked, 7, []⟩ :=
      .rests .start 7 []
    obtain ⟨hstays, -, -⟩ := Workflow.uses_cancelled (x := ⟨revoked, 0, []⟩) catalogueWorkflow
      issuing_lawful hrevoked
    exact (hstays rfl _ hrest).2 _
  · obtain ⟨-, -, hcalm⟩ := Workflow.uses_cancelled (x := ⟨granted, 0, []⟩) catalogueWorkflow
      issuing_lawful hgranted
    exact hcalm catalogueWorkflow_calm y uses

end VulnScan.Scan
