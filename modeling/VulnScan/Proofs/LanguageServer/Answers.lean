import VulnScan.LanguageServer.Proxy
import VulnScan.Proofs.Execution.View

/-! # What a proxy makes of the answers of its server

A server gives its answers call by call (`Server.Gives`); what it answers next depends on how many
calls it has had, and that is all that it keeps of the past. From the answers alone it can be told
what the listing of its plugins comes to (`Proxy.listed`) and what a run does (`Proxy.ran`),
however long every call takes.
-/

set_option autoImplicit false

namespace VulnScan.LanguageServer

open Execution (Activity Outcome)
open Execution.Activity

variable {σ γ : Type}

/-- The answers of a server, by the number of the calls of the same kind before. -/
structure Answers where
  health : Nat → Except CallError Health
  list : Nat → Except CallError (List Plugin.Definition)
  run : Nat → RunRequest → Except CallError (List Finding.Report)

/-- How many calls of every kind a server has answered. -/
structure Calls where
  health : Nat := 0
  list : Nat := 0
  run : Nat := 0

/-- The server gives these answers, one after the other; `view` shows how many it has given. -/
structure Server.Gives (server : Server σ) (view : σ → Calls) (answers : Answers) : Prop where
  health : ∀ limit calls, (server.health limit).Yields view
    (fun o calls' => o = .value (answers.health calls.health) ∧
      calls' = { calls with health := calls.health + 1 }) calls
  list : ∀ limit calls, (server.list limit).Yields view
    (fun o calls' => o = .value (answers.list calls.list) ∧
      calls' = { calls with list := calls.list + 1 }) calls
  run : ∀ request limit calls, (server.run request limit).Yields view
    (fun o calls' => o = .value (answers.run calls.run request) ∧
      calls' = { calls with run := calls.run + 1 }) calls

/-- The server that gives these answers at once, in a world that counts its calls. -/
def Answers.server (answers : Answers) : Server Calls where
  health _ := .touch (fun _ calls => { calls with health := calls.health + 1 })
    fun _ calls => .value (answers.health calls.health)
  list _ := .touch (fun _ calls => { calls with list := calls.list + 1 })
    fun _ calls => .value (answers.list calls.list)
  run request _ := .touch (fun _ calls => { calls with run := calls.run + 1 })
    fun _ calls => .value (answers.run calls.run request)

/-- Any answers can be given. -/
theorem Answers.server_gives (answers : Answers) : answers.server.Gives id answers where
  health _ _ := by
    rintro _ _ rfl
    exact ⟨rfl, rfl⟩
  list _ _ := by
    rintro _ _ rfl
    exact ⟨rfl, rfl⟩
  run _ _ _ := by
    rintro _ _ rfl
    exact ⟨rfl, rfl⟩

/-- No call of the server changes what the world shows. -/
structure Server.Keeps (server : Server σ) (view : σ → γ) : Prop where
  health : ∀ limit, (server.health limit).Keeps view
  list : ∀ limit, (server.list limit).Keeps view
  run : ∀ request limit, (server.run request limit).Keeps view

namespace Proxy

variable {p : Proxy σ}

/-! ## The two uses of a proxy -/

/-- Makes a call if the server is serving; `idle` comes of a server that is not. -/
def whenServing {α : Type} (p : Proxy σ) (idle : α) (call : Activity σ (Except CallError α)) :
    Activity σ α :=
  p.isServing.andThen fun serving =>
    if serving then
      call.andThen fun answer =>
        match answer with
        | .ok a => Activity.value a
        | .error e => Activity.fault (unanswered e)
    else Activity.value idle

theorem plugins_eq : p.plugins = p.whenServing [] (p.server.list p.deadline) := by
  unfold plugins whenServing
  show p.isServing.andThen _ = _
  congr 1
  funext serving
  cases serving with
  | false => rfl
  | true =>
      show (p.server.list p.deadline).andThen _ = (p.server.list p.deadline).andThen _
      congr 1
      funext answer
      cases answer <;> rfl

theorem detect_eq {host : Net.Host} :
    p.detect host = p.whenServing [] (p.server.run ⟨host, p.queue⟩ p.deadline) := by
  unfold detect whenServing
  show p.isServing.andThen _ = _
  congr 1
  funext serving
  cases serving with
  | false => rfl
  | true =>
      show (p.server.run _ p.deadline).andThen _ = (p.server.run _ p.deadline).andThen _
      congr 1
      funext answer
      cases answer <;> rfl

/-! ## Outcomes by the answers -/

/-- What comes of asking about the health, after `failed` attempts and with `left` more after the
next one, and how many calls the server has answered then. -/
def probed (p : Proxy σ) (answers : Answers) (failed : Nat) :
    (left : Nat) → Calls → Outcome Bool × Calls
  | 0, calls =>
    (match answers.health calls.health with
      | .ok h => .value (h == .serving)
      | .error e => .fault (unregistered e), { calls with health := calls.health + 1 })
  | left + 1, calls =>
    match answers.health calls.health with
    | .ok h => (.value (h == .serving), { calls with health := calls.health + 1 })
    | .error _ =>
      match p.backoff.delay? failed with
      | some _ => p.probed answers (failed + 1) left { calls with health := calls.health + 1 }
      | none => (.collapse Backoff.tooLong, { calls with health := calls.health + 1 })

/-- What comes of a call that is made if the server is serving; `idle` comes of a server that is
not. -/
def served {α : Type} (p : Proxy σ) (answers : Answers) (calls : Calls) (idle : α)
    (call : Calls → Except CallError α × Calls) : Outcome α × Calls :=
  match p.probed answers 0 (p.attempts - 1) calls with
  | (.value true, calls) =>
    match call calls with
    | (.ok a, calls) => (.value a, calls)
    | (.error e, calls) => (.fault (unanswered e), calls)
  | (.value false, calls) => (.value idle, calls)
  | (.fault e, calls) => (.fault e, calls)
  | (.collapse message, calls) => (.collapse message, calls)

/-- What the listing of the plugins comes to. -/
def listed (p : Proxy σ) (answers : Answers) (calls : Calls) :
    Outcome (List Plugin.Definition) × Calls :=
  p.served answers calls [] fun calls =>
    (answers.list calls.list, { calls with list := calls.list + 1 })

/-- The plugins that the listing tells; none if it ends in an error. -/
def offered (p : Proxy σ) (answers : Answers) (calls : Calls) : List Plugin.Definition :=
  match (p.listed answers calls).1 with
  | .value ds => ds
  | .fault _ | .collapse _ => []

/-- What a run of the queued plugins comes to. -/
def ran (p : Proxy σ) (answers : Answers) (host : Net.Host) (calls : Calls) :
    Outcome (List Finding.Report) × Calls :=
  p.served answers calls [] fun calls =>
    (answers.run calls.run ⟨host, p.queue⟩, { calls with run := calls.run + 1 })

/-! ## The proxy comes to these outcomes -/

variable {view : σ → Calls} {answers : Answers}

theorem healthFrom_yields (h : p.server.Gives view answers) (failed left : Nat) (calls : Calls) :
    (p.healthFrom failed left).Yields view
      (fun o calls' => (o, calls') = p.probed answers failed left calls) calls := by
  induction left generalizing failed calls with
  | zero =>
      refine Yields.andThen ((h.health p.deadline calls).imp ?_)
      rintro o calls' ⟨rfl, rfl⟩
      show Yields view _ (match answers.health calls.health with
        | .ok h => pure (h == .serving)
        | .error e => Activity.fault (unregistered e)) _
      unfold probed
      cases answers.health calls.health <;> rfl
  | succ left ih =>
      refine Yields.andThen ((h.health p.deadline calls).imp ?_)
      rintro o calls' ⟨rfl, rfl⟩
      show Yields view _ (match answers.health calls.health with
        | .ok h => pure (h == .serving)
        | .error _ =>
          match p.backoff.delay? failed with
          | some d => do
            Activity.pause d
            p.healthFrom (failed + 1) left
          | none => .finish (.collapse Backoff.tooLong)) _
      unfold probed
      cases answers.health calls.health with
      | ok state => rfl
      | error e =>
          -- the attempts go on after a delay, if there is such a delay
          cases p.backoff.delay? failed with
          | some d => exact ih (failed + 1) _
          | none => rfl

theorem served_yields {α : Type} {call : Activity σ (Except CallError α)} (idle : α)
    (next : Calls → Except CallError α × Calls) (h : p.server.Gives view answers)
    (hcall : ∀ calls, call.Yields view
      (fun o calls' => o = .value (next calls).1 ∧ calls' = (next calls).2) calls)
    (calls : Calls) :
    (p.whenServing idle call).Yields view
      (fun o calls' => (o, calls') = p.served answers calls idle next) calls := by
  refine Yields.andThen ((healthFrom_yields h 0 (p.attempts - 1) calls).imp ?_)
  intro o calls₁ hprobed
  unfold served
  rw [← hprobed]
  cases o with
  | fault e => rfl
  | collapse message => rfl
  | value serving =>
      cases serving with
      | false => rfl
      | true =>
          show Yields view _ (call.andThen _) calls₁
          refine Yields.andThen ((hcall calls₁).imp ?_)
          rintro o calls₂ ⟨rfl, rfl⟩
          dsimp only [Activity.andThen]
          generalize next calls₁ = answered
          obtain ⟨answer, calls₂⟩ := answered
          cases answer <;> rfl

theorem plugins_yields (h : p.server.Gives view answers) (calls : Calls) :
    p.plugins.Yields view (fun o calls' => (o, calls') = p.listed answers calls) calls := by
  rw [plugins_eq]
  exact served_yields []
    (fun calls => (answers.list calls.list, { calls with list := calls.list + 1 }))
    h (h.list p.deadline) calls

theorem detect_yields (h : p.server.Gives view answers) (host : Net.Host) (calls : Calls) :
    (p.detect host).Yields view (fun o calls' => (o, calls') = p.ran answers host calls) calls := by
  rw [detect_eq]
  exact served_yields []
    (fun calls => (answers.run calls.run ⟨host, p.queue⟩, { calls with run := calls.run + 1 }))
    h (h.run ⟨host, p.queue⟩ p.deadline) calls

/-! ## What a proxy inherits from its server -/

section

variable {P : (α : Type) → Activity σ α → Prop}

theorem healthFrom_inherits (composes : Composes P) (h : ∀ limit, P _ (p.server.health limit))
    (failed left : Nat) : P _ (p.healthFrom failed left) := by
  induction left generalizing failed with
  | zero =>
      refine composes.andThen (h p.deadline) fun answer => ?_
      cases answer <;> exact composes.finish _
  | succ left ih =>
      refine composes.andThen (h p.deadline) fun answer => ?_
      cases answer with
      | ok state => exact composes.finish _
      | error e =>
          show P _ (match p.backoff.delay? failed with
            | some d => do
              Activity.pause d
              p.healthFrom (failed + 1) left
            | none => .finish (.collapse Backoff.tooLong))
          cases p.backoff.delay? failed with
          | some d => exact composes.wait _ (ih (failed + 1))
          | none => exact composes.finish _

theorem whenServing_inherits (composes : Composes P) {α : Type} {idle : α}
    {call : Activity σ (Except CallError α)} (h : ∀ limit, P _ (p.server.health limit))
    (hcall : P _ call) : P _ (p.whenServing idle call) := by
  refine composes.andThen (healthFrom_inherits composes h 0 _) fun serving => ?_
  cases serving with
  | false => exact composes.finish _
  | true =>
      refine composes.andThen hcall fun answer => ?_
      cases answer <;> exact composes.finish _

theorem plugins_inherits (composes : Composes P) (health : ∀ limit, P _ (p.server.health limit))
    (list : ∀ limit, P _ (p.server.list limit)) : P _ p.plugins := by
  rw [plugins_eq]
  exact whenServing_inherits composes health (list p.deadline)

theorem detect_inherits (composes : Composes P) (health : ∀ limit, P _ (p.server.health limit))
    (run : ∀ request limit, P _ (p.server.run request limit)) (host : Net.Host) :
    P _ (p.detect host) := by
  rw [detect_eq]
  exact whenServing_inherits composes health (run ⟨host, p.queue⟩ p.deadline)

end

theorem healthFrom_keeps {view : σ → γ} (h : ∀ limit, (p.server.health limit).Keeps view)
    (failed left : Nat) : (p.healthFrom failed left).Keeps view :=
  healthFrom_inherits (Keeps.composes view) h failed left

theorem plugins_keeps {view : σ → γ} (health : ∀ limit, (p.server.health limit).Keeps view)
    (list : ∀ limit, (p.server.list limit).Keeps view) : p.plugins.Keeps view :=
  p.plugins_inherits (Keeps.composes view) health list

theorem detect_keeps {view : σ → γ} (h : p.server.Keeps view) (host : Net.Host) :
    (p.detect host).Keeps view :=
  p.detect_inherits (Keeps.composes view) h.health h.run host

end Proxy

end VulnScan.LanguageServer
