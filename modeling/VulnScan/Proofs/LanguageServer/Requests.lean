import VulnScan.Proofs.Execution.Within
import VulnScan.Proofs.LanguageServer.Answers

/-! # The requests that a server gets

A server that logs its requests (`Server.Logs`) enters each of them when it is called, and nothing
else ever does. The number of the requests of every kind is what its answers go by (`Calls.of`).
Asking a proxy for its plugins never makes a run (`Proxy.plugins_keeps_runs`), and having it detect
makes at most one, of exactly the plugins in its queue (`Proxy.detect_within`).
-/

set_option autoImplicit false

namespace VulnScan.LanguageServer

open Execution (Activity)
open Execution.Activity

variable {σ ρ α : Type}

/-- What is to be run, if that is what is asked for. -/
def Request.run? : Request → Option RunRequest
  | .run r => some r
  | .health | .list => none

/-- The runs among requests. -/
def runsOf (requests : List Request) : List RunRequest := requests.filterMap Request.run?

/-- The number of the requests of every kind. -/
def Calls.of (requests : List Request) : Calls where
  health := requests.count .health
  list := requests.count .list
  run := (runsOf requests).length

/-- The activity begins by adding the entry to the log, and adds nothing later. -/
inductive Enters (log : σ → List ρ) (entry : ρ) : Activity σ α → Prop
  | mk {change : Nat → σ → σ} {next : Nat → σ → Activity σ α}
      (enters : ∀ now w, log (change now w) = log w ++ [entry])
      (keeps : ∀ now w, (next now w).Keeps log) : Enters log entry (.touch change next)

/-- The server logs its requests: each is entered when it is made, in the form of an entry. -/
structure Server.Logs (server : Server σ) (log : σ → List ρ) (entry : Request → ρ) : Prop where
  health : ∀ limit, Enters log (entry .health) (server.health limit)
  list : ∀ limit, Enters log (entry .list) (server.list limit)
  run : ∀ request limit, Enters log (entry (.run request)) (server.run request limit)

/-- The server that gives these answers at once, in a world that is the log of its requests. -/
def Answers.recorder (answers : Answers) : Server (List Request) where
  health _ := .touch (fun _ log => log ++ [.health]) fun _ log =>
    .value (answers.health (Calls.of log).health)
  list _ := .touch (fun _ log => log ++ [.list]) fun _ log =>
    .value (answers.list (Calls.of log).list)
  run request _ := .touch (fun _ log => log ++ [.run request]) fun _ log =>
    .value (answers.run (Calls.of log).run request)

theorem Answers.recorder_logs (answers : Answers) : answers.recorder.Logs id id where
  health _ := .mk (fun _ _ => rfl) fun _ _ => trivial
  list _ := .mk (fun _ _ => rfl) fun _ _ => trivial
  run _ _ := .mk (fun _ _ => rfl) fun _ _ => trivial

theorem Answers.recorder_gives (answers : Answers) : answers.recorder.Gives Calls.of answers where
  health _ _ := by
    rintro _ log rfl
    exact ⟨rfl, by simp [Calls.of, runsOf, Request.run?]⟩
  list _ _ := by
    rintro _ log rfl
    exact ⟨rfl, by simp [Calls.of, runsOf, Request.run?]⟩
  run request _ _ := by
    rintro _ log rfl
    exact ⟨rfl, by simp [Calls.of, runsOf, Request.run?]⟩

/-! ## Runs -/

theorem runsOf_append (requests more : List Request) :
    runsOf (requests ++ more) = runsOf requests ++ runsOf more :=
  List.filterMap_append

variable {log : σ → List Request} {request : Request} {a : Activity σ α}

/-- A request for anything else is no run. -/
theorem Enters.keeps_runs (h : Enters log request a) (other : request.run? = none) :
    a.Keeps fun w => runsOf (log w) := by
  cases h with
  | mk enters keeps =>
      intro now w
      refine ⟨?_, (keeps now w).seen runsOf⟩
      have hnone : runsOf [request] = [] := by simp [runsOf, other]
      show runsOf (log _) = runsOf (log w)
      rw [enters, runsOf_append, hnone, List.append_nil]

/-- A request for a run makes this run and no other. -/
theorem Enters.within_runs {r : RunRequest} (h : Enters log (.run r) a)
    (before : List RunRequest) :
    a.Within (fun w => runsOf (log w)) (fun runs => runs = before ∨ runs = before ++ [r])
      before := by
  cases h with
  | mk enters keeps =>
      refine ⟨.inl rfl, fun now w hw => .of_keeps ((keeps now w).seen runsOf) (.inr ?_)⟩
      show runsOf (log _) = before ++ [r]
      rw [enters, runsOf_append, ← hw]
      rfl

namespace Proxy

variable {p : Proxy σ}

/-- Asking for the plugins makes no run. -/
theorem plugins_keeps_runs (logs : p.server.Logs log id) :
    p.plugins.Keeps fun w => runsOf (log w) :=
  p.plugins_keeps (fun limit => (logs.health limit).keeps_runs rfl)
    fun limit => (logs.list limit).keeps_runs rfl

/-- A detection makes one run of the plugins in the queue, or none. -/
theorem detect_within (logs : p.server.Logs log id) (host : Net.Host) (before : List RunRequest) :
    (p.detect host).Within (fun w => runsOf (log w))
      (fun runs => runs = before ∨ runs = before ++ [⟨host, p.queue⟩]) before := by
  rw [detect_eq]
  have hserving : p.isServing.Keeps fun w => runsOf (log w) :=
    healthFrom_keeps (fun limit => (logs.health limit).keeps_runs rfl) 0 _
  refine Within.after_keeps hserving (fun serving => ?_) (.inl rfl)
  cases serving with
  | false => exact .inl rfl
  | true =>
      have hrun := (logs.run ⟨host, p.queue⟩ p.deadline).within_runs before
      refine hrun.andThen_keeps fun answer => ?_
      cases answer <;> trivial

end Proxy

end VulnScan.LanguageServer
