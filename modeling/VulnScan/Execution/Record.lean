import VulnScan.Execution.Pool
import VulnScan.Plugin.Definition

/-! # Records of executions

The execution of a plugin on the pool leaves a record: which plugin it was and for which services,
how it ended and how long it ran. An error that is not blamed on a plugin already becomes the
cause of one that is.
-/

set_option autoImplicit false

namespace VulnScan.Execution

/-- The status of an execution. -/
inductive Status where
  | succeeded
  | failed
  | timedOut
deriving DecidableEq, Inhabited

/-- The name of a status. -/
def Status.name : Status → String
  | .succeeded => "SUCCEEDED"
  | .failed => "FAILED"
  | .timedOut => "TIMED_OUT"

/-- How an execution ended. -/
inductive Ending (α : Type) where
  | succeeded (a : α)
  | failed (e : Error)
  | timedOut (e : Error)

/-- What is known of an execution. -/
structure Record (α : Type) where
  plugin : Plugin.Definition
  services : List Net.Service
  ending : Ending α
  elapsed : Time.Span

namespace Record

variable {α : Type}

/-- The status of an execution. -/
def status (r : Record α) : Status :=
  match r.ending with
  | .succeeded _ => .succeeded
  | .failed _ => .failed
  | .timedOut _ => .timedOut

/-- What an execution yielded, or the error that kept it from it. -/
def result (r : Record α) : Except Error α :=
  match r.ending with
  | .succeeded a => .ok a
  | .failed e | .timedOut e => .error e

/-- Whether an execution succeeded. -/
def isSucceeded (r : Record α) : Bool :=
  match r.ending with
  | .succeeded _ => true
  | .failed _ | .timedOut _ => false

end Record

/-- The error, blamed on a plugin. -/
def blame (plugin : Plugin.Definition) (e : Error) : Error :=
  if e.isPlugin then e
  else .plugin ("Plugin execution error on '" ++ plugin.id ++ "'.") e.lineage

/-- The error of a plugin that ran into its deadline. -/
def lateness (plugin : Plugin.Definition) (deadline : Time.Span) : Error :=
  .plugin
    ("Plugin execution timed out on '" ++ plugin.id ++ "' after " ++ deadline.text ++ ".") []

/-- The error of a plugin that was cancelled. -/
def cancellation : Error := .cancelled "plugin execution cancelled"

/-- The error of a plugin that broke off; `report` is what the runtime says of it. -/
def collapse (report : String) : Error := .inner ("plugin panicked: " ++ report)

/-- A plugin that is to run. -/
structure Task (σ α : Type) where
  plugin : Plugin.Definition
  services : List Net.Service
  activity : Activity σ α
  /-- What the runtime reports of the execution if it breaks off with a message. The report names
  the number that the runtime gave to the execution, so it belongs to the task. -/
  crash : String → String

/-- The record of a task that the pool decided. A task that broke off has lost its time. -/
def Task.record {σ α : Type} (deadline : Option Time.Span) (t : Task σ α) (d : Decision α) :
    Record α :=
  let ending := match d.resolution with
    | .value a => .succeeded a
    | .fault e => .failed (blame t.plugin e)
    | .collapse message => .failed (blame t.plugin (collapse (t.crash message)))
    | .timedOut => .timedOut (lateness t.plugin (deadline.getD .zero))
    | .cancelled => .failed (blame t.plugin cancellation)
  let elapsed := match d.resolution with
    | .collapse _ => .zero
    | _ => .ofTicks d.elapsed
  ⟨t.plugin, t.services, ending, elapsed⟩

/-- Runs tasks on a pool, each submitted at a time. -/
def Pool.executeAt {σ α : Type} (pool : Pool) (tasks : List (Nat × Task σ α)) :
    Session σ (List (Record α)) := do
  let ds ← fun signals m => pool.run signals (tasks.map fun t => (t.1, t.2.activity)) m
  return (tasks.zip ds).map fun p => p.1.2.record pool.deadline p.2

/-- Runs tasks that are submitted together. -/
def Pool.execute {σ α : Type} (pool : Pool) (tasks : List (Task σ α)) :
    Session σ (List (Record α)) := do
  let m ← Session.moment
  pool.executeAt (tasks.map fun t => (m.now, t))

end VulnScan.Execution
