import VulnScan.Proofs.Execution.Replay
import VulnScan.Proofs.LanguageServer.Requests
import VulnScan.Proofs.Plugin.Calls

/-! # Plugins that repeat themselves

A plugin that is a function of its inputs, and whose requests are logged if it is hosted by a
language server, does and logs the same in every scan (`Instance.repeats`). Composed activities
inherit that (`repeats_composes`).
-/

set_option autoImplicit false

namespace VulnScan.LanguageServer

open Execution (Activity)
open Execution.Activity

variable {σ ρ α : Type} {log : σ → List ρ} {calls : Prop}

/-- An oblivious activity that makes an entry at its beginning and no other. -/
theorem Enters.repeats {entry : ρ} {a : Activity σ α} (h : Enters log entry a)
    (oblivious : a.Oblivious) (called : a.MayCancel → calls) : a.Repeats log calls := by
  cases h with
  | @mk change next enters keeps =>
      refine ⟨⟨[entry], enters⟩, oblivious.1, fun now w => ?_⟩
      exact (oblivious.2 now w).repeats_of_keeps (keeps now w)
        fun hc => called (hc.of_next (.touch change next now w))

end VulnScan.LanguageServer

namespace VulnScan.Plugin

open Execution (Activity)
open Execution.Activity
open LanguageServer (Request)

variable {σ ρ : Type} {log : σ → List ρ} {calls : Prop}

/-- The requests to a language server are logged in the form of entries; a plugin of any other
kind makes no entries. -/
def Instance.Logs (log : σ → List ρ) (entry : Request → ρ) : Instance σ → Prop
  | .host p => p.server.Logs log entry
  | body => body.Keeps log

/-- A plugin that is a function of its inputs does and logs the same whenever it is called. -/
theorem Instance.repeats {body : Instance σ} {entry : Request → ρ}
    (oblivious : body.All fun _ a => a.Oblivious) (logs : body.Logs log entry)
    (called : body.All fun _ a => a.MayCancel → calls) :
    body.All fun _ a => a.Repeats log calls := by
  cases body with
  | portScanner scan =>
      exact fun target => (oblivious target).repeats_of_keeps (logs target) (called target)
  | fingerprinter identify =>
      exact fun host s => (oblivious host s).repeats_of_keeps (logs host s) (called host s)
  | detector d =>
      exact fun host services =>
        (oblivious host services).repeats_of_keeps (logs host services) (called host services)
  | host p =>
      refine ⟨fun limit => ?_, fun limit => ?_, fun request limit => ?_⟩
      · exact (logs.health limit).repeats (oblivious.health limit) (called.health limit)
      · exact (logs.list limit).repeats (oblivious.list limit) (called.list limit)
      · exact (logs.run request limit).repeats (oblivious.run request limit)
          (called.run request limit)

theorem repeats_composes (log : σ → List ρ) (calls : Prop) :
    Composes fun α (a : Activity σ α) => a.Repeats log calls where
  finish _ := trivial
  wait _ _ h := h
  andThen h hf := h.andThen hf
  tried h := h.tried

end VulnScan.Plugin
