import VulnScan.Execution.Activity
import VulnScan.LanguageServer.Backoff
import VulnScan.LanguageServer.Message

/-! # Proxies of language servers

A proxy stands for all detectors that a language server hosts. Before it asks for the plugins or
for a run it makes sure that the server is serving: failed calls are repeated after a delay, up to
a number of attempts, while the answer that the server is not serving is taken as it is. Plugins
that are to run are queued first, each once; a run sends them all and leaves them queued.
-/

set_option autoImplicit false

namespace VulnScan.LanguageServer

open Execution (Activity)

/-- The calls that a server answers, each with a deadline. -/
structure Server (σ : Type) where
  health : Time.Span → Activity σ (Except CallError Health)
  list : Time.Span → Activity σ (Except CallError (List Plugin.Definition))
  run : RunRequest → Time.Span → Activity σ (Except CallError (List Finding.Report))

/-- A client of a server. -/
structure Proxy (σ : Type) where
  server : Server σ
  backoff : Backoff := .standard
  /-- The number of attempts to find the server serving; at least one is made. -/
  attempts : Nat := 3
  deadline : Time.Span := .ofSeconds 120
  queue : List Plugin.Matched := []

namespace Proxy

variable {σ : Type}

/-- The error of a server that could not be asked about its health. -/
def unregistered (e : CallError) : Error :=
  .languageServer "Language service is not registered." e.lineage

/-- The error of a server that did not answer. -/
def unanswered (e : CallError) : Error :=
  .languageServer "Failed to get response from language server." e.lineage

/-- Asks about the health until there is an answer, after `failed` attempts and with `left` more
after the next one. -/
def healthFrom (p : Proxy σ) (failed : Nat) : (left : Nat) → Activity σ Bool
  | 0 => do
    match ← p.server.health p.deadline with
    | .ok h => return h == .serving
    | .error e => .fault (unregistered e)
  | left + 1 => do
    match ← p.server.health p.deadline with
    | .ok h => return h == .serving
    | .error _ =>
      match p.backoff.delay? failed with
      | some d =>
        Activity.pause d
        p.healthFrom (failed + 1) left
      | none => .finish (.collapse Backoff.tooLong)

/-- Whether the server is serving. -/
def isServing (p : Proxy σ) : Activity σ Bool := p.healthFrom 0 (p.attempts - 1)

/-- The plugins that the server offers; none if it is not serving. -/
def plugins (p : Proxy σ) : Activity σ (List Plugin.Definition) := do
  if ← p.isServing then
    match ← p.server.list p.deadline with
    | .ok ds => return ds
    | .error e => .fault (unanswered e)
  else return []

/-- The proxy with one more plugin queued, unless it is queued already. -/
def add (p : Proxy σ) (m : Plugin.Matched) : Proxy σ :=
  if m ∈ p.queue then p else { p with queue := p.queue ++ [m] }

/-- Has the queued plugins run against a host; nothing runs if the server is not serving. -/
def detect (p : Proxy σ) (host : Net.Host) : Activity σ (List Finding.Report) := do
  if ← p.isServing then
    match ← p.server.run ⟨host, p.queue⟩ p.deadline with
    | .ok rs => return rs
    | .error e => .fault (unanswered e)
  else return []

end Proxy

end VulnScan.LanguageServer
