import VulnScan.Config.Environment
import VulnScan.LanguageServer.Registration
import VulnScan.Proofs.LanguageServer.Answers
import VulnScan.Proofs.LanguageServer.HealthGate
import VulnScan.Proofs.Plugin.Replacement
import VulnScan.Proofs.Scan.Phases
import VulnScan.Proofs.Text.Numerals
import VulnScan.Scan.Network
import VulnScan.Wire.Config

/-! # What becomes of the numbers in the settings

A file or a variable may set any number of slots, any limits and any number of attempts. The limits
and the attempts do no harm: a language server is asked over and over with delays that exist, and
its proxy never breaks off (`Proxy.plugins_sturdy`, `Proxy.detect_sturdy`), nor does a scan with the
servers that are registered (`Workflow.run_sturdy`). A number of slots is good up to the limit of a
pool, and beyond it there is no workflow (`Workflow.ofSettings?_eq_none_iff`).
-/

set_option autoImplicit false

namespace VulnScan

/-! ## Limits -/

/-- Spans of whole seconds are exact. -/
theorem Time.Span.nanos_ofSeconds (n : Number.LongWord) :
    (Time.Span.ofSeconds n).nanos = n * Time.nanosPerSecond :=
  Time.Span.nanos_ofNanos (Nat.mul_lt_mul_of_pos_right n.isLt (by decide))

theorem Config.Execution.nanos_limit (e : Config.Execution) : e.limit.map Time.Span.nanos
    = e.timeout.map fun n : Number.LongWord => n.val * Time.nanosPerSecond := by
  obtain ⟨concurrency, timeout⟩ := e
  cases timeout with
  | none => rfl
  | some n =>
      have hlimit : (Config.Execution.mk concurrency (some n)).limit = some (.ofSeconds n) := rfl
      rw [hlimit, Option.map_some, Time.Span.nanos_ofSeconds, Option.map_some]

/-! ## Activities that never break off -/

namespace Execution.Activity

variable {σ α β : Type}

/-- The activity never breaks off. -/
def Sturdy (a : Activity σ α) : Prop := ∀ message, ¬ a.MayEnd (.collapse message)

namespace Sturdy

theorem value (v : α) : (Activity.value v : Activity σ α).Sturdy := by
  intro message h
  simp [Activity.value, MayEnd] at h

theorem fault (e : Error) : (Activity.fault e : Activity σ α).Sturdy := by
  intro message h
  simp [Activity.fault, MayEnd] at h

theorem andThen {a : Activity σ α} {f : α → Activity σ β} (ha : a.Sturdy) (hf : ∀ v, (f v).Sturdy) :
    (a.andThen f).Sturdy := by
  intro message h
  rcases Plugin.collapse_andThen h with h | ⟨v, -, h⟩
  · exact ha message h
  · exact hf v message h

theorem wait {a : Activity σ α} (ha : a.Sturdy) (ticks : Nat) : (Activity.wait ticks a).Sturdy := by
  intro message h
  rcases part_wait.1 h with h | h
  · cases h
  · exact ha message h

end Sturdy

end Execution.Activity

/-! ## Language servers -/

namespace LanguageServer

open Execution (Activity)
open Execution.Activity

variable {σ : Type}

/-- No call of the server breaks off. -/
structure Server.Sturdy (server : Server σ) : Prop where
  health : ∀ limit, (server.health limit).Sturdy
  list : ∀ limit, (server.list limit).Sturdy
  run : ∀ request limit, (server.run request limit).Sturdy

/-- Calls over a client break off only if the delivery of a message does. -/
theorem Client.server_sturdy {c : Client σ} (h : ∀ post limit, (c.send post limit).Sturdy) :
    c.server.Sturdy where
  health limit := (h _ limit).andThen fun _ => .value _
  list limit := (h _ limit).andThen fun _ => .value _
  run _ limit := (h _ limit).andThen fun _ => .value _

namespace Proxy

variable {p : Proxy σ}

/-- Asking for the health goes on while there are delays. The induction is on the attempts that are
left. -/
theorem healthFrom_sturdy (hserver : p.server.Sturdy) (hdelays : ∀ i, (p.backoff.delay? i).isSome)
    (failed left : Nat) : (p.healthFrom failed left).Sturdy := by
  induction left generalizing failed with
  | zero =>
      rw [healthFrom_zero]
      refine (hserver.health _).andThen fun answer => ?_
      cases answer with
      | ok h => exact .value _
      | error e => exact .fault _
  | succ left ih =>
      rw [healthFrom_succ]
      refine (hserver.health _).andThen fun answer => ?_
      cases answer with
      | ok h => exact .value _
      | error e =>
          -- only a delay that does not exist would break off here
          obtain ⟨d, hd⟩ := Option.isSome_iff_exists.1 (hdelays failed)
          simp only [hd]
          exact (ih (failed + 1)).wait d.ticks

theorem whenServing_sturdy {α : Type} {idle : α} {call : Activity σ (Except CallError α)}
    (hserver : p.server.Sturdy) (hdelays : ∀ i, (p.backoff.delay? i).isSome) (hcall : call.Sturdy) :
    (p.whenServing idle call).Sturdy := by
  refine (healthFrom_sturdy hserver hdelays 0 _).andThen fun serving => ?_
  cases serving with
  | false => exact .value _
  | true =>
      refine hcall.andThen fun answer => ?_
      cases answer with
      | ok a => exact .value _
      | error e => exact .fault _

theorem plugins_sturdy (hserver : p.server.Sturdy) (hdelays : ∀ i, (p.backoff.delay? i).isSome) :
    p.plugins.Sturdy := by
  rw [plugins_eq]
  exact whenServing_sturdy hserver hdelays (hserver.list _)

theorem detect_sturdy (hserver : p.server.Sturdy) (hdelays : ∀ i, (p.backoff.delay? i).isSome)
    (host : Net.Host) : (p.detect host).Sturdy := by
  rw [detect_eq]
  exact whenServing_sturdy hserver hdelays (hserver.run _ _)

/-- The proxy works under the settings of the server: its calls may take the seconds that are set,
and it makes the attempts that are set, whether these are counted in a word or not. It never breaks
off, neither when it lists the plugins nor when it runs those that are queued. -/
structure WorksUnder (p : Proxy σ) (s : Config.Server) : Prop where
  deadline : p.deadline.nanos = s.deadline * Time.nanosPerSecond
  attempts : p.attempts = s.attempts
  counted : p.isServingCounted s.attempts = p.isServing
  lists : p.plugins.Sturdy
  detects : ∀ (queue : List Plugin.Matched) (host : Net.Host),
    (({ p with queue } : Proxy σ).detect host).Sturdy

end Proxy

variable {send : Post → Time.Span → Activity σ Delivery}

theorem entryOf_worksUnder (delivers : ∀ post limit, (send post limit).Sturdy) (i : Nat)
    (s : Config.Server) : ∃ p, (entryOf send i s).body = .host p ∧ p.WorksUnder s := by
  let p : Proxy σ :=
    { server := (clientOf send s).server, attempts := s.attempts, deadline := s.callLimit }
  have hserver : p.server.Sturdy := Client.server_sturdy delivers
  have hdelays : ∀ i, (p.backoff.delay? i).isSome := Backoff.standard_delays
  exact ⟨p, rfl, Time.Span.nanos_ofSeconds s.deadline, rfl, Proxy.isServingCounted_eq _ _ rfl,
    Proxy.plugins_sturdy hserver hdelays,
    fun queue host => Proxy.detect_sturdy (p := { p with queue }) hserver hdelays host⟩

/-- What is registered after the servers was registered before or stands for one of them. -/
theorem mem_registerServers {servers : List Config.Server} {r : Plugin.Registry σ}
    {e : Plugin.Entry σ} (h : e ∈ (registerServers send servers r).entries) :
    e ∈ r.entries ∨ ∃ i, ∃ s ∈ servers, e = entryOf send i s := by
  refine (Plugin.Registry.mem_of_mem_foldl_register h).imp_right fun hmem => ?_
  obtain ⟨⟨s, i⟩, hs, rfl⟩ := List.mem_map.1 hmem
  exact ⟨i, s, List.mem_of_getElem? (List.mem_zipIdx_iff_getElem?.1 hs), rfl⟩

end LanguageServer

/-! ## Workflows -/

namespace Scan

open Execution (Activity Pool)
open LanguageServer (Post Delivery registerServers)

variable {σ : Type}

/-- The workflow is the one that the settings describe: on a pool with the slots that are asked for,
but at least one, where a plugin may run for the seconds that are set, if any are. -/
structure Workflow.RunsUnder (w : Workflow σ) (r : Plugin.Registry σ) (s : Config.Settings) :
    Prop where
  registry : w.registry = r
  included : w.selection.included = s.detectors.included
  excluded : w.selection.excluded = s.detectors.excluded
  hasCallback : w.selection.hasCallback = s.hasCallback
  slots : w.pool.slots = max 1 s.execution.concurrency.val
  deadline : w.pool.deadline.map Time.Span.nanos
    = s.execution.timeout.map fun n : Number.LongWord => n.val * Time.nanosPerSecond

namespace Workflow

variable {r : Plugin.Registry σ} {runtime : Runtime σ} {s : Config.Settings}

/-- There is a workflow unless the settings ask for more slots than a pool can have. -/
theorem ofSettings?_eq_none_iff :
    ofSettings? r runtime s = none ↔ Pool.mostSlots < s.execution.concurrency := by
  rw [ofSettings?, Option.map_eq_none_iff, Pool.ofSlots?]
  split
  · next h => simpa using h
  · next h => simpa using h

theorem runsUnder_of_ofSettings? {w : Workflow σ} (h : ofSettings? r runtime s = some w) :
    w.RunsUnder r s := by
  obtain ⟨pool, hpool, rfl⟩ := Option.map_eq_some_iff.1 h
  rw [Pool.ofSlots?] at hpool
  split at hpool
  · cases hpool
    refine ⟨rfl, rfl, rfl, rfl, Nat.max_comm _ _, ?_⟩
    exact s.execution.nanos_limit
  · cases hpool

/-- A scan breaks off with a message only if the listing of a server does. -/
theorem run_sturdy {w : Workflow σ}
    (lists : ∀ e ∈ w.registry.entries, ∀ p, e.body = .host p → p.plugins.Sturdy)
    (target : Net.Endpoint) (signals : Execution.Signals) (m m' : Execution.Moment σ)
    (message : String) : w.run target signals m ≠ .collapsed message m' := by
  intro h
  have hmeets := w.run_meets target signals m
  rw [h] at hmeets
  obtain ⟨e, he, p, hp, hcollapse⟩ := hmeets
  exact lists e (List.mem_filter.1 he).1 p hp message hcollapse

end Workflow

/-- Any number of slots can be asked for, in the environment. -/
theorem exists_concurrency (s : Config.Settings) (n : Number.LongWord) :
    ∃ vars, (s.override vars).execution.concurrency = n := by
  have hread : Text.parseBelow Number.longWordBound (Text.decimal n).toList = some n := by
    rw [Text.parseBelow_eq_some_iff, Text.decimal, String.toList_ofList]
    exact Text.writes_digits n
  let vars := Function.update (fun _ => none) "RIPTIDE_MAX_CONCURRENCY" (some (Text.decimal n))
  have hvariable : vars "RIPTIDE_MAX_CONCURRENCY" = some (Text.decimal n) :=
    Function.update_self _ _ _
  refine ⟨vars, ?_⟩
  show ((vars "RIPTIDE_MAX_CONCURRENCY").bind fun v =>
    Text.parseBelow Number.longWordBound v.toList).getD s.execution.concurrency = n
  rw [hvariable, Option.bind_some, hread, Option.getD_some]

/-- **What becomes of the numbers in the settings.** Whatever settings a file and the environment
come to, there is a workflow for them exactly if they ask for no more slots than a pool can have,
and it is the one that they describe. The plugins of the language servers keep to the limits and the
attempts that are set for them and never break off, nor does any scan, provided that messages are
delivered or not and that the listings of other servers do not break off. But any number of slots
can be asked for. -/
theorem settings_served {send : Post → Time.Span → Activity σ Delivery} {base : Plugin.Registry σ}
    (delivers : ∀ post limit, (send post limit).Sturdy)
    (lists : ∀ e ∈ base.entries, ∀ p, e.body = .host p → p.plugins.Sturdy)
    (runtime : Runtime σ) (s : Config.Settings) :
    let r := registerServers send s.servers base
    (Workflow.ofSettings? r runtime s = none ↔ Pool.mostSlots < s.execution.concurrency) ∧
    (∀ w, Workflow.ofSettings? r runtime s = some w → w.RunsUnder r s ∧
      ∀ target signals m message m', w.run target signals m ≠ .collapsed message m') ∧
    (∀ e ∈ r.entries, e ∈ base.entries ∨
      ∃ server ∈ s.servers, ∃ p, e.body = .host p ∧ p.WorksUnder server) ∧
    ∀ n : Number.LongWord, ∃ vars, (s.override vars).execution.concurrency = n := by
  intro r
  have hentries : ∀ e ∈ r.entries, e ∈ base.entries ∨
      ∃ server ∈ s.servers, ∃ p, e.body = .host p ∧ p.WorksUnder server := by
    intro e he
    refine (LanguageServer.mem_registerServers he).imp_right ?_
    rintro ⟨i, server, hserver, rfl⟩
    exact ⟨server, hserver, LanguageServer.entryOf_worksUnder delivers i server⟩
  refine ⟨Workflow.ofSettings?_eq_none_iff, fun w hw => ?_, hentries, exists_concurrency s⟩
  have hruns := Workflow.runsUnder_of_ofSettings? hw
  refine ⟨hruns, fun target signals m message m' => ?_⟩
  refine Workflow.run_sturdy (fun e he p hp => ?_) target signals m m' message
  rw [hruns.registry] at he
  rcases hentries e he with he | ⟨server, -, q, hq, hworks⟩
  · exact lists e he p hp
  · rw [hq] at hp
    cases hp
    exact hworks.lists

/-- The runtime of a program in which time stands still. -/
def frozen : Runtime Unit := ⟨fun _ => .epoch, fun _ message => message⟩

/-- A file with one language server, for which there is time and that is asked only once. -/
def patientFile : String :=
  "[plugin_execution]\nmax_concurrency = 0\nplugin_timeout_seconds = 60\n" ++
  "[[language_servers]]\naddress = \"127.0.0.1:1\"\nhealth_check_attempts = 1"

/-- Without a network, a scan under the settings of this file has one slot and never breaks off. -/
theorem patientFile_served : ∃ s w, Wire.settingsOfFile? patientFile = some s ∧
    (∀ post limit, ((Network.isolated : Network Unit).send post limit).Sturdy) ∧
    (∀ e ∈ (Plugin.Registry.empty : Plugin.Registry Unit).entries, ∀ p, e.body = .host p →
      p.plugins.Sturdy) ∧
    Workflow.ofSettings? (registerServers (Network.isolated : Network Unit).send s.servers .empty)
      frozen s = some w ∧
    w.pool.slots = 1 ∧ w.pool.deadline.map Time.Span.nanos = some 60000000000 ∧
    w.registry.entries.length = 1 ∧
    ∀ target signals m message m', w.run target signals m ≠ .collapsed message m' := by
  let s : Config.Settings :=
    { execution := ⟨0, some 60⟩, servers := [{ address := "127.0.0.1:1", attempts := 1 }] }
  have hfile : Wire.settingsOfFile? patientFile = some s := by decide +kernel
  have delivers : ∀ post limit, ((Network.isolated : Network Unit).send post limit).Sturdy :=
    fun _ _ => .value _
  have lists : ∀ e ∈ (Plugin.Registry.empty : Plugin.Registry Unit).entries,
      ∀ p, e.body = .host p → p.plugins.Sturdy :=
    fun _ he => absurd he List.not_mem_nil
  obtain ⟨hnone, hsome, -, -⟩ := settings_served delivers lists frozen s
  cases hw : Workflow.ofSettings?
      (registerServers (Network.isolated : Network Unit).send s.servers .empty)
      frozen s with
  | none => exact absurd (hnone.1 hw) (by decide)
  | some w =>
      obtain ⟨hruns, hrun⟩ := hsome w hw
      exact ⟨s, w, hfile, delivers, lists, hw, hruns.slots, hruns.deadline,
        by rw [hruns.registry]; rfl, hrun⟩

/-- A file that asks for one slot more than a pool can have. -/
def vastFile : String := "[plugin_execution]\nmax_concurrency = 2305843009213693952"

/-- The file is accepted, and there is no workflow for its settings. -/
theorem vastFile_unserved : ∃ s, Wire.settingsOfFile? vastFile = some s ∧
    Workflow.ofSettings? (Plugin.Registry.empty : Plugin.Registry Unit) frozen
      (s.override fun _ => none) = none := by
  have hfile : Wire.settingsOfFile? vastFile
      = some { execution := { concurrency := 2305843009213693952 } } := by decide +kernel
  exact ⟨_, hfile, Workflow.ofSettings?_eq_none_iff.2 (by decide)⟩

end Scan

end VulnScan
