import Mathlib.Logic.Function.Basic
import VulnScan.CommandLine.Job
import VulnScan.Proofs.CommandLine.Given
import VulnScan.Proofs.Json.Members
import VulnScan.Wire.Config

/-! # Layers of settings

A setting has a value of its own, and up to three layers above it may say another: the configuration
file, a variable of the environment and an option of the command line. `Setting` lists the settings
with where each of them stands in these layers. The uppermost layer that says something readable
decides, setting by setting (`settings_layered`).
-/

set_option autoImplicit false

namespace VulnScan.Config

open Json CommandLine

/-- The settings, by the types of their values. -/
inductive Setting : Type → Type
  | concurrency : Setting Number.LongWord
  | timeout : Setting (Option Number.LongWord)
  | included : Setting (List String)
  | excluded : Setting (List String)
  | callback : Setting Bool
  | servers : Setting (List Server)
  | logLevel : Setting String
  | logFormat : Setting String

namespace Setting

variable {α : Type}

/-- The value of a setting. -/
def value : Setting α → Settings → α
  | concurrency, s => s.execution.concurrency
  | timeout, s => s.execution.timeout
  | included, s => s.detectors.included
  | excluded, s => s.detectors.excluded
  | callback, s => s.hasCallback
  | servers, s => s.servers
  | logLevel, s => s.logging.level
  | logFormat, s => s.logging.format

/-- The value that nobody has set. -/
def initial : Setting α → α
  | concurrency => 32
  | timeout => none
  | included => []
  | excluded => []
  | callback => false
  | servers => []
  | logLevel => "info"
  | logFormat => "pretty"

/-! ## The file -/

/-- The table of a setting and its place among all tables; the servers are a table of their own. -/
def table : Setting α → Nat × String
  | concurrency | timeout => (0, "plugin_execution")
  | included | excluded => (1, "plugin_manager")
  | callback => (2, "callback_server")
  | servers => (3, "language_servers")
  | logLevel | logFormat => (4, "logging")

/-- The key of a setting and its place in its table. -/
def entry? : Setting α → Option (Nat × String)
  | concurrency => some (0, "max_concurrency")
  | timeout => some (1, "plugin_timeout_seconds")
  | included => some (0, "detectors_include")
  | excluded => some (1, "detectors_exclude")
  | callback => some (0, "enabled")
  | servers => none
  | logLevel => some (0, "level")
  | logFormat => some (1, "format")

/-- How the values of a setting are written in a file. -/
def codec : Setting α → Codec α
  | concurrency => Wire.longWord
  | timeout => Wire.longWord.option
  | included | excluded => .list .string
  | callback => .bool
  | servers => .list Wire.server
  | logLevel | logFormat => .string

/-- What a file with the content `v` has for a setting. -/
def found (x : Setting α) (v : Value) : Option Value :=
  let table := v.field? x.table.1 x.table.2
  match x.entry? with
  | some (i, key) => table.bind fun t => t.field? i key
  | none => table

/-- A file with the content `v` says that the setting has the value `a`, if `v` has something for
it; else the value is the one that nobody has set. -/
def SaidBy (x : Setting α) (v : Value) (a : α) : Prop :=
  match x.found v with
  | some w => x.codec.decode w = .ok a
  | none => a = x.initial

/-! ## The environment -/

/-- The variable of a setting. -/
def name? : Setting α → Option String
  | concurrency => some "RIPTIDE_MAX_CONCURRENCY"
  | timeout => some "RIPTIDE_PLUGIN_TIMEOUT_SECONDS"
  | included => some "RIPTIDE_DETECTORS_INCLUDE"
  | excluded => some "RIPTIDE_DETECTORS_EXCLUDE"
  | callback => some "RIPTIDE_CALLBACK_SERVER_ENABLED"
  | servers => none
  | logLevel => some "RIPTIDE_LOG_LEVEL"
  | logFormat => some "RIPTIDE_LOG_FORMAT"

/-- The value that the text of a variable gives, if it can be read. -/
def read? : Setting α → String → Option α
  | concurrency, s => Text.parseBelow Number.longWordBound s.toList
  | timeout, s => (Text.parseBelow Number.longWordBound s.toList).map some
  | included, s | excluded, s => some (splitList s)
  | callback, s => truth? s
  | servers, _ => none
  | logLevel, s | logFormat, s => some s

/-- What the environment says about a setting. -/
def inVariables (x : Setting α) (vars : String → Option String) : Option α :=
  (x.name?.bind vars).bind x.read?

/-! ## The command line -/

/-- The option of a setting. -/
def key? : Setting α → Option Key
  | included => some .included
  | excluded => some .excluded
  | logLevel => some .logLevel
  | logFormat => some .logFormat
  | concurrency | timeout | callback | servers => none

/-- What the command line says about a setting. -/
def inArguments : Setting α → Arguments → Option α
  | included, a => if a.included = [] then none else some a.included
  | excluded, a => if a.excluded = [] then none else some a.excluded
  | logLevel, a => a.logLevel
  | logFormat, a => a.logFormat
  | concurrency, _ | timeout, _ | callback, _ | servers, _ => none

/-! ## One layer over another -/

theorem value_initial (x : Setting α) : x.value {} = x.initial := by
  cases x <;> rfl

theorem value_override_variables (x : Setting α) (vars : String → Option String) (s : Settings) :
    x.value (s.override vars) = (x.inVariables vars).getD (x.value s) := by
  cases x with
  | concurrency | callback | servers => rfl
  | timeout =>
    simp only [value, Settings.override, inVariables, name?, Option.bind_some]
    cases vars "RIPTIDE_PLUGIN_TIMEOUT_SECONDS" with
    | none => rfl
    | some v =>
      simp only [Option.bind_some, read?]
      cases Text.parseBelow Number.longWordBound v.toList <;> rfl
  | included | excluded | logLevel | logFormat =>
    simp only [value, Settings.override, inVariables, name?, Option.bind_some]
    -- these variables are never unreadable
    generalize vars _ = text
    cases text <;> rfl

theorem value_override_arguments (x : Setting α) (a : Arguments) (s : Settings) :
    x.value (a.override s) = (x.inArguments a).getD (x.value s) := by
  cases x with
  | included | excluded =>
    simp only [value, Arguments.override, inArguments]
    split <;> rfl
  | _ => rfl

/-- There are no other settings. -/
theorem eq_of_value_eq {s t : Settings} (h : ∀ {α : Type} (x : Setting α), x.value s = x.value t) :
    s = t := by
  obtain ⟨⟨_, _⟩, ⟨_, _⟩, _, _, ⟨_, _⟩⟩ := s
  obtain ⟨⟨_, _⟩, ⟨_, _⟩, _, _, ⟨_, _⟩⟩ := t
  obtain rfl := h concurrency
  obtain rfl := h timeout
  obtain rfl := h included
  obtain rfl := h excluded
  obtain rfl := h callback
  obtain rfl := h servers
  obtain rfl := h logLevel
  obtain rfl := h logFormat
  rfl

/-! ## What a file says -/

theorem saidBy_iff {x : Setting α} {v : Value} {a : α} (name : String) :
    x.SaidBy v a ↔ (Field.defaulted name x.codec x.initial).Takes (x.found v) a := by
  unfold SaidBy
  cases x.found v with
  | none => simp [Field.Takes, eq_comm]
  | some w => exact Iff.rfl

/-- Every setting is what a file says about it. -/
theorem saidBy_of_decode {v : Value} {s : Settings} (h : Wire.settings.decode v = .ok s)
    (x : Setting α) : x.SaidBy v (x.value s) := by
  obtain ⟨⟨e, d, c, _, l, _⟩, rfl, he, hd, hc, hservers, hl, -⟩ :=
    Codec.recordOf_takes (by decide) h
  obtain ⟨⟨_, _, _⟩, rfl, hconcurrency, htimeout, -⟩ :=
    Codec.defaulted_takes he (32, none, ()) ⟨rfl, rfl, trivial⟩ rfl (by decide)
  obtain ⟨⟨_, _, _⟩, rfl, hincluded, hexcluded, -⟩ :=
    Codec.defaulted_takes hd ([], [], ()) ⟨rfl, rfl, trivial⟩ rfl (by decide)
  obtain ⟨⟨_, _⟩, rfl, hcallback, -⟩ :=
    Codec.defaulted_takes hc (false, ()) ⟨rfl, trivial⟩ rfl (by decide)
  obtain ⟨⟨_, _, _⟩, rfl, hlevel, hformat, -⟩ :=
    Codec.defaulted_takes hl ("info", "pretty", ()) ⟨rfl, rfl, trivial⟩ rfl (by decide)
  cases x with
  | concurrency => exact (saidBy_iff _).2 hconcurrency
  | timeout => exact (saidBy_iff _).2 htimeout
  | included => exact (saidBy_iff _).2 hincluded
  | excluded => exact (saidBy_iff _).2 hexcluded
  | callback => exact (saidBy_iff _).2 hcallback
  | servers => exact (saidBy_iff _).2 hservers
  | logLevel => exact (saidBy_iff _).2 hlevel
  | logFormat => exact (saidBy_iff _).2 hformat

/-- The settings of a file are what its entries say. -/
theorem saidBy_of_file {text : String} {s : Settings} (h : Wire.settingsOfFile? text = some s) :
    ∃ entries, Toml.read? text.toList = some entries ∧ ∀ {α : Type} (x : Setting α),
      x.SaidBy (.object (Wire.entryValues entries) .closed) (x.value s) := by
  obtain ⟨entries, hentries, hs⟩ := Option.bind_eq_some_iff.1 h
  refine ⟨entries, hentries, fun x => saidBy_of_decode ?_ x⟩
  cases hdecode : Wire.settings.decode (.object (Wire.entryValues entries) .closed) with
  | error fault =>
    rw [hdecode] at hs
    cases hs
  | ok s' =>
    rw [hdecode] at hs
    cases hs
    rfl

/-! ## What the environment and the command line say -/

/-- A text that cannot be read says as much as no text. -/
theorem inVariables_update (x : Setting α) (vars : String → Option String) {name text : String}
    (h : x.name? = some name → x.read? text = none) :
    x.inVariables (Function.update vars name (some text))
      = x.inVariables (Function.update vars name none) := by
  rw [inVariables, inVariables]
  cases hname : x.name? with
  | none => rfl
  | some other =>
    rw [Option.bind_some, Option.bind_some]
    by_cases heq : other = name
    · subst heq
      rw [Function.update_self, Function.update_self]
      exact h hname
    · rw [Function.update_of_ne heq, Function.update_of_ne heq]

/-- The command line says something about a setting if the option of the setting has a value. -/
theorem isSome_inArguments (x : Setting α) (a : Arguments) :
    (x.inArguments a).isSome ↔ ∃ k, x.key? = some k ∧ a.has k = true := by
  cases x with
  | included | excluded =>
    simp only [inArguments, key?, Option.some.injEq, exists_eq_left', Arguments.has]
    split <;> simp [*]
  | _ => simp [inArguments, key?, Arguments.has]

/-- It does so exactly if the option is given. -/
theorem isSome_inArguments_of_words {ws : List String} {r : Reading}
    (h : Reading.words ws {} = .ok r) (x : Setting α) :
    (x.inArguments r.arguments).isSome ↔ ∃ k ∈ r.given, x.key? = some k := by
  rw [isSome_inArguments]
  constructor
  · rintro ⟨k, hk, hhas⟩
    rcases (Reading.tallies_of_words h k).1 hhas with rfl | hgiven
    · -- the path of the file is no setting
      cases x <;> cases hk
    · exact ⟨k, hgiven, hk⟩
  · rintro ⟨k, hgiven, hk⟩
    exact ⟨k, hk, (Reading.tallies_of_words h k).2 (.inr hgiven)⟩

/-! ## All layers -/

theorem value_settings (x : Setting α) (a : Arguments) (vars : String → Option String)
    (file : Option Settings) : x.value (a.settings vars file) =
      (x.inArguments a).getD ((x.inVariables vars).getD ((file.map x.value).getD x.initial)) := by
  rw [Arguments.settings, value_override_arguments, value_override_variables]
  cases file with
  | none => rw [Option.getD_none, Option.map_none, Option.getD_none, value_initial]
  | some s => rfl

end Setting

/-- **Which layer decides.** Each setting has the value that the command line says, else the one
that the environment says, else the one in the file, else the one that nobody has set. The command
line says something about a setting exactly if the option of the setting is given, and the file
exactly if it has something for the setting. A variable whose text cannot be read for any setting
might as well not be set; the servers are always those of the file; and overriding settings twice by
the same environment is overriding them once. These are all settings there are. -/
theorem settings_layered (a : Arguments) (vars : String → Option String) (file : Option Settings) :
    (∀ {α : Type} (x : Setting α), x.value (a.settings vars file) =
      (x.inArguments a).getD ((x.inVariables vars).getD ((file.map x.value).getD x.initial))) ∧
    (∀ (ws : List String) (r : Reading), Reading.words ws {} = .ok r → ∀ {α : Type} (x : Setting α),
      (x.inArguments r.arguments).isSome ↔ ∃ k ∈ r.given, x.key? = some k) ∧
    (∀ (text : String) (s : Settings), Wire.settingsOfFile? text = some s →
      ∃ entries, Toml.read? text.toList = some entries ∧ ∀ {α : Type} (x : Setting α),
        x.SaidBy (.object (Wire.entryValues entries) .closed) (x.value s)) ∧
    (∀ name text : String,
      (∀ {α : Type} (x : Setting α), x.name? = some name → x.read? text = none) →
      a.settings (Function.update vars name (some text)) file
        = a.settings (Function.update vars name none) file) ∧
    (a.settings vars file).servers = (file.map Settings.servers).getD [] ∧
    (∀ s : Settings, (s.override vars).override vars = s.override vars) ∧
    ∀ s t : Settings, (∀ {α : Type} (x : Setting α), x.value s = x.value t) → s = t := by
  -- what is said of all settings is shown setting by setting
  refine ⟨fun x => x.value_settings a vars file,
    fun ws r h _ x => Setting.isSome_inArguments_of_words h x,
    fun text s => Setting.saidBy_of_file, fun name text h => ?_,
    Setting.servers.value_settings a vars file, fun s => ?_, fun s t => Setting.eq_of_value_eq⟩
  · refine Setting.eq_of_value_eq fun x => ?_
    rw [x.value_settings, x.value_settings, x.inVariables_update vars (h x)]
  · refine Setting.eq_of_value_eq fun x => ?_
    rw [x.value_override_variables, x.value_override_variables]
    cases x.inVariables vars <;> rfl

/-- A file that sets how many plugins run at the same time, and the log. -/
def soberFile : String :=
  "[plugin_execution]\nmax_concurrency = 8\n[logging]\nlevel = \"warn\"\nformat = \"json\""

/-- Variables for the same settings, one of which cannot be read. -/
def talkative : String → Option String
  | "RIPTIDE_MAX_CONCURRENCY" => some "many"
  | "RIPTIDE_LOG_LEVEL" => some "info"
  | "RIPTIDE_LOG_FORMAT" => some "compact"
  | _ => none

/-- Every layer decides about one of the settings. -/
theorem settings_of_soberFile :
    ∃ (r : Reading) (s : Settings), Reading.words ["--log-level", "debug"] {} = .ok r ∧
      Wire.settingsOfFile? soberFile = some s ∧
      (r.arguments.settings talkative (some s)).logging.level = "debug" ∧
      (r.arguments.settings talkative (some s)).logging.format = "compact" ∧
      (r.arguments.settings talkative (some s)).execution.concurrency = 8 ∧
      (r.arguments.settings talkative (some s)).execution.timeout = none := by
  let a : Arguments := { logLevel := some "debug" }
  let s : Settings := { execution := ⟨8, none⟩, logging := ⟨"warn", "json"⟩ }
  have hwords : Reading.words ["--log-level", "debug"] {} = .ok ⟨a, [.logLevel], none⟩ := by
    decide +kernel
  have hfile : Wire.settingsOfFile? soberFile = some s := by decide +kernel
  obtain ⟨hvalue, -⟩ := settings_layered a talkative (some s)
  exact ⟨_, s, hwords, hfile, hvalue .logLevel, hvalue .logFormat, hvalue .concurrency,
    hvalue .timeout⟩

end VulnScan.Config
