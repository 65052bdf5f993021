import VulnScan.CommandLine.Arguments
import VulnScan.Proofs.Outcomes

/-! # Which options are given

A reading keeps the options whose values are entered, and the arguments as they are so far. Both
tell the same (`Reading.Tallies`): what has a value was given, and what was given has one. Every
word keeps this, so it holds of a whole command line (`tallies_of_words`).
-/

set_option autoImplicit false

namespace VulnScan.CommandLine

/-- Whether there is a value of an option. There always is one of the configuration file. -/
def Arguments.has (a : Arguments) : Key → Bool
  | .config => true
  | .logLevel => a.logLevel.isSome
  | .logFormat => a.logFormat.isSome
  | .shortTarget => a.shortTarget.isSome
  | .longTarget => a.longTarget.isSome
  | .hostnameTarget => a.hostnameTarget.isSome
  | .ports => a.ports.isSome
  | .resultsFile => a.resultsFile.isSome
  | .advisoriesFile => a.advisoriesFile.isSome
  | .included => !a.included.isEmpty
  | .excluded => !a.excluded.isEmpty

/-- Even an empty text is a list of one item. -/
theorem Key.items_ne_nil (value : String) : Key.items value ≠ [] := by
  rw [Key.items, ne_eq, List.map_eq_nil_iff]
  exact Text.splitAll_ne_nil ',' value.toList

/-- What is entered for an option is a value of it and of no other. -/
theorem Key.has_assign {k : Key} {value : String} {a b : Arguments} (h : k.assign value a = .ok b)
    (j : Key) : b.has j = (a.has j || decide (j = k)) := by
  cases k with
  | config | logLevel | logFormat | hostnameTarget | ports =>
    cases h
    cases j <;> simp [Arguments.has]
  | shortTarget | longTarget | resultsFile | advisoriesFile =>
    obtain ⟨x, -, h⟩ := bind_eq_ok_iff.1 h
    cases h
    cases j <;> simp [Arguments.has]
  | included | excluded =>
    cases h
    cases j <;> simp [Arguments.has, Key.items_ne_nil]

namespace Reading

/-- The options that have a value are those that are given. -/
def Tallies (r : Reading) : Prop :=
  ∀ k, r.arguments.has k = true ↔ k = .config ∨ k ∈ r.given

theorem tallies_empty : Tallies {} := by
  intro k
  cases k <;> simp [Arguments.has]

variable {r r' : Reading} {k : Key} {value : String}

theorem Tallies.enter (hr : r.Tallies) (h : r.enter k value = .ok r') : r'.Tallies := by
  rw [Reading.enter] at h
  split at h
  · cases h
  · obtain ⟨b, hb, h⟩ := bind_eq_ok_iff.1 h
    cases h
    intro j
    simp only [Key.has_assign hb, Bool.or_eq_true, hr j, decide_eq_true_eq, List.mem_cons]
    exact or_assoc.trans (or_congr_right or_comm)

theorem Tallies.settle (hr : r.Tallies) (h : r.settle = .ok r') : r'.Tallies := by
  rw [Reading.settle] at h
  split at h
  · cases h
    exact hr
  · cases h
  · exact hr.enter h

theorem Tallies.begin {given : Option String} (hr : r.Tallies) (h : r.begin k given = .ok r') :
    r'.Tallies := by
  obtain ⟨r₁, hsettle, h⟩ := bind_eq_ok_iff.1 h
  have hsettled := hr.settle hsettle
  cases given with
  | some value => exact hsettled.enter h
  | none =>
    cases h
    exact hsettled

/-- Nothing is read any more when the reading has ended. -/
theorem stop_ne_ok {why : Stop} : r.stop why ≠ .ok r' := by
  intro h
  obtain ⟨_, -, h⟩ := bind_eq_ok_iff.1 h
  cases h

theorem Tallies.named {word : String} {name : List Char} {given : Option String} (hr : r.Tallies)
    (h : r.named word name given = .ok r') : r'.Tallies := by
  have hask : ∀ why, (if given.isSome then .error (.surplus word) else r.stop why) ≠
      (.ok r' : Except Stop Reading) := by
    intro why
    split
    · nofun
    · exact stop_ne_ok
  simp only [Reading.named] at h
  split at h
  · exact absurd h (hask _)
  · split at h
    · exact absurd h (hask _)
    · split at h
      · exact hr.begin h
      · cases h

theorem Tallies.lettered {word : String} {letter : Char} {rest : List Char} (hr : r.Tallies)
    (h : r.lettered word letter rest = .ok r') : r'.Tallies := by
  unfold Reading.lettered at h
  split at h
  · exact absurd h stop_ne_ok
  · split at h
    · exact absurd h stop_ne_ok
    · split at h
      · split at h <;> exact hr.begin h
      · cases h

theorem Tallies.plain {word : String} (hr : r.Tallies) (h : r.plain word = .ok r') :
    r'.Tallies := by
  rw [Reading.plain] at h
  split at h
  · cases h
    exact hr
  · cases h

theorem Tallies.word {w : String} (hr : r.Tallies) (h : r.word w = .ok r') : r'.Tallies := by
  rw [Reading.word] at h
  split at h
  · split at h <;> exact hr.named h
  · exact hr.lettered h
  · exact hr.plain h

/-- Every word keeps the tally, so all of them do. -/
theorem Tallies.words {ws : List String} (hr : r.Tallies) (h : Reading.words ws r = .ok r') :
    r'.Tallies := by
  induction ws generalizing r with
  | nil => exact hr.settle h
  | cons w ws ih =>
    unfold Reading.words at h
    split at h
    · cases ws with
      | nil => exact hr.settle h
      | cons x xs => cases h
    · obtain ⟨r₁, hword, h⟩ := bind_eq_ok_iff.1 h
      exact ih (hr.word hword) h

/-- The options that have a value are those that a command line gives. -/
theorem tallies_of_words {ws : List String} (h : Reading.words ws {} = .ok r) : r.Tallies :=
  tallies_empty.words h

end Reading

end VulnScan.CommandLine
