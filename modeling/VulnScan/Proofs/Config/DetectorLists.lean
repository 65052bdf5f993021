import VulnScan.Proofs.Config.Layers
import VulnScan.Proofs.Text.Pieces

/-! # Lists of detectors, as options and as variables

Which detectors may run can be listed on the command line and in the environment. Both cut a list at
its commas, but the option takes the items as they are typed, and the variable takes them without
the blanks around them and leaves out the empty ones. So a list means the same in both places
exactly if it has neither (`alike_iff_tidy`).
-/

set_option autoImplicit false

namespace VulnScan.Config

open CommandLine
open Plugin (Chosen Definition Detector Registry)

/-! ## Items of lists -/

/-- Every item of the list is a name without blanks around it. -/
def Tidy (t : String) : Prop :=
  ∀ item ∈ Text.splitAll ',' t.toList, item ≠ [] ∧ Text.IsTrimmed item

variable {t name : String}

/-- The option takes what stands between commas. -/
theorem mem_items : name ∈ Key.items t ↔ name.toList ∈ Text.splitAll ',' t.toList := by
  rw [Key.items, List.mem_map]
  constructor
  · rintro ⟨item, hitem, rfl⟩
    rwa [String.toList_ofList]
  · intro h
    exact ⟨_, h, String.ofList_toList⟩

/-- The variable takes what is left of it without the blanks around it, if anything is. -/
theorem mem_splitList : name ∈ splitList t ↔
    name ≠ "" ∧ ∃ item ∈ Text.splitAll ',' t.toList, Text.Trims item name.toList := by
  simp only [splitList, List.mem_filterMap, List.mem_map]
  constructor
  · rintro ⟨p, ⟨item, hitem, rfl⟩, hname⟩
    split at hname
    · cases hname
    · next hp =>
      cases hname
      refine ⟨fun hnil => hp ?_, item, hitem, ?_⟩
      · simpa using congrArg String.toList hnil
      · rw [String.toList_ofList]
        exact Text.trims_trim item
  · rintro ⟨hname, item, hitem, htrims⟩
    refine ⟨name.toList, ⟨item, hitem, Text.trims_iff.1 htrims⟩, ?_⟩
    have hne : name.toList.isEmpty = false := by
      simpa [List.isEmpty_eq_false_iff] using hname
    rw [hne, if_neg (by decide), String.ofList_toList]

/-- Of a tidy list the variable takes the same items as the option. -/
theorem Tidy.splitList_eq (h : Tidy t) : splitList t = Key.items t := by
  have hitems : ∀ items : List (List Char), (∀ item ∈ items, item ≠ [] ∧ Text.IsTrimmed item) →
      ((items.map Text.trim).filterMap fun item =>
        if item.isEmpty then none else some (String.ofList item)) = items.map String.ofList := by
    intro items hitems
    induction items with
    | nil => rfl
    | cons item items ih =>
      obtain ⟨⟨hne, htrimmed⟩, hrest⟩ := List.forall_mem_cons.1 hitems
      rw [List.map_cons, List.map_cons, List.filterMap_cons, htrimmed.trim_eq,
        if_neg (by simpa [List.isEmpty_iff] using hne), ih hrest]
  exact hitems _ h

/-- Of a list that is not tidy the option takes an item that the variable does not take. -/
theorem exists_mem_items_of_not_tidy (h : ¬ Tidy t) :
    ∃ name ∈ Key.items t, name ∉ splitList t := by
  simp only [Tidy, not_forall] at h
  obtain ⟨item, hitem, huntidy⟩ := h
  refine ⟨String.ofList item, mem_items.2 (by rwa [String.toList_ofList]), fun hmem => ?_⟩
  obtain ⟨hne, other, -, htrims⟩ := mem_splitList.1 hmem
  rw [String.toList_ofList] at htrims
  exact huntidy ⟨fun hnil => hne (by rw [hnil]), htrims.1⟩

/-- No item of an option has a comma. -/
theorem comma_notMem_items (t : String) : "," ∉ Key.items t := by
  intro hmem
  exact Text.notMem_of_mem_splitAll (mem_items.1 hmem) (by decide)

/-! ## The two places -/

/-- The lists of detectors. -/
inductive DetectorList where
  | included
  | excluded

namespace DetectorList

/-- The option for a list. -/
def key : DetectorList → Key
  | included => .included
  | excluded => .excluded

/-- The word of the command line that gives a list. -/
def word (l : DetectorList) (t : String) : String := "--" ++ l.key.name ++ "=" ++ t

/-- The variable for a list. -/
def variableName : DetectorList → String
  | included => "RIPTIDE_DETECTORS_INCLUDE"
  | excluded => "RIPTIDE_DETECTORS_EXCLUDE"

/-- The settings with another list. -/
def set (l : DetectorList) (names : List String) (s : Settings) : Settings :=
  match l with
  | included => { s with detectors := { s.detectors with included := names } }
  | excluded => { s with detectors := { s.detectors with excluded := names } }

/-- The settings if the list is given on the command line. -/
def byOption (l : DetectorList) (t : String) (s : Settings) : Except Stop Settings := do
  return (← Arguments.read [l.word t]).settings (fun _ => none) (some s)

/-- The settings if the list is given in the environment. -/
def byVariable (l : DetectorList) (t : String) (s : Settings) : Settings :=
  Arguments.settings {} (Function.update (fun _ => none) l.variableName (some t)) (some s)

theorem toList_word (l : DetectorList) (t : String) :
    (l.word t).toList = '-' :: '-' :: (l.key.name.toList ++ '=' :: t.toList) := by
  simp [word]

theorem word_ne (l : DetectorList) (t : String) : l.word t ≠ "--" := by
  intro h
  have hchars := congrArg String.toList h
  rw [toList_word] at hchars
  simp at hchars

/-- An option whose value follows after an equals sign is entered at once. -/
theorem reading_word (l : DetectorList) (t : String) :
    Reading.word (l.word t) {} = Reading.enter l.key t {} := by
  have hsplit : Text.splitFirst '=' (l.key.name.toList ++ '=' :: t.toList) =
      some (l.key.name.toList, t.toList) :=
    Text.splitFirst_append (by cases l <;> decide) t.toList
  have hkey : Key.ofName? l.key.name.toList = some l.key := by cases l <;> decide
  have hhelp : l.key.name ≠ "help" := by cases l <;> decide
  have hversion : l.key.name ≠ "version" := by cases l <;> decide
  simp only [Reading.word, toList_word, hsplit, Reading.named, String.ofList_toList, if_neg hhelp,
    if_neg hversion, hkey]
  rfl

/-- An environment without variables changes nothing. -/
theorem override_noVariables (s : Settings) : s.override (fun _ => none) = s :=
  Setting.eq_of_value_eq fun x => by
    rw [x.value_override_variables]
    cases x <;> rfl

/-- A command line without options changes nothing. -/
theorem override_noArguments (s : Settings) : Arguments.override {} s = s :=
  Setting.eq_of_value_eq fun x => by
    rw [x.value_override_arguments]
    cases x <;> rfl

/-- On the command line a list has the items that are typed. -/
theorem byOption_eq (l : DetectorList) (t : String) (s : Settings) :
    l.byOption t s = .ok (l.set (Key.items t) s) := by
  have hne := Key.items_ne_nil t
  rw [byOption, Arguments.read, Reading.words, if_neg (l.word_ne t), reading_word]
  cases l with
  | included =>
    show Except.ok (Arguments.settings { included := Key.items t } _ _) = _
    rw [Arguments.settings, Option.getD_some, override_noVariables, Arguments.override, if_neg hne]
    rfl
  | excluded =>
    show Except.ok (Arguments.settings { excluded := Key.items t } _ _) = _
    rw [Arguments.settings, Option.getD_some, override_noVariables, Arguments.override, if_neg hne]
    rfl

/-- In the environment a list has the items without blanks around them, and no empty ones. -/
theorem byVariable_eq (l : DetectorList) (t : String) (s : Settings) :
    l.byVariable t s = l.set (splitList t) s := by
  rw [byVariable, Arguments.settings, override_noArguments, Option.getD_some]
  refine Setting.eq_of_value_eq fun x => ?_
  rw [x.value_override_variables]
  cases l <;> cases x <;> rfl

/-! ## What is selected -/

/-- The detectors that are selected for a survey under settings, unless these ask for too many
slots. -/
def selected {σ : Type} (s : Settings) (r : Registry σ) (runtime : Scan.Runtime σ)
    (survey : Net.Survey) : Option (Execution.Activity σ (List (Chosen (Detector σ)))) :=
  (Scan.Workflow.ofSettings? r runtime s).map fun w => w.registry.detectorsFor w.selection survey

/-- A list means the same in both places: whatever else is set, whatever plugins are registered and
whatever the survey, the same detectors are selected. -/
def Alike (l : DetectorList) (t : String) : Prop :=
  ∀ {σ : Type} (s : Settings) (r : Registry σ) (runtime : Scan.Runtime σ) (survey : Net.Survey),
    ∃ s', l.byOption t s = .ok s' ∧
      selected s' r runtime survey = selected (l.byVariable t s) r runtime survey

/-- The selection that a list makes by itself. -/
def restriction : DetectorList → List String → Plugin.Selection
  | included, names => { included := names }
  | excluded, names => { excluded := names }

/-- A detector with a name, for all services. -/
def solo (name : String) : Plugin.Entry Unit :=
  ⟨{ role := .detector, name, author := "", version := "" }, .detector ⟨fun _ _ => .value [], []⟩⟩

/-- A survey with a single service. -/
def sparse : Net.Survey := ⟨{}, [{ endpoint := {} }]⟩

/-- A runtime whose clocks stand still. -/
def still : Scan.Runtime Unit := ⟨fun _ => .epoch, fun _ message => message⟩

/-- A detector that is alone is selected if its name is admitted. -/
theorem detectorsFor_solo (s : Plugin.Selection) (name : String) :
    (Registry.empty.register (solo name)).detectorsFor s sparse =
      .value (if s.admitsName name then
        [⟨(solo name).definition, ⟨fun _ _ => .value [], []⟩, sparse.services⟩] else []) := by
  have hcandidates : (Registry.empty.register (solo name)).candidates s =
      if s.admitsName name then [solo name] else [] := by
    cases h : s.admitsName name <;>
      simp [Registry.candidates, Registry.register, Registry.empty, Plugin.upsert, solo,
        Plugin.Role.isDetector, Plugin.Selection.admits, h]
  rw [Registry.detectorsFor, hcandidates]
  split <;> rfl

theorem selected_solo (l : DetectorList) (names : List String) (name : String) :
    selected (l.set names {}) (Registry.empty.register (solo name)) still sparse =
      some ((Registry.empty.register (solo name)).detectorsFor (l.restriction names) sparse) := by
  cases l <;> rfl

/-- A list that means the same in both places admits the same names. -/
theorem Alike.admitsName_eq {l : DetectorList} (h : l.Alike t) (name : String) :
    (l.restriction (Key.items t)).admitsName name
      = (l.restriction (splitList t)).admitsName name := by
  obtain ⟨s', hs', hsame⟩ := h {} (Registry.empty.register (solo name)) still sparse
  rw [byOption_eq] at hs'
  cases hs'
  rw [byVariable_eq, selected_solo, selected_solo, detectorsFor_solo, detectorsFor_solo] at hsame
  cases hoption : (l.restriction (Key.items t)).admitsName name <;>
    cases hvariable : (l.restriction (splitList t)).admitsName name <;>
    simp [hoption, hvariable, Execution.Activity.value] at hsame ⊢

theorem admitsName_included (names : List String) (name : String) :
    (included.restriction names).admitsName name = true ↔ names = [] ∨ name ∈ names := by
  simp [restriction, Plugin.Selection.admitsName]

theorem admitsName_excluded (names : List String) (name : String) :
    (excluded.restriction names).admitsName name = true ↔ name ∉ names := by
  simp [restriction, Plugin.Selection.admitsName]

/-- A list means the same in both places exactly if it is tidy. -/
theorem alike_iff_tidy (l : DetectorList) : l.Alike t ↔ Tidy t := by
  constructor
  · intro h
    by_contra huntidy
    obtain ⟨name, hitem, hnot⟩ := exists_mem_items_of_not_tidy huntidy
    have hsame := fun name => Bool.eq_iff_iff.1 (h.admitsName_eq name)
    cases l with
    | included =>
      simp only [admitsName_included, Key.items_ne_nil, false_or] at hsame
      rcases (hsame name).1 hitem with hnone | hmem
      · -- the variable admits all names then, and the option no name with a comma
        exact comma_notMem_items t ((hsame ",").2 (.inl hnone))
      · exact hnot hmem
    | excluded =>
      simp only [admitsName_excluded] at hsame
      exact (hsame name).2 hnot hitem
  · intro h σ s r runtime survey
    refine ⟨_, l.byOption_eq t s, ?_⟩
    rw [byVariable_eq, h.splitList_eq]

end DetectorList

/-- **What a list of detectors means.** Given on the command line, a list replaces the one in the
settings by its items as they are typed, of which there is at least one; given in the environment,
by what is left of them without the blanks around them, where the empty ones are left out. Nothing
else changes. So the list selects the same detectors in both places, for all settings, plugins and
surveys, exactly if none of its items is empty or has blanks around it. -/
theorem lists_compared (t : String) :
    (∀ (l : DetectorList) (s : Settings), l.byOption t s = .ok (l.set (Key.items t) s) ∧
      l.byVariable t s = l.set (splitList t) s) ∧
    Key.items t ≠ [] ∧
    (∀ name, name ∈ Key.items t ↔ name.toList ∈ Text.splitAll ',' t.toList) ∧
    (∀ name, name ∈ splitList t ↔
      name ≠ "" ∧ ∃ item ∈ Text.splitAll ',' t.toList, Text.Trims item name.toList) ∧
    ∀ l : DetectorList, l.Alike t ↔ Tidy t :=
  ⟨fun l s => ⟨l.byOption_eq t s, l.byVariable_eq t s⟩, Key.items_ne_nil t, fun _ => mem_items,
    fun _ => mem_splitList, fun l => l.alike_iff_tidy⟩

/-- A list with a blank after its comma. -/
def spacedList : String := "Other, RemoteVulnDetector-py"

/-- The variable excludes both detectors of the list, and the option only the first. -/
theorem spacedList_not_alike : ¬ DetectorList.excluded.Alike spacedList := by
  rw [DetectorList.alike_iff_tidy]
  intro htidy
  have hitem : " RemoteVulnDetector-py".toList ∈ Text.splitAll ',' spacedList.toList := by
    decide +kernel
  have hblank := (htidy _ hitem).2.head ' ' rfl
  exact absurd hblank (by decide)

end VulnScan.Config
