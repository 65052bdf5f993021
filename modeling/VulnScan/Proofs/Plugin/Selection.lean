import VulnScan.Plugin.Selection
import VulnScan.Proofs.Execution.View

/-! # What the selection of detectors can end in

The selection asks the language servers for their plugins. A server that does not tell them costs
nothing but its plugins: the selection as a whole never ends in an error
(`detectorsFor_faultless`). It breaks off where the listing of one of the servers does
(`mayEnd_detectorsFor_collapse`).
-/

set_option autoImplicit false

namespace VulnScan.Plugin

open Execution (Activity Outcome)
open Execution.Activity

variable {σ α β : Type}

/-- The activity never ends in an error. -/
def Faultless (a : Activity σ α) : Prop := ∀ e, ¬ a.MayEnd (.fault e)

namespace Faultless

theorem value (v : α) : Faultless (Activity.value v : Activity σ α) := by
  intro e h
  simp [Activity.value, MayEnd] at h

theorem tried (a : Activity σ α) : Faultless a.tried := by
  intro e h
  obtain ⟨o, -, ho⟩ := mayEnd_tried h
  cases o <;> cases ho

theorem andThen {a : Activity σ α} {f : α → Activity σ β} (ha : Faultless a)
    (hf : ∀ v, Faultless (f v)) :
    Faultless (a.andThen f) := by
  intro e h
  obtain ⟨o, ho, hrest⟩ := mayEnd_andThen h
  cases o with
  | value v => exact hf v e hrest
  | fault e' => exact ha e' ho
  | collapse message => simp [Activity.andThen, MayEnd] at hrest

end Faultless

/-- A composition breaks off where one of its parts does. -/
theorem collapse_andThen {a : Activity σ α} {f : α → Activity σ β} {message : String}
    (h : (a.andThen f).MayEnd (.collapse message)) :
    a.MayEnd (.collapse message) ∨ ∃ v, a.MayEnd (.value v) ∧ (f v).MayEnd (.collapse message) := by
  obtain ⟨o, ho, hrest⟩ := mayEnd_andThen h
  cases o with
  | value v => exact .inr ⟨v, ho, hrest⟩
  | fault e => simp [Activity.andThen, MayEnd] at hrest
  | collapse message' =>
      simp only [Activity.andThen, MayEnd, part_finish, finish.injEq, Outcome.collapse.injEq]
        at hrest
      exact .inl (hrest ▸ ho)

namespace Registry

theorem queueHosted_faultless (p : LanguageServer.Proxy σ) (survey : Net.Survey) :
    Faultless (queueHosted p survey) := by
  refine (Faultless.tried _).andThen fun answer => ?_
  cases answer with
  | ok ds => exact .value _
  | error e => exact .value _

theorem chooseDetector_faultless (survey : Net.Survey) (e : Entry σ) :
    Faultless (chooseDetector survey e) := by
  unfold chooseDetector
  split
  · exact .value _
  · exact (queueHosted_faultless _ survey).andThen fun p => .value _
  · exact .value _

theorem chooseDetectors_faultless (survey : Net.Survey) (es : List (Entry σ)) :
    Faultless (chooseDetectors survey es) := by
  induction es with
  | nil => exact .value _
  | cons e es ih =>
      exact (chooseDetector_faultless survey e).andThen fun c => ih.andThen fun cs => .value _

/-- The selection of detectors never ends in an error. -/
theorem detectorsFor_faultless (r : Registry σ) (s : Selection) (survey : Net.Survey) :
    Faultless (r.detectorsFor s survey) :=
  chooseDetectors_faultless survey _

/-- One of the detectors that may run is hosted by a server whose listing may break off with the
message. -/
def MayBreakOff (r : Registry σ) (s : Selection) (message : String) : Prop :=
  ∃ e ∈ r.candidates s, ∃ p, e.body = .host p ∧ p.plugins.MayEnd (.collapse message)

theorem mayEnd_queueHosted_collapse {p : LanguageServer.Proxy σ} {survey : Net.Survey}
    {message : String} (h : (queueHosted p survey).MayEnd (.collapse message)) :
    p.plugins.MayEnd (.collapse message) := by
  rcases collapse_andThen h with h | ⟨answer, -, h⟩
  · obtain ⟨o, ho, htried⟩ := mayEnd_tried h
    cases o with
    | value ds => cases htried
    | fault e => cases htried
    | collapse message' =>
        cases htried
        exact ho
  · cases answer <;> simp [pure, Activity.value, MayEnd] at h

theorem mayEnd_chooseDetector_collapse {survey : Net.Survey} {e : Entry σ} {message : String}
    (h : (chooseDetector survey e).MayEnd (.collapse message)) :
    ∃ p, e.body = .host p ∧ p.plugins.MayEnd (.collapse message) := by
  unfold chooseDetector at h
  split at h
  · simp [Activity.value, MayEnd] at h
  · next p hp =>
      rcases collapse_andThen h with h | ⟨q, -, h⟩
      · exact ⟨p, hp, mayEnd_queueHosted_collapse h⟩
      · simp [pure, Activity.value, MayEnd] at h
  · simp [Activity.value, MayEnd] at h

/-- The selection breaks off only with the listing of a server. -/
theorem mayEnd_detectorsFor_collapse {r : Registry σ} {s : Selection} {survey : Net.Survey}
    {message : String} (h : (r.detectorsFor s survey).MayEnd (.collapse message)) :
    r.MayBreakOff s message := by
  suffices ∀ es : List (Entry σ), (chooseDetectors survey es).MayEnd (.collapse message) →
      ∃ e ∈ es, ∃ p, e.body = .host p ∧ p.plugins.MayEnd (.collapse message) from this _ h
  intro es h
  induction es with
  | nil => simp [chooseDetectors, Activity.value, MayEnd] at h
  | cons e es ih =>
      rcases collapse_andThen h with h | ⟨c, -, h⟩
      · exact ⟨e, List.mem_cons_self, mayEnd_chooseDetector_collapse h⟩
      · rcases collapse_andThen h with h | ⟨cs, -, h⟩
        · obtain ⟨e', he', h⟩ := ih h
          exact ⟨e', List.mem_cons_of_mem e he', h⟩
        · simp [pure, Activity.value, MayEnd] at h

end Registry

end VulnScan.Plugin
