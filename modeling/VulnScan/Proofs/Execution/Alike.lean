import VulnScan.Proofs.Execution.Alone
import VulnScan.Proofs.Execution.Records

/-! # Two runs side by side

Two scans that differ in how long their plugins take, and so in the order in which these run, are
compared step by step. The two may even run in different worlds: what an activity ends in is all
that counts, so a comparison starts from activities that surely end in the same outcome
(`Activity.Agree`). Sessions compared this way lead to related results or break off with the same
message (`Session.Alike`); they compose (`Session.Alike.bind`), and pools are no obstacle, whatever
their size (`Pool.execute_alike`).
-/

set_option autoImplicit false

namespace VulnScan.Execution

variable {σ₁ σ₂ α α₁ α₂ β₁ β₂ : Type}

/-! ## Activities -/

/-- Outcomes that differ only in their values, and there as `R` allows. -/
inductive Outcome.Alike (R : α₁ → α₂ → Prop) : Outcome α₁ → Outcome α₂ → Prop
  | value {a₁ : α₁} {a₂ : α₂} (related : R a₁ a₂) : Alike R (.value a₁) (.value a₂)
  | fault (e : Error) : Alike R (.fault e) (.fault e)
  | collapse (message : String) : Alike R (.collapse message) (.collapse message)

namespace Activity

/-- Both activities surely end, in outcomes that differ only as `R` allows. -/
def Alike (R : α₁ → α₂ → Prop) (a₁ : Activity σ₁ α₁) (a₂ : Activity σ₂ α₂) : Prop :=
  ∃ o₁ o₂, a₁.SurelyEnds o₁ ∧ a₂.SurelyEnds o₂ ∧ o₁.Alike R o₂

/-- Both activities surely end in the same outcome. -/
def Agree (a₁ : Activity σ₁ α) (a₂ : Activity σ₂ α) : Prop :=
  ∃ o, a₁.SurelyEnds o ∧ a₂.SurelyEnds o

namespace Alike

variable {R : α₁ → α₂ → Prop} {R' : β₁ → β₂ → Prop}

theorem value {a₁ : α₁} {a₂ : α₂} (h : R a₁ a₂) :
    Alike R (Activity.value a₁ : Activity σ₁ α₁) (Activity.value a₂ : Activity σ₂ α₂) :=
  ⟨_, _, rfl, rfl, .value h⟩

theorem andThen {a₁ : Activity σ₁ α₁} {a₂ : Activity σ₂ α₂} {f₁ : α₁ → Activity σ₁ β₁}
    {f₂ : α₂ → Activity σ₂ β₂} (h : a₁.Alike R a₂)
    (hf : ∀ v₁ v₂, R v₁ v₂ → (f₁ v₁).Alike R' (f₂ v₂)) :
    (a₁.andThen f₁).Alike R' (a₂.andThen f₂) := by
  obtain ⟨o₁, o₂, h₁, h₂, ho⟩ := h
  cases ho with
  | @value v₁ v₂ hv =>
      obtain ⟨o₁', o₂', h₁', h₂', ho'⟩ := hf v₁ v₂ hv
      exact ⟨o₁', o₂', h₁.andThen h₁', h₂.andThen h₂', ho'⟩
  | fault e => exact ⟨_, _, h₁.andThen rfl, h₂.andThen rfl, .fault e⟩
  | collapse message => exact ⟨_, _, h₁.andThen rfl, h₂.andThen rfl, .collapse message⟩

theorem tried {a₁ : Activity σ₁ α} {a₂ : Activity σ₂ α} (h : a₁.Agree a₂) :
    a₁.tried.Alike Eq a₂.tried := by
  obtain ⟨o, h₁, h₂⟩ := h
  refine ⟨_, _, h₁.tried, h₂.tried, ?_⟩
  cases o with
  | value a => exact .value rfl
  | fault e => exact .value rfl
  | collapse message => exact .collapse message

end Alike

end Activity

/-! ## Sessions -/

/-- Both courses lead to results that `R` relates, without being cancelled, or collapse with the
same message, one that `tells` allows. -/
inductive Course.Alike (R : α₁ → α₂ → Prop) (tells : String → Prop) :
    Course σ₁ α₁ → Course σ₂ α₂ → Prop
  | reached {a₁ : α₁} {a₂ : α₂} {m₁ : Moment σ₁} {m₂ : Moment σ₂} (related : R a₁ a₂)
      (uncancelled₁ : m₁.cancelled = false) (uncancelled₂ : m₂.cancelled = false) :
      Alike R tells (.reached a₁ m₁) (.reached a₂ m₂)
  | collapsed {message : String} {m₁ : Moment σ₁} {m₂ : Moment σ₂} (said : tells message) :
      Alike R tells (.collapsed message m₁) (.collapsed message m₂)

/-- From any two moments, in scans that nobody cancels or abandons, both sessions lead to results
that `R` relates, or collapse with the same message, one that `tells` allows. -/
def Session.Alike (R : α₁ → α₂ → Prop) (tells : String → Prop) (s₁ : Session σ₁ α₁)
    (s₂ : Session σ₂ α₂) : Prop :=
  ∀ m₁ m₂, m₁.cancelled = false → m₂.cancelled = false →
    Course.Alike R tells (s₁ {} m₁) (s₂ {} m₂)

namespace Session.Alike

variable {R : α₁ → α₂ → Prop} {R' : β₁ → β₂ → Prop} {tells : String → Prop}

theorem pure {a₁ : α₁} {a₂ : α₂} (h : R a₁ a₂) :
    Alike R tells (Pure.pure a₁ : Session σ₁ α₁) (Pure.pure a₂ : Session σ₂ α₂) :=
  fun _ _ => .reached h

theorem bind {s₁ : Session σ₁ α₁} {s₂ : Session σ₂ α₂} {f₁ : α₁ → Session σ₁ β₁}
    {f₂ : α₂ → Session σ₂ β₂} (h : s₁.Alike R tells s₂)
    (hf : ∀ a₁ a₂, R a₁ a₂ → (f₁ a₁).Alike R' tells (f₂ a₂)) :
    (s₁ >>= f₁).Alike R' tells (s₂ >>= f₂) := by
  intro m₁ m₂ hm₁ hm₂
  show Course.Alike R' tells (s₁.andThen f₁ {} m₁) (s₂.andThen f₂ {} m₂)
  unfold Session.andThen
  generalize hc₁ : s₁ {} m₁ = c₁
  generalize hc₂ : s₂ {} m₂ = c₂
  have hc : Course.Alike R tells c₁ c₂ := hc₁ ▸ hc₂ ▸ h m₁ m₂ hm₁ hm₂
  cases hc with
  | reached related hm₁' hm₂' => exact hf _ _ related _ _ hm₁' hm₂'
  | collapsed said => exact .collapsed said

/-- Nothing that is compared depends on the present moment. -/
theorem moment : Alike (fun _ _ => True) tells (Session.moment : Session σ₁ (Moment σ₁))
    (Session.moment : Session σ₂ (Moment σ₂)) :=
  fun _ _ => .reached trivial

end Session.Alike

/-- An activity that surely ends does so on its own, if nobody interrupts it. -/
theorem Activity.SurelyEnds.alone {σ : Type} {a : Activity σ α} {o : Outcome α} {m : Moment σ}
    (h : a.SurelyEnds o) (hm : m.cancelled = false) :
    ∃ m', a.alone {} m = .reached (some o) m' ∧ m'.cancelled = false ∧ a.MayEnd o := by
  obtain ⟨o', m', hreached, hlead⟩ :=
    (a.alone_meets {} m).exists_reached (Signals.not_excuse h.not_mayHang)
  -- nobody cancels it: not before, not from outside and not from within
  have hm' : m'.cancelled = false := by
    by_contra hc
    rcases hlead.called (by simpa using hc) with h' | h' | h'
    · simp [hm] at h'
    · cases h'
    · exact h.not_mayCancel h'
  cases o' with
  | none => simp [hlead.givenUp rfl] at hm'
  | some o' =>
      have hends := hlead.mayEnd o' rfl
      rw [h.eq_of_mayEnd hends] at hreached hends
      exact ⟨m', hreached, hm', hends⟩

theorem Activity.alone_alike {R : α₁ → α₂ → Prop} {a₁ : Activity σ₁ α₁} {a₂ : Activity σ₂ α₂}
    {tells : String → Prop} (h : a₁.Alike R a₂) :
    Session.Alike
      (fun o₁ o₂ => ∃ o₁' o₂', o₁ = some o₁' ∧ o₂ = some o₂' ∧ a₁.MayEnd o₁' ∧ o₁'.Alike R o₂')
      tells a₁.alone a₂.alone := by
  obtain ⟨o₁, o₂, h₁, h₂, ho⟩ := h
  intro m₁ m₂ hm₁ hm₂
  obtain ⟨m₁', hr₁, hm₁', hends⟩ := h₁.alone hm₁
  obtain ⟨m₂', hr₂, hm₂', -⟩ := h₂.alone hm₂
  rw [hr₁, hr₂]
  exact .reached ⟨o₁, o₂, rfl, rfl, hends, ho⟩ hm₁' hm₂'

/-! ## Executions -/

/-- Tasks of the same plugin for the same services, with the same outcome. -/
structure Task.Alike (t₁ : Task σ₁ α) (t₂ : Task σ₂ α) : Prop where
  plugin : t₁.plugin = t₂.plugin
  services : t₁.services = t₂.services
  activity : t₁.activity.Agree t₂.activity

/-- Endings that tell the same, but for what is behind an error: of a breakdown the runtime may
have reported something else. -/
inductive Ending.Alike : Ending α → Ending α → Prop
  | refl (e : Ending α) : Alike e e
  | failed {e₁ e₂ : Error} (message : e₁.message = e₂.message) : Alike (.failed e₁) (.failed e₂)

/-- Records that tell the same, except for the time that the execution took. -/
structure Record.Alike (r₁ r₂ : Record α) : Prop where
  plugin : r₁.plugin = r₂.plugin
  services : r₁.services = r₂.services
  ending : r₁.ending.Alike r₂.ending

/-- Both are values that `R` relates, or errors with the same message. -/
inductive ResultsTell (R : α → α → Prop) : Except Error α → Except Error α → Prop
  | ok {a₁ a₂ : α} (related : R a₁ a₂) : ResultsTell R (.ok a₁) (.ok a₂)
  | error {e₁ e₂ : Error} (message : e₁.message = e₂.message) :
      ResultsTell R (.error e₁) (.error e₂)

namespace Record.Alike

variable {r₁ r₂ : Record α}

theorem result (h : r₁.Alike r₂) : ResultsTell Eq r₁.result r₂.result := by
  obtain ⟨plugin₁, services₁, ending₁, elapsed₁⟩ := r₁
  obtain ⟨plugin₂, services₂, ending₂, elapsed₂⟩ := r₂
  have hending : ending₁.Alike ending₂ := h.ending
  cases hending with
  | refl =>
      cases ending₁ with
      | succeeded a => exact .ok rfl
      | failed e => exact .error rfl
      | timedOut e => exact .error rfl
  | failed message => exact .error message

theorem isSucceeded_eq (h : r₁.Alike r₂) : r₁.isSucceeded = r₂.isSucceeded := by
  obtain ⟨plugin₁, services₁, ending₁, elapsed₁⟩ := r₁
  obtain ⟨plugin₂, services₂, ending₂, elapsed₂⟩ := r₂
  have hending : ending₁.Alike ending₂ := h.ending
  cases hending with
  | refl => rfl
  | failed message => rfl

theorem all_isSucceeded_eq {rs₁ rs₂ : List (Record α)} (h : List.Forall₂ Record.Alike rs₁ rs₂) :
    rs₁.all Record.isSucceeded = rs₂.all Record.isSucceeded := by
  induction h with
  | nil => rfl
  | cons hr _ ih => rw [List.all_cons, List.all_cons, hr.isSucceeded_eq, ih]

end Record.Alike

/-- What the runtime reports of a breakdown is behind the message of an error. -/
theorem Record.RetoldAs.alike {crash crash' : String → String} {r r' : Record α}
    (h : r.RetoldAs crash crash' r') : r.Alike r' := by
  cases h with
  | refl => exact ⟨rfl, rfl, .refl _⟩
  | collapsed plugin services message elapsed => exact ⟨rfl, rfl, .failed rfl⟩

/-- How an execution ends that is not interrupted. -/
def Ending.ofOutcome {σ : Type} (t : Task σ α) : Outcome α → Ending α
  | .value a => .succeeded a
  | .fault e => .failed (blame t.plugin e)
  | .collapse message => .failed (blame t.plugin (Execution.collapse (t.crash message)))

/-- Tasks of one plugin with one outcome end alike, whatever the runtime reports of them. -/
theorem Ending.ofOutcome_alike {t₁ : Task σ₁ α} {t₂ : Task σ₂ α} (plugin : t₁.plugin = t₂.plugin)
    (o : Outcome α) : (ofOutcome t₁ o).Alike (ofOutcome t₂ o) := by
  cases o with
  | value a => exact .refl _
  | fault e =>
      simp only [ofOutcome, plugin]
      exact .refl _
  | collapse message =>
      simp only [ofOutcome, plugin]
      exact .failed rfl

/-- The outcome of an activity determines its record up to the time, unless there is a deadline or
a cancellation. -/
theorem Recorded.ending_eq {σ : Type} {t : Task σ α} {r : Record α} {o : Outcome α}
    (h : Recorded none false t.activity.MayEnd t r) (ho : t.activity.SurelyEnds o) :
    r.ending = .ofOutcome t o := by
  cases h with
  | succeeded ended =>
      obtain rfl := ho.eq_of_mayEnd ended
      rfl
  | failed ended =>
      obtain rfl := ho.eq_of_mayEnd ended
      rfl
  | collapsed ended =>
      obtain rfl := ho.eq_of_mayEnd ended
      rfl
  | timedOut late => cases late
  | cancelled called => cases called

namespace Pool

/-- Tasks that surely end are all recorded, if there is no deadline and nobody interrupts them. -/
theorem execute_of_surelyEnds {σ : Type} {pool : Pool} {tasks : List (Task σ α)} {m : Moment σ}
    (unlimited : pool.deadline = none) (h : ∀ t ∈ tasks, ∃ o, t.activity.SurelyEnds o)
    (hm : m.cancelled = false) :
    ∃ records m', pool.execute tasks {} m = .reached records m' ∧ m'.cancelled = false ∧
      List.Forall₂ (fun t => Recorded none false t.activity.MayEnd t) tasks records := by
  obtain ⟨records, m', hreached, hrecorded, hcalled, -⟩ :=
    (pool.execute_meets tasks {} m).exists_reached <| Signals.not_excuse fun ⟨_, t, ht, hhang⟩ =>
      (h t ht).elim fun _ ho => ho.not_mayHang hhang
  have hm' : m'.cancelled = false := by
    by_contra hc
    rcases hcalled (by simpa using hc) with h' | h' | ⟨t, ht, h'⟩
    · simp [hm] at h'
    · cases h'
    · exact (h t ht).elim fun _ ho => ho.not_mayCancel h'
  rw [hm', unlimited] at hrecorded
  exact ⟨records, m', hreached, hm', hrecorded⟩

/-- Alike tasks in the same order leave alike records in that order, on pools of any sizes. -/
theorem execute_alike {pool₁ pool₂ : Pool} {tasks₁ : List (Task σ₁ α)} {tasks₂ : List (Task σ₂ α)}
    {tells : String → Prop} (unlimited₁ : pool₁.deadline = none)
    (unlimited₂ : pool₂.deadline = none) (h : List.Forall₂ Task.Alike tasks₁ tasks₂) :
    Session.Alike (List.Forall₂ Record.Alike) tells (pool₁.execute tasks₁)
      (pool₂.execute tasks₂) := by
  intro m₁ m₂ hm₁ hm₂
  have hsure₁ : ∀ t ∈ tasks₁, ∃ o, t.activity.SurelyEnds o :=
    ((List.forall₂_and_left _ _).1
      (h.imp fun _ _ ht => ⟨ht.activity.imp fun _ ho => ho.1, ht⟩)).1
  have hsure₂ : ∀ t ∈ tasks₂, ∃ o, t.activity.SurelyEnds o :=
    ((List.forall₂_and_left _ _).1 (List.Forall₂.flip
      (h.imp fun _ _ ht => ⟨ht.activity.imp fun _ ho => ho.2, ht⟩))).1
  obtain ⟨records₁, m₁', hr₁, hm₁', hrec₁⟩ := execute_of_surelyEnds unlimited₁ hsure₁ hm₁
  obtain ⟨records₂, m₂', hr₂, hm₂', hrec₂⟩ := execute_of_surelyEnds unlimited₂ hsure₂ hm₂
  rw [hr₁, hr₂]
  refine .reached ?_ hm₁' hm₂'
  -- the records are compared task by task, so the order of the ends plays no part
  clear hr₁ hr₂ hsure₁ hsure₂
  induction h generalizing records₁ records₂ with
  | nil =>
      cases hrec₁
      cases hrec₂
      exact .nil
  | cons htask _ ih =>
      obtain ⟨r₁, records₁, h₁, hrest₁, rfl⟩ := List.forall₂_cons_left_iff.1 hrec₁
      obtain ⟨r₂, records₂, h₂, hrest₂, rfl⟩ := List.forall₂_cons_left_iff.1 hrec₂
      refine .cons ?_ (ih records₁ hrest₁ records₂ hrest₂)
      obtain ⟨o, ho₁, ho₂⟩ := htask.activity
      refine ⟨?_, ?_, ?_⟩
      · rw [h₁.plugin_eq, h₂.plugin_eq, htask.plugin]
      · rw [h₁.services_eq, h₂.services_eq, htask.services]
      · rw [h₁.ending_eq ho₁, h₂.ending_eq ho₂]
        exact Ending.ofOutcome_alike htask.plugin o

end Pool

end VulnScan.Execution
