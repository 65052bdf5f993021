import VulnScan.Proofs.Execution.Batch
import VulnScan.Proofs.Execution.Clock

/-! # Executions that are polled

An execution does nothing by itself: it goes on when it is polled, and how often and in which order
that happens is up to nobody. Whenever it is polled it looks at the token of its executor first
(`Phase.poll`), and only if that is not cancelled at its slot, its timer and its deadline. A poll
is not broken into; what others do happens between two polls.

`Batch.Trail` lists all ways in which the executions of a batch can be polled while the clock moves
on. As every poll is a step of the batch (`Batch.Tick.step`), what holds of all interleavings of
such steps holds of the polls.
-/

set_option autoImplicit false

namespace VulnScan.Execution

variable {σ α : Type}

/-! ## One poll -/

instance {now : Nat} {free : Prop} [Decidable free] (p : Phase σ α) :
    Decidable (p.Ready now free) :=
  match p with
  | .queued _ _ => inferInstanceAs (Decidable free)
  | .waiting _ timer _ limit =>
      inferInstanceAs (Decidable (timer.time ≤ now ∨ ∃ l ∈ limit, l.time ≤ now))
  | .idle _ limit => inferInstanceAs (Decidable (∃ l ∈ limit, l.time ≤ now))
  | .decided _ => .isFalse id

/-- What a poll at the moment `m` does to a job, and to the moment. A job of a cancelled scan is
dismissed, whatever else it may be ready for. -/
def Phase.poll (deadline : Option Nat) (turn : Nat) (free : Prop) [Decidable free] (m : Moment σ)
    (p : Phase σ α) : Option (Phase σ α × Moment σ) :=
  if p.isDecided then none
  else if m.cancelled then some (.decided (p.cancel m.now), m)
  else if p.Ready m.now free then p.advance deadline turn m
  else none

/-- What happens when a poll at the moment `m` takes a job from `p` to `q`. -/
def Phase.pollEvents (m : Moment σ) (p q : Phase σ α) : List (Happening σ α) :=
  if m.cancelled then [.decided] else p.resumption m.now ++ q.conclusion

section

variable {deadline : Option Nat} {turn : Nat} {free : Prop} [Decidable free] {m m' : Moment σ}
  {p q : Phase σ α}

/-- A poll in a cancelled scan decides its job, whatever the job may be waiting for. -/
theorem Phase.poll_of_cancelled (hm : m.cancelled = true) (undecided : p.isDecided = false) :
    p.poll deadline turn free m = some (.decided (p.cancel m.now), m) := by
  rw [poll, if_neg (by rw [undecided]; exact Bool.noConfusion), if_pos hm]

theorem Phase.poll_of_uncancelled (hm : m.cancelled = false) (ready : p.Ready m.now free) :
    p.poll deadline turn free m = p.advance deadline turn m := by
  have undecided : p.isDecided = false := by
    cases p with
    | decided d => exact ready.elim
    | queued submitted job => rfl
    | waiting since timer next limit => rfl
    | idle since limit => rfl
  simp only [poll, undecided, hm, Bool.false_eq_true, if_false, if_pos ready]

/-- A poll in a scan that is not cancelled is a move of a job that is ready. -/
theorem Phase.advance_of_poll (h : p.poll deadline turn free m = some (q, m'))
    (hm : m.cancelled = false) :
    p.Ready m.now free ∧ p.advance deadline turn m = some (q, m') := by
  rw [poll, if_neg (by rw [hm]; exact Bool.noConfusion : ¬ m.cancelled = true)] at h
  split at h
  · cases h
  · split at h
    · next ready => exact ⟨ready, h⟩
    · cases h

/-- A poll in a cancelled scan is a dismissal. -/
theorem Phase.eq_of_poll (h : p.poll deadline turn free m = some (q, m'))
    (hm : m.cancelled = true) :
    p.isDecided = false ∧ q = .decided (p.cancel m.now) ∧ m' = m := by
  rw [poll, if_pos hm] at h
  split at h
  · cases h
  · next undecided =>
      cases h
      exact ⟨Bool.eq_false_iff.2 undecided, rfl, rfl⟩

/-- Nothing happens to a job that is decided. -/
theorem Phase.undecided_of_poll (h : p.poll deadline turn free m = some (q, m')) :
    p.isDecided = false := by
  unfold poll at h
  split at h
  · cases h
  · next undecided => exact Bool.eq_false_iff.2 undecided

end

namespace Batch

/-- One poll of one execution, or the submission of the next task. -/
inductive Tick (deadline : Option Nat) (free : Prop) [Decidable free] (m : Moment σ)
    (b : Batch σ α) : History σ α → Moment σ → Batch σ α → Prop
  | submits {t : Task σ α} (next : b.tasks[b.phases.length]? = some t) :
      Tick deadline free m b [(b.phases.length, .submitted t)] m
        { b with phases := b.phases ++ [.queued m.now t.activity] }
  | polls {i : Nat} {p q : Phase σ α} {m' : Moment σ} (at_i : b.phases[i]? = some p)
      (polled : p.poll deadline b.turn free m = some (q, m')) :
      Tick deadline free m b ((p.pollEvents m q).map fun x => (i, x)) m'
        { b with phases := b.phases.set i q, turn := if m.cancelled then b.turn else b.turn + 2 }

section

variable {deadline : Option Nat} {free : Prop} [Decidable free] {m m' : Moment σ}
  {b b' : Batch σ α} {e : History σ α}

/-- A poll is a step. -/
theorem Tick.step (tick : b.Tick deadline free m e m' b') : b.Step deadline free m e m' b' := by
  cases tick with
  | submits next => exact .submits next
  | @polls i p q m' at_i polled =>
      cases hm : m.cancelled with
      | true =>
          obtain ⟨undecided, rfl, rfl⟩ := Phase.eq_of_poll polled hm
          rw [Phase.pollEvents, if_pos hm, if_pos rfl]
          exact .dismisses hm at_i undecided
      | false =>
          obtain ⟨ready, advances⟩ := Phase.advance_of_poll polled hm
          rw [Phase.pollEvents, hm, if_neg Bool.noConfusion, if_neg Bool.noConfusion]
          exact .moves at_i ready advances

/-- Once the scan is cancelled no poll calls a logic, and with none a logic goes on. -/
theorem Tick.heeds (tick : b.Tick deadline free m e m' b') (hm : m.cancelled = true) :
    ∀ x ∈ e, x.2.isRun = false := by
  cases tick with
  | submits next => simp [Happening.isRun]
  | polls at_i polled =>
      rw [Phase.pollEvents, if_pos hm]
      simp [Happening.isRun]

end

/-- Any number of polls of the executions of a batch, and of submissions. Between them the clock
moves on, and the scan may be cancelled from outside. -/
inductive Trail (slots : Nat) (deadline : Option Nat) :
    Moment σ → Batch σ α → History σ α → Moment σ → Batch σ α → Prop
  | done {m : Moment σ} {b : Batch σ α} : Trail slots deadline m b [] m b
  | passes {m m' : Moment σ} {b b' : Batch σ α} {h : History σ α} (now : Nat)
      (onward : m.now ≤ now) (rest : Trail slots deadline { m with now := now } b h m' b') :
      Trail slots deadline m b h m' b'
  | called {m m' : Moment σ} {b b' : Batch σ α} {h : History σ α}
      (rest : Trail slots deadline { m with cancelled := true } b h m' b') :
      Trail slots deadline m b h m' b'
  | step {m m₁ m' : Moment σ} {b b₁ b' : Batch σ α} {e h : History σ α}
      (tick : b.Tick deadline (b.taken < slots) m e m₁ b₁)
      (rest : Trail slots deadline m₁ b₁ h m' b') : Trail slots deadline m b (e ++ h) m' b'

namespace Trail

variable {slots : Nat} {deadline : Option Nat}

theorem trans {m m₁ m' : Moment σ} {b b₁ b' : Batch σ α} {h h' : History σ α}
    (t : Trail slots deadline m b h m₁ b₁) (t' : Trail slots deadline m₁ b₁ h' m' b') :
    Trail slots deadline m b (h ++ h') m' b' := by
  induction t with
  | done => exact t'
  | passes now onward rest ih => exact .passes now onward (ih t')
  | called rest ih => exact .called (ih t')
  | step tick rest ih =>
      rw [List.append_assoc]
      exact .step tick (ih t')

theorem single {m m' : Moment σ} {b b' : Batch σ α} {e : History σ α}
    (tick : b.Tick deadline (b.taken < slots) m e m' b') : Trail slots deadline m b e m' b' := by
  rw [← List.append_nil e]
  exact .step tick .done

/-- The tasks that are left can all be submitted at once. -/
theorem submit_all (slots : Nat) (deadline : Option Nat) (m : Moment σ) (tasks : List (Task σ α))
    (turn : Nat) : ∀ (left : List (Task σ α)) (phases : List (Phase σ α)),
      tasks.drop phases.length = left →
        ∃ h, Trail slots deadline m ⟨tasks, phases, turn⟩ h m
          ⟨tasks, phases ++ left.map fun t => .queued m.now t.activity, turn⟩ := by
  intro left
  induction left with
  | nil =>
      intro phases hleft
      exact ⟨[], by rw [List.map_nil, List.append_nil]; exact .done⟩
  | cons t left ih =>
      intro phases hleft
      have hnext : tasks[phases.length]? = some t := by
        rw [← List.head?_drop, hleft]
        rfl
      have hdrop : tasks.drop (phases ++ [Phase.queued m.now t.activity]).length = left := by
        rw [List.length_append, List.length_singleton, ← List.drop_drop, hleft]
        rfl
      obtain ⟨h, htrail⟩ := ih _ hdrop
      rw [List.append_assoc] at htrail
      exact ⟨_, .step (.submits hnext) htrail⟩

/-- In a cancelled scan all jobs that are left can be polled, and are dismissed, at once. -/
theorem dismiss_all (slots : Nat) (deadline : Option Nat) (m : Moment σ) (hm : m.cancelled = true)
    (tasks : List (Task σ α)) (turn : Nat) : ∀ (left gone : List (Phase σ α)),
      ∃ h, Trail slots deadline m ⟨tasks, gone ++ left, turn⟩ h m
        ⟨tasks, gone ++ left.map fun p => .decided (p.cancel m.now), turn⟩ := by
  intro left
  induction left with
  | nil => exact fun gone => ⟨[], .done⟩
  | cons p left ih =>
      intro gone
      obtain ⟨h, htrail⟩ := ih (gone ++ [.decided (p.cancel m.now)])
      rw [List.append_assoc, List.append_assoc] at htrail
      cases hp : p.isDecided with
      | true =>
          -- a job that is decided stays as it is
          cases p <;> first | exact ⟨h, htrail⟩ | cases hp
      | false =>
          have hat : (gone ++ p :: left)[gone.length]? = some p := by
            rw [List.getElem?_append_right (Nat.le_refl _), Nat.sub_self]
            rfl
          have hset : (gone ++ p :: left).set gone.length (.decided (p.cancel m.now)) =
              gone ++ ([.decided (p.cancel m.now)] ++ left) := by
            rw [List.set_append_right _ _ (Nat.le_refl _), Nat.sub_self]
            rfl
          have htick : Tick deadline (Batch.taken ⟨tasks, gone ++ p :: left, turn⟩ < slots) m
              ⟨tasks, gone ++ p :: left, turn⟩ _ m _ :=
            .polls hat (Phase.poll_of_cancelled hm hp)
          rw [hset, if_pos hm] at htick
          exact ⟨_, .step htick htrail⟩

/-- In a cancelled scan all jobs that are left can be dismissed, at the time at which the run of
a pool is over then. -/
theorem cancel (slots : Nat) (deadline : Option Nat) {m : Moment σ} {now : Nat}
    (onward : m.now ≤ now) (tasks : List (Task σ α)) (turn : Nat) (phases : List (Phase σ α)) :
    ∃ h, Trail slots deadline m ⟨tasks, phases, turn⟩ h
      { m with now := (phases.map (Phase.cancelTime now)).foldl max now, cancelled := true }
      ⟨tasks, (phases.map (Phase.cancel now)).map .decided, turn⟩ := by
  obtain ⟨h, htrail⟩ := dismiss_all slots deadline { m with now := now, cancelled := true } rfl
    tasks turn phases []
  rw [List.nil_append, List.nil_append] at htrail
  refine ⟨h ++ [], .passes now onward (.called (htrail.trans ?_))⟩
  rw [List.map_map]
  exact .passes _ (le_foldl_max _ _) .done

end Trail

end Batch

end VulnScan.Execution
