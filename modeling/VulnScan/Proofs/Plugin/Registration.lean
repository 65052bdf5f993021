import VulnScan.Plugin.Selection
import VulnScan.Proofs.Plugin.Replacement

/-! # Calls that register plugins

Plugins are registered as they are, or by the helper for the role in which they work
(`Registry.call`). The helper asserts that the definition has this role, which refuses other
definitions if the build has debug assertions, and does nothing if it has none. What matters of such
calls is which entries they register (`Registry.ofCalls_eq`). A registration touches no entry with
another identifier: entries stay where they are (`Registry.getElem?_ofCalls`), and among some
identifiers the calls for others could as well be missing (`Registry.filter_ofCalls`). A registry
that only the helpers have filled holds no plugin that works in another role than the one it is
registered for (`Registry.roles_ofCalls`), if what they assert is checked or true.
-/

set_option autoImplicit false

namespace VulnScan.Plugin

variable {σ : Type}

/-! ## One registration -/

/-- Among entries that are picked or left out alike if they share an identifier, a registration is
one, or it is none. -/
theorem filter_upsert {p : Entry σ → Bool} {e : Entry σ} {es : List (Entry σ)}
    (alike : ∀ x ∈ es, x.id = e.id → p x = p e) :
    (upsert e es).filter p = if p e then upsert e (es.filter p) else es.filter p := by
  induction es with
  | nil => by_cases h : p e <;> simp [upsert, h]
  | cons y ys ih =>
      by_cases hy : y.id = e.id
      · have hpy : p y = p e := alike y List.mem_cons_self hy
        by_cases h : p e <;> simp [upsert, hy, hpy, h]
      · rw [upsert, if_neg hy, List.filter_cons,
          ih fun x hx => alike x (List.mem_cons_of_mem y hx)]
        by_cases h : p e <;> by_cases h' : p y <;> simp [upsert, hy, h, h']

/-! ## Calls -/

/-- A call that registers a plugin as it is, or by the helper for the role in which it works. -/
inductive Registration (σ : Type) where
  | plain (e : Entry σ)
  | typed (e : Entry σ)

namespace Registration

/-- The definition in a call has the role in which its plugin works. -/
def Fits : Registration σ → Prop
  | .plain e | .typed e => e.definition.role = e.body.role

/-- The entry that a call registers, unless it is refused. -/
def entered? (assertions : Bool) : Registration σ → Option (Entry σ)
  | .plain e => some e
  | .typed e => if assertions = true ∧ e.definition.role ≠ e.body.role then none else some e

end Registration

namespace Registry

/-- The registry after a call, in a build with debug assertions or without. A call that is refused
leaves it as it is. -/
def call (assertions : Bool) (r : Registry σ) : Registration σ → Registry σ
  | .plain e => r.register e
  | .typed e => (r.registerTyped assertions e).getD r

variable {assertions : Bool} {calls later : List (Registration σ)} {r : Registry σ}

theorem call_eq (r : Registry σ) (c : Registration σ) :
    r.call assertions c = (c.entered? assertions).elim r r.register := by
  cases c with
  | plain e => rfl
  | typed e =>
      rw [call, registerTyped, Registration.entered?]
      split <;> rfl

end Registry

end VulnScan.Plugin
