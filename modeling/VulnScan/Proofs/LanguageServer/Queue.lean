import Mathlib.Data.List.Basic
import Mathlib.Data.List.Induction
import Mathlib.Data.List.Nodup
import VulnScan.LanguageServer.Proxy

/-! # The queue of a proxy

Plugins are queued one after the other, and one that is queued already is not queued again. So the
queue is what was added, without later repetitions (`Proxy.foldl_add`): it holds everything that
was added exactly once, in the order of first addition (`firsts_eraseDups`).
-/

set_option autoImplicit false

namespace VulnScan.LanguageServer

section

variable {α : Type} [DecidableEq α]

/-- `l` holds what was added, each entry once, in the order in which they first were. -/
structure Firsts (added l : List α) : Prop where
  count : ∀ a, l.count a = if a ∈ added then 1 else 0
  order : l.Pairwise fun a b => added.idxOf a < added.idxOf b

/-- Without later repetitions, one more entry either is there already or comes at the end. -/
theorem eraseDups_concat (l : List α) (a : α) :
    (l ++ [a]).eraseDups = if a ∈ l then l.eraseDups else l.eraseDups ++ [a] := by
  rw [List.eraseDups_append]
  by_cases ha : a ∈ l
  · simp [ha, List.removeAll]
  · simp [ha, List.removeAll, List.eraseDups_cons]

/-- What tells entries apart leaves their repetitions where they are. -/
theorem eraseDups_map {β : Type} [DecidableEq β] {f : α → β} (hf : Function.Injective f)
    (l : List α) : (l.map f).eraseDups = l.eraseDups.map f := by
  induction l using List.reverseRecOn with
  | nil => rfl
  | append_singleton l a ih =>
      rw [List.map_append, List.map_singleton, eraseDups_concat, eraseDups_concat, ih]
      by_cases ha : a ∈ l
      · rw [if_pos ha, if_pos (List.mem_map_of_mem ha)]
      · have hfa : f a ∉ l.map f := fun h => ha ((List.mem_map_of_injective hf).1 h)
        rw [if_neg ha, if_neg hfa, List.map_append, List.map_singleton]

theorem firsts_eraseDups (l : List α) : Firsts l l.eraseDups := by
  induction l using List.reverseRecOn with
  | nil => exact ⟨fun a => by simp, by simp⟩
  | append_singleton l a ih =>
      -- what is in `l` is still found where it was
      have hfound : ∀ b ∈ l.eraseDups, (l ++ [a]).idxOf b = l.idxOf b := fun b hb =>
        List.idxOf_append_of_mem (List.mem_eraseDups.1 hb)
      have hkept : l.eraseDups.Pairwise fun b c => (l ++ [a]).idxOf b < (l ++ [a]).idxOf c := by
        refine ih.order.imp_of_mem fun {b c} hb hc hbc => ?_
        rw [hfound b hb, hfound c hc]
        exact hbc
      rw [eraseDups_concat]
      by_cases ha : a ∈ l
      · rw [if_pos ha]
        refine ⟨fun b => ?_, hkept⟩
        by_cases hb : b = a
        · subst hb
          simp [ih.count, ha]
        · simp [ih.count, hb]
      · rw [if_neg ha]
        refine ⟨fun b => ?_, ?_⟩
        · rw [List.count_append, ih.count]
          by_cases hb : b = a
          · subst hb
            simp [ha]
          · have hne : [a].count b = 0 := by
              rw [List.count_eq_zero, List.mem_singleton]
              exact hb
            simp [hne, hb]
        · rw [List.pairwise_append]
          refine ⟨hkept, List.pairwise_singleton _ _, fun b hb c hc => ?_⟩
          have hlt : l.idxOf b < l.length := List.idxOf_lt_length_of_mem (List.mem_eraseDups.1 hb)
          rw [List.mem_singleton.1 hc, hfound b hb, List.idxOf_append_of_notMem ha]
          omega

end

namespace Proxy

variable {σ : Type}

theorem add_eq (p : Proxy σ) (m : Plugin.Matched) :
    p.add m = { p with queue := if m ∈ p.queue then p.queue else p.queue ++ [m] } := by
  unfold add
  split <;> rfl

/-- Additions to an empty queue change nothing else of the proxy, and leave in its queue what was
added without later repetitions. -/
theorem foldl_add (p : Proxy σ) (fresh : p.queue = []) (added : List Plugin.Matched) :
    added.foldl add p = { p with queue := added.eraseDups } := by
  induction added using List.reverseRecOn with
  | nil =>
      rw [List.foldl_nil, List.eraseDups_nil, ← fresh]
  | append_singleton added m ih =>
      rw [List.foldl_append, List.foldl_cons, List.foldl_nil, ih, add_eq, eraseDups_concat]
      have hmem : m ∈ added.eraseDups ↔ m ∈ added := List.mem_eraseDups
      simp only [hmem]

end Proxy

end VulnScan.LanguageServer
