import Mathlib.Data.List.Basic
import Mathlib.Logic.Function.Basic

/-!
# Replay counters

A receiver keeps, for each key, the number of the last item it accepted, and
accepts an item only if its number is larger.  A counter that is still zero may
accept any number.  `Inv` ties the table of counters to the items accepted so
far; it is kept by every accepted item (`Inv.accept`), whatever the test that
the receiver makes, as long as the test implies the hypothesis of that lemma.
-/

namespace Lib.Replay

variable {α κ : Type*} {key : α → κ} {num : α → ℕ} {t t' : κ → ℕ} {h : List α}

/-- The items `h` accepted so far increase per key, zeros apart, and the table
bounds them. -/
structure Inv (key : α → κ) (num : α → ℕ) (t : κ → ℕ) (h : List α) : Prop where
  /-- Two items under one key increase, or are both zero. -/
  increasing : h.Pairwise fun a b => key a = key b → num a < num b ∨ num a = 0 ∧ num b = 0
  /-- The table is not behind any accepted item. -/
  bounded : ∀ a ∈ h, num a ≤ t (key a)

lemma Inv.nil : Inv key num t [] := ⟨.nil, by simp⟩

/-- Accepting an item that is above its counter, or whose counter is zero. -/
lemma Inv.accept [DecidableEq κ] (hi : Inv key num t h) {a : α}
    (ha : t (key a) < num a ∨ t (key a) = 0) (ht : t' = Function.update t (key a) (num a)) :
    Inv key num t' (h ++ [a]) := by
  subst ht
  refine ⟨List.pairwise_append.2 ⟨hi.increasing, List.pairwise_singleton _ _, ?_⟩, ?_⟩
  · intro b hb a' ha' hkey
    obtain rfl := List.mem_singleton.1 ha'
    have hbound := hi.bounded b hb
    rw [hkey] at hbound
    omega
  · intro b hb
    rcases List.mem_append.1 hb with hb | hb
    · have hbound := hi.bounded b hb
      by_cases hkey : key b = key a
      · rw [hkey] at hbound ⊢
        rw [Function.update_self]
        omega
      · rwa [Function.update_of_ne hkey]
    · obtain rfl := List.mem_singleton.1 hb
      exact Nat.le_of_eq (Function.update_self (key b) (num b) t).symm

end Lib.Replay
