import Mathlib.Algebra.BigOperators.Group.Finset.Piecewise
import Mathlib.Logic.Function.Basic

/-!
# A census

Some things have a class each, or none.  The census of a class is the number of things in it.
A thing that changes its class is taken out of the census of its old one and put into that of
the new one, and no other census changes.
-/

namespace Lib.Census

open Finset Function

variable {ι κ : Type*} [DecidableEq ι] [DecidableEq κ]

/-- The number of things of a class. -/
def census (s : Finset ι) (cls : ι → Option κ) (k : κ) : ℕ := #{i ∈ s | cls i = some k}

variable {s : Finset ι} {cls : ι → Option κ} {i : ι} {c : Option κ} {k : κ}

section

omit [DecidableEq ι]

lemma census_eq_sum : census s cls k = ∑ i ∈ s, if cls i = some k then 1 else 0 := by
  rw [census, Finset.card_filter]

lemma census_le_card : census s cls k ≤ #s := Finset.card_filter_le _ _

lemma census_pos (hi : i ∈ s) (hk : cls i = some k) : 0 < census s cls k :=
  Finset.card_pos.2 ⟨i, Finset.mem_filter.2 ⟨hi, hk⟩⟩

end

/-- One thing changes its class. -/
theorem census_update (hi : i ∈ s) :
    census s (update cls i c) k + (if cls i = some k then 1 else 0) =
      census s cls k + (if c = some k then 1 else 0) := by
  have hrest : ∑ j ∈ s.erase i, (if update cls i c j = some k then 1 else 0) =
      ∑ j ∈ s.erase i, if cls j = some k then 1 else 0 := by
    refine Finset.sum_congr rfl fun j hj => ?_
    rw [update_of_ne (Finset.ne_of_mem_erase hj)]
  have hnew := Finset.sum_erase_add s (fun j => if update cls i c j = some k then 1 else 0) hi
  have hold := Finset.sum_erase_add s (fun j => if cls j = some k then 1 else 0) hi
  rw [census_eq_sum, census_eq_sum, ← hnew, ← hold, hrest, update_self]
  exact Nat.add_right_comm _ _ _

end Lib.Census
