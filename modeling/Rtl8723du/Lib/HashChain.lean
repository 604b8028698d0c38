import Mathlib.Data.List.Basic

/-!
# Hash tables with chains

A table with a chain of entries for each hash value.  An entry is found by its key; a key that
is there has its value replaced in place, and another is linked in front of its chain.
-/

namespace Lib.HashChain

variable {ι κ ν : Type*} [DecidableEq κ]

/-- The chains, by hash value. -/
abbrev Table (ι κ ν : Type*) := ι → List (κ × ν)

/-- The value of the first entry of a chain with a key. -/
def chainFind (k : κ) : List (κ × ν) → Option ν
  | [] => none
  | (k', v) :: chain => if k' = k then some v else chainFind k chain

/-- The first entry with a key gets a new value. -/
def chainReplace (k : κ) (v : ν) : List (κ × ν) → List (κ × ν)
  | [] => []
  | (k', v') :: chain => if k' = k then (k', v) :: chain else (k', v') :: chainReplace k v chain

variable (hash : κ → ι)

/-- The value under a key. -/
def find (t : Table ι κ ν) (k : κ) : Option ν := chainFind k (t (hash k))

/-- The empty table. -/
def empty : Table ι κ ν := fun _ => []

@[simp] lemma find_empty (k : κ) : find hash (empty : Table ι κ ν) k = none := rfl

variable [DecidableEq ι]

/-- The entry of a key that is there gets a new value. -/
def replace (t : Table ι κ ν) (k : κ) (v : ν) : Table ι κ ν :=
  fun i => if i = hash k then chainReplace k v (t i) else t i

/-- A new entry, in front of its chain. -/
def link (t : Table ι κ ν) (k : κ) (v : ν) : Table ι κ ν :=
  fun i => if i = hash k then (k, v) :: t i else t i

/-! ### What is found after an update -/

lemma chainFind_chainReplace (k k' : κ) (v : ν) (chain : List (κ × ν)) :
    chainFind k' (chainReplace k v chain) =
      if k' = k ∧ (chainFind k chain).isSome then some v else chainFind k' chain := by
  induction chain with
  | nil => simp [chainReplace, chainFind]
  | cons e chain ih =>
      obtain ⟨key, val⟩ := e
      by_cases hkey : key = k
      · by_cases hk : k' = k
        · simp [chainReplace, chainFind, hkey, hk]
        · simp [chainReplace, chainFind, hkey, hk, Ne.symm hk]
      · by_cases hk : key = k'
        · have hne : k' ≠ k := fun h => hkey (hk.trans h)
          simp [chainReplace, chainFind, hk, hne]
        · simp [chainReplace, chainFind, hkey, hk, ih]

variable {hash}

/-- A key that is replaced is found with its new value, if it was there. -/
lemma find_replace (t : Table ι κ ν) (k k' : κ) (v : ν) :
    find hash (replace hash t k v) k' =
      if k' = k ∧ (find hash t k).isSome then some v else find hash t k' := by
  unfold find replace
  by_cases hindex : hash k' = hash k
  · rw [if_pos hindex, chainFind_chainReplace, hindex]
  · have hne : k' ≠ k := fun h => hindex (congrArg hash h)
    rw [if_neg hindex, if_neg (fun h => hne h.1)]

/-- A key that is linked is found. -/
lemma find_link (t : Table ι κ ν) (k k' : κ) (v : ν) :
    find hash (link hash t k v) k' = if k' = k then some v else find hash t k' := by
  unfold find link
  by_cases hk : k' = k
  · subst hk
    simp [chainFind]
  · by_cases hindex : hash k' = hash k
    · simp [hindex, hk, chainFind, Ne.symm hk]
    · simp [hindex, hk]

end Lib.HashChain
