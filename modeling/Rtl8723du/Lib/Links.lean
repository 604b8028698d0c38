import Mathlib.Data.Finset.Card
import Mathlib.Data.Fintype.Card
import Mathlib.Data.Int.Order.Basic
import Mathlib.Data.List.Nodup
import Mathlib.Logic.Function.Basic

/-!
# Linked nodes and tallies

A node of a doubly linked list is taken out of whichever list it is in, without a search:
`unlink`.  A counter that is kept by hand beside a table of entries is to equal the number
of entries with some property: `tally`.  Both come with what one update does.
-/

namespace Lib.Links

variable {α : Type*}

/-- A node that is not linked is put at the end. -/
lemma nodup_append_singleton {l : List α} {a : α} (hl : l.Nodup) (ha : a ∉ l) :
    (l ++ [a]).Nodup :=
  List.nodup_append.2 ⟨hl, List.nodup_singleton a, fun b hb c hc => by
    rintro rfl
    obtain rfl : b = a := by simpa using hc
    exact ha hb⟩

variable [DecidableEq α]

/-- The node `a` is taken out of its list. -/
def unlink (l : List α) (a : α) : List α := l.filter (· ≠ a)

@[simp] lemma mem_unlink {l : List α} {a b : α} : b ∈ unlink l a ↔ b ∈ l ∧ b ≠ a := by
  simp [unlink]

lemma unlink_of_notMem {l : List α} {a : α} (h : a ∉ l) : unlink l a = l :=
  List.filter_eq_self.2 fun b hb => by
    have hba : b ≠ a := fun hba => h (hba ▸ hb)
    simpa using hba

lemma nodup_unlink {l : List α} (a : α) (h : l.Nodup) : (unlink l a).Nodup := h.filter _

/-- A node that is linked once leaves a list that is one shorter. -/
lemma length_unlink {l : List α} {a : α} (hl : l.Nodup) (ha : a ∈ l) :
    (unlink l a).length + 1 = l.length := by
  have herase : unlink l a = l.erase a := by
    rw [hl.erase_eq_filter]
    refine List.filter_congr fun b _ => ?_
    by_cases hba : b = a <;> simp [hba]
  rw [herase, List.length_erase_of_mem ha]
  exact Nat.sub_add_cancel (List.length_pos_of_mem ha)

/-- Unlinking in another order. -/
lemma unlink_comm (l : List α) (a b : α) : unlink (unlink l a) b = unlink (unlink l b) a := by
  simp only [unlink, List.filter_filter]
  exact List.filter_congr fun c _ => by simp [Bool.and_comm]

/-- A node that is out of its list is not unlinked again. -/
@[simp] lemma unlink_unlink (l : List α) (a : α) : unlink (unlink l a) a = unlink l a :=
  unlink_of_notMem (by simp)

variable {ι : Type*} [Fintype ι]

/-- The number of entries with a property. -/
def tally (p : ι → Bool) : ℤ := (Finset.univ.filter fun i => p i = true).card

/-- What one entry contributes. -/
def share (b : Bool) : ℤ := if b then 1 else 0

@[simp] lemma share_true : share true = 1 := rfl

@[simp] lemma share_false : share false = 0 := rfl

lemma tally_nonneg (p : ι → Bool) : 0 ≤ tally p := Int.natCast_nonneg _

lemma tally_pos_iff {p : ι → Bool} : 0 < tally p ↔ ∃ i, p i = true := by
  rw [tally, Int.natCast_pos, Finset.card_pos]
  constructor
  · rintro ⟨i, hi⟩
    exact ⟨i, by simpa using hi⟩
  · rintro ⟨i, hi⟩
    exact ⟨i, by simpa using hi⟩

lemma tally_eq_zero_iff {p : ι → Bool} : tally p = 0 ↔ ∀ i, p i = false := by
  constructor
  · intro h i
    by_contra hi
    have := tally_pos_iff.2 ⟨i, Bool.not_eq_false _ ▸ hi⟩
    omega
  · intro h
    by_contra hne
    have hpos : 0 < tally p := lt_of_le_of_ne (tally_nonneg p) (Ne.symm hne)
    obtain ⟨i, hi⟩ := tally_pos_iff.1 hpos
    rw [h i] at hi
    exact Bool.false_ne_true hi

variable [DecidableEq ι]

/-- One entry changes, and the number by what it contributes. -/
lemma tally_update (p : ι → Bool) (i : ι) (b : Bool) :
    tally (Function.update p i b) = tally p - share (p i) + share b := by
  have hrest (q : ι → Bool) : tally q =
      share (q i) + ((Finset.univ.erase i).filter fun j => q j = true).card := by
    have hsplit : (Finset.univ.filter fun j => q j = true) =
        if q i then insert i ((Finset.univ.erase i).filter fun j => q j = true)
        else (Finset.univ.erase i).filter fun j => q j = true := by
      ext j
      by_cases hji : j = i
      · subst hji
        split <;> simp_all
      · split <;> simp [hji]
    rw [tally, hsplit]
    split
    · rename_i hi
      rw [Finset.card_insert_of_notMem (by simp), hi]
      simp only [share_true]
      omega
    · rename_i hi
      rw [Bool.not_eq_true] at hi
      rw [hi]
      simp
  have hsame : ((Finset.univ.erase i).filter fun j => Function.update p i b j = true) =
      (Finset.univ.erase i).filter fun j => p j = true :=
    Finset.filter_congr fun j hj => by
      rw [Function.update_of_ne (Finset.ne_of_mem_erase hj)]
  rw [hrest p, hrest (Function.update p i b), hsame, Function.update_self]
  omega

/-- The number is kept by hand when one entry changes. -/
lemma tally_eq_of_balance {p q : ι → Bool} {i : ι} {n m : ℤ} (hn : n = tally p)
    (hothers : ∀ j, j ≠ i → q j = p j) (hbalance : m - share (q i) = n - share (p i)) :
    m = tally q := by
  have hone : q = Function.update p i (q i) := by
    funext j
    by_cases hji : j = i
    · rw [hji, Function.update_self]
    · rw [Function.update_of_ne hji, hothers j hji]
  rw [hone, tally_update, ← hn]
  omega

end Lib.Links
