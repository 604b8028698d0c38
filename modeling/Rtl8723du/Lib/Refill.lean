import Mathlib.Data.List.Basic

/-!
# Buffers that are used again

A buffer that new values are copied into keeps what it held behind them.  A result settles on the
values if it does not depend on what was there before.
-/

namespace Lib.Refill

variable {α β γ : Type*}

/-- The buffer with values copied to its beginning. -/
def refill (xs : List α) (old : ℕ → α) : ℕ → α := fun i => xs.getD i (old i)

/-- The buffer begins with the values. -/
def Begins (xs : List α) (p : ℕ → α) : Prop := ∀ i (h : i < xs.length), p i = xs[i]

/-- What is read of the buffer does not depend on what it held before. -/
def Settles (f : (ℕ → α) → β) (xs : List α) : Prop :=
  ∀ old old', f (refill xs old) = f (refill xs old')

variable {xs : List α} {f : (ℕ → α) → β} {p q old : ℕ → α} {i : ℕ}

lemma refill_of_lt (h : i < xs.length) : refill xs old i = xs[i] := by
  simp [refill, h]

lemma refill_of_le (h : xs.length ≤ i) : refill xs old i = old i := by
  simp [refill, h]

lemma begins_refill (xs : List α) (old : ℕ → α) : Begins xs (refill xs old) :=
  fun _ h => refill_of_lt h

lemma refill_of_begins (h : Begins xs p) : refill xs p = p := by
  funext i
  rcases Nat.lt_or_ge i xs.length with hi | hi
  · rw [refill_of_lt hi, h i hi]
  · exact refill_of_le hi

lemma settles_iff : Settles f xs ↔ ∀ p q, Begins xs p → Begins xs q → f p = f q := by
  constructor
  · intro h p q hp hq
    have hpq := h p q
    rwa [refill_of_begins hp, refill_of_begins hq] at hpq
  · intro h old old'
    exact h _ _ (begins_refill xs old) (begins_refill xs old')

lemma not_settles (hp : Begins xs p) (hq : Begins xs q) (h : f p ≠ f q) : ¬ Settles f xs :=
  fun hs => h (settles_iff.1 hs p q hp hq)

lemma settles_congr {g : (ℕ → α) → β} (h : ∀ p, Begins xs p → f p = g p) :
    Settles f xs ↔ Settles g xs := by
  rw [settles_iff, settles_iff]
  constructor
  · intro hf p q hp hq
    rw [← h p hp, ← h q hq, hf p q hp hq]
  · intro hg p q hp hq
    rw [h p hp, h q hq, hg p q hp hq]

/-- What is read behind the first value. -/
lemma settles_tail {x : α} (h : Settles (fun p => f fun i => p (i + 1)) (x :: xs)) :
    Settles f xs := fun old old' => h (fun i => old (i - 1)) fun i => old' (i - 1)

/-- Two buffers that begin with the values agree there. -/
lemma Begins.agree (hp : Begins xs p) (hq : Begins xs q) (hi : i < xs.length) : p i = q i :=
  (hp i hi).trans (hq i hi).symm

lemma Begins.getD (h : Begins xs p) (d : α) (hi : i < xs.length) : p i = xs.getD i d := by
  simp [h i hi, hi]

/-- A pointer a few values further. -/
lemma Begins.drop (h : Begins xs p) (k : ℕ) : Begins (xs.drop k) fun i => p (i + k) := by
  intro i hi
  rw [List.length_drop] at hi
  have hlt : i + k < xs.length := by omega
  simp only [List.getElem_drop, Nat.add_comm k i]
  exact h (i + k) hlt

end Lib.Refill
