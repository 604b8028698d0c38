import Mathlib.Data.List.Basic

/-!
# Loops that need not end

The body of a loop either leaves it with a result or goes on with a new state.  `run` allows a
number of passes; `Returns` says that some number is enough.
-/

namespace Lib.Loop

variable {α ρ : Type*} (body : α → ρ ⊕ α)

/-- The result, if the loop is left within `k` passes. -/
def run : ℕ → α → Option ρ
  | 0, _ => none
  | k + 1, a =>
      match body a with
      | .inl r => some r
      | .inr b => run k b

/-- The loop is left with the result `r`. -/
def Returns (a : α) (r : ρ) : Prop := ∃ k, run body k a = some r

variable {body} {a b : α} {r r' : ρ}

lemma returns_iff_of_inl (h : body a = .inl r) : Returns body a r' ↔ r' = r := by
  constructor
  · rintro ⟨k, hk⟩
    cases k with
    | zero => simp [run] at hk
    | succ k => simpa [run, h, eq_comm] using hk
  · rintro rfl
    exact ⟨1, by simp [run, h]⟩

lemma returns_iff_of_inr (h : body a = .inr b) : Returns body a r ↔ Returns body b r := by
  constructor
  · rintro ⟨k, hk⟩
    cases k with
    | zero => simp [run] at hk
    | succ k => exact ⟨k, by simpa [run, h] using hk⟩
  · rintro ⟨k, hk⟩
    exact ⟨k + 1, by simpa [run, h] using hk⟩

/-- A pass that changes nothing is followed by the same pass. -/
lemma run_of_stuck (h : body a = .inr a) (k : ℕ) : run body k a = none := by
  induction k with
  | zero => rfl
  | succ k ih => simpa [run, h] using ih

lemma not_returns_of_stuck (h : body a = .inr a) : ¬ Returns body a r := by
  rintro ⟨k, hk⟩
  simp [run_of_stuck h k] at hk

/-- More passes do no harm. -/
lemma run_mono {k m : ℕ} (hkm : k ≤ m) (h : run body k a = some r) : run body m a = some r := by
  induction k generalizing a m with
  | zero => simp [run] at h
  | succ k ih =>
      obtain ⟨m, rfl⟩ : ∃ m', m = m' + 1 := ⟨m - 1, by omega⟩
      cases hbody : body a with
      | inl r' => simpa [run, hbody] using h
      | inr b =>
          simp only [run, hbody] at h ⊢
          exact ih (by omega) h

lemma Returns.unique (h : Returns body a r) (h' : Returns body a r') : r = r' := by
  obtain ⟨k, hk⟩ := h
  obtain ⟨m, hm⟩ := h'
  have hk' := run_mono (Nat.le_max_left k m) hk
  have hm' := run_mono (Nat.le_max_right k m) hm
  exact Option.some.inj (hk'.symm.trans hm')

end Lib.Loop
