import Mathlib.Data.List.Basic

/-!
# Walks along a log

A log of records of different lengths is read by a walk: from the address of a record
`next` gives the address after it, and nothing where the log ends.  A walk goes forward
and ends before a limit (`Forward`), so it stops, and facts about it are proved from its
end backwards (`Forward.induction`).  Two logs that agree on the records of a walk have it
in common (`Forward.congr`).
-/

namespace Lib.Walk

variable (next : ℕ → Option ℕ)

/-- The records of at most `k` steps of a walk, and where these steps lead. -/
def within : ℕ → ℕ → List ℕ × ℕ
  | 0, a => ([], a)
  | k + 1, a =>
      match next a with
      | none => ([], a)
      | some b => (a :: (within k b).1, (within k b).2)

/-- The walk goes forward, and its records begin before the limit. -/
structure Forward (limit : ℕ) : Prop where
  lt : ∀ {a b}, next a = some b → a < b
  lt_limit : ∀ {a b}, next a = some b → a < limit

/-- The addresses of the records of a walk. -/
def records (limit a : ℕ) : List ℕ := (within next (limit - a) a).1

/-- Where a walk stops. -/
def stop (limit a : ℕ) : ℕ := (within next (limit - a) a).2

variable {next} {next' : ℕ → Option ℕ} {limit a b : ℕ}

/-- A property that holds where the walk stops, and before each record it holds after, holds
everywhere. -/
theorem Forward.induction (hf : Forward next limit) {P : ℕ → Prop}
    (none : ∀ a, next a = none → P a) (some : ∀ a b, next a = some b → P b → P a) (a : ℕ) :
    P a := by
  generalize hm : limit - a = m
  induction m using Nat.strongRecOn generalizing a with
  | ind m ih =>
      cases hnext : next a with
      | none => exact none a hnext
      | some b =>
          have hab := hf.lt hnext
          have hlimit := hf.lt_limit hnext
          exact some a b hnext (ih (limit - b) (by omega) b rfl)

/-- Enough steps are as good as any other number of enough steps. -/
lemma Forward.within_eq (hf : Forward next limit) (a : ℕ) :
    ∀ {k m : ℕ}, limit ≤ a + k → limit ≤ a + m → within next k a = within next m a := by
  induction a using hf.induction with
  | none a hnone =>
      intro k m _ _
      cases k <;> cases m <;> simp [within, hnone]
  | some a b hsome ih =>
      intro k m hk hm
      have hab := hf.lt hsome
      have hlimit := hf.lt_limit hsome
      obtain ⟨k, rfl⟩ : ∃ k', k = k' + 1 := ⟨k - 1, by omega⟩
      obtain ⟨m, rfl⟩ : ∃ m', m = m' + 1 := ⟨m - 1, by omega⟩
      have hrest : within next k b = within next m b := ih (by omega) (by omega)
      simp only [within, hsome, hrest]

lemma within_of_none {k : ℕ} (h : next a = none) : within next k a = ([], a) := by
  cases k <;> simp [within, h]

lemma records_of_none (h : next a = none) : records next limit a = [] := by
  rw [records, within_of_none h]

lemma stop_of_none (h : next a = none) : stop next limit a = a := by
  rw [stop, within_of_none h]

lemma Forward.within_of_some (hf : Forward next limit) (h : next a = some b) :
    within next (limit - a) a =
      (a :: (within next (limit - b) b).1, (within next (limit - b) b).2) := by
  have hab := hf.lt h
  have hlimit := hf.lt_limit h
  obtain ⟨k, hk⟩ : ∃ k, limit - a = k + 1 := ⟨limit - a - 1, by omega⟩
  have hrest : within next k b = within next (limit - b) b :=
    hf.within_eq b (by omega) (by omega)
  rw [hk, within, h, ← hrest]

lemma Forward.records_of_some (hf : Forward next limit) (h : next a = some b) :
    records next limit a = a :: records next limit b := by
  rw [records, hf.within_of_some h]
  rfl

lemma Forward.stop_of_some (hf : Forward next limit) (h : next a = some b) :
    stop next limit a = stop next limit b := by
  rw [stop, hf.within_of_some h]
  rfl

lemma Forward.le_stop (hf : Forward next limit) (a : ℕ) : a ≤ stop next limit a := by
  induction a using hf.induction with
  | none a hnone => exact Nat.le_of_eq (stop_of_none hnone).symm
  | some a b hsome ih =>
      rw [hf.stop_of_some hsome]
      exact Nat.le_trans (Nat.le_of_lt (hf.lt hsome)) ih

/-- The walk has ended where it stops. -/
lemma Forward.next_stop (hf : Forward next limit) (a : ℕ) :
    next (stop next limit a) = none := by
  induction a using hf.induction with
  | none a hnone => rwa [stop_of_none hnone]
  | some a b hsome ih => rwa [hf.stop_of_some hsome]

/-- Each record of the walk ends before the walk stops. -/
lemma Forward.next_le_stop (hf : Forward next limit) (a : ℕ) :
    ∀ x ∈ records next limit a, ∃ y, next x = some y ∧ y ≤ stop next limit a := by
  induction a using hf.induction with
  | none a hnone => simp [records_of_none hnone]
  | some a b hsome ih =>
      intro x hx
      rw [hf.stop_of_some hsome]
      rw [hf.records_of_some hsome] at hx
      rcases List.mem_cons.1 hx with rfl | hx
      · exact ⟨b, hsome, hf.le_stop b⟩
      · exact ih x hx

/-- A walk that does the same at all records of another one has that one in front. -/
theorem Forward.congr (hf : Forward next limit) (hf' : Forward next' limit) (a : ℕ)
    (h : ∀ x ∈ records next limit a, next' x = next x) :
    records next' limit a =
        records next limit a ++ records next' limit (stop next limit a) ∧
      stop next' limit a = stop next' limit (stop next limit a) := by
  induction a using hf.induction with
  | none a hnone => simp [records_of_none hnone, stop_of_none hnone]
  | some a b hsome ih =>
      rw [hf.records_of_some hsome] at h ⊢
      rw [hf.stop_of_some hsome]
      have hsome' : next' a = some b := (h a List.mem_cons_self).trans hsome
      obtain ⟨hrec, hstop⟩ := ih fun x hx => h x (List.mem_cons_of_mem a hx)
      rw [hf'.records_of_some hsome', hf'.stop_of_some hsome', hrec, hstop]
      exact ⟨rfl, rfl⟩

end Lib.Walk
