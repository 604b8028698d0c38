import Rtl8723du.Lib.Loop
import Mathlib.Data.List.TakeWhile

/-!
# Loops over the pieces of a text

`strsep` cuts a piece off a text at the first separator.  A loop that calls it until nothing is left
goes through the pieces that `List.splitOnP` gives.
-/

namespace Lib.Strsep

variable {α σ : Type*} (p : α → Bool) (body : σ → List α → σ × Bool)

/-- The first piece, and what is behind the separator. -/
def strsep (s : List α) : List α × Option (List α) :=
  (s.takeWhile fun c => !p c, (s.dropWhile fun c => !p c).tail?)

/-- A pass of the loop; the body says whether the loop is left. -/
def pass (s : Option (List α) × σ) : σ ⊕ (Option (List α) × σ) :=
  match s.1 with
  | none => .inl s.2
  | some head =>
      let r := body s.2 (strsep p head).1
      if r.2 then .inl r.1 else .inr ((strsep p head).2, r.1)

/-- The body for one piece after the other. -/
def foldUntil : σ → List (List α) → σ
  | t, [] => t
  | t, x :: xs =>
      let r := body t x
      if r.2 then r.1 else foldUntil r.1 xs

variable {p body} {s a b : List α} {t : σ}

/-- A text is one piece, or a piece, a separator and more. -/
lemma strsep_cases (p : α → Bool) (s : List α) :
    (strsep p s = (s, none) ∧ s.splitOnP p = [s]) ∨
      ∃ rest, strsep p s = ((strsep p s).1, some rest) ∧ rest.length < s.length ∧
        s.splitOnP p = (strsep p s).1 :: rest.splitOnP p := by
  have hpiece : ∀ c ∈ s.takeWhile fun c => !p c, p c = false := fun c hc => by
    simpa using List.mem_takeWhile_imp hc
  have hsplit := List.takeWhile_append_dropWhile (p := fun c => !p c) (l := s)
  rcases hrest : s.dropWhile fun c => !p c with _ | ⟨c, rest⟩
  · left
    rw [hrest, List.append_nil] at hsplit
    refine ⟨?_, List.splitOnP_eq_singleton (by rwa [hsplit] at hpiece)⟩
    rw [strsep, hrest, hsplit]
    rfl
  · right
    have hc : p c = true := by
      have hnot := List.head_dropWhile_not (fun c => !p c) (l := s) (by rw [hrest]; simp)
      simpa [hrest] using hnot
    refine ⟨rest, ?_, ?_, ?_⟩
    · rw [strsep, hrest]
      rfl
    · have hlen := congrArg List.length hsplit
      rw [hrest, List.length_append, List.length_cons] at hlen
      omega
    · rw [hrest] at hsplit
      conv_lhs => rw [← hsplit]
      exact List.splitOnP_append_cons_of_forall_mem hpiece c hc rest

/-- The loop goes through the pieces. -/
theorem run_pass (k : ℕ) (hk : s.length + 2 ≤ k) (t : σ) :
    Loop.run (pass p body) k (some s, t) = some (foldUntil body t (s.splitOnP p)) := by
  induction k generalizing s t with
  | zero => omega
  | succ k ih =>
      rcases hbody : (body t (strsep p s).1).2
      · rcases strsep_cases p s with ⟨hsep, hpieces⟩ | ⟨rest, hsep, hlt, hpieces⟩
        · obtain ⟨k, rfl⟩ : ∃ m, k = m + 1 := ⟨k - 1, by omega⟩
          have hpass : pass p body (some s, t) = .inr (none, (body t s).1) := by
            rw [hsep] at hbody
            rw [pass]
            simp only [hsep, hbody, Bool.false_eq_true, if_false]
          rw [hsep] at hbody
          rw [Loop.run, hpass, hpieces, foldUntil]
          simp only [hbody, Bool.false_eq_true, if_false]
          rfl
        · have hpass : pass p body (some s, t) = .inr (some rest, (body t (strsep p s).1).1) := by
            rw [pass]
            simp only [hbody, Bool.false_eq_true, if_false]
            rw [hsep]
          rw [Loop.run, hpass, hpieces, foldUntil]
          simp only [hbody, Bool.false_eq_true, if_false]
          exact ih (by omega) _
      · have hpass : pass p body (some s, t) = .inl (body t (strsep p s).1).1 := by
          rw [pass]
          simp only [hbody, if_true]
        have hpieces : ∃ xs, s.splitOnP p = (strsep p s).1 :: xs := by
          rcases strsep_cases p s with ⟨hsep, hpieces⟩ | ⟨rest, -, -, hpieces⟩
          · exact ⟨[], by rw [hpieces, hsep]⟩
          · exact ⟨_, hpieces⟩
        obtain ⟨xs, hxs⟩ := hpieces
        rw [Loop.run, hpass, hxs, foldUntil]
        simp only [hbody, if_true]

/-- The pieces of two texts in a row: the last one of the first and the first one of the second are
one piece. -/
theorem splitOnP_append (p : α → Bool) (a b : List α) : ∃ r rs, b.splitOnP p = r :: rs ∧
    ∃ ls g, a.splitOnP p = ls ++ [g] ∧ (a ++ b).splitOnP p = ls ++ (g ++ r) :: rs := by
  obtain ⟨r, rs, hb⟩ := List.exists_cons_of_ne_nil (List.splitOnP_ne_nil p b)
  refine ⟨r, rs, hb, ?_⟩
  induction a with
  | nil => exact ⟨[], [], rfl, hb⟩
  | cons c a ih =>
      obtain ⟨ls, g, ha, hab⟩ := ih
      rw [List.cons_append, List.splitOnP_cons_eq_if_modifyHead,
        List.splitOnP_cons_eq_if_modifyHead, ha, hab]
      by_cases hc : p c
      · rw [if_pos hc, if_pos hc]
        exact ⟨[] :: ls, g, rfl, rfl⟩
      · rw [if_neg hc, if_neg hc]
        cases ls with
        | nil => exact ⟨[], c :: g, rfl, rfl⟩
        | cons l ls => exact ⟨(c :: l) :: ls, g, rfl, rfl⟩

end Lib.Strsep
