import Rtl8723du.Lib.Machine

/-!
# Monitors

A monitor reads the values that a machine hands out, one by one, and keeps a record of them.  What
must be true of the record when a value comes is a property of the whole run: it holds if each step
keeps a relation between the machine and the record, and hands out nothing that does not fit
(`monitored_induction`).  That a run reaches a goal follows from a measure that falls
(`reaches_of_turns`).
-/

namespace Lib.Machine

variable {σ ε ο ρ : Type*} {watch : ρ → ο → ρ} {ok : ρ → ο → Prop}

/-- The record after the values. -/
def watched (watch : ρ → ο → ρ) (r : ρ) (os : List ο) : ρ := os.foldl watch r

@[simp] lemma watched_nil (r : ρ) : watched watch r [] = r := rfl

@[simp] lemma watched_cons (r : ρ) (o : ο) (os : List ο) :
    watched watch r (o :: os) = watched watch (watch r o) os := rfl

@[simp] lemma watched_append (r : ρ) (os os' : List ο) :
    watched watch r (os ++ os') = watched watch (watched watch r os) os' := List.foldl_append

/-- Each value fits to the record of those before it. -/
def Accepts (watch : ρ → ο → ρ) (ok : ρ → ο → Prop) : ρ → List ο → Prop
  | _, [] => True
  | r, o :: os => ok r o ∧ Accepts watch ok (watch r o) os

@[simp] lemma accepts_nil (r : ρ) : Accepts watch ok r [] := trivial

@[simp] lemma accepts_cons {r : ρ} {o : ο} {os : List ο} :
    Accepts watch ok r (o :: os) ↔ ok r o ∧ Accepts watch ok (watch r o) os := Iff.rfl

@[simp] lemma accepts_append {r : ρ} {os os' : List ο} :
    Accepts watch ok r (os ++ os') ↔
      Accepts watch ok r os ∧ Accepts watch ok (watched watch r os) os' := by
  induction os generalizing r with
  | nil => simp
  | cons o os ih => simp only [List.cons_append, accepts_cons, ih, watched_cons, and_assoc]

lemma accepts_of_forall (h : ∀ r o, ok r o) (r : ρ) (os : List ο) : Accepts watch ok r os := by
  induction os generalizing r with
  | nil => trivial
  | cons o os ih => exact ⟨h r o, ih _⟩

/-- Values that fit, and that the record does not change for. -/
lemma accepts_of_neutral {r : ρ} {os : List ο} (h : ∀ o ∈ os, ok r o ∧ watch r o = r) :
    Accepts watch ok r os ∧ watched watch r os = r := by
  induction os with
  | nil => exact ⟨trivial, rfl⟩
  | cons o os ih =>
      obtain ⟨hok, hsame⟩ := h o List.mem_cons_self
      obtain ⟨hrest, hlast⟩ := ih fun o ho => h o (List.mem_cons_of_mem _ ho)
      rw [accepts_cons, watched_cons, hsame]
      exact ⟨⟨hok, hrest⟩, hlast⟩

variable {step : σ → ε → σ × List ο} {P : σ → ε → Prop}

/-- A relation between the machine and the record, kept by single steps that hand out what fits, is
kept by runs, and all that they hand out fits. -/
theorem monitored_induction {I : σ → ρ → Prop}
    (hstep : ∀ s r e, P s e → I s r →
      Accepts watch ok r (step s e).2 ∧ I (step s e).1 (watched watch r (step s e).2))
    {s : σ} {r : ρ} (hs : I s r) {es : List ε} (hes : Along step P s es) :
    Accepts watch ok r (outputs step s es) ∧
      I (final step s es) (watched watch r (outputs step s es)) := by
  induction es generalizing s r with
  | nil => exact ⟨trivial, hs⟩
  | cons e es ih =>
      obtain ⟨hfit, hnext⟩ := hstep s r e hes.1 hs
      obtain ⟨hrest, hfinal⟩ := ih hnext hes.2
      rw [outputs_cons, final_cons, accepts_append, watched_append]
      exact ⟨⟨hfit, hrest⟩, hfinal⟩

/-! ### Turns -/

/-- How many events of a run are turns of the machine. -/
def turns (step : σ → ε → σ × List ο) (turn : σ → ε → Bool) : σ → List ε → ℕ
  | _, [] => 0
  | s, e :: es => (if turn s e then 1 else 0) + turns step turn (step s e).1 es

/-- Where a measure falls with each turn and rises with no event, until the goal is reached, more
turns than the measure says reach it. -/
theorem reaches_of_turns {turn : σ → ε → Bool} {I G : σ → Prop} {μ : σ → ℕ}
    (hstep : ∀ s e, P s e → I s → ¬ G s → G (step s e).1 ∨
      I (step s e).1 ∧ μ (step s e).1 + (if turn s e then 1 else 0) ≤ μ s)
    {s : σ} (hs : I s) {es : List ε} (hes : Along step P s es)
    (hturns : μ s < turns step turn s es) :
    ∃ pre post, es = pre ++ post ∧ G (final step s pre) := by
  induction es generalizing s with
  | nil => exact absurd hturns (Nat.not_lt_zero _)
  | cons e es ih =>
      by_cases hgoal : G s
      · exact ⟨[], e :: es, rfl, hgoal⟩
      · rcases hstep s e hes.1 hs hgoal with hdone | ⟨hnext, hle⟩
        · exact ⟨[e], es, rfl, hdone⟩
        · have hrest : μ (step s e).1 < turns step turn (step s e).1 es := by
            rw [turns] at hturns
            omega
          obtain ⟨pre, post, rfl, hreached⟩ := ih hnext hes.2 hrest
          exact ⟨e :: pre, post, rfl, hreached⟩

end Lib.Machine
