import Rtl8723du.Lib.Machine

/-!
# Two machines side by side

Two machines handle the same events.  While every event fits, they hand out the same and their
states stay related; at an event that does not fit they hand out different things, of the same
number.  So over a run they hand out the same exactly if all events fit.
-/

namespace Lib.Machine

variable {σ τ ε ο : Type*} {step : σ → ε → σ × List ο} {step' : τ → ε → τ × List ο}
  {R : σ → τ → Prop} {P : σ → ε → Prop}

/-- The machines hand out the same as long as the events fit, and no longer. -/
theorem outputs_eq_iff_along
    (hlen : ∀ s t e, R s t → (step s e).2.length = (step' t e).2.length)
    (hfit : ∀ s t e, R s t → P s e → (step s e).2 = (step' t e).2 ∧ R (step s e).1 (step' t e).1)
    (hbad : ∀ s t e, R s t → ¬ P s e → (step s e).2 ≠ (step' t e).2) {s : σ} {t : τ}
    (h : R s t) {es : List ε} : outputs step s es = outputs step' t es ↔ Along step P s es := by
  induction es generalizing s t with
  | nil => exact iff_of_true rfl trivial
  | cons e es ih =>
      rw [outputs_cons, outputs_cons, Along]
      by_cases he : P s e
      · obtain ⟨hout, hnext⟩ := hfit s t e h he
        rw [hout, List.append_cancel_left_eq, ih hnext]
        exact (and_iff_right he).symm
      · constructor
        · intro heq
          exact absurd (List.append_inj heq (hlen s t e h)).1 (hbad s t e h he)
        · exact fun hes => absurd hes.1 he

end Lib.Machine
