import Mathlib.Data.List.Basic

/-!
# Values of two digits

A text spells a sequence of values if each of them stands there as two digits, with any separators
before it and none inside.  `Reads` is a reading of the front of a text, `Ended` one where each
value is closed by a separator, and `Spells` says what a reader of at most `n` values is to find.
-/

namespace Lib.Spelling

/-- The separators, the digits, and what two digits stand for. -/
structure Alphabet (α β : Type*) where
  sep : α → Bool
  digit : α → Bool
  value : α → α → β
  sep_of_digit : ∀ c, digit c = true → sep c = false

variable {α β : Type*}

/-- The front of a text is read: the values in it, and what is left of the text. -/
inductive Reads (A : Alphabet α β) : List α → List β → List α → Prop
  | done (rest : List α) : Reads A rest [] rest
  | sep {c : α} {text : List α} {vs : List β} {rest : List α} (hc : A.sep c = true)
      (h : Reads A text vs rest) : Reads A (c :: text) vs rest
  | value {a b : α} {text : List α} {vs : List β} {rest : List α} (ha : A.digit a = true)
      (hb : A.digit b = true) (h : Reads A text vs rest) :
      Reads A (a :: b :: text) (A.value a b :: vs) rest

/-- A text is read up to the first `n` values, or to its end where there are fewer. -/
def Spells (A : Alphabet α β) (n : ℕ) (text : List α) (vs : List β) : Prop :=
  ∃ rest, Reads A text vs rest ∧ (vs.length = n ∨ vs.length < n ∧ rest = [])

/-- The front of a text is read, and behind each value there is a separator. -/
inductive Ended (A : Alphabet α β) : List α → List β → List α → Prop
  | done (rest : List α) : Ended A rest [] rest
  | sep {c : α} {text : List α} {vs : List β} {rest : List α} (hc : A.sep c = true)
      (h : Ended A text vs rest) : Ended A (c :: text) vs rest
  | value {a b c : α} {text : List α} {vs : List β} {rest : List α} (ha : A.digit a = true)
      (hb : A.digit b = true) (hc : A.sep c = true) (h : Ended A text vs rest) :
      Ended A (a :: b :: c :: text) (A.value a b :: vs) rest

variable {A : Alphabet α β} {a b c : α} {n : ℕ} {text mid rest : List α} {vs ws : List β}

/-! ### What may stand next -/

@[simp] lemma spells_zero : Spells A 0 text vs ↔ vs = [] := by
  constructor
  · rintro ⟨rest, -, hlen | ⟨hlt, -⟩⟩
    · exact List.eq_nil_of_length_eq_zero hlen
    · exact absurd hlt (Nat.not_lt_zero _)
  · rintro rfl
    exact ⟨text, .done text, .inl rfl⟩

@[simp] lemma spells_nil : Spells A n [] vs ↔ vs = [] := by
  constructor
  · rintro ⟨rest, h, -⟩
    cases h
    rfl
  · rintro rfl
    rcases n.eq_zero_or_pos with rfl | hn
    · exact ⟨[], .done [], .inl rfl⟩
    · exact ⟨[], .done [], .inr ⟨hn, rfl⟩⟩

/-- A separator is skipped. -/
lemma spells_cons_of_sep (hc : A.sep c = true) :
    Spells A (n + 1) (c :: text) vs ↔ Spells A (n + 1) text vs := by
  constructor
  · rintro ⟨rest, h, hlen⟩
    cases h with
    | done =>
        -- no value was read, so that the text would have to be at its end
        rcases hlen with hlen | ⟨-, hnil⟩
        · cases hlen
        · cases hnil
    | sep hc' h => exact ⟨rest, h, hlen⟩
    | value ha hb h =>
        rw [A.sep_of_digit _ ha] at hc
        cases hc
  · rintro ⟨rest, h, hlen⟩
    exact ⟨rest, .sep hc h, hlen⟩

/-- Two digits are the first value. -/
lemma spells_cons_cons_of_digit (ha : A.digit a = true) (hb : A.digit b = true) :
    Spells A (n + 1) (a :: b :: text) vs ↔ ∃ ws, vs = A.value a b :: ws ∧ Spells A n text ws := by
  constructor
  · rintro ⟨rest, h, hlen⟩
    cases h with
    | done =>
        rcases hlen with hlen | ⟨-, hnil⟩
        · cases hlen
        · cases hnil
    | sep hc h =>
        rw [A.sep_of_digit _ ha] at hc
        cases hc
    | @value _ _ _ ws _ _ _ h =>
        rw [List.length_cons, Nat.add_right_cancel_iff, Nat.add_lt_add_iff_right] at hlen
        exact ⟨ws, rfl, rest, h, hlen⟩
  · rintro ⟨ws, rfl, rest, h, hlen⟩
    refine ⟨rest, .value ha hb h, ?_⟩
    rwa [List.length_cons, Nat.add_right_cancel_iff, Nat.add_lt_add_iff_right]

/-- Anything else is no text. -/
lemma not_spells_cons (hc : A.sep c = false)
    (hvalue : ∀ b rest, text = b :: rest → A.digit c = true → A.digit b = false) :
    ¬ Spells A (n + 1) (c :: text) vs := by
  rintro ⟨rest, h, hlen⟩
  cases h with
  | done =>
      rcases hlen with hlen | ⟨-, hnil⟩
      · cases hlen
      · cases hnil
  | sep hc' h =>
      rw [hc] at hc'
      cases hc'
  | value ha hb h =>
      rw [hvalue _ _ rfl ha] at hb
      cases hb

/-- A separator comes next, or a value, or neither. -/
lemma cons_cases (A : Alphabet α β) (c : α) (text : List α) : A.sep c = true ∨
    (∃ b rest, text = b :: rest ∧ A.digit c = true ∧ A.digit b = true) ∨
      A.sep c = false ∧ ∀ b rest, text = b :: rest → A.digit c = true → A.digit b = false := by
  by_cases hc : A.sep c = true
  · exact .inl hc
  by_cases hvalue : ∃ b rest, text = b :: rest ∧ A.digit c = true ∧ A.digit b = true
  · exact .inr (.inl hvalue)
  refine .inr (.inr ⟨Bool.not_eq_true _ ▸ hc, fun b rest htext hdigit => ?_⟩)
  rw [← Bool.not_eq_true]
  intro hb
  exact hvalue ⟨b, rest, htext, hdigit, hb⟩

/-! ### Texts in a row -/

lemma Ended.append (h : Ended A text vs mid) (h' : Ended A mid ws rest) :
    Ended A text (vs ++ ws) rest := by
  induction h with
  | done => exact h'
  | sep hc _ ih => exact .sep hc (ih h')
  | value ha hb hc _ ih => exact .value ha hb hc (ih h')

/-- A text that goes on is read the same way. -/
lemma Ended.append_right (h : Ended A text vs rest) (more : List α) :
    Ended A (text ++ more) vs (rest ++ more) := by
  induction h with
  | done rest => exact .done (rest ++ more)
  | sep hc _ ih => exact .sep hc ih
  | value ha hb hc _ ih => exact .value ha hb hc ih

/-- What is left is no longer than the text. -/
lemma Ended.length_le (h : Ended A text vs rest) : rest.length ≤ text.length := by
  induction h with
  | done => exact Nat.le_refl _
  | sep _ _ ih => exact Nat.le_succ_of_le ih
  | value _ _ _ _ ih =>
      simp only [List.length_cons]
      omega

end Lib.Spelling
