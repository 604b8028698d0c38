import Mathlib.Data.List.Basic
import Mathlib.Data.List.Forall2
import Mathlib.Tactic.Ring

/-!
# Places in a list

A pointer to an element of a linked list, as the element with those before it and those after
it.  A search from the front gives the first place with a property; the element is replaced or
taken out by putting the list together again.
-/

namespace Lib

variable {α : Type*}

/-- An element of a list in its place. -/
structure Place (α : Type*) where
  before : List α
  elem : α
  after : List α

namespace Place

/-- The list with another element in the place. -/
def set (pl : Place α) (x : α) : List α := pl.before ++ x :: pl.after

/-- The list without the element. -/
def erase (pl : Place α) : List α := pl.before ++ pl.after

/-- The list that the place is in. -/
def list (pl : Place α) : List α := pl.set pl.elem

/-- One element further in front. -/
def cons (x : α) (pl : Place α) : Place α := { pl with before := x :: pl.before }

@[simp] lemma mem_set {pl : Place α} {x y : α} : y ∈ pl.set x ↔ y ∈ pl.erase ∨ y = x := by
  simp [set, erase]
  tauto

lemma mem_list {pl : Place α} : pl.elem ∈ pl.list := by simp [list]

@[simp] lemma map_set {β : Type*} (f : α → β) (pl : Place α) (x : α) :
    (pl.set x).map f = pl.before.map f ++ f x :: pl.after.map f := by simp [set]

end Place

/-- The first place with a property. -/
def pick (p : α → Bool) : List α → Option (Place α)
  | [] => none
  | x :: l => if p x then some ⟨[], x, l⟩ else (pick p l).map (Place.cons x)

variable {p : α → Bool} {l : List α} {pl : Place α}

lemma pick_eq_none : pick p l = none ↔ ∀ x ∈ l, p x = false := by
  induction l with
  | nil => simp [pick]
  | cons x l ih =>
      by_cases hx : p x = true <;> simp [pick, hx, ih]

/-- The place is in the list, and the first with the property. -/
lemma pick_eq_some (h : pick p l = some pl) :
    pl.list = l ∧ p pl.elem = true ∧ ∀ x ∈ pl.before, p x = false := by
  induction l generalizing pl with
  | nil => cases h
  | cons x l ih =>
      unfold pick at h
      by_cases hx : p x = true
      · rw [if_pos hx] at h
        obtain rfl := Option.some.inj h
        exact ⟨rfl, hx, by simp⟩
      · rw [if_neg hx] at h
        obtain ⟨pl', hpick, rfl⟩ := Option.map_eq_some_iff.1 h
        obtain ⟨hlist, helem, hbefore⟩ := ih hpick
        refine ⟨?_, helem, ?_⟩
        · rw [← hlist]
          rfl
        · intro y hy
          rcases List.mem_cons.1 hy with rfl | hy
          · simpa using hx
          · exact hbefore y hy

/-- An element that is put in the place of the first one is the first one. -/
lemma pick_set (h : pick p l = some pl) {x : α} (hx : p x = true) :
    pick p (pl.set x) = some { pl with elem := x } := by
  induction l generalizing pl with
  | nil => cases h
  | cons y l ih =>
      unfold pick at h
      by_cases hy : p y = true
      · rw [if_pos hy] at h
        obtain rfl := Option.some.inj h
        simp [Place.set, pick, hx]
      · rw [if_neg hy] at h
        obtain ⟨pl', hpick, rfl⟩ := Option.map_eq_some_iff.1 h
        have hrest := ih hpick
        simp only [Place.set, Place.cons, List.cons_append, pick] at hrest ⊢
        rw [if_neg hy, hrest]
        rfl

/-- An element at the end is found if there is none before it. -/
lemma pick_append (h : pick p l = none) (x : α) :
    pick p (l ++ [x]) = if p x then some ⟨l, x, []⟩ else none := by
  induction l with
  | nil => rfl
  | cons y l ih =>
      have hnone := pick_eq_none.1 h
      have hy : p y = false := hnone y (by simp)
      have hl : pick p l = none := pick_eq_none.2 fun z hz => hnone z (by simp [hz])
      simp only [List.cons_append, pick, hy, Bool.false_eq_true, if_false, ih hl]
      split <;> rfl

/-- Counts when an element is replaced. -/
lemma Place.countP_set (f : α → Bool) (pl : Place α) (x : α) :
    ((pl.set x).countP f : ℤ) =
      pl.list.countP f + (if f x then 1 else 0) - (if f pl.elem then 1 else 0) := by
  simp only [Place.list, Place.set, List.countP_append, List.countP_cons]
  push_cast
  ring

/-- Counts when an element is taken out. -/
lemma Place.countP_erase (f : α → Bool) (pl : Place α) :
    (pl.erase.countP f : ℤ) = pl.list.countP f - (if f pl.elem then 1 else 0) := by
  simp only [Place.list, Place.set, Place.erase, List.countP_append, List.countP_cons]
  push_cast
  ring

/-- The element in the first place. -/
lemma map_elem_pick : (pick p l).map Place.elem = l.find? p := by
  induction l with
  | nil => rfl
  | cons x l ih =>
      by_cases hx : p x = true
      · rw [pick, if_pos hx, List.find?_cons_of_pos hx]
        rfl
      · rw [pick, if_neg hx, List.find?_cons_of_neg hx, ← ih, Option.map_map]
        rfl

/-- What is found where one element has been replaced, by another search than the one for
it. -/
lemma find?_set_of_neg (helem : p pl.elem = false) {x : α} (hx : p x = false) :
    (pl.set x).find? p = pl.list.find? p := by
  simp [Place.list, Place.set, List.find?_append, helem, hx]

variable {β : Type*} {R : α → β → Prop} {q : β → Bool} {m : List β}

/-- Searches that agree find matching places of matching lists. -/
lemma pick_forall₂ (h : List.Forall₂ R l m) (hpq : ∀ a b, b ∈ m → R a b → p a = q b) :
    (pick p l = none ∧ pick q m = none) ∨
      ∃ pl pm, pick p l = some pl ∧ pick q m = some pm ∧ R pl.elem pm.elem ∧
        List.Forall₂ R pl.before pm.before ∧ List.Forall₂ R pl.after pm.after := by
  induction h with
  | nil => exact .inl ⟨rfl, rfl⟩
  | @cons a b l m hab hrest ih =>
      have heq := hpq a b (by simp) hab
      by_cases ha : p a = true
      · right
        refine ⟨⟨[], a, l⟩, ⟨[], b, m⟩, ?_, ?_, hab, .nil, hrest⟩
        · rw [pick, if_pos ha]
        · rw [pick, if_pos (heq ▸ ha)]
      · rw [pick, pick, if_neg ha, if_neg (heq ▸ ha)]
        rcases ih fun a' b' hb => hpq a' b' (List.mem_cons_of_mem _ hb) with
          ⟨hp, hq⟩ | ⟨pl, pm, hp, hq, helem, hbefore, hafter⟩
        · left
          rw [hp, hq]
          exact ⟨rfl, rfl⟩
        · right
          refine ⟨pl.cons a, pm.cons b, ?_, ?_, helem, .cons hab hbefore, hafter⟩
          · rw [hp]
            rfl
          · rw [hq]
            rfl

end Lib
