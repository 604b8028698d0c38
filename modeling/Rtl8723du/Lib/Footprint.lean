import Mathlib.Data.List.Basic

/-!
# What code touches

A computation over byte memory with a list of its accesses: ranges of bytes that are read, and parts
of named objects that are written.  It is confined to a range if it reads inside of it only, and
writes inside of the objects only.
-/

namespace Lib.Footprint

/-- Some bytes of the memory. -/
structure Range where
  start : ℕ
  len : ℕ
deriving DecidableEq, Repr

/-- The bytes are some of the others. -/
def Range.Within (r s : Range) : Prop := s.start ≤ r.start ∧ r.start + r.len ≤ s.start + s.len

instance (r s : Range) : Decidable (r.Within s) := inferInstanceAs (Decidable (_ ∧ _))

/-- Bytes of the memory are read, or of an object are written. -/
inductive Access (ι : Type*)
  | read (r : Range)
  | write (obj : ι) (off len : ℕ)
deriving DecidableEq, Repr

variable {ι : Type*} {size : ι → ℕ} {r s t : Range} {l l' : List (Access ι)}

/-- What is read is in the range, what is written in the object. -/
def Access.Inside (size : ι → ℕ) (s : Range) : Access ι → Prop
  | .read r => r.Within s
  | .write obj off len => off + len ≤ size obj

/-- All accesses are inside. -/
def Confined (size : ι → ℕ) (s : Range) (l : List (Access ι)) : Prop :=
  ∀ a ∈ l, Access.Inside size s a

lemma Range.Within.trans (h : r.Within s) (h' : s.Within t) : r.Within t :=
  ⟨Nat.le_trans h'.1 h.1, Nat.le_trans h.2 h'.2⟩

@[simp] lemma within_mk {a n b k : ℕ} :
    (⟨a, n⟩ : Range).Within ⟨b, k⟩ ↔ b ≤ a ∧ a + n ≤ b + k := Iff.rfl

@[simp] lemma inside_read : Access.Inside size s (.read r) ↔ r.Within s := Iff.rfl

@[simp] lemma inside_write {obj : ι} {off len : ℕ} :
    Access.Inside size s (.write obj off len) ↔ off + len ≤ size obj := Iff.rfl

@[simp] lemma confined_nil : Confined size s [] := by simp [Confined]

@[simp] lemma confined_cons {a : Access ι} :
    Confined size s (a :: l) ↔ Access.Inside size s a ∧ Confined size s l := by
  simp [Confined]

@[simp] lemma confined_append :
    Confined size s (l ++ l') ↔ Confined size s l ∧ Confined size s l' := by
  simp [Confined, or_imp, forall_and]

end Lib.Footprint
