import Mathlib

/-!
# Bit strings as polynomials

The bits of a string are the coefficients of a polynomial, the first one that of the constant term.
`value` is its value at a point of a ring in which two is zero: there the exclusive or of two
strings is the sum, and a shift by one place the product with the point, but for the bit that is
shifted out.  At the root of a monic polynomial of degree `n` different strings of `n` bits have
different values.
-/

namespace Lib.BitPoly

open Finset Polynomial

variable {R : Type*} [CommRing R] {r : R} {n : ℕ} {c d : ℕ → Bool}

/-- The value at `r` of the polynomial with the first `n` bits of `c`. -/
def value (r : R) (n : ℕ) (c : ℕ → Bool) : R := ∑ i ∈ range n, if c i then r ^ i else 0

lemma value_succ (r : R) (n : ℕ) (c : ℕ → Bool) :
    value r (n + 1) c = value r n c + if c n then r ^ n else 0 := sum_range_succ _ n

lemma value_congr (h : ∀ i < n, c i = d i) : value r n c = value r n d :=
  sum_congr rfl fun i hi => by rw [h i (mem_range.1 hi)]

/-- No bit is set behind the first ones. -/
lemma value_of_le {m : ℕ} (hmn : m ≤ n) (h : ∀ i, m ≤ i → c i = false) :
    value r n c = value r m c := by
  refine (sum_subset (range_subset_range.2 hmn) fun i _ hi => ?_).symm
  rw [h i (Nat.le_of_not_lt fun hlt => hi (mem_range.2 hlt))]
  exact if_neg Bool.false_ne_true

lemma value_xor (htwo : (2 : R) = 0) (r : R) (n : ℕ) (c d : ℕ → Bool) :
    value r n (fun i => c i ^^ d i) = value r n c + value r n d := by
  rw [value, value, value, ← sum_add_distrib]
  refine sum_congr rfl fun i _ => ?_
  have hcancel : r ^ i + r ^ i = 0 := by rw [← two_mul, htwo, zero_mul]
  cases c i <;> cases d i <;> simp [hcancel]

/-- All bits are shifted by one place, and the last one is shifted out. -/
lemma value_shift (hzero : d 0 = false) (hsucc : ∀ i < n, d (i + 1) = c i) :
    value r (n + 1) d + (if c n then r ^ (n + 1) else 0) = r * value r (n + 1) c := by
  have hfirst : value r (n + 1) d = ∑ i ∈ range n, if c i then r ^ (i + 1) else 0 := by
    rw [value, sum_range_succ', hzero, if_neg Bool.false_ne_true, add_zero]
    exact sum_congr rfl fun i hi => by rw [hsucc i (mem_range.1 hi)]
  have hlast : (if c n then r ^ (n + 1) else 0) = r * if c n then r ^ n else 0 := by
    rw [mul_ite, mul_zero, pow_succ']
  rw [hfirst, hlast, value_succ, mul_add, value, mul_sum]
  congr 1
  refine sum_congr rfl fun i _ => ?_
  rw [mul_ite, mul_zero, pow_succ']

/-! ### At a root -/

/-- Two is zero over the bits. -/
lemma two_eq_zero (f : (ZMod 2)[X]) : (2 : AdjoinRoot f) = 0 := by
  have hmap : AdjoinRoot.of f 2 = 2 := map_ofNat (AdjoinRoot.of f) 2
  rw [← hmap, show (2 : ZMod 2) = 0 from rfl, map_zero]

/-- The bits of a string are told by its value at a root. -/
lemma eq_of_value_root_eq {f : (ZMod 2)[X]} (hf : f.Monic)
    (h : value (AdjoinRoot.root f) f.natDegree c = value (AdjoinRoot.root f) f.natDegree d) {i : ℕ}
    (hi : i < f.natDegree) : c i = d i := by
  have hbasis : ∀ k : Fin f.natDegree,
      AdjoinRoot.powerBasisAux' hf k = AdjoinRoot.root f ^ (k : ℕ) :=
    (AdjoinRoot.powerBasis' hf).basis_eq_pow
  have hvalue : ∀ b : ℕ → Bool, value (AdjoinRoot.root f) f.natDegree b =
      ∑ k : Fin f.natDegree,
        (if b k then (1 : ZMod 2) else 0) • AdjoinRoot.powerBasisAux' hf k := by
    intro b
    rw [value, ← Fin.sum_univ_eq_sum_range (fun i => if b i then AdjoinRoot.root f ^ i else 0)]
    refine sum_congr rfl fun k _ => ?_
    rw [hbasis, ite_smul, one_smul, zero_smul]
  have hli := (AdjoinRoot.powerBasisAux' hf).linearIndependent
  rw [hvalue, hvalue, ← sub_eq_zero, ← sum_sub_distrib] at h
  simp only [← sub_smul] at h
  have hcoef := Fintype.linearIndependent_iff.1 hli _ h ⟨i, hi⟩
  cases hc : c i <;> cases hd : d i <;> simp [hc, hd] at hcoef ⊢

end Lib.BitPoly
