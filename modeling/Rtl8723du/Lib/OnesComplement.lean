import Mathlib.Data.Nat.ModEq
import Mathlib.Data.UInt

/-!
# The Internet checksum

`sum16` adds the 16-bit words of a byte string; a last odd byte counts as a word with a zero.  The
ones' complement sum is what `fold` leaves of it, and the checksum is the complement of that.  A
checksum fits a string if the sum of both is zero modulo 65535 (`fold_eq_iff`).
-/

namespace Lib.OnesComplement

/-- The sum of the words of a byte string, each with the low byte first. -/
def sum16 : List UInt8 → ℕ
  | [] => 0
  | [b] => b.toNat
  | b :: c :: bs => b.toNat + 256 * c.toNat + sum16 bs

/-- What is left when the carries are added in again until there are none. -/
def fold (n : ℕ) : ℕ := if n = 0 then 0 else (n - 1) % 65535 + 1

/-- The complement of the folded sum. -/
def csumFold (n : ℕ) : ℕ := 65535 - fold n

variable {bs cs : List UInt8} {n k : ℕ}

lemma fold_le (n : ℕ) : fold n ≤ 65535 := by
  rw [fold]
  split <;> omega

lemma fold_pos (h : 0 < n) : 0 < fold n := by
  rw [fold, if_neg (by omega)]
  omega

lemma fold_modEq (n : ℕ) : fold n ≡ n [MOD 65535] := by
  rw [fold]
  split
  · next h => rw [h]
  · next h =>
      have hcast : n = n - 1 + 1 := by omega
      conv_rhs => rw [hcast]
      exact (Nat.mod_modEq _ _).add_right 1

/-- A sum without anything in it apart, all bits are set just if it is zero modulo 65535. -/
lemma fold_eq_iff (h : 0 < n) : fold n = 65535 ↔ n ≡ 0 [MOD 65535] := by
  have hle := fold_le n
  have hpos := fold_pos h
  have hmod : fold n % 65535 = n % 65535 := fold_modEq n
  rw [Nat.ModEq, ← hmod]
  omega

lemma csumFold_lt (n : ℕ) : csumFold n < 65536 := by
  rw [csumFold]
  omega

/-- A sum and its checksum are zero together. -/
lemma add_csumFold (n : ℕ) : n + csumFold n ≡ 0 [MOD 65535] := by
  have hle := fold_le n
  have h : fold n + csumFold n = 65535 := by
    rw [csumFold]
    omega
  calc n + csumFold n ≡ fold n + csumFold n [MOD 65535] := (fold_modEq n).symm.add_right _
    _ = 65535 := h
    _ ≡ 0 [MOD 65535] := rfl

lemma sum16_append (h : bs.length % 2 = 0) : sum16 (bs ++ cs) = sum16 bs + sum16 cs := by
  induction bs using sum16.induct with
  | case1 => simp [sum16]
  | case2 b => simp at h
  | case3 b c bs ih =>
      simp only [List.length_cons] at h
      simp only [List.cons_append, sum16, ih (by omega), Nat.add_assoc]

end Lib.OnesComplement
