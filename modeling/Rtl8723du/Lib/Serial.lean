import Mathlib.Data.BitVec
import Mathlib.Tactic.Ring
import Mathlib.Tactic.Linarith

/-!
# Serial numbers

A counter of `m` values that wraps around is compared by looking at the upper
bit of the difference: with `m = 2 * h`, the number `a` is *before* `b` when
going forward from `a` one meets `b` within `1 … h` steps.  `ahead m a b` is the
length of that way.  The file relates three views of the comparison:

* the upper bit of a machine difference (`sub_and_twoPow_ne_zero_iff`);
* the forward distance `ahead`;
* the order of the unbounded counters that the serial numbers are residues of
  (`half_le_ahead_iff_lt`).
-/

namespace Lib.Serial

/-- The number of steps from `a` forward to `b`, counting modulo `m`. -/
def ahead (m a b : ℕ) : ℕ := (b + (m - a % m)) % m

lemma ahead_lt {m : ℕ} (hm : 0 < m) (a b : ℕ) : ahead m a b < m := Nat.mod_lt _ hm

@[simp] lemma ahead_mod_left (m a b : ℕ) : ahead m (a % m) b = ahead m a b := by
  simp [ahead]

@[simp] lemma ahead_mod_right (m a b : ℕ) : ahead m a (b % m) = ahead m a b := by
  simp [ahead]

/-- Going forward by the distance leads to the target. -/
lemma add_ahead_mod {m : ℕ} (hm : 0 < m) (a b : ℕ) : (a + ahead m a b) % m = b % m := by
  have ha : a % m ≤ m := (Nat.mod_lt a hm).le
  have hsum : a % m + (b + (m - a % m)) = b + m := by omega
  calc (a + ahead m a b) % m = (a % m + (b + (m - a % m))) % m := by
        simp [ahead, Nat.add_mod]
    _ = b % m := by rw [hsum, Nat.add_mod_right]

/-- The distance is the only number below a turn that leads to the target. -/
lemma eq_ahead {m a b x : ℕ} (hx : x < m) (h : (a + x) % m = b % m) : x = ahead m a b := by
  have hm : 0 < m := by omega
  have hcancel : x ≡ ahead m a b [MOD m] :=
    Nat.ModEq.add_left_cancel' a (h.trans (add_ahead_mod hm a b).symm)
  exact Nat.ModEq.eq_of_lt_of_lt hcancel hx (ahead_lt hm a b)

/-- The distance between two unbounded counters that are less than a turn apart. -/
lemma ahead_of_le {m a b : ℕ} (hab : a ≤ b) (hb : b < a + m) : ahead m a b = b - a := by
  have hm : 0 < m := by omega
  have ha : a % m ≤ m := (Nat.mod_lt a hm).le
  have hdiv : m * (a / m) + a % m = a := Nat.div_add_mod a m
  have hsum : b + (m - a % m) = (b - a) + m * (a / m + 1) := by
    rw [Nat.mul_add, Nat.mul_one]
    omega
  rw [ahead, hsum, Nat.add_mul_mod_self_left, Nat.mod_eq_of_lt (by omega)]

/-- The distance back to a smaller counter is the rest of the turn. -/
lemma ahead_of_lt {m a b : ℕ} (hab : b < a) (ha : a ≤ b + m) : ahead m a b = b + m - a := by
  have hmod : ahead m a b = ahead m a (b + m) := by
    rw [← ahead_mod_right m a b, ← Nat.add_mod_right b m, ahead_mod_right]
  rw [hmod, ahead_of_le ha (by omega)]

/-- Counters at most half a turn apart are ordered as their distance says. -/
lemma half_le_ahead_iff_lt {h a b : ℕ} (hab : a < b + h) (hba : b ≤ a + h) :
    h ≤ ahead (2 * h) b a ↔ a < b := by
  rcases Nat.lt_or_ge a b with hlt | hge
  · rw [ahead_of_lt hlt (by omega)]
    exact ⟨fun _ => hlt, fun _ => by omega⟩
  · rw [ahead_of_le hge (by omega)]
    exact ⟨fun hh => by omega, fun hh => by omega⟩

/-- Two counters with the same residue are the same or a whole turn apart. -/
lemma add_le_of_mod_eq {m a b : ℕ} (hab : a < b) (h : a % m = b % m) : a + m ≤ b := by
  have hdvd : m ∣ b - a := (Nat.modEq_iff_dvd' hab.le).1 h
  have := Nat.le_of_dvd (by omega) hdvd
  omega

/-- The upper bit of a machine difference tells whether the way from the
subtrahend to the minuend is at least half a turn. -/
theorem sub_and_twoPow_ne_zero_iff {w k : ℕ} (hk : k < w) (a b : ℕ) :
    (BitVec.ofNat w a - BitVec.ofNat w b) &&& BitVec.twoPow w k ≠ 0#w ↔
      2 ^ k ≤ ahead (2 ^ (k + 1)) b a := by
  have hbit : (BitVec.ofNat w a - BitVec.ofNat w b) &&& BitVec.twoPow w k ≠ 0#w ↔
      (BitVec.ofNat w a - BitVec.ofNat w b).getLsbD k = true := by
    rw [BitVec.and_twoPow]
    split
    · rename_i h
      refine ⟨fun _ => h, fun _ hz => ?_⟩
      have := congrArg (fun x : BitVec w => x.getLsbD k) hz
      simp [hk] at this
    · rename_i h
      simp [h]
  have hmod : (BitVec.ofNat w a - BitVec.ofNat w b).toNat % 2 ^ (k + 1)
      = ahead (2 ^ (k + 1)) b a := by
    refine eq_ahead (Nat.mod_lt _ (by positivity)) ?_
    have hpow : 2 ^ (k + 1) ∣ 2 ^ w := Nat.pow_dvd_pow 2 hk
    have hb : b % 2 ^ w ≤ 2 ^ w := (Nat.mod_lt b (by positivity)).le
    have hdiv : 2 ^ w * (b / 2 ^ w) + b % 2 ^ w = b := Nat.div_add_mod b (2 ^ w)
    have hsum : b + (2 ^ w - b % 2 ^ w + a % 2 ^ w) = a % 2 ^ w + 2 ^ w * (b / 2 ^ w + 1) := by
      rw [Nat.mul_add, Nat.mul_one]
      omega
    rw [BitVec.toNat_sub, BitVec.toNat_ofNat, BitVec.toNat_ofNat, Nat.mod_mod_of_dvd _ hpow,
      Nat.add_mod_mod, hsum, ← Nat.mod_mod_of_dvd _ hpow, Nat.add_mul_mod_self_left,
      Nat.mod_mod_of_dvd _ hpow, Nat.mod_mod_of_dvd _ hpow]
  have hbitval : (BitVec.ofNat w a - BitVec.ofNat w b).getLsbD k = true ↔
      2 ^ k ≤ (BitVec.ofNat w a - BitVec.ofNat w b).toNat % 2 ^ (k + 1) := by
    generalize (BitVec.ofNat w a - BitVec.ofNat w b) = d
    have hlt := Nat.mod_lt d.toNat (Nat.two_pow_pos k)
    rw [BitVec.getLsbD, Nat.testBit_eq_decide_div_mod_eq, decide_eq_true_eq, Nat.mod_pow_succ]
    rcases Nat.mod_two_eq_zero_or_one (d.toNat / 2 ^ k) with h | h <;> simp [h, hlt]
  rw [hbit, hbitval, hmod]

end Lib.Serial
