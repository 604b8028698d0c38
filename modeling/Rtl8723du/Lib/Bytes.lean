import Mathlib.Data.Nat.Digits.Lemmas
import Mathlib.Data.UInt

/-!
# Little-endian numbers in byte strings

`leNat` reads a byte string as a number, lowest byte first, and `leBytes` writes
one.  `leAt` reads a field of a longer string; bytes past the end count as zero.
`writeAt` overwrites a part of a string.  `OneByte` relates byte strings that differ
at one place.
-/

namespace Lib.Bytes

/-- The number that a byte string spells, lowest byte first. -/
def leNat : List UInt8 → ℕ
  | [] => 0
  | b :: bs => b.toNat + 256 * leNat bs

/-- The lowest `k` bytes of a number, lowest byte first. -/
def leBytes : ℕ → ℕ → List UInt8
  | 0, _ => []
  | k + 1, n => UInt8.ofNat n :: leBytes k (n / 256)

/-- The `k`-byte field at an offset. -/
def leAt (bs : List UInt8) (off k : ℕ) : ℕ := leNat ((bs.drop off).take k)

/-- `src` written into a byte string at an offset. -/
def writeAt (bs : List UInt8) (off : ℕ) (src : List UInt8) : List UInt8 :=
  bs.take off ++ src ++ bs.drop (off + src.length)

/-- `n` bytes from an offset on; nothing when one of them lies outside. -/
def bytesIn (bs : List UInt8) (off n : ℕ) : Option (List UInt8) :=
  if n = 0 then some []
  else if off + n ≤ bs.length then some ((bs.drop off).take n)
  else none

@[simp] lemma length_leBytes (k n : ℕ) : (leBytes k n).length = k := by
  induction k generalizing n with
  | zero => rfl
  | succ k ih => simp [leBytes, ih]

/-- Strings of one length spell different numbers. -/
lemma leNat_inj {as bs : List UInt8} (h : as.length = bs.length) :
    leNat as = leNat bs ↔ as = bs := by
  refine ⟨fun heq => ?_, fun heq => by rw [heq]⟩
  induction as generalizing bs with
  | nil => exact (List.length_eq_zero_iff.1 h.symm).symm
  | cons a as ih =>
      cases bs with
      | nil => cases h
      | cons b bs =>
          have ha := a.toNat_lt
          have hb := b.toNat_lt
          rw [leNat, leNat] at heq
          have hhead : a = b := UInt8.toNat_inj.1 (by omega)
          rw [hhead, ih (Nat.succ.inj h) (by omega)]

lemma bytesIn_eq {bs : List UInt8} {off n : ℕ} (h : off + n ≤ bs.length) :
    bytesIn bs off n = some ((bs.drop off).take n) := by
  rw [bytesIn]
  by_cases hzero : n = 0
  · rw [if_pos hzero, hzero, List.take_zero]
  · rw [if_neg hzero, if_pos h]

lemma leNat_leBytes {k n : ℕ} (h : n < 256 ^ k) : leNat (leBytes k n) = n := by
  induction k generalizing n with
  | zero => exact (Nat.lt_one_iff.1 h).symm
  | succ k ih =>
      have hdiv : n / 256 < 256 ^ k := Nat.div_lt_of_lt_mul (by rwa [← Nat.pow_succ'])
      have hmod : (UInt8.ofNat n).toNat = n % 256 := by simp [UInt8.toNat_ofNat']
      simp only [leBytes, leNat, ih hdiv, hmod]
      omega

/-- A longer number is written after its lowest bytes. -/
lemma leBytes_add (j k n : ℕ) : leBytes (j + k) n = leBytes j n ++ leBytes k (n / 256 ^ j) := by
  induction j generalizing n with
  | zero => simp [leBytes]
  | succ j ih =>
      rw [Nat.succ_add, leBytes, ih, leBytes, List.cons_append, Nat.div_div_eq_div_mul,
        ← Nat.pow_succ']

/-- A field that lies inside the first part of a byte string. -/
lemma leAt_append {bs cs : List UInt8} {off k : ℕ} (h : off + k ≤ bs.length) :
    leAt (bs ++ cs) off k = leAt bs off k := by
  rw [leAt, leAt, List.drop_append_of_le_length (by omega),
    List.take_append_of_le_length (by rw [List.length_drop]; omega)]

/-! ### Overwriting -/

/-- Overwriting begins behind the first part of a byte string. -/
lemma writeAt_append (bs cs src : List UInt8) :
    writeAt (bs ++ cs) bs.length src = bs ++ (src ++ cs.drop src.length) := by
  rw [writeAt, List.take_left, List.append_assoc, ← List.drop_drop, List.drop_left]

lemma length_writeAt {bs src : List UInt8} {off : ℕ} (h : off + src.length ≤ bs.length) :
    (writeAt bs off src).length = bs.length := by
  simp only [writeAt, List.length_append, List.length_take, List.length_drop]
  omega

section Overwriting

variable {bs : List UInt8}

lemma writeAt_nil (bs : List UInt8) (off : ℕ) : writeAt bs off [] = bs := by
  rw [writeAt, List.append_nil, List.length_nil, Nat.add_zero, List.take_append_drop]

/-- The length byte is written after the content. -/
lemma writeAt_content {a : ℕ} {l : UInt8} {content : List UInt8} (h : a < bs.length) :
    writeAt (writeAt bs (a + 1) content) a [l] = writeAt bs a (l :: content) := by
  have hfront : (bs.take (a + 1)).length = a + 1 := by
    rw [List.length_take]
    omega
  have htake : (writeAt bs (a + 1) content).take a = bs.take a := by
    rw [writeAt, List.append_assoc, List.take_append_of_le_length (by omega), List.take_take,
      Nat.min_eq_left (Nat.le_succ a)]
  have hdrop : (writeAt bs (a + 1) content).drop (a + 1) =
      content ++ bs.drop (a + 1 + content.length) := by
    rw [writeAt, List.append_assoc, List.drop_left' hfront]
  rw [writeAt, htake, List.length_singleton, hdrop, writeAt, List.length_cons,
    Nat.add_right_comm a 1, List.append_assoc, List.append_assoc]
  rfl

/-- A string is written behind a byte, or together with it. -/
lemma writeAt_succ {w : List UInt8} {a : ℕ} {b : UInt8} (h : a < bs.length) :
    writeAt (writeAt bs a [b]) (a + 1) w = writeAt bs a (b :: w) := by
  have hfront : (bs.take a ++ [b]).length = a + 1 := by
    rw [List.length_append, List.length_take, Nat.min_eq_left (Nat.le_of_lt h)]
    rfl
  have hbyte : writeAt bs a [b] = (bs.take a ++ [b]) ++ bs.drop (a + 1) := rfl
  rw [hbyte, ← hfront, writeAt_append, hfront, List.drop_drop, writeAt, List.length_cons,
    ← Nat.add_assoc, Nat.add_right_comm a]
  simp only [List.append_assoc, List.cons_append, List.nil_append]

/-- A byte that stands there already is written again. -/
lemma writeAt_of_drop {a : ℕ} {b : UInt8} {r w : List UInt8} (h : bs.drop a = b :: r) :
    writeAt bs (a + 1) w = writeAt bs a (b :: w) := by
  have htake : bs.take (a + 1) = bs.take a ++ [b] := by
    rw [List.take_add, h]
    rfl
  rw [writeAt, writeAt, htake, List.length_cons, Nat.add_right_comm a 1, List.append_assoc,
    List.append_assoc, List.append_assoc]
  rfl

/-- What stands there already is written again. -/
lemma writeAt_same {a : ℕ} {w : List UInt8} (h : (bs.drop a).take w.length = w) :
    writeAt bs a w = bs := by
  calc bs.take a ++ w ++ bs.drop (a + w.length)
      = bs.take a ++ ((bs.drop a).take w.length ++ (bs.drop a).drop w.length) := by
        rw [h, List.drop_drop, List.append_assoc]
    _ = bs := by rw [List.take_append_drop, List.take_append_drop]

lemma drop_writeAt {a : ℕ} {w : List UInt8} (h : a ≤ bs.length) :
    (writeAt bs a w).drop (a + w.length) = bs.drop (a + w.length) := by
  have hfront : (bs.take a ++ w).length = a + w.length := by
    rw [List.length_append, List.length_take, Nat.min_eq_left h]
  rw [writeAt, List.drop_left' hfront]

/-- Two strings are written one after the other. -/
lemma take_writeAt_writeAt {p r w q : List UInt8} (h : bs = p ++ r) :
    (writeAt (writeAt bs p.length w) (p.length + w.length) q).take
      (p.length + w.length + q.length) = p ++ (w ++ q) := by
  have hwritten : writeAt bs p.length w = (p ++ w) ++ r.drop w.length := by
    rw [h, writeAt_append, List.append_assoc]
  rw [hwritten, ← List.length_append, writeAt_append, ← List.append_assoc, ← List.length_append,
    List.take_left, List.append_assoc]

lemma length_writeAt_writeAt {a : ℕ} {w q : List UInt8} (h : a + w.length + q.length ≤ bs.length) :
    (writeAt (writeAt bs a w) (a + w.length) q).length = bs.length := by
  have hw : (writeAt bs a w).length = bs.length := length_writeAt (by omega)
  rw [length_writeAt (by omega), hw]

end Overwriting

/-! ### One changed byte -/

/-- The second string is the first with one byte changed. -/
def OneByte (a b : List UInt8) : Prop := b ≠ a ∧ ∃ i x, b = a.set i x

variable {a b : List UInt8}

/-- The byte that is changed lies inside the string. -/
lemma OneByte.exists_lt (h : OneByte a b) : ∃ i x, i < a.length ∧ b = a.set i x := by
  obtain ⟨hne, i, x, rfl⟩ := h
  refine ⟨i, x, ?_, rfl⟩
  by_contra hi
  exact hne (List.set_eq_of_length_le (by omega))

lemma OneByte.append_right (h : OneByte a b) (c : List UInt8) : OneByte (a ++ c) (b ++ c) := by
  obtain ⟨i, x, hi, rfl⟩ := h.exists_lt
  refine ⟨fun heq => h.1 (List.append_cancel_right heq), i, x, ?_⟩
  rw [List.set_append_left _ _ hi]

lemma OneByte.append_left (h : OneByte a b) (c : List UInt8) : OneByte (c ++ a) (c ++ b) := by
  obtain ⟨hne, i, x, rfl⟩ := h
  refine ⟨fun heq => hne (List.append_cancel_left heq), c.length + i, x, ?_⟩
  rw [List.set_append_right _ _ (by omega), Nat.add_sub_cancel_left]

/-- Changing a byte to another one. -/
lemma OneByte.set {i : ℕ} {x : UInt8} (hi : i < a.length) (hx : a[i] ≠ x) :
    OneByte a (a.set i x) := by
  refine ⟨fun heq => hx ?_, i, x, rfl⟩
  have hget : (a.set i x)[i]? = a[i]? := by rw [heq]
  rw [List.getElem?_set_self hi, List.getElem?_eq_getElem hi] at hget
  exact (Option.some.inj hget).symm

end Lib.Bytes
