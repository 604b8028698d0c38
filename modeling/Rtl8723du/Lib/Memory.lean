import Mathlib.Data.List.Basic
import Mathlib.Data.UInt

/-!
# Byte memory

A memory is a function from addresses to bytes, so that code which trusts the lengths it finds in
a packet has a meaning wherever they lead.  `readBytes` is a range of bytes, `write` stores one, and
`move` is `memmove`.  `be16` is a 16-bit number in network order.
-/

namespace Lib.Memory

/-- The bytes by their addresses. -/
abbrev Mem := ℕ → UInt8

/-- `n` bytes from an address on. -/
def readBytes (m : Mem) (a n : ℕ) : List UInt8 := (List.range n).map fun i => m (a + i)

/-- `memcpy` of some bytes to an address. -/
def write (m : Mem) (a : ℕ) (bs : List UInt8) : Mem :=
  fun i => if a ≤ i ∧ i < a + bs.length then bs.getD (i - a) 0 else m i

/-- `memmove`. -/
def move (m : Mem) (dst src n : ℕ) : Mem := write m dst (readBytes m src n)

/-- A 16-bit number in network order. -/
def be16 (m : Mem) (a : ℕ) : ℕ := 256 * (m a).toNat + (m (a + 1)).toNat

variable {m m' : Mem} {a b i n k : ℕ} {bs : List UInt8}

@[simp] lemma length_readBytes : (readBytes m a n).length = n := by simp [readBytes]

lemma write_of_lt (h : i < a) : write m a bs i = m i := if_neg (by omega)

lemma write_of_le (h : a + bs.length ≤ i) : write m a bs i = m i := if_neg (by omega)

lemma write_of_mem (h : a ≤ i) (h' : i < a + bs.length) : write m a bs i = bs.getD (i - a) 0 :=
  if_pos ⟨h, h'⟩

/-- Of two writes to the same place the second one counts. -/
lemma write_write {cs : List UInt8} (h : bs.length = cs.length) :
    write (write m a bs) a cs = write m a cs := by
  funext i
  simp only [write, h]
  split <;> rfl

lemma write_nil (m : Mem) (a : ℕ) : write m a [] = m := by
  funext i
  exact if_neg fun h => absurd h.2 (by rw [List.length_nil]; omega)

/-- A byte is written, and the others behind it. -/
lemma write_cons (m : Mem) (a : ℕ) (b : UInt8) (bs : List UInt8) :
    write (write m a [b]) (a + 1) bs = write m a (b :: bs) := by
  funext i
  rcases Nat.lt_trichotomy i a with hlt | rfl | hgt
  · rw [write_of_lt (by omega), write_of_lt hlt, write_of_lt hlt]
  · rw [write_of_lt (by omega), write_of_mem le_rfl (by simp), write_of_mem le_rfl (by simp)]
    simp
  · obtain ⟨k, rfl⟩ := Nat.exists_eq_add_of_lt hgt
    have hone : write m a [b] (a + k + 1) = m (a + k + 1) :=
      write_of_le (by rw [List.length_singleton]; omega)
    have hsub : a + k + 1 - (a + 1) = k := by omega
    have hsub' : a + k + 1 - a = k + 1 := by omega
    show (if _ then _ else write m a [b] (a + k + 1)) = if _ then _ else _
    rw [hone, hsub, hsub', List.getD_cons_succ, List.length_cons]
    exact if_congr (by omega) rfl rfl

lemma readBytes_add (m : Mem) (a n k : ℕ) :
    readBytes m a (n + k) = readBytes m a n ++ readBytes m (a + n) k := by
  simp [readBytes, List.range_add, Nat.add_assoc]

lemma readBytes_congr (h : ∀ i, a ≤ i → i < a + n → m i = m' i) :
    readBytes m a n = readBytes m' a n := by
  refine List.map_congr_left fun i hi => ?_
  exact h (a + i) (by omega) (by have := List.mem_range.1 hi; omega)

/-- A range that is not written to. -/
lemma readBytes_write_of_disjoint (h : a + n ≤ b ∨ b + bs.length ≤ a) :
    readBytes (write m b bs) a n = readBytes m a n := by
  refine readBytes_congr fun i hi hi' => ?_
  rcases h with h | h
  · exact write_of_lt (by omega)
  · exact write_of_le (by omega)

lemma getElem_readBytes (h : i < (readBytes m a n).length) : (readBytes m a n)[i] = m (a + i) := by
  simp [readBytes]

lemma readBytes_write (m : Mem) (a : ℕ) (bs : List UInt8) :
    readBytes (write m a bs) a bs.length = bs := by
  refine List.ext_getElem length_readBytes fun i hi hi' => ?_
  rw [getElem_readBytes, write_of_mem (by omega) (by omega), Nat.add_sub_cancel_left,
    List.getD_eq_getElem?_getD, List.getElem?_eq_getElem hi']
  rfl

/-! ### What a memory holds -/

/-- The bytes stand at an address. -/
def Holds (m : Mem) (a : ℕ) (bs : List UInt8) : Prop := readBytes m a bs.length = bs

variable {cs : List UInt8}

lemma holds_write (m : Mem) (a : ℕ) (bs : List UInt8) : Holds (write m a bs) a bs :=
  readBytes_write m a bs

lemma Holds.readBytes_eq (h : Holds m a bs) (hn : n = bs.length) : readBytes m a n = bs := by
  rw [hn]
  exact h

/-- Two parts, one behind the other. -/
lemma holds_append : Holds m a (bs ++ cs) ↔ Holds m a bs ∧ Holds m (a + bs.length) cs := by
  rw [Holds, List.length_append, readBytes_add]
  constructor
  · intro h
    exact List.append_inj h length_readBytes
  · rintro ⟨hbs, hcs⟩
    exact congrArg₂ (· ++ ·) hbs hcs

/-- The first bytes of what is held. -/
lemma Holds.readBytes_take (h : Holds m a bs) (hn : n ≤ bs.length) :
    readBytes m a n = bs.take n := by
  obtain ⟨k, hk⟩ := Nat.exists_eq_add_of_le hn
  rw [Holds, hk, readBytes_add] at h
  rw [← h, List.take_left' length_readBytes]

/-- What is read is held. -/
lemma holds_readBytes (m : Mem) (a n : ℕ) : Holds m a (readBytes m a n) := by
  rw [Holds, length_readBytes]

/-- A write to another place. -/
lemma Holds.write_of_disjoint (h : Holds m a bs) (hd : a + bs.length ≤ b ∨ b + cs.length ≤ a) :
    Holds (write m b cs) a bs := by
  rw [Holds, readBytes_write_of_disjoint hd]
  exact h

end Lib.Memory
