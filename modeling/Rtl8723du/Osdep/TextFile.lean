import Mathlib.Data.BitVec
import Mathlib.Data.UInt
import Rtl8723du.Lib.Loop

/-!
# Text files

`readFile`, `writeFile` and what is built on them in `os_dep/osdep_service.c`, the tests of
characters there, and what `sscanf` and `sprintf` of the kernel do with a byte in hex.

`kernel_read` and `kernel_write` may move fewer bytes than they are asked for, as long as they move
one.  The loops around them make up for that.  A length is an `int` there and a `u32` where the
loops are called, so that of a file of 2 GiB and more nothing is read.
-/

namespace Rtl8723du.Osdep

open Lib

/-! ### Characters -/

/-- `is_null`. -/
def isNull (c : UInt8) : Bool := c == 0

/-- `is_eol`. -/
def isEol (c : UInt8) : Bool := c == 13 || c == 10

/-- `is_space`. -/
def isSpace (c : UInt8) : Bool := c == 32 || c == 9

/-- `IsHexDigit`. -/
def isHexDigit (c : UInt8) : Bool :=
  (48 ≤ c && c ≤ 57) || (97 ≤ c && c ≤ 102) || (65 ≤ c && c ≤ 70)

/-- `isspace` of the kernel. -/
def isspace (c : UInt8) : Bool := (9 ≤ c && c ≤ 13) || c == 32 || c == 160

/-- What a hex digit stands for. -/
def hexVal (c : UInt8) : ℕ := if c ≤ 57 then c.toNat - 48 else (c ||| 32).toNat - 87

/-- `simple_strtoull` to the base 16, up to what is cut off behind it. -/
def simpleStrtoull (s : List UInt8) : ℕ :=
  let s := if s[0]? = some 48 ∧ s[1]?.map (· ||| 32) = some 120 then s.drop 2 else s
  (s.takeWhile isHexDigit).foldl (fun n c => 16 * n + hexVal c) 0

/-- `sscanf` with `"%hhx"` on a string without its NUL. -/
def sscanfHhx (s : List UInt8) : Option UInt8 :=
  match s.dropWhile isspace with
  | [] => none
  | c :: s => if isHexDigit c then some (.ofNat (simpleStrtoull (c :: s))) else none

/-- A digit of `"%X"`. -/
def hexUpper (d : ℕ) : UInt8 := if d < 10 then .ofNat (48 + d) else .ofNat (55 + d)

/-- `sprintf` with `"%02X"`. -/
def sprintf02X (v : UInt8) : List UInt8 := [hexUpper (v.toNat / 16), hexUpper (v.toNat % 16)]

/-- What two hex digits stand for. -/
def byteOf (a b : UInt8) : UInt8 := .ofNat (16 * hexVal a + hexVal b)

/-- What a hex digit is not. -/
structure PlainDigit (c : UInt8) : Prop where
  isspace : isspace c = false
  isNull : isNull c = false
  isEol : isEol c = false
  isSpace : isSpace c = false
  noPrefix : c ||| 32 ≠ 120

instance (c : UInt8) : Decidable (PlainDigit c) :=
  decidable_of_iff (isspace c = false ∧ isNull c = false ∧ isEol c = false ∧ isSpace c = false ∧
    c ||| 32 ≠ 120) ⟨fun ⟨h1, h2, h3, h4, h5⟩ => ⟨h1, h2, h3, h4, h5⟩,
      fun ⟨h1, h2, h3, h4, h5⟩ => ⟨h1, h2, h3, h4, h5⟩⟩

variable {a b c : UInt8}

lemma plainDigit_ofNat : ∀ n < 256, isHexDigit (.ofNat n) = true → PlainDigit (.ofNat n) := by
  decide +kernel

lemma plainDigit (h : isHexDigit c = true) : PlainDigit c := by
  have hc := plainDigit_ofNat c.toNat c.toNat_lt
  rw [UInt8.ofNat_toNat] at hc
  exact hc h

lemma hexUpper_digit : ∀ d < 16, isHexDigit (hexUpper d) = true ∧ hexVal (hexUpper d) = d := by
  decide

lemma ne_zero_of_isHexDigit (h : isHexDigit c = true) : c ≠ 0 := by
  rintro rfl
  cases h

lemma isHexDigit_of_mem_sprintf02X {v : UInt8} (hc : c ∈ sprintf02X v) : isHexDigit c = true := by
  have hlt := v.toNat_lt
  rcases List.mem_pair.1 hc with rfl | rfl
  · exact (hexUpper_digit _ (by omega)).1
  · exact (hexUpper_digit _ (by omega)).1

/-- Two hex digits are read as one byte. -/
lemma sscanfHhx_pair (ha : isHexDigit a = true) (hb : isHexDigit b = true) :
    sscanfHhx [a, b] = some (byteOf a b) := by
  have hprefix : ¬ ([a, b][0]? = some 48 ∧ [a, b][1]?.map (· ||| 32) = some 120) := fun h =>
    (plainDigit hb).noPrefix (Option.some.inj h.2)
  have hdigits : [a, b].takeWhile isHexDigit = [a, b] := by
    rw [List.takeWhile_cons_of_pos ha, List.takeWhile_cons_of_pos hb, List.takeWhile_nil]
  rw [sscanfHhx, List.dropWhile_cons_of_neg (by simp [(plainDigit ha).isspace])]
  show (if isHexDigit a = true then some (UInt8.ofNat (simpleStrtoull [a, b])) else none) = _
  rw [if_pos ha, simpleStrtoull, if_neg hprefix, hdigits]
  simp [byteOf]

/-- A byte is written as two hex digits that stand for it. -/
lemma byteOf_sprintf02X (v : UInt8) :
    byteOf (hexUpper (v.toNat / 16)) (hexUpper (v.toNat % 16)) = v := by
  have hlt := v.toNat_lt
  rw [byteOf, (hexUpper_digit _ (by omega)).2, (hexUpper_digit _ (by omega)).2, Nat.div_add_mod,
    UInt8.ofNat_toNat]

/-! ### Reading and writing -/

/-- A pass of the loop of `readFile` or `writeFile`; the call of the kernel at `sum` for so many
bytes returns `rlen`. -/
def ioPass (rlen : ℕ → ℕ → ℤ) (len : ℤ) (sum : ℕ) : ℤ ⊕ ℕ :=
  if sum < len then
    let r := rlen sum (len.toNat - sum)
    if 0 < r then .inr (sum + r.toNat) else if r ≠ 0 then .inl r else .inl sum
  else .inl sum

/-- `readFile`, which returns the number of bytes; they are the first ones of the file. -/
def readFile (rlen : ℕ → ℕ → ℤ) (len : ℤ) : Option ℤ :=
  Loop.run (ioPass rlen len) (len.toNat + 1) 0

/-- `writeFile`. -/
def writeFile (wlen : ℕ → ℕ → ℤ) (len : ℤ) : Option ℤ :=
  Loop.run (ioPass wlen len) (len.toNat + 1) 0

/-- `isFileReadable`: the pointer to the file is taken for an error if there is no first byte. -/
def isFileReadable (fp : BitVec 64) (rlen : ℕ → ℕ → ℤ) : Option (BitVec 32) :=
  (readFile rlen 1).map fun n => if 1 ≠ n then fp.setWidth 32 else 0

/-- `retriveFromFile` of a file that can be opened. -/
def retriveFromFile (rlen : ℕ → ℕ → ℤ) (sz : BitVec 32) : Option ℤ := readFile rlen sz.toInt

/-- `rtw_retrieve_from_file`. -/
def rtwRetrieveFromFile (rlen : ℕ → ℕ → ℤ) (sz : BitVec 32) : Option ℕ :=
  (retriveFromFile rlen sz).map fun ret => if 0 ≤ ret then ret.toNat else 0

/-- `storeToFile` of a file that can be opened. -/
def storeToFile (wlen : ℕ → ℕ → ℤ) (sz : BitVec 32) : Option ℤ := writeFile wlen sz.toInt

/-- `rtw_store_to_file`. -/
def rtwStoreToFile (wlen : ℕ → ℕ → ℤ) (sz : BitVec 32) : Option ℕ :=
  (storeToFile wlen sz).map fun ret => if 0 ≤ ret then ret.toNat else 0

/-- The file after its first bytes are written.  It is opened without `O_TRUNC`. -/
def overwritten (old text : List UInt8) : List UInt8 := text ++ old.drop text.length

/-- `rtw_vmalloc`: there is memory, and some of it is asked for. -/
def rtwVmalloc (memory : Bool) (sz : ℕ) : Bool := memory && sz != 0

/-- How a file that can be read is read: each call reads some of the bytes that it is asked for and
that are left. -/
structure Reader (file : List UInt8) where
  rlen : ℕ → ℕ → ℤ
  nonneg : ∀ pos n, 0 ≤ rlen pos n
  le : ∀ pos n, rlen pos n ≤ n
  le_left : ∀ pos n, pos ≤ file.length → rlen pos n ≤ file.length - pos
  pos : ∀ pos n, 0 < n → pos < file.length → 0 < rlen pos n

/-- How a file that can be written is written: each call writes some of the bytes. -/
structure Writer where
  wlen : ℕ → ℕ → ℤ
  le : ∀ pos n, wlen pos n ≤ n
  pos : ∀ pos n, 0 < n → 0 < wlen pos n

/-- All that is left is read at once. -/
def Reader.whole (file : List UInt8) : Reader file where
  rlen pos n := min n (file.length - pos : ℕ)
  nonneg pos n := by omega
  le pos n := by omega
  le_left pos n h := by omega
  pos pos n h h' := by omega

/-- All is written at once. -/
def Writer.whole : Writer where
  wlen _ n := n
  le _ _ := le_rfl
  pos _ _ h := Int.natCast_pos.2 h

variable {rlen : ℕ → ℕ → ℤ} {len : ℤ} {total sum k : ℕ} {file old text : List UInt8}

/-- The loop ends when it can go no further. -/
lemma run_ioPass (htotal : total ≤ len.toNat)
    (hle : ∀ sum ≤ total, rlen sum (len.toNat - sum) ≤ total - sum)
    (hpos : ∀ sum < total, 0 < rlen sum (len.toNat - sum))
    (hend : total < len.toNat → 0 ≤ rlen total (len.toNat - total)) (hsum : sum ≤ total)
    (hk : total - sum < k) : Loop.run (ioPass rlen len) k sum = some (total : ℤ) := by
  induction k generalizing sum with
  | zero => omega
  | succ k ih =>
      have hbound := hle sum hsum
      rcases hsum.eq_or_lt with rfl | hlt
      · have hpass : ioPass rlen len sum = .inl (sum : ℤ) := by
          rw [ioPass]
          split
          · have hnonneg := hend (by omega)
            show (if 0 < rlen sum (len.toNat - sum) then _ else _) = _
            rw [if_neg (by omega), if_neg (by omega)]
          · rfl
        rw [Loop.run, hpass]
      · have hstep := hpos sum hlt
        have hpass : ioPass rlen len sum =
            .inr (sum + (rlen sum (len.toNat - sum)).toNat) := by
          rw [ioPass, if_pos (by omega)]
          exact if_pos hstep
        rw [Loop.run, hpass]
        exact ih (by omega) (by omega)

/-- As many bytes are read as are asked for, or as there are. -/
lemma Reader.readFile (io : Reader file) (len : ℤ) :
    Osdep.readFile io.rlen len = some ((min len.toNat file.length : ℕ) : ℤ) := by
  refine run_ioPass (by omega) (fun sum hsum => ?_) (fun sum hsum => ?_) (fun _ => io.nonneg _ _)
    (by omega) (by omega)
  · have hle := io.le sum (len.toNat - sum)
    have hleft := io.le_left sum (len.toNat - sum) (by omega)
    omega
  · exact io.pos sum _ (by omega) (by omega)

/-- All bytes are written. -/
lemma Writer.writeFile (io : Writer) (len : ℤ) :
    Osdep.writeFile io.wlen len = some (len.toNat : ℤ) := by
  refine run_ioPass le_rfl (fun sum hsum => ?_) (fun sum hsum => ?_)
    (fun hlt => absurd hlt (lt_irrefl _)) (Nat.zero_le _) (by omega)
  · have hle := io.le sum (len.toNat - sum)
    omega
  · exact io.pos sum _ (by omega)

/-- How much is read of a file if its size is taken to be `sz`. -/
lemma Reader.rtwRetrieveFromFile (io : Reader file) (sz : BitVec 32) :
    Osdep.rtwRetrieveFromFile io.rlen sz = some (min sz.toInt.toNat file.length) := by
  rw [Osdep.rtwRetrieveFromFile, retriveFromFile, io.readFile, Option.map_some,
    if_pos (Int.natCast_nonneg _), Int.toNat_natCast]

lemma Writer.rtwStoreToFile (io : Writer) (sz : BitVec 32) :
    Osdep.rtwStoreToFile io.wlen sz = some sz.toInt.toNat := by
  rw [Osdep.rtwStoreToFile, storeToFile, io.writeFile, Option.map_some,
    if_pos (Int.natCast_nonneg _), Int.toNat_natCast]

/-- An empty file is readable only if the pointer to it looks like no error. -/
lemma Reader.isFileReadable (io : Reader file) (fp : BitVec 64) :
    Osdep.isFileReadable fp io.rlen = some (if file = [] then fp.setWidth 32 else 0) := by
  have hlen := file.length_eq_zero_iff
  rw [Osdep.isFileReadable, io.readFile, Option.map_some]
  by_cases hfile : file = []
  · rw [if_pos hfile, if_pos]
    have hzero := hlen.2 hfile
    omega
  · rw [if_neg hfile, if_neg]
    have hpos := List.length_pos_iff.2 hfile
    omega

end Rtl8723du.Osdep
