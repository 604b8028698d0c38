import Mathlib
import Rtl8723du.Crypto.AesCcm
import Rtl8723du.Lib.BitPoly

/-!
# The product of blocks

`gf_mult` of `core/crypto/aes-gcm.c` shifts and adds the bits of two blocks.  A block is an element
of the ring of the polynomials over the bits modulo `x^128 + x^7 + x^2 + x + 1`, the upper bit of
its first byte the constant term; different blocks are different elements, and `gf_mult` is the
product (`gfMult_eq_iff`).
-/

namespace Rtl8723du.Crypto

open Lib Lib.BitPoly Polynomial

/-- Byte `i` of a block. -/
def AesBlock.byte (v : AesBlock) (i : ℕ) : UInt8 := v.toList.getD i 0

/-- `WPA_GET_BE32`. -/
def wpaGetBe32 (v : AesBlock) (off : ℕ) : ℕ :=
  2 ^ 24 * (v.byte off).toNat + 2 ^ 16 * (v.byte (off + 1)).toNat +
    2 ^ 8 * (v.byte (off + 2)).toNat + (v.byte (off + 3)).toNat

/-- `WPA_PUT_BE32`. -/
def wpaPutBe32 (val : ℕ) : List UInt8 :=
  [UInt8.ofNat (val / 2 ^ 24), UInt8.ofNat (val / 2 ^ 16), UInt8.ofNat (val / 2 ^ 8),
    UInt8.ofNat val]

/-- A word of `shift_right_block`, with the last bit of the byte before it. -/
def shiftRightWord (v : AesBlock) (off : ℕ) (before : Bool) : ℕ :=
  wpaGetBe32 v off >>> 1 ||| if before then 0x80000000 else 0

/-- `shift_right_block`. -/
def shiftRightBlock (v : AesBlock) : AesBlock :=
  aesBlockOf (wpaPutBe32 (shiftRightWord v 0 false) ++
    wpaPutBe32 (shiftRightWord v 4 ((v.byte 3).toNat.testBit 0)) ++
    wpaPutBe32 (shiftRightWord v 8 ((v.byte 7).toNat.testBit 0)) ++
    wpaPutBe32 (shiftRightWord v 12 ((v.byte 11).toNat.testBit 0)))

/-- `v[0] ^= 0xe1`. -/
def xorR (v : AesBlock) : AesBlock := xorAesBlock v (aesBlockOf [0xe1])

/-- A pass of the inner loop of `gf_mult`: `Z` and `V`. -/
def gfMultStep (x : AesBlock) (i j : ℕ) (s : AesBlock × AesBlock) : AesBlock × AesBlock :=
  (if (x.byte i).toNat.testBit (7 - j) then xorAesBlock s.1 s.2 else s.1,
    if (s.2.byte 15).toNat.testBit 0 then xorR (shiftRightBlock s.2) else shiftRightBlock s.2)

/-- `gf_mult`. -/
def gfMult (x y : AesBlock) : AesBlock :=
  ((List.range 16).foldl
    (fun s i => (List.range 8).foldl (fun s j => gfMultStep x i j s) s) (aesBlockOf [], y)).1

/-! ### Bits -/

/-- Bit `i` of a block, from the upper bit of the first byte on. -/
def AesBlock.bit (v : AesBlock) (i : ℕ) : Bool := (v.byte (i / 8)).toNat.testBit (7 - i % 8)

/-- The number that a byte string spells, highest byte first. -/
def beNat : List UInt8 → ℕ
  | [] => 0
  | b :: bs => 2 ^ (8 * bs.length) * b.toNat + beNat bs

lemma beNat_lt (bs : List UInt8) : beNat bs < 2 ^ (8 * bs.length) := by
  induction bs with
  | nil => exact Nat.one_pos
  | cons b bs ih =>
      have hb := b.toNat_lt
      calc 2 ^ (8 * bs.length) * b.toNat + beNat bs
          < 2 ^ (8 * bs.length) * (b.toNat + 1) := by rw [Nat.mul_add, Nat.mul_one]; omega
        _ ≤ 2 ^ (8 * bs.length) * 2 ^ 8 := Nat.mul_le_mul_left _ (by omega)
        _ = 2 ^ (8 * (b :: bs).length) := by
            rw [← Nat.pow_add, List.length_cons, Nat.mul_add]

lemma testBit_beNat {bs : List UInt8} {p : ℕ} (hp : p < 8 * bs.length) :
    (beNat bs).testBit p = (bs.getD (bs.length - 1 - p / 8) 0).toNat.testBit (p % 8) := by
  induction bs with
  | nil => exact absurd hp (Nat.not_lt_zero p)
  | cons b bs ih =>
      rw [beNat, Nat.testBit_two_pow_mul_add _ (beNat_lt bs)]
      rw [List.length_cons] at hp ⊢
      split_ifs with hlow
      · have hindex : bs.length + 1 - 1 - p / 8 = (bs.length - 1 - p / 8) + 1 := by omega
        rw [ih hlow, hindex, List.getD_cons_succ]
      · have hindex : bs.length + 1 - 1 - p / 8 = 0 := by omega
        have hrest : p - 8 * bs.length = p % 8 := by omega
        rw [hindex, List.getD_cons_zero, hrest]

lemma testBit_beNat_block (v : AesBlock) {i : ℕ} (hi : i < 128) :
    (beNat v.toList).testBit (127 - i) = v.bit i := by
  have hlen : v.toList.length = 16 := Vector.length_toList
  have hindex : 16 - 1 - (127 - i) / 8 = i / 8 := by omega
  have hbit : (127 - i) % 8 = 7 - i % 8 := by omega
  rw [testBit_beNat (by rw [hlen]; omega), hlen, hindex, hbit]
  rfl

lemma byte_aesBlockOf (bs : List UInt8) {i : ℕ} (hi : i < 16) :
    (aesBlockOf bs).byte i = bs.getD i 0 := by
  rw [AesBlock.byte, List.getD_eq_getElem _ _ (by rw [Vector.length_toList]; exact hi),
    Vector.getElem_toList, getElem_aesBlockOf]

lemma byte_xorAesBlock (a b : AesBlock) {i : ℕ} (hi : i < 16) :
    (xorAesBlock a b).byte i = a.byte i ^^^ b.byte i := by
  rw [AesBlock.byte, AesBlock.byte, AesBlock.byte]
  rw [List.getD_eq_getElem _ _ (by rw [Vector.length_toList]; exact hi),
    List.getD_eq_getElem _ _ (by rw [Vector.length_toList]; exact hi),
    List.getD_eq_getElem _ _ (by rw [Vector.length_toList]; exact hi), Vector.getElem_toList,
    Vector.getElem_toList, Vector.getElem_toList, getElem_xorAesBlock]

lemma bit_xorAesBlock (a b : AesBlock) {i : ℕ} (hi : i < 128) :
    (xorAesBlock a b).bit i = (a.bit i ^^ b.bit i) := by
  rw [AesBlock.bit, byte_xorAesBlock a b (by omega), UInt8.toNat_xor, Nat.testBit_xor]
  rfl

/-- The bytes of a block, one by one. -/
lemma toList_eq (v : AesBlock) : v.toList = (List.range 16).map v.byte := by
  have hlen : v.toList.length = 16 := Vector.length_toList
  refine List.ext_getElem (by rw [hlen, List.length_map, List.length_range]) fun i hi hi' => ?_
  rw [List.getElem_map, List.getElem_range, AesBlock.byte, List.getD_eq_getElem]

lemma beNat_block (v : AesBlock) :
    beNat v.toList = 2 ^ 96 * wpaGetBe32 v 0 + 2 ^ 64 * wpaGetBe32 v 4 +
      2 ^ 32 * wpaGetBe32 v 8 + wpaGetBe32 v 12 := by
  have hrange : List.range 16 = [0, 1, 2, 3, 4, 5, 6, 7, 8, 9, 10, 11, 12, 13, 14, 15] := by decide
  rw [toList_eq, hrange]
  simp only [List.map_cons, List.map_nil, beNat, List.length_cons, List.length_nil, wpaGetBe32,
    Nat.reduceAdd, Nat.reduceMul, Nat.reducePow]
  ring

lemma wpaGetBe32_lt (v : AesBlock) (off : ℕ) : wpaGetBe32 v off < 2 ^ 32 := by
  have h0 := (v.byte off).toNat_lt
  have h1 := (v.byte (off + 1)).toNat_lt
  have h2 := (v.byte (off + 2)).toNat_lt
  have h3 := (v.byte (off + 3)).toNat_lt
  rw [wpaGetBe32]
  omega

lemma shiftRightWord_eq (v : AesBlock) (off : ℕ) (before : Bool) :
    shiftRightWord v off before = wpaGetBe32 v off / 2 + if before then 2 ^ 31 else 0 := by
  have hlt := wpaGetBe32_lt v off
  rw [shiftRightWord, Nat.shiftRight_eq_div_pow, pow_one]
  cases before with
  | false => rw [if_neg Bool.false_ne_true, if_neg Bool.false_ne_true, Nat.or_zero, Nat.add_zero]
  | true =>
      have hhalf : wpaGetBe32 v off / 2 < 2 ^ 31 := by omega
      have hor := Nat.two_pow_add_eq_or_of_lt hhalf 1
      rw [Nat.mul_one] at hor
      rw [if_pos rfl, if_pos rfl, Nat.or_comm, Nat.add_comm, hor]

/-- A word that is put into a block is read back. -/
lemma wpaGetBe32_put {front back : List UInt8} {val off : ℕ} (hoff : front.length = off)
    (hroom : off + 4 ≤ 16) (hval : val < 2 ^ 32) :
    wpaGetBe32 (aesBlockOf (front ++ wpaPutBe32 val ++ back)) off = val := by
  have hbyte : ∀ k < 4, (aesBlockOf (front ++ wpaPutBe32 val ++ back)).byte (off + k) =
      (wpaPutBe32 val).getD k 0 := by
    intro k hk
    have hlen : (wpaPutBe32 val).length = 4 := rfl
    rw [byte_aesBlockOf _ (by omega), List.append_assoc, List.getD_append_right _ _ _ _ (by omega),
      hoff, Nat.add_sub_cancel_left, List.getD_append _ _ _ _ (by omega)]
  rw [wpaGetBe32, hbyte 1 (by omega), hbyte 2 (by omega), hbyte 3 (by omega),
    show (aesBlockOf (front ++ wpaPutBe32 val ++ back)).byte off = _ from hbyte 0 (by omega)]
  simp only [wpaPutBe32, List.getD_cons_zero, List.getD_cons_succ, UInt8.toNat_ofNat']
  omega

lemma shiftRightWord_lt (v : AesBlock) (off : ℕ) (before : Bool) :
    shiftRightWord v off before < 2 ^ 32 := by
  have hlt := wpaGetBe32_lt v off
  rw [shiftRightWord_eq]
  split_ifs <;> omega

/-- The last bit of a word. -/
lemma testBit_zero_byte (v : AesBlock) (off : ℕ) :
    (v.byte (off + 3)).toNat.testBit 0 = decide (wpaGetBe32 v off % 2 = 1) := by
  rw [Nat.testBit_zero, wpaGetBe32]
  exact decide_eq_decide.2 (by omega)

lemma beNat_shiftRightBlock (v : AesBlock) :
    beNat (shiftRightBlock v).toList = beNat v.toList / 2 := by
  have h0 : wpaGetBe32 (shiftRightBlock v) 0 = shiftRightWord v 0 false := by
    rw [shiftRightBlock, List.append_assoc, List.append_assoc]
    exact @wpaGetBe32_put [] _ _ 0 rfl (by decide) (shiftRightWord_lt v 0 false)
  have h4 : wpaGetBe32 (shiftRightBlock v) 4 =
      shiftRightWord v 4 ((v.byte 3).toNat.testBit 0) := by
    rw [shiftRightBlock, List.append_assoc]
    exact wpaGetBe32_put rfl (by decide) (shiftRightWord_lt v 4 _)
  have h8 : wpaGetBe32 (shiftRightBlock v) 8 =
      shiftRightWord v 8 ((v.byte 7).toNat.testBit 0) :=
    wpaGetBe32_put rfl (by decide) (shiftRightWord_lt v 8 _)
  have h12 : wpaGetBe32 (shiftRightBlock v) 12 =
      shiftRightWord v 12 ((v.byte 11).toNat.testBit 0) := by
    rw [shiftRightBlock, ← List.append_nil (_ ++ wpaPutBe32 (shiftRightWord v 12 _))]
    exact wpaGetBe32_put rfl (by decide) (shiftRightWord_lt v 12 _)
  rw [shiftRightWord_eq, testBit_zero_byte v 0] at h4
  rw [shiftRightWord_eq, testBit_zero_byte v 4] at h8
  rw [shiftRightWord_eq, testBit_zero_byte v 8] at h12
  have hcarry : ∀ w : ℕ, (if w % 2 = 1 then 2 ^ 31 else 0) = 2 ^ 31 * (w % 2) := by
    intro w
    rcases Nat.mod_two_eq_zero_or_one w with h | h <;> rw [h] <;> rfl
  simp only [decide_eq_true_eq, hcarry] at h4 h8 h12
  rw [beNat_block, beNat_block, h0, h4, h8, h12, shiftRightWord_eq, if_neg Bool.false_ne_true]
  omega

lemma bit_shiftRightBlock_zero (v : AesBlock) : (shiftRightBlock v).bit 0 = false := by
  have hlt : beNat v.toList < 2 ^ 128 := by
    have h := beNat_lt v.toList
    rwa [Vector.length_toList] at h
  rw [← testBit_beNat_block _ (by decide), beNat_shiftRightBlock]
  exact Nat.testBit_lt_two_pow (by omega)

lemma bit_shiftRightBlock_succ (v : AesBlock) {i : ℕ} (hi : i < 127) :
    (shiftRightBlock v).bit (i + 1) = v.bit i := by
  rw [← testBit_beNat_block _ (by omega), ← testBit_beNat_block _ (by omega),
    beNat_shiftRightBlock, Nat.testBit_div_two]
  congr 1
  omega

/-! ### In the ring -/

/-- `x^128 + x^7 + x^2 + x + 1`. -/
noncomputable def gcmPoly : (ZMod 2)[X] := X ^ 128 + (X ^ 7 + X ^ 2 + X + 1)

lemma monic_gcmPoly : gcmPoly.Monic := by
  unfold gcmPoly
  refine monic_X_pow_add ?_
  compute_degree!

lemma natDegree_gcmPoly : gcmPoly.natDegree = 128 := by
  unfold gcmPoly
  compute_degree!

/-- A block as an element of the ring. -/
noncomputable def toRing (v : AesBlock) : AdjoinRoot gcmPoly :=
  value (AdjoinRoot.root gcmPoly) 128 v.bit

/-- What is carried out of the upper end comes back at the lower one. -/
lemma root_pow : AdjoinRoot.root gcmPoly ^ 128 =
    1 + AdjoinRoot.root gcmPoly + AdjoinRoot.root gcmPoly ^ 2 + AdjoinRoot.root gcmPoly ^ 7 := by
  have hdef : gcmPoly = X ^ 128 + (X ^ 7 + X ^ 2 + X + 1) := by
    unfold gcmPoly
    rfl
  have hself := congrArg (AdjoinRoot.mk gcmPoly) hdef
  rw [AdjoinRoot.mk_self] at hself
  simp only [map_add, map_pow, map_one, AdjoinRoot.mk_X] at hself
  have htwo := two_eq_zero gcmPoly
  linear_combination -hself - (1 + AdjoinRoot.root gcmPoly + AdjoinRoot.root gcmPoly ^ 2 +
    AdjoinRoot.root gcmPoly ^ 7) * htwo

lemma toRing_xorAesBlock (a b : AesBlock) : toRing (xorAesBlock a b) = toRing a + toRing b := by
  rw [toRing, toRing, toRing, ← value_xor (two_eq_zero gcmPoly)]
  exact value_congr fun i hi => bit_xorAesBlock a b hi

/-- The blocks are different elements. -/
lemma toRing_injective : Function.Injective toRing := by
  intro a b h
  rw [toRing, toRing, ← natDegree_gcmPoly] at h
  have hbit : ∀ i < 128, a.bit i = b.bit i := fun i hi =>
    eq_of_value_root_eq monic_gcmPoly h (natDegree_gcmPoly.symm ▸ hi)
  have hbyte : ∀ k < 16, a.byte k = b.byte k := by
    intro k hk
    refine UInt8.toNat_inj.1 (Nat.eq_of_testBit_eq fun p => ?_)
    rcases Nat.lt_or_ge p 8 with hp | hp
    · have h := hbit (8 * k + (7 - p)) (by omega)
      have hindex : (8 * k + (7 - p)) / 8 = k := by omega
      have hplace : 7 - (8 * k + (7 - p)) % 8 = p := by omega
      rwa [AesBlock.bit, AesBlock.bit, hindex, hplace] at h
    · have hpow : 2 ^ 8 ≤ 2 ^ p := Nat.pow_le_pow_right (by decide) hp
      rw [Nat.testBit_lt_two_pow (by have := (a.byte k).toNat_lt; omega),
        Nat.testBit_lt_two_pow (by have := (b.byte k).toNat_lt; omega)]
  refine Vector.toList_inj.1 ?_
  rw [toList_eq, toList_eq]
  exact List.map_congr_left fun k hk => hbyte k (List.mem_range.1 hk)

lemma bit_aesBlockOf_nil (i : ℕ) (hi : i < 128) : (aesBlockOf []).bit i = false := by
  rw [AesBlock.bit, byte_aesBlockOf _ (by omega), List.getD_nil]
  exact Nat.zero_testBit _

lemma toRing_nil : toRing (aesBlockOf []) = 0 := by
  rw [toRing, value_congr (d := fun _ => false) bit_aesBlockOf_nil,
    value_of_le (Nat.zero_le 128) fun _ _ => rfl]
  rfl

/-- The block that `gf_mult` calls `R`. -/
lemma toRing_reduction : toRing (aesBlockOf [0xe1]) =
    1 + AdjoinRoot.root gcmPoly + AdjoinRoot.root gcmPoly ^ 2 + AdjoinRoot.root gcmPoly ^ 7 := by
  have hfirst : ∀ i < 8, (aesBlockOf [0xe1]).bit i = (0xe1 : ℕ).testBit (7 - i) := by
    intro i hi
    rw [AesBlock.bit, byte_aesBlockOf _ (by omega), Nat.div_eq_of_lt hi, Nat.mod_eq_of_lt hi]
    rfl
  have hbits : ∀ i < 128, (aesBlockOf [0xe1]).bit i =
      (decide (i < 8) && (0xe1 : ℕ).testBit (7 - i)) := by
    intro i hi
    rcases Nat.lt_or_ge i 8 with hlt | hge
    · rw [hfirst i hlt, decide_eq_true hlt, Bool.true_and]
    · rw [AesBlock.bit, byte_aesBlockOf _ (by omega), decide_eq_false (by omega), Bool.false_and,
        List.getD_eq_default _ _ (by rw [List.length_singleton]; omega)]
      exact Nat.zero_testBit _
  rw [toRing, value_congr hbits, value_of_le (m := 8) (by decide) fun i hi => by
    rw [decide_eq_false (by omega), Bool.false_and]]
  simp [value, Finset.sum_range_succ, Nat.testBit]

lemma toRing_shiftRightBlock (v : AesBlock) :
    toRing (shiftRightBlock v) + (if v.bit 127 then AdjoinRoot.root gcmPoly ^ 128 else 0) =
      AdjoinRoot.root gcmPoly * toRing v :=
  value_shift (bit_shiftRightBlock_zero v) fun _ hi => bit_shiftRightBlock_succ v hi

/-- `V` is multiplied by `x`. -/
lemma toRing_step_snd (x : AesBlock) (i j : ℕ) (s : AesBlock × AesBlock) :
    toRing (gfMultStep x i j s).2 = AdjoinRoot.root gcmPoly * toRing s.2 := by
  have hlast : (s.2.byte 15).toNat.testBit 0 = s.2.bit 127 := rfl
  rw [gfMultStep, ← toRing_shiftRightBlock, hlast]
  dsimp only
  split_ifs
  · rw [xorR, toRing_xorAesBlock, toRing_reduction, root_pow]
  · rw [add_zero]

/-- A bit of the first factor is added. -/
lemma toRing_step_fst (x : AesBlock) {i j : ℕ} (hj : j < 8) (s : AesBlock × AesBlock) :
    toRing (gfMultStep x i j s).1 =
      toRing s.1 + if x.bit (8 * i + j) then toRing s.2 else 0 := by
  have hindex : (8 * i + j) / 8 = i := by omega
  have hplace : (8 * i + j) % 8 = j := by omega
  rw [gfMultStep, AesBlock.bit, hindex, hplace]
  dsimp only
  split_ifs
  · exact toRing_xorAesBlock s.1 s.2
  · rw [add_zero]

/-- After `n` bits of the first factor. -/
def MultInv (x y : AesBlock) (n : ℕ) (s : AesBlock × AesBlock) : Prop :=
  toRing s.1 = value (AdjoinRoot.root gcmPoly) n x.bit * toRing y ∧
    toRing s.2 = AdjoinRoot.root gcmPoly ^ n * toRing y

lemma MultInv.step {x y : AesBlock} {i j : ℕ} {s : AesBlock × AesBlock} (hj : j < 8)
    (h : MultInv x y (8 * i + j) s) : MultInv x y (8 * i + j + 1) (gfMultStep x i j s) := by
  refine ⟨?_, ?_⟩
  · rw [toRing_step_fst x hj, h.1, h.2, value_succ, add_mul, ite_mul, zero_mul]
  · rw [toRing_step_snd, h.2, pow_succ']
    ring

lemma MultInv.inner {x y : AesBlock} {i : ℕ} {s : AesBlock × AesBlock}
    (h : MultInv x y (8 * i) s) {n : ℕ} (hn : n ≤ 8) :
    MultInv x y (8 * i + n) ((List.range n).foldl (fun s j => gfMultStep x i j s) s) := by
  induction n with
  | zero => exact h
  | succ n ih =>
      rw [List.range_succ, List.foldl_append]
      exact (ih (by omega)).step hn

lemma MultInv.outer {x y : AesBlock} {s : AesBlock × AesBlock} (h : MultInv x y 0 s) (n : ℕ) :
    MultInv x y (8 * n) ((List.range n).foldl
      (fun s i => (List.range 8).foldl (fun s j => gfMultStep x i j s) s) s) := by
  induction n with
  | zero => exact h
  | succ n ih =>
      rw [List.range_succ (n := n), List.foldl_append]
      exact ih.inner le_rfl

/-- `gf_mult` is the product in the ring. -/
lemma toRing_gfMult (x y : AesBlock) : toRing (gfMult x y) = toRing x * toRing y := by
  have hstart : MultInv x y 0 (aesBlockOf [], y) := by
    refine ⟨?_, ?_⟩
    · rw [toRing_nil, value, Finset.range_zero, Finset.sum_empty, zero_mul]
    · rw [pow_zero, one_mul]
  exact (hstart.outer 16).1

/-- `gf_mult` gives the one block that is the product of both in the ring. -/
theorem gfMult_eq_iff (x y z : AesBlock) :
    gfMult x y = z ↔ toRing z = toRing x * toRing y := by
  rw [← toRing_gfMult, eq_comm]
  exact toRing_injective.eq_iff.symm

end Rtl8723du.Crypto
