import Rtl8723du.Crypto.GfMult

/-!
# AES-GCM

`aes_gcm_ae` and `aes_gcm_ad` over a block cipher `aesEncrypt`.  Decryption succeeds on exactly what
encryption gives (`aesGcmAd_eq_some_iff`), and the value that the tag is made from is that of a
polynomial at the hash key (`toRing_aesGcmGhash`).
-/

namespace Rtl8723du.Crypto

open Lib Lib.Cipher Polynomial

/-- `inc32`. -/
def inc32 (block : AesBlock) : AesBlock :=
  aesBlockOf (block.toList.take 12 ++ wpaPutBe32 ((wpaGetBe32 block 12 + 1) % 2 ^ 32))

/-- `WPA_PUT_BE64`. -/
def wpaPutBe64 (val : ℕ) : List UInt8 := wpaPutBe32 (val / 2 ^ 32) ++ wpaPutBe32 (val % 2 ^ 32)

/-- `ghash`. -/
def ghash (h : AesBlock) (x : List UInt8) (y : AesBlock) : AesBlock :=
  let m := x.length / 16
  let y := (List.range m).foldl
    (fun y i => gfMult (xorAesBlock y (aesBlockOf (x.drop (16 * i)))) h) y
  if x.length % 16 = 0 then y
  else gfMult (xorAesBlock y (aesBlockOf (x.drop (16 * m)))) h

variable (aesEncrypt : AesBlock → AesBlock)

/-- A full block of `aes_gctr`: the counter block and what has been written. -/
def aesGctrBlock (x : List UInt8) (s : AesBlock × List UInt8) (i : ℕ) : AesBlock × List UInt8 :=
  (inc32 s.1, s.2 ++ (xorAesBlock (aesEncrypt s.1) (aesBlockOf (x.drop (16 * i)))).toList)

/-- `aes_gctr`. -/
def aesGctr (icb : AesBlock) (x : List UInt8) : List UInt8 :=
  let n := x.length / 16
  let s := (List.range n).foldl (aesGctrBlock aesEncrypt x) (icb, [])
  s.2 ++ List.zipWith (· ^^^ ·) (x.drop (16 * n)) (aesEncrypt s.1).toList

/-- The hash key of `aes_gcm_init_hash_subkey`. -/
def aesGcmInitHashSubkey : AesBlock := aesEncrypt (aesBlockOf [])

/-- `aes_gcm_prepare_j0`. -/
def aesGcmPrepareJ0 (iv : List UInt8) (h : AesBlock) : AesBlock :=
  if iv.length = 12 then aesBlockOf (iv ++ [0, 0, 0, 1])
  else ghash h (wpaPutBe64 0 ++ wpaPutBe64 (iv.length * 8)) (ghash h iv (aesBlockOf []))

/-- `aes_gcm_gctr`. -/
def aesGcmGctr (j0 : AesBlock) (inp : List UInt8) : List UInt8 := aesGctr aesEncrypt (inc32 j0) inp

/-- `len_buf` of `aes_gcm_ghash`. -/
def aesGcmLengths (aad crypt : List UInt8) : List UInt8 :=
  wpaPutBe64 (aad.length * 8) ++ wpaPutBe64 (crypt.length * 8)

/-- `aes_gcm_ghash`. -/
def aesGcmGhash (h : AesBlock) (aad crypt : List UInt8) : AesBlock :=
  ghash h (aesGcmLengths aad crypt) (ghash h crypt (ghash h aad (aesBlockOf [])))

/-- The tag of some encrypted data, `T`. -/
def aesGcmTag (iv aad crypt : List UInt8) : List UInt8 :=
  let h := aesGcmInitHashSubkey aesEncrypt
  aesGctr aesEncrypt (aesGcmPrepareJ0 iv h) (aesGcmGhash h aad crypt).toList

/-- `aes_gcm_ae`: the encrypted data and the tag. -/
def aesGcmAe (iv plain aad : List UInt8) : List UInt8 × List UInt8 :=
  let h := aesGcmInitHashSubkey aesEncrypt
  let crypt := aesGcmGctr aesEncrypt (aesGcmPrepareJ0 iv h) plain
  (crypt, aesGcmTag aesEncrypt iv aad crypt)

/-- `aes_gcm_ad`. -/
def aesGcmAd (iv crypt aad tag : List UInt8) : Option (List UInt8) :=
  let h := aesGcmInitHashSubkey aesEncrypt
  let plain := aesGcmGctr aesEncrypt (aesGcmPrepareJ0 iv h) crypt
  if tag.take 16 = aesGcmTag aesEncrypt iv aad crypt then some plain else none

/-- `aes_gmac`. -/
def aesGmac (iv aad : List UInt8) : List UInt8 := (aesGcmAe aesEncrypt iv [] aad).2

/-! ### The counter mode is a stream cipher -/

/-- The next byte of the keystream, by its position. -/
def gctrKeystream (icb : AesBlock) (j : ℕ) : UInt8 × ℕ :=
  ((aesEncrypt (inc32^[j / 16] icb)).byte (j % 16), j + 1)

variable {aesEncrypt}

lemma counter_aesGctrBlocks (icb : AesBlock) (x : List UInt8) (n : ℕ) :
    (List.range n).foldl (aesGctrBlock aesEncrypt x) (icb, []) =
      (inc32^[n] icb, ((List.range n).foldl (aesGctrBlock aesEncrypt x) (icb, [])).2) := by
  induction n with
  | zero => rfl
  | succ n ih =>
      rw [List.range_succ, List.foldl_append, List.foldl_cons, List.foldl_nil, aesGctrBlock, ih,
        Function.iterate_succ_apply']

lemma skip_gctrKeystream (icb : AesBlock) (j n : ℕ) :
    skip (gctrKeystream aesEncrypt icb) j n = j + n := by
  induction n generalizing j with
  | zero => rfl
  | succ n ih =>
      rw [skip, gctrKeystream, ih]
      omega

/-- A piece inside one block. -/
lemma stream_block (icb : AesBlock) (n k : ℕ) {bs : List UInt8} (hbs : k + bs.length ≤ 16) :
    stream (gctrKeystream aesEncrypt icb) (16 * n + k) bs =
      List.zipWith (· ^^^ ·) bs ((aesEncrypt (inc32^[n] icb)).toList.drop k) := by
  induction bs generalizing k with
  | nil => rfl
  | cons b bs ih =>
      have hk : k < 16 := by
        rw [List.length_cons] at hbs
        omega
      have hdiv : (16 * n + k) / 16 = n := by omega
      have hmod : (16 * n + k) % 16 = k := by omega
      have hlen : k < (aesEncrypt (inc32^[n] icb)).toList.length := by
        rw [Vector.length_toList]
        exact hk
      have hhead : (aesEncrypt (inc32^[n] icb)).byte k =
          (aesEncrypt (inc32^[n] icb)).toList[k] := List.getD_eq_getElem _ _ hlen
      have hrest := ih (k + 1) (by rw [List.length_cons] at hbs; omega)
      rw [stream, List.drop_eq_getElem_cons hlen, List.zipWith_cons_cons, gctrKeystream, hdiv, hmod,
        hhead]
      dsimp only
      rw [Nat.add_assoc, hrest]

lemma toList_xor_block (e : AesBlock) {bs : List UInt8} (hbs : 16 ≤ bs.length) :
    (xorAesBlock e (aesBlockOf bs)).toList = List.zipWith (· ^^^ ·) (bs.take 16) e.toList := by
  refine List.ext_getElem ?_ fun i hi hi' => ?_
  · rw [Vector.length_toList, List.length_zipWith, List.length_take, Vector.length_toList,
      Nat.min_eq_left hbs, Nat.min_self]
  · rw [Vector.length_toList] at hi
    rw [Vector.getElem_toList, getElem_xorAesBlock, getElem_aesBlockOf, List.getElem_zipWith,
      List.getElem_take, Vector.getElem_toList, UInt8.xor_comm,
      List.getD_eq_getElem _ _ (by omega)]

lemma aesGctrBlocks_eq_stream (icb : AesBlock) (x : List UInt8) {n : ℕ} (hn : 16 * n ≤ x.length) :
    ((List.range n).foldl (aesGctrBlock aesEncrypt x) (icb, [])).2 =
      stream (gctrKeystream aesEncrypt icb) 0 (x.take (16 * n)) := by
  induction n with
  | zero => rfl
  | succ n ih =>
      have hlen : (x.take (16 * n)).length = 16 * n := by
        rw [List.length_take, Nat.min_eq_left (by omega)]
      have hblock : ((x.drop (16 * n)).take 16).length ≤ 16 := List.length_take_le _ _
      rw [List.range_succ, List.foldl_append, List.foldl_cons, List.foldl_nil, aesGctrBlock,
        counter_aesGctrBlocks]
      dsimp only
      rw [ih (by omega), toList_xor_block _ (by rw [List.length_drop]; omega), Nat.mul_add,
        Nat.mul_one, List.take_add, stream_append, hlen, skip_gctrKeystream, Nat.zero_add]
      congr 1
      exact (stream_block icb n 0 (by omega)).symm

lemma aesGctr_eq_stream (icb : AesBlock) (x : List UInt8) :
    aesGctr aesEncrypt icb x = stream (gctrKeystream aesEncrypt icb) 0 x := by
  have hn : 16 * (x.length / 16) ≤ x.length := Nat.mul_div_le x.length 16
  have hlen : (x.take (16 * (x.length / 16))).length = 16 * (x.length / 16) := by
    rw [List.length_take, Nat.min_eq_left hn]
  have hrest := @stream_block aesEncrypt icb (x.length / 16) 0 (x.drop (16 * (x.length / 16)))
    (by rw [List.length_drop]; omega)
  conv_rhs => rw [← List.take_append_drop (16 * (x.length / 16)) x]
  rw [aesGctr, stream_append, hlen, skip_gctrKeystream, Nat.zero_add]
  rw [aesGctrBlocks_eq_stream icb x hn, counter_aesGctrBlocks]
  exact congrArg _ hrest.symm

lemma length_aesGctr (icb : AesBlock) (x : List UInt8) :
    (aesGctr aesEncrypt icb x).length = x.length := by
  rw [aesGctr_eq_stream, length_stream]

lemma length_aesGcmTag (iv aad crypt : List UInt8) :
    (aesGcmTag aesEncrypt iv aad crypt).length = 16 := by
  rw [aesGcmTag, length_aesGctr, Vector.length_toList]

/-- GCM decrypts exactly what it has encrypted: the tag is that of the encrypted data. -/
theorem aesGcmAd_eq_some_iff {iv crypt aad tag plain : List UInt8} (htag : tag.length = 16) :
    aesGcmAd aesEncrypt iv crypt aad tag = some plain ↔
      aesGcmAe aesEncrypt iv plain aad = (crypt, tag) := by
  rw [aesGcmAd, aesGcmAe, Prod.mk.injEq, List.take_of_length_le htag.le]
  rw [aesGcmGctr, aesGcmGctr, aesGctr_eq_stream, aesGctr_eq_stream]
  constructor
  · intro h
    split_ifs at h with htagEq
    obtain rfl := Option.some.inj h
    rw [stream_stream]
    exact ⟨rfl, htagEq.symm⟩
  · rintro ⟨rfl, rfl⟩
    rw [if_pos rfl, stream_stream]

/-! ### The hash is the value of a polynomial -/

/-- The polynomial with some blocks as its coefficients, the first one that of the highest power;
its constant term is zero. -/
noncomputable def hashPoly : List AesBlock → (AdjoinRoot gcmPoly)[X]
  | [] => 0
  | b :: bs => C (toRing b) * X ^ (bs.length + 1) + hashPoly bs

lemma ghash_eq_foldl (h : AesBlock) (x : List UInt8) (y : AesBlock) :
    ghash h x y = (aesBlocks x).foldl (fun y b => gfMult (xorAesBlock y b) h) y := by
  rw [ghash, aesBlocks, List.foldl_map]
  by_cases hrest : x.length % 16 = 0
  · have hn : (x.length + 15) / 16 = x.length / 16 := by omega
    rw [if_pos hrest, hn]
  · have hn : (x.length + 15) / 16 = x.length / 16 + 1 := by omega
    rw [if_neg hrest, hn, List.range_succ, List.foldl_append]
    rfl

lemma toRing_foldl (h y : AesBlock) (bs : List AesBlock) :
    toRing (bs.foldl (fun y b => gfMult (xorAesBlock y b) h) y) =
      toRing y * toRing h ^ bs.length + (hashPoly bs).eval (toRing h) := by
  induction bs generalizing y with
  | nil => rw [List.foldl_nil, hashPoly, eval_zero, add_zero, List.length_nil, pow_zero, mul_one]
  | cons b bs ih =>
      rw [List.foldl_cons, ih, toRing_gfMult, toRing_xorAesBlock, hashPoly, eval_add, eval_mul,
        eval_C, eval_pow, eval_X, List.length_cons]
      ring

lemma aesBlocks_lengths (aad crypt : List UInt8) :
    aesBlocks (aesGcmLengths aad crypt) = [aesBlockOf (aesGcmLengths aad crypt)] := by
  have hlen : (aesGcmLengths aad crypt).length = 16 := rfl
  rw [aesBlocks, hlen]
  rfl

/-- What the tag is made from is the value at the hash key of the polynomial whose coefficients are
the blocks of the additional data, those of the encrypted data and the block of the lengths. -/
theorem toRing_aesGcmGhash (h : AesBlock) (aad crypt : List UInt8) :
    toRing (aesGcmGhash h aad crypt) =
      (hashPoly (aesBlocks aad ++ aesBlocks crypt ++ [aesBlockOf (aesGcmLengths aad crypt)])).eval
        (toRing h) := by
  rw [aesGcmGhash, ghash_eq_foldl, ghash_eq_foldl, ghash_eq_foldl, aesBlocks_lengths,
    ← List.foldl_append, ← List.foldl_append, toRing_foldl, toRing_nil, zero_mul, zero_add,
    List.append_assoc]

end Rtl8723du.Crypto
