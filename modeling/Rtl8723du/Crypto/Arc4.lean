import Rtl8723du.Lib.Bytes
import Rtl8723du.Lib.Cipher

/-!
# RC4 and the ICV

`arcfour_init` and `arcfour_encrypt`, the CRC-32 that WEP and TKIP use as the ICV, and the
encryption of a body with its ICV.
-/

namespace Rtl8723du.Crypto

open Lib Lib.Bytes Lib.Cipher

/-- `struct arc4context`; the indices are below 256. -/
structure Arc4Context where
  x : UInt8
  y : UInt8
  state : Vector UInt8 256

/-- `state[i]`. -/
def Arc4Context.at (c : Arc4Context) (i : UInt8) : UInt8 := c.state.get ⟨i.toNat, i.toNat_lt⟩

/-- `state[i] = v`. -/
def Arc4Context.set (c : Arc4Context) (i v : UInt8) : Arc4Context :=
  { c with state := c.state.set i.toNat v i.toNat_lt }

/-- A turn of the loop of `arcfour_init`, with `stateindex`. -/
def arcfourInitTurn (key : List UInt8) (cs : Arc4Context × UInt8) (counter : ℕ) :
    Arc4Context × UInt8 :=
  let (c, stateindex) := cs
  let i := UInt8.ofNat counter
  let t := c.at i
  let stateindex := stateindex + key.getD (counter % key.length) 0 + t
  ((c.set stateindex t).set i (c.at stateindex), stateindex)

/-- `arcfour_init`; the key is not empty. -/
def arcfourInit (key : List UInt8) : Arc4Context :=
  ((List.range 256).foldl (arcfourInitTurn key)
    (⟨0, 0, Vector.ofFn fun i => UInt8.ofNat i⟩, 0)).1

/-- `arcfour_byte`. -/
def arcfourByte (c : Arc4Context) : UInt8 × Arc4Context :=
  let x := c.x + 1
  let sx := c.at x
  let y := sx + c.y
  let sy := c.at y
  let c := (({ c with x, y } : Arc4Context).set y sx).set x sy
  (c.at (sx + sy), c)

/-- `arcfour_encrypt`. -/
def arcfourEncrypt (c : Arc4Context) (src : List UInt8) : List UInt8 := stream arcfourByte c src

/-! ### The ICV -/

/-- `crc32_reverseBit`. -/
def crc32ReverseBit (data : UInt8) : UInt8 :=
  ((data <<< (7 : UInt8)) &&& 0x80) ||| ((data <<< (5 : UInt8)) &&& 0x40) |||
    ((data <<< (3 : UInt8)) &&& 0x20) ||| ((data <<< (1 : UInt8)) &&& 0x10) |||
    ((data >>> (1 : UInt8)) &&& 0x08) ||| ((data >>> (3 : UInt8)) &&& 0x04) |||
    ((data >>> (5 : UInt8)) &&& 0x02) ||| ((data >>> (7 : UInt8)) &&& 0x01)

/-- The bits of a word in the opposite order, as `crc32_init` writes an entry. -/
def crc32Reverse (c : UInt32) : UInt32 :=
  (crc32ReverseBit (c >>> 24).toUInt8).toUInt32 |||
    (crc32ReverseBit (c >>> 16).toUInt8).toUInt32 <<< 8 |||
    (crc32ReverseBit (c >>> 8).toUInt8).toUInt32 <<< 16 |||
    (crc32ReverseBit c.toUInt8).toUInt32 <<< 24

/-- An entry of `crc32_table`. -/
def crc32Table (i : UInt8) : UInt32 :=
  crc32Reverse
    ((List.range 8).foldl
      (fun c _ => if c &&& 0x80000000 = 0 then c <<< 1 else (c <<< 1) ^^^ 0x04c11db7)
      ((crc32ReverseBit i).toUInt32 <<< 24))

/-- `getcrc32`. -/
def getcrc32 (buf : List UInt8) : UInt32 :=
  ~~~buf.foldl (fun crc b => crc32Table (crc.toUInt8 ^^^ b) ^^^ (crc >>> 8)) 0xffffffff

/-- The check value of CRC-32. -/
example : getcrc32 [0x31, 0x32, 0x33, 0x34, 0x35, 0x36, 0x37, 0x38, 0x39] = 0xcbf43926 := by
  decide +kernel

/-- The four bytes of the ICV of a body. -/
def icvOf (payload : List UInt8) : List UInt8 := leBytes 4 (getcrc32 payload).toNat

@[simp] lemma length_icvOf (payload : List UInt8) : (icvOf payload).length = 4 :=
  length_leBytes 4 _

/-- Without a body the ICV is zero. -/
lemma icvOf_nil : icvOf [] = [0, 0, 0, 0] := by decide +kernel

/-! ### A body with its ICV -/

/-- The body of a frame that is encrypted with an RC4 key: the data and their ICV. -/
def arcfourSeal (rc4key data : List UInt8) : List UInt8 :=
  sealIcv arcfourByte (arcfourInit rc4key) icvOf data

/-- A decrypted body that ends with its ICV. -/
def IcvVerified (body : List UInt8) : Prop := Carries icvOf body

instance (body : List UInt8) : Decidable (IcvVerified body) :=
  if h : 4 ≤ body.length then decidable_of_iff _ (carries_iff_drop length_icvOf h).symm
  else isFalse fun hc => h (hc.le_length length_icvOf)

@[simp] lemma length_arcfourEncrypt (c : Arc4Context) (src : List UInt8) :
    (arcfourEncrypt c src).length = src.length := length_stream _ _ _

/-- The ICV verifies after decryption exactly if the body was encrypted with its ICV. -/
lemma icvVerified_arcfourEncrypt_iff (rc4key body : List UInt8) :
    IcvVerified (arcfourEncrypt (arcfourInit rc4key) body) ↔
      ∃ data, body = arcfourSeal rc4key data :=
  carries_stream_iff _ _ _ _

end Rtl8723du.Crypto
