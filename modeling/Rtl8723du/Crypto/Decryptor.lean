import Rtl8723du.Crypto.AesCcm
import Rtl8723du.Crypto.Arc4
import Rtl8723du.Crypto.TkipMix
import Rtl8723du.Mgmt.Protect

/-!
# Software decryption, byte by byte

`decryptor` with the routines of WEP, TKIP and CCMP on the bytes of the frame, where every access
to the frame is checked.  A frame that it returns has an integrity value that verifies, for TKIP
frames that are long enough and for CCMP; the ICV of a WEP frame is computed and not looked at.

AES itself and GCM are parameters.
-/

namespace Rtl8723du.Crypto

open Lib Lib.Bytes Lib.Cipher

/-- An access to a byte that is not of the frame. -/
inductive OutOfFrame
  | outOfFrame
deriving DecidableEq, Repr

/-- The keys and ciphers that the routines use besides those of `SecurityPriv`. -/
structure SwCrypto where
  /-- `aes_encrypt` under a key. -/
  aesEncrypt : List UInt8 → AesBlock → AesBlock
  /-- `aes_gcm_ad`. -/
  aesGcmAd (keyLen : ℕ) (key iv crypt aad tag : List UInt8) : Option (List UInt8)
  /-- The first `dot11DefKeylen` bytes of `dot11DefKey`, at most 13. -/
  dot11DefKey : Fin 4 → List UInt8

/-- The bytes of the frame at an offset.  As `u32` a negative length is more than any frame
has. -/
def bytesAt (f : RecvFrame) (off : ℕ) (len : ℤ) : Except OutOfFrame (List UInt8) :=
  if 0 ≤ len ∧ off + len.toNat ≤ f.rxData.length then .ok ((f.rxData.drop off).take len.toNat)
  else .error .outOfFrame

/-- The length of the encrypted body, `len - hdrlen - iv_len`. -/
def bodyLen (f : RecvFrame) : ℤ := (f.rxData.length : ℤ) - f.attrib.hdrlen - f.attrib.ivLen

/-- The frame with another body behind the IV. -/
def setBody (f : RecvFrame) (body : List UInt8) : RecvFrame :=
  { f with rxData := writeAt f.rxData (f.attrib.hdrlen + f.attrib.ivLen) body }

variable (e : SwCrypto)

/-- The RC4 key of a WEP frame: three bytes of the IV and the default key. -/
def wepkey (keyIndex : Fin 4) (iv : List UInt8) : List UInt8 := iv ++ e.dot11DefKey keyIndex

/-- `rtw_wep_decrypt`. -/
def rtwWepDecrypt (f : RecvFrame) : Except OutOfFrame RecvFrame := do
  let iv ← bytesAt f f.attrib.hdrlen 3
  let payload ← bytesAt f (f.attrib.hdrlen + f.attrib.ivLen) (bodyLen f)
  -- the ICV is calculated here, and not compared
  pure (setBody f (arcfourEncrypt (arcfourInit (wepkey e f.attrib.keyIndex iv)) payload))

/-- The key that `rtw_tkip_decrypt` takes. -/
def tkipKey (sec : SecurityPriv) (stainfo : Option MgmtPeer) (f : RecvFrame) :
    Option (List UInt8) :=
  match stainfo with
  | none => none
  | some stainfo =>
      if isMcast f.attrib.ra then
        if !sec.binstallGrpkey then none else some (sec.dot118021XGrpKey f.attrib.keyIndex)
      else some stainfo.dot118021xUncstKey

/-- The comparison at the end of `rtw_tkip_decrypt`: the CRC of the body but its last four bytes
against the last four bytes, which of a shorter body are not all its own. -/
def tkipIcvCompare (f : RecvFrame) : Except OutOfFrame Bool := do
  let length := bodyLen f
  let payload ← bytesAt f (f.attrib.hdrlen + f.attrib.ivLen) length
  let icv ← bytesAt f (f.attrib.hdrlen + f.attrib.ivLen + length - 4).toNat 4
  pure (icvOf (payload.take (length - 4).toNat) == icv)

/-- `rtw_tkip_decrypt`. -/
def rtwTkipDecrypt (sec : SecurityPriv) (stainfo : Option MgmtPeer) (f : RecvFrame) :
    Except OutOfFrame (Option RecvFrame) :=
  match tkipKey sec stainfo f with
  | none => .ok none
  | some prwskey => do
      let iv ← bytesAt f f.attrib.hdrlen 8
      let payload ← bytesAt f (f.attrib.hdrlen + f.attrib.ivLen) (bodyLen f)
      let rc4key := tkipRc4Key prwskey f.attrib.ta iv
      let decrypted := setBody f (arcfourEncrypt (arcfourInit rc4key) payload)
      let same ← tkipIcvCompare decrypted
      pure (if same then some decrypted else none)

/-- The length of the MIC of `ccmp_decrypt` and `ccmp_256_decrypt`. -/
def ccmpMicLen (encrypt : SecurityType) : ℕ := if encrypt = .ccmp256 then 16 else 8

/-- Where the part of the header ends that `ccmp_aad_nonce` and the one of GCMP read. -/
def aadEnd (hdr : List UInt8) : ℕ :=
  let fc := UInt16.ofNat (leAt hdr 0 2)
  24 + (if fc &&& 0x0300 == 0x0300 then 6 else 0) +
    (if fc &&& 0x000c == 0x0008 && fc &&& 0x0080 != 0 then 2 else 0)

/-- The ciphers for the functions of `core/rtw_recv.c`; the accesses are checked here. -/
def decryptFns : DecryptFns where
  aesCcmAd keyLen key nonce micLen crypt aad auth :=
    aesCcmAd (e.aesEncrypt (key.take keyLen)) micLen nonce crypt aad auth
  aesGcmAd := e.aesGcmAd
  rtwWepDecrypt _ f := (rtwWepDecrypt e f).toOption.getD f
  rtwTkipDecrypt sec stainfo f := (rtwTkipDecrypt sec stainfo f).toOption.join

/-- `rtw_aes_decrypt` and `rtw_gcmp_decrypt`; `minLen` is the length of the packet number and
of the MIC, below which they stop. -/
def rtwMicDecrypt (amsduSpp : Bool) (sec : SecurityPriv) (stainfo : Option MgmtPeer)
    (minLen : ℕ) (f : RecvFrame) : Except OutOfFrame (Option RecvFrame) :=
  match swDecryptKey sec stainfo f with
  | none => .ok none
  | some _ => do
      let data ← bytesAt f f.attrib.hdrlen (f.rxData.length - f.attrib.hdrlen)
      if data.length < minLen then pure none
      else
        let _ ← bytesAt f 0 (aadEnd f.rxData)
        pure (swMicDecrypt (decryptFns e) amsduSpp sec stainfo f)

/-- The decryption that `decryptor` chooses by the cipher. -/
def swDecrypt (amsduSpp : Bool) (sec : SecurityPriv) (stainfo : Option MgmtPeer)
    (f : RecvFrame) : Except OutOfFrame (Option RecvFrame) :=
  match f.attrib.encrypt with
  | .wep40 | .wep104 => (rtwWepDecrypt e f).map some
  | .tkip => rtwTkipDecrypt sec stainfo f
  | .aes | .ccmp256 =>
      rtwMicDecrypt e amsduSpp sec stainfo (8 + ccmpMicLen f.attrib.encrypt) f
  | .gcmp | .gcmp256 => rtwMicDecrypt e amsduSpp sec stainfo (8 + 16) f
  | _ => .ok (some f)

/-- The key id of the IV is noted. -/
def readKeyIndex (f : RecvFrame) : Except OutOfFrame RecvFrame :=
  if f.attrib.encrypt = .noPrivacy then .ok f
  else (bytesAt f (f.attrib.hdrlen + 3) 1).map fun _ => f.setKeyIndex

/-- The frame is marked as decrypted. -/
def markDecrypted (f : RecvFrame) : RecvFrame :=
  { f with attrib := { f.attrib with bdecrypted := true } }

/-- `decryptor`. -/
def decryptor (amsduSpp : Bool) (sec : SecurityPriv) (stainfo : Option MgmtPeer)
    (f : RecvFrame) : Except OutOfFrame (Option RecvFrame) :=
  (readKeyIndex f).bind fun f =>
    (if f.attrib.bdecrypted then .ok (some f) else swDecrypt e amsduSpp sec stainfo f).map
      (Option.map markDecrypted)

/-! ### Accesses -/

section Accesses

variable {f : RecvFrame} {off n : ℕ}

lemma bytesAt_of_le (h : off + n ≤ f.rxData.length) :
    bytesAt f off n = .ok ((f.rxData.drop off).take n) := by
  rw [bytesAt, if_pos ⟨Int.natCast_nonneg n, by simpa using h⟩, Int.toNat_natCast]

lemma bytesAt_of_lt (h : f.rxData.length < off + n) : bytesAt f off n = .error .outOfFrame := by
  rw [bytesAt, if_neg (by simpa using h)]

/-- The body is read as a whole. -/
lemma bytesAt_bodyLen (h : f.attrib.hdrlen + f.attrib.ivLen ≤ f.rxData.length) :
    bytesAt f (f.attrib.hdrlen + f.attrib.ivLen) (bodyLen f) =
      .ok (f.rxData.drop (f.attrib.hdrlen + f.attrib.ivLen)) := by
  obtain ⟨n, hn⟩ := Nat.exists_eq_add_of_le h
  have hlen : bodyLen f = (n : ℤ) := by
    rw [bodyLen]
    omega
  rw [hlen, bytesAt_of_le hn.ge, List.take_of_length_le]
  rw [List.length_drop]
  omega

/-- A frame that ends inside the IV is left. -/
lemma bytesAt_bodyLen_error (h : f.rxData.length < f.attrib.hdrlen + f.attrib.ivLen) :
    bytesAt f (f.attrib.hdrlen + f.attrib.ivLen) (bodyLen f) = .error .outOfFrame := by
  rw [bytesAt, if_neg]
  rintro ⟨hle, -⟩
  rw [bodyLen] at hle
  omega

variable {body : List UInt8}

/-- The frame with another body of the same length. -/
lemma rxData_setBody (hbody : f.rxData.length ≤ f.attrib.hdrlen + f.attrib.ivLen + body.length) :
    (setBody f body).rxData = f.rxData.take (f.attrib.hdrlen + f.attrib.ivLen) ++ body := by
  rw [setBody, writeAt, List.drop_of_length_le hbody, List.append_nil]

lemma drop_rxData_setBody (h : f.attrib.hdrlen + f.attrib.ivLen ≤ f.rxData.length)
    (hbody : f.rxData.length ≤ f.attrib.hdrlen + f.attrib.ivLen + body.length) :
    (setBody f body).rxData.drop (f.attrib.hdrlen + f.attrib.ivLen) = body := by
  rw [rxData_setBody hbody, List.drop_left' (by rw [List.length_take, Nat.min_eq_left h])]

end Accesses

/-! ### The routines -/

section Routines

variable {f : RecvFrame}

/-- The body of a WEP frame under the key that its IV names. -/
def wepDecrypted (f : RecvFrame) : List UInt8 :=
  arcfourEncrypt (arcfourInit (wepkey e f.attrib.keyIndex ((f.rxData.drop f.attrib.hdrlen).take 3)))
    (f.rxData.drop (f.attrib.hdrlen + f.attrib.ivLen))

/-- A WEP frame with its IV is decrypted, whatever its ICV is. -/
lemma rtwWepDecrypt_eq (hiv : f.attrib.ivLen = 4)
    (hlen : f.attrib.hdrlen + 4 ≤ f.rxData.length) :
    rtwWepDecrypt e f = .ok (setBody f (wepDecrypted e f)) := by
  have h3 : bytesAt f f.attrib.hdrlen 3 = .ok ((f.rxData.drop f.attrib.hdrlen).take 3) :=
    bytesAt_of_le (n := 3) (by omega)
  rw [rtwWepDecrypt, h3, bytesAt_bodyLen (by omega)]
  rfl

/-- The body of a TKIP frame under a temporal key. -/
def tkipDecrypted (tk : List UInt8) (f : RecvFrame) : List UInt8 :=
  arcfourEncrypt
    (arcfourInit (tkipRc4Key tk f.attrib.ta ((f.rxData.drop f.attrib.hdrlen).take 8)))
    (f.rxData.drop (f.attrib.hdrlen + f.attrib.ivLen))

lemma length_tkipDecrypted (tk : List UInt8) (f : RecvFrame) :
    (tkipDecrypted tk f).length = f.rxData.length - (f.attrib.hdrlen + f.attrib.ivLen) := by
  rw [tkipDecrypted, length_arcfourEncrypt, List.length_drop]

/-- The CRC is compared with the last four bytes of the frame. -/
lemma tkipIcvCompare_eq (h : f.attrib.hdrlen + f.attrib.ivLen ≤ f.rxData.length)
    (h4 : 4 ≤ f.rxData.length) :
    tkipIcvCompare f =
      .ok (icvOf ((f.rxData.drop (f.attrib.hdrlen + f.attrib.ivLen)).take
          (f.rxData.length - (f.attrib.hdrlen + f.attrib.ivLen) - 4)) ==
        f.rxData.drop (f.rxData.length - 4)) := by
  have hoff : (f.attrib.hdrlen + f.attrib.ivLen + bodyLen f - 4).toNat = f.rxData.length - 4 := by
    rw [bodyLen]
    omega
  have hn : (bodyLen f - 4).toNat =
      f.rxData.length - (f.attrib.hdrlen + f.attrib.ivLen) - 4 := by
    rw [bodyLen]
    omega
  have hicv : bytesAt f (f.rxData.length - 4) 4 = .ok (f.rxData.drop (f.rxData.length - 4)) := by
    rw [show (4 : ℤ) = ((4 : ℕ) : ℤ) from rfl, bytesAt_of_le (by omega), List.take_of_length_le]
    rw [List.length_drop]
    omega
  rw [tkipIcvCompare]
  simp only [bytesAt_bodyLen h, hoff, hn, hicv]
  rfl

/-- Without a key nothing is read. -/
lemma rtwTkipDecrypt_none {sec : SecurityPriv} {stainfo : Option MgmtPeer}
    (h : tkipKey sec stainfo f = none) : rtwTkipDecrypt sec stainfo f = .ok none := by
  rw [rtwTkipDecrypt, h]

/-- A TKIP frame that ends inside its IV is left. -/
lemma rtwTkipDecrypt_short {sec : SecurityPriv} {stainfo : Option MgmtPeer} {tk : List UInt8}
    (h : tkipKey sec stainfo f = some tk) (hlen : f.rxData.length < f.attrib.hdrlen + 8) :
    rtwTkipDecrypt sec stainfo f = .error .outOfFrame := by
  have h8 : bytesAt f f.attrib.hdrlen 8 = .error .outOfFrame := bytesAt_of_lt (n := 8) hlen
  rw [rtwTkipDecrypt, h]
  simp only [h8]
  rfl

/-- A TKIP frame with its IV is returned if the last four bytes are the CRC of the body but its
last four bytes. -/
lemma rtwTkipDecrypt_eq {sec : SecurityPriv} {stainfo : Option MgmtPeer} {tk : List UInt8}
    (h : tkipKey sec stainfo f = some tk) (hiv : f.attrib.ivLen = 8)
    (hlen : f.attrib.hdrlen + 8 ≤ f.rxData.length) :
    rtwTkipDecrypt sec stainfo f =
      .ok (if icvOf ((tkipDecrypted tk f).take ((tkipDecrypted tk f).length - 4)) =
          (f.rxData.take (f.attrib.hdrlen + 8) ++ tkipDecrypted tk f).drop (f.rxData.length - 4)
        then some (setBody f (tkipDecrypted tk f)) else none) := by
  have h8 : bytesAt f f.attrib.hdrlen 8 = .ok ((f.rxData.drop f.attrib.hdrlen).take 8) :=
    bytesAt_of_le (n := 8) hlen
  have hle : f.attrib.hdrlen + f.attrib.ivLen ≤ f.rxData.length := by omega
  have hbody : f.rxData.length ≤
      f.attrib.hdrlen + f.attrib.ivLen + (tkipDecrypted tk f).length := by
    rw [length_tkipDecrypted]
    omega
  have hdec := rxData_setBody hbody
  have hdeclen : (setBody f (tkipDecrypted tk f)).rxData.length = f.rxData.length := by
    rw [hdec, List.length_append, List.length_take, length_tkipDecrypted]
    omega
  have hcmp := tkipIcvCompare_eq (f := setBody f (tkipDecrypted tk f)) (hdeclen ▸ hle)
    (hdeclen ▸ by omega)
  rw [hdeclen] at hcmp
  rw [rtwTkipDecrypt, h]
  simp only [h8, bytesAt_bodyLen hle]
  change (tkipIcvCompare (setBody f (tkipDecrypted tk f)) >>= fun same =>
    pure (if same then some (setBody f (tkipDecrypted tk f)) else none)) = _
  rw [hcmp]
  change Except.ok (if (_ == _) = true then _ else _) = _
  simp only [beq_iff_eq]
  have hdrop : (setBody f (tkipDecrypted tk f)).rxData.drop
      ((setBody f (tkipDecrypted tk f)).attrib.hdrlen +
        (setBody f (tkipDecrypted tk f)).attrib.ivLen) = tkipDecrypted tk f :=
    drop_rxData_setBody hle hbody
  have hattrib : (setBody f (tkipDecrypted tk f)).attrib = f.attrib := rfl
  rw [hdrop, hdec, hattrib, length_tkipDecrypted, hiv]

end Routines

/-! ### The functions of `core/rtw_recv.c` -/

section Refines

variable {amsduSpp : Bool} {sec : SecurityPriv} {stainfo : Option MgmtPeer} {f : RecvFrame}

/-- CCMP and GCMP stop where the bytes would not do. -/
lemma rtwMicDecrypt_ok {minLen : ℕ} {r : Option RecvFrame}
    (hshort : (f.rxData.drop f.attrib.hdrlen).length < minLen →
      swMicDecrypt (decryptFns e) amsduSpp sec stainfo f = none)
    (h : rtwMicDecrypt e amsduSpp sec stainfo minLen f = .ok r) :
    swMicDecrypt (decryptFns e) amsduSpp sec stainfo f = r := by
  rw [rtwMicDecrypt] at h
  rcases hkey : swDecryptKey sec stainfo f with _ | key
  · rw [hkey] at h
    obtain rfl := Except.ok.inj h
    rw [swMicDecrypt, hkey]
    rfl
  · rw [hkey] at h
    by_cases hle : f.attrib.hdrlen ≤ f.rxData.length
    swap
    · have herr : bytesAt f f.attrib.hdrlen (f.rxData.length - f.attrib.hdrlen : ℤ) =
          .error .outOfFrame := by
        rw [bytesAt, if_neg]
        rintro ⟨h0, -⟩
        omega
      simp only [herr] at h
      exact absurd h (by rintro ⟨⟩)
    have hdata : bytesAt f f.attrib.hdrlen (f.rxData.length - f.attrib.hdrlen : ℤ) =
        .ok (f.rxData.drop f.attrib.hdrlen) := by
      rw [← Nat.cast_sub hle, bytesAt_of_le (by omega), List.take_of_length_le]
      rw [List.length_drop]
    simp only [hdata] at h
    change (if _ then _ else _) = _ at h
    split at h
    · next hmin => exact (hshort hmin).trans (Except.ok.inj h)
    · rcases haad : bytesAt f 0 (aadEnd f.rxData) with err | bs
      · rw [haad] at h
        exact absurd h (by rintro ⟨⟩)
      · rw [haad] at h
        exact Except.ok.inj h

/-- A body without room for packet number and MIC is not decrypted. -/
lemma swMicDecrypt_short
    (hc : f.attrib.encrypt = .aes ∨ f.attrib.encrypt = .ccmp256 ∨ f.attrib.encrypt = .gcmp ∨
      f.attrib.encrypt = .gcmp256)
    (hlen : (f.rxData.drop f.attrib.hdrlen).length < 8 + (setIceIvLen f.attrib.encrypt).2) :
    swMicDecrypt (decryptFns e) amsduSpp sec stainfo f = none := by
  have hnone (key : List UInt8) :
      micDecrypt (decryptFns e) amsduSpp f.attrib.encrypt key f.rxData f.attrib.hdrlen = none := by
    rcases hc with hc | hc | hc | hc <;> rw [hc] at hlen ⊢ <;> exact if_pos hlen
  rw [swMicDecrypt]
  simp only [hnone]
  cases swDecryptKey sec stainfo f <;> rfl

/-- Inside the frame, `decryptor` is the function that the other modules use. -/
theorem decryptor_refines {r : Option RecvFrame}
    (h : decryptor e amsduSpp sec stainfo f = .ok r) :
    Rtl8723du.decryptor (decryptFns e) amsduSpp sec stainfo f = r := by
  have hread : readKeyIndex f =
      .ok (if f.attrib.encrypt = .noPrivacy then f else f.setKeyIndex) := by
    rw [decryptor, readKeyIndex] at h
    rw [readKeyIndex]
    split
    · rfl
    · next hne =>
        rw [if_neg hne] at h
        cases hb : bytesAt f (f.attrib.hdrlen + 3) 1 with
        | error err =>
            rw [hb] at h
            exact absurd h (by rintro ⟨⟩)
        | ok bs => rfl
  rw [decryptor, hread] at h
  rw [Rtl8723du.decryptor]
  set g := if f.attrib.encrypt = .noPrivacy then f else f.setKeyIndex with hg
  change Except.map (Option.map markDecrypted) _ = _ at h
  change Option.map markDecrypted _ = r
  by_cases hd : g.attrib.bdecrypted
  · rw [if_pos hd] at h ⊢
    exact Except.ok.inj h
  rw [if_neg hd] at h ⊢
  cases hsw : swDecrypt e amsduSpp sec stainfo g with
  | error err =>
      rw [hsw] at h
      exact absurd h (by rintro ⟨⟩)
  | ok res =>
      rw [hsw] at h
      obtain rfl := Except.ok.inj h
      congr 1
      rw [swDecrypt] at hsw
      rw [Rtl8723du.swDecrypt]
      cases henc : g.attrib.encrypt with
      | wep40 | wep104 =>
          simp only [henc] at hsw ⊢
          cases hwep : rtwWepDecrypt e g with
          | error err =>
              rw [hwep] at hsw
              exact absurd hsw (by rintro ⟨⟩)
          | ok g' =>
              rw [hwep] at hsw
              obtain rfl := Except.ok.inj hsw
              change some ((rtwWepDecrypt e g).toOption.getD g) = some g'
              rw [hwep]
              rfl
      | tkip =>
          simp only [henc] at hsw ⊢
          change (rtwTkipDecrypt sec stainfo g).toOption.join = res
          rw [hsw]
          rfl
      | aes | ccmp256 | gcmp | gcmp256 =>
          simp only [henc] at hsw ⊢
          refine rtwMicDecrypt_ok e (fun hlen => swMicDecrypt_short e (by simp [henc]) ?_) hsw
          rw [henc]
          exact hlen
      | _ =>
          simp only [henc] at hsw ⊢
          exact Except.ok.inj hsw

end Refines

end Rtl8723du.Crypto
