import Rtl8723du.Crypto.Decryptor

/-!
# What software decryption lets pass

A frame that `decryptor` decrypts and returns should have an integrity value that verifies over
the decrypted bytes, and no byte outside the frame should be touched.  `DecryptOk` is when that
is so (`decryptor_sound_iff`): a frame has room for the packet number or IV that is read; a WEP
frame was encrypted with its ICV, which is not checked; a TKIP frame has room for an ICV, or what
stands in its place is not zero.
-/

namespace Rtl8723du.Crypto

open Lib Lib.Bytes Lib.Cipher

variable (e : SwCrypto) (amsduSpp : Bool) (sec : SecurityPriv) (stainfo : Option MgmtPeer)

/-- The ciphers with a key that are decrypted here: WEP, TKIP and CCMP. -/
def swCiphers : List SecurityType := [.wep40, .wep104, .tkip, .aes, .ccmp256]

/-- The length of the key of CCMP. -/
def ccmpKeyLen (encrypt : SecurityType) : ℕ := if encrypt = .ccmp256 then 32 else 16

/-- The nonce of CCMP. -/
def ccmpNonce (f : RecvFrame) : List UInt8 :=
  ccmpNonceFlags f.rxData :: addr2Pn f.rxData (f.rxData.drop f.attrib.hdrlen)

/-- The decrypted body and the MIC behind it are what CCM encrypts to the received body. -/
def MicVerified (f f' : RecvFrame) : Prop :=
  ∃ key plain mic crypt, swDecryptKey sec stainfo f.setKeyIndex = some key ∧
    f'.rxData.drop (f.attrib.hdrlen + 8) = plain ++ mic ∧
    f.rxData.drop (f.attrib.hdrlen + 8) = crypt ++ mic ∧
    aesCcmAe (e.aesEncrypt (key.take (ccmpKeyLen f.attrib.encrypt)))
      (ccmpMicLen f.attrib.encrypt) (ccmpNonce f) plain (aadOf 0x4000 amsduSpp f.rxData) =
        some (crypt, mic)

/-- The integrity value of the received frame `f` verifies over the decrypted bytes of `f'`. -/
def IntegrityVerified (f f' : RecvFrame) : Prop :=
  if f.attrib.encrypt = .aes ∨ f.attrib.encrypt = .ccmp256 then
    MicVerified e amsduSpp sec stainfo f f'
  else IcvVerified (f'.rxData.drop (f.attrib.hdrlen + f.attrib.ivLen))

/-- `decryptor` stays inside the frame, and what it decrypts and returns verifies. -/
def DecryptSound (f : RecvFrame) : Prop :=
  ∃ r, decryptor e amsduSpp sec stainfo f = .ok r ∧
    ∀ f', r = some f' → f.attrib.bdecrypted = false →
      IntegrityVerified e amsduSpp sec stainfo f f'

/-- The body of a WEP frame is the encryption of some data with their ICV. -/
def WepSealed (f : RecvFrame) : Prop :=
  ∃ data, f.rxData.drop (f.attrib.hdrlen + 4) =
    arcfourSeal (wepkey e f.setKeyIndex.attrib.keyIndex ((f.rxData.drop f.attrib.hdrlen).take 3))
      data

/-- A TKIP frame for which there is a key has an IV and an ICV, or the four bytes in the place of
the ICV are not zero. -/
def TkipOk (f : RecvFrame) : Prop :=
  ∀ tk, tkipKey sec stainfo f.setKeyIndex = some tk →
    f.attrib.hdrlen + 8 ≤ f.rxData.length ∧
      (f.rxData.length < f.attrib.hdrlen + 12 →
        (f.rxData.take (f.attrib.hdrlen + 8) ++ tkipDecrypted tk f).drop (f.rxData.length - 4) ≠
          [0, 0, 0, 0])

/-- When the decryption of a frame is sound. -/
def DecryptOk (f : RecvFrame) : Prop :=
  f.attrib.hdrlen + 4 ≤ f.rxData.length ∧
    (f.attrib.bdecrypted = false →
      (f.attrib.encrypt = .wep40 ∨ f.attrib.encrypt = .wep104 → WepSealed e f) ∧
      (f.attrib.encrypt = .tkip → TkipOk sec stainfo f))

variable {e amsduSpp sec stainfo} {f : RecvFrame}

/-! ### `decryptor` -/

/-- Without the key id there is an access behind the frame. -/
lemma decryptor_short (hc : f.attrib.encrypt ∈ swCiphers)
    (hlen : f.rxData.length < f.attrib.hdrlen + 4) :
    decryptor e amsduSpp sec stainfo f = .error .outOfFrame := by
  have hne : f.attrib.encrypt ≠ .noPrivacy := fun h => absurd (h ▸ hc) (by decide)
  have h1 : bytesAt f (f.attrib.hdrlen + 3) 1 = .error .outOfFrame :=
    bytesAt_of_lt (n := 1) (by omega)
  rw [decryptor, readKeyIndex, if_neg hne, h1]
  rfl

lemma decryptor_eq (hc : f.attrib.encrypt ∈ swCiphers)
    (hlen : f.attrib.hdrlen + 4 ≤ f.rxData.length) :
    decryptor e amsduSpp sec stainfo f =
      (if f.attrib.bdecrypted then .ok (some f.setKeyIndex)
        else swDecrypt e amsduSpp sec stainfo f.setKeyIndex).map (Option.map markDecrypted) := by
  have hne : f.attrib.encrypt ≠ .noPrivacy := fun h => absurd (h ▸ hc) (by decide)
  have h1 : bytesAt f (f.attrib.hdrlen + 3) 1 =
      .ok ((f.rxData.drop (f.attrib.hdrlen + 3)).take 1) := bytesAt_of_le (n := 1) (by omega)
  rw [decryptor, readKeyIndex, if_neg hne, h1]
  rfl

/-- Soundness by the result of the decryption. -/
lemma decryptSound_iff_of_eq (hc : f.attrib.encrypt ∈ swCiphers)
    (hlen : f.attrib.hdrlen + 4 ≤ f.rxData.length) (hd : f.attrib.bdecrypted = false)
    {r : Option RecvFrame} (hr : swDecrypt e amsduSpp sec stainfo f.setKeyIndex = .ok r) :
    DecryptSound e amsduSpp sec stainfo f ↔
      ∀ f', r = some f' → IntegrityVerified e amsduSpp sec stainfo f f' := by
  have heq : decryptor e amsduSpp sec stainfo f = _ := decryptor_eq hc hlen
  rw [hd, if_neg Bool.false_ne_true, hr] at heq
  constructor
  · rintro ⟨r', hr', h⟩ f' rfl
    obtain rfl := Except.ok.inj (heq.symm.trans hr')
    exact h (markDecrypted f') rfl hd
  · intro h
    refine ⟨_, heq, ?_⟩
    rintro f' hf' -
    obtain ⟨g, rfl, rfl⟩ := Option.map_eq_some_iff.1 hf'
    exact h g rfl

lemma not_decryptSound_of_error (hc : f.attrib.encrypt ∈ swCiphers)
    (hlen : f.attrib.hdrlen + 4 ≤ f.rxData.length) (hd : f.attrib.bdecrypted = false)
    (hr : swDecrypt e amsduSpp sec stainfo f.setKeyIndex = .error .outOfFrame) :
    ¬ DecryptSound e amsduSpp sec stainfo f := by
  rintro ⟨r, h, -⟩
  rw [decryptor_eq hc hlen, hd, if_neg Bool.false_ne_true, hr] at h
  exact absurd h (by rintro ⟨⟩)

/-! ### WEP -/

lemma integrityVerified_iff_icv (hc : f.attrib.encrypt ≠ .aes ∧ f.attrib.encrypt ≠ .ccmp256)
    (f' : RecvFrame) :
    IntegrityVerified e amsduSpp sec stainfo f f' ↔
      IcvVerified (f'.rxData.drop (f.attrib.hdrlen + f.attrib.ivLen)) := by
  rw [IntegrityVerified, if_neg (by rintro (h | h); exacts [hc.1 h, hc.2 h])]

/-- Every WEP frame is returned, so the decryption is sound for those encrypted with their ICV. -/
lemma wep_sound_iff (hc : f.attrib.encrypt = .wep40 ∨ f.attrib.encrypt = .wep104)
    (hiv : f.attrib.ivLen = 4) (hlen : f.attrib.hdrlen + 4 ≤ f.rxData.length)
    (hd : f.attrib.bdecrypted = false) :
    DecryptSound e amsduSpp sec stainfo f ↔ WepSealed e f := by
  have hwep : rtwWepDecrypt e f.setKeyIndex =
      .ok (setBody f.setKeyIndex (wepDecrypted e f.setKeyIndex)) := rtwWepDecrypt_eq e hiv hlen
  have hr : swDecrypt e amsduSpp sec stainfo f.setKeyIndex =
      .ok (some (setBody f.setKeyIndex (wepDecrypted e f.setKeyIndex))) := by
    have hc' : f.setKeyIndex.attrib.encrypt = .wep40 ∨ f.setKeyIndex.attrib.encrypt = .wep104 := hc
    rcases hc' with hc' | hc' <;>
    · rw [swDecrypt, hc']
      simp only [hwep]
      rfl
  have hmem : f.attrib.encrypt ∈ swCiphers := by rcases hc with h | h <;> rw [h] <;> decide
  have hmic : f.attrib.encrypt ≠ .aes ∧ f.attrib.encrypt ≠ .ccmp256 := by
    rcases hc with h | h <;> rw [h] <;> decide
  have hbody : (setBody f.setKeyIndex (wepDecrypted e f.setKeyIndex)).rxData.drop
      (f.attrib.hdrlen + f.attrib.ivLen) = wepDecrypted e f.setKeyIndex := by
    refine drop_rxData_setBody (f := f.setKeyIndex) (hiv ▸ hlen) ?_
    rw [wepDecrypted, length_arcfourEncrypt, List.length_drop]
    exact le_add_tsub
  rw [decryptSound_iff_of_eq hmem hlen hd hr, WepSealed, ← icvVerified_arcfourEncrypt_iff]
  simp only [Option.some.injEq, forall_eq', integrityVerified_iff_icv hmic, hbody]
  rw [wepDecrypted]
  exact hiv ▸ Iff.rfl

/-! ### TKIP -/

/-- The last four bytes of a frame with a body that is long enough. -/
lemma drop_append_tkipDecrypted (tk : List UInt8)
    (hiv : f.attrib.ivLen = 8) (hlen : f.attrib.hdrlen + 12 ≤ f.rxData.length) :
    (f.rxData.take (f.attrib.hdrlen + 8) ++ tkipDecrypted tk f).drop (f.rxData.length - 4) =
      (tkipDecrypted tk f).drop ((tkipDecrypted tk f).length - 4) := by
  have htake : (f.rxData.take (f.attrib.hdrlen + 8)).length = f.attrib.hdrlen + 8 := by
    rw [List.length_take]
    omega
  rw [List.drop_append, List.drop_of_length_le (by omega), List.nil_append, htake,
    length_tkipDecrypted, hiv]
  congr 1
  omega

/-- A TKIP frame is returned if the comparison of its ICV says so. -/
lemma tkip_sound_iff (hc : f.attrib.encrypt = .tkip) (hiv : f.attrib.ivLen = 8)
    (hlen : f.attrib.hdrlen + 4 ≤ f.rxData.length) (hd : f.attrib.bdecrypted = false) :
    DecryptSound e amsduSpp sec stainfo f ↔ TkipOk sec stainfo f := by
  have hmem : f.attrib.encrypt ∈ swCiphers := hc ▸ by decide
  have hmic : f.attrib.encrypt ≠ .aes ∧ f.attrib.encrypt ≠ .ccmp256 := hc ▸ by decide
  have hsw : swDecrypt e amsduSpp sec stainfo f.setKeyIndex =
      rtwTkipDecrypt sec stainfo f.setKeyIndex := by
    rw [swDecrypt, show f.setKeyIndex.attrib.encrypt = .tkip from hc]
  rcases hkey : tkipKey sec stainfo f.setKeyIndex with _ | tk
  · have hr := hsw.trans (rtwTkipDecrypt_none hkey)
    refine iff_of_true ((decryptSound_iff_of_eq hmem hlen hd hr).2 (by simp)) ?_
    intro tk htk
    rw [hkey] at htk
    exact absurd htk (by simp)
  by_cases h8 : f.attrib.hdrlen + 8 ≤ f.rxData.length
  · have hr := hsw.trans (rtwTkipDecrypt_eq (f := f.setKeyIndex) hkey hiv h8)
    have hbody : (setBody f.setKeyIndex (tkipDecrypted tk f.setKeyIndex)).rxData.drop
        (f.attrib.hdrlen + f.attrib.ivLen) = tkipDecrypted tk f.setKeyIndex := by
      refine drop_rxData_setBody (f := f.setKeyIndex) (hiv ▸ h8) ?_
      rw [length_tkipDecrypted]
      exact le_add_tsub
    have htk : tkipDecrypted tk f.setKeyIndex = tkipDecrypted tk f := rfl
    rw [decryptSound_iff_of_eq hmem hlen hd hr]
    simp only [integrityVerified_iff_icv hmic]
    by_cases h12 : f.attrib.hdrlen + 12 ≤ f.rxData.length
    · refine iff_of_true ?_ fun _ _ => ⟨h8, fun h => absurd h (by omega)⟩
      -- the bytes compared are the ICV of the decrypted body
      intro f' hf'
      split at hf'
      · next hicv =>
          obtain rfl := Option.some.inj hf'
          have h4 : 4 ≤ (tkipDecrypted tk f).length := by
            rw [length_tkipDecrypted]
            omega
          rw [hbody, htk, IcvVerified, carries_iff_drop length_icvOf h4,
            ← drop_append_tkipDecrypted tk hiv h12]
          exact hicv
      · simp at hf'
    · have hshort : ¬ IcvVerified (tkipDecrypted tk f) := by
        intro h
        have h4 := h.le_length length_icvOf
        rw [length_tkipDecrypted] at h4
        omega
      have htake : (tkipDecrypted tk f).length - 4 = 0 := by
        rw [length_tkipDecrypted]
        omega
      rw [htk, htake, List.take_zero, icvOf_nil]
      constructor
      · rintro h tk' htk'
        obtain rfl := Option.some.inj (hkey.symm.trans htk')
        refine ⟨h8, fun _ hzero => ?_⟩
        refine hshort ?_
        have := h _ (if_pos hzero.symm)
        rwa [← htk, hbody] at this
      · intro h f' hf'
        have hne := (h tk hkey).2 (by omega)
        split at hf'
        · next hzero => exact absurd hzero.symm hne
        · simp at hf'
  · have hr := hsw.trans (rtwTkipDecrypt_short (f := f.setKeyIndex) hkey (not_le.1 h8))
    exact iff_of_false (not_decryptSound_of_error hmem hlen hd hr) fun h => h8 (h tk hkey).1

/-! ### CCMP -/

lemma aadEnd_le (hdr : List UInt8) : aadEnd hdr ≤ 32 := by
  rw [aadEnd]
  split <;> split <;> omega

/-- The lengths with which CCMP decrypts. -/
lemma micDecrypt_eq (hc : f.attrib.encrypt = .aes ∨ f.attrib.encrypt = .ccmp256)
    (key frame : List UInt8) (hdrlen : ℕ) :
    micDecrypt (decryptFns e) amsduSpp f.attrib.encrypt key frame hdrlen =
      ccmDecrypt (decryptFns e) (ccmpKeyLen f.attrib.encrypt) (ccmpMicLen f.attrib.encrypt) amsduSpp
        key frame (frame.drop hdrlen) := by
  rcases hc with hc | hc <;> rw [hc] <;> rfl

/-- What CCMP has decrypted has a MIC that verifies. -/
lemma micVerified_of_swMicDecrypt (hc : f.attrib.encrypt = .aes ∨ f.attrib.encrypt = .ccmp256)
    {f' : RecvFrame}
    (h : swMicDecrypt (decryptFns e) amsduSpp sec stainfo f.setKeyIndex = some f') :
    MicVerified e amsduSpp sec stainfo f f' := by
  obtain ⟨key, hkey, h⟩ := Option.bind_eq_some_iff.1 h
  obtain ⟨plain, hplain, rfl⟩ := Option.map_eq_some_iff.1 h
  rw [micDecrypt_eq (f := f.setKeyIndex) hc, ccmDecrypt] at hplain
  simp only [show f.setKeyIndex.rxData = f.rxData from rfl,
    show f.setKeyIndex.attrib.hdrlen = f.attrib.hdrlen from rfl,
    show f.setKeyIndex.attrib.encrypt = f.attrib.encrypt from rfl] at hplain
  set data := f.rxData.drop f.attrib.hdrlen with hdata
  split at hplain
  · simp at hplain
  next hlen =>
  set mlen := data.length - 8 - ccmpMicLen f.attrib.encrypt with hmlen
  have hmic : (data.drop (8 + mlen)).length = ccmpMicLen f.attrib.encrypt := by
    rw [List.length_drop]
    omega
  have hae := (aesCcmAd_eq_some_iff _ hmic).1 hplain
  -- the decrypted body is as long as the encrypted one
  have hplainlen : plain.length = mlen := by
    rw [aesCcmAe] at hae
    split at hae
    · simp at hae
    · have hcrypt := congrArg (fun p : List UInt8 × List UInt8 => p.1.length)
        (Option.some.inj hae)
      simp only [aesCcmEncr, length_stream, List.length_take, List.length_drop] at hcrypt
      omega
  have hbody : f.rxData.drop (f.attrib.hdrlen + 8) = data.drop 8 := by
    rw [hdata, List.drop_drop]
  have hdatalen : data.length = f.rxData.length - f.attrib.hdrlen := by rw [hdata, List.length_drop]
  refine ⟨key, plain, data.drop (8 + mlen), (data.drop 8).take mlen, hkey, ?_, ?_, hae⟩
  · have hhead : (f.rxData.take (f.attrib.hdrlen + 8)).length = f.attrib.hdrlen + 8 := by
      rw [List.length_take]
      omega
    have hrest : f.rxData.drop (f.attrib.hdrlen + 8 + plain.length) = data.drop (8 + mlen) := by
      rw [hdata, List.drop_drop, hplainlen, Nat.add_assoc]
    change (writeAt f.rxData (f.attrib.hdrlen + 8) plain).drop (f.attrib.hdrlen + 8) = _
    rw [writeAt, hrest, List.append_assoc, List.drop_left' hhead]
  · rw [hbody, ← List.drop_drop, List.take_append_drop]

/-- CCMP is sound for every frame in which the key id can be read. -/
lemma ccmp_sound (hc : f.attrib.encrypt = .aes ∨ f.attrib.encrypt = .ccmp256)
    (hhdr : wlanHdrA3Len ≤ f.attrib.hdrlen) (hlen : f.attrib.hdrlen + 4 ≤ f.rxData.length)
    (hd : f.attrib.bdecrypted = false) : DecryptSound e amsduSpp sec stainfo f := by
  have hmem : f.attrib.encrypt ∈ swCiphers := by rcases hc with h | h <;> rw [h] <;> decide
  have hsw : swDecrypt e amsduSpp sec stainfo f.setKeyIndex =
      rtwMicDecrypt e amsduSpp sec stainfo (8 + ccmpMicLen f.attrib.encrypt) f.setKeyIndex := by
    have hc' : f.setKeyIndex.attrib.encrypt = .aes ∨ f.setKeyIndex.attrib.encrypt = .ccmp256 := hc
    rcases hc' with hc' | hc' <;>
    · rw [swDecrypt, hc']
      simp only
      rw [← hc']
      rfl
  have h24 : 24 ≤ f.attrib.hdrlen := hhdr
  rcases hkey : swDecryptKey sec stainfo f.setKeyIndex with _ | key
  · have hr : swDecrypt e amsduSpp sec stainfo f.setKeyIndex = .ok none := by
      rw [hsw, rtwMicDecrypt, hkey]
    exact (decryptSound_iff_of_eq hmem hlen hd hr).2 (by simp)
  have hdata : bytesAt f.setKeyIndex f.attrib.hdrlen (f.rxData.length - f.attrib.hdrlen : ℤ) =
      .ok (f.rxData.drop f.attrib.hdrlen) := by
    rw [← Nat.cast_sub (by omega), bytesAt_of_le]
    · rw [List.take_of_length_le]
      · rfl
      · rw [List.length_drop]
        exact le_rfl
    · change f.attrib.hdrlen + (f.rxData.length - f.attrib.hdrlen) ≤ f.rxData.length
      omega
  by_cases hmin : (f.rxData.drop f.attrib.hdrlen).length < 8 + ccmpMicLen f.attrib.encrypt
  · have hr : swDecrypt e amsduSpp sec stainfo f.setKeyIndex = .ok none := by
      rw [hsw, rtwMicDecrypt, hkey]
      change bytesAt f.setKeyIndex f.attrib.hdrlen (f.rxData.length - f.attrib.hdrlen : ℤ) >>= _ = _
      rw [hdata]
      exact if_pos hmin
    exact (decryptSound_iff_of_eq hmem hlen hd hr).2 (by simp)
  · have h8 : 8 ≤ ccmpMicLen f.attrib.encrypt := by
      rw [ccmpMicLen]
      split <;> omega
    have haad : bytesAt f.setKeyIndex 0 (aadEnd f.rxData) =
        .ok (f.rxData.take (aadEnd f.rxData)) := by
      refine bytesAt_of_le (f := f.setKeyIndex) ?_
      have := aadEnd_le f.rxData
      rw [List.length_drop] at hmin
      change 0 + aadEnd f.rxData ≤ f.rxData.length
      omega
    have hr : swDecrypt e amsduSpp sec stainfo f.setKeyIndex =
        .ok (swMicDecrypt (decryptFns e) amsduSpp sec stainfo f.setKeyIndex) := by
      rw [hsw, rtwMicDecrypt, hkey]
      change bytesAt f.setKeyIndex f.attrib.hdrlen (f.rxData.length - f.attrib.hdrlen : ℤ) >>= _ = _
      rw [hdata]
      change (if _ then _ else _) = _
      rw [if_neg hmin]
      change bytesAt f.setKeyIndex 0 (aadEnd f.rxData) >>= _ = _
      rw [haad]
      rfl
    rw [decryptSound_iff_of_eq hmem hlen hd hr]
    intro f' hf'
    rw [IntegrityVerified, if_pos hc]
    exact micVerified_of_swMicDecrypt hc hf'

/-! ### All ciphers -/

/-- A frame that the hardware has decrypted is returned as it is. -/
lemma decryptSound_of_bdecrypted (hc : f.attrib.encrypt ∈ swCiphers)
    (hlen : f.attrib.hdrlen + 4 ≤ f.rxData.length) (hd : f.attrib.bdecrypted = true) :
    DecryptSound e amsduSpp sec stainfo f := by
  refine ⟨some (markDecrypted f.setKeyIndex), ?_, ?_⟩
  · rw [decryptor_eq hc hlen, hd]
    rfl
  intro f' _ hd'
  rw [hd] at hd'
  exact absurd hd' (by decide)

/-- Software decryption stays inside the frame and returns only what verifies, exactly under
`DecryptOk`. -/
theorem decryptor_sound_iff (e : SwCrypto) (amsduSpp : Bool) (sec : SecurityPriv)
    (stainfo : Option MgmtPeer) (f : RecvFrame) (hc : f.attrib.encrypt ∈ swCiphers)
    (hiv : f.attrib.ivLen = (setIceIvLen f.attrib.encrypt).1)
    (hhdr : wlanHdrA3Len ≤ f.attrib.hdrlen) :
    DecryptSound e amsduSpp sec stainfo f ↔ DecryptOk e sec stainfo f := by
  by_cases hlen : f.attrib.hdrlen + 4 ≤ f.rxData.length
  swap
  · refine iff_of_false ?_ fun h => hlen h.1
    rintro ⟨r, h, -⟩
    rw [decryptor_short hc (not_le.1 hlen)] at h
    exact absurd h (by rintro ⟨⟩)
  rcases hd : f.attrib.bdecrypted with _ | _
  swap
  · exact iff_of_true (decryptSound_of_bdecrypted hc hlen hd)
      ⟨hlen, fun h => absurd (hd.symm.trans h) (by decide)⟩
  have hcases : f.attrib.encrypt = .wep40 ∨ f.attrib.encrypt = .wep104 ∨ f.attrib.encrypt = .tkip ∨
      f.attrib.encrypt = .aes ∨ f.attrib.encrypt = .ccmp256 := by
    simpa [swCiphers] using hc
  rw [DecryptOk]
  rcases hcases with h | h | h | h | h
  · rw [h] at hiv
    rw [wep_sound_iff (.inl h) hiv hlen hd]
    simp [h, hlen, hd]
  · rw [h] at hiv
    rw [wep_sound_iff (.inr h) hiv hlen hd]
    simp [h, hlen, hd]
  · rw [h] at hiv
    rw [tkip_sound_iff h hiv hlen hd]
    simp [h, hlen, hd]
  · refine iff_of_true (ccmp_sound (.inl h) hhdr hlen hd) ⟨hlen, fun _ => ?_⟩
    simp [h]
  · refine iff_of_true (ccmp_sound (.inr h) hhdr hlen hd) ⟨hlen, fun _ => ?_⟩
    simp [h]

/-! ### Two WEP frames -/

/-- A WEP key of five bytes at index 0. -/
def wep40Crypto : SwCrypto where
  aesEncrypt _ x := x
  aesGcmAd _ _ _ _ _ _ := none
  dot11DefKey _ := [1, 2, 3, 4, 5]

/-- No group key and no BIP key. -/
def openSec : SecurityPriv where
  binstallGrpkey := false
  binstallBIPkey := false
  dot11wCipher := .noPrivacy
  dot11wBIPKeyid := 0
  dot11wBIPKey _ := []
  dot11wBIPtxpn := 0
  dot11wBIPrxpn := 0

/-- A data frame with a body that WEP is said to protect. -/
def wep40Frame (body : List UInt8) : RecvFrame where
  attrib := { encrypt := .wep40, hdrlen := 24, ivLen := 4, icvLen := 4 }
  rxData := [0x08, 0x41] ++ List.replicate 22 0 ++ [9, 8, 7, 0] ++ body

theorem decryptor_sound_iff_of_sealed :
    DecryptSound wep40Crypto false openSec none
      (wep40Frame (arcfourSeal [9, 8, 7, 1, 2, 3, 4, 5] [0xaa, 0xaa, 3])) := by
  refine (decryptor_sound_iff wep40Crypto false openSec none _ (by decide) rfl (by decide)).2 ?_
  refine ⟨by decide, fun _ => ⟨fun _ => ⟨[0xaa, 0xaa, 3], rfl⟩, ?_⟩⟩
  intro h
  exact absurd h (by decide)

/-- A body with zeros in the place of its ICV is returned as decrypted. -/
theorem decryptor_unsound_of_wep :
    ¬ DecryptSound wep40Crypto false openSec none
      (wep40Frame (arcfourEncrypt (arcfourInit [9, 8, 7, 1, 2, 3, 4, 5])
        [0xaa, 0xaa, 3, 0, 0, 0, 0])) := by
  rw [wep_sound_iff (.inl rfl) rfl (by decide) rfl, WepSealed, ← icvVerified_arcfourEncrypt_iff]
  intro h
  have hplain : IcvVerified [0xaa, 0xaa, 3, 0, 0, 0, 0] := by
    have hbody := stream_stream arcfourByte (arcfourInit [9, 8, 7, 1, 2, 3, 4, 5])
      [0xaa, 0xaa, 3, 0, 0, 0, 0]
    rw [← hbody]
    exact h
  revert hplain
  decide +kernel

end Rtl8723du.Crypto
