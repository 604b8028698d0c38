import Rtl8723du.Crypto.AesGcm
import Rtl8723du.Mgmt.Decrypt

/-!
# Frames that are protected in software

`ccmp_encrypt`, `ccmp_256_encrypt` and `gcmp_encrypt` on a frame that has its packet number already,
beside the functions that decrypt such a frame.  A frame is accepted exactly if its body is what
encryption gives under its own header and packet number (`micDecrypt_eq_some_iff`).
-/

namespace Rtl8723du.Crypto

open Lib Lib.Bytes

/-- `hdr->frame_control |= WLAN_FC_ISWEP`. -/
def setIsWep (hdr : List UInt8) : List UInt8 :=
  leBytes 2 (UInt16.ofNat (leAt hdr 0 2) ||| 0x4000).toNat ++ hdr.drop 2

variable (aesEncrypt : List UInt8 → AesBlock → AesBlock)

/-- `aes_ccm_ad` and `aes_gcm_ad`.  WEP and TKIP have other routines. -/
def micFns : DecryptFns where
  aesCcmAd keyLen key nonce micLen crypt aad auth :=
    aesCcmAd (aesEncrypt (key.take keyLen)) micLen nonce crypt aad auth
  aesGcmAd keyLen key iv crypt aad tag := aesGcmAd (aesEncrypt (key.take keyLen)) iv crypt aad tag
  rtwWepDecrypt _ f := f
  rtwTkipDecrypt _ _ _ := none

/-- `ccmp_encrypt` and `ccmp_256_encrypt` without a packet number of the caller. -/
def ccmEncrypt (keyLen micLen : ℕ) (amsduSpp : Bool) (tk frame : List UInt8) (hdrlen plen : ℕ) :
    Option (List UInt8) :=
  if hdrlen < 24 then none
  else
    let hdr := setIsWep (frame.take (hdrlen + 8))
    let pdata := (frame.drop (hdrlen + 8)).take plen
    (aesCcmAe (aesEncrypt (tk.take keyLen)) micLen
      (ccmpNonceFlags hdr :: addr2Pn hdr (hdr.drop hdrlen)) pdata (aadOf 0x4000 amsduSpp hdr)).map
        fun c => hdr ++ c.1 ++ c.2

/-- `ccmp_encrypt`. -/
def ccmpEncrypt : Bool → List UInt8 → List UInt8 → ℕ → ℕ → Option (List UInt8) :=
  ccmEncrypt aesEncrypt 16 8

/-- `ccmp_256_encrypt`. -/
def ccmp256Encrypt : Bool → List UInt8 → List UInt8 → ℕ → ℕ → Option (List UInt8) :=
  ccmEncrypt aesEncrypt 32 16

/-- `gcmp_encrypt` without a packet number of the caller. -/
def gcmpEncrypt (keyLen : ℕ) (amsduSpp : Bool) (tk frame : List UInt8) (hdrlen plen : ℕ) :
    Option (List UInt8) :=
  if hdrlen < 24 then none
  else
    let hdr := frame.take (hdrlen + 8)
    let pdata := (frame.drop (hdrlen + 8)).take plen
    let c := aesGcmAe (aesEncrypt (tk.take keyLen)) (addr2Pn hdr (hdr.drop hdrlen)) pdata
      (aadOf 0 amsduSpp hdr)
    some (hdr ++ c.1 ++ c.2)

/-- `_rtw_ccmp_encrypt` and `_rtw_gcmp_encrypt` with the lengths that `rtw_aes_encrypt` and
`rtw_gcmp_encrypt` give them. -/
def micEncrypt (amsduSpp : Bool) (encrypt : SecurityType) (key frame : List UInt8)
    (hdrlen plen : ℕ) : Option (List UInt8) :=
  match encrypt with
  | .aes => ccmpEncrypt aesEncrypt amsduSpp key frame hdrlen plen
  | .ccmp256 => ccmp256Encrypt aesEncrypt amsduSpp key frame hdrlen plen
  | .gcmp => gcmpEncrypt aesEncrypt 16 amsduSpp key frame hdrlen plen
  | .gcmp256 => gcmpEncrypt aesEncrypt 32 amsduSpp key frame hdrlen plen
  | _ => none

/-! ### What is protected of the header -/

variable {f : List UInt8} {hdrlen n : ℕ}

lemma leAt_take {off k : ℕ} (h : off + k ≤ n) : leAt (f.take n) off k = leAt f off k := by
  rw [leAt, leAt, List.drop_take, List.take_take, Nat.min_eq_left (by omega)]

lemma getD_take {i : ℕ} (h : i < n) (d : UInt8) : (f.take n).getD i d = f.getD i d := by
  rw [List.getD_eq_getElem?_getD, List.getD_eq_getElem?_getD, List.getElem?_take_of_lt h]

lemma take_drop_take {off k : ℕ} (h : off + k ≤ n) :
    ((f.take n).drop off).take k = (f.drop off).take k := by
  rw [List.drop_take, List.take_take, Nat.min_eq_left (by omega)]

/-- Only the first 32 bytes matter. -/
lemma aadOf_take (fcSet : UInt16) (amsduSpp : Bool) (hn : 32 ≤ n) :
    aadOf fcSet amsduSpp (f.take n) = aadOf fcSet amsduSpp f := by
  have hqc : ∀ b : Bool, (f.take n).getD (if b then 30 else 24) 0 =
      f.getD (if b then 30 else 24) 0 := by
    intro b
    exact getD_take (by split_ifs <;> omega) 0
  simp only [aadOf, leAt_take (show 0 + 2 ≤ n by omega), leAt_take (show 22 + 2 ≤ n by omega),
    take_drop_take (show 4 + 18 ≤ n by omega), take_drop_take (show 24 + 6 ≤ n by omega), hqc]

lemma ccmpNonceFlags_take (hn : 32 ≤ n) : ccmpNonceFlags (f.take n) = ccmpNonceFlags f := by
  have hqc : ∀ b : Bool, (f.take n).getD (if b then 30 else 24) 0 =
      f.getD (if b then 30 else 24) 0 := by
    intro b
    exact getD_take (by split_ifs <;> omega) 0
  simp only [ccmpNonceFlags, leAt_take (show 0 + 2 ≤ n by omega), hqc]

lemma addr2Pn_take (data : List UInt8) (hn : 32 ≤ n) :
    addr2Pn (f.take n) data = addr2Pn f data := by
  rw [addr2Pn, addr2Pn, take_drop_take (by omega)]

/-- Only the first eight bytes of the body matter. -/
lemma addr2Pn_data_take (hdr data : List UInt8) : addr2Pn hdr (data.take 8) = addr2Pn hdr data := by
  simp only [addr2Pn, List.map_cons, List.map_nil, getD_take (show 7 < 8 by decide),
    getD_take (show 6 < 8 by decide), getD_take (show 5 < 8 by decide),
    getD_take (show 4 < 8 by decide), getD_take (show 1 < 8 by decide),
    getD_take (show 0 < 8 by decide)]

/-! ### The protected bit -/

lemma isWep_and {m : UInt16} (fc : UInt16) (hm : 0x4000 &&& m = 0) :
    (fc ||| 0x4000) &&& m = fc &&& m := by
  have hm' : 0x4000#16 &&& m.toBitVec = 0#16 := by simpa using congrArg UInt16.toBitVec hm
  rw [← UInt16.toBitVec_inj]
  simp only [UInt16.toBitVec_and, UInt16.toBitVec_or, UInt16.toBitVec_ofNat,
    BitVec.and_or_distrib_right, hm', BitVec.or_zero]

lemma isWep_and_or (fc m : UInt16) :
    ((fc ||| 0x4000) &&& m) ||| 0x4000 = (fc &&& m) ||| 0x4000 := by
  rw [← UInt16.toBitVec_inj]
  simp only [UInt16.toBitVec_and, UInt16.toBitVec_or, UInt16.toBitVec_ofNat]
  ext i hi
  simp only [BitVec.getElem_or, BitVec.getElem_and]
  grind

lemma drop_setIsWep (hdr : List UInt8) {k : ℕ} (hk : 2 ≤ k) :
    (setIsWep hdr).drop k = hdr.drop k := by
  rw [setIsWep, List.drop_append, length_leBytes, List.drop_drop,
    List.drop_of_length_le (by simpa using hk), List.nil_append, Nat.add_sub_cancel' hk]

lemma leAt_setIsWep (hdr : List UInt8) :
    UInt16.ofNat (leAt (setIsWep hdr) 0 2) = UInt16.ofNat (leAt hdr 0 2) ||| 0x4000 := by
  rw [setIsWep, leAt_append (by simp), leAt, List.drop_zero, List.take_of_length_le (by simp),
    leNat_leBytes (UInt16.toNat_lt _), UInt16.ofNat_toNat]

lemma leAt_setIsWep_of_le (hdr : List UInt8) {off k : ℕ} (h : 2 ≤ off) :
    leAt (setIsWep hdr) off k = leAt hdr off k := by
  rw [leAt, leAt, drop_setIsWep hdr h]

lemma getD_setIsWep (hdr : List UInt8) {i : ℕ} (hi : 2 ≤ i) :
    (setIsWep hdr).getD i 0 = hdr.getD i 0 := by
  have h := congrArg (fun bs => bs.getD 0 0) (drop_setIsWep hdr hi)
  simpa [List.getD_eq_getElem?_getD] using h

lemma qosControl_setIsWep (hdr : List UInt8) (b : Bool) :
    (setIsWep hdr).getD (if b then 30 else 24) 0 = hdr.getD (if b then 30 else 24) 0 :=
  getD_setIsWep hdr (by split_ifs <;> omega)

/-- The mask of the AAD sets the protected bit in any case. -/
lemma aadOf_setIsWep (amsduSpp : Bool) (hdr : List UInt8) :
    aadOf 0x4000 amsduSpp (setIsWep hdr) = aadOf 0x4000 amsduSpp hdr := by
  simp only [aadOf, leAt_setIsWep, leAt_setIsWep_of_le hdr (show 2 ≤ 22 by decide),
    drop_setIsWep hdr (show 2 ≤ 4 by decide), drop_setIsWep hdr (show 2 ≤ 24 by decide),
    qosControl_setIsWep, isWep_and _ (show (0x4000 : UInt16) &&& 0x0300 = 0 by decide),
    isWep_and _ (show (0x4000 : UInt16) &&& 0x000c = 0 by decide),
    isWep_and _ (show (0x4000 : UInt16) &&& 0x0080 = 0 by decide)]
  congr 5
  split_ifs <;> simp only [UInt16.and_assoc, isWep_and_or]

lemma ccmpNonceFlags_setIsWep (hdr : List UInt8) :
    ccmpNonceFlags (setIsWep hdr) = ccmpNonceFlags hdr := by
  simp only [ccmpNonceFlags, leAt_setIsWep, qosControl_setIsWep,
    isWep_and _ (show (0x4000 : UInt16) &&& 0x0300 = 0 by decide),
    isWep_and _ (show (0x4000 : UInt16) &&& 0x000c = 0 by decide),
    isWep_and _ (show (0x4000 : UInt16) &&& 0x0080 = 0 by decide)]

lemma addr2Pn_setIsWep (hdr data : List UInt8) :
    addr2Pn (setIsWep hdr) data = addr2Pn hdr data := by
  rw [addr2Pn, addr2Pn, drop_setIsWep hdr (by decide)]

lemma length_setIsWep {hdr : List UInt8} (h : 2 ≤ hdr.length) :
    (setIsWep hdr).length = hdr.length := by
  rw [setIsWep, List.length_append, length_leBytes, List.length_drop]
  omega

/-! ### What is accepted -/

/-- What stands behind the packet number is cut from the end. -/
lemma append_eq_iff {body mic rest : List UInt8} {m : ℕ} (hmic : mic.length = m) :
    body ++ mic = rest ↔
      m ≤ rest.length ∧ body = rest.take (rest.length - m) ∧ mic = rest.drop (rest.length - m) := by
  constructor
  · rintro rfl
    rw [List.length_append, hmic, Nat.add_sub_cancel, List.take_left, List.drop_left]
    exact ⟨Nat.le_add_left .., rfl, rfl⟩
  · rintro ⟨-, hbody, htail⟩
    rw [hbody, htail, List.take_append_drop]

/-- A sealed frame agrees with a received one behind the header exactly if the two parts that
decryption cuts from it are the encrypted data and the MIC. -/
lemma sealed_iff {hdr body mic : List UInt8} {m : ℕ} (hf : hdrlen + 8 + m ≤ f.length)
    (hlen : hdr.length = hdrlen + 8) (hhdr : hdr.drop hdrlen = (f.take (hdrlen + 8)).drop hdrlen)
    (hmic : mic.length = m) :
    ((hdr ++ body ++ mic).drop hdrlen = f.drop hdrlen ∧ (hdr ++ body ++ mic).length = f.length) ↔
      ((f.drop hdrlen).drop 8).take ((f.drop hdrlen).length - 8 - m) = body ∧
        (f.drop hdrlen).drop (8 + ((f.drop hdrlen).length - 8 - m)) = mic := by
  have hpn : hdr.drop hdrlen ++ f.drop (hdrlen + 8) = f.drop hdrlen := by
    rw [hhdr, List.drop_take, Nat.add_sub_cancel_left, ← List.drop_drop, List.take_append_drop]
  have hrest : ((hdr ++ body ++ mic).drop hdrlen = f.drop hdrlen) ↔
      body ++ mic = f.drop (hdrlen + 8) := by
    rw [List.append_assoc, List.drop_append_of_le_length (by omega), ← hpn,
      List.append_cancel_left_eq]
  have hcut : (f.drop hdrlen).length - 8 - m = (f.drop (hdrlen + 8)).length - m := by
    simp only [List.length_drop]
    omega
  have hcutTail : hdrlen + (8 + ((f.drop (hdrlen + 8)).length - m)) =
      hdrlen + 8 + ((f.drop (hdrlen + 8)).length - m) := by
    omega
  have hm : m ≤ (f.drop (hdrlen + 8)).length := by
    rw [List.length_drop]
    omega
  have htotal : body ++ mic = f.drop (hdrlen + 8) → (hdr ++ body ++ mic).length = f.length := by
    intro h
    rw [List.append_assoc, List.length_append, h, List.length_drop, hlen]
    omega
  rw [hrest, and_iff_left_of_imp htotal, append_eq_iff hmic, and_iff_right hm, hcut]
  simp only [List.drop_drop, hcutTail]
  exact and_congr eq_comm eq_comm

lemma length_cut {m : ℕ} (hf : hdrlen + 8 + m ≤ f.length) :
    ((f.drop hdrlen).drop (8 + ((f.drop hdrlen).length - 8 - m))).length = m := by
  simp only [List.length_drop]
  omega

lemma cut_eq_iff {enc : Option (List UInt8 × List UInt8)} {hdr : List UInt8} {m : ℕ}
    (henc : ∀ c, enc = some c → c.2.length = m) (hf : hdrlen + 8 + m ≤ f.length)
    (hlen : hdr.length = hdrlen + 8) (hhdr : hdr.drop hdrlen = (f.take (hdrlen + 8)).drop hdrlen) :
    enc = some (((f.drop hdrlen).drop 8).take ((f.drop hdrlen).length - 8 - m),
        (f.drop hdrlen).drop (8 + ((f.drop hdrlen).length - 8 - m))) ↔
      ∃ sealed, enc.map (fun c => hdr ++ c.1 ++ c.2) = some sealed ∧
        sealed.drop hdrlen = f.drop hdrlen ∧ sealed.length = f.length := by
  constructor
  · intro h
    refine ⟨_, by rw [h, Option.map_some], ?_⟩
    exact (sealed_iff hf hlen hhdr (length_cut hf)).2 ⟨rfl, rfl⟩
  · rintro ⟨sealed, hsealed, heq⟩
    obtain ⟨c, hc, rfl⟩ := Option.map_eq_some_iff.1 hsealed
    obtain ⟨hbody, htail⟩ := (sealed_iff hf hlen hhdr (henc c hc)).1 heq
    rw [hc, hbody, htail]

/-- No sealed frame is as short as a header, a packet number and a MIC. -/
lemma sealed_length_ne {hdr body mic : List UInt8} {m : ℕ} (hf : f.length < hdrlen + 8 + m)
    (hm : 0 < m) (hlen : min (hdrlen + 8) f.length ≤ hdr.length) (hmic : mic.length = m) :
    (hdr ++ body ++ mic).length ≠ f.length := by
  rw [List.length_append, List.length_append, hmic]
  omega

/-- The frame that the received one must be the sealed form of: its header and packet number with
the plain text behind it. -/
def plainFrame (f : List UInt8) (hdrlen : ℕ) (plain : List UInt8) : List UInt8 :=
  f.take (hdrlen + 8) ++ plain

lemma length_take_plainFrame (plain : List UInt8) :
    min (hdrlen + 8) f.length ≤ ((plainFrame f hdrlen plain).take (hdrlen + 8)).length := by
  rw [plainFrame, List.length_take, List.length_append, List.length_take]
  omega

lemma take_plainFrame (plain : List UInt8) (hf : hdrlen + 8 ≤ f.length) :
    (plainFrame f hdrlen plain).take (hdrlen + 8) = f.take (hdrlen + 8) := by
  rw [plainFrame, List.take_append_of_le_length (by rw [List.length_take]; omega), List.take_take,
    min_self]

lemma drop_plainFrame (plain : List UInt8) (hf : hdrlen + 8 ≤ f.length) :
    ((plainFrame f hdrlen plain).drop (hdrlen + 8)).take plain.length = plain := by
  rw [plainFrame, List.drop_append_of_le_length (by rw [List.length_take]; omega),
    List.drop_of_length_le (by rw [List.length_take]; omega), List.nil_append, List.take_length]

lemma length_aesCcmAe {E : AesBlock → AesBlock} {m : ℕ} {nonce plain aad : List UInt8}
    {c : List UInt8 × List UInt8} (h : aesCcmAe E m nonce plain aad = some c) :
    c.2.length = m := by
  rw [aesCcmAe] at h
  split_ifs at h with hbad
  obtain rfl := Option.some.inj h
  exact length_aesCcmEncrAuth E (by omega) nonce _

lemma le_length_setIsWep (hdr : List UInt8) : hdr.length ≤ (setIsWep hdr).length := by
  rw [setIsWep, List.length_append, length_leBytes, List.length_drop]
  omega

variable {amsduSpp : Bool} {key plain : List UInt8}

lemma ccmDecrypt_eq_some_iff {keyLen micLen : ℕ} (hdr24 : 24 ≤ hdrlen) (hmic : 0 < micLen) :
    ccmDecrypt (micFns aesEncrypt) keyLen micLen amsduSpp key f (f.drop hdrlen) = some plain ↔
      ∃ sealed, ccmEncrypt aesEncrypt keyLen micLen amsduSpp key (plainFrame f hdrlen plain) hdrlen
          plain.length = some sealed ∧
        sealed.drop hdrlen = f.drop hdrlen ∧ sealed.length = f.length := by
  rw [ccmDecrypt, ccmEncrypt, if_neg hdr24.not_gt, List.length_drop]
  by_cases hshort : f.length - hdrlen < 8 + micLen
  · rw [if_pos hshort]
    refine iff_of_false (by simp) ?_
    rintro ⟨sealed, hsealed, -, hlen⟩
    obtain ⟨c, hc, rfl⟩ := Option.map_eq_some_iff.1 hsealed
    exact sealed_length_ne (by omega) hmic
      ((length_take_plainFrame plain).trans (le_length_setIsWep _)) (length_aesCcmAe hc) hlen
  · rw [if_neg hshort, take_plainFrame plain (by omega), drop_plainFrame plain (by omega)]
    dsimp only
    rw [ccmpNonceFlags_setIsWep, ccmpNonceFlags_take (by omega), addr2Pn_setIsWep,
      addr2Pn_take _ (by omega), aadOf_setIsWep, aadOf_take _ _ (by omega),
      drop_setIsWep _ (by omega), List.drop_take, Nat.add_sub_cancel_left, addr2Pn_data_take,
      ← List.length_drop]
    have hf : hdrlen + 8 + micLen ≤ f.length := by omega
    have hlen : (setIsWep (f.take (hdrlen + 8))).length = hdrlen + 8 := by
      rw [length_setIsWep] <;> rw [List.length_take] <;> omega
    exact (aesCcmAd_eq_some_iff _ (length_cut hf)).trans
      (cut_eq_iff (fun c hc => length_aesCcmAe hc) hf hlen (drop_setIsWep _ (by omega)))

lemma gcmpDecrypt_eq_some_iff {keyLen : ℕ} (hdr24 : 24 ≤ hdrlen) :
    gcmpDecrypt (micFns aesEncrypt) keyLen amsduSpp key f (f.drop hdrlen) = some plain ↔
      ∃ sealed, gcmpEncrypt aesEncrypt keyLen amsduSpp key (plainFrame f hdrlen plain) hdrlen
          plain.length = some sealed ∧
        sealed.drop hdrlen = f.drop hdrlen ∧ sealed.length = f.length := by
  rw [gcmpDecrypt, gcmpEncrypt, if_neg hdr24.not_gt, List.length_drop]
  by_cases hshort : f.length - hdrlen < 8 + 16
  · rw [if_pos hshort]
    refine iff_of_false (by simp) ?_
    rintro ⟨sealed, hsealed, -, hlen⟩
    obtain rfl := Option.some.inj hsealed
    have hf : f.length < hdrlen + 8 + 16 := by omega
    exact sealed_length_ne hf (by decide) (length_take_plainFrame plain) (length_aesGcmTag _ _ _)
      hlen
  · rw [if_neg hshort, take_plainFrame plain (by omega), drop_plainFrame plain (by omega)]
    dsimp only
    rw [addr2Pn_take _ (by omega), aadOf_take _ _ (by omega), List.drop_take,
      Nat.add_sub_cancel_left, addr2Pn_data_take, ← List.length_drop]
    have hf : hdrlen + 8 + 16 ≤ f.length := by omega
    have hlen : (f.take (hdrlen + 8)).length = hdrlen + 8 := by
      rw [List.length_take]
      omega
    have henc : ∀ c, some (aesGcmAe (aesEncrypt (key.take keyLen)) (addr2Pn f (f.drop hdrlen)) plain
        (aadOf 0 amsduSpp f)) = some c → c.2.length = 16 := by
      intro c hc
      obtain rfl := Option.some.inj hc
      exact length_aesGcmTag _ _ _
    refine (aesGcmAd_eq_some_iff (length_cut hf)).trans ?_
    rw [← Option.some_inj, cut_eq_iff henc hf hlen rfl, Option.map_some]

/-- A frame is decrypted to a plain text exactly if encryption of that text, under the header and
the packet number of the frame, gives the frame back behind the header.  (The header itself is
authenticated as far as it is part of the AAD, and CCMP sets its protected bit.) -/
theorem micDecrypt_eq_some_iff (amsduSpp : Bool) (encrypt : SecurityType) (key f plain : List UInt8)
    {hdrlen : ℕ} (hdr24 : 24 ≤ hdrlen) :
    micDecrypt (micFns aesEncrypt) amsduSpp encrypt key f hdrlen = some plain ↔
      ∃ sealed, micEncrypt aesEncrypt amsduSpp encrypt key (plainFrame f hdrlen plain) hdrlen
          plain.length = some sealed ∧
        sealed.drop hdrlen = f.drop hdrlen ∧ sealed.length = f.length := by
  cases encrypt with
  | aes => exact ccmDecrypt_eq_some_iff aesEncrypt hdr24 (by decide)
  | ccmp256 => exact ccmDecrypt_eq_some_iff aesEncrypt hdr24 (by decide)
  | gcmp => exact gcmpDecrypt_eq_some_iff aesEncrypt hdr24
  | gcmp256 => exact gcmpDecrypt_eq_some_iff aesEncrypt hdr24
  | _ => simp [micDecrypt, micEncrypt]

theorem micDecrypt_ccmp_two_bytes :
    micDecrypt (micFns fun _ b => b) false .aes (List.replicate 16 1)
      ([8, 0x41] ++ List.replicate 22 2 ++ [9, 0, 0, 0x20, 0, 0, 0, 0] ++
        [105, 105, 50, 125, 10, 67, 0, 0, 0, 2]) 24 = some [0x68, 0x69] :=
  (micDecrypt_eq_some_iff (fun _ b => b) false .aes (List.replicate 16 1) _ [0x68, 0x69]
    (by decide : 24 ≤ 24)).2 ⟨_, rfl, by decide +kernel, by decide +kernel⟩

end Rtl8723du.Crypto
