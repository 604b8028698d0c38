import Rtl8723du.Mgmt.Bip

/-!
# Sender and receiver of BIP agree

A protected frame is a `signed` part, up to and including the packet number,
followed by the MIC.  The sender and the receiver both compute the MIC over
`bipData` of the signed part (`bipCoalesce_eq`, `rtwBipVerify_append`), so that
the receiver accepts the frame once, and accepts nothing that differs from it in
one authenticated byte (`bip_round_trip`).
-/

namespace Rtl8723du

open Lib.Bytes

variable {m : MicFns} {gmcs : SecurityType} {key signed tail pframe : List UInt8} {keyid ipn : ℕ}

/-! ### The authenticated data -/

/-- The data that the MIC is computed over, for a frame with this signed part. -/
def bipData (micLen : ℕ) (signed : List UInt8) : List UInt8 :=
  bipAad signed ++ signed.drop wlanHdrA3Len ++ List.replicate micLen 0

/-- The masked header depends on the first 22 bytes only. -/
lemma bipAad_append (h : 22 ≤ signed.length) : bipAad (signed ++ tail) = bipAad signed := by
  rw [bipAad, bipAad, List.take_append_of_le_length (by omega),
    List.drop_append_of_le_length (by omega),
    List.take_append_of_le_length (by rw [List.length_drop]; omega)]

lemma bipAad_set_of_le {i : ℕ} (hi : 22 ≤ i) (x : UInt8) :
    bipAad (signed.set i x) = bipAad signed := by
  rw [bipAad, bipAad, List.take_set_of_le (by omega), List.drop_set, if_neg (by omega),
    List.take_set_of_le (by omega)]

/-- A changed byte of the header changes at most one byte of the masked header. -/
lemma bipAad_set (i : ℕ) (x : UInt8) :
    bipAad (signed.set i x) = bipAad signed ∨
      OneByte (bipAad signed) (bipAad (signed.set i x)) := by
  refine or_iff_not_imp_left.2 fun hne => ⟨hne, ?_⟩
  match signed, i with
  | [], _ => exact absurd rfl hne
  | [a], 0 => exact ⟨0, x, rfl⟩
  | [a], i + 1 => exact absurd rfl hne
  | a :: b :: rest, 0 => exact ⟨0, x, rfl⟩
  | a :: b :: rest, 1 => exact ⟨1, x &&& ~~~0x08 &&& ~~~0x10 &&& ~~~0x20, rfl⟩
  | a :: b :: rest, i + 2 =>
      have hdrop : ((a :: b :: rest).set (i + 2) x).drop 4 =
          if i < 2 then rest.drop 2 else (rest.drop 2).set (i - 2) x := by
        rw [List.drop_set]
        by_cases hi : i < 2
        · rw [if_pos (by omega), if_pos hi]
          rfl
        · rw [if_neg (by omega), if_neg hi]
          congr 1
      by_cases hi : i < 2
      · rw [if_pos hi] at hdrop
        exact absurd (by rw [bipAad, hdrop]; rfl) hne
      · rw [if_neg hi] at hdrop
        refine ⟨i, x, ?_⟩
        rw [bipAad, List.take_set_of_le (by omega), hdrop, List.take_set, bipAad,
          List.set_append_right _ _ (show 2 ≤ i by omega)]
        rfl

/-- The masked header shows the change of a byte: not in the duration and the sequence
control, and in the second byte only outside the bits Retry, PwrMgt and MoreData. -/
def ShownInHeader (i : ℕ) (a x : UInt8) : Prop :=
  i = 0 ∧ a ≠ x ∨ i = 1 ∧ a &&& 0xC7 ≠ x &&& 0xC7 ∨ (4 ≤ i ∧ i < 22) ∧ a ≠ x

lemma bipAad_set_ne_iff {i : ℕ} (hi : i < signed.length) (x : UInt8) :
    bipAad (signed.set i x) ≠ bipAad signed ↔ ShownInHeader i signed[i] x := by
  match signed, i with
  | [], _ => exact absurd hi (Nat.not_lt_zero _)
  | [a], 0 => simp [bipAad, clearMData, clearPwrMgt, clearRetry, clearFcBit, ShownInHeader, eq_comm]
  | [a], i + 1 => exact absurd hi (by simp)
  | a :: b :: rest, 0 =>
      simp [bipAad, clearMData, clearPwrMgt, clearRetry, clearFcBit, ShownInHeader, eq_comm]
  | a :: b :: rest, 1 =>
      have hmask (y : UInt8) : y &&& ~~~0x08 &&& ~~~0x10 &&& ~~~0x20 = y &&& 0xC7 := by
        rw [UInt8.and_assoc, UInt8.and_assoc]
        rfl
      simp [bipAad, clearMData, clearPwrMgt, clearRetry, clearFcBit, ShownInHeader, hmask, eq_comm]
  | a :: b :: rest, i + 2 =>
      have hrest : i < rest.length := by simpa using hi
      have hbyte : (a :: b :: rest)[i + 2] = rest[i] := rfl
      by_cases hi2 : i < 2
      · refine iff_of_false (fun hne => hne ?_) (by rintro (h | h | h) <;> omega)
        simp [bipAad, List.drop_set, hi2]
      by_cases hi20 : 20 ≤ i
      · exact iff_of_false (fun hne => hne (bipAad_set_of_le (by omega) x))
          (by rintro (h | h | h) <;> omega)
      have hshown : ShownInHeader (i + 2) rest[i] x ↔ rest[i] ≠ x := by
        constructor
        · rintro (h | h | h)
          · omega
          · omega
          · exact h.2
        · exact fun h => .inr (.inr ⟨by omega, h⟩)
      have hlt : i - 2 < ((rest.drop 2).take 18).length := by
        rw [List.length_take, List.length_drop]
        omega
      have hget : ((rest.drop 2).take 18)[i - 2] = rest[i] := by
        rw [List.getElem_take, List.getElem_drop]
        congr 1
        omega
      have hset : bipAad ((a :: b :: rest).set (i + 2) x) =
          clearMData (clearPwrMgt (clearRetry [a, b])) ++
            ((rest.drop 2).take 18).set (i - 2) x := by
        rw [bipAad, List.take_set_of_le (by omega), List.drop_set, if_neg (by omega), List.take_set]
        rfl
      rw [hbyte, hshown, hset, ← hget]
      constructor
      · rintro hne rfl
        exact hne (by rw [List.set_getElem_self]; rfl)
      · intro hne heq
        exact (OneByte.set hlt hne).1 (List.append_cancel_left heq)

/-- A changed byte of the signed part that the receiver has to notice changes one
byte of the authenticated data. -/
lemma bipData_set {i : ℕ} {x : UInt8} (hi : i < signed.length)
    (hx : 24 ≤ i ∧ signed[i] ≠ x ∨ ShownInHeader i signed[i] x) (micLen : ℕ) :
    OneByte (bipData micLen signed) (bipData micLen (signed.set i x)) := by
  rw [← bipAad_set_ne_iff hi] at hx
  simp only [bipData, wlanHdrA3Len]
  refine OneByte.append_right ?_ _
  by_cases h24 : 24 ≤ i
  · have hbyte : signed[i] ≠ x := by
      rcases hx with hx | hx
      · exact hx.2
      · exact absurd (bipAad_set_of_le (by omega) x) hx
    rw [bipAad_set_of_le (by omega), List.drop_set, if_neg (by omega)]
    refine OneByte.append_left (OneByte.set (by rw [List.length_drop]; omega) ?_) _
    simpa [Nat.add_sub_cancel' h24] using hbyte
  · have haad : bipAad (signed.set i x) ≠ bipAad signed := hx.resolve_left fun h => h24 h.1
    rw [List.drop_set, if_pos (by omega)]
    exact ((bipAad_set i x).resolve_left haad).append_right _

/-! ### The two computations of the MIC -/

/-- The MIC does not depend on the bytes of the frame after the signed part. -/
lemma rtwCalculateBipMic_append (h : 16 ≤ signed.length) (t t' data : List UInt8) :
    rtwCalculateBipMic m gmcs (signed ++ t) (signed.length + bipMicLen gmcs) key data =
      rtwCalculateBipMic m gmcs (signed ++ t') (signed.length + bipMicLen gmcs) key data := by
  have hnonce : ∀ keyLen, bipGcmpProtect m (signed ++ t) (signed.length + 16) key keyLen data =
      bipGcmpProtect m (signed ++ t') (signed.length + 16) key keyLen data := by
    intro keyLen
    have hipn : ∀ t : List UInt8, ((signed ++ t).drop (signed.length + 16 - 16 - 6)).take 6 =
        signed.drop (signed.length - 6) := by
      intro t
      rw [Nat.add_sub_cancel, List.drop_append_of_le_length (by omega)]
      exact List.take_left' (by rw [List.length_drop]; omega)
    have hta : ∀ t : List UInt8, ((signed ++ t).drop 10).take 6 = (signed.drop 10).take 6 := by
      intro t
      rw [List.drop_append_of_le_length (by omega),
        List.take_append_of_le_length (by rw [List.length_drop]; omega)]
    simp only [bipGcmpProtect, hipn, hta]
  cases gmcs <;> simp [rtwCalculateBipMic, bipMicLen, hnonce]

/-- `rtw_bip_verify` on a signed part and a MIC. -/
lemma rtwBipVerify_append (h : 24 ≤ signed.length) (ht : tail.length = bipMicLen gmcs) :
    rtwBipVerify m gmcs (signed.length + bipMicLen gmcs) (signed ++ tail) key keyid ipn =
      let mme := signed.drop (signed.length - 10)
      if mme.getD 0 0 ≠ mmeIe then (.handled, ipn)
      else if leAt mme 2 2 ≠ keyid then (.fail, ipn)
      else if leAt mme 4 6 ≤ ipn then (.fail, ipn)
      else
        (rtwCalculateBipMic m gmcs (signed ++ tail) (signed.length + bipMicLen gmcs) key
            (bipData (bipMicLen gmcs) signed)).elim (.fail, ipn) fun mic =>
          if mic.toList.take (bipMicLen gmcs) = tail then (.success, leAt mme 4 6)
          else (.fail, ipn) := by
  have hlen : (signed ++ tail).length = signed.length + bipMicLen gmcs := by
    rw [List.length_append, ht]
  have hoff : (if bipMicLen gmcs = 8 then 18 else 26) = bipMicLen gmcs + 10 := by
    simp only [bipMicLen]
    split <;> rfl
  have hmme : (signed ++ tail).drop (signed.length + bipMicLen gmcs - (bipMicLen gmcs + 10)) =
      signed.drop (signed.length - 10) ++ tail := by
    rw [← List.drop_append_of_le_length (by omega)]
    congr 1
    omega
  have hmmelen : (signed.drop (signed.length - 10)).length = 10 := by
    rw [List.length_drop]
    omega
  have hid : (signed.drop (signed.length - 10) ++ tail).getD 0 0 =
      (signed.drop (signed.length - 10)).getD 0 0 := by
    rw [List.getD_eq_getElem?_getD, List.getElem?_append_left (by omega),
      List.getD_eq_getElem?_getD]
  have hguard : ¬(signed.length + bipMicLen gmcs < 24 ∨
      signed.length + bipMicLen gmcs - 24 < bipMicLen gmcs) := by omega
  have hbody : ((signed ++ tail).drop 24).take (signed.length + bipMicLen gmcs - 24 -
      bipMicLen gmcs) = signed.drop 24 := by
    rw [List.drop_append_of_le_length h]
    refine List.take_left' ?_
    rw [List.length_drop]
    omega
  have htail : (signed ++ tail).drop (signed.length + bipMicLen gmcs - bipMicLen gmcs) = tail :=
    List.drop_left' (by omega)
  simp only [rtwBipVerify, wlanHdrA3Len, hlen, hoff, hguard, if_false, hmme, hid, hbody, htail,
    leAt_append (show 2 + 2 ≤ (signed.drop (signed.length - 10)).length by omega),
    leAt_append (show 4 + 6 ≤ (signed.drop (signed.length - 10)).length by omega),
    bipAad_append (show 22 ≤ signed.length by omega), bipData]
  cases rtwCalculateBipMic m gmcs (signed ++ tail) (signed.length + bipMicLen gmcs) key
    (bipAad signed ++ signed.drop 24 ++ List.replicate (bipMicLen gmcs) 0) with
  | none => rfl
  | some mic => rfl

/-- The receiver accepts only the MIC that it computes itself. -/
lemma mic_of_rtwBipVerify (h : 24 ≤ signed.length) (ht : tail.length = bipMicLen gmcs)
    (hok : (rtwBipVerify m gmcs (signed.length + bipMicLen gmcs) (signed ++ tail) key keyid
      ipn).1 = .success) :
    ∃ mic, rtwCalculateBipMic m gmcs (signed ++ tail) (signed.length + bipMicLen gmcs) key
        (bipData (bipMicLen gmcs) signed) = some mic ∧
      mic.toList.take (bipMicLen gmcs) = tail := by
  rw [rtwBipVerify_append h ht] at hok
  dsimp only at hok
  split at hok
  · cases hok
  split at hok
  · cases hok
  split at hok
  · cases hok
  rcases hmic : rtwCalculateBipMic m gmcs (signed ++ tail) (signed.length + bipMicLen gmcs) key
    (bipData (bipMicLen gmcs) signed) with _ | mic
  · rw [hmic] at hok
    cases hok
  · rw [hmic, Option.elim_some] at hok
    split at hok
    · exact ⟨mic, rfl, ‹_›⟩
    · cases hok

/-- The MME up to the MIC. -/
def bipMme (gmcs : SecurityType) (keyid val : ℕ) : List UInt8 :=
  [mmeIe, UInt8.ofNat (bipMicLen gmcs + 8), UInt8.ofNat keyid, 0] ++ leBytes 6 val

/-- What the receiver reads from the MME. -/
lemma bipMme_fields (gmcs : SecurityType) {val : ℕ} (hkeyid : keyid < 256) (hval : val < 2 ^ 48) :
    (bipMme gmcs keyid val).getD 0 0 = mmeIe ∧ leAt (bipMme gmcs keyid val) 2 2 = keyid ∧
      leAt (bipMme gmcs keyid val) 4 6 = val := by
  refine ⟨rfl, ?_, ?_⟩
  · simp [bipMme, leAt, leNat, UInt8.toNat_ofNat', Nat.mod_eq_of_lt hkeyid]
  · rw [bipMme, leAt]
    exact leNat_leBytes (k := 6) (by omega)

/-- The part of a protected frame before the MIC. -/
def bipSigned (gmcs : SecurityType) (keyid val : ℕ) (pframe : List UInt8) : List UInt8 :=
  pframe ++ bipMme gmcs keyid val

lemma length_bipSigned (gmcs : SecurityType) (keyid val : ℕ) (pframe : List UInt8) :
    (bipSigned gmcs keyid val pframe).length = pframe.length + 10 := by
  simp [bipSigned, bipMme]

/-- The MME of the sender, before the MIC is written into it. -/
lemma rtwSetIe_mmeCont {val : ℕ} (hval : val < 2 ^ 48) :
    pframe ++ rtwSetIe mmeIe (bipMicLen gmcs + 8) (mmeCont keyid val) =
      bipSigned gmcs keyid val pframe ++ List.replicate (bipMicLen gmcs) 0 := by
  have hle : leBytes 8 val = leBytes 6 val ++ [0, 0] := by
    rw [leBytes_add 6 2, Nat.div_eq_of_lt (by omega)]
    rfl
  rw [bipSigned, bipMme, rtwSetIe, mmeCont, hle, bipMicLen]
  split <;> simp [List.take_append, List.replicate_succ]

/-- The sender computes the MIC over `bipData` of the signed part, and appends it. -/
lemma bipCoalesce_eq {sec : SecurityPriv} (hlen : 24 ≤ pframe.length)
    (hval : sec.dot11wBIPtxpn + 1 < 2 ^ 48) :
    bipCoalesce m sec pframe =
      let signed := bipSigned sec.dot11wCipher sec.dot11wBIPKeyid (sec.dot11wBIPtxpn + 1) pframe
      let micLen := bipMicLen sec.dot11wCipher
      let sec' := { sec with dot11wBIPtxpn := sec.dot11wBIPtxpn + 1 }
      match rtwCalculateBipMic m sec.dot11wCipher (signed ++ List.replicate micLen 0)
          (signed.length + micLen) (sec.dot11wBIPKey sec.dot11wBIPKeyid)
          (bipData micLen signed) with
      | none => (.fail, sec')
      | some mic => (.bip (signed ++ mic.toList.take micLen), sec') := by
  have hclen : (if sec.dot11wCipher = .bipCmac128 then 16 else 24) =
      bipMicLen sec.dot11wCipher + 8 := by
    rw [bipMicLen]
    split <;> rfl
  have hmod : (sec.dot11wBIPtxpn + 1) % 2 ^ 64 = sec.dot11wBIPtxpn + 1 :=
    Nat.mod_eq_of_lt (by omega)
  simp only [bipCoalesce, hclen, hmod, rtwSetIe_mmeCont hval]
  generalize hs : bipSigned sec.dot11wCipher sec.dot11wBIPKeyid (sec.dot11wBIPtxpn + 1) pframe
    = signed
  have hsigned : 24 ≤ signed.length := by
    rw [← hs, length_bipSigned]
    omega
  rw [List.length_append, List.length_replicate, bipAad_append (by omega),
    List.drop_append_of_le_length hsigned, ← List.append_assoc]
  change (match rtwCalculateBipMic m sec.dot11wCipher _ _ _
    (bipData (bipMicLen sec.dot11wCipher) signed) with | none => _ | some mic => _) = _
  split
  · rfl
  · rename_i mic _
    have hcut : ∀ n, n = bipMicLen sec.dot11wCipher →
        (signed ++ List.replicate (bipMicLen sec.dot11wCipher) (0 : UInt8)).take
          (signed.length + bipMicLen sec.dot11wCipher - n) = signed := by
      rintro n rfl
      exact List.take_left' (by omega)
    by_cases hc : sec.dot11wCipher = .bipCmac128
    · rw [if_pos hc, hcut 8 (by rw [bipMicLen, if_pos hc]), bipMicLen, if_pos hc]
    · rw [if_neg hc, hcut 16 (by rw [bipMicLen, if_neg hc]), bipMicLen, if_neg hc]

/-! ### The round trip -/

/-- No two messages that differ in one byte have the same MIC, as far as it is sent. -/
structure MicFns.NoCollision (m : MicFns) : Prop where
  omac1Aes : ∀ {keyLen key data data' mic mic'}, OneByte data data' →
    m.omac1Aes keyLen key data = some mic → m.omac1Aes keyLen key data' = some mic' →
      mic.toList.take 8 ≠ mic'.toList.take 8
  aesGmac : ∀ {keyLen key nonce nonce' data data' mic mic'}, OneByte data data' →
    m.aesGmac keyLen key nonce data = some mic → m.aesGmac keyLen key nonce' data' = some mic' →
      mic ≠ mic'

lemma MicFns.NoCollision.mic_ne (hm : m.NoCollision) {whdr whdr' data data' : List UInt8} {len : ℕ}
    {mic mic' : Vector UInt8 16} (hd : OneByte data data')
    (h : rtwCalculateBipMic m gmcs whdr len key data = some mic)
    (h' : rtwCalculateBipMic m gmcs whdr' len key data' = some mic') :
    mic.toList.take (bipMicLen gmcs) ≠ mic'.toList.take (bipMicLen gmcs) := by
  have hfull : mic ≠ mic' → mic.toList.take 16 ≠ mic'.toList.take 16 := by
    intro hne heq
    rw [List.take_of_length_le (by simp), List.take_of_length_le (by simp)] at heq
    exact hne (Vector.toList_inj.1 heq)
  cases gmcs with
  | bipCmac128 => exact hm.omac1Aes hd h h'
  | bipCmac256 =>
      refine hfull fun heq => hm.omac1Aes hd h h' ?_
      rw [heq]
  | bipGmac128 => exact hfull (hm.aesGmac hd h h')
  | bipGmac256 => exact hfull (hm.aesGmac hd h h')
  | _ => simp [rtwCalculateBipMic] at h

/-- Only the BIP branch appends an MME. -/
lemma bipCoalesce_of_bip {sec sec' : SecurityPriv} {psta : Option MgmtPeer} {out : List UInt8}
    (h : rtwMgmtXmitframeCoalesce m sec psta pframe = (.bip out, sec')) :
    bipCoalesce m sec pframe = (.bip out, sec') := by
  simp only [rtwMgmtXmitframeCoalesce] at h
  generalize (if getFrameSubType pframe = wifiAction then actionCategory pframe else 0xFF)
    = category at h
  split at h
  · cases h
  split at h
  · cases h
  split at h
  · split at h
    · split at h <;> cases h
    · split at h
      · cases h
      · exact h
  · split at h
    · cases h
    · split at h
      · cases h
      · split at h <;> cases h

/-- The last ten bytes of the signed part are the MME up to the MIC. -/
lemma drop_bipSigned (gmcs : SecurityType) (keyid val : ℕ) (pframe : List UInt8) :
    (bipSigned gmcs keyid val pframe).drop ((bipSigned gmcs keyid val pframe).length - 10) =
      bipMme gmcs keyid val := by
  rw [length_bipSigned, Nat.add_sub_cancel, bipSigned]
  exact List.drop_left' rfl

/-- A receiver with the same key, and a smaller packet number, accepts the protected
frame and from then on rejects it.  It accepts no frame that differs in one byte of
the masked header, the body or the MME. -/
theorem bip_round_trip (hm : m.NoCollision) {sec sec' : SecurityPriv} {psta : Option MgmtPeer}
    {out : List UInt8} {rxpn : ℕ} (hlen : 24 ≤ pframe.length) (hkeyid : sec.dot11wBIPKeyid < 256)
    (hpn : sec.dot11wBIPtxpn < 2 ^ 48)
    (hout : rtwMgmtXmitframeCoalesce m sec psta pframe = (.bip out, sec'))
    (hrx : rxpn < (sec.dot11wBIPtxpn + 1) % 2 ^ 48) :
    sec.bipVerify m out rxpn = (.success, sec.dot11wBIPtxpn + 1) ∧
      (sec.bipVerify m out (sec.bipVerify m out rxpn).2).1 = .fail ∧
      ∀ (i : ℕ) (x : UInt8) (hi : i < out.length),
        (24 ≤ i ∧ out[i] ≠ x ∨ ShownInHeader i out[i] x) →
          ∀ ipn, (sec.bipVerify m (out.set i x) ipn).1 ≠ .success := by
  simp only [SecurityPriv.bipVerify]
  have hval : sec.dot11wBIPtxpn + 1 < 2 ^ 48 := by omega
  rw [Nat.mod_eq_of_lt hval] at hrx
  have hsend := bipCoalesce_of_bip hout
  rw [bipCoalesce_eq hlen hval] at hsend
  dsimp only at hsend
  -- from here on `val` is the packet number of the frame
  generalize sec.dot11wBIPtxpn + 1 = val at *
  generalize hkey : sec.dot11wBIPKey sec.dot11wBIPKeyid = key at *
  have hmme := drop_bipSigned sec.dot11wCipher sec.dot11wBIPKeyid val pframe
  have hslen := length_bipSigned sec.dot11wCipher sec.dot11wBIPKeyid val pframe
  generalize bipSigned sec.dot11wCipher sec.dot11wBIPKeyid val pframe = signed at *
  split at hsend
  · cases hsend
  rename_i mic hmic
  obtain ⟨rfl, -⟩ : signed ++ mic.toList.take (bipMicLen sec.dot11wCipher) = out ∧ _ := by
    simpa using hsend
  have hml : bipMicLen sec.dot11wCipher ≤ 16 := by
    rw [bipMicLen]
    split <;> decide
  have htail : (mic.toList.take (bipMicLen sec.dot11wCipher)).length =
      bipMicLen sec.dot11wCipher := by
    rw [List.length_take, Vector.length_toList]
    omega
  have hframe : ∀ {s t : List UInt8}, s.length = signed.length →
      t.length = bipMicLen sec.dot11wCipher →
      (s ++ t).length = s.length + bipMicLen sec.dot11wCipher := by
    intro s t _ ht
    rw [List.length_append, ht]
  have hsame : ∀ t t' data, rtwCalculateBipMic m sec.dot11wCipher (signed ++ t)
      (signed.length + bipMicLen sec.dot11wCipher) key data =
      rtwCalculateBipMic m sec.dot11wCipher (signed ++ t')
        (signed.length + bipMicLen sec.dot11wCipher) key data :=
    rtwCalculateBipMic_append (by omega)
  have hverify : ∀ ipn, rtwBipVerify m sec.dot11wCipher
      (signed ++ mic.toList.take (bipMicLen sec.dot11wCipher)).length
      (signed ++ mic.toList.take (bipMicLen sec.dot11wCipher)) key sec.dot11wBIPKeyid ipn =
        if val ≤ ipn then (.fail, ipn) else (.success, val) := by
    intro ipn
    obtain ⟨hie, hid, hipn⟩ := bipMme_fields sec.dot11wCipher hkeyid hval
    rw [hframe rfl htail, rtwBipVerify_append (by omega) htail, hmme]
    simp only [hie, hid, hipn, hsame _ (List.replicate (bipMicLen sec.dot11wCipher) 0), hmic,
      ne_eq, not_true, if_false, if_true, Option.elim_some]
  refine ⟨?_, ?_, ?_⟩
  · rw [hverify, if_neg (by omega)]
  · rw [hverify rxpn, if_neg (by omega), hverify, if_pos le_rfl]
  · intro i x hi hx ipn hok
    rw [List.length_append, htail] at hi
    by_cases his : i < signed.length
    · -- the authenticated data is changed, and with it the MIC that the receiver computes
      rw [List.set_append_left _ _ his, hframe (List.length_set ..) htail] at hok
      obtain ⟨mic', hmic', heq⟩ := mic_of_rtwBipVerify (by rw [List.length_set]; omega) htail hok
      have hone : OneByte (bipData (bipMicLen sec.dot11wCipher) signed)
          (bipData (bipMicLen sec.dot11wCipher) (signed.set i x)) := by
        refine bipData_set his ?_ _
        rw [List.getElem_append_left his] at hx
        exact hx
      rw [List.length_set] at hmic'
      exact hm.mic_ne hone hmic hmic' heq.symm
    · -- the MIC itself is changed
      rw [List.set_append_right _ _ (by omega)] at hok
      have hset :
          ((mic.toList.take (bipMicLen sec.dot11wCipher)).set (i - signed.length) x).length =
          bipMicLen sec.dot11wCipher := by rw [List.length_set, htail]
      rw [hframe rfl hset] at hok
      obtain ⟨mic', hmic', heq⟩ := mic_of_rtwBipVerify (by omega) hset hok
      rw [hsame _ (List.replicate (bipMicLen sec.dot11wCipher) 0), hmic] at hmic'
      obtain rfl := Option.some.inj hmic'
      have hbyte : (mic.toList.take (bipMicLen sec.dot11wCipher))[i - signed.length] ≠ x := by
        rw [List.getElem_append_right (by omega)] at hx
        rcases hx with hx | hx | hx | hx
        · exact hx.2
        · exact hx.2
        · omega
        · exact hx.2
      exact (OneByte.set (by omega) hbyte).1 heq.symm

/-! ### A protected deauthentication -/

/-- The exclusive or of the bytes. -/
def xorSum : List UInt8 → UInt8
  | [] => 0
  | b :: bs => b ^^^ xorSum bs

/-- A MIC that tells messages apart that differ in one byte.  On the message of
`bip_round_trip_deauth` it is the AES-128-CMAC. -/
def xorMic (data : List UInt8) : Vector UInt8 16 :=
  #v[189 ^^^ xorSum data, 110, 112, 107, 253, 141, 89, 168, 119, 158, 202, 194, 54, 220, 33, 214]

def xorMicFns : MicFns where
  omac1Aes _ _ data := some (xorMic data)
  aesGmac _ _ _ data := some (xorMic data)

lemma xorSum_set_ne {a : List UInt8} {i : ℕ} {x : UInt8} (hne : a.set i x ≠ a) :
    xorSum (a.set i x) ≠ xorSum a := by
  induction a generalizing i with
  | nil => exact absurd rfl hne
  | cons b bs ih =>
      cases i with
      | zero =>
          intro heq
          exact hne (by rw [List.set_cons_zero, (UInt8.xor_left_inj _).1 heq])
      | succ i =>
          intro heq
          rw [List.set_cons_succ] at hne heq
          exact ih (fun h => hne (by rw [h])) ((UInt8.xor_right_inj _).1 heq)

lemma xorMic_ne {a b : List UInt8} (h : OneByte a b) :
    (xorMic a).toList.take 8 ≠ (xorMic b).toList.take 8 := by
  obtain ⟨hne, i, x, rfl⟩ := h
  intro heq
  have hhead := congrArg List.head? heq
  simp only [xorMic] at hhead
  exact xorSum_set_ne hne ((UInt8.xor_right_inj _).1 (Option.some.inj hhead)).symm

lemma xorMicFns_noCollision : xorMicFns.NoCollision where
  omac1Aes hd h h' := by
    obtain rfl := Option.some.inj h
    obtain rfl := Option.some.inj h'
    exact xorMic_ne hd
  aesGmac hd h h' := by
    obtain rfl := Option.some.inj h
    obtain rfl := Option.some.inj h'
    exact fun heq => xorMic_ne hd (by rw [heq])

/-- An access point that has sent six frames under the group key 4. -/
def apSecurity : SecurityPriv where
  binstallGrpkey := true
  binstallBIPkey := true
  dot11wCipher := .bipCmac128
  dot11wBIPKeyid := 4
  dot11wBIPKey _ := [0, 1, 2, 3, 4, 5, 6, 7, 8, 9, 10, 11, 12, 13, 14, 15]
  dot11wBIPtxpn := 6
  dot11wBIPrxpn := 0

/-- A broadcast deauthentication, with the Retry bit set. -/
def deauthFrame : List UInt8 :=
  [0xC0, 0x08, 0, 0, 0xff, 0xff, 0xff, 0xff, 0xff, 0xff, 2, 0, 0, 0, 0, 1, 2, 0, 0, 0, 0, 1,
    0x10, 0, 3, 0]

theorem bip_round_trip_deauth :
    apSecurity.bipVerify xorMicFns
        (deauthFrame ++ [76, 16, 4, 0, 7, 0, 0, 0, 0, 0, 33, 110, 112, 107, 253, 141, 89, 168]) 6 =
      (.success, 7) := by
  have hout : (rtwMgmtXmitframeCoalesce xorMicFns apSecurity none deauthFrame).1 = .bip
      (deauthFrame ++ [76, 16, 4, 0, 7, 0, 0, 0, 0, 0, 33, 110, 112, 107, 253, 141, 89, 168]) := by
    decide +kernel
  exact (bip_round_trip xorMicFns_noCollision (by decide) (by decide) (by decide)
    (Prod.ext hout rfl) (by decide)).1

end Rtl8723du
