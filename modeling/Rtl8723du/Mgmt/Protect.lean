import Rtl8723du.Lib.Machine
import Rtl8723du.Mgmt.BipRoundTrip
import Rtl8723du.Mgmt.Decrypt
import Rtl8723du.Recv.Defrag

/-!
# The gate for protected management frames

`validate_recv_mgnt_frame` hands a management frame to `mgt_dispatcher` when
`validate_mgmt_protect` lets it pass.  `validate_recv_mgnt_frame_protected` says when
the deauthentication, disassociation and robust action frames of a peer that uses
management frame protection are protected by then.
-/

namespace Rtl8723du

open Lib.Bytes Lib.Machine

variable (m : MicFns) (c : DecryptFns)

/-- The part of the adapter that received management frames are checked against. -/
structure MgmtPriv where
  sec : SecurityPriv
  /-- `amsdu_mode` is `RTW_AMSDU_MODE_SPP`. -/
  amsduSpp : Bool
  /-- The stations, by their addresses. -/
  stapriv : MacAddr → Option MgmtPeer
  defrag : DefragPriv

/-- `rtw_get_stainfo`. -/
def MgmtPriv.getStainfo (s : MgmtPriv) (hwaddr : MacAddr) : Option MgmtPeer :=
  s.stapriv (stainfoAddr hwaddr)

/-- The station that sent the frame, `precv_frame->u.hdr.psta`. -/
def MgmtPriv.psta (s : MgmtPriv) (f : RecvFrame) : Option MgmtPeer :=
  s.getStainfo (macAt f.rxData 10)

/-- What `validate_recv_frame` reads from the header. -/
def validateRecvFrame (f : RecvFrame) : RecvFrame :=
  { f with
    attrib :=
      { f.attrib with
        fragNum := getFragNum f.rxData
        seqNum := getSequence f.rxData
        mfrag := getMFrag f.rxData
        privacy := getPrivacy f.rxData
        pktLen := f.rxData.length } }

/-- `SET_ICE_IV_LEN`: the lengths of the IV and of the ICV. -/
def setIceIvLen : SecurityType → ℕ × ℕ
  | .wep40 | .wep104 => (4, 4)
  | .tkip => (8, 4)
  | .aes => (8, 8)
  | .gcmp | .gcmp256 | .ccmp256 => (8, 16)
  | .sms4 => (18, 16)
  | _ => (0, 0)

/-- The attributes of a frame that `validate_mgmt_protect` is going to decrypt. -/
def mgmtDecryptAttrib (psta : MgmtPeer) (f : RecvFrame) : RecvFrame :=
  { f with
    attrib :=
      { f.attrib with
        bdecrypted := false
        encrypt := psta.dot118021XPrivacy
        hdrlen := wlanHdrA3Len
        ivLen := (setIceIvLen psta.dot118021XPrivacy).1
        icvLen := (setIceIvLen psta.dot118021XPrivacy).2
        ra := macAt f.rxData 4
        ta := macAt f.rxData 10 } }

/-- The IV and the ICV are removed from a decrypted frame; the bytes behind it stay. -/
def mgmtRemoveIv (f : RecvFrame) : RecvFrame :=
  let dataLen := f.attrib.pktLen - f.attrib.hdrlen - f.attrib.ivLen - f.attrib.icvLen
  { f with
    rxData := writeAt f.rxData f.attrib.hdrlen
      ((f.rxData.drop (f.attrib.hdrlen + f.attrib.ivLen)).take dataLen)
    attrib := { f.attrib with pktLen := f.attrib.pktLen - f.attrib.ivLen - f.attrib.icvLen } }

/-- `validate_mgmt_protect`: the frame if it passes, and the packet number that
`rtw_bip_verify` accepts.  A frame too short for IV and ICV fails because the length of
its body wraps around and cannot be allocated. -/
def validateMgmtProtect (s : MgmtPriv) (f : RecvFrame) : Option RecvFrame × Option ℕ :=
  if !s.sec.binstallBIPkey then (some f, none)
  else
    let ptr := f.rxData
    let subtype := getFrameSubType ptr
    let isBmc := isMcastAddr1 ptr
    if !f.attrib.privacy then
      match s.psta f with
      | none => (some f, none)
      | some psta =>
          if !psta.mfp then (some f, none)
          else
            let category := if subtype = wifiAction then actionCategory ptr else 0xFF
            if isBmc then
              if subtype = wifiAction ∧ categoryIsGroupPrivacy category then (none, none)
              else if (subtype = wifiAction ∧ categoryIsRobust category) ∨
                  subtype = wifiDeauth ∨ subtype = wifiDisassoc then
                let r := rtwBipVerify m s.sec.dot11wCipher f.attrib.pktLen ptr
                  (s.sec.dot11wBIPKey s.sec.dot11wBIPKeyid) s.sec.dot11wBIPKeyid
                  s.sec.dot11wBIPrxpn
                if r.1 = .success then (some f, some r.2) else (none, none)
              else (some f, none)
            else if subtype = wifiDeauth ∨ subtype = wifiDisassoc then (none, none)
            else if (subtype = wifiAction ∧ categoryIsRobust category) ∧
                psta.bpairwiseKeyInstalled then (none, none)
            else (some f, none)
    else
      match s.psta f with
      | none => (none, none)
      | some psta =>
          if !psta.mfp then (none, none)
          else
            let f := mgmtDecryptAttrib psta f
            if f.attrib.pktLen < f.attrib.hdrlen + f.attrib.ivLen + f.attrib.icvLen then
              (none, none)
            else
              ((decryptor c s.amsduSpp s.sec (s.getStainfo f.attrib.ta) f).map mgmtRemoveIv, none)

/-- `validate_recv_mgnt_frame`, after `validate_recv_frame` has read the header: the
frame that `mgt_dispatcher` gets, and the state. -/
def validateRecvMgntFrame (s : MgmtPriv) (f : RecvFrame) : Option RecvFrame × MgmtPriv :=
  let r := validateMgmtProtect m c s (validateRecvFrame f)
  let s := { s with sec := { s.sec with dot11wBIPrxpn := r.2.getD s.sec.dot11wBIPrxpn } }
  match r.1 with
  | none => (none, s)
  | some g => ((recvframeChkDefrag s.defrag g).1,
      { s with defrag := (recvframeChkDefrag s.defrag g).2 })

/-! ### Runs -/

/-- What happens around the gate: a management frame is received, a station sets the
group key for BIP with its packet number, other keys are set, stations come and go, data
fragments are received. -/
inductive MgmtEvent
  | frame (f : RecvFrame)
  | setIgtk (keyid : ℕ) (key : List UInt8) (seq : ℕ)
  | setKeys (sec : SecurityPriv)
  | setStainfo (stapriv : MacAddr → Option MgmtPeer)
  | defrag (e : DefragEvent)

/-- One event; the packet number that BIP accepts is put out. -/
def mgmtStep (s : MgmtPriv) : MgmtEvent → MgmtPriv × List ℕ
  | .frame f =>
      ((validateRecvMgntFrame m c s f).2,
        (validateMgmtProtect m c s (validateRecvFrame f)).2.toList)
  | .setIgtk keyid key seq =>
      ({ s with
        sec :=
          { s.sec with
            dot11wBIPKey := Function.update s.sec.dot11wBIPKey keyid key
            dot11wBIPKeyid := keyid
            dot11wBIPrxpn := seq
            binstallBIPkey := true } }, [])
  | .setKeys sec => ({ s with sec := { sec with dot11wBIPrxpn := s.sec.dot11wBIPrxpn } }, [])
  | .setStainfo stapriv => ({ s with stapriv := stapriv }, [])
  | .defrag e => ({ s with defrag := (defragStep s.defrag e).1 }, [])

/-! ### What protected frames are -/

/-- A deauthentication, a disassociation or a robust action frame. -/
def isRobustMgmt (ptr : List UInt8) : Bool :=
  getFrameSubType ptr == wifiDeauth || getFrameSubType ptr == wifiDisassoc ||
    getFrameSubType ptr == wifiAction && categoryIsRobust (actionCategory ptr)

/-- The MME at the end of a frame. -/
def mmeOf (gmcs : SecurityType) (frame : List UInt8) : List UInt8 :=
  frame.drop (frame.length - (bipMicLen gmcs + 10))

/-- There is room for an MME behind the header, and its length byte is that of an MME. -/
def HasMmeLen (gmcs : SecurityType) (frame : List UInt8) : Prop :=
  wlanHdrA3Len + (bipMicLen gmcs + 10) ≤ frame.length ∧
    (mmeOf gmcs frame).getD 1 0 = UInt8.ofNat (bipMicLen gmcs + 8)

instance (gmcs : SecurityType) (frame : List UInt8) : Decidable (HasMmeLen gmcs frame) :=
  inferInstanceAs (Decidable (_ ∧ _))

/-- The frame carries an MME whose MIC verifies under the group key in use, with a
packet number above those of a list. -/
structure VerifiedMme (sec : SecurityPriv) (frame : List UInt8) (ipns : List ℕ) : Prop where
  mme : HasMmeLen sec.dot11wCipher frame ∧ (mmeOf sec.dot11wCipher frame).getD 0 0 = mmeIe ∧
    leAt (mmeOf sec.dot11wCipher frame) 2 2 = sec.dot11wBIPKeyid
  mic : ∃ mic, rtwCalculateBipMic m sec.dot11wCipher frame frame.length
      (sec.dot11wBIPKey sec.dot11wBIPKeyid) (bipData (bipMicLen sec.dot11wCipher)
        (frame.take (frame.length - bipMicLen sec.dot11wCipher))) = some mic ∧
    mic.toList.take (bipMicLen sec.dot11wCipher) =
      frame.drop (frame.length - bipMicLen sec.dot11wCipher)
  fresh : ∀ ipn ∈ ipns, ipn < leAt (mmeOf sec.dot11wCipher frame) 4 6

/-- The frame carries the Protected bit, and its MIC is correct under the pairwise key. -/
def PairwiseDecrypted (amsduSpp : Bool) (psta : MgmtPeer) (frame : List UInt8) : Prop :=
  getPrivacy frame ∧ ∃ plain, micDecrypt c amsduSpp psta.dot118021XPrivacy
    psta.dot118021xUncstKey frame wlanHdrA3Len = some plain

/-- The peer uses management frame protection, and both keys are there. -/
structure MgmtPriv.Mfp (s : MgmtPriv) (psta : MgmtPeer) : Prop where
  bip : s.sec.binstallBIPkey
  mfp : psta.mfp
  pairwise : psta.bpairwiseKeyInstalled

/-- What `validate_mgmt_protect` relies on without checking it. -/
structure MgmtPriv.Checked (s : MgmtPriv) (psta : MgmtPeer) (f : RecvFrame) : Prop where
  /-- The frame is not fragmented. -/
  whole : getMFrag f.rxData = false ∧ getFragNum f.rxData = 0
  /-- The pairwise cipher of a unicast frame has a MIC. -/
  cipher : isMcastAddr1 f.rxData = false → getPrivacy f.rxData →
    psta.dot118021XPrivacy.hasCcmpPn
  /-- A group-addressed frame is not encrypted, and a robust one has room for an MME. -/
  group : isMcastAddr1 f.rxData → getPrivacy f.rxData = false ∧
    (isRobustMgmt f.rxData → HasMmeLen s.sec.dot11wCipher f.rxData)

/-- The same for every event: frames of peers with protection, and packet numbers that
are set with a key do not fall behind. -/
def MgmtPriv.EventChecked (s : MgmtPriv) : MgmtEvent → Prop
  | .frame f => ∀ psta, s.psta f = some psta → s.Mfp psta → s.Checked psta f
  | .setIgtk _ _ seq => s.sec.dot11wBIPrxpn ≤ seq
  | _ => True

/-! ### One frame -/

variable {m c}

/-- What a frame carries that `rtw_bip_verify` accepts. -/
lemma rtwBipVerify_success {gmcs : SecurityType} {pktLen keyid ipn : ℕ} {whdr key : List UInt8}
    (h : (rtwBipVerify m gmcs pktLen whdr key keyid ipn).1 = .success) :
    (mmeOf gmcs whdr).getD 0 0 = mmeIe ∧ leAt (mmeOf gmcs whdr) 2 2 = keyid ∧
      ipn < leAt (mmeOf gmcs whdr) 4 6 ∧
      (rtwBipVerify m gmcs pktLen whdr key keyid ipn).2 = leAt (mmeOf gmcs whdr) 4 6 ∧
      ∃ mic, rtwCalculateBipMic m gmcs whdr pktLen key
          (bipData (bipMicLen gmcs) (whdr.take (whdr.length - bipMicLen gmcs))) = some mic ∧
        mic.toList.take (bipMicLen gmcs) = whdr.drop (whdr.length - bipMicLen gmcs) := by
  have hoff : (if bipMicLen gmcs = 8 then 18 else 26) = bipMicLen gmcs + 10 := by
    rw [bipMicLen]
    split <;> rfl
  rw [rtwBipVerify] at h ⊢
  simp only [hoff, wlanHdrA3Len] at h ⊢
  by_cases hlen : whdr.length < 24 ∨ whdr.length - 24 < bipMicLen gmcs
  · simp [hlen] at h
  have hdata : bipAad whdr ++ (whdr.drop 24).take (whdr.length - 24 - bipMicLen gmcs) ++
      List.replicate (bipMicLen gmcs) 0 =
      bipData (bipMicLen gmcs) (whdr.take (whdr.length - bipMicLen gmcs)) := by
    have haad : bipAad (whdr.take (whdr.length - bipMicLen gmcs) ++
        whdr.drop (whdr.length - bipMicLen gmcs)) =
        bipAad (whdr.take (whdr.length - bipMicLen gmcs)) :=
      bipAad_append (by rw [List.length_take]; omega)
    rw [List.take_append_drop] at haad
    rw [bipData, ← haad, wlanHdrA3Len, List.drop_take, Nat.sub_right_comm]
  have hmme : whdr.drop (whdr.length - (bipMicLen gmcs + 10)) = mmeOf gmcs whdr := rfl
  rw [if_neg hlen, hdata] at h ⊢
  simp only [hmme] at h ⊢
  by_cases hid : (mmeOf gmcs whdr).getD 0 0 ≠ mmeIe
  · rw [if_pos hid] at h
    cases h
  by_cases hkeyid : leAt (mmeOf gmcs whdr) 2 2 ≠ keyid
  · rw [if_neg hid, if_pos hkeyid] at h
    cases h
  by_cases hipn : leAt (mmeOf gmcs whdr) 4 6 ≤ ipn
  · rw [if_neg hid, if_neg hkeyid, if_pos hipn] at h
    cases h
  rw [if_neg hid, if_neg hkeyid, if_neg hipn] at h ⊢
  cases hmic : rtwCalculateBipMic m gmcs whdr pktLen key
      (bipData (bipMicLen gmcs) (whdr.take (whdr.length - bipMicLen gmcs))) with
  | none => simp [hmic] at h
  | some mic =>
      by_cases hmatch : mic.toList.take (bipMicLen gmcs) =
        whdr.drop (whdr.length - bipMicLen gmcs)
      · exact ⟨not_not.1 hid, not_not.1 hkeyid, not_le.1 hipn, by simp [hmatch], mic, rfl, hmatch⟩
      · simp [hmic, hmatch] at h

/-- The call of `rtw_bip_verify` for a frame. -/
def MgmtPriv.bipVerify (m : MicFns) (s : MgmtPriv) (f : RecvFrame) : RxRet × ℕ :=
  rtwBipVerify m s.sec.dot11wCipher f.attrib.pktLen f.rxData
    (s.sec.dot11wBIPKey s.sec.dot11wBIPKeyid) s.sec.dot11wBIPKeyid s.sec.dot11wBIPrxpn

/-- A packet number that the gate accepts is above the last one. -/
lemma lt_of_mem_validateMgmtProtect {s : MgmtPriv} {f : RecvFrame} {ipn : ℕ}
    (h : (validateMgmtProtect m c s f).2 = some ipn) : s.sec.dot11wBIPrxpn < ipn := by
  unfold validateMgmtProtect at h
  dsimp only at h
  generalize (if getFrameSubType f.rxData = wifiAction then actionCategory f.rxData else 0xFF)
    = category at h
  repeat' split at h
  all_goals try simp at h
  rename_i hok
  obtain ⟨-, -, hlt, hipn, -⟩ := rtwBipVerify_success hok
  rwa [← h, hipn]

/-- A frame without the Protected bit that passes is passed as it is; if it is robust it
is group-addressed, and BIP accepts it. -/
lemma validateMgmtProtect_plain {s : MgmtPriv} {psta : MgmtPeer} {f g : RecvFrame}
    (hpsta : s.psta f = some psta) (hmfp : s.Mfp psta) (hpriv : f.attrib.privacy = false)
    (h : (validateMgmtProtect m c s f).1 = some g) :
    g = f ∧ (isRobustMgmt f.rxData → isMcastAddr1 f.rxData ∧ (s.bipVerify m f).1 = .success) := by
  have hrobust : isRobustMgmt f.rxData ↔
      (getFrameSubType f.rxData = wifiAction ∧ categoryIsRobust (if getFrameSubType f.rxData =
        wifiAction then actionCategory f.rxData else 0xFF)) ∨
      getFrameSubType f.rxData = wifiDeauth ∨ getFrameSubType f.rxData = wifiDisassoc := by
    rw [isRobustMgmt]
    by_cases hact : getFrameSubType f.rxData = wifiAction
    · simp [hact, or_comm]
    · simp [hact]
  rw [hrobust]
  unfold validateMgmtProtect at h
  simp only [hmfp.bip, hpriv, hpsta, hmfp.mfp, hmfp.pairwise, Bool.not_true, Bool.not_false,
    Bool.false_eq_true, if_true, if_false, and_true] at h
  generalize (if getFrameSubType f.rxData = wifiAction then actionCategory f.rxData else 0xFF)
    = category at h ⊢
  by_cases hgrp : isMcastAddr1 f.rxData
  · rw [if_pos hgrp] at h
    by_cases hpp : getFrameSubType f.rxData = wifiAction ∧ categoryIsGroupPrivacy category
    · simp [hpp] at h
    rw [if_neg hpp] at h
    split at h
    · -- BIP decides
      by_cases hok : (s.bipVerify m f).1 = .success
      · rw [MgmtPriv.bipVerify] at hok
        rw [if_pos hok] at h
        exact ⟨(Option.some.inj h).symm, fun _ => ⟨hgrp, hok⟩⟩
      · rw [MgmtPriv.bipVerify] at hok
        simp [hok] at h
    · rename_i hplain
      exact ⟨(Option.some.inj h).symm, fun hrob => absurd hrob hplain⟩
  · rw [if_neg hgrp] at h
    by_cases hdeauth : getFrameSubType f.rxData = wifiDeauth ∨
        getFrameSubType f.rxData = wifiDisassoc
    · simp [hdeauth] at h
    by_cases hact : getFrameSubType f.rxData = wifiAction ∧ categoryIsRobust category
    · simp [hact] at h
    rw [if_neg hdeauth, if_neg hact] at h
    exact ⟨(Option.some.inj h).symm, fun hrob => (hrob.elim hact hdeauth).elim⟩

lemma isMcast_macAt (ptr : List UInt8) : isMcast (macAt ptr 4) = isMcastAddr1 ptr := by
  simp [isMcast, macAt, isMcastAddr1]

lemma swDecrypt_of_hasCcmpPn {amsduSpp : Bool} {sec : SecurityPriv} {stainfo : Option MgmtPeer}
    {f : RecvFrame} (h : f.attrib.encrypt.hasCcmpPn) :
    swDecrypt c amsduSpp sec stainfo f = swMicDecrypt c amsduSpp sec stainfo f := by
  unfold swDecrypt
  cases he : f.attrib.encrypt <;> simp [he, SecurityType.hasCcmpPn] at h ⊢

/-- Software decryption of a unicast frame whose cipher has a MIC. -/
lemma decryptor_unicast {amsduSpp : Bool} {sec : SecurityPriv} {psta : MgmtPeer}
    {f d : RecvFrame} (hmic : f.attrib.encrypt.hasCcmpPn) (hra : isMcast f.attrib.ra = false)
    (hdec : f.attrib.bdecrypted = false)
    (h : decryptor c amsduSpp sec (some psta) f = some d) :
    ∃ plain, micDecrypt c amsduSpp f.attrib.encrypt psta.dot118021xUncstKey f.rxData
      f.attrib.hdrlen = some plain := by
  have hne : f.attrib.encrypt ≠ .noPrivacy := fun he => by
    simp [he, SecurityType.hasCcmpPn] at hmic
  rw [decryptor, if_neg hne] at h
  simp only [RecvFrame.setKeyIndex, hdec, Bool.false_eq_true, if_false] at h
  rw [swDecrypt_of_hasCcmpPn (by exact hmic)] at h
  obtain ⟨d', hd', rfl⟩ := Option.map_eq_some_iff.1 h
  simp only [swMicDecrypt, swDecryptKey, hra, Bool.false_eq_true, if_false, Option.bind_some] at hd'
  obtain ⟨plain, hplain, rfl⟩ := Option.map_eq_some_iff.1 hd'
  exact ⟨plain, hplain⟩

/-- A unicast frame with the Protected bit that passes has a correct MIC under the
pairwise key, if the pairwise cipher has MICs at all. -/
lemma validateMgmtProtect_unicast {s : MgmtPriv} {psta : MgmtPeer} {f g : RecvFrame}
    (hpsta : s.psta f = some psta) (hmfp : s.Mfp psta) (hpriv : f.attrib.privacy)
    (huni : isMcastAddr1 f.rxData = false) (hmic : psta.dot118021XPrivacy.hasCcmpPn)
    (h : (validateMgmtProtect m c s f).1 = some g) :
    ∃ plain, micDecrypt c s.amsduSpp psta.dot118021XPrivacy psta.dot118021xUncstKey f.rxData
      wlanHdrA3Len = some plain := by
  unfold validateMgmtProtect at h
  simp only [hmfp.bip, hpriv, hpsta, hmfp.mfp, Bool.not_true, Bool.false_eq_true, if_false] at h
  split at h
  · simp at h
  obtain ⟨d, hd, rfl⟩ := Option.map_eq_some_iff.1 h
  have hsta : s.getStainfo (mgmtDecryptAttrib psta f).attrib.ta = some psta := hpsta
  rw [hsta] at hd
  exact decryptor_unicast (f := mgmtDecryptAttrib psta f) hmic
    ((isMcast_macAt f.rxData).trans huni) rfl hd

/-- A whole frame without the Protected bit is handed on as it is. -/
lemma recvframeChkDefrag_plain {s : DefragPriv} {f : RecvFrame} (hmfrag : f.attrib.mfrag = false)
    (hnum : f.attrib.fragNum = 0) (hpriv : f.attrib.privacy = false) :
    (recvframeChkDefrag s f).1 = some f := by
  simp [recvframeChkDefrag, recvframeChkFrag, hmfrag, hnum, hpriv]

/-! ### Runs of the gate -/

/-- All packet numbers that BIP has accepted are at most the last one. -/
def MgmtPriv.IpnInv (s : MgmtPriv) (ipns : List ℕ) : Prop :=
  ∀ ipn ∈ ipns, ipn ≤ s.sec.dot11wBIPrxpn

lemma validateRecvMgntFrame_rxpn (s : MgmtPriv) (f : RecvFrame) :
    (validateRecvMgntFrame m c s f).2.sec.dot11wBIPrxpn =
      (validateMgmtProtect m c s (validateRecvFrame f)).2.getD s.sec.dot11wBIPrxpn := by
  unfold validateRecvMgntFrame
  dsimp only
  split <;> rfl

lemma MgmtPriv.IpnInv.step {s : MgmtPriv} {ipns : List ℕ} {e : MgmtEvent} (hi : s.IpnInv ipns)
    (he : s.EventChecked e) :
    (mgmtStep m c s e).1.IpnInv (ipns ++ (mgmtStep m c s e).2) := by
  cases e with
  | frame f =>
      intro ipn hipn
      simp only [mgmtStep, validateRecvMgntFrame_rxpn] at hipn ⊢
      cases hnew : (validateMgmtProtect m c s (validateRecvFrame f)).2 with
      | none => exact hi ipn (by simpa [hnew] using hipn)
      | some new =>
          have hlt := lt_of_mem_validateMgmtProtect hnew
          have hmem : ipn ∈ ipns ∨ ipn = new := by simpa [hnew] using hipn
          rcases hmem with hold | rfl
          · exact (hi ipn hold).trans hlt.le
          · exact le_rfl
  | setIgtk keyid key seq =>
      intro ipn hipn
      exact (hi ipn (by simpa [mgmtStep] using hipn)).trans he
  | setKeys sec => exact fun ipn hipn => hi ipn (by simpa [mgmtStep] using hipn)
  | setStainfo stapriv => exact fun ipn hipn => hi ipn (by simpa [mgmtStep] using hipn)
  | defrag e => exact fun ipn hipn => hi ipn (by simpa [mgmtStep] using hipn)

/-- Over any run, a deauthentication, disassociation or robust action frame of a peer
with protection that is handed on is protected, as long as what is not checked holds:
a unicast frame has a correct MIC under the pairwise key, a group-addressed frame has an
MME with a correct MIC and a packet number above all that were accepted before. -/
theorem validate_recv_mgnt_frame_protected {s₀ s : MgmtPriv} {es : List MgmtEvent}
    {f out : RecvFrame} {psta : MgmtPeer} (hs : s = final (mgmtStep m c) s₀ es)
    (hes : Along (mgmtStep m c) MgmtPriv.EventChecked s₀ (es ++ [.frame f]))
    (hpsta : s.psta f = some psta) (hmfp : s.Mfp psta)
    (hout : (validateRecvMgntFrame m c s f).1 = some out) (hrobust : isRobustMgmt out.rxData) :
    (isMcastAddr1 f.rxData = false → PairwiseDecrypted c s.amsduSpp psta f.rxData) ∧
      (isMcastAddr1 f.rxData → VerifiedMme m s.sec f.rxData
        (outputs (mgmtStep m c) s₀ es)) := by
  have hchecked : s.Checked psta f := by
    subst hs
    exact along_iff.1 hes es (.frame f) [] rfl psta hpsta hmfp
  have hinv : s.IpnInv (outputs (mgmtStep m c) s₀ es) := by
    subst hs
    exact history_induction (I := MgmtPriv.IpnInv) (h := [])
      (fun s h e he hi => hi.step he) (by simp [MgmtPriv.IpnInv]) hes.left
  rw [validateRecvMgntFrame] at hout
  cases hgate : (validateMgmtProtect m c s (validateRecvFrame f)).1 with
  | none => simp [hgate] at hout
  | some g =>
      rw [hgate] at hout
      by_cases hpriv : getPrivacy f.rxData
      · -- the frame is encrypted, so it is unicast
        have huni : isMcastAddr1 f.rxData = false := by
          by_contra hgrp
          have hplain := (hchecked.group (by simpa using hgrp)).1
          simp [hplain] at hpriv
        refine ⟨fun _ => ⟨hpriv, ?_⟩, fun hgrp => by simp [hgrp] at huni⟩
        exact validateMgmtProtect_unicast (f := validateRecvFrame f) hpsta hmfp hpriv huni
          (hchecked.cipher huni hpriv) hgate
      · -- the frame is not encrypted, so BIP has accepted it
        rw [Bool.not_eq_true] at hpriv
        obtain ⟨rfl, hbip⟩ := validateMgmtProtect_plain (f := validateRecvFrame f) hpsta hmfp hpriv
          hgate
        have hchk : ∀ s' : DefragPriv,
            (recvframeChkDefrag s' (validateRecvFrame f)).1 = some (validateRecvFrame f) :=
          fun _ => recvframeChkDefrag_plain hchecked.whole.1 hchecked.whole.2 hpriv
        obtain rfl : validateRecvFrame f = out := by simpa [hchk] using hout
        obtain ⟨hgrp, hok⟩ := hbip hrobust
        refine ⟨fun huni => absurd hgrp (by simp [validateRecvFrame, huni]), fun _ => ?_⟩
        obtain ⟨hid, hkeyid, hlt, -, hmic⟩ := rtwBipVerify_success hok
        exact ⟨⟨(hchecked.group hgrp).2 hrobust, hid, hkeyid⟩, hmic,
          fun ipn hipn => (hinv ipn hipn).trans_lt hlt⟩

/-- A peer with management frame protection and CCMP. -/
def mfpPeer : MgmtPeer where
  mfp := true
  bpairwiseKeyInstalled := true
  dot118021XPrivacy := .aes
  dot118021xUncstKey := List.replicate 16 0

/-- An adapter that knows one peer, under the keys of `apSecurity`. -/
def mfpPriv : MgmtPriv where
  sec := { apSecurity with
    dot118021XGrpKeyid := 1
    dot118021XGrpKey := fun _ => (List.range 16).map fun i => UInt8.ofNat (16 + i) }
  amsduSpp := false
  stapriv := Function.update (fun _ => none) staAddr (some mfpPeer)
  defrag := .noStations

/-- AES-CCM on the one message that the group key of `mfpPriv` was used for. -/
def gtkDecryptFns : DecryptFns where
  aesCcmAd keyLen key nonce micLen crypt aad auth :=
    if keyLen = 16 ∧ key = (List.range 16).map (fun i => UInt8.ofNat (16 + i)) ∧
        nonce = [0x10, 2, 0, 0, 0, 0, 1, 0, 0, 0, 0, 0, 1] ∧ micLen = 8 ∧ crypt = [242, 199] ∧
        aad = [0xC0, 0x40, 0xff, 0xff, 0xff, 0xff, 0xff, 0xff, 2, 0, 0, 0, 0, 1, 2, 0, 0, 0, 0, 1,
          0, 0] ∧ auth = [184, 142, 255, 147, 79, 9, 144, 57] then some [3, 0]
    else none
  aesGcmAd _ _ _ _ _ _ := none
  rtwWepDecrypt _ f := f
  rtwTkipDecrypt _ _ _ := none

/-- A broadcast deauthentication with an MME. -/
def bipDeauth : RecvFrame where
  attrib := {}
  rxData := deauthFrame ++
    [76, 16, 4, 0, 7, 0, 0, 0, 0, 0, 33, 110, 112, 107, 253, 141, 89, 168]

/-- A broadcast deauthentication encrypted with the group key for data. -/
def gtkDeauth : RecvFrame where
  attrib := {}
  rxData := [0xC0, 0x40, 0, 0, 0xff, 0xff, 0xff, 0xff, 0xff, 0xff, 2, 0, 0, 0, 0, 1,
    2, 0, 0, 0, 0, 1, 0x10, 0, 1, 0, 0, 0x60, 0, 0, 0, 0, 242, 199,
    184, 142, 255, 147, 79, 9, 144, 57]

theorem validate_recv_mgnt_frame_protected_deauth :
    (validateRecvMgntFrame xorMicFns gtkDecryptFns mfpPriv bipDeauth).1 =
        some (validateRecvFrame bipDeauth) ∧
      VerifiedMme xorMicFns mfpPriv.sec bipDeauth.rxData [] := by
  have hout : (validateRecvMgntFrame xorMicFns gtkDecryptFns mfpPriv bipDeauth).1 =
      some (validateRecvFrame bipDeauth) := by decide +kernel
  have hchecked : Along (mgmtStep xorMicFns gtkDecryptFns) MgmtPriv.EventChecked mfpPriv
      ([] ++ [.frame bipDeauth]) := by
    refine ⟨fun psta _ _ => ⟨by decide, fun h => ?_, fun _ => ⟨by decide, fun _ => by decide⟩⟩,
      trivial⟩
    exact absurd h (by decide)
  have hpsta : mfpPriv.psta bipDeauth = some mfpPeer := rfl
  exact ⟨hout, (validate_recv_mgnt_frame_protected rfl hchecked hpsta
    ⟨rfl, rfl, rfl⟩ hout (by decide)).2 (by decide)⟩

/-- A station that holds the group key for data can deauthenticate others: its frame has no
MME and is handed on. -/
theorem validate_recv_mgnt_frame_takes_gtk :
    ∃ out, (validateRecvMgntFrame xorMicFns gtkDecryptFns mfpPriv gtkDeauth).1 = some out ∧
      isRobustMgmt out.rxData ∧ isMcastAddr1 gtkDeauth.rxData ∧
      mfpPriv.psta gtkDeauth = some mfpPeer ∧ mfpPriv.Mfp mfpPeer ∧
      ∀ ipns, ¬VerifiedMme xorMicFns mfpPriv.sec gtkDeauth.rxData ipns := by
  refine ⟨_, rfl, by decide +kernel, by decide, rfl, ⟨rfl, rfl, rfl⟩, fun ipns h => ?_⟩
  have hid := h.mme.2.1
  revert hid
  decide

end Rtl8723du
