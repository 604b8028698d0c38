import Rtl8723du.Xmit.Tkip

/-!
# Fragments and their reassembly

The MPDUs of an MSDU that `rtw_xmitframe_coalesce` has made, received by `recvframe_chk_defrag`.
The fragment number is never set, so every fragment has the number zero: the receiver starts again
with each, and hands the last one on alone.
-/

namespace Rtl8723du.Xmit

open Lib.Bytes Lib.Machine

/-! ### What is received -/

/-- What the MPDUs are to put together: the LLC header and the payload. -/
def Msdu.data (m : Msdu) : List UInt8 := rtwPutSnap m.pkt.etherType ++ m.pkt.payload

/-- The MIC over that. -/
def Msdu.mic (m : Msdu) (encrypt : SecurityType) (pn : ℕ) (keys : TkipTxKeys) : Vector UInt8 8 :=
  ⟨(singleMic (m.attrib encrypt pn) keys
    (lastHdr (m.attrib encrypt pn) ++ (m.attrib encrypt pn).iv) m.data).toArray, by simp⟩

variable (m : Msdu) (encrypt : SecurityType) (pn : ℕ) (keys : TkipTxKeys) (s : DefragPriv)
  (icv : Mpdu → Vector UInt8 (icvLen encrypt))

/-- The frames as they are received and decrypted, with their ICVs. -/
def Msdu.frames : List RecvFrame :=
  (addMic (m.attrib encrypt pn) (m.mic encrypt pn keys) (m.mpdus encrypt pn)).map fun f =>
    rxEncrypted (m.attrib encrypt pn) (f.hdr ++ f.iv ++ f.body ++ (icv f).toList)

/-- `recvframe_chk_defrag` gets a frame, and hands one on or not. -/
def chkDefragStep (s : DefragPriv) (f : RecvFrame) : DefragPriv × List RecvFrame :=
  ((recvframeChkDefrag s f).2, (recvframeChkDefrag s f).1.toList)

/-- The MPDUs are numbered from zero on, all but the last say that more follow, their bodies make
the MSDU, and the receiver makes it of them. -/
structure Reassembles : Prop where
  numbered : (m.mpdus encrypt pn).map (fun f => (getFragNum f.hdr : ℕ)) =
    List.range (m.mpdus encrypt pn).length
  mfrag : (m.mpdus encrypt pn).map (fun f => getMFrag f.hdr) =
    List.replicate ((m.mpdus encrypt pn).length - 1) true ++ [false]
  bodies : ((m.mpdus encrypt pn).map Mpdu.body).flatten = m.data
  received : ∃ r, outputs chkDefragStep s (m.frames encrypt pn keys icv) = [r] ∧ r.body = m.data

/-- What the check of the MIC needs: the receiver knows the sender and has its keys, and a frame has
a 32-bit length. -/
structure SharedMicKeys : Prop where
  binstallGrpkey : (m.attrib .tkip pn).bmcst = true → s.mickeys.binstallGrpkey = true
  mickey : (if (m.attrib .tkip pn).bmcst then s.mickeys.grprxmickey (m.attrib .tkip pn).keyIdx
    else s.mickeys.rxmickey (stainfoAddr m.a.macAddr)) = keys.mickey (m.attrib .tkip pn).bmcst
  getStainfo : (s.getStainfo m.a.macAddr).isSome
  bssid : m.a.fwState = .ap → m.a.bssid = m.a.macAddr
  length : (m.attrib .tkip pn).hdrlen + 28 + m.pkt.payload.length < 2 ^ 32

variable {m encrypt pn keys s icv}

/-! ### The fragment number -/

lemma getFragNum_modify (hdr : List UInt8) (g : UInt8 → UInt8) :
    getFragNum (hdr.modify 1 g) = getFragNum hdr := by
  rcases hdr with _ | ⟨a, _ | ⟨b, hdr⟩⟩ <;> rfl

/-- No fragment has a number but zero. -/
lemma getFragNum_rtwMakeWlanhdr (p : PktAttrib) :
    getFragNum (rtwMakeWlanhdr p) = 0 ∧ getFragNum (setMFrag (rtwMakeWlanhdr p)) = 0 ∧
      getFragNum (lastHdr p) = 0 := by
  have hlast : getFragNum (lastHdr p) = 0 := by
    have h : getFragNum (lastHdr p ++ []) = 0 := (hdrRead_rxDataFrame p []).fragNum
    rwa [List.append_nil] at h
  have hmake : getFragNum (rtwMakeWlanhdr p) = 0 := by
    rwa [lastHdr, clearMFrag, setMFrag, getFragNum_modify, getFragNum_modify] at hlast
  exact ⟨hmake, by rw [setMFrag, getFragNum_modify, hmake], hlast⟩

/-- The second fragment has the number zero. -/
lemma not_reassembles_of_not_single (h : ¬ m.Single encrypt) :
    ¬ Reassembles m encrypt pn keys s icv := by
  intro hr
  obtain ⟨f, g, l, hl, -, -, -, -, hg, -⟩ :=
    coalesce_of_not_fits m.bufAddr m.pktOffset (mt (Msdu.single_iff pn).2 h)
  have hnum := hr.numbered
  rw [Msdu.mpdus, hl, List.map_cons, List.map_cons, List.length_cons, List.length_cons,
    List.range_succ_eq_map, List.range_succ_eq_map, List.map_cons] at hnum
  have hone : (getFragNum g.hdr : ℕ) = 1 := (List.cons.inj (List.cons.inj hnum).2).1
  obtain ⟨-, hset, hclear⟩ := getFragNum_rtwMakeWlanhdr (m.attrib encrypt pn)
  rcases hg with hg | hg
  · rw [hg, hset] at hone
    exact absurd hone (by decide)
  · rw [hg] at hone
    rw [lastHdr] at hclear
    rw [hclear] at hone
    exact absurd hone (by decide)

/-! ### A single MPDU -/

/-- The frame of a single MPDU. -/
def singleFrame (m : Msdu) (encrypt : SecurityType) (pn : ℕ) (mic icv : List UInt8) : RecvFrame :=
  rxEncrypted (m.attrib encrypt pn)
    (lastHdr (m.attrib encrypt pn) ++ (m.attrib encrypt pn).iv ++ (m.data ++ mic) ++ icv)

lemma frames_of_single (pn : ℕ) (keys : TkipTxKeys)
    (icv : Mpdu → Vector UInt8 (icvLen encrypt)) (h : m.Single encrypt) :
    ∃ icv' : List UInt8, icv'.length = icvLen encrypt ∧ m.frames encrypt pn keys icv =
      [singleFrame m encrypt pn
        (if encrypt = .tkip then (m.mic encrypt pn keys).toList else []) icv'] := by
  rw [Msdu.frames, Msdu.mpdus, coalesce_of_fits ((Msdu.single_iff pn).1 h), addMic]
  by_cases htkip : encrypt = .tkip
  · rw [if_pos htkip, if_pos (show (m.attrib encrypt pn).encrypt = .tkip from htkip)]
    exact ⟨_, (icv _).length_toList, rfl⟩
  · rw [if_neg htkip, if_neg (show ¬ (m.attrib encrypt pn).encrypt = .tkip from htkip)]
    refine ⟨(icv (wholeMpdu (m.attrib encrypt pn) (m.bufAddr + hwHdrOffset m.pktOffset)
      m.pkt.payload)).toList, Vector.length_toList, ?_⟩
    rw [singleFrame, List.append_nil]
    rfl

/-- What the receiver reads of the frame. -/
lemma hdrRead_singleFrame (m : Msdu) (encrypt : SecurityType) (pn : ℕ) (mic icv' : List UInt8) :
    HdrRead (m.attrib encrypt pn) (singleFrame m encrypt pn mic icv') := by
  rw [singleFrame, List.append_assoc, List.append_assoc]
  exact hdrRead_rxEncrypted _ _

lemma length_front (m : Msdu) (encrypt : SecurityType) (pn : ℕ) :
    (lastHdr (m.attrib encrypt pn) ++ (m.attrib encrypt pn).iv).length =
      (m.attrib encrypt pn).hdrlen + ivLen encrypt := by
  rw [List.length_append, length_lastHdr, (m.attrib encrypt pn).length_iv]
  rfl

/-- Without a MIC the body of the frame is the MSDU. -/
lemma body_singleFrame {icv' : List UInt8} (hicv : icv'.length = icvLen encrypt) :
    (singleFrame m encrypt pn [] icv').body = m.data := by
  have hread := hdrRead_singleFrame m encrypt pn [] icv'
  set f := singleFrame m encrypt pn [] icv' with hf
  have hdata : f.rxData = lastHdr (m.attrib encrypt pn) ++ (m.attrib encrypt pn).iv ++ m.data ++
      icv' := by
    rw [hf, singleFrame, List.append_nil]
    rfl
  have hback : icv'.length = f.attrib.icvLen := by
    rw [hread.icvLen, hicv]
    rfl
  have hfront := length_front m encrypt pn
  rw [RecvFrame.body, ← hback, hdata, List.length_append, Nat.add_sub_cancel, List.take_left,
    List.drop_left']
  rw [hfront, hread.hdrlen, hread.ivLen]
  rfl

/-- Under TKIP the check of the MIC succeeds and leaves the MSDU. -/
lemma chkmic_singleFrame (hmic : SharedMicKeys m pn keys s) {icv' : List UInt8}
    (hicv : icv'.length = icvLen .tkip) :
    (recvframeChkmic s (singleFrame m .tkip pn (m.mic .tkip pn keys).toList icv')).1 = .success ∧
      (recvframeChkmic s (singleFrame m .tkip pn (m.mic .tkip pn keys).toList icv')).2.body =
        m.data := by
  have hread := hdrRead_singleFrame m .tkip pn
    (m.mic .tkip pn keys).toList icv'
  set f := singleFrame m .tkip pn (m.mic .tkip pn keys).toList icv' with hf
  set p := m.attrib .tkip pn with hp
  have hta : hdrTa p = m.a.macAddr := by
    rw [hdrTa]
    split
    · next h => exact hmic.bssid h
    · rfl
  have hmc : isMcast f.attrib.ra = p.bmcst := by
    rw [hread.ra]
    rfl
  have hid (hbm : p.bmcst = true) : f.attrib.keyIndex = p.keyIdx := by
    rw [hf, singleFrame, List.append_assoc, List.append_assoc]
    exact keyIndex_rxEncrypted hbm
  have hfront := length_front m .tkip pn
  have hle := le_hdrlen p
  have hdata : f.rxData = lastHdr p ++ p.iv ++ (m.data ++ (m.mic .tkip pn keys).toList ++ icv') :=
    List.append_assoc _ _ _
  refine recvframeChkmic_single (keys.mickey p.bmcst) (lastHdr p ++ p.iv) m.data
    (m.mic .tkip pn keys).toList icv' hread.encrypt ?_ ?_ ?_ hdata ?_ ?_ ?_ ?_ ?_
  · rw [hread.ta, hta]
    exact hmic.getStainfo
  · intro h
    exact hmic.binstallGrpkey (hmc.symm.trans h)
  · rw [hmc, hread.ta, hta, ← hmic.mickey]
    by_cases hbm : p.bmcst = true
    · rw [if_pos hbm, if_pos hbm, hid hbm]
    · rw [if_neg hbm, if_neg hbm]
  · rw [hread.hdrlen, hread.ivLen, hfront]
    rfl
  · rw [hfront]
    show 30 ≤ p.hdrlen + 8
    omega
  · rw [hread.priority]
    rfl
  · rw [hread.icvLen, hicv]
    rfl
  · have hlen : p.hdrlen + 28 + m.pkt.payload.length < 2 ^ 32 := hmic.length
    rw [hdata, List.length_append, hfront]
    simp only [Msdu.data, List.length_append, Vector.length_toList, hicv, length_rtwPutSnap]
    show p.hdrlen + 8 + (8 + m.pkt.payload.length + 8 + 4) < 2 ^ 32
    omega

/-- What the receiver makes of a single MPDU. -/
lemma chkDefrag_singleFrame (hmic : encrypt = .tkip → SharedMicKeys m pn keys s)
    {icv' : List UInt8} (hicv : icv'.length = icvLen encrypt) :
    ∃ r, (recvframeChkDefrag s (singleFrame m encrypt pn
      (if encrypt = .tkip then (m.mic encrypt pn keys).toList else []) icv')).1 = some r ∧
        r.body = m.data := by
  set mic := if encrypt = .tkip then (m.mic encrypt pn keys).toList else [] with hmicdef
  have hread := hdrRead_singleFrame m encrypt pn mic icv'
  set f := singleFrame m encrypt pn mic icv' with hf
  have hfrag : recvframeChkFrag s f = (some f, s) := by
    rw [recvframeChkFrag, if_pos ⟨by rw [hread.mfrag]; decide, hread.fragNum⟩]
  rw [recvframeChkDefrag, hfrag]
  by_cases htkip : encrypt = .tkip
  · subst htkip
    have hprivacy : f.attrib.privacy = true := hread.privacy
    obtain ⟨hok, hbody⟩ := chkmic_singleFrame (hmic rfl) hicv
    rw [hf, hmicdef, if_pos rfl] at *
    simp only [hprivacy, hok, if_true]
    exact ⟨_, rfl, hbody⟩
  · have hmicnil : mic = [] := if_neg htkip
    have hbody : f.body = m.data := by
      rw [hf, hmicnil]
      exact body_singleFrame hicv
    have hchk : recvframeChkmic s f = (.success, f) := by
      rw [recvframeChkmic, if_neg]
      rw [hread.encrypt]
      exact htkip
    refine ⟨f, ?_, hbody⟩
    simp only [hchk]
    split <;> rfl

/-- Fragments are reassembled exactly if there is only one. -/
theorem reassembles_iff_single (m : Msdu) (encrypt : SecurityType) (pn : ℕ) (keys : TkipTxKeys)
    (s : DefragPriv) (icv : Mpdu → Vector UInt8 (icvLen encrypt))
    (hmic : encrypt = .tkip → SharedMicKeys m pn keys s) :
    Reassembles m encrypt pn keys s icv ↔ m.Single encrypt := by
  constructor
  · intro hr
    by_contra h
    exact not_reassembles_of_not_single h hr
  · intro h
    have hmpdus : m.mpdus encrypt pn = [wholeMpdu (m.attrib encrypt pn)
        (m.bufAddr + hwHdrOffset m.pktOffset) m.pkt.payload] :=
      coalesce_of_fits ((Msdu.single_iff pn).1 h)
    obtain ⟨-, -, hnum⟩ := getFragNum_rtwMakeWlanhdr (m.attrib encrypt pn)
    have hread := hdrRead_rxDataFrame (m.attrib encrypt pn) []
    constructor
    · rw [hmpdus, List.map_singleton, List.length_singleton]
      show [((getFragNum (lastHdr (m.attrib encrypt pn)) : Fin 16) : ℕ)] = List.range 1
      rw [hnum]
      rfl
    · have hmf : getMFrag (lastHdr (m.attrib encrypt pn) ++ []) = false := hread.mfrag
      rw [List.append_nil] at hmf
      rw [hmpdus, List.map_singleton]
      exact congrArg (fun b => [b]) hmf
    · rw [hmpdus, List.map_singleton, List.flatten_singleton]
      rfl
    · obtain ⟨icv', hicv, hframes⟩ := frames_of_single pn keys icv h
      obtain ⟨r, hchk, hbody⟩ := chkDefrag_singleFrame hmic hicv
      refine ⟨r, ?_, hbody⟩
      rw [hframes, outputs_cons, chkDefragStep, hchk]
      rfl

/-- A frame of 28 bytes under TKIP, received by the access point. -/
theorem reassembles_iff_single_short :
    Reassembles (plainMsdu 28) .tkip 1 plainKeys plainPriv fun _ => .replicate 4 0 :=
  (reassembles_iff_single (plainMsdu 28) .tkip 1 plainKeys plainPriv (fun _ => .replicate 4 0)
    fun _ => ⟨by decide, by decide, rfl, by decide, by decide⟩).2 (by decide)

/-- The second fragment of a frame of 300 bytes has the number zero. -/
theorem fragments_not_reassembled :
    ¬ Reassembles (plainMsdu 300) .noPrivacy 1 plainKeys plainPriv fun _ => .replicate 0 0 := by
  have h : ¬ (plainMsdu 300).Single .noPrivacy := by decide +kernel
  exact not_reassembles_of_not_single h

end Rtl8723du.Xmit
