import Rtl8723du.Crypto.Decryptor
import Rtl8723du.Lib.Memory
import Rtl8723du.Recv.Defrag
import Rtl8723du.Xmit.Walkers

/-!
# TKIP from the sender to the receiver

A single MPDU goes through `xmitframe_addmic` and `rtw_tkip_encrypt` in the transmit buffer, and
through `rtw_tkip_decrypt` and `recvframe_chkmic` at the receiver.  The receiver reads the header
for itself; it gets the same RC4 key, takes the ICV from where it was put, and computes the MIC over
the same addresses, priority and payload.
-/

namespace Rtl8723du.Xmit

open Lib.Bytes Lib.Memory Lib.Cipher Crypto

/-! ### The sender -/

/-- The TKIP keys of the sender: those of the receiver, `dot118021x_UncstKey` and
`dot11tkiptxmickey`, and those of the group. -/
structure TkipTxKeys where
  uncstKey : List UInt8
  tkiptxmickey : List UInt8
  grpKey : Fin 4 → List UInt8
  grptxmickey : Fin 4 → List UInt8
  grpKeyid : Fin 4

/-- `prwskey`. -/
def TkipTxKeys.key (k : TkipTxKeys) (bmcst : Bool) : List UInt8 :=
  if bmcst then k.grpKey k.grpKeyid else k.uncstKey

/-- The key of the MIC. -/
def TkipTxKeys.mickey (k : TkipTxKeys) (bmcst : Bool) : List UInt8 :=
  if bmcst then k.grptxmickey k.grpKeyid else k.tkiptxmickey

/-- The transmit buffer and what `struct pkt_attrib` says of it. -/
structure TxBuf where
  mem : Mem
  nrFrags : ℕ
  lastTxcmdsz : ℕ

/-- The buffer with the MPDUs. -/
def layMpdus (mem : Mem) (mpdus : List Mpdu) : TxBuf where
  mem := mpdus.foldl (fun mem f => write mem f.start f.bytes) mem
  nrFrags := mpdus.length
  lastTxcmdsz := lastTxcmdsz mpdus

/-- `xmitframe_addmic`; it fails without a key. -/
def xmitframeAddmic (fragLen : FragLen) (p : PktAttrib) (keys : TkipTxKeys)
    (bufAddr pktOffset : ℕ) (b : TxBuf) : Option TxBuf :=
  if p.encrypt = .tkip then
    if (keys.mickey p.bmcst).take 16 = List.replicate 16 0 then none
    else
      let pframe := bufAddr + hwHdrOffset pktOffset
      -- an address is read at 24 at most
      let addrs := michaelAddrs (readBytes b.mem pframe 30)
      let priority := if p.qosEn then UInt8.ofNat p.priority else 0
      let d := rtwSecmicappend (rtwSecmicsetkey (keys.mickey p.bmcst)) addrs
      let d := rtwSecmicappend d [priority, 0, 0, 0]
      let spans := addmicSpans fragLen p b.lastTxcmdsz b.nrFrags pframe
      let d := spans.foldl (fun d s => rtwSecmicappend d (readBytes b.mem s.1 s.2)) d
      let payload := (spans.getLast?.map fun s => s.1 + s.2).getD pframe
      some ⟨write b.mem payload (rtwSecgetmic d), b.nrFrags, b.lastTxcmdsz + 8⟩
  else some b

/-- A fragment in `rtw_tkip_encrypt`.  The payload and the ICV are encrypted with one keystream. -/
def tkipEncryptFragment (prwskey : List UInt8) (p : PktAttrib) (mem : Mem) (s : Span) : Mem :=
  let iv := readBytes mem (s.start + p.hdrlen) 8
  let payload := readBytes mem s.body (s.icv - s.body)
  write mem s.body (arcfourSeal (tkipRc4Key prwskey p.ta iv) payload)

/-- `rtw_tkip_encrypt`. -/
def rtwTkipEncrypt (fragLen : FragLen) (p : PktAttrib) (keys : TkipTxKeys)
    (bufAddr pktOffset : ℕ) (b : TxBuf) : TxBuf :=
  if p.encrypt = .tkip then
    { b with
      mem := (encryptSpans fragLen p b.lastTxcmdsz b.nrFrags
        (bufAddr + hwHdrOffset pktOffset)).foldl (tkipEncryptFragment (keys.key p.bmcst) p) b.mem }
  else b

/-- A single MPDU, as the device is given it. -/
def sentMpdu (bufAddr pktOffset : ℕ) (b : TxBuf) : List UInt8 :=
  readBytes b.mem (bufAddr + hwHdrOffset pktOffset) b.lastTxcmdsz

/-! ### The receiver -/

/-- What `validate_recv_frame` and `validate_recv_data_frame` read from the header of a data frame,
with the cipher of its transmitter. -/
def rxDataFrame (encrypt : SecurityType) (ptr : List UInt8) : RecvFrame :=
  let flags := ptr.getD 1 0
  let a4Shift := if flags &&& 0x03 = 0x03 then 6 else 0
  let qos := ptr.getD 0 0 &&& 0x80 != 0
  let encrypt := if getPrivacy ptr then encrypt else .noPrivacy
  { rxData := ptr
    attrib :=
      { qos := qos
        priority := if qos then (ptr.getD (wlanHdrA3Len + a4Shift) 0 &&& 0x0f).toNat else 0
        seqNum := getSequence ptr
        encrypt := encrypt
        hdrlen := (if qos then 26 else wlanHdrA3Len) + a4Shift +
          if flags &&& 0x80 != 0 then 4 else 0
        ivLen := ivLen encrypt
        icvLen := icvLen encrypt
        privacy := getPrivacy ptr
        mfrag := getMFrag ptr
        fragNum := getFragNum ptr
        ra := macAt ptr 4
        ta := macAt ptr 10
        pktLen := ptr.length } }

/-! ### The header of a single MPDU -/

/-- The transmitter address in the header. -/
def hdrTa (p : PktAttrib) : MacAddr := if p.fwState = .ap then p.bssid else p.ta

/-- The third address. -/
def hdrAddr3 (p : PktAttrib) : MacAddr :=
  match p.fwState with
  | .station => p.dst
  | .ap => p.src
  | .adhoc => p.bssid

/-- The header of the last fragment. -/
def lastHdr (p : PktAttrib) : List UInt8 := clearMFrag (setMFrag (rtwMakeWlanhdr p))

/-- The flags of the last fragment: no address 4, no More Fragments, no HT control, and the
Protected bit as it is to be. -/
structure LastFlags (p : PktAttrib) (flags : UInt8) : Prop where
  ds : flags &&& 0x03 ≠ 0x03
  mfrag : flags &&& 0x04 = 0
  privacy : (flags &&& 0x40 != 0) = decide (p.encrypt ≠ .noPrivacy)
  order : flags &&& 0x80 = 0

variable {p : PktAttrib} {rest : List UInt8}

lemma length_lastHdr (p : PktAttrib) : (lastHdr p).length = p.hdrlen := by
  rw [lastHdr, length_clearMFrag, length_setMFrag, length_rtwMakeWlanhdr]

/-- The QoS control field, if there is one. -/
def qosCtrl (p : PktAttrib) : List UInt8 :=
  if p.qosData then
    [UInt8.ofNat p.priority ||| (if p.eosp then 0x10 else 0) ||| UInt8.ofNat (32 * p.ackPolicy), 0]
  else []

/-- The header, field by field. -/
lemma lastHdr_eq (p : PktAttrib) :
    ∃ flags, LastFlags p flags ∧
      lastHdr p = [if p.qosData then 0x88 else 0x08, flags, 0, 0] ++ (p.ra.toList ++
        ((hdrTa p).toList ++ ((hdrAddr3 p).toList ++
          (leBytes 2 (16 * p.seqnum) ++ qosCtrl p)))) := by
  have hflags (ds : UInt8) (hds : ds = 0 ∨ ds = 1 ∨ ds = 2) : LastFlags p
      (((ds ||| (if p.mdata then 0x20 else 0) |||
        (if p.encrypt = .noPrivacy then 0 else 0x40)) ||| 0x04) &&& 0xfb) := by
    by_cases henc : p.encrypt = .noPrivacy
    · rw [if_pos henc]
      rcases hds with rfl | rfl | rfl <;> cases p.mdata <;>
        exact ⟨by decide, by decide, by rw [henc]; decide, by decide⟩
    · rw [if_neg henc]
      rcases hds with rfl | rfl | rfl <;> cases p.mdata <;>
        exact ⟨by decide, by decide, by rw [decide_eq_true henc]; decide, by decide⟩
  cases hfw : p.fwState with
  | station =>
      exact ⟨_, hflags 1 (by decide), by
        simp [lastHdr, rtwMakeWlanhdr, hfw, setMFrag, clearMFrag, PktAttrib.ra, hdrTa, hdrAddr3,
          qosCtrl]⟩
  | ap =>
      exact ⟨_, hflags 2 (by decide), by
        simp [lastHdr, rtwMakeWlanhdr, hfw, setMFrag, clearMFrag, PktAttrib.ra, hdrTa, hdrAddr3,
          qosCtrl]⟩
  | adhoc =>
      exact ⟨_, hflags 0 (by decide), by
        simp [lastHdr, rtwMakeWlanhdr, hfw, setMFrag, clearMFrag, PktAttrib.ra, hdrTa, hdrAddr3,
          qosCtrl]⟩

/-- An address that stands in a frame. -/
lemma macAt_append (front back : List UInt8) (a : MacAddr) :
    macAt (front ++ (a.toList ++ back)) front.length = a := by
  ext i hi
  rw [macAt, Vector.getElem_ofFn, List.getD_eq_getElem?_getD,
    List.getElem?_append_right (Nat.le_add_right _ _), Nat.add_sub_cancel_left,
    List.getElem?_append_left (by simpa using hi), List.getElem?_eq_getElem (by simpa using hi)]
  simp

/-- The priority comes back out of the QoS control field. -/
lemma priority_qosCtrl (priority : Fin 8) (eosp : Bool) (ackPolicy : Fin 4) :
    ((UInt8.ofNat priority ||| (if eosp then 0x10 else 0) ||| UInt8.ofNat (32 * ackPolicy)) &&&
      0x0f).toNat = priority := by
  revert priority eosp ackPolicy
  decide +kernel

/-- What the receiver reads from the header of a single MPDU. -/
structure HdrRead (p : PktAttrib) (f : RecvFrame) : Prop where
  hdrlen : f.attrib.hdrlen = p.hdrlen
  priority : f.attrib.priority = p.priority
  encrypt : f.attrib.encrypt = p.encrypt
  ivLen : f.attrib.ivLen = ivLen p.encrypt
  icvLen : f.attrib.icvLen = icvLen p.encrypt
  privacy : f.attrib.privacy = decide (p.encrypt ≠ .noPrivacy)
  mfrag : f.attrib.mfrag = false
  fragNum : f.attrib.fragNum = 0
  ra : f.attrib.ra = p.ra
  ta : f.attrib.ta = hdrTa p

lemma hdrRead_rxDataFrame (p : PktAttrib) (rest : List UInt8) :
    HdrRead p (rxDataFrame p.encrypt (lastHdr p ++ rest)) := by
  obtain ⟨flags, hflags, hhdr⟩ := lastHdr_eq p
  set ptr := lastHdr p ++ rest with hptr
  have h0 : ptr.getD 0 0 = if p.qosData then 0x88 else 0x08 := by rw [hptr, hhdr]; rfl
  have h1 : ptr.getD 1 0 = flags := by rw [hptr, hhdr]; rfl
  have hqos : (ptr.getD 0 0 &&& 0x80 != 0) = p.qosData := by
    rw [h0]
    cases p.qosData <;> decide
  have hprivacy : getPrivacy ptr = decide (p.encrypt ≠ .noPrivacy) := by
    rw [getPrivacy, h1]
    exact hflags.privacy
  have hencrypt : (if getPrivacy ptr then p.encrypt else .noPrivacy) = p.encrypt := by
    rw [hprivacy]
    by_cases henc : p.encrypt = .noPrivacy <;> simp [henc]
  -- the fields from the sequence control on
  obtain ⟨front, hfront, hsplit⟩ : ∃ front : List UInt8, front.length = 22 ∧
      ptr = front ++ (leBytes 2 (16 * p.seqnum) ++ (qosCtrl p ++ rest)) :=
    ⟨[if p.qosData then 0x88 else 0x08, flags, 0, 0] ++ (p.ra.toList ++
      ((hdrTa p).toList ++ (hdrAddr3 p).toList)), by simp, by rw [hptr, hhdr]; simp⟩
  have hseq : leAt ptr 22 2 = 16 * p.seqnum := by
    rw [leAt, hsplit, List.drop_left' hfront, List.take_left' (length_leBytes 2 _)]
    exact leNat_leBytes (by omega)
  have hqc : ptr.getD 24 0 = (qosCtrl p ++ rest).getD 0 0 := by
    rw [hsplit, ← List.append_assoc]
    rw [List.getD_append_right _ _ _ _ (by simp [hfront])]
    simp [hfront]
  constructor
  · simp only [rxDataFrame, hqos, h1, if_neg hflags.ds, hflags.order, PktAttrib.hdrlen]
    rfl
  · simp only [rxDataFrame, hqos, h1, if_neg hflags.ds]
    cases hq : p.qosData with
    | false =>
        rw [p.priority_of_not_qosData hq]
        rfl
    | true =>
        show (ptr.getD 24 0 &&& 0x0f).toNat = p.priority
        rw [hqc, qosCtrl, hq]
        exact priority_qosCtrl p.priority p.eosp p.ackPolicy
  · exact hencrypt
  · exact congrArg ivLen hencrypt
  · exact congrArg icvLen hencrypt
  · exact hprivacy
  · simp only [rxDataFrame, getMFrag, h1, hflags.mfrag]
    rfl
  · show Fin.ofNat 16 (leAt ptr 22 2) = 0
    rw [hseq]
    exact Fin.ext (Nat.mul_mod_right 16 p.seqnum)
  · show macAt ptr 4 = p.ra
    rw [hptr, hhdr, List.append_assoc, List.append_assoc]
    exact macAt_append [_, flags, 0, 0] _ p.ra
  · show macAt ptr 10 = hdrTa p
    rw [hptr, hhdr, List.append_assoc, List.append_assoc, ← List.append_assoc]
    have hten : ([if p.qosData then 0x88 else 0x08, flags, 0, 0] ++ p.ra.toList).length = 10 := by
      simp
    rw [← hten, List.append_assoc (hdrTa p).toList]
    exact macAt_append _ _ (hdrTa p)

/-! ### Through the transmit buffer -/

variable {fragLen : FragLen} {keys : TkipTxKeys} {bufAddr pktOffset : ℕ} {b : TxBuf}
  {front body icv : List UInt8}

/-- The first 30 bytes of a frame have the addresses that the MIC is computed over. -/
lemma michaelAddrs_take {hdr : List UInt8} : michaelAddrs (hdr.take 30) = michaelAddrs hdr := by
  have hfld (off : ℕ) (hoff : off ≤ 24) :
      ((hdr.take 30).drop off).take 6 = (hdr.drop off).take 6 := by
    rw [List.drop_take, List.take_take, min_eq_left (by omega)]
  have h1 : (hdr.take 30).getD 1 0 = hdr.getD 1 0 := by
    rw [List.getD_eq_getElem?_getD, List.getElem?_take_of_lt (by decide),
      ← List.getD_eq_getElem?_getD]
  simp only [michaelAddrs, h1, hfld 4 (by decide), hfld 10 (by decide), hfld 16 (by decide),
    hfld 24 (by decide)]

lemma michaelAddrs_append (h : 30 ≤ front.length) :
    michaelAddrs (front ++ rest) = michaelAddrs front := by
  rw [← michaelAddrs_take, List.take_append_of_le_length h, michaelAddrs_take]

/-- The MIC of a single MPDU. -/
def singleMic (p : PktAttrib) (keys : TkipTxKeys) (front body : List UInt8) : List UInt8 :=
  rtwSeccalctkipmic (keys.mickey p.bmcst) front body (UInt8.ofNat p.priority)

/-- The priority in the MIC is the one of the header. -/
lemma micPriority_eq (p : PktAttrib) :
    (if p.qosEn then UInt8.ofNat p.priority else 0) = UInt8.ofNat p.priority := by
  split
  · rfl
  · next hqos =>
      have hdata : p.qosData = false := by
        by_contra h
        exact hqos (p.qosEn_of_qosData (Bool.eq_true_of_not_eq_false h))
      rw [p.priority_of_not_qosData hdata]
      rfl

/-- What a single MPDU is in the transmit buffer: the header with the IV, the body, and the room for
the ICV. -/
structure SingleAt (p : PktAttrib) (start : ℕ) (front body icv : List UInt8) (b : TxBuf) :
    Prop where
  length_front : front.length = p.hdrlen + 8
  length_icv : icv.length = 4
  holds : Holds b.mem start (front ++ (body ++ icv))
  nrFrags : b.nrFrags = 1
  lastTxcmdsz : b.lastTxcmdsz = front.length + body.length + icv.length

lemma le_hdrlen (p : PktAttrib) : 24 ≤ p.hdrlen := by
  rw [PktAttrib.hdrlen]
  split <;> decide

@[simp] lemma length_singleMic : (singleMic p keys front body).length = 8 := by
  rw [singleMic, rtwSeccalctkipmic, rtwSecgetmic, List.length_append, length_leBytes,
    length_leBytes]

/-- `xmitframe_addmic` puts the MIC behind the body. -/
lemma xmitframeAddmic_single (fragLen : FragLen) (htkip : p.encrypt = .tkip) (hsw : p.bswenc = true)
    (halign : bufAddr % 4 = 0)
    (hkey : (keys.mickey p.bmcst).take 16 ≠ List.replicate 16 0)
    (h : SingleAt p (bufAddr + hwHdrOffset pktOffset) front body icv b) :
    ∃ b', xmitframeAddmic fragLen p keys bufAddr pktOffset b = some b' ∧
      ∃ icv', SingleAt p (bufAddr + hwHdrOffset pktOffset) front
        (body ++ singleMic p keys front body) icv' b' := by
  obtain ⟨hlenfront, hlenicv, hholds, hnr, hlast⟩ := h
  set start := bufAddr + hwHdrOffset pktOffset with hstart
  obtain ⟨hfront, hbody, hicv⟩ := (holds_append.trans (and_congr_right' holds_append)).1 hholds
  have hrnd : rnd4 start = start := by
    refine rnd4_of_mod_eq_zero ?_
    show (bufAddr + (40 + pktOffset * 8)) % 4 = 0
    omega
  have hiv : ivLen p.encrypt = 8 := by rw [htkip]; rfl
  have hswIcv : p.swIcvLen = 4 := by rw [PktAttrib.swIcvLen, if_pos hsw, htkip]; rfl
  have hspan : addmicSpans fragLen p b.lastTxcmdsz b.nrFrags start =
      [(start + front.length, body.length)] := by
    rw [hnr, addmicSpans, hrnd, hiv, hswIcv, hlast, hlenicv]
    congr 2 <;> omega
  have hle := le_hdrlen p
  have haddrs : michaelAddrs (readBytes b.mem start 30) = michaelAddrs front := by
    rw [hfront.readBytes_take (by omega), michaelAddrs_take]
  refine ⟨⟨write b.mem (start + front.length + body.length) (singleMic p keys front body),
    b.nrFrags, b.lastTxcmdsz + 8⟩, ?_, ?_⟩
  · rw [xmitframeAddmic, if_pos htkip, if_neg hkey]
    simp only [← hstart, hspan, haddrs, micPriority_eq, List.foldl_cons, List.foldl_nil,
      List.getLast?_singleton, Option.map_some, Option.getD_some, hbody.readBytes_eq rfl]
    rfl
  · refine ⟨readBytes (write b.mem (start + front.length + body.length)
      (singleMic p keys front body)) (start + front.length + body.length + 8) 4, hlenfront,
      length_readBytes, ?_, hnr, ?_⟩
    · refine holds_append.2 ⟨hfront.write_of_disjoint (.inl (by omega)), ?_⟩
      rw [List.append_assoc]
      refine holds_append.2 ⟨hbody.write_of_disjoint (.inl le_rfl), ?_⟩
      refine holds_append.2 ⟨holds_write _ _ _, ?_⟩
      rw [length_singleMic]
      exact holds_readBytes _ _ _
    · simp only [hlast, List.length_append, length_singleMic, length_readBytes, hlenicv]
      omega

/-- `rtw_tkip_encrypt` encrypts the body and puts the ICV behind it. -/
lemma rtwTkipEncrypt_single (htkip : p.encrypt = .tkip) {hdr iv : List UInt8}
    (hhdr : hdr.length = p.hdrlen)
    (h : SingleAt p (bufAddr + hwHdrOffset pktOffset) (hdr ++ iv) body icv b) :
    sentMpdu bufAddr pktOffset (rtwTkipEncrypt fragLen p keys bufAddr pktOffset b) =
      hdr ++ iv ++ arcfourSeal (tkipRc4Key (keys.key p.bmcst) p.ta iv) body := by
  obtain ⟨hlenfront, hlenicv, hholds, hnr, hlast⟩ := h
  set start := bufAddr + hwHdrOffset pktOffset with hstart
  obtain ⟨hfront, hbody, hicv⟩ := (holds_append.trans (and_congr_right' holds_append)).1 hholds
  have hleniv : iv.length = 8 := by
    rw [List.length_append, hhdr] at hlenfront
    omega
  have hiv : ivLen p.encrypt = 8 := by rw [htkip]; rfl
  have hicvLen : icvLen p.encrypt = 4 := by rw [htkip]; rfl
  have hspan : encryptSpans fragLen p b.lastTxcmdsz b.nrFrags start =
      [encryptSpan p start body.length] := by
    rw [hnr, encryptSpans, hiv, hicvLen, hlast, hlenicv, hlenfront]
    congr 2
    omega
  have hread : readBytes b.mem (start + p.hdrlen) 8 = iv := by
    rw [← hhdr]
    exact (holds_append.1 hfront).2.readBytes_eq hleniv.symm
  set key := tkipRc4Key (keys.key p.bmcst) p.ta iv with hkey
  have hmem : (rtwTkipEncrypt fragLen p keys bufAddr pktOffset b).mem =
      write b.mem (start + (hdr ++ iv).length) (arcfourSeal key body) := by
    have hat : start + 8 + p.hdrlen = start + (hdr ++ iv).length := by omega
    rw [rtwTkipEncrypt, if_pos htkip]
    simp only [← hstart, hspan, List.foldl_cons, List.foldl_nil, tkipEncryptFragment, encryptSpan,
      hiv, hread, Nat.add_sub_cancel_left, hat, hbody.readBytes_eq rfl, ← hkey]
  have hsz : (rtwTkipEncrypt fragLen p keys bufAddr pktOffset b).lastTxcmdsz =
      (hdr ++ iv ++ arcfourSeal key body).length := by
    rw [rtwTkipEncrypt, if_pos htkip, arcfourSeal, sealIcv]
    simp only [List.length_append, length_stream, length_icvOf, hlast, hlenicv]
    omega
  rw [sentMpdu, ← hstart, hmem, hsz]
  exact holds_append.2 ⟨hfront.write_of_disjoint (.inl le_rfl), holds_write _ _ _⟩

/-! ### Back out -/

/-- Sender and receiver have the same keys for a frame: `sec` and `k` are the keys of the receiver
for groups, and `peer` is the sender as the receiver knows it. -/
structure SharedTkipKeys (p : PktAttrib) (keys : TkipTxKeys) (sec : SecurityPriv)
    (peer : MgmtPeer) (k : TkipMicKeys) : Prop where
  binstallGrpkey : p.bmcst = true → sec.binstallGrpkey = true ∧ k.binstallGrpkey = true
  key : (if p.bmcst then sec.dot118021XGrpKey p.keyIdx else peer.dot118021xUncstKey) =
    keys.key p.bmcst
  mickey : (if p.bmcst then k.grprxmickey p.keyIdx else k.rxmickey (stainfoAddr p.ta)) =
    keys.mickey p.bmcst

/-- The frame that the receiver gets, with the key id in its IV. -/
def rxEncrypted (p : PktAttrib) (ptr : List UInt8) : RecvFrame :=
  (rxDataFrame p.encrypt ptr).setKeyIndex

lemma hdrRead_rxEncrypted (p : PktAttrib) (rest : List UInt8) :
    HdrRead p (rxEncrypted p (lastHdr p ++ rest)) := by
  obtain ⟨hhdrlen, hpri, henc, hiv, hicv, hpriv, hmf, hfn, hra, hta⟩ := hdrRead_rxDataFrame p rest
  exact ⟨hhdrlen, hpri, henc, hiv, hicv, hpriv, hmf, hfn, hra, hta⟩

/-- `rtw_tkip_decrypt` gives back what was encrypted, and its ICV. -/
lemma rtwTkipDecrypt_single {sec : SecurityPriv} {peer : MgmtPeer} {iv : List UInt8}
    (htkip : p.encrypt = .tkip) (hiv : iv.length = 8) (hta : hdrTa p = p.ta)
    (hkey : tkipKey sec (some peer) (rxEncrypted p (lastHdr p ++ iv ++
      arcfourSeal (tkipRc4Key (keys.key p.bmcst) p.ta iv) body)) = some (keys.key p.bmcst)) :
    rtwTkipDecrypt sec (some peer) (rxEncrypted p (lastHdr p ++ iv ++
        arcfourSeal (tkipRc4Key (keys.key p.bmcst) p.ta iv) body)) =
      .ok (some { rxEncrypted p (lastHdr p ++ iv ++
          arcfourSeal (tkipRc4Key (keys.key p.bmcst) p.ta iv) body) with
        rxData := lastHdr p ++ iv ++ (body ++ icvOf body) }) := by
  set rc4key := tkipRc4Key (keys.key p.bmcst) p.ta iv with hrc4
  set f := rxEncrypted p (lastHdr p ++ iv ++ arcfourSeal rc4key body) with hf
  have hdata : f.rxData = lastHdr p ++ iv ++ arcfourSeal rc4key body := rfl
  have hread : HdrRead p f := by
    rw [hf, List.append_assoc]
    exact hdrRead_rxEncrypted p _
  have hivLen : f.attrib.ivLen = 8 := by rw [hread.ivLen, htkip]; rfl
  have hseal : (arcfourSeal rc4key body).length = body.length + 4 := by
    rw [arcfourSeal, sealIcv, length_stream, List.length_append, length_icvOf]
  have hfront : (lastHdr p ++ iv).length = f.attrib.hdrlen + f.attrib.ivLen := by
    rw [List.length_append, length_lastHdr, hiv, hread.hdrlen, hivLen]
  have hdec : tkipDecrypted (keys.key p.bmcst) f = body ++ icvOf body := by
    have hivAt : (f.rxData.drop f.attrib.hdrlen).take 8 = iv := by
      rw [hdata, List.append_assoc, List.drop_left' (by rw [length_lastHdr, hread.hdrlen]),
        List.take_left' hiv]
    rw [tkipDecrypted, hivAt, hread.ta, hta, ← hrc4, hdata, List.drop_left' hfront]
    exact stream_stream _ _ _
  have hlen : f.attrib.hdrlen + 8 ≤ f.rxData.length := by
    rw [hdata, List.length_append, hfront, hivLen]
    exact Nat.le_add_right _ _
  have htake : f.rxData.take (f.attrib.hdrlen + 8) = lastHdr p ++ iv := by
    rw [hdata, List.take_left' (by rw [hfront, hivLen])]
  have hdlen : (body ++ icvOf body).length = body.length + 4 := by
    rw [List.length_append, length_icvOf]
  have hbody : (body ++ icvOf body).take ((body ++ icvOf body).length - 4) = body := by
    rw [hdlen, Nat.add_sub_cancel, List.take_left]
  have hicv : (lastHdr p ++ iv ++ (body ++ icvOf body)).drop (f.rxData.length - 4) =
      icvOf body := by
    rw [← List.append_assoc, List.drop_left']
    rw [hdata]
    simp only [List.length_append, hseal]
    omega
  rw [rtwTkipDecrypt_eq hkey hivLen hlen, hdec, htake, hbody, hicv, if_pos rfl]
  have hset : (setBody f (body ++ icvOf body)).rxData =
      lastHdr p ++ iv ++ (body ++ icvOf body) := by
    rw [rxData_setBody, hivLen, htake]
    rw [hdata, List.length_append, hseal, hdlen, hfront]
  exact congrArg (fun d => Except.ok (some { f with rxData := d })) hset

/-- The keys that the receiver takes are those of the sender. -/
lemma tkipKey_eq {sec : SecurityPriv} {peer : MgmtPeer} {k : TkipMicKeys} {f : RecvFrame}
    (hkeys : SharedTkipKeys p keys sec peer k) (hra : f.attrib.ra = p.ra)
    (hid : p.bmcst = true → f.attrib.keyIndex = p.keyIdx) :
    tkipKey sec (some peer) f = some (keys.key p.bmcst) := by
  have hmc : isMcast f.attrib.ra = p.bmcst := by rw [hra]; rfl
  rw [tkipKey, hmc]
  cases hbm : p.bmcst with
  | false => simpa [hbm] using hkeys.key
  | true => simpa [hbm, (hkeys.binstallGrpkey hbm).1, hid hbm] using hkeys.key

/-- `recvframe_chkmic` of a frame that ends in the MIC and the ICV. -/
lemma recvframeChkmic_single {s : DefragPriv} {f : RecvFrame} (k front body mic icv : List UInt8)
    (htkip : f.attrib.encrypt = .tkip) (hsta : (s.getStainfo f.attrib.ta).isSome)
    (hgrp : isMcast f.attrib.ra = true → s.mickeys.binstallGrpkey = true)
    (hk : (if isMcast f.attrib.ra then s.mickeys.grprxmickey f.attrib.keyIndex
      else s.mickeys.rxmickey (stainfoAddr f.attrib.ta)) = k)
    (hdata : f.rxData = front ++ (body ++ mic ++ icv))
    (hfront : front.length = f.attrib.hdrlen + f.attrib.ivLen) (h30 : 30 ≤ front.length)
    (hmic : mic = rtwSeccalctkipmic k front body (UInt8.ofNat f.attrib.priority))
    (hicv : icv.length = f.attrib.icvLen) (h32 : f.rxData.length < 2 ^ 32) :
    (recvframeChkmic s f).1 = .success ∧ (recvframeChkmic s f).2.body = body := by
  have hmiclen : mic.length = 8 := by
    rw [hmic, rtwSeccalctkipmic, rtwSecgetmic, List.length_append, length_leBytes, length_leBytes]
  have hlen : f.rxData.length =
      f.attrib.hdrlen + f.attrib.ivLen + body.length + 8 + f.attrib.icvLen := by
    rw [hdata]
    simp only [List.length_append, hmiclen, hicv, hfront]
    omega
  have hdatalen : (BitVec.ofNat 32 f.rxData.length -
      BitVec.ofNat 32 (f.attrib.hdrlen + f.attrib.ivLen + f.attrib.icvLen + 8)).toNat =
        body.length := by
    rw [BitVec.toNat_sub, BitVec.toNat_ofNat, BitVec.toNat_ofNat]
    omega
  have hpayload : f.rxData.drop (f.attrib.hdrlen + f.attrib.ivLen) = body ++ mic ++ icv := by
    rw [hdata, List.drop_left' hfront]
  have hbody : (body ++ mic ++ icv).take body.length = body := by
    rw [List.append_assoc, List.take_left]
  have hmicAt : ((body ++ mic ++ icv).drop body.length).take 8 = mic := by
    rw [List.append_assoc, List.drop_left, List.take_left' hmiclen]
  have hcode (pri : UInt8) : rtwSeccalctkipmic k f.rxData body pri =
      rtwSeccalctkipmic k front body pri := by
    rw [rtwSeccalctkipmic, rtwSeccalctkipmic, hdata, michaelAddrs_append h30]
  have hgrp' : ¬ (isMcast f.attrib.ra = true ∧ ¬ s.mickeys.binstallGrpkey = true) := by
    rintro ⟨hmc, hno⟩
    exact hno (hgrp hmc)
  rw [recvframeChkmic, if_pos htkip, if_pos hsta, if_neg hgrp']
  simp only [hk, hdatalen, hpayload, hbody, hmicAt, hcode, ← hmic, if_true, true_and]
  -- without the last eight bytes the ICV is taken off at the MIC
  have hcut : (f.pullTail 8).rxData = (front ++ body ++ (mic ++ icv)).take
      ((front ++ body ++ (mic ++ icv)).length - 8) := by
    rw [RecvFrame.pullTail_rxData (by omega), hdata]
    simp only [List.append_assoc]
  rw [RecvFrame.body, RecvFrame.pullTail_attrib, hcut, List.length_take, List.take_take]
  have hmin : min (min ((front ++ body ++ (mic ++ icv)).length - 8)
      (front ++ body ++ (mic ++ icv)).length - f.attrib.icvLen)
        ((front ++ body ++ (mic ++ icv)).length - 8) = (front ++ body).length := by
    simp only [List.length_append, hmiclen, hicv]
    omega
  rw [hmin, List.take_left, List.drop_left' hfront]

/-! ### The round trip -/

variable {m : Msdu} {pn : ℕ}

/-- The key id of a group key comes back out of the IV. -/
lemma keyIndex_rxEncrypted (htkip : (m.attrib .tkip pn).bmcst = true) :
    (rxEncrypted (m.attrib .tkip pn) (lastHdr (m.attrib .tkip pn) ++
      ((m.attrib .tkip pn).iv ++ rest))).attrib.keyIndex = (m.attrib .tkip pn).keyIdx := by
  set p := m.attrib .tkip pn with hp
  have hread := hdrRead_rxDataFrame p (p.iv ++ rest)
  have hmc : isMcast (pktRa m.a m.pkt) = true := htkip
  have hiv : p.iv = txIv .tkip pn true p.keyIdx := by
    rw [← hmc]
    rfl
  have hbyte : (lastHdr p ++ (p.iv ++ rest)).getD (p.hdrlen + 3) 0 =
      0x20 ||| keyIdByte p.keyIdx := by
    rw [← length_lastHdr, List.getD_append_right _ _ _ _ (Nat.le_add_right _ _),
      Nat.add_sub_cancel_left, hiv]
    rfl
  have hid (k : Fin 4) : Fin.ofNat 4 ((0x20 ||| keyIdByte k).toNat / 64) = k := by
    revert k
    decide
  show Fin.ofNat 4 (((lastHdr p ++ (p.iv ++ rest)).getD
    ((rxDataFrame p.encrypt (lastHdr p ++ (p.iv ++ rest))).attrib.hdrlen + 3) 0).toNat / 64) = _
  rw [hread.hdrlen, hbyte, hid]

/-- The transmit buffer with a single MPDU. -/
lemma singleAt_layMpdus (pn : ℕ) (mem : Mem) (hsw : (m.attrib .tkip pn).bswenc = true)
    (h : m.Single .tkip) :
    SingleAt (m.attrib .tkip pn) (m.bufAddr + hwHdrOffset m.pktOffset)
      (lastHdr (m.attrib .tkip pn) ++ (m.attrib .tkip pn).iv)
      (rtwPutSnap m.pkt.etherType ++ m.pkt.payload) (List.replicate 4 0)
      (layMpdus mem (m.mpdus .tkip pn)) := by
  have hswIcv : (m.attrib .tkip pn).swIcvLen = 4 := by
    rw [PktAttrib.swIcvLen, if_pos hsw]
    rfl
  have hbytes : (wholeMpdu (m.attrib .tkip pn) (m.bufAddr + hwHdrOffset m.pktOffset)
      m.pkt.payload).bytes = lastHdr (m.attrib .tkip pn) ++ (m.attrib .tkip pn).iv ++
        (rtwPutSnap m.pkt.etherType ++ m.pkt.payload ++ List.replicate 4 0) := by
    rw [Mpdu.bytes, wholeMpdu, hswIcv, List.append_assoc]
    rfl
  rw [Msdu.mpdus, coalesce_of_fits ((Msdu.single_iff _).1 h)]
  constructor
  · rw [List.length_append, length_lastHdr, PktAttrib.length_iv]
    rfl
  · rfl
  · rw [← hbytes]
    exact holds_write _ _ _
  · rfl
  · show (wholeMpdu (m.attrib .tkip pn) (m.bufAddr + hwHdrOffset m.pktOffset)
      m.pkt.payload).bytes.length = _
    rw [hbytes]
    simp only [List.length_append, Nat.add_assoc]

/-- A single MPDU under TKIP comes through: the receiver decrypts what was in the buffer when it was
encrypted, and its check of the MIC succeeds and leaves the LLC header and the payload. -/
def ComesThrough (m : Msdu) (pn : ℕ) (keys : TkipTxKeys) (mem : Mem) (sec : SecurityPriv)
    (peer : MgmtPeer) (s : DefragPriv) : Prop :=
  let p := m.attrib .tkip pn
  ∃ b, xmitframeAddmic m.a.fragLen p keys m.bufAddr m.pktOffset
      (layMpdus mem (m.mpdus .tkip pn)) = some b ∧
    ∃ f, rtwTkipDecrypt sec (some peer) (rxEncrypted p (sentMpdu m.bufAddr m.pktOffset
        (rtwTkipEncrypt m.a.fragLen p keys m.bufAddr m.pktOffset b))) = .ok (some f) ∧
      f.rxData.take (b.lastTxcmdsz - 4) =
        (sentMpdu m.bufAddr m.pktOffset b).take (b.lastTxcmdsz - 4) ∧
      (recvframeChkmic s f).1 = .success ∧
      (recvframeChkmic s f).2.body = rtwPutSnap m.pkt.etherType ++ m.pkt.payload

/-- A single MPDU comes through if sender and receiver share the keys; without a key of the MIC
nothing is sent, and a frame has a 32-bit length. -/
theorem tkip_round_trip (m : Msdu) (pn : ℕ) (keys : TkipTxKeys) (mem : Mem) (sec : SecurityPriv)
    (peer : MgmtPeer) (s : DefragPriv) (hsw : (m.attrib .tkip pn).bswenc = true)
    (hsingle : m.Single .tkip) (halign : m.bufAddr % 4 = 0)
    (hap : m.a.fwState = .ap → m.a.bssid = m.a.macAddr)
    (hkey : (keys.mickey (m.attrib .tkip pn).bmcst).take 16 ≠ List.replicate 16 0)
    (hshared : SharedTkipKeys (m.attrib .tkip pn) keys sec peer s.mickeys)
    (hsta : (s.getStainfo m.a.macAddr).isSome)
    (h32 : (m.attrib .tkip pn).hdrlen + 28 + m.pkt.payload.length < 2 ^ 32) :
    ComesThrough m pn keys mem sec peer s := by
  set p := m.attrib .tkip pn with hp
  have htkip : p.encrypt = .tkip := rfl
  have hiv : p.iv.length = 8 := p.length_iv
  have hta : hdrTa p = p.ta := by
    rw [hdrTa]
    split
    · next h => exact hap h
    · rfl
  set body := rtwPutSnap m.pkt.etherType ++ m.pkt.payload with hbody
  have hlay := singleAt_layMpdus pn mem hsw hsingle
  obtain ⟨b, hb, icv, hmicAt⟩ := xmitframeAddmic_single m.a.fragLen htkip hsw halign hkey hlay
  refine ⟨b, hb, ?_⟩
  set mic := singleMic p keys (lastHdr p ++ p.iv) body with hmic
  rw [rtwTkipEncrypt_single htkip (length_lastHdr p) hmicAt]
  have hread := hdrRead_rxEncrypted p
    (p.iv ++ arcfourSeal (tkipRc4Key (keys.key p.bmcst) p.ta p.iv) (body ++ mic))
  rw [← List.append_assoc] at hread
  have hid (hbm : p.bmcst = true) : (rxEncrypted p (lastHdr p ++ p.iv ++
      arcfourSeal (tkipRc4Key (keys.key p.bmcst) p.ta p.iv) (body ++ mic))).attrib.keyIndex =
        p.keyIdx := by
    rw [List.append_assoc]
    exact keyIndex_rxEncrypted hbm
  have hrxkey := tkipKey_eq hshared hread.ra hid
  refine ⟨_, rtwTkipDecrypt_single htkip hiv hta hrxkey, ?_, ?_⟩
  · -- what was in the buffer, up to the room for the ICV
    obtain ⟨hfront, hicv, hholds, -, hlast⟩ := hmicAt
    have hlen : b.lastTxcmdsz - 4 = (lastHdr p ++ p.iv ++ (body ++ mic)).length := by
      rw [hlast, hicv, Nat.add_sub_cancel, ← List.length_append]
    have hsent : sentMpdu m.bufAddr m.pktOffset b =
        lastHdr p ++ p.iv ++ (body ++ mic) ++ icv := by
      rw [sentMpdu, List.append_assoc _ _ icv]
      refine hholds.readBytes_eq ?_
      rw [hlast, ← List.length_append, ← List.length_append, List.append_assoc]
    rw [hsent, hlen, List.take_left]
    show (lastHdr p ++ p.iv ++ (body ++ mic ++ icvOf (body ++ mic))).take _ = _
    rw [← List.append_assoc (lastHdr p ++ p.iv) (body ++ mic), List.take_left]
  · have hmc : isMcast (rxEncrypted p (lastHdr p ++ p.iv ++
        arcfourSeal (tkipRc4Key (keys.key p.bmcst) p.ta p.iv) (body ++ mic))).attrib.ra =
          p.bmcst := by
      rw [hread.ra]
      rfl
    have hlenfront : (lastHdr p ++ p.iv).length = p.hdrlen + 8 := by
      rw [List.length_append, length_lastHdr, hiv]
    have hle := le_hdrlen p
    refine recvframeChkmic_single (keys.mickey p.bmcst) (lastHdr p ++ p.iv) body mic
      (icvOf (body ++ mic)) hread.encrypt ?_ ?_ ?_ rfl ?_ (by omega) ?_ ?_ ?_
    · show (s.getStainfo (rxEncrypted p _).attrib.ta).isSome
      rw [hread.ta, hta]
      exact hsta
    · intro h
      exact (hshared.binstallGrpkey (hmc.symm.trans h)).2
    · show (if isMcast (rxEncrypted p _).attrib.ra then
        s.mickeys.grprxmickey (rxEncrypted p _).attrib.keyIndex else
          s.mickeys.rxmickey (stainfoAddr (rxEncrypted p _).attrib.ta)) = _
      rw [hmc, hread.ta, hta, ← hshared.mickey]
      by_cases hbm : p.bmcst = true
      · rw [if_pos hbm, if_pos hbm, hid hbm]
      · rw [if_neg hbm, if_neg hbm]
    · show _ = (rxEncrypted p _).attrib.hdrlen + (rxEncrypted p _).attrib.ivLen
      rw [hread.hdrlen, hread.ivLen, hlenfront]
      rfl
    · show mic = rtwSeccalctkipmic _ _ _ (UInt8.ofNat (rxEncrypted p _).attrib.priority)
      rw [hread.priority]
      rfl
    · show (icvOf (body ++ mic)).length = (rxEncrypted p _).attrib.icvLen
      rw [hread.icvLen]
      rfl
    · show (lastHdr p ++ p.iv ++ (body ++ mic ++ icvOf (body ++ mic))).length < 2 ^ 32
      rw [List.length_append, hlenfront]
      simp only [hbody, hmic, List.length_append, length_singleMic, length_icvOf, length_rtwPutSnap]
      omega

/-- The keys of the station. -/
def plainKeys : TkipTxKeys where
  uncstKey := .replicate 16 0x11
  tkiptxmickey := .replicate 16 0x22
  grpKey _ := .replicate 16 0x33
  grptxmickey _ := .replicate 16 0x44
  grpKeyid := 1

/-- The keys of its access point for groups. -/
def plainSec : SecurityPriv where
  binstallGrpkey := true
  binstallBIPkey := false
  dot11wCipher := .noPrivacy
  dot11wBIPKeyid := 4
  dot11wBIPKey _ := []
  dot11wBIPtxpn := 0
  dot11wBIPrxpn := 0

/-- The station, as its access point knows it. -/
def plainPeer : MgmtPeer where
  mfp := false
  bpairwiseKeyInstalled := true
  dot118021XPrivacy := .tkip
  dot118021xUncstKey := .replicate 16 0x11

/-- The access point with its keys of the MIC. -/
def plainPriv : DefragPriv where
  stapriv _ := some .init
  mickeys :=
    { rxmickey := fun _ => .replicate 16 0x22
      grprxmickey := fun _ => []
      binstallGrpkey := true }
  defKey _ := []
  grpKey _ := []

/-- A frame of 28 bytes. -/
theorem tkip_round_trip_short :
    ComesThrough (plainMsdu 28) 1 plainKeys (fun _ => 0) plainSec plainPeer plainPriv :=
  tkip_round_trip (plainMsdu 28) 1 plainKeys (fun _ => 0) plainSec plainPeer plainPriv rfl
    (by decide) rfl (by decide) (by decide) ⟨by decide, by decide, by decide⟩ rfl (by decide)

end Rtl8723du.Xmit
