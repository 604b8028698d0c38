import Rtl8723du.Lib.Bytes
import Rtl8723du.Mgmt.Frame

/-!
# The MPDUs of an MSDU

`rtw_xmitframe_coalesce` makes the MPDUs of an Ethernet frame one behind the other in the transmit
buffer: each has the 802.11 header, the IV and a part of the LLC header and payload, and room for
the ICV where that is computed in software.  The header is made once and copied into the other
fragments, and so is the IV; neither the fragment number nor the packet number is set anew.

The attributes are those that `update_attrib` has filled in.  There is no WDS, mesh or TDLS.
-/

namespace Rtl8723du.Xmit

open Lib.Bytes

/-! ### The adapter and its stations -/

/-- The state of the MLME that `rtw_make_wlanhdr` distinguishes. -/
inductive FwState
  | station
  | ap
  | adhoc
deriving DecidableEq, Repr

/-- `frag_len`, as `rtw_wx_set_frag` accepts it. -/
structure FragLen where
  val : ℕ
  min_le : 256 ≤ val
  le_max : val ≤ 2346

/-- The part of the adapter that an MPDU depends on. -/
structure TxAdapter where
  fwState : FwState
  macAddr : MacAddr
  bssid : MacAddr
  /-- `qospriv.qos_option`. -/
  qosOption : Bool
  acmMask : UInt8
  swEncrypt : Bool
  hwDecrypted : Bool
  /-- `dot11AuthAlgrthm` is 802.1X. -/
  dot118021X : Bool
  dot11PrivacyKeyIndex : Fin 4
  dot118021XGrpKeyid : Fin 4
  fragLen : FragLen

/-- The station that a frame is for; `update_sta_info` gives the access point the QoS option of the
adapter. -/
structure TxSta (a : TxAdapter) where
  qosOption : Bool
  qosOption_of_station : a.fwState = .station → a.qosOption = true → qosOption = true

/-- An Ethernet frame that is handed to the driver. -/
structure EthPkt where
  dst : MacAddr
  src : MacAddr
  etherType : ℕ
  payload : List UInt8

/-! ### The attributes -/

/-- `iv_len` by the cipher. -/
def ivLen : SecurityType → ℕ
  | .wep40 | .wep104 => 4
  | .tkip | .aes | .gcmp | .gcmp256 | .ccmp256 => 8
  | _ => 0

/-- `icv_len` by the cipher. -/
def icvLen : SecurityType → ℕ
  | .wep40 | .wep104 | .tkip => 4
  | .aes => 8
  | .gcmp | .gcmp256 | .ccmp256 => 16
  | _ => 0

/-- The advance of `dot11txpn`. -/
def nextPn (txpn : ℕ) : ℕ := if txpn = 2 ^ 48 - 1 then 0 else txpn + 1

/-- `TSC0` to `TSC5`. -/
def tsc (pn k : ℕ) : UInt8 := UInt8.ofNat (pn / 256 ^ k)

/-- The byte of the IV with the key id. -/
def keyIdByte (keyIdx : Fin 4) : UInt8 := UInt8.ofNat (64 * keyIdx)

/-- `WEP_IV`, `TKIP_IV`, `AES_IV` and `GCMP_IV`, with the packet number that has been advanced; the
key id of a pairwise key is zero, but for WEP. -/
def txIv (encrypt : SecurityType) (pn : ℕ) (bmcast : Bool) (keyIdx : Fin 4) : List UInt8 :=
  let keyId := keyIdByte (if bmcast then keyIdx else 0)
  match encrypt with
  | .wep40 | .wep104 => [tsc pn 0, tsc pn 1, tsc pn 2, keyIdByte keyIdx]
  | .tkip =>
      [tsc pn 1, (tsc pn 1 ||| 0x20) &&& 0x7f, tsc pn 0, 0x20 ||| keyId, tsc pn 2, tsc pn 3,
        tsc pn 4, tsc pn 5]
  | .aes | .gcmp | .gcmp256 | .ccmp256 =>
      [tsc pn 0, tsc pn 1, 0, 0x20 ||| keyId, tsc pn 2, tsc pn 3, tsc pn 4, tsc pn 5]
  | _ => []

/-- `struct pkt_attrib`, as `update_attrib` leaves it. -/
structure PktAttrib where
  fwState : FwState
  bssid : MacAddr
  dst : MacAddr
  src : MacAddr
  ta : MacAddr
  etherType : ℕ
  encrypt : SecurityType
  /-- The ICV is computed in software. -/
  bswenc : Bool
  keyIdx : Fin 4
  iv : List UInt8
  length_iv : iv.length = ivLen encrypt
  qosEn : Bool
  /-- `subtype` is `WIFI_QOS_DATA_TYPE`, and `hdrlen` counts the QoS control field. -/
  qosData : Bool
  priority : Fin 8
  qosEn_of_qosData : qosData = true → qosEn = true
  priority_of_not_qosData : qosData = false → priority = 0
  mdata : Bool
  eosp : Bool
  ackPolicy : Fin 4
  seqnum : Fin 4096

/-- `tos_to_up`, from the precedence, and `set_qos`. -/
def setQos (pkt : EthPkt) : Fin 8 :=
  if pkt.etherType = 0x0800 then Fin.ofNat 8 ((pkt.payload.getD 1 0).toNat / 32) else 0

/-- `qos_acm`. -/
def qosAcm (acmMask : UInt8) (priority : Fin 8) : Fin 8 :=
  if (priority = 0 ∨ priority = 3) ∧ acmMask &&& 0x02 ≠ 0 then 1
  else if (priority = 4 ∨ priority = 5) ∧ acmMask &&& 0x04 ≠ 0 then 0
  else if (priority = 6 ∨ priority = 7) ∧ acmMask &&& 0x08 ≠ 0 then 5
  else priority

/-- Whether `update_attrib` calls `set_qos`. -/
def callsSetQos (a : TxAdapter) (psta : TxSta a) : Bool :=
  if a.fwState = .station then a.qosOption else psta.qosOption

/-- The receiver address. -/
def pktRa (a : TxAdapter) (pkt : EthPkt) : MacAddr :=
  if a.fwState = .station then a.bssid else pkt.dst

/-- `key_idx`. -/
def pktKeyIdx (a : TxAdapter) (pkt : EthPkt) : Fin 4 :=
  if a.dot118021X then if isMcast (pktRa a pkt) then a.dot118021XGrpKeyid else 0
  else a.dot11PrivacyKeyIndex

/-- `update_attrib`, for a frame that is encrypted with a cipher under a packet number; `sw` is true
for an EAPOL message 4/4, and for a group key that is in conflict in the CAM. -/
def updateAttrib (a : TxAdapter) (psta : TxSta a) (pkt : EthPkt) (encrypt : SecurityType)
    (pn : ℕ) (sw : Bool) (seqnum : Fin 4096) : PktAttrib where
  fwState := a.fwState
  bssid := a.bssid
  dst := pkt.dst
  src := pkt.src
  ta := a.macAddr
  etherType := pkt.etherType
  encrypt := encrypt
  bswenc := encrypt ≠ .noPrivacy ∧ (a.swEncrypt = true ∨ a.hwDecrypted = false ∨ sw = true)
  keyIdx := pktKeyIdx a pkt
  iv := txIv encrypt pn (isMcast (pktRa a pkt)) (pktKeyIdx a pkt)
  length_iv := by cases encrypt <;> rfl
  qosEn := psta.qosOption
  qosData := callsSetQos a psta
  priority :=
    if callsSetQos a psta then
      if a.fwState = .station then qosAcm a.acmMask (setQos pkt) else setQos pkt
    else 0
  qosEn_of_qosData := by
    intro h
    rw [callsSetQos] at h
    split at h
    · next hstation => exact psta.qosOption_of_station hstation h
    · exact h
  priority_of_not_qosData := by
    intro h
    rw [h]
    rfl
  mdata := false
  eosp := false
  ackPolicy := 0
  seqnum := seqnum

namespace PktAttrib

variable (p : PktAttrib)

/-- The receiver address. -/
def ra : MacAddr := if p.fwState = .station then p.bssid else p.dst

/-- `bmcst`. -/
def bmcst : Bool := isMcast p.ra

/-- `hdrlen`. -/
def hdrlen : ℕ := if p.qosData then 26 else 24

/-- What `bswenc` adds for the ICV. -/
def swIcvLen : ℕ := if p.bswenc then icvLen p.encrypt else 0

end PktAttrib

/-! ### The header -/

/-- `rtw_make_wlanhdr`: the header, without More Fragments. -/
def rtwMakeWlanhdr (p : PktAttrib) : List UInt8 :=
  let dsAddrs : UInt8 × List UInt8 :=
    match p.fwState with
    | .station => (0x01, p.bssid.toList ++ p.ta.toList ++ p.dst.toList)
    | .ap => (0x02, p.dst.toList ++ p.bssid.toList ++ p.src.toList)
    | .adhoc => (0x00, p.dst.toList ++ p.ta.toList ++ p.bssid.toList)
  let flags := dsAddrs.1 ||| (if p.mdata then 0x20 else 0) |||
    (if p.encrypt = .noPrivacy then 0 else 0x40)
  [if p.qosData then 0x88 else 0x08, flags, 0, 0] ++ dsAddrs.2 ++ leBytes 2 (16 * p.seqnum) ++
    if p.qosData then
      [UInt8.ofNat p.priority ||| (if p.eosp then 0x10 else 0) |||
        UInt8.ofNat (32 * p.ackPolicy), 0]
    else []

/-- `SetMFrag`. -/
def setMFrag (hdr : List UInt8) : List UInt8 := hdr.modify 1 (· ||| 0x04)

/-- `ClearMFrag`. -/
def clearMFrag (hdr : List UInt8) : List UInt8 := hdr.modify 1 (· &&& 0xfb)

/-- `rtw_put_snap`. -/
def rtwPutSnap (hProto : ℕ) : List UInt8 :=
  [0xaa, 0xaa, 0x03, 0x00, 0x00, if hProto = 0x8137 ∨ hProto = 0x80f3 then 0xf8 else 0x00,
    UInt8.ofNat (hProto / 256), UInt8.ofNat hProto]

/-! ### The loop -/

/-- `RND4`. -/
def rnd4 (x : ℕ) : ℕ := 4 * ((x + 3) / 4)

/-- An MPDU in the transmit buffer, with the room for the ICV. -/
structure Mpdu where
  /-- The address of the header. -/
  start : ℕ
  hdr : List UInt8
  iv : List UInt8
  body : List UInt8
  icv : List UInt8
deriving DecidableEq, Repr

/-- The bytes of an MPDU. -/
def Mpdu.bytes (f : Mpdu) : List UInt8 := f.hdr ++ f.iv ++ f.body ++ f.icv

/-- `mpdu_len`: how much of the packet a fragment has room for. -/
def mpduLen (fragLen : FragLen) (p : PktAttrib) (first : Bool) : ℕ :=
  fragLen.val - 4 - p.hdrlen - ivLen p.encrypt - (if first then 8 else 0) - p.swIcvLen

/-- `mem_sz`: how much of the packet a fragment gets.  A group addressed frame is not fragmented. -/
def memSz (fragLen : FragLen) (p : PktAttrib) (first : Bool) (rest : List UInt8) : ℕ :=
  if p.bmcst then rest.length else min (mpduLen fragLen p first) rest.length

/-- The loop of `rtw_xmitframe_coalesce`, for at most `fuel` fragments: `memStart` is where the next
one begins, and `rest` is what has not been read of the packet. -/
def coalesceLoop (fragLen : FragLen) (p : PktAttrib) (hwHdrOffset : ℕ) (hdr : List UInt8) :
    ℕ → Bool → ℕ → List UInt8 → List Mpdu
  | 0, _, _, _ => []
  | fuel + 1, first, memStart, rest =>
      let llc := if first then rtwPutSnap p.etherType else []
      let sz := memSz fragLen p first rest
      let body := llc ++ rest.take sz
      let icv := List.replicate p.swIcvLen 0
      if p.bmcst = true ∨ sz = rest.length then
        [⟨memStart, clearMFrag hdr, p.iv, body, icv⟩]
      else
        let pframe := memStart + p.hdrlen + ivLen p.encrypt + body.length + p.swIcvLen
        ⟨memStart, hdr, p.iv, body, icv⟩ ::
          coalesceLoop fragLen p hwHdrOffset hdr fuel false (rnd4 pframe + hwHdrOffset)
            (rest.drop sz)

/-- `TXDESC_SIZE`. -/
abbrev txdescSize : ℕ := 40

/-- `PACKET_OFFSET_SZ`. -/
abbrev packetOffsetSz : ℕ := 8

/-- `hw_hdr_offset`. -/
def hwHdrOffset (pktOffset : ℕ) : ℕ := txdescSize + pktOffset * packetOffsetSz

/-- `rtw_xmitframe_coalesce` up to the MIC and the encryption, in a buffer at `bufAddr`. -/
def rtwXmitframeCoalesce (fragLen : FragLen) (p : PktAttrib) (bufAddr pktOffset : ℕ)
    (payload : List UInt8) : List Mpdu :=
  coalesceLoop fragLen p (hwHdrOffset pktOffset) (setMFrag (rtwMakeWlanhdr p)) (payload.length + 1)
    true (bufAddr + hwHdrOffset pktOffset) payload

/-- `last_txcmdsz`. -/
def lastTxcmdsz (mpdus : List Mpdu) : ℕ := (mpdus.getLast?.map fun f => f.bytes.length).getD 0

/-! ### One MPDU, or more -/

/-- The MSDU fits one MPDU, or is not fragmented. -/
def Fits (fragLen : FragLen) (p : PktAttrib) (payload : List UInt8) : Prop :=
  p.bmcst = true ∨ payload.length ≤ mpduLen fragLen p true

instance (fragLen : FragLen) (p : PktAttrib) (payload : List UInt8) :
    Decidable (Fits fragLen p payload) :=
  inferInstanceAs (Decidable (_ ∨ _))

variable {fragLen : FragLen} {p : PktAttrib} {bufAddr pktOffset k memStart : ℕ} {first : Bool}
  {payload rest hdr : List UInt8} {f : Mpdu}

@[simp] lemma length_rtwPutSnap (hProto : ℕ) : (rtwPutSnap hProto).length = 8 := rfl

lemma length_rtwMakeWlanhdr (p : PktAttrib) : (rtwMakeWlanhdr p).length = p.hdrlen := by
  rw [rtwMakeWlanhdr, PktAttrib.hdrlen]
  cases p.fwState <;> cases p.qosData <;> simp [leBytes]

@[simp] lemma length_setMFrag (hdr : List UInt8) : (setMFrag hdr).length = hdr.length := by
  simp [setMFrag]

@[simp] lemma length_clearMFrag (hdr : List UInt8) : (clearMFrag hdr).length = hdr.length := by
  simp [clearMFrag]

lemma hdrlen_le (p : PktAttrib) : p.hdrlen ≤ 26 := by
  rw [PktAttrib.hdrlen]
  split <;> decide

lemma ivLen_le (e : SecurityType) : ivLen e ≤ 8 := by cases e <;> decide

lemma swIcvLen_le (p : PktAttrib) : p.swIcvLen ≤ 16 := by
  rw [PktAttrib.swIcvLen]
  split
  · cases p.encrypt <;> decide
  · decide

/-- Every fragment has room for a part of the packet. -/
lemma mpduLen_pos (fragLen : FragLen) (p : PktAttrib) (first : Bool) :
    0 < mpduLen fragLen p first := by
  have hmin := fragLen.min_le
  have hhdr := hdrlen_le p
  have hiv := ivLen_le p.encrypt
  have hicv := swIcvLen_le p
  rw [mpduLen]
  split <;> omega

/-- The single MPDU of an MSDU that fits. -/
def wholeMpdu (p : PktAttrib) (memStart : ℕ) (payload : List UInt8) : Mpdu where
  start := memStart
  hdr := clearMFrag (setMFrag (rtwMakeWlanhdr p))
  iv := p.iv
  body := rtwPutSnap p.etherType ++ payload
  icv := List.replicate p.swIcvLen 0

lemma coalesce_of_fits (h : Fits fragLen p payload) :
    rtwXmitframeCoalesce fragLen p bufAddr pktOffset payload =
      [wholeMpdu p (bufAddr + hwHdrOffset pktOffset) payload] := by
  have hsz : memSz fragLen p true payload = payload.length := by
    rw [memSz]
    split
    · rfl
    · next hno => exact min_eq_right (h.resolve_left hno)
  rw [rtwXmitframeCoalesce, coalesceLoop]
  simp only [hsz, if_true, List.take_length, or_true]
  rfl

/-- What all fragments have in common. -/
lemma coalesceLoop_mem {off : ℕ} (hf : f ∈ coalesceLoop fragLen p off hdr k first memStart rest) :
    f.iv = p.iv ∧ (f.hdr = hdr ∨ f.hdr = clearMFrag hdr) := by
  induction k generalizing first memStart rest with
  | zero => simp [coalesceLoop] at hf
  | succ k ih =>
      rw [coalesceLoop] at hf
      simp only at hf
      split at hf
      · obtain rfl := List.mem_singleton.1 hf
        exact ⟨rfl, .inr rfl⟩
      · rcases List.mem_cons.1 hf with rfl | hf
        · exact ⟨rfl, .inl rfl⟩
        · exact ih hf

lemma coalesceLoop_ne_nil {off : ℕ} :
    coalesceLoop fragLen p off hdr (k + 1) first memStart rest ≠ [] := by
  rw [coalesceLoop]
  simp only
  split <;> exact List.cons_ne_nil _ _

/-- The first two MPDUs of an MSDU that does not fit. -/
lemma coalesce_of_not_fits (bufAddr pktOffset : ℕ) (h : ¬ Fits fragLen p payload) :
    ∃ f g l, rtwXmitframeCoalesce fragLen p bufAddr pktOffset payload = f :: g :: l ∧
      f.start = bufAddr + hwHdrOffset pktOffset ∧ f.hdr = setMFrag (rtwMakeWlanhdr p) ∧
      f.iv = p.iv ∧ f.body.length = 8 + mpduLen fragLen p true ∧
      (g.hdr = setMFrag (rtwMakeWlanhdr p) ∨ g.hdr = clearMFrag (setMFrag (rtwMakeWlanhdr p))) ∧
      g.iv = p.iv := by
  rw [Fits, not_or, not_le] at h
  obtain ⟨hbm, hlt⟩ := h
  have hpos := mpduLen_pos fragLen p true
  obtain ⟨n, hn⟩ : ∃ n, payload.length = n + 1 := ⟨payload.length - 1, by omega⟩
  have hsz : memSz fragLen p true payload = mpduLen fragLen p true := by
    rw [memSz, if_neg hbm, min_eq_left hlt.le]
  rw [rtwXmitframeCoalesce, coalesceLoop]
  simp only [hsz, hbm, false_or, if_neg hlt.ne, if_true, Bool.false_eq_true]
  rw [hn]
  set l := coalesceLoop fragLen p (hwHdrOffset pktOffset) (setMFrag (rtwMakeWlanhdr p)) (n + 1)
    false
    (rnd4 (bufAddr + hwHdrOffset pktOffset + p.hdrlen + ivLen p.encrypt +
      (rtwPutSnap p.etherType ++ List.take (mpduLen fragLen p true) payload).length +
        p.swIcvLen) + hwHdrOffset pktOffset) (List.drop (mpduLen fragLen p true) payload) with hl
  rcases hcons : l with _ | ⟨g, l'⟩
  · exact absurd hcons coalesceLoop_ne_nil
  have hg : g ∈ l := by rw [hcons]; exact List.mem_cons_self
  obtain ⟨hiv, hhdr⟩ := coalesceLoop_mem hg
  refine ⟨_, g, l', rfl, rfl, rfl, rfl, ?_, hhdr, hiv⟩
  rw [List.length_append, length_rtwPutSnap, List.length_take, min_eq_left hlt.le]

/-! ### The MSDUs -/

/-- An MSDU that is sent, with all that its MPDUs depend on. -/
structure Msdu where
  a : TxAdapter
  psta : TxSta a
  pkt : EthPkt
  sw : Bool
  seqnum : Fin 4096
  bufAddr : ℕ
  pktOffset : ℕ

/-- The attributes of the MSDU. -/
def Msdu.attrib (m : Msdu) (encrypt : SecurityType) (pn : ℕ) : PktAttrib :=
  updateAttrib m.a m.psta m.pkt encrypt pn m.sw m.seqnum

/-- Its MPDUs. -/
def Msdu.mpdus (m : Msdu) (encrypt : SecurityType) (pn : ℕ) : List Mpdu :=
  rtwXmitframeCoalesce m.a.fragLen (m.attrib encrypt pn) m.bufAddr m.pktOffset m.pkt.payload

/-- The MSDU goes out as one MPDU. -/
def Msdu.Single (m : Msdu) (encrypt : SecurityType) : Prop :=
  Fits m.a.fragLen (m.attrib encrypt 0) m.pkt.payload

instance (m : Msdu) (encrypt : SecurityType) : Decidable (m.Single encrypt) :=
  inferInstanceAs (Decidable (Fits _ _ _))

/-- The packet number does not change what fits. -/
lemma Msdu.single_iff {m : Msdu} {encrypt : SecurityType} (pn : ℕ) : m.Single encrypt ↔
    Fits m.a.fragLen (m.attrib encrypt pn) m.pkt.payload := Iff.rfl

/-! ### A station -/

/-- A station of a QoS network with the smallest fragmentation threshold. -/
def plainAdapter : TxAdapter where
  fwState := .station
  macAddr := .ofBytes 0x00 0xe0 0x4c 0x01 0x02 0x03
  bssid := .ofBytes 0x00 0x11 0x22 0x33 0x44 0x55
  qosOption := true
  acmMask := 0
  swEncrypt := true
  hwDecrypted := false
  dot118021X := true
  dot11PrivacyKeyIndex := 0
  dot118021XGrpKeyid := 1
  fragLen := ⟨256, by decide, by decide⟩

/-- Its access point. -/
def plainSta : TxSta plainAdapter where
  qosOption := true
  qosOption_of_station _ _ := rfl

/-- A frame with `n` bytes of payload that the station sends. -/
def plainPkt (n : ℕ) : EthPkt where
  dst := .ofBytes 0x00 0xaa 0xbb 0xcc 0xdd 0xee
  src := plainAdapter.macAddr
  etherType := 0x0806
  payload := .replicate n 0

/-- The frame, in a transmit buffer. -/
def plainMsdu (n : ℕ) : Msdu where
  a := plainAdapter
  psta := plainSta
  pkt := plainPkt n
  sw := false
  seqnum := 1
  bufAddr := 0
  pktOffset := 1

end Rtl8723du.Xmit
