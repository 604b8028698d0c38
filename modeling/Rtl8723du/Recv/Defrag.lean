import Rtl8723du.Lib.Machine
import Rtl8723du.Recv.Michael
import Rtl8723du.Recv.Pn

/-!
# Reassembly of fragmented frames

`recvframe_chk_defrag` queues the fragments of a station in its `defrag_q`, and
`recvframe_defrag` puts them together when the last one arrives.

The queue is shared by everything a station sends.  `recvframe_defrag` checks that
the fragment numbers are `0, 1, 2, ...`, that `keytrack` did not change and that the
packet numbers of CCMP and GCMP fragments are consecutive.  It does not compare the
sequence numbers, nor whether and how the fragments are encrypted; of the keys, only
the pairwise ones that got a CAM entry count in `keytrack`.
`recvframe_chk_defrag_reassembles` says for every run when what it hands on is one
MSDU.
-/

namespace Rtl8723du

open Lib.Bytes Lib.Machine

/-! ### The frames -/

/-- The frame is a data frame. -/
def RecvFrame.IsDataFrame (f : RecvFrame) : Prop := getFrameType f.rxData = wifiDataType

instance (f : RecvFrame) : Decidable f.IsDataFrame := inferInstanceAs (Decidable (_ = _))

/-- The ciphers whose packet numbers `recvframe_defrag` compares: `_AES_`,
`_CCMP_256_`, `_GCMP_` and `_GCMP_256_`. -/
def SecurityType.hasCcmpPn (e : SecurityType) : Bool :=
  e == .aes || e == .ccmp256 || e == .gcmp || e == .gcmp256

/-! ### The stations -/

/-- The TKIP MIC keys: `dot11tkiprxmickey` of each station, and
`dot118021XGrprxmickey` of each key id. -/
structure TkipMicKeys where
  rxmickey : MacAddr → List UInt8
  grprxmickey : Fin 4 → List UInt8
  binstallGrpkey : Bool

/-- The part of `struct sta_info` that fragments are kept in. -/
structure DefragSta where
  defragQ : List RecvFrame
  keytrack : BitVec 32
  /-- `dot118021x_UncstKey`, the pairwise key. -/
  uncstKey : List UInt8

/-- The part of the adapter that `decryptor` and `recvframe_chk_defrag` work on: the
stations, the TKIP MIC keys, and the WEP and group keys of each key id. -/
structure DefragPriv where
  stapriv : MacAddr → Option DefragSta
  mickeys : TkipMicKeys
  /-- `dot11DefKey`, as long as `dot11DefKeylen` says. -/
  defKey : Fin 4 → List UInt8
  /-- `dot118021XGrpKey`. -/
  grpKey : Fin 4 → List UInt8

/-- The address under which `rtw_get_stainfo` looks a station up: the broadcast address
for all group addresses. -/
def stainfoAddr (hwaddr : MacAddr) : MacAddr := if isMcast hwaddr then bcAddr else hwaddr

/-- `rtw_get_stainfo`. -/
def DefragPriv.getStainfo (s : DefragPriv) (hwaddr : MacAddr) : Option DefragSta :=
  s.stapriv (stainfoAddr hwaddr)

/-- The address of the station whose queue `recvframe_chk_defrag` uses: the transmitter,
or the broadcast station if there is no transmitter and the frame is not a data
frame. -/
def DefragPriv.pstaAddr (s : DefragPriv) (f : RecvFrame) : MacAddr :=
  if (s.getStainfo f.attrib.ta).isSome then stainfoAddr f.attrib.ta
  else if getFrameType f.rxData = wifiDataType then stainfoAddr f.attrib.ta
  else bcAddr

/-- That station, `psta`. -/
def DefragPriv.psta (s : DefragPriv) (f : RecvFrame) : Option DefragSta :=
  s.stapriv (s.pstaAddr f)

/-- The key that `decryptor` takes for a frame: `rtw_wep_decrypt` the default key of the key
id, the other ciphers the pairwise key of the transmitter, or the group key of the key id
for a group address. -/
def DefragPriv.swKey (s : DefragPriv) (f : RecvFrame) : List UInt8 :=
  if f.attrib.encrypt = .wep40 ∨ f.attrib.encrypt = .wep104 then s.defKey f.attrib.keyIndex
  else if isMcast f.attrib.ra then s.grpKey f.attrib.keyIndex
  else ((s.getStainfo f.attrib.ta).map DefragSta.uncstKey).getD []

/-- The key of a frame.  One that the hardware has decrypted comes with it. -/
def DefragPriv.keyOf (s : DefragPriv) (f : RecvFrame) : List UInt8 :=
  if f.attrib.bdecrypted then f.key else s.swKey f

/-- The state after changing the queue of a station. -/
def DefragPriv.setDefragQ (s : DefragPriv) (addr : MacAddr) (q : List RecvFrame) : DefragPriv :=
  { s with
    stapriv := Function.update s.stapriv addr
      ((s.stapriv addr).map fun sta => { sta with defragQ := q }) }

/-! ### Reassembly -/

/-- `recvframe_chkmic`.  What lies past the end of the frame is not modelled: a frame
too short for a MIC fails. -/
def recvframeChkmic (s : DefragPriv) (f : RecvFrame) : RxRet × RecvFrame :=
  if f.attrib.encrypt = .tkip then
    if (s.getStainfo f.attrib.ta).isSome then
      if isMcast f.attrib.ra ∧ ¬s.mickeys.binstallGrpkey then (.fail, f)
      else
        let mickey := if isMcast f.attrib.ra then s.mickeys.grprxmickey f.attrib.keyIndex
          else s.mickeys.rxmickey (stainfoAddr f.attrib.ta)
        let datalen := (BitVec.ofNat 32 f.rxData.length -
          BitVec.ofNat 32 (f.attrib.hdrlen + f.attrib.ivLen + f.attrib.icvLen + 8)).toNat
        let payload := f.rxData.drop (f.attrib.hdrlen + f.attrib.ivLen)
        let miccode := rtwSeccalctkipmic mickey f.rxData (payload.take datalen)
          (UInt8.ofNat f.attrib.priority)
        let pframemic := (payload.drop datalen).take 8
        (if miccode = pframemic then .success else .fail, f.pullTail 8)
    else (.success, f.pullTail 8)
  else (.success, f)

/-- The fragment without its header and IV. -/
def RecvFrame.pullHdr (f : RecvFrame) : RecvFrame := f.pull (f.attrib.hdrlen + f.attrib.ivLen)

/-- A fragment is appended to the first one, in place of the ICV there. -/
def RecvFrame.appendFragment (prframe pnextrframe : RecvFrame) : RecvFrame :=
  let r := (prframe.pullTail prframe.attrib.icvLen).put pnextrframe.pullHdr.rxData
  { r with attrib := { r.attrib with icvLen := pnextrframe.attrib.icvLen } }

/-- The loop of `recvframe_defrag` over the second and later fragments. -/
def recvframeDefragLoop (curfragnum curPn : ℕ) (prframe : RecvFrame) :
    List RecvFrame → Option RecvFrame
  | [] => some prframe
  | pnextrframe :: rest =>
      let pattrib := pnextrframe.attrib
      -- the packet number must be consecutive
      if pattrib.encrypt.hasCcmpPn ∧ pnextrframe.pktPn ≠ curPn + 1 then none
      else if prframe.keytrack ≠ pnextrframe.keytrack then none
      -- the fragment number must be increasing
      else if curfragnum ≠ pattrib.fragNum then none
      -- not enough buffer space
      else if prframe.room < pnextrframe.pullHdr.rxData.length then none
      else
        recvframeDefragLoop (curfragnum + 1)
          (if pattrib.encrypt.hasCcmpPn then pnextrframe.pktPn else curPn)
          (prframe.appendFragment pnextrframe) rest

/-- `recvframe_defrag`.  The queue is empty afterwards in any case. -/
def recvframeDefrag : List RecvFrame → Option RecvFrame
  | [] => none
  | prframe :: rest =>
      let curPn := if prframe.attrib.encrypt.hasCcmpPn then prframe.pktPn else 0
      if prframe.attrib.fragNum ≠ 0 then none
      else recvframeDefragLoop 1 curPn prframe rest

/-- The fragment with its key and the `keytrack` of its station. -/
def DefragPriv.stamp (s : DefragPriv) (f : RecvFrame) : RecvFrame :=
  match s.psta f with
  | none => { f with key := s.keyOf f }
  | some sta => { f with keytrack := sta.keytrack, key := s.keyOf f }

/-- `recvframe_chk_defrag` up to the check of the TKIP MIC. -/
def recvframeChkFrag (s : DefragPriv) (f : RecvFrame) : Option RecvFrame × DefragPriv :=
  if ¬f.attrib.mfrag ∧ f.attrib.fragNum = 0 then (some f, s)
  -- group addressed frames cannot use fragmentation
  else if isMcast f.attrib.ra then (none, s)
  else
    match s.psta f with
    | none => (none, s)
    | some sta =>
        if f.attrib.mfrag then
          let q := if f.attrib.fragNum = 0 then [] else sta.defragQ
          (none, s.setDefragQ (s.pstaAddr f) (q ++ [s.stamp f]))
        else
          (recvframeDefrag (sta.defragQ ++ [s.stamp f]), s.setDefragQ (s.pstaAddr f) [])

/-- `recvframe_chk_defrag`. -/
def recvframeChkDefrag (s : DefragPriv) (f : RecvFrame) : Option RecvFrame × DefragPriv :=
  let r := recvframeChkFrag s f
  match r.1 with
  | none => (none, r.2)
  | some m =>
      if m.attrib.privacy then
        let c := recvframeChkmic s m
        (if c.1 = .fail then none else some c.2, r.2)
      else (some m, r.2)

/-! ### Runs -/

/-- What happens to the fragments: a frame is received, keys change, a station comes or
goes. -/
inductive DefragEvent
  | frame (f : RecvFrame)
  /-- A pairwise key is copied to `dot118021x_UncstKey`. -/
  | setUncstKey (addr : MacAddr) (key : List UInt8)
  /-- `set_stakey_hdl` with a pairwise key; `camId` tells whether the key got a CAM
  entry. -/
  | setStakey (addr : MacAddr) (camId : Bool)
  | setDefKey (keyid : Fin 4) (key : List UInt8)
  | setGrpKey (keyid : Fin 4) (key : List UInt8)
  | setMickeys (k : TkipMicKeys)
  | allocStainfo (addr : MacAddr)
  | freeStainfo (addr : MacAddr)

/-- What a frame finds and what comes of it. -/
structure Defragged where
  /-- The fragments that wait in the queue of its station. -/
  waiting : List RecvFrame
  /-- The frame, with its key and the `keytrack` of its station. -/
  frame : RecvFrame
  /-- What `recvframe_chk_defrag` hands on. -/
  result : Option RecvFrame
deriving DecidableEq

/-- `ATOMIC_INC(&psta->keytrack)`, only if the key got a CAM entry. -/
def DefragSta.setKey (sta : DefragSta) (camId : Bool) : DefragSta :=
  { sta with keytrack := if camId then sta.keytrack + 1 else sta.keytrack }

/-- A new `struct sta_info`. -/
def DefragSta.init : DefragSta := { defragQ := [], keytrack := 0, uncstKey := .replicate 32 0 }

/-- One event. -/
def defragStep (s : DefragPriv) : DefragEvent → DefragPriv × List Defragged
  | .frame f =>
      ((recvframeChkDefrag s f).2,
        [{ waiting := ((s.psta f).map DefragSta.defragQ).getD [], frame := s.stamp f
           result := (recvframeChkDefrag s f).1 }])
  | .setUncstKey addr key =>
      ({ s with
        stapriv := Function.update s.stapriv (stainfoAddr addr)
          ((s.getStainfo addr).map fun sta => { sta with uncstKey := key }) }, [])
  | .setStakey addr camId =>
      ({ s with
        stapriv := Function.update s.stapriv (stainfoAddr addr)
          ((s.getStainfo addr).map fun sta => sta.setKey camId) }, [])
  | .setDefKey keyid key => ({ s with defKey := Function.update s.defKey keyid key }, [])
  | .setGrpKey keyid key => ({ s with grpKey := Function.update s.grpKey keyid key }, [])
  | .setMickeys k => ({ s with mickeys := k }, [])
  | .allocStainfo addr =>
      ({ s with
        stapriv := Function.update s.stapriv addr (some ((s.stapriv addr).getD .init)) }, [])
  | .freeStainfo addr => ({ s with stapriv := Function.update s.stapriv addr none }, [])

/-- The state before anything is received: no station has fragments. -/
def DefragPriv.Fresh (s : DefragPriv) : Prop :=
  ∀ addr sta, s.stapriv addr = some sta → sta.defragQ = []

/-! ### What an MSDU is -/

/-- The frame is the last one of a fragmented MSDU. -/
def RecvFrame.IsLastFragment (f : RecvFrame) : Prop :=
  f.attrib.mfrag = false ∧ f.attrib.fragNum ≠ 0

instance (f : RecvFrame) : Decidable f.IsLastFragment := inferInstanceAs (Decidable (_ ∧ _))

/-- The fragments that come together with the frame, in the order of their arrival. -/
def Defragged.fragments (d : Defragged) : List RecvFrame := d.waiting ++ [d.frame]

/-- The sequence counter of a TKIP frame. -/
def RecvFrame.tkipTsc (f : RecvFrame) : ℕ :=
  let iv := f.rxData.drop f.attrib.hdrlen
  leNat ([iv.getD 2 0, iv.getD 0 0] ++ (iv.drop 4).take 4)

/-- The packet number of a frame, if its cipher has one. -/
def RecvFrame.packetNumber (f : RecvFrame) : Option ℕ :=
  if f.attrib.encrypt.hasCcmpPn then some f.pktPn
  else if f.attrib.encrypt = .tkip then some f.tkipTsc
  else none

/-- The frame is as long as its header, IV and ICV. -/
def RecvFrame.WellSized (f : RecvFrame) : Prop :=
  f.attrib.hdrlen + f.attrib.ivLen + f.attrib.icvLen ≤ f.rxData.length

instance (f : RecvFrame) : Decidable f.WellSized := inferInstanceAs (Decidable (_ ≤ _))

/-- What is between the header with the IV and the ICV. -/
def RecvFrame.body (f : RecvFrame) : List UInt8 :=
  (f.rxData.take (f.rxData.length - f.attrib.icvLen)).drop (f.attrib.hdrlen + f.attrib.ivLen)

/-- The length of the MIC at the end of an MSDU, which is not part of it. -/
def RecvFrame.micLen (f : RecvFrame) : ℕ :=
  if f.attrib.privacy ∧ f.attrib.encrypt = .tkip then 8 else 0

/-- The frame is the MSDU that the fragments are the parts of. -/
structure IsMsduOf (frags : List RecvFrame) (m : RecvFrame) : Prop where
  numbered : frags.map (fun g => (g.attrib.fragNum : ℕ)) = List.range frags.length
  data : ∀ g ∈ frags, g.IsDataFrame
  ta : ∀ g ∈ frags, g.attrib.ta = m.attrib.ta
  seqNum : ∀ g ∈ frags, g.attrib.seqNum = m.attrib.seqNum
  protection : ∀ g ∈ frags, g.attrib.privacy = m.attrib.privacy ∧
    g.attrib.encrypt = m.attrib.encrypt
  key : m.attrib.encrypt ≠ .noPrivacy → ∀ g ∈ frags, g.key = m.key
  consecutive : frags.IsChain fun g g' =>
    ∀ pn, g.packetNumber = some pn → g'.packetNumber = some (pn + 1)
  wellSized : ∀ g ∈ frags, g.WellSized
  payload : m.body = ((frags.map RecvFrame.body).flatten).take
    ((frags.map RecvFrame.body).flatten.length - m.micLen)

/-- What `recvframe_defrag` relies on without checking it: the fragments are long
enough, they belong to one MSDU and are protected in one way, another key shows in
`keytrack`, and the counters of TKIP fragments are consecutive. -/
structure Unmixed (frags : List RecvFrame) : Prop where
  wellSized : ∀ g ∈ frags, g.WellSized
  data : ∀ g ∈ frags, g.IsDataFrame
  groupTa : ∀ g ∈ frags, isMcast g.attrib.ta → ∀ g' ∈ frags, g'.attrib.ta = g.attrib.ta
  seqNum : ∀ g ∈ frags, ∀ g' ∈ frags, g.attrib.seqNum = g'.attrib.seqNum
  protection : ∀ g ∈ frags, ∀ g' ∈ frags, g.attrib.privacy = g'.attrib.privacy ∧
    g.attrib.encrypt = g'.attrib.encrypt
  key : ∀ g ∈ frags, g.attrib.encrypt ≠ .noPrivacy → ∀ g' ∈ frags, g.keytrack = g'.keytrack →
    g.key = g'.key
  tkip : frags.IsChain fun g g' => g.attrib.encrypt = .tkip → g'.tkipTsc = g.tkipTsc + 1

/-! ### One reassembly -/

@[simp] lemma RecvFrame.pullTail_attrib (f : RecvFrame) (sz : ℕ) :
    (f.pullTail sz).attrib = f.attrib := by
  unfold RecvFrame.pullTail
  split <;> rfl

@[simp] lemma RecvFrame.pullTail_keys (f : RecvFrame) (sz : ℕ) :
    (f.pullTail sz).keytrack = f.keytrack ∧ (f.pullTail sz).key = f.key := by
  unfold RecvFrame.pullTail
  split <;> exact ⟨rfl, rfl⟩

lemma RecvFrame.pullTail_rxData {f : RecvFrame} {sz : ℕ} (h : sz ≤ f.rxData.length) :
    (f.pullTail sz).rxData = f.rxData.take (f.rxData.length - sz) := by
  rw [RecvFrame.pullTail, if_neg (by omega)]

/-- Appending changes nothing of the first fragment but its length and its ICV. -/
lemma RecvFrame.appendFragment_fixed (p g : RecvFrame) :
    (p.appendFragment g).attrib = { p.attrib with icvLen := g.attrib.icvLen } ∧
      (p.appendFragment g).keytrack = p.keytrack ∧ (p.appendFragment g).key = p.key := by
  unfold RecvFrame.appendFragment RecvFrame.put RecvFrame.pullTail
  refine ⟨?_, ?_, ?_⟩ <;> split <;> split <;> rfl

lemma RecvFrame.room_le_pullTail (f : RecvFrame) (sz : ℕ) : f.room ≤ (f.pullTail sz).room := by
  unfold RecvFrame.pullTail
  split
  · exact le_rfl
  · exact Nat.le_add_right _ _

/-- A well-sized fragment without header and IV is its body and its ICV. -/
lemma RecvFrame.pullHdr_rxData {g : RecvFrame} (hg : g.WellSized) :
    ∃ icv, g.pullHdr.rxData = g.body ++ icv ∧ icv.length = g.attrib.icvLen := by
  have hlen : g.attrib.hdrlen + g.attrib.ivLen + g.attrib.icvLen ≤ g.rxData.length := hg
  refine ⟨g.rxData.drop (g.rxData.length - g.attrib.icvLen), ?_, ?_⟩
  · rw [RecvFrame.pullHdr, RecvFrame.pull, if_neg (by omega), RecvFrame.body]
    conv_lhs => rw [← List.take_append_drop (g.rxData.length - g.attrib.icvLen) g.rxData]
    rw [List.drop_append_of_le_length]
    rw [List.length_take]
    omega
  · rw [List.length_drop]
    omega

/-- The bytes of a frame that ends in its ICV, after a fragment is appended. -/
lemma RecvFrame.appendFragment_rxData {p g : RecvFrame} {front icv : List UInt8}
    (hp : p.rxData = front ++ icv) (hicv : icv.length = p.attrib.icvLen) (hg : g.WellSized)
    (hroom : g.pullHdr.rxData.length ≤ p.room) :
    ∃ icv', (p.appendFragment g).rxData = front ++ g.body ++ icv' ∧
      icv'.length = g.attrib.icvLen := by
  obtain ⟨icv', hdata, hlen⟩ := g.pullHdr_rxData hg
  refine ⟨icv', ?_, hlen⟩
  have htail : (p.pullTail p.attrib.icvLen).rxData = front := by
    rw [RecvFrame.pullTail_rxData (by simp [hp, hicv]), hp, List.length_append, hicv,
      Nat.add_sub_cancel, List.take_left']
    rfl
  have hput := p.room_le_pullTail p.attrib.icvLen
  rw [RecvFrame.appendFragment, RecvFrame.put, if_neg (by omega)]
  simp only [htail, hdata, List.append_assoc]

/-- The fragments that the loop of `recvframe_defrag` gets past. -/
lemma recvframeDefragLoop_cons {cur pn : ℕ} {p g m : RecvFrame} {rest : List RecvFrame}
    (h : recvframeDefragLoop cur pn p (g :: rest) = some m) :
    (g.attrib.encrypt.hasCcmpPn → g.pktPn = pn + 1) ∧ g.keytrack = p.keytrack ∧
      (g.attrib.fragNum : ℕ) = cur ∧ g.pullHdr.rxData.length ≤ p.room ∧
      recvframeDefragLoop (cur + 1) (if g.attrib.encrypt.hasCcmpPn then g.pktPn else pn)
        (p.appendFragment g) rest = some m := by
  rw [recvframeDefragLoop] at h
  by_cases hpn : g.attrib.encrypt.hasCcmpPn ∧ g.pktPn ≠ pn + 1
  · simp [hpn] at h
  by_cases hkey : p.keytrack ≠ g.keytrack
  · simp [hkey] at h
  by_cases hnum : cur ≠ (g.attrib.fragNum : ℕ)
  · simp [hnum] at h
  by_cases hroom : p.room < g.pullHdr.rxData.length
  · simp [hroom] at h
  rw [if_neg hpn, if_neg hkey, if_neg hnum, if_neg hroom] at h
  refine ⟨fun hccmp => ?_, (not_not.1 hkey).symm, (not_not.1 hnum).symm, not_lt.1 hroom, h⟩
  by_contra hne
  exact hpn ⟨hccmp, hne⟩

lemma recvframeDefragLoop_numbered {cur pn : ℕ} {p m : RecvFrame} {rest : List RecvFrame}
    (h : recvframeDefragLoop cur pn p rest = some m) :
    rest.map (fun g => (g.attrib.fragNum : ℕ)) = List.range' cur rest.length := by
  induction rest generalizing cur pn p with
  | nil => rfl
  | cons g rest ih =>
      obtain ⟨-, -, hnum, -, hrest⟩ := recvframeDefragLoop_cons h
      rw [List.map_cons, List.length_cons, List.range'_succ, ih hrest, hnum]

/-- The reassembled frame has the attributes and the key of the first fragment, and
all fragments have its `keytrack`. -/
lemma recvframeDefragLoop_fixed {cur pn : ℕ} {p m : RecvFrame} {rest : List RecvFrame}
    (h : recvframeDefragLoop cur pn p rest = some m) :
    m.attrib = { p.attrib with icvLen := m.attrib.icvLen } ∧ m.key = p.key ∧
      ∀ g ∈ rest, g.keytrack = p.keytrack := by
  induction rest generalizing cur pn p with
  | nil =>
      obtain rfl : p = m := by simpa [recvframeDefragLoop] using h
      exact ⟨rfl, rfl, by simp⟩
  | cons g rest ih =>
      obtain ⟨-, hkey, -, -, hrest⟩ := recvframeDefragLoop_cons h
      obtain ⟨hattr, htrack, hsame⟩ := p.appendFragment_fixed g
      obtain ⟨hattr', hsame', htrack'⟩ := ih hrest
      refine ⟨?_, hsame'.trans hsame, List.forall_mem_cons.2 ⟨hkey, fun g' hg' => ?_⟩⟩
      · rw [hattr'.trans (by rw [hattr])]
      · rw [htrack' g' hg', htrack]

/-- The packet numbers of CCMP and GCMP fragments count up. -/
lemma recvframeDefragLoop_consecutive {cur pn : ℕ} {p m : RecvFrame} {rest : List RecvFrame}
    (h : recvframeDefragLoop cur pn p rest = some m)
    (hccmp : ∀ g ∈ rest, g.attrib.encrypt.hasCcmpPn) :
    (pn :: rest.map RecvFrame.pktPn).IsChain fun a b => b = a + 1 := by
  induction rest generalizing cur pn p with
  | nil => exact List.isChain_singleton _
  | cons g rest ih =>
      obtain ⟨hpn, -, -, -, hrest⟩ := recvframeDefragLoop_cons h
      obtain ⟨hg, hmem⟩ := List.forall_mem_cons.1 hccmp
      rw [if_pos hg] at hrest
      rw [List.map_cons, List.isChain_cons_cons]
      exact ⟨hpn hg, ih hrest hmem⟩

/-- What the loop makes of well-sized fragments: the header and the bodies, and one
ICV. -/
lemma recvframeDefragLoop_rxData {cur pn : ℕ} {p m : RecvFrame} {rest : List RecvFrame}
    (h : recvframeDefragLoop cur pn p rest = some m) (hsize : ∀ g ∈ rest, g.WellSized)
    {front icv : List UInt8} (hp : p.rxData = front ++ icv)
    (hicv : icv.length = p.attrib.icvLen) :
    ∃ icv', m.rxData = front ++ (rest.map RecvFrame.body).flatten ++ icv' ∧
      icv'.length = m.attrib.icvLen := by
  induction rest generalizing cur pn p front icv with
  | nil =>
      obtain rfl : p = m := by simpa [recvframeDefragLoop] using h
      exact ⟨icv, by simpa using hp, hicv⟩
  | cons g rest ih =>
      obtain ⟨-, -, -, hroom, hrest⟩ := recvframeDefragLoop_cons h
      obtain ⟨hg, hmem⟩ := List.forall_mem_cons.1 hsize
      obtain ⟨icv₁, hdata, hlen⟩ := RecvFrame.appendFragment_rxData hp hicv hg hroom
      obtain ⟨hattr, -⟩ := p.appendFragment_fixed g
      obtain ⟨icv', hm, hlen'⟩ := ih hrest hmem hdata (by rw [hlen, hattr])
      exact ⟨icv', by rw [hm, List.map_cons, List.flatten_cons, List.append_assoc front], hlen'⟩

/-- The reassembled frame, before the MIC is checked. -/
lemma recvframeDefrag_eq_some {frags : List RecvFrame} {m : RecvFrame}
    (h : recvframeDefrag frags = some m) :
    ∃ g₀ rest, frags = g₀ :: rest ∧ g₀.attrib.fragNum = 0 ∧
      recvframeDefragLoop 1 (if g₀.attrib.encrypt.hasCcmpPn then g₀.pktPn else 0) g₀ rest =
        some m := by
  cases frags with
  | nil => simp [recvframeDefrag] at h
  | cons g₀ rest =>
      rw [recvframeDefrag] at h
      by_cases hnum : g₀.attrib.fragNum ≠ 0
      · simp [hnum] at h
      · exact ⟨g₀, rest, rfl, not_not.1 hnum, by rwa [if_neg hnum] at h⟩

/-- The body of a frame whose bytes are known, after `k` bytes are cut off. -/
lemma RecvFrame.body_of_eq {f : RecvFrame} {front mid back : List UInt8} {k : ℕ}
    (hf : f.rxData = (front ++ mid ++ back).take ((front ++ mid ++ back).length - k))
    (hfront : front.length = f.attrib.hdrlen + f.attrib.ivLen)
    (hback : back.length = f.attrib.icvLen) : f.body = mid.take (mid.length - k) := by
  have hlen : f.rxData.length = (front ++ mid ++ back).length - k := by
    rw [hf, List.length_take]
    omega
  rw [RecvFrame.body, hlen, hf, List.take_take, ← hfront, ← hback, List.drop_take,
    List.append_assoc, List.drop_left, List.take_append_of_le_length]
  · congr 1
    simp only [List.length_append]
    omega
  · simp only [List.length_append]
    omega

/-- The bytes of a reassembled frame are those of the fragments, up to the MIC. -/
lemma body_eq_of_recvframeDefrag {frags : List RecvFrame} {m₀ m : RecvFrame}
    (h : recvframeDefrag frags = some m₀) (hsize : ∀ g ∈ frags, g.WellSized)
    (hattr : m.attrib = m₀.attrib)
    (hmic : m.rxData = m₀.rxData.take (m₀.rxData.length - m₀.micLen)) :
    m.body = ((frags.map RecvFrame.body).flatten).take
      ((frags.map RecvFrame.body).flatten.length - m.micLen) := by
  obtain ⟨g₀, rest, rfl, -, hloop⟩ := recvframeDefrag_eq_some h
  obtain ⟨hg₀, hrest⟩ := List.forall_mem_cons.1 hsize
  obtain ⟨icv₀, hdata, hlen⟩ := g₀.pullHdr_rxData hg₀
  have hwell : g₀.attrib.hdrlen + g₀.attrib.ivLen + g₀.attrib.icvLen ≤ g₀.rxData.length := hg₀
  have hsplit : g₀.rxData =
      g₀.rxData.take (g₀.attrib.hdrlen + g₀.attrib.ivLen) ++ g₀.body ++ icv₀ := by
    rw [List.append_assoc, ← hdata, RecvFrame.pullHdr, RecvFrame.pull, if_neg (by omega),
      List.take_append_drop]
  obtain ⟨icv, hm₀, hicv⟩ := recvframeDefragLoop_rxData hloop hrest hsplit hlen
  obtain ⟨hfixed, -, -⟩ := recvframeDefragLoop_fixed hloop
  have hmicLen : m.micLen = m₀.micLen := by rw [RecvFrame.micLen, hattr, RecvFrame.micLen]
  rw [List.append_assoc _ g₀.body, ← List.flatten_cons, ← List.map_cons] at hm₀
  rw [hm₀, ← hmicLen] at hmic
  have hhdr : m.attrib.hdrlen + m.attrib.ivLen = g₀.attrib.hdrlen + g₀.attrib.ivLen := by
    rw [hattr, hfixed]
  refine RecvFrame.body_of_eq hmic ?_ (by rw [hicv, hattr])
  rw [List.length_take, hhdr]
  omega

/-- What the check of the TKIP MIC leaves of a frame of a known station. -/
lemma recvframeChkmic_of_ne_fail {s : DefragPriv} {f : RecvFrame}
    (hsta : (s.getStainfo f.attrib.ta).isSome) (hpriv : f.attrib.privacy)
    (h : (recvframeChkmic s f).1 ≠ .fail) :
    (recvframeChkmic s f).2.attrib = f.attrib ∧ (recvframeChkmic s f).2.key = f.key ∧
      (recvframeChkmic s f).2.rxData = f.rxData.take (f.rxData.length - f.micLen) := by
  unfold recvframeChkmic at h ⊢
  by_cases htkip : f.attrib.encrypt = .tkip
  · by_cases hgrp : isMcast f.attrib.ra ∧ ¬s.mickeys.binstallGrpkey
    · simp [htkip, hsta, hgrp] at h
    · simp only [htkip, hsta, hgrp, if_true, if_false] at h ⊢
      refine ⟨f.pullTail_attrib 8, (f.pullTail_keys 8).2, ?_⟩
      -- a MIC was found, so there are eight bytes
      have hlong : 8 ≤ f.rxData.length := by
        have hmic := congrArg List.length (by_contra fun hne => h (if_neg hne))
        rw [rtwSeccalctkipmic, rtwSecgetmic, List.length_append, length_leBytes, length_leBytes,
          List.length_take, List.length_drop, List.length_drop] at hmic
        omega
      rw [RecvFrame.pullTail_rxData hlong, RecvFrame.micLen, if_pos ⟨hpriv, htkip⟩]
  · simp [htkip, RecvFrame.micLen]

/-- Reassembled fragments that are not mixed make an MSDU; `m` is the reassembled frame
`m₀` after the check of the MIC. -/
lemma isMsduOf_of_unmixed {frags : List RecvFrame} {m₀ m : RecvFrame} {addr : MacAddr}
    (h : recvframeDefrag frags = some m₀) (hu : Unmixed frags)
    (haddr : ∀ g ∈ frags, stainfoAddr g.attrib.ta = addr) (hattr : m.attrib = m₀.attrib)
    (hkeys : m.key = m₀.key)
    (hmic : m.rxData = m₀.rxData.take (m₀.rxData.length - m₀.micLen)) : IsMsduOf frags m := by
  have hbody := body_eq_of_recvframeDefrag h hu.wellSized hattr hmic
  obtain ⟨g₀, rest, rfl, hnum, hloop⟩ := recvframeDefrag_eq_some h
  obtain ⟨hfixed, hkeys', htrack⟩ := recvframeDefragLoop_fixed hloop
  have hm : m.attrib = { g₀.attrib with icvLen := m₀.attrib.icvLen } := hattr.trans hfixed
  have hmem : g₀ ∈ g₀ :: rest := List.mem_cons_self
  refine ⟨?_, hu.data, fun g hg => ?_, fun g hg => ?_, fun g hg => ?_, fun henc g hg => ?_, ?_,
    hu.wellSized, hbody⟩
  · rw [List.map_cons, recvframeDefragLoop_numbered hloop, hnum, List.length_cons,
      List.range_eq_range', List.range'_succ]
    rfl
  · rw [hm]
    have hsame := (haddr g hg).trans (haddr g₀ hmem).symm
    by_cases hgrp₀ : isMcast g₀.attrib.ta
    · exact hu.groupTa g₀ hmem hgrp₀ g hg
    by_cases hgrp : isMcast g.attrib.ta
    · exact (hu.groupTa g hg hgrp g₀ hmem).symm
    · simpa [stainfoAddr, hgrp, hgrp₀] using hsame
  · rw [hm, hu.seqNum g hg g₀ hmem]
  · rw [hm]
    exact hu.protection g hg g₀ hmem
  · rw [hkeys, hkeys']
    have hg₀ : g₀.attrib.encrypt ≠ .noPrivacy := by rwa [hm] at henc
    have hkey : g.keytrack = g₀.keytrack := by
      rcases List.mem_cons.1 hg with rfl | hrest
      · rfl
      · exact htrack g hrest
    exact (hu.key g₀ hmem hg₀ g hg hkey.symm).symm
  · by_cases hccmp : g₀.attrib.encrypt.hasCcmpPn
    · have hall : ∀ g ∈ g₀ :: rest, g.attrib.encrypt.hasCcmpPn := fun g hg => by
        rw [(hu.protection g hg g₀ hmem).2, hccmp]
      rw [if_pos hccmp] at hloop
      have hchain := recvframeDefragLoop_consecutive hloop fun g hg =>
        hall g (List.mem_cons_of_mem _ hg)
      rw [← List.map_cons, List.isChain_map] at hchain
      refine hchain.imp_of_mem_imp fun g g' hg hg' hnext pn hpn => ?_
      rw [RecvFrame.packetNumber, if_pos (hall g hg)] at hpn
      rw [RecvFrame.packetNumber, if_pos (hall g' hg'), hnext, ← Option.some.inj hpn]
    · refine hu.tkip.imp_of_mem_imp fun g g' hg hg' hnext pn hpn => ?_
      have henc : g'.attrib.encrypt = g.attrib.encrypt := (hu.protection g' hg' g hg).2
      rw [← (hu.protection g hg g₀ hmem).2] at hccmp
      rw [RecvFrame.packetNumber, if_neg hccmp] at hpn
      by_cases htkip : g.attrib.encrypt = .tkip
      · rw [if_pos htkip] at hpn
        rw [RecvFrame.packetNumber, henc, if_neg hccmp, if_pos htkip, hnext htkip,
          ← Option.some.inj hpn]
      · simp [htkip] at hpn

/-- The fragments of an MSDU are not mixed. -/
lemma IsMsduOf.unmixed {frags : List RecvFrame} {m : RecvFrame} (h : IsMsduOf frags m) :
    Unmixed frags where
  wellSized := h.wellSized
  data := h.data
  groupTa := fun g hg _ g' hg' => (h.ta g' hg').trans (h.ta g hg).symm
  seqNum := fun g hg g' hg' => (h.seqNum g hg).trans (h.seqNum g' hg').symm
  protection := fun g hg g' hg' =>
    ⟨(h.protection g hg).1.trans (h.protection g' hg').1.symm,
      (h.protection g hg).2.trans (h.protection g' hg').2.symm⟩
  key := fun g hg henc g' hg' _ => by
    rw [(h.protection g hg).2] at henc
    exact (h.key henc g hg).trans (h.key henc g' hg').symm
  tkip := h.consecutive.imp_of_mem_imp fun g g' hg hg' hnext htkip => by
    have htkip' : g'.attrib.encrypt = .tkip := by
      rw [(h.protection g' hg').2, ← (h.protection g hg).2, htkip]
    have hpn := hnext g.tkipTsc (by simp [RecvFrame.packetNumber, htkip, SecurityType.hasCcmpPn])
    simpa [RecvFrame.packetNumber, htkip', SecurityType.hasCcmpPn] using hpn

/-! ### Runs of the reassembly -/

@[simp] lemma DefragPriv.stamp_attrib (s : DefragPriv) (f : RecvFrame) :
    (s.stamp f).attrib = f.attrib := by
  unfold DefragPriv.stamp
  split <;> rfl

@[simp] lemma DefragPriv.stamp_isDataFrame (s : DefragPriv) (f : RecvFrame) :
    (s.stamp f).IsDataFrame ↔ f.IsDataFrame := by
  unfold DefragPriv.stamp RecvFrame.IsDataFrame
  split <;> rfl

lemma DefragPriv.pstaAddr_of_isDataFrame (s : DefragPriv) {f : RecvFrame} (hf : f.IsDataFrame) :
    s.pstaAddr f = stainfoAddr f.attrib.ta := by
  have htype : getFrameType f.rxData = wifiDataType := hf
  rw [DefragPriv.pstaAddr, if_pos htype, ite_self]

lemma recvframeChkDefrag_state (s : DefragPriv) (f : RecvFrame) :
    (recvframeChkDefrag s f).2 = (recvframeChkFrag s f).2 := by
  unfold recvframeChkDefrag
  dsimp only
  split
  · rfl
  · split <;> rfl

/-- A frame only changes the queue of its station, which gets or loses fragments. -/
lemma recvframeChkFrag_state (s : DefragPriv) (f : RecvFrame) :
    (recvframeChkFrag s f).2 = s ∨ ∃ sta q, s.psta f = some sta ∧
      q.Sublist (sta.defragQ ++ [s.stamp f]) ∧
      (recvframeChkFrag s f).2 = s.setDefragQ (s.pstaAddr f) q := by
  unfold recvframeChkFrag
  by_cases hwhole : ¬f.attrib.mfrag ∧ f.attrib.fragNum = 0
  · exact Or.inl (by rw [if_pos hwhole])
  rw [if_neg hwhole]
  by_cases hgrp : isMcast f.attrib.ra
  · exact Or.inl (by rw [if_pos hgrp])
  rw [if_neg hgrp]
  cases hsta : s.psta f with
  | none => exact Or.inl rfl
  | some sta =>
      refine Or.inr ⟨sta, ?_⟩
      by_cases hmore : f.attrib.mfrag
      · refine ⟨(if f.attrib.fragNum = 0 then [] else sta.defragQ) ++ [s.stamp f], rfl, ?_, ?_⟩
        · split
          · exact List.sublist_append_right _ _
          · exact List.Sublist.refl _
        · simp only [hmore, if_true]
      · exact ⟨[], rfl, List.nil_sublist _, by simp only [hmore, Bool.false_eq_true, if_false]⟩

/-- The queues hold fragments that were received, in the order of their arrival, and a
data frame is in the queue of its transmitter. -/
def DefragPriv.Inv (s : DefragPriv) (heard : List Defragged) : Prop :=
  ∀ addr sta, s.stapriv addr = some sta →
    sta.defragQ.Sublist (heard.map Defragged.frame) ∧
      ∀ g ∈ sta.defragQ, g.IsDataFrame → stainfoAddr g.attrib.ta = addr

/-- A change that leaves the queues of the stations as they are, or empties them. -/
lemma DefragPriv.Inv.update {s : DefragPriv} {heard : List Defragged} (hi : s.Inv heard)
    {addr : MacAddr} {sta' : Option DefragSta}
    (hsta : ∀ sta ∈ sta', sta.defragQ = [] ∨ ∃ sta₀, s.stapriv addr = some sta₀ ∧
      sta.defragQ = sta₀.defragQ) :
    DefragPriv.Inv { s with stapriv := Function.update s.stapriv addr sta' } heard := by
  intro a sta ha
  by_cases haddr : a = addr
  · subst haddr
    simp only [Function.update_self] at ha
    rcases hsta sta ha with hnil | ⟨sta₀, hsta₀, hq⟩
    · simp [hnil]
    · rw [hq]
      exact hi a sta₀ hsta₀
  · simp only [Function.update_of_ne haddr] at ha
    exact hi a sta ha

lemma DefragPriv.Inv.frame {s : DefragPriv} {heard : List Defragged} (hi : s.Inv heard)
    (f : RecvFrame) {d : Defragged} (hd : d.frame = s.stamp f) :
    (recvframeChkDefrag s f).2.Inv (heard ++ [d]) := by
  have hgrow : ∀ {q : List RecvFrame}, q.Sublist (heard.map Defragged.frame) →
      (q ++ [s.stamp f]).Sublist ((heard ++ [d]).map Defragged.frame) := fun hq => by
    rw [List.map_append, List.map_singleton, hd]
    exact hq.append (List.Sublist.refl _)
  rw [recvframeChkDefrag_state]
  rcases recvframeChkFrag_state s f with hsame | ⟨sta, q, hsta, hq, hstate⟩
  · rw [hsame]
    intro a sta ha
    exact ⟨(List.sublist_append_left _ _).trans (hgrow (hi a sta ha).1), (hi a sta ha).2⟩
  · rw [hstate]
    intro a sta' ha
    by_cases haddr : a = s.pstaAddr f
    · subst haddr
      have hsta₀ : s.stapriv (s.pstaAddr f) = some sta := hsta
      obtain rfl : { sta with defragQ := q } = sta' := by
        simpa [DefragPriv.setDefragQ, hsta₀] using ha
      obtain ⟨hsub, hdata⟩ := hi _ sta hsta₀
      refine ⟨hq.trans (hgrow hsub), fun g hg hgdata => ?_⟩
      rcases List.mem_append.1 (hq.subset hg) with hold | hnew
      · exact hdata g hold hgdata
      · obtain rfl := List.mem_singleton.1 hnew
        rw [s.stamp_attrib, s.pstaAddr_of_isDataFrame ((s.stamp_isDataFrame f).1 hgdata)]
    · simp only [DefragPriv.setDefragQ, Function.update_of_ne haddr] at ha
      exact ⟨(List.sublist_append_left _ _).trans (hgrow (hi a sta' ha).1), (hi a sta' ha).2⟩

lemma DefragPriv.Inv.step {s : DefragPriv} {heard : List Defragged} (hi : s.Inv heard)
    (e : DefragEvent) : (defragStep s e).1.Inv (heard ++ (defragStep s e).2) := by
  cases e with
  | frame f => exact hi.frame f rfl
  | setUncstKey addr key =>
      rw [defragStep, List.append_nil]
      refine hi.update fun sta hsta => Or.inr ?_
      obtain ⟨sta₀, hsta₀, rfl⟩ := Option.map_eq_some_iff.1 hsta
      exact ⟨sta₀, hsta₀, rfl⟩
  | setStakey addr camId =>
      rw [defragStep, List.append_nil]
      refine hi.update fun sta hsta => Or.inr ?_
      obtain ⟨sta₀, hsta₀, rfl⟩ := Option.map_eq_some_iff.1 hsta
      exact ⟨sta₀, hsta₀, rfl⟩
  | setDefKey keyid key =>
      rw [defragStep, List.append_nil]
      exact hi
  | setGrpKey keyid key =>
      rw [defragStep, List.append_nil]
      exact hi
  | setMickeys k =>
      rw [defragStep, List.append_nil]
      exact hi
  | allocStainfo addr =>
      rw [defragStep, List.append_nil]
      refine hi.update fun sta hsta => ?_
      cases hold : s.stapriv addr with
      | none =>
          obtain rfl : DefragSta.init = sta := by simpa [hold] using hsta
          exact Or.inl rfl
      | some sta₀ =>
          obtain rfl : sta₀ = sta := by simpa [hold] using hsta
          exact Or.inr ⟨sta₀, rfl, rfl⟩
  | freeStainfo addr =>
      rw [defragStep, List.append_nil]
      exact hi.update fun sta hsta => by simp at hsta

/-- What `recvframe_chk_defrag` hands on for a last fragment: the reassembled frame,
after the check of the MIC. -/
lemma recvframeChkDefrag_last {s : DefragPriv} {f m : RecvFrame} (hlast : f.IsLastFragment)
    (h : (recvframeChkDefrag s f).1 = some m) :
    ∃ sta m₀, s.psta f = some sta ∧
      recvframeDefrag (sta.defragQ ++ [s.stamp f]) = some m₀ ∧
      (m₀.attrib.privacy ∧ (recvframeChkmic s m₀).1 ≠ .fail ∧ (recvframeChkmic s m₀).2 = m ∨
        m₀.attrib.privacy = false ∧ m₀ = m) := by
  have hwhole : ¬(¬f.attrib.mfrag ∧ f.attrib.fragNum = 0) := fun hw => hlast.2 hw.2
  rw [recvframeChkDefrag] at h
  cases hfrag : (recvframeChkFrag s f).1 with
  | none => simp [hfrag] at h
  | some m₀ =>
      rw [recvframeChkFrag, if_neg hwhole] at hfrag
      by_cases hgrp : isMcast f.attrib.ra
      · simp [hgrp] at hfrag
      cases hsta : s.psta f with
      | none => simp [hgrp, hsta] at hfrag
      | some sta =>
          refine ⟨sta, m₀, rfl, by simpa [hgrp, hsta, hlast.1] using hfrag, ?_⟩
          have hfrag' : (recvframeChkFrag s f).1 = some m₀ := by
            rw [recvframeChkFrag, if_neg hwhole]
            exact hfrag
          rw [hfrag'] at h
          by_cases hpriv : m₀.attrib.privacy
          · by_cases hfail : (recvframeChkmic s m₀).1 = .fail
            · simp [hpriv, hfail] at h
            · exact Or.inl ⟨hpriv, hfail, by simpa [hpriv, hfail] using h⟩
          · exact Or.inr ⟨by simpa using hpriv, by simpa [hpriv] using h⟩

lemma recvframeDefrag_ta {frags : List RecvFrame} {m₀ : RecvFrame}
    (h : recvframeDefrag frags = some m₀) : ∃ g ∈ frags, g.attrib.ta = m₀.attrib.ta := by
  obtain ⟨g₀, rest, rfl, -, hloop⟩ := recvframeDefrag_eq_some h
  refine ⟨g₀, List.mem_cons_self, ?_⟩
  rw [(recvframeDefragLoop_fixed hloop).1]

/-- Over any run, the fragments of a reassembled frame were received in their order, and
they are the parts of one MSDU exactly if they are not mixed in one of the ways that
are not checked. -/
theorem recvframe_chk_defrag_reassembles {s : DefragPriv} (hs : s.Fresh) {es : List DefragEvent}
    {pre post : List Defragged} {d : Defragged}
    (hd : outputs defragStep s es = pre ++ d :: post) (hlast : d.frame.IsLastFragment)
    {m : RecvFrame} (hm : d.result = some m) :
    d.fragments.Sublist (pre.map Defragged.frame ++ [d.frame]) ∧
      (IsMsduOf d.fragments m ↔ Unmixed d.fragments) := by
  obtain ⟨es₁, e, es₂, mid, mid', -, hstep, rfl⟩ := exists_of_outputs_eq _ hd
  cases e with
  | frame f =>
      obtain ⟨rfl, rfl, rfl⟩ : mid = [] ∧ mid' = [] ∧
          { waiting := (((final defragStep s es₁).psta f).map DefragSta.defragQ).getD []
            frame := (final defragStep s es₁).stamp f
            result := (recvframeChkDefrag (final defragStep s es₁) f).1 } = d := by
        cases mid with
        | nil => simpa [defragStep, and_comm, eq_comm] using hstep
        | cons _ mid => simp [defragStep] at hstep
      have hinv : (final defragStep s es₁).Inv (outputs defragStep s es₁) := by
        refine history_induction (I := DefragPriv.Inv) (h := []) (P := fun _ _ => True)
          (fun s h e _ hi => hi.step e) (fun a sta ha => ?_) (along_of_forall (Q := fun _ => True)
            fun _ _ => trivial)
        simp [hs a sta ha]
      obtain ⟨sta, m₀, hsta, hdefrag, hchk⟩ := recvframeChkDefrag_last
        (by simpa [RecvFrame.IsLastFragment] using hlast) hm
      obtain ⟨hsub, hdata⟩ := hinv _ sta hsta
      simp only [Defragged.fragments, hsta, Option.map_some, Option.getD_some, List.append_nil]
      refine ⟨hsub.append (List.Sublist.refl _), IsMsduOf.unmixed, fun hu => ?_⟩
      have haddr : ∀ g ∈ sta.defragQ ++ [(final defragStep s es₁).stamp f],
          stainfoAddr g.attrib.ta = (final defragStep s es₁).pstaAddr f := fun g hg => by
        rcases List.mem_append.1 hg with hold | hnew
        · exact hdata g hold (hu.data g hg)
        · obtain rfl := List.mem_singleton.1 hnew
          rw [DefragPriv.stamp_attrib, DefragPriv.pstaAddr_of_isDataFrame]
          exact (DefragPriv.stamp_isDataFrame _ f).1 (hu.data _ hg)
      rcases hchk with ⟨hpriv, hok, rfl⟩ | ⟨hpriv, rfl⟩
      · obtain ⟨g, hg, hta⟩ := recvframeDefrag_ta hdefrag
        have hfound : ((final defragStep s es₁).getStainfo m₀.attrib.ta).isSome := by
          rw [DefragPriv.getStainfo, ← hta, haddr g hg]
          exact Option.isSome_of_eq_some hsta
        obtain ⟨hattr, hkeys, hmic⟩ := recvframeChkmic_of_ne_fail hfound hpriv hok
        exact isMsduOf_of_unmixed hdefrag hu haddr hattr hkeys hmic
      · refine isMsduOf_of_unmixed hdefrag hu haddr rfl rfl ?_
        simp [RecvFrame.micLen, hpriv]
  | setUncstKey addr key => simp [defragStep] at hstep
  | setStakey addr camId => simp [defragStep] at hstep
  | setDefKey keyid key => simp [defragStep] at hstep
  | setGrpKey keyid key => simp [defragStep] at hstep
  | setMickeys k => simp [defragStep] at hstep
  | allocStainfo addr => simp [defragStep] at hstep
  | freeStainfo addr => simp [defragStep] at hstep

/-- The address of a station. -/
def staAddr : MacAddr := MacAddr.ofBytes 0x02 0 0 0 0 1

/-- An adapter without stations. -/
def DefragPriv.noStations : DefragPriv where
  stapriv := fun _ => none
  mickeys := { rxmickey := fun _ => [], grprxmickey := fun _ => [], binstallGrpkey := false }
  defKey := fun _ => []
  grpKey := fun _ => []

/-- A fragment of an unencrypted data frame. -/
def plainFragment (seqNum : ℕ) (fragNum : Fin 16) (mfrag : Bool) (body : List UInt8) :
    RecvFrame where
  attrib := { seqNum := seqNum, fragNum := fragNum, mfrag := mfrag, hdrlen := 24, ta := staAddr }
  rxData := ([0x08] : List UInt8) ++ List.replicate 23 0 ++ body
  room := 100

/-- A fragment of a data frame encrypted by CCMP, with an ICV of zeroes. -/
def ccmpFragment (seqNum : ℕ) (fragNum : Fin 16) (mfrag : Bool) (pn : ℕ) (body : List UInt8) :
    RecvFrame where
  attrib :=
    { seqNum := seqNum, fragNum := fragNum, mfrag := mfrag, hdrlen := 24, ta := staAddr
      privacy := true, encrypt := .aes, ivLen := 8, icvLen := 8 }
  rxData := ([0x08, 0x40] : List UInt8) ++ List.replicate 22 0 ++
    leBytes 2 pn ++ ([0, 0x20] : List UInt8) ++ leBytes 4 (pn / 2 ^ 16) ++ body ++
    List.replicate 8 0
  room := 100

/-- Two fragments of one MSDU, under one key. -/
theorem recvframe_chk_defrag_reassembles_run :
    ∃ d₀ d m, outputs defragStep .noStations
        [.allocStainfo staAddr, .setUncstKey staAddr (.replicate 16 7), .setStakey staAddr true,
          .frame (ccmpFragment 5 0 true 7 [1, 2]), .frame (ccmpFragment 5 1 false 8 [3, 4])] =
          [d₀] ++ d :: [] ∧
      d.result = some m ∧ m.body = [1, 2, 3, 4] ∧ IsMsduOf d.fragments m := by
  refine ⟨_, _, _, rfl, rfl, by decide +kernel, ?_⟩
  have hfresh : DefragPriv.noStations.Fresh := by
    intro addr sta h
    simp [DefragPriv.noStations] at h
  have hrun : outputs defragStep .noStations
      [.allocStainfo staAddr, .setUncstKey staAddr (.replicate 16 7), .setStakey staAddr true,
        .frame (ccmpFragment 5 0 true 7 [1, 2]), .frame (ccmpFragment 5 1 false 8 [3, 4])] =
        [_] ++ _ :: [] := rfl
  refine (recvframe_chk_defrag_reassembles hfresh hrun (by decide) rfl).2.2 ?_
  constructor <;> decide +kernel

/-- A station sends two MSDUs, and the last fragment of the first and the first fragment
of the second are lost: what is left is handed on as one frame. -/
theorem recvframe_chk_defrag_mixes_msdus :
    ∃ d₀ d m, outputs defragStep .noStations
        [.allocStainfo staAddr, .frame (plainFragment 5 0 true [1, 2]),
          .frame (plainFragment 6 1 false [3, 4])] = [d₀, d] ∧
      d.frame.IsLastFragment ∧ d.result = some m ∧ m.body = [1, 2, 3, 4] ∧
      ¬IsMsduOf d.fragments m := by
  refine ⟨_, _, _, rfl, by decide, rfl, by decide +kernel, fun h => ?_⟩
  have := h.unmixed.seqNum
  revert this
  decide +kernel

end Rtl8723du
