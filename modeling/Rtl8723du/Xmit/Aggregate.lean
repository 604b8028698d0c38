import Rtl8723du.Xmit.Walkers

/-!
# USB aggregation

`rtl8723du_xmitframe_complete` takes frames out of the pending queue of a station and puts them one
behind the other into a USB transfer.  It reserves the size of one MPDU for each, writes one
descriptor, and counts one packet; a fragmented frame runs on into what comes next.

Addresses are relative to the start of the transmit buffer, which is aligned.
-/

namespace Rtl8723du.Xmit

/-! ### The frames and the transfer -/

/-- What `rtl8723du_xmitframe_complete` needs to know of the adapter. -/
structure UsbConf where
  isAp : Bool
  /-- `UsbBulkOutSize` is that of high speed. -/
  highSpeed : Bool
  fragLen : FragLen

/-- `UsbBulkOutSize`. -/
def UsbConf.bulkSize (c : UsbConf) : ℕ := if c.highSpeed then 512 else 64

/-- A frame in the pending queue. -/
structure XmitFrame where
  p : PktAttrib
  payload : List UInt8
  qsel : UInt8
  /-- The MIC that `xmitframe_addmic` computes. -/
  mic : Vector UInt8 8
  /-- `rtw_xmitframe_coalesce` succeeds. -/
  coalesces : Bool

/-- `MAX_XMITBUF_SZ`. -/
abbrev maxXmitbufSz : ℕ := 20480

/-- `MAX_TX_AGG_PACKET_NUMBER`. -/
abbrev maxTxAggPacketNumber : ℕ := 0xFF

/-- `UsbTxAggDescNum`. -/
abbrev usbTxAggDescNum : ℕ := 6

/-- `QSLT_HIGH`. -/
abbrev qsltHigh : UInt8 := 0x11

/-- `_RND8`. -/
def rnd8 (x : ℕ) : ℕ := 8 * ((x + 7) / 8)

/-- `rtw_wlan_pkt_size`, the size of the frame in one MPDU. -/
def XmitFrame.wlanPktSize (f : XmitFrame) : ℕ :=
  f.p.hdrlen + ivLen f.p.encrypt + 8 + f.payload.length + micLen f.p + f.p.swIcvLen

/-- The frame goes out as one MPDU. -/
def XmitFrame.Single (fragLen : FragLen) (f : XmitFrame) : Prop := Fits fragLen f.p f.payload

instance (fragLen : FragLen) (f : XmitFrame) : Decidable (f.Single fragLen) :=
  inferInstanceAs (Decidable (Fits _ _ _))

/-- A TX descriptor: where it is, and what it says of the packet. -/
structure TxDesc where
  addr : ℕ
  pktSize : ℕ
  pktOffset : ℕ
  aggNum : ℕ
deriving DecidableEq, Repr

/-- A frame in the transfer with its descriptor and its MPDUs. -/
structure Packet where
  frame : XmitFrame
  desc : TxDesc
  mpdus : List Mpdu

/-- `rtw_xmitframe_coalesce` of a frame with its MIC, in a buffer at `bufAddr`. -/
def XmitFrame.coalesce (fragLen : FragLen) (f : XmitFrame) (bufAddr pktOffset : ℕ) : List Mpdu :=
  addMic f.p f.mic (rtwXmitframeCoalesce fragLen f.p bufAddr pktOffset f.payload)

/-- A frame is put at `bufAddr`, and `update_txdesc` writes its descriptor there. -/
def putPacket (fragLen : FragLen) (f : XmitFrame) (bufAddr aggNum : ℕ) : Packet where
  frame := f
  desc := ⟨bufAddr, lastTxcmdsz (f.coalesce fragLen bufAddr 0), 0, aggNum⟩
  mpdus := f.coalesce fragLen bufAddr 0

/-- `rtw_hal_busagg_qsel_check`. -/
def rtwHalBusaggQselCheck (isAp : Bool) (preQsel nextQsel : UInt8) : Bool :=
  !(isAp && (preQsel == qsltHigh || nextQsel == qsltHigh) && preQsel != nextQsel)

/-! ### The loop -/

/-- The variables of the loop. -/
structure Aggr where
  pbufTail : ℕ
  pbuf : ℕ
  descCount : ℕ
  bulkPtr : ℕ
  aggNum : ℕ
  /-- What is behind the first packet. -/
  packets : List Packet

/-- The next bulk that is not begun. -/
def roundBulk (bulkSize pbuf : ℕ) : ℕ := (pbuf / bulkSize + 1) * bulkSize

/-- A packet of `len` bytes with its descriptor is added at `pbuf`. -/
def Aggr.add (s : Aggr) (k : Packet) (len : ℕ) : Aggr :=
  { s with
    pbufTail := s.pbuf + len
    pbuf := rnd8 (s.pbuf + len)
    aggNum := s.aggNum + 1
    packets := s.packets ++ [k] }

/-- The loop over the pending queue, and what it leaves there. -/
def aggLoop (c : UsbConf) (preQsel : UInt8) : Aggr → List XmitFrame → Aggr × List XmitFrame
  | s, [] => (s, [])
  | s, f :: rest =>
      let len := f.wlanPktSize + txdescSize
      if rtwHalBusaggQselCheck c.isAp preQsel f.qsel = false then (s, f :: rest)
      else if s.pbuf + len > maxXmitbufSz then (s, f :: rest)
      else if f.coalesces = false then aggLoop c preQsel s rest
      else
        let s := s.add (putPacket c.fragLen f s.pbuf 0) len
        if s.aggNum = maxTxAggPacketNumber then (s, rest)
        else if s.pbuf < s.bulkPtr then
          let s := { s with descCount := s.descCount + 1 }
          if s.descCount = usbTxAggDescNum then (s, rest) else aggLoop c preQsel s rest
        else
          aggLoop c preQsel
            { s with descCount := 0, bulkPtr := roundBulk c.bulkSize s.pbuf } rest

/-- The first frame that can be encapsulated, and those behind it. -/
def firstFrame : List XmitFrame → Option (XmitFrame × List XmitFrame)
  | [] => none
  | f :: rest => if f.coalesces then some (f, rest) else firstFrame rest

/-- What is written to the USB device: `len` bytes from `bufAddr` on. -/
structure UsbTransfer where
  bufAddr : ℕ
  len : ℕ
  packets : List Packet

/-- The variables before the loop. -/
def Aggr.init (c : UsbConf) (pfirstframe : XmitFrame) : Aggr :=
  let pbufTail := pfirstframe.wlanPktSize + txdescSize + packetOffsetSz
  let pbuf := rnd8 pbufTail
  { pbufTail := pbufTail
    pbuf := pbuf
    descCount := if pbuf < c.bulkSize then 1 else 0
    bulkPtr := if pbuf < c.bulkSize then c.bulkSize else roundBulk c.bulkSize pbuf
    aggNum := 1
    packets := [] }

/-- The descriptor of the first frame is written last: the packet offset is removed if the transfer
would end with a full bulk. -/
def finish (c : UsbConf) (pfirstframe : XmitFrame) (s : Aggr) : UsbTransfer :=
  let mpdus := pfirstframe.coalesce c.fragLen 0 1
  let bufAddr := if s.pbufTail % c.bulkSize = 0 then packetOffsetSz else 0
  let pktOffset := if s.pbufTail % c.bulkSize = 0 then 0 else 1
  { bufAddr := bufAddr
    len := s.pbufTail - bufAddr
    packets :=
      { frame := pfirstframe
        desc := ⟨bufAddr, lastTxcmdsz mpdus, pktOffset, s.aggNum⟩
        mpdus := mpdus } :: s.packets }

/-- `rtl8723du_xmitframe_complete` on the pending queue of a station: the transfer, and what is left
in the queue. -/
def rtl8723duXmitframeComplete (c : UsbConf) (q : List XmitFrame) :
    Option (UsbTransfer × List XmitFrame) :=
  match firstFrame q with
  | none => none
  | some (pfirstframe, rest) =>
      let s := aggLoop c pfirstframe.qsel (.init c pfirstframe) rest
      some (finish c pfirstframe s.1, s.2)

/-! ### A transfer as it should be -/

/-- The bytes of an MPDU. -/
def Mpdu.range (f : Mpdu) : ℕ × ℕ := (f.start, f.start + f.bytes.length)

/-- The descriptor and the MPDUs of a packet. -/
def Packet.ranges (k : Packet) : List (ℕ × ℕ) :=
  (k.desc.addr, k.desc.addr + txdescSize) :: k.mpdus.map Mpdu.range

/-- A descriptor is in front of an MPDU and has its size. -/
def Describes (d : TxDesc) (f : Mpdu) : Prop :=
  f.start = d.addr + txdescSize + d.pktOffset * packetOffsetSz ∧ d.pktSize = f.bytes.length

/-- The transfer has the frames that were taken, but for those that could not be encapsulated. -/
structure GoodTransfer (c : UsbConf) (taken : List XmitFrame) (t : UsbTransfer) : Prop where
  frames : t.packets.map Packet.frame = taken.filter XmitFrame.coalesces
  described : List.Forall₂ Describes (t.packets.map Packet.desc) (t.packets.flatMap Packet.mpdus)
  disjoint : (t.packets.flatMap Packet.ranges).Pairwise fun a b => a.2 ≤ b.1
  inside : ∀ r ∈ t.packets.flatMap Packet.ranges, t.bufAddr ≤ r.1 ∧ r.2 ≤ t.bufAddr + t.len
  aligned : ∀ k ∈ t.packets, (k.desc.addr - t.bufAddr) % 8 = 0
  aggNum : ∀ k ∈ t.packets.head?, k.desc.aggNum = (t.packets.flatMap Packet.mpdus).length
  fits : t.bufAddr + t.len ≤ maxXmitbufSz
  notFull : t.len % c.bulkSize ≠ 0

/-! ### The loop takes frames in order -/

variable {c : UsbConf} {f : XmitFrame} {fs q rest : List XmitFrame} {s : Aggr} {t : UsbTransfer}
  {start bufAddr pktOffset : ℕ}

lemma rnd8_mod (x : ℕ) : rnd8 x % 8 = 0 ∧ x ≤ rnd8 x := by
  rw [rnd8]
  omega

/-- Where a packet ends, by its size. -/
def Packet.tail (k : Packet) : ℕ := k.desc.addr + txdescSize + k.frame.wlanPktSize

/-- What holds in the loop, if the first packet ends at `start`. -/
structure AggInv (c : UsbConf) (start : ℕ) (s : Aggr) : Prop where
  pbuf : s.pbuf = rnd8 s.pbufTail
  aggNum : s.aggNum = s.packets.length + 1
  start_le : start ≤ s.pbufTail
  pbufTail_le : start ≤ maxXmitbufSz → s.pbufTail ≤ maxXmitbufSz
  put : ∀ k ∈ s.packets, k = putPacket c.fragLen k.frame k.desc.addr 0 ∧ k.desc.addr % 8 = 0 ∧
    start ≤ k.desc.addr ∧ k.tail ≤ s.pbufTail
  ordered : s.packets.Pairwise fun a b => a.tail ≤ b.desc.addr

/-- The counters of descriptors do not matter. -/
lemma AggInv.setDesc (h : AggInv c start s) (descCount bulkPtr : ℕ) :
    AggInv c start { s with descCount := descCount, bulkPtr := bulkPtr } :=
  ⟨h.pbuf, h.aggNum, h.start_le, h.pbufTail_le, h.put, h.ordered⟩

/-- A packet is added that there is room for. -/
lemma AggInv.add (h : AggInv c start s) (f : XmitFrame)
    (hroom : s.pbuf + (f.wlanPktSize + txdescSize) ≤ maxXmitbufSz) :
    AggInv c start (s.add (putPacket c.fragLen f s.pbuf 0) (f.wlanPktSize + txdescSize)) := by
  obtain ⟨hpbuf, hagg, hstart, -, hput, hord⟩ := h
  have hrnd := rnd8_mod s.pbufTail
  have htail : (putPacket c.fragLen f s.pbuf 0).tail = s.pbuf + (f.wlanPktSize + txdescSize) := by
    show s.pbuf + txdescSize + f.wlanPktSize = _
    omega
  have hle : s.pbufTail ≤ s.pbuf := by omega
  constructor
  · rfl
  · show s.aggNum + 1 = (s.packets ++ [_]).length + 1
    rw [hagg, List.length_append, List.length_singleton]
  · show start ≤ s.pbuf + _
    omega
  · intro _
    exact hroom
  · intro k hk
    rcases List.mem_append.1 hk with hk | hk
    · obtain ⟨heq, hmod, hge, hkt⟩ := hput k hk
      refine ⟨heq, hmod, hge, ?_⟩
      show k.tail ≤ s.pbuf + _
      omega
    · obtain rfl := List.mem_singleton.1 hk
      refine ⟨rfl, ?_, ?_, htail.le⟩
      · show s.pbuf % 8 = 0
        rw [hpbuf]
        exact hrnd.1
      · show start ≤ s.pbuf
        omega
  · refine List.pairwise_append.2 ⟨hord, List.pairwise_singleton _ _, fun a ha b hb => ?_⟩
    obtain rfl := List.mem_singleton.1 hb
    exact (hput a ha).2.2.2.trans hle

/-- What the loop has taken, and what it has made of it. -/
lemma aggLoop_spec (preQsel : UInt8) (q : List XmitFrame) (h : AggInv c start s) :
    AggInv c start (aggLoop c preQsel s q).1 ∧ ∃ taken, q = taken ++ (aggLoop c preQsel s q).2 ∧
      (aggLoop c preQsel s q).1.packets.map Packet.frame =
        s.packets.map Packet.frame ++ taken.filter XmitFrame.coalesces := by
  induction q generalizing s with
  | nil => exact ⟨h, [], rfl, (List.append_nil _).symm⟩
  | cons f rest ih =>
      rw [aggLoop]
      simp only
      by_cases hq : rtwHalBusaggQselCheck c.isAp preQsel f.qsel = false
      · rw [if_pos hq]
        exact ⟨h, [], rfl, (List.append_nil _).symm⟩
      rw [if_neg hq]
      by_cases hroom : s.pbuf + (f.wlanPktSize + txdescSize) > maxXmitbufSz
      · rw [if_pos hroom]
        exact ⟨h, [], rfl, (List.append_nil _).symm⟩
      rw [if_neg hroom]
      by_cases hco : f.coalesces = false
      · rw [if_pos hco]
        obtain ⟨hinv, taken, hrest, hmap⟩ := ih h
        refine ⟨hinv, f :: taken, by rw [List.cons_append, ← hrest], ?_⟩
        rw [hmap, List.filter_cons_of_neg (by simpa using hco)]
      rw [if_neg hco]
      set s' := s.add (putPacket c.fragLen f s.pbuf 0) (f.wlanPktSize + txdescSize) with hs'
      have hadd : AggInv c start s' := h.add f (not_lt.1 hroom)
      have hframes : s'.packets.map Packet.frame = s.packets.map Packet.frame ++ [f] := by
        rw [hs', Aggr.add, List.map_append, List.map_singleton]
        rfl
      -- the frame is taken, and the loop may stop or go on
      have hstop : ∃ taken, f :: rest = taken ++ rest ∧
          s'.packets.map Packet.frame =
            s.packets.map Packet.frame ++ taken.filter XmitFrame.coalesces :=
        ⟨[f], rfl, by
          rw [hframes, List.filter_cons_of_pos (by simpa using hco)]
          rfl⟩
      have hgo (s'' : Aggr) (hs : AggInv c start s'') (hp : s''.packets = s'.packets) :
          AggInv c start (aggLoop c preQsel s'' rest).1 ∧
            ∃ taken, f :: rest = taken ++ (aggLoop c preQsel s'' rest).2 ∧
              (aggLoop c preQsel s'' rest).1.packets.map Packet.frame =
                s.packets.map Packet.frame ++ taken.filter XmitFrame.coalesces := by
        obtain ⟨hinv, taken, hrest, hmap⟩ := ih hs
        refine ⟨hinv, f :: taken, by rw [List.cons_append, ← hrest], ?_⟩
        rw [hmap, hp, hframes, List.filter_cons_of_pos (by simpa using hco), List.append_assoc]
        rfl
      split_ifs
      · exact ⟨hadd, hstop⟩
      · exact ⟨hadd.setDesc _ _, hstop⟩
      · exact hgo _ (hadd.setDesc _ _) rfl
      · exact hgo _ (hadd.setDesc _ _) rfl

/-- The frames before the first one that can be encapsulated cannot. -/
lemma firstFrame_spec (h : firstFrame q = some (f, rest)) :
    f.coalesces = true ∧ ∃ failed, q = failed ++ f :: rest ∧
      failed.filter XmitFrame.coalesces = [] := by
  induction q with
  | nil => simp [firstFrame] at h
  | cons g q ih =>
      rw [firstFrame] at h
      by_cases hg : g.coalesces = true
      · rw [if_pos hg] at h
        obtain ⟨rfl, rfl⟩ := Prod.mk.inj (Option.some.inj h)
        exact ⟨hg, [], rfl, rfl⟩
      · rw [if_neg hg] at h
        obtain ⟨hf, failed, rfl, hnil⟩ := ih h
        exact ⟨hf, g :: failed, rfl, by rw [List.filter_cons_of_neg hg, hnil]⟩

/-! ### The size of a packet -/

lemma length_appendMic (mic : List UInt8) (l : List Mpdu) :
    (appendMic mic l).length = l.length := by
  induction l with
  | nil => rfl
  | cons f l ih =>
      cases l with
      | nil => rfl
      | cons g l => rw [appendMic_cons_cons, List.length_cons, ih]; rfl

lemma length_addMic (p : PktAttrib) (mic : Vector UInt8 8) (l : List Mpdu) :
    (addMic p mic l).length = l.length := by
  rw [addMic]
  split
  · exact length_appendMic _ l
  · rfl

/-- The MPDU of a frame that goes out as one has the size that was reserved for it. -/
lemma coalesce_of_single (bufAddr pktOffset : ℕ) (h : f.Single c.fragLen) :
    ∃ g, f.coalesce c.fragLen bufAddr pktOffset = [g] ∧
      g.start = bufAddr + hwHdrOffset pktOffset ∧ g.bytes.length = f.wlanPktSize := by
  obtain ⟨body, hbody, hmic⟩ := addMic_singleton f.p f.mic
    (wholeMpdu f.p (bufAddr + hwHdrOffset pktOffset) f.payload)
  have hhdr : (clearMFrag (setMFrag (rtwMakeWlanhdr f.p))).length = f.p.hdrlen := by
    rw [length_clearMFrag, length_setMFrag, length_rtwMakeWlanhdr]
  refine ⟨_, by rw [XmitFrame.coalesce, coalesce_of_fits h, hmic], rfl, ?_⟩
  simp only [Mpdu.bytes, wholeMpdu, List.length_append, hhdr, f.p.length_iv, hbody,
    length_rtwPutSnap, List.length_replicate, XmitFrame.wlanPktSize]
  omega

lemma coalesce_ne_nil (fragLen : FragLen) (f : XmitFrame) (bufAddr pktOffset : ℕ) :
    0 < (f.coalesce fragLen bufAddr pktOffset).length := by
  rw [XmitFrame.coalesce, length_addMic, rtwXmitframeCoalesce]
  exact List.length_pos_of_ne_nil coalesceLoop_ne_nil

lemma one_lt_coalesce (bufAddr pktOffset : ℕ) (h : ¬ f.Single c.fragLen) :
    1 < (f.coalesce c.fragLen bufAddr pktOffset).length := by
  obtain ⟨g, g', l, hl, -⟩ := coalesce_of_not_fits bufAddr pktOffset h
  rw [XmitFrame.coalesce, length_addMic, hl]
  simp

/-- One descriptor for each is too few where a list has two. -/
lemma length_eq_one_of_flatMap {α β : Type*} {l : List α} {g : α → List β}
    (hpos : ∀ a ∈ l, 0 < (g a).length) (hlen : (l.flatMap g).length = l.length) :
    ∀ a ∈ l, (g a).length = 1 := by
  have hle (l : List α) (hpos : ∀ a ∈ l, 0 < (g a).length) : l.length ≤ (l.flatMap g).length := by
    induction l with
    | nil => exact Nat.zero_le _
    | cons a l ih =>
        have ha := hpos a List.mem_cons_self
        have := ih fun b hb => hpos b (List.mem_cons_of_mem _ hb)
        rw [List.flatMap_cons, List.length_append, List.length_cons]
        omega
  induction l with
  | nil => exact fun a ha => absurd ha List.not_mem_nil
  | cons a l ih =>
      have ha := hpos a List.mem_cons_self
      have hpos' : ∀ b ∈ l, 0 < (g b).length := fun b hb => hpos b (List.mem_cons_of_mem _ hb)
      have hl := hle l hpos'
      rw [List.flatMap_cons, List.length_append, List.length_cons] at hlen
      intro b hb
      rcases List.mem_cons.1 hb with rfl | hb
      · omega
      · exact ih hpos' (by omega) b hb

/-! ### The transfer -/

/-- Where a packet with its offset ends. -/
def Packet.stop (k : Packet) : ℕ :=
  k.desc.addr + txdescSize + k.desc.pktOffset * packetOffsetSz + k.frame.wlanPktSize

/-- A packet with a single MPDU. -/
def Packet.Whole (k : Packet) : Prop :=
  ∃ g, k.mpdus = [g] ∧ Describes k.desc g ∧ g.start + g.bytes.length = k.stop

lemma whole_putPacket (aggNum : ℕ) (h : f.Single c.fragLen) :
    (putPacket c.fragLen f bufAddr aggNum).Whole := by
  obtain ⟨g, hg, hstart, hlen⟩ := coalesce_of_single bufAddr 0 h
  refine ⟨g, hg, ⟨?_, ?_⟩, ?_⟩
  · exact hstart
  · show lastTxcmdsz (f.coalesce c.fragLen bufAddr 0) = _
    rw [hg]
    rfl
  · rw [hstart, hlen]
    rfl

/-- The packets of a transfer. -/
lemma finish_packets (c : UsbConf) (f : XmitFrame) (s : Aggr) :
    ∃ k, (finish c f s).packets = k :: s.packets ∧ k.frame = f ∧
      k.mpdus = f.coalesce c.fragLen 0 1 ∧ k.desc.addr = (finish c f s).bufAddr ∧
      k.desc.aggNum = s.aggNum ∧
      k.desc.addr + k.desc.pktOffset * packetOffsetSz = packetOffsetSz ∧
      k.desc.pktSize = lastTxcmdsz (f.coalesce c.fragLen 0 1) := by
  refine ⟨_, rfl, rfl, rfl, rfl, rfl, ?_, rfl⟩
  show (if _ then _ else _) + (if _ then _ else _) * packetOffsetSz = _
  split <;> rfl

/-- The end of a transfer, and that it does not end with a full bulk. -/
lemma finish_len (c : UsbConf) (f : XmitFrame) (h : packetOffsetSz ≤ s.pbufTail) :
    (finish c f s).bufAddr + (finish c f s).len = s.pbufTail ∧
      (finish c f s).len % c.bulkSize ≠ 0 ∧ (finish c f s).bufAddr % 8 = 0 := by
  have h8 : 8 ≤ s.pbufTail := h
  have hbulk : c.bulkSize = 512 ∨ c.bulkSize = 64 := by
    rw [UsbConf.bulkSize]
    split
    · exact .inl rfl
    · exact .inr rfl
  show (if _ then _ else _) + (s.pbufTail - if _ then _ else _) = _ ∧
    (s.pbufTail - if _ then _ else _) % _ ≠ 0 ∧ (if _ then _ else _) % 8 = 0
  by_cases hfull : s.pbufTail % c.bulkSize = 0
  · rw [if_pos hfull]
    show 8 + (s.pbufTail - 8) = _ ∧ (s.pbufTail - 8) % _ ≠ 0 ∧ _
    refine ⟨by omega, ?_, rfl⟩
    rcases hbulk with hb | hb <;> rw [hb] at hfull ⊢ <;> omega
  · rw [if_neg hfull]
    exact ⟨Nat.zero_add _, hfull, rfl⟩

lemma Packet.Whole.ranges {k : Packet} (h : k.Whole) :
    k.ranges.Pairwise (fun a b => a.2 ≤ b.1) ∧
      ∀ r ∈ k.ranges, k.desc.addr ≤ r.1 ∧ r.2 ≤ k.stop := by
  obtain ⟨g, hg, ⟨hstart, -⟩, hstop⟩ := h
  have hranges : k.ranges = [(k.desc.addr, k.desc.addr + txdescSize), g.range] := by
    rw [Packet.ranges, hg]
    rfl
  have hbefore : k.desc.addr + txdescSize ≤ g.start := by omega
  rw [hranges]
  constructor
  · refine List.pairwise_pair.2 ?_
    exact hbefore
  · intro r hr
    rcases List.mem_pair.1 hr with rfl | rfl
    · exact ⟨le_rfl, by show k.desc.addr + txdescSize ≤ k.stop; omega⟩
    · exact ⟨by show k.desc.addr ≤ g.start; omega, hstop.le⟩

/-- Packets with a single MPDU each have the descriptor of that. -/
lemma forall₂_describes {l : List Packet} (h : ∀ k ∈ l, k.Whole) :
    List.Forall₂ Describes (l.map Packet.desc) (l.flatMap Packet.mpdus) := by
  induction l with
  | nil => exact .nil
  | cons k l ih =>
      obtain ⟨g, hg, hdesc, -⟩ := h k List.mem_cons_self
      rw [List.map_cons, List.flatMap_cons, hg]
      exact .cons hdesc (ih fun k' hk' => h k' (List.mem_cons_of_mem _ hk'))

/-- What `rtl8723du_xmitframe_complete` has made of the frames that it took. -/
lemma complete_spec (h : rtl8723duXmitframeComplete c q = some (t, rest)) :
    ∃ f s, t = finish c f s ∧ AggInv c (f.wlanPktSize + txdescSize + packetOffsetSz) s ∧
      (q.take (q.length - rest.length)).filter XmitFrame.coalesces =
        f :: s.packets.map Packet.frame := by
  rw [rtl8723duXmitframeComplete] at h
  rcases hfirst : firstFrame q with _ | ⟨f, r⟩
  · simp [hfirst] at h
  rw [hfirst] at h
  obtain ⟨rfl, rfl⟩ := Prod.mk.inj (Option.some.inj h)
  have hinit : AggInv c (f.wlanPktSize + txdescSize + packetOffsetSz) (.init c f) :=
    ⟨rfl, rfl, le_rfl, fun h => h, fun k hk => absurd hk List.not_mem_nil, List.Pairwise.nil⟩
  obtain ⟨hinv, taken, hr, hframes⟩ := aggLoop_spec f.qsel r hinit
  obtain ⟨hf, failed, hq, hnil⟩ := firstFrame_spec hfirst
  refine ⟨f, _, rfl, hinv, ?_⟩
  set left := (aggLoop c f.qsel (.init c f) r).2 with hleft
  have htake : q.take (q.length - left.length) = failed ++ f :: taken := by
    have hsplit : q = (failed ++ f :: taken) ++ left := by
      rw [hq, List.append_assoc, List.cons_append, ← hr]
    rw [hsplit, List.length_append, Nat.add_sub_cancel, List.take_left]
  rw [htake, List.filter_append, hnil, List.nil_append, List.filter_cons_of_pos hf, hframes]
  rfl

/-- The packets of a transfer in which nothing is fragmented. -/
lemma finish_whole (hinv : AggInv c (f.wlanPktSize + txdescSize + packetOffsetSz) s)
    (hsingle : ∀ g ∈ f :: s.packets.map Packet.frame, g.Single c.fragLen) :
    ∀ k ∈ (finish c f s).packets, k.Whole := by
  obtain ⟨k₀, hpackets, hframe, hmpdus, -, -, hoff, hsize⟩ := finish_packets c f s
  rw [hpackets]
  intro k hk
  rcases List.mem_cons.1 hk with rfl | hk
  · obtain ⟨g, hg, hstart, hlen⟩ := coalesce_of_single 0 1 (hsingle f List.mem_cons_self)
    have h48 : g.start = 48 := hstart
    have hoff8 : k.desc.addr + k.desc.pktOffset * 8 = 8 := hoff
    refine ⟨g, hmpdus.trans hg, ⟨?_, ?_⟩, ?_⟩
    · show g.start = k.desc.addr + 40 + k.desc.pktOffset * 8
      omega
    · rw [hsize, hg]
      rfl
    · show g.start + g.bytes.length = k.desc.addr + 40 + k.desc.pktOffset * 8 + k.frame.wlanPktSize
      rw [hframe]
      omega
  · rw [(hinv.put k hk).1]
    exact whole_putPacket 0 (hsingle _ (List.mem_cons_of_mem _ (List.mem_map_of_mem hk)))

/-- A transfer of frames that are not fragmented is as it should be. -/
lemma goodTransfer_finish {taken : List XmitFrame}
    (hinv : AggInv c (f.wlanPktSize + txdescSize + packetOffsetSz) s)
    (htaken : taken.filter XmitFrame.coalesces = f :: s.packets.map Packet.frame)
    (hsingle : ∀ g ∈ f :: s.packets.map Packet.frame, g.Single c.fragLen)
    (hfirst : f.wlanPktSize + txdescSize + packetOffsetSz ≤ maxXmitbufSz) :
    GoodTransfer c taken (finish c f s) := by
  have hwhole := finish_whole hinv hsingle
  have hstart := hinv.start_le
  obtain ⟨hlen, hfull, hmod⟩ := finish_len c f (s := s) (by omega)
  obtain ⟨k₀, hpackets, hframe, hmpdus, haddr, hagg, hoff, hsize⟩ := finish_packets c f s
  -- the first packet ends where the loop has begun, and the others where they have been put
  have hstop₀ : k₀.stop = f.wlanPktSize + txdescSize + packetOffsetSz := by
    rw [Packet.stop, hframe]
    omega
  have hstop (k : Packet) (hk : k ∈ s.packets) : k.stop = k.tail := by
    have hdesc : k.desc.pktOffset = 0 := congrArg (fun k => k.desc.pktOffset) (hinv.put k hk).1
    rw [Packet.stop, hdesc, Packet.tail, Nat.zero_mul, Nat.add_zero]
  have hin (k : Packet) (hk : k ∈ (finish c f s).packets) :
      (finish c f s).bufAddr ≤ k.desc.addr ∧ k.stop ≤ s.pbufTail ∧ k.desc.addr % 8 = 0 := by
    rw [hpackets] at hk
    rcases List.mem_cons.1 hk with rfl | hk
    · exact ⟨haddr.ge, hstop₀.trans_le hstart, haddr ▸ hmod⟩
    · obtain ⟨-, hmodk, hge, htail⟩ := hinv.put k hk
      refine ⟨?_, (hstop k hk).trans_le htail, hmodk⟩
      rw [← haddr]
      have : packetOffsetSz ≤ k.desc.addr := (Nat.le_add_left _ _).trans hge
      omega
  have hordered : (finish c f s).packets.Pairwise fun a b => a.stop ≤ b.desc.addr := by
    rw [hpackets]
    refine List.pairwise_cons.2 ⟨fun k hk => hstop₀.trans_le (hinv.put k hk).2.2.1, ?_⟩
    exact hinv.ordered.imp_of_mem fun ha _ hab => (hstop _ ha).trans_le hab
  constructor
  · rw [hpackets, List.map_cons, hframe, htaken]
  · exact forall₂_describes hwhole
  · refine List.pairwise_flatMap.2 ⟨fun k hk => (hwhole k hk).ranges.1, ?_⟩
    refine hordered.imp_of_mem fun ha hb hab x hx y hy => ?_
    exact (((hwhole _ ha).ranges.2 x hx).2.trans hab).trans ((hwhole _ hb).ranges.2 y hy).1
  · intro r hr
    obtain ⟨k, hk, hr⟩ := List.mem_flatMap.1 hr
    obtain ⟨hge, hle, -⟩ := hin k hk
    obtain ⟨hr₁, hr₂⟩ := (hwhole k hk).ranges.2 r hr
    exact ⟨hge.trans hr₁, hlen ▸ hr₂.trans hle⟩
  · intro k hk
    obtain ⟨hge, -, hmodk⟩ := hin k hk
    omega
  · have hcount := (forall₂_describes hwhole).length_eq
    rw [List.length_map] at hcount
    rw [← hcount, hpackets]
    intro k hk
    obtain rfl := Option.some.inj hk
    rw [hagg, hinv.aggNum, List.length_cons]
  · rw [hlen]
    exact hinv.pbufTail_le hfirst
  · exact hfull

/-- The transfer is as it should be exactly if none of its frames is fragmented and the first one
fits the buffer. -/
theorem goodTransfer_iff (c : UsbConf) (q rest : List XmitFrame) (t : UsbTransfer)
    (h : rtl8723duXmitframeComplete c q = some (t, rest)) :
    GoodTransfer c (q.take (q.length - rest.length)) t ↔
      (∀ f ∈ (q.take (q.length - rest.length)).filter XmitFrame.coalesces, f.Single c.fragLen) ∧
        ∀ f ∈ ((q.take (q.length - rest.length)).filter XmitFrame.coalesces).head?,
          f.wlanPktSize + txdescSize + packetOffsetSz ≤ maxXmitbufSz := by
  obtain ⟨f, s, rfl, hinv, htaken⟩ := complete_spec h
  obtain ⟨k₀, hpackets, hframe, hmpdus, haddr, hagg, hoff, hsize⟩ := finish_packets c f s
  have hstart := hinv.start_le
  obtain ⟨hlen, hfull, hmod⟩ := finish_len c f (s := s) (by omega)
  rw [htaken]
  constructor
  · intro hgood
    constructor
    · have hcount := hgood.described.length_eq
      rw [List.length_map] at hcount
      have hone := length_eq_one_of_flatMap (g := Packet.mpdus) ?_ hcount.symm
      · intro g hg
        by_contra hfrag
        rcases List.mem_cons.1 hg with rfl | hg
        · have := hone k₀ (by rw [hpackets]; exact List.mem_cons_self)
          have := one_lt_coalesce 0 1 hfrag
          rw [← hmpdus] at this
          omega
        · obtain ⟨k, hk, rfl⟩ := List.mem_map.1 hg
          have := hone k (by rw [hpackets]; exact List.mem_cons_of_mem _ hk)
          have := one_lt_coalesce k.desc.addr 0 hfrag
          have hput : k.mpdus = k.frame.coalesce c.fragLen k.desc.addr 0 :=
            congrArg Packet.mpdus (hinv.put k hk).1
          rw [← hput] at this
          omega
      · intro k hk
        rw [hpackets] at hk
        rcases List.mem_cons.1 hk with rfl | hk
        · rw [hmpdus]
          exact coalesce_ne_nil _ _ _ _
        · rw [show k.mpdus = k.frame.coalesce c.fragLen k.desc.addr 0 from
            congrArg Packet.mpdus (hinv.put k hk).1]
          exact coalesce_ne_nil _ _ _ _
    · intro g hg
      obtain rfl := Option.some.inj hg
      exact hstart.trans (hlen ▸ hgood.fits)
  · rintro ⟨hsingle, hfirst⟩
    exact goodTransfer_finish hinv htaken hsingle (hfirst f rfl)

/-- A frame with `n` bytes of payload in the queue of a station. -/
def plainFrame (n : ℕ) (coalesces : Bool) : XmitFrame where
  p := plainAttrib n
  payload := (plainPkt n).payload
  qsel := 0
  mic := .replicate 8 0x11
  coalesces := coalesces

/-- The station at high speed. -/
def plainConf : UsbConf where
  isAp := false
  highSpeed := true
  fragLen := plainAdapter.fragLen

/-- Two frames of 28 and 60 bytes; a third one cannot be encapsulated. -/
theorem goodTransfer_iff_pair :
    ∃ t, rtl8723duXmitframeComplete plainConf
        [plainFrame 28 true, plainFrame 28 false, plainFrame 60 true] = some (t, []) ∧
      GoodTransfer plainConf [plainFrame 28 true, plainFrame 28 false, plainFrame 60 true] t :=
  ⟨_, rfl, (goodTransfer_iff plainConf
    [plainFrame 28 true, plainFrame 28 false, plainFrame 60 true] [] _ rfl).2
      ⟨by decide, by decide⟩⟩

/-- A frame of 300 bytes has two fragments, and the transfer one descriptor. -/
theorem fragments_in_transfer :
    ∃ t, rtl8723duXmitframeComplete plainConf [plainFrame 300 true] = some (t, []) ∧
      ¬ GoodTransfer plainConf [plainFrame 300 true] t := by
  refine ⟨_, rfl, fun h => absurd h.described.length_eq ?_⟩
  decide +kernel

end Rtl8723du.Xmit
