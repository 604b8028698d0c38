import Mathlib.Data.List.Basic
import Mathlib.Data.UInt
import Mathlib.Logic.Relation
import Rtl8723du.Lib.Loop

/-!
# Bulk-in transfers

A transfer of the bulk-in pipe holds one or more packets, each of them a descriptor, driver info,
shift bytes and the packet, padded to eight bytes.  `recvbuf2recvframe` of
`hal/rtl8723d/usb/usb_ops.c` walks over it and hands each packet on.

`mem` is the memory from the start of the transfer on, behind its end too; the transfer is its
first `transferLen` bytes.  Every read of the memory is recorded, as is every packet length from
which the length of the FCS is taken.
-/

namespace Rtl8723du.Usb

open Lib

/-! ### The descriptor -/

/-- `LE_BITS_TO_4BYTE`. -/
def leBitsTo4Byte (mem : ℕ → UInt8) (p off len : ℕ) : ℕ :=
  ((mem p).toNat + 256 * (mem (p + 1)).toNat + 65536 * (mem (p + 2)).toNat +
    16777216 * (mem (p + 3)).toNat) / 2 ^ off % 2 ^ len

/-- The fields of `rx_pkt_attrib` that the walk uses. -/
structure RxPktAttrib where
  pktLen : ℕ
  /-- `pkt_rpt_type` is `C2H_PACKET`, not `NORMAL_RX`. -/
  c2h : Bool
  crcErr : Bool
  icvErr : Bool
  drvinfoSz : ℕ
  shiftSz : ℕ
  physt : Bool
  mfrag : Bool
  fragNum : ℕ
deriving DecidableEq

/-- `rtl8723d_query_rx_desc_status`; for a C2H packet the fields but two stay zero. -/
def rtl8723dQueryRxDescStatus (mem : ℕ → UInt8) (pdesc : ℕ) : RxPktAttrib :=
  let pktLen := leBitsTo4Byte mem pdesc 0 14
  if leBitsTo4Byte mem (pdesc + 8) 28 1 ≠ 0 then ⟨pktLen, true, false, false, 0, 0, false, false, 0⟩
  else
    { pktLen
      c2h := false
      crcErr := leBitsTo4Byte mem pdesc 14 1 ≠ 0
      icvErr := leBitsTo4Byte mem pdesc 15 1 ≠ 0
      drvinfoSz := leBitsTo4Byte mem pdesc 16 4 * 8
      shiftSz := leBitsTo4Byte mem pdesc 24 2
      physt := leBitsTo4Byte mem pdesc 26 1 ≠ 0
      mfrag := leBitsTo4Byte mem (pdesc + 4) 27 1 ≠ 0
      fragNum := leBitsTo4Byte mem (pdesc + 8) 12 4 }

/-- The words of the descriptor that are read. -/
def descReads (attrib : RxPktAttrib) (pdesc : ℕ) : List (ℕ × ℕ) :=
  (pdesc, 4) :: (pdesc + 8, 4) :: if attrib.c2h then [] else [(pdesc + 4, 4), (pdesc + 12, 4)]

/-- `_RND8`. -/
def rnd8 (sz : ℕ) : ℕ := (sz / 8 + if sz % 8 = 0 then 0 else 1) * 8

/-! ### The walk -/

/-- What the walk depends on besides the transfer; the last three say what is available for the
packet of each number. -/
structure RxCfg where
  /-- `registrypriv.mp_mode`. -/
  mpMode : Bool
  /-- `WIFI_MONITOR_STATE`. -/
  monitor : Bool
  /-- `RCR_APPFCS`. -/
  appFcs : Bool
  /-- `rtw_alloc_recvframe` gives a frame. -/
  frame : ℕ → Bool
  /-- `rtw_skb_alloc` gives a socket buffer. -/
  skb : ℕ → Bool
  /-- `rtw_skb_clone` gives one. -/
  clone : ℕ → Bool

/-- A packet that is handed on, to `pre_recv_entry` or `rtw_hal_c2h_pkt_pre_hdl`. -/
structure Delivered where
  c2h : Bool
  data : List UInt8
  /-- Where the PHY status is, if there is one. -/
  phyStatus : Option ℕ
deriving DecidableEq

/-- `pkt_len -= IEEE80211_FCS_LEN`: the difference, and the `u16` that is stored. -/
structure FcsCut where
  exact : ℤ
  stored : ℕ
deriving DecidableEq

/-- The state of the walk. -/
structure RxState where
  pbuf : ℕ
  transferLen : ℤ
  /-- How many packets have been handed on. -/
  pkts : ℕ
  delivered : List Delivered
  reads : List (ℕ × ℕ)
  cuts : List FcsCut
deriving DecidableEq

/-- The packet is in error and is not wanted. -/
def errored (cfg : RxCfg) (attrib : RxPktAttrib) : Bool :=
  !cfg.mpMode && (attrib.crcErr || attrib.icvErr)

/-- `pkt_offset`, before rounding. -/
def pktOffset (attrib : RxPktAttrib) : ℕ :=
  24 + attrib.drvinfoSz + attrib.shiftSz + attrib.pktLen

/-- The FCS is taken off. -/
def cutsFcs (cfg : RxCfg) (attrib : RxPktAttrib) : Bool :=
  !cfg.monitor && !attrib.c2h && cfg.appFcs

/-- `pkt_len` after the FCS is taken off. -/
def cutLen (cfg : RxCfg) (attrib : RxPktAttrib) : ℕ :=
  if cutsFcs cfg attrib then (attrib.pktLen + 65532) % 65536 else attrib.pktLen

/-- `rtw_os_alloc_recvframe` succeeds. -/
def rtwOsAllocRecvframe (cfg : RxCfg) (k : ℕ) (attrib : RxPktAttrib) : Bool :=
  cfg.skb k || (cfg.clone k && !(attrib.mfrag && attrib.fragNum == 0))

/-- Bytes of the memory. -/
def slice (mem : ℕ → UInt8) (off n : ℕ) : List UInt8 := (List.range n).map fun i => mem (off + i)

/-- A pass from the length check on. -/
def recvPassDeliver (cfg : RxCfg) (mem : ℕ → UInt8) (attrib : RxPktAttrib) (s : RxState) :
    RxState ⊕ RxState :=
  let cut : RxState := { s with
    cuts := s.cuts ++ if cutsFcs cfg attrib then [⟨attrib.pktLen - 4, cutLen cfg attrib⟩] else [] }
  let pdata := s.pbuf + 24 + attrib.drvinfoSz + attrib.shiftSz
  if rtwOsAllocRecvframe cfg s.pkts attrib then
    let step := rnd8 (pktOffset attrib) % 65536
    let next : RxState := { cut with
      pbuf := s.pbuf + step
      transferLen := s.transferLen - step
      pkts := s.pkts + 1
      delivered := s.delivered ++ [⟨attrib.c2h, slice mem pdata (cutLen cfg attrib),
        if attrib.physt then some (s.pbuf + 24) else none⟩]
      reads := s.reads ++ if cfg.skb s.pkts then [(pdata, cutLen cfg attrib)] else [] }
    if 0 < next.transferLen then .inr next else .inl next
  else .inl cut

/-- A pass of the loop of `recvbuf2recvframe`. -/
def recvPass (cfg : RxCfg) (mem : ℕ → UInt8) (s : RxState) : RxState ⊕ RxState :=
  if cfg.frame s.pkts then
    let attrib := rtl8723dQueryRxDescStatus mem s.pbuf
    let s : RxState := { s with reads := s.reads ++ descReads attrib s.pbuf }
    if errored cfg attrib then .inl s
    else if attrib.pktLen = 0 ∨ s.transferLen < pktOffset attrib then .inl s
    else recvPassDeliver cfg mem attrib s
  else .inl s

/-- The state before the loop; `pkt_cnt` has been read from the first descriptor. -/
def recvInit (transferLen : ℕ) : RxState := ⟨0, transferLen, 0, [], [(12, 4)], []⟩

/-- `recvbuf2recvframe`; there is a result if the loop ends. -/
def recvbuf2recvframe (cfg : RxCfg) (mem : ℕ → UInt8) (transferLen : ℕ) : Option RxState :=
  Loop.run (recvPass cfg mem) (transferLen + 1) (recvInit transferLen)

/-! ### Steps -/

variable {cfg : RxCfg} {mem mem' : ℕ → UInt8} {len k off off' : ℕ} {s s' : RxState}

lemma rnd8_bounds (n : ℕ) : n ≤ rnd8 n ∧ rnd8 n < n + 8 ∧ rnd8 n % 8 = 0 := by
  unfold rnd8
  split <;> omega

lemma leBitsTo4Byte_lt (mem : ℕ → UInt8) (p off len : ℕ) : leBitsTo4Byte mem p off len < 2 ^ len :=
  Nat.mod_lt _ (Nat.two_pow_pos len)

/-- The sizes in a descriptor are small, so that the step fits into a `u16`. -/
lemma pktOffset_le (mem : ℕ → UInt8) (off : ℕ) :
    (rtl8723dQueryRxDescStatus mem off).pktLen < 16384 ∧
      pktOffset (rtl8723dQueryRxDescStatus mem off) ≤ 16530 := by
  have hlen : leBitsTo4Byte mem off 0 14 < 16384 := leBitsTo4Byte_lt ..
  have hdrv : leBitsTo4Byte mem off 16 4 < 16 := leBitsTo4Byte_lt ..
  have hshift : leBitsTo4Byte mem off 24 2 < 4 := leBitsTo4Byte_lt ..
  unfold pktOffset rtl8723dQueryRxDescStatus
  dsimp only
  split
  · dsimp only
    omega
  · dsimp only
    omega

lemma step_eq (mem : ℕ → UInt8) (off : ℕ) :
    rnd8 (pktOffset (rtl8723dQueryRxDescStatus mem off)) % 65536 =
      rnd8 (pktOffset (rtl8723dQueryRxDescStatus mem off)) := by
  have hle := (pktOffset_le mem off).2
  have hrnd := rnd8_bounds (pktOffset (rtl8723dQueryRxDescStatus mem off))
  exact Nat.mod_eq_of_lt (by omega)

/-- What is recorded lies inside the transfer, and no length wraps. -/
def Good (len : ℕ) (s : RxState) : Prop :=
  (∀ r ∈ s.reads, r.1 + r.2 ≤ len) ∧ ∀ c ∈ s.cuts, c.exact = c.stored

/-- The walk has not lost count. -/
def InStep (len : ℕ) (s : RxState) : Prop := s.transferLen = len - s.pbuf

/-! ### Conditions -/

/-- The packet of number `k`, at an offset, passes the checks. -/
def Taken (cfg : RxCfg) (mem : ℕ → UInt8) (len k off : ℕ) : Prop :=
  let attrib := rtl8723dQueryRxDescStatus mem off
  cfg.frame k = true ∧ errored cfg attrib = false ∧ attrib.pktLen ≠ 0 ∧ off + pktOffset attrib ≤ len

/-- From one packet to the next. -/
def Next (cfg : RxCfg) (mem : ℕ → UInt8) (len : ℕ) (a b : ℕ × ℕ) : Prop :=
  let attrib := rtl8723dQueryRxDescStatus mem a.2
  Taken cfg mem len a.1 a.2 ∧ rtwOsAllocRecvframe cfg a.1 attrib = true ∧
    b = (a.1 + 1, a.2 + rnd8 (pktOffset attrib)) ∧ b.2 < len

/-- The descriptor lies inside the transfer, and the packet is not shorter than the FCS that is
taken off. -/
def SafeAt (cfg : RxCfg) (mem : ℕ → UInt8) (len : ℕ) (a : ℕ × ℕ) : Prop :=
  let attrib := rtl8723dQueryRxDescStatus mem a.2
  (cfg.frame a.1 = true → a.2 + (if attrib.c2h then 12 else 16) ≤ len) ∧
    (Taken cfg mem len a.1 a.2 → cutsFcs cfg attrib = true → 4 ≤ attrib.pktLen)

/-- There is a first descriptor, and every packet that is come to is as it should be. -/
def SafeFits (cfg : RxCfg) (mem : ℕ → UInt8) (len : ℕ) : Prop :=
  16 ≤ len ∧ ∀ a, Relation.ReflTransGen (Next cfg mem len) (0, 0) a → SafeAt cfg mem len a

/-- The walk ends, reads only inside the transfer and takes no FCS off a shorter packet. -/
def Safe (cfg : RxCfg) (mem : ℕ → UInt8) (len : ℕ) : Prop :=
  ∃ s, recvbuf2recvframe cfg mem len = some s ∧ Good len s

/-! ### Safety -/

lemma good_descReads (attrib : RxPktAttrib) (pdesc : ℕ) :
    (∀ r ∈ descReads attrib pdesc, r.1 + r.2 ≤ len) ↔
      pdesc + (if attrib.c2h then 12 else 16) ≤ len := by
  rw [descReads]
  cases attrib.c2h <;> simp <;> omega

lemma good_cut (hlen : (rtl8723dQueryRxDescStatus mem off).pktLen < 16384) :
    (∀ c ∈ (if cutsFcs cfg (rtl8723dQueryRxDescStatus mem off) then
        [(⟨(rtl8723dQueryRxDescStatus mem off).pktLen - 4,
          cutLen cfg (rtl8723dQueryRxDescStatus mem off)⟩ : FcsCut)] else []),
        c.exact = c.stored) ↔
      (cutsFcs cfg (rtl8723dQueryRxDescStatus mem off) = true →
        4 ≤ (rtl8723dQueryRxDescStatus mem off).pktLen) := by
  rw [cutLen]
  by_cases hcut : cutsFcs cfg (rtl8723dQueryRxDescStatus mem off) = true
  · simp only [hcut, if_true, List.mem_singleton, forall_eq, forall_const]
    omega
  · simp [hcut]

/-- What a packet that has passed the checks leaves in the records. -/
lemma good_next (htaken : Taken cfg mem len k off) {d : List Delivered} {n b : ℕ}
    {t : ℤ} {q : List (ℕ × ℕ)} {u : List FcsCut} {pdata : ℕ}
    (hpdata : pdata = off + 24 + (rtl8723dQueryRxDescStatus mem off).drvinfoSz +
      (rtl8723dQueryRxDescStatus mem off).shiftSz) (copied : Bool) :
    Good len ⟨b, t, n, d,
        q ++ (if copied then
          [(pdata, cutLen cfg (rtl8723dQueryRxDescStatus mem off))] else []),
        u ++ if cutsFcs cfg (rtl8723dQueryRxDescStatus mem off) then
          [⟨(rtl8723dQueryRxDescStatus mem off).pktLen - 4,
            cutLen cfg (rtl8723dQueryRxDescStatus mem off)⟩] else []⟩ ↔
      ((∀ r ∈ q, r.1 + r.2 ≤ len) ∧ ∀ c ∈ u, c.exact = c.stored) ∧
        (cutsFcs cfg (rtl8723dQueryRxDescStatus mem off) = true →
          4 ≤ (rtl8723dQueryRxDescStatus mem off).pktLen) := by
  have hsmall := (pktOffset_le mem off).1
  obtain ⟨-, -, -, hfits⟩ := htaken
  unfold pktOffset at hfits
  rw [Good]
  simp only [List.forall_mem_append]
  rw [good_cut hsmall]
  constructor
  · rintro ⟨⟨hreads, -⟩, hcuts, hcut⟩
    exact ⟨⟨hreads, hcuts⟩, hcut⟩
  · rintro ⟨⟨hreads, hcuts⟩, hcut⟩
    refine ⟨⟨hreads, ?_⟩, hcuts, hcut⟩
    -- The payload that is copied lies before the end of the packet.
    have hcutLen : cutLen cfg (rtl8723dQueryRxDescStatus mem off) ≤
        (rtl8723dQueryRxDescStatus mem off).pktLen := by
      rw [cutLen]
      split
      · rename_i htrue
        have := hcut htrue
        omega
      · exact Nat.le_refl _
    cases copied
    · simp
    · simp only [if_true, List.mem_singleton, forall_eq]
      omega

/-- A pass ends the walk or goes on to the next packet, and what it records is as it should be
exactly if the packet is. -/
lemma recvPass_cases (cfg : RxCfg) (mem : ℕ → UInt8) (h : InStep len s) :
    (∃ s', recvPass cfg mem s = .inl s' ∧ (∀ b, ¬ Next cfg mem len (s.pkts, s.pbuf) b) ∧
      (Good len s' ↔ Good len s ∧ SafeAt cfg mem len (s.pkts, s.pbuf))) ∨
    ∃ s', recvPass cfg mem s = .inr s' ∧ Next cfg mem len (s.pkts, s.pbuf) (s'.pkts, s'.pbuf) ∧
      InStep len s' ∧ s'.transferLen < s.transferLen ∧ 0 < s'.transferLen ∧
      (Good len s' ↔ Good len s ∧ SafeAt cfg mem len (s.pkts, s.pbuf)) := by
  obtain ⟨pbuf, transferLen, pkts, delivered, reads, cuts⟩ := s
  have hlen : transferLen = len - pbuf := h
  by_cases hframe : cfg.frame pkts = true
  swap
  · left
    have htaken : ¬ Taken cfg mem len pkts pbuf := fun htaken => hframe htaken.1
    refine ⟨_, if_neg hframe, fun b hnext => htaken hnext.1, ?_⟩
    exact (and_iff_left ⟨fun htrue => absurd htrue hframe, fun ht => absurd ht htaken⟩).symm
  have hdesc : Good len ⟨pbuf, transferLen, pkts, delivered,
      reads ++ descReads (rtl8723dQueryRxDescStatus mem pbuf) pbuf, cuts⟩ ↔
      Good len ⟨pbuf, transferLen, pkts, delivered, reads, cuts⟩ ∧
        pbuf + (if (rtl8723dQueryRxDescStatus mem pbuf).c2h then 12 else 16) ≤ len := by
    rw [Good, Good]
    simp only [List.forall_mem_append]
    rw [good_descReads]
    exact and_right_comm
  have hpass : recvPass cfg mem ⟨pbuf, transferLen, pkts, delivered, reads, cuts⟩ =
      if errored cfg (rtl8723dQueryRxDescStatus mem pbuf) then
        .inl ⟨pbuf, transferLen, pkts, delivered,
          reads ++ descReads (rtl8723dQueryRxDescStatus mem pbuf) pbuf, cuts⟩
      else if (rtl8723dQueryRxDescStatus mem pbuf).pktLen = 0 ∨
          transferLen < pktOffset (rtl8723dQueryRxDescStatus mem pbuf) then
        .inl ⟨pbuf, transferLen, pkts, delivered,
          reads ++ descReads (rtl8723dQueryRxDescStatus mem pbuf) pbuf, cuts⟩
      else recvPassDeliver cfg mem (rtl8723dQueryRxDescStatus mem pbuf)
        ⟨pbuf, transferLen, pkts, delivered,
          reads ++ descReads (rtl8723dQueryRxDescStatus mem pbuf) pbuf, cuts⟩ := if_pos hframe
  -- A packet that does not pass the checks ends the walk.
  have hstop (hpass : recvPass cfg mem ⟨pbuf, transferLen, pkts, delivered, reads, cuts⟩ =
        .inl ⟨pbuf, transferLen, pkts, delivered,
          reads ++ descReads (rtl8723dQueryRxDescStatus mem pbuf) pbuf, cuts⟩)
      (htaken : ¬ Taken cfg mem len pkts pbuf) :
      ∃ s', recvPass cfg mem ⟨pbuf, transferLen, pkts, delivered, reads, cuts⟩ = .inl s' ∧
        (∀ b, ¬ Next cfg mem len (pkts, pbuf) b) ∧
        (Good len s' ↔ Good len ⟨pbuf, transferLen, pkts, delivered, reads, cuts⟩ ∧
          SafeAt cfg mem len (pkts, pbuf)) := by
    refine ⟨_, hpass, fun b hnext => htaken hnext.1, ?_⟩
    rw [hdesc]
    refine and_congr_right fun _ => ?_
    exact ⟨fun hle => ⟨fun _ => hle, fun ht => absurd ht htaken⟩, fun hsafe => hsafe.1 hframe⟩
  by_cases herr : errored cfg (rtl8723dQueryRxDescStatus mem pbuf) = true
  · exact .inl (hstop (by rw [hpass, if_pos herr]) fun ht => absurd (ht.2.1.symm.trans herr)
      (by decide))
  by_cases hshort : (rtl8723dQueryRxDescStatus mem pbuf).pktLen = 0 ∨
      transferLen < pktOffset (rtl8723dQueryRxDescStatus mem pbuf)
  · refine .inl (hstop (by rw [hpass, if_neg herr, if_pos hshort]) fun ht => ?_)
    obtain ⟨-, -, hne, hfits⟩ := ht
    rcases hshort with hzero | hfar
    · exact hne hzero
    · omega
  have htaken : Taken cfg mem len pkts pbuf :=
    ⟨hframe, by simpa using herr, fun hzero => hshort (.inl hzero),
      by rw [not_or] at hshort; omega⟩
  have hsafe : SafeAt cfg mem len (pkts, pbuf) ↔
      pbuf + (if (rtl8723dQueryRxDescStatus mem pbuf).c2h then 12 else 16) ≤ len ∧
        (cutsFcs cfg (rtl8723dQueryRxDescStatus mem pbuf) = true →
          4 ≤ (rtl8723dQueryRxDescStatus mem pbuf).pktLen) := by
    rw [SafeAt]
    exact and_congr (forall_prop_of_true hframe) (forall_prop_of_true htaken)
  rw [hpass, if_neg herr, if_neg hshort, hsafe, ← and_assoc, ← hdesc]
  rw [recvPassDeliver]
  dsimp only
  rw [step_eq]
  have hrnd := rnd8_bounds (pktOffset (rtl8723dQueryRxDescStatus mem pbuf))
  have hpos : 24 ≤ pktOffset (rtl8723dQueryRxDescStatus mem pbuf) := by
    rw [pktOffset]
    omega
  by_cases halloc : rtwOsAllocRecvframe cfg pkts (rtl8723dQueryRxDescStatus mem pbuf) = true
  · rw [if_pos halloc]
    by_cases hmore : 0 < transferLen - (rnd8 (pktOffset (rtl8723dQueryRxDescStatus mem pbuf)) : ℤ)
    · right
      rw [if_pos hmore]
      refine ⟨_, rfl, ⟨htaken, halloc, rfl, ?_⟩, ?_, ?_, hmore, good_next htaken rfl _⟩
      · dsimp only
        omega
      · rw [InStep]
        dsimp only
        omega
      · dsimp only
        omega
    · left
      rw [if_neg hmore]
      refine ⟨_, rfl, ?_, good_next htaken rfl _⟩
      rintro b ⟨-, -, rfl, hlt⟩
      dsimp only at hlt
      omega
  · left
    rw [if_neg halloc]
    refine ⟨_, rfl, fun b hnext => halloc hnext.2.1, ?_⟩
    have := good_next htaken (d := delivered) (n := pkts) (b := pbuf) (t := transferLen) (u := cuts)
      rfl false (q := reads ++ descReads (rtl8723dQueryRxDescStatus mem pbuf) pbuf)
    simp only [Bool.false_eq_true, if_false, List.append_nil] at this
    exact this

/-- What the rest of the walk records is as it should be exactly if the packets are that it comes
to. -/
lemma run_good {c : RxCfg} {m : ℕ → UInt8} {l : ℕ} {n : ℕ} (h : InStep l s)
    (hn : s.transferLen.toNat < n) :
    ∃ s', Loop.run (recvPass c m) n s = some s' ∧
      (Good l s' ↔ Good l s ∧ ∀ a,
        Relation.ReflTransGen (Next c m l) (s.pkts, s.pbuf) a → SafeAt c m l a) := by
  induction n generalizing s with
  | zero => exact absurd hn (Nat.not_lt_zero _)
  | succ n ih =>
      rcases recvPass_cases c m h with ⟨s', hpass, hlast, hgood⟩ |
        ⟨s', hpass, hnext, hstep, hless, hpos, hgood⟩
      · refine ⟨s', by rw [Loop.run, hpass], hgood.trans (and_congr_right fun _ => ?_)⟩
        constructor
        · intro hsafe a hreach
          rcases Relation.ReflTransGen.cases_head hreach with rfl | ⟨b, hb, -⟩
          · exact hsafe
          · exact absurd hb (hlast b)
        · exact fun hall => hall _ .refl
      · obtain ⟨s'', hrun, hgood'⟩ := ih hstep (by omega)
        refine ⟨s'', by rw [Loop.run, hpass]; exact hrun, ?_⟩
        rw [hgood', hgood, and_assoc]
        refine and_congr_right fun _ => ?_
        constructor
        · rintro ⟨hsafe, hall⟩ a hreach
          rcases Relation.ReflTransGen.cases_head hreach with rfl | ⟨b, hb, hrest⟩
          · exact hsafe
          · obtain rfl : b = (s'.pkts, s'.pbuf) := hb.2.2.1.trans hnext.2.2.1.symm
            exact hall a hrest
        · exact fun hall => ⟨hall _ .refl, fun a hreach => hall a (.head hnext hreach)⟩

lemma safe_iff : Safe cfg mem len ↔ SafeFits cfg mem len := by
  have hinit : Good len (recvInit len) ↔ 16 ≤ len := by
    simp [Good, recvInit]
  obtain ⟨s, hrun, hgood⟩ := run_good (c := cfg) (m := mem) (s := recvInit len) (l := len)
    (n := len + 1) (by simp [InStep, recvInit]) (by simp [recvInit])
  rw [hinit] at hgood
  constructor
  · rintro ⟨s', hrun', hs'⟩
    obtain rfl : s = s' := Option.some.inj (hrun.symm.trans hrun')
    exact hgood.1 hs'
  · exact fun hfits => ⟨s, hrun, hgood.2 hfits⟩

/-! ### Transfers of packets -/

/-- A packet as the device lays it out.  Where the FCS is appended, a normal packet ends with it. -/
structure RxPacket (appFcs : Bool) where
  desc : List UInt8
  drvinfo : List UInt8
  shift : List UInt8
  payload : List UInt8
  fcs : List UInt8
  pad : List UInt8
  attrib : RxPktAttrib
  attrib_eq : attrib = rtl8723dQueryRxDescStatus (fun i => desc.getD i 0) 0
  length_desc : desc.length = 24
  length_drvinfo : drvinfo.length = attrib.drvinfoSz
  length_shift : shift.length = attrib.shiftSz
  length_fcs : fcs.length = if appFcs && !attrib.c2h then 4 else 0
  length_packet : payload.length + fcs.length = attrib.pktLen
  length_pad : pad.length < 8
  aligned : (desc.length + drvinfo.length + shift.length + payload.length + fcs.length +
    pad.length) % 8 = 0

namespace RxPacket

variable {appFcs : Bool}

/-- The bytes of a packet. -/
def bytes (p : RxPacket appFcs) : List UInt8 :=
  p.desc ++ (p.drvinfo ++ (p.shift ++ (p.payload ++ (p.fcs ++ p.pad))))

/-- The packet is to be handed on; in MP mode those in error are too. -/
def wanted (cfg : RxCfg) (p : RxPacket appFcs) : Bool := !errored cfg p.attrib

/-- What is to be handed on of it. -/
def expected (p : RxPacket appFcs) : Bool × List UInt8 := (p.attrib.c2h, p.payload)

/-- What the walk hands on of it. -/
def handed (cfg : RxCfg) (p : RxPacket appFcs) : Bool × List UInt8 :=
  (p.attrib.c2h, if cfg.monitor then p.payload ++ p.fcs else p.payload)

/-- The walk does not stop at the packet. -/
def passed (cfg : RxCfg) (k : ℕ) (p : RxPacket appFcs) : Bool :=
  cfg.frame k && p.wanted cfg && p.attrib.pktLen != 0 && rtwOsAllocRecvframe cfg k p.attrib

end RxPacket

variable {appFcs : Bool}

/-- The bytes of a transfer. -/
def transfer (ps : List (RxPacket appFcs)) : List UInt8 := ps.flatMap RxPacket.bytes

/-- The bytes lie in the memory from an offset on. -/
def Holds (mem : ℕ → UInt8) (off : ℕ) (bs : List UInt8) : Prop :=
  ∀ i < bs.length, mem (off + i) = bs.getD i 0

/-- The packets that are wanted are handed on in order, each once. -/
def Delivers (cfg : RxCfg) (mem : ℕ → UInt8) (ps : List (RxPacket cfg.appFcs)) : Prop :=
  ∃ s, recvbuf2recvframe cfg mem (transfer ps).length = some s ∧
    s.delivered.map (fun d => (d.c2h, d.data)) = (ps.filter (·.wanted cfg)).map (·.expected)

/-- Every packet that is wanted is not empty, has the memory it takes, and is not kept with its FCS
for a monitor; behind one that is not wanted none is. -/
def DeliverFits (cfg : RxCfg) : ℕ → List (RxPacket cfg.appFcs) → Prop
  | _, [] => True
  | k, p :: ps =>
      if p.wanted cfg then
        (cfg.frame k = true ∧ p.attrib.pktLen ≠ 0 ∧ rtwOsAllocRecvframe cfg k p.attrib = true ∧
          (cfg.monitor = true → p.fcs = [])) ∧ DeliverFits cfg (k + 1) ps
      else ∀ q ∈ ps, q.wanted cfg = false

/-- What the walk hands on of some packets. -/
def handedOn (cfg : RxCfg) : ℕ → List (RxPacket cfg.appFcs) → List (Bool × List UInt8)
  | _, [] => []
  | k, p :: ps => if p.passed cfg k then p.handed cfg :: handedOn cfg (k + 1) ps else []

/-! ### Delivery -/

namespace Holds

variable {bs cs : List UInt8}

lemma left (h : Holds mem off (bs ++ cs)) : Holds mem off bs := by
  intro i hi
  rw [h i (by rw [List.length_append]; omega), List.getD_eq_getElem?_getD,
    List.getElem?_append_left hi, List.getD_eq_getElem?_getD]

lemma right (h : Holds mem off (bs ++ cs)) : Holds mem (off + bs.length) cs := by
  intro i hi
  rw [Nat.add_assoc, h _ (by rw [List.length_append]; omega), List.getD_eq_getElem?_getD,
    List.getElem?_append_right (Nat.le_add_right ..), Nat.add_sub_cancel_left,
    List.getD_eq_getElem?_getD]

lemma slice_eq (h : Holds mem off bs) : slice mem off bs.length = bs := by
  refine List.ext_getElem (by simp [slice]) fun i hi _ => ?_
  have hlt : i < bs.length := by simpa [slice] using hi
  simp only [slice, List.getElem_map, List.getElem_range]
  rw [h i hlt, List.getD_eq_getElem?_getD, List.getElem?_eq_getElem hlt, Option.getD_some]

end Holds

lemma leBitsTo4Byte_congr {p p' : ℕ} (h : ∀ i < 4, mem (p + i) = mem' (p' + i)) (o l : ℕ) :
    leBitsTo4Byte mem p o l = leBitsTo4Byte mem' p' o l := by
  unfold leBitsTo4Byte
  rw [show mem p = mem' p' from h 0 (by omega), h 1 (by omega), h 2 (by omega), h 3 (by omega)]

/-- Only the first sixteen bytes of a descriptor are looked at. -/
lemma rtl8723dQueryRxDescStatus_congr (h : ∀ i < 16, mem (off + i) = mem' (off' + i)) :
    rtl8723dQueryRxDescStatus mem off = rtl8723dQueryRxDescStatus mem' off' := by
  have hword (j : ℕ) (hj : j + 4 ≤ 16) (o l : ℕ) :
      leBitsTo4Byte mem (off + j) o l = leBitsTo4Byte mem' (off' + j) o l :=
    leBitsTo4Byte_congr (fun i hi => by
      rw [Nat.add_assoc, Nat.add_assoc]
      exact h (j + i) (by omega)) o l
  unfold rtl8723dQueryRxDescStatus
  rw [hword 8 (by omega), hword 8 (by omega), hword 4 (by omega),
    show leBitsTo4Byte mem off = leBitsTo4Byte mem' off' from
      funext fun o => funext fun l => hword 0 (by omega) o l]

namespace RxPacket

variable {p : RxPacket cfg.appFcs}

lemma length_bytes (p : RxPacket appFcs) : p.bytes.length = rnd8 (pktOffset p.attrib) := by
  have hdesc := p.length_desc
  have hdrv := p.length_drvinfo
  have hshift := p.length_shift
  have hpkt := p.length_packet
  have hpad := p.length_pad
  have halign := p.aligned
  have hlen : p.bytes.length = p.desc.length + p.drvinfo.length + p.shift.length +
      p.payload.length + p.fcs.length + p.pad.length := by
    simp only [bytes, List.length_append]
    omega
  have hrnd := rnd8_bounds (pktOffset p.attrib)
  rw [pktOffset] at *
  omega

lemma query_eq (h : Holds mem off p.bytes) : rtl8723dQueryRxDescStatus mem off = p.attrib := by
  rw [p.attrib_eq]
  refine rtl8723dQueryRxDescStatus_congr fun i hi => ?_
  have hlen := p.length_desc
  rw [Nat.zero_add]
  exact h.left i (by omega)

/-- The walk takes the packet's payload for its data, or the FCS with it for a monitor. -/
lemma slice_eq (h : Holds mem off p.bytes) :
    slice mem (off + 24 + p.attrib.drvinfoSz + p.attrib.shiftSz) (cutLen cfg p.attrib) =
      (p.handed cfg).2 := by
  have hdesc := h.right
  rw [p.length_desc] at hdesc
  have hdrv := hdesc.right
  rw [p.length_drvinfo] at hdrv
  have hpacket := hdrv.right
  rw [p.length_shift] at hpacket
  have hfcs := p.length_fcs
  have hlen := p.length_packet
  have hpkt := (pktOffset_le (fun i => p.desc.getD i 0) 0).1
  rw [← p.attrib_eq] at hpkt
  have hcut : cutLen cfg p.attrib =
      if cfg.monitor then (p.payload ++ p.fcs).length else p.payload.length := by
    rw [cutLen, cutsFcs]
    rw [List.length_append]
    by_cases happ : cfg.appFcs = true <;> cases hmon : cfg.monitor <;>
      cases hc2h : p.attrib.c2h <;> simp [hc2h, happ, -List.length_eq_zero_iff] at hfcs ⊢ <;> omega
  rw [hcut, handed]
  cases hmon : cfg.monitor
  · exact hpacket.left.slice_eq
  · rw [if_pos rfl, if_pos rfl]
    rw [← List.append_assoc] at hpacket
    exact hpacket.left.slice_eq

end RxPacket

/-- A pass over a packet. -/
lemma recvPass_packet {p : RxPacket cfg.appFcs} (hstep : InStep len s)
    (hmem : Holds mem s.pbuf p.bytes) (hlen : s.pbuf + p.bytes.length ≤ len) :
    (p.passed cfg s.pkts = false ∧
      ∃ s', recvPass cfg mem s = .inl s' ∧ s'.delivered = s.delivered) ∨
    p.passed cfg s.pkts = true ∧ ∃ s' d,
      recvPass cfg mem s = (if s.pbuf + p.bytes.length < len then .inr s' else .inl s') ∧
      s'.delivered = s.delivered ++ [d] ∧ (d.c2h, d.data) = p.handed cfg ∧ InStep len s' ∧
      s'.pbuf = s.pbuf + p.bytes.length ∧ s'.pkts = s.pkts + 1 := by
  obtain ⟨pbuf, transferLen, pkts, delivered, reads, cuts⟩ := s
  have hcount : transferLen = len - pbuf := hstep
  have hquery : rtl8723dQueryRxDescStatus mem pbuf = p.attrib := p.query_eq hmem
  have hstepEq := step_eq mem pbuf
  have hoff := p.length_bytes
  have hrnd := rnd8_bounds (pktOffset p.attrib)
  rw [hquery] at hstepEq
  rw [recvPass, RxPacket.passed, RxPacket.wanted]
  dsimp only at hlen ⊢
  rw [hquery]
  by_cases hframe : cfg.frame pkts = true
  swap
  · rw [if_neg hframe]
    exact .inl ⟨by simp [hframe], _, rfl, rfl⟩
  rw [if_pos hframe]
  by_cases herr : errored cfg p.attrib = true
  · rw [if_pos herr]
    exact .inl ⟨by simp [herr], _, rfl, rfl⟩
  rw [if_neg herr]
  by_cases hzero : p.attrib.pktLen = 0
  · rw [if_pos (.inl hzero)]
    exact .inl ⟨by simp [hzero], _, rfl, rfl⟩
  rw [if_neg (by rw [not_or]; exact ⟨hzero, by omega⟩)]
  rw [recvPassDeliver]
  dsimp only
  by_cases halloc : rtwOsAllocRecvframe cfg pkts p.attrib = true
  swap
  · rw [if_neg halloc]
    exact .inl ⟨by simp [halloc], _, rfl, rfl⟩
  rw [if_pos halloc, hstepEq, ← hoff]
  have hmore : 0 < transferLen - (p.bytes.length : ℤ) ↔ pbuf + p.bytes.length < len := by omega
  simp only [hmore]
  refine .inr ⟨by simp [hframe, herr, hzero, halloc], _, _, rfl, rfl, ?_, ?_, rfl, rfl⟩
  · rw [p.slice_eq hmem]
    rfl
  · rw [InStep]
    dsimp only
    omega

/-- At the end of the transfer nothing more is handed on. -/
lemma recvPass_end {c : RxCfg} {m : ℕ → UInt8} (hend : s.transferLen ≤ 0) :
    ∃ s', recvPass c m s = .inl s' ∧ s'.delivered = s.delivered := by
  rw [recvPass]
  dsimp only
  split
  · split
    · exact ⟨_, rfl, rfl⟩
    · have hpos : 24 ≤ pktOffset (rtl8723dQueryRxDescStatus m s.pbuf) := by
        rw [pktOffset]
        omega
      rw [if_pos (.inr (by omega))]
      exact ⟨_, rfl, rfl⟩
  · exact ⟨_, rfl, rfl⟩

/-- The walk over some packets. -/
lemma run_packets {l : ℕ} {n : ℕ} {ps : List (RxPacket cfg.appFcs)} (hstep : InStep l s)
    (hmem : Holds mem s.pbuf (transfer ps)) (hlen : s.pbuf + (transfer ps).length = l)
    (hn : s.transferLen.toNat < n) :
    ∃ s', Loop.run (recvPass cfg mem) n s = some s' ∧
      s'.delivered.map (fun d => (d.c2h, d.data)) =
        s.delivered.map (fun d => (d.c2h, d.data)) ++ handedOn cfg s.pkts ps := by
  induction ps generalizing n s with
  | nil =>
      obtain ⟨n, rfl⟩ : ∃ m, n = m + 1 := ⟨n - 1, by omega⟩
      have hcount : s.transferLen = l - s.pbuf := hstep
      obtain ⟨s', hpass, hdel⟩ := recvPass_end (c := cfg) (m := mem) (s := s) (by
        rw [hcount, ← hlen]
        simp [transfer])
      exact ⟨s', by rw [Loop.run, hpass], by rw [hdel, handedOn, List.append_nil]⟩
  | cons p ps ih =>
      obtain ⟨n, rfl⟩ : ∃ m, n = m + 1 := ⟨n - 1, by omega⟩
      have hcount : s.transferLen = l - s.pbuf := hstep
      have hcons : transfer (p :: ps) = p.bytes ++ transfer ps := rfl
      rw [hcons] at hmem hlen
      rw [List.length_append] at hlen
      have hpos : 0 < p.bytes.length := by
        have := p.length_desc
        simp only [RxPacket.bytes, List.length_append]
        omega
      rw [handedOn]
      rcases recvPass_packet hstep hmem.left (by omega) with ⟨hstop, s', hpass, hdel⟩ |
        ⟨hgo, s', d, hpass, hdel, hd, hstep', hpbuf, hpkts⟩
      · exact ⟨s', by rw [Loop.run, hpass], by simp [hstop, hdel]⟩
      · rw [if_pos hgo]
        have hcount' : s'.transferLen = l - s'.pbuf := hstep'
        rw [← hpbuf] at hpass
        by_cases hmore : s'.pbuf < l
        · rw [if_pos hmore] at hpass
          obtain ⟨s'', hrun, hdel'⟩ := ih (n := n) hstep' (by rw [hpbuf]; exact hmem.right)
            (by omega) (by omega)
          refine ⟨s'', by rw [Loop.run, hpass]; exact hrun, ?_⟩
          rw [hdel', hdel, hpkts]
          simp [hd]
        · rw [if_neg hmore] at hpass
          refine ⟨s', by rw [Loop.run, hpass], ?_⟩
          have hps : ps = [] := by
            cases ps with
            | nil => rfl
            | cons q qs =>
                have hq := q.length_desc
                have hlenq : (transfer (q :: qs)).length = q.bytes.length + (transfer qs).length :=
                  List.length_append
                simp only [RxPacket.bytes, List.length_append] at hlenq hpbuf hlen hmore
                omega
          rw [hdel, hps, handedOn]
          simp [hd]

/-- What is handed on is what is wanted exactly under the condition. -/
lemma handedOn_eq_iff (cfg : RxCfg) (k : ℕ) (ps : List (RxPacket cfg.appFcs)) :
    handedOn cfg k ps = (ps.filter (·.wanted cfg)).map (·.expected) ↔ DeliverFits cfg k ps := by
  induction ps generalizing k with
  | nil => exact iff_of_true rfl trivial
  | cons p ps ih =>
      rw [handedOn, DeliverFits]
      by_cases hwanted : p.wanted cfg = true
      · rw [List.filter_cons_of_pos hwanted, if_pos hwanted, List.map_cons, ← ih]
        have hdata : p.handed cfg = p.expected ↔ (cfg.monitor = true → p.fcs = []) := by
          rw [RxPacket.handed, RxPacket.expected]
          cases cfg.monitor <;> simp
        by_cases hpassed : p.passed cfg k = true
        · rw [if_pos hpassed, List.cons.injEq, hdata]
          have hall : cfg.frame k = true ∧ p.attrib.pktLen ≠ 0 ∧
              rtwOsAllocRecvframe cfg k p.attrib = true := by
            simp only [RxPacket.passed, Bool.and_eq_true, bne_iff_ne] at hpassed
            exact ⟨hpassed.1.1.1, hpassed.1.2, hpassed.2⟩
          refine and_congr_left fun _ => ?_
          exact ⟨fun h => ⟨hall.1, hall.2.1, hall.2.2, h⟩, fun h => h.2.2.2⟩
        · rw [if_neg hpassed]
          refine iff_of_false (by simp) ?_
          rintro ⟨⟨hframe, hlen, halloc, -⟩, -⟩
          exact hpassed (by simp [RxPacket.passed, hframe, hwanted, hlen, halloc])
      · have hpassed : ¬ p.passed cfg k = true := by simp [RxPacket.passed, hwanted]
        rw [List.filter_cons_of_neg hwanted, if_neg hwanted, if_neg hpassed, eq_comm,
          List.map_eq_nil_iff, List.filter_eq_nil_iff]
        simp

lemma delivers_iff {c : RxCfg} {ps : List (RxPacket c.appFcs)} (hmem : Holds mem 0 (transfer ps)) :
    Delivers c mem ps ↔ DeliverFits c 0 ps := by
  obtain ⟨s, hrun, hdel⟩ := run_packets (n := (transfer ps).length + 1)
    (s := recvInit (transfer ps).length) (l := (transfer ps).length) (by simp [InStep, recvInit])
    hmem (by simp [recvInit]) (by simp [recvInit])
  rw [← handedOn_eq_iff]
  constructor
  · rintro ⟨s', hrun', hdel'⟩
    obtain rfl : s = s' := Option.some.inj (hrun.symm.trans hrun')
    rw [← hdel', hdel]
    rfl
  · intro heq
    refine ⟨s, hrun, ?_⟩
    rw [hdel, ← heq]
    rfl

/-- A transfer of packets is handed on, and any transfer is walked over safely, exactly under the
conditions. -/
theorem recvbuf2recvframe_iff (cfg : RxCfg) (mem : ℕ → UInt8) :
    (∀ ps : List (RxPacket cfg.appFcs), Holds mem 0 (transfer ps) →
      (Delivers cfg mem ps ↔ DeliverFits cfg 0 ps)) ∧
    ∀ len, Safe cfg mem len ↔ SafeFits cfg mem len :=
  ⟨fun _ => delivers_iff, fun _ => safe_iff⟩

/-- A normal packet of two bytes with its FCS, in error or not. -/
def shortPacket (crcErr : Bool) : RxPacket true where
  desc := [6, if crcErr then 0x40 else 0] ++ List.replicate 22 0
  drvinfo := []
  shift := []
  payload := [1, 2]
  fcs := [0, 0, 0, 0]
  pad := [0, 0]
  attrib := ⟨6, false, crcErr, false, 0, 0, false, false, 0⟩
  attrib_eq := by cases crcErr <;> decide
  length_desc := rfl
  length_drvinfo := rfl
  length_shift := rfl
  length_fcs := rfl
  length_packet := rfl
  length_pad := by decide
  aligned := by simp

/-- Not in MP mode and not a monitor, with everything available. -/
def plainCfg : RxCfg := ⟨false, false, true, fun _ => true, fun _ => true, fun _ => true⟩

lemma holds_getD (bs : List UInt8) : Holds (bs.getD · 0) 0 bs := by
  intro i _
  rw [Nat.zero_add]

/-- A packet behind one with a CRC error is lost. -/
theorem crcErr_drops_rest :
    Holds ((transfer [shortPacket true, shortPacket false]).getD · 0) 0
        (transfer [shortPacket true, shortPacket false]) ∧
      ¬ Delivers plainCfg ((transfer [shortPacket true, shortPacket false]).getD · 0)
        [shortPacket true, shortPacket false] := by
  refine ⟨holds_getD _, fun hdel => ?_⟩
  have hfits := (delivers_iff (c := plainCfg) (holds_getD _)).1 hdel
  have hrest : ∀ q ∈ [shortPacket false], q.wanted plainCfg = false := hfits
  exact absurd (hrest (shortPacket false) (by simp)) (by decide)

/-- Two packets without an error are both handed on, and nothing is read behind them. -/
theorem recvbuf2recvframe_iff_twoPackets :
    Delivers plainCfg ((transfer [shortPacket false, shortPacket false]).getD · 0)
        [shortPacket false, shortPacket false] ∧
      Safe plainCfg ((transfer [shortPacket false, shortPacket false]).getD · 0) 64 := by
  have hiff := recvbuf2recvframe_iff plainCfg
    ((transfer [shortPacket false, shortPacket false]).getD · 0)
  generalize hmem : ((transfer [shortPacket false, shortPacket false]).getD · 0) = mem at hiff
  have hfirst : rtl8723dQueryRxDescStatus mem 0 =
      ⟨6, false, false, false, 0, 0, false, false, 0⟩ := by
    rw [← hmem]
    decide
  have hsecond : rtl8723dQueryRxDescStatus mem 32 =
      ⟨6, false, false, false, 0, 0, false, false, 0⟩ := by
    rw [← hmem]
    decide
  refine ⟨(hiff.1 _ (hmem ▸ holds_getD _)).2 ?_, (hiff.2 64).2 ⟨by decide, fun a hreach => ?_⟩⟩
  · simp only [DeliverFits]
    exact ⟨⟨rfl, by decide, rfl, fun h => absurd h (by decide)⟩,
      ⟨rfl, by decide, rfl, fun h => absurd h (by decide)⟩, trivial⟩
  -- the walk comes to the two packets only
  have hplace : a = (0, 0) ∨ a = (1, 32) := by
    induction hreach with
    | refl => exact .inl rfl
    | tail _ hnext ih =>
        obtain ⟨-, -, hb, hlt⟩ := hnext
        rcases ih with rfl | rfl
        · rw [hfirst] at hb
          exact .inr hb
        · rw [hsecond] at hb
          rw [hb] at hlt
          exact absurd hlt (by decide)
  rcases hplace with rfl | rfl
  · simp [SafeAt, hfirst]
  · simp [SafeAt, hsecond]

end Rtl8723du.Usb
