import Rtl8723du.Lib.Loop
import Rtl8723du.Recv.Frame

/-!
# A-MSDUs

The body of an A-MSDU is a row of subframes: destination, source, a length of two bytes and that
many bytes of payload, padded to four bytes unless it is the last.  `amsdu_to_msdu` of
`core/rtw_recv.c` takes it apart and hands on a packet for each.

A read outside the body, or outside the packet made of a subframe, is a fault here, with which the
loop ends.  Where a subframe goes (to the host or back to the air, by `rtw_ap_rx_msdu_act_check` or
`rtw_sta_rx_amsdu_act_check`) is a parameter, and what becomes of it there is left out.
-/

namespace Rtl8723du.Amsdu

open Lib

/-! ### The code -/

/-- `MAX_SUBFRAME_COUNT`. -/
abbrev maxSubframeCount : ℕ := 64

/-- `rtw_rfc1042_header`. -/
def rtwRfc1042Header : List UInt8 := [0xAA, 0xAA, 0x03, 0x00, 0x00, 0x00]

/-- `rtw_bridge_tunnel_header`. -/
def rtwBridgeTunnelHeader : List UInt8 := [0xAA, 0xAA, 0x03, 0x00, 0x00, 0xF8]

/-- What the act check decides about a subframe. -/
structure RxMsduAct where
  /-- `RTW_RX_MSDU_ACT_INDICATE`. -/
  indicate : Bool
  /-- `RTW_RX_MSDU_ACT_FORWARD`. -/
  forward : Bool
  /-- An AP looks for a transmit queue with `rtw_os_recv_select_queue`. -/
  selectQueue : Bool
deriving DecidableEq

/-- What `amsdu_to_msdu` depends on besides the body. -/
structure AmsduCfg where
  /-- `amsdu_mode` is `RTW_AMSDU_MODE_NON_SPP`. -/
  nonSpp : Bool
  /-- `dot11PrivacyAlgrthm` is not `_NO_PRIVACY_`. -/
  privacy : Bool
  toFrDs : ℕ
  ra : List UInt8
  ta : List UInt8
  /-- The act check, of destination, source and payload, at each pass. -/
  act : ℕ → List UInt8 → List UInt8 → List UInt8 → RxMsduAct
  /-- Whether there is a packet for the subframe of each number. -/
  alloc : ℕ → Bool
  /-- The station of the frame is known. -/
  psta : Bool
  /-- `rtw_st_ctl_chk_reg_s_proto` of TCP. -/
  tcpTracked : Bool
  /-- `rtw_st_ctl_chk_reg_rule`, of the local and the remote port. -/
  regRule : List UInt8 → List UInt8 → Bool
  /-- `sink_udpport`; 0 when it is not set. -/
  sinkUdpport : ℕ

/-- `validate_amsdu_content`. -/
def validateAmsduContent (cfg : AmsduCfg) (da sa : List UInt8) : Bool :=
  !(cfg.nonSpp && cfg.privacy &&
    (cfg.toFrDs == 2 && da != cfg.ra || cfg.toFrDs == 1 && sa != cfg.ta ||
      da == rtwRfc1042Header))

/-- A big-endian field of two bytes, `RTW_GET_BE16`. -/
def be16 (bs : List UInt8) : ℕ := (bs.getD 0 0).toNat * 256 + (bs.getD 1 0).toNat

/-- `rtw_recv_llc_parse`: whether the encapsulation is removed. -/
def rtwRecvLlcParse (msdu : List UInt8) : Bool :=
  8 ≤ msdu.length &&
    (msdu.take 6 == rtwRfc1042Header && be16 (msdu.drop 6) != 0x80F3 && be16 (msdu.drop 6) != 0x8137
      || msdu.take 6 == rtwBridgeTunnelHeader)

/-- The packet that `rtw_os_alloc_msdu_pkt` makes. -/
def msduPkt (da sa msdu : List UInt8) : List UInt8 :=
  if rtwRecvLlcParse msdu then da ++ sa ++ msdu.drop 6
  else da ++ sa ++ [UInt8.ofNat (msdu.length / 256), UInt8.ofNat msdu.length] ++ msdu

/-- A read outside: of a subframe, of the type of service of its IP header, or of the headers in
the packet made of it. -/
inductive Fault where
  | subframe
  | tos
  | check
deriving DecidableEq

/-- A read inside the body. -/
def rd (body : List UInt8) (off n : ℕ) : Option (List UInt8) :=
  if off + n ≤ body.length then some ((body.drop off).take n) else none

/-- `rtw_st_ctl_rx`, as far as it reads the packet. -/
def rtwStCtlRx (cfg : AmsduCfg) (pkt : List UInt8) : Option Unit := do
  let hProto ← rd pkt 12 2
  if be16 hProto = 0x0800 then
    let protocol ← rd pkt 23 1
    if protocol = [6] && cfg.tcpTracked then
      let ihl ← rd pkt 14 1
      let tcp := 14 + (ihl.getD 0 0).toNat % 16 * 4
      let localPort ← rd pkt (tcp + 2) 2
      let remotePort ← rd pkt tcp 2
      if cfg.regRule localPort remotePort then
        let flags ← rd pkt (tcp + 13) 1
        let flag := fun mask : UInt8 => flags.getD 0 0 &&& mask != 0
        -- the addresses go into a command
        if flag 0x02 && flag 0x10 || flag 0x01 then
          let _ ← rd pkt 26 8

/-- `parsing_eapol_packet`, as far as it reads the packet. -/
def parsingEapolPacket (pkt : List UInt8) : Option Unit := do
  let type ← rd pkt 15 1
  let length ← if type = [1] then rd pkt 16 2 else some []
  if !(type = [1] && length = [0, 0]) && type ≠ [0] then
    -- `key_info` and `key_data_length`
    let _ ← rd pkt 19 2
    let _ ← rd pkt 111 2

/-- `rtw_sink_rtp_seq_dbg`, as far as it reads the packet. -/
def rtwSinkRtpSeqDbg (cfg : AmsduCfg) (pkt : List UInt8) : Option Unit := do
  let port ← rd pkt 0x24 2
  if be16 port = cfg.sinkUdpport % 65536 then
    let _ ← rd pkt 0x2C 2

/-- `rtw_recv_indicatepkt_check`, which is always `_SUCCESS`; nothing when a read is outside the
packet. -/
def rtwRecvIndicatepktCheck (cfg : AmsduCfg) (pkt : List UInt8) : Option Unit := do
  if cfg.psta then rtwStCtlRx cfg pkt
  let hProto ← rd pkt 12 2
  if be16 hProto = 0x888E then parsingEapolPacket pkt
  if 0 < cfg.sinkUdpport then rtwSinkRtpSeqDbg cfg pkt

/-- The state of the loop; `k` counts the passes. -/
structure AmsduState where
  pdata : ℕ
  aLen : ℤ
  k : ℕ
  subframes : List (List UInt8)
  forwarded : List (List UInt8)
deriving DecidableEq

/-- From `move_to_next` on. -/
def moveToNext (nSubframeLength : ℕ) (s : AmsduState) : Except Fault AmsduState ⊕ AmsduState :=
  let s : AmsduState := { s with pdata := s.pdata + 14, aLen := s.aLen - 14, k := s.k + 1 }
  if maxSubframeCount ≤ s.subframes.length then .inl (.ok s)
  else
    let s : AmsduState :=
      { s with pdata := s.pdata + nSubframeLength, aLen := s.aLen - nSubframeLength }
    if s.aLen = 0 then .inr s
    else
      let paddingLen := (4 - (nSubframeLength + 14) % 4) % 4
      if s.aLen < paddingLen then .inl (.ok s)
      else .inr { s with pdata := s.pdata + paddingLen, aLen := s.aLen - paddingLen }

/-- `rtw_os_recv_select_queue` looks at the type of service of an IP packet. -/
def selectQueueReads (body msdu : List UInt8) (off : ℕ) : Bool :=
  !(rtwRecvLlcParse msdu && be16 (msdu.drop 6) == 0x0800) || (rd body (off + 9) 1).isSome

/-- The part of a pass between the content check and `move_to_next`. -/
def handleSubframe (cfg : AmsduCfg) (body da sa msdu : List UInt8) (s : AmsduState) :
    Except Fault AmsduState ⊕ AmsduState :=
  let act := cfg.act s.k da sa msdu
  if act.selectQueue && !selectQueueReads body msdu (s.pdata + 14) then .inl (.error .tos)
  else if !act.indicate && !act.forward then moveToNext msdu.length s
  else if cfg.alloc s.k then
    if act.indicate && (rtwRecvIndicatepktCheck cfg (msduPkt da sa msdu)).isNone then
      .inl (.error .check)
    else
      moveToNext msdu.length { s with
        subframes := s.subframes ++ if act.indicate then [msduPkt da sa msdu] else []
        forwarded := s.forwarded ++ if act.forward then [msduPkt da sa msdu] else [] }
  else .inl (.ok s)

/-- A pass of the loop of `amsdu_to_msdu`. -/
def amsduPass (cfg : AmsduCfg) (body : List UInt8) (s : AmsduState) :
    Except Fault AmsduState ⊕ AmsduState :=
  if s.aLen ≤ 14 then .inl (.ok s)
  else
    match rd body (s.pdata + 12) 2 with
    | none => .inl (.error .subframe)
    | some len =>
        if s.aLen < 14 + be16 len then .inl (.ok s)
        else
          match rd body s.pdata 6, rd body (s.pdata + 6) 6, rd body (s.pdata + 14) (be16 len) with
          | some da, some sa, some msdu =>
              if validateAmsduContent cfg da sa then handleSubframe cfg body da sa msdu s
              else .inl (.ok s)
          | _, _, _ => .inl (.error .subframe)

/-- `amsdu_to_msdu` of a body; there is a result if the loop ends. -/
def amsduToMsdu (cfg : AmsduCfg) (body : List UInt8) : Option (Except Fault AmsduState) :=
  Loop.run (amsduPass cfg body) (body.length + 1) ⟨0, body.length, 0, [], []⟩

/-! ### Bodies of subframes -/

/-- A subframe, and the padding it has when another follows. -/
structure Subframe where
  da : MacAddr
  sa : MacAddr
  payload : List UInt8
  pad : List UInt8
  short : payload.length < 65536
  length_pad : pad.length = (4 - (payload.length + 14) % 4) % 4

namespace Subframe

/-- The bytes without the padding. -/
def bytes (x : Subframe) : List UInt8 :=
  x.da.toList ++ (x.sa.toList ++
    ([UInt8.ofNat (x.payload.length / 256), UInt8.ofNat x.payload.length] ++ x.payload))

/-- The packet that is to be handed on. -/
def pkt (x : Subframe) : List UInt8 := msduPkt x.da.toList x.sa.toList x.payload

/-- What is decided about the subframe at a pass. -/
def act (cfg : AmsduCfg) (k : ℕ) (x : Subframe) : RxMsduAct :=
  cfg.act k x.da.toList x.sa.toList x.payload

/-- The subframe passes the content check. -/
def valid (cfg : AmsduCfg) (x : Subframe) : Bool :=
  validateAmsduContent cfg x.da.toList x.sa.toList

/-- The subframe is dealt with as decided, or not at all. -/
def passes (cfg : AmsduCfg) (k : ℕ) (x : Subframe) : Bool :=
  x.valid cfg && (!(x.act cfg k).indicate && !(x.act cfg k).forward || cfg.alloc k)

end Subframe

/-- The body of some subframes. -/
def encode : List Subframe → List UInt8
  | [] => []
  | [x] => x.bytes
  | x :: y :: xs => x.bytes ++ (x.pad ++ encode (y :: xs))

/-- The subframes up to the first that fails the content check or for which there is no packet,
with the numbers of their passes. -/
def passed (cfg : AmsduCfg) : ℕ → List Subframe → List (ℕ × Subframe)
  | _, [] => []
  | k, x :: xs => if x.passes cfg k then (k, x) :: passed cfg (k + 1) xs else []

/-- The packets of the subframes that are to go to the host. -/
def indicated (cfg : AmsduCfg) (l : List (ℕ × Subframe)) : List (List UInt8) :=
  (l.filter fun x => (x.2.act cfg x.1).indicate).map fun x => x.2.pkt

/-- The packets of those that are to go back to the air. -/
def forwards (cfg : AmsduCfg) (l : List (ℕ × Subframe)) : List (List UInt8) :=
  (l.filter fun x => (x.2.act cfg x.1).forward).map fun x => x.2.pkt

/-- The headers that are looked at in a subframe at a pass are inside it: the type of service of an
IP packet for which a transmit queue is looked for, and those of a packet to the host. -/
def HeadersInside (cfg : AmsduCfg) (k : ℕ) (da sa msdu : List UInt8) : Prop :=
  ((cfg.act k da sa msdu).selectQueue = true → rtwRecvLlcParse msdu = true →
      be16 (msdu.drop 6) = 0x0800 → 10 ≤ msdu.length) ∧
    ((cfg.act k da sa msdu).indicate = true →
      (rtwRecvIndicatepktCheck cfg (msduPkt da sa msdu)).isSome = true)

/-- The parts of the subframe at a place of a body, if it is there as its length says. -/
def subframeAt (body : List UInt8) (off : ℕ) : Option (List UInt8 × List UInt8 × List UInt8) :=
  let len := be16 (body.drop (off + 12))
  if off + 14 < body.length ∧ off + 14 + len ≤ body.length then
    some ((body.drop off).take 6, (body.drop (off + 6)).take 6, (body.drop (off + 14)).take len)
  else none

/-- The subframes of a body, from a place on, by their lengths. -/
def subframesFrom (body : List UInt8) : ℕ → ℕ → List (List UInt8 × List UInt8 × List UInt8)
  | 0, _ => []
  | n + 1, off =>
      match subframeAt body off with
      | none => []
      | some x =>
          let next := off + 14 + x.2.2.length
          let pad := if next = body.length then 0 else (4 - (x.2.2.length + 14) % 4) % 4
          x :: subframesFrom body n (next + pad)

/-- The subframes that the lengths in a body give. -/
def subframesOf (body : List UInt8) : List (List UInt8 × List UInt8 × List UInt8) :=
  subframesFrom body (body.length + 1) 0

/-! ### Any body -/

variable {cfg : AmsduCfg} {body da sa msdu : List UInt8} {s : AmsduState} {n : ℕ}

/-- The counter of what remains fits the place in the body. -/
structure InStep (body : List UInt8) (s : AmsduState) : Prop where
  sum : s.pdata + s.aLen = body.length
  nonneg : 0 ≤ s.aLen

lemma be16_take (bs : List UInt8) : be16 (bs.take 2) = be16 bs := by
  simp only [be16, List.getD_eq_getElem?_getD, List.getElem?_take_of_lt (show 0 < 2 by decide),
    List.getElem?_take_of_lt (show 1 < 2 by decide)]

lemma rd_eq {o : ℕ} (h : o + n ≤ body.length) :
    rd body o n = some ((body.drop o).take n) := if_pos h

/-- Where the next subframe begins, when the one at hand has `n` bytes of payload. -/
def nextPlace (body : List UInt8) (off n : ℕ) : ℕ :=
  off + 14 + n + if off + 14 + n = body.length then 0 else (4 - (n + 14) % 4) % 4

/-- What a pass, or a part of it, comes to where `da`, `sa` and `msdu` are the subframe at hand:
without a read of a subframe outside the body, and with one of a header outside only if that is not
inside the subframe. -/
inductive Fine (cfg : AmsduCfg) (body : List UInt8) (s : AmsduState) (da sa msdu : List UInt8) :
    Except Fault AmsduState ⊕ AmsduState → Prop
  | done (s' : AmsduState) : Fine cfg body s da sa msdu (.inl (.ok s'))
  | next {s' : AmsduState} (h : InStep body s') (hless : s'.aLen < s.aLen) (hk : s'.k = s.k + 1)
      (hplace : s'.pdata = nextPlace body s.pdata msdu.length) :
      Fine cfg body s da sa msdu (.inr s')
  | header (fault : Fault) (hfault : fault ≠ .subframe)
      (h : ¬ HeadersInside cfg s.k da sa msdu) : Fine cfg body s da sa msdu (.inl (.error fault))

/-- Going on to the next subframe, or ending. -/
lemma fine_moveToNext {s₀ : AmsduState} (h : InStep body s) (h₀ : s.aLen = s₀.aLen)
    (hk : s.k = s₀.k) (hp : s.pdata = s₀.pdata) :
    Fine cfg body s₀ da sa msdu (moveToNext msdu.length s) := by
  have hsum := h.sum
  unfold moveToNext
  dsimp only
  split
  · exact .done _
  split
  · next hend =>
      refine .next ⟨?_, ?_⟩ ?_ ?_ ?_ <;> dsimp only
      · omega
      · omega
      · omega
      · rw [hk]
      · rw [nextPlace, if_pos (by omega), hp]
        rfl
  · next hmore =>
      split
      · exact .done _
      · refine .next ⟨?_, ?_⟩ ?_ ?_ ?_ <;> dsimp only
        · omega
        · omega
        · omega
        · rw [hk]
        · rw [nextPlace, if_neg (by omega), hp]

/-- The type of service is in the body, or the packet ends before it. -/
lemma selectQueueReads_of_inside {off : ℕ} (hfits : off + msdu.length ≤ body.length)
    (h : rtwRecvLlcParse msdu = true → be16 (msdu.drop 6) = 0x0800 → 10 ≤ msdu.length) :
    selectQueueReads body msdu off = true := by
  rw [selectQueueReads, Bool.or_eq_true, Bool.not_eq_true', Bool.and_eq_false_imp]
  by_cases hip : rtwRecvLlcParse msdu = true ∧ be16 (msdu.drop 6) = 0x0800
  · right
    have hlen := h hip.1 hip.2
    rw [rd_eq (by omega)]
    rfl
  · left
    intro hllc
    simpa using fun heq => hip ⟨hllc, heq⟩

/-- A subframe is dealt with. -/
lemma fine_handleSubframe (h : InStep body s) (hn : 14 + (msdu.length : ℤ) ≤ s.aLen) :
    Fine cfg body s da sa msdu (handleSubframe cfg body da sa msdu s) := by
  have hsum := h.sum
  unfold handleSubframe
  dsimp only
  split
  · next hfault =>
      rw [Bool.and_eq_true, Bool.not_eq_true'] at hfault
      refine .header .tos (by decide) fun hin => ?_
      rw [selectQueueReads_of_inside (by omega) (hin.1 hfault.1)] at hfault
      exact absurd hfault.2 (by decide)
  split
  · exact fine_moveToNext h rfl rfl rfl
  split
  · split
    · next hfault =>
        rw [Bool.and_eq_true] at hfault
        refine .header .check (by decide) fun hin => ?_
        rw [Option.isNone_iff_eq_none] at hfault
        have hsome := hin.2 hfault.1
        rw [hfault.2] at hsome
        exact absurd hsome (by decide)
    · refine fine_moveToNext (s := { s with
        subframes := s.subframes ++ _, forwarded := s.forwarded ++ _ }) ⟨h.sum, h.nonneg⟩ ?_ ?_ ?_
      all_goals rfl
  · exact .done s

/-- A pass ends the loop, or deals with the subframe that is at its place. -/
lemma fine_amsduPass {c : AmsduCfg} (h : InStep body s) :
    (∃ s', amsduPass c body s = .inl (.ok s')) ∨
      ∃ da sa msdu, subframeAt body s.pdata = some (da, sa, msdu) ∧
        Fine c body s da sa msdu (amsduPass c body s) := by
  have hsum := h.sum
  unfold amsduPass
  split
  · exact .inl ⟨s, rfl⟩
  rename_i hlong
  rw [rd_eq (o := s.pdata + 12) (by omega)]
  dsimp only
  rw [be16_take]
  split
  · exact .inl ⟨s, rfl⟩
  rename_i hfits
  rw [rd_eq (o := s.pdata) (by omega), rd_eq (o := s.pdata + 6) (by omega),
    rd_eq (o := s.pdata + 14) (by omega)]
  dsimp only
  refine .inr ⟨_, _, _, if_pos ⟨by omega, by omega⟩, ?_⟩
  split
  · refine fine_handleSubframe h ?_
    rw [List.length_take, List.length_drop]
    omega
  · exact .done s

/-- The loop ends; a read outside is one of a header, in a subframe of the body that does not have
it. -/
lemma run_amsduPass (h : InStep body s) (hn : s.aLen.toNat < n) :
    (∃ s', Loop.run (amsduPass cfg body) n s = some (.ok s')) ∨
      ∃ fault, fault ≠ .subframe ∧ Loop.run (amsduPass cfg body) n s = some (.error fault) ∧
        ∃ j da sa msdu, (subframesFrom body n s.pdata)[j]? = some (da, sa, msdu) ∧
          ¬ HeadersInside cfg (s.k + j) da sa msdu := by
  induction n generalizing s with
  | zero => exact absurd hn (Nat.not_lt_zero _)
  | succ n ih =>
      rw [Loop.run]
      rcases fine_amsduPass (c := cfg) h with ⟨s', hdone⟩ | ⟨da, sa, msdu, hat, hfine⟩
      · rw [hdone]
        exact .inl ⟨s', rfl⟩
      have hfrom : subframesFrom body (n + 1) s.pdata =
          (da, sa, msdu) :: subframesFrom body n (nextPlace body s.pdata msdu.length) := by
        rw [subframesFrom, hat]
        rfl
      generalize amsduPass cfg body s = r at hfine ⊢
      cases hfine with
      | done s' => exact .inl ⟨s', rfl⟩
      | next h' hless hk hplace =>
          have hpos := h.nonneg
          have hpos' := h'.nonneg
          rcases ih h' (by omega) with hok | ⟨fault, hfault, hrun, j, da', sa', msdu', hj, hout⟩
          · exact .inl hok
          · refine .inr ⟨fault, hfault, hrun, j + 1, da', sa', msdu', ?_, ?_⟩
            · rw [hfrom, List.getElem?_cons_succ, ← hplace]
              exact hj
            · rwa [hk, Nat.add_assoc, Nat.add_comm 1] at hout
      | header fault hfault hout =>
          exact .inr ⟨fault, hfault, rfl, 0, da, sa, msdu, by rw [hfrom]; rfl, hout⟩

/-- Where the first subframe fails the content check, the first pass ends the loop. -/
lemma amsduPass_of_invalid (h0 : s.pdata = 0) (hlen : s.aLen = body.length)
    (hbad : validateAmsduContent cfg (body.take 6) ((body.drop 6).take 6) = false) :
    amsduPass cfg body s = .inl (.ok s) := by
  unfold amsduPass
  split
  · rfl
  rw [rd_eq (o := s.pdata + 12) (by omega)]
  dsimp only
  split
  · rfl
  rw [rd_eq (o := s.pdata) (by omega), rd_eq (o := s.pdata + 6) (by omega),
    rd_eq (o := s.pdata + 14) (by omega), h0]
  dsimp only
  rw [Nat.zero_add, List.drop_zero, hbad]
  rfl

/-! ### Long packets -/

section Long

variable {pkt : List UInt8}

lemma rd_of_long {o : ℕ} (hpkt : 113 ≤ pkt.length) (h : o + n ≤ 113) :
    ∃ l, rd pkt o n = some l := ⟨_, rd_eq (h.trans hpkt)⟩

/-- The header of TCP begins behind at most 60 bytes of IP. -/
lemma isSome_rtwStCtlRx (h : 113 ≤ pkt.length) : (rtwStCtlRx cfg pkt).isSome = true := by
  obtain ⟨hProto, hproto⟩ := rd_of_long (o := 12) (n := 2) h (by decide)
  obtain ⟨protocol, hprotocol⟩ := rd_of_long (o := 23) (n := 1) h (by decide)
  obtain ⟨ihl, hihl⟩ := rd_of_long (o := 14) (n := 1) h (by decide)
  have htcp : (ihl.getD 0 0).toNat % 16 * 4 ≤ 60 := by omega
  obtain ⟨l, hlocal⟩ := rd_of_long (o := 14 + (ihl.getD 0 0).toNat % 16 * 4 + 2) (n := 2) h
    (by omega)
  obtain ⟨r, hremote⟩ := rd_of_long (o := 14 + (ihl.getD 0 0).toNat % 16 * 4) (n := 2) h
    (by omega)
  obtain ⟨flags, hflags⟩ := rd_of_long (o := 14 + (ihl.getD 0 0).toNat % 16 * 4 + 13) (n := 1) h
    (by omega)
  obtain ⟨addresses, haddresses⟩ := rd_of_long (o := 26) (n := 8) h (by decide)
  simp only [rtwStCtlRx, hproto, hprotocol, hihl, hlocal, hremote, hflags, haddresses,
    Option.bind_eq_bind, Option.bind_some]
  repeat' split
  all_goals rfl

lemma isSome_parsingEapolPacket (h : 113 ≤ pkt.length) :
    (parsingEapolPacket pkt).isSome = true := by
  obtain ⟨type, htype⟩ := rd_of_long (o := 15) (n := 1) h (by decide)
  obtain ⟨length, hlength⟩ := rd_of_long (o := 16) (n := 2) h (by decide)
  obtain ⟨keyInfo, hinfo⟩ := rd_of_long (o := 19) (n := 2) h (by decide)
  obtain ⟨keyData, hdata⟩ := rd_of_long (o := 111) (n := 2) h (by decide)
  simp only [parsingEapolPacket, htype, hlength, hinfo, hdata, Option.bind_eq_bind,
    Option.bind_some]
  repeat' split
  all_goals rfl

lemma isSome_rtwSinkRtpSeqDbg (h : 113 ≤ pkt.length) :
    (rtwSinkRtpSeqDbg cfg pkt).isSome = true := by
  obtain ⟨port, hport⟩ := rd_of_long (o := 0x24) (n := 2) h (by decide)
  obtain ⟨seq, hseq⟩ := rd_of_long (o := 0x2C) (n := 2) h (by decide)
  simp only [rtwSinkRtpSeqDbg, hport, hseq, Option.bind_eq_bind, Option.bind_some]
  split <;> rfl

/-- Every header is inside a packet of 113 bytes; those of an EAPOL key end there. -/
lemma isSome_rtwRecvIndicatepktCheck (h : 113 ≤ pkt.length) :
    (rtwRecvIndicatepktCheck cfg pkt).isSome = true := by
  obtain ⟨_, hctl⟩ := Option.isSome_iff_exists.1
    (isSome_rtwStCtlRx h : (rtwStCtlRx cfg pkt).isSome = true)
  obtain ⟨_, heapol⟩ := Option.isSome_iff_exists.1 (isSome_parsingEapolPacket h)
  obtain ⟨_, hsink⟩ := Option.isSome_iff_exists.1
    (isSome_rtwSinkRtpSeqDbg h : (rtwSinkRtpSeqDbg cfg pkt).isSome = true)
  obtain ⟨hProto, hproto⟩ := rd_of_long (o := 12) (n := 2) h (by decide)
  simp only [rtwRecvIndicatepktCheck, hctl, heapol, hsink, hproto, Option.bind_eq_bind,
    Option.bind_some]
  repeat' split
  all_goals rfl

lemma headersInside_of_long (k : ℕ) (hda : da.length = 6) (hsa : sa.length = 6)
    (h : 107 ≤ msdu.length) : HeadersInside cfg k da sa msdu := by
  refine ⟨fun _ _ _ => by omega, fun _ => isSome_rtwRecvIndicatepktCheck ?_⟩
  unfold msduPkt
  split
  · simp only [List.length_append, List.length_drop]
    omega
  · simp only [List.length_append, List.length_cons]
    omega

end Long

/-! ### Well-formed bodies -/

variable {x : Subframe} {xs : List Subframe} {pre rest : List UInt8}

@[simp] lemma Subframe.length_bytes (x : Subframe) : x.bytes.length = 14 + x.payload.length := by
  simp [bytes]
  omega

/-- What follows the bytes of a subframe. -/
lemma encode_cons (x : Subframe) (xs : List Subframe) :
    encode (x :: xs) = x.bytes ++ if xs = [] then [] else x.pad ++ encode xs := by
  cases xs with
  | nil => simp [encode]
  | cons y ys => simp [encode]

lemma lt_length_encode (h : xs ≠ []) : 0 < (encode xs).length := by
  obtain ⟨y, ys, rfl⟩ := List.exists_cons_of_ne_nil h
  rw [encode_cons, List.length_append, Subframe.length_bytes]
  omega

lemma be16_length (h : n < 65536) : be16 [UInt8.ofNat (n / 256), UInt8.ofNat n] = n := by
  have hhigh : (n / 256) % 2 ^ 8 = n / 256 := Nat.mod_eq_of_lt (by omega)
  simp only [be16, List.getD_cons_zero, List.getD_cons_succ, UInt8.toNat_ofNat', hhigh]
  omega

lemma rd_append {p l r : List UInt8} {off : ℕ} (h : body = p ++ (l ++ r)) (hp : p.length = off)
    (hl : l.length = n) : rd body off n = some l := by
  subst h hp hl
  rw [rd_eq (by simp), List.drop_left, List.take_left]

/-- A pass takes the subframe that it finds. -/
lemma amsduPass_append {c : AmsduCfg} (hbody : body = pre ++ (x.bytes ++ rest))
    (hp : s.pdata = pre.length) (ha : s.aLen = (x.bytes ++ rest).length)
    (hne : x.payload = [] → rest ≠ []) :
    amsduPass c body s =
      if x.valid c then handleSubframe c body x.da.toList x.sa.toList x.payload s
      else .inl (.ok s) := by
  rw [List.length_append, Subframe.length_bytes] at ha
  have hlong : ¬ s.aLen ≤ 14 := by
    have hpos : 0 < x.payload.length + rest.length := by
      rcases eq_or_ne x.payload [] with h | h
      · have := List.length_pos_of_ne_nil (hne h)
        omega
      · have := List.length_pos_of_ne_nil h
        omega
    omega
  have hlen : rd body (s.pdata + 12) 2 =
      some [UInt8.ofNat (x.payload.length / 256), UInt8.ofNat x.payload.length] :=
    rd_append (p := pre ++ (x.da.toList ++ x.sa.toList)) (r := x.payload ++ rest)
      (by simp [hbody, Subframe.bytes]) (by simp [hp]) rfl
  have hda : rd body s.pdata 6 = some x.da.toList :=
    rd_append (by simp only [hbody, Subframe.bytes, List.append_assoc]; rfl) hp.symm (by simp)
  have hsa : rd body (s.pdata + 6) 6 = some x.sa.toList :=
    rd_append (p := pre ++ x.da.toList)
      (by simp only [hbody, Subframe.bytes, List.append_assoc]; rfl) (by simp [hp]) (by simp)
  have hmsdu : rd body (s.pdata + 14) x.payload.length = some x.payload :=
    rd_append (p := pre ++ (x.da.toList ++ (x.sa.toList ++
      [UInt8.ofNat (x.payload.length / 256), UInt8.ofNat x.payload.length]))) (r := rest)
      (by simp [hbody, Subframe.bytes]) (by simp [hp]) rfl
  have hbe := be16_length x.short
  unfold amsduPass
  rw [if_neg hlong, hlen]
  dsimp only
  rw [hbe, if_neg (by omega), hda, hsa, hmsdu]
  rfl

/-- The state after a subframe, but for its place. -/
def Subframe.take (cfg : AmsduCfg) (x : Subframe) (s : AmsduState) : AmsduState :=
  { s with
    subframes := s.subframes ++ if (x.act cfg s.k).indicate then [x.pkt] else []
    forwarded := s.forwarded ++ if (x.act cfg s.k).forward then [x.pkt] else [] }

/-- A subframe is taken, or the loop ends before it. -/
lemma handleSubframe_eq (hfits : s.pdata + 14 + x.payload.length ≤ body.length)
    (ht : HeadersInside cfg s.k x.da.toList x.sa.toList x.payload) (hvalid : x.valid cfg = true) :
    handleSubframe cfg body x.da.toList x.sa.toList x.payload s =
      if x.passes cfg s.k then moveToNext x.payload.length (x.take cfg s) else .inl (.ok s) := by
  have hreads : ¬ ((x.act cfg s.k).selectQueue &&
      !selectQueueReads body x.payload (s.pdata + 14)) = true := by
    intro hfault
    rw [Bool.and_eq_true, Bool.not_eq_true'] at hfault
    rw [selectQueueReads_of_inside hfits (ht.1 hfault.1)] at hfault
    exact absurd hfault.2 (by decide)
  have hcheck : ¬ ((x.act cfg s.k).indicate &&
      (rtwRecvIndicatepktCheck cfg (msduPkt x.da.toList x.sa.toList x.payload)).isNone) = true := by
    intro hfault
    rw [Bool.and_eq_true, Option.isNone_iff_eq_none] at hfault
    have hsome := ht.2 hfault.1
    rw [hfault.2] at hsome
    exact absurd hsome (by decide)
  unfold handleSubframe
  dsimp only
  rw [show cfg.act s.k x.da.toList x.sa.toList x.payload = x.act cfg s.k from rfl, if_neg hreads,
    if_neg hcheck]
  by_cases hnone : (!(x.act cfg s.k).indicate && !(x.act cfg s.k).forward) = true
  · rw [if_pos hnone, if_pos (by simp [Subframe.passes, hvalid, hnone])]
    rw [Bool.and_eq_true, Bool.not_eq_true', Bool.not_eq_true'] at hnone
    simp [Subframe.take, hnone.1, hnone.2]
  · rw [if_neg hnone]
    simp only [Subframe.passes, hvalid, Bool.true_and, Bool.eq_false_of_not_eq_true hnone,
      Bool.false_or]
    rfl

/-- After a subframe the next one is in place, if the list of packets is not full. -/
lemma moveToNext_eq (hp : s.pdata = pre.length) (ha : s.aLen = (encode (x :: xs)).length)
    (hroom : s.subframes.length < maxSubframeCount) :
    moveToNext x.payload.length s = .inr { s with
      pdata := (pre ++ (x.bytes ++ if xs = [] then [] else x.pad)).length
      aLen := (encode xs).length
      k := s.k + 1 } := by
  rw [encode_cons] at ha
  have hpad := x.length_pad
  unfold moveToNext
  dsimp only
  rw [if_neg (by omega)]
  by_cases hxs : xs = []
  · simp only [hxs, if_true, List.append_nil, Subframe.length_bytes, List.length_append] at ha ⊢
    rw [if_pos (by omega)]
    simp [encode]
    omega
  · have hlt := lt_length_encode hxs
    simp only [hxs, if_false, List.length_append, Subframe.length_bytes] at ha ⊢
    rw [if_neg (by omega), if_neg (by omega)]
    simp only [Sum.inr.injEq, AmsduState.mk.injEq, and_true]
    omega

/-- The loop ends when the list of packets is full. -/
lemma moveToNext_of_full (n : ℕ) (hfull : maxSubframeCount ≤ s.subframes.length) :
    ∃ s', moveToNext n s = .inl (.ok s') ∧ s'.subframes = s.subframes ∧
      s'.forwarded = s.forwarded := by
  unfold moveToNext
  dsimp only
  rw [if_pos hfull]
  exact ⟨_, rfl, rfl, rfl⟩

lemma passed_cons (k : ℕ) (x : Subframe) (xs : List Subframe) :
    passed cfg k (x :: xs) = if x.passes cfg k then (k, x) :: passed cfg (k + 1) xs else [] := rfl

/-- The last of some subframes has a payload. -/
def Ends (xs : List Subframe) : Prop := ∀ x ∈ xs.getLast?, x.payload ≠ []

lemma Ends.tail (h : Ends (x :: xs)) : Ends xs := by
  intro y hy
  cases xs with
  | nil => exact absurd hy (by simp)
  | cons z zs => exact h y (by simpa using hy)

lemma length_take_subframes (cfg : AmsduCfg) (x : Subframe) (s : AmsduState) :
    (x.take cfg s).subframes.length ≤ s.subframes.length + 1 := by
  rw [Subframe.take, List.length_append]
  split <;> simp

/-- The packet of a subframe, and those of the subframes after it. -/
lemma append_indicated (l : List (List UInt8)) (k : ℕ) (x : Subframe) (q : List (ℕ × Subframe)) :
    (l ++ if (x.act cfg k).indicate then [x.pkt] else []) ++ indicated cfg q =
      l ++ indicated cfg ((k, x) :: q) := by
  by_cases h : (x.act cfg k).indicate = true
  · simp [indicated, h]
  · simp [indicated, h]

lemma append_forwards (l : List (List UInt8)) (k : ℕ) (x : Subframe) (q : List (ℕ × Subframe)) :
    (l ++ if (x.act cfg k).forward then [x.pkt] else []) ++ forwards cfg q =
      l ++ forwards cfg ((k, x) :: q) := by
  by_cases h : (x.act cfg k).forward = true
  · simp [forwards, h]
  · simp [forwards, h]

/-- From subframe to subframe. -/
lemma run_encode {a : List UInt8} (hends : Ends xs)
    (ht : ∀ j x, xs[j]? = some x →
      HeadersInside cfg (s.k + j) x.da.toList x.sa.toList x.payload)
    (hbody : body = a ++ encode xs) (hp : s.pdata = a.length)
    (ha : s.aLen = (encode xs).length) (hroom : s.subframes.length + xs.length ≤ maxSubframeCount)
    (hn : xs.length < n) :
    ∃ s', Loop.run (amsduPass cfg body) n s = some (.ok s') ∧
      s'.subframes = s.subframes ++ indicated cfg (passed cfg s.k xs) ∧
      s'.forwarded = s.forwarded ++ forwards cfg (passed cfg s.k xs) := by
  obtain ⟨n, rfl⟩ := Nat.exists_eq_add_one_of_ne_zero (Nat.ne_of_gt (Nat.zero_lt_of_lt hn))
  induction xs generalizing a s n with
  | nil =>
      refine ⟨s, ?_, by simp [passed, indicated], by simp [passed, forwards]⟩
      have hdone : amsduPass cfg body s = .inl (.ok s) := by
        refine if_pos ?_
        rw [ha]
        decide
      rw [Loop.run, hdone]
  | cons x xs ih =>
      have henc := encode_cons x xs
      have hne : x.payload = [] → (if xs = [] then [] else x.pad ++ encode xs) ≠ [] := by
        intro hnil
        by_cases hxs : xs = []
        · exact absurd hnil (hends x (by simp [hxs]))
        · have := lt_length_encode hxs
          rw [if_neg hxs]
          rintro hcontra
          simp [(List.append_eq_nil_iff.1 hcontra).2] at this
      have hpass := amsduPass_append (c := cfg) (hbody.trans (by rw [henc])) hp
        (by rw [ha, henc]) hne
      have hfits : s.pdata + 14 + x.payload.length ≤ body.length := by
        rw [hbody, henc, hp]
        simp only [List.length_append, Subframe.length_bytes]
        omega
      rw [Loop.run, hpass, passed_cons]
      by_cases hvalid : x.valid cfg = true
      · rw [if_pos hvalid, handleSubframe_eq hfits (ht 0 x rfl) hvalid]
        by_cases hpasses : x.passes cfg s.k = true
        · rw [if_pos hpasses, if_pos hpasses]
          have hlen : (x.take cfg s).subframes.length + xs.length ≤ maxSubframeCount := by
            have := length_take_subframes cfg x s
            rw [List.length_cons] at hroom
            omega
          by_cases hfull : (x.take cfg s).subframes.length < maxSubframeCount
          · have hcons : 1 ≤ n := by
              rw [List.length_cons] at hn
              omega
            obtain ⟨n, rfl⟩ := Nat.exists_eq_add_of_le' hcons
            rw [moveToNext_eq (s := x.take cfg s) hp ha hfull]
            obtain ⟨s', hrun, hsub, hfwd⟩ := ih hends.tail
              (a := a ++ (x.bytes ++ if xs = [] then [] else x.pad))
              (s := { x.take cfg s with
                pdata := (a ++ (x.bytes ++ if xs = [] then [] else x.pad)).length
                aLen := (encode xs).length
                k := s.k + 1 })
              (fun j y hy => by
                have hlater := ht (j + 1) y (by rwa [List.getElem?_cons_succ])
                rwa [← Nat.add_assoc, Nat.add_right_comm] at hlater)
              (by
                rw [hbody, henc]
                by_cases hxs : xs = []
                · simp [hxs, encode]
                · simp [hxs])
              rfl rfl hlen n (Nat.lt_of_succ_lt_succ hn)
            refine ⟨s', hrun, hsub.trans ?_, hfwd.trans ?_⟩
            · exact append_indicated s.subframes s.k x _
            · exact append_forwards s.forwarded s.k x _
          · -- the list of packets is full: this is the last subframe
            obtain rfl : xs = [] := List.length_eq_zero_iff.1 (by omega)
            obtain ⟨s', hmove, hsub, hfwd⟩ :=
              moveToNext_of_full x.payload.length (Nat.not_lt.1 hfull)
            rw [hmove]
            refine ⟨s', rfl, hsub.trans ?_, hfwd.trans ?_⟩
            · exact (List.append_nil _).symm.trans (append_indicated s.subframes s.k x [])
            · exact (List.append_nil _).symm.trans (append_forwards s.forwarded s.k x [])
        · rw [if_neg hpasses, if_neg hpasses]
          exact ⟨s, rfl, by simp [indicated], by simp [forwards]⟩
      · have hpasses : x.passes cfg s.k = false := by simp [Subframe.passes, hvalid]
        rw [if_neg hvalid, if_neg (by simp [hpasses])]
        exact ⟨s, rfl, by simp [indicated], by simp [forwards]⟩

lemma length_le_length_encode (xs : List Subframe) : xs.length ≤ (encode xs).length := by
  induction xs with
  | nil => exact Nat.zero_le _
  | cons x xs ih =>
      by_cases hxs : xs = []
      · simp [encode_cons, hxs]
        omega
      · simp [encode_cons, hxs]
        omega

/-- The subframes of a body with their headers inside are delivered in order up to the first that
fails its check; of any body only subframes inside it are read, a read outside one of them is one of
a header that it does not have, and nothing is delivered if the first fails the content check. -/
theorem amsduToMsdu_delivers (cfg : AmsduCfg) (xs : List Subframe) (body : List UInt8) :
    (xs.length ≤ maxSubframeCount → Ends xs →
      (∀ k x, xs[k]? = some x → HeadersInside cfg k x.da.toList x.sa.toList x.payload) →
      ∃ s, amsduToMsdu cfg (encode xs) = some (.ok s) ∧
        s.subframes = indicated cfg (passed cfg 0 xs) ∧
        s.forwarded = forwards cfg (passed cfg 0 xs)) ∧
    ((∃ s, amsduToMsdu cfg body = some (.ok s)) ∨
      ∃ fault, fault ≠ .subframe ∧ amsduToMsdu cfg body = some (.error fault) ∧
        ∃ k da sa msdu, (subframesOf body)[k]? = some (da, sa, msdu) ∧
          ¬ HeadersInside cfg k da sa msdu) ∧
    (validateAmsduContent cfg (body.take 6) ((body.drop 6).take 6) = false →
      ∃ s, amsduToMsdu cfg body = some (.ok s) ∧ s.subframes = [] ∧ s.forwarded = []) := by
  refine ⟨?_, ?_, ?_⟩
  · intro hlen hends ht
    have hfuel := length_le_length_encode xs
    refine run_encode (a := []) (s := ⟨0, (encode xs).length, 0, [], []⟩) hends ?_ rfl rfl rfl
      (by simpa using hlen) (by omega)
    intro j x hj
    rw [Nat.zero_add]
    exact ht j x hj
  · have hstart : InStep body ⟨0, body.length, 0, [], []⟩ := ⟨by simp, by simp⟩
    rcases run_amsduPass (n := body.length + 1) hstart (by simp) with
      hok | ⟨fault, hfault, hrun, j, da, sa, msdu, hj, hout⟩
    · exact .inl hok
    · rw [Nat.zero_add] at hout
      exact .inr ⟨fault, hfault, hrun, j, da, sa, msdu, hj, hout⟩
  · intro hbad
    refine ⟨⟨0, body.length, 0, [], []⟩, ?_, rfl, rfl⟩
    rw [amsduToMsdu, Loop.run, amsduPass_of_invalid rfl rfl hbad]

/-! ### Two subframes of a protected network -/

/-- A station that takes frames to `ra` and hands every subframe to the host. -/
def staCfg (ra : MacAddr) : AmsduCfg where
  nonSpp := true
  privacy := true
  toFrDs := 2
  ra := ra.toList
  ta := (MacAddr.ofBytes 2 0 0 0 0 9).toList
  act _ _ _ _ := ⟨true, false, false⟩
  alloc _ := true
  psta := true
  tcpTracked := true
  regRule _ _ := false
  sinkUdpport := 0

/-- A subframe of an UDP packet to `da`. -/
def ipSubframe (da : MacAddr) : Subframe where
  da := da
  sa := MacAddr.ofBytes 2 0 0 0 0 7
  payload := [0xAA, 0xAA, 0x03, 0, 0, 0, 0x08, 0, 0x45, 0, 0, 108, 0, 0, 0, 0, 64, 17] ++
    List.replicate 98 0
  pad := [0, 0]
  short := by decide
  length_pad := by decide

/-- Two subframes, the second of them for someone else. -/
def twoSubframes : List Subframe :=
  [ipSubframe (.ofBytes 2 0 0 0 0 1), ipSubframe (.ofBytes 2 0 0 0 0 2)]

lemma ends_twoSubframes : Ends twoSubframes := by
  rintro x hx
  obtain rfl : x = ipSubframe (.ofBytes 2 0 0 0 0 2) := (Option.mem_some_iff.1 hx).symm
  exact List.cons_ne_nil _ _

theorem amsduToMsdu_delivers_two :
    (∃ s, amsduToMsdu (staCfg (.ofBytes 2 0 0 0 0 1)) (encode twoSubframes) = some (.ok s) ∧
      s.subframes = [(ipSubframe (.ofBytes 2 0 0 0 0 1)).pkt] ∧ s.forwarded = []) ∧
    ∃ s, amsduToMsdu (staCfg (.ofBytes 2 0 0 0 0 1)) (encode (twoSubframes.drop 1)) =
      some (.ok s) ∧ s.subframes = [] ∧ s.forwarded = [] := by
  have h := amsduToMsdu_delivers (staCfg (.ofBytes 2 0 0 0 0 1)) twoSubframes
    (encode (twoSubframes.drop 1))
  constructor
  · refine h.1 (by decide) ends_twoSubframes ?_
    rintro (_ | _ | k) x hx
    · obtain rfl := Option.some.inj hx
      exact headersInside_of_long _ (by simp) (by simp) (by decide)
    · obtain rfl := Option.some.inj hx
      exact headersInside_of_long _ (by simp) (by simp) (by decide)
    · cases hx
  · exact h.2.2 (by decide +kernel)

/-- The check of the second subframe keeps it from the host. -/
theorem amsduToMsdu_loses_second :
    (amsduToMsdu (staCfg (.ofBytes 2 0 0 0 0 1)) (encode twoSubframes)).map
        (fun r => r.toOption.map AmsduState.subframes) ≠
      some (some (twoSubframes.map Subframe.pkt)) := by
  decide +kernel

end Rtl8723du.Amsdu
