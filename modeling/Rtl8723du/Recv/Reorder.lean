import Rtl8723du.Recv.Frame
import Mathlib.Data.BitVec
import Mathlib.Data.Int.Basic

/-!
# The reorder control of a TID

`struct recv_reorder_ctrl` and the functions of `core/rtw_recv.c` that work on it:
a data MPDU goes through `recvIndicatepktReorder`, the expiry of the reorder
timer through `rtwReorderingCtrlTimeoutHandler`, a BlockAckReq through
`rtwProcessBarFrame`, and the acknowledged ADDBA response through `addBaRspHdl`.

Frames are handed up one after the other to `recv_process_mpdu`; the functions
return the list of them.
-/

namespace Rtl8723du

/-- `SN_LESS(a, b)`: `((a - b) & 0x800) != 0`, on `int`. -/
def snLess (a b : ℕ) : Bool :=
  (BitVec.ofNat 32 a - BitVec.ofNat 32 b) &&& 0x800#32 != 0#32

/-- `SN_EQUAL(a, b)`. -/
def snEqual (a b : ℕ) : Bool := a == b

/-- `struct recv_reorder_ctrl`. -/
structure RecvReorderCtrl where
  enable : Bool
  /-- The start of the window, `u16`; `0xFFFF` before the first MPDU. -/
  indicateSeq : ℕ
  /-- The size of the window, `u8`. -/
  wsizeB : ℕ
  pendingRecvframeQueue : List RecvFrame
  bReorderWaiting : Bool
  /-- The bit `RTW_RECV_ACK_OR_TIMEOUT` of `rec_abba_rsp_ack`. -/
  ackOrTimeout : Bool
  /-- `reordering_ctrl_timer` is armed. -/
  reorderingCtrlTimer : Bool

/-- `check_indicate_seq`: drop what is before the window, and move the window. -/
def checkIndicateSeq (c : RecvReorderCtrl) (seqNum : ℕ) : Bool × RecvReorderCtrl :=
  let c := if c.indicateSeq = 0xFFFF then { c with indicateSeq := seqNum } else c
  let wend := (((c.indicateSeq : ℤ) + c.wsizeB - 1) % 4096).toNat
  if snLess seqNum c.indicateSeq then (false, c)
  else if snEqual seqNum c.indicateSeq then
    (true, { c with indicateSeq := (c.indicateSeq + 1) % 4096 })
  else if snLess wend seqNum then
    if c.wsizeB - 1 ≤ seqNum then (true, { c with indicateSeq := seqNum + 1 - c.wsizeB })
    else (true, { c with indicateSeq := 0xFFF - (c.wsizeB - (seqNum + 1)) + 1 })
  else (true, c)

/-- The search and the insertion of `enqueue_reorder_recvframe`; `none` when the
frame is a duplicate. -/
def enqueueReorderRecvframe (f : RecvFrame) : List RecvFrame → Option (List RecvFrame)
  | [] => some [f]
  | g :: gs =>
      if snLess g.attrib.seqNum f.attrib.seqNum then
        (enqueueReorderRecvframe f gs).map (g :: ·)
      else if snEqual g.attrib.seqNum f.attrib.seqNum then none
      else some (f :: g :: gs)

/-- The loop of `recv_indicatepkts_in_order`: the new `indicate_seq`, the frames
that stay and the frames handed up. -/
def indicateLoop (indicateSeq : ℕ) :
    List RecvFrame → ℕ × List RecvFrame × List RecvFrame
  | [] => (indicateSeq, [], [])
  | f :: fs =>
      if snLess indicateSeq f.attrib.seqNum then (indicateSeq, f :: fs, [])
      else
        let r := indicateLoop
          (if snEqual indicateSeq f.attrib.seqNum then (indicateSeq + 1) % 4096
          else indicateSeq) fs
        (r.1, r.2.1, f :: r.2.2)

/-- The second part of `recv_indicatepkts_in_order`: hand up from `indicate_seq`
on.  The first component, `bPktInBuf`, says whether frames still wait. -/
def RecvReorderCtrl.indicate (c : RecvReorderCtrl) : Bool × RecvReorderCtrl × List RecvFrame :=
  let r := indicateLoop c.indicateSeq c.pendingRecvframeQueue
  (!r.2.1.isEmpty, { c with indicateSeq := r.1, pendingRecvframeQueue := r.2.1 }, r.2.2)

/-- `recv_indicatepkts_in_order`.  A forced call starts at the first frame that
waits, and answers yes when there is none. -/
def recvIndicatepktsInOrder (c : RecvReorderCtrl) (bforced : Bool) :
    Bool × RecvReorderCtrl × List RecvFrame :=
  if bforced then
    match c.pendingRecvframeQueue with
    | [] => (true, c, [])
    | f :: _ => { c with indicateSeq := f.attrib.seqNum }.indicate
  else c.indicate

/-- `recv_indicatepkt_reorder` on a frame whose `preorder_ctrl` is `c`.  After
`RxRet.success` the caller hands the frame up itself, after `RxRet.fail` it
frees it. -/
def recvIndicatepktReorder (c : RecvReorderCtrl) (f : RecvFrame) :
    RxRet × RecvReorderCtrl × List RecvFrame :=
  if !f.attrib.qos || !c.enable then (.success, c, [])
  else
    let c := if c.ackOrTimeout then { c with ackOrTimeout := false, indicateSeq := 0xFFFF } else c
    let chk := checkIndicateSeq c f.attrib.seqNum
    if !chk.1 then (.fail, chk.2, [])
    else
      match enqueueReorderRecvframe f chk.2.pendingRecvframeQueue with
      | none => (.fail, chk.2, [])
      | some q =>
          let r := recvIndicatepktsInOrder { chk.2 with pendingRecvframeQueue := q } false
          if r.1 then
            if !r.2.1.bReorderWaiting then
              (.handled, { r.2.1 with bReorderWaiting := true, reorderingCtrlTimer := true }, r.2.2)
            else (.handled, r.2.1, r.2.2)
          else
            (.handled, { r.2.1 with bReorderWaiting := false, reorderingCtrlTimer := false }, r.2.2)

/-- `rtw_reordering_ctrl_timeout_handler`, with `cannotRun` the value of
`RTW_CANNOT_RUN`. -/
def rtwReorderingCtrlTimeoutHandler (c : RecvReorderCtrl) (cannotRun : Bool) :
    RecvReorderCtrl × List RecvFrame :=
  let c := { c with reorderingCtrlTimer := false }
  if cannotRun then (c, [])
  else
    let r := recvIndicatepktsInOrder { c with bReorderWaiting := false } true
    if r.1 then ({ r.2.1 with reorderingCtrlTimer := true }, r.2.2) else r.2

/-- `rtw_process_bar_frame` on the control of the BlockAckReq's TID. -/
def rtwProcessBarFrame (c : RecvReorderCtrl) (startSeq : ℕ) : RecvReorderCtrl :=
  { c with indicateSeq := startSeq }

/-- `add_ba_rsp_hdl`, after the ADDBA response with this status was sent. -/
def addBaRspHdl (c : RecvReorderCtrl) (status : ℕ) : RecvReorderCtrl :=
  { c with
    ackOrTimeout := true
    enable := if status = 0 then true else if status = 37 then false else c.enable }

/-- What happens to a reorder control. -/
inductive ReorderEvent
  | mpdu (f : RecvFrame)
  | timeout (cannotRun : Bool)
  | bar (startSeq : ℕ)
  | addBaRsp (status : ℕ)

/-- One event: the next state and the frames that
`recv_indicatepkts_in_order` hands up. -/
def reorderStep (c : RecvReorderCtrl) : ReorderEvent → RecvReorderCtrl × List RecvFrame
  | .mpdu f => (recvIndicatepktReorder c f).2
  | .timeout cannotRun => rtwReorderingCtrlTimeoutHandler c cannotRun
  | .bar startSeq => (rtwProcessBarFrame c startSeq, [])
  | .addBaRsp status => (addBaRspHdl c status, [])

/-- The control as `rtw_alloc_stainfo` leaves it once reordering is enabled. -/
structure RecvReorderCtrl.Fresh (c : RecvReorderCtrl) : Prop where
  enable : c.enable = true
  indicateSeq : c.indicateSeq = 0xFFFF
  pending : c.pendingRecvframeQueue = []

/-- A QoS data MPDU with a 12-bit sequence number, or an expiry of the timer. -/
def ReorderEvent.IsData : ReorderEvent → Prop
  | .mpdu f => f.attrib.qos = true ∧ f.attrib.seqNum < 4096
  | .timeout _ => True
  | _ => False

end Rtl8723du
