import Mathlib.Data.Finset.Erase
import Mathlib.Data.Finset.Insert
import Mathlib.Data.List.FinRange
import Mathlib.Logic.Function.Basic
import Rtl8723du.Recv.Frame

/-!
# The stations of an access point

The part of `struct sta_info`, `struct sta_xmit_priv`, `struct xmit_priv` and
`struct sta_priv` that power save and the transmit queues of an access point work on,
with the functions that look a station up, give it an AID and read its WMM element.

The `n` entries of the station table are the numbers below `n`; a pointer to a
`struct sta_info` is such a number.  The member `sta_xmitpriv` of an entry is kept in
a table of its own, `ApPriv.staXmitpriv`.
-/

namespace Rtl8723du

/-- The four access categories, in the order of `hwxmits`. -/
inductive Ac
  | vo
  | vi
  | be
  | bk
deriving DecidableEq, Repr

/-- The access category of a priority, the `switch` of `rtw_get_sta_pending`. -/
def acOf (priority : ℕ) : Ac :=
  match priority with
  | 1 | 2 => .bk
  | 4 | 5 => .vi
  | 6 | 7 => .vo
  | _ => .be

/-- `uapsd_bk` and its like: `BIT(0)`, delivery enabled, and `BIT(1)`, trigger enabled. -/
structure Uapsd where
  deliveryEnabled : Bool := false
  triggerEnabled : Bool := false
deriving DecidableEq, Repr

/-- A frame to send, `struct xmit_frame`, with the attributes of it that are read on
the way. -/
structure XmitFrame (n : ℕ) where
  /-- The receiver address. -/
  ra : MacAddr
  /-- The station the frame was given to, the broadcast station for a group address. -/
  psta : Fin n
  priority : ℕ
  /-- Management frames only: never to be buffered. -/
  psDontq : Bool := false
  /-- More Data. -/
  mdata : Bool := false
  /-- End of service period. -/
  eosp : Bool := false
  /-- The frame was released and is not to be buffered again. -/
  triggered : Bool := false
  /-- Which packet it carries. -/
  pkt : ℕ := 0
deriving DecidableEq, Repr

/-- `struct tx_servq`: the frames of a station and an access category that wait to be
sent, and their count. -/
structure TxServq (n : ℕ) where
  staPending : List (XmitFrame n) := []
  qcnt : ℤ := 0

namespace TxServq

variable {n : ℕ}

/-- Append a frame and count it. -/
def push (q : TxServq n) (f : XmitFrame n) : TxServq n :=
  { staPending := q.staPending ++ [f], qcnt := q.qcnt + 1 }

/-- Take the first frame out and count it off. -/
def pop (q : TxServq n) : TxServq n := { staPending := q.staPending.tail, qcnt := q.qcnt - 1 }

/-- Count a frame off. -/
def countOff (q : TxServq n) : TxServq n := { staPending := q.staPending, qcnt := q.qcnt - 1 }

/-- The queue without its frames, before a loop that goes over them. -/
def clear (q : TxServq n) : TxServq n := { staPending := [], qcnt := q.qcnt }

/-- Such a loop leaves a frame where it is. -/
def keep (q : TxServq n) (f : XmitFrame n) : TxServq n :=
  { staPending := q.staPending ++ [f], qcnt := q.qcnt }

end TxServq

/-- `struct sta_xmit_priv`. -/
structure StaXmitPriv (n : ℕ) where
  voQ : TxServq n := {}
  viQ : TxServq n := {}
  beQ : TxServq n := {}
  bkQ : TxServq n := {}
  mgmtQ : TxServq n := {}

namespace StaXmitPriv

variable {n : ℕ}

/-- The queue of an access category. -/
def acQ (p : StaXmitPriv n) : Ac → TxServq n
  | .vo => p.voQ
  | .vi => p.viQ
  | .be => p.beQ
  | .bk => p.bkQ

/-- Change the queue of an access category. -/
def modAcQ (p : StaXmitPriv n) (ac : Ac) (g : TxServq n → TxServq n) : StaXmitPriv n :=
  match ac with
  | .vo => { p with voQ := g p.voQ }
  | .vi => { p with viQ := g p.viQ }
  | .be => { p with beQ := g p.beQ }
  | .bk => { p with bkQ := g p.bkQ }

/-- Change the queue of management frames. -/
def modMgmtQ (p : StaXmitPriv n) (g : TxServq n → TxServq n) : StaXmitPriv n :=
  { p with mgmtQ := g p.mgmtQ }

@[simp] lemma acQ_modAcQ_self (p : StaXmitPriv n) (ac : Ac) (g : TxServq n → TxServq n) :
    (p.modAcQ ac g).acQ ac = g (p.acQ ac) := by
  cases ac <;> rfl

lemma acQ_modAcQ_of_ne (p : StaXmitPriv n) {ac ac' : Ac} (h : ac' ≠ ac)
    (g : TxServq n → TxServq n) : (p.modAcQ ac g).acQ ac' = p.acQ ac' := by
  cases ac <;> cases ac' <;> first | rfl | exact absurd rfl h

end StaXmitPriv

/-- `struct hw_xmit`: the stations whose queue is linked here, and the count of frames. -/
structure HwXmit (n : ℕ) where
  staQueue : List (Fin n) := []
  accnt : ℤ := 0

/-- A `struct sta_info`.  An entry without an address is on the `free_sta_queue`. -/
structure StaInfo (n : ℕ) where
  macAddr : Option MacAddr := none
  /-- `WIFI_FW_AUTH_SUCCESS`. -/
  fwAuthSuccess : Bool := false
  /-- `WIFI_FW_ASSOC_SUCCESS`. -/
  fwAssocSuccess : Bool := false
  /-- `WIFI_ASOC_STATE`. -/
  asocState : Bool := false
  /-- `WIFI_SLEEP_STATE`. -/
  sleepState : Bool := false
  /-- `WIFI_STA_ALIVE_CHK_STATE`. -/
  aliveChkState : Bool := false
  aid : ℕ := 0
  qosOption : Bool := false
  qosInfo : BitVec 8 := 0
  uapsdVo : Uapsd := {}
  uapsdVi : Uapsd := {}
  uapsdBe : Uapsd := {}
  uapsdBk : Uapsd := {}
  hasLegacyAc : Bool := false
  sleepQ : List (XmitFrame n) := []
  sleepqLen : BitVec 32 := 0
  sleepqAcLen : BitVec 32 := 0
  mgmtSleepQ : List (XmitFrame n) := []
  mgmtSleepqLen : BitVec 32 := 0

/-- The U-APSD bits of a priority, the `switch` that the power save functions share. -/
def StaInfo.wmmpsAc {n : ℕ} (psta : StaInfo n) (priority : ℕ) : Uapsd :=
  match acOf priority with
  | .vo => psta.uapsdVo
  | .vi => psta.uapsdVi
  | .be => psta.uapsdBe
  | .bk => psta.uapsdBk

/-- The station goes to sleep. -/
def StaInfo.fallAsleep {n : ℕ} (psta : StaInfo n) : StaInfo n := { psta with sleepState := true }

/-- The station is awake, and hence alive. -/
def StaInfo.wakeUp {n : ℕ} (psta : StaInfo n) : StaInfo n :=
  { psta with sleepState := false, aliveChkState := false }

/-- The station need not be checked for being alive any more. -/
def StaInfo.clearAliveChk {n : ℕ} (psta : StaInfo n) : StaInfo n :=
  { psta with aliveChkState := false }

/-- What is set once for an access point. -/
structure ApConf where
  maxAid : ℕ
  maxNumSta : ℕ
  /-- `rr_aid`: go on from the last AID given out. -/
  rrAid : Bool := false
  /-- `registrypriv.wifi_spec == 1`. -/
  wifiSpec : Bool := false
  /-- `wmm_para_seq`, the order of the hardware queues with `wifiSpec`. -/
  wmmParaSeq : List Ac := [.vo, .vi, .be, .bk]

/-- The state of an access point: `struct sta_priv` and `struct xmit_priv`. -/
structure ApPriv (n : ℕ) where
  sta : Fin n → StaInfo n
  /-- `sta_xmitpriv` of each entry. -/
  staXmitpriv : Fin n → StaXmitPriv n
  hwxmits : Ac → HwXmit n
  /-- The last of `hwxmits`, for management frames. -/
  mgmtHwxmit : HwXmit n
  freeXmitframeCnt : ℕ
  /-- The frames that `rtw_xmit_posthandle` has not yet given to `rtw_hal_xmit`. -/
  xmitting : List (XmitFrame n)
  /-- How many frames are sent and not yet freed. -/
  sending : ℕ
  /-- `sta_aid`, from the AID. -/
  staAid : ℕ → Option (Fin n)
  startedAid : ℕ
  /-- The AIDs of stations with buffered frames, 0 for group frames. -/
  timBitmap : Finset ℕ
  /-- The AIDs of dozing stations, 0 for group frames. -/
  staDzBitmap : Finset ℕ

/-- `NR_XMITFRAME`, how many frames the pool has. -/
abbrev nrXmitframe : ℕ := 256

namespace ApPriv

variable {n : ℕ}

/-- Change one station. -/
def modSta (s : ApPriv n) (i : Fin n) (g : StaInfo n → StaInfo n) : ApPriv n :=
  { s with sta := Function.update s.sta i (g (s.sta i)) }

/-- Change the transmit queues of one station. -/
def modXmit (s : ApPriv n) (i : Fin n) (g : StaXmitPriv n → StaXmitPriv n) : ApPriv n :=
  { s with staXmitpriv := Function.update s.staXmitpriv i (g (s.staXmitpriv i)) }

/-- Change one hardware queue. -/
def modHw (s : ApPriv n) (ac : Ac) (g : HwXmit n → HwXmit n) : ApPriv n :=
  { s with hwxmits := Function.update s.hwxmits ac (g (s.hwxmits ac)) }

/-- Change `tim_bitmap`. -/
def modTim (s : ApPriv n) (g : Finset ℕ → Finset ℕ) : ApPriv n :=
  { s with timBitmap := g s.timBitmap }

/-- Change `sta_dz_bitmap`. -/
def modDz (s : ApPriv n) (g : Finset ℕ → Finset ℕ) : ApPriv n :=
  { s with staDzBitmap := g s.staDzBitmap }

@[simp] lemma modSta_sta_self (s : ApPriv n) (i : Fin n) (g : StaInfo n → StaInfo n) :
    (s.modSta i g).sta i = g (s.sta i) := by
  simp [modSta]

lemma modSta_sta_of_ne (s : ApPriv n) {i j : Fin n} (h : j ≠ i) (g : StaInfo n → StaInfo n) :
    (s.modSta i g).sta j = s.sta j := by
  simp [modSta, h]

@[simp] lemma modSta_timBitmap (s : ApPriv n) (i : Fin n) (g : StaInfo n → StaInfo n) :
    (s.modSta i g).timBitmap = s.timBitmap := rfl

@[simp] lemma modSta_staDzBitmap (s : ApPriv n) (i : Fin n) (g : StaInfo n → StaInfo n) :
    (s.modSta i g).staDzBitmap = s.staDzBitmap := rfl

@[simp] lemma modTim_sta (s : ApPriv n) (g : Finset ℕ → Finset ℕ) :
    (s.modTim g).sta = s.sta := rfl

@[simp] lemma modTim_timBitmap (s : ApPriv n) (g : Finset ℕ → Finset ℕ) :
    (s.modTim g).timBitmap = g s.timBitmap := rfl

@[simp] lemma modTim_staDzBitmap (s : ApPriv n) (g : Finset ℕ → Finset ℕ) :
    (s.modTim g).staDzBitmap = s.staDzBitmap := rfl

@[simp] lemma modDz_sta (s : ApPriv n) (g : Finset ℕ → Finset ℕ) :
    (s.modDz g).sta = s.sta := rfl

@[simp] lemma modDz_timBitmap (s : ApPriv n) (g : Finset ℕ → Finset ℕ) :
    (s.modDz g).timBitmap = s.timBitmap := rfl

@[simp] lemma modDz_staDzBitmap (s : ApPriv n) (g : Finset ℕ → Finset ℕ) :
    (s.modDz g).staDzBitmap = g s.staDzBitmap := rfl

@[simp] lemma modXmit_sta (s : ApPriv n) (i : Fin n) (g : StaXmitPriv n → StaXmitPriv n) :
    (s.modXmit i g).sta = s.sta := rfl

@[simp] lemma modHw_sta (s : ApPriv n) (ac : Ac) (g : HwXmit n → HwXmit n) :
    (s.modHw ac g).sta = s.sta := rfl

end ApPriv

variable {n : ℕ}

/-- `rtw_get_stainfo`: a group address stands for the broadcast station. -/
def rtwGetStainfo (s : ApPriv n) (hwaddr : MacAddr) : Option (Fin n) :=
  (List.finRange n).find? fun i =>
    (s.sta i).macAddr = some (if isMcast hwaddr then bcAddr else hwaddr)

/-- `rtw_get_bcmc_stainfo`. -/
def rtwGetBcmcStainfo (s : ApPriv n) : Option (Fin n) := rtwGetStainfo s bcAddr

/-- `rtw_alloc_stainfo`: the first free entry. -/
def rtwAllocStainfo (s : ApPriv n) (hwaddr : MacAddr) : Option (ApPriv n) :=
  match (List.finRange n).find? fun i => (s.sta i).macAddr = none with
  | none => none
  | some i =>
      some ((s.modSta i fun _ => { macAddr := some hwaddr }).modXmit i fun _ => {})

/-- The search of `rtw_aid_alloc`, from its `i`-th turn on: an AID that is not given
out, or 0. -/
def findAid (conf : ApConf) (s : ApPriv n) (i usedCnt : ℕ) : ℕ → ℕ
  | 0 => 0
  | fuel + 1 =>
      let aid := (i + s.startedAid - 1) % conf.maxAid + 1
      if (s.staAid aid).isNone then if conf.maxNumSta ≤ usedCnt then 0 else aid
      else if conf.maxNumSta ≤ usedCnt + 1 then 0
      else findAid conf s (i + 1) (usedCnt + 1) fuel

/-- `rtw_aid_alloc`: give the station `i` an AID; 0 when there is none left. -/
def rtwAidAlloc (conf : ApConf) (s : ApPriv n) (i : Fin n) : ApPriv n :=
  let aid := findAid conf s 0 0 conf.maxAid
  let s := s.modSta i fun psta => { psta with aid }
  if aid = 0 then s
  else
    { s with
      staAid := Function.update s.staAid aid (some i)
      startedAid := if conf.rrAid then aid % conf.maxAid + 1 else s.startedAid }

/-- The U-APSD bits of an access category from a bit of the QoS info field. -/
def uapsdOfBit (b : Bool) : Uapsd := { deliveryEnabled := b, triggerEnabled := b }

/-- `rtw_ap_parse_sta_wmm_ie`; `wmm` is the QoS info field of the WMM element, `none`
when there is no such element or the access point has no QoS. -/
def rtwApParseStaWmmIe (wmm : Option (BitVec 8)) (sta : StaInfo n) : StaInfo n :=
  let qosInfo := wmm.getD 0
  { sta with
    qosOption := wmm.isSome
    qosInfo
    hasLegacyAc := qosInfo &&& 0xf#8 != 0xf#8
    uapsdVo := uapsdOfBit (qosInfo.getLsbD 0)
    uapsdVi := uapsdOfBit (qosInfo.getLsbD 1)
    uapsdBk := uapsdOfBit (qosInfo.getLsbD 2)
    uapsdBe := uapsdOfBit (qosInfo.getLsbD 3) }

end Rtl8723du
