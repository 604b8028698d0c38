import Rtl8723du.Ap.Sleep
import Rtl8723du.Lib.Machine

/-!
# The access point as an event machine

What the power save part of an access point reacts to: frames of the host, transfers of
the transmitter, received data frames and PS-Polls, authentication and association,
stations that are checked, disassociated and freed, and the work after a beacon.  Each
event is handled under the transmit lock as a whole, except that `rtw_xmit_posthandle`
gives the lock back between the test for a sleeping receiver and `rtw_hal_xmit`.
-/

namespace Rtl8723du

variable {n : ℕ}

/-! ### Transmission -/

/-- `rtw_xmit` up to the end of the first critical section of `rtw_xmit_posthandle`: a frame
from the pool is buffered, or is on its way to `rtw_hal_xmit`. -/
def rtwXmit (s : ApPriv n) (ra : MacAddr) (priority pkt : ℕ) : ApPriv n :=
  if s.freeXmitframeCnt = 0 then s
  else
    match rtwGetStainfo s ra with
    | none => s
    | some i =>
        -- `update_attrib` refuses a receiver that is not associated
        if ¬ (s.sta i).asocState then s
        else
          let s := { s with freeXmitframeCnt := s.freeXmitframeCnt - 1 }
          let f : XmitFrame n := { ra, psta := i, priority, pkt }
          (xmitframeEnqueueForSleepingSta s f).getD { s with xmitting := s.xmitting ++ [f] }

/-- `rtw_txframes_sta_ac_pending`: frames of the same station and access category wait. -/
def rtwTxframesStaAcPending (s : ApPriv n) (f : XmitFrame n) : Bool :=
  0 < ((s.staXmitpriv f.psta).acQ (acOf f.priority)).qcnt

/-- `pre_xmitframe` for the `k`-th of the frames on their way: sent at once when `direct`,
that is, when nothing else speaks against it, and queued otherwise. -/
def preXmitframe (s : ApPriv n) (k : ℕ) (direct : Bool) : ApPriv n × List (ApOut n) :=
  match s.xmitting[k]? with
  | none => (s, [])
  | some f =>
      let s := { s with xmitting := s.xmitting.eraseIdx k }
      if direct && !rtwTxframesStaAcPending s f then
        (s.send 1, [.sent f])
      else (rtwHalXmitframeEnqueue s f, [])

/-- The transmitter takes one frame; what it does with it, it frees it in the end. -/
def dequeueForTransmission (conf : ApConf) (s : ApPriv n) : ApPriv n × List (ApOut n) :=
  match rtwDequeueXframe conf s with
  | none => (s, [])
  | some (f, s') => (s'.send 1, [.sent f])

/-- `rtw_free_xmitframe` of a frame that was sent. -/
def freeSentXmitframe (s : ApPriv n) : ApPriv n :=
  if s.sending = 0 then s else rtwFreeXmitframe { s with sending := s.sending - 1 }

/-- `rtw_hal_mgnt_xmit`: a management frame is buffered or sent. -/
def rtwHalMgntXmit (s : ApPriv n) (ra : MacAddr) (psDontq : Bool) (pkt : ℕ) :
    ApPriv n × List (ApOut n) :=
  match rtwGetStainfo s ra with
  | none => (s, [])
  | some i =>
      let f : XmitFrame n := { ra, psta := i, priority := 7, psDontq, pkt }
      match mgmtXmitframeEnqueueForSleepingSta s f with
      | some s' => (s', [])
      | none => (s, [.sent f])

/-- `rtw_dequeue_mgmt_xframe`. -/
def rtwDequeueMgmtXframe (s : ApPriv n) : ApPriv n × List (ApOut n) :=
  match s.mgmtHwxmit.staQueue.findSome? fun i =>
      (s.staXmitpriv i).mgmtQ.staPending.head?.map fun f => (i, f) with
  | none => (s, [])
  | some (i, f) =>
      let s := s.modXmit i fun p => p.modMgmtQ fun q => q.pop
      (s.modMgmtHw fun h =>
        (if (s.staXmitpriv i).mgmtQ.staPending = [] then h.unlink i else h).count (-1),
        [.sent f])

/-! ### Stations coming and going -/

/-- `rtw_free_stainfo`: every frame of the station goes back to the pool.  The group
frames stay where they are. -/
def rtwFreeStainfo (s : ApPriv n) (i : Fin n) : ApPriv n :=
  let psta := s.sta i
  let p := s.staXmitpriv i
  let ownsAid := 0 < psta.aid ∧ s.staAid psta.aid = some i
  { sta := Function.update s.sta i
      { psta with
        macAddr := none
        asocState := false
        aid := if ownsAid then 0 else psta.aid
        qosInfo := 0
        uapsdVo := {}
        uapsdVi := {}
        uapsdBe := {}
        uapsdBk := {}
        hasLegacyAc := false
        sleepQ := []
        sleepqLen := 0
        sleepqAcLen := 0
        mgmtSleepQ := []
        mgmtSleepqLen := 0 }
    staXmitpriv := Function.update s.staXmitpriv i {}
    hwxmits := fun ac =>
      ((s.hwxmits ac).unlink i).count (-(p.acQ ac).qcnt)
    mgmtHwxmit := (s.mgmtHwxmit.unlink i).count (-p.mgmtQ.qcnt)
    freeXmitframeCnt := s.freeXmitframeCnt + psta.sleepQ.length +
      (p.voQ.staPending.length + p.viQ.staPending.length + p.beQ.staPending.length +
        p.bkQ.staPending.length)
    xmitting := s.xmitting
    sending := s.sending
    staAid := if ownsAid then Function.update s.staAid psta.aid none else s.staAid
    startedAid := s.startedAid
    timBitmap := s.timBitmap.erase psta.aid
    staDzBitmap := s.staDzBitmap.erase psta.aid }

/-- How `OnAuth` ends once it has looked the station up. -/
inductive AuthRes
  /-- `auth_fail`: the station is freed. -/
  | fail
  /-- Accepted for now: a shared key exchange goes on, or an association that is
  protected stays as it is. -/
  | goOn
  /-- The station is authenticated. -/
  | success
deriving DecidableEq, Repr

/-- `OnAuth` from where it looks the station up. -/
def onAuth (s : ApPriv n) (sa : MacAddr) (res : AuthRes) : ApPriv n :=
  if isMcast sa then s
  else
    let found : Option (ApPriv n) :=
      if (rtwGetStainfo s sa).isSome then some s else rtwAllocStainfo s sa
    match found with
    | none => s
    | some s =>
        match rtwGetStainfo s sa with
        | none => s
        | some i =>
            match res with
            | .fail => rtwFreeStainfo s i
            | .goOn => s
            | .success => s.modSta i fun psta => { psta with fwAuthSuccess := true }

/-- How far `OnAssocReq` gets. -/
inductive AssocRes
  /-- It fails before it reads the WMM element. -/
  | failEarly
  /-- It fails after that. -/
  | failLate
  /-- It goes through for a protected association, which stays as it is until the station
  has answered the SA Query. -/
  | saQuery
  /-- The station joins. -/
  | join
deriving DecidableEq, Repr

/-- The station whose WMM element `OnAssocReq` reads. -/
def assocReqReads (s : ApPriv n) (sa : MacAddr) (res : AssocRes) : Option (Fin n) :=
  if isMcast sa then none
  else (rtwGetStainfo s sa).filter fun i =>
    ((s.sta i).fwAuthSuccess || (s.sta i).fwAssocSuccess) && res != .failEarly

/-- The station's request is being handled. -/
def StaInfo.startAssoc (psta : StaInfo n) : StaInfo n :=
  if psta.fwAuthSuccess then { psta with fwAuthSuccess := false }
  else { psta with fwAssocSuccess := false }

/-- `sta_info_update` and `update_sta_info_apmode`: the station joins. -/
def StaInfo.join (psta : StaInfo n) (qosOption : Bool) : StaInfo n :=
  { psta with asocState := true, qosOption }

/-- The station keeps its AID or is given one. -/
def assocAid (conf : ApConf) (s : ApPriv n) (i : Fin n) : ApPriv n :=
  if 0 < (s.sta i).aid then s else rtwAidAlloc conf s i

/-- `OnAssocReq` from the assignment of an AID on. -/
def assocFinish (conf : ApConf) (s : ApPriv n) (i : Fin n) (res : AssocRes)
    (qosOption : Bool) : ApPriv n :=
  let s := assocAid conf s i
  if (s.sta i).aid = 0 then s
  else
    let s := s.modSta i fun psta => { psta with fwAssocSuccess := true }
    if res = .saQuery then s else s.modSta i fun psta => psta.join qosOption

/-- `OnAssocReq`; `wmm` is the QoS info field of the request, `ht` says that the station is
an HT station. -/
def onAssocReq (conf : ApConf) (s : ApPriv n) (sa : MacAddr) (res : AssocRes)
    (wmm : Option (BitVec 8)) (ht : Bool) : ApPriv n :=
  if isMcast sa then s
  else
    match rtwGetStainfo s sa with
    | none => s
    | some i =>
        if (s.sta i).fwAuthSuccess || (s.sta i).fwAssocSuccess then
          let s := s.modSta i StaInfo.startAssoc
          if res = .failEarly then s
          else
            let s := s.modSta i (rtwApParseStaWmmIe wmm)
            if res = .failLate then s else assocFinish conf s i res (wmm.isSome || ht)
        else s

/-- `ap_free_sta`: the station is no longer associated; it is freed by
`rtw_stadel_event_callback` later. -/
def apFreeSta (s : ApPriv n) (i : Fin n) : ApPriv n :=
  (s.modSta i fun psta => { psta with asocState := false }).modTim
    fun map => map.erase (s.sta i).aid

/-- The part of `expire_timeout` that checks whether a sleeping station is alive. -/
def aliveCheck (s : ApPriv n) (i : Fin n) : ApPriv n :=
  let psta := s.sta i
  if psta.asocState ∧ psta.sleepState ∧ ¬ psta.aliveChkState then
    (s.modSta i fun psta => { psta with aliveChkState := true }).modTim (insert psta.aid)
  else s

/-- The part of `expire_timeout` that wakes a station up when too many frames are buffered
for it; `asocListCnt` is the number of associated stations. -/
def sleepqAging (s : ApPriv n) (i : Fin n) (asocListCnt : ℕ) :
    ApPriv n × List (XmitFrame n) :=
  if nrXmitframe / asocListCnt < (s.sta i).sleepqLen.toNat ∧
      s.freeXmitframeCnt < nrXmitframe / asocListCnt / 2 then
    wakeupStaToXmit s i
  else (s, [])

/-! ### Events -/

/-- What happens to an access point. -/
inductive ApEvent
  | xmit (ra : MacAddr) (priority pkt : ℕ)
  | halXmit (k : ℕ) (direct : Bool)
  | dequeue
  | xmitframeComplete (k : ℕ)
  | freeXmitframe
  | mgmtXmit (ra : MacAddr) (psDontq : Bool) (pkt : ℕ)
  | dequeueMgmt
  | dataFrame (ta : MacAddr) (pwrbit qos : Bool) (priority : ℕ)
  | psPoll (ta : MacAddr) (aid priority : ℕ)
  | auth (sa : MacAddr) (res : AuthRes)
  | assocReq (sa : MacAddr) (res : AssocRes) (wmm : Option (BitVec 8)) (ht : Bool)
  | apFreeSta (ta : MacAddr)
  | freeStainfo (ta : MacAddr)
  | aliveCheck (ta : MacAddr)
  /-- The alive check flag is dropped, since the station was heard. -/
  | heard (ta : MacAddr)
  | sleepqAging (ta : MacAddr) (asocListCnt : ℕ)
  | chkBmcSleepq
  | chkHiQueue (hiqEmpty : Bool)
  | apBmcFrames
deriving DecidableEq, Repr

/-- Do something for the station with an address, if there is one. -/
def ApPriv.withSta (s : ApPriv n) (ta : MacAddr) (g : Fin n → ApPriv n × List (ApOut n)) :
    ApPriv n × List (ApOut n) :=
  (rtwGetStainfo s ta).elim (s, []) g

/-- A step of the access point. -/
def apStep (conf : ApConf) (s : ApPriv n) : ApEvent → ApPriv n × List (ApOut n)
  | .xmit ra priority pkt => (rtwXmit s ra priority pkt, [])
  | .halXmit k direct => preXmitframe s k direct
  | .dequeue => dequeueForTransmission conf s
  | .xmitframeComplete k =>
      ((xmitframeComplete conf k s).2, (xmitframeComplete conf k s).1.map .sent)
  | .freeXmitframe => (freeSentXmitframe s, [])
  | .mgmtXmit ra psDontq pkt => rtwHalMgntXmit s ra psDontq pkt
  | .dequeueMgmt => rtwDequeueMgmtXframe s
  | .dataFrame ta pwrbit qos priority => rtwApRxDataValidateHdr s ta pwrbit qos priority
  | .psPoll ta aid priority => validateRecvPsPoll s ta aid priority
  | .auth sa res => (onAuth s sa res, [])
  | .assocReq sa res wmm ht => (onAssocReq conf s sa res wmm ht, [])
  | .apFreeSta ta => s.withSta ta fun i => (apFreeSta s i, [])
  | .freeStainfo ta => s.withSta ta fun i => (rtwFreeStainfo s i, [])
  | .aliveCheck ta => s.withSta ta fun i => (aliveCheck s i, [])
  | .heard ta => s.withSta ta fun i =>
      (s.modSta i fun psta => psta.clearAliveChk, [])
  | .sleepqAging ta asocListCnt => s.withSta ta fun i =>
      ((sleepqAging s i asocListCnt).1, (sleepqAging s i asocListCnt).2.map .released)
  | .chkBmcSleepq => ((chkBmcSleepqHdl s).1, (chkBmcSleepqHdl s).2.map .released)
  | .chkHiQueue hiqEmpty => (rtwChkHiQueueHdl s hiqEmpty, [])
  | .apBmcFrames =>
      ((rtwApBmcFramesHdl conf s).1, (rtwApBmcFramesHdl conf s).2.map .released)

/-- The access point after start: its only station is the broadcast station, in the
entry `b`. -/
def ApPriv.start (b : Fin n) : ApPriv n where
  sta := Function.update (fun _ => {}) b { macAddr := some bcAddr, asocState := true }
  staXmitpriv := fun _ => {}
  hwxmits := fun _ => {}
  mgmtHwxmit := {}
  freeXmitframeCnt := nrXmitframe
  xmitting := []
  sending := 0
  staAid := fun _ => none
  startedAid := 1
  timBitmap := ∅
  staDzBitmap := ∅

/-- The state after a run from the start. -/
abbrev apRun (conf : ApConf) (b : Fin n) (es : List ApEvent) : ApPriv n :=
  Lib.Machine.final (apStep conf) (ApPriv.start b) es

end Rtl8723du
