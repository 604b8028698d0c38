import Rtl8723du.Ap.Xmit

/-!
# Buffering for sleeping stations

The frames for a station in power save wait in its `sleep_q`, group frames in that of the
broadcast station while any station dozes.  They are released when the station wakes up,
one by one on its PS-Polls, in a service period that a frame of a trigger enabled access
category starts, and, group frames, after a beacon.

A loop over a `sleep_q` is written as a loop over the station alone, which also gives the
frames it releases; these go to `rtw_hal_xmitframe_enqueue` afterwards.  That function
changes the transmit queues only, which the loops do not look at.
-/

namespace Rtl8723du

variable {n : ℕ}

/-! ### Going to sleep -/

/-- Append a group frame to the `sleep_q` of the broadcast station. -/
def StaInfo.bufferGroup (psta : StaInfo n) (f : XmitFrame n) : StaInfo n :=
  { psta with sleepQ := psta.sleepQ ++ [f], sleepqLen := psta.sleepqLen + 1 }

/-- Append a frame to the `sleep_q` of its station. -/
def StaInfo.buffer (psta : StaInfo n) (f : XmitFrame n) : StaInfo n :=
  { psta with
    sleepQ := psta.sleepQ ++ [f]
    sleepqLen := psta.sleepqLen + 1
    sleepqAcLen :=
      if (psta.wmmpsAc f.priority).deliveryEnabled then psta.sleepqAcLen + 1
      else psta.sleepqAcLen }

/-- Append a management frame to the `mgmt_sleep_q` of its station. -/
def StaInfo.bufferMgmt (psta : StaInfo n) (f : XmitFrame n) : StaInfo n :=
  { psta with
    mgmtSleepQ := psta.mgmtSleepQ ++ [f]
    mgmtSleepqLen := psta.mgmtSleepqLen + 1 }

/-- A frame of this priority, once buffered, is announced in the TIM: one to be fetched by
PS-Polls, or, when all access categories are delivery enabled, any. -/
def StaInfo.announces (psta : StaInfo n) (priority : ℕ) : Bool :=
  let wmmpsAc := (psta.wmmpsAc priority).deliveryEnabled
  (psta.hasLegacyAc && !wmmpsAc) || (!psta.hasLegacyAc && wmmpsAc)

/-- `xmitframe_enqueue_for_sleeping_sta`; `none` for `_FALSE`, the frame is not buffered. -/
def xmitframeEnqueueForSleepingSta (s : ApPriv n) (f : XmitFrame n) : Option (ApPriv n) :=
  match rtwGetStainfo s f.ra with
  | none => none
  | some i =>
      let psta := s.sta i
      if f.psta ≠ i ∨ ¬ psta.asocState ∨ f.triggered then none
      else if isMcast f.ra then
        -- bit 0 of the bitmap counts as a dozing station, too
        if s.staDzBitmap.Nonempty then
          some (((s.modSta i fun psta => psta.bufferGroup f).modTim (insert 0)).modDz (insert 0))
        else none
      else if psta.sleepState ∧ psta.aid ∈ s.staDzBitmap then
        some ((s.modSta i fun psta => psta.buffer f).modTim
          (if psta.announces f.priority then insert psta.aid else id))
      else none

/-- `mgmt_xmitframe_enqueue_for_sleeping_sta`; `none` when the frame is not buffered. -/
def mgmtXmitframeEnqueueForSleepingSta (s : ApPriv n) (f : XmitFrame n) :
    Option (ApPriv n) :=
  let psta := s.sta f.psta
  if f.ra = bcAddr ∨ f.psDontq then none
  else if psta.asocState ∧ psta.sleepState ∧ psta.aid ∈ s.staDzBitmap then
    some ((s.modSta f.psta fun psta => psta.bufferMgmt f).modTim (insert psta.aid))
  else none

/-- What it takes for a frame to be buffered, and what happens then. -/
lemma xmitframeEnqueueForSleepingSta_cases {s s' : ApPriv n} {f : XmitFrame n}
    (h : xmitframeEnqueueForSleepingSta s f = some s') :
    ∃ i, rtwGetStainfo s f.ra = some i ∧ f.psta = i ∧ (s.sta i).asocState = true ∧
      ((isMcast f.ra = true ∧ s.staDzBitmap.Nonempty ∧
          s' = ((s.modSta i fun psta => psta.bufferGroup f).modTim (insert 0)).modDz
            (insert 0)) ∨
        (isMcast f.ra = false ∧ (s.sta i).sleepState = true ∧
          (s.sta i).aid ∈ s.staDzBitmap ∧
          s' = (s.modSta i fun psta => psta.buffer f).modTim
            (if (s.sta i).announces f.priority then insert (s.sta i).aid else id))) := by
  simp only [xmitframeEnqueueForSleepingSta] at h
  cases hi : rtwGetStainfo s f.ra with
  | none => simp [hi] at h
  | some i =>
      rw [hi] at h
      dsimp only at h
      refine ⟨i, rfl, ?_⟩
      by_cases hguard : f.psta ≠ i ∨ ¬ (s.sta i).asocState ∨ f.triggered
      · rw [if_pos hguard] at h
        cases h
      · rw [if_neg hguard] at h
        push Not at hguard
        refine ⟨hguard.1, hguard.2.1, ?_⟩
        by_cases hmc : isMcast f.ra
        · rw [if_pos hmc] at h
          exact .inl ⟨hmc, by grind⟩
        · rw [if_neg hmc] at h
          exact .inr ⟨by simpa using hmc, by grind⟩

lemma mgmtXmitframeEnqueueForSleepingSta_cases {s s' : ApPriv n} {f : XmitFrame n}
    (h : mgmtXmitframeEnqueueForSleepingSta s f = some s') :
    f.ra ≠ bcAddr ∧ (s.sta f.psta).asocState = true ∧ (s.sta f.psta).sleepState = true ∧
      (s.sta f.psta).aid ∈ s.staDzBitmap ∧
      s' = (s.modSta f.psta fun psta => psta.bufferMgmt f).modTim
        (insert (s.sta f.psta).aid) := by
  simp only [mgmtXmitframeEnqueueForSleepingSta] at h
  by_cases hra : f.ra = bcAddr ∨ f.psDontq
  · rw [if_pos hra] at h
    cases h
  · rw [if_neg hra] at h
    push Not at hra
    exact ⟨hra.1, by grind⟩

/-- The loop of `dequeue_xmitframes_to_sleeping_queue`.  A frame that is not buffered
stays in the queue it was in. -/
def dequeueLoop (i : Fin n) (ac : Ac) : List (XmitFrame n) → ApPriv n → ApPriv n
  | [], s => s
  | f :: rest, s =>
      let f := { f with triggered := false }
      match xmitframeEnqueueForSleepingSta s f with
      | some s' =>
          let ac' := acOf f.priority
          dequeueLoop i ac rest
            ((s'.modXmit i fun p => p.modAcQ ac' fun q => q.countOff).modHw ac'
              fun h => h.count (-1))
      | none =>
          dequeueLoop i ac rest (s.modXmit i fun p => p.modAcQ ac fun q => q.keep f)

/-- `dequeue_xmitframes_to_sleeping_queue` on the queue of an access category, and the
`rtw_list_delete` of its `tx_pending` that follows it. -/
def dequeueXmitframesToSleepingQueue (i : Fin n) (s : ApPriv n) (ac : Ac) : ApPriv n :=
  (dequeueLoop i ac ((s.staXmitpriv i).acQ ac).staPending
    (s.modXmit i fun p => p.modAcQ ac fun q => q.clear)).modHw ac fun h => h.unlink i

/-- The loop of `dequeue_mgmt_xmitframe_to_sleepq`. -/
def dequeueMgmtLoop (i : Fin n) : List (XmitFrame n) → ApPriv n → ApPriv n
  | [], s => s
  | f :: rest, s =>
      let f := { f with triggered := false }
      match mgmtXmitframeEnqueueForSleepingSta s f with
      | some s' =>
          dequeueMgmtLoop i rest
            ((s'.modXmit i fun p => p.modMgmtQ fun q => q.countOff).modMgmtHw
              fun h => h.count (-1))
      | none =>
          dequeueMgmtLoop i rest (s.modXmit i fun p => p.modMgmtQ fun q => q.keep f)

/-- `dequeue_mgmt_xmitframe_to_sleepq` and the `rtw_list_delete` that follows it. -/
def dequeueMgmtXmitframeToSleepq (i : Fin n) (s : ApPriv n) : ApPriv n :=
  (dequeueMgmtLoop i (s.staXmitpriv i).mgmtQ.staPending
    (s.modXmit i fun p => p.modMgmtQ fun q => q.clear)).modMgmtHw fun h => h.unlink i

/-- `stop_sta_xmit`: the station goes to sleep, what waits for it and all waiting group
frames are buffered. -/
def stopStaXmit (s : ApPriv n) (i : Fin n) : ApPriv n :=
  let s := s.modSta i fun psta => psta.fallAsleep
  let s := s.modDz (insert (s.sta i).aid)
  let s := dequeueMgmtXmitframeToSleepq i s
  let s := [Ac.vo, .vi, .be, .bk].foldl (dequeueXmitframesToSleepingQueue i) s
  match rtwGetBcmcStainfo s with
  | none => s
  | some b => [Ac.vo, .vi, .be, .bk].foldl (dequeueXmitframesToSleepingQueue b) s

/-! ### Release -/

/-- A loop over the frames of a `sleep_q` that takes every one of them out. -/
def releaseLoop (turn : StaInfo n → XmitFrame n → StaInfo n × XmitFrame n) :
    List (XmitFrame n) → StaInfo n → StaInfo n × List (XmitFrame n)
  | [], psta => (psta, [])
  | f :: rest, psta =>
      ((releaseLoop turn rest (turn psta f).1).1,
        (turn psta f).2 :: (releaseLoop turn rest (turn psta f).1).2)

/-- A turn of the loop of `wakeup_sta_to_xmit` over the `sleep_q`. -/
def wakeupTurn (psta : StaInfo n) (f : XmitFrame n) : StaInfo n × XmitFrame n :=
  let wmmpsAc := (psta.wmmpsAc f.priority).triggerEnabled
  let sleepqLen := psta.sleepqLen - 1
  let f := { f with mdata := sleepqLen != 0, triggered := true }
  if wmmpsAc then
    let sleepqAcLen := psta.sleepqAcLen - 1
    ({ psta with sleepQ := psta.sleepQ.tail, sleepqLen, sleepqAcLen },
      { f with mdata := sleepqAcLen != 0, eosp := sleepqAcLen == 0 })
  else ({ psta with sleepQ := psta.sleepQ.tail, sleepqLen }, f)

/-- A turn of the loops over the `sleep_q` of the broadcast station. -/
def bmcTurn (psta : StaInfo n) (f : XmitFrame n) : StaInfo n × XmitFrame n :=
  let sleepqLen := psta.sleepqLen - 1
  ({ psta with sleepQ := psta.sleepQ.tail, sleepqLen },
    { f with mdata := sleepqLen != 0, triggered := true })

/-- A turn of the loop of `wakeup_sta_to_xmit` over the `mgmt_sleep_q`. -/
def mgmtTurn (psta : StaInfo n) (f : XmitFrame n) : StaInfo n × XmitFrame n :=
  ({ psta with mgmtSleepQ := psta.mgmtSleepQ.tail, mgmtSleepqLen := psta.mgmtSleepqLen - 1 },
    { f with triggered := true })

/-- Release all frames of the `mgmt_sleep_q`. -/
def releaseMgmt (i : Fin n) (s : ApPriv n) : ApPriv n :=
  let r := releaseLoop mgmtTurn (s.sta i).mgmtSleepQ (s.sta i)
  r.2.foldl rtwHalMgmtXmitframeEnqueue (s.modSta i fun _ => r.1)

/-- Release all frames of the `sleep_q` by a loop with the given turn, with them. -/
def releaseSleepQ (turn : StaInfo n → XmitFrame n → StaInfo n × XmitFrame n) (i : Fin n)
    (s : ApPriv n) : ApPriv n × List (XmitFrame n) :=
  let r := releaseLoop turn (s.sta i).sleepQ (s.sta i)
  (r.2.foldl rtwHalXmitframeEnqueue (s.modSta i fun _ => r.1), r.2)

/-- Clear bit 0 of both bitmaps. -/
def clearBmcBits (s : ApPriv n) : ApPriv n :=
  (s.modTim fun map => map.erase 0).modDz fun map => map.erase 0

/-- The part of `wakeup_sta_to_xmit` for group frames. -/
def wakeupBmc (s : ApPriv n) : ApPriv n × List (XmitFrame n) :=
  match rtwGetBcmcStainfo s with
  | none => (s, [])
  | some b =>
      if (s.staDzBitmap.erase 0).Nonempty then (s, [])
      else
        let (s, fs) := releaseSleepQ bmcTurn b s
        (if (s.sta b).sleepqLen = 0 then clearBmcBits s else s, fs)

/-- `wakeup_sta_to_xmit`, with the frames it releases. -/
def wakeupStaToXmit (s : ApPriv n) (i : Fin n) : ApPriv n × List (XmitFrame n) :=
  let s := releaseMgmt i s
  let (s, fs) := releaseSleepQ wakeupTurn i s
  let s :=
    if (s.sta i).sleepqLen = 0 ∧ (s.sta i).mgmtSleepqLen = 0 then
      ((s.modSta i fun psta => psta.wakeUp).modTim
        fun map => map.erase (s.sta i).aid).modDz fun map => map.erase (s.sta i).aid
    else s
  let (s, gs) := wakeupBmc s
  (s, fs ++ gs)

/-- The station before the loop of `xmit_delivery_enabled_frames` over its `sleep_q`. -/
def StaInfo.emptySleepQ (psta : StaInfo n) : StaInfo n := { psta with sleepQ := [] }

/-- The loop of `xmit_delivery_enabled_frames` passes a frame over. -/
def StaInfo.passOver (psta : StaInfo n) (f : XmitFrame n) : StaInfo n :=
  { psta with sleepQ := psta.sleepQ ++ [f] }

/-- The loop of `xmit_delivery_enabled_frames` releases a frame. -/
def deliveryTurn (psta : StaInfo n) (f : XmitFrame n) : StaInfo n × XmitFrame n :=
  let sleepqAcLen := psta.sleepqAcLen - 1
  ({ psta with sleepqLen := psta.sleepqLen - 1, sleepqAcLen },
    { f with mdata := sleepqAcLen != 0, eosp := sleepqAcLen == 0, triggered := true })

/-- The loop of `xmit_delivery_enabled_frames`.  `psta.sleepQ` holds the frames that were
passed over; the last component says that the TIM bit is to be cleared. -/
def deliveryLoop : List (XmitFrame n) → StaInfo n → StaInfo n × List (XmitFrame n) × Bool
  | [], psta => (psta, [], false)
  | f :: rest, psta =>
      if (psta.wmmpsAc f.priority).triggerEnabled then
        let t := deliveryTurn psta f
        let r := deliveryLoop rest t.1
        (r.1, t.2 :: r.2.1, (t.1.sleepqAcLen == 0 && !psta.hasLegacyAc) || r.2.2)
      else deliveryLoop rest (psta.passOver f)

/-- `xmit_delivery_enabled_frames`, with the frames it releases. -/
def xmitDeliveryEnabledFrames (s : ApPriv n) (i : Fin n) : ApPriv n × List (XmitFrame n) :=
  let r := deliveryLoop (s.sta i).sleepQ (s.sta i).emptySleepQ
  let s := r.2.1.foldl rtwHalXmitframeEnqueue (s.modSta i fun _ => r.1)
  (if r.2.2 then s.modTim fun map => map.erase (s.sta i).aid else s, r.2.1)

/-! ### Received frames -/

/-- What the access point hands out on an event. -/
inductive ApOut (n : ℕ)
  /-- A frame given to `rtw_hal_xmitframe_enqueue`. -/
  | released (f : XmitFrame n)
  /-- `issue_qos_nulldata` to a station, with the More Data and EOSP bits it sets. -/
  | qosNull (i : Fin n) (priority : ℕ) (mdata eosp : Bool)
  /-- `issue_nulldata` to a station, with More Data 0. -/
  | nulldata (i : Fin n)
  /-- A frame that is sent. -/
  | sent (f : XmitFrame n)
deriving DecidableEq, Repr

/-- `process_pwrbit_data`. -/
def processPwrbitData (s : ApPriv n) (i : Fin n) (pwrbit : Bool) : ApPriv n × List (ApOut n) :=
  if pwrbit then
    (if (s.sta i).sleepState then s else stopStaXmit s i, [])
  else if (s.sta i).sleepState then
    ((wakeupStaToXmit s i).1, (wakeupStaToXmit s i).2.map .released)
  else (s, [])

/-- The station of a received frame starts a service period: the guards of
`process_wmmps_data`. -/
def StaInfo.startsServicePeriod (psta : StaInfo n) (priority : ℕ) : Bool :=
  psta.qosOption && psta.qosInfo &&& 0xf#8 != 0#8 && psta.sleepState &&
    (psta.wmmpsAc priority).triggerEnabled

/-- `process_wmmps_data`. -/
def processWmmpsData (s : ApPriv n) (i : Fin n) (priority : ℕ) : ApPriv n × List (ApOut n) :=
  if (s.sta i).startsServicePeriod priority then
    if (s.sta i).sleepqAcLen ≠ 0 then
      ((xmitDeliveryEnabledFrames s i).1, (xmitDeliveryEnabledFrames s i).2.map .released)
    else (s, [.qosNull i priority false true])
  else (s, [])

/-- The part of `rtw_ap_rx_data_validate_hdr` for the transmitter of a data frame. -/
def rtwApRxDataValidateHdr (s : ApPriv n) (ta : MacAddr) (pwrbit qos : Bool) (priority : ℕ) :
    ApPriv n × List (ApOut n) :=
  match rtwGetStainfo s ta with
  | none => (s, [])
  | some i =>
      let r := processPwrbitData s i pwrbit
      if qos then
        ((processWmmpsData r.1 i priority).1, r.2 ++ (processWmmpsData r.1 i priority).2)
      else r

/-- The station whose `sleep_q` a PS-Poll is served from: the guards that
`validate_recv_ctrl_frame` makes. -/
def psPollServes (s : ApPriv n) (ta : MacAddr) (aid priority : ℕ) : Option (Fin n) :=
  (rtwGetStainfo s ta).filter fun i =>
    let psta := s.sta i
    psta.aid = aid ∧ ¬ (psta.wmmpsAc priority).deliveryEnabled ∧ psta.sleepState ∧
      psta.aid ∈ s.staDzBitmap

/-- A PS-Poll takes the first frame of the queue and leaves `rest`. -/
def StaInfo.psPollTurn (psta : StaInfo n) (rest : List (XmitFrame n)) : StaInfo n :=
  { psta with sleepQ := rest, sleepqLen := psta.sleepqLen - 1 }

/-- A PS-Poll finds the frame `f` first in the queue, with `rest` behind it. -/
def psPollRelease (s : ApPriv n) (i : Fin n) (f : XmitFrame n) (rest : List (XmitFrame n)) :
    ApPriv n × List (ApOut n) :=
  let s := s.modSta i fun psta => psta.psPollTurn rest
  let sleepqLen := (s.sta i).sleepqLen
  let f := { f with mdata := sleepqLen != 0, triggered := true }
  let s' := rtwHalXmitframeEnqueue s f
  (if sleepqLen = 0 then s'.modTim fun map => map.erase (s.sta i).aid else s', [.released f])

/-- The length is found to be wrong and set to 0. -/
def StaInfo.resetSleepqLen (psta : StaInfo n) : StaInfo n := { psta with sleepqLen := 0 }

/-- A PS-Poll finds no frame. -/
def psPollEmpty (s : ApPriv n) (i : Fin n) : ApPriv n × List (ApOut n) :=
  if (s.sta i).aid ∈ s.timBitmap then
    let s' := s.modTim fun map => map.erase (s.sta i).aid
    if (s.sta i).sleepqLen = 0 then (s', [.nulldata i])
    else (s'.modSta i fun psta => psta.resetSleepqLen, [])
  else (s, [])

/-- The PS-Poll part of `validate_recv_ctrl_frame`; `priority` is that of the PS-Poll. -/
def validateRecvPsPoll (s : ApPriv n) (ta : MacAddr) (aid priority : ℕ) :
    ApPriv n × List (ApOut n) :=
  match rtwGetStainfo s ta with
  | none => (s, [])
  | some i =>
      if (s.sta i).aid ≠ aid ∨ ((s.sta i).wmmpsAc priority).deliveryEnabled then (s, [])
      else
        let s := s.modSta i fun psta => psta.clearAliveChk
        if (s.sta i).sleepState ∧ (s.sta i).aid ∈ s.staDzBitmap then
          match (s.sta i).sleepQ with
          | f :: rest => psPollRelease s i f rest
          | [] => psPollEmpty s i
        else (s, [])

/-- A PS-Poll is not served and the state stays as it is up to the alive check flag, or
it is served. -/
lemma validateRecvPsPoll_cases (s : ApPriv n) (ta : MacAddr) (aid priority : ℕ) :
    ((∀ i, psPollServes s ta aid priority ≠ some i) ∧
      (validateRecvPsPoll s ta aid priority = (s, []) ∨
        ∃ i, validateRecvPsPoll s ta aid priority =
          (s.modSta i fun psta => psta.clearAliveChk, []))) ∨
    ∃ i s', psPollServes s ta aid priority = some i ∧
      s' = (s.modSta i fun psta => psta.clearAliveChk) ∧
      ((∃ f rest, (s.sta i).sleepQ = f :: rest ∧
          validateRecvPsPoll s ta aid priority = psPollRelease s' i f rest) ∨
        ((s.sta i).sleepQ = [] ∧
          validateRecvPsPoll s ta aid priority = psPollEmpty s' i)) := by
  cases hi : rtwGetStainfo s ta with
  | none => exact .inl ⟨by simp [psPollServes, hi], .inl (by simp [validateRecvPsPoll, hi])⟩
  | some i =>
      simp only [validateRecvPsPoll, psPollServes, hi, Option.filter_some,
        ApPriv.modSta_sta_self, ApPriv.modSta_staDzBitmap, StaInfo.clearAliveChk]
      by_cases hguard : (s.sta i).aid ≠ aid ∨ ((s.sta i).wmmpsAc priority).deliveryEnabled
      · rw [if_pos hguard]
        exact .inl ⟨by grind, .inl rfl⟩
      · rw [if_neg hguard]
        push Not at hguard
        by_cases hsleep : (s.sta i).sleepState = true ∧ (s.sta i).aid ∈ s.staDzBitmap
        · refine .inr ⟨i, _, ?_, rfl, ?_⟩
          · simp [hguard.2, hsleep, ← hguard.1]
          · rw [if_pos hsleep]
            cases hq : (s.sta i).sleepQ with
            | nil => exact .inr ⟨rfl, rfl⟩
            | cons f rest => exact .inl ⟨f, rest, rfl, rfl⟩
        · refine .inl ⟨by grind, .inr ⟨i, ?_⟩⟩
          rw [if_neg hsleep]

/-! ### Group frames after a beacon -/

/-- `chk_bmc_sleepq_hdl`. -/
def chkBmcSleepqHdl (s : ApPriv n) : ApPriv n × List (XmitFrame n) :=
  match rtwGetBcmcStainfo s with
  | none => (s, [])
  | some b =>
      if 0 ∈ s.timBitmap ∧ (s.sta b).sleepqLen ≠ 0 then
        releaseSleepQ bmcTurn b s
      else (s, [])

/-- `rtw_chk_hi_queue_hdl`; `hiqEmpty` is what the hardware says of its queue. -/
def rtwChkHiQueueHdl (s : ApPriv n) (hiqEmpty : Bool) : ApPriv n :=
  match rtwGetBcmcStainfo s with
  | none => s
  | some b => if (s.sta b).sleepqLen = 0 ∧ hiqEmpty then clearBmcBits s else s

/-- `HIQ_XMIT_COUNTS`. -/
abbrev hiqXmitCounts : ℕ := 6

/-- `rtw_ap_bmc_frames_hdl`: at most `HIQ_XMIT_COUNTS` group frames, the last of that many
with More Data 0. -/
def rtwApBmcFramesHdl (conf : ApConf) (s : ApPriv n) : ApPriv n × List (XmitFrame n) :=
  if ¬ conf.wifiSpec then (s, [])
  else
    match rtwGetBcmcStainfo s with
    | none => (s, [])
    | some b =>
        if 0 ∈ s.timBitmap ∧ (s.sta b).sleepqLen ≠ 0 then
          let r := releaseLoop bmcTurn ((s.sta b).sleepQ.take hiqXmitCounts) (s.sta b)
          let fs := r.2.mapIdx fun k f =>
            if k + 1 = hiqXmitCounts then { f with mdata := false } else f
          (fs.foldl rtwHalXmitframeEnqueue (s.modSta b fun _ => r.1), fs)
        else if (s.sta b).sleepqLen = 0 then (clearBmcBits s, [])
        else (s, [])

end Rtl8723du
