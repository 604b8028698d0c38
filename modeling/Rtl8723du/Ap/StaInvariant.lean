import Rtl8723du.Ap.ApStep

/-!
# Invariants of the stations

What the access point does to a station is put together from a few elementary changes: a
frame is appended to one of its queues, the turns of the release loops, and the changes
of association.  `KeptBy Q` says that a property `Q` of a station is kept by them.  Such a
property of all stations is then kept by every event, but for two that need a closer look,
a PS-Poll that is served and a WMM element that is read (`apStep_kept`).
-/

namespace Rtl8723du

variable {n : ℕ}

/-- The part of a station that is about buffered frames: the rest are its states, its AID
and its QoS option. -/
def StaInfo.buffers (psta : StaInfo n) :=
  ((psta.macAddr, psta.uapsdVo, psta.uapsdVi, psta.uapsdBe, psta.uapsdBk),
    (psta.sleepQ, psta.sleepqLen, psta.sleepqAcLen, psta.mgmtSleepQ, psta.mgmtSleepqLen))

/-- A property of a station is kept by the elementary changes. -/
structure KeptBy (Q : StaInfo n → Prop) : Prop where
  buffers : ∀ (psta : StaInfo n) {psta' : StaInfo n}, psta'.buffers = psta.buffers → Q psta →
    Q psta'
  fresh : ∀ {a : MacAddr}, a ≠ bcAddr → Q { macAddr := some a }
  blank : Q {}
  bufferGroup : ∀ {psta : StaInfo n} (f : XmitFrame n), psta.macAddr = some bcAddr → Q psta →
    Q (psta.bufferGroup f)
  buffer : ∀ {psta : StaInfo n} (f : XmitFrame n), Q psta → Q (psta.buffer f)
  bufferMgmt : ∀ {psta : StaInfo n} (f : XmitFrame n), Q psta → Q (psta.bufferMgmt f)
  wakeupTurn : ∀ {psta : StaInfo n} {f : XmitFrame n} {rest : List (XmitFrame n)},
    psta.sleepQ = f :: rest → Q psta → Q (wakeupTurn psta f).1
  bmcTurn : ∀ {psta : StaInfo n} {f : XmitFrame n} {rest : List (XmitFrame n)},
    psta.sleepQ = f :: rest → psta.macAddr = some bcAddr → Q psta → Q (bmcTurn psta f).1
  mgmtTurn : ∀ {psta : StaInfo n} {f : XmitFrame n} {rest : List (XmitFrame n)},
    psta.mgmtSleepQ = f :: rest → Q psta → Q (mgmtTurn psta f).1
  delivery : ∀ {psta : StaInfo n}, Q psta →
    Q (deliveryLoop psta.sleepQ psta.emptySleepQ).1
  resetLen : ∀ {psta : StaInfo n}, psta.sleepQ = [] → Q psta →
    Q psta.resetSleepqLen

/-- A property of every station. -/
def AllSta (Q : StaInfo n → Prop) (s : ApPriv n) : Prop := ∀ j, Q (s.sta j)

variable {Q : StaInfo n → Prop} {s : ApPriv n} {i : Fin n}

lemma AllSta.modSta (hs : AllSta Q s) (i : Fin n) (g : StaInfo n → StaInfo n)
    (hg : Q (g (s.sta i))) : AllSta Q (s.modSta i g) := by
  intro j
  by_cases hj : j = i
  · subst hj
    simpa using hg
  · rw [ApPriv.modSta_sta_of_ne s hj]
    exact hs j

lemma AllSta.of_sta_eq (hs : AllSta Q s) {s' : ApPriv n} (h : s'.sta = s.sta) : AllSta Q s' := by
  intro j
  rw [h]
  exact hs j

/-! ### Looking a station up -/

lemma macAddr_of_rtwGetStainfo {hwaddr : MacAddr} (h : rtwGetStainfo s hwaddr = some i) :
    (s.sta i).macAddr = some (if isMcast hwaddr then bcAddr else hwaddr) := by
  simpa using List.find?_some h

lemma isMcast_bcAddr : isMcast bcAddr = true := by decide

lemma macAddr_of_rtwGetBcmcStainfo (h : rtwGetBcmcStainfo s = some i) :
    (s.sta i).macAddr = some bcAddr := by
  have := macAddr_of_rtwGetStainfo h
  simpa [isMcast_bcAddr] using this

lemma ne_bcAddr_of_not_isMcast {a : MacAddr} (h : ¬ isMcast a = true) : a ≠ bcAddr := by
  rintro rfl
  exact h isMcast_bcAddr

/-! ### The transmit queues -/

lemma rtwXmitClassifier_sta {f : XmitFrame n} {s' : ApPriv n}
    (h : rtwXmitClassifier s f = some s') : s'.sta = s.sta := by
  unfold rtwXmitClassifier at h
  split at h
  · cases h
  · split at h
    · cases h
      rfl
    · cases h

@[simp] lemma rtwHalXmitframeEnqueue_sta (s : ApPriv n) (f : XmitFrame n) :
    (rtwHalXmitframeEnqueue s f).sta = s.sta := by
  rw [rtwHalXmitframeEnqueue]
  cases h : rtwXmitClassifier s f with
  | none => rfl
  | some s' => exact rtwXmitClassifier_sta h

@[simp] lemma foldl_rtwHalXmitframeEnqueue_sta (fs : List (XmitFrame n)) (s : ApPriv n) :
    (fs.foldl rtwHalXmitframeEnqueue s).sta = s.sta := by
  induction fs generalizing s with
  | nil => rfl
  | cons f fs ih => rw [List.foldl_cons, ih, rtwHalXmitframeEnqueue_sta]

@[simp] lemma rtwHalMgmtXmitframeEnqueue_sta (s : ApPriv n) (f : XmitFrame n) :
    (rtwHalMgmtXmitframeEnqueue s f).sta = s.sta := by
  rw [rtwHalMgmtXmitframeEnqueue, rtwMgmtXmitframeEnqueue]
  split
  · rfl
  · split <;> rfl

@[simp] lemma foldl_rtwHalMgmtXmitframeEnqueue_sta (fs : List (XmitFrame n)) (s : ApPriv n) :
    (fs.foldl rtwHalMgmtXmitframeEnqueue s).sta = s.sta := by
  induction fs generalizing s with
  | nil => rfl
  | cons f fs ih => rw [List.foldl_cons, ih, rtwHalMgmtXmitframeEnqueue_sta]

lemma dequeueOneXmitframe_sta {ac : Ac} {f : XmitFrame n} {s' : ApPriv n}
    (h : dequeueOneXmitframe s ac i = some (f, s')) : s'.sta = s.sta := by
  unfold dequeueOneXmitframe at h
  split at h
  · cases h
  · cases h
    rfl

/-- A frame that `rtw_dequeue_xframe` gives is the first of some queue. -/
lemma exists_of_rtwDequeueXframe {conf : ApConf} {r : XmitFrame n × ApPriv n}
    (h : rtwDequeueXframe conf s = some r) :
    ∃ ac i, i ∈ (s.hwxmits ac).staQueue ∧ dequeueOneXmitframe s ac i = some r := by
  obtain ⟨ac, -, hac⟩ := List.exists_of_findSome?_eq_some h
  obtain ⟨i, hi, hd⟩ := List.exists_of_findSome?_eq_some hac
  exact ⟨ac, i, hi, hd⟩

lemma rtwDequeueXframe_sta {conf : ApConf} {f : XmitFrame n} {s' : ApPriv n}
    (h : rtwDequeueXframe conf s = some (f, s')) : s'.sta = s.sta := by
  obtain ⟨ac, i, -, hd⟩ := exists_of_rtwDequeueXframe h
  exact dequeueOneXmitframe_sta hd

lemma aggregate_sta (ac : Ac) (i : Fin n) (k : ℕ) (s : ApPriv n) :
    (aggregate ac i k s).2.sta = s.sta := by
  induction k generalizing s with
  | zero => rfl
  | succ k ih =>
      rw [aggregate]
      cases h : dequeueOneXmitframe s ac i with
      | none => rfl
      | some r =>
          obtain ⟨f, s'⟩ := r
          exact (ih s').trans (dequeueOneXmitframe_sta h)

lemma xmitframeComplete_sta (conf : ApConf) (k : ℕ) (s : ApPriv n) :
    (xmitframeComplete conf k s).2.sta = s.sta := by
  rw [xmitframeComplete]
  split
  · rfl
  · rename_i f s' h
    have hs' : (aggregate (acOf f.priority) f.psta k s').2.sta = s.sta :=
      (aggregate_sta _ _ k s').trans (rtwDequeueXframe_sta h)
    dsimp only
    split
    · exact hs'
    · split
      · exact hs'
      · exact hs'

/-! ### Going to sleep -/

variable (hQ : KeptBy Q)

include hQ

lemma AllSta.enqueue (hs : AllSta Q s) {f : XmitFrame n} {s' : ApPriv n}
    (h : xmitframeEnqueueForSleepingSta s f = some s') : AllSta Q s' := by
  obtain ⟨i, hi, -, -, ⟨hmc, -, rfl⟩ | ⟨-, -, -, rfl⟩⟩ := xmitframeEnqueueForSleepingSta_cases h
  · have hb := macAddr_of_rtwGetStainfo hi
    rw [if_pos hmc] at hb
    exact hs.modSta i (fun psta => psta.bufferGroup f) (hQ.bufferGroup f hb (hs i))
  · exact hs.modSta i (fun psta => psta.buffer f) (hQ.buffer f (hs i))

lemma AllSta.mgmtEnqueue (hs : AllSta Q s) {f : XmitFrame n} {s' : ApPriv n}
    (h : mgmtXmitframeEnqueueForSleepingSta s f = some s') : AllSta Q s' := by
  obtain ⟨-, -, -, -, rfl⟩ := mgmtXmitframeEnqueueForSleepingSta_cases h
  exact hs.modSta f.psta (fun psta => psta.bufferMgmt f) (hQ.bufferMgmt f (hs f.psta))

lemma AllSta.dequeueLoop (i : Fin n) (ac : Ac) (fs : List (XmitFrame n)) :
    ∀ {s : ApPriv n}, AllSta Q s → AllSta Q (dequeueLoop i ac fs s) := by
  induction fs with
  | nil => exact id
  | cons f rest ih =>
      intro s hs
      rw [Rtl8723du.dequeueLoop]
      dsimp only
      split
      · rename_i s' h
        exact ih ((hs.enqueue hQ h).of_sta_eq rfl)
      · exact ih (hs.of_sta_eq rfl)

lemma AllSta.dequeueXmitframes (i : Fin n) (acs : List Ac) :
    ∀ {s : ApPriv n}, AllSta Q s →
      AllSta Q (acs.foldl (dequeueXmitframesToSleepingQueue i) s) := by
  induction acs with
  | nil => exact id
  | cons ac acs ih =>
      intro s hs
      refine ih ?_
      have hloop := AllSta.dequeueLoop hQ i ac ((s.staXmitpriv i).acQ ac).staPending
        (s := s.modXmit i fun p => p.modAcQ ac fun q => q.clear)
        (hs.of_sta_eq rfl)
      exact hloop.of_sta_eq rfl

lemma AllSta.dequeueMgmtLoop (i : Fin n) (fs : List (XmitFrame n)) :
    ∀ {s : ApPriv n}, AllSta Q s → AllSta Q (dequeueMgmtLoop i fs s) := by
  induction fs with
  | nil => exact id
  | cons f rest ih =>
      intro s hs
      rw [Rtl8723du.dequeueMgmtLoop]
      split
      · rename_i s' h
        exact ih ((hs.mgmtEnqueue hQ h).of_sta_eq rfl)
      · exact ih (hs.of_sta_eq rfl)

lemma AllSta.dequeueMgmt (hs : AllSta Q s) (i : Fin n) :
    AllSta Q (dequeueMgmtXmitframeToSleepq i s) := by
  have hloop := AllSta.dequeueMgmtLoop hQ i (s.staXmitpriv i).mgmtQ.staPending
    (s := s.modXmit i fun p => p.modMgmtQ fun q => q.clear)
    (hs.of_sta_eq rfl)
  exact hloop.of_sta_eq rfl

lemma AllSta.stopStaXmit (hs : AllSta Q s) (i : Fin n) : AllSta Q (stopStaXmit s i) := by
  have hsleep : AllSta Q (s.modSta i fun psta => psta.fallAsleep) :=
    hs.modSta i _ (hQ.buffers (s.sta i) rfl (hs i))
  have hdz : AllSta Q ((s.modSta i fun psta => psta.fallAsleep).modDz
      (insert ((s.modSta i fun psta => psta.fallAsleep).sta i).aid)) :=
    hsleep.of_sta_eq rfl
  have hmgmt := AllSta.dequeueMgmt hQ hdz i
  have hac := AllSta.dequeueXmitframes hQ i [.vo, .vi, .be, .bk] hmgmt
  unfold Rtl8723du.stopStaXmit
  dsimp only
  split
  · exact hac
  · exact AllSta.dequeueXmitframes hQ _ _ hac

/-! ### Release -/

omit hQ in
/-- A release loop over the whole queue keeps what its turns keep. -/
lemma releaseLoop_kept {turn : StaInfo n → XmitFrame n → StaInfo n × XmitFrame n}
    (queue : StaInfo n → List (XmitFrame n)) (hqueue : ∀ psta f, queue (turn psta f).1 =
      (queue psta).tail)
    (hturn : ∀ psta f rest, queue psta = f :: rest → Q psta → Q (turn psta f).1) :
    ∀ {fs rest : List (XmitFrame n)} {psta : StaInfo n}, queue psta = fs ++ rest → Q psta →
      Q (releaseLoop turn fs psta).1 := by
  intro fs
  induction fs with
  | nil => exact fun _ h => h
  | cons f fs ih =>
      intro rest psta hfs h
      refine @ih rest _ ?_ (hturn psta f (fs ++ rest) hfs h)
      rw [hqueue, hfs]
      rfl

lemma AllSta.releaseMgmt (hs : AllSta Q s) (i : Fin n) : AllSta Q (releaseMgmt i s) := by
  have hloop : Q (releaseLoop mgmtTurn (s.sta i).mgmtSleepQ (s.sta i)).1 :=
    releaseLoop_kept StaInfo.mgmtSleepQ (fun _ _ => rfl)
      (fun _ _ _ hq h => hQ.mgmtTurn hq h) (List.append_nil _).symm (hs i)
  refine AllSta.of_sta_eq (hs.modSta i (fun _ => _) hloop) ?_
  simp [Rtl8723du.releaseMgmt]

omit hQ in
lemma wakeupTurn_sleepQ (psta : StaInfo n) (f : XmitFrame n) :
    (wakeupTurn psta f).1.sleepQ = psta.sleepQ.tail := by
  cases h : (psta.wmmpsAc f.priority).triggerEnabled <;> simp [wakeupTurn, h]

lemma AllSta.releaseWakeup (hs : AllSta Q s) (i : Fin n) :
    AllSta Q (releaseSleepQ wakeupTurn i s).1 := by
  have hloop : Q (releaseLoop wakeupTurn (s.sta i).sleepQ (s.sta i)).1 :=
    releaseLoop_kept StaInfo.sleepQ wakeupTurn_sleepQ
      (fun _ _ _ hq h => hQ.wakeupTurn hq h) (List.append_nil _).symm (hs i)
  refine AllSta.of_sta_eq (hs.modSta i (fun _ => _) hloop) ?_
  simp [releaseSleepQ]

lemma AllSta.releaseBmc (hs : AllSta Q s) (hi : (s.sta i).macAddr = some bcAddr) :
    AllSta Q (releaseSleepQ bmcTurn i s).1 := by
  have hloop : Q (releaseLoop bmcTurn (s.sta i).sleepQ (s.sta i)).1 ∧
      (releaseLoop bmcTurn (s.sta i).sleepQ (s.sta i)).1.macAddr = some bcAddr :=
    releaseLoop_kept (Q := fun psta => Q psta ∧ psta.macAddr = some bcAddr)
      StaInfo.sleepQ (fun _ _ => rfl)
      (fun _ _ _ hq h => ⟨hQ.bmcTurn hq h.2 h.1, h.2⟩) (List.append_nil _).symm ⟨hs i, hi⟩
  refine AllSta.of_sta_eq (hs.modSta i (fun _ => _) hloop.1) ?_
  simp [releaseSleepQ]

lemma AllSta.wakeupBmc (hs : AllSta Q s) : AllSta Q (wakeupBmc s).1 := by
  unfold Rtl8723du.wakeupBmc
  split
  · exact hs
  · rename_i b hb
    split
    · exact hs
    · have hrel := hs.releaseBmc hQ (macAddr_of_rtwGetBcmcStainfo hb)
      dsimp only
      split
      · exact hrel
      · exact hrel

lemma AllSta.wakeupStaToXmit (hs : AllSta Q s) (i : Fin n) :
    AllSta Q (wakeupStaToXmit s i).1 := by
  have hrel := (hs.releaseMgmt hQ i).releaseWakeup hQ i
  unfold Rtl8723du.wakeupStaToXmit
  dsimp only
  refine AllSta.wakeupBmc hQ ?_
  split
  · exact hrel.modSta i (fun psta => psta.wakeUp)
      (hQ.buffers ((releaseSleepQ _ i _).1.sta i) rfl (hrel i))
  · exact hrel

lemma AllSta.xmitDeliveryEnabledFrames (hs : AllSta Q s) (i : Fin n) :
    AllSta Q (xmitDeliveryEnabledFrames s i).1 := by
  have hsta : (Rtl8723du.xmitDeliveryEnabledFrames s i).1.sta =
      (s.modSta i fun _ =>
        (deliveryLoop (s.sta i).sleepQ (s.sta i).emptySleepQ).1).sta := by
    unfold Rtl8723du.xmitDeliveryEnabledFrames
    dsimp only
    split
    · exact foldl_rtwHalXmitframeEnqueue_sta _ _
    · exact foldl_rtwHalXmitframeEnqueue_sta _ _
  exact (hs.modSta i (fun _ => _) (hQ.delivery (hs i))).of_sta_eq hsta

/-! ### Received frames -/

lemma AllSta.processPwrbitData (hs : AllSta Q s) (i : Fin n) (pwrbit : Bool) :
    AllSta Q (processPwrbitData s i pwrbit).1 := by
  unfold Rtl8723du.processPwrbitData
  split
  · dsimp only
    split
    · exact hs
    · exact hs.stopStaXmit hQ i
  · split
    · exact hs.wakeupStaToXmit hQ i
    · exact hs

lemma AllSta.processWmmpsData (hs : AllSta Q s) (i : Fin n) (priority : ℕ) :
    AllSta Q (processWmmpsData s i priority).1 := by
  unfold Rtl8723du.processWmmpsData
  split
  · split
    · exact hs.xmitDeliveryEnabledFrames hQ i
    · exact hs
  · exact hs

lemma AllSta.rtwApRxDataValidateHdr (hs : AllSta Q s) (ta : MacAddr) (pwrbit qos : Bool)
    (priority : ℕ) : AllSta Q (rtwApRxDataValidateHdr s ta pwrbit qos priority).1 := by
  unfold Rtl8723du.rtwApRxDataValidateHdr
  split
  · exact hs
  · rename_i i _
    have hpwr := hs.processPwrbitData hQ i pwrbit
    dsimp only
    split
    · exact hpwr.processWmmpsData hQ i priority
    · exact hpwr

/-- A PS-Poll takes a frame out of a `sleep_q` only where it is served. -/
lemma AllSta.validateRecvPsPoll (hs : AllSta Q s) {ta : MacAddr} {aid priority : ℕ}
    (hpoll : ∀ i ∈ psPollServes s ta aid priority, ∀ f rest, (s.sta i).sleepQ = f :: rest →
      Q ((s.sta i).psPollTurn rest)) :
    AllSta Q (validateRecvPsPoll s ta aid priority).1 := by
  have halive : ∀ i, AllSta Q (s.modSta i fun psta => psta.clearAliveChk) :=
    fun i => hs.modSta i _ (hQ.buffers (s.sta i) rfl (hs i))
  rcases validateRecvPsPoll_cases s ta aid priority with
    ⟨-, h | ⟨i, h⟩⟩ | ⟨i, s', hserves, rfl, ⟨f, rest, hq, h⟩ | ⟨hq, h⟩⟩
  · rw [h]
    exact hs
  · rw [h]
    exact halive i
  · rw [h]
    have hturn := (halive i).modSta i (fun psta => psta.psPollTurn rest)
      (hQ.buffers _ (by simp [StaInfo.buffers, StaInfo.psPollTurn, StaInfo.clearAliveChk])
        (hpoll i hserves f rest hq))
    rw [psPollRelease]
    dsimp only
    split
    · exact hturn.of_sta_eq (rtwHalXmitframeEnqueue_sta _ _)
    · exact hturn.of_sta_eq (rtwHalXmitframeEnqueue_sta _ _)
  · rw [h]
    rw [psPollEmpty]
    split
    · dsimp only
      split
      · exact halive i
      · have htim : AllSta Q ((s.modSta i fun psta => psta.clearAliveChk).modTim
            fun map => map.erase ((s.modSta i fun psta => psta.clearAliveChk).sta i).aid) :=
          halive i
        refine htim.modSta i (fun psta => psta.resetSleepqLen)
          (hQ.buffers _ ?_ (hQ.resetLen hq (hs i)))
        simp [StaInfo.buffers, StaInfo.clearAliveChk, StaInfo.resetSleepqLen]
    · exact halive i

/-! ### Group frames after a beacon -/

lemma AllSta.chkBmcSleepqHdl (hs : AllSta Q s) : AllSta Q (chkBmcSleepqHdl s).1 := by
  unfold Rtl8723du.chkBmcSleepqHdl
  split
  · exact hs
  · rename_i b hb
    split
    · exact hs.releaseBmc hQ (macAddr_of_rtwGetBcmcStainfo hb)
    · exact hs

omit hQ in
lemma AllSta.rtwChkHiQueueHdl (hs : AllSta Q s) (hiqEmpty : Bool) :
    AllSta Q (rtwChkHiQueueHdl s hiqEmpty) := by
  unfold Rtl8723du.rtwChkHiQueueHdl
  split
  · exact hs
  · split
    · exact hs
    · exact hs

lemma AllSta.rtwApBmcFramesHdl (hs : AllSta Q s) (conf : ApConf) :
    AllSta Q (rtwApBmcFramesHdl conf s).1 := by
  unfold Rtl8723du.rtwApBmcFramesHdl
  split
  · exact hs
  · split
    · exact hs
    · rename_i b hb
      split
      · have hloop : Q (releaseLoop bmcTurn ((s.sta b).sleepQ.take hiqXmitCounts) (s.sta b)).1 ∧
            (releaseLoop bmcTurn ((s.sta b).sleepQ.take hiqXmitCounts) (s.sta b)).1.macAddr =
              some bcAddr :=
          releaseLoop_kept (Q := fun psta => Q psta ∧ psta.macAddr = some bcAddr)
            StaInfo.sleepQ (fun _ _ => rfl)
            (fun _ _ _ hq h => ⟨hQ.bmcTurn hq h.2 h.1, h.2⟩)
            (List.take_append_drop hiqXmitCounts _).symm ⟨hs b, macAddr_of_rtwGetBcmcStainfo hb⟩
        exact (hs.modSta b (fun _ => _) hloop.1).of_sta_eq (foldl_rtwHalXmitframeEnqueue_sta _ _)
      · split
        · exact hs
        · exact hs

/-! ### Transmission -/

lemma AllSta.rtwXmit (hs : AllSta Q s) (ra : MacAddr) (priority pkt : ℕ) :
    AllSta Q (rtwXmit s ra priority pkt) := by
  unfold Rtl8723du.rtwXmit
  split
  · exact hs
  · split
    · exact hs
    · split
      · exact hs
      · rename_i i _ _
        dsimp only
        cases h : xmitframeEnqueueForSleepingSta
            { s with freeXmitframeCnt := s.freeXmitframeCnt - 1 }
            { ra, psta := i, priority, pkt } with
        | none => exact hs
        | some s' =>
            have hs' : AllSta Q { s with freeXmitframeCnt := s.freeXmitframeCnt - 1 } := hs
            exact hs'.enqueue hQ h

omit hQ in
lemma AllSta.preXmitframe (hs : AllSta Q s) (k : ℕ) (direct : Bool) :
    AllSta Q (preXmitframe s k direct).1 := by
  unfold Rtl8723du.preXmitframe
  split
  · exact hs
  · dsimp only
    split
    · exact hs
    · exact hs.of_sta_eq (rtwHalXmitframeEnqueue_sta _ _)

omit hQ in
lemma AllSta.dequeueForTransmission (hs : AllSta Q s) (conf : ApConf) :
    AllSta Q (dequeueForTransmission conf s).1 := by
  unfold Rtl8723du.dequeueForTransmission
  split
  · exact hs
  · rename_i f s' h
    have hs' : AllSta Q s' := hs.of_sta_eq (rtwDequeueXframe_sta h)
    exact hs'.of_sta_eq rfl

omit hQ in
lemma AllSta.freeSentXmitframe (hs : AllSta Q s) : AllSta Q (freeSentXmitframe s) := by
  unfold Rtl8723du.freeSentXmitframe
  split
  · exact hs
  · exact hs

lemma AllSta.rtwHalMgntXmit (hs : AllSta Q s) (ra : MacAddr) (psDontq : Bool) (pkt : ℕ) :
    AllSta Q (rtwHalMgntXmit s ra psDontq pkt).1 := by
  unfold Rtl8723du.rtwHalMgntXmit
  split
  · exact hs
  · dsimp only
    split
    · rename_i s' h
      exact hs.mgmtEnqueue hQ h
    · exact hs

omit hQ in
lemma AllSta.rtwDequeueMgmtXframe (hs : AllSta Q s) : AllSta Q (rtwDequeueMgmtXframe s).1 := by
  unfold Rtl8723du.rtwDequeueMgmtXframe
  split
  · exact hs
  · exact hs

/-! ### Stations coming and going -/

lemma AllSta.rtwFreeStainfo (hs : AllSta Q s) (i : Fin n) : AllSta Q (rtwFreeStainfo s i) := by
  intro j
  by_cases hj : j = i
  · subst hj
    refine hQ.buffers {} ?_ hQ.blank
    simp [Rtl8723du.rtwFreeStainfo, StaInfo.buffers]
  · have hsta : (Rtl8723du.rtwFreeStainfo s i).sta j = s.sta j := by
      simp [Rtl8723du.rtwFreeStainfo, hj]
    rw [hsta]
    exact hs j

lemma AllSta.rtwAllocStainfo (hs : AllSta Q s) {hwaddr : MacAddr} (hwaddr_ne : hwaddr ≠ bcAddr)
    {s' : ApPriv n} (h : rtwAllocStainfo s hwaddr = some s') : AllSta Q s' := by
  unfold Rtl8723du.rtwAllocStainfo at h
  split at h
  · cases h
  · cases h
    exact hs.modSta _ (fun _ => { macAddr := some hwaddr }) (hQ.fresh hwaddr_ne)

lemma AllSta.onAuth (hs : AllSta Q s) (sa : MacAddr) (res : AuthRes) :
    AllSta Q (onAuth s sa res) := by
  unfold Rtl8723du.onAuth
  split
  · exact hs
  · rename_i hmc
    dsimp only
    split
    · exact hs
    · rename_i s' h
      have hs' : AllSta Q s' := by
        split at h
        · cases h
          exact hs
        · exact hs.rtwAllocStainfo hQ (ne_bcAddr_of_not_isMcast hmc) h
      split
      · exact hs'
      · rename_i i _
        cases res with
        | fail => exact hs'.rtwFreeStainfo hQ i
        | goOn => exact hs'
        | success => exact hs'.modSta i _ (hQ.buffers (s'.sta i) rfl (hs' i))

omit hQ in
lemma buffers_modSta (s : ApPriv n) (i j : Fin n) {g : StaInfo n → StaInfo n}
    (hg : ∀ psta, (g psta).buffers = psta.buffers) :
    ((s.modSta i g).sta j).buffers = (s.sta j).buffers := by
  by_cases hj : j = i
  · subst hj
    rw [ApPriv.modSta_sta_self, hg]
  · rw [ApPriv.modSta_sta_of_ne s hj]

omit hQ in
lemma buffers_rtwAidAlloc (conf : ApConf) (s : ApPriv n) (i j : Fin n) :
    ((rtwAidAlloc conf s i).sta j).buffers = (s.sta j).buffers := by
  have haid := buffers_modSta s i j
    (g := fun psta => { psta with aid := findAid conf s 0 0 conf.maxAid }) fun _ => rfl
  unfold rtwAidAlloc
  dsimp only
  split
  · exact haid
  · exact haid

omit hQ in
lemma buffers_startAssoc (psta : StaInfo n) : psta.startAssoc.buffers = psta.buffers := by
  rw [StaInfo.startAssoc]
  split
  · rfl
  · rfl

omit hQ in
lemma buffers_assocFinish (conf : ApConf) (s : ApPriv n) (i : Fin n) (res : AssocRes)
    (qosOption : Bool) (j : Fin n) :
    ((assocFinish conf s i res qosOption).sta j).buffers = (s.sta j).buffers := by
  have haid : ((assocAid conf s i).sta j).buffers = (s.sta j).buffers := by
    rw [assocAid]
    split
    · rfl
    · exact buffers_rtwAidAlloc conf s i j
  rw [assocFinish]
  dsimp only
  split
  · exact haid
  · split
    · rw [buffers_modSta _ i j (by intro; rfl), haid]
    · rw [buffers_modSta _ i j (by intro; rfl), buffers_modSta _ i j (by intro; rfl), haid]

omit hQ in
/-- An association request changes the buffers of a station only by the WMM element that is
read for it. -/
lemma buffers_onAssocReq (conf : ApConf) (s : ApPriv n) (sa : MacAddr) (res : AssocRes)
    (wmm : Option (BitVec 8)) (ht : Bool) (j : Fin n) :
    ((onAssocReq conf s sa res wmm ht).sta j).buffers =
      if assocReqReads s sa res = some j then (rtwApParseStaWmmIe wmm (s.sta j)).buffers
      else (s.sta j).buffers := by
  by_cases hmc : isMcast sa
  · simp [onAssocReq, assocReqReads, hmc]
  · cases hi : rtwGetStainfo s sa with
    | none => simp [onAssocReq, assocReqReads, hmc, hi]
    | some i =>
        cases hfw : (s.sta i).fwAuthSuccess || (s.sta i).fwAssocSuccess with
        | false =>
            have hreads : assocReqReads s sa res = none := by
              simp only [assocReqReads, hmc, hi, Option.filter_some, hfw]
              simp
            simp [onAssocReq, hreads, hmc, hi, hfw]
        | true =>
            have hstart := buffers_modSta s i j buffers_startAssoc
            by_cases hearly : res = .failEarly
            · simp [onAssocReq, assocReqReads, hmc, hi, hfw, hearly, hstart]
            · have hparse : (((s.modSta i StaInfo.startAssoc).modSta i
                  (rtwApParseStaWmmIe wmm)).sta j).buffers =
                  if i = j then (rtwApParseStaWmmIe wmm (s.sta j)).buffers
                  else (s.sta j).buffers := by
                by_cases hj : j = i
                · subst hj
                  rw [ApPriv.modSta_sta_self, if_pos rfl, ApPriv.modSta_sta_self]
                  have := buffers_startAssoc (s.sta j)
                  simp only [StaInfo.buffers, Prod.mk.injEq] at this
                  simp [StaInfo.buffers, rtwApParseStaWmmIe, this]
                · rw [if_neg (Ne.symm hj), ApPriv.modSta_sta_of_ne _ hj,
                    ApPriv.modSta_sta_of_ne _ hj]
              have hreads : assocReqReads s sa res = some i := by
                simp [assocReqReads, hmc, hi, hfw, hearly]
              rw [hreads]
              simp only [onAssocReq, hmc, hi, hfw, hearly, if_false, if_true, Bool.false_eq_true,
                Option.some.injEq]
              rw [← hparse]
              split
              · rfl
              · exact buffers_assocFinish conf _ i res _ j

/-! ### Every event -/

/-- What `Q` needs at an event beyond being kept by the elementary changes: a PS-Poll that
is served and a WMM element that is read keep it. -/
def TurnsKeep (Q : StaInfo n → Prop) (s : ApPriv n) : ApEvent → Prop
  | .psPoll ta aid priority =>
      ∀ i ∈ psPollServes s ta aid priority, ∀ f rest, (s.sta i).sleepQ = f :: rest →
        Q ((s.sta i).psPollTurn rest)
  | .assocReq sa res wmm _ =>
      ∀ i ∈ assocReqReads s sa res, Q (rtwApParseStaWmmIe wmm (s.sta i))
  | _ => True

omit hQ in
lemma AllSta.withSta (hs : AllSta Q s) {ta : MacAddr}
    {g : Fin n → ApPriv n × List (ApOut n)} (hg : ∀ i, AllSta Q (g i).1) :
    AllSta Q (s.withSta ta g).1 := by
  rw [ApPriv.withSta]
  cases rtwGetStainfo s ta with
  | none => exact hs
  | some i => exact hg i

/-- Every event keeps a property of all stations that the elementary changes keep. -/
theorem apStep_kept {conf : ApConf} {e : ApEvent} (hs : AllSta Q s) (he : TurnsKeep Q s e) :
    AllSta Q (apStep conf s e).1 := by
  cases e with
  | xmit ra priority pkt => exact hs.rtwXmit hQ ra priority pkt
  | halXmit k direct => exact hs.preXmitframe k direct
  | dequeue => exact hs.dequeueForTransmission conf
  | xmitframeComplete k => exact hs.of_sta_eq (xmitframeComplete_sta conf k s)
  | freeXmitframe => exact hs.freeSentXmitframe
  | mgmtXmit ra psDontq pkt => exact hs.rtwHalMgntXmit hQ ra psDontq pkt
  | dequeueMgmt => exact hs.rtwDequeueMgmtXframe
  | dataFrame ta pwrbit qos priority =>
      exact hs.rtwApRxDataValidateHdr hQ ta pwrbit qos priority
  | psPoll ta aid priority => exact hs.validateRecvPsPoll hQ he
  | auth sa res => exact hs.onAuth hQ sa res
  | assocReq sa res wmm ht =>
      intro j
      have hbuf := buffers_onAssocReq conf s sa res wmm ht j
      by_cases hj : assocReqReads s sa res = some j
      · rw [if_pos hj] at hbuf
        exact hQ.buffers _ hbuf (he j hj)
      · rw [if_neg hj] at hbuf
        exact hQ.buffers _ hbuf (hs j)
  | apFreeSta ta =>
      exact hs.withSta fun i => hs.modSta i (fun psta => { psta with asocState := false })
        (hQ.buffers (s.sta i) rfl (hs i))
  | freeStainfo ta => exact hs.withSta fun i => hs.rtwFreeStainfo hQ i
  | aliveCheck ta =>
      refine hs.withSta fun i => ?_
      dsimp only [aliveCheck]
      split
      · exact hs.modSta i (fun psta => { psta with aliveChkState := true })
          (hQ.buffers (s.sta i) rfl (hs i))
      · exact hs
  | heard ta =>
      exact hs.withSta fun i => hs.modSta i (fun psta => psta.clearAliveChk)
        (hQ.buffers (s.sta i) rfl (hs i))
  | sleepqAging ta asocListCnt =>
      refine hs.withSta fun i => ?_
      dsimp only [sleepqAging]
      split
      · exact hs.wakeupStaToXmit hQ i
      · exact hs
  | chkBmcSleepq => exact hs.chkBmcSleepqHdl hQ
  | chkHiQueue hiqEmpty => exact hs.rtwChkHiQueueHdl hiqEmpty
  | apBmcFrames => exact hs.rtwApBmcFramesHdl hQ conf

end Rtl8723du
