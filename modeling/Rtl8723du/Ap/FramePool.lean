import Mathlib.Algebra.BigOperators.Fin
import Mathlib.Algebra.Order.BigOperators.Group.Finset
import Rtl8723du.Ap.StaInvariant

/-!
# The frame pool

A frame is free, on its way to `rtw_hal_xmit`, buffered in a `sleep_q`, waiting in a
`sta_pending` queue or being sent.  The events of the access point move frames between these
places and make none, so that all queues together never hold more frames than the pool has
(`frames_apRun_le`).
-/

namespace Rtl8723du

variable {n : ℕ}

/-- How many data frames wait in the transmit queues of a station. -/
def StaXmitPriv.load (p : StaXmitPriv n) : ℕ :=
  p.voQ.staPending.length + p.viQ.staPending.length + p.beQ.staPending.length +
    p.bkQ.staPending.length

lemma StaXmitPriv.load_modAcQ (p : StaXmitPriv n) (ac : Ac) (g : TxServq n → TxServq n) :
    (p.modAcQ ac g).load + (p.acQ ac).staPending.length =
      p.load + (g (p.acQ ac)).staPending.length := by
  cases ac <;> simp only [modAcQ, acQ, load] <;> omega

/-- How many frames there are, in all places. -/
def ApPriv.frames (s : ApPriv n) : ℕ :=
  s.freeXmitframeCnt + s.xmitting.length + s.sending + ∑ i, (s.sta i).sleepQ.length +
    ∑ i, (s.staXmitpriv i).load

/-- A sum over a table after the update of one entry. -/
lemma sum_update {α : Type*} (F : α → ℕ) (g : Fin n → α) (i : Fin n) (x : α) :
    ∑ j, F (Function.update g i x j) + F (g i) = ∑ j, F (g j) + F x := by
  have hne : ∀ j ∈ Finset.univ.erase i, F (Function.update g i x j) = F (g j) := by
    intro j hj
    rw [Function.update_of_ne (Finset.ne_of_mem_erase hj)]
  rw [← Finset.add_sum_erase Finset.univ _ (Finset.mem_univ i), Finset.sum_congr rfl hne,
    ← Finset.add_sum_erase Finset.univ (fun j => F (g j)) (Finset.mem_univ i)]
  simp only [Function.update_self]
  omega

variable (s : ApPriv n) (i : Fin n)

lemma frames_modSta (g : StaInfo n → StaInfo n) :
    (s.modSta i g).frames + (s.sta i).sleepQ.length =
      s.frames + (g (s.sta i)).sleepQ.length := by
  have := sum_update (fun psta : StaInfo n => psta.sleepQ.length) s.sta i (g (s.sta i))
  simp only [ApPriv.frames, ApPriv.modSta] at this ⊢
  omega

lemma frames_modSta_of_eq {g : StaInfo n → StaInfo n}
    (hg : (g (s.sta i)).sleepQ = (s.sta i).sleepQ) : (s.modSta i g).frames = s.frames := by
  have := frames_modSta s i g
  rw [hg] at this
  omega

lemma frames_modXmit (g : StaXmitPriv n → StaXmitPriv n) :
    (s.modXmit i g).frames + (s.staXmitpriv i).load =
      s.frames + (g (s.staXmitpriv i)).load := by
  have := sum_update StaXmitPriv.load s.staXmitpriv i (g (s.staXmitpriv i))
  simp only [ApPriv.frames, ApPriv.modXmit] at this ⊢
  omega

@[simp] lemma frames_modHw (ac : Ac) (g : HwXmit n → HwXmit n) :
    (s.modHw ac g).frames = s.frames := rfl

@[simp] lemma frames_modTim (g : Finset ℕ → Finset ℕ) : (s.modTim g).frames = s.frames := rfl

@[simp] lemma frames_modDz (g : Finset ℕ → Finset ℕ) : (s.modDz g).frames = s.frames := rfl

lemma frames_modXmit_modAcQ (ac : Ac) (g : TxServq n → TxServq n) :
    (s.modXmit i fun p => p.modAcQ ac g).frames +
        ((s.staXmitpriv i).acQ ac).staPending.length =
      s.frames + (g ((s.staXmitpriv i).acQ ac)).staPending.length := by
  have hmod := frames_modXmit s i fun p => p.modAcQ ac g
  have hload := (s.staXmitpriv i).load_modAcQ ac g
  omega

/-- The queue of management frames is not counted. -/
lemma frames_modXmit_modMgmtQ (g : TxServq n → TxServq n) :
    (s.modXmit i fun p => p.modMgmtQ g).frames = s.frames := by
  have hmod := frames_modXmit s i fun p => p.modMgmtQ g
  have hload : ((s.staXmitpriv i).modMgmtQ g).load = (s.staXmitpriv i).load := rfl
  omega

@[simp] lemma frames_modMgmtHw (g : HwXmit n → HwXmit n) :
    (s.modMgmtHw g).frames = s.frames := rfl

@[simp] lemma frames_send (k : ℕ) : (s.send k).frames = s.frames + k := by
  simp only [ApPriv.frames, ApPriv.send]
  omega

variable {s i}

lemma length_push (q : TxServq n) (f : XmitFrame n) :
    (q.push f).staPending.length = q.staPending.length + 1 :=
  List.length_append

lemma length_keep (q : TxServq n) (f : XmitFrame n) :
    (q.keep f).staPending.length = q.staPending.length + 1 :=
  List.length_append

lemma length_pop (q : TxServq n) : q.pop.staPending.length = q.staPending.length - 1 :=
  List.length_tail

/-! ### The transmit queues -/

lemma frames_rtwXmitClassifier {f : XmitFrame n} {s' : ApPriv n}
    (h : rtwXmitClassifier s f = some s') : s'.frames = s.frames + 1 := by
  unfold rtwXmitClassifier at h
  split at h
  · cases h
  · rename_i i _
    split at h
    · cases h
      have hmod := frames_modXmit_modAcQ s i (acOf f.priority) fun q => q.push f
      have hpush := length_push ((s.staXmitpriv i).acQ (acOf f.priority)) f
      rw [frames_modHw]
      omega
    · cases h

lemma frames_rtwFreeXmitframe (s : ApPriv n) :
    (rtwFreeXmitframe s).frames = s.frames + 1 := by
  simp only [rtwFreeXmitframe, ApPriv.frames]
  omega

lemma frames_rtwHalXmitframeEnqueue (s : ApPriv n) (f : XmitFrame n) :
    (rtwHalXmitframeEnqueue s f).frames = s.frames + 1 := by
  unfold rtwHalXmitframeEnqueue
  cases h : rtwXmitClassifier s f with
  | none => exact frames_rtwFreeXmitframe s
  | some s' => exact frames_rtwXmitClassifier h

lemma frames_foldl_rtwHalXmitframeEnqueue (fs : List (XmitFrame n)) (s : ApPriv n) :
    (fs.foldl rtwHalXmitframeEnqueue s).frames = s.frames + fs.length := by
  induction fs generalizing s with
  | nil => rfl
  | cons f fs ih =>
      rw [List.foldl_cons, ih, frames_rtwHalXmitframeEnqueue, List.length_cons]
      omega

lemma frames_rtwHalMgmtXmitframeEnqueue (s : ApPriv n) (f : XmitFrame n) :
    (rtwHalMgmtXmitframeEnqueue s f).frames = s.frames := by
  unfold rtwHalMgmtXmitframeEnqueue rtwMgmtXmitframeEnqueue
  split
  · rfl
  · rename_i i _
    split
    · exact frames_modXmit_modMgmtQ s i fun q => q.push f
    · rfl

lemma frames_foldl_rtwHalMgmtXmitframeEnqueue (fs : List (XmitFrame n)) (s : ApPriv n) :
    (fs.foldl rtwHalMgmtXmitframeEnqueue s).frames = s.frames := by
  induction fs generalizing s with
  | nil => rfl
  | cons f fs ih => rw [List.foldl_cons, ih, frames_rtwHalMgmtXmitframeEnqueue]

lemma frames_dequeueOneXmitframe {ac : Ac} {f : XmitFrame n} {s' : ApPriv n}
    (h : dequeueOneXmitframe s ac i = some (f, s')) : s'.frames + 1 = s.frames := by
  unfold dequeueOneXmitframe at h
  split at h
  · cases h
  · rename_i f' rest hq
    cases h
    have hmod := frames_modXmit_modAcQ s i ac fun q => q.pop
    have hpop := length_pop ((s.staXmitpriv i).acQ ac)
    rw [hq, List.length_cons] at hmod hpop
    rw [frames_modHw]
    omega

lemma frames_aggregate (ac : Ac) (i : Fin n) (k : ℕ) (s : ApPriv n) :
    (aggregate ac i k s).2.frames + (aggregate ac i k s).1.length = s.frames := by
  induction k generalizing s with
  | zero => rfl
  | succ k ih =>
      rw [aggregate]
      cases h : dequeueOneXmitframe s ac i with
      | none => rfl
      | some r =>
          obtain ⟨f, s'⟩ := r
          have hone := frames_dequeueOneXmitframe h
          have hrest := ih s'
          simp only [List.length_cons]
          omega

lemma frames_xmitframeComplete (conf : ApConf) (k : ℕ) (s : ApPriv n) :
    (xmitframeComplete conf k s).2.frames = s.frames := by
  unfold xmitframeComplete
  split
  · rfl
  · rename_i f s' h
    obtain ⟨ac, i, -, hd⟩ := exists_of_rtwDequeueXframe h
    have hone := frames_dequeueOneXmitframe hd
    have hrest := frames_aggregate (acOf f.priority) f.psta k s'
    dsimp only
    split
    · rw [frames_modHw, frames_send, List.length_cons]
      omega
    · split
      · rw [frames_send, List.length_cons]
        omega
      · rw [frames_modHw, frames_send, List.length_cons]
        omega

/-! ### Going to sleep -/

lemma frames_enqueue {f : XmitFrame n} {s' : ApPriv n}
    (h : xmitframeEnqueueForSleepingSta s f = some s') : s'.frames = s.frames + 1 := by
  obtain ⟨i, -, -, -, ⟨-, -, rfl⟩ | ⟨-, -, -, rfl⟩⟩ := xmitframeEnqueueForSleepingSta_cases h
  · have hmod := frames_modSta s i fun psta => psta.bufferGroup f
    have hlen : ((s.sta i).bufferGroup f).sleepQ.length = (s.sta i).sleepQ.length + 1 := by
      simp [StaInfo.bufferGroup]
    rw [frames_modDz, frames_modTim]
    omega
  · have hmod := frames_modSta s i fun psta => psta.buffer f
    have hlen : ((s.sta i).buffer f).sleepQ.length = (s.sta i).sleepQ.length + 1 := by
      simp [StaInfo.buffer]
    rw [frames_modTim]
    omega

lemma frames_mgmtEnqueue {f : XmitFrame n} {s' : ApPriv n}
    (h : mgmtXmitframeEnqueueForSleepingSta s f = some s') : s'.frames = s.frames := by
  obtain ⟨-, -, -, -, rfl⟩ := mgmtXmitframeEnqueueForSleepingSta_cases h
  rw [frames_modTim]
  exact frames_modSta_of_eq s f.psta rfl

lemma frames_dequeueLoop (i : Fin n) (ac : Ac) (fs : List (XmitFrame n)) :
    ∀ s : ApPriv n, (dequeueLoop i ac fs s).frames = s.frames + fs.length := by
  induction fs with
  | nil => exact fun _ => rfl
  | cons f rest ih =>
      intro s
      rw [dequeueLoop, List.length_cons]
      dsimp only
      split
      · rename_i s' h
        have hone := frames_enqueue h
        have hcnt : (s'.modXmit i fun p =>
            p.modAcQ (acOf f.priority) fun q => q.countOff).frames = s'.frames :=
          Nat.add_right_cancel (frames_modXmit_modAcQ s' i (acOf f.priority)
            fun q => q.countOff)
        rw [ih, frames_modHw]
        omega
      · have hmod := frames_modXmit_modAcQ s i ac
          fun q => q.keep { f with triggered := false }
        have hkeep := length_keep ((s.staXmitpriv i).acQ ac) { f with triggered := false }
        rw [ih]
        omega

lemma frames_dequeueXmitframes (i : Fin n) (acs : List Ac) :
    ∀ s : ApPriv n, (acs.foldl (dequeueXmitframesToSleepingQueue i) s).frames = s.frames := by
  induction acs with
  | nil => exact fun _ => rfl
  | cons ac acs ih =>
      intro s
      rw [List.foldl_cons, ih, dequeueXmitframesToSleepingQueue, frames_modHw,
        frames_dequeueLoop]
      exact frames_modXmit_modAcQ s i ac fun q => q.clear

lemma frames_dequeueMgmtLoop (i : Fin n) (fs : List (XmitFrame n)) :
    ∀ s : ApPriv n, (dequeueMgmtLoop i fs s).frames = s.frames := by
  induction fs with
  | nil => exact fun _ => rfl
  | cons f rest ih =>
      intro s
      rw [dequeueMgmtLoop]
      split
      · rename_i s' h
        rw [ih]
        exact (frames_modXmit_modMgmtQ s' i fun q => q.countOff).trans (frames_mgmtEnqueue h)
      · rw [ih]
        exact frames_modXmit_modMgmtQ s i fun q => q.keep { f with triggered := false }

lemma frames_dequeueMgmt (s : ApPriv n) (i : Fin n) :
    (dequeueMgmtXmitframeToSleepq i s).frames = s.frames :=
  (frames_dequeueMgmtLoop i _ _).trans
    (frames_modXmit_modMgmtQ s i fun q => q.clear)

lemma frames_stopStaXmit (s : ApPriv n) (i : Fin n) : (stopStaXmit s i).frames = s.frames := by
  have hsleep : ((s.modSta i fun psta => psta.fallAsleep).modDz
      (insert ((s.modSta i fun psta => psta.fallAsleep).sta i).aid)).frames = s.frames := by
    rw [frames_modDz]
    exact frames_modSta_of_eq s i rfl
  unfold stopStaXmit
  dsimp only
  split
  · rw [frames_dequeueXmitframes, frames_dequeueMgmt, hsleep]
  · rw [frames_dequeueXmitframes, frames_dequeueXmitframes, frames_dequeueMgmt, hsleep]

/-! ### Release -/

/-- What a release loop takes out of the queue it hands out. -/
lemma length_releaseLoop (turn : StaInfo n → XmitFrame n → StaInfo n × XmitFrame n)
    (hturn : ∀ psta f, (turn psta f).1.sleepQ = psta.sleepQ.tail) :
    ∀ (fs : List (XmitFrame n)) (psta : StaInfo n), fs.length ≤ psta.sleepQ.length →
      (releaseLoop turn fs psta).1.sleepQ.length + (releaseLoop turn fs psta).2.length =
        psta.sleepQ.length := by
  intro fs
  induction fs with
  | nil => exact fun _ _ => rfl
  | cons f fs ih =>
      intro psta hlen
      rw [List.length_cons] at hlen
      have := ih (turn psta f).1 (by rw [hturn, List.length_tail]; omega)
      rw [hturn, List.length_tail] at this
      simp only [releaseLoop, List.length_cons]
      omega

lemma frames_releaseSleepQ (turn : StaInfo n → XmitFrame n → StaInfo n × XmitFrame n)
    (hturn : ∀ psta f, (turn psta f).1.sleepQ = psta.sleepQ.tail) (i : Fin n) (s : ApPriv n) :
    (releaseSleepQ turn i s).1.frames = s.frames := by
  have hmod := frames_modSta s i
    fun _ => (releaseLoop turn (s.sta i).sleepQ (s.sta i)).1
  have hlen := length_releaseLoop turn hturn (s.sta i).sleepQ (s.sta i) le_rfl
  simp only [releaseSleepQ, frames_foldl_rtwHalXmitframeEnqueue]
  omega

lemma frames_releaseMgmt (i : Fin n) (s : ApPriv n) : (releaseMgmt i s).frames = s.frames := by
  have hsleepQ : ∀ (fs : List (XmitFrame n)) (psta : StaInfo n),
      (releaseLoop mgmtTurn fs psta).1.sleepQ = psta.sleepQ := by
    intro fs
    induction fs with
    | nil => exact fun _ => rfl
    | cons f fs ih => exact fun psta => ih (mgmtTurn psta f).1
  unfold releaseMgmt
  dsimp only
  rw [frames_foldl_rtwHalMgmtXmitframeEnqueue]
  exact frames_modSta_of_eq s i (hsleepQ _ _)

lemma frames_wakeupBmc (s : ApPriv n) : (wakeupBmc s).1.frames = s.frames := by
  unfold wakeupBmc
  split
  · rfl
  · rename_i b _
    split
    · rfl
    · have hrel := frames_releaseSleepQ bmcTurn (fun _ _ => rfl) b s
      dsimp only
      split
      · exact hrel
      · exact hrel

lemma frames_wakeupStaToXmit (s : ApPriv n) (i : Fin n) :
    (wakeupStaToXmit s i).1.frames = s.frames := by
  have hrel : (releaseSleepQ wakeupTurn i (releaseMgmt i s)).1.frames = s.frames := by
    rw [frames_releaseSleepQ wakeupTurn wakeupTurn_sleepQ, frames_releaseMgmt]
  unfold wakeupStaToXmit
  dsimp only
  rw [frames_wakeupBmc]
  split
  · rw [frames_modDz, frames_modTim, frames_modSta_of_eq _ i rfl]
    exact hrel
  · exact hrel

/-- What `xmit_delivery_enabled_frames` does not release it leaves in the queue. -/
lemma length_deliveryLoop (fs : List (XmitFrame n)) : ∀ psta : StaInfo n,
    (deliveryLoop fs psta).1.sleepQ.length + (deliveryLoop fs psta).2.1.length =
      psta.sleepQ.length + fs.length := by
  induction fs with
  | nil => exact fun _ => rfl
  | cons f fs ih =>
      intro psta
      rw [deliveryLoop]
      split
      · have hrest := ih (deliveryTurn psta f).1
        have hturn : (deliveryTurn psta f).1.sleepQ = psta.sleepQ := rfl
        rw [hturn] at hrest
        simp only [List.length_cons]
        omega
      · have hpass : (psta.passOver f).sleepQ.length = psta.sleepQ.length + 1 := by
          simp [StaInfo.passOver]
        rw [ih, hpass, List.length_cons]
        omega

lemma frames_xmitDeliveryEnabledFrames (s : ApPriv n) (i : Fin n) :
    (xmitDeliveryEnabledFrames s i).1.frames = s.frames := by
  have hmod := frames_modSta s i
    fun _ => (deliveryLoop (s.sta i).sleepQ (s.sta i).emptySleepQ).1
  have hlen := length_deliveryLoop (s.sta i).sleepQ (s.sta i).emptySleepQ
  have hframes : (xmitDeliveryEnabledFrames s i).1.frames =
      ((deliveryLoop (s.sta i).sleepQ (s.sta i).emptySleepQ).2.1.foldl
        rtwHalXmitframeEnqueue (s.modSta i fun _ =>
          (deliveryLoop (s.sta i).sleepQ (s.sta i).emptySleepQ).1)).frames := by
    unfold xmitDeliveryEnabledFrames
    dsimp only
    split
    · rfl
    · rfl
  rw [hframes, frames_foldl_rtwHalXmitframeEnqueue]
  have hempty : (s.sta i).emptySleepQ.sleepQ.length = 0 := rfl
  omega

/-! ### Received frames -/

lemma frames_rtwApRxDataValidateHdr (s : ApPriv n) (ta : MacAddr) (pwrbit qos : Bool)
    (priority : ℕ) : (rtwApRxDataValidateHdr s ta pwrbit qos priority).1.frames = s.frames := by
  have hpwr : ∀ i, (processPwrbitData s i pwrbit).1.frames = s.frames := by
    intro i
    unfold processPwrbitData
    split
    · dsimp only
      split
      · rfl
      · exact frames_stopStaXmit s i
    · split
      · exact frames_wakeupStaToXmit s i
      · rfl
  have hwmm : ∀ (t : ApPriv n) i, (processWmmpsData t i priority).1.frames = t.frames := by
    intro t i
    unfold processWmmpsData
    split
    · split
      · exact frames_xmitDeliveryEnabledFrames t i
      · rfl
    · rfl
  unfold rtwApRxDataValidateHdr
  split
  · rfl
  · rename_i i _
    dsimp only
    split
    · exact (hwmm _ i).trans (hpwr i)
    · exact hpwr i

lemma frames_psPollRelease (s : ApPriv n) (i : Fin n) {f : XmitFrame n}
    {rest : List (XmitFrame n)} (h : (s.sta i).sleepQ = f :: rest) :
    (psPollRelease s i f rest).1.frames = s.frames := by
  have hmod := frames_modSta s i fun psta => psta.psPollTurn rest
  have hturn : ((s.sta i).psPollTurn rest).sleepQ.length = rest.length := rfl
  rw [h, List.length_cons] at hmod
  unfold psPollRelease
  dsimp only
  split
  · rw [frames_modTim, frames_rtwHalXmitframeEnqueue]
    omega
  · rw [frames_rtwHalXmitframeEnqueue]
    omega

lemma frames_psPollEmpty (s : ApPriv n) (i : Fin n) :
    (psPollEmpty s i).1.frames = s.frames := by
  unfold psPollEmpty
  split
  · dsimp only
    split
    · exact frames_modTim s _
    · rw [frames_modSta_of_eq _ i rfl, frames_modTim]
  · rfl

lemma frames_validateRecvPsPoll (s : ApPriv n) (ta : MacAddr) (aid priority : ℕ) :
    (validateRecvPsPoll s ta aid priority).1.frames = s.frames := by
  have halive : ∀ i, (s.modSta i fun psta => psta.clearAliveChk).frames = s.frames :=
    fun i => frames_modSta_of_eq s i rfl
  rcases validateRecvPsPoll_cases s ta aid priority with
    ⟨-, h | ⟨i, h⟩⟩ | ⟨i, s', -, rfl, ⟨f, rest, hq, h⟩ | ⟨-, h⟩⟩
  · rw [h]
  · rw [h]
    exact halive i
  · rw [h, frames_psPollRelease _ i (by simpa [StaInfo.clearAliveChk] using hq), halive]
  · rw [h, frames_psPollEmpty, halive]

/-! ### Group frames after a beacon -/

lemma frames_chkBmcSleepqHdl (s : ApPriv n) : (chkBmcSleepqHdl s).1.frames = s.frames := by
  unfold chkBmcSleepqHdl
  split
  · rfl
  · rename_i b _
    split
    · exact frames_releaseSleepQ bmcTurn (fun _ _ => rfl) b s
    · rfl

lemma frames_rtwChkHiQueueHdl (s : ApPriv n) (hiqEmpty : Bool) :
    (rtwChkHiQueueHdl s hiqEmpty).frames = s.frames := by
  unfold rtwChkHiQueueHdl
  split
  · rfl
  · split
    · rfl
    · rfl

lemma frames_rtwApBmcFramesHdl (conf : ApConf) (s : ApPriv n) :
    (rtwApBmcFramesHdl conf s).1.frames = s.frames := by
  unfold rtwApBmcFramesHdl
  split
  · rfl
  · split
    · rfl
    · rename_i b _
      split
      · have hmod := frames_modSta s b
          fun _ => (releaseLoop bmcTurn ((s.sta b).sleepQ.take hiqXmitCounts) (s.sta b)).1
        have hlen := length_releaseLoop bmcTurn (fun _ _ => rfl)
          ((s.sta b).sleepQ.take hiqXmitCounts) (s.sta b) (List.length_take_le' _ _)
        dsimp only
        rw [frames_foldl_rtwHalXmitframeEnqueue, List.length_mapIdx]
        omega
      · split
        · rfl
        · rfl

/-! ### Transmission -/

lemma frames_rtwXmit (s : ApPriv n) (ra : MacAddr) (priority pkt : ℕ) :
    (rtwXmit s ra priority pkt).frames = s.frames := by
  unfold rtwXmit
  split
  · rfl
  · rename_i hfree
    split
    · rfl
    · rename_i i _
      split
      · rfl
      · have htake : ({ s with freeXmitframeCnt := s.freeXmitframeCnt - 1 } : ApPriv n).frames + 1 =
            s.frames := by
          simp only [ApPriv.frames]
          omega
        dsimp only
        cases h : xmitframeEnqueueForSleepingSta
            { s with freeXmitframeCnt := s.freeXmitframeCnt - 1 }
            { ra, psta := i, priority, pkt } with
        | none =>
            simp only [ApPriv.frames] at htake
            simp only [Option.getD_none, ApPriv.frames, List.length_append,
              List.length_singleton]
            omega
        | some s' =>
            have := frames_enqueue h
            simp only [Option.getD_some]
            omega

lemma frames_preXmitframe (s : ApPriv n) (k : ℕ) (direct : Bool) :
    (preXmitframe s k direct).1.frames = s.frames := by
  unfold preXmitframe
  split
  · rfl
  · rename_i f hk
    obtain ⟨hlt, -⟩ := List.getElem?_eq_some_iff.1 hk
    have htake : ({ s with xmitting := s.xmitting.eraseIdx k } : ApPriv n).frames + 1 =
        s.frames := by
      simp only [ApPriv.frames, List.length_eraseIdx_of_lt hlt]
      omega
    dsimp only
    split
    · rw [frames_send]
      exact htake
    · rw [frames_rtwHalXmitframeEnqueue]
      exact htake

lemma frames_dequeueForTransmission (conf : ApConf) (s : ApPriv n) :
    (dequeueForTransmission conf s).1.frames = s.frames := by
  unfold dequeueForTransmission
  split
  · rfl
  · rename_i f s' h
    obtain ⟨ac, i, -, hd⟩ := exists_of_rtwDequeueXframe h
    rw [frames_send]
    exact frames_dequeueOneXmitframe hd

lemma frames_freeSentXmitframe (s : ApPriv n) : (freeSentXmitframe s).frames = s.frames := by
  unfold freeSentXmitframe
  split
  · rfl
  · rw [frames_rtwFreeXmitframe]
    simp only [ApPriv.frames]
    omega

lemma frames_rtwHalMgntXmit (s : ApPriv n) (ra : MacAddr) (psDontq : Bool) (pkt : ℕ) :
    (rtwHalMgntXmit s ra psDontq pkt).1.frames = s.frames := by
  unfold rtwHalMgntXmit
  split
  · rfl
  · dsimp only
    split
    · rename_i s' h
      exact frames_mgmtEnqueue h
    · rfl

lemma frames_rtwDequeueMgmtXframe (s : ApPriv n) :
    (rtwDequeueMgmtXframe s).1.frames = s.frames := by
  unfold rtwDequeueMgmtXframe
  split
  · rfl
  · rename_i i f _
    rw [frames_modMgmtHw]
    exact frames_modXmit_modMgmtQ s i fun q => q.pop

/-! ### Stations coming and going -/

lemma frames_rtwFreeStainfo (s : ApPriv n) (i : Fin n) :
    (rtwFreeStainfo s i).frames = s.frames := by
  have hsleep : ∑ j, ((rtwFreeStainfo s i).sta j).sleepQ.length + (s.sta i).sleepQ.length =
      ∑ j, (s.sta j).sleepQ.length + 0 :=
    sum_update (fun psta : StaInfo n => psta.sleepQ.length) s.sta i _
  have hload : ∑ j, ((rtwFreeStainfo s i).staXmitpriv j).load + (s.staXmitpriv i).load =
      ∑ j, (s.staXmitpriv j).load + 0 :=
    sum_update StaXmitPriv.load s.staXmitpriv i {}
  have hcnt : (rtwFreeStainfo s i).freeXmitframeCnt =
      s.freeXmitframeCnt + (s.sta i).sleepQ.length + (s.staXmitpriv i).load := rfl
  have hxmit : (rtwFreeStainfo s i).xmitting = s.xmitting := rfl
  have hsend : (rtwFreeStainfo s i).sending = s.sending := rfl
  simp only [ApPriv.frames, hxmit, hsend]
  omega

lemma frames_rtwAllocStainfo {hwaddr : MacAddr} {s' : ApPriv n}
    (h : rtwAllocStainfo s hwaddr = some s') : s'.frames ≤ s.frames := by
  unfold rtwAllocStainfo at h
  split at h
  · cases h
  · rename_i i _
    cases h
    have hsta := frames_modSta s i fun _ => { macAddr := some hwaddr }
    have hxmit := frames_modXmit (s.modSta i fun _ => { macAddr := some hwaddr }) i fun _ => {}
    have hnil : ({ macAddr := some hwaddr } : StaInfo n).sleepQ.length = 0 := rfl
    have hload : ({} : StaXmitPriv n).load = 0 := rfl
    omega

lemma frames_onAuth (s : ApPriv n) (sa : MacAddr) (res : AuthRes) :
    (onAuth s sa res).frames ≤ s.frames := by
  unfold onAuth
  split
  · exact le_rfl
  · dsimp only
    split
    · exact le_rfl
    · rename_i s' h
      have hs' : s'.frames ≤ s.frames := by
        split at h
        · cases h
          exact le_rfl
        · exact frames_rtwAllocStainfo h
      split
      · exact hs'
      · rename_i i _
        cases res with
        | fail => exact (frames_rtwFreeStainfo s' i).trans_le hs'
        | goOn => exact hs'
        | success => exact (frames_modSta_of_eq s' i rfl).trans_le hs'

lemma frames_assocFinish (conf : ApConf) (s : ApPriv n) (i : Fin n) (res : AssocRes)
    (qosOption : Bool) : (assocFinish conf s i res qosOption).frames = s.frames := by
  have haid : (assocAid conf s i).frames = s.frames := by
    have hset := frames_modSta_of_eq s i
      (g := fun psta => { psta with aid := findAid conf s 0 0 conf.maxAid }) rfl
    unfold assocAid rtwAidAlloc
    split
    · rfl
    · dsimp only
      split
      · exact hset
      · exact hset
  unfold assocFinish
  dsimp only
  split
  · exact haid
  · split
    · exact (frames_modSta_of_eq _ i rfl).trans haid
    · exact ((frames_modSta_of_eq _ i rfl).trans (frames_modSta_of_eq _ i rfl)).trans haid

lemma frames_onAssocReq (conf : ApConf) (s : ApPriv n) (sa : MacAddr) (res : AssocRes)
    (wmm : Option (BitVec 8)) (ht : Bool) :
    (onAssocReq conf s sa res wmm ht).frames = s.frames := by
  unfold onAssocReq
  split
  · rfl
  · split
    · rfl
    · rename_i i _
      split
      · have hstart : (s.modSta i StaInfo.startAssoc).frames = s.frames := by
          refine frames_modSta_of_eq s i ?_
          unfold StaInfo.startAssoc
          split
          · rfl
          · rfl
        dsimp only
        split
        · exact hstart
        · have hparse : ((s.modSta i StaInfo.startAssoc).modSta i
              (rtwApParseStaWmmIe wmm)).frames = s.frames :=
            (frames_modSta_of_eq _ i rfl).trans hstart
          split
          · exact hparse
          · exact (frames_assocFinish conf _ i res _).trans hparse
      · rfl

/-! ### Runs -/

/-- No event makes a frame. -/
lemma frames_apStep_le (conf : ApConf) (s : ApPriv n) (e : ApEvent) :
    (apStep conf s e).1.frames ≤ s.frames := by
  have hwith : ∀ (ta : MacAddr) {g : Fin n → ApPriv n × List (ApOut n)},
      (∀ i, (g i).1.frames = s.frames) → (s.withSta ta g).1.frames ≤ s.frames := by
    intro ta g hg
    unfold ApPriv.withSta
    cases rtwGetStainfo s ta with
    | none => exact le_rfl
    | some i => exact (hg i).le
  cases e with
  | xmit ra priority pkt => exact (frames_rtwXmit s ra priority pkt).le
  | halXmit k direct => exact (frames_preXmitframe s k direct).le
  | dequeue => exact (frames_dequeueForTransmission conf s).le
  | xmitframeComplete k => exact (frames_xmitframeComplete conf k s).le
  | freeXmitframe => exact (frames_freeSentXmitframe s).le
  | mgmtXmit ra psDontq pkt => exact (frames_rtwHalMgntXmit s ra psDontq pkt).le
  | dequeueMgmt => exact (frames_rtwDequeueMgmtXframe s).le
  | dataFrame ta pwrbit qos priority =>
      exact (frames_rtwApRxDataValidateHdr s ta pwrbit qos priority).le
  | psPoll ta aid priority => exact (frames_validateRecvPsPoll s ta aid priority).le
  | auth sa res => exact frames_onAuth s sa res
  | assocReq sa res wmm ht => exact (frames_onAssocReq conf s sa res wmm ht).le
  | apFreeSta ta =>
      refine hwith ta fun i => ?_
      dsimp only [apFreeSta]
      rw [frames_modTim]
      exact frames_modSta_of_eq s i rfl
  | freeStainfo ta => exact hwith ta fun i => frames_rtwFreeStainfo s i
  | aliveCheck ta =>
      refine hwith ta fun i => ?_
      dsimp only [aliveCheck]
      split
      · rw [frames_modTim]
        exact frames_modSta_of_eq s i rfl
      · rfl
  | heard ta => exact hwith ta fun i => frames_modSta_of_eq s i rfl
  | sleepqAging ta asocListCnt =>
      refine hwith ta fun i => ?_
      dsimp only [sleepqAging]
      split
      · exact frames_wakeupStaToXmit s i
      · rfl
  | chkBmcSleepq => exact (frames_chkBmcSleepqHdl s).le
  | chkHiQueue hiqEmpty => exact (frames_rtwChkHiQueueHdl s hiqEmpty).le
  | apBmcFrames => exact (frames_rtwApBmcFramesHdl conf s).le

lemma frames_start (b : Fin n) : (ApPriv.start b).frames = nrXmitframe := by
  have hsleep : ∀ j, ((ApPriv.start b).sta j).sleepQ.length = 0 := by
    intro j
    by_cases hj : j = b
    · subst hj
      simp [ApPriv.start]
    · simp [ApPriv.start, hj]
  have hload : ∀ j, ((ApPriv.start b).staXmitpriv j).load = 0 := fun _ => rfl
  simp only [ApPriv.frames, hsleep, hload, Finset.sum_const_zero]
  rfl

/-- There are never more frames than the pool has. -/
theorem frames_apRun_le (conf : ApConf) (b : Fin n) (es : List ApEvent) :
    (apRun conf b es).frames ≤ nrXmitframe :=
  Lib.Machine.final_induction (P := fun _ _ => True)
    (fun s e _ h => (frames_apStep_le conf s e).trans h) (frames_start b).le
    (Lib.Machine.along_of_forall (Q := fun _ => True) fun _ _ => trivial)

/-- A `sleep_q` is never longer than the pool is large. -/
lemma length_sleepQ_apRun_le (conf : ApConf) (b : Fin n) (es : List ApEvent) (i : Fin n) :
    ((apRun conf b es).sta i).sleepQ.length ≤ nrXmitframe := by
  have hone : ((apRun conf b es).sta i).sleepQ.length ≤
      ∑ j, ((apRun conf b es).sta j).sleepQ.length :=
    Finset.single_le_sum (f := fun j => ((apRun conf b es).sta j).sleepQ.length)
      (fun _ _ => Nat.zero_le _) (Finset.mem_univ i)
  have hall := frames_apRun_le conf b es
  simp only [ApPriv.frames] at hall
  omega

end Rtl8723du
