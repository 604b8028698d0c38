import Rtl8723du.Recv.ReorderSafety

/-!
# The reorder timer and the frames that wait for it

The control of one TID over whole runs of `recv_func_posthandle`: each MPDU is queued, handed
to `recv_process_mpdu` at once or freed, and a queued frame is handed up later.  The timer is
armed whenever a frame waits, as long as no expiry finds the driver stopped; the handler then
returns at once and leaves the timer off with `bReorderWaiting` set.  Nothing that is queued
is lost or handed up twice, and each expiry that finds the driver running hands up a frame.
-/

namespace Rtl8723du

open Lib.Machine

/-! ### One event -/

/-- What becomes of a frame. -/
inductive ReorderOut
  /-- Into the pending queue. -/
  | enqueued (f : RecvFrame)
  /-- Out of the pending queue, to `recv_process_mpdu`. -/
  | indicated (f : RecvFrame)
  /-- To `recv_process_mpdu` without a wait. -/
  | bypassed (f : RecvFrame)
  /-- Freed by `recv_func_posthandle`. -/
  | freed (f : RecvFrame)
deriving DecidableEq

/-- The frame, if it is one that enters the pending queue. -/
@[simp] def ReorderOut.enqueued? : ReorderOut → Option RecvFrame
  | .enqueued f => some f
  | _ => none

/-- The frame, if it is one that leaves the pending queue. -/
@[simp] def ReorderOut.indicated? : ReorderOut → Option RecvFrame
  | .indicated f => some f
  | _ => none

/-- `recv_set_iseq_before_mpdu_process`. -/
def recvSetIseqBeforeMpduProcess (c : RecvReorderCtrl) (seqNum : ℕ) : RecvReorderCtrl :=
  { c with indicateSeq := seqNum }

/-- `recv_set_iseq_after_mpdu_process`. -/
def recvSetIseqAfterMpduProcess (c : RecvReorderCtrl) : RecvReorderCtrl :=
  { c with indicateSeq := (c.indicateSeq + 1) % 4096 }

/-- The end of `recv_func_posthandle`, from `recv_indicatepkt_reorder` on. -/
def recvFuncPosthandleReorder (c : RecvReorderCtrl) (f : RecvFrame) :
    RecvReorderCtrl × List ReorderOut :=
  let r := recvIndicatepktReorder c f
  match r.1 with
  | .fail => (r.2.1, [.freed f])
  | .handled => (r.2.1, .enqueued f :: r.2.2.map .indicated)
  | .success =>
      (recvSetIseqAfterMpduProcess (recvSetIseqBeforeMpduProcess r.2.1 f.attrib.seqNum),
        [.bypassed f])

/-- One event at a control, with what becomes of the frames. -/
def reorderCtrlStep (c : RecvReorderCtrl) : ReorderEvent → RecvReorderCtrl × List ReorderOut
  | .mpdu f => recvFuncPosthandleReorder c f
  | .timeout cannotRun =>
      let r := rtwReorderingCtrlTimeoutHandler c cannotRun
      (r.1, r.2.map .indicated)
  | .bar startSeq => (rtwProcessBarFrame c startSeq, [])
  | .addBaRsp status => (addBaRspHdl c status, [])

/-- The control as `rtw_alloc_stainfo` leaves it. -/
def RecvReorderCtrl.alloc : RecvReorderCtrl where
  enable := false
  indicateSeq := 0xFFFF
  wsizeB := 64
  pendingRecvframeQueue := []
  bReorderWaiting := false
  ackOrTimeout := false
  reorderingCtrlTimer := false

/-- The timer expires while the driver runs. -/
def ReorderEvent.isExpiry : ReorderEvent → Bool
  | .timeout cannotRun => !cannotRun
  | _ => false

variable {c : RecvReorderCtrl}

lemma filterMap_enqueued_map_indicated (fs : List RecvFrame) :
    (fs.map ReorderOut.indicated).filterMap ReorderOut.enqueued? = [] := by
  simp [List.filterMap_map]

lemma filterMap_indicated_map_indicated (fs : List RecvFrame) :
    (fs.map ReorderOut.indicated).filterMap ReorderOut.indicated? = fs := by
  rw [List.filterMap_map]
  exact List.filterMap_some

/-! ### What a step does with the queue and the timer -/

/-- The queue, `bReorderWaiting` and the timer are as they were. -/
structure RecvReorderCtrl.SameWait (c c' : RecvReorderCtrl) : Prop where
  pending : c'.pendingRecvframeQueue = c.pendingRecvframeQueue
  waiting : c'.bReorderWaiting = c.bReorderWaiting
  timer : c'.reorderingCtrlTimer = c.reorderingCtrlTimer

lemma checkIndicateSeq_sameWait (c : RecvReorderCtrl) (seqNum : ℕ) :
    c.SameWait (checkIndicateSeq c seqNum).2 := by
  have hstart : c.SameWait (if c.indicateSeq = 0xFFFF then { c with indicateSeq := seqNum }
      else c) := by
    split <;> exact ⟨rfl, rfl, rfl⟩
  unfold checkIndicateSeq
  generalize (if c.indicateSeq = 0xFFFF then { c with indicateSeq := seqNum } else c) = c' at *
  obtain ⟨hpending, hwaiting, htimer⟩ := hstart
  dsimp only
  split
  · exact ⟨hpending, hwaiting, htimer⟩
  · split
    · exact ⟨hpending, hwaiting, htimer⟩
    · split
      · split <;> exact ⟨hpending, hwaiting, htimer⟩
      · exact ⟨hpending, hwaiting, htimer⟩

/-- `recv_indicatepkts_in_order` leaves the timer to its callers, and says whether frames
still wait; a forced call says so of an empty queue too. -/
lemma recvIndicatepktsInOrder_spec (c : RecvReorderCtrl) (bforced : Bool) :
    (recvIndicatepktsInOrder c bforced).2.1.bReorderWaiting = c.bReorderWaiting ∧
      (recvIndicatepktsInOrder c bforced).2.1.reorderingCtrlTimer = c.reorderingCtrlTimer ∧
      ((recvIndicatepktsInOrder c bforced).1 = false →
        (recvIndicatepktsInOrder c bforced).2.1.pendingRecvframeQueue = []) := by
  unfold recvIndicatepktsInOrder
  split
  · split
    · exact ⟨rfl, rfl, fun h => absurd h (by simp)⟩
    · exact ⟨rfl, rfl, fun h => by simpa [RecvReorderCtrl.indicate] using h⟩
  · exact ⟨rfl, rfl, fun h => by simpa [RecvReorderCtrl.indicate] using h⟩

/-- A forced call hands up the first frame that waits. -/
lemma recvIndicatepktsInOrder_forced (h : c.pendingRecvframeQueue ≠ []) :
    (recvIndicatepktsInOrder c true).2.2 ≠ [] := by
  obtain ⟨f, fs, hq⟩ := List.exists_cons_of_ne_nil h
  have hhead : snLess f.attrib.seqNum f.attrib.seqNum = false := by simp [snLess]
  simp [recvIndicatepktsInOrder, RecvReorderCtrl.indicate, hq, indicateLoop, hhead]

/-- What `recv_indicatepkt_reorder` does with the queue and the timer.  A frame is queued only
when the answer is `RTW_RX_HANDLED`; then the timer runs if it was off and frames wait. -/
lemma recvIndicatepktReorder_spec (c : RecvReorderCtrl) (f : RecvFrame) :
    let r := recvIndicatepktReorder c f
    (r.1 ≠ .handled ∧ r.2.2 = [] ∧ c.SameWait r.2.1) ∨
      (r.1 = .handled ∧
        (f :: c.pendingRecvframeQueue).Perm (r.2.2 ++ r.2.1.pendingRecvframeQueue) ∧
        ((r.2.1.pendingRecvframeQueue = [] ∧ r.2.1.bReorderWaiting = false) ∨
          r.2.1.reorderingCtrlTimer = true ∨
          (c.bReorderWaiting = true ∧
            r.2.1.reorderingCtrlTimer = c.reorderingCtrlTimer))) := by
  intro r
  simp only [r, recvIndicatepktReorder]
  split
  · exact .inl ⟨by simp, rfl, rfl, rfl, rfl⟩
  · -- the control after the bit has been tested and cleared
    generalize hc' : (if c.ackOrTimeout = true then
      { c with ackOrTimeout := false, indicateSeq := 0xFFFF } else c) = c'
    have hsame' : c.SameWait c' := by
      rw [← hc']
      split <;> exact ⟨rfl, rfl, rfl⟩
    have hcheck := checkIndicateSeq_sameWait c' f.attrib.seqNum
    generalize checkIndicateSeq c' f.attrib.seqNum = chk at hcheck
    have hsame : c.SameWait chk.2 :=
      ⟨hcheck.pending.trans hsame'.pending, hcheck.waiting.trans hsame'.waiting,
        hcheck.timer.trans hsame'.timer⟩
    split
    · exact .inl ⟨by simp, rfl, hsame⟩
    · cases henq : enqueueReorderRecvframe f chk.2.pendingRecvframeQueue with
      | none => exact .inl ⟨by simp, rfl, hsame⟩
      | some q =>
          have happ := recvIndicatepktsInOrder_append
            { chk.2 with pendingRecvframeQueue := q } false
          obtain ⟨hwaiting, htimer, hdone⟩ := recvIndicatepktsInOrder_spec
            { chk.2 with pendingRecvframeQueue := q } false
          have hperm := (enqueue_perm henq).symm
          rw [hsame.pending] at hperm
          simp only at happ hwaiting htimer ⊢
          generalize recvIndicatepktsInOrder { chk.2 with pendingRecvframeQueue := q } false = r
            at happ hwaiting htimer hdone
          rw [← happ] at hperm
          rw [hsame.waiting] at hwaiting
          rw [hsame.timer] at htimer
          split
          · split
            · exact .inr ⟨rfl, hperm, .inr (.inl rfl)⟩
            · rename_i hset
              rw [Bool.not_eq_true', Bool.not_eq_false, hwaiting] at hset
              exact .inr ⟨rfl, hperm, .inr (.inr ⟨hset, htimer⟩)⟩
          · rename_i hempty
            exact .inr ⟨rfl, hperm, .inl ⟨hdone (Bool.not_eq_true _ ▸ hempty), rfl⟩⟩

/-- What the handler does with the queue: it hands up frames in front, at least one if there is
one and the driver runs. -/
lemma rtwReorderingCtrlTimeoutHandler_queue (c : RecvReorderCtrl) (cannotRun : Bool) :
    (rtwReorderingCtrlTimeoutHandler c cannotRun).2 ++
        (rtwReorderingCtrlTimeoutHandler c cannotRun).1.pendingRecvframeQueue =
      c.pendingRecvframeQueue ∧
    (cannotRun = false → c.pendingRecvframeQueue ≠ [] →
      (rtwReorderingCtrlTimeoutHandler c cannotRun).2 ≠ []) := by
  unfold rtwReorderingCtrlTimeoutHandler
  cases cannotRun with
  | true => exact ⟨rfl, fun h => absurd h (by simp)⟩
  | false =>
      have happ := recvIndicatepktsInOrder_append
        { c with reorderingCtrlTimer := false, bReorderWaiting := false } true
      have hforced := recvIndicatepktsInOrder_forced
        (c := { c with reorderingCtrlTimer := false, bReorderWaiting := false })
      simp only [Bool.false_eq_true, if_false]
      split <;> exact ⟨happ, fun _ => hforced⟩

/-- Nothing that waits is lost or doubled at a step. -/
lemma reorderCtrlStep_conserves :
    Conserves reorderCtrlStep RecvReorderCtrl.pendingRecvframeQueue ReorderOut.enqueued?
      ReorderOut.indicated? := by
  intro c e
  cases e with
  | mpdu f =>
      simp only [reorderCtrlStep, recvFuncPosthandleReorder]
      obtain ⟨hret, -, hsame⟩ | ⟨hret, hperm, -⟩ := recvIndicatepktReorder_spec c f
      · split
        · simp [List.filterMap_cons, hsame.pending]
        · exact absurd ‹_› hret
        · simp [List.filterMap_cons, hsame.pending, recvSetIseqAfterMpduProcess,
            recvSetIseqBeforeMpduProcess]
      · simp only [hret, List.filterMap_cons, ReorderOut.enqueued?, ReorderOut.indicated?,
          filterMap_enqueued_map_indicated, filterMap_indicated_map_indicated]
        exact (List.perm_append_singleton f c.pendingRecvframeQueue).trans hperm
  | timeout cannotRun =>
      simp only [reorderCtrlStep, filterMap_enqueued_map_indicated,
        filterMap_indicated_map_indicated, List.append_nil]
      rw [(rtwReorderingCtrlTimeoutHandler_queue c cannotRun).1]
  | bar startSeq => simp [reorderCtrlStep, rtwProcessBarFrame]
  | addBaRsp status => simp [reorderCtrlStep, addBaRspHdl]

/-- An expiry that finds the driver running hands up a frame if one waits. -/
lemma reorderCtrlStep_expiry {e : ReorderEvent} (he : e.isExpiry = true)
    (hc : c.pendingRecvframeQueue ≠ []) :
    (reorderCtrlStep c e).2.filterMap ReorderOut.indicated? ≠ [] := by
  cases e with
  | timeout cannotRun =>
      have hrun : cannotRun = false := by simpa [ReorderEvent.isExpiry] using he
      rw [reorderCtrlStep, filterMap_indicated_map_indicated]
      exact (rtwReorderingCtrlTimeoutHandler_queue c cannotRun).2 hrun hc
  | mpdu f => simp [ReorderEvent.isExpiry] at he
  | bar startSeq => simp [ReorderEvent.isExpiry] at he
  | addBaRsp status => simp [ReorderEvent.isExpiry] at he

/-! ### The timer -/

/-- The timer is armed while a frame waits, and `bReorderWaiting` is set only while it is. -/
structure RecvReorderCtrl.Armed (c : RecvReorderCtrl) : Prop where
  waiting : c.bReorderWaiting = true → c.reorderingCtrlTimer = true
  pending : c.pendingRecvframeQueue ≠ [] → c.reorderingCtrlTimer = true

lemma RecvReorderCtrl.Armed.congr {c' : RecvReorderCtrl} (h : c.Armed) (hsame : c.SameWait c') :
    c'.Armed := by
  constructor
  · rw [hsame.waiting, hsame.timer]
    exact h.waiting
  · rw [hsame.pending, hsame.timer]
    exact h.pending

lemma RecvReorderCtrl.Armed.step (h : c.Armed) {e : ReorderEvent} (he : e ≠ .timeout true) :
    (reorderCtrlStep c e).1.Armed := by
  cases e with
  | mpdu f =>
      simp only [reorderCtrlStep, recvFuncPosthandleReorder]
      obtain ⟨hret, -, hsame⟩ | ⟨hret, -, hdone | hset | ⟨hwait, hkept⟩⟩ :=
        recvIndicatepktReorder_spec c f
      · split
        · exact h.congr hsame
        · exact absurd ‹_› hret
        · exact h.congr ⟨hsame.pending, hsame.waiting, hsame.timer⟩
      · simp only [hret]
        exact ⟨fun hw => absurd (hdone.2.symm.trans hw) Bool.false_ne_true,
          fun hp => absurd hdone.1 hp⟩
      · simp only [hret]
        exact ⟨fun _ => hset, fun _ => hset⟩
      · simp only [hret]
        have htimer := hkept.trans (h.waiting hwait)
        exact ⟨fun _ => htimer, fun _ => htimer⟩
  | timeout cannotRun =>
      cases cannotRun with
      | true => exact absurd rfl he
      | false =>
          obtain ⟨hwaiting, -, hdone⟩ := recvIndicatepktsInOrder_spec
            { c with reorderingCtrlTimer := false, bReorderWaiting := false } true
          simp only [reorderCtrlStep, rtwReorderingCtrlTimeoutHandler, Bool.false_eq_true,
            if_false]
          split
          · exact ⟨fun _ => rfl, fun _ => rfl⟩
          · rename_i hempty
            exact ⟨fun hw => absurd (hwaiting.symm.trans hw) Bool.false_ne_true,
              fun hp => absurd (hdone (by simpa using hempty)) hp⟩
  | bar startSeq => exact h.congr ⟨rfl, rfl, rfl⟩
  | addBaRsp status => exact h.congr ⟨rfl, rfl, rfl⟩

/-- **The reorder timer.**  In every run of a control, as long as no expiry found the driver
stopped, the timer is armed whenever a frame waits.  In every run at all, each queued frame is
handed up once or waits still; an expiry that finds the driver running leaves fewer frames
or none; and a frame that waits has been handed up once such expiries are as many as the frames
that waited then and those queued since. -/
theorem reorder_timer (es : List ReorderEvent) :
    let c := final reorderCtrlStep .alloc es
    let outs := outputs reorderCtrlStep .alloc es
    ((∀ e ∈ es, e ≠ .timeout true) → c.pendingRecvframeQueue ≠ [] →
        c.reorderingCtrlTimer = true) ∧
      (outs.filterMap ReorderOut.enqueued?).Perm
        (outs.filterMap ReorderOut.indicated? ++ c.pendingRecvframeQueue) ∧
      ((reorderCtrlStep c (.timeout false)).1.pendingRecvframeQueue.length <
          c.pendingRecvframeQueue.length ∨
        (reorderCtrlStep c (.timeout false)).1.pendingRecvframeQueue = []) ∧
      ∀ fs : List ReorderEvent,
        c.pendingRecvframeQueue.length +
            ((outputs reorderCtrlStep c fs).filterMap ReorderOut.enqueued?).length ≤
          fs.countP ReorderEvent.isExpiry →
        ∀ f ∈ c.pendingRecvframeQueue,
          f ∈ (outputs reorderCtrlStep c fs).filterMap ReorderOut.indicated? := by
  intro c outs
  refine ⟨fun hes => ?_, ?_, ?_, fun fs hcount f hf => ?_⟩
  · have harmed : c.Armed := final_induction (P := fun _ e => e ≠ .timeout true)
      (fun _ _ he h => h.step he) ⟨fun h => absurd h (by decide), fun h => absurd rfl h⟩
      (along_of_forall hes)
    exact harmed.pending
  · exact run_conserves reorderCtrlStep_conserves .alloc es
  · have hstep := (reorderCtrlStep_conserves c (.timeout false)).length_eq
    by_cases hc : c.pendingRecvframeQueue = []
    · right
      rw [← List.length_eq_zero_iff]
      simp only [hc, reorderCtrlStep, filterMap_enqueued_map_indicated, List.length_append,
        List.length_nil] at hstep ⊢
      omega
    · left
      have hout := List.length_pos_iff.2 (reorderCtrlStep_expiry (e := .timeout false) rfl hc)
      simp only [List.length_append] at hstep
      have hnone : (reorderCtrlStep c (.timeout false)).2.filterMap ReorderOut.enqueued? = [] :=
        filterMap_enqueued_map_indicated _
      rw [hnone, List.length_nil] at hstep
      omega
  · exact mem_gone_of_ticks reorderCtrlStep_conserves
      (fun s e he hs => reorderCtrlStep_expiry he hs) hf hcount

/-- A frame behind a gap, with a BlockAckReq and a further frame before the timer expires. -/
theorem reorder_timer_of_gap :
    let c := final reorderCtrlStep .alloc
      [.addBaRsp 0, .mpdu (qosMpdu 10), .mpdu (qosMpdu 12)]
    c.reorderingCtrlTimer = true ∧
      qosMpdu 12 ∈ (outputs reorderCtrlStep c [.bar 11, .mpdu (qosMpdu 14), .timeout false,
        .timeout false]).filterMap ReorderOut.indicated? := by
  have h := reorder_timer [.addBaRsp 0, .mpdu (qosMpdu 10), .mpdu (qosMpdu 12)]
  exact ⟨h.1 (by simp) (by decide), h.2.2.2 _ (by decide) _ (by decide)⟩

/-- The timer expires while the driver is stopped: a frame still waits, and the timer is off. -/
theorem reorder_timer_off_when_stopped :
    let c := final reorderCtrlStep .alloc
      [.addBaRsp 0, .mpdu (qosMpdu 10), .mpdu (qosMpdu 12), .timeout true]
    c.pendingRecvframeQueue = [qosMpdu 12] ∧ c.reorderingCtrlTimer = false := by
  decide

end Rtl8723du
