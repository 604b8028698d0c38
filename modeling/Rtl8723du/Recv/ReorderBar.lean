import Rtl8723du.Recv.ReorderSafety

/-!
# BlockAckReqs in the reorder control

`rtw_process_bar_frame` writes the start of the window without a look at the old start or at
the frames that wait.  A BlockAckReq whose start is behind the window moves it back, so that
frames are handed up twice.  `ReorderStepOk` says when this and what may follow from it does
not happen; in such runs the window is not moved back, frames that a BlockAckReq leaves behind
the window are handed up first, and no number is handed up twice (`reorder_bar_in_order`).
-/

namespace Rtl8723du

open Lib Lib.Serial Lib.Machine

/-- The frames that wait with a number before `seqNum`. -/
def waitingBefore (c : RecvReorderCtrl) (seqNum : ℕ) : List RecvFrame :=
  c.pendingRecvframeQueue.filter fun f => snLess f.attrib.seqNum seqNum

/-- A received QoS data MPDU, an expiry of the timer, or a received BlockAckReq; numbers
have 12 bits. -/
def ReorderEvent.IsRx : ReorderEvent → Prop
  | .mpdu f => f.attrib.qos = true ∧ f.attrib.seqNum < 4096
  | .timeout _ => True
  | .bar startSeq => startSeq < 4096
  | .addBaRsp _ => False

/-- The event does not meet the window in a state that it does not expect.  A BlockAckReq
does not start before the window.  The timer does not expire while a frame waits before the
window.  Such a frame is not so far behind that what comes seems to be before it. -/
def ReorderStepOk (c : RecvReorderCtrl) : ReorderEvent → Prop
  | .mpdu f =>
      ∀ g ∈ waitingBefore c c.indicateSeq,
        snLess ((f.attrib.seqNum + 1) % 4096) g.attrib.seqNum = true →
          snLess f.attrib.seqNum c.indicateSeq = true
  | .timeout cannotRun => cannotRun = true ∨ waitingBefore c c.indicateSeq = []
  | .bar startSeq =>
      (c.indicateSeq = 0xFFFF ∨ snLess startSeq c.indicateSeq = false) ∧
        ∀ g ∈ waitingBefore c c.indicateSeq, snLess startSeq g.attrib.seqNum = false
  | .addBaRsp _ => True

instance (c : RecvReorderCtrl) (e : ReorderEvent) : Decidable (ReorderStepOk c e) := by
  unfold ReorderStepOk
  split <;> infer_instance

variable {w : ℕ} {c : RecvReorderCtrl} {b b' : Resequencer RecvFrame} {ds : List ℕ}

/-! ### Frames before the window -/

/-- What seems to be before a number of the half turn from the start on is before it. -/
lemma Refines.waitingBefore_eq (hr : Refines w c b) {k : ℕ}
    (hnear : ∀ x ∈ b.pending, x.1 < k + 2048 ∧ k ≤ x.1 + 2048) :
    waitingBefore c (k % 4096) = (b.stale k).map Prod.snd := by
  rw [waitingBefore, hr.pending, Resequencer.stale, List.filter_map]
  congr 1
  refine List.filter_congr fun x hx => ?_
  have hless := snLess_mod_iff (hnear x hx).1 (hnear x hx).2
  rw [Function.comp_apply, hr.numbered x hx]
  exact Bool.eq_iff_iff.2 (by rw [hless, decide_eq_true_eq])

/-- A number ahead of `k` by less than a turn that does not seem to be before it. -/
lemma lt_of_snLess_eq_false {k m : ℕ} (hkm : k ≤ m) (hm : m < k + 4096)
    (h : snLess (m % 4096) (k % 4096) = false) : m < k + 2048 := by
  have hnot : ¬ 2048 ≤ ahead 4096 (k % 4096) (m % 4096) := fun hle => by
    rw [(snLess_iff_ahead _ _).2 hle] at h
    cases h
  rw [ahead_mod_left, ahead_mod_right, ahead_of_le hkm hm] at hnot
  omega

lemma Refines.waitingBefore_start (hr : Refines w c b) (hb : b.Loose w 2048 ds)
    (hw' : w ≤ 2048) : waitingBefore c c.indicateSeq = (b.stale b.start).map Prod.snd := by
  rw [hr.indicateSeq]
  refine hr.waitingBefore_eq fun x hx => ?_
  have := hb.near x hx
  omega

/-- What waits behind the window is less than half a turn behind a number that does not
seem to be before it. -/
lemma Refines.lt_of_stale (hr : Refines w c b) (hb : b.Loose w 2048 ds) (hw' : w ≤ 2048)
    {m : ℕ} (hlo : b.start ≤ m) (hhi : m ≤ b.start + 2048)
    (h : ∀ g ∈ waitingBefore c c.indicateSeq, snLess (m % 4096) g.attrib.seqNum = false) :
    ∀ x ∈ b.pending, x.1 < b.start → m < x.1 + 2048 := by
  intro x hx hlt
  have hmem : x.2 ∈ waitingBefore c c.indicateSeq := by
    rw [hr.waitingBefore_start hb hw']
    exact List.mem_map_of_mem (Resequencer.mem_stale.2 ⟨hx, hlt⟩)
  have hfalse := h x.2 hmem
  rw [hr.numbered x hx] at hfalse
  have := hb.near x hx
  exact lt_of_snLess_eq_false (by omega) (by omega) hfalse

/-! ### Steps -/

/-- What an event does to a control that refines `b`, with frames behind the window. -/
structure LooseStep (w : ℕ) (b : Resequencer RecvFrame) (ds : List ℕ)
    (r : RecvReorderCtrl × List RecvFrame) (b' : Resequencer RecvFrame)
    (out : List (ℕ × RecvFrame)) : Prop where
  refines : Refines w r.1 b'
  handedUp : r.2 = out.map Prod.snd
  numbered : Numbered out
  loose : b'.Loose w 2048 (ds ++ out.map Prod.fst)
  start_le : b.start ≤ b'.start
  le_start : b'.start ≤ b.start + 2048
  near : ∀ y ∈ out, b.start < y.1 + 2048 ∧ y.1 < b'.start
  staleFirst : ∀ k ≤ b.start,
    (out = [] ∧ b'.pending = b.pending) ∨ ∃ rest, out = b.stale k ++ rest

/-- An event that hands up nothing and at most moves the window. -/
lemma LooseStep.move {r : RecvReorderCtrl × List RecvFrame} {s : ℕ}
    (hr : Refines w r.1 (b.moveTo s)) (hout : r.2 = []) (hb : b.Loose w 2048 ds)
    (hs : b.start ≤ s) (hs' : s ≤ b.start + 2048)
    (hnear : ∀ x ∈ b.pending, s < x.1 + 2048) : LooseStep w b ds r (b.moveTo s) [] where
  refines := hr
  handedUp := hout
  numbered := by simp [Numbered]
  loose := by simpa using hb.moveTo hs hnear
  start_le := hs
  le_start := hs'
  near := by simp
  staleFirst := fun _ _ => .inl ⟨rfl, rfl⟩

lemma LooseStep.idle {r : RecvReorderCtrl × List RecvFrame} (hr : Refines w r.1 b)
    (hout : r.2 = []) (hb : b.Loose w 2048 ds) : LooseStep w b ds r b [] :=
  LooseStep.move (s := b.start) hr hout hb le_rfl (Nat.le_add_right _ _)
    fun x hx => (hb.near x hx).1

lemma Refines.mpdu_loose (hr : Refines w c b) (hb : b.Loose w 2048 ds) (hw : 1 ≤ w)
    (hw' : w ≤ 2048) {f : RecvFrame} (hqos : f.attrib.qos = true)
    (hseq : f.attrib.seqNum < 4096) (hok : ReorderStepOk c (.mpdu f)) :
    ∃ b' out, LooseStep w b ds (recvIndicatepktReorder c f).2 b' out := by
  rcases hr.mpdu_cases hb.sorted hw hw' hqos hseq with
    ⟨-, hr', hout⟩ | ⟨n, hlo, hhi, hnum, hcases⟩
  · exact ⟨b, [], .idle hr' hout hb⟩
  -- the frame is not before the window, so what waits behind the window is near
  have hstale := hr.lt_of_stale hb hw' (m := n + 1) (by omega) (by omega) fun g hg => by
    have hnot : ¬ snLess f.attrib.seqNum c.indicateSeq = true := by
      rw [hnum, hr.indicateSeq, snLess_mod_iff (by omega) (by omega)]
      omega
    have hless := mt (hok g hg) hnot
    rw [hnum, Nat.mod_add_mod] at hless
    exact Bool.eq_false_iff.2 hless
  have hshift := Resequencer.shift_bounds w b.start n hw hlo
  have hnear : ∀ y ∈ b.pending, Resequencer.shift w b.start n < y.1 + 2048 := by
    intro y hy
    by_cases hlt : y.1 < b.start
    · exact hshift.2.1.trans_lt (hstale y hy hlt)
    · by_cases hn : n = b.start
      · omega
      · have := Resequencer.shift_le_of_ne hw hlo hn
        omega
  have hall := hcases fun y hy => by
    have hbound := hb.near y hy
    have hst := hstale y hy
    have hsh := hnear y hy
    omega
  rcases hall with ⟨-, hr', hout⟩ | ⟨b', out, hacc, hr', hout, hn⟩
  · exact ⟨_, [], .move hr' hout hb hshift.1 (by omega) hnear⟩
  · have hgo := hb.accept_start (x := (n, f)) hw hw' hlo hhi hacc
    exact ⟨b', out, hr', hout, hn, hb.accept (x := (n, f)) hw hlo hnear (by decide) hacc, hgo.1,
      hgo.2.1, hgo.2.2, fun k hk => .inr (hb.stale_of_accept (x := (n, f)) hw hlo hk hacc)⟩

lemma Refines.timeout_loose (hr : Refines w c b) (hb : b.Loose w 2048 ds) (hw' : w ≤ 2048)
    {cannotRun : Bool} (hok : ReorderStepOk c (.timeout cannotRun)) :
    ∃ b' out, LooseStep w b ds (rtwReorderingCtrlTimeoutHandler c cannotRun) b' out := by
  cases cannotRun with
  | true => exact ⟨b, [], .idle hr.timeout_cannotRun.1 hr.timeout_cannotRun.2 hb⟩
  | false =>
      have hwait : waitingBefore c c.indicateSeq = [] := hok.resolve_left (by simp)
      rw [hr.waitingBefore_start hb hw', List.map_eq_nil_iff] at hwait
      have hlo : ∀ x ∈ b.pending, b.start ≤ x.1 := by
        intro x hx
        by_contra hlt
        have hin : x ∈ b.stale b.start := Resequencer.mem_stale.2 ⟨hx, by omega⟩
        rw [hwait] at hin
        cases hin
      have hexp := hr.timeout_refines hb.sorted fun x hx y hy => by
        have hx := hlo x hx
        have hy := hb.near y hy
        omega
      have hgo := hb.expire_start hw' hwait
      refine ⟨_, _, hexp.1, hexp.2.1, hexp.2.2, hb.expire (by decide) hwait, hgo.1, hgo.2.1,
        hgo.2.2, fun k hk => .inr ⟨(Resequencer.expire b).2, ?_⟩⟩
      have hnone : b.stale k = [] := by
        refine List.eq_nil_iff_forall_not_mem.2 fun x hx => ?_
        have hmem := Resequencer.mem_stale.1 hx
        have := hlo x hmem.1
        omega
      rw [hnone, List.nil_append]

/-- A BlockAckReq that does not start before the window moves it forward. -/
lemma Refines.bar_loose (hr : Refines w c b) (hb : b.Loose w 2048 ds) (hw' : w ≤ 2048)
    {startSeq : ℕ} (hseq : startSeq < 4096) (hok : ReorderStepOk c (.bar startSeq)) :
    ∃ s, b.start ≤ s ∧ startSeq = s % 4096 ∧
      waitingBefore c startSeq = (b.stale s).map Prod.snd ∧
      LooseStep w b ds (rtwProcessBarFrame c startSeq, []) (b.moveTo s) [] := by
  have hne : c.indicateSeq ≠ 0xFFFF := by
    have := hr.indicateSeq
    omega
  have hforward : snLess startSeq c.indicateSeq = false := hok.1.resolve_left hne
  have hdist : ahead 4096 b.start startSeq < 2048 := by
    by_contra hle
    have htrue := (snLess_iff_ahead startSeq c.indicateSeq).2
      (by rw [hr.indicateSeq, ahead_mod_left]; omega)
    rw [hforward] at htrue
    cases htrue
  have hnum := add_ahead_mod (m := 4096) (by decide) b.start startSeq
  rw [Nat.mod_eq_of_lt hseq] at hnum
  have hlo : b.start ≤ b.start + ahead 4096 b.start startSeq := Nat.le_add_right _ _
  have hhi : b.start + ahead 4096 b.start startSeq < b.start + 2048 := by omega
  generalize b.start + ahead 4096 b.start startSeq = s at hnum hlo hhi
  subst hnum
  have hstale := hr.lt_of_stale hb hw' hlo hhi.le hok.2
  have hnear : ∀ x ∈ b.pending, s < x.1 + 2048 := by
    intro x hx
    by_cases hlt : x.1 < b.start
    · exact hstale x hx hlt
    · omega
  refine ⟨s, hlo, rfl, ?_, ?_⟩
  · refine hr.waitingBefore_eq fun x hx => ?_
    have hbound := hb.near x hx
    have hx := hnear x hx
    omega
  · exact .move ⟨hr.enable, hr.ackOrTimeout, hr.wsizeB, rfl, hr.pending, hr.numbered⟩ rfl hb hlo
      hhi.le hnear

lemma Refines.step_loose (hr : Refines w c b) (hb : b.Loose w 2048 ds) (hw : 1 ≤ w)
    (hw' : w ≤ 2048) {e : ReorderEvent} (he : e.IsRx) (hok : ReorderStepOk c e) :
    ∃ b' out, LooseStep w b ds (reorderStep c e) b' out := by
  cases e with
  | mpdu f => exact hr.mpdu_loose hb hw hw' he.1 he.2 hok
  | timeout cannotRun => exact hr.timeout_loose hb hw' hok
  | bar startSeq =>
      obtain ⟨s, -, -, -, hs⟩ := hr.bar_loose hb hw' he hok
      exact ⟨_, [], hs⟩
  | addBaRsp status => exact he.elim

/-! ### Runs -/

/-- The numbers of the frames handed up over a run, without the wraparound: the window start
is at `pos` before the run and moves with the window, and a frame lies as far behind it as its
sequence number is behind `indicate_seq` when it is handed up. -/
def upNumbers (pos : ℤ) (c : RecvReorderCtrl) : List ReorderEvent → List ℤ
  | [] => []
  | e :: es =>
      (reorderStep c e).2.map (fun f => pos + windowMove c e -
        ahead 4096 f.attrib.seqNum (reorderStep c e).1.indicateSeq) ++
        upNumbers (pos + windowMove c e) (reorderStep c e).1 es

/-- An event moves the window from the start of `b` to the start of `b'`. -/
lemma LooseStep.windowMove {e : ReorderEvent} {out : List (ℕ × RecvFrame)}
    (hstart : Rtl8723du.windowStart c e = b.start % 4096)
    (hs : LooseStep w b ds (reorderStep c e) b' out) :
    Rtl8723du.windowMove c e = b'.start - b.start := by
  have hle := hs.start_le
  have hmax := hs.le_start
  rw [Rtl8723du.windowMove, hstart, hs.refines.indicateSeq, ahead_mod_left, ahead_mod_right,
    ahead_of_le hle (by omega)]

/-- The frames of an event lie where their numbers say. -/
lemma LooseStep.upNumbers {e : ReorderEvent} {out : List (ℕ × RecvFrame)} (pos : ℤ)
    (hstart : Rtl8723du.windowStart c e = b.start % 4096)
    (hs : LooseStep w b ds (reorderStep c e) b' out) :
    (reorderStep c e).2.map (fun f => pos + Rtl8723du.windowMove c e -
        ahead 4096 f.attrib.seqNum (reorderStep c e).1.indicateSeq) =
      out.map fun x => (x.1 : ℤ) + (pos - b.start) := by
  have hle := hs.start_le
  have hmax := hs.le_start
  rw [hs.handedUp, List.map_map, hs.windowMove hstart]
  refine List.map_congr_left fun y hy => ?_
  have hbound := hs.near y hy
  rw [Function.comp_apply, hs.numbered y hy, hs.refines.indicateSeq, ahead_mod_left,
    ahead_mod_right, ahead_of_le hbound.2.le (by omega)]
  omega

/-- What a run does to a control that refines `b`. -/
lemma Refines.run_loose (hr : Refines w c b) (hb : b.Loose w 2048 ds) (hw : 1 ≤ w)
    (hw' : w ≤ 2048) {es : List ReorderEvent} (hes : ∀ e ∈ es, e.IsRx)
    (hok : Along reorderStep ReorderStepOk c es) (pos : ℤ) :
    ∃ b' out, Refines w (final reorderStep c es) b' ∧
      b'.Loose w 2048 (ds ++ out.map Prod.fst) ∧
      outputs reorderStep c es = out.map Prod.snd ∧
      upNumbers pos c es = out.map (fun x => (x.1 : ℤ) + (pos - b.start)) ∧
      ∀ k ≤ b.start, out = [] ∨ ∃ rest, out = b.stale k ++ rest := by
  induction es generalizing c b ds pos with
  | nil => exact ⟨b, [], hr, by simpa using hb, rfl, rfl, fun _ _ => .inl rfl⟩
  | cons e es ih =>
      obtain ⟨b₁, out₁, hs⟩ := hr.step_loose hb hw hw' (hes e List.mem_cons_self) hok.1
      obtain ⟨b₂, out₂, hr₂, hb₂, hout₂, hnum₂, hstale₂⟩ := ih hs.refines hs.loose
        (fun e' he' => hes e' (List.mem_cons_of_mem _ he')) hok.2 (pos + windowMove c e)
      have hstart := hr.windowStart e
      refine ⟨b₂, out₁ ++ out₂, hr₂, ?_, ?_, ?_, ?_⟩
      · rw [List.map_append, ← List.append_assoc]
        exact hb₂
      · rw [outputs_cons, hs.handedUp, hout₂, List.map_append]
      · rw [upNumbers, hs.upNumbers pos hstart, hnum₂, List.map_append]
        congr 2
        funext x
        have hle := hs.start_le
        rw [hs.windowMove hstart]
        omega
      · intro k hk
        rcases hs.staleFirst k hk with ⟨rfl, hpend⟩ | ⟨rest, rfl⟩
        · have hsame : b₁.stale k = b.stale k := by
            rw [Resequencer.stale, hpend, Resequencer.stale]
          have hstale := hstale₂ k (hk.trans hs.start_le)
          rwa [hsame] at hstale
        · exact .inr ⟨rest ++ out₂, List.append_assoc _ _ _⟩

/-- Nothing waits, and the next MPDU starts the window. -/
structure RecvReorderCtrl.Idle (c : RecvReorderCtrl) : Prop where
  enable : c.enable = true
  startsOver : c.ackOrTimeout = true ∨ c.indicateSeq = 0xFFFF
  pending : c.pendingRecvframeQueue = []

/-- An MPDU is treated as if the window started at it. -/
lemma RecvReorderCtrl.Idle.mpdu (hc : c.Idle) {f : RecvFrame} (hqos : f.attrib.qos = true)
    (hseq : f.attrib.seqNum < 4096) :
    reorderStep c (.mpdu f) =
        reorderStep { c with ackOrTimeout := false, indicateSeq := f.attrib.seqNum } (.mpdu f) ∧
      Refines c.wsizeB { c with ackOrTimeout := false, indicateSeq := f.attrib.seqNum }
        ⟨f.attrib.seqNum, []⟩ ∧ windowStart c (.mpdu f) = f.attrib.seqNum := by
  obtain ⟨enable, indicateSeq, wsizeB, pending, waiting, ack, timer⟩ := c
  obtain ⟨rfl, hover, rfl⟩ := hc
  have hinit := checkIndicateSeq_init
    (c := ⟨true, 0xFFFF, wsizeB, [], waiting, false, timer⟩) rfl hseq
  refine ⟨?_, ⟨rfl, rfl, rfl, (Nat.mod_eq_of_lt hseq).symm, rfl, by simp [Numbered]⟩, ?_⟩
  · cases ack with
    | true => simp [reorderStep, recvIndicatepktReorder, hqos, hinit]
    | false =>
        obtain rfl : indicateSeq = 0xFFFF := hover.resolve_left (by simp)
        simp [reorderStep, recvIndicatepktReorder, hqos, hinit]
  · cases ack with
    | true => simp [windowStart]
    | false =>
        obtain rfl : indicateSeq = 0xFFFF := hover.resolve_left (by simp)
        simp [windowStart]

/-- What is known of a control after a run from one that is idle. -/
inductive Waits (w : ℕ) (c : RecvReorderCtrl) : Prop
  | idle : c.Idle → c.wsizeB = w → Waits w c
  | started {b : Resequencer RecvFrame} {ds : List ℕ} : Refines w c b → b.Loose w 2048 ds →
      Waits w c

lemma loose_nil (s : ℕ) : (⟨s, []⟩ : Resequencer RecvFrame).Loose w 2048 [] :=
  ⟨.nil, by simp, .nil, by simp⟩

/-- An idle control stays idle and hands up nothing, starts its window at a BlockAckReq, or
behaves as one that has started. -/
lemma RecvReorderCtrl.Idle.step_cases (hc : c.Idle) {e : ReorderEvent} (he : e.IsRx) :
    ((reorderStep c e).2 = [] ∧ (reorderStep c e).1.wsizeB = c.wsizeB ∧
        ((reorderStep c e).1.Idle ∨ ∃ s, Refines c.wsizeB (reorderStep c e).1 ⟨s, []⟩)) ∨
      ∃ c' s, Refines c.wsizeB c' ⟨s, []⟩ ∧ reorderStep c e = reorderStep c' e ∧
        windowStart c e = windowStart c' e ∧ ReorderStepOk c' e := by
  cases e with
  | mpdu f =>
      obtain ⟨hstep, hr, hstart⟩ := hc.mpdu he.1 he.2
      refine .inr ⟨_, _, hr, hstep, ?_, ?_⟩
      · rw [hstart, hr.windowStart]
        exact (Nat.mod_eq_of_lt he.2).symm
      · intro g hg
        simp [waitingBefore, hc.pending] at hg
  | timeout cannotRun =>
      have hp := hc.pending
      cases cannotRun with
      | true => exact .inl ⟨rfl, rfl, .inl ⟨hc.enable, hc.startsOver, hp⟩⟩
      | false =>
          simp only [reorderStep, rtwReorderingCtrlTimeoutHandler, recvIndicatepktsInOrder, hp,
            Bool.false_eq_true, if_false, if_true]
          exact .inl ⟨trivial, trivial, .inl ⟨hc.enable, hc.startsOver, rfl⟩⟩
  | bar startSeq =>
      refine .inl ⟨rfl, rfl, ?_⟩
      cases hack : c.ackOrTimeout with
      | true => exact .inl ⟨hc.enable, .inl hack, hc.pending⟩
      | false =>
          exact .inr ⟨startSeq, hc.enable, hack, rfl, (Nat.mod_eq_of_lt he).symm, hc.pending,
            by simp [Numbered]⟩
  | addBaRsp status => exact he.elim

lemma Waits.step (hc : Waits w c) (hw : 1 ≤ w) (hw' : w ≤ 2048) {e : ReorderEvent}
    (he : e.IsRx) (hok : ReorderStepOk c e) : Waits w (reorderStep c e).1 := by
  cases hc with
  | started hr hb =>
      obtain ⟨b', out, hs⟩ := hr.step_loose hb hw hw' he hok
      exact .started hs.refines hs.loose
  | idle hidle hwc =>
      subst hwc
      rcases hidle.step_cases he with ⟨-, hsize, hnext | ⟨s, hr⟩⟩ | ⟨c', s, hr, hstep, -, hok'⟩
      · exact .idle hnext hsize
      · exact .started hr (loose_nil s)
      · obtain ⟨b', out, hs⟩ := hr.step_loose (loose_nil s) hw hw' he hok'
        rw [hstep]
        exact .started hs.refines hs.loose

lemma upNumbers_increasing_of_refines (hr : Refines w c b) (hb : b.Loose w 2048 []) (hw : 1 ≤ w)
    (hw' : w ≤ 2048) {es : List ReorderEvent} (hes : ∀ e ∈ es, e.IsRx)
    (hok : Along reorderStep ReorderStepOk c es) (pos : ℤ) :
    (upNumbers pos c es).Pairwise (· < ·) := by
  obtain ⟨b', out, -, hb', -, hnum, -⟩ := hr.run_loose hb hw hw' hes hok pos
  have hlt : out.Pairwise fun x y => x.1 < y.1 := by
    rw [← List.pairwise_map]
    simpa using hb'.increasing
  rw [hnum, List.pairwise_map]
  refine hlt.imp ?_
  intro x y hxy
  show (x.1 : ℤ) + (pos - b.start) < (y.1 : ℤ) + (pos - b.start)
  omega

/-- The frames of a run from an idle control are handed up in the order of their numbers. -/
lemma upNumbers_increasing (hc : c.Idle) (hw : 1 ≤ c.wsizeB) (hw' : c.wsizeB ≤ 2048)
    {es : List ReorderEvent} (hes : ∀ e ∈ es, e.IsRx)
    (hok : Along reorderStep ReorderStepOk c es) (pos : ℤ) :
    (upNumbers pos c es).Pairwise (· < ·) := by
  induction es generalizing c pos with
  | nil => exact .nil
  | cons e es ih =>
      have he : e.IsRx := hes e List.mem_cons_self
      have hes' : ∀ e' ∈ es, e'.IsRx := fun e' he' => hes e' (List.mem_cons_of_mem _ he')
      rcases hc.step_cases he with
        ⟨hout, hsize, hnext | ⟨s, hr⟩⟩ | ⟨c', s, hr, hstep, hstart, hok'⟩
      · rw [upNumbers, hout]
        exact ih hnext (hsize ▸ hw) (hsize ▸ hw') hes' hok.2 _
      · rw [upNumbers, hout]
        exact upNumbers_increasing_of_refines hr (loose_nil s) hw hw' hes' hok.2 _
      · -- the run is one of the control that the MPDU starts
        have hmove : windowMove c e = windowMove c' e := by
          rw [windowMove, hstart, hstep, windowMove]
        have hsame : upNumbers pos c (e :: es) = upNumbers pos c' (e :: es) := by
          rw [upNumbers, upNumbers, hmove, hstep]
        have hrest := hok.2
        rw [hstep] at hrest
        rw [hsame]
        exact upNumbers_increasing_of_refines hr (loose_nil s) hw hw' hes ⟨hok', hrest⟩ pos

end Rtl8723du
