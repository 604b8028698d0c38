import Rtl8723du.Lib.Machine
import Rtl8723du.Recv.ReorderRefine

/-!
# What a reorder control hands up and discards

From a fresh control, over data MPDUs and expiries of the timer:

* the frames are handed up in the order of the sequence numbers, and a number is
  handed up again only after the window has gone once around
  (`reorder_hands_up_in_order`);
* whatever the state and the event, no frame disappears: an MPDU is handed up, put
  into the queue, or discarded for one of the two reasons that `DiscardedOrKept`
  gives (`reorderStep_discardedOrKept`).
-/

namespace Rtl8723du

open Lib Lib.Serial Lib.Machine

/-! ### No frame disappears -/

/-- The `indicate_seq` that an event is measured against: an MPDU that meets
`0xFFFF`, or the bit of an acknowledged ADDBA response, starts the window. -/
def windowStart (c : RecvReorderCtrl) : ReorderEvent → ℕ
  | .mpdu f =>
      if c.ackOrTimeout || c.indicateSeq == 0xFFFF then f.attrib.seqNum else c.indicateSeq
  | _ => c.indicateSeq

/-- An MPDU is handed up or queued, unless it is before the window or repeats a
number of the queue; the other events lose nothing. -/
def DiscardedOrKept (c : RecvReorderCtrl) (e : ReorderEvent) : Prop :=
  match e with
  | .mpdu f =>
      ((reorderStep c e).2 ++ (reorderStep c e).1.pendingRecvframeQueue).Perm
          (f :: c.pendingRecvframeQueue) ∨
        (reorderStep c e).2 = [] ∧
          (reorderStep c e).1.pendingRecvframeQueue = c.pendingRecvframeQueue ∧
          (snLess f.attrib.seqNum (windowStart c e) = true ∨
            ∃ g ∈ c.pendingRecvframeQueue, g.attrib.seqNum = f.attrib.seqNum)
  | _ => (reorderStep c e).2 ++ (reorderStep c e).1.pendingRecvframeQueue
      = c.pendingRecvframeQueue

lemma enqueue_perm {f : RecvFrame} {q q' : List RecvFrame}
    (h : enqueueReorderRecvframe f q = some q') : q'.Perm (f :: q) := by
  induction q generalizing q' with
  | nil =>
      obtain rfl : [f] = q' := by simpa [enqueueReorderRecvframe] using h
      exact .refl _
  | cons g gs ih =>
      simp only [enqueueReorderRecvframe] at h
      split at h
      · obtain ⟨gs', hgs', rfl⟩ := Option.map_eq_some_iff.1 h
        exact ((ih hgs').cons g).trans (.swap f g gs)
      · split at h
        · exact absurd h (by simp)
        · obtain rfl : f :: g :: gs = q' := by simpa using h
          exact .refl _

lemma exists_of_enqueue_eq_none {f : RecvFrame} {q : List RecvFrame}
    (h : enqueueReorderRecvframe f q = none) : ∃ g ∈ q, g.attrib.seqNum = f.attrib.seqNum := by
  induction q with
  | nil => exact absurd h (by simp [enqueueReorderRecvframe])
  | cons g gs ih =>
      simp only [enqueueReorderRecvframe] at h
      split at h
      · obtain ⟨g', hg', hseq⟩ := ih (Option.map_eq_none_iff.1 h)
        exact ⟨g', List.mem_cons_of_mem _ hg', hseq⟩
      · split at h
        · exact ⟨g, List.mem_cons_self .., by simpa [snEqual] using ‹snEqual _ _ = true›⟩
        · exact absurd h (by simp)

lemma indicateLoop_append (ind : ℕ) (q : List RecvFrame) :
    (indicateLoop ind q).2.2 ++ (indicateLoop ind q).2.1 = q := by
  induction q generalizing ind with
  | nil => rfl
  | cons f fs ih =>
      simp only [indicateLoop]
      split
      · rfl
      · simp only [List.cons_append, ih]

lemma recvIndicatepktsInOrder_append (c : RecvReorderCtrl) (bforced : Bool) :
    (recvIndicatepktsInOrder c bforced).2.2 ++
      (recvIndicatepktsInOrder c bforced).2.1.pendingRecvframeQueue
        = c.pendingRecvframeQueue := by
  unfold recvIndicatepktsInOrder
  split
  · split
    · rfl
    · exact indicateLoop_append _ _
  · exact indicateLoop_append _ _

/-- `check_indicate_seq` touches only the window, and drops only what is before it. -/
lemma checkIndicateSeq_spec (c : RecvReorderCtrl) (seqNum : ℕ) :
    (checkIndicateSeq c seqNum).2.pendingRecvframeQueue = c.pendingRecvframeQueue ∧
      ((checkIndicateSeq c seqNum).1 = false →
        snLess seqNum (if c.indicateSeq = 0xFFFF then seqNum else c.indicateSeq) = true) := by
  have hpend : (if c.indicateSeq = 0xFFFF then { c with indicateSeq := seqNum }
      else c).pendingRecvframeQueue = c.pendingRecvframeQueue := by split <;> rfl
  have hind : (if c.indicateSeq = 0xFFFF then { c with indicateSeq := seqNum }
      else c).indicateSeq = if c.indicateSeq = 0xFFFF then seqNum else c.indicateSeq := by
    split <;> rfl
  rw [← hpend, ← hind]
  unfold checkIndicateSeq
  generalize (if c.indicateSeq = 0xFFFF then { c with indicateSeq := seqNum } else c) = c'
  dsimp only
  split
  · exact ⟨rfl, fun _ => ‹_›⟩
  · split
    · exact ⟨rfl, by simp⟩
    · split
      · split <;> exact ⟨rfl, by simp⟩
      · exact ⟨rfl, by simp⟩

/-- Every event hands up, keeps or rightly discards each frame, in any state. -/
theorem reorderStep_discardedOrKept (c : RecvReorderCtrl) (hc : c.enable = true) (e : ReorderEvent)
    (he : ∀ f, e = .mpdu f → f.attrib.qos = true) : DiscardedOrKept c e := by
  cases e with
  | bar startSeq => rfl
  | addBaRsp status => rfl
  | timeout cannotRun =>
      simp only [DiscardedOrKept, reorderStep, rtwReorderingCtrlTimeoutHandler]
      cases cannotRun with
      | true => rfl
      | false =>
          have happ := recvIndicatepktsInOrder_append
            { c with reorderingCtrlTimer := false, bReorderWaiting := false } true
          simp only [Bool.false_eq_true, if_false]
          split <;> exact happ
  | mpdu f =>
      have hqos := he f rfl
      have hgate : (!f.attrib.qos || !c.enable) = false := by simp [hqos, hc]
      simp only [DiscardedOrKept, reorderStep, recvIndicatepktReorder, hgate, Bool.false_eq_true,
        if_false]
      -- the control after the bit has been tested and cleared
      generalize hc' : (if c.ackOrTimeout = true then
        { c with ackOrTimeout := false, indicateSeq := 0xFFFF } else c) = c'
      have hpend : c'.pendingRecvframeQueue = c.pendingRecvframeQueue := by
        rw [← hc']
        split <;> rfl
      have hstart : (if c'.indicateSeq = 0xFFFF then f.attrib.seqNum else c'.indicateSeq)
          = windowStart c (.mpdu f) := by
        rw [← hc', windowStart]
        cases c.ackOrTimeout <;> simp
      obtain ⟨hkeep, hdrop⟩ := checkIndicateSeq_spec c' f.attrib.seqNum
      rw [hpend] at hkeep
      rw [hstart] at hdrop
      generalize checkIndicateSeq c' f.attrib.seqNum = chk at hkeep hdrop
      obtain ⟨pass, c''⟩ := chk
      simp only at hkeep hdrop
      cases pass with
      | false => exact Or.inr ⟨rfl, hkeep, Or.inl (hdrop rfl)⟩
      | true =>
          simp only [Bool.not_true, Bool.false_eq_true, if_false]
          cases henq : enqueueReorderRecvframe f c''.pendingRecvframeQueue with
          | none =>
              rw [hkeep] at henq
              exact Or.inr ⟨rfl, hkeep, Or.inr (exists_of_enqueue_eq_none henq)⟩
          | some q =>
              refine Or.inl ?_
              have happ := recvIndicatepktsInOrder_append
                { c'' with pendingRecvframeQueue := q } false
              have hperm := enqueue_perm henq
              rw [hkeep] at hperm
              simp only at happ ⊢
              rw [← happ] at hperm
              split
              · split <;> exact hperm
              · exact hperm

/-! ### The order of the frames handed up -/

/-- By how many numbers an event moves the window. -/
def windowMove (c : RecvReorderCtrl) (e : ReorderEvent) : ℕ :=
  ahead 4096 (windowStart c e) (reorderStep c e).1.indicateSeq

/-- By how many numbers the events of a run move the window. -/
def windowMoves (c : RecvReorderCtrl) : List ReorderEvent → ℕ
  | [] => 0
  | e :: es => windowMove c e + windowMoves (reorderStep c e).1 es

/-- Each frame follows the one before by `1 … 2048` in the order of the sequence
numbers. -/
def InSeqOrder (fs : List RecvFrame) : Prop :=
  fs.IsChain fun f g => 1 ≤ ahead 4096 f.attrib.seqNum g.attrib.seqNum ∧
    ahead 4096 f.attrib.seqNum g.attrib.seqNum ≤ 2048

/-- The event hands up only numbers that it moves the window over, each once. -/
def HandsUpPassed (c : RecvReorderCtrl) (e : ReorderEvent) : Prop :=
  ((reorderStep c e).2.Pairwise fun f g => f.attrib.seqNum ≠ g.attrib.seqNum) ∧
    ∀ f ∈ (reorderStep c e).2, ahead 4096 (windowStart c e) f.attrib.seqNum < windowMove c e

variable {w : ℕ} {c : RecvReorderCtrl} {b b' : Resequencer RecvFrame} {ds : List ℕ}

/-- Numbers that increase by at most half a turn give sequence numbers in order. -/
lemma Numbered.inSeqOrder {out : List (ℕ × RecvFrame)} (hn : Numbered out)
    (h : (out.map Prod.fst).IsChain fun d d' => d < d' ∧ d' ≤ d + 2048) :
    InSeqOrder (out.map Prod.snd) := by
  induction out with
  | nil => exact .nil
  | cons x xs ih =>
      obtain ⟨hx, hn⟩ := hn.of_cons
      rw [List.map_cons, List.isChain_cons] at h
      refine List.isChain_cons.2 ⟨fun g hg => ?_, ih hn h.2⟩
      cases xs with
      | nil => simp at hg
      | cons y ys =>
          obtain rfl : y.2 = g := by simpa using hg
          have hxy := h.1 y.1 (by simp)
          rw [hx, hn.of_cons.1, ahead_mod_left, ahead_mod_right, ahead_of_le hxy.1.le (by omega)]
          omega

/-- Before its first MPDU a control that refines `b` does not start over. -/
lemma Refines.windowStart (hr : Refines w c b) (e : ReorderEvent) :
    windowStart c e = b.start % 4096 := by
  have hne : (c.indicateSeq == 0xFFFF) = false := by
    have := hr.indicateSeq
    rw [beq_eq_false_iff_ne]
    omega
  cases e with
  | mpdu f =>
      simp only [Rtl8723du.windowStart, hr.ackOrTimeout, hne, Bool.or_self, Bool.false_eq_true,
        if_false]
      exact hr.indicateSeq
  | _ => exact hr.indicateSeq

lemma Refines.step (hr : Refines w c b) (hb : b.Inv w 2048 ds) (hw : 1 ≤ w) (hw' : w ≤ 2048)
    {e : ReorderEvent} (he : e.IsData) :
    ∃ b' out, StepRefines w b ds (reorderStep c e) b' out := by
  cases e with
  | mpdu f => exact hr.mpdu hb hw hw' he.1 he.2
  | timeout cannotRun => exact hr.timeout hb hw' cannotRun
  | bar startSeq => exact he.elim
  | addBaRsp status => exact he.elim

/-- The window moves from the start of `b` to the start of `b'`. -/
lemma StepRefines.windowMove {e : ReorderEvent} {out : List (ℕ × RecvFrame)}
    (hstart : Rtl8723du.windowStart c e = b.start % 4096)
    (hs : StepRefines w b ds (reorderStep c e) b' out) :
    b.start + windowMove c e = b'.start := by
  have hle := hs.start_le
  have hmove : Rtl8723du.windowMove c e = b'.start - b.start := by
    rw [Rtl8723du.windowMove, hstart, hs.refines.indicateSeq, ahead_mod_left, ahead_mod_right,
      ahead_of_le hle (by have := hs.le_start; omega)]
  omega

/-- What an event hands up lies between the old and the new start. -/
lemma StepRefines.handsUpPassed {e : ReorderEvent} {out : List (ℕ × RecvFrame)}
    (hstart : Rtl8723du.windowStart c e = b.start % 4096)
    (hs : StepRefines w b ds (reorderStep c e) b' out) : HandsUpPassed c e := by
  have hmove := hs.windowMove hstart
  have hle := hs.le_start
  rw [HandsUpPassed, hs.handedUp]
  constructor
  · have hchain := (List.isChain_append.1 hs.inv.chain).2.1
    have hlt : (out.map Prod.fst).Pairwise (· < ·) :=
      List.isChain_iff_pairwise.1 (hchain.imp fun _ _ h => h.1)
    rw [List.pairwise_map] at hlt ⊢
    refine hlt.imp_of_mem fun {x y} hx hy hxy heq => ?_
    have hbx := hs.between x hx
    have hby := hs.between y hy
    rw [hs.numbered x hx, hs.numbered y hy] at heq
    omega
  · rintro f hf
    obtain ⟨x, hx, rfl⟩ := List.mem_map.1 hf
    have hbx := hs.between x hx
    rw [hstart, hs.numbered x hx, ahead_mod_left, ahead_mod_right,
      ahead_of_le hbx.1 (by omega)]
    omega

/-- A run of data events keeps the refinement; `ds` are the numbers handed up
before it. -/
lemma Refines.run (hr : Refines w c b) (hb : b.Inv w 2048 ds) (hw : 1 ≤ w) (hw' : w ≤ 2048)
    {es : List ReorderEvent} (hes : ∀ e ∈ es, e.IsData) :
    ∃ b' out, Refines w (final reorderStep c es) b' ∧ b'.Inv w 2048 (ds ++ out.map Prod.fst) ∧
      Numbered out ∧ outputs reorderStep c es = out.map Prod.snd ∧
      b.start + windowMoves c es = b'.start := by
  induction es generalizing c b ds with
  | nil => exact ⟨b, [], hr, by simpa using hb, by simp [Numbered], rfl, rfl⟩
  | cons e es ih =>
      obtain ⟨b₁, out₁, hs⟩ := hr.step hb hw hw' (hes e (List.mem_cons_self ..))
      obtain ⟨b₂, out₂, hr₂, hb₂, hn₂, hout₂, hmove₂⟩ := ih hs.refines hs.inv
        fun e' he' => hes e' (List.mem_cons_of_mem _ he')
      refine ⟨b₂, out₁ ++ out₂, hr₂, ?_, hs.numbered.append hn₂, ?_, ?_⟩
      · rw [List.map_append, ← List.append_assoc]
        exact hb₂
      · rw [outputs_cons, hs.handedUp, hout₂, List.map_append]
      · have hmove₁ := hs.windowMove (hr.windowStart e)
        rw [windowMoves]
        omega

/-! ### Runs from a fresh control -/

/-- The first MPDU starts the window. -/
lemma checkIndicateSeq_init {seqNum : ℕ} (h : c.indicateSeq = 0xFFFF) (hseq : seqNum < 4096) :
    checkIndicateSeq c seqNum = checkIndicateSeq { c with indicateSeq := seqNum } seqNum := by
  have hne : seqNum ≠ 0xFFFF := by omega
  simp only [checkIndicateSeq, h, hne, if_true, if_false]

/-- An MPDU that meets `0xFFFF` is treated as if the window started at it. -/
lemma RecvReorderCtrl.Fresh.mpdu (hc : c.Fresh) {f : RecvFrame} (hqos : f.attrib.qos = true)
    (hseq : f.attrib.seqNum < 4096) :
    reorderStep c (.mpdu f) =
        reorderStep { c with ackOrTimeout := false, indicateSeq := f.attrib.seqNum } (.mpdu f) ∧
      Refines c.wsizeB { c with ackOrTimeout := false, indicateSeq := f.attrib.seqNum }
        ⟨f.attrib.seqNum, []⟩ := by
  obtain ⟨enable, indicateSeq, wsizeB, pending, waiting, ack, timer⟩ := c
  obtain ⟨rfl, rfl, rfl⟩ := hc
  have hinit := checkIndicateSeq_init
    (c := ⟨true, 0xFFFF, wsizeB, [], waiting, false, timer⟩) rfl hseq
  constructor
  · cases ack <;> simp [reorderStep, recvIndicatepktReorder, hqos, hinit]
  · exact ⟨rfl, rfl, rfl, (Nat.mod_eq_of_lt hseq).symm, rfl, by simp [Numbered]⟩

/-- A timer that expires before the first MPDU does nothing. -/
lemma RecvReorderCtrl.Fresh.timeout (hc : c.Fresh) (cannotRun : Bool) :
    (reorderStep c (.timeout cannotRun)).2 = [] ∧ (reorderStep c (.timeout cannotRun)).1.Fresh ∧
      (reorderStep c (.timeout cannotRun)).1.wsizeB = c.wsizeB := by
  obtain ⟨enable, indicateSeq, wsizeB, pending, waiting, ack, timer⟩ := c
  obtain ⟨rfl, rfl, rfl⟩ := hc
  cases cannotRun <;> exact ⟨rfl, ⟨rfl, rfl, rfl⟩, rfl⟩

/-- What is known of a control after a run from a fresh one that handed up
`hist`: it has not started, or it refines a resequencer. -/
inductive Tracks (w : ℕ) (c : RecvReorderCtrl) : List RecvFrame → Prop
  | fresh : c.Fresh → c.wsizeB = w → Tracks w c []
  | started {b : Resequencer RecvFrame} {ds : List (ℕ × RecvFrame)} :
      Refines w c b → b.Inv w 2048 (ds.map Prod.fst) → Numbered ds → Tracks w c (ds.map Prod.snd)

/-- An event leaves a fresh control fresh, or steps a resequencer. -/
lemma Tracks.step_cases {hist : List RecvFrame} (ht : Tracks w c hist) (hw : 1 ≤ w)
    (hw' : w ≤ 2048) {e : ReorderEvent} (he : e.IsData) :
    (hist = [] ∧ (reorderStep c e).2 = [] ∧ (reorderStep c e).1.Fresh ∧
        (reorderStep c e).1.wsizeB = w) ∨
      ∃ b b' ds out, hist = ds.map Prod.snd ∧ Numbered ds ∧ windowStart c e = b.start % 4096 ∧
        StepRefines w b (ds.map Prod.fst) (reorderStep c e) b' out := by
  cases ht with
  | started hr hb hn =>
      obtain ⟨b', out, hs⟩ := hr.step hb hw hw' he
      exact Or.inr ⟨_, b', _, out, rfl, hn, hr.windowStart e, hs⟩
  | fresh hc hwc =>
      cases e with
      | mpdu f =>
          obtain ⟨heq, hr⟩ := hc.mpdu he.1 he.2
          have hb : (⟨f.attrib.seqNum, []⟩ : Resequencer RecvFrame).Inv c.wsizeB 2048 [] :=
            ⟨.nil, by simp, .nil, by simp, by simp, by simp⟩
          obtain ⟨b', out, hs⟩ := hr.step hb (hwc ▸ hw) (hwc ▸ hw') he
          refine Or.inr ⟨⟨f.attrib.seqNum, []⟩, b', [], out, rfl, by simp [Numbered], ?_, ?_⟩
          · simp only [windowStart, hc.indicateSeq, BEq.rfl, Bool.or_true, if_true]
            exact (Nat.mod_eq_of_lt he.2).symm
          · rw [heq, ← hwc]
            exact hs
      | timeout cannotRun =>
          obtain ⟨hout, hfresh, hsize⟩ := hc.timeout cannotRun
          exact Or.inl ⟨rfl, hout, hfresh, hsize.trans hwc⟩
      | bar startSeq => exact he.elim
      | addBaRsp status => exact he.elim

lemma Tracks.step {hist : List RecvFrame} (ht : Tracks w c hist) (hw : 1 ≤ w) (hw' : w ≤ 2048)
    {e : ReorderEvent} (he : e.IsData) :
    Tracks w (reorderStep c e).1 (hist ++ (reorderStep c e).2) := by
  obtain ⟨rfl, hout, hc, hwc⟩ | ⟨b, b', ds, out, rfl, hn, -, hs⟩ := ht.step_cases hw hw' he
  · rw [hout]
    exact .fresh hc hwc
  · rw [hs.handedUp, ← List.map_append]
    refine .started hs.refines ?_ (hn.append hs.numbered)
    rw [List.map_append]
    exact hs.inv

lemma Tracks.run (hc : c.Fresh) (hw : 1 ≤ c.wsizeB) (hw' : c.wsizeB ≤ 2048)
    {es : List ReorderEvent} (hes : ∀ e ∈ es, e.IsData) :
    Tracks c.wsizeB (final reorderStep c es) (outputs reorderStep c es) := by
  have := history_induction (I := Tracks c.wsizeB) (fun _ _ _ he ht => Tracks.step ht hw hw' he)
    (.fresh hc rfl) (along_of_forall (Q := ReorderEvent.IsData) hes)
  simpa using this

lemma Tracks.enable {hist : List RecvFrame} (ht : Tracks w c hist) : c.enable = true := by
  cases ht with
  | fresh hc _ => exact hc.enable
  | started hr _ _ => exact hr.enable

/-- A number that is handed up by two events of a run is handed up again only
after the window has gone once around. -/
lemma Tracks.turn {hist : List RecvFrame} (ht : Tracks w c hist) (hw : 1 ≤ w) (hw' : w ≤ 2048)
    {e e' : ReorderEvent} {mid : List ReorderEvent} (he : e.IsData) (he' : e'.IsData)
    (hmid : ∀ a ∈ mid, a.IsData) {f g : RecvFrame} (hf : f ∈ (reorderStep c e).2)
    (hg : g ∈ (reorderStep (final reorderStep c (e :: mid)) e').2)
    (hfg : f.attrib.seqNum = g.attrib.seqNum) :
    4096 < windowMoves c (e :: mid) + windowMove (final reorderStep c (e :: mid)) e' := by
  obtain ⟨-, hout, -⟩ | ⟨b₀, b₁, ds, out, -, -, hstart, hs⟩ := ht.step_cases hw hw' he
  · simp [hout] at hf
  obtain ⟨b₂, out₂, hr₂, hb₂, -, -, hmoves⟩ := hs.refines.run hs.inv hw hw' hmid
  obtain ⟨b₃, out₃, hs₃⟩ := hr₂.step hb₂ hw hw' he'
  have hmove := hs.windowMove hstart
  have hmove₃ := hs₃.windowMove (hr₂.windowStart e')
  -- the numbers of the two frames are equal modulo 4096, and an event lies between them
  rw [hs.handedUp] at hf
  rw [final_cons, hs₃.handedUp] at hg
  obtain ⟨x, hx, rfl⟩ := List.mem_map.1 hf
  obtain ⟨y, hy, rfl⟩ := List.mem_map.1 hg
  rw [hs.numbered x hx, hs₃.numbered y hy] at hfg
  have hbx := hs.between x hx
  have hby := hs₃.between y hy
  have hturn := add_le_of_mod_eq (by omega) hfg
  rw [final_cons, windowMoves]
  omega

/-- Over data MPDUs and expiries of the timer, in any order, a fresh control hands
up the frames in the order of their sequence numbers.  Each event hands up
numbers that the window passes in it, each once, so that a number comes again
only after the window has gone once around.  An MPDU is discarded only if its
number is before `indicate_seq` or that of a pending frame. -/
theorem reorder_hands_up_in_order (hc : c.Fresh) (hw : 1 ≤ c.wsizeB) (hw' : c.wsizeB ≤ 127)
    {es : List ReorderEvent} (hes : ∀ e ∈ es, e.IsData) :
    InSeqOrder (outputs reorderStep c es) ∧
      (∀ pre e post, es = pre ++ e :: post →
        HandsUpPassed (final reorderStep c pre) e ∧
          DiscardedOrKept (final reorderStep c pre) e) ∧
      ∀ pre e mid e' post, es = pre ++ e :: (mid ++ e' :: post) →
        ∀ f ∈ (reorderStep (final reorderStep c pre) e).2,
        ∀ g ∈ (reorderStep (final reorderStep c (pre ++ e :: mid)) e').2,
          f.attrib.seqNum = g.attrib.seqNum →
            4096 < windowMoves (final reorderStep c pre) (e :: mid) +
              windowMove (final reorderStep c (pre ++ e :: mid)) e' := by
  have hw'' : c.wsizeB ≤ 2048 := by omega
  refine ⟨?_, ?_, ?_⟩
  · have ht := Tracks.run hc hw hw'' hes
    generalize outputs reorderStep c es = hist at ht
    cases ht with
    | fresh _ _ => exact .nil
    | started _ hb hn => exact hn.inSeqOrder hb.chain
  · rintro pre e post rfl
    have he : e.IsData := hes e (by simp)
    have ht := Tracks.run hc hw hw'' fun a ha => hes a (List.mem_append_left _ ha)
    constructor
    · obtain ⟨-, hout, -⟩ | ⟨b, b', ds, out, -, -, hstart, hs⟩ := ht.step_cases hw hw'' he
      · simp [HandsUpPassed, hout]
      · exact hs.handsUpPassed hstart
    · refine reorderStep_discardedOrKept _ ht.enable e fun f hf => ?_
      subst hf
      exact he.1
  · rintro pre e mid e' post rfl f hf g hg hfg
    have ht := Tracks.run hc hw hw'' fun a ha => hes a (List.mem_append_left _ ha)
    rw [final_append] at hg ⊢
    exact ht.turn hw hw'' (hes e (by simp)) (hes e' (by simp)) (fun a ha => hes a (by simp [ha]))
      hf hg hfg

/-- A QoS data MPDU with a given sequence number. -/
def qosMpdu (seqNum : ℕ) : RecvFrame where
  attrib := { qos := true, seqNum := seqNum }
  rxData := []

/-- Around the wrap of the numbers, with a repetition, a gap that the timer
closes, and an MPDU that comes too late. -/
theorem reorder_hands_up_in_order_at_wrap :
    (outputs reorderStep ⟨true, 0xFFFF, 64, [], false, true, false⟩
        [.mpdu (qosMpdu 4095), .mpdu (qosMpdu 1), .mpdu (qosMpdu 1), .timeout false,
          .mpdu (qosMpdu 0), .mpdu (qosMpdu 2)]).map (·.attrib.seqNum) = [4095, 1, 2] ∧
      InSeqOrder (outputs reorderStep ⟨true, 0xFFFF, 64, [], false, true, false⟩
        [.mpdu (qosMpdu 4095), .mpdu (qosMpdu 1), .mpdu (qosMpdu 1), .timeout false,
          .mpdu (qosMpdu 0), .mpdu (qosMpdu 2)]) := by
  refine ⟨by decide, (reorder_hands_up_in_order ⟨rfl, rfl, rfl⟩ (by decide) (by decide) ?_).1⟩
  simp [ReorderEvent.IsData, qosMpdu]

end Rtl8723du
