import Rtl8723du.Recv.ReorderTimer

/-!
# The block ack sessions of a TID

`add_ba_rsp_hdl` and the DELBA of an originator change the flags of the reorder control of a
TID; what waits, the window and the timer stay.  While the session is down MPDUs pass the queue,
and the first MPDU after an ADDBA response starts the window over, wherever its number is.

`SessionKept` says what should hold over the changes: what waits is handed up first, no frame
waits without the timer, and a number that was handed up is not handed up again.  It holds of the
runs whose steps are all as `SessionStepOk` says (`session_kept`): then the control refines a
resequencer that starts over only behind all that waits.
-/

namespace Rtl8723du

open Lib Lib.Serial Lib.Machine

/-! ### The events -/

/-- What happens to the reorder control of a TID. -/
inductive SessionEvent
  | mpdu (f : RecvFrame)
  | timeout (cannotRun : Bool)
  /-- An ADDBA request was answered with this status. -/
  | addBaRsp (status : ℕ)
  /-- A DELBA of the originator. -/
  | delba

/-- `OnAction_back` on a DELBA of the originator. -/
def onDelba (c : RecvReorderCtrl) : RecvReorderCtrl := { c with enable := false }

/-- One event, with what becomes of the frames. -/
def sessionStep (c : RecvReorderCtrl) : SessionEvent → RecvReorderCtrl × List ReorderOut
  | .mpdu f => reorderCtrlStep c (.mpdu f)
  | .timeout cannotRun => reorderCtrlStep c (.timeout cannotRun)
  | .addBaRsp status => reorderCtrlStep c (.addBaRsp status)
  | .delba => (onDelba c, [])

/-- The frame, if it is one that goes to `recv_process_mpdu`. -/
@[simp] def ReorderOut.up? : ReorderOut → Option RecvFrame
  | .indicated f => some f
  | .bypassed f => some f
  | _ => none

/-- The frames that a run hands up. -/
def handedUp (c : RecvReorderCtrl) (es : List SessionEvent) : List RecvFrame :=
  (outputs sessionStep c es).filterMap ReorderOut.up?

/-- The session is set up again, refused or torn down. -/
def SessionEvent.IsChange : SessionEvent → Prop
  | .addBaRsp _ => True
  | .delba => True
  | _ => False

/-- An MPDU is a QoS data frame, with a number of 12 bits. -/
def SessionEvent.IsRx : SessionEvent → Prop
  | .mpdu f => f.attrib.qos = true ∧ f.attrib.seqNum < 4096
  | _ => True

/-- At most `w` numbers from each other. -/
def NearSeq (w a b : ℕ) : Prop := ahead 4096 a b ≤ w ∨ ahead 4096 b a ≤ w

/-- What a run keeps over the changes of its session. -/
structure SessionKept (c : RecvReorderCtrl) (es : List SessionEvent) : Prop where
  /-- What waits at a change is handed up first. -/
  waitingFirst : ∀ pre e post, es = pre ++ e :: post → e.IsChange →
    handedUp (final sessionStep c (pre ++ [e])) post <+:
        (final sessionStep c pre).pendingRecvframeQueue ∨
      (final sessionStep c pre).pendingRecvframeQueue <+:
        handedUp (final sessionStep c (pre ++ [e])) post
  /-- No frame waits without the timer. -/
  armed : ∀ pre, pre <+: es → (final sessionStep c pre).pendingRecvframeQueue ≠ [] →
    (final sessionStep c pre).reorderingCtrlTimer = true
  /-- A number that was handed up before a change, by the event `a`, and comes again while the
  peer has kept within the window of it, is not handed up. -/
  notAgain : ∀ pre a before e mid f post, es = pre ++ (a :: before ++ e :: mid) ++ .mpdu f :: post →
    e.IsChange → (∃ g ∈ (sessionStep (final sessionStep c pre) a).2.filterMap ReorderOut.up?,
      g.attrib.seqNum = f.attrib.seqNum) →
    (∀ h, .mpdu h ∈ a :: before ++ e :: mid →
      NearSeq c.wsizeB f.attrib.seqNum h.attrib.seqNum) →
    (sessionStep (final sessionStep c (pre ++ (a :: before ++ e :: mid))) (.mpdu f)).2 = [.freed f]

/-- An MPDU that comes while the session is down or before the window is started over is not
before the window, and behind all that waits; with the session down nothing waits.  The timer does
not expire with the driver stopped while a frame waits. -/
def SessionStepOk (c : RecvReorderCtrl) : SessionEvent → Prop
  | .mpdu f =>
      c.enable = true ∧ c.ackOrTimeout = false ∨
        (c.indicateSeq = 0xFFFF ∨ snLess f.attrib.seqNum c.indicateSeq = false) ∧
          ∀ g ∈ c.pendingRecvframeQueue,
            c.enable = true ∧ snLess g.attrib.seqNum f.attrib.seqNum = true
  | .timeout cannotRun => cannotRun = false ∨ c.pendingRecvframeQueue = []
  | _ => True

instance (c : RecvReorderCtrl) (e : SessionEvent) : Decidable (SessionStepOk c e) := by
  unfold SessionStepOk
  split <;> infer_instance

variable {w d : ℕ} {c : RecvReorderCtrl} {b b' : Resequencer RecvFrame} {ds : List ℕ}
  {f : RecvFrame} {e : SessionEvent} {es : List SessionEvent}

@[simp] lemma handedUp_nil : handedUp c [] = [] := rfl

lemma handedUp_cons : handedUp c (e :: es) =
    (sessionStep c e).2.filterMap ReorderOut.up? ++ handedUp (sessionStep c e).1 es := by
  rw [handedUp, outputs_cons, List.filterMap_append, handedUp]

lemma filterMap_up_map_indicated (fs : List RecvFrame) :
    (fs.map ReorderOut.indicated).filterMap ReorderOut.up? = fs := by
  rw [List.filterMap_map]
  exact List.filterMap_some

/-! ### The control as if its session were up -/

/-- The control with the session up and the window started. -/
def RecvReorderCtrl.opened (c : RecvReorderCtrl) : RecvReorderCtrl :=
  { c with enable := true, ackOrTimeout := false }

lemma opened_eq (henable : c.enable = true) (hack : c.ackOrTimeout = false) : c.opened = c := by
  rw [RecvReorderCtrl.opened, ← henable, ← hack]

/-- The timer does not look at the session. -/
lemma timeout_opened (c : RecvReorderCtrl) (cannotRun : Bool) :
    (rtwReorderingCtrlTimeoutHandler c cannotRun).1.opened =
        (rtwReorderingCtrlTimeoutHandler c.opened cannotRun).1 ∧
      (rtwReorderingCtrlTimeoutHandler c cannotRun).2 =
        (rtwReorderingCtrlTimeoutHandler c.opened cannotRun).2 ∧
      (rtwReorderingCtrlTimeoutHandler c cannotRun).1.enable = c.enable ∧
      (rtwReorderingCtrlTimeoutHandler c cannotRun).1.ackOrTimeout = c.ackOrTimeout := by
  obtain ⟨enable, indicateSeq, wsizeB, pending, waiting, ack, timer⟩ := c
  cases cannotRun with
  | true => exact ⟨rfl, rfl, rfl, rfl⟩
  | false =>
      cases pending with
      | nil => exact ⟨rfl, rfl, rfl, rfl⟩
      | cons g gs =>
          simp only [rtwReorderingCtrlTimeoutHandler, recvIndicatepktsInOrder,
            RecvReorderCtrl.indicate, RecvReorderCtrl.opened, Bool.false_eq_true, if_false, if_true]
          split <;> exact ⟨rfl, rfl, rfl, rfl⟩

/-! ### One event -/

/-- What an event does to a control that refines `b`: it hands up the numbered frames `out`, all
between the old and the new start, and the control refines `b'`. -/
structure SessionMove (w : ℕ) (b : Resequencer RecvFrame) (ds : List ℕ) (e : SessionEvent)
    (r : RecvReorderCtrl × List ReorderOut) (b' : Resequencer RecvFrame)
    (out : List (ℕ × RecvFrame)) : Prop where
  refines : Refines w r.1.opened b'
  handedUp : r.2.filterMap ReorderOut.up? = out.map Prod.snd
  numbered : Numbered out
  inv : b'.Inv w 2048 (ds ++ out.map Prod.fst)
  start_le : b.start ≤ b'.start
  between : ∀ y ∈ out, b.start ≤ y.1 ∧ y.1 < b'.start
  /-- The window gets only as far as the MPDU that comes. -/
  upto : ∀ m, b.Upto m → (∀ f n, e = .mpdu f → f.attrib.seqNum = n % 4096 → b.start ≤ n →
    n < b.start + 2048 → n ≤ m) → b'.Upto m

lemma SessionMove.idle {r : RecvReorderCtrl × List ReorderOut} (hr : Refines w r.1.opened b)
    (hout : r.2.filterMap ReorderOut.up? = []) (hb : b.Inv w 2048 ds) :
    SessionMove w b ds e r b [] where
  refines := hr
  handedUp := hout
  numbered := by simp [Numbered]
  inv := by simpa using hb
  start_le := le_rfl
  between := by simp
  upto := fun _ hm _ => hm

lemma recvIndicatepktReorder_ne_success (hqos : f.attrib.qos = true) (henable : c.enable = true) :
    (recvIndicatepktReorder c f).1 ≠ .success := by
  rw [recvIndicatepktReorder, if_neg (by simp [hqos, henable])]
  generalize (if c.ackOrTimeout = true then
    { c with ackOrTimeout := false, indicateSeq := 0xFFFF } else c) = c'
  dsimp only
  by_cases hchk : (!(checkIndicateSeq c' f.attrib.seqNum).1) = true
  · rw [if_pos hchk]
    exact fun h => by cases h
  · rw [if_neg hchk]
    split
    · exact fun h => by cases h
    · split
      · split <;> exact fun h => by cases h
      · exact fun h => by cases h

/-- While the session is up the queue hands up. -/
lemma posthandle_open (hqos : f.attrib.qos = true) (henable : c.enable = true) :
    (recvFuncPosthandleReorder c f).1 = (recvIndicatepktReorder c f).2.1 ∧
      (recvFuncPosthandleReorder c f).2.filterMap ReorderOut.up? =
        (recvIndicatepktReorder c f).2.2 := by
  have hne := recvIndicatepktReorder_ne_success hqos henable
  rw [recvFuncPosthandleReorder]
  rcases recvIndicatepktReorder_spec c f with ⟨hret, hnil, -⟩ | ⟨hret, -⟩
  · cases hr : (recvIndicatepktReorder c f).1 with
    | fail => exact ⟨rfl, hnil.symm⟩
    | handled => exact absurd hr hret
    | success => exact absurd hr hne
  · rw [hret]
    exact ⟨rfl, filterMap_up_map_indicated _⟩

/-- An MPDU of an open session. -/
lemma move_open (hr : Refines w c b) (hb : b.Inv w 2048 ds) (hw : 1 ≤ w) (hw' : w ≤ 2048)
    (hqos : f.attrib.qos = true) (hseq : f.attrib.seqNum < 4096) :
    ∃ b' out, SessionMove w b ds (.mpdu f) (recvFuncPosthandleReorder c f) b' out := by
  obtain ⟨hstate, hup⟩ := posthandle_open hqos hr.enable
  have hopened {b₁ : Resequencer RecvFrame} (hr' : Refines w (recvIndicatepktReorder c f).2.1 b₁) :
      Refines w (recvFuncPosthandleReorder c f).1.opened b₁ := by
    rw [hstate, opened_eq hr'.enable hr'.ackOrTimeout]
    exact hr'
  rcases hr.mpdu_cases hb.sorted hw hw' hqos hseq with
    ⟨-, hr', hout⟩ | ⟨n, hlo, hhi, hnum, hcases⟩
  · exact ⟨b, [], .idle (hopened hr') (hup.trans hout) hb⟩
  have hshift := Resequencer.shift_bounds w b.start n hw hlo
  have hnear := hcases fun y hy => by
    have := hb.window y hy
    omega
  rcases hnear with ⟨hins, hr', hout⟩ | ⟨b', out, hacc, hr', hout, hn⟩
  · -- a duplicate: the window start is where it was
    rw [hb.shift_eq_of_mem (Resequencer.exists_of_insert_eq_none hins)] at hr'
    exact ⟨b, [], .idle (hopened hr') (hup.trans hout) hb⟩
  · have hgo := hb.accept_window (x := (n, f)) hw hlo hhi hw' hacc
    exact ⟨b', out, hopened hr', hup.trans hout, hn,
      hb.accept (x := (n, f)) hw hw' hlo hhi hacc, hgo.1, hgo.2.2,
      fun m hm hall => hm.accept (x := (n, f)) hw hlo (hall f n rfl hnum hlo hhi) hacc⟩

/-- An expiry of the timer. -/
lemma move_timeout (hr : Refines w c.opened b) (hb : b.Inv w 2048 ds) (hw' : w ≤ 2048)
    (cannotRun : Bool) : ∃ b' out, SessionMove w b ds (.timeout cannotRun)
      (sessionStep c (.timeout cannotRun)) b' out := by
  obtain ⟨hstate, hout, -, -⟩ := timeout_opened c cannotRun
  cases cannotRun with
  | true => exact ⟨b, [], .idle (hstate ▸ hr.timeout_cannotRun.1) rfl hb⟩
  | false =>
      have hexp := hr.timeout_refines hb.sorted fun x hx y hy => by
        have := hb.window x hx
        have := hb.window y hy
        omega
      have hgo := hb.expire_window
      refine ⟨_, _, hstate ▸ hexp.1, ?_, hexp.2.2, hb.expire hw', hgo.1, hgo.2.2,
        fun m hm _ => hm.expire⟩
      show ((rtwReorderingCtrlTimeoutHandler c false).2.map ReorderOut.indicated).filterMap _ = _
      rw [filterMap_up_map_indicated, hout]
      exact hexp.2.1

/-! ### Starting over -/

lemma checkIndicateSeq_restart (h : c.indicateSeq = 0xFFFF) (seqNum : ℕ) :
    checkIndicateSeq c seqNum = (true, { c with indicateSeq := (seqNum + 1) % 4096 }) := by
  have hself : snLess seqNum seqNum = false := by simp [snLess]
  simp [checkIndicateSeq, h, hself, snEqual]

/-- The MPDU that the window starts over with, behind all that waits. -/
lemma reorder_restart {n : ℕ} (hqos : f.attrib.qos = true) (henable : c.enable = true)
    (hstart : c.ackOrTimeout = true ∨ c.indicateSeq = 0xFFFF)
    (hpend : c.pendingRecvframeQueue = b.pending.map Prod.snd) (hn : Numbered b.pending)
    (hs : Resequencer.Sorted b.pending) (hnum : f.attrib.seqNum = n % 4096)
    (hnear : ∀ y ∈ b.pending, y.1 < n ∧ n + 1 < y.1 + 2048) :
    (recvIndicatepktReorder c f).2.1 =
        { c with
          ackOrTimeout := false
          indicateSeq := (n + 1) % 4096
          pendingRecvframeQueue := []
          bReorderWaiting := false
          reorderingCtrlTimer := false } ∧
      (recvIndicatepktReorder c f).2.2 = (b.restart (n, f)).2.map Prod.snd := by
  have hall : ∀ y ∈ b.pending ++ [(n, f)], y.1 < n + 1 ∧ n + 1 < y.1 + 2048 := by
    intro y hy
    rcases List.mem_append.1 hy with hy | hy
    · exact ⟨(hnear y hy).1.trans (Nat.lt_succ_self _), (hnear y hy).2⟩
    · rw [List.mem_singleton.1 hy]
      exact ⟨Nat.lt_succ_self _, Nat.add_lt_add_left (by decide) n⟩
  have hnxs : Numbered (b.pending ++ [(n, f)]) :=
    hn.append fun y hy => by rw [List.mem_singleton.1 hy]; exact hnum
  have hins := Resequencer.insert_of_forall_lt (x := (n, f)) fun y hy => (hnear y hy).1
  -- the control after the bit has been tested and cleared
  have hclear : (if c.ackOrTimeout = true then
      { c with ackOrTimeout := false, indicateSeq := 0xFFFF } else c) =
      { c with ackOrTimeout := false, indicateSeq := 0xFFFF } := by
    split
    · rfl
    · rename_i hack
      rw [← hstart.resolve_left hack, ← Bool.eq_false_iff.2 hack]
  have henq : enqueueReorderRecvframe f c.pendingRecvframeQueue =
      some ((b.pending ++ [(n, f)]).map Prod.snd) := by
    rw [hpend, enqueue_refines (x := (n, f)) hnum hn fun y hy => by
      have := hnear y hy
      omega, hins, Option.map_some]
  have hind := indicate_refines (s := n + 1) (b.pending ++ [(n, f)])
    (c := { c with
      ackOrTimeout := false
      indicateSeq := (n + 1) % 4096
      pendingRecvframeQueue := (b.pending ++ [(n, f)]).map Prod.snd })
    rfl rfl hnxs (hs.insert hins) fun y hy => by
      have := hall y hy
      omega
  rw [Resequencer.release_of_forall_lt fun y hy => (hall y hy).1] at hind
  have hseq : (f.attrib.seqNum + 1) % 4096 = (n + 1) % 4096 := by omega
  rw [recvIndicatepktReorder, if_neg (by simp [hqos, henable])]
  simp only [hclear, checkIndicateSeq_restart, henq, hseq, recvIndicatepktsInOrder,
    Bool.false_eq_true, if_false, Bool.not_true]
  rw [hind]
  exact ⟨rfl, rfl⟩

/-- An MPDU behind all that waits, while the session is down and nothing waits or while the window
is to be started over. -/
lemma posthandle_restart {n : ℕ} (hqos : f.attrib.qos = true) (hw : c.wsizeB = w)
    (hpend : c.pendingRecvframeQueue = b.pending.map Prod.snd) (hn : Numbered b.pending)
    (hs : Resequencer.Sorted b.pending) (hnum : f.attrib.seqNum = n % 4096)
    (hnear : ∀ y ∈ b.pending, y.1 < n ∧ n + 1 < y.1 + 2048)
    (hclosed : c.enable = false ∧ b.pending = [] ∨
      c.enable = true ∧ (c.ackOrTimeout = true ∨ c.indicateSeq = 0xFFFF)) :
    Refines w (recvFuncPosthandleReorder c f).1.opened (b.restart (n, f)).1 ∧
      (recvFuncPosthandleReorder c f).2.filterMap ReorderOut.up? =
        (b.restart (n, f)).2.map Prod.snd ∧
      Numbered (b.restart (n, f)).2 := by
  have hnumbered : Numbered (b.restart (n, f)).2 :=
    hn.append fun y hy => by rw [List.mem_singleton.1 hy]; exact hnum
  rcases hclosed with ⟨hdown, hnil⟩ | ⟨henable, hstart⟩
  · -- the MPDU passes the queue, which is empty
    have hpass : recvIndicatepktReorder c f = (.success, c, []) := by
      rw [recvIndicatepktReorder, if_pos (by simp [hdown])]
    rw [recvFuncPosthandleReorder, hpass]
    refine ⟨⟨rfl, rfl, hw, ?_, ?_, by simp [Numbered, Resequencer.restart]⟩, ?_, hnumbered⟩
    · show (f.attrib.seqNum + 1) % 4096 = (n + 1) % 4096
      omega
    · show c.pendingRecvframeQueue = _
      rw [hpend, hnil]
      rfl
    · rw [Resequencer.restart, hnil]
      rfl
  · obtain ⟨hstate, hup⟩ := posthandle_open hqos henable
    obtain ⟨hctrl, hout⟩ := reorder_restart hqos henable hstart hpend hn hs hnum hnear
    refine ⟨?_, hup.trans hout, hnumbered⟩
    rw [hstate, hctrl]
    exact ⟨rfl, rfl, hw, rfl, rfl, by simp [Numbered, Resequencer.restart]⟩

/-! ### Steps that are as they should be -/

/-- The session is down or its window is to be started over. -/
def RecvReorderCtrl.Closed (c : RecvReorderCtrl) : Prop :=
  c.enable = false ∨ c.ackOrTimeout = true

/-- Nothing was received yet. -/
structure RecvReorderCtrl.Unstarted (c : RecvReorderCtrl) : Prop where
  indicateSeq : c.indicateSeq = 0xFFFF
  pending : c.pendingRecvframeQueue = []

lemma not_closed_iff : ¬ c.Closed ↔ c.enable = true ∧ c.ackOrTimeout = false := by
  rw [RecvReorderCtrl.Closed, not_or, Bool.not_eq_false, Bool.not_eq_true]

/-- The first MPDU is as one at whose number the window starts. -/
lemma RecvReorderCtrl.Unstarted.move (hc : c.Unstarted) (hw : 1 ≤ c.wsizeB)
    (hw' : c.wsizeB ≤ 2048) (hqos : f.attrib.qos = true) (hseq : f.attrib.seqNum < 4096) :
    ∃ b b' out, b.Inv c.wsizeB 2048 [] ∧
      SessionMove c.wsizeB b [] (.mpdu f) (recvFuncPosthandleReorder c f) b' out := by
  have hb : (⟨f.attrib.seqNum, []⟩ : Resequencer RecvFrame).Inv c.wsizeB 2048 [] :=
    ⟨.nil, by simp, .nil, by simp, by simp, by simp⟩
  have hnum : f.attrib.seqNum = f.attrib.seqNum % 4096 := (Nat.mod_eq_of_lt hseq).symm
  obtain ⟨hr, hup, hn⟩ := posthandle_restart (b := ⟨f.attrib.seqNum, []⟩) hqos rfl hc.pending
    (by simp [Numbered]) .nil hnum (by simp) (by
      cases henable : c.enable with
      | false => exact .inl ⟨rfl, rfl⟩
      | true => exact .inr ⟨rfl, .inr hc.indicateSeq⟩)
  refine ⟨_, _, _, hb, hr, hup, hn, hb.restart hw hw' le_rfl ?_ (by simp), ?_, ?_, ?_⟩
  · exact Nat.lt_add_of_pos_right (by decide)
  · exact Nat.le_succ _
  · intro y hy
    obtain rfl : y = (f.attrib.seqNum, f) := by simpa [Resequencer.restart] using hy
    exact ⟨le_rfl, Nat.lt_succ_self _⟩
  · intro m _ hall
    exact Resequencer.upto_restart (hall f _ rfl hnum le_rfl (Nat.lt_add_of_pos_right (by decide)))

/-- An MPDU that closes up behind all that waits. -/
lemma move_closed (hr : Refines w c.opened b) (hb : b.Inv w 2048 ds) (hw : 1 ≤ w)
    (hw' : w ≤ 2048) (hqos : f.attrib.qos = true) (hseq : f.attrib.seqNum < 4096)
    (hclosed : c.Closed) (hok : SessionStepOk c (.mpdu f)) :
    ∃ n, SessionMove w b ds (.mpdu f) (recvFuncPosthandleReorder c f) (b.restart (n, f)).1
      (b.restart (n, f)).2 := by
  obtain ⟨hforward, hwait⟩ := hok.resolve_left fun h => not_closed_iff.2 h hclosed
  have hind : c.indicateSeq = b.start % 4096 := hr.indicateSeq
  have hpend : c.pendingRecvframeQueue = b.pending.map Prod.snd := hr.pending
  have hless := hforward.resolve_left (by omega)
  have hdist : ahead 4096 b.start f.attrib.seqNum < 2048 := by
    by_contra hle
    have htrue := (snLess_iff_ahead f.attrib.seqNum c.indicateSeq).2
      (by rw [hind, ahead_mod_left]; omega)
    rw [hless] at htrue
    cases htrue
  have hnum := add_ahead_mod (m := 4096) (by decide) b.start f.attrib.seqNum
  rw [Nat.mod_eq_of_lt hseq] at hnum
  have hlo : b.start ≤ b.start + ahead 4096 b.start f.attrib.seqNum := Nat.le_add_right _ _
  have hhi : b.start + ahead 4096 b.start f.attrib.seqNum < b.start + 2048 := by omega
  generalize b.start + ahead 4096 b.start f.attrib.seqNum = n at hnum hlo hhi
  have hbehind : ∀ y ∈ b.pending, y.1 < n := by
    intro y hy
    have hwin := hb.window y hy
    have hmem : y.2 ∈ c.pendingRecvframeQueue := hpend ▸ List.mem_map_of_mem hy
    have hlt := (hwait y.2 hmem).2
    rw [hr.numbered y hy, ← hnum] at hlt
    exact (snLess_mod_iff (by omega) (by omega)).1 hlt
  obtain ⟨hr', hup, hn⟩ := posthandle_restart (c := c) (n := n) hqos hr.wsizeB hpend hr.numbered
    hb.sorted hnum.symm (fun y hy => by
      have := hb.window y hy
      have := hbehind y hy
      omega) (by
      by_cases henable : c.enable = true
      · exact .inr ⟨henable, .inl (hclosed.resolve_left (by rw [henable]; simp))⟩
      · refine .inl ⟨Bool.eq_false_iff.2 henable, ?_⟩
        by_contra hne
        obtain ⟨y, ys, hp⟩ := List.exists_cons_of_ne_nil hne
        exact henable (hwait y.2 (by rw [hpend, hp]; exact List.mem_cons_self)).1)
  refine ⟨n, hr', hup, hn, hb.restart hw hw' hlo hhi hbehind, ?_, ?_, ?_⟩
  · exact hlo.trans (Nat.le_succ _)
  · intro y hy
    rcases List.mem_append.1 hy with hy | hy
    · exact ⟨(hb.window y hy).1.le, (hbehind y hy).trans (Nat.lt_succ_self _)⟩
    · rw [List.mem_singleton.1 hy]
      exact ⟨hlo, Nat.lt_succ_self _⟩
  · intro m _ hall
    exact Resequencer.upto_restart (hall f n rfl hnum.symm hlo hhi)

/-- An event of a control whose window has started. -/
lemma move_started (hr : Refines w c.opened b) (hb : b.Inv w 2048 ds) (hw : 1 ≤ w)
    (hw' : w ≤ 2048) (hrx : e.IsRx) (hok : SessionStepOk c e) :
    ∃ b' out, SessionMove w b ds e (sessionStep c e) b' out := by
  cases e with
  | mpdu f =>
      by_cases hclosed : c.Closed
      · obtain ⟨n, hmove⟩ := move_closed hr hb hw hw' hrx.1 hrx.2 hclosed hok
        exact ⟨_, _, hmove⟩
      · obtain ⟨henable, hack⟩ := not_closed_iff.1 hclosed
        rw [opened_eq henable hack] at hr
        exact move_open hr hb hw hw' hrx.1 hrx.2
  | timeout cannotRun => exact move_timeout hr hb hw' cannotRun
  | addBaRsp status => exact ⟨b, [], .idle hr rfl hb⟩
  | delba => exact ⟨b, [], .idle hr rfl hb⟩

/-- What is known of a control after a run: nothing was received, or it refines a resequencer. -/
inductive SessionTracks (w : ℕ) (c : RecvReorderCtrl) : Prop
  | unstarted (hc : c.Unstarted) (hw : c.wsizeB = w)
  | started {b : Resequencer RecvFrame} {ds : List ℕ} (hr : Refines w c.opened b)
      (hb : b.Inv w 2048 ds)

/-- An event before the first MPDU changes nothing of that, any other steps a resequencer. -/
lemma SessionTracks.step_cases (ht : SessionTracks w c) (hw : 1 ≤ w) (hw' : w ≤ 2048)
    (hrx : e.IsRx) (hok : SessionStepOk c e) :
    ((sessionStep c e).2.filterMap ReorderOut.up? = [] ∧ (sessionStep c e).1.Unstarted ∧
        (sessionStep c e).1.wsizeB = w) ∨
      ∃ b b' ds out, b.Inv w 2048 ds ∧ SessionMove w b ds e (sessionStep c e) b' out := by
  cases ht with
  | started hr hb =>
      obtain ⟨b', out, hmove⟩ := move_started hr hb hw hw' hrx hok
      exact .inr ⟨_, b', _, out, hb, hmove⟩
  | unstarted hc hwc =>
      subst hwc
      cases e with
      | mpdu f =>
          obtain ⟨b, b', out, hb, hmove⟩ := hc.move hw hw' hrx.1 hrx.2
          exact .inr ⟨b, b', [], out, hb, hmove⟩
      | timeout cannotRun =>
          obtain ⟨hind, hpend⟩ := hc
          obtain ⟨enable, indicateSeq, wsizeB, pending, waiting, ack, timer⟩ := c
          obtain rfl : pending = [] := hpend
          cases cannotRun <;> exact .inl ⟨rfl, ⟨hind, rfl⟩, rfl⟩
      | addBaRsp status => exact .inl ⟨rfl, ⟨hc.indicateSeq, hc.pending⟩, rfl⟩
      | delba => exact .inl ⟨rfl, ⟨hc.indicateSeq, hc.pending⟩, rfl⟩

lemma SessionTracks.step (ht : SessionTracks w c) (hw : 1 ≤ w) (hw' : w ≤ 2048)
    (hrx : e.IsRx) (hok : SessionStepOk c e) : SessionTracks w (sessionStep c e).1 := by
  rcases ht.step_cases hw hw' hrx hok with ⟨-, hc, hwc⟩ | ⟨b, b', ds, out, -, hmove⟩
  · exact .unstarted hc hwc
  · exact .started hmove.refines hmove.inv

/-! ### What waits is handed up first -/

/-- At an MPDU all that waits is handed up, before it. -/
lemma SessionTracks.up_closed (ht : SessionTracks w c) (hw : 1 ≤ w) (hw' : w ≤ 2048)
    (hclosed : c.Closed) (hrx : (SessionEvent.mpdu f).IsRx) (hok : SessionStepOk c (.mpdu f)) :
    ∃ g, (sessionStep c (.mpdu f)).2.filterMap ReorderOut.up? = c.pendingRecvframeQueue ++ g := by
  cases ht with
  | unstarted hc hwc =>
      rw [hc.pending]
      exact ⟨_, (List.nil_append _).symm⟩
  | started hr hb =>
      obtain ⟨n, hmove⟩ := move_closed hr hb hw hw' hrx.1 hrx.2 hclosed hok
      refine ⟨[f], hmove.handedUp.trans ?_⟩
      rw [show c.pendingRecvframeQueue = _ from hr.pending, Resequencer.restart, List.map_append]
      rfl

/-- From a change on what waits then is handed up before all others. -/
lemma SessionTracks.waitingFirst (ht : SessionTracks w c) (hw : 1 ≤ w) (hw' : w ≤ 2048)
    (hclosed : c.Closed)
    (hes : Along sessionStep (fun c e => e.IsRx ∧ SessionStepOk c e) c es) :
    handedUp c es <+: c.pendingRecvframeQueue ∨ c.pendingRecvframeQueue <+: handedUp c es := by
  induction es generalizing c with
  | nil => exact .inl List.nil_prefix
  | cons e es ih =>
      have hnext := ht.step hw hw' hes.1.1 hes.1.2
      rw [handedUp_cons]
      cases e with
      | mpdu f =>
          obtain ⟨g, hup⟩ := ht.up_closed hw hw' hclosed hes.1.1 hes.1.2
          rw [hup, List.append_assoc]
          exact .inr (List.prefix_append _ _)
      | timeout cannotRun =>
          obtain ⟨-, -, henable, hack⟩ := timeout_opened c cannotRun
          have hqueue := (rtwReorderingCtrlTimeoutHandler_queue c cannotRun).1
          have hrest := ih hnext (hclosed.imp henable.trans hack.trans) hes.2
          show ((rtwReorderingCtrlTimeoutHandler c cannotRun).2.map _).filterMap _ ++ _ <+: _ ∨
            _ <+: ((rtwReorderingCtrlTimeoutHandler c cannotRun).2.map _).filterMap _ ++ _
          rw [filterMap_up_map_indicated, ← hqueue]
          exact hrest.imp (List.prefix_append_right_inj _).2 (List.prefix_append_right_inj _).2
      | addBaRsp status => exact ih hnext (.inr rfl) hes.2
      | delba => exact ih hnext (.inl rfl) hes.2

/-! ### The timer -/

/-- The timer is armed while a frame waits, and `bReorderWaiting` is set only then. -/
structure RecvReorderCtrl.ArmedWaiting (c : RecvReorderCtrl) : Prop where
  armed : c.Armed
  waiting : c.bReorderWaiting = true → c.pendingRecvframeQueue ≠ []

lemma recvIndicatepktReorder_waiting (hret : (recvIndicatepktReorder c f).1 = .handled)
    (hwait : (recvIndicatepktReorder c f).2.1.bReorderWaiting = true) :
    (recvIndicatepktReorder c f).2.1.pendingRecvframeQueue ≠ [] := by
  revert hret hwait
  rw [recvIndicatepktReorder]
  by_cases hpass : (!f.attrib.qos || !c.enable) = true
  · rw [if_pos hpass]
    exact fun h => by cases h
  rw [if_neg hpass]
  generalize (if c.ackOrTimeout = true then
    { c with ackOrTimeout := false, indicateSeq := 0xFFFF } else c) = c'
  dsimp only
  by_cases hchk : (!(checkIndicateSeq c' f.attrib.seqNum).1) = true
  · rw [if_pos hchk]
    exact fun h => by cases h
  rw [if_neg hchk]
  split
  · exact fun h => by cases h
  · rename_i q hq
    have hflag : (recvIndicatepktsInOrder
        { (checkIndicateSeq c' f.attrib.seqNum).2 with
          pendingRecvframeQueue := q } false).1 = true →
        (recvIndicatepktsInOrder { (checkIndicateSeq c' f.attrib.seqNum).2 with
          pendingRecvframeQueue := q } false).2.1.pendingRecvframeQueue ≠ [] := by
      intro h hnil
      simp only [recvIndicatepktsInOrder, RecvReorderCtrl.indicate, Bool.false_eq_true,
        if_false] at h hnil
      rw [hnil] at h
      cases h
    split
    · rename_i hmore
      split <;> exact fun _ _ => hflag hmore
    · exact fun _ h => by cases h

lemma RecvReorderCtrl.ArmedWaiting.step (h : c.ArmedWaiting) (hok : SessionStepOk c e) :
    (sessionStep c e).1.ArmedWaiting := by
  cases e with
  | mpdu f =>
      refine ⟨h.armed.step (e := .mpdu f) (by simp), ?_⟩
      show (recvFuncPosthandleReorder c f).1.bReorderWaiting = true →
        (recvFuncPosthandleReorder c f).1.pendingRecvframeQueue ≠ []
      rw [recvFuncPosthandleReorder]
      rcases recvIndicatepktReorder_spec c f with ⟨hret, -, hsame⟩ | ⟨hret, -⟩
      · have hkept : (recvIndicatepktReorder c f).2.1.bReorderWaiting = true →
            (recvIndicatepktReorder c f).2.1.pendingRecvframeQueue ≠ [] := by
          rw [hsame.waiting, hsame.pending]
          exact h.waiting
        split
        · exact hkept
        · exact absurd ‹_› hret
        · exact hkept
      · rw [hret]
        exact recvIndicatepktReorder_waiting hret
  | timeout cannotRun =>
      cases cannotRun with
      | true =>
          have hnil : c.pendingRecvframeQueue = [] := hok.resolve_left (by simp)
          have hidle : c.bReorderWaiting ≠ true := fun hwait => h.waiting hwait hnil
          exact ⟨⟨fun hwait => absurd hwait hidle, fun hne => absurd hnil hne⟩,
            fun hwait => absurd hwait hidle⟩
      | false =>
          refine ⟨h.armed.step (e := .timeout false) (by simp), fun hwait => ?_⟩
          obtain ⟨hkept, -, -⟩ := recvIndicatepktsInOrder_spec
            { c with reorderingCtrlTimer := false, bReorderWaiting := false } true
          have hidle : (rtwReorderingCtrlTimeoutHandler c false).1.bReorderWaiting = false := by
            rw [rtwReorderingCtrlTimeoutHandler, if_neg Bool.false_ne_true]
            dsimp only
            split <;> exact hkept
          exact absurd (hidle.symm.trans hwait) Bool.false_ne_true
  | addBaRsp status => exact ⟨h.armed.congr ⟨rfl, rfl, rfl⟩, h.waiting⟩
  | delba => exact ⟨h.armed.congr ⟨rfl, rfl, rfl⟩, h.waiting⟩

/-! ### Numbers that come again -/

/-- A number near `d` that is not a turn ahead of it. -/
lemma le_of_nearSeq {n : ℕ} (hnear : NearSeq w (d % 4096) (n % 4096)) (hn : n + w < d + 4096) :
    n ≤ d + w := by
  rw [NearSeq, ahead_mod_left, ahead_mod_right, ahead_mod_left, ahead_mod_right] at hnear
  by_contra hlt
  rcases hnear with h | h
  · rw [ahead_of_le (by omega) (by omega)] at h
    omega
  · rw [ahead_of_lt (by omega) (by omega)] at h
    omega

/-- The window has moved past the number `d`, and no farther than `w` behind it. -/
def Passed (w d : ℕ) (c : RecvReorderCtrl) : Prop :=
  ∃ b ds, Refines w c.opened b ∧ b.Inv w 2048 ds ∧ d < b.start ∧ b.Upto (d + w)

lemma Passed.step (h : Passed w d c) (hw : 1 ≤ w) (hw' : w ≤ 127) (hrx : e.IsRx)
    (hok : SessionStepOk c e)
    (hnear : ∀ f, e = .mpdu f → NearSeq w (d % 4096) f.attrib.seqNum) :
    Passed w d (sessionStep c e).1 := by
  obtain ⟨b, ds, hr, hb, hlt, hupto⟩ := h
  obtain ⟨b', out, hmove⟩ := move_started hr hb hw (by omega) hrx hok
  refine ⟨b', _, hmove.refines, hmove.inv, hlt.trans_le hmove.start_le, hmove.upto _ hupto ?_⟩
  intro f n he hnum _ hhi
  have hstart := hupto.start_le
  exact le_of_nearSeq (hnum ▸ hnear f he) (by omega)

/-- The window has moved past a number that is handed up. -/
lemma SessionTracks.passed (ht : SessionTracks w c) (hw : 1 ≤ w) (hw' : w ≤ 127)
    (hrx : e.IsRx) (hok : SessionStepOk c e) {g : RecvFrame}
    (hg : g ∈ (sessionStep c e).2.filterMap ReorderOut.up?)
    (hnear : ∀ f, e = .mpdu f → NearSeq w g.attrib.seqNum f.attrib.seqNum) :
    ∃ d, g.attrib.seqNum = d % 4096 ∧ Passed w d (sessionStep c e).1 := by
  rcases ht.step_cases hw (by omega) hrx hok with ⟨hnone, -⟩ | ⟨b, b', ds, out, hb, hmove⟩
  · rw [hnone] at hg
    cases hg
  · rw [hmove.handedUp] at hg
    obtain ⟨y, hy, rfl⟩ := List.mem_map.1 hg
    have hnum := hmove.numbered y hy
    have hbetween := hmove.between y hy
    refine ⟨y.1, hnum, b', _, hmove.refines, hmove.inv, hbetween.2, hmove.upto _ ⟨?_, ?_⟩ ?_⟩
    · omega
    · intro x hx
      have := hb.window x hx
      omega
    · intro f n he hnum' _ hhi
      exact le_of_nearSeq (hnum' ▸ hnum ▸ hnear f he) (by omega)

lemma Passed.final (h : Passed w d c) (hw : 1 ≤ w) (hw' : w ≤ 127)
    (hes : Along sessionStep (fun c e => e.IsRx ∧ SessionStepOk c e) c es)
    (hnear : ∀ f, .mpdu f ∈ es → NearSeq w (d % 4096) f.attrib.seqNum) :
    Passed w d (final sessionStep c es) := by
  induction es generalizing c with
  | nil => exact h
  | cons e es ih =>
      refine ih (h.step hw hw' hes.1.1 hes.1.2 ?_) hes.2 fun f hf =>
        hnear f (List.mem_cons_of_mem _ hf)
      rintro f rfl
      exact hnear f List.mem_cons_self

/-- A number that the window has passed is not handed up. -/
lemma Passed.freed (h : Passed w d c) (hw : 1 ≤ w) (hw' : w ≤ 127)
    (hrx : (SessionEvent.mpdu f).IsRx) (hok : SessionStepOk c (.mpdu f))
    (hnum : f.attrib.seqNum = d % 4096) : (sessionStep c (.mpdu f)).2 = [.freed f] := by
  obtain ⟨b, ds, hr, -, hlt, hupto⟩ := h
  have hstart := hupto.start_le
  have hind : c.indicateSeq = b.start % 4096 := hr.indicateSeq
  have hsize : c.wsizeB = w := hr.wsizeB
  have hold : snLess f.attrib.seqNum c.indicateSeq = true := by
    rw [hnum, hind, snLess_mod_iff (by omega) (by omega)]
    exact hlt
  rcases hok with ⟨henable, hack⟩ | ⟨hforward, -⟩
  · have hbehind := (snLess_iff_ahead _ _).1 hold
    rw [hind, ahead_mod_left] at hbehind
    have hchk : checkIndicateSeq c f.attrib.seqNum = (false, c) := by
      rw [checkIndicateSeq_refines hind (by omega) (by omega) hrx.2, if_pos hbehind]
    have hfail : recvIndicatepktReorder c f = (.fail, c, []) := by
      rw [recvIndicatepktReorder, if_neg (by simp [hrx.1, henable])]
      simp only [hack, hchk, Bool.false_eq_true, if_false, Bool.not_false, if_true]
    show (recvFuncPosthandleReorder c f).2 = _
    rw [recvFuncPosthandleReorder, hfail]
  · rw [hforward.resolve_left (by omega)] at hold
    cases hold

/-! ### Runs -/

lemma unstarted_alloc : RecvReorderCtrl.alloc.Unstarted := ⟨rfl, rfl⟩

lemma tracks_final (hes : Along sessionStep (fun c e => e.IsRx ∧ SessionStepOk c e) .alloc es) :
    SessionTracks 64 (final sessionStep .alloc es) :=
  final_induction (I := SessionTracks 64)
    (fun _ _ he ht => ht.step (by decide) (by decide) he.1 he.2) (.unstarted unstarted_alloc rfl)
    hes

/-- **Sessions.**  In every run of a control whose MPDUs, while the session is down or before the
window is started over, are not before the window and come behind all that waits, and in which the
timer does not expire with the driver stopped while a frame waits: what waits at a change of the
session is handed up first, no frame waits without the timer, and no number that was handed up
before a change is handed up when it comes again. -/
theorem session_kept (hrx : ∀ e ∈ es, e.IsRx) (hok : Along sessionStep SessionStepOk .alloc es) :
    SessionKept .alloc es := by
  have hes := Along.and_forall hrx hok
  constructor
  · rintro pre e post rfl he
    have htracks := tracks_final hes.left
    have hnext := htracks.step (by decide) (by decide) hes.right.1.1 hes.right.1.2
    rw [final_concat]
    cases e with
    | addBaRsp status =>
        exact hnext.waitingFirst (by decide) (by decide) (.inr rfl) hes.right.2
    | delba => exact hnext.waitingFirst (by decide) (by decide) (.inl rfl) hes.right.2
    | mpdu f => exact he.elim
    | timeout cannotRun => exact he.elim
  · rintro pre ⟨post, rfl⟩
    have harmed : (final sessionStep .alloc pre).ArmedWaiting :=
      final_induction (P := SessionStepOk) (fun _ _ he h => h.step he)
        ⟨⟨fun h => absurd h (by decide), fun h => absurd rfl h⟩, fun h => absurd h (by decide)⟩
        hok.left
    exact harmed.armed.pending
  · rintro pre a before e mid f post rfl - ⟨g, hg, hgf⟩ hnear
    have hpre := tracks_final hes.left.left
    have hseg := hes.left.right
    have hf := hes.right.1
    obtain ⟨d, hd, hpassed⟩ := hpre.passed (by decide) (by decide) hseg.1.1 hseg.1.2 hg (by
      rintro h rfl
      rw [hgf]
      exact hnear h List.mem_cons_self)
    have hend := hpassed.final (by decide) (by decide) hseg.2 fun h hh => by
      rw [← hd, hgf]
      exact hnear h (List.mem_cons_of_mem _ hh)
    rw [final_append]
    rw [final_append] at hf
    exact hend.freed (by decide) (by decide) hf.1 hf.2 (hgf ▸ hd)

/-- A session that is set up again while nothing waits; a number comes again. -/
theorem session_kept_of_again : SessionKept .alloc
    [.addBaRsp 0, .mpdu (qosMpdu 10), .mpdu (qosMpdu 11), .addBaRsp 0, .mpdu (qosMpdu 12),
      .mpdu (qosMpdu 10)] :=
  session_kept (by simp [SessionEvent.IsRx, qosMpdu]) (by decide)

/-- A frame waits when the session is torn down, and the next one passes it; the window is started
over with a number that was handed up, and it is handed up again. -/
theorem session_not_kept :
    ¬ SessionKept .alloc [.addBaRsp 0, .mpdu (qosMpdu 10), .mpdu (qosMpdu 12), .delba,
        .mpdu (qosMpdu 13)] ∧
      ¬ SessionKept .alloc [.addBaRsp 0, .mpdu (qosMpdu 10), .mpdu (qosMpdu 11), .addBaRsp 0,
        .mpdu (qosMpdu 10)] := by
  constructor
  · intro h
    have hfirst := h.waitingFirst [.addBaRsp 0, .mpdu (qosMpdu 10), .mpdu (qosMpdu 12)] .delba
      [.mpdu (qosMpdu 13)] rfl trivial
    revert hfirst
    decide
  · intro h
    have hagain := h.notAgain [.addBaRsp 0] (.mpdu (qosMpdu 10)) [.mpdu (qosMpdu 11)] (.addBaRsp 0)
      [] (qosMpdu 10) [] rfl trivial (by decide)
      (by simp [NearSeq, qosMpdu, ahead, RecvReorderCtrl.alloc])
    revert hagain
    decide

end Rtl8723du
