import Rtl8723du.Bt.SendFrame

/-!
# Frames that are deferred

`btusb_resume` plays the deferred frames under `txlock`, but `btusb_send_frame` defers a frame
without it.  One that comes behind the loop of `play_deferred` is dropped with all that is deferred
then.  A frame stays deferred with no resume to play or drop it exactly if its caller comes later
still (`deferred_settled_iff`); otherwise the frames leave in the order in which they came
(`btusb_in_order`).
-/

namespace Rtl8723du.Bt

open Lib Lib.Machine

variable {s : BtusbTx} {f : BtFrame} {fs fs' : List BtFrame} {h : List BtOp}

/-! ### Frames that stay deferred -/

/-- What is deferred now will be played or dropped by a resume. -/
structure Awaited (s : BtusbTx) : Prop where
  suspending : s.suspending = true
  clear : s.pm ≠ .clear
  unlock : s.pm ≠ .unlock

lemma awaited_iff : Awaited s ↔ s.suspending = true ∧ s.pm ≠ .clear ∧ s.pm ≠ .unlock :=
  ⟨fun h => ⟨h.suspending, h.clear, h.unlock⟩, fun h => ⟨h.1, h.2.1, h.2.2⟩⟩

/-- Nothing is deferred that no resume will play or drop. -/
def WillPlay (s : BtusbTx) : Prop := s.deferred ≠ [] → Awaited s

/-- Each frame that was taken is with the driver or done with, once, and none is deferred for
nothing. -/
structure BtSettled (s : BtusbTx) (h : List BtOp) : Prop where
  account : (h.filterMap BtOp.taken?).Perm (h.filterMap BtOp.gone? ++ s.held)
  willPlay : WillPlay s

/-- A caller of `btusb_send_frame` that has found the device suspended defers its frame before a
resume drops what is deferred. -/
def SendInTime (s : BtusbTx) : BtEvent → Prop
  | .sendTail i _ => ∀ f, s.sending[i]? = some (f, true) → Awaited s
  | _ => True

lemma willPlay_btStep_iff (hs : WillPlay s) (e : BtEvent) :
    WillPlay (btStep s e).1 ↔ SendInTime s e := by
  have hkeep {s' : BtusbTx} (hdef : s'.deferred = s.deferred) (hsusp : s'.suspending = s.suspending)
      (hpm : s'.pm = s.pm) : WillPlay s' := by
    intro hne
    obtain ⟨hflag, hclear, hunlock⟩ := hs (hdef ▸ hne)
    exact ⟨hsusp.trans hflag, hpm ▸ hclear, hpm ▸ hunlock⟩
  have hnone {s' : BtusbTx} (hdef : s'.deferred = []) : WillPlay s' := fun hne => absurd hdef hne
  cases e with
  | send ready f =>
      refine iff_of_true ?_ trivial
      rw [btStep, BtusbTx.send]
      split_ifs <;> exact hkeep rfl rfl rfl
  | sendTail i ok =>
      rw [btStep, BtusbTx.sendTail, SendInTime]
      split
      · rename_i hget
        exact iff_of_true hs fun f hf => by simp [hget] at hf
      · rename_i f hget
        constructor
        · intro h g hg
          have hawaited := h (by simp)
          exact ⟨hawaited.suspending, hawaited.clear, hawaited.unlock⟩
        · intro h _
          exact ⟨(h f hget).suspending, (h f hget).clear, (h f hget).unlock⟩
      · rename_i f hget
        refine iff_of_true ?_ fun g hg => by simp [hget] at hg
        split_ifs <;> exact hkeep rfl rfl rfl
  | complete i =>
      refine iff_of_true ?_ trivial
      rw [btStep, BtusbTx.txComplete]
      split
      · exact hs
      · split_ifs
        · exact hs
        · exact hkeep rfl rfl rfl
  | flush =>
      refine iff_of_true ?_ trivial
      rw [btStep]
      split_ifs
      · exact hs
      · exact hkeep rfl rfl rfl
  | close => exact iff_of_true (hnone rfl) trivial
  | suspend auto =>
      refine iff_of_true ?_ trivial
      rw [btStep, BtusbTx.suspend]
      split_ifs
      · exact hs
      · exact hkeep rfl rfl rfl
      · exact hs
      · exact fun _ => ⟨rfl, show PmPc.kill ≠ .clear by decide,
          show PmPc.kill ≠ .unlock by decide⟩
  | resume rxOk =>
      refine iff_of_true ?_ trivial
      rw [btStep, BtusbTx.resume]
      split_ifs
      · exact hs
      · exact hkeep rfl rfl rfl
      · exact fun hne => ⟨(hs hne).suspending, show PmPc.play ≠ .clear by decide,
          show PmPc.play ≠ .unlock by decide⟩
      · exact fun hne => ⟨(hs hne).suspending, show PmPc.scuttle ≠ .clear by decide,
          show PmPc.scuttle ≠ .unlock by decide⟩
  | pmTurn ok =>
      refine iff_of_true ?_ trivial
      rw [btStep, BtusbTx.pmTurn]
      cases hpm : s.pm with
      | idle => exact hs
      | kill =>
          exact fun hne => ⟨(hs hne).suspending, show PmPc.idle ≠ .clear by decide,
            show PmPc.idle ≠ .unlock by decide⟩
      | play =>
          dsimp only
          rw [BtusbTx.playDeferred]
          cases hdef : s.deferred with
          | nil => exact hnone rfl
          | cons f rest =>
              have hawaited := hs (by rw [hdef]; exact List.cons_ne_nil f rest)
              cases ok <;>
                exact fun _ => ⟨hawaited.suspending, hawaited.clear, hawaited.unlock⟩
      | sweep => exact hnone rfl
      | scuttle => exact hnone rfl
      | unlock => exact fun hne => absurd hpm (hs hne).unlock
      | clear => exact fun hne => absurd hpm (hs hne).clear

/-- In every state of a run each frame is accounted for once and none stays deferred for nothing,
exactly if no caller of `btusb_send_frame` defers its frame when a resume has dropped the others. -/
theorem deferred_settled_iff (es : List BtEvent) :
    (∀ pre, pre <+: es → BtSettled (final btStep {} pre) (outputs btStep {} pre)) ↔
      Along btStep SendInTime {} es := by
  have hplay : (∀ pre, pre <+: es → WillPlay (final btStep {} pre)) ↔
      Along btStep SendInTime {} es :=
    forall_prefix_iff_along (J := fun _ => True) (I := WillPlay) (fun _ _ _ => trivial)
      (fun s e _ hs => willPlay_btStep_iff hs e) trivial (fun hne => absurd rfl hne)
  rw [← hplay]
  refine forall₂_congr fun pre _ => ⟨fun h => h.willPlay, fun h => ⟨?_, h⟩⟩
  have haccount := run_conserves btStep_conserves {} pre
  rwa [show BtusbTx.held {} = [] from rfl, List.nil_append] at haccount

/-! ### The order of the frames -/

/-- The frames that are not of SCO connections. -/
def inOrder (fs : List BtFrame) : List BtFrame := fs.filter fun f => !f.sco

/-- A frame that leaves the driver, for the controller or for nowhere. -/
def BtOp.left? : BtOp → Option BtFrame
  | .submitted f | .failed f | .dropped f => some f
  | _ => none

/-- The core calls `btusb_send_frame` for one frame at a time. -/
def Alone (s : BtusbTx) : BtEvent → Prop
  | .send _ _ => s.sending = []
  | _ => True

/-- The order of the frames after the operations. -/
structure BtOrder (s : BtusbTx) (h : List BtOp) : Prop where
  order : inOrder (h.filterMap BtOp.taken?) =
    inOrder (h.filterMap BtOp.left?) ++ inOrder s.deferred ++ inOrder (s.sending.map Prod.fst)
  alone : s.sending.length ≤ 1
  /-- A frame that is not deferred comes behind no other. -/
  first : ∀ f, (f, false) ∈ s.sending → f.sco = false → s.deferred = []
  willPlay : WillPlay s

@[simp] lemma inOrder_nil : inOrder [] = [] := rfl

@[simp] lemma inOrder_append : inOrder (fs ++ fs') = inOrder fs ++ inOrder fs' :=
  List.filter_append ..

lemma inOrder_single_sco (h : f.sco = true) : inOrder [f] = [] := by simp [inOrder, h]

lemma btOrder_send (ho : BtOrder s h) (hsend : s.sending = []) (ready : Bool) (f : BtFrame) :
    BtOrder (s.send ready f).1 (h ++ (s.send ready f).2) := by
  have horder := ho.order
  rw [hsend, List.map_nil, inOrder_nil, List.append_nil] at horder
  have hnext : WillPlay (s.send ready f).1 :=
    (willPlay_btStep_iff ho.willPlay (.send ready f)).2 trivial
  have htaken (b : Bool) : inOrder ((h ++ [BtOp.taken f]).filterMap BtOp.taken?) =
      inOrder ((h ++ [BtOp.taken f]).filterMap BtOp.left?) ++ inOrder s.deferred ++
        inOrder ((s.sending ++ [(f, b)]).map Prod.fst) := by
    simp [BtOp.taken?, BtOp.left?, List.filterMap_cons, horder, hsend]
  have halone (b : Bool) : (s.sending ++ [(f, b)]).length ≤ 1 := by simp [hsend]
  rw [BtusbTx.send] at hnext ⊢
  split_ifs at hnext ⊢ with hready hsco hlock hsusp
  · refine ⟨?_, ho.alone, ho.first, hnext⟩
    simpa [BtOp.taken?, BtOp.left?, List.filterMap_cons, hsend] using horder
  · refine ⟨htaken false, halone false, fun g hg hgsco => ?_, hnext⟩
    obtain rfl : g = f := by simpa [hsend] using hg
    exact absurd (hsco.symm.trans hgsco) (by decide)
  · exact ⟨by simpa [hsend] using horder, ho.alone, ho.first, ho.willPlay⟩
  · exact ⟨htaken true, halone true, fun g hg => by simp [hsend] at hg, hnext⟩
  · refine ⟨htaken false, halone false, fun _ _ _ => ?_, hnext⟩
    by_contra hdef
    exact hsusp (ho.willPlay hdef).suspending

lemma btOrder_sendTail (ho : BtOrder s h) (i : ℕ) (ok : Bool)
    (hnext : WillPlay (s.sendTail i ok).1) :
    BtOrder (s.sendTail i ok).1 (h ++ (s.sendTail i ok).2) := by
  have horder := ho.order
  have hlast {c : BtFrame × Bool} (hget : s.sending[i]? = some c) :
      s.sending = [c] ∧ s.sending.eraseIdx i = [] := by
    have halone := ho.alone
    obtain ⟨hi, hc⟩ := List.getElem?_eq_some_iff.1 hget
    obtain ⟨d, hd⟩ := List.length_eq_one_iff.1 (show s.sending.length = 1 by omega)
    have hi0 : i = 0 := by omega
    subst hi0
    simp [hd] at hc ⊢
    exact hc
  rw [BtusbTx.sendTail] at hnext ⊢
  split
  · exact ⟨by simpa using horder, ho.alone, ho.first, ho.willPlay⟩
  · rename_i f hget
    obtain ⟨hone, herase⟩ := hlast hget
    rw [hget] at hnext
    rw [hone] at horder
    rw [herase] at hnext ⊢
    refine ⟨?_, Nat.zero_le _, fun _ hg => absurd hg List.not_mem_nil, hnext⟩
    simpa [BtOp.taken?, BtOp.left?, List.filterMap_cons] using horder
  · rename_i f hget
    obtain ⟨hone, herase⟩ := hlast hget
    rw [hget] at hnext
    rw [hone] at horder
    rw [herase] at hnext ⊢
    -- nothing that it could overtake is deferred
    have hfirst : inOrder s.deferred ++ inOrder [f] = inOrder [f] ++ inOrder s.deferred := by
      cases hsco : f.sco with
      | true => rw [inOrder_single_sco hsco, List.append_nil, List.nil_append]
      | false => rw [ho.first f (by rw [hone]; exact List.mem_cons_self) hsco]; simp
    rw [List.append_assoc, List.map_cons, List.map_nil, hfirst] at horder
    split_ifs at hnext ⊢
    · refine ⟨?_, Nat.zero_le _, fun _ hg => absurd hg List.not_mem_nil, hnext⟩
      simpa [BtOp.taken?, BtOp.left?, List.filterMap_cons] using horder
    · refine ⟨?_, Nat.zero_le _, fun _ hg => absurd hg List.not_mem_nil, hnext⟩
      simpa [BtOp.taken?, BtOp.left?, List.filterMap_cons] using horder

/-- Events that leave the frames that are deferred and the callers alone. -/
lemma BtOrder.keep {s' : BtusbTx} (ho : BtOrder s h) (hdef : s'.deferred = s.deferred)
    (hsend : s'.sending = s.sending) (hnext : WillPlay s') {ops : List BtOp}
    (htaken : ops.filterMap BtOp.taken? = []) (hleft : ops.filterMap BtOp.left? = []) :
    BtOrder s' (h ++ ops) where
  order := by
    rw [List.filterMap_append, List.filterMap_append, htaken, hleft, List.append_nil,
      List.append_nil, hdef, hsend]
    exact ho.order
  alone := hsend ▸ ho.alone
  first := by
    rw [hdef, hsend]
    exact ho.first
  willPlay := hnext

/-- Events at which all that is deferred leaves. -/
lemma BtOrder.empty {s' : BtusbTx} (ho : BtOrder s h) (hdef : s'.deferred = [])
    (hsend : s'.sending = s.sending) {ops : List BtOp}
    (htaken : ops.filterMap BtOp.taken? = []) (hleft : ops.filterMap BtOp.left? = s.deferred) :
    BtOrder s' (h ++ ops) where
  order := by
    rw [List.filterMap_append, List.filterMap_append, htaken, hleft, List.append_nil, hdef, hsend,
      inOrder_append, inOrder_nil, List.append_nil]
    exact ho.order
  alone := hsend ▸ ho.alone
  first _ _ _ := hdef
  willPlay hne := absurd hdef hne

/-- The frame that is played is the first of those that are deferred. -/
lemma btOrder_playDeferred (ho : BtOrder s h) (ok : Bool) (hnext : WillPlay (s.playDeferred ok).1) :
    BtOrder (s.playDeferred ok).1 (h ++ (s.playDeferred ok).2) := by
  have horder := ho.order
  rw [BtusbTx.playDeferred] at hnext ⊢
  cases hdef : s.deferred with
  | nil =>
      exact @BtOrder.empty s h { s with deferred := [], pm := .sweep } ho rfl rfl [] rfl hdef.symm
  | cons f rest =>
      rw [hdef] at hnext
      have hfirst : ∀ g, (g, false) ∈ s.sending → g.sco = false → rest = [] := fun g hg hsco =>
        absurd (hdef.symm.trans (ho.first g hg hsco)) (List.cons_ne_nil f rest)
      rw [hdef, ← List.singleton_append, inOrder_append] at horder
      cases ok
      all_goals
        refine ⟨?_, ho.alone, hfirst, hnext⟩
        simpa [BtOp.taken?, BtOp.left?, List.filterMap_cons] using horder

lemma btOrder_btStep (ho : BtOrder s h) {e : BtEvent} (hintime : SendInTime s e)
    (halone : Alone s e) : BtOrder (btStep s e).1 (h ++ (btStep s e).2) := by
  have hnext := (willPlay_btStep_iff ho.willPlay e).2 hintime
  have hkill : BtOrder s.killTx.1 (h ++ s.killTx.2) := @BtOrder.keep s h s.killTx.1 ho rfl rfl
    (fun hne => ⟨(ho.willPlay hne).suspending, (ho.willPlay hne).clear, (ho.willPlay hne).unlock⟩) _
    (filterMap_map_none (g := .complete) (fun _ => rfl) s.txAnchor)
    (filterMap_map_none (g := .complete) (fun _ => rfl) s.txAnchor)
  have hscuttle : BtOrder s.scuttle.1 (h ++ s.scuttle.2) :=
    @BtOrder.empty s h s.scuttle.1 ho rfl rfl _
    (filterMap_map_none (g := .dropped) (fun _ => rfl) s.deferred)
    (filterMap_map_some (g := .dropped) (fun _ => rfl) s.deferred)
  cases e with
  | send ready f => exact btOrder_send ho halone ready f
  | sendTail i ok => exact btOrder_sendTail ho i ok hnext
  | complete i =>
      rw [btStep, BtusbTx.txComplete] at hnext ⊢
      split
      · exact ho.keep rfl rfl ho.willPlay rfl rfl
      · rename_i f hget
        rw [hget] at hnext
        dsimp only at hnext ⊢
        split_ifs at hnext ⊢ <;> refine ho.keep ?_ ?_ hnext ?_ ?_ <;> rfl
  | flush =>
      rw [btStep]
      split_ifs
      · exact ho.keep rfl rfl ho.willPlay rfl rfl
      · exact hkill
  | close => exact hscuttle
  | suspend auto =>
      rw [btStep, BtusbTx.suspend] at hnext ⊢
      split_ifs at hnext ⊢ <;> refine ho.keep ?_ ?_ hnext ?_ ?_ <;> rfl
  | resume rxOk =>
      rw [btStep, BtusbTx.resume] at hnext ⊢
      split_ifs at hnext ⊢ <;> refine ho.keep ?_ ?_ hnext ?_ ?_ <;> rfl
  | pmTurn ok =>
      rw [btStep, BtusbTx.pmTurn] at hnext ⊢
      cases hpm : s.pm with
      | idle => exact ho.keep rfl rfl ho.willPlay rfl rfl
      | kill =>
          rw [hpm] at hnext
          exact ⟨hkill.order, hkill.alone, hkill.first, hnext⟩
      | play =>
          rw [hpm] at hnext
          exact btOrder_playDeferred ho ok hnext
      | sweep =>
          rw [hpm] at hnext
          exact ⟨hscuttle.order, hscuttle.alone, hscuttle.first, hnext⟩
      | scuttle =>
          rw [hpm] at hnext
          exact ⟨hscuttle.order, hscuttle.alone, hscuttle.first, hnext⟩
      | unlock =>
          rw [hpm] at hnext
          refine ho.keep ?_ ?_ hnext ?_ ?_ <;> rfl
      | clear =>
          rw [hpm] at hnext
          refine ho.keep ?_ ?_ hnext ?_ ?_ <;> rfl

/-- Where the frames are sent one at a time and in time, they leave in the order in which they came,
but for those of SCO connections. -/
theorem btusb_in_order {es : List BtEvent}
    (hes : Along btStep (fun s e => SendInTime s e ∧ Alone s e) {} es) :
    let s := final btStep {} es
    inOrder ((outputs btStep {} es).filterMap BtOp.taken?) =
      inOrder ((outputs btStep {} es).filterMap BtOp.left?) ++ inOrder s.deferred ++
        inOrder (s.sending.map Prod.fst) :=
  (history_induction (I := BtOrder) (h := []) (fun _ _ _ he ho => btOrder_btStep ho he.1 he.2)
    ⟨rfl, Nat.zero_le _, fun _ hg => absurd hg List.not_mem_nil, fun hne => absurd rfl hne⟩
    hes).order

/-- Two frames come while the device is suspended; one goes out when it resumes, and the other,
which is deferred behind the loop, is dropped. -/
def deferredRun : List BtEvent :=
  [.suspend false, .pmTurn true, .send true ⟨1, false⟩, .sendTail 0 true, .send true ⟨2, false⟩,
    .resume true, .pmTurn true, .pmTurn true, .sendTail 0 true, .pmTurn true, .pmTurn true]

theorem btusb_in_order_deferredRun :
    inOrder [⟨1, false⟩, ⟨2, false⟩] =
      inOrder ((outputs btStep {} deferredRun).filterMap BtOp.left?) ++ inOrder [] ++ inOrder [] :=
  @btusb_in_order deferredRun (by
    simp [deferredRun, Along, SendInTime, Alone, btStep, BtusbTx.suspend, BtusbTx.pmTurn,
      BtusbTx.killTx, BtusbTx.send, BtusbTx.sendTail, BtusbTx.locked, BtusbTx.resume,
      BtusbTx.playDeferred, awaited_iff])

end Rtl8723du.Bt
