import Mathlib.Algebra.Group.Nat.Defs
import Mathlib.Data.Int.Notation
import Mathlib.Data.List.Perm.Basic
import Mathlib.Tactic.Common
import Rtl8723du.Lib.Machine

/-!
# Frames on their way to the Bluetooth controller

`btusb_send_frame` submits a frame at once, or defers it while the device is suspended;
`btusb_resume` plays what was deferred, one frame after the other.  The two and `btusb_suspend` take
`txlock` for some of what they do only, so that other calls come between: `btusb_resume` has it
while it plays, but a frame is deferred without it.

`tx_in_flight` is to count the frames that are under way, for `btusb_suspend` to see if the device
is busy.  It counts the submissions that have failed, too (`btusb_suspend_busy_iff`).
-/

namespace Rtl8723du.Bt

open Lib Lib.Machine

/-- A frame that the HCI core sends.  Only those of SCO connections are not counted. -/
structure BtFrame where
  skb : ℕ
  sco : Bool
deriving DecidableEq, Repr

/-- Where the power management is: in `btusb_suspend` before it kills what is in flight; in
`btusb_resume` with `txlock`, in the loop of `play_deferred`, behind it, and behind
`play_deferred`; or behind the label `failed`. -/
inductive PmPc | idle | kill | play | sweep | unlock | scuttle | clear
deriving DecidableEq, Repr

/-- What of `struct btusb_data` the way of a frame depends on. -/
structure BtusbTx where
  /-- `BTUSB_SUSPENDING`. -/
  suspending : Bool := false
  suspendCount : ℤ := 0
  txInFlight : BitVec 32 := 0
  txAnchor : List BtFrame := []
  deferred : List BtFrame := []
  /-- The calls of `btusb_send_frame` that are behind `inc_tx`, with what it returned. -/
  sending : List (BtFrame × Bool) := []
  pm : PmPc := .idle

/-- What becomes of frames, and what else is seen. -/
inductive BtOp
  /-- An error before `inc_tx`. -/
  | refused (f : BtFrame)
  | taken (f : BtFrame)
  /-- `usb_submit_urb` on the frame. -/
  | submitted (f : BtFrame)
  | failed (f : BtFrame)
  /-- `btusb_tx_complete` or `btusb_isoc_tx_complete`. -/
  | complete (f : BtFrame)
  /-- `usb_scuttle_anchored_urbs` on the deferred frames. -/
  | dropped (f : BtFrame)
  | waker
  /-- `btusb_suspend` returns `-EBUSY`. -/
  | busy
deriving DecidableEq, Repr

/-- What happens to the driver. -/
inductive BtEvent
  /-- `btusb_send_frame` up to `inc_tx`, with the memory and the endpoint that it needs or not. -/
  | send (ready : Bool) (f : BtFrame)
  /-- The rest of a call of `btusb_send_frame`. -/
  | sendTail (i : ℕ) (ok : Bool)
  | complete (i : ℕ)
  /-- `btusb_flush`. -/
  | flush
  /-- `btusb_close`. -/
  | close
  /-- `btusb_suspend`, with `PM_EVENT_AUTO` or not. -/
  | suspend (auto : Bool)
  /-- `btusb_resume`; whether the requests for reception can be submitted. -/
  | resume (rxOk : Bool)
  /-- `btusb_suspend` or `btusb_resume` goes on; whether a frame can be submitted. -/
  | pmTurn (ok : Bool)

/-- The frames of the list that `tx_in_flight` counts. -/
def counted (fs : List BtFrame) : ℕ := fs.countP fun f => !f.sco

namespace BtusbTx

/-- `btusb_resume` has `txlock`. -/
def locked (s : BtusbTx) : Bool := s.pm == .play || s.pm == .sweep || s.pm == .unlock

/-- `btusb_send_frame` up to the end of `inc_tx`, which waits for the lock. -/
def send (s : BtusbTx) (ready : Bool) (f : BtFrame) : BtusbTx × List BtOp :=
  if !ready then (s, [.refused f])
  else if f.sco then ({ s with sending := s.sending ++ [(f, false)] }, [.taken f])
  else if s.locked then (s, [])
  else if s.suspending then ({ s with sending := s.sending ++ [(f, true)] }, [.taken f])
  else
    ({ s with txInFlight := s.txInFlight + 1, sending := s.sending ++ [(f, false)] }, [.taken f])

/-- `btusb_send_frame` behind `inc_tx`. -/
def sendTail (s : BtusbTx) (i : ℕ) (ok : Bool) : BtusbTx × List BtOp :=
  match s.sending[i]? with
  | none => (s, [])
  | some (f, true) =>
      ({ s with sending := s.sending.eraseIdx i, deferred := s.deferred ++ [f] }, [.waker])
  | some (f, false) =>
      if ok then
        ({ s with sending := s.sending.eraseIdx i, txAnchor := s.txAnchor ++ [f] }, [.submitted f])
      else ({ s with sending := s.sending.eraseIdx i }, [.failed f])

/-- `btusb_tx_complete`, which waits for the lock, and `btusb_isoc_tx_complete`. -/
def txComplete (s : BtusbTx) (i : ℕ) : BtusbTx × List BtOp :=
  match s.txAnchor[i]? with
  | none => (s, [])
  | some f =>
      if s.locked && !f.sco then (s, [])
      else
        ({ s with
          txAnchor := s.txAnchor.eraseIdx i
          txInFlight := s.txInFlight - .ofNat 32 (counted [f]) }, [.complete f])

/-- `usb_kill_anchored_urbs(&data->tx_anchor)`. -/
def killTx (s : BtusbTx) : BtusbTx × List BtOp :=
  ({ s with txAnchor := [], txInFlight := s.txInFlight - .ofNat 32 (counted s.txAnchor) },
    s.txAnchor.map .complete)

/-- `usb_scuttle_anchored_urbs(&data->deferred)`. -/
def scuttle (s : BtusbTx) : BtusbTx × List BtOp :=
  ({ s with deferred := [] }, s.deferred.map .dropped)

/-- A turn of the loop of `play_deferred`. -/
def playDeferred (s : BtusbTx) (ok : Bool) : BtusbTx × List BtOp :=
  match s.deferred with
  | [] => ({ s with pm := .sweep }, [])
  | f :: rest =>
      let s := { s with deferred := rest, txInFlight := s.txInFlight + 1 }
      if ok then ({ s with txAnchor := s.txAnchor ++ [f] }, [.submitted f]) else (s, [.failed f])

/-- `btusb_suspend` up to the end of the lock. -/
def suspend (s : BtusbTx) (auto : Bool) : BtusbTx × List BtOp :=
  if s.pm ≠ .idle then (s, [])
  else if s.suspendCount ≠ 0 then ({ s with suspendCount := s.suspendCount + 1 }, [])
  else if auto && s.txInFlight != 0 then (s, [.busy])
  else ({ s with suspendCount := s.suspendCount + 1, suspending := true, pm := .kill }, [])

/-- `btusb_resume` until it has the lock, or to the label `failed`. -/
def resume (s : BtusbTx) (rxOk : Bool) : BtusbTx × List BtOp :=
  if s.pm ≠ .idle then (s, [])
  else if s.suspendCount - 1 ≠ 0 then ({ s with suspendCount := s.suspendCount - 1 }, [])
  else ({ s with suspendCount := 0, pm := if rxOk then .play else .scuttle }, [])

/-- `btusb_suspend` and `btusb_resume` from there on. -/
def pmTurn (s : BtusbTx) (ok : Bool) : BtusbTx × List BtOp :=
  match s.pm with
  | .idle => (s, [])
  | .kill => ({ s.killTx.1 with pm := .idle }, s.killTx.2)
  | .play => s.playDeferred ok
  | .sweep => ({ s.scuttle.1 with pm := .unlock }, s.scuttle.2)
  | .scuttle => ({ s.scuttle.1 with pm := .clear }, s.scuttle.2)
  | .unlock | .clear => ({ s with suspending := false, pm := .idle }, [])

end BtusbTx

/-- One event.  The core suspends and resumes an interface one at a time. -/
def btStep (s : BtusbTx) : BtEvent → BtusbTx × List BtOp
  | .send ready f => s.send ready f
  | .sendTail i ok => s.sendTail i ok
  | .complete i => s.txComplete i
  -- what is killed is completed, which takes the lock
  | .flush => if s.locked then (s, []) else s.killTx
  | .close => s.scuttle
  | .suspend auto => s.suspend auto
  | .resume rxOk => s.resume rxOk
  | .pmTurn ok => s.pmTurn ok

variable {s : BtusbTx} {f : BtFrame} {fs fs' : List BtFrame} {es : List BtEvent} {h : List BtOp}

/-! ### Every frame is somewhere -/

/-- The frames that the driver has. -/
def BtusbTx.held (s : BtusbTx) : List BtFrame :=
  s.txAnchor ++ s.deferred ++ s.sending.map Prod.fst

/-- A frame that comes in. -/
def BtOp.taken? : BtOp → Option BtFrame
  | .taken f => some f
  | _ => none

/-- A frame that the driver is done with. -/
def BtOp.gone? : BtOp → Option BtFrame
  | .failed f | .complete f | .dropped f => some f
  | _ => none

/-- A submission that has failed. -/
def BtOp.failed? : BtOp → Option BtFrame
  | .failed f => some f
  | _ => none

@[simp] lemma counted_nil : counted [] = 0 := rfl

@[simp] lemma counted_append : counted (fs ++ fs') = counted fs + counted fs' := List.countP_append

lemma counted_perm (h : fs.Perm fs') : counted fs = counted fs' := h.countP_eq _

lemma counted_cons : counted (f :: fs) = counted [f] + counted fs := by
  rw [← List.singleton_append, counted_append]

lemma perm_cons_eraseIdx {α : Type*} {xs : List α} {i : ℕ} {x : α} (h : xs[i]? = some x) :
    (x :: xs.eraseIdx i).Perm xs := by
  obtain ⟨hi, rfl⟩ := List.getElem?_eq_some_iff.1 h
  exact List.getElem_cons_eraseIdx_perm hi

lemma perm_sending {b : Bool} {i : ℕ} (h : s.sending[i]? = some (f, b)) :
    (f :: (s.sending.eraseIdx i).map Prod.fst).Perm (s.sending.map Prod.fst) :=
  (perm_cons_eraseIdx h).map Prod.fst

lemma filterMap_map_some {g : BtFrame → BtOp} {k : BtOp → Option BtFrame}
    (h : ∀ f, k (g f) = some f) (fs : List BtFrame) : (fs.map g).filterMap k = fs := by
  induction fs with
  | nil => rfl
  | cons f fs ih => rw [List.map_cons, List.filterMap_cons_some (h f), ih]

lemma filterMap_map_none {g : BtFrame → BtOp} {k : BtOp → Option BtFrame}
    (h : ∀ f, k (g f) = none) (fs : List BtFrame) : (fs.map g).filterMap k = [] := by
  induction fs with
  | nil => rfl
  | cons f fs ih => rw [List.map_cons, List.filterMap_cons_none (h f), ih]

/-- The step neither loses a frame nor doubles one. -/
def Keeps (s : BtusbTx) (r : BtusbTx × List BtOp) : Prop :=
  (s.held ++ r.2.filterMap BtOp.taken?).Perm (r.2.filterMap BtOp.gone? ++ r.1.held)

lemma keeps_killTx (s : BtusbTx) : Keeps s s.killTx := by
  have htaken := filterMap_map_none (g := .complete) (k := BtOp.taken?) (fun _ => rfl) s.txAnchor
  have hgone := filterMap_map_some (g := .complete) (k := BtOp.gone?) (fun _ => rfl) s.txAnchor
  rw [Keeps, BtusbTx.killTx, htaken, hgone]
  simp [BtusbTx.held]

lemma keeps_scuttle (s : BtusbTx) : Keeps s s.scuttle := by
  have htaken := filterMap_map_none (g := .dropped) (k := BtOp.taken?) (fun _ => rfl) s.deferred
  have hgone := filterMap_map_some (g := .dropped) (k := BtOp.gone?) (fun _ => rfl) s.deferred
  rw [Keeps, BtusbTx.scuttle, htaken, hgone]
  refine List.perm_iff_count.2 fun a => ?_
  simp [BtusbTx.held]
  omega

lemma keeps_playDeferred (s : BtusbTx) (ok : Bool) : Keeps s (s.playDeferred ok) := by
  rw [Keeps, BtusbTx.playDeferred]
  cases hdef : s.deferred with
  | nil => simp [BtusbTx.held, hdef]
  | cons f rest =>
      refine List.perm_iff_count.2 fun a => ?_
      cases ok
      · simp [BtusbTx.held, hdef, BtOp.taken?, BtOp.gone?, List.filterMap_cons, List.count_cons]
        omega
      · simp [BtusbTx.held, hdef, BtOp.taken?, BtOp.gone?, List.filterMap_cons, List.count_cons]

/-- No event loses a frame or doubles it. -/
lemma btStep_conserves : Conserves btStep BtusbTx.held BtOp.taken? BtOp.gone? := by
  intro s e
  cases e with
  | send ready f =>
      rw [btStep, BtusbTx.send]
      split_ifs <;> simp [BtusbTx.held, BtOp.taken?, BtOp.gone?, List.filterMap_cons]
  | sendTail i ok =>
      rw [btStep, BtusbTx.sendTail]
      split
      · simp
      · rename_i f hget
        refine List.perm_iff_count.2 fun a => ?_
        have hcount := (perm_sending hget).count_eq a
        simp [BtusbTx.held, BtOp.taken?, BtOp.gone?, List.filterMap_cons, List.count_cons]
          at hcount ⊢
        omega
      · rename_i f hget
        have hcount := fun a => (perm_sending hget).count_eq a
        split_ifs <;> refine List.perm_iff_count.2 fun a => ?_ <;> specialize hcount a <;>
          simp [BtusbTx.held, BtOp.taken?, BtOp.gone?, List.filterMap_cons, List.count_cons]
            at hcount ⊢ <;> omega
  | complete i =>
      rw [btStep, BtusbTx.txComplete]
      split
      · simp
      · rename_i f hget
        split_ifs
        · simp
        · refine List.perm_iff_count.2 fun a => ?_
          have hcount := (perm_cons_eraseIdx hget).count_eq a
          simp [BtusbTx.held, BtOp.taken?, BtOp.gone?, List.filterMap_cons, List.count_cons]
            at hcount ⊢
          omega
  | flush =>
      rw [btStep]
      split_ifs
      · simp
      · exact keeps_killTx s
  | close => exact keeps_scuttle s
  | suspend auto =>
      rw [btStep, BtusbTx.suspend]
      split_ifs <;> simp [BtusbTx.held, BtOp.taken?, BtOp.gone?, List.filterMap_cons]
  | resume rxOk =>
      rw [btStep, BtusbTx.resume]
      split_ifs <;> simp [BtusbTx.held]
  | pmTurn ok =>
      rw [btStep, BtusbTx.pmTurn]
      cases s.pm with
      | idle => simp
      | kill => exact keeps_killTx s
      | play => exact keeps_playDeferred s ok
      | sweep => exact keeps_scuttle s
      | scuttle => exact keeps_scuttle s
      | unlock => simp [BtusbTx.held]
      | clear => simp [BtusbTx.held]

/-! ### What `tx_in_flight` counts -/

/-- The frames that are submitted, and those that are to be without being deferred. -/
def BtusbTx.onWay (s : BtusbTx) : List BtFrame :=
  s.txAnchor ++ (s.sending.filter fun c => !c.2).map Prod.fst

/-- `tx_in_flight` after the operations. -/
structure InFlight (s : BtusbTx) (h : List BtOp) : Prop where
  eq : s.txInFlight = .ofNat 32 (counted s.onWay + counted (h.filterMap BtOp.failed?))
  deferred : ∀ f ∈ s.deferred, f.sco = false
  sending : ∀ f, (f, true) ∈ s.sending → f.sco = false

lemma counted_sending {b : Bool} {i : ℕ} (h : s.sending[i]? = some (f, b)) :
    counted ((s.sending.filter fun c => !c.2).map Prod.fst) =
      (if b then 0 else counted [f]) +
        counted (((s.sending.eraseIdx i).filter fun c => !c.2).map Prod.fst) := by
  rw [← counted_perm (((perm_cons_eraseIdx h).filter fun c => !c.2).map Prod.fst)]
  cases b with
  | true => simp
  | false =>
      rw [List.filter_cons_of_pos rfl, List.map_cons, counted_cons]
      rfl

lemma ofNat_add_of_eq {n k m : ℕ} (h : m = n + k) :
    BitVec.ofNat 32 n + .ofNat 32 k = .ofNat 32 m := by rw [h, BitVec.ofNat_add]

lemma ofNat_sub_of_eq {n k m : ℕ} (h : n = m + k) :
    BitVec.ofNat 32 n - .ofNat 32 k = .ofNat 32 m := by
  rw [h, BitVec.ofNat_add, BitVec.add_sub_cancel]

lemma inFlight_send (hi : InFlight s h) (ready : Bool) (f : BtFrame) :
    InFlight (s.send ready f).1 (h ++ (s.send ready f).2) := by
  have heq := hi.eq
  rw [BtusbTx.onWay, counted_append] at heq
  rw [BtusbTx.send]
  split_ifs with hready hsco hlock hsusp
  · exact ⟨by simpa [BtusbTx.onWay, BtOp.failed?, List.filterMap_cons] using heq, hi.deferred,
      hi.sending⟩
  · refine ⟨?_, hi.deferred, fun g hg => hi.sending g ?_⟩
    · have hcount : counted [f] = 0 := by simp [counted, hsco]
      refine heq.trans (congrArg (BitVec.ofNat 32) ?_)
      simp [BtusbTx.onWay, BtOp.failed?, List.filterMap_cons, hcount]
    · simpa using hg
  · exact ⟨by simpa [BtusbTx.onWay] using heq, hi.deferred, hi.sending⟩
  · refine ⟨?_, hi.deferred, fun g hg => ?_⟩
    · simpa [BtusbTx.onWay, BtOp.failed?, List.filterMap_cons] using heq
    · rcases List.mem_append.1 hg with hg | hg
      · exact hi.sending g hg
      · rw [(Prod.mk.inj (List.mem_singleton.1 hg)).1]
        exact Bool.eq_false_iff.2 hsco
  · refine ⟨?_, hi.deferred, fun g hg => hi.sending g ?_⟩
    · have hcount : counted [f] = 1 := by simp [counted, hsco]
      change s.txInFlight + .ofNat 32 1 = _
      rw [heq]
      refine ofNat_add_of_eq ?_
      simp [BtusbTx.onWay, BtOp.failed?, List.filterMap_cons, hcount]
      omega
    · simpa using hg

lemma inFlight_sendTail (hi : InFlight s h) (i : ℕ) (ok : Bool) :
    InFlight (s.sendTail i ok).1 (h ++ (s.sendTail i ok).2) := by
  have heq := hi.eq
  rw [BtusbTx.onWay, counted_append] at heq
  have hsending : ∀ f, (f, true) ∈ s.sending.eraseIdx i → f.sco = false :=
    fun f hf => hi.sending f (List.mem_of_mem_eraseIdx hf)
  rw [BtusbTx.sendTail]
  split
  · exact ⟨by simpa [BtusbTx.onWay] using heq, hi.deferred, hi.sending⟩
  · rename_i f hget
    have hcount := counted_sending hget
    refine ⟨heq.trans (congrArg (BitVec.ofNat 32) ?_), fun g hg => ?_, hsending⟩
    · simp [BtusbTx.onWay, BtOp.failed?, List.filterMap_cons] at hcount ⊢
      omega
    · rcases List.mem_append.1 hg with hg | hg
      · exact hi.deferred g hg
      · rw [List.mem_singleton.1 hg]
        exact hi.sending f (List.mem_of_getElem? hget)
  · rename_i f hget
    have hcount := counted_sending hget
    simp only [Bool.false_eq_true, if_false] at hcount
    split_ifs <;> refine ⟨heq.trans (congrArg (BitVec.ofNat 32) ?_), hi.deferred, hsending⟩
    · simp only [BtusbTx.onWay, counted_append, List.filterMap_append, List.filterMap_cons,
        BtOp.failed?, List.filterMap_nil, counted_nil]
      omega
    · simp only [BtusbTx.onWay, counted_append, List.filterMap_append, List.filterMap_cons,
        BtOp.failed?, List.filterMap_nil]
      omega

lemma inFlight_txComplete (hi : InFlight s h) (i : ℕ) :
    InFlight (s.txComplete i).1 (h ++ (s.txComplete i).2) := by
  have heq := hi.eq
  rw [BtusbTx.onWay, counted_append] at heq
  rw [BtusbTx.txComplete]
  split
  · exact ⟨by simpa [BtusbTx.onWay] using heq, hi.deferred, hi.sending⟩
  · rename_i f hget
    split_ifs
    · exact ⟨by simpa [BtusbTx.onWay] using heq, hi.deferred, hi.sending⟩
    · have hcount := counted_perm (perm_cons_eraseIdx hget)
      rw [counted_cons] at hcount
      refine ⟨?_, hi.deferred, hi.sending⟩
      dsimp only
      rw [heq]
      refine ofNat_sub_of_eq ?_
      simp [BtusbTx.onWay, BtOp.failed?, List.filterMap_cons]
      omega

lemma inFlight_killTx (hi : InFlight s h) : InFlight s.killTx.1 (h ++ s.killTx.2) := by
  have heq := hi.eq
  rw [BtusbTx.onWay, counted_append] at heq
  have hnone := filterMap_map_none (g := .complete) (k := BtOp.failed?) (fun _ => rfl) s.txAnchor
  refine ⟨?_, hi.deferred, hi.sending⟩
  simp only [BtusbTx.killTx, BtusbTx.onWay, List.nil_append, List.filterMap_append, hnone,
    List.append_nil]
  rw [heq]
  refine ofNat_sub_of_eq ?_
  omega

lemma inFlight_scuttle (hi : InFlight s h) : InFlight s.scuttle.1 (h ++ s.scuttle.2) := by
  have hnone := filterMap_map_none (g := .dropped) (k := BtOp.failed?) (fun _ => rfl) s.deferred
  refine ⟨?_, nofun, hi.sending⟩
  simp only [BtusbTx.scuttle, List.filterMap_append, hnone, List.append_nil]
  exact hi.eq

/-- A frame that is played is counted, whether it can be submitted or not. -/
lemma inFlight_playDeferred (hi : InFlight s h) (ok : Bool) :
    InFlight (s.playDeferred ok).1 (h ++ (s.playDeferred ok).2) := by
  have heq := hi.eq
  rw [BtusbTx.onWay, counted_append] at heq
  rw [BtusbTx.playDeferred]
  cases hdef : s.deferred with
  | nil =>
      refine ⟨by simpa [BtusbTx.onWay] using heq, fun g hg => ?_, hi.sending⟩
      exact absurd hg (by simp)
  | cons f rest =>
      have hsco : f.sco = false := hi.deferred f (by rw [hdef]; exact List.mem_cons_self)
      have hcount : counted [f] = 1 := by simp [counted, hsco]
      have hrest : ∀ g ∈ rest, g.sco = false := fun g hg =>
        hi.deferred g (by rw [hdef]; exact List.mem_cons_of_mem _ hg)
      dsimp only
      split_ifs
      all_goals
        refine ⟨?_, hrest, hi.sending⟩
        change s.txInFlight + .ofNat 32 1 = _
        rw [heq]
        refine ofNat_add_of_eq ?_
        simp only [BtusbTx.onWay, counted_append, List.filterMap_append, List.filterMap_cons,
          BtOp.failed?, List.filterMap_nil, counted_nil, hcount]
        omega

lemma inFlight_btStep (hi : InFlight s h) (e : BtEvent) :
    InFlight (btStep s e).1 (h ++ (btStep s e).2) := by
  have hsame {s' : BtusbTx} (hon : s'.onWay = s.onWay) (hcnt : s'.txInFlight = s.txInFlight)
      (hdef : s'.deferred = s.deferred) (hsend : s'.sending = s.sending) {ops : List BtOp}
      (hops : ops.filterMap BtOp.failed? = []) : InFlight s' (h ++ ops) := by
    refine ⟨?_, hdef ▸ hi.deferred, hsend ▸ hi.sending⟩
    rw [hon, hcnt, List.filterMap_append, hops, List.append_nil]
    exact hi.eq
  have hkill := inFlight_killTx hi
  have hscuttle := inFlight_scuttle hi
  cases e with
  | send ready f => exact inFlight_send hi ready f
  | sendTail i ok => exact inFlight_sendTail hi i ok
  | complete i => exact inFlight_txComplete hi i
  | flush =>
      rw [btStep]
      split_ifs
      · refine hsame ?_ ?_ ?_ ?_ ?_ <;> rfl
      · exact hkill
  | close => exact hscuttle
  | suspend auto =>
      rw [btStep, BtusbTx.suspend]
      split_ifs <;> (refine hsame ?_ ?_ ?_ ?_ ?_ <;> rfl)
  | resume rxOk =>
      rw [btStep, BtusbTx.resume]
      split_ifs <;> (refine hsame ?_ ?_ ?_ ?_ ?_ <;> rfl)
  | pmTurn ok =>
      rw [btStep, BtusbTx.pmTurn]
      cases s.pm with
      | idle => refine hsame ?_ ?_ ?_ ?_ ?_ <;> rfl
      | kill => exact ⟨hkill.eq, hkill.deferred, hkill.sending⟩
      | play => exact inFlight_playDeferred hi ok
      | sweep => exact ⟨hscuttle.eq, hscuttle.deferred, hscuttle.sending⟩
      | scuttle => exact ⟨hscuttle.eq, hscuttle.deferred, hscuttle.sending⟩
      | unlock => refine hsame ?_ ?_ ?_ ?_ ?_ <;> rfl
      | clear => refine hsame ?_ ?_ ?_ ?_ ?_ <;> rfl

lemma inFlight_run (es : List BtEvent) :
    InFlight (final btStep {} es) (outputs btStep {} es) :=
  history_induction (I := InFlight) (h := []) (fun _ _ e _ hi => inFlight_btStep hi e)
    ⟨rfl, fun _ hf => absurd hf List.not_mem_nil, fun _ hf => absurd hf List.not_mem_nil⟩
    (along_of_forall (Q := fun _ => True) fun _ _ => trivial)

/-- `btusb_suspend` takes the device for busy while the frames under way and all the submissions
that have ever failed, those of SCO connections left out, are not a multiple of `2 ^ 32`. -/
theorem btusb_suspend_busy_iff (es : List BtEvent) (auto : Bool) :
    let s := final btStep {} es
    .busy ∈ (btStep s (.suspend auto)).2 ↔
      auto = true ∧ s.pm = .idle ∧ s.suspendCount = 0 ∧
        (counted s.onWay + counted ((outputs btStep {} es).filterMap BtOp.failed?)) % 2 ^ 32 ≠ 0
    := by
  intro s
  have hcount : s.txInFlight ≠ 0 ↔
      (counted s.onWay + counted ((outputs btStep {} es).filterMap BtOp.failed?)) % 2 ^ 32 ≠ 0 := by
    have heq : s.txInFlight = .ofNat 32 (counted s.onWay + _) := (inFlight_run es).eq
    rw [heq, ne_eq, ← BitVec.toNat_inj, BitVec.toNat_ofNat]
    rfl
  rw [← hcount, btStep, BtusbTx.suspend]
  split_ifs with hpm hsuspended hbusy
  · simp [hpm]
  · simp [hsuspended]
  · simp only [Bool.and_eq_true, bne_iff_ne] at hbusy
    simp [hbusy.1, not_not.1 hpm, not_not.1 hsuspended]
    exact hbusy.2
  · simp only [Bool.and_eq_true, bne_iff_ne] at hbusy
    simp [not_not.1 hpm, not_not.1 hsuspended]
    exact fun hauto => by_contra fun hne => hbusy ⟨hauto, hne⟩

end Rtl8723du.Bt
