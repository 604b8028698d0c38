import Mathlib.Data.List.Nodup
import Mathlib.Data.List.Perm.Basic
import Rtl8723du.Cmd.CmdThread

/-!
# What becomes of the commands

Over any run, the commands that have been queued and are not in the queue any more have been freed
with all their parts, once each, and the one who waits has been told once.  Two things go wrong, and
no others.  A command whose caller looks at `cmdthd_running` before the thread clears it, and gets
the lock when the thread has left, stays in the queue.  A command to disconnect that fails or is
filtered is not freed by its callback.
-/

namespace Rtl8723du.Cmd

open Lib.Machine

/-! ### Accounts -/

/-- The command that is meant. -/
def Out.obj : Out → CmdObj
  | .queued obj => obj
  | .executed obj => obj
  | .freed obj _ => obj
  | .signalled obj => obj

/-- Something is freed, or the one who waits is told. -/
def Out.disposes : Out → Bool
  | .freed _ _ => true
  | .signalled _ => true
  | _ => false

/-- The command that is queued. -/
def Out.queued? : Out → Option CmdObj
  | .queued obj => some obj
  | _ => none

/-- The command that is executed. -/
def Out.executed? : Out → Option CmdObj
  | .executed obj => some obj
  | _ => none

/-- The commands that have been queued, in order. -/
def queuedOf (h : List Out) : List CmdObj := h.filterMap Out.queued?

/-- The commands that have been executed, in order. -/
def executedOf (h : List Out) : List CmdObj := h.filterMap Out.executed?

/-- What has been freed of a command, and whether the one who waits has been told. -/
def doneTo (h : List Out) (obj : CmdObj) : List Out :=
  h.filter fun o => o.disposes && o.obj.id == obj.id

/-- What is to be done to a command that has been queued. -/
def disposal (obj : CmdObj) : List Out := freeExtra obj ++ rtwSctxDoneErr obj ++ rtwFreeCmdObj obj

/-- What is done to one that is not queued. -/
def rejection (obj : CmdObj) : List Out := freeExtra obj ++ rtwFreeCmdObj obj

/-- The command that the thread has in its hands. -/
def Pc.held : Pc → List CmdObj
  | .taken obj => [obj]
  | .dropping obj => [obj]
  | _ => []

/-- The commands that have been queued and wait. -/
def CmdPriv.waiting (s : CmdPriv) : List CmdObj := s.pc.held ++ s.cmdQueue

/-- Every command that has been queued is in one place only, or all has been done to it once; the
commands are executed in order, and none waits when there is no thread. -/
structure Settled (s : CmdPriv) (h : List Out) : Prop where
  once : (queuedOf h).Nodup
  place : s.waiting <:+ queuedOf h
  order : (executedOf h).Sublist (queuedOf h)
  untouched : ∀ obj ∈ s.waiting, doneTo h obj = []
  done : ∀ obj ∈ queuedOf h, obj ∉ s.waiting →
    (doneTo h obj).Nodup ∧ ∀ o, o ∈ doneTo h obj ↔ o ∈ disposal obj
  drained : s.pc = .stopped → s.waiting = []

/-- The command of a caller does not get into the queue when there is no thread. -/
def InTime (s : CmdPriv) (e : CmdEvent) : Prop :=
  ∀ i, e = .enqueueTail i → s.pc = .stopped → s.pending[i]? = none

/-- A command goes to `rtw_disassoc_cmd_callback` with another result than `H2C_SUCCESS`: it is
filtered, or run without success. -/
def Leaks (s : CmdPriv) (env : TurnEnv) (obj : CmdObj) : Prop :=
  obj.cmdcode = cmdDisconnect ∧
    (rtwCmdFilter s env.hwInitCompleted obj = false ∨
      (obj.noIo = true ∨ env.alive = true) ∧ env.success = false)

/-- The thread does not let go of a command to disconnect without success. -/
def Frees (s : CmdPriv) (e : CmdEvent) : Prop :=
  ∀ env obj, e = .turn env → s.pc = .taken obj → ¬ Leaks s env obj

variable {s s' : CmdPriv} {h outs : List Out} {obj : CmdObj} {gone rejected : List CmdObj}
  {success : Bool}

/-! ### Steps -/

/-- What a step does with the commands. -/
inductive Effect (s s' : CmdPriv) (outs : List Out) : Prop
  | idle (waits : s'.waiting = s.waiting) (pend : s'.pending = s.pending)
      (ids : s'.nextId = s.nextId) (out : outs = [])
  | rejects (obj : CmdObj) (number : obj.id = s.nextId) (waits : s'.waiting = s.waiting)
      (pend : s'.pending = s.pending) (ids : s'.nextId = s.nextId + 1) (out : outs = rejection obj)
  | admits (obj : CmdObj) (number : obj.id = s.nextId) (size : obj.cmdsz ≤ maxCmdsz)
      (waits : s'.waiting = s.waiting) (pend : s'.pending = s.pending ++ [obj])
      (ids : s'.nextId = s.nextId + 1) (out : outs = [])
  | queues (obj : CmdObj) (pend : s.pending.Perm (obj :: s'.pending))
      (waits : s'.waiting = s.waiting ++ [obj]) (ids : s'.nextId = s.nextId)
      (out : outs = [.queued obj])
  | lets (obj : CmdObj) (waits : s.waiting = obj :: s'.waiting) (pend : s'.pending = s.pending)
      (ids : s'.nextId = s.nextId)
      (out : outs = disposal obj ∨ outs = .executed obj :: disposal obj)

/-- Only the command to disconnect has the callback that may not free it. -/
lemma cmdcode_of_disassoc {code : ℕ} {hdl : Bool}
    (h : wlancmds[code]? = some ⟨hdl, some .disassoc⟩) : code = cmdDisconnect := by
  have hone : ∀ i : Fin wlancmds.length,
      (wlancmds.get i).callback = some .disassoc → i.val = 1 := by decide
  obtain ⟨hlt, hget⟩ := List.getElem?_eq_some_iff.1 h
  exact hone ⟨code, hlt⟩ (by rw [List.get_eq_getElem, hget])

lemma postProcess_eq (h : obj.cmdcode = cmdDisconnect → success = true) :
    postProcess obj success = rtwSctxDoneErr obj ++ rtwFreeCmdObj obj := by
  rw [postProcess]
  congr 1
  split
  · next hdl heq => rw [rtwDisassocCmdCallback, if_pos (h (cmdcode_of_disassoc heq))]
  · rfl

/-- What is left undone. -/
lemma postProcess_of_disconnect (h : obj.cmdcode = cmdDisconnect) :
    postProcess obj false = rtwSctxDoneErr obj := by
  have hget : wlancmds[obj.cmdcode]? = some ⟨true, some .disassoc⟩ := by rw [h]; rfl
  rw [postProcess, hget]
  exact List.append_nil _

lemma freeExtra_of_disconnect (h : obj.cmdcode = cmdDisconnect) : freeExtra obj = [] :=
  if_neg fun hextra => absurd (h.symm.trans hextra.1) (by decide)

/-- A command that cannot be handled has no buffer besides. -/
lemma freeExtra_of_not_canHandle (hsize : obj.cmdsz ≤ maxCmdsz) (hno : canHandle obj = false) :
    freeExtra obj = [] := by
  rw [freeExtra, if_neg]
  rintro ⟨hcode, -⟩
  rw [canHandle, decide_eq_true hsize, hcode] at hno
  cases hno

lemma canHandle_of_disconnect (hsize : obj.cmdsz ≤ maxCmdsz) (h : obj.cmdcode = cmdDisconnect) :
    canHandle obj = true := by
  rw [canHandle, decide_eq_true hsize, h]
  rfl

lemma handleCmd_effect {env : TurnEnv} (hpc : s.pc = .taken obj) (hsize : obj.cmdsz ≤ maxCmdsz)
    (hfrees : ¬ Leaks s env obj) :
    Effect s (handleCmd s env obj).1 (handleCmd s env obj).2 := by
  have hwait : s.waiting = obj :: s.cmdQueue := by
    rw [CmdPriv.waiting, hpc]
    rfl
  rw [handleCmd]
  split_ifs with hno hdrop hhead
  · refine .lets obj hwait rfl rfl (.inl ?_)
    have hother : obj.cmdcode = cmdDisconnect → false = true := fun hcode =>
      hno.symm.trans (canHandle_of_disconnect hsize hcode)
    rw [postProcess_eq hother, disposal, freeExtra_of_not_canHandle hsize hno, List.nil_append]
  · refine .lets obj hwait rfl rfl (.inl ?_)
    have hother : obj.cmdcode = cmdDisconnect → false = true := fun hcode =>
      absurd ⟨hcode, .inl hdrop⟩ hfrees
    rw [postProcess_eq hother, disposal, List.append_assoc]
  · exact .idle (by rw [hwait]; rfl) rfl rfl rfl
  · refine .lets obj hwait rfl rfl (.inr ?_)
    have hgood : obj.cmdcode = cmdDisconnect → env.success = true := by
      intro hcode
      by_contra hfail
      refine hfrees ⟨hcode, .inr ⟨?_, Bool.eq_false_iff.2 hfail⟩⟩
      cases hio : obj.noIo with
      | true => exact .inl rfl
      | false =>
          cases halive : env.alive with
          | true => exact .inr rfl
          | false => exact absurd ⟨hio, halive⟩ hhead
    rw [postProcess_eq hgood, disposal, List.cons_append, List.append_assoc]

lemma rtwEnqueueCmd_effect (s : CmdPriv) (hwInit : Bool) (obj : CmdObj) :
    Effect s (rtwEnqueueCmd s hwInit obj).1 (rtwEnqueueCmd s hwInit obj).2 := by
  rw [rtwEnqueueCmd]
  dsimp only
  split_ifs with hfail
  · exact .rejects _ rfl rfl rfl rfl rfl
  · rw [not_or, Nat.not_lt] at hfail
    exact .admits { obj with id := s.nextId } rfl hfail.2 rfl rfl rfl rfl

lemma rtwEnqueueCmdTail_effect (s : CmdPriv) (i : ℕ) :
    Effect s (rtwEnqueueCmdTail s i).1 (rtwEnqueueCmdTail s i).2 := by
  rw [rtwEnqueueCmdTail]
  cases hget : s.pending[i]? with
  | none => exact .idle rfl rfl rfl rfl
  | some obj =>
      obtain ⟨hi, rfl⟩ := List.getElem?_eq_some_iff.1 hget
      refine .queues s.pending[i] ?_ ?_ rfl rfl
      · exact (List.getElem_cons_eraseIdx_perm hi).symm
      · exact (List.append_assoc ..).symm

/-- A step that only takes the thread to another place without a command. -/
lemma Effect.moves {pc : Pc} (hpc : s.pc.held = []) (hpc' : pc.held = []) (sema : ℕ)
    (running : Bool) :
    Effect s { s with pc := pc, cmdQueueSema := sema, cmdthdRunning := running } [] := by
  refine .idle ?_ rfl rfl rfl
  rw [CmdPriv.waiting, CmdPriv.waiting, hpc, hpc']

lemma waiting_eq_nil (hpc : s.pc.held = []) (hqueue : s.cmdQueue = []) : s.waiting = [] := by
  rw [CmdPriv.waiting, hpc, hqueue]
  rfl

/-- A step that takes the first command from the queue. -/
lemma Effect.takes {pc : Pc} {queue : List CmdObj} (hqueue : s.cmdQueue = obj :: queue)
    (hpc : s.pc.held = []) (hpc' : pc.held = [obj]) :
    Effect s { s with pc := pc, cmdQueue := queue } [] := by
  refine .idle ?_ rfl rfl rfl
  rw [CmdPriv.waiting, CmdPriv.waiting, hpc, hpc', hqueue]
  rfl

lemma threadTurn_effect (env : TurnEnv) (hsize : ∀ obj ∈ s.waiting, obj.cmdsz ≤ maxCmdsz)
    (hfrees : ∀ obj, s.pc = .taken obj → ¬ Leaks s env obj) :
    Effect s (threadTurn s env).1 (threadTurn s env).2 := by
  rw [threadTurn]
  cases hpc : s.pc with
  | stopped => exact .idle rfl rfl rfl rfl
  | wait =>
      have hheld : s.pc.held = [] := by rw [hpc]; rfl
      dsimp only
      split_ifs
      · exact .moves hheld rfl s.cmdQueueSema s.cmdthdRunning
      · exact .idle rfl rfl rfl rfl
      · exact .moves hheld rfl (s.cmdQueueSema - 1) s.cmdthdRunning
  | woken =>
      have hheld : s.pc.held = [] := by rw [hpc]; rfl
      dsimp only
      split_ifs
      · exact .moves hheld rfl s.cmdQueueSema s.cmdthdRunning
      · exact .moves hheld rfl s.cmdQueueSema s.cmdthdRunning
      · exact .moves hheld rfl s.cmdQueueSema s.cmdthdRunning
  | next =>
      have hheld : s.pc.held = [] := by rw [hpc]; rfl
      dsimp only
      split_ifs
      · exact .moves hheld rfl s.cmdQueueSema s.cmdthdRunning
      · cases hqueue : s.cmdQueue with
        | nil => exact .idle (waiting_eq_nil hheld hqueue).symm rfl rfl rfl
        | cons obj queue => exact .takes hqueue hheld rfl
  | taken obj =>
      refine handleCmd_effect hpc (hsize obj ?_) (hfrees obj hpc)
      rw [CmdPriv.waiting, hpc]
      exact List.mem_cons_self
  | leaving =>
      have hheld : s.pc.held = [] := by rw [hpc]; rfl
      exact .moves hheld rfl s.cmdQueueSema false
  | drain =>
      have hheld : s.pc.held = [] := by rw [hpc]; rfl
      dsimp only
      cases hqueue : s.cmdQueue with
      | nil => exact .idle (waiting_eq_nil hheld hqueue).symm rfl rfl rfl
      | cons obj queue => exact .takes hqueue hheld rfl
  | dropping obj =>
      refine .lets obj ?_ rfl rfl (.inl rfl)
      rw [CmdPriv.waiting, hpc]
      rfl

lemma cmdStep_effect {e : CmdEvent} (hfrees : Frees s e)
    (hsize : ∀ obj ∈ s.waiting, obj.cmdsz ≤ maxCmdsz) :
    Effect s (cmdStep s e).1 (cmdStep s e).2 := by
  cases e with
  | enqueue hwInit obj => exact rtwEnqueueCmd_effect s hwInit obj
  | enqueueTail i => exact rtwEnqueueCmdTail_effect s i
  | enqueueUp =>
      rw [cmdStep, rtwEnqueueCmdUp]
      split_ifs
      · exact .idle rfl rfl rfl rfl
      · exact .idle rfl rfl rfl rfl
  | upSema => exact .idle rfl rfl rfl rfl
  | start =>
      rw [cmdStep]
      split_ifs with hpc
      · exact .moves (by rw [hpc]; rfl) rfl s.cmdQueueSema true
      · exact .idle rfl rfl rfl rfl
  | turn env => exact threadTurn_effect env hsize fun obj hpc => hfrees env obj rfl hpc

/-! ### The invariant -/

/-- The numbers of the commands are those of different allocations, all made before. -/
structure Numbered (n : ℕ) (objs : List CmdObj) : Prop where
  nodup : (objs.map CmdObj.id).Nodup
  lt : ∀ obj ∈ objs, obj.id < n

lemma Numbered.perm {n : ℕ} {objs objs' : List CmdObj} (h : Numbered n objs)
    (hperm : objs.Perm objs') : Numbered n objs' where
  nodup := (hperm.map CmdObj.id).nodup_iff.1 h.nodup
  lt obj hobj := h.lt obj (hperm.mem_iff.2 hobj)

lemma Numbered.cons {n : ℕ} {objs : List CmdObj} (h : Numbered n objs) (hobj : obj.id = n) :
    Numbered (n + 1) (obj :: objs) where
  nodup := by
    rw [List.map_cons, List.nodup_cons]
    refine ⟨fun hmem => ?_, h.nodup⟩
    obtain ⟨c, hc, hid⟩ := List.mem_map.1 hmem
    have := h.lt c hc
    omega
  lt := by
    intro c hc
    rcases List.mem_cons.1 hc with rfl | hc
    · omega
    · have := h.lt c hc
      omega

/-- The commands that have left the queue, and those that have not been queued, with all that has
been done to them. -/
structure Account (s : CmdPriv) (h : List Out) (gone rejected : List CmdObj) : Prop where
  queued : queuedOf h = gone ++ s.waiting
  order : (executedOf h).Sublist gone
  done : (h.filter Out.disposes).Perm (gone.flatMap disposal ++ rejected.flatMap rejection)
  numbered : Numbered s.nextId ((gone ++ s.waiting) ++ (rejected ++ s.pending))
  size : ∀ obj ∈ s.waiting ++ s.pending, obj.cmdsz ≤ maxCmdsz

lemma of_mem_disposal {o : Out} (ho : o ∈ disposal obj) : o.disposes = true ∧ o.obj = obj := by
  rw [disposal, freeExtra, rtwSctxDoneErr, rtwFreeCmdObj] at ho
  simp only [List.mem_append, List.mem_ite_nil_right, List.mem_singleton] at ho
  rcases ho with (⟨-, rfl⟩ | ⟨-, rfl⟩) | (⟨-, rfl⟩ | ⟨-, rfl⟩) | rfl <;> exact ⟨rfl, rfl⟩

lemma of_mem_rejection {o : Out} (ho : o ∈ rejection obj) : o.disposes = true ∧ o.obj = obj := by
  refine of_mem_disposal ?_
  rw [disposal, List.append_assoc, List.mem_append, List.mem_append]
  rcases List.mem_append.1 ho with hextra | hfree
  · exact .inl hextra
  · exact .inr (.inr hfree)

lemma queuedOf_append (h outs : List Out) : queuedOf (h ++ outs) = queuedOf h ++ queuedOf outs :=
  List.filterMap_append

lemma executedOf_append (h outs : List Out) :
    executedOf (h ++ outs) = executedOf h ++ executedOf outs := List.filterMap_append

lemma queuedOf_eq_nil (hd : ∀ o ∈ outs, o.disposes = true) : queuedOf outs = [] := by
  refine List.filterMap_eq_nil_iff.2 fun o ho => ?_
  have hdisp := hd o ho
  cases o with
  | queued obj => cases hdisp
  | executed obj => rfl
  | freed obj part => rfl
  | signalled obj => rfl

lemma executedOf_eq_nil (hd : ∀ o ∈ outs, o.disposes = true) : executedOf outs = [] := by
  refine List.filterMap_eq_nil_iff.2 fun o ho => ?_
  have hdisp := hd o ho
  cases o with
  | queued obj => rfl
  | executed obj => cases hdisp
  | freed obj part => rfl
  | signalled obj => rfl

lemma Account.idle (ha : Account s h gone rejected) (waits : s'.waiting = s.waiting)
    (pend : s'.pending = s.pending) (ids : s'.nextId = s.nextId) :
    Account s' h gone rejected where
  queued := by rw [ha.queued, waits]
  order := ha.order
  done := ha.done
  numbered := by
    rw [waits, pend, ids]
    exact ha.numbered
  size := by
    rw [waits, pend]
    exact ha.size

lemma Account.rejects (ha : Account s h gone rejected) (number : obj.id = s.nextId)
    (waits : s'.waiting = s.waiting) (pend : s'.pending = s.pending)
    (ids : s'.nextId = s.nextId + 1) : Account s' (h ++ rejection obj) gone (obj :: rejected) where
  queued := by
    rw [queuedOf_append, queuedOf_eq_nil fun o ho => (of_mem_rejection ho).1, List.append_nil,
      waits]
    exact ha.queued
  order := by
    rw [executedOf_append, executedOf_eq_nil fun o ho => (of_mem_rejection ho).1, List.append_nil]
    exact ha.order
  done := by
    rw [List.filter_append, List.filter_eq_self.2 fun o ho => (of_mem_rejection ho).1,
      List.flatMap_cons]
    refine (ha.done.append_right _).trans ?_
    rw [List.append_assoc]
    exact List.perm_append_comm.append_left _
  numbered := by
    rw [waits, pend, ids]
    exact (ha.numbered.cons number).perm List.perm_middle.symm
  size := by
    rw [waits, pend]
    exact ha.size

lemma Account.admits (ha : Account s h gone rejected) (number : obj.id = s.nextId)
    (size : obj.cmdsz ≤ maxCmdsz) (waits : s'.waiting = s.waiting)
    (pend : s'.pending = s.pending ++ [obj]) (ids : s'.nextId = s.nextId + 1) :
    Account s' h gone rejected where
  queued := by rw [ha.queued, waits]
  order := ha.order
  done := ha.done
  numbered := by
    have hlast : gone ++ s.waiting ++ (rejected ++ (s.pending ++ [obj])) =
        gone ++ s.waiting ++ (rejected ++ s.pending) ++ [obj] := by
      simp only [List.append_assoc]
    rw [waits, pend, ids, hlast]
    exact (ha.numbered.cons number).perm (List.perm_append_singleton obj _).symm
  size := by
    intro c hc
    rw [waits, pend, ← List.append_assoc] at hc
    rcases List.mem_append.1 hc with hold | hnew
    · exact ha.size c hold
    · rw [List.mem_singleton.1 hnew]
      exact size

lemma Account.queues (ha : Account s h gone rejected) (pend : s.pending.Perm (obj :: s'.pending))
    (waits : s'.waiting = s.waiting ++ [obj]) (ids : s'.nextId = s.nextId) :
    Account s' (h ++ [.queued obj]) gone rejected where
  queued := by
    rw [queuedOf_append, ha.queued, waits, List.append_assoc]
    rfl
  order := by
    rw [executedOf_append]
    exact (List.append_nil _).symm ▸ ha.order
  done := by
    rw [List.filter_append]
    exact (List.append_nil _).symm ▸ ha.done
  numbered := by
    rw [waits, ids]
    refine ha.numbered.perm ?_
    have hright : (rejected ++ s.pending).Perm ([obj] ++ (rejected ++ s'.pending)) :=
      (pend.append_left rejected).trans List.perm_middle
    refine (hright.append_left _).trans ?_
    rw [← List.append_assoc, List.append_assoc gone]
  size := by
    intro c hc
    refine ha.size c ?_
    rw [waits, List.append_assoc] at hc
    rcases List.mem_append.1 hc with hold | hnew
    · exact List.mem_append_left _ hold
    · exact List.mem_append_right _ (pend.mem_iff.2 hnew)

lemma Account.lets (ha : Account s h gone rejected) (waits : s.waiting = obj :: s'.waiting)
    (pend : s'.pending = s.pending) (ids : s'.nextId = s.nextId)
    (out : outs = disposal obj ∨ outs = .executed obj :: disposal obj) :
    Account s' (h ++ outs) (gone ++ [obj]) rejected := by
  have hdisp : ∀ o ∈ disposal obj, o.disposes = true := fun o ho => (of_mem_disposal ho).1
  have hqueued : queuedOf outs = [] := by
    rcases out with rfl | rfl
    · exact queuedOf_eq_nil hdisp
    · rw [← List.singleton_append, queuedOf_append, queuedOf_eq_nil hdisp]
      rfl
  have hexecuted : (executedOf outs).Sublist [obj] := by
    rcases out with rfl | rfl
    · rw [executedOf_eq_nil hdisp]
      exact List.nil_sublist _
    · rw [← List.singleton_append, executedOf_append, executedOf_eq_nil hdisp]
      exact List.Sublist.refl [obj]
  have hdone : outs.filter Out.disposes = disposal obj := by
    rcases out with rfl | rfl
    · exact List.filter_eq_self.2 hdisp
    · exact List.filter_eq_self.2 hdisp
  refine ⟨?_, ?_, ?_, ?_, ?_⟩
  · rw [queuedOf_append, hqueued, List.append_nil, ha.queued, waits, List.append_assoc]
    rfl
  · rw [executedOf_append]
    exact ha.order.append hexecuted
  · rw [List.filter_append, hdone, List.flatMap_append]
    refine (ha.done.append_right _).trans ?_
    rw [List.append_assoc, List.append_assoc, List.flatMap_singleton]
    exact List.perm_append_comm.append_left _
  · have hsame : (gone ++ [obj] ++ s'.waiting) = gone ++ s.waiting := by
      rw [waits, List.append_assoc]
      rfl
    rw [hsame, pend, ids]
    exact ha.numbered
  · intro c hc
    refine ha.size c ?_
    rw [waits]
    rw [pend] at hc
    exact List.mem_cons_of_mem _ hc

lemma Account.step (ha : Account s h gone rejected) (he : Effect s s' outs) :
    ∃ gone' rejected', Account s' (h ++ outs) gone' rejected' := by
  cases he with
  | idle waits pend ids out =>
      subst out
      rw [List.append_nil]
      exact ⟨gone, rejected, ha.idle waits pend ids⟩
  | rejects obj number waits pend ids out =>
      subst out
      exact ⟨gone, obj :: rejected, ha.rejects number waits pend ids⟩
  | admits obj number size waits pend ids out =>
      subst out
      rw [List.append_nil]
      exact ⟨gone, rejected, ha.admits number size waits pend ids⟩
  | queues obj pend waits ids out =>
      subst out
      exact ⟨gone, rejected, ha.queues pend waits ids⟩
  | lets obj waits pend ids out => exact ⟨gone ++ [obj], rejected, ha.lets waits pend ids out⟩

/-! ### From the account to the commands -/

lemma filter_about_of_eq {outs : List Out} {x : CmdObj} (hd : ∀ o ∈ outs, o.disposes = true)
    (ho : ∀ o ∈ outs, o.obj = obj) :
    outs.filter (fun o => o.disposes && o.obj.id == x.id) =
      if obj.id = x.id then outs else [] := by
  split_ifs with hid
  · refine List.filter_eq_self.2 fun o hmem => ?_
    rw [hd o hmem, ho o hmem, hid, beq_self_eq_true]
    rfl
  · refine List.filter_eq_nil_iff.2 fun o hmem => ?_
    rw [ho o hmem, beq_eq_false_iff_ne.2 hid, Bool.and_false]
    exact Bool.false_ne_true

/-- Of all that is done to some commands, what is done to one of them. -/
lemma filter_flatMap {f : CmdObj → List Out} (hf : ∀ c, ∀ o ∈ f c, o.disposes = true ∧ o.obj = c)
    {objs : List CmdObj} (hnd : (objs.map CmdObj.id).Nodup) {x : CmdObj} :
    (x ∈ objs → (objs.flatMap f).filter (fun o => o.disposes && o.obj.id == x.id) = f x) ∧
      (x.id ∉ objs.map CmdObj.id →
        (objs.flatMap f).filter (fun o => o.disposes && o.obj.id == x.id) = []) := by
  induction objs with
  | nil => exact ⟨fun hx => absurd hx List.not_mem_nil, fun _ => rfl⟩
  | cons c objs ih =>
      rw [List.map_cons, List.nodup_cons] at hnd
      obtain ⟨hin, hout⟩ := ih hnd.2
      rw [List.flatMap_cons, List.filter_append,
        filter_about_of_eq (fun o ho => (hf c o ho).1) fun o ho => (hf c o ho).2]
      constructor
      · intro hx
        rcases List.mem_cons.1 hx with rfl | hx
        · rw [if_pos rfl, hout hnd.1, List.append_nil]
        · have hne : c.id ≠ x.id := fun heq => hnd.1 (heq ▸ List.mem_map_of_mem hx)
          rw [if_neg hne, hin hx, List.nil_append]
      · intro hx
        rw [List.map_cons, List.mem_cons, not_or] at hx
        rw [if_neg (Ne.symm hx.1), hout hx.2, List.nil_append]

lemma nodup_disposal (obj : CmdObj) : (disposal obj).Nodup := by
  rw [disposal, freeExtra, rtwSctxDoneErr, rtwFreeCmdObj]
  split_ifs <;> simp

lemma Account.doneTo_perm (ha : Account s h gone rejected) (obj : CmdObj) :
    (doneTo h obj).Perm
      ((gone.flatMap disposal).filter (fun o => o.disposes && o.obj.id == obj.id) ++
        (rejected.flatMap rejection).filter fun o => o.disposes && o.obj.id == obj.id) := by
  have hfilter := ha.done.filter fun o => o.disposes && o.obj.id == obj.id
  rw [List.filter_append, List.filter_filter] at hfilter
  rw [doneTo]
  convert hfilter using 2
  funext o
  cases o.disposes <;> simp

lemma Account.nodup_ids (ha : Account s h gone rejected) :
    (gone.map CmdObj.id).Nodup ∧ (rejected.map CmdObj.id).Nodup ∧
      (∀ obj ∈ gone ++ s.waiting, obj.id ∉ rejected.map CmdObj.id) ∧
      (∀ obj ∈ s.waiting, obj.id ∉ gone.map CmdObj.id) := by
  have hnd := ha.numbered.nodup
  rw [List.map_append, List.map_append, List.map_append, List.nodup_append, List.nodup_append,
    List.nodup_append] at hnd
  obtain ⟨⟨hgone, -, hapart⟩, ⟨hrejected, -, -⟩, hother⟩ := hnd
  refine ⟨hgone, hrejected, fun obj hobj hmem => ?_, fun obj hobj hmem => ?_⟩
  · rw [← List.map_append] at hother
    exact hother obj.id (List.mem_map_of_mem hobj) obj.id (List.mem_append_left _ hmem) rfl
  · exact hapart obj.id hmem obj.id (List.mem_map_of_mem hobj) rfl

lemma Account.settled (ha : Account s h gone rejected)
    (hdrained : s.pc = .stopped → s.waiting = []) : Settled s h := by
  obtain ⟨hgone, hrejected, hother, hapart⟩ := ha.nodup_ids
  have hnd : (gone ++ s.waiting).Nodup := by
    have hids := ha.numbered.nodup
    rw [List.map_append] at hids
    exact List.Nodup.of_map CmdObj.id (List.nodup_append.1 hids).1
  refine ⟨ha.queued ▸ hnd, ha.queued ▸ ⟨gone, rfl⟩, ?_, ?_, ?_, hdrained⟩
  · rw [ha.queued]
    exact ha.order.trans (List.sublist_append_left _ _)
  · intro obj hobj
    have hperm := ha.doneTo_perm obj
    rw [(filter_flatMap (fun c o ho => of_mem_disposal ho) hgone).2 (hapart obj hobj),
      (filter_flatMap (fun c o ho => of_mem_rejection ho) hrejected).2
        (hother obj (List.mem_append_right _ hobj))] at hperm
    exact hperm.eq_nil
  · intro obj hobj hleft
    rw [ha.queued] at hobj
    have hmem : obj ∈ gone := (List.mem_append.1 hobj).resolve_right hleft
    have hperm := ha.doneTo_perm obj
    rw [(filter_flatMap (fun c o ho => of_mem_disposal ho) hgone).1 hmem,
      (filter_flatMap (fun c o ho => of_mem_rejection ho) hrejected).2 (hother obj hobj),
      List.append_nil] at hperm
    exact ⟨hperm.nodup_iff.2 (nodup_disposal obj), fun o => hperm.mem_iff⟩

/-! ### Runs -/

lemma account_nil : Account {} [] [] [] where
  queued := rfl
  order := List.Sublist.refl _
  done := .refl _
  numbered := ⟨List.nodup_nil, fun _ hobj => absurd hobj List.not_mem_nil⟩
  size := fun _ hobj => absurd hobj List.not_mem_nil

/-- Over every run in which the callbacks free the commands there is an account. -/
lemma exists_account {es : List CmdEvent} (hes : Along cmdStep Frees {} es) :
    ∃ gone rejected, Account (final cmdStep {} es) (outputs cmdStep {} es) gone rejected := by
  have hstep : ∀ s h e, Frees s e → (∃ gone rejected, Account s h gone rejected) →
      ∃ gone rejected, Account (cmdStep s e).1 (h ++ (cmdStep s e).2) gone rejected := by
    rintro s h e hfrees ⟨gone, rejected, ha⟩
    exact ha.step (cmdStep_effect hfrees fun obj hobj => ha.size obj (List.mem_append_left _ hobj))
  exact history_induction hstep ⟨[], [], account_nil⟩ hes

lemma handleCmd_pc (env : TurnEnv) (obj : CmdObj) : (handleCmd s env obj).1.pc ≠ .stopped := by
  intro hpc
  rw [handleCmd] at hpc
  split_ifs at hpc

/-- The thread leaves an empty queue. -/
lemma threadTurn_stopped {env : TurnEnv} (hs : s.pc = .stopped → s.waiting = [])
    (hpc : (threadTurn s env).1.pc = .stopped) : (threadTurn s env).1.waiting = [] := by
  rw [threadTurn] at hpc ⊢
  cases hat : s.pc with
  | stopped => exact hs hat
  | wait =>
      rw [hat] at hpc
      dsimp only at hpc
      split_ifs at hpc
      exact absurd (hat.symm.trans hpc) (by decide)
  | woken =>
      rw [hat] at hpc
      dsimp only at hpc
      split_ifs at hpc
  | next =>
      rw [hat] at hpc
      dsimp only at hpc
      split_ifs at hpc
      cases hqueue : s.cmdQueue with
      | nil => rw [hqueue] at hpc; cases hpc
      | cons obj queue => rw [hqueue] at hpc; cases hpc
  | taken obj =>
      rw [hat] at hpc
      exact absurd hpc (handleCmd_pc env obj)
  | leaving => rw [hat] at hpc; cases hpc
  | drain =>
      rw [hat] at hpc
      cases hqueue : s.cmdQueue with
      | nil => rfl
      | cons obj queue => rw [hqueue] at hpc; cases hpc
  | dropping obj => rw [hat] at hpc; cases hpc

/-- If no caller comes late, the queue is empty when the thread has left. -/
lemma waiting_of_stopped {e : CmdEvent} (hs : s.pc = .stopped → s.waiting = []) (he : InTime s e)
    (hpc : (cmdStep s e).1.pc = .stopped) : (cmdStep s e).1.waiting = [] := by
  cases e with
  | enqueue hwInit obj =>
      rw [cmdStep, rtwEnqueueCmd] at hpc ⊢
      split_ifs at hpc ⊢
      · exact hs hpc
      · exact hs hpc
  | enqueueTail i =>
      rw [cmdStep, rtwEnqueueCmdTail] at hpc ⊢
      cases hget : s.pending[i]? with
      | none =>
          rw [hget] at hpc
          exact hs hpc
      | some obj =>
          rw [hget] at hpc
          rw [he i rfl hpc] at hget
          cases hget
  | enqueueUp =>
      rw [cmdStep, rtwEnqueueCmdUp] at hpc ⊢
      split_ifs at hpc ⊢
      · exact hs hpc
      · exact hs hpc
  | upSema => exact hs hpc
  | start =>
      rw [cmdStep] at hpc ⊢
      split_ifs at hpc ⊢ with hstopped
      exact absurd hpc hstopped
  | turn env => exact threadTurn_stopped hs hpc

/-- A command that gets into the queue when there is no thread waits there. -/
lemma not_settled_of_late {e : CmdEvent} (he : ¬ InTime s e) :
    ¬ Settled (cmdStep s e).1 (h ++ (cmdStep s e).2) := by
  intro hset
  simp only [InTime, not_forall] at he
  obtain ⟨i, rfl, hpc, hsome⟩ := he
  obtain ⟨obj, hget⟩ := Option.ne_none_iff_exists'.1 hsome
  have hstep : cmdStep s (.enqueueTail i) = rtwEnqueueCmdTail s i := rfl
  have hdrained := hset.drained
  rw [hstep, rtwEnqueueCmdTail, hget] at hdrained
  have hnil := hdrained hpc
  rw [CmdPriv.waiting, List.append_eq_nil_iff] at hnil
  exact List.append_ne_nil_of_right_ne_nil _ (List.cons_ne_nil obj []) hnil.2

/-- What the thread does with a command that is not freed. -/
lemma handleCmd_of_leaks {env : TurnEnv} (hleak : Leaks s env obj) :
    (handleCmd s env obj).1 = { s with pc := .next } ∧
      ∀ o ∈ (handleCmd s env obj).2, o = .executed obj ∨ o = .signalled obj := by
  obtain ⟨hcode, hres⟩ := hleak
  have hsctx : ∀ o ∈ rtwSctxDoneErr obj, o = .executed obj ∨ o = .signalled obj := by
    intro o ho
    rw [rtwSctxDoneErr, List.mem_ite_nil_right, List.mem_singleton] at ho
    exact .inr ho.2
  rw [handleCmd, postProcess_of_disconnect hcode, freeExtra_of_disconnect hcode, List.nil_append]
  split_ifs with hno hdrop hhead
  · exact ⟨rfl, hsctx⟩
  · exact ⟨rfl, hsctx⟩
  · -- it is not put back
    rcases hres with hfilter | ⟨hio | halive, -⟩
    · exact absurd hfilter hdrop
    · exact absurd (hhead.1.symm.trans hio) (by decide)
    · exact absurd (hhead.2.symm.trans halive) (by decide)
  · obtain ⟨-, hfail⟩ := hres.resolve_left hdrop
    rw [hfail, postProcess_of_disconnect hcode]
    refine ⟨rfl, fun o ho => ?_⟩
    rcases List.mem_cons.1 ho with rfl | ho
    · exact .inl rfl
    · exact hsctx o ho

/-- A command that its callback does not free is lost. -/
lemma not_settled_of_leak {e : CmdEvent} (hs : Settled s h) (he : ¬ Frees s e) :
    ¬ Settled (cmdStep s e).1 (h ++ (cmdStep s e).2) := by
  intro hset
  simp only [Frees, not_forall, not_not] at he
  obtain ⟨env, obj, rfl, hpc, hleak⟩ := he
  have hwait : s.waiting = obj :: s.cmdQueue := by
    rw [CmdPriv.waiting, hpc]
    rfl
  have hmem : obj ∈ s.waiting := by
    rw [hwait]
    exact List.mem_cons_self
  have hstep : cmdStep s (.turn env) = handleCmd s env obj := by
    rw [cmdStep, threadTurn, hpc]
  obtain ⟨hnext, hout⟩ := handleCmd_of_leaks hleak
  rw [hstep] at hset
  have hleft : obj ∉ (handleCmd s env obj).1.waiting := by
    have hnd := hs.place.sublist.nodup hs.once
    rw [hwait, List.nodup_cons] at hnd
    rw [hnext]
    exact hnd.1
  have hqueued : obj ∈ queuedOf (h ++ (handleCmd s env obj).2) := by
    rw [queuedOf_append]
    exact List.mem_append_left _ (hs.place.subset hmem)
  have hfreed : .freed obj .obj ∈ doneTo (h ++ (handleCmd s env obj).2) obj :=
    ((hset.done obj hqueued hleft).2 _).2
      (List.mem_append_right _ (List.mem_append_right _ List.mem_cons_self))
  rw [doneTo, List.filter_append] at hfreed
  rcases List.mem_append.1 hfreed with hbefore | hnow
  · rw [show h.filter _ = [] from hs.untouched obj hmem] at hbefore
    exact List.not_mem_nil hbefore
  · rcases hout _ (List.mem_of_mem_filter hnow) with heq | heq <;> cases heq

/-- In every state of a run each command is in its place and is done with once, exactly when no
caller gets the lock of the queue after the thread has left, and no command to disconnect is
filtered or run without success. -/
theorem cmdThread_settled_iff (es : List CmdEvent) :
    (∀ pre, pre <+: es → Settled (final cmdStep {} pre) (outputs cmdStep {} pre)) ↔
      Along cmdStep (fun s e => InTime s e ∧ Frees s e) {} es := by
  constructor
  · intro h
    refine along_iff.2 fun pre e post hsplit => ?_
    have hbefore := h pre ⟨e :: post, hsplit.symm⟩
    have hset := h (pre ++ [e]) ⟨post, by rw [hsplit, List.append_assoc]; rfl⟩
    rw [final_concat, outputs_concat] at hset
    refine ⟨?_, ?_⟩
    · by_contra hlate
      exact not_settled_of_late hlate hset
    · by_contra hleak
      exact not_settled_of_leak hbefore hleak hset
  · rintro hes pre ⟨post, rfl⟩
    have hpre := along_iff.1 (Along.left hes)
    have h : Along cmdStep InTime {} pre := along_iff.2 fun p e q hsplit => (hpre p e q hsplit).1
    have hfrees : Along cmdStep Frees {} pre :=
      along_iff.2 fun p e q hsplit => (hpre p e q hsplit).2
    obtain ⟨gone, rejected, ha⟩ := exists_account hfrees
    have hstep : ∀ s e, InTime s e → (s.pc = .stopped → s.waiting = []) →
        (cmdStep s e).1.pc = .stopped → (cmdStep s e).1.waiting = [] :=
      fun s e he hs => waiting_of_stopped hs he
    exact ha.settled (final_induction (I := fun s => s.pc = .stopped → s.waiting = []) hstep
      (fun _ => rfl) h)

/-- A caller is late: the thread is interrupted and leaves between its look and the lock. -/
theorem cmdThread_late :
    let env : TurnEnv := ⟨true, true, true, true, true⟩
    let obj : CmdObj := ⟨0, cmdSetChanplan, 0, false, false, false, true, false⟩
    let es := [.start, .enqueue true obj, .turn env, .turn env, .turn env, .enqueueTail 0]
    .queued obj ∈ outputs cmdStep {} es ∧
      ¬ ∀ pre, pre <+: es → Settled (final cmdStep {} pre) (outputs cmdStep {} pre) := by
  intro env obj es
  refine ⟨by decide, fun h => ?_⟩
  exact List.cons_ne_nil _ _ ((h es (List.prefix_refl es)).drained rfl)

end Rtl8723du.Cmd
