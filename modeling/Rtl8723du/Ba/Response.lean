import Rtl8723du.Ba.Action

/-!
# ADDBA responses

The response to a request is sent by the command thread, but the dialog token, the policy and the
timeout are not in the command: they are taken from `ADDBA_req`, where the request received last
is.  So a response carries those of its request exactly if the last request before it has them.
-/

namespace Rtl8723du.Ba

open Lib

/-- The requests agree in what a response repeats. -/
def Agrees (q r : AddbaRequest) : Prop :=
  q.dialogToken = r.dialogToken ∧ policyOf q.baParaSet = policyOf r.baParaSet ∧
    q.baTimeoutValue = r.baTimeoutValue

instance (q r : AddbaRequest) : Decidable (Agrees q r) := by
  rw [Agrees]
  infer_instance

/-- A response carries what is in its request. -/
def Right : Log → Prop
  | .rsp parm token param timeout =>
      token = parm.cause.dialogToken ∧ policyOf param = policyOf parm.cause.baParaSet ∧
        timeout = parm.cause.baTimeoutValue
  | _ => True

/-- The request of an entry. -/
def gotReq : Log → Option AddbaRequest
  | .got _ req => some req
  | _ => none

/-- The request received last. -/
def lastGot (log : List Log) : Option AddbaRequest := (log.filterMap gotReq).getLast?

/-- Where a response is sent, the request received last agrees with the one that it is for. -/
def Meets (w : World) : Event → Prop
  | .attempt true _ _ =>
      match w.ad.running, lastGot w.log with
      | some (parm, _), some q => Agrees q parm.cause
      | _, _ => True
  | _ => True

instance : DecidablePred Right := fun x => by
  cases x with
  | rsp parm token param timeout => exact inferInstanceAs (Decidable (_ ∧ _ ∧ _))
  | _ => exact inferInstanceAs (Decidable True)

instance (w : World) (e : Event) : Decidable (Meets w e) := by
  unfold Meets
  split
  · split <;> infer_instance
  · infer_instance

/-! ### The parameter set -/

/-- A field that leaves out the policy is put in. -/
lemma policyOf_replace {mask : BitVec 16} (hmask : policyOf mask = false) (param x : BitVec 16) :
    policyOf (param &&& ~~~mask ||| x &&& mask) = policyOf param := by
  unfold policyOf at hmask ⊢
  simp only [BitVec.getLsbD_or, BitVec.getLsbD_and, BitVec.getLsbD_not, hmask]
  simp

/-- The bit for A-MSDUs is not the policy. -/
lemma policyOf_amsdu (param : BitVec 16) :
    policyOf (param &&& ~~~1#16) = policyOf param ∧ policyOf (param ||| 1#16) = policyOf param := by
  constructor
  · simp [policyOf]
  · simp [policyOf]

/-- The policy of a request is that of the response. -/
lemma policyOf_rspParamSet (ad : Adapter) (param : BitVec 16) (raddr : List UInt8) (tid : ℕ)
    (size : BitVec 8) : policyOf (rspParamSet ad param raddr tid size) = policyOf param := by
  have hfields (x y : BitVec 16) : policyOf
      ((param &&& ~~~0x003C#16 ||| x &&& 0x003C#16) &&& ~~~0xFFC0#16 ||| y &&& 0xFFC0#16) =
        policyOf param :=
    (policyOf_replace rfl _ _).trans (policyOf_replace rfl _ _)
  unfold rspParamSet
  dsimp only
  split
  · rw [(policyOf_amsdu _).1]
    split
    · exact hfields _ _
    split
    · rw [(policyOf_amsdu _).1, hfields]
    split
    · rw [(policyOf_amsdu _).2, hfields]
    · exact hfields _ _
  · split
    · exact hfields _ _
    split
    · rw [(policyOf_amsdu _).1, hfields]
    split
    · rw [(policyOf_amsdu _).2, hfields]
    · exact hfields _ _

/-- A response is right if `ADDBA_req` agrees with the request that it is for. -/
lemma right_issueAddbaRsp (ad : Adapter) (parm : AddBaRspParm) :
    Right (issueAddbaRsp ad parm) ↔ Agrees ad.addbaReq parm.cause := by
  simp only [issueAddbaRsp, Right, Agrees, policyOf_rspParamSet]

/-! ### Steps -/

/-- The responses that are still to be sent. -/
def pending (ad : Adapter) : List AddBaRspParm :=
  (ad.running.map Prod.fst).toList ++ ad.cmdQueue.filterMap fun
    | .addBaRsp parm => some parm
    | .addBaReq _ _ => none

/-- A response is for a request of its peer and its TID. -/
def Caused (log : List Log) (parm : AddBaRspParm) : Prop :=
  .got parm.addr parm.cause ∈ log ∧ parm.tid = tidOf parm.cause.baParaSet

/-- An entry that is neither a request received nor a response sent. -/
def Plain (x : Log) : Prop :=
  gotReq x = none ∧ ∀ parm token param timeout, x ≠ .rsp parm token param timeout

/-- What an event does to the responses. -/
inductive Effect (ad : Adapter) (e : Event) : Adapter → List Log → Prop
  /-- No request comes, and no response is sent. -/
  | quiet {ad' : Adapter} {log : List Log} (hpend : ∀ parm ∈ pending ad', parm ∈ pending ad)
      (hreq : ad'.addbaReq = ad.addbaReq) (hlog : ∀ x ∈ log, Plain x)
      (he : ∀ acked cannotRun, e = .attempt true acked cannotRun → ad.running = none) :
      Effect ad e ad' log
  /-- A request comes. -/
  | got {ad' : Adapter} {addr : List UInt8} {req : AddbaRequest} {log : List Log}
      (hpend : ∀ parm ∈ pending ad', parm ∈ pending ad ∨ Caused [.got addr req] parm)
      (hreq : ad'.addbaReq = req) (hlog : ∀ x ∈ log, Plain x)
      (he : ∀ sent acked cannotRun, e ≠ .attempt sent acked cannotRun) :
      Effect ad e ad' (.got addr req :: log)
  /-- A response is sent. -/
  | rsp {ad' : Adapter} {parm : AddBaRspParm} {i : ℕ} {acked cannotRun : Bool}
      (hpend : ∀ parm ∈ pending ad', parm ∈ pending ad) (hreq : ad'.addbaReq = ad.addbaReq)
      (hrun : ad.running = some (parm, i)) (he : e = .attempt true acked cannotRun) :
      Effect ad e ad' [issueAddbaRsp ad parm]

variable {ad : Adapter} {e : Event} {addr : List UInt8} {tid : ℕ}

lemma plain_outside {p : Prop} [Decidable p] : ∀ x ∈ if p then [Log.outside] else [], Plain x := by
  intro x hx
  split at hx
  · obtain rfl := List.mem_singleton.1 hx
    exact ⟨rfl, fun _ _ _ _ => by simp⟩
  · exact absurd hx List.not_mem_nil

/-- Only the stations and the token change. -/
lemma effect_of_eq {ad' : Adapter} {log : List Log} (hrun : ad'.running = ad.running)
    (hqueue : ad'.cmdQueue = ad.cmdQueue) (hreq : ad'.addbaReq = ad.addbaReq)
    (hlog : ∀ x ∈ log, Plain x) (he : ∀ sent acked cannotRun, e ≠ .attempt sent acked cannotRun) :
    Effect ad e ad' log := by
  refine .quiet (fun parm hparm => ?_) hreq hlog fun acked cannotRun h => absurd h (he _ _ _)
  rwa [pending, hrun, hqueue] at hparm

/-- `OnAction_back` processes a request, or only the stations change. -/
lemma onActionBack_cases {P : Adapter × List Log × ℕ → Prop} (f : List UInt8) (accept : Bool)
    (size : BitVec 8) (queued : Bool)
    (hgot : P (processAddbaReq { ad with addbaReq := .ofFrame f } ((f.drop 10).take 6) accept size
      queued, [.got ((f.drop 10).take 6) (.ofFrame f)], 33))
    (hquiet : ∀ (ad' : Adapter) (log : List Log) (n : ℕ), ad'.running = ad.running →
      ad'.cmdQueue = ad.cmdQueue → ad'.addbaReq = ad.addbaReq → (∀ x ∈ log, Plain x) →
        P (ad', log, n)) :
    P (onActionBack ad f accept size queued) := by
  have hnil : ∀ x ∈ ([] : List Log), Plain x := fun x hx => absurd hx List.not_mem_nil
  have hplain {x : Log} (hx : Plain x) : ∀ y ∈ [x], Plain y := by
    intro y hy
    rwa [List.mem_singleton.1 hy]
  rw [onActionBack]
  split
  · exact hquiet ad [] _ rfl rfl rfl hnil
  split
  · exact hquiet ad [] _ rfl rfl rfl hnil
  split
  · exact hquiet ad [] _ rfl rfl rfl hnil
  split
  · exact hquiet ad [] _ rfl rfl rfl hnil
  split
  · exact hquiet ad [] _ rfl rfl rfl hnil
  split
  · exact hgot
  split
  · exact hquiet _ _ _ rfl rfl rfl (hplain ⟨rfl, fun _ _ _ _ => by simp⟩)
  split
  · split
    · exact hquiet _ _ _ rfl rfl rfl hnil
    · exact hquiet _ _ _ rfl rfl rfl (hplain ⟨rfl, fun _ _ _ _ => by simp⟩)
  · exact hquiet ad [] _ rfl rfl rfl hnil

/-- A request that is processed leaves `ADDBA_req`, and the response to it is the only new one. -/
lemma addbaReq_processAddbaReq (ad : Adapter) (addr : List UInt8) (accept : Bool) (size : BitVec 8)
    (queued : Bool) : (processAddbaReq ad addr accept size queued).addbaReq = ad.addbaReq := by
  rw [processAddbaReq]
  split
  · rfl
  split <;> rfl

lemma pending_processAddbaReq (ad : Adapter) (addr : List UInt8) (accept : Bool) (size : BitVec 8)
    (queued : Bool) : ∀ parm ∈ pending (processAddbaReq ad addr accept size queued),
      parm ∈ pending ad ∨ Caused [.got addr ad.addbaReq] parm := by
  intro parm hparm
  unfold processAddbaReq at hparm
  split at hparm
  · exact .inl hparm
  split at hparm
  · simp only [pending, List.filterMap_append, ← List.append_assoc] at hparm
    rcases List.mem_append.1 hparm with hparm | hparm
    · exact .inl hparm
    · obtain rfl : parm = _ := by simpa using hparm
      exact .inr ⟨by simp, rfl⟩
  · exact .inl hparm

/-- A frame is received. -/
lemma effect_recv (frame behind : List UInt8) (accept : Bool) (size : BitVec 8) (queued : Bool) :
    Effect ad (.recv frame behind accept size queued)
      (act ad (.recv frame behind accept size queued)).1
      (act ad (.recv frame behind accept size queued)).2 := by
  have hne : ∀ sent acked cannotRun,
      Event.recv frame behind accept size queued ≠ .attempt sent acked cannotRun := by
    rintro _ _ _ h
    cases h
  refine onActionBack_cases (P := fun r => Effect ad _ r.1 (r.2.1 ++ if frame.length < r.2.2 then
    [Log.outside] else [])) (frame ++ behind) accept size queued ?_ ?_
  · exact .got (pending_processAddbaReq _ _ accept size queued) (addbaReq_processAddbaReq ..)
      plain_outside hne
  · intro ad' log n hrun hqueue hreq hlog
    refine effect_of_eq hrun hqueue hreq (fun x hx => ?_) hne
    rcases List.mem_append.1 hx with hx | hx
    · exact hlog x hx
    · exact plain_outside x hx

/-- A request is sent, or not. -/
lemma effect_issueAddbaReq {c : Adapter} {d : Adapter}
    (hpend : ∀ parm ∈ pending d, parm ∈ pending c)
    (hreq : d.addbaReq = c.addbaReq) (sent : Bool)
    (he : ∀ sent acked cannotRun, e ≠ .attempt sent acked cannotRun) :
    Effect c e (issueAddbaReq d addr tid sent).1 (issueAddbaReq d addr tid sent).2 := by
  rw [issueAddbaReq]
  split
  · refine .quiet hpend hreq (fun x hx => ?_) fun acked cannotRun h => absurd h (he _ _ _)
    obtain rfl := List.mem_singleton.1 hx
    exact ⟨rfl, fun _ _ _ _ => by simp⟩
  · exact .quiet hpend hreq (fun x hx => absurd hx List.not_mem_nil)
      fun acked cannotRun h => absurd h (he _ _ _)

@[simp] lemma addBaRspEnd_addbaReq (ad : Adapter) (parm : AddBaRspParm) :
    (addBaRspEnd ad parm).addbaReq = ad.addbaReq := by
  rw [addBaRspEnd]
  dsimp only
  split <;> rfl

/-- The response is sent. -/
lemma pending_addBaRspEnd (ad : Adapter) (parm : AddBaRspParm) :
    ∀ p ∈ pending (addBaRspEnd ad parm), p ∈ pending ad := by
  intro p hp
  have hqueue : (addBaRspEnd ad parm).cmdQueue = ad.cmdQueue := by
    rw [addBaRspEnd]
    dsimp only
    split <;> rfl
  have hrun : (addBaRspEnd ad parm).running = none := by
    rw [addBaRspEnd]
    dsimp only
    split <;> rfl
  rw [pending, hqueue, hrun] at hp
  exact List.mem_append_right _ (by simpa using hp)

/-- The command thread takes a command. -/
lemma effect_nextCmd (sent blocked : Bool) :
    Effect ad (.nextCmd sent blocked) (nextCmd ad sent blocked).1 (nextCmd ad sent blocked).2 := by
  have hne : ∀ s acked cannotRun, Event.nextCmd sent blocked ≠ .attempt s acked cannotRun := by
    rintro _ _ _ h
    cases h
  have hnil : ∀ x ∈ ([] : List Log), Plain x := fun x hx => absurd hx List.not_mem_nil
  rw [nextCmd]
  split
  · exact effect_of_eq rfl rfl rfl hnil hne
  · exact effect_of_eq rfl rfl rfl hnil hne
  · rename_i addr tid cmds hrun hqueue
    have hpend : ∀ parm ∈ pending { ad with cmdQueue := cmds }, parm ∈ pending ad := by
      intro parm hparm
      simpa [pending, hqueue] using hparm
    rw [addBaHdl]
    split
    · exact .quiet hpend rfl hnil fun acked cannotRun h => absurd h (hne _ _ _)
    split
    · exact effect_issueAddbaReq hpend rfl sent hne
    · exact .quiet hpend rfl hnil fun acked cannotRun h => absurd h (hne _ _ _)
  · rename_i parm cmds hrun hqueue
    have hpend : ∀ p ∈ pending { ad with cmdQueue := cmds }, p ∈ pending ad := by
      intro p hp
      simp only [pending, hqueue, hrun] at hp ⊢
      simpa using .inr (by simpa using hp)
    dsimp only
    split
    · exact .quiet hpend rfl hnil fun acked cannotRun h => absurd h (hne _ _ _)
    split
    · refine .quiet (fun p hp => hpend p (pending_addBaRspEnd _ _ p hp)) (by simp) hnil
        fun acked cannotRun h => absurd h (hne _ _ _)
    · refine .quiet (fun p hp => ?_) rfl hnil fun acked cannotRun h => absurd h (hne _ _ _)
      simpa [pending, hqueue, hrun] using hp

/-- The command thread sends a response. -/
lemma effect_attempt (sent acked cannotRun : Bool) :
    Effect ad (.attempt sent acked cannotRun) (attempt ad sent acked cannotRun).1
      (attempt ad sent acked cannotRun).2 := by
  have hnil : ∀ x ∈ ([] : List Log), Plain x := fun x hx => absurd hx List.not_mem_nil
  rw [attempt]
  split
  · exact .quiet (fun p hp => hp) rfl hnil fun _ _ _ => ‹_›
  · rename_i parm i hrun
    have hpend : ∀ p ∈ pending { ad with running := some (parm, i + 1) }, p ∈ pending ad := by
      intro p hp
      simpa [pending, hrun] using hp
    cases sent with
    | true =>
        dsimp only
        split
        · exact .rsp (pending_addBaRspEnd ad parm) (by simp) hrun rfl
        · exact .rsp hpend rfl hrun rfl
    | false =>
        dsimp only
        split
        · refine .quiet (pending_addBaRspEnd ad parm) (by simp) hnil fun _ _ h => ?_
          cases h
        · refine .quiet hpend rfl hnil fun _ _ h => ?_
          cases h

@[simp] lemma modify_running (ad : Adapter) (addr : List UInt8) (g : Sta → Sta) :
    (ad.modify addr g).running = ad.running := by
  rw [Adapter.modify]
  split <;> rfl

@[simp] lemma modify_cmdQueue (ad : Adapter) (addr : List UInt8) (g : Sta → Sta) :
    (ad.modify addr g).cmdQueue = ad.cmdQueue := by
  rw [Adapter.modify]
  split <;> rfl

@[simp] lemma modify_addbaReq (ad : Adapter) (addr : List UInt8) (g : Sta → Sta) :
    (ad.modify addr g).addbaReq = ad.addbaReq := by
  rw [Adapter.modify]
  split <;> rfl

/-- An event has one of the three effects. -/
lemma effect_act (ad : Adapter) (e : Event) : Effect ad e (act ad e).1 (act ad e).2 := by
  have hnil : ∀ x ∈ ([] : List Log), Plain x := fun x hx => absurd hx List.not_mem_nil
  cases e with
  | recv frame behind accept size queued => exact effect_recv frame behind accept size queued
  | nextCmd sent blocked => exact effect_nextCmd sent blocked
  | attempt sent acked cannotRun => exact effect_attempt sent acked cannotRun
  | issueReq ra priority queued =>
      refine .quiet (fun parm hparm => ?_) ?_ hnil fun _ _ h => by cases h
      · simp only [act, issueAddbareqCmd] at hparm
        split at hparm
        · exact hparm
        split at hparm
        · split at hparm
          · simpa [pending, Adapter.setSta] using hparm
          · exact hparm
        · exact hparm
      · simp only [act, issueAddbareqCmd]
        split
        · rfl
        split
        · split <;> rfl
        · rfl
  | aliveCheck addr expireTo sent =>
      have hne : ∀ s acked cannotRun,
          Event.aliveCheck addr expireTo sent ≠ .attempt s acked cannotRun := by
        rintro _ _ _ h
        cases h
      simp only [act, aliveCheck]
      split
      · exact effect_of_eq rfl rfl rfl hnil hne
      split
      · exact effect_issueAddbaReq (c := ad) (d := ad.setSta _ _) (fun parm hparm => hparm) rfl sent
          hne
      · exact effect_of_eq rfl rfl rfl hnil hne
  | timer addr =>
      exact effect_of_eq (modify_running ..) (modify_cmdQueue ..) (modify_addbaReq ..) hnil
        fun _ _ _ h => by cases h
  | sendDelba addr tid =>
      exact effect_of_eq (modify_running ..) (modify_cmdQueue ..) (modify_addbaReq ..) hnil
        fun _ _ _ h => by cases h
  | station addr psta => exact effect_of_eq rfl rfl rfl hnil fun _ _ _ h => by cases h
  | takeToken => exact effect_of_eq rfl rfl rfl hnil fun _ _ _ h => by cases h
  | iface apState assocSuccess htEnable =>
      exact effect_of_eq rfl rfl rfl hnil fun _ _ _ h => by cases h

/-! ### Runs -/

/-- What `ADDBA_req` and the commands come from. -/
structure Traced (w : World) : Prop where
  last : ∀ q, lastGot w.log = some q → w.ad.addbaReq = q
  pending : ∀ parm ∈ pending w.ad, Caused w.log parm
  sent : ∀ parm token param timeout, .rsp parm token param timeout ∈ w.log → Caused w.log parm

variable {w : World}

lemma Plain.right {x : Log} (h : Plain x) : Right x := by
  cases x with
  | rsp parm token param timeout => exact absurd rfl (h.2 parm token param timeout)
  | _ => trivial

lemma Caused.mono {log log' : List Log} {parm : AddBaRspParm} (h : Caused log parm)
    (hsub : ∀ x ∈ log, x ∈ log') : Caused log' parm := ⟨hsub _ h.1, h.2⟩

lemma lastGot_append_of_plain {log : List Log} (h : ∀ x ∈ log, Plain x) :
    lastGot (w.log ++ log) = lastGot w.log := by
  have hnone : log.filterMap gotReq = [] := List.filterMap_eq_nil_iff.2 fun x hx => (h x hx).1
  rw [lastGot, List.filterMap_append, hnone, List.append_nil, lastGot]

lemma lastGot_append_got {log : List Log} (addr : List UInt8) (req : AddbaRequest)
    (h : ∀ x ∈ log, Plain x) : lastGot (w.log ++ .got addr req :: log) = some req := by
  have hnone : log.filterMap gotReq = [] := List.filterMap_eq_nil_iff.2 fun x hx => (h x hx).1
  simp [lastGot, List.filterMap_append, gotReq, hnone]

/-- Where a response is pending, a request was received. -/
lemma Traced.lastGot_eq (h : Traced w) {p : AddBaRspParm} (hparm : p ∈ Ba.pending w.ad) :
    lastGot w.log = some w.ad.addbaReq := by
  have hmem : p.cause ∈ w.log.filterMap gotReq :=
    List.mem_filterMap.2 ⟨_, (h.pending p hparm).1, rfl⟩
  cases hlast : lastGot w.log with
  | none => exact absurd (List.getLast?_eq_none_iff.1 hlast) (List.ne_nil_of_mem hmem)
  | some q => rw [h.last q hlast]

lemma traced_of_fresh (h : Fresh w) : Traced w where
  last q hq := absurd hq (by simp [lastGot, h.log])
  pending parm hparm := absurd hparm (by simp [Ba.pending, h.running, h.cmdQueue])
  sent parm token param timeout hmem := absurd hmem (by simp [h.log])

/-- A step keeps track of the requests. -/
lemma Traced.step (h : Traced w) (e : Event) : Traced (step w e).1 := by
  have hleft : ∀ x ∈ w.log, x ∈ w.log ++ (act w.ad e).2 := fun x hx => List.mem_append_left _ hx
  have heffect := effect_act w.ad e
  rw [Ba.step]
  generalize act w.ad e = r at heffect hleft ⊢
  obtain ⟨ad', log⟩ := r
  cases heffect with
  | quiet hpend hreq hlog he =>
      refine ⟨fun q hq => ?_, fun parm hparm => ?_, fun parm token param timeout hmem => ?_⟩
      · rw [lastGot_append_of_plain hlog] at hq
        exact hreq.trans (h.last q hq)
      · exact (h.pending parm (hpend parm hparm)).mono hleft
      · rcases List.mem_append.1 hmem with hmem | hmem
        · exact (h.sent _ _ _ _ hmem).mono hleft
        · exact absurd rfl ((hlog _ hmem).2 parm token param timeout)
  | got hpend hreq hlog he =>
      rename_i addr req log
      refine ⟨fun q hq => ?_, fun parm hparm => ?_, fun parm token param timeout hmem => ?_⟩
      · rw [lastGot_append_got _ _ hlog] at hq
        exact hreq.trans (Option.some.inj hq)
      · rcases hpend parm hparm with hparm | hcaused
        · exact (h.pending parm hparm).mono hleft
        · refine hcaused.mono fun x hx => List.mem_append_right _ ?_
          obtain rfl := List.mem_singleton.1 hx
          exact List.mem_cons_self ..
      · rcases List.mem_append.1 hmem with hmem | hmem
        · exact (h.sent _ _ _ _ hmem).mono hleft
        · rcases List.mem_cons.1 hmem with heq | hmem
          · cases heq
          · exact absurd rfl ((hlog _ hmem).2 parm token param timeout)
  | rsp hpend hreq hrun he =>
      rename_i parm i acked cannotRun
      refine ⟨fun q hq => ?_, fun p hp => ?_, fun p token param timeout hmem => ?_⟩
      · have hsame : lastGot (w.log ++ [issueAddbaRsp w.ad parm]) = lastGot w.log := by
          simp [lastGot, List.filterMap_append, issueAddbaRsp, gotReq]
        exact hreq.trans (h.last q (hsame ▸ hq))
      · exact (h.pending p (hpend p hp)).mono hleft
      · rcases List.mem_append.1 hmem with hmem | hmem
        · exact (h.sent _ _ _ _ hmem).mono hleft
        · have heq := List.mem_singleton.1 hmem
          rw [issueAddbaRsp, Log.rsp.injEq] at heq
          obtain rfl := heq.1
          refine (h.pending p ?_).mono hleft
          simp [Ba.pending, hrun]

/-- The responses of a step are right exactly if the step meets the condition. -/
lemma right_step_iff (h : Traced w) (hright : ∀ x ∈ w.log, Right x) (e : Event) :
    (∀ x ∈ (step w e).1.log, Right x) ↔ Meets w e := by
  have heffect := effect_act w.ad e
  rw [Ba.step]
  dsimp only
  generalize act w.ad e = r at heffect ⊢
  obtain ⟨ad', log⟩ := r
  have hsplit : (∀ x ∈ w.log ++ log, Right x) ↔ ∀ x ∈ log, Right x := by
    constructor
    · exact fun hall x hx => hall x (List.mem_append_right _ hx)
    · exact fun hall x hx => (List.mem_append.1 hx).elim (hright x) (hall x)
  rw [hsplit]
  cases heffect with
  | quiet hpend hreq hlog he =>
      refine iff_of_true (fun x hx => (hlog x hx).right) ?_
      cases e with
      | attempt sent acked cannotRun =>
          cases sent with
          | true => simp [Meets, he acked cannotRun rfl]
          | false => trivial
      | _ => trivial
  | got hpend hreq hlog he =>
      refine iff_of_true (fun x hx => ?_) ?_
      · rcases List.mem_cons.1 hx with rfl | hx
        · trivial
        · exact (hlog x hx).right
      · cases e with
        | attempt sent acked cannotRun => exact absurd rfl (he sent acked cannotRun)
        | _ => trivial
  | rsp hpend hreq hrun he =>
      rename_i parm i acked cannotRun
      subst he
      have hlast : lastGot w.log = some w.ad.addbaReq :=
        h.lastGot_eq (p := parm) (by simp [pending, hrun])
      simp only [List.forall_mem_singleton, right_issueAddbaRsp, Meets, hrun, hlast]

/-- Over a run every response is for a request of its peer and its TID, and all responses carry what
is in their requests exactly if the last request received before each agrees with it. -/
theorem addbaRsp_iff (h : Fresh w) (es : List Event) :
    (∀ parm token param timeout, .rsp parm token param timeout ∈ (Machine.final step w es).log →
      Caused (Machine.final step w es).log parm) ∧
    ((∀ pre, pre <+: es → ∀ x ∈ (Machine.final step w pre).log, Right x) ↔
      Machine.Along step Meets w es) := by
  constructor
  · have htraced : Traced (Machine.final step w es) :=
      Machine.final_induction (I := Traced) (fun _ e _ ht => ht.step e) (traced_of_fresh h)
        (Machine.along_of_forall (Q := fun _ => True) fun _ _ => trivial)
    exact htraced.sent
  · exact Machine.forall_prefix_iff_along (J := Traced) (I := fun w => ∀ x ∈ w.log, Right x)
      (fun _ e ht => ht.step e) (fun _ e ht hright => right_step_iff ht hright e)
      (traced_of_fresh h) (by simp [h.log])

/-! ### Two peers -/

/-- A request of a peer for TID 0 with immediate Block Ack. -/
def reqFrame (n token : UInt8) : List UInt8 :=
  [0xD0, 0, 0, 0] ++ peer 1 ++ peer n ++ peer 1 ++ [0, 0] ++ [3, 0, token, 2, 0x10, 0, 0, 0, 0]

/-- A request is answered, at the second attempt, before the next one comes. -/
theorem addbaRsp_iff_inTurn :
    let w := Machine.final step twoPeers [.recv (reqFrame 2 7) [] true 64 true,
      .nextCmd true false, .attempt true false false, .attempt true true false,
      .recv (reqFrame 3 9) [] true 64 true, .nextCmd true false, .attempt true true false]
    w.log.length = 5 ∧ ∀ x ∈ w.log, Right x :=
  ⟨by decide +kernel, ((addbaRsp_iff fresh_twoPeers _).2.2 (by decide +kernel)) _ List.prefix_rfl⟩

/-- The first of two requests is answered with the token of the second. -/
theorem addbaRsp_wrong_token :
    ¬ ∀ x ∈ (Machine.final step twoPeers [.recv (reqFrame 2 7) [] true 64 true,
      .recv (reqFrame 3 9) [] true 64 true, .nextCmd true false, .attempt true true false]).log,
      Right x := by
  decide +kernel

end Rtl8723du.Ba
