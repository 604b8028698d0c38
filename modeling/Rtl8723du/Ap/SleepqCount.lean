import Rtl8723du.Ap.FramePool

/-!
# The counters of the sleep queues

`sleepq_len` counts the frames of a `sleep_q`, `sleepq_ac_len` those of delivery enabled
access categories.  Five functions keep the two by hand.  The first is right in every run;
the second is right as long as no PS-Poll takes a frame of a delivery enabled access
category and no association request changes how the waiting frames are counted
(`sleepq_counts_iff`).
-/

namespace Rtl8723du

variable {n : ℕ}

/-- The frame is of a delivery enabled access category. -/
def StaInfo.delivers (psta : StaInfo n) (f : XmitFrame n) : Bool :=
  (psta.wmmpsAc f.priority).deliveryEnabled

/-- The frame is of a trigger enabled access category. -/
def StaInfo.triggers (psta : StaInfo n) (f : XmitFrame n) : Bool :=
  (psta.wmmpsAc f.priority).triggerEnabled

/-- How many of the buffered frames are of a delivery enabled access category. -/
def StaInfo.deliveryQueued (psta : StaInfo n) : ℕ := psta.sleepQ.countP psta.delivers

/-- What holds of a station in every run: the queue lengths are right, both U-APSD bits of an
access category are the same, and the broadcast station has none. -/
structure StaInfo.Counted (psta : StaInfo n) : Prop where
  len : psta.sleepqLen = BitVec.ofNat 32 psta.sleepQ.length
  mgmtLen : psta.mgmtSleepqLen = BitVec.ofNat 32 psta.mgmtSleepQ.length
  bits : ∀ priority,
    (psta.wmmpsAc priority).triggerEnabled = (psta.wmmpsAc priority).deliveryEnabled
  bmc : psta.macAddr = some bcAddr → ∀ priority,
    (psta.wmmpsAc priority).deliveryEnabled = false

/-- The counter of delivery enabled frames is right as well. -/
structure StaInfo.AcCounted (psta : StaInfo n) : Prop extends psta.Counted where
  acLen : psta.sleepqAcLen = BitVec.ofNat 32 psta.deliveryQueued

/-! ### Counting modulo 2^32 -/

lemma ofNat_add_one (k : ℕ) : BitVec.ofNat 32 k + 1 = BitVec.ofNat 32 (k + 1) := by
  apply BitVec.eq_of_toNat_eq
  simp

lemma ofNat_add_one_sub_one (k : ℕ) : BitVec.ofNat 32 (k + 1) - 1 = BitVec.ofNat 32 k := by
  rw [← ofNat_add_one]
  exact BitVec.add_sub_cancel _ _

lemma ofNat_add_sub_ofNat (k m : ℕ) :
    BitVec.ofNat 32 (k + m) - BitVec.ofNat 32 m = BitVec.ofNat 32 k := by
  rw [BitVec.ofNat_add]
  exact BitVec.add_sub_cancel _ _

/-- The pool is small enough for the counters not to wrap. -/
lemma toNat_ofNat_of_le {k : ℕ} (h : k ≤ nrXmitframe) : (BitVec.ofNat 32 k).toNat = k := by
  rw [BitVec.toNat_ofNat]
  exact Nat.mod_eq_of_lt (h.trans_lt (by decide))

/-! ### The elementary changes -/

lemma wmmpsAc_congr {psta psta' : StaInfo n} (hvo : psta'.uapsdVo = psta.uapsdVo)
    (hvi : psta'.uapsdVi = psta.uapsdVi) (hbe : psta'.uapsdBe = psta.uapsdBe)
    (hbk : psta'.uapsdBk = psta.uapsdBk) (priority : ℕ) :
    psta'.wmmpsAc priority = psta.wmmpsAc priority := by
  simp only [StaInfo.wmmpsAc, hvo, hvi, hbe, hbk]

lemma buffers_ext {psta psta' : StaInfo n} (h : psta'.buffers = psta.buffers) :
    psta'.macAddr = psta.macAddr ∧ psta'.wmmpsAc = psta.wmmpsAc ∧
      psta'.sleepQ = psta.sleepQ ∧ psta'.sleepqLen = psta.sleepqLen ∧
      psta'.sleepqAcLen = psta.sleepqAcLen ∧ psta'.mgmtSleepQ = psta.mgmtSleepQ ∧
      psta'.mgmtSleepqLen = psta.mgmtSleepqLen := by
  simp only [StaInfo.buffers, Prod.mk.injEq] at h
  obtain ⟨⟨hmac, hvo, hvi, hbe, hbk⟩, hq, hlen, hac, hmq, hml⟩ := h
  exact ⟨hmac, funext (wmmpsAc_congr hvo hvi hbe hbk), hq, hlen, hac, hmq, hml⟩

lemma sub_one_sub_ofNat (x : BitVec 32) (k : ℕ) :
    x - 1 - BitVec.ofNat 32 k = x - BitVec.ofNat 32 (k + 1) := by
  rw [← ofNat_add_one, BitVec.add_comm, BitVec.sub_sub]

/-- What the loop of `xmit_delivery_enabled_frames` leaves: the frames it does not release,
and counters that count the released ones off. -/
lemma deliveryLoop_sta (fs : List (XmitFrame n)) : ∀ psta : StaInfo n,
    (deliveryLoop fs psta).1.sleepQ =
        psta.sleepQ ++ fs.filter (fun f => !psta.triggers f) ∧
      (deliveryLoop fs psta).1.sleepqLen =
        psta.sleepqLen - BitVec.ofNat 32 (fs.countP psta.triggers) ∧
      (deliveryLoop fs psta).1.sleepqAcLen =
        psta.sleepqAcLen - BitVec.ofNat 32 (fs.countP psta.triggers) ∧
      (deliveryLoop fs psta).1.macAddr = psta.macAddr ∧
      (deliveryLoop fs psta).1.wmmpsAc = psta.wmmpsAc ∧
      (deliveryLoop fs psta).1.mgmtSleepQ = psta.mgmtSleepQ ∧
      (deliveryLoop fs psta).1.mgmtSleepqLen = psta.mgmtSleepqLen := by
  induction fs with
  | nil => simp [deliveryLoop]
  | cons f fs ih =>
      intro psta
      rw [deliveryLoop]
      by_cases htrig : psta.triggers f = true
      · have htrig' : (psta.wmmpsAc f.priority).triggerEnabled = true := htrig
        obtain ⟨hq, hlen, hac, hrest⟩ := ih (deliveryTurn psta f).1
        have hcount : (f :: fs).countP psta.triggers = fs.countP psta.triggers + 1 :=
          List.countP_cons_of_pos htrig
        have hfilter : (f :: fs).filter (fun f => !psta.triggers f) =
            fs.filter (fun f => !psta.triggers f) :=
          List.filter_cons_of_neg (by simp [htrig])
        rw [if_pos htrig', hcount, hfilter, ← sub_one_sub_ofNat, ← sub_one_sub_ofNat]
        exact ⟨hq, hlen, hac, hrest⟩
      · have htrig' : ¬ (psta.wmmpsAc f.priority).triggerEnabled = true := htrig
        obtain ⟨hq, hlen, hac, hrest⟩ := ih (psta.passOver f)
        have hcount : (f :: fs).countP psta.triggers = fs.countP psta.triggers :=
          List.countP_cons_of_neg htrig
        have hfilter : (f :: fs).filter (fun f => !psta.triggers f) =
            f :: fs.filter (fun f => !psta.triggers f) :=
          List.filter_cons_of_pos (by simpa using htrig)
        rw [if_neg htrig', hcount, hfilter]
        refine ⟨hq.trans ?_, hlen, hac, hrest⟩
        exact List.append_assoc _ _ _

/-- Turns of the release loops take the first frame, whether it is counted as delivery
enabled or not. -/
lemma deliveryQueued_of_cons {psta : StaInfo n} {f : XmitFrame n} {rest : List (XmitFrame n)}
    (hq : psta.sleepQ = f :: rest) :
    psta.deliveryQueued = rest.countP psta.delivers + if psta.delivers f then 1 else 0 := by
  rw [StaInfo.deliveryQueued, hq, List.countP_cons]

lemma StaInfo.Counted.sub_one {psta : StaInfo n} (h : psta.Counted) {f : XmitFrame n}
    {rest : List (XmitFrame n)} (hq : psta.sleepQ = f :: rest) :
    psta.sleepqLen - 1 = BitVec.ofNat 32 rest.length := by
  rw [h.len, hq, List.length_cons, ofNat_add_one_sub_one]

/-- The elementary changes keep the queue lengths right. -/
theorem keptBy_counted : KeptBy (n := n) StaInfo.Counted where
  buffers := by
    intro psta psta' hbuf h
    obtain ⟨hmac, hac, hq, hlen, -, hmq, hml⟩ := buffers_ext hbuf
    exact ⟨by rw [hlen, hq, h.len], by rw [hml, hmq, h.mgmtLen], by rw [hac]; exact h.bits,
      by rw [hmac, hac]; exact h.bmc⟩
  fresh := by
    intro a ha
    refine ⟨rfl, rfl, ?_, ?_⟩
    · intro priority
      unfold StaInfo.wmmpsAc
      split <;> rfl
    · intro hmac
      exact absurd (Option.some.inj hmac) ha
  blank := by
    refine ⟨rfl, rfl, ?_, ?_⟩
    · intro priority
      unfold StaInfo.wmmpsAc
      split <;> rfl
    · intro hmac
      cases hmac
  bufferGroup := by
    intro psta f _ h
    refine ⟨?_, h.mgmtLen, h.bits, h.bmc⟩
    show psta.sleepqLen + 1 = BitVec.ofNat 32 (psta.sleepQ ++ [f]).length
    rw [h.len, List.length_append, List.length_singleton, ofNat_add_one]
  buffer := by
    intro psta f h
    refine ⟨?_, h.mgmtLen, h.bits, h.bmc⟩
    show psta.sleepqLen + 1 = BitVec.ofNat 32 (psta.sleepQ ++ [f]).length
    rw [h.len, List.length_append, List.length_singleton, ofNat_add_one]
  bufferMgmt := by
    intro psta f h
    refine ⟨h.len, ?_, h.bits, h.bmc⟩
    show psta.mgmtSleepqLen + 1 = BitVec.ofNat 32 (psta.mgmtSleepQ ++ [f]).length
    rw [h.mgmtLen, List.length_append, List.length_singleton, ofNat_add_one]
  wakeupTurn := by
    intro psta f rest hq h
    have hlen : psta.sleepqLen - 1 = BitVec.ofNat 32 psta.sleepQ.tail.length := by
      rw [hq]
      exact StaInfo.Counted.sub_one h hq
    cases htrig : (psta.wmmpsAc f.priority).triggerEnabled
    · simp only [wakeupTurn, htrig, Bool.false_eq_true, if_false]
      exact ⟨hlen, h.mgmtLen, h.bits, h.bmc⟩
    · simp only [wakeupTurn, htrig, if_true]
      exact ⟨hlen, h.mgmtLen, h.bits, h.bmc⟩
  bmcTurn := by
    intro psta f rest hq _ h
    refine ⟨?_, h.mgmtLen, h.bits, h.bmc⟩
    show psta.sleepqLen - 1 = BitVec.ofNat 32 psta.sleepQ.tail.length
    rw [hq]
    exact StaInfo.Counted.sub_one h hq
  mgmtTurn := by
    intro psta f rest hq h
    refine ⟨h.len, ?_, h.bits, h.bmc⟩
    show psta.mgmtSleepqLen - 1 = BitVec.ofNat 32 psta.mgmtSleepQ.tail.length
    rw [h.mgmtLen, hq, List.length_cons, ofNat_add_one_sub_one, List.tail_cons]
  delivery := by
    intro psta h
    obtain ⟨hq, hlen, -, hmac, hwmm, hmq, hml⟩ := deliveryLoop_sta psta.sleepQ psta.emptySleepQ
    have hsplit : psta.sleepQ.length =
        (psta.sleepQ.filter fun f => !psta.triggers f).length +
          psta.sleepQ.countP psta.triggers := by
      rw [← List.countP_eq_length_filter, List.length_eq_countP_add_countP psta.triggers,
        Nat.add_comm]
      congr 1
      exact List.countP_congr fun f _ => by simp
    refine ⟨?_, by rw [hml, hmq]; exact h.mgmtLen, by rw [hwmm]; exact h.bits,
      by rw [hmac, hwmm]; exact h.bmc⟩
    rw [hlen, hq]
    have hpsta : psta.emptySleepQ.sleepqLen = BitVec.ofNat 32 psta.sleepQ.length := h.len
    rw [hpsta, hsplit]
    exact ofNat_add_sub_ofNat _ _
  resetLen := by
    intro psta hq h
    exact ⟨by simp [StaInfo.resetSleepqLen, hq], h.mgmtLen, h.bits, h.bmc⟩

lemma deliveryQueued_congr {psta psta' : StaInfo n} (hac : psta'.wmmpsAc = psta.wmmpsAc)
    (hq : psta'.sleepQ = psta.sleepQ) : psta'.deliveryQueued = psta.deliveryQueued := by
  have hdel : psta'.delivers = psta.delivers := by
    funext f
    rw [StaInfo.delivers, hac, StaInfo.delivers]
  rw [StaInfo.deliveryQueued, hdel, hq, StaInfo.deliveryQueued]

lemma StaInfo.Counted.not_delivers {psta : StaInfo n} (h : psta.Counted)
    (hmac : psta.macAddr = some bcAddr) (f : XmitFrame n) : psta.delivers f = false :=
  h.bmc hmac f.priority

/-- The frames that `xmit_delivery_enabled_frames` leaves are not delivery enabled. -/
lemma StaInfo.Counted.countP_not_triggers {psta : StaInfo n} (h : psta.Counted)
    (fs : List (XmitFrame n)) :
    (fs.filter fun f => !psta.triggers f).countP psta.delivers = 0 := by
  rw [List.countP_eq_zero]
  intro f hf
  have htrig : psta.triggers f = false := by simpa using List.of_mem_filter hf
  have hbits : psta.triggers f = psta.delivers f := h.bits f.priority
  simp [← hbits, htrig]

/-- The elementary changes keep both counters right. -/
theorem keptBy_acCounted : KeptBy (n := n) StaInfo.AcCounted where
  buffers := by
    intro psta psta' hbuf h
    obtain ⟨-, hac, hq, -, hlen, -, -⟩ := buffers_ext hbuf
    refine ⟨keptBy_counted.buffers psta hbuf h.toCounted, ?_⟩
    rw [hlen, deliveryQueued_congr hac hq, h.acLen]
  fresh := fun ha => ⟨keptBy_counted.fresh ha, rfl⟩
  blank := ⟨keptBy_counted.blank, rfl⟩
  bufferGroup := by
    intro psta f hmac h
    refine ⟨keptBy_counted.bufferGroup f hmac h.toCounted, ?_⟩
    show psta.sleepqAcLen = BitVec.ofNat 32 ((psta.sleepQ ++ [f]).countP psta.delivers)
    rw [h.acLen, List.countP_append, List.countP_singleton, h.toCounted.not_delivers hmac f]
    rfl
  buffer := by
    intro psta f h
    refine ⟨keptBy_counted.buffer f h.toCounted, ?_⟩
    show (if psta.delivers f then psta.sleepqAcLen + 1 else psta.sleepqAcLen) =
      BitVec.ofNat 32 ((psta.sleepQ ++ [f]).countP psta.delivers)
    rw [h.acLen, List.countP_append, List.countP_singleton]
    split
    · exact ofNat_add_one _
    · rfl
  bufferMgmt := fun f h => ⟨keptBy_counted.bufferMgmt f h.toCounted, h.acLen⟩
  wakeupTurn := by
    intro psta f rest hq h
    refine ⟨keptBy_counted.wakeupTurn hq h.toCounted, ?_⟩
    have hcount := deliveryQueued_of_cons hq
    have hbits : psta.triggers f = psta.delivers f := h.bits f.priority
    cases htrig : psta.triggers f
    · have htrig' : (psta.wmmpsAc f.priority).triggerEnabled = false := htrig
      simp only [wakeupTurn, htrig', Bool.false_eq_true, if_false]
      show psta.sleepqAcLen = BitVec.ofNat 32 (psta.sleepQ.tail.countP psta.delivers)
      rw [h.acLen, hcount, ← hbits, htrig, hq]
      rfl
    · have htrig' : (psta.wmmpsAc f.priority).triggerEnabled = true := htrig
      simp only [wakeupTurn, htrig', if_true]
      show psta.sleepqAcLen - 1 = BitVec.ofNat 32 (psta.sleepQ.tail.countP psta.delivers)
      rw [h.acLen, hcount, ← hbits, htrig, hq]
      exact ofNat_add_one_sub_one _
  bmcTurn := by
    intro psta f rest hq hmac h
    refine ⟨keptBy_counted.bmcTurn hq hmac h.toCounted, ?_⟩
    show psta.sleepqAcLen = BitVec.ofNat 32 (psta.sleepQ.tail.countP psta.delivers)
    rw [h.acLen, deliveryQueued_of_cons hq, h.toCounted.not_delivers hmac f, hq]
    rfl
  mgmtTurn := fun hq h => ⟨keptBy_counted.mgmtTurn hq h.toCounted, h.acLen⟩
  delivery := by
    intro psta h
    refine ⟨keptBy_counted.delivery h.toCounted, ?_⟩
    obtain ⟨hq, -, hac, -, hwmm, -, -⟩ := deliveryLoop_sta psta.sleepQ psta.emptySleepQ
    have hdel : (deliveryLoop psta.sleepQ psta.emptySleepQ).1.delivers = psta.delivers := by
      funext f
      rw [StaInfo.delivers, hwmm]
      rfl
    have hbits : psta.emptySleepQ.triggers = psta.delivers :=
      funext fun f => h.bits f.priority
    rw [hac, StaInfo.deliveryQueued, hdel, hq, hbits]
    have hleft := h.toCounted.countP_not_triggers psta.sleepQ
    have htrig : psta.triggers = psta.delivers := funext fun f => h.bits f.priority
    rw [htrig] at hleft
    show psta.sleepqAcLen - BitVec.ofNat 32 psta.deliveryQueued =
      BitVec.ofNat 32 ((psta.sleepQ.filter fun f => !psta.delivers f).countP psta.delivers)
    rw [hleft, h.acLen]
    exact BitVec.sub_self _
  resetLen := fun hq h => ⟨keptBy_counted.resetLen hq h.toCounted, h.acLen⟩

/-! ### PS-Polls and association requests -/

lemma StaInfo.Counted.psPollTurn {psta : StaInfo n} (h : psta.Counted) {f : XmitFrame n}
    {rest : List (XmitFrame n)} (hq : psta.sleepQ = f :: rest) :
    (psta.psPollTurn rest).Counted :=
  ⟨h.sub_one hq, h.mgmtLen, h.bits, h.bmc⟩

lemma StaInfo.Counted.parse {psta : StaInfo n} (h : psta.Counted)
    (hmac : psta.macAddr ≠ some bcAddr)
    (wmm : Option (BitVec 8)) : (rtwApParseStaWmmIe wmm psta).Counted := by
  refine ⟨h.len, h.mgmtLen, ?_, fun hbc => absurd hbc hmac⟩
  intro priority
  unfold StaInfo.wmmpsAc
  split <;> rfl

/-- A station whose WMM element is read is not the broadcast station. -/
lemma macAddr_ne_of_assocReqReads {s : ApPriv n} {sa : MacAddr} {res : AssocRes} {i : Fin n}
    (h : assocReqReads s sa res = some i) : (s.sta i).macAddr ≠ some bcAddr := by
  unfold assocReqReads at h
  split at h
  · cases h
  · rename_i hmc
    have hi : rtwGetStainfo s sa = some i := (Option.filter_eq_some_iff.1 h).1
    have hmac := macAddr_of_rtwGetStainfo hi
    rw [if_neg hmc] at hmac
    rw [hmac]
    intro hbc
    exact ne_bcAddr_of_not_isMcast hmc (Option.some.inj hbc)

/-- At this event no frame changes the side it is counted on: no PS-Poll takes a frame of a
delivery enabled access category, and no WMM element that is read makes more or fewer of the
waiting frames delivery enabled. -/
def SleepqStepOk (s : ApPriv n) : ApEvent → Prop
  | .psPoll ta aid priority =>
      ∀ i ∈ psPollServes s ta aid priority, ∀ f ∈ (s.sta i).sleepQ.head?,
        (s.sta i).delivers f = false
  | .assocReq sa res wmm _ =>
      ∀ i ∈ assocReqReads s sa res,
        (rtwApParseStaWmmIe wmm (s.sta i)).deliveryQueued = (s.sta i).deliveryQueued
  | _ => True

instance (s : ApPriv n) (e : ApEvent) : Decidable (SleepqStepOk s e) := by
  unfold SleepqStepOk
  split <;> infer_instance

lemma turnsKeep_counted {s : ApPriv n} (hs : AllSta StaInfo.Counted s) (e : ApEvent) :
    TurnsKeep StaInfo.Counted s e := by
  cases e with
  | psPoll ta aid priority => exact fun i _ f rest hq => (hs i).psPollTurn hq
  | assocReq sa res wmm ht =>
      exact fun i hi => (hs i).parse (macAddr_ne_of_assocReqReads hi) wmm
  | _ => trivial

lemma turnsKeep_acCounted {s : ApPriv n} (hs : AllSta StaInfo.AcCounted s) {e : ApEvent}
    (he : SleepqStepOk s e) : TurnsKeep StaInfo.AcCounted s e := by
  cases e with
  | psPoll ta aid priority =>
      intro i hi f rest hq
      have hf : (s.sta i).delivers f = false := he i hi f (by rw [hq]; rfl)
      refine ⟨(hs i).toCounted.psPollTurn hq, ?_⟩
      show (s.sta i).sleepqAcLen = BitVec.ofNat 32 (rest.countP (s.sta i).delivers)
      rw [(hs i).acLen, deliveryQueued_of_cons hq, hf]
      rfl
  | assocReq sa res wmm ht =>
      intro i hi
      refine ⟨(hs i).toCounted.parse (macAddr_ne_of_assocReqReads hi) wmm, ?_⟩
      rw [he i hi]
      exact (hs i).acLen
  | _ => trivial

/-! ### Runs -/

lemma allSta_start {Q : StaInfo n → Prop} (b : Fin n) (hblank : Q {})
    (hbmc : Q { macAddr := some bcAddr, asocState := true }) : AllSta Q (ApPriv.start b) := by
  intro j
  by_cases hj : j = b
  · subst hj
    simpa [ApPriv.start] using hbmc
  · simpa [ApPriv.start, hj] using hblank

lemma counted_start (b : Fin n) : AllSta StaInfo.AcCounted (ApPriv.start b) := by
  refine allSta_start b keptBy_acCounted.blank ⟨⟨rfl, rfl, ?_, ?_⟩, rfl⟩
  · intro priority
    unfold StaInfo.wmmpsAc
    split <;> rfl
  · intro _ priority
    unfold StaInfo.wmmpsAc
    split <;> rfl

/-- In every run the queue lengths are right. -/
theorem counted_apRun (conf : ApConf) (b : Fin n) (es : List ApEvent) :
    AllSta StaInfo.Counted (apRun conf b es) :=
  Lib.Machine.final_induction (P := fun _ _ => True)
    (fun _ e _ hs => apStep_kept keptBy_counted hs (turnsKeep_counted hs e))
    (fun i => (counted_start b i).toCounted)
    (Lib.Machine.along_of_forall (Q := fun _ => True) fun _ _ => trivial)

lemma acCounted_apRun {conf : ApConf} {b : Fin n} {es : List ApEvent}
    (hes : Lib.Machine.Along (apStep conf) SleepqStepOk (ApPriv.start b) es) :
    AllSta StaInfo.AcCounted (apRun conf b es) :=
  Lib.Machine.final_induction
    (fun _ _ he hs => apStep_kept keptBy_acCounted hs (turnsKeep_acCounted hs he))
    (counted_start b) hes

/-- Both counters of every station are right. -/
def SleepqCountsRight (s : ApPriv n) : Prop :=
  ∀ i, (s.sta i).sleepqLen.toNat = (s.sta i).sleepQ.length ∧
    (s.sta i).sleepqAcLen.toNat = (s.sta i).deliveryQueued

instance (s : ApPriv n) : Decidable (SleepqCountsRight s) := by
  unfold SleepqCountsRight
  infer_instance

lemma deliveryQueued_apRun_le (conf : ApConf) (b : Fin n) (es : List ApEvent) (i : Fin n) :
    ((apRun conf b es).sta i).deliveryQueued ≤ nrXmitframe :=
  List.countP_le_length.trans (length_sleepQ_apRun_le conf b es i)

lemma sleepqAcLen_eq_iff {conf : ApConf} {b : Fin n} {es : List ApEvent} {i : Fin n} :
    ((apRun conf b es).sta i).sleepqAcLen.toNat = ((apRun conf b es).sta i).deliveryQueued ↔
      ((apRun conf b es).sta i).sleepqAcLen =
        BitVec.ofNat 32 ((apRun conf b es).sta i).deliveryQueued := by
  rw [← BitVec.toNat_inj, toNat_ofNat_of_le (deliveryQueued_apRun_le conf b es i)]

/-- `sleepq_len` is right in every run. -/
theorem sleepqLen_apRun (conf : ApConf) (b : Fin n) (es : List ApEvent) (i : Fin n) :
    ((apRun conf b es).sta i).sleepqLen.toNat = ((apRun conf b es).sta i).sleepQ.length := by
  rw [(counted_apRun conf b es i).len, toNat_ofNat_of_le (length_sleepQ_apRun_le conf b es i)]

lemma sleepqCountsRight_iff {conf : ApConf} {b : Fin n} {es : List ApEvent} :
    SleepqCountsRight (apRun conf b es) ↔ AllSta StaInfo.AcCounted (apRun conf b es) := by
  constructor
  · intro h i
    exact ⟨counted_apRun conf b es i, sleepqAcLen_eq_iff.1 (h i).2⟩
  · intro h i
    exact ⟨sleepqLen_apRun conf b es i, sleepqAcLen_eq_iff.2 (h i).acLen⟩

/-- What a served PS-Poll does to its station. -/
lemma validateRecvPsPoll_sta {s : ApPriv n} {ta : MacAddr} {aid priority : ℕ} {i : Fin n}
    (hi : psPollServes s ta aid priority = some i) {f : XmitFrame n} {rest : List (XmitFrame n)}
    (hq : (s.sta i).sleepQ = f :: rest) :
    (validateRecvPsPoll s ta aid priority).1.sta i =
      (s.sta i).clearAliveChk.psPollTurn rest := by
  rcases validateRecvPsPoll_cases s ta aid priority with
    ⟨hno, -⟩ | ⟨j, s', hj, rfl, ⟨g, rest', hq', hstep⟩ | ⟨hnil, -⟩⟩
  · exact absurd hi (hno i)
  · obtain rfl : j = i := Option.some.inj (hj.symm.trans hi)
    obtain ⟨rfl, rfl⟩ : f = g ∧ rest = rest' := by simpa using hq.symm.trans hq'
    rw [hstep]
    simp only [psPollRelease]
    split <;> simp
  · obtain rfl : j = i := Option.some.inj (hj.symm.trans hi)
    rw [hq] at hnil
    cases hnil

/-- A step after which the counters are right again is one of those allowed. -/
lemma sleepqStepOk_of_acCounted {conf : ApConf} {s : ApPriv n} {e : ApEvent}
    (hs : AllSta StaInfo.AcCounted s) (hs' : AllSta StaInfo.AcCounted (apStep conf s e).1)
    (hle : ∀ i, (s.sta i).sleepQ.length ≤ nrXmitframe) : SleepqStepOk s e := by
  have hinj : ∀ i {k m : ℕ}, k ≤ (s.sta i).sleepQ.length → m ≤ (s.sta i).sleepQ.length →
      BitVec.ofNat 32 k = BitVec.ofNat 32 m → k = m := by
    intro i k m hk hm heq
    have hnat := congrArg BitVec.toNat heq
    rwa [toNat_ofNat_of_le (hk.trans (hle i)), toNat_ofNat_of_le (hm.trans (hle i))] at hnat
  cases e with
  | psPoll ta aid priority =>
      intro i hi f hf
      obtain ⟨rest, hq⟩ : ∃ rest, (s.sta i).sleepQ = f :: rest := by
        cases hsq : (s.sta i).sleepQ with
        | nil => simp [hsq] at hf
        | cons g rest =>
            rw [hsq] at hf
            exact ⟨rest, by rw [Option.some.inj hf]⟩
      -- the counter is the one from before, but the frame is gone
      have hac : ((validateRecvPsPoll s ta aid priority).1.sta i).sleepqAcLen =
          BitVec.ofNat 32 ((validateRecvPsPoll s ta aid priority).1.sta i).deliveryQueued :=
        (hs' i).acLen
      rw [validateRecvPsPoll_sta hi hq] at hac
      have hbefore : (s.sta i).sleepqAcLen = BitVec.ofNat 32 (s.sta i).deliveryQueued :=
        (hs i).acLen
      have hafter : (s.sta i).sleepqAcLen =
          BitVec.ofNat 32 (rest.countP (s.sta i).delivers) := hac
      have hlen : (s.sta i).sleepQ.length = rest.length + 1 := by rw [hq, List.length_cons]
      have hrest : rest.countP (s.sta i).delivers ≤ rest.length := List.countP_le_length
      have hall : (s.sta i).deliveryQueued ≤ (s.sta i).sleepQ.length := List.countP_le_length
      have hsame := hinj i hall (by omega) (hbefore.symm.trans hafter)
      rw [deliveryQueued_of_cons hq] at hsame
      cases hdel : (s.sta i).delivers f
      · rfl
      · rw [hdel, if_pos rfl] at hsame
        omega
  | assocReq sa res wmm ht =>
      intro i hi
      have hbuf := buffers_onAssocReq conf s sa res wmm ht i
      rw [if_pos (Option.mem_def.1 hi)] at hbuf
      obtain ⟨-, hwmm, hq, -, hlen, -, -⟩ := buffers_ext hbuf
      have hac : ((onAssocReq conf s sa res wmm ht).sta i).sleepqAcLen =
          BitVec.ofNat 32 ((onAssocReq conf s sa res wmm ht).sta i).deliveryQueued :=
        (hs' i).acLen
      rw [hlen, deliveryQueued_congr hwmm hq] at hac
      have hbefore : (s.sta i).sleepqAcLen = BitVec.ofNat 32 (s.sta i).deliveryQueued :=
        (hs i).acLen
      exact hinj i List.countP_le_length List.countP_le_length (hac.symm.trans hbefore)
  | _ => trivial

/-- The counters are right in every state of a run if and only if no PS-Poll of the run takes
a frame of a delivery enabled access category and no association request changes how many
of the waiting frames are delivery enabled. -/
theorem sleepq_counts_iff (conf : ApConf) (b : Fin n) (es : List ApEvent) :
    (∀ pre post, es = pre ++ post → SleepqCountsRight (apRun conf b pre)) ↔
      Lib.Machine.Along (apStep conf) SleepqStepOk (ApPriv.start b) es := by
  constructor
  · intro h
    rw [Lib.Machine.along_iff]
    intro pre e post hsplit
    have hpre := sleepqCountsRight_iff.1 (h pre (e :: post) hsplit)
    have hnext := sleepqCountsRight_iff.1 (h (pre ++ [e]) post (by simp [hsplit]))
    rw [apRun, Lib.Machine.final_concat] at hnext
    exact sleepqStepOk_of_acCounted hpre hnext (length_sleepQ_apRun_le conf b pre)
  · rintro h pre post rfl
    exact sleepqCountsRight_iff.2 (acCounted_apRun h.left)

/-- A station that uses U-APSD for voice sleeps with a voice frame buffered, and fetches it
with a PS-Poll. -/
def psPollOfUapsdFrame : List ApEvent :=
  [.auth (MacAddr.ofBytes 2 0 0 0 0 1) .success,
    .assocReq (MacAddr.ofBytes 2 0 0 0 0 1) .join (some 0x01#8) false,
    .dataFrame (MacAddr.ofBytes 2 0 0 0 0 1) true false 0, .xmit (MacAddr.ofBytes 2 0 0 0 0 1) 6 0,
    .psPoll (MacAddr.ofBytes 2 0 0 0 0 1) 1 0]

/-- The voice frame is gone and still counted. -/
theorem sleepq_counts_after_psPoll :
    ¬ SleepqCountsRight
      (apRun { maxAid := 32, maxNumSta := 32 } (0 : Fin 2) psPollOfUapsdFrame) := by
  decide +kernel

end Rtl8723du
