import Rtl8723du.Ap.SleepqCount

/-!
# U-APSD service periods

In a service period the station stays awake until it gets a frame with EOSP set.  Which of
the released frames gets it is decided from `sleepq_ac_len`, so exactly the last one does
if and only if that counter is right, or 0, when a QoS Null is sent instead
(`service_period_iff`).
-/

namespace Rtl8723du

variable {n : ℕ}

/-- The EOSP bit of what is handed out. -/
def ApOut.eosp : ApOut n → Bool
  | .released f => f.eosp
  | .qosNull _ _ _ eosp => eosp
  | .nulldata _ => false
  | .sent f => f.eosp

/-- The More Data bit of what is handed out. -/
def ApOut.mdata : ApOut n → Bool
  | .released f => f.mdata
  | .qosNull _ _ mdata _ => mdata
  | .nulldata _ => false
  | .sent f => f.mdata

/-- A service period as it should be: EOSP is set in the last frame, and in all frames
before it More Data is set and EOSP is not. -/
def ServicePeriod (out : List (ApOut n)) : Prop :=
  ∃ init last, out = init ++ [last] ∧ last.eosp = true ∧
    ∀ o ∈ init, o.mdata = true ∧ o.eosp = false

lemma not_servicePeriod_nil : ¬ ServicePeriod (n := n) [] := by
  rintro ⟨init, last, hout, -⟩
  simp at hout

lemma servicePeriod_cons {o : ApOut n} {out : List (ApOut n)} :
    ServicePeriod (o :: out) ↔
      (o.eosp = true ∧ out = []) ∨ (o.mdata = true ∧ o.eosp = false ∧ ServicePeriod out) := by
  constructor
  · rintro ⟨init, last, hout, hlast, hinit⟩
    cases init with
    | nil =>
        obtain ⟨rfl, rfl⟩ : o = last ∧ out = [] := by simpa using hout
        exact .inl ⟨hlast, rfl⟩
    | cons o' init =>
        obtain ⟨rfl, rfl⟩ : o = o' ∧ out = init ++ [last] := by simpa using hout
        obtain ⟨hmdata, heosp⟩ := hinit o List.mem_cons_self
        exact .inr ⟨hmdata, heosp, init, last, rfl, hlast,
          fun o' ho' => hinit o' (List.mem_cons_of_mem o ho')⟩
  · rintro (⟨hlast, rfl⟩ | ⟨hmdata, heosp, init, last, rfl, hlast, hinit⟩)
    · exact ⟨[], o, rfl, hlast, by simp⟩
    · refine ⟨o :: init, last, rfl, hlast, ?_⟩
      intro o' ho'
      rcases List.mem_cons.1 ho' with rfl | hmem
      · exact ⟨hmdata, heosp⟩
      · exact hinit o' hmem

/-! ### What is released -/

/-- The frames as they are released when `sleepqAcLen` is the counter before the first. -/
def countedDown : BitVec 32 → List (XmitFrame n) → List (XmitFrame n)
  | _, [] => []
  | sleepqAcLen, f :: fs =>
      { f with mdata := sleepqAcLen - 1 != 0, eosp := sleepqAcLen - 1 == 0, triggered := true } ::
        countedDown (sleepqAcLen - 1) fs

/-- The loop of `xmit_delivery_enabled_frames` releases the frames of trigger enabled access
categories, in the order of the queue. -/
lemma deliveryLoop_released (fs : List (XmitFrame n)) : ∀ psta : StaInfo n,
    (deliveryLoop fs psta).2.1 = countedDown psta.sleepqAcLen (fs.filter psta.triggers) := by
  induction fs with
  | nil => intro psta; rfl
  | cons f fs ih =>
      intro psta
      rw [deliveryLoop]
      by_cases htrig : psta.triggers f = true
      · have htrig' : (psta.wmmpsAc f.priority).triggerEnabled = true := htrig
        rw [if_pos htrig', List.filter_cons_of_pos htrig]
        show (deliveryTurn psta f).2 :: (deliveryLoop fs (deliveryTurn psta f).1).2.1 = _
        rw [ih]
        rfl
      · have htrig' : ¬ (psta.wmmpsAc f.priority).triggerEnabled = true := htrig
        rw [if_neg htrig', List.filter_cons_of_neg htrig, ih]
        rfl

/-- A running counter ends a service period properly if and only if it was right. -/
lemma servicePeriod_countedDown (fs : List (XmitFrame n)) : ∀ {sleepqAcLen : BitVec 32},
    sleepqAcLen ≠ 0 →
      (ServicePeriod ((countedDown sleepqAcLen fs).map .released) ↔
        sleepqAcLen.toNat = fs.length) := by
  induction fs with
  | nil =>
      intro k hk
      have hpos : k.toNat ≠ 0 := fun h => hk (BitVec.eq_of_toNat_eq (by simpa using h))
      exact ⟨fun h => absurd h not_servicePeriod_nil, fun h => absurd h hpos⟩
  | cons f fs ih =>
      intro k hk
      have hpos : k.toNat ≠ 0 := fun h => hk (BitVec.eq_of_toNat_eq (by simpa using h))
      have hsub : (k - 1).toNat = k.toNat - 1 := by
        rw [BitVec.toNat_sub_of_le]
        · rfl
        · rw [BitVec.le_def]
          show 1 ≤ k.toNat
          omega
      rw [countedDown, List.map_cons, servicePeriod_cons, List.length_cons]
      by_cases hone : k - 1 = 0
      · -- this frame ends the service period
        obtain rfl : k = 1 := by bv_omega
        cases fs with
        | nil => simp [ApOut.eosp, countedDown]
        | cons g fs => simp [ApOut.eosp, countedDown]
      · have hrest := ih hone
        simp only [ApOut.eosp, ApOut.mdata, hone, bne_iff_ne, beq_iff_eq, ne_eq,
          not_false_eq_true, false_and, beq_eq_false_iff_ne, true_and, false_or]
        rw [hrest, hsub]
        omega

/-- What `process_wmmps_data` hands out in a service period. -/
lemma processWmmpsData_out {s : ApPriv n} {i : Fin n} {priority : ℕ}
    (h : (s.sta i).startsServicePeriod priority = true) :
    (processWmmpsData s i priority).2 =
      if (s.sta i).sleepqAcLen ≠ 0 then
        (countedDown (s.sta i).sleepqAcLen
          ((s.sta i).sleepQ.filter (s.sta i).triggers)).map .released
      else [.qosNull i priority false true] := by
  have hreleased : (xmitDeliveryEnabledFrames s i).2 =
      countedDown (s.sta i).sleepqAcLen ((s.sta i).sleepQ.filter (s.sta i).triggers) :=
    deliveryLoop_released (s.sta i).sleepQ (s.sta i).emptySleepQ
  simp only [processWmmpsData, h, if_true, hreleased]
  split <;> rfl

/-! ### Service periods of a run -/

/-- In every reachable state a service period is as it should be if and only if the counter
is right or 0.  It is, in every run in which no PS-Poll takes a frame of a delivery enabled
access category and no association request changes how many of the waiting frames are
delivery enabled. -/
theorem service_period_iff (conf : ApConf) (b : Fin n) (es : List ApEvent) (i : Fin n)
    (priority : ℕ)
    (hstarts : ((apRun conf b es).sta i).startsServicePeriod priority = true) :
    (ServicePeriod (processWmmpsData (apRun conf b es) i priority).2 ↔
      ((apRun conf b es).sta i).sleepqAcLen = 0 ∨
        ((apRun conf b es).sta i).sleepqAcLen.toNat =
          ((apRun conf b es).sta i).deliveryQueued) ∧
    (Lib.Machine.Along (apStep conf) SleepqStepOk (ApPriv.start b) es →
      ServicePeriod (processWmmpsData (apRun conf b es) i priority).2) := by
  have hiff : ServicePeriod (processWmmpsData (apRun conf b es) i priority).2 ↔
      ((apRun conf b es).sta i).sleepqAcLen = 0 ∨
        ((apRun conf b es).sta i).sleepqAcLen.toNat =
          ((apRun conf b es).sta i).deliveryQueued := by
    rw [processWmmpsData_out hstarts]
    by_cases hzero : ((apRun conf b es).sta i).sleepqAcLen = 0
    · rw [if_neg (by simpa using hzero)]
      exact ⟨fun _ => .inl hzero, fun _ => ⟨[], _, rfl, rfl, by simp⟩⟩
    · have htrig : ((apRun conf b es).sta i).triggers = ((apRun conf b es).sta i).delivers :=
        funext fun f => (counted_apRun conf b es i).bits f.priority
      rw [if_pos hzero, servicePeriod_countedDown _ hzero, htrig,
        ← List.countP_eq_length_filter]
      exact ⟨.inr, fun h => h.resolve_left hzero⟩
  refine ⟨hiff, ?_⟩
  intro hes
  exact hiff.2 (.inr (sleepqAcLen_eq_iff.2 (acCounted_apRun hes i).acLen))

/-- A station that uses U-APSD for voice sleeps with two voice frames buffered. -/
def uapsdFramesBuffered : List ApEvent :=
  [.auth (MacAddr.ofBytes 2 0 0 0 0 1) .success,
    .assocReq (MacAddr.ofBytes 2 0 0 0 0 1) .join (some 0x01#8) false,
    .dataFrame (MacAddr.ofBytes 2 0 0 0 0 1) true false 0, .xmit (MacAddr.ofBytes 2 0 0 0 0 1) 6 0,
    .xmit (MacAddr.ofBytes 2 0 0 0 0 1) 7 1]

/-- It gets them in a service period. -/
theorem service_period_of_two_frames :
    ServicePeriod (processWmmpsData
      (apRun { maxAid := 32, maxNumSta := 32 } (0 : Fin 2) uapsdFramesBuffered) 1 6).2 :=
  (service_period_iff _ _ _ _ _ (by decide +kernel)).2 (by decide +kernel)

/-- With the frame fetched by a PS-Poll that is still counted, a service period is started,
and nothing at all is sent. -/
theorem service_period_after_psPoll :
    ¬ ∀ (conf : ApConf) (b : Fin 2) (es : List ApEvent) (i : Fin 2) (priority : ℕ),
      ((apRun conf b es).sta i).startsServicePeriod priority = true →
        ServicePeriod (processWmmpsData (apRun conf b es) i priority).2 := by
  intro h
  have hperiod := h { maxAid := 32, maxNumSta := 32 } 0 psPollOfUapsdFrame 1 6
    (by decide +kernel)
  have hnothing : (processWmmpsData (apRun { maxAid := 32, maxNumSta := 32 } (0 : Fin 2)
      psPollOfUapsdFrame) 1 6).2 = [] := by
    decide +kernel
  rw [hnothing] at hperiod
  exact not_servicePeriod_nil hperiod

end Rtl8723du
