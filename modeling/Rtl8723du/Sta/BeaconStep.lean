import Rtl8723du.Sta.Counters

/-!
# What a join or leave does to the beacon

The ERP element is edited where the number of non-ERP stations goes from zero to one or back,
and from both counters it shows.  The operation mode of the HT operation element is edited
where `rtw_ht_operation_update` finds that the mode is not that of the counters.
-/

namespace Rtl8723du

variable {cfg : BssConfig} {timBitmap : ℕ → Bool} {x x' x'' : CapState} {m : MlmePriv}
  {p q : CapProp} {want : Bool}

/-! ### The HT operation mode -/

/-- The operation mode that belongs to the counters. -/
def opModeOf (cfg : BssConfig) (num : CapProp → ℤ) : BitVec 16 :=
  (if num .htNoGf ≠ 0 then htNonGfDevsPresent else 0) |||
    (if num .noHt ≠ 0 || cfg.olbcHt then htNonHtStaPresent else 0) ||| newOpMode cfg num

/-- The bits of `ht_op_mode` that are ever set. -/
abbrev htOpModeBits : BitVec 16 := 0x0017

/-- The three parts of `rtw_ht_operation_update`, with what they are to be. -/
def htOpModeUpdate (mode : BitVec 16) (nonGf nonHt : Bool) (opMode : BitVec 16) :
    BitVec 16 × ℕ :=
  let x := htOpModeBit (htOpModeBit (mode, 0) htNonGfDevsPresent nonGf) htNonHtStaPresent nonHt
  if x.1 &&& htOpModeMask ≠ opMode then (x.1 &&& ~~~htOpModeMask ||| opMode, x.2 + 1) else x

lemma rtwHtOperationUpdate_eq (hht : cfg.htOption = true) : rtwHtOperationUpdate cfg m =
    ({ m with
        htOpMode := (htOpModeUpdate m.htOpMode (m.num .htNoGf ≠ 0)
          (m.num .noHt ≠ 0 || cfg.olbcHt) (newOpMode cfg m.num)).1 },
      (htOpModeUpdate m.htOpMode (m.num .htNoGf ≠ 0)
        (m.num .noHt ≠ 0 || cfg.olbcHt) (newOpMode cfg m.num)).2) := by
  rw [rtwHtOperationUpdate, if_neg (by simp [hht])]
  rfl

/-- All modes at once: the update makes the mode what it is to be, and counts no change
exactly if it was that. -/
lemma htOpModeUpdate_all : ∀ mode : Fin 24, ∀ nonGf nonHt : Bool, ∀ opMode : Fin 4,
    let want := (if nonGf then htNonGfDevsPresent else 0) |||
      (if nonHt then htNonHtStaPresent else 0) ||| BitVec.ofNat 16 opMode
    let old := BitVec.ofNat 16 mode
    let x := htOpModeUpdate old nonGf nonHt (BitVec.ofNat 16 opMode)
    want &&& htOpModeBits = want ∧
      (old &&& htOpModeBits = old → x.1 = want ∧ (x.2 = 0 ↔ old = want)) := by
  decide +kernel

lemma newOpMode_eq (cfg : BssConfig) (num : CapProp → ℤ) :
    ∃ k : Fin 4, newOpMode cfg num = BitVec.ofNat 16 k := by
  unfold newOpMode
  split_ifs
  · exact ⟨3, rfl⟩
  · exact ⟨2, rfl⟩
  · exact ⟨1, rfl⟩
  · exact ⟨0, rfl⟩

/-- Only the bits of the mode are set. -/
def OpModeBits (mode : BitVec 16) : Prop := mode &&& htOpModeBits = mode

lemma OpModeBits.exists_fin {mode : BitVec 16} (h : OpModeBits mode) :
    ∃ k : Fin 24, mode = BitVec.ofNat 16 k := by
  have hle : mode.toNat ≤ 23 := by
    rw [← h, BitVec.toNat_and]
    exact Nat.and_le_right
  exact ⟨⟨mode.toNat, by omega⟩, by simp⟩

/-- One update of the mode: it is that of the counters, and a mode that was is kept. -/
lemma htOpModeUpdate_eq (cfg : BssConfig) (num : CapProp → ℤ) {mode : BitVec 16}
    (hmode : OpModeBits mode) :
    let x := htOpModeUpdate mode (num .htNoGf ≠ 0) (num .noHt ≠ 0 || cfg.olbcHt)
      (newOpMode cfg num)
    x.1 = opModeOf cfg num ∧ OpModeBits (opModeOf cfg num) ∧
      (x.2 = 0 ↔ mode = opModeOf cfg num) := by
  obtain ⟨k, hk⟩ := newOpMode_eq cfg num
  obtain ⟨old, hold⟩ := hmode.exists_fin
  have hall := htOpModeUpdate_all old (num .htNoGf ≠ 0) (num .noHt ≠ 0 || cfg.olbcHt) k
  rw [← hk, ← hold] at hall
  simp only [opModeOf]
  simp only [decide_eq_true_eq] at hall
  exact ⟨(hall.2 hmode).1, hall.1, (hall.2 hmode).2⟩

/-- The element shows the mode. -/
structure HtShows (cfg : BssConfig) (m : MlmePriv) : Prop where
  bits : OpModeBits m.htOpMode
  element : cfg.htOption = true → cfg.htInfoEnable = true →
    ∀ htInfo ∈ m.beacon.htInfo, htInfo.opMode = m.htOpMode

lemma HtShows.congr {m' : MlmePriv} (h : HtShows cfg m)
    (hinfo : m'.beacon.htInfo = m.beacon.htInfo) (hmode : m'.htOpMode = m.htOpMode) :
    HtShows cfg m' where
  bits := by
    rw [hmode]
    exact h.bits
  element := fun hht henable htInfo hin => by
    rw [hmode]
    exact h.element hht henable htInfo (hinfo ▸ hin)

lemma htOperation_of_off (hht : cfg.htOption = false) :
    htOperation cfg timBitmap m = (m, false) := by
  simp [htOperation, rtwHtOperationUpdate, hht]

/-- The element is edited, or there is nothing to edit. -/
lemma updateBcnHtinfoIe_cases (cfg : BssConfig) (m : MlmePriv) :
    (updateBcnHtinfoIe cfg m = m ∧
      (cfg.htOption = false ∨ cfg.htInfoEnable = false ∨ m.beacon.htInfo = none)) ∨
    ∃ (htInfo : HtInfo) (sw : Bool), cfg.htInfoEnable = true ∧ m.beacon.htInfo ≠ none ∧
      updateBcnHtinfoIe cfg m =
        { m with
          swTo20mhz := sw
          beacon.htInfo := some { htInfo with opMode := m.htOpMode } } := by
  unfold updateBcnHtinfoIe
  split
  · rename_i hoff
    exact Or.inl ⟨rfl, by tauto⟩
  · rename_i hon
    have henable : cfg.htInfoEnable = true := by
      cases hinfo : cfg.htInfoEnable with
      | true => rfl
      | false => exact absurd (Or.inr hinfo) hon
    cases hinfo : m.beacon.htInfo with
    | none => exact Or.inl ⟨rfl, Or.inr (Or.inr rfl)⟩
    | some htInfo =>
        exact Or.inr ⟨(updateChlWidth cfg m htInfo).1, _, henable, by simp, rfl⟩

lemma HtShows.updateBcnHtinfoIe (cfg : BssConfig) (m : MlmePriv)
    (hbits : OpModeBits m.htOpMode) :
    HtShows cfg (updateBcnHtinfoIe cfg m) ∧
      (Rtl8723du.updateBcnHtinfoIe cfg m).htOpMode = m.htOpMode ∧
      (Rtl8723du.updateBcnHtinfoIe cfg m).beacon.erpInfo = m.beacon.erpInfo := by
  rcases updateBcnHtinfoIe_cases cfg m with ⟨hsame, hoff⟩ | ⟨htInfo, sw, -, -, hres⟩
  · rw [hsame]
    refine ⟨⟨hbits, fun hht hinfo info hin => ?_⟩, rfl, rfl⟩
    rcases hoff with hno | hno | hno
    · exact absurd (hht.symm.trans hno) (by simp)
    · exact absurd (hinfo.symm.trans hno) (by simp)
    · rw [hno] at hin
      cases hin
  · rw [hres]
    refine ⟨⟨hbits, fun _ _ info hin => ?_⟩, rfl, rfl⟩
    obtain rfl : { htInfo with opMode := m.htOpMode } = info := by simpa using hin
    rfl

/-- The two updates that follow a change of the mode. -/
lemma updateBeacon_htAddInfo (hstart : cfg.bstartBss = true) (m : MlmePriv) :
    updateBeacon cfg timBitmap .htAddInfo (updateBeacon cfg timBitmap .other m) =
      { updateBcnHtinfoIe cfg { m with updateBcn := true } with updateBcn := true } := by
  simp [updateBeacon, hstart]

/-- The update of the mode, with the element. -/
lemma htOperation_shows (timBitmap : ℕ → Bool) (hstart : cfg.bstartBss = true) (h : HtShows cfg m) :
    HtShows cfg (htOperation cfg timBitmap m).1 ∧
      (cfg.htOption = true → (htOperation cfg timBitmap m).1.htOpMode = opModeOf cfg m.num) ∧
      (htOperation cfg timBitmap m).1.beacon.erpInfo = m.beacon.erpInfo := by
  cases hht : cfg.htOption with
  | false =>
      rw [htOperation_of_off hht]
      exact ⟨h, fun hno => absurd hno Bool.false_ne_true, rfl⟩
  | true =>
      obtain ⟨hmode, hbits, hkept⟩ := htOpModeUpdate_eq cfg m.num h.bits
      unfold htOperation
      rw [rtwHtOperationUpdate_eq hht, hmode]
      simp only
      split
      · rw [updateBeacon_htAddInfo hstart]
        have hedit := HtShows.updateBcnHtinfoIe cfg
          { m with htOpMode := opModeOf cfg m.num, updateBcn := true } hbits
        exact ⟨⟨hedit.1.bits, hedit.1.element⟩, fun _ => hedit.2.1, hedit.2.2⟩
      · rename_i hnone
        have hsame : m.htOpMode = opModeOf cfg m.num := hkept.1 (by omega)
        refine ⟨⟨hbits, fun hht hinfo info hin => ?_⟩, fun _ => rfl, rfl⟩
        rw [h.element hht hinfo info hin]
        exact hsame

/-- The beacon changes only with the mode, and only if there is an element to edit. -/
lemma htOperation_beacon (hstart : cfg.bstartBss = true) (h : HtShows cfg m)
    (hkeep : cfg.htOption = true → cfg.htInfoEnable = true → m.beacon.htInfo ≠ none →
      m.htOpMode = opModeOf cfg m.num) :
    (htOperation cfg timBitmap m).1.beacon = m.beacon := by
  cases hht : cfg.htOption with
  | false => rw [htOperation_of_off hht]
  | true =>
      obtain ⟨hmode, hbits, hkept⟩ := htOpModeUpdate_eq cfg m.num h.bits
      unfold htOperation
      rw [rtwHtOperationUpdate_eq hht]
      simp only
      split
      · rename_i hchanged
        rw [updateBeacon_htAddInfo hstart]
        rcases updateBcnHtinfoIe_cases cfg { m with
            htOpMode := (htOpModeUpdate m.htOpMode (m.num .htNoGf ≠ 0)
              (m.num .noHt ≠ 0 || cfg.olbcHt) (newOpMode cfg m.num)).1
            updateBcn := true } with ⟨hsame, -⟩ | ⟨htInfo, sw, henable, hinfo, -⟩
        · rw [hsame]
        · -- an element was edited, but the mode is what it was
          have hzero := hkept.2 (hkeep hht henable hinfo)
          exact absurd (Nat.le_of_eq hzero) (by omega)
      · rfl

lemma htOperation_snd (h : HtShows cfg m) (hht : cfg.htOption = true)
    (hnone : (htOperation cfg timBitmap m).2 = false) : m.htOpMode = opModeOf cfg m.num := by
  obtain ⟨-, -, hkept⟩ := htOpModeUpdate_eq cfg m.num h.bits
  refine hkept.1 ?_
  unfold htOperation at hnone
  rw [rtwHtOperationUpdate_eq hht] at hnone
  by_contra hchanged
  simp only [if_pos (Nat.pos_of_ne_zero hchanged)] at hnone
  exact Bool.false_ne_true hnone.symm

/-! ### The ERP element -/

/-- The element shows what the counters say. -/
structure ErpShows (num : CapProp → ℤ) (data : BitVec 8) : Prop where
  nonErpPresent : data.getLsbD 0 = decide (0 < num .nonErp)
  useProtection : data.getLsbD 1 = decide (0 < num .nonErp)
  barkerPreamble : data.getLsbD 2 = decide (0 < num .noShortPreamble)

lemma ErpShows.congr {num num' : CapProp → ℤ} {data : BitVec 8} (h : ErpShows num data)
    (herp : 0 < num' .nonErp ↔ 0 < num .nonErp)
    (hpreamble : 0 < num' .noShortPreamble ↔ 0 < num .noShortPreamble) : ErpShows num' data where
  nonErpPresent := h.nonErpPresent.trans (decide_eq_decide.2 herp.symm)
  useProtection := h.useProtection.trans (decide_eq_decide.2 herp.symm)
  barkerPreamble := h.barkerPreamble.trans (decide_eq_decide.2 hpreamble.symm)

/-- The three bits that `update_bcn_erpinfo_ie` writes. -/
lemma erpShows_setBits {num : CapProp → ℤ} (data : BitVec 8)
    (hone : num .nonErp = 1 ↔ 0 < num .nonErp) :
    ErpShows num (setBits (setBits data erpNonErpBits (num .nonErp == 1)) erpBarkerBit
      (0 < num .noShortPreamble)) := by
  have hbits : ∀ (data : BitVec 8) (a b : Bool),
      (setBits (setBits data erpNonErpBits a) erpBarkerBit b).getLsbD 0 = a ∧
        (setBits (setBits data erpNonErpBits a) erpBarkerBit b).getLsbD 1 = a ∧
        (setBits (setBits data erpNonErpBits a) erpBarkerBit b).getLsbD 2 = b := by
    intro data a b
    cases a <;> cases b <;> simp [setBits]
  obtain ⟨hzero, hfirst, hsecond⟩ := hbits data (num .nonErp == 1) (0 < num .noShortPreamble)
  have hbool : (num .nonErp == 1) = decide (0 < num .nonErp) := by
    rw [Bool.eq_iff_iff]
    simpa using hone
  exact ⟨hzero.trans hbool, hfirst.trans hbool, hsecond⟩

/-- The counters are no less than the flags of the station. -/
def Counted (x : CapState) (p : CapProp) : Prop := Lib.Links.share (x.2.capSet p) ≤ x.1.num p

lemma capSwitch_num_ne (hqp : q ≠ p) : (capSwitch want p x).1.num q = x.1.num q := by
  unfold capSwitch capEnter capLeave
  split <;> split <;> simp [Function.update_of_ne hqp]

/-- A switch that is no turn leaves the counter zero or not. -/
lemma capSwitch_pos_of_not_turns (hcounted : Counted x p) (hturns : capTurns want p x = false) :
    0 < (capSwitch want p x).1.num p ↔ 0 < x.1.num p := by
  unfold Counted at hcounted
  unfold capTurns at hturns
  unfold capSwitch capEnter capLeave
  cases want <;> cases hin : x.2.capSet p <;>
    simp [hin, Lib.Links.share] at hturns hcounted ⊢ <;> omega

/-- A turn is to one or to zero. -/
lemma capSwitch_num_of_turns (hturns : capTurns want p x = true) :
    (capSwitch want p x).1.num p = Lib.Links.share want := by
  unfold capTurns at hturns
  unfold capSwitch capEnter capLeave
  cases want <;> cases hin : x.2.capSet p <;>
    simp [hin, Lib.Links.share] at hturns ⊢ <;> omega

lemma capSwitch_beacon (want : Bool) (p : CapProp) (x : CapState) :
    (capSwitch want p x).1.beacon = x.1.beacon ∧
      (capSwitch want p x).1.htOpMode = x.1.htOpMode := by
  unfold capSwitch capEnter capLeave
  split <;> split <;> exact ⟨rfl, rfl⟩

/-- Another counter is no reason to turn. -/
lemma capTurns_capSwitch (want other : Bool) (x : CapState) (hqp : q ≠ p) :
    capTurns want q (capSwitch other p x) = capTurns want q x := by
  unfold capTurns
  rw [capSwitch_num_ne hqp, capSwitch_capSet, if_neg hqp]

lemma erpSwitch_of_not_turns (hturns : capTurns want .nonErp x = false) :
    erpSwitch cfg timBitmap want x = capSwitch want .nonErp x := by
  rw [erpSwitch, if_neg (by simp [hturns])]

lemma erpSwitch_of_turns (hstart : cfg.bstartBss = true)
    (hturns : capTurns want .nonErp x = true) :
    (erpSwitch cfg timBitmap want x).1 =
      { updateBcnErpinfoIe cfg (capSwitch want .nonErp x).1 with updateBcn := true } := by
  rw [erpSwitch, if_pos hturns]
  simp [CapState.mapMlme, updateBeacon, hstart]

/-- The first two counters of a join or leave, and the element: it shows the counters if the
number of stations without short preamble turns only together with that of non-ERP
stations. -/
lemma erpSwitch_shows {w : Bool} (hstart : cfg.bstartBss = true) (herp : cfg.erpEnable = true)
    (hcounted : Counted x .noShortPreamble) (hcounted' : Counted x .nonErp)
    (hmoves : x.1.beacon.erpInfo ≠ none → capTurns want .noShortPreamble x = true →
      capTurns w .nonErp x = true)
    (h : ∀ data ∈ x.1.beacon.erpInfo, ErpShows x.1.num data) :
    let x₂ := erpSwitch cfg timBitmap w (capSwitch want .noShortPreamble x)
    ∀ data ∈ x₂.1.beacon.erpInfo, ErpShows x₂.1.num data := by
  intro x₂ data hdata
  have hne : CapProp.nonErp ≠ .noShortPreamble := by decide
  have hsame := capTurns_capSwitch w want x hne
  set x₁ := capSwitch want .noShortPreamble x with hx₁
  have hbeacon := (capSwitch_beacon want .noShortPreamble x).1
  cases hturns : capTurns w .nonErp x with
  | true =>
      rw [hturns] at hsame
      have hx₂ : x₂.1 = _ := erpSwitch_of_turns hstart hsame
      rw [hx₂] at hdata ⊢
      simp only [updateBcnErpinfoIe, herp, if_true] at hdata ⊢
      obtain ⟨old, -, rfl⟩ := Option.mem_map.1 hdata
      refine erpShows_setBits old ?_
      rw [capSwitch_num_of_turns hsame]
      cases w <;> decide
  | false =>
      rw [hturns] at hsame
      have hx₂ : x₂ = capSwitch w .nonErp x₁ := erpSwitch_of_not_turns hsame
      rw [hx₂] at hdata ⊢
      rw [(capSwitch_beacon w .nonErp x₁).1, hbeacon] at hdata
      have hpreamble : capTurns want .noShortPreamble x = false := by
        by_contra hno
        rw [Bool.not_eq_false] at hno
        have := hmoves (by rintro hnone; rw [hnone] at hdata; cases hdata) hno
        exact Bool.false_ne_true (hturns.symm.trans this)
      have hcounted₁ : Counted x₁ .nonErp := by
        unfold Counted
        rw [capSwitch_num_ne hne, capSwitch_capSet, if_neg hne]
        exact hcounted'
      refine (h data hdata).congr ?_ ?_
      · rw [capSwitch_pos_of_not_turns hcounted₁ hsame, capSwitch_num_ne hne]
      · rw [capSwitch_num_ne hne.symm, capSwitch_pos_of_not_turns hcounted hpreamble]

/-- The element is that from before if the number of non-ERP stations does not turn. -/
lemma erpSwitch_beacon {w : Bool} (hturns : capTurns w .nonErp x = false) :
    (erpSwitch cfg timBitmap w x).1.beacon = x.1.beacon := by
  rw [erpSwitch_of_not_turns hturns]
  exact (capSwitch_beacon w .nonErp x).1

lemma erpSwitch_ht (cfg : BssConfig) (timBitmap : ℕ → Bool) (w : Bool) (x : CapState)
    (hstart : cfg.bstartBss = true) :
    (erpSwitch cfg timBitmap w x).1.beacon.htInfo = x.1.beacon.htInfo ∧
      (erpSwitch cfg timBitmap w x).1.htOpMode = x.1.htOpMode := by
  obtain ⟨hbeacon, hmode⟩ := capSwitch_beacon w .nonErp x
  cases hturns : capTurns w .nonErp x with
  | false =>
      rw [erpSwitch_of_not_turns hturns, hbeacon, hmode]
      exact ⟨rfl, rfl⟩
  | true =>
      rw [erpSwitch_of_turns hstart hturns, ← hbeacon, ← hmode]
      unfold updateBcnErpinfoIe
      split <;> exact ⟨rfl, rfl⟩

/-! ### A join or leave -/

/-- Neither the beacon nor the two counters of the ERP element change. -/
structure SameErp (x x' : CapState) : Prop where
  beacon : x'.1.beacon = x.1.beacon
  htOpMode : x'.1.htOpMode = x.1.htOpMode
  nonErp : x'.1.num .nonErp = x.1.num .nonErp
  noShortPreamble : x'.1.num .noShortPreamble = x.1.num .noShortPreamble

lemma SameErp.refl (x : CapState) : SameErp x x := ⟨rfl, rfl, rfl, rfl⟩

lemma SameErp.trans (h : SameErp x x') (h' : SameErp x' x'') : SameErp x x'' :=
  ⟨h'.beacon.trans h.beacon, h'.htOpMode.trans h.htOpMode, h'.nonErp.trans h.nonErp,
    h'.noShortPreamble.trans h.noShortPreamble⟩

lemma sameErp_capSwitch (want : Bool) (herp : .nonErp ≠ p) (hpreamble : .noShortPreamble ≠ p)
    (x : CapState) : SameErp x (capSwitch want p x) :=
  ⟨(capSwitch_beacon want p x).1, (capSwitch_beacon want p x).2, capSwitch_num_ne herp,
    capSwitch_num_ne hpreamble⟩

lemma sameErp_capEnter (herp : .nonErp ≠ p) (hpreamble : .noShortPreamble ≠ p) (x : CapState) :
    SameErp x (capEnter p x) := sameErp_capSwitch true herp hpreamble x

lemma sameErp_capLeave (herp : .nonErp ≠ p) (hpreamble : .noShortPreamble ≠ p) (x : CapState) :
    SameErp x (capLeave p x) := sameErp_capSwitch false herp hpreamble x

lemma sameErp_capEnterIf (want : Bool) (herp : .nonErp ≠ p) (hpreamble : .noShortPreamble ≠ p)
    (x : CapState) : SameErp x (capEnterIf want p x) := by
  unfold capEnterIf
  split
  · exact sameErp_capEnter herp hpreamble x
  · exact SameErp.refl x

lemma sameErp_joinHt (x : CapState) : SameErp x (joinHt x) := by
  have hintolerant (x : CapState) : SameErp x (countIntolerant x) := by
    unfold countIntolerant
    split <;> exact ⟨rfl, rfl, rfl, rfl⟩
  unfold joinHt
  split
  · exact ((sameErp_capLeave (by decide) (by decide) x).trans
      (sameErp_capEnterIf _ (by decide) (by decide) _)).trans
      ((sameErp_capEnterIf _ (by decide) (by decide) _).trans (hintolerant _))
  · exact sameErp_capEnter (by decide) (by decide) x

lemma sameErp_leaveHt (x : CapState) : SameErp x (leaveHt x) := by
  have hintolerant (x : CapState) : SameErp x (uncountIntolerant x) := by
    unfold uncountIntolerant
    split <;> exact ⟨rfl, rfl, rfl, rfl⟩
  exact ((sameErp_capLeave (by decide) (by decide) x).trans
    (sameErp_capLeave (by decide) (by decide) _)).trans
    ((sameErp_capLeave (by decide) (by decide) _).trans (hintolerant _))

/-- The beacon as it is to be: the ERP element shows the counters, and the HT operation
element the mode that belongs to them. -/
structure Reflects (cfg : BssConfig) (m : MlmePriv) : Prop where
  erp : cfg.erpEnable = true → ∀ data ∈ m.beacon.erpInfo, ErpShows m.num data
  ht : cfg.htOption = true → cfg.htInfoEnable = true → ∀ htInfo ∈ m.beacon.htInfo,
    htInfo.opMode = opModeOf cfg m.num

/-- What holds of the beacon all the time. -/
structure BeaconInv (cfg : BssConfig) (m : MlmePriv) : Prop where
  erp : cfg.erpEnable = true → ∀ data ∈ m.beacon.erpInfo, ErpShows m.num data
  ht : HtShows cfg m

/-- Where the number of stations without short preamble turns, that of non-ERP stations
does. -/
def PreambleWithErp (cfg : BssConfig) (x : CapState) (noShortPreamble nonErp : Bool) : Prop :=
  cfg.erpEnable = true → x.1.beacon.erpInfo ≠ none →
    capTurns noShortPreamble .noShortPreamble x = true → capTurns nonErp .nonErp x = true

/-- The HT part of the beacon before the update of the mode. -/
lemma SameErp.ht {w : Bool} (hstart : cfg.bstartBss = true)
    (hsame : SameErp (erpSwitch cfg timBitmap w (capSwitch want .noShortPreamble x)) x') :
    x'.1.beacon.htInfo = x.1.beacon.htInfo ∧ x'.1.htOpMode = x.1.htOpMode := by
  obtain ⟨hbeacon, hmode⟩ := capSwitch_beacon want .noShortPreamble x
  obtain ⟨hinfo₂, hmode₂⟩ := erpSwitch_ht cfg timBitmap w
    (capSwitch want .noShortPreamble x) hstart
  rw [hsame.beacon, hinfo₂, hbeacon, hsame.htOpMode, hmode₂, hmode]
  exact ⟨rfl, rfl⟩

/-- What a join and a leave have in common: the first two counters, some others, and the HT
operation mode. -/
lemma htOperation_erpSwitch {w : Bool} (hstart : cfg.bstartBss = true)
    (hcounted : Counted x .noShortPreamble) (hcounted' : Counted x .nonErp)
    (hmoves : PreambleWithErp cfg x want w) (h : BeaconInv cfg x.1)
    (hsame : SameErp (erpSwitch cfg timBitmap w (capSwitch want .noShortPreamble x)) x') :
    BeaconInv cfg (htOperation cfg timBitmap x'.1).1 ∧
      Reflects cfg (htOperation cfg timBitmap x'.1).1 ∧
      (capTurns w .nonErp (capSwitch want .noShortPreamble x) = false →
        (cfg.htOption = true → cfg.htInfoEnable = true → x.1.beacon.htInfo ≠ none →
          x.1.htOpMode = opModeOf cfg x'.1.num) →
        (htOperation cfg timBitmap x'.1).1.beacon = x.1.beacon) := by
  obtain ⟨hinfo', hmode'⟩ := hsame.ht hstart
  have hht : HtShows cfg x'.1 := h.ht.congr hinfo' hmode'
  obtain ⟨hshows, hof, herpInfo⟩ := htOperation_shows timBitmap hstart hht
  have hnum := htOperation_num cfg timBitmap x'.1
  have herp (henable : cfg.erpEnable = true) :
      ∀ data ∈ (htOperation cfg timBitmap x'.1).1.beacon.erpInfo,
        ErpShows (htOperation cfg timBitmap x'.1).1.num data := by
    intro data hdata
    rw [herpInfo, hsame.beacon] at hdata
    rw [hnum]
    have hold := erpSwitch_shows hstart henable hcounted hcounted' (hmoves henable)
      (h.erp henable) data hdata
    exact hold.congr (by rw [hsame.nonErp]) (by rw [hsame.noShortPreamble])
  refine ⟨⟨herp, hshows⟩, ⟨herp, fun hoption henable htInfo hin => ?_⟩, fun hturns hkeep => ?_⟩
  · rw [hshows.element hoption henable htInfo hin, hof hoption, hnum]
  · rw [htOperation_beacon hstart hht (by rw [hinfo', hmode']; exact hkeep), hsame.beacon,
      erpSwitch_beacon hturns, (capSwitch_beacon want .noShortPreamble x).1]

lemma htOption_of_htSupported (hht : cfg.htSupported = false) : cfg.htOption = false := by
  rw [BssConfig.htOption, hht, Bool.false_and]

/-- A join as the stages that the beacon is about. -/
lemma joinCaps_stages (cfg : BssConfig) (timBitmap : ℕ → Bool) (x : CapState) :
    ∃ x', SameErp (erpSwitch cfg timBitmap x.2.flags.nonErp
        (capSwitch (!x.2.flags.shortPreamble) .noShortPreamble x)) x' ∧
      (joinCaps cfg timBitmap x).1.1 = (htOperation cfg timBitmap x'.1).1 ∧
      ((joinCaps cfg timBitmap x).2 = false →
        capTurns x.2.flags.nonErp .nonErp
            (capSwitch (!x.2.flags.shortPreamble) .noShortPreamble x) = false ∧
          (htOperation cfg timBitmap x'.1).2 = false) := by
  have hslot := sameErp_capSwitch x.2.noShortSlot (p := .noShortSlotTime) (by decide)
    (by decide) (erpSwitch cfg timBitmap x.2.flags.nonErp
      (capSwitch (!x.2.flags.shortPreamble) .noShortPreamble x))
  unfold joinCaps
  cases hht : cfg.htSupported with
  | true =>
      refine ⟨_, hslot.trans (sameErp_joinHt _), rfl, fun hnone => ?_⟩
      simp only [if_true, Bool.or_eq_false_iff] at hnone
      exact ⟨hnone.1.1.2, hnone.2⟩
  | false =>
      refine ⟨_, hslot, ?_, fun hnone => ?_⟩
      · rw [htOperation_of_off (htOption_of_htSupported hht)]
        rfl
      · rw [htOperation_of_off (htOption_of_htSupported hht)]
        simp only [Bool.false_eq_true, if_false, Bool.or_eq_false_iff] at hnone
        exact ⟨hnone.1.1.2, rfl⟩

/-- The beacon after a join. -/
lemma joinCaps_beacon (timBitmap : ℕ → Bool) (hstart : cfg.bstartBss = true)
    (hcounted : Counted x .noShortPreamble)
    (hcounted' : Counted x .nonErp)
    (hmoves : PreambleWithErp cfg x (!x.2.flags.shortPreamble) x.2.flags.nonErp)
    (h : BeaconInv cfg x.1) :
    BeaconInv cfg (joinCaps cfg timBitmap x).1.1 ∧
      Reflects cfg (joinCaps cfg timBitmap x).1.1 ∧
      ((joinCaps cfg timBitmap x).2 = false →
        (joinCaps cfg timBitmap x).1.1.beacon = x.1.beacon) := by
  obtain ⟨x', hsame, heq, hnone⟩ := joinCaps_stages cfg timBitmap x
  obtain ⟨hinv, hreflects, hkeep⟩ :=
    htOperation_erpSwitch hstart hcounted hcounted' hmoves h hsame
  rw [heq]
  refine ⟨hinv, hreflects, fun hno => hkeep (hnone hno).1 fun hht _ _ => ?_⟩
  obtain ⟨hinfo', hmode'⟩ := hsame.ht hstart
  rw [← hmode']
  exact htOperation_snd (h.ht.congr hinfo' hmode') hht (hnone hno).2

/-- A leave as the stages that the beacon is about. -/
lemma leaveCaps_stages (cfg : BssConfig) (timBitmap : ℕ → Bool) (x : CapState) :
    SameErp (erpSwitch cfg timBitmap false (capSwitch false .noShortPreamble x))
        (leaveHt (capLeave .noShortSlotTime
          (erpSwitch cfg timBitmap false (capSwitch false .noShortPreamble x)))) ∧
      (leaveCaps cfg timBitmap x).1.1 = (htOperation cfg timBitmap
        (leaveHt (capLeave .noShortSlotTime
          (erpSwitch cfg timBitmap false (capSwitch false .noShortPreamble x)))).1).1 :=
  ⟨(sameErp_capLeave (by decide) (by decide) _).trans (sameErp_leaveHt _), rfl⟩

/-- The counters without a station. -/
def CapState.without (x : CapState) : CapProp → ℤ := fun p =>
  x.1.num p - Lib.Links.share (x.2.capSet p)

lemma leaveCaps_num (cfg : BssConfig) (timBitmap : ℕ → Bool) (x : CapState) :
    (leaveCaps cfg timBitmap x).1.1.num = x.without := by
  funext p
  have hbalance := (capStep_leaveCaps cfg timBitmap x).balance p
  rw [leaveCaps_capSet, Lib.Links.share_false] at hbalance
  rw [CapState.without]
  omega

/-- The beacon after a leave. -/
lemma leaveCaps_beacon (timBitmap : ℕ → Bool) (hstart : cfg.bstartBss = true)
    (hcounted : Counted x .noShortPreamble)
    (hcounted' : Counted x .nonErp) (hmoves : PreambleWithErp cfg x false false)
    (h : BeaconInv cfg x.1) :
    BeaconInv cfg (leaveCaps cfg timBitmap x).1.1 ∧
      Reflects cfg (leaveCaps cfg timBitmap x).1.1 ∧
      ((leaveCaps cfg timBitmap x).2 = false →
        (cfg.htOption = true → cfg.htInfoEnable = true → x.1.beacon.htInfo ≠ none →
          x.1.htOpMode = opModeOf cfg x.without) →
        (leaveCaps cfg timBitmap x).1.1.beacon = x.1.beacon) := by
  obtain ⟨hsame, heq⟩ := leaveCaps_stages cfg timBitmap x
  obtain ⟨hinv, hreflects, hkeep⟩ :=
    htOperation_erpSwitch hstart hcounted hcounted' hmoves h hsame
  rw [← leaveCaps_num cfg timBitmap, heq, htOperation_num]
  refine ⟨hinv, hreflects, fun hno hmode => hkeep ?_ hmode⟩
  simp only [leaveCaps, Bool.or_eq_false_iff] at hno
  exact hno.1.2

end Rtl8723du
