import Rtl8723du.Sta.ApRun

/-!
# What a join or leave does to the counters

A join or leave writes the flags of one station and the counters, and what a counter is
higher than the flag of the station stays the same: `CapStep`.  The flags afterwards are those
of the station that joins, but for the two HT flags that a join never clears.
-/

namespace Rtl8723du

open Lib.Links

/-- The flags of the counted properties are written. -/
def Sta.withCaps (sta : Sta) (capSet : CapProp → Bool) (intolerant : Bool) : Sta :=
  { sta with capSet := capSet, ht40mhzIntolerant := intolerant }

@[simp] lemma Sta.withCaps_withCaps (sta : Sta) (c c' : CapProp → Bool) (b b' : Bool) :
    (sta.withCaps c b).withCaps c' b' = sta.withCaps c' b' := rfl

variable {cfg : BssConfig} {timBitmap : ℕ → Bool} {x x' x'' : CapState} {p q : CapProp}
  {want : Bool}

/-- Only flags and counters are written, and they go together. -/
structure CapStep (x x' : CapState) : Prop where
  sta : ∃ c b, x'.2 = x.2.withCaps c b
  balance : ∀ p, x'.1.num p - share (x'.2.capSet p) = x.1.num p - share (x.2.capSet p)

lemma CapStep.refl (x : CapState) : CapStep x x := ⟨⟨_, _, rfl⟩, fun _ => rfl⟩

lemma CapStep.trans (h : CapStep x x') (h' : CapStep x' x'') : CapStep x x'' where
  sta := by
    obtain ⟨c, b, hsta⟩ := h.sta
    obtain ⟨c', b', hsta'⟩ := h'.sta
    exact ⟨c', b', by rw [hsta', hsta, Sta.withCaps_withCaps]⟩
  balance := fun p => (h'.balance p).trans (h.balance p)

lemma CapStep.flags (h : CapStep x x') : x'.2.flags = x.2.flags := by
  obtain ⟨c, b, hsta⟩ := h.sta
  rw [hsta]
  rfl

lemma CapStep.htCapInfo (h : CapStep x x') : x'.2.htCapInfo = x.2.htCapInfo := by
  obtain ⟨c, b, hsta⟩ := h.sta
  rw [hsta]
  rfl

lemma CapStep.capability (h : CapStep x x') : x'.2.capability = x.2.capability := by
  obtain ⟨c, b, hsta⟩ := h.sta
  rw [hsta]
  rfl

/-! ### One counter -/

lemma capStep_capEnter (p : CapProp) (x : CapState) : CapStep x (capEnter p x) := by
  rw [capEnter]
  split
  · exact CapStep.refl x
  · rename_i hout
    refine ⟨⟨_, _, rfl⟩, fun q => ?_⟩
    simp only [Function.update_apply]
    split
    · rename_i hqp
      rw [Bool.not_eq_true] at hout
      rw [hqp, hout]
      simp
    · rfl

lemma capStep_capLeave (p : CapProp) (x : CapState) : CapStep x (capLeave p x) := by
  rw [capLeave]
  split
  · rename_i hin
    refine ⟨⟨_, _, rfl⟩, fun q => ?_⟩
    simp only [Function.update_apply]
    split
    · rename_i hqp
      rw [hqp, hin]
      simp
    · rfl
  · exact CapStep.refl x

lemma capStep_capSwitch (want : Bool) (p : CapProp) (x : CapState) :
    CapStep x (capSwitch want p x) := by
  rw [capSwitch]
  split
  · exact capStep_capEnter p x
  · exact capStep_capLeave p x

/-- The flag of the property is set, and no other is written. -/
lemma capEnter_capSet : (capEnter p x).2.capSet q = if q = p then true else x.2.capSet q := by
  rw [capEnter]
  split
  · rename_i hin
    split
    · rename_i hqp
      rw [hqp, hin]
    · rfl
  · exact Function.update_apply ..

lemma capLeave_capSet : (capLeave p x).2.capSet q = if q = p then false else x.2.capSet q := by
  rw [capLeave]
  split
  · exact Function.update_apply ..
  · rename_i hout
    split
    · rename_i hqp
      rw [Bool.not_eq_true] at hout
      rw [hqp, hout]
    · rfl

lemma capSwitch_capSet :
    (capSwitch want p x).2.capSet q = if q = p then want else x.2.capSet q := by
  rw [capSwitch]
  cases want
  · exact capLeave_capSet
  · exact capEnter_capSet

lemma capEnterIf_capSet : (capEnterIf want p x).2.capSet q =
    if q = p then want || x.2.capSet p else x.2.capSet q := by
  rw [capEnterIf]
  cases want
  · split <;> simp_all
  · simpa using capEnter_capSet

/-! ### The beacon -/

lemma updateBeacon_num (cfg : BssConfig) (timBitmap : ℕ → Bool) (ieId : BcnIe) (m : MlmePriv) :
    (updateBeacon cfg timBitmap ieId m).num = m.num := by
  unfold updateBeacon updateBcnErpinfoIe updateBcnHtinfoIe
  cases ieId <;> simp only <;> split_ifs <;> first | rfl | (split <;> rfl)

lemma htOperation_num (cfg : BssConfig) (timBitmap : ℕ → Bool) (m : MlmePriv) :
    (htOperation cfg timBitmap m).1.num = m.num := by
  have hupdate : (rtwHtOperationUpdate cfg m).1.num = m.num := by
    rw [rtwHtOperationUpdate]
    split <;> rfl
  rw [htOperation]
  simp only
  split
  · rw [updateBeacon_num, updateBeacon_num, hupdate]
  · exact hupdate

/-- What is done to the beacon is no change of the counters. -/
lemma capStep_mlme {m : MlmePriv} (hnum : m.num = x.1.num) : CapStep x (m, x.2) :=
  ⟨⟨_, _, rfl⟩, fun p => by rw [hnum]⟩

lemma capStep_erpSwitch (cfg : BssConfig) (timBitmap : ℕ → Bool) (want : Bool) (x : CapState) :
    CapStep x (erpSwitch cfg timBitmap want x) := by
  rw [erpSwitch]
  split
  · exact (capStep_capSwitch want .nonErp x).trans (capStep_mlme (updateBeacon_num ..))
  · exact capStep_capSwitch want .nonErp x

lemma erpSwitch_snd (cfg : BssConfig) (timBitmap : ℕ → Bool) (want : Bool) (x : CapState) :
    (erpSwitch cfg timBitmap want x).2 = (capSwitch want .nonErp x).2 := by
  rw [erpSwitch]
  split <;> rfl

/-! ### A station joins -/

lemma capStep_capEnterIf (want : Bool) (p : CapProp) (x : CapState) :
    CapStep x (capEnterIf want p x) := by
  rw [capEnterIf]
  split
  · exact capStep_capEnter p x
  · exact CapStep.refl x

lemma capStep_countIntolerant (x : CapState) : CapStep x (countIntolerant x) := by
  rw [countIntolerant]
  split
  · exact ⟨⟨_, _, rfl⟩, fun _ => rfl⟩
  · exact CapStep.refl x

lemma countIntolerant_capSet (x : CapState) :
    (countIntolerant x).2.capSet = x.2.capSet := by
  rw [countIntolerant]
  split <;> rfl

lemma capStep_joinHt (x : CapState) : CapStep x (joinHt x) := by
  rw [joinHt]
  split
  · exact ((capStep_capLeave .noHt x).trans (capStep_capEnterIf x.2.noGf .htNoGf _)).trans
      ((capStep_capEnterIf x.2.only20mhz .ht20mhz _).trans (capStep_countIntolerant _))
  · exact capStep_capEnter .noHt x

/-- The flags after the HT part of a join. -/
lemma joinHt_capSet (x : CapState) : (joinHt x).2.capSet q =
    match q with
    | .noHt => !x.2.flags.ht
    | .htNoGf => x.2.flags.ht && x.2.noGf || x.2.capSet .htNoGf
    | .ht20mhz => x.2.flags.ht && x.2.only20mhz || x.2.capSet .ht20mhz
    | _ => x.2.capSet q := by
  rw [joinHt]
  cases x.2.flags.ht with
  | true =>
      simp only [if_true, countIntolerant_capSet, capEnterIf_capSet, capLeave_capSet]
      cases q <;> simp
  | false =>
      simp only [Bool.false_eq_true, if_false, capEnter_capSet]
      cases q <;> simp

lemma capStep_joinCaps (cfg : BssConfig) (timBitmap : ℕ → Bool) (x : CapState) :
    CapStep x (joinCaps cfg timBitmap x).1 := by
  have hslot := ((capStep_capSwitch (!x.2.flags.shortPreamble) .noShortPreamble x).trans
    (capStep_erpSwitch cfg timBitmap x.2.flags.nonErp _)).trans
    (capStep_capSwitch x.2.noShortSlot .noShortSlotTime _)
  rw [joinCaps]
  cases cfg.htSupported with
  | true => exact (hslot.trans (capStep_joinHt _)).trans (capStep_mlme (htOperation_num ..))
  | false => exact hslot

/-- The flags after a join. -/
lemma joinCaps_capSet (cfg : BssConfig) (timBitmap : ℕ → Bool) (x : CapState) :
    (joinCaps cfg timBitmap x).1.2.capSet q =
      match q with
      | .noShortPreamble => !x.2.flags.shortPreamble
      | .nonErp => x.2.flags.nonErp
      | .noShortSlotTime => x.2.noShortSlot
      | .noHt => if cfg.htSupported then !x.2.flags.ht else x.2.capSet .noHt
      | .htNoGf => cfg.htSupported && x.2.flags.ht && x.2.noGf || x.2.capSet .htNoGf
      | .ht20mhz => cfg.htSupported && x.2.flags.ht && x.2.only20mhz || x.2.capSet .ht20mhz := by
  have hslot := ((capStep_capSwitch (!x.2.flags.shortPreamble) .noShortPreamble x).trans
    (capStep_erpSwitch cfg timBitmap x.2.flags.nonErp _)).trans
    (capStep_capSwitch x.2.noShortSlot .noShortSlotTime _)
  rw [joinCaps]
  cases cfg.htSupported with
  | true =>
      simp only [if_true, joinHt_capSet, Sta.noGf, Sta.only20mhz, hslot.flags, hslot.htCapInfo]
      simp only [capSwitch_capSet, erpSwitch_snd]
      cases q <;> simp
  | false =>
      simp only [Bool.false_eq_true, if_false, capSwitch_capSet, erpSwitch_snd]
      cases q <;> simp

/-! ### A station leaves -/

lemma capStep_uncountIntolerant (x : CapState) : CapStep x (uncountIntolerant x) := by
  rw [uncountIntolerant]
  split
  · exact ⟨⟨_, _, rfl⟩, fun _ => rfl⟩
  · exact CapStep.refl x

lemma uncountIntolerant_capSet (x : CapState) :
    (uncountIntolerant x).2.capSet = x.2.capSet := by
  rw [uncountIntolerant]
  split <;> rfl

lemma capStep_leaveCaps (cfg : BssConfig) (timBitmap : ℕ → Bool) (x : CapState) :
    CapStep x (leaveCaps cfg timBitmap x).1 := by
  have herp := (capStep_capLeave .noShortPreamble x).trans
    (capStep_erpSwitch cfg timBitmap false _)
  have hgf := (herp.trans (capStep_capLeave .noShortSlotTime _)).trans (capStep_capLeave .htNoGf _)
  have hht := ((hgf.trans (capStep_capLeave .noHt _)).trans (capStep_capLeave .ht20mhz _)).trans
    (capStep_uncountIntolerant _)
  exact hht.trans (capStep_mlme (htOperation_num ..))

/-- A station that left is not counted. -/
lemma leaveCaps_capSet (cfg : BssConfig) (timBitmap : ℕ → Bool) (x : CapState) :
    (leaveCaps cfg timBitmap x).1.2.capSet q = false := by
  rw [leaveCaps, leaveHt]
  simp only [uncountIntolerant_capSet, capLeave_capSet, erpSwitch_snd, capSwitch_capSet]
  cases q <;> simp

end Rtl8723du
