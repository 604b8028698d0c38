import Rtl8723du.Sta.Counters

/-!
# Stations that are intolerant of 40 MHz

`rtw_process_public_act_bsscoex`, which counts the station that sends a 20/40 coexistence frame
with the bit set, over runs of such frames, associations and departures.  A station is counted
whether it is associated or not, and nothing but a departure takes it out, so the counter is
right over the runs in which only associated stations set the bit and no counted one reports
anything else.  Of a frame that is too short more is read than it has.
-/

namespace Rtl8723du

open Lib.Links

variable {i j : Fin numSta}

/-! ### The frame -/

/-- A 20/40 coexistence action frame: the bytes from its header on, and `frame_len`. -/
structure CoexFrame where
  pframe : List UInt8
  frameLen : BitVec 32

/-- `EID_BSSCoexistence`. -/
abbrev eidBssCoexistence : UInt8 := 72

/-- `EID_BSSIntolerantChlReport`. -/
abbrev eidBssIntolerantChlReport : UInt8 := 73

/-- `RTW_WLAN_20_40_BSS_COEX_40MHZ_INTOL`. -/
abbrev coex40mhzIntol : UInt8 := 0x02

/-- `RTW_WLAN_20_40_BSS_COEX_20MHZ_WIDTH_REQ`. -/
abbrev coex20mhzWidthReq : UInt8 := 0x04

namespace CoexFrame

/-- `get_addr2_ptr`. -/
def sa (f : CoexFrame) : MacAddr := macAt f.pframe 10

/-- `frame_body`, behind the header of 24 bytes. -/
def frameBody (f : CoexFrame) (k : ℕ) : UInt8 := f.pframe.getD (24 + k) 0

/-- `frame_body_len`, which wraps. -/
def frameBodyLen (f : CoexFrame) : BitVec 32 := f.frameLen - 24#32

/-- `ie_data`, if the function gets there. -/
def ieData (f : CoexFrame) : Option UInt8 :=
  if 0 < f.frameBodyLen ∧ f.frameBody 2 = eidBssCoexistence ∧ 0 < f.frameBody 3 then
    some (f.frameBody 4)
  else none

/-- The channel report is taken to be there. -/
def chlReport (f : CoexFrame) : Bool :=
  8 < f.frameBodyLen && f.frameBody 5 == eidBssIntolerantChlReport && 0 < f.frameBody 6

/-- The offsets that are read for the coexistence element. -/
def coexReads (f : CoexFrame) : List ℕ :=
  if 0 < f.frameBodyLen then
    26 :: if f.frameBody 2 = eidBssCoexistence then
      27 :: if 0 < f.frameBody 3 then [28] else []
    else []
  else []

/-- The offsets that are read for the channel report. -/
def chlReads (f : CoexFrame) : List ℕ :=
  if 8 < f.frameBodyLen then
    29 :: if f.frameBody 5 = eidBssIntolerantChlReport then [30] else []
  else []

/-- The offsets in the frame that the function reads: the address, and of a known station the
category, the action and the elements. -/
def reads (f : CoexFrame) (known : Bool) : List ℕ :=
  List.range' 10 6 ++ if known then 24 :: 25 :: (f.coexReads ++ f.chlReads) else []

/-- The frame has what is read of it. -/
def Inside (f : CoexFrame) (known : Bool) : Prop :=
  16 ≤ f.frameLen.toNat ∧
    (known = true → 27 ≤ f.frameLen.toNat ∧
      (f.frameBody 2 = eidBssCoexistence → 28 ≤ f.frameLen.toNat ∧
        (0 < f.frameBody 3 → 29 ≤ f.frameLen.toNat)))

instance (f : CoexFrame) (known : Bool) : Decidable (f.Inside known) := by
  rw [Inside]
  infer_instance

/-- What the frame reports in its coexistence element, if it has one: whether the bit is
set. -/
def report (f : CoexFrame) : Option Bool :=
  if 29 ≤ f.frameLen.toNat ∧ f.frameBody 2 = eidBssCoexistence ∧ 0 < f.frameBody 3 then
    some (f.frameBody 4 &&& coex40mhzIntol != 0)
  else none

variable {f : CoexFrame} {known : Bool}

lemma frameBodyLen_pos : 0 < f.frameBodyLen ↔ f.frameLen.toNat ≠ 24 := by
  rw [frameBodyLen]
  bv_omega

lemma eight_lt_frameBodyLen :
    8 < f.frameBodyLen ↔ f.frameLen.toNat < 24 ∨ 32 < f.frameLen.toNat := by
  rw [frameBodyLen]
  bv_omega

lemma forall_coexReads (hlen : 26 ≤ f.frameLen.toNat) :
    (∀ k ∈ f.coexReads, k < f.frameLen.toNat) ↔ 27 ≤ f.frameLen.toNat ∧
      (f.frameBody 2 = eidBssCoexistence → 28 ≤ f.frameLen.toNat ∧
        (0 < f.frameBody 3 → 29 ≤ f.frameLen.toNat)) := by
  have hpos : 0 < f.frameBodyLen := frameBodyLen_pos.2 (by omega)
  rw [coexReads, if_pos hpos, List.forall_mem_cons]
  refine and_congr Iff.rfl ?_
  split
  · rename_i hid
    rw [List.forall_mem_cons]
    simp only [hid, true_imp_iff]
    refine and_congr Iff.rfl ?_
    split
    · rename_i hlen
      simp [hlen, Nat.succ_le_iff]
    · rename_i hlen
      simp [hlen]
  · rename_i hid
    simp [hid]

/-- Where the channel report is looked for, it is in the frame. -/
lemma chlReads_lt (hlen : 26 ≤ f.frameLen.toNat) : ∀ k ∈ f.chlReads, k < f.frameLen.toNat := by
  intro k hk
  unfold chlReads at hk
  split at hk
  · rename_i hlong
    have hlong := eight_lt_frameBodyLen.1 hlong
    rw [List.mem_cons] at hk
    split at hk
    · rw [List.mem_singleton] at hk
      omega
    · rcases hk with rfl | hk
      · omega
      · simp at hk
  · simp at hk

/-- All that is read is in the frame exactly when the frame has the address and, of a known
station, the first byte behind the action and the element that starts there, up to its data. -/
lemma reads_iff (f : CoexFrame) (known : Bool) :
    (∀ k ∈ f.reads known, k < f.frameLen.toNat) ↔ f.Inside known := by
  have haddr : (∀ k ∈ List.range' 10 6, k < f.frameLen.toNat) ↔ 16 ≤ f.frameLen.toNat := by
    simp only [List.mem_range'_1]
    constructor
    · intro h
      exact h 15 (by omega)
    · rintro h k ⟨-, hk⟩
      omega
  rw [reads, Inside, List.forall_mem_append, haddr]
  refine and_congr Iff.rfl ?_
  cases known with
  | false => simp
  | true =>
      rw [if_pos rfl, List.forall_mem_cons, List.forall_mem_cons, List.forall_mem_append]
      simp only [true_imp_iff]
      constructor
      · rintro ⟨-, haction, hcoex, -⟩
        exact (forall_coexReads haction).1 hcoex
      · intro h
        have hlen : 26 ≤ f.frameLen.toNat := by omega
        exact ⟨by omega, by omega, (forall_coexReads hlen).2 h, chlReads_lt hlen⟩

/-- In a frame that has what is read of it, the function finds what is reported. -/
lemma report_eq (h : f.Inside true) :
    f.report = f.ieData.map fun ieData => ieData &&& coex40mhzIntol != 0 := by
  obtain ⟨-, h⟩ := h
  obtain ⟨hlen, hid⟩ := h rfl
  have hpos : 0 < f.frameBodyLen := frameBodyLen_pos.2 (by omega)
  rw [report, ieData]
  by_cases hcoex : f.frameBody 2 = eidBssCoexistence ∧ 0 < f.frameBody 3
  · rw [if_pos ⟨(hid hcoex.1).2 hcoex.2, hcoex⟩, if_pos ⟨hpos, hcoex⟩]
    rfl
  · rw [if_neg fun hall => hcoex hall.2, if_neg fun hall => hcoex hall.2]
    rfl

end CoexFrame

/-! ### What the function does -/

/-- The information byte of the coexistence element, on the settings of the network, the
counters and the station: whether the beacon is to be sent. -/
def coexReport (ieData : UInt8) (bss : BssConfig) (x : CapState) : BssConfig × CapState × Bool :=
  if ieData &&& coex40mhzIntol != 0 then
    if x.2.ht40mhzIntolerant then (bss, x, false)
    else
      (bss, ({ x.1 with numSta40mhzIntolerant := x.1.numSta40mhzIntolerant + 1 },
        { x.2 with ht40mhzIntolerant := true }), true)
  else if ieData &&& coex20mhzWidthReq != 0 && !bss.ht20mhzWidthReq then
    ({ bss with ht20mhzWidthReq := true }, x, true)
  else (bss, x, false)

/-- The channel report, on the settings of the network. -/
def coexChlReport (chlReport : Bool) (bss : BssConfig) (beaconUpdated : Bool) :
    BssConfig × Bool :=
  if chlReport && !bss.htIntolerantChReported then
    ({ bss with htIntolerantChReported := true }, true)
  else (bss, beaconUpdated)

/-- `rtw_process_public_act_bsscoex`.  What is told the firmware of the station is left
out. -/
def rtwProcessPublicActBsscoex (cfg : ApConfig) (s : ApState) (f : CoexFrame) :
    ApConfig × ApState × List StaOut :=
  match s.stapriv.getStainfo f.sa with
  | none => (cfg, s, [])
  | some psta =>
      let x := f.ieData.elim (cfg.bss, (s.mlme, s.stapriv.sta psta), false) fun ieData =>
        coexReport ieData cfg.bss (s.mlme, s.stapriv.sta psta)
      let y := coexChlReport f.chlReport x.1 x.2.2
      let s : ApState := ⟨s.stapriv.modify psta fun _ => x.2.1.2, x.2.1.1⟩
      if y.2 then
        ({ cfg with bss := y.1 },
          { s with mlme := updateBeacon y.1 s.stapriv.timBitmap .htAddInfo s.mlme },
          if y.1.bstartBss then [.setTxBeaconCmd] else [])
      else ({ cfg with bss := y.1 }, s, [])

/-- No other byte of the frame matters. -/
theorem rtwProcessPublicActBsscoex_congr (cfg : ApConfig) (s : ApState) {f g : CoexFrame}
    (hlen : g.frameLen = f.frameLen)
    (hread : ∀ k ∈ f.reads (s.stapriv.getStainfo f.sa).isSome,
      g.pframe.getD k 0 = f.pframe.getD k 0) :
    rtwProcessPublicActBsscoex cfg s g = rtwProcessPublicActBsscoex cfg s f := by
  rw [CoexFrame.reads, List.forall_mem_append] at hread
  obtain ⟨haddr, hbody⟩ := hread
  have hsa : g.sa = f.sa := by
    refine Vector.ext fun k hk => ?_
    simp only [CoexFrame.sa, macAt, Vector.getElem_ofFn]
    exact haddr (10 + k) (by rw [List.mem_range'_1]; omega)
  rw [rtwProcessPublicActBsscoex, rtwProcessPublicActBsscoex, hsa]
  cases hfound : s.stapriv.getStainfo f.sa with
  | none => rfl
  | some psta =>
      rw [hfound] at hbody
      simp only [Option.isSome_some, if_true, List.forall_mem_cons, List.forall_mem_append]
        at hbody
      obtain ⟨-, -, hcoex, hchl⟩ := hbody
      have hbodyLen : g.frameBodyLen = f.frameBodyLen := congrArg (· - 24#32) hlen
      have hieData : g.ieData = f.ieData := by
        rw [CoexFrame.ieData, CoexFrame.ieData, hbodyLen]
        rw [CoexFrame.coexReads] at hcoex
        by_cases hpos : 0 < f.frameBodyLen
        · rw [if_pos hpos, List.forall_mem_cons] at hcoex
          have hid : g.frameBody 2 = f.frameBody 2 := hcoex.1
          rw [hid]
          by_cases hcoexId : f.frameBody 2 = eidBssCoexistence
          · rw [if_pos hcoexId, List.forall_mem_cons] at hcoex
            have hie : g.frameBody 3 = f.frameBody 3 := hcoex.2.1
            rw [hie]
            by_cases hlong : 0 < f.frameBody 3
            · rw [if_pos hlong, List.forall_mem_singleton] at hcoex
              have hdata : g.frameBody 4 = f.frameBody 4 := hcoex.2.2
              rw [hdata]
            · rw [if_neg fun h => hlong h.2.2, if_neg fun h => hlong h.2.2]
          · rw [if_neg fun h => hcoexId h.2.1, if_neg fun h => hcoexId h.2.1]
        · rw [if_neg fun h => hpos h.1, if_neg fun h => hpos h.1]
      have hchlReport : g.chlReport = f.chlReport := by
        rw [CoexFrame.chlReport, CoexFrame.chlReport, hbodyLen]
        rw [CoexFrame.chlReads] at hchl
        by_cases hpos : 8 < f.frameBodyLen
        · rw [if_pos hpos, List.forall_mem_cons] at hchl
          have hid : g.frameBody 5 = f.frameBody 5 := hchl.1
          rw [hid]
          by_cases hchlId : f.frameBody 5 = eidBssIntolerantChlReport
          · rw [if_pos hchlId, List.forall_mem_singleton] at hchl
            have hdata : g.frameBody 6 = f.frameBody 6 := hchl.2
            rw [hdata]
          · rw [beq_eq_false_iff_ne.2 hchlId, Bool.and_false, Bool.false_and, Bool.false_and]
        · rw [decide_eq_false hpos, Bool.false_and, Bool.false_and, Bool.false_and,
            Bool.false_and]
      simp only [hieData, hchlReport]

/-! ### The counter and the flag of one station -/

/-- The counter, and the flag of the station. -/
def CapState.intol (x : CapState) : ℤ × Bool :=
  (x.1.numSta40mhzIntolerant, x.2.ht40mhzIntolerant)

section Caps

variable {bss : BssConfig} {timBitmap : ℕ → Bool} {x : CapState}

lemma capEnter_intol (p : CapProp) (x : CapState) : (capEnter p x).intol = x.intol := by
  rw [capEnter]
  split <;> rfl

lemma capLeave_intol (p : CapProp) (x : CapState) : (capLeave p x).intol = x.intol := by
  rw [capLeave]
  split <;> rfl

lemma capSwitch_intol (want : Bool) (p : CapProp) (x : CapState) :
    (capSwitch want p x).intol = x.intol := by
  rw [capSwitch]
  split
  · exact capEnter_intol p x
  · exact capLeave_intol p x

lemma capEnterIf_intol (want : Bool) (p : CapProp) (x : CapState) :
    (capEnterIf want p x).intol = x.intol := by
  rw [capEnterIf]
  split
  · exact capEnter_intol p x
  · rfl

lemma updateBeacon_intolerant (bss : BssConfig) (timBitmap : ℕ → Bool) (ieId : BcnIe)
    (m : MlmePriv) :
    (updateBeacon bss timBitmap ieId m).numSta40mhzIntolerant = m.numSta40mhzIntolerant := by
  unfold updateBeacon updateBcnErpinfoIe updateBcnHtinfoIe
  cases ieId <;> simp only <;> split_ifs <;> first | rfl | (split <;> rfl)

lemma htOperation_intolerant (bss : BssConfig) (timBitmap : ℕ → Bool) (m : MlmePriv) :
    (htOperation bss timBitmap m).1.numSta40mhzIntolerant = m.numSta40mhzIntolerant := by
  have hupdate : (rtwHtOperationUpdate bss m).1.numSta40mhzIntolerant =
      m.numSta40mhzIntolerant := by
    rw [rtwHtOperationUpdate]
    split <;> rfl
  rw [htOperation]
  simp only
  split
  · rw [updateBeacon_intolerant, updateBeacon_intolerant, hupdate]
  · exact hupdate

/-- What is done to the beacon is nothing to the counter. -/
lemma intol_mlme {m : MlmePriv} (hm : m.numSta40mhzIntolerant = x.1.numSta40mhzIntolerant) :
    CapState.intol (m, x.2) = x.intol := congrArg (·, x.2.ht40mhzIntolerant) hm

lemma erpSwitch_intol (bss : BssConfig) (timBitmap : ℕ → Bool) (want : Bool) (x : CapState) :
    (erpSwitch bss timBitmap want x).intol = x.intol := by
  rw [erpSwitch]
  split
  · exact (intol_mlme (updateBeacon_intolerant ..)).trans (capSwitch_intol want .nonErp x)
  · exact capSwitch_intol want .nonErp x

/-- The counter and the flag of a station that reports the bit. -/
def CapState.reported (x : CapState) : ℤ × Bool :=
  if x.2.ht40mhzIntolerant then x.intol else (x.1.numSta40mhzIntolerant + 1, true)

/-- The station reports the bit in its association request. -/
def wantsIntolerant (bss : BssConfig) (sta : Sta) : Bool :=
  bss.htSupported && sta.flags.ht && sta.intolerant

lemma CapState.reported_congr {y : CapState} (h : y.intol = x.intol) :
    y.reported = x.reported := by
  obtain ⟨hnum, hflag⟩ := Prod.ext_iff.1 h
  simp only [intol] at hnum hflag
  rw [reported, reported, hnum, hflag, h]

lemma countIntolerant_intol (x : CapState) :
    (countIntolerant x).intol = if x.2.intolerant then x.reported else x.intol := by
  rw [countIntolerant, CapState.reported]
  cases x.2.intolerant <;> cases hflag : x.2.ht40mhzIntolerant <;> simp [CapState.intol, hflag]

lemma joinHt_intol (x : CapState) : (joinHt x).intol =
    if x.2.flags.ht && x.2.intolerant then x.reported else x.intol := by
  rw [joinHt]
  cases x.2.flags.ht with
  | false => exact capEnter_intol .noHt x
  | true =>
      set y := capEnterIf x.2.only20mhz .ht20mhz (capEnterIf x.2.noGf .htNoGf (capLeave .noHt x))
        with hy
      have hstep : CapStep x y := ((capStep_capLeave .noHt x).trans
        (capStep_capEnterIf x.2.noGf .htNoGf _)).trans
        (capStep_capEnterIf x.2.only20mhz .ht20mhz _)
      have hintol : y.intol = x.intol := by
        rw [hy, capEnterIf_intol, capEnterIf_intol, capLeave_intol]
      have hbit : y.2.intolerant = x.2.intolerant := by
        rw [Sta.intolerant, hstep.htCapInfo]
        rfl
      rw [if_pos rfl, countIntolerant_intol, hbit, hintol, CapState.reported_congr hintol,
        Bool.true_and]

/-- A station that joins is counted if it was, or reports the bit. -/
lemma joinCaps_intol (bss : BssConfig) (timBitmap : ℕ → Bool) (x : CapState) :
    (joinCaps bss timBitmap x).1.intol =
      if wantsIntolerant bss x.2 then x.reported else x.intol := by
  have hslot := ((capStep_capSwitch (!x.2.flags.shortPreamble) .noShortPreamble x).trans
    (capStep_erpSwitch bss timBitmap x.2.flags.nonErp _)).trans
    (capStep_capSwitch x.2.noShortSlot .noShortSlotTime _)
  set y := capSwitch x.2.noShortSlot .noShortSlotTime
    (erpSwitch bss timBitmap x.2.flags.nonErp
      (capSwitch (!x.2.flags.shortPreamble) .noShortPreamble x)) with hy
  have hintol : y.intol = x.intol := by
    rw [hy, capSwitch_intol, erpSwitch_intol, capSwitch_intol]
  have hbit : y.2.intolerant = x.2.intolerant := by
    rw [Sta.intolerant, hslot.htCapInfo]
    rfl
  rw [joinCaps, wantsIntolerant]
  cases bss.htSupported with
  | false => exact hintol
  | true =>
      show CapState.intol ((htOperation bss timBitmap (joinHt y).1).1, (joinHt y).2) = _
      rw [intol_mlme (htOperation_intolerant ..), joinHt_intol, hslot.flags, hbit, hintol,
        CapState.reported_congr hintol, Bool.true_and]

lemma uncountIntolerant_congr {y : CapState} (h : y.intol = x.intol) :
    (uncountIntolerant y).intol = (uncountIntolerant x).intol := by
  obtain ⟨hnum, hflag⟩ := Prod.ext_iff.1 h
  simp only [CapState.intol] at hnum hflag
  unfold uncountIntolerant
  rw [hflag]
  split
  · simp only [CapState.intol, hnum]
  · exact h

/-- A station that leaves is out. -/
lemma leaveCaps_intol (bss : BssConfig) (timBitmap : ℕ → Bool) (x : CapState) :
    (leaveCaps bss timBitmap x).1.intol = (uncountIntolerant x).intol := by
  set y := capLeave .ht20mhz (capLeave .noHt (capLeave .htNoGf (capLeave .noShortSlotTime
    (erpSwitch bss timBitmap false (capLeave .noShortPreamble x))))) with hy
  have hintol : y.intol = x.intol := by
    rw [hy, capLeave_intol, capLeave_intol, capLeave_intol, capLeave_intol, erpSwitch_intol,
      capLeave_intol]
  show CapState.intol
    ((htOperation bss timBitmap (uncountIntolerant y).1).1, (uncountIntolerant y).2) = _
  rw [intol_mlme (htOperation_intolerant ..), uncountIntolerant_congr hintol]

end Caps

namespace ApState

variable {s s' t : ApState} {v : ℤ × Bool}

/-- The counter, and the flag of an entry. -/
def intol (s : ApState) (i : Fin numSta) : ℤ × Bool := CapState.intol (s.mlme, s.stapriv.sta i)

lemma intol_ext (hnum : s'.mlme.numSta40mhzIntolerant = s.mlme.numSta40mhzIntolerant)
    (hflag : (s'.stapriv.sta i).ht40mhzIntolerant = (s.stapriv.sta i).ht40mhzIntolerant) :
    s'.intol i = s.intol i := congrArg₂ Prod.mk hnum hflag

/-- The flag of one station and the counter are written. -/
structure IntolWrite (s s' : ApState) (i : Fin numSta) (v : ℤ × Bool) : Prop where
  free : ∀ j ∈ s'.stapriv.freeStaQueue, j ∈ s.stapriv.freeStaQueue
  others : ∀ j, j ≠ i →
    (s'.stapriv.sta j).ht40mhzIntolerant = (s.stapriv.sta j).ht40mhzIntolerant
  intol : s'.intol i = v

/-- What is written before, of other parts of the state. -/
lemma IntolWrite.of_sameCounted (h : IntolWrite t s' i v) (hsame : SameCounted s t) :
    IntolWrite s s' i v where
  free := fun j hj => hsame.free ▸ h.free j hj
  others := fun j hj => (h.others j hj).trans (congrArg Prod.snd (hsame.counted j))
  intol := h.intol

lemma SameCounted.intol (h : SameCounted s t) : t.intol i = s.intol i :=
  intol_ext (congrArg MlmePriv.numSta40mhzIntolerant h.mlme) (congrArg Prod.snd (h.counted i))

/-- What is written afterwards, of other members of the entry. -/
lemma IntolWrite.modifySta (h : IntolWrite s s' i v) {g : Sta → Sta}
    (hg : (g (s'.stapriv.sta i)).ht40mhzIntolerant = (s'.stapriv.sta i).ht40mhzIntolerant) :
    IntolWrite s (s'.modifySta i g) i v := by
  have hflag := (StaPriv.writes_modify s'.stapriv i g).same Sta.ht40mhzIntolerant hg
  have hintol : (s'.modifySta i g).intol i = s'.intol i := intol_ext rfl (hflag i)
  exact ⟨h.free, fun j hj => (hflag j).trans (h.others j hj), hintol.trans h.intol⟩

/-- The entry of the station and the counters are written. -/
lemma intolWrite_modify (x : CapState) : IntolWrite s ⟨s.stapriv.modify i fun _ => x.2, x.1⟩ i
    x.intol := by
  have hw := StaPriv.writes_modify s.stapriv i fun _ => x.2
  refine ⟨fun j hj => hj, fun j hj => ?_, ?_⟩
  · rw [hw j, if_neg hj]
  · rw [ApState.intol, hw i, if_pos rfl]

/-- The beacon is written afterwards. -/
lemma IntolWrite.mlme (h : IntolWrite s s' i v) {m : MlmePriv}
    (hm : m.numSta40mhzIntolerant = s'.mlme.numSta40mhzIntolerant) :
    IntolWrite s { s' with mlme := m } i v := by
  have hintol : ApState.intol { s' with mlme := m } i = s'.intol i := intol_ext hm rfl
  exact ⟨h.free, h.others, hintol.trans h.intol⟩

lemma intolWrite_sendBeacon (bss : BssConfig) (s : ApState) (i : Fin numSta) (x : CapState)
    (beaconUpdated : Bool) :
    IntolWrite s (sendBeacon bss ⟨s.stapriv.modify i fun _ => x.2, x.1⟩ beaconUpdated).1 i
      x.intol := by
  rw [sendBeacon]
  split
  · exact (intolWrite_modify x).mlme (updateBeacon_intolerant ..)
  · exact intolWrite_modify x

/-- A station joins. -/
lemma intolWrite_join (bss : BssConfig) (s : ApState) (i : Fin numSta) :
    IntolWrite s (bssCapUpdateOnStaJoin bss s i).1 i
      (if wantsIntolerant bss (s.stapriv.sta i) then
        CapState.reported (s.mlme, s.stapriv.sta i)
      else s.intol i) := by
  have hjoin := joinCaps_intol bss s.stapriv.timBitmap (s.mlme, s.stapriv.sta i)
  rw [ApState.intol, ← hjoin]
  exact intolWrite_sendBeacon ..

/-- A station leaves. -/
lemma intolWrite_leave (bss : BssConfig) (s : ApState) (i : Fin numSta) :
    IntolWrite s (bssCapUpdateOnStaLeave bss s i).1 i
      (uncountIntolerant (s.mlme, s.stapriv.sta i)).intol := by
  have hmlme : (leaveTim bss s i).mlme.numSta40mhzIntolerant = s.mlme.numSta40mhzIntolerant := by
    rw [leaveTim]
    simp only
    split
    · exact updateBeacon_intolerant ..
    · rfl
  have hintol : CapState.intol ((leaveTim bss s i).mlme, (leaveTim bss s i).stapriv.sta i) =
      s.intol i := by
    rw [leaveTim_sta]
    exact congrArg (·, (s.stapriv.sta i).ht40mhzIntolerant) hmlme
  have hleave := leaveCaps_intol bss (leaveTim bss s i).stapriv.timBitmap
    ((leaveTim bss s i).mlme, (leaveTim bss s i).stapriv.sta i)
  rw [uncountIntolerant_congr hintol] at hleave
  have hw : IntolWrite (leaveTim bss s i) (bssCapUpdateOnStaLeave bss s i).1 i
      (uncountIntolerant (s.mlme, s.stapriv.sta i)).intol := by
    rw [← hleave]
    exact intolWrite_sendBeacon ..
  refine ⟨fun j hj => ?_, fun j hj => ?_, hw.intol⟩
  · exact leaveTim_freeStaQueue bss s i ▸ hw.free j hj
  · rw [hw.others j hj, leaveTim_sta]

end ApState

/-! ### Runs -/

/-- What happens to the access point. -/
inductive CoexEvent
  | sta (e : StaEvent)
  /-- A 20/40 coexistence frame comes in. -/
  | coex (f : CoexFrame)

/-- The access point, and of each associated station whether its latest report set the
bit. -/
structure CoexRun where
  cfg : ApConfig
  ap : ApState
  reported : Fin numSta → Option Bool

namespace CoexRun

variable {r : CoexRun} {f : CoexFrame}

/-- A station is associated with what its request reports, or departs. -/
def record (bss : BssConfig) (ap : ApState) (reported : Fin numSta → Option Bool) :
    StaOut → Fin numSta → Option Bool
  | .joined i => Function.update reported i (some (wantsIntolerant bss (ap.stapriv.sta i)))
  | .left i => Function.update reported i none
  | .setTxBeaconCmd => reported

/-- An associated station reports something in a frame. -/
def note (r : CoexRun) (f : CoexFrame) : Fin numSta → Option Bool :=
  match r.ap.stapriv.getStainfo f.sa with
  | none => r.reported
  | some i => Function.update r.reported i ((r.reported i).map fun old => f.report.getD old)

/-- An entry that is free is that of no station. -/
def settle (cfg : ApConfig) (ap : ApState) (reported : Fin numSta → Option Bool) : CoexRun where
  cfg := cfg
  ap := ap
  reported := fun i => if i ∈ ap.stapriv.freeStaQueue then none else reported i

/-- One event. -/
def step (r : CoexRun) : CoexEvent → CoexRun × List StaOut
  | .sta e =>
      let x := r.ap.step r.cfg e
      (settle r.cfg x.1 (x.2.foldl (record r.cfg.bss x.1) r.reported), x.2)
  | .coex f =>
      let x := rtwProcessPublicActBsscoex r.cfg r.ap f
      (settle x.1 x.2.1 (r.note f), x.2.2)

/-- The start of the access point. -/
def init (cfg : ApConfig) (beacon : Beacon) : CoexRun where
  cfg := cfg
  ap := { stapriv := StaPriv.init, mlme := MlmePriv.init beacon }
  reported := fun _ => none

/-- A counted station that is let in again reports the bit again. -/
def ReportsAgain (r : CoexRun) : StaEvent → Prop
  | .assocReq req =>
      ∀ i, r.ap.Grants r.cfg req i → (r.ap.stapriv.sta i).ht40mhzIntolerant = true →
        wantsIntolerant r.cfg.bss (r.ap.parsed r.cfg req i) = true
  | _ => True

instance decidableReportsAgain (r : CoexRun) : (e : StaEvent) → Decidable (r.ReportsAgain e)
  | .assocReq req => inferInstanceAs (Decidable
      (∀ i, r.ap.Grants r.cfg req i → (r.ap.stapriv.sta i).ht40mhzIntolerant = true →
        wantsIntolerant r.cfg.bss (r.ap.parsed r.cfg req i) = true))
  | .alloc _ | .free _ | .freeAll | .authExpired _ | .auth _ _ | .leave _ | .keyInstalled _
  | .tim _ _ => .isTrue trivial

/-- The condition on an event: a frame has what is read of it, it sets the bit only for an
associated station and reports anything else only for one that is not counted; a counted
station reports the bit again when it is let in again, and is not freed before it leaves. -/
def StepOk (r : CoexRun) : CoexEvent → Prop
  | .coex f =>
      f.Inside (r.ap.stapriv.getStainfo f.sa).isSome ∧
        ∀ i ∈ r.ap.stapriv.getStainfo f.sa, ∀ intolerant ∈ f.report,
          if intolerant then r.reported i ≠ none
          else (r.ap.stapriv.sta i).ht40mhzIntolerant = false
  | .sta e => r.ap.stapriv.FreesNone .intolerant r.cfg e ∧ r.ReportsAgain e

instance decidableStepOk (r : CoexRun) : (e : CoexEvent) → Decidable (r.StepOk e)
  | .coex f => inferInstanceAs (Decidable
      (f.Inside (r.ap.stapriv.getStainfo f.sa).isSome ∧
        ∀ i ∈ r.ap.stapriv.getStainfo f.sa, ∀ intolerant ∈ f.report,
          if intolerant then r.reported i ≠ none
          else (r.ap.stapriv.sta i).ht40mhzIntolerant = false))
  | .sta e => inferInstanceAs (Decidable
      (r.ap.stapriv.FreesNone .intolerant r.cfg e ∧ r.ReportsAgain e))

/-- The flags are the reports of the associated stations, and the counter is their number. -/
structure Inv (r : CoexRun) : Prop where
  placed : r.ap.stapriv.Placed
  flags : ∀ i, (r.ap.stapriv.sta i).ht40mhzIntolerant = (r.reported i).getD false
  num : r.ap.mlme.numSta40mhzIntolerant =
    tally fun i => (r.ap.stapriv.sta i).ht40mhzIntolerant
  free : ∀ i ∈ r.ap.stapriv.freeStaQueue, r.reported i = none

lemma Inv.flag_of_free (h : Inv r) (hi : i ∈ r.ap.stapriv.freeStaQueue) :
    (r.ap.stapriv.sta i).ht40mhzIntolerant = false := by
  rw [h.flags, h.free i hi]
  rfl

/-- The invariant over an event at which nothing is reported. -/
lemma Inv.quiet (h : Inv r) {cfg : ApConfig} {s : ApState} (hp : s.stapriv.Placed)
    (hsafe : StaPriv.FlagSafe .intolerant r.ap.stapriv s.stapriv)
    (hnum : s.mlme.numSta40mhzIntolerant = r.ap.mlme.numSta40mhzIntolerant) :
    Inv (settle cfg s r.reported) where
  placed := hp
  flags := fun i => by
    have hflag : (s.stapriv.sta i).ht40mhzIntolerant = _ := hsafe.has i
    show (s.stapriv.sta i).ht40mhzIntolerant = Option.getD (if _ then _ else _) false
    rw [hflag]
    split
    · rename_i hfree
      rcases hsafe.free i hfree with hold | hno
      · exact h.flag_of_free hold
      · exact hno
    · exact h.flags i
  num := by
    have hflags : (fun i => (s.stapriv.sta i).ht40mhzIntolerant) = _ := funext hsafe.has
    show s.mlme.numSta40mhzIntolerant = tally fun i => (s.stapriv.sta i).ht40mhzIntolerant
    rw [hflags, hnum, h.num]
    rfl
  free := fun i hi => if_pos hi

/-- The invariant over an event at which one station reports something, or is gone. -/
lemma Inv.write (h : Inv r) {cfg : ApConfig} {s : ApState} {v : ℤ × Bool} {c : Option Bool}
    (hp : s.stapriv.Placed) (hw : r.ap.IntolWrite s i v)
    (hi : i ∉ r.ap.stapriv.freeStaQueue)
    (hbalance : v.1 - share v.2 = (r.ap.intol i).1 - share (r.ap.intol i).2)
    (hc : v.2 = c.getD false) : Inv (settle cfg s (Function.update r.reported i c)) where
  placed := hp
  flags := fun j => by
    show (s.stapriv.sta j).ht40mhzIntolerant = Option.getD (if _ then _ else _) false
    by_cases hji : j = i
    · rw [hji, if_neg fun hin => hi (hw.free i hin), Function.update_self, ← hc]
      exact congrArg Prod.snd hw.intol
    · rw [Function.update_of_ne hji, hw.others j hji]
      split
      · rename_i hfree
        exact h.flag_of_free (hw.free j hfree)
      · exact h.flags j
  num := by
    refine tally_eq_of_balance h.num hw.others ?_
    have hintol := hw.intol
    rw [← hintol] at hbalance
    exact hbalance
  free := fun j hj => if_pos hj

/-! ### One event -/

lemma wantsIntolerant_congr {bss : BssConfig} {x y : Sta} (h : y.abilities = x.abilities) :
    wantsIntolerant bss y = wantsIntolerant bss x := by
  obtain ⟨hflags, hht, -⟩ : y.flags = x.flags ∧ y.htCapInfo = x.htCapInfo ∧
      y.capability = x.capability := by
    simpa [Sta.abilities] using h
  rw [wantsIntolerant, wantsIntolerant, Sta.intolerant, Sta.intolerant, hflags, hht]

/-- A station is able to the same once it is counted. -/
lemma abilities_join (bss : BssConfig) (t : ApState) (i : Fin numSta) :
    (((ApState.bssCapUpdateOnStaJoin bss t i).1.modifySta i (·.setAsoc true)).stapriv.sta
      i).abilities = (t.stapriv.sta i).abilities := by
  have hasoc := (StaPriv.writes_modify (ApState.bssCapUpdateOnStaJoin bss t i).1.stapriv i
    (·.setAsoc true)).same Sta.abilities rfl i
  have hw := StaPriv.writes_modify t.stapriv i fun _ =>
    (joinCaps bss t.stapriv.timBitmap (t.mlme, t.stapriv.sta i)).1.2
  obtain ⟨c, b, hsta⟩ := (capStep_joinCaps bss t.stapriv.timBitmap (t.mlme, t.stapriv.sta i)).sta
  refine hasoc.trans ?_
  rw [ApState.bssCapUpdateOnStaJoin_stapriv, hw i, if_pos rfl, hsta]
  rfl

/-- A station that leaves is counted no more. -/
lemma balance_uncount {x : CapState}
    (hpos : x.2.ht40mhzIntolerant = true → 0 < x.1.numSta40mhzIntolerant) :
    (uncountIntolerant x).intol.1 - share (uncountIntolerant x).intol.2 =
      x.intol.1 - share x.intol.2 ∧ (uncountIntolerant x).intol.2 = false := by
  rw [uncountIntolerant]
  cases hflag : x.2.ht40mhzIntolerant with
  | false => exact ⟨rfl, hflag⟩
  | true => simp [CapState.intol, hflag, hpos hflag]

/-- A station that reports the bit is counted once. -/
lemma balance_reported (x : CapState) :
    x.reported.1 - share x.reported.2 = x.intol.1 - share x.intol.2 ∧ x.reported.2 = true := by
  rw [CapState.reported]
  cases hflag : x.2.ht40mhzIntolerant <;> simp [CapState.intol, hflag]

/-- What a frame makes of the counter and the flag of its station. -/
lemma intolWrite_process (cfg : ApConfig) (s : ApState)
    (hfound : s.stapriv.getStainfo f.sa = some i) (hinside : f.Inside true) :
    s.IntolWrite (rtwProcessPublicActBsscoex cfg s f).2.1 i
      (if f.report = some true then CapState.reported (s.mlme, s.stapriv.sta i)
      else s.intol i) := by
  set x := f.ieData.elim (cfg.bss, (s.mlme, s.stapriv.sta i), false) fun ieData =>
    coexReport ieData cfg.bss (s.mlme, s.stapriv.sta i) with hx
  have hintol : CapState.intol x.2.1 = if f.report = some true then
      CapState.reported (s.mlme, s.stapriv.sta i) else s.intol i := by
    rw [hx, CoexFrame.report_eq hinside]
    cases f.ieData with
    | none => rfl
    | some ieData =>
        simp only [Option.elim_some, Option.map_some, Option.some.injEq]
        rw [coexReport, CapState.reported]
        split
        · split <;> rfl
        · split <;> rfl
  have hwrite := ApState.intolWrite_modify (s := s) (i := i) x.2.1
  rw [rtwProcessPublicActBsscoex, hfound, ← hintol]
  simp only [← hx]
  split
  · exact hwrite.mlme (updateBeacon_intolerant ..)
  · exact hwrite

/-- A frame writes no link. -/
lemma placed_process (cfg : ApConfig) {s : ApState} (h : s.stapriv.Placed) :
    (rtwProcessPublicActBsscoex cfg s f).2.1.stapriv.Placed := by
  cases hfound : s.stapriv.getStainfo f.sa with
  | none =>
      rw [rtwProcessPublicActBsscoex, hfound]
      exact h
  | some i =>
      set x := f.ieData.elim (cfg.bss, (s.mlme, s.stapriv.sta i), false) fun ieData =>
        coexReport ieData cfg.bss (s.mlme, s.stapriv.sta i) with hx
      have hlinks : (s.stapriv.sta i).SameLinks x.2.1.2 := by
        rw [hx]
        cases f.ieData with
        | none => exact Sta.SameLinks.refl _
        | some ieData =>
            rw [Option.elim_some]
            rw [coexReport]
            split
            · split <;> exact ⟨rfl, rfl, rfl, rfl⟩
            · split <;> exact Sta.SameLinks.refl _
      have hmodify : (s.stapriv.modify i fun _ => x.2.1.2).Placed := h.modify hlinks
      rw [rtwProcessPublicActBsscoex, hfound]
      simp only [← hx]
      split <;> exact hmodify

lemma inv_coex (h : Inv r) (hok : r.StepOk (.coex f)) : Inv (r.step (.coex f)).1 := by
  obtain ⟨hinside, hreport⟩ := hok
  have hp := placed_process (f := f) r.cfg h.placed
  cases hfound : r.ap.stapriv.getStainfo f.sa with
  | none =>
      have hsame : rtwProcessPublicActBsscoex r.cfg r.ap f = (r.cfg, r.ap, []) := by
        rw [rtwProcessPublicActBsscoex, hfound]
      have hnote : r.note f = r.reported := by rw [note, hfound]
      show Inv (settle _ _ (r.note f))
      rw [hnote, hsame]
      exact h.quiet h.placed (StaPriv.FlagSafe.refl ..) rfl
  | some i =>
      rw [hfound] at hinside
      have hnote : r.note f =
          Function.update r.reported i ((r.reported i).map fun old => f.report.getD old) := by
        rw [note, hfound]
      have hin : i ∉ r.ap.stapriv.freeStaQueue := fun hin =>
        (h.placed.mem_free i).1 hin (StaPriv.hashed_of_getStainfo h.placed hfound)
      have hflag : (r.ap.intol i).2 = (r.reported i).getD false := h.flags i
      obtain ⟨hbalance, hset⟩ := balance_reported (r.ap.mlme, r.ap.stapriv.sta i)
      show Inv (settle _ _ (r.note f))
      rw [hnote]
      refine h.write hp (intolWrite_process r.cfg r.ap hfound hinside) hin ?_ ?_
      · split
        · exact hbalance
        · rfl
      · have hreported := hreport i hfound
        cases hrep : f.report with
        | none =>
            rw [if_neg (by simp), hflag]
            cases r.reported i <;> rfl
        | some intolerant =>
            have hcond := hreported intolerant hrep
            cases intolerant with
            | true =>
                obtain ⟨old, hold⟩ := Option.ne_none_iff_exists'.1 hcond
                rw [if_pos rfl, hset, hold]
                rfl
            | false =>
                have hno : (r.ap.intol i).2 = false := hcond
                rw [if_neg (by simp), hno]
                cases r.reported i <;> rfl

lemma inv_assocReq {req : AssocReq} (h : Inv r) (hok : r.ReportsAgain (.assocReq req)) :
    Inv (r.step (.sta (.assocReq req))).1 := by
  have hp : (r.ap.step r.cfg (.assocReq req)).1.stapriv.Placed :=
    ApState.placed_step (.assocReq req) h.placed
  rcases ApState.onAssocReq_counted r.cfg r.ap req with
    ⟨hsame, hout⟩ | ⟨i, t, hgrants, hsame, habilities, hres⟩
  · have hstep : (r.ap.step r.cfg (.assocReq req)).2 = [] := hout
    show Inv (settle _ _ ((r.ap.step r.cfg (.assocReq req)).2.foldl _ _))
    rw [hstep]
    exact h.quiet hp ⟨fun j => congrArg Prod.snd (hsame.counted j),
      fun j hj => Or.inl (hsame.free ▸ hj)⟩ (congrArg MlmePriv.numSta40mhzIntolerant hsame.mlme)
  · have hw := ((ApState.intolWrite_join r.cfg.bss t i).of_sameCounted hsame).modifySta
      (g := (·.setAsoc true)) rfl
    have hin : i ∉ r.ap.stapriv.freeStaQueue := fun hin =>
      (h.placed.mem_free i).1 hin (StaPriv.hashed_of_getStainfo h.placed hgrants.1)
    have hkept : (t.stapriv.sta i).ht40mhzIntolerant = true →
        wantsIntolerant r.cfg.bss (t.stapriv.sta i) = true := by
      intro hin
      rw [wantsIntolerant_congr habilities]
      exact hok i hgrants ((congrArg Prod.snd (hsame.counted i)).symm.trans hin)
    have hafter : wantsIntolerant r.cfg.bss
        (((ApState.bssCapUpdateOnStaJoin r.cfg.bss t i).1.modifySta i
          (·.setAsoc true)).stapriv.sta i) =
        wantsIntolerant r.cfg.bss (t.stapriv.sta i) :=
      wantsIntolerant_congr (abilities_join r.cfg.bss t i)
    have hstep : r.ap.step r.cfg (.assocReq req) = _ := hres
    have hrecord : (r.ap.step r.cfg (.assocReq req)).2.foldl
        (record r.cfg.bss (r.ap.step r.cfg (.assocReq req)).1) r.reported =
        Function.update r.reported i (some (wantsIntolerant r.cfg.bss (t.stapriv.sta i))) := by
      rw [hstep, List.foldl_cons, ← hafter]
      exact ApState.foldl_sendBeacon _ _ _ (fun _ => rfl) _
    show Inv (settle _ _ ((r.ap.step r.cfg (.assocReq req)).2.foldl _ _))
    rw [hrecord]
    rw [hstep] at hp ⊢
    refine h.write hp hw hin ?_ ?_
    · rw [← hsame.intol]
      split
      · exact (balance_reported _).1
      · rfl
    · cases hwants : wantsIntolerant r.cfg.bss (t.stapriv.sta i) with
      | true => exact (balance_reported _).2
      | false =>
          show (t.stapriv.sta i).ht40mhzIntolerant = false
          rw [← Bool.not_eq_true]
          intro hin
          rw [hkept hin] at hwants
          cases hwants

lemma inv_leave (h : Inv r) (hwaddr : MacAddr) : Inv (r.step (.sta (.leave hwaddr))).1 := by
  have hp : (r.ap.step r.cfg (.leave hwaddr)).1.stapriv.Placed :=
    ApState.placed_step (.leave hwaddr) h.placed
  rcases ApState.leave_counted r.cfg r.ap hwaddr with
    hnone | ⟨i, t, hfound, -, hsame, -, -, hres⟩
  · have hstep : r.ap.step r.cfg (.leave hwaddr) = (r.ap, []) := hnone
    show Inv (settle _ _ ((r.ap.step r.cfg (.leave hwaddr)).2.foldl _ _))
    rw [hstep]
    exact h.quiet h.placed (StaPriv.FlagSafe.refl ..) rfl
  · have hw := (ApState.intolWrite_leave r.cfg.bss t i).of_sameCounted hsame
    have hin : i ∉ r.ap.stapriv.freeStaQueue := fun hin =>
      (h.placed.mem_free i).1 hin (StaPriv.hashed_of_getStainfo h.placed hfound)
    have hstep : r.ap.step r.cfg (.leave hwaddr) = _ := hres
    have hrecord : (r.ap.step r.cfg (.leave hwaddr)).2.foldl
        (record r.cfg.bss (r.ap.step r.cfg (.leave hwaddr)).1) r.reported =
        Function.update r.reported i none := by
      rw [hstep, List.foldl_cons]
      exact ApState.foldl_sendBeacon _ _ _ (fun _ => rfl) _
    show Inv (settle _ _ ((r.ap.step r.cfg (.leave hwaddr)).2.foldl _ _))
    rw [hrecord]
    rw [hstep] at hp ⊢
    have hpos : (t.stapriv.sta i).ht40mhzIntolerant = true →
        0 < t.mlme.numSta40mhzIntolerant := by
      intro hset
      rw [hsame.mlme, h.num]
      exact tally_pos_iff.2 ⟨i, (congrArg Prod.snd (hsame.counted i)).symm.trans hset⟩
    obtain ⟨hbalance, hout⟩ := balance_uncount (x := (t.mlme, t.stapriv.sta i)) hpos
    refine h.write hp hw hin ?_ hout
    rw [← hsame.intol]
    exact hbalance

/-- Every event keeps the invariant that meets the condition. -/
lemma inv_step (e : CoexEvent) (hok : r.StepOk e) (h : Inv r) : Inv (r.step e).1 := by
  cases e with
  | coex f => exact inv_coex h hok
  | sta e =>
      rcases ApState.step_table r.cfg r.ap e with hstep | ⟨req, rfl⟩ | ⟨hwaddr, rfl⟩
      · have hp : (r.ap.step r.cfg e).1.stapriv.Placed := ApState.placed_step e h.placed
        have hsafe : StaPriv.FlagSafe .intolerant r.ap.stapriv (r.ap.stapriv.step r.cfg e) :=
          StaPriv.flagSafe_step (fun _ hi => h.flag_of_free hi) hok.1
        show Inv (settle _ _ ((r.ap.step r.cfg e).2.foldl _ _))
        rw [hstep] at hp ⊢
        exact h.quiet hp hsafe rfl
      · exact inv_assocReq h hok.2
      · exact inv_leave h hwaddr

lemma inv_init (cfg : ApConfig) (beacon : Beacon) : Inv (init cfg beacon) where
  placed := (ApState.inOrder_init cfg).placed
  flags := fun _ => rfl
  num := (tally_eq_zero_iff.2 fun _ => rfl).symm
  free := fun _ _ => rfl

/-- The counter is the number of associated stations whose latest report set the bit. -/
def CountOk (r : CoexRun) : Prop :=
  r.ap.mlme.numSta40mhzIntolerant = tally fun i => r.reported i == some true

lemma Inv.countOk (h : Inv r) : CountOk r := by
  refine h.num.trans (congrArg tally (funext fun i => ?_))
  rw [h.flags i]
  cases r.reported i with
  | none => rfl
  | some intolerant => cases intolerant <;> rfl

/-- A frame is read inside exactly when it has the address and, of a known station, the element
that is looked for behind the action; and over every run whose events meet the condition, the
counter is the number of associated stations whose latest report set the bit. -/
theorem coex_run (f : CoexFrame) (known : Bool) (cfg : ApConfig) (beacon : Beacon)
    (es : List CoexEvent) :
    ((∀ k ∈ f.reads known, k < f.frameLen.toNat) ↔ f.Inside known) ∧
      (Lib.Machine.Along step StepOk (init cfg beacon) es →
        ∀ pre, pre <+: es → CountOk (Lib.Machine.final step (init cfg beacon) pre)) := by
  refine ⟨f.reads_iff known, fun hok pre hpre => ?_⟩
  obtain ⟨post, rfl⟩ := hpre
  exact (Lib.Machine.final_induction (fun _ e hok h => inv_step e hok h) (inv_init cfg beacon)
    hok.left).countOk

/-! ### One station -/

open StaPriv (peerMac wpaConfig quietEnv peerAuth)
open ApState (peerAssoc)

/-- A coexistence frame of the station, with its information byte. -/
def peerCoex (ieData : UInt8) : CoexFrame where
  pframe := [0xd0, 0, 0, 0] ++ List.replicate 6 0x02 ++ peerMac.toList ++ List.replicate 6 0x02 ++
    [0, 0] ++ [4, 0, 72, 1, ieData]
  frameLen := 29

/-- The station associates, reports the bit, and leaves. -/
def coexEvents : List CoexEvent :=
  [.sta (.alloc bcAddr), .sta (.auth quietEnv (peerAuth 0 1)), .sta (.assocReq (peerAssoc false)),
    .coex (peerCoex 2), .sta (.leave peerMac), .sta (.free peerMac)]

theorem coex_run_of_coexEvents : (∀ k ∈ (peerCoex 2).reads true, k < 29) ∧
    ∀ pre, pre <+: coexEvents →
      CountOk (Lib.Machine.final step (init wpaConfig emptyBeacon) pre) :=
  have hrun := coex_run (peerCoex 2) true wpaConfig emptyBeacon coexEvents
  ⟨hrun.1.2 (by decide +kernel), hrun.2 (by decide +kernel)⟩

/-- The station associates, reports the bit, and then reports it no more. -/
def clearedEvents : List CoexEvent :=
  [.sta (.alloc bcAddr), .sta (.auth quietEnv (peerAuth 0 1)), .sta (.assocReq (peerAssoc false)),
    .coex (peerCoex 2), .coex (peerCoex 0)]

/-- A frame that ends behind the category has its action and the byte after it read, and a
station is counted though its latest report does not have the bit. -/
theorem not_coex_run :
    (¬ ∀ (f : CoexFrame) (known : Bool), ∀ k ∈ f.reads known, k < f.frameLen.toNat) ∧
    ¬ ∀ (cfg : ApConfig) (beacon : Beacon) (es : List CoexEvent),
      CountOk (Lib.Machine.final step (init cfg beacon) es) := by
  constructor
  · intro h
    have hlast := h { peerCoex 2 with frameLen := 25 } true 26 (by decide +kernel)
    exact absurd hlast (by decide +kernel)
  · intro h
    have hcount := h wpaConfig emptyBeacon clearedEvents
    have hone : (Lib.Machine.final step (init wpaConfig emptyBeacon)
        clearedEvents).ap.mlme.numSta40mhzIntolerant = 1 := by decide +kernel
    have hnone : ∀ i, ((Lib.Machine.final step (init wpaConfig emptyBeacon)
        clearedEvents).reported i == some true) = false := by decide +kernel
    rw [CountOk, hone, tally_eq_zero_iff.2 hnone] at hcount
    exact absurd hcount (by decide)

end CoexRun

end Rtl8723du
