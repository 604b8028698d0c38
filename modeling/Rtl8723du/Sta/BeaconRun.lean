import Rtl8723du.Sta.BeaconStep

/-!
# The beacon over runs

After a join or leave the beacon shows what the stations that are there need, and a beacon that
was changed is sent.  Two things break it: the Barker bit is written only where the number of
non-ERP stations turns, and a leave that changes nothing but the HT operation mode edits the
beacon and does not send it.
-/

namespace Rtl8723du

open Lib.Links

variable {cfg : ApConfig} {bss : BssConfig} {m m' : MlmePriv} {i : Fin numSta}

lemma BeaconInv.congr (h : BeaconInv bss m) (hnum : m'.num = m.num)
    (herp : m'.beacon.erpInfo = m.beacon.erpInfo) (hinfo : m'.beacon.htInfo = m.beacon.htInfo)
    (hmode : m'.htOpMode = m.htOpMode) : BeaconInv bss m' where
  erp := by
    rw [hnum, herp]
    exact h.erp
  ht := h.ht.congr hinfo hmode

lemma Reflects.congr (h : Reflects bss m) (hnum : m'.num = m.num)
    (hbeacon : m'.beacon = m.beacon) : Reflects bss m' where
  erp := by
    rw [hnum, hbeacon]
    exact h.erp
  ht := by
    rw [hnum, hbeacon]
    exact h.ht

namespace ApState

variable {s t : ApState} {req : AssocReq}

/-- The last update of a join or leave edits nothing. -/
lemma sendBeacon_mlme (bss : BssConfig) (s : ApState) (beaconUpdated : Bool) :
    (sendBeacon bss s beaconUpdated).1.mlme.beacon = s.mlme.beacon ∧
      (sendBeacon bss s beaconUpdated).1.mlme.htOpMode = s.mlme.htOpMode := by
  unfold sendBeacon updateBeacon
  split
  · split <;> exact ⟨rfl, rfl⟩
  · exact ⟨rfl, rfl⟩

lemma sendBeacon_out (hstart : bss.bstartBss = true) (s : ApState) :
    .setTxBeaconCmd ∈ (sendBeacon bss s true).2 := by
  simp [sendBeacon, hstart]

lemma leaveTim_mlme (bss : BssConfig) (s : ApState) (i : Fin numSta) :
    (leaveTim bss s i).mlme.beacon.erpInfo = s.mlme.beacon.erpInfo ∧
      (leaveTim bss s i).mlme.beacon.htInfo = s.mlme.beacon.htInfo ∧
      (leaveTim bss s i).mlme.htOpMode = s.mlme.htOpMode := by
  unfold leaveTim updateBeacon
  simp only
  split
  · split <;> exact ⟨rfl, rfl, rfl⟩
  · exact ⟨rfl, rfl, rfl⟩

lemma leaveTim_of_clear (bss : BssConfig)
    (htim : s.stapriv.timBitmap (s.stapriv.sta i).aid = false) :
    leaveTim bss s i = s := by
  simp [leaveTim, htim]

/-- The beacon after the counters of a station that joins. -/
lemma bssCapUpdateOnStaJoin_beacon (hstart : bss.bstartBss = true)
    (hcounted : Counted (t.mlme, t.stapriv.sta i) .noShortPreamble)
    (hcounted' : Counted (t.mlme, t.stapriv.sta i) .nonErp)
    (hmoves : PreambleWithErp bss (t.mlme, t.stapriv.sta i)
      (!(t.stapriv.sta i).flags.shortPreamble) (t.stapriv.sta i).flags.nonErp)
    (h : BeaconInv bss t.mlme) :
    BeaconInv bss (bssCapUpdateOnStaJoin bss t i).1.mlme ∧
      Reflects bss (bssCapUpdateOnStaJoin bss t i).1.mlme ∧
      ((bssCapUpdateOnStaJoin bss t i).1.mlme.beacon ≠ t.mlme.beacon →
        .setTxBeaconCmd ∈ (bssCapUpdateOnStaJoin bss t i).2) := by
  obtain ⟨hinv, hreflects, hkeep⟩ := joinCaps_beacon t.stapriv.timBitmap hstart
    hcounted hcounted' hmoves h
  unfold bssCapUpdateOnStaJoin
  simp only
  set x := joinCaps bss t.stapriv.timBitmap (t.mlme, t.stapriv.sta i) with hx
  set s' : ApState := ⟨t.stapriv.modify i fun _ => x.1.2, x.1.1⟩ with hs'
  obtain ⟨hbeacon, hmode⟩ := sendBeacon_mlme bss s' x.2
  have hnum := sendBeacon_num bss s' x.2
  refine ⟨hinv.congr hnum (by rw [hbeacon]) (by rw [hbeacon]) hmode,
    hreflects.congr hnum hbeacon, fun hchanged => ?_⟩
  cases hsent : x.2 with
  | true => exact sendBeacon_out hstart s'
  | false => exact absurd (hbeacon.trans (hkeep hsent)) hchanged

/-- The beacon goes out at a departure, whatever becomes of the HT operation mode. -/
def LeaveSends (bss : BssConfig) (s : ApState) (i : Fin numSta) : Prop :=
  s.stapriv.timBitmap (s.stapriv.sta i).aid = true ∨
    capTurns false .nonErp (s.mlme, s.stapriv.sta i) = true ∨
    (bss.above11b = true ∧ (capTurns false .noShortPreamble (s.mlme, s.stapriv.sta i) = true ∨
      capTurns false .noShortSlotTime (s.mlme, s.stapriv.sta i) = true))

/-- The departure does not change the HT operation mode. -/
def LeaveKeepsMode (bss : BssConfig) (s : ApState) (i : Fin numSta) : Prop :=
  bss.htOption = true → bss.htInfoEnable = true → s.mlme.beacon.htInfo ≠ none →
    s.mlme.htOpMode = opModeOf bss (CapState.without (s.mlme, s.stapriv.sta i))

instance (bss : BssConfig) (x : CapState) (noShortPreamble nonErp : Bool) :
    Decidable (PreambleWithErp bss x noShortPreamble nonErp) := by
  unfold PreambleWithErp
  infer_instance

instance (bss : BssConfig) (s : ApState) (i : Fin numSta) : Decidable (LeaveSends bss s i) := by
  unfold LeaveSends
  infer_instance

instance (bss : BssConfig) (s : ApState) (i : Fin numSta) :
    Decidable (LeaveKeepsMode bss s i) := by
  unfold LeaveKeepsMode
  infer_instance

lemma capTurns_congr {want : Bool} {p : CapProp} {x x' : CapState}
    (hcap : x'.2.capSet p = x.2.capSet p) (hnum : x'.1.num p = x.1.num p) :
    capTurns want p x' = capTurns want p x := by
  unfold capTurns
  rw [hcap, hnum]

lemma capTurns_same {want : Bool} {p : CapProp} {x x' : Sta} (hcap : x'.capSet = x.capSet)
    (hmlme : m' = m) : capTurns want p (m', x') = capTurns want p (m, x) :=
  capTurns_congr (by rw [hcap]) (by rw [hmlme])

/-- What `bss_cap_update_on_sta_leave` finds in the counters it finds there before. -/
lemma leaveCaps_snd (bss : BssConfig) (timBitmap : ℕ → Bool) (x : CapState) :
    (leaveCaps bss timBitmap x).2 =
      (bss.above11b && capTurns false .noShortPreamble x || capTurns false .nonErp x ||
        bss.above11b && capTurns false .noShortSlotTime x) := by
  have herp : capTurns false .nonErp (capLeave .noShortPreamble x) = capTurns false .nonErp x :=
    capTurns_capSwitch false false x (by decide)
  have hslot : capTurns false .noShortSlotTime
      (erpSwitch bss timBitmap false (capLeave .noShortPreamble x)) =
        capTurns false .noShortSlotTime x := by
    have hnum : (erpSwitch bss timBitmap false (capLeave .noShortPreamble x)).1.num =
        (capSwitch false .nonErp (capLeave .noShortPreamble x)).1.num := by
      unfold erpSwitch CapState.mapMlme
      split
      · exact updateBeacon_num ..
      · rfl
    rw [capTurns_congr (x := capSwitch false .nonErp (capLeave .noShortPreamble x))
      (by rw [erpSwitch_snd]) (by rw [hnum])]
    exact (capTurns_capSwitch false false _ (by decide)).trans
      (capTurns_capSwitch false false x (by decide))
  rw [leaveCaps, herp, hslot]

lemma LeaveSends.leaveCaps_snd (h : LeaveSends bss s i)
    (htim : s.stapriv.timBitmap (s.stapriv.sta i).aid = false) (timBitmap : ℕ → Bool) :
    (leaveCaps bss timBitmap (s.mlme, s.stapriv.sta i)).2 = true := by
  rw [ApState.leaveCaps_snd]
  rcases h with hin | herp | ⟨habove, hpreamble | hslot⟩
  · exact absurd (htim.symm.trans hin) Bool.false_ne_true
  · simp [herp]
  · simp [habove, hpreamble]
  · simp [habove, hslot]

/-- The beacon after the counters of a station that leaves. -/
lemma bssCapUpdateOnStaLeave_beacon (hstart : bss.bstartBss = true)
    (hcounted : Counted (t.mlme, t.stapriv.sta i) .noShortPreamble)
    (hcounted' : Counted (t.mlme, t.stapriv.sta i) .nonErp)
    (hmoves : PreambleWithErp bss (t.mlme, t.stapriv.sta i) false false)
    (hsends : LeaveKeepsMode bss t i ∨ LeaveSends bss t i) (h : BeaconInv bss t.mlme) :
    BeaconInv bss (bssCapUpdateOnStaLeave bss t i).1.mlme ∧
      Reflects bss (bssCapUpdateOnStaLeave bss t i).1.mlme ∧
      ((bssCapUpdateOnStaLeave bss t i).1.mlme.beacon ≠ t.mlme.beacon →
        .setTxBeaconCmd ∈ (bssCapUpdateOnStaLeave bss t i).2) := by
  obtain ⟨herpInfo, hhtInfo, hopMode⟩ := leaveTim_mlme bss t i
  have htnum := leaveTim_num bss t i
  have htsta := congrFun (leaveTim_sta bss t i) i
  have hcountedTim (p : CapProp) (hc : Counted (t.mlme, t.stapriv.sta i) p) :
      Counted ((leaveTim bss t i).mlme, (leaveTim bss t i).stapriv.sta i) p := by
    unfold Counted at hc ⊢
    rw [htnum, htsta]
    exact hc
  have hmovesTim : PreambleWithErp bss
      ((leaveTim bss t i).mlme, (leaveTim bss t i).stapriv.sta i) false false := by
    intro henable hinfo hturns
    rw [capTurns_congr (x := (t.mlme, t.stapriv.sta i)) (by rw [htsta]) (by rw [htnum])]
      at hturns ⊢
    exact hmoves henable (herpInfo ▸ hinfo) hturns
  obtain ⟨hinv, hreflects, hkeep⟩ := leaveCaps_beacon
    (leaveTim bss t i).stapriv.timBitmap hstart (hcountedTim _ hcounted)
    (hcountedTim _ hcounted') hmovesTim (h.congr htnum herpInfo hhtInfo hopMode)
  unfold bssCapUpdateOnStaLeave
  simp only
  set x := leaveCaps bss (leaveTim bss t i).stapriv.timBitmap
    ((leaveTim bss t i).mlme, (leaveTim bss t i).stapriv.sta i) with hx
  set s' : ApState := ⟨(leaveTim bss t i).stapriv.modify i fun _ => x.1.2, x.1.1⟩ with hs'
  set sent := t.stapriv.timBitmap (t.stapriv.sta i).aid || x.2 with hsent
  obtain ⟨hbeacon, hmode⟩ := sendBeacon_mlme bss s' sent
  have hnum := sendBeacon_num bss s' sent
  refine ⟨hinv.congr hnum (by rw [hbeacon]) (by rw [hbeacon]) hmode,
    hreflects.congr hnum hbeacon, fun hchanged => ?_⟩
  cases hcase : sent with
  | true => exact sendBeacon_out hstart s'
  | false =>
      rw [hsent, Bool.or_eq_false_iff] at hcase
      obtain ⟨htim, hsnd⟩ := hcase
      have hsame := leaveTim_of_clear bss htim
      have hnone : (leaveCaps bss t.stapriv.timBitmap (t.mlme, t.stapriv.sta i)).2 = false := by
        rw [hx, hsame] at hsnd
        exact hsnd
      rw [hsame] at hkeep
      have hmodeKept : LeaveKeepsMode bss t i :=
        hsends.resolve_right fun hs =>
          Bool.false_ne_true (hnone.symm.trans (hs.leaveCaps_snd htim _))
      exact absurd (hbeacon.trans (hkeep hsnd hmodeKept)) hchanged

/-! ### Steps and runs -/

/-- The condition on an event.  No entry is freed that is counted as non-ERP or without short
preamble; the number of stations without short preamble turns only together with that of
non-ERP stations; and a leave that changes the HT operation mode has another reason to send the
beacon. -/
def BeaconStepOk (cfg : ApConfig) (s : ApState) (e : StaEvent) : Prop :=
  CapStepOk cfg .nonErp s e ∧ CapStepOk cfg .noShortPreamble s e ∧
    match e with
    | .assocReq req => ∀ i, Grants cfg s req i →
        PreambleWithErp cfg.bss (s.mlme, s.stapriv.sta i)
          (!(parsed cfg s req i).flags.shortPreamble) (parsed cfg s req i).flags.nonErp
    | .leave hwaddr => ∀ i ∈ s.stapriv.getStainfo hwaddr, (s.stapriv.sta i).asocLinked = true →
        PreambleWithErp cfg.bss (s.mlme, s.stapriv.sta i) false false ∧
          (LeaveKeepsMode cfg.bss s i ∨ LeaveSends cfg.bss s i)
    | _ => True

instance decidableBeaconStepOk (cfg : ApConfig) (s : ApState) :
    (e : StaEvent) → Decidable (BeaconStepOk cfg s e)
  | .assocReq req => inferInstanceAs (Decidable (CapStepOk cfg .nonErp s (.assocReq req) ∧
      CapStepOk cfg .noShortPreamble s (.assocReq req) ∧ ∀ i, Grants cfg s req i →
        PreambleWithErp cfg.bss (s.mlme, s.stapriv.sta i)
          (!(parsed cfg s req i).flags.shortPreamble) (parsed cfg s req i).flags.nonErp))
  | .leave hwaddr => inferInstanceAs (Decidable (CapStepOk cfg .nonErp s (.leave hwaddr) ∧
      CapStepOk cfg .noShortPreamble s (.leave hwaddr) ∧
        ∀ i ∈ s.stapriv.getStainfo hwaddr, (s.stapriv.sta i).asocLinked = true →
          PreambleWithErp cfg.bss (s.mlme, s.stapriv.sta i) false false ∧
            (LeaveKeepsMode cfg.bss s i ∨ LeaveSends cfg.bss s i)))
  | .alloc a => inferInstanceAs (Decidable (CapStepOk cfg .nonErp s (.alloc a) ∧
      CapStepOk cfg .noShortPreamble s (.alloc a) ∧ True))
  | .free a => inferInstanceAs (Decidable (CapStepOk cfg .nonErp s (.free a) ∧
      CapStepOk cfg .noShortPreamble s (.free a) ∧ True))
  | .freeAll => inferInstanceAs (Decidable (CapStepOk cfg .nonErp s .freeAll ∧
      CapStepOk cfg .noShortPreamble s .freeAll ∧ True))
  | .authExpired i => inferInstanceAs (Decidable (CapStepOk cfg .nonErp s (.authExpired i) ∧
      CapStepOk cfg .noShortPreamble s (.authExpired i) ∧ True))
  | .auth env f => inferInstanceAs (Decidable (CapStepOk cfg .nonErp s (.auth env f) ∧
      CapStepOk cfg .noShortPreamble s (.auth env f) ∧ True))
  | .keyInstalled a => inferInstanceAs (Decidable (CapStepOk cfg .nonErp s (.keyInstalled a) ∧
      CapStepOk cfg .noShortPreamble s (.keyInstalled a) ∧ True))
  | .tim aid on => inferInstanceAs (Decidable (CapStepOk cfg .nonErp s (.tim aid on) ∧
      CapStepOk cfg .noShortPreamble s (.tim aid on) ∧ True))

end ApState

/-- A beacon that asks for no protection. -/
structure Beacon.Clear (beacon : Beacon) : Prop where
  erp : ∀ data ∈ beacon.erpInfo,
    data.getLsbD 0 = false ∧ data.getLsbD 1 = false ∧ data.getLsbD 2 = false
  ht : ∀ htInfo ∈ beacon.htInfo, htInfo.opMode = 0

namespace ApRun

variable {r : ApRun} {e : StaEvent}

/-- The beacon shows what the stations that joined need. -/
structure Protects (bss : BssConfig) (r : ApRun) : Prop where
  nonErpPresent : bss.erpEnable = true → ∀ data ∈ r.ap.mlme.beacon.erpInfo,
    (data.getLsbD 0 = true ↔ ∃ i, r.has i .nonErp = true)
  useProtection : bss.erpEnable = true → ∀ data ∈ r.ap.mlme.beacon.erpInfo,
    (data.getLsbD 1 = true ↔ ∃ i, r.has i .nonErp = true)
  barkerPreamble : bss.erpEnable = true → ∀ data ∈ r.ap.mlme.beacon.erpInfo,
    (data.getLsbD 2 = true ↔ ∃ i, r.has i .noShortPreamble = true)
  opMode : bss.htOption = true → bss.htInfoEnable = true → ∀ htInfo ∈ r.ap.mlme.beacon.htInfo,
    htInfo.opMode = opModeOf bss r.ap.mlme.num

/-- The invariant of the beacon, with the counters that it is made from. -/
structure BeaconRunInv (cfg : ApConfig) (r : ApRun) : Prop where
  nonErp : CapInv cfg .nonErp r
  noShortPreamble : CapInv cfg .noShortPreamble r
  beacon : BeaconInv cfg.bss r.ap.mlme

lemma CapInv.counted {p : CapProp} (h : CapInv cfg p r) (i : Fin numSta) :
    Counted (r.ap.mlme, r.ap.stapriv.sta i) p := by
  unfold Counted
  rw [h.num]
  cases hin : (r.ap.stapriv.sta i).capSet p with
  | true =>
      exact Int.add_one_le_iff.2 (tally_pos_iff.2 ⟨i, hin⟩)
  | false => simpa using tally_nonneg fun i => (r.ap.stapriv.sta i).capSet p

lemma CapInv.num_pos {p : CapProp} (h : CapInv cfg p r) :
    0 < r.ap.mlme.num p ↔ ∃ i, r.has i p = true := by
  rw [h.num, tally_pos_iff]
  simp only [h.flags]

/-- What an event makes of the beacon. -/
structure BeaconStep (bss : BssConfig) (s s' : ApState) (out : List StaOut) : Prop where
  inv : BeaconInv bss s'.mlme
  reflects : (∃ i, .joined i ∈ out ∨ .left i ∈ out) → Reflects bss s'.mlme
  sent : s'.mlme.beacon ≠ s.mlme.beacon → .setTxBeaconCmd ∈ out

lemma beaconStep_of_same {s s' : ApState} (h : BeaconInv bss s.mlme)
    (hmlme : s'.mlme = s.mlme) : BeaconStep bss s s' [] where
  inv := by
    rw [hmlme]
    exact h
  reflects := by simp
  sent := fun hchanged => absurd (congrArg MlmePriv.beacon hmlme) hchanged

lemma beaconStep_assocReq {req : AssocReq} (hstart : cfg.bss.bstartBss = true)
    (hok : ApState.BeaconStepOk cfg r.ap (.assocReq req)) (h : BeaconRunInv cfg r) :
    BeaconStep cfg.bss r.ap (r.ap.step cfg (.assocReq req)).1
      (r.ap.step cfg (.assocReq req)).2 := by
  rcases ApState.onAssocReq_caps cfg r.ap req with
    ⟨hsame, hout⟩ | ⟨i, t, hgrants, hsame, hcaps, hres⟩
  · have hnone : (r.ap.step cfg (.assocReq req)).2 = [] := hout
    rw [hnone]
    exact beaconStep_of_same h.beacon hsame.mlme
  · have hset := hsame.capSet i
    have hpreamble : (!(t.stapriv.sta i).flags.shortPreamble) = _ :=
      congrFun hcaps .noShortPreamble
    have herp : (t.stapriv.sta i).flags.nonErp = _ := congrFun hcaps .nonErp
    have hcounted (p : CapProp) (hp : CapInv cfg p r) :
        Counted (t.mlme, t.stapriv.sta i) p := by
      have hold := hp.counted i
      unfold Counted at hold ⊢
      rw [hset, hsame.mlme]
      exact hold
    have hmoves : PreambleWithErp cfg.bss (t.mlme, t.stapriv.sta i)
        (!(t.stapriv.sta i).flags.shortPreamble) (t.stapriv.sta i).flags.nonErp := by
      intro henable hinfo hturns
      rw [hpreamble, ApState.capTurns_same hset hsame.mlme] at hturns
      rw [herp, ApState.capTurns_same hset hsame.mlme]
      exact hok.2.2 i hgrants henable (hsame.mlme ▸ hinfo) hturns
    obtain ⟨hinv, hreflects, hsent⟩ := ApState.bssCapUpdateOnStaJoin_beacon hstart
      (hcounted _ h.noShortPreamble) (hcounted _ h.nonErp) hmoves
      (by rw [hsame.mlme]; exact h.beacon)
    have hstep : r.ap.step cfg (.assocReq req) = _ := hres
    rw [hstep]
    refine ⟨hinv, fun _ => hreflects, fun hchanged => List.mem_cons_of_mem _ (hsent ?_)⟩
    rw [hsame.mlme]
    exact hchanged

lemma beaconStep_leave {hwaddr : MacAddr} (hstart : cfg.bss.bstartBss = true)
    (hok : ApState.BeaconStepOk cfg r.ap (.leave hwaddr)) (h : BeaconRunInv cfg r) :
    BeaconStep cfg.bss r.ap (r.ap.step cfg (.leave hwaddr)).1
      (r.ap.step cfg (.leave hwaddr)).2 := by
  rcases ApState.leave_caps cfg r.ap hwaddr with
    hnone | ⟨i, t, hfound, hlinked, hsame, htim, haid, hres⟩
  · have hstep : r.ap.step cfg (.leave hwaddr) = (r.ap, []) := hnone
    rw [hstep]
    exact beaconStep_of_same h.beacon rfl
  · have hset := hsame.capSet i
    have hcounted (p : CapProp) (hp : CapInv cfg p r) :
        Counted (t.mlme, t.stapriv.sta i) p := by
      have hold := hp.counted i
      unfold Counted at hold ⊢
      rw [hset, hsame.mlme]
      exact hold
    obtain ⟨hmovesOld, hsendsOld⟩ := hok.2.2 i hfound hlinked
    have hmoves : PreambleWithErp cfg.bss (t.mlme, t.stapriv.sta i) false false := by
      intro henable hinfo hturns
      rw [ApState.capTurns_same hset hsame.mlme] at hturns ⊢
      exact hmovesOld henable (hsame.mlme ▸ hinfo) hturns
    have hsends : ApState.LeaveKeepsMode cfg.bss t i ∨ ApState.LeaveSends cfg.bss t i := by
      have hwithout : CapState.without (t.mlme, t.stapriv.sta i) =
          CapState.without (r.ap.mlme, r.ap.stapriv.sta i) := by
        unfold CapState.without
        rw [hset, hsame.mlme]
      have hturns (p : CapProp) : capTurns false p (t.mlme, t.stapriv.sta i) =
          capTurns false p (r.ap.mlme, r.ap.stapriv.sta i) := ApState.capTurns_same hset hsame.mlme
      rw [ApState.LeaveKeepsMode, ApState.LeaveSends, hwithout, hturns, hturns, hturns, htim,
        haid, hsame.mlme]
      exact hsendsOld
    obtain ⟨hinv, hreflects, hsent⟩ := ApState.bssCapUpdateOnStaLeave_beacon hstart
      (hcounted _ h.noShortPreamble) (hcounted _ h.nonErp) hmoves hsends
      (by rw [hsame.mlme]; exact h.beacon)
    have hstep : r.ap.step cfg (.leave hwaddr) = _ := hres
    rw [hstep]
    refine ⟨hinv, fun _ => hreflects, fun hchanged => List.mem_cons_of_mem _ (hsent ?_)⟩
    rw [hsame.mlme]
    exact hchanged

lemma beaconStep (hstart : cfg.bss.bstartBss = true) (hok : ApState.BeaconStepOk cfg r.ap e)
    (h : BeaconRunInv cfg r) :
    BeaconStep cfg.bss r.ap (r.ap.step cfg e).1 (r.ap.step cfg e).2 := by
  rcases ApState.step_table cfg r.ap e with hstep | ⟨req, rfl⟩ | ⟨hwaddr, rfl⟩
  · rw [hstep]
    exact beaconStep_of_same h.beacon rfl
  · exact beaconStep_assocReq hstart hok h
  · exact beaconStep_leave hstart hok h

lemma beaconRunInv_step (hstart : cfg.bss.bstartBss = true)
    (hok : ApState.BeaconStepOk cfg r.ap e) (h : BeaconRunInv cfg r) :
    BeaconRunInv cfg (r.step cfg e).1 where
  nonErp := capInv_step e hok.1 h.nonErp
  noShortPreamble := capInv_step e hok.2.1 h.noShortPreamble
  beacon := (beaconStep hstart hok h).inv

lemma beaconRunInv_init {beacon : Beacon} (hclear : beacon.Clear) :
    BeaconRunInv cfg (init beacon) where
  nonErp := capInv_init cfg .nonErp beacon
  noShortPreamble := capInv_init cfg .noShortPreamble beacon
  beacon :=
    { erp := fun _ data hdata =>
        ⟨(hclear.erp data hdata).1, (hclear.erp data hdata).2.1, (hclear.erp data hdata).2.2⟩
      ht := ⟨show (0 : BitVec 16) &&& htOpModeBits = 0 from rfl,
        fun _ _ htInfo hin => hclear.ht htInfo hin⟩ }

lemma BeaconRunInv.protects (h : BeaconRunInv cfg r) (hreflects : Reflects cfg.bss r.ap.mlme) :
    Protects cfg.bss r where
  nonErpPresent := fun henable data hdata => by
    rw [(hreflects.erp henable data hdata).nonErpPresent, decide_eq_true_iff]
    exact h.nonErp.num_pos
  useProtection := fun henable data hdata => by
    rw [(hreflects.erp henable data hdata).useProtection, decide_eq_true_iff]
    exact h.nonErp.num_pos
  barkerPreamble := fun henable data hdata => by
    rw [(hreflects.erp henable data hdata).barkerPreamble, decide_eq_true_iff]
    exact h.noShortPreamble.num_pos
  opMode := hreflects.ht

/-- In every run of a network that was started with a beacon that asks for no protection, and
whose events all meet the condition: after each join or leave the beacon shows what the
stations that are there need, and where it was changed it is sent. -/
theorem protects_step_of_run (cfg : ApConfig) (beacon : Beacon) (es : List StaEvent) (e : StaEvent)
    (hstart : cfg.bss.bstartBss = true) (hclear : beacon.Clear)
    (hok : Lib.Machine.Along (step cfg) (fun r e => ApState.BeaconStepOk cfg r.ap e)
      (init beacon) (es ++ [e])) :
    let r := Lib.Machine.final (step cfg) (init beacon) es
    let r' := Lib.Machine.final (step cfg) (init beacon) (es ++ [e])
    let out := (step cfg r e).2
    (∃ i, .joined i ∈ out ∨ .left i ∈ out) →
      Protects cfg.bss r' ∧
        (r'.ap.mlme.beacon ≠ r.ap.mlme.beacon → .setTxBeaconCmd ∈ out) := by
  intro r r' out hjl
  have hinv : BeaconRunInv cfg r := Lib.Machine.final_induction (I := BeaconRunInv cfg)
    (fun _ e hok h => beaconRunInv_step hstart hok h) (beaconRunInv_init hclear) hok.left
  have hlast := hok.right.1
  have hstep := beaconStep hstart hlast hinv
  have hr' : r' = (step cfg r e).1 := Lib.Machine.final_concat ..
  rw [hr']
  exact ⟨(beaconRunInv_step hstart hlast hinv).protects (hstep.reflects hjl), hstep.sent⟩

/-! ### One station -/

open StaPriv (peerMac wpaConfig quietEnv peerAuth)
open ApState (peerAssoc)

lemma emptyBeacon_clear : emptyBeacon.Clear where
  erp := fun data hdata => by
    obtain rfl : 0 = data := by simpa [emptyBeacon] using hdata
    decide
  ht := fun htInfo hin => by
    obtain rfl : ⟨0, false, 0⟩ = htInfo := by simpa [emptyBeacon] using hin
    rfl

/-- The station comes with the request. -/
def joinEvents (req : AssocReq) : List StaEvent :=
  [.alloc bcAddr, .auth quietEnv (peerAuth 0 1), .assocReq req]

/-- An 802.11b station comes and leaves. -/
theorem protects_step_of_run_of_legacyAssoc :
    let r := Lib.Machine.final (step wpaConfig) (init emptyBeacon) (joinEvents legacyAssoc)
    let r' := Lib.Machine.final (step wpaConfig) (init emptyBeacon)
      (joinEvents legacyAssoc ++ [.leave peerMac])
    Protects wpaConfig.bss r' ∧ (r'.ap.mlme.beacon ≠ r.ap.mlme.beacon →
      .setTxBeaconCmd ∈ (step wpaConfig r (.leave peerMac)).2) :=
  protects_step_of_run wpaConfig emptyBeacon (joinEvents legacyAssoc) (.leave peerMac) rfl
    emptyBeacon_clear (by decide +kernel) ⟨1, Or.inr (by decide +kernel)⟩

/-- The request of an 802.11g station without short preamble. -/
def longPreambleAssoc : AssocReq := { peerAssoc false with capability := 0x0400 }

/-- The request of an 802.11g station without HT. -/
def noHtAssoc : AssocReq := { peerAssoc false with htCapInfo := none }

/-- An 802.11g station without short preamble comes, and the Barker bit stays clear.  One
without HT leaves, and the beacon is edited and not sent. -/
theorem protects_step_of_run_not :
    (¬ ∀ (cfg : ApConfig) (beacon : Beacon) (es : List StaEvent) (e : StaEvent),
      cfg.bss.bstartBss = true → beacon.Clear →
      let r := Lib.Machine.final (step cfg) (init beacon) es
      (∃ i, .joined i ∈ (step cfg r e).2 ∨ .left i ∈ (step cfg r e).2) →
        Protects cfg.bss (step cfg r e).1) ∧
    ¬ ∀ (cfg : ApConfig) (beacon : Beacon) (es : List StaEvent) (e : StaEvent),
      cfg.bss.bstartBss = true → beacon.Clear →
      let r := Lib.Machine.final (step cfg) (init beacon) es
      (∃ i, .joined i ∈ (step cfg r e).2 ∨ .left i ∈ (step cfg r e).2) →
        (step cfg r e).1.ap.mlme.beacon.htInfo ≠ r.ap.mlme.beacon.htInfo →
          .setTxBeaconCmd ∈ (step cfg r e).2 := by
  constructor
  · intro h
    have hprotects := h wpaConfig emptyBeacon [.alloc bcAddr, .auth quietEnv (peerAuth 0 1)]
      (.assocReq longPreambleAssoc) rfl emptyBeacon_clear ⟨1, Or.inl (by decide +kernel)⟩
    have hbarker := (hprotects.barkerPreamble rfl 0 (by decide +kernel)).2
      ⟨1, by decide +kernel⟩
    exact absurd hbarker (by decide)
  · intro h
    have hsent := h wpaConfig emptyBeacon (joinEvents noHtAssoc) (.leave peerMac) rfl
      emptyBeacon_clear ⟨1, Or.inr (by decide +kernel)⟩ (by decide +kernel)
    exact absurd hsent (by decide +kernel)

end ApRun

end Rtl8723du
