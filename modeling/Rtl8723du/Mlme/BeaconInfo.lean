import Rtl8723du.Elems.ParseElems
import Rtl8723du.Lib.Elements
import Rtl8723du.Lib.Loop
import Rtl8723du.Mlme.Handlers

/-!
# The elements of a beacon

`OnBeacon` drops a frame unless `validate_beacon_len` accepts it: behind the fixed fields stand
elements, and nothing else.  `update_beacon_info` and `process_csa_ie` then go from element to
element.  Each of the cases takes for granted that the data are long enough, which the check does
not say; the one for a Channel Switch Wrapper goes through the elements inside of it, which need not
fill it.
-/

namespace Rtl8723du.Mlme

open Lib Lib.Elements Lib.Footprint Lib.Memory
open Elems (checkIelen)

/-! ### `validate_beacon_len` -/

/-- `WLAN_HDR_A3_LEN + _BEACON_IE_OFFSET_`. -/
abbrev beaconElements : ℕ := 36

/-- `validate_beacon_len`. -/
def validateBeaconLen (m : Mem) (len : ℕ) : Bool :=
  if len < beaconElements then false
  else checkIelen (readBytes m beaconElements (len - beaconElements)) == some true

/-! ### `update_beacon_info` -/

/-- `WMM_PARA_OUI`. -/
def wmmParaOui : List UInt8 := [0x00, 0x50, 0xf2, 0x02, 0x01, 0x01]

/-- The switch of `update_beacon_info`. -/
def updateElement (m : Mem) (psta : MacAddr) (pIE : ℕ) (st : Adapter) : Adapter × Log :=
  -- `_VENDOR_SPECIFIC_IE_`
  if m pIE = 221 then
    if readBytes m (pIE + 2) 6 = wmmParaOui ∧ elen m pIE = 24 then
      let r := wmmParamHandler m pIE st
      (if r.1 then { r.2.1 with cmds := r.2.1.cmds ++ [.wmmEdcaUpdate] } else r.2.1,
        readData pIE 0 6 :: r.2.2)
    else (st, [readData pIE 0 6])
  -- `_HT_EXTRA_INFO_IE_`
  else if m pIE = 61 then bwmodeUpdateCheck m pIE st
  -- `_ERPINFO_IE_`
  else if m pIE = 42 then
    let r := erpIeHandler m pIE st
    (vcsUpdate r.1 psta, r.2)
  else (st, [])

/-- The elements that were handled, and what was touched then. -/
abbrev ElementLog := List (Range × Log)

/-- A pass of the loop of `update_beacon_info`, with `i`. -/
def updateBeaconInfoPass (m : Mem) (psta : MacAddr) (len : ℕ) (s : ℕ × Adapter × ElementLog) :
    (Adapter × ElementLog) ⊕ (ℕ × Adapter × ElementLog) :=
  if s.1 < len then
    let pIE := beaconElements + s.1
    let r := updateElement m psta pIE s.2.1
    .inr ((s.1 + (elen m pIE + 2)) % 2 ^ 32, r.1,
      s.2.2 ++ [(extent m pIE, readHeader pIE :: r.2)])
  else .inl s.2

/-- `update_beacon_info`, with at most `k` passes. -/
def updateBeaconInfo (m : Mem) (pktLen : ℕ) (psta : MacAddr) (st : Adapter) (k : ℕ) :
    Option (Adapter × ElementLog) :=
  Loop.run (updateBeaconInfoPass m psta (pktLen - beaconElements)) k (0, st, [])

/-! ### `process_csa_ie` -/

/-- The variables of `process_csa_ie`. -/
structure CsaVars where
  ch : UInt8
  csaChOffset : UInt8
  csaChWidth : UInt8
  csaChFreqSeg0 : UInt8
  csaChFreqSeg1 : UInt8
  csaSwitchCnt : UInt8
deriving DecidableEq, Repr

/-- What it uses of `struct rf_ctl_t`, with the beacon period of the network and the time that the
timer is set to. -/
structure RfCtl where
  csa : CsaVars
  beaconPeriod : ℕ
  csaTimer : Option ℕ
deriving DecidableEq, Repr

/-- `WLAN_EID_WIDE_BANDWIDTH_CHANNEL_SWITCH`. -/
abbrev eidWideBandwidthChannelSwitch : UInt8 := 194

/-- The three bytes of a Wide Bandwidth Channel Switch element. -/
def CsaVars.setWidth (v : CsaVars) (m : Mem) (pIE : ℕ) : CsaVars :=
  { v with
    csaChWidth := m (pIE + 2)
    csaChFreqSeg0 := m (pIE + 2 + 1)
    csaChFreqSeg1 := m (pIE + 2 + 2) }

/-- A pass of the loop inside a Channel Switch Wrapper, with `j`.  What it touches is told for the
element inside and for the wrapper. -/
def csaWrapperPass (m : Mem) (pIE : ℕ) (s : ℕ × CsaVars × ElementLog) :
    (CsaVars × ElementLog) ⊕ (ℕ × CsaVars × ElementLog) :=
  if s.1 + 1 < elen m pIE then
    let subPie := pIE + s.1 + 2
    let r : CsaVars × Log :=
      if m subPie = eidWideBandwidthChannelSwitch then
        (s.2.1.setWidth m subPie, [readHeader subPie, readData subPie 0 3])
      else (s.2.1, [readHeader subPie])
    .inr (s.1 + (elen m subPie + 2), r.1, s.2.2 ++ [(extent m subPie, r.2), (extent m pIE, r.2)])
  else .inl s.2

/-- The loop inside a wrapper; each pass goes two bytes on at least. -/
def csaWrapper (m : Mem) (pIE : ℕ) (v : CsaVars) : Option (CsaVars × ElementLog) :=
  Loop.run (csaWrapperPass m pIE) (elen m pIE + 1) (0, v, [])

/-- The switch of `process_csa_ie`; nothing if the loop inside does not end. -/
def csaElement (m : Mem) (pIE : ℕ) (v : CsaVars) : Option (CsaVars × ElementLog) :=
  -- `_CH_SWTICH_ANNOUNCE_`
  if m pIE = 37 then
    some ({ v with ch := m (pIE + 2 + 1), csaSwitchCnt := m (pIE + 2 + 2) },
      [(extent m pIE, [readData pIE 1 1, readData pIE 2 1])])
  -- `WLAN_EID_SECONDARY_CHANNEL_OFFSET`
  else if m pIE = 62 then
    some ({ v with csaChOffset := m (pIE + 2) }, [(extent m pIE, [readData pIE 0 1])])
  else if m pIE = eidWideBandwidthChannelSwitch then
    some (v.setWidth m pIE, [(extent m pIE, [readData pIE 0 3])])
  -- `WLAN_EID_CHANNEL_SWITCH_WRAPPER`
  else if m pIE = 196 then csaWrapper m pIE v
  else some (v, [])

/-- A pass of the loop of `process_csa_ie`, with `i`; nothing if a loop inside does not end. -/
def processCsaIePass (m : Mem) (ies iesLen : ℕ) (s : ℕ × CsaVars × ElementLog) :
    Option (CsaVars × ElementLog) ⊕ (ℕ × CsaVars × ElementLog) :=
  if (s.1 + 1) % 2 ^ 32 < iesLen then
    let pIE := ies + s.1
    (csaElement m pIE s.2.1).elim (.inl none) fun r =>
      .inr ((s.1 + (elen m pIE + 2)) % 2 ^ 32, r.1,
        s.2.2 ++ (extent m pIE, [readHeader pIE]) :: r.2)
  else .inl (some s.2)

/-- The end of `process_csa_ie`: the switch is scheduled. -/
def scheduleCsa (rfctl : RfCtl) (v : CsaVars) : RfCtl :=
  if v.ch ≠ 0 then
    { rfctl with
      csa := v
      csaTimer := some (rfctl.beaconPeriod * (v.csaSwitchCnt.toNat + 1) % 2 ^ 32) }
  else rfctl

/-- `process_csa_ie`, with at most `k` passes. -/
def processCsaIe (m : Mem) (ies iesLen : ℕ) (rfctl : RfCtl) (k : ℕ) :
    Option (RfCtl × ElementLog) :=
  if rfctl.csa.ch ≠ 0 then some (rfctl, [])
  else
    (Loop.run (processCsaIePass m ies iesLen) k (0, ⟨0, 0, 0, 0, 0, 0⟩, [])).join.map fun r =>
      (scheduleCsa rfctl r.1, r.2)

/-! ### What they should do -/

/-- Nothing is touched outside of the element that is handled. -/
def InElements (l : ElementLog) : Prop := ∀ p ∈ l, Confined Dest.size p.1 p.2

/-- `update_beacon_info` and `process_csa_ie`, called with the frame, end, and stay in the element
that they handle. -/
def BeaconOk (m : Mem) (len : ℕ) (psta : MacAddr) (st : Adapter) (rfctl : RfCtl) : Prop :=
  (∃ k, ∃ r ∈ updateBeaconInfo m len psta st k, InElements r.2) ∧
    ∃ k, ∃ r ∈ processCsaIe m beaconElements (len - beaconElements) rfctl k, InElements r.2

/-! ### When they do it -/

/-- An element is long enough for `update_beacon_info`. -/
def UpdateFits (htOption : Bool) (curBwmode : ℕ) (e : Element) : Prop :=
  (e.id = 221 → 6 ≤ e.data.length) ∧
    (e.id = 61 → htOption = true → curBwmode < channelWidth80 → 2 ≤ e.data.length)

/-- The Wide Bandwidth Channel Switch elements in a wrapper are long enough, also one that the
wrapper is too short for. -/
def WrapperFits (data : List UInt8) : Prop :=
  ∃ es tail, data = encode es ++ tail ∧ (tail = [] ∨ Truncated tail) ∧
    (∀ x ∈ es, x.id = eidWideBandwidthChannelSwitch → 3 ≤ x.data.length) ∧
    (2 ≤ tail.length → tail.head? = some eidWideBandwidthChannelSwitch → 5 ≤ tail.length)

/-- An element is long enough for `process_csa_ie`. -/
def CsaFits (e : Element) : Prop :=
  (e.id = 37 → 3 ≤ e.data.length) ∧ (e.id = 62 → 1 ≤ e.data.length) ∧
    (e.id = eidWideBandwidthChannelSwitch → 3 ≤ e.data.length) ∧
    (e.id = 196 → WrapperFits e.data)

/-- All elements of the frame are long enough. -/
def BeaconFits (m : Mem) (len : ℕ) (st : Adapter) (rfctl : RfCtl) : Prop :=
  ∀ es, readBytes m beaconElements (len - beaconElements) = encode es →
    ∀ e ∈ es, UpdateFits st.htOption st.curBwmode e ∧ (rfctl.csa.ch = 0 → CsaFits e)

/-! ### Elements in the memory -/

variable {m : Mem} {a n i j len k pIE : ℕ} {b : UInt8} {bs data : List UInt8} {e : Element}
  {es : List Element} {psta : MacAddr} {st st' : Adapter} {v : CsaVars} {rfctl : RfCtl}
  {l l' : ElementLog}

lemma holds_cons : Memory.Holds m a (b :: bs) ↔ m a = b ∧ Memory.Holds m (a + 1) bs := by
  rw [← List.singleton_append, holds_append]
  simp [Memory.Holds, readBytes]

lemma holds_bytes : Memory.Holds m pIE e.bytes ↔
    m pIE = e.id ∧ m (pIE + 1) = UInt8.ofNat e.data.length ∧ Memory.Holds m (pIE + 2) e.data := by
  rw [Element.bytes, holds_cons, holds_cons]

lemma elen_of_holds (h : Memory.Holds m pIE e.bytes) : elen m pIE = e.data.length := by
  rw [elen, (holds_bytes.1 h).2.1, e.toNat_length]

lemma holds_encode_cons : Memory.Holds m a (encode (e :: es)) ↔
    Memory.Holds m a e.bytes ∧ Memory.Holds m (a + e.size) (encode es) := by
  rw [encode_cons, holds_append, e.length_bytes]

@[simp] lemma inElements_nil : InElements [] := by simp [InElements]

@[simp] lemma inElements_cons {r : Range} {t : Log} :
    InElements ((r, t) :: l) ↔ Confined Dest.size r t ∧ InElements l := by
  simp [InElements]

@[simp] lemma inElements_append : InElements (l ++ l') ↔ InElements l ∧ InElements l' := by
  simp [InElements, or_imp, forall_and]

lemma header_within (m : Mem) (pIE : ℕ) : (⟨pIE, 2⟩ : Range).Within (extent m pIE) :=
  ⟨Nat.le_refl _, Nat.add_le_add_left (Nat.le_add_left _ _) _⟩

/-- The header is in the element, and some of its data are if there are so many. -/
lemma data_within_extent_iff {off : ℕ} :
    (⟨pIE + 2 + off, n⟩ : Range).Within (extent m pIE) ↔ off + n ≤ elen m pIE := by
  rw [extent, within_mk]
  omega

/-! ### `update_beacon_info` -/

/-- Nothing but the data is missing in a short element. -/
lemma confined_updateElement (h : Memory.Holds m pIE e.bytes) (psta : MacAddr) (st : Adapter) :
    Confined Dest.size (extent m pIE) (updateElement m psta pIE st).2 ↔
      UpdateFits st.htOption st.curBwmode e := by
  have hlen := elen_of_holds h
  have hid := (holds_bytes.1 h).1
  rw [updateElement, UpdateFits, hid]
  by_cases hvendor : e.id = 221
  · have hother : e.id ≠ 61 := by rw [hvendor]; decide
    have hsix : Access.Inside Dest.size (extent m pIE) (readData pIE 0 6) ↔ 6 ≤ e.data.length := by
      rw [inside_readData, data_within_extent_iff, hlen, Nat.zero_add]
    rw [if_pos hvendor]
    split
    · rename_i hwmm
      have hparam : Confined Dest.size (extent m pIE) (wmmParamHandler m pIE st).2.2 := by
        refine confined_wmmParamHandler.2 fun _ => ?_
        rw [data_within_extent_iff, hwmm.2]
      simp [hvendor, hsix, hparam]
    · simp [hvendor, hsix]
  · rw [if_neg hvendor]
    by_cases hht : e.id = 61
    · rw [if_pos hht, confined_bwmodeUpdateCheck, hlen]
      simp [hht]
    · rw [if_neg hht]
      split
      · have herp : Confined Dest.size (extent m pIE) (erpIeHandler m pIE st).2 :=
          confined_erpIeHandler.2 fun _ => data_within m pIE
        simp [hvendor, hht, herp]
      · simp [hvendor, hht]

lemma sameUse_updateElement : SameUse st (updateElement m psta pIE st).1 := by
  rw [updateElement]
  split
  · split
    · have hwmm : SameUse st (wmmParamHandler m pIE st).2.1 := sameUse_wmmParamHandler
      dsimp only
      split
      · exact ⟨hwmm.1, hwmm.2, hwmm.3⟩
      · exact hwmm
    · exact .refl st
  · split
    · exact sameUse_bwmodeUpdateCheck
    · split
      · have herp : SameUse st (erpIeHandler m pIE st).1 := sameUse_erpIeHandler
        exact ⟨herp.1, herp.2, herp.3⟩
      · exact .refl st

lemma updateFits_congr (h : SameUse st st') : UpdateFits st'.htOption st'.curBwmode e ↔
    UpdateFits st.htOption st.curBwmode e := by
  rw [UpdateFits, UpdateFits, h.htOption, h.curBwmode]

/-- The loop goes through the elements. -/
lemma run_updateBeaconInfoPass (h : Memory.Holds m (beaconElements + i) (encode es))
    (hlen : len = i + (encode es).length) (hmax : len < 2 ^ 32) (hk : es.length < k)
    (psta : MacAddr) (st : Adapter) (l : ElementLog) :
    ∃ st' l', Loop.run (updateBeaconInfoPass m psta len) k (i, st, l) = some (st', l ++ l') ∧
      (InElements l' ↔ ∀ e ∈ es, UpdateFits st.htOption st.curBwmode e) := by
  induction es generalizing i st l k with
  | nil =>
      obtain ⟨k, rfl⟩ : ∃ k', k = k' + 1 := ⟨k - 1, by simp at hk; omega⟩
      rw [encode_nil, List.length_nil] at hlen
      refine ⟨st, [], ?_, by simp⟩
      rw [Loop.run, updateBeaconInfoPass, if_neg (by dsimp only; omega), List.append_nil]
  | cons e es ih =>
      obtain ⟨k, rfl⟩ : ∃ k', k = k' + 1 := ⟨k - 1, by simp at hk; omega⟩
      obtain ⟨he, hes⟩ := holds_encode_cons.1 h
      have hsize : (encode (e :: es)).length = e.size + (encode es).length := by simp
      have hpos : 0 < e.size := Nat.succ_pos _
      have hnext : (i + (elen m (beaconElements + i) + 2)) % 2 ^ 32 = i + e.size := by
        rw [elen_of_holds he, Nat.mod_eq_of_lt]
        · rfl
        · show i + e.size < _
          omega
      rw [Nat.add_assoc] at hes
      obtain ⟨st', l', hrun, hin⟩ := ih (k := k) hes (by omega) (by simpa using hk)
        (updateElement m psta (beaconElements + i) st).1
        (l ++ [(extent m (beaconElements + i),
          readHeader (beaconElements + i) :: (updateElement m psta (beaconElements + i) st).2)])
      refine ⟨st', (extent m (beaconElements + i), readHeader (beaconElements + i) ::
        (updateElement m psta (beaconElements + i) st).2) :: l', ?_, ?_⟩
      · rw [Loop.run, updateBeaconInfoPass, if_pos (by dsimp only; omega)]
        dsimp only
        rw [hnext, hrun, List.append_assoc, List.singleton_append]
      · have hhead : Access.Inside Dest.size (extent m (beaconElements + i))
            (readHeader (beaconElements + i)) := inside_readHeader.2 (header_within _ _)
        have hstep := confined_updateElement he psta st
        rw [inElements_cons, hin, confined_cons, List.forall_mem_cons, and_iff_right hhead, hstep]
        refine and_congr_right fun _ => forall₂_congr fun x _ => updateFits_congr ?_
        exact sameUse_updateElement

/-! ### The loop inside a wrapper -/

/-- The pass at an element inside. -/
lemma csaWrapperPass_of_lt (hj : j + 1 < elen m pIE) (v : CsaVars) (l : ElementLog) : ∃ v' l',
    csaWrapperPass m pIE (j, v, l) = .inr (j + (elen m (pIE + j + 2) + 2), v', l ++ l') ∧
      (InElements l' ↔ (m (pIE + j + 2) = eidWideBandwidthChannelSwitch →
        3 ≤ elen m (pIE + j + 2) ∧ j + 5 ≤ elen m pIE)) := by
  have hheader : Access.Inside Dest.size (extent m pIE) (readHeader (pIE + j + 2)) := by
    rw [inside_readHeader, extent, within_mk]
    omega
  have hheader' : Access.Inside Dest.size (extent m (pIE + j + 2)) (readHeader (pIE + j + 2)) :=
    inside_readHeader.2 (header_within _ _)
  rw [csaWrapperPass, if_pos hj]
  refine ⟨_, _, rfl, ?_⟩
  split
  · rename_i hid
    have hdata : Access.Inside Dest.size (extent m pIE) (readData (pIE + j + 2) 0 3) ↔
        j + 5 ≤ elen m pIE := by
      rw [inside_readData, extent, within_mk]
      omega
    have hdata' : Access.Inside Dest.size (extent m (pIE + j + 2)) (readData (pIE + j + 2) 0 3) ↔
        3 ≤ elen m (pIE + j + 2) := by
      rw [inside_readData, data_within_extent_iff, Nat.zero_add]
    simp [hid, hheader, hheader', hdata, hdata']
  · rename_i hid
    simp [hid, hheader, hheader']

/-- The loop goes through the elements in the wrapper, and once more if some bytes are left. -/
lemma run_csaWrapperPass {tail : List UInt8}
    (h : Memory.Holds m (pIE + 2 + j) (encode es ++ tail))
    (hlen : elen m pIE = j + (encode es ++ tail).length) (htail : tail = [] ∨ Truncated tail)
    (hk : es.length + tail.length < k) :
    ∃ v' l', Loop.run (csaWrapperPass m pIE) k (j, v, l) = some (v', l ++ l') ∧
      (InElements l' ↔
        (∀ x ∈ es, x.id = eidWideBandwidthChannelSwitch → 3 ≤ x.data.length) ∧
          (2 ≤ tail.length → tail.head? = some eidWideBandwidthChannelSwitch →
            5 ≤ tail.length)) := by
  induction es generalizing j v l k with
  | nil =>
      obtain ⟨k, rfl⟩ : ∃ k', k = k' + 1 := ⟨k - 1, by omega⟩
      rw [encode_nil, List.nil_append] at h hlen
      by_cases hshort : tail.length < 2
      · refine ⟨v, [], ?_, ?_⟩
        · rw [Loop.run, csaWrapperPass, if_neg (by dsimp only; omega), List.append_nil]
        · simp [Nat.not_le.2 hshort]
      · -- part of an element is left
        rcases htail with rfl | hone | ⟨x, y, d, rfl, hd⟩
        · simp at hshort
        · omega
        · have hat : pIE + j + 2 = pIE + 2 + j := Nat.add_right_comm _ _ _
          obtain ⟨hid, hrest⟩ := holds_cons.1 h
          obtain ⟨hl, -⟩ := holds_cons.1 hrest
          rw [List.length_cons, List.length_cons] at hlen
          have hsub : elen m (pIE + j + 2) = y.toNat := by rw [elen, hat, hl]
          have hj : j + 1 < elen m pIE := by omega
          obtain ⟨v', l', hpass, hin⟩ := csaWrapperPass_of_lt hj v l
          refine ⟨v', l', ?_, ?_⟩
          · obtain ⟨k, rfl⟩ : ∃ k', k = k' + 1 := ⟨k - 1, by simp at hk; omega⟩
            rw [Loop.run, hpass]
            dsimp only
            rw [Loop.run, csaWrapperPass, if_neg (by dsimp only; omega)]
          · rw [hin, hsub, hat, hid, hlen]
            simp only [List.not_mem_nil, false_imp_iff, implies_true, true_and, List.length_cons,
              List.head?_cons, Option.some.injEq]
            constructor
            · intro hfits _ hx
              have := hfits hx
              omega
            · intro hfits hx
              have := hfits (by omega) hx
              omega
  | cons e es ih =>
      obtain ⟨k, rfl⟩ : ∃ k', k = k' + 1 := ⟨k - 1, by omega⟩
      have hat : pIE + j + 2 = pIE + 2 + j := Nat.add_right_comm _ _ _
      rw [encode_cons, List.append_assoc] at h hlen
      obtain ⟨he, hes⟩ := holds_append.1 h
      rw [e.length_bytes, Nat.add_assoc] at hes
      rw [List.length_append, e.length_bytes] at hlen
      have hsize : e.size = e.data.length + 2 := rfl
      have hsub := elen_of_holds he
      have hid := (holds_bytes.1 he).1
      have hj : j + 1 < elen m pIE := by omega
      obtain ⟨v', l', hpass, hin⟩ := csaWrapperPass_of_lt hj v l
      rw [hat, hsub, hid] at hin
      rw [hat, hsub, ← hsize] at hpass
      obtain ⟨v'', l'', hrun, hin'⟩ := ih (k := k) (v := v') (l := l ++ l') hes (by omega)
        (by simp at hk; omega)
      refine ⟨v'', l' ++ l'', ?_, ?_⟩
      · rw [Loop.run, hpass]
        dsimp only
        rw [hrun, List.append_assoc]
      · rw [inElements_append, hin, hin', List.forall_mem_cons, and_assoc]
        refine and_congr_left fun _ => ?_
        constructor
        · exact fun hfits hx => (hfits hx).1
        · exact fun hfits hx => ⟨hfits hx, by have := hfits hx; omega⟩

/-- The loop inside ends, and stays inside if the elements there are long enough. -/
lemma exists_csaWrapper (h : Memory.Holds m pIE e.bytes) :
    ∃ v' l', csaWrapper m pIE v = some (v', l') ∧ (InElements l' ↔ WrapperFits e.data) := by
  have hlen := elen_of_holds h
  have hrun (es : List Element) (tail : List UInt8) (hsplit : e.data = encode es ++ tail)
      (htail : tail = [] ∨ Truncated tail) := by
    have hdata : Memory.Holds m (pIE + 2 + 0) (encode es ++ tail) := by
      rw [← hsplit]
      exact (holds_bytes.1 h).2.2
    have hcount := length_le_encode es
    have hall : elen m pIE = (encode es).length + tail.length := by
      rw [hlen, hsplit, List.length_append]
    exact run_csaWrapperPass (k := elen m pIE + 1) (v := v) (l := []) hdata
      (by rw [List.length_append]; omega) htail (by omega)
  obtain ⟨es, tail, hsplit, htail⟩ := exists_split e.data
  obtain ⟨v', l', hret, hin⟩ := hrun es tail hsplit htail
  refine ⟨v', l', hret, fun hinside => ⟨es, tail, hsplit, htail, hin.1 hinside⟩, ?_⟩
  rintro ⟨es', tail', hsplit', htail', hfits⟩
  obtain ⟨v'', l'', hret', hin'⟩ := hrun es' tail' hsplit' htail'
  obtain ⟨-, rfl⟩ := Prod.mk.inj (Option.some.inj (hret.symm.trans hret'))
  exact hin'.2 hfits

/-! ### `process_csa_ie` -/

/-- The switch ends, and reads no more than the data if they are long enough. -/
lemma exists_csaElement (h : Memory.Holds m pIE e.bytes) :
    ∃ v' l', csaElement m pIE v = some (v', l') ∧ (InElements l' ↔ CsaFits e) := by
  have hlen := elen_of_holds h
  have hid := (holds_bytes.1 h).1
  have hdata (off n : ℕ) : Access.Inside Dest.size (extent m pIE) (readData pIE off n) ↔
      off + n ≤ e.data.length := by
    rw [inside_readData, data_within_extent_iff, hlen]
  rw [csaElement, CsaFits, hid]
  by_cases hann : e.id = 37
  · refine ⟨_, _, if_pos hann, ?_⟩
    rw [inElements_cons, confined_cons, confined_cons, hdata, hdata, hann]
    simp
    omega
  · rw [if_neg hann]
    by_cases hsec : e.id = 62
    · refine ⟨_, _, if_pos hsec, ?_⟩
      rw [inElements_cons, confined_cons, hdata, hsec]
      simp [eidWideBandwidthChannelSwitch]
    · rw [if_neg hsec]
      by_cases hwide : e.id = eidWideBandwidthChannelSwitch
      · refine ⟨_, _, if_pos hwide, ?_⟩
        rw [inElements_cons, confined_cons, hdata, hwide]
        simp [eidWideBandwidthChannelSwitch]
      · rw [if_neg hwide]
        by_cases hwrap : e.id = 196
        · rw [if_pos hwrap]
          obtain ⟨v', l', hret, hin⟩ := exists_csaWrapper (v := v) h
          refine ⟨v', l', hret, ?_⟩
          rw [hin, hwrap]
          simp [eidWideBandwidthChannelSwitch]
        · refine ⟨_, _, if_neg hwrap, ?_⟩
          simp [hann, hsec, hwide, hwrap]

/-- The loop goes through the elements. -/
lemma run_processCsaIePass (h : Memory.Holds m (a + i) (encode es))
    (hlen : len = i + (encode es).length) (hmax : len + 1 < 2 ^ 32) (hk : es.length < k)
    (v : CsaVars) (l : ElementLog) :
    ∃ v' l', Loop.run (processCsaIePass m a len) k (i, v, l) = some (some (v', l ++ l')) ∧
      (InElements l' ↔ ∀ e ∈ es, CsaFits e) := by
  induction es generalizing i v l k with
  | nil =>
      obtain ⟨k, rfl⟩ : ∃ k', k = k' + 1 := ⟨k - 1, by omega⟩
      rw [encode_nil, List.length_nil] at hlen
      refine ⟨v, [], ?_, by simp⟩
      rw [Loop.run, processCsaIePass, if_neg (by dsimp only; omega), List.append_nil]
  | cons e es ih =>
      obtain ⟨k, rfl⟩ : ∃ k', k = k' + 1 := ⟨k - 1, by simp at hk; omega⟩
      obtain ⟨he, hes⟩ := holds_encode_cons.1 h
      have hsize : (encode (e :: es)).length = e.size + (encode es).length := by simp
      have hesize : e.size = e.data.length + 2 := rfl
      have hnext : (i + (elen m (a + i) + 2)) % 2 ^ 32 = i + e.size := by
        rw [elen_of_holds he, Nat.mod_eq_of_lt]
        · rfl
        · show i + e.size < _
          omega
      rw [Nat.add_assoc] at hes
      obtain ⟨v', l', hret, hin⟩ := exists_csaElement (v := v) he
      obtain ⟨v'', l'', hrun, hin'⟩ := ih (k := k) hes (by omega) (by simpa using hk) v'
        (l ++ (extent m (a + i), [readHeader (a + i)]) :: l')
      refine ⟨v'', (extent m (a + i), [readHeader (a + i)]) :: l' ++ l'', ?_, ?_⟩
      · rw [Loop.run, processCsaIePass, if_pos (by dsimp only; omega)]
        dsimp only
        rw [hret, Option.elim_some]
        dsimp only
        rw [hnext, hrun, List.append_assoc]
      · have hhead : Access.Inside Dest.size (extent m (a + i)) (readHeader (a + i)) :=
          inside_readHeader.2 (header_within _ _)
        rw [List.cons_append, inElements_cons, inElements_append, hin, hin', List.forall_mem_cons]
        simp [hhead]

/-! ### The frame -/

/-- Both loops, on a frame of elements. -/
lemma beaconOk_iff_of_encode (h : readBytes m beaconElements (len - beaconElements) = encode es)
    (hle : beaconElements ≤ len) (hlen : len < 2 ^ 32) :
    BeaconOk m len psta st rfctl ↔
      ∀ e ∈ es, UpdateFits st.htOption st.curBwmode e ∧ (rfctl.csa.ch = 0 → CsaFits e) := by
  have hcount : len - beaconElements = (encode es).length := by
    rw [← h, length_readBytes]
  have hholds : Memory.Holds m (beaconElements + 0) (encode es) := by
    rw [Memory.Holds, ← hcount]
    exact h
  have hhdr : beaconElements = 36 := rfl
  have hzero : len - beaconElements = 0 + (encode es).length := by omega
  have hpasses : es.length < es.length + 1 := Nat.lt_succ_self _
  obtain ⟨st', l, hrun, hin⟩ :=
    run_updateBeaconInfoPass hholds hzero (by omega) hpasses psta st []
  rw [List.nil_append] at hrun
  have hupdate : (∃ k, ∃ r ∈ updateBeaconInfo m len psta st k, InElements r.2) ↔
      ∀ e ∈ es, UpdateFits st.htOption st.curBwmode e := by
    rw [← hin]
    constructor
    · rintro ⟨k, r, hr, hr'⟩
      obtain rfl := Loop.Returns.unique ⟨k, hr⟩ ⟨_, hrun⟩
      exact hr'
    · exact fun hl => ⟨_, _, hrun, hl⟩
  obtain ⟨v, l', hrun', hin'⟩ :=
    run_processCsaIePass hholds hzero (by omega) hpasses ⟨0, 0, 0, 0, 0, 0⟩ []
  rw [List.nil_append] at hrun'
  have hcsa : (∃ k, ∃ r ∈ processCsaIe m beaconElements (len - beaconElements) rfctl k,
      InElements r.2) ↔ ∀ e ∈ es, rfctl.csa.ch = 0 → CsaFits e := by
    by_cases hch : rfctl.csa.ch = 0
    · have hfits : (∀ e ∈ es, rfctl.csa.ch = 0 → CsaFits e) ↔ InElements l' := by
        simp [hch, hin']
      rw [hfits]
      constructor
      · rintro ⟨k, r, hr, hr'⟩
        rw [Option.mem_def, processCsaIe, if_neg (not_not_intro hch), Option.map_eq_some_iff] at hr
        obtain ⟨w, hw, rfl⟩ := hr
        have hw' := Loop.Returns.unique ⟨k, Option.join_eq_some_iff.1 hw⟩ ⟨_, hrun'⟩
        obtain rfl := Option.some.inj hw'
        exact hr'
      · intro hl
        refine ⟨es.length + 1, (scheduleCsa rfctl v, l'), ?_, hl⟩
        rw [Option.mem_def, processCsaIe, if_neg (not_not_intro hch), hrun']
        rfl
    · refine ⟨fun _ _ _ hzero => absurd hzero hch, fun _ => ⟨0, (rfctl, []), ?_, inElements_nil⟩⟩
      rw [Option.mem_def, processCsaIe, if_pos hch]
  rw [BeaconOk, hupdate, hcsa]
  exact ⟨fun hboth e he => ⟨hboth.1 e he, hboth.2 e he⟩,
    fun hall => ⟨fun e he => (hall e he).1, fun e he => (hall e he).2⟩⟩

/-- On every frame that is accepted the two functions end, and stay in the element that they handle
exactly if all elements are long enough. -/
theorem beaconOk_iff (hlen : len < 2 ^ 32) (hvalid : validateBeaconLen m len = true)
    (psta : MacAddr) (st : Adapter) (rfctl : RfCtl) :
    BeaconOk m len psta st rfctl ↔ BeaconFits m len st rfctl := by
  rw [validateBeaconLen] at hvalid
  split at hvalid
  · cases hvalid
  · rename_i hle
    obtain ⟨es, hes⟩ := Elems.exists_encode_of_checkIelen
      (by rw [length_readBytes]; omega) (beq_iff_eq.1 hvalid)
    rw [beaconOk_iff_of_encode hes.symm (Nat.not_lt.1 hle) hlen, BeaconFits]
    constructor
    · intro hfits fs hfs
      obtain rfl := encode_injective (hes.trans hfs)
      exact hfits
    · exact fun hfits => hfits es hes.symm

/-- A frame of some elements, with the fixed fields zero, at the address 0. -/
def beaconOf (es : List Element) : Mem := fun a =>
  (List.replicate beaconElements 0 ++ encode es).getD a 0

/-- A station that has joined a network with 40 MHz. -/
def htStation : Adapter where
  qosOption := 1
  wmmEnable := true
  wmmParam := List.replicate 18 0
  htOption := true
  curBwmode := channelWidth40
  curChOffset := 1
  curChannel := 6
  bwCap40m := true
  bw5gSupport := false
  bw2gSupport := true
  bwmodeUpdated := false
  htInfoEnable := true
  htInfo := List.replicate 22 0
  erpEnable := false
  erpIe := 0
  vrtlCarrierSense := 2
  vcsType := 1
  networkAddress := .ofBytes 2 0 0 0 0 1
  stainfo := fun _ => none
  cmds := []

/-- No channel switch is scheduled. -/
def noCsa : RfCtl := ⟨⟨0, 0, 0, 0, 0, 0⟩, 100, none⟩

/-- The shortest elements that are long enough, with a wrapper. -/
theorem beaconOk_shortest :
    let es : List Element := [⟨61, [6, 5], by decide⟩, ⟨42, [], by decide⟩,
      ⟨37, [0, 11, 3], by decide⟩, ⟨196, [194, 3, 0, 0, 0, 7], by decide⟩]
    BeaconOk (beaconOf es) 55 (.ofBytes 2 0 0 0 0 1) htStation noCsa := by
  intro es
  have hbytes : readBytes (beaconOf es) beaconElements (55 - beaconElements) = encode es := by
    decide
  refine (beaconOk_iff (by decide) (by decide) _ _ _).2 ?_
  intro fs hfs
  obtain rfl := encode_injective (hbytes.symm.trans hfs)
  rintro e he
  simp only [es, List.mem_cons, List.not_mem_nil, or_false] at he
  rcases he with rfl | rfl | rfl | rfl
  · simp [UpdateFits, CsaFits, eidWideBandwidthChannelSwitch]
  · simp [UpdateFits, CsaFits, eidWideBandwidthChannelSwitch]
  · simp [UpdateFits, CsaFits]
  · refine ⟨by simp [UpdateFits], fun _ => ⟨by simp, by simp, by simp, fun _ => ?_⟩⟩
    exact ⟨[⟨194, [0, 0, 0], by decide⟩], [7], rfl, .inr (.inl rfl), by simp, by simp⟩

/-- A vendor element of three bytes, and a Channel Switch Announcement without data, at the end of
the frame. -/
theorem not_beaconOk_short :
    let vendor : Element := ⟨221, [0x00, 0x50, 0xf2], by decide⟩
    let csa : Element := ⟨37, [], by decide⟩
    (validateBeaconLen (beaconOf [vendor]) 41 = true ∧
        ¬ BeaconOk (beaconOf [vendor]) 41 (.ofBytes 2 0 0 0 0 1) htStation noCsa) ∧
      validateBeaconLen (beaconOf [csa]) 38 = true ∧
        ¬ BeaconOk (beaconOf [csa]) 38 (.ofBytes 2 0 0 0 0 1) htStation noCsa := by
  intro vendor csa
  refine ⟨⟨by decide, fun hok => ?_⟩, by decide, fun hok => ?_⟩
  · have hbytes : readBytes (beaconOf [vendor]) beaconElements (41 - beaconElements) =
        encode [vendor] := by decide
    have hfits := (beaconOk_iff_of_encode hbytes (by decide) (by decide)).1 hok
    exact absurd ((hfits vendor (by simp)).1.1 rfl) (by decide)
  · have hbytes : readBytes (beaconOf [csa]) beaconElements (38 - beaconElements) =
        encode [csa] := by decide
    have hfits := (beaconOk_iff_of_encode hbytes (by decide) (by decide)).1 hok
    exact absurd (((hfits csa (by simp)).2 rfl).1 rfl) (by decide)

end Rtl8723du.Mlme
