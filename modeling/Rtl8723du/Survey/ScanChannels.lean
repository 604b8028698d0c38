import Mathlib.Data.List.Permutation
import Mathlib.Data.List.Range
import Mathlib.Data.Nat.ModEq
import Mathlib.Tactic.Common

/-!
# The channels of a scan

`rtw_scan_ch_decision` makes the list of channels of a scan out of those that were asked for and the
channel set of the regulatory domain.  A channel on which the driver must not transmit first is
scanned passively (`allPermitted_rtwScanChDecision`), and where busy traffic makes the scans
sparse the scans share the channels among them (`scanChDecisions_perm`).
-/

namespace Rtl8723du.Survey

/-- `RT_CHANNEL_INFO`, with `RTW_CHF_NO_IR` and `RTW_CHF_DFS` of the flags. -/
structure ChannelInfo where
  channelNum : ℕ
  noIr : Bool
  dfs : Bool
  hiddenBssCnt : ℕ
deriving DecidableEq, Repr

/-- `struct rtw_ieee80211_channel`, with the two flags that scans read. -/
structure ScanChannel where
  hwValue : ℕ
  disabled : Bool
  passiveScan : Bool
deriving DecidableEq, Repr

/-- `rtw_chset_search_ch`: the set ends at the first entry without a number. -/
def rtwChsetSearchCh (chSet : List ChannelInfo) (ch : ℕ) : Option ℕ :=
  if ch = 0 then none
  else (chSet.takeWhile fun c => c.channelNum != 0).findIdx? fun c => ch == c.channelNum

/-- `adapter->setband`. -/
inductive WifiBand | auto | band2ghz | band5ghz
deriving DecidableEq, Repr

/-- What `rtw_scan_ch_decision` reads of the adapter. -/
structure ScanPolicy where
  setband : WifiBand
  /-- The bands that `RTW_SET_SCAN_BAND_SKIP` leaves out. -/
  skip24g : Bool
  skip5g : Bool
  maxChanNums : ℕ
  wifiSpec : Bool
  /-- `rtw_mi_busy_traffic_check` and `rtw_mi_check_miracast_enabled`. -/
  busyTraffic : Bool
  miracastEnabled : Bool
deriving DecidableEq, Repr

namespace ScanPolicy

/-- `rtw_mlme_band_check`. -/
def bandCheck (p : ScanPolicy) (ch : ℕ) : Bool :=
  p.setband == .auto || (p.setband == .band2ghz && ch < 35) || (p.setband == .band5ghz && 35 < ch)

/-- `rtw_mlme_ignore_chan`. -/
def ignoreChan (p : ScanPolicy) (ch : ℕ) : Bool :=
  (p.skip24g && ch < 35) || (p.skip5g && 35 < ch)

end ScanPolicy

/-- The flags of a channel after the channel set has been looked at. -/
def markPassive (info : ChannelInfo) (c : ScanChannel) : ScanChannel :=
  { c with passiveScan := c.passiveScan || info.noIr || info.dfs }

/-- "acquire channels from in", with the channels that are in `out` already. -/
def acquire (p : ScanPolicy) (chSet : List ChannelInfo) (outNum : ℕ) :
    List ScanChannel → List ScanChannel → List ScanChannel
  | out, [] => out
  | out, c :: cs =>
      if c.hwValue = 0 ∨ c.disabled = true then acquire p chSet outNum out cs
      else if p.bandCheck c.hwValue = false then acquire p chSet outNum out cs
      else
        match (rtwChsetSearchCh chSet c.hwValue).bind fun i => chSet[i]? with
        | none => if outNum ≤ out.length then out else acquire p chSet outNum out cs
        | some info =>
            if outNum ≤ out.length then out
            else if outNum ≤ out.length + 1 then out ++ [markPassive info c]
            else acquire p chSet outNum (out ++ [markPassive info c]) cs

/-- "if out is empty, use channel_set as default". -/
def acquireAll (p : ScanPolicy) (outNum : ℕ) : List ScanChannel → List ChannelInfo →
    List ScanChannel
  | out, [] => out
  | out, info :: infos =>
      if p.bandCheck info.channelNum = false then acquireAll p outNum out infos
      else if p.ignoreChan info.channelNum = true then acquireAll p outNum out infos
      else if outNum ≤ out.length then out
      else acquireAll p outNum (out ++ [markPassive info ⟨info.channelNum, false, false⟩]) infos

/-- `scan_division_num` for `RTW_SCAN_SPARSE_CH_NUM_MIRACAST` channels a scan. -/
def scanDivisionNum (chNum : ℕ) : ℕ := chNum / 1 + if chNum % 1 ≠ 0 then 1 else 0

/-- `rtw_scan_sparse`, with the value of its `token` before and after. -/
def rtwScanSparse (p : ScanPolicy) (token : ℕ) (ch : List ScanChannel) : List ScanChannel × ℕ :=
  if p.miracastEnabled && p.busyTraffic then
    let token := (token + 1) % scanDivisionNum ch.length
    ((ch.zipIdx.filter fun c => c.1.hwValue != 0 && c.2 % scanDivisionNum ch.length == token).map
      Prod.fst, token)
  else (ch, token)

/-- `rtw_scan_ch_decision`. -/
def rtwScanChDecision (p : ScanPolicy) (chSet : List ChannelInfo) (outNum token : ℕ)
    (inCh : List ScanChannel) (noSparse : Bool) : List ScanChannel × ℕ :=
  let out := acquire p chSet outNum [] inCh
  let out := if out = [] then acquireAll p outNum [] (chSet.take p.maxChanNums) else out
  if !noSparse && !p.wifiSpec && 6 < out.length then rtwScanSparse p token out else (out, token)

/-! ### Where a scan may transmit first -/

/-- The channel is in the set, and neither `RTW_CHF_NO_IR` nor `RTW_CHF_DFS` is on it. -/
def Permitted (chSet : List ChannelInfo) (ch : ℕ) : Prop :=
  ∃ info ∈ chSet, info.channelNum = ch ∧ info.noIr = false ∧ info.dfs = false

variable {p : ScanPolicy} {chSet : List ChannelInfo} {outNum token ch : ℕ} {c : ScanChannel}
  {out inCh : List ScanChannel} {info : ChannelInfo}

lemma channelNum_of_search (h : ((rtwChsetSearchCh chSet ch).bind fun i => chSet[i]?) = some info) :
    info ∈ chSet ∧ info.channelNum = ch := by
  obtain ⟨i, hsearch, hinfo⟩ := Option.bind_eq_some_iff.1 h
  refine ⟨List.mem_of_getElem? hinfo, ?_⟩
  rw [rtwChsetSearchCh] at hsearch
  split_ifs at hsearch
  obtain ⟨hi, hnum, -⟩ := List.findIdx?_eq_some_iff_getElem.1 hsearch
  rw [(List.takeWhile_prefix _).getElem hi] at hnum
  obtain ⟨hlt, rfl⟩ := List.getElem?_eq_some_iff.1 hinfo
  exact (beq_iff_eq.1 hnum).symm

/-- A channel that is marked is scanned actively only where that is permitted. -/
lemma permitted_markPassive (hmem : info ∈ chSet) (hnum : info.channelNum = c.hwValue)
    (h : (markPassive info c).passiveScan = false) :
    Permitted chSet (markPassive info c).hwValue := by
  simp only [markPassive, Bool.or_eq_false_iff] at h
  exact ⟨info, hmem, hnum, h.1.2, h.2⟩

/-- All channels that are scanned actively are permitted. -/
def AllPermitted (chSet : List ChannelInfo) (out : List ScanChannel) : Prop :=
  ∀ c ∈ out, c.passiveScan = false → Permitted chSet c.hwValue

lemma AllPermitted.concat (h : AllPermitted chSet out) (hmem : info ∈ chSet)
    (hnum : info.channelNum = c.hwValue) : AllPermitted chSet (out ++ [markPassive info c]) := by
  intro d hd hactive
  rw [List.mem_append, List.mem_singleton] at hd
  rcases hd with hd | rfl
  · exact h d hd hactive
  · exact permitted_markPassive hmem hnum hactive

lemma allPermitted_acquire (h : AllPermitted chSet out) :
    AllPermitted chSet (acquire p chSet outNum out inCh) := by
  induction inCh generalizing out with
  | nil => exact h
  | cons c cs ih =>
      rw [acquire]
      by_cases hskip : c.hwValue = 0 ∨ c.disabled = true
      · rw [if_pos hskip]
        exact ih h
      by_cases hband : p.bandCheck c.hwValue = false
      · rw [if_neg hskip, if_pos hband]
        exact ih h
      rw [if_neg hskip, if_neg hband]
      cases hinfo : (rtwChsetSearchCh chSet c.hwValue).bind fun i => chSet[i]? with
      | none =>
          dsimp only
          split_ifs
          · exact h
          · exact ih h
      | some info =>
          obtain ⟨hmem, hnum⟩ := channelNum_of_search hinfo
          dsimp only
          split_ifs
          · exact h
          · exact h.concat hmem hnum
          · exact ih (h.concat hmem hnum)

lemma allPermitted_acquireAll {infos : List ChannelInfo} (hinfos : ∀ info ∈ infos, info ∈ chSet)
    (h : AllPermitted chSet out) : AllPermitted chSet (acquireAll p outNum out infos) := by
  induction infos generalizing out with
  | nil => exact h
  | cons info infos ih =>
      have hrest := fun i hi => hinfos i (List.mem_cons_of_mem _ hi)
      rw [acquireAll]
      split_ifs
      · exact ih hrest h
      · exact ih hrest h
      · exact h
      · exact ih hrest (h.concat (c := ⟨info.channelNum, false, false⟩)
          (hinfos info List.mem_cons_self) rfl)

lemma mem_of_mem_rtwScanSparse (h : c ∈ (rtwScanSparse p token out).1) : c ∈ out := by
  rw [rtwScanSparse] at h
  split_ifs at h
  · obtain ⟨d, hd, rfl⟩ := List.mem_map.1 h
    exact (List.mem_zipIdx' (List.mem_filter.1 hd).1).2 ▸ List.getElem_mem _
  · exact h

lemma allPermitted_rtwScanChDecision (p : ScanPolicy) (chSet : List ChannelInfo)
    (outNum token : ℕ) (inCh : List ScanChannel) (noSparse : Bool) :
    AllPermitted chSet (rtwScanChDecision p chSet outNum token inCh noSparse).1 := by
  have hin : AllPermitted chSet (acquire p chSet outNum [] inCh) :=
    allPermitted_acquire fun c hc => absurd hc List.not_mem_nil
  have hall : AllPermitted chSet (acquireAll p outNum [] (chSet.take p.maxChanNums)) :=
    allPermitted_acquireAll (fun info hinfo => List.mem_of_mem_take hinfo)
      fun c hc => absurd hc List.not_mem_nil
  have hout : AllPermitted chSet (if acquire p chSet outNum [] inCh = [] then
      acquireAll p outNum [] (chSet.take p.maxChanNums) else acquire p chSet outNum [] inCh) := by
    split_ifs
    · exact hall
    · exact hin
  rw [rtwScanChDecision]
  split_ifs at hout ⊢
  all_goals
    first
      | exact hout
      | exact fun c hc => hout c (mem_of_mem_rtwScanSparse hc)

/-! ### Sparse scans -/

/-- The channels of `n` scans in a row that are made from the same list. -/
def sparseScans (p : ScanPolicy) (ch : List ScanChannel) : ℕ → ℕ → List (List ScanChannel)
  | _, 0 => []
  | token, n + 1 =>
      (rtwScanSparse p token ch).1 :: sparseScans p ch (rtwScanSparse p token ch).2 n

/-- The channel at a place of the list, if it has a number. -/
def scanChannelAt (ch : List ScanChannel) (i : ℕ) : List ScanChannel :=
  ch[i]?.toList.filter fun c => c.hwValue != 0

lemma scanDivisionNum_eq (n : ℕ) : scanDivisionNum n = n := by
  rw [scanDivisionNum, Nat.div_one, Nat.mod_one, if_neg (by simp), Nat.add_zero]

lemma filter_zipIdx {α : Type*} (q : α → Bool) (xs : List α) (k t : ℕ) :
    ((xs.zipIdx k).filter fun c => q c.1 && c.2 == k + t).map Prod.fst =
      xs[t]?.toList.filter q := by
  induction xs generalizing k t with
  | nil => rfl
  | cons x xs ih =>
      cases t with
      | zero =>
          have hrest : ((xs.zipIdx (k + 1)).filter fun c => q c.1 && c.2 == k) = [] := by
            refine List.filter_eq_nil_iff.2 fun c hc => ?_
            have hle := List.le_snd_of_mem_zipIdx hc
            simp only [Bool.and_eq_true, beq_iff_eq, not_and]
            omega
          simp only [List.zipIdx_cons, Nat.add_zero, List.filter_cons, beq_self_eq_true,
            Bool.and_true, hrest]
          split_ifs <;> simp_all
      | succ t =>
          have hne : (k == k + (t + 1)) = false := beq_eq_false_iff_ne.2 (by omega)
          have hplace : k + (t + 1) = k + 1 + t := by omega
          simp only [List.zipIdx_cons, List.filter_cons, hne, Bool.and_false, Bool.false_eq_true,
            if_false, List.getElem?_cons_succ]
          rw [hplace]
          exact ih (k + 1) t

lemma rtwScanSparse_fst (h : (p.miracastEnabled && p.busyTraffic) = true) :
    (rtwScanSparse p token out).1 = scanChannelAt out ((token + 1) % out.length) := by
  rw [rtwScanSparse, if_pos h, scanDivisionNum_eq, scanChannelAt, ← filter_zipIdx _ out 0,
    Nat.zero_add]
  refine congrArg (List.map Prod.fst) (List.filter_congr fun c hc => ?_)
  have hlt : c.2 < out.length := by simpa using List.snd_lt_of_mem_zipIdx hc
  rw [Nat.mod_eq_of_lt hlt]

lemma sparseScans_eq (h : (p.miracastEnabled && p.busyTraffic) = true) (n : ℕ) :
    sparseScans p out token n =
      (List.range n).map fun k => scanChannelAt out ((token + 1 + k) % out.length) := by
  induction n generalizing token with
  | zero => rfl
  | succ n ih =>
      rw [sparseScans, ih, rtwScanSparse_fst h, List.range_succ_eq_map, List.map_cons,
        List.map_map]
      refine congrArg₂ List.cons rfl (List.map_congr_left fun k _ => ?_)
      rw [rtwScanSparse, if_pos h, scanDivisionNum_eq]
      dsimp only [Function.comp]
      rw [Nat.add_assoc, Nat.mod_add_mod]
      exact congrArg (fun i => scanChannelAt out (i % out.length)) (by omega)

/-- The residues from any one on. -/
lemma perm_range_mod (t n : ℕ) : ((List.range n).map fun k => (t + k) % n).Perm (List.range n) := by
  rcases Nat.eq_zero_or_pos n with rfl | hn
  · rfl
  have hnodup : ((List.range n).map fun k => (t + k) % n).Nodup := by
    refine List.Nodup.map_on (fun i hi j hj hij => ?_) List.nodup_range
    have hmod : i % n = j % n := Nat.ModEq.add_left_cancel' t hij
    rwa [Nat.mod_eq_of_lt (List.mem_range.1 hi), Nat.mod_eq_of_lt (List.mem_range.1 hj)] at hmod
  have hsub : ((List.range n).map fun k => (t + k) % n) ⊆ List.range n := by
    intro i hi
    obtain ⟨k, -, rfl⟩ := List.mem_map.1 hi
    exact List.mem_range.2 (Nat.mod_lt _ hn)
  exact (List.subperm_of_subset hnodup hsub).perm_of_length_le (by simp)

lemma flatMap_scanChannelAt (ch : List ScanChannel) :
    (List.range ch.length).flatMap (scanChannelAt ch) = ch.filter fun c => c.hwValue != 0 := by
  induction ch with
  | nil => rfl
  | cons c ch ih =>
      have hrest : (fun i => scanChannelAt (c :: ch) i.succ) = scanChannelAt ch := rfl
      rw [List.length_cons, List.range_succ_eq_map, List.flatMap_cons, List.flatMap_map, hrest, ih,
        ← List.singleton_append (x := c), List.filter_append]
      rfl

lemma sparseScans_perm (h : (p.miracastEnabled && p.busyTraffic) = true) (token : ℕ)
    (ch : List ScanChannel) :
    (sparseScans p ch token ch.length).flatten.Perm (ch.filter fun c => c.hwValue != 0) := by
  rw [sparseScans_eq h, ← flatMap_scanChannelAt, ← List.flatMap_def,
    ← List.flatMap_map (fun k => (token + 1 + k) % ch.length) (scanChannelAt ch)]
  exact (perm_range_mod (token + 1) ch.length).flatMap_right _

/-- The channels of `n` scans in a row for the same request. -/
def scanChDecisions (p : ScanPolicy) (chSet : List ChannelInfo) (outNum : ℕ)
    (inCh : List ScanChannel) : ℕ → ℕ → List (List ScanChannel)
  | _, 0 => []
  | token, n + 1 =>
      let decision := rtwScanChDecision p chSet outNum token inCh false
      decision.1 :: scanChDecisions p chSet outNum inCh decision.2 n

/-- The channels of a scan that must not be sparse. -/
def wholeDecision (p : ScanPolicy) (chSet : List ChannelInfo) (outNum : ℕ)
    (inCh : List ScanChannel) : List ScanChannel :=
  (rtwScanChDecision p chSet outNum 0 inCh true).1

lemma rtwScanChDecision_eq_rtwScanSparse (hspec : p.wifiSpec = false)
    (hlong : 6 < (wholeDecision p chSet outNum inCh).length) (token : ℕ) :
    rtwScanChDecision p chSet outNum token inCh false =
      rtwScanSparse p token (wholeDecision p chSet outNum inCh) := by
  have hwhole : wholeDecision p chSet outNum inCh =
      if acquire p chSet outNum [] inCh = [] then acquireAll p outNum [] (chSet.take p.maxChanNums)
      else acquire p chSet outNum [] inCh := rfl
  rw [rtwScanChDecision, ← hwhole]
  exact if_pos (by simp [hspec, hlong])

lemma scanChDecisions_eq (hspec : p.wifiSpec = false)
    (hlong : 6 < (wholeDecision p chSet outNum inCh).length) (token n : ℕ) :
    scanChDecisions p chSet outNum inCh token n =
      sparseScans p (wholeDecision p chSet outNum inCh) token n := by
  induction n generalizing token with
  | zero => rfl
  | succ n ih =>
      rw [scanChDecisions, sparseScans, rtwScanChDecision_eq_rtwScanSparse hspec hlong token]
      exact congrArg _ (ih _)

/-- While scans are sparse, as many of them in a row as there are channels visit each channel
once, wherever the token stands. -/
theorem scanChDecisions_perm (h : (p.miracastEnabled && p.busyTraffic) = true)
    (hspec : p.wifiSpec = false) (hlong : 6 < (wholeDecision p chSet outNum inCh).length)
    (token : ℕ) :
    (scanChDecisions p chSet outNum inCh token
      (wholeDecision p chSet outNum inCh).length).flatten.Perm
      ((wholeDecision p chSet outNum inCh).filter fun c => c.hwValue != 0) := by
  rw [scanChDecisions_eq hspec hlong]
  exact sparseScans_perm h token _

/-- The channels of the band at 2.4 GHz, the last of them passive. -/
def sevenChannels : List ChannelInfo :=
  [⟨1, false, false, 0⟩, ⟨2, false, false, 0⟩, ⟨3, false, false, 0⟩, ⟨4, false, false, 0⟩,
    ⟨5, false, false, 0⟩, ⟨6, false, false, 0⟩, ⟨12, true, false, 0⟩]

theorem scanChDecisions_perm_sevenChannels :
    (scanChDecisions ⟨.auto, false, false, 14, false, true, true⟩ sevenChannels 51 [] 255
      7).flatten.Perm
      [⟨1, false, false⟩, ⟨2, false, false⟩, ⟨3, false, false⟩, ⟨4, false, false⟩,
        ⟨5, false, false⟩, ⟨6, false, false⟩, ⟨12, false, true⟩] :=
  @scanChDecisions_perm ⟨.auto, false, false, 14, false, true, true⟩ sevenChannels 51 [] rfl rfl
    (by decide) 255

end Rtl8723du.Survey
