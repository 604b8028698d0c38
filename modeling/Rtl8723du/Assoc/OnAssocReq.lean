import Rtl8723du.Assoc.Security
import Rtl8723du.Sta.ApRun

/-!
# Association requests in the name of a protected station

`OnAssocReq` on the entry of the station it finds, with the settings that the request's elements
are parsed into.  A station with protected management frames and a pairwise key is not let in
again (the answer is `_STATS_REFUSED_TEMPORARILY_`, and an SA Query is sent), but by then its
entry has been written.  `onAssocReq_keeps_iff` says for which requests the settings stay as
they were.

Left out are what nothing here reads: the rates, the P2P, multi-AP and radio measurement data,
and the copy of the request.  The P2P element of a request to a group owner is never refused.
-/

namespace Rtl8723du.Assoc

open Lib.Bytes

/-! ### The entry and the request -/

/-- The settings of a station. -/
structure StaInfo extends StaSecurity where
  state : StaState := {}
  bpairwiseKeyInstalled : Bool := false
  capability : BitVec 16 := 0
  qosOption : Bool := false
  qosInfo : UInt8 := 0
  maxSpLen : ℕ := 0
  hasLegacyAc : Bool := false
  uapsdVo : ℕ := 0
  uapsdVi : ℕ := 0
  uapsdBe : ℕ := 0
  uapsdBk : ℕ := 0
  /-- `htpriv.ht_cap`, 26 bytes. -/
  htCap : List UInt8 := List.replicate 26 0
  /-- `htpriv.ht_op`, 22 bytes. -/
  htOp : List UInt8 := List.replicate 22 0
  /-- `htpriv.op_present`. -/
  htOpPresent : Bool := false

/-- What `OnAssocReq` reads in a request. -/
structure Request where
  /-- The transmitter. -/
  sa : MacAddr
  /-- The frame has its fixed fields. -/
  longEnough : Bool
  /-- `rtw_ieee802_11_parse_elems` did not fail. -/
  elemsOk : Bool
  capability : BitVec 16
  /-- The SSID element is there and has the name of the network. -/
  ssidOk : Bool
  /-- The rates that `rtw_ies_get_supported_rate` finds. -/
  rateSet : List UInt8
  security : SecurityElems
  /-- The QoS info of the WMM element. -/
  wmmQosInfo : Option UInt8
  /-- The HT capabilities, if the element has its 26 bytes. -/
  htCapabilities : Option (List UInt8)
  /-- The HT operation element, if it has its 22 bytes. -/
  htOperation : Option (List UInt8)

/-- The access point when the request comes. -/
structure AssocEnv where
  /-- `pmlmeinfo->state` is that of an access point. -/
  apState : Bool
  /-- `rtw_ap_linking_test_force_asoc_fail`. -/
  forceAsocFail : ℕ
  sec : SecurityPriv
  /-- `qospriv.qos_option`. -/
  qosOption : Bool
  /-- `htpriv.ht_option`. -/
  htOption : Bool
  /-- The station has an AID, or there is one for it. -/
  hasAid : Bool

/-- `_STATS_FAILURE_`. -/
abbrev statsFailure : ℕ := 1

/-- `_STATS_REFUSED_TEMPORARILY_`. -/
abbrev statsRefusedTemporarily : ℕ := 30

/-! ### The parsers -/

/-- `rtw_ap_parse_sta_capability`. -/
def rtwApParseStaCapability (req : Request) (sta : StaInfo) : StaInfo :=
  { sta with
    capability := req.capability
    flags := { sta.flags with shortPreamble := req.capability &&& 0x0020#16 != 0 } }

/-- `rtw_ap_parse_sta_supported_rates`. -/
def rtwApParseStaSupportedRates (req : Request) (sta : StaInfo) : Option StaInfo :=
  if req.rateSet = [] then none
  else
    some { sta with
      flags := { sta.flags with nonErp := req.rateSet.all fun rate => rate &&& 0x7f ≤ 22 } }

/-- The U-APSD setting of an access category by its bit of the QoS info. -/
def uapsdOf (qosInfo : UInt8) (bit : UInt8) : ℕ := if qosInfo &&& bit ≠ 0 then 3 else 0

/-- `rtw_ap_parse_sta_wmm_ie`. -/
def rtwApParseStaWmmIe (env : AssocEnv) (req : Request) (sta : StaInfo) : StaInfo :=
  let sta := { sta with
    flags := { sta.flags with wme := false }
    qosOption := false, qosInfo := 0, hasLegacyAc := true
    uapsdVo := 0, uapsdVi := 0, uapsdBe := 0, uapsdBk := 0 }
  if env.qosOption = false then sta
  else
    match req.wmmQosInfo with
    | none => sta
    | some qosInfo =>
        let sta := { sta with
          flags := { sta.flags with wme := true }
          qosOption := true, qosInfo := qosInfo
          maxSpLen := (qosInfo >>> 5 &&& 3).toNat
          hasLegacyAc := qosInfo &&& 0xf != 0xf }
        if qosInfo &&& 0xf ≠ 0 then
          { sta with
            uapsdVo := uapsdOf qosInfo 1, uapsdVi := uapsdOf qosInfo 2
            uapsdBk := uapsdOf qosInfo 4, uapsdBe := uapsdOf qosInfo 8 }
        else sta

/-- `rtw_ap_parse_sta_ht_ie`. -/
def rtwApParseStaHtIe (env : AssocEnv) (req : Request) (sta : StaInfo) : StaInfo :=
  let sta := { sta with flags := { sta.flags with ht := false } }
  if env.htOption = false then sta
  else
    let sta := { sta with htCap := List.replicate 26 0 }
    match req.htCapabilities with
    | none => sta
    | some htCap =>
        let sta := { sta with
          flags := { sta.flags with ht := true, wme := true }
          htCap := htCap }
        match req.htOperation with
        | none => sta
        | some htOp => { sta with htOp := htOp, htOpPresent := true }

/-- A pairwise cipher of the station is TKIP. -/
def usesTkip (sta : StaSecurity) : Bool :=
  sta.wpa2PairwiseCipher &&& wpaCipherTkip != 0 || sta.wpaPairwiseCipher &&& wpaCipherTkip != 0

/-- HT and VHT are taken back from a station with TKIP; a chip without VHT has cleared
`WLAN_STA_VHT` before, and `rtw_ap_parse_sta_multi_ap_ie` clears `WLAN_STA_MULTI_AP`. -/
def assocFlags (sta : StaInfo) : StaInfo :=
  { sta with
    flags := { sta.flags with
      ht := sta.flags.ht && !usesTkip sta.toStaSecurity
      vht := false
      multiAp := false } }

/-- The security elements and those after them. -/
def assocElements (env : AssocEnv) (req : Request) (sta : StaInfo) : StaInfo × ℕ :=
  let r := rtwApParseStaSecurityIe env.sec sta.toStaSecurity req.security
  let sta := { sta with toStaSecurity := r.1 }
  if r.2 ≠ statsSuccessful then (sta, r.2)
  else
    (assocFlags (rtwApParseStaHtIe env req (rtwApParseStaWmmIe env req sta)), statsSuccessful)

/-- The elements of the request, up to the first one that is refused: the entry and the
status. -/
def assocParse (env : AssocEnv) (req : Request) (sta : StaInfo) : StaInfo × ℕ :=
  if env.forceAsocFail ≠ 0 then (sta, env.forceAsocFail)
  else if req.elemsOk = false then (sta, statsFailure)
  else
    let sta := rtwApParseStaCapability req sta
    if req.ssidOk = false then (sta, statsFailure)
    else
      match rtwApParseStaSupportedRates req sta with
      | none => (sta, statsFailure)
      | some sta => assocElements env req sta

/-! ### `OnAssocReq` -/

/-- What the handler sends. -/
inductive AssocOut
  | deauth
  | asocRsp (status : ℕ)
  /-- `bss_cap_update_on_sta_join`, `sta_info_update` and the event for the new station. -/
  | join
  | saQuery
deriving DecidableEq

/-- The station has protected management frames and a pairwise key. -/
def StaInfo.mfpKeyed (sta : StaInfo) : Bool := sta.bpairwiseKeyInstalled && sta.flags.mfp

/-- The state of a station whose request is handled. -/
def assocStart (sta : StaInfo) : StaInfo :=
  { sta with
    state :=
      if sta.state.authSuccess then
        { sta.state with authSuccess := false, assocState := true }
      else { sta.state with assocSuccess := false, assocState := true } }

/-- The state of a station whose request is granted. -/
def assocDone (sta : StaInfo) : StaInfo :=
  { sta with state := { sta.state with assocState := false, assocSuccess := true } }

/-- The request is not looked into: the interface is no access point, the frame is not valid,
or the station is in no state for it. -/
def Stopped (env : AssocEnv) (sta : StaInfo) (req : Request) : Prop :=
  env.apState = false ∨ rtwCheckInvalidMacAddress req.sa false = true ∨ req.longEnough = false ∨
    (sta.authalg = wlanAuthSae ∧ sta.state.authNull = true) ∨
    (sta.state.authSuccess = false ∧ sta.state.assocSuccess = false)

/-- `OnAssocReq` on a request whose transmitter has the entry. -/
def onAssocReq (env : AssocEnv) (sta : StaInfo) (req : Request) : StaInfo × List AssocOut :=
  if env.apState = false ∨ rtwCheckInvalidMacAddress req.sa false = true ∨
      req.longEnough = false then (sta, [])
  else if sta.authalg = wlanAuthSae ∧ sta.state.authNull = true then (sta, [])
  else if sta.state.authSuccess = false ∧ sta.state.assocSuccess = false then (sta, [.deauth])
  else
    let r := assocParse env req (assocStart sta)
    if r.2 ≠ statsSuccessful then (r.1, [.asocRsp r.2])
    else if env.hasAid = false then (r.1, [.asocRsp statsUnableHandleSta])
    else
      let sta := assocDone r.1
      if sta.mfpKeyed then (sta, [.asocRsp statsRefusedTemporarily, .saQuery])
      else
        ({ sta with state := { sta.state with asoc := true } },
          [.asocRsp statsSuccessful, .join])

/-! ### What the parsers leave -/

variable {env : AssocEnv} {req : Request} {sta sta' : StaInfo}

/-- The WMM element that is taken into account. -/
def wmmInfo (env : AssocEnv) (req : Request) : Option UInt8 :=
  if env.qosOption then req.wmmQosInfo else none

/-- The HT capabilities that are taken into account. -/
def htInfo (env : AssocEnv) (req : Request) : Option (List UInt8) :=
  if env.htOption then req.htCapabilities else none

/-- The HT operation element that is taken into account. -/
def htOpInfo (env : AssocEnv) (req : Request) : Option (List UInt8) :=
  if (htInfo env req).isSome then req.htOperation else none

/-- Without a bit of the lowest four there is no U-APSD. -/
lemma uapsdOf_eq_zero {qosInfo : UInt8} (bit : UInt8) (hbit : 0xf &&& bit = bit)
    (h : qosInfo &&& 0xf = 0) : uapsdOf qosInfo bit = 0 := by
  have hzero : qosInfo &&& bit = 0 := by
    rw [← hbit, ← UInt8.and_assoc, h, UInt8.zero_and]
  rw [uapsdOf, if_neg (not_not.2 hzero)]

lemma rtwApParseStaWmmIe_eq (env : AssocEnv) (req : Request) (sta : StaInfo) :
    rtwApParseStaWmmIe env req sta = { sta with
      flags := { sta.flags with wme := (wmmInfo env req).isSome }
      qosOption := (wmmInfo env req).isSome
      qosInfo := (wmmInfo env req).getD 0
      maxSpLen := (wmmInfo env req).elim sta.maxSpLen fun q => (q >>> 5 &&& 3).toNat
      hasLegacyAc := (wmmInfo env req).elim true fun q => q &&& 0xf != 0xf
      uapsdVo := (wmmInfo env req).elim 0 fun q => uapsdOf q 1
      uapsdVi := (wmmInfo env req).elim 0 fun q => uapsdOf q 2
      uapsdBe := (wmmInfo env req).elim 0 fun q => uapsdOf q 8
      uapsdBk := (wmmInfo env req).elim 0 fun q => uapsdOf q 4 } := by
  rw [rtwApParseStaWmmIe, wmmInfo]
  cases hqos : env.qosOption with
  | false => rfl
  | true =>
      cases hwmm : req.wmmQosInfo with
      | none => rfl
      | some q =>
          by_cases hac : q &&& 0xf = 0
          · simp [hac, uapsdOf_eq_zero 1 (by decide) hac,
              uapsdOf_eq_zero 2 (by decide) hac,
              uapsdOf_eq_zero 4 (by decide) hac,
              uapsdOf_eq_zero 8 (by decide) hac]
          · simp [hac]

lemma rtwApParseStaHtIe_eq (env : AssocEnv) (req : Request) (sta : StaInfo) :
    rtwApParseStaHtIe env req sta = { sta with
      flags := { sta.flags with
        ht := (htInfo env req).isSome
        wme := sta.flags.wme || (htInfo env req).isSome }
      htCap :=
        if env.htOption then (htInfo env req).getD (List.replicate 26 0) else sta.htCap
      htOp := (htOpInfo env req).getD sta.htOp
      htOpPresent := sta.htOpPresent || (htOpInfo env req).isSome } := by
  rw [rtwApParseStaHtIe, htOpInfo, htInfo]
  cases hht : env.htOption with
  | false => simp
  | true =>
      cases hcap : req.htCapabilities with
      | none => simp
      | some htCap => cases hop : req.htOperation <;> simp

/-- The flags that are not about security. -/
def otherFlags (x : StaSecurity) : AssocFlags :=
  { x.flags with amsduDisable := false, mfp := false, wps := false, maybeWps := false }

section OtherFlags

variable {sec : SecurityPriv} {x : StaSecurity} {elems : SecurityElems}

lemma otherFlags_securityElement :
    otherFlags (securityElement sec x elems).sta = otherFlags x := by
  rw [securityElement]
  split
  · rw [parseRsn]
    split <;> rfl
  · split
    · rw [parseWpa]
      split <;> rfl
    · rfl

lemma otherFlags_securityAmsdu {sppOpt : ℕ} :
    otherFlags (securityAmsdu sec sppOpt x) = otherFlags x := by
  rw [securityAmsdu]
  split <;> rfl

lemma otherFlags_securityMfp {mfpOpt : ℕ} :
    otherFlags (securityMfp sec mfpOpt x) = otherFlags x := by
  rw [securityMfp]
  split <;> rfl

lemma otherFlags_securityWps {wpaIe : Option (List UInt8)} :
    otherFlags (securityWps sec x wpaIe elems).1 = otherFlags x := by
  unfold securityWps securityNoWpa
  cases wpaIe with
  | none =>
      dsimp only
      split_ifs <;> rfl
  | some ie =>
      dsimp only
      split_ifs <;> rfl

lemma otherFlags_rtwApParseStaSecurityIe :
    otherFlags (rtwApParseStaSecurityIe sec x elems).1 = otherFlags x := by
  have helem : otherFlags (securityElement sec (securityReset x) elems).sta = otherFlags x :=
    otherFlags_securityElement
  rw [rtwApParseStaSecurityIe, securityFlags]
  dsimp only
  split_ifs
  all_goals
    simp only [otherFlags_securityWps, otherFlags_securityMfp, otherFlags_securityAmsdu, helem]

/-- The settings that the elements before the flags decide. -/
def keyAlgs (x : StaSecurity) : ℕ × BitVec 8 := (x.dot8021xalg, x.wpaPsk)

lemma keyAlgs_securityWps {wpaIe : Option (List UInt8)} :
    keyAlgs (securityWps sec x wpaIe elems).1 = keyAlgs x := by
  unfold securityWps securityNoWpa
  cases wpaIe with
  | none =>
      dsimp only
      split_ifs <;> rfl
  | some ie =>
      dsimp only
      split_ifs <;> rfl

lemma keyAlgs_rtwApParseStaSecurityIe :
    keyAlgs (rtwApParseStaSecurityIe sec x elems).1 =
      keyAlgs (securityElement sec (securityReset {}) elems).sta := by
  have helem : keyAlgs (securityElement sec (securityReset x) elems).sta =
      keyAlgs (securityElement sec (securityReset {}) elems).sta := by
    rw [securityElement_reset sec {} x elems]
    rfl
  rw [rtwApParseStaSecurityIe, securityFlags]
  simp only [securityAmsdu_eq, securityMfp_eq]
  split_ifs
  all_goals
    first
    | exact helem
    | rw [keyAlgs_securityWps, ← helem]
      rfl

end OtherFlags

/-- The entry with what the elements before the security elements say. -/
def beforeSecurity (req : Request) (sta : StaInfo) : StaInfo :=
  { sta with
    capability := req.capability
    flags := { sta.flags with
      shortPreamble := req.capability &&& 0x0020#16 != 0
      nonErp := req.rateSet.all fun rate => rate &&& 0x7f ≤ 22 } }

/-- The request has no element that is refused before the security elements are read. -/
structure Readable (env : AssocEnv) (req : Request) : Prop where
  notForced : env.forceAsocFail = 0
  elemsOk : req.elemsOk = true
  ssidOk : req.ssidOk = true
  rates : req.rateSet ≠ []

lemma assocParse_of_readable (h : Readable env req) :
    assocParse env req sta = assocElements env req (beforeSecurity req sta) := by
  unfold assocParse rtwApParseStaSupportedRates
  rw [if_neg (not_not.2 h.notForced), if_neg (by simp [h.elemsOk]), if_neg (by simp [h.ssidOk]),
    if_neg h.rates]
  rfl

/-- A request that is not readable is refused; what was read of it before stays. -/
lemma assocParse_of_not_readable (sta : StaInfo) (h : ¬ Readable env req) :
    (assocParse env req sta).2 ≠ statsSuccessful ∧
      (assocParse env req sta).1.state = sta.state := by
  unfold assocParse rtwApParseStaSupportedRates
  by_cases hforce : env.forceAsocFail = 0
  · rw [if_neg (not_not.2 hforce)]
    cases helems : req.elemsOk with
    | false => simp
    | true =>
        cases hssid : req.ssidOk with
        | false => simp [rtwApParseStaCapability]
        | true =>
            have hrates : req.rateSet = [] := by
              by_contra hrates
              exact h ⟨hforce, helems, hssid, hrates⟩
            simp [hrates, rtwApParseStaCapability]
  · rw [if_pos hforce]
    exact ⟨hforce, rfl⟩

lemma assocElements_state :
    (assocElements env req sta).1.state = sta.state ∧
      (assocElements env req sta).1.bpairwiseKeyInstalled = sta.bpairwiseKeyInstalled := by
  rw [assocElements, assocFlags]
  simp only [rtwApParseStaWmmIe_eq, rtwApParseStaHtIe_eq]
  split <;> exact ⟨rfl, rfl⟩

/-- The settings when all elements are taken. -/
lemma assocElements_of_taken
    (hok : (rtwApParseStaSecurityIe env.sec sta.toStaSecurity req.security).2 =
      statsSuccessful) :
    assocElements env req sta =
      ({ sta with
        toStaSecurity := { (rtwApParseStaSecurityIe env.sec sta.toStaSecurity req.security).1 with
          flags :=
            { (rtwApParseStaSecurityIe env.sec sta.toStaSecurity req.security).1.flags with
              wme := (wmmInfo env req).isSome || (htInfo env req).isSome
              ht := (htInfo env req).isSome &&
                !usesTkip (rtwApParseStaSecurityIe env.sec sta.toStaSecurity req.security).1
              vht := false
              multiAp := false } }
        qosOption := (wmmInfo env req).isSome
        qosInfo := (wmmInfo env req).getD 0
        maxSpLen := (wmmInfo env req).elim sta.maxSpLen fun q => (q >>> 5 &&& 3).toNat
        hasLegacyAc := (wmmInfo env req).elim true fun q => q &&& 0xf != 0xf
        uapsdVo := (wmmInfo env req).elim 0 fun q => uapsdOf q 1
        uapsdVi := (wmmInfo env req).elim 0 fun q => uapsdOf q 2
        uapsdBe := (wmmInfo env req).elim 0 fun q => uapsdOf q 8
        uapsdBk := (wmmInfo env req).elim 0 fun q => uapsdOf q 4
        htCap :=
          if env.htOption then (htInfo env req).getD (List.replicate 26 0) else sta.htCap
        htOp := (htOpInfo env req).getD sta.htOp
        htOpPresent := sta.htOpPresent || (htOpInfo env req).isSome }, statsSuccessful) := by
  rw [assocElements, assocFlags]
  simp only [rtwApParseStaWmmIe_eq, rtwApParseStaHtIe_eq]
  rw [if_neg (not_not.2 hok)]
  rfl

/-- Elements that are refused. -/
lemma assocElements_of_refused
    (h : (rtwApParseStaSecurityIe env.sec sta.toStaSecurity req.security).2 ≠
      statsSuccessful) : (assocElements env req sta).2 ≠ statsSuccessful := by
  rw [assocElements]
  simp only
  rw [if_pos h]
  exact h

/-! ### Which requests leave the settings as they are -/

/-- The association state, the security settings, the QoS and U-APSD settings, the HT
capabilities and the flags are the same. -/
structure Keeps (sta sta' : StaInfo) : Prop where
  state : sta'.state = sta.state
  dot8021xalg : sta'.dot8021xalg = sta.dot8021xalg
  wpaPsk : sta'.wpaPsk = sta.wpaPsk
  wpaGroupCipher : sta'.wpaGroupCipher = sta.wpaGroupCipher
  wpa2GroupCipher : sta'.wpa2GroupCipher = sta.wpa2GroupCipher
  wpaPairwiseCipher : sta'.wpaPairwiseCipher = sta.wpaPairwiseCipher
  wpa2PairwiseCipher : sta'.wpa2PairwiseCipher = sta.wpa2PairwiseCipher
  flags : sta'.flags = sta.flags
  qosOption : sta'.qosOption = sta.qosOption
  qosInfo : sta'.qosInfo = sta.qosInfo
  maxSpLen : sta'.maxSpLen = sta.maxSpLen
  hasLegacyAc : sta'.hasLegacyAc = sta.hasLegacyAc
  uapsdVo : sta'.uapsdVo = sta.uapsdVo
  uapsdVi : sta'.uapsdVi = sta.uapsdVi
  uapsdBe : sta'.uapsdBe = sta.uapsdBe
  uapsdBk : sta'.uapsdBk = sta.uapsdBk
  htCap : sta'.htCap = sta.htCap
  htOp : sta'.htOp = sta.htOp
  htOpPresent : sta'.htOpPresent = sta.htOpPresent

/-- The WMM element says what the station has. -/
structure SameQos (env : AssocEnv) (req : Request) (sta : StaInfo) : Prop where
  qosOption : (wmmInfo env req).isSome = sta.qosOption
  qosInfo : (wmmInfo env req).getD 0 = sta.qosInfo
  maxSpLen : ∀ q ∈ wmmInfo env req, (q >>> 5 &&& 3).toNat = sta.maxSpLen
  hasLegacyAc : (wmmInfo env req).elim true (fun q => q &&& 0xf != 0xf) = sta.hasLegacyAc
  uapsdVo : (wmmInfo env req).elim 0 (fun q => uapsdOf q 1) = sta.uapsdVo
  uapsdVi : (wmmInfo env req).elim 0 (fun q => uapsdOf q 2) = sta.uapsdVi
  uapsdBe : (wmmInfo env req).elim 0 (fun q => uapsdOf q 8) = sta.uapsdBe
  uapsdBk : (wmmInfo env req).elim 0 (fun q => uapsdOf q 4) = sta.uapsdBk

/-- The HT elements say what the station has. -/
structure SameHt (env : AssocEnv) (req : Request) (sta : StaInfo) : Prop where
  ht : ((htInfo env req).isSome && !usesTkip sta.toStaSecurity) = sta.flags.ht
  htCap : env.htOption = true → (htInfo env req).getD (List.replicate 26 0) = sta.htCap
  htOp : ∀ htOp ∈ htOpInfo env req, htOp = sta.htOp ∧ sta.htOpPresent = true

/-- The security settings of an entry are those of another. -/
structure KeepsSecurity (sta sec : StaSecurity) : Prop where
  dot8021xalg : sec.dot8021xalg = sta.dot8021xalg
  wpaPsk : sec.wpaPsk = sta.wpaPsk
  wpaGroupCipher : sec.wpaGroupCipher = sta.wpaGroupCipher
  wpa2GroupCipher : sec.wpa2GroupCipher = sta.wpa2GroupCipher
  wpaPairwiseCipher : sec.wpaPairwiseCipher = sta.wpaPairwiseCipher
  wpa2PairwiseCipher : sec.wpa2PairwiseCipher = sta.wpa2PairwiseCipher
  amsduDisable : sec.flags.amsduDisable = sta.flags.amsduDisable
  wps : sec.flags.wps = sta.flags.wps
  maybeWps : sec.flags.maybeWps = sta.flags.maybeWps

/-- What the RSN or the WPA element says, of whatever station. -/
abbrev elementOf (sec : SecurityPriv) (elems : SecurityElems) : ElementResult :=
  securityElement sec (securityReset {}) elems

/-- The security elements say what the station has. -/
structure SameSecurity (sec : SecurityPriv) (elems : SecurityElems) (sta : StaSecurity) :
    Prop where
  dot8021xalg : (elementOf sec elems).sta.dot8021xalg = sta.dot8021xalg
  wpaPsk : (elementOf sec elems).sta.wpaPsk = sta.wpaPsk
  wpaGroupCipher : (elementOf sec elems).sta.wpaGroupCipher = sta.wpaGroupCipher
  wpa2GroupCipher : (elementOf sec elems).sta.wpa2GroupCipher = sta.wpa2GroupCipher
  wpaPairwiseCipher : (elementOf sec elems).sta.wpaPairwiseCipher = sta.wpaPairwiseCipher
  wpa2PairwiseCipher : (elementOf sec elems).sta.wpa2PairwiseCipher = sta.wpa2PairwiseCipher
  amsduDisable : DisallowAmsdu sec elems → sta.flags.amsduDisable = true
  wps : sec.mlmeIsAp = true → elems.wpsIe.isSome = sta.flags.wps
  maybeWps : sec.mlmeIsAp = true →
    ((elementOf sec elems).wpaIe.isNone && elems.wpsIe.isNone) = sta.flags.maybeWps

lemma KeepsSecurity.usesTkip_eq {x sec : StaSecurity} (h : KeepsSecurity x sec) :
    usesTkip sec = usesTkip x := by
  rw [usesTkip, usesTkip, h.wpa2PairwiseCipher, h.wpaPairwiseCipher]

/-- The security settings after the elements were taken are the earlier ones exactly if the
elements say what the station has. -/
lemma keepsSecurity_iff {sec : SecurityPriv} {x : StaSecurity} {elems : SecurityElems}
    (hok : (rtwApParseStaSecurityIe sec x elems).2 = statsSuccessful) :
    KeepsSecurity x (rtwApParseStaSecurityIe sec x elems).1 ↔ SameSecurity sec elems x := by
  have hsecurity := security_of_success hok
  have halg : keyAlgs (rtwApParseStaSecurityIe sec x elems).1 = keyAlgs (elementOf sec elems).sta :=
    keyAlgs_rtwApParseStaSecurityIe
  have halg1 : (rtwApParseStaSecurityIe sec x elems).1.dot8021xalg =
      (elementOf sec elems).sta.dot8021xalg := congrArg Prod.fst halg
  have halg2 : (rtwApParseStaSecurityIe sec x elems).1.wpaPsk =
      (elementOf sec elems).sta.wpaPsk := congrArg Prod.snd halg
  have hgroup : (rtwApParseStaSecurityIe sec x elems).1.wpaGroupCipher =
      (elementOf sec elems).sta.wpaGroupCipher := congrArg SecurityState.wpaGroupCipher hsecurity
  have hgroup2 : (rtwApParseStaSecurityIe sec x elems).1.wpa2GroupCipher =
      (elementOf sec elems).sta.wpa2GroupCipher := congrArg SecurityState.wpa2GroupCipher hsecurity
  have hpair : (rtwApParseStaSecurityIe sec x elems).1.wpaPairwiseCipher =
      (elementOf sec elems).sta.wpaPairwiseCipher :=
    congrArg SecurityState.wpaPairwiseCipher hsecurity
  have hpair2 : (rtwApParseStaSecurityIe sec x elems).1.wpa2PairwiseCipher =
      (elementOf sec elems).sta.wpa2PairwiseCipher :=
    congrArg SecurityState.wpa2PairwiseCipher hsecurity
  have hamsdu : (rtwApParseStaSecurityIe sec x elems).1.flags.amsduDisable =
      (x.flags.amsduDisable || decide (DisallowAmsdu sec elems)) :=
    congrArg SecurityState.amsduDisable hsecurity
  have hwps : (rtwApParseStaSecurityIe sec x elems).1.flags.wps =
      if sec.mlmeIsAp then elems.wpsIe.isSome else x.flags.wps :=
    congrArg SecurityState.wps hsecurity
  have hmaybe : (rtwApParseStaSecurityIe sec x elems).1.flags.maybeWps =
      if sec.mlmeIsAp then (elementOf sec elems).wpaIe.isNone && elems.wpsIe.isNone
      else x.flags.maybeWps := congrArg SecurityState.maybeWps hsecurity
  constructor
  · intro h
    refine ⟨halg1 ▸ h.dot8021xalg, halg2 ▸ h.wpaPsk, hgroup ▸ h.wpaGroupCipher,
      hgroup2 ▸ h.wpa2GroupCipher, hpair ▸ h.wpaPairwiseCipher, hpair2 ▸ h.wpa2PairwiseCipher,
      fun hdis => ?_, fun hap => ?_, fun hap => ?_⟩
    · rw [← h.amsduDisable, hamsdu, decide_eq_true hdis, Bool.or_true]
    · rw [← h.wps, hwps, if_pos hap]
    · rw [← h.maybeWps, hmaybe, if_pos hap]
  · intro h
    refine ⟨halg1.trans h.dot8021xalg, halg2.trans h.wpaPsk, hgroup.trans h.wpaGroupCipher,
      hgroup2.trans h.wpa2GroupCipher, hpair.trans h.wpaPairwiseCipher,
      hpair2.trans h.wpa2PairwiseCipher, ?_, ?_, ?_⟩
    · rw [hamsdu]
      by_cases hdis : DisallowAmsdu sec elems
      · rw [h.amsduDisable hdis, Bool.true_or]
      · rw [decide_eq_false hdis, Bool.or_false]
    · rw [hwps]
      split
      · exact h.wps ‹_›
      · rfl
    · rw [hmaybe]
      split
      · exact h.maybeWps ‹_›
      · rfl

/-- The request is one that the station could have associated with: it passes every check, and
each element says what the station has. -/
structure Repeats (env : AssocEnv) (req : Request) (sta : StaInfo) : Prop where
  /-- The station is in the state that an association leaves. -/
  authSuccess : sta.state.authSuccess = false
  assocState : sta.state.assocState = false
  hasAid : env.hasAid = true
  readable : Readable env req
  shortPreamble : (req.capability &&& 0x0020#16 != 0) = sta.flags.shortPreamble
  nonErp : (req.rateSet.all fun rate => rate &&& 0x7f ≤ 22) = sta.flags.nonErp
  taken : (rtwApParseStaSecurityIe env.sec sta.toStaSecurity req.security).2 = statsSuccessful
  security : SameSecurity env.sec req.security sta.toStaSecurity
  wme : ((wmmInfo env req).isSome || (htInfo env req).isSome) = sta.flags.wme
  qos : SameQos env req sta
  ht : SameHt env req sta
  vht : sta.flags.vht = false
  multiAp : sta.flags.multiAp = false

/-- A request that is not stopped takes the station out of its state. -/
lemma assocStart_state_ne (hgo : ¬ Stopped env sta req) :
    (assocStart sta).state ≠ sta.state := by
  simp only [Stopped, not_or] at hgo
  have hclass := hgo.2.2.2.2
  intro heq
  cases hauth : sta.state.authSuccess with
  | true =>
      have hclear : (assocStart sta).state.authSuccess = false := by simp [assocStart, hauth]
      rw [heq, hauth] at hclear
      cases hclear
  | false =>
      have hclear : (assocStart sta).state.assocSuccess = false := by simp [assocStart, hauth]
      rw [heq] at hclear
      exact hclass ⟨hauth, hclear⟩

/-- When it is granted, the station is back in the state that an association leaves. -/
lemma assocDone_state_iff (hgo : ¬ Stopped env sta req) :
    { (assocStart sta).state with assocState := false, assocSuccess := true } = sta.state ↔
      sta.state.authSuccess = false ∧ sta.state.assocState = false := by
  simp only [Stopped, not_or] at hgo
  have hclass := hgo.2.2.2.2
  cases hauth : sta.state.authSuccess with
  | true =>
      refine iff_of_false (fun heq => ?_) (by simp)
      have := congrArg StaState.authSuccess heq
      simp [assocStart, hauth] at this
  | false =>
      have hassoc : sta.state.assocSuccess = true := by
        by_contra hnot
        exact hclass ⟨hauth, by simpa using hnot⟩
      constructor
      · intro heq
        exact ⟨rfl, (congrArg StaState.assocState heq).symm⟩
      · rintro ⟨-, hstate⟩
        rcases hst : sta.state with ⟨asoc, authNull, authState, authSuccess, assocState, done⟩
        simp only [hst] at hauth hassoc hstate
        simp [assocStart, hst, hauth, hassoc, hstate]

lemma onAssocReq_of_stopped (h : Stopped env sta req) : (onAssocReq env sta req).1 = sta := by
  rw [onAssocReq]
  split_ifs with hinvalid hsae hclass
  · rfl
  · rfl
  · rfl
  all_goals
    rcases h with h | h | h | h | h
    · exact absurd (.inl h) hinvalid
    · exact absurd (.inr (.inl h)) hinvalid
    · exact absurd (.inr (.inr h)) hinvalid
    · exact absurd h hsae
    · exact absurd h hclass

lemma onAssocReq_of_go (hgo : ¬ Stopped env sta req) :
    onAssocReq env sta req =
      if (assocParse env req (assocStart sta)).2 ≠ statsSuccessful then
        ((assocParse env req (assocStart sta)).1,
          [.asocRsp (assocParse env req (assocStart sta)).2])
      else if env.hasAid = false then
        ((assocParse env req (assocStart sta)).1, [.asocRsp statsUnableHandleSta])
      else if (assocDone (assocParse env req (assocStart sta)).1).mfpKeyed then
        (assocDone (assocParse env req (assocStart sta)).1,
          [.asocRsp statsRefusedTemporarily, .saQuery])
      else
        ({ assocDone (assocParse env req (assocStart sta)).1 with
            state := { (assocDone (assocParse env req (assocStart sta)).1).state with
              asoc := true } },
          [.asocRsp statsSuccessful, .join]) := by
  simp only [Stopped, not_or] at hgo
  have hvalid : ¬ (env.apState = false ∨ rtwCheckInvalidMacAddress req.sa false = true ∨
      req.longEnough = false) := by tauto
  rw [onAssocReq, if_neg hvalid, if_neg hgo.2.2.2.1, if_neg hgo.2.2.2.2]

/-- A request that is refused for one of its elements, or for want of an AID, leaves the
station out of its state. -/
lemma not_keeps_of_refused (hgo : ¬ Stopped env sta req)
    (hstate : (onAssocReq env sta req).1.state = (assocStart sta).state) :
    ¬ Keeps sta (onAssocReq env sta req).1 := fun hkeep =>
  assocStart_state_ne hgo (hstate.symm.trans hkeep.state)

/-- The state after the parsers is the one they started with. -/
lemma assocParse_state : (assocParse env req sta).1.state = sta.state := by
  by_cases hread : Readable env req
  · rw [assocParse_of_readable hread, assocElements_state.1]
    rfl
  · exact (assocParse_of_not_readable _ hread).2

/-- A station with protected management frames and a key is still one after its request was
taken. -/
lemma mfpKeyed_of_taken (hkeyed : sta.mfpKeyed = true) (hread : Readable env req)
    (hok : (rtwApParseStaSecurityIe env.sec (beforeSecurity req (assocStart sta)).toStaSecurity
      req.security).2 = statsSuccessful) :
    (assocDone (assocParse env req (assocStart sta)).1).mfpKeyed = true := by
  rw [StaInfo.mfpKeyed, Bool.and_eq_true] at hkeyed
  have hmfp := congrArg SecurityState.mfp (security_of_success hok)
  have hbefore : (beforeSecurity req (assocStart sta)).flags.mfp = true := hkeyed.2
  rw [hbefore, Bool.true_or] at hmfp
  rw [assocParse_of_readable hread, assocElements_of_taken hok]
  simp only [StaInfo.mfpKeyed, assocDone, Bool.and_eq_true]
  exact ⟨hkeyed.1, hmfp⟩

/-- The security elements are read of the entry as it was, if the elements before them say what
the station has. -/
lemma beforeSecurity_of_same
    (hpreamble : (req.capability &&& 0x0020#16 != 0) = sta.flags.shortPreamble)
    (herp : (req.rateSet.all fun rate => rate &&& 0x7f ≤ 22) = sta.flags.nonErp) :
    (beforeSecurity req (assocStart sta)).toStaSecurity = sta.toStaSecurity := by
  simp only [beforeSecurity, hpreamble, herp]
  rfl

/-- The flags about the preamble and the rates are those of the request. -/
lemma flags_of_taken (env : AssocEnv) (req : Request) (x : StaInfo) :
    (rtwApParseStaSecurityIe env.sec (beforeSecurity req x).toStaSecurity
        req.security).1.flags.shortPreamble = (req.capability &&& 0x0020#16 != 0) ∧
      (rtwApParseStaSecurityIe env.sec (beforeSecurity req x).toStaSecurity
        req.security).1.flags.nonErp = req.rateSet.all fun rate => rate &&& 0x7f ≤ 22 := by
  have hother : otherFlags (rtwApParseStaSecurityIe env.sec (beforeSecurity req x).toStaSecurity
      req.security).1 = otherFlags (beforeSecurity req x).toStaSecurity :=
    otherFlags_rtwApParseStaSecurityIe
  exact ⟨congrArg AssocFlags.shortPreamble hother, congrArg AssocFlags.nonErp hother⟩

/-- A request that repeats what the station has. -/
lemma Repeats.keeps (h : Repeats env req sta) (hgo : ¬ Stopped env sta req)
    (hkeyed : sta.mfpKeyed = true) : Keeps sta (onAssocReq env sta req).1 := by
  have hsame := beforeSecurity_of_same h.shortPreamble h.nonErp
  have hok : (rtwApParseStaSecurityIe env.sec (beforeSecurity req (assocStart sta)).toStaSecurity
      req.security).2 = statsSuccessful := by
    rw [hsame]
    exact h.taken
  have hsecurity := (keepsSecurity_iff h.taken).2 h.security
  have hstate := (assocDone_state_iff hgo).2 ⟨h.authSuccess, h.assocState⟩
  have hflags := flags_of_taken env req (assocStart sta)
  have hmfp := congrArg SecurityState.mfp (security_of_success hok)
  have hkept : sta.flags.mfp = true := ((Bool.and_eq_true ..).mp hkeyed).2
  rw [onAssocReq_of_go hgo, if_neg (by
      rw [assocParse_of_readable h.readable, assocElements_of_taken hok]
      exact not_not.2 rfl),
    if_neg (by simp [h.hasAid]), if_pos (mfpKeyed_of_taken hkeyed h.readable hok),
    assocParse_of_readable h.readable, assocElements_of_taken hok]
  simp only [hsame] at hflags hmfp ⊢
  refine {
    state := hstate
    dot8021xalg := hsecurity.dot8021xalg
    wpaPsk := hsecurity.wpaPsk
    wpaGroupCipher := hsecurity.wpaGroupCipher
    wpa2GroupCipher := hsecurity.wpa2GroupCipher
    wpaPairwiseCipher := hsecurity.wpaPairwiseCipher
    wpa2PairwiseCipher := hsecurity.wpa2PairwiseCipher
    flags := ?_
    qosOption := h.qos.qosOption
    qosInfo := h.qos.qosInfo
    maxSpLen := ?_
    hasLegacyAc := h.qos.hasLegacyAc
    uapsdVo := h.qos.uapsdVo
    uapsdVi := h.qos.uapsdVi
    uapsdBe := h.qos.uapsdBe
    uapsdBk := h.qos.uapsdBk
    htCap := ?_
    htOp := ?_
    htOpPresent := ?_ }
  · refine AssocFlags.ext (hflags.1.trans h.shortPreamble) (hflags.2.trans h.nonErp)
      hsecurity.amsduDisable ?_ hsecurity.wps hsecurity.maybeWps h.wme ?_ h.vht.symm
      h.multiAp.symm
    · rw [hkept]
      exact hmfp.trans (by rw [hkept, Bool.true_or])
    · rw [← h.ht.ht, ← hsecurity.usesTkip_eq]
      rfl
  · show (wmmInfo env req).elim sta.maxSpLen _ = sta.maxSpLen
    cases hwmm : wmmInfo env req with
    | none => rfl
    | some q => exact h.qos.maxSpLen q hwmm
  · show (if env.htOption then _ else sta.htCap) = sta.htCap
    split
    · exact h.ht.htCap ‹_›
    · rfl
  · show (htOpInfo env req).getD sta.htOp = sta.htOp
    cases hop : htOpInfo env req with
    | none => rfl
    | some htOp => exact (h.ht.htOp htOp hop).1
  · show (sta.htOpPresent || (htOpInfo env req).isSome) = sta.htOpPresent
    cases hop : htOpInfo env req with
    | none => exact Bool.or_false _
    | some htOp => rw [(h.ht.htOp htOp hop).2, Bool.true_or]

/-- The settings are kept only by a request that repeats them. -/
lemma repeats_of_keeps (hgo : ¬ Stopped env sta req) (hkeyed : sta.mfpKeyed = true)
    (hkeep : Keeps sta (onAssocReq env sta req).1) : Repeats env req sta := by
  have hgone := onAssocReq_of_go hgo
  have hread : Readable env req := by
    by_contra hread
    have hrefused := assocParse_of_not_readable (assocStart sta) hread
    rw [if_pos hrefused.1] at hgone
    exact not_keeps_of_refused hgo (by rw [hgone]; exact hrefused.2) hkeep
  have hok : (rtwApParseStaSecurityIe env.sec (beforeSecurity req (assocStart sta)).toStaSecurity
      req.security).2 = statsSuccessful := by
    by_contra hrefused
    have hstatus := assocElements_of_refused hrefused
    rw [← assocParse_of_readable hread] at hstatus
    rw [if_pos hstatus] at hgone
    exact not_keeps_of_refused hgo (by rw [hgone]; exact assocParse_state) hkeep
  have hparsed : (assocParse env req (assocStart sta)).2 = statsSuccessful := by
    rw [assocParse_of_readable hread, assocElements_of_taken hok]
  rw [if_neg (not_not.2 hparsed)] at hgone
  have haid : env.hasAid = true := by
    cases haid : env.hasAid with
    | true => rfl
    | false =>
        rw [if_pos haid] at hgone
        exact absurd hkeep (not_keeps_of_refused hgo (by rw [hgone]; exact assocParse_state))
  rw [if_neg (by simp [haid]), if_pos (mfpKeyed_of_taken hkeyed hread hok)] at hgone
  rw [hgone, assocParse_of_readable hread, assocElements_of_taken hok] at hkeep
  have hflags := hkeep.flags
  have hradio := flags_of_taken env req (assocStart sta)
  have hpre : (rtwApParseStaSecurityIe env.sec (beforeSecurity req (assocStart sta)).toStaSecurity
      req.security).1.flags.shortPreamble = sta.flags.shortPreamble :=
    (congrArg AssocFlags.shortPreamble hflags :)
  have hnon : (rtwApParseStaSecurityIe env.sec (beforeSecurity req (assocStart sta)).toStaSecurity
      req.security).1.flags.nonErp = sta.flags.nonErp := (congrArg AssocFlags.nonErp hflags :)
  have hpreamble := hradio.1.symm.trans hpre
  have herp := hradio.2.symm.trans hnon
  have hsame := beforeSecurity_of_same hpreamble herp
  rw [hsame] at hok
  simp only [hsame] at hkeep hflags
  have hstate := (assocDone_state_iff hgo).1 hkeep.state
  have hsecurity : KeepsSecurity sta.toStaSecurity
      (rtwApParseStaSecurityIe env.sec sta.toStaSecurity req.security).1 :=
    { dot8021xalg := hkeep.dot8021xalg
      wpaPsk := hkeep.wpaPsk
      wpaGroupCipher := hkeep.wpaGroupCipher
      wpa2GroupCipher := hkeep.wpa2GroupCipher
      wpaPairwiseCipher := hkeep.wpaPairwiseCipher
      wpa2PairwiseCipher := hkeep.wpa2PairwiseCipher
      amsduDisable := (congrArg AssocFlags.amsduDisable hflags :)
      wps := (congrArg AssocFlags.wps hflags :)
      maybeWps := (congrArg AssocFlags.maybeWps hflags :) }
  refine {
    authSuccess := hstate.1
    assocState := hstate.2
    hasAid := haid
    readable := hread
    shortPreamble := hpreamble
    nonErp := herp
    taken := hok
    security := (keepsSecurity_iff hok).1 hsecurity
    wme := (congrArg AssocFlags.wme hflags :)
    qos := {
      qosOption := hkeep.qosOption
      qosInfo := hkeep.qosInfo
      maxSpLen := fun q hwmm => ?_
      hasLegacyAc := hkeep.hasLegacyAc
      uapsdVo := hkeep.uapsdVo
      uapsdVi := hkeep.uapsdVi
      uapsdBe := hkeep.uapsdBe
      uapsdBk := hkeep.uapsdBk }
    ht := {
      ht := ?_
      htCap := fun hoption => ?_
      htOp := fun htOp hop => ?_ }
    vht := (congrArg AssocFlags.vht hflags :).symm
    multiAp := (congrArg AssocFlags.multiAp hflags :).symm }
  · have hlen : (wmmInfo env req).elim sta.maxSpLen (fun q => (q >>> 5 &&& 3).toNat) =
        sta.maxSpLen := hkeep.maxSpLen
    rw [Option.mem_def.1 hwmm] at hlen
    exact hlen
  · rw [← hsecurity.usesTkip_eq]
    exact (congrArg AssocFlags.ht hflags :)
  · have hcap : (if env.htOption then (htInfo env req).getD (List.replicate 26 0)
        else sta.htCap) = sta.htCap := hkeep.htCap
    rwa [if_pos hoption] at hcap
  · have hval : (htOpInfo env req).getD sta.htOp = sta.htOp := hkeep.htOp
    have hpresent : (sta.htOpPresent || (htOpInfo env req).isSome) = sta.htOpPresent :=
      hkeep.htOpPresent
    rw [Option.mem_def.1 hop] at hval hpresent
    exact ⟨hval, by rw [← hpresent]; exact Bool.or_true _⟩

/-- **Association requests in the name of a protected station.**  A request leaves the settings
of a station with protected management frames and a pairwise key as they are exactly if it is
not looked into or repeats them. -/
theorem onAssocReq_keeps_iff (hkeyed : sta.mfpKeyed = true) :
    Keeps sta (onAssocReq env sta req).1 ↔ Stopped env sta req ∨ Repeats env req sta := by
  by_cases hgo : Stopped env sta req
  · rw [onAssocReq_of_stopped hgo]
    refine iff_of_true ?_ (.inl hgo)
    constructor <;> rfl
  · constructor
    · exact fun hkeep => .inr (repeats_of_keeps hgo hkeyed hkeep)
    · exact fun h => (h.resolve_left hgo).keeps hgo hkeyed

/-- A station that associated with CCMP, protected management frames and WMM. -/
def mfpSta : StaInfo where
  dot8021xalg := 1
  wpaPsk := 2
  wpa2GroupCipher := wpaCipherCcmp
  wpa2PairwiseCipher := wpaCipherCcmp
  akmSuiteType := 2
  flags := { mfp := true, wme := true }
  state := { asoc := true, assocSuccess := true }
  bpairwiseKeyInstalled := true
  qosOption := true
  hasLegacyAc := true

/-- The access point that it is associated with. -/
def mfpEnv : AssocEnv where
  apState := true
  forceAsocFail := 0
  sec := wpa2Priv
  qosOption := true
  htOption := false
  hasAid := true

/-- A request with the settings of the station, but for the RSN capabilities and the WMM
element. -/
def requestOf (cap : UInt8) (wmmQosInfo : Option UInt8) : Request where
  sa := MacAddr.ofBytes 2 0 0 0 0 1
  longEnough := true
  elemsOk := true
  capability := 0
  ssidOk := true
  rateSet := [12, 24, 48]
  security := rsnElems cap
  wmmQosInfo := wmmQosInfo
  htCapabilities := none
  htOperation := none

/-- The request that the station associated with leaves everything as it was. -/
theorem onAssocReq_keeps_iff_of_same :
    Keeps mfpSta (onAssocReq mfpEnv mfpSta (requestOf 0x80 (some 0))).1 := by
  refine (onAssocReq_keeps_iff rfl).2 (.inr ?_)
  refine ⟨rfl, rfl, rfl, ⟨rfl, rfl, rfl, by decide⟩, by decide, by decide, by decide, ?_, rfl,
    ?_, ?_, rfl, rfl⟩
  · constructor <;> decide +kernel
  · constructor <;> decide +kernel
  · constructor <;> decide +kernel

/-- A request without a WMM element is refused for the moment, but has taken QoS from the
station. -/
theorem onAssocReq_takes_qos :
    (onAssocReq mfpEnv mfpSta (requestOf 0x80 none)).2 =
        [.asocRsp statsRefusedTemporarily, .saQuery] ∧
      mfpSta.mfpKeyed = true ∧
      (onAssocReq mfpEnv mfpSta (requestOf 0x80 none)).1.qosOption = false ∧
      mfpSta.qosOption = true ∧
      ¬ Keeps mfpSta (onAssocReq mfpEnv mfpSta (requestOf 0x80 none)).1 := by
  refine ⟨by decide, by decide, by decide, rfl, fun hkeep => ?_⟩
  exact absurd hkeep.qosOption (by decide)

end Rtl8723du.Assoc
