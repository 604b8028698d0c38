import Rtl8723du.Assoc.Rsn
import Rtl8723du.Recv.Frame

/-!
# The security elements of an association request

`rtw_ap_parse_sta_security_ie` writes the ciphers, the key management and the flags of a
station from the elements of its request.  It clears the ciphers first, but not
`WLAN_STA_MFP`, `WLAN_STA_AMSDU_DISABLE` and the key management suite, so that those of an
earlier association can stay.  `security_of_request_iff` says when two earlier states of the
entry end in one.

The definitions here are those of `Rtl8723du.Assoc`, which has all that a request writes; the
model of the table (`Rtl8723du.onAssocReq`) has the parts of it that the table needs.
-/

namespace Rtl8723du.Assoc

open Lib.Bytes

/-! ### What is read and written -/

/-- The elements of a request that are read here, each with its id and length. -/
structure SecurityElems where
  rsnIe : Option (List UInt8)
  wpaIe : Option (List UInt8)
  wpsIe : Option (List UInt8)

/-- What the access point is set up with: `security_priv`, and what the function asks of its
adapter. -/
structure SecurityPriv where
  /-- Bit 0: WPA, bit 1: WPA2. -/
  wpaPsk : BitVec 8
  wpaGroupCipher : BitVec 32
  wpaPairwiseCipher : BitVec 32
  wpa2GroupCipher : BitVec 32
  wpa2PairwiseCipher : BitVec 32
  akmp : BitVec 32
  dot11PrivacyAlgrthm : SecurityType
  mfpOpt : ℕ
  dot11wCipher : SecurityType
  /-- `auth_type` is `MLME_AUTHTYPE_SAE`. -/
  authTypeSae : Bool
  amsduMode : ℕ
  /-- `MLME_IS_AP`. -/
  mlmeIsAp : Bool
  /-- `rtw_cached_pmkid` has an entry for the station. -/
  cachedPmkid : Bool
  /-- The selected registrar attribute of `wps_beacon_ie`, if there is such an element. -/
  selectedRegistrar : Option UInt8

/-- The bits of `flags` that an association request changes. -/
@[ext] structure AssocFlags where
  shortPreamble : Bool := false
  nonErp : Bool := false
  amsduDisable : Bool := false
  mfp : Bool := false
  wps : Bool := false
  maybeWps : Bool := false
  wme : Bool := false
  ht : Bool := false
  vht : Bool := false
  multiAp : Bool := false
deriving DecidableEq, Repr

/-- The part of `struct sta_info` that is about security. -/
structure StaSecurity where
  authalg : ℕ := 0
  dot8021xalg : ℕ := 0
  wpaPsk : BitVec 8 := 0
  wpaGroupCipher : BitVec 32 := 0
  wpa2GroupCipher : BitVec 32 := 0
  wpaPairwiseCipher : BitVec 32 := 0
  wpa2PairwiseCipher : BitVec 32 := 0
  akmSuiteType : BitVec 32 := 0
  wpaIe : List UInt8 := List.replicate 32 0
  flags : AssocFlags := {}
deriving DecidableEq, Repr

/-! ### Status codes -/

/-- `_STATS_SUCCESSFUL_`. -/
abbrev statsSuccessful : ℕ := 0

/-- `_STATS_UNABLE_HANDLE_STA_`. -/
abbrev statsUnableHandleSta : ℕ := 17

/-- `WLAN_STATUS_ROBUST_MGMT_FRAME_POLICY_VIOLATION`. -/
abbrev wlanStatusRobustMgmtFramePolicyViolation : ℕ := 31

/-- `WLAN_STATUS_INVALID_IE`. -/
abbrev wlanStatusInvalidIe : ℕ := 40

/-- `WLAN_STATUS_GROUP_CIPHER_NOT_VALID`. -/
abbrev wlanStatusGroupCipherNotValid : ℕ := 41

/-- `WLAN_STATUS_PAIRWISE_CIPHER_NOT_VALID`. -/
abbrev wlanStatusPairwiseCipherNotValid : ℕ := 42

/-- `WLAN_STATUS_AKMP_NOT_VALID`. -/
abbrev wlanStatusAkmpNotValid : ℕ := 43

/-- `WLAN_STATUS_CIPHER_REJECTED_PER_POLICY`. -/
abbrev wlanStatusCipherRejectedPerPolicy : ℕ := 46

/-- `WLAN_STATUS_INVALID_PMKID`. -/
abbrev wlanStatusInvalidPmkid : ℕ := 53

/-! ### `rtw_ap_parse_sta_security_ie` -/

/-- `MFP_OPTIONAL`. -/
abbrev mfpOptional : ℕ := 2

/-- `MFP_REQUIRED`. -/
abbrev mfpRequired : ℕ := 3

/-- `security_type_bip_to_gmcs`. -/
def securityTypeBipToGmcs : SecurityType → BitVec 32
  | .bipCmac128 => wpaCipherBipCmac128
  | .bipGmac128 => wpaCipherBipGmac128
  | .bipGmac256 => wpaCipherBipGmac256
  | .bipCmac256 => wpaCipherBipCmac256
  | _ => 0

/-- `rtw_check_amsdu_disable`.  In the mode `RTW_AMSDU_MODE_SPP` the source tests `~(..)`, which
is never zero. -/
def rtwCheckAmsduDisable (mode sppOpt : ℕ) : Bool :=
  if mode = 0 ∧ sppOpt.testBit 1 then true
  else if mode = 1 then true
  else mode == 2

/-- What the station is before its elements are read. -/
def securityReset (sta : StaSecurity) : StaSecurity :=
  { sta with
    dot8021xalg := 0
    wpaPsk := 0
    wpaGroupCipher := 0
    wpa2GroupCipher := 0
    wpaPairwiseCipher := 0
    wpa2PairwiseCipher := 0
    wpaIe := List.replicate 32 0 }

/-- What is known after the RSN or the WPA element. -/
structure ElementResult where
  sta : StaSecurity
  status : ℕ := statsSuccessful
  gmcs : BitVec 32 := 0
  mfpOpt : ℕ := 0
  sppOpt : ℕ := 0
  /-- The element that was read. -/
  wpaIe : Option (List UInt8) := none

/-- The RSN element. -/
def parseRsn (sec : SecurityPriv) (sta : StaSecurity) (ie : List UInt8) : ElementResult :=
  match rtwParseWpa2Ie ie with
  | none => { sta := sta, status := wlanStatusInvalidIe }
  | some info =>
      let sta := { sta with
        dot8021xalg := 1
        wpaPsk := sta.wpaPsk ||| 2
        wpa2GroupCipher := info.groupCipher &&& sec.wpa2GroupCipher
        wpa2PairwiseCipher := info.pairwiseCipher &&& sec.wpa2PairwiseCipher
        akmSuiteType := info.akm }
      let status :=
        if sec.mlmeIsAp = true ∧ info.akm &&& wlanAkmTypeSae ≠ 0 ∧ info.mfpOpt = 0 then
          wlanStatusRobustMgmtFramePolicyViolation
        else if sec.mlmeIsAp = true ∧ sec.akmp &&& info.akm = 0 then wlanStatusAkmpNotValid
        else if sta.wpa2GroupCipher = 0 then wlanStatusGroupCipherNotValid
        else if sta.wpa2PairwiseCipher = 0 then wlanStatusPairwiseCipherNotValid
        else statsSuccessful
      { sta := sta, status := status, gmcs := info.gmcs, mfpOpt := info.mfpOpt,
        sppOpt := info.sppOpt, wpaIe := some ie }

/-- The WPA element. -/
def parseWpa (sec : SecurityPriv) (sta : StaSecurity) (ie : List UInt8) : ElementResult :=
  match rtwParseWpaIe ie with
  | none => { sta := sta, status := wlanStatusInvalidIe }
  | some (groupCipher, pairwiseCipher) =>
      let sta := { sta with
        dot8021xalg := 1
        wpaPsk := sta.wpaPsk ||| 1
        wpaGroupCipher := groupCipher &&& sec.wpaGroupCipher
        wpaPairwiseCipher := pairwiseCipher &&& sec.wpaPairwiseCipher }
      let status :=
        if sta.wpaGroupCipher = 0 then wlanStatusGroupCipherNotValid
        else if sta.wpaPairwiseCipher = 0 then wlanStatusPairwiseCipherNotValid
        else statsSuccessful
      { sta := sta, status := status, wpaIe := some ie }

/-- The element that is read: RSN before WPA, each only if the access point has it. -/
def securityElement (sec : SecurityPriv) (sta : StaSecurity) (elems : SecurityElems) :
    ElementResult :=
  match (if sec.wpaPsk &&& 2 ≠ 0 then elems.rsnIe else none) with
  | some ie => parseRsn sec sta ie
  | none =>
      match (if sec.wpaPsk &&& 1 ≠ 0 then elems.wpaIe else none) with
      | some ie => parseWpa sec sta ie
      | none => { sta := sta }

/-- The WPS flags of a request without a WPA element, and whether a registrar has not been
selected. -/
def securityNoWpa (sec : SecurityPriv) (sta : StaSecurity) : StaSecurity × ℕ :=
  if sec.wpaPsk ≠ 0 ∧ (sta.flags.wps = true ∨ sta.flags.maybeWps = true) ∧
      sec.selectedRegistrar = some 0 then (sta, statsUnableHandleSta)
  else (sta, statsSuccessful)

/-- The WPS flags and the copy of the element. -/
def securityWps (sec : SecurityPriv) (sta : StaSecurity) (wpaIe : Option (List UInt8))
    (elems : SecurityElems) : StaSecurity × ℕ :=
  let sta := { sta with flags := { sta.flags with wps := false, maybeWps := false } }
  match wpaIe with
  | none =>
      securityNoWpa sec
        (if elems.wpsIe.isSome then { sta with flags := { sta.flags with wps := true } }
        else { sta with flags := { sta.flags with maybeWps := true } })
  | some ie =>
      if sec.wpaPsk = 0 then (sta, wlanStatusInvalidIe)
      else if elems.wpsIe.isSome then
        ({ sta with flags := { sta.flags with wps := true } }, statsSuccessful)
      else ({ sta with wpaIe := writeAt sta.wpaIe 0 (ie.take 32) }, statsSuccessful)

/-- `WLAN_STA_AMSDU_DISABLE` is set, but not cleared. -/
def securityAmsdu (sec : SecurityPriv) (sppOpt : ℕ) (sta : StaSecurity) : StaSecurity :=
  if sec.dot11PrivacyAlgrthm ≠ .noPrivacy ∧ rtwCheckAmsduDisable sec.amsduMode sppOpt = true then
    { sta with flags := { sta.flags with amsduDisable := true } }
  else sta

/-- `WLAN_STA_MFP` is set, but not cleared. -/
def securityMfp (sec : SecurityPriv) (mfpOpt : ℕ) (sta : StaSecurity) : StaSecurity :=
  if mfpOptional ≤ sec.mfpOpt ∧ mfpOptional ≤ mfpOpt then
    { sta with flags := { sta.flags with mfp := true } }
  else sta

/-- From the flags on. -/
def securityFlags (sec : SecurityPriv) (r : ElementResult) (elems : SecurityElems) :
    StaSecurity × ℕ :=
  let sta := securityAmsdu sec r.sppOpt r.sta
  if sec.mfpOpt = mfpRequired ∧ r.mfpOpt < mfpOptional ∨
      r.mfpOpt = mfpRequired ∧ sec.mfpOpt < mfpOptional then
    (sta, wlanStatusRobustMgmtFramePolicyViolation)
  else
    let sta := securityMfp sec r.mfpOpt sta
    if sta.flags.mfp = true ∧ (mfpOptional ≤ sec.mfpOpt ∧ mfpOptional ≤ r.mfpOpt) ∧
        securityTypeBipToGmcs sec.dot11wCipher ≠ r.gmcs then
      (sta, wlanStatusCipherRejectedPerPolicy)
    else if sec.mlmeIsAp = true ∧ sec.authTypeSae = true ∧ sta.akmSuiteType &&& wlanAkmTypeSae ≠ 0 ∧
        sta.authalg = 0 ∧ sec.cachedPmkid = false then
      (sta, wlanStatusInvalidPmkid)
    else if sec.mlmeIsAp = false then (sta, statsSuccessful)
    else securityWps sec sta r.wpaIe elems

/-- `rtw_ap_parse_sta_security_ie`: the station, and the status. -/
def rtwApParseStaSecurityIe (sec : SecurityPriv) (sta : StaSecurity) (elems : SecurityElems) :
    StaSecurity × ℕ :=
  let r := securityElement sec (securityReset sta) elems
  if r.status ≠ statsSuccessful then (r.sta, r.status)
  else securityFlags sec r elems

/-! ### What becomes of the station -/

/-- The RSN element that is read. -/
def readRsn (sec : SecurityPriv) (elems : SecurityElems) : Option Wpa2Info :=
  (if sec.wpaPsk &&& 2 ≠ 0 then elems.rsnIe else none).bind rtwParseWpa2Ie

/-- The access point and the RSN element of the request offer protected management frames. -/
def OfferMfp (sec : SecurityPriv) (elems : SecurityElems) : Prop :=
  (sec.wpaPsk &&& 2 ≠ 0 ∧ mfpOptional ≤ sec.mfpOpt) ∧
    ∃ ie ∈ elems.rsnIe, ∃ info ∈ rtwParseWpa2Ie ie, mfpOptional ≤ info.mfpOpt

/-- The access point and the request are such that no A-MSDU may be used. -/
def DisallowAmsdu (sec : SecurityPriv) (elems : SecurityElems) : Prop :=
  sec.dot11PrivacyAlgrthm ≠ .noPrivacy ∧
    rtwCheckAmsduDisable sec.amsduMode (((readRsn sec elems).map (·.sppOpt)).getD 0) = true

/-- The security state that an association leaves. -/
structure SecurityState where
  mfp : Bool
  amsduDisable : Bool
  wps : Bool
  maybeWps : Bool
  akmSuiteType : BitVec 32
  wpaGroupCipher : BitVec 32
  wpa2GroupCipher : BitVec 32
  wpaPairwiseCipher : BitVec 32
  wpa2PairwiseCipher : BitVec 32
deriving DecidableEq, Repr

def StaSecurity.security (sta : StaSecurity) : SecurityState where
  mfp := sta.flags.mfp
  amsduDisable := sta.flags.amsduDisable
  wps := sta.flags.wps
  maybeWps := sta.flags.maybeWps
  akmSuiteType := sta.akmSuiteType
  wpaGroupCipher := sta.wpaGroupCipher
  wpa2GroupCipher := sta.wpa2GroupCipher
  wpaPairwiseCipher := sta.wpaPairwiseCipher
  wpa2PairwiseCipher := sta.wpa2PairwiseCipher

variable {sec : SecurityPriv} {sta sta' : StaSecurity} {elems : SecurityElems}
  {r : ElementResult}

lemma securityAmsdu_eq (sec : SecurityPriv) (sppOpt : ℕ) (sta : StaSecurity) :
    securityAmsdu sec sppOpt sta = { sta with flags := { sta.flags with
      amsduDisable := sta.flags.amsduDisable || decide (sec.dot11PrivacyAlgrthm ≠ .noPrivacy ∧
        rtwCheckAmsduDisable sec.amsduMode sppOpt = true) } } := by
  unfold securityAmsdu
  split
  · rw [decide_eq_true ‹_›, Bool.or_true]
  · rw [decide_eq_false ‹_›, Bool.or_false]

lemma securityMfp_eq (sec : SecurityPriv) (mfpOpt : ℕ) (sta : StaSecurity) :
    securityMfp sec mfpOpt sta = { sta with flags := { sta.flags with
      mfp := sta.flags.mfp || decide (mfpOptional ≤ sec.mfpOpt ∧ mfpOptional ≤ mfpOpt) } } := by
  unfold securityMfp
  split
  · rw [decide_eq_true ‹_›, Bool.or_true]
  · rw [decide_eq_false ‹_›, Bool.or_false]

/-- What `securityWps` makes of the flags when it is successful. -/
lemma securityWps_security {wpaIe : Option (List UInt8)}
    (h : (securityWps sec sta wpaIe elems).2 = statsSuccessful) :
    (securityWps sec sta wpaIe elems).1.security = { sta.security with
      wps := elems.wpsIe.isSome
      maybeWps := wpaIe.isNone && elems.wpsIe.isNone } := by
  unfold securityWps securityNoWpa at h ⊢
  cases helem : elems.wpsIe <;> cases wpaIe with
  | none =>
      simp only [helem, Option.isSome_none, Option.isSome_some, Bool.false_eq_true, if_false,
        if_true] at h ⊢
      -- the other branch has a status of its own
      split_ifs at h ⊢
      rfl
  | some ie =>
      simp only [helem, Option.isSome_none, Option.isSome_some, Bool.false_eq_true, if_false,
        if_true] at h ⊢
      split_ifs at h ⊢
      rfl

/-- What the flags are made of when the request is taken. -/
lemma securityFlags_security (h : (securityFlags sec r elems).2 = statsSuccessful) :
    (securityFlags sec r elems).1.security = { r.sta.security with
      mfp := r.sta.flags.mfp || decide (mfpOptional ≤ sec.mfpOpt ∧ mfpOptional ≤ r.mfpOpt)
      amsduDisable := r.sta.flags.amsduDisable ||
        decide (sec.dot11PrivacyAlgrthm ≠ .noPrivacy ∧
          rtwCheckAmsduDisable sec.amsduMode r.sppOpt = true)
      wps := if sec.mlmeIsAp then elems.wpsIe.isSome else r.sta.flags.wps
      maybeWps :=
        if sec.mlmeIsAp then r.wpaIe.isNone && elems.wpsIe.isNone
        else r.sta.flags.maybeWps } := by
  unfold securityFlags at h ⊢
  simp only [securityAmsdu_eq, securityMfp_eq] at h ⊢
  cases hap : sec.mlmeIsAp with
  | false =>
      simp only [hap, Bool.false_eq_true, false_and, if_false, if_true] at h ⊢
      split_ifs at h ⊢
      rfl
  | true =>
      simp only [hap, Bool.true_eq_false, true_and, if_false, if_true] at h ⊢
      split_ifs at h ⊢
      rw [securityWps_security h]
      rfl

/-- What the element leaves of the station: all but the key management suite is written anew,
and that too if an RSN element is read. -/
lemma securityElement_reset (sec : SecurityPriv) (sta sta' : StaSecurity) (elems : SecurityElems) :
    securityElement sec (securityReset sta') elems =
      { securityElement sec (securityReset sta) elems with
        sta := { (securityElement sec (securityReset sta) elems).sta with
          authalg := sta'.authalg
          flags := sta'.flags
          akmSuiteType := ((readRsn sec elems).map (·.akm)).getD sta'.akmSuiteType } } := by
  unfold securityElement readRsn
  cases (if sec.wpaPsk &&& 2 ≠ 0 then elems.rsnIe else none) with
  | some ie =>
      simp only [parseRsn, Option.bind_some]
      cases rtwParseWpa2Ie ie <;> rfl
  | none =>
      simp only [Option.bind_none]
      cases (if sec.wpaPsk &&& 1 ≠ 0 then elems.wpaIe else none) with
      | some ie =>
          simp only [parseWpa]
          cases rtwParseWpaIe ie <;> rfl
      | none => rfl

lemma securityElement_sta (sec : SecurityPriv) (sta : StaSecurity) (elems : SecurityElems) :
    (securityElement sec (securityReset sta) elems).sta.flags = sta.flags ∧
      (securityElement sec (securityReset sta) elems).sta.akmSuiteType =
        ((readRsn sec elems).map (·.akm)).getD sta.akmSuiteType := by
  rw [securityElement_reset sec sta sta elems]
  exact ⟨rfl, rfl⟩

/-- The options of the RSN element that is read. -/
lemma securityElement_opts (sec : SecurityPriv) (sta : StaSecurity) (elems : SecurityElems) :
    (securityElement sec sta elems).mfpOpt = ((readRsn sec elems).map (·.mfpOpt)).getD 0 ∧
      (securityElement sec sta elems).sppOpt = ((readRsn sec elems).map (·.sppOpt)).getD 0 := by
  unfold securityElement readRsn
  cases (if sec.wpaPsk &&& 2 ≠ 0 then elems.rsnIe else none) with
  | some ie =>
      simp only [parseRsn, Option.bind_some]
      cases rtwParseWpa2Ie ie <;> exact ⟨rfl, rfl⟩
  | none =>
      simp only [Option.bind_none]
      cases (if sec.wpaPsk &&& 1 ≠ 0 then elems.wpaIe else none) with
      | some ie =>
          simp only [parseWpa]
          cases rtwParseWpaIe ie <;> exact ⟨rfl, rfl⟩
      | none => exact ⟨rfl, rfl⟩

lemma offerMfp_iff (sec : SecurityPriv) (elems : SecurityElems) :
    OfferMfp sec elems ↔
      mfpOptional ≤ sec.mfpOpt ∧ mfpOptional ≤ ((readRsn sec elems).map (·.mfpOpt)).getD 0 := by
  unfold OfferMfp readRsn
  by_cases hwpa2 : sec.wpaPsk &&& 2 ≠ 0
  · rw [if_pos hwpa2]
    cases hie : elems.rsnIe with
    | none => simp
    | some ie =>
        cases hinfo : rtwParseWpa2Ie ie with
        | none => simp [hinfo]
        | some info => simpa [hinfo] using fun _ _ => hwpa2
  · rw [if_neg hwpa2]
    exact iff_of_false (fun h => hwpa2 h.1.1) (by simp)

instance (sec : SecurityPriv) (elems : SecurityElems) : Decidable (OfferMfp sec elems) :=
  decidable_of_iff _ (offerMfp_iff sec elems).symm

instance (sec : SecurityPriv) (elems : SecurityElems) : Decidable (DisallowAmsdu sec elems) := by
  unfold DisallowAmsdu
  infer_instance

/-- The security state that a request leaves when it is taken. -/
lemma security_of_success
    (h : (rtwApParseStaSecurityIe sec sta elems).2 = statsSuccessful) :
    (rtwApParseStaSecurityIe sec sta elems).1.security =
      { (securityElement sec (securityReset {}) elems).sta.security with
        mfp := sta.flags.mfp || decide (OfferMfp sec elems)
        amsduDisable := sta.flags.amsduDisable || decide (DisallowAmsdu sec elems)
        wps := if sec.mlmeIsAp then elems.wpsIe.isSome else sta.flags.wps
        maybeWps :=
          if sec.mlmeIsAp then
            (securityElement sec (securityReset {}) elems).wpaIe.isNone && elems.wpsIe.isNone
          else sta.flags.maybeWps
        akmSuiteType := ((readRsn sec elems).map (·.akm)).getD sta.akmSuiteType } := by
  unfold rtwApParseStaSecurityIe at h ⊢
  have hreset := securityElement_reset sec {} sta elems
  have hopts := securityElement_opts sec (securityReset sta) elems
  have hmfp : (mfpOptional ≤ sec.mfpOpt ∧ mfpOptional ≤
      (securityElement sec (securityReset sta) elems).mfpOpt) ↔ OfferMfp sec elems := by
    rw [hopts.1, offerMfp_iff]
  have hamsdu : (sec.dot11PrivacyAlgrthm ≠ .noPrivacy ∧ rtwCheckAmsduDisable sec.amsduMode
      (securityElement sec (securityReset sta) elems).sppOpt = true) ↔ DisallowAmsdu sec elems := by
    rw [hopts.2, DisallowAmsdu]
  simp only at h ⊢
  by_cases hstatus : (securityElement sec (securityReset sta) elems).status = statsSuccessful
  · rw [if_neg (not_not.2 hstatus)] at h ⊢
    rw [securityFlags_security h]
    simp only [hmfp, hamsdu, (securityElement_sta sec sta elems).1]
    rw [hreset]
    rfl
  · rw [if_pos hstatus] at h
    exact absurd h hstatus

/-- What an earlier association leaves in the entry is the same for two states of it, where the
request does not decide it. -/
structure SameLeft (sec : SecurityPriv) (elems : SecurityElems) (sta sta' : StaSecurity) :
    Prop where
  mfp : OfferMfp sec elems ∨ sta.flags.mfp = sta'.flags.mfp
  amsduDisable : DisallowAmsdu sec elems ∨ sta.flags.amsduDisable = sta'.flags.amsduDisable
  akm : (readRsn sec elems).isSome ∨ sta.akmSuiteType = sta'.akmSuiteType
  wps : sec.mlmeIsAp = true ∨
    sta.flags.wps = sta'.flags.wps ∧ sta.flags.maybeWps = sta'.flags.maybeWps

lemma or_decide_eq_iff {a b : Bool} {p : Prop} [Decidable p] :
    (a || decide p) = (b || decide p) ↔ p ∨ a = b := by
  by_cases hp : p <;> simp [hp]

/-- **The security state of a station after its request.**  Two earlier states of the entry end
in the same security state exactly if they agree on what the request leaves as it was; and
`WLAN_STA_MFP` is set as the access point and the request say exactly if it was clear or is to
be set. -/
theorem security_of_request_iff
    (h : (rtwApParseStaSecurityIe sec sta elems).2 = statsSuccessful)
    (h' : (rtwApParseStaSecurityIe sec sta' elems).2 = statsSuccessful) :
    ((rtwApParseStaSecurityIe sec sta elems).1.security =
        (rtwApParseStaSecurityIe sec sta' elems).1.security ↔ SameLeft sec elems sta sta') ∧
      (((rtwApParseStaSecurityIe sec sta elems).1.flags.mfp = true ↔ OfferMfp sec elems) ↔
        (sta.flags.mfp = true → OfferMfp sec elems)) := by
  have hsecurity := security_of_success h
  refine ⟨?_, ?_⟩
  · rw [hsecurity, security_of_success h']
    simp only [SecurityState.mk.injEq, or_decide_eq_iff, and_true]
    have hakm : ((readRsn sec elems).map (·.akm)).getD sta.akmSuiteType =
          ((readRsn sec elems).map (·.akm)).getD sta'.akmSuiteType ↔
        ((readRsn sec elems).isSome ∨ sta.akmSuiteType = sta'.akmSuiteType) := by
      cases readRsn sec elems <;> simp
    rw [hakm]
    constructor
    · rintro ⟨hmfp, hamsdu, hwps, hmaybe, hakm⟩
      refine ⟨hmfp, hamsdu, hakm, ?_⟩
      cases hap : sec.mlmeIsAp with
      | true => exact .inl rfl
      | false => exact .inr ⟨by simpa [hap] using hwps, by simpa [hap] using hmaybe⟩
    · rintro ⟨hmfp, hamsdu, hakm, hwps⟩
      refine ⟨hmfp, hamsdu, ?_, ?_, hakm⟩
      · rcases hwps with hap | ⟨hwps, -⟩
        · rw [if_pos hap, if_pos hap]
        · rw [hwps]
      · rcases hwps with hap | ⟨-, hmaybe⟩
        · rw [if_pos hap, if_pos hap]
        · rw [hmaybe]
  · have hmfp : (rtwApParseStaSecurityIe sec sta elems).1.flags.mfp =
        (sta.flags.mfp || decide (OfferMfp sec elems)) := congrArg SecurityState.mfp hsecurity
    rw [hmfp, Bool.or_eq_true, decide_eq_true_eq]
    tauto

/-- An access point with WPA2-PSK, CCMP and optional protection of management frames. -/
def wpa2Priv : SecurityPriv where
  wpaPsk := 2
  wpaGroupCipher := 0
  wpaPairwiseCipher := 0
  wpa2GroupCipher := wpaCipherCcmp
  wpa2PairwiseCipher := wpaCipherCcmp
  akmp := 2
  dot11PrivacyAlgrthm := .aes
  mfpOpt := 2
  dot11wCipher := .bipCmac128
  authTypeSae := false
  amsduMode := 0
  mlmeIsAp := true
  cachedPmkid := false
  selectedRegistrar := none

/-- A request with an RSN element for CCMP and PSK, with given RSN capabilities. -/
def rsnElems (cap : UInt8) : SecurityElems where
  rsnIe := some [48, 20, 1, 0, 0x00, 0x0F, 0xAC, 4, 1, 0, 0x00, 0x0F, 0xAC, 4,
    1, 0, 0x00, 0x0F, 0xAC, 2, cap, 0]
  wpaIe := none
  wpsIe := none

/-- A station that offers protection ends with it, whatever it had. -/
theorem security_of_request_iff_of_mfpCapable :
    (rtwApParseStaSecurityIe wpa2Priv {} (rsnElems 0x80)).1.security =
      (rtwApParseStaSecurityIe wpa2Priv { flags := { mfp := true } }
        (rsnElems 0x80)).1.security := by
  refine (security_of_request_iff (by decide) (by decide)).1.2 ⟨?_, ?_, ?_, ?_⟩
  · exact .inl (by decide)
  · exact .inr (by decide)
  · exact .inl (by decide)
  · exact .inl (by decide)

/-- A station that associated with protected management frames before, and then without them,
keeps `WLAN_STA_MFP`. -/
theorem security_of_request_keeps_mfp :
    (rtwApParseStaSecurityIe wpa2Priv { flags := { mfp := true } } (rsnElems 0)).2 = 0 ∧
      (rtwApParseStaSecurityIe wpa2Priv {} (rsnElems 0)).2 = 0 ∧
      ¬ OfferMfp wpa2Priv (rsnElems 0) ∧
      (rtwApParseStaSecurityIe wpa2Priv { flags := { mfp := true } } (rsnElems 0)).1.flags.mfp
        = true ∧
      (rtwApParseStaSecurityIe wpa2Priv {} (rsnElems 0)).1.flags.mfp = false := by
  decide

end Rtl8723du.Assoc
