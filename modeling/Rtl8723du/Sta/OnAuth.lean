import Rtl8723du.Mgmt.Frame
import Rtl8723du.Sta.Table

/-!
# Authentication at the access point

`OnAuth`, which answers an authentication frame.  All its failures after the station was
looked up end in one block that frees the station that was found.  For a station with
protected management frames and a pairwise key the lists and the state are left alone on the
way, but not at the end: the frame, which anybody can send, has the station freed.
-/

namespace Rtl8723du

open Lib.Bytes

/-- A received frame: the bytes of the buffer from the frame on, and how many of them are the
frame. -/
structure RxFrame where
  rxData : List UInt8
  len : ℕ
  len_le : len ≤ rxData.length

/-- The loop of `rtw_get_ie` from the offset `i` on. -/
def rtwGetIeFrom (pbuf : List UInt8) (index : UInt8) (limit : ℤ) (i : ℕ) : ℕ → Option ℕ
  | 0 => none
  | turns + 1 =>
      if pbuf.getD i 0 = index then some i
      else
        let i := i + (pbuf.getD (i + 1) 0).toNat + 2
        if limit ≤ i then none else rtwGetIeFrom pbuf index limit i turns

/-- `rtw_get_ie`: where the element is, and its length.  Each turn goes two bytes on at
least. -/
def rtwGetIe (pbuf : List UInt8) (index : UInt8) (limit : ℤ) : Option (ℕ × ℕ) :=
  if limit < 1 then none
  else
    (rtwGetIeFrom pbuf index limit 0 limit.toNat).map fun i => (i, (pbuf.getD (i + 1) 0).toNat)

/-- `WLAN_AUTH_SAE`. -/
abbrev wlanAuthSae : ℕ := 3

/-- `dot11AuthAlgrthm_8021X`. -/
abbrev dot11AuthAlgrthm8021X : ℕ := 2

/-- `_STATS_NO_SUPP_ALG_`. -/
abbrev statsNoSuppAlg : ℕ := 13

/-- `_STATS_OUT_OF_AUTH_SEQ_`. -/
abbrev statsOutOfAuthSeq : ℕ := 14

/-- `_STATS_CHALLENGE_FAIL_`. -/
abbrev statsChallengeFail : ℕ := 15

/-- `_STATS_UNABLE_HANDLE_STA_`. -/
abbrev statsUnableHandleSta : ℕ := 17

/-- `_STATS_REFUSED_TEMPORARILY_`. -/
abbrev statsRefusedTemporarily : ℕ := 30

/-- What the handling of one frame finds besides the table. -/
structure AuthEnv where
  /-- `rtw_wep_decrypt`, on the bytes of the frame. -/
  rtwWepDecrypt : List UInt8 → List UInt8
  /-- `rtw_defs_attack_chk`: too many stations are on their way in. -/
  rtwDefsAttackChk : Bool
  /-- `rtw_ap_linking_test_force_auth_fail`, 0 if no failure is forced. -/
  forceAuthFail : ℕ

/-- What becomes of an authentication frame. -/
inductive AuthOutcome
  | notHandled
  /-- The frame went up to be handled there. -/
  | reported
  /-- `issue_auth` with a status. -/
  | answered (status : ℕ)
deriving DecidableEq, Repr

/-- The station has protected management frames and a pairwise key. -/
def Sta.mfpKeyed (pstat : Sta) : Bool := pstat.flags.mfp && pstat.bpairwiseKeyInstalled

/-- A new station. -/
def Sta.startAuth (pstat : Sta) : Sta := { pstat with state := { authNull := true }, authSeq := 0 }

/-- The algorithm is noted. -/
def Sta.setAuthalg (pstat : Sta) (algorithm : ℕ) : Sta := { pstat with authalg := algorithm }

/-! ### The frame -/

/-- The transmitter of a frame. -/
def RxFrame.sa (f : RxFrame) : MacAddr := macAt f.rxData 10

/-- The bytes of an authentication frame, decrypted if they were encrypted, and the offset
that the fixed fields are moved by. -/
def authBody (env : AuthEnv) (f : RxFrame) : List UInt8 × ℕ :=
  if getPrivacy f.rxData then (env.rtwWepDecrypt f.rxData, 4) else (f.rxData, 0)

/-- The authentication algorithm. -/
def authAlgorithm (env : AuthEnv) (f : RxFrame) : ℕ :=
  leAt (authBody env f).1 (wlanHdrA3Len + (authBody env f).2) 2

/-- The transaction sequence number. -/
def authSeqNum (env : AuthEnv) (f : RxFrame) : ℕ :=
  leAt (authBody env f).1 (wlanHdrA3Len + (authBody env f).2 + 2) 2

/-- The challenge element is there, and its text is the one sent. -/
def challengeOk (env : AuthEnv) (f : RxFrame) (chgTxt : List UInt8) : Bool :=
  let ies := (authBody env f).1.drop (wlanHdrA3Len + 4 + 6)
  match rtwGetIe ies 16 (f.len - wlanHdrA3Len - 6 - 4) with
  | none => false
  | some (p, ieLen) =>
      ieLen ≠ 0 && (List.range 128).map (fun k => ies.getD (p + 2 + k) 0) == chgTxt

/-- `auth_mode`, after it was lowered for a frame that is not SAE. -/
def authMode (cfg : ApConfig) (algorithm : ℕ) : ℕ :=
  if cfg.dot11AuthAlgrthm = 2 ∧ algorithm ≠ wlanAuthSae ∧
      cfg.dot11PrivacyAlgrthm ≠ .wep40 ∧ cfg.dot11PrivacyAlgrthm ≠ .wep104 then 0
  else cfg.dot11AuthAlgrthm

/-- The algorithm is not the one that is set. -/
def badAlgorithm (authMode algorithm : ℕ) : Bool :=
  0 < algorithm && authMode == 0 || algorithm == 0 && authMode == 1

/-- Open system authentication, and not the exchange with a challenge. -/
def openSystem (authMode algorithm : ℕ) : Bool :=
  algorithm == 0 && (authMode == 0 || authMode == 2 || authMode == 3)

/-- The frame goes up to be handled there. -/
def authReported (cfg : ApConfig) (algorithm : ℕ) : Bool :=
  cfg.reportAuth && algorithm == wlanAuthSae &&
    authMode cfg algorithm == dot11AuthAlgrthm8021X

/-! ### The exchange with one station -/

/-- The transaction sequence, from the first check of it on: the status of a failure, or the
entry with which `issue_auth` is called. -/
def authExchange (cfg : ApConfig) (env : AuthEnv) (f : RxFrame) (pstat : Sta) :
    Except ℕ Sta :=
  let algorithm := authAlgorithm env f
  let authMode := authMode cfg algorithm
  let seq := authSeqNum env f
  if pstat.authSeq + 1 ≠ seq then .error statsOutOfAuthSeq
  else if openSystem authMode algorithm then
    if seq = 1 then
      .ok { pstat with
        state :=
          if pstat.mfpKeyed then pstat.state
          else { pstat.state with authNull := false, authSuccess := true }
        authalg := algorithm }
    else .error statsOutOfAuthSeq
  else if seq = 1 then
    .ok { pstat with
      chgTxt := List.replicate 128 78
      state :=
        if pstat.mfpKeyed then pstat.state
        else { pstat.state with authNull := false, authState := true }
      authalg := algorithm
      authSeq := 2 }
  else if seq = 3 then
    if challengeOk env f pstat.chgTxt then
      .ok { pstat with
        state :=
          if pstat.mfpKeyed then pstat.state
          else { pstat.state with authState := false, authSuccess := true } }
    else .error statsChallengeFail
  else .error statsOutOfAuthSeq

/-- The entry after `issue_auth`. -/
def authIssued (env : AuthEnv) (f : RxFrame) (pstat : Sta) : Sta :=
  { pstat with
    authSeq := if pstat.state.authSuccess || pstat.state.assocSuccess then 0
      else authSeqNum env f + 1 }

namespace StaPriv

/-- The station that the frame is from: the one in the table, unlinked from `asoc_list`, or a
new one. -/
def authStation (s : StaPriv) (sa : MacAddr) : StaPriv × Option (Fin numSta) :=
  match s.getStainfo sa with
  | none =>
      match s.allocStainfo sa with
      | (s, none) => (s, none)
      | (s, some pstat) =>
          (s.modify pstat (·.startAuth), some pstat)
  | some pstat => (if (s.sta pstat).mfpKeyed then s else s.asocUnlink pstat, some pstat)

/-- `auth_fail` with a station. -/
def authFail (s : StaPriv) (cfg : ApConfig) (pstat : Fin numSta) (status : ℕ) :
    StaPriv × AuthOutcome :=
  (s.freeStainfo cfg pstat, .answered status)

/-- The station is put in `auth_list`, unless it has protected management frames and a key. -/
def authListed (s : StaPriv) (pstat : Fin numSta) : StaPriv :=
  if (s.sta pstat).mfpKeyed then s else s.authLink pstat

/-- `OnAuth` once the station is known. -/
def onAuthStation (s : StaPriv) (cfg : ApConfig) (env : AuthEnv) (f : RxFrame)
    (pstat : Fin numSta) : StaPriv × AuthOutcome :=
  let s := s.authListed pstat
  if authReported cfg (authAlgorithm env f) then
    (s.modify pstat fun sta => sta.setAuthalg (authAlgorithm env f), .reported)
  else
    match authExchange cfg env f (s.sta pstat) with
    | .error status => s.authFail cfg pstat status
    | .ok sta => (s.modify pstat fun _ => authIssued env f sta, .answered 0)

/-- The checks of `OnAuth` before the station is looked up: the status of a failure. -/
def authRefused (s : StaPriv) (cfg : ApConfig) (env : AuthEnv) (f : RxFrame) : Option ℕ :=
  if env.rtwDefsAttackChk ∧
      ∀ psta ∈ s.getStainfo f.sa, (s.sta psta).state.assocSuccess = false then
    some statsRefusedTemporarily
  else if env.forceAuthFail ≠ 0 then some env.forceAuthFail
  else if badAlgorithm (authMode cfg (authAlgorithm env f)) (authAlgorithm env f) then
    some statsNoSuppAlg
  else if cfg.accessCtrl f.sa = false then some statsUnableHandleSta
  else none

/-- `OnAuth`, in a build without mesh. -/
def onAuth (s : StaPriv) (cfg : ApConfig) (env : AuthEnv) (f : RxFrame) :
    StaPriv × AuthOutcome :=
  if cfg.apState = false ∨ cfg.mlmeIsAsoc = false then (s, .notHandled)
  else if rtwCheckInvalidMacAddress f.sa false then (s, .notHandled)
  else
    match s.authRefused cfg env f with
    | some status => (s, .answered status)
    | none =>
        match s.authStation f.sa with
        | (s, none) => (s, .answered statsUnableHandleSta)
        | (s, some pstat) => s.onAuthStation cfg env f pstat

end StaPriv

/-! ### A station with a key -/

/-- The frame does not get to the station: it is not handled, or refused before the station
is looked up. -/
def StaPriv.AuthStopped (s : StaPriv) (cfg : ApConfig) (env : AuthEnv) (f : RxFrame) : Prop :=
  cfg.apState = false ∨ cfg.mlmeIsAsoc = false ∨ rtwCheckInvalidMacAddress f.sa false = true ∨
    s.authRefused cfg env f ≠ none

/-- The next number of the sequence, and one that the algorithm has, with the challenge that
was sent. -/
def AuthInSequence (cfg : ApConfig) (env : AuthEnv) (f : RxFrame) (pstat : Sta) : Prop :=
  authSeqNum env f = pstat.authSeq + 1 ∧
    (authSeqNum env f = 1 ∨
      authSeqNum env f = 3 ∧
        openSystem (authMode cfg (authAlgorithm env f)) (authAlgorithm env f) = false ∧
        challengeOk env f pstat.chgTxt = true)

/-- The frame does not get to the station, goes up, or is the next of its sequence. -/
def StaPriv.AuthPasses (s : StaPriv) (cfg : ApConfig) (env : AuthEnv) (f : RxFrame)
    (pstat : Sta) : Prop :=
  s.AuthStopped cfg env f ∨ authReported cfg (authAlgorithm env f) = true ∨
    AuthInSequence cfg env f pstat

instance (s : StaPriv) (cfg : ApConfig) (env : AuthEnv) (f : RxFrame) :
    Decidable (s.AuthStopped cfg env f) := by
  unfold StaPriv.AuthStopped
  infer_instance

instance (cfg : ApConfig) (env : AuthEnv) (f : RxFrame) (pstat : Sta) :
    Decidable (AuthInSequence cfg env f pstat) := by
  unfold AuthInSequence
  infer_instance

instance (s : StaPriv) (cfg : ApConfig) (env : AuthEnv) (f : RxFrame) (pstat : Sta) :
    Decidable (s.AuthPasses cfg env f pstat) := by
  unfold StaPriv.AuthPasses
  infer_instance

/-- The station of an address is associated, in the table and in `asoc_list`, and has its
pairwise key. -/
structure StaPriv.Associated (s : StaPriv) (hwaddr : MacAddr) (psta : Fin numSta) : Prop where
  found : s.getStainfo hwaddr = some psta
  listed : psta ∈ s.asocList
  linked : (s.sta psta).asocLinked = true
  asoc : (s.sta psta).state.asoc = true
  mfp : (s.sta psta).flags.mfp = true
  key : (s.sta psta).bpairwiseKeyInstalled = true

instance (s : StaPriv) (hwaddr : MacAddr) (psta : Fin numSta) :
    Decidable (s.Associated hwaddr psta) :=
  decidable_of_iff (s.getStainfo hwaddr = some psta ∧ psta ∈ s.asocList ∧
      (s.sta psta).asocLinked = true ∧ (s.sta psta).state.asoc = true ∧
      (s.sta psta).flags.mfp = true ∧ (s.sta psta).bpairwiseKeyInstalled = true)
    ⟨fun ⟨h₁, h₂, h₃, h₄, h₅, h₆⟩ => ⟨h₁, h₂, h₃, h₄, h₅, h₆⟩,
      fun ⟨h₁, h₂, h₃, h₄, h₅, h₆⟩ => ⟨h₁, h₂, h₃, h₄, h₅, h₆⟩⟩

end Rtl8723du
