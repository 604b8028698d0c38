import Rtl8723du.Sta.OnAuth

/-!
# Authentication frames and protected stations

Which authentication frames leave an associated station with protected management frames and
a pairwise key as it is: those that do not get to the exchange, and those that are the next
of their sequence.  Every other one ends in the failure block of `OnAuth` and frees the
station.
-/

namespace Rtl8723du

open Lib.Links

variable {s : StaPriv} {cfg : ApConfig} {env : AuthEnv} {f : RxFrame} {hwaddr : MacAddr}
  {i j : Fin numSta} {g : Sta → Sta} {pstat pstat' : Sta}

/-- Two versions of an entry that differ in the exchange at most. -/
structure SameStation (pstat pstat' : Sta) : Prop where
  macAddr : pstat'.macAddr = pstat.macAddr
  asocLinked : pstat'.asocLinked = pstat.asocLinked
  state : pstat'.state = pstat.state
  flags : pstat'.flags = pstat.flags
  key : pstat'.bpairwiseKeyInstalled = pstat.bpairwiseKeyInstalled

namespace StaPriv

@[simp] lemma modify_sta_self : (s.modify i g).sta i = g (s.sta i) := Function.update_self ..

lemma modify_sta_of_ne (h : j ≠ i) : (s.modify i g).sta j = s.sta j := Function.update_of_ne h ..

/-- An entry keeps its address, and the search its answer. -/
lemma getStainfo_modify (hg : (g (s.sta i)).macAddr = (s.sta i).macAddr) :
    (s.modify i g).getStainfo hwaddr = s.getStainfo hwaddr := by
  have hmac (j : Fin numSta) : ((s.modify i g).sta j).macAddr = (s.sta j).macAddr := by
    by_cases hji : j = i
    · subst hji
      rw [modify_sta_self, hg]
    · rw [modify_sta_of_ne hji]
  simp only [getStainfo, hmac]
  rfl

/-- A freed entry is not associated. -/
lemma freeStainfo_asoc (s : StaPriv) (cfg : ApConfig) (i : Fin numSta) :
    ((s.freeStainfo cfg i).sta i).state.asoc = false := by
  simp only [freeStainfo, enqueueFree, authUnlink, aidRelease]
  split_ifs <;> simp [withAuthList, setStaAid, timMap, Sta.setAsoc, Sta.setAuthLinked, Sta.setAid]

lemma Associated.mfpKeyed (h : s.Associated hwaddr i) : (s.sta i).mfpKeyed = true := by
  rw [Sta.mfpKeyed, h.mfp, h.key]
  rfl

lemma Associated.modify (h : s.Associated hwaddr i) (hsame : SameStation (s.sta i) (g (s.sta i))) :
    (s.modify i g).Associated hwaddr i where
  found := (getStainfo_modify hsame.macAddr).trans h.found
  listed := h.listed
  linked := by rw [modify_sta_self, hsame.asocLinked, h.linked]
  asoc := by rw [modify_sta_self, hsame.state, h.asoc]
  mfp := by rw [modify_sta_self, hsame.flags, h.mfp]
  key := by rw [modify_sta_self, hsame.key, h.key]

end StaPriv

/-! ### The exchange -/

/-- The exchange goes on exactly if the frame is the next of its sequence. -/
lemma authExchange_eq_ok_iff : (∃ sta, authExchange cfg env f pstat = .ok sta) ↔
    AuthInSequence cfg env f pstat := by
  unfold authExchange AuthInSequence
  by_cases hseq : pstat.authSeq + 1 = authSeqNum env f
  · rw [if_neg (not_not.2 hseq)]
    by_cases hone : authSeqNum env f = 1
    · have hnext : authSeqNum env f = pstat.authSeq + 1 := hseq.symm
      refine iff_of_true ?_ ⟨hnext, Or.inl hone⟩
      split <;> simp
    · by_cases hopen : openSystem (authMode cfg (authAlgorithm env f)) (authAlgorithm env f) = true
      · simp [hopen, hone]
      · rw [Bool.not_eq_true] at hopen
        by_cases hthree : authSeqNum env f = 3
        · cases hchg : challengeOk env f pstat.chgTxt
          · simp [hopen, hthree]
          · have hnext : 3 = pstat.authSeq + 1 := by rw [hseq, hthree]
            simp [hopen, hthree, ← hnext]
        · simp [hopen, hone, hthree]
  · rw [if_pos hseq]
    simp [Ne.symm hseq]

lemma authExchange_sameStation (hkeyed : pstat.mfpKeyed = true)
    (h : authExchange cfg env f pstat = .ok pstat') : SameStation pstat pstat' := by
  simp only [authExchange, hkeyed, if_true] at h
  split_ifs at h <;> cases h <;> exact ⟨rfl, rfl, rfl, rfl, rfl⟩

namespace StaPriv

/-- With the station known, it stays exactly if the frame goes up or is in sequence. -/
lemma Associated.onAuthStation_iff (h : s.Associated hwaddr i) :
    (s.onAuthStation cfg env f i).1.Associated hwaddr i ↔
      authReported cfg (authAlgorithm env f) = true ∨ AuthInSequence cfg env f (s.sta i) := by
  unfold onAuthStation authListed
  simp only [h.mfpKeyed, if_true]
  rw [← authExchange_eq_ok_iff]
  by_cases hrep : authReported cfg (authAlgorithm env f) = true
  · rw [if_pos hrep]
    have hsame : SameStation (s.sta i) ((s.sta i).setAuthalg (authAlgorithm env f)) :=
      ⟨rfl, rfl, rfl, rfl, rfl⟩
    have hkept : (s.modify i (·.setAuthalg (authAlgorithm env f))).Associated hwaddr i :=
      h.modify hsame
    exact iff_of_true hkept (Or.inl hrep)
  · rw [if_neg hrep]
    cases hex : authExchange cfg env f (s.sta i) with
    | error status =>
        have hfreed : ¬ (s.freeStainfo cfg i).Associated hwaddr i := fun hafter =>
          Bool.false_ne_true ((freeStainfo_asoc s cfg i).symm.trans hafter.asoc)
        exact iff_of_false hfreed (by simp [hrep])
    | ok sta =>
        have hsta := authExchange_sameStation h.mfpKeyed hex
        have hsame : SameStation (s.sta i) (authIssued env f sta) :=
          ⟨hsta.macAddr, hsta.asocLinked, hsta.state, hsta.flags, hsta.key⟩
        have hkept : (s.modify i fun _ => authIssued env f sta).Associated hwaddr i :=
          h.modify hsame
        exact iff_of_true hkept (Or.inr ⟨sta, rfl⟩)

lemma onAuth_of_stopped (hstop : s.AuthStopped cfg env f) : (s.onAuth cfg env f).1 = s := by
  unfold onAuth
  split_ifs with hoff hinvalid
  · rfl
  · rfl
  · cases hrefused : s.authRefused cfg env f with
    | some status => rfl
    | none =>
        rcases hstop with h | h | h | h
        · exact absurd (Or.inl h) hoff
        · exact absurd (Or.inr h) hoff
        · exact absurd h hinvalid
        · exact absurd hrefused h

/-- A frame that is not stopped, from a station with a key. -/
lemma onAuth_of_mfpKeyed (hgo : ¬ s.AuthStopped cfg env f)
    (hfound : s.getStainfo f.sa = some i) (hkeyed : (s.sta i).mfpKeyed = true) :
    (s.onAuth cfg env f).1 = (s.onAuthStation cfg env f i).1 := by
  simp only [AuthStopped, not_or, not_not] at hgo
  have hoff : ¬ (cfg.apState = false ∨ cfg.mlmeIsAsoc = false) := by tauto
  have hstation : s.authStation f.sa = (s, some i) := by
    simp [authStation, hfound, hkeyed]
  rw [onAuth, if_neg hoff, if_neg hgo.2.2.1, hgo.2.2.2]
  simp only [hstation]

/-- A station that is associated with protected management frames and a pairwise key outlives
an authentication frame in its name exactly if the frame does not get to the exchange, goes
up to be handled there, or is the next frame of its sequence. -/
theorem onAuth_associated_iff (h : s.Associated f.sa i) :
    (s.onAuth cfg env f).1.Associated f.sa i ↔ s.AuthPasses cfg env f (s.sta i) := by
  by_cases hstop : s.AuthStopped cfg env f
  · rw [onAuth_of_stopped hstop]
    exact iff_of_true h (Or.inl hstop)
  · rw [onAuth_of_mfpKeyed hstop h.found h.mfpKeyed, h.onAuthStation_iff]
    exact (or_iff_right hstop).symm

/-! ### One station -/

/-- The address of the station. -/
def peerMac : MacAddr := MacAddr.ofBytes 0x00 0x11 0x22 0x33 0x44 0x55

/-- A network with 802.11g and 802.11n stations, in the 2.4 GHz band. -/
def htBss : BssConfig where
  bstartBss := true
  above11b := true
  htSupported := true
  htCap := true
  supWidth := false
  erpEnable := true
  htInfoEnable := true
  curChannel := 6
  width40 := false
  offsetLower := false
  olbc := false
  olbcHt := false
  ht20mhzWidthReq := false
  htIntolerantChReported := false

/-- An access point with WPA2 or WPA3. -/
def wpaConfig : ApConfig where
  bss := htBss
  apState := true
  maxAid := 32
  maxNumSta := 32
  rrAid := false
  mlmeIsAsoc := true
  dot11AuthAlgrthm := 2
  dot11PrivacyAlgrthm := .aes
  accessCtrl := fun _ => true
  reportAuth := true

/-- A table with the station, associated and with its key. -/
def onePeer : StaPriv :=
  (((init.allocStainfo peerMac).1.modify 0 fun sta =>
    { sta with
      state := { asoc := true, assocSuccess := true }
      flags := { mfp := true }
      bpairwiseKeyInstalled := true }).asocLink 0)

/-- An authentication frame in the name of the station. -/
def peerAuth (algorithm seq : UInt8) : RxFrame where
  rxData := [0xb0, 0, 0, 0] ++ List.replicate 6 0x02 ++ peerMac.toList ++ List.replicate 6 0x02 ++
    [0, 0] ++ [algorithm, 0, seq, 0, 0, 0]
  len := 30
  len_le := by simp

/-- No decryption, and nothing out of the ordinary. -/
def quietEnv : AuthEnv where
  rtwWepDecrypt := id
  rtwDefsAttackChk := false
  forceAuthFail := 0

/-- A first frame leaves the station alone, and one with the number 2 does not. -/
theorem onAuth_associated_iff_of_onePeer : onePeer.Associated peerMac 0 ∧
    (onePeer.onAuth wpaConfig quietEnv (peerAuth 0 1)).1.Associated peerMac 0 ∧
    ¬ (onePeer.onAuth wpaConfig quietEnv (peerAuth 0 2)).1.Associated peerMac 0 :=
  have h : onePeer.Associated peerMac 0 := by decide +kernel
  have hfirst : (peerAuth 0 1).sa = peerMac := by decide +kernel
  have hsecond : (peerAuth 0 2).sa = peerMac := by decide +kernel
  ⟨h, hfirst ▸ (onAuth_associated_iff (hfirst ▸ h)).2 (by decide +kernel),
    hsecond ▸ fun hafter => (by decide +kernel :
      ¬ onePeer.AuthPasses wpaConfig quietEnv (peerAuth 0 2) (onePeer.sta 0))
      ((onAuth_associated_iff (hsecond ▸ h)).1 hafter)⟩

/-- An open system frame with the number 2, unprotected, frees the station. -/
theorem onAuth_frees_associated : ¬ ∀ (s : StaPriv) (cfg : ApConfig) (env : AuthEnv)
    (f : RxFrame) (i : Fin numSta), getPrivacy f.rxData = false → s.Associated f.sa i →
      (s.onAuth cfg env f).1.Associated f.sa i := by
  intro h
  have hkept := h onePeer wpaConfig quietEnv (peerAuth 0 2) 0 (by decide +kernel)
    (by decide +kernel)
  exact absurd hkept (by decide +kernel)

end StaPriv

end Rtl8723du
