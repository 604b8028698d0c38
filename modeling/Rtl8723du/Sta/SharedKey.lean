import Rtl8723du.Crypto.Integrity
import Rtl8723du.Sta.AuthAccess

/-!
# Shared key authentication

An access point for shared key authentication should set `WIFI_FW_AUTH_SUCCESS` for a station only
on a protected frame with the number 3, with a valid ICV and the challenge that was sent.  `OnAuth`
looks at the number and at the text alone: not at the Protected bit, the ICV, the length of the
element or the length of the frame.  `AuthStepOk` is what a frame must be like, and
`authSafe_iff` says that the authentication is safe in the runs in which every frame is.
-/

namespace Rtl8723du

open Lib Lib.Bytes Lib.Links Crypto StaPriv

/-! ### WEP in `OnAuth` -/

/-- The frame as `OnAuth` hands it to `rtw_wep_decrypt`. -/
def authRecvFrame (rxData : List UInt8) : RecvFrame :=
  RecvFrame.setKeyIndex
    { attrib := { encrypt := .wep40, hdrlen := wlanHdrA3Len, ivLen := 4, icvLen := 4 }, rxData }

/-- `rtw_wep_decrypt` on a frame in its buffer.  What it makes of a frame that ends in the IV is
not modelled. -/
def authDecrypt (crypto : SwCrypto) (len : ℕ) (buf : List UInt8) : List UInt8 :=
  match rtwWepDecrypt crypto (authRecvFrame (buf.take len)) with
  | .ok f => f.rxData ++ buf.drop len
  | .error _ => buf

/-- The event with the decryption of the driver. -/
def StaEvent.withWep (crypto : SwCrypto) : StaEvent → StaEvent
  | .auth env f => .auth { env with rtwWepDecrypt := authDecrypt crypto f.len } f
  | e => e

/-! ### The property -/

variable (cfg : ApConfig) (s : StaPriv) (env : AuthEnv) (f : RxFrame)

/-- The station of the frame gets `WIFI_FW_AUTH_SUCCESS`. -/
def ChallengeTaken : Prop :=
  ¬ s.AuthStopped cfg env f ∧ ∃ i ∈ s.getStainfo f.sa, (s.sta i).authSeq = 2 ∧
    authSeqNum env f = 3 ∧ (s.sta i).mfpKeyed = false ∧
    challengeOk env f (s.sta i).chgTxt = true

instance : Decidable (ChallengeTaken cfg s env f) := by
  unfold ChallengeTaken
  infer_instance

/-- The decrypted frame has a valid ICV. -/
def AuthIcvOk : Prop :=
  IcvVerified (((authBody env f).1.take f.len).drop (wlanHdrA3Len + 4))

/-- The challenge element is complete, in front of the ICV. -/
def ChallengeComplete : Prop :=
  ∃ p, rtwGetIe (authIes env f) 16 (authIesLen f) = some (p, 128) ∧
    (p + 2 + 128 + 4 : ℤ) ≤ authIesLen f

/-- The text of the challenge element. -/
def challengeText : List UInt8 :=
  match rtwGetIe (authIes env f) 16 (authIesLen f) with
  | none => []
  | some (p, ieLen) => (List.range ieLen).map fun k => (authIes env f).getD (p + 2 + k) 0

/-- The challenge that `issue_auth` puts in the answer. -/
def issueAuthChallenge (psta : Sta) : Option (List UInt8) :=
  if psta.authSeq = 2 ∧ psta.state.authState = true ∧ psta.authalg ≠ 0 then some psta.chgTxt
  else none

variable (crypto : SwCrypto)

/-- A step of the access point, with the decryption of the driver. -/
def wepStep (s : ApState) (e : StaEvent) : ApState × List StaOut := s.step cfg (e.withWep crypto)

/-- A frame of the run, with the number 1 and from the address, was answered with a challenge. -/
def ChallengeSent (s₀ : ApState) (es : List StaEvent) (sa : MacAddr) (txt : List UInt8) : Prop :=
  ∃ pre env f post i, es = pre ++ .auth env f :: post ∧ f.sa = sa ∧
    authSeqNum { env with rtwWepDecrypt := authDecrypt crypto f.len } f = 1 ∧
    ((Machine.final (wepStep cfg crypto) s₀ pre).stapriv.onAuth cfg
      { env with rtwWepDecrypt := authDecrypt crypto f.len } f).2 = .answered 0 ∧
    let psta := (Machine.final (wepStep cfg crypto) s₀ (pre ++ [.auth env f])).stapriv.sta i
    psta.macAddr = sa ∧ issueAuthChallenge psta = some txt

/-- What an event that sets `WIFI_FW_AUTH_SUCCESS` of an entry must be, after the events so far. -/
def AuthGranted (s₀ : ApState) (es : List StaEvent) (i : Fin numSta) : StaEvent → Prop
  | .auth env f =>
      let env := { env with rtwWepDecrypt := authDecrypt crypto f.len }
      f.sa = ((Machine.final (wepStep cfg crypto) s₀ es).stapriv.sta i).macAddr ∧
        authSeqNum env f = 3 ∧ getPrivacy f.rxData = true ∧ AuthIcvOk env f ∧
        ChallengeComplete env f ∧ ChallengeSent cfg crypto s₀ es f.sa (challengeText env f)
  | _ => False

/-- The event after the events so far reads inside its frame, and sets `WIFI_FW_AUTH_SUCCESS` only
as the third frame of shared key authentication. -/
def AuthSafe (s₀ : ApState) (es : List StaEvent) (e : StaEvent) : Prop :=
  let s := Machine.final (wepStep cfg crypto) s₀ es
  (∀ env f, e.withWep crypto = .auth env f →
      s.stapriv.onAuthIn cfg env f.alone = some (s.stapriv.onAuth cfg env f)) ∧
    ∀ i, (s.stapriv.sta i).state.authSuccess = false →
      ((wepStep cfg crypto s e).1.stapriv.sta i).state.authSuccess = true →
        AuthGranted cfg crypto s₀ es i e

/-- The condition on an event: an authentication frame has the bytes that are read, and one whose
challenge is taken is protected, with a valid ICV and a complete challenge element. -/
def AuthStepOk (s : ApState) (e : StaEvent) : Prop :=
  ∀ env f, e.withWep crypto = .auth env f →
    authBytes cfg s.stapriv env f ≤ f.len ∧
      (ChallengeTaken cfg s.stapriv env f →
        getPrivacy f.rxData = true ∧ AuthIcvOk env f ∧ ChallengeComplete env f)

/-! ### What `OnAuth` does -/

/-- The entry after the first frame of shared key authentication. -/
def authFirst (env : AuthEnv) (f : RxFrame) (pstat : Sta) : Sta :=
  authIssued env f { pstat with
    chgTxt := List.replicate 128 78
    state :=
      if pstat.mfpKeyed then pstat.state
      else { pstat.state with authNull := false, authState := true }
    authalg := authAlgorithm env f
    authSeq := 2 }

/-- The entry after the third frame. -/
def authThird (env : AuthEnv) (f : RxFrame) (pstat : Sta) : Sta :=
  authIssued env f { pstat with
    state :=
      if pstat.mfpKeyed then pstat.state
      else { pstat.state with authState := false, authSuccess := true } }

variable {cfg s env f crypto} {i : Fin numSta} {s₀ : ApState} {es : List StaEvent}

/-- For shared key authentication the exchange answers the first frame and the third one with
the challenge. -/
lemma authExchange_cases (hopen : openSystem (authMode cfg (authAlgorithm env f))
    (authAlgorithm env f) = false) (pstat : Sta) :
    (∃ status, authExchange cfg env f pstat = .error status) ∨
      (pstat.authSeq = 0 ∧ authSeqNum env f = 1 ∧ ∃ sta, authExchange cfg env f pstat = .ok sta ∧
        authIssued env f sta = authFirst env f pstat) ∨
      (pstat.authSeq = 2 ∧ authSeqNum env f = 3 ∧ challengeOk env f pstat.chgTxt = true ∧
        ∃ sta, authExchange cfg env f pstat = .ok sta ∧
          authIssued env f sta = authThird env f pstat) := by
  simp only [authExchange, hopen, Bool.false_eq_true, if_false]
  by_cases hseq : pstat.authSeq + 1 = authSeqNum env f
  swap
  · exact .inl ⟨_, if_pos hseq⟩
  rw [if_neg (not_not.2 hseq)]
  by_cases h1 : authSeqNum env f = 1
  · exact .inr (.inl ⟨by omega, h1, _, if_pos h1, rfl⟩)
  rw [if_neg h1]
  by_cases h3 : authSeqNum env f = 3
  swap
  · exact .inl ⟨_, if_neg h3⟩
  rw [if_pos h3]
  by_cases hok : challengeOk env f pstat.chgTxt = true
  · exact .inr (.inr ⟨by omega, h3, hok, _, if_pos hok, rfl⟩)
  · exact .inl ⟨_, if_neg hok⟩

/-- The ways an authentication frame can go, by what becomes of the entries. -/
inductive AuthMove (cfg : ApConfig) (s : StaPriv) (env : AuthEnv) (f : RxFrame) : Prop
  | quiet (h : AuthQuiet s (s.onAuth cfg env f).1) (hno : ¬ ChallengeTaken cfg s env f)
  | first (i : Fin numSta) (x : Sta) (hseq : authSeqNum env f = 1) (halg : authAlgorithm env f ≠ 0)
      (hother : ∀ j ≠ i, (s.sta j).AuthKept ((s.onAuth cfg env f).1.sta j))
      (hx : (s.sta i).AuthKept x) (hmac : x.macAddr = f.sa)
      (hout : (s.onAuth cfg env f).2 = .answered 0)
      (hentry : (s.onAuth cfg env f).1.sta i = authFirst env f x)
  | third (i : Fin numSta) (x : Sta) (hgo : ¬ s.AuthStopped cfg env f)
      (hfound : s.getStainfo f.sa = some i) (hauthSeq : (s.sta i).authSeq = 2)
      (hseq : authSeqNum env f = 3) (hok : challengeOk env f (s.sta i).chgTxt = true)
      (hother : ∀ j ≠ i, (s.sta j).AuthKept ((s.onAuth cfg env f).1.sta j))
      (hx : (s.sta i).SameAuth x) (hx' : x.SameAuth (s.sta i)) (hmac : x.macAddr = f.sa)
      (hentry : (s.onAuth cfg env f).1.sta i = authThird env f x)

/-- The exchange with a station. -/
lemma onAuthStation_move (t : StaPriv) (hrep : authReported cfg (authAlgorithm env f) = false)
    (hopen : openSystem (authMode cfg (authAlgorithm env f)) (authAlgorithm env f) = false)
    (i : Fin numSta) :
    (AuthQuiet t (t.onAuthStation cfg env f i).1 ∧
        ¬ ((t.sta i).authSeq = 2 ∧ authSeqNum env f = 3 ∧
          challengeOk env f (t.sta i).chgTxt = true)) ∨
      ∃ x, (t.sta i).SameAuth x ∧ x.SameAuth (t.sta i) ∧
        (t.onAuthStation cfg env f i).2 = .answered 0 ∧
        (∀ j ≠ i, (t.sta j).AuthKept ((t.onAuthStation cfg env f i).1.sta j)) ∧
        ((authSeqNum env f = 1 ∧
            (t.onAuthStation cfg env f i).1.sta i = authFirst env f x) ∨
          ((t.sta i).authSeq = 2 ∧ authSeqNum env f = 3 ∧
            challengeOk env f (t.sta i).chgTxt = true ∧
            (t.onAuthStation cfg env f i).1.sta i = authThird env f x)) := by
  obtain ⟨linked, hw⟩ := writes_authListed t i
  have hquiet : AuthQuiet t (t.authListed i) := hw.authQuiet (.inl ⟨rfl, rfl, rfl, id, id⟩)
  have hi : (t.authListed i).sta i = (t.sta i).setAuthLinked linked := (hw i).trans (if_pos rfl)
  have hseq : ((t.authListed i).sta i).authSeq = (t.sta i).authSeq := by rw [hi]; rfl
  have hchg : ((t.authListed i).sta i).chgTxt = (t.sta i).chgTxt := by rw [hi]; rfl
  have hrep' : ¬ authReported cfg (authAlgorithm env f) = true := by
    rw [hrep]
    exact Bool.false_ne_true
  -- the entry is written when the exchange goes on
  have hwritten {sta x : Sta}
      (hex : authExchange cfg env f ((t.authListed i).sta i) = .ok sta)
      (hx : authIssued env f sta = x) :
      (t.onAuthStation cfg env f i).2 = .answered 0 ∧
        (∀ j ≠ i, (t.sta j).AuthKept ((t.onAuthStation cfg env f i).1.sta j)) ∧
        (t.onAuthStation cfg env f i).1.sta i = x := by
    have hres : t.onAuthStation cfg env f i =
        ((t.authListed i).modify i fun _ => authIssued env f sta, .answered 0) := by
      rw [onAuthStation, if_neg hrep', hex]
    rw [hres]
    refine ⟨rfl, fun j hj => ?_, ?_⟩
    · change (t.sta j).AuthKept (((t.authListed i).modify i fun _ => authIssued env f sta).sta j)
      rw [modify_sta_of_ne hj]
      exact hquiet j
    · change ((t.authListed i).modify i fun _ => authIssued env f sta).sta i = x
      rw [modify_sta_self]
      exact hx
  have hsame : (t.sta i).SameAuth ((t.authListed i).sta i) ∧
      ((t.authListed i).sta i).SameAuth (t.sta i) := by
    rw [hi]
    exact ⟨⟨rfl, rfl, rfl, id, id⟩, ⟨rfl, rfl, rfl, id, id⟩⟩
  rcases authExchange_cases hopen ((t.authListed i).sta i) with
    ⟨status, hex⟩ | ⟨h0, h1, sta, hex, hfirst⟩ | ⟨h2, h3, hok, sta, hex, hthird⟩
  · left
    have hres : t.onAuthStation cfg env f i = (t.authListed i).authFail cfg i status := by
      rw [onAuthStation, if_neg hrep', hex]
    refine ⟨?_, ?_⟩
    · rw [hres]
      exact hquiet.trans (authQuiet_freeStainfo _ cfg i)
    · rintro ⟨h2, h3, hok⟩
      have hgo : (∃ sta, authExchange cfg env f ((t.authListed i).sta i) = .ok sta) ↔
          AuthInSequence cfg env f ((t.authListed i).sta i) := authExchange_eq_ok_iff
      rw [hex] at hgo
      have hno := mt hgo.2 (by rintro ⟨sta, hsta⟩; exact absurd hsta (by simp))
      refine hno ⟨?_, .inr ⟨h3, hopen, ?_⟩⟩
      · rw [hseq, h2, h3]
      · rw [hchg]
        exact hok
  · right
    obtain ⟨hout, hother, hentry⟩ := hwritten hex hfirst
    exact ⟨_, hsame.1, hsame.2, hout, hother, .inl ⟨h1, hentry⟩⟩
  · right
    obtain ⟨hout, hother, hentry⟩ := hwritten hex hthird
    rw [hseq] at h2
    rw [hchg] at hok
    exact ⟨_, hsame.1, hsame.2, hout, hother, .inr ⟨h2, h3, hok, hentry⟩⟩

/-- The address of the entry that is found. -/
lemma macAddr_of_go (hgo : ¬ s.AuthStopped cfg env f) (hfound : s.getStainfo f.sa = some i) :
    (s.sta i).macAddr = f.sa := by
  refine macAddr_of_getStainfo ?_ hfound
  simp only [AuthStopped, not_or] at hgo
  have hmac := hgo.2.2.1
  rw [rtwCheckInvalidMacAddress] at hmac
  rw [isMcast]
  simp only [Bool.or_eq_true, not_or, Bool.not_eq_true] at hmac
  exact hmac.1.2

lemma onAuth_move (hshared : cfg.dot11AuthAlgrthm = 1) (s : StaPriv) (env : AuthEnv) (f : RxFrame) :
    AuthMove cfg s env f := by
  by_cases hgo : s.AuthStopped cfg env f
  · refine .quiet ?_ fun h => h.1 hgo
    rw [onAuth_of_stopped hgo]
    exact .refl s
  obtain ⟨halg, hrep, hopen⟩ := shared_of_go hshared hgo
  have honAuth := onAuth_of_go hgo
  cases hst : s.authStation f.sa with
  | mk t pstat =>
  rw [hst] at honAuth
  cases pstat with
  | none =>
      -- only a station that is not found can fail to be allocated
      have hnone : s.getStainfo f.sa = none ∧ AuthQuiet s t := by
        rw [authStation] at hst
        cases hfound : s.getStainfo f.sa with
        | some k => simp [hfound] at hst
        | none =>
            have halloc := authQuiet_allocStainfo s f.sa
            cases hal : s.allocStainfo f.sa with
            | mk t' k =>
                rw [hal] at halloc
                cases k with
                | none =>
                    simp only [hfound, hal, Prod.mk.injEq, and_true] at hst
                    exact ⟨rfl, hst ▸ halloc⟩
                | some k => simp [hfound, hal] at hst
      refine .quiet (by rw [honAuth]; exact hnone.2) ?_
      rintro ⟨-, i, hi, -⟩
      rw [hnone.1] at hi
      exact absurd hi (by simp)
  | some i =>
      rcases authStation_cases hst with ⟨hnone, s₁, halloc, rfl⟩ | ⟨hfound, ht⟩
      · -- a new station has not begun
        have hquiet₁ : AuthQuiet s s₁ := by
          have h := authQuiet_allocStainfo s f.sa
          rw [halloc] at h
          exact h
        have hquiet : AuthQuiet s (s₁.modify i (·.startAuth)) :=
          hquiet₁.trans ((writes_modify s₁ i (·.startAuth)).authQuiet (.inr ⟨rfl, rfl⟩))
        have hsta : (s₁.modify i (·.startAuth)).sta i =
            (({ macAddr := f.sa } : Sta)).startAuth := by
          rw [modify_sta_self, (allocStainfo_some halloc).2.1]
        rcases onAuthStation_move (s₁.modify i (·.startAuth)) hrep hopen i with
          ⟨hq, -⟩ | ⟨x, hx, -, hout, hother, ⟨h1, hfirst⟩ | ⟨h2, -⟩⟩
        · refine .quiet (by rw [honAuth]; exact hquiet.trans hq) ?_
          rintro ⟨-, k, hk, -⟩
          rw [hnone] at hk
          exact absurd hk (by simp)
        · refine .first i x h1 halg ?_ ((hquiet i).trans (.inl hx)) ?_ (by rw [honAuth]; exact hout)
            (by rw [honAuth]; exact hfirst)
          · intro j hj
            rw [honAuth]
            exact (hquiet j).trans (hother j hj)
          · rw [hx.macAddr, hsta]
            rfl
        · rw [hsta] at h2
          exact absurd (show 0 = 2 from h2) (by decide)
      · have hmac := macAddr_of_go hgo hfound
        have hsame : ∀ j, (s.sta j).SameAuth (t.sta j) ∧ (t.sta j).SameAuth (s.sta j) := by
          intro j
          rw [ht]
          split
          · exact ⟨.refl _, .refl _⟩
          · rw [writes_asocUnlink s i j]
            split
            · next hji =>
                rw [hji]
                exact ⟨⟨rfl, rfl, rfl, id, id⟩, ⟨rfl, rfl, rfl, id, id⟩⟩
            · exact ⟨.refl _, .refl _⟩
        have hquiet : AuthQuiet s t := fun j => .inl (hsame j).1
        rcases onAuthStation_move t hrep hopen i with
          ⟨hq, hno⟩ | ⟨x, hx, hx', hout, hother, ⟨h1, hfirst⟩ | ⟨h2, h3, hok, hthird⟩⟩
        · refine .quiet (by rw [honAuth]; exact hquiet.trans hq) ?_
          rintro ⟨-, k, hk, h2, h3, -, hok⟩
          obtain rfl := Option.some.inj (hfound.symm.trans hk)
          refine hno ⟨(hsame i).1.authSeq.trans h2, h3, ?_⟩
          rw [(hsame i).1.chgTxt]
          exact hok
        · refine .first i x h1 halg ?_ ((hquiet i).trans (.inl hx)) ?_ (by rw [honAuth]; exact hout)
            (by rw [honAuth]; exact hfirst)
          · intro j hj
            rw [honAuth]
            exact (hquiet j).trans (hother j hj)
          · rw [hx.macAddr, (hsame i).1.macAddr, hmac]
        · refine .third i x hgo hfound ?_ h3 ?_ ?_ ((hsame i).1.trans hx) (hx'.trans (hsame i).2) ?_
            (by rw [honAuth]; exact hthird)
          · rw [← (hsame i).1.authSeq, h2]
          · rw [← (hsame i).1.chgTxt]
            exact hok
          · intro j hj
            rw [honAuth]
            exact (hquiet j).trans (hother j hj)
          · rw [hx.macAddr, (hsame i).1.macAddr, hmac]

/-! ### Runs -/

/-- A station with `WIFI_FW_AUTH_SUCCESS` is at the start of the sequence, and one that is to send
the third frame has got its challenge. -/
structure AuthInv (cfg : ApConfig) (crypto : SwCrypto) (s₀ : ApState) (es : List StaEvent)
    (i : Fin numSta) (x : Sta) : Prop where
  done : x.state.authSuccess = true → x.authSeq = 0
  sent : x.authSeq = 2 → x.mfpKeyed = false → ChallengeSent cfg crypto s₀ es x.macAddr x.chgTxt

lemma ChallengeSent.concat {sa : MacAddr} {txt : List UInt8}
    (h : ChallengeSent cfg crypto s₀ es sa txt) (e : StaEvent) :
    ChallengeSent cfg crypto s₀ (es ++ [e]) sa txt := by
  obtain ⟨pre, env, f, post, i, rfl, h⟩ := h
  exact ⟨pre, env, f, post ++ [e], i, by simp, h⟩

lemma AuthInv.kept {x y : Sta} (h : AuthInv cfg crypto s₀ es i x) (hxy : x.AuthKept y)
    (e : StaEvent) : AuthInv cfg crypto s₀ (es ++ [e]) i y := by
  rcases hxy with hsame | hfresh
  · refine ⟨fun hy => hsame.authSeq.trans (h.done (hsame.success hy)), fun hseq hkeyed => ?_⟩
    rw [hsame.macAddr, hsame.chgTxt]
    refine (h.sent (hsame.authSeq.symm.trans hseq) ?_).concat e
    rw [← Bool.not_eq_true]
    intro hx
    exact absurd (hkeyed.symm.trans (hsame.keyed hx)) Bool.false_ne_true
  · refine ⟨fun _ => hfresh.1, fun hseq => ?_⟩
    exact absurd (hfresh.1.symm.trans hseq) (by decide)

/-- No entry that is kept gets `WIFI_FW_AUTH_SUCCESS`. -/
lemma Sta.AuthKept.success {x y : Sta} (h : x.AuthKept y) (hy : y.state.authSuccess = true) :
    x.state.authSuccess = true := by
  rcases h with hsame | hfresh
  · exact hsame.success hy
  · exact absurd (hfresh.2.symm.trans hy) Bool.false_ne_true

/-- The sequence starts again with `WIFI_FW_AUTH_SUCCESS`. -/
lemma authIssued_done {x : Sta} (h : (authIssued env f x).state.authSuccess = true) :
    (authIssued env f x).authSeq = 0 := by
  have hx : x.state.authSuccess = true := h
  simp only [authIssued, hx, Bool.true_or, if_true]

lemma authSuccess_of_authFirst {x : Sta} (h : (authFirst env f x).state.authSuccess = true) :
    x.state.authSuccess = true := by
  have hstate : (authFirst env f x).state =
      if x.mfpKeyed then x.state else { x.state with authNull := false, authState := true } := rfl
  rw [hstate] at h
  split at h <;> exact h

/-- The answer to the first frame has the challenge, unless the station has MFP and a key. -/
lemma issueAuthChallenge_authFirst {x : Sta} (halg : authAlgorithm env f ≠ 0)
    (hseq : (authFirst env f x).authSeq = 2) (hkeyed : (authFirst env f x).mfpKeyed = false) :
    issueAuthChallenge (authFirst env f x) = some (authFirst env f x).chgTxt := by
  have hx : x.mfpKeyed = false := hkeyed
  refine if_pos ⟨hseq, ?_, halg⟩
  change (if x.mfpKeyed = true then x.state
    else { x.state with authNull := false, authState := true }).authState = true
  rw [hx]
  rfl

lemma authThird_authSeq {x : Sta} (hseq : authSeqNum env f = 3) :
    (authThird env f x).authSeq ≠ 2 := by
  have hcases : ∀ done : Bool, (if done = true then 0 else authSeqNum env f + 1) ≠ 2 := by
    rw [hseq]
    decide
  exact hcases _

/-- Without MFP and a key the third frame sets `WIFI_FW_AUTH_SUCCESS`. -/
lemma authSuccess_authThird {x : Sta} :
    (authThird env f x).state.authSuccess = true ↔
      x.mfpKeyed = false ∨ x.state.authSuccess = true := by
  have hstate : (authThird env f x).state =
      if x.mfpKeyed then x.state
      else { x.state with authState := false, authSuccess := true } := rfl
  rw [hstate]
  cases hx : x.mfpKeyed <;> simp

/-- An authentication frame as the driver gets it. -/
def wepEnv (crypto : SwCrypto) (env : AuthEnv) (f : RxFrame) : AuthEnv :=
  { env with rtwWepDecrypt := authDecrypt crypto f.len }

/-- `rtw_wep_decrypt` works on the frame, whatever is behind it. -/
lemma decryptsInside_wepEnv (crypto : SwCrypto) (env : AuthEnv) (f : RxFrame) :
    DecryptsInside (wepEnv crypto env f) f := by
  have htake : f.alone.rxData.take f.len = f.alone.rxData :=
    List.take_of_length_le (length_alone f).le
  have hdrop : f.alone.rxData.drop f.len = [] := List.drop_of_length_le (length_alone f).le
  show ∃ rest, authDecrypt crypto f.len f.rxData = authDecrypt crypto f.len f.alone.rxData ++ rest ∧
    (authDecrypt crypto f.len f.alone.rxData).length = f.len
  rw [authDecrypt, authDecrypt, htake, hdrop, show f.rxData.take f.len = f.alone.rxData from rfl]
  by_cases hlen : wlanHdrA3Len + 4 ≤ f.len
  · have hwep : rtwWepDecrypt crypto (authRecvFrame f.alone.rxData) = .ok (setBody _ _) :=
      rtwWepDecrypt_eq crypto rfl (by rw [← length_alone f] at hlen; exact hlen)
    rw [hwep]
    refine ⟨f.rxData.drop f.len, by simp, ?_⟩
    have hfit : wlanHdrA3Len + 4 + (wepDecrypted crypto (authRecvFrame f.alone.rxData)).length =
        f.alone.rxData.length := by
      rw [wepDecrypted, length_arcfourEncrypt, List.length_drop]
      show wlanHdrA3Len + 4 + (f.alone.rxData.length - (wlanHdrA3Len + 4)) = _
      rw [length_alone]
      omega
    show (writeAt f.alone.rxData (wlanHdrA3Len + 4) _ ++ []).length = f.len
    rw [List.append_nil, length_writeAt hfit.le, length_alone]
  · -- the frame ends in front of its body
    have hwep : rtwWepDecrypt crypto (authRecvFrame f.alone.rxData) = .error .outOfFrame := by
      rw [rtwWepDecrypt, bytesAt_bodyLen_error (by
        rw [← length_alone f] at hlen
        exact Nat.lt_of_not_le hlen)]
      rcases bytesAt (authRecvFrame f.alone.rxData) _ 3 with ⟨⟨⟩⟩ | iv <;> rfl
    rw [hwep]
    exact ⟨_, rxData_eq f, length_alone f⟩

/-- The invariant holds after every run. -/
lemma authInv_final (hshared : cfg.dot11AuthAlgrthm = 1)
    (hstart : ∀ i, (s₀.stapriv.sta i).AuthFresh) (es : List StaEvent) (i : Fin numSta) :
    AuthInv cfg crypto s₀ es i ((Machine.final (wepStep cfg crypto) s₀ es).stapriv.sta i) := by
  induction es using List.reverseRecOn generalizing i with
  | nil =>
      refine ⟨fun _ => (hstart i).1, fun hseq => ?_⟩
      exact absurd ((hstart i).1.symm.trans hseq) (by decide)
  | append_singleton es e ih =>
      rw [Machine.final_concat]
      set s := Machine.final (wepStep cfg crypto) s₀ es with hs
      by_cases he : ∃ env f, e = .auth env f
      swap
      · refine (ih i).kept (ApState.authQuiet_step cfg s (e := e.withWep crypto) ?_ i) e
        rintro env f hauth
        cases e <;> simp_all [StaEvent.withWep]
      obtain ⟨env, f, rfl⟩ := he
      change AuthInv cfg crypto s₀ (es ++ [.auth env f]) i
        ((s.stapriv.onAuth cfg (wepEnv crypto env f) f).1.sta i)
      rcases onAuth_move hshared s.stapriv (wepEnv crypto env f) f with
        ⟨hquiet, -⟩ | ⟨k, x, hseq, halg, hother, hx, hmac, hout, hentry⟩ |
        ⟨k, x, -, -, -, hseq, -, hother, -, -, -, hentry⟩
      · exact (ih i).kept (hquiet i) _
      · by_cases hik : i = k
        swap
        · exact (ih i).kept (hother i hik) _
        subst hik
        rw [hentry]
        refine ⟨authIssued_done, fun h2 hkeyed => ?_⟩
        refine ⟨es, env, f, [], i, rfl, hmac.symm, hseq, hout, ?_⟩
        rw [Machine.final_concat, ← hs]
        change ((s.stapriv.onAuth cfg (wepEnv crypto env f) f).1.sta i).macAddr = _ ∧
          issueAuthChallenge ((s.stapriv.onAuth cfg (wepEnv crypto env f) f).1.sta i) = _
        rw [hentry]
        exact ⟨rfl, issueAuthChallenge_authFirst halg h2 hkeyed⟩
      · by_cases hik : i = k
        swap
        · exact (ih i).kept (hother i hik) _
        subst hik
        rw [hentry]
        exact ⟨authIssued_done, fun h2 => absurd h2 (authThird_authSeq hseq)⟩

/-- The text that is compared is that of a complete element. -/
lemma challengeText_of_complete {txt : List UInt8} (h : ChallengeComplete env f)
    (hok : challengeOk env f txt = true) : challengeText env f = txt := by
  obtain ⟨p, hp, -⟩ := h
  rw [challengeOk] at hok
  change (match rtwGetIe (authIes env f) 16 (authIesLen f) with
    | none => false
    | some (p, ieLen) => decide (ieLen ≠ 0) &&
        (List.range 128).map (fun k => (authIes env f).getD (p + 2 + k) 0) == txt) = true at hok
  rw [hp] at hok
  rw [challengeText, hp]
  simp only [Bool.and_eq_true, beq_iff_eq] at hok
  exact hok.2

/-- A step is safe exactly if its frame is as it should be. -/
lemma authSafe_iff_step (hshared : cfg.dot11AuthAlgrthm = 1)
    (hstart : ∀ i, (s₀.stapriv.sta i).AuthFresh) (es : List StaEvent) (e : StaEvent) :
    AuthSafe cfg crypto s₀ es e ↔
      AuthStepOk cfg crypto (Machine.final (wepStep cfg crypto) s₀ es) e := by
  have hinv : ∀ i, AuthInv cfg crypto s₀ es i
      ((Machine.final (wepStep cfg crypto) s₀ es).stapriv.sta i) :=
    authInv_final hshared hstart es
  rw [AuthSafe]
  set s := Machine.final (wepStep cfg crypto) s₀ es with hs
  by_cases he : ∃ env f, e = .auth env f
  swap
  · have hno : ∀ env f, e.withWep crypto ≠ .auth env f := by
      rintro env f hauth
      cases e <;> simp_all [StaEvent.withWep]
    refine iff_of_true ⟨fun env f h => absurd h (hno env f), ?_⟩ fun env f h => absurd h (hno env f)
    intro i hbefore hafter
    have hkept := ApState.authQuiet_step cfg s hno i
    exact absurd (hbefore.symm.trans (hkept.success hafter)) Bool.false_ne_true
  obtain ⟨env, f, rfl⟩ := he
  have hmove := onAuth_move hshared s.stapriv (wepEnv crypto env f) f
  have hreads : (∀ env' f', (StaEvent.auth env f).withWep crypto = .auth env' f' →
      s.stapriv.onAuthIn cfg env' f'.alone = some (s.stapriv.onAuth cfg env' f')) ↔
      authBytes cfg s.stapriv (wepEnv crypto env f) f ≤ f.len := by
    have hin := onAuthIn_eq (s := s.stapriv) hshared (decryptsInside_wepEnv crypto env f)
    constructor
    · intro h
      by_contra hout
      have hnone := h _ _ rfl
      change s.stapriv.onAuthIn cfg (wepEnv crypto env f) f.alone = _ at hnone
      rw [hin, if_neg hout] at hnone
      cases hnone
    · rintro h env' f' heq
      cases heq
      exact hin.trans (if_pos h)
  have hok : AuthStepOk cfg crypto s (.auth env f) ↔
      authBytes cfg s.stapriv (wepEnv crypto env f) f ≤ f.len ∧
        (ChallengeTaken cfg s.stapriv (wepEnv crypto env f) f → getPrivacy f.rxData = true ∧
          AuthIcvOk (wepEnv crypto env f) f ∧ ChallengeComplete (wepEnv crypto env f) f) := by
    constructor
    · intro h
      exact h _ _ rfl
    · rintro h env' f' heq
      cases heq
      exact h
  rw [hreads, hok]
  refine and_congr_right fun _ => ?_
  change (∀ i, (s.stapriv.sta i).state.authSuccess = false →
    ((s.stapriv.onAuth cfg (wepEnv crypto env f) f).1.sta i).state.authSuccess = true → _) ↔ _
  constructor
  · rintro hsafe ⟨hgo, i, hi, h2, h3, hkeyed, hchg⟩
    rcases hmove with ⟨-, hno⟩ | ⟨_, _, h1, -⟩ |
      ⟨k, x, -, hfound, -, -, -, -, hx, hx', -, hentry⟩
    · exact absurd ⟨hgo, i, hi, h2, h3, hkeyed, hchg⟩ hno
    · omega
    · obtain rfl := Option.some.inj (hfound.symm.trans hi)
      have hxkeyed : x.mfpKeyed = false := by
        rw [← Bool.not_eq_true]
        intro h
        exact absurd (hkeyed.symm.trans (hx'.keyed h)) Bool.false_ne_true
      have hbefore : (s.stapriv.sta k).state.authSuccess = false := by
        rw [← Bool.not_eq_true]
        intro h
        exact absurd (((hinv k).done h).symm.trans h2) (by decide)
      have hafter : ((s.stapriv.onAuth cfg (wepEnv crypto env f) f).1.sta k).state.authSuccess =
          true := by
        rw [hentry]
        exact authSuccess_authThird.2 (.inl hxkeyed)
      obtain ⟨-, -, hpriv, hicv, hcomplete, -⟩ := hsafe k hbefore hafter
      exact ⟨hpriv, hicv, hcomplete⟩
  · intro hgood i hbefore hafter
    have hnot {x : Sta} (hkept : (s.stapriv.sta i).AuthKept x)
        (hx : x.state.authSuccess = true) : False :=
      absurd (hbefore.symm.trans (hkept.success hx)) Bool.false_ne_true
    rcases hmove with ⟨hquiet, -⟩ | ⟨k, x, -, -, hother, hx, -, -, hentry⟩ |
      ⟨k, x, hgo, hfound, h2, h3, hchg, hother, hx, hx', hmac, hentry⟩
    · exact (hnot (hquiet i) hafter).elim
    · by_cases hik : i = k
      swap
      · exact (hnot (hother i hik) hafter).elim
      subst hik
      rw [hentry] at hafter
      exact (hnot hx (authSuccess_of_authFirst hafter)).elim
    · by_cases hik : i = k
      swap
      · exact (hnot (hother i hik) hafter).elim
      subst hik
      rw [hentry, authSuccess_authThird] at hafter
      have hxkeyed := hafter.resolve_right fun h => hnot (.inl hx) h
      have hkeyed : (s.stapriv.sta i).mfpKeyed = false := by
        rw [← Bool.not_eq_true]
        intro h
        exact absurd (hxkeyed.symm.trans (hx.keyed h)) Bool.false_ne_true
      obtain ⟨hpriv, hicv, hcomplete⟩ := hgood ⟨hgo, i, hfound, h2, h3, hkeyed, hchg⟩
      have hsa : f.sa = (s.stapriv.sta i).macAddr := hmac.symm.trans hx.macAddr
      refine ⟨hsa, h3, hpriv, hicv, hcomplete, ?_⟩
      have hsent := (hinv i).sent h2 hkeyed
      rw [← hsa] at hsent
      change ChallengeSent cfg crypto s₀ es f.sa (challengeText (wepEnv crypto env f) f)
      rw [challengeText_of_complete hcomplete hchg]
      exact hsent

/-- An access point for shared key authentication with WEP. -/
def sharedConfig : ApConfig :=
  { wpaConfig with dot11AuthAlgrthm := 1, dot11PrivacyAlgrthm := .wep40 }

/-- A station asks for its challenge. -/
def sharedEvents : List StaEvent := [.alloc bcAddr, .auth quietEnv (peerAuth 1 1)]

/-- A frame with the number 3 that is not protected, with the challenge four bytes behind its fixed
fields. -/
def forgedThird : RxFrame where
  rxData := (peerAuth 1 3).rxData ++ [0, 0, 0, 0] ++ [16, 128] ++ List.replicate 128 78
  len := 164
  len_le := by decide +kernel

lemma authFresh_init (i : Fin numSta) :
    ((ApState.init emptyBeacon).stapriv.sta i).AuthFresh := ⟨rfl, rfl⟩

end Rtl8723du
