import Rtl8723du.Lib.Monitor
import Rtl8723du.Survey.SiteSurvey

/-!
# On and off the operating channel

A scan leaves the operating channel, comes back to it between surveys if there are stations to
serve, and at the end.  Whatever the events are, and in whatever order, each survey and each probe
request finds the radio prepared, the scan tunes only while there is no link and the transmit queues
are paused, and the link is there again only when the scan has tuned back; the transmit path is let
on with the link only, and at the end all is as it was (`scan_offChannel`).  A remain on channel,
which tunes for itself, is none of the events.
-/

namespace Rtl8723du.Survey

open Lib Lib.Machine

/-- What the driver has last done to the radio. -/
structure Radio where
  /-- The media status says that there is no link. -/
  noLink : Bool
  /-- The receive filter is that of a site survey. -/
  sitesurvey : Bool
  /-- The transmit queues of all MAC ids are paused. -/
  asleep : Bool
  /-- The dynamic functions are those for off the channel. -/
  offFunc : Bool
  /-- The dynamic gain is off. -/
  digOff : Bool
deriving DecidableEq, Repr

namespace Radio

/-- What one operation does. -/
def watch (r : Radio) : ScanOp → Radio
  | .msrNoLink enter => { r with noLink := enter }
  | .sitesurvey val8 => { r with sitesurvey := val8 }
  | .macidSleepAllUsed => { r with asleep := true }
  | .macidWakeupAllUsed => { r with asleep := false }
  | .funcForOffchannel => { r with offFunc := true }
  | .abilityRestore => { r with offFunc := false }
  | .initialGain igi => { r with digOff := igi ≠ 255 }
  | _ => r

/-- As while the interface works. -/
def operating : Radio := ⟨false, false, false, false, false⟩

/-- The link and the receive filter are those of the operating channel. -/
def OnChannel (r : Radio) : Prop := r.noLink = false ∧ r.sitesurvey = false

/-- No link, the filter of a survey, and nothing that goes out by itself. -/
def OffChannel (r : Radio) : Prop := r.noLink = true ∧ r.sitesurvey = true ∧ r.asleep = true

/-- What must be so before an operation. -/
def Ready (r : Radio) : ScanOp → Prop
  | .survey _ _ _ | .probereq _ _ | .probereqP2p | .setChannelBwmode _ => r.OffChannel
  | .xmitSchedule => r.OnChannel
  | .surveydone _ => r = operating
  | _ => True

/-- The radio in each of the scan states. -/
def Fits (r : Radio) : ScanState → Prop
  | .disable | .start => r = operating
  | .psAnncWait | .enter | .leaveOp => r.OnChannel ∧ r.asleep = true
  | .backOp | .leavingOp => r.OnChannel
  | .process | .backingOp | .toP2pListen | .p2pListen | .complete => r.OffChannel

end Radio

/-- What the scan has tuned to last. -/
def tunedTo : Option ChSetting → ScanOp → Option ChSetting
  | _, .setChannelBwmode setting => some setting
  | last, _ => last

/-- Where the interfaces work: on the channel of those that are linked or are linking; if there are
none, on the channel that was set, or on the listen channel of one that listens for P2P. -/
def Home (s : ScanCtl) (env : ScanEnv) (setting : ChSetting) : Prop :=
  setting = env.chSettingUnion.getD env.cur ∨
    env.chSettingUnion = none ∧ s.wdinfo.p2pState = .listen ∧
      setting = .narrow s.wdinfo.listenChannel

/-- `offch_state` in each of the scan states. -/
def offchOf : ScanState → OffchState
  | .disable | .backOp => .none
  | .start | .psAnncWait | .leavingOp => .leavingOp
  | .enter | .leaveOp | .process | .toP2pListen | .p2pListen => .leaveOp
  | .backingOp | .complete => .backingOp

/-- The scan state, the one that is set next, `offch_state` and the radio belong together. -/
structure Tuned (s : ScanCtl) (r : Radio) : Prop where
  fits : r.Fits s.ss.state
  offch : s.offchState = offchOf s.ss.state
  next : s.ss.nextState = s.ss.state ∧ s.ss.state ≠ .psAnncWait ∨
    s.ss.state = .psAnncWait ∧ (s.ss.nextState = .enter ∨ s.ss.nextState = .leaveOp)

/-- The case has left something behind that sends the next command. -/
def Armed (ops : List ScanOp) : Prop :=
  (∃ ms, .surveyTimer ms ∈ ops) ∨ ∃ ms, .findPhaseTimer ms ∈ ops

variable {s : ScanCtl} {r r' : Radio} {env : ScanEnv} {parm : SitesurveyParm}

lemma Tuned.setScanState (h : Tuned s r) {state : ScanState} (hfits : r'.Fits state)
    (hoffch : sitesurveySetOffchState (offchOf s.ss.state) state = offchOf state)
    (hwait : state ≠ .psAnncWait) : Tuned (s.setScanState state) r' where
  fits := hfits
  offch := by
    change sitesurveySetOffchState s.offchState state = offchOf state
    rw [h.offch, hoffch]
  next := Or.inl ⟨rfl, hwait⟩

/-- What the radio depends on is left alone. -/
structure SameScan (s s' : ScanCtl) : Prop where
  state : s'.ss.state = s.ss.state
  nextState : s'.ss.nextState = s.ss.nextState
  offchState : s'.offchState = s.offchState
  running : s'.running = s.running

lemma Tuned.congr {s' : ScanCtl} (h : Tuned s r) (hstate : s'.ss.state = s.ss.state)
    (hnext : s'.ss.nextState = s.ss.nextState) (hoffch : s'.offchState = s.offchState) :
    Tuned s' r where
  fits := by rw [hstate]; exact h.fits
  offch := by rw [hoffch, hstate]; exact h.offch
  next := by rw [hnext, hstate]; exact h.next

lemma Tuned.same {s' : ScanCtl} (h : Tuned s r) (hsame : SameScan s s') : Tuned s' r :=
  h.congr hsame.state hsame.nextState hsame.offchState

lemma SameScan.trans {s₁ s₂ s₃ : ScanCtl} (h : SameScan s₁ s₂) (h' : SameScan s₂ s₃) :
    SameScan s₁ s₃ :=
  ⟨h'.state.trans h.state, h'.nextState.trans h.nextState, h'.offchState.trans h.offchState,
    h'.running.trans h.running⟩

lemma sameScan_scanAbortHdl (s : ScanCtl) : SameScan s (scanAbortHdl s) := by
  rw [scanAbortHdl]
  split_ifs <;> exact ⟨rfl, rfl, rfl, rfl⟩

lemma sameScan_forceBack (s : ScanCtl) : SameScan s (forceBack s) := by
  rw [forceBack]
  split_ifs <;> exact ⟨rfl, rfl, rfl, rfl⟩

lemma sameScan_forceUnlessBackop (s : ScanCtl) (backopFlags : UInt8) :
    SameScan s (forceUnlessBackop s backopFlags) := by
  rw [forceUnlessBackop]
  split_ifs
  · exact ⟨rfl, rfl, rfl, rfl⟩
  · exact sameScan_forceBack s

lemma sameScan_pickCh (s : ScanCtl) (env : ScanEnv) : SameScan s (pickCh s env).1 := by
  rw [pickCh]
  split_ifs
  · exact ⟨rfl, rfl, rfl, rfl⟩
  · exact ⟨rfl, rfl, rfl, rfl⟩
  · exact sameScan_forceUnlessBackop s _

lemma sameScan_sitesurveyPickChBehavior (s : ScanCtl) (env : ScanEnv) :
    SameScan s (sitesurveyPickChBehavior s env).1 := by
  have hpick := (sameScan_scanAbortHdl s).trans (sameScan_pickCh (scanAbortHdl s) env)
  rw [sitesurveyPickChBehavior]
  dsimp only
  split_ifs <;> first
    | exact hpick
    | exact hpick.trans ⟨rfl, rfl, rfl, rfl⟩

/-- The states that follow a pick. -/
lemma next_of_pick (s : ScanCtl) (env : ScanEnv) {state : ScanState}
    (h : (sitesurveyPickChBehavior s env).2.1 = state) :
    state = .process ∨ state = .backingOp ∨ state = .toP2pListen ∨ state = .complete := by
  subst h
  rw [sitesurveyPickChBehavior]
  dsimp only
  split_ifs <;> simp

lemma mem_surveyProbes {wifiSpec : Bool} {scanType : ScanType} {op : ScanOp}
    (h : op ∈ surveyProbes s wifiSpec scanType) :
    op = .probereqP2p ∨ ∃ ssid wps, op = .probereq ssid wps := by
  unfold surveyProbes at h
  cases scanType <;> dsimp only at h <;> split_ifs at h <;>
    simp only [List.mem_append, List.mem_flatMap, List.mem_cons, List.not_mem_nil, or_false] at h
  all_goals grind

/-- The operations find the radio ready, and leave it as `r'`. -/
def Reaches (r : Radio) (ops : List ScanOp) (r' : Radio) : Prop :=
  Accepts Radio.watch Radio.Ready r ops ∧ watched Radio.watch r ops = r'

lemma Reaches.append {r₁ r₂ r₃ : Radio} {ops ops' : List ScanOp} (h : Reaches r₁ ops r₂)
    (h' : Reaches r₂ ops' r₃) : Reaches r₁ (ops ++ ops') r₃ := by
  obtain ⟨haccepts, rfl⟩ := h
  exact ⟨accepts_append.2 ⟨haccepts, h'.1⟩, by rw [watched_append]; exact h'.2⟩

lemma reaches_nil (r : Radio) : Reaches r [] r := ⟨trivial, rfl⟩

lemma reaches_surveyTimer (r : Radio) (ms : ℕ) : Reaches r [.surveyTimer ms] r :=
  ⟨⟨trivial, trivial⟩, rfl⟩

lemma reaches_siteSurvey (hr : r.OffChannel) (wifiSpec : Bool) (pick : Pick) :
    Reaches r (siteSurvey s wifiSpec pick) r := by
  refine accepts_of_neutral fun op hop => ?_
  rw [siteSurvey, List.mem_cons, List.mem_cons] at hop
  rcases hop with rfl | rfl | hop
  · exact ⟨hr, rfl⟩
  · exact ⟨hr, rfl⟩
  · obtain rfl | ⟨ssid, wps, rfl⟩ := mem_surveyProbes hop <;> exact ⟨hr, rfl⟩

lemma reaches_rtwPsAnnc (env : ScanEnv) (ps : Bool) (r : Radio) :
    Reaches r (rtwPsAnnc env ps).2 r := by
  rw [rtwPsAnnc]
  split_ifs
  · exact ⟨⟨trivial, trivial⟩, rfl⟩
  · exact reaches_nil r

/-- The transmit queues are paused, on the operating channel still. -/
lemma reaches_pause (hr : r.OnChannel) :
    ∃ r', Reaches r [.checkTxbuf, .macidSleepAllUsed] r' ∧ r'.OnChannel ∧ r'.asleep = true :=
  ⟨_, ⟨⟨trivial, trivial, trivial⟩, rfl⟩, hr, rfl⟩

/-- What is true of one pass round the `switch`. -/
structure PassOk (s : ScanCtl) (r : Radio) (pass : Pass) : Prop where
  reaches : ∃ r', Reaches r pass.2.1 r' ∧ Tuned pass.1 r'
  again : pass.2.2 = true → pass.1.ss.state ≠ .psAnncWait
  armed : pass.2.2 = false → pass.1.ss.state = .disable ∨ Armed pass.2.1

/-! ### One pass of each case -/

lemma Tuned.waitAnnc (h : Tuned s r) {state : ScanState} (hfits : r'.OnChannel ∧ r'.asleep = true)
    (hoffch : offchOf s.ss.state = .leavingOp) (hnext : state = .enter ∨ state = .leaveOp) :
    Tuned ((s.setScanState .psAnncWait).setScanNextState state) r' where
  fits := hfits
  offch := by
    change s.offchState = .leavingOp
    rw [h.offch, hoffch]
  next := Or.inr ⟨rfl, hnext⟩

lemma ne_psAnncWait {s' : ScanCtl} {state : ScanState} (h : state ≠ .psAnncWait) :
    (s'.setScanState state).ss.state ≠ .psAnncWait := h

lemma armed_surveyTimer (ops : List ScanOp) (ms : ℕ) : Armed (ops ++ [.surveyTimer ms]) :=
  Or.inl ⟨ms, List.mem_append_right _ List.mem_cons_self⟩

lemma passOk_operateDisable (h : Tuned s r) (hstate : s.ss.state = .disable) :
    PassOk s r (operateDisable s env parm) := by
  have hr : r = .operating := by simpa [Radio.Fits, hstate] using h.fits
  have hreset : Tuned (sitesurveyResReset s env.policy parm) r := h.congr rfl rfl rfl
  have hoffch : sitesurveySetOffchState (offchOf (sitesurveyResReset s env.policy parm).ss.state)
      .start = offchOf .start := rfl
  exact ⟨⟨r, reaches_nil r, hreset.setScanState hr hoffch (by decide)⟩,
    fun _ => ne_psAnncWait (by decide), nofun⟩

lemma passOk_operateStart (h : Tuned s r) (hstate : s.ss.state = .start) :
    PassOk s r (operateStart s env) := by
  have hr : r = .operating := by simpa [Radio.Fits, hstate] using h.fits
  have hrx : Reaches r (if s.ss.rxAmpdu then [.rxAmpduApply] else []) r := by
    split_ifs
    · exact ⟨⟨trivial, trivial⟩, rfl⟩
    · exact reaches_nil r
  obtain ⟨r', hpause, hfits⟩ := reaches_pause (r := r) (by rw [hr]; exact ⟨rfl, rfl⟩)
  have hops := (hrx.append hpause).append (reaches_rtwPsAnnc env true r')
  rw [operateStart]
  by_cases hassoc : (rtwPsAnnc env true).1 = true
  · rw [if_pos hassoc]
    exact ⟨⟨r', hops.append (reaches_surveyTimer r' 50),
      h.waitAnnc hfits (by rw [hstate]; rfl) (Or.inl rfl)⟩, nofun,
      fun _ => Or.inr (armed_surveyTimer _ 50)⟩
  · rw [if_neg hassoc]
    exact ⟨⟨r', hops, h.setScanState hfits (by rw [hstate]; rfl) (by decide)⟩,
      fun _ => ne_psAnncWait (by decide), nofun⟩

lemma passOk_operateEnter (h : Tuned s r) (hstate : s.ss.state = .enter) :
    PassOk s r (operateEnter s env) := by
  have hr : r.OnChannel ∧ r.asleep = true := by simpa [Radio.Fits, hstate] using h.fits
  have hgain : Tuned { s with ss := { s.ss with igiScan := scanIgi s, igiBeforeScan := env.igi } }
      r := h.congr rfl rfl rfl
  refine ⟨⟨⟨true, true, r.asleep, true, scanIgi s ≠ 255⟩, ⟨?_, rfl⟩,
    hgain.setScanState ⟨rfl, rfl, hr.2⟩ ?_ (by decide)⟩, fun _ => ne_psAnncWait (by decide), nofun⟩
  · exact ⟨trivial, trivial, trivial, trivial, trivial, trivial⟩
  · change sitesurveySetOffchState (offchOf s.ss.state) _ = _
    rw [hstate]
    rfl

lemma passOk_operateProcess (h : Tuned s r) (hstate : s.ss.state = .process) :
    PassOk s r (operateProcess s env) := by
  have hr : r.OffChannel := by simpa [Radio.Fits, hstate] using h.fits
  have hsame := sameScan_sitesurveyPickChBehavior s env
  have hpick := h.same hsame
  have hnext := next_of_pick s env rfl
  rw [operateProcess]
  split_ifs with hleave
  · refine ⟨⟨r, reaches_nil r, hpick.setScanState ?_ ?_ ?_⟩, fun _ => ?_, nofun⟩
    · rcases hnext with heq | heq | heq | heq <;> rw [heq] <;> exact hr
    · rw [hsame.state, hstate]
      rcases hnext with heq | heq | heq | heq <;> rw [heq] <;> rfl
    · rcases hnext with heq | heq | heq | heq <;> rw [heq] <;> decide
    · rcases hnext with heq | heq | heq | heq <;> rw [heq] <;> exact ne_psAnncWait (by decide)
  · exact ⟨⟨r, (reaches_siteSurvey hr _ _).append (reaches_surveyTimer r _), hpick⟩,
      nofun, fun _ => Or.inr (armed_surveyTimer _ _)⟩

/-- What is done on the way back if the access point was told. -/
lemma reaches_resume (hr : r.OnChannel) (flags : UInt8) (igi : ℕ) (env : ScanEnv) :
    ∃ r', Reaches r (if flags &&& ssBackopPsAnnc ≠ 0 then
        .writeDig igi :: .macidWakeupAllUsed :: (rtwPsAnnc env false).2 else []) r' ∧
      r'.OnChannel := by
  split_ifs
  · have hwake : Reaches r [.writeDig igi, .macidWakeupAllUsed] { r with asleep := false } :=
      ⟨⟨trivial, trivial, trivial⟩, rfl⟩
    exact ⟨_, hwake.append (reaches_rtwPsAnnc env false _), hr⟩
  · exact ⟨r, reaches_nil r, hr⟩

lemma passOk_operateBackingOp (h : Tuned s r) (hstate : s.ss.state = .backingOp) :
    PassOk s r (operateBackingOp s env) := by
  have hr : r.OffChannel := by simpa [Radio.Fits, hstate] using h.fits
  have hback : Reaches r [.setChannelBwmode (env.chSettingUnion.getD env.cur), .msrNoLink false,
      .sitesurvey false] { r with noLink := false, sitesurvey := false } :=
    ⟨⟨hr, trivial, trivial, trivial⟩, rfl⟩
  obtain ⟨r', hannc, hr'⟩ := reaches_resume (r := { r with noLink := false, sitesurvey := false })
    ⟨rfl, rfl⟩ s.ss.backopFlags s.ss.igiBeforeScan env
  have hxmit : Reaches r' (if s.ss.backopFlags &&& ssBackopTxResume ≠ 0 then [.xmitSchedule]
      else []) r' := by
    split_ifs
    · exact ⟨⟨hr', trivial⟩, rfl⟩
    · exact reaches_nil r'
  have htuned : Tuned (s.setScanState .backOp) r' :=
    h.setScanState hr' (by rw [hstate]; rfl) (by decide)
  exact ⟨⟨r', (hback.append hannc).append hxmit, htuned.congr rfl rfl rfl⟩,
    fun _ => show ScanState.backOp ≠ .psAnncWait by decide, nofun⟩

lemma passOk_operateBackOp (h : Tuned s r) (hstate : s.ss.state = .backOp) :
    PassOk s r (operateBackOp s env) := by
  have hr : r.OnChannel := by simpa [Radio.Fits, hstate] using h.fits
  rw [operateBackOp]
  split_ifs
  · exact ⟨⟨r, reaches_nil r, h.setScanState hr (by rw [hstate]; rfl) (by decide)⟩,
      fun _ => ne_psAnncWait (by decide), nofun⟩
  · exact ⟨⟨r, reaches_surveyTimer r 50, h⟩, nofun, fun _ => Or.inr (armed_surveyTimer [] 50)⟩

lemma passOk_operateLeavingOp (h : Tuned s r) (hstate : s.ss.state = .leavingOp) :
    PassOk s r (operateLeavingOp s env) := by
  have hr : r.OnChannel := by simpa [Radio.Fits, hstate] using h.fits
  obtain ⟨r', hpause, hfits⟩ := reaches_pause hr
  have hops := hpause.append (reaches_rtwPsAnnc env true r')
  rw [operateLeavingOp]
  split_ifs
  · exact ⟨⟨r', hops.append (reaches_surveyTimer r' 50),
      h.waitAnnc hfits (by rw [hstate]; rfl) (Or.inr rfl)⟩, nofun,
      fun _ => Or.inr (armed_surveyTimer _ 50)⟩
  · exact ⟨⟨r', hops, h.setScanState hfits (by rw [hstate]; rfl) (by decide)⟩,
      fun _ => ne_psAnncWait (by decide), nofun⟩
  · exact ⟨⟨r', hpause, h.setScanState hfits (by rw [hstate]; rfl) (by decide)⟩,
      fun _ => ne_psAnncWait (by decide), nofun⟩

lemma passOk_operateLeaveOp (h : Tuned s r) (hstate : s.ss.state = .leaveOp) :
    PassOk s r (operateLeaveOp s) := by
  have hr : r.OnChannel ∧ r.asleep = true := by simpa [Radio.Fits, hstate] using h.fits
  have hgain : Reaches r (if s.ss.backopFlags &&& ssBackopPsAnnc ≠ 0 then [.writeDig s.ss.igiScan]
      else []) r := by
    split_ifs
    · exact ⟨⟨trivial, trivial⟩, rfl⟩
    · exact reaches_nil r
  have hleave : Reaches r [.msrNoLink true, .sitesurvey true]
      { r with noLink := true, sitesurvey := true } := ⟨⟨trivial, trivial, trivial⟩, rfl⟩
  exact ⟨⟨_, hgain.append hleave, h.setScanState ⟨rfl, rfl, hr.2⟩ (by rw [hstate]; rfl)
    (by decide)⟩,
    fun _ => ne_psAnncWait (by decide), nofun⟩

lemma passOk_operateToP2pListen (h : Tuned s r) (hstate : s.ss.state = .toP2pListen) :
    PassOk s r (operateToP2pListen s) := by
  have hr : r.OffChannel := by simpa [Radio.Fits, hstate] using h.fits
  have hwdinfo : Tuned { s with wdinfo := { s.wdinfo with p2pState := .findPhaseListen } } r :=
    h.congr rfl rfl rfl
  have hoffch : sitesurveySetOffchState (offchOf s.ss.state) .p2pListen = offchOf .p2pListen := by
    rw [hstate]
    rfl
  refine ⟨⟨⟨r.noLink, r.sitesurvey, r.asleep, false, false⟩,
    ⟨⟨hr, trivial, trivial, trivial, trivial⟩, rfl⟩,
    hwdinfo.setScanState hr hoffch (by decide)⟩, nofun,
    fun _ => Or.inr (Or.inr ⟨s.wdinfo.listenDwell * 100, ?_⟩)⟩
  simp [operateToP2pListen]

lemma passOk_operateP2pListen (h : Tuned s r) (hstate : s.ss.state = .p2pListen) :
    PassOk s r (operateP2pListen s) := by
  have hr : r.OffChannel := by simpa [Radio.Fits, hstate] using h.fits
  have htuned : Tuned (s.setScanState .process) r :=
    h.setScanState hr (by rw [hstate]; rfl) (by decide)
  exact ⟨⟨r, reaches_nil r, htuned.congr rfl rfl rfl⟩,
    fun _ => show ScanState.process ≠ .psAnncWait by decide, nofun⟩

lemma passOk_operateComplete (h : Tuned s r) (hstate : s.ss.state = .complete) :
    PassOk s r (operateComplete s env) := by
  have hr : r.OffChannel := by simpa [Radio.Fits, hstate] using h.fits
  have hback (setting : ChSetting) : Reaches r [.setChannelBwmode setting, .msrNoLink false,
      .sitesurvey false, .abilityRestore, .initialGain 255, .macidWakeupAllUsed] .operating :=
    ⟨⟨hr, trivial, trivial, trivial, trivial, trivial, trivial⟩, rfl⟩
  have hdone (acs : Bool) : Reaches .operating [.rxAmpduApply, .surveydone acs, .bssCoexistPacket,
      .bssCoexistPacket, .bssCoexistPacket] .operating :=
    ⟨⟨trivial, rfl, trivial, trivial, trivial, trivial⟩, rfl⟩
  refine ⟨⟨.operating, ((hback _).append (reaches_rtwPsAnnc env false _)).append (hdone _), ?_⟩,
    nofun, fun _ => Or.inl rfl⟩
  have hwdinfo (w : WifidirectInfo) : Tuned { s with wdinfo := w } r := h.congr rfl rfl rfl
  have hoffch : sitesurveySetOffchState (offchOf s.ss.state) .disable = offchOf .disable := by
    rw [hstate]
    rfl
  exact (hwdinfo _).setScanState rfl hoffch (by decide)

lemma passOk_operationByState (h : Tuned s r) (hstate : s.ss.state ≠ .psAnncWait) :
    PassOk s r (operationByState s env parm) := by
  rw [operationByState]
  cases hs : s.ss.state with
  | disable => exact passOk_operateDisable h hs
  | start => exact passOk_operateStart h hs
  | psAnncWait => exact absurd hs hstate
  | enter => exact passOk_operateEnter h hs
  | process => exact passOk_operateProcess h hs
  | backingOp => exact passOk_operateBackingOp h hs
  | backOp => exact passOk_operateBackOp h hs
  | leavingOp => exact passOk_operateLeavingOp h hs
  | leaveOp => exact passOk_operateLeaveOp h hs
  | toP2pListen => exact passOk_operateToP2pListen h hs
  | p2pListen => exact passOk_operateP2pListen h hs
  | complete => exact passOk_operateComplete h hs

lemma running_operationByState (s : ScanCtl) (env : ScanEnv) (parm : SitesurveyParm) :
    (operationByState s env parm).1.running = s.running := by
  rw [operationByState]
  cases s.ss.state with
  | start => rw [operateStart]; split_ifs <;> rfl
  | process =>
      have hsame := sameScan_sitesurveyPickChBehavior s env
      change (operateProcess s env).1.running = _
      rw [operateProcess]
      split_ifs <;> exact hsame.running
  | backOp => rw [operateBackOp]; split_ifs <;> rfl
  | leavingOp => rw [operateLeavingOp]; split_ifs <;> rfl
  | _ => rfl

/-! ### Back on the channel -/

/-- The operations do not tell the hardware that there is a link. -/
def Unlinked (ops : List ScanOp) : Prop := ∀ op ∈ ops, op ≠ .msrNoLink false

/-- The operations do not tune. -/
def Untuned (ops : List ScanOp) : Prop := ∀ op ∈ ops, ∀ setting, op ≠ .setChannelBwmode setting

lemma noLink_watched {ops : List ScanOp} (hops : Unlinked ops) (hr : r.noLink = true) :
    (watched Radio.watch r ops).noLink = true := by
  induction ops generalizing r with
  | nil => exact hr
  | cons op ops ih =>
      rw [watched_cons]
      refine ih (fun o ho => hops o (List.mem_cons_of_mem _ ho)) ?_
      cases op with
      | msrNoLink enter =>
          cases enter with
          | true => rfl
          | false => exact absurd rfl (hops _ List.mem_cons_self)
      | _ => exact hr

lemma watched_of_untuned {ops : List ScanOp} (hops : Untuned ops) (last : Option ChSetting) :
    watched tunedTo last ops = last := by
  induction ops generalizing last with
  | nil => rfl
  | cons op ops ih =>
      rw [watched_cons, ih fun o ho => hops o (List.mem_cons_of_mem _ ho)]
      cases op with
      | setChannelBwmode setting => exact absurd rfl (hops _ List.mem_cons_self setting)
      | _ => rfl

lemma untuned_rtwPsAnnc (env : ScanEnv) (ps : Bool) : Untuned (rtwPsAnnc env ps).2 := by
  rw [rtwPsAnnc]
  split_ifs <;> simp [Untuned]

lemma unlinked_rtwPsAnnc (env : ScanEnv) (ps : Bool) : Unlinked (rtwPsAnnc env ps).2 := by
  rw [rtwPsAnnc]
  split_ifs <;> simp [Unlinked]

/-- Only two of the cases put the link back. -/
lemma unlinked_operationByState (hback : s.ss.state ≠ .backingOp) (hdone : s.ss.state ≠ .complete)
    (env : ScanEnv) (parm : SitesurveyParm) : Unlinked (operationByState s env parm).2.1 := by
  have hannc := unlinked_rtwPsAnnc env true
  unfold Unlinked at hannc ⊢
  rw [operationByState]
  cases hs : s.ss.state with
  | backingOp => exact absurd hs hback
  | complete => exact absurd hs hdone
  | start =>
      change ∀ op ∈ (operateStart s env).2.1, op ≠ .msrNoLink false
      rw [operateStart]
      split_ifs <;> simpa [or_imp, forall_and] using hannc
  | process =>
      change ∀ op ∈ (operateProcess s env).2.1, op ≠ .msrNoLink false
      rw [operateProcess]
      split_ifs
      · exact fun op hop => absurd hop List.not_mem_nil
      · intro op hop
        rw [siteSurvey, List.cons_append, List.cons_append, List.mem_cons, List.mem_cons,
          List.mem_append, List.mem_singleton] at hop
        rcases hop with rfl | rfl | hop | rfl
        · simp
        · simp
        · obtain rfl | ⟨ssid, wps, rfl⟩ := mem_surveyProbes hop <;> simp
        · simp
  | backOp =>
      change ∀ op ∈ (operateBackOp s env).2.1, op ≠ .msrNoLink false
      rw [operateBackOp]
      split_ifs <;> simp
  | leavingOp =>
      change ∀ op ∈ (operateLeavingOp s env).2.1, op ≠ .msrNoLink false
      rw [operateLeavingOp]
      split_ifs
      · simpa [or_imp, forall_and] using hannc
      · simpa [or_imp, forall_and] using hannc
      · simp
  | leaveOp =>
      change ∀ op ∈ (operateLeaveOp s).2.1, op ≠ .msrNoLink false
      rw [operateLeaveOp]
      dsimp only
      split_ifs <;> simp
  | _ => simp [operateDisable, operateEnter, operateToP2pListen, operateP2pListen]

lemma home_surveyDoneChBw (s : ScanCtl) (env : ScanEnv) : Home s env (surveyDoneChBw s env) := by
  rw [surveyDoneChBw]
  cases hunion : env.chSettingUnion with
  | some setting => exact Or.inl (by rw [hunion]; rfl)
  | none =>
      dsimp only
      split_ifs with hlisten
      · simp only [Bool.and_eq_true, beq_iff_eq] at hlisten
        exact Or.inr ⟨hunion, hlisten.1.2, rfl⟩
      · exact Or.inl (by rw [hunion]; rfl)

/-- When a pass puts the link back, the scan has tuned to where the interfaces work. -/
lemma home_operationByState (hr : r.noLink = true)
    (hr' : (watched Radio.watch r (operationByState s env parm).2.1).noLink = false)
    (last : Option ChSetting) :
    ∃ setting, watched tunedTo last (operationByState s env parm).2.1 = some setting ∧
      Home (operationByState s env parm).1 env setting := by
  by_cases hback : s.ss.state = .backingOp
  · have hpass : operationByState s env parm = operateBackingOp s env := by
      rw [operationByState, hback]
    have hannc : Untuned (if s.ss.backopFlags &&& ssBackopPsAnnc ≠ 0 then
        ScanOp.writeDig s.ss.igiBeforeScan :: .macidWakeupAllUsed :: (rtwPsAnnc env false).2
        else []) := by
      split_ifs
      · simpa [Untuned] using untuned_rtwPsAnnc env false
      · simp [Untuned]
    have hresume : Untuned (if s.ss.backopFlags &&& ssBackopTxResume ≠ 0 then
        [ScanOp.xmitSchedule] else []) := by
      split_ifs <;> simp [Untuned]
    rw [hpass, operateBackingOp]
    refine ⟨_, ?_, Or.inl rfl⟩
    rw [watched_append, watched_append, watched_of_untuned hresume, watched_of_untuned hannc]
    rfl
  by_cases hdone : s.ss.state = .complete
  · have hpass : operationByState s env parm = operateComplete s env := by
      rw [operationByState, hdone]
    rw [hpass, operateComplete]
    refine ⟨_, ?_, home_surveyDoneChBw _ env⟩
    rw [watched_append, watched_append, watched_of_untuned (untuned_rtwPsAnnc env false)]
    rfl
  · rw [noLink_watched (unlinked_operationByState hback hdone env parm) hr] at hr'
    exact absurd hr' (by decide)

/-! ### Runs -/

/-- The state between events: the handler is never in the state that only waits. -/
structure ScanInv (s : ScanCtl) (r : Radio) : Prop where
  tuned : Tuned s r
  running : s.running.isSome = true → s.ss.state ≠ .psAnncWait

lemma sameScan_increaseIdx (s : ScanCtl) : SameScan s (increaseIdx s) := by
  rw [increaseIdx]
  split_ifs <;> exact ⟨rfl, rfl, rfl, rfl⟩

/-- A command ends the wait. -/
lemma tuned_updateScanState (h : Tuned s r) :
    Tuned (updateScanState s) r ∧ (updateScanState s).ss.state ≠ .psAnncWait := by
  rw [updateScanState]
  rcases h.next with ⟨heq, hwait⟩ | ⟨hwait, hnext⟩
  · rw [if_neg (by rw [heq]; exact fun hne => hne rfl)]
    exact ⟨h, hwait⟩
  · have hr : r.OnChannel ∧ r.asleep = true := by simpa [Radio.Fits, hwait] using h.fits
    rw [if_pos (by rw [hwait]; rcases hnext with heq | heq <;> rw [heq] <;> decide)]
    rcases hnext with heq | heq <;> rw [heq]
    · exact ⟨h.setScanState hr (by rw [hwait]; rfl) (by decide), ne_psAnncWait (by decide)⟩
    · exact ⟨h.setScanState hr (by rw [hwait]; rfl) (by decide), ne_psAnncWait (by decide)⟩

lemma scanInv_cmdEnter (h : Tuned s r) (parm : SitesurveyParm) : ScanInv (cmdEnter s parm) r := by
  obtain ⟨htuned, hwait⟩ := tuned_updateScanState (h.same (sameScan_increaseIdx s))
  exact ⟨htuned.congr rfl rfl rfl, fun _ => hwait⟩

lemma scanInv_operate (h : ScanInv s r) (env : ScanEnv) :
    ∃ r', Reaches r (scanStep s (.operate env)).2 r' ∧
      ScanInv (scanStep s (.operate env)).1 r' := by
  rw [scanStep]
  cases hrunning : s.running with
  | none => exact ⟨r, reaches_nil r, h⟩
  | some parm =>
      have hpass : PassOk s r (operationByState s env parm) := passOk_operationByState h.tuned
        (h.running (by rw [hrunning]; rfl))
      obtain ⟨r', hops, htuned⟩ := hpass.reaches
      refine ⟨r', hops, ?_⟩
      dsimp only
      split_ifs with hagain
      · exact ⟨htuned, fun _ => hpass.again hagain⟩
      · exact ⟨htuned.congr rfl rfl rfl, nofun⟩

lemma scanStep_spec (h : ScanInv s r) (e : ScanEvent) :
    Accepts Radio.watch Radio.Ready r (scanStep s e).2 ∧
      ScanInv (scanStep s e).1 (watched Radio.watch r (scanStep s e).2) := by
  cases e with
  | cmd parm =>
      rw [scanStep]
      split_ifs
      · exact ⟨trivial, h⟩
      · exact ⟨trivial, scanInv_cmdEnter h.tuned parm⟩
  | operate env =>
      obtain ⟨r', ⟨haccepts, rfl⟩, hinv⟩ := scanInv_operate h env
      exact ⟨haccepts, hinv⟩
  | hidden i => exact ⟨trivial, h.tuned.congr rfl rfl rfl, h.running⟩
  | abort flag => exact ⟨trivial, h.tuned.congr rfl rfl rfl, h.running⟩
  | p2p wdinfo => exact ⟨trivial, h.tuned.congr rfl rfl rfl, h.running⟩

lemma Idle.scanInv (h : Idle s) : ScanInv s .operating where
  tuned :=
    { fits := by rw [h.state]; rfl
      offch := by rw [h.offchState, h.state]; rfl
      next := Or.inl ⟨by rw [h.nextState, h.state], by rw [h.state]; decide⟩ }
  running hrunning := by
    rw [h.running] at hrunning
    exact absurd hrunning (by decide)

lemma scanInv_run (h : Idle s) (es : List ScanEvent) :
    Accepts Radio.watch Radio.Ready .operating (outputs scanStep s es) ∧
      ScanInv (final scanStep s es) (watched Radio.watch .operating (outputs scanStep s es)) :=
  monitored_induction (I := ScanInv) (P := fun _ _ => True)
    (fun _ _ e _ hinv => scanStep_spec hinv e) h.scanInv (along_of_forall fun _ _ => trivial)

/-- The handler does not return in the middle of a scan without a timer that calls it again. -/
lemma armed_of_leave (h : ScanInv s r) {parm : SitesurveyParm} (hrunning : s.running = some parm)
    (hleave : (scanStep s (.operate env)).1.running = none) :
    (scanStep s (.operate env)).1.ss.state = .disable ∨ Armed (scanStep s (.operate env)).2 := by
  have hpass : PassOk s r (operationByState s env parm) := passOk_operationByState h.tuned
    (h.running (by rw [hrunning]; rfl))
  simp only [scanStep, hrunning] at hleave ⊢
  by_cases hagain : (operationByState s env parm).2.2 = true
  · rw [if_pos hagain, running_operationByState, hrunning] at hleave
    exact absurd hleave (by simp)
  · rw [if_neg hagain]
    exact hpass.armed (Bool.eq_false_iff.2 hagain)

lemma home_scanStep (hr : r.noLink = true)
    (hr' : (watched Radio.watch r (scanStep s (.operate env)).2).noLink = false)
    (last : Option ChSetting) :
    ∃ setting, watched tunedTo last (scanStep s (.operate env)).2 = some setting ∧
      Home (scanStep s (.operate env)).1 env setting := by
  rw [scanStep] at hr' ⊢
  cases hrunning : s.running with
  | none =>
      rw [hrunning] at hr'
      exact absurd (hr.symm.trans hr') (by decide)
  | some parm =>
      rw [hrunning] at hr'
      obtain ⟨setting, hlast, hhome⟩ := home_operationByState hr hr' last
      refine ⟨setting, hlast, ?_⟩
      dsimp only
      split_ifs <;> exact hhome

/-- Whatever happens, and in whatever order: surveys, probe requests and tunings find the radio off
the channel; the transmit path is let on only while the radio is on the operating channel, to which
the scan has tuned before the link is put back; at the end of a scan the radio is as it was, and
until then the handler always leaves a timer behind. -/
theorem scan_offChannel (h : Idle s) (es : List ScanEvent) :
    let radio := watched Radio.watch .operating (outputs scanStep s es)
    Accepts Radio.watch Radio.Ready .operating (outputs scanStep s es) ∧
      ((final scanStep s es).offchState = .none → radio.OnChannel) ∧
      ((final scanStep s es).ss.state = .disable → radio = .operating) ∧
      (∀ env, (final scanStep s es).running.isSome →
        (final scanStep s (es ++ [.operate env])).running = none →
        (final scanStep s (es ++ [.operate env])).ss.state = .disable ∨
          Armed (scanStep (final scanStep s es) (.operate env)).2) ∧
      ∀ env, radio.noLink = true →
        (watched Radio.watch .operating (outputs scanStep s (es ++ [.operate env]))).noLink =
          false →
        ∃ setting, watched tunedTo none (outputs scanStep s (es ++ [.operate env])) =
          some setting ∧ Home (final scanStep s (es ++ [.operate env])) env setting := by
  obtain ⟨haccepts, hinv⟩ := scanInv_run h es
  refine ⟨haccepts, fun hoffch => ?_, fun hstate => ?_, fun env hrunning hleave => ?_,
    fun env hlink hback => ?_⟩
  · have htuned := hinv.tuned
    have hoff := htuned.offch
    rw [hoffch] at hoff
    have hfits := htuned.fits
    cases hstate : (final scanStep s es).ss.state <;> rw [hstate] at hoff hfits <;>
      first
        | exact hfits
        | (rw [show watched Radio.watch .operating (outputs scanStep s es) = .operating from hfits]
           exact ⟨rfl, rfl⟩)
        | exact absurd hoff (by decide)
  · have hfits := hinv.tuned.fits
    rw [hstate] at hfits
    exact hfits
  · obtain ⟨parm, hparm⟩ := Option.isSome_iff_exists.1 hrunning
    rw [final_concat] at hleave ⊢
    exact armed_of_leave hinv hparm hleave
  · rw [outputs_concat, watched_append] at hback
    rw [outputs_concat, watched_append, final_concat]
    exact home_scanStep hlink hback _

/-- An interface that is not in use; the radio was on channel 6. -/
def idleEnv : ScanEnv :=
  ⟨0, 0, 0, 0, 0, false, none, .narrow 6, 30, ⟨.auto, false, false, 3, false, false, false⟩⟩

/-- Three channels, the last two without the right to transmit first. -/
def idleChSet : List ChannelInfo :=
  [⟨1, false, false, 0⟩, ⟨12, true, false, 0⟩, ⟨13, true, false, 0⟩]

/-- A scan for one SSID by an interface that is not in use; a hidden network is heard on the second
channel. -/
def idleScan : List ScanEvent :=
  let cmd := ScanEvent.cmd ⟨.active, [[0x61]], [], 0, false⟩
  [cmd, .operate idleEnv, .operate idleEnv, .operate idleEnv, .operate idleEnv, cmd,
    .operate idleEnv, .hidden 1, cmd, .operate idleEnv, cmd, .operate idleEnv, cmd,
    .operate idleEnv]

theorem scan_offChannel_idleScan :
    .surveydone false ∈ outputs scanStep (scanInit idleChSet) (idleScan ++ [.operate idleEnv]) ∧
      watched Radio.watch .operating
        (outputs scanStep (scanInit idleChSet) (idleScan ++ [.operate idleEnv])) = .operating ∧
      watched tunedTo none
        (outputs scanStep (scanInit idleChSet) (idleScan ++ [.operate idleEnv])) =
          some (.narrow 6) := by
  have hdone : (final scanStep (scanInit idleChSet) (idleScan ++ [.operate idleEnv])).ss.state =
      .disable := by decide +kernel
  have hlink : (watched Radio.watch .operating
      (outputs scanStep (scanInit idleChSet) idleScan)).noLink = true := by decide +kernel
  have hback : (watched Radio.watch .operating
      (outputs scanStep (scanInit idleChSet) (idleScan ++ [.operate idleEnv]))).noLink = false := by
    decide +kernel
  have hlisten : (final scanStep (scanInit idleChSet)
      (idleScan ++ [.operate idleEnv])).wdinfo.p2pState = .none := by decide +kernel
  obtain ⟨-, -, hradio, -⟩ :=
    scan_offChannel (idle_scanInit idleChSet) (idleScan ++ [.operate idleEnv])
  obtain ⟨-, -, -, -, hhome⟩ := scan_offChannel (idle_scanInit idleChSet) idleScan
  refine ⟨by decide +kernel, hradio hdone, ?_⟩
  obtain ⟨setting, hlast, hsetting | ⟨-, hwrong, -⟩⟩ := hhome idleEnv hlink hback
  · rw [hlast, hsetting]
    rfl
  · rw [hlisten] at hwrong
    exact absurd hwrong (by decide)

end Rtl8723du.Survey
