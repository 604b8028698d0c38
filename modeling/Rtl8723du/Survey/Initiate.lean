import Rtl8723du.Survey.Visits

/-!
# Where a scan transmits

A scan tunes to a channel and sends its probe requests there, on the channels on which the channel
set lets it transmit first.  On the others it only listens, unless a beacon without an SSID was
heard there: then it may ask for the SSIDs that it looks for (`scan_initiates`).  The abort of a
scan does not change this.
-/

namespace Rtl8723du.Survey

open Lib Lib.Machine

/-- The P2P code does not send the scan to channels of its own. -/
structure OwnChannels (w : WifidirectInfo) : Prop where
  scanOpChOnly : w.scanOpChOnly = false
  exchange : w.findPhaseStateExchangeCnt < p2pFindphaseExSocialFirst
  /-- `social_chan` ends with a zero. -/
  social : w.socialChan 3 = 0

/-- The scan stays on the channels of its list. -/
def OnOwnChannels : ScanEvent → Prop
  | .p2p wdinfo => OwnChannels wdinfo
  | _ => True

/-- A channel without its count of hidden networks. -/
def ChannelInfo.fixed (c : ChannelInfo) : ℕ × Bool × Bool := (c.channelNum, c.noIr, c.dfs)

/-- A beacon without an SSID was heard on the channel. -/
def Heard (chSet : List ChannelInfo) (es : List ScanEvent) (ch : ℕ) : Prop :=
  ∃ i info, chSet[i]? = some info ∧ info.channelNum = ch ∧ .hidden i ∈ es

/-- A hidden network is counted on the channel. -/
def Counted (chSet : List ChannelInfo) (ch : ℕ) : Prop :=
  ∃ info ∈ chSet, info.channelNum = ch ∧ info.hiddenBssCnt ≠ 0

/-- A probe request. -/
def ScanOp.isProbe : ScanOp → Bool
  | .probereqP2p | .probereq _ _ => true
  | _ => false

/-- None of the operations sends a probe request. -/
def Silent (ops : List ScanOp) : Prop := ∀ op ∈ ops, op.isProbe = false

variable {s s' s₀ : ScanCtl} {env : ScanEnv} {es : List ScanEvent} {chSet chSet' : List ChannelInfo}
  {ch : ℕ} {c : ScanChannel}

lemma permitted_iff_mem :
    Permitted chSet ch ↔ (ch, false, false) ∈ chSet.map ChannelInfo.fixed := by
  simp only [Permitted, List.mem_map, ChannelInfo.fixed, Prod.mk.injEq]

lemma permitted_congr (h : chSet'.map ChannelInfo.fixed = chSet.map ChannelInfo.fixed) :
    Permitted chSet' ch ↔ Permitted chSet ch := by
  rw [permitted_iff_mem, permitted_iff_mem, h]

lemma map_fixed_modify (chSet : List ChannelInfo) (i : ℕ) (f : ChannelInfo → ChannelInfo)
    (hf : ∀ c, (f c).fixed = c.fixed) :
    (chSet.modify i f).map ChannelInfo.fixed = chSet.map ChannelInfo.fixed := by
  refine List.ext_getElem? fun j => ?_
  rw [List.getElem?_map, List.getElem?_map, List.getElem?_modify]
  cases chSet[j]? with
  | none => rfl
  | some c =>
      by_cases hij : i = j
      · simp [hij, hf]
      · simp [hij]

lemma counted_of_hiddenHeard (h : hiddenHeard s = true)
    (hc : s.ss.ch[s.ss.channelIdx - 1]? = some c) : Counted s.chSet c.hwValue := by
  simp only [hiddenHeard, hc, Option.bind_some, Option.any_eq_true, bne_iff_ne] at h
  obtain ⟨info, hinfo, hcnt⟩ := h
  obtain ⟨hmem, hnum⟩ := channelNum_of_search hinfo
  exact ⟨info, hmem, hnum, hcnt⟩

/-- What the scan may transmit on depends on. -/
structure SameTables (s s' : ScanCtl) : Prop where
  ch : s'.ss.ch = s.ss.ch
  chSet : s'.chSet = s.chSet
  ssid : s'.ss.ssid = s.ss.ssid
  scanOpChOnly : s'.wdinfo.scanOpChOnly = s.wdinfo.scanOpChOnly
  social : s'.wdinfo.socialChan 3 = s.wdinfo.socialChan 3

/-- A survey of a channel of the list, one that was heard on if it is a second visit. -/
structure Surveys (s s' : ScanCtl) (pick : Pick) (c : ScanChannel) : Prop where
  mem : c ∈ s.ss.ch
  scanCh : pick.scanCh = c.hwValue
  scanType : pick.scanType = c.scanType
  second : s'.ss.forceSsidScan = true → c.passiveScan = true ∧ Counted s.chSet c.hwValue

/-- What `sitesurvey_pick_ch_behavior` does to a scan on its own channels. -/
structure PickOwn (s : ScanCtl) (p : ScanCtl × ScanState × Pick) : Prop where
  same : SameTables s p.1
  exchange : p.1.wdinfo.findPhaseStateExchangeCnt < p2pFindphaseExSocialFirst ∨ p.2.1 = .complete
  survey : p.2.1 = .process → ∃ c, Surveys s p.1 p.2.2 c

lemma sameTables_forceUnlessBackop (s : ScanCtl) (flags : UInt8) :
    SameTables s (forceUnlessBackop s flags) ∧
      (forceUnlessBackop s flags).wdinfo = s.wdinfo ∧
      (BackopDue (forceUnlessBackop s flags) flags ↔ BackopDue s flags) := by
  rcases forceUnlessBackop_cases s flags with ⟨-, heq⟩ | ⟨-, heq⟩ | ⟨-, -, -, heq⟩ <;> rw [heq] <;>
    exact ⟨⟨rfl, rfl, rfl, rfl, rfl⟩, rfl, Iff.rfl⟩

/-- The channel that is looked up in the list, unless the scan goes back first. -/
lemma surveys_pickScanCh {flags : UInt8} (hdue : ¬ BackopDue s flags)
    (hch : (pickScanCh (forceUnlessBackop s flags) flags).scanCh ≠ 0) :
    ∃ c, Surveys s (forceUnlessBackop s flags)
      (pickScanCh (forceUnlessBackop s flags) flags) c := by
  rcases forceUnlessBackop_cases s flags with ⟨hdue', -⟩ | ⟨-, heq⟩ | ⟨-, hhidden, hheard, heq⟩
  · exact absurd hdue' hdue
  · rw [heq, pickScanCh] at hch ⊢
    cases hc : s.ss.ch[s.ss.channelIdx]? with
    | none => simp [hc] at hch
    | some c => exact ⟨c, List.mem_of_getElem? hc, rfl, rfl, fun h => absurd h Bool.false_ne_true⟩
  · obtain ⟨-, -, -, c, hc, hpassive⟩ := hiddenBehind_cases hhidden
    rw [heq, pickScanCh, hc]
    exact ⟨c, List.mem_of_getElem? hc, rfl, rfl,
      fun _ => ⟨hpassive, counted_of_hiddenHeard hheard hc⟩⟩

/-- A pick that surveys nothing. -/
lemma pickOwn_of_ne {p : ScanCtl × ScanState × Pick} (hs : SameTables s p.1)
    (hexchange : p.1.wdinfo.findPhaseStateExchangeCnt < p2pFindphaseExSocialFirst ∨
      p.2.1 = .complete) (hne : p.2.1 ≠ .process) : PickOwn s p :=
  ⟨hs, hexchange, fun hprocess => absurd hprocess hne⟩

/-- The pick of a scan that the abort has not sent to the social channels. -/
lemma pickOwn_of_list (hown : OwnChannels s.wdinfo)
    (ht : scanAbortHdl s = s') (hs : SameTables s s') (hw : s'.wdinfo = s.wdinfo) :
    PickOwn s (sitesurveyPickChBehavior s env) := by
  have hsocial : s'.wdinfo.findphaseExIsSocial = false := by
    rw [hw, WifidirectInfo.findphaseExIsSocial, decide_eq_false_iff_not, Nat.not_le]
    exact hown.exchange
  set flags := rtwScanBackopDecision s'.ss env with hflags
  obtain ⟨hsame, hwf, hback⟩ := sameTables_forceUnlessBackop s' flags
  have hown' : (forceUnlessBackop s' flags).wdinfo.findPhaseStateExchangeCnt <
      p2pFindphaseExSocialFirst := by
    rw [hwf, hw]
    exact hown.exchange
  have htables : SameTables s (forceUnlessBackop s' flags) :=
    ⟨hsame.ch.trans hs.ch, hsame.chSet.trans hs.chSet, hsame.ssid.trans hs.ssid,
      hsame.scanOpChOnly.trans hs.scanOpChOnly, hsame.social.trans hs.social⟩
  rw [sitesurveyPickChBehavior, ht, pickCh, if_neg (by rw [hw, hown.scanOpChOnly]; simp),
    if_neg (by rw [hsocial]; simp)]
  dsimp only
  rw [← hflags]
  have hsurveys (hdue : ¬ BackopDue s' flags)
      (hch : (pickScanCh (forceUnlessBackop s' flags) flags).scanCh ≠ 0) :
      ∃ c, Surveys s (forceUnlessBackop s' flags)
        (pickScanCh (forceUnlessBackop s' flags) flags) c := by
    obtain ⟨c, hmem, hnum, htype, hsecond⟩ := surveys_pickScanCh hdue hch
    rw [hs.ch] at hmem
    rw [hs.chSet] at hsecond
    exact ⟨c, hmem, hnum, htype, hsecond⟩
  have hpicked : (pickScanCh (forceUnlessBackop s' flags) flags).backopFlags = flags := by
    rw [pickScanCh]
    cases (forceUnlessBackop s' flags).ss.ch[(forceUnlessBackop s' flags).ss.channelIdx]? <;> rfl
  rw [hpicked]
  -- a channel to survey, and before it the operating channel if that is due; or the end of the list
  split_ifs with hch hflags hcnt hneeded
  · obtain ⟨c, hc⟩ := hsurveys (fun hdue => absurd hcnt (Nat.not_lt.2 (hback.2 hdue).2)) hch
    exact ⟨⟨htables.ch, htables.chSet, htables.ssid, htables.scanOpChOnly, htables.social⟩,
      Or.inl hown', fun _ => ⟨c, hc.mem, hc.scanCh, hc.scanType, hc.second⟩⟩
  · exact pickOwn_of_ne
      ⟨htables.ch, htables.chSet, htables.ssid, htables.scanOpChOnly, htables.social⟩
      (Or.inl hown') (show ScanState.backingOp ≠ .process by decide)
  · obtain ⟨c, hc⟩ := hsurveys (fun hdue => hflags hdue.1) hch
    exact ⟨htables, Or.inl hown', fun _ => ⟨c, hc⟩⟩
  · exact pickOwn_of_ne
      ⟨htables.ch, htables.chSet, htables.ssid, htables.scanOpChOnly, htables.social⟩
      (Or.inl hown') (show ScanState.toP2pListen ≠ .process by decide)
  · exact pickOwn_of_ne
      ⟨htables.ch, htables.chSet, htables.ssid, htables.scanOpChOnly, htables.social⟩
      (Or.inl hown') (show ScanState.complete ≠ .process by decide)

lemma pickOwn_sitesurveyPickChBehavior (hown : OwnChannels s.wdinfo) (env : ScanEnv) :
    PickOwn s (sitesurveyPickChBehavior s env) := by
  by_cases habort : s.scanAbort = true
  · by_cases hp2p : s.wdinfo.p2pState ≠ .none
    · -- the social channels, from behind their end
      obtain ⟨t, ht, hs, hidx, hcnt⟩ : ∃ t, scanAbortHdl s = t ∧ SameTables s t ∧
          t.ss.channelIdx = 3 ∧ t.wdinfo.findPhaseStateExchangeCnt = p2pFindphaseExMax := by
        rw [scanAbortHdl, if_pos habort, if_pos hp2p]
        exact ⟨_, rfl, ⟨rfl, rfl, rfl, rfl, rfl⟩, rfl, rfl⟩
      have hop : t.wdinfo.scanOpChOnly = false := hs.scanOpChOnly.trans hown.scanOpChOnly
      have hsocial : t.wdinfo.findphaseExIsSocial = true := by
        rw [WifidirectInfo.findphaseExIsSocial, hcnt]
        decide
      have hneeded : t.wdinfo.findphaseExIsNeeded = false := by
        rw [WifidirectInfo.findphaseExIsNeeded, hcnt]
        rfl
      have hlast : t.wdinfo.socialChan t.ss.channelIdx = 0 := by rw [hidx, hs.social, hown.social]
      rw [sitesurveyPickChBehavior, ht, pickCh, if_neg (by rw [hop]; simp), if_pos hsocial]
      dsimp only
      rw [if_neg (by rw [pickSocialChan, hlast]; simp), hneeded]
      exact pickOwn_of_ne ⟨hs.ch, hs.chSet, hs.ssid, hs.scanOpChOnly, hs.social⟩ (Or.inr rfl)
        (show ScanState.complete ≠ .process by decide)
    · have ht : scanAbortHdl s = { s with ss := { s.ss with channelIdx := s.ss.ch.length } } := by
        rw [scanAbortHdl, if_pos habort, if_neg hp2p]
      exact pickOwn_of_list hown ht ⟨rfl, rfl, rfl, rfl, rfl⟩ rfl
  · have ht : scanAbortHdl s = s := by rw [scanAbortHdl, if_neg habort]
    exact pickOwn_of_list hown ht ⟨rfl, rfl, rfl, rfl, rfl⟩ rfl

/-! ### Runs -/

/-- What a scan that began in `s₀` may do after the events. -/
structure InitiateInv (s₀ : ScanCtl) (es : List ScanEvent) (s : ScanCtl) : Prop where
  fixed : s.chSet.map ChannelInfo.fixed = s₀.chSet.map ChannelInfo.fixed
  scanOpChOnly : s.wdinfo.scanOpChOnly = false
  social : s.wdinfo.socialChan 3 = 0
  exchange : s.wdinfo.findPhaseStateExchangeCnt < p2pFindphaseExSocialFirst ∨ s.ss.state = .complete
  ch : s.ss.state ≠ .disable → AllPermitted s₀.chSet s.ss.ch
  heard : s.ss.state ≠ .disable → ∀ i c, s.chSet[i]? = some c → c.hiddenBssCnt ≠ 0 → .hidden i ∈ es
  /-- The SSIDs are those of the command that began the scan. -/
  ssid : s.ss.state ≠ .disable → ∃ parm, .cmd parm ∈ es ∧
    s.ss.ssid = parm.ssid.filter fun ssid => ssid != []

lemma InitiateInv.ownChannels (h : InitiateInv s₀ es s) (hstate : s.ss.state ≠ .complete) :
    OwnChannels s.wdinfo :=
  ⟨h.scanOpChOnly, h.exchange.resolve_right hstate, h.social⟩

/-- A step that leaves the tables alone, and does not begin a scan. -/
lemma InitiateInv.keep (h : InitiateInv s₀ es s) (hs : SameTables s s')
    (hexchange : s'.wdinfo.findPhaseStateExchangeCnt < p2pFindphaseExSocialFirst ∨
      s'.ss.state = .complete)
    (hbegin : s.ss.state = .disable → s'.ss.state = .disable) : InitiateInv s₀ es s' where
  fixed := by rw [hs.chSet, h.fixed]
  scanOpChOnly := hs.scanOpChOnly.trans h.scanOpChOnly
  social := hs.social.trans h.social
  exchange := hexchange
  ch hstate := by
    rw [hs.ch]
    exact h.ch fun hdisable => hstate (hbegin hdisable)
  heard hstate := by
    rw [hs.chSet]
    exact h.heard fun hdisable => hstate (hbegin hdisable)
  ssid hstate := by
    rw [hs.ssid]
    exact h.ssid fun hdisable => hstate (hbegin hdisable)

lemma InitiateInv.mono (h : InitiateInv s₀ es s) (e : ScanEvent) :
    InitiateInv s₀ (es ++ [e]) s :=
  { h with
    heard := fun hstate i c hc hcnt => List.mem_append_left _ (h.heard hstate i c hc hcnt)
    ssid := fun hstate =>
      (h.ssid hstate).imp fun _ hparm => ⟨List.mem_append_left _ hparm.1, hparm.2⟩ }

lemma initiateInv_operateDisable (h : InitiateInv s₀ es s) (hstate : s.ss.state = .disable)
    (env : ScanEnv) {parm : SitesurveyParm} (hparm : .cmd parm ∈ es) :
    InitiateInv s₀ es (operateDisable s env parm).1 where
  fixed := by
    rw [← h.fixed]
    exact (List.map_map ..).trans rfl
  scanOpChOnly := h.scanOpChOnly
  social := h.social
  exchange := Or.inl (h.ownChannels (by rw [hstate]; decide)).exchange
  ch _ := fun c hc hactive => (permitted_congr h.fixed).1
    (allPermitted_rtwScanChDecision env.policy s.chSet rtwChannelScanAmount s.token parm.ch parm.acs
      c hc hactive)
  heard _ i c hc hcnt := by
    obtain ⟨d, -, rfl⟩ := List.mem_map.1 (List.mem_of_getElem? hc)
    exact absurd rfl hcnt
  ssid _ := ⟨parm, hparm, rfl⟩

lemma initiateInv_operateProcess (h : InitiateInv s₀ es s) (hstate : s.ss.state = .process)
    (env : ScanEnv) : InitiateInv s₀ es (operateProcess s env).1 := by
  have hpick := pickOwn_sitesurveyPickChBehavior (h.ownChannels (by rw [hstate]; decide)) env
  have hscan := sameScan_sitesurveyPickChBehavior s env
  have hbegin (hdisable : s.ss.state = .disable) : False := by
    rw [hstate] at hdisable
    exact absurd hdisable (by decide)
  rw [operateProcess]
  split_ifs with hnext
  · exact h.keep ⟨hpick.same.ch, hpick.same.chSet, hpick.same.ssid, hpick.same.scanOpChOnly,
      hpick.same.social⟩ hpick.exchange fun hdisable => (hbegin hdisable).elim
  · rw [ne_eq, not_not] at hnext
    refine h.keep hpick.same (Or.inl (hpick.exchange.resolve_right ?_))
      fun hdisable => (hbegin hdisable).elim
    rw [hnext]
    decide

lemma initiateInv_operationByState (h : InitiateInv s₀ es s) (env : ScanEnv)
    {parm : SitesurveyParm} (hparm : .cmd parm ∈ es) :
    InitiateInv s₀ es (operationByState s env parm).1 := by
  have hkeep {s' : ScanCtl} (hs : SameTables s s')
      (hexchange : s'.wdinfo.findPhaseStateExchangeCnt = s.wdinfo.findPhaseStateExchangeCnt)
      {state : ScanState} (hstate : s.ss.state = state) (hne : state ≠ .complete)
      (hne' : state ≠ .disable) : InitiateInv s₀ es s' := by
    refine h.keep hs (Or.inl ?_) fun hdisable => absurd (hstate.symm.trans hdisable) hne'
    rw [hexchange]
    exact (h.ownChannels (by rw [hstate]; exact hne)).exchange
  rw [operationByState]
  cases hstate : s.ss.state with
  | disable => exact initiateInv_operateDisable h hstate env hparm
  | start =>
      change InitiateInv s₀ es (operateStart s env).1
      rw [operateStart]
      split_ifs <;> exact hkeep ⟨rfl, rfl, rfl, rfl, rfl⟩ rfl hstate (by decide) (by decide)
  | psAnncWait => exact h
  | enter => exact hkeep ⟨rfl, rfl, rfl, rfl, rfl⟩ rfl hstate (by decide) (by decide)
  | process => exact initiateInv_operateProcess h hstate env
  | backingOp => exact hkeep ⟨rfl, rfl, rfl, rfl, rfl⟩ rfl hstate (by decide) (by decide)
  | backOp =>
      change InitiateInv s₀ es (operateBackOp s env).1
      rw [operateBackOp]
      split_ifs <;> exact hkeep ⟨rfl, rfl, rfl, rfl, rfl⟩ rfl hstate (by decide) (by decide)
  | leavingOp =>
      change InitiateInv s₀ es (operateLeavingOp s env).1
      rw [operateLeavingOp]
      split_ifs <;> exact hkeep ⟨rfl, rfl, rfl, rfl, rfl⟩ rfl hstate (by decide) (by decide)
  | leaveOp => exact hkeep ⟨rfl, rfl, rfl, rfl, rfl⟩ rfl hstate (by decide) (by decide)
  | toP2pListen => exact hkeep ⟨rfl, rfl, rfl, rfl, rfl⟩ rfl hstate (by decide) (by decide)
  | p2pListen => exact hkeep ⟨rfl, rfl, rfl, rfl, rfl⟩ rfl hstate (by decide) (by decide)
  | complete =>
      exact h.keep ⟨rfl, rfl, rfl, rfl, rfl⟩ (Or.inl (by decide : p2pFindphaseExNone < 2))
        fun _ => rfl

lemma sameTables_cmdEnter (s : ScanCtl) (parm : SitesurveyParm) :
    SameTables s (cmdEnter s parm) ∧
      (cmdEnter s parm).wdinfo = s.wdinfo ∧ (cmdEnter s parm).ss.state = s.ss.nextState := by
  rw [cmdEnter, increaseIdx, updateScanState]
  split_ifs with hprocess hne hne
  · exact ⟨⟨rfl, rfl, rfl, rfl, rfl⟩, rfl, rfl⟩
  · exact ⟨⟨rfl, rfl, rfl, rfl, rfl⟩, rfl, not_not.1 hne⟩
  · exact ⟨⟨rfl, rfl, rfl, rfl, rfl⟩, rfl, rfl⟩
  · exact ⟨⟨rfl, rfl, rfl, rfl, rfl⟩, rfl, not_not.1 hne⟩

lemma initiateInv_cmdEnter {r : Radio} (htuned : Tuned s r) (h : InitiateInv s₀ es s)
    (parm : SitesurveyParm) : InitiateInv s₀ es (cmdEnter s parm) := by
  obtain ⟨hs, hw, hstate⟩ := sameTables_cmdEnter s parm
  have hsame : s.ss.state ≠ .psAnncWait → (cmdEnter s parm).ss.state = s.ss.state := by
    intro hwait
    rcases htuned.next with ⟨hnext, -⟩ | ⟨hwait', -⟩
    · exact hstate.trans hnext
    · exact absurd hwait' hwait
  refine h.keep hs ?_ fun hdisable => ?_
  · rw [hw]
    refine h.exchange.imp_right fun hcomplete => ?_
    exact (hsame (by rw [hcomplete]; decide)).trans hcomplete
  · exact (hsame (by rw [hdisable]; decide)).trans hdisable

lemma initiateInv_hidden (h : InitiateInv s₀ es s) (i : ℕ) :
    InitiateInv s₀ (es ++ [.hidden i]) (scanStep s (.hidden i)).1 where
  fixed := by
    rw [← h.fixed]
    exact map_fixed_modify s.chSet i _ fun _ => rfl
  scanOpChOnly := h.scanOpChOnly
  social := h.social
  exchange := h.exchange
  ch := h.ch
  heard hstate j c hc hcnt := by
    by_cases hij : i = j
    · rw [hij]
      exact List.mem_append_right _ List.mem_cons_self
    · refine List.mem_append_left _ (h.heard hstate j c ?_ hcnt)
      rw [← hc]
      exact (List.getElem?_modify_ne _ _ hij).symm
  ssid := (h.mono (.hidden i)).ssid

/-- The command that the thread handles has come before. -/
lemma cmd_mem_of_running (h : Idle s) {parm : SitesurveyParm}
    (hrunning : (final scanStep s es).running = some parm) : .cmd parm ∈ es := by
  induction es using List.reverseRecOn with
  | nil => exact absurd (h.running.symm.trans hrunning) (by simp)
  | append_singleton es e ih =>
      rw [final_concat] at hrunning
      generalize final scanStep s es = t at hrunning ih
      have hold (hsame : t.running = some parm) : .cmd parm ∈ es ++ [e] :=
        List.mem_append_left _ (ih hsame)
      cases e with
      | cmd parm' =>
          rw [scanStep] at hrunning
          split_ifs at hrunning
          · exact hold hrunning
          · obtain rfl : parm' = parm := Option.some.inj hrunning
            exact List.mem_append_right _ List.mem_cons_self
      | operate env =>
          rw [scanStep] at hrunning
          cases ht : t.running with
          | none =>
              rw [ht] at hrunning
              exact absurd (ht.symm.trans hrunning) (by simp)
          | some parm' =>
              rw [ht] at hrunning
              dsimp only at hrunning
              split_ifs at hrunning
              · rw [running_operationByState] at hrunning
                exact hold hrunning
              · exact absurd hrunning (Option.some_ne_none parm).symm
      | hidden i => exact hold hrunning
      | abort flag => exact hold hrunning
      | p2p wdinfo => exact hold hrunning

lemma initiateInv_scanStep {r : Radio} (hinv : ScanInv s r) (h : InitiateInv s₀ es s)
    (hrun : ∀ parm, s.running = some parm → .cmd parm ∈ es) {e : ScanEvent}
    (he : OnOwnChannels e) :
    InitiateInv s₀ (es ++ [e]) (scanStep s e).1 := by
  cases e with
  | cmd parm =>
      rw [scanStep]
      split_ifs
      · exact h.mono _
      · exact (initiateInv_cmdEnter hinv.tuned h parm).mono _
  | operate env =>
      rw [scanStep]
      cases hrunning : s.running with
      | none => exact h.mono _
      | some parm =>
          have hpass := (initiateInv_operationByState h env (hrun parm hrunning)).mono
            (.operate env)
          dsimp only
          split_ifs
          · exact hpass
          · exact ⟨hpass.fixed, hpass.scanOpChOnly, hpass.social, hpass.exchange, hpass.ch,
              hpass.heard, hpass.ssid⟩
  | hidden i => exact initiateInv_hidden h i
  | abort flag =>
      have hmono := h.mono (.abort flag)
      exact ⟨hmono.fixed, hmono.scanOpChOnly, hmono.social, hmono.exchange, hmono.ch, hmono.heard,
        hmono.ssid⟩
  | p2p wdinfo =>
      have hmono := h.mono (.p2p wdinfo)
      exact ⟨hmono.fixed, he.scanOpChOnly, he.social, Or.inl he.exchange, hmono.ch, hmono.heard,
        hmono.ssid⟩

lemma initiateInv_run (h : Idle s) (hown : OwnChannels s.wdinfo)
    (hes : ∀ e ∈ es, OnOwnChannels e) : InitiateInv s es (final scanStep s es) := by
  induction es using List.reverseRecOn with
  | nil =>
      exact ⟨rfl, hown.scanOpChOnly, hown.social, Or.inl hown.exchange,
        fun hstate => absurd h.state hstate, fun hstate => absurd h.state hstate,
        fun hstate => absurd h.state hstate⟩
  | append_singleton es e ih =>
      rw [final_concat]
      exact initiateInv_scanStep (scanInv_run h es).2
        (ih fun e' he' => hes e' (List.mem_append_left _ he'))
        (fun parm hrunning => cmd_mem_of_running h hrunning)
        (hes e (List.mem_append_right _ List.mem_cons_self))

lemma silent_nil : Silent [] := fun _ hop => absurd hop List.not_mem_nil

lemma silent_cons {op : ScanOp} {ops : List ScanOp} :
    Silent (op :: ops) ↔ op.isProbe = false ∧ Silent ops := List.forall_mem_cons

lemma silent_append {ops ops' : List ScanOp} : Silent (ops ++ ops') ↔ Silent ops ∧ Silent ops' :=
  List.forall_mem_append

lemma silent_rtwPsAnnc (env : ScanEnv) (ps : Bool) : Silent (rtwPsAnnc env ps).2 := by
  rw [rtwPsAnnc]
  split_ifs
  · exact silent_cons.2 ⟨rfl, silent_nil⟩
  · exact silent_nil

/-- Only a survey sends probe requests. -/
lemma silent_operationByState (hstate : s.ss.state ≠ .process) (env : ScanEnv)
    (parm : SitesurveyParm) : Silent (operationByState s env parm).2.1 := by
  have hannc := silent_rtwPsAnnc env
  have hite {p : Prop} [Decidable p] {ops : List ScanOp} (h : Silent ops) :
      Silent (if p then ops else []) := by
    split_ifs
    · exact h
    · exact silent_nil
  have hone {op : ScanOp} (h : op.isProbe = false) : Silent [op] := silent_cons.2 ⟨h, silent_nil⟩
  rw [operationByState]
  cases hs : s.ss.state with
  | start =>
      have hrx : Silent (if s.ss.rxAmpdu then [.rxAmpduApply] else []) := hite (hone rfl)
      change Silent (operateStart s env).2.1
      rw [operateStart]
      by_cases hassoc : (rtwPsAnnc env true).1 = true
      · rw [if_pos hassoc]
        simp [silent_append, silent_cons, silent_nil, hrx, hannc, ScanOp.isProbe]
      · rw [if_neg hassoc]
        simp [silent_append, silent_cons, hrx, hannc, ScanOp.isProbe]
  | process => exact absurd hs hstate
  | backingOp =>
      have hannc' : Silent (if s.ss.backopFlags &&& ssBackopPsAnnc ≠ 0 then
          .writeDig s.ss.igiBeforeScan :: .macidWakeupAllUsed :: (rtwPsAnnc env false).2 else []) :=
        hite (silent_cons.2 ⟨rfl, silent_cons.2 ⟨rfl, hannc false⟩⟩)
      have hresume : Silent (if s.ss.backopFlags &&& ssBackopTxResume ≠ 0 then [.xmitSchedule]
          else []) := hite (hone rfl)
      exact silent_append.2 ⟨silent_append.2 ⟨silent_cons.2 ⟨rfl, silent_cons.2 ⟨rfl, hone rfl⟩⟩,
        hannc'⟩, hresume⟩
  | backOp =>
      change Silent (operateBackOp s env).2.1
      rw [operateBackOp]
      split_ifs
      · exact silent_nil
      · exact hone rfl
  | leavingOp =>
      change Silent (operateLeavingOp s env).2.1
      rw [operateLeavingOp]
      split_ifs <;> simp [silent_append, silent_cons, silent_nil, hannc, ScanOp.isProbe]
  | leaveOp =>
      exact silent_append.2 ⟨hite (hone rfl), silent_cons.2 ⟨rfl, hone rfl⟩⟩
  | complete =>
      simp [operateComplete, silent_append, silent_cons, silent_nil, hannc, ScanOp.isProbe]
  | _ => simp [operateDisable, operateEnter, operateToP2pListen, operateP2pListen, silent_cons,
      silent_nil, ScanOp.isProbe]

/-- The probe requests of one survey. -/
lemma probereq_of_surveyProbes {wifiSpec : Bool} {scanType : ScanType} {op : ScanOp}
    (hop : op ∈ surveyProbes s wifiSpec scanType) :
    scanType = .active ∨
      s.ss.forceSsidScan = true ∧
        ∃ ssid wps, ssid ∈ s.ss.ssid ∧ op = .probereq (some ssid) wps := by
  cases scanType with
  | active => exact Or.inl rfl
  | passive =>
      rw [surveyProbes] at hop
      dsimp only at hop
      split_ifs at hop with hforce
      · obtain ⟨ssid, hssid, hop⟩ := List.mem_flatMap.1 hop
        simp only [List.mem_cons, List.not_mem_nil, or_false] at hop
        rcases hop with rfl | rfl
        · exact Or.inr ⟨hforce, ssid, wifiSpec, hssid, rfl⟩
        · exact Or.inr ⟨hforce, ssid, true, hssid, rfl⟩
      · exact absurd hop List.not_mem_nil

/-- What comes before one of the probe requests in the middle of some operations. -/
lemma eq_of_probe_mem {pre post probes : List ScanOp} {survey tune timer op : ScanOp}
    (hsurvey : survey.isProbe = false) (htune : tune.isProbe = false)
    (htimer : timer.isProbe = false) (hop : op.isProbe = true)
    (h : survey :: tune :: (probes ++ [timer]) = pre ++ op :: post) :
    ∃ before, pre = survey :: tune :: before ∧ (∀ o ∈ before, o ∈ probes) ∧ op ∈ probes := by
  have hne {o : ScanOp} (ho : o.isProbe = false) : o ≠ op := by
    rintro rfl
    exact absurd (ho.symm.trans hop) (by decide)
  rcases pre with _ | ⟨x, _ | ⟨y, before⟩⟩
  · exact absurd (List.cons.inj h).1 (hne hsurvey)
  · exact absurd (List.cons.inj (List.cons.inj h).2).1 (hne htune)
  · obtain ⟨rfl, htail⟩ := List.cons.inj h
    obtain ⟨rfl, hrest⟩ := List.cons.inj htail
    rcases List.append_eq_append_iff.1 hrest with
      ⟨after, hbefore, hafter⟩ | ⟨after, hprobes, hafter⟩
    · -- nothing but the timer is behind the probe requests
      have hlast : op ∈ [timer] := hafter ▸ List.mem_append_right _ List.mem_cons_self
      exact absurd (List.mem_singleton.1 hlast).symm (hne htimer)
    · cases after with
      | nil => exact absurd (List.cons.inj hafter).1.symm (hne htimer)
      | cons o after =>
          obtain rfl : op = o := (List.cons.inj hafter).1
          rw [hprobes]
          exact ⟨before, rfl, fun o ho => List.mem_append_left _ ho,
            List.mem_append_right _ List.mem_cons_self⟩

/-- Before a probe request goes out, the radio is tuned to a channel and nothing but other probe
requests comes between.  The channel is one where the channel set lets a scan transmit first; on
other channels a scan asks for the SSIDs of its command only, after a beacon without an SSID was
heard there. -/
theorem scan_initiates (h : Idle s) (hown : OwnChannels s.wdinfo)
    (hes : ∀ e ∈ es, OnOwnChannels e) {e : ScanEvent} {op : ScanOp} {pre post : List ScanOp}
    (hop : (scanStep (final scanStep s es) e).2 = pre ++ op :: post) (hprobe : op.isProbe = true) :
    ∃ ch type force before, pre =
        .survey ch type force :: .setChannelBwmode (.narrow ch) :: before ∧
      (∀ o ∈ before, o.isProbe = true) ∧
      (Permitted s.chSet ch ∨
        (∃ parm ssid wps, .cmd parm ∈ es ∧ ssid ∈ parm.ssid ∧
          ssid ∈ (final scanStep s es).ss.ssid ∧ op = .probereq (some ssid) wps) ∧
          Heard s.chSet es ch) := by
  have hinv := initiateInv_run h hown hes
  set t := final scanStep s es with ht
  have hmem : op ∈ (scanStep t e).2 := hop ▸ List.mem_append_right _ List.mem_cons_self
  obtain ⟨env, parm, rfl, hrunning⟩ : ∃ env parm, e = .operate env ∧ t.running = some parm := by
    cases e with
    | operate env =>
        rw [scanStep] at hmem
        cases hrunning : t.running with
        | none =>
            rw [hrunning] at hmem
            exact absurd hmem List.not_mem_nil
        | some parm => exact ⟨env, parm, rfl, rfl⟩
    | cmd parm =>
        rw [scanStep] at hmem
        split_ifs at hmem <;> exact absurd hmem List.not_mem_nil
    | _ => exact absurd hmem List.not_mem_nil
  have hout : (scanStep t (.operate env)).2 = (operationByState t env parm).2.1 := by
    rw [scanStep, hrunning]
  rw [hout] at hop hmem
  have hstate : t.ss.state = .process := by
    by_contra hne
    rw [silent_operationByState hne env parm op hmem] at hprobe
    exact Bool.false_ne_true hprobe
  have hprocess : operationByState t env parm = operateProcess t env := by
    rw [operationByState, hstate]
  rw [hprocess, operateProcess] at hop hmem
  have hpick := pickOwn_sitesurveyPickChBehavior (hinv.ownChannels (by rw [hstate]; decide)) env
  generalize sitesurveyPickChBehavior t env = picked at hop hmem hpick
  split_ifs at hop hmem with hnext
  · exact absurd hmem List.not_mem_nil
  · obtain ⟨c, hc⟩ := hpick.survey (not_not.1 hnext)
    obtain ⟨before, rfl, hbefore, hsent⟩ := eq_of_probe_mem rfl rfl rfl hprobe hop
    refine ⟨picked.2.2.scanCh, picked.2.2.scanType, picked.1.ss.forceSsidScan, before, rfl,
      fun o ho => ?_, ?_⟩
    · obtain rfl | ⟨ssid, wps, rfl⟩ := mem_surveyProbes (hbefore o ho) <;> rfl
    have hbegun : t.ss.state ≠ .disable := by rw [hstate]; decide
    rw [hc.scanCh]
    rcases probereq_of_surveyProbes hsent with hactive | ⟨hforce, ssid, wps, hssid, rfl⟩
    · refine Or.inl (hinv.ch hbegun c hc.mem ?_)
      rw [hc.scanType, ScanChannel.scanType] at hactive
      by_contra hpassive
      rw [if_pos (Bool.eq_true_of_not_eq_false hpassive)] at hactive
      exact absurd hactive (by decide)
    · obtain ⟨parm', hparm', hlist⟩ := hinv.ssid hbegun
      rw [hpick.same.ssid] at hssid
      have hasked : ssid ∈ parm'.ssid := by
        rw [hlist] at hssid
        exact List.mem_of_mem_filter hssid
      obtain ⟨-, info, hinfo, hnum, hcnt⟩ := hc.second hforce
      obtain ⟨i, hi⟩ := List.mem_iff_getElem?.1 hinfo
      have hfixed : (s.chSet.map ChannelInfo.fixed)[i]? = some info.fixed := by
        rw [← hinv.fixed, List.getElem?_map, hi, Option.map_some]
      rw [List.getElem?_map, Option.map_eq_some_iff] at hfixed
      obtain ⟨info', hi', heq⟩ := hfixed
      have hnum' : info'.channelNum = info.channelNum := congrArg Prod.fst heq
      exact Or.inr ⟨⟨parm', ssid, wps, hparm', hasked, hssid, rfl⟩, i, info', hi',
        hnum'.trans hnum, hinv.heard hbegun i info hi hcnt⟩

/-- A scan for one SSID, and a hidden network on its first channel. -/
def hiddenScan : List ScanEvent :=
  let cmd := ScanEvent.cmd ⟨.active, [[0x61]], [], 0, false⟩
  [cmd, .operate idleEnv, .operate idleEnv, .operate idleEnv, .operate idleEnv, .hidden 0, cmd]

theorem scan_initiates_hiddenScan :
    let s := scanInit [⟨12, true, false, 0⟩]
    (scanStep (final scanStep s hiddenScan) (.operate idleEnv)).2 =
        [.survey 12 .passive true, .setChannelBwmode (.narrow 12), .probereq (some [0x61]) false] ++
          .probereq (some [0x61]) true :: [.surveyTimer 100] ∧
      Heard s.chSet hiddenScan 12 := by
  intro s
  have hop : (scanStep (final scanStep s hiddenScan) (.operate idleEnv)).2 =
      [.survey 12 .passive true, .setChannelBwmode (.narrow 12), .probereq (some [0x61]) false] ++
        .probereq (some [0x61]) true :: [.surveyTimer 100] := by decide +kernel
  refine ⟨hop, ?_⟩
  obtain ⟨ch, type, force, before, hpre, -, hpermitted | ⟨-, hheard⟩⟩ := scan_initiates
    (idle_scanInit [⟨12, true, false, 0⟩]) ⟨rfl, by decide, rfl⟩
    (by simp [hiddenScan, OnOwnChannels]) hop rfl
  · obtain ⟨info, hinfo, -, hir, -⟩ := hpermitted
    rw [List.mem_singleton.1 hinfo] at hir
    exact absurd hir (by decide)
  · obtain ⟨i, info, hinfo, hnum, hmem⟩ := hheard
    have h12 : info.channelNum = 12 := by
      rw [List.mem_singleton.1 (List.mem_of_getElem? hinfo)]
    exact ⟨i, info, hinfo, h12, hmem⟩

end Rtl8723du.Survey
