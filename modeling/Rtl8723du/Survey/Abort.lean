import Rtl8723du.Survey.Initiate

/-!
# The abort of a scan

`rtw_scan_abort` sets a flag that `sitesurvey_cmd_hdl` looks at.  Whatever state the scan is in, the
handler gets it to its end within ten turns: passes round the `switch`, and survey commands that the
command thread takes (`scan_abort_done`).
-/

namespace Rtl8723du.Survey

open Lib Lib.Machine

/-- Behind the three channels that the P2P code scans by itself nothing follows, and without P2P
there are none.  `CONFIG_P2P_OP_CHK_SOCIAL_CH` makes the list of operation channels one longer: a
scan of them does not meet this, and its abort goes to the fourth of them each time. -/
structure AbortOk (w : WifidirectInfo) : Prop where
  none : w.p2pState = .none →
    w.scanOpChOnly = false ∧ w.findPhaseStateExchangeCnt = p2pFindphaseExNone
  social : w.scanOpChOnly = false → w.socialChan 3 = 0
  operation : w.scanOpChOnly = true →
    (if w.rxInviteScanOpChOnly then w.rxInviteOperationCh 3 else w.p2pInfoOperationCh 3) = 0

/-- The flag stays set until the scan is over. -/
def Aborting : ScanEvent → Prop
  | .abort flag => flag = true
  | .p2p wdinfo => AbortOk wdinfo
  | _ => True

/-- The command thread takes a command, or goes on with the one that it has. -/
def isTurn (s : ScanCtl) : ScanEvent → Bool
  | .cmd _ => !s.running.isSome
  | .operate _ => s.running.isSome
  | _ => false

/-- How far the end is from a pass, once the flag is set. -/
def distance (force : Bool) : ScanState → ℕ
  | .disable | .complete => 0
  | .process => if force then 1 else 3
  | .psAnncWait | .enter | .leaveOp | .p2pListen => 4
  | .start | .leavingOp | .toP2pListen => 6
  | .backOp => 7
  | .backingOp => 8

/-- How far the end is. -/
def remaining (s : ScanCtl) : ℕ :=
  distance s.ss.forceSsidScan s.ss.state + if s.running.isSome then 0 else 1

variable {s s' : ScanCtl} {env : ScanEnv} {es : List ScanEvent}

lemma distance_le (force : Bool) (state : ScanState) : distance force state ≤ 8 := by
  cases state <;> cases force <;> decide

/-! ### The pick -/

/-- What `sitesurvey_pick_ch_behavior` does when the flag is set: the scan ends, or the last channel
is visited once more. -/
structure PickAbort (s : ScanCtl) (p : ScanCtl × ScanState × Pick) : Prop where
  abortOk : AbortOk p.1.wdinfo
  scanAbort : p.1.scanAbort = true
  next : p.2.1 = .complete ∨
    p.2.1 = .process ∧ s.ss.forceSsidScan = false ∧ p.1.ss.forceSsidScan = true

lemma pickAbort_none (habort : s.scanAbort = true) (hok : AbortOk s.wdinfo)
    (hp2p : s.wdinfo.p2pState = .none) (env : ScanEnv) :
    PickAbort s (sitesurveyPickChBehavior s env) := by
  obtain ⟨hop, hcnt⟩ := hok.none hp2p
  obtain ⟨t, ht, hw, hta, hidx, hforce⟩ : ∃ t, scanAbortHdl s = t ∧ t.wdinfo = s.wdinfo ∧
      t.scanAbort = true ∧ t.ss.ch[t.ss.channelIdx]? = none ∧
      t.ss.forceSsidScan = s.ss.forceSsidScan := by
    rw [scanAbortHdl, if_pos habort, if_neg (not_not.2 hp2p)]
    exact ⟨_, rfl, rfl, habort, by simp, rfl⟩
  have hsocial : t.wdinfo.findphaseExIsSocial = false := by
    rw [hw, WifidirectInfo.findphaseExIsSocial, hcnt]
    decide
  have hneeded : s.wdinfo.findphaseExIsNeeded = false := by
    rw [WifidirectInfo.findphaseExIsNeeded, hcnt]
    simp
  set flags := rtwScanBackopDecision t.ss env with hflags
  rw [sitesurveyPickChBehavior, ht, pickCh, if_neg (by rw [hw, hop]; simp),
    if_neg (by rw [hsocial]; simp)]
  dsimp only
  rw [← hflags]
  rcases forceUnlessBackop_cases t flags with ⟨-, heq⟩ | ⟨-, heq⟩ | ⟨hdue, hhidden, -, heq⟩
  · rw [heq, pickScanCh, hidx, if_neg (by simp), hw, hneeded]
    exact ⟨hw ▸ hok, hta, Or.inl rfl⟩
  · rw [heq, pickScanCh, hidx, if_neg (by simp), hw, hneeded]
    exact ⟨hw ▸ hok, hta, Or.inl rfl⟩
  · obtain ⟨-, hold, -, c, hc, -⟩ := hiddenBehind_cases hhidden
    rw [heq, pickScanCh, hc]
    dsimp only
    rw [hw, hneeded]
    have hnext : s.ss.forceSsidScan = false := hforce ▸ hold
    by_cases hch : c.hwValue ≠ 0
    · rw [if_pos hch]
      by_cases hback : flags ≠ 0
      · rw [if_pos hback, if_pos (Nat.not_le.1 fun hle => hdue ⟨hback, hle⟩)]
        exact ⟨hok, hta, Or.inr ⟨rfl, hnext, rfl⟩⟩
      · rw [if_neg hback]
        exact ⟨hok, hta, Or.inr ⟨rfl, hnext, rfl⟩⟩
    · rw [if_neg hch]
      exact ⟨hok, hta, Or.inl rfl⟩

lemma pickAbort_p2p (habort : s.scanAbort = true) (hok : AbortOk s.wdinfo)
    (hp2p : s.wdinfo.p2pState ≠ .none) (env : ScanEnv) :
    PickAbort s (sitesurveyPickChBehavior s env) := by
  obtain ⟨t, ht, hw, hta, hidx⟩ : ∃ t, scanAbortHdl s = t ∧
      t.wdinfo = { s.wdinfo with findPhaseStateExchangeCnt := p2pFindphaseExMax } ∧
      t.scanAbort = true ∧ t.ss.channelIdx = 3 := by
    rw [scanAbortHdl, if_pos habort, if_pos hp2p]
    exact ⟨_, rfl, rfl, habort, rfl⟩
  have hok' : AbortOk t.wdinfo := by
    rw [hw]
    exact ⟨fun hnone => absurd hnone hp2p, hok.social, hok.operation⟩
  have hneeded : t.wdinfo.findphaseExIsNeeded = false := by rw [hw]; rfl
  have hpick : (pickCh t env).1 = t ∧ (pickCh t env).2.scanCh = 0 := by
    by_cases hop : t.wdinfo.scanOpChOnly = true
    · rw [pickCh, if_pos hop]
      refine ⟨rfl, ?_⟩
      rw [pickOperationCh, hidx, hw]
      rw [hw] at hop
      exact hok.operation hop
    · have hsocial : t.wdinfo.findphaseExIsSocial = true := by rw [hw]; rfl
      rw [pickCh, if_neg hop, if_pos hsocial]
      refine ⟨rfl, ?_⟩
      rw [pickSocialChan, hidx, hw]
      rw [hw] at hop
      exact hok.social (Bool.eq_false_iff.2 hop)
  rw [sitesurveyPickChBehavior, ht]
  dsimp only
  rw [if_neg (not_not.2 hpick.2), hpick.1, hneeded]
  exact ⟨hok', hta, Or.inl rfl⟩

lemma pickAbort_sitesurveyPickChBehavior (habort : s.scanAbort = true) (hok : AbortOk s.wdinfo)
    (env : ScanEnv) : PickAbort s (sitesurveyPickChBehavior s env) := by
  by_cases hp2p : s.wdinfo.p2pState = .none
  · exact pickAbort_none habort hok hp2p env
  · exact pickAbort_p2p habort hok hp2p env

/-! ### Turns -/

/-- The scan is over, or nearer to its end than before. -/
def Nearer (s s' : ScanCtl) : Prop :=
  s'.ss.state = .disable ∨
    AbortOk s'.wdinfo ∧ s'.scanAbort = true ∧ remaining s' < remaining s

lemma remaining_of_running (hrunning : s.running.isSome = true) :
    remaining s = distance s.ss.forceSsidScan s.ss.state := by
  rw [remaining, if_pos hrunning, Nat.add_zero]

lemma distance_process_le (force : Bool) : distance force .process ≤ 3 := by
  cases force <;> decide

variable {pass : Pass}

/-- A pass that goes on. -/
lemma nearer_of_again (hrunning : s.running.isSome = true) (hsame : pass.1.running = s.running)
    (hagain : pass.2.2 = true) (hok : AbortOk pass.1.wdinfo) (habort : pass.1.scanAbort = true)
    (hlt : distance pass.1.ss.forceSsidScan pass.1.ss.state <
      distance s.ss.forceSsidScan s.ss.state) : Nearer s (after pass) := by
  refine Or.inr ?_
  rw [after, if_pos hagain, remaining_of_running hrunning,
    remaining_of_running (by rw [hsame]; exact hrunning)]
  exact ⟨hok, habort, hlt⟩

/-- A pass after which the handler returns. -/
lemma nearer_of_leave (hrunning : s.running.isSome = true) (hagain : pass.2.2 = false)
    (hok : AbortOk pass.1.wdinfo) (habort : pass.1.scanAbort = true)
    (hlt : distance pass.1.ss.forceSsidScan pass.1.ss.state + 1 <
      distance s.ss.forceSsidScan s.ss.state) : Nearer s (after pass) := by
  refine Or.inr ?_
  rw [after, if_neg (by rw [hagain]; exact Bool.false_ne_true), remaining_of_running hrunning]
  exact ⟨hok, habort, hlt⟩

lemma nearer_operateProcess (hrunning : s.running.isSome = true) (hstate : s.ss.state = .process)
    (habort : s.scanAbort = true) (hok : AbortOk s.wdinfo) (env : ScanEnv) :
    Nearer s (after (operateProcess s env)) := by
  have hpick := pickAbort_sitesurveyPickChBehavior habort hok env
  have hscan := sameScan_sitesurveyPickChBehavior s env
  rw [operateProcess]
  generalize sitesurveyPickChBehavior s env = picked at hpick hscan ⊢
  rcases hpick.next with hnext | ⟨hnext, hfirst, hsecond⟩
  · rw [if_pos (by rw [hnext]; decide), hnext]
    refine nearer_of_again hrunning hscan.running rfl hpick.abortOk hpick.scanAbort ?_
    change 0 < distance s.ss.forceSsidScan s.ss.state
    rw [hstate]
    cases s.ss.forceSsidScan <;> decide
  · rw [if_neg (not_not.2 hnext)]
    refine nearer_of_leave hrunning rfl hpick.abortOk hpick.scanAbort ?_
    rw [hscan.state, hstate, hsecond, hfirst]
    decide

lemma nearer_operationByState (hrunning : s.running.isSome = true)
    (hdisable : s.ss.state ≠ .disable) (hwait : s.ss.state ≠ .psAnncWait)
    (habort : s.scanAbort = true) (hok : AbortOk s.wdinfo) (env : ScanEnv)
    (parm : SitesurveyParm) : Nearer s (after (operationByState s env parm)) := by
  have hsame := running_operationByState s env parm
  have hprocess := distance_process_le s.ss.forceSsidScan
  rw [operationByState] at hsame ⊢
  cases hs : s.ss.state with
  | disable => exact absurd hs hdisable
  | psAnncWait => exact absurd hs hwait
  | process => exact nearer_operateProcess hrunning hs habort hok env
  | complete => exact Or.inl rfl
  | start =>
      rw [hs] at hsame
      change Nearer s (after (operateStart s env))
      change (operateStart s env).1.running = _ at hsame
      rw [operateStart] at hsame ⊢
      by_cases hassoc : (rtwPsAnnc env true).1 = true
      · rw [if_pos hassoc]
        exact nearer_of_leave hrunning rfl hok habort (by rw [hs]; exact (by decide : 5 < 6))
      · rw [if_neg hassoc]
        exact nearer_of_again hrunning rfl rfl hok habort (by rw [hs]; exact (by decide : 4 < 6))
  | enter =>
      refine nearer_of_again hrunning rfl rfl hok habort ?_
      rw [hs]
      exact Nat.lt_succ_of_le hprocess
  | backingOp =>
      exact nearer_of_again hrunning rfl rfl hok habort (by rw [hs]; exact (by decide : 7 < 8))
  | backOp =>
      dsimp only
      rw [operateBackOp, if_pos (Or.inr habort)]
      exact nearer_of_again hrunning rfl rfl hok habort (by rw [hs]; exact (by decide : 6 < 7))
  | leavingOp =>
      dsimp only
      rw [operateLeavingOp]
      split_ifs
      · exact nearer_of_leave hrunning rfl hok habort (by rw [hs]; exact (by decide : 5 < 6))
      · exact nearer_of_again hrunning rfl rfl hok habort (by rw [hs]; exact (by decide : 4 < 6))
      · exact nearer_of_again hrunning rfl rfl hok habort (by rw [hs]; exact (by decide : 4 < 6))
  | leaveOp =>
      refine nearer_of_again hrunning rfl rfl hok habort ?_
      rw [hs]
      exact Nat.lt_succ_of_le hprocess
  | toP2pListen =>
      -- in a P2P state the abort goes on behind the social channels, and asks nothing of the list
      have hlisten : P2pState.findPhaseListen ≠ .none := by decide
      refine nearer_of_leave hrunning rfl
        ⟨fun hnone => absurd hnone hlisten, hok.social, hok.operation⟩ habort ?_
      rw [hs]
      exact (by decide : 5 < 6)
  | p2pListen =>
      refine nearer_of_again hrunning rfl rfl hok habort ?_
      rw [hs]
      exact Nat.lt_succ_of_le hprocess

lemma nearer_cmdEnter {r : Radio} (htuned : Tuned s r) (hrunning : s.running = none)
    (habort : s.scanAbort = true) (hok : AbortOk s.wdinfo) (parm : SitesurveyParm) :
    Nearer s (cmdEnter s parm) := by
  obtain ⟨-, hw, hstate⟩ := sameTables_cmdEnter s parm
  have hforce : (cmdEnter s parm).ss.forceSsidScan = s.ss.forceSsidScan ∧
      (cmdEnter s parm).scanAbort = s.scanAbort := by
    rw [cmdEnter, increaseIdx, updateScanState]
    split_ifs <;> exact ⟨rfl, rfl⟩
  refine Or.inr ⟨hw ▸ hok, hforce.2.trans habort, ?_⟩
  have hbefore : remaining s = distance s.ss.forceSsidScan s.ss.state + 1 := by
    rw [remaining, hrunning]
    rfl
  rw [remaining_of_running (by simp [cmdEnter]), hbefore, hforce.1, hstate]
  refine Nat.lt_succ_of_le ?_
  rcases htuned.next with ⟨hnext, -⟩ | ⟨hwait, hnext⟩
  · rw [hnext]
  · rw [hwait]
    rcases hnext with hnext | hnext <;> rw [hnext] <;> exact le_rfl

/-- Every turn brings the end nearer, and nothing else takes it away. -/
lemma scanStep_aborting {r : Radio} (hinv : ScanInv s r) {e : ScanEvent} (he : Aborting e)
    (hdisable : s.ss.state ≠ .disable) (habort : s.scanAbort = true) (hok : AbortOk s.wdinfo) :
    (scanStep s e).1.ss.state = .disable ∨
      (AbortOk (scanStep s e).1.wdinfo ∧ (scanStep s e).1.scanAbort = true) ∧
        remaining (scanStep s e).1 + (if isTurn s e then 1 else 0) ≤ remaining s := by
  have hturn {s' : ScanCtl} (h : Nearer s s') {turn : Bool} :
      s'.ss.state = .disable ∨ (AbortOk s'.wdinfo ∧ s'.scanAbort = true) ∧
        remaining s' + (if turn then 1 else 0) ≤ remaining s := by
    refine h.imp_right fun ⟨hok', habort', hlt⟩ => ⟨⟨hok', habort'⟩, ?_⟩
    split_ifs <;> omega
  cases e with
  | cmd parm =>
      rw [scanStep, isTurn]
      by_cases hrunning : s.running.isSome = true
      · rw [if_pos hrunning, hrunning]
        exact Or.inr ⟨⟨hok, habort⟩, le_rfl⟩
      · rw [if_neg hrunning]
        exact hturn (nearer_cmdEnter hinv.tuned (by simpa using hrunning) habort hok parm)
  | operate env =>
      rw [isTurn]
      cases hrunning : s.running with
      | none =>
          have hstep : scanStep s (.operate env) = (s, []) := by rw [scanStep, hrunning]
          rw [hstep]
          exact Or.inr ⟨⟨hok, habort⟩, le_rfl⟩
      | some parm =>
          have hsome : s.running.isSome = true := by rw [hrunning]; rfl
          have hstep : (scanStep s (.operate env)).1 = after (operationByState s env parm) := by
            rw [scanStep, hrunning]
            rfl
          rw [hstep]
          exact hturn (nearer_operationByState hsome hdisable (hinv.running hsome) habort hok env
            parm)
  | hidden i => exact Or.inr ⟨⟨hok, habort⟩, le_rfl⟩
  | abort flag => exact Or.inr ⟨⟨hok, he⟩, le_rfl⟩
  | p2p wdinfo => exact Or.inr ⟨⟨he, habort⟩, le_rfl⟩

/-- Once the flag is set, ten turns are enough for the scan to be over. -/
theorem scan_abort_done (h : Idle s) (begun : List ScanEvent)
    (habort : (final scanStep s begun).scanAbort = true)
    (hok : AbortOk (final scanStep s begun).wdinfo) (hes : ∀ e ∈ es, Aborting e)
    (hturns : 10 ≤ turns scanStep isTurn (final scanStep s begun) es) :
    ∃ pre post, es = pre ++ post ∧ (final scanStep s (begun ++ pre)).ss.state = .disable := by
  have hlt : remaining (final scanStep s begun) <
      turns scanStep isTurn (final scanStep s begun) es := by
    have hdistance := distance_le (final scanStep s begun).ss.forceSsidScan
      (final scanStep s begun).ss.state
    rw [remaining]
    split_ifs <;> omega
  have halong : Along scanStep (fun s e => Aborting e ∧ ∃ r, ScanInv s r)
      (final scanStep s begun) es := by
    refine along_iff.2 fun pre e post hsplit => ⟨hes e (by simp [hsplit]), ?_⟩
    rw [← final_append]
    exact ⟨_, (scanInv_run h (begun ++ pre)).2⟩
  obtain ⟨pre, post, rfl, hdone⟩ := reaches_of_turns
    (I := fun s => AbortOk s.wdinfo ∧ s.scanAbort = true) (G := fun s => s.ss.state = .disable)
    (μ := remaining)
    (fun s e ⟨he, r, hinv⟩ ⟨hok, habort⟩ hgoal => scanStep_aborting hinv he hgoal habort hok)
    ⟨hok, habort⟩ halong hlt
  exact ⟨pre, post, rfl, by rw [final_append]; exact hdone⟩

/-- A scan that is aborted before it has left the operating channel. -/
def abortedScan : List ScanEvent :=
  [.cmd ⟨.active, [], [], 0, false⟩, .operate idleEnv, .operate idleEnv, .abort true]

theorem scan_abort_done_abortedScan :
    let cmd := ScanEvent.cmd ⟨.active, [], [], 0, false⟩
    ∃ pre post, List.replicate 3 (.operate idleEnv) ++ cmd ::
        List.replicate 5 (.operate idleEnv) ++ [cmd] = pre ++ post ∧
      (final scanStep (scanInit [⟨1, false, false, 0⟩]) (abortedScan ++ pre)).ss.state =
        .disable :=
  scan_abort_done (idle_scanInit [⟨1, false, false, 0⟩]) abortedScan rfl
    ⟨fun _ => ⟨rfl, rfl⟩, fun _ => rfl, nofun⟩ (by simp [Aborting]) (by decide +kernel)

end Rtl8723du.Survey
