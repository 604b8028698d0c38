import Rtl8723du.Lib.Machine
import Rtl8723du.Survey.ScanChannels

/-!
# Site surveys

`sitesurvey_cmd_hdl` is called by the command thread for the command that starts a scan and for each
one that the survey timer sends afterwards.  It goes round the `switch` over the scan state, by
`goto operation_by_state`, until a case leaves it.  Each pass is a step of its own here, because the
abort flag, the beacons and the P2P code may change what the next pass sees.
-/

namespace Rtl8723du.Survey

/-- `SCAN_DISABLE` to `SCAN_COMPLETE`. -/
inductive ScanState
  | disable | start | psAnncWait | enter | process
  | backingOp | backOp | leavingOp | leaveOp
  | toP2pListen | p2pListen | complete
deriving DecidableEq, Repr

/-- `rfctl->offch_state`. -/
inductive OffchState | none | leavingOp | leaveOp | backingOp
deriving DecidableEq, Repr

/-- `RT_SCAN_TYPE`. -/
inductive ScanType | passive | active
deriving DecidableEq, Repr

/-- `enum P2P_STATE`, with the states that scans do not ask for as `other`. -/
inductive P2pState
  | none | idle | listen | scan | findPhaseListen | findPhaseSearch
  | other (code : ℕ)
deriving DecidableEq, Repr

/-- `SS_BACKOP_EN`. -/
abbrev ssBackopEn : UInt8 := 0x01

/-- `SS_BACKOP_EN_NL`. -/
abbrev ssBackopEnNl : UInt8 := 0x02

/-- `SS_BACKOP_PS_ANNC`. -/
abbrev ssBackopPsAnnc : UInt8 := 0x10

/-- `SS_BACKOP_TX_RESUME`. -/
abbrev ssBackopTxResume : UInt8 := 0x20

/-- `RTW_CHANNEL_SCAN_AMOUNT`. -/
abbrev rtwChannelScanAmount : ℕ := 51

/-- `P2P_FINDPHASE_EX_NONE`. -/
abbrev p2pFindphaseExNone : ℕ := 0

/-- `P2P_FINDPHASE_EX_SOCIAL_FIRST`. -/
abbrev p2pFindphaseExSocialFirst : ℕ := 2

/-- `P2P_FINDPHASE_EX_MAX`. -/
abbrev p2pFindphaseExMax : ℕ := 4

/-- A channel, its width in MHz and the place of the primary part. -/
structure ChSetting where
  ch : ℕ
  bw : ℕ
  offset : ℕ
deriving DecidableEq, Repr

/-- A channel of 20 MHz, `CHANNEL_WIDTH_20` with `HAL_PRIME_CHNL_OFFSET_DONT_CARE`. -/
def ChSetting.narrow (ch : ℕ) : ChSetting := ⟨ch, 20, 0⟩

/-- `struct wifidirect_info`.  The arrays are the memory from their first element on. -/
structure WifidirectInfo where
  p2pState : P2pState
  preP2pState : P2pState
  findPhaseStateExchangeCnt : ℕ
  rxInviteScanOpChOnly : Bool
  rxInviteOperationCh : ℕ → ℕ
  p2pInfoScanOpChOnly : Bool
  p2pInfoOperationCh : ℕ → ℕ
  socialChan : ℕ → ℕ
  listenChannel : ℕ
  listenDwell : ℕ
  /-- `driver_interface == DRIVER_CFG80211`. -/
  cfg80211 : Bool
  /-- `adapter_wdev_data(iface)->p2p_enabled`. -/
  p2pEnabled : Bool

namespace WifidirectInfo

/-- `rtw_cfg80211_is_p2p_scan`. -/
def isP2pScan (w : WifidirectInfo) : Bool := w.p2pState == .scan || w.p2pState == .findPhaseSearch

/-- The scan visits the operating channels of a peer only. -/
def scanOpChOnly (w : WifidirectInfo) : Bool := w.rxInviteScanOpChOnly || w.p2pInfoScanOpChOnly

/-- `rtw_p2p_findphase_ex_is_social`. -/
def findphaseExIsSocial (w : WifidirectInfo) : Bool :=
  p2pFindphaseExSocialFirst ≤ w.findPhaseStateExchangeCnt

/-- `rtw_p2p_findphase_ex_is_needed`. -/
def findphaseExIsNeeded (w : WifidirectInfo) : Bool :=
  w.findPhaseStateExchangeCnt < p2pFindphaseExMax &&
    w.findPhaseStateExchangeCnt != p2pFindphaseExNone && !w.scanOpChOnly

end WifidirectInfo

/-- `struct sitesurvey_parm`.  An SSID of length zero is none. -/
structure SitesurveyParm where
  scanMode : ScanType
  ssid : List (List UInt8)
  ch : List ScanChannel
  igi : ℕ
  acs : Bool

/-- `struct ss_res`. -/
structure SsRes where
  state : ScanState
  nextState : ScanState
  channelIdx : ℕ
  forceSsidScan : Bool
  scanMode : ScanType
  scanChMs : ℕ
  /-- `rx_ampdu_accept` or `rx_ampdu_size` is not the invalid value. -/
  rxAmpdu : Bool
  igiScan : ℕ
  igiBeforeScan : ℕ
  backopFlagsSta : UInt8
  backopFlagsAp : UInt8
  backopFlags : UInt8
  scanCnt : ℕ
  scanCntMax : ℕ
  backopTime : ℕ
  backopMs : ℕ
  /-- The SSIDs that are not empty: `ssid_num` counts them. -/
  ssid : List (List UInt8)
  ch : List ScanChannel
  igi : ℕ
  acs : Bool

/-- What a scan reads and writes. -/
structure ScanCtl where
  ss : SsRes
  offchState : OffchState
  chSet : List ChannelInfo
  wdinfo : WifidirectInfo
  scanAbort : Bool
  /-- The `token` of `rtw_scan_sparse`. -/
  token : ℕ
  /-- The command that the thread is in `sitesurvey_cmd_hdl` with. -/
  running : Option SitesurveyParm

/-- What one pass round the `switch` finds in the rest of the driver. -/
structure ScanEnv where
  now : ℕ
  /-- The numbers of `rtw_mi_status`. -/
  staLdNum : ℕ
  staNum : ℕ
  apLdNum : ℕ
  apNum : ℕ
  /-- The interface is a station that is associated to an access point. -/
  clientAssociated : Bool
  /-- `rtw_mi_get_ch_setting_union`, where it does not give zero. -/
  chSettingUnion : Option ChSetting
  /-- `cur_channel`, `cur_bwmode` and `cur_ch_offset`. -/
  cur : ChSetting
  /-- The initial gain of the moment. -/
  igi : ℕ
  policy : ScanPolicy

/-- What the driver does to the radio, or asks of others. -/
inductive ScanOp
  | rxAmpduApply
  | checkTxbuf
  | macidSleepAllUsed | macidWakeupAllUsed
  /-- Null data frames that tell the access point that the station sleeps, or no longer does. -/
  | psAnnc (ps : Bool)
  | abilityBackup | funcForOffchannel | abilityRestore
  /-- `HAL_ODM_INITIAL_GAIN`; 255 turns the dynamic gain on. -/
  | initialGain (igi : ℕ)
  | writeDig (igi : ℕ)
  /-- `sitesurvey_set_msr`. -/
  | msrNoLink (enter : Bool)
  /-- `HW_VAR_MLME_SITESURVEY`. -/
  | sitesurvey (val8 : Bool)
  | setChannelBwmode (setting : ChSetting)
  /-- The call of `site_survey`, with `force_ssid_scan` as it stands. -/
  | survey (ch : ℕ) (type : ScanType) (forceSsidScan : Bool)
  | probereqP2p
  /-- `issue_probereq`, and `issue_probereq_ex` without WPS element. -/
  | probereq (ssid : Option (List UInt8)) (appendWps : Bool)
  | surveyTimer (ms : ℕ)
  | findPhaseTimer (ms : ℕ)
  | xmitSchedule
  | surveydone (acs : Bool)
  | bssCoexistPacket
deriving DecidableEq, Repr

/-- `sitesurvey_set_offch_state`. -/
def sitesurveySetOffchState (old : OffchState) : ScanState → OffchState
  | .disable | .backOp => .none
  | .start | .leavingOp => .leavingOp
  | .enter | .leaveOp => .leaveOp
  | .complete | .backingOp => .backingOp
  | _ => old

namespace ScanCtl

/-- `mlmeext_set_scan_state`. -/
def setScanState (s : ScanCtl) (state : ScanState) : ScanCtl :=
  { s with
    ss := { s.ss with state := state, nextState := state }
    offchState := sitesurveySetOffchState s.offchState state }

/-- The scan state that `mlmeext_set_scan_next_state` leaves for the next command. -/
def setScanNextState (s : ScanCtl) (state : ScanState) : ScanCtl :=
  { s with ss := { s.ss with nextState := state } }

/-- The handler returns. -/
def leave (s : ScanCtl) : ScanCtl := { s with running := none }

end ScanCtl

/-- `sitesurvey_res_reset`. -/
def sitesurveyResReset (s : ScanCtl) (policy : ScanPolicy) (parm : SitesurveyParm) : ScanCtl :=
  let decision := rtwScanChDecision policy s.chSet rtwChannelScanAmount s.token parm.ch parm.acs
  { s with
    token := decision.2
    chSet := s.chSet.map fun c => { c with hiddenBssCnt := 0 }
    ss := { s.ss with
      channelIdx := 0
      forceSsidScan := false
      igiScan := 0
      igiBeforeScan := 0
      scanCnt := 0
      ssid := parm.ssid.filter fun ssid => ssid != []
      ch := decision.1
      igi := parm.igi
      scanMode := parm.scanMode
      acs := parm.acs } }

/-- `rtw_ps_annc` on the one interface: whether there was an access point to tell. -/
def rtwPsAnnc (env : ScanEnv) (ps : Bool) : Bool × List ScanOp :=
  (env.clientAssociated, if env.clientAssociated then [.psAnnc ps] else [])

/-- The gain of the scan, in `sitesurvey_set_igi`. -/
def scanIgi (s : ScanCtl) : ℕ :=
  if s.wdinfo.cfg80211 && s.wdinfo.isP2pScan then 0x30
  else if s.wdinfo.p2pState ≠ .none then 0x28
  else if s.ss.igi ≠ 0 then s.ss.igi
  else 0x1e

/-- `rtw_scan_backop_decision`. -/
def rtwScanBackopDecision (ss : SsRes) (env : ScanEnv) : UInt8 :=
  (if (env.staLdNum ≠ 0 ∧ ss.backopFlagsSta &&& ssBackopEn ≠ 0) ∨
      (env.staNum ≠ 0 ∧ ss.backopFlagsSta &&& ssBackopEnNl ≠ 0) then ss.backopFlagsSta else 0) |||
    if (env.apLdNum ≠ 0 ∧ ss.backopFlagsAp &&& ssBackopEn ≠ 0) ∨
      (env.apNum ≠ 0 ∧ ss.backopFlagsAp &&& ssBackopEnNl ≠ 0) then ss.backopFlagsAp else 0

/-- `scan_abort_hdl`. -/
def scanAbortHdl (s : ScanCtl) : ScanCtl :=
  if s.scanAbort then
    if s.wdinfo.p2pState ≠ .none then
      { s with
        wdinfo := { s.wdinfo with findPhaseStateExchangeCnt := p2pFindphaseExMax }
        ss := { s.ss with channelIdx := 3 } }
    else { s with ss := { s.ss with channelIdx := s.ss.ch.length } }
  else s

/-- A hidden network was heard on the passive channel before, and there are SSIDs to probe for.
Without radar detection no channel is out of bounds. -/
def hiddenBehind (s : ScanCtl) : Bool :=
  s.ss.channelIdx != 0 && !s.ss.forceSsidScan && s.ss.ssid.length != 0 &&
    (s.ss.ch[s.ss.channelIdx - 1]?).any fun c => c.passiveScan

/-- `ch_set_idx != -1` and `hidden_bss_cnt` of that entry. -/
def hiddenHeard (s : ScanCtl) : Bool :=
  ((s.ss.ch[s.ss.channelIdx - 1]?).bind fun c =>
    (rtwChsetSearchCh s.chSet c.hwValue).bind fun i => s.chSet[i]?).any fun info =>
      info.hiddenBssCnt != 0

/-- Back to the channel before if it has to be probed, in `sitesurvey_pick_ch_behavior`. -/
def forceBack (s : ScanCtl) : ScanCtl :=
  if hiddenBehind s then
    if hiddenHeard s then
      { s with ss := { s.ss with channelIdx := s.ss.channelIdx - 1, forceSsidScan := true } }
    else s
  else { s with ss := { s.ss with forceSsidScan := false } }

/-- The channel and the type of the next survey, and the flags of a stay on the operating
channel. -/
structure Pick where
  scanCh : ℕ := 0
  scanType : ScanType := .passive
  backopFlags : UInt8 := 0

/-- `scan_op_ch_only`: the operating channels of the peer. -/
def pickOperationCh (s : ScanCtl) : Pick where
  scanCh :=
    if s.wdinfo.rxInviteScanOpChOnly then s.wdinfo.rxInviteOperationCh s.ss.channelIdx
    else s.wdinfo.p2pInfoOperationCh s.ss.channelIdx
  scanType := .active

/-- The social channels of a find phase. -/
def pickSocialChan (s : ScanCtl) : Pick where
  scanCh := s.wdinfo.socialChan s.ss.channelIdx
  scanType :=
    match (rtwChsetSearchCh s.chSet (s.wdinfo.socialChan s.ss.channelIdx)).bind
        fun i => s.chSet[i]? with
    | some info => if info.noIr then .passive else .active
    | none => .active

/-- The channels of the scan. -/
def pickScanCh (s : ScanCtl) (backopFlags : UInt8) : Pick :=
  match s.ss.ch[s.ss.channelIdx]? with
  | some c =>
      { scanCh := c.hwValue
        scanType := if c.passiveScan then .passive else .active
        backopFlags := backopFlags }
  | none => { backopFlags := backopFlags }

/-- The channel before is left as it is if it is time to go back to the operating channel. -/
def forceUnlessBackop (s : ScanCtl) (backopFlags : UInt8) : ScanCtl :=
  if backopFlags ≠ 0 ∧ s.ss.scanCntMax ≤ s.ss.scanCnt then s else forceBack s

/-- The channel that `sitesurvey_pick_ch_behavior` looks at. -/
def pickCh (s : ScanCtl) (env : ScanEnv) : ScanCtl × Pick :=
  if s.wdinfo.scanOpChOnly then (s, pickOperationCh s)
  else if s.wdinfo.findphaseExIsSocial then (s, pickSocialChan s)
  else
    let backopFlags := rtwScanBackopDecision s.ss env
    (forceUnlessBackop s backopFlags, pickScanCh (forceUnlessBackop s backopFlags) backopFlags)

/-- `sitesurvey_pick_ch_behavior`: the next state, and what to survey in `SCAN_PROCESS`. -/
def sitesurveyPickChBehavior (s : ScanCtl) (env : ScanEnv) : ScanCtl × ScanState × Pick :=
  let (s, pick) := pickCh (scanAbortHdl s) env
  if pick.scanCh ≠ 0 then
    if pick.backopFlags ≠ 0 then
      if s.ss.scanCnt < s.ss.scanCntMax then
        ({ s with ss := { s.ss with scanCnt := s.ss.scanCnt + 1 } }, .process, pick)
      else
        ({ s with ss := { s.ss with backopFlags := pick.backopFlags, scanCnt := 0 } }, .backingOp,
          pick)
    else (s, .process, pick)
  else
    ({ s with ss := { s.ss with scanCnt := 0 } },
      if s.wdinfo.findphaseExIsNeeded then .toP2pListen else .complete, pick)

/-- The probe requests of `site_survey`. -/
def surveyProbes (s : ScanCtl) (wifiSpec : Bool) (scanType : ScanType) : List ScanOp :=
  let probe (ssid : Option (List UInt8)) : List ScanOp :=
    [.probereq ssid wifiSpec, .probereq ssid true]
  let ssidScan := s.ss.ssid.flatMap fun ssid => probe (some ssid)
  match scanType with
  | .passive => if s.ss.forceSsidScan then ssidScan else []
  | .active =>
      if s.wdinfo.isP2pScan then [.probereqP2p, .probereqP2p, .probereqP2p]
      else (if s.ss.scanMode = .active then probe none else []) ++ ssidScan

/-- `site_survey`. -/
def siteSurvey (s : ScanCtl) (wifiSpec : Bool) (pick : Pick) : List ScanOp :=
  .survey pick.scanCh pick.scanType s.ss.forceSsidScan ::
    .setChannelBwmode (.narrow pick.scanCh) :: surveyProbes s wifiSpec pick.scanType

/-- The setting that `survey_done_set_ch_bw` goes back to. -/
def surveyDoneChBw (s : ScanCtl) (env : ScanEnv) : ChSetting :=
  match env.chSettingUnion with
  | some setting => setting
  | none =>
      if (!s.wdinfo.cfg80211 || s.wdinfo.p2pEnabled) && s.wdinfo.p2pState == .listen &&
          s.wdinfo.listenChannel != 0 then
        .narrow s.wdinfo.listenChannel
      else env.cur

/-! ### The cases of the `switch`

Each gives the state, what has been done, and whether it ends with `goto operation_by_state`. -/

/-- What a case leaves. -/
abbrev Pass := ScanCtl × List ScanOp × Bool

/-- `case SCAN_DISABLE`. -/
def operateDisable (s : ScanCtl) (env : ScanEnv) (parm : SitesurveyParm) : Pass :=
  ((sitesurveyResReset s env.policy parm).setScanState .start, [], true)

/-- `case SCAN_START`: prepare to leave the operating channel. -/
def operateStart (s : ScanCtl) (env : ScanEnv) : Pass :=
  let ops := (if s.ss.rxAmpdu then [ScanOp.rxAmpduApply] else []) ++
    [ScanOp.checkTxbuf, .macidSleepAllUsed] ++ (rtwPsAnnc env true).2
  if (rtwPsAnnc env true).1 then
    -- delay 50ms to protect nulldata(1)
    ((s.setScanState .psAnncWait).setScanNextState .enter, ops ++ [ScanOp.surveyTimer 50], false)
  else (s.setScanState .enter, ops, true)

/-- `case SCAN_ENTER`. -/
def operateEnter (s : ScanCtl) (env : ScanEnv) : Pass :=
  (({ s with ss := { s.ss with igiScan := scanIgi s, igiBeforeScan := env.igi } }).setScanState
      .process,
    [.abilityBackup, .initialGain (scanIgi s), .funcForOffchannel, .msrNoLink true,
      .sitesurvey true], true)

/-- `case SCAN_PROCESS`. -/
def operateProcess (s : ScanCtl) (env : ScanEnv) : Pass :=
  let picked := sitesurveyPickChBehavior s env
  if picked.2.1 ≠ .process then (picked.1.setScanState picked.2.1, [], true)
  else
    (picked.1,
      siteSurvey picked.1 env.policy.wifiSpec picked.2.2 ++ [.surveyTimer picked.1.ss.scanChMs],
      false)

/-- `case SCAN_BACKING_OP`. -/
def operateBackingOp (s : ScanCtl) (env : ScanEnv) : Pass :=
  let back := env.chSettingUnion.getD env.cur
  let annc := if s.ss.backopFlags &&& ssBackopPsAnnc ≠ 0 then
    ScanOp.writeDig s.ss.igiBeforeScan :: .macidWakeupAllUsed :: (rtwPsAnnc env false).2 else []
  let resume := if s.ss.backopFlags &&& ssBackopTxResume ≠ 0 then [ScanOp.xmitSchedule] else []
  ({ s.setScanState .backOp with
      ss := { (s.setScanState .backOp).ss with backopTime := env.now } },
    [ScanOp.setChannelBwmode back, .msrNoLink false, .sitesurvey false] ++ annc ++ resume, true)

/-- `case SCAN_BACK_OP`. -/
def operateBackOp (s : ScanCtl) (env : ScanEnv) : Pass :=
  if s.ss.backopMs ≤ env.now - s.ss.backopTime ∨ s.scanAbort = true then
    (s.setScanState .leavingOp, [], true)
  else (s, [.surveyTimer 50], false)

/-- `case SCAN_LEAVING_OP`. -/
def operateLeavingOp (s : ScanCtl) (env : ScanEnv) : Pass :=
  if s.ss.backopFlags &&& ssBackopPsAnnc ≠ 0 then
    let ops := [ScanOp.checkTxbuf, .macidSleepAllUsed] ++ (rtwPsAnnc env true).2
    if (rtwPsAnnc env true).1 then
      ((s.setScanState .psAnncWait).setScanNextState .leaveOp, ops ++ [ScanOp.surveyTimer 50],
        false)
    else (s.setScanState .leaveOp, ops, true)
  else (s.setScanState .leaveOp, [.checkTxbuf, .macidSleepAllUsed], true)

/-- `case SCAN_LEAVE_OP`. -/
def operateLeaveOp (s : ScanCtl) : Pass :=
  (s.setScanState .process,
    (if s.ss.backopFlags &&& ssBackopPsAnnc ≠ 0 then [ScanOp.writeDig s.ss.igiScan] else []) ++
      [ScanOp.msrNoLink true, .sitesurvey true], true)

/-- `case SCAN_TO_P2P_LISTEN`. -/
def operateToP2pListen (s : ScanCtl) : Pass :=
  (({ s with wdinfo := { s.wdinfo with p2pState := .findPhaseListen } }).setScanState .p2pListen,
    [.setChannelBwmode (.narrow s.wdinfo.listenChannel), .abilityRestore, .initialGain 255,
      .findPhaseTimer (s.wdinfo.listenDwell * 100)], false)

/-- `case SCAN_P2P_LISTEN`. -/
def operateP2pListen (s : ScanCtl) : Pass :=
  ({ s.setScanState .process with ss := { (s.setScanState .process).ss with channelIdx := 0 } }, [],
    true)

/-- `case SCAN_COMPLETE`. -/
def operateComplete (s : ScanCtl) (env : ScanEnv) : Pass :=
  let p2pState := if s.wdinfo.isP2pScan then s.wdinfo.preP2pState else s.wdinfo.p2pState
  let s := { s with wdinfo := { s.wdinfo with
    p2pState := p2pState
    findPhaseStateExchangeCnt := p2pFindphaseExNone } }
  (s.setScanState .disable,
    [ScanOp.setChannelBwmode (surveyDoneChBw s env), .msrNoLink false, .sitesurvey false,
      .abilityRestore, .initialGain 255, .macidWakeupAllUsed] ++ (rtwPsAnnc env false).2 ++
      [ScanOp.rxAmpduApply, .surveydone s.ss.acs, .bssCoexistPacket, .bssCoexistPacket,
        .bssCoexistPacket], false)

/-- One pass round the `switch`. -/
def operationByState (s : ScanCtl) (env : ScanEnv) (parm : SitesurveyParm) : Pass :=
  match s.ss.state with
  | .disable => operateDisable s env parm
  | .start => operateStart s env
  | .psAnncWait => (s, [], false)
  | .enter => operateEnter s env
  | .process => operateProcess s env
  | .backingOp => operateBackingOp s env
  | .backOp => operateBackOp s env
  | .leavingOp => operateLeavingOp s env
  | .leaveOp => operateLeaveOp s
  | .toP2pListen => operateToP2pListen s
  | .p2pListen => operateP2pListen s
  | .complete => operateComplete s env

/-- "increase channel idx". -/
def increaseIdx (s : ScanCtl) : ScanCtl :=
  if s.ss.state = .process then { s with ss := { s.ss with channelIdx := s.ss.channelIdx + 1 } }
  else s

/-- "update scan state to next state (assigned by previous cmd hdl)". -/
def updateScanState (s : ScanCtl) : ScanCtl :=
  if s.ss.state ≠ s.ss.nextState then s.setScanState s.ss.nextState else s

/-- `sitesurvey_cmd_hdl` before the `switch`. -/
def cmdEnter (s : ScanCtl) (parm : SitesurveyParm) : ScanCtl :=
  { updateScanState (increaseIdx s) with running := some parm }

/-- What happens while the driver runs. -/
inductive ScanEvent
  /-- The command thread takes a survey command. -/
  | cmd (parm : SitesurveyParm)
  /-- The handler goes round the `switch` once. -/
  | operate (env : ScanEnv)
  /-- A beacon without an SSID was heard on the channel of this entry. -/
  | hidden (chsetIdx : ℕ)
  /-- `rtw_scan_abort` and the end of its wait. -/
  | abort (flag : Bool)
  /-- The P2P code, and the ioctls that start a find phase. -/
  | p2p (wdinfo : WifidirectInfo)

/-- No scan runs. -/
structure Idle (s : ScanCtl) : Prop where
  state : s.ss.state = .disable
  nextState : s.ss.nextState = .disable
  offchState : s.offchState = .none
  running : s.running = none

/-- One event.  The thread takes no command while it handles one. -/
def scanStep (s : ScanCtl) : ScanEvent → ScanCtl × List ScanOp
  | .cmd parm => if s.running.isSome then (s, []) else (cmdEnter s parm, [])
  | .operate env =>
      match s.running with
      | none => (s, [])
      | some parm =>
          let pass := operationByState s env parm
          (if pass.2.2 then pass.1 else pass.1.leave, pass.2.1)
  | .hidden i =>
      ({ s with
        chSet := s.chSet.modify i fun c => { c with hiddenBssCnt := (c.hiddenBssCnt + 1) % 256 } },
        [])
  | .abort flag => ({ s with scanAbort := flag }, [])
  | .p2p wdinfo => ({ s with wdinfo := wdinfo }, [])

/-! ### The start -/

/-- `init_wifidirect_info` with P2P not in use. -/
def initWifidirectInfo : WifidirectInfo where
  p2pState := .none
  preP2pState := .none
  findPhaseStateExchangeCnt := p2pFindphaseExNone
  rxInviteScanOpChOnly := false
  rxInviteOperationCh _ := 0
  p2pInfoScanOpChOnly := false
  p2pInfoOperationCh _ := 0
  socialChan i := [1, 6, 11].getD i 0
  listenChannel := 0
  listenDwell := 1
  cfg80211 := true
  p2pEnabled := false

/-- `init_mlme_ext_priv_value`. -/
def scanInit (chSet : List ChannelInfo) : ScanCtl where
  ss :=
    { state := .disable
      nextState := .disable
      channelIdx := 0
      forceSsidScan := false
      scanMode := .active
      scanChMs := 100
      rxAmpdu := false
      igiScan := 0
      igiBeforeScan := 0
      backopFlagsSta := ssBackopPsAnnc ||| ssBackopTxResume
      backopFlagsAp := ssBackopEn ||| ssBackopPsAnnc ||| ssBackopTxResume
      backopFlags := 0
      scanCnt := 0
      scanCntMax := 3
      backopTime := 0
      backopMs := 400
      ssid := []
      ch := []
      igi := 0
      acs := false }
  offchState := .none
  chSet := chSet
  wdinfo := initWifidirectInfo
  scanAbort := false
  token := 255
  running := none

lemma idle_scanInit (chSet : List ChannelInfo) : Idle (scanInit chSet) := ⟨rfl, rfl, rfl, rfl⟩

end Rtl8723du.Survey
