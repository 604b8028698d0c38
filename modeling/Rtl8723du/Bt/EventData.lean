import Rtl8723du.Bt.Coex
import Rtl8723du.Lib.Refill

/-!
# The handling of an HCI event by the coexistence code

`rtk_btcoex_evt_enqueue` copies an event into a node of `ev_free_list`, and the work function hands
the node to `rtk_parse_event_data`, whose handlers read it at fixed offsets.

The connections and their counts are those of `Coex`; here are the flags beside them, and what is
sent to the firmware.  `RTB_SOFTWARE_MAILBOX` is not defined, so nothing is sent to the WiFi driver.
-/

namespace Rtl8723du.Bt

open Lib Lib.Refill

/-- What is in the memory from a pointer on. -/
abbrev Ptr := ℕ → UInt8

/-- `p += k`. -/
def Ptr.add (p : Ptr) (k : ℕ) : Ptr := fun i => p (i + k)

/-- `STREAM_TO_UINT16` at an offset. -/
def streamToUint16 (p : Ptr) (i : ℕ) : BitVec 16 :=
  BitVec.ofNat 16 ((p i).toNat + 256 * (p (i + 1)).toNat)

/-- `btrtl_coex`, with `profileinfo_cmd`. -/
structure Tracker extends Coex where
  isinquirying : Bool := false
  ispairing : Bool := false
  ispaging : Bool := false
  hciReversion : BitVec 16 := 0
  lmpSubversion : BitVec 16 := 0
  profileinfoCmd : Bool := false

/-! ### Reports to the firmware -/

/-- A command that `rtk_notify_profileinfo_to_fw` sends. -/
inductive FwReport
  /-- `HCI_VENDOR_SET_PROFILE_REPORT_LEGACY_COMMAND`. -/
  | legacy (handleNumber : BitVec 8) (conns : List (BitVec 16 × (Profile → Bool)))
      (profileStatus : Profile → Bool)
  /-- `HCI_VENDOR_SET_PROFILE_REPORT_COMMAND`. -/
  | report (handleNumber : BitVec 8)
      (conns : List (BitVec 16 × (Profile → Bool) × (Profile → Bool)))

/-- `profile_bitmap` is not zero. -/
def Counts.inUse (x : Counts) : Bool :=
  [Profile.sco, .hid, .a2dp, .pan, .hidInterval, .hogp, .voice, .sink].any x.profileBitmap

/-- The connections that the second loop of `rtk_notify_profileinfo_to_fw` writes. -/
def reportedConns : BitVec 8 → List Conn → List Conn
  | _, [] => []
  | handleNumber, conn :: conns =>
      if conn.inUse then
        if handleNumber - 1 = 0 then [conn] else conn :: reportedConns (handleNumber - 1) conns
      else if handleNumber = 0 then [] else reportedConns handleNumber conns

/-- `rtk_notify_profileinfo_to_fw`. -/
def rtkNotifyProfileinfoToFw (t : Tracker) : FwReport :=
  let handleNumber := BitVec.ofNat 8 (t.connHash.countP (·.inUse))
  let conns := reportedConns handleNumber t.connHash
  if t.profileinfoCmd then
    .report handleNumber (conns.map fun c => (c.handle, c.profileBitmap, c.profileStatus))
  else .legacy handleNumber (conns.map fun c => (c.handle, c.profileBitmap)) t.profileStatus

/-- `need_update` of `update_profile_connection`. -/
def updateNeeded (g : Counts) (c : Conn) (p : Profile) (isAdd : Bool) : Bool :=
  if isAdd then g.profileRefcount p == 0 || c.profileRefcount p == 0
  else if g.profileRefcount p = 0 then false
  else (g.decr p).profileRefcount p == 0 || (c.decr p).profileRefcount p == 0

/-- What `update_profile_connection` sends. -/
def updateReport (t : Tracker) (pl : Place Conn) (p : Profile) (isAdd : Bool) : List FwReport :=
  if updateNeeded t.toCounts pl.elem p isAdd then
    let r := updateProfileConnection t.toCounts pl.elem p isAdd
    [rtkNotifyProfileinfoToFw { t with toCounts := r.1, connHash := pl.set r.2 }]
  else []

/-- `need_update` of `update_hid_active_state`. -/
def hidActiveNeeded (c : Conn) (interval : BitVec 16) : Bool :=
  c.profileBitmap .hid && (decide (interval < 60) != c.profileBitmap .hidInterval)

/-- What `update_hid_active_state` sends. -/
def hidActiveReport (t : Tracker) (handle interval : BitVec 16) : List FwReport :=
  match findConnectionByHandle t.toCoex handle with
  | none => []
  | some pl =>
      if hidActiveNeeded pl.elem interval then
        [rtkNotifyProfileinfoToFw
          { t with connHash := pl.set (hidActiveConn pl.elem interval) }]
      else []

/-- The place of the connection that is complete: an earlier one with its handle, or a new one. -/
def connectedPlace (s : Coex) (handle : BitVec 16) (alloc : Option FreshConn) :
    Option (Place Conn) :=
  match findConnectionByHandle s handle with
  | some pl => some pl
  | none => alloc.map fun fresh =>
      { before := s.connHash
        elem :=
          { handle := handle, type := .l2cap, profileStatus := fresh.profileStatus,
            a2dpPacketCount := fresh.a2dpPacketCount }
        after := [] }

/-- What is sent when a connection that is complete gets its first profile. -/
def connectedReport (t : Tracker) (handle : BitVec 16) (type : ConnType) (p : Profile)
    (alloc : Option FreshConn) : List FwReport :=
  match connectedPlace t.toCoex handle alloc with
  | none => []
  | some pl =>
      updateReport t
        { pl with elem := { pl.elem with
            profileBitmap := fun _ => false, profileRefcount := fun _ => 0, type := type } } p true

/-- The result of `disconn_profile`. -/
def disconnNeeded (g : Counts) (c : Conn) (p : Profile) : Bool :=
  if g.profileRefcount p = 0 then false
  else (g.decr p).profileRefcount p == 0 ||
    (if c.profileRefcount p = 0 then true else (c.decr p).profileRefcount p == 0)

/-- What one channel of `disconn_acl` adds to `need_update`. -/
def disconnChannelNeeded (r : Counts × Conn) (profInfo : ProfInfo) : Bool :=
  let r' := disconnProfile r.1 r.2 profInfo.profileIndex
  disconnNeeded r.1 r.2 profInfo.profileIndex ||
    (profInfo.flags &&& a2dpMedia != 0 && r'.2.profileBitmap .sink &&
      disconnNeeded r'.1 r'.2 .sink)

/-- `need_update` of `disconn_acl`. -/
def disconnAclNeeded : Counts × Conn → List ProfInfo → Bool
  | _, [] => false
  | r, d :: ds => disconnChannelNeeded r d || disconnAclNeeded (disconnChannel r d) ds

/-- What `disconn_acl` sends. -/
def disconnAclReport (t : Tracker) (handle : BitVec 16) (pl : Place Conn) : List FwReport :=
  if disconnAclNeeded (t.toCounts, pl.elem) (t.profileList.filter (handle == ·.handle)) then
    let r := disconnAcl t.toCoex handle pl.elem
    [rtkNotifyProfileinfoToFw
      { t with toCounts := r.1.1, connHash := pl.set r.1.2, profileList := r.2 }]
  else []

/-- What is sent when a connection goes. -/
def disconnectReport (t : Tracker) (handle : BitVec 16) : List FwReport :=
  match findConnectionByHandle t.toCoex handle with
  | none => []
  | some pl =>
      match pl.elem.type with
      | .l2cap => disconnAclReport t handle pl
      | .sco => updateReport t pl .sco false
      | .le => updateReport t pl .hid false

/-! ### The handlers -/

/-- `update_hid_active_state`, with what it sends. -/
def hidActive (t : Tracker) (handle interval : BitVec 16) : Tracker × List FwReport :=
  ({ t with toCoex := updateHidActiveState t.toCoex handle interval },
    hidActiveReport t handle interval)

/-- `rtk_handle_mode_change_evt`. -/
def rtkHandleModeChangeEvt (t : Tracker) (p : Ptr) : Tracker × List FwReport :=
  hidActive t (streamToUint16 p 1) (streamToUint16 p 4)

/-- `HCI_OP_PERIODIC_INQ`. -/
abbrev hciOpPeriodicInq : BitVec 16 := 0x0403

/-- `HCI_OP_READ_LOCAL_VERSION`. -/
abbrev hciOpReadLocalVersion : BitVec 16 := 0x1001

/-- `HCI_VENDOR_SET_PROFILE_REPORT_COMMAND`. -/
abbrev hciVendorSetProfileReportCommand : BitVec 16 := 0xfc1b

/-- `HCI_OP_INQUIRY`. -/
abbrev hciOpInquiry : BitVec 16 := 0x0401

/-- `HCI_OP_CREATE_CONN`. -/
abbrev hciOpCreateConn : BitVec 16 := 0x0405

/-- `rtk_handle_cmd_complete_evt`. -/
def rtkHandleCmdCompleteEvt (t : Tracker) (p : Ptr) : Tracker :=
  let opcode := streamToUint16 p 1
  if opcode = hciOpPeriodicInq then
    if p 3 ≠ 0 ∧ t.isinquirying = true then { t with isinquirying := false } else t
  else if opcode = hciOpReadLocalVersion then
    if p 3 = 0 then
      { t with hciReversion := streamToUint16 p 5, lmpSubversion := streamToUint16 p 10 }
    else t
  else if opcode = hciVendorSetProfileReportCommand then
    -- 0x01 is an unknown command
    if p 3 = 1 then t else { t with profileinfoCmd := true }
  else t

/-- `rtk_handle_cmd_status_evt`. -/
def rtkHandleCmdStatusEvt (t : Tracker) (p : Ptr) : Tracker :=
  let status := p 0
  let opcode := streamToUint16 p 2
  if opcode = hciOpInquiry then
    if status ≠ 0 then { t with isinquirying := false } else t
  else if opcode = hciOpCreateConn then
    if status = 0 then { t with ispaging := true } else t
  else t

/-- What an event finds: what the memory of a new connection holds, if there is any, and which of
the reports to the firmware there is memory for and a device. -/
structure EvEnv where
  alloc : Option FreshConn
  sent : ℕ → Bool

/-- The reports that get to the command queue of the device. -/
def EvEnv.queued (env : EvEnv) (reports : List FwReport) : List FwReport :=
  (reports.zipIdx.filter (env.sent ·.2)).map (·.1)

/-- The handler of `HCI_EV_CONN_COMPLETE` and `HCI_EV_SYNC_CONN_COMPLETE`. -/
def connCompleteEvt (env : EvEnv) (t : Tracker) (p : Ptr) : Tracker × List FwReport :=
  let status := p 0
  let handle := streamToUint16 p 1
  let linkType := p 9
  let t' := { t with ispaging := false }
  ({ t' with toCoex := rtkHandleConnectionCompleteEvt t.toCoex status handle linkType env.alloc },
    if status = 0 ∧ (linkType = 0 ∨ linkType = 2) then
      connectedReport t' handle .sco .sco env.alloc
    else [])

/-- The handler of `HCI_EV_LE_CONN_COMPLETE` and `HCI_EV_LE_ENHANCED_CONN_COMPLETE`, which have the
interval at `off`. -/
def leConnCompleteEvt (env : EvEnv) (t : Tracker) (off : ℕ) (p : Ptr) : Tracker × List FwReport :=
  let status := p 0
  let handle := streamToUint16 p 1
  let interval := streamToUint16 p off
  let t' := { t with ispaging := false }
  ({ t' with
      toCoex := rtkHandleLeConnectionCompleteEvt t.toCoex status handle interval env.alloc },
    if status = 0 ∧ canConnect t.toCoex handle env.alloc = true then
      connectedReport t' handle .le .hid env.alloc ++
        hidActiveReport { t' with toCoex := connected t.toCoex handle .le (some .hid) env.alloc }
          handle interval
    else [])

/-- `rtk_handle_le_connection_update_complete_evt`. -/
def rtkHandleLeConnectionUpdateCompleteEvt (t : Tracker) (p : Ptr) : Tracker × List FwReport :=
  hidActive t (streamToUint16 p 1) (streamToUint16 p 3)

/-- `rtk_handle_le_meta_evt`. -/
def rtkHandleLeMetaEvt (env : EvEnv) (t : Tracker) (p : Ptr) : Tracker × List FwReport :=
  let subEvent := p 0
  if subEvent = 0x01 then leConnCompleteEvt env t 11 (p.add 1)
  else if subEvent = 0x0a then leConnCompleteEvt env t 23 (p.add 1)
  else if subEvent = 0x03 then rtkHandleLeConnectionUpdateCompleteEvt t (p.add 1)
  else (t, [])

/-- The handler of `HCI_EV_DISCONN_COMPLETE`. -/
def disconnCompleteEvt (t : Tracker) (p : Ptr) : Tracker × List FwReport :=
  let status := p 0
  let handle := streamToUint16 p 1
  let t' := { t with ispairing := false }
  ({ t' with toCoex := rtkHandleDisconnectCompleteEvt t.toCoex status handle },
    if status = 0 then disconnectReport t' handle else [])

/-! ### The events -/

/-- The events that `rtk_parse_event_data` tells apart. -/
inductive EvCode
  | inquiryComplete
  | connComplete
  | disconnComplete
  | authComplete
  | cmdComplete
  | cmdStatus
  | modeChange
  | pinCodeReq
  | linkKeyNotify
  | syncConnComplete
  | ioCapaRequest
  | leMeta
  | vendorSpecific
  | other
deriving DecidableEq

/-- The codes of the events. -/
def evCode (eventCode : UInt8) : EvCode :=
  if eventCode = 0x01 then .inquiryComplete
  else if eventCode = 0x03 then .connComplete
  else if eventCode = 0x05 then .disconnComplete
  else if eventCode = 0x06 then .authComplete
  else if eventCode = 0x0e then .cmdComplete
  else if eventCode = 0x0f then .cmdStatus
  else if eventCode = 0x14 then .modeChange
  else if eventCode = 0x16 then .pinCodeReq
  else if eventCode = 0x18 then .linkKeyNotify
  else if eventCode = 0x2c then .syncConnComplete
  else if eventCode = 0x31 then .ioCapaRequest
  else if eventCode = 0x3e then .leMeta
  else if eventCode = 0xff then .vendorSpecific
  else .other

/-- The switch of `rtk_parse_event_data`. -/
def handleEvent (env : EvEnv) (t : Tracker) (p : Ptr) : EvCode → Tracker × List FwReport
  | .inquiryComplete => ({ t with isinquirying := false }, [])
  | .pinCodeReq | .ioCapaRequest => ({ t with ispairing := true }, [])
  | .authComplete | .linkKeyNotify => ({ t with ispairing := false }, [])
  | .modeChange => rtkHandleModeChangeEvt t p
  | .cmdComplete => (rtkHandleCmdCompleteEvt t p, [])
  | .cmdStatus => (rtkHandleCmdStatusEvt t p, [])
  | .connComplete | .syncConnComplete => connCompleteEvt env t p
  | .disconnComplete => disconnCompleteEvt t p
  | .leMeta => rtkHandleLeMetaEvt env t p
  -- `rtk_handle_specific_evt` writes to the log only
  | .vendorSpecific | .other => (t, [])

/-- `rtk_parse_event_data`: the tracker, and the commands that are queued for the firmware. -/
def rtkParseEventData (env : EvEnv) (t : Tracker) (data : Ptr) : Tracker × List FwReport :=
  let r := handleEvent env t (data.add 2) (evCode (data 0))
  (r.1, env.queued r.2)

/-! ### The nodes -/

/-- `MAX_LEN_OF_HCI_EV`. -/
abbrev maxLenOfHciEv : ℕ := 32

/-- An event as `rtk_btcoex_parse_event` puts it together. -/
structure HciEvent where
  code : UInt8
  params : List UInt8
  short : params.length < 256

/-- The code, the length of the parameters and the parameters. -/
def HciEvent.bytes (e : HciEvent) : List UInt8 :=
  e.code :: UInt8.ofNat e.params.length :: e.params

/-- `ev_filter_out`. -/
def evFilterOut (buf : Ptr) : Bool :=
  match evCode (buf 0) with
  | .leMeta => !(buf 2 == 0x01 || buf 2 == 0x0a || buf 2 == 0x03)
  | .cmdComplete =>
      !(streamToUint16 buf 3 == hciOpPeriodicInq || streamToUint16 buf 3 == hciOpReadLocalVersion ||
        streamToUint16 buf 3 == hciVendorSetProfileReportCommand)
  | .cmdStatus =>
      !(streamToUint16 buf 4 == hciOpInquiry || streamToUint16 buf 4 == hciOpCreateConn)
  | .other => true
  | _ => false

/-- The node that `rtk_btcoex_evt_enqueue` has copied an event to. -/
def evCopy (data : Ptr) (e : HciEvent) : Ptr := refill (e.bytes.take maxLenOfHciEv) data

/-- The event gets past the filter, which looks at it in `back_buff`. -/
def HciEvent.Passes (e : HciEvent) : Prop := ∃ old, evFilterOut (refill e.bytes old) = false

/-- What a node holds after some events; the nodes are zero at first. -/
def nodeData (es : List HciEvent) : Ptr := es.foldl evCopy fun _ => 0

/-! ### The tracker -/

/-- `rtk_btcoex_parse_cmd`. -/
def rtkBtcoexParseCmd (t : Tracker) (opcode : BitVec 16) : Tracker :=
  if opcode = hciOpInquiry ∨ opcode = hciOpPeriodicInq then { t with isinquirying := true }
  -- `HCI_OP_INQUIRY_CANCEL`, `HCI_OP_EXIT_PERIODIC_INQ`
  else if opcode = 0x0402 ∨ opcode = 0x0404 then { t with isinquirying := false }
  -- `HCI_OP_ACCEPT_CONN_REQ`
  else if opcode = 0x0409 then { t with ispaging := true }
  else t

/-- What changes the tracker. -/
inductive TrackerEvent
  | cmd (opcode : BitVec 16)
  | event (env : EvEnv) (data : Ptr)
  /-- An L2CAP packet or a timer. -/
  | link (e : Event)
  /-- `rtk_btcoex_close`. -/
  | close

/-- The tracker after an event. -/
def trackerNext (t : Tracker) : TrackerEvent → Tracker
  | .cmd opcode => rtkBtcoexParseCmd t opcode
  | .event env data => (rtkParseEventData env t data).1
  | .link e => { t with toCoex := (coexStep t.toCoex e).1 }
  | .close => { t with toCoex := {}, profileinfoCmd := false }

/-- A state that the tracker gets into. -/
def Reached (t : Tracker) : Prop := ∃ es : List TrackerEvent, es.foldl trackerNext {} = t

end Rtl8723du.Bt
