import Rtl8723du.Lib.Machine
import Rtl8723du.Lib.Pick

/-!
# The coexistence tracker of the Bluetooth driver

`btrtl_coex` follows the HCI events and the L2CAP signalling to know which profiles are in use,
over all connections and on each.  Connections are in `conn_hash`, channels in `profile_list`;
both are lists, and a pointer into one is a place in it.

Left out are the flags of inquiry, pairing and paging, what is sent to the firmware and to the
WiFi driver, and the packet counts of profiles other than A2DP, which nothing here reads.
-/

namespace Rtl8723du.Bt

open Lib Function

/-! ### Counts -/

/-- The indices of profiles. -/
inductive Profile
  | sco
  | hid
  | a2dp
  | pan
  | hidInterval
  | hogp
  | voice
  | sink
deriving DecidableEq

/-- What `struct rtl_coex_struct` and `struct rtl_hci_conn` both have: a bit for each profile
that is in use, one for each that is busy, and counts of type `int8_t`. -/
structure Counts where
  profileBitmap : Profile → Bool := fun _ => false
  profileStatus : Profile → Bool := fun _ => false
  profileRefcount : Profile → BitVec 8 := fun _ => 0

/-- The type of a connection. -/
inductive ConnType
  | l2cap
  | sco
  | le
deriving DecidableEq

/-- `struct rtl_hci_conn`. -/
structure Conn extends Counts where
  handle : BitVec 16
  type : ConnType
  a2dpPacketCount : BitVec 32 := 0

/-- `rtk_prof_info`: a channel. -/
structure ProfInfo where
  handle : BitVec 16
  psm : BitVec 16
  dcid : BitVec 16
  scid : BitVec 16
  profileIndex : Profile
  flags : UInt8
deriving DecidableEq

/-- `A2DP_SIGNAL`. -/
abbrev a2dpSignal : UInt8 := 1

/-- `A2DP_MEDIA`. -/
abbrev a2dpMedia : UInt8 := 2

/-- The part of `btrtl_coex` that follows connections. -/
structure Coex extends Counts where
  connHash : List Conn := []
  profileList : List ProfInfo := []

/-! ### Lookups -/

/-- `psm_to_profile_index`; `0xFF` is none. -/
def psmToProfileIndex (psm : BitVec 16) : Option Profile :=
  if psm = 0x0017 ∨ psm = 0x0001 then none
  else if psm = 0x0011 ∨ psm = 0x0013 then some .hid
  else if psm = 0x0019 then some .a2dp
  else some .pan

/-- `find_by_psm`. -/
def findByPsm (s : Coex) (handle psm : BitVec 16) : Option (Place ProfInfo) :=
  pick (fun desc => handle &&& 0xfff == desc.handle &&& 0xfff && desc.psm == psm) s.profileList

/-- `find_connection_by_handle`. -/
def findConnectionByHandle (s : Coex) (handle : BitVec 16) : Option (Place Conn) :=
  pick (fun desc => handle &&& 0xfff == desc.handle) s.connHash

/-- `find_profile_by_handle_scid`. -/
def findProfileByHandleScid (s : Coex) (handle scid : BitVec 16) : Option (Place ProfInfo) :=
  pick (fun desc => handle &&& 0xfff == desc.handle && scid == desc.scid) s.profileList

/-- `find_profile_by_handle_dcid`. -/
def findProfileByHandleDcid (s : Coex) (handle dcid : BitVec 16) : Option (Place ProfInfo) :=
  pick (fun desc => handle &&& 0xfff == desc.handle && dcid == desc.dcid) s.profileList

/-- `find_profile_by_handle_dcid_scid`. -/
def findProfileByHandleDcidScid (s : Coex) (handle dcid scid : BitVec 16) :
    Option (Place ProfInfo) :=
  pick (fun desc => handle &&& 0xfff == desc.handle && dcid == desc.dcid && scid == desc.scid)
    s.profileList

/-- The channel that a response is about. -/
def rspChannel (s : Coex) (handle scid : BitVec 16) (out : Bool) : Option (Place ProfInfo) :=
  if out then findProfileByHandleDcid s handle scid else findProfileByHandleScid s handle scid

/-- The channel that a disconnection is about. -/
def disconnChannelOf (s : Coex) (handle dcid scid : BitVec 16) (out : Bool) :
    Option (Place ProfInfo) :=
  if out then findProfileByHandleDcidScid s handle dcid scid
  else findProfileByHandleDcidScid s handle scid dcid

/-! ### A profile more, a profile less -/

/-- One more use of a profile. -/
def Counts.add (x : Counts) (p : Profile) (busy : Bool) : Counts :=
  { profileBitmap := if x.profileRefcount p = 0 then update x.profileBitmap p true
      else x.profileBitmap
    profileStatus := if x.profileRefcount p = 0 ∧ busy then update x.profileStatus p true
      else x.profileStatus
    profileRefcount := update x.profileRefcount p (x.profileRefcount p + 1) }

/-- The profile is not in use any more. -/
def Counts.clear (x : Counts) (p : Profile) : Counts :=
  { x with
    profileBitmap := update x.profileBitmap p false
    profileStatus := update x.profileStatus p false }

/-- One use less, without a look at the bits. -/
def Counts.decr (x : Counts) (p : Profile) : Counts :=
  { x with profileRefcount := update x.profileRefcount p (x.profileRefcount p - 1) }

/-- One use of a profile less. -/
def Counts.remove (x : Counts) (p : Profile) : Counts :=
  if (x.decr p).profileRefcount p = 0 then (x.decr p).clear p else x.decr p

/-- `rtk_check_setup_timer` and `rtk_check_timer_delete_sync`. -/
def Conn.resetPacketCount (c : Conn) (p : Profile) : Conn :=
  if p = .a2dp then { c with a2dpPacketCount := 0 } else c

/-- `profile_hid_interval` is cleared when HID is. -/
def Conn.clearHidInterval (c : Conn) (p : Profile) : Conn :=
  if p = .hid ∧ c.profileBitmap .hidInterval = true then
    { c with
      toCounts := { c.toCounts.decr .hidInterval with
        profileBitmap := update c.profileBitmap .hidInterval false } }
  else c

/-- The connection of `update_profile_connection`, when a use is added. -/
def Conn.add (c : Conn) (p : Profile) : Conn :=
  { (if c.profileRefcount p = 0 then c.resetPacketCount p else c) with
    toCounts := c.toCounts.add p false }

/-- The connection of `update_profile_connection`, when a use is taken back. -/
def Conn.remove (c : Conn) (p : Profile) : Conn :=
  let c' := { c with toCounts := c.toCounts.remove p }
  if c'.profileRefcount p = 0 then (c'.resetPacketCount p).clearHidInterval p else c'

/-- `update_profile_connection`: the counts over all connections and the connection. -/
def updateProfileConnection (g : Counts) (c : Conn) (p : Profile) (isAdd : Bool) :
    Counts × Conn :=
  if isAdd then (g.add p (p == .sco), c.add p)
  else if g.profileRefcount p = 0 then (g, c)
  else (g.remove p, c.remove p)

/-- `update_profile_state`, with `btrtl_coex.profile_bitmap`. -/
def updateProfileState (profileBitmap : Profile → Bool) (c : Conn) (p : Profile) (isBusy : Bool) :
    Conn :=
  if profileBitmap p = false then c
  else { c with profileStatus := update c.profileStatus p isBusy }

/-- The connection does not use the profile any more, and `profile_hid_interval` goes with
HID. -/
def lastUse (g : Counts) (c : Conn) (p : Profile) : Counts × Conn :=
  if p = .hid ∧ c.profileBitmap .hidInterval = true then
    (if g.profileRefcount .hidInterval ≠ 0 then g.decr .hidInterval else g,
      { c with
        profileBitmap := update (update c.profileBitmap p false) .hidInterval false })
  else (g, { c with profileBitmap := update c.profileBitmap p false })

/-- `disconn_profile`. -/
def disconnProfile (g : Counts) (c : Conn) (p : Profile) : Counts × Conn :=
  if g.profileRefcount p = 0 then (g, c)
  else
    let g := g.remove p
    let c := if g.profileRefcount p = 0 then c.resetPacketCount p else c
    let c := if c.profileRefcount p ≠ 0 then { c with toCounts := c.toCounts.decr p } else c
    if c.profileRefcount p ≠ 0 then (g, c) else lastUse g c p

/-- The connection of `update_hid_active_state`. -/
def hidActiveConn (c : Conn) (interval : BitVec 16) : Conn :=
  if c.profileBitmap .hid = false then c
  else if interval < 60 then
    if c.profileBitmap .hidInterval = true then c
    else
      let refcount := c.profileRefcount .hidInterval + 1
      { c with
        profileBitmap := update c.profileBitmap .hidInterval true
        profileRefcount := update c.profileRefcount .hidInterval refcount
        profileStatus :=
          if refcount = 1 then update c.profileStatus .hid true else c.profileStatus }
  else if c.profileBitmap .hidInterval = true then
    let refcount := c.profileRefcount .hidInterval - 1
    { c with
      profileBitmap := update c.profileBitmap .hidInterval false
      profileRefcount := update c.profileRefcount .hidInterval refcount
      profileStatus :=
        if refcount = 0 then update c.profileStatus .hid false else c.profileStatus }
  else c

/-- `update_hid_active_state`. -/
def updateHidActiveState (s : Coex) (handle interval : BitVec 16) : Coex :=
  match findConnectionByHandle s handle with
  | none => s
  | some pl => { s with connHash := pl.set (hidActiveConn pl.elem interval) }

/-! ### HCI events -/

/-- What the memory of a new connection holds where it is not set. -/
structure FreshConn where
  profileStatus : Profile → Bool
  a2dpPacketCount : BitVec 32

/-- A connection is set up anew: nothing is in use, and then one profile is. -/
def setupConn (g : Counts) (c : Conn) (type : ConnType) (first : Option Profile) :
    Counts × Conn :=
  let c := { c with
    profileBitmap := fun _ => false, profileRefcount := fun _ => 0, type := type }
  match first with
  | none => (g, c)
  | some p => updateProfileConnection g c p true

/-- A connection is complete: an earlier one with its handle is set up anew, or a new one is
added, if there is memory for it. -/
def connected (s : Coex) (handle : BitVec 16) (type : ConnType) (first : Option Profile)
    (alloc : Option FreshConn) : Coex :=
  match findConnectionByHandle s handle with
  | some pl =>
      let r := setupConn s.toCounts pl.elem type first
      { s with toCounts := r.1, connHash := pl.set r.2 }
  | none =>
      match alloc with
      | none => s
      | some fresh =>
          let r := setupConn s.toCounts
            { handle := handle, type := type, profileStatus := fresh.profileStatus,
              a2dpPacketCount := fresh.a2dpPacketCount } type first
          { s with toCounts := r.1, connHash := s.connHash ++ [r.2] }

/-- `rtk_handle_connection_complete_evt`.  The link types 0 and 2 are SCO and eSCO. -/
def rtkHandleConnectionCompleteEvt (s : Coex) (status : UInt8) (handle : BitVec 16)
    (linkType : UInt8) (alloc : Option FreshConn) : Coex :=
  if status ≠ 0 then s
  else if linkType = 0 ∨ linkType = 2 then connected s handle .sco (some .sco) alloc
  else connected s handle .l2cap none alloc

/-- A connection with the handle is there, or there is memory for it. -/
def canConnect (s : Coex) (handle : BitVec 16) (alloc : Option FreshConn) : Bool :=
  (findConnectionByHandle s handle).isSome || alloc.isSome

/-- `rtk_handle_le_connection_complete_evt`. -/
def rtkHandleLeConnectionCompleteEvt (s : Coex) (status : UInt8) (handle interval : BitVec 16)
    (alloc : Option FreshConn) : Coex :=
  if status ≠ 0 then s
  else if canConnect s handle alloc then
    updateHidActiveState (connected s handle .le (some .hid) alloc) handle interval
  else s

/-- One channel of `disconn_acl`. -/
def disconnChannel (r : Counts × Conn) (profInfo : ProfInfo) : Counts × Conn :=
  let r := disconnProfile r.1 r.2 profInfo.profileIndex
  if profInfo.flags &&& a2dpMedia ≠ 0 ∧ r.2.profileBitmap .sink = true then
    disconnProfile r.1 r.2 .sink
  else r

/-- `disconn_acl`: the counts and the connection, and the channels that stay. -/
def disconnAcl (s : Coex) (handle : BitVec 16) (c : Conn) : (Counts × Conn) × List ProfInfo :=
  ((s.profileList.filter (handle == ·.handle)).foldl disconnChannel (s.toCounts, c),
    s.profileList.filter (handle != ·.handle))

/-- `rtk_handle_disconnect_complete_evt`. -/
def rtkHandleDisconnectCompleteEvt (s : Coex) (status : UInt8) (handle : BitVec 16) : Coex :=
  if status ≠ 0 then s
  else
    match findConnectionByHandle s handle with
    | none => s
    | some pl =>
        match pl.elem.type with
        | .l2cap =>
            let r := disconnAcl s handle pl.elem
            { toCounts := r.1.1, connHash := pl.erase, profileList := r.2 }
        | .sco =>
            { s with
              toCounts := (updateProfileConnection s.toCounts pl.elem .sco false).1
              connHash := pl.erase }
        | .le =>
            { s with
              toCounts := (updateProfileConnection s.toCounts pl.elem .hid false).1
              connHash := pl.erase }

/-! ### L2CAP -/

/-- A command of the signalling channel. -/
inductive L2Cmd
  | connReq (psm scid : BitVec 16)
  | connRsp (dcid scid result : BitVec 16)
  | disconnReq (dcid scid : BitVec 16)
  | other
deriving DecidableEq

/-- `list_allocate_add`; `alloc` is what the memory holds in `flags`, if there is any. -/
def listAllocateAdd (s : Coex) (handle psm : BitVec 16) (profileIndex : Profile)
    (dcid scid : BitVec 16) (alloc : Option UInt8) : Coex :=
  match alloc with
  | none => s
  | some flags =>
      let flags :=
        if psm = 0x0019 then
          if (findByPsm s handle psm).isSome then a2dpMedia else a2dpSignal
        else flags
      { s with profileList := s.profileList ++ [⟨handle, psm, dcid, scid, profileIndex, flags⟩] }

/-- `handle_l2cap_con_req`. -/
def handleL2capConReq (s : Coex) (handle psm scid : BitVec 16) (out : Bool)
    (alloc : Option UInt8) : Coex :=
  match psmToProfileIndex psm with
  | none => s
  | some profileIndex =>
      if out then
        if (findProfileByHandleScid s handle scid).isSome then s
        else listAllocateAdd s handle psm profileIndex 0 scid alloc
      else
        if (findProfileByHandleDcid s handle scid).isSome then s
        else listAllocateAdd s handle psm profileIndex scid 0 alloc

/-- `update_profile_connection` of the connection with a handle, if there is one. -/
def updateConnectionByHandle (s : Coex) (handle : BitVec 16) (p : Profile) (isAdd : Bool) : Coex :=
  match findConnectionByHandle s handle with
  | none => s
  | some pl =>
      let r := updateProfileConnection s.toCounts pl.elem p isAdd
      { s with toCounts := r.1, connHash := pl.set r.2 }

/-- `handle_l2cap_con_rsp`. -/
def handleL2capConRsp (s : Coex) (handle dcid scid : BitVec 16) (out : Bool) (result : BitVec 8) :
    Coex :=
  match rspChannel s handle scid out with
  | none => s
  | some pl =>
      if result ≠ 0 then s
      else
        let desc := if out then { pl.elem with scid := dcid } else { pl.elem with dcid := dcid }
        updateConnectionByHandle { s with profileList := pl.set desc } handle
          pl.elem.profileIndex true

/-- `handle_l2cap_discon_req`. -/
def handleL2capDisconReq (s : Coex) (handle dcid scid : BitVec 16) (out : Bool) : Coex :=
  match disconnChannelOf s handle dcid scid out with
  | none => s
  | some pl =>
      match findConnectionByHandle s handle with
      | none => s
      | some conn =>
          let p := pl.elem.profileIndex
          let r := updateProfileConnection s.toCounts conn.elem p false
          let r :=
            if p = .a2dp ∧ r.2.profileBitmap .sink = true then
              updateProfileConnection r.1 r.2 .sink false
            else r
          { toCounts := r.1, connHash := conn.set r.2, profileList := pl.erase }

/-- `rtl_process_l2_sig`, of the first command in the packet.  The result is cut to 8 bits. -/
def rtlProcessL2Sig (s : Coex) (handle : BitVec 16) (out : Bool) (cmd : L2Cmd)
    (alloc : Option UInt8) : Coex :=
  match cmd with
  | .connReq psm scid => handleL2capConReq s (handle &&& 0xfff) psm scid out alloc
  | .connRsp dcid scid result =>
      handleL2capConRsp s (handle &&& 0xfff) dcid scid out (result.setWidth 8)
  | .disconnReq dcid scid => handleL2capDisconReq s (handle &&& 0xfff) dcid scid out
  | .other => s

/-- The connection that `packets_count` finds, with a channel: A2DP media on an ACL link. -/
def mediaConn (c : Conn) (profInfo : ProfInfo) : Prop :=
  c.type = .l2cap ∧ profInfo.profileIndex = .a2dp ∧ profInfo.flags = a2dpMedia

instance (c : Conn) (profInfo : ProfInfo) : Decidable (mediaConn c profInfo) := by
  unfold mediaConn
  infer_instance

/-- Media data on a connection: the profile gets busy, and it is the sink of what comes in. -/
def mediaPacket (g : Counts) (c : Conn) (out : Bool) : Counts × Conn :=
  let r :=
    if c.profileStatus .a2dp = true then (g, c)
    else
      let c := updateProfileState g.profileBitmap c .a2dp true
      if out then (g, c)
      else
        let r :=
          if c.profileBitmap .sink = false then
            updateProfileConnection
              { g with profileBitmap := update g.profileBitmap .sink true }
              { c with profileBitmap := update c.profileBitmap .sink true } .sink true
          else (g, c)
        (r.1, updateProfileState r.1.profileBitmap r.2 .sink true)
  (r.1, { r.2 with a2dpPacketCount := r.2.a2dpPacketCount + 1 })

/-- `packets_count`. -/
def packetsCount (s : Coex) (handle scid : BitVec 16) (out : Bool) : Coex :=
  match findConnectionByHandle s handle with
  | none => s
  | some pl =>
      match rspChannel s handle scid out with
      | none => s
      | some desc =>
          if mediaConn pl.elem desc.elem then
            let r := mediaPacket s.toCounts pl.elem out
            { s with toCounts := r.1, connHash := pl.set r.2 }
          else s

/-- `count_a2dp_packet_timeout` of a connection. -/
def countA2dpPacketTimeout (g : Counts) (c : Conn) : Conn :=
  let c :=
    if c.a2dpPacketCount = 0 ∧ c.profileStatus .a2dp = true then
      let c := updateProfileState g.profileBitmap c .a2dp false
      if g.profileBitmap .sink = true then updateProfileState g.profileBitmap c .sink false else c
    else c
  { c with a2dpPacketCount := 0 }

/-! ### The tracker -/

/-- What the tracker sees. -/
inductive Event
  | connectionComplete (status : UInt8) (handle : BitVec 16) (linkType : UInt8)
      (alloc : Option FreshConn)
  | leConnectionComplete (status : UInt8) (handle interval : BitVec 16) (alloc : Option FreshConn)
  /-- A mode change, or a LE connection update. -/
  | intervalChange (handle interval : BitVec 16)
  | disconnectComplete (status : UInt8) (handle : BitVec 16)
  /-- A packet of the signalling channel, if there is a buffer to queue it in. -/
  | l2Sig (handle : BitVec 16) (out : Bool) (cmds : List L2Cmd) (node : Bool)
      (alloc : Option UInt8)
  /-- The beginning of a packet (`flag` is not 1) of another channel. -/
  | l2Data (handle channelId : BitVec 16) (out : Bool)
  /-- The timer of the connection with a number. -/
  | a2dpTimeout (i : ℕ)

/-- One event. -/
def coexStep (s : Coex) : Event → Coex × List Unit
  | .connectionComplete status handle linkType alloc =>
      (rtkHandleConnectionCompleteEvt s status handle linkType alloc, [])
  | .leConnectionComplete status handle interval alloc =>
      (rtkHandleLeConnectionCompleteEvt s status handle interval alloc, [])
  | .intervalChange handle interval => (updateHidActiveState s handle interval, [])
  | .disconnectComplete status handle => (rtkHandleDisconnectCompleteEvt s status handle, [])
  | .l2Sig handle out cmds node alloc =>
      match cmds with
      | cmd :: _ => (if node then rtlProcessL2Sig s handle out cmd alloc else s, [])
      | [] => (s, [])
  | .l2Data handle channelId out =>
      (if s.profileBitmap .a2dp || s.profileBitmap .pan then
        packetsCount s (handle &&& 0xfff) channelId out else s, [])
  | .a2dpTimeout i =>
      ({ s with connHash := s.connHash.modify i (countA2dpPacketTimeout s.toCounts) }, [])

end Rtl8723du.Bt
