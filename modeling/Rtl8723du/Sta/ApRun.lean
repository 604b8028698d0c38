import Rtl8723du.Lib.Machine
import Rtl8723du.Sta.BssCap
import Rtl8723du.Sta.OnAuth

/-!
# Stations come and go

The events that a station of an access point meets between its first authentication frame and
the end of its entry: `OnAuth`, `OnAssocReq`, the arrival of its pairwise key, a deauthentication
or anything else that makes it leave, and the freeing of the entry, which is an event of its
own (`rtw_stadel_event_callback`, the expiry of an authentication, the end of the network).

The stations that joined and did not depart are kept beside the state of the driver, each with
the properties of its latest association.
-/

namespace Rtl8723du

open Lib.Links

/-- What `OnAssocReq` reads in a request, and what the parsers it calls find there. -/
structure AssocReq where
  /-- The transmitter. -/
  sa : MacAddr
  /-- The frame has its fixed fields. -/
  longEnough : Bool
  /-- `rtw_ap_linking_test_force_asoc_fail`. -/
  forceAsocFail : Bool
  /-- `rtw_ieee802_11_parse_elems` did not fail. -/
  elemsOk : Bool
  capability : BitVec 16
  /-- The SSID element is there and has the name of the network. -/
  ssidOk : Bool
  /-- The rates that `rtw_ies_get_supported_rate` finds. -/
  rateSet : List UInt8
  /-- `rtw_ap_parse_sta_security_ie` sets `WLAN_STA_MFP`. -/
  setsMfp : Bool
  /-- `rtw_ap_parse_sta_security_ie` is successful. -/
  securityOk : Bool
  /-- A pairwise cipher of the station is TKIP. -/
  tkip : Bool
  /-- `cap_info` of the HT capability element, if there is one of full length. -/
  htCapInfo : Option (BitVec 16)
  /-- The P2P element of the request is refused. -/
  p2pRefused : Bool

/-- `rtw_ap_parse_sta_capability`. -/
def rtwApParseStaCapability (req : AssocReq) (sta : Sta) : Sta :=
  { sta with
    capability := req.capability
    flags := { sta.flags with shortPreamble := req.capability &&& 0x0020#16 != 0 } }

/-- `rtw_ap_parse_sta_supported_rates`: a station without a rate above 11 Mbit/s is not an ERP
station. -/
def rtwApParseStaSupportedRates (req : AssocReq) (sta : Sta) : Option Sta :=
  if req.rateSet = [] then none
  else
    some { sta with
      flags := { sta.flags with nonErp := req.rateSet.all fun rate => rate &&& 0x7f ≤ 22 } }

/-- What `rtw_ap_parse_sta_security_ie` does to the flags. -/
def rtwApParseStaSecurityIe (req : AssocReq) (sta : Sta) : Sta :=
  { sta with flags := { sta.flags with mfp := sta.flags.mfp || req.setsMfp } }

/-- `rtw_ap_parse_sta_ht_ie`, and HT taken back from a station with TKIP. -/
def rtwApParseStaHtIe (cfg : BssConfig) (req : AssocReq) (sta : Sta) : Sta :=
  if cfg.htOption then
    { sta with
      htCapInfo := req.htCapInfo.getD 0
      flags := { sta.flags with ht := req.htCapInfo.isSome && !req.tkip } }
  else { sta with flags := { sta.flags with ht := false } }

/-- The state of the access point. -/
structure ApState where
  stapriv : StaPriv
  mlme : MlmePriv

/-- What an event tells the outside. -/
inductive StaOut
  | joined (i : Fin numSta)
  | left (i : Fin numSta)
  /-- `set_tx_beacon_cmd`. -/
  | setTxBeaconCmd
deriving DecidableEq

namespace ApState

/-- The last `update_beacon` of a join or leave, if the beacon is to be sent. -/
def sendBeacon (cfg : BssConfig) (s : ApState) (beaconUpdated : Bool) : ApState × List StaOut :=
  if beaconUpdated then
    ({ s with mlme := updateBeacon cfg s.stapriv.timBitmap .other s.mlme },
      if cfg.bstartBss then [.setTxBeaconCmd] else [])
  else (s, [])

/-- `bss_cap_update_on_sta_join`. -/
def bssCapUpdateOnStaJoin (cfg : BssConfig) (s : ApState) (i : Fin numSta) :
    ApState × List StaOut :=
  let (x, beaconUpdated) := joinCaps cfg s.stapriv.timBitmap (s.mlme, s.stapriv.sta i)
  sendBeacon cfg ⟨s.stapriv.modify i fun _ => x.2, x.1⟩ beaconUpdated

/-- The TIM in `bss_cap_update_on_sta_leave`. -/
def leaveTim (cfg : BssConfig) (s : ApState) (i : Fin numSta) : ApState :=
  let aid := (s.stapriv.sta i).aid
  if s.stapriv.timBitmap aid then
    let stapriv := s.stapriv.timMap aid false
    ⟨stapriv, updateBeacon cfg stapriv.timBitmap .tim s.mlme⟩
  else s

/-- `bss_cap_update_on_sta_leave`. -/
def bssCapUpdateOnStaLeave (cfg : BssConfig) (s : ApState) (i : Fin numSta) :
    ApState × List StaOut :=
  let timSet := s.stapriv.timBitmap (s.stapriv.sta i).aid
  let s := leaveTim cfg s i
  let (x, beaconUpdated) := leaveCaps cfg s.stapriv.timBitmap (s.mlme, s.stapriv.sta i)
  sendBeacon cfg ⟨s.stapriv.modify i fun _ => x.2, x.1⟩ (timSet || beaconUpdated)

/-- `ap_free_sta`. -/
def apFreeSta (cfg : BssConfig) (s : ApState) (psta : Fin numSta) : ApState × List StaOut :=
  bssCapUpdateOnStaLeave cfg
    { s with stapriv := s.stapriv.modify psta (·.setAsoc false) } psta

/-! ### The association request -/

/-- The entry of the station is written. -/
def modifySta (s : ApState) (i : Fin numSta) (f : Sta → Sta) : ApState :=
  { s with stapriv := s.stapriv.modify i f }

/-- The elements of the request, up to the first one that is refused: the entry, and whether
none was. -/
def assocParse (cfg : BssConfig) (req : AssocReq) (sta : Sta) : Sta × Bool :=
  if req.forceAsocFail ∨ req.elemsOk = false then (sta, false)
  else
    let sta := rtwApParseStaCapability req sta
    if req.ssidOk = false then (sta, false)
    else
      match rtwApParseStaSupportedRates req sta with
      | none => (sta, false)
      | some sta =>
          let sta := rtwApParseStaSecurityIe req sta
          if req.securityOk = false then (sta, false)
          else (rtwApParseStaHtIe cfg req sta, !req.p2pRefused)

/-- The AID, an old one or a new one, and whether there is one. -/
def assocAid (cfg : ApConfig) (s : StaPriv) (pstat : Fin numSta) : StaPriv × Bool :=
  if 0 < (s.sta pstat).aid then (s, true)
  else ((s.aidAlloc cfg pstat).1, (s.aidAlloc cfg pstat).2 ≠ 0)

/-- The state of a station whose request is granted. -/
def assocDone (sta : Sta) : Sta :=
  { sta with state := { sta.state with assocState := false, assocSuccess := true } }

/-- The station is qualified to join: from `auth_list` to `asoc_list`, unless it has protected
management frames and a key. -/
def assocJoin (cfg : ApConfig) (s : ApState) (pstat : Fin numSta) : ApState × List StaOut :=
  let s := s.modifySta pstat assocDone
  if (s.stapriv.sta pstat).mfpKeyed then (s, [])
  else
    let s := { s with stapriv := (s.stapriv.authUnlink pstat).asocLink pstat }
    let (s, out) := bssCapUpdateOnStaJoin cfg.bss s pstat
    -- `sta_info_update`
    (s.modifySta pstat (·.setAsoc true), .joined pstat :: out)

/-- The station has not been authenticated or associated. -/
def class2Error (sta : Sta) : Bool := !sta.state.authSuccess && !sta.state.assocSuccess

/-- The state of a station whose request is handled. -/
def assocStart (sta : Sta) : Sta :=
  { sta with
    state :=
      if sta.state.authSuccess then
        { sta.state with authSuccess := false, assocState := true }
      else { sta.state with assocSuccess := false, assocState := true } }

/-- `OnAssocReq`, for both kinds of request. -/
def onAssocReq (cfg : ApConfig) (s : ApState) (req : AssocReq) : ApState × List StaOut :=
  if cfg.apState = false ∨ rtwCheckInvalidMacAddress req.sa false ∨ req.longEnough = false then
    (s, [])
  else
    match s.stapriv.getStainfo req.sa with
    | none => (s, [])
    | some pstat =>
        let sta := s.stapriv.sta pstat
        if sta.authalg = wlanAuthSae ∧ sta.state.authNull = true then (s, [])
        else if class2Error sta then (s, [])
        else
          let (sta, parsed) := assocParse cfg.bss req (assocStart sta)
          let s := s.modifySta pstat fun _ => sta
          if parsed = false then (s, [])
          else
            let (stapriv, hasAid) := assocAid cfg s.stapriv pstat
            let s := { s with stapriv := stapriv }
            if hasAid then assocJoin cfg s pstat else (s, [])

/-- A station leaves: the tail of `OnDeAuth` and of everything else that makes one leave.
Where several leave at once (`rtw_sta_flush`, `expire_timeout_chk`) this happens for each. -/
def leave (cfg : ApConfig) (s : ApState) (hwaddr : MacAddr) : ApState × List StaOut :=
  match s.stapriv.getStainfo hwaddr with
  | none => (s, [])
  | some psta =>
      if (s.stapriv.sta psta).asocLinked then
        let (s, out) := apFreeSta cfg.bss { s with stapriv := s.stapriv.asocUnlink psta } psta
        (s, .left psta :: out)
      else (s, [])

end ApState

/-! ### Runs -/

/-- What happens to the access point. -/
inductive StaEvent
  /-- `rtw_alloc_stainfo`. -/
  | alloc (hwaddr : MacAddr)
  /-- The entry of an address is freed, as `rtw_stadel_event_callback` does. -/
  | free (hwaddr : MacAddr)
  /-- `rtw_free_all_stainfo`. -/
  | freeAll
  /-- The authentication of a station in `auth_list` expires. -/
  | authExpired (i : Fin numSta)
  | auth (env : AuthEnv) (f : RxFrame)
  | assocReq (req : AssocReq)
  /-- A station leaves. -/
  | leave (hwaddr : MacAddr)
  /-- The pairwise key of a station is installed. -/
  | keyInstalled (hwaddr : MacAddr)
  /-- Power save sets or clears the TIM bit of an AID. -/
  | tim (aid : ℕ) (on : Bool)

/-- The properties that a station is to be counted for. -/
def capsOf (cfg : BssConfig) (sta : Sta) : CapProp → Bool
  | .noShortPreamble => !sta.flags.shortPreamble
  | .nonErp => sta.flags.nonErp
  | .noShortSlotTime => sta.noShortSlot
  | .noHt => cfg.htSupported && !sta.flags.ht
  | .htNoGf => cfg.htSupported && sta.flags.ht && sta.noGf
  | .ht20mhz => cfg.htSupported && sta.flags.ht && sta.only20mhz

/-- `bpairwise_key_installed` is set. -/
def Sta.setKeyInstalled (sta : Sta) : Sta := { sta with bpairwiseKeyInstalled := true }

namespace StaPriv

/-- The pairwise key of a station is installed. -/
def keyInstalled (s : StaPriv) (hwaddr : MacAddr) : StaPriv :=
  match s.getStainfo hwaddr with
  | none => s
  | some psta => s.modify psta (·.setKeyInstalled)

/-- `rtw_stadel_event_callback`: the entry of an address is freed. -/
def stadelEvent (cfg : ApConfig) (s : StaPriv) (hwaddr : MacAddr) : StaPriv :=
  match s.getStainfo hwaddr with
  | none => s
  | some psta => s.freeStainfo cfg psta

/-- A station in `auth_list` is freed by `expire_timeout_chk`. -/
def authExpire (cfg : ApConfig) (s : StaPriv) (i : Fin numSta) : StaPriv :=
  if i ∈ s.authList then s.freeStainfo cfg i else s

/-- The events that concern the table alone. -/
def step (cfg : ApConfig) (s : StaPriv) : StaEvent → StaPriv
  | .alloc hwaddr => (s.allocStainfo hwaddr).1
  | .free hwaddr => s.stadelEvent cfg hwaddr
  | .freeAll => s.freeAllStainfo cfg
  | .authExpired i => s.authExpire cfg i
  | .auth env f => (s.onAuth cfg env f).1
  | .keyInstalled hwaddr => s.keyInstalled hwaddr
  | .tim aid on => s.timMap aid on
  | .assocReq _ | .leave _ => s

end StaPriv

namespace ApState

/-- One event. -/
def step (cfg : ApConfig) (s : ApState) : StaEvent → ApState × List StaOut
  | .assocReq req => onAssocReq cfg s req
  | .leave hwaddr => leave cfg s hwaddr
  | e => ({ s with stapriv := s.stapriv.step cfg e }, [])

end ApState

/-- The access point, with the stations that joined and did not depart. -/
structure ApRun where
  ap : ApState
  joined : Fin numSta → Option (CapProp → Bool)

namespace ApRun

/-- A station joins with its latest properties, or departs. -/
def record (cfg : BssConfig) (ap : ApState) (joined : Fin numSta → Option (CapProp → Bool)) :
    StaOut → Fin numSta → Option (CapProp → Bool)
  | .joined i => Function.update joined i (some (capsOf cfg (ap.stapriv.sta i)))
  | .left i => Function.update joined i none
  | .setTxBeaconCmd => joined

/-- One event.  An entry that is free afterwards is that of no station. -/
def step (cfg : ApConfig) (r : ApRun) (e : StaEvent) : ApRun × List StaOut :=
  let (ap, out) := r.ap.step cfg e
  ({ ap := ap
     joined := fun i =>
       if i ∈ ap.stapriv.freeStaQueue then none
       else out.foldl (record cfg.bss ap) r.joined i }, out)

/-- The start of the access point. -/
def init (beacon : Beacon) : ApRun where
  ap := { stapriv := StaPriv.init, mlme := MlmePriv.init beacon }
  joined := fun _ => none

end ApRun

end Rtl8723du
