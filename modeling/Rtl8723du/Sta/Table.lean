import Mathlib.Data.List.FinRange
import Rtl8723du.Lib.Links
import Rtl8723du.Recv.Frame

/-!
# The station table

The table of `struct sta_info` entries of an access point, with the lists that thread
through it: the queue of free entries, the hash buckets by address, the lists of the
stations that authenticate and of those that are associated, and the AID table.

A pointer to an entry is its number.  A list is the sequence of entries that a walk from its
head meets; whether the node of an entry points to itself, what `rtw_is_list_empty` tests on
it, is kept in the entry, since a reused entry gets fresh nodes whatever list it was in.
Modelled is a build without preconnected stations, so `rtw_is_pre_link_sta` is false.
-/

namespace Rtl8723du

open Lib.Links

/-- `NUM_STA`, the number of entries and of hash buckets. -/
abbrev numSta : ℕ := 32

instance lawfulBEqNumSta : LawfulBEq (Fin numSta) := inferInstance

/-- What an access point counts its stations for.  Each has a flag in the entry
(`no_short_preamble_set`, `nonerp_set`, `no_short_slot_time_set`, `no_ht_set`,
`no_ht_gf_set`, `ht_20mhz_set`) and a counter (`num_sta_no_short_preamble`,
`num_sta_non_erp`, `num_sta_no_short_slot_time`, `num_sta_no_ht`, `num_sta_ht_no_gf`,
`num_sta_ht_20mhz`). -/
inductive CapProp
  | noShortPreamble
  | nonErp
  | noShortSlotTime
  | noHt
  | htNoGf
  | ht20mhz
deriving DecidableEq, Repr

/-- The bits of `state` that the table works on: `WIFI_ASOC_STATE` and the `WIFI_FW_` ones. -/
structure StaState where
  asoc : Bool := false
  authNull : Bool := false
  authState : Bool := false
  authSuccess : Bool := false
  assocState : Bool := false
  assocSuccess : Bool := false
deriving DecidableEq, Repr

/-- The bits of `flags` that are read here: `WLAN_STA_SHORT_PREAMBLE`, `WLAN_STA_NONERP`,
`WLAN_STA_HT` and `WLAN_STA_MFP`. -/
structure StaFlags where
  shortPreamble : Bool := false
  nonErp : Bool := false
  ht : Bool := false
  mfp : Bool := false
deriving DecidableEq, Repr

/-- An entry, `struct sta_info`.  The defaults are what `_rtw_init_stainfo` leaves. -/
structure Sta where
  macAddr : MacAddr := Vector.replicate 6 0
  aid : ℕ := 0
  state : StaState := {}
  flags : StaFlags := {}
  authSeq : ℕ := 0
  authalg : ℕ := 0
  chgTxt : List UInt8 := List.replicate 128 0
  bpairwiseKeyInstalled : Bool := false
  capability : BitVec 16 := 0
  /-- `htpriv.ht_cap.cap_info`. -/
  htCapInfo : BitVec 16 := 0
  /-- The flag of each counted property. -/
  capSet : CapProp → Bool := fun _ => false
  ht40mhzIntolerant : Bool := false
  /-- The `auth_list` node is linked. -/
  authLinked : Bool := false
  /-- The `asoc_list` node is linked. -/
  asocLinked : Bool := false

namespace Sta

def setAuthLinked (sta : Sta) (linked : Bool) : Sta := { sta with authLinked := linked }

def setAsocLinked (sta : Sta) (linked : Bool) : Sta := { sta with asocLinked := linked }

def setAid (sta : Sta) (aid : ℕ) : Sta := { sta with aid := aid }

/-- `WIFI_ASOC_STATE` is set or cleared. -/
def setAsoc (sta : Sta) (asoc : Bool) : Sta :=
  { sta with state := { sta.state with asoc := asoc } }

end Sta

/-- `struct sta_priv`. -/
structure StaPriv where
  sta : Fin numSta → Sta
  freeStaQueue : List (Fin numSta)
  staHash : ℕ → List (Fin numSta)
  asocStaCount : ℤ
  authList : List (Fin numSta)
  asocList : List (Fin numSta)
  authListCnt : BitVec 8
  asocListCnt : BitVec 8
  /-- The entry of an AID is at the index one lower. -/
  staAid : ℕ → Option (Fin numSta)
  startedAid : ℕ
  timBitmap : ℕ → Bool

/-- What the network is set up with. -/
structure BssConfig where
  bstartBss : Bool
  /-- `cur_wireless_mode > WIRELESS_11B`. -/
  above11b : Bool
  /-- `registrypriv.ht_enable`, and `is_supported_ht` of the wireless mode. -/
  htSupported : Bool
  /-- The beacon it was set up with has an HT capability element. -/
  htCap : Bool
  /-- `htpriv.ht_cap.cap_info` has `IEEE80211_HT_CAP_SUP_WIDTH`. -/
  supWidth : Bool
  erpEnable : Bool
  htInfoEnable : Bool
  curChannel : ℕ
  /-- `cur_bwmode >= CHANNEL_WIDTH_40`. -/
  width40 : Bool
  /-- `cur_ch_offset` is `HAL_PRIME_CHNL_OFFSET_LOWER`. -/
  offsetLower : Bool
  olbc : Bool
  olbcHt : Bool
  ht20mhzWidthReq : Bool
  htIntolerantChReported : Bool

/-- `htpriv.ht_option`, as it is set when the network is set up. -/
def BssConfig.htOption (cfg : BssConfig) : Bool := cfg.htSupported && cfg.htCap

/-- What is fixed while the access point runs. -/
structure ApConfig where
  bss : BssConfig
  /-- `pmlmeinfo->state` is that of an access point; no other bit of it is set then. -/
  apState : Bool
  maxAid : ℕ
  maxNumSta : ℕ
  rrAid : Bool
  /-- `MLME_IS_ASOC`. -/
  mlmeIsAsoc : Bool
  dot11AuthAlgrthm : ℕ
  dot11PrivacyAlgrthm : SecurityType
  /-- `rtw_access_ctrl`: the access control list lets the address in. -/
  accessCtrl : MacAddr → Bool
  /-- `GET_CFG80211_REPORT_MGMT` for authentication frames. -/
  reportAuth : Bool

namespace StaPriv

/-- An entry is written. -/
def modify (s : StaPriv) (i : Fin numSta) (f : Sta → Sta) : StaPriv :=
  { s with sta := Function.update s.sta i (f (s.sta i)) }

/-- `_rtw_init_sta_priv`: every entry is in the free queue. -/
def init : StaPriv where
  sta := fun _ => {}
  freeStaQueue := List.finRange numSta
  staHash := fun _ => []
  asocStaCount := 0
  authList := []
  asocList := []
  authListCnt := 0
  asocListCnt := 0
  staAid := fun _ => none
  startedAid := 1
  timBitmap := fun _ => false

end StaPriv

/-- The bucket of an address. -/
def wifiMacHash (mac : MacAddr) : ℕ :=
  let x : BitVec 32 := mac.toList.foldl (fun x b => x <<< 2 ^^^ BitVec.ofNat 32 b.toNat) 0
  ((x ^^^ x >>> 8) &&& 31#32).toNat

namespace StaPriv

/-- `rtw_get_stainfo`. -/
def getStainfo (s : StaPriv) (hwaddr : MacAddr) : Option (Fin numSta) :=
  let addr := if isMcast hwaddr then bcAddr else hwaddr
  (s.staHash (wifiMacHash addr)).find? fun i => (s.sta i).macAddr = addr

/-- `rtw_get_bcmc_stainfo`. -/
def getBcmcStainfo (s : StaPriv) : Option (Fin numSta) := s.getStainfo bcAddr

/-- The first free entry is taken, and cleared, its list nodes too. -/
def takeEntry (s : StaPriv) (psta : Fin numSta) (rest : List (Fin numSta)) (hwaddr : MacAddr) :
    StaPriv :=
  { s.modify psta fun _ => { macAddr := hwaddr } with freeStaQueue := rest }

/-- An entry is hashed. -/
def hashLink (s : StaPriv) (psta : Fin numSta) (index : ℕ) : StaPriv :=
  { s with
    staHash := Function.update s.staHash index (s.staHash index ++ [psta])
    asocStaCount := s.asocStaCount + 1 }

/-- `rtw_alloc_stainfo`. -/
def allocStainfo (s : StaPriv) (hwaddr : MacAddr) : StaPriv × Option (Fin numSta) :=
  match s.freeStaQueue with
  | [] => (s, none)
  | psta :: rest =>
      let s := s.takeEntry psta rest hwaddr
      let index := wifiMacHash hwaddr
      if numSta ≤ index then (s, none) else (s.hashLink psta index, some psta)

/-- `auth_list` and its length are written. -/
def withAuthList (s : StaPriv) (l : List (Fin numSta)) (cnt : BitVec 8) : StaPriv :=
  { s with authList := l, authListCnt := cnt }

/-- `asoc_list` and its length are written. -/
def withAsocList (s : StaPriv) (l : List (Fin numSta)) (cnt : BitVec 8) : StaPriv :=
  { s with asocList := l, asocListCnt := cnt }

/-- The `auth_list` node is linked at the tail, if it is not linked. -/
def authLink (s : StaPriv) (i : Fin numSta) : StaPriv :=
  if (s.sta i).authLinked then s
  else (s.modify i (·.setAuthLinked true)).withAuthList (s.authList ++ [i]) (s.authListCnt + 1)

/-- The `auth_list` node is unlinked, if it is linked. -/
def authUnlink (s : StaPriv) (i : Fin numSta) : StaPriv :=
  if (s.sta i).authLinked then
    (s.modify i (·.setAuthLinked false)).withAuthList (unlink s.authList i) (s.authListCnt - 1)
  else s

/-- The `asoc_list` node is linked at the tail, if it is not linked. -/
def asocLink (s : StaPriv) (i : Fin numSta) : StaPriv :=
  if (s.sta i).asocLinked then s
  else (s.modify i (·.setAsocLinked true)).withAsocList (s.asocList ++ [i]) (s.asocListCnt + 1)

/-- The `asoc_list` node is unlinked, if it is linked. -/
def asocUnlink (s : StaPriv) (i : Fin numSta) : StaPriv :=
  if (s.sta i).asocLinked then
    (s.modify i (·.setAsocLinked false)).withAsocList (unlink s.asocList i) (s.asocListCnt - 1)
  else s

/-- `rtw_tim_map_set` and `rtw_tim_map_clear` on `tim_bitmap`. -/
def timMap (s : StaPriv) (aid : ℕ) (on : Bool) : StaPriv :=
  { s with timBitmap := Function.update s.timBitmap aid on }

/-- The entry of an AID is written. -/
def setStaAid (s : StaPriv) (aid : ℕ) (sta : Option (Fin numSta)) : StaPriv :=
  { s with staAid := Function.update s.staAid (aid - 1) sta }

/-- The AID entry of a station that is freed, if it is its own. -/
def aidRelease (s : StaPriv) (i : Fin numSta) : StaPriv :=
  let aid := (s.sta i).aid
  let s := s.timMap aid false
  if 0 < aid ∧ s.staAid (aid - 1) = some i then
    (s.setStaAid aid none).modify i (·.setAid 0)
  else s

/-- The hash node of an entry is unlinked, from the bucket it is in. -/
def hashUnlink (s : StaPriv) (i : Fin numSta) : StaPriv :=
  { s with staHash := fun index => unlink (s.staHash index) i }

/-- `asoc_sta_count` is one less. -/
def countDown (s : StaPriv) : StaPriv := { s with asocStaCount := s.asocStaCount - 1 }

/-- An entry is put at the end of the free queue. -/
def enqueueFree (s : StaPriv) (i : Fin numSta) : StaPriv :=
  { s with freeStaQueue := s.freeStaQueue ++ [i] }

/-- `rtw_free_stainfo`.  The `asoc_list` node is left as it is: the lines that unlinked it
are commented out in the source. -/
def freeStainfo (s : StaPriv) (cfg : ApConfig) (psta : Fin numSta) : StaPriv :=
  let s := (s.hashUnlink psta).countDown
  let s := s.modify psta (·.setAsoc false)
  let s := s.authUnlink psta
  let s := if cfg.apState then s.aidRelease psta else s
  s.enqueueFree psta

/-- The entries that `rtw_free_all_stainfo` takes out of the buckets: all but the broadcast
one. -/
def freeStaList (s : StaPriv) : List (Fin numSta) :=
  (List.range numSta).flatMap fun index =>
    (s.staHash index).filter fun i => s.getBcmcStainfo ≠ some i

/-- `rtw_free_all_stainfo`. -/
def freeAllStainfo (s : StaPriv) (cfg : ApConfig) : StaPriv :=
  if s.asocStaCount = 1 then s
  else
    let freeStaList := s.freeStaList
    freeStaList.foldl (fun s i => s.freeStainfo cfg i) (freeStaList.foldl hashUnlink s)

/-- The search of `rtw_aid_alloc` for an AID, from its `i`-th turn on. -/
def aidSearch (s : StaPriv) (cfg : ApConfig) (usedCnt i : ℕ) : ℕ → ℕ
  | 0 => 0
  | turns + 1 =>
      let aid := (i + s.startedAid - 1) % cfg.maxAid + 1
      if s.staAid (aid - 1) = none then
        if cfg.maxNumSta ≤ usedCnt then 0 else aid
      else if cfg.maxNumSta ≤ usedCnt + 1 then 0
      else s.aidSearch cfg (usedCnt + 1) (i + 1) turns

/-- `rtw_aid_alloc`.  The AID is 0 if none could be had. -/
def aidAlloc (s : StaPriv) (cfg : ApConfig) (sta : Fin numSta) : StaPriv × ℕ :=
  let aid := s.aidSearch cfg 0 0 cfg.maxAid
  let s := s.modify sta (·.setAid aid)
  if aid = 0 then (s, 0)
  else
    ({ s.setStaAid aid (some sta) with
        startedAid := if cfg.rrAid then aid % cfg.maxAid + 1 else s.startedAid }, aid)

end StaPriv

end Rtl8723du
