import Mathlib.Data.List.Range
import Mathlib.Data.BitVec
import Rtl8723du.Recv.Frame

/-!
# The slots of the security CAM

The hardware looks up keys in a CAM.  `cam_ctl.used` says which slots are taken, `cam_cache`
is a copy of what was written to them.  `rtw_camid_alloc` takes the slot of a key of the same
address and key id, or the first free one (two in a row for a key of 256 bits).  The command
handlers write the key to the slot they were given, and clear the entry of a slot before they
free it.
-/

namespace Rtl8723du

/-- `SEC_CAM_ENT_NUM_SW_LIMIT`. -/
abbrev secCamEntNumSwLimit : ℕ := 32

/-- `sec_cam_ent`, but for the key itself. -/
structure SecCamEnt where
  ctrl : BitVec 16
  mac : MacAddr
deriving DecidableEq

/-- An entry that was cleared. -/
def SecCamEnt.zero : SecCamEnt := ⟨0, Vector.replicate 6 0⟩

/-- `cam_ctl_t`, and the `cam_cache` beside it. -/
structure CamCtl where
  num : ℕ
  num_le : num ≤ secCamEntNumSwLimit
  /-- `SEC_CAP_CHK_BMC` is set in `sec_cap`. -/
  chkBmc : Bool
  used : BitVec 32
  camCache : ℕ → SecCamEnt

/-- `rtw_sec_camid_is_set`. -/
def rtwSecCamidIsSet (map : BitVec 32) (id : ℕ) : Bool := if id < 32 then map.getLsbD id else false

/-- `rtw_sec_cam_map_set`. -/
def rtwSecCamMapSet (map : BitVec 32) (id : ℕ) : BitVec 32 :=
  if id < 32 then map ||| BitVec.twoPow 32 id else map

/-- `rtw_sec_cam_map_clr`. -/
def rtwSecCamMapClr (map : BitVec 32) (id : ℕ) : BitVec 32 :=
  if id < 32 then map &&& ~~~(BitVec.twoPow 32 id) else map

section Bits

variable {x : ℕ}

lemma rtwSecCamidIsSet_eq (map : BitVec 32) (id : ℕ) :
    rtwSecCamidIsSet map id = map.getLsbD id := by
  unfold rtwSecCamidIsSet
  split
  · rfl
  · exact (BitVec.getLsbD_of_ge map id (Nat.le_of_not_lt ‹_›)).symm

lemma getLsbD_rtwSecCamMapSet (map : BitVec 32) (id : ℕ) :
    (rtwSecCamMapSet map id).getLsbD x =
      (map.getLsbD x || (decide (x = id) && decide (x < 32))) := by
  unfold rtwSecCamMapSet
  by_cases hid : id < 32
  · rw [if_pos hid, BitVec.getLsbD_or, BitVec.getLsbD_twoPow]
    by_cases hx : x = id
    · subst hx
      simp [hid]
    · simp [hx, Ne.symm hx]
  · rw [if_neg hid]
    by_cases hx : x = id
    · subst hx
      simp [hid]
    · simp [hx]

lemma getLsbD_rtwSecCamMapClr (map : BitVec 32) (id : ℕ) :
    (rtwSecCamMapClr map id).getLsbD x = (map.getLsbD x && decide (x ≠ id)) := by
  unfold rtwSecCamMapClr
  by_cases hid : id < 32
  · rw [if_pos hid, BitVec.getLsbD_and, BitVec.getLsbD_not, BitVec.getLsbD_twoPow]
    by_cases hx : x < 32
    · by_cases hxid : x = id
      · subst hxid
        simp [hx]
      · simp [hx, hxid, Ne.symm hxid]
    · rw [BitVec.getLsbD_of_ge map x (Nat.le_of_not_lt hx), Bool.false_and, Bool.false_and]
  · rw [if_neg hid]
    by_cases hxid : x = id
    · subst hxid
      rw [BitVec.getLsbD_of_ge map x (Nat.le_of_not_lt hid), Bool.false_and]
    · simp [hxid]

end Bits

/-- `_rtw_sec_camid_is_used`. -/
def rtwSecCamidIsUsed (c : CamCtl) (id : ℕ) : Bool :=
  if c.num ≤ id then false else rtwSecCamidIsSet c.used id

/-- `_rtw_camid_is_gk`. -/
def rtwCamidIsGk (c : CamCtl) (id : ℕ) : Bool :=
  if c.num ≤ id then false
  else if ¬ rtwSecCamidIsUsed c id then false
  else (c.camCache id).ctrl.getLsbD 6

/-- `cam_cache_chk`; `none` where the caller does not care. -/
def camCacheChk (c : CamCtl) (id : ℕ) (addr : MacAddr) (kid : Option (BitVec 8))
    (gk : Option Bool) : Bool :=
  if (c.camCache id).mac ≠ addr then false
  else if kid.any fun kid => kid.toNat ≠ ((c.camCache id).ctrl &&& 0x03#16).toNat then false
  else if gk.any fun gk => gk ≠ rtwCamidIsGk c id then false
  else true

/-- `_rtw_camid_search`. -/
def rtwCamidSearch (c : CamCtl) (addr : MacAddr) (kid : Option (BitVec 8)) (gk : Option Bool) :
    Option ℕ :=
  (List.range c.num).find? fun i => camCacheChk c i addr kid gk

/-- `rtw_get_camid`. -/
def rtwGetCamid (c : CamCtl) (addr : MacAddr) (kid : BitVec 8) (gk extSec : Bool) : Option ℕ :=
  match rtwCamidSearch c addr (some kid) (if c.chkBmc then some gk else none) with
  | some i => some i
  | none =>
      (List.range c.num).find? fun i =>
        !rtwSecCamidIsUsed c i &&
          (!extSec || (decide (i + 1 < c.num) && !rtwSecCamidIsUsed c (i + 1)))

/-- What `rtw_camid_alloc` looks up in the adapter. -/
structure CamIface where
  /-- The state is `WIFI_FW_AP_STATE` or `WIFI_FW_ADHOC_STATE`. -/
  apOrAdhoc : Bool
  /-- `WIFI_FW_ASSOC_SUCCESS`. -/
  assocSuccess : Bool
  macAddr : MacAddr
  bssid : MacAddr

/-- The address of a key: that of the station, the own one, or that of the access point. -/
def CamIface.keyAddr (iface : CamIface) (sta : Option MacAddr) : Option MacAddr :=
  if iface.apOrAdhoc ∧ sta = none then some iface.macAddr
  else
    match sta with
    | some addr => some addr
    | none => if iface.assocSuccess then some iface.bssid else none

/-- `bitmap_handle`: the slots of a key are in use. -/
def CamCtl.bitmapHandle (c : CamCtl) (camId : ℕ) (extSec : Bool) : CamCtl :=
  { c with
    used :=
      if extSec then rtwSecCamMapSet (rtwSecCamMapSet c.used camId) (camId + 1)
      else rtwSecCamMapSet c.used camId }

/-- `rtw_camid_alloc`: the slot, whether it was in use, and the CAM. -/
def rtwCamidAlloc (c : CamCtl) (iface : CamIface) (sta : Option MacAddr) (kid : BitVec 8)
    (gk extSec : Bool) : Option ℕ × Bool × CamCtl :=
  match (iface.keyAddr sta).bind fun addr => rtwGetCamid c addr kid gk extSec with
  | none => (none, false, c)
  | some camId => (some camId, rtwSecCamidIsUsed c camId, c.bitmapHandle camId extSec)

/-- `rtw_camid_free`. -/
def rtwCamidFree (c : CamCtl) (camId : ℕ) : CamCtl :=
  if camId < c.num then { c with used := rtwSecCamMapClr c.used camId } else c

/-- `write_cam_cache`. -/
def writeCamCache (c : CamCtl) (id : ℕ) (ent : SecCamEnt) : CamCtl :=
  { c with camCache := Function.update c.camCache id ent }

/-- `write_cam`. -/
def writeCam (c : CamCtl) (id : ℕ) (ctrl : BitVec 16) (mac : MacAddr) : CamCtl :=
  if ctrl.getLsbD 9 then
    writeCamCache (writeCamCache c id ⟨ctrl, mac⟩) (id + 1) ⟨ctrl ||| 0x20#16, mac⟩
  else writeCamCache c id ⟨ctrl, mac⟩

/-- `clear_cam_entry`. -/
def clearCamEntry (c : CamCtl) (id : ℕ) : CamCtl := writeCamCache c id .zero

/-- `_SEC_TYPE_256_` is set in the algorithm. -/
def secType256 (algorithm : BitVec 8) : Bool := algorithm.getLsbD 4

/-- The fields of `ctrl`: the valid bit, the type of the key in three bits, its id, and the bits
of a group key, a key of two slots and SPP A-MSDUs. -/
def packCtrl (secType : BitVec 16) (keyid : BitVec 8) (gk extSec spp : Bool) : BitVec 16 :=
  0x8000#16 ||| (secType <<< 2) ||| keyid.setWidth 16 ||| (if gk then 0x40#16 else 0) |||
    (if extSec then 0x200#16 else 0) ||| (if spp then 0x80#16 else 0)

/-- The `ctrl` of a key, as `setkey_hdl` and `set_stakey_hdl` make it; `spp` is what
`amsdu_spp_enable` says. -/
def keyCtrl (algorithm keyid : BitVec 8) (gk spp : Bool) : BitVec 16 :=
  packCtrl (algorithm.setWidth 16 &&& 0x07#16) keyid gk (secType256 algorithm) spp

/-- A key is set: a slot is allocated, and the key is written to it. -/
def setKey (c : CamCtl) (iface : CamIface) (sta : Option MacAddr) (algorithm keyid : BitVec 8)
    (gk spp : Bool) : Option ℕ × CamCtl :=
  match iface.keyAddr sta, rtwCamidAlloc c iface sta keyid gk (secType256 algorithm) with
  | some addr, (some camId, _, c) =>
      (some camId, writeCam c camId (keyCtrl algorithm keyid gk spp) addr)
  | _, r => (none, r.2.2)

/-- A slot is freed, as all callers do it. -/
def freeKey (c : CamCtl) (camId : ℕ) : CamCtl := rtwCamidFree (clearCamEntry c camId) camId

end Rtl8723du
