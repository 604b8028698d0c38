import Rtl8723du.Sta.Table

/-!
# What the stations make of the beacon

`bss_cap_update_on_sta_join` and `bss_cap_update_on_sta_leave`, which count the stations that
lack something, and the parts of the beacon that are derived from the counters.  The beacon
is edited where it is, an element at a time, and sent anew by a command.
-/

namespace Rtl8723du

/-- The HT operation element: the secondary channel offset and the channel width of
`infos[0]`, and the operation mode in `infos[1]` and `infos[2]`. -/
structure HtInfo where
  secondaryOffset : BitVec 2
  staChlWidth : Bool
  opMode : BitVec 16
deriving DecidableEq, Repr

/-- The elements of the beacon that depend on the stations. -/
structure Beacon where
  /-- `data[0]` of the ERP element, if there is one. -/
  erpInfo : Option (BitVec 8)
  /-- The HT operation element, if there is one. -/
  htInfo : Option HtInfo
  /-- The AIDs of the TIM. -/
  tim : ℕ → Bool

/-- The counters of `struct mlme_priv`, and the beacon. -/
structure MlmePriv where
  num : CapProp → ℤ
  numSta40mhzIntolerant : ℤ
  htOpMode : BitVec 16
  swTo20mhz : Bool
  updateBcn : Bool
  beacon : Beacon

/-- `start_ap_mode`, with the beacon that the network is then set up with. -/
def MlmePriv.init (beacon : Beacon) : MlmePriv where
  num := fun _ => 0
  numSta40mhzIntolerant := 0
  htOpMode := 0
  swTo20mhz := false
  updateBcn := false
  beacon := beacon

/-- The elements that `_update_beacon` is called for. -/
inductive BcnIe
  | tim
  | erpInfo
  | htAddInfo
  /-- `_HT_CAPABILITY_IE_` and 0xFF, where nothing is edited. -/
  | other
deriving DecidableEq, Repr

/-! ### The elements of the beacon -/

/-- `RTW_ERP_INFO_NON_ERP_PRESENT` and `RTW_ERP_INFO_USE_PROTECTION`. -/
abbrev erpNonErpBits : BitVec 8 := 0x03

/-- `RTW_ERP_INFO_BARKER_PREAMBLE_MODE`. -/
abbrev erpBarkerBit : BitVec 8 := 0x04

/-- A mask that is set or cleared. -/
def setBits {w : ℕ} (x mask : BitVec w) (on : Bool) : BitVec w :=
  if on then x ||| mask else x &&& ~~~mask

/-- `update_bcn_erpinfo_ie`. -/
def updateBcnErpinfoIe (cfg : BssConfig) (m : MlmePriv) : MlmePriv :=
  if cfg.erpEnable then
    { m with
      beacon.erpInfo := m.beacon.erpInfo.map fun data =>
        setBits (setBits data erpNonErpBits (m.num .nonErp == 1)) erpBarkerBit
          (0 < m.num .noShortPreamble) }
  else m

/-- Something asks for 20 MHz. -/
def want20mhz (cfg : BssConfig) (m : MlmePriv) : Bool :=
  0 < m.numSta40mhzIntolerant || cfg.ht20mhzWidthReq || cfg.htIntolerantChReported || cfg.olbc

/-- The channel width in `update_bcn_htinfo_ie`. -/
def updateChlWidth (cfg : BssConfig) (m : MlmePriv) (htInfo : HtInfo) : HtInfo × Bool :=
  if m.swTo20mhz = false ∧ cfg.curChannel ≤ 14 then
    if want20mhz cfg m then
      ({ htInfo with secondaryOffset := 0, staChlWidth := false }, true)
    else (htInfo, m.swTo20mhz)
  else if m.numSta40mhzIntolerant = 0 ∧ cfg.ht20mhzWidthReq = false ∧
      cfg.htIntolerantChReported = false ∧ cfg.olbc = false ∧ cfg.width40 = true then
    ({ htInfo with
        staChlWidth := true
        secondaryOffset := if cfg.offsetLower then 1 else 3 }, false)
  else (htInfo, m.swTo20mhz)

/-- `update_bcn_htinfo_ie`. -/
def updateBcnHtinfoIe (cfg : BssConfig) (m : MlmePriv) : MlmePriv :=
  if cfg.htOption = false ∨ cfg.htInfoEnable = false then m
  else
    match m.beacon.htInfo with
    | none => m
    | some htInfo =>
        let (htInfo, swTo20mhz) := updateChlWidth cfg m htInfo
        { m with
          swTo20mhz := swTo20mhz
          beacon.htInfo := some { htInfo with opMode := m.htOpMode } }

/-- `update_beacon` without sending.  The bitmap is that of the stations with buffered
frames. -/
def updateBeacon (cfg : BssConfig) (timBitmap : ℕ → Bool) (ieId : BcnIe) (m : MlmePriv) :
    MlmePriv :=
  if cfg.bstartBss = false then m
  else
    let m := match ieId with
      | .tim => { m with beacon.tim := timBitmap }
      | .erpInfo => updateBcnErpinfoIe cfg m
      | .htAddInfo => updateBcnHtinfoIe cfg m
      | .other => m
    { m with updateBcn := true }

/-! ### The HT operation mode -/

/-- `HT_INFO_OPERATION_MODE_NON_GF_DEVS_PRESENT`. -/
abbrev htNonGfDevsPresent : BitVec 16 := 0x0004

/-- `HT_INFO_OPERATION_MODE_NON_HT_STA_PRESENT`. -/
abbrev htNonHtStaPresent : BitVec 16 := 0x0010

/-- `HT_INFO_OPERATION_MODE_OP_MODE_MASK`. -/
abbrev htOpModeMask : BitVec 16 := 0x0003

/-- A bit of `ht_op_mode` is set or cleared where it is not as wanted; the change is
counted. -/
def htOpModeBit (x : BitVec 16 × ℕ) (mask : BitVec 16) (want : Bool) : BitVec 16 × ℕ :=
  if x.1 &&& mask = 0 ∧ want = true then (x.1 ||| mask, x.2 + 1)
  else if ¬ x.1 &&& mask = 0 ∧ want = false then (x.1 &&& ~~~mask, x.2 + 1)
  else x

/-- The operation mode proper: mixed, 20 MHz station associated, may be legacy stations,
pure. -/
def newOpMode (cfg : BssConfig) (num : CapProp → ℤ) : BitVec 16 :=
  if num .noHt ≠ 0 then 3
  else if cfg.supWidth ∧ num .ht20mhz ≠ 0 then 2
  else if cfg.olbcHt then 1
  else 0

/-- `rtw_ht_operation_update`, with the number of changes. -/
def rtwHtOperationUpdate (cfg : BssConfig) (m : MlmePriv) : MlmePriv × ℕ :=
  if cfg.htOption = false then (m, 0)
  else
    let x := htOpModeBit (m.htOpMode, 0) htNonGfDevsPresent (m.num .htNoGf ≠ 0)
    let x := htOpModeBit x htNonHtStaPresent (m.num .noHt ≠ 0 || cfg.olbcHt)
    let x :=
      if x.1 &&& htOpModeMask ≠ newOpMode cfg m.num then
        (x.1 &&& ~~~htOpModeMask ||| newOpMode cfg m.num, x.2 + 1)
      else x
    ({ m with htOpMode := x.1 }, x.2)

/-! ### One counter and the flag of a station -/

/-- The counters and one station. -/
abbrev CapState := MlmePriv × Sta

/-- A station that is not counted is. -/
def capEnter (p : CapProp) (x : CapState) : CapState :=
  if x.2.capSet p then x
  else
    ({ x.1 with num := Function.update x.1.num p (x.1.num p + 1) },
      { x.2 with capSet := Function.update x.2.capSet p true })

/-- A station that is counted is no more. -/
def capLeave (p : CapProp) (x : CapState) : CapState :=
  if x.2.capSet p then
    ({ x.1 with num := Function.update x.1.num p (x.1.num p - 1) },
      { x.2 with capSet := Function.update x.2.capSet p false })
  else x

/-- A station is counted or not as wanted. -/
def capSwitch (want : Bool) (p : CapProp) (x : CapState) : CapState :=
  if want then capEnter p x else capLeave p x

/-- The switch makes the station the first that is counted, or the counter zero. -/
def capTurns (want : Bool) (p : CapProp) (x : CapState) : Bool :=
  if want then !x.2.capSet p && x.1.num p + 1 == 1 else x.2.capSet p && x.1.num p - 1 == 0

/-- The beacon or `ht_op_mode` changes, and the station does not. -/
def CapState.mapMlme (x : CapState) (f : MlmePriv → MlmePriv) : CapState := (f x.1, x.2)

/-- `rtw_ht_operation_update` and what follows a change of the mode. -/
def htOperation (cfg : BssConfig) (timBitmap : ℕ → Bool) (m : MlmePriv) : MlmePriv × Bool :=
  let (m, opModeChanges) := rtwHtOperationUpdate cfg m
  if 0 < opModeChanges then
    (updateBeacon cfg timBitmap .htAddInfo (updateBeacon cfg timBitmap .other m), true)
  else (m, false)

/-- A station is counted as non-ERP or not as wanted, with the ERP element. -/
def erpSwitch (cfg : BssConfig) (timBitmap : ℕ → Bool) (want : Bool) (x : CapState) : CapState :=
  if capTurns want .nonErp x then
    (capSwitch want .nonErp x).mapMlme (updateBeacon cfg timBitmap .erpInfo)
  else capSwitch want .nonErp x

/-! ### A station joins -/

/-- `IEEE80211_HT_CAP_GRN_FLD` is clear. -/
def Sta.noGf (psta : Sta) : Bool := psta.htCapInfo &&& 0x0010#16 == 0

/-- `IEEE80211_HT_CAP_SUP_WIDTH` is clear. -/
def Sta.only20mhz (psta : Sta) : Bool := psta.htCapInfo &&& 0x0002#16 == 0

/-- `RTW_IEEE80211_HT_CAP_40MHZ_INTOLERANT` is set. -/
def Sta.intolerant (psta : Sta) : Bool := psta.htCapInfo &&& 0x4000#16 != 0

/-- `WLAN_CAPABILITY_SHORT_SLOT` is clear. -/
def Sta.noShortSlot (psta : Sta) : Bool := psta.capability &&& 0x0400#16 == 0

/-- A station that is intolerant of 40 MHz is counted. -/
def countIntolerant (x : CapState) : CapState :=
  if x.2.intolerant ∧ x.2.ht40mhzIntolerant = false then
    ({ x.1 with numSta40mhzIntolerant := x.1.numSta40mhzIntolerant + 1 },
      { x.2 with ht40mhzIntolerant := true })
  else x

/-- The station is counted if it is to be. -/
def capEnterIf (want : Bool) (p : CapProp) (x : CapState) : CapState :=
  if want then capEnter p x else x

/-- The HT counters.  A station is never taken out of `num_sta_ht_no_gf` and
`num_sta_ht_20mhz` here. -/
def joinHt (x : CapState) : CapState :=
  if x.2.flags.ht then
    countIntolerant
      (capEnterIf x.2.only20mhz .ht20mhz (capEnterIf x.2.noGf .htNoGf (capLeave .noHt x)))
  else capEnter .noHt x

/-- `bss_cap_update_on_sta_join` on the counters and the station, up to the last update of
the beacon: whether it is to be sent. -/
def joinCaps (cfg : BssConfig) (timBitmap : ℕ → Bool) (x : CapState) : CapState × Bool :=
  let psta := x.2
  let x₁ := capSwitch (!psta.flags.shortPreamble) .noShortPreamble x
  let x₂ := erpSwitch cfg timBitmap psta.flags.nonErp x₁
  let x₃ := capSwitch psta.noShortSlot .noShortSlotTime x₂
  let x₄ := if cfg.htSupported then joinHt x₃ else x₃
  let ht := if cfg.htSupported then htOperation cfg timBitmap x₄.1 else (x₄.1, false)
  ((ht.1, x₄.2),
    cfg.above11b && capTurns (!psta.flags.shortPreamble) .noShortPreamble x ||
      capTurns psta.flags.nonErp .nonErp x₁ ||
      cfg.above11b && capTurns psta.noShortSlot .noShortSlotTime x₂ || ht.2)

/-! ### A station leaves -/

/-- A station that was counted as intolerant of 40 MHz is no more. -/
def uncountIntolerant (x : CapState) : CapState :=
  if x.2.ht40mhzIntolerant then
    ({ x.1 with
        numSta40mhzIntolerant :=
          if 0 < x.1.numSta40mhzIntolerant then x.1.numSta40mhzIntolerant - 1
          else x.1.numSta40mhzIntolerant },
      { x.2 with ht40mhzIntolerant := false })
  else x

/-- The HT counters. -/
def leaveHt (x : CapState) : CapState :=
  uncountIntolerant (capLeave .ht20mhz (capLeave .noHt (capLeave .htNoGf x)))

/-- `bss_cap_update_on_sta_leave` on the counters and the station, after the TIM: whether the
beacon is to be sent.  A change of the HT operation mode alone is no reason. -/
def leaveCaps (cfg : BssConfig) (timBitmap : ℕ → Bool) (x : CapState) : CapState × Bool :=
  let x₁ := capLeave .noShortPreamble x
  let x₂ := erpSwitch cfg timBitmap false x₁
  let x₃ := leaveHt (capLeave .noShortSlotTime x₂)
  (((htOperation cfg timBitmap x₃.1).1, x₃.2),
    cfg.above11b && capTurns false .noShortPreamble x || capTurns false .nonErp x₁ ||
      cfg.above11b && capTurns false .noShortSlotTime x₂)

end Rtl8723du
