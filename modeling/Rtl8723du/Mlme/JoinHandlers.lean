import Rtl8723du.Lib.Loop
import Rtl8723du.Mlme.Handlers

/-!
# The handlers of an Association Response

`HT_caps_handler` merges as many bytes into a structure of 26 bytes as the element says that it has.
`rtw_process_wfd_ie` looks for an attribute in a WFD element; the length of an attribute is kept in
16 bits, so that the search need not go on.
-/

namespace Rtl8723du.Mlme

open Lib Lib.Footprint Lib.Memory

/-! ### The state -/

/-- What `OnAssocRsp` reports. -/
inductive JoinEvent
  | joinRes (res : ℤ) (status : ℕ)
  | roamNbDiscover
deriving DecidableEq, Repr

/-- What `OnAssocRsp` and its handlers use. -/
structure JoinState where
  adapter : Adapter
  /-- `adapter_mac_addr`. -/
  macAddress : MacAddr
  /-- `pmlmeinfo->state`. -/
  state : UInt32
  joinAbort : Bool
  capability : ℕ
  slotTime : ℕ
  aid : ℕ
  /-- `network.SupportedRates`. -/
  supportedRates : List UInt8
  /-- `check_fwstate(pmlmepriv, WIFI_AP_STATE)`. -/
  apState : Bool
  htCapsEnable : Bool
  /-- `HT_caps.u.HT_cap`. -/
  htCap : List UInt8
  defaultSupportedMcsSet : List UInt8
  /-- `GET_HAL_RX_NSS`. -/
  rxNss : ℕ
  ldpcCap : UInt8
  stbcCap : UInt8
  rmEnCapAssoc : List UInt8
  /-- `hal_chk_wl_func(adapter, WL_FUNC_MIRACAST)`. -/
  miracast : Bool
  peerRtspCtrlport : ℕ
  assocRsp : Option (List UInt8)
  events : List JoinEvent

/-! ### `HT_caps_handler` -/

/-- A byte of the capabilities, and that of the element: the A-MPDU parameters have two fields, of
which the smaller length and the larger spacing are kept. -/
def mergeHtCap (i : ℕ) (cap data : UInt8) : UInt8 :=
  if i ≠ 2 then cap &&& data
  else
    let maxAmpduLen := if cap &&& 0x3 > data &&& 0x3 then data &&& 0x3 else cap &&& 0x3
    let minMpduSpacing := if cap &&& 0x1c > data &&& 0x1c then cap &&& 0x1c else data &&& 0x1c
    maxAmpduLen ||| minMpduSpacing

/-- The capabilities after the loop over the data; what is behind the structure is lost. -/
def mergeHtCaps (m : Mem) (pIE : ℕ) (caps : List UInt8) : List UInt8 :=
  (List.range (elen m pIE)).foldl
    (fun caps i => caps.set i (mergeHtCap i (caps.getD i 0) (m (pIE + 2 + i)))) caps

/-- The loop over the data reads and writes a byte at a time. -/
def mergeLog (m : Mem) (pIE : ℕ) : Log :=
  (List.range (elen m pIE)).flatMap fun i => [readData pIE i 1, .write .htCaps i 1]

/-- `MCS_rate`, from byte 3 on, and some bytes. -/
def andMcsRate (caps mask : List UInt8) : List UInt8 :=
  caps.mapIdx fun i b => if 3 ≤ i ∧ i < 3 + mask.length then b &&& mask.getD (i - 3) 0 else b

/-- `set_mcs_rate_by_mask`, with the masks `MCS_RATE_1R` to `MCS_RATE_4R`. -/
def setMcsRateByNss (caps : List UInt8) (rxNss : ℕ) : List UInt8 :=
  if rxNss = 1 then andMcsRate caps [0xff, 0, 0, 0]
  else if rxNss = 2 then andMcsRate caps [0xff, 0xff, 0, 0]
  else if rxNss = 3 then andMcsRate caps [0xff, 0xff, 0xff, 0]
  else if rxNss = 4 then andMcsRate caps [0xff, 0xff, 0xff, 0xff]
  else caps

/-- The handler looks at the LDPC bit of the element. -/
def JoinState.asksLdpc (st : JoinState) : Bool := !st.apState && st.ldpcCap &&& 2 != 0

/-- The handler looks at the STBC bits of the element. -/
def JoinState.asksStbc (st : JoinState) : Bool := st.stbcCap &&& 2 != 0

/-- The end of `HT_caps_handler`: LDPC for a station, and STBC. -/
def configHtCaps (m : Mem) (pIE : ℕ) (st : JoinState) : JoinState × Log :=
  let ldpc := st.asksLdpc && m (pIE + 2) &&& 1 != 0
  let stbc := st.asksStbc && m (pIE + 2 + 1) &&& 3 != 0
  let log := (if st.asksLdpc then [readData pIE 0 1] else []) ++
    if st.asksStbc then [readData pIE 1 1] else []
  if st.apState then ({ st with stbcCap := if stbc then 2 else 0 }, log)
  else
    ({ st with
        ldpcCap := if ldpc then 2 ||| 8 else 0
        stbcCap := if stbc then 2 ||| 8 else 0 }, log)

/-- The first part of `HT_caps_handler`: the structure is filled. -/
def fillHtCaps (m : Mem) (pIE : ℕ) (st : JoinState) : JoinState :=
  let caps := andMcsRate (mergeHtCaps m pIE st.htCap) (st.defaultSupportedMcsSet.take 16)
  { st with htCapsEnable := true, htCap := setMcsRateByNss caps st.rxNss }

/-- `HT_caps_handler`. -/
def htCapsHandler (m : Mem) (pIE : ℕ) (st : JoinState) : JoinState × Log :=
  if st.adapter.htOption = false then (st, [])
  else
    let r := configHtCaps m pIE (fillHtCaps m pIE st)
    (r.1, mergeLog m pIE ++
      [.write .htCaps 0 2, .write .htCaps 19 2, .write .htCaps 3 16, .write .htCaps 3 4] ++ r.2)

/-! ### `RM_IE_handler` -/

/-- `RM_IE_handler`. -/
def rmIeHandler (m : Mem) (pIE : ℕ) (st : JoinState) : JoinState × Log :=
  let n := min (elen m pIE) 5
  ({ st with rmEnCapAssoc := readBytes m (pIE + 2) n ++ st.rmEnCapAssoc.drop n },
    [readData pIE 0 n, .write .rmEnCapAssoc 0 n])

/-! ### `rtw_process_wfd_ie` -/

/-- `WFD_OUI`. -/
def wfdOui : List UInt8 := [0x50, 0x6F, 0x9A, 0x0A]

/-- `attr_len` of the attribute at an address. -/
def wfdAttrLen (m : Mem) (attrPtr : ℕ) : ℕ := (be16 m (attrPtr + 1) + 3) % 65536

/-- A pass of the loop of `rtw_get_wfd_attr`, with the offset of `attr_ptr`: the address and the
length of the attribute. -/
def wfdAttrPass (m : Mem) (wfdIe wfdIelen : ℕ) (targetAttrId : UInt8) (s : ℕ × Log) :
    (Option (ℕ × ℕ) × Log) ⊕ (ℕ × Log) :=
  if s.1 + 3 ≤ wfdIelen then
    let attrPtr := wfdIe + s.1
    let attrLen := wfdAttrLen m attrPtr
    let log := s.2 ++ [.read ⟨attrPtr, 3⟩]
    if wfdIelen < s.1 + attrLen then .inl (none, log)
    else if m attrPtr = targetAttrId then .inl (some (attrPtr, attrLen), log)
    else .inr (s.1 + attrLen, log)
  else .inl (none, s.2)

/-- `rtw_get_wfd_attr`, with at most `k` passes. -/
def rtwGetWfdAttr (m : Mem) (wfdIe wfdIelen : ℕ) (targetAttrId : UInt8) (k : ℕ) :
    Option (Option (ℕ × ℕ) × Log) :=
  if wfdIelen ≤ 6 then some (none, [])
  else if m wfdIe ≠ 221 then some (none, [.read ⟨wfdIe, 1⟩])
  else if readBytes m (wfdIe + 2) 4 ≠ wfdOui then
    some (none, [.read ⟨wfdIe, 1⟩, .read ⟨wfdIe + 2, 4⟩])
  else
    Loop.run (wfdAttrPass m wfdIe wfdIelen targetAttrId) k
      (6, [.read ⟨wfdIe, 1⟩, .read ⟨wfdIe + 2, 4⟩])

/-- `rtw_get_wfd_attr_content`, of the attribute that was found: the address and the length, which
is kept in 32 bits. -/
def attrContent : Option (ℕ × ℕ) → Option (ℕ × ℕ)
  | none => none
  | some (attrPtr, attrLen) =>
      if attrLen = 0 then none else some (attrPtr + 3, (attrLen + (2 ^ 32 - 3)) % 2 ^ 32)

/-- The port in the content of the device information. -/
def readPort (m : Mem) (content : Option (ℕ × ℕ)) (st : JoinState) : JoinState × Log :=
  match content with
  | none => (st, [])
  | some (attrContent, attrContentlen) =>
      if attrContentlen = 0 then (st, [])
      else ({ st with peerRtspCtrlport := be16 m (attrContent + 2) }, [.read ⟨attrContent + 2, 2⟩])

/-- `rtw_process_wfd_ie`; the attribute is `WFD_ATTR_DEVICE_INFO`. -/
def rtwProcessWfdIe (m : Mem) (wfdIe wfdIelen : ℕ) (st : JoinState) (k : ℕ) :
    Option (JoinState × Log) :=
  if st.miracast = false then some (st, [])
  else
    (rtwGetWfdAttr m wfdIe wfdIelen 0 k).map fun r =>
      let p := readPort m (attrContent r.1) st
      (p.1, r.2 ++ p.2)

end Rtl8723du.Mlme
