import Rtl8723du.Lib.Bytes
import Rtl8723du.Recv.Frame

/-!
# Management frames

The header fields and the action categories that the protection of management
frames looks at.  A frame is the list of its bytes, from the frame control field
on and without the FCS.
-/

namespace Rtl8723du

open Lib.Bytes

/-- `WLAN_HDR_A3_LEN`, `sizeof(struct rtw_ieee80211_hdr_3addr)`. -/
abbrev wlanHdrA3Len : ℕ := 24

/-- `get_frame_sub_type`: bits 7 to 2 of the frame control field. -/
def getFrameSubType (pframe : List UInt8) : UInt8 := pframe.getD 0 0 &&& 0xFC

/-- `WIFI_DISASSOC`. -/
abbrev wifiDisassoc : UInt8 := 0xA0

/-- `WIFI_DEAUTH`. -/
abbrev wifiDeauth : UInt8 := 0xC0

/-- `WIFI_ACTION`. -/
abbrev wifiAction : UInt8 := 0xD0

/-- The address at an offset of the frame. -/
def macAt (pframe : List UInt8) (off : ℕ) : MacAddr := Vector.ofFn fun i => pframe.getD (off + i) 0

/-- `GetPrivacy`: the Protected bit. -/
def getPrivacy (pframe : List UInt8) : Bool := pframe.getD 1 0 &&& 0x40 != 0

/-- `GetMFrag`: the More Fragments bit. -/
def getMFrag (pframe : List UInt8) : Bool := pframe.getD 1 0 &&& 0x04 != 0

/-- `GetFragNum`. -/
def getFragNum (pframe : List UInt8) : Fin 16 := Fin.ofNat 16 (leAt pframe 22 2)

/-- `GetSequence`. -/
def getSequence (pframe : List UInt8) : ℕ := leAt pframe 22 2 / 16

/-- `IS_MCAST(GetAddr1Ptr(pframe))`. -/
def isMcastAddr1 (pframe : List UInt8) : Bool := pframe.getD 4 0 &&& 0x01 != 0

/-- The category of an action frame, the first byte of its body. -/
def actionCategory (pframe : List UInt8) : UInt8 := pframe.getD wlanHdrA3Len 0

/-- `CATEGORY_IS_GROUP_PRIVACY`: mesh and multihop action frames. -/
def categoryIsGroupPrivacy (cat : UInt8) : Bool := cat == 13 || cat == 14

/-- `CATEGORY_IS_NON_ROBUST`: public, HT, unprotected WNM, self protected, VHT and P2P
action frames. -/
def categoryIsNonRobust (cat : UInt8) : Bool :=
  cat == 4 || cat == 7 || cat == 11 || cat == 15 || cat == 21 || cat == 0x7f

/-- `CATEGORY_IS_ROBUST`. -/
def categoryIsRobust (cat : UInt8) : Bool := !categoryIsNonRobust cat

/-- The part of `struct sta_info` that the protection of management frames looks at. -/
structure MgmtPeer where
  /-- `WLAN_STA_MFP` is set in `flags`. -/
  mfp : Bool
  bpairwiseKeyInstalled : Bool
  /-- The pairwise cipher. -/
  dot118021XPrivacy : SecurityType
  /-- The pairwise key. -/
  dot118021xUncstKey : List UInt8 := []

/-- The part of `struct security_priv` that the protection of management frames works
on. -/
structure SecurityPriv where
  binstallGrpkey : Bool
  dot118021XGrpKeyid : Fin 4 := 0
  dot118021XGrpKey : Fin 4 → List UInt8 := fun _ => []
  binstallBIPkey : Bool
  dot11wCipher : SecurityType
  dot11wBIPKeyid : ℕ
  dot11wBIPKey : ℕ → List UInt8
  /-- The packet number of the last frame sent, `u64`. -/
  dot11wBIPtxpn : ℕ
  /-- The packet number of the last frame accepted, `u64`. -/
  dot11wBIPrxpn : ℕ

end Rtl8723du
