import Mathlib.Data.BitVec
import Rtl8723du.Lib.Bytes

/-!
# RSN and WPA elements

`rtw_rsne_info_parse`, `rtw_parse_wpa2_ie` and `rtw_parse_wpa_ie` of `core/rtw_ieee80211.c`, on
whole elements with their id and length.  Sets of ciphers and of key management suites are bit
masks.
-/

namespace Rtl8723du.Assoc

open Lib.Bytes

/-! ### Suites -/

abbrev wpaCipherNone : BitVec 32 := 0x001
abbrev wpaCipherWep40 : BitVec 32 := 0x002
abbrev wpaCipherWep104 : BitVec 32 := 0x004
abbrev wpaCipherTkip : BitVec 32 := 0x008
abbrev wpaCipherCcmp : BitVec 32 := 0x010
abbrev wpaCipherGcmp : BitVec 32 := 0x020
abbrev wpaCipherGcmp256 : BitVec 32 := 0x040
abbrev wpaCipherCcmp256 : BitVec 32 := 0x080
abbrev wpaCipherBipCmac128 : BitVec 32 := 0x100
abbrev wpaCipherBipGmac128 : BitVec 32 := 0x200
abbrev wpaCipherBipGmac256 : BitVec 32 := 0x400
abbrev wpaCipherBipCmac256 : BitVec 32 := 0x800

/-- `WLAN_AKM_TYPE_SAE`. -/
abbrev wlanAkmTypeSae : BitVec 32 := 0x80

/-- `rtw_get_wpa_cipher_suite`. -/
def rtwGetWpaCipherSuite : List UInt8 → BitVec 32
  | [0x00, 0x50, 0xF2, suite] =>
      if suite = 0 then wpaCipherNone
      else if suite = 1 then wpaCipherWep40
      else if suite = 2 then wpaCipherTkip
      else if suite = 4 then wpaCipherCcmp
      else if suite = 5 then wpaCipherWep104
      else 0
  | _ => 0

/-- `rtw_get_rsn_cipher_suite`. -/
def rtwGetRsnCipherSuite : List UInt8 → BitVec 32
  | [0x00, 0x0F, 0xAC, suite] =>
      if suite = 0 then wpaCipherNone
      else if suite = 1 then wpaCipherWep40
      else if suite = 2 then wpaCipherTkip
      else if suite = 4 then wpaCipherCcmp
      else if suite = 8 then wpaCipherGcmp
      else if suite = 9 then wpaCipherGcmp256
      else if suite = 10 then wpaCipherCcmp256
      else if suite = 5 then wpaCipherWep104
      else if suite = 6 then wpaCipherBipCmac128
      else if suite = 11 then wpaCipherBipGmac128
      else if suite = 12 then wpaCipherBipGmac256
      else if suite = 13 then wpaCipherBipCmac256
      else 0
  | _ => 0

/-- `rtw_get_akm_suite_bitmap`: the suites 1 to 9, 11, 12 and 14 to 17 have the bits from 0
on. -/
def rtwGetAkmSuiteBitmap : List UInt8 → BitVec 32
  | [0x00, 0x0F, 0xAC, suite] =>
      if 1 ≤ suite ∧ suite ≤ 9 then 1 <<< (suite.toNat - 1)
      else if suite = 11 ∨ suite = 12 then 1 <<< (suite.toNat - 2)
      else if 14 ≤ suite ∧ suite ≤ 17 then 1 <<< (suite.toNat - 3)
      else 0
  | _ => 0

/-- The suites of a list of 4-byte selectors, by their bits. -/
def suiteMask (suite : List UInt8 → BitVec 32) : ℕ → List UInt8 → BitVec 32
  | 0, _ => 0
  | cnt + 1, pos => suite (pos.take 4) ||| suiteMask suite cnt (pos.drop 4)

/-! ### The RSN element -/

/-- `struct rsne_info`, with the lists as what follows them in the element. -/
structure RsneInfo where
  gcs : Option (List UInt8) := none
  pcsCnt : ℕ := 0
  pcsList : List UInt8 := []
  akmCnt : ℕ := 0
  akmList : List UInt8 := []
  cap : Option ℕ := none
  pmkidCnt : ℕ := 0
  gmcs : Option (List UInt8) := none

namespace RsneInfo

/-- The element may end here, but not within a field. -/
def atEnd (info : RsneInfo) (pos : List UInt8) : Option RsneInfo :=
  if pos = [] then some info else none

def parseGmcs (info : RsneInfo) (pos : List UInt8) : Option RsneInfo :=
  if pos.length < 4 then info.atEnd pos
  else some { info with gmcs := some (pos.take 4) }

def parsePmkid (info : RsneInfo) (pos : List UInt8) : Option RsneInfo :=
  if pos.length < 2 then info.atEnd pos
  else
    let cnt := leAt pos 0 2
    let pos := pos.drop 2
    if pos.length < 16 * cnt then none
    else parseGmcs { info with pmkidCnt := cnt } (pos.drop (16 * cnt))

def parseCap (info : RsneInfo) (pos : List UInt8) : Option RsneInfo :=
  if pos.length < 2 then info.atEnd pos
  else parsePmkid { info with cap := some (leAt pos 0 2) } (pos.drop 2)

def parseAkm (info : RsneInfo) (pos : List UInt8) : Option RsneInfo :=
  if pos.length < 2 then info.atEnd pos
  else
    let cnt := leAt pos 0 2
    let pos := pos.drop 2
    if pos.length < 4 * cnt then info.atEnd pos
    else parseCap { info with akmCnt := cnt, akmList := pos } (pos.drop (4 * cnt))

def parsePcs (info : RsneInfo) (pos : List UInt8) : Option RsneInfo :=
  if pos.length < 2 then info.atEnd pos
  else
    let cnt := leAt pos 0 2
    let pos := pos.drop 2
    if pos.length < 4 * cnt then info.atEnd pos
    else parseAkm { info with pcsCnt := cnt, pcsList := pos } (pos.drop (4 * cnt))

def parseGcs (info : RsneInfo) (pos : List UInt8) : Option RsneInfo :=
  if pos.length < 4 then info.atEnd pos
  else parsePcs { info with gcs := some (pos.take 4) } (pos.drop 4)

end RsneInfo

/-- `rtw_rsne_info_parse`. -/
def rtwRsneInfoParse (ie : List UInt8) : Option RsneInfo :=
  if ie.length < 4 then none
  else if ie.getD 0 0 ≠ 48 ∨ (ie.getD 1 0).toNat ≠ ie.length - 2 then none
  else if leAt ie 2 2 ≠ 1 then none
  else RsneInfo.parseGcs {} (ie.drop 4)

/-- What `rtw_parse_wpa2_ie` finds. -/
structure Wpa2Info where
  groupCipher : BitVec 32
  pairwiseCipher : BitVec 32
  gmcs : BitVec 32
  akm : BitVec 32
  mfpOpt : ℕ
  sppOpt : ℕ

/-- `rtw_parse_wpa2_ie`. -/
def rtwParseWpa2Ie (rsnIe : List UInt8) : Option Wpa2Info :=
  (rtwRsneInfoParse rsnIe).map fun info =>
    { groupCipher := (info.gcs.map rtwGetRsnCipherSuite).getD 0
      pairwiseCipher := suiteMask rtwGetRsnCipherSuite info.pcsCnt info.pcsList
      gmcs := (info.gmcs.map rtwGetRsnCipherSuite).getD wpaCipherBipCmac128
      akm := suiteMask rtwGetAkmSuiteBitmap info.akmCnt info.akmList
      mfpOpt := info.cap.getD 0 / 64 % 4
      sppOpt := info.cap.getD 0 / 1024 % 4 }

/-! ### The WPA element -/

/-- `RTW_WPA_OUI_TYPE`. -/
def rtwWpaOuiType : List UInt8 := [0x00, 0x50, 0xF2, 1]

/-- The group and the pairwise ciphers that `rtw_parse_wpa_ie` finds. -/
def rtwParseWpaIe (wpaIe : List UInt8) : Option (BitVec 32 × BitVec 32) :=
  if wpaIe = [] then none
  else if wpaIe.getD 0 0 ≠ 0xDD ∨ (wpaIe.getD 1 0).toNat ≠ (wpaIe.length - 2) % 256 ∨
      (wpaIe.drop 2).take 4 ≠ rtwWpaOuiType then none
  else
    let pos := wpaIe.drop 8
    if 0 < pos.length ∧ pos.length < 4 then none
    else
      let groupCipher := if pos.length < 4 then 0 else rtwGetWpaCipherSuite (pos.take 4)
      let pos := pos.drop 4
      if pos.length = 0 then some (groupCipher, 0)
      else if pos.length = 1 then none
      else
        let count := leAt pos 0 2
        let pos := pos.drop 2
        if count = 0 ∨ pos.length < count * 4 then none
        else some (groupCipher, suiteMask rtwGetWpaCipherSuite count pos)

end Rtl8723du.Assoc
