import Rtl8723du.Lib.Bytes
import Rtl8723du.Mgmt.Frame

/-!
# Broadcast integrity protection

`rtw_mgmt_xmitframe_coalesce` appends a management MIC element (MME) to a
group-addressed robust management frame, `rtw_bip_verify` checks one.  Both build
the authenticated data, the masked header followed by the body with a zeroed MIC,
on their own.

The MIC itself is computed by `omac1_aes_128`, `omac1_aes_256` and `aes_gmac` of
`core/crypto`, which are a parameter here.
-/

namespace Rtl8723du

open Lib.Bytes

/-- The MIC functions; they fail when they cannot set up the cipher. -/
structure MicFns where
  /-- `omac1_aes_128` and `omac1_aes_256`, by the length of the key. -/
  omac1Aes (keyLen : ℕ) (key data : List UInt8) : Option (Vector UInt8 16)
  aesGmac (keyLen : ℕ) (key nonce data : List UInt8) : Option (Vector UInt8 16)

variable (m : MicFns)

/-- `_MME_IE_`. -/
abbrev mmeIe : UInt8 := 76

/-- `ClearRetry`, `ClearPwrMgt` and `ClearMData` clear a bit of the second byte. -/
def clearFcBit (bit : UInt8) (fc : List UInt8) : List UInt8 := fc.modify 1 (· &&& ~~~bit)

def clearRetry (fc : List UInt8) : List UInt8 := clearFcBit 0x08 fc

def clearPwrMgt (fc : List UInt8) : List UInt8 := clearFcBit 0x10 fc

def clearMData (fc : List UInt8) : List UInt8 := clearFcBit 0x20 fc

/-- The header part of the authenticated data: the masked frame control field and
the three addresses, `BIP_AAD_SIZE` bytes. -/
def bipAad (whdr : List UInt8) : List UInt8 :=
  clearMData (clearPwrMgt (clearRetry (whdr.take 2))) ++ (whdr.drop 4).take 18

/-- `_bip_ccmp_protect`. -/
def bipCcmpProtect (key : List UInt8) (keyLen : ℕ) (data : List UInt8) :
    Option (Vector UInt8 16) :=
  if keyLen = 16 then m.omac1Aes 16 key data
  else if keyLen = 32 then m.omac1Aes 32 key data
  else none

/-- `_bip_gcmp_protect`: the nonce is the transmitter and the packet number, highest
byte first. -/
def bipGcmpProtect (whdr : List UInt8) (len : ℕ) (key : List UInt8) (keyLen : ℕ)
    (data : List UInt8) : Option (Vector UInt8 16) :=
  let gcmpIpn := (whdr.drop (len - 16 - 6)).take 6
  let nonce := (whdr.drop 10).take 6 ++ gcmpIpn.reverse
  m.aesGmac keyLen key nonce data

/-- `rtw_calculate_bip_mic`. -/
def rtwCalculateBipMic (gmcs : SecurityType) (whdr : List UInt8) (len : ℕ)
    (key data : List UInt8) : Option (Vector UInt8 16) :=
  match gmcs with
  | .bipCmac128 => bipCcmpProtect m key 16 data
  | .bipCmac256 => bipCcmpProtect m key 32 data
  | .bipGmac128 => bipGcmpProtect m whdr len key 16 data
  | .bipGmac256 => bipGcmpProtect m whdr len key 32 data
  | _ => none

/-! ### Sending -/

/-- `rtw_set_ie`: the bytes it writes. -/
def rtwSetIe (index : UInt8) (len : ℕ) (source : List UInt8) : List UInt8 :=
  index :: UInt8.ofNat len :: source.take len

/-- `mme_cont`: 24 zero bytes, with the key id at 0 and the packet number, as a
64-bit number, at 2. -/
def mmeCont (keyid val : ℕ) : List UInt8 :=
  UInt8.ofNat keyid :: 0 :: (leBytes 8 val ++ List.replicate 14 0)

/-- How `rtw_mgmt_xmitframe_coalesce` leaves a frame. -/
inductive MgmtXmit
  | fail
  /-- The frame is sent as it is. -/
  | plain
  /-- The frame is sent with an MME. -/
  | bip (pframe : List UInt8)
  /-- The frame goes on to encryption with the pairwise or the group key. -/
  | encrypt
deriving DecidableEq

/-- The BIP branch of `rtw_mgmt_xmitframe_coalesce`. -/
def bipCoalesce (sec : SecurityPriv) (pframe : List UInt8) : MgmtXmit × SecurityPriv :=
  let mmeClen := if sec.dot11wCipher = .bipCmac128 then 16 else 24
  let sec := { sec with dot11wBIPtxpn := (sec.dot11wBIPtxpn + 1) % 2 ^ 64 }
  let pkt := pframe ++ rtwSetIe mmeIe mmeClen (mmeCont sec.dot11wBIPKeyid sec.dot11wBIPtxpn)
  let data := bipAad pkt ++ pkt.drop wlanHdrA3Len
  match rtwCalculateBipMic m sec.dot11wCipher pkt pkt.length
      (sec.dot11wBIPKey sec.dot11wBIPKeyid) data with
  | none => (.fail, sec)
  | some mic =>
      if sec.dot11wCipher = .bipCmac128 then
        (.bip (pkt.take (pkt.length - 8) ++ mic.toList.take 8), sec)
      else (.bip (pkt.take (pkt.length - 16) ++ mic.toList.take 16), sec)

/-- `rtw_mgmt_xmitframe_coalesce`, up to the encryption of unicast and of group
privacy frames; `psta` is the station with the receiver address. -/
def rtwMgmtXmitframeCoalesce (sec : SecurityPriv) (psta : Option MgmtPeer)
    (pframe : List UInt8) : MgmtXmit × SecurityPriv :=
  let subtype := getFrameSubType pframe
  if subtype ≠ wifiDeauth ∧ subtype ≠ wifiDisassoc ∧ subtype ≠ wifiAction then (.plain, sec)
  else
    let category := if subtype = wifiAction then actionCategory pframe else 0xFF
    if subtype = wifiAction ∧ categoryIsNonRobust category then (.plain, sec)
    else if isMcastAddr1 pframe then
      if subtype = wifiAction ∧ categoryIsGroupPrivacy category then
        if sec.binstallGrpkey then (.encrypt, sec) else (.fail, sec)
      else if !sec.binstallBIPkey then (.plain, sec)
      else bipCoalesce m sec pframe
    else
      match psta with
      | none => (.fail, sec)
      | some psta =>
          if !psta.mfp then (.plain, sec)
          else if !psta.bpairwiseKeyInstalled then (.fail, sec)
          else (.encrypt, sec)

/-! ### Receiving -/

/-- The length of the MIC. -/
def bipMicLen (gmcs : SecurityType) : ℕ := if gmcs = .bipCmac128 then 8 else 16

/-- `rtw_bip_verify` on a frame with `flen` bytes; the second component is `*ipn`
afterwards. -/
def rtwBipVerify (gmcs : SecurityType) (pktLen : ℕ) (whdr key : List UInt8) (keyid ipn : ℕ) :
    RxRet × ℕ :=
  let micLen := bipMicLen gmcs
  let flen := whdr.length
  if flen < wlanHdrA3Len ∨ flen - wlanHdrA3Len < micLen then (.handled, ipn)
  else
    let mmeOffset := if micLen = 8 then 18 else 26
    let mme := whdr.drop (flen - mmeOffset)
    if mme.getD 0 0 ≠ mmeIe then (.handled, ipn)
    else if leAt mme 2 2 ≠ keyid then (.fail, ipn)
    else
      let pktIpn := leAt mme 4 6
      if pktIpn ≤ ipn then (.fail, ipn)
      else
        let data := bipAad whdr ++
          (whdr.drop wlanHdrA3Len).take (flen - wlanHdrA3Len - micLen) ++ List.replicate micLen 0
        match rtwCalculateBipMic m gmcs whdr pktLen key data with
        | none => (.fail, ipn)
        | some mic =>
            if mic.toList.take micLen = whdr.drop (flen - micLen) then (.success, pktIpn)
            else (.fail, ipn)

/-- The call of `rtw_bip_verify` with the group key in use, on a frame whose
`pkt_len` is its length. -/
def SecurityPriv.bipVerify (sec : SecurityPriv) (frame : List UInt8) (ipn : ℕ) : RxRet × ℕ :=
  rtwBipVerify m sec.dot11wCipher frame.length frame (sec.dot11wBIPKey sec.dot11wBIPKeyid)
    sec.dot11wBIPKeyid ipn

end Rtl8723du
