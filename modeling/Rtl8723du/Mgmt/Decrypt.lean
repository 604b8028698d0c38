import Rtl8723du.Mgmt.Frame

/-!
# Software decryption

`decryptor` decrypts a received frame that the hardware has not decrypted.  It takes
the group key for group-addressed frames and the pairwise key of the transmitter for
all others.

AES-CCM and AES-GCM of `core/crypto`, and the decryption of WEP and TKIP, are a
parameter here.
-/

namespace Rtl8723du

open Lib.Bytes

/-- The decryption functions; CCM and GCM fail when the MIC is wrong. -/
structure DecryptFns where
  /-- `aes_ccm_ad`. -/
  aesCcmAd (keyLen : ℕ) (key nonce : List UInt8) (micLen : ℕ) (crypt aad auth : List UInt8) :
    Option (List UInt8)
  /-- `aes_gcm_ad`. -/
  aesGcmAd (keyLen : ℕ) (key iv crypt aad tag : List UInt8) : Option (List UInt8)
  /-- `rtw_wep_decrypt`, which has no result. -/
  rtwWepDecrypt : SecurityPriv → RecvFrame → RecvFrame
  /-- `rtw_tkip_decrypt`, which checks the ICV. -/
  rtwTkipDecrypt : SecurityPriv → Option MgmtPeer → RecvFrame → Option RecvFrame

variable (c : DecryptFns)

/-- The additional authenticated data of `ccmp_aad_nonce` and `gcmp_aad_nonce`;
`fcSet` are the frame control bits that are set in it, `amsduSpp` tells whether bit 7 of
the QoS control field counts. -/
def aadOf (fcSet : UInt16) (amsduSpp : Bool) (hdr : List UInt8) : List UInt8 :=
  let fc := UInt16.ofNat (leAt hdr 0 2)
  let addr4 := fc &&& 0x0300 == 0x0300
  let isData := fc &&& 0x000c == 0x0008
  let qos := isData && fc &&& 0x0080 != 0
  let fc := if isData then fc &&& ~~~0x0070 else fc
  let fc := if qos then fc &&& ~~~0x8000 else fc
  let fc := (fc &&& ~~~0x3800) ||| fcSet
  let qc := hdr.getD (if addr4 then 30 else 24) 0 &&& ~~~0x70
  leBytes 2 fc.toNat ++ (hdr.drop 4).take 18 ++ leBytes 2 (leAt hdr 22 2 % 16) ++
    (if addr4 then (hdr.drop 24).take 6 else []) ++
    (if qos then [if amsduSpp then qc else qc &&& ~~~0x80, 0] else [])

/-- The transmitter and the packet number, highest byte first. -/
def addr2Pn (hdr data : List UInt8) : List UInt8 :=
  (hdr.drop 10).take 6 ++ [7, 6, 5, 4, 1, 0].map fun i => data.getD i 0

/-- The first byte of the CCMP nonce: the TID of a QoS data frame, or the bit of
management frames. -/
def ccmpNonceFlags (hdr : List UInt8) : UInt8 :=
  let fc := UInt16.ofNat (leAt hdr 0 2)
  let addr4 := fc &&& 0x0300 == 0x0300
  if fc &&& 0x000c == 0x0008 then
    if fc &&& 0x0080 != 0 then hdr.getD (if addr4 then 30 else 24) 0 &&& 0x0f else 0
  else if fc &&& 0x000c == 0 then 0x10
  else 0

/-- `ccmp_decrypt` and `ccmp_256_decrypt`, which differ in the lengths of the key and of
the MIC. -/
def ccmDecrypt (keyLen micLen : ℕ) (amsduSpp : Bool) (tk hdr data : List UInt8) :
    Option (List UInt8) :=
  if data.length < 8 + micLen then none
  else
    let mlen := data.length - 8 - micLen
    c.aesCcmAd keyLen tk (ccmpNonceFlags hdr :: addr2Pn hdr data) micLen
      ((data.drop 8).take mlen) (aadOf 0x4000 amsduSpp hdr) (data.drop (8 + mlen))

/-- `ccmp_decrypt`. -/
def ccmpDecrypt : Bool → List UInt8 → List UInt8 → List UInt8 → Option (List UInt8) :=
  ccmDecrypt c 16 8

/-- `ccmp_256_decrypt`. -/
def ccmp256Decrypt : Bool → List UInt8 → List UInt8 → List UInt8 → Option (List UInt8) :=
  ccmDecrypt c 32 16

/-- `gcmp_decrypt`. -/
def gcmpDecrypt (keyLen : ℕ) (amsduSpp : Bool) (tk hdr data : List UInt8) :
    Option (List UInt8) :=
  if data.length < 8 + 16 then none
  else
    let mlen := data.length - 8 - 16
    c.aesGcmAd keyLen tk (addr2Pn hdr data) ((data.drop 8).take mlen) (aadOf 0 amsduSpp hdr)
      (data.drop (8 + mlen))

/-- The plaintext of a frame whose cipher has a MIC: `_rtw_ccmp_decrypt` and
`_rtw_gcmp_decrypt` with the lengths that `rtw_aes_decrypt` and `rtw_gcmp_decrypt` give
them. -/
def micDecrypt (amsduSpp : Bool) (encrypt : SecurityType) (key frame : List UInt8)
    (hdrlen : ℕ) : Option (List UInt8) :=
  match encrypt with
  | .aes => ccmpDecrypt c amsduSpp key frame (frame.drop hdrlen)
  | .ccmp256 => ccmp256Decrypt c amsduSpp key frame (frame.drop hdrlen)
  | .gcmp => gcmpDecrypt c 16 amsduSpp key frame (frame.drop hdrlen)
  | .gcmp256 => gcmpDecrypt c 32 amsduSpp key frame (frame.drop hdrlen)
  | _ => none

/-- The key that `rtw_aes_decrypt` and `rtw_gcmp_decrypt` take. -/
def swDecryptKey (sec : SecurityPriv) (stainfo : Option MgmtPeer) (f : RecvFrame) :
    Option (List UInt8) :=
  match stainfo with
  | none => none
  | some stainfo =>
      if isMcast f.attrib.ra then
        if !sec.binstallGrpkey then none
        else if sec.dot118021XGrpKeyid ≠ f.attrib.keyIndex then none
        else some (sec.dot118021XGrpKey f.attrib.keyIndex)
      else some stainfo.dot118021xUncstKey

/-- `rtw_aes_decrypt` and `rtw_gcmp_decrypt`: the plaintext is copied back behind the
IV. -/
def swMicDecrypt (amsduSpp : Bool) (sec : SecurityPriv) (stainfo : Option MgmtPeer)
    (f : RecvFrame) : Option RecvFrame :=
  (swDecryptKey sec stainfo f).bind fun key =>
    (micDecrypt c amsduSpp f.attrib.encrypt key f.rxData f.attrib.hdrlen).map fun plain =>
      { f with rxData := writeAt f.rxData (f.attrib.hdrlen + 8) plain }

/-- The decryption that `decryptor` chooses by the cipher. -/
def swDecrypt (amsduSpp : Bool) (sec : SecurityPriv) (stainfo : Option MgmtPeer)
    (f : RecvFrame) : Option RecvFrame :=
  match f.attrib.encrypt with
  | .wep40 | .wep104 => some (c.rtwWepDecrypt sec f)
  | .tkip => c.rtwTkipDecrypt sec stainfo f
  | .aes | .ccmp256 | .gcmp | .gcmp256 => swMicDecrypt c amsduSpp sec stainfo f
  | _ => some f

/-- The frame with the key id that its IV names. -/
def RecvFrame.setKeyIndex (f : RecvFrame) : RecvFrame :=
  let keyIndex := Fin.ofNat 4 ((f.rxData.getD (f.attrib.hdrlen + 3) 0).toNat / 64)
  { f with attrib := { f.attrib with keyIndex := keyIndex } }

/-- `decryptor`; `stainfo` is the station with the transmitter address.  It fails when
the frame is dropped. -/
def decryptor (amsduSpp : Bool) (sec : SecurityPriv) (stainfo : Option MgmtPeer)
    (f : RecvFrame) : Option RecvFrame :=
  let f := if f.attrib.encrypt = .noPrivacy then f else f.setKeyIndex
  let res := if f.attrib.bdecrypted then some f else swDecrypt c amsduSpp sec stainfo f
  res.map fun f => { f with attrib := { f.attrib with bdecrypted := true } }

end Rtl8723du
