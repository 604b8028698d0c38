import Mathlib.Data.Nat.Bitwise

/-!
# Received frames

The part of `union recv_frame` and of its `struct rx_pkt_attrib` that the
receive path decides on.
-/

namespace Rtl8723du

/-- A MAC address, `u8 addr[ETH_ALEN]`. -/
abbrev MacAddr := Vector UInt8 6

/-- `IS_MCAST`: the group bit of an address. -/
def isMcast (da : MacAddr) : Bool := da[0] &&& 0x01 != 0

/-- The broadcast address, `bc_addr`. -/
def bcAddr : MacAddr := Vector.replicate 6 0xff

/-- An address by its bytes. -/
def MacAddr.ofBytes (a b c d e f : UInt8) : MacAddr := #v[a, b, c, d, e, f]

/-- `rtw_check_invalid_mac_address`. -/
def rtwCheckInvalidMacAddress (macAddr : MacAddr) (checkLocalBit : Bool) : Bool :=
  macAddr == Vector.replicate 6 0 || macAddr == bcAddr || macAddr[0] &&& 0x01 != 0 ||
    checkLocalBit && macAddr[0] &&& 0x02 != 0

/-- `GetFrameType`: bits 3 and 2 of the frame control field. -/
def getFrameType (pframe : List UInt8) : UInt8 := pframe.getD 0 0 &&& 0x0c

/-- `WIFI_DATA_TYPE`. -/
abbrev wifiDataType : UInt8 := 0x08

/-- What the receive functions return: `_SUCCESS`, `_FAIL` and `RTW_RX_HANDLED`. -/
inductive RxRet
  | success
  | fail
  | handled
deriving DecidableEq, Repr

-- key ids and fragment numbers are literals of `Fin 4` and `Fin 16`
instance neZeroFour : NeZero 4 := ⟨by decide⟩

instance neZeroSixteen : NeZero 16 := ⟨by decide⟩

/-- `enum security_type`. -/
inductive SecurityType
  | noPrivacy
  | wep40
  | tkip
  | tkipWtmic
  | aes
  | wep104
  | sms4
  | gcmp
  | ccmp256
  | gcmp256
  | bipCmac128
  | bipGmac128
  | bipGmac256
  | bipCmac256
deriving DecidableEq, Repr

/-- The attributes of a received frame, `struct rx_pkt_attrib`; they are zero
until they are set. -/
structure RxPktAttrib where
  /-- The frame is a QoS data frame. -/
  qos : Bool := false
  /-- The TID of a QoS data frame. -/
  priority : ℕ := 0
  /-- The 12-bit sequence number. -/
  seqNum : ℕ := 0
  /-- The cipher the frame is encrypted with. -/
  encrypt : SecurityType := .noPrivacy
  /-- The length of the MAC header. -/
  hdrlen : ℕ := 0
  /-- The length of the IV, zero if the frame is not encrypted. -/
  ivLen : ℕ := 0
  /-- The length of the ICV, zero if the frame is not encrypted. -/
  icvLen : ℕ := 0
  /-- The Protected bit. -/
  privacy : Bool := false
  /-- The More Fragments bit. -/
  mfrag : Bool := false
  /-- The fragment number. -/
  fragNum : Fin 16 := 0
  /-- The receiver address. -/
  ra : MacAddr := Vector.replicate 6 0
  /-- The transmitter address. -/
  ta : MacAddr := Vector.replicate 6 0
  /-- The id of the key the frame was encrypted with. -/
  keyIndex : Fin 4 := 0
  /-- The frame is decrypted already. -/
  bdecrypted : Bool := false
  /-- The length of the frame, `pkt_len`. -/
  pktLen : ℕ := 0
deriving DecidableEq, Repr

/-- A received frame, `union recv_frame`. -/
structure RecvFrame where
  attrib : RxPktAttrib
  /-- The bytes from `rx_data` to `rx_tail`. -/
  rxData : List UInt8
  /-- The room behind the frame, `rx_end - rx_tail`. -/
  room : ℕ := 0
  /-- The `keytrack` of its transmitter when the fragment was received. -/
  keytrack : BitVec 32 := 0
  /-- The key the frame was decrypted with, if it was encrypted.  The source does not keep
  it. -/
  key : List UInt8 := []
deriving DecidableEq, Repr

/-- `recvframe_pull`: removes bytes in front, if there are that many. -/
def RecvFrame.pull (f : RecvFrame) (sz : ℕ) : RecvFrame :=
  if f.rxData.length < sz then f else { f with rxData := f.rxData.drop sz }

/-- `recvframe_pull_tail`: removes bytes at the end, if there are that many. -/
def RecvFrame.pullTail (f : RecvFrame) (sz : ℕ) : RecvFrame :=
  if f.rxData.length < sz then f
  else { f with rxData := f.rxData.take (f.rxData.length - sz), room := f.room + sz }

/-- `recvframe_put` with the bytes that are copied to `rx_tail`, if there is room. -/
def RecvFrame.put (f : RecvFrame) (bs : List UInt8) : RecvFrame :=
  if f.room < bs.length then f
  else { f with rxData := f.rxData ++ bs, room := f.room - bs.length }

end Rtl8723du
