import Rtl8723du.Recv.Frame

/-!
# The key mixing of TKIP

`phase1` and `phase2`, which make the RC4 key of a frame from the temporal key, the transmitter
address and the packet number.
-/

namespace Rtl8723du.Crypto

/-- `Sbox1[0]`. -/
def sbox1 : List UInt16 := [
    0xC6A5, 0xF884, 0xEE99, 0xF68D, 0xFF0D, 0xD6BD, 0xDEB1, 0x9154, 0x6050, 0x0203,
    0xCEA9, 0x567D, 0xE719, 0xB562, 0x4DE6, 0xEC9A, 0x8F45, 0x1F9D, 0x8940, 0xFA87,
    0xEF15, 0xB2EB, 0x8EC9, 0xFB0B, 0x41EC, 0xB367, 0x5FFD, 0x45EA, 0x23BF, 0x53F7,
    0xE496, 0x9B5B, 0x75C2, 0xE11C, 0x3DAE, 0x4C6A, 0x6C5A, 0x7E41, 0xF502, 0x834F,
    0x685C, 0x51F4, 0xD134, 0xF908, 0xE293, 0xAB73, 0x6253, 0x2A3F, 0x080C, 0x9552,
    0x4665, 0x9D5E, 0x3028, 0x37A1, 0x0A0F, 0x2FB5, 0x0E09, 0x2436, 0x1B9B, 0xDF3D,
    0xCD26, 0x4E69, 0x7FCD, 0xEA9F, 0x121B, 0x1D9E, 0x5874, 0x342E, 0x362D, 0xDCB2,
    0xB4EE, 0x5BFB, 0xA4F6, 0x764D, 0xB761, 0x7DCE, 0x527B, 0xDD3E, 0x5E71, 0x1397,
    0xA6F5, 0xB968, 0x0000, 0xC12C, 0x4060, 0xE31F, 0x79C8, 0xB6ED, 0xD4BE, 0x8D46,
    0x67D9, 0x724B, 0x94DE, 0x98D4, 0xB0E8, 0x854A, 0xBB6B, 0xC52A, 0x4FE5, 0xED16,
    0x86C5, 0x9AD7, 0x6655, 0x1194, 0x8ACF, 0xE910, 0x0406, 0xFE81, 0xA0F0, 0x7844,
    0x25BA, 0x4BE3, 0xA2F3, 0x5DFE, 0x80C0, 0x058A, 0x3FAD, 0x21BC, 0x7048, 0xF104,
    0x63DF, 0x77C1, 0xAF75, 0x4263, 0x2030, 0xE51A, 0xFD0E, 0xBF6D, 0x814C, 0x1814,
    0x2635, 0xC32F, 0xBEE1, 0x35A2, 0x88CC, 0x2E39, 0x9357, 0x55F2, 0xFC82, 0x7A47,
    0xC8AC, 0xBAE7, 0x322B, 0xE695, 0xC0A0, 0x1998, 0x9ED1, 0xA37F, 0x4466, 0x547E,
    0x3BAB, 0x0B83, 0x8CCA, 0xC729, 0x6BD3, 0x283C, 0xA779, 0xBCE2, 0x161D, 0xAD76,
    0xDB3B, 0x6456, 0x744E, 0x141E, 0x92DB, 0x0C0A, 0x486C, 0xB8E4, 0x9F5D, 0xBD6E,
    0x43EF, 0xC4A6, 0x39A8, 0x31A4, 0xD337, 0xF28B, 0xD532, 0x8B43, 0x6E59, 0xDAB7,
    0x018C, 0xB164, 0x9CD2, 0x49E0, 0xD8B4, 0xACFA, 0xF307, 0xCF25, 0xCAAF, 0xF48E,
    0x47E9, 0x1018, 0x6FD5, 0xF088, 0x4A6F, 0x5C72, 0x3824, 0x57F1, 0x73C7, 0x9751,
    0xCB23, 0xA17C, 0xE89C, 0x3E21, 0x96DD, 0x61DC, 0x0D86, 0x0F85, 0xE090, 0x7C42,
    0x71C4, 0xCCAA, 0x90D8, 0x0605, 0xF701, 0x1C12, 0xC2A3, 0x6A5F, 0xAEF9, 0x69D0,
    0x1791, 0x9958, 0x3A27, 0x27B9, 0xD938, 0xEB13, 0x2BB3, 0x2233, 0xD2BB, 0xA970,
    0x0789, 0x33A7, 0x2DB6, 0x3C22, 0x1592, 0xC920, 0x8749, 0xAAFF, 0x5078, 0xA57A,
    0x038F, 0x59F8, 0x0980, 0x1A17, 0x65DA, 0xD731, 0x84C6, 0xD0B8, 0x82C3, 0x29B0,
    0x5A77, 0x1E11, 0x7BCB, 0xA8FC, 0x6DD6, 0x2C3A]

/-- `Mk16`. -/
def mk16 (hi lo : UInt8) : UInt16 := lo.toUInt16 ^^^ hi.toUInt16 <<< 8

/-- `Hi8`. -/
def hi8 (v : UInt16) : UInt8 := (v >>> 8).toUInt8

/-- `Sbox1[1]`, the byte-reversed version of `Sbox1[0]`. -/
def sbox1Reversed (i : UInt8) : UInt16 :=
  let v := sbox1.getD i.toNat 0
  mk16 v.toUInt8 (hi8 v)

/-- `_S_`. -/
def sboxWord (v : UInt16) : UInt16 := sbox1.getD v.toUInt8.toNat 0 ^^^ sbox1Reversed (hi8 v)

/-- `RotR1`. -/
def rotR1 (v : UInt16) : UInt16 :=
  ((v >>> (1 : UInt16)) &&& 0x7FFF) ^^^ ((v &&& 1) <<< (15 : UInt16))

/-- `TK16`. -/
def tk16 (tk : List UInt8) (n : ℕ) : UInt16 := mk16 (tk.getD (2 * n + 1) 0) (tk.getD (2 * n) 0)

/-- The Phase 1 key, `p1k`. -/
structure P1k where
  p0 : UInt16
  p1 : UInt16
  p2 : UInt16
  p3 : UInt16
  p4 : UInt16

/-- A turn of the loop of `phase1`. -/
def phase1Turn (tk : List UInt8) (p : P1k) (i : ℕ) : P1k :=
  let p0 := p.p0 + sboxWord (p.p4 ^^^ tk16 tk (i % 2))
  let p1 := p.p1 + sboxWord (p0 ^^^ tk16 tk (i % 2 + 2))
  let p2 := p.p2 + sboxWord (p1 ^^^ tk16 tk (i % 2 + 4))
  let p3 := p.p3 + sboxWord (p2 ^^^ tk16 tk (i % 2 + 6))
  let p4 := p.p4 + sboxWord (p3 ^^^ tk16 tk (i % 2)) + UInt16.ofNat i
  ⟨p0, p1, p2, p3, p4⟩

/-- `phase1`. -/
def phase1 (tk : List UInt8) (ta : MacAddr) (iv32 : UInt32) : P1k :=
  (List.range 8).foldl (phase1Turn tk)
    ⟨iv32.toUInt16, (iv32 >>> 16).toUInt16, mk16 (ta.get 1) (ta.get 0),
      mk16 (ta.get 3) (ta.get 2), mk16 (ta.get 5) (ta.get 4)⟩

/-- `phase2`: the RC4 key, of 16 bytes. -/
def phase2 (tk : List UInt8) (p : P1k) (iv16 : UInt16) : List UInt8 :=
  let k5 := p.p4 + iv16
  let k0 := p.p0 + sboxWord (k5 ^^^ tk16 tk 0)
  let k1 := p.p1 + sboxWord (k0 ^^^ tk16 tk 1)
  let k2 := p.p2 + sboxWord (k1 ^^^ tk16 tk 2)
  let k3 := p.p3 + sboxWord (k2 ^^^ tk16 tk 3)
  let k4 := p.p4 + sboxWord (k3 ^^^ tk16 tk 4)
  let k5 := k5 + sboxWord (k4 ^^^ tk16 tk 5)
  -- the final sweep
  let k0 := k0 + rotR1 (k5 ^^^ tk16 tk 6)
  let k1 := k1 + rotR1 (k0 ^^^ tk16 tk 7)
  let k2 := k2 + rotR1 k1
  let k3 := k3 + rotR1 k2
  let k4 := k4 + rotR1 k3
  let k5 := k5 + rotR1 k4
  [hi8 iv16, (hi8 iv16 ||| 0x20) &&& 0x7F, iv16.toUInt8, ((k5 ^^^ tk16 tk 0) >>> 1).toUInt8,
    k0.toUInt8, hi8 k0, k1.toUInt8, hi8 k1, k2.toUInt8, hi8 k2, k3.toUInt8, hi8 k3,
    k4.toUInt8, hi8 k4, k5.toUInt8, hi8 k5]

/-- The RC4 key of a frame by the eight bytes of its IV, which `GET_TKIP_PN` reads. -/
def tkipRc4Key (tk : List UInt8) (ta : MacAddr) (iv : List UInt8) : List UInt8 :=
  let pnl := mk16 (iv.getD 0 0) (iv.getD 2 0)
  let pnh := (mk16 (iv.getD 5 0) (iv.getD 4 0)).toUInt32 |||
    (mk16 (iv.getD 7 0) (iv.getD 6 0)).toUInt32 <<< 16
  phase2 tk (phase1 tk ta pnh) pnl

end Rtl8723du.Crypto
