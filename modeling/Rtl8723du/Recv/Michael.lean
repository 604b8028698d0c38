import Rtl8723du.Lib.Bytes

/-!
# The Michael message integrity code

The MIC that TKIP computes over a whole MSDU, `rtw_seccalctkipmic`.  The message
is absorbed byte by byte into words of four bytes, and a block function runs on
every full word.
-/

namespace Rtl8723du

open Lib.Bytes

/-- `struct mic_data`. -/
structure MicData where
  k0 : UInt32
  k1 : UInt32
  l : UInt32
  r : UInt32
  /-- The bytes of the word that is not full yet. -/
  m : UInt32
  nBytesInM : ℕ
deriving DecidableEq, Repr

/-- `ROL32`. -/
def rol32 (a n : UInt32) : UInt32 := (a <<< n) ||| ((a >>> (32 - n)) &&& ((1 <<< n) - 1))

/-- `secmicclear`. -/
def secmicclear (d : MicData) : MicData :=
  { d with l := d.k0, r := d.k1, nBytesInM := 0, m := 0 }

/-- `rtw_secmicsetkey`. -/
def rtwSecmicsetkey (key : List UInt8) : MicData :=
  secmicclear
    { k0 := UInt32.ofNat (leAt key 0 4), k1 := UInt32.ofNat (leAt key 4 4)
      l := 0, r := 0, m := 0, nBytesInM := 0 }

/-- The block function of `rtw_secmicappendbyte`, on a full word. -/
def secmicBlock (d : MicData) : MicData :=
  let l := d.l ^^^ d.m
  let r := d.r ^^^ rol32 l 17
  let l := l + r
  let r := r ^^^ (((l &&& 0xff00ff00) >>> 8) ||| ((l &&& 0x00ff00ff) <<< 8))
  let l := l + r
  let r := r ^^^ rol32 l 3
  let l := l + r
  let r := r ^^^ rol32 l (32 - 2)
  let l := l + r
  { d with l := l, r := r, m := 0, nBytesInM := 0 }

/-- `rtw_secmicappendbyte`. -/
def rtwSecmicappendbyte (d : MicData) (b : UInt8) : MicData :=
  let d := { d with
    m := d.m ||| (b.toUInt32 <<< UInt32.ofNat (8 * d.nBytesInM))
    nBytesInM := d.nBytesInM + 1 }
  if d.nBytesInM ≥ 4 then secmicBlock d else d

/-- `rtw_secmicappend`. -/
def rtwSecmicappend (d : MicData) (src : List UInt8) : MicData :=
  src.foldl rtwSecmicappendbyte d

/-- The loop of `rtw_secgetmic` that appends zeroes until the word is full, for at
most `fuel` bytes. -/
def secmicPad : ℕ → MicData → MicData
  | 0, d => d
  | fuel + 1, d =>
      if d.nBytesInM = 0 then d else secmicPad fuel (rtwSecmicappendbyte d 0)

/-- `rtw_secgetmic`; three zeroes always fill the last word
(`nBytesInM_secmicPad`). -/
def rtwSecgetmic (d : MicData) : List UInt8 :=
  let d := secmicPad 3 (rtwSecmicappend d [0x5a, 0, 0, 0, 0])
  leBytes 4 d.l.toNat ++ leBytes 4 d.r.toNat

/-- The two addresses of the pseudo header, by the To DS and From DS bits. -/
def michaelAddrs (header : List UInt8) : List UInt8 :=
  let fld (off : ℕ) := (header.drop off).take 6
  let frDs : Bool := header.getD 1 0 &&& 2 != 0
  if header.getD 1 0 &&& 1 != 0 then fld 16 ++ (if frDs then fld 24 else fld 10)
  else fld 4 ++ (if frDs then fld 16 else fld 10)

/-- `rtw_seccalctkipmic`. -/
def rtwSeccalctkipmic (key header data : List UInt8) (pri : UInt8) : List UInt8 :=
  let d := rtwSecmicappend (rtwSecmicsetkey key) (michaelAddrs header)
  let d := rtwSecmicappend d [pri, 0, 0, 0]
  rtwSecgetmic (rtwSecmicappend d data)

example : rtwSecgetmic (rtwSecmicsetkey (List.replicate 8 0)) =
    [0x82, 0x92, 0x5c, 0x1c, 0xa1, 0xd1, 0x30, 0xb8] := by decide

end Rtl8723du
