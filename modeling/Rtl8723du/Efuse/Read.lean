import Mathlib.Data.BitVec
import Mathlib.Logic.Function.Basic

/-!
# Reading the WiFi bank of the efuse

The efuse holds a log of packets.  A packet has a header of one or two bytes, with the
section of the logical map it is for and the words of the section it holds (`word_en`, a
clear bit for each), and these words.  The log ends at the first header `0xFF`.  Later
packets replace the words of earlier ones.

`halReadEFuseWiFi` reads the log into the logical map, `halEfuseGetCurrentSizeWiFi` goes
over it to find its end.
-/

namespace Rtl8723du

/-- What `efuse_OneByteRead` reads at each address. -/
abbrev EfuseContent := ℕ → BitVec 8

/-- The logical map, `efuseTbl`. -/
abbrev EfuseMap := ℕ → BitVec 8

/-- `EFUSE_REAL_CONTENT_LEN_8723D`. -/
abbrev efuseRealContentLen : ℕ := 512

/-- `EFUSE_MAP_LEN_8723D`. -/
abbrev efuseMapLen : ℕ := 512

/-- `EFUSE_MAX_MAP_LEN`. -/
abbrev efuseMaxMapLen : ℕ := 1024

/-- `EFUSE_MAX_SECTION_8723D`. -/
abbrev efuseMaxSection : ℕ := 64

/-- `PGPKT_DATA_SIZE`, the bytes of a section. -/
abbrev pgpktDataSize : ℕ := 8

/-- `TYPE_AVAILABLE_EFUSE_BYTES_TOTAL` of the WiFi bank, also `_BANK`. -/
abbrev availableEfuseBytes : ℕ := efuseRealContentLen - (96 + 1)

/-- `AVAILABLE_EFUSE_ADDR`. -/
def availableEfuseAddr (addr : ℕ) : Bool := addr < efuseRealContentLen

/-- `EXT_HEADER`: the header goes on in the next byte. -/
def extHeader (header : BitVec 8) : Bool := header &&& 0x1F#8 == 0x0F#8

/-- `ALL_WORDS_DISABLED`. -/
def allWordsDisabled (wde : BitVec 8) : Bool := wde &&& 0x0F#8 == 0x0F#8

/-- `GET_HDR_OFFSET_2_0`. -/
def getHdrOffset20 (header : BitVec 8) : BitVec 8 := (header &&& 0xE0#8) >>> 5

/-- The section of an extended header. -/
def extHeaderOffset (header extHdr : BitVec 8) : BitVec 8 :=
  getHdrOffset20 header ||| ((extHdr &&& 0xF0#8) >>> 1)

/-- The section of a header of one byte. -/
def headerOffset (header : BitVec 8) : BitVec 8 := (header >>> 4) &&& 0x0f#8

/-- The words of a section whose bit of `word_en` is clear. -/
def enabledWords (wordEn : BitVec 8) : List ℕ := [0, 1, 2, 3].filter fun i => !wordEn.getLsbD i

/-- `Efuse_CalculateWordCnts`. -/
def efuseCalculateWordCnts (wordEn : BitVec 8) : ℕ := (enabledWords wordEn).length

/-- Read the word `i` of the section at `addr` of the map from the log. -/
def readWord (efuse : EfuseContent) (addr : ℕ) (r : ℕ × EfuseMap) (i : ℕ) : ℕ × EfuseMap :=
  (r.1 + 2, Function.update (Function.update r.2 (addr + 2 * i) (efuse r.1)) (addr + 2 * i + 1)
    (efuse (r.1 + 1)))

/-- The data of a packet, from `eFuse_Addr` on: it is skipped if the section is illegal. -/
def readData (efuse : EfuseContent) (offset : ℕ) (wden : BitVec 8) (eFuseAddr : ℕ)
    (efuseTbl : EfuseMap) : ℕ × EfuseMap :=
  if offset < efuseMaxSection then
    (enabledWords wden).foldl (readWord efuse (offset * pgpktDataSize)) (eFuseAddr, efuseTbl)
  else (eFuseAddr + efuseCalculateWordCnts wden * 2, efuseTbl)

/-- How the loop of `hal_ReadEFuse_WiFi` ends: the address it stops at, whether it found
`0xFF` there, and the map. -/
structure ReadEnd where
  addr : ℕ
  dataEnd : Bool
  efuseTbl : EfuseMap

/-- The loop of `hal_ReadEFuse_WiFi`. -/
def readLoop (efuse : EfuseContent) : ℕ → ℕ → EfuseMap → ReadEnd
  | 0, eFuseAddr, efuseTbl => ⟨eFuseAddr, false, efuseTbl⟩
  | fuel + 1, eFuseAddr, efuseTbl =>
      if ¬ availableEfuseAddr eFuseAddr then ⟨eFuseAddr, false, efuseTbl⟩
      else
        let efuseHeader := efuse eFuseAddr
        if efuseHeader = 0xFF#8 then ⟨eFuseAddr, true, efuseTbl⟩
        else if extHeader efuseHeader then
          let efuseExtHdr := efuse (eFuseAddr + 1)
          if allWordsDisabled efuseExtHdr then readLoop efuse fuel (eFuseAddr + 2) efuseTbl
          else
            let r := readData efuse (extHeaderOffset efuseHeader efuseExtHdr).toNat
              (efuseExtHdr &&& 0x0F#8) (eFuseAddr + 2) efuseTbl
            readLoop efuse fuel r.1 r.2
        else
          let r := readData efuse (headerOffset efuseHeader).toNat (efuseHeader &&& 0x0F#8)
            (eFuseAddr + 1) efuseTbl
          readLoop efuse fuel r.1 r.2

/-- The loop from its start.  Each turn goes forward, so there are at most as many turns
as addresses. -/
def readEnd (efuse : EfuseContent) : ReadEnd :=
  readLoop efuse efuseRealContentLen 0 fun _ => 0xFF#8

/-- `hal_ReadEFuse_WiFi`: the bytes of the map from `offset` on, and the length of the log
that it notes in `HW_VAR_EFUSE_BYTES`, `eFuse_Addr - 1`; `none` when the range is wrong. -/
def halReadEFuseWiFi (efuse : EfuseContent) (offset sizeByte : ℕ) :
    Option (List (BitVec 8) × ℕ) :=
  if efuseMaxMapLen < offset + sizeByte then none
  else
    let r := readEnd efuse
    some ((List.range sizeByte).map fun i => r.efuseTbl (offset + i),
      if r.dataEnd then r.addr else r.addr - 1)

/-- The variables of the loop of `hal_EfuseGetCurrentSize_WiFi`. -/
structure SizeState where
  efuseAddr : ℕ
  startAddr : ℕ
  count : ℕ := 0

/-- The part of a turn that goes over a packet. -/
def sizeNext (efuse : EfuseContent) (efuseAddr : ℕ) : ℕ :=
  if extHeader (efuse efuseAddr) then
    -- the second byte of the header is left for the next turn
    if allWordsDisabled (efuse (efuseAddr + 1)) then efuseAddr + 1
    else
      efuseAddr + 1 + (efuseCalculateWordCnts (efuse (efuseAddr + 1) &&& 0x0F#8) * 2 + 1)
  else efuseAddr + (efuseCalculateWordCnts (efuse efuseAddr &&& 0x0F#8) * 2 + 1)

/-- The loop of `hal_EfuseGetCurrentSize_WiFi`; `none` when it goes to `error`. -/
def sizeLoop (efuse : EfuseContent) : ℕ → SizeState → Option ℕ
  | 0, s => some s.efuseAddr
  | fuel + 1, s =>
      if ¬ availableEfuseAddr s.efuseAddr then some s.efuseAddr
      else if efuse s.efuseAddr = 0xFF#8 then some s.efuseAddr
      else if s.startAddr ≠ 0 ∧ s.efuseAddr = s.startAddr then
        let count := s.count + 1
        if count < 4 then
          if 2 < count then sizeLoop efuse fuel { efuseAddr := 0, startAddr := 0, count }
          else sizeLoop efuse fuel { s with count }
        else none
      else sizeLoop efuse fuel { s with efuseAddr := sizeNext efuse s.efuseAddr }

/-- `hal_EfuseGetCurrentSize_WiFi`, from the length that is noted in `HW_VAR_EFUSE_BYTES`:
what it returns, and the length that is noted then.  Two turns may repeat the first address
and one go back to 0. -/
def halEfuseGetCurrentSizeWiFi (efuse : EfuseContent) (efuseBytes : ℕ) : ℕ × ℕ :=
  match sizeLoop efuse (efuseRealContentLen + 4)
      { efuseAddr := efuseBytes, startAddr := efuseBytes } with
  | some addr => (addr, addr)
  | none => (availableEfuseBytes, efuseBytes)

end Rtl8723du
