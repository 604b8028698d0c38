import Rtl8723du.Efuse.Read

/-!
# Writing the WiFi bank of the efuse

`rtw_efuse_map_write` compares the new bytes with the logical map and appends, for each
section with a difference, one packet to the log.  Every byte that is written is read back.

What the hardware makes of a write is not known: `burn k old new` is what the byte `old`
becomes when `new` is written, in the `k`-th write.  A write changes no other byte.
-/

namespace Rtl8723du

/-- What the hardware makes of the writes. -/
abbrev Burn := ℕ → BitVec 8 → BitVec 8 → BitVec 8

/-- The efuse, and what the driver knows of it. -/
structure Efuse where
  content : EfuseContent
  /-- `HW_VAR_EFUSE_BYTES`, the length of the log as it was noted last. -/
  efuseBytes : ℕ
  /-- How many bytes have been written. -/
  burns : ℕ := 0

/-- `EFUSE_MAX_SECTION_BASE`: sections from here on need a header of two bytes. -/
abbrev efuseMaxSectionBase : BitVec 8 := 16#8

/-- `EFUSE_REPEAT_THRESHOLD_`. -/
abbrev efuseRepeatThreshold : ℕ := 3

variable (burn : Burn)

/-- `efuse_OneByteWrite`. -/
def efuseOneByteWrite (s : Efuse) (addr : ℕ) (data : BitVec 8) : Efuse :=
  { s with
    content := Function.update s.content addr (burn s.burns (s.content addr) data)
    burns := s.burns + 1 }

/-- The loop that writes a byte of a header, for at most `tries` times: it is repeated as long
as the byte reads as `0xFF`. -/
def writeHeaderByte (addr : ℕ) (pgHeader : BitVec 8) : ℕ → Efuse → Bool × Efuse
  | 0, s => (false, s)
  | tries + 1, s =>
      let s := efuseOneByteWrite burn s addr pgHeader
      if s.content addr ≠ 0xFF#8 then (s.content addr == pgHeader, s)
      else writeHeaderByte addr pgHeader tries s

/-- How often a header byte is tried. -/
abbrev headerTries : ℕ := efuseRepeatThreshold + 2

/-- `hal_EfusePgPacketWriteHeader`, with `hal_EfusePgPacketWrite1ByteHeader` and
`hal_EfusePgPacketWrite2ByteHeader`: whether it succeeds, and the address of the last byte of
the header. -/
def halEfusePgPacketWriteHeader (s : Efuse) (addr : ℕ) (offset wordEn : BitVec 8) :
    Option ℕ × Efuse :=
  if efuseMaxSectionBase ≤ offset then
    if availableEfuseBytes ≤ addr then (none, s)
    else
      let r := writeHeaderByte burn addr (((offset &&& 0x07#8) <<< 5) ||| 0x0F#8) headerTries s
      if r.1 then
        let r' := writeHeaderByte burn (addr + 1) (((offset &&& 0x78#8) <<< 1) ||| wordEn)
          headerTries r.2
        (if r'.1 then some (addr + 1) else none, r'.2)
      else (none, r.2)
  else
    let r := writeHeaderByte burn addr (((offset <<< 4) &&& 0xf0#8) ||| wordEn) headerTries s
    (if r.1 then some addr else none, r.2)

/-- The state of `Hal_EfuseWordEnableDataWrite`: the efuse, the next address, and whether
`badworden` is still `0x0F`. -/
structure WordWrite where
  efuse : Efuse
  startAddr : ℕ
  good : Bool

/-- A word is written and read back. -/
def writeWord (data : ℕ → BitVec 8) (r : WordWrite) (i : ℕ) : WordWrite :=
  let s := efuseOneByteWrite burn (efuseOneByteWrite burn r.efuse r.startAddr (data (2 * i)))
    (r.startAddr + 1) (data (2 * i + 1))
  { efuse := s
    startAddr := r.startAddr + 2
    good := r.good && s.content r.startAddr == data (2 * i) &&
      s.content (r.startAddr + 1) == data (2 * i + 1) }

/-- `Hal_EfuseWordEnableDataWrite`; it is right when `badworden` is `0x0F`. -/
def halEfuseWordEnableDataWrite (s : Efuse) (efuseAddr : ℕ) (wordEn : BitVec 8)
    (data : ℕ → BitVec 8) : Bool × Efuse :=
  let r := (enabledWords wordEn).foldl (writeWord burn data) ⟨s, efuseAddr, true⟩
  (r.good, r.efuse)

/-- The data of `hal_EfuseConstructPGPkt`: `efuse_WordEnableDataRead` copies the enabled words
over `0xFF`. -/
def halEfuseConstructPGPkt (wordEn : BitVec 8) (pData : ℕ → BitVec 8) : ℕ → BitVec 8 :=
  fun i => if wordEn.getLsbD (i / 2) then 0xFF#8 else pData i

/-- `hal_EfusePartialWriteCheck`: the address to write at. -/
def halEfusePartialWriteCheck (s : Efuse) : Option ℕ :=
  let startAddr := s.efuseBytes % efuseRealContentLen
  if availableEfuseBytes ≤ startAddr then none
  else if s.content startAddr ≠ 0xFF#8 then none
  else some startAddr

/-- `Hal_EfusePgPacketWrite`. -/
def halEfusePgPacketWrite (s : Efuse) (offset wordEn : BitVec 8) (pData : ℕ → BitVec 8) :
    Bool × Efuse :=
  let size := halEfuseGetCurrentSizeWiFi s.content s.efuseBytes
  let s := { s with efuseBytes := size.2 }
  if availableEfuseBytes ≤ size.1 then (false, s)
  else
    match halEfusePartialWriteCheck s with
    | none => (false, s)
    | some startAddr =>
        match halEfusePgPacketWriteHeader burn s startAddr offset wordEn with
        | (none, s) => (false, s)
        | (some addr, s) =>
            halEfuseWordEnableDataWrite burn s (addr + 1) wordEn
              (halEfuseConstructPGPkt wordEn pData)

/-- `rtw_efuse_map_read`; `none` for `_FAIL`. -/
def rtwEfuseMapRead (s : Efuse) (addr cnts : ℕ) : Option (List (BitVec 8)) × Efuse :=
  if efuseMapLen < addr + cnts then (none, s)
  else
    match halReadEFuseWiFi s.content addr cnts with
    | none => (none, s)
    | some (bytes, used) => (some bytes, { s with efuseBytes := used })

/-- A byte of the inner loops of `rtw_efuse_map_write`: the byte `i` of a section, at
`addr + idx` of the map. -/
def sectionByte (efuse map : EfuseMap) (addr cnts : ℕ) (r : ℕ × BitVec 8 × (ℕ → BitVec 8))
    (i : ℕ) : ℕ × BitVec 8 × (ℕ → BitVec 8) :=
  if r.1 < cnts then
    if efuse (addr + r.1) ≠ map (addr + r.1) then
      (r.1 + 1, r.2.1 &&& ~~~(BitVec.twoPow 8 (i / 2)),
        Function.update r.2.2 i (efuse (addr + r.1)))
    else (r.1 + 1, r.2.1, r.2.2)
  else r

/-- An inner loop of `rtw_efuse_map_write`: the next `idx`, the words of the section that
differ, and the section with the new bytes. -/
def sectionLoop (efuse map : EfuseMap) (addr cnts idx offset : ℕ) :
    ℕ × BitVec 8 × (ℕ → BitVec 8) :=
  let j := (addr + idx) % pgpktDataSize
  (List.range' j (pgpktDataSize - j)).foldl (sectionByte efuse map addr cnts)
    (idx, 0x0F#8, fun i => map (offset * pgpktDataSize + i))

/-- The loop of `rtw_efuse_map_write` that computes `chk_total_byte`, over at most `fuel`
sections. -/
def chkTotalByte (efuse map : EfuseMap) (addr cnts : ℕ) : ℕ → ℕ → ℕ → ℕ
  | 0, _, _ => 0
  | fuel + 1, idx, offset =>
      if idx < cnts then
        let r := sectionLoop efuse map addr cnts idx offset
        (if r.2.1 ≠ 0x0F#8 then
          efuseCalculateWordCnts r.2.1 * 2 +
            if efuseMaxSectionBase ≤ BitVec.ofNat 8 offset then 2 else 1
        else 0) + chkTotalByte efuse map addr cnts fuel r.1 (offset + 1)
      else 0

/-- The loop of `rtw_efuse_map_write` that writes the packets, over at most `fuel` sections. -/
def writeLoop (efuse map : EfuseMap) (addr cnts : ℕ) : ℕ → ℕ → ℕ → Efuse → Bool × Efuse
  | 0, _, _, s => (true, s)
  | fuel + 1, idx, offset, s =>
      if idx < cnts then
        let r := sectionLoop efuse map addr cnts idx offset
        if r.2.1 ≠ 0x0F#8 then
          let w := halEfusePgPacketWrite burn s (BitVec.ofNat 8 offset) r.2.1 r.2.2
          if w.1 then writeLoop efuse map addr cnts fuel r.1 (offset + 1) w.2 else w
        else writeLoop efuse map addr cnts fuel r.1 (offset + 1) s
      else (true, s)

/-- The map as `rtw_efuse_map_write` wants it: the new bytes, but for those that are masked. -/
def wantedMap (masked : ℕ → Bool) (map : EfuseMap) (addr cnts : ℕ) (data : ℕ → BitVec 8) :
    EfuseMap :=
  fun p => if addr ≤ p ∧ p < addr + cnts ∧ ¬ masked p then data (p - addr) else map p

/-- `rtw_efuse_map_write`.  `masked` is what `efuse_IsMasked` or `rtw_file_efuse_IsMasked` says,
and nowhere true when `boffefusemask` is set.  Each turn of the loops goes on by a byte at
least, so there are at most `cnts` turns. -/
def rtwEfuseMapWrite (masked : ℕ → Bool) (s : Efuse) (addr cnts : ℕ) (data : ℕ → BitVec 8) :
    Bool × Efuse :=
  if efuseMapLen < addr + cnts then (false, s)
  else
    match rtwEfuseMapRead s 0 efuseMapLen with
    | (none, s) => (false, s)
    | (some bytes, s) =>
        let map : EfuseMap := fun p => bytes.getD p 0xFF#8
        let efuse := wantedMap masked map addr cnts data
        let total := chkTotalByte efuse map addr cnts cnts 0 (addr / pgpktDataSize)
        let size := if s.efuseBytes = 0 then halEfuseGetCurrentSizeWiFi s.content s.efuseBytes
          else (s.efuseBytes, s.efuseBytes)
        let s := { s with efuseBytes := size.2 }
        if availableEfuseBytes ≤ size.1 + total then (false, s)
        else writeLoop burn efuse map addr cnts cnts 0 (addr / pgpktDataSize) s

end Rtl8723du
