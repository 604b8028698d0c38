import Rtl8723du.Efuse.MapWrite

/-!
# The protected bytes at the end of the bank

The last bytes of the WiFi bank are not for packets.  `rtw_efuse_map_write` compares the length of
all packets with the room behind the log that was read, `Hal_EfusePgPacketWrite` asks only whether
the address it writes at is below the protected bytes, not whether the packet ends below them.  The
scan from which that address comes may end elsewhere than the reader did, and then the packet goes
into the protected bytes (`efuse_protected_iff`).  With a well-formed log this cannot happen
(`Writes.fit`).
-/

namespace Rtl8723du

open Lib

/-! ### The bytes that are programmed -/

/-- A byte that is programmed: its address and the value. -/
abbrev Programming := ℕ × BitVec 8

variable (burn : Burn)

/-- The bytes that `writeHeaderByte` programs. -/
def headerByteProgrammings (addr : ℕ) (pgHeader : BitVec 8) : ℕ → Efuse → List Programming
  | 0, _ => []
  | tries + 1, s =>
      let s := efuseOneByteWrite burn s addr pgHeader
      (addr, pgHeader) :: if s.content addr ≠ 0xFF#8 then []
        else headerByteProgrammings addr pgHeader tries s

/-- Those of `hal_EfusePgPacketWriteHeader`. -/
def headerProgrammings (s : Efuse) (addr : ℕ) (offset wordEn : BitVec 8) : List Programming :=
  if efuseMaxSectionBase ≤ offset then
    if availableEfuseBytes ≤ addr then []
    else
      let pgHeader := ((offset &&& 0x07#8) <<< 5) ||| 0x0F#8
      let r := writeHeaderByte burn addr pgHeader headerTries s
      headerByteProgrammings burn addr pgHeader headerTries s ++
        if r.1 then headerByteProgrammings burn (addr + 1)
          (((offset &&& 0x78#8) <<< 1) ||| wordEn) headerTries r.2
        else []
  else headerByteProgrammings burn addr (((offset <<< 4) &&& 0xf0#8) ||| wordEn) headerTries s

/-- Those of `Hal_EfuseWordEnableDataWrite`. -/
def wordProgrammings (data : ℕ → BitVec 8) : ℕ → List ℕ → List Programming
  | _, [] => []
  | startAddr, i :: words =>
      (startAddr, data (2 * i)) :: (startAddr + 1, data (2 * i + 1)) ::
        wordProgrammings data (startAddr + 2) words

/-- A call of `Hal_EfusePgPacketWrite`. -/
structure PacketWrite where
  efuse : Efuse
  offset : BitVec 8
  wordEn : BitVec 8
  pData : ℕ → BitVec 8

/-- The bytes that `Hal_EfusePgPacketWrite` programs. -/
def packetProgrammings (w : PacketWrite) : List Programming :=
  let size := halEfuseGetCurrentSizeWiFi w.efuse.content w.efuse.efuseBytes
  let s := { w.efuse with efuseBytes := size.2 }
  if availableEfuseBytes ≤ size.1 then []
  else
    match halEfusePartialWriteCheck s with
    | none => []
    | some startAddr =>
        headerProgrammings burn s startAddr w.offset w.wordEn ++
          match (halEfusePgPacketWriteHeader burn s startAddr w.offset w.wordEn).1 with
          | none => []
          | some addr => wordProgrammings (halEfuseConstructPGPkt w.wordEn w.pData) (addr + 1)
              (enabledWords w.wordEn)

/-- The calls of `Hal_EfusePgPacketWrite` that `writeLoop` makes. -/
def packetWrites (efuse map : EfuseMap) (addr cnts : ℕ) : ℕ → ℕ → ℕ → Efuse → List PacketWrite
  | 0, _, _, _ => []
  | fuel + 1, idx, offset, s =>
      if idx < cnts then
        let r := sectionLoop efuse map addr cnts idx offset
        if r.2.1 ≠ 0x0F#8 then
          let w := halEfusePgPacketWrite burn s (BitVec.ofNat 8 offset) r.2.1 r.2.2
          ⟨s, BitVec.ofNat 8 offset, r.2.1, r.2.2⟩ ::
            if w.1 then packetWrites efuse map addr cnts fuel r.1 (offset + 1) w.2 else []
        else packetWrites efuse map addr cnts fuel r.1 (offset + 1) s
      else []

/-- The bytes that the packets of `rtw_efuse_map_write` take, `chk_total_byte`. -/
def mapWriteTotal (masked : ℕ → Bool) (map : EfuseMap) (addr cnts : ℕ) (data : ℕ → BitVec 8) : ℕ :=
  chkTotalByte (wantedMap masked map addr cnts data) map addr cnts cnts 0 (addr / pgpktDataSize)

/-- The map that `rtw_efuse_map_write` reads before it writes. -/
def readMap (efuse : EfuseContent) : EfuseMap :=
  fun p => ((List.range efuseMapLen).map fun i => (readEnd efuse).efuseTbl (0 + i)).getD p 0xFF#8

/-- The calls of `Hal_EfusePgPacketWrite` that `rtw_efuse_map_write` makes. -/
def mapPacketWrites (masked : ℕ → Bool) (s : Efuse) (addr cnts : ℕ) (data : ℕ → BitVec 8) :
    List PacketWrite :=
  if efuseMapLen < addr + cnts then []
  else
    match rtwEfuseMapRead s 0 efuseMapLen with
    | (none, _) => []
    | (some bytes, s) =>
        let map : EfuseMap := fun p => bytes.getD p 0xFF#8
        let size := if s.efuseBytes = 0 then halEfuseGetCurrentSizeWiFi s.content s.efuseBytes
          else (s.efuseBytes, s.efuseBytes)
        if availableEfuseBytes ≤ size.1 + mapWriteTotal masked map addr cnts data then []
        else packetWrites burn (wantedMap masked map addr cnts data) map addr cnts cnts 0
          (addr / pgpktDataSize) { s with efuseBytes := size.2 }

/-- The bytes that `rtw_efuse_map_write` programs. -/
def mapProgrammings (masked : ℕ → Bool) (s : Efuse) (addr cnts : ℕ) (data : ℕ → BitVec 8) :
    List Programming :=
  (mapPacketWrites burn masked s addr cnts data).flatMap (packetProgrammings burn)

/-- The efuse after bytes were programmed. -/
def program (l : List Programming) (s : Efuse) : Efuse :=
  l.foldl (fun s x => efuseOneByteWrite burn s x.1 x.2) s

/-! ### The programmings make the efuse what it is -/

variable {burn} {s : Efuse}

lemma program_append (l l' : List Programming) (s : Efuse) :
    program burn (l ++ l') s = program burn l' (program burn l s) := List.foldl_append

/-- What the driver has noted plays no part. -/
lemma program_efuseBytes (l : List Programming) (n : ℕ) : ∀ s : Efuse,
    program burn l { s with efuseBytes := n } = { program burn l s with efuseBytes := n } := by
  induction l with
  | nil => exact fun _ => rfl
  | cons x l ih => exact fun s => ih (efuseOneByteWrite burn s x.1 x.2)

lemma writeHeaderByte_program (addr : ℕ) (pgHeader : BitVec 8) (tries : ℕ) : ∀ s : Efuse,
    (writeHeaderByte burn addr pgHeader tries s).2 =
      program burn (headerByteProgrammings burn addr pgHeader tries s) s := by
  induction tries with
  | zero => exact fun _ => rfl
  | succ tries ih =>
      intro s
      rw [writeHeaderByte, headerByteProgrammings]
      split
      · rfl
      · exact ih _

lemma halEfusePgPacketWriteHeader_program (burn : Burn) (s : Efuse) (addr : ℕ)
    (offset wordEn : BitVec 8) :
    (halEfusePgPacketWriteHeader burn s addr offset wordEn).2 =
      program burn (headerProgrammings burn s addr offset wordEn) s := by
  rw [halEfusePgPacketWriteHeader, headerProgrammings]
  dsimp only
  split
  · split
    · rfl
    · rw [program_append, ← writeHeaderByte_program]
      split
      · exact writeHeaderByte_program _ _ _ _
      · rfl
  · exact writeHeaderByte_program _ _ _ _

lemma foldl_writeWord_program (data : ℕ → BitVec 8) (words : List ℕ) : ∀ r : WordWrite,
    (words.foldl (writeWord burn data) r).efuse =
      program burn (wordProgrammings data r.startAddr words) r.efuse := by
  induction words with
  | nil => exact fun _ => rfl
  | cons i words ih => exact fun r => ih (writeWord burn data r i)

lemma halEfusePgPacketWrite_program (burn : Burn) (w : PacketWrite) :
    (halEfusePgPacketWrite burn w.efuse w.offset w.wordEn w.pData).2 =
      { program burn (packetProgrammings burn w) w.efuse with
        efuseBytes := (halEfuseGetCurrentSizeWiFi w.efuse.content w.efuse.efuseBytes).2 } := by
  rw [← program_efuseBytes, halEfusePgPacketWrite, packetProgrammings]
  generalize halEfuseGetCurrentSizeWiFi w.efuse.content w.efuse.efuseBytes = size
  dsimp only
  by_cases hroom : availableEfuseBytes ≤ size.1
  · rw [if_pos hroom, if_pos hroom]
    rfl
  rw [if_neg hroom, if_neg hroom]
  rcases hcheck : halEfusePartialWriteCheck { w.efuse with efuseBytes := size.2 } with _ | a
  · rfl
  dsimp only
  have hheader := halEfusePgPacketWriteHeader_program burn { w.efuse with efuseBytes := size.2 } a
    w.offset w.wordEn
  rcases hwrite : halEfusePgPacketWriteHeader burn { w.efuse with efuseBytes := size.2 } a w.offset
    w.wordEn with ⟨_ | last, s⟩
  · rw [hwrite] at hheader
    rw [List.append_nil]
    exact hheader
  · rw [hwrite] at hheader
    rw [program_append, ← hheader]
    exact foldl_writeWord_program _ _ _

lemma writeLoop_program (burn : Burn) (efuse map : EfuseMap) (addr cnts fuel : ℕ) :
    ∀ (idx offset : ℕ) (s : Efuse), ∃ n, (writeLoop burn efuse map addr cnts fuel idx offset s).2 =
      { program burn ((packetWrites burn efuse map addr cnts fuel idx offset s).flatMap
          (packetProgrammings burn)) s with efuseBytes := n } := by
  induction fuel with
  | zero => exact fun _ _ s => ⟨s.efuseBytes, rfl⟩
  | succ fuel ih =>
      intro idx offset s
      rw [writeLoop, packetWrites]
      by_cases hlt : idx < cnts
      · rw [if_pos hlt, if_pos hlt]
        generalize sectionLoop efuse map addr cnts idx offset = r
        dsimp only
        by_cases hne : r.2.1 ≠ 0x0F#8
        · have hpacket := halEfusePgPacketWrite_program burn
            ⟨s, BitVec.ofNat 8 offset, r.2.1, r.2.2⟩
          dsimp only at hpacket
          rw [if_pos hne, if_pos hne, List.flatMap_cons, program_append]
          by_cases hok : (halEfusePgPacketWrite burn s (BitVec.ofNat 8 offset) r.2.1 r.2.2).1 = true
          · obtain ⟨n, hrest⟩ := ih r.1 (offset + 1)
              (halEfusePgPacketWrite burn s (BitVec.ofNat 8 offset) r.2.1 r.2.2).2
            rw [if_pos hok, if_pos hok]
            refine ⟨n, hrest.trans ?_⟩
            conv_lhs => rw [hpacket, program_efuseBytes]
            rw [hpacket]
          · rw [if_neg hok, if_neg hok]
            exact ⟨_, hpacket⟩
        · rw [if_neg hne, if_neg hne]
          exact ih _ _ _
      · rw [if_neg hlt, if_neg hlt]
        exact ⟨s.efuseBytes, rfl⟩

/-- What a read of the whole map finds and notes. -/
lemma rtwEfuseMapRead_all (s : Efuse) : ∃ bytes used,
    rtwEfuseMapRead s 0 efuseMapLen = (some bytes, { s with efuseBytes := used }) ∧
      (fun p => bytes.getD p 0xFF#8) = readMap s.content ∧
      used = if (readEnd s.content).dataEnd then (readEnd s.content).addr
        else (readEnd s.content).addr - 1 := by
  refine ⟨_, _, ?_, rfl, rfl⟩
  rw [rtwEfuseMapRead, if_neg (by decide), halReadEFuseWiFi, if_neg (by decide)]

/-- The bytes that `rtw_efuse_map_write` programs make the efuse what it leaves. -/
theorem rtwEfuseMapWrite_program (burn : Burn) (masked : ℕ → Bool) (s : Efuse) (addr cnts : ℕ)
    (data : ℕ → BitVec 8) : ∃ n, (rtwEfuseMapWrite burn masked s addr cnts data).2 =
      { program burn (mapProgrammings burn masked s addr cnts data) s with efuseBytes := n } := by
  rw [rtwEfuseMapWrite, mapProgrammings, mapPacketWrites]
  by_cases hrange : efuseMapLen < addr + cnts
  · rw [if_pos hrange, if_pos hrange]
    exact ⟨s.efuseBytes, rfl⟩
  obtain ⟨bytes, used, hread, hmap, -⟩ := rtwEfuseMapRead_all s
  rw [if_neg hrange, if_neg hrange, hread]
  simp only [mapWriteTotal, hmap]
  generalize (if used = 0 then halEfuseGetCurrentSizeWiFi s.content used else (used, used)) = size
  generalize readMap s.content = map
  by_cases hroom : availableEfuseBytes ≤ size.1 +
      chkTotalByte (wantedMap masked map addr cnts data) map addr cnts cnts 0 (addr / pgpktDataSize)
  · rw [if_pos hroom, if_pos hroom]
    exact ⟨size.2, rfl⟩
  · obtain ⟨n, hloop⟩ := writeLoop_program burn (wantedMap masked map addr cnts data) map addr
      cnts cnts 0 (addr / pgpktDataSize) { s with efuseBytes := size.2 }
    rw [program_efuseBytes] at hloop
    rw [if_neg hroom, if_neg hroom]
    exact ⟨n, hloop⟩

/-! ### Where a packet is written -/

/-- The scan ends where there is no header. -/
lemma currentSize_spec (efuse : EfuseContent) (n : ℕ) :
    ∃ a, halEfuseGetCurrentSizeWiFi efuse n = (a, a) ∧ ¬ HeaderAt efuse a := by
  have hstop : ¬ HeaderAt efuse (Walk.stop (scanNext efuse) efuseRealContentLen 0) := by
    intro h
    have hnone := (scanNext_forward efuse).next_stop 0
    rw [scanNext_of_headerAt h] at hnone
    cases hnone
  by_cases hzero : n = 0
  · subst hzero
    exact ⟨_, by rw [halEfuseGetCurrentSizeWiFi, sizeLoop_eq 0 0 (by omega)], hstop⟩
  by_cases hheader : HeaderAt efuse n
  · exact ⟨_, by rw [halEfuseGetCurrentSizeWiFi, sizeLoop_of_headerAt hzero hheader], hstop⟩
  · refine ⟨n, ?_, hheader⟩
    rw [halEfuseGetCurrentSizeWiFi]
    by_cases hlimit : n < efuseRealContentLen
    · have havail : availableEfuseAddr n = true := by simpa [availableEfuseAddr] using hlimit
      have hff : efuse n = 0xFF#8 := by
        by_contra hne
        exact hheader ⟨hlimit, hne⟩
      simp [sizeLoop, havail, hff]
    · have havail : availableEfuseAddr n = false := by simpa [availableEfuseAddr] using hlimit
      simp [sizeLoop, havail]

/-- The address at which a packet is written, where the scan ends. -/
def PacketWrite.addr (w : PacketWrite) : ℕ :=
  (halEfuseGetCurrentSizeWiFi w.efuse.content w.efuse.efuseBytes).1

/-- The packet ends before the protected bytes. -/
def PacketWrite.Fits (w : PacketWrite) : Prop :=
  w.addr + packetSize w.offset w.wordEn ≤ availableEfuseBytes

instance (w : PacketWrite) : Decidable w.Fits := by
  unfold PacketWrite.Fits
  infer_instance

/-- Behind the address there is no room at all, or enough. -/
def PacketWrite.Safe (w : PacketWrite) : Prop := availableEfuseBytes ≤ w.addr ∨ w.Fits

lemma mem_headerByteProgrammings {addr : ℕ} {pgHeader : BitVec 8} {x : Programming} (tries : ℕ) :
    ∀ {s : Efuse}, x ∈ headerByteProgrammings burn addr pgHeader tries s → x.1 = addr := by
  induction tries with
  | zero => exact fun h => absurd h List.not_mem_nil
  | succ tries ih =>
      intro s h
      rw [headerByteProgrammings] at h
      rcases List.mem_cons.1 h with rfl | h
      · rfl
      · split at h
        · cases h
        · exact ih h

lemma mem_wordProgrammings {data : ℕ → BitVec 8} {x : Programming} {words : List ℕ} :
    ∀ {a : ℕ}, x ∈ wordProgrammings data a words → x.1 < a + words.length * 2 := by
  induction words with
  | nil => exact fun h => absurd h List.not_mem_nil
  | cons i words ih =>
      intro a h
      rw [List.length_cons]
      rcases List.mem_cons.1 h with rfl | h
      · show a < _
        omega
      · rcases List.mem_cons.1 h with rfl | h
        · show a + 1 < _
          omega
        · have hlt := ih h
          omega

/-- The bytes of a packet are where it is written. -/
lemma packetProgrammings_lt {w : PacketWrite} {x : Programming}
    (hx : x ∈ packetProgrammings burn w) : x.1 < w.addr + packetSize w.offset w.wordEn := by
  obtain ⟨a, hsize, -⟩ := currentSize_spec w.efuse.content w.efuse.efuseBytes
  rw [packetProgrammings, hsize] at hx
  rw [PacketWrite.addr, hsize]
  dsimp only at hx ⊢
  by_cases hroom : availableEfuseBytes ≤ a
  · rw [if_pos hroom] at hx
    cases hx
  rw [if_neg hroom] at hx
  have hmod : a % efuseRealContentLen = a :=
    Nat.mod_eq_of_lt ((Nat.lt_of_not_le hroom).trans (by decide))
  rcases hcheck : halEfusePartialWriteCheck { w.efuse with efuseBytes := a } with _ | start
  · rw [hcheck] at hx
    cases hx
  rw [hcheck] at hx
  obtain rfl : start = a := by
    rw [halEfusePartialWriteCheck] at hcheck
    dsimp only at hcheck
    rw [hmod] at hcheck
    split at hcheck
    · cases hcheck
    · split at hcheck
      · cases hcheck
      · exact (Option.some.inj hcheck).symm
  dsimp only at hx
  rcases List.mem_append.1 hx with hx | hx
  · have haddr : x.1 = start ∨ efuseMaxSectionBase ≤ w.offset ∧ x.1 = start + 1 := by
      rw [headerProgrammings] at hx
      by_cases hbase : efuseMaxSectionBase ≤ w.offset
      · rw [if_pos hbase, if_neg hroom] at hx
        rcases List.mem_append.1 hx with hx | hx
        · exact .inl (mem_headerByteProgrammings _ hx)
        · split at hx
          · exact .inr ⟨hbase, mem_headerByteProgrammings _ hx⟩
          · cases hx
      · rw [if_neg hbase] at hx
        exact .inl (mem_headerByteProgrammings _ hx)
    unfold packetSize
    rcases haddr with haddr | ⟨hbase, haddr⟩
    · split <;> omega
    · rw [if_pos hbase]
      omega
  · rcases hwrite : halEfusePgPacketWriteHeader burn { w.efuse with efuseBytes := start } start
      w.offset w.wordEn with ⟨_ | last, s⟩
    · rw [hwrite] at hx
      cases hx
    · rw [hwrite] at hx
      rw [← (halEfusePgPacketWriteHeader_spec hwrite).1.packetSize]
      exact mem_wordProgrammings hx

lemma headerProgrammings_ne_nil {addr : ℕ} (hroom : addr < availableEfuseBytes)
    (offset wordEn : BitVec 8) : headerProgrammings burn s addr offset wordEn ≠ [] := by
  rw [headerProgrammings]
  split
  · rw [if_neg (Nat.not_le_of_lt hroom)]
    exact List.cons_ne_nil _ _
  · exact List.cons_ne_nil _ _

/-- Where there is any room, a header is programmed. -/
lemma packetProgrammings_ne_nil {w : PacketWrite} (hroom : w.addr < availableEfuseBytes) :
    packetProgrammings burn w ≠ [] := by
  obtain ⟨a, hsize, hheader⟩ := currentSize_spec w.efuse.content w.efuse.efuseBytes
  rw [PacketWrite.addr, hsize] at hroom
  have hlimit : a < efuseRealContentLen := hroom.trans (by decide)
  have hff : w.efuse.content a = 0xFF#8 := by
    by_contra hne
    exact hheader ⟨hlimit, hne⟩
  have hcheck : halEfusePartialWriteCheck { w.efuse with efuseBytes := a } = some a := by
    simp [halEfusePartialWriteCheck, Nat.mod_eq_of_lt hlimit, Nat.not_le_of_lt hroom, hff]
  rw [packetProgrammings, hsize]
  dsimp only
  rw [if_neg (Nat.not_le_of_lt hroom), hcheck]
  dsimp only
  intro hnil
  exact headerProgrammings_ne_nil hroom _ _ (List.append_eq_nil_iff.1 hnil).1

/-- Where there is none, the packet is refused. -/
lemma packetWrite_of_no_room {w : PacketWrite} (hroom : availableEfuseBytes ≤ w.addr) :
    packetProgrammings burn w = [] ∧
      (halEfusePgPacketWrite burn w.efuse w.offset w.wordEn w.pData).1 = false := by
  rw [PacketWrite.addr] at hroom
  rw [packetProgrammings, halEfusePgPacketWrite]
  exact ⟨if_pos hroom, by rw [if_pos hroom]⟩

/-! ### The whole request -/

/-- A request fails when one of its packets does. -/
lemma writeLoop_fst (burn : Burn) (efuse map : EfuseMap) (addr cnts fuel : ℕ) :
    ∀ (idx offset : ℕ) (s : Efuse), (writeLoop burn efuse map addr cnts fuel idx offset s).1 =
      (packetWrites burn efuse map addr cnts fuel idx offset s).all fun w =>
        (halEfusePgPacketWrite burn w.efuse w.offset w.wordEn w.pData).1 := by
  induction fuel with
  | zero => exact fun _ _ _ => rfl
  | succ fuel ih =>
      intro idx offset s
      rw [writeLoop, packetWrites]
      by_cases hlt : idx < cnts
      · rw [if_pos hlt, if_pos hlt]
        generalize sectionLoop efuse map addr cnts idx offset = r
        dsimp only
        by_cases hne : r.2.1 ≠ 0x0F#8
        · rw [if_pos hne, if_pos hne, List.all_cons]
          by_cases hok : (halEfusePgPacketWrite burn s (BitVec.ofNat 8 offset) r.2.1 r.2.2).1 = true
          · rw [if_pos hok, if_pos hok, hok, Bool.true_and]
            exact ih _ _ _
          · rw [if_neg hok, if_neg hok, Bool.eq_false_iff.2 hok, Bool.false_and]
        · rw [if_neg hne, if_neg hne]
          exact ih _ _ _
      · rw [if_neg hlt, if_neg hlt]
        rfl

/-- A packet that is refused makes the request fail. -/
lemma rtwEfuseMapWrite_of_refused {masked : ℕ → Bool} {addr cnts : ℕ} {data : ℕ → BitVec 8}
    {w : PacketWrite} (hw : w ∈ mapPacketWrites burn masked s addr cnts data)
    (hfail : (halEfusePgPacketWrite burn w.efuse w.offset w.wordEn w.pData).1 = false) :
    (rtwEfuseMapWrite burn masked s addr cnts data).1 = false := by
  rw [mapPacketWrites] at hw
  rw [rtwEfuseMapWrite]
  by_cases hrange : efuseMapLen < addr + cnts
  · rw [if_pos hrange]
  obtain ⟨bytes, used, hread, -⟩ := rtwEfuseMapRead_all s
  rw [if_neg hrange, hread] at hw ⊢
  simp only [mapWriteTotal] at hw ⊢
  generalize (if used = 0 then halEfuseGetCurrentSizeWiFi s.content used else (used, used)) = size
    at hw ⊢
  split
  · rfl
  · rename_i hroom
    rw [if_neg hroom] at hw
    rw [writeLoop_fst]
    exact List.all_eq_false.2 ⟨w, hw, by simp [hfail]⟩

/-- A request leaves the protected bytes alone: it programs none of them, it stops with failure
before it writes a packet that does not fit, and it is refused if the packets do not fit behind the
log. -/
def ProtectedKept (burn : Burn) (masked : ℕ → Bool) (s : Efuse) (addr cnts : ℕ)
    (data : ℕ → BitVec 8) : Prop :=
  (∀ x ∈ mapProgrammings burn masked s addr cnts data, x.1 < availableEfuseBytes) ∧
    (∀ w ∈ mapPacketWrites burn masked s addr cnts data, ¬ w.Fits →
      packetProgrammings burn w = [] ∧ (rtwEfuseMapWrite burn masked s addr cnts data).1 = false) ∧
    (availableEfuseBytes <
        (readEnd s.content).addr + mapWriteTotal masked (readMap s.content) addr cnts data →
      mapProgrammings burn masked s addr cnts data = [] ∧
        (rtwEfuseMapWrite burn masked s addr cnts data).1 = false)

/-- Packets that do not fit behind the log are refused before one is written. -/
lemma refused_of_no_room {masked : ℕ → Bool} {addr cnts : ℕ} {data : ℕ → BitVec 8}
    (h : availableEfuseBytes <
      (readEnd s.content).addr + mapWriteTotal masked (readMap s.content) addr cnts data) :
    mapProgrammings burn masked s addr cnts data = [] ∧
      (rtwEfuseMapWrite burn masked s addr cnts data).1 = false := by
  rw [mapProgrammings, mapPacketWrites, rtwEfuseMapWrite]
  by_cases hrange : efuseMapLen < addr + cnts
  · rw [if_pos hrange, if_pos hrange]
    exact ⟨rfl, rfl⟩
  obtain ⟨bytes, used, hread, hmap, hused⟩ := rtwEfuseMapRead_all s
  have hend := readEnd_eq s.content
  -- the length that is compared is that of the log, or one less if the log fills the bank
  have hsize : availableEfuseBytes ≤
      (if used = 0 then halEfuseGetCurrentSizeWiFi s.content used else (used, used)).1 +
        mapWriteTotal masked (readMap s.content) addr cnts data := by
    rw [hend] at h hused
    dsimp only at h hused
    have hmax : availableEfuseBytes = 415 := rfl
    have hbank : efuseRealContentLen = 512 := rfl
    by_cases hlimit : Walk.stop (readNext s.content) efuseRealContentLen 0 < efuseRealContentLen
    · rw [decide_eq_true hlimit, if_pos rfl] at hused
      by_cases hzero : used = 0
      · have hnone : ¬ HeaderAt s.content 0 := by
          have hstop := (readNext_forward s.content).next_stop 0
          rw [← hused, hzero, readNext_eq_none] at hstop
          exact hstop
        have hscan : (halEfuseGetCurrentSizeWiFi s.content 0).1 = 0 := by
          rw [halEfuseGetCurrentSizeWiFi_zero, Walk.stop_of_none (scanNext_of_not_headerAt hnone)]
        rw [if_pos hzero, hzero, hscan]
        omega
      · rw [if_neg hzero]
        dsimp only
        omega
    · rw [decide_eq_false hlimit, if_neg Bool.false_ne_true] at hused
      rw [if_neg (by omega)]
      dsimp only
      omega
  rw [if_neg hrange, if_neg hrange, hread]
  simp only [mapWriteTotal, hmap] at hsize ⊢
  rw [if_pos hsize, if_pos hsize]
  exact ⟨rfl, rfl⟩

/-- For every way in which the hardware may take the writes, every content and every request, the
request leaves the protected bytes alone if and only if each of its packets is written where the
scan finds no room at all or room for the whole packet. -/
theorem efuse_protected_iff (burn : Burn) (masked : ℕ → Bool) (s : Efuse) (addr cnts : ℕ)
    (data : ℕ → BitVec 8) : ProtectedKept burn masked s addr cnts data ↔
      ∀ w ∈ mapPacketWrites burn masked s addr cnts data, w.Safe := by
  constructor
  · rintro ⟨-, hfit, -⟩ w hw
    rcases Nat.lt_or_ge w.addr availableEfuseBytes with hroom | hroom
    · refine .inr ?_
      by_contra hnot
      exact packetProgrammings_ne_nil hroom (hfit w hw hnot).1
    · exact .inl hroom
  · intro hsafe
    refine ⟨fun x hx => ?_, fun w hw hnot => ?_, refused_of_no_room⟩
    · obtain ⟨w, hw, hx⟩ := List.mem_flatMap.1 hx
      rcases hsafe w hw with hroom | hfits
      · rw [(packetWrite_of_no_room hroom).1] at hx
        cases hx
      · exact Nat.lt_of_lt_of_le (packetProgrammings_lt hx) hfits
    · obtain ⟨hnil, hfail⟩ := packetWrite_of_no_room ((hsafe w hw).resolve_right hnot)
      exact ⟨hnil, rtwEfuseMapWrite_of_refused hw hfail⟩

/-- A log whose last header was interrupted: the second byte, at 404, has not been programmed. -/
def interruptedLog : Efuse where
  content := fun a =>
    if a = 396 then 0x08#8 else if a = 403 then 0x0F#8 else if a < 403 then 0 else 0xFF#8
  efuseBytes := 0

/-- One word for each of the sections 1, 2 and 3. -/
def threeWords : ℕ → BitVec 8 :=
  fun i => if i = 1 then 0x08#8 else if i ∈ [0, 8, 9, 16, 17] then 0 else 0xFF#8

/-- The second packet goes over the first, and the third one into the protected bytes. -/
theorem not_protectedKept :
    ¬ ProtectedKept clearingBurn (fun _ => false) interruptedLog 8 24 threeWords := by
  intro h
  have hmem : (415, 0#8) ∈
      mapProgrammings clearingBurn (fun _ => false) interruptedLog 8 24 threeWords := by
    decide +kernel
  exact absurd (h.1 _ hmem) (by decide)

end Rtl8723du
