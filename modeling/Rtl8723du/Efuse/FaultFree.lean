import Rtl8723du.Efuse.PacketRead

/-!
# Writes without faults

When the hardware clears the bits it is asked to (`clearingBurn`), a packet that has room in the
blank bytes behind a well-formed log is written (`EfuseLog.write_clearing`).  In a blank efuse the
reader finds exactly this packet, and goes over as many bytes as were written.
-/

namespace Rtl8723du

open Lib

variable {s : Efuse} {a : ℕ} {offset wordEn : BitVec 8}

/-! ### The header -/

lemma clearingBurn_blank (k : ℕ) (new : BitVec 8) : clearingBurn k 0xFF#8 new = new :=
  BitVec.allOnes_and

/-- A blank byte takes a header at the first try. -/
lemma writeHeaderByte_clearing {pgHeader : BitVec 8} (hblank : s.content a = 0xFF#8)
    (hne : pgHeader ≠ 0xFF#8) (tries : ℕ) :
    writeHeaderByte clearingBurn a pgHeader (tries + 1) s =
      (true, efuseOneByteWrite clearingBurn s a pgHeader) := by
  have hbyte : (efuseOneByteWrite clearingBurn s a pgHeader).content a = pgHeader := by
    simp [efuseOneByteWrite, hblank, clearingBurn_blank]
  rw [writeHeaderByte, hbyte, if_pos hne, beq_self_eq_true]

/-- A header is written into blank bytes. -/
lemma halEfusePgPacketWriteHeader_clearing (hoff : offset.toNat < efuseMaxSection)
    (hword : wordEn.toNat < 15) (hroom : a < availableEfuseBytes)
    (hblank : s.content a = 0xFF#8)
    (hblank' : efuseMaxSectionBase ≤ offset → s.content (a + 1) = 0xFF#8) :
    ∃ last s', halEfusePgPacketWriteHeader clearingBurn s a offset wordEn = (some last, s') ∧
      s'.burns + a = s.burns + (last + 1) := by
  unfold halEfusePgPacketWriteHeader
  by_cases hbase : efuseMaxSectionBase ≤ offset
  · obtain ⟨-, hlong, hdis, -⟩ := longHeader_read hoff hword
    have hext := (extHeader_eq_false_of_not_allWordsDisabled _ hdis).2
    have hsecond : (efuseOneByteWrite clearingBurn s a (((offset &&& 0x07#8) <<< 5) |||
        0x0F#8)).content (a + 1) = 0xFF#8 := by
      simp [efuseOneByteWrite, hblank' hbase]
    rw [if_pos hbase, if_neg (Nat.not_le_of_lt hroom), writeHeaderByte_clearing hblank hlong]
    dsimp only
    rw [if_pos rfl, writeHeaderByte_clearing hsecond hext]
    refine ⟨a + 1, _, rfl, ?_⟩
    show s.burns + 1 + 1 + a = s.burns + (a + 1 + 1)
    omega
  · obtain ⟨-, hshort, -⟩ := shortHeader_read (toNat_lt_of_short hbase) hword
    rw [if_neg hbase, writeHeaderByte_clearing hblank hshort]
    refine ⟨a, _, rfl, ?_⟩
    show s.burns + 1 + a = s.burns + (a + 1)
    omega

/-! ### The words -/

lemma writeWord_clearing {data : ℕ → BitVec 8} {r : WordWrite} (i : ℕ)
    (hfirst : r.efuse.content r.startAddr = 0xFF#8)
    (hsecond : r.efuse.content (r.startAddr + 1) = 0xFF#8) :
    (writeWord clearingBurn data r i).good = r.good := by
  simp [writeWord, efuseOneByteWrite, hfirst, hsecond, clearingBurn_blank]

/-- Words are written into blank bytes, each byte once. -/
lemma foldl_writeWord_clearing (data : ℕ → BitVec 8) (words : List ℕ) : ∀ r : WordWrite,
    (∀ x, r.startAddr ≤ x → x < r.startAddr + words.length * 2 → r.efuse.content x = 0xFF#8) →
      (words.foldl (writeWord clearingBurn data) r).good = r.good ∧
        (words.foldl (writeWord clearingBurn data) r).efuse.burns =
          r.efuse.burns + words.length * 2 := by
  induction words with
  | nil => exact fun r _ => ⟨rfl, rfl⟩
  | cons i words ih =>
      intro r hblank
      rw [List.length_cons] at hblank ⊢
      obtain ⟨hgood, hburns⟩ := ih (writeWord clearingBurn data r i) fun x hlo hhi => by
        have hnext : (writeWord clearingBurn data r i).startAddr = r.startAddr + 2 := rfl
        rw [writeWord_frame data r i (by omega)]
        exact hblank x (by omega) (by omega)
      rw [List.foldl_cons, hgood, hburns]
      refine ⟨writeWord_clearing i (hblank _ le_rfl (by omega))
        (hblank _ (by omega) (by omega)), ?_⟩
      show r.efuse.burns + 1 + 1 + words.length * 2 = _
      omega

/-! ### The packet -/

lemma efuseCalculateWordCnts_le (wordEn : BitVec 8) : efuseCalculateWordCnts wordEn ≤ 4 :=
  List.length_filter_le _ _

/-- A header and words behind a well-formed log make a longer one. -/
lemma EfuseLog.write_clearing {e : ℕ} {t : EfuseMap} (h : EfuseLog s.content e t)
    (hoff : offset.toNat < efuseMaxSection) (hword : wordEn.toNat < 15)
    (hroom : e + packetSize offset wordEn < availableEfuseBytes) (pData : ℕ → BitVec 8) :
    ∃ last s₁ s₂,
      halEfusePgPacketWriteHeader clearingBurn s e offset wordEn = (some last, s₁) ∧
      halEfuseWordEnableDataWrite clearingBurn s₁ (last + 1) wordEn
        (halEfuseConstructPGPkt wordEn pData) = (true, s₂) ∧
      s₂.burns = s.burns + packetSize offset wordEn ∧
      EfuseLog s₂.content (e + packetSize offset wordEn)
        (withPacket offset.toNat wordEn pData t) := by
  have hsize : 1 ≤ packetSize offset wordEn ∧
      (efuseMaxSectionBase ≤ offset → 2 ≤ packetSize offset wordEn) := by
    unfold packetSize
    split
    · exact ⟨by omega, fun _ => by omega⟩
    · exact ⟨by omega, fun hbase => absurd hbase ‹_›⟩
  have hblank := fun x hlo hhi => h.free x hlo (Nat.lt_trans hhi hroom)
  obtain ⟨last, s₁, hwrite, hburns⟩ := halEfusePgPacketWriteHeader_clearing hoff hword
    (by omega : e < availableEfuseBytes) (hblank e le_rfl (by omega))
    fun hbase => hblank (e + 1) (by omega) (by have := hsize.2 hbase; omega)
  obtain ⟨hheader, -, hframe⟩ := halEfusePgPacketWriteHeader_spec hwrite
  obtain ⟨hle, hge⟩ := hheader.bounds
  have hend := hheader.packetSize
  obtain ⟨hgood, hcount⟩ := foldl_writeWord_clearing (halEfuseConstructPGPkt wordEn pData)
    (enabledWords wordEn) ⟨s₁, last + 1, true⟩ fun x hlo hhi => by
      show s₁.content x = 0xFF#8
      rw [hframe x (.inr hlo)]
      exact hblank x (hle.trans (Nat.le_of_succ_le hlo)) (hend ▸ hhi)
  obtain ⟨hholds, hrest⟩ := foldl_writeWord clearingBurn (halEfuseConstructPGPkt wordEn pData)
    (enabledWords wordEn) ⟨s₁, last + 1, true⟩
  refine ⟨last, s₁, _, hwrite, Prod.ext hgood rfl, ?_, ?_⟩
  · show ((enabledWords wordEn).foldl _ (⟨s₁, last + 1, true⟩ : WordWrite)).efuse.burns = _
    rw [hcount]
    show s₁.burns + efuseCalculateWordCnts wordEn * 2 = _
    omega
  · have hsame : ∀ x ≤ last, ((enabledWords wordEn).foldl
        (writeWord clearingBurn (halEfuseConstructPGPkt wordEn pData))
          ⟨s₁, last + 1, true⟩).efuse.content x = s₁.content x :=
      fun x hx => hrest x (.inl (Nat.lt_succ_of_le hx))
    rw [← hend] at hroom ⊢
    exact (h.append hroom hoff hword
      (fun x hx => (hsame x (by omega)).trans (hframe x (.inl hx)))
      (hheader.congr hsame) (hholds hgood).2.constructed
      (fun x hx => (hrest x (.inr hx)).trans (hframe x (.inr (by omega))))).1

/-- `Hal_EfusePgPacketWrite` writes a packet that has room. -/
lemma EfuseLog.packetWrite_clearing {e : ℕ} {t : EfuseMap} (h : EfuseLog s.content e t)
    (hn : Noted s.content e s.efuseBytes) (hoff : offset.toNat < efuseMaxSection)
    (hword : wordEn.toNat < 15) (hroom : e + packetSize offset wordEn < availableEfuseBytes)
    (pData : ℕ → BitVec 8) :
    ∃ s', halEfusePgPacketWrite clearingBurn s offset wordEn pData = (true, s') ∧
      EfuseLog s'.content (e + packetSize offset wordEn)
        (withPacket offset.toNat wordEn pData t) := by
  have hlog : EfuseLog { s with efuseBytes := e }.content e t := h
  obtain ⟨last, s₁, s₂, hheader, hwords, -, hlog'⟩ := hlog.write_clearing hoff hword hroom pData
  have he : e < availableEfuseBytes := Nat.lt_of_le_of_lt (Nat.le_add_right _ _) hroom
  refine ⟨s₂, ?_, hlog'⟩
  rw [halEfusePgPacketWrite, h.currentSize hn]
  dsimp only
  rw [if_neg (Nat.not_le_of_lt he), h.partialWriteCheck he]
  dsimp only
  rw [hheader]
  exact hwords

/-! ### A blank efuse -/

/-- In a blank efuse, for every section, every mask with a word enabled and every data, the bytes
that the header writer and `Hal_EfuseWordEnableDataWrite` place are read as exactly this section
with exactly the enabled words; the reader and the scan go over as many bytes as were written. -/
theorem efuse_packet_roundTrip (offset wordEn : BitVec 8) (pData : ℕ → BitVec 8)
    (hoff : offset.toNat < efuseMaxSection) (hword : wordEn.toNat < 15) :
    ∃ last s₁ s₂,
      halEfusePgPacketWriteHeader clearingBurn blankEfuse 0 offset wordEn = (some last, s₁) ∧
      halEfuseWordEnableDataWrite clearingBurn s₁ (last + 1) wordEn
        (halEfuseConstructPGPkt wordEn pData) = (true, s₂) ∧
      halReadEFuseWiFi s₂.content 0 efuseMapLen = some ((List.range efuseMapLen).map fun p =>
        if p / pgpktDataSize = offset.toNat ∧
            wordEn.getLsbD (p % pgpktDataSize / 2) = false then pData (p % pgpktDataSize)
        else 0xFF#8, s₂.burns) ∧
      (halEfuseGetCurrentSizeWiFi s₂.content 0).1 = s₂.burns := by
  have hroom : 0 + packetSize offset wordEn < availableEfuseBytes := by
    have hcount := efuseCalculateWordCnts_le wordEn
    show 0 + packetSize offset wordEn < 415
    unfold packetSize
    split <;> omega
  obtain ⟨last, s₁, s₂, hheader, hwords, hburns, hlog⟩ :=
    blankEfuse_log.write_clearing hoff hword hroom pData
  have hburns : s₂.burns = packetSize offset wordEn := hburns.trans (Nat.zero_add _)
  rw [Nat.zero_add] at hroom hlog
  have hlimit : packetSize offset wordEn < efuseRealContentLen := hroom.trans (by decide)
  have hbyte : ∀ p, withPacket offset.toNat wordEn pData (fun _ => 0xFF#8) p =
      if p / pgpktDataSize = offset.toNat ∧ wordEn.getLsbD (p % pgpktDataSize / 2) = false then
        pData (p % pgpktDataSize)
      else 0xFF#8 := by
    intro p
    by_cases hp : p / pgpktDataSize = offset.toNat ∧
        wordEn.getLsbD (p % pgpktDataSize / 2) = false
    · have hlt : p % 8 < 8 := Nat.mod_lt p (by decide)
      have hmem : p % pgpktDataSize / 2 ∈ enabledWords wordEn :=
        mem_enabledWords.2 ⟨by unfold pgpktDataSize; omega, hp.2⟩
      rw [if_pos hp, withPacket_apply_of_mem hp.1 hmem]
    · rw [if_neg hp, withPacket_apply_of_not_mem]
      exact fun hin => hp ⟨hin.1, (mem_enabledWords.1 hin.2).2⟩
  refine ⟨last, s₁, s₂, hheader, hwords, ?_, ?_⟩
  · rw [halReadEFuseWiFi, if_neg (by decide), hburns]
    simp only [readEnd_eq, hlog.stop, hlog.map, decide_eq_true_eq, if_pos hlimit, Nat.zero_add,
      hbyte]
  · rw [hlog.currentSize (.inl rfl), hburns]

/-- The bytes of a packet are their offsets. -/
def countedData (k : ℕ) : BitVec 8 := .ofNat 8 k

theorem efuse_packet_roundTrip_last :
    ∃ last s₁ s₂,
      halEfusePgPacketWriteHeader clearingBurn blankEfuse 0 63#8 6#8 = (some last, s₁) ∧
      halEfuseWordEnableDataWrite clearingBurn s₁ (last + 1) 6#8
        (halEfuseConstructPGPkt 6#8 countedData) = (true, s₂) ∧
      halReadEFuseWiFi s₂.content 0 efuseMapLen = some ((List.range efuseMapLen).map fun p =>
        if p / pgpktDataSize = (63#8).toNat ∧
            (6#8).getLsbD (p % pgpktDataSize / 2) = false then countedData (p % pgpktDataSize)
        else 0xFF#8, s₂.burns) ∧
      (halEfuseGetCurrentSizeWiFi s₂.content 0).1 = s₂.burns :=
  efuse_packet_roundTrip 63#8 6#8 countedData (by decide) (by decide)

end Rtl8723du
