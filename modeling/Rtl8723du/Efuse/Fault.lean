import Rtl8723du.Efuse.FaultFree

/-!
# Writes with faults

The hardware may leave any bit unprogrammed (`Clears`).  A write that fails leaves a header behind
that need not be the one that was meant, with blank bytes for its words (`LeftBehind`).  The reader
takes it for a packet: the words it names read as `0xFF` (`efuse_fault_map`).  The next writer goes
on behind it, unless what is left is an extended header without its second byte.
-/

namespace Rtl8723du

open Lib

/-- Bits are cleared where they are asked to be, and nowhere else, but not all of them need be. -/
def Clears (burn : Burn) : Prop :=
  ∀ k old new i, ((burn k old new).getLsbD i = true → old.getLsbD i = true) ∧
    (old.getLsbD i = true → new.getLsbD i = true → (burn k old new).getLsbD i = true)

/-- The byte has all bits of another one. -/
def Covers (v h : BitVec 8) : Prop := ∀ i, h.getLsbD i = true → v.getLsbD i = true

variable {burn : Burn} {s : Efuse} {offset wordEn v h : BitVec 8} {a e : ℕ} {t : EfuseMap}

lemma Clears.covers (hburn : Clears burn) (k : ℕ) (new : BitVec 8) :
    Covers (burn k 0xFF#8 new) new := by
  intro i hi
  refine (hburn k _ new i).2 ?_ hi
  have hlt : i < 8 := BitVec.lt_of_getLsbD hi
  exact (by decide : ∀ i < 8, (0xFF#8).getLsbD i = true) i hlt

/-! ### What is left of a header -/

/-- A header byte is programmed once, or stays blank. -/
lemma writeHeaderByte_covers (hburn : Clears burn) (pgHeader : BitVec 8) (tries : ℕ) :
    ∀ {s : Efuse}, s.content a = 0xFF#8 →
      Covers ((writeHeaderByte burn a pgHeader tries s).2.content a) pgHeader := by
  induction tries with
  | zero =>
      intro s hblank i hi
      show (s.content a).getLsbD i = true
      rw [hblank]
      exact (by decide : ∀ i < 8, (0xFF#8).getLsbD i = true) i (BitVec.lt_of_getLsbD hi)
  | succ tries ih =>
      intro s hblank
      have hbyte : (efuseOneByteWrite burn s a pgHeader).content a =
          burn s.burns 0xFF#8 pgHeader := by
        simp [efuseOneByteWrite, hblank]
      rw [writeHeaderByte]
      by_cases hff : (efuseOneByteWrite burn s a pgHeader).content a ≠ 0xFF#8
      · rw [if_pos hff]
        dsimp only
        rw [hbyte]
        exact hburn.covers _ _
      · rw [if_neg hff]
        exact ih (not_not.1 hff)

/-- The first byte of a header. -/
def firstHeader (offset wordEn : BitVec 8) : BitVec 8 :=
  if efuseMaxSectionBase ≤ offset then ((offset &&& 0x07#8) <<< 5) ||| 0x0F#8
  else ((offset <<< 4) &&& 0xf0#8) ||| wordEn

/-- What a write leaves behind a log that ends at `e`: the whole header, and no change behind the
packet; or something of its first byte; or, of a header of two bytes, something of the second. -/
inductive LeftBehind (efuse efuse' : EfuseContent) (e : ℕ) (offset wordEn : BitVec 8) : Prop
  | packet {last : ℕ} (header : HoldsHeader efuse' e last offset wordEn)
      (same : ∀ x, x < e ∨ e + packetSize offset wordEn ≤ x → efuse' x = efuse x)
  | first (covers : Covers (efuse' e) (firstHeader offset wordEn))
      (same : ∀ x, x ≠ e → efuse' x = efuse x)
  | second (long : efuseMaxSectionBase ≤ offset) (header : efuse' e = firstHeader offset wordEn)
      (covers : Covers (efuse' (e + 1)) (((offset &&& 0x78#8) <<< 1) ||| wordEn))
      (same : ∀ x, x ≠ e → x ≠ e + 1 → efuse' x = efuse x)

/-- A header that is not written leaves one of its bytes behind. -/
lemma leftBehind_of_header_fails (hburn : Clears burn) {s' : Efuse}
    (hroom : e < availableEfuseBytes)
    (hblank : s.content e = 0xFF#8) (hblank' : s.content (e + 1) = 0xFF#8)
    (hw : halEfusePgPacketWriteHeader burn s e offset wordEn = (none, s')) :
    LeftBehind s.content s'.content e offset wordEn := by
  rw [halEfusePgPacketWriteHeader] at hw
  by_cases hbase : efuseMaxSectionBase ≤ offset
  · have hfirst : firstHeader offset wordEn = ((offset &&& 0x07#8) <<< 5) ||| 0x0F#8 :=
      if_pos hbase
    rw [if_pos hbase, if_neg (Nat.not_le_of_lt hroom), ← hfirst] at hw
    have hcovers := writeHeaderByte_covers hburn (firstHeader offset wordEn) headerTries hblank
    obtain ⟨hgood, -, hframe⟩ :=
      writeHeaderByte_spec burn e (firstHeader offset wordEn) headerTries s
    generalize writeHeaderByte burn e (firstHeader offset wordEn) headerTries s = r
      at hw hcovers hgood hframe
    cases hr : r.1 with
    | false =>
        simp only [hr] at hw
        obtain rfl := (Prod.mk.inj hw).2
        exact .first hcovers hframe
    | true =>
        simp only [hr, if_true] at hw
        have hnext : r.2.content (e + 1) = 0xFF#8 := by rw [hframe _ (by omega), hblank']
        have hcovers' := writeHeaderByte_covers hburn (((offset &&& 0x78#8) <<< 1) ||| wordEn)
          headerTries hnext
        obtain ⟨-, -, hframe'⟩ := writeHeaderByte_spec burn (e + 1)
          (((offset &&& 0x78#8) <<< 1) ||| wordEn) headerTries r.2
        obtain rfl := (Prod.mk.inj hw).2
        refine .second hbase ?_ hcovers' fun x hx hx' => ?_
        · rw [hframe' e (by omega)]
          exact hgood hr
        · rw [hframe' x hx', hframe x hx]
  · have hfirst : firstHeader offset wordEn = ((offset <<< 4) &&& 0xf0#8) ||| wordEn :=
      if_neg hbase
    rw [if_neg hbase, ← hfirst] at hw
    obtain rfl := (Prod.mk.inj hw).2
    exact .first (writeHeaderByte_covers hburn _ headerTries hblank)
      (writeHeaderByte_spec burn e _ headerTries s).2.2

lemma writeHeader_efuseBytes (burn : Burn) (s : Efuse) (a : ℕ) (offset wordEn : BitVec 8) :
    (halEfusePgPacketWriteHeader burn s a offset wordEn).2.efuseBytes = s.efuseBytes := by
  have hbyte : ∀ (a : ℕ) (pgHeader : BitVec 8) (s : Efuse),
      (writeHeaderByte burn a pgHeader headerTries s).2.efuseBytes = s.efuseBytes :=
    fun a pgHeader s => (writeHeaderByte_spec burn a pgHeader headerTries s).2.1
  rw [halEfusePgPacketWriteHeader]
  split
  · split
    · rfl
    · dsimp only
      split
      · exact (hbyte _ _ _).trans (hbyte _ _ _)
      · exact hbyte _ _ _
  · exact hbyte _ _ _

/-- What a packet write leaves behind the log, whether it fails or not. -/
lemma EfuseLog.leftBehind (hlog : EfuseLog s.content e t) (hn : Noted s.content e s.efuseBytes)
    (hroom : e + packetSize offset wordEn < availableEfuseBytes) (hburn : Clears burn)
    (pData : ℕ → BitVec 8) :
    LeftBehind s.content (halEfusePgPacketWrite burn s offset wordEn pData).2.content e offset
        wordEn ∧
      (halEfusePgPacketWrite burn s offset wordEn pData).2.efuseBytes = e := by
  have hpos : 1 ≤ packetSize offset wordEn := by
    unfold packetSize
    split <;> omega
  have he : e < availableEfuseBytes := by omega
  rw [halEfusePgPacketWrite, hlog.currentSize hn]
  dsimp only
  rw [if_neg (Nat.not_le_of_lt he), hlog.partialWriteCheck he]
  dsimp only
  rcases hw : halEfusePgPacketWriteHeader burn { s with efuseBytes := e } e offset wordEn with
    ⟨_ | last, s₁⟩
  · have hbytes := writeHeader_efuseBytes burn { s with efuseBytes := e } e offset wordEn
    rw [hw] at hbytes
    exact ⟨leftBehind_of_header_fails (s := { s with efuseBytes := e }) hburn he
      (hlog.free e le_rfl he) (hlog.free (e + 1) (by omega) (by omega)) hw, hbytes⟩
  · obtain ⟨hheader, hbytes, hframe⟩ := halEfusePgPacketWriteHeader_spec hw
    obtain ⟨-, hrest⟩ := foldl_writeWord burn (halEfuseConstructPGPkt wordEn pData)
      (enabledWords wordEn) ⟨s₁, last + 1, true⟩
    obtain ⟨hle, hge⟩ := hheader.bounds
    have hend := hheader.packetSize
    refine ⟨.packet (hheader.congr fun x hx => hrest x (.inl (Nat.lt_succ_of_le hx)))
      fun x hx => ?_, ?_⟩
    · have hx' : x < last + 1 ∨ last + 1 + (enabledWords wordEn).length * 2 ≤ x := by
        rcases hx with hx | hx
        · exact .inl (by omega)
        · exact .inr (hend ▸ hx)
      refine (hrest x hx').trans (hframe x ?_)
      rcases hx with hx | hx
      · exact .inl hx
      · exact .inr (by omega)
    · exact (foldl_writeWord_efuseBytes _ _ _).trans hbytes

/-! ### What the reader makes of it -/

lemma Covers.of_or (g : BitVec 8) (hv : Covers v (g ||| h)) : Covers v h := by
  intro i hi
  refine hv i ?_
  rw [BitVec.getLsbD_or, hi, Bool.or_true]

/-- A byte with more bits enables fewer words. -/
lemma Covers.wordCnts_le (hv : Covers v wordEn) :
    efuseCalculateWordCnts (v &&& 0x0F#8) ≤ efuseCalculateWordCnts wordEn := by
  rw [efuseCalculateWordCnts, efuseCalculateWordCnts, enabledWords, enabledWords,
    ← List.countP_eq_length_filter, ← List.countP_eq_length_filter]
  refine List.countP_mono_left fun i hi hbit => ?_
  have hlow : (0x0F#8).getLsbD i = true :=
    (by decide : ∀ i ∈ [0, 1, 2, 3], (0x0F#8).getLsbD i = true) i hi
  rw [BitVec.getLsbD_and, hlow, Bool.and_true] at hbit
  by_contra hset
  have hset : wordEn.getLsbD i = true := by simpa using hset
  rw [hv i hset] at hbit
  cases hbit

/-- A byte with the low bits of an extended header has no words. -/
lemma Covers.allWordsDisabled (hv : Covers v 0x0F#8) : allWordsDisabled v = true := by
  have hlow : v &&& 0x0F#8 = 0x0F#8 := by
    refine BitVec.eq_of_getLsbD_eq fun i hi => ?_
    rw [BitVec.getLsbD_and]
    by_cases hbit : (0x0F#8).getLsbD i = true
    · rw [hv i hbit, hbit, Bool.true_and]
    · rw [Bool.eq_false_iff.2 hbit, Bool.and_false]
  rw [Rtl8723du.allWordsDisabled, hlow, beq_self_eq_true]

/-- The byte `p` of a map is in one of the words that are written. -/
def InWords (offset wordEn : BitVec 8) (p : ℕ) : Prop :=
  p / pgpktDataSize = offset.toNat ∧ p % pgpktDataSize / 2 ∈ enabledWords wordEn

/-- What is read at the end of the log as a packet ends in the room of the packet that was meant,
with blank bytes behind it.  It changes the words that were meant, or makes others blank. -/
structure ReadAs (efuse : EfuseContent) (e : ℕ) (offset wordEn : BitVec 8) : Prop where
  end_le : packetEnd efuse e ≤ e + packetSize offset wordEn
  blank : ∀ x, packetEnd efuse e ≤ x → x < availableEfuseBytes → efuse x = 0xFF#8
  map : ∀ t p, applyPacket efuse t e p = t p ∨ InWords offset wordEn p ∨
    (∃ w, HasByte efuse e p w) ∧ applyPacket efuse t e p = 0xFF#8

lemma HasByte.bounds {efuse : EfuseContent} {p w : ℕ} (hbyte : HasByte efuse a p w) :
    ∃ sec wden d, packetAt efuse a = some (sec, wden, d) ∧ d ≤ w ∧ w < packetEnd efuse a := by
  obtain ⟨sec, wden, d, hat, -, -, hword, rfl⟩ := hbyte
  refine ⟨sec, wden, d, hat, by omega, ?_⟩
  have hidx := List.idxOf_lt_length_of_mem hword
  rw [packetEnd_eq, hat]
  show _ < d + (enabledWords wden).length * 2
  omega

/-- If all the bytes behind the header are blank, so are the words. -/
lemma readAs_of_blank {efuse : EfuseContent} (d : ℕ)
    (hroom : e + packetSize offset wordEn < availableEfuseBytes)
    (hend : packetEnd efuse e ≤ e + packetSize offset wordEn) (hle : d ≤ packetEnd efuse e)
    (hdata : ∀ sec wden d', packetAt efuse e = some (sec, wden, d') → d ≤ d')
    (hblank : ∀ x, d ≤ x → x < availableEfuseBytes → efuse x = 0xFF#8) :
    ReadAs efuse e offset wordEn := by
  refine ⟨hend, fun x hx => hblank x (hle.trans hx), fun t p => ?_⟩
  by_cases hbyte : ∃ w, HasByte efuse e p w
  · obtain ⟨w, hbyte⟩ := hbyte
    obtain ⟨sec, wden, d', hat, hlo, hhi⟩ := hbyte.bounds
    refine .inr (.inr ⟨⟨w, hbyte⟩, ?_⟩)
    rw [applyPacket_of_hasByte hbyte]
    exact hblank w ((hdata _ _ _ hat).trans hlo) (by omega)
  · exact .inl (applyPacket_of_not_hasByte (not_exists.1 hbyte) t)

lemma lt_of_packetAt {efuse : EfuseContent} {sec d : ℕ} {wden : BitVec 8}
    (hat : packetAt efuse a = some (sec, wden, d)) :
    a + 1 ≤ d ∧ (extHeader (efuse a) = true → a + 2 ≤ d) := by
  rw [packetAt] at hat
  split at hat
  · split at hat
    · cases hat
    · obtain ⟨-, -, rfl⟩ : _ ∧ _ ∧ a + 2 = d := by simpa using hat
      exact ⟨by omega, fun _ => le_rfl⟩
  · rename_i hext
    obtain ⟨-, -, rfl⟩ : _ ∧ _ ∧ a + 1 = d := by simpa using hat
    exact ⟨le_rfl, fun h => absurd h hext⟩

lemma one_le_wordCnts (hword : wordEn.toNat < 15) : 1 ≤ efuseCalculateWordCnts wordEn := by
  have hall : ∀ w : Fin 16, w ≠ 15 → 1 ≤ efuseCalculateWordCnts (BitVec.ofNat 8 w) := by decide
  have hone := hall ⟨wordEn.toNat, by omega⟩ (by simp [Fin.ext_iff]; omega)
  simpa using hone

variable {efuse' : EfuseContent}

/-- The packet itself. -/
lemma readAs_of_packet {last : ℕ} (hlog : EfuseLog s.content e t)
    (hoff : offset.toNat < efuseMaxSection) (hword : wordEn.toNat < 15)
    (hheader : HoldsHeader efuse' e last offset wordEn)
    (hsame : ∀ x, x < e ∨ e + packetSize offset wordEn ≤ x → efuse' x = s.content x) :
    ReadAs efuse' e offset wordEn := by
  obtain ⟨-, -, -, -, hend, happly⟩ := hheader.read hoff hword
  rw [hheader.packetSize] at hend
  refine ⟨hend.le, fun x hx hlimit => ?_, fun t p => ?_⟩
  · rw [hend] at hx
    rw [hsame x (.inr hx)]
    exact hlog.free x (by omega) hlimit
  · by_cases hp : InWords offset wordEn p
    · exact .inr (.inl hp)
    · refine .inl ?_
      rw [happly t, readData_snd, if_pos hoff]
      exact withPacket_apply_of_not_mem hp

/-- Something of the first byte of the header. -/
lemma readAs_of_first (hlog : EfuseLog s.content e t) (hword : wordEn.toNat < 15)
    (hroom : e + packetSize offset wordEn < availableEfuseBytes)
    (hcovers : Covers (efuse' e) (firstHeader offset wordEn))
    (hsame : ∀ x, x ≠ e → efuse' x = s.content x) : ReadAs efuse' e offset wordEn := by
  have hcnt := one_le_wordCnts hword
  have hblank : ∀ x, e + 1 ≤ x → x < availableEfuseBytes → efuse' x = 0xFF#8 := by
    intro x hx hlimit
    rw [hsame x (by omega)]
    exact hlog.free x (by omega) hlimit
  have hsize : e + 2 ≤ e + packetSize offset wordEn := by
    unfold packetSize
    split <;> omega
  refine readAs_of_blank (e + 1) hroom ?_ (lt_packetEnd efuse' e)
    (fun sec wden d hat => (lt_of_packetAt hat).1) hblank
  rw [packetEnd]
  split
  · -- the second byte is blank
    rw [hblank (e + 1) le_rfl (by omega), if_pos (by decide)]
    exact hsize
  · unfold packetSize
    rw [firstHeader] at hcovers
    split
    · rw [if_pos ‹_›] at hcovers
      have hlow := (hcovers.of_or _).allWordsDisabled
      rw [efuseCalculateWordCnts_of_allWordsDisabled _ hlow]
      omega
    · rw [if_neg ‹_›] at hcovers
      have hle := (hcovers.of_or _).wordCnts_le
      omega

/-- The first byte of a long header, and something of the second. -/
lemma readAs_of_second (hlog : EfuseLog s.content e t) (hoff : offset.toNat < efuseMaxSection)
    (hword : wordEn.toNat < 15) (hroom : e + packetSize offset wordEn < availableEfuseBytes)
    (hbase : efuseMaxSectionBase ≤ offset) (hheader : efuse' e = firstHeader offset wordEn)
    (hcovers : Covers (efuse' (e + 1)) (((offset &&& 0x78#8) <<< 1) ||| wordEn))
    (hsame : ∀ x, x ≠ e → x ≠ e + 1 → efuse' x = s.content x) : ReadAs efuse' e offset wordEn := by
  have hext : extHeader (efuse' e) = true := by
    rw [hheader, firstHeader, if_pos hbase]
    exact (longHeader_read hoff hword).1
  have hle := (hcovers.of_or _).wordCnts_le
  refine readAs_of_blank (e + 2) hroom ?_ ?_ (fun sec wden d hat => (lt_of_packetAt hat).2 hext)
    fun x hx hlimit => ?_
  · rw [packetEnd, if_pos hext, packetSize, if_pos hbase]
    split <;> omega
  · rw [packetEnd, if_pos hext]
    split <;> omega
  · rw [hsame x (by omega) (by omega)]
    exact hlog.free x (by omega) hlimit

/-! ### The log after a write -/

/-- A following write without faults of any packet that has room succeeds, and is read back. -/
def WritesOn (s : Efuse) : Prop :=
  ∀ (offset wordEn : BitVec 8) (pData : ℕ → BitVec 8), offset.toNat < efuseMaxSection →
    wordEn.toNat < 15 → (readEnd s.content).addr + packetSize offset wordEn < availableEfuseBytes →
    ∃ s', halEfusePgPacketWrite clearingBurn s offset wordEn pData = (true, s') ∧
      (readEnd s'.content).efuseTbl =
        withPacket offset.toNat wordEn pData (readEnd s.content).efuseTbl

lemma EfuseLog.writesOn (hlog : EfuseLog s.content e t) (hn : Noted s.content e s.efuseBytes) :
    WritesOn s := by
  intro offset wordEn pData hoff hword hroom
  have hend := readEnd_eq s.content
  rw [hlog.stop, hlog.map] at hend
  rw [hend] at hroom ⊢
  obtain ⟨s', hwrite, hlog'⟩ := hlog.packetWrite_clearing hn hoff hword hroom pData
  refine ⟨s', hwrite, ?_⟩
  rw [readEnd_eq, hlog'.map]

/-- What is left behind is read as a packet, or not at all. -/
lemma LeftBehind.readAs (hleft : LeftBehind s.content efuse' e offset wordEn)
    (hlog : EfuseLog s.content e t) (hoff : offset.toNat < efuseMaxSection)
    (hword : wordEn.toNat < 15) (hroom : e + packetSize offset wordEn < availableEfuseBytes) :
    efuse' = s.content ∨
      ReadAs efuse' e offset wordEn ∧ efuse' e ≠ 0xFF#8 ∧ ∀ x < e, efuse' x = s.content x := by
  rcases hleft with ⟨hheader, hsame⟩ | ⟨hcovers, hsame⟩ | ⟨hbase, hheader, hcovers, hsame⟩
  · exact .inr ⟨readAs_of_packet hlog hoff hword hheader hsame, (hheader.read hoff hword).1,
      fun x hx => hsame x (.inl hx)⟩
  · by_cases hff : efuse' e = 0xFF#8
    · refine .inl (funext fun x => ?_)
      by_cases hx : x = e
      · subst hx
        rw [hff, hlog.free x le_rfl (by omega)]
      · exact hsame x hx
    · exact .inr ⟨readAs_of_first hlog hword hroom hcovers hsame, hff,
        fun x hx => hsame x (Nat.ne_of_lt hx)⟩
  · refine .inr ⟨readAs_of_second hlog hoff hword hroom hbase hheader hcovers hsame, ?_,
      fun x hx => hsame x (Nat.ne_of_lt hx) (by omega)⟩
    rw [hheader, firstHeader, if_pos hbase]
    exact (longHeader_read hoff hword).2.1

/-- The efuse after a packet write. -/
def afterWrite (burn : Burn) (s : Efuse) (offset wordEn : BitVec 8) (pData : ℕ → BitVec 8) :
    Efuse :=
  (halEfusePgPacketWrite burn s offset wordEn pData).2

/-- For every well-formed log, every packet that has room and every way in which the hardware may
leave bits unprogrammed, the map that is read after the write differs from the old one at most in
the words that are written and, if the header that is left behind names other words, in these,
which are blank then.  Unless this header is an extended one without its second byte, a following
write of any packet succeeds and is read back. -/
theorem efuse_fault_map (burn : Burn) (s : Efuse) (e : ℕ) (t : EfuseMap)
    (offset wordEn : BitVec 8) (pData : ℕ → BitVec 8) (hburn : Clears burn)
    (hlog : EfuseLog s.content e t) (hn : Noted s.content e s.efuseBytes)
    (hoff : offset.toNat < efuseMaxSection) (hword : wordEn.toNat < 15)
    (hroom : e + packetSize offset wordEn < availableEfuseBytes) :
    (∀ p, (readEnd (afterWrite burn s offset wordEn pData).content).efuseTbl p =
          (readEnd s.content).efuseTbl p ∨
        InWords offset wordEn p ∨
        (∃ w, HasByte (afterWrite burn s offset wordEn pData).content e p w) ∧
          (readEnd (afterWrite burn s offset wordEn pData).content).efuseTbl p =
            0xFF#8) ∧
      (¬ (extHeader ((afterWrite burn s offset wordEn pData).content e) = true ∧
          (afterWrite burn s offset wordEn pData).content (e + 1) = 0xFF#8) →
        WritesOn (afterWrite burn s offset wordEn pData)) := by
  obtain ⟨hleft, hbytes⟩ := hlog.leftBehind hn hroom hburn pData
  rw [← afterWrite] at hleft hbytes
  generalize afterWrite burn s offset wordEn pData = s' at hleft hbytes ⊢
  have hlimit : e < efuseRealContentLen :=
    (Nat.lt_of_le_of_lt (Nat.le_add_right _ _) hroom).trans (by decide)
  rcases hleft.readAs hlog hoff hword hroom with hsame | ⟨hread, hff, hbefore⟩
  · rw [hsame]
    refine ⟨fun p => .inl rfl, fun _ => ?_⟩
    have hlog' : EfuseLog s'.content e t := hsame ▸ hlog
    exact hlog'.writesOn (.inr (.inl hbytes))
  · have hend := hread.end_le
    have hblank := hread.blank _ le_rfl (by omega)
    have hat : HeaderAt s'.content e := ⟨hlimit, hff⟩
    obtain ⟨-, -, hmap⟩ := hlog.read_extended hbefore hat rfl hblank
    refine ⟨fun p => ?_, fun hlong => ?_⟩
    · rw [readEnd_eq s'.content, readEnd_eq s.content, hlog.map, hmap]
      exact hread.map t p
    · have hparts : ¬ PartsAt s'.content e := by
        rintro ⟨hext, -, hnext | hfar | ⟨hfar, -⟩⟩
        · exact hlong ⟨hext, hnext⟩
        · have hbank : efuseRealContentLen = 512 := rfl
          have hmax : availableEfuseBytes = 415 := rfl
          have hpos := lt_packetEnd s'.content e
          omega
        · have hbank : efuseRealContentLen = 512 := rfl
          have hmax : availableEfuseBytes = 415 := rfl
          have hpos := lt_packetEnd s'.content e
          omega
      have hlog' := hlog.extend hbefore hat rfl (by omega) hread.blank hparts
      refine hlog'.writesOn (.inr (.inr ?_))
      rw [hbytes]
      exact hat

/-- A packet with a word of the section 1. -/
def oneWord : Efuse where
  content := fun a => [0x1E#8, 1#8, 2#8].getD a 0xFF#8
  efuseBytes := 0

/-- The map that is read from it. -/
def oneWordMap : EfuseMap := (headers oneWord.content).foldl (applyPacket oneWord.content)
  fun _ => 0xFF#8

lemma oneWord_log : EfuseLog oneWord.content 3 oneWordMap := by
  refine ⟨by decide +kernel, rfl, by decide +kernel, fun a ha _ => ?_⟩
  show [0x1E#8, 1#8, 2#8].getD a 0xFF#8 = 0xFF#8
  rw [List.getD_eq_getElem?_getD, List.getElem?_eq_none ha]
  rfl

/-- The hardware never clears bit 4. -/
def stuckBurn : Burn := fun _ old new => old &&& (new ||| 0x10#8)

lemma clears_stuckBurn : Clears stuckBurn := by
  intro k old new i
  simp only [stuckBurn, BitVec.getLsbD_and, BitVec.getLsbD_or, Bool.and_eq_true, Bool.or_eq_true]
  exact ⟨And.left, fun hold hnew => ⟨hold, .inl hnew⟩⟩

theorem efuse_fault_map_stuckBurn :
    (∀ p, (readEnd (afterWrite stuckBurn oneWord 2#8 6#8 countedData).content).efuseTbl p =
          (readEnd oneWord.content).efuseTbl p ∨
        InWords 2#8 6#8 p ∨
        (∃ w, HasByte (afterWrite stuckBurn oneWord 2#8 6#8 countedData).content 3 p w) ∧
          (readEnd (afterWrite stuckBurn oneWord 2#8 6#8 countedData).content).efuseTbl p =
            0xFF#8) ∧
      (¬ (extHeader ((afterWrite stuckBurn oneWord 2#8 6#8 countedData).content 3) = true ∧
          (afterWrite stuckBurn oneWord 2#8 6#8 countedData).content (3 + 1) = 0xFF#8) →
        WritesOn (afterWrite stuckBurn oneWord 2#8 6#8 countedData)) :=
  efuse_fault_map stuckBurn oneWord 3 oneWordMap 2#8 6#8 countedData clears_stuckBurn oneWord_log
    (.inl rfl) (by decide) (by decide) (by decide)

/-- A write that fails differs from the old map at most in its words, and any packet can be written
after it. -/
def FaultTolerant (burn : Burn) (s : Efuse) (offset wordEn : BitVec 8) (pData : ℕ → BitVec 8) :
    Prop :=
  (∀ p, (readEnd (afterWrite burn s offset wordEn pData).content).efuseTbl p =
      (readEnd s.content).efuseTbl p ∨ InWords offset wordEn p) ∧
    WritesOn (afterWrite burn s offset wordEn pData)

/-- The header of a word of the section 0 is left as one of the section 1, whose word is lost. -/
theorem not_faultTolerant : ∃ t, EfuseLog oneWord.content 3 t ∧ Clears stuckBurn ∧
    ¬ FaultTolerant stuckBurn oneWord 0#8 0x0E#8 fun _ => 0#8 := by
  refine ⟨oneWordMap, oneWord_log, clears_stuckBurn, fun h => ?_⟩
  rcases h.1 8 with hsame | hin
  · exact absurd hsame (by decide +kernel)
  · exact absurd hin.1 (by decide)

end Rtl8723du
