import Rtl8723du.Efuse.Scan
import Rtl8723du.Efuse.Write

/-!
# Appending a packet to the log

A log is well formed when the two walks over it do not part and nothing is written between its
end and the reserved bytes (`EfuseLog`).  A packet that `Hal_EfusePgPacketWrite` has written
successfully leaves a well-formed log behind, whose map has the enabled words of the packet in
its section (`halEfusePgPacketWrite_spec`), whatever the hardware made of the single writes.
-/

namespace Rtl8723du

open Lib

/-- A well-formed log that ends at `e` and describes the map `t`. -/
structure EfuseLog (efuse : EfuseContent) (e : ℕ) (t : EfuseMap) : Prop where
  stop : Walk.stop (readNext efuse) efuseRealContentLen 0 = e
  map : (headers efuse).foldl (applyPacket efuse) (fun _ => 0xFF#8) = t
  together : ∀ a ∈ headers efuse, ¬ PartsAt efuse a
  free : ∀ a, e ≤ a → a < availableEfuseBytes → efuse a = 0xFF#8

/-! ### The end of the log -/

lemma EfuseLog.scan_stop {efuse : EfuseContent} {e : ℕ} {t : EfuseMap} (h : EfuseLog efuse e t) :
    Walk.stop (scanNext efuse) efuseRealContentLen 0 = e := by
  rw [(scan_stop_eq_iff efuse 0).1.2 h.together, h.stop]

lemma EfuseLog.end_blank {efuse : EfuseContent} {e : ℕ} {t : EfuseMap} (h : EfuseLog efuse e t)
    (he : e < efuseRealContentLen) : efuse e = 0xFF#8 := by
  have hnone := (readNext_forward efuse).next_stop 0
  rw [h.stop, readNext_eq_none] at hnone
  by_contra hne
  exact hnone ⟨he, hne⟩

lemma EfuseLog.packetEnd_le {efuse : EfuseContent} {e : ℕ} {t : EfuseMap} (h : EfuseLog efuse e t)
    {a : ℕ} (ha : a ∈ headers efuse) : HeaderAt efuse a ∧ packetEnd efuse a ≤ e := by
  obtain ⟨y, hy, hle⟩ := (readNext_forward efuse).next_le_stop 0 a ha
  obtain ⟨ha, rfl⟩ := readNext_eq_some.1 hy
  exact ⟨ha, hle.trans h.stop.le⟩

/-- The length that is noted is one that a scan can start from. -/
def Noted (efuse : EfuseContent) (e efuseBytes : ℕ) : Prop :=
  efuseBytes = 0 ∨ efuseBytes = e ∨ HeaderAt efuse efuseBytes

/-- A turn that finds the first header once more. -/
lemma sizeLoop_again {efuse : EfuseContent} {fuel a count : ℕ} (ha : a ≠ 0)
    (h : HeaderAt efuse a) :
    sizeLoop efuse (fuel + 1) { efuseAddr := a, startAddr := a, count } =
      if count + 1 < 4 then
        if 2 < count + 1 then
          sizeLoop efuse fuel { efuseAddr := 0, startAddr := 0, count := count + 1 }
        else sizeLoop efuse fuel { efuseAddr := a, startAddr := a, count := count + 1 }
      else none := by
  have havail : availableEfuseAddr a = true := by simpa [availableEfuseAddr] using h.1
  rw [sizeLoop, if_neg (by simp [havail]), if_neg h.2, if_pos ⟨ha, rfl⟩]

/-- A scan that starts at a header comes back to 0. -/
lemma sizeLoop_of_headerAt {efuse : EfuseContent} {a : ℕ} (ha : a ≠ 0) (h : HeaderAt efuse a) :
    sizeLoop efuse (efuseRealContentLen + 4) { efuseAddr := a, startAddr := a } =
      some (Walk.stop (scanNext efuse) efuseRealContentLen 0) := by
  rw [sizeLoop_again ha h, if_pos (by decide), if_neg (by decide), sizeLoop_again ha h,
    if_pos (by decide), if_neg (by decide), sizeLoop_again ha h, if_pos (by decide),
    if_pos (by decide)]
  exact sizeLoop_eq 0 3 (by omega)

/-- The scan finds the end of a well-formed log. -/
lemma EfuseLog.currentSize {efuse : EfuseContent} {e : ℕ} {t : EfuseMap} {efuseBytes : ℕ}
    (h : EfuseLog efuse e t) (hn : Noted efuse e efuseBytes) :
    halEfuseGetCurrentSizeWiFi efuse efuseBytes = (e, e) := by
  have hscan := h.scan_stop
  by_cases hzero : efuseBytes = 0
  · subst hzero
    rw [halEfuseGetCurrentSizeWiFi, sizeLoop_eq 0 0 (by omega), hscan]
  · rcases hn with hz | rfl | hheader
    · exact absurd hz hzero
    · rw [halEfuseGetCurrentSizeWiFi]
      by_cases hlimit : efuseBytes < efuseRealContentLen
      · have havail : availableEfuseAddr efuseBytes = true := by
          simpa [availableEfuseAddr] using hlimit
        simp [sizeLoop, havail, h.end_blank hlimit]
      · have havail : availableEfuseAddr efuseBytes = false := by
          simpa [availableEfuseAddr] using hlimit
        simp [sizeLoop, havail]
    · rw [halEfuseGetCurrentSizeWiFi, sizeLoop_of_headerAt hzero hheader, hscan]

/-! ### The words of a packet -/

/-- From the address `a` on, the words `words` of `data` are written. -/
def HoldsWords (efuse : EfuseContent) (data : ℕ → BitVec 8) : ℕ → List ℕ → Prop
  | _, [] => True
  | a, i :: words =>
      efuse a = data (2 * i) ∧ efuse (a + 1) = data (2 * i + 1) ∧
        HoldsWords efuse data (a + 2) words

lemma HoldsWords.congr {efuse : EfuseContent} {data data' : ℕ → BitVec 8} {words : List ℕ} :
    ∀ {a : ℕ}, (∀ i ∈ words, data' (2 * i) = data (2 * i) ∧ data' (2 * i + 1) = data (2 * i + 1)) →
      HoldsWords efuse data a words → HoldsWords efuse data' a words := by
  induction words with
  | nil => exact fun _ _ => trivial
  | cons i words ih =>
      intro a hdata h
      have hi := hdata i List.mem_cons_self
      exact ⟨h.1.trans hi.1.symm, h.2.1.trans hi.2.symm,
        ih (fun j hj => hdata j (List.mem_cons_of_mem i hj)) h.2.2⟩

/-- The reader puts the words into the section at `base`. -/
lemma HoldsWords.foldl_readWord {efuse : EfuseContent} {data : ℕ → BitVec 8} (base : ℕ)
    {words : List ℕ} : ∀ {a : ℕ} (t : EfuseMap), HoldsWords efuse data a words → ∀ p,
      (words.foldl (readWord efuse base) (a, t)).2 p =
        if ∃ i ∈ words, p = base + 2 * i ∨ p = base + 2 * i + 1 then data (p - base) else t p := by
  induction words with
  | nil => simp
  | cons i words ih =>
      intro a t h p
      have hrest := ih (readWord efuse base (a, t) i).2 h.2.2 p
      rw [List.foldl_cons]
      show (words.foldl (readWord efuse base) (a + 2, (readWord efuse base (a, t) i).2)).2 p = _
      rw [hrest]
      by_cases hlater : ∃ j ∈ words, p = base + 2 * j ∨ p = base + 2 * j + 1
      · obtain ⟨j, hj, hp⟩ := hlater
        rw [if_pos ⟨j, hj, hp⟩, if_pos ⟨j, List.mem_cons_of_mem i hj, hp⟩]
      · rw [if_neg hlater]
        by_cases hhere : p = base + 2 * i ∨ p = base + 2 * i + 1
        · rw [if_pos ⟨i, List.mem_cons_self, hhere⟩]
          rcases hhere with rfl | rfl
          · simp [readWord, h.1]
          · have hsub : base + 2 * i + 1 - base = 2 * i + 1 := by omega
            simp [readWord, h.2.1, hsub]
        · have hne : p ≠ base + 2 * i ∧ p ≠ base + 2 * i + 1 := not_or.1 hhere
          have hnot : ¬ ∃ j ∈ i :: words, p = base + 2 * j ∨ p = base + 2 * j + 1 := by
            rintro ⟨j, hj, hp⟩
            rcases List.mem_cons.1 hj with rfl | hj
            · exact hhere hp
            · exact hlater ⟨j, hj, hp⟩
          rw [if_neg hnot]
          simp [readWord, Function.update_of_ne hne.1, Function.update_of_ne hne.2]

variable {burn : Burn}

lemma writeWord_frame (data : ℕ → BitVec 8) (r : WordWrite) (i : ℕ) {x : ℕ}
    (hx : x < r.startAddr ∨ r.startAddr + 2 ≤ x) :
    (writeWord burn data r i).efuse.content x = r.efuse.content x := by
  have h₀ : x ≠ r.startAddr := by omega
  have h₁ : x ≠ r.startAddr + 1 := by omega
  simp [writeWord, efuseOneByteWrite, Function.update_of_ne h₀, Function.update_of_ne h₁]

/-- Words that were written well are there, and nothing else has changed. -/
lemma foldl_writeWord (burn : Burn) (data : ℕ → BitVec 8) (words : List ℕ) :
    ∀ r : WordWrite,
    ((words.foldl (writeWord burn data) r).good = true →
      r.good = true ∧
        HoldsWords (words.foldl (writeWord burn data) r).efuse.content data r.startAddr words) ∧
    ∀ x, x < r.startAddr ∨ r.startAddr + words.length * 2 ≤ x →
      (words.foldl (writeWord burn data) r).efuse.content x = r.efuse.content x := by
  induction words with
  | nil => exact fun r => ⟨fun h => ⟨h, trivial⟩, fun _ _ => rfl⟩
  | cons i words ih =>
      intro r
      obtain ⟨hgood, hframe⟩ := ih (writeWord burn data r i)
      have hnext : (writeWord burn data r i).startAddr = r.startAddr + 2 := rfl
      rw [hnext] at hgood hframe
      constructor
      · intro h
        obtain ⟨hgood, hrest⟩ := hgood h
        simp only [writeWord, Bool.and_eq_true, beq_iff_eq] at hgood
        obtain ⟨⟨hbefore, hfirst⟩, hsecond⟩ := hgood
        refine ⟨hbefore, ?_, ?_, hrest⟩
        · rw [List.foldl_cons, hframe r.startAddr (by omega)]
          exact hfirst
        · rw [List.foldl_cons, hframe (r.startAddr + 1) (by omega)]
          exact hsecond
      · intro x hx
        rw [List.length_cons] at hx
        rw [List.foldl_cons, hframe x (by omega), writeWord_frame data r i (by omega)]

lemma foldl_writeWord_efuseBytes (data : ℕ → BitVec 8) (words : List ℕ) : ∀ r : WordWrite,
    (words.foldl (writeWord burn data) r).efuse.efuseBytes = r.efuse.efuseBytes := by
  induction words with
  | nil => exact fun _ => rfl
  | cons i words ih => exact fun r => ih (writeWord burn data r i)

/-- The words of a packet are those of the section. -/
lemma HoldsWords.constructed {efuse : EfuseContent} {wordEn : BitVec 8} {pData : ℕ → BitVec 8}
    {a : ℕ}
    (h : HoldsWords efuse (halEfuseConstructPGPkt wordEn pData) a (enabledWords wordEn)) :
    HoldsWords efuse pData a (enabledWords wordEn) := by
  refine h.congr fun i hi => ?_
  have hbit : wordEn.getLsbD i = false := by simpa using (List.mem_filter.1 hi).2
  have hhalf : (2 * i + 1) / 2 = i := by omega
  constructor <;> simp [halEfuseConstructPGPkt, hbit, hhalf]

/-! ### The header -/

lemma writeHeaderByte_spec (burn : Burn) (addr : ℕ) (pgHeader : BitVec 8) (tries : ℕ) : ∀ s : Efuse,
    ((writeHeaderByte burn addr pgHeader tries s).1 = true →
      (writeHeaderByte burn addr pgHeader tries s).2.content addr = pgHeader) ∧
    (writeHeaderByte burn addr pgHeader tries s).2.efuseBytes = s.efuseBytes ∧
    ∀ x, x ≠ addr →
      (writeHeaderByte burn addr pgHeader tries s).2.content x = s.content x := by
  induction tries with
  | zero => exact fun s => ⟨fun h => (Bool.false_ne_true h).elim, rfl, fun _ _ => rfl⟩
  | succ tries ih =>
      intro s
      have hone : ∀ x, x ≠ addr →
          (efuseOneByteWrite burn s addr pgHeader).content x = s.content x := fun x hx => by
        simp [efuseOneByteWrite, Function.update_of_ne hx]
      rw [writeHeaderByte]
      by_cases hff : (efuseOneByteWrite burn s addr pgHeader).content addr ≠ 0xFF#8
      · rw [if_pos hff]
        exact ⟨fun h => by simpa using h, rfl, hone⟩
      · rw [if_neg hff]
        obtain ⟨hgood, hbytes, hframe⟩ := ih (efuseOneByteWrite burn s addr pgHeader)
        exact ⟨hgood, hbytes, fun x hx => (hframe x hx).trans (hone x hx)⟩

/-- A header for the section `offset` and the words of `wordEn` is written at `a`; its last
byte is at `last`. -/
def HoldsHeader (efuse : EfuseContent) (a last : ℕ) (offset wordEn : BitVec 8) : Prop :=
  if efuseMaxSectionBase ≤ offset then
    last = a + 1 ∧ efuse a = ((offset &&& 0x07#8) <<< 5) ||| 0x0F#8 ∧
      efuse (a + 1) = ((offset &&& 0x78#8) <<< 1) ||| wordEn
  else last = a ∧ efuse a = ((offset <<< 4) &&& 0xf0#8) ||| wordEn

lemma HoldsHeader.bounds {efuse : EfuseContent} {a last : ℕ} {offset wordEn : BitVec 8}
    (h : HoldsHeader efuse a last offset wordEn) : a ≤ last ∧ last ≤ a + 1 := by
  unfold HoldsHeader at h
  split at h
  · obtain ⟨rfl, -⟩ := h
    exact ⟨Nat.le_succ a, le_rfl⟩
  · obtain ⟨rfl, -⟩ := h
    exact ⟨le_rfl, Nat.le_succ last⟩

lemma HoldsHeader.congr {efuse efuse' : EfuseContent} {a last : ℕ} {offset wordEn : BitVec 8}
    (h : HoldsHeader efuse a last offset wordEn) (hsame : ∀ x ≤ last, efuse' x = efuse x) :
    HoldsHeader efuse' a last offset wordEn := by
  unfold HoldsHeader at h ⊢
  split at h
  · obtain ⟨rfl, hfirst, hsecond⟩ := h
    rw [if_pos ‹_›, hsame a (Nat.le_succ a), hsame (a + 1) le_rfl]
    exact ⟨rfl, hfirst, hsecond⟩
  · obtain ⟨rfl, hfirst⟩ := h
    rw [if_neg ‹_›, hsame last le_rfl]
    exact ⟨rfl, hfirst⟩

lemma halEfusePgPacketWriteHeader_spec {s s' : Efuse} {a last : ℕ} {offset wordEn : BitVec 8}
    (h : halEfusePgPacketWriteHeader burn s a offset wordEn = (some last, s')) :
    HoldsHeader s'.content a last offset wordEn ∧ s'.efuseBytes = s.efuseBytes ∧
      ∀ x, x < a ∨ last < x → s'.content x = s.content x := by
  unfold halEfusePgPacketWriteHeader at h
  unfold HoldsHeader
  by_cases hbase : efuseMaxSectionBase ≤ offset
  · rw [if_pos hbase] at h ⊢
    by_cases hroom : availableEfuseBytes ≤ a
    · rw [if_pos hroom] at h
      cases h
    · rw [if_neg hroom] at h
      obtain ⟨hgood, hbytes, hframe⟩ := writeHeaderByte_spec burn a
        (((offset &&& 0x07#8) <<< 5) ||| 0x0F#8) headerTries s
      generalize writeHeaderByte burn a (((offset &&& 0x07#8) <<< 5) ||| 0x0F#8) headerTries s =
        r at h hgood hbytes hframe
      cases hr : r.1 with
      | false => simp [hr] at h
      | true =>
          simp only [hr, if_true] at h
          obtain ⟨hgood', hbytes', hframe'⟩ := writeHeaderByte_spec burn (a + 1)
            (((offset &&& 0x78#8) <<< 1) ||| wordEn) headerTries r.2
          generalize writeHeaderByte burn (a + 1) (((offset &&& 0x78#8) <<< 1) ||| wordEn)
            headerTries r.2 = r' at h hgood' hbytes' hframe'
          simp only [Prod.mk.injEq] at h
          obtain ⟨hlast, rfl⟩ := h
          cases hr' : r'.1 with
          | false => simp [hr'] at hlast
          | true =>
              obtain rfl : a + 1 = last := by simpa [hr'] using hlast
              refine ⟨⟨rfl, ?_, hgood' hr'⟩, hbytes'.trans hbytes, ?_⟩
              · rw [hframe' a (by omega)]
                exact hgood hr
              · intro x hx
                rw [hframe' x (by omega), hframe x (by omega)]
  · rw [if_neg hbase] at h ⊢
    obtain ⟨hgood, hbytes, hframe⟩ := writeHeaderByte_spec burn a
      (((offset <<< 4) &&& 0xf0#8) ||| wordEn) headerTries s
    generalize writeHeaderByte burn a (((offset <<< 4) &&& 0xf0#8) ||| wordEn) headerTries s =
      r at h hgood hbytes hframe
    simp only [Prod.mk.injEq] at h
    obtain ⟨hlast, rfl⟩ := h
    cases hr : r.1 with
    | false => simp [hr] at hlast
    | true =>
        obtain rfl : a = last := by simpa [hr] using hlast
        exact ⟨⟨rfl, hgood hr⟩, hbytes, fun x hx => hframe x (by omega)⟩

/-- A header of one byte is read as it was meant. -/
lemma shortHeader_decode : ∀ (o w : Fin 16), w ≠ 15 →
    extHeader (((BitVec.ofNat 8 o <<< 4) &&& 0xf0#8) ||| BitVec.ofNat 8 w) = false ∧
      ((BitVec.ofNat 8 o <<< 4) &&& 0xf0#8) ||| BitVec.ofNat 8 w ≠ 0xFF#8 ∧
      headerOffset (((BitVec.ofNat 8 o <<< 4) &&& 0xf0#8) ||| BitVec.ofNat 8 w) =
        BitVec.ofNat 8 o ∧
      (((BitVec.ofNat 8 o <<< 4) &&& 0xf0#8) ||| BitVec.ofNat 8 w) &&& 0x0F#8 =
        BitVec.ofNat 8 w := by
  decide +kernel

/-- A header of two bytes is read as it was meant. -/
lemma longHeader_decode : ∀ (o : Fin 64) (w : Fin 16), w ≠ 15 →
    extHeader (((BitVec.ofNat 8 o &&& 0x07#8) <<< 5) ||| 0x0F#8) = true ∧
      ((BitVec.ofNat 8 o &&& 0x07#8) <<< 5) ||| 0x0F#8 ≠ 0xFF#8 ∧
      allWordsDisabled (((BitVec.ofNat 8 o &&& 0x78#8) <<< 1) ||| BitVec.ofNat 8 w) = false ∧
      extHeaderOffset (((BitVec.ofNat 8 o &&& 0x07#8) <<< 5) ||| 0x0F#8)
        (((BitVec.ofNat 8 o &&& 0x78#8) <<< 1) ||| BitVec.ofNat 8 w) = BitVec.ofNat 8 o ∧
      (((BitVec.ofNat 8 o &&& 0x78#8) <<< 1) ||| BitVec.ofNat 8 w) &&& 0x0F#8 =
        BitVec.ofNat 8 w := by
  decide +kernel

lemma shortHeader_read {offset wordEn : BitVec 8} (hoff : offset.toNat < 16)
    (hword : wordEn.toNat < 15) :
    extHeader (((offset <<< 4) &&& 0xf0#8) ||| wordEn) = false ∧
      ((offset <<< 4) &&& 0xf0#8) ||| wordEn ≠ 0xFF#8 ∧
      headerOffset (((offset <<< 4) &&& 0xf0#8) ||| wordEn) = offset ∧
      (((offset <<< 4) &&& 0xf0#8) ||| wordEn) &&& 0x0F#8 = wordEn := by
  have hread := shortHeader_decode ⟨offset.toNat, hoff⟩ ⟨wordEn.toNat, by omega⟩
    (by simp [Fin.ext_iff]; omega)
  simpa only [BitVec.ofNat_toNat, BitVec.setWidth_eq] using hread

lemma longHeader_read {offset wordEn : BitVec 8} (hoff : offset.toNat < efuseMaxSection)
    (hword : wordEn.toNat < 15) :
    extHeader (((offset &&& 0x07#8) <<< 5) ||| 0x0F#8) = true ∧
      ((offset &&& 0x07#8) <<< 5) ||| 0x0F#8 ≠ 0xFF#8 ∧
      allWordsDisabled (((offset &&& 0x78#8) <<< 1) ||| wordEn) = false ∧
      extHeaderOffset (((offset &&& 0x07#8) <<< 5) ||| 0x0F#8)
        (((offset &&& 0x78#8) <<< 1) ||| wordEn) = offset ∧
      (((offset &&& 0x78#8) <<< 1) ||| wordEn) &&& 0x0F#8 = wordEn := by
  have hread := longHeader_decode ⟨offset.toNat, hoff⟩ ⟨wordEn.toNat, by omega⟩
    (by simp [Fin.ext_iff]; omega)
  simpa only [BitVec.ofNat_toNat, BitVec.setWidth_eq] using hread

lemma toNat_lt_of_short {offset : BitVec 8} (h : ¬ efuseMaxSectionBase ≤ offset) :
    offset.toNat < 16 := by
  rw [BitVec.le_def] at h
  simpa using h

/-- What the reader finds at a header that was written. -/
lemma HoldsHeader.read {efuse : EfuseContent} {a last : ℕ} {offset wordEn : BitVec 8}
    (h : HoldsHeader efuse a last offset wordEn) (hoff : offset.toNat < efuseMaxSection)
    (hword : wordEn.toNat < 15) :
    efuse a ≠ 0xFF#8 ∧ ¬ PartsAt efuse a ∧ a ≤ last ∧ last ≤ a + 1 ∧
      packetEnd efuse a = last + 1 + efuseCalculateWordCnts wordEn * 2 ∧
      ∀ t, applyPacket efuse t a = (readData efuse offset.toNat wordEn (last + 1) t).2 := by
  unfold HoldsHeader at h
  by_cases hbase : efuseMaxSectionBase ≤ offset
  · rw [if_pos hbase] at h
    obtain ⟨rfl, hfirst, hsecond⟩ := h
    obtain ⟨hext, hff, hdis, hoffset, hwords⟩ := longHeader_read hoff hword
    rw [← hfirst] at hext hff hoffset
    rw [← hsecond] at hdis hoffset hwords
    refine ⟨hff, fun hparts => ?_, by omega, le_rfl, ?_, fun t => ?_⟩
    · have hdis' := hparts.2.1
      rw [hdis] at hdis'
      cases hdis'
    · rw [packetEnd, if_pos hext, if_neg (by simp [hdis]), hwords]
    · rw [applyPacket, if_pos hext, if_neg (by simp [hdis]), hoffset, hwords]
  · rw [if_neg hbase] at h
    obtain ⟨rfl, hfirst⟩ := h
    obtain ⟨hext, hff, hoffset, hwords⟩ := shortHeader_read (toNat_lt_of_short hbase) hword
    rw [← hfirst] at hext hff hoffset hwords
    refine ⟨hff, fun hparts => ?_, le_rfl, by omega, ?_, fun t => ?_⟩
    · have hext' := hparts.1
      rw [hext] at hext'
      cases hext'
    · rw [packetEnd, if_neg (by simp [hext]), hwords]
    · rw [applyPacket, if_neg (by simp [hext]), hoffset, hwords]

/-! ### The packet -/

/-- The map `t` with the words of a packet for the section `offset`. -/
def withPacket (offset : ℕ) (wordEn : BitVec 8) (pData : ℕ → BitVec 8) (t : EfuseMap) : EfuseMap :=
  fun p =>
    if ∃ i ∈ enabledWords wordEn,
        p = offset * pgpktDataSize + 2 * i ∨ p = offset * pgpktDataSize + 2 * i + 1 then
      pData (p - offset * pgpktDataSize)
    else t p

lemma foldl_readWord_congr {efuse efuse' : EfuseContent} {e : ℕ} (base : ℕ)
    (hsame : ∀ x < e, efuse' x = efuse x) (words : List ℕ) :
    ∀ r : ℕ × EfuseMap, r.1 + words.length * 2 ≤ e →
      words.foldl (readWord efuse' base) r = words.foldl (readWord efuse base) r := by
  induction words with
  | nil => exact fun _ _ => rfl
  | cons i words ih =>
      intro r hr
      rw [List.length_cons] at hr
      have hword : readWord efuse' base r i = readWord efuse base r i := by
        rw [readWord, readWord, hsame r.1 (by omega), hsame (r.1 + 1) (by omega)]
      rw [List.foldl_cons, List.foldl_cons, hword]
      exact ih _ (by simp only [readWord]; omega)

lemma readData_congr {efuse efuse' : EfuseContent} {e : ℕ} (offset : ℕ) (wden : BitVec 8) {a : ℕ}
    (t : EfuseMap) (hsame : ∀ x < e, efuse' x = efuse x)
    (ha : a + efuseCalculateWordCnts wden * 2 ≤ e) :
    readData efuse' offset wden a t = readData efuse offset wden a t := by
  unfold readData
  rw [foldl_readWord_congr _ hsame _ _ ha]

/-- A packet is read in the same way from a log that is the same before its end. -/
lemma applyPacket_congr {efuse efuse' : EfuseContent} {a e : ℕ} (t : EfuseMap)
    (he : packetEnd efuse a ≤ e) (hsame : ∀ x < e, efuse' x = efuse x) :
    applyPacket efuse' t a = applyPacket efuse t a := by
  have hlt := lt_packetEnd efuse a
  have ha := hsame a (by omega)
  unfold packetEnd at he
  unfold applyPacket
  rw [ha]
  by_cases hext : extHeader (efuse a) = true
  · rw [if_pos hext] at he ⊢
    rw [if_pos hext]
    have hnext : a + 1 < e := by split at he <;> omega
    rw [hsame (a + 1) hnext]
    by_cases hdis : allWordsDisabled (efuse (a + 1)) = true
    · rw [if_pos hdis, if_pos hdis]
    · rw [if_neg hdis] at he ⊢
      rw [if_neg hdis, readData_congr _ _ t hsame he]
  · rw [if_neg hext] at he ⊢
    rw [if_neg hext, readData_congr _ _ t hsame he]

/-- Nor do the walks part there, if they did not. -/
lemma PartsAt.of_appended {efuse efuse' : EfuseContent} {a e : ℕ} (he : packetEnd efuse a ≤ e)
    (hlimit : e < efuseRealContentLen) (hsame : ∀ x < e, efuse' x = efuse x)
    (h : PartsAt efuse' a) : PartsAt efuse a := by
  have hlt := lt_packetEnd efuse a
  obtain ⟨hext, hdis, hrest⟩ := h
  rw [hsame a (by omega)] at hext
  have hnext : a + 2 ≤ e := by
    rw [packetEnd, if_pos hext] at he
    split at he <;> omega
  rw [hsame (a + 1) (by omega)] at hdis hrest
  refine ⟨hext, hdis, ?_⟩
  rcases hrest with hff | hend | ⟨hend, -⟩
  · exact .inl hff
  · exact .inr (.inl hend)
  · omega

/-- The bytes that a packet takes. -/
def packetSize (offset wordEn : BitVec 8) : ℕ :=
  efuseCalculateWordCnts wordEn * 2 + if efuseMaxSectionBase ≤ offset then 2 else 1

lemma HoldsHeader.packetSize {efuse : EfuseContent} {a last : ℕ} {offset wordEn : BitVec 8}
    (h : HoldsHeader efuse a last offset wordEn) :
    last + 1 + efuseCalculateWordCnts wordEn * 2 = a + packetSize offset wordEn := by
  unfold HoldsHeader at h
  unfold Rtl8723du.packetSize
  split at h
  · rw [if_pos ‹_›]
    omega
  · rw [if_neg ‹_›]
    omega

/-- What the reader finds when the bytes behind a well-formed log are read as one packet. -/
lemma EfuseLog.read_extended {efuse efuse' : EfuseContent} {e e' : ℕ} {t : EfuseMap}
    (h : EfuseLog efuse e t) (hbefore : ∀ x < e, efuse' x = efuse x) (hat : HeaderAt efuse' e)
    (hend : packetEnd efuse' e = e') (hblank : efuse' e' = 0xFF#8) :
    Walk.stop (readNext efuse') efuseRealContentLen 0 = e' ∧
      headers efuse' = headers efuse ++ [e] ∧
      (headers efuse').foldl (applyPacket efuse') (fun _ => 0xFF#8) = applyPacket efuse' t e := by
  have hold : ∀ a ∈ headers efuse, HeaderAt efuse a ∧ packetEnd efuse a ≤ e :=
    fun a ha => h.packetEnd_le ha
  have hcongr := (readNext_forward efuse).congr (readNext_forward efuse') 0 fun a ha =>
    readNext_congr (hold a ha).1 (hold a ha).2 hbefore
  have hnext : readNext efuse' e = some e' := readNext_eq_some.2 ⟨hat, hend⟩
  have hnone : readNext efuse' e' = none := readNext_eq_none.2 fun hheader => hheader.2 hblank
  have hheaders : headers efuse' = headers efuse ++ [e] := by
    rw [headers, hcongr.1, h.stop, (readNext_forward efuse').records_of_some hnext,
      Walk.records_of_none hnone]
    rfl
  refine ⟨?_, hheaders, ?_⟩
  · rw [hcongr.2, h.stop, (readNext_forward efuse').stop_of_some hnext, Walk.stop_of_none hnone]
  · have hmap : (headers efuse).foldl (applyPacket efuse') (fun _ => 0xFF#8) = t := by
      rw [← h.map]
      exact List.foldl_ext _ _ _ fun t a ha => applyPacket_congr t (hold a ha).2 hbefore
    rw [hheaders, List.foldl_append, hmap]
    rfl

/-- If the walks do not part there, the log is well formed again. -/
lemma EfuseLog.extend {efuse efuse' : EfuseContent} {e e' : ℕ} {t : EfuseMap}
    (h : EfuseLog efuse e t) (hbefore : ∀ x < e, efuse' x = efuse x) (hat : HeaderAt efuse' e)
    (hend : packetEnd efuse' e = e') (hroom : e' < availableEfuseBytes)
    (hfree : ∀ a, e' ≤ a → a < availableEfuseBytes → efuse' a = 0xFF#8)
    (hparts : ¬ PartsAt efuse' e) : EfuseLog efuse' e' (applyPacket efuse' t e) := by
  obtain ⟨hstop, hheaders, hmap⟩ := h.read_extended hbefore hat hend (hfree e' le_rfl hroom)
  refine ⟨hstop, hmap, ?_, hfree⟩
  intro a ha
  rw [hheaders, List.mem_append, List.mem_singleton] at ha
  rcases ha with ha | rfl
  · exact fun hparts => h.together a ha (hparts.of_appended (h.packetEnd_le ha).2 hat.1 hbefore)
  · exact hparts

/-- A packet at the end of a well-formed log makes a longer one, with its words in the map. -/
lemma EfuseLog.append {efuse efuse' : EfuseContent} {e last : ℕ} {t : EfuseMap}
    {offset wordEn : BitVec 8} {pData : ℕ → BitVec 8} (h : EfuseLog efuse e t)
    (hroom : last + 1 + efuseCalculateWordCnts wordEn * 2 < availableEfuseBytes)
    (hoff : offset.toNat < efuseMaxSection) (hword : wordEn.toNat < 15)
    (hbefore : ∀ x < e, efuse' x = efuse x)
    (hheader : HoldsHeader efuse' e last offset wordEn)
    (hwords : HoldsWords efuse' pData (last + 1) (enabledWords wordEn))
    (hafter : ∀ x, last + 1 + efuseCalculateWordCnts wordEn * 2 ≤ x → efuse' x = efuse x) :
    EfuseLog efuse' (last + 1 + efuseCalculateWordCnts wordEn * 2)
        (withPacket offset.toNat wordEn pData t) ∧
      HeaderAt efuse' e := by
  obtain ⟨hff, hparts, hle, hge, hend, happly⟩ := hheader.read hoff hword
  have hlimit : last + 1 + efuseCalculateWordCnts wordEn * 2 < efuseRealContentLen :=
    hroom.trans (by decide)
  have hat : HeaderAt efuse' e := ⟨by omega, hff⟩
  have hmap : applyPacket efuse' t e = withPacket offset.toNat wordEn pData t := by
    rw [happly t, readData, if_pos hoff]
    ext1 p
    exact hwords.foldl_readWord _ t p
  refine ⟨?_, hat⟩
  rw [← hmap]
  refine h.extend hbefore hat hend hroom (fun a ha hlimit => ?_) hparts
  rw [hafter a ha]
  exact h.free a (by omega) hlimit

/-- A packet is written at the end of the log. -/
lemma EfuseLog.partialWriteCheck {s : Efuse} {e : ℕ} {t : EfuseMap} (h : EfuseLog s.content e t)
    (he : e < availableEfuseBytes) :
    halEfusePartialWriteCheck { s with efuseBytes := e } = some e := by
  have hmod : e % efuseRealContentLen = e := Nat.mod_eq_of_lt (he.trans (by decide))
  have hff : s.content e = 0xFF#8 := h.free e le_rfl he
  simp [halEfusePartialWriteCheck, hmod, Nat.not_le_of_lt he, hff]

/-- A packet that is written with success is in the log. -/
lemma halEfusePgPacketWrite_spec {s s' : Efuse} {e : ℕ} {t : EfuseMap}
    {offset wordEn : BitVec 8} {pData : ℕ → BitVec 8} (h : EfuseLog s.content e t)
    (hn : Noted s.content e s.efuseBytes) (hoff : offset.toNat < efuseMaxSection)
    (hword : wordEn.toNat < 15) (hroom : e + packetSize offset wordEn < availableEfuseBytes)
    (hok : halEfusePgPacketWrite burn s offset wordEn pData = (true, s')) :
    EfuseLog s'.content (e + packetSize offset wordEn) (withPacket offset.toNat wordEn pData t) ∧
      Noted s'.content (e + packetSize offset wordEn) s'.efuseBytes := by
  rw [halEfusePgPacketWrite, h.currentSize hn] at hok
  by_cases he : availableEfuseBytes ≤ e
  · simp [he] at hok
  · simp only [if_neg he, h.partialWriteCheck (Nat.lt_of_not_le he)] at hok
    split at hok
    · cases hok
    · rename_i last s₁ hwrite
      obtain ⟨hheader, hbytes, hframe⟩ := halEfusePgPacketWriteHeader_spec hwrite
      obtain ⟨hgood, hrest⟩ := foldl_writeWord burn
        (halEfuseConstructPGPkt wordEn pData) (enabledWords wordEn) ⟨s₁, last + 1, true⟩
      obtain ⟨hallGood, rfl⟩ := Prod.mk.inj hok
      obtain ⟨hle, hge⟩ := hheader.bounds
      have hsame : ∀ x ≤ last, ((enabledWords wordEn).foldl
          (writeWord burn (halEfuseConstructPGPkt wordEn pData)) ⟨s₁, last + 1, true⟩).efuse.content
            x = s₁.content x := fun x hx => hrest x (.inl (Nat.lt_succ_of_le hx))
      have hwords := (hgood hallGood).2.constructed
      rw [← hheader.packetSize] at hroom ⊢
      obtain ⟨hlog, hat⟩ := h.append hroom hoff hword
        (fun x hx => (hsame x (by omega)).trans (hframe x (.inl hx)))
        (hheader.congr hsame) hwords
        (fun x hx => (hrest x (.inr hx)).trans (hframe x (.inr (by omega))))
      refine ⟨hlog, .inr (.inr ?_)⟩
      rw [foldl_writeWord_efuseBytes, hbytes]
      exact hat

end Rtl8723du
