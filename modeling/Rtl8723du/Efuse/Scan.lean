import Rtl8723du.Efuse.Read
import Rtl8723du.Lib.Walk

/-!
# Two walks over the log of the efuse

`hal_ReadEFuse_WiFi` and `hal_EfuseGetCurrentSize_WiFi` go over the same log.  They differ
at an extended header whose words are all disabled: the reader skips its second byte, the
scan takes that byte for the next header.  `efuse_currentSize_iff` says when the scan finds
the end of the log nevertheless.
-/

namespace Rtl8723du

open Lib

variable (efuse : EfuseContent)

/-! ### The walk of the reader -/

/-- Where the packet at `a` ends. -/
def packetEnd (a : ℕ) : ℕ :=
  if extHeader (efuse a) then
    if allWordsDisabled (efuse (a + 1)) then a + 2
    else a + 2 + efuseCalculateWordCnts (efuse (a + 1) &&& 0x0F#8) * 2
  else a + 1 + efuseCalculateWordCnts (efuse a &&& 0x0F#8) * 2

/-- The map with the words of the packet at `a`. -/
def applyPacket (efuseTbl : EfuseMap) (a : ℕ) : EfuseMap :=
  if extHeader (efuse a) then
    if allWordsDisabled (efuse (a + 1)) then efuseTbl
    else
      (readData efuse (extHeaderOffset (efuse a) (efuse (a + 1))).toNat
        (efuse (a + 1) &&& 0x0F#8) (a + 2) efuseTbl).2
  else
    (readData efuse (headerOffset (efuse a)).toNat (efuse a &&& 0x0F#8) (a + 1) efuseTbl).2

/-- A header is read at `a`. -/
def HeaderAt (a : ℕ) : Prop := a < efuseRealContentLen ∧ efuse a ≠ 0xFF#8

instance (a : ℕ) : Decidable (HeaderAt efuse a) := by
  unfold HeaderAt
  infer_instance

/-- The step of the reader from packet to packet. -/
def readNext (a : ℕ) : Option ℕ := if HeaderAt efuse a then some (packetEnd efuse a) else none

/-- The step of the scan. -/
def scanNext (a : ℕ) : Option ℕ := if HeaderAt efuse a then some (sizeNext efuse a) else none

/-- The addresses of the headers that the reader finds. -/
def headers : List ℕ := Walk.records (readNext efuse) efuseRealContentLen 0

variable {efuse}

lemma readNext_eq_some {a b : ℕ} :
    readNext efuse a = some b ↔ HeaderAt efuse a ∧ packetEnd efuse a = b := by
  rw [readNext]
  split <;> simp_all

lemma readNext_eq_none {a : ℕ} : readNext efuse a = none ↔ ¬ HeaderAt efuse a := by
  rw [readNext]
  split <;> simp_all

lemma lt_packetEnd (efuse : EfuseContent) (a : ℕ) : a < packetEnd efuse a := by
  unfold packetEnd
  split
  · split <;> omega
  · omega

lemma lt_sizeNext (efuse : EfuseContent) (a : ℕ) : a < sizeNext efuse a := by
  unfold sizeNext
  split
  · split <;> omega
  · omega

lemma readNext_forward (efuse : EfuseContent) :
    Walk.Forward (readNext efuse) efuseRealContentLen where
  lt := by
    intro a b h
    rw [← (readNext_eq_some.1 h).2]
    exact lt_packetEnd efuse a
  lt_limit := fun h => (readNext_eq_some.1 h).1.1

lemma scanNext_forward (efuse : EfuseContent) :
    Walk.Forward (scanNext efuse) efuseRealContentLen where
  lt := by
    intro a b h
    rw [scanNext] at h
    split at h
    · obtain rfl := Option.some.inj h
      exact lt_sizeNext efuse a
    · cases h
  lt_limit := by
    intro a b h
    rw [scanNext] at h
    split at h
    · rename_i hheader
      exact hheader.1
    · cases h

lemma foldl_readWord_fst (addr : ℕ) (words : List ℕ) (r : ℕ × EfuseMap) :
    (words.foldl (readWord efuse addr) r).1 = r.1 + words.length * 2 := by
  induction words generalizing r with
  | nil => rfl
  | cons i words ih =>
      rw [List.foldl_cons, ih, List.length_cons]
      show r.1 + 2 + words.length * 2 = _
      omega

/-- The reader goes over as many bytes as the words of a packet have, legal or not. -/
lemma readData_fst (offset : ℕ) (wden : BitVec 8) (a : ℕ) (t : EfuseMap) :
    (readData efuse offset wden a t).1 = a + efuseCalculateWordCnts wden * 2 := by
  unfold readData
  split
  · exact foldl_readWord_fst _ _ _
  · rfl

/-- A turn of the loop of the reader goes over one packet. -/
lemma readLoop_succ {fuel a : ℕ} {t : EfuseMap} (h : HeaderAt efuse a) :
    readLoop efuse (fuel + 1) a t =
      readLoop efuse fuel (packetEnd efuse a) (applyPacket efuse t a) := by
  have havail : availableEfuseAddr a = true := by simpa [availableEfuseAddr] using h.1
  simp only [readLoop, havail, not_true_eq_false, if_false, h.2, packetEnd, applyPacket,
    readData_fst]
  split
  · split <;> rfl
  · rfl

lemma readLoop_of_not_headerAt {fuel a : ℕ} {t : EfuseMap} (hfuel : efuseRealContentLen ≤ a + fuel)
    (h : ¬ HeaderAt efuse a) :
    readLoop efuse fuel a t = ⟨a, decide (a < efuseRealContentLen), t⟩ := by
  by_cases ha : a < efuseRealContentLen
  · obtain ⟨fuel, rfl⟩ : ∃ k, fuel = k + 1 := ⟨fuel - 1, by omega⟩
    have hff : efuse a = 0xFF#8 := by
      by_contra hne
      exact h ⟨ha, hne⟩
    have havail : availableEfuseAddr a = true := by simpa [availableEfuseAddr] using ha
    simp only [readLoop, havail, not_true_eq_false, if_false, hff, if_true]
    simp [ha]
  · have havail : availableEfuseAddr a = false := by simpa [availableEfuseAddr] using ha
    cases fuel <;> simp [readLoop, havail, ha]

/-- The loop of the reader is its walk: it stops where the walk stops, and the map has the
words of all packets. -/
lemma readLoop_eq (a : ℕ) : ∀ {fuel : ℕ} (t : EfuseMap), efuseRealContentLen ≤ a + fuel →
    readLoop efuse fuel a t =
      ⟨Walk.stop (readNext efuse) efuseRealContentLen a,
        decide (Walk.stop (readNext efuse) efuseRealContentLen a < efuseRealContentLen),
        (Walk.records (readNext efuse) efuseRealContentLen a).foldl (applyPacket efuse) t⟩ := by
  induction a using (readNext_forward efuse).induction with
  | none a hnone =>
      intro fuel t hfuel
      rw [readLoop_of_not_headerAt hfuel (readNext_eq_none.1 hnone), Walk.stop_of_none hnone,
        Walk.records_of_none hnone]
      rfl
  | some a b hsome ih =>
      intro fuel t hfuel
      obtain ⟨hheader, rfl⟩ := readNext_eq_some.1 hsome
      have hlt := lt_packetEnd efuse a
      have hlimit := hheader.1
      obtain ⟨fuel, rfl⟩ : ∃ k, fuel = k + 1 := ⟨fuel - 1, by omega⟩
      rw [readLoop_succ hheader, ih _ (by omega), (readNext_forward efuse).stop_of_some hsome,
        (readNext_forward efuse).records_of_some hsome, List.foldl_cons]

lemma readEnd_eq (efuse : EfuseContent) :
    readEnd efuse =
      ⟨Walk.stop (readNext efuse) efuseRealContentLen 0,
        decide (Walk.stop (readNext efuse) efuseRealContentLen 0 < efuseRealContentLen),
        (headers efuse).foldl (applyPacket efuse) fun _ => 0xFF#8⟩ :=
  readLoop_eq 0 _ (by omega)

/-- The loop of the scan is its walk, once it has begun at 0. -/
lemma sizeLoop_eq (a : ℕ) : ∀ {fuel : ℕ} (count : ℕ), efuseRealContentLen ≤ a + fuel →
    sizeLoop efuse fuel { efuseAddr := a, startAddr := 0, count } =
      some (Walk.stop (scanNext efuse) efuseRealContentLen a) := by
  induction a using (scanNext_forward efuse).induction with
  | none a hnone =>
      intro fuel count hfuel
      rw [Walk.stop_of_none hnone]
      have hheader : ¬ HeaderAt efuse a := by
        intro h
        simp [scanNext, h] at hnone
      cases fuel with
      | zero => rfl
      | succ fuel =>
          by_cases ha : a < efuseRealContentLen
          · have hff : efuse a = 0xFF#8 := by
              by_contra hne
              exact hheader ⟨ha, hne⟩
            have havail : availableEfuseAddr a = true := by simpa [availableEfuseAddr] using ha
            simp [sizeLoop, havail, hff]
          · have havail : availableEfuseAddr a = false := by simpa [availableEfuseAddr] using ha
            simp [sizeLoop, havail]
  | some a b hsome ih =>
      intro fuel count hfuel
      have hlt := (scanNext_forward efuse).lt hsome
      have hlimit := (scanNext_forward efuse).lt_limit hsome
      obtain ⟨fuel, rfl⟩ : ∃ k, fuel = k + 1 := ⟨fuel - 1, by omega⟩
      have hrest := ih count (show efuseRealContentLen ≤ b + fuel by omega)
      rw [(scanNext_forward efuse).stop_of_some hsome, ← hrest]
      have hheader : HeaderAt efuse a := by
        by_contra h
        simp [scanNext, h] at hsome
      obtain rfl : sizeNext efuse a = b := by simpa [scanNext, hheader] using hsome
      have havail : availableEfuseAddr a = true := by simpa [availableEfuseAddr] using hlimit
      simp [sizeLoop, havail, hheader.2]

/-- A scan from address 0. -/
lemma halEfuseGetCurrentSizeWiFi_zero (efuse : EfuseContent) :
    (halEfuseGetCurrentSizeWiFi efuse 0).1 =
      Walk.stop (scanNext efuse) efuseRealContentLen 0 := by
  rw [halEfuseGetCurrentSizeWiFi, sizeLoop_eq 0 0 (by omega)]

/-! ### Where the walks part -/

lemma efuseCalculateWordCnts_of_allWordsDisabled :
    ∀ b : BitVec 8, allWordsDisabled b = true → efuseCalculateWordCnts (b &&& 0x0F#8) = 0 := by
  decide

lemma extHeader_eq_false_of_not_allWordsDisabled :
    ∀ b : BitVec 8, allWordsDisabled b = false → extHeader b = false ∧ b ≠ 0xFF#8 := by
  decide

/-- At the extended header at `a`, whose words are all disabled, the scan takes another way
than the reader: its second byte is `0xFF`, or the log has no room for what the scan takes
it for. -/
def PartsAt (efuse : EfuseContent) (a : ℕ) : Prop :=
  extHeader (efuse a) = true ∧ allWordsDisabled (efuse (a + 1)) = true ∧
    (efuse (a + 1) = 0xFF#8 ∨ efuseRealContentLen ≤ a + 1 ∨
      (efuseRealContentLen ≤ a + 2 ∧ extHeader (efuse (a + 1)) = true ∧
        allWordsDisabled (efuse (a + 2)) = false))

instance (efuse : EfuseContent) (a : ℕ) : Decidable (PartsAt efuse a) := by
  unfold PartsAt
  infer_instance

lemma scanNext_of_headerAt {a : ℕ} (h : HeaderAt efuse a) :
    scanNext efuse a = some (sizeNext efuse a) := by
  simp [scanNext, h]

lemma scanNext_of_not_headerAt {a : ℕ} (h : ¬ HeaderAt efuse a) : scanNext efuse a = none := by
  simp [scanNext, h]

/-- Both walks go over a packet in the same way if they do not skip an extended header. -/
lemma sizeNext_eq_packetEnd {a : ℕ}
    (h : ¬ (extHeader (efuse a) = true ∧ allWordsDisabled (efuse (a + 1)) = true)) :
    sizeNext efuse a = packetEnd efuse a := by
  unfold sizeNext packetEnd
  split
  · rename_i hext
    rw [if_neg fun hdis => h ⟨hext, hdis⟩, if_neg fun hdis => h ⟨hext, hdis⟩]
    omega
  · omega

/-- From where the two walks are together, they stop together if and only if they do not
part. -/
lemma scan_stop_eq_iff (efuse : EfuseContent) (a : ℕ) :
    (Walk.stop (scanNext efuse) efuseRealContentLen a =
        Walk.stop (readNext efuse) efuseRealContentLen a ↔
      ∀ x ∈ Walk.records (readNext efuse) efuseRealContentLen a, ¬ PartsAt efuse x) ∧
    ∀ b, readNext efuse a = some b →
      (Walk.stop (scanNext efuse) efuseRealContentLen b =
          Walk.stop (readNext efuse) efuseRealContentLen b ↔
        ∀ x ∈ Walk.records (readNext efuse) efuseRealContentLen b, ¬ PartsAt efuse x) := by
  induction a using (readNext_forward efuse).induction with
  | none a hnone =>
      refine ⟨?_, fun b hb => by rw [hnone] at hb; cases hb⟩
      rw [Walk.stop_of_none hnone, Walk.records_of_none hnone,
        Walk.stop_of_none (scanNext_of_not_headerAt (readNext_eq_none.1 hnone))]
      simp
  | some a b hsome ih =>
      obtain ⟨hb, hnext⟩ := ih
      refine ⟨?_, fun b' hb' => by rw [hsome] at hb'; rw [← Option.some.inj hb']; exact hb⟩
      obtain ⟨hheader, hend⟩ := readNext_eq_some.1 hsome
      have hscan := scanNext_of_headerAt hheader
      -- once the scan is at `b`, both go on from there
      have together : ¬ PartsAt efuse a →
          Walk.stop (scanNext efuse) efuseRealContentLen a =
            Walk.stop (scanNext efuse) efuseRealContentLen b →
          (Walk.stop (scanNext efuse) efuseRealContentLen a =
              Walk.stop (readNext efuse) efuseRealContentLen a ↔
            ∀ x ∈ Walk.records (readNext efuse) efuseRealContentLen a, ¬ PartsAt efuse x) := by
        intro hparts hstop
        rw [hstop, (readNext_forward efuse).stop_of_some hsome,
          (readNext_forward efuse).records_of_some hsome, hb, List.forall_mem_cons]
        exact ⟨fun h => ⟨hparts, h⟩, And.right⟩
      have apart : PartsAt efuse a →
          Walk.stop (scanNext efuse) efuseRealContentLen a ≠
            Walk.stop (readNext efuse) efuseRealContentLen a →
          (Walk.stop (scanNext efuse) efuseRealContentLen a =
              Walk.stop (readNext efuse) efuseRealContentLen a ↔
            ∀ x ∈ Walk.records (readNext efuse) efuseRealContentLen a, ¬ PartsAt efuse x) := by
        intro hparts hne
        rw [(readNext_forward efuse).records_of_some hsome]
        exact ⟨fun h => absurd h hne, fun h => absurd hparts (h a List.mem_cons_self)⟩
      by_cases hskip : extHeader (efuse a) = true ∧ allWordsDisabled (efuse (a + 1)) = true
      · obtain ⟨hext, hdis⟩ := hskip
        obtain rfl : b = a + 2 := by
          rw [← hend, packetEnd, if_pos hext, if_pos hdis]
        have hsize : sizeNext efuse a = a + 1 := by rw [sizeNext, if_pos hext, if_pos hdis]
        rw [hsize] at hscan
        have hstop := (scanNext_forward efuse).stop_of_some hscan
        have hread : a + 2 ≤ Walk.stop (readNext efuse) efuseRealContentLen a := by
          rw [(readNext_forward efuse).stop_of_some hsome]
          exact (readNext_forward efuse).le_stop _
        by_cases hheader' : HeaderAt efuse (a + 1)
        · -- the scan takes the second byte for a header
          have hscan' := scanNext_of_headerAt hheader'
          have hstop' := (scanNext_forward efuse).stop_of_some hscan'
          by_cases hfar : extHeader (efuse (a + 1)) = true ∧
              ¬ allWordsDisabled (efuse (a + 2)) = true
          · -- an extended one that goes on with the next header of the log
            obtain ⟨hext', hdis'⟩ := hfar
            have hdis' : allWordsDisabled (efuse (a + 2)) = false := by simpa using hdis'
            obtain ⟨hnext', hne'⟩ := extHeader_eq_false_of_not_allWordsDisabled _ hdis'
            have hsize' : sizeNext efuse (a + 1) =
                a + 2 + 1 + efuseCalculateWordCnts (efuse (a + 2) &&& 0x0F#8) * 2 := by
              rw [sizeNext, if_pos hext', show a + 1 + 1 = a + 2 from rfl, if_neg (by simp [hdis'])]
              omega
            by_cases hroom : efuseRealContentLen ≤ a + 2
            · refine apart ⟨hext, hdis, .inr (.inr ⟨hroom, hext', hdis'⟩)⟩ ?_
              have hscanStop : sizeNext efuse (a + 1) ≤
                  Walk.stop (scanNext efuse) efuseRealContentLen a := by
                rw [hstop, hstop']
                exact (scanNext_forward efuse).le_stop _
              have hreadStop : Walk.stop (readNext efuse) efuseRealContentLen a = a + 2 := by
                rw [(readNext_forward efuse).stop_of_some hsome]
                refine Walk.stop_of_none (readNext_eq_none.2 fun h => ?_)
                have := h.1
                omega
              omega
            · have hheader₂ : HeaderAt efuse (a + 2) := ⟨by omega, hne'⟩
              have hend₂ : packetEnd efuse (a + 2) = sizeNext efuse (a + 1) := by
                rw [packetEnd, if_neg (by simp [hnext']), hsize']
              have hsome₂ : readNext efuse (a + 2) = some (sizeNext efuse (a + 1)) :=
                readNext_eq_some.2 ⟨hheader₂, hend₂⟩
              have hparts : ¬ PartsAt efuse a := by
                rintro ⟨-, -, hff | hlimit | ⟨hlimit, -⟩⟩
                · exact hheader'.2 hff
                · have := hheader'.1
                  omega
                · omega
              have hparts₂ : ¬ PartsAt efuse (a + 2) := fun h => by
                have hext₂ := h.1
                rw [hnext'] at hext₂
                cases hext₂
              rw [hstop, hstop', (readNext_forward efuse).stop_of_some hsome,
                (readNext_forward efuse).stop_of_some hsome₂,
                (readNext_forward efuse).records_of_some hsome,
                (readNext_forward efuse).records_of_some hsome₂, hnext _ hsome₂,
                List.forall_mem_cons, List.forall_mem_cons]
              exact ⟨fun h => ⟨hparts, hparts₂, h⟩, fun h => h.2.2⟩
          · -- one without words, after which it is with the reader again
            have hsize' : sizeNext efuse (a + 1) = a + 2 := by
              rw [sizeNext]
              by_cases hext' : extHeader (efuse (a + 1)) = true
              · have hdis' : allWordsDisabled (efuse (a + 1 + 1)) = true := by
                  by_contra hdis'
                  exact hfar ⟨hext', hdis'⟩
                rw [if_pos hext', if_pos hdis']
              · rw [if_neg hext', efuseCalculateWordCnts_of_allWordsDisabled _ hdis]
            refine together ?_ (by rw [hstop, hstop', hsize'])
            rintro ⟨-, -, hff | hlimit | ⟨-, hext', hdis'⟩⟩
            · exact hheader'.2 hff
            · have := hheader'.1
              omega
            · exact hfar ⟨hext', by simp [hdis']⟩
        · -- the scan stops at the second byte
          have hstop' : Walk.stop (scanNext efuse) efuseRealContentLen (a + 1) = a + 1 :=
            Walk.stop_of_none (scanNext_of_not_headerAt hheader')
          refine apart ⟨hext, hdis, ?_⟩ (by omega)
          by_cases hff : efuse (a + 1) = 0xFF#8
          · exact .inl hff
          · refine .inr (.inl ?_)
            by_contra hlimit
            exact hheader' ⟨by omega, hff⟩
      · rw [sizeNext_eq_packetEnd hskip, hend] at hscan
        exact together (fun h => hskip ⟨h.1, h.2.1⟩) ((scanNext_forward efuse).stop_of_some hscan)

/-- The reader does the same with a log that is the same before the end of the packet. -/
lemma readNext_congr {efuse' : EfuseContent} {a e : ℕ} (h : HeaderAt efuse a)
    (he : packetEnd efuse a ≤ e) (hsame : ∀ x < e, efuse' x = efuse x) :
    readNext efuse' a = readNext efuse a := by
  have hlt := lt_packetEnd efuse a
  have ha := hsame a (by omega)
  have hheader' : HeaderAt efuse' a := by
    rw [HeaderAt, ha]
    exact h
  have hend : packetEnd efuse' a = packetEnd efuse a := by
    unfold packetEnd at he ⊢
    rw [ha]
    split
    · have hnext : efuse' (a + 1) = efuse (a + 1) := by
        refine hsame (a + 1) ?_
        split at he
        · split at he <;> omega
        · contradiction
      rw [hnext]
    · rfl
  rw [readNext_eq_some.2 ⟨hheader', hend⟩, readNext_eq_some.2 ⟨h, rfl⟩]

/-- What is written from the end of the log on, the reader reaches. -/
lemma mem_headers_of_appended {efuse' : EfuseContent} {e : ℕ}
    (he : Walk.stop (readNext efuse) efuseRealContentLen 0 = e)
    (hsame : ∀ x < e, efuse' x = efuse x) (hheader : HeaderAt efuse' e) :
    e ∈ headers efuse' := by
  have hcongr := (readNext_forward efuse).congr (readNext_forward efuse') 0 fun x hx => by
      obtain ⟨y, hy, hle⟩ := (readNext_forward efuse).next_le_stop 0 x hx
      obtain ⟨hx, rfl⟩ := readNext_eq_some.1 hy
      exact readNext_congr hx (hle.trans he.le) hsame
  rw [headers, hcongr.1, he,
    (readNext_forward efuse').records_of_some (readNext_eq_some.2 ⟨hheader, rfl⟩)]
  simp

/-- For every content of the efuse, the scan from address 0 finds the address where the
reader stops if and only if they do not part at any header of the log.  Then the reader
reaches what is written at the address that the scan finds. -/
theorem efuse_currentSize_iff (efuse : EfuseContent) :
    ((halEfuseGetCurrentSizeWiFi efuse 0).1 = (readEnd efuse).addr ↔
      ∀ a ∈ headers efuse, ¬ PartsAt efuse a) ∧
    ((∀ a ∈ headers efuse, ¬ PartsAt efuse a) → ∀ efuse' : EfuseContent,
      (∀ x < (halEfuseGetCurrentSizeWiFi efuse 0).1, efuse' x = efuse x) →
      HeaderAt efuse' (halEfuseGetCurrentSizeWiFi efuse 0).1 →
        (halEfuseGetCurrentSizeWiFi efuse 0).1 ∈ headers efuse') := by
  have hiff := (scan_stop_eq_iff efuse 0).1
  rw [halEfuseGetCurrentSizeWiFi_zero, readEnd_eq]
  refine ⟨hiff, ?_⟩
  intro hparts efuse' hsame hheader
  have hstop := hiff.2 hparts
  exact mem_headers_of_appended hstop.symm hsame hheader

/-- An extended header whose second byte was never written. -/
def unfinishedHeader : EfuseContent := fun a => if a = 0 then 0x0F#8 else 0xFF#8

/-- The scan ends at the second byte of the header, the reader after it. -/
theorem efuse_currentSize_of_unfinishedHeader :
    (halEfuseGetCurrentSizeWiFi unfinishedHeader 0).1 = 1 ∧
      (readEnd unfinishedHeader).addr = 2 := by
  decide +kernel

end Rtl8723du
