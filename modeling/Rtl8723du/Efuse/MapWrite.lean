import Rtl8723du.Efuse.Append

/-!
# The logical map before and after a write

`rtw_efuse_map_write` goes over the sections of the range from front to back.  An inner loop
finds out which words of a section differ (`SectionInv`); while the outer one runs, the map of
the log is the wanted one on all sections that have been done, and the old one on the rest
(`Written`).  So a successful write leaves the wanted map behind.
-/

namespace Rtl8723du

open Lib

variable {efuse map : EfuseMap} {addr cnts idx offset : ℕ}

/-! ### One section -/

/-- The inner loop at the byte `i` of the section `offset`. -/
structure SectionInv (efuse map : EfuseMap) (addr cnts offset i : ℕ)
    (r : ℕ × BitVec 8 × (ℕ → BitVec 8)) : Prop where
  idx : r.1 = min cnts (offset * pgpktDataSize + i - addr)
  ge : addr ≤ offset * pgpktDataSize + i
  word_lt : r.2.1.toNat < 16
  same : ∀ x < i, r.2.1.getLsbD (x / 2) = true →
    efuse (offset * pgpktDataSize + x) = map (offset * pgpktDataSize + x)
  done : ∀ x < i, r.2.2 x = efuse (offset * pgpktDataSize + x)
  rest : ∀ x, i ≤ x → r.2.2 x = map (offset * pgpktDataSize + x)

/-- The new map is the old one outside the range. -/
def SameOutside (efuse map : EfuseMap) (addr cnts : ℕ) : Prop :=
  ∀ p, ¬ (addr ≤ p ∧ p < addr + cnts) → efuse p = map p

/-- A byte that does not differ is done. -/
lemma SectionInv.of_same {i : ℕ} {r : ℕ × BitVec 8 × (ℕ → BitVec 8)} {k : ℕ}
    (h : SectionInv efuse map addr cnts offset i r)
    (hk : k = min cnts (offset * pgpktDataSize + (i + 1) - addr))
    (hi : efuse (offset * pgpktDataSize + i) = map (offset * pgpktDataSize + i)) :
    SectionInv efuse map addr cnts offset (i + 1) (k, r.2.1, r.2.2) where
  idx := hk
  ge := Nat.le_succ_of_le h.ge
  word_lt := h.word_lt
  same := by
    intro x hx hbit
    rcases Nat.lt_succ_iff_lt_or_eq.1 hx with hx | rfl
    · exact h.same x hx hbit
    · exact hi
  done := by
    intro x hx
    rcases Nat.lt_succ_iff_lt_or_eq.1 hx with hx | rfl
    · exact h.done x hx
    · exact (h.rest x le_rfl).trans hi.symm
  rest := fun x hx => h.rest x (Nat.le_of_succ_le hx)

lemma getLsbD_clearBit (w : BitVec 8) (i j : ℕ) :
    (w &&& ~~~(BitVec.twoPow 8 i)).getLsbD j = (w.getLsbD j && !decide (i = j)) := by
  rw [BitVec.getLsbD_and, BitVec.getLsbD_not, BitVec.getLsbD_twoPow]
  by_cases hj : j < 8
  · by_cases hij : i = j
    · subst hij
      simp [hj]
    · simp [hj, hij]
  · simp [BitVec.getLsbD_of_ge w j (by omega)]

lemma SectionInv.step {i : ℕ} {r : ℕ × BitVec 8 × (ℕ → BitVec 8)}
    (hout : SameOutside efuse map addr cnts)
    (h : SectionInv efuse map addr cnts offset i r) :
    SectionInv efuse map addr cnts offset (i + 1) (sectionByte efuse map addr cnts r i) := by
  have hidx := h.idx
  have hge := h.ge
  unfold sectionByte
  by_cases hlt : r.1 < cnts
  · have hpos : addr + r.1 = offset * pgpktDataSize + i := by omega
    rw [if_pos hlt, hpos]
    have hnext : r.1 + 1 = min cnts (offset * pgpktDataSize + (i + 1) - addr) := by omega
    by_cases hdiff : efuse (offset * pgpktDataSize + i) ≠ map (offset * pgpktDataSize + i)
    · rw [if_pos hdiff]
      refine ⟨hnext, Nat.le_succ_of_le hge, ?_, ?_, ?_, ?_⟩
      · exact Nat.lt_of_le_of_lt (by rw [BitVec.toNat_and]; exact Nat.and_le_left) h.word_lt
      · intro x hx hbit
        rw [getLsbD_clearBit, Bool.and_eq_true] at hbit
        have hne : x ≠ i := by
          rintro rfl
          simp at hbit
        exact h.same x (by omega) hbit.1
      · intro x hx
        rcases Nat.lt_succ_iff_lt_or_eq.1 hx with hx | rfl
        · exact (Function.update_of_ne (Nat.ne_of_lt hx) _ _).trans (h.done x hx)
        · exact Function.update_self ..
      · intro x hx
        exact (Function.update_of_ne (by omega) _ _).trans (h.rest x (by omega))
    · rw [if_neg hdiff]
      exact h.of_same hnext (not_not.1 hdiff)
  · rw [if_neg hlt]
    exact h.of_same (by omega) (hout _ fun hin => hlt (by omega))

lemma SectionInv.run (hout : SameOutside efuse map addr cnts) (n : ℕ) :
    ∀ {i : ℕ} {r : ℕ × BitVec 8 × (ℕ → BitVec 8)}, SectionInv efuse map addr cnts offset i r →
      SectionInv efuse map addr cnts offset (i + n)
        ((List.range' i n).foldl (sectionByte efuse map addr cnts) r) := by
  induction n with
  | zero => exact fun h => h
  | succ n ih =>
      intro i r h
      rw [List.range'_succ, List.foldl_cons, ← Nat.succ_add_eq_add_succ]
      exact ih (h.step hout)

/-- The inner loop, from where the outer one has come to. -/
lemma sectionLoop_spec (hout : SameOutside efuse map addr cnts) (hlt : idx < cnts)
    (hidx : idx = min cnts (offset * pgpktDataSize - addr)) (hoff : addr / pgpktDataSize ≤ offset) :
    SectionInv efuse map addr cnts offset pgpktDataSize
      (sectionLoop efuse map addr cnts idx offset) := by
  have hj : offset * pgpktDataSize + (addr + idx) % pgpktDataSize = addr + idx := by
    unfold pgpktDataSize at *
    omega
  have hle : (addr + idx) % pgpktDataSize ≤ pgpktDataSize :=
    Nat.le_of_lt (Nat.mod_lt _ (by decide))
  have hstart : SectionInv efuse map addr cnts offset ((addr + idx) % pgpktDataSize)
      (idx, 0x0F#8, fun i => map (offset * pgpktDataSize + i)) := by
    -- the bytes of the section before `addr + idx` are before the range
    have hbefore : ∀ x < (addr + idx) % pgpktDataSize,
        efuse (offset * pgpktDataSize + x) = map (offset * pgpktDataSize + x) := by
      intro x hx
      refine hout _ fun hin => ?_
      unfold pgpktDataSize at *
      omega
    exact ⟨by omega, by omega, (by decide : (0x0F#8).toNat < 16), fun x hx _ => hbefore x hx,
      fun x hx => (hbefore x hx).symm, fun _ _ => rfl⟩
  have hrun := hstart.run hout (pgpktDataSize - (addr + idx) % pgpktDataSize)
  rwa [Nat.add_sub_cancel' hle] at hrun

lemma mem_enabledWords {wordEn : BitVec 8} {i : ℕ} :
    i ∈ enabledWords wordEn ↔ i < 4 ∧ wordEn.getLsbD i = false := by
  have hmem : i ∈ [0, 1, 2, 3] ↔ i < 4 := List.mem_range (n := 4)
  rw [enabledWords, List.mem_filter, hmem]
  simp

/-- The packet of a section makes it the wanted one. -/
lemma SectionInv.withPacket {r : ℕ × BitVec 8 × (ℕ → BitVec 8)} {t : EfuseMap}
    (h : SectionInv efuse map addr cnts offset pgpktDataSize r)
    (ht : ∀ p, p / pgpktDataSize = offset → t p = map p) (p : ℕ) :
    withPacket offset r.2.1 r.2.2 t p = if p / pgpktDataSize = offset then efuse p else t p := by
  unfold Rtl8723du.withPacket
  by_cases hp : p / pgpktDataSize = offset
  · obtain ⟨x, hx, rfl⟩ : ∃ x < pgpktDataSize, p = offset * pgpktDataSize + x :=
      ⟨p % pgpktDataSize, Nat.mod_lt _ (by decide), by rw [← hp]; exact (Nat.div_add_mod' ..).symm⟩
    have hsub : offset * pgpktDataSize + x - offset * pgpktDataSize = x := by omega
    rw [if_pos hp, hsub]
    split
    · exact h.done x hx
    · rename_i hnot
      rw [ht _ hp]
      refine (h.same x hx ?_).symm
      by_contra hbit
      refine hnot ⟨x / 2, mem_enabledWords.2 ⟨?_, by simpa using hbit⟩, by omega⟩
      have hx : x < 8 := hx
      omega
  · rw [if_neg hp, if_neg]
    rintro ⟨i, hi, hip⟩
    have hlt := (mem_enabledWords.1 hi).1
    apply hp
    unfold pgpktDataSize at *
    omega

/-! ### All sections -/

/-- The outer loop has come to the section `offset`: the log ends at `e`, it has room for the
packets that are still to come, and its map is the wanted one before the section. -/
structure Written (efuse map : EfuseMap) (offset room : ℕ) (s : Efuse) (e : ℕ) : Prop where
  log : ∃ t, EfuseLog s.content e t ∧
    ∀ p < efuseMapLen, t p = if p / pgpktDataSize < offset then efuse p else map p
  noted : Noted s.content e s.efuseBytes
  room_lt : e + room < availableEfuseBytes

variable {burn : Burn} {s s' : Efuse} {e room : ℕ}

/-- A section that does not differ is done. -/
lemma Written.skip (h : Written efuse map offset room s e)
    (hsame : ∀ x < pgpktDataSize,
      efuse (offset * pgpktDataSize + x) = map (offset * pgpktDataSize + x)) :
    Written efuse map (offset + 1) room s e := by
  obtain ⟨t, hlog, ht⟩ := h.log
  refine ⟨⟨t, hlog, fun p hp => ?_⟩, h.noted, h.room_lt⟩
  rw [ht p hp]
  rcases Nat.lt_trichotomy (p / pgpktDataSize) offset with hlt | heq | hgt
  · rw [if_pos hlt, if_pos (Nat.lt_succ_of_lt hlt)]
  · have hpos : offset * pgpktDataSize + p % pgpktDataSize = p := by
      rw [← heq]
      exact Nat.div_add_mod' ..
    have hbyte := hsame (p % pgpktDataSize) (Nat.mod_lt _ (by decide))
    rw [hpos] at hbyte
    rw [if_neg (by omega), if_pos (by omega), hbyte]
  · rw [if_neg (by omega), if_neg (by omega)]

/-- A section whose packet was written is done. -/
lemma Written.packet {r : ℕ × BitVec 8 × (ℕ → BitVec 8)} (hoff : offset < efuseMaxSection)
    (hsec : SectionInv efuse map addr cnts offset pgpktDataSize r) (hne : r.2.1 ≠ 0x0F#8)
    (h : Written efuse map offset (packetSize (BitVec.ofNat 8 offset) r.2.1 + room) s e)
    (hok : halEfusePgPacketWrite burn s (BitVec.ofNat 8 offset) r.2.1 r.2.2 = (true, s')) :
    Written efuse map (offset + 1) room s'
      (e + packetSize (BitVec.ofNat 8 offset) r.2.1) := by
  obtain ⟨t, hlog, ht⟩ := h.log
  have hroom := h.room_lt
  have htoNat : (BitVec.ofNat 8 offset).toNat = offset := by
    have hoff : offset < 64 := hoff
    rw [BitVec.toNat_ofNat]
    omega
  have hword : r.2.1.toNat < 15 := by
    have hlt := hsec.word_lt
    have hne : r.2.1.toNat ≠ 15 := fun h => hne (BitVec.eq_of_toNat_eq h)
    omega
  obtain ⟨hlog', hnoted⟩ := halEfusePgPacketWrite_spec hlog h.noted (by rw [htoNat]; exact hoff)
    hword (by omega) hok
  rw [htoNat] at hlog'
  refine ⟨⟨_, hlog', fun p hp => ?_⟩, hnoted, by omega⟩
  have htold : ∀ q, q / pgpktDataSize = offset → t q = map q := fun q hq => by
    have hq' : q < 512 := by
      have hoff : offset < 64 := hoff
      unfold pgpktDataSize at hq
      omega
    rw [ht q hq', if_neg (by omega)]
  rw [hsec.withPacket htold, ht p hp]
  rcases Nat.lt_trichotomy (p / pgpktDataSize) offset with hlt | heq | hgt
  · rw [if_neg (by omega), if_pos hlt, if_pos (by omega)]
  · rw [if_pos heq, if_pos (by omega)]
  · rw [if_neg (by omega), if_neg (by omega), if_neg (by omega)]

/-- Behind the range there is nothing left to do. -/
lemma Written.finish (hout : SameOutside efuse map addr cnts) (hge : cnts ≤ idx)
    (hidx : idx = min cnts (offset * pgpktDataSize - addr))
    (h : Written efuse map offset room s e) :
    ∃ e t, EfuseLog s.content e t ∧ ∀ p < efuseMapLen, t p = efuse p := by
  obtain ⟨t, hlog, ht⟩ := h.log
  refine ⟨e, t, hlog, fun p hp => ?_⟩
  rw [ht p hp]
  split
  · rfl
  · refine (hout p fun hin => ?_).symm
    unfold pgpktDataSize at *
    omega

/-- If all packets are written, the map of the log is the wanted one. -/
lemma writeLoop_spec (hout : SameOutside efuse map addr cnts)
    (hrange : addr + cnts ≤ efuseMapLen) (fuel : ℕ) :
    ∀ {idx offset : ℕ} {s : Efuse} {e : ℕ}, cnts ≤ idx + fuel →
      idx = min cnts (offset * pgpktDataSize - addr) → addr / pgpktDataSize ≤ offset →
      Written efuse map offset (chkTotalByte efuse map addr cnts fuel idx offset) s e →
      writeLoop burn efuse map addr cnts fuel idx offset s = (true, s') →
      ∃ e t, EfuseLog s'.content e t ∧ ∀ p < efuseMapLen, t p = efuse p := by
  induction fuel with
  | zero =>
      intro idx offset s e hfuel hidx _ h hok
      obtain rfl := (Prod.mk.inj hok).2
      exact h.finish hout hfuel hidx
  | succ fuel ih =>
      intro idx offset s e hfuel hidx hoff h hok
      rw [writeLoop] at hok
      by_cases hlt : idx < cnts
      · have hsec := sectionLoop_spec hout hlt hidx hoff
        have hnext := hsec.idx
        rw [if_pos hlt] at hok
        rw [chkTotalByte, if_pos hlt] at h
        generalize sectionLoop efuse map addr cnts idx offset = r at hsec hnext hok h
        have hidx' : r.1 = min cnts ((offset + 1) * pgpktDataSize - addr) := by
          rw [hnext, Nat.succ_mul]
        have hfuel' : cnts ≤ r.1 + fuel := by
          unfold pgpktDataSize at *
          omega
        by_cases hne : r.2.1 ≠ 0x0F#8
        · simp only [if_pos hne] at hok h
          have hoffset : offset < efuseMaxSection := by
            show offset < 64
            have hrange : addr + cnts ≤ 512 := hrange
            unfold pgpktDataSize at *
            omega
          cases hw : (halEfusePgPacketWrite burn s (BitVec.ofNat 8 offset) r.2.1 r.2.2).1 with
          | false =>
              rw [hw, if_neg Bool.false_ne_true] at hok
              rw [hok] at hw
              cases hw
          | true =>
              rw [hw, if_pos rfl] at hok
              exact ih hfuel' hidx' (by omega)
                (h.packet hoffset hsec hne (Prod.ext hw rfl)) hok
        · simp only [if_neg hne, Nat.zero_add] at hok h
          have hword : r.2.1 = 0x0F#8 := not_not.1 hne
          refine ih hfuel' hidx' (by omega) (h.skip fun x hx => hsec.same x hx ?_) hok
          rw [hword]
          exact (by decide : ∀ x < 8, (0x0F#8).getLsbD (x / 2) = true) x hx
      · rw [if_neg hlt] at hok
        obtain rfl := (Prod.mk.inj hok).2
        exact h.finish hout (Nat.le_of_not_lt hlt) hidx

/-! ### The whole write -/

/-- The bytes that are read from a well-formed log, and the length that is noted. -/
lemma EfuseLog.mapRead {t : EfuseMap} (h : EfuseLog s.content e t)
    (hrange : addr + cnts ≤ efuseMapLen) :
    rtwEfuseMapRead s addr cnts =
      (some ((List.range cnts).map fun i => t (addr + i)),
        { s with efuseBytes := if e < efuseRealContentLen then e else e - 1 }) := by
  have hmax : ¬ efuseMaxMapLen < addr + cnts :=
    Nat.not_lt_of_le (hrange.trans (by decide))
  rw [rtwEfuseMapRead, if_neg (Nat.not_lt_of_le hrange), halReadEFuseWiFi, if_neg hmax]
  simp only [readEnd_eq, h.map, h.stop, decide_eq_true_eq]

lemma sameOutside_wantedMap (masked : ℕ → Bool) (map : EfuseMap) (addr cnts : ℕ)
    (data : ℕ → BitVec 8) : SameOutside (wantedMap masked map addr cnts data) map addr cnts := by
  intro p hp
  rw [wantedMap, if_neg]
  rintro ⟨hge, hlt, -⟩
  exact hp ⟨hge, hlt⟩

lemma getD_map_range (t : EfuseMap) {n p : ℕ} (hp : p < n) (d : BitVec 8) :
    ((List.range n).map fun i => t (0 + i)).getD p d = t p := by
  simp [List.getD_eq_getElem?_getD, hp]

/-- At the first section nothing has been done. -/
lemma EfuseLog.written {t map : EfuseMap} (h : EfuseLog s.content e t) (masked : ℕ → Bool)
    (addr cnts : ℕ) (data : ℕ → BitVec 8) (hold : ∀ p < efuseMapLen, map p = t p)
    (hroom : e + room < availableEfuseBytes) :
    Written (wantedMap masked map addr cnts data) map (addr / pgpktDataSize) room
      { s with efuseBytes := e } e := by
  refine ⟨⟨t, h, fun p hp => ?_⟩, .inr (.inl rfl), hroom⟩
  rw [← hold p hp]
  split
  · refine (sameOutside_wantedMap masked map addr cnts data p fun hin => ?_).symm
    unfold pgpktDataSize at *
    omega
  · rfl

lemma start_idx (addr cnts : ℕ) :
    0 = min cnts (addr / pgpktDataSize * pgpktDataSize - addr) := by
  unfold pgpktDataSize
  omega

/-- A successful write leaves a well-formed log with the wanted map behind. -/
lemma rtwEfuseMapWrite_spec {masked : ℕ → Bool} {t : EfuseMap} {data : ℕ → BitVec 8}
    (h : EfuseLog s.content e t)
    (hok : rtwEfuseMapWrite burn masked s addr cnts data = (true, s')) :
    ∃ e' t', EfuseLog s'.content e' t' ∧
      ∀ p < efuseMapLen, t' p = wantedMap masked t addr cnts data p := by
  rw [rtwEfuseMapWrite] at hok
  by_cases hrange : efuseMapLen < addr + cnts
  · rw [if_pos hrange] at hok
    cases hok
  · rw [if_neg hrange, h.mapRead (by decide)] at hok
    have hrange : addr + cnts ≤ efuseMapLen := Nat.le_of_not_lt hrange
    simp only at hok
    generalize hmap : (fun p => ((List.range efuseMapLen).map fun i => t (0 + i)).getD p 0xFF#8) =
      map at hok
    have hold : ∀ p < efuseMapLen, map p = t p := fun p hp => by
      rw [← hmap]
      exact getD_map_range t hp _
    have hout := sameOutside_wantedMap masked map addr cnts data
    by_cases he : e < efuseRealContentLen
    · have hsize : (if e = 0 then halEfuseGetCurrentSizeWiFi s.content e else (e, e)) = (e, e) := by
        rw [h.currentSize (.inr (.inl rfl)), ite_self]
      simp only [if_pos he, hsize] at hok
      split at hok
      · cases hok
      · rename_i hroom
        have hstart := h.written masked addr cnts data hold (Nat.lt_of_not_le hroom)
        obtain ⟨e', t', hlog, hnew⟩ :=
          writeLoop_spec hout hrange cnts (by omega) (start_idx addr cnts) le_rfl hstart hok
        refine ⟨e', t', hlog, fun p hp => ?_⟩
        rw [hnew p hp, wantedMap, wantedMap, hold p hp]
    · -- the log fills the bank, and there is no room for a packet
      have hfull : 512 ≤ e := Nat.le_of_not_lt he
      have hpos : e - 1 ≠ 0 := by omega
      have hroom : availableEfuseBytes ≤ e - 1 := by
        show 415 ≤ e - 1
        omega
      simp only [if_neg he, if_neg hpos] at hok
      rw [if_pos (hroom.trans (Nat.le_add_right ..))] at hok
      cases hok

/-- For every way in which the hardware may take the writes, every well-formed log and every
range: if `rtw_efuse_map_write` reports success, a read that follows finds the new bytes at all
positions of the range that are not masked, and everywhere else the bytes that a read found
before. -/
theorem efuse_map_write_read (burn : Burn) (masked : ℕ → Bool) (s s' : Efuse) (addr cnts : ℕ)
    (data : ℕ → BitVec 8) (e : ℕ) (t : EfuseMap) (hlog : EfuseLog s.content e t)
    (hok : rtwEfuseMapWrite burn masked s addr cnts data = (true, s')) (addr' cnts' : ℕ)
    (hrange : addr' + cnts' ≤ efuseMapLen) :
    ∃ old, (rtwEfuseMapRead s addr' cnts').1 = some old ∧ old.length = cnts' ∧
      (rtwEfuseMapRead s' addr' cnts').1 = some ((List.range cnts').map fun i =>
        if addr ≤ addr' + i ∧ addr' + i < addr + cnts ∧ ¬ masked (addr' + i) then
          data (addr' + i - addr)
        else old.getD i 0xFF#8) := by
  obtain ⟨e', t', hlog', hnew⟩ := rtwEfuseMapWrite_spec hlog hok
  refine ⟨(List.range cnts').map fun i => t (addr' + i), by rw [hlog.mapRead hrange], by simp, ?_⟩
  rw [hlog'.mapRead hrange]
  refine congrArg some (List.map_congr_left fun i hi => ?_)
  have hlt := List.mem_range.1 hi
  have hold : ((List.range cnts').map fun i => t (addr' + i)).getD i 0xFF#8 = t (addr' + i) := by
    simp [List.getD_eq_getElem?_getD, hlt]
  rw [hold, hnew _ (by omega)]
  rfl

/-- A write clears bits, and sets none. -/
def clearingBurn : Burn := fun _ old new => old &&& new

/-- An efuse in which nothing has been written. -/
def blankEfuse : Efuse := { content := fun _ => 0xFF#8, efuseBytes := 0 }

lemma blankEfuse_log : EfuseLog blankEfuse.content 0 fun _ => 0xFF#8 := by
  have hnone : readNext blankEfuse.content 0 = none := by decide
  refine ⟨Walk.stop_of_none hnone, ?_, ?_, fun _ _ _ => rfl⟩
  · rw [headers, Walk.records_of_none hnone]
    rfl
  · rw [headers, Walk.records_of_none hnone]
    simp

/-- The efuse after ten bytes from 6 on, of which the second is masked: two packets are
written. -/
def twoPackets : Bool × Efuse :=
  rtwEfuseMapWrite clearingBurn (fun p => p == 7) blankEfuse 6 10 fun i => BitVec.ofNat 8 i

lemma twoPackets_eq :
    rtwEfuseMapWrite clearingBurn (fun p => p == 7) blankEfuse 6 10 (fun i => BitVec.ofNat 8 i) =
      (true, twoPackets.2) := by
  have hok : twoPackets.1 = true := by decide +kernel
  show twoPackets = _
  rw [← hok]

theorem efuse_map_write_read_of_twoPackets :
    ∃ old, (rtwEfuseMapRead blankEfuse 0 20).1 = some old ∧ old.length = 20 ∧
      (rtwEfuseMapRead twoPackets.2 0 20).1 = some ((List.range 20).map fun i =>
        if 6 ≤ 0 + i ∧ 0 + i < 6 + 10 ∧ ¬ (0 + i == 7) then BitVec.ofNat 8 (0 + i - 6)
        else old.getD i 0xFF#8) :=
  efuse_map_write_read clearingBurn (fun p => p == 7) blankEfuse twoPackets.2 6 10
    (fun i => BitVec.ofNat 8 i) 0 (fun _ => 0xFF#8) blankEfuse_log twoPackets_eq 0 20 (by decide)

end Rtl8723du
