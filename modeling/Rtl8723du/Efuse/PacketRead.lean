import Rtl8723du.Efuse.MapWrite

/-!
# Reading one section of the efuse

`Hal_EfusePgPacketRead` goes over the log for the packets of one section, `hal_ReadEFuse_WiFi`
decodes all sections.  Both go from packet to packet in the same way, and the eight bytes of the
one are the section in the map of the other (`Shows`).
-/

namespace Rtl8723du

open Lib

/-! ### `Hal_EfusePgPacketRead` -/

/-- The data of a packet in `Hal_EfusePgPacketRead`: it is skipped if the packet is for another
section. -/
def packetReadData (efuse : EfuseContent) (offset hoffset : ℕ) (hworden : BitVec 8)
    (efuseAddr : ℕ) (data : ℕ → BitVec 8) : ℕ × (ℕ → BitVec 8) :=
  if hoffset = offset then (enabledWords hworden).foldl (readWord efuse 0) (efuseAddr, data)
  else (efuseAddr + efuseCalculateWordCnts hworden * 2, data)

/-- The loop of `Hal_EfusePgPacketRead`. -/
def packetReadLoop (efuse : EfuseContent) (offset : ℕ) :
    ℕ → ℕ → (ℕ → BitVec 8) → (ℕ → BitVec 8)
  | 0, _, data => data
  | fuel + 1, efuseAddr, data =>
      if ¬ availableEfuseAddr efuseAddr then data
      else
        let efuseData := efuse efuseAddr
        if efuseData = 0xFF#8 then data
        else if extHeader efuseData then
          let extData := efuse (efuseAddr + 1)
          if allWordsDisabled extData then packetReadLoop efuse offset fuel (efuseAddr + 2) data
          else
            let r := packetReadData efuse offset (extHeaderOffset efuseData extData).toNat
              (extData &&& 0x0F#8) (efuseAddr + 2) data
            packetReadLoop efuse offset fuel r.1 r.2
        else
          let r := packetReadData efuse offset (headerOffset efuseData).toNat
            (efuseData &&& 0x0F#8) (efuseAddr + 1) data
          packetReadLoop efuse offset fuel r.1 r.2

/-- `Hal_EfusePgPacketRead`; `none` for `_FALSE`.  Each turn goes forward, so there are at most as
many turns as addresses. -/
def halEfusePgPacketRead (efuse : EfuseContent) (offset : ℕ) : Option (List (BitVec 8)) :=
  if efuseMaxSection < offset then none
  else some ((List.range pgpktDataSize).map
    (packetReadLoop efuse offset efuseRealContentLen 0 fun _ => 0xFF#8))

/-! ### The two loops side by side -/

/-- The bytes of the section `offset` of a map. -/
def Shows (offset : ℕ) (data : ℕ → BitVec 8) (efuseTbl : EfuseMap) : Prop :=
  ∀ x < pgpktDataSize, data x = efuseTbl (offset * pgpktDataSize + x)

variable {efuse : EfuseContent} {offset hoffset : ℕ} {data : ℕ → BitVec 8} {t : EfuseMap}

/-- A word of the section is read in the same way. -/
lemma Shows.readWord (h : Shows offset data t) (a i : ℕ) :
    Shows offset (readWord efuse 0 (a, data) i).2
      (readWord efuse (offset * pgpktDataSize) (a, t) i).2 := by
  intro x hx
  simp only [Rtl8723du.readWord, Function.update_apply, Nat.zero_add, Nat.add_assoc,
    Nat.add_left_cancel_iff]
  rw [h x hx]

lemma Shows.foldl_readWord (words : List ℕ) : ∀ {a : ℕ} {data : ℕ → BitVec 8} {t : EfuseMap},
    Shows offset data t →
      Shows offset (words.foldl (Rtl8723du.readWord efuse 0) (a, data)).2
        (words.foldl (Rtl8723du.readWord efuse (offset * pgpktDataSize)) (a, t)).2 := by
  induction words with
  | nil => exact fun h => h
  | cons i words ih => exact fun h => ih (h.readWord _ i)

/-- A word of another section is not one of this. -/
lemma Shows.foldl_readWord_of_ne (hne : hoffset ≠ offset) {words : List ℕ}
    (hwords : ∀ i ∈ words, i < 4) : ∀ {a : ℕ} {t : EfuseMap}, Shows offset data t →
      Shows offset data
        (words.foldl (Rtl8723du.readWord efuse (hoffset * pgpktDataSize)) (a, t)).2 := by
  induction words with
  | nil => exact fun h => h
  | cons i words ih =>
      intro a t h
      refine ih (fun j hj => hwords j (List.mem_cons_of_mem i hj)) fun x hx => ?_
      have hi := hwords i List.mem_cons_self
      have hlo : offset * pgpktDataSize + x ≠ hoffset * pgpktDataSize + 2 * i := by
        unfold pgpktDataSize at *
        omega
      have hhi : offset * pgpktDataSize + x ≠ hoffset * pgpktDataSize + 2 * i + 1 := by
        unfold pgpktDataSize at *
        omega
      rw [h x hx, Function.update_of_ne hhi, Function.update_of_ne hlo]

/-- Both go over the data of a packet, and the section is still shown. -/
lemma Shows.readData (hoff : offset < efuseMaxSection) (h : Shows offset data t) (hoffset : ℕ)
    (wden : BitVec 8) (a : ℕ) :
    (packetReadData efuse offset hoffset wden a data).1 =
        (Rtl8723du.readData efuse hoffset wden a t).1 ∧
      Shows offset (packetReadData efuse offset hoffset wden a data).2
        (Rtl8723du.readData efuse hoffset wden a t).2 := by
  rw [readData_fst, packetReadData]
  by_cases heq : hoffset = offset
  · subst heq
    rw [if_pos rfl, Rtl8723du.readData, if_pos hoff, foldl_readWord_fst]
    exact ⟨rfl, h.foldl_readWord _⟩
  · rw [if_neg heq]
    refine ⟨rfl, ?_⟩
    rw [Rtl8723du.readData]
    split
    · exact h.foldl_readWord_of_ne heq fun i hi => (mem_enabledWords.1 hi).1
    · exact h

/-- From the same address on, both loops read the same bytes into the section. -/
lemma Shows.loop (hoff : offset < efuseMaxSection) (fuel : ℕ) :
    ∀ {a : ℕ} {data : ℕ → BitVec 8} {t : EfuseMap}, Shows offset data t →
      Shows offset (packetReadLoop efuse offset fuel a data)
        (readLoop efuse fuel a t).efuseTbl := by
  induction fuel with
  | zero => exact fun h => h
  | succ fuel ih =>
      intro a data t h
      rw [packetReadLoop, readLoop]
      by_cases havail : ¬ availableEfuseAddr a
      · rw [if_pos havail, if_pos havail]
        exact h
      rw [if_neg havail, if_neg havail]
      by_cases hff : efuse a = 0xFF#8
      · simp only [if_pos hff]
        exact h
      simp only [if_neg hff]
      by_cases hext : extHeader (efuse a) = true
      · simp only [if_pos hext]
        by_cases hdis : allWordsDisabled (efuse (a + 1)) = true
        · simp only [if_pos hdis]
          exact ih h
        · simp only [if_neg hdis]
          obtain ⟨haddr, hshows⟩ := h.readData hoff
            (extHeaderOffset (efuse a) (efuse (a + 1))).toNat (efuse (a + 1) &&& 0x0F#8) (a + 2)
          rw [haddr]
          exact ih hshows
      · simp only [if_neg hext]
        obtain ⟨haddr, hshows⟩ := h.readData hoff (headerOffset (efuse a)).toNat
          (efuse a &&& 0x0F#8) (a + 1)
        rw [haddr]
        exact ih hshows

/-! ### The last write of a word -/

/-- The section, the words and the address of the data of the packet at `a`; `none` if all its
words are disabled. -/
def packetAt (efuse : EfuseContent) (a : ℕ) : Option (ℕ × BitVec 8 × ℕ) :=
  if extHeader (efuse a) then
    if allWordsDisabled (efuse (a + 1)) then none
    else some ((extHeaderOffset (efuse a) (efuse (a + 1))).toNat, efuse (a + 1) &&& 0x0F#8, a + 2)
  else some ((headerOffset (efuse a)).toNat, efuse a &&& 0x0F#8, a + 1)

/-- The bytes of the section whose words `wden` are at `d` in the log. -/
def packetData (efuse : EfuseContent) (wden : BitVec 8) (d : ℕ) : ℕ → BitVec 8 :=
  fun x => efuse (d + 2 * (enabledWords wden).idxOf (x / 2) + x % 2)

lemma packetEnd_eq (efuse : EfuseContent) (a : ℕ) : packetEnd efuse a =
    (packetAt efuse a).elim (a + 2) fun h => h.2.2 + efuseCalculateWordCnts h.2.1 * 2 := by
  rw [packetEnd, packetAt]
  split
  · split <;> rfl
  · rfl

lemma nodup_enabledWords (wden : BitVec 8) : (enabledWords wden).Nodup :=
  List.Nodup.filter _ (by decide)

/-- Any words are the ones that are read there. -/
lemma holdsWords_idxOf (efuse : EfuseContent) {words : List ℕ} : ∀ {d : ℕ}, words.Nodup →
    HoldsWords efuse (fun x => efuse (d + 2 * words.idxOf (x / 2) + x % 2)) d words := by
  induction words with
  | nil => exact fun _ => trivial
  | cons i words ih =>
      intro d hnodup
      obtain ⟨hi, hnodup⟩ := List.nodup_cons.1 hnodup
      have hhalf : (2 * i + 1) / 2 = i := by omega
      have hone : (2 * i + 1) % 2 = 1 := by omega
      refine ⟨by simp, by simp [hhalf, hone], (ih hnodup).congr fun j hj => ?_⟩
      have hne : i ≠ j := fun h => hi (h ▸ hj)
      have hhalf : (2 * j + 1) / 2 = j := by omega
      have hshift : d + 2 * (words.idxOf j + 1) = d + 2 + 2 * words.idxOf j := by omega
      simp [List.idxOf_cons_ne words hne, hhalf, hshift]

lemma readData_snd (efuse : EfuseContent) (sec : ℕ) (wden : BitVec 8) (d : ℕ) (t : EfuseMap) :
    (readData efuse sec wden d t).2 =
      if sec < efuseMaxSection then withPacket sec wden (packetData efuse wden d) t else t := by
  rw [readData]
  split
  · ext1 p
    exact (holdsWords_idxOf efuse (nodup_enabledWords wden)).foldl_readWord _ t p
  · rfl

/-- A packet puts its words into its section. -/
lemma applyPacket_eq (efuse : EfuseContent) (t : EfuseMap) (a : ℕ) : applyPacket efuse t a =
    (packetAt efuse a).elim t fun h => if h.1 < efuseMaxSection then
      withPacket h.1 h.2.1 (packetData efuse h.2.1 h.2.2) t else t := by
  rw [applyPacket, packetAt]
  split
  · split
    · rfl
    · exact readData_snd _ _ _ _ _
  · exact readData_snd _ _ _ _ _

/-- The packet at `a` has the byte `p` of the map at `w`. -/
def HasByte (efuse : EfuseContent) (a p w : ℕ) : Prop :=
  ∃ sec wden d, packetAt efuse a = some (sec, wden, d) ∧ sec < efuseMaxSection ∧
    p / pgpktDataSize = sec ∧ p % pgpktDataSize / 2 ∈ enabledWords wden ∧
    w = d + 2 * (enabledWords wden).idxOf (p % pgpktDataSize / 2) + p % 2

lemma withPacket_apply_of_mem {sec : ℕ} {wden : BitVec 8} {pData : ℕ → BitVec 8} {p : ℕ}
    (hsec : p / pgpktDataSize = sec) (hword : p % pgpktDataSize / 2 ∈ enabledWords wden) :
    withPacket sec wden pData t p = pData (p % pgpktDataSize) := by
  have hsub : p - sec * pgpktDataSize = p % pgpktDataSize := by
    unfold pgpktDataSize at *
    omega
  rw [withPacket, if_pos, hsub]
  refine ⟨_, hword, ?_⟩
  unfold pgpktDataSize at *
  omega

lemma withPacket_apply_of_not_mem {sec : ℕ} {wden : BitVec 8} {pData : ℕ → BitVec 8} {p : ℕ}
    (h : ¬ (p / pgpktDataSize = sec ∧ p % pgpktDataSize / 2 ∈ enabledWords wden)) :
    withPacket sec wden pData t p = t p := by
  rw [withPacket, if_neg]
  rintro ⟨i, hi, hp⟩
  have hlt := (mem_enabledWords.1 hi).1
  have hsec : p / pgpktDataSize = sec := by
    unfold pgpktDataSize at *
    omega
  have hword : p % pgpktDataSize / 2 = i := by
    unfold pgpktDataSize at *
    omega
  exact h ⟨hsec, hword ▸ hi⟩

lemma applyPacket_of_hasByte {a p w : ℕ} (h : HasByte efuse a p w) (t : EfuseMap) :
    applyPacket efuse t a p = efuse w := by
  obtain ⟨sec, wden, d, hat, hlegal, hsec, hword, rfl⟩ := h
  have hmod : p % pgpktDataSize % 2 = p % 2 := by
    unfold pgpktDataSize
    omega
  rw [applyPacket_eq, hat, Option.elim_some, if_pos hlegal, withPacket_apply_of_mem hsec hword,
    packetData, hmod]

lemma applyPacket_of_not_hasByte {a p : ℕ} (h : ∀ w, ¬ HasByte efuse a p w) (t : EfuseMap) :
    applyPacket efuse t a p = t p := by
  rw [applyPacket_eq]
  rcases hat : packetAt efuse a with _ | ⟨sec, wden, d⟩
  · rfl
  · rw [Option.elim_some]
    split
    · rename_i hlegal
      exact withPacket_apply_of_not_mem fun hin =>
        h _ ⟨sec, wden, d, hat, hlegal, hin.1, hin.2, rfl⟩
    · rfl

lemma foldl_applyPacket_of_not_hasByte {l : List ℕ} {p : ℕ}
    (h : ∀ a ∈ l, ∀ w, ¬ HasByte efuse a p w) :
    ∀ t : EfuseMap, l.foldl (applyPacket efuse) t p = t p := by
  induction l with
  | nil => exact fun _ => rfl
  | cons a l ih =>
      intro t
      rw [List.foldl_cons, ih fun b hb => h b (List.mem_cons_of_mem a hb)]
      exact applyPacket_of_not_hasByte (h a List.mem_cons_self) t

/-- The byte `p` of a map is the one that was written last: that of the last packet of the log that
has its word, and `0xFF` if there is none. -/
def LastWritten (efuse : EfuseContent) (map : EfuseMap) (p : ℕ) : Prop :=
  (∀ a ∈ headers efuse, ∀ w, ¬ HasByte efuse a p w) ∧ map p = 0xFF#8 ∨
    ∃ pre a post w, headers efuse = pre ++ a :: post ∧ HasByte efuse a p w ∧
      (∀ b ∈ post, ∀ w, ¬ HasByte efuse b p w) ∧ map p = efuse w

lemma exists_last_hasByte (l : List ℕ) (p : ℕ) : (∀ a ∈ l, ∀ w, ¬ HasByte efuse a p w) ∨
    ∃ pre a post w, l = pre ++ a :: post ∧ HasByte efuse a p w ∧
      ∀ b ∈ post, ∀ w, ¬ HasByte efuse b p w := by
  induction l with
  | nil => exact .inl (by simp)
  | cons a l ih =>
      rcases ih with hnone | ⟨pre, b, post, w, rfl, hb, hpost⟩
      · by_cases ha : ∃ w, HasByte efuse a p w
        · obtain ⟨w, ha⟩ := ha
          exact .inr ⟨[], a, l, w, rfl, ha, hnone⟩
        · refine .inl fun b hb => ?_
          rcases List.mem_cons.1 hb with rfl | hb
          · exact not_exists.1 ha
          · exact hnone b hb
      · exact .inr ⟨a :: pre, b, post, w, rfl, hb, hpost⟩

/-- The reader keeps the last write of each word. -/
lemma lastWritten_readEnd (efuse : EfuseContent) (p : ℕ) :
    LastWritten efuse (readEnd efuse).efuseTbl p := by
  rw [readEnd_eq]
  rcases exists_last_hasByte (headers efuse) p with hnone | ⟨pre, a, post, w, hl, ha, hpost⟩
  · exact .inl ⟨hnone, foldl_applyPacket_of_not_hasByte hnone _⟩
  · refine .inr ⟨pre, a, post, w, hl, ha, hpost, ?_⟩
    dsimp only
    rw [hl, List.foldl_append, List.foldl_cons, foldl_applyPacket_of_not_hasByte hpost,
      applyPacket_of_hasByte ha]

/-! ### The eight bytes -/

/-- For every content of the efuse and every section, `Hal_EfusePgPacketRead` returns the eight
bytes of the section in the map that `hal_ReadEFuse_WiFi` reads, and each of them is the one that
was written last. -/
theorem efuse_packetRead_eq (efuse : EfuseContent) (offset : ℕ) (h : offset < efuseMaxSection) :
    ∃ map used data, halReadEFuseWiFi efuse 0 efuseMapLen = some (map, used) ∧
      halEfusePgPacketRead efuse offset = some data ∧
      data = (map.drop (offset * pgpktDataSize)).take pgpktDataSize ∧
      ∀ p < efuseMapLen, LastWritten efuse (fun p => map.getD p 0xFF#8) p := by
  have hshows : Shows offset (packetReadLoop efuse offset efuseRealContentLen 0 fun _ => 0xFF#8)
      (readEnd efuse).efuseTbl := Shows.loop h efuseRealContentLen fun _ _ => rfl
  refine ⟨_, _, _, if_neg (by decide), if_neg (Nat.not_lt_of_lt h), ?_, fun p hp => ?_⟩
  · refine List.ext_getElem ?_ fun x hx _ => ?_
    · have hoff : offset * 8 + 8 ≤ 512 := by
        have hlt : offset < 64 := h
        omega
      rw [List.length_map, List.length_range, List.length_take, List.length_drop, List.length_map,
        List.length_range]
      exact (Nat.min_eq_left (Nat.le_sub_of_add_le' hoff)).symm
    · have hx : x < pgpktDataSize := by simpa using hx
      simp [hshows x hx]
  · have hlast := lastWritten_readEnd efuse p
    have hbyte : ((List.range efuseMapLen).map fun i => (readEnd efuse).efuseTbl (0 + i)).getD p
        0xFF#8 = (readEnd efuse).efuseTbl p := getD_map_range _ hp _
    rw [LastWritten] at hlast ⊢
    rwa [hbyte]

/-- Two packets for the section 1: the second one replaces the word of the first. -/
def twice : EfuseContent :=
  fun a => [0x1E#8, 1#8, 2#8, 0x1E#8, 3#8, 4#8].getD a 0xFF#8

theorem efuse_packetRead_eq_twice :
    ∃ map used data, halReadEFuseWiFi twice 0 efuseMapLen = some (map, used) ∧
      halEfusePgPacketRead twice 1 = some data ∧
      data = (map.drop (1 * pgpktDataSize)).take pgpktDataSize ∧
      ∀ p < efuseMapLen, LastWritten twice (fun p => map.getD p 0xFF#8) p :=
  efuse_packetRead_eq twice 1 (by decide)

end Rtl8723du
