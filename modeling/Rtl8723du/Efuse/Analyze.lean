import Rtl8723du.Efuse.PacketRead

/-!
# The diagnosis of the efuse

`rtw_efuse_analyze` prints the log of the efuse, and decodes it into a map of its own.  It gives the
log up at an extended header whose second byte is `0xFF`, with an error.  Up to there it decodes
what `hal_ReadEFuse_WiFi` does (`efuse_analyze_eq`).
-/

namespace Rtl8723du

open Lib

/-! ### `rtw_efuse_analyze` -/

/-- The variables of `rtw_efuse_analyze` and the addresses that have been read. -/
structure Analysis where
  eFuseAddr : ℕ
  efuseHeader : BitVec 8 := 0
  eFuseWord : EfuseMap
  reads : List ℕ := []

/-- Read the next header, `eFuse_Addr++`. -/
def Analysis.readHeader (efuse : EfuseContent) (s : Analysis) : Analysis :=
  { s with
    eFuseAddr := s.eFuseAddr + 1
    efuseHeader := efuse s.eFuseAddr
    reads := s.reads ++ [s.eFuseAddr] }

/-- The loop over the words of a packet; it breaks where the log has no room for a word. -/
def analyzeWords (efuse : EfuseContent) (offset : ℕ) : List ℕ → Analysis → Analysis
  | [], s => s
  | i :: words, s =>
      if s.eFuseAddr + 2 < efuseRealContentLen then
        analyzeWords efuse offset words
          { s with
            eFuseAddr := s.eFuseAddr + 2
            eFuseWord := (readWord efuse (offset * pgpktDataSize) (s.eFuseAddr, s.eFuseWord) i).2
            reads := s.reads ++ [s.eFuseAddr, s.eFuseAddr + 1] }
      else s

/-- The words of a packet of a legal section, and the next header. -/
def analyzePacket (efuse : EfuseContent) (offset : ℕ) (wden : BitVec 8) (s : Analysis) :
    Analysis :=
  (if offset < efuseMaxSection then analyzeWords efuse offset (enabledWords wden) s
    else s).readHeader efuse

/-- The loop of `rtw_efuse_analyze` over the bank. -/
def analyzeLoop (efuse : EfuseContent) : ℕ → Analysis → Option Analysis
  | 0, _ => none
  | fuel + 1, s =>
      if ¬ (s.efuseHeader ≠ 0xFF#8 ∧ s.eFuseAddr < efuseRealContentLen) then some s
      else if extHeader s.efuseHeader then
        let efuseExtHdr := efuse s.eFuseAddr
        let s := { s with eFuseAddr := s.eFuseAddr + 1, reads := s.reads ++ [s.eFuseAddr] }
        if efuseExtHdr ≠ 0xFF#8 then
          if allWordsDisabled efuseExtHdr then analyzeLoop efuse fuel (s.readHeader efuse)
          else analyzeLoop efuse fuel (analyzePacket efuse
            (extHeaderOffset s.efuseHeader efuseExtHdr).toNat (efuseExtHdr &&& 0x0F#8) s)
        else some s
      else analyzeLoop efuse fuel (analyzePacket efuse (headerOffset s.efuseHeader).toNat
        (s.efuseHeader &&& 0x0F#8) s)

/-- What `rtw_efuse_analyze` leaves: the map `fakeEfuseInitMap`, and the addresses it has read. -/
structure Analyzed where
  fakeEfuseInitMap : EfuseMap
  reads : List ℕ

/-- `rtw_efuse_analyze` of the WiFi bank, or of its `fake` content. -/
def rtwEfuseAnalyze (efuse : EfuseContent) (fake : Bool) : Option Analyzed :=
  let s := Analysis.readHeader efuse { eFuseAddr := 0, eFuseWord := fun _ => 0xFF#8 }
  if s.efuseHeader = 0xFF#8 ∧ fake = false then
    some { fakeEfuseInitMap := fun _ => 0xFF#8, reads := s.reads }
  else (analyzeLoop efuse efuseRealContentLen s).map fun s =>
    { fakeEfuseInitMap := fun x =>
        if x < efuseMaxSection * pgpktDataSize then s.eFuseWord x else 0xFF#8
      reads := s.reads }

variable {efuse : EfuseContent} {s : Analysis} {a : ℕ}

/-! ### It ends -/

lemma analyzeWords_le (efuse : EfuseContent) (offset : ℕ) (words : List ℕ) :
    ∀ s : Analysis, s.eFuseAddr ≤ (analyzeWords efuse offset words s).eFuseAddr := by
  induction words with
  | nil => exact fun _ => le_rfl
  | cons i words ih =>
      intro s
      rw [analyzeWords]
      split
      · refine le_trans ?_ (ih _)
        exact Nat.le_add_right _ 2
      · exact le_rfl

lemma lt_analyzePacket (efuse : EfuseContent) (offset : ℕ) (wden : BitVec 8) (s : Analysis) :
    s.eFuseAddr < (analyzePacket efuse offset wden s).eFuseAddr := by
  rw [analyzePacket]
  split
  · exact Nat.lt_succ_of_le (analyzeWords_le efuse offset _ s)
  · exact Nat.lt_succ_self _

/-- Each turn goes on in the log. -/
lemma analyzeLoop_ends (efuse : EfuseContent) (fuel : ℕ) : ∀ s : Analysis,
    efuseRealContentLen < s.eFuseAddr + fuel → 0 < fuel →
      (analyzeLoop efuse fuel s).isSome = true := by
  induction fuel with
  | zero => exact fun _ _ h => absurd h (lt_irrefl 0)
  | succ fuel ih =>
      intro s hfuel _
      rw [analyzeLoop]
      split
      · rfl
      · rename_i hgo
        have hlt : s.eFuseAddr < efuseRealContentLen := (not_not.1 hgo).2
        split
        · dsimp only
          split
          · split
            · refine ih _ ?_ (by omega)
              dsimp only [Analysis.readHeader]
              omega
            · refine ih _ (lt_trans ?_ (Nat.add_lt_add_right (lt_analyzePacket ..) fuel)) (by omega)
              dsimp only
              omega
          · rfl
        · exact ih _ (lt_of_lt_of_le hfuel (by
            have hnext := lt_analyzePacket efuse (headerOffset s.efuseHeader).toNat
              (s.efuseHeader &&& 0x0F#8) s
            omega)) (by omega)

/-- The diagnosis ends, whatever the efuse holds. -/
theorem rtwEfuseAnalyze_ends (efuse : EfuseContent) (fake : Bool) :
    ∃ r, rtwEfuseAnalyze efuse fake = some r := by
  rw [rtwEfuseAnalyze]
  split
  · exact ⟨_, rfl⟩
  · obtain ⟨s, hs⟩ := Option.isSome_iff_exists.1 (analyzeLoop_ends efuse efuseRealContentLen
      (Analysis.readHeader efuse { eFuseAddr := 0, eFuseWord := fun _ => 0xFF#8 })
      (by simp [Analysis.readHeader]) (by decide))
    rw [hs]
    exact ⟨_, rfl⟩

/-! ### The packets it decodes -/

/-- The second byte of the extended header at `a` was never programmed. -/
def Unfinished (efuse : EfuseContent) (a : ℕ) : Prop :=
  extHeader (efuse a) = true ∧ efuse (a + 1) = 0xFF#8

instance (efuse : EfuseContent) (a : ℕ) : Decidable (Unfinished efuse a) := by
  unfold Unfinished
  infer_instance

/-- The step from packet to packet, up to an unfinished header. -/
def analyzeNext (efuse : EfuseContent) (a : ℕ) : Option ℕ :=
  if HeaderAt efuse a ∧ ¬ Unfinished efuse a then some (packetEnd efuse a) else none

/-- The packets of the log before the first unfinished header. -/
def analyzed (efuse : EfuseContent) : List ℕ :=
  Walk.records (analyzeNext efuse) efuseRealContentLen 0

/-- The first unfinished header, or the end of the log. -/
def analyzedEnd (efuse : EfuseContent) : ℕ := Walk.stop (analyzeNext efuse) efuseRealContentLen 0

/-- The packet is of a legal section if it has words, and it leaves room for another header. -/
structure Plain (efuse : EfuseContent) (a : ℕ) : Prop where
  ext : extHeader (efuse a) = true → packetEnd efuse a < efuseRealContentLen
  words : ∀ sec wden d, packetAt efuse a = some (sec, wden, d) → enabledWords wden ≠ [] →
    sec < efuseMaxSection ∧ packetEnd efuse a < efuseRealContentLen

lemma analyzeNext_eq_some {b : ℕ} : analyzeNext efuse a = some b ↔
    (HeaderAt efuse a ∧ ¬ Unfinished efuse a) ∧ packetEnd efuse a = b := by
  rw [analyzeNext]
  split <;> simp_all

lemma analyzeNext_eq_none :
    analyzeNext efuse a = none ↔ (HeaderAt efuse a → Unfinished efuse a) := by
  rw [analyzeNext]
  split
  · simp_all
  · rename_i h
    simp only [true_iff]
    exact fun hheader => by_contra fun hun => h ⟨hheader, hun⟩

lemma analyzeNext_forward (efuse : EfuseContent) :
    Walk.Forward (analyzeNext efuse) efuseRealContentLen where
  lt := by
    intro a b h
    rw [← (analyzeNext_eq_some.1 h).2]
    exact lt_packetEnd efuse a
  lt_limit := fun h => (analyzeNext_eq_some.1 h).1.1.1

/-! ### What it makes of them -/

/-- The header at `a` has been read, and so far the map is `t`. -/
structure AtHeader (efuse : EfuseContent) (a : ℕ) (t : EfuseMap) (s : Analysis) : Prop where
  addr : s.eFuseAddr = a + 1
  header : s.efuseHeader = efuse a
  map : s.eFuseWord = t
  reads : ∀ x ∈ s.reads, x < efuseRealContentLen

lemma analyzeWords_eq (efuse : EfuseContent) (offset : ℕ) (words : List ℕ) : ∀ s : Analysis,
    s.eFuseAddr + words.length * 2 < efuseRealContentLen →
    (∀ x ∈ s.reads, x < efuseRealContentLen) →
      (analyzeWords efuse offset words s).eFuseAddr = s.eFuseAddr + words.length * 2 ∧
      (analyzeWords efuse offset words s).eFuseWord =
        (words.foldl (readWord efuse (offset * pgpktDataSize)) (s.eFuseAddr, s.eFuseWord)).2 ∧
      ∀ x ∈ (analyzeWords efuse offset words s).reads, x < efuseRealContentLen := by
  induction words with
  | nil => exact fun s _ hreads => ⟨rfl, rfl, hreads⟩
  | cons i words ih =>
      intro s hroom hreads
      rw [List.length_cons] at hroom
      rw [analyzeWords, if_pos (by omega), List.foldl_cons, List.length_cons]
      obtain ⟨haddr, hmap, hin⟩ := ih
        { s with
          eFuseAddr := s.eFuseAddr + 2
          eFuseWord := (readWord efuse (offset * pgpktDataSize) (s.eFuseAddr, s.eFuseWord) i).2
          reads := s.reads ++ [s.eFuseAddr, s.eFuseAddr + 1] }
        (by dsimp only; omega) (by
          intro x hx
          rcases List.mem_append.1 hx with hx | hx
          · exact hreads x hx
          · rcases List.mem_pair.1 hx with rfl | rfl
            · omega
            · omega)
      refine ⟨?_, hmap, hin⟩
      rw [haddr]
      dsimp only
      omega

/-- A packet whose words, if it has any, are of a legal section and have room. -/
lemma analyzePacket_eq (efuse : EfuseContent) {offset : ℕ} {wden : BitVec 8}
    (hwords : enabledWords wden ≠ [] → offset < efuseMaxSection)
    (hroom : s.eFuseAddr + efuseCalculateWordCnts wden * 2 < efuseRealContentLen)
    (hreads : ∀ x ∈ s.reads, x < efuseRealContentLen) :
    AtHeader efuse (s.eFuseAddr + efuseCalculateWordCnts wden * 2)
      (readData efuse offset wden s.eFuseAddr s.eFuseWord).2
      (analyzePacket efuse offset wden s) := by
  have hend {s' : Analysis} {e : ℕ} (he : e < efuseRealContentLen) (haddr : s'.eFuseAddr = e)
      (hin : ∀ x ∈ s'.reads, x < efuseRealContentLen) :
      AtHeader efuse e s'.eFuseWord (s'.readHeader efuse) := by
    subst haddr
    refine ⟨rfl, rfl, rfl, fun x hx => ?_⟩
    rcases List.mem_append.1 hx with hx | hx
    · exact hin x hx
    · rw [List.mem_singleton.1 hx]
      exact he
  rw [analyzePacket, readData]
  by_cases hoff : offset < efuseMaxSection
  · rw [if_pos hoff, if_pos hoff]
    obtain ⟨haddr, hmap, hin⟩ := analyzeWords_eq efuse offset _ s hroom hreads
    rw [← hmap]
    exact hend hroom haddr hin
  · have hnil : enabledWords wden = [] := by
      by_contra h
      exact hoff (hwords h)
    rw [if_neg hoff, if_neg hoff]
    refine hend hroom ?_ hreads
    rw [efuseCalculateWordCnts, hnil]
    rfl

/-- A turn of the loop decodes a plain packet as the reader does. -/
lemma analyzeLoop_succ {t : EfuseMap} (h : AtHeader efuse a t s) (hheader : HeaderAt efuse a)
    (hun : ¬ Unfinished efuse a) (ha : a + 1 < efuseRealContentLen) (hplain : Plain efuse a)
    (fuel : ℕ) :
    packetEnd efuse a < efuseRealContentLen ∧
      ∃ s', analyzeLoop efuse (fuel + 1) s = analyzeLoop efuse fuel s' ∧
        AtHeader efuse (packetEnd efuse a) (applyPacket efuse t a) s' := by
  obtain ⟨haddr, hhdr, rfl, hreads⟩ := h
  have hgo : s.efuseHeader ≠ 0xFF#8 ∧ s.eFuseAddr < efuseRealContentLen :=
    ⟨by rw [hhdr]; exact hheader.2, by rw [haddr]; exact ha⟩
  have hone : ∀ x ∈ s.reads ++ [s.eFuseAddr], x < efuseRealContentLen := by
    intro x hx
    rcases List.mem_append.1 hx with hx | hx
    · exact hreads x hx
    · rw [List.mem_singleton.1 hx]
      exact hgo.2
  rw [analyzeLoop, if_neg (not_not.2 hgo), hhdr]
  by_cases hext : extHeader (efuse a) = true
  · have hend := hplain.ext hext
    have hne : efuse (a + 1) ≠ 0xFF#8 := fun hff => hun ⟨hext, hff⟩
    have hwords := hplain.words
    rw [if_pos hext]
    dsimp only
    rw [haddr] at hone
    rw [haddr, if_pos hne]
    refine ⟨hend, ?_⟩
    rw [packetAt, if_pos hext] at hwords
    rw [packetEnd, if_pos hext, applyPacket, if_pos hext]
    rw [packetEnd, if_pos hext] at hend hwords
    by_cases hdis : allWordsDisabled (efuse (a + 1)) = true
    · rw [if_pos hdis] at hend
      rw [if_pos hdis, if_pos hdis, if_pos hdis]
      refine ⟨_, rfl, rfl, rfl, rfl, fun x hx => ?_⟩
      rcases List.mem_append.1 hx with hx | hx
      · exact hone x hx
      · rw [List.mem_singleton.1 hx]
        exact hend
    · rw [if_neg hdis] at hend hwords
      rw [if_neg hdis, if_neg hdis, if_neg hdis]
      have hpacket := analyzePacket_eq efuse
        (s := { s with eFuseAddr := a + 2, efuseHeader := efuse a, reads := s.reads ++ [a + 1] })
        (fun h => (hwords _ _ _ rfl h).1) hend hone
      exact ⟨_, rfl, hpacket⟩
  · have hwords := hplain.words
    rw [packetAt, if_neg hext] at hwords
    have hend : packetEnd efuse a < efuseRealContentLen := by
      by_cases hnil : enabledWords (efuse a &&& 0x0F#8) = []
      · rw [packetEnd, if_neg hext, efuseCalculateWordCnts, hnil]
        exact ha
      · exact (hwords _ _ _ rfl hnil).2
    refine ⟨hend, ?_⟩
    rw [packetEnd, if_neg hext] at hend ⊢
    rw [if_neg hext, applyPacket, if_neg hext, ← haddr]
    refine ⟨_, rfl, analyzePacket_eq efuse (fun h => (hwords _ _ _ rfl h).1) ?_ hreads⟩
    rw [haddr]
    exact hend

/-- A packet of the last byte has no words, if it is plain. -/
lemma applyPacket_of_last (hplain : Plain efuse a) (ha : efuseRealContentLen ≤ a + 1)
    (t : EfuseMap) : applyPacket efuse t a = t := by
  have hlt := lt_packetEnd efuse a
  have hext : ¬ extHeader (efuse a) = true := fun hext => by
    have hend := hplain.ext hext
    omega
  have hnil : enabledWords (efuse a &&& 0x0F#8) = [] := by
    by_contra hne
    have hend := (hplain.words _ _ _ (by rw [packetAt, if_neg hext]) hne).2
    omega
  rw [applyPacket, if_neg hext, readData, hnil]
  split <;> rfl

/-- The loop puts the words of the plain packets into the map, and reads only the bank. -/
lemma analyzeLoop_eq (a : ℕ) : ∀ (fuel : ℕ) {s : Analysis} {t : EfuseMap}, AtHeader efuse a t s →
    a < efuseRealContentLen → efuseRealContentLen ≤ a + fuel →
    (∀ x ∈ Walk.records (analyzeNext efuse) efuseRealContentLen a, Plain efuse x) →
    ∃ s', analyzeLoop efuse fuel s = some s' ∧
      s'.eFuseWord = (Walk.records (analyzeNext efuse) efuseRealContentLen a).foldl
        (applyPacket efuse) t ∧ ∀ x ∈ s'.reads, x < efuseRealContentLen := by
  induction a using (analyzeNext_forward efuse).induction with
  | none a hnone =>
      intro fuel s t h ha hfuel _
      obtain ⟨fuel, rfl⟩ : ∃ k, fuel = k + 1 := ⟨fuel - 1, by omega⟩
      rw [Walk.records_of_none hnone, analyzeLoop]
      by_cases hgo : s.efuseHeader ≠ 0xFF#8 ∧ s.eFuseAddr < efuseRealContentLen
      · -- an unfinished header
        have hheader : HeaderAt efuse a := ⟨ha, h.header ▸ hgo.1⟩
        obtain ⟨hext, hff⟩ := analyzeNext_eq_none.1 hnone hheader
        rw [if_neg (not_not.2 hgo), h.header, if_pos hext]
        dsimp only
        rw [h.addr, if_neg (not_not.2 hff)]
        refine ⟨_, rfl, h.map, fun x hx => ?_⟩
        rcases List.mem_append.1 hx with hx | hx
        · exact h.reads x hx
        · rw [List.mem_singleton.1 hx, ← h.addr]
          exact hgo.2
      · rw [if_pos hgo]
        exact ⟨s, rfl, h.map, h.reads⟩
  | some a b hsome ih =>
      intro fuel s t h ha hfuel hplain
      obtain ⟨⟨hheader, hun⟩, rfl⟩ := analyzeNext_eq_some.1 hsome
      have hlt := lt_packetEnd efuse a
      obtain ⟨fuel, rfl⟩ : ∃ k, fuel = k + 1 := ⟨fuel - 1, by omega⟩
      rw [(analyzeNext_forward efuse).records_of_some hsome] at hplain ⊢
      obtain ⟨hfirst, hrest⟩ := List.forall_mem_cons.1 hplain
      rw [List.foldl_cons]
      by_cases hlast : a + 1 < efuseRealContentLen
      · obtain ⟨hend, s', hloop, h'⟩ := analyzeLoop_succ h hheader hun hlast hfirst fuel
        rw [hloop]
        exact ih fuel h' hend (by omega) hrest
      · -- the loop does not go on after the last byte, and the reader finds no packet there
        have hnone : analyzeNext efuse (packetEnd efuse a) = none :=
          analyzeNext_eq_none.2 fun hheader' => absurd hheader'.1 (by omega)
        have hstop : ¬ (s.efuseHeader ≠ 0xFF#8 ∧ s.eFuseAddr < efuseRealContentLen) := by
          rw [h.addr]
          exact fun hgo => hlast hgo.2
        rw [Walk.records_of_none hnone, applyPacket_of_last hfirst (not_lt.1 hlast), analyzeLoop,
          if_pos hstop]
        exact ⟨s, rfl, h.map, h.reads⟩

/-! ### The map -/

/-- The content of an efuse whose log ends at `e`. -/
def upTo (efuse : EfuseContent) (e : ℕ) : EfuseContent := fun x => if x < e then efuse x else 0xFF#8

/-- The reader finds the packets of the diagnosis first. -/
lemma records_readNext {efuse' : EfuseContent}
    (hsame : ∀ x < analyzedEnd efuse, efuse' x = efuse x) :
    headers efuse' = analyzed efuse ++
      Walk.records (readNext efuse') efuseRealContentLen (analyzedEnd efuse) := by
  refine ((analyzeNext_forward efuse).congr (readNext_forward efuse') 0 fun x hx => ?_).1
  obtain ⟨y, hy, hle⟩ := (analyzeNext_forward efuse).next_le_stop 0 x hx
  obtain ⟨⟨hheader, -⟩, hend⟩ := analyzeNext_eq_some.1 hy
  have hread : readNext efuse x = some y := readNext_eq_some.2 ⟨hheader, hend⟩
  rw [hy, ← hread]
  exact readNext_congr hheader (hend.le.trans hle) hsame

/-- The reader builds this map from the packets that are decoded, when its log ends there. -/
lemma readEnd_efuseTbl {efuse' : EfuseContent}
    (hsame : ∀ x < analyzedEnd efuse, efuse' x = efuse x)
    (hend : ¬ HeaderAt efuse' (analyzedEnd efuse)) :
    (readEnd efuse').efuseTbl = (analyzed efuse).foldl (applyPacket efuse) fun _ => 0xFF#8 := by
  rw [readEnd_eq, records_readNext hsame, Walk.records_of_none (readNext_eq_none.2 hend),
    List.append_nil]
  refine List.foldl_ext _ _ _ fun t x hx => ?_
  obtain ⟨y, hy, hle⟩ := (analyzeNext_forward efuse).next_le_stop 0 x hx
  obtain ⟨-, rfl⟩ := analyzeNext_eq_some.1 hy
  exact applyPacket_congr t hle hsame

/-- No packet has a byte behind the sections. -/
lemma foldl_applyPacket_of_le {p : ℕ} (hp : efuseMaxSection * pgpktDataSize ≤ p) (l : List ℕ)
    (t : EfuseMap) : l.foldl (applyPacket efuse) t p = t p := by
  refine foldl_applyPacket_of_not_hasByte (fun a _ w h => ?_) t
  obtain ⟨sec, wden, d, -, hsec, rfl, -⟩ := h
  have hlt := (Nat.div_lt_iff_lt_mul (by decide)).1 hsec
  omega

/-- For every content of the efuse the diagnosis ends.  If the packets before the first unfinished
header are plain, it reads only the bank, and its map is the one `hal_ReadEFuse_WiFi` builds from
the log up to that header; without an unfinished header, from the whole log. -/
theorem efuse_analyze_eq (efuse : EfuseContent) (fake : Bool) :
    ∃ r, rtwEfuseAnalyze efuse fake = some r ∧
      ((∀ a ∈ analyzed efuse, Plain efuse a) →
        (∀ x ∈ r.reads, x < efuseRealContentLen) ∧
        r.fakeEfuseInitMap = (readEnd (upTo efuse (analyzedEnd efuse))).efuseTbl ∧
        (¬ Unfinished efuse (analyzedEnd efuse) →
          r.fakeEfuseInitMap = (readEnd efuse).efuseTbl)) := by
  obtain ⟨r, hr⟩ := rtwEfuseAnalyze_ends efuse fake
  refine ⟨r, hr, fun hplain => ?_⟩
  suffices h : (∀ x ∈ r.reads, x < efuseRealContentLen) ∧
      r.fakeEfuseInitMap = (analyzed efuse).foldl (applyPacket efuse) fun _ => 0xFF#8 by
    refine ⟨h.1, ?_, fun hun => ?_⟩
    · have hsame : ∀ x < analyzedEnd efuse, upTo efuse (analyzedEnd efuse) x = efuse x :=
        fun x hx => if_pos hx
      rw [h.2, readEnd_efuseTbl hsame]
      exact fun hheader => hheader.2 (if_neg (lt_irrefl _))
    · rw [h.2, readEnd_efuseTbl fun _ _ => rfl]
      intro hheader
      exact hun (analyzeNext_eq_none.1 ((analyzeNext_forward efuse).next_stop 0) hheader)
  have hstart : AtHeader efuse 0 (fun _ => 0xFF#8)
      (Analysis.readHeader efuse { eFuseAddr := 0, eFuseWord := fun _ => 0xFF#8 }) := by
    refine ⟨rfl, rfl, rfl, fun x hx => ?_⟩
    obtain rfl : x = 0 := List.mem_singleton.1 hx
    decide
  rw [rtwEfuseAnalyze] at hr
  split at hr
  · -- nothing is programmed
    rename_i hblank
    obtain rfl := Option.some.inj hr
    have hnone : analyzeNext efuse 0 = none :=
      analyzeNext_eq_none.2 fun hheader => absurd hblank.1 hheader.2
    refine ⟨hstart.reads, ?_⟩
    rw [analyzed, Walk.records_of_none hnone]
    rfl
  · obtain ⟨s, hs, hmap, hreads⟩ := analyzeLoop_eq 0 efuseRealContentLen hstart (by decide)
      (Nat.le_add_left _ _) hplain
    rw [hs] at hr
    obtain rfl := Option.some.inj hr
    refine ⟨hreads, ?_⟩
    ext1 x
    dsimp only
    split
    · rw [hmap]
      rfl
    · rename_i hx
      rw [foldl_applyPacket_of_le (not_lt.1 hx)]

/-- A packet of section 0 with two words, and one of section 9 with one. -/
def twoSections : EfuseContent := fun a =>
  ([0x0A#8, 0x11#8, 0x22#8, 0x33#8, 0x44#8, 0x2F#8, 0x1E#8, 0x55#8, 0x66#8].getD a 0xFF#8)

/-- The diagnosis has the words of both where the reader has them. -/
theorem efuse_analyze_eq_twoSections :
    ∃ r, rtwEfuseAnalyze twoSections false = some r ∧
      (∀ x ∈ r.reads, x < efuseRealContentLen) ∧
      r.fakeEfuseInitMap = (readEnd twoSections).efuseTbl ∧
      [0, 1, 4, 5, 72, 73].map r.fakeEfuseInitMap = [0x11#8, 0x22#8, 0x33#8, 0x44#8, 0x55#8, 0x66#8]
    := by
  obtain ⟨r, hr, hrest⟩ := efuse_analyze_eq twoSections false
  have hlog : analyzed twoSections = [0, 5] := by decide +kernel
  have hend : ¬ Unfinished twoSections (analyzedEnd twoSections) := by decide +kernel
  have hplain : ∀ a ∈ analyzed twoSections, Plain twoSections a := by
    intro a ha
    rw [hlog, List.mem_cons, List.mem_singleton] at ha
    rcases ha with rfl | rfl
    · exact ⟨fun h => absurd h (by decide), fun sec wden d h _ => by
        obtain ⟨rfl, -⟩ := Prod.mk.inj (Option.some.inj h)
        exact ⟨by decide, by decide⟩⟩
    · exact ⟨fun _ => by decide, fun sec wden d h _ => by
        obtain ⟨rfl, -⟩ := Prod.mk.inj (Option.some.inj h)
        exact ⟨by decide, by decide⟩⟩
  obtain ⟨hreads, -, hmap⟩ := hrest hplain
  refine ⟨r, hr, hreads, hmap hend, ?_⟩
  rw [hmap hend]
  decide +kernel

/-- An unfinished header, and a packet after it. -/
def afterUnfinished : EfuseContent := fun a =>
  if a = 0 then 0x0F#8 else if a = 2 then 0x0E#8 else if a = 3 then 0x12#8
    else if a = 4 then 0x34#8 else 0xFF#8

/-- The diagnosis gives the log up, and the reader goes on. -/
theorem not_analyze_eq : ¬ ∀ efuse fake, ∃ r, rtwEfuseAnalyze efuse fake = some r ∧
    r.fakeEfuseInitMap = (readEnd efuse).efuseTbl ∧ ∀ x ∈ r.reads, x < efuseRealContentLen := by
  intro h
  obtain ⟨r, hr, hmap, -⟩ := h afterUnfinished false
  have hread : (readEnd afterUnfinished).efuseTbl 0 = 0x12#8 := by decide +kernel
  have hanalyzed : (rtwEfuseAnalyze afterUnfinished false).map (fun r => r.fakeEfuseInitMap 0) =
      some 0xFF#8 := by decide +kernel
  rw [hr, Option.map_some, hmap, hread] at hanalyzed
  exact absurd hanalyzed (by decide)

end Rtl8723du
