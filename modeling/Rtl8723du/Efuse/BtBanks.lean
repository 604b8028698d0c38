import Rtl8723du.Efuse.PacketRead

/-!
# The BT banks of the efuse

The BT part of the efuse has two banks of 128 bytes, each with a log of its own.
`hal_ReadEFuse_BT` reads them into one map, `hal_EfuseGetCurrentSize_BT` goes over them to find the
end.  Both go to the next bank when the log leaves no room in this one, and both take the length of
the WiFi bank, 512, for the end of a bank.  They agree, and stay in the banks, if the log of each
bank they come to ends in the bank (`efuse_bt_agree_iff`).
-/

namespace Rtl8723du

open Lib

/-! ### `hal_ReadEFuse_BT` -/

/-- `EFUSE_BT_REAL_BANK_CONTENT_LEN`. -/
abbrev efuseBtRealBankContentLen : ℕ := 128

/-- `EFUSE_BT_MAP_LEN`. -/
abbrev efuseBtMapLen : ℕ := 1024

/-- `EFUSE_BT_MAX_SECTION`. -/
abbrev efuseBtMaxSection : ℕ := 128

/-- `TYPE_AVAILABLE_EFUSE_BYTES_BANK` of a BT bank, without `EFUSE_PROTECT_BYTES_BANK`. -/
abbrev availableBtBytes : ℕ := efuseBtRealBankContentLen - 16

/-- What is read of a bank, by its number. -/
abbrev BtBanks := ℕ → EfuseContent

/-- The variables of `hal_ReadEFuse_BT`, with the bytes of the banks that have been read, the
places of the map that have been written, and where the data of each bank ended. -/
structure BtRead where
  eFuseAddr : ℕ
  efuseTbl : EfuseMap
  reads : List (ℕ × ℕ) := []
  writes : List ℕ := []
  ends : List (ℕ × ℕ) := []

/-- A byte of the bank is read, `eFuse_Addr++`. -/
def BtRead.next (bank : ℕ) (r : BtRead) : BtRead :=
  { r with eFuseAddr := r.eFuseAddr + 1, reads := r.reads ++ [(bank, r.eFuseAddr)] }

/-- Read the word `i` of the section at `addr` of the map. -/
def btReadWord (efuse : EfuseContent) (bank addr : ℕ) (r : BtRead) (i : ℕ) : BtRead :=
  { (r.next bank).next bank with
    efuseTbl := (readWord efuse addr (r.eFuseAddr, r.efuseTbl) i).2
    writes := r.writes ++ [addr + 2 * i, addr + 2 * i + 1] }

/-- The data of a packet. -/
def btReadData (efuse : EfuseContent) (bank offset : ℕ) (wden : BitVec 8) (r : BtRead) : BtRead :=
  if offset < efuseBtMaxSection then
    (enabledWords wden).foldl (btReadWord efuse bank (offset * pgpktDataSize)) r
  else { r with eFuseAddr := r.eFuseAddr + efuseCalculateWordCnts wden * 2 }

/-- The loop of `hal_ReadEFuse_BT` over a bank. -/
def btReadLoop (efuse : EfuseContent) (bank : ℕ) : ℕ → BtRead → Option BtRead
  | 0, _ => none
  | fuel + 1, r =>
      if ¬ availableEfuseAddr r.eFuseAddr then some r
      else
        let efuseHeader := efuse r.eFuseAddr
        let r := r.next bank
        if efuseHeader = 0xFF#8 then some r
        else if extHeader efuseHeader then
          let efuseExtHdr := efuse r.eFuseAddr
          let r := r.next bank
          if allWordsDisabled efuseExtHdr then btReadLoop efuse bank fuel r
          else btReadLoop efuse bank fuel (btReadData efuse bank
            (extHeaderOffset efuseHeader efuseExtHdr).toNat (efuseExtHdr &&& 0x0F#8) r)
        else btReadLoop efuse bank fuel (btReadData efuse bank (headerOffset efuseHeader).toNat
          (efuseHeader &&& 0x0F#8) r)

/-- The loop over a bank has ended, `data end at eFuse_Addr - 1`. -/
def BtRead.dataEnd (bank : ℕ) (r : BtRead) : BtRead :=
  { r with ends := r.ends ++ [(bank, r.eFuseAddr - 1)] }

/-- The turns that are enough for a bank. -/
abbrev bankTurns : ℕ := efuseRealContentLen + 1

/-- The loop over `n` banks from `bank` on: the bank it ends with, and the variables. -/
def btReadBanks (banks : BtBanks) : ℕ → ℕ → BtRead → Option (ℕ × BtRead)
  | 0, bank, r => some (bank, r)
  | n + 1, bank, r =>
      (btReadLoop (banks bank) bank bankTurns { r with eFuseAddr := 0 }).bind fun r =>
        let r := r.dataEnd bank
        if r.eFuseAddr - 1 < availableBtBytes then some (bank, r)
        else btReadBanks banks n (bank + 1) r

/-- The loops of `hal_ReadEFuse_BT`, over the banks 1 and 2. -/
def btRead (banks : BtBanks) : Option (ℕ × BtRead) :=
  btReadBanks banks 2 1 { eFuseAddr := 0, efuseTbl := fun _ => 0xFF#8 }

/-- `used`. -/
def btUsed (bank eFuseAddr : ℕ) : ℕ := efuseBtRealBankContentLen * (bank - 1) + eFuseAddr - 1

/-! ### `hal_EfuseGetCurrentSize_BT` -/

/-- The variables of the scan of a bank. -/
structure BtSize where
  efuseAddr : ℕ
  reads : List (ℕ × ℕ) := []
  ends : List (ℕ × ℕ) := []

/-- A byte of the bank is read. -/
def BtSize.read (bank : ℕ) (s : BtSize) (efuseAddr : ℕ) : BtSize :=
  { s with reads := s.reads ++ [(bank, efuseAddr)] }

/-- The loop of `hal_EfuseGetCurrentSize_BT` over a bank. -/
def btSizeLoop (efuse : EfuseContent) (bank : ℕ) : ℕ → BtSize → Option BtSize
  | 0, _ => none
  | fuel + 1, s =>
      if ¬ availableEfuseAddr s.efuseAddr then some s
      else
        let efuseData := efuse s.efuseAddr
        let s := s.read bank s.efuseAddr
        if efuseData = 0xFF#8 then some s
        else if extHeader efuseData then
          let efuseAddr := s.efuseAddr + 1
          let extData := efuse efuseAddr
          let s := s.read bank efuseAddr
          if allWordsDisabled extData then
            btSizeLoop efuse bank fuel { s with efuseAddr := efuseAddr + 1 }
          else btSizeLoop efuse bank fuel
            { s with
              efuseAddr := efuseAddr + (efuseCalculateWordCnts (extData &&& 0x0F#8) * 2 + 1) }
        else btSizeLoop efuse bank fuel
          { s with
            efuseAddr := s.efuseAddr + (efuseCalculateWordCnts (efuseData &&& 0x0F#8) * 2 + 1) }

/-- The loop over a bank has ended. -/
def BtSize.dataEnd (bank : ℕ) (s : BtSize) : BtSize :=
  { s with ends := s.ends ++ [(bank, s.efuseAddr)] }

/-- The loop over `n` banks from `bank` on: the address is kept for the first one. -/
def btSizeBanks (banks : BtBanks) (startBank : ℕ) : ℕ → ℕ → BtSize → Option (ℕ × BtSize)
  | 0, bank, s => some (bank, s)
  | n + 1, bank, s =>
      (btSizeLoop (banks bank) bank bankTurns
        (if bank ≠ startBank then { s with efuseAddr := 0 } else s)).bind fun s =>
          let s := s.dataEnd bank
          if s.efuseAddr < availableBtBytes then some (bank, s)
          else btSizeBanks banks startBank n (bank + 1) s

/-- The loops of `hal_EfuseGetCurrentSize_BT`, from the length `btusedbytes` on. -/
def btSize (banks : BtBanks) (btusedbytes : ℕ) : Option (ℕ × BtSize) :=
  let startBank := (1 + btusedbytes / efuseBtRealBankContentLen) % 256
  btSizeBanks banks startBank (3 - startBank) startBank
    { efuseAddr := btusedbytes % efuseBtRealBankContentLen }

/-- `hal_EfuseGetCurrentSize_BT`, from the length that is noted in `HW_VAR_EFUSE_BT_BYTES`. -/
def halEfuseGetCurrentSizeBT (banks : BtBanks) (btusedbytes : ℕ) : Option ℕ :=
  (btSize banks btusedbytes).map fun s =>
    (efuseBtRealBankContentLen * s.1 + s.2.efuseAddr + 2 ^ 16 - efuseBtRealBankContentLen) % 2 ^ 16

/-! ### The loop of the reader over a bank -/

/-- From `a` to `b` bytes of the bank were read, and places inside the map written. -/
structure BtRead.Went (bank a b : ℕ) (r r' : BtRead) : Prop where
  addr : r'.eFuseAddr = b
  reads : ∃ new, r'.reads = r.reads ++ new ∧ ∀ x ∈ new, x.1 = bank ∧ a ≤ x.2 ∧ x.2 < b
  writes : ∃ new, r'.writes = r.writes ++ new ∧ ∀ x ∈ new, x < efuseBtMapLen
  ends : r'.ends = r.ends

variable {efuse : EfuseContent} {bank a b c : ℕ} {r r' r'' : BtRead}

lemma BtRead.Went.trans (h : Went bank a b r r') (h' : Went bank b c r' r'') (hab : a ≤ b)
    (hbc : b ≤ c) : Went bank a c r r'' := by
  obtain ⟨new, hreads, hnew⟩ := h.reads
  obtain ⟨new', hreads', hnew'⟩ := h'.reads
  obtain ⟨ws, hwrites, hws⟩ := h.writes
  obtain ⟨ws', hwrites', hws'⟩ := h'.writes
  refine ⟨h'.addr, ⟨new ++ new', by rw [hreads', hreads, List.append_assoc], fun x hx => ?_⟩,
    ⟨ws ++ ws', by rw [hwrites', hwrites, List.append_assoc], fun x hx => ?_⟩,
    h'.ends.trans h.ends⟩
  · rcases List.mem_append.1 hx with hx | hx
    · obtain ⟨hbank, hlo, hhi⟩ := hnew x hx
      exact ⟨hbank, hlo, by omega⟩
    · obtain ⟨hbank, hlo, hhi⟩ := hnew' x hx
      exact ⟨hbank, by omega, hhi⟩
  · rcases List.mem_append.1 hx with hx | hx
    · exact hws x hx
    · exact hws' x hx

lemma BtRead.Went.mem_reads (h : Went bank a b r r') {x : ℕ × ℕ} (hx : x ∈ r.reads) :
    x ∈ r'.reads := by
  obtain ⟨new, hreads, -⟩ := h.reads
  rw [hreads]
  exact List.mem_append_left new hx

lemma BtRead.went_next (bank : ℕ) (r : BtRead) :
    Went bank r.eFuseAddr (r.eFuseAddr + 1) r (r.next bank) := by
  refine ⟨rfl, ⟨[(bank, r.eFuseAddr)], rfl, fun x hx => ?_⟩,
    ⟨[], (List.append_nil _).symm, by simp⟩, rfl⟩
  obtain rfl := List.mem_singleton.1 hx
  exact ⟨rfl, le_rfl, Nat.lt_succ_self _⟩

/-- The places of a word are in the map: there are no more sections than the map has. -/
lemma BtRead.went_word {offset i : ℕ} (hoff : offset < efuseBtMaxSection) (hi : i < 4)
    (efuse : EfuseContent) (bank : ℕ) (r : BtRead) :
    Went bank r.eFuseAddr (r.eFuseAddr + 2) r
      (btReadWord efuse bank (offset * pgpktDataSize) r i) := by
  refine ⟨rfl, ⟨[(bank, r.eFuseAddr), (bank, r.eFuseAddr + 1)], ?_, fun x hx => ?_⟩,
    ⟨[offset * pgpktDataSize + 2 * i, offset * pgpktDataSize + 2 * i + 1], rfl, fun x hx => ?_⟩,
    rfl⟩
  · simp [btReadWord, BtRead.next]
  · rcases List.mem_pair.1 hx with rfl | rfl
    · exact ⟨rfl, le_rfl, by omega⟩
    · exact ⟨rfl, Nat.le_succ _, Nat.lt_succ_self _⟩
  · have hoff : offset < 128 := hoff
    show x < 1024
    rcases List.mem_pair.1 hx with rfl | rfl
    · unfold pgpktDataSize
      omega
    · unfold pgpktDataSize
      omega

lemma BtRead.went_skip {b : ℕ} (bank : ℕ) (r : BtRead) :
    Went bank r.eFuseAddr b r { r with eFuseAddr := b } :=
  ⟨rfl, ⟨[], (List.append_nil _).symm, by simp⟩, ⟨[], (List.append_nil _).symm, by simp⟩, rfl⟩

lemma BtRead.went_words {offset : ℕ} (hoff : offset < efuseBtMaxSection) (words : List ℕ)
    (hwords : ∀ i ∈ words, i < 4) : ∀ r : BtRead,
      Went bank r.eFuseAddr (r.eFuseAddr + words.length * 2) r
        (words.foldl (btReadWord efuse bank (offset * pgpktDataSize)) r) := by
  induction words with
  | nil => exact fun r => went_skip bank r
  | cons i words ih =>
      intro r
      have hfirst := went_word hoff (hwords i List.mem_cons_self) efuse bank r
      have hrest := ih (fun j hj => hwords j (List.mem_cons_of_mem i hj))
        (btReadWord efuse bank (offset * pgpktDataSize) r i)
      rw [hfirst.addr] at hrest
      have hlen : r.eFuseAddr + (i :: words).length * 2 = r.eFuseAddr + 2 + words.length * 2 := by
        rw [List.length_cons]
        omega
      rw [hlen]
      exact hfirst.trans hrest (Nat.le_add_right _ _) (Nat.le_add_right _ _)

lemma BtRead.went_data (efuse : EfuseContent) (bank offset : ℕ) (wden : BitVec 8) (r : BtRead) :
    Went bank r.eFuseAddr (r.eFuseAddr + efuseCalculateWordCnts wden * 2) r
      (btReadData efuse bank offset wden r) := by
  rw [btReadData]
  split
  · rename_i hoff
    exact went_words hoff _ (fun i hi => (mem_enabledWords.1 hi).1) r
  · exact went_skip bank r

/-- A turn of the loop goes over one packet, and reads its header. -/
lemma btReadLoop_succ (h : HeaderAt efuse r.eFuseAddr) (bank fuel : ℕ) :
    ∃ r', btReadLoop efuse bank (fuel + 1) r = btReadLoop efuse bank fuel r' ∧
      BtRead.Went bank r.eFuseAddr (packetEnd efuse r.eFuseAddr) r r' ∧
      (bank, r.eFuseAddr) ∈ r'.reads := by
  have havail : availableEfuseAddr r.eFuseAddr = true := by simpa [availableEfuseAddr] using h.1
  have hone := BtRead.went_next bank r
  have hmem : (bank, r.eFuseAddr) ∈ (r.next bank).reads := by simp [BtRead.next]
  rw [btReadLoop, if_neg (by simp [havail]), packetEnd]
  dsimp only
  rw [if_neg h.2]
  by_cases hext : extHeader (efuse r.eFuseAddr) = true
  · have htwo := hone.trans (BtRead.went_next bank (r.next bank)) (Nat.le_succ _) (Nat.le_succ _)
    have hmem' : (bank, r.eFuseAddr) ∈ ((r.next bank).next bank).reads := by
      rw [BtRead.next]
      exact List.mem_append_left _ hmem
    rw [if_pos hext, if_pos hext, hone.addr]
    by_cases hdis : allWordsDisabled (efuse (r.eFuseAddr + 1)) = true
    · rw [if_pos hdis, if_pos hdis]
      exact ⟨_, rfl, htwo, hmem'⟩
    · rw [if_neg hdis, if_neg hdis]
      have hdata := BtRead.went_data efuse bank
        (extHeaderOffset (efuse r.eFuseAddr) (efuse (r.eFuseAddr + 1))).toNat
        (efuse (r.eFuseAddr + 1) &&& 0x0F#8) ((r.next bank).next bank)
      exact ⟨_, rfl, htwo.trans hdata (Nat.le_add_right _ 2) (Nat.le_add_right _ _),
        hdata.mem_reads hmem'⟩
  · rw [if_neg hext, if_neg hext]
    have hdata := BtRead.went_data efuse bank (headerOffset (efuse r.eFuseAddr)).toNat
      (efuse r.eFuseAddr &&& 0x0F#8) (r.next bank)
    exact ⟨_, rfl, hone.trans hdata (Nat.le_succ _) (Nat.le_add_right _ _), hdata.mem_reads hmem⟩

/-- Where the log of a bank ends for the loops. -/
def bankEnd (efuse : EfuseContent) (a : ℕ) : ℕ := Walk.stop (readNext efuse) efuseRealContentLen a

lemma le_bankEnd (efuse : EfuseContent) (a : ℕ) : a ≤ bankEnd efuse a :=
  (readNext_forward efuse).le_stop a

lemma packetEnd_le_add (efuse : EfuseContent) (a : ℕ) : packetEnd efuse a ≤ a + 10 := by
  have hwords (wden : BitVec 8) : efuseCalculateWordCnts wden ≤ 4 := List.length_filter_le _ _
  have hshort := hwords (efuse a &&& 0x0F#8)
  have hlong := hwords (efuse (a + 1) &&& 0x0F#8)
  unfold packetEnd
  split
  · split <;> omega
  · omega

/-- The loop of the reader ends.  It stops after the end of the log, and has read so far. -/
lemma btReadLoop_spec (efuse : EfuseContent) (bank a : ℕ) : ∀ (fuel : ℕ) {r : BtRead},
    r.eFuseAddr = a → 0 < fuel → efuseRealContentLen < a + fuel →
    ∃ r', btReadLoop efuse bank fuel r = some r' ∧ BtRead.Went bank a r'.eFuseAddr r r' ∧
      r'.eFuseAddr = (if bankEnd efuse a < efuseRealContentLen then bankEnd efuse a + 1
        else bankEnd efuse a) ∧
      (a < efuseRealContentLen → ∃ x, (bank, x) ∈ r'.reads ∧ min (bankEnd efuse a) 502 ≤ x) := by
  induction a using (readNext_forward efuse).induction with
  | none a hnone =>
      intro fuel r hr hpos _
      obtain ⟨fuel, rfl⟩ : ∃ k, fuel = k + 1 := ⟨fuel - 1, by omega⟩
      have hend : bankEnd efuse a = a := Walk.stop_of_none hnone
      have hheader := readNext_eq_none.1 hnone
      rw [hend, btReadLoop, hr]
      by_cases ha : a < efuseRealContentLen
      · have hff : efuse a = 0xFF#8 := by
          by_contra hne
          exact hheader ⟨ha, hne⟩
        rw [if_neg (by simp [availableEfuseAddr, ha]), if_pos hff, if_pos ha]
        have hnext := BtRead.went_next bank r
        rw [hr] at hnext
        refine ⟨_, rfl, ?_, hnext.addr, fun _ => ⟨a, ?_, min_le_left _ _⟩⟩
        · rwa [hnext.addr]
        · simp [BtRead.next, hr]
      · rw [if_pos (by simpa [availableEfuseAddr] using ha), if_neg ha]
        refine ⟨_, rfl, ?_, hr, fun h => absurd h ha⟩
        rw [← hr]
        exact BtRead.went_skip bank r
  | some a b hsome ih =>
      intro fuel r hr _ hfuel
      obtain ⟨hheader, rfl⟩ := readNext_eq_some.1 hsome
      have hlt := lt_packetEnd efuse a
      have hlimit := hheader.1
      obtain ⟨fuel, rfl⟩ : ∃ k, fuel = k + 1 := ⟨fuel - 1, by omega⟩
      subst hr
      obtain ⟨r₁, hloop, hwent, hread⟩ := btReadLoop_succ hheader bank fuel
      obtain ⟨r', hr', hwent', haddr, hfar⟩ := ih fuel hwent.addr (by omega) (by omega)
      have hend : bankEnd efuse r.eFuseAddr = bankEnd efuse (packetEnd efuse r.eFuseAddr) :=
        (readNext_forward efuse).stop_of_some hsome
      have hle := le_bankEnd efuse (packetEnd efuse r.eFuseAddr)
      rw [hend]
      refine ⟨r', hloop.trans hr', hwent.trans hwent' hlt.le (by split at haddr <;> omega), haddr,
        fun _ => ?_⟩
      by_cases hroom : packetEnd efuse r.eFuseAddr < efuseRealContentLen
      · exact hfar hroom
      · -- the last packet is read, and it begins close to the limit
        have hclose := packetEnd_le_add efuse r.eFuseAddr
        have hlen : efuseRealContentLen = 512 := rfl
        exact ⟨_, hwent'.mem_reads hread, by omega⟩

/-! ### The loop of the scan over a bank -/

/-- Bytes of the bank up to `b` were read. -/
structure BtSize.Went (bank b : ℕ) (s s' : BtSize) : Prop where
  reads : ∃ new, s'.reads = s.reads ++ new ∧ ∀ x ∈ new, x.2 ≤ b
  ends : s'.ends = s.ends

lemma BtSize.Went.trans {s s' s'' : BtSize} (h : Went bank b s s') (h' : Went bank c s' s'')
    (hbc : b ≤ c) : Went bank c s s'' := by
  obtain ⟨new, hreads, hnew⟩ := h.reads
  obtain ⟨new', hreads', hnew'⟩ := h'.reads
  refine ⟨⟨new ++ new', by rw [hreads', hreads, List.append_assoc], fun x hx => ?_⟩,
    h'.ends.trans h.ends⟩
  rcases List.mem_append.1 hx with hx | hx
  · exact (hnew x hx).trans hbc
  · exact hnew' x hx

/-- A turn of the loop goes over one packet. -/
lemma btSizeLoop_succ {s : BtSize} (h : HeaderAt efuse s.efuseAddr) (bank fuel : ℕ) :
    ∃ s', btSizeLoop efuse bank (fuel + 1) s = btSizeLoop efuse bank fuel s' ∧
      s'.efuseAddr = packetEnd efuse s.efuseAddr ∧
      BtSize.Went bank (packetEnd efuse s.efuseAddr) s s' := by
  have havail : availableEfuseAddr s.efuseAddr = true := by simpa [availableEfuseAddr] using h.1
  rw [btSizeLoop, if_neg (by simp [havail]), packetEnd]
  dsimp only
  rw [if_neg h.2]
  have haddr : (s.read bank s.efuseAddr).efuseAddr = s.efuseAddr := rfl
  by_cases hext : extHeader (efuse s.efuseAddr) = true
  · have htwo {e : ℕ} (he : s.efuseAddr + 1 ≤ e) (a : ℕ) : BtSize.Went bank e s
        { (s.read bank s.efuseAddr).read bank (s.efuseAddr + 1) with efuseAddr := a } := by
      refine ⟨⟨[(bank, s.efuseAddr), (bank, s.efuseAddr + 1)], by simp [BtSize.read],
        fun x hx => ?_⟩, rfl⟩
      rcases List.mem_pair.1 hx with rfl | rfl
      · exact Nat.le_of_succ_le he
      · exact he
    rw [if_pos hext, if_pos hext, haddr]
    by_cases hdis : allWordsDisabled (efuse (s.efuseAddr + 1)) = true
    · rw [if_pos hdis, if_pos hdis]
      exact ⟨_, rfl, rfl, htwo (Nat.le_succ _) _⟩
    · rw [if_neg hdis, if_neg hdis]
      refine ⟨_, rfl, ?_, htwo (by omega) _⟩
      dsimp only
      omega
  · rw [if_neg hext, if_neg hext, haddr]
    refine ⟨_, rfl, ?_, ⟨[(bank, s.efuseAddr)], rfl, fun x hx => ?_⟩, rfl⟩
    · dsimp only
      omega
    · obtain rfl := List.mem_singleton.1 hx
      show s.efuseAddr ≤ _
      omega

/-- The loop of the scan ends, at the end of the log. -/
lemma btSizeLoop_spec (efuse : EfuseContent) (bank a : ℕ) : ∀ (fuel : ℕ) {s : BtSize},
    s.efuseAddr = a → 0 < fuel → efuseRealContentLen < a + fuel →
    ∃ s', btSizeLoop efuse bank fuel s = some s' ∧ s'.efuseAddr = bankEnd efuse a ∧
      BtSize.Went bank (bankEnd efuse a) s s' := by
  induction a using (readNext_forward efuse).induction with
  | none a hnone =>
      intro fuel s hs hpos _
      obtain ⟨fuel, rfl⟩ : ∃ k, fuel = k + 1 := ⟨fuel - 1, by omega⟩
      have hend : bankEnd efuse a = a := Walk.stop_of_none hnone
      have hheader := readNext_eq_none.1 hnone
      rw [hend, btSizeLoop, hs]
      by_cases ha : a < efuseRealContentLen
      · have hff : efuse a = 0xFF#8 := by
          by_contra hne
          exact hheader ⟨ha, hne⟩
        rw [if_neg (by simp [availableEfuseAddr, ha]), if_pos hff]
        refine ⟨_, rfl, hs, ⟨[(bank, a)], rfl, fun x hx => ?_⟩, rfl⟩
        obtain rfl := List.mem_singleton.1 hx
        exact le_rfl
      · rw [if_pos (by simpa [availableEfuseAddr] using ha)]
        exact ⟨_, rfl, hs, ⟨[], (List.append_nil _).symm, by simp⟩, rfl⟩
  | some a b hsome ih =>
      intro fuel s hs _ hfuel
      obtain ⟨hheader, rfl⟩ := readNext_eq_some.1 hsome
      have hlt := lt_packetEnd efuse a
      have hlimit := hheader.1
      obtain ⟨fuel, rfl⟩ : ∃ k, fuel = k + 1 := ⟨fuel - 1, by omega⟩
      subst hs
      obtain ⟨s₁, hloop, haddr, hwent⟩ := btSizeLoop_succ hheader bank fuel
      obtain ⟨s', hs', haddr', hwent'⟩ := ih fuel haddr (by omega) (by omega)
      have hend : bankEnd efuse s.efuseAddr = bankEnd efuse (packetEnd efuse s.efuseAddr) :=
        (readNext_forward efuse).stop_of_some hsome
      rw [hend]
      exact ⟨s', hloop.trans hs', haddr', hwent.trans hwent' (le_bankEnd efuse _)⟩

/-! ### Both functions over the banks -/

/-- The log of the bank from `a` on ends at `e`, where the first byte `0xFF` stands in the place of
a header. -/
inductive LogEnds (efuse : EfuseContent) : ℕ → ℕ → Prop
  | blank {a : ℕ} : efuse a = 0xFF#8 → LogEnds efuse a a
  | packet {a e : ℕ} : efuse a ≠ 0xFF#8 → LogEnds efuse (packetEnd efuse a) e → LogEnds efuse a e

lemma LogEnds.le {a e : ℕ} (h : LogEnds efuse a e) : a ≤ e := by
  induction h with
  | blank _ => exact le_rfl
  | packet _ _ ih => exact (lt_packetEnd efuse _).le.trans ih

lemma LogEnds.bankEnd_eq {a e : ℕ} (h : LogEnds efuse a e) (he : e < efuseRealContentLen) :
    bankEnd efuse a = e := by
  induction h with
  | blank hff => exact Walk.stop_of_none (readNext_eq_none.2 fun h => h.2 hff)
  | packet hne hrest ih =>
      have hlt := hrest.le
      rw [← ih he]
      exact (readNext_forward efuse).stop_of_some
        (readNext_eq_some.2 ⟨⟨(lt_packetEnd efuse _).trans_le (hlt.trans he.le), hne⟩, rfl⟩)

lemma logEnds_bankEnd (efuse : EfuseContent) (a : ℕ) :
    bankEnd efuse a < efuseRealContentLen → LogEnds efuse a (bankEnd efuse a) := by
  induction a using (readNext_forward efuse).induction with
  | none a hnone =>
      have hend : bankEnd efuse a = a := Walk.stop_of_none hnone
      rw [hend]
      intro ha
      refine .blank ?_
      by_contra hne
      exact readNext_eq_none.1 hnone ⟨ha, hne⟩
  | some a b hsome ih =>
      have hend : bankEnd efuse a = bankEnd efuse b := (readNext_forward efuse).stop_of_some hsome
      obtain ⟨hheader, rfl⟩ := readNext_eq_some.1 hsome
      rw [hend]
      exact fun h => .packet hheader.2 (ih h)

/-- The log of the bank ends inside the bank. -/
def EndsInside (efuse : EfuseContent) : Prop := ∃ e < efuseBtRealBankContentLen, LogEnds efuse 0 e

lemma endsInside_iff : EndsInside efuse ↔ bankEnd efuse 0 < efuseBtRealBankContentLen := by
  have hbank : efuseBtRealBankContentLen = 128 := rfl
  have hlen : efuseRealContentLen = 512 := rfl
  constructor
  · rintro ⟨e, he, hlog⟩
    rwa [hlog.bankEnd_eq (by omega)]
  · exact fun h => ⟨_, h, logEnds_bankEnd efuse 0 (by omega)⟩

/-- The two functions agree on the banks: the reader ends and writes only the map, the scan ends in
each bank where the reader does, from the first bank on and from the length that the reader has
noted, and both read only bytes of the banks. -/
def BtAgree (banks : BtBanks) : Prop :=
  ∃ bank r, btRead banks = some (bank, r) ∧
    (∀ x ∈ r.reads, x.2 < efuseBtRealBankContentLen) ∧ (∀ x ∈ r.writes, x < efuseBtMapLen) ∧
    (∃ s, btSize banks 0 = some (bank, s) ∧ s.ends = r.ends) ∧
    ∀ n ∈ [0, btUsed bank r.eFuseAddr], ∃ s, btSize banks n = some (bank, s) ∧
      s.efuseAddr + 1 = r.eFuseAddr ∧ (∀ x ∈ s.reads, x.2 < efuseBtRealBankContentLen) ∧
      halEfuseGetCurrentSizeBT banks n = some (btUsed bank r.eFuseAddr)

/-- What the reader does with a bank. -/
structure BankRead (efuse : EfuseContent) (bank : ℕ) (r r' : BtRead) : Prop where
  addr : r'.eFuseAddr = if bankEnd efuse 0 < efuseRealContentLen then bankEnd efuse 0 + 1
    else bankEnd efuse 0
  reads : ∃ new, r'.reads = r.reads ++ new ∧ ∀ x ∈ new, x.2 < r'.eFuseAddr
  writes : ∃ new, r'.writes = r.writes ++ new ∧ ∀ x ∈ new, x < efuseBtMapLen
  ends : r'.ends = r.ends ++ [(bank, r'.eFuseAddr - 1)]
  far : ∃ x ∈ r'.reads, min (bankEnd efuse 0) 502 ≤ x.2

/-- What the scan does with a bank, from the address `a` on. -/
structure BankSize (efuse : EfuseContent) (bank a : ℕ) (s s' : BtSize) : Prop where
  addr : s'.efuseAddr = bankEnd efuse a
  reads : ∃ new, s'.reads = s.reads ++ new ∧ ∀ x ∈ new, x.2 ≤ s'.efuseAddr
  ends : s'.ends = s.ends ++ [(bank, s'.efuseAddr)]

lemma btReadBanks_succ (banks : BtBanks) (n bank : ℕ) (r : BtRead) :
    ∃ r', BankRead (banks bank) bank r r' ∧ btReadBanks banks (n + 1) bank r =
      if r'.eFuseAddr - 1 < availableBtBytes then some (bank, r')
      else btReadBanks banks n (bank + 1) r' := by
  obtain ⟨r', hloop, hwent, haddr, hfar⟩ := btReadLoop_spec (banks bank) bank 0 bankTurns
    (r := { r with eFuseAddr := 0 }) rfl (by decide) (by decide)
  obtain ⟨x, hx, hle⟩ := hfar (by decide)
  obtain ⟨new, hreads, hnew⟩ := hwent.reads
  refine ⟨r'.dataEnd bank, ⟨haddr, ⟨new, hreads, fun y hy => (hnew y hy).2.2⟩, hwent.writes, ?_,
    ⟨_, hx, hle⟩⟩, ?_⟩
  · exact congrArg (· ++ [(bank, r'.eFuseAddr - 1)]) hwent.ends
  · rw [btReadBanks, hloop]
    rfl

lemma btSizeBanks_succ (banks : BtBanks) (startBank n bank : ℕ) (s : BtSize) :
    ∃ s', BankSize (banks bank) bank (if bank ≠ startBank then 0 else s.efuseAddr) s s' ∧
      btSizeBanks banks startBank (n + 1) bank s =
        if s'.efuseAddr < availableBtBytes then some (bank, s')
        else btSizeBanks banks startBank n (bank + 1) s' := by
  have hturns : efuseRealContentLen < bankTurns := Nat.lt_succ_self _
  rw [btSizeBanks]
  have hspec (s₀ : BtSize) (hreads : s₀.reads = s.reads) (hends : s₀.ends = s.ends) :
      ∃ s', BankSize (banks bank) bank s₀.efuseAddr s s' ∧
        ((btSizeLoop (banks bank) bank bankTurns s₀).bind fun s =>
          let s := s.dataEnd bank
          if s.efuseAddr < availableBtBytes then some (bank, s)
          else btSizeBanks banks startBank n (bank + 1) s) =
        if s'.efuseAddr < availableBtBytes then some (bank, s')
        else btSizeBanks banks startBank n (bank + 1) s' := by
    obtain ⟨s', hloop, haddr, hwent⟩ := btSizeLoop_spec (banks bank) bank s₀.efuseAddr bankTurns
      (s := s₀) rfl (by decide) (hturns.trans_le (Nat.le_add_left _ _))
    obtain ⟨new, hreads', hnew⟩ := hwent.reads
    refine ⟨s'.dataEnd bank, ⟨haddr, ⟨new, ?_, fun x hx => ?_⟩, ?_⟩, by rw [hloop]; rfl⟩
    · exact hreads'.trans (congrArg (· ++ new) hreads)
    · exact (hnew x hx).trans haddr.ge
    · exact congrArg (· ++ [(bank, s'.efuseAddr)]) (hwent.ends.trans hends)
  split
  · exact hspec { s with efuseAddr := 0 } rfl rfl
  · exact hspec s rfl rfl

lemma btSize_of (banks : BtBanks) (k a : ℕ) (hk : k < 3) (ha : a < efuseBtRealBankContentLen) :
    btSize banks (efuseBtRealBankContentLen * k + a) =
      btSizeBanks banks (k + 1) (2 - k) (k + 1) { efuseAddr := a } := by
  have ha : a < 128 := ha
  have hstart : (1 + (128 * k + a) / 128) % 256 = k + 1 := by omega
  have haddr : (128 * k + a) % 128 = a := by omega
  have hturns : 3 - (k + 1) = 2 - k := by omega
  show btSizeBanks banks ((1 + (128 * k + a) / 128) % 256)
    (3 - (1 + (128 * k + a) / 128) % 256) ((1 + (128 * k + a) / 128) % 256)
    { efuseAddr := (128 * k + a) % 128 } = _
  rw [hstart, haddr, hturns]

/-- Whatever the banks hold, the reader ends, and it writes only places of the map. -/
theorem btRead_ends (banks : BtBanks) :
    ∃ bank r, btRead banks = some (bank, r) ∧ ∀ x ∈ r.writes, x < efuseBtMapLen := by
  obtain ⟨r₁, h₁, hbanks⟩ := btReadBanks_succ banks 1 1
    { eFuseAddr := 0, efuseTbl := fun _ => 0xFF#8 }
  obtain ⟨r₂, h₂, hbanks'⟩ := btReadBanks_succ banks 0 2 r₁
  obtain ⟨new₁, hwrites₁, hnew₁⟩ := h₁.writes
  obtain ⟨new₂, hwrites₂, hnew₂⟩ := h₂.writes
  have hmap : ∀ x ∈ r₁.writes, x < efuseBtMapLen := by
    rwa [hwrites₁, List.nil_append]
  have hmap' : ∀ x ∈ r₂.writes, x < efuseBtMapLen := by
    rw [hwrites₂]
    exact List.forall_mem_append.2 ⟨hmap, hnew₂⟩
  rw [btRead, hbanks]
  split
  · exact ⟨1, r₁, rfl, hmap⟩
  · rw [hbanks']
    split
    · exact ⟨2, r₂, rfl, hmap'⟩
    · exact ⟨3, r₂, rfl, hmap'⟩

lemma bankEnd_bankEnd (efuse : EfuseContent) (a : ℕ) :
    bankEnd efuse (bankEnd efuse a) = bankEnd efuse a :=
  Walk.stop_of_none ((readNext_forward efuse).next_stop a)

lemma BankRead.addr_of_lt {r r' : BtRead} (h : BankRead efuse bank r r')
    (he : bankEnd efuse 0 < efuseBtRealBankContentLen) : r'.eFuseAddr = bankEnd efuse 0 + 1 := by
  rw [h.addr, if_pos (he.trans (by decide))]

/-- A reader that stays in the bank finds the end of its log there. -/
lemma BankRead.endsInside {r r' : BtRead} (h : BankRead efuse bank r r')
    (hreads : ∀ x ∈ r'.reads, x.2 < efuseBtRealBankContentLen) : EndsInside efuse := by
  have hbank : efuseBtRealBankContentLen = 128 := rfl
  obtain ⟨x, hx, hle⟩ := h.far
  have hlt := hreads x hx
  rw [endsInside_iff]
  omega

lemma BankRead.reads_lt {r r' : BtRead} (h : BankRead efuse bank r r')
    (he : bankEnd efuse 0 < efuseBtRealBankContentLen)
    (hreads : ∀ x ∈ r.reads, x.2 < efuseBtRealBankContentLen) :
    ∀ x ∈ r'.reads, x.2 < efuseBtRealBankContentLen := by
  obtain ⟨new, hnew, hlt⟩ := h.reads
  rw [hnew]
  refine List.forall_mem_append.2 ⟨hreads, fun x hx => ?_⟩
  have hxlt := hlt x hx
  rw [h.addr_of_lt he] at hxlt
  omega

lemma BankSize.reads_lt {s s' : BtSize} (h : BankSize efuse bank a s s')
    (he : bankEnd efuse a < efuseBtRealBankContentLen)
    (hreads : ∀ x ∈ s.reads, x.2 < efuseBtRealBankContentLen) :
    ∀ x ∈ s'.reads, x.2 < efuseBtRealBankContentLen := by
  obtain ⟨new, hnew, hle⟩ := h.reads
  rw [hnew]
  refine List.forall_mem_append.2 ⟨hreads, fun x hx => ?_⟩
  have hxle := hle x hx
  rw [h.addr] at hxle
  omega

/-- The length of a log that ends at `e` in the bank. -/
lemma halEfuseGetCurrentSizeBT_of {banks : BtBanks} {n bank e : ℕ} {s : BtSize}
    (h : btSize banks n = some (bank, s)) (haddr : s.efuseAddr = e) (hpos : 0 < bank)
    (hbank : bank ≤ 3) (he : e < efuseBtRealBankContentLen) :
    halEfuseGetCurrentSizeBT banks n = some (btUsed bank (e + 1)) := by
  have hlen : efuseBtRealBankContentLen = 128 := rfl
  rw [hlen] at he
  have hsum : (128 * bank + e + 2 ^ 16 - 128) % 2 ^ 16 = 128 * (bank - 1) + (e + 1) - 1 := by omega
  rw [halEfuseGetCurrentSizeBT, h, Option.map_some, haddr, btUsed, hlen, hsum]

/-- The scan is right from `n` on: it ends at `e` in the bank, and stays in the banks. -/
def SizeFrom (banks : BtBanks) (bank e n : ℕ) (s : BtSize) : Prop :=
  btSize banks n = some (bank, s) ∧ s.efuseAddr = e ∧
    ∀ x ∈ s.reads, x.2 < efuseBtRealBankContentLen

lemma btAgree_of {banks : BtBanks} {k e : ℕ} {r : BtRead} {s s' : BtSize} (hk : k < 3)
    (he : e < efuseBtRealBankContentLen) (hread : btRead banks = some (k + 1, r))
    (haddr : r.eFuseAddr = e + 1) (hreads : ∀ x ∈ r.reads, x.2 < efuseBtRealBankContentLen)
    (hsize : SizeFrom banks (k + 1) e 0 s) (hends : s.ends = r.ends)
    (hsize' : SizeFrom banks (k + 1) e (efuseBtRealBankContentLen * k + e) s') :
    BtAgree banks := by
  have hused : btUsed (k + 1) r.eFuseAddr = efuseBtRealBankContentLen * k + e := by
    rw [btUsed, haddr, Nat.add_sub_cancel, ← Nat.add_assoc, Nat.add_sub_cancel]
  obtain ⟨bank, r', hread', hwrites⟩ := btRead_ends banks
  obtain ⟨rfl, rfl⟩ : k + 1 = bank ∧ r = r' := by simpa [hread] using hread'
  refine ⟨k + 1, r, hread, hreads, hwrites, ⟨s, hsize.1, hends⟩, ?_⟩
  rw [hused]
  have hone {n : ℕ} {s : BtSize} (h : SizeFrom banks (k + 1) e n s) :
      ∃ s, btSize banks n = some (k + 1, s) ∧ s.efuseAddr + 1 = r.eFuseAddr ∧
        (∀ x ∈ s.reads, x.2 < efuseBtRealBankContentLen) ∧
        halEfuseGetCurrentSizeBT banks n = some (efuseBtRealBankContentLen * k + e) := by
    refine ⟨s, h.1, by rw [h.2.1, haddr], h.2.2, ?_⟩
    rw [← hused, haddr]
    exact halEfuseGetCurrentSizeBT_of h.1 h.2.1 (Nat.succ_pos k) hk he
  intro n hn
  rcases List.mem_pair.1 hn with rfl | rfl
  · exact hone hsize
  · exact hone hsize'

/-- A scan that begins at the end of the log stays there. -/
lemma sizeFrom_bankEnd {banks : BtBanks} {k : ℕ} (hk : k < 2)
    (he : bankEnd (banks (k + 1)) 0 < availableBtBytes) :
    ∃ s, SizeFrom banks (k + 1) (bankEnd (banks (k + 1)) 0)
      (efuseBtRealBankContentLen * k + bankEnd (banks (k + 1)) 0) s := by
  have hin : bankEnd (banks (k + 1)) 0 < efuseBtRealBankContentLen := he.trans (by decide)
  obtain ⟨s, hs, hsize⟩ := btSizeBanks_succ banks (k + 1) (1 - k) (k + 1)
    { efuseAddr := bankEnd (banks (k + 1)) 0 }
  rw [if_neg (not_not.2 rfl)] at hs
  have haddr : s.efuseAddr = bankEnd (banks (k + 1)) 0 := hs.addr.trans (bankEnd_bankEnd _ 0)
  refine ⟨s, ?_, haddr, hs.reads_lt ?_ (by simp)⟩
  · rw [btSize_of banks k _ (by omega) hin, show 2 - k = 1 - k + 1 by omega, hsize,
      if_pos (haddr.trans_lt he)]
  · rwa [bankEnd_bankEnd]

/-- After the last bank there is nothing to scan. -/
lemma sizeFrom_three (banks : BtBanks) {e : ℕ} (he : e < efuseBtRealBankContentLen) :
    SizeFrom banks 3 e (efuseBtRealBankContentLen * 2 + e) { efuseAddr := e } :=
  ⟨btSize_of banks 2 e (by omega) he, rfl, by simp⟩

/-- `hal_ReadEFuse_BT` and `hal_EfuseGetCurrentSize_BT` agree if and only if the log of the first
bank ends inside it and, when it leaves no room there, that of the second one inside that. -/
theorem efuse_bt_agree_iff (banks : BtBanks) :
    BtAgree banks ↔
      EndsInside (banks 1) ∧
        ((∃ e, availableBtBytes ≤ e ∧ e < efuseBtRealBankContentLen ∧ LogEnds (banks 1) 0 e) →
          EndsInside (banks 2)) := by
  have hbank : efuseBtRealBankContentLen = 128 := rfl
  have hroom : availableBtBytes = 112 := rfl
  obtain ⟨r₁, h₁, hbanks₁⟩ := btReadBanks_succ banks 1 1
    { eFuseAddr := 0, efuseTbl := fun _ => 0xFF#8 }
  obtain ⟨r₂, h₂, hbanks₂⟩ := btReadBanks_succ banks 0 2 r₁
  constructor
  · rintro ⟨bank, r, hread, hreads, -⟩
    rw [btRead, hbanks₁] at hread
    by_cases hfull : r₁.eFuseAddr - 1 < availableBtBytes
    · rw [if_pos hfull] at hread
      obtain ⟨-, rfl⟩ := Prod.mk.injEq .. ▸ Option.some.inj hread
      have hends := h₁.endsInside hreads
      refine ⟨hends, ?_⟩
      rintro ⟨e, hle, hlt, hlog⟩
      have he := hlog.bankEnd_eq (hlt.trans (by decide))
      have haddr := h₁.addr_of_lt (endsInside_iff.1 hends)
      omega
    · have hboth : ∀ x ∈ r₂.reads, x.2 < efuseBtRealBankContentLen := by
        rw [if_neg hfull, hbanks₂] at hread
        split at hread
        · obtain ⟨-, rfl⟩ := Prod.mk.injEq .. ▸ Option.some.inj hread
          exact hreads
        · obtain ⟨-, rfl⟩ := Prod.mk.injEq .. ▸ Option.some.inj hread
          exact hreads
      obtain ⟨new, hnew, -⟩ := h₂.reads
      refine ⟨h₁.endsInside fun x hx => hboth x ?_, fun _ => h₂.endsInside hboth⟩
      rw [hnew]
      exact List.mem_append_left new hx
  · rintro ⟨hends₁, hends₂⟩
    have he₁ := endsInside_iff.1 hends₁
    have haddr₁ := h₁.addr_of_lt he₁
    have hin₁ := h₁.reads_lt he₁ (by simp)
    have hstart : btSize banks 0 = btSizeBanks banks 1 2 1 { efuseAddr := 0 } :=
      btSize_of banks 0 0 (by decide) (by decide)
    obtain ⟨s₁, hs₁, hsize₁⟩ := btSizeBanks_succ banks 1 1 1 { efuseAddr := 0 }
    rw [if_neg (not_not.2 rfl)] at hs₁
    have hsin₁ : ∀ x ∈ s₁.reads, x.2 < efuseBtRealBankContentLen := hs₁.reads_lt he₁ (by simp)
    have hsends₁ : s₁.ends = r₁.ends := by
      rw [hs₁.ends, h₁.ends, hs₁.addr, haddr₁]
      rfl
    have hread : btRead banks = _ := hbanks₁
    rw [haddr₁, Nat.add_sub_cancel] at hread
    by_cases hfull : bankEnd (banks 1) 0 < availableBtBytes
    · -- the log ends in the first bank
      obtain ⟨s', hs'⟩ := sizeFrom_bankEnd (k := 0) (by omega) hfull
      rw [if_pos hfull] at hread
      rw [if_pos (hs₁.addr.trans_lt hfull)] at hsize₁
      exact btAgree_of (by omega) he₁ hread haddr₁ hin₁
        ⟨hstart.trans hsize₁, hs₁.addr, hsin₁⟩ hsends₁ hs'
    · -- it goes on in the second one
      have hle : availableBtBytes ≤ bankEnd (banks 1) 0 := not_lt.1 hfull
      have he₂ := endsInside_iff.1
        (hends₂ ⟨_, hle, he₁, logEnds_bankEnd _ 0 (he₁.trans (by decide))⟩)
      have haddr₂ := h₂.addr_of_lt he₂
      have hin₂ := h₂.reads_lt he₂ hin₁
      obtain ⟨s₂, hs₂, hsize₂⟩ := btSizeBanks_succ banks 1 0 2 s₁
      rw [if_pos (by decide)] at hs₂
      have hsin₂ := hs₂.reads_lt he₂ hsin₁
      have hsends₂ : s₂.ends = r₂.ends := by
        rw [hs₂.ends, h₂.ends, hs₂.addr, haddr₂, hsends₁]
        rfl
      rw [if_neg hfull, hbanks₂, haddr₂, Nat.add_sub_cancel] at hread
      rw [if_neg (by rwa [hs₁.addr]), hsize₂, hs₂.addr] at hsize₁
      by_cases hfull₂ : bankEnd (banks 2) 0 < availableBtBytes
      · obtain ⟨s', hs'⟩ := sizeFrom_bankEnd (k := 1) (by omega) hfull₂
        rw [if_pos hfull₂] at hread hsize₁
        exact btAgree_of (by omega) he₂ hread haddr₂ hin₂
          ⟨hstart.trans hsize₁, hs₂.addr, hsin₂⟩ hsends₂ hs'
      · rw [if_neg hfull₂] at hread hsize₁
        exact btAgree_of (by omega) he₂ hread haddr₂ hin₂
          ⟨hstart.trans hsize₁, hs₂.addr, hsin₂⟩ hsends₂ (sizeFrom_three banks he₂)

/-- Banks whose first log has a packet across the end of the bank. -/
def acrossBanks : BtBanks := fun _ a =>
  if a < 126 then 0x00#8 else if a = 126 then 0x0E#8 else if a < 129 then 0x00#8 else 0xFF#8

/-- The packet at 126 has a word at 127 and 128. -/
theorem not_btAgree : ¬ ∀ banks, BtAgree banks := by
  intro h
  obtain ⟨bank, r, hread, hreads, -⟩ := h acrossBanks
  have hacross : ((btRead acrossBanks).map fun r => r.2.reads.contains (1, 128)) = some true := by
    decide +kernel
  rw [hread, Option.map_some] at hacross
  exact absurd (hreads (1, 128) (List.contains_iff_mem.1 (Option.some.inj hacross))) (by decide)

end Rtl8723du
