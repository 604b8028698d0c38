import Rtl8723du.Lib.Bytes
import Rtl8723du.Lib.Machine
import Rtl8723du.Lib.Replay
import Rtl8723du.Lib.Serial
import Rtl8723du.Recv.Frame

/-!
# The packet numbers of received CCMP frames

`recv_bcast_pn_decache` keeps the last packet number of each group key id,
`recv_ucast_pn_decache` the last IV of each TID of a station.  Both compare
packet numbers by `VALID_PN_CHK`, which wraps around and takes any number after
zero (`validPnChk_iff`).

* `recv_bcast_pn_decache_increasing`: what a station accepts under one key id
  increases, zeros apart, as long as no number is `2 ^ 47` or more behind.
* `recv_ucast_pn_decache_cache`: under the same condition the cached number of a
  TID does not decrease; no frame is dropped for its packet number.
-/

namespace Rtl8723du

open Lib.Serial Lib.Bytes Lib.Machine

/-! ### Packet numbers -/

/-- `CCMPH_2_PN`: the packet number of a CCMP header. -/
def ccmph2Pn (ch : BitVec 64) : BitVec 64 :=
  (ch &&& 0x000000000000ffff#64) ||| ((ch &&& 0xffffffff00000000#64) >>> 16)

/-- `CCMPH_2_KEYID`: the key id of a CCMP header. -/
def ccmph2Keyid (ch : BitVec 64) : Fin 4 :=
  Fin.ofNat 4 ((ch &&& 0x00000000c0000000#64) >>> 30).toNat

/-- `PN_LESS_CHK(a, b)`, on `u64`. -/
def pnLessChk (a b : BitVec 64) : Bool := (a - b) &&& 0x800000000000#64 != 0#64

/-- `VALID_PN_CHK(new, old)`. -/
def validPnChk (new old : BitVec 64) : Bool := old == 0#64 || pnLessChk old new

/-- The CCMP header of a frame, `*(u64 *)(pdata + hdrlen)`. -/
def RecvFrame.ccmpHdr (f : RecvFrame) : BitVec 64 :=
  BitVec.ofNat 64 (leAt f.rxData f.attrib.hdrlen 8)

/-- The packet number of a CCMP frame. -/
def RecvFrame.pktPn (f : RecvFrame) : ℕ := (ccmph2Pn f.ccmpHdr).toNat

lemma ccmph2Pn_lt (ch : BitVec 64) : (ccmph2Pn ch).toNat < 2 ^ 48 := by
  rw [ccmph2Pn, BitVec.toNat_or, BitVec.toNat_ushiftRight, Nat.shiftRight_eq_div_pow]
  refine Nat.or_lt_two_pow ?_ ?_
  · rw [BitVec.toNat_and]
    exact (Nat.and_le_right).trans_lt (by decide)
  · have := (ch &&& 0xffffffff00000000#64).isLt
    omega

/-- A packet number is valid if it is ahead of the old one by at most `2 ^ 47`,
or behind by that much, or if the old one is zero. -/
lemma validPnChk_iff {new old : BitVec 64} (hnew : new.toNat < 2 ^ 48) (hold : old.toNat < 2 ^ 48) :
    validPnChk new old = true ↔ old.toNat = 0 ∨
      (old.toNat < new.toNat ∧ new.toNat ≤ old.toNat + 2 ^ 47) ∨
      new.toNat + 2 ^ 47 ≤ old.toNat := by
  have hless : pnLessChk old new = true ↔ 2 ^ 47 ≤ ahead (2 ^ 48) new.toNat old.toNat := by
    have h := sub_and_twoPow_ne_zero_iff (w := 64) (k := 47) (by decide) old.toNat new.toNat
    rw [BitVec.ofNat_toNat, BitVec.ofNat_toNat] at h
    rw [pnLessChk, bne_iff_ne]
    exact h
  have hzero : (old == 0#64) = true ↔ old.toNat = 0 := by
    rw [beq_iff_eq]
    exact BitVec.toNat_eq
  rw [validPnChk, Bool.or_eq_true, hzero, hless]
  rcases Nat.lt_or_ge old.toNat new.toNat with hlt | hge
  · rw [ahead_of_lt hlt (by omega)]
    omega
  · rw [ahead_of_le hge (by omega)]
    omega

/-! ### Group frames -/

/-- The part of `struct security_priv` that `recv_bcast_pn_decache` works on:
`iv_seq`, one `u64` for each key id. -/
abbrev IvSeq := Fin 4 → BitVec 64

/-- The cached packet number of a key id, `curr_pn`. -/
def IvSeq.currPn (s : IvSeq) (keyId : Fin 4) : ℕ := (s keyId &&& 0x0000ffffffffffff#64).toNat

/-- `recv_bcast_pn_decache`; `stationState` is the bit `WIFI_STATION_STATE`. -/
def recvBcastPnDecache (stationState : Bool) (s : IvSeq) (f : RecvFrame) : RxRet × IvSeq :=
  if f.attrib.encrypt = .aes ∧ stationState then
    let tmpIvHdr := f.ccmpHdr
    let keyId := ccmph2Keyid tmpIvHdr
    let pktPn := ccmph2Pn tmpIvHdr
    let currPn := s keyId &&& 0x0000ffffffffffff#64
    if !validPnChk pktPn currPn then (.fail, s)
    else (.success, Function.update s keyId pktPn)
  else (.success, s)

/-- One group frame: it is handed on when `recv_bcast_pn_decache` accepts it. -/
def bcastStep (stationState : Bool) (s : IvSeq) (f : RecvFrame) : IvSeq × List RecvFrame :=
  let r := recvBcastPnDecache stationState s f
  (r.2, if r.1 = .success then [f] else [])

/-- The key id a CCMP frame names. -/
def RecvFrame.keyId (f : RecvFrame) : Fin 4 := ccmph2Keyid f.ccmpHdr

/-- The packet number of the frame is `2 ^ 47` or more behind the cached one. -/
def IvSeq.FarBehind (s : IvSeq) (f : RecvFrame) : Prop := f.pktPn + 2 ^ 47 ≤ s.currPn f.keyId

instance (s : IvSeq) (f : RecvFrame) : Decidable (s.FarBehind f) :=
  inferInstanceAs (Decidable (_ ≤ _))

lemma IvSeq.currPn_update (s : IvSeq) (f : RecvFrame) :
    (fun k => IvSeq.currPn (Function.update s f.keyId (ccmph2Pn f.ccmpHdr)) k) =
      Function.update (fun k => s.currPn k) f.keyId f.pktPn := by
  funext k
  by_cases hk : k = f.keyId
  · subst hk
    rw [Function.update_self, currPn, Function.update_self, RecvFrame.pktPn, BitVec.toNat_and]
    have := ccmph2Pn_lt f.ccmpHdr
    exact (Nat.and_two_pow_sub_one_eq_mod _ 48).trans (Nat.mod_eq_of_lt this)
  · rw [Function.update_of_ne hk, currPn, Function.update_of_ne hk, currPn]

/-- A station accepts a group frame that is not far behind exactly if its number is
fresh, and then caches the number. -/
lemma bcastStep_cases (s : IvSeq) {f : RecvFrame} (haes : f.attrib.encrypt = .aes)
    (hfar : ¬s.FarBehind f) :
    bcastStep true s f = (s, []) ∨
      (bcastStep true s f).2 = [f] ∧
        (s.currPn f.keyId < f.pktPn ∨ s.currPn f.keyId = 0) ∧
        (fun k => (bcastStep true s f).1.currPn k) =
          Function.update (fun k => s.currPn k) f.keyId f.pktPn := by
  have hcurr : s.currPn f.keyId < 2 ^ 48 := by
    rw [IvSeq.currPn, BitVec.toNat_and]
    exact (Nat.and_le_right).trans_lt (by decide)
  have hvalid := validPnChk_iff (ccmph2Pn_lt f.ccmpHdr) hcurr
  simp only [bcastStep, recvBcastPnDecache, haes, and_self, if_true]
  by_cases hok : validPnChk (ccmph2Pn f.ccmpHdr) (s f.keyId &&& 0x0000ffffffffffff#64) = true
  · refine Or.inr ?_
    have hok' := hvalid.1 hok
    rw [RecvFrame.keyId] at hok
    simp only [hok, Bool.not_true, Bool.false_eq_true, if_false, if_true, true_and]
    refine ⟨?_, s.currPn_update f⟩
    rw [IvSeq.FarBehind, RecvFrame.pktPn] at hfar
    rw [RecvFrame.pktPn]
    simp only [IvSeq.currPn] at hfar ⊢
    omega
  · rw [Bool.not_eq_true, RecvFrame.keyId] at hok
    exact Or.inl (by simp [hok])

/-- In station state, and as long as no frame is `2 ^ 47` or more behind the cached
number of its key id, the packet numbers accepted under one key id increase; only
number zero may be accepted again. -/
theorem recv_bcast_pn_decache_increasing {s : IvSeq} {fs : List RecvFrame}
    (hfs : Along (bcastStep true) (fun s f => f.attrib.encrypt = .aes ∧ ¬s.FarBehind f) s fs) :
    (outputs (bcastStep true) s fs).Pairwise fun f g =>
      f.keyId = g.keyId → f.pktPn < g.pktPn ∨ f.pktPn = 0 ∧ g.pktPn = 0 := by
  -- the cached numbers bound all accepted ones
  have hinv := history_induction
    (I := fun s => Lib.Replay.Inv RecvFrame.keyId RecvFrame.pktPn fun k => s.currPn k)
    (h := []) (fun s h f hf hi => ?_) .nil hfs
  · exact hinv.increasing
  · rcases bcastStep_cases s hf.1 hf.2 with hstep | ⟨hout, hfresh, hnext⟩
    · simpa [hstep] using hi
    · rw [hout]
      exact hi.accept hfresh hnext

/-- A CCMP frame after a 24-byte header. -/
def ccmpMpdu (priority : ℕ) (keyId : UInt8) (pn : ℕ) : RecvFrame where
  attrib := { encrypt := .aes, hdrlen := 24, priority := priority }
  rxData := (List.replicate 24 0 : List UInt8) ++ leBytes 2 pn ++
    ([0, keyId <<< 6 ||| 0x20] : List UInt8) ++ leBytes 4 (pn / 2 ^ 16)

/-- A station accepts 7 and 9, and then not 8. -/
theorem recv_bcast_pn_decache_increasing_run :
    (outputs (bcastStep true) (fun _ => 0#64) [ccmpMpdu 0 1 7, ccmpMpdu 0 1 9, ccmpMpdu 0 1 8]).map
        RecvFrame.pktPn = [7, 9] ∧
      (outputs (bcastStep true) (fun _ => 0#64)
        [ccmpMpdu 0 1 7, ccmpMpdu 0 1 9, ccmpMpdu 0 1 8]).Pairwise fun f g =>
          f.keyId = g.keyId → f.pktPn < g.pktPn ∨ f.pktPn = 0 ∧ g.pktPn = 0 := by
  refine ⟨by decide +kernel, recv_bcast_pn_decache_increasing ?_⟩
  decide +kernel

/-- Zero is taken again after zero; outside of station state nothing is checked. -/
theorem recv_bcast_pn_decache_repeats :
    ¬((outputs (bcastStep true) (fun _ => 0#64) [ccmpMpdu 0 1 0, ccmpMpdu 0 1 0]).Pairwise
        fun f g => f.keyId = g.keyId → f.pktPn < g.pktPn) ∧
      ¬((outputs (bcastStep false) (fun _ => 0#64) [ccmpMpdu 0 1 7, ccmpMpdu 0 1 7]).Pairwise
        fun f g => f.keyId = g.keyId → f.pktPn < g.pktPn) := by
  decide +kernel

/-! ### Unicast frames -/

/-- The part of `struct stainfo_rxcache` that `recv_ucast_pn_decache` works on. -/
structure StainfoRxcache where
  /-- The last IV of each TID, as a `u64`. -/
  iv : Fin 16 → BitVec 64
  lastTid : ℕ

/-- The cached packet number of a TID, `curr_pn`. -/
def StainfoRxcache.currPn (c : StainfoRxcache) (tid : Fin 16) : ℕ := (ccmph2Pn (c.iv tid)).toNat

/-- `recv_ucast_pn_decache`.  The `return _FAIL` for a number that is not valid is
commented out in the source. -/
def recvUcastPnDecache (c : StainfoRxcache) (f : RecvFrame) : RxRet × StainfoRxcache :=
  if h : 15 < f.attrib.priority then (.fail, c)
  else if f.attrib.encrypt = .aes then
    let tid : Fin 16 := ⟨f.attrib.priority, by omega⟩
    let pktPn := ccmph2Pn f.ccmpHdr
    let currPn := ccmph2Pn (c.iv tid)
    if !validPnChk pktPn currPn then (.success, c)
    else
      (.success,
        { c with lastTid := f.attrib.priority, iv := Function.update c.iv tid f.ccmpHdr })
  else (.success, c)

/-- One unicast frame: it is handed on when `recv_ucast_pn_decache` lets it pass. -/
def ucastStep (c : StainfoRxcache) (f : RecvFrame) : StainfoRxcache × List RecvFrame :=
  let r := recvUcastPnDecache c f
  (r.2, if r.1 = .success then [f] else [])

/-- The packet number of the frame is `2 ^ 47` or more behind the cached one of its
TID. -/
def StainfoRxcache.FarBehind (c : StainfoRxcache) (f : RecvFrame) : Prop :=
  ∃ h : f.attrib.priority < 16, f.pktPn + 2 ^ 47 ≤ c.currPn ⟨f.attrib.priority, h⟩

instance (c : StainfoRxcache) (f : RecvFrame) : Decidable (c.FarBehind f) :=
  inferInstanceAs (Decidable (∃ _ : _, _))

/-- Only the TID of a frame decides whether it passes. -/
lemma recvUcastPnDecache_eq_success (c : StainfoRxcache) (f : RecvFrame) :
    (recvUcastPnDecache c f).1 = .success ↔ f.attrib.priority ≤ 15 := by
  unfold recvUcastPnDecache
  split
  · simpa using ‹15 < f.attrib.priority›
  · have hle : f.attrib.priority ≤ 15 := by omega
    simp only [hle, iff_true]
    split
    · split <;> rfl
    · rfl

/-- A frame that is not far behind does not set the cached numbers back. -/
lemma currPn_le_ucastStep {c : StainfoRxcache} {f : RecvFrame} (hfar : ¬c.FarBehind f)
    (tid : Fin 16) : c.currPn tid ≤ (ucastStep c f).1.currPn tid := by
  simp only [ucastStep, recvUcastPnDecache]
  split
  · exact le_rfl
  · rename_i hprio
    split
    · by_cases hok : validPnChk (ccmph2Pn f.ccmpHdr)
        (ccmph2Pn (c.iv ⟨f.attrib.priority, by omega⟩)) = true
      · simp only [hok, Bool.not_true, Bool.false_eq_true, if_false, StainfoRxcache.currPn]
        by_cases htid : tid = ⟨f.attrib.priority, by omega⟩
        · subst htid
          rw [Function.update_self]
          rcases (validPnChk_iff (ccmph2Pn_lt _) (ccmph2Pn_lt _)).1 hok with h | h | h
          · omega
          · exact h.1.le
          · exact absurd ⟨_, h⟩ hfar
        · rw [Function.update_of_ne htid]
      · simp [hok]
    · exact le_rfl

/-- Every frame of a TID up to 15 passes, whatever its packet number.  As long as no
frame is `2 ^ 47` or more behind the cached number of its TID, the cached numbers
never decrease over a run. -/
theorem recv_ucast_pn_decache_cache (c : StainfoRxcache) (fs : List RecvFrame) :
    (∀ pre f post, fs = pre ++ f :: post →
        ((recvUcastPnDecache (final ucastStep c pre) f).1 = .success ↔ f.attrib.priority ≤ 15)) ∧
      (Along ucastStep (fun c f => ¬c.FarBehind f) c fs →
        ∀ pre mid post, fs = pre ++ mid ++ post → ∀ tid,
          (final ucastStep c pre).currPn tid ≤ (final ucastStep c (pre ++ mid)).currPn tid) := by
  refine ⟨fun pre f _ _ => recvUcastPnDecache_eq_success _ f, ?_⟩
  rintro hfs pre mid post rfl tid
  have hmid := (hfs.left).right
  rw [final_append]
  exact final_induction (I := fun c' => (final ucastStep c pre).currPn tid ≤ c'.currPn tid)
    (fun c' f hf hle => hle.trans (currPn_le_ucastStep hf tid)) le_rfl hmid

/-- A frame behind the cached number passes and leaves the cache as it is. -/
theorem recv_ucast_pn_decache_cache_run :
    (recvUcastPnDecache (final ucastStep ⟨fun _ => 0#64, 0⟩ [ccmpMpdu 5 0 7])
        (ccmpMpdu 5 0 3)).1 = .success ∧
      (final ucastStep ⟨fun _ => 0#64, 0⟩ [ccmpMpdu 5 0 7]).currPn 5 ≤
        (final ucastStep ⟨fun _ => 0#64, 0⟩ [ccmpMpdu 5 0 7, ccmpMpdu 5 0 3]).currPn 5 := by
  have h := recv_ucast_pn_decache_cache ⟨fun _ => 0#64, 0⟩ [ccmpMpdu 5 0 7, ccmpMpdu 5 0 3]
  exact ⟨(h.1 [ccmpMpdu 5 0 7] (ccmpMpdu 5 0 3) [] rfl).2 (by decide),
    h.2 (by decide +kernel) [ccmpMpdu 5 0 7] [ccmpMpdu 5 0 3] [] rfl 5⟩

/-- A replay passes: after number 5 of a TID, number 5 and number 3 pass as well. -/
theorem recv_ucast_pn_decache_passes_replay :
    ¬((outputs ucastStep ⟨fun _ => 0#64, 0⟩
        [ccmpMpdu 0 0 5, ccmpMpdu 0 0 5, ccmpMpdu 0 0 3]).Pairwise
      fun f g => f.attrib.priority = g.attrib.priority → f.pktPn < g.pktPn) := by
  decide +kernel

end Rtl8723du
