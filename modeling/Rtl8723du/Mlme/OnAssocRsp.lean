import Rtl8723du.Mlme.BeaconInfo
import Rtl8723du.Mlme.JoinHandlers

/-!
# `OnAssocRsp`

The elements of an Association Response are handled as they come; no check has been made that they
fit into the frame, or what they need.  `FrameFits` says from which offset on nothing goes wrong.
The handlers depend on the state: whether HT and QoS are on, and, for an element that is cut off
behind its header, whether the bits for LDPC and STBC are still asked for, which is so until an
element without them was handled.
-/

namespace Rtl8723du.Mlme

open Lib Lib.Footprint Lib.Memory

/-! ### The code -/

/-- The switch of `OnAssocRsp`; nothing if a loop inside does not end within `k` passes. -/
def assocElement (m : Mem) (pIE : ℕ) (st : JoinState) (k : ℕ) : Option (JoinState × Log) :=
  -- `_VENDOR_SPECIFIC_IE_`
  if m pIE = 221 then
    if readBytes m (pIE + 2) 6 = wmmParaOui then
      let r := wmmParamHandler m pIE st.adapter
      some ({ st with adapter := r.2.1 }, readData pIE 0 6 :: r.2.2)
    else if readBytes m (pIE + 2) 4 = wfdOui then
      (rtwProcessWfdIe m pIE (elen m pIE) st k).map fun r =>
        (r.1, readData pIE 0 6 :: readData pIE 0 4 :: r.2)
    else some (st, [readData pIE 0 6, readData pIE 0 4])
  -- `_HT_CAPABILITY_IE_`
  else if m pIE = 45 then some (htCapsHandler m pIE st)
  -- `_HT_EXTRA_INFO_IE_`
  else if m pIE = 61 then
    let r := htInfoHandler m pIE st.adapter
    some ({ st with adapter := r.1 }, r.2)
  -- `_ERPINFO_IE_`
  else if m pIE = 42 then
    let r := erpIeHandler m pIE st.adapter
    some ({ st with adapter := r.1 }, r.2)
  -- `_EID_RRM_EN_CAP_IE_`
  else if m pIE = 70 then some (rmIeHandler m pIE st)
  else some (st, [])

/-- A pass of the loop of `OnAssocRsp`, with `i`; nothing if a loop inside does not end. -/
def assocRspPass (m : Mem) (pktLen k : ℕ) (s : ℕ × JoinState × Log) :
    Option (JoinState × Log) ⊕ (ℕ × JoinState × Log) :=
  if s.1 < pktLen then
    (assocElement m s.1 s.2.1 k).elim (.inl none) fun r =>
      .inr ((s.1 + (elen m s.1 + 2)) % 2 ^ 32, r.1, s.2.2 ++ readHeader s.1 :: r.2)
  else .inl (some s.2)

/-- `WIFI_FW_AUTH_SUCCESS`. -/
abbrev wifiFwAuthSuccess : UInt32 := 0x400

/-- `WIFI_FW_ASSOC_STATE`. -/
abbrev wifiFwAssocState : UInt32 := 0x2000

/-- `WIFI_FW_ASSOC_SUCCESS`. -/
abbrev wifiFwAssocSuccess : UInt32 := 0x4000

/-- `get_da`: by the bit for a frame to the DS the third address, or the first. -/
def getDa (m : Mem) : List UInt8 := readBytes m (if m 1 &&& 1 ≠ 0 then 16 else 4) 6

/-- A 16-bit number in the frame. -/
def le16 (m : Mem) (a : ℕ) : ℕ := (m a).toNat + 256 * (m (a + 1)).toNat

/-- The frame is looked at. -/
def JoinState.expects (st : JoinState) (m : Mem) : Bool :=
  getDa m == st.macAddress.toList &&
    st.state &&& (wifiFwAuthSuccess ||| wifiFwAssocState) != 0 && !st.joinAbort &&
    st.state &&& wifiFwAssocSuccess == 0

/-- The status code. -/
def status (m : Mem) : ℕ := le16 m 26

/-- The association id. -/
def aid (m : Mem) : ℕ := le16 m 28 &&& 0x3fff

/-- `UpdateBrateTbl`, on a rate. -/
def basicRate (rate : UInt8) : UInt8 :=
  if [2, 4, 11, 22, 12, 24, 48].contains (rate &&& 0x7f) then rate ||| 0x80 else rate

/-- `report_assoc_result`, after a frame with a bad status or id. -/
def rejectAssoc (st : JoinState) (status : ℕ) : JoinState :=
  { st with
    state := 0
    assocRsp := none
    events := st.events ++ [.joinRes (-4) status, .roamNbDiscover] }

/-- What `OnAssocRsp` does behind the loop. -/
def acceptAssoc (malloc : ℕ → Bool) (m : Mem) (pktLen : ℕ) (st : JoinState) : JoinState :=
  { st with
    state := (st.state &&& ~~~wifiFwAssocState) ||| wifiFwAssocSuccess
    supportedRates := st.supportedRates.map basicRate
    assocRsp := if malloc pktLen then some (readBytes m 0 pktLen) else none
    events := st.events ++ [.joinRes st.aid 0, .roamNbDiscover] }

/-- What `OnAssocRsp` does before the loop. -/
def startAssoc (m : Mem) (st : JoinState) : JoinState :=
  { st with
    capability := le16 m 24
    slotTime := if le16 m 24 &&& 0x400 ≠ 0 then 9 else 20
    aid := aid m }

/-- `OnAssocRsp`, with at most `k` passes of each loop, and what the loop and the handlers touch. -/
def onAssocRsp (malloc : ℕ → Bool) (m : Mem) (pktLen : ℕ) (st : JoinState) (k : ℕ) :
    Option (JoinState × Log) :=
  if st.expects m = false then some (st, [])
  else if 0 < status m then some (rejectAssoc st (status m), [])
  else if aid m < 1 ∨ 2007 < aid m then some (rejectAssoc (startAssoc m st) (status m), [])
  else
    (Loop.run (assocRspPass m pktLen k) k (30, startAssoc m st, [])).join.map fun r =>
      (acceptAssoc malloc m pktLen r.1, r.2)

/-! ### What it should do -/

/-- The bytes of the frame. -/
def frameRange (pktLen : ℕ) : Range := ⟨0, pktLen⟩

/-- The loop and the handlers end, read inside of the frame only, and write inside of the structures
only. -/
def AssocRspOk (malloc : ℕ → Bool) (m : Mem) (pktLen : ℕ) (st : JoinState) : Prop :=
  ∃ k, ∃ r ∈ onAssocRsp malloc m pktLen st k, Confined Dest.size (frameRange pktLen) r.2

/-! ### When it does it -/

/-- What the handlers need to know. -/
structure Uses where
  qos : Bool
  ht : Bool
  miracast : Bool
  ldpc : Bool
  stbc : Bool
deriving DecidableEq, Repr

/-- What they know. -/
def JoinState.uses (st : JoinState) : Uses where
  qos := st.adapter.qosOption != 0
  ht := st.adapter.htOption
  miracast := st.miracast
  ldpc := st.asksLdpc
  stbc := st.asksStbc

/-- An HT capabilities element ends the questions for what it lacks. -/
def Uses.after (u : Uses) (m : Mem) (pIE : ℕ) : Uses :=
  if m pIE = 45 ∧ u.ht = true then
    { u with
      ldpc := u.ldpc && m (pIE + 2) &&& 1 != 0
      stbc := u.stbc && m (pIE + 2 + 1) &&& 3 != 0 }
  else u

/-- The attributes of a WFD element from an offset on: each header is in the frame, no attribute is
empty with its header, and the port of the device information is in the frame, if there is one. -/
inductive WfdFits (m : Mem) (pktLen wfdIe wfdIelen : ℕ) : ℕ → Prop
  | short {off : ℕ} : wfdIelen < off + 3 → WfdFits m pktLen wfdIe wfdIelen off
  | cut {off : ℕ} : off + 3 ≤ wfdIelen → wfdIe + off + 3 ≤ pktLen →
      wfdIelen < off + wfdAttrLen m (wfdIe + off) → WfdFits m pktLen wfdIe wfdIelen off
  | found {off : ℕ} : off + 3 ≤ wfdIelen → wfdIe + off + 3 ≤ pktLen →
      off + wfdAttrLen m (wfdIe + off) ≤ wfdIelen → m (wfdIe + off) = 0 →
      (wfdAttrLen m (wfdIe + off) ≠ 0 → wfdAttrLen m (wfdIe + off) ≠ 3 →
        wfdIe + off + 7 ≤ pktLen) →
      WfdFits m pktLen wfdIe wfdIelen off
  | next {off : ℕ} : off + 3 ≤ wfdIelen → wfdIe + off + 3 ≤ pktLen →
      off + wfdAttrLen m (wfdIe + off) ≤ wfdIelen → m (wfdIe + off) ≠ 0 →
      wfdAttrLen m (wfdIe + off) ≠ 0 →
      WfdFits m pktLen wfdIe wfdIelen (off + wfdAttrLen m (wfdIe + off)) →
      WfdFits m pktLen wfdIe wfdIelen off

/-- The element at an offset is no trouble. -/
@[mk_iff]
structure ElementFits (m : Mem) (pktLen : ℕ) (u : Uses) (pIE : ℕ) : Prop where
  header : pIE + 2 ≤ pktLen
  vendor : m pIE = 221 → pIE + 8 ≤ pktLen
  wmm : m pIE = 221 → readBytes m (pIE + 2) 6 = wmmParaOui → u.qos = true → pIE + 26 ≤ pktLen
  wfd : m pIE = 221 → readBytes m (pIE + 2) 4 = wfdOui → u.miracast = true → 6 < elen m pIE →
    WfdFits m pktLen pIE (elen m pIE) 6
  htCaps : m pIE = 45 → u.ht = true → elen m pIE ≤ 26 ∧ pIE + 2 + elen m pIE ≤ pktLen ∧
    (u.ldpc = true → pIE + 3 ≤ pktLen) ∧ (u.stbc = true → pIE + 4 ≤ pktLen)
  htInfo : m pIE = 61 → u.ht = true → elen m pIE ≤ 22 → pIE + 2 + elen m pIE ≤ pktLen
  erp : m pIE = 42 → elen m pIE ≤ 1 → pIE + 2 + elen m pIE ≤ pktLen
  rm : m pIE = 70 → pIE + 2 + min (elen m pIE) 5 ≤ pktLen

/-- The elements of the frame from an offset on are no trouble. -/
inductive FrameFits (m : Mem) (pktLen : ℕ) : Uses → ℕ → Prop
  | done {u : Uses} {i : ℕ} : pktLen ≤ i → FrameFits m pktLen u i
  | element {u : Uses} {i : ℕ} : i < pktLen → ElementFits m pktLen u i →
      FrameFits m pktLen (u.after m i) ((i + (elen m i + 2)) % 2 ^ 32) → FrameFits m pktLen u i

/-! ### Reading in the frame -/

variable {m : Mem} {pktLen i k n pIE off wfdIe wfdIelen : ℕ} {st st' : JoinState} {l l' : Log}
  {u : Uses} {o : Option (ℕ × ℕ)}

@[simp] lemma within_frame {a : ℕ} :
    (⟨a, n⟩ : Range).Within (frameRange pktLen) ↔ a + n ≤ pktLen := by
  rw [frameRange, within_mk]
  omega

lemma header_in_frame : Access.Inside Dest.size (frameRange pktLen) (readHeader pIE) ↔
    pIE + 2 ≤ pktLen := by
  rw [inside_readHeader, within_frame]

lemma data_in_frame : Access.Inside Dest.size (frameRange pktLen) (readData pIE off n) ↔
    pIE + 2 + off + n ≤ pktLen := by
  rw [inside_readData, within_frame]

/-! ### HT capabilities -/

/-- All data are read, and as many bytes of the structure written. -/
lemma confined_mergeLog (h : pIE + 2 ≤ pktLen) :
    Confined Dest.size (frameRange pktLen) (mergeLog m pIE) ↔
      elen m pIE ≤ 26 ∧ pIE + 2 + elen m pIE ≤ pktLen := by
  have hbyte (i : ℕ) :
      Confined Dest.size (frameRange pktLen) [readData pIE i 1, .write .htCaps i 1] ↔
        pIE + 2 + i + 1 ≤ pktLen ∧ i + 1 ≤ 26 := by
    rw [confined_cons, confined_cons, data_in_frame]
    simp [Dest.size]
  have hall : Confined Dest.size (frameRange pktLen) (mergeLog m pIE) ↔ ∀ i < elen m pIE,
      Confined Dest.size (frameRange pktLen) [readData pIE i 1, .write .htCaps i 1] := by
    simp only [Confined, mergeLog, List.mem_flatMap, List.mem_range]
    constructor
    · exact fun hin i hi a ha => hin a ⟨i, hi, ha⟩
    · rintro hin a ⟨i, hi, ha⟩
      exact hin i hi a ha
  rw [hall]
  constructor
  · intro hin
    rcases Nat.eq_zero_or_pos (elen m pIE) with hzero | hpos
    · omega
    · have hlast := (hbyte _).1 (hin (elen m pIE - 1) (by omega))
      omega
  · rintro ⟨hsmall, hfits⟩ i hi
    exact (hbyte i).2 ⟨by omega, by omega⟩

lemma confined_configHtCaps :
    Confined Dest.size (frameRange pktLen) (configHtCaps m pIE st).2 ↔
      (st.asksLdpc = true → pIE + 3 ≤ pktLen) ∧ (st.asksStbc = true → pIE + 4 ≤ pktLen) := by
  have hlog : (configHtCaps m pIE st).2 =
      (if st.asksLdpc then [readData pIE 0 1] else []) ++
        if st.asksStbc then [readData pIE 1 1] else [] := by
    rw [configHtCaps]
    split <;> rfl
  have hask (b : Bool) (off : ℕ) :
      Confined Dest.size (frameRange pktLen) (if b then [readData pIE off 1] else []) ↔
        (b = true → pIE + 2 + off + 1 ≤ pktLen) := by
    cases b
    · simp
    · rw [if_pos rfl, confined_cons, data_in_frame]
      simp
  rw [hlog, confined_append, hask, hask]

lemma asksLdpc_fillHtCaps : (fillHtCaps m pIE st).asksLdpc = st.asksLdpc := rfl

lemma asksStbc_fillHtCaps : (fillHtCaps m pIE st).asksStbc = st.asksStbc := rfl

lemma confined_htCapsHandler (h : pIE + 2 ≤ pktLen) :
    Confined Dest.size (frameRange pktLen) (htCapsHandler m pIE st).2 ↔
      (st.adapter.htOption = true → elen m pIE ≤ 26 ∧ pIE + 2 + elen m pIE ≤ pktLen ∧
        (st.asksLdpc = true → pIE + 3 ≤ pktLen) ∧ (st.asksStbc = true → pIE + 4 ≤ pktLen)) := by
  rw [htCapsHandler]
  by_cases hht : st.adapter.htOption = true
  · have hfilled : Confined Dest.size (frameRange pktLen)
        [.write .htCaps 0 2, .write .htCaps 19 2, .write .htCaps 3 16, .write .htCaps 3 4] := by
      simp [Dest.size]
    rw [if_neg (by simp [hht]), confined_append, confined_append, confined_mergeLog h,
      confined_configHtCaps, asksLdpc_fillHtCaps, asksStbc_fillHtCaps, and_iff_left hfilled,
      and_assoc, forall_prop_of_true hht]
  · rw [if_pos (by simpa using hht)]
    simp [hht]

/-- What is asked for stays so only with the bits set. -/
lemma uses_configHtCaps (h : m pIE = 45) (hht : st.adapter.htOption = true) :
    (configHtCaps m pIE st).1.uses = st.uses.after m pIE := by
  have hafter : st.uses.after m pIE = { st.uses with
      ldpc := st.asksLdpc && m (pIE + 2) &&& 1 != 0
      stbc := st.asksStbc && m (pIE + 2 + 1) &&& 3 != 0 } := if_pos ⟨h, hht⟩
  have hap (b : Bool) : ((if b then (2 : UInt8) else 0) &&& 2 != 0) = b := by
    cases b <;> rfl
  have hsta (b : Bool) : ((if b then (2 ||| 8 : UInt8) else 0) &&& 2 != 0) = b := by
    cases b <;> rfl
  rw [hafter, configHtCaps]
  split
  · rename_i hstate
    have hldpc : st.asksLdpc = false := by
      rw [JoinState.asksLdpc, hstate, Bool.not_true, Bool.false_and]
    refine Uses.mk.injEq .. ▸ ⟨rfl, rfl, rfl, ?_, hap _⟩
    rw [hldpc, Bool.false_and]
    exact hldpc
  · rename_i hstate
    have hnot : (!st.apState) = true := by simpa using hstate
    refine Uses.mk.injEq .. ▸ ⟨rfl, rfl, rfl, ?_, hsta _⟩
    rw [JoinState.asksLdpc]
    dsimp only
    rw [hnot, Bool.true_and]
    exact hsta _

/-- What is asked for stays so only with the bits set. -/
lemma uses_htCapsHandler (h : m pIE = 45) :
    (htCapsHandler m pIE st).1.uses = st.uses.after m pIE := by
  rw [htCapsHandler]
  by_cases hht : st.adapter.htOption = true
  · rw [if_neg (by simp [hht])]
    exact uses_configHtCaps h hht
  · have huses : ¬ st.uses.ht = true := hht
    rw [if_pos (by simpa using hht), Uses.after, if_neg (by simp [huses])]

/-! ### WFD elements -/

lemma uses_readPort {content : Option (ℕ × ℕ)} : (readPort m content st).1.uses = st.uses := by
  rcases content with _ | ⟨attrContent, attrContentlen⟩
  · rfl
  · rw [readPort]
    split <;> rfl

/-- The port of an attribute, if it has more than a header. -/
lemma confined_readPort {a : ℕ} (hn : n < 65536) :
    Confined Dest.size (frameRange pktLen) (readPort m (attrContent (some (a, n))) st).2 ↔
      (n ≠ 0 → n ≠ 3 → a + 7 ≤ pktLen) := by
  by_cases hzero : n = 0
  · rw [attrContent, if_pos hzero, readPort]
    simp [hzero]
  · rw [attrContent, if_neg hzero, readPort]
    by_cases hthree : n = 3
    · rw [if_pos (by omega)]
      simp [hthree]
    · have hport : Confined Dest.size (frameRange pktLen) [.read ⟨a + 3 + 2, 2⟩] ↔
          a + 7 ≤ pktLen := by
        rw [confined_cons, inside_read, within_frame]
        simp
      rw [if_neg (by omega), hport]
      simp [hzero, hthree]

/-- A pass at a whole header: the search ends, or goes on behind the attribute. -/
lemma wfdAttrPass_of_le (h : off + 3 ≤ wfdIelen) (l : Log) :
    wfdAttrPass m wfdIe wfdIelen 0 (off, l) =
      if wfdIelen < off + wfdAttrLen m (wfdIe + off) then
        .inl (none, l ++ [.read ⟨wfdIe + off, 3⟩])
      else if m (wfdIe + off) = 0 then
        .inl (some (wfdIe + off, wfdAttrLen m (wfdIe + off)), l ++ [.read ⟨wfdIe + off, 3⟩])
      else .inr (off + wfdAttrLen m (wfdIe + off), l ++ [.read ⟨wfdIe + off, 3⟩]) := by
  rw [wfdAttrPass, if_pos h]

/-- A search that ends, and reads in the frame only, goes through attributes that fit. -/
lemma wfdFits_of_run
    (h : Loop.run (wfdAttrPass m wfdIe wfdIelen 0) k (off, l) = some (o, l'))
    (hlog : Confined Dest.size (frameRange pktLen) l')
    (hport : Confined Dest.size (frameRange pktLen) (readPort m (attrContent o) st).2) :
    WfdFits m pktLen wfdIe wfdIelen off ∧ Confined Dest.size (frameRange pktLen) l := by
  induction k generalizing off l with
  | zero => cases h
  | succ k ih =>
      by_cases hshort : off + 3 ≤ wfdIelen
      · have hread (hl : Confined Dest.size (frameRange pktLen)
            (l ++ [.read ⟨wfdIe + off, 3⟩])) :
            wfdIe + off + 3 ≤ pktLen ∧ Confined Dest.size (frameRange pktLen) l := by
          rw [confined_append, confined_cons, inside_read, within_frame] at hl
          exact ⟨hl.2.1, hl.1⟩
        rw [Loop.run, wfdAttrPass_of_le hshort] at h
        by_cases hcut : wfdIelen < off + wfdAttrLen m (wfdIe + off)
        · rw [if_pos hcut] at h
          obtain ⟨rfl, rfl⟩ := Prod.mk.inj (Option.some.inj h)
          obtain ⟨hin, hl⟩ := hread hlog
          exact ⟨.cut hshort hin hcut, hl⟩
        · rw [if_neg hcut] at h
          by_cases hid : m (wfdIe + off) = 0
          · rw [if_pos hid] at h
            obtain ⟨rfl, rfl⟩ := Prod.mk.inj (Option.some.inj h)
            obtain ⟨hin, hl⟩ := hread hlog
            exact ⟨.found hshort hin (Nat.not_lt.1 hcut) hid
              ((confined_readPort (Nat.mod_lt _ (by decide))).1 hport), hl⟩
          · rw [if_neg hid] at h
            obtain ⟨hnext, hl'⟩ := ih h
            obtain ⟨hin, hl⟩ := hread hl'
            refine ⟨.next hshort hin (Nat.not_lt.1 hcut) hid (fun hzero => ?_) hnext, hl⟩
            -- with an empty attribute the search would be at the same place
            rw [hzero, Nat.add_zero] at hnext
            cases hnext with
            | short h => omega
            | cut _ _ h => omega
            | found _ _ _ h => exact hid h
            | next _ _ _ _ h => exact h hzero
      · rw [Loop.run, wfdAttrPass, if_neg hshort] at h
        obtain ⟨-, rfl⟩ := Prod.mk.inj (Option.some.inj h)
        exact ⟨.short (Nat.not_le.1 hshort), hlog⟩

/-- Through attributes that fit the search comes to an end, in the frame. -/
lemma run_of_wfdFits (h : WfdFits m pktLen wfdIe wfdIelen off) (hk : wfdIelen < off + k)
    (hpos : 0 < k) (st : JoinState) (hl : Confined Dest.size (frameRange pktLen) l) :
    ∃ o l', Loop.run (wfdAttrPass m wfdIe wfdIelen 0) k (off, l) = some (o, l') ∧
      Confined Dest.size (frameRange pktLen) l' ∧
      Confined Dest.size (frameRange pktLen) (readPort m (attrContent o) st).2 := by
  have hread {off : ℕ} {l : Log} (hin : wfdIe + off + 3 ≤ pktLen)
      (hl : Confined Dest.size (frameRange pktLen) l) :
      Confined Dest.size (frameRange pktLen) (l ++ [.read ⟨wfdIe + off, 3⟩]) := by
    rw [confined_append, confined_cons, inside_read, within_frame]
    exact ⟨hl, hin, confined_nil⟩
  have hnone : Confined Dest.size (frameRange pktLen) (readPort m (attrContent none) st).2 :=
    confined_nil
  induction h generalizing k l with
  | short hshort =>
      obtain ⟨k, rfl⟩ := Nat.exists_eq_add_one_of_ne_zero (Nat.pos_iff_ne_zero.1 hpos)
      refine ⟨none, l, ?_, hl, hnone⟩
      rw [Loop.run, wfdAttrPass, if_neg (Nat.not_le.2 hshort)]
  | cut hshort hin hcut =>
      obtain ⟨k, rfl⟩ := Nat.exists_eq_add_one_of_ne_zero (Nat.pos_iff_ne_zero.1 hpos)
      refine ⟨none, _, ?_, hread hin hl, hnone⟩
      rw [Loop.run, wfdAttrPass_of_le hshort, if_pos hcut]
  | found hshort hin hcut hid hport =>
      obtain ⟨k, rfl⟩ := Nat.exists_eq_add_one_of_ne_zero (Nat.pos_iff_ne_zero.1 hpos)
      refine ⟨some (_, _), _, ?_, hread hin hl,
        (confined_readPort (Nat.mod_lt _ (by decide))).2 hport⟩
      rw [Loop.run, wfdAttrPass_of_le hshort, if_neg (Nat.not_lt.2 hcut), if_pos hid]
      rfl
  | next hshort hin hcut hid hsize _ ih =>
      obtain ⟨k, rfl⟩ := Nat.exists_eq_add_one_of_ne_zero (Nat.pos_iff_ne_zero.1 hpos)
      obtain ⟨o, l', hrun, hlog⟩ := ih (k := k) (by omega) (by omega) (hread hin hl)
      refine ⟨o, l', ?_, hlog⟩
      rw [Loop.run, wfdAttrPass_of_le hshort, if_neg (Nat.not_lt.2 hcut), if_neg hid]
      exact hrun

/-! ### An element -/

lemma uses_setAdapter {a : Adapter} (h : SameUse st.adapter a) :
    ({ st with adapter := a } : JoinState).uses = st.uses := by
  refine Uses.mk.injEq .. ▸ ⟨?_, h.htOption, rfl, rfl, rfl⟩
  rw [h.qosOption]

lemma after_of_ne (h : m pIE ≠ 45) : u.after m pIE = u := if_neg fun hht => h hht.1

/-- A WMM element is no WFD element. -/
lemma not_wfd_of_wmm {a : ℕ} (h : readBytes m a 6 = wmmParaOui) : readBytes m a 4 ≠ wfdOui := by
  intro hwfd
  rw [readBytes_add m a 4 2, hwfd] at h
  cases h

/-- The elements other than WFD elements: the switch ends, and is no trouble exactly if the element
is none. -/
lemma assocElement_of_not_wfd (h : m pIE = 221 → readBytes m (pIE + 2) 4 ≠ wfdOui) (pktLen k : ℕ)
    (st : JoinState) : ∃ st' l, assocElement m pIE st k = some (st', l) ∧
      st'.uses = st.uses.after m pIE ∧
      (Confined Dest.size (frameRange pktLen) (readHeader pIE :: l) ↔
        ElementFits m pktLen st.uses pIE) := by
  rw [assocElement]
  by_cases hvendor : m pIE = 221
  · have hafter : st.uses.after m pIE = st.uses := after_of_ne (by rw [hvendor]; decide)
    have hwfd := h hvendor
    rw [if_pos hvendor, hafter]
    by_cases hwmm : readBytes m (pIE + 2) 6 = wmmParaOui
    · rw [if_pos hwmm]
      refine ⟨_, _, rfl, uses_setAdapter sameUse_wmmParamHandler, ?_⟩
      rw [confined_cons, confined_cons, header_in_frame, data_in_frame, confined_wmmParamHandler,
        elementFits_iff, hvendor, within_frame]
      simp [hwmm, hwfd, JoinState.uses]
    · rw [if_neg hwmm, if_neg hwfd]
      refine ⟨_, _, rfl, rfl, ?_⟩
      rw [confined_cons, confined_cons, confined_cons, header_in_frame, data_in_frame,
        data_in_frame, elementFits_iff, hvendor]
      simp [hwmm, hwfd]
      omega
  · rw [if_neg hvendor]
    by_cases hcaps : m pIE = 45
    · rw [if_pos hcaps]
      refine ⟨(htCapsHandler m pIE st).1, (htCapsHandler m pIE st).2, rfl,
        uses_htCapsHandler hcaps, ?_⟩
      rw [confined_cons, header_in_frame, elementFits_iff, hcaps]
      refine and_congr_right fun hheader => (confined_htCapsHandler hheader).trans ?_
      simp [JoinState.uses]
    · have hafter : st.uses.after m pIE = st.uses := after_of_ne hcaps
      rw [if_neg hcaps, hafter]
      by_cases hinfo : m pIE = 61
      · rw [if_pos hinfo]
        refine ⟨_, _, rfl, uses_setAdapter sameUse_htInfoHandler, ?_⟩
        rw [confined_cons, header_in_frame, confined_htInfoHandler, elementFits_iff, hinfo]
        simp [JoinState.uses]
      · rw [if_neg hinfo]
        by_cases herp : m pIE = 42
        · rw [if_pos herp]
          refine ⟨_, _, rfl, uses_setAdapter sameUse_erpIeHandler, ?_⟩
          rw [confined_cons, header_in_frame, confined_erpIeHandler, elementFits_iff, herp]
          simp
        · rw [if_neg herp]
          by_cases hrm : m pIE = 70
          · rw [if_pos hrm]
            refine ⟨_, _, rfl, rfl, ?_⟩
            rw [confined_cons, header_in_frame, elementFits_iff, hrm, confined_cons, data_in_frame]
            simp [Dest.size]
          · rw [if_neg hrm]
            refine ⟨_, _, rfl, rfl, ?_⟩
            rw [confined_cons, header_in_frame, elementFits_iff]
            simp [hvendor, hcaps, hinfo, herp, hrm]

/-- A WFD element, in the switch. -/
lemma assocElement_of_wfd (hid : m pIE = 221) (houi : readBytes m (pIE + 2) 4 = wfdOui)
    (st : JoinState) (k : ℕ) : assocElement m pIE st k =
      (rtwProcessWfdIe m pIE (elen m pIE) st k).map fun r =>
        (r.1, readData pIE 0 6 :: readData pIE 0 4 :: r.2) := by
  rw [assocElement, if_pos hid, if_neg fun hwmm => not_wfd_of_wmm hwmm houi, if_pos houi]

/-- The search in a WFD element. -/
lemma rtwGetWfdAttr_of_wfd (hid : m pIE = 221) (houi : readBytes m (pIE + 2) 4 = wfdOui)
    (n k : ℕ) : rtwGetWfdAttr m pIE n 0 k =
      if n ≤ 6 then some (none, [])
      else Loop.run (wfdAttrPass m pIE n 0) k (6, [.read ⟨pIE, 1⟩, .read ⟨pIE + 2, 4⟩]) := by
  rw [rtwGetWfdAttr, if_neg (not_not_intro hid), if_neg (not_not_intro houi)]

lemma elementFits_of_wfd (hid : m pIE = 221) (houi : readBytes m (pIE + 2) 4 = wfdOui) :
    ElementFits m pktLen u pIE ↔ pIE + 8 ≤ pktLen ∧
      (u.miracast = true → 6 < elen m pIE → WfdFits m pktLen pIE (elen m pIE) 6) := by
  have hwmm : readBytes m (pIE + 2) 6 ≠ wmmParaOui := fun hwmm => not_wfd_of_wmm hwmm houi
  rw [elementFits_iff, hid]
  simp [hwmm, houi]
  omega

/-- What is done with a WFD element is no trouble only if the element is none. -/
lemma elementFits_of_assocElement (hid : m pIE = 221)
    (houi : readBytes m (pIE + 2) 4 = wfdOui) (h : assocElement m pIE st k = some (st', l))
    (hin : Confined Dest.size (frameRange pktLen) (readHeader pIE :: l)) :
    st'.uses = st.uses.after m pIE ∧ ElementFits m pktLen st.uses pIE := by
  have hafter : st.uses.after m pIE = st.uses := after_of_ne (by rw [hid]; decide)
  rw [assocElement_of_wfd hid houi, Option.map_eq_some_iff] at h
  obtain ⟨⟨st₁, l₁⟩, hprocess, hmk⟩ := h
  obtain ⟨rfl, rfl⟩ := Prod.mk.inj hmk
  rw [confined_cons, confined_cons, confined_cons, data_in_frame] at hin
  rw [hafter, elementFits_of_wfd hid houi]
  rw [rtwProcessWfdIe] at hprocess
  split at hprocess
  · rename_i hoff
    obtain ⟨rfl, rfl⟩ := Prod.mk.inj (Option.some.inj hprocess)
    have hnot : ¬ st.miracast = true := by simpa using hoff
    exact ⟨rfl, hin.2.1, fun hmiracast => absurd hmiracast hnot⟩
  · rw [Option.map_eq_some_iff] at hprocess
    obtain ⟨⟨o, l₂⟩, hsearch, hmk'⟩ := hprocess
    obtain ⟨rfl, rfl⟩ := Prod.mk.inj hmk'
    refine ⟨uses_readPort, hin.2.1, fun _ hlong => ?_⟩
    rw [rtwGetWfdAttr_of_wfd hid houi, if_neg (by omega)] at hsearch
    obtain ⟨hlog, hport⟩ := confined_append.1 hin.2.2.2
    exact (wfdFits_of_run hsearch hlog hport).1

/-- A WFD element that fits is no trouble; its search ends within 256 passes. -/
lemma exists_assocElement (hid : m pIE = 221) (houi : readBytes m (pIE + 2) 4 = wfdOui)
    (h : ElementFits m pktLen st.uses pIE) (hk : 256 ≤ k) :
    ∃ st' l, assocElement m pIE st k = some (st', l) ∧ st'.uses = st.uses.after m pIE ∧
      Confined Dest.size (frameRange pktLen) (readHeader pIE :: l) := by
  have hafter : st.uses.after m pIE = st.uses := after_of_ne (by rw [hid]; decide)
  have hlen : elen m pIE < 256 := UInt8.toNat_lt _
  obtain ⟨height, hfits⟩ := (elementFits_of_wfd hid houi).1 h
  have hread {l : Log} (hl : Confined Dest.size (frameRange pktLen) l) :
      Confined Dest.size (frameRange pktLen)
        (readHeader pIE :: readData pIE 0 6 :: readData pIE 0 4 :: l) := by
    rw [confined_cons, confined_cons, confined_cons, header_in_frame, data_in_frame, data_in_frame]
    exact ⟨by omega, by omega, by omega, hl⟩
  rw [hafter, assocElement_of_wfd hid houi, rtwProcessWfdIe]
  split
  · exact ⟨st, _, rfl, rfl, hread confined_nil⟩
  · rename_i hon
    have hmiracast : st.miracast = true := by simpa using hon
    rw [rtwGetWfdAttr_of_wfd hid houi]
    by_cases hlong : elen m pIE ≤ 6
    · rw [if_pos hlong]
      exact ⟨st, _, rfl, rfl, hread confined_nil⟩
    · have hstart : Confined Dest.size (frameRange pktLen)
          [.read ⟨pIE, 1⟩, .read ⟨pIE + 2, 4⟩] := by
        rw [confined_cons, confined_cons, inside_read, inside_read, within_frame, within_frame]
        exact ⟨by omega, by omega, confined_nil⟩
      obtain ⟨o, l, hrun, hlog, hport⟩ := run_of_wfdFits (hfits hmiracast (by omega))
        (k := k) (by omega) (by omega) st hstart
      rw [if_neg hlong, hrun]
      exact ⟨_, _, rfl, uses_readPort, hread (confined_append.2 ⟨hlog, hport⟩)⟩

/-! ### The loop -/

/-- A loop that ends, and is no trouble, goes through elements that are none. -/
lemma frameFits_of_run
    (h : Loop.run (assocRspPass m pktLen k) n (i, st, l) = some (some (st', l')))
    (hin : Confined Dest.size (frameRange pktLen) l') :
    FrameFits m pktLen st.uses i ∧ Confined Dest.size (frameRange pktLen) l := by
  induction n generalizing i st l with
  | zero => cases h
  | succ n ih =>
      rw [Loop.run, assocRspPass] at h
      by_cases hend : i < pktLen
      · rw [if_pos hend] at h
        rcases helem : assocElement m i st k with _ | ⟨st₁, l₁⟩
        · rw [helem] at h
          cases h
        · rw [helem] at h
          obtain ⟨hrest, hl⟩ := ih h
          rw [confined_append] at hl
          by_cases hwfd : m i = 221 ∧ readBytes m (i + 2) 4 = wfdOui
          · obtain ⟨huses, hfits⟩ := elementFits_of_assocElement hwfd.1 hwfd.2 helem hl.2
            rw [huses] at hrest
            exact ⟨.element hend hfits hrest, hl.1⟩
          · obtain ⟨st₂, l₂, helem', huses, hfits⟩ :=
              assocElement_of_not_wfd (fun hid houi => hwfd ⟨hid, houi⟩) pktLen k st
            obtain ⟨rfl, rfl⟩ := Prod.mk.inj (Option.some.inj (helem.symm.trans helem'))
            rw [huses] at hrest
            exact ⟨.element hend (hfits.1 hl.2) hrest, hl.1⟩
      · rw [if_neg hend] at h
        obtain ⟨-, rfl⟩ := Prod.mk.inj (Option.some.inj (Option.some.inj h))
        exact ⟨.done (Nat.not_lt.1 hend), hin⟩

/-- Through elements that are no trouble the loop comes to an end. -/
lemma run_of_frameFits (h : FrameFits m pktLen u i) : ∃ n, ∀ k, 256 ≤ k → ∀ st l,
    st.uses = u → Confined Dest.size (frameRange pktLen) l → ∃ st' l',
      Loop.run (assocRspPass m pktLen k) n (i, st, l) = some (some (st', l')) ∧
        Confined Dest.size (frameRange pktLen) l' := by
  induction h with
  | done hend =>
      refine ⟨1, fun k _ st l _ hl => ⟨st, l, ?_, hl⟩⟩
      rw [Loop.run, assocRspPass, if_neg (Nat.not_lt.2 hend)]
  | @element u i hend hfits _ ih =>
      obtain ⟨n, hn⟩ := ih
      refine ⟨n + 1, fun k hk st l huses hl => ?_⟩
      subst huses
      have helem : ∃ st' l', assocElement m i st k = some (st', l') ∧
          st'.uses = st.uses.after m i ∧
          Confined Dest.size (frameRange pktLen) (readHeader i :: l') := by
        by_cases hwfd : m i = 221 ∧ readBytes m (i + 2) 4 = wfdOui
        · exact exists_assocElement hwfd.1 hwfd.2 hfits hk
        · obtain ⟨st', l', helem, huses, hin⟩ :=
            assocElement_of_not_wfd (fun hid houi => hwfd ⟨hid, houi⟩) pktLen k st
          exact ⟨st', l', helem, huses, hin.2 hfits⟩
      obtain ⟨st', l', helem, huses, hin⟩ := helem
      obtain ⟨st'', l'', hrun, hlog⟩ := hn k hk st' (l ++ readHeader i :: l') huses
        (confined_append.2 ⟨hl, hin⟩)
      refine ⟨st'', l'', ?_, hlog⟩
      rw [Loop.run, assocRspPass, if_pos hend, helem]
      exact hrun

/-! ### `OnAssocRsp` -/

/-- The loop begins at the first element, if the frame is accepted. -/
def Goes (m : Mem) (st : JoinState) : Prop :=
  st.expects m = true ∧ status m = 0 ∧ 1 ≤ aid m ∧ aid m ≤ 2007

lemma onAssocRsp_of_not_goes {malloc : ℕ → Bool} (h : ¬ Goes m st) :
    ∃ st', onAssocRsp malloc m pktLen st k = some (st', []) := by
  rw [onAssocRsp]
  split
  · exact ⟨_, rfl⟩
  · rename_i hexpects
    split
    · exact ⟨_, rfl⟩
    · rename_i hstatus
      split
      · exact ⟨_, rfl⟩
      · rename_i haid
        have hyes : st.expects m = true := by simpa using hexpects
        exact absurd ⟨hyes, by omega, by omega, by omega⟩ h

lemma onAssocRsp_of_goes {malloc : ℕ → Bool} (h : Goes m st) :
    onAssocRsp malloc m pktLen st k =
      (Loop.run (assocRspPass m pktLen k) k (30, startAssoc m st, [])).join.map fun r =>
        (acceptAssoc malloc m pktLen r.1, r.2) := by
  obtain ⟨hexpects, hstatus, hlow, hhigh⟩ := h
  rw [onAssocRsp, if_neg (by simp [hexpects]), if_neg (by omega), if_neg (by omega)]

lemma assocRspOk_iff_of_goes {malloc : ℕ → Bool} (h : Goes m st) :
    AssocRspOk malloc m pktLen st ↔ FrameFits m pktLen st.uses 30 := by
  have huses : (startAssoc m st).uses = st.uses := rfl
  constructor
  · rintro ⟨k, r, hr, hin⟩
    rw [Option.mem_def, onAssocRsp_of_goes h, Option.map_eq_some_iff] at hr
    obtain ⟨⟨st', l⟩, hrun, rfl⟩ := hr
    rw [← huses]
    exact (frameFits_of_run (Option.join_eq_some_iff.1 hrun) hin).1
  · intro hfits
    obtain ⟨n, hn⟩ := run_of_frameFits hfits
    obtain ⟨st', l, hrun, hin⟩ := hn (max n 256) (Nat.le_max_right _ _) (startAssoc m st) [] huses
      confined_nil
    refine ⟨max n 256, (acceptAssoc malloc m pktLen st', l), ?_, hin⟩
    rw [Option.mem_def, onAssocRsp_of_goes h, Loop.run_mono (Nat.le_max_left _ _) hrun]
    rfl

/-- On every frame that is rejected, and on every other one exactly if its elements are no trouble,
the loop and the handlers end, and stay in the frame and in the structures. -/
theorem assocRspOk_iff (malloc : ℕ → Bool) (m : Mem) (pktLen : ℕ) (st : JoinState) :
    AssocRspOk malloc m pktLen st ↔ (Goes m st → FrameFits m pktLen st.uses 30) := by
  by_cases h : Goes m st
  · rw [assocRspOk_iff_of_goes h, forall_prop_of_true h]
  · refine ⟨fun _ hgoes => absurd hgoes h, fun _ => ?_⟩
    have hrun : ∃ st', onAssocRsp malloc m pktLen st 0 = some (st', []) := onAssocRsp_of_not_goes h
    obtain ⟨st', hst'⟩ := hrun
    exact ⟨0, (st', []), hst', confined_nil⟩

/-- A frame to the station 02:00:00:00:00:01 that accepts it with the id 1, and what follows. -/
def assocRspOf (bs : List UInt8) : Mem := fun a =>
  ([0x10, 0, 0, 0, 2, 0, 0, 0, 0, 1] ++ List.replicate 18 0 ++ [1, 0] ++ bs).getD a 0

/-- The station, which waits for the frame. -/
def joiningStation : JoinState where
  adapter := htStation
  macAddress := .ofBytes 2 0 0 0 0 1
  state := wifiFwAssocState
  joinAbort := false
  capability := 0
  slotTime := 20
  aid := 0
  supportedRates := List.replicate 16 0
  apState := false
  htCapsEnable := false
  htCap := List.replicate 26 0
  defaultSupportedMcsSet := List.replicate 16 0
  rxNss := 1
  ldpcCap := 0
  stbcCap := 0
  rmEnCapAssoc := List.replicate 5 0
  miracast := true
  peerRtspCtrlport := 0
  assocRsp := none
  events := []

/-- HT capabilities of 27 bytes are written behind the structure, a vendor element without data is
read behind the frame, and the search in a WFD element does not end. -/
theorem not_assocRspOk :
    ¬ AssocRspOk (fun _ => true) (assocRspOf (45 :: 27 :: List.replicate 27 0)) 59 joiningStation ∧
      ¬ AssocRspOk (fun _ => true) (assocRspOf [221, 0]) 32 joiningStation ∧
      ¬ AssocRspOk (fun _ => true)
        (assocRspOf [221, 9, 0x50, 0x6F, 0x9A, 0x0A, 1, 0xFF, 0xFD, 0, 0]) 41 joiningStation := by
  have hfirst {m : Mem} {pktLen : ℕ} (hgoes : Goes m joiningStation) (hlen : 30 < pktLen)
      (hok : AssocRspOk (fun _ => true) m pktLen joiningStation) :
      ElementFits m pktLen joiningStation.uses 30 := by
    cases (assocRspOk_iff_of_goes hgoes).1 hok with
    | done h => omega
    | element _ hfits _ => exact hfits
  refine ⟨fun hok => ?_, fun hok => ?_, fun hok => ?_⟩
  · have hfits := hfirst ⟨by decide, by decide, by decide, by decide⟩ (by decide) hok
    exact absurd (hfits.htCaps (by decide) (by decide)).1 (by decide)
  · have hfits := hfirst ⟨by decide, by decide, by decide, by decide⟩ (by decide) hok
    exact absurd (hfits.vendor (by decide)) (by decide)
  · have hfits := hfirst ⟨by decide, by decide, by decide, by decide⟩ (by decide) hok
    -- the attribute has the length 65533, which with its header is 0 in 16 bits
    cases hfits.wfd (by decide) (by decide) (by decide) (by decide) with
    | short h => exact absurd h (by decide)
    | cut _ _ h => exact absurd h (by decide)
    | found _ _ _ h => exact absurd h (by decide)
    | next _ _ _ _ h => exact absurd h (by decide)

end Rtl8723du.Mlme
