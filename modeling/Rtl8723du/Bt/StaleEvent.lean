import Mathlib.Data.List.GetD
import Rtl8723du.Bt.EventData
import Rtl8723du.Lib.Bytes

/-!
# Events and what their node held before

The length of an event does not reach the handlers.  A short event is read on into what an earlier
one has left in the node; `rtkParseEventData_alike_iff` says for which events that makes no
difference: those that carry what their handler looks at.
-/

namespace Rtl8723du.Bt

open Lib Lib.Bytes Lib.Refill

/-! ### What a handler looks at -/

/-- The bytes may be the beginning of a packet with the opcode. -/
def MayBe (opcode : BitVec 16) (bs : List UInt8) : Prop := bs.take 2 <+: leBytes 2 opcode.toNat

/-- The bytes of an interval that are there tell whether it is below 60. -/
def IntervalKnown (ps : List UInt8) (off : ℕ) : Prop :=
  off + 2 ≤ ps.length ∨ off + 1 = ps.length ∧ 60 ≤ (ps.getD off 0).toNat

/-- An event with a status that is followed by others only if it is zero. -/
def StatusKnown (ps : List UInt8) (rest : Prop) : Prop := ps ≠ [] ∧ (ps.getD 0 0 = 0 → rest)

/-- The parameters of `HCI_EV_CMD_COMPLETE`. -/
structure CmdCompleteCarries (ps : List UInt8) : Prop where
  periodic : MayBe hciOpPeriodicInq (ps.drop 1) → 4 ≤ ps.length
  version : MayBe hciOpReadLocalVersion (ps.drop 1) →
    4 ≤ ps.length ∧ (ps.getD 3 0 = 0 → 12 ≤ ps.length)
  profile : MayBe hciVendorSetProfileReportCommand (ps.drop 1) → 4 ≤ ps.length

/-- The parameters of `HCI_EV_CMD_STATUS`. -/
structure CmdStatusCarries (ps : List UInt8) : Prop where
  status : ps ≠ []
  inquiry : MayBe hciOpInquiry (ps.drop 2) → ps.getD 0 0 ≠ 0 → 4 ≤ ps.length
  create : MayBe hciOpCreateConn (ps.drop 2) → ps.getD 0 0 = 0 → 4 ≤ ps.length

/-- The parameters of `HCI_EV_LE_META`. -/
structure LeMetaCarries (ps : List UInt8) : Prop where
  subEvent : ps ≠ []
  complete : ps.getD 0 0 = 0x01 → StatusKnown (ps.drop 1) (IntervalKnown (ps.drop 1) 11)
  enhanced : ps.getD 0 0 = 0x0a → StatusKnown (ps.drop 1) (IntervalKnown (ps.drop 1) 23)
  update : ps.getD 0 0 = 0x03 → IntervalKnown (ps.drop 1) 3

/-- The parameters have what the handler of the event looks at. -/
def Carries (ps : List UInt8) : EvCode → Prop
  | .modeChange => IntervalKnown ps 4
  | .cmdComplete => CmdCompleteCarries ps
  | .cmdStatus => CmdStatusCarries ps
  | .connComplete | .syncConnComplete => StatusKnown ps (10 ≤ ps.length)
  | .disconnComplete => StatusKnown ps (3 ≤ ps.length)
  | .leMeta => LeMetaCarries ps
  | _ => True

variable {ps : List UInt8} {p q : Ptr} {env : EvEnv} {t : Tracker} {i off : ℕ}

/-! ### What is carried settles -/

lemma begins_add (h : Begins ps p) (k : ℕ) : Begins (ps.drop k) (p.add k) := h.drop k

lemma toNat_streamToUint16 :
    (streamToUint16 p i).toNat = (p i).toNat + 256 * (p (i + 1)).toNat := by
  have hlow := (p i).toNat_lt
  have hhigh := (p (i + 1)).toNat_lt
  rw [streamToUint16, BitVec.toNat_ofNat]
  omega

lemma streamToUint16_congr (hp : Begins ps p) (hq : Begins ps q) (h : i + 2 ≤ ps.length) :
    streamToUint16 p i = streamToUint16 q i := by
  rw [streamToUint16, streamToUint16, hp.agree hq (by omega), hp.agree hq (by omega)]

lemma streamToUint16_lt_iff :
    streamToUint16 p i < 60 ↔ (p i).toNat + 256 * (p (i + 1)).toNat < 60 := by
  rw [BitVec.lt_def, toNat_streamToUint16]
  rfl

lemma interval_congr (hp : Begins ps p) (hq : Begins ps q) (h : IntervalKnown ps off) :
    streamToUint16 p off < 60 ↔ streamToUint16 q off < 60 := by
  rcases h with hlen | ⟨hlen, hlow⟩
  · rw [streamToUint16_congr hp hq hlen]
  · rw [streamToUint16_lt_iff, streamToUint16_lt_iff, hp.getD 0 (by omega), hq.getD 0 (by omega)]
    omega

lemma IntervalKnown.lt_length (h : IntervalKnown ps off) : off < ps.length := by
  rcases h with h | h <;> omega

lemma hidActiveConn_congr {c : Conn} {a b : BitVec 16} (h : a < 60 ↔ b < 60) :
    hidActiveConn c a = hidActiveConn c b := by
  rw [hidActiveConn, hidActiveConn]
  simp only [h]

lemma hidActiveNeeded_congr {c : Conn} {a b : BitVec 16} (h : a < 60 ↔ b < 60) :
    hidActiveNeeded c a = hidActiveNeeded c b := by
  rw [hidActiveNeeded, hidActiveNeeded, decide_eq_decide.2 h]

lemma hidActiveReport_congr {handle a b : BitVec 16} (h : a < 60 ↔ b < 60) :
    hidActiveReport t handle a = hidActiveReport t handle b := by
  simp only [hidActiveReport, hidActiveNeeded_congr h, hidActiveConn_congr h]

lemma updateHidActiveState_congr {s : Coex} {handle a b : BitVec 16} (h : a < 60 ↔ b < 60) :
    updateHidActiveState s handle a = updateHidActiveState s handle b := by
  simp only [updateHidActiveState, hidActiveConn_congr h]

lemma hidActive_settles (hp : Begins ps p) (hq : Begins ps q) (h : IntervalKnown ps off)
    (hoff : 3 ≤ off) :
    hidActive t (streamToUint16 p 1) (streamToUint16 p off) =
      hidActive t (streamToUint16 q 1) (streamToUint16 q off) := by
  have hlen := h.lt_length
  have hint := interval_congr hp hq h
  rw [streamToUint16_congr hp hq (by omega), hidActive, hidActive, hidActiveReport_congr hint,
    updateHidActiveState_congr hint]

/-- An opcode that is read is one that the bytes may be. -/
lemma mayBe_of_streamToUint16 {opcode : BitVec 16} (hp : Begins ps p)
    (h : streamToUint16 p i = opcode) : MayBe opcode (ps.drop i) := by
  have hbytes : leBytes 2 opcode.toNat = [p i, p (i + 1)] := by
    have hlen : (leBytes 2 opcode.toNat).length = [p i, p (i + 1)].length := length_leBytes _ _
    refine (leNat_inj hlen).1 ?_
    rw [leNat_leBytes opcode.isLt, ← h, toNat_streamToUint16]
    simp only [leNat, Nat.mul_zero, Nat.add_zero]
  rw [MayBe, hbytes]
  rcases Nat.lt_or_ge i ps.length with hi | hi
  · rw [List.drop_eq_getElem_cons hi, ← hp i hi]
    rcases Nat.lt_or_ge (i + 1) ps.length with hj | hj
    · rw [List.drop_eq_getElem_cons hj, ← hp (i + 1) hj]
      exact List.prefix_rfl
    · rw [List.drop_eq_nil_of_le hj]
      exact ⟨[p (i + 1)], rfl⟩
  · rw [List.drop_eq_nil_of_le hi]
    exact List.nil_prefix

lemma not_mayBe {opcode : BitVec 16} (hp : Begins ps p) (h : ¬ MayBe opcode (ps.drop i)) :
    streamToUint16 p i ≠ opcode :=
  fun heq => h (mayBe_of_streamToUint16 hp heq)

lemma cmdComplete_settles (hp : Begins ps p) (hq : Begins ps q) (h : CmdCompleteCarries ps) :
    rtkHandleCmdCompleteEvt t p = rtkHandleCmdCompleteEvt t q := by
  rcases Nat.lt_or_ge ps.length 4 with hlen | hlen
  · -- the opcode is none that the handler knows
    have hnone : ∀ r, Begins ps r → rtkHandleCmdCompleteEvt t r = t := by
      intro r hr
      have hperiodic := not_mayBe hr fun hm => absurd (h.periodic hm) (by omega)
      have hversion := not_mayBe hr fun hm => absurd (h.version hm).1 (by omega)
      have hprofile := not_mayBe hr fun hm => absurd (h.profile hm) (by omega)
      rw [rtkHandleCmdCompleteEvt, if_neg hperiodic, if_neg hversion, if_neg hprofile]
    rw [hnone p hp, hnone q hq]
  · have hop : streamToUint16 p 1 = streamToUint16 q 1 := streamToUint16_congr hp hq (by omega)
    have hstatus : p 3 = q 3 := hp.agree hq (by omega)
    rw [rtkHandleCmdCompleteEvt, rtkHandleCmdCompleteEvt, hop, hstatus]
    by_cases hversion : streamToUint16 q 1 = hciOpReadLocalVersion ∧ q 3 = 0
    · have hlong : 12 ≤ ps.length := by
        refine (h.version (mayBe_of_streamToUint16 hq hversion.1)).2 ?_
        rw [← hq.getD 0 (by omega)]
        exact hversion.2
      rw [streamToUint16_congr hp hq (i := 5) (by omega),
        streamToUint16_congr hp hq (i := 10) (by omega)]
    · split_ifs with _ _ hop' hzero <;> first | rfl | exact absurd ⟨hop', hzero⟩ hversion

lemma cmdStatus_settles (hp : Begins ps p) (hq : Begins ps q) (h : CmdStatusCarries ps) :
    rtkHandleCmdStatusEvt t p = rtkHandleCmdStatusEvt t q := by
  have hpos : 0 < ps.length := List.length_pos_iff.2 h.status
  have hstatus : p 0 = q 0 := hp.agree hq hpos
  rcases Nat.lt_or_ge ps.length 4 with hlen | hlen
  · have hnone : ∀ r, Begins ps r → rtkHandleCmdStatusEvt t r = t := by
      intro r hr
      have hget : r 0 = ps.getD 0 0 := hr.getD 0 hpos
      rw [rtkHandleCmdStatusEvt, hget]
      by_cases hzero : ps.getD 0 0 = 0
      · have hcreate := not_mayBe hr fun hm => absurd (h.create hm hzero) (by omega)
        rw [if_neg (not_not.2 hzero), if_neg hcreate, ite_self]
      · have hinquiry := not_mayBe hr fun hm => absurd (h.inquiry hm hzero) (by omega)
        rw [if_neg hinquiry, if_neg hzero, ite_self]
    rw [hnone p hp, hnone q hq]
  · rw [rtkHandleCmdStatusEvt, rtkHandleCmdStatusEvt, hstatus,
      streamToUint16_congr hp hq (i := 2) (by omega)]

lemma connComplete_settles (hp : Begins ps p) (hq : Begins ps q)
    (h : StatusKnown ps (10 ≤ ps.length)) : connCompleteEvt env t p = connCompleteEvt env t q := by
  have hpos : 0 < ps.length := List.length_pos_iff.2 h.1
  have hstatus : p 0 = q 0 := hp.agree hq hpos
  by_cases hzero : q 0 = 0
  · have hlen : 10 ≤ ps.length := h.2 (by rw [← hq.getD 0 hpos, hzero])
    rw [connCompleteEvt, connCompleteEvt, hstatus, streamToUint16_congr hp hq (i := 1) (by omega),
      hp.agree hq (i := 9) (by omega)]
  · simp only [connCompleteEvt, rtkHandleConnectionCompleteEvt, hstatus, hzero, ne_eq,
      not_false_eq_true, if_true, false_and, if_false]

lemma leConnComplete_settles (hp : Begins ps p) (hq : Begins ps q)
    (h : StatusKnown ps (IntervalKnown ps off)) (hoff : 3 ≤ off) :
    leConnCompleteEvt env t off p = leConnCompleteEvt env t off q := by
  have hpos : 0 < ps.length := List.length_pos_iff.2 h.1
  have hstatus : p 0 = q 0 := hp.agree hq hpos
  by_cases hzero : q 0 = 0
  · have hknown : IntervalKnown ps off := h.2 (by rw [← hq.getD 0 hpos, hzero])
    have hlen := hknown.lt_length
    have hint := interval_congr hp hq hknown
    simp only [leConnCompleteEvt, rtkHandleLeConnectionCompleteEvt, hstatus,
      streamToUint16_congr hp hq (i := 1) (by omega), hidActiveReport_congr hint,
      updateHidActiveState_congr hint]
  · simp only [leConnCompleteEvt, rtkHandleLeConnectionCompleteEvt, hstatus, hzero, ne_eq,
      not_false_eq_true, if_true, false_and, if_false]

lemma disconnComplete_settles (hp : Begins ps p) (hq : Begins ps q)
    (h : StatusKnown ps (3 ≤ ps.length)) : disconnCompleteEvt t p = disconnCompleteEvt t q := by
  have hpos : 0 < ps.length := List.length_pos_iff.2 h.1
  have hstatus : p 0 = q 0 := hp.agree hq hpos
  by_cases hzero : q 0 = 0
  · have hlen : 3 ≤ ps.length := h.2 (by rw [← hq.getD 0 hpos, hzero])
    rw [disconnCompleteEvt, disconnCompleteEvt, hstatus,
      streamToUint16_congr hp hq (i := 1) (by omega)]
  · simp only [disconnCompleteEvt, rtkHandleDisconnectCompleteEvt, hstatus, hzero, ne_eq,
      not_false_eq_true, if_true, if_false]

lemma leMeta_settles (hp : Begins ps p) (hq : Begins ps q) (h : LeMetaCarries ps) :
    rtkHandleLeMetaEvt env t p = rtkHandleLeMetaEvt env t q := by
  have hpos : 0 < ps.length := List.length_pos_iff.2 h.subEvent
  have hsub : p 0 = q 0 := hp.agree hq hpos
  have hget : q 0 = ps.getD 0 0 := hq.getD 0 hpos
  have hp1 := begins_add hp 1
  have hq1 := begins_add hq 1
  rw [rtkHandleLeMetaEvt, rtkHandleLeMetaEvt, hsub]
  split_ifs with hone hten hthree
  · exact leConnComplete_settles hp1 hq1 (h.complete (by rw [← hget, hone])) (by omega)
  · exact leConnComplete_settles hp1 hq1 (h.enhanced (by rw [← hget, hten])) (by omega)
  · exact hidActive_settles hp1 hq1 (h.update (by rw [← hget, hthree])) (by omega)
  · rfl

/-- A handler does not look behind an event that carries what it looks at. -/
lemma handleEvent_settles {c : EvCode} (hp : Begins ps p) (hq : Begins ps q) (h : Carries ps c) :
    handleEvent env t p c = handleEvent env t q c := by
  cases c with
  | modeChange => exact hidActive_settles hp hq h (by omega)
  | cmdComplete => exact Prod.ext (cmdComplete_settles hp hq h) rfl
  | cmdStatus => exact Prod.ext (cmdStatus_settles hp hq h) rfl
  | connComplete => exact connComplete_settles hp hq h
  | syncConnComplete => exact connComplete_settles hp hq h
  | disconnComplete => exact disconnComplete_settles hp hq h
  | leMeta => exact leMeta_settles hp hq h
  | inquiryComplete => rfl
  | authComplete => rfl
  | pinCodeReq => rfl
  | linkKeyNotify => rfl
  | ioCapaRequest => rfl
  | vendorSpecific => rfl
  | other => rfl

/-! ### What is not carried is taken from an earlier event -/

/-- In some state, what a handler makes of the tracker depends on what the node held before. -/
def Unsettled (handler : EvEnv → Tracker → Ptr → Tracker) (ps : List UInt8) : Prop :=
  ∃ env t, Reached t ∧ ¬ Settles (handler env t) ps

/-- Bytes `0xff` from a place on. -/
def stale (j : ℕ) : Ptr := fun i => if j ≤ i then 0xff else 0

/-- Memory of a new connection. -/
def freshConn : FreshConn := ⟨fun _ => false, 0⟩

/-- There is memory for a connection. -/
def roomEnv : EvEnv := ⟨some freshConn, fun _ => true⟩

/-- One LE connection. -/
def oneHid (handle : BitVec 16) : Tracker :=
  { toCoex := connected {} handle .le (some .hid) (some freshConn) }

/-- Its connection. -/
def hidConn (handle : BitVec 16) : Conn :=
  Conn.add { handle := handle, type := .le } .hid

lemma oneHid_connHash (handle : BitVec 16) : (oneHid handle).connHash = [hidConn handle] := rfl

lemma findConnectionByHandle_oneHid_eq (handle k : BitVec 16) :
    findConnectionByHandle (oneHid k).toCoex handle =
      if handle &&& 0xfff = k then some ⟨[], hidConn k, []⟩ else none := by
  have hhandle : (hidConn k).handle = k := rfl
  rw [findConnectionByHandle, oneHid_connHash]
  simp only [pick, hhandle, beq_iff_eq]
  rfl

lemma findConnectionByHandle_oneHid (handle : BitVec 16) :
    findConnectionByHandle (oneHid (handle &&& 0xfff)).toCoex handle =
      some ⟨[], hidConn (handle &&& 0xfff), []⟩ := by
  rw [findConnectionByHandle_oneHid_eq, if_pos rfl]

lemma streamToUint16_leBytes {n : BitVec 16} (h : [p i, p (i + 1)] = leBytes 2 n.toNat) :
    streamToUint16 p i = n := by
  refine BitVec.eq_of_toNat_eq ?_
  rw [toNat_streamToUint16, ← leNat_leBytes (k := 2) n.isLt, ← h]
  simp only [leNat, Nat.mul_zero, Nat.add_zero]

lemma reached_blank : Reached {} := ⟨[], rfl⟩

lemma reached_inquiring : Reached { isinquirying := true } := ⟨[.cmd hciOpInquiry], rfl⟩

lemma hidConn_hid (handle : BitVec 16) : (hidConn handle).profileBitmap .hid = true := rfl

lemma hidConn_hidInterval (handle : BitVec 16) :
    (hidConn handle).profileBitmap .hidInterval = false := rfl

/-- The bit of `profile_hid_interval` tells whether the interval was below 60. -/
lemma hidActiveConn_hidInterval (handle interval : BitVec 16) :
    (hidActiveConn (hidConn handle) interval).profileBitmap .hidInterval =
      decide (interval < 60) := by
  rw [hidActiveConn, if_neg (by rw [hidConn_hid]; decide)]
  by_cases hshort : interval < 60
  · rw [if_pos hshort, if_neg (by rw [hidConn_hidInterval]; decide), decide_eq_true hshort]
    rfl
  · rw [if_neg hshort, if_neg (by rw [hidConn_hidInterval]; decide), decide_eq_false hshort]
    exact hidConn_hidInterval handle

lemma hidActiveConn_hidConn {handle interval : BitVec 16} (h : ¬ interval < 60) :
    hidActiveConn (hidConn handle) interval = hidConn handle := by
  rw [hidActiveConn, if_neg (by rw [hidConn_hid]; decide), if_neg h,
    if_neg (by rw [hidConn_hidInterval]; decide)]

/-- The event of a LE connection with a long interval. -/
def leConnData (handle : BitVec 16) : Ptr :=
  fun i => ([0x3e, 0x13, 0x01, 0x00] ++ leBytes 2 handle.toNat).getD i 0xff

lemma updateHidActiveState_oneHid {handle interval : BitVec 16} (h : ¬ interval < 60) :
    updateHidActiveState (oneHid handle).toCoex handle interval = (oneHid handle).toCoex := by
  rw [updateHidActiveState]
  cases hfind : findConnectionByHandle (oneHid handle).toCoex handle with
  | none => rfl
  | some pl =>
      have hlist := (pick_eq_some hfind).1
      have hmem : pl.elem ∈ [hidConn handle] := by
        rw [← oneHid_connHash, ← hlist]
        exact Place.mem_list
      have helem : pl.elem = hidConn handle := List.mem_singleton.1 hmem
      dsimp only
      rw [helem, hidActiveConn_hidConn h, ← helem]
      exact congrArg (fun l => { (oneHid handle).toCoex with connHash := l }) hlist

lemma trackerNext_leConnData (handle : BitVec 16) :
    trackerNext {} (.event roomEnv (leConnData handle)) = oneHid handle := by
  have hhandle : streamToUint16 (leConnData handle) 4 = handle := streamToUint16_leBytes rfl
  have hlong : ¬ streamToUint16 (leConnData handle) 14 < 60 := by
    have hff : (leConnData handle 15).toNat = 255 := rfl
    rw [streamToUint16_lt_iff, hff]
    omega
  have hcode : evCode (leConnData handle 0) = .leMeta := rfl
  have hcoex : rtkHandleLeConnectionCompleteEvt {} 0 (streamToUint16 (leConnData handle) 4)
      (streamToUint16 (leConnData handle) 14) (some freshConn) = (oneHid handle).toCoex := by
    rw [hhandle]
    exact updateHidActiveState_oneHid hlong
  rw [trackerNext, rtkParseEventData, hcode]
  exact congrArg (fun s : Coex => ({ toCoex := s } : Tracker)) hcoex

lemma reached_oneHid (handle : BitVec 16) : Reached (oneHid handle) :=
  ⟨[.event roomEnv (leConnData handle)], trackerNext_leConnData handle⟩

/-- The interval of a short event is on one side of 60 or the other. -/
lemma interval_unsettled (h : ¬ IntervalKnown ps off) (hoff : 3 ≤ off) :
    ∃ p q, Begins ps p ∧ Begins ps q ∧ (p 0 = ps.getD 0 0 ∧ q 0 = ps.getD 0 0) ∧
      streamToUint16 p 1 = streamToUint16 q 1 ∧
      streamToUint16 p off < 60 ∧ ¬ streamToUint16 q off < 60 := by
  have hsame : ∀ i < off, refill ps (fun _ => 0) i = refill ps (stale off) i := by
    intro i hi
    rcases Nat.lt_or_ge i ps.length with hlt | hle
    · rw [refill_of_lt hlt, refill_of_lt hlt]
    · rw [refill_of_le hle, refill_of_le hle, stale, if_neg (by omega)]
  refine ⟨refill ps fun _ => 0, refill ps (stale off), begins_refill ps _, begins_refill ps _,
    ⟨rfl, (hsame 0 (by omega)).symm⟩, ?_, ?_, ?_⟩
  · rw [streamToUint16, streamToUint16, hsame 1 (by omega), hsame 2 (by omega)]
  · rw [streamToUint16_lt_iff]
    rcases Nat.lt_or_ge off ps.length with hlt | hle
    · have hlen : ps.length = off + 1 := by
        by_contra hne
        exact h (.inl (by omega))
      have hlow : ps[off].toNat < 60 := by
        by_contra hge
        refine h (.inr ⟨hlen.symm, ?_⟩)
        rw [List.getD_eq_getElem _ _ hlt]
        omega
      rw [refill_of_lt hlt, refill_of_le hlen.le]
      exact hlow
    · rw [refill_of_le hle, refill_of_le (by omega)]
      decide
  · have hhigh : ps.length ≤ off + 1 := by
      by_contra hlt
      exact h (.inl (by omega))
    rw [streamToUint16_lt_iff, refill_of_le hhigh, stale, if_pos (by omega)]
    have hff : (0xff : UInt8).toNat = 255 := rfl
    omega

/-- An opcode that the bytes may be is read, if the rest of it follows them. -/
lemma streamToUint16_of_mayBe {opcode : BitVec 16} (hp : Begins ps p)
    (h : MayBe opcode (ps.drop i))
    (hrest : ∀ j, ps.length ≤ i + j → j < 2 → p (i + j) = (leBytes 2 opcode.toNat).getD j 0) :
    streamToUint16 p i = opcode := by
  have hread : ∀ j < 2, p (i + j) = (leBytes 2 opcode.toNat).getD j 0 := by
    intro j hj
    rcases Nat.lt_or_ge (i + j) ps.length with hlt | hle
    · have hj' : j < ((ps.drop i).take 2).length := by
        rw [List.length_take, List.length_drop]
        omega
      rw [hp (i + j) hlt, List.getD_eq_getElem _ _ (by rw [length_leBytes]; exact hj),
        ← h.getElem hj', List.getElem_take, List.getElem_drop]
    · exact hrest j hle hj
  have hpair : leBytes 2 opcode.toNat =
      [(leBytes 2 opcode.toNat).getD 0 0, (leBytes 2 opcode.toNat).getD 1 0] := rfl
  refine streamToUint16_leBytes ?_
  rw [hpair, ← hread 0 (by omega), ← hread 1 (by omega)]
  rfl

lemma connHash_hidActive (handle interval : BitVec 16) :
    (hidActive (oneHid (handle &&& 0xfff)) handle interval).1.connHash =
      [hidActiveConn (hidConn (handle &&& 0xfff)) interval] := by
  rw [hidActive]
  dsimp only
  rw [updateHidActiveState, findConnectionByHandle_oneHid]
  rfl

/-- Two states differ if a connection has a short interval in one only. -/
lemma ne_of_hidInterval {s s' : Tracker} {handle a b : BitVec 16}
    (hs : s.connHash = [hidActiveConn (hidConn handle) a])
    (hs' : s'.connHash = [hidActiveConn (hidConn handle) b]) (ha : a < 60) (hb : ¬ b < 60) :
    s ≠ s' := by
  intro heq
  rw [heq, hs'] at hs
  have hbit := congrArg (fun c => c.profileBitmap .hidInterval) (List.cons.inj hs).1
  simp only [hidActiveConn_hidInterval, decide_eq_false hb, decide_eq_true ha] at hbit
  cases hbit

lemma hidActive_unsettled (h : ¬ IntervalKnown ps off) (hoff : 3 ≤ off) :
    Unsettled (fun _ t p => (hidActive t (streamToUint16 p 1) (streamToUint16 p off)).1) ps := by
  obtain ⟨p, q, hp, hq, -, hhandle, hshort, hlong⟩ := interval_unsettled h hoff
  refine ⟨roomEnv, _, reached_oneHid (streamToUint16 q 1 &&& 0xfff), not_settles hp hq ?_⟩
  dsimp only
  rw [hhandle]
  exact ne_of_hidInterval (connHash_hidActive ..) (connHash_hidActive ..) hshort hlong

lemma connected_oneHid (handle : BitVec 16) :
    connected (oneHid (handle &&& 0xfff)).toCoex handle .le (some .hid) roomEnv.alloc =
      { (oneHid (handle &&& 0xfff)).toCoex with
        toCounts := (oneHid (handle &&& 0xfff)).toCounts.add .hid false } := by
  unfold connected
  rw [findConnectionByHandle_oneHid]
  rfl

lemma connHash_leConnComplete (off : ℕ) (h : p 0 = 0) :
    (leConnCompleteEvt roomEnv (oneHid (streamToUint16 p 1 &&& 0xfff)) off p).1.connHash =
      [hidActiveConn (hidConn (streamToUint16 p 1 &&& 0xfff)) (streamToUint16 p off)] := by
  rw [leConnCompleteEvt]
  dsimp only
  rw [rtkHandleLeConnectionCompleteEvt, if_neg (not_not.2 h), canConnect,
    findConnectionByHandle_oneHid, Option.isSome_some, Bool.true_or, if_pos rfl, connected_oneHid]
  have hfind : findConnectionByHandle
      { (oneHid (streamToUint16 p 1 &&& 0xfff)).toCoex with
        toCounts := (oneHid (streamToUint16 p 1 &&& 0xfff)).toCounts.add .hid false }
      (streamToUint16 p 1) = some ⟨[], hidConn (streamToUint16 p 1 &&& 0xfff), []⟩ :=
    findConnectionByHandle_oneHid _
  rw [updateHidActiveState, hfind]
  rfl

/-- The status of an event that does not carry enough is zero, or is not there. -/
lemma StatusKnown.of_not {rest : Prop} (h : ¬ StatusKnown ps rest) (hrest : rest → ps ≠ []) :
    ps.getD 0 0 = 0 ∧ ¬ rest := by
  by_cases hnil : ps = []
  · exact ⟨by rw [hnil]; rfl, fun hr => hrest hr hnil⟩
  · rw [StatusKnown, not_and, Classical.not_imp] at h
    exact h hnil

lemma leConnComplete_unsettled (h : ¬ StatusKnown ps (IntervalKnown ps off)) (hoff : 3 ≤ off) :
    Unsettled (fun env t p => (leConnCompleteEvt env t off p).1) ps := by
  obtain ⟨hzero, hknown⟩ := StatusKnown.of_not h fun hk =>
    List.ne_nil_of_length_pos (by have := hk.lt_length; omega)
  obtain ⟨p, q, hp, hq, ⟨hp0, hq0⟩, hhandle, hshort, hlong⟩ := interval_unsettled hknown hoff
  refine ⟨roomEnv, _, reached_oneHid (streamToUint16 q 1 &&& 0xfff), not_settles hp hq ?_⟩
  have hps := connHash_leConnComplete off (hp0.trans hzero)
  rw [hhandle] at hps
  exact ne_of_hidInterval hps (connHash_leConnComplete off (hq0.trans hzero)) hshort hlong

lemma types_connComplete (h : p 0 = 0) :
    (connCompleteEvt roomEnv {} p).1.connHash.map (·.type) =
      [if p 9 = 0 ∨ p 9 = 2 then .sco else .l2cap] := by
  rw [connCompleteEvt]
  dsimp only
  rw [rtkHandleConnectionCompleteEvt, if_neg (not_not.2 h)]
  split <;> rfl

lemma connComplete_unsettled (h : ¬ StatusKnown ps (10 ≤ ps.length)) :
    Unsettled (fun env t p => (connCompleteEvt env t p).1) ps := by
  obtain ⟨hzero, hlen⟩ := StatusKnown.of_not h fun hl => List.ne_nil_of_length_pos (by omega)
  have hp := types_connComplete (p := refill ps fun _ => 0) hzero
  have hq := types_connComplete (p := refill ps (stale 9)) hzero
  rw [refill_of_le (by omega), if_pos (.inl rfl)] at hp
  rw [refill_of_le (by omega), if_neg (by decide)] at hq
  refine ⟨roomEnv, {}, reached_blank, fun hs => ?_⟩
  have heq := hs (fun _ => 0) (stale 9)
  dsimp only at heq
  rw [heq, hq] at hp
  cases hp

lemma length_connHash_disconnComplete {k : BitVec 16} (h : p 0 = 0) :
    (disconnCompleteEvt (oneHid k) p).1.connHash.length =
      if streamToUint16 p 1 &&& 0xfff = k then 0 else 1 := by
  rw [disconnCompleteEvt]
  dsimp only
  rw [rtkHandleDisconnectCompleteEvt, if_neg (not_not.2 h), findConnectionByHandle_oneHid_eq]
  by_cases hk : streamToUint16 p 1 &&& 0xfff = k
  · rw [if_pos hk, if_pos hk]
    rfl
  · rw [if_neg hk, if_neg hk]
    rfl

lemma toNat_handle (p : Ptr) (i : ℕ) :
    (streamToUint16 p i &&& 0xfff).toNat = ((p i).toNat + 256 * (p (i + 1)).toNat) % 4096 := by
  rw [BitVec.toNat_and, toNat_streamToUint16]
  exact Nat.and_two_pow_sub_one_eq_mod _ 12

lemma disconnComplete_unsettled (h : ¬ StatusKnown ps (3 ≤ ps.length)) :
    Unsettled (fun _ t p => (disconnCompleteEvt t p).1) ps := by
  obtain ⟨hzero, hlen⟩ := StatusKnown.of_not h fun hl => List.ne_nil_of_length_pos (by omega)
  have hother : streamToUint16 (refill ps (stale 1)) 1 &&& 0xfff ≠
      streamToUint16 (refill ps fun _ => 0) 1 &&& 0xfff := by
    intro heq
    have hnat := congrArg BitVec.toNat heq
    have hlow := (refill ps (stale 1) 1).toNat_lt
    have hlow' := (refill ps (fun _ => 0) 1).toNat_lt
    have hff : (stale 1 2).toNat = 255 := rfl
    have hzero' : (0 : UInt8).toNat = 0 := rfl
    rw [toNat_handle, toNat_handle, refill_of_le (i := 2) (by omega),
      refill_of_le (i := 2) (by omega), hff, hzero'] at hnat
    omega
  refine ⟨roomEnv, _, reached_oneHid (streamToUint16 (refill ps fun _ => 0) 1 &&& 0xfff),
    fun hs => ?_⟩
  have hconns := congrArg (fun s => s.connHash.length) (hs (fun _ => 0) (stale 1))
  dsimp only at hconns
  rw [length_connHash_disconnComplete hzero, length_connHash_disconnComplete hzero, if_pos rfl,
    if_neg hother] at hconns
  cases hconns

/-- What is behind the sub-event is handled by itself. -/
lemma leMeta_unsettled_of {sub : UInt8} {handler : EvEnv → Tracker → Ptr → Tracker}
    (h : Unsettled handler ps)
    (heq : ∀ env t p, p 0 = sub → (rtkHandleLeMetaEvt env t p).1 = handler env t (p.add 1)) :
    Unsettled (fun env t p => (rtkHandleLeMetaEvt env t p).1) (sub :: ps) := by
  obtain ⟨env, t, ht, hns⟩ := h
  refine ⟨env, t, ht, fun hs => hns (settles_tail ((settles_congr fun p hp => ?_).1 hs))⟩
  exact heq env t p (hp 0 (by simp))

lemma leMeta_unsettled (h : ¬ LeMetaCarries ps) :
    Unsettled (fun env t p => (rtkHandleLeMetaEvt env t p).1) ps := by
  cases ps with
  | nil =>
      -- one sub-event makes a connection, another one is not known
      refine ⟨roomEnv, {}, reached_blank, fun hs => ?_⟩
      have hconns := congrArg (fun s => s.connHash.length)
        (hs (fun _ => 0) fun i => if i = 0 then 1 else 0)
      cases hconns
  | cons sub rest =>
      by_contra hset
      refine h ⟨by simp, fun (hsub : sub = 0x01) => ?_, fun (hsub : sub = 0x0a) => ?_,
        fun (hsub : sub = 0x03) => ?_⟩ <;> subst hsub <;> by_contra hnot
      · refine hset (leMeta_unsettled_of (leConnComplete_unsettled hnot (by omega)) ?_)
        intro env t p hp
        rw [rtkHandleLeMetaEvt, if_pos hp]
      · refine hset (leMeta_unsettled_of (leConnComplete_unsettled hnot (by omega)) ?_)
        intro env t p hp
        rw [rtkHandleLeMetaEvt, hp, if_neg (by decide), if_pos rfl]
      · refine hset (leMeta_unsettled_of (hidActive_unsettled hnot (by omega)) ?_)
        intro env t p hp
        rw [rtkHandleLeMetaEvt, hp, if_neg (by decide), if_neg (by decide), if_pos rfl]
        rfl

/-- An opcode at a place, in front of other bytes. -/
def spelled (opcode : BitVec 16) (k : ℕ) (rest : Ptr) : Ptr := fun i =>
  if i = k then (leBytes 2 opcode.toNat).getD 0 0
  else if i = k + 1 then (leBytes 2 opcode.toNat).getD 1 0
  else rest i

lemma streamToUint16_spelled {opcode : BitVec 16} {k : ℕ} (h : MayBe opcode (ps.drop k))
    (rest : Ptr) : streamToUint16 (refill ps (spelled opcode k rest)) k = opcode := by
  refine streamToUint16_of_mayBe (begins_refill ps _) h fun j hj htwo => ?_
  rw [refill_of_le hj, spelled]
  rcases (by omega : j = 0 ∨ j = 1) with rfl | rfl
  · rw [if_pos (Nat.add_zero k)]
  · rw [if_neg (by omega), if_pos rfl]

lemma periodic_unsettled (h : MayBe hciOpPeriodicInq (ps.drop 1)) (hlen : ps.length < 4) :
    Unsettled (fun _ t p => rtkHandleCmdCompleteEvt t p) ps := by
  refine ⟨roomEnv, _, reached_inquiring, fun hs => ?_⟩
  have heq := congrArg Tracker.isinquirying
    (hs (spelled hciOpPeriodicInq 1 fun _ => 1) (spelled hciOpPeriodicInq 1 fun _ => 0))
  dsimp only at heq
  rw [rtkHandleCmdCompleteEvt, rtkHandleCmdCompleteEvt, streamToUint16_spelled h,
    streamToUint16_spelled h, refill_of_le (by omega), refill_of_le (by omega)] at heq
  cases heq

lemma profile_unsettled (h : MayBe hciVendorSetProfileReportCommand (ps.drop 1))
    (hlen : ps.length < 4) : Unsettled (fun _ t p => rtkHandleCmdCompleteEvt t p) ps := by
  refine ⟨roomEnv, _, reached_blank, fun hs => ?_⟩
  have heq := congrArg Tracker.profileinfoCmd
    (hs (spelled hciVendorSetProfileReportCommand 1 fun _ => 1)
      (spelled hciVendorSetProfileReportCommand 1 fun _ => 0))
  dsimp only at heq
  rw [rtkHandleCmdCompleteEvt, rtkHandleCmdCompleteEvt, streamToUint16_spelled h,
    streamToUint16_spelled h, refill_of_le (by omega), refill_of_le (by omega)] at heq
  cases heq

lemma lmpSubversion_cmdComplete (h : streamToUint16 p 1 = hciOpReadLocalVersion) (hzero : p 3 = 0) :
    (rtkHandleCmdCompleteEvt t p).lmpSubversion = streamToUint16 p 10 := by
  rw [rtkHandleCmdCompleteEvt, h, if_neg (by decide), if_pos rfl, if_pos hzero]

lemma version_unsettled (h : MayBe hciOpReadLocalVersion (ps.drop 1)) (hlen : ps.length < 12)
    (hzero : ps.getD 3 0 = 0) : Unsettled (fun _ t p => rtkHandleCmdCompleteEvt t p) ps := by
  have hp11 : refill ps (spelled hciOpReadLocalVersion 1 fun _ => 0) 11 = 0 :=
    refill_of_le (by omega)
  have hq11 : refill ps (spelled hciOpReadLocalVersion 1 (stale 4)) 11 = 0xff :=
    refill_of_le (by omega)
  refine ⟨roomEnv, {}, reached_blank, fun hs => ?_⟩
  have heq := congrArg (fun s => s.lmpSubversion.toNat)
    (hs (spelled hciOpReadLocalVersion 1 fun _ => 0) (spelled hciOpReadLocalVersion 1 (stale 4)))
  dsimp only at heq
  rw [lmpSubversion_cmdComplete (streamToUint16_spelled h fun _ => 0) hzero,
    lmpSubversion_cmdComplete (streamToUint16_spelled h (stale 4)) hzero, toNat_streamToUint16,
    toNat_streamToUint16, hp11, hq11] at heq
  have hlow := (refill ps (spelled hciOpReadLocalVersion 1 fun _ => 0) 10).toNat_lt
  have hzero' : (0 : UInt8).toNat = 0 := rfl
  have hff : (0xff : UInt8).toNat = 255 := rfl
  omega

lemma cmdComplete_unsettled (h : ¬ CmdCompleteCarries ps) :
    Unsettled (fun _ t p => rtkHandleCmdCompleteEvt t p) ps := by
  by_contra hset
  refine h ⟨fun hm => ?_, fun hm => ?_, fun hm => ?_⟩
  · by_contra hlen
    exact hset (periodic_unsettled hm (by omega))
  · have hlong : ps.getD 3 0 = 0 → 12 ≤ ps.length := by
      intro hzero
      by_contra hlen
      exact hset (version_unsettled hm (by omega) hzero)
    refine ⟨?_, hlong⟩
    by_contra hlen
    have := hlong (List.getD_eq_default _ _ (by omega))
    omega
  · by_contra hlen
    exact hset (profile_unsettled hm (by omega))

/-- An opcode whose high byte is one that is stale is none that the handler knows. -/
lemma cmdStatus_stale (hlen : ps.length < 4) :
    rtkHandleCmdStatusEvt t (refill ps (stale 0)) = t := by
  have hhigh : refill ps (stale 0) 3 = 0xff := refill_of_le (by omega)
  have hne : ∀ opcode : BitVec 16, opcode.toNat < 0xff00 →
      streamToUint16 (refill ps (stale 0)) 2 ≠ opcode := by
    rintro opcode hlt rfl
    have hff : (0xff : UInt8).toNat = 255 := rfl
    rw [toNat_streamToUint16, hhigh] at hlt
    omega
  rw [rtkHandleCmdStatusEvt, if_neg (hne _ (by decide)), if_neg (hne _ (by decide))]

lemma inquiry_unsettled (h : MayBe hciOpInquiry (ps.drop 2)) (hlen : ps.length < 4)
    (hstatus : ps.getD 0 1 ≠ 0) : Unsettled (fun _ t p => rtkHandleCmdStatusEvt t p) ps := by
  have hp : refill ps (spelled hciOpInquiry 2 fun _ => 1) 0 ≠ 0 := hstatus
  refine ⟨roomEnv, _, reached_inquiring, fun hs => ?_⟩
  have heq := congrArg Tracker.isinquirying
    (hs (spelled hciOpInquiry 2 fun _ => 1) (stale 0))
  dsimp only at heq
  rw [cmdStatus_stale hlen, rtkHandleCmdStatusEvt, streamToUint16_spelled h, if_pos rfl,
    if_pos hp] at heq
  cases heq

lemma create_unsettled (h : MayBe hciOpCreateConn (ps.drop 2)) (hlen : ps.length < 4)
    (hstatus : ps.getD 0 0 = 0) : Unsettled (fun _ t p => rtkHandleCmdStatusEvt t p) ps := by
  have hp : refill ps (spelled hciOpCreateConn 2 fun _ => 0) 0 = 0 := hstatus
  refine ⟨roomEnv, _, reached_blank, fun hs => ?_⟩
  have heq := congrArg Tracker.ispaging
    (hs (spelled hciOpCreateConn 2 fun _ => 0) (stale 0))
  dsimp only at heq
  rw [cmdStatus_stale hlen, rtkHandleCmdStatusEvt, streamToUint16_spelled h, if_neg (by decide),
    if_pos rfl, if_pos hp] at heq
  cases heq

lemma cmdStatus_unsettled (h : ¬ CmdStatusCarries ps) :
    Unsettled (fun _ t p => rtkHandleCmdStatusEvt t p) ps := by
  by_contra hset
  have hne : ps ≠ [] := by
    rintro rfl
    exact hset (inquiry_unsettled List.nil_prefix (by decide) (by decide))
  have hpos := List.length_pos_iff.2 hne
  refine h ⟨hne, fun hm hstatus => ?_, fun hm hstatus => ?_⟩
  · by_contra hlen
    rw [List.getD_eq_getElem _ _ hpos, ← List.getD_eq_getElem _ 1 hpos] at hstatus
    exact hset (inquiry_unsettled hm (by omega) hstatus)
  · by_contra hlen
    exact hset (create_unsettled hm (by omega) hstatus)

lemma handleEvent_unsettled {c : EvCode} (h : ¬ Carries ps c) :
    Unsettled (fun env t p => (handleEvent env t p c).1) ps := by
  cases c with
  | modeChange => exact hidActive_unsettled h (by omega)
  | cmdComplete => exact cmdComplete_unsettled h
  | cmdStatus => exact cmdStatus_unsettled h
  | connComplete => exact connComplete_unsettled h
  | syncConnComplete => exact connComplete_unsettled h
  | disconnComplete => exact disconnComplete_unsettled h
  | leMeta => exact leMeta_unsettled h
  | inquiryComplete => exact absurd trivial h
  | authComplete => exact absurd trivial h
  | pinCodeReq => exact absurd trivial h
  | linkKeyNotify => exact absurd trivial h
  | ioCapaRequest => exact absurd trivial h
  | vendorSpecific => exact absurd trivial h
  | other => exact absurd trivial h

/-! ### Nodes -/

/-- The parameters that there is room for in a node. -/
abbrev maxParams : ℕ := maxLenOfHciEv - 2

variable {data : Ptr} {e : HciEvent}

lemma evCopy_add : (evCopy data e).add 2 = refill (e.params.take maxParams) (data.add 2) := rfl

/-- An event with as many parameters carries everything. -/
lemma carries_of_le {c : EvCode} (h : maxParams ≤ ps.length) : Carries ps c := by
  have hroom : maxParams = 30 := rfl
  have hne : ps ≠ [] := List.ne_nil_of_length_pos (by omega)
  have hne1 : ps.drop 1 ≠ [] := List.ne_nil_of_length_pos (by rw [List.length_drop]; omega)
  have hknown : ∀ off ≤ 23, IntervalKnown (ps.drop 1) off := by
    intro off hoff
    rw [IntervalKnown, List.length_drop]
    omega
  cases c with
  | modeChange => exact .inl (by omega)
  | cmdComplete =>
      exact ⟨fun _ => by omega, fun _ => ⟨by omega, fun _ => by omega⟩, fun _ => by omega⟩
  | cmdStatus => exact ⟨hne, fun _ _ => by omega, fun _ _ => by omega⟩
  | connComplete => exact ⟨hne, fun _ => by omega⟩
  | syncConnComplete => exact ⟨hne, fun _ => by omega⟩
  | disconnComplete => exact ⟨hne, fun _ => by omega⟩
  | leMeta =>
      exact ⟨hne, fun _ => ⟨hne1, fun _ => hknown 11 (by omega)⟩,
        fun _ => ⟨hne1, fun _ => hknown 23 (by omega)⟩, fun _ => hknown 3 (by omega)⟩
  | inquiryComplete => trivial
  | authComplete => trivial
  | pinCodeReq => trivial
  | linkKeyNotify => trivial
  | ioCapaRequest => trivial
  | vendorSpecific => trivial
  | other => trivial

lemma carries_take {c : EvCode} : Carries (ps.take maxParams) c ↔ Carries ps c := by
  rcases Nat.le_total ps.length maxParams with hle | hle
  · rw [List.take_of_length_le hle]
  · refine iff_of_true (carries_of_le ?_) (carries_of_le hle)
    rw [List.length_take, min_eq_left hle]

/-- The handlers do not look behind the node. -/
lemma handleEvent_congr {c : EvCode} (h : ∀ i < maxParams, p i = q i) :
    handleEvent env t p c = handleEvent env t q c := by
  have hlen : (List.ofFn fun i : Fin maxParams => q i).length = maxParams := List.length_ofFn
  have hq : Begins (List.ofFn fun i : Fin maxParams => q i) q := by
    intro i hi
    rw [List.getElem_ofFn]
  have hp : Begins (List.ofFn fun i : Fin maxParams => q i) p := by
    intro i hi
    rw [List.getElem_ofFn]
    exact h i (hlen ▸ hi)
  exact handleEvent_settles hp hq (carries_of_le hlen.ge)

/-- An event that leaves some bytes in the node. -/
def leavingEvent (old : Ptr) : HciEvent where
  code := 0xff
  params := List.ofFn fun i : Fin maxParams => old i
  short := by
    rw [List.length_ofFn]
    decide

lemma leavingEvent_passes (old : Ptr) : (leavingEvent old).Passes := ⟨fun _ => 0, rfl⟩

lemma nodeData_leavingEvent {old : Ptr} (hi : i < maxParams) :
    nodeData [leavingEvent old] (i + 2) = old i := by
  have hlen : ((leavingEvent old).params.take maxParams).length = maxParams := by
    rw [List.length_take, leavingEvent, List.length_ofFn, min_self]
  have hread : (evCopy (fun _ => 0) (leavingEvent old)).add 2 i = old i := by
    rw [evCopy_add, refill_of_lt (hlen.symm ▸ hi), List.getElem_take]
    exact List.getElem_ofFn _
  exact hread

/-! ### When an event does not depend on the node -/

/-- Whatever events were in the node before, the event does the same. -/
def Alike (e : HciEvent) : Prop :=
  ∀ env t, Reached t → ∀ es es' : List HciEvent, (∀ x ∈ es, x.Passes) → (∀ x ∈ es', x.Passes) →
    rtkParseEventData env t (evCopy (nodeData es) e) =
      rtkParseEventData env t (evCopy (nodeData es') e)

lemma rtkParseEventData_evCopy :
    rtkParseEventData env t (evCopy data e) =
      ((handleEvent env t (refill (e.params.take maxParams) (data.add 2)) (evCode e.code)).1,
        env.queued
          (handleEvent env t (refill (e.params.take maxParams) (data.add 2)) (evCode e.code)).2) :=
  rfl

lemma alike_of_carries (h : Carries e.params (evCode e.code)) : Alike e := by
  intro env t _ es es' _ _
  rw [rtkParseEventData_evCopy, rtkParseEventData_evCopy,
    handleEvent_settles (begins_refill _ _) (begins_refill _ _) (carries_take.2 h)]

lemma carries_of_alike (h : Alike e) : Carries e.params (evCode e.code) := by
  by_contra hc
  obtain ⟨env, t, ht, hset⟩ := handleEvent_unsettled (carries_take.not.2 hc)
  refine hset fun old old' => ?_
  -- any bytes may be left in the node
  have hleft : ∀ old : Ptr, handleEvent env t (refill (e.params.take maxParams) old)
      (evCode e.code) = handleEvent env t (refill (e.params.take maxParams)
        ((nodeData [leavingEvent old]).add 2)) (evCode e.code) := by
    intro old
    refine handleEvent_congr fun i hi => ?_
    exact congrArg (fun b => (e.params.take maxParams).getD i b) (nodeData_leavingEvent hi).symm
  have hpass : ∀ old : Ptr, ∀ x ∈ [leavingEvent old], x.Passes := by
    intro old x hx
    rw [List.mem_singleton.1 hx]
    exact leavingEvent_passes old
  have heq := congrArg Prod.fst (h env t ht _ _ (hpass old) (hpass old'))
  rw [rtkParseEventData_evCopy, rtkParseEventData_evCopy] at heq
  dsimp only at heq ⊢
  rw [hleft old, hleft old', heq]

/-- What is done about an event does not depend on what its node held before exactly when the
event carries all that its handler looks at. -/
theorem rtkParseEventData_alike_iff (e : HciEvent) :
    Alike e ↔ Carries e.params (evCode e.code) := ⟨carries_of_alike, alike_of_carries⟩

/-- A LE connection event that ends after its sub-event. -/
def shortLeConn : HciEvent := ⟨0x3e, [0x01], by decide⟩

theorem not_alike_shortLeConn : ¬ Alike shortLeConn := by
  intro h
  have hmeta : LeMetaCarries [0x01] := carries_of_alike h
  exact (hmeta.complete rfl).1 rfl

end Rtl8723du.Bt
