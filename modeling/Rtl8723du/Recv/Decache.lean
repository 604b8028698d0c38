import Rtl8723du.Lib.Machine
import Rtl8723du.Recv.Frame
import Mathlib.Data.List.Basic

/-!
# Duplicate detection

`recv_decache` drops a data frame that repeats the last one of its kind.  For each TID and for
frames without QoS, each with a word for frames to one receiver and one for groups,
`struct sta_info` keeps the sequence control of the last frame that was let through.
`rtw_alloc_stainfo` sets all words to `0xffff`, which is a sequence control as well: that of the
sixteenth fragment of the sequence number 4095.  So the filter does what it is for just if no kind
of frames begins with that one.
-/

namespace Rtl8723du

open Lib

/-! ### The header fields -/

/-- What `validate_recv_frame` and `validate_recv_data_frame` read from the header of a data
frame before `recv_decache` sees it. -/
structure DataHdr where
  /-- The frame is a QoS data frame. -/
  qos : Bool
  /-- The receiver address. -/
  addr1 : MacAddr
  /-- The sequence control field. -/
  seqCtl : UInt16
  /-- The QoS control field, if there is one. -/
  qc : UInt16
deriving DecidableEq, Repr

namespace DataHdr

/-- `GetSequence`. -/
def getSequence (h : DataHdr) : ℕ := h.seqCtl.toNat / 16

/-- `GetFragNum`. -/
def getFragNum (h : DataHdr) : Fin 16 := ⟨h.seqCtl.toNat % 16, Nat.mod_lt _ (by decide)⟩

/-- `GetPriority`. -/
def getPriority (h : DataHdr) : ℕ := h.qc.toNat % 16

/-- The attributes that the header leaves in the frame. -/
def attrib (h : DataHdr) : RxPktAttrib :=
  { qos := h.qos
    ra := h.addr1
    seqNum := h.getSequence
    fragNum := h.getFragNum
    priority := if h.qos then h.getPriority else 0 }

end DataHdr

/-! ### The filter -/

/-- The words `prxseq` points to. -/
inductive RxClass
  | tid (t : Fin 16)
  | bmcTid (t : Fin 16)
  | nonqos
  | nonqosBmc
deriving DecidableEq, Repr

/-- What `recv_decache` keeps of a station. -/
structure StaRecvSeq where
  /-- `rxcache.tid_rxseq`. -/
  tidRxseq : Vector UInt16 16
  bmcTidRxseq : Vector UInt16 16
  nonqosRxseq : UInt16
  nonqosBmcRxseq : UInt16
  /-- `sta_stats.duplicate_cnt`. -/
  duplicateCnt : UInt32
deriving DecidableEq, Repr

namespace StaRecvSeq

/-- `*prxseq`. -/
def word (s : StaRecvSeq) : RxClass → UInt16
  | .tid t => s.tidRxseq.get t
  | .bmcTid t => s.bmcTidRxseq.get t
  | .nonqos => s.nonqosRxseq
  | .nonqosBmc => s.nonqosBmcRxseq

/-- `*prxseq = v`. -/
def setWord (s : StaRecvSeq) (c : RxClass) (v : UInt16) : StaRecvSeq :=
  match c with
  | .tid t => { s with tidRxseq := s.tidRxseq.setIfInBounds t v }
  | .bmcTid t => { s with bmcTidRxseq := s.bmcTidRxseq.setIfInBounds t v }
  | .nonqos => { s with nonqosRxseq := v }
  | .nonqosBmc => { s with nonqosBmcRxseq := v }

end StaRecvSeq

/-- `wRxSeqInitialValue`. -/
def wRxSeqInitialValue : UInt16 := 0xffff

/-- The words as `rtw_alloc_stainfo` sets them. -/
def allocRxseq : StaRecvSeq where
  tidRxseq := Vector.replicate 16 wRxSeqInitialValue
  bmcTidRxseq := Vector.replicate 16 wRxSeqInitialValue
  nonqosRxseq := wRxSeqInitialValue
  nonqosBmcRxseq := wRxSeqInitialValue
  duplicateCnt := 0

/-- `seq_ctrl` in `recv_decache`. -/
def RxPktAttrib.seqCtrl (a : RxPktAttrib) : UInt16 :=
  UInt16.ofNat ((a.seqNum % 0x10000) <<< 4 ||| a.fragNum.val)

/-- `recv_decache`. -/
def recvDecache (s : StaRecvSeq) (a : RxPktAttrib) : RxRet × StaRecvSeq :=
  if h : 15 < a.priority then (.fail, s)
  else
    let tid : Fin 16 := ⟨a.priority, by omega⟩
    let prxseq : RxClass :=
      if a.qos then if isMcast a.ra then .bmcTid tid else .tid tid
      else if isMcast a.ra then .nonqosBmc else .nonqos
    if a.seqCtrl = s.word prxseq then
      (.fail, { s with duplicateCnt := s.duplicateCnt + 1 })
    else (.success, s.setWord prxseq a.seqCtrl)

/-- A data frame of the station reaches `recv_decache`; one that is let through is handed out. -/
def decacheStep (s : StaRecvSeq) (h : DataHdr) : StaRecvSeq × List DataHdr :=
  ((recvDecache s h.attrib).2, if (recvDecache s h.attrib).1 = .success then [h] else [])

/-! ### What it is for -/

/-- The kind of a frame: its TID or that it has none, and whether it is for a group. -/
def DataHdr.rxClass (h : DataHdr) : RxClass :=
  let tid : Fin 16 := ⟨h.getPriority, Nat.mod_lt _ (by decide)⟩
  if h.qos then if isMcast h.addr1 then .bmcTid tid else .tid tid
  else if isMcast h.addr1 then .nonqosBmc else .nonqos

/-- The last frame of a kind in a list of frames. -/
def lastOf (c : RxClass) (hs : List DataHdr) : Option DataHdr :=
  (hs.filter fun g => g.rxClass = c).getLast?

/-- A frame repeats another: it has its sequence and fragment number. -/
def DataHdr.Repeats (h g : DataHdr) : Prop :=
  h.getSequence = g.getSequence ∧ h.getFragNum = g.getFragNum

instance (h g : DataHdr) : Decidable (h.Repeats g) := inferInstanceAs (Decidable (_ ∧ _))

/-- A frame that arrives after `pre` is dropped just if it repeats the last frame of its kind
that was let through. -/
def DropsRepeatOnly (pre : List DataHdr) (h : DataHdr) : Prop :=
  (recvDecache (Machine.final decacheStep allocRxseq pre) h.attrib).1 ≠ .success ↔
    ∃ g ∈ lastOf h.rxClass (Machine.outputs decacheStep allocRxseq pre), h.Repeats g

instance (pre : List DataHdr) (h : DataHdr) : Decidable (DropsRepeatOnly pre h) :=
  inferInstanceAs (Decidable (_ ↔ _))

/-- The frame whose sequence control is the initial value of the words. -/
def DataHdr.IsInitial (h : DataHdr) : Prop := h.getSequence = 4095 ∧ h.getFragNum = 15

instance (h : DataHdr) : Decidable h.IsInitial := inferInstanceAs (Decidable (_ ∧ _))

/-! ### One frame -/

namespace StaRecvSeq

variable {s : StaRecvSeq} {c d : RxClass} {v : UInt16}

lemma word_setWord : (s.setWord c v).word d = if d = c then v else s.word d := by
  have hset (w : Vector UInt16 16) (t u : Fin 16) :
      (w.setIfInBounds t v).get u = if u = t then v else w.get u := by
    show (w.setIfInBounds t v)[u.val] = if u = t then v else w[u.val]
    rw [Vector.getElem_setIfInBounds]
    simp only [Fin.ext_iff, eq_comm]
  cases c <;> cases d <;> simp [word, setWord, hset]

@[simp] lemma word_duplicateCnt (n : UInt32) :
    ({ s with duplicateCnt := n }).word c = s.word c := by
  cases c <;> rfl

@[simp] lemma word_allocRxseq : allocRxseq.word c = 0xffff := by
  have hget (t : Fin 16) : (Vector.replicate 16 (0xffff : UInt16)).get t = 0xffff :=
    Vector.getElem_replicate t.isLt
  cases c <;> simp [word, allocRxseq, wRxSeqInitialValue, hget]

end StaRecvSeq

/-- `seq_ctrl` is the field it was read from. -/
lemma DataHdr.seqCtrl_attrib (h : DataHdr) : h.attrib.seqCtrl = h.seqCtl := by
  have hlt := h.seqCtl.toNat_lt
  have hseq : h.seqCtl.toNat / 16 % 0x10000 = h.seqCtl.toNat / 16 := Nat.mod_eq_of_lt (by omega)
  have hor : (h.seqCtl.toNat / 16) <<< 4 ||| h.seqCtl.toNat % 16 = h.seqCtl.toNat := by
    rw [← Nat.shiftLeft_add_eq_or_of_lt (show h.seqCtl.toNat % 16 < 2 ^ 4 by omega),
      Nat.shiftLeft_eq]
    omega
  show UInt16.ofNat ((h.seqCtl.toNat / 16 % 0x10000) <<< 4 ||| h.seqCtl.toNat % 16) = _
  rw [hseq, hor]
  exact UInt16.ofNat_toNat

lemma DataHdr.repeats_iff {h g : DataHdr} : h.Repeats g ↔ h.seqCtl = g.seqCtl := by
  constructor
  · rintro ⟨hseq, hfrag⟩
    have hfrag' : h.seqCtl.toNat % 16 = g.seqCtl.toNat % 16 := congrArg Fin.val hfrag
    simp only [getSequence] at hseq
    exact UInt16.toNat_inj.1 (by omega)
  · intro heq
    simp [Repeats, getSequence, getFragNum, heq]

lemma DataHdr.isInitial_iff {h : DataHdr} : h.IsInitial ↔ h.seqCtl = 0xffff := by
  constructor
  · rintro ⟨hseq, hfrag⟩
    have hfrag' : h.seqCtl.toNat % 16 = 15 := congrArg Fin.val hfrag
    simp only [getSequence] at hseq
    exact UInt16.toNat_inj.1 (show h.seqCtl.toNat = 65535 by omega)
  · intro heq
    have hnat : h.seqCtl.toNat = 65535 := by rw [heq]; rfl
    exact ⟨by simp [getSequence, hnat], Fin.ext (by simp [getFragNum, hnat])⟩

/-- All that `recv_decache` does with a data frame. -/
lemma recvDecache_attrib (s : StaRecvSeq) (h : DataHdr) :
    recvDecache s h.attrib =
      if h.seqCtl = s.word h.rxClass then
        (.fail, { s with duplicateCnt := s.duplicateCnt + 1 })
      else (.success, s.setWord h.rxClass h.seqCtl) := by
  have hlt : h.getPriority < 16 := Nat.mod_lt _ (by decide)
  have hprio : ¬ 15 < h.attrib.priority := by
    simp only [DataHdr.attrib]
    split <;> omega
  rw [recvDecache, dif_neg hprio, DataHdr.seqCtrl_attrib]
  -- a frame without QoS has the priority 0, but its word does not depend on it
  rcases Bool.eq_false_or_eq_true h.qos with hqos | hqos <;>
    simp [DataHdr.attrib, DataHdr.rxClass, hqos]

lemma recvDecache_success_iff {s : StaRecvSeq} {h : DataHdr} :
    (recvDecache s h.attrib).1 = .success ↔ h.seqCtl ≠ s.word h.rxClass := by
  rw [recvDecache_attrib]
  split <;> simp [*]

lemma decacheStep_of_eq {s : StaRecvSeq} {h : DataHdr} (heq : h.seqCtl = s.word h.rxClass) :
    decacheStep s h = ({ s with duplicateCnt := s.duplicateCnt + 1 }, []) := by
  rw [decacheStep, recvDecache_attrib, if_pos heq]
  simp

lemma decacheStep_of_ne {s : StaRecvSeq} {h : DataHdr} (hne : h.seqCtl ≠ s.word h.rxClass) :
    decacheStep s h = (s.setWord h.rxClass h.seqCtl, [h]) := by
  rw [decacheStep, recvDecache_attrib, if_neg hne]
  simp

/-! ### Runs -/

/-- The words hold the sequence control of the last frame of each kind in `hs`. -/
def SeqTracks (s : StaRecvSeq) (hs : List DataHdr) : Prop :=
  ∀ c, s.word c = ((lastOf c hs).map DataHdr.seqCtl).getD 0xffff

lemma lastOf_concat (c : RxClass) (hs : List DataHdr) (h : DataHdr) :
    lastOf c (hs ++ [h]) = if h.rxClass = c then some h else lastOf c hs := by
  by_cases hc : h.rxClass = c <;> simp [lastOf, List.filter_append, hc]

lemma SeqTracks.step {s : StaRecvSeq} {hs : List DataHdr} (ht : SeqTracks s hs) (h : DataHdr) :
    SeqTracks (decacheStep s h).1 (hs ++ (decacheStep s h).2) := by
  intro c
  by_cases heq : h.seqCtl = s.word h.rxClass
  · rw [decacheStep_of_eq heq]
    simpa using ht c
  · rw [decacheStep_of_ne heq, StaRecvSeq.word_setWord, lastOf_concat]
    by_cases hc : c = h.rxClass
    · simp [hc]
    · rw [if_neg hc, if_neg (Ne.symm hc)]
      exact ht c

/-- The words after any run from a fresh entry. -/
lemma seqTracks_final (hs : List DataHdr) :
    SeqTracks (Machine.final decacheStep allocRxseq hs)
      (Machine.outputs decacheStep allocRxseq hs) := by
  have hfresh : SeqTracks allocRxseq [] := fun c => by simp [lastOf]
  have hrun := Machine.history_induction (P := fun _ _ => True) (I := SeqTracks)
    (fun s acc h _ ht => ht.step h) hfresh
    (Machine.along_of_forall (Q := fun _ => True) fun h (_ : h ∈ hs) => trivial)
  simpa using hrun

/-- What is let through has arrived. -/
lemma mem_of_mem_outputs {s : StaRecvSeq} {hs : List DataHdr} {g : DataHdr}
    (hg : g ∈ Machine.outputs decacheStep s hs) : g ∈ hs := by
  obtain ⟨pre, post, hsplit⟩ := List.append_of_mem hg
  obtain ⟨hs₁, h, hs₂, mid, mid', rfl, hstep, -⟩ := Machine.exists_of_outputs_eq decacheStep hsplit
  have hmem : g ∈ (decacheStep (Machine.final decacheStep s hs₁) h).2 := by simp [hstep]
  have hgh : g = h := by
    rw [decacheStep] at hmem
    split at hmem
    · simpa using hmem
    · simp at hmem
  simp [hgh]

lemma lastOf_eq_none_iff {c : RxClass} {hs : List DataHdr} :
    lastOf c hs = none ↔ ∀ g ∈ hs, g.rxClass ≠ c := by
  simp [lastOf]

/-- The first frame of a kind is let through if it is not the initial one. -/
lemma mem_outputs_of_first {pre : List DataHdr} {h : DataHdr} (post : List DataHdr)
    (hfirst : ∀ g ∈ pre, g.rxClass ≠ h.rxClass) (hinit : ¬ h.IsInitial) :
    h ∈ Machine.outputs decacheStep allocRxseq (pre ++ h :: post) := by
  have hnone : lastOf h.rxClass (Machine.outputs decacheStep allocRxseq pre) = none :=
    lastOf_eq_none_iff.2 fun g hg => hfirst g (mem_of_mem_outputs hg)
  have hword : (Machine.final decacheStep allocRxseq pre).word h.rxClass = 0xffff := by
    rw [seqTracks_final pre h.rxClass, hnone]
    rfl
  have hne : h.seqCtl ≠ (Machine.final decacheStep allocRxseq pre).word h.rxClass := by
    rw [hword]
    exact mt DataHdr.isInitial_iff.2 hinit
  rw [Machine.outputs_append, Machine.outputs_cons, decacheStep_of_ne hne]
  simp

/-- A kind of which nothing was let through begins with the initial frame, or has not begun. -/
lemma exists_first_of_lastOf_eq_none {c : RxClass} {pre : List DataHdr}
    (hnone : lastOf c (Machine.outputs decacheStep allocRxseq pre) = none) :
    (∀ g ∈ pre, g.rxClass ≠ c) ∨
      ∃ p g q, pre = p ++ g :: q ∧ g.rxClass = c ∧ (∀ g' ∈ p, g'.rxClass ≠ c) ∧
        g.IsInitial := by
  rcases hfind : pre.find? (fun g => g.rxClass = c) with _ | g
  · left
    simpa using hfind
  · right
    obtain ⟨hc, p, q, rfl, hp⟩ := List.find?_eq_some_iff_append.1 hfind
    have hc' : g.rxClass = c := by simpa using hc
    have hp' : ∀ g' ∈ p, g'.rxClass ≠ c := by simpa using hp
    refine ⟨p, g, q, rfl, hc', hp', ?_⟩
    by_contra hinit
    have hmem := mem_outputs_of_first q (by rwa [hc']) hinit
    exact lastOf_eq_none_iff.1 hnone g hmem hc'

/-- Of a run one knows exactly when a frame is treated as it should be. -/
lemma dropsRepeatOnly_iff {pre : List DataHdr} {h : DataHdr} :
    DropsRepeatOnly pre h ↔
      ¬ (lastOf h.rxClass (Machine.outputs decacheStep allocRxseq pre) = none ∧ h.IsInitial) := by
  have ht := seqTracks_final pre h.rxClass
  rw [DropsRepeatOnly, Ne, recvDecache_success_iff, not_not, ht, DataHdr.isInitial_iff]
  cases lastOf h.rxClass (Machine.outputs decacheStep allocRxseq pre) with
  | none => simp
  | some g => simp [DataHdr.repeats_iff]

/-- From a fresh entry every frame of a run is dropped just if it repeats the last frame of its
kind that was let through, if and only if no kind begins with the initial value. -/
theorem decache_iff_no_initial (hs : List DataHdr) :
    (∀ pre h post, hs = pre ++ h :: post → DropsRepeatOnly pre h) ↔
      ∀ pre h post, hs = pre ++ h :: post → (∀ g ∈ pre, g.rxClass ≠ h.rxClass) →
        ¬ h.IsInitial := by
  constructor
  · intro hdrops pre h post hsplit hfirst hinit
    refine dropsRepeatOnly_iff.1 (hdrops pre h post hsplit) ⟨?_, hinit⟩
    exact lastOf_eq_none_iff.2 fun g hg => hfirst g (mem_of_mem_outputs hg)
  · intro hfirst pre h post hsplit
    refine dropsRepeatOnly_iff.2 ?_
    rintro ⟨hnone, hinit⟩
    rcases exists_first_of_lastOf_eq_none hnone with hnew | ⟨p, g, q, rfl, hc, hp, hg⟩
    · exact hfirst pre h post hsplit hnew hinit
    · refine hfirst p g (q ++ h :: post) (by simp [hsplit]) ?_ hg
      rwa [hc]

/-- The first frame without QoS is the sixteenth fragment of the last sequence number. -/
theorem decache_drops_first :
    ¬ DropsRepeatOnly [] ⟨false, MacAddr.ofBytes 2 0 0 0 0 1, 0xffff, 0⟩ := by
  decide

end Rtl8723du
