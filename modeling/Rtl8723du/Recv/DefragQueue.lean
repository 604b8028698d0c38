import Mathlib.Data.List.Infix
import Rtl8723du.Recv.Defrag

/-!
# How many fragments wait

`recvframe_chk_defrag` appends every fragment with More Fragments to the `defrag_q` of its station.
Only a fragment with the number zero and a last fragment empty the queue; that there are no more
than sixteen fragment numbers is not used.
-/

namespace Rtl8723du

open Lib.Machine

/-- What a frame is for the `defrag_q`. -/
inductive FragmentKind
  /-- The queue begins anew. -/
  | first
  | next
  /-- The queue is put together. -/
  | last
  /-- Not a fragment, or dropped since it is group addressed. -/
  | other
deriving DecidableEq, Repr

/-- The kind of a frame, by its header. -/
def RecvFrame.fragmentKind (f : RecvFrame) : FragmentKind :=
  if isMcast f.attrib.ra then .other
  else if f.attrib.mfrag then if f.attrib.fragNum = 0 then .first else .next
  else if f.attrib.fragNum = 0 then .other else .last

/-- The fragments that wait for a transmitter. -/
def DefragPriv.waiting (s : DefragPriv) (ta : MacAddr) : List RecvFrame :=
  ((s.getStainfo ta).map DefragSta.defragQ).getD []

/-- After some frames. -/
def DefragPriv.after (s : DefragPriv) (fs : List RecvFrame) : DefragPriv :=
  final defragStep s (fs.map DefragEvent.frame)

/-- The fragments that a station can have waiting at most, if they are to be of one MSDU. -/
abbrev fragNumbers : ℕ := 16

/-- At no time more fragments wait than there are fragment numbers. -/
def QueueBounded (s : DefragPriv) (ta : MacAddr) (fs : List RecvFrame) : Prop :=
  ∀ p, p <+: fs → ((s.after p).waiting ta).length ≤ fragNumbers

/-- Frames in a row that do not empty the queue, but for the first one. -/
structure Stretch (seg : List RecvFrame) : Prop where
  last : ∀ f ∈ seg, f.fragmentKind ≠ .last
  first : ∀ f ∈ seg.tail, f.fragmentKind ≠ .first

/-- How many frames are put into the queue. -/
def queued (seg : List RecvFrame) : ℕ :=
  seg.countP fun f => f.fragmentKind = .first ∨ f.fragmentKind = .next

/-- In no stretch more frames have More Fragments than there are fragment numbers. -/
def StretchesBounded (fs : List RecvFrame) : Prop :=
  ∀ seg, seg <:+: fs → Stretch seg → queued seg ≤ fragNumbers

/-- The number of fragments that wait, after a frame. -/
def queueLen (n : ℕ) (f : RecvFrame) : ℕ :=
  match f.fragmentKind with
  | .first => 1
  | .next => n + 1
  | .last => 0
  | .other => n

variable {s : DefragPriv} {ta : MacAddr} {f : RecvFrame} {fs seg : List RecvFrame} {n : ℕ}

/-! ### One frame -/

/-- The queue of a station is changed to another one. -/
lemma DefragPriv.getStainfo_setDefragQ (hsta : (s.getStainfo ta).isSome) (q : List RecvFrame) :
    ((s.setDefragQ (stainfoAddr ta) q).getStainfo ta).isSome ∧
      (s.setDefragQ (stainfoAddr ta) q).waiting ta = q := by
  obtain ⟨sta, hsome⟩ := Option.isSome_iff_exists.1 hsta
  have hsome' : s.stapriv (stainfoAddr ta) = some sta := hsome
  have h : (s.setDefragQ (stainfoAddr ta) q).getStainfo ta = some { sta with defragQ := q } := by
    show Function.update s.stapriv _ _ (stainfoAddr ta) = _
    rw [Function.update_self, hsome']
    rfl
  rw [DefragPriv.waiting, h]
  exact ⟨rfl, rfl⟩

/-- A frame of the station changes the number of fragments that wait as its kind says. -/
lemma length_waiting_step (hsta : (s.getStainfo ta).isSome) (hta : f.attrib.ta = ta) :
    (((recvframeChkDefrag s f).2).getStainfo ta).isSome ∧
      ((recvframeChkDefrag s f).2.waiting ta).length = queueLen (s.waiting ta).length f := by
  obtain ⟨sta, hsome⟩ := Option.isSome_iff_exists.1 hsta
  have haddr : s.pstaAddr f = stainfoAddr ta := by
    rw [DefragPriv.pstaAddr, hta, if_pos hsta]
  have hpsta : s.psta f = some sta := by
    rw [DefragPriv.psta, haddr]
    exact hsome
  have hq : s.waiting ta = sta.defragQ := by
    rw [DefragPriv.waiting, hsome]
    rfl
  rw [recvframeChkDefrag_state, recvframeChkFrag, queueLen]
  by_cases hgrp : isMcast f.attrib.ra = true
  · have hkind : f.fragmentKind = .other := if_pos hgrp
    rw [hkind, if_pos hgrp]
    split <;> exact ⟨hsta, rfl⟩
  by_cases hmf : f.attrib.mfrag = true
  · have hfrag : ¬ (¬ f.attrib.mfrag = true ∧ f.attrib.fragNum = 0) := fun h => h.1 hmf
    have hkind : f.fragmentKind = if f.attrib.fragNum = 0 then .first else .next := by
      rw [RecvFrame.fragmentKind, if_neg hgrp, if_pos hmf]
    rw [hkind, if_neg hfrag, if_neg hgrp, hpsta, haddr]
    simp only [hmf, if_true]
    by_cases hzero : f.attrib.fragNum = 0
    · rw [if_pos hzero, if_pos hzero]
      obtain ⟨hsome', hw⟩ := DefragPriv.getStainfo_setDefragQ hsta ([] ++ [s.stamp f])
      exact ⟨hsome', congrArg List.length hw⟩
    · rw [if_neg hzero, if_neg hzero]
      obtain ⟨hsome', hw⟩ := DefragPriv.getStainfo_setDefragQ hsta (sta.defragQ ++ [s.stamp f])
      refine ⟨hsome', ?_⟩
      rw [hw, hq, List.length_append, List.length_singleton]
  · have hkind : f.fragmentKind = if f.attrib.fragNum = 0 then .other else .last := by
      rw [RecvFrame.fragmentKind, if_neg hgrp, if_neg hmf]
    by_cases hzero : f.attrib.fragNum = 0
    · rw [hkind, if_pos hzero, if_pos ⟨hmf, hzero⟩]
      exact ⟨hsta, rfl⟩
    · rw [hkind, if_neg hzero, if_neg fun h => hzero h.2, if_neg hgrp, hpsta, haddr]
      simp only [hmf, if_false, Bool.false_eq_true]
      obtain ⟨hsome', hw⟩ := DefragPriv.getStainfo_setDefragQ hsta []
      exact ⟨hsome', congrArg List.length hw⟩

/-! ### A run -/

/-- The number of fragments that wait after a run. -/
lemma length_waiting_after (hsta : (s.getStainfo ta).isSome) (hta : ∀ f ∈ fs, f.attrib.ta = ta) :
    ((s.after fs).waiting ta).length = fs.foldl queueLen (s.waiting ta).length := by
  induction fs generalizing s with
  | nil => rfl
  | cons f fs ih =>
      obtain ⟨hf, hfs⟩ := List.forall_mem_cons.1 hta
      obtain ⟨hsta', hlen⟩ := length_waiting_step hsta hf
      rw [List.foldl_cons, ← hlen, ← ih hsta' hfs]
      rfl

/-- In a stretch nothing is lost. -/
lemma queued_le_foldl (h : Stretch seg) : queued seg ≤ seg.foldl queueLen n := by
  -- once there is no fragment with the number zero either, the queue only grows
  have hgrow : ∀ (seg : List RecvFrame) (n : ℕ),
      (∀ f ∈ seg, f.fragmentKind ≠ .last ∧ f.fragmentKind ≠ .first) →
        seg.foldl queueLen n = n + queued seg := by
    intro seg
    induction seg with
    | nil => exact fun n _ => rfl
    | cons f seg ih =>
        intro n hseg
        obtain ⟨⟨hlast, hfirst⟩, hrest⟩ := List.forall_mem_cons.1 hseg
        rw [List.foldl_cons, ih _ hrest, queued, queued, List.countP_cons, queueLen]
        cases hk : f.fragmentKind with
        | first => exact absurd hk hfirst
        | last => exact absurd hk hlast
        | next => simp; omega
        | other => simp
  cases seg with
  | nil => exact Nat.zero_le _
  | cons f seg =>
      have hrest : ∀ g ∈ seg, g.fragmentKind ≠ .last ∧ g.fragmentKind ≠ .first := fun g hg =>
        ⟨h.last g (List.mem_cons_of_mem _ hg), h.first g hg⟩
      have hf := h.last f List.mem_cons_self
      rw [List.foldl_cons, hgrow seg _ hrest, queued, queued, List.countP_cons, queueLen]
      cases hk : f.fragmentKind with
      | last => exact absurd hk hf
      | first => simp [Nat.add_comm]
      | next => simp
      | other => simp

/-- What waits has come in the last stretch. -/
lemma exists_stretch (p : List RecvFrame) :
    ∃ seg, seg <:+ p ∧ Stretch seg ∧ p.foldl queueLen 0 = queued seg := by
  induction p using List.reverseRecOn with
  | nil => exact ⟨[], List.suffix_rfl, ⟨by simp, by simp⟩, rfl⟩
  | append_singleton p f ih =>
      obtain ⟨seg, hsuf, hst, hlen⟩ := ih
      rw [List.foldl_append, List.foldl_cons, List.foldl_nil, hlen, queueLen]
      have hconcat (hlast : f.fragmentKind ≠ .last) (hfirst : f.fragmentKind ≠ .first) :
          Stretch (seg ++ [f]) := by
        constructor
        · intro g hg
          rcases List.mem_append.1 hg with hg | hg
          · exact hst.last g hg
          · rwa [List.mem_singleton.1 hg]
        · intro g hg
          cases seg with
          | nil => exact absurd hg List.not_mem_nil
          | cons g' seg =>
              rcases List.mem_append.1 hg with hg | hg
              · exact hst.first g hg
              · rwa [List.mem_singleton.1 hg]
      have hsuf' : seg ++ [f] <:+ p ++ [f] := by
        obtain ⟨front, rfl⟩ := hsuf
        exact ⟨front, by rw [List.append_assoc]⟩
      cases hk : f.fragmentKind with
      | first =>
          refine ⟨[f], List.suffix_append p [f], ⟨?_, by simp⟩, ?_⟩
          · intro g hg
            rw [List.mem_singleton.1 hg, hk]
            decide
          · simp [queued, hk]
      | last => exact ⟨[], List.nil_suffix, ⟨by simp, by simp⟩, rfl⟩
      | next =>
          refine ⟨_, hsuf', hconcat (by rw [hk]; decide) (by rw [hk]; decide), ?_⟩
          simp [queued, hk]
      | other =>
          refine ⟨_, hsuf', hconcat (by rw [hk]; decide) (by rw [hk]; decide), ?_⟩
          simp [queued, hk]

/-- Over a run of frames from one station the queue is bounded exactly if every stretch is. -/
theorem queueBounded_iff (s : DefragPriv) (ta : MacAddr) (fs : List RecvFrame)
    (hsta : (s.getStainfo ta).isSome) (hempty : s.waiting ta = [])
    (hta : ∀ f ∈ fs, f.attrib.ta = ta) :
    QueueBounded s ta fs ↔ StretchesBounded fs := by
  have hafter (p : List RecvFrame) (hp : p <+: fs) :
      ((s.after p).waiting ta).length = p.foldl queueLen 0 := by
    rw [length_waiting_after hsta fun f hf => hta f (hp.subset hf), hempty]
    rfl
  constructor
  · rintro hq seg ⟨front, back, rfl⟩ hst
    have hp : front ++ seg <+: front ++ seg ++ back := List.prefix_append _ _
    refine (queued_le_foldl (n := front.foldl queueLen 0) hst).trans ?_
    rw [← List.foldl_append, ← hafter _ hp]
    exact hq _ hp
  · intro hseg p hp
    obtain ⟨seg, hsuf, hst, hlen⟩ := exists_stretch p
    rw [hafter p hp, hlen]
    exact hseg seg (hsuf.isInfix.trans hp.isInfix) hst

/-- Sixteen frames are never too many. -/
lemma stretchesBounded_of_length (h : fs.length ≤ fragNumbers) : StretchesBounded fs := by
  intro seg hseg _
  exact List.countP_le_length.trans (hseg.length_le.trans h)

/-- An adapter with one station. -/
def DefragPriv.oneStation : DefragPriv where
  stapriv := fun _ => some .init
  mickeys := { rxmickey := fun _ => [], grprxmickey := fun _ => [], binstallGrpkey := false }
  defKey := fun _ => []
  grpKey := fun _ => []

/-- A fragmented MSDU. -/
theorem queueBounded_iff_msdu :
    QueueBounded .oneStation staAddr [plainFragment 5 0 true [1, 2], plainFragment 5 1 true [3],
      plainFragment 5 2 false [4]] :=
  (queueBounded_iff .oneStation staAddr [plainFragment 5 0 true [1, 2],
    plainFragment 5 1 true [3], plainFragment 5 2 false [4]] rfl rfl (by decide)).2
      (stretchesBounded_of_length (by decide))

/-- A station that sends fragments with other numbers than zero only, of one MSDU after the other,
has as many frames in its queue as there are in `free_recv_queue`. -/
theorem lone_fragments_fill_queue :
    let fs := (List.range 256).map fun seqNum => plainFragment seqNum 1 true [1]
    ((DefragPriv.oneStation.after fs).waiting staAddr).length = 256 ∧
      ¬ QueueBounded .oneStation staAddr fs := by
  intro fs
  have hfold (seqNums : List ℕ) (k : ℕ) :
      (seqNums.map fun seqNum => plainFragment seqNum 1 true [1]).foldl queueLen k =
        k + seqNums.length := by
    induction seqNums generalizing k with
    | nil => rfl
    | cons seqNum seqNums ih =>
        have hone : queueLen k (plainFragment seqNum 1 true [1]) = k + 1 := by
          have hra : isMcast (Vector.replicate 6 0) = false := by decide
          simp [queueLen, RecvFrame.fragmentKind, hra, plainFragment]
        rw [List.map_cons, List.foldl_cons, ih, hone, List.length_cons]
        omega
  have hta : ∀ f ∈ fs, f.attrib.ta = staAddr := by
    intro f hf
    obtain ⟨seqNum, -, rfl⟩ := List.mem_map.1 hf
    rfl
  have hlen : ((DefragPriv.oneStation.after fs).waiting staAddr).length = 256 := by
    rw [length_waiting_after rfl hta, hfold, List.length_range]
    rfl
  refine ⟨hlen, fun h => ?_⟩
  have := h _ List.prefix_rfl
  rw [hlen] at this
  exact absurd this (by decide)

end Rtl8723du
