import Rtl8723du.Lib.Resequencer
import Rtl8723du.Lib.Serial
import Rtl8723du.Recv.Reorder

/-!
# The reorder control refines a resequencer

The 12-bit sequence numbers of a TID are the residues modulo 4096 of unbounded
numbers.  `Refines w c b` says that the control `c` is the resequencer `b` seen
through these residues.  As long as all numbers are within half a turn of each
other, `SN_LESS` compares the unbounded numbers, so each function of the source
does what the operation of the resequencer does:

* `enqueue_refines`: `enqueue_reorder_recvframe` is `insert`;
* `indicateLoop_refines`: the loop of `recv_indicatepkts_in_order` is `release`;
* `checkIndicateSeq_refines`: `check_indicate_seq` is `shift`;
* `Refines.mpdu` and `Refines.timeout`: an event is `accept` or `expire`.
-/

namespace Rtl8723du

open Lib Lib.Serial

/-! ### Comparing sequence numbers -/

/-- `SN_LESS` looks at the upper bit of the forward distance. -/
lemma snLess_iff_ahead (a b : ℕ) : snLess a b = true ↔ 2048 ≤ ahead 4096 b a := by
  rw [snLess, bne_iff_ne]
  exact sub_and_twoPow_ne_zero_iff (k := 11) (by decide) a b

/-- `SN_LESS` compares unbounded numbers that are at most half a turn apart. -/
lemma snLess_mod_iff {a b : ℕ} (hab : a < b + 2048) (hba : b ≤ a + 2048) :
    snLess (a % 4096) (b % 4096) = true ↔ a < b := by
  rw [snLess_iff_ahead, ahead_mod_left, ahead_mod_right]
  exact half_le_ahead_iff_lt hab hba

lemma snEqual_mod_iff {a b : ℕ} (hab : a < b + 4096) (hba : b < a + 4096) :
    snEqual (a % 4096) (b % 4096) = true ↔ a = b := by
  rw [snEqual, beq_iff_eq]
  omega

/-! ### The functions on numbered frames -/

/-- Each frame carries the residue of its number. -/
def Numbered (xs : List (ℕ × RecvFrame)) : Prop :=
  ∀ x ∈ xs, x.2.attrib.seqNum = x.1 % 4096

lemma Numbered.of_cons {x : ℕ × RecvFrame} {xs : List (ℕ × RecvFrame)} (h : Numbered (x :: xs)) :
    x.2.attrib.seqNum = x.1 % 4096 ∧ Numbered xs :=
  List.forall_mem_cons.1 h

lemma Numbered.append {xs ys : List (ℕ × RecvFrame)} (hxs : Numbered xs) (hys : Numbered ys) :
    Numbered (xs ++ ys) :=
  List.forall_mem_append.2 ⟨hxs, hys⟩

/-- `enqueue_reorder_recvframe` inserts by number. -/
lemma enqueue_refines {x : ℕ × RecvFrame} (hx : x.2.attrib.seqNum = x.1 % 4096)
    {xs : List (ℕ × RecvFrame)} (hn : Numbered xs)
    (hxs : ∀ y ∈ xs, y.1 < x.1 + 2048 ∧ x.1 ≤ y.1 + 2048) :
    enqueueReorderRecvframe x.2 (xs.map Prod.snd) =
      (Resequencer.insert x xs).map (List.map Prod.snd) := by
  induction xs with
  | nil => rfl
  | cons y ys ih =>
      obtain ⟨hy, hn⟩ := hn.of_cons
      have hyx := hxs y (List.mem_cons_self ..)
      have hless := snLess_mod_iff hyx.1 hyx.2
      have hequal := snEqual_mod_iff (a := y.1) (b := x.1) (by omega) (by omega)
      have ih := ih hn fun z hz => hxs z (List.mem_cons_of_mem _ hz)
      simp only [List.map_cons, enqueueReorderRecvframe, Resequencer.insert, hx, hy, hless, hequal,
        ih, Option.map_map]
      split
      · cases Resequencer.insert x ys <;> rfl
      · split <;> rfl

/-- The loop of `recv_indicatepkts_in_order` releases by number. -/
lemma indicateLoop_refines {s : ℕ} {xs : List (ℕ × RecvFrame)} (hn : Numbered xs)
    (hs : Resequencer.Sorted xs) (hxs : ∀ x ∈ xs, s < x.1 + 2048 ∧ x.1 ≤ s + 2048) :
    indicateLoop (s % 4096) (xs.map Prod.snd) =
      ((Resequencer.release s xs).1 % 4096, (Resequencer.release s xs).2.1.map Prod.snd,
        (Resequencer.release s xs).2.2.map Prod.snd) := by
  induction xs generalizing s with
  | nil => rfl
  | cons x xs ih =>
      obtain ⟨hx, hn⟩ := hn.of_cons
      obtain ⟨hlt, hs⟩ := List.pairwise_cons.1 hs
      have hsx := hxs x (List.mem_cons_self ..)
      have hless := snLess_mod_iff hsx.1 hsx.2
      have hequal := snEqual_mod_iff (a := s) (b := x.1) (by omega) (by omega)
      simp only [List.map_cons, indicateLoop, Resequencer.release, hx, hless]
      by_cases hle : x.1 ≤ s
      · -- the start moves on only over `x`, so what follows stays within half a turn
        have hnext : (if snEqual (s % 4096) (x.1 % 4096) = true then (s % 4096 + 1) % 4096
            else s % 4096) = (if x.1 = s then s + 1 else s) % 4096 := by
          simp only [hequal, eq_comm (a := s)]
          split <;> omega
        have ih := ih (s := if x.1 = s then s + 1 else s) hn hs fun y hy => by
          have := hlt y hy
          have := hxs y (List.mem_cons_of_mem _ hy)
          split <;> omega
        rw [if_neg (by omega), if_pos hle, hnext, ih]
        rfl
      · rw [if_pos (by omega), if_neg hle]
        rfl

/-- `check_indicate_seq` drops what is half a turn or more ahead of the start, and
else moves the start as `shift` does. -/
lemma checkIndicateSeq_refines {c : RecvReorderCtrl} {s seqNum : ℕ}
    (hind : c.indicateSeq = s % 4096) (hw : 1 ≤ c.wsizeB) (hw' : c.wsizeB ≤ 2048)
    (hseq : seqNum < 4096) :
    checkIndicateSeq c seqNum =
      if 2048 ≤ ahead 4096 s seqNum then (false, c)
      else (true, { c with
        indicateSeq := Resequencer.shift c.wsizeB s (s + ahead 4096 s seqNum) % 4096 }) := by
  have hne : c.indicateSeq ≠ 0xFFFF := by omega
  have hless : snLess seqNum c.indicateSeq = true ↔ 2048 ≤ ahead 4096 s seqNum := by
    rw [snLess_iff_ahead, hind, ahead_mod_left]
  simp only [checkIndicateSeq, hne, if_false, hless]
  by_cases hold : 2048 ≤ ahead 4096 s seqNum
  · simp only [hold, if_true]
  simp only [hold, if_false]
  -- from here on `n` is the number of the frame
  have hnum := add_ahead_mod (m := 4096) (by decide) s seqNum
  rw [Nat.mod_eq_of_lt hseq] at hnum
  generalize hn : s + ahead 4096 s seqNum = n at hnum
  have hsn : s ≤ n := by omega
  have hns : n < s + 2048 := by omega
  have hequal := snEqual_mod_iff (a := n) (b := s) (by omega) (by omega)
  have hwend : (((c.indicateSeq : ℤ) + c.wsizeB - 1) % 4096).toNat = (s + c.wsizeB - 1) % 4096 := by
    omega
  have hend := snLess_mod_iff (a := s + c.wsizeB - 1) (b := n) (by omega) (by omega)
  rw [hwend, hind, ← hnum]
  simp only [hequal, hend, Resequencer.shift]
  by_cases heq : n = s
  · simp only [heq, if_true]
    congr 2
    omega
  · by_cases hover : s + c.wsizeB ≤ n
    · rw [if_neg heq, if_pos (by omega), if_neg heq, if_pos hover]
      split <;> congr 2 <;> omega
    · rw [if_neg heq, if_neg (by omega), if_neg heq, if_neg hover, ← hind]

/-! ### The events -/

/-- The control `c`, with a window of size `w`, is the resequencer `b` seen
through the residues modulo 4096. -/
structure Refines (w : ℕ) (c : RecvReorderCtrl) (b : Resequencer RecvFrame) : Prop where
  enable : c.enable = true
  ackOrTimeout : c.ackOrTimeout = false
  wsizeB : c.wsizeB = w
  indicateSeq : c.indicateSeq = b.start % 4096
  pending : c.pendingRecvframeQueue = b.pending.map Prod.snd
  numbered : Numbered b.pending

variable {w s : ℕ} {c : RecvReorderCtrl} {b : Resequencer RecvFrame} {ds : List ℕ}

/-- `recv_indicatepkts_in_order` on a queue that lies within half a turn. -/
lemma indicate_refines (xs : List (ℕ × RecvFrame)) (hind : c.indicateSeq = s % 4096)
    (hpend : c.pendingRecvframeQueue = xs.map Prod.snd) (hn : Numbered xs)
    (hs : Resequencer.Sorted xs) (hxs : ∀ x ∈ xs, s < x.1 + 2048 ∧ x.1 ≤ s + 2048) :
    c.indicate =
      (!(Resequencer.release s xs).2.1.isEmpty,
        { c with
          indicateSeq := (Resequencer.release s xs).1 % 4096
          pendingRecvframeQueue := (Resequencer.release s xs).2.1.map Prod.snd },
        (Resequencer.release s xs).2.2.map Prod.snd) := by
  simp only [RecvReorderCtrl.indicate, hind, hpend, indicateLoop_refines hn hs hxs,
    List.isEmpty_map]

/-- What an event does to a control that refines `b`: it hands up the numbered
frames `out`, all between the old and the new start, and refines `b'`. -/
structure StepRefines (w : ℕ) (b : Resequencer RecvFrame) (ds : List ℕ)
    (r : RecvReorderCtrl × List RecvFrame) (b' : Resequencer RecvFrame)
    (out : List (ℕ × RecvFrame)) : Prop where
  refines : Refines w r.1 b'
  handedUp : r.2 = out.map Prod.snd
  numbered : Numbered out
  inv : b'.Inv w 2048 (ds ++ out.map Prod.fst)
  start_le : b.start ≤ b'.start
  le_start : b'.start ≤ b.start + 2048
  between : ∀ y ∈ out, b.start ≤ y.1 ∧ y.1 < b'.start

/-- An event that hands up nothing and moves nothing. -/
lemma StepRefines.idle (hr : Refines w c b) (hb : b.Inv w 2048 ds) :
    StepRefines w b ds (c, []) b [] where
  refines := hr
  handedUp := rfl
  numbered := by simp [Numbered]
  inv := by simpa using hb
  start_le := le_rfl
  le_start := Nat.le_add_right _ _
  between := by simp

lemma Numbered.release {xs : List (ℕ × RecvFrame)} (hn : Numbered xs) (s : ℕ) :
    Numbered (Resequencer.release s xs).2.2 ∧ Numbered (Resequencer.release s xs).2.1 := by
  rw [← Resequencer.release_append s xs] at hn
  exact List.forall_mem_append.1 hn

/-- A data MPDU is dropped, or its number `n` lies in the half turn from the window start on.
Then, if all that waits is near, it is found to be a duplicate or accepted into the
resequencer. -/
lemma Refines.mpdu_cases (hr : Refines w c b) (hs : Resequencer.Sorted b.pending) (hw : 1 ≤ w)
    (hw' : w ≤ 2048) {f : RecvFrame} (hqos : f.attrib.qos = true)
    (hseq : f.attrib.seqNum < 4096) :
    (2048 ≤ ahead 4096 b.start f.attrib.seqNum ∧
      Refines w (recvIndicatepktReorder c f).2.1 b ∧ (recvIndicatepktReorder c f).2.2 = []) ∨
    ∃ n, b.start ≤ n ∧ n < b.start + 2048 ∧ f.attrib.seqNum = n % 4096 ∧
      ((∀ y ∈ b.pending, (y.1 < n + 2048 ∧ n ≤ y.1 + 2048) ∧
          Resequencer.shift w b.start n < y.1 + 2048 ∧
          y.1 ≤ Resequencer.shift w b.start n + 2048) →
        (Resequencer.insert (n, f) b.pending = none ∧
          Refines w (recvIndicatepktReorder c f).2.1
            (b.moveTo (Resequencer.shift w b.start n)) ∧
          (recvIndicatepktReorder c f).2.2 = []) ∨
        ∃ b' out, Resequencer.accept w b (n, f) = some (b', out) ∧
          Refines w (recvIndicatepktReorder c f).2.1 b' ∧
          (recvIndicatepktReorder c f).2.2 = out.map Prod.snd ∧ Numbered out) := by
  obtain ⟨enable, indicateSeq, wsizeB, pending, waiting, ack, timer⟩ := c
  obtain ⟨rfl, rfl, rfl, rfl, rfl, hn⟩ := hr
  have hchk := checkIndicateSeq_refines
    (c := ⟨true, b.start % 4096, wsizeB, b.pending.map Prod.snd, waiting, false, timer⟩)
    rfl hw hw' hseq
  simp only [recvIndicatepktReorder, hqos, hchk, Bool.not_true, Bool.or_self,
    Bool.false_eq_true, if_false]
  by_cases hold : 2048 ≤ ahead 4096 b.start f.attrib.seqNum
  · simp only [hold, if_true, Bool.not_false]
    exact .inl ⟨trivial, ⟨rfl, rfl, rfl, rfl, rfl, hn⟩, trivial⟩
  have hnum := add_ahead_mod (m := 4096) (by decide) b.start f.attrib.seqNum
  rw [Nat.mod_eq_of_lt hseq] at hnum
  refine .inr ⟨b.start + ahead 4096 b.start f.attrib.seqNum, by omega, by omega, hnum.symm, ?_⟩
  intro hnear
  simp only [hold, if_false, Bool.not_true, Bool.false_eq_true]
  have hlo : b.start ≤ b.start + ahead 4096 b.start f.attrib.seqNum := Nat.le_add_right _ _
  generalize b.start + ahead 4096 b.start f.attrib.seqNum = n at hnum hnear hlo
  rw [enqueue_refines (x := (n, f)) hnum.symm hn fun y hy => (hnear y hy).1]
  cases hins : Resequencer.insert (n, f) b.pending with
  | none => exact .inl ⟨rfl, ⟨rfl, rfl, rfl, rfl, rfl, hn⟩, rfl⟩
  | some xs =>
      have hmem : ∀ y ∈ xs, y = (n, f) ∨ y ∈ b.pending := fun y hy =>
        (Resequencer.mem_insert hins).1 hy
      have hnxs : Numbered xs := by
        intro y hy
        rcases hmem y hy with rfl | hy
        · exact hnum.symm
        · exact hn y hy
      have hacc : Resequencer.accept wsizeB b (n, f) =
          some (⟨(Resequencer.release (Resequencer.shift wsizeB b.start n) xs).1,
            (Resequencer.release (Resequencer.shift wsizeB b.start n) xs).2.1⟩,
            (Resequencer.release (Resequencer.shift wsizeB b.start n) xs).2.2) := by
        simp only [Resequencer.accept, hins, Option.map_some]
      have hshift := Resequencer.shift_bounds wsizeB b.start n hw hlo
      have hxs : ∀ y ∈ xs, Resequencer.shift wsizeB b.start n < y.1 + 2048 ∧
          y.1 ≤ Resequencer.shift wsizeB b.start n + 2048 := by
        intro y hy
        rcases hmem y hy with rfl | hy
        · simp only
          have hw' : wsizeB ≤ 2048 := hw'
          omega
        · exact (hnear y hy).2
      have hind := indicate_refines xs
        (c := ⟨true, Resequencer.shift wsizeB b.start n % 4096, wsizeB, xs.map Prod.snd, waiting,
          false, timer⟩) rfl rfl hnxs (hs.insert hins) hxs
      simp only [Option.map_some, recvIndicatepktsInOrder, Bool.false_eq_true, if_false, hind]
      refine .inr ⟨_, _, hacc, ?_, ?_, (hnxs.release _).1⟩
      · split
        · split <;> exact ⟨rfl, rfl, rfl, rfl, rfl, (hnxs.release _).2⟩
        · exact ⟨rfl, rfl, rfl, rfl, rfl, (hnxs.release _).2⟩
      · split
        · split <;> rfl
        · rfl

/-- A data MPDU that is not dropped is accepted into the resequencer. -/
lemma Refines.mpdu (hr : Refines w c b) (hb : b.Inv w 2048 ds) (hw : 1 ≤ w) (hw' : w ≤ 2048)
    {f : RecvFrame} (hqos : f.attrib.qos = true) (hseq : f.attrib.seqNum < 4096) :
    ∃ b' out, StepRefines w b ds (recvIndicatepktReorder c f).2 b' out := by
  have idle : ∀ {r : RecvReorderCtrl × List RecvFrame}, Refines w r.1 b → r.2 = [] →
      StepRefines w b ds r b [] := by
    rintro ⟨c', out⟩ hr' rfl
    exact .idle hr' hb
  rcases hr.mpdu_cases hb.sorted hw hw' hqos hseq with
    ⟨-, hr', hout⟩ | ⟨n, hlo, hhi, -, hcases⟩
  · exact ⟨b, [], idle hr' hout⟩
  have hshift := Resequencer.shift_bounds w b.start n hw hlo
  have hnear := hcases fun y hy => by
    have := hb.window y hy
    omega
  rcases hnear with ⟨hins, hr', hout⟩ | ⟨b', out, hacc, hr', hout, hn⟩
  · -- a duplicate: the window start is where it was
    rw [hb.shift_eq_of_mem (Resequencer.exists_of_insert_eq_none hins)] at hr'
    exact ⟨b, [], idle hr' hout⟩
  · have hgo := hb.accept_window (x := (n, f)) hw hlo hhi hw' hacc
    exact ⟨b', out, hr', hout, hn, hb.accept (x := (n, f)) hw hw' hlo hhi hacc, hgo.1, hgo.2.1,
      hgo.2.2⟩

/-- The expiry of the timer gives up the first gap, if what waits lies within half a turn
of the first frame. -/
lemma Refines.timeout_refines (hr : Refines w c b) (hs : Resequencer.Sorted b.pending)
    (hnear : ∀ x ∈ b.pending, ∀ y ∈ b.pending, y.1 ≤ x.1 + 2048) :
    Refines w (rtwReorderingCtrlTimeoutHandler c false).1 (Resequencer.expire b).1 ∧
      (rtwReorderingCtrlTimeoutHandler c false).2 =
        (Resequencer.expire b).2.map Prod.snd ∧ Numbered (Resequencer.expire b).2 := by
  obtain ⟨enable, indicateSeq, wsizeB, pending, waiting, ack, timer⟩ := c
  obtain ⟨rfl, rfl, rfl, rfl, rfl, hn⟩ := hr
  simp only [rtwReorderingCtrlTimeoutHandler, Bool.false_eq_true, if_false,
    recvIndicatepktsInOrder, if_true]
  cases hp : b.pending with
  | nil =>
      simp only [List.map_nil, if_true, Resequencer.expire, hp]
      exact ⟨⟨rfl, rfl, rfl, rfl, by rw [hp]; rfl, hn⟩, trivial, by simp [Numbered]⟩
  | cons x xs =>
      rw [hp] at hn hs hnear
      have hfirst : ∀ y ∈ x :: xs, x.1 ≤ y.1 := by
        intro y hy
        rcases List.mem_cons.1 hy with rfl | hy
        · exact le_rfl
        · exact ((List.pairwise_cons.1 hs).1 y hy).le
      have hind := indicate_refines (s := x.1) (x :: xs)
        (c := ⟨true, x.2.attrib.seqNum, wsizeB, (x :: xs).map Prod.snd, false, false, false⟩)
        (hn x (List.mem_cons_self ..)) rfl hn hs fun y hy => by
          have hxy := hfirst y hy
          have hyx := hnear x List.mem_cons_self y hy
          omega
      simp only [List.map_cons] at hind ⊢
      simp only [Resequencer.expire, hp]
      rw [hind]
      refine ⟨?_, ?_, (hn.release _).1⟩
      · split <;> exact ⟨rfl, rfl, rfl, rfl, rfl, (hn.release _).2⟩
      · split <;> rfl

/-- A timer that expires when the driver is stopped does nothing. -/
lemma Refines.timeout_cannotRun (hr : Refines w c b) :
    Refines w (rtwReorderingCtrlTimeoutHandler c true).1 b ∧
      (rtwReorderingCtrlTimeoutHandler c true).2 = [] :=
  ⟨⟨hr.enable, hr.ackOrTimeout, hr.wsizeB, hr.indicateSeq, hr.pending, hr.numbered⟩, rfl⟩

/-- The expiry of the timer gives up the first gap. -/
lemma Refines.timeout (hr : Refines w c b) (hb : b.Inv w 2048 ds) (hw' : w ≤ 2048)
    (cannotRun : Bool) :
    ∃ b' out, StepRefines w b ds (rtwReorderingCtrlTimeoutHandler c cannotRun) b' out := by
  cases cannotRun with
  | true => exact ⟨b, [], .idle hr.timeout_cannotRun.1 hb⟩
  | false =>
      have hexp := hr.timeout_refines hb.sorted fun x hx y hy => by
        have := hb.window x hx
        have := hb.window y hy
        omega
      have hgo := hb.expire_window
      exact ⟨_, _, hexp.1, hexp.2.1, hexp.2.2, hb.expire hw', hgo.1, hgo.2.1.trans (by omega),
        hgo.2.2⟩

end Rtl8723du
