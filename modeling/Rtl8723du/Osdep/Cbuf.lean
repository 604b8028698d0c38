import Mathlib.Data.UInt
import Mathlib.Logic.Function.Basic
import Rtl8723du.Lib.Simulation

/-!
# The circular buffer of pointers

`rtw_cbuf_push` and `rtw_cbuf_pop` of `os_dep/osdep_service.c`.  The buffer has `size` slots and two
indices; one slot is to stay free, so that the indices are equal only when the buffer is empty.

`rtw_cbuf_full` looks for the write index just below the read index, and there is nothing just
below 0: with the read index at 0 and the write index in the last slot the buffer is full and taken
for not full.
-/

namespace Rtl8723du.Osdep

open Lib.Machine

/-! ### The code -/

/-- `struct rtw_cbuf`. -/
structure RtwCbuf (α : Type) where
  write : UInt32
  read : UInt32
  size : UInt32
  bufs : UInt32 → α

variable {α : Type}

/-- `rtw_cbuf_full`. -/
def rtwCbufFull (cbuf : RtwCbuf α) : Bool := cbuf.write == cbuf.read - 1

/-- `rtw_cbuf_empty`. -/
def rtwCbufEmpty (cbuf : RtwCbuf α) : Bool := cbuf.write == cbuf.read

/-- `rtw_cbuf_push`, with whether it succeeds. -/
def rtwCbufPush (cbuf : RtwCbuf α) (buf : α) : RtwCbuf α × Bool :=
  if rtwCbufFull cbuf then (cbuf, false)
  else
    ({ cbuf with
        bufs := Function.update cbuf.bufs cbuf.write buf
        write := (cbuf.write + 1) % cbuf.size }, true)

/-- `rtw_cbuf_pop`; `null` is the NULL pointer. -/
def rtwCbufPop (null : α) (cbuf : RtwCbuf α) : RtwCbuf α × α :=
  if rtwCbufEmpty cbuf then (cbuf, null)
  else ({ cbuf with read := (cbuf.read + 1) % cbuf.size }, cbuf.bufs cbuf.read)

/-- `rtw_cbuf_alloc`; `bufs` is what the memory holds. -/
def rtwCbufAlloc (size : UInt32) (bufs : UInt32 → α) : RtwCbuf α := ⟨0, 0, size, bufs⟩

/-- A call. -/
inductive CbufCall (α : Type)
  | push (buf : α)
  | pop

/-- What a call returns. -/
inductive CbufRet (α : Type)
  | pushed (success : Bool)
  | popped (buf : α)
deriving DecidableEq

/-- One call. -/
def cbufStep (null : α) (cbuf : RtwCbuf α) : CbufCall α → RtwCbuf α × List (CbufRet α)
  | .push buf => ((rtwCbufPush cbuf buf).1, [.pushed (rtwCbufPush cbuf buf).2])
  | .pop => ((rtwCbufPop null cbuf).1, [.popped (rtwCbufPop null cbuf).2])

/-! ### What it is for -/

/-- A queue of at most `room` pointers. -/
def fifoStep (null : α) (room : ℕ) (q : List α) : CbufCall α → List α × List (CbufRet α)
  | .push buf =>
      if q.length < room then (q ++ [buf], [.pushed true]) else (q, [.pushed false])
  | .pop =>
      match q with
      | [] => ([], [.popped null])
      | buf :: q => (q, [.popped buf])

/-- The buffer holds the pointers of `q`. -/
structure Queued (s : RtwCbuf α) (q : List α) : Prop where
  read_lt : s.read.toNat < s.size.toNat
  write_eq : s.write.toNat = (s.read.toNat + q.length) % s.size.toNat
  length_lt : q.length < s.size.toNat
  bufs_eq : ∀ k (h : k < q.length),
    s.bufs (UInt32.ofNat ((s.read.toNat + k) % s.size.toNat)) = q[k]

/-- The call is not a push with the read index at 0 and the write index in the last slot. -/
def CallOk (s : RtwCbuf α) : CbufCall α → Prop
  | .push _ => ¬ (s.read = 0 ∧ s.write = s.size - 1)
  | .pop => True

instance (s : RtwCbuf α) : ∀ call, Decidable (CallOk s call)
  | .push _ => inferInstanceAs (Decidable (¬ _))
  | .pop => inferInstanceAs (Decidable True)

/-! ### Indices -/

variable {s : RtwCbuf α} {q : List α} {null buf : α}

lemma toNat_size_lt (s : RtwCbuf α) : s.size.toNat < 2 ^ 32 := s.size.toNat_lt

/-- The next index. -/
lemma toNat_next {i : UInt32} (hi : i.toNat < s.size.toNat) :
    ((i + 1) % s.size).toNat = (i.toNat + 1) % s.size.toNat := by
  have hsize := toNat_size_lt s
  have hsum : (i.toNat + 1) % 2 ^ 32 = i.toNat + 1 := Nat.mod_eq_of_lt (by omega)
  rw [UInt32.toNat_mod, UInt32.toNat_add, UInt32.toNat_one, hsum]

namespace Queued

lemma fresh (size : UInt32) (hsize : 0 < size.toNat) (bufs : UInt32 → α) :
    Queued (rtwCbufAlloc size bufs) [] where
  read_lt := hsize
  write_eq := by
    show (0 : ℕ) = (0 + 0) % size.toNat
    rw [Nat.zero_mod]
  length_lt := hsize
  bufs_eq := fun k h => absurd h (Nat.not_lt_zero k)

lemma write_lt (h : Queued s q) : s.write.toNat < s.size.toNat := by
  rw [h.write_eq]
  exact Nat.mod_lt _ (by have := h.read_lt; omega)

/-- The write index, without a division. -/
lemma write_cases (h : Queued s q) :
    s.read.toNat + q.length < s.size.toNat ∧ s.write.toNat = s.read.toNat + q.length ∨
      s.size.toNat ≤ s.read.toNat + q.length ∧
        s.write.toNat + s.size.toNat = s.read.toNat + q.length := by
  have hread := h.read_lt
  have hlen := h.length_lt
  rcases Nat.lt_or_ge (s.read.toNat + q.length) s.size.toNat with hlt | hge
  · refine .inl ⟨hlt, ?_⟩
    rw [h.write_eq, Nat.mod_eq_of_lt hlt]
  · refine .inr ⟨hge, ?_⟩
    rw [h.write_eq, Nat.mod_eq_sub_mod hge, Nat.mod_eq_of_lt (by omega)]
    omega

lemma empty_iff (h : Queued s q) : rtwCbufEmpty s = true ↔ q = [] := by
  have hread := h.read_lt
  have hlen := h.length_lt
  rw [rtwCbufEmpty, beq_iff_eq, ← UInt32.toNat_inj, ← List.length_eq_zero_iff]
  rcases h.write_cases with ⟨hin, hw⟩ | ⟨-, hw⟩ <;> omega

/-- All but one slot are taken, and this is seen unless the read index is 0. -/
lemma full_iff (h : Queued s q) :
    rtwCbufFull s = true ↔ q.length + 1 = s.size.toNat ∧ s.read ≠ 0 := by
  have hread := h.read_lt
  have hlen := h.length_lt
  have hsize := toNat_size_lt s
  have hzero : s.read ≠ 0 ↔ s.read.toNat ≠ 0 := by
    rw [Ne, ← UInt32.toNat_inj]
    rfl
  have hbelow : (s.read - 1).toNat =
      if s.read.toNat = 0 then 2 ^ 32 - 1 else s.read.toNat - 1 := by
    rw [UInt32.toNat_sub, UInt32.toNat_one]
    split <;> omega
  rw [rtwCbufFull, beq_iff_eq, ← UInt32.toNat_inj, hbelow, hzero]
  by_cases hread0 : s.read.toNat = 0
  · rw [if_pos hread0]
    rcases h.write_cases with ⟨hin, hw⟩ | ⟨-, hw⟩ <;> omega
  · rw [if_neg hread0]
    rcases h.write_cases with ⟨hin, hw⟩ | ⟨-, hw⟩ <;> omega

/-- The slot that is missed. -/
lemma not_callOk_push_iff (h : Queued s q) (buf : α) :
    ¬ CallOk s (.push buf) ↔ q.length + 1 = s.size.toNat ∧ s.read = 0 := by
  have hread := h.read_lt
  have hlen := h.length_lt
  have hsize := toNat_size_lt s
  have hlast : (s.size - 1).toNat = s.size.toNat - 1 := by
    rw [UInt32.toNat_sub, UInt32.toNat_one]
    omega
  have hzero : s.read = 0 ↔ s.read.toNat = 0 := by
    rw [← UInt32.toNat_inj]
    rfl
  rw [CallOk, not_not, ← UInt32.toNat_inj (a := s.write), hlast, hzero]
  rcases h.write_cases with ⟨hin, hw⟩ | ⟨-, hw⟩ <;> omega

/-- A pointer more. -/
lemma push (h : Queued s q) (hroom : q.length + 1 < s.size.toNat) (buf : α) :
    Queued { s with
      bufs := Function.update s.bufs s.write buf
      write := (s.write + 1) % s.size } (q ++ [buf]) where
  read_lt := h.read_lt
  write_eq := by
    show ((s.write + 1) % s.size).toNat = _
    rw [toNat_next h.write_lt, h.write_eq, Nat.mod_add_mod, List.length_append, Nat.add_assoc]
    rfl
  length_lt := by
    rw [List.length_append, List.length_singleton]
    exact hroom
  bufs_eq := by
    intro k hk
    rw [List.length_append, List.length_singleton] at hk
    have hread := h.read_lt
    have hsize := toNat_size_lt s
    have hindex : (UInt32.ofNat ((s.read.toNat + k) % s.size.toNat)).toNat =
        (s.read.toNat + k) % s.size.toNat := by
      rw [UInt32.toNat_ofNat']
      exact Nat.mod_eq_of_lt (lt_trans (Nat.mod_lt _ (by omega)) hsize)
    show Function.update s.bufs s.write buf _ = _
    rcases Nat.lt_succ_iff_lt_or_eq.1 hk with hlt | rfl
    · have hne : UInt32.ofNat ((s.read.toNat + k) % s.size.toNat) ≠ s.write := by
        rw [Ne, ← UInt32.toNat_inj, hindex]
        have hmod := Nat.div_add_mod (s.read.toNat + k) s.size.toNat
        have hmodlt := Nat.mod_lt (s.read.toNat + k) (show 0 < s.size.toNat by omega)
        rcases Nat.lt_or_ge (s.read.toNat + k) s.size.toNat with hin | hout
        · rw [Nat.mod_eq_of_lt hin]
          rcases h.write_cases with ⟨hin, hw⟩ | ⟨-, hw⟩ <;> omega
        · rw [Nat.mod_eq_sub_mod hout, Nat.mod_eq_of_lt (by omega)]
          rcases h.write_cases with ⟨hin, hw⟩ | ⟨-, hw⟩ <;> omega
      rw [Function.update_of_ne hne, h.bufs_eq k hlt, List.getElem_append_left hlt]
    · have heq : UInt32.ofNat ((s.read.toNat + q.length) % s.size.toNat) = s.write := by
        rw [← UInt32.toNat_inj, hindex, h.write_eq]
      rw [heq, Function.update_self, List.getElem_append_right le_rfl]
      simp

/-- The first pointer. -/
lemma head (h : Queued s (buf :: q)) : s.bufs s.read = buf := by
  have h0 := h.bufs_eq 0 (Nat.succ_pos _)
  rw [Nat.add_zero, Nat.mod_eq_of_lt h.read_lt, UInt32.ofNat_toNat] at h0
  exact h0

/-- A pointer less. -/
lemma pop (h : Queued s (buf :: q)) : Queued { s with read := (s.read + 1) % s.size } q where
  read_lt := by
    show ((s.read + 1) % s.size).toNat < _
    rw [toNat_next h.read_lt]
    exact Nat.mod_lt _ (by have := h.read_lt; omega)
  write_eq := by
    show s.write.toNat = (((s.read + 1) % s.size).toNat + q.length) % s.size.toNat
    rw [toNat_next h.read_lt, Nat.mod_add_mod, h.write_eq, List.length_cons]
    congr 1
    omega
  length_lt := Nat.lt_of_succ_lt h.length_lt
  bufs_eq := by
    intro k hk
    show s.bufs (UInt32.ofNat ((((s.read + 1) % s.size).toNat + k) % s.size.toNat)) = _
    rw [toNat_next h.read_lt, Nat.mod_add_mod,
      show s.read.toNat + 1 + k = s.read.toNat + (k + 1) by omega]
    exact h.bufs_eq (k + 1) (Nat.succ_lt_succ hk)

/-- A call that is right returns what the queue returns, and leaves what the queue holds. -/
lemma step {call : CbufCall α} (h : Queued s q) (hok : CallOk s call) :
    (cbufStep null s call).2 = (fifoStep null (s.size.toNat - 1) q call).2 ∧
      Queued (cbufStep null s call).1 (fifoStep null (s.size.toNat - 1) q call).1 := by
  cases call with
  | push buf =>
      have hlen := h.length_lt
      rw [cbufStep, rtwCbufPush, fifoStep]
      by_cases hfull : q.length + 1 = s.size.toNat
      · have hread : s.read ≠ 0 := fun hzero => (h.not_callOk_push_iff buf).2 ⟨hfull, hzero⟩ hok
        rw [if_pos (h.full_iff.2 ⟨hfull, hread⟩), if_neg (by omega)]
        exact ⟨rfl, h⟩
      · have hnot : ¬ rtwCbufFull s = true := fun hf => hfull (h.full_iff.1 hf).1
        rw [if_neg hnot, if_pos (by omega)]
        exact ⟨rfl, h.push (by omega) buf⟩
  | pop =>
      rw [cbufStep, rtwCbufPop]
      cases q with
      | nil =>
          rw [if_pos (h.empty_iff.2 rfl)]
          exact ⟨rfl, h⟩
      | cons buf q =>
          have hnot : ¬ rtwCbufEmpty s = true := fun he => nomatch h.empty_iff.1 he
          rw [if_neg hnot, fifoStep]
          exact ⟨congrArg (fun b => [CbufRet.popped b]) h.head, h.pop⟩

/-- A push that is not right is not refused. -/
lemma step_of_not_ok {call : CbufCall α} (h : Queued s q) (hbad : ¬ CallOk s call) :
    (cbufStep null s call).2 ≠ (fifoStep null (s.size.toNat - 1) q call).2 := by
  cases call with
  | push buf =>
      obtain ⟨hfull, hread⟩ := (h.not_callOk_push_iff buf).1 hbad
      have hnot : ¬ rtwCbufFull s = true := fun hf => (h.full_iff.1 hf).2 hread
      rw [cbufStep, rtwCbufPush, fifoStep, if_neg hnot, if_neg (by omega)]
      exact fun heq => nomatch heq
  | pop => exact absurd trivial hbad

end Queued

lemma size_cbufStep (s : RtwCbuf α) (call : CbufCall α) :
    (cbufStep null s call).1.size = s.size := by
  cases call with
  | push buf =>
      rw [cbufStep, rtwCbufPush]
      split <;> rfl
  | pop =>
      rw [cbufStep, rtwCbufPop]
      split <;> rfl

lemma length_fifoStep (room : ℕ) (q : List α) (call : CbufCall α) :
    (fifoStep null room q call).2.length = 1 := by
  cases call with
  | push buf =>
      rw [fifoStep]
      split <;> rfl
  | pop => cases q <;> rfl

/-! ### Runs -/

variable [DecidableEq α]

/-- The pointers that were taken in. -/
def accepted : List (CbufCall α) → List (CbufRet α) → List α
  | .push buf :: calls, .pushed true :: rets => buf :: accepted calls rets
  | _ :: calls, _ :: rets => accepted calls rets
  | _, _ => []

omit [DecidableEq α] in
/-- In a run from a fresh buffer all calls return what those of a queue of `size - 1` pointers
return, exactly if no push is made with the read index at 0 and the write index in the last
slot. -/
theorem cbuf_fifo_iff (null : α) (size : UInt32) (hsize : 2 ≤ size) (bufs : UInt32 → α)
    (calls : List (CbufCall α)) :
    outputs (cbufStep null) (rtwCbufAlloc size bufs) calls =
        outputs (fifoStep null (size.toNat - 1)) [] calls ↔
      Along (cbufStep null) CallOk (rtwCbufAlloc size bufs) calls := by
  have hpos : 0 < size.toNat := by
    have h : (2 : UInt32).toNat ≤ size.toNat := UInt32.le_iff_toNat_le.1 hsize
    exact lt_of_lt_of_le (by decide) h
  refine outputs_eq_iff_along (R := fun s q => s.size = size ∧ Queued s q) ?_ ?_ ?_
    ⟨rfl, Queued.fresh size hpos bufs⟩
  · intro s q call _
    rw [length_fifoStep]
    cases call <;> rfl
  · rintro s q call ⟨rfl, h⟩ hok
    exact ⟨(h.step hok).1, size_cbufStep s call, (h.step hok).2⟩
  · rintro s q call ⟨rfl, h⟩ hbad
    exact h.step_of_not_ok hbad

/-- Two slots, with the read index at 1 when the buffer is full. -/
theorem cbuf_fifo_two :
    outputs (cbufStep 0) (rtwCbufAlloc 2 fun _ => 0) [.push 1, .pop, .push 2, .push 3, .pop, .pop] =
      outputs (fifoStep 0 1) [] [.push 1, .pop, .push 2, .push 3, .pop, .pop] :=
  (cbuf_fifo_iff 0 2 (by decide) (fun _ => 0)
    [.push 1, .pop, .push 2, .push 3, .pop, .pop]).2 (by decide)

/-- Two slots: the second pointer is taken in as well, and then nothing is there. -/
theorem cbuf_overrun :
    ¬ outputs (cbufStep 0) (rtwCbufAlloc 2 fun _ => 0) [.push 1, .push 2, .pop] =
      outputs (fifoStep 0 1) [] [.push 1, .push 2, .pop] := by
  decide

end Rtl8723du.Osdep
