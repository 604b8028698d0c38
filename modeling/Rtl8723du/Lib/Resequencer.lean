import Mathlib.Data.List.Basic
import Mathlib.Data.List.Chain

/-!
# A sliding-window resequencer

Items numbered by unbounded counters arrive out of order and are handed on in
increasing order.  The resequencer keeps the number `start` its window begins at
and the items that wait, sorted by number.  An item ahead of the window pushes
the window forward; a gap that is not closed in time is skipped by `expire`.

`Inv` ties a resequencer to the list of the numbers it has handed on.  It is
kept by `accept` (`Inv.accept`), by `expire` (`Inv.expire`) and where the numbering
starts over behind all that waits (`Inv.restart`), and it says in particular that
the numbers handed on increase, each by at most `gap`.
-/

namespace Lib

/-- The number the window starts at and the waiting items with their numbers. -/
structure Resequencer (α : Type*) where
  /-- The lowest number that is not yet given up. -/
  start : ℕ
  /-- The items that wait, in increasing order of their numbers. -/
  pending : List (ℕ × α)

namespace Resequencer

variable {α : Type*} {w gap : ℕ}

/-! ### Operations -/

/-- The window start after number `n` has been seen. -/
def shift (w start n : ℕ) : ℕ :=
  if n = start then start + 1 else if start + w ≤ n then n + 1 - w else start

/-- Insertion into the waiting items; `none` when the number is there already. -/
def insert (x : ℕ × α) : List (ℕ × α) → Option (List (ℕ × α))
  | [] => some [x]
  | y :: ys =>
      if y.1 < x.1 then (insert x ys).map (y :: ·)
      else if y.1 = x.1 then none
      else some (x :: y :: ys)

/-- Hand on the items at or below the window start, which moves over each item
it meets.  The result is the new start, what stays and what is handed on. -/
def release : ℕ → List (ℕ × α) → ℕ × List (ℕ × α) × List (ℕ × α)
  | s, [] => (s, [], [])
  | s, x :: xs =>
      if x.1 ≤ s then
        let r := release (if x.1 = s then s + 1 else s) xs
        (r.1, r.2.1, x :: r.2.2)
      else (s, x :: xs, [])

/-- Take the item `x` into a window of size `w`; `none` when it is a duplicate
of a waiting item. -/
def accept (w : ℕ) (b : Resequencer α) (x : ℕ × α) : Option (Resequencer α × List (ℕ × α)) :=
  (insert x b.pending).map fun xs =>
    let r := release (shift w b.start x.1) xs
    (⟨r.1, r.2.1⟩, r.2.2)

/-- Give up the gap before the first waiting item. -/
def expire (b : Resequencer α) : Resequencer α × List (ℕ × α) :=
  match b.pending with
  | [] => (b, [])
  | x :: xs =>
      let r := release x.1 (x :: xs)
      (⟨r.1, r.2.1⟩, r.2.2)

/-- Begin the window at `s`, whatever waits. -/
def moveTo (b : Resequencer α) (s : ℕ) : Resequencer α := ⟨s, b.pending⟩

/-! ### Insertion -/

/-- The items are sorted by their numbers, strictly. -/
def Sorted (xs : List (ℕ × α)) : Prop := xs.Pairwise fun x y => x.1 < y.1

lemma mem_insert {x y : ℕ × α} {xs ys : List (ℕ × α)} (h : insert x xs = some ys) :
    y ∈ ys ↔ y = x ∨ y ∈ xs := by
  induction xs generalizing ys with
  | nil =>
      obtain rfl : [x] = ys := by simpa [insert] using h
      simp
  | cons z zs ih =>
      simp only [insert] at h
      split at h
      · obtain ⟨us, hus, rfl⟩ := Option.map_eq_some_iff.1 h
        rw [List.mem_cons, ih hus, List.mem_cons, or_left_comm]
      · split at h
        · exact absurd h (by simp)
        · obtain rfl : x :: z :: zs = ys := by simpa using h
          exact List.mem_cons

lemma Sorted.insert {x : ℕ × α} {xs ys : List (ℕ × α)} (hs : Sorted xs)
    (h : Resequencer.insert x xs = some ys) : Sorted ys := by
  induction xs generalizing ys with
  | nil =>
      obtain rfl : [x] = ys := by simpa [Resequencer.insert] using h
      exact List.pairwise_singleton _ _
  | cons z zs ih =>
      obtain ⟨hz, hzs⟩ := List.pairwise_cons.1 hs
      simp only [Resequencer.insert] at h
      split at h
      · rename_i hlt
        obtain ⟨us, hus, rfl⟩ := Option.map_eq_some_iff.1 h
        refine List.pairwise_cons.2 ⟨fun y hy => ?_, ih hzs hus⟩
        rcases (mem_insert hus).1 hy with rfl | hy
        · exact hlt
        · exact hz y hy
      · split at h
        · exact absurd h (by simp)
        · rename_i hnlt hne
          obtain rfl : x :: z :: zs = ys := by simpa using h
          have hxz : x.1 < z.1 := by omega
          refine List.pairwise_cons.2 ⟨fun y hy => ?_, hs⟩
          rcases List.mem_cons.1 hy with rfl | hy
          · exact hxz
          · exact hxz.trans (hz y hy)

/-- Insertion does not put a larger item in front. -/
lemma head_insert_le {x y z : ℕ × α} {xs ys zs : List (ℕ × α)} (h : insert x xs = some ys)
    (hxs : xs = z :: zs) (hy : ys.head? = some y) : y.1 ≤ z.1 := by
  subst hxs
  simp only [insert] at h
  split at h
  · obtain ⟨us, -, rfl⟩ := Option.map_eq_some_iff.1 h
    obtain rfl : z = y := by simpa using hy
    exact le_rfl
  · split at h
    · exact absurd h (by simp)
    · obtain rfl : x :: z :: zs = ys := by simpa using h
      obtain rfl : x = y := by simpa using hy
      omega

/-- Only a duplicate of a waiting item is refused. -/
lemma exists_of_insert_eq_none {x : ℕ × α} {xs : List (ℕ × α)} (h : insert x xs = none) :
    ∃ y ∈ xs, y.1 = x.1 := by
  induction xs with
  | nil => exact absurd h (by simp [insert])
  | cons z zs ih =>
      simp only [insert] at h
      split at h
      · obtain ⟨y, hy, hyx⟩ := ih (Option.map_eq_none_iff.1 h)
        exact ⟨y, List.mem_cons_of_mem _ hy, hyx⟩
      · split at h
        · exact ⟨z, List.mem_cons_self .., ‹_›⟩
        · exact absurd h (by simp)

/-! ### Release -/

lemma release_append (s : ℕ) (xs : List (ℕ × α)) :
    (release s xs).2.2 ++ (release s xs).2.1 = xs := by
  induction xs generalizing s with
  | nil => rfl
  | cons x xs ih =>
      simp only [release]
      split
      · simp only [List.cons_append, ih]
      · rfl

lemma le_release (s : ℕ) (xs : List (ℕ × α)) : s ≤ (release s xs).1 := by
  induction xs generalizing s with
  | nil => exact le_rfl
  | cons x xs ih =>
      simp only [release]
      split
      · exact le_trans (by split <;> omega) (ih (if x.1 = s then s + 1 else s))
      · exact le_rfl

/-- What is handed on lies before the new start. -/
lemma lt_release_of_mem_out (s : ℕ) (xs : List (ℕ × α)) :
    ∀ x ∈ (release s xs).2.2, x.1 < (release s xs).1 := by
  induction xs generalizing s with
  | nil => simp [release]
  | cons x xs ih =>
      simp only [release]
      split
      · rename_i hle
        intro y hy
        rcases List.mem_cons.1 hy with rfl | hy
        · have hnext : y.1 < if y.1 = s then s + 1 else s := by split <;> omega
          exact hnext.trans_le (le_release _ _)
        · exact ih _ y hy
      · simp

/-- What stays lies after the new start. -/
lemma release_lt_of_mem_rest {s : ℕ} {xs : List (ℕ × α)} (hs : Sorted xs) :
    ∀ x ∈ (release s xs).2.1, (release s xs).1 < x.1 := by
  induction xs generalizing s with
  | nil => simp [release]
  | cons x xs ih =>
      obtain ⟨hx, hxs⟩ := List.pairwise_cons.1 hs
      simp only [release]
      split
      · exact ih hxs
      · rename_i hlt
        intro y hy
        rcases List.mem_cons.1 hy with rfl | hy
        · omega
        · exact (not_le.1 hlt).trans (hx y hy)

/-- The start never passes the last item by more than one. -/
lemma release_le {s m : ℕ} {xs : List (ℕ × α)} (hsm : s ≤ m + 1) (hxs : ∀ x ∈ xs, x.1 ≤ m) :
    (release s xs).1 ≤ m + 1 := by
  induction xs generalizing s with
  | nil => exact hsm
  | cons x xs ih =>
      have hx := hxs x (List.mem_cons_self ..)
      simp only [release]
      split
      · exact ih (by split <;> omega) fun y hy => hxs y (List.mem_cons_of_mem _ hy)
      · exact hsm

/-! ### The invariant -/

/-- The invariant between a resequencer and the numbers `ds` it has handed on. -/
structure Inv (w gap : ℕ) (b : Resequencer α) (ds : List ℕ) : Prop where
  /-- The waiting items are sorted. -/
  sorted : Sorted b.pending
  /-- The waiting items lie inside the window, after its start. -/
  window : ∀ x ∈ b.pending, b.start < x.1 ∧ x.1 < b.start + w
  /-- The numbers handed on increase, each by at most `gap`. -/
  chain : ds.IsChain fun d d' => d < d' ∧ d' ≤ d + gap
  /-- The window has moved past all numbers handed on. -/
  behind : ∀ d ∈ ds, d < b.start
  /-- With nothing waiting, the window starts just after the last number. -/
  resume : ∀ d, ds.getLast? = some d → b.pending = [] → b.start = d + 1
  /-- The first waiting item is at most `gap` after the last number. -/
  next : ∀ d, ds.getLast? = some d → ∀ x, b.pending.head? = some x → x.1 ≤ d + gap

/-- The last of the sorted items has the largest number. -/
lemma Sorted.exists_max {xs : List (ℕ × α)} (hs : Sorted xs) (hne : xs ≠ []) :
    ∃ z ∈ xs, ∀ x ∈ xs, x.1 ≤ z.1 := by
  obtain ⟨ys, z, rfl⟩ := (List.eq_nil_or_concat xs).resolve_left hne
  rw [List.concat_eq_append] at hs ⊢
  refine ⟨z, by simp, fun x hx => ?_⟩
  rcases List.mem_append.1 hx with hx | hx
  · exact ((List.pairwise_append.1 hs).2.2 x hx z (by simp)).le
  · rw [List.mem_singleton.1 hx]

/-- Sorted items within a stretch of length `gap` may be handed on one after the
other. -/
lemma Sorted.isChain {xs : List (ℕ × α)} (hs : Sorted xs) {s : ℕ}
    (hxs : ∀ x ∈ xs, s ≤ x.1 ∧ x.1 < s + gap) :
    (xs.map Prod.fst).IsChain fun d d' => d < d' ∧ d' ≤ d + gap := by
  induction xs with
  | nil => exact .nil
  | cons x xs ih =>
      obtain ⟨hx, hs⟩ := List.pairwise_cons.1 hs
      have ih := ih hs fun y hy => hxs y (List.mem_cons_of_mem _ hy)
      refine List.isChain_cons.2 ⟨fun d hd => ?_, ih⟩
      cases xs with
      | nil => simp at hd
      | cons y ys =>
          obtain rfl : y.1 = d := by simpa using hd
          have hxy := hx y (List.mem_cons_self ..)
          have hx0 := hxs x (List.mem_cons_self ..)
          have hy0 := hxs y (List.mem_cons_of_mem _ (List.mem_cons_self ..))
          omega

/-- Releasing a sorted queue keeps the invariant.  The queue lies within a
stretch of length `gap` from `lo` on, its first item may follow the last number
handed on, and the new start `s` is not past all of it. -/
lemma Inv.release {ds : List ℕ} {xs : List (ℕ × α)} {s : ℕ} (lo : ℕ) (hs : Sorted xs)
    (hlo : ∀ x ∈ xs, lo ≤ x.1 ∧ x.1 < lo + gap) (hw : ∀ x ∈ xs, x.1 < s + w)
    (hchain : ds.IsChain fun d d' => d < d' ∧ d' ≤ d + gap)
    (hds : ∀ d ∈ ds, d < lo ∧ d < s)
    (hnext : ∀ d, ds.getLast? = some d → ∀ x, xs.head? = some x → x.1 ≤ d + gap)
    (hs1 : ∃ x ∈ xs, s ≤ x.1 + 1) :
    Inv w gap (⟨(Resequencer.release s xs).1, (Resequencer.release s xs).2.1⟩ : Resequencer α)
      (ds ++ (Resequencer.release s xs).2.2.map Prod.fst) := by
  have happ := release_append s xs
  have hle := le_release s xs
  have hout := lt_release_of_mem_out s xs
  have hrest := release_lt_of_mem_rest (s := s) hs
  obtain ⟨m, hm, hmax⟩ := hs.exists_max (List.ne_nil_of_mem hs1.choose_spec.1)
  have hend := release_le (m := m.1)
    (hs1.choose_spec.2.trans (Nat.succ_le_succ (hmax _ hs1.choose_spec.1))) hmax
  generalize Resequencer.release s xs = r at *
  obtain ⟨s', rest, out⟩ := r
  simp only at *
  subst happ
  have hso : Sorted out := (List.pairwise_append.1 hs).1
  have hlo' : ∀ x ∈ out, lo ≤ x.1 ∧ x.1 < lo + gap := fun x hx => hlo x (List.mem_append_left _ hx)
  refine ⟨(List.pairwise_append.1 hs).2.1, fun x hx => ?_, ?_, fun d hd => ?_, fun d hd hnil => ?_,
    fun d hd x hx => ?_⟩
  · have := hw x (List.mem_append_right _ hx)
    exact ⟨hrest x hx, this.trans_le (Nat.add_le_add_right hle w)⟩
  · -- the numbers handed on now continue the ones handed on before
    refine List.isChain_append.2 ⟨hchain, hso.isChain hlo', fun d hd d' hd' => ?_⟩
    cases out with
    | nil => simp at hd'
    | cons x out =>
        obtain rfl : x.1 = d' := by simpa using hd'
        have h1 := hnext d hd x (by simp)
        have h2 := hds d (List.mem_of_getLast? hd)
        have h3 := hlo' x (List.mem_cons_self ..)
        omega
  · rcases List.mem_append.1 hd with hd | hd
    · exact (hds d hd).2.trans_le hle
    · obtain ⟨x, hx, rfl⟩ := List.mem_map.1 hd
      exact hout x hx
  · -- nothing waits: the last item was handed on, and it is `m`
    obtain rfl : rest = [] := hnil
    rcases List.eq_nil_or_concat out with rfl | ⟨out, y, rfl⟩
    · simp at hm
    · obtain rfl : y.1 = d := by simpa using hd
      have hmy : m.1 ≤ y.1 := by
        simp only [List.append_nil, List.concat_eq_append, List.mem_append,
          List.mem_singleton] at hm
        rcases hm with hm | rfl
        · rw [List.concat_eq_append] at hso
          exact ((List.pairwise_append.1 hso).2.2 m hm y (by simp)).le
        · exact le_rfl
      have h1 := hmax y (by simp)
      have h2 := hout y (by simp)
      show s' = y.1 + 1
      omega
  · have hxr : x ∈ rest := List.mem_of_head? hx
    have h1 := hlo x (List.mem_append_right _ hxr)
    rcases List.eq_nil_or_concat out with rfl | ⟨out, y, rfl⟩
    · exact hnext d (by simpa using hd) x hx
    · obtain rfl : y.1 = d := by simpa using hd
      have h2 := hlo' y (by simp)
      omega

variable {b b' : Resequencer α} {ds : List ℕ} {x : ℕ × α} {out : List (ℕ × α)}

/-- An item that is a duplicate does not move the window. -/
lemma Inv.shift_eq_of_mem (hb : Inv w gap b ds) {n : ℕ} (h : ∃ y ∈ b.pending, y.1 = n) :
    shift w b.start n = b.start := by
  obtain ⟨y, hy, rfl⟩ := h
  have := hb.window y hy
  simp only [shift]
  split <;> [omega; split <;> omega]

/-- Taking in an item that is not before the window, and at most a gap after its
start, keeps the invariant. -/
theorem Inv.accept (hb : Inv w gap b ds) (hw : 0 < w) (hwg : w ≤ gap) (hlo : b.start ≤ x.1)
    (hhi : x.1 < b.start + gap) (h : Resequencer.accept w b x = some (b', out)) :
    Inv w gap b' (ds ++ out.map Prod.fst) := by
  obtain ⟨xs, hxs, hr⟩ := Option.map_eq_some_iff.1 h
  simp only [Prod.mk.injEq] at hr
  obtain ⟨rfl, rfl⟩ := hr
  have hmem : ∀ y ∈ xs, y = x ∨ y ∈ b.pending := fun y hy => (mem_insert hxs).1 hy
  have hshift : b.start ≤ shift w b.start x.1 ∧ shift w b.start x.1 ≤ x.1 + 1 ∧
      x.1 < shift w b.start x.1 + w := by
    simp only [shift]
    split <;> [omega; split <;> omega]
  refine Inv.release b.start (hb.sorted.insert hxs) (fun y hy => ?_) (fun y hy => ?_)
    hb.chain (fun d hd => ?_) (fun d hd y hy => ?_) ⟨x, (mem_insert hxs).2 (Or.inl rfl), hshift.2.1⟩
  · rcases hmem y hy with rfl | hy
    · exact ⟨hlo, hhi⟩
    · have := hb.window y hy
      omega
  · rcases hmem y hy with rfl | hy
    · exact hshift.2.2
    · have := hb.window y hy
      omega
  · exact ⟨hb.behind d hd, (hb.behind d hd).trans_le hshift.1⟩
  · -- the first item is the new one only if it comes before the one that was first
    cases hp : b.pending with
    | nil =>
        have := hb.resume d hd hp
        rcases hmem y (List.mem_of_head? hy) with rfl | hy
        · omega
        · simp [hp] at hy
    | cons z zs =>
        have hz := hb.next d hd z (by simp [hp])
        exact (head_insert_le hxs hp hy).trans hz

/-- Giving up the first gap keeps the invariant. -/
theorem Inv.expire (hb : Inv w gap b ds) (hwg : w ≤ gap) :
    Inv w gap (Resequencer.expire b).1 (ds ++ (Resequencer.expire b).2.map Prod.fst) := by
  cases hp : b.pending with
  | nil => simpa [Resequencer.expire, hp] using hb
  | cons x xs =>
      have hx := hb.window x (by simp [hp])
      have hs : Sorted (x :: xs) := hp ▸ hb.sorted
      have hwin : ∀ y ∈ x :: xs, b.start < y.1 ∧ y.1 < b.start + w := fun y hy =>
        hb.window y (hp ▸ hy)
      simp only [Resequencer.expire, hp]
      refine Inv.release b.start hs (fun y hy => ?_) (fun y hy => ?_) hb.chain
        (fun d hd => ?_) (fun d hd y hy => ?_) ⟨x, List.mem_cons_self .., Nat.le_succ _⟩
      · have := hwin y hy
        omega
      · have := hwin y hy
        omega
      · have := hb.behind d hd
        omega
      · exact hb.next d hd y (hp ▸ hy)

/-! ### What a step hands on -/

lemma mem_of_mem_release_out {s : ℕ} {xs : List (ℕ × α)} {y : ℕ × α}
    (hy : y ∈ (Resequencer.release s xs).2.2) : y ∈ xs := by
  rw [← release_append s xs]
  exact List.mem_append_left _ hy

/-- What an accepted item moves: the window, not past `hi`, over the items that are handed on. -/
lemma accept_moves {P : ℕ → Prop} {hi : ℕ} (hw : 0 < w) (hlo : b.start ≤ x.1)
    (hpend : ∀ y ∈ b.pending, P y.1 ∧ y.1 < hi) (hx : P x.1 ∧ x.1 < hi)
    (h : Resequencer.accept w b x = some (b', out)) :
    b.start ≤ b'.start ∧ b'.start ≤ hi ∧ ∀ y ∈ out, P y.1 ∧ y.1 < b'.start := by
  obtain ⟨xs, hxs, hr⟩ := Option.map_eq_some_iff.1 h
  simp only [Prod.mk.injEq] at hr
  obtain ⟨rfl, rfl⟩ := hr
  have hshift : b.start ≤ shift w b.start x.1 ∧ shift w b.start x.1 ≤ x.1 + 1 := by
    simp only [shift]
    split <;> [omega; split <;> omega]
  have hmem : ∀ y ∈ xs, P y.1 ∧ y.1 < hi := by
    intro y hy
    rcases (mem_insert hxs).1 hy with rfl | hy
    · exact hx
    · exact hpend y hy
  have hend : (Resequencer.release (shift w b.start x.1) xs).1 ≤ hi - 1 + 1 :=
    release_le (by omega) fun y hy => by have := hmem y hy; omega
  refine ⟨hshift.1.trans (le_release _ _), hend.trans (by omega), fun y hy => ?_⟩
  exact ⟨(hmem y (mem_of_mem_release_out hy)).1, lt_release_of_mem_out _ _ y hy⟩

/-- What giving up a gap moves. -/
lemma expire_moves {P : ℕ → Prop} {hi : ℕ} (hhi : b.start ≤ hi)
    (hlo : ∀ y, b.pending.head? = some y → b.start ≤ y.1)
    (hpend : ∀ y ∈ b.pending, P y.1 ∧ y.1 < hi) :
    b.start ≤ (Resequencer.expire b).1.start ∧ (Resequencer.expire b).1.start ≤ hi ∧
      ∀ y ∈ (Resequencer.expire b).2, P y.1 ∧ y.1 < (Resequencer.expire b).1.start := by
  cases hp : b.pending with
  | nil => simpa [Resequencer.expire, hp] using hhi
  | cons x xs =>
      rw [hp] at hlo hpend
      have hx := hpend x List.mem_cons_self
      simp only [Resequencer.expire, hp]
      have hend : (Resequencer.release x.1 (x :: xs)).1 ≤ hi - 1 + 1 :=
        release_le (by omega) fun y hy => by have := hpend y hy; omega
      refine ⟨(hlo x rfl).trans (le_release _ _), by omega, fun y hy => ?_⟩
      exact ⟨(hpend y (mem_of_mem_release_out hy)).1, lt_release_of_mem_out _ _ y hy⟩

/-- Accepting an item moves the window by at most a gap, over the items that it
hands on. -/
theorem Inv.accept_window (hb : Inv w gap b ds) (hw : 0 < w) (hlo : b.start ≤ x.1)
    (hhi : x.1 < b.start + gap) (hwg : w ≤ gap) (h : Resequencer.accept w b x = some (b', out)) :
    b.start ≤ b'.start ∧ b'.start ≤ b.start + gap ∧
      ∀ y ∈ out, b.start ≤ y.1 ∧ y.1 < b'.start := by
  refine accept_moves hw hlo (fun y hy => ?_) ⟨hlo, hhi⟩ h
  have := hb.window y hy
  omega

/-- Giving up a gap moves the window by at most its size, over the items that it
hands on. -/
theorem Inv.expire_window (hb : Inv w gap b ds) :
    b.start ≤ (Resequencer.expire b).1.start ∧
      (Resequencer.expire b).1.start ≤ b.start + w ∧
      ∀ y ∈ (Resequencer.expire b).2,
        b.start ≤ y.1 ∧ y.1 < (Resequencer.expire b).1.start := by
  refine expire_moves (by omega) (fun y hy => ?_) fun y hy => ?_
  · exact (hb.window y (List.mem_of_head? hy)).1.le
  · exact ⟨(hb.window y hy).1.le, (hb.window y hy).2⟩

/-! ### Windows that are moved from outside

`moveTo` may leave items behind the start of the window.  They are handed on, before all
others, as soon as an item is accepted. -/

/-- What holds when the window was moved from outside: the numbers handed on still increase,
and what waits is at most a gap behind the start. -/
structure Loose (w gap : ℕ) (b : Resequencer α) (ds : List ℕ) : Prop where
  sorted : Sorted b.pending
  near : ∀ x ∈ b.pending, b.start < x.1 + gap ∧ x.1 < b.start + w
  increasing : ds.Pairwise (· < ·)
  behind : ∀ d ∈ ds, d < b.start ∧ ∀ x ∈ b.pending, d < x.1

/-- The items that wait behind the number `k`. -/
def stale (b : Resequencer α) (k : ℕ) : List (ℕ × α) := b.pending.filter fun x => x.1 < k

lemma mem_stale {y : ℕ × α} {k : ℕ} : y ∈ b.stale k ↔ y ∈ b.pending ∧ y.1 < k := by
  simp [stale]

lemma Loose.moveTo (hb : Loose w gap b ds) {s : ℕ} (hs : b.start ≤ s)
    (hnear : ∀ x ∈ b.pending, s < x.1 + gap) : Loose w gap (b.moveTo s) ds where
  sorted := hb.sorted
  near := fun x hx => ⟨hnear x hx, (hb.near x hx).2.trans_le (Nat.add_le_add_right hs w)⟩
  increasing := hb.increasing
  behind := fun d hd => ⟨(hb.behind d hd).1.trans_le hs, (hb.behind d hd).2⟩

/-- Releasing a sorted queue keeps it so. -/
lemma Loose.release {xs : List (ℕ × α)} {s : ℕ} (hs : Sorted xs)
    (hnear : ∀ x ∈ xs, s < x.1 + gap ∧ x.1 < s + w) (hds : ds.Pairwise (· < ·))
    (hbehind : ∀ d ∈ ds, d < s ∧ ∀ x ∈ xs, d < x.1) :
    Loose w gap (⟨(Resequencer.release s xs).1, (Resequencer.release s xs).2.1⟩ : Resequencer α)
      (ds ++ (Resequencer.release s xs).2.2.map Prod.fst) := by
  have happ := release_append s xs
  have hle := le_release s xs
  have hout := lt_release_of_mem_out s xs
  have hrest := release_lt_of_mem_rest (s := s) hs
  generalize Resequencer.release s xs = r at *
  obtain ⟨s', rest, out⟩ := r
  simp only at *
  subst happ
  obtain ⟨hso, hsr, hor⟩ := List.pairwise_append.1 hs
  refine ⟨hsr, ?_, ?_, ?_⟩
  · intro x hx
    have hafter := hrest x hx
    have hbound := (hnear x (List.mem_append_right _ hx)).2
    have hgap := (hnear x (List.mem_append_right _ hx)).1
    constructor
    · show s' < x.1 + gap
      omega
    · show x.1 < s' + w
      omega
  · rw [List.pairwise_append, List.pairwise_map]
    refine ⟨hds, hso, ?_⟩
    intro d hd d' hd'
    obtain ⟨x, hx, rfl⟩ := List.mem_map.1 hd'
    exact (hbehind d hd).2 x (List.mem_append_left _ hx)
  · intro d hd
    rcases List.mem_append.1 hd with hd | hd
    · exact ⟨(hbehind d hd).1.trans_le hle,
        fun x hx => (hbehind d hd).2 x (List.mem_append_right _ hx)⟩
    · obtain ⟨x, hx, rfl⟩ := List.mem_map.1 hd
      exact ⟨hout x hx, fun y hy => hor x hx y hy⟩

lemma shift_bounds (w start n : ℕ) (hw : 0 < w) (hn : start ≤ n) :
    start ≤ shift w start n ∧ shift w start n ≤ n + 1 ∧ n < shift w start n + w := by
  simp only [shift]
  split <;> [omega; split <;> omega]

lemma shift_le_of_ne {start n : ℕ} (hw : 0 < w) (hn : start ≤ n) (hne : n ≠ start) :
    shift w start n ≤ n := by
  simp only [shift, hne, if_false]
  split <;> omega

/-- Accepting an item moves the window by at most a gap. -/
lemma Loose.accept_start (hb : Loose w gap b ds) (hw : 0 < w) (hwg : w ≤ gap)
    (hlo : b.start ≤ x.1) (hhi : x.1 < b.start + gap)
    (h : Resequencer.accept w b x = some (b', out)) :
    b.start ≤ b'.start ∧ b'.start ≤ b.start + gap ∧
      ∀ y ∈ out, b.start < y.1 + gap ∧ y.1 < b'.start := by
  refine accept_moves (P := fun n => b.start < n + gap) hw hlo (fun y hy => ?_) ⟨by omega, hhi⟩ h
  have := hb.near y hy
  omega

/-- Accepting an item that is not before the window keeps it so. -/
lemma Loose.accept (hb : Loose w gap b ds) (hw : 0 < w) (hlo : b.start ≤ x.1)
    (hnear : ∀ y ∈ b.pending, shift w b.start x.1 < y.1 + gap) (hgap : 1 < gap)
    (h : Resequencer.accept w b x = some (b', out)) :
    Loose w gap b' (ds ++ out.map Prod.fst) := by
  obtain ⟨xs, hxs, hr⟩ := Option.map_eq_some_iff.1 h
  simp only [Prod.mk.injEq] at hr
  obtain ⟨rfl, rfl⟩ := hr
  have hmem : ∀ y ∈ xs, y = x ∨ y ∈ b.pending := fun y hy => (mem_insert hxs).1 hy
  have hshift := shift_bounds w b.start x.1 hw hlo
  refine Loose.release (hb.sorted.insert hxs) ?_ hb.increasing ?_
  · intro y hy
    rcases hmem y hy with rfl | hy
    · omega
    · have hwin := (hb.near y hy).2
      exact ⟨hnear y hy, by omega⟩
  · intro d hd
    have hbefore := hb.behind d hd
    refine ⟨hbefore.1.trans_le hshift.1, ?_⟩
    intro y hy
    rcases hmem y hy with rfl | hy
    · exact hbefore.1.trans_le hlo
    · exact hbefore.2 y hy

/-- Giving up the first gap keeps it so, when nothing waits behind the window. -/
lemma Loose.expire (hb : Loose w gap b ds) (hgap : 0 < gap) (hstale : b.stale b.start = []) :
    Loose w gap (Resequencer.expire b).1 (ds ++ (Resequencer.expire b).2.map Prod.fst) := by
  cases hp : b.pending with
  | nil => simpa [Resequencer.expire, hp] using hb
  | cons x xs =>
      have hs : Sorted (x :: xs) := hp ▸ hb.sorted
      have hwin : ∀ y ∈ x :: xs, b.start ≤ y.1 ∧ y.1 < b.start + w := by
        intro y hy
        have hmem : y ∈ b.pending := hp ▸ hy
        refine ⟨?_, (hb.near y hmem).2⟩
        by_contra hlt
        have hin : y ∈ b.stale b.start := mem_stale.2 ⟨hmem, by omega⟩
        rw [hstale] at hin
        cases hin
      have hfirst : ∀ y ∈ x :: xs, x.1 ≤ y.1 := by
        intro y hy
        rcases List.mem_cons.1 hy with rfl | hy
        · exact le_rfl
        · exact ((List.pairwise_cons.1 hs).1 y hy).le
      have hx := hwin x List.mem_cons_self
      simp only [Resequencer.expire, hp]
      refine Loose.release hs ?_ hb.increasing ?_
      · intro y hy
        have hxy := hfirst y hy
        have hy := hwin y hy
        omega
      · intro d hd
        have hbefore := hb.behind d hd
        exact ⟨hbefore.1.trans_le hx.1, fun y hy => hbefore.2 y (hp ▸ hy)⟩

/-- Giving up the first gap moves the window forward, when nothing waits behind it. -/
lemma Loose.expire_start (hb : Loose w gap b ds) (hwg : w ≤ gap)
    (hstale : b.stale b.start = []) :
    b.start ≤ (Resequencer.expire b).1.start ∧
      (Resequencer.expire b).1.start ≤ b.start + gap ∧
      ∀ y ∈ (Resequencer.expire b).2,
        b.start < y.1 + gap ∧ y.1 < (Resequencer.expire b).1.start := by
  refine expire_moves (P := fun n => b.start < n + gap) (by omega) (fun y hy => ?_) fun y hy => ?_
  · by_contra hlt
    have hin : y ∈ b.stale b.start := mem_stale.2 ⟨List.mem_of_head? hy, by omega⟩
    rw [hstale] at hin
    cases hin
  · have := hb.near y hy
    omega

/-- What lies before the start is released first. -/
lemma release_append_of_lt {s : ℕ} {as : List (ℕ × α)} (has : ∀ a ∈ as, a.1 < s)
    (bs : List (ℕ × α)) :
    (Resequencer.release s (as ++ bs)).2.2 = as ++ (Resequencer.release s bs).2.2 := by
  induction as with
  | nil => rfl
  | cons a as ih =>
      have ha := has a List.mem_cons_self
      have ih := ih fun a' ha' => has a' (List.mem_cons_of_mem _ ha')
      simp only [List.cons_append, Resequencer.release]
      rw [if_pos ha.le, if_neg ha.ne, ih]

lemma insert_append_of_lt {as : List (ℕ × α)} (has : ∀ a ∈ as, a.1 < x.1)
    (bs : List (ℕ × α)) : insert x (as ++ bs) = (insert x bs).map (as ++ ·) := by
  induction as with
  | nil => simp
  | cons a as ih =>
      have ih := ih fun a' ha' => has a' (List.mem_cons_of_mem _ ha')
      simp only [List.cons_append, insert]
      rw [if_pos (has a List.mem_cons_self), ih, Option.map_map]
      rfl

/-- The stale items of a sorted queue come first. -/
lemma Sorted.stale_append (hs : Sorted b.pending) (k : ℕ) :
    ∃ rest, b.pending = b.stale k ++ rest := by
  refine ⟨b.pending.filter fun x => ¬ x.1 < k, ?_⟩
  simp only [stale]
  generalize b.pending = xs at hs
  induction xs with
  | nil => rfl
  | cons y ys ih =>
      obtain ⟨hy, hs⟩ := List.pairwise_cons.1 hs
      have ih := ih hs
      by_cases hlt : y.1 < k
      · simpa [hlt] using ih
      · have hall : ∀ z ∈ ys, ¬ z.1 < k := fun z hz => by have := hy z hz; omega
        have hnone : ys.filter (fun z => decide (z.1 < k)) = [] :=
          List.filter_eq_nil_iff.2 fun z hz => by simpa using hall z hz
        have hevery : ys.filter (fun z => decide (¬ z.1 < k)) = ys :=
          List.filter_eq_self.2 fun z hz => by simpa using hall z hz
        simp only [List.filter_cons, hlt, decide_false, Bool.false_eq_true, if_false,
          not_false_eq_true, decide_true, if_true, hnone, hevery, List.nil_append]

/-- Accepting an item hands on first what waits behind the window. -/
lemma Loose.stale_of_accept (hb : Loose w gap b ds) (hw : 0 < w) (hlo : b.start ≤ x.1) {k : ℕ}
    (hk : k ≤ b.start) (h : Resequencer.accept w b x = some (b', out)) :
    ∃ rest, out = b.stale k ++ rest := by
  obtain ⟨xs, hxs, hr⟩ := Option.map_eq_some_iff.1 h
  simp only [Prod.mk.injEq] at hr
  obtain ⟨-, rfl⟩ := hr
  obtain ⟨rest, hrest⟩ := hb.sorted.stale_append k
  have hstale : ∀ a ∈ b.stale k, a.1 < b.start := fun a ha => (mem_stale.1 ha).2.trans_le hk
  rw [hrest, insert_append_of_lt fun a ha => (hstale a ha).trans_le hlo] at hxs
  obtain ⟨ys, -, rfl⟩ := Option.map_eq_some_iff.1 hxs
  have hshift := shift_bounds w b.start x.1 hw hlo
  exact ⟨_, release_append_of_lt (fun a ha => (hstale a ha).trans_le hshift.1) ys⟩

/-! ### Starting over

Where the numbering is resumed at an item that comes after all that waits, the window starts
just behind that item and nothing waits any more. -/

/-- Start over with the item `x`. -/
def restart (b : Resequencer α) (x : ℕ × α) : Resequencer α × List (ℕ × α) :=
  (⟨x.1 + 1, []⟩, b.pending ++ [x])

lemma insert_of_forall_lt {xs : List (ℕ × α)} (h : ∀ y ∈ xs, y.1 < x.1) :
    insert x xs = some (xs ++ [x]) := by
  simpa [insert] using insert_append_of_lt h []

lemma release_of_forall_lt {s : ℕ} {xs : List (ℕ × α)} (h : ∀ y ∈ xs, y.1 < s) :
    release s xs = (s, [], xs) := by
  induction xs with
  | nil => rfl
  | cons y ys ih =>
      have hy := h y List.mem_cons_self
      have ih := ih fun z hz => h z (List.mem_cons_of_mem _ hz)
      rw [release, if_pos hy.le, if_neg hy.ne, ih]

/-- Starting over with an item that is not before the window keeps the invariant. -/
theorem Inv.restart (hb : Inv w gap b ds) (hw : 0 < w) (hwg : w ≤ gap) (hlo : b.start ≤ x.1)
    (hhi : x.1 < b.start + gap) (hafter : ∀ y ∈ b.pending, y.1 < x.1) :
    Inv w gap (b.restart x).1 (ds ++ (b.restart x).2.map Prod.fst) := by
  have hall : ∀ y ∈ b.pending ++ [x], y.1 < x.1 + 1 := by
    intro y hy
    rcases List.mem_append.1 hy with hy | hy
    · exact (hafter y hy).trans (Nat.lt_succ_self _)
    · rw [List.mem_singleton.1 hy]
      exact Nat.lt_succ_self _
  have hrel := release_of_forall_lt hall
  have hwhole : b.restart x = (⟨(Resequencer.release (x.1 + 1) (b.pending ++ [x])).1,
      (Resequencer.release (x.1 + 1) (b.pending ++ [x])).2.1⟩,
      (Resequencer.release (x.1 + 1) (b.pending ++ [x])).2.2) := by rw [hrel]; rfl
  rw [hwhole]
  refine Inv.release b.start (hb.sorted.insert (insert_of_forall_lt hafter)) (fun y hy => ?_)
    (fun y hy => (hall y hy).trans (by omega)) hb.chain
    (fun d hd => ⟨hb.behind d hd, (hb.behind d hd).trans_le (by omega)⟩) (fun d hd y hy => ?_)
    ⟨x, by simp, le_rfl⟩
  · rcases List.mem_append.1 hy with hy | hy
    · have := hb.window y hy
      omega
    · rw [List.mem_singleton.1 hy]
      exact ⟨hlo, hhi⟩
  · cases hp : b.pending with
    | nil =>
        have hresume := hb.resume d hd hp
        obtain rfl : x = y := by simpa [hp] using hy
        omega
    | cons z zs =>
        obtain rfl : z = y := by simpa [hp] using hy
        exact hb.next d hd z (by simp [hp])

/-- The window and what waits do not reach beyond the number `m`. -/
structure Upto (b : Resequencer α) (m : ℕ) : Prop where
  start_le : b.start ≤ m + 1
  pending_le : ∀ x ∈ b.pending, x.1 ≤ m

/-- Releasing items up to `m` stays up to `m`. -/
lemma Upto.release {s m : ℕ} {xs : List (ℕ × α)} (hs : s ≤ m + 1) (hxs : ∀ x ∈ xs, x.1 ≤ m) :
    (⟨(Resequencer.release s xs).1, (Resequencer.release s xs).2.1⟩ : Resequencer α).Upto m where
  start_le := release_le hs hxs
  pending_le := fun y hy => hxs y (by
    rw [← release_append s xs]
    exact List.mem_append_right _ hy)

lemma Upto.accept {m : ℕ} (hm : b.Upto m) (hw : 0 < w) (hlo : b.start ≤ x.1) (hx : x.1 ≤ m)
    (h : Resequencer.accept w b x = some (b', out)) : b'.Upto m := by
  obtain ⟨xs, hxs, hr⟩ := Option.map_eq_some_iff.1 h
  simp only [Prod.mk.injEq] at hr
  obtain ⟨rfl, -⟩ := hr
  have hshift := shift_bounds w b.start x.1 hw hlo
  refine Upto.release (by omega) ?_
  intro y hy
  rcases (mem_insert hxs).1 hy with rfl | hy
  · exact hx
  · exact hm.pending_le y hy

lemma Upto.expire {m : ℕ} (hm : b.Upto m) : (Resequencer.expire b).1.Upto m := by
  cases hp : b.pending with
  | nil => simpa [Resequencer.expire, hp] using hm
  | cons y ys =>
      have hall : ∀ z ∈ y :: ys, z.1 ≤ m := fun z hz => hm.pending_le z (hp ▸ hz)
      have hy := hall y List.mem_cons_self
      simp only [Resequencer.expire, hp]
      exact Upto.release (by omega) hall

lemma upto_restart {m : ℕ} (hx : x.1 ≤ m) : (b.restart x).1.Upto m where
  start_le := Nat.succ_le_succ hx
  pending_le := by simp [restart]

end Resequencer

end Lib
