import Mathlib.Data.List.Basic
import Mathlib.Data.List.Nodup
import Mathlib.Logic.Function.Basic

/-!
# Circular doubly linked lists

Each node has a pointer to the next node and one to the node before; a pointer that must not be
followed is `none`.  A list is a ring of nodes through its head.  All operations are made of `join`,
which links one node to another; what they do to a ring is shown for the ring, and a ring that has
no node of it stays as it is.
-/

namespace Lib.ListHead

variable {α : Type*}

/-- The pointers of all nodes. -/
structure Ptrs (α : Type*) where
  next : α → Option α
  prev : α → Option α

/-- Each node of the list is linked to the one behind it. -/
def Links (s : Ptrs α) : List α → Prop
  | x :: y :: l => s.next x = some y ∧ s.prev y = some x ∧ Links s (y :: l)
  | _ => True

/-- The list with the head `h` has the nodes `xs`. -/
def Ring (s : Ptrs α) (h : α) (xs : List α) : Prop := Links s (h :: (xs ++ [h]))

/-- The pointers of a node are the same. -/
def SameAt (s s' : Ptrs α) (x : α) : Prop := s'.next x = s.next x ∧ s'.prev x = s.prev x

variable {s s' s'' : Ptrs α} {l r xs ys : List α} {a b g h n p x y : α}

/-! ### Links -/

lemma links_append_cons : Links s (l ++ x :: r) ↔ Links s (l ++ [x]) ∧ Links s (x :: r) := by
  induction l with
  | nil => exact (and_iff_right trivial).symm
  | cons a l ih =>
      cases l with
      | nil =>
          show s.next a = some x ∧ s.prev x = some a ∧ Links s (x :: r) ↔
            (s.next a = some x ∧ s.prev x = some a ∧ True) ∧ Links s (x :: r)
          rw [and_true, and_assoc]
      | cons b l =>
          show s.next a = some b ∧ s.prev b = some a ∧ Links s (b :: l ++ x :: r) ↔
            (s.next a = some b ∧ s.prev b = some a ∧ Links s (b :: l ++ [x])) ∧ Links s (x :: r)
          rw [ih, and_assoc, and_assoc]

lemma Links.of_append_right (hl : Links s (l ++ r)) : Links s r := by
  cases r with
  | nil => trivial
  | cons x r => exact (links_append_cons.1 hl).2

/-- The links are in the pointers to the next node of all but the last node, and in those to the
node before of all but the first. -/
lemma Links.congr (hl : Links s l) (hnext : ∀ x ∈ l.dropLast, s'.next x = s.next x)
    (hprev : ∀ x ∈ l.tail, s'.prev x = s.prev x) : Links s' l := by
  induction l with
  | nil => trivial
  | cons a l ih =>
      cases l with
      | nil => trivial
      | cons b l =>
          obtain ⟨hab, hba, hrest⟩ := hl
          refine ⟨(hnext a (by simp)).trans hab, (hprev b (by simp)).trans hba, ?_⟩
          refine ih hrest (fun x hx => hnext x ?_) fun x hx => hprev x ?_
          · rw [List.dropLast_cons_of_ne_nil (List.cons_ne_nil b l)]
            exact List.mem_cons_of_mem a hx
          · exact List.mem_cons_of_mem b hx

lemma Ring.congr (hr : Ring s h xs) (hsame : ∀ x ∈ h :: xs, SameAt s s' x) : Ring s' h xs := by
  refine Links.congr hr (fun x hx => (hsame x ?_).1) fun x hx => (hsame x ?_).2
  · rw [← List.cons_append, List.dropLast_concat] at hx
    exact hx
  · rw [List.tail_cons, List.mem_append, List.mem_singleton] at hx
    rcases hx with hx | rfl
    · exact List.mem_cons_of_mem h hx
    · exact List.mem_cons_self

/-- The pointers say which nodes a ring has. -/
lemma Links.unique (hl : Links s (a :: (xs ++ [h]))) (hl' : Links s (a :: (ys ++ [h])))
    (hx : h ∉ xs) (hy : h ∉ ys) : xs = ys := by
  induction xs generalizing a ys with
  | nil =>
      cases ys with
      | nil => rfl
      | cons y ys =>
          have heq : h = y := Option.some.inj (hl.1.symm.trans hl'.1)
          exact absurd (heq ▸ List.mem_cons_self) hy
  | cons x xs ih =>
      cases ys with
      | nil =>
          have heq : x = h := Option.some.inj (hl.1.symm.trans hl'.1)
          exact absurd (heq ▸ List.mem_cons_self) hx
      | cons y ys =>
          obtain rfl : x = y := Option.some.inj (hl.1.symm.trans hl'.1)
          have hrest := ih hl.2.2 hl'.2.2 (fun hmem => hx (List.mem_cons_of_mem x hmem))
            fun hmem => hy (List.mem_cons_of_mem x hmem)
          rw [hrest]

/-- From any place on the nodes of a ring are linked up to its head. -/
lemma Ring.rest (hr : Ring s h (l ++ r)) (hnd : (h :: (l ++ r)).Nodup) :
    Links s (r ++ [h]) ∧ h ∉ r ∧ (s.next h).isSome := by
  refine ⟨?_, fun hmem => (List.nodup_cons.1 hnd).1 (List.mem_append_right l hmem), ?_⟩
  · rw [Ring, List.append_assoc] at hr
    exact Links.of_append_right (l := h :: l) hr
  · rcases hlist : l ++ r with _ | ⟨x, xs⟩
    · rw [hlist] at hr
      rw [hr.1]
      rfl
    · rw [hlist] at hr
      rw [hr.1]
      rfl

lemma SameAt.refl (s : Ptrs α) (x : α) : SameAt s s x := ⟨rfl, rfl⟩

lemma SameAt.trans (h : SameAt s s' x) (h' : SameAt s' s'' x) : SameAt s s'' x :=
  ⟨h'.1.trans h.1, h'.2.trans h.2⟩

/-- The neighbours of a node of a ring. -/
lemma Ring.neighbours (hr : Ring s h (l ++ a :: r)) : ∃ L p n R, h :: l = L ++ [p] ∧
    r ++ [h] = n :: R ∧ s.next a = some n ∧ s.prev a = some p ∧ Links s (L ++ [p]) ∧
    Links s (n :: R) := by
  obtain ⟨L, p, hL⟩ : ∃ L p, h :: l = L ++ [p] := by
    rcases List.eq_nil_or_concat (h :: l) with hnil | ⟨L, p, hL⟩
    · cases hnil
    · exact ⟨L, p, by rw [hL, List.concat_eq_append]⟩
  obtain ⟨n, R, hR⟩ : ∃ n R, r ++ [h] = n :: R := by
    rcases r with _ | ⟨n, r⟩
    · exact ⟨h, [], rfl⟩
    · exact ⟨n, r ++ [h], rfl⟩
  have hlist : h :: (l ++ a :: r ++ [h]) = L ++ p :: a :: n :: R := by
    rw [List.append_assoc, List.cons_append, hR, ← List.cons_append, hL, List.append_assoc]
    rfl
  rw [Ring, hlist, links_append_cons] at hr
  obtain ⟨hleft, -, hpa, han, -, hright⟩ := hr
  exact ⟨L, p, n, R, hL, hR, han, hpa, hleft, hright⟩

lemma left_mem {L : List α} (hL : h :: l = L ++ [p]) : p ∈ h :: l := by
  rw [hL]
  exact List.mem_append_right L List.mem_cons_self

lemma right_mem {R : List α} (hR : r ++ [h] = n :: R) : n ∈ h :: r := by
  have hmem : n ∈ r ++ [h] := by
    rw [hR]
    exact List.mem_cons_self
  rcases List.mem_append.1 hmem with hmem | hmem
  · exact List.mem_cons_of_mem h hmem
  · rw [List.mem_singleton.1 hmem]
    exact List.mem_cons_self

/-- A node in the middle of a list, and the others around it. -/
lemma perm_around : (h :: (l ++ a :: r)).Perm (a :: (h :: (l ++ r))) := by
  rw [← List.cons_append, ← List.cons_append]
  exact List.perm_middle

lemma mem_around : x ∈ h :: (l ++ a :: r) ↔ x = a ∨ x ∈ h :: (l ++ r) :=
  perm_around.mem_iff.trans List.mem_cons

lemma mem_around_left (hx : x ∈ h :: l) : x ∈ h :: (l ++ r) := by
  rw [← List.cons_append]
  exact List.mem_append_left r hx

lemma mem_around_right (hx : x ∈ h :: r) : x ∈ h :: (l ++ r) := by
  rcases List.mem_cons.1 hx with rfl | hx
  · exact List.mem_cons_self
  · exact List.mem_cons_of_mem h (List.mem_append_right l hx)

/-- The two places where a ring is cut and joined again. -/
lemma seam (hnd : (h :: (l ++ r)).Nodup) {L R : List α} (hL : h :: l = L ++ [p])
    (hR : r ++ [h] = n :: R) :
    p ∉ L ∧ n ∉ (L ++ [p]).tail ∧ p ∉ (n :: R).dropLast ∧ n ∉ R := by
  rw [← List.cons_append] at hnd
  have hdisj := List.disjoint_of_nodup_append hnd
  have hleft := hnd.of_append_left
  have hright : (r ++ [h]).Nodup := by
    refine List.nodup_append_comm.1 ?_
    rw [List.cons_append, List.nodup_cons] at hnd ⊢
    exact ⟨fun hmem => hnd.1 (List.mem_append_right l hmem), hnd.2.of_append_right⟩
  rw [hL] at hleft hdisj
  have hp : p ∉ L := fun hmem => List.disjoint_of_nodup_append hleft hmem List.mem_cons_self
  have hn : n ∉ R := by
    rw [hR] at hright
    exact (List.nodup_cons.1 hright).1
  refine ⟨hp, ?_, ?_, hn⟩
  · rw [← hL, List.tail_cons]
    intro hmem
    have hmem' : n ∈ r ++ [h] := by
      rw [hR]
      exact List.mem_cons_self
    rcases List.mem_append.1 hmem' with hr | hh
    · refine hdisj ?_ hr
      rw [← hL]
      exact List.mem_cons_of_mem h hmem
    · rw [List.mem_singleton.1 hh] at hmem
      rw [List.cons_append, List.nodup_cons] at hnd
      exact hnd.1 (List.mem_append_left r hmem)
  · rw [← hR, List.dropLast_concat]
    exact fun hmem => hdisj (List.mem_append_right L List.mem_cons_self) hmem

/-- The last node of a list, or the head. -/
lemma Ring.last (hr : Ring s h xs) : ∃ L p, h :: xs = L ++ [p] ∧ s.prev h = some p ∧
    Links s (L ++ [p]) := by
  obtain ⟨L, p, hL⟩ : ∃ L p, h :: xs = L ++ [p] := by
    rcases List.eq_nil_or_concat (h :: xs) with hnil | ⟨L, p, hL⟩
    · cases hnil
    · exact ⟨L, p, by rw [hL, List.concat_eq_append]⟩
  have hring : h :: (xs ++ [h]) = L ++ p :: [h] := by
    rw [← List.cons_append, hL, List.append_assoc]
    rfl
  rw [Ring, hring, links_append_cons] at hr
  exact ⟨L, p, hL, hr.2.2.1, hr.1⟩

/-! ### Joining two nodes -/

namespace Ptrs

variable [DecidableEq α]

/-- `n` is made the node behind `p`. -/
def join (s : Ptrs α) (p n : α) : Ptrs α where
  next := Function.update s.next p (some n)
  prev := Function.update s.prev n (some p)

/-- The pointers of a node are not to be followed any more. -/
def poison (s : Ptrs α) (a : α) : Ptrs α where
  next := Function.update s.next a none
  prev := Function.update s.prev a none

/-- `INIT_LIST_HEAD`. -/
def init (s : Ptrs α) (a : α) : Ptrs α := s.join a a

/-- `list_del`. -/
def del (s : Ptrs α) (a : α) : Option (Ptrs α) := do
  let p ← s.prev a
  let n ← s.next a
  some ((s.join p n).poison a)

/-- `list_replace_init`. -/
def replaceInit (s : Ptrs α) (old new : α) : Option (Ptrs α) := do
  let n ← s.next old
  let s := s.join new n
  let p ← s.prev old
  let s := s.join p new
  some (s.init old)

/-- `list_add_tail`. -/
def addTail (s : Ptrs α) (new head : α) : Option (Ptrs α) := do
  let p ← s.prev head
  some ((s.join new head).join p new)

/-- `list_empty`. -/
def empty (s : Ptrs α) (head : α) : Bool := s.next head == some head

/-- `list_splice_tail`. -/
def spliceTail (s : Ptrs α) (list head : α) : Option (Ptrs α) :=
  if s.empty list then some s
  else do
    let first ← s.next list
    let last ← s.prev list
    let p ← s.prev head
    some ((s.join p first).join last head)

lemma next_join : (s.join p n).next x = if x = p then some n else s.next x :=
  Function.update_apply ..

lemma prev_join : (s.join p n).prev x = if x = n then some p else s.prev x :=
  Function.update_apply ..

lemma sameAt_join (hp : x ≠ p) (hn : x ≠ n) : SameAt s (s.join p n) x :=
  ⟨by rw [next_join, if_neg hp], by rw [prev_join, if_neg hn]⟩

lemma sameAt_poison (hx : x ≠ a) : SameAt s (s.poison a) x :=
  ⟨Function.update_of_ne hx .., Function.update_of_ne hx ..⟩

end Ptrs

variable [DecidableEq α]

/-- Links that use neither of the two pointers. -/
lemma Links.join_of_notMem (hl : Links s l) (hp : p ∉ l.dropLast) (hn : n ∉ l.tail) :
    Links (s.join p n) l := by
  refine hl.congr (fun x hx => ?_) fun x hx => ?_
  · rw [Ptrs.next_join, if_neg]
    rintro rfl
    exact hp hx
  · rw [Ptrs.prev_join, if_neg]
    rintro rfl
    exact hn hx

/-- Two linked lists become one. -/
lemma Links.join (hl : Links s (l ++ [p])) (hr : Links s (n :: r)) (hp : p ∉ l)
    (hn : n ∉ (l ++ [p]).tail) (hp' : p ∉ (n :: r).dropLast) (hn' : n ∉ r) :
    Links (s.join p n) (l ++ p :: n :: r) := by
  rw [links_append_cons]
  refine ⟨hl.join_of_notMem ?_ hn, ?_, ?_, hr.join_of_notMem hp' hn'⟩
  · rwa [List.dropLast_concat]
  · rw [Ptrs.next_join, if_pos rfl]
  · rw [Ptrs.prev_join, if_pos rfl]

/-- A piece of another list is put between two nodes. -/
lemma Links.insert {L R M M' : List α} {f t : α} (hnd : (h :: (l ++ r)).Nodup)
    (hL : h :: l = L ++ [p]) (hR : r ++ [h] = n :: R) (hleft : Links s (L ++ [p]))
    (hright : Links s (n :: R)) (hmid : Links s ys) (hf : ys = f :: M) (ht : ys = M' ++ [t])
    (hys : ys.Nodup) (hdisj : ∀ x ∈ ys, x ∉ h :: (l ++ r)) :
    Ring ((s.join p f).join t n) h (l ++ ys ++ r) := by
  obtain ⟨hpL, hnL, hpR, hnR⟩ := seam hnd hL hR
  have hmemL {x : α} (hx : x ∈ L ++ [p]) : x ∉ ys := by
    rw [← hL] at hx
    intro hmem
    refine hdisj x hmem ?_
    rw [← List.cons_append]
    exact List.mem_append_left r hx
  have hmemR {x : α} (hx : x ∈ n :: R) : x ∉ ys := by
    rw [← hR] at hx
    intro hmem
    refine hdisj x hmem ?_
    rcases List.mem_append.1 hx with hx | hx
    · exact List.mem_cons_of_mem h (List.mem_append_right l hx)
    · rw [List.mem_singleton.1 hx]
      exact List.mem_cons_self
  have hfys : f ∈ ys := by rw [hf]; exact List.mem_cons_self
  have htys : t ∈ ys := by rw [ht]; exact List.mem_append_right M' List.mem_cons_self
  have hfirst : Links (s.join p f) (L ++ p :: ys) := by
    rw [hf]
    refine hleft.join (by rwa [← hf]) hpL (fun hmem => ?_) (fun hmem => ?_) ?_
    · exact hmemL (List.mem_of_mem_tail hmem) hfys
    · rw [← hf] at hmem
      exact hmemL (List.mem_append_right L List.mem_cons_self) (List.dropLast_subset _ hmem)
    · rw [hf] at hys
      exact (List.nodup_cons.1 hys).1
  have hlast : Links (s.join p f) (n :: R) :=
    hright.join_of_notMem hpR fun hmem => hmemR (List.mem_cons_of_mem n hmem) hfys
  have hlist : L ++ p :: ys = (L ++ p :: M') ++ [t] := by
    rw [ht, List.append_assoc]
    rfl
  rw [hlist] at hfirst
  have hall := hfirst.join hlast (n := n) ?_ ?_ ?_ hnR
  · have hring : h :: (l ++ ys ++ r ++ [h]) = (L ++ p :: M') ++ t :: n :: R := by
      rw [List.append_assoc, hR, List.append_assoc, ← List.cons_append, hL, ht]
      simp only [List.append_assoc, List.cons_append, List.nil_append]
    rw [Ring, hring]
    exact hall
  · rw [List.mem_append, List.mem_cons]
    rintro (hmem | rfl | hmem)
    · exact hmemL (List.mem_append_left _ hmem) htys
    · exact hmemL (List.mem_append_right L List.mem_cons_self) htys
    · rw [ht] at hys
      exact List.disjoint_of_nodup_append hys hmem List.mem_cons_self
  · rw [← hlist]
    intro hmem
    have hsplit : (L ++ p :: ys).tail = (L ++ [p]).tail ++ ys := by
      rw [← hL, List.tail_cons]
      have hcons : L ++ p :: ys = h :: (l ++ ys) := by
        rw [← List.cons_append, hL, List.append_assoc]
        rfl
      rw [hcons, List.tail_cons]
    rw [hsplit] at hmem
    rcases List.mem_append.1 hmem with hmem | hmem
    · exact hnL hmem
    · exact hmemR List.mem_cons_self hmem
  · exact fun hmem => hmemR (List.dropLast_subset _ hmem) htys

/-! ### The operations -/

/-- A node is taken out of its list. -/
theorem Ring.del (hr : Ring s h (l ++ a :: r)) (hnd : (h :: (l ++ a :: r)).Nodup) :
    ∃ s', s.del a = some s' ∧ Ring s' h (l ++ r) ∧
      ∀ x ∉ h :: (l ++ a :: r), SameAt s s' x := by
  obtain ⟨L, p, n, R, hL, hR, hnext, hprev, hleft, hright⟩ := hr.neighbours
  obtain ⟨ha, hrest⟩ := List.nodup_cons.1 (perm_around.nodup_iff.1 hnd)
  obtain ⟨hp, hn, hp', hn'⟩ := seam hrest hL hR
  have hring : h :: (l ++ r ++ [h]) = L ++ p :: n :: R := by
    rw [List.append_assoc, hR, ← List.cons_append, hL, List.append_assoc]
    rfl
  have hmem {x : α} (hx : x ∈ L ++ p :: n :: R) : x ∈ h :: (l ++ r) := by
    rw [← hring, ← List.cons_append, List.mem_append, List.mem_singleton] at hx
    rcases hx with hx | rfl
    · exact hx
    · exact List.mem_cons_self
  refine ⟨(s.join p n).poison a, ?_, ?_, fun x hx => ?_⟩
  · rw [Ptrs.del, hprev, hnext]
    rfl
  · rw [Ring, hring]
    refine (hleft.join hright hp hn hp' hn').congr (fun x hx => ?_) fun x hx => ?_
    · refine (Ptrs.sameAt_poison ?_).1
      rintro rfl
      exact ha (hmem (List.dropLast_subset _ hx))
    · refine (Ptrs.sameAt_poison ?_).2
      rintro rfl
      exact ha (hmem (List.mem_of_mem_tail hx))
  · rw [mem_around, not_or] at hx
    have hpx : x ≠ p := by
      rintro rfl
      exact hx.2 (mem_around_left (left_mem hL))
    have hnx : x ≠ n := by
      rintro rfl
      exact hx.2 (mem_around_right (right_mem hR))
    have hax : x ≠ a := hx.1
    exact (Ptrs.sameAt_join hpx hnx).trans (Ptrs.sameAt_poison hax)

/-- Two nodes are joined before two others. -/
lemma Ptrs.join_comm (hp : p ≠ x) (hn : n ≠ y) : (s.join p n).join x y = (s.join x y).join p n := by
  rw [join, join, join, join]
  exact congrArg₂ Ptrs.mk (Function.update_comm hp ..) (Function.update_comm hn ..)

/-- A node takes the place of another one. -/
theorem Ring.replaceInit (hr : Ring s h (l ++ a :: r)) (hnd : (h :: (l ++ a :: r)).Nodup)
    (hb : b ∉ h :: (l ++ a :: r)) :
    ∃ s', s.replaceInit a b = some s' ∧ Ring s' h (l ++ b :: r) ∧
      ∀ x ∉ h :: (l ++ a :: r), x ≠ b → SameAt s s' x := by
  obtain ⟨L, p, n, R, hL, hR, hnext, hprev, hleft, hright⟩ := hr.neighbours
  obtain ⟨ha, hrest⟩ := List.nodup_cons.1 (perm_around.nodup_iff.1 hnd)
  have hpmem : p ∈ h :: (l ++ r) := mem_around_left (left_mem hL)
  have hnmem : n ∈ h :: (l ++ r) := mem_around_right (right_mem hR)
  rw [mem_around, not_or] at hb
  obtain ⟨hba, hbrest⟩ := hb
  have han : a ≠ n := by
    rintro rfl
    exact ha hnmem
  have hpb : b ≠ p := by
    rintro rfl
    exact hbrest hpmem
  have hnb : n ≠ b := by
    rintro rfl
    exact hbrest hnmem
  have hins : Ring ((s.join p b).join b n) h (l ++ [b] ++ r) := by
    refine Links.insert hrest hL hR hleft hright trivial rfl (show [b] = [] ++ [b] from rfl)
      (List.nodup_singleton b) fun x hx => ?_
    rwa [List.mem_singleton.1 hx]
  refine ⟨((s.join b n).join p b).init a, ?_, ?_, fun x hx hxb => ?_⟩
  · have hprev' : (s.join b n).prev a = some p := by rw [Ptrs.prev_join, if_neg han, hprev]
    rw [Ptrs.replaceInit, hnext]
    show (((s.join b n).prev a).bind fun p => _) = _
    rw [hprev']
    rfl
  · rw [Ptrs.join_comm hpb hnb]
    rw [List.append_assoc] at hins
    have hanew : a ∉ h :: (l ++ b :: r) := by
      rw [mem_around, not_or]
      exact ⟨fun heq => hba heq.symm, ha⟩
    refine hins.congr fun x hx => ?_
    have hxa : x ≠ a := by
      rintro rfl
      exact hanew hx
    exact Ptrs.sameAt_join hxa hxa
  · rw [mem_around, not_or] at hx
    have hxa : x ≠ a := hx.1
    have hxp : x ≠ p := by
      rintro rfl
      exact hx.2 hpmem
    have hxn : x ≠ n := by
      rintro rfl
      exact hx.2 hnmem
    exact ((Ptrs.sameAt_join hxb hxn).trans (Ptrs.sameAt_join hxp hxb)).trans
      (Ptrs.sameAt_join hxa hxa)

/-- A node is put at the end. -/
theorem Ring.addTail (hr : Ring s h xs) (hnd : (h :: xs).Nodup) (hb : b ∉ h :: xs) :
    ∃ s', s.addTail b h = some s' ∧ Ring s' h (xs ++ [b]) ∧
      ∀ x ∉ h :: xs, x ≠ b → SameAt s s' x := by
  obtain ⟨L, p, hL, hprev, hleft⟩ := hr.last
  have hpmem := left_mem hL
  have hpb : b ≠ p := fun heq => hb (heq ▸ hpmem)
  have hhb : h ≠ b := fun heq => hb (heq ▸ List.mem_cons_self)
  have hrest : (h :: (xs ++ [])).Nodup := by rwa [List.append_nil]
  have hins : Ring ((s.join p b).join b h) h (xs ++ [b] ++ []) := by
    refine Links.insert hrest hL (show [] ++ [h] = h :: [] from rfl) hleft trivial trivial rfl
      (show [b] = [] ++ [b] from rfl) (List.nodup_singleton b) fun x hx => ?_
    rwa [List.mem_singleton.1 hx, List.append_nil]
  refine ⟨(s.join b h).join p b, ?_, ?_, fun x hx hxb => ?_⟩
  · rw [Ptrs.addTail, hprev]
    rfl
  · rw [Ptrs.join_comm hpb hhb]
    rwa [List.append_nil] at hins
  · have hxp : x ≠ p := fun heq => hx (heq ▸ hpmem)
    have hxh : x ≠ h := fun heq => hx (heq ▸ List.mem_cons_self)
    exact (Ptrs.sameAt_join hxb hxh).trans (Ptrs.sameAt_join hxp hxb)

/-- Whether a list is empty is seen from its head. -/
lemma Ring.empty_eq (hr : Ring s h xs) (hnd : (h :: xs).Nodup) :
    s.empty h = decide (xs = []) := by
  cases xs with
  | nil =>
      have hnext : s.next h = some h := hr.1
      rw [Ptrs.empty, hnext]
      simp
  | cons x xs =>
      have hnext : s.next h = some x := hr.1
      have hne : x ≠ h := by
        rintro rfl
        exact (List.nodup_cons.1 hnd).1 List.mem_cons_self
      rw [Ptrs.empty, hnext]
      simpa using hne

lemma Ptrs.ring_init (s : Ptrs α) (g : α) : Ring (s.init g) g [] :=
  ⟨by rw [init, next_join, if_pos rfl], by rw [init, prev_join, if_pos rfl], trivial⟩

/-- A list is put at the end of another one, and its head is made the head of an empty list. -/
theorem Ring.spliceTail (hr : Ring s h xs) (hr' : Ring s g ys) (hnd : (h :: xs).Nodup)
    (hnd' : (g :: ys).Nodup) (hdisj : ∀ x ∈ g :: ys, x ∉ h :: xs) (hys : ys ≠ []) :
    ∃ s', s.spliceTail g h = some s' ∧ Ring (s'.init g) h (xs ++ ys) ∧
      Ring (s'.init g) g [] := by
  obtain ⟨L, p, hL, hprev, hleft⟩ := hr.last
  obtain ⟨f, M, hf⟩ := List.exists_cons_of_ne_nil hys
  obtain ⟨M', t, ht⟩ : ∃ M' t, ys = M' ++ [t] := by
    rcases List.eq_nil_or_concat ys with hnil | ⟨M', t, ht⟩
    · exact absurd hnil hys
    · exact ⟨M', t, by rw [ht, List.concat_eq_append]⟩
  have hfirst : s.next g = some f := by
    rw [hf] at hr'
    exact hr'.1
  have hring : g :: (ys ++ [g]) = (g :: M') ++ t :: [g] := by
    rw [ht, List.append_assoc]
    rfl
  have hlinks := hr'
  rw [Ring, hring, links_append_cons] at hlinks
  have hmid : Links s ys := by
    rw [ht]
    rcases M' with _ | ⟨m, M'⟩
    · trivial
    · exact hlinks.1.2.2
  have hempty : s.empty g = false := by
    rw [hr'.empty_eq hnd']
    exact decide_eq_false hys
  have hrest : (h :: (xs ++ [])).Nodup := by rwa [List.append_nil]
  have hins : Ring ((s.join p f).join t h) h (xs ++ ys ++ []) := by
    refine Links.insert hrest hL (R := []) rfl hleft trivial hmid hf ht
      (List.nodup_cons.1 hnd').2 fun x hx => ?_
    rw [List.append_nil]
    exact hdisj x (List.mem_cons_of_mem g hx)
  rw [List.append_nil] at hins
  refine ⟨(s.join p f).join t h, ?_, ?_, Ptrs.ring_init _ g⟩
  · rw [Ptrs.spliceTail, hempty, if_neg (by decide), hfirst, hlinks.2.2.1, hprev]
    rfl
  · have hg : g ∉ h :: (xs ++ ys) := by
      rw [← List.cons_append, List.mem_append, not_or]
      exact ⟨hdisj g List.mem_cons_self, (List.nodup_cons.1 hnd').1⟩
    refine hins.congr fun x hx => Ptrs.sameAt_join ?_ ?_
    all_goals
      rintro rfl
      exact hg hx

/-! ### Loops over a list -/

variable {σ : Type*} (ptrs : σ → Ptrs α) (head : α) (body : σ → α → Option (σ × Bool))

/-- The passes of `list_for_each_safe`, with `pos` and the node that is saved before a pass; the
body says whether the loop is left. -/
def forEachFrom : ℕ → σ → α → α → Option σ
  | 0, _, _, _ => none
  | k + 1, s, pos, n =>
      if pos = head then some s
      else (body s pos).bind fun r =>
        if r.2 then some r.1
        else ((ptrs r.1).next n).bind fun n' => forEachFrom k r.1 n n'

/-- `list_for_each_safe`, with a number of passes that are allowed. -/
def forEachSafe (k : ℕ) (s : σ) : Option σ :=
  ((ptrs s).next head).bind fun pos => ((ptrs s).next pos).bind fun n =>
    forEachFrom ptrs head body k s pos n

variable {ptrs head body} {I : List α → σ → Prop} {Q : σ → Prop} {t : σ} {k : ℕ}

/-- `I` is what holds before a pass, with the nodes that are still to come; these must be linked
whatever a pass does to the node it is at. -/
structure Invariant (ptrs : σ → Ptrs α) (head : α) (body : σ → α → Option (σ × Bool))
    (I : List α → σ → Prop) (Q : σ → Prop) : Prop where
  linked : ∀ rest s, I rest s → Links (ptrs s) (rest ++ [head]) ∧ head ∉ rest ∧
    ((ptrs s).next head).isSome
  step : ∀ x rest s, I (x :: rest) s → (∃ s', body s x = some (s', true) ∧ Q s') ∨
    ∃ s', body s x = some (s', false) ∧ I rest s'
  done : ∀ s, I [] s → Q s

lemma Invariant.forEachFrom (hI : Invariant ptrs head body I Q) (h : I xs t)
    (hk : xs.length < k) {n : α} (hn : xs ≠ [] → n = xs.tail.headD head) :
    ∃ t', forEachFrom ptrs head body k t (xs.headD head) n = some t' ∧ Q t' := by
  induction xs generalizing t k n with
  | nil =>
      obtain ⟨k, rfl⟩ : ∃ m, k = m + 1 := ⟨k - 1, by omega⟩
      exact ⟨t, if_pos rfl, hI.done t h⟩
  | cons x xs ih =>
      obtain ⟨k, rfl⟩ : ∃ m, k = m + 1 := ⟨k - 1, by omega⟩
      obtain ⟨-, hhead, -⟩ := hI.linked _ _ h
      have hx : x ≠ head := by
        rintro rfl
        exact hhead List.mem_cons_self
      have hn' : n = xs.headD head := hn (List.cons_ne_nil x xs)
      rw [ListHead.forEachFrom, List.headD_cons, if_neg hx]
      rcases hI.step x xs t h with ⟨t', hbody, hQ⟩ | ⟨t', hbody, ht'⟩
      · rw [hbody]
        exact ⟨t', rfl, hQ⟩
      · -- the node that was saved is still linked to the one behind it
        obtain ⟨hlinks, -, hsome⟩ := hI.linked _ _ ht'
        obtain ⟨n', hnext, hn''⟩ : ∃ n', (ptrs t').next n = some n' ∧
            (xs ≠ [] → n' = xs.tail.headD head) := by
          rw [hn']
          rcases xs with _ | ⟨y, _ | ⟨z, xs⟩⟩
          · obtain ⟨n', hn'⟩ := Option.isSome_iff_exists.1 hsome
            exact ⟨n', hn', fun hne => absurd rfl hne⟩
          · exact ⟨head, hlinks.1, fun _ => rfl⟩
          · exact ⟨z, hlinks.1, fun _ => rfl⟩
        obtain ⟨t'', hrun, hQ⟩ := ih ht' (by simpa using hk) hn''
        refine ⟨t'', ?_, hQ⟩
        rw [hbody]
        show (((ptrs t').next n).bind fun n' => ListHead.forEachFrom ptrs head body k t' n n') = _
        rw [hnext, Option.bind_some, hn']
        exact hrun

/-- The rule for loops over a list. -/
theorem Invariant.forEachSafe (hI : Invariant ptrs head body I Q) (h : I xs t)
    (hring : Ring (ptrs t) head xs) (hk : xs.length < k) :
    ∃ t', forEachSafe ptrs head body k t = some t' ∧ Q t' := by
  obtain ⟨n, hpos, hnext, hn⟩ : ∃ n, (ptrs t).next head = some (xs.headD head) ∧
      (ptrs t).next (xs.headD head) = some n ∧ (xs ≠ [] → n = xs.tail.headD head) := by
    rcases xs with _ | ⟨y, _ | ⟨z, xs⟩⟩
    · exact ⟨head, hring.1, hring.1, fun hne => absurd rfl hne⟩
    · exact ⟨head, hring.1, hring.2.2.1, fun _ => rfl⟩
    · exact ⟨z, hring.1, hring.2.2.1, fun _ => rfl⟩
  obtain ⟨t', hrun, hQ⟩ := hI.forEachFrom h hk hn
  refine ⟨t', ?_, hQ⟩
  rw [ListHead.forEachSafe, hpos, Option.bind_some, hnext]
  exact hrun

end Lib.ListHead
