import Mathlib.Data.List.Nodup
import Mathlib.Logic.Function.Basic

/-!
# Lists linked through the places that point to their nodes

A node of such a list has the address of the next node and the address of the place where its own
address stands, which is the head of a list or the `next` of the node before.  So a node is taken
out without a search.  `Seg` says that a place begins the list of some nodes; `seg_link` and
`seg_unlink` say what putting a node in front and taking a node out do to it, and `Seg.congr` that
a list depends on nothing else.
-/

namespace Lib.Hlist

variable {ι α : Type*}

/-- A place that may hold the address of a node. -/
inductive Slot (ι α : Type*) where
  | head (i : ι)
  | next (a : α)
deriving DecidableEq

/-- The addresses that make up the lists. -/
structure Links (ι α : Type*) where
  head : ι → Option α
  next : α → Option α
  /-- The place that points to a node. -/
  pprev : α → Option (Slot ι α)

namespace Links

/-- What stands in a place. -/
def get (s : Links ι α) : Slot ι α → Option α
  | .head i => s.head i
  | .next a => s.next a

@[simp] lemma get_head (s : Links ι α) (i : ι) : s.get (.head i) = s.head i := rfl

@[simp] lemma get_next (s : Links ι α) (a : α) : s.get (.next a) = s.next a := rfl

/-- Nothing is linked. -/
def empty : Links ι α := ⟨fun _ => none, fun _ => none, fun _ => none⟩

variable [DecidableEq α]

/-- The place of a node, if there is a node, is noted in it. -/
def setPprev (s : Links ι α) (p : Slot ι α) : Option α → Links ι α
  | none => s
  | some b => { s with pprev := Function.update s.pprev b (some p) }

@[simp] lemma get_setPprev (s : Links ι α) (p q : Slot ι α) (v : Option α) :
    (s.setPprev p v).get q = s.get q := by
  cases v <;> cases q <;> rfl

lemma pprev_setPprev_of_ne {s : Links ι α} {p : Slot ι α} {v : Option α} {a : α}
    (h : v ≠ some a) : (s.setPprev p v).pprev a = s.pprev a := by
  cases v with
  | none => rfl
  | some b => exact Function.update_of_ne (fun hab => h (congrArg some hab.symm)) _ _

@[simp] lemma pprev_setPprev_self (s : Links ι α) (p : Slot ι α) (a : α) :
    (s.setPprev p (some a)).pprev a = some p := Function.update_self _ _ _

variable [DecidableEq ι]

/-- An address is written to a place. -/
def set (s : Links ι α) (v : Option α) : Slot ι α → Links ι α
  | .head i => { s with head := Function.update s.head i v }
  | .next a => { s with next := Function.update s.next a v }

/-- The node `a` is put in front of the list `i`. -/
def link (s : Links ι α) (a : α) (i : ι) : Links ι α :=
  let s := { s with next := Function.update s.next a (s.head i) }
  let s := s.setPprev (.next a) (s.next a)
  let s := s.set (some a) (.head i)
  s.setPprev (.head i) (some a)

/-- The node `a` is taken from the place `p`. -/
def unlink (s : Links ι α) (a : α) (p : Slot ι α) : Links ι α :=
  let s := s.set (s.next a) p
  let s := s.setPprev p (s.next a)
  { s with next := Function.update s.next a none, pprev := Function.update s.pprev a none }

lemma get_set (s : Links ι α) (v : Option α) (p q : Slot ι α) :
    (s.set v p).get q = if q = p then v else s.get q := by
  cases p <;> cases q <;> simp [set, get, Function.update_apply]

@[simp] lemma pprev_set (s : Links ι α) (v : Option α) (p : Slot ι α) :
    (s.set v p).pprev = s.pprev := by
  cases p <;> rfl

end Links

/-! ### Segments -/

/-- From the place `p` on, the nodes of `l` are linked one to the other. -/
def SegTo (s : Links ι α) : Slot ι α → List α → Prop
  | _, [] => True
  | p, a :: l => s.get p = some a ∧ s.pprev a = some p ∧ SegTo s (.next a) l

/-- The place behind the nodes of `l`. -/
def last : Slot ι α → List α → Slot ι α
  | p, [] => p
  | _, a :: l => last (.next a) l

/-- The place `p` begins the list of the nodes `l`. -/
def Seg (s : Links ι α) (p : Slot ι α) (l : List α) : Prop :=
  SegTo s p l ∧ s.get (last p l) = none

variable {s s' : Links ι α} {p q : Slot ι α} {l l' : List α} {a b : α} {i : ι}

lemma segTo_append : SegTo s p (l ++ l') ↔ SegTo s p l ∧ SegTo s (last p l) l' := by
  induction l generalizing p with
  | nil => simp [SegTo, last]
  | cons a l ih => simp only [List.cons_append, SegTo, last, ih, and_assoc]

lemma last_append : last p (l ++ l') = last (last p l) l' := by
  induction l generalizing p with
  | nil => rfl
  | cons a l ih => exact ih

/-- A list is what stands in its places and is noted in its nodes. -/
lemma SegTo.congr (h : SegTo s p l) (hp : l ≠ [] → s'.get p = s.get p)
    (hnext : ∀ a ∈ l.dropLast, s'.next a = s.next a) (hpprev : ∀ a ∈ l, s'.pprev a = s.pprev a) :
    SegTo s' p l := by
  induction l generalizing p with
  | nil => trivial
  | cons a l ih =>
      obtain ⟨hget, hprev, hrest⟩ := h
      refine ⟨(hp (List.cons_ne_nil _ _)).trans hget, (hpprev a (by simp)).trans hprev, ?_⟩
      refine ih hrest (fun hl => hnext a ?_) (fun b hb => hnext b ?_)
        fun b hb => hpprev b (by simp [hb])
      · rw [List.dropLast_cons_of_ne_nil hl]
        exact List.mem_cons_self ..
      · rw [List.dropLast_cons_of_ne_nil (fun hl => by simp [hl] at hb)]
        exact List.mem_cons_of_mem _ hb

lemma Seg.congr (h : Seg s p l) (hp : s'.get p = s.get p) (hnext : ∀ a ∈ l, s'.next a = s.next a)
    (hpprev : ∀ a ∈ l, s'.pprev a = s.pprev a) : Seg s' p l := by
  refine ⟨h.1.congr (fun _ => hp) (fun a ha => hnext a (List.dropLast_subset _ ha)) hpprev, ?_⟩
  rw [← h.2]
  rcases List.eq_nil_or_concat l with rfl | ⟨l, a, rfl⟩
  · exact hp
  · rw [List.concat_eq_append, last_append]
    exact hnext a (by simp)

/-- What stands in the place of a list is its first node. -/
lemma Seg.get_eq (h : Seg s p l) : s.get p = l.head? := by
  cases l with
  | nil => exact h.2
  | cons a l => exact h.1.1

lemma Seg.tail (h : Seg s p (a :: l)) : Seg s (.next a) l := ⟨h.1.2.2, h.2⟩

lemma seg_append : Seg s p (l ++ l') ↔ SegTo s p l ∧ Seg s (last p l) l' := by
  rw [Seg, segTo_append, last_append, and_assoc]
  rfl

/-- The place that is noted in a node. -/
lemma Seg.pprev_eq (h : Seg s p (l ++ a :: l')) : s.pprev a = some (last p l) :=
  (seg_append.1 h).2.1.2.1

/-- The next node. -/
lemma Seg.next_eq (h : Seg s p (l ++ a :: l')) : s.next a = l'.head? :=
  (seg_append.1 h).2.tail.get_eq

/-- The place of a node in the list of `i`. -/
lemma last_head (i : ι) (l : List α) :
    l = [] ∧ last (.head i) l = Slot.head i ∨ ∃ b ∈ l, last (.head i) l = Slot.next b := by
  rcases List.eq_nil_or_concat l with rfl | ⟨l, b, rfl⟩
  · exact .inl ⟨rfl, rfl⟩
  · rw [List.concat_eq_append, last_append]
    exact .inr ⟨b, by simp, rfl⟩

/-! ### Putting in and taking out -/

variable [DecidableEq ι] [DecidableEq α]

lemma get_link : (s.link a i).get q =
    if q = .head i then some a else if q = .next a then s.head i else s.get q := by
  rw [Links.link]
  simp only [Links.get_setPprev, Links.get_set]
  cases q <;> simp [Function.update_apply]

lemma pprev_link : (s.link a i).pprev b =
    if b = a then some (.head i) else if s.head i = some b then some (.next a) else s.pprev b := by
  simp only [Links.link, Function.update_self]
  by_cases hb : b = a
  · subst hb
    rw [Links.pprev_setPprev_self, if_pos rfl]
  · rw [Links.pprev_setPprev_of_ne (fun h => hb (Option.some.inj h).symm), Links.pprev_set,
      if_neg hb]
    by_cases hi : s.head i = some b
    · rw [hi, Links.pprev_setPprev_self, if_pos rfl]
    · rw [Links.pprev_setPprev_of_ne hi, if_neg hi]

lemma next_set_self (s : Links ι α) (a : α) (p : Slot ι α) :
    (s.set (s.next a) p).next a = s.next a := by
  have h := Links.get_set s (s.next a) p (.next a)
  rwa [Links.get_next, Links.get_next, ite_self] at h

lemma get_unlink : (s.unlink a p).get q =
    if q = .next a then none else if q = p then s.next a else s.get q := by
  have h : (((s.set (s.next a) p).setPprev p (s.next a)).get q) =
      if q = p then s.next a else s.get q := by
    rw [Links.get_setPprev, Links.get_set]
  simp only [Links.unlink, next_set_self]
  cases q with
  | head i => exact h
  | next b =>
      by_cases hb : b = a
      · subst hb
        simp
      · rw [if_neg (by simpa using hb), ← h]
        exact Function.update_of_ne hb _ _

lemma pprev_unlink : (s.unlink a p).pprev b =
    if b = a then none else if s.next a = some b then some p else s.pprev b := by
  simp only [Links.unlink, next_set_self]
  by_cases hb : b = a
  · subst hb
    rw [Function.update_self, if_pos rfl]
  · rw [Function.update_of_ne hb, if_neg hb]
    by_cases hn : s.next a = some b
    · rw [hn, Links.pprev_setPprev_self, if_pos rfl]
    · rw [Links.pprev_setPprev_of_ne hn, Links.pprev_set, if_neg hn]

/-- A new node comes in front. -/
theorem Seg.link (h : Seg s (.head i) l) (ha : a ∉ l) (hl : l.Nodup) :
    Seg (s.link a i) (.head i) (a :: l) := by
  have hrest : Seg (s.link a i) (.next a) l := by
    have hget : (s.link a i).get (.next a) = s.head i := by
      rw [get_link, if_neg (by simp), if_pos rfl]
    cases l with
    | nil => exact ⟨trivial, hget.trans h.2⟩
    | cons b l =>
        have hb : b ≠ a := fun hba => ha (hba ▸ List.mem_cons_self ..)
        have hhead : s.head i = some b := h.get_eq
        have hpprev : (s.link a i).pprev b = some (.next a) := by
          rw [pprev_link, if_neg hb, if_pos hhead]
        obtain ⟨hnot, -⟩ := List.nodup_cons.1 hl
        have htail : Seg (s.link a i) (.next b) l := by
          refine h.tail.congr ?_ (fun c hc => ?_) fun c hc => ?_
          · rw [get_link, if_neg (by simp), if_neg (by simpa using hb)]
          · have hca : c ≠ a := fun hca => ha (hca ▸ List.mem_cons_of_mem _ hc)
            rw [← Links.get_next, get_link, if_neg (by simp), if_neg (by simpa using hca)]
            rfl
          · have hca : c ≠ a := fun hca => ha (hca ▸ List.mem_cons_of_mem _ hc)
            have hcb : some b ≠ some c := fun hbc => hnot (Option.some.inj hbc ▸ hc)
            rw [pprev_link, if_neg hca, hhead, if_neg hcb]
        exact ⟨⟨hget.trans hhead, hpprev, htail.1⟩, htail.2⟩
  refine ⟨⟨?_, ?_, hrest.1⟩, hrest.2⟩
  · rw [get_link, if_pos rfl]
  · rw [pprev_link, if_pos rfl]

/-- Another list stays as it is when a node is put in. -/
theorem Seg.link_of_ne {j : ι} (h : Seg s (.head j) l) (hj : j ≠ i) (ha : a ∉ l)
    (hhead : ∀ b, s.head i = some b → b ∉ l) : Seg (s.link a i) (.head j) l := by
  refine h.congr ?_ (fun c hc => ?_) fun c hc => ?_
  · rw [get_link, if_neg (by simpa using hj), if_neg (by simp)]
  · have hca : c ≠ a := fun hca => ha (hca ▸ hc)
    rw [← Links.get_next, get_link, if_neg (by simp), if_neg (by simpa using hca)]
    rfl
  · have hca : c ≠ a := fun hca => ha (hca ▸ hc)
    rw [pprev_link, if_neg hca, if_neg fun hi => hhead c hi hc]

/-- A node is taken out. -/
theorem Seg.unlink (h : Seg s (.head i) (l ++ a :: l')) (hl : (l ++ a :: l').Nodup) :
    Seg (s.unlink a (last (.head i) l)) (.head i) (l ++ l') := by
  have hnext := h.next_eq
  obtain ⟨hleft, hright⟩ := seg_append.1 h
  have hdisj := List.disjoint_of_nodup_append hl
  have hlnodup := hl.of_append_left
  obtain ⟨hal', hl'nodup⟩ := List.nodup_cons.1 hl.of_append_right
  have hal : a ∉ l := fun hmem => hdisj hmem (List.mem_cons_self ..)
  have hq : last (.head i) l ≠ Slot.next a := by
    rcases last_head i l with ⟨-, hlast⟩ | ⟨b, hb, hlast⟩
    · simp [hlast]
    · rw [hlast]
      rintro hba
      exact hal (Slot.next.inj hba ▸ hb)
  refine seg_append.2 ⟨hleft.congr ?_ ?_ ?_, ?_⟩
  · intro hne
    rcases last_head i l with ⟨hnil, -⟩ | ⟨b, hb, hlast⟩
    · exact absurd hnil hne
    · rw [get_unlink, if_neg (by simp), if_neg (by simp [hlast])]
  · intro c hc
    have hca : c ≠ a := fun hca => hal (hca ▸ List.dropLast_subset _ hc)
    have hcq : Slot.next c ≠ last (.head i) l := by
      rcases List.eq_nil_or_concat l with rfl | ⟨m, b, rfl⟩
      · simp at hc
      · rw [List.concat_eq_append] at hc hlnodup ⊢
        rw [last_append]
        rintro hcb
        rw [List.dropLast_concat] at hc
        exact List.disjoint_of_nodup_append hlnodup hc (by simp [Slot.next.inj hcb])
    rw [← Links.get_next, get_unlink, if_neg (by simpa using hca), if_neg hcq]
    rfl
  · intro c hc
    have hca : c ≠ a := fun hca => hal (hca ▸ hc)
    have hcn : s.next a ≠ some c := by
      rintro hcn
      rw [hnext] at hcn
      exact hdisj hc (List.mem_cons_of_mem _ (List.mem_of_head? hcn))
    rw [pprev_unlink, if_neg hca, if_neg hcn]
  · have hget : (s.unlink a (last (.head i) l)).get (last (.head i) l) = s.next a := by
      rw [get_unlink, if_neg hq, if_pos rfl]
    cases l' with
    | nil => exact ⟨trivial, hget.trans hnext⟩
    | cons b l' =>
        have hba : b ≠ a := fun hba => hal' (hba ▸ List.mem_cons_self ..)
        have hbnext : s.next a = some b := hnext
        obtain ⟨hbl', -⟩ := List.nodup_cons.1 hl'nodup
        -- the place before the node is none of those behind it
        have hplace : ∀ c ∈ b :: l', Slot.next c ≠ last (.head i) l := by
          rintro c hc hlast
          rcases last_head i l with ⟨-, hq'⟩ | ⟨d, hd, hq'⟩
          · rw [hq'] at hlast
            exact absurd hlast (by simp)
          · rw [hq'] at hlast
            exact hdisj (Slot.next.inj hlast ▸ hd) (List.mem_cons_of_mem _ hc)
        have hsame : ∀ c ∈ b :: l',
            (s.unlink a (last (.head i) l)).get (.next c) = s.get (.next c) := by
          intro c hc
          have hca : c ≠ a := fun hca => hal' (hca ▸ hc)
          rw [get_unlink, if_neg (by simpa using hca), if_neg (hplace c hc)]
        have htail : Seg (s.unlink a (last (.head i) l)) (.next b) l' := by
          refine hright.tail.tail.congr (hsame b (List.mem_cons_self ..))
            (fun c hc => hsame c (List.mem_cons_of_mem _ hc)) fun c hc => ?_
          have hca : c ≠ a := fun hca => hal' (hca ▸ List.mem_cons_of_mem _ hc)
          have hcb : some b ≠ some c := fun hbc => hbl' (Option.some.inj hbc ▸ hc)
          rw [pprev_unlink, if_neg hca, hbnext, if_neg hcb]
        refine ⟨⟨hget.trans hbnext, ?_, htail.1⟩, htail.2⟩
        rw [pprev_unlink, if_neg hba, if_pos hbnext]

/-- Another list stays as it is when a node is taken out. -/
theorem Seg.unlink_of_disjoint {j : ι} {m : List α} (h : Seg s (.head j) m)
    (hs : Seg s (.head i) (l ++ a :: l')) (hj : j ≠ i) (hdisj : List.Disjoint (l ++ a :: l') m) :
    Seg (s.unlink a (last (.head i) l)) (.head j) m := by
  have ham : a ∉ m := fun hmem => hdisj (by simp) hmem
  refine h.congr ?_ (fun c hc => ?_) fun c hc => ?_
  · rw [get_unlink, if_neg (by simp), if_neg ?_]
    rcases last_head i l with ⟨-, hlast⟩ | ⟨b, -, hlast⟩
    · simpa [hlast] using hj
    · simp [hlast]
  · have hca : c ≠ a := fun hca => ham (hca ▸ hc)
    rw [← Links.get_next, get_unlink, if_neg (by simpa using hca), if_neg ?_]
    · rfl
    rcases last_head i l with ⟨-, hlast⟩ | ⟨b, hb, hlast⟩
    · simp [hlast]
    · rw [hlast]
      rintro hcb
      exact hdisj (List.mem_append_left _ (Slot.next.inj hcb ▸ hb)) hc
  · have hca : c ≠ a := fun hca => ham (hca ▸ hc)
    have hcn : s.next a ≠ some c := by
      rintro hcn
      rw [hs.next_eq] at hcn
      exact hdisj (List.mem_append_right _ (List.mem_cons_of_mem _ (List.mem_of_head? hcn))) hc
    rw [pprev_unlink, if_neg hca, if_neg hcn]

/-! ### Tables of lists -/

/-- The lists of a table: each node is in one of them, once. -/
structure Chains (s : Links ι α) (c : ι → List α) : Prop where
  seg : ∀ i, Seg s (.head i) (c i)
  nodup : ∀ i, (c i).Nodup
  disjoint : ∀ i j, i ≠ j → (c i).Disjoint (c j)

variable {c : ι → List α}

omit [DecidableEq ι] [DecidableEq α] in
lemma chains_empty : Chains (Links.empty : Links ι α) fun _ => [] where
  seg _ := ⟨trivial, rfl⟩
  nodup _ := List.nodup_nil
  disjoint _ _ _ := List.disjoint_nil_left _

theorem Chains.link (h : Chains s c) (ha : ∀ j, a ∉ c j) (i : ι) :
    Chains (s.link a i) (Function.update c i (a :: c i)) where
  seg j := by
    by_cases hj : j = i
    · subst hj
      rw [Function.update_self]
      exact (h.seg j).link (ha j) (h.nodup j)
    · rw [Function.update_of_ne hj]
      refine (h.seg j).link_of_ne hj (ha j) fun b hb hmem => ?_
      have hi : (c i).head? = some b := (h.seg i).get_eq.symm.trans hb
      exact h.disjoint j i hj hmem (List.mem_of_head? hi)
  nodup j := by
    by_cases hj : j = i
    · subst hj
      rw [Function.update_self]
      exact List.nodup_cons.2 ⟨ha j, h.nodup j⟩
    · rw [Function.update_of_ne hj]
      exact h.nodup j
  disjoint j k hjk := by
    by_cases hj : j = i
    · subst hj
      rw [Function.update_self, Function.update_of_ne hjk.symm, List.disjoint_cons_left]
      exact ⟨ha k, h.disjoint j k hjk⟩
    · rw [Function.update_of_ne hj]
      by_cases hk : k = i
      · subst hk
        rw [Function.update_self, List.disjoint_cons_right]
        exact ⟨ha j, h.disjoint j k hjk⟩
      · rw [Function.update_of_ne hk]
        exact h.disjoint j k hjk

theorem Chains.unlink (h : Chains s c) (hc : c i = l ++ a :: l') :
    Chains (s.unlink a (last (.head i) l)) (Function.update c i (l ++ l')) := by
  have hsub : (l ++ l').Sublist (c i) := by
    rw [hc]
    exact (List.sublist_cons_self a l').append_left l
  refine ⟨fun j => ?_, fun j => ?_, fun j k hjk => ?_⟩
  · by_cases hj : j = i
    · subst hj
      rw [Function.update_self]
      exact (hc ▸ h.seg j).unlink (hc ▸ h.nodup j)
    · rw [Function.update_of_ne hj]
      exact (h.seg j).unlink_of_disjoint (hc ▸ h.seg i) hj (hc ▸ h.disjoint i j (Ne.symm hj))
  · by_cases hj : j = i
    · subst hj
      rw [Function.update_self]
      exact (h.nodup j).sublist hsub
    · rw [Function.update_of_ne hj]
      exact h.nodup j
  · by_cases hj : j = i
    · subst hj
      rw [Function.update_self, Function.update_of_ne hjk.symm]
      exact List.disjoint_of_subset_left hsub.subset (h.disjoint j k hjk)
    · rw [Function.update_of_ne hj]
      by_cases hk : k = i
      · subst hk
        rw [Function.update_self]
        exact List.disjoint_of_subset_right hsub.subset (h.disjoint j k hjk)
      · rw [Function.update_of_ne hk]
        exact h.disjoint j k hjk

omit [DecidableEq α] in
/-- What is left in the lists. -/
lemma Chains.mem_unlink (h : Chains s c) (hc : c i = l ++ a :: l') (j : ι) (b : α) :
    b ∈ Function.update c i (l ++ l') j ↔ b ∈ c j ∧ b ≠ a := by
  have hnodup := h.nodup i
  rw [hc] at hnodup
  have hnot : a ∉ l ++ l' := (List.nodup_cons.1 (List.nodup_middle.1 hnodup)).1
  by_cases hj : j = i
  · subst hj
    rw [Function.update_self, hc]
    constructor
    · intro hb
      refine ⟨((List.sublist_cons_self a l').append_left l).subset hb, ?_⟩
      rintro rfl
      exact hnot hb
    · rintro ⟨hb, hba⟩
      simpa [hba] using hb
  · rw [Function.update_of_ne hj]
    refine ⟨fun hb => ⟨hb, ?_⟩, And.left⟩
    rintro rfl
    exact h.disjoint j i hj hb (by simp [hc])

/-- The node that is come to from the head of a list by so many steps. -/
def nth (s : Links ι α) (i : ι) : ℕ → Option α
  | 0 => s.head i
  | n + 1 => (nth s i n).bind s.next

omit [DecidableEq ι] [DecidableEq α] in
lemma Chains.nth_eq (h : Chains s c) (i : ι) (n : ℕ) : nth s i n = (c i)[n]? := by
  induction n with
  | zero => exact (h.seg i).get_eq.trans List.head?_eq_getElem?
  | succ n ih =>
      rw [nth, ih]
      rcases Nat.lt_or_ge n (c i).length with hn | hn
      · have hsplit : c i = (c i).take n ++ (c i)[n] :: (c i).drop (n + 1) := by
          rw [← List.drop_eq_getElem_cons hn, List.take_append_drop]
        have hseg := h.seg i
        rw [hsplit] at hseg
        rw [List.getElem?_eq_getElem hn, Option.bind_some, hseg.next_eq, List.head?_drop]
      · rw [List.getElem?_eq_none hn, List.getElem?_eq_none (by omega)]
        rfl

omit [DecidableEq ι] [DecidableEq α] in
/-- A node is come to in one way only. -/
theorem Chains.existsUnique (h : Chains s c) (ha : a ∈ c i) :
    ∃! p : ι × ℕ, nth s p.1 p.2 = some a := by
  obtain ⟨n, hn⟩ := List.getElem?_of_mem ha
  refine ⟨(i, n), (h.nth_eq i n).trans hn, ?_⟩
  rintro ⟨j, m⟩ hm
  have hm : (c j)[m]? = some a := (h.nth_eq j m).symm.trans hm
  have hj : j = i := by
    by_contra hj
    exact h.disjoint j i hj (List.mem_of_getElem? hm) ha
  subst hj
  obtain ⟨hmlt, hma⟩ := List.getElem?_eq_some_iff.1 hm
  obtain ⟨hnlt, hna⟩ := List.getElem?_eq_some_iff.1 hn
  rw [(h.nodup j).getElem_inj_iff.1 (hma.trans hna.symm)]

end Lib.Hlist
