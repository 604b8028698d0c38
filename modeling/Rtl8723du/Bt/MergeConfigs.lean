import Rtl8723du.Bt.Config
import Rtl8723du.Lib.ListHead

/-!
# Merging configuration lists

`merge_configs` of `rtk_misc.c`: the extra items of one list are merged into another one.  Both are
circular lists; while it walks along them the function takes nodes out, puts them in the place of
others and frees them.
-/

namespace Rtl8723du.BtConfig

open Lib Lib.ListHead

/-! ### The code -/

variable {α : Type}

/-- The nodes: their pointers, the items that they are the heads of, and what has been freed. -/
structure CfgHeap (α : Type) where
  ptrs : Ptrs α
  item : α → Option CfgItem
  freed : List α

/-- An item with the first bytes of its data replaced. -/
def CfgItem.overlay (n extra : CfgItem) : CfgItem where
  offset := n.offset
  data := extra.data ++ n.data.drop extra.data.length
  short := by
    have hn := n.short
    have hextra := extra.short
    rw [List.length_append, List.length_drop]
    omega

namespace CfgHeap

variable [DecidableEq α]

/-- An operation on the pointers. -/
def relink (s : CfgHeap α) (f : Ptrs α → Option (Ptrs α)) : Option (CfgHeap α) :=
  (f s.ptrs).map fun ptrs => { s with ptrs }

/-- `kfree`. -/
def kfree (s : CfgHeap α) (a : α) : CfgHeap α where
  ptrs := s.ptrs.poison a
  item := Function.update s.item a none
  freed := s.freed ++ [a]

/-- The body of the inner loop. -/
def mergeOne (epos : α) (s : CfgHeap α) (pos : α) : Option (CfgHeap α × Bool) := do
  let extra ← s.item epos
  let n ← s.item pos
  if extra.offset = n.offset then
    if extra.data.length < n.data.length then
      let s := { s with item := Function.update s.item pos (some (n.overlay extra)) }
      let s ← s.relink fun ptrs => ptrs.del epos
      some (s.kfree epos, true)
    else
      let s ← s.relink fun ptrs => ptrs.del epos
      let s ← s.relink fun ptrs => ptrs.replaceInit pos epos
      some (s.kfree pos, false)
  else some (s, false)

/-- The body of the outer loop; `k` bounds the passes of the inner one. -/
def mergeExtra (k : ℕ) (head : α) (s : CfgHeap α) (epos : α) : Option (CfgHeap α × Bool) :=
  (forEachSafe ptrs head (mergeOne epos) k s).map fun s => (s, false)

/-- The body of the last loop. -/
def addExtra (head : α) (s : CfgHeap α) (epos : α) : Option (CfgHeap α × Bool) := do
  let s ← s.relink fun ptrs => ptrs.del epos
  let s ← s.relink fun ptrs => ptrs.addTail epos head
  some (s, false)

/-- `merge_configs`; `k` bounds the passes of each loop. -/
def mergeConfigs (k : ℕ) (head head2 : α) (s : CfgHeap α) : Option (CfgHeap α) :=
  if s.ptrs.empty head2 then some s
  else if s.ptrs.empty head then
    (s.relink fun ptrs => ptrs.spliceTail head2 head).map fun s =>
      { s with ptrs := s.ptrs.init head2 }
  else do
    let s ← forEachSafe ptrs head2 (mergeExtra k head) k s
    if s.ptrs.empty head2 then some s
    else forEachSafe ptrs head2 (addExtra head) k s

end CfgHeap

/-! ### What it is for -/

/-- The two lists with their nodes and items; each node of `all` is in one of them once or has been
freed once. -/
structure Holds (s : CfgHeap α) (head head2 : α) (all : List α) (base extras : List (α × CfgItem)) :
    Prop where
  ring : Ring s.ptrs head (base.map Prod.fst)
  ring2 : Ring s.ptrs head2 (extras.map Prod.fst)
  items : ∀ x ∈ base ++ extras, s.item x.1 = some x.2
  perm : (base.map Prod.fst ++ extras.map Prod.fst ++ s.freed).Perm all

/-- The data that an item of an offset is to have. -/
def mergedData (base extras : List CfgItem) (offset : UInt16) : List UInt8 :=
  (extras.filter fun e => e.offset = offset).foldl (fun d e => e.data ++ d.drop e.data.length)
    (((base.find? fun b => b.offset = offset).map CfgItem.data).getD [])

/-- What the merged list is to be. -/
structure Merged (base extras res : List CfgItem) : Prop where
  /-- One item for each offset. -/
  once : (res.map CfgItem.offset).Nodup
  offsets : ∀ o, o ∈ res.map CfgItem.offset ↔
    o ∈ base.map CfgItem.offset ∨ o ∈ extras.map CfgItem.offset
  /-- The items of the base list are in their order. -/
  order : (base.map CfgItem.offset).Sublist (res.map CfgItem.offset)
  data : ∀ x ∈ res, x.data = mergedData base extras x.offset

/-- The offsets of items. -/
def offsets (xs : List (α × CfgItem)) : List UInt16 := xs.map fun x => x.2.offset

/-! ### Nodes and items -/

variable {s s' : CfgHeap α} {head head2 : α} {all : List α}
  {base extras pre post done rest : List (α × CfgItem)} {a : α} {b e : CfgItem}
  {x y : α × CfgItem}

/-- What an extra item makes of an item, with its node. -/
def put (e x : α × CfgItem) : α × CfgItem :=
  if e.2.offset = x.2.offset then
    (if e.2.data.length < x.2.data.length then x.1 else e.1, x.2.overlay e.2)
  else x

lemma put_of_ne (h : y.2.offset ≠ x.2.offset) : put y x = x := if_neg h

lemma map_put_of_ne (h : ∀ x ∈ base, x.2.offset ≠ y.2.offset) : base.map (put y) = base := by
  conv_rhs => rw [← List.map_id base]
  exact List.map_congr_left fun x hx => put_of_ne (h x hx).symm

@[simp] lemma offset_put : (put y x).2.offset = x.2.offset := by
  rw [put]
  split <;> rfl

/-- An item that is as long takes the place with its own data. -/
lemma overlay_of_le (hoffset : e.offset = b.offset) (h : b.data.length ≤ e.data.length) :
    b.overlay e = e := by
  rcases b with ⟨offset, d, hd⟩
  rcases e with ⟨offset', d', hd'⟩
  obtain rfl : offset' = offset := hoffset
  have hdrop : d.drop d'.length = [] := List.drop_eq_nil_of_le h
  simp only [CfgItem.overlay, hdrop, List.append_nil]

/-- The nodes of the two lists, with their heads, are different. -/
lemma Holds.nodup (h : Holds s head head2 all base extras) (hall : (head :: head2 :: all).Nodup) :
    ((head :: base.map Prod.fst) ++ ((head2 :: extras.map Prod.fst) ++ s.freed)).Nodup := by
  have hperm : ((head :: base.map Prod.fst) ++ ((head2 :: extras.map Prod.fst) ++ s.freed)).Perm
      (head :: head2 :: all) := by
    rw [List.cons_append, List.cons_append]
    refine (List.perm_middle.trans (List.Perm.cons head2 ?_)).cons head
    rw [← List.append_assoc]
    exact h.perm
  exact hperm.nodup_iff.2 hall

/-- The lists with their heads, apart. -/
lemma Holds.apart (h : Holds s head head2 all base extras) (hall : (head :: head2 :: all).Nodup) :
    (head :: base.map Prod.fst).Nodup ∧ (head2 :: extras.map Prod.fst).Nodup ∧
      ∀ x ∈ head :: base.map Prod.fst, x ∉ head2 :: extras.map Prod.fst := by
  have hnd := h.nodup hall
  have hdisj := List.disjoint_of_nodup_append hnd
  exact ⟨hnd.of_append_left, hnd.of_append_right.of_append_left,
    fun x hx hx' => hdisj hx (List.mem_append_left _ hx')⟩

lemma Holds.congr {rest' : List (α × CfgItem)} (h : Holds s head head2 all base extras)
    (hring : Ring s'.ptrs head (rest.map Prod.fst))
    (hring2 : Ring s'.ptrs head2 (rest'.map Prod.fst))
    (hitems : ∀ x ∈ rest ++ rest', s'.item x.1 = some x.2)
    (hperm : (rest.map Prod.fst ++ rest'.map Prod.fst ++ s'.freed).Perm
      (base.map Prod.fst ++ extras.map Prod.fst ++ s.freed)) :
    Holds s' head head2 all rest rest' :=
  ⟨hring, hring2, hitems, hperm.trans h.perm⟩

/-- The node of an item, that of an extra one, and the others. -/
lemma Holds.ne_nodes (h : Holds s head head2 all (done ++ x :: rest) (pre ++ y :: post))
    (hall : (head :: head2 :: all).Nodup) :
    y.1 ≠ x.1 ∧ (∀ z ∈ head :: (done ++ rest).map Prod.fst, z ≠ x.1 ∧ z ≠ y.1) ∧
      ∀ z ∈ head2 :: (pre ++ post).map Prod.fst, z ≠ x.1 ∧ z ≠ y.1 := by
  obtain ⟨hbase, hextras, hdisj⟩ := h.apart hall
  simp only [List.map_append, List.map_cons] at hbase hextras hdisj ⊢
  rw [← List.cons_append, List.nodup_middle, List.nodup_cons] at hbase hextras
  have hx := hdisj x.1 (List.mem_cons_of_mem _ (List.mem_append_right _ List.mem_cons_self))
  refine ⟨?_, fun z hz => ⟨?_, ?_⟩, fun z hz => ⟨?_, ?_⟩⟩
  · intro heq
    exact hx (heq ▸ List.mem_cons_of_mem _ (List.mem_append_right _ List.mem_cons_self))
  · rintro rfl
    exact hbase.1 hz
  · rintro rfl
    refine hdisj y.1 ?_ (List.mem_cons_of_mem _ (List.mem_append_right _ List.mem_cons_self))
    simp only [List.mem_cons, List.mem_append] at hz ⊢
    tauto
  · rintro rfl
    simp only [List.mem_cons, List.mem_append] at hz hx
    tauto
  · rintro rfl
    exact hextras.1 hz

/-- The items of other nodes are not touched. -/
lemma Holds.items_of_ne (h : Holds s head head2 all (done ++ x :: rest) (pre ++ y :: post))
    (hall : (head :: head2 :: all).Nodup) {item : α → Option CfgItem} {z : α × CfgItem}
    (hz : item z.1 = some z.2) (hitem : ∀ a, a ≠ x.1 → a ≠ y.1 → item a = s.item a) :
    ∀ w ∈ done ++ z :: rest ++ (pre ++ post), item w.1 = some w.2 := by
  obtain ⟨-, hbase, hextras⟩ := h.ne_nodes hall
  intro w hw
  have hcases : w = z ∨ w ∈ done ++ rest ∨ w ∈ pre ++ post := by
    simp only [List.mem_append, List.mem_cons] at hw ⊢
    tauto
  have hmem (hw' : w ∈ done ++ rest ∨ w ∈ pre ++ post) :
      w ∈ done ++ x :: rest ++ (pre ++ y :: post) := by
    simp only [List.mem_append, List.mem_cons] at hw' ⊢
    tauto
  rcases hcases with rfl | hw' | hw'
  · exact hz
  · obtain ⟨hx, hy⟩ := hbase w.1 (List.mem_cons_of_mem _ (List.mem_map_of_mem hw'))
    rw [hitem _ hx hy, h.items w (hmem (.inl hw'))]
  · obtain ⟨hx, hy⟩ := hextras w.1 (List.mem_cons_of_mem _ (List.mem_map_of_mem hw'))
    rw [hitem _ hx hy, h.items w (hmem (.inr hw'))]

/-- The nodes that are still to come are linked up to the head. -/
lemma Holds.linked (h : Holds s head head2 all (done ++ rest) extras)
    (hall : (head :: head2 :: all).Nodup) :
    Links s.ptrs (rest.map Prod.fst ++ [head]) ∧ head ∉ rest.map Prod.fst ∧
      (s.ptrs.next head).isSome := by
  have hring := h.ring
  have hnd := (h.apart hall).1
  rw [List.map_append] at hring hnd
  exact hring.rest hnd

/-- The same for the extra items. -/
lemma Holds.linked2 (h : Holds s head head2 all base (pre ++ rest))
    (hall : (head :: head2 :: all).Nodup) :
    Links s.ptrs (rest.map Prod.fst ++ [head2]) ∧ head2 ∉ rest.map Prod.fst ∧
      (s.ptrs.next head2).isSome := by
  have hring := h.ring2
  have hnd := (h.apart hall).2.1
  rw [List.map_append] at hring hnd
  exact hring.rest hnd

/-! ### Lists of items -/

/-- The items after some extra ones. -/
def putAll (base extras : List (α × CfgItem)) : List (α × CfgItem) :=
  extras.foldl (fun xs y => xs.map (put y)) base

/-- The extra items whose offset is not in the base list. -/
def fresh (base extras : List (α × CfgItem)) : List (α × CfgItem) :=
  extras.filter fun y => y.2.offset ∉ offsets base

@[simp] lemma offsets_map_put : offsets (base.map (put y)) = offsets base := by
  rw [offsets, List.map_map]
  exact List.map_congr_left fun x _ => offset_put

@[simp] lemma offsets_putAll : offsets (putAll base extras) = offsets base := by
  induction extras generalizing base with
  | nil => rfl
  | cons y extras ih => exact ih.trans offsets_map_put

lemma length_putAll : (putAll base extras).length = base.length := by
  have hoffsets : offsets (putAll base extras) = offsets base := offsets_putAll
  have hlen := congrArg List.length hoffsets
  rwa [offsets, offsets, List.length_map, List.length_map] at hlen

lemma putAll_append_singleton : putAll base (extras ++ [y]) = (putAll base extras).map (put y) := by
  rw [putAll, List.foldl_append]
  rfl

/-- The lists that are held are known from the nodes. -/
lemma Holds.unique {res res' : List (α × CfgItem)} (h : Holds s head head2 all res extras)
    (h' : Holds s head head2 all res' extras) (hall : (head :: head2 :: all).Nodup) :
    res = res' := by
  have hnd := (List.nodup_cons.1 (h.apart hall).1).1
  have hnd' := (List.nodup_cons.1 (h'.apart hall).1).1
  have hmap := Links.unique h.ring h'.ring hnd hnd'
  have hitems : ∀ xs : List (α × CfgItem), (∀ x ∈ xs, s.item x.1 = some x.2) →
      xs.map (fun x => (x.1, s.item x.1)) = xs.map fun x => (x.1, some x.2) := fun xs hxs =>
    List.map_congr_left fun x hx => by rw [hxs x hx]
  have heq : res.map (fun x => (x.1, some x.2)) = res'.map fun x => (x.1, some x.2) := by
    rw [← hitems res fun x hx => h.items x (List.mem_append_left _ hx),
      ← hitems res' fun x hx => h'.items x (List.mem_append_left _ hx)]
    have hcomp (xs : List (α × CfgItem)) : xs.map (fun x => (x.1, s.item x.1)) =
        (xs.map Prod.fst).map fun a => (a, s.item a) := by
      rw [List.map_map]
      rfl
    rw [hcomp, hcomp, hmap]
  refine List.map_injective_iff.2 (fun x y hxy => ?_) heq
  obtain ⟨hfst, hsnd⟩ := Prod.mk.inj hxy
  exact Prod.ext hfst (Option.some.inj hsnd)

/-! ### What the lists become -/

lemma data_put : (put y x).2.data =
    if y.2.offset = x.2.offset then y.2.data ++ x.2.data.drop y.2.data.length else x.2.data := by
  rw [put]
  split <;> rfl

/-- The data of an item after some extra ones. -/
lemma exists_of_mem_putAll (hx : x ∈ putAll base extras) :
    ∃ b ∈ base, b.2.offset = x.2.offset ∧
      x.2.data = ((extras.map Prod.snd).filter fun e => e.offset = x.2.offset).foldl
        (fun d e => e.data ++ d.drop e.data.length) b.2.data := by
  induction extras generalizing base with
  | nil => exact ⟨x, hx, rfl, rfl⟩
  | cons y extras ih =>
      obtain ⟨b', hb', hoffset, hdata⟩ := ih (show x ∈ putAll (base.map (put y)) extras from hx)
      obtain ⟨b, hb, rfl⟩ := List.mem_map.1 hb'
      rw [offset_put] at hoffset
      refine ⟨b, hb, hoffset, ?_⟩
      rw [hdata, data_put, List.map_cons, List.filter_cons, hoffset]
      simp only [decide_eq_true_eq]
      split
      · rfl
      · rfl

/-- The item that has an offset is the one that is found. -/
lemma find_of_mem (hbase : (offsets base).Nodup) (hx : x ∈ base) :
    (base.map Prod.snd).find? (fun b => b.offset = x.2.offset) = some x.2 := by
  induction base with
  | nil => cases hx
  | cons y base ih =>
      rw [offsets, List.map_cons, List.nodup_cons] at hbase
      rw [List.map_cons]
      rcases List.mem_cons.1 hx with rfl | hx
      · exact List.find?_cons_of_pos (decide_eq_true rfl)
      · rw [List.find?_cons_of_neg]
        · exact ih hbase.2 hx
        · intro heq
          refine hbase.1 ?_
          rw [of_decide_eq_true heq]
          exact List.mem_map_of_mem hx

lemma find_eq_none {o : UInt16} (h : o ∉ offsets base) :
    (base.map Prod.snd).find? (fun b => b.offset = o) = none := by
  rw [List.find?_eq_none]
  intro b hb heq
  obtain ⟨x, hx, rfl⟩ := List.mem_map.1 hb
  exact h (of_decide_eq_true heq ▸ List.mem_map_of_mem hx)

/-- An extra item that is alone with its offset. -/
lemma filter_of_mem (hx : x ∈ fresh base extras) (hnd : (offsets (fresh base extras)).Nodup) :
    (extras.map Prod.snd).filter (fun e => e.offset = x.2.offset) = [x.2] := by
  induction extras with
  | nil => cases hx
  | cons y extras ih =>
      rw [fresh, List.filter_cons] at hx hnd
      rw [List.map_cons]
      by_cases hy : y.2.offset ∈ offsets base
      · rw [if_neg (by simpa using hy)] at hx hnd
        have hxb : x.2.offset ∉ offsets base := of_decide_eq_true (List.mem_filter.1 hx).2
        rw [List.filter_cons_of_neg]
        · exact ih hx hnd
        · intro heq
          exact hxb (of_decide_eq_true heq ▸ hy)
      · rw [if_pos (by simpa using hy)] at hx hnd
        rw [offsets, List.map_cons, List.nodup_cons] at hnd
        rcases List.mem_cons.1 hx with rfl | hx
        · rw [List.filter_cons, if_pos (decide_eq_true rfl), List.filter_eq_nil_iff.2]
          intro e he heq
          obtain ⟨z, hz, rfl⟩ := List.mem_map.1 he
          refine hnd.1 (List.mem_map.2 ⟨z, List.mem_filter.2 ⟨hz, ?_⟩, of_decide_eq_true heq⟩)
          rw [of_decide_eq_true heq]
          exact decide_eq_true hy
        · rw [List.filter_cons_of_neg]
          · exact ih hx hnd.2
          · intro heq
            refine hnd.1 ?_
            rw [of_decide_eq_true heq]
            exact List.mem_map_of_mem hx

lemma offset_notMem_of_fresh (hx : x ∈ fresh base extras) : x.2.offset ∉ offsets base :=
  of_decide_eq_true (List.mem_filter.1 hx).2

/-- The list after merging is right if no new offset comes twice. -/
lemma merged_iff (hbase : (offsets base).Nodup) :
    Merged (base.map Prod.snd) (extras.map Prod.snd)
      ((putAll base extras ++ fresh base extras).map Prod.snd) ↔
      (offsets (fresh base extras)).Nodup := by
  have hoffsets (xs : List (α × CfgItem)) : (xs.map Prod.snd).map CfgItem.offset = offsets xs :=
    List.map_map
  have hres : offsets (putAll base extras ++ fresh base extras) =
      offsets base ++ offsets (fresh base extras) := by
    rw [offsets, List.map_append]
    exact congrArg (· ++ _) offsets_putAll
  constructor
  · intro hmerged
    have honce := hmerged.once
    rw [hoffsets, hres] at honce
    exact honce.of_append_right
  · intro hfresh
    refine ⟨?_, fun o => ?_, ?_, fun e he => ?_⟩
    · rw [hoffsets, hres]
      refine hbase.append hfresh fun o ho ho' => ?_
      obtain ⟨x, hx, rfl⟩ := List.mem_map.1 ho'
      exact offset_notMem_of_fresh hx ho
    · rw [hoffsets, hoffsets, hoffsets, hres, List.mem_append]
      refine or_congr_right' fun ho => ?_
      constructor
      · intro hmem
        exact List.map_subset _ (List.filter_subset_self _) hmem
      · intro hmem
        obtain ⟨x, hx, rfl⟩ := List.mem_map.1 hmem
        exact List.mem_map_of_mem (List.mem_filter.2 ⟨hx, decide_eq_true ho⟩)
    · rw [hoffsets, hoffsets, hres]
      exact List.sublist_append_left ..
    · obtain ⟨x, hx, rfl⟩ := List.mem_map.1 he
      rcases List.mem_append.1 hx with hx | hx
      · obtain ⟨b, hb, hoffset, hdata⟩ := exists_of_mem_putAll hx
        rw [hdata, mergedData, ← hoffset, find_of_mem hbase hb]
        rfl
      · rw [mergedData, filter_of_mem hx hfresh, find_eq_none (offset_notMem_of_fresh hx)]
        show x.2.data = x.2.data ++ [].drop _
        rw [List.drop_nil, List.append_nil]

/-! ### The inner loop -/

variable [DecidableEq α]

open CfgHeap

lemma mergeOne_other (he : s.item y.1 = some y.2) (hx : s.item x.1 = some x.2)
    (h : y.2.offset ≠ x.2.offset) : mergeOne y.1 s x.1 = some (s, false) := by
  rw [mergeOne, he, hx]
  exact if_neg h

/-- A shorter extra item is freed, and its data is copied. -/
lemma mergeOne_shorter (h : Holds s head head2 all (done ++ x :: rest) (pre ++ y :: post))
    (hall : (head :: head2 :: all).Nodup) (hoffset : y.2.offset = x.2.offset)
    (hlt : y.2.data.length < x.2.data.length) :
    ∃ s', mergeOne y.1 s x.1 = some (s', true) ∧
      Holds s' head head2 all (done ++ put y x :: rest) (pre ++ post) := by
  obtain ⟨-, hextras, hdisj⟩ := h.apart hall
  obtain ⟨hxy, hother, hother2⟩ := h.ne_nodes hall
  have hput : put y x = (x.1, x.2.overlay y.2) := by rw [put, if_pos hoffset, if_pos hlt]
  have hring := h.ring
  have hring2 := h.ring2
  simp only [List.map_append, List.map_cons] at hring hring2 hextras hdisj hother hother2
  obtain ⟨ptrs', hdel, hrest2, hsame⟩ := hring2.del hextras
  refine ⟨(CfgHeap.mk ptrs' (Function.update s.item x.1 (some (x.2.overlay y.2))) s.freed).kfree
    y.1, ?_, ?_⟩
  · rw [mergeOne, h.items y (by simp), h.items x (by simp)]
    show (if _ then (if _ then _ else _) else _) = _
    rw [if_pos hoffset, if_pos hlt]
    show ((Option.map _ (s.ptrs.del y.1)).bind _) = _
    rw [hdel]
    rfl
  · rw [hput]
    refine h.congr ?_ ?_ (h.items_of_ne hall ?_ fun a hax hay => ?_) ?_
    · simp only [List.map_append, List.map_cons]
      refine hring.congr fun z hz => (hsame z (hdisj z hz)).trans (Ptrs.sameAt_poison ?_)
      rintro rfl
      exact hdisj y.1 hz (List.mem_cons_of_mem _ (List.mem_append_right _ List.mem_cons_self))
    · rw [List.map_append]
      exact hrest2.congr fun z hz => Ptrs.sameAt_poison (hother2 z hz).2
    · exact (Function.update_of_ne hxy.symm ..).trans (Function.update_self ..)
    · exact (Function.update_of_ne hay ..).trans (Function.update_of_ne hax ..)
    · refine List.perm_iff_count.2 fun a => ?_
      simp only [kfree, List.map_append, List.map_cons, List.count_append, List.count_cons,
        List.count_nil]
      omega

/-- One that is as long takes the place of the item, which is freed. -/
lemma mergeOne_longer (h : Holds s head head2 all (done ++ x :: rest) (pre ++ y :: post))
    (hall : (head :: head2 :: all).Nodup) (hoffset : y.2.offset = x.2.offset)
    (hle : x.2.data.length ≤ y.2.data.length) :
    ∃ s', mergeOne y.1 s x.1 = some (s', false) ∧
      Holds s' head head2 all (done ++ put y x :: rest) (pre ++ post) := by
  obtain ⟨hbase, hextras, hdisj⟩ := h.apart hall
  obtain ⟨hxy, hother, hother2⟩ := h.ne_nodes hall
  have hput : put y x = (y.1, y.2) := by
    rw [put, if_pos hoffset, if_neg (Nat.not_lt.2 hle), overlay_of_le hoffset hle]
  have hring := h.ring
  have hring2 := h.ring2
  simp only [List.map_append, List.map_cons] at hring hring2 hbase hextras hdisj hother hother2
  have hy : y.1 ∉ head :: (done.map Prod.fst ++ x.1 :: rest.map Prod.fst) := fun hmem =>
    hdisj y.1 hmem (List.mem_cons_of_mem _ (List.mem_append_right _ List.mem_cons_self))
  obtain ⟨ptrs', hdel, hrest2, hsame⟩ := hring2.del hextras
  have hring' := hring.congr fun z hz => hsame z (hdisj z hz)
  obtain ⟨ptrs'', hreplace, hnew, hsame'⟩ := hring'.replaceInit hbase hy
  refine ⟨(CfgHeap.mk ptrs'' s.item s.freed).kfree x.1, ?_, ?_⟩
  · rw [mergeOne, h.items y (by simp), h.items x (by simp)]
    show (if _ then (if _ then _ else _) else _) = _
    rw [if_pos hoffset, if_neg (Nat.not_lt.2 hle)]
    show ((Option.map _ (s.ptrs.del y.1)).bind _) = _
    rw [hdel]
    show ((Option.map _ (ptrs'.replaceInit x.1 y.1)).bind _) = _
    rw [hreplace]
    rfl
  · rw [hput]
    refine h.congr ?_ ?_ (h.items_of_ne hall ?_ fun a hax hay => ?_) ?_
    · simp only [List.map_append, List.map_cons]
      refine hnew.congr fun z hz => Ptrs.sameAt_poison ?_
      rcases eq_or_ne z y.1 with rfl | hzy
      · exact hxy
      · refine (hother z ?_).1
        simp only [List.mem_cons, List.mem_append] at hz ⊢
        tauto
    · rw [List.map_append]
      refine hrest2.congr fun z hz => (hsame' z ?_ (hother2 z hz).2).trans
        (Ptrs.sameAt_poison (hother2 z hz).1)
      intro hmem
      refine hdisj z hmem ?_
      simp only [List.mem_cons, List.mem_append] at hz ⊢
      tauto
    · exact (Function.update_of_ne hxy ..).trans (h.items y (by simp))
    · exact Function.update_of_ne hax ..
    · refine List.perm_iff_count.2 fun a => ?_
      simp only [kfree, List.map_append, List.map_cons, List.count_append, List.count_cons,
        List.count_nil]
      omega

/-- The inner loop for one extra item. -/
lemma forEach_mergeOne (h : Holds s head head2 all base (pre ++ y :: post))
    (hall : (head :: head2 :: all).Nodup) (hbase : (offsets base).Nodup) {k : ℕ}
    (hk : base.length < k) :
    ∃ s', forEachSafe CfgHeap.ptrs head (mergeOne y.1) k s = some s' ∧
      Holds s' head head2 all (base.map (put y))
        (if y.2.offset ∈ offsets base then pre ++ post else pre ++ y :: post) := by
  -- before the pass at the item with the offset nothing has changed; from there on no item has it
  have hinv : Invariant CfgHeap.ptrs head (mergeOne y.1)
      (fun xs t => ∃ done rest, xs = rest.map Prod.fst ∧
        ((base = done ++ rest ∧ (∀ x ∈ done, x.2.offset ≠ y.2.offset) ∧ t = s) ∨
          (base.map (put y) = done ++ rest ∧ (∀ x ∈ rest, x.2.offset ≠ y.2.offset) ∧
            y.2.offset ∈ offsets base ∧ t.item y.1 = some y.2 ∧
            Holds t head head2 all (base.map (put y)) (pre ++ post))))
      fun t => Holds t head head2 all (base.map (put y))
        (if y.2.offset ∈ offsets base then pre ++ post else pre ++ y :: post) := by
    refine ⟨?_, ?_, ?_⟩
    · rintro _ t ⟨done, rest, rfl, ⟨rfl, -, rfl⟩ | ⟨heq, -, -, -, ht⟩⟩
      · exact h.linked hall
      · rw [heq] at ht
        exact ht.linked hall
    · rintro a xs t ⟨done, rest, hxs, ⟨hsplit, hdone, rfl⟩ | ⟨heq, hrest, hmem, hy, ht⟩⟩
      · rcases rest with _ | ⟨x, rest⟩
        · cases hxs
        · obtain ⟨rfl, rfl⟩ := List.cons.inj hxs
          subst hsplit
          by_cases hoffset : y.2.offset = x.2.offset
          · have hmem : y.2.offset ∈ offsets (done ++ x :: rest) := by
              rw [hoffset]
              exact List.mem_map_of_mem (List.mem_append_right done List.mem_cons_self)
            have hrest : ∀ z ∈ rest, z.2.offset ≠ y.2.offset := by
              intro z hz heq
              rw [offsets, List.map_append, List.map_cons] at hbase
              refine (List.nodup_cons.1 hbase.of_append_right).1 ?_
              rw [← hoffset, ← heq]
              exact List.mem_map_of_mem hz
            have hmap : (done ++ x :: rest).map (put y) = done ++ put y x :: rest := by
              rw [List.map_append, List.map_cons, map_put_of_ne hdone, map_put_of_ne hrest]
            rcases Nat.lt_or_ge y.2.data.length x.2.data.length with hlt | hge
            · obtain ⟨t', hbody, ht'⟩ := mergeOne_shorter h hall hoffset hlt
              exact .inl ⟨t', hbody, by rw [if_pos hmem, hmap]; exact ht'⟩
            · obtain ⟨t', hbody, ht'⟩ := mergeOne_longer h hall hoffset hge
              have hput : put y x = y := by
                rw [put, if_pos hoffset, if_neg (Nat.not_lt.2 hge), overlay_of_le hoffset hge]
              have hy : t'.item y.1 = some y.2 := ht'.items y (by rw [hput]; simp)
              refine .inr ⟨t', hbody, done ++ [put y x], rest, rfl, .inr ⟨?_, hrest, hmem, hy, ?_⟩⟩
              · rw [hmap, List.append_assoc]
                rfl
              · rwa [hmap]
          · refine .inr ⟨t, mergeOne_other (h.items y (by simp)) (h.items x (by simp)) hoffset,
              done ++ [x], rest, rfl, .inl ⟨?_, fun z hz => ?_, rfl⟩⟩
            · rw [List.append_assoc]
              rfl
            · rcases List.mem_append.1 hz with hz | hz
              · exact hdone z hz
              · rw [List.mem_singleton.1 hz]
                exact Ne.symm hoffset
      · rcases rest with _ | ⟨x, rest⟩
        · cases hxs
        · obtain ⟨rfl, rfl⟩ := List.cons.inj hxs
          have hx : t.item x.1 = some x.2 := ht.items x (by rw [heq]; simp)
          refine .inr ⟨t, mergeOne_other hy hx (hrest x List.mem_cons_self).symm, done ++ [x], rest,
            rfl, .inr ⟨?_, fun z hz => hrest z (List.mem_cons_of_mem x hz), hmem, hy, ht⟩⟩
          rw [heq, List.append_assoc]
          rfl
    · rintro t ⟨done, rest, hxs, hcase⟩
      obtain rfl : rest = [] := List.map_eq_nil_iff.1 hxs.symm
      rcases hcase with ⟨hsplit, hdone, rfl⟩ | ⟨-, -, hmem, -, ht⟩
      · rw [List.append_nil] at hsplit
        subst hsplit
        rw [if_neg, map_put_of_ne hdone]
        · exact h
        · intro hmem
          obtain ⟨x, hx, hxoffset⟩ := List.mem_map.1 hmem
          exact hdone x hx hxoffset
      · rwa [if_pos hmem]
  have hlen : (base.map Prod.fst).length < k := by rwa [List.length_map]
  exact hinv.forEachSafe ⟨[], base, rfl, .inl ⟨rfl, nofun, rfl⟩⟩ h.ring hlen

/-! ### The other loops -/

/-- The outer loop. -/
lemma forEach_mergeExtra (h : Holds s head head2 all base extras)
    (hall : (head :: head2 :: all).Nodup) (hbase : (offsets base).Nodup) {k : ℕ}
    (hk : base.length < k) (hk' : extras.length < k) :
    ∃ s', forEachSafe CfgHeap.ptrs head2 (mergeExtra k head) k s = some s' ∧
      Holds s' head head2 all (putAll base extras) (fresh base extras) := by
  have hinv : Invariant CfgHeap.ptrs head2 (mergeExtra k head)
      (fun xs t => ∃ done rest, xs = rest.map Prod.fst ∧ extras = done ++ rest ∧
        Holds t head head2 all (putAll base done) (fresh base done ++ rest))
      fun t => Holds t head head2 all (putAll base extras) (fresh base extras) := by
    refine ⟨?_, ?_, ?_⟩
    · rintro _ t ⟨done, rest, rfl, -, ht⟩
      exact ht.linked2 hall
    · rintro a xs t ⟨done, rest, hxs, hsplit, ht⟩
      rcases rest with _ | ⟨y, rest⟩
      · cases hxs
      · obtain ⟨rfl, rfl⟩ := List.cons.inj hxs
        obtain ⟨t', hrun, ht'⟩ := forEach_mergeOne ht hall (by rwa [offsets_putAll])
          (by rwa [length_putAll])
        rw [offsets_putAll, ← putAll_append_singleton] at ht'
        refine .inr ⟨t', ?_, done ++ [y], rest, rfl, by rw [hsplit, List.append_assoc]; rfl, ?_⟩
        · rw [mergeExtra, hrun]
          rfl
        · rw [fresh, List.filter_append, List.append_assoc]
          split at ht'
          · next hmem =>
              rwa [List.filter_cons_of_neg (by simpa using hmem), List.filter_nil, List.nil_append]
          · next hmem =>
              rwa [List.filter_cons_of_pos (by simpa using hmem), List.filter_nil]
    · rintro t ⟨done, rest, hxs, hsplit, ht⟩
      obtain rfl : rest = [] := List.map_eq_nil_iff.1 hxs.symm
      rw [List.append_nil] at hsplit ht
      rwa [hsplit]
  have hlen : (extras.map Prod.fst).length < k := by rwa [List.length_map]
  exact hinv.forEachSafe ⟨[], extras, rfl, rfl, h⟩ h.ring2 hlen

/-- An extra item is put at the end. -/
lemma addExtra_eq (h : Holds s head head2 all base (y :: post))
    (hall : (head :: head2 :: all).Nodup) : ∃ s', addExtra head s y.1 = some (s', false) ∧
      Holds s' head head2 all (base ++ [y]) post := by
  obtain ⟨hbase, hextras, hdisj⟩ := h.apart hall
  have hring2 : ListHead.Ring s.ptrs head2 ([] ++ y.1 :: post.map Prod.fst) := h.ring2
  obtain ⟨ptrs', hdel, hrest2, hsame⟩ := hring2.del hextras
  have hring' := h.ring.congr fun z hz => hsame z (hdisj z hz)
  have hy : y.1 ∉ head :: base.map Prod.fst := fun hmem =>
    hdisj y.1 hmem (List.mem_cons_of_mem _ List.mem_cons_self)
  obtain ⟨ptrs'', hadd, hnew, hsame'⟩ := hring'.addTail hbase hy
  have hy2 {z : α} (hz : z ∈ head2 :: post.map Prod.fst) : z ≠ y.1 := by
    rintro rfl
    rw [List.map_cons] at hextras
    have hmiddle : ([head2] ++ y.1 :: post.map Prod.fst).Nodup := hextras
    exact (List.nodup_cons.1 (List.nodup_middle.1 hmiddle)).1 hz
  refine ⟨⟨ptrs'', s.item, s.freed⟩, ?_, ?_⟩
  · show ((Option.map _ (s.ptrs.del y.1)).bind _) = _
    rw [hdel]
    show ((Option.map _ (ptrs'.addTail y.1 head)).bind _) = _
    rw [hadd]
    rfl
  · refine h.congr ?_ ?_ (fun z hz => h.items z ?_) ?_
    · rw [List.map_append]
      exact hnew
    · refine hrest2.congr fun z hz => hsame' z (fun hmem => hdisj z hmem ?_) (hy2 hz)
      rcases List.mem_cons.1 hz with rfl | hz
      · exact List.mem_cons_self
      · exact List.mem_cons_of_mem _ (List.mem_cons_of_mem _ hz)
    · rwa [List.append_assoc] at hz
    · simp only [List.map_append, List.map_cons, List.map_nil, List.append_assoc, List.cons_append,
        List.nil_append]
      exact List.Perm.refl _

/-- The last loop. -/
lemma forEach_addExtra (h : Holds s head head2 all base extras)
    (hall : (head :: head2 :: all).Nodup) {k : ℕ} (hk : extras.length < k) :
    ∃ s', forEachSafe CfgHeap.ptrs head2 (addExtra head) k s = some s' ∧
      Holds s' head head2 all (base ++ extras) [] := by
  have hinv : Invariant CfgHeap.ptrs head2 (addExtra head)
      (fun xs t => ∃ done rest, xs = rest.map Prod.fst ∧ extras = done ++ rest ∧
        Holds t head head2 all (base ++ done) rest)
      fun t => Holds t head head2 all (base ++ extras) [] := by
    refine ⟨?_, ?_, ?_⟩
    · rintro _ t ⟨done, rest, rfl, -, ht⟩
      exact Holds.linked2 (show Holds t head head2 all (base ++ done) ([] ++ rest) from ht) hall
    · rintro a xs t ⟨done, rest, hxs, hsplit, ht⟩
      rcases rest with _ | ⟨y, rest⟩
      · cases hxs
      · obtain ⟨rfl, rfl⟩ := List.cons.inj hxs
        obtain ⟨t', hbody, ht'⟩ := addExtra_eq ht hall
        rw [List.append_assoc] at ht'
        exact .inr ⟨t', hbody, done ++ [y], rest, rfl, by rw [hsplit, List.append_assoc]; rfl, ht'⟩
    · rintro t ⟨done, rest, hxs, hsplit, ht⟩
      obtain rfl : rest = [] := List.map_eq_nil_iff.1 hxs.symm
      rw [List.append_nil] at hsplit
      rwa [hsplit]
  have hlen : (extras.map Prod.fst).length < k := by rwa [List.length_map]
  exact hinv.forEachSafe ⟨[], extras, rfl, rfl, by rwa [List.append_nil]⟩ h.ring2 hlen

/-! ### The function -/

/-- Where the last loop is not needed, the items are the same. -/
lemma mergeConfigs_holds (h : Holds s head head2 all base extras)
    (hall : (head :: head2 :: all).Nodup) (hbase : (offsets base).Nodup) {k : ℕ}
    (hk : base.length < k) (hk' : extras.length < k) :
    ∃ s', mergeConfigs k head head2 s = some s' ∧
      Holds s' head head2 all (putAll base extras ++ fresh base extras) [] := by
  obtain ⟨hnd, hnd2, hdisj⟩ := h.apart hall
  have hempty := h.ring.empty_eq hnd
  have hempty2 := h.ring2.empty_eq hnd2
  rw [mergeConfigs, hempty, hempty2]
  simp only [decide_eq_true_eq, List.map_eq_nil_iff]
  by_cases hextras : extras = []
  · subst hextras
    rw [if_pos rfl]
    exact ⟨s, rfl, by rwa [fresh, List.filter_nil, List.append_nil]⟩
  · rw [if_neg hextras]
    by_cases hnil : base = []
    · subst hnil
      have hne : extras.map Prod.fst ≠ [] := fun heq => hextras (List.map_eq_nil_iff.1 heq)
      obtain ⟨ptrs', hsplice, hring, hring2⟩ := h.ring.spliceTail h.ring2 hnd hnd2
        (fun x hx hx' => hdisj x hx' hx) hne
      refine ⟨⟨ptrs'.init head2, s.item, s.freed⟩, ?_, ?_⟩
      · rw [if_pos rfl]
        show ((Option.map _ (s.ptrs.spliceTail head2 head)).map _) = _
        rw [hsplice]
        rfl
      · have hputAll : putAll ([] : List (α × CfgItem)) extras = [] :=
          List.length_eq_zero_iff.1 length_putAll
        have hfresh : fresh [] extras = extras :=
          List.filter_eq_self.2 fun y _ => decide_eq_true List.not_mem_nil
        rw [hputAll, hfresh]
        refine h.congr hring hring2 (fun x hx => h.items x ?_) ?_
        · rwa [List.append_nil] at hx
        · rw [List.map_nil, List.nil_append, List.append_nil]
          exact List.Perm.refl _
    · rw [if_neg hnil]
      obtain ⟨t, hrun, ht⟩ := forEach_mergeExtra h hall hbase hk hk'
      have hempty' := ht.ring2.empty_eq (ht.apart hall).2.1
      show ∃ s', ((forEachSafe CfgHeap.ptrs head2 (mergeExtra k head) k s).bind fun t =>
        if t.ptrs.empty head2 then some t else _) = some s' ∧ _
      rw [hrun, Option.bind_some, hempty']
      simp only [decide_eq_true_eq, List.map_eq_nil_iff]
      by_cases hfresh : fresh base extras = []
      · rw [if_pos hfresh]
        refine ⟨t, rfl, ?_⟩
        rw [hfresh] at ht ⊢
        rwa [List.append_nil]
      · rw [if_neg hfresh]
        exact forEach_addExtra ht hall (Nat.lt_of_le_of_lt (List.length_filter_le ..) hk')

/-- What `merge_configs` is to do with two lists. -/
def MergeOk (s : CfgHeap α) (head head2 : α) (all : List α) (base extras : List (α × CfgItem)) :
    Prop :=
  ∀ k, base.length < k → extras.length < k →
    ∃ s' res, mergeConfigs k head head2 s = some s' ∧ Holds s' head head2 all res [] ∧
      Merged (base.map Prod.snd) (extras.map Prod.snd) (res.map Prod.snd)

/-- Nothing is lost if an offset comes twice, but the list has it twice. -/
lemma MergeOk.nodup (hok : MergeOk s head head2 all base extras)
    (h : Holds s head head2 all base extras) (hall : (head :: head2 :: all).Nodup)
    (hbase : (offsets base).Nodup) : (offsets (fresh base extras)).Nodup := by
  have hk : base.length < base.length + extras.length + 1 := by omega
  have hk' : extras.length < base.length + extras.length + 1 := by omega
  obtain ⟨s', res, hrun, hres, hmerged⟩ := hok _ hk hk'
  obtain ⟨s'', hrun', hres'⟩ := mergeConfigs_holds h hall hbase hk hk'
  obtain rfl : s' = s'' := Option.some.inj (hrun.symm.trans hrun')
  rw [hres.unique hres' hall] at hmerged
  exact (merged_iff hbase).1 hmerged

/-- `merge_configs` does that for lists with different offsets in the base list just when the extra
items whose offset is not in it have different offsets. -/
theorem mergeConfigs_iff (h : Holds s head head2 all base extras)
    (hall : (head :: head2 :: all).Nodup) (hbase : (offsets base).Nodup) :
    MergeOk s head head2 all base extras ↔
      (offsets (extras.filter fun y => y.2.offset ∉ offsets base)).Nodup := by
  constructor
  · intro hok
    exact hok.nodup h hall hbase
  · intro hfresh k hk hk'
    obtain ⟨s', hrun, hres⟩ := mergeConfigs_holds h hall hbase hk hk'
    exact ⟨s', _, hrun, hres, (merged_iff hbase).2 hfresh⟩

/-- A base list with one item, for `0x003c`, and two extra items. -/
def twoExtras (o o' : UInt16) : CfgHeap ℕ where
  ptrs :=
    let s : Ptrs ℕ := ⟨fun _ => none, fun _ => none⟩
    ((((s.join 0 2).join 2 0).join 1 3).join 3 4).join 4 1
  item a :=
    if a = 2 then some ⟨0x003c, [1, 2], by decide⟩
    else if a = 3 then some ⟨o, [7], by decide⟩
    else if a = 4 then some ⟨o', [8], by decide⟩
    else none
  freed := []

lemma twoExtras_holds (o o' : UInt16) : Holds (twoExtras o o') 0 1 [2, 3, 4]
    [(2, ⟨0x003c, [1, 2], by decide⟩)] [(3, ⟨o, [7], by decide⟩), (4, ⟨o', [8], by decide⟩)] := by
  refine ⟨⟨rfl, rfl, rfl, rfl, trivial⟩, ⟨rfl, rfl, rfl, rfl, rfl, rfl, trivial⟩, fun x hx => ?_,
    List.Perm.refl _⟩
  simp only [List.cons_append, List.nil_append, List.mem_cons, List.not_mem_nil, or_false] at hx
  rcases hx with rfl | rfl | rfl
  · rfl
  · rfl
  · rfl

theorem mergeConfigs_one : MergeOk (twoExtras 0x003c 0x0044) 0 1 [2, 3, 4]
    [(2, ⟨0x003c, [1, 2], by decide⟩)]
    [(3, ⟨0x003c, [7], by decide⟩), (4, ⟨0x0044, [8], by decide⟩)] :=
  (mergeConfigs_iff (twoExtras_holds _ _) (by decide) (by decide)).2 (by decide)

/-- Two extra items with an offset that the base list does not have are both put into it. -/
theorem mergeConfigs_twice : Holds (twoExtras 0x0044 0x0044) 0 1 [2, 3, 4]
      [(2, ⟨0x003c, [1, 2], by decide⟩)]
      [(3, ⟨0x0044, [7], by decide⟩), (4, ⟨0x0044, [8], by decide⟩)] ∧
    (offsets [((2 : ℕ), (⟨0x003c, [1, 2], by decide⟩ : CfgItem))]).Nodup ∧
    ¬ MergeOk (twoExtras 0x0044 0x0044) 0 1 [2, 3, 4] [(2, ⟨0x003c, [1, 2], by decide⟩)]
      [(3, ⟨0x0044, [7], by decide⟩), (4, ⟨0x0044, [8], by decide⟩)] := by
  refine ⟨twoExtras_holds _ _, by decide, fun hok => ?_⟩
  have hnd := hok.nodup (twoExtras_holds _ _) (by decide) (by decide)
  exact absurd hnd (by decide)

end Rtl8723du.BtConfig
