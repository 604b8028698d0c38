import Mathlib.Data.Finset.Card
import Mathlib.Data.Nat.Find
import Mathlib.Data.Nat.ModEq
import Mathlib.Tactic.Common
import Rtl8723du.Lib.Machine

/-!
# Association identifiers

An AP keeps the stations by their AIDs in a table, `sta_aid`.  `rtw_aid_alloc` of
`core/rtw_sta_mgt.c` looks for a free place in it, from `started_aid` on and around its end, and
counts the stations that it passes.  With `rr_aid` the next search starts behind the place found.

The stations are the members of a type `σ` here.
-/

namespace Rtl8723du.Aid

open Lib

/-! ### The code -/

/-- What `sta_priv` and the stations hold of the AIDs. -/
structure StaPriv (σ : Type*) where
  maxAid : ℕ
  maxNumSta : ℕ
  startedAid : ℕ
  rrAid : Bool
  /-- `sta_aid`; the place of an AID is one less. -/
  staAid : ℕ → Option σ
  /-- `cmn.aid`. -/
  aid : σ → ℕ
  /-- The station is not in `free_sta_queue`. -/
  live : σ → Bool

variable {σ : Type*}

/-- The AID that pass `i` of the search looks at. -/
def aidAt (p : StaPriv σ) (i : ℕ) : ℕ := (i + p.startedAid - 1) % p.maxAid + 1

/-- The loop of `rtw_aid_alloc` with `k` passes left: `i` and `used_cnt` at its end. -/
def scan (p : StaPriv σ) : ℕ → ℕ → ℕ → ℕ × ℕ
  | 0, i, usedCnt => (i, usedCnt)
  | k + 1, i, usedCnt =>
      if p.staAid (aidAt p i - 1) = none then (i, usedCnt)
      else if p.maxNumSta ≤ usedCnt + 1 then (i, usedCnt + 1)
      else scan p k (i + 1) (usedCnt + 1)

/-- The AID that `rtw_aid_alloc` comes to, or 0. -/
def foundAid (p : StaPriv σ) : ℕ :=
  let r := scan p p.maxAid 0 0
  if p.maxAid ≤ r.1 ∨ p.maxNumSta ≤ r.2 then 0 else aidAt p r.1

section

variable [DecidableEq σ]

/-- `rtw_aid_alloc`. -/
def rtwAidAlloc (p : StaPriv σ) (s : σ) : StaPriv σ × ℕ :=
  let aid := foundAid p
  let p := { p with aid := Function.update p.aid s aid }
  if aid = 0 then (p, 0)
  else
    ({ p with
      staAid := Function.update p.staAid (aid - 1) (some s)
      startedAid := if p.rrAid then aid % p.maxAid + 1 else p.startedAid }, aid)

/-- `rtw_alloc_stainfo`, which takes a station with everything 0. -/
def rtwAllocStainfo (p : StaPriv σ) (s : σ) : StaPriv σ :=
  { p with live := Function.update p.live s true, aid := Function.update p.aid s 0 }

/-- `rtw_free_stainfo` of an AP. -/
def rtwFreeStainfo (p : StaPriv σ) (s : σ) : StaPriv σ :=
  let p' :=
    if 0 < p.aid s ∧ p.staAid (p.aid s - 1) = some s then
      { p with
        staAid := Function.update p.staAid (p.aid s - 1) none
        aid := Function.update p.aid s 0 }
    else p
  { p' with live := Function.update p.live s false }

/-- `proc_set_aid_status`. -/
def procSetAidStatus (p : StaPriv σ) (rr : Bool) (startedAid : Option ℕ) : StaPriv σ :=
  let p := { p with rrAid := rr }
  match startedAid with
  | none => p
  | some n =>
      let n := n % (p.maxAid + 1)
      { p with startedAid := if n = 0 then 1 else n }

/-- What happens to an AP. -/
inductive Op (σ : Type*) where
  /-- An authentication takes a station from the free queue. -/
  | auth (s : σ)
  /-- An association request comes to the assignment of an AID. -/
  | assoc (s : σ)
  /-- A station leaves. -/
  | free (s : σ)
  /-- A write to the proc file. -/
  | status (rr : Bool) (startedAid : Option ℕ)
deriving DecidableEq

/-- The operation is a write to the proc file. -/
def Op.IsStatus : Op σ → Prop
  | .status _ _ => True
  | _ => False

/-- One step of an AP; the results of `rtw_aid_alloc` are handed out. -/
def step (p : StaPriv σ) : Op σ → StaPriv σ × List ℕ
  | .auth s => if p.live s then (p, []) else (rtwAllocStainfo p s, [])
  | .assoc s =>
      if p.live s ∧ p.aid s = 0 then ((rtwAidAlloc p s).1, [(rtwAidAlloc p s).2]) else (p, [])
  | .free s => if p.live s then (rtwFreeStainfo p s, []) else (p, [])
  | .status rr startedAid => (procSetAidStatus p rr startedAid, [])

/-- An AP that starts. -/
def start (maxAid maxNumSta : ℕ) (rr : Bool) : StaPriv σ :=
  ⟨maxAid, maxNumSta, 1, rr, fun _ => none, fun _ => 0, fun _ => false⟩

end

/-! ### The table -/

/-- The places of the AIDs that are assigned. -/
def taken (p : StaPriv σ) : Finset ℕ := (Finset.range p.maxAid).filter fun i => (p.staAid i).isSome

/-- The table is that of the stations, and no station has an AID outside it. -/
structure Sound (p : StaPriv σ) : Prop where
  staAid_eq : ∀ i s, p.staAid i = some s ↔ p.live s = true ∧ p.aid s = i + 1
  aid_le : ∀ s, p.live s = true → p.aid s ≤ p.maxAid
  pos : 0 < p.startedAid

/-- If as many AIDs as there may be stations are assigned, the search meets that many. -/
def Meets (p : StaPriv σ) : Prop :=
  p.maxNumSta ≤ (taken p).card →
    ∀ i < p.maxAid, i < p.maxNumSta → (p.staAid (aidAt p i - 1)).isSome = true

instance (p : StaPriv σ) : Decidable (Meets p) := by
  unfold Meets
  infer_instance

/-! ### The search -/

variable {p : StaPriv σ} {s : σ} {i j k : ℕ}

lemma scan_found (hk : k + i = p.maxAid) (hij : i ≤ j) (hj : j < p.maxAid) (hlim : j < p.maxNumSta)
    (hused : ∀ m, i ≤ m → m < j → p.staAid (aidAt p m - 1) ≠ none)
    (hfree : p.staAid (aidAt p j - 1) = none) : scan p k i i = (j, j) := by
  induction k generalizing i with
  | zero => omega
  | succ k ih =>
      rw [scan]
      rcases hij.eq_or_lt with rfl | hlt
      · rw [if_pos hfree]
      · rw [if_neg (hused i le_rfl hlt), if_neg (by omega)]
        exact ih (by omega) hlt fun m hm => hused m (by omega)

lemma scan_full (hk : k + i = p.maxAid)
    (hused : ∀ m, i ≤ m → m < p.maxAid → m < p.maxNumSta → p.staAid (aidAt p m - 1) ≠ none) :
    p.maxAid ≤ (scan p k i i).1 ∨ p.maxNumSta ≤ (scan p k i i).2 := by
  induction k generalizing i with
  | zero => exact .inl (by rw [scan]; omega)
  | succ k ih =>
      rw [scan]
      split
      · rename_i hfree
        refine .inr (Nat.not_lt.1 fun hlt => ?_)
        exact hused i le_rfl (by omega) hlt hfree
      split
      · exact .inr ‹_›
      · exact ih (by omega) fun m hm => hused m (by omega)

/-- The search finds the first free place, if it comes before the limit. -/
lemma foundAid_cases (p : StaPriv σ) :
    (foundAid p = 0 ∧
      ∀ j < p.maxAid, j < p.maxNumSta → (p.staAid (aidAt p j - 1)).isSome = true) ∨
    ∃ j < p.maxAid, j < p.maxNumSta ∧ p.staAid (aidAt p j - 1) = none ∧ foundAid p = aidAt p j := by
  by_cases h : ∃ j, j < p.maxAid ∧ j < p.maxNumSta ∧ p.staAid (aidAt p j - 1) = none
  · right
    classical
    obtain ⟨hj, hlim, hfree⟩ := Nat.find_spec h
    refine ⟨Nat.find h, hj, hlim, hfree, ?_⟩
    have hscan : scan p p.maxAid 0 0 = (Nat.find h, Nat.find h) := by
      refine scan_found (by omega) (Nat.zero_le _) hj hlim (fun m _ hm hnone => ?_) hfree
      exact Nat.find_min h hm ⟨by omega, by omega, hnone⟩
    rw [foundAid, hscan]
    exact if_neg (by simp only; omega)
  · left
    have hall : ∀ j < p.maxAid, j < p.maxNumSta → p.staAid (aidAt p j - 1) ≠ none :=
      fun j hj hlim hnone => h ⟨j, hj, hlim, hnone⟩
    constructor
    · exact if_pos (scan_full (Nat.add_zero _) fun m _ => hall m)
    · intro j hj hlim
      exact Option.isSome_iff_ne_none.2 (hall j hj hlim)

lemma aidAt_pos (p : StaPriv σ) (i : ℕ) : aidAt p i ≠ 0 := Nat.succ_ne_zero _

lemma aidAt_sub_lt (hi : i < p.maxAid) : aidAt p i - 1 < p.maxAid := by
  rw [aidAt, Nat.add_sub_cancel]
  exact Nat.mod_lt _ (by omega)

/-- Each pass looks at another place. -/
lemma aidAt_injOn (hp : 0 < p.startedAid) (hi : i < p.maxAid) (hj : j < p.maxAid)
    (h : aidAt p i - 1 = aidAt p j - 1) : i = j := by
  simp only [aidAt, Nat.add_sub_cancel, Nat.add_sub_assoc hp] at h
  exact Nat.ModEq.eq_of_lt_of_lt (Nat.ModEq.add_right_cancel' _ h) hi hj

/-- The places that are looked at before the limit. -/
def window (p : StaPriv σ) : Finset ℕ :=
  (Finset.range (min p.maxAid p.maxNumSta)).image fun i => aidAt p i - 1

lemma card_window (hp : 0 < p.startedAid) : (window p).card = min p.maxAid p.maxNumSta := by
  rw [window, Finset.card_image_of_injOn, Finset.card_range]
  intro i hi j hj h
  simp only [Finset.coe_range, Set.mem_Iio, lt_min_iff] at hi hj
  exact aidAt_injOn hp hi.1 hj.1 h

lemma mem_taken : i ∈ taken p ↔ i < p.maxAid ∧ (p.staAid i).isSome = true := by
  rw [taken, Finset.mem_filter, Finset.mem_range]

lemma card_taken_le (p : StaPriv σ) : (taken p).card ≤ p.maxAid :=
  (Finset.card_filter_le _ _).trans (Finset.card_range _).le

/-- All places before the limit are taken. -/
lemma window_subset_iff : window p ⊆ taken p ↔
    ∀ j < p.maxAid, j < p.maxNumSta → (p.staAid (aidAt p j - 1)).isSome = true := by
  constructor
  · intro h j hj hlim
    refine (mem_taken.1 (h (Finset.mem_image_of_mem _ ?_))).2
    exact Finset.mem_range.2 (lt_min hj hlim)
  · intro h i hi
    obtain ⟨j, hj, rfl⟩ := Finset.mem_image.1 hi
    obtain ⟨hj, hlim⟩ := lt_min_iff.1 (Finset.mem_range.1 hj)
    exact mem_taken.2 ⟨aidAt_sub_lt hj, h j hj hlim⟩

/-! ### What is to hold -/

variable [DecidableEq σ]

/-- What an AP is to promise about the AIDs. -/
structure Conforms (p : StaPriv σ) : Prop where
  unique : ∀ s t, p.live s = true → p.live t = true → p.aid s = p.aid t → p.aid s ≠ 0 → s = t
  inRange : ∀ s, p.live s = true → p.aid s ≤ p.maxAid
  assigned : ∀ i, i ∈ taken p ↔ ∃ s, p.live s = true ∧ p.aid s = i + 1
  limit : (taken p).card ≤ p.maxNumSta
  fails_iff : ∀ s, (rtwAidAlloc p s).2 = 0 ↔
    (taken p).card = p.maxAid ∨ p.maxNumSta ≤ (taken p).card

/-! ### Steps -/

variable {t : σ} {n : ℕ}

/-- The state after `rtw_aid_alloc` has come to `n`. -/
def assigned (p : StaPriv σ) (s : σ) (n : ℕ) : StaPriv σ :=
  { p with
    aid := Function.update p.aid s n
    staAid := Function.update p.staAid (n - 1) (some s)
    startedAid := if p.rrAid then n % p.maxAid + 1 else p.startedAid }

/-- `rtw_aid_alloc` fails, the places before the limit being taken, or it takes one of these. -/
lemma rtwAidAlloc_cases (p : StaPriv σ) (s : σ) :
    (rtwAidAlloc p s = ({ p with aid := Function.update p.aid s 0 }, 0) ∧ window p ⊆ taken p) ∨
    ∃ i, i ∈ window p ∧ i < p.maxAid ∧ p.staAid i = none ∧
      rtwAidAlloc p s = (assigned p s (i + 1), i + 1) := by
  rcases foundAid_cases p with ⟨hnone, hfull⟩ | ⟨j, hj, hlim, hfree, hfound⟩
  · refine .inl ⟨?_, window_subset_iff.2 hfull⟩
    simp only [rtwAidAlloc, hnone, if_true]
  · have hpos := aidAt_pos p j
    have hone : aidAt p j - 1 + 1 = aidAt p j := Nat.sub_add_cancel (Nat.pos_of_ne_zero hpos)
    refine .inr ⟨aidAt p j - 1, ?_, aidAt_sub_lt hj, hfree, ?_⟩
    · exact Finset.mem_image_of_mem _ (Finset.mem_range.2 (lt_min hj hlim))
    · rw [hone]
      simp only [rtwAidAlloc, hfound, if_neg hpos, assigned]

omit [DecidableEq σ] in
/-- A station without an AID has no place in the table. -/
lemma Sound.ne_some (h : Sound p) (h0 : p.aid s = 0) (i : ℕ) : p.staAid i ≠ some s := by
  intro hi
  have := ((h.staAid_eq i s).1 hi).2
  omega

lemma Sound.assigned (h : Sound p) (hs : p.live s = true) (h0 : p.aid s = 0) (hi : i < p.maxAid)
    (hfree : p.staAid i = none) : Sound (assigned p s (i + 1)) where
  staAid_eq m t := by
    simp only [Aid.assigned, Nat.add_sub_cancel]
    by_cases hm : m = i
    · subst hm
      rw [Function.update_self]
      by_cases ht : t = s
      · subst ht
        simp [hs]
      · have hno : ¬ (p.live t = true ∧ p.aid t = m + 1) := fun hlive =>
          absurd ((h.staAid_eq m t).2 hlive) (by simp [hfree])
        rw [Function.update_of_ne ht]
        exact iff_of_false (fun heq => ht (Option.some.inj heq).symm) hno
    · rw [Function.update_of_ne hm]
      by_cases ht : t = s
      · subst ht
        rw [Function.update_self]
        exact iff_of_false (h.ne_some h0 m) (by omega)
      · rw [Function.update_of_ne ht]
        exact h.staAid_eq m t
  aid_le t ht := by
    by_cases hts : t = s
    · subst hts
      simpa [Aid.assigned] using Nat.succ_le_of_lt hi
    · simpa [Aid.assigned, Function.update_of_ne hts] using h.aid_le t ht
  pos := by
    simp only [Aid.assigned]
    split
    · exact Nat.succ_pos _
    · exact h.pos

lemma taken_assigned (hi : i < p.maxAid) : taken (assigned p s (i + 1)) = insert i (taken p) := by
  ext m
  simp only [mem_taken, Finset.mem_insert, assigned, Nat.add_sub_cancel]
  by_cases hm : m = i
  · subst hm
    simp [hi]
  · simp [hm]

/-- A station without an AID changes nothing when it comes, is refused or goes. -/
lemma Sound.update_live (h : Sound p) (h0 : p.live s = true → p.aid s = 0) (b : Bool) :
    Sound { p with live := Function.update p.live s b, aid := Function.update p.aid s 0 } where
  staAid_eq m t := by
    rw [h.staAid_eq m t]
    by_cases ht : t = s
    · subst ht
      simp only [Function.update_self]
      refine iff_of_false ?_ (by simp)
      rintro ⟨hlive, haid⟩
      have := h0 hlive
      omega
    · simp only [Function.update_of_ne ht]
  aid_le t ht := by
    by_cases hts : t = s
    · subst hts
      simp
    · simp only [Function.update_of_ne hts] at ht ⊢
      exact h.aid_le t ht
  pos := h.pos

/-- A station with an AID leaves. -/
lemma Sound.removed (h : Sound p) (hs : p.live s = true) (hi : p.aid s = i + 1) :
    Sound { p with
      staAid := Function.update p.staAid i none
      aid := Function.update p.aid s 0
      live := Function.update p.live s false } where
  staAid_eq m t := by
    by_cases ht : t = s
    · subst ht
      simp only [Function.update_self]
      refine iff_of_false ?_ (by simp)
      by_cases hm : m = i
      · simp [hm]
      · rw [Function.update_of_ne hm, h.staAid_eq]
        omega
    · simp only [Function.update_of_ne ht]
      by_cases hm : m = i
      · subst hm
        rw [Function.update_self]
        refine iff_of_false (by simp) ?_
        intro hlive
        have hsome := (h.staAid_eq m t).2 hlive
        rw [(h.staAid_eq m s).2 ⟨hs, hi⟩] at hsome
        exact ht (Option.some.inj hsome).symm
      · rw [Function.update_of_ne hm]
        exact h.staAid_eq m t
  aid_le t ht := by
    by_cases hts : t = s
    · subst hts
      simp
    · simp only [Function.update_of_ne hts] at ht ⊢
      exact h.aid_le t ht
  pos := h.pos

lemma rtwFreeStainfo_of_zero (h0 : p.aid s = 0) :
    rtwFreeStainfo p s =
      { p with live := Function.update p.live s false, aid := Function.update p.aid s 0 } := by
  rw [rtwFreeStainfo, if_neg (by omega), ← h0, Function.update_eq_self]

lemma rtwFreeStainfo_of_succ (h : Sound p) (hs : p.live s = true) (hi : p.aid s = i + 1) :
    rtwFreeStainfo p s =
      { p with
        staAid := Function.update p.staAid i none
        aid := Function.update p.aid s 0
        live := Function.update p.live s false } := by
  have hplace := (h.staAid_eq i s).2 ⟨hs, hi⟩
  have hi' : p.aid s - 1 = i := by omega
  rw [rtwFreeStainfo, if_pos ⟨by omega, by rw [hi', hplace]⟩, hi']

/-- What a step does to the places that are taken. -/
inductive Change (p p' : StaPriv σ) : Prop
  | same (h : taken p' = taken p)
  | take {i : ℕ} (hi : i ∈ window p) (hfree : i ∉ taken p) (h : taken p' = insert i (taken p))
  | drop {i : ℕ} (h : taken p' = (taken p).erase i)

lemma change_assoc (hs : Sound p) (hlive : p.live s = true) (h0 : p.aid s = 0) :
    Sound (rtwAidAlloc p s).1 ∧ Change p (rtwAidAlloc p s).1 := by
  rcases rtwAidAlloc_cases p s with ⟨heq, -⟩ | ⟨i, hwin, hi, hfree, heq⟩
  · rw [heq]
    refine ⟨?_, .same rfl⟩
    have := hs.update_live (fun _ => h0) true
    rwa [← hlive, Function.update_eq_self] at this
  · rw [heq]
    refine ⟨hs.assigned hlive h0 hi hfree, .take hwin ?_ (taken_assigned hi)⟩
    rw [mem_taken, hfree]
    simp

lemma change_free (hs : Sound p) (hlive : p.live s = true) :
    Sound (rtwFreeStainfo p s) ∧ Change p (rtwFreeStainfo p s) := by
  rcases Nat.eq_zero_or_eq_succ_pred (p.aid s) with h0 | hi
  · rw [rtwFreeStainfo_of_zero h0]
    exact ⟨hs.update_live (fun _ => h0) false, .same rfl⟩
  · rw [rtwFreeStainfo_of_succ hs hlive hi]
    refine ⟨hs.removed hlive hi, .drop (i := (p.aid s).pred) ?_⟩
    ext m
    simp only [mem_taken, Finset.mem_erase]
    by_cases hm : m = (p.aid s).pred
    · simp [hm]
    · rw [Function.update_of_ne hm]
      tauto

/-- A step keeps the table that of the stations and changes one place at most. -/
lemma change_step (hs : Sound p) (o : Op σ) : Sound (step p o).1 ∧ Change p (step p o).1 := by
  cases o with
  | auth s =>
      rw [step]
      split
      · exact ⟨hs, .same rfl⟩
      · rename_i hlive
        exact ⟨hs.update_live (fun h => absurd h hlive) true, .same rfl⟩
  | assoc s =>
      rw [step]
      split
      · rename_i h
        exact change_assoc hs h.1 h.2
      · exact ⟨hs, .same rfl⟩
  | free s =>
      rw [step]
      split
      · exact change_free hs ‹_›
      · exact ⟨hs, .same rfl⟩
  | status rr startedAid =>
      cases startedAid with
      | none => exact ⟨⟨hs.staAid_eq, hs.aid_le, hs.pos⟩, .same rfl⟩
      | some n =>
          refine ⟨⟨hs.staAid_eq, hs.aid_le, ?_⟩, .same rfl⟩
          simp only [step, procSetAidStatus]
          split
          · exact Nat.one_pos
          · omega

/-- The bounds of the search stay, and its start does without round robin. -/
lemma step_bounds (p : StaPriv σ) (o : Op σ) :
    (step p o).1.maxAid = p.maxAid ∧ (step p o).1.maxNumSta = p.maxNumSta ∧
      (¬ o.IsStatus → p.rrAid = false →
        (step p o).1.rrAid = false ∧ (step p o).1.startedAid = p.startedAid) := by
  cases o with
  | auth s =>
      rw [step]
      split <;> exact ⟨rfl, rfl, fun _ hrr => ⟨hrr, rfl⟩⟩
  | assoc s =>
      rw [step]
      split
      · rcases rtwAidAlloc_cases p s with ⟨heq, -⟩ | ⟨i, -, -, -, heq⟩
        · rw [heq]
          exact ⟨rfl, rfl, fun _ hrr => ⟨hrr, rfl⟩⟩
        · rw [heq]
          exact ⟨rfl, rfl, fun _ hrr => ⟨hrr, if_neg (by simp [hrr])⟩⟩
      · exact ⟨rfl, rfl, fun _ hrr => ⟨hrr, rfl⟩⟩
  | free s =>
      rw [step]
      split
      · rw [rtwFreeStainfo]
        split <;> exact ⟨rfl, rfl, fun _ hrr => ⟨hrr, rfl⟩⟩
      · exact ⟨rfl, rfl, fun _ hrr => ⟨hrr, rfl⟩⟩
  | status rr startedAid =>
      refine ⟨?_, ?_, fun ho => absurd trivial ho⟩ <;> cases startedAid <;> rfl

/-! ### Runs -/

omit [DecidableEq σ] in
lemma meets_iff : Meets p ↔ (p.maxNumSta ≤ (taken p).card → window p ⊆ taken p) := by
  rw [window_subset_iff]
  rfl

/-- The stations are no more than there may be. -/
lemma card_step_le (hs : Sound p) (hm : Meets p) (hcard : (taken p).card ≤ p.maxNumSta)
    (o : Op σ) : (taken (step p o).1).card ≤ p.maxNumSta := by
  cases (change_step hs o).2 with
  | same h => rwa [h]
  | take hi hfree h =>
      have hlt : (taken p).card < p.maxNumSta := by
        by_contra hle
        exact hfree (meets_iff.1 hm (Nat.not_lt.1 hle) hi)
      rw [h, Finset.card_insert_of_notMem hfree]
      exact hlt
  | drop h =>
      rw [h]
      exact (Finset.card_erase_le).trans hcard

lemma rtwAidAlloc_eq_zero_iff : (rtwAidAlloc p s).2 = 0 ↔ window p ⊆ taken p := by
  rcases rtwAidAlloc_cases p s with ⟨heq, hfull⟩ | ⟨i, hwin, -, hfree, heq⟩
  · exact iff_of_true (by rw [heq]) hfull
  · refine iff_of_false (by rw [heq]; exact Nat.succ_ne_zero i) fun hfull => ?_
    have := (mem_taken.1 (hfull hwin)).2
    rw [hfree] at this
    exact Bool.false_ne_true this

omit [DecidableEq σ] in
/-- If the search fails, all AIDs are assigned or as many as there may be. -/
lemma Sound.full (hs : Sound p) (h : window p ⊆ taken p) :
    (taken p).card = p.maxAid ∨ p.maxNumSta ≤ (taken p).card := by
  have hle := Finset.card_le_card h
  rw [card_window hs.pos] at hle
  have := card_taken_le p
  omega

omit [DecidableEq σ] in
/-- If all AIDs are assigned, those before the limit are. -/
lemma window_subset_of_card (h : (taken p).card = p.maxAid) : window p ⊆ taken p := by
  have hall : taken p = Finset.range p.maxAid :=
    Finset.eq_of_subset_of_card_le (Finset.filter_subset _ _) (by rw [Finset.card_range, h])
  intro i hi
  obtain ⟨j, hj, rfl⟩ := Finset.mem_image.1 hi
  rw [hall]
  exact Finset.mem_range.2 (aidAt_sub_lt (lt_min_iff.1 (Finset.mem_range.1 hj)).1)

lemma conforms_of_meets (hs : Sound p) (hm : Meets p) (hcard : (taken p).card ≤ p.maxNumSta) :
    Conforms p where
  unique s t hlive hlive' heq hne := by
    obtain ⟨i, hi⟩ := Nat.exists_eq_succ_of_ne_zero hne
    have h := (hs.staAid_eq i s).2 ⟨hlive, hi⟩
    rw [(hs.staAid_eq i t).2 ⟨hlive', heq.symm.trans hi⟩] at h
    exact (Option.some.inj h).symm
  inRange := hs.aid_le
  assigned i := by
    rw [mem_taken, Option.isSome_iff_exists]
    constructor
    · rintro ⟨-, s, h⟩
      exact ⟨s, (hs.staAid_eq i s).1 h⟩
    · rintro ⟨s, hlive, hi⟩
      have := hs.aid_le s hlive
      exact ⟨by omega, s, (hs.staAid_eq i s).2 ⟨hlive, hi⟩⟩
  limit := hcard
  fails_iff s := by
    rw [rtwAidAlloc_eq_zero_iff]
    constructor
    · exact hs.full
    · rintro (h | h)
      · exact window_subset_of_card h
      · exact meets_iff.1 hm h

lemma Conforms.meets (h : Conforms p) : Meets p := by
  refine meets_iff.2 fun hle i hi => ?_
  obtain ⟨j, hj, -⟩ := Finset.mem_image.1 hi
  have hpos : 0 < (taken p).card :=
    (Nat.zero_lt_of_lt (lt_min_iff.1 (Finset.mem_range.1 hj)).2).trans_le hle
  obtain ⟨m, hm⟩ := Finset.card_pos.1 hpos
  obtain ⟨s, -⟩ := (h.assigned m).1 hm
  exact rtwAidAlloc_eq_zero_iff.1 ((h.fails_iff s).2 (.inr hle)) hi

variable {maxAid maxNumSta : ℕ} {rr : Bool} {ops : List (Op σ)}

omit [DecidableEq σ] in
lemma sound_start : Sound (start maxAid maxNumSta rr : StaPriv σ) where
  staAid_eq i s := by simp [start]
  aid_le s h := absurd h Bool.false_ne_true
  pos := Nat.one_pos

omit [DecidableEq σ] in
lemma taken_start : taken (start maxAid maxNumSta rr : StaPriv σ) = ∅ :=
  Finset.filter_false_of_mem fun _ _ => Bool.false_ne_true

/-- In every run the table is that of the stations. -/
lemma sound_run {a n : ℕ} {r : Bool} (ops : List (Op σ)) :
    Sound (Machine.final step (start a n r) ops) :=
  Machine.final_induction (I := Sound) (fun _ o _ hs => (change_step hs o).1) sound_start
    (Machine.along_of_forall (Q := fun _ => True) fun _ _ => trivial)

lemma run_bounds {a n : ℕ} {r : Bool} (ops : List (Op σ)) :
    (Machine.final step (start a n r) ops).maxAid = a ∧
      (Machine.final step (start a n r) ops).maxNumSta = n := by
  induction ops using List.reverseRecOn with
  | nil => exact ⟨rfl, rfl⟩
  | append_singleton ops o ih =>
      rw [Machine.final_concat]
      have h := step_bounds (Machine.final step (start a n r) ops) o
      exact ⟨h.1.trans ih.1, h.2.1.trans ih.2⟩

lemma card_run_le
    (h : ∀ pre, pre <+: ops → Meets (Machine.final step (start maxAid maxNumSta rr) pre)) :
    (taken (Machine.final step (start maxAid maxNumSta rr) ops)).card ≤ maxNumSta := by
  induction ops using List.reverseRecOn with
  | nil => simp [taken_start]
  | append_singleton ops o ih =>
      rw [Machine.final_concat]
      have hbounds := run_bounds (a := maxAid) (n := maxNumSta) (r := rr) ops
      have hle := ih fun pre hpre => h pre (hpre.trans (List.prefix_append _ _))
      refine (card_step_le (sound_run ops) (h ops (List.prefix_append _ _)) ?_ o).trans hbounds.2.le
      exact hle.trans hbounds.2.ge

/-- Without round robin only places before the limit are taken. -/
lemma window_run (hrr : rr = false) (ho : ∀ o ∈ ops, ¬ o.IsStatus) :
    taken (Machine.final step (start maxAid maxNumSta rr) ops) ⊆
        window (Machine.final step (start maxAid maxNumSta rr) ops) ∧
      (Machine.final step (start maxAid maxNumSta rr) ops).rrAid = false := by
  induction ops using List.reverseRecOn with
  | nil => exact ⟨by simp [taken_start], hrr⟩
  | append_singleton ops o ih =>
      rw [Machine.final_concat]
      obtain ⟨hsub, hno⟩ := ih fun o' ho' => ho o' (List.mem_append_left _ ho')
      obtain ⟨hmax, hnum, hstart⟩ :=
        step_bounds (Machine.final step (start maxAid maxNumSta rr) ops) o
      obtain ⟨hno', hstarted⟩ := hstart (ho o (by simp)) hno
      refine ⟨?_, hno'⟩
      have hwin : window (step (Machine.final step (start maxAid maxNumSta rr) ops) o).1 =
          window (Machine.final step (start maxAid maxNumSta rr) ops) := by
        simp only [window, aidAt, hmax, hnum, hstarted]
      rw [hwin]
      cases (change_step (sound_run ops) o).2 with
      | same h => rwa [h]
      | take hi _ h =>
          rw [h]
          exact Finset.insert_subset hi hsub
      | drop h =>
          rw [h]
          exact (Finset.erase_subset _ _).trans hsub

/-- With at least as many stations allowed as there are AIDs, or without round robin, the search
meets all stations in time. -/
lemma meets_run (h : maxAid ≤ maxNumSta ∨ rr = false ∧ ∀ o ∈ ops, ¬ o.IsStatus) :
    Meets (Machine.final step (start maxAid maxNumSta rr) ops) := by
  have hs := sound_run (a := maxAid) (n := maxNumSta) (r := rr) ops
  have hbounds := run_bounds (a := maxAid) (n := maxNumSta) (r := rr) ops
  refine meets_iff.2 fun hle => ?_
  rcases h with h | ⟨hrr, ho⟩
  · have hcard := card_taken_le (Machine.final step (start maxAid maxNumSta rr) ops)
    refine window_subset_of_card ?_
    omega
  · refine (Finset.eq_of_subset_of_card_le (window_run hrr ho).1 ?_).ge
    rw [card_window hs.pos]
    omega

/-- Over a run the AIDs are as they are to be exactly if the search always meets the stations that
there may be; so it is with as many of these as AIDs, and without round robin. -/
theorem aid_conforms_iff (maxAid maxNumSta : ℕ) (rr : Bool) (ops : List (Op σ)) :
    ((∀ pre, pre <+: ops → Conforms (Machine.final step (start maxAid maxNumSta rr) pre)) ↔
      ∀ pre, pre <+: ops → Meets (Machine.final step (start maxAid maxNumSta rr) pre)) ∧
    (maxAid ≤ maxNumSta ∨ (rr = false ∧ ∀ o ∈ ops, ¬ o.IsStatus) →
      ∀ pre, pre <+: ops → Conforms (Machine.final step (start maxAid maxNumSta rr) pre)) := by
  have hiff : (∀ pre, pre <+: ops → Conforms (Machine.final step (start maxAid maxNumSta rr) pre)) ↔
      ∀ pre, pre <+: ops → Meets (Machine.final step (start maxAid maxNumSta rr) pre) := by
    constructor
    · intro h pre hpre
      exact (h pre hpre).meets
    · intro h pre hpre
      have hcard := card_run_le fun pre' hpre' => h pre' (hpre'.trans hpre)
      refine conforms_of_meets (sound_run pre) (h pre hpre) ?_
      rwa [(run_bounds pre).2]
  refine ⟨hiff, fun hok => hiff.2 fun pre hpre => meets_run ?_⟩
  exact hok.imp_right fun h => ⟨h.1, fun o ho => h.2 o (hpre.subset ho)⟩

/-- Three stations come. -/
def threeJoin : List (Op (Fin 3)) :=
  [.auth 0, .assoc 0, .auth 1, .assoc 1, .auth 2, .assoc 2]

/-- With two AIDs and two stations allowed the third is refused. -/
theorem aid_conforms_iff_threeJoin :
    ∀ pre, pre <+: threeJoin → Conforms (Machine.final step (start 2 2 true) pre) :=
  (aid_conforms_iff 2 2 true threeJoin).2 (.inl le_rfl)

/-- With round robin the third of three stations has an AID where only two are allowed. -/
theorem roundRobin_exceeds :
    ¬ ∀ pre, pre <+: threeJoin → Conforms (Machine.final step (start 4 2 true) pre) := by
  intro h
  have hlimit : (taken (Machine.final step (start 4 2 true) threeJoin)).card ≤ 2 :=
    (h threeJoin List.prefix_rfl).limit
  exact absurd hlimit (by decide)

end Rtl8723du.Aid
