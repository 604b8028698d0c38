import Mathlib.Algebra.Order.BigOperators.Group.List
import Mathlib.Algebra.Ring.Defs
import Mathlib.Algebra.Ring.Int.Defs
import Rtl8723du.Bt.Coex

/-!
# The counts of profiles in use

The counts over all connections are to be the sums of those of each connection, no count is to
be negative, and a bit is to be set exactly when its count is positive.  The two levels are not
kept together: a connection that is complete again loses its own counts only, the interval of
HID is counted on the connection only, and a disconnection takes what it finds in the list of
channels.  `coex_balanced_iff` says which events keep the counts in order.
-/

namespace Rtl8723du.Bt

open Lib Lib.Machine Function

/-! ### Counts as numbers -/

/-- A count. -/
def Counts.cnt (x : Counts) (p : Profile) : ℤ := (x.profileRefcount p).toInt

variable {x g : Counts} {c : Conn} {p q : Profile} {busy : Bool}

lemma refcount_eq_zero : x.profileRefcount p = 0 ↔ x.cnt p = 0 := by
  constructor
  · intro h
    rw [Counts.cnt, h]
    rfl
  · intro h
    exact BitVec.eq_of_toInt_eq h

lemma cnt_le (x : Counts) (p : Profile) : -128 ≤ x.cnt p ∧ x.cnt p ≤ 127 := by
  have hlow := BitVec.le_toInt (x.profileRefcount p)
  have hhigh := BitVec.toInt_lt (x := x.profileRefcount p)
  rw [Counts.cnt]
  constructor <;> omega

lemma toInt_add_one (n : BitVec 8) :
    (n + 1).toInt = if n.toInt = 127 then -128 else n.toInt + 1 := by
  revert n
  decide +kernel

lemma toInt_sub_one (n : BitVec 8) :
    (n - 1).toInt = if n.toInt = -128 then 127 else n.toInt - 1 := by
  revert n
  decide +kernel

lemma cnt_add : (x.add p busy).cnt q =
    if q = p then if x.cnt p = 127 then -128 else x.cnt p + 1 else x.cnt q := by
  unfold Counts.cnt Counts.add
  by_cases hq : q = p
  · subst hq
    rw [if_pos rfl, ← toInt_add_one]
    simp
  · simp [hq]

lemma bitmap_add : (x.add p busy).profileBitmap q =
    if q = p ∧ x.cnt p = 0 then true else x.profileBitmap q := by
  rw [Counts.add]
  by_cases hzero : x.cnt p = 0
  · rw [if_pos (refcount_eq_zero.2 hzero)]
    by_cases hq : q = p <;> simp [hzero, hq]
  · have hne : ¬ (q = p ∧ x.cnt p = 0) := fun hand => hzero hand.2
    rw [if_neg hne]
    dsimp only
    rw [if_neg (fun heq => hzero (refcount_eq_zero.1 heq))]

lemma cnt_decr : (x.decr p).cnt q =
    if q = p then if x.cnt p = -128 then 127 else x.cnt p - 1 else x.cnt q := by
  unfold Counts.cnt Counts.decr
  by_cases hq : q = p
  · subst hq
    rw [if_pos rfl, ← toInt_sub_one]
    simp
  · simp [hq]

@[simp] lemma cnt_clear : (x.clear p).cnt q = x.cnt q := rfl

lemma cnt_remove : (x.remove p).cnt q = (x.decr p).cnt q := by
  rw [Counts.remove]
  split_ifs <;> rfl

lemma bitmap_remove : (x.remove p).profileBitmap q =
    if q = p ∧ (x.decr p).cnt p = 0 then false else x.profileBitmap q := by
  rw [Counts.remove]
  by_cases hzero : (x.decr p).cnt p = 0
  · rw [if_pos (refcount_eq_zero.2 hzero)]
    by_cases hq : q = p
    · rw [if_pos ⟨hq, hzero⟩, hq]
      exact update_self ..
    · rw [if_neg (fun hand => hq hand.1)]
      exact update_of_ne hq ..
  · rw [if_neg (fun heq => hzero (refcount_eq_zero.1 heq)), if_neg (fun hand => hzero hand.2)]
    rfl

/-! ### Counts that are in order -/

/-- No count is negative, and the bits are those of the positive ones. -/
structure Sound (x : Counts) : Prop where
  nonneg : ∀ p, 0 ≤ x.cnt p
  bit : ∀ p, x.profileBitmap p = true ↔ 0 < x.cnt p

/-- The counts over all connections, those of one and the sums over the others. -/
structure Tied (g c : Counts) (rest : Profile → ℤ) : Prop where
  total : Sound g
  conn : Sound c
  sum : ∀ p, g.cnt p = c.cnt p + rest p

/-- The counts over all connections are the sums of those of each. -/
structure Balanced (g : Counts) (conns : List Conn) : Prop where
  total : Sound g
  parts : ∀ c ∈ conns, Sound c.toCounts
  sum : ∀ p, g.cnt p = (conns.map (·.cnt p)).sum

/-- The sums over the other connections. -/
def restOf (pl : Place Conn) (p : Profile) : ℤ := (pl.erase.map (·.cnt p)).sum

lemma sum_set (pl : Place Conn) (c : Conn) (p : Profile) :
    ((pl.set c).map (·.cnt p)).sum = c.cnt p + restOf pl p := by
  simp only [restOf, Place.erase, Place.map_set, List.sum_append, List.sum_cons, List.map_append]
  omega

lemma balanced_set_iff {pl : Place Conn} (hrest : ∀ c ∈ pl.erase, Sound c.toCounts) :
    Balanced g (pl.set c) ↔ Tied g c.toCounts (restOf pl) := by
  constructor
  · intro h
    exact ⟨h.total, h.parts c (by simp), fun p => by rw [h.sum, sum_set]⟩
  · intro h
    refine ⟨h.total, fun c' hc' => ?_, fun p => by rw [h.sum, sum_set]⟩
    rcases Place.mem_set.1 hc' with hmem | rfl
    · exact hrest c' hmem
    · exact h.conn

variable {conns : List Conn} {pl : Place Conn} {rest : Profile → ℤ}

lemma Balanced.rest_sound (h : Balanced g conns) (hpl : pl.list = conns) :
    ∀ c ∈ pl.erase, Sound c.toCounts := by
  intro c hc
  refine h.parts c ?_
  rw [← hpl]
  exact Place.mem_set.2 (.inl hc)

/-- In a state in order, the connection that is picked is tied to the others. -/
lemma Balanced.tied (h : Balanced g conns) (hpl : pl.list = conns) :
    Tied g pl.elem.toCounts (restOf pl) := by
  rw [← balanced_set_iff (h.rest_sound hpl)]
  rw [← hpl] at h
  exact h

lemma Balanced.rest_nonneg (h : Balanced g conns) (hpl : pl.list = conns) (p : Profile) :
    0 ≤ restOf pl p := by
  refine List.sum_nonneg fun n hn => ?_
  obtain ⟨c, hc, rfl⟩ := List.mem_map.1 hn
  exact (h.rest_sound hpl c hc).nonneg p

lemma Sound.bit_false (h : Sound x) : x.profileBitmap p = false ↔ x.cnt p = 0 := by
  rw [← Bool.not_eq_true, h.bit p]
  have := h.nonneg p
  omega

/-! ### One use more -/

lemma Sound.add (h : Sound x) (hp : x.cnt p ≠ 127) : Sound (x.add p busy) := by
  constructor
  · intro q
    rw [cnt_add, if_neg hp]
    have hq := h.nonneg q
    have hnn := h.nonneg p
    split <;> omega
  · intro q
    rw [cnt_add, if_neg hp, bitmap_add]
    by_cases hq : q = p
    · subst hq
      have hnn := h.nonneg q
      by_cases hzero : x.cnt q = 0
      · simp [hzero]
      · simp only [hzero, and_false, if_false, if_true]
        rw [h.bit q]
        omega
    · simp only [hq, false_and, if_false]
      exact h.bit q

lemma not_sound_add (hp : x.cnt p = 127) : ¬ Sound (x.add p busy) := by
  intro h
  have hnn := h.nonneg p
  rw [cnt_add, if_pos rfl, if_pos hp] at hnn
  omega

@[simp] lemma resetPacketCount_toCounts : (c.resetPacketCount p).toCounts = c.toCounts := by
  rw [Conn.resetPacketCount]
  split <;> rfl

lemma Conn.add_toCounts : (c.add p).toCounts = c.toCounts.add p false := by
  unfold Conn.add
  rfl

/-- A use that is added to both levels keeps them tied, if the count over all connections does
not overflow. -/
lemma tied_add_iff (hg : Sound g) (hc : Sound c.toCounts) (hle : c.cnt p ≤ g.cnt p) :
    Tied (g.add p busy) (c.add p).toCounts rest ↔
      g.cnt p ≠ 127 ∧ ∀ q, g.cnt q = c.cnt q + rest q := by
  rw [Conn.add_toCounts]
  constructor
  · intro h
    have hover : g.cnt p ≠ 127 := fun hmax => not_sound_add hmax h.total
    have hhigh := (cnt_le g p).2
    have hover' : c.cnt p ≠ 127 := by omega
    refine ⟨hover, fun q => ?_⟩
    have hsum := h.sum q
    rw [cnt_add, cnt_add, if_neg hover, if_neg hover'] at hsum
    by_cases hq : q = p
    · subst hq
      simp only [if_true] at hsum
      omega
    · simpa [hq] using hsum
  · rintro ⟨hover, hsum⟩
    have hhigh := (cnt_le g p).2
    have hover' : c.cnt p ≠ 127 := by omega
    refine ⟨hg.add hover, hc.add hover', fun q => ?_⟩
    rw [cnt_add, cnt_add, if_neg hover, if_neg hover']
    have hq := hsum q
    split
    · subst q
      omega
    · exact hq

/-! ### One use less -/

lemma Sound.remove (h : Sound x) (hp : x.cnt p ≠ 0) : Sound (x.remove p) := by
  have hpos := h.nonneg p
  have hdecr : (x.decr p).cnt p = x.cnt p - 1 := by
    rw [cnt_decr, if_pos rfl, if_neg (by omega)]
  constructor
  · intro q
    rw [cnt_remove]
    by_cases hq : q = p
    · subst hq
      omega
    · rw [cnt_decr, if_neg hq]
      exact h.nonneg q
  · intro q
    rw [cnt_remove, bitmap_remove]
    by_cases hq : q = p
    · subst hq
      rw [hdecr]
      by_cases hone : x.cnt q - 1 = 0
      · simp [hone]
      · simp only [hone, and_false, if_false]
        rw [h.bit q]
        omega
    · have hother : (x.decr p).cnt q = x.cnt q := by rw [cnt_decr, if_neg hq]
      rw [hother, if_neg (fun hand => hq hand.1)]
      exact h.bit q

/-- No interval of HID is counted on the connection. -/
def NoInterval (x : Counts) : Prop := x.cnt .hidInterval = 0 ∧ x.profileBitmap .hidInterval = false

lemma Sound.noInterval (h : Sound x) (hzero : x.cnt .hidInterval = 0) : NoInterval x :=
  ⟨hzero, h.bit_false.2 hzero⟩

lemma Conn.remove_toCounts (h : c.profileBitmap .hidInterval = false) (hp : p ≠ .hidInterval) :
    (c.remove p).toCounts = c.toCounts.remove p := by
  have hbit : (c.toCounts.remove p).profileBitmap .hidInterval = false := by
    rw [bitmap_remove, if_neg (fun hand => hp hand.1.symm)]
    exact h
  rw [Conn.remove]
  dsimp only
  split
  · rw [Conn.clearHidInterval]
    rw [if_neg]
    · rw [resetPacketCount_toCounts]
    · rintro ⟨-, hset⟩
      rw [resetPacketCount_toCounts] at hset
      rw [hbit] at hset
      cases hset
  · rfl

/-- A use that is taken from both levels keeps them tied, if the connection has one. -/
lemma tied_remove_iff (h : Tied g c.toCounts rest) (hint : c.profileBitmap .hidInterval = false)
    (hp : p ≠ .hidInterval) :
    Tied (updateProfileConnection g c p false).1 (updateProfileConnection g c p false).2.toCounts
        rest ↔ (g.cnt p ≠ 0 → 0 < c.cnt p) := by
  rw [updateProfileConnection]
  rw [if_neg Bool.false_ne_true]
  by_cases hzero : g.cnt p = 0
  · rw [if_pos (refcount_eq_zero.2 hzero)]
    exact iff_of_true h (fun hne => absurd hzero hne)
  · rw [if_neg (fun heq => hzero (refcount_eq_zero.1 heq))]
    dsimp only
    rw [Conn.remove_toCounts hint hp]
    have hcn := h.conn.nonneg p
    have hgn := h.total.nonneg p
    constructor
    · intro h' _
      have hneg := h'.conn.nonneg p
      rw [cnt_remove, cnt_decr, if_pos rfl, if_neg (by omega)] at hneg
      omega
    · intro hpos
      have hc := hpos hzero
      refine ⟨h.total.remove hzero, h.conn.remove (by omega), fun q => ?_⟩
      have hlow : g.cnt p ≠ -128 := by omega
      have hlow' : c.cnt p ≠ -128 := by omega
      rw [cnt_remove, cnt_remove, cnt_decr, cnt_decr, if_neg hlow, if_neg hlow']
      have hq := h.sum q
      split
      · subst q
        omega
      · exact hq

lemma balanced_erase_iff (hrest : ∀ c ∈ pl.erase, Sound c.toCounts) :
    Balanced g pl.erase ↔ Sound g ∧ ∀ p, g.cnt p = restOf pl p :=
  ⟨fun h => ⟨h.total, h.sum⟩, fun h => ⟨h.1, hrest, h.2⟩⟩

/-- A connection that goes takes its use of one profile with it: it is to have one use of that,
and none of the others. -/
lemma erase_remove_iff (h : Tied g c.toCounts rest) (hrest : ∀ q, 0 ≤ rest q) :
    (Sound (updateProfileConnection g c p false).1 ∧
        ∀ q, (updateProfileConnection g c p false).1.cnt q = rest q) ↔
      (∀ q, q ≠ p → c.cnt q = 0) ∧ (g.cnt p ≠ 0 → c.cnt p = 1) := by
  have hsum := h.sum
  rw [updateProfileConnection]
  rw [if_neg Bool.false_ne_true]
  by_cases hzero : g.cnt p = 0
  · rw [if_pos (refcount_eq_zero.2 hzero)]
    dsimp only
    constructor
    · rintro ⟨-, heq⟩
      refine ⟨fun q _ => ?_, fun hne => absurd hzero hne⟩
      have := hsum q
      have := heq q
      omega
    · rintro ⟨hnone, -⟩
      refine ⟨h.total, fun q => ?_⟩
      have hq := hsum q
      by_cases hqp : q = p
      · subst hqp
        have := hrest q
        have := h.conn.nonneg q
        omega
      · have := hnone q hqp
        omega
  · rw [if_neg (fun heq => hzero (refcount_eq_zero.1 heq))]
    have hgn := h.total.nonneg p
    have hlow : g.cnt p ≠ -128 := by omega
    have hcnt : ∀ q, (g.remove p).cnt q = if q = p then g.cnt p - 1 else g.cnt q := by
      intro q
      rw [cnt_remove, cnt_decr, if_neg hlow]
    constructor
    · rintro ⟨-, heq⟩
      refine ⟨fun q hq => ?_, fun _ => ?_⟩
      · have hq' := heq q
        rw [hcnt, if_neg hq] at hq'
        have := hsum q
        omega
      · have hp' := heq p
        rw [hcnt, if_pos rfl] at hp'
        have := hsum p
        omega
    · rintro ⟨hnone, hone⟩
      refine ⟨h.total.remove hzero, fun q => ?_⟩
      rw [hcnt]
      split
      · subst q
        have := hsum p
        have := hone hzero
        omega
      · have := hsum q
        have := hnone q ‹_›
        omega

/-! ### An ACL link goes -/

/-- What is kept while a link is taken down: its count of the sink is one that is counted. -/
structure Dismantling (g : Counts) (c : Conn) : Prop where
  total : Sound g
  interval : g.cnt .hidInterval = 0
  connInterval : c.profileBitmap .hidInterval = false
  sinkBit : c.profileBitmap .sink = true ↔ 0 < c.cnt .sink
  sinkNonneg : 0 ≤ c.cnt .sink
  sinkLe : c.cnt .sink ≤ g.cnt .sink

lemma bitmap_decr : (x.decr p).profileBitmap q = x.profileBitmap q := rfl

/-- The connection of `disconn_profile`. -/
lemma disconnProfile_conn (hint : c.profileBitmap .hidInterval = false)
    (hp : p ≠ .hidInterval) (hg : g.cnt p ≠ 0) :
    (disconnProfile g c p).1 = g.remove p ∧
      ∀ q, (disconnProfile g c p).2.cnt q =
          (if q = p ∧ c.cnt p ≠ 0 then (c.decr p).cnt p else c.cnt q) ∧
        (disconnProfile g c p).2.profileBitmap q =
          if q = p ∧ (c.cnt p = 0 ∨ (c.decr p).cnt p = 0) then false else c.profileBitmap q := by
  rw [disconnProfile]
  rw [if_neg (fun heq => hg (refcount_eq_zero.1 heq))]
  dsimp only
  have hreset : (if (g.remove p).profileRefcount p = 0 then c.resetPacketCount p else c).toCounts =
      c.toCounts := by
    split
    · exact resetPacketCount_toCounts
    · rfl
  generalize (if (g.remove p).profileRefcount p = 0 then c.resetPacketCount p else c) = d at hreset
  have hbit : d.profileBitmap .hidInterval = false := by
    rw [hreset]
    exact hint
  rw [← hreset]
  by_cases hzero : d.cnt p = 0
  · rw [if_neg (not_not.2 (refcount_eq_zero.2 hzero)),
      if_neg (not_not.2 (refcount_eq_zero.2 hzero)), lastUse, if_neg]
    · refine ⟨rfl, fun q => ⟨?_, ?_⟩⟩
      · rw [if_neg (fun hand => hand.2 hzero)]
        rfl
      · by_cases hq : q = p
        · subst hq
          rw [if_pos ⟨rfl, .inl hzero⟩]
          exact update_self ..
        · rw [if_neg (fun hand => hq hand.1)]
          exact update_of_ne hq ..
    · rintro ⟨-, hset⟩
      rw [hbit] at hset
      cases hset
  · have hne : d.profileRefcount p ≠ 0 := fun heq => hzero (refcount_eq_zero.1 heq)
    rw [if_pos hne]
    have hcnt : ∀ q, (d.decr p).cnt q = if q = p ∧ d.cnt p ≠ 0 then (d.decr p).cnt p
        else d.cnt q := by
      intro q
      by_cases hq : q = p
      · subst hq
        rw [if_pos ⟨rfl, hzero⟩]
      · rw [if_neg (fun hand => hq hand.1), cnt_decr, if_neg hq]
    by_cases hlast : (d.decr p).cnt p = 0
    · rw [if_neg (not_not.2 (refcount_eq_zero.2 hlast)), lastUse, if_neg]
      · refine ⟨rfl, fun q => ⟨hcnt q, ?_⟩⟩
        by_cases hq : q = p
        · subst hq
          rw [if_pos ⟨rfl, .inr hlast⟩]
          exact update_self ..
        · rw [if_neg (fun hand => hq hand.1)]
          exact update_of_ne hq ..
      · rintro ⟨-, hset⟩
        rw [bitmap_decr, hbit] at hset
        cases hset
    · rw [if_pos (fun heq => hlast (refcount_eq_zero.1 heq))]
      refine ⟨rfl, fun q => ⟨hcnt q, ?_⟩⟩
      rw [if_neg (fun hand => hand.2.elim hzero hlast)]
      rfl

/-- One use of a profile less, while a link is taken down. -/
lemma disconnProfile_spec (h : Dismantling g c) (hp : p ≠ .hidInterval) :
    Dismantling (disconnProfile g c p).1 (disconnProfile g c p).2 ∧
      (∀ q, (disconnProfile g c p).1.cnt q =
        if q = p then max 0 (g.cnt p - 1) else g.cnt q) ∧
      (disconnProfile g c p).2.cnt .sink =
        if p = .sink then max 0 (c.cnt .sink - 1) else c.cnt .sink := by
  have hnn := h.total.nonneg p
  have hsink := h.sinkNonneg
  have hle := h.sinkLe
  by_cases hzero : g.cnt p = 0
  · have hsame : disconnProfile g c p = (g, c) := by
      rw [disconnProfile, if_pos (refcount_eq_zero.2 hzero)]
    rw [hsame]
    refine ⟨h, fun q => ?_, ?_⟩
    · split
      · subst q
        dsimp only
        omega
      · rfl
    · split
      · subst p
        dsimp only
        omega
      · rfl
  · obtain ⟨hg, hc⟩ := disconnProfile_conn (g := g) h.connInterval hp hzero
    have hlow : g.cnt p ≠ -128 := by omega
    have hcnt : ∀ q, (g.remove p).cnt q = if q = p then max 0 (g.cnt p - 1) else g.cnt q := by
      intro q
      rw [cnt_remove, cnt_decr, if_neg hlow]
      split <;> omega
    have hlowc : c.cnt .sink ≠ -128 := by omega
    have hcs : (disconnProfile g c p).2.cnt .sink =
        if p = .sink then max 0 (c.cnt .sink - 1) else c.cnt .sink := by
      rw [(hc .sink).1]
      by_cases hps : p = .sink
      · subst hps
        by_cases hcz : c.cnt .sink = 0
        · rw [if_neg (fun hand => hand.2 hcz), if_pos rfl]
          omega
        · rw [if_pos ⟨rfl, hcz⟩, if_pos rfl, cnt_decr, if_pos rfl, if_neg hlowc]
          omega
      · rw [if_neg (fun hand => hps hand.1.symm), if_neg hps]
    rw [hg]
    refine ⟨⟨h.total.remove hzero, ?_, ?_, ?_, ?_, ?_⟩, hcnt, hcs⟩
    · rw [hcnt, if_neg hp.symm]
      exact h.interval
    · rw [(hc .hidInterval).2, if_neg (fun hand => hp hand.1.symm)]
      exact h.connInterval
    · rw [hcs, (hc .sink).2]
      by_cases hps : p = .sink
      · subst hps
        rw [if_pos rfl, cnt_decr, if_pos rfl, if_neg hlowc]
        by_cases hone : c.cnt .sink = 0 ∨ c.cnt .sink - 1 = 0
        · rw [if_pos ⟨rfl, hone⟩]
          refine iff_of_false Bool.false_ne_true ?_
          omega
        · rw [if_neg (fun hand => hone hand.2), h.sinkBit]
          omega
      · rw [if_neg (fun hand => hps hand.1.symm), if_neg hps]
        exact h.sinkBit
    · rw [hcs]
      split <;> omega
    · rw [hcs, hcnt]
      split
      · subst p
        rw [if_pos rfl]
        omega
      · rw [if_neg (Ne.symm ‹_›)]
        exact hle

/-- The channel has A2DP media data. -/
def ProfInfo.isMedia (d : ProfInfo) : Bool := d.flags &&& a2dpMedia != 0

/-- One channel of a link that is taken down. -/
lemma disconnChannel_spec (h : Dismantling g c) {d : ProfInfo}
    (hd : d.profileIndex ≠ .hidInterval) (hs : d.profileIndex ≠ .sink) :
    Dismantling (disconnChannel (g, c) d).1 (disconnChannel (g, c) d).2 ∧
      (∀ q, q ≠ .sink → (disconnChannel (g, c) d).1.cnt q =
        if q = d.profileIndex then max 0 (g.cnt q - 1) else g.cnt q) ∧
      (disconnChannel (g, c) d).1.cnt .sink - (disconnChannel (g, c) d).2.cnt .sink =
        g.cnt .sink - c.cnt .sink ∧
      (disconnChannel (g, c) d).2.cnt .sink =
        if d.isMedia then max 0 (c.cnt .sink - 1) else c.cnt .sink := by
  obtain ⟨hfirst, hcnt, hsink⟩ := disconnProfile_spec h hd
  rw [if_neg hs] at hsink
  have hgs := hcnt .sink
  rw [if_neg hs.symm] at hgs
  have hone : ∀ q, q ≠ .sink → (disconnProfile g c d.profileIndex).1.cnt q =
      if q = d.profileIndex then max 0 (g.cnt q - 1) else g.cnt q := by
    intro q _
    rw [hcnt]
    split
    · rw [‹q = _›]
    · rfl
  rw [disconnChannel]
  dsimp only
  by_cases hmedia : d.isMedia = true
  · have hflag : d.flags &&& a2dpMedia ≠ 0 := by simpa [ProfInfo.isMedia] using hmedia
    rw [if_pos hmedia]
    by_cases hbit : (disconnProfile g c d.profileIndex).2.profileBitmap .sink = true
    · rw [if_pos ⟨hflag, hbit⟩]
      obtain ⟨hsecond, hcnt', hsink'⟩ := disconnProfile_spec (p := .sink) hfirst (by decide)
      have hpos := hfirst.sinkBit.1 hbit
      have hle := hfirst.sinkLe
      rw [if_pos rfl] at hsink'
      have hgs' := hcnt' .sink
      rw [if_pos rfl] at hgs'
      refine ⟨hsecond, fun q hq => ?_, ?_, ?_⟩
      · rw [hcnt', if_neg hq]
        exact hone q hq
      · omega
      · omega
    · rw [if_neg (fun hand => hbit hand.2)]
      have hzero : ¬ 0 < (disconnProfile g c d.profileIndex).2.cnt .sink :=
        fun hpos => hbit (hfirst.sinkBit.2 hpos)
      have hnn := hfirst.sinkNonneg
      refine ⟨hfirst, hone, ?_, ?_⟩
      · omega
      · omega
  · have hflag : ¬ d.flags &&& a2dpMedia ≠ 0 := by simpa [ProfInfo.isMedia] using hmedia
    rw [if_neg (fun hand => hflag hand.1), if_neg hmedia]
    exact ⟨hfirst, hone, by omega, hsink⟩

/-- The channels of a profile, as many as there are. -/
def uses (channels : List ProfInfo) (p : Profile) : ℤ :=
  (channels.countP (·.profileIndex = p) : ℕ)

/-- The channels with media data. -/
def mediaChannels (channels : List ProfInfo) : ℤ := (channels.countP ProfInfo.isMedia : ℕ)

/-- All channels of a link that is taken down: each takes a use of its profile, if there is one
left, and each with media data one of the sink. -/
lemma disconnChannels_spec {channels : List ProfInfo} (h : Dismantling g c)
    (hidx : ∀ d ∈ channels, d.profileIndex ≠ .hidInterval ∧ d.profileIndex ≠ .sink) :
    Sound (channels.foldl disconnChannel (g, c)).1 ∧
      (∀ q, q ≠ .sink → (channels.foldl disconnChannel (g, c)).1.cnt q =
        max 0 (g.cnt q - uses channels q)) ∧
      (channels.foldl disconnChannel (g, c)).1.cnt .sink =
        g.cnt .sink - min (mediaChannels channels) (c.cnt .sink) := by
  induction channels generalizing g c with
  | nil =>
      refine ⟨h.total, fun q _ => ?_, ?_⟩
      · have := h.total.nonneg q
        simp only [List.foldl_nil, uses, List.countP_nil]
        omega
      · have := h.sinkNonneg
        simp only [List.foldl_nil, mediaChannels, List.countP_nil]
        omega
  | cons d channels ih =>
      obtain ⟨hd, hs⟩ := hidx d (by simp)
      obtain ⟨hkeep, hcnt, hdiff, hsink⟩ := disconnChannel_spec h hd hs
      obtain ⟨hsound, hcnt', hsink'⟩ :=
        ih hkeep fun d' hd' => hidx d' (List.mem_cons_of_mem d hd')
      refine ⟨hsound, fun q hq => ?_, ?_⟩
      · rw [List.foldl_cons, hcnt' q hq, hcnt q hq]
        unfold uses
        rw [List.countP_cons]
        by_cases hidx' : d.profileIndex = q
        · subst hidx'
          simp only [if_true, decide_true]
          push_cast
          omega
        · simp only [hidx', Ne.symm hidx', if_false, decide_false, Bool.false_eq_true]
          push_cast
          omega
      · rw [List.foldl_cons, hsink']
        have hnn := h.sinkNonneg
        unfold mediaChannels
        rw [List.countP_cons]
        by_cases hmedia : d.isMedia = true
        · rw [if_pos hmedia] at hsink ⊢
          push_cast
          omega
        · rw [if_neg hmedia] at hsink ⊢
          push_cast
          omega

/-- A link that goes takes its uses with it, if its channels are as many as its counts. -/
lemma erase_channels_iff {channels : List ProfInfo} (h : Tied g c.toCounts rest)
    (hrest : ∀ q, 0 ≤ rest q) (hint : g.cnt .hidInterval = 0)
    (hidx : ∀ d ∈ channels, d.profileIndex ≠ .hidInterval ∧ d.profileIndex ≠ .sink) :
    (Sound (channels.foldl disconnChannel (g, c)).1 ∧
        ∀ q, (channels.foldl disconnChannel (g, c)).1.cnt q = rest q) ↔
      (∀ q, q ≠ .sink → min (g.cnt q) (uses channels q) = c.cnt q) ∧
        c.cnt .sink ≤ mediaChannels channels := by
  have hcint : c.cnt .hidInterval = 0 := by
    have := h.sum .hidInterval
    have := hrest .hidInterval
    have := h.conn.nonneg .hidInterval
    omega
  have hdis : Dismantling g c := by
    refine ⟨h.total, hint, (h.conn.noInterval hcint).2, h.conn.bit .sink, h.conn.nonneg .sink, ?_⟩
    have := h.sum .sink
    have := hrest .sink
    omega
  obtain ⟨hsound, hcnt, hsink⟩ := disconnChannels_spec hdis hidx
  constructor
  · rintro ⟨-, heq⟩
    constructor
    · intro q hq
      have := heq q
      have := hcnt q hq
      have := h.sum q
      omega
    · have := heq .sink
      have := h.sum .sink
      omega
  · rintro ⟨huses, hmedia⟩
    refine ⟨hsound, fun q => ?_⟩
    by_cases hq : q = .sink
    · subst hq
      have := h.sum .sink
      omega
    · have := huses q hq
      have := hcnt q hq
      have := h.sum q
      omega

end Rtl8723du.Bt
