import Mathlib.Data.List.GetD
import Rtl8723du.Lib.Memory

/-!
# Register maps

`map_readN` and `map_read8` of `os_dep/osdep_service.c`.  A map gives a byte to each offset below
its length, by segments and by a default value where there is none.

What `map_readN` writes are the bytes that `map_read8` returns.  But it returns `_FAIL` whatever it
does, as its `ret` is never set.
-/

namespace Rtl8723du.Osdep

open Lib.Memory

/-! ### The code -/

/-- `struct map_seg_t`; `c` points to `len` bytes. -/
structure MapSeg where
  sa : UInt16
  len : UInt16
  c : List UInt8
  length_c : c.length = len.toNat

/-- `struct map_t`; there are `seg_num` segments. -/
structure RegMap where
  len : UInt16
  initValue : UInt8
  segs : List MapSeg

/-- The segment has none of the `n` offsets from `offset` on. -/
def MapSeg.skips (seg : MapSeg) (offset n : ℕ) : Bool :=
  seg.sa.toNat + seg.len.toNat ≤ offset || offset + n ≤ seg.sa.toNat

/-- `c_len`, a `u16`. -/
def MapSeg.cLen (seg : MapSeg) (offset len : ℕ) : ℕ :=
  (if offset ≤ seg.sa.toNat then
    if seg.sa.toNat + seg.len.toNat ≤ offset + len then seg.len.toNat
    else offset + len - seg.sa.toNat
  else
    if offset + len ≤ seg.sa.toNat + seg.len.toNat then len
    else seg.sa.toNat + seg.len.toNat - offset) % 65536

/-- A pass of the loop of `map_readN`: what the segment has is copied to the buffer. -/
def copySeg (offset len : ℕ) (buf : Mem) (seg : MapSeg) : Mem :=
  if seg.skips offset len then buf
  else if offset ≤ seg.sa.toNat then
    write buf (seg.sa.toNat - offset) (seg.c.take (seg.cLen offset len))
  else write buf 0 ((seg.c.drop (offset - seg.sa.toNat)).take (seg.cLen offset len))

/-- `map_readN`: whether it returns `_SUCCESS`, and the memory from `buf` on. -/
def mapReadN (map : RegMap) (offset len : UInt16) (buf : Mem) : Bool × Mem :=
  -- `ret` is set here, and only here
  let ret := false
  if len = 0 then (ret, buf)
  else if map.len.toNat < offset.toNat + len.toNat then (ret, buf)
  else
    (ret, map.segs.foldl (copySeg offset.toNat len.toNat)
      (write buf 0 (List.replicate len.toNat map.initValue)))

/-- `map_read8`. -/
def mapRead8 (map : RegMap) (offset : ℕ) : UInt8 :=
  if map.len.toNat < offset + 1 then map.initValue
  else
    match map.segs.find? fun seg => !seg.skips offset 1 with
    | none => map.initValue
    | some seg => seg.c.getD (offset - seg.sa.toNat) 0

/-! ### What is to hold -/

/-- The segments do not overlap. -/
def RegMap.Apart (map : RegMap) : Prop :=
  map.segs.Pairwise fun a b => ∀ offset, a.skips offset 1 ∨ b.skips offset 1

/-- A range is read exactly if it is not empty and lies in the map, and then byte for byte. -/
structure ReadsRange (map : RegMap) (offset len : UInt16) (buf : Mem) : Prop where
  success_iff : (mapReadN map offset len buf).1 = true ↔
    0 < len.toNat ∧ offset.toNat + len.toNat ≤ map.len.toNat
  bytes : (mapReadN map offset len buf).1 = true → ∀ k < len.toNat,
    (mapReadN map offset len buf).2 k = mapRead8 map (offset.toNat + k)

variable {map : RegMap} {seg : MapSeg} {offset len k : ℕ} {buf : Mem}

/-! ### One segment -/

lemma skips_eq_false_iff {n : ℕ} : seg.skips offset n = false ↔
    offset < seg.sa.toNat + seg.len.toNat ∧ seg.sa.toNat < offset + n := by
  simp [MapSeg.skips]

/-- The length of what is copied is no longer than a `u16`. -/
lemma cLen_eq (hlen : len < 65536) : seg.cLen offset len =
    if offset ≤ seg.sa.toNat then min seg.len.toNat (offset + len - seg.sa.toNat)
    else min len (seg.sa.toNat + seg.len.toNat - offset) := by
  have hseg := seg.len.toNat_lt
  rw [MapSeg.cLen]
  split
  · split <;> omega
  · split <;> omega

/-- After a segment is copied, its bytes are in the buffer, and all else is as before. -/
lemma copySeg_apply (hlen : len < 65536) (k : ℕ) :
    copySeg offset len buf seg k =
      if k < len ∧ seg.skips (offset + k) 1 = false then
        seg.c.getD (offset + k - seg.sa.toNat) 0
      else buf k := by
  have hc := seg.length_c
  rw [copySeg]
  simp only [skips_eq_false_iff]
  by_cases hskip : seg.skips offset len = true
  · rw [if_pos hskip, if_neg]
    rintro ⟨hk, hin, hin'⟩
    rw [MapSeg.skips, Bool.or_eq_true, decide_eq_true_iff, decide_eq_true_iff] at hskip
    omega
  · rw [if_neg hskip]
    obtain ⟨hlo, hhi⟩ := skips_eq_false_iff.1 (Bool.not_eq_true _ ▸ hskip)
    by_cases hsa : offset ≤ seg.sa.toNat
    · rw [if_pos hsa, cLen_eq hlen, if_pos hsa]
      by_cases hin : k < len ∧ offset + k < seg.sa.toNat + seg.len.toNat ∧
          seg.sa.toNat < offset + k + 1
      · rw [if_pos hin, write_of_mem (by omega) (by rw [List.length_take]; omega),
          show k - (seg.sa.toNat - offset) = offset + k - seg.sa.toNat by omega,
          List.getD_eq_getElem?_getD, List.getElem?_take_of_lt (by omega),
          ← List.getD_eq_getElem?_getD]
      · rw [if_neg hin]
        rcases Nat.lt_or_ge k (seg.sa.toNat - offset) with hk | hk
        · exact write_of_lt hk
        · exact write_of_le (by rw [List.length_take]; omega)
    · rw [if_neg hsa, cLen_eq hlen, if_neg hsa]
      by_cases hin : k < len ∧ offset + k < seg.sa.toNat + seg.len.toNat ∧
          seg.sa.toNat < offset + k + 1
      · rw [if_pos hin,
          write_of_mem (by omega) (by rw [List.length_take, List.length_drop]; omega),
          List.getD_eq_getElem?_getD, List.getElem?_take_of_lt (by omega), List.getElem?_drop,
          show offset - seg.sa.toNat + (k - 0) = offset + k - seg.sa.toNat by omega,
          ← List.getD_eq_getElem?_getD]
      · rw [if_neg hin]
        exact write_of_le (by rw [List.length_take, List.length_drop]; omega)

/-! ### All segments -/

/-- Of segments that do not overlap at most one has an offset, so that their order is of no
importance. -/
lemma foldl_copySeg_apply (hlen : len < 65536) {segs : List MapSeg}
    (hapart : segs.Pairwise fun a b => ∀ offset, a.skips offset 1 ∨ b.skips offset 1)
    (hk : k < len) : segs.foldl (copySeg offset len) buf k =
      match segs.find? fun seg => !seg.skips (offset + k) 1 with
      | none => buf k
      | some seg => seg.c.getD (offset + k - seg.sa.toNat) 0 := by
  induction segs generalizing buf with
  | nil => rfl
  | cons seg segs ih =>
      obtain ⟨hfirst, hrest⟩ := List.pairwise_cons.1 hapart
      rw [List.foldl_cons, ih hrest, List.find?_cons]
      rcases hskip : seg.skips (offset + k) 1
      · -- the others do not have the offset
        have hnone : segs.find? (fun seg => !seg.skips (offset + k) 1) = none := by
          refine List.find?_eq_none.2 fun b hb => ?_
          have hb := (hfirst b hb (offset + k)).resolve_left (by rw [hskip]; exact nofun)
          simp [hb]
        rw [hnone]
        simp only [Bool.not_false]
        rw [copySeg_apply hlen, if_pos ⟨hk, hskip⟩]
      · simp only [Bool.not_true]
        have hsame : copySeg offset len buf seg k = buf k := by
          rw [copySeg_apply hlen, if_neg fun h => by rw [hskip] at h; exact nomatch h.2]
        rw [hsame]

/-- Behind the buffer nothing is written. -/
lemma foldl_copySeg_of_le (hlen : len < 65536) (segs : List MapSeg) (hk : len ≤ k) :
    segs.foldl (copySeg offset len) buf k = buf k := by
  induction segs generalizing buf with
  | nil => rfl
  | cons seg segs ih =>
      rw [List.foldl_cons, ih, copySeg_apply hlen, if_neg fun h => absurd h.1 (Nat.not_lt.2 hk)]

/-- The range reader writes what the byte reader returns, and nothing else. -/
theorem mapReadN_apply (hapart : map.Apart) {offset len : UInt16} (hpos : len ≠ 0)
    (hin : offset.toNat + len.toNat ≤ map.len.toNat) (k : ℕ) :
    (mapReadN map offset len buf).2 k =
      if k < len.toNat then mapRead8 map (offset.toNat + k) else buf k := by
  have hlen := len.toNat_lt
  rw [mapReadN, if_neg hpos, if_neg (Nat.not_lt.2 hin)]
  show map.segs.foldl (copySeg offset.toNat len.toNat) _ k = _
  split
  · next hk =>
      have hinit : write buf 0 (List.replicate len.toNat map.initValue) k = map.initValue := by
        rw [write_of_mem (Nat.zero_le k) (by rw [List.length_replicate]; omega), Nat.sub_zero,
          List.getD_eq_getElem _ _ (by rw [List.length_replicate]; exact hk),
          List.getElem_replicate]
      rw [foldl_copySeg_apply hlen hapart hk, hinit, mapRead8, if_neg (by omega)]
  · next hk =>
      rw [foldl_copySeg_of_le hlen _ (Nat.le_of_not_lt hk),
        write_of_le (by rw [List.length_replicate]; omega)]

lemma mapReadN_fails (map : RegMap) (offset len : UInt16) (buf : Mem) :
    (mapReadN map offset len buf).1 = false := by
  rw [mapReadN]
  split
  · rfl
  · split <;> rfl

/-- The range reader does as it should exactly if there is nothing to read, or not all of it is in
the map.  Else it is only the return value that is wrong. -/
theorem readsRange_iff (map : RegMap) (hapart : map.Apart) (offset len : UInt16) (buf : Mem) :
    (ReadsRange map offset len buf ↔
        len.toNat = 0 ∨ map.len.toNat < offset.toNat + len.toNat) ∧
      (0 < len.toNat → offset.toNat + len.toNat ≤ map.len.toNat → ∀ k < len.toNat,
        (mapReadN map offset len buf).2 k = mapRead8 map (offset.toNat + k)) := by
  have hfail := mapReadN_fails map offset len buf
  refine ⟨⟨fun h => ?_, fun h => ?_⟩, fun hpos hin k hk => ?_⟩
  · by_contra hcontra
    have hsuccess := h.success_iff.2 (by omega)
    rw [hfail] at hsuccess
    cases hsuccess
  · refine ⟨iff_of_false (by rw [hfail]; exact nofun) (by omega), fun hsuccess => ?_⟩
    rw [hfail] at hsuccess
    cases hsuccess
  · have hne : len ≠ 0 := by
      rintro rfl
      exact absurd hpos (lt_irrefl 0)
    rw [mapReadN_apply hapart hne hin, if_pos hk]

/-- A segment of two bytes in a map of four. -/
def smallMap : RegMap := ⟨4, 0xff, [⟨1, 2, [0x11, 0x22], rfl⟩]⟩

/-- Two segments with a gap between them. -/
def gapMap : RegMap := ⟨8, 0xff, [⟨1, 2, [0x11, 0x22], rfl⟩, ⟨4, 2, [0x33, 0x44], rfl⟩]⟩

/-- A range that does not fit is refused; of one over both segments and the gap all is read. -/
theorem readsRange_iff_gapMap :
    ReadsRange gapMap 5 4 (fun _ => 0) ∧
      (List.range 4).map (mapReadN gapMap 2 4 fun _ => 0).2 = [0x22, 0xff, 0x33, 0x44] := by
  have hapart : gapMap.Apart := by
    simp only [RegMap.Apart, gapMap, List.pairwise_pair]
    intro offset
    simp only [MapSeg.skips, Bool.or_eq_true, decide_eq_true_iff, UInt16.toNat_ofNat]
    omega
  refine ⟨(readsRange_iff gapMap hapart 5 4 fun _ => 0).1.2 (by decide), ?_⟩
  have hread : ∀ k ∈ List.range 4, (mapReadN gapMap 2 4 fun _ => 0).2 k = mapRead8 gapMap (2 + k) :=
    fun k hk => (readsRange_iff gapMap hapart 2 4 fun _ => 0).2 (by decide) (by decide) k
      (List.mem_range.1 hk)
  rw [List.map_congr_left hread]
  decide

/-- All four bytes are read, and failure is returned. -/
theorem readsRange_whole : ¬ ReadsRange smallMap 0 4 fun _ => 0 := by
  intro h
  exact absurd (h.success_iff.2 (by decide)) (by decide)

end Rtl8723du.Osdep
