import Mathlib.Data.BitVec
import Mathlib.Data.List.GetD

/-!
# The TIM element

`rtw_set_tim_ie` puts the bitmap of the stations with waiting frames into the beacon, without the
zero octets on both sides.  The element can be decoded when the octets between the first and the
last nonzero one fit into it (`tim_decodes_iff`).
-/

namespace Rtl8723du

/-! ### `rtw_set_tim_ie` -/

/-- `WLAN_EID_TIM`. -/
abbrev wlanEidTim : BitVec 8 := 5

/-- `rtw_bmp_is_set`. -/
def rtwBmpIsSet (bmp : List (BitVec 8)) (id : ℕ) : Bool :=
  if bmp.length ≤ id / 8 then false else (bmp.getD (id / 8) 0).getLsbD (id % 8)

/-- `rtw_bmp_not_empty`. -/
def rtwBmpNotEmpty (bmp : List (BitVec 8)) : Bool := bmp.any (· ≠ 0)

/-- The last nonzero octet up to `i`, except octet 0. -/
def lastNonzero (timBmp : List (BitVec 8)) : ℕ → ℕ
  | 0 => 0
  | i + 1 => if timBmp.getD (i + 1) 0 ≠ 0 then i + 1 else lastNonzero timBmp i

/-- `n1` and `bmp_len`: the octets that go into the element. -/
def timRange (timBmp : List (BitVec 8)) : ℕ × ℕ :=
  if rtwBmpNotEmpty timBmp then
    let n1 := timBmp.findIdx (· ≠ 0) &&& 0xFE
    let n2 := lastNonzero timBmp (timBmp.length - 1)
    (n1, n2 - n1 + 1)
  else (0, 1)

/-- `rtw_set_tim_ie`: the bytes of the element and the length it returns, both lengths a `u8`;
`none` when it reads behind the bitmap. -/
def rtwSetTimIe (dtimCnt dtimPeriod : BitVec 8) (timBmp : List (BitVec 8)) :
    Option (List (BitVec 8) × ℕ) :=
  let n1 := (timRange timBmp).1
  let bmpLen := (timRange timBmp).2
  if n1 + bmpLen ≤ timBmp.length then
    some (wlanEidTim :: BitVec.ofNat 8 (2 + 1 + bmpLen) :: dtimCnt :: dtimPeriod ::
        ((if rtwBmpIsSet timBmp 0 then 1#8 else 0#8) ||| BitVec.ofNat 8 n1) ::
        (timBmp.drop n1).take bmpLen,
      (2 + 2 + 1 + bmpLen) % 256)
  else none

/-! ### What a station makes of it -/

/-- The fields of a TIM element. -/
structure Tim where
  dtimCount : BitVec 8
  dtimPeriod : BitVec 8
  group : Bool
  offset : ℕ
  partialBitmap : List (BitVec 8)

/-- The element, if its length is the one it says. -/
def Tim.ofElement : List (BitVec 8) → Option Tim
  | id :: len :: count :: period :: control :: bitmap =>
      if id = wlanEidTim ∧ len.toNat = 3 + bitmap.length then
        some ⟨count, period, control.getLsbD 0, (control >>> 1).toNat, bitmap⟩
      else none
  | _ => none

/-- The bit of the station `aid`: the octets that are left out are zero. -/
def Tim.bit (t : Tim) (aid : ℕ) : Bool :=
  decide (2 * t.offset ≤ aid / 8) &&
    (t.partialBitmap.getD (aid / 8 - 2 * t.offset) 0).getLsbD (aid % 8)

/-- The element is decoded to the bitmap, and the length that is returned is its length. -/
def TimDecodes (dtimCnt dtimPeriod : BitVec 8) (timBmp : List (BitVec 8)) : Prop :=
  ∃ ie t, rtwSetTimIe dtimCnt dtimPeriod timBmp = some (ie, ie.length) ∧
    Tim.ofElement ie = some t ∧ t.dtimCount = dtimCnt ∧ t.dtimPeriod = dtimPeriod ∧
    t.group = rtwBmpIsSet timBmp 0 ∧ ∀ aid, 1 ≤ aid → t.bit aid = rtwBmpIsSet timBmp aid

variable {timBmp : List (BitVec 8)}

/-! ### The octets that are left out -/

lemma rtwBmpIsSet_eq (bmp : List (BitVec 8)) (id : ℕ) :
    rtwBmpIsSet bmp id = (bmp.getD (id / 8) 0).getLsbD (id % 8) := by
  rw [rtwBmpIsSet]
  split
  · rename_i hlen
    rw [List.getD_eq_default _ _ hlen]
    simp
  · rfl

lemma lastNonzero_spec (timBmp : List (BitVec 8)) (m : ℕ) :
    lastNonzero timBmp m ≤ m ∧
      (lastNonzero timBmp m = 0 ∨ timBmp.getD (lastNonzero timBmp m) 0 ≠ 0) ∧
      ∀ k, lastNonzero timBmp m < k → k ≤ m → timBmp.getD k 0 = 0 := by
  induction m with
  | zero =>
      refine ⟨le_rfl, .inl rfl, fun k hk hle => ?_⟩
      have hk : 0 < k := hk
      omega
  | succ m ih =>
      obtain ⟨hle, hval, hzero⟩ := ih
      rw [lastNonzero]
      split
      · rename_i hne
        exact ⟨le_rfl, .inr hne, fun k hk hle => absurd hk (by omega)⟩
      · rename_i hz
        refine ⟨Nat.le_succ_of_le hle, hval, fun k hk hkm => ?_⟩
        rcases Nat.lt_or_eq_of_le hkm with hlt | rfl
        · exact hzero k hk (by omega)
        · exact not_not.1 hz

lemma and_0xFE : ∀ i < 256, i &&& 0xFE = i / 2 * 2 := by
  decide +kernel

/-- The octets from `n1` on are in the bitmap, the others are zero; they begin and end with a
nonzero one, or there is one octet only. -/
structure TimRange (timBmp : List (BitVec 8)) (n1 bmpLen : ℕ) : Prop where
  even : n1 % 2 = 0
  pos : 0 < bmpLen
  le : n1 + bmpLen ≤ timBmp.length
  zero : ∀ k, k < n1 ∨ n1 + bmpLen ≤ k → timBmp.getD k 0 = 0
  tight : bmpLen = 1 ∨ ∃ i j, timBmp.getD i 0 ≠ 0 ∧ timBmp.getD j 0 ≠ 0 ∧ n1 = i / 2 * 2 ∧
    bmpLen = j - n1 + 1

lemma timRange_spec (hne : timBmp ≠ []) (hlen : timBmp.length < 256) :
    TimRange timBmp (timRange timBmp).1 (timRange timBmp).2 := by
  have hpos : 0 < timBmp.length := List.length_pos_iff.2 hne
  rw [timRange]
  split
  · rename_i hany
    obtain ⟨x, hx, hxne⟩ := List.any_eq_true.1 hany
    have hfirst : timBmp.findIdx (· ≠ 0) < timBmp.length :=
      List.findIdx_lt_length_of_exists ⟨x, hx, hxne⟩
    have hfirstNe : timBmp.getD (timBmp.findIdx (· ≠ 0)) 0 ≠ 0 := by
      rw [List.getD_eq_getElem _ _ hfirst]
      simpa using List.findIdx_getElem (p := fun b : BitVec 8 => decide (b ≠ 0)) (w := hfirst)
    have hbefore : ∀ k < timBmp.findIdx (· ≠ 0), timBmp.getD k 0 = 0 := by
      intro k hk
      rw [List.getD_eq_getElem _ _ (hk.trans hfirst)]
      simpa using List.not_of_lt_findIdx hk
    obtain ⟨hle, hlast, hafter⟩ := lastNonzero_spec timBmp (timBmp.length - 1)
    dsimp only
    rw [and_0xFE _ (hfirst.trans hlen)]
    generalize timBmp.findIdx (· ≠ 0) = i at *
    generalize lastNonzero timBmp (timBmp.length - 1) = j at *
    have hij : i ≤ j := by
      by_contra hlt
      exact hfirstNe (hafter i (by omega) (by omega))
    refine ⟨by omega, by omega, by omega, fun k hk => ?_, ?_⟩
    · rcases hk with hk | hk
      · exact hbefore k (by omega)
      · by_cases hk' : k < timBmp.length
        · exact hafter k (by omega) (by omega)
        · exact List.getD_eq_default _ _ (not_lt.1 hk')
    · rcases hlast with rfl | hlast
      · exact .inl (by omega)
      · exact .inr ⟨i, j, hfirstNe, hlast, rfl, rfl⟩
  · rename_i hany
    have hzero : ∀ x ∈ timBmp, x = 0 := by simpa [rtwBmpNotEmpty] using hany
    refine ⟨rfl, Nat.one_pos, hpos, fun k _ => ?_, .inl rfl⟩
    by_cases hk : k < timBmp.length
    · rw [List.getD_eq_getElem _ _ hk]
      exact hzero _ (List.getElem_mem hk)
    · exact List.getD_eq_default _ _ (not_lt.1 hk)

/-- An octet that is left out of the element reads as zero, any other one as it is. -/
lemma TimRange.getD_partial {n1 bmpLen : ℕ} (h : TimRange timBmp n1 bmpLen) {k : ℕ} (hk : n1 ≤ k) :
    ((timBmp.drop n1).take bmpLen).getD (k - n1) 0 = timBmp.getD k 0 := by
  by_cases hin : k < n1 + bmpLen
  · have hle := h.le
    rw [List.getD_eq_getElem _ _ (by rw [List.length_take, List.length_drop]; omega),
      List.getD_eq_getElem _ _ (by omega), List.getElem_take, List.getElem_drop]
    congr 1
    omega
  · rw [h.zero k (.inr (not_lt.1 hin)), List.getD_eq_default]
    rw [List.length_take, List.length_drop]
    omega

/-- The control octet: the group bit, and half of `n1`. -/
lemma timControl : ∀ n1 < 256, n1 % 2 = 0 → ∀ group : Bool,
    (((if group then 1#8 else 0#8) ||| BitVec.ofNat 8 n1).getLsbD 0 = group) ∧
      (((if group then 1#8 else 0#8) ||| BitVec.ofNat 8 n1) >>> 1).toNat * 2 = n1 := by
  decide +kernel

/-! ### The element is decoded -/

/-- For every bitmap, the element is decoded to the bitmap and has the length that is returned, if
and only if the bitmap has an octet and the octets that go into the element are no more than 250. -/
theorem tim_decodes_iff (dtimCnt dtimPeriod : BitVec 8) (timBmp : List (BitVec 8))
    (hlen : timBmp.length < 256) :
    TimDecodes dtimCnt dtimPeriod timBmp ↔
      timBmp ≠ [] ∧ ∀ i j, timBmp.getD i 0 ≠ 0 → timBmp.getD j 0 ≠ 0 → j - i / 2 * 2 < 250 := by
  constructor
  · rintro ⟨ie, t, hie, -⟩
    have hne : timBmp ≠ [] := by
      rintro rfl
      cases hie
    have hrange := timRange_spec hne hlen
    rw [rtwSetTimIe, if_pos hrange.le] at hie
    obtain ⟨rfl, hret⟩ := Prod.mk.inj (Option.some.inj hie)
    have hle := hrange.le
    have htake : (((timBmp.drop (timRange timBmp).1).take (timRange timBmp).2)).length =
        (timRange timBmp).2 := by
      rw [List.length_take, List.length_drop]
      omega
    simp only [List.length_cons, htake] at hret
    refine ⟨hne, fun i j hi hj => ?_⟩
    have hfirst : (timRange timBmp).1 ≤ i := by
      by_contra hlt
      exact hi (hrange.zero i (.inl (not_le.1 hlt)))
    have hlast : j < (timRange timBmp).1 + (timRange timBmp).2 := by
      by_contra hle
      exact hj (hrange.zero j (.inr (not_lt.1 hle)))
    have heven := hrange.even
    omega
  · rintro ⟨hne, hspan⟩
    have hrange := timRange_spec hne hlen
    have hle := hrange.le
    have hshort : (timRange timBmp).2 ≤ 250 := by
      rcases hrange.tight with hone | ⟨i, j, hi, hj, hn1, hn2⟩
      · omega
      · have hij := hspan i j hi hj
        omega
    have htake : (((timBmp.drop (timRange timBmp).1).take (timRange timBmp).2)).length =
        (timRange timBmp).2 := by
      rw [List.length_take, List.length_drop]
      omega
    obtain ⟨hgroup, hoffset⟩ := timControl (timRange timBmp).1 (by omega) hrange.even
      (rtwBmpIsSet timBmp 0)
    have helement : (BitVec.ofNat 8 (2 + 1 + (timRange timBmp).2)).toNat =
        3 + (timRange timBmp).2 := by
      rw [BitVec.toNat_ofNat]
      omega
    rw [TimDecodes, rtwSetTimIe, if_pos hle]
    refine ⟨_, ⟨dtimCnt, dtimPeriod, _, _, _⟩, congrArg some (Prod.ext rfl ?_),
      if_pos ⟨rfl, by rw [helement, htake]⟩, rfl, rfl, hgroup, fun aid haid => ?_⟩
    · simp only [List.length_cons, htake]
      omega
    · rw [Tim.bit, rtwBmpIsSet_eq timBmp aid]
      dsimp only
      rw [Nat.mul_comm, hoffset]
      by_cases hbefore : (timRange timBmp).1 ≤ aid / 8
      · rw [hrange.getD_partial hbefore, decide_eq_true hbefore, Bool.true_and]
      · rw [decide_eq_false hbefore, Bool.false_and, hrange.zero _ (.inl (not_le.1 hbefore))]
        simp

/-- A bitmap of seven octets: the element has those from the third to the fifth. -/
theorem tim_decodes_trimmed :
    TimDecodes 0#8 1#8 [0#8, 0#8, 0#8, 0x10#8, 0x01#8, 0#8, 0#8] ∧
      rtwSetTimIe 0#8 1#8 [0#8, 0#8, 0#8, 0x10#8, 0x01#8, 0#8, 0#8] =
        some ([5#8, 6#8, 0#8, 1#8, 2#8, 0#8, 0x10#8, 0x01#8], 8) := by
  refine ⟨(tim_decodes_iff 0#8 1#8 [0#8, 0#8, 0#8, 0x10#8, 0x01#8, 0#8, 0#8] (by decide)).2
    ⟨by decide, fun i j hi hj => ?_⟩, by decide⟩
  have hj : j < 7 := by
    by_contra hle
    exact hj (List.getD_eq_default _ _ (not_lt.1 hle))
  omega

/-- The stations 1 and 2000: the element has 256 bytes, and 0 is returned. -/
theorem not_timDecodes : ¬ TimDecodes 0#8 1#8 (0x02#8 :: List.replicate 249 0#8 ++ [0x01#8]) := by
  rintro ⟨ie, t, hie, hel, -⟩
  have hret : (rtwSetTimIe 0#8 1#8 (0x02#8 :: List.replicate 249 0#8 ++ [0x01#8])).map Prod.snd =
      some 0 := by decide +kernel
  rw [hie, Option.map_some] at hret
  rw [List.eq_nil_of_length_eq_zero (Option.some.inj hret)] at hel
  cases hel

end Rtl8723du
