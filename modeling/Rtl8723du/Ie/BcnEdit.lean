import Rtl8723du.Ie.BcnIe

/-!
# When a beacon is edited as it should be

Each editor of `Rtl8723du.Ie.BcnIe` gives the blob of the edited elements exactly under the
condition stated there (`editBcn_iff`).  For each the blob that it leaves is found first, by
splicing at whole elements, and compared with the elements that are wanted.
-/

namespace Rtl8723du.Beacon

open Lib Lib.Elements Lib.Bytes

variable {malloc : ℕ → Bool} {net : WlanBssidEx} {fixed : List UInt8}
  {es es' pre post : List Element} {e old w : Element} {index : UInt8} {edit : BcnEdit}
  {bmp : TimBitmap}

/-- Where the edit leaves a blob, that has to be the wanted one. -/
lemma IsBlob.editWorks_iff {t : List Element} (h : IsBlob (editBcn malloc net edit) fixed t) :
    EditWorks malloc net fixed es edit ↔ Edited es t edit := by
  constructor
  · rintro ⟨es'', h', hedited⟩
    rwa [h.unique h']
  · exact fun hedited => ⟨t, h, hedited⟩

/-! ### Taking an element out -/

lemma rtwRemoveBcnIe_of_none
    (h : rtwGetIe net.ies beaconIeOffset index (net.ieLength - beaconIeOffset) = none) :
    rtwRemoveBcnIe malloc index net = net := by
  delta rtwRemoveBcnIe
  rw [h]

lemma rtwRemoveBcnIe_of_some {p ielen : ℕ}
    (h : rtwGetIe net.ies beaconIeOffset index (net.ieLength - beaconIeOffset) = some (p, ielen)) :
    rtwRemoveBcnIe malloc index net =
      if 0 < ielen then
        spliceIe malloc net p (p + (ielen + 2)) (sub32 net.ieLength (p + (ielen + 2))) []
      else net := by
  delta rtwRemoveBcnIe
  rw [h]

lemma filter_of_first (hpre : ∀ x ∈ pre, x.id ≠ index) (he : e.id = index) :
    (pre ++ e :: post).filter (·.id ≠ index) = pre ++ post.filter (·.id ≠ index) := by
  rw [List.filter_append, List.filter_cons_of_neg (by simpa using he),
    List.filter_eq_self.2 fun x hx => by simpa using hpre x hx]

lemma countP_of_first (hpre : ∀ x ∈ pre, x.id ≠ index) (he : e.id = index) :
    (pre ++ e :: post).countP (·.id = index) = post.countP (·.id = index) + 1 := by
  rw [List.countP_append, List.countP_cons_of_pos (by simpa using he),
    List.countP_eq_zero.2 fun x hx => by simpa using hpre x hx, Nat.zero_add]

lemma remove_iff (hmalloc : ∀ k ≤ maxIeSz, malloc k = true) (h : IsBlob net fixed es) :
    EditWorks malloc net fixed es (.remove index) ↔ RemoveFits index es := by
  rcases exists_first_id index es with hnone | ⟨pre, e, post, rfl, hpre, he⟩
  · -- There is nothing to take out.
    have hedit : editBcn malloc net (.remove index) = net :=
      rtwRemoveBcnIe_of_none (h.rtwGetIe_eq_none hnone)
    rw [IsBlob.editWorks_iff (t := es) (by rwa [hedit])]
    refine ⟨fun _ => ⟨?_, fun x hx hid => absurd hid (hnone x hx)⟩, fun _ => ?_⟩
    · rw [List.countP_eq_zero.2 fun x hx => by simpa using hnone x hx]
      exact Nat.zero_le 1
    · exact (List.filter_eq_self.2 fun x hx => by simpa using hnone x hx).symm
  · have hfound := h.rtwGetIe_eq_some hpre he
    by_cases hdata : e.data = []
    · -- An element without data is taken for none.
      have hedit : editBcn malloc net (.remove index) = net := by
        rw [editBcn, rtwRemoveBcnIe_of_some hfound, hdata, List.length_nil,
          if_neg (Nat.lt_irrefl 0)]
      rw [IsBlob.editWorks_iff (t := pre ++ e :: post) (by rwa [hedit])]
      constructor
      · intro hedited
        have hmem : e ∈ (pre ++ e :: post).filter (·.id ≠ index) := by
          rw [← show pre ++ e :: post = _ from hedited]
          simp
        exact absurd he (by simpa using (List.mem_filter.1 hmem).2)
      · rintro ⟨-, hall⟩
        exact absurd hdata (hall e (by simp) he)
    · have hblob : IsBlob (editBcn malloc net (.remove index)) fixed (pre ++ ([] ++ post)) := by
        rw [editBcn, rtwRemoveBcnIe_of_some hfound, if_pos (List.length_pos_iff.2 hdata)]
        have hroom : (encode (pre ++ ([] ++ post))).length ≤
            (encode (pre ++ e :: post)).length := by simp
        have hle : net.ieLength ≤ 768 := h.le
        have hie := h.ieLength_eq
        refine isBlob_spliceIe hmalloc (m := [e]) h rfl rfl ?_ ?_
        · simp only [encode_append, encode_cons, encode_nil, List.length_append,
            Element.length_bytes, Element.size, List.length_nil]
          omega
        · show _ ≤ 768
          omega
      rw [hblob.editWorks_iff]
      show pre ++ ([] ++ post) = (pre ++ e :: post).filter (·.id ≠ index) ↔ _
      rw [filter_of_first hpre he, List.nil_append, List.append_cancel_left_eq, RemoveFits,
        countP_of_first hpre he, eq_comm, List.filter_eq_self]
      constructor
      · intro hpost
        have hcount : post.countP (·.id = index) = 0 := List.countP_eq_zero.2 (by simpa using hpost)
        refine ⟨by omega, fun x hx hid => ?_⟩
        rcases List.mem_append.1 hx with hx | hx
        · exact absurd hid (hpre x hx)
        · rcases List.mem_cons.1 hx with rfl | hx
          · exact hdata
          · exact absurd hid (by simpa using hpost x hx)
      · rintro ⟨hcount, -⟩
        have hzero : post.countP (·.id = index) = 0 := by omega
        simpa using List.countP_eq_zero.1 hzero

/-! ### The WPS element -/

lemma length_wpsOui : wpsOui.length = 4 := rfl

lemma LooksWps.length_le (hlooks : LooksWps e post) :
    6 ≤ e.size + (encode post).length := by
  have hlen := congrArg List.length hlooks.2
  rw [List.length_take, List.length_append, length_wpsOui] at hlen
  rw [Element.size]
  omega

lemma looksWps_of_isWps (hwps : isWps e = true) : LooksWps e post := by
  simp only [isWps, Bool.and_eq_true, beq_iff_eq] at hwps
  refine ⟨hwps.1, ?_⟩
  have hlen := congrArg List.length hwps.2
  rw [List.length_take, length_wpsOui] at hlen
  rw [List.take_append_of_le_length (by omega), hwps.2]

/-- What the search tests at an element that is not too close to the end. -/
lemma hit_iff_looksWps {bs tail : List UInt8} {a : ℕ}
    (h : bs.drop a = e.bytes ++ (encode post ++ tail))
    (hlen : 4 ≤ e.data.length + (encode post).length) :
    (bs.getD a 0 == vendorSpecificIe && (bs.drop (a + 2)).take 4 == wpsOui) = true ↔
      LooksWps e post := by
  have hid : bs.getD a 0 = e.id := getD_eq_of_drop h
  have hdata : (bs.drop (a + 2)).take 4 = (e.data ++ encode post).take 4 := by
    rw [← List.drop_drop, h]
    show ((e.data ++ (encode post ++ tail))).take 4 = _
    rw [← List.append_assoc, List.take_append_of_le_length (by rw [List.length_append]; omega)]
  rw [hid, hdata, Bool.and_eq_true, beq_iff_eq, beq_iff_eq]
  rfl

/-- What is behind a place in the blob. -/
lemma IsBlob.drop_eq (h : IsBlob net fixed (pre ++ e :: post)) :
    net.ies.drop (12 + (encode pre).length) =
      e.bytes ++ (encode post ++ net.ies.drop net.ieLength) := by
  have hfixed : fixed.length = 12 := h.length_fixed
  have hfront : 12 + (encode pre).length = (fixed ++ encode pre).length := by
    rw [List.length_append, hfixed]
  rw [hfront]
  conv_lhs => rw [h.ies_eq, encode_append, encode_cons]
  rw [List.append_assoc, ← List.append_assoc fixed, List.drop_left, List.append_assoc]

/-- The limit of the search. -/
lemma wpsLimit_eq (h : IsBlob net fixed es) :
    12 + (min (net.ieLength - 12) maxIeSz - 5) = 12 + ((encode es).length - 5) := by
  have hie := h.ieLength_eq
  have hle : net.ieLength ≤ 768 := h.le
  rw [Nat.min_eq_left (show _ ≤ 768 by omega), hie, Nat.add_sub_cancel_left]

/-- `rtw_get_wps_ie` finds the first element that it takes for a WPS element. -/
lemma rtwGetWpsIe_eq_some (h : IsBlob net fixed (pre ++ e :: post)) (he : LooksWps e post)
    (hpre : ∀ p x q, pre = p ++ x :: q → ¬ LooksWps x (q ++ e :: post)) :
    rtwGetWpsIe net.ies 12 (net.ieLength - 12) = some (12 + (encode pre).length, e.size) := by
  have hie := h.ieLength_eq
  have hlen : (encode (pre ++ e :: post)).length =
      (encode pre).length + (e.size + (encode post).length) := by simp
  have hshort := he.length_le
  have hcount := length_le_encode pre
  unfold rtwGetWpsIe
  rw [wpsLimit_eq h, search_eq_some h.at_elements (by omega) (fun p x q hsplit => ?_) ?_ (by omega),
    Option.map_some, At.lenAt_eq h.at_elements.right]
  · rfl
  · refine (hit_iff_looksWps h.drop_eq ?_).2 he
    rw [Element.size] at hshort
    omega
  · subst hsplit
    rw [List.append_assoc, List.cons_append] at h
    rw [← Bool.not_eq_true, hit_iff_looksWps h.drop_eq]
    · exact hpre p x q rfl
    · rw [Element.size] at hshort
      rw [encode_append, encode_cons, List.length_append, List.length_append,
        Element.length_bytes, Element.size]
      omega

lemma rtwGetWpsIe_eq_none (h : IsBlob net fixed es)
    (hes : ∀ p x q, es = p ++ x :: q → ¬ LooksWps x q) :
    rtwGetWpsIe net.ies 12 (net.ieLength - 12) = none := by
  have hie := h.ieLength_eq
  have hcount := length_le_encode es
  unfold rtwGetWpsIe
  rw [wpsLimit_eq h, search_eq_none h.at_elements (by omega) (fun p x q hsplit hlt => ?_)
    (by omega), Option.map_none]
  subst hsplit
  rw [← Bool.not_eq_true, hit_iff_looksWps h.drop_eq]
  · exact hes p x q rfl
  · have hlen : (encode (p ++ x :: q)).length =
        (encode p).length + (x.data.length + 2 + (encode q).length) := by simp [Element.size]
    omega

/-- An element other than the first WPS element may not be replaced. -/
lemma not_edited_of_ne {v : Element} {hw : isWps w = true} (hv : isWps v = false) :
    ¬ Edited (pre ++ v :: post) (pre ++ w :: post) (.wps (some ⟨w, hw⟩)) := by
  have hne : v ≠ w := by
    rintro rfl
    exact Bool.false_ne_true (hv.symm.trans hw)
  rintro (⟨pre', old, post', hes, -, hold, hes'⟩ | ⟨-, hsame⟩)
  · -- The two lists differ where one of them is not a WPS element, and elsewhere they do not.
    have hlen : pre.length = pre'.length := by
      by_contra hdiff
      have hat := congrArg (·[pre.length]?) hes
      have hat' := congrArg (·[pre.length]?) hes'
      dsimp only at hat hat'
      rw [List.getElem?_append_right (Nat.le_refl _), Nat.sub_self] at hat hat'
      have hsame : (pre' ++ old :: post')[pre.length]? = (pre' ++ w :: post')[pre.length]? := by
        rcases Nat.lt_or_gt_of_ne hdiff with hlt | hgt
        · rw [List.getElem?_append_left hlt, List.getElem?_append_left hlt]
        · rw [List.getElem?_append_right (Nat.le_of_lt hgt),
            List.getElem?_append_right (Nat.le_of_lt hgt)]
          obtain ⟨k, hk⟩ : ∃ k, pre.length - pre'.length = k + 1 :=
            ⟨pre.length - pre'.length - 1, by omega⟩
          rw [hk]
          rfl
      rw [← hat, ← hat'] at hsame
      exact hne (by simpa using hsame)
    obtain ⟨-, hcons⟩ := List.append_inj hes hlen
    obtain ⟨rfl, -⟩ := List.cons.inj hcons
    exact Bool.false_ne_true (hv.symm.trans hold)
  · obtain ⟨-, hcons⟩ := List.append_inj hsame rfl
    exact hne (List.cons.inj hcons).1.symm

/-- The elements are left as they are. -/
lemma edited_self_iff {hw : isWps w = true} :
    Edited es es (.wps (some ⟨w, hw⟩)) ↔ ∀ x ∈ es.find? isWps, x = w := by
  rcases exists_first isWps es with hnone | ⟨pre, v, post, rfl, hpre, hv⟩
  · refine ⟨fun _ x hx => ?_, fun _ => .inr ⟨hnone, rfl⟩⟩
    rw [List.find?_eq_none.2 fun y hy => by simpa using hnone y hy] at hx
    exact absurd hx (by simp)
  · have hfind : (pre ++ v :: post).find? isWps = some v :=
      List.find?_eq_some_iff_append.2 ⟨hv, pre, post, rfl, fun x hx => by simpa using hpre x hx⟩
    rw [hfind]
    constructor
    · rintro (⟨pre', old, post', hes, hpre', hold, hes'⟩ | ⟨hnone, -⟩) x hx
      · cases hx
        obtain ⟨-, rfl, -⟩ := first_unique_of_mem (p := fun y => isWps y = true) hes hv hold
          (fun y hy => by simpa using hpre y hy) (fun y hy => by simpa using hpre' y hy)
        obtain ⟨-, hcons⟩ := List.append_inj (hes.symm.trans hes') rfl
        exact (List.cons.inj hcons).1
      · exact absurd hv (by simpa using hnone v (by simp))
    · intro hsame
      obtain rfl := hsame v rfl
      exact .inl ⟨pre, v, post, rfl, hpre, hv, rfl⟩

lemma wpsFits_iff {v : Element} (hv : LooksWps v post)
    (hpre : ∀ p x q, pre = p ++ x :: q → ¬ LooksWps x (q ++ v :: post)) :
    WpsFits w (pre ++ v :: post) ↔ isWps v = true ∨
      maxIeSz < beaconIeOffset + (encode (pre ++ w :: post)).length ∧
        ∀ x ∈ (pre ++ v :: post).find? isWps, x = w := by
  constructor
  · exact fun hfits => hfits pre v post rfl hv hpre
  · intro hcond pre' v' post' hsplit hv' hpre'
    obtain ⟨rfl, rfl, rfl⟩ := first_unique (P := LooksWps) hsplit hv hv' hpre hpre'
    exact hcond

lemma updateBcnWpsIe_of_none {src : Option (List UInt8)}
    (h : rtwGetWpsIe net.ies 12 (net.ieLength - 12) = none) :
    updateBcnWpsIe malloc src net = net := by
  unfold updateBcnWpsIe
  rw [h]

lemma updateBcnWpsIe_of_some {a len : ℕ} (hlen : lenAt w.bytes 0 + 2 = w.size)
    (h : rtwGetWpsIe net.ies 12 (net.ieLength - 12) = some (a, len)) :
    updateBcnWpsIe malloc (some w.bytes) net =
      if a + w.size + sub32 net.ieLength (a + len) ≤ maxIeSz then
        spliceIe malloc net a (a + len) (sub32 net.ieLength (a + len)) w.bytes
      else net := by
  unfold updateBcnWpsIe
  rw [h]
  dsimp only
  rw [hlen, ← Element.length_bytes, List.take_length]

lemma wps_iff (hmalloc : ∀ k ≤ maxIeSz, malloc k = true) (h : IsBlob net fixed es)
    (hw : isWps w = true)
    (hroom : ∀ es', Edited es es' (.wps (some ⟨w, hw⟩)) → 12 + (encode es').length ≤ maxIeSz) :
    EditWorks malloc net fixed es (.wps (some ⟨w, hw⟩)) ↔ WpsFits w es := by
  have hwps : editBcn malloc net (.wps (some ⟨w, hw⟩)) =
      updateBcnWpsIe malloc (some w.bytes) net := rfl
  have hlenw : lenAt w.bytes 0 + 2 = w.size := by
    have hat : At w.bytes 0 [w] := by simp [At]
    rw [hat.lenAt_eq, Element.size]
  rcases exists_first_split LooksWps es with hnone | ⟨pre, v, post, rfl, hv, hpre⟩
  · have hedit : editBcn malloc net (.wps (some ⟨w, hw⟩)) = net :=
      hwps.trans (updateBcnWpsIe_of_none (rtwGetWpsIe_eq_none h hnone))
    rw [IsBlob.editWorks_iff (t := es) (by rwa [hedit]), edited_self_iff]
    constructor
    · exact fun _ pre v post hsplit hv => absurd hv (hnone pre v post hsplit)
    · intro _ x hx
      obtain ⟨hwps, as, bs, hsplit, -⟩ := List.find?_eq_some_iff_append.1 hx
      exact absurd (looksWps_of_isWps hwps) (hnone as x bs hsplit)
  · have hfound := rtwGetWpsIe_eq_some h hv hpre
    have hie := h.ieLength_eq
    have hle : net.ieLength ≤ 768 := h.le
    have hlen : (encode (pre ++ v :: post)).length =
        (encode pre).length + (v.size + (encode post).length) := by simp
    have hlen' : (encode (pre ++ w :: post)).length =
        (encode pre).length + (w.size + (encode post).length) := by simp
    have hrem : sub32 net.ieLength (12 + (encode pre).length + v.size) = (encode post).length := by
      rw [sub32_of_le (by omega) (by omega)]
      omega
    -- An element that is one is replaced.
    have hreplaced (hv : isWps v = true) :
        Edited (pre ++ v :: post) (pre ++ w :: post) (.wps (some ⟨w, hw⟩)) := by
      refine .inl ⟨pre, v, post, rfl, fun x hx => ?_, hv, rfl⟩
      obtain ⟨p, q, rfl⟩ := List.append_of_mem hx
      by_contra hx'
      exact hpre p x q rfl (looksWps_of_isWps (by simpa using hx'))
    rw [wpsFits_iff hv hpre]
    by_cases hfits : 12 + (encode pre).length + w.size + (encode post).length ≤ maxIeSz
    · have hblob : IsBlob (editBcn malloc net (.wps (some ⟨w, hw⟩))) fixed
          (pre ++ ([w] ++ post)) := by
        rw [hwps, updateBcnWpsIe_of_some hlenw hfound, if_pos (by rw [hrem]; exact hfits)]
        refine isBlob_spliceIe hmalloc (m := [v]) h ?_ rfl ?_ ?_
        · simp
        · simp [Nat.add_assoc]
        · show _ ≤ 768
          have hfits' : 12 + (encode pre).length + w.size + (encode post).length ≤ 768 := hfits
          simp only [List.singleton_append]
          omega
      rw [hblob.editWorks_iff]
      constructor
      · intro hedited
        left
        by_contra hv
        exact not_edited_of_ne (by simpa using hv) hedited
      · rintro (hv | ⟨hfull, -⟩)
        · exact hreplaced hv
        · have hfull' : 768 < 12 + (encode (pre ++ w :: post)).length := hfull
          have hfits' : 12 + (encode pre).length + w.size + (encode post).length ≤ 768 := hfits
          omega
    · have hedit : editBcn malloc net (.wps (some ⟨w, hw⟩)) = net := by
        rw [hwps, updateBcnWpsIe_of_some hlenw hfound, if_neg (by rw [hrem]; exact hfits)]
      have hfull : 768 < 12 + (encode pre).length + w.size + (encode post).length := by
        simpa using hfits
      rw [IsBlob.editWorks_iff (t := pre ++ v :: post) (by rwa [hedit]), edited_self_iff]
      constructor
      · exact fun hsame => .inr ⟨show 768 < 12 + _ by omega, hsame⟩
      · rintro (hv | ⟨-, hsame⟩)
        · have hroom' : 12 + (encode (pre ++ w :: post)).length ≤ 768 := hroom _ (hreplaced hv)
          omega
        · exact hsame

/-! ### Replacing an element or putting one in -/

lemma putIn_iff_of_first (hpre : ∀ x ∈ pre, x.id ≠ index) (hold : old.id = index) :
    PutIn (·.id = index) e (pre ++ old :: post) es' ↔ es' = pre ++ e :: post := by
  constructor
  · rintro (⟨pre', old', post', hes, hpre', hold', rfl⟩ | ⟨hnone, -⟩)
    · obtain ⟨rfl, -, rfl⟩ := first_unique_of_mem (p := fun x => x.id = index) hes hold
        (by simpa using hold') hpre (fun x hx => by simpa using hpre' x hx)
      rfl
    · exact absurd hold (by simpa using hnone old (by simp))
  · rintro rfl
    exact .inl ⟨pre, old, post, rfl, fun x hx => by simpa using hpre x hx, by simpa using hold, rfl⟩

lemma putIn_iff_of_none (hnone : ∀ x ∈ es, x.id ≠ index) :
    PutIn (·.id = index) e es es' ↔ ∃ pre post, es = pre ++ post ∧ es' = pre ++ e :: post := by
  constructor
  · rintro (⟨pre, old, post, rfl, -, hold, -⟩ | ⟨-, hput⟩)
    · exact absurd (by simpa using hold) (hnone old (by simp))
    · exact hput
  · exact fun hput => .inr ⟨fun x hx => by simpa using hnone x hx, hput⟩

/-! ### Adding an element -/

/-- The last of some elements that begin at a place, or what there was before. -/
def lastAt (a : ℕ) (p : Option (ℕ × ℕ)) : List Element → Option (ℕ × ℕ)
  | [] => p
  | x :: es => lastAt (a + x.size) (some (a, x.data.length)) es

lemma lastAt_concat (a : ℕ) (p : Option (ℕ × ℕ)) (es : List Element) (x : Element) :
    lastAt a p (es ++ [x]) = some (a + (encode es).length, x.data.length) := by
  induction es generalizing a p with
  | nil => rfl
  | cons y es ih =>
      rw [List.cons_append, lastAt, ih, encode_cons, List.length_append, Element.length_bytes,
        Nat.add_assoc]

/-- The loop passes elements of smaller ids. -/
lemma addBcnLoop_append {a m : ℕ} {p : Option (ℕ × ℕ)} (hat : At net.ies a (pre ++ post))
    (hpre : ∀ x ∈ pre, x.id < index) (hend : net.ieLength = a + (encode (pre ++ post)).length) :
    addBcnLoop net index (pre.length + m) a p =
      addBcnLoop net index m (a + (encode pre).length) (lastAt a p pre) := by
  induction pre generalizing a p with
  | nil => simp [lastAt]
  | cons x pre ih =>
      have hx : x.id < index := hpre x (by simp)
      have hid : net.ies.getD a 0 = x.id := At.id_eq hat
      have hlen : lenAt net.ies a = x.data.length := At.lenAt_eq hat
      have hsize : (encode (x :: pre ++ post)).length = x.size + (encode (pre ++ post)).length := by
        simp
      have hpos : 0 < x.size := Nat.succ_pos _
      have hcount : (x :: pre).length + m = (pre.length + m) + 1 := by
        rw [List.length_cons]
        omega
      rw [hcount, addBcnLoop, if_neg (by omega), hid, if_neg (UInt8.not_lt.2 (UInt8.le_of_lt hx)),
        if_neg (UInt8.ne_of_lt hx), hlen, show a + (x.data.length + 2) = a + x.size from rfl,
        ih hat.tail (fun y hy => hpre y (by simp [hy])) (by omega), lastAt, encode_cons,
        List.length_append, Element.length_bytes, Nat.add_assoc]

/-- Where the loop of `rtw_add_bcn_ie` stops in a blob. -/
lemma addBcnLoop_eq (h : IsBlob net fixed (pre ++ post)) (hpre : ∀ x ∈ pre, x.id < index)
    (hpost : ∀ x ∈ post.head?, ¬ x.id < index) :
    addBcnLoop net index net.ieLength 12 none =
      match post with
      | [] => (lastAt 12 none pre, false)
      | y :: _ =>
          if y.id = index then (some (12 + (encode pre).length, y.data.length), true)
          else (lastAt 12 none pre, false) := by
  have hie := h.ieLength_eq
  have hcount := length_le_encode pre
  have hlen : (encode (pre ++ post)).length = (encode pre).length + (encode post).length := by simp
  obtain ⟨m, hm⟩ : ∃ m, net.ieLength = pre.length + (m + 1) :=
    ⟨net.ieLength - pre.length - 1, by omega⟩
  have hloop := addBcnLoop_append (m := m + 1) (p := none) h.at_elements hpre (by omega)
  rw [← hm] at hloop
  rw [hloop, addBcnLoop]
  cases post with
  | nil => rw [if_pos (by rw [encode_nil, List.length_nil] at hlen; omega)]
  | cons y rest =>
      have hid : net.ies.getD (12 + (encode pre).length) 0 = y.id := h.at_elements.right.id_eq
      have hdata := At.lenAt_eq h.at_elements.right
      have hsize : 0 < (encode (y :: rest)).length := by simp [Element.size]
      have hy : ¬ y.id < index := hpost y (by simp)
      rw [if_neg (by omega), hid]
      dsimp only
      by_cases heq : y.id = index
      · rw [if_neg (by rw [heq]; exact UInt8.lt_irrefl _), if_pos heq, if_pos heq, hdata]
      · rw [if_pos (UInt8.lt_of_le_of_ne (UInt8.not_lt.1 hy) (Ne.symm heq)), if_neg heq]

/-- What `AddFits` says behind the elements of smaller ids. -/
lemma addFits_iff (hpre : ∀ x ∈ pre, x.id < e.id) (hpost : ∀ x ∈ post.head?, ¬ x.id < e.id) :
    AddFits e (pre ++ post) ↔
      (∃ old rest, post = old :: rest ∧ old.id = e.id ∧ (old.data ≠ [] ∨ old = e)) ∨
        (∀ x ∈ post.head?, e.id < x.id) ∧
          ((∃ x ∈ pre.getLast?, x.data ≠ []) ∧ (∀ x ∈ post, x.id ≠ e.id) ∨
            (∀ x ∈ pre.getLast?, x.data = []) ∧ post.find? (·.id = e.id) = some e) := by
  constructor
  · rintro ⟨pre', post', hes, hpre', hbody⟩
    have hpost' : ∀ x ∈ post'.head?, ¬ x.id < e.id := by
      intro x hx
      rcases hbody with ⟨old, rest, rfl, hid, -⟩ | ⟨hgt, -⟩
      · obtain rfl : old = x := by simpa using hx
        rw [hid]
        exact UInt8.lt_irrefl _
      · exact UInt8.not_lt.2 (UInt8.le_of_lt (hgt x hx))
    obtain ⟨rfl, rfl⟩ := split_unique (p := fun x => x.id < e.id) hes hpre hpre' hpost hpost'
    exact hbody
  · exact fun hbody => ⟨pre, post, rfl, hpre, hbody⟩

lemma rtwAddBcnIe_of_none {stop : Bool}
    (hloop : addBcnLoop net e.id net.ieLength 12 none = (none, stop)) :
    rtwAddBcnIe malloc e.id e.data net = net := by
  unfold rtwAddBcnIe
  rw [hloop]

lemma rtwAddBcnIe_of_some {a len : ℕ} {found : Bool}
    (hloop : addBcnLoop net e.id net.ieLength 12 none = (some (a, len), found)) :
    rtwAddBcnIe malloc e.id e.data net =
      if 0 < len then
        spliceIe malloc net (if found then a else a + (len + 2)) (a + (len + 2))
          (sub32 net.ieLength (a + (len + 2))) e.bytes
      else net := by
  unfold rtwAddBcnIe
  rw [hloop]
  rfl

/-- The element is there already. -/
lemma add_iff_of_found (hmalloc : ∀ k ≤ maxIeSz, malloc k = true)
    (h : IsBlob net fixed (pre ++ old :: post)) (hpre : ∀ x ∈ pre, x.id < e.id)
    (hold : old.id = e.id)
    (hroom : ∀ es', Edited (pre ++ old :: post) es' (.add e) → 12 + (encode es').length ≤ maxIeSz) :
    EditWorks malloc net fixed (pre ++ old :: post) (.add e) ↔ old.data ≠ [] ∨ old = e := by
  have hne : ∀ x ∈ pre, x.id ≠ e.id := fun x hx => UInt8.ne_of_lt (hpre x hx)
  have hedited (es' : List Element) :
      Edited (pre ++ old :: post) es' (.add e) ↔ es' = pre ++ e :: post :=
    putIn_iff_of_first hne hold
  have hloop := addBcnLoop_eq h hpre (by simp [hold])
  dsimp only at hloop
  rw [if_pos hold] at hloop
  have hadd : editBcn malloc net (.add e) = rtwAddBcnIe malloc e.id e.data net := rfl
  by_cases hdata : old.data = []
  · have hedit : editBcn malloc net (.add e) = net := by
      rw [hadd, rtwAddBcnIe_of_some hloop, if_neg (by rw [hdata]; exact Nat.lt_irrefl 0)]
    rw [IsBlob.editWorks_iff (t := pre ++ old :: post) (by rwa [hedit]), hedited,
      List.append_cancel_left_eq, List.cons.injEq]
    simp [hdata]
  · have hblob : IsBlob (editBcn malloc net (.add e)) fixed (pre ++ ([e] ++ post)) := by
      rw [hadd, rtwAddBcnIe_of_some hloop, if_pos (List.length_pos_iff.2 hdata), if_pos rfl]
      refine isBlob_spliceIe hmalloc (m := [old]) h (by simp) rfl ?_ (hroom _ ((hedited _).2 rfl))
      simp [Element.size]
      omega
    rw [hblob.editWorks_iff, hedited]
    exact ⟨fun _ => .inl hdata, fun _ => rfl⟩

/-- The net is left as it is. -/
lemma add_iff_of_kept (h : IsBlob net fixed es) (hedit : editBcn malloc net (.add e) = net) :
    EditWorks malloc net fixed es (.add e) ↔ es.find? (·.id = e.id) = some e := by
  rw [IsBlob.editWorks_iff (t := es) (by rwa [hedit])]
  show PutIn _ _ _ _ ↔ _
  rcases exists_first_id e.id es with hnone | ⟨pre, old, post, rfl, hpre, hold⟩
  · rw [putIn_iff_of_none hnone, List.find?_eq_none.2 fun x hx => by simpa using hnone x hx]
    constructor
    · rintro ⟨pre, post, rfl, hes⟩
      have hlen := congrArg List.length hes
      simp at hlen
    · exact fun hfind => absurd hfind (by simp)
  · rw [putIn_iff_of_first hpre hold, List.append_cancel_left_eq, List.cons.injEq,
      List.find?_append, List.find?_eq_none.2 fun x hx => by simpa using hpre x hx,
      List.find?_cons_of_pos (by simpa using hold)]
    simp

/-- The element is put in behind one that has data. -/
lemma add_iff_of_put (hmalloc : ∀ k ≤ maxIeSz, malloc k = true)
    (h : IsBlob net fixed (pre ++ post)) (hpre : ∀ x ∈ pre, x.id < e.id)
    (hedit : editBcn malloc net (.add e) =
      spliceIe malloc net (12 + (encode pre).length) (12 + (encode pre).length)
        (sub32 net.ieLength (12 + (encode pre).length)) e.bytes)
    (hroom : ∀ es', Edited (pre ++ post) es' (.add e) → 12 + (encode es').length ≤ maxIeSz) :
    EditWorks malloc net fixed (pre ++ post) (.add e) ↔ ∀ x ∈ post, x.id ≠ e.id := by
  have hne : ∀ x ∈ pre, x.id ≠ e.id := fun x hx => UInt8.ne_of_lt (hpre x hx)
  have hblob (hfits : 12 + (encode (pre ++ ([e] ++ post))).length ≤ maxIeSz) :
      IsBlob (editBcn malloc net (.add e)) fixed (pre ++ ([e] ++ post)) := by
    rw [hedit]
    refine isBlob_spliceIe hmalloc (m := []) (by simpa using h) (by simp) rfl (by simp) hfits
  constructor
  · rintro ⟨es', hes', hedited⟩ x hx hid
    -- It is there, farther behind; then there is one element too many.
    obtain ⟨p, q, rfl⟩ := List.append_of_mem hx
    have hcount : es'.length = (pre ++ (p ++ x :: q)).length := by
      rcases hedited with ⟨pre', old, post', hsplit, -, -, rfl⟩ | ⟨hnone, -⟩
      · rw [hsplit]
        simp
      · exact absurd hid (by simpa using hnone x (by simp))
    have hie := h.ieLength_eq
    have hle : net.ieLength ≤ 768 := h.le
    have hsize : e.bytes.length < 4294967296 - 768 := by
      have := e.short
      rw [Element.length_bytes, Element.size]
      omega
    have hlength := ieLength_spliceIe (f := malloc) (n := net) hle
      (d := 12 + (encode pre).length) (p := 12 + (encode pre).length) (s := e.bytes)
      (by
        rw [hie, encode_append, List.length_append]
        omega) (Nat.le_refl _) (by omega)
    rw [← hedit] at hlength
    have hfits : 12 + (encode (pre ++ ([e] ++ (p ++ x :: q)))).length ≤ maxIeSz := by
      show _ ≤ 768
      have hle' : (editBcn malloc net (.add e)).ieLength ≤ 768 := hes'.le
      have htotal : (encode (pre ++ ([e] ++ (p ++ x :: q)))).length =
          (encode (pre ++ (p ++ x :: q))).length + e.bytes.length := by
        simp
        omega
      omega
    have hone := congrArg List.length ((hblob hfits).unique hes')
    rw [hcount] at hone
    simp at hone
  · intro hpost
    have hnone : ∀ x ∈ pre ++ post, x.id ≠ e.id := fun x hx =>
      (List.mem_append.1 hx).elim (hne x) (hpost x)
    have hput : Edited (pre ++ post) (pre ++ ([e] ++ post)) (.add e) :=
      (putIn_iff_of_none hnone).2 ⟨pre, post, rfl, rfl⟩
    exact ⟨_, hblob (hroom _ hput), hput⟩

lemma add_iff (hmalloc : ∀ k ≤ maxIeSz, malloc k = true) (h : IsBlob net fixed es)
    (hroom : ∀ es', Edited es es' (.add e) → 12 + (encode es').length ≤ maxIeSz) :
    EditWorks malloc net fixed es (.add e) ↔ AddFits e es := by
  obtain ⟨pre, post, rfl, hpre, hpost⟩ : ∃ pre post, es = pre ++ post ∧
      (∀ x ∈ pre, x.id < e.id) ∧ ∀ x ∈ post.head?, ¬ x.id < e.id := by
    rcases exists_first (fun x => decide (¬ x.id < e.id)) es with
      hall | ⟨pre, y, post, rfl, hpre, hy⟩
    · exact ⟨es, [], by simp, fun x hx => by simpa using hall x hx, by simp⟩
    · exact ⟨pre, y :: post, rfl, fun x hx => by simpa using hpre x hx, by simpa using hy⟩
  have hadd : editBcn malloc net (.add e) = rtwAddBcnIe malloc e.id e.data net := rfl
  have hne : ∀ x ∈ pre, x.id ≠ e.id := fun x hx => UInt8.ne_of_lt (hpre x hx)
  have hfind : (pre ++ post).find? (·.id = e.id) = post.find? (·.id = e.id) := by
    rw [List.find?_append, List.find?_eq_none.2 fun x hx => by simpa using hne x hx]
    rfl
  rw [addFits_iff hpre hpost]
  by_cases hhead : ∃ old rest, post = old :: rest ∧ old.id = e.id
  · obtain ⟨old, rest, rfl, hold⟩ := hhead
    rw [add_iff_of_found hmalloc h hpre hold hroom]
    constructor
    · exact fun hdata => .inl ⟨old, rest, rfl, hold, hdata⟩
    · rintro (⟨old', rest', hcons, -, hdata⟩ | ⟨hgt, -⟩)
      · obtain ⟨rfl, -⟩ := List.cons.inj hcons
        exact hdata
      · have hlt : e.id < old.id := hgt old (by simp)
        rw [hold] at hlt
        exact absurd hlt (UInt8.lt_irrefl _)
  · have hgt : ∀ x ∈ post.head?, e.id < x.id := by
      intro x hx
      obtain ⟨rest, rfl⟩ := List.head?_eq_some_iff.1 hx
      exact UInt8.lt_of_le_of_ne (UInt8.not_lt.1 (hpost x hx))
        fun heq => hhead ⟨x, rest, rfl, heq.symm⟩
    have hloop : addBcnLoop net e.id net.ieLength 12 none = (lastAt 12 none pre, false) := by
      rw [addBcnLoop_eq h hpre hpost]
      cases post with
      | nil => rfl
      | cons y rest => exact if_neg fun heq => hhead ⟨y, rest, rfl, heq⟩
    have hbody : (∃ old rest, post = old :: rest ∧ old.id = e.id ∧ (old.data ≠ [] ∨ old = e)) ↔
        False := by
      simp only [iff_false]
      rintro ⟨old, rest, hcons, hid, -⟩
      exact hhead ⟨old, rest, hcons, hid⟩
    rw [hbody, false_or, and_iff_right hgt]
    rcases List.eq_nil_or_concat pre with rfl | ⟨pre, x, rfl⟩
    · have hedit : editBcn malloc net (.add e) = net := by
        rw [hadd, rtwAddBcnIe_of_none hloop]
      rw [add_iff_of_kept h hedit, hfind]
      simp
    · rw [List.concat_eq_append] at *
      rw [lastAt_concat] at hloop
      by_cases hdata : x.data = []
      · have hedit : editBcn malloc net (.add e) = net := by
          rw [hadd, rtwAddBcnIe_of_some hloop, if_neg (by rw [hdata]; exact Nat.lt_irrefl 0)]
        rw [add_iff_of_kept h hedit, hfind]
        simp [hdata]
      · have hplace : 12 + (encode pre).length + (x.data.length + 2) =
            12 + (encode (pre ++ [x])).length := by
          simp [Element.size]
          omega
        rw [add_iff_of_put hmalloc h hpre ?_ hroom]
        · simp [hdata]
        · rw [hadd, rtwAddBcnIe_of_some hloop, if_pos (List.length_pos_iff.2 hdata),
            if_neg (by simp), hplace]

/-! ### The TIM -/

/-- What a splice leaves in front and writes. -/
lemma take_spliceIe_front {dst premainder rem : ℕ} {src : List UInt8}
    (hdst : dst ≤ net.ies.length) :
    (spliceIe malloc net dst premainder rem src).ies.take (dst + src.length) =
      net.ies.take dst ++ src := by
  have hlen : (net.ies.take dst ++ src).length = dst + src.length := by
    rw [List.length_append, List.length_take, Nat.min_eq_left hdst]
  have hwritten (cs : List UInt8) : (net.ies.take dst ++ src ++ cs).take (dst + src.length) =
      net.ies.take dst ++ src := by
    rw [← hlen, List.take_left]
  unfold spliceIe spliceIeBy
  dsimp only
  split
  · rw [writeAt, List.append_assoc, writeAt, hwritten, hwritten]
  · rw [writeAt, hwritten]

lemma ieLenOf_eq (h : IsBlob net fixed es) (index : UInt8) :
    ieLenOf net index = sizeOf index es := by
  unfold ieLenOf sizeOf
  rcases exists_first_id index es with hnone | ⟨pre, e, post, rfl, hpre, he⟩
  · rw [h.rtwGetIe_eq_none hnone, List.find?_eq_none.2 fun x hx => by simpa using hnone x hx]
    rfl
  · rw [h.rtwGetIe_eq_some hpre he, List.find?_append,
      List.find?_eq_none.2 fun x hx => by simpa using hpre x hx,
      List.find?_cons_of_pos (by simpa using he)]
    rfl

lemma timOffset_eq (h : IsBlob net fixed es) : timOffset net = 12 + timGap es := by
  unfold timOffset timGap
  rw [ieLenOf_eq h, ieLenOf_eq h]
  show 12 + sizeOf ssidIe es + sizeOf supportedRatesIe es + 3 = _
  omega

/-- Elements of two ids do not overlap. -/
lemma sizeOf_add_le {i j : UInt8} (hij : i ≠ j) (es : List Element) :
    sizeOf i es + sizeOf j es ≤ (encode es).length := by
  induction es with
  | nil => simp [sizeOf]
  | cons x es ih =>
      have hcons (k : UInt8) : sizeOf k (x :: es) = if x.id = k then x.size else sizeOf k es := by
        unfold sizeOf
        by_cases hx : x.id = k
        · rw [List.find?_cons_of_pos (by simpa using hx), if_pos hx]
          rfl
        · rw [List.find?_cons_of_neg (by simpa using hx), if_neg hx]
      rw [hcons, hcons, encode_cons, List.length_append, Element.length_bytes]
      by_cases hi : x.id = i
      · rw [if_pos hi, if_neg fun hj => hij (hi.symm.trans hj)]
        omega
      · rw [if_neg hi]
        split <;> omega

lemma timGap_le (es : List Element) : timGap es ≤ (encode es).length + 3 :=
  Nat.add_le_add_right (sizeOf_add_le (by decide) es) 3

/-- What `update_BCNTIM` does when it finds no TIM. -/
lemma updateBCNTIM_of_none {t : TimBitmap} {f : ℕ → Bool}
    (h : (rtwGetIe net.ies 12 timIe (net.ieLength - 12)).filter (0 < ·.2) = none) :
    editBcn f net (.tim t) = spliceIeBy f net (timOffset net) (timOffset net)
      (sub32 net.ieLength (timOffset net)) (timElement t).bytes ((timElement t).size % 256) := by
  rw [← Element.length_bytes, bytes_timElement]
  show updateBCNTIM f t.octets net = _
  unfold updateBCNTIM
  dsimp only
  rw [h]

lemma updateBCNTIM_of_some {a len : ℕ}
    (h : (rtwGetIe net.ies 12 timIe (net.ieLength - 12)).filter (0 < ·.2) = some (a, len)) :
    editBcn malloc net (.tim bmp) = spliceIeBy malloc net a (a + (len + 2))
      (sub32 net.ieLength (a + (len + 2))) (timElement bmp).bytes
        ((timElement bmp).size % 256) := by
  rw [← Element.length_bytes, bytes_timElement]
  show updateBCNTIM malloc bmp.octets net = _
  unfold updateBCNTIM
  dsimp only
  rw [h]

/-- The length of an element that is short enough is returned as it is. -/
lemma spliceIeBy_of_short {f : ℕ → Bool} {d p r : ℕ} (hshort : e.size < 256) :
    spliceIeBy f net d p r e.bytes (e.size % 256) = spliceIe f net d p r e.bytes := by
  rw [Nat.mod_eq_of_lt hshort, ← Element.length_bytes]
  rfl

lemma putTim_of_short (hshort : (timElement bmp).size < 256)
    (h : (rtwGetIe net.ies 12 timIe (net.ieLength - 12)).filter (0 < ·.2) = none) :
    editBcn malloc net (.tim bmp) = spliceIe malloc net (timOffset net) (timOffset net)
      (sub32 net.ieLength (timOffset net)) (timElement bmp).bytes :=
  (updateBCNTIM_of_none h).trans (spliceIeBy_of_short hshort)

/-- A TIM has at most 256 bytes. -/
lemma size_timElement_le (bmp : TimBitmap) : (timElement bmp).size ≤ 256 := by
  have hle := bmp.le
  have hoctets := timOctets_le bmp
  simp only [Element.size, timElement, List.length_append, List.length_take, List.length_drop,
    List.length_cons, List.length_nil]
  omega

/-- Behind a TIM of 256 bytes the blob goes on where the TIM begins. -/
lemma not_tim_of_long (h : IsBlob net fixed es) (hlong : ¬ (timElement bmp).size < 256) :
    ¬ EditWorks malloc net fixed es (.tim bmp) := by
  rintro ⟨es', hes', hedited⟩
  have hsize := size_timElement_le bmp
  have hzero : (timElement bmp).size % 256 = 0 := by omega
  have hie := h.ieLength_eq
  have hie' := hes'.ieLength_eq
  have hle : net.ieLength ≤ 768 := h.le
  have hgap := timGap_le es
  -- the length of a blob into which a TIM is put where there is none with data
  have hkept (hnone : (rtwGetIe net.ies 12 timIe (net.ieLength - 12)).filter (0 < ·.2) = none) :
      (editBcn malloc net (.tim bmp)).ieLength = net.ieLength := by
    rw [updateBCNTIM_of_none hnone, hzero, ieLength_spliceIeBy hle _ (by rw [timOffset_eq h]; omega)
      (Nat.le_refl _) (by omega)]
    omega
  rcases exists_first_id timIe es with hno | ⟨pre, old, post, rfl, hpre, hold⟩
  · obtain ⟨pre, post, rfl, rfl⟩ := (putIn_iff_of_none hno).1 hedited
    rw [hkept (by rw [h.rtwGetIe_eq_none hno]; rfl), hie] at hie'
    simp only [encode_append, encode_cons, List.length_append, Element.length_bytes] at hie'
    omega
  · rw [(putIn_iff_of_first hpre hold).1 hedited] at hie'
    have hfound := h.rtwGetIe_eq_some hpre hold
    simp only [encode_append, encode_cons, List.length_append, Element.length_bytes,
      Element.size] at hie hie' hsize hlong
    by_cases hdata : old.data = []
    · rw [hkept (by rw [hfound, hdata]; rfl), hie, hdata, List.length_nil] at hie'
      omega
    · have hsome : (rtwGetIe net.ies 12 timIe (net.ieLength - 12)).filter (0 < ·.2) =
          some (12 + (encode pre).length, old.data.length) := by
        rw [hfound]
        exact if_pos (by simpa using List.length_pos_iff.2 hdata)
      rw [updateBCNTIM_of_some hsome, hzero,
        ieLength_spliceIeBy hle _ (by omega) (Nat.le_add_right _ _) (by omega)] at hie'
      omega

/-- The length after a TIM is put in where there is none. -/
lemma ieLength_putTim (h : IsBlob net fixed es)
    (hput : editBcn malloc net (.tim bmp) = spliceIe malloc net (timOffset net) (timOffset net)
      (sub32 net.ieLength (timOffset net)) (timElement bmp).bytes) :
    (editBcn malloc net (.tim bmp)).ieLength = 12 + (encode es).length + (timElement bmp).size := by
  have hie := h.ieLength_eq
  have hle : net.ieLength ≤ 768 := h.le
  have hgap := timGap_le es
  have hshort := (timElement bmp).short
  rw [hput, ieLength_spliceIe hle (by rw [timOffset_eq h]; omega) (Nat.le_refl _) (by
    rw [Element.length_bytes, Element.size]
    omega), Element.length_bytes, Nat.sub_self, Nat.sub_zero, hie]
  rw [Element.size] at *
  omega

lemma length_timElement (bmp : TimBitmap) : 4 ≤ (timElement bmp).data.length := by
  have hoctets := timOctets_le bmp
  simp only [timElement, List.length_append, List.length_take, List.length_drop,
    List.length_cons, List.length_nil]
  omega

/-- The first bytes of a TIM do not repeat at a distance of up to three. -/
lemma timElement_not_periodic {stale : List UInt8} (hpos : 0 < stale.length)
    (hle : stale.length ≤ 3) :
    (stale ++ (timElement bmp).bytes).take (timElement bmp).size ≠ (timElement bmp).bytes := by
  intro hshift
  have hlong := length_timElement bmp
  have hsize : (timElement bmp).size = (timElement bmp).data.length + 2 := rfl
  obtain ⟨m, p, q, rest, hbytes⟩ : ∃ m p q rest,
      (timElement bmp).bytes = 5 :: m :: 0 :: 1 :: p :: q :: rest := by
    obtain ⟨p, hp⟩ : ∃ p, (timElement bmp).data = [0, 1, p] ++
      (bmp.octets.drop (timOctets bmp.octets).1).take
        ((timOctets bmp.octets).2 - (timOctets bmp.octets).1 + 1) := ⟨_, rfl⟩
    cases hrest : (bmp.octets.drop (timOctets bmp.octets).1).take
        ((timOctets bmp.octets).2 - (timOctets bmp.octets).1 + 1) with
    | nil =>
        rw [hp, hrest] at hlong
        simp at hlong
    | cons q rest =>
        refine ⟨UInt8.ofNat (timElement bmp).data.length, p, q, rest, ?_⟩
        rw [Element.bytes, hp, hrest]
        rfl
  have hat (k i : ℕ) (hk : stale.length = k) (hi : k + i < 6) :
      (timElement bmp).bytes[k + i]? = (timElement bmp).bytes[i]? := by
    conv_lhs => rw [← hshift]
    rw [List.getElem?_take_of_lt (by omega), List.getElem?_append_right (by omega), hk,
      Nat.add_sub_cancel_left]
  rw [hbytes] at hat
  obtain hk | hk | hk : stale.length = 1 ∨ stale.length = 2 ∨ stale.length = 3 := by omega
  · have hzero : some m = some 5 := hat 1 0 hk (by decide)
    have hone : some (0 : UInt8) = some m := hat 1 1 hk (by decide)
    rw [hzero] at hone
    exact absurd hone (by decide)
  · exact absurd (hat 2 0 hk (by decide)) (by decide : some (0 : UInt8) ≠ some 5)
  · exact absurd (hat 3 0 hk (by decide)) (by decide : some (1 : UInt8) ≠ some 5)

/-- Where there is a TIM with data, it is replaced. -/
lemma tim_of_found (hmalloc : ∀ k ≤ maxIeSz, malloc k = true)
    (hshort : (timElement bmp).size < 256) (h : IsBlob net fixed (pre ++ old :: post))
    (hpre : ∀ x ∈ pre, x.id ≠ timIe)
    (hold : old.id = timIe) (hdata : old.data ≠ [])
    (hroom : ∀ es', Edited (pre ++ old :: post) es' (.tim bmp) →
      12 + (encode es').length ≤ maxIeSz) :
    EditWorks malloc net fixed (pre ++ old :: post) (.tim bmp) := by
  have hput : Edited (pre ++ old :: post) (pre ++ timElement bmp :: post) (.tim bmp) :=
    (putIn_iff_of_first hpre hold).2 rfl
  have hfound : (rtwGetIe net.ies 12 timIe (net.ieLength - 12)).filter (0 < ·.2) =
      some (12 + (encode pre).length, old.data.length) := by
    rw [h.rtwGetIe_eq_some hpre hold]
    exact if_pos (by simpa using List.length_pos_iff.2 hdata)
  refine ⟨_, ?_, hput⟩
  rw [updateBCNTIM_of_some hfound, spliceIeBy_of_short hshort]
  refine isBlob_spliceIe hmalloc (m := [old]) (n := [timElement bmp]) h (by simp) rfl ?_
    (hroom _ hput)
  simp [Element.size]
  omega

/-- Where there is a TIM without data, there are two afterwards. -/
lemma not_tim_of_empty (hshort : (timElement bmp).size < 256)
    (h : IsBlob net fixed (pre ++ old :: post)) (hpre : ∀ x ∈ pre, x.id ≠ timIe)
    (hold : old.id = timIe) (hdata : old.data = []) :
    ¬ EditWorks malloc net fixed (pre ++ old :: post) (.tim bmp) := by
  rintro ⟨es', hes', hedited⟩
  have hnone : (rtwGetIe net.ies 12 timIe (net.ieLength - 12)).filter (0 < ·.2) = none := by
    rw [h.rtwGetIe_eq_some hpre hold, hdata]
    rfl
  have hput : editBcn malloc net (.tim bmp) = _ := putTim_of_short hshort hnone
  have hlength := ieLength_putTim h hput
  rw [(putIn_iff_of_first hpre hold).1 hedited] at hes'
  rw [hes'.ieLength_eq] at hlength
  simp [Element.size] at hlength
  omega

lemma timPlaced_iff_of_first (hpre : ∀ x ∈ pre, x.id ≠ timIe) (hold : old.id = timIe) :
    TimPlaced e (pre ++ old :: post) ↔ old.data ≠ [] := by
  constructor
  · rintro (⟨pre', old', post', hes, hpre', hold', hdata⟩ | ⟨hnone, -⟩)
    · obtain ⟨-, rfl, -⟩ :=
        first_unique_of_mem (p := fun x => x.id = timIe) hes hold hold' hpre hpre'
      exact hdata
    · exact absurd hold (hnone old (by simp))
  · exact fun hdata => .inl ⟨pre, old, post, rfl, hpre, hold, hdata⟩

/-- What `update_BCNTIM` gives when the place it computes for a new TIM lies in the blob. -/
lemma take_putTim (hmalloc : ∀ k ≤ maxIeSz, malloc k = true) (h : IsBlob net fixed es)
    (hput : editBcn malloc net (.tim bmp) = spliceIe malloc net (timOffset net) (timOffset net)
      (sub32 net.ieLength (timOffset net)) (timElement bmp).bytes)
    (hgap : timGap es ≤ (encode es).length)
    (hfits : 12 + (encode es).length + (timElement bmp).size ≤ maxIeSz) :
    (editBcn malloc net (.tim bmp)).ies.length = maxIeSz ∧
      (editBcn malloc net (.tim bmp)).ies.take (editBcn malloc net (.tim bmp)).ieLength =
        fixed ++ ((encode es).take (timGap es) ++
          ((timElement bmp).bytes ++ (encode es).drop (timGap es))) := by
  have hfixed : fixed.length = 12 := h.length_fixed
  have hlenTake : ((encode es).take (timGap es)).length = timGap es := by
    rw [List.length_take, Nat.min_eq_left hgap]
  have hfront : (fixed ++ (encode es).take (timGap es)).length = timOffset net := by
    rw [List.length_append, hfixed, hlenTake, timOffset_eq h]
  have hblob : net.ies.take net.ieLength = (fixed ++ (encode es).take (timGap es)) ++
      ([] ++ (encode es).drop (timGap es)) := by
    rw [h.blob, List.nil_append, List.append_assoc, List.take_append_drop]
  have hsize : (fixed ++ (encode es).take (timGap es)).length + (timElement bmp).bytes.length +
      ((encode es).drop (timGap es)).length = 12 + (encode es).length + (timElement bmp).size := by
    rw [List.length_append, hfixed, hlenTake, Element.length_bytes, List.length_drop]
    omega
  obtain ⟨hlen, hie, htake⟩ := take_spliceIe hmalloc h.length_ies hblob h.le
    (s := (timElement bmp).bytes) (by rw [hsize]; exact hfits) (p := timOffset net)
    (by rw [hfront]; rfl)
  rw [hfront] at hlen hie htake
  rw [hput, hie, htake]
  exact ⟨hlen, List.append_assoc ..⟩

/-- Where there is none, the place is the end of an element or might as well be. -/
lemma tim_iff_of_none (hmalloc : ∀ k ≤ maxIeSz, malloc k = true)
    (hshort : (timElement bmp).size < 256) (h : IsBlob net fixed es)
    (hnone : ∀ x ∈ es, x.id ≠ timIe) (hgap : timGap es ≤ (encode es).length)
    (hfits : 12 + (encode es).length + (timElement bmp).size ≤ maxIeSz) :
    EditWorks malloc net fixed es (.tim bmp) ↔
      ∃ pre post, es = pre ++ post ∧ timGap es ≤ (encode pre).length ∧
        (timElement bmp).bytes ++ (encode pre).drop (timGap es) =
          (encode pre).drop (timGap es) ++ (timElement bmp).bytes := by
  have hput := @putTim_of_short malloc _ _ hshort
    (by rw [h.rtwGetIe_eq_none hnone]; rfl)
  obtain ⟨hlen, htake⟩ := take_putTim hmalloc h hput hgap hfits
  have hedited (es' : List Element) : Edited es es' (.tim bmp) ↔ ∃ pre post, es = pre ++ post ∧
      es' = pre ++ timElement bmp :: post := putIn_iff_of_none hnone
  constructor
  · rintro ⟨es', hes', hput'⟩
    obtain ⟨pre, post, rfl, rfl⟩ := (hedited es').1 hput'
    have hbytes := List.append_cancel_left (htake.symm.trans hes'.blob)
    rw [encode_append, encode_append, encode_cons] at hbytes
    refine ⟨pre, post, rfl, ?_⟩
    by_cases hle : timGap (pre ++ post) ≤ (encode pre).length
    · refine ⟨hle, ?_⟩
      rw [List.take_append_of_le_length hle, List.drop_append_of_le_length hle] at hbytes
      conv_rhs at hbytes => rw [← List.take_append_drop (timGap (pre ++ post)) (encode pre)]
      rw [List.append_assoc] at hbytes
      have hrest := List.append_cancel_left hbytes
      rw [← List.append_assoc, ← List.append_assoc] at hrest
      exact List.append_cancel_right hrest
    · -- The bytes in front of the place begin with the element behind the TIM.
      exfalso
      have hgt : (encode pre).length ≤ timGap (pre ++ post) := by omega
      rw [List.take_append, List.take_of_length_le hgt, List.append_assoc] at hbytes
      have hrest := List.append_cancel_left hbytes
      cases post with
      | nil =>
          rw [List.append_nil] at hgap hle
          exact absurd hgap hle
      | cons y post =>
          obtain ⟨k, hk⟩ : ∃ k, timGap (pre ++ y :: post) - (encode pre).length = k + 1 :=
            ⟨timGap (pre ++ y :: post) - (encode pre).length - 1, by omega⟩
          rw [hk] at hrest
          exact hnone y (by simp) (List.cons.inj hrest).1
  · rintro ⟨pre, post, rfl, hle, hcomm⟩
    refine ⟨pre ++ timElement bmp :: post, ⟨hlen, h.length_fixed, ?_, ?_⟩,
      (hedited _).2 ⟨pre, post, rfl, rfl⟩⟩
    · rw [ieLength_putTim h hput]
      exact hfits
    · rw [htake, encode_append, encode_append, encode_cons, List.take_append_of_le_length hle,
        List.drop_append_of_le_length hle, ← List.append_assoc (timElement bmp).bytes, hcomm,
        List.append_assoc, ← List.append_assoc ((encode pre).take _), List.take_append_drop]

/-- The place may lie behind the blob. -/
lemma not_tim_of_lt (hshort : (timElement bmp).size < 256) (h : IsBlob net fixed es)
    (hnone : ∀ x ∈ es, x.id ≠ timIe)
    (hgap : (encode es).length < timGap es)
    (hfits : 12 + (encode es).length + (timElement bmp).size ≤ maxIeSz) :
    ¬ EditWorks malloc net fixed es (.tim bmp) := by
  rintro ⟨es', hes', hedited⟩
  obtain ⟨pre, post, rfl, rfl⟩ := (putIn_iff_of_none hnone).1 hedited
  have hput := @putTim_of_short malloc _ _ hshort
    (by rw [h.rtwGetIe_eq_none hnone]; rfl)
  have hfixed : fixed.length = 12 := h.length_fixed
  have hie := h.ieLength_eq
  have hlong := length_timElement bmp
  have hsize : (timElement bmp).size = (timElement bmp).data.length + 2 := rfl
  have hle3 := timGap_le (pre ++ post)
  have hfits' : 12 + (encode (pre ++ post)).length + (timElement bmp).size ≤ 768 := hfits
  have hies : net.ies.length = 768 := h.length_ies
  -- Some bytes behind the blob come in between.
  obtain ⟨stale, hstale, hfront⟩ : ∃ stale : List UInt8,
      stale.length = timGap (pre ++ post) - (encode (pre ++ post)).length ∧
        net.ies.take (timOffset net) = fixed ++ (encode (pre ++ post) ++ stale) := by
    refine ⟨(net.ies.drop net.ieLength).take
      (timGap (pre ++ post) - (encode (pre ++ post)).length), ?_, ?_⟩
    · rw [List.length_take, List.length_drop]
      omega
    · have hsplit : timOffset net =
          (fixed ++ encode (pre ++ post)).length +
            (timGap (pre ++ post) - (encode (pre ++ post)).length) := by
        rw [timOffset_eq h, List.length_append, hfixed]
        omega
      conv_lhs => rw [h.ies_eq, ← List.append_assoc, hsplit]
      rw [List.take_length_add_append, List.append_assoc]
  have htake : (editBcn malloc net (.tim bmp)).ies.take (timOffset net +
      (timElement bmp).bytes.length) = net.ies.take (timOffset net) ++ (timElement bmp).bytes := by
    rw [hput]
    exact take_spliceIe_front (by rw [timOffset_eq h]; omega)
  have hlength := ieLength_putTim h hput
  have hblob := hes'.blob
  have hshorter : (editBcn malloc net (.tim bmp)).ieLength ≤
      timOffset net + (timElement bmp).bytes.length := by
    rw [hlength, timOffset_eq h, Element.length_bytes]
    omega
  rw [← Nat.min_eq_left hshorter, ← List.take_take, htake, hfront, hlength, List.append_assoc,
    List.append_assoc] at hblob
  have hplace : 12 + (encode (pre ++ post)).length + (timElement bmp).size =
      fixed.length + ((encode (pre ++ post)).length + (timElement bmp).size) := by
    rw [hfixed]
    omega
  rw [hplace, List.take_length_add_append] at hblob
  have hbytes := List.append_cancel_left hblob
  rw [List.take_length_add_append, encode_append, encode_append, encode_cons, List.append_assoc]
    at hbytes
  have hrest := List.append_cancel_left hbytes
  cases post with
  | nil =>
      rw [encode_nil, List.nil_append, List.append_nil] at hrest
      exact timElement_not_periodic (by omega) (by omega) hrest
  | cons y post =>
      exact hnone y (by simp) (List.cons.inj hrest).1

lemma tim_iff (hmalloc : ∀ k ≤ maxIeSz, malloc k = true) (h : IsBlob net fixed es)
    (hroom : ∀ es', Edited es es' (.tim bmp) → 12 + (encode es').length ≤ maxIeSz) :
    EditWorks malloc net fixed es (.tim bmp) ↔ TimFits (timElement bmp) es := by
  by_cases hshort : (timElement bmp).size < 256
  swap
  · exact iff_of_false (not_tim_of_long h hshort) fun hfits => hshort hfits.1
  rw [TimFits, and_iff_right hshort]
  rcases exists_first_id timIe es with hnone | ⟨pre, old, post, rfl, hpre, hold⟩
  · have hfits : 12 + (encode es).length + (timElement bmp).size ≤ maxIeSz := by
      have hput : Edited es (es ++ [timElement bmp]) (.tim bmp) :=
        (putIn_iff_of_none hnone).2 ⟨es, [], by simp, rfl⟩
      simpa [Nat.add_assoc] using hroom _ hput
    have hfirst : ¬ ∃ pre old post, es = pre ++ old :: post ∧ (∀ x ∈ pre, x.id ≠ timIe) ∧
        old.id = timIe ∧ old.data ≠ [] := by
      rintro ⟨pre, old, post, rfl, -, hold, -⟩
      exact hnone old (by simp) hold
    rw [TimPlaced, or_iff_right hfirst, and_iff_right hnone]
    by_cases hgap : timGap es ≤ (encode es).length
    · exact tim_iff_of_none hmalloc hshort h hnone hgap hfits
    · refine iff_of_false (not_tim_of_lt hshort h hnone (by omega) hfits) ?_
      rintro ⟨pre, post, hes, hle, -⟩
      have hlen := congrArg (fun l => (encode l).length) hes
      simp only [encode_append, List.length_append] at hlen
      omega
  · rw [timPlaced_iff_of_first hpre hold]
    by_cases hdata : old.data = []
    · exact iff_of_false (not_tim_of_empty hshort h hpre hold hdata) (fun hne => hne hdata)
    · exact iff_of_true (tim_of_found hmalloc hshort h hpre hold hdata hroom) hdata

/-! ### All of them -/

/-- An editor gives the blob of the edited elements exactly where its condition holds. -/
theorem editBcn_iff (hmalloc : ∀ k ≤ maxIeSz, malloc k = true) (h : IsBlob net fixed es)
    (hroom : ∀ es', Edited es es' edit → 12 + (encode es').length ≤ maxIeSz) :
    EditWorks malloc net fixed es edit ↔ EditFits es edit := by
  cases edit with
  | tim bmp => exact tim_iff hmalloc h hroom
  | add e => exact add_iff hmalloc h hroom
  | remove index => exact remove_iff hmalloc h
  | wps w =>
      rcases w with _ | ⟨w, hw⟩
      · have hedit : editBcn malloc net (.wps none) = net := by
          show updateBcnWpsIe malloc none net = net
          unfold updateBcnWpsIe
          split <;> simp_all
        rw [IsBlob.editWorks_iff (t := es) (by rwa [hedit])]
        exact iff_of_true rfl trivial
      · exact wps_iff hmalloc h hw hroom

/-- Behind the SSID and a rate there is an RSN element, and no DS parameter set: the TIM is put
behind three bytes of the RSN element. -/
theorem updateBCNTIM_without_ds :
    let ssid : Element := ⟨ssidIe, [97, 112], by decide⟩
    let rates : Element := ⟨supportedRatesIe, [0x82], by decide⟩
    let rsn : Element := ⟨48, [1, 0], by decide⟩
    let fixed := List.replicate 12 0
    let bmp : TimBitmap := ⟨[0, 0], by decide, by decide⟩
    let net := blobOf 1 fixed [ssid, rates, rsn]
    IsBlob net fixed [ssid, rates, rsn] ∧
      (∀ es', Edited [ssid, rates, rsn] es' (.tim bmp) → 12 + (encode es').length ≤ maxIeSz) ∧
      (editBcn (fun _ => true) net (.tim bmp)).ies.take 29 = fixed ++
        [0, 2, 97, 112, 1, 1, 0x82, 48, 2, 1, 5, 4, 0, 1, 0, 0, 0] ∧
      ¬ EditWorks (fun _ => true) net fixed [ssid, rates, rsn] (.tim bmp) := by
  intro ssid rates rsn fixed bmp net
  have hnone : ∀ x ∈ [ssid, rates, rsn], x.id ≠ timIe := by decide
  refine ⟨isBlob_blobOf rfl (by decide), fun es' hedited => ?_, by decide +kernel, ?_⟩
  · obtain ⟨pre, post, hes, rfl⟩ := (putIn_iff_of_none hnone).1 hedited
    have hlen := congrArg (fun l => (encode l).length) hes
    have htotal : (encode [ssid, rates, rsn]).length = 11 := rfl
    have htim : (timElement bmp).size = 6 := rfl
    simp only [htotal, encode_append, List.length_append] at hlen
    show _ ≤ 768
    simp only [encode_append, encode_cons, List.length_append, Element.length_bytes, htim]
    omega
  · rintro ⟨es', hes', hedited⟩
    obtain ⟨pre, post, hes, rfl⟩ := (putIn_iff_of_none hnone).1 hedited
    have hblob := hes'.blob
    rcases pre with _ | ⟨a, _ | ⟨b, _ | ⟨c, _ | ⟨d, pre⟩⟩⟩⟩ <;> simp at hes
    · subst hes
      exact absurd hblob (by decide +kernel)
    · obtain ⟨rfl, rfl⟩ := hes
      exact absurd hblob (by decide +kernel)
    · obtain ⟨rfl, rfl, rfl⟩ := hes
      exact absurd hblob (by decide +kernel)
    · obtain ⟨rfl, rfl, rfl, rfl⟩ := hes
      exact absurd hblob (by decide +kernel)

/-- A TIM that grows, between other elements. -/
theorem editBcn_iff_growing :
    let ssid : Element := ⟨ssidIe, [97, 112], by decide⟩
    let tim : Element := ⟨timIe, [0, 1, 0, 0], by decide⟩
    let rsn : Element := ⟨48, [1, 0], by decide⟩
    let fixed := List.replicate 12 0
    let bmp : TimBitmap := ⟨[1, 4], by decide, by decide⟩
    let net := blobOf 1 fixed [ssid, tim, rsn]
    EditWorks (fun _ => true) net fixed [ssid, tim, rsn] (.tim bmp) := by
  intro ssid tim rsn fixed bmp net
  refine (editBcn_iff (fun _ _ => rfl) (isBlob_blobOf rfl (by decide)) fun es' hedited => ?_).2
    ⟨by decide, .inl ⟨[ssid], tim, [rsn], rfl, by decide, rfl, by decide⟩⟩
  have hput : PutIn (·.id = timIe) (timElement bmp) ([ssid] ++ tim :: [rsn]) es' := hedited
  rw [(putIn_iff_of_first (by decide) rfl).1 hput]
  decide

end Rtl8723du.Beacon
