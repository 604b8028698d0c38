import Rtl8723du.Elems.P2pMerge
import Rtl8723du.Ie.Attr
import Rtl8723du.Scan.Entry

/-!
# Taking P2P elements and attributes out

`rtw_bss_ex_del_p2p_ie` takes the P2P elements out of a network, `rtw_bss_ex_del_p2p_attr` the
attributes of an id out of its P2P elements.  Both move what is behind forward and fill with zeros.
The search for a P2P element compares the OUI without a check of the length of the element: a
shorter element is taken for one by what follows it.  There is no attribute in such an element, but
the element itself is taken out.
-/

namespace Rtl8723du.Elems

open Lib Lib.Bytes Lib.Elements Lib.Tlv
open Beacon (maxIeSz sub32 sub32_of_le)
open Scan (BssidEx IsEntry)

/-! ### The code -/

/-- A pass of the loop of `rtw_get_p2p_ie`, with `cnt`. -/
def getP2pIePass (ies : List UInt8) (inIe inLen cnt : ℕ) : Option (ℕ × ℕ) ⊕ ℕ :=
  if cnt + 1 + 4 < inLen then
    if maxIeSz ≤ cnt + 1 + 4 then .inl none
    else if ies.getD (inIe + cnt) 0 = vendorSpecificIe ∧
        (ies.drop (inIe + cnt + 2)).take 4 = p2pOui then
      .inl (some (inIe + cnt, lenAt ies (inIe + cnt) + 2))
    else .inr (cnt + (lenAt ies (inIe + cnt) + 2))
  else .inl none

/-- `rtw_get_p2p_ie`, from a place of the buffer on: where the element is, and its length. -/
def rtwGetP2pIe (ies : List UInt8) (inIe inLen : ℕ) : Option (Option (ℕ × ℕ)) :=
  Loop.run (getP2pIePass ies inIe inLen) (inLen + 1) 0

/-- Some bytes are moved to another place, and zeros are written behind them. -/
def moveAndClear (ies : List UInt8) (dst src len clear : ℕ) : List UInt8 :=
  writeAt (writeAt ies dst ((ies.drop src).take len)) (dst + len) (List.replicate clear 0)

/-- A pass of the loop of `rtw_del_p2p_ie`, with the buffer and `ies_len`. -/
def delP2pIePass (start : ℕ) (s : List UInt8 × ℕ) : Option (List UInt8 × ℕ) ⊕ (List UInt8 × ℕ) :=
  match rtwGetP2pIe s.1 start s.2 with
  | none => .inl none
  | some none => .inl (some s)
  | some (some (targetIe, targetIeLen)) =>
      let nextIe := targetIe + targetIeLen
      let remainLen := sub32 s.2 (nextIe - start)
      .inr (moveAndClear s.1 targetIe nextIe remainLen targetIeLen, sub32 s.2 targetIeLen)

/-- `rtw_del_p2p_ie`: the buffer and the length. -/
def rtwDelP2pIe (ies : List UInt8) (start iesLenOri : ℕ) : Option (List UInt8 × ℕ) :=
  (Loop.run (delP2pIePass start) (iesLenOri + 1) (ies, iesLenOri)).join

/-- `rtw_bss_ex_del_p2p_ie`. -/
def rtwBssExDelP2pIe (bssEx : BssidEx) : Option BssidEx :=
  let iesLenOri := sub32 bssEx.ieLength bssEx.fixedIeOffset
  (rtwDelP2pIe bssEx.ies bssEx.fixedIeOffset iesLenOri).map fun (ies, iesLen) =>
    { bssEx with ies, ieLength := sub32 bssEx.ieLength (sub32 iesLenOri iesLen) }

/-- A pass of the loop of `rtw_del_p2p_attr`, with the buffer and `ielen`. -/
def delP2pAttrPass (ie : ℕ) (attrId : UInt8) (s : List UInt8 × ℕ) :
    Option (List UInt8 × ℕ) ⊕ (List UInt8 × ℕ) :=
  match rtwGetP2pAttr ((s.1.drop ie).take s.2) attrId.toNat false (s.2 + 1) with
  | none => .inl none
  | some .outside => .inl none
  | some .notFound => .inl (some s)
  | some (.found targetAttr targetAttrLen) =>
      if targetAttrLen = 0 then .inl (some s)
      else
        let nextAttr := targetAttr + targetAttrLen
        let remainLen := sub32 s.2 nextAttr
        let ies := moveAndClear s.1 (ie + targetAttr) (ie + nextAttr) remainLen targetAttrLen
        .inr (writeAt ies (ie + 1) [ies.getD (ie + 1) 0 - UInt8.ofNat targetAttrLen],
          sub32 s.2 targetAttrLen)

/-- `rtw_del_p2p_attr`: the buffer and the length of the element. -/
def rtwDelP2pAttr (ies : List UInt8) (ie ielenOri : ℕ) (attrId : UInt8) :
    Option (List UInt8 × ℕ) :=
  (Loop.run (delP2pAttrPass ie attrId) (ielenOri + 1) (ies, ielenOri)).join

/-- The state of the loop of `rtw_bss_ex_del_p2p_attr`. -/
structure DelAttrState where
  bssEx : BssidEx
  ies : ℕ
  iesLen : ℕ

/-- A pass of the loop of `rtw_bss_ex_del_p2p_attr`. -/
def bssExDelP2pAttrPass (attrId : UInt8) (s : DelAttrState) : Option BssidEx ⊕ DelAttrState :=
  match rtwGetP2pIe s.bssEx.ies s.ies s.iesLen with
  | none => .inl none
  | some none => .inl (some s.bssEx)
  | some (some (ie, ieLenOri)) =>
      let nextIeOri := ie + ieLenOri
      let remainLen := sub32 s.bssEx.ieLength nextIeOri
      (rtwDelP2pAttr s.bssEx.ies ie ieLenOri attrId).elim (.inl none) fun r =>
        if r.2 ≠ ieLenOri then
          let nextIe := ie + r.2
          .inr {
            bssEx := { s.bssEx with
              ies := moveAndClear r.1 nextIe nextIeOri remainLen (sub32 ieLenOri r.2)
              ieLength := sub32 s.bssEx.ieLength (sub32 ieLenOri r.2) }
            ies := nextIe
            iesLen := remainLen }
        else .inr ⟨{ s.bssEx with ies := r.1 }, nextIeOri, remainLen⟩

/-- `rtw_bss_ex_del_p2p_attr`. -/
def rtwBssExDelP2pAttr (bssEx : BssidEx) (attrId : UInt8) : Option BssidEx :=
  (Loop.run (bssExDelP2pAttrPass attrId) (bssEx.ieLength + 1) {
    bssEx
    ies := bssEx.fixedIeOffset
    iesLen := sub32 bssEx.ieLength bssEx.fixedIeOffset }).join

/-! ### What they are for -/

/-- A P2P attribute. -/
structure Attr where
  id : UInt8
  data : List UInt8
  /-- The length fits into the two length bytes. -/
  short : data.length < 65536

/-- The bytes of an attribute. -/
def Attr.bytes (t : Attr) : List UInt8 := t.id :: (leBytes 2 t.data.length ++ t.data)

/-- The bytes of some attributes. -/
def attrBytes (ts : List Attr) : List UInt8 := ts.flatMap Attr.bytes

/-- The P2P elements hold whole attributes. -/
def HoldAttrs (es : List Element) : Prop :=
  ∀ e ∈ es, isP2p e = true → ∃ ts, e.data = p2pOui ++ attrBytes ts

/-- A P2P element loses its attributes of the id, another element is the same. -/
def AttrDeleted (attrId : UInt8) (e e' : Element) : Prop :=
  if isP2p e then
    ∃ ts, e.data = p2pOui ++ attrBytes ts ∧ e'.id = e.id ∧
      e'.data = p2pOui ++ attrBytes (ts.filter (·.id ≠ attrId))
  else e' = e

/-- `rtw_bss_ex_del_p2p_attr` ends, and takes out the attributes of the id and nothing else. -/
def DelAttrOk (net : BssidEx) (attrId : UInt8) (fixed : List UInt8) (es : List Element) : Prop :=
  ∃ net' ∈ rtwBssExDelP2pAttr net attrId, ∃ es', IsEntry net' fixed es' ∧
    List.Forall₂ (AttrDeleted attrId) es es'

/-- `rtw_bss_ex_del_p2p_ie` ends, and takes out the P2P elements and nothing else. -/
def DelIeOk (net : BssidEx) (fixed : List UInt8) (es : List Element) : Prop :=
  ∃ net' ∈ rtwBssExDelP2pIe net, IsEntry net' fixed (es.filter (!isP2p ·))

/-! ### When they do it -/

/-- What stands at the element and behind it begins like a P2P element. -/
def LooksP2p (e : Element) (post : List Element) : Prop :=
  e.id = vendorSpecificIe ∧ (e.data ++ encode post).take 4 = p2pOui

instance (e : Element) (post : List Element) : Decidable (LooksP2p e post) :=
  inferInstanceAs (Decidable (_ ∧ _))

/-- None of the elements looks like a P2P element. -/
def NoneLooks (es : List Element) : Prop := ∀ p x q, es = p ++ x :: q → ¬ LooksP2p x q

/-! ### Elements that look like P2P elements -/

variable {bs ies fixed tail : List UInt8} {es es' pre post : List Element} {e x : Element}
  {a len k : ℕ} {attrId : UInt8}

lemma looksP2p_of_isP2p (h : isP2p e = true) : LooksP2p e post := by
  have hlen := four_le_of_isP2p h
  rw [isP2p_eq, Bool.and_eq_true, beq_iff_eq, beq_iff_eq] at h
  exact ⟨h.1, by rw [List.take_append_of_le_length hlen, h.2]⟩

lemma isP2p_of_looks (h : LooksP2p e post) (hlen : 4 ≤ e.data.length) : isP2p e = true := by
  rw [isP2p_eq, Bool.and_eq_true, beq_iff_eq, beq_iff_eq]
  exact ⟨h.1, by rw [← h.2, List.take_append_of_le_length hlen]⟩

lemma LooksP2p.length_le (h : LooksP2p e post) : 6 ≤ e.size + (encode post).length := by
  have hlen := congrArg List.length h.2
  have houi : p2pOui.length = 4 := rfl
  rw [List.length_take, List.length_append, houi] at hlen
  rw [Element.size]
  omega

/-- The OUI does not begin in a P2P element, so that those behind an element do not matter. -/
lemma take_filter {d : List UInt8} (h : (d ++ encode es).take 4 = p2pOui) :
    (d ++ encode (es.filter (!isP2p ·))).take 4 = p2pOui := by
  induction es generalizing d with
  | nil => exact h
  | cons z es ih =>
      rcases Nat.lt_or_ge d.length 4 with hlt | hge
      · by_cases hz : isP2p z = true
        · -- the id of the P2P element would be a byte of the OUI
          have hid : z.id = vendorSpecificIe := beq_iff_eq.1 (Bool.and_eq_true_iff.1 hz).1
          have hbyte : p2pOui[d.length]? = some vendorSpecificIe := by
            rw [← h, List.getElem?_take_of_lt hlt, List.getElem?_append_right le_rfl, Nat.sub_self,
              ← hid]
            rfl
          exact absurd (List.mem_of_getElem? hbyte) (by decide)
        · rw [List.filter_cons_of_pos (by simpa using hz), encode_cons, ← List.append_assoc]
          refine ih ?_
          rw [List.append_assoc]
          exact h
      · rw [List.take_append_of_le_length hge] at h ⊢
        exact h

/-- What looks like a P2P element is one, unless some other element looks like one at the end. -/
lemma isP2p_of_noneLooks (hnone : NoneLooks (es.filter (!isP2p ·))) (hes : es = pre ++ x :: post)
    (hx : LooksP2p x post) : isP2p x = true := by
  by_contra hnot
  refine hnone (pre.filter (!isP2p ·)) x (post.filter (!isP2p ·)) ?_ ⟨hx.1, take_filter hx.2⟩
  rw [hes, List.filter_append, List.filter_cons_of_pos (by simpa using hnot)]

/-! ### `rtw_get_p2p_ie` -/

/-- A pass at an element. -/
lemma getP2pIePass_cons {cnt inLen : ℕ} (h : ies.drop (a + cnt) = encode (x :: es) ++ tail)
    (hlen : inLen = cnt + (encode (x :: es)).length) (hmax : inLen ≤ maxIeSz) :
    getP2pIePass ies a inLen cnt =
      if cnt + 1 + 4 < inLen then
        if LooksP2p x es then .inl (some (a + cnt, x.size)) else .inr (cnt + x.size)
      else .inl none := by
  rw [getP2pIePass]
  by_cases hlimit : cnt + 1 + 4 < inLen
  · have hat : At ies (a + cnt) (x :: es) := ⟨tail, h.symm⟩
    have hdata : ies.drop (a + cnt + 2) = (x.data ++ encode es) ++ tail := by
      rw [← List.drop_drop, h, encode_cons, List.append_assoc, List.append_assoc]
      rfl
    have hroom : 4 ≤ (x.data ++ encode es).length := by
      have hsize : (encode (x :: es)).length = x.data.length + 2 + (encode es).length := by
        simp [Element.size]
      rw [List.length_append]
      omega
    have hsize : lenAt ies (a + cnt) + 2 = x.size := by rw [hat.lenAt_eq, Element.size]
    rw [if_pos hlimit, if_neg (by omega), if_pos hlimit, hat.id_eq, hdata,
      List.take_append_of_le_length hroom, hsize]
    rfl
  · rw [if_neg hlimit, if_neg hlimit]

/-- The loop finds the first element that looks like a P2P element. -/
lemma run_getP2pIePass {cnt inLen : ℕ} (h : ies.drop (a + cnt) = encode es ++ tail)
    (hlen : inLen = cnt + (encode es).length) (hmax : inLen ≤ maxIeSz) (hk : es.length < k) :
    (NoneLooks es → Loop.run (getP2pIePass ies a inLen) k cnt = some none) ∧
      ∀ pre x post, es = pre ++ x :: post → LooksP2p x post →
        (∀ p y q, pre = p ++ y :: q → ¬ LooksP2p y (q ++ x :: post)) →
        Loop.run (getP2pIePass ies a inLen) k cnt =
          some (some (a + cnt + (encode pre).length, x.size)) := by
  induction es generalizing cnt k with
  | nil =>
      obtain ⟨k, rfl⟩ : ∃ m, k = m + 1 := ⟨k - 1, by simp at hk; omega⟩
      rw [encode_nil, List.length_nil] at hlen
      constructor
      · intro _
        rw [Loop.run, getP2pIePass, if_neg (by omega)]
      · intro pre x post hes
        simp at hes
  | cons y es ih =>
      obtain ⟨k, rfl⟩ : ∃ m, k = m + 1 := ⟨k - 1, by simp at hk; omega⟩
      have hpass := getP2pIePass_cons h hlen hmax
      have hsize : (encode (y :: es)).length = y.size + (encode es).length := by simp
      have hnext : ies.drop (a + (cnt + y.size)) = encode es ++ tail := by
        rw [← Nat.add_assoc, ← y.length_bytes]
        exact drop_add_of_drop (by rw [h, encode_cons, List.append_assoc])
      obtain ⟨hnone, hsome⟩ := ih (k := k) hnext (by omega) (by simpa using hk)
      rw [Loop.run, hpass]
      by_cases hlimit : cnt + 1 + 4 < inLen
      · rw [if_pos hlimit]
        by_cases hy : LooksP2p y es
        · rw [if_pos hy]
          constructor
          · exact fun hes => absurd hy (hes [] y es rfl)
          · intro pre x post hes hx hpre
            rcases List.cons_eq_append_iff.1 hes with ⟨rfl, hcons⟩ | ⟨pre', rfl, rfl⟩
            · obtain ⟨rfl, rfl⟩ := List.cons.inj hcons
              rfl
            · exact absurd hy (hpre [] y pre' rfl)
        · rw [if_neg hy]
          constructor
          · intro hes
            exact hnone fun p x q hsplit => hes (y :: p) x q (by rw [hsplit]; rfl)
          · intro pre x post hes hx hpre
            rcases List.cons_eq_append_iff.1 hes with ⟨rfl, hcons⟩ | ⟨pre', rfl, rfl⟩
            · obtain ⟨rfl, rfl⟩ := List.cons.inj hcons
              exact absurd hx hy
            · have hfound := hsome pre' x post rfl hx fun p z q hsplit =>
                hpre (y :: p) z q (by rw [hsplit]; rfl)
              show Loop.run _ k _ = _
              rw [hfound, encode_cons, List.length_append, y.length_bytes]
              congr 3
              omega
      · rw [if_neg hlimit]
        refine ⟨fun _ => rfl, fun pre x post hes hx _ => ?_⟩
        -- what looks like one is long enough
        have hlong := hx.length_le
        have hall := congrArg (fun l => (encode l).length) hes
        simp only [encode_append, encode_cons, List.length_append, Element.length_bytes] at hall
        omega

lemma rtwGetP2pIe_of_none (h : ies.drop a = encode es ++ tail) (hmax : (encode es).length ≤ maxIeSz)
    (hes : NoneLooks es) : rtwGetP2pIe ies a (encode es).length = some none := by
  have hcount := length_le_encode es
  have hzero : ies.drop (a + 0) = encode es ++ tail := h
  exact (run_getP2pIePass hzero (Nat.zero_add _).symm hmax (by omega)).1 hes

lemma rtwGetP2pIe_of_first (h : ies.drop a = encode (pre ++ x :: post) ++ tail)
    (hmax : (encode (pre ++ x :: post)).length ≤ maxIeSz) (hx : LooksP2p x post)
    (hpre : ∀ p y q, pre = p ++ y :: q → ¬ LooksP2p y (q ++ x :: post)) :
    rtwGetP2pIe ies a (encode (pre ++ x :: post)).length =
      some (some (a + (encode pre).length, x.size)) := by
  have hcount := length_le_encode (pre ++ x :: post)
  have hzero : ies.drop (a + 0) = encode (pre ++ x :: post) ++ tail := h
  exact (run_getP2pIePass hzero (Nat.zero_add _).symm hmax (by omega)).2 pre x post rfl hx hpre

/-! ### `rtw_del_p2p_ie` -/

lemma moveAndClear_eq {d l c : ℕ} (hd : d + l + c ≤ bs.length) (ha : a + l ≤ bs.length) :
    moveAndClear bs d a l c = (bs.take d ++ (bs.drop a).take l) ++
      (List.replicate c 0 ++ bs.drop (d + l + c)) := by
  have hmoved : ((bs.drop a).take l).length = l := by
    rw [List.length_take, List.length_drop]
    omega
  have hfront : (bs.take d ++ (bs.drop a).take l).length = d + l := by
    rw [List.length_append, hmoved, List.length_take]
    omega
  have hwritten : writeAt bs d ((bs.drop a).take l) =
      (bs.take d ++ (bs.drop a).take l) ++ bs.drop (d + l) := by
    rw [writeAt, hmoved]
  rw [moveAndClear, hwritten, ← hfront, writeAt_append, List.length_replicate, List.drop_drop,
    hfront]

lemma length_moveAndClear {d l c : ℕ} (hd : d + l + c ≤ bs.length) (ha : a + l ≤ bs.length) :
    (moveAndClear bs d a l c).length = bs.length := by
  rw [moveAndClear_eq hd ha]
  simp only [List.length_append, List.length_take, List.length_drop, List.length_replicate]
  omega

/-- An element is taken out of the buffer. -/
lemma holds_moveAndClear (h : Holds ies len fixed (x :: post)) :
    Holds (moveAndClear ies fixed.length (fixed.length + x.size) (encode post).length x.size)
      (fixed.length + (encode post).length) fixed post ∧
    (moveAndClear ies fixed.length (fixed.length + x.size) (encode post).length x.size).length =
      ies.length := by
  have hle := h.le
  have hlen : len = fixed.length + (x.size + (encode post).length) := by
    rw [h.len_eq, encode_cons, List.length_append, x.length_bytes]
  have hdrop : ies.drop fixed.length = x.bytes ++ (encode post ++ ies.drop len) := by
    rw [h.drop_fixed, encode_cons, List.append_assoc]
  have hpost : (ies.drop (fixed.length + x.size)).take (encode post).length = encode post := by
    rw [← x.length_bytes, drop_add_of_drop hdrop, List.take_left]
  have hkept : (moveAndClear ies fixed.length (fixed.length + x.size) (encode post).length
      x.size).length = ies.length := length_moveAndClear (by omega) (by omega)
  refine ⟨⟨by rw [hkept]; omega, ?_⟩, hkept⟩
  rw [moveAndClear_eq (by omega) (by omega), h.take_fixed, hpost, ← List.length_append,
    List.take_left]

/-- A pass takes the first element out that looks like a P2P element. -/
lemma delP2pIePass_of_first (h : Holds ies (a + len) fixed (pre ++ x :: post))
    (ha : a = fixed.length) (hsize : ies.length = maxIeSz) (hx : LooksP2p x post)
    (hpre : ∀ p y q, pre = p ++ y :: q → ¬ LooksP2p y (q ++ x :: post)) :
    ∃ ies', delP2pIePass a (ies, len) = .inr (ies', (encode (pre ++ post)).length) ∧
      ies'.length = maxIeSz ∧
        Holds ies' (a + (encode (pre ++ post)).length) fixed (pre ++ post) := by
  subst ha
  have hlen : len = (encode (pre ++ x :: post)).length := Nat.add_left_cancel h.len_eq
  have hle := h.le
  have hmax : maxIeSz = 768 := rfl
  have hget := rtwGetP2pIe_of_first h.drop_fixed (by omega) hx hpre
  have hall : (encode (pre ++ x :: post)).length =
      (encode pre).length + (x.size + (encode post).length) := by simp
  have hrest : (encode (pre ++ post)).length = (encode pre).length + (encode post).length := by
    simp
  have hrem : sub32 len (fixed.length + (encode pre).length + x.size - fixed.length) =
      (encode post).length := by
    rw [sub32_of_le (by omega) (by omega)]
    omega
  have hless : sub32 len x.size = (encode (pre ++ post)).length := by
    rw [sub32_of_le (by omega) (by omega)]
    omega
  obtain ⟨hholds, hkept⟩ := holds_moveAndClear (Holds.append_iff.1 h)
  rw [List.length_append] at hholds hkept
  refine ⟨_, ?_, hkept.trans hsize, ?_⟩
  · rw [delP2pIePass, hlen, hget]
    dsimp only
    rw [← hlen, hrem, hless]
  · rw [Nat.add_assoc fixed.length _ (encode post).length, ← hrest] at hholds
    exact Holds.append_iff.2 hholds

/-- The loop ends when no element looks like a P2P element; if none of the others does so without
the P2P elements, it has taken out these only. -/
lemma run_delP2pIePass (h : Holds ies (a + len) fixed es) (ha : a = fixed.length)
    (hsize : ies.length = maxIeSz) (hk : es.length < k) :
    ∃ ies' es', Loop.run (delP2pIePass a) k (ies, len) = some (some (ies', (encode es').length)) ∧
      ies'.length = maxIeSz ∧ Holds ies' (a + (encode es').length) fixed es' ∧ NoneLooks es' ∧
      (encode es').length ≤ len ∧
      (NoneLooks (es.filter (!isP2p ·)) → es' = es.filter (!isP2p ·)) := by
  induction k generalizing ies len es with
  | zero => omega
  | succ k ih =>
      have hlen : len = (encode es).length := by
        have htotal := h.len_eq
        omega
      rcases exists_first_split LooksP2p es with hnone | ⟨pre, x, post, rfl, hx, hpre⟩
      · refine ⟨ies, es, ?_, hsize, by rwa [← hlen], hnone, by rw [hlen], fun _ => ?_⟩
        · have hle := h.le
          have hget : rtwGetP2pIe ies a (encode es).length = some none := by
            rw [ha]
            exact rtwGetP2pIe_of_none h.drop_fixed (by omega) hnone
          rw [Loop.run, delP2pIePass, hlen, hget]
        · -- there is no P2P element
          refine (List.filter_eq_self.2 fun y hy => ?_).symm
          obtain ⟨p, q, rfl⟩ := List.append_of_mem hy
          by_contra hp2p
          exact hnone p y q rfl (looksP2p_of_isP2p (by simpa using hp2p))
      · obtain ⟨ies₁, hpass, hsize₁, h₁⟩ := delP2pIePass_of_first h ha hsize hx hpre
        have hcount : (pre ++ post).length < k := by
          simp only [List.length_append, List.length_cons] at hk ⊢
          omega
        obtain ⟨ies', es', hrun, hsize', h', hnone, hle, hfilter⟩ := ih h₁ hsize₁ hcount
        have hrest : (encode (pre ++ post)).length ≤ len := by
          rw [hlen]
          simp
        refine ⟨ies', es', ?_, hsize', h', hnone, hle.trans hrest, fun hlooks => ?_⟩
        · rw [Loop.run, hpass]
          exact hrun
        · have hp2p := isP2p_of_noneLooks hlooks rfl hx
          have hsame : (pre ++ x :: post).filter (!isP2p ·) = (pre ++ post).filter (!isP2p ·) := by
            rw [List.filter_append, List.filter_cons_of_neg (by simpa using hp2p),
              ← List.filter_append]
          rw [hsame] at hlooks ⊢
          exact hfilter hlooks

/-- The P2P elements are taken out, and no others, if none of these looks like one then. -/
lemma delIeOk_iff {net : BssidEx} (h : IsEntry net fixed es) :
    DelIeOk net fixed es ↔ NoneLooks (es.filter (!isP2p ·)) := by
  have hle := h.le
  have hL := h.ieLength_eq
  have hmax : maxIeSz = 768 := rfl
  have hcount := length_le_encode es
  have hfixed := h.length_fixed
  have hrest : sub32 net.ieLength net.fixedIeOffset = (encode es).length := by
    rw [sub32_of_le (by omega) (by omega)]
    omega
  have hholds : Holds net.ies (net.fixedIeOffset + (encode es).length) fixed es := by
    rw [← hfixed, ← hL]
    exact h.holds
  obtain ⟨ies', es', hrun, hsize', h', hnone, hless, hfilter⟩ :=
    run_delP2pIePass (k := (encode es).length + 1) hholds hfixed.symm h.length_ies (by omega)
  have hresult : rtwBssExDelP2pIe net = some { net with
      ies := ies', ieLength := net.fixedIeOffset + (encode es').length } := by
    have hnew : sub32 net.ieLength (sub32 (encode es).length (encode es').length) =
        net.fixedIeOffset + (encode es').length := by
      rw [sub32_of_le (b := (encode es').length) hless (by omega),
        sub32_of_le (by omega) (by omega)]
      omega
    rw [rtwBssExDelP2pIe, hrest, rtwDelP2pIe, hrun, Option.join_some, Option.map_some]
    dsimp only
    rw [hnew]
  have hentry : IsEntry { net with
      ies := ies', ieLength := net.fixedIeOffset + (encode es').length } fixed es' := by
    refine ⟨hsize', hfixed, ?_, h'.take_eq⟩
    rw [← hsize']
    exact h'.le
  constructor
  · rintro ⟨net', hnet', hok⟩
    obtain rfl := Option.mem_unique hnet' hresult
    rwa [← hentry.unique hok]
  · intro hlooks
    refine ⟨_, hresult, ?_⟩
    rw [← hfilter hlooks]
    exact hentry

/-! ### `rtw_get_p2p_attr` -/

variable {ts : List Attr} {t : Attr} {off : ℕ} {b : Bool}

/-- The number of bytes of an attribute. -/
def Attr.size (t : Attr) : ℕ := t.data.length + 3

lemma Attr.length_bytes (t : Attr) : t.bytes.length = t.size := by
  rw [Attr.bytes, Attr.size, List.length_cons, List.length_append, length_leBytes]
  omega

lemma attrBytes_cons : attrBytes (t :: ts) = t.bytes ++ attrBytes ts := rfl

lemma attrBytes_append (ts us : List Attr) :
    attrBytes (ts ++ us) = attrBytes ts ++ attrBytes us := List.flatMap_append

lemma length_le_attrBytes (ts : List Attr) : 3 * ts.length ≤ (attrBytes ts).length := by
  induction ts with
  | nil => exact Nat.zero_le _
  | cons t ts ih =>
      rw [attrBytes_cons, List.length_append, t.length_bytes, Attr.size, List.length_cons]
      omega

/-- A pass at a whole attribute. -/
lemma vendorAttrBody_cons {rest : List UInt8} (h : bs.drop off = t.bytes ++ rest)
    (hbs : bs.length < 65536) (attrId : UInt8) (b : Bool) :
    vendorAttrBody getLE16 bs attrId.toNat b off =
      if t.id = attrId then
        if b && decide (bs.length < off + t.size) then .inl .outside else .inl (.found off t.size)
      else .inr (off + t.size) := by
  have hlen := congrArg List.length h
  have hsize : t.size = t.data.length + 3 := rfl
  rw [List.length_drop, List.length_append, t.length_bytes] at hlen
  have hid : bs[off]? = some t.id := by
    rw [← List.head?_drop, h]
    rfl
  have hlo : bs[off + 1]? = some (UInt8.ofNat t.data.length) := by
    rw [← List.head?_drop, ← List.drop_drop, h]
    rfl
  have hhi : bs[off + 1 + 1]? = some (UInt8.ofNat (t.data.length / 256)) := by
    rw [← List.head?_drop, ← List.drop_drop, ← List.drop_drop, h]
    rfl
  have hget : getLE16 bs (off + 1) = some t.data.length := by
    have hshort := t.short
    rw [getLE16, hhi, hlo]
    simp only [Option.some.injEq, UInt8.toNat_ofNat']
    omega
  have hmod : (t.data.length + 3) % 65536 = t.size := by
    rw [hsize]
    omega
  rw [vendorAttrBody, if_pos (by omega), hid, hget]
  dsimp only
  rw [hmod, if_neg (by omega)]
  simp only [UInt8.toNat_inj]

/-- The loop finds the first attribute of the id. -/
lemma run_vendorAttrBody (h : bs.drop off = attrBytes ts) (hoff : off ≤ bs.length)
    (hbs : bs.length < 65536) (hk : ts.length < k) :
    ((∀ t ∈ ts, t.id ≠ attrId) →
        Loop.run (vendorAttrBody getLE16 bs attrId.toNat false) k off = some .notFound) ∧
      ∀ p t q, ts = p ++ t :: q → (∀ u ∈ p, u.id ≠ attrId) → t.id = attrId →
        Loop.run (vendorAttrBody getLE16 bs attrId.toNat false) k off =
          some (.found (off + (attrBytes p).length) t.size) := by
  induction ts generalizing off k with
  | nil =>
      obtain ⟨k, rfl⟩ : ∃ m, k = m + 1 := ⟨k - 1, by simp at hk; omega⟩
      have hlen := congrArg List.length h
      rw [List.length_drop, attrBytes, List.flatMap_nil, List.length_nil] at hlen
      constructor
      · intro _
        rw [Loop.run, vendorAttrBody_of_length_lt (by omega)]
      · intro p t q hts
        simp at hts
  | cons u ts ih =>
      obtain ⟨k, rfl⟩ : ∃ m, k = m + 1 := ⟨k - 1, by simp at hk; omega⟩
      have hpass := vendorAttrBody_cons h hbs attrId false
      have hnext : bs.drop (off + u.size) = attrBytes ts := by
        rw [← u.length_bytes]
        exact drop_add_of_drop h
      have hlen := congrArg List.length h
      rw [List.length_drop, attrBytes_cons, List.length_append, u.length_bytes] at hlen
      have hpos : 0 < u.size := Nat.succ_pos _
      obtain ⟨hnone, hsome⟩ := ih (k := k) hnext (by omega) (by simpa using hk)
      rw [Loop.run, hpass]
      by_cases hid : u.id = attrId
      · rw [if_pos hid, Bool.false_and, if_neg Bool.false_ne_true]
        constructor
        · exact fun hall => absurd hid (hall u (by simp))
        · intro p t q hts hp ht
          rcases List.cons_eq_append_iff.1 hts with ⟨rfl, hcons⟩ | ⟨p', rfl, rfl⟩
          · obtain ⟨rfl, rfl⟩ := List.cons.inj hcons
            rfl
          · exact absurd hid (hp u (by simp))
      · rw [if_neg hid]
        constructor
        · exact fun hall => hnone fun t ht => hall t (by simp [ht])
        · intro p t q hts hp ht
          rcases List.cons_eq_append_iff.1 hts with ⟨rfl, hcons⟩ | ⟨p', rfl, rfl⟩
          · obtain ⟨rfl, rfl⟩ := List.cons.inj hcons
            exact absurd ht hid
          · have hfound := hsome p' t q rfl (fun v hv => hp v (by simp [hv])) ht
            show Loop.run _ k _ = _
            rw [hfound, attrBytes_cons, List.length_append, u.length_bytes, Nat.add_assoc]

/-- A P2P element with attributes. -/
def p2pElement (ts : List Attr) (h : (attrBytes ts).length < 252) : Element where
  id := vendorSpecificIe
  data := p2pOui ++ attrBytes ts
  short := by
    rw [List.length_append]
    exact Nat.add_lt_add_left h 4

lemma size_p2pElement (h : (attrBytes ts).length < 252) :
    (p2pElement ts h).size = 6 + (attrBytes ts).length := by
  show (p2pOui ++ attrBytes ts).length + 2 = _
  have houi : p2pOui.length = 4 := rfl
  rw [List.length_append, houi]
  omega

lemma drop_p2pElement (h : (attrBytes ts).length < 252) :
    (p2pElement ts h).bytes.drop 6 = attrBytes ts := rfl

/-- The function is its loop. -/
lemma rtwGetP2pAttr_p2pElement (h : (attrBytes ts).length < 252) (hts : ts ≠ []) :
    rtwGetP2pAttr (p2pElement ts h).bytes attrId.toNat false k =
      Loop.run (vendorAttrBody getLE16 (p2pElement ts h).bytes attrId.toNat false) k 6 := by
  have hcount := length_le_attrBytes ts
  have hpos := List.length_pos_iff.2 hts
  have hlen : ¬ (p2pElement ts h).bytes.length ≤ 6 := by
    rw [Element.length_bytes, size_p2pElement]
    omega
  have hid : (p2pElement ts h).bytes[0]? = some Rtl8723du.vendorSpecificIe := rfl
  have houi : ((p2pElement ts h).bytes.drop 2).take 4 = Rtl8723du.p2pOui := rfl
  rw [rtwGetP2pAttr, vendorGetAttr, if_neg hlen, if_neg (not_not_intro hid),
    if_neg (not_not_intro houi)]

lemma rtwGetP2pAttr_of_none (h : (attrBytes ts).length < 252) (hts : ∀ t ∈ ts, t.id ≠ attrId)
    (hk : ts.length < k) :
    rtwGetP2pAttr (p2pElement ts h).bytes attrId.toNat false k = some .notFound := by
  have hlen : (p2pElement ts h).bytes.length = 6 + (attrBytes ts).length := by
    rw [Element.length_bytes, size_p2pElement]
  rcases List.eq_nil_or_concat ts with rfl | ⟨us, u, rfl⟩
  · rfl
  · rw [rtwGetP2pAttr_p2pElement h (by simp)]
    exact (run_vendorAttrBody (drop_p2pElement h) (by omega) (by omega) hk).1 hts

lemma rtwGetP2pAttr_of_first {p q : List Attr} (h : (attrBytes (p ++ t :: q)).length < 252)
    (hp : ∀ u ∈ p, u.id ≠ attrId) (ht : t.id = attrId) (hk : (p ++ t :: q).length < k) :
    rtwGetP2pAttr (p2pElement (p ++ t :: q) h).bytes attrId.toNat false k =
      some (.found (6 + (attrBytes p).length) t.size) := by
  have hlen : (p2pElement (p ++ t :: q) h).bytes.length = 6 + (attrBytes (p ++ t :: q)).length := by
    rw [Element.length_bytes, size_p2pElement]
  rw [rtwGetP2pAttr_p2pElement h (by simp)]
  exact (run_vendorAttrBody (drop_p2pElement h) (by omega) (by omega) hk).2 p t q rfl hp ht

/-! ### `rtw_del_p2p_attr` -/

/-- What is behind some bytes is moved over them, and zeros stand behind it. -/
lemma moveAndClear_append (f c q r : List UInt8) :
    moveAndClear (f ++ (c ++ (q ++ r))) f.length (f.length + c.length) q.length c.length =
      f ++ (q ++ (List.replicate c.length 0 ++ r)) := by
  have hq : ((f ++ (c ++ (q ++ r))).drop (f.length + c.length)).take q.length = q := by
    rw [← List.drop_drop, List.drop_left, List.drop_left, List.take_left]
  have hr : (f ++ (c ++ (q ++ r))).drop (f.length + q.length + c.length) = r := by
    rw [Nat.add_right_comm, ← List.drop_drop, ← List.drop_drop, List.drop_left, List.drop_left,
      List.drop_left]
  rw [moveAndClear_eq, List.take_left, hq, hr, List.append_assoc]
  · simp only [List.length_append]
    omega
  · simp only [List.length_append]
    omega

lemma attrBytes_remove_lt {p q : List Attr} (h : (attrBytes (p ++ t :: q)).length < 252) :
    (attrBytes (p ++ q)).length < 252 := by
  rw [attrBytes_append, attrBytes_cons, List.length_append, List.length_append] at h
  rw [attrBytes_append, List.length_append]
  omega

/-- The header of a P2P element with a length byte. -/
def p2pHeader (l : UInt8) : List UInt8 := vendorSpecificIe :: l :: p2pOui

lemma bytes_p2pElement (h : (attrBytes ts).length < 252) : (p2pElement ts h).bytes =
    p2pHeader (UInt8.ofNat (4 + (attrBytes ts).length)) ++ attrBytes ts := by
  have hlen : (p2pElement ts h).data.length = 4 + (attrBytes ts).length := by
    show (p2pOui ++ attrBytes ts).length = _
    rw [List.length_append]
    rfl
  rw [Element.bytes, hlen]
  rfl

/-- The length byte is made smaller. -/
lemma writeAt_length (f r : List UInt8) (l : UInt8) (n : ℕ) :
    writeAt (f ++ (p2pHeader l ++ r)) (f.length + 1)
      [(f ++ (p2pHeader l ++ r)).getD (f.length + 1) 0 - UInt8.ofNat n] =
        f ++ (p2pHeader (l - UInt8.ofNat n) ++ r) := by
  have hsplit (b : UInt8) : f ++ (p2pHeader b ++ r) =
      (f ++ [vendorSpecificIe]) ++ (b :: (p2pOui ++ r)) := by
    rw [p2pHeader, List.append_assoc]
    rfl
  have hfront : f.length + 1 = (f ++ [vendorSpecificIe]).length := by
    rw [List.length_append]
    rfl
  have hdrop : (f ++ (p2pHeader l ++ r)).drop (f.length + 1) = l :: (p2pOui ++ r) := by
    rw [hsplit, hfront, List.drop_left]
  have hbyte : (f ++ (p2pHeader l ++ r)).getD (f.length + 1) 0 = l := getD_eq_of_drop hdrop
  rw [hbyte, hsplit, hfront, writeAt_append, hsplit]
  rfl

lemma ofNat_sub_ofNat {m n : ℕ} (h : n ≤ m) :
    UInt8.ofNat m - UInt8.ofNat n = UInt8.ofNat (m - n) := by
  refine UInt8.toNat_inj.1 ?_
  rw [UInt8.toNat_sub, UInt8.toNat_ofNat', UInt8.toNat_ofNat', UInt8.toNat_ofNat']
  omega

/-- A pass takes the first attribute of the id out, and what is left moves to the front. -/
lemma delP2pAttrPass_of_first {p q : List Attr} {f r : List UInt8}
    (h : (attrBytes (p ++ t :: q)).length < 252) (hp : ∀ u ∈ p, u.id ≠ attrId)
    (ht : t.id = attrId) :
    delP2pAttrPass f.length attrId
        (f ++ ((p2pElement (p ++ t :: q) h).bytes ++ r), (p2pElement (p ++ t :: q) h).size) =
      .inr (f ++ ((p2pElement (p ++ q) (attrBytes_remove_lt h)).bytes ++
          (List.replicate t.size 0 ++ r)), (p2pElement (p ++ q) (attrBytes_remove_lt h)).size) := by
  set e := p2pElement (p ++ t :: q) h with he
  set e' := p2pElement (p ++ q) (attrBytes_remove_lt h) with he'
  have hsize : e.size = 6 + ((attrBytes p).length + (t.size + (attrBytes q).length)) := by
    rw [he, size_p2pElement, attrBytes_append, attrBytes_cons, List.length_append,
      List.length_append, t.length_bytes]
  have hsize' : e'.size = 6 + ((attrBytes p).length + (attrBytes q).length) := by
    rw [he', size_p2pElement, attrBytes_append, List.length_append]
  have hshort := e.short
  have hesize : e.size = e.data.length + 2 := rfl
  have hpos : 0 < t.size := Nat.succ_pos _
  -- the attribute is found
  have hcount := length_le_attrBytes (p ++ t :: q)
  have hget : rtwGetP2pAttr (((f ++ (e.bytes ++ r)).drop f.length).take e.size) attrId.toNat false
      (e.size + 1) = some (.found (6 + (attrBytes p).length) t.size) := by
    rw [List.drop_left, ← e.length_bytes, List.take_left]
    refine rtwGetP2pAttr_of_first h hp ht ?_
    rw [e.length_bytes, he, size_p2pElement]
    omega
  have hrem : sub32 e.size (6 + (attrBytes p).length + t.size) = (attrBytes q).length := by
    rw [sub32_of_le (by omega) (by omega)]
    omega
  have hless : sub32 e.size t.size = e'.size := by
    rw [sub32_of_le (by omega) (by omega)]
    omega
  -- what is behind it moves
  set l := UInt8.ofNat (4 + (attrBytes (p ++ t :: q)).length) with hl
  have hbytes : f ++ (e.bytes ++ r) =
      (f ++ (p2pHeader l ++ attrBytes p)) ++ (t.bytes ++ (attrBytes q ++ r)) := by
    rw [he, bytes_p2pElement, ← hl, attrBytes_append, attrBytes_cons]
    simp only [List.append_assoc]
  have hfront : (f ++ (p2pHeader l ++ attrBytes p)).length =
      f.length + (6 + (attrBytes p).length) := by
    rw [List.length_append, List.length_append]
    rfl
  have hmoved : moveAndClear (f ++ (e.bytes ++ r)) (f.length + (6 + (attrBytes p).length))
      (f.length + (6 + (attrBytes p).length + t.size)) (attrBytes q).length t.size =
      f ++ (p2pHeader l ++ (attrBytes (p ++ q) ++ (List.replicate t.size 0 ++ r))) := by
    rw [← Nat.add_assoc f.length (6 + _) t.size, ← hfront, ← t.length_bytes, hbytes,
      moveAndClear_append, attrBytes_append]
    simp only [List.append_assoc]
  have hbyte : l - UInt8.ofNat t.size = UInt8.ofNat (4 + (attrBytes (p ++ q)).length) := by
    rw [hl, ofNat_sub_ofNat]
    · congr 1
      rw [attrBytes_append, attrBytes_append, attrBytes_cons]
      simp only [List.length_append, t.length_bytes]
      omega
    · rw [attrBytes_append, attrBytes_cons]
      simp only [List.length_append, t.length_bytes]
      omega
  rw [delP2pAttrPass, hget]
  dsimp only
  rw [if_neg (Nat.pos_iff_ne_zero.1 hpos), hrem, hless, hmoved, writeAt_length, hbyte, he',
    bytes_p2pElement, List.append_assoc]

/-- Where no attribute of the id is found the loop ends. -/
lemma delP2pAttrPass_of_none {f r : List UInt8}
    (h : rtwGetP2pAttr x.bytes attrId.toNat false (x.size + 1) = some .notFound) :
    delP2pAttrPass f.length attrId (f ++ (x.bytes ++ r), x.size) =
      .inl (some (f ++ (x.bytes ++ r), x.size)) := by
  have hbytes : ((f ++ (x.bytes ++ r)).drop f.length).take x.size = x.bytes := by
    rw [List.drop_left, ← x.length_bytes, List.take_left]
  rw [delP2pAttrPass]
  dsimp only
  rw [hbytes, h]

lemma attrBytes_filter_lt (h : (attrBytes ts).length < 252) (attrId : UInt8) :
    (attrBytes (ts.filter (·.id ≠ attrId))).length < 252 := by
  refine lt_of_le_of_lt ?_ h
  rw [attrBytes, attrBytes]
  exact ((List.filter_sublist).flatMap _).length_le

lemma p2pElement_congr {us : List Attr} (hts : ts = us) (h : (attrBytes ts).length < 252)
    (h' : (attrBytes us).length < 252) : p2pElement ts h = p2pElement us h' := by
  subst hts
  rfl

/-- The loop takes all attributes of the id out. -/
lemma run_delP2pAttrPass (h : (attrBytes ts).length < 252) (f r : List UInt8) (attrId : UInt8)
    (hk : ts.length < k) :
    ∃ z, Loop.run (delP2pAttrPass f.length attrId) k
        (f ++ ((p2pElement ts h).bytes ++ r), (p2pElement ts h).size) =
      some (some (f ++ ((p2pElement _ (attrBytes_filter_lt h attrId)).bytes ++ (z ++ r)),
        (p2pElement _ (attrBytes_filter_lt h attrId)).size)) ∧
      (p2pElement _ (attrBytes_filter_lt h attrId)).size + z.length = (p2pElement ts h).size := by
  induction k generalizing ts r with
  | zero => omega
  | succ k ih =>
      rcases hfind : ts.find? (·.id = attrId) with _ | t
      · -- there is none
        have hnone : ∀ t ∈ ts, t.id ≠ attrId := by simpa using hfind
        have hfilter : ts.filter (·.id ≠ attrId) = ts :=
          List.filter_eq_self.2 fun t ht => by simpa using hnone t ht
        have hcount := length_le_attrBytes ts
        have hget := rtwGetP2pAttr_of_none h hnone (k := (p2pElement ts h).size + 1) (by
          rw [size_p2pElement]
          omega)
        refine ⟨[], ?_, ?_⟩
        · rw [Loop.run, delP2pAttrPass_of_none hget, p2pElement_congr hfilter _ h, List.nil_append]
        · rw [p2pElement_congr hfilter _ h]
          rfl
      · obtain ⟨ht, p, q, rfl, hp⟩ := List.find?_eq_some_iff_append.1 hfind
        have ht' : t.id = attrId := by simpa using ht
        have hp' : ∀ u ∈ p, u.id ≠ attrId := fun u hu => by simpa using hp u hu
        have hfilter : (p ++ t :: q).filter (·.id ≠ attrId) = (p ++ q).filter (·.id ≠ attrId) := by
          rw [List.filter_append, List.filter_cons_of_neg (by simpa using ht'),
            ← List.filter_append]
        have hcount : (p ++ q).length < k := by
          simp only [List.length_append, List.length_cons] at hk ⊢
          omega
        obtain ⟨z, hrun, hsize⟩ := ih (attrBytes_remove_lt h) (List.replicate t.size 0 ++ r) hcount
        refine ⟨z ++ List.replicate t.size 0, ?_, ?_⟩
        · rw [Loop.run, delP2pAttrPass_of_first h hp' ht']
          dsimp only
          rw [hrun, p2pElement_congr hfilter _ (attrBytes_filter_lt (attrBytes_remove_lt h) attrId),
            List.append_assoc z]
        · have hsize' := size_p2pElement h
          have hsize'' := size_p2pElement (attrBytes_remove_lt h)
          rw [p2pElement_congr hfilter _ (attrBytes_filter_lt (attrBytes_remove_lt h) attrId),
            List.length_append, List.length_replicate, ← Nat.add_assoc, hsize, hsize', hsize'',
            attrBytes_append, attrBytes_append, attrBytes_cons]
          simp only [List.length_append, t.length_bytes]
          omega

/-- What `rtw_del_p2p_attr` does with an element that looks like a P2P element: shorter ones have no
attributes. -/
lemma rtwDelP2pAttr_of_looks (hx : LooksP2p x post)
    (hattrs : isP2p x = true → ∃ ts, x.data = p2pOui ++ attrBytes ts) (f r : List UInt8)
    (attrId : UInt8) : ∃ x' z, AttrDeleted attrId x x' ∧ x'.size + z.length = x.size ∧
      rtwDelP2pAttr (f ++ (x.bytes ++ r)) f.length x.size attrId =
        some (f ++ (x'.bytes ++ (z ++ r)), x'.size) := by
  rcases Nat.lt_or_ge x.data.length 4 with hshort | hlong
  · have hnot : ¬ isP2p x = true := fun hp2p => Nat.not_le.2 hshort (four_le_of_isP2p hp2p)
    have hget : rtwGetP2pAttr x.bytes attrId.toNat false (x.size + 1) = some .notFound := by
      rw [rtwGetP2pAttr, vendorGetAttr, if_pos]
      rw [x.length_bytes, Element.size]
      omega
    refine ⟨x, [], ?_, rfl, ?_⟩
    · rw [AttrDeleted, if_neg hnot]
    · rw [rtwDelP2pAttr, Loop.run, delP2pAttrPass_of_none hget]
      rfl
  · have hp2p := isP2p_of_looks hx hlong
    obtain ⟨ts, hts⟩ := hattrs hp2p
    have hlt : (attrBytes ts).length < 252 := by
      have hdata := x.short
      rw [hts, List.length_append] at hdata
      exact Nat.lt_of_add_lt_add_left (n := 4) hdata
    have heq : x = p2pElement ts hlt := by
      obtain ⟨id, data, short⟩ := x
      obtain rfl : id = vendorSpecificIe := hx.1
      obtain rfl : data = p2pOui ++ attrBytes ts := hts
      rfl
    subst heq
    have hcount := length_le_attrBytes ts
    have hk : ts.length < (p2pElement ts hlt).size + 1 := by
      rw [size_p2pElement]
      omega
    obtain ⟨z, hrun, hsize⟩ := run_delP2pAttrPass hlt f r attrId hk
    refine ⟨_, z, ?_, hsize, ?_⟩
    · rw [AttrDeleted, if_pos hp2p]
      exact ⟨ts, rfl, rfl, rfl⟩
    · rw [rtwDelP2pAttr, hrun]
      rfl

/-! ### `rtw_bss_ex_del_p2p_attr` -/

/-- The network with another buffer. -/
def withIes (net : BssidEx) (ies : List UInt8) (ieLength : ℕ) : BssidEx :=
  { net with ies, ieLength }

/-- A pass goes behind the first element that looks like a P2P element. -/
lemma bssExDelP2pAttrPass_of_first {net : BssidEx}
    (h : Holds net.ies net.ieLength fixed (pre ++ x :: post)) (hsize : net.ies.length = maxIeSz)
    (hx : LooksP2p x post) (hpre : ∀ p y q, pre = p ++ y :: q → ¬ LooksP2p y (q ++ x :: post))
    (hattrs : isP2p x = true → ∃ ts, x.data = p2pOui ++ attrBytes ts) (attrId : UInt8) :
    ∃ x' ies', AttrDeleted attrId x x' ∧ ies'.length = maxIeSz ∧
      Holds ies' (fixed ++ encode (pre ++ x' :: post)).length fixed (pre ++ x' :: post) ∧
      bssExDelP2pAttrPass attrId ⟨net, fixed.length, (encode (pre ++ x :: post)).length⟩ =
        .inr ⟨withIes net ies' (fixed ++ encode (pre ++ x' :: post)).length,
          (fixed ++ encode (pre ++ [x'])).length, (encode post).length⟩ := by
  have hle := h.le
  have hmax : maxIeSz = 768 := rfl
  have hL := h.len_eq
  have hall : (encode (pre ++ x :: post)).length =
      (encode pre).length + (x.size + (encode post).length) := by simp
  have hget := rtwGetP2pIe_of_first h.drop_fixed (by omega) hx hpre
  obtain ⟨f, hf⟩ : ∃ f, f = fixed ++ encode pre := ⟨_, rfl⟩
  obtain ⟨tail, htail⟩ : ∃ tail, tail = net.ies.drop net.ieLength := ⟨_, rfl⟩
  have hfront : fixed.length + (encode pre).length = f.length := by
    rw [hf, List.length_append]
  have hies : net.ies = f ++ (x.bytes ++ (encode post ++ tail)) := by
    conv_lhs => rw [(Holds.append_iff.1 h).bytes_eq, encode_cons, ← htail, ← hf]
    rw [List.append_assoc]
  obtain ⟨x', z, hdel, hz, hattr⟩ := rtwDelP2pAttr_of_looks hx hattrs f (encode post ++ tail) attrId
  rw [← hies] at hattr
  have hrem : sub32 net.ieLength (f.length + x.size) = (encode post).length := by
    rw [sub32_of_le (by omega) (by omega)]
    omega
  have hnew : (fixed ++ encode (pre ++ x' :: post)).length =
      f.length + x'.size + (encode post).length := by
    rw [hf, List.length_append, encode_append, encode_cons, List.length_append, List.length_append,
      List.length_append, x'.length_bytes]
    omega
  have hend : (fixed ++ encode (pre ++ [x'])).length = f.length + x'.size := by
    rw [hf, List.length_append, encode_append, encode_cons, encode_nil, List.append_nil,
      List.length_append, List.length_append, x'.length_bytes]
    omega
  -- in both cases the element, with fewer bytes or as many, and the rest stand at the front
  obtain ⟨ies', tail', hies', htail', hpass⟩ : ∃ ies' tail',
      ies' = (f ++ x'.bytes) ++ (encode post ++ tail') ∧ tail'.length = z.length + tail.length ∧
        bssExDelP2pAttrPass attrId ⟨net, fixed.length, (encode (pre ++ x :: post)).length⟩ =
          .inr ⟨withIes net ies' (f.length + x'.size + (encode post).length), f.length + x'.size,
            (encode post).length⟩ := by
    by_cases hsame : x'.size = x.size
    · obtain rfl : z = [] := List.length_eq_zero_iff.1 (by omega)
      refine ⟨f ++ (x'.bytes ++ ([] ++ (encode post ++ tail))), tail, ?_, (Nat.zero_add _).symm, ?_⟩
      · rw [List.nil_append, List.append_assoc]
      · have hkept : f.length + x'.size + (encode post).length = net.ieLength := by omega
        rw [bssExDelP2pAttrPass]
        dsimp only
        rw [hget]
        dsimp only
        rw [hfront, hattr, hrem, Option.elim_some]
        dsimp only
        rw [if_neg (not_not_intro hsame), hkept, hsame]
        rfl
    · refine ⟨(f ++ x'.bytes) ++ (encode post ++ (List.replicate z.length 0 ++ tail)),
        List.replicate z.length 0 ++ tail, rfl, ?_, ?_⟩
      · rw [List.length_append, List.length_replicate]
      · have hless : sub32 x.size x'.size = z.length := by
          have hshort := x.short
          have hxsize : x.size = x.data.length + 2 := rfl
          rw [sub32_of_le (by omega) (by omega)]
          omega
        have hleft : sub32 net.ieLength z.length = f.length + x'.size + (encode post).length := by
          rw [sub32_of_le (by omega) (by omega)]
          omega
        have hmoved : moveAndClear (f ++ (x'.bytes ++ (z ++ (encode post ++ tail))))
            (f.length + x'.size) (f.length + x.size) (encode post).length z.length =
            (f ++ x'.bytes) ++ (encode post ++ (List.replicate z.length 0 ++ tail)) := by
          have hplace : f.length + x'.size = (f ++ x'.bytes).length := by
            rw [List.length_append, x'.length_bytes]
          have hsrc : f.length + x.size = (f ++ x'.bytes).length + z.length := by omega
          rw [← List.append_assoc, hsrc, hplace, moveAndClear_append]
        rw [bssExDelP2pAttrPass]
        dsimp only
        rw [hget]
        dsimp only
        rw [hfront, hattr, hrem, Option.elim_some]
        dsimp only
        rw [if_pos hsame, hless, hleft, hmoved]
        rfl
  have hall' : ies' = (fixed ++ encode (pre ++ x' :: post)) ++ tail' := by
    rw [hies', hf, encode_append, encode_cons]
    simp only [List.append_assoc]
  have hlen' : ies'.length = maxIeSz := by
    rw [← hsize, hies, hies']
    simp only [List.length_append, Element.length_bytes, htail']
    omega
  refine ⟨x', ies', hdel, hlen', ⟨?_, ?_⟩, ?_⟩
  · rw [hall']
    simp only [List.length_append]
    omega
  · rw [hall', List.take_left]
  · rw [hpass, hnew, hend]

/-- An element that is not a P2P element stays. -/
lemma attrDeleted_self (h : ¬ isP2p e = true) : AttrDeleted attrId e e := by
  rw [AttrDeleted, if_neg h]

lemma forall₂_attrDeleted_self (h : ∀ e ∈ es, ¬ isP2p e = true) :
    List.Forall₂ (AttrDeleted attrId) es es :=
  List.forall₂_same.2 fun e he => attrDeleted_self (h e he)

/-- When the loop ends, every element behind the place has lost its attributes of the id. -/
lemma run_bssExDelP2pAttrPass {net : BssidEx} (h : Holds net.ies net.ieLength fixed es)
    (hsize : net.ies.length = maxIeSz) (hattrs : HoldAttrs es) (attrId : UInt8)
    (hk : es.length < k) :
    ∃ ies' es', Loop.run (bssExDelP2pAttrPass attrId) k
        ⟨net, fixed.length, (encode es).length⟩ =
          some (some (withIes net ies' (fixed ++ encode es').length)) ∧
      ies'.length = maxIeSz ∧ Holds ies' (fixed ++ encode es').length fixed es' ∧
      List.Forall₂ (AttrDeleted attrId) es es' := by
  induction k generalizing net fixed es with
  | zero => omega
  | succ k ih =>
      rcases exists_first_split LooksP2p es with hnone | ⟨pre, x, post, rfl, hx, hpre⟩
      · refine ⟨net.ies, es, ?_, hsize, ?_, forall₂_attrDeleted_self fun y hy hp2p => ?_⟩
        · have hle := h.le
          have hL := h.len_eq
          rw [Loop.run, bssExDelP2pAttrPass]
          dsimp only
          rw [rtwGetP2pIe_of_none h.drop_fixed (by omega) hnone, withIes, List.length_append, ← hL]
        · rw [List.length_append, ← h.len_eq]
          exact h
        · obtain ⟨p, q, rfl⟩ := List.append_of_mem hy
          exact hnone p y q rfl (looksP2p_of_isP2p hp2p)
      · obtain ⟨x', ies₁, hx', hsize₁, h₁, hpass⟩ := bssExDelP2pAttrPass_of_first h hsize hx hpre
          (hattrs x (by simp)) attrId
        have hpost : pre ++ x' :: post = (pre ++ [x']) ++ post := by simp
        have hcount : post.length < k := by
          simp only [List.length_append, List.length_cons] at hk
          omega
        have h₂ : Holds (withIes net ies₁ (fixed ++ encode (pre ++ x' :: post)).length).ies
            (withIes net ies₁ (fixed ++ encode (pre ++ x' :: post)).length).ieLength
            (fixed ++ encode (pre ++ [x'])) post := by
          refine Holds.append_iff.1 ?_
          rw [← hpost]
          exact h₁
        obtain ⟨ies', post', hrun, hsize', h', hall⟩ :=
          ih h₂ hsize₁ (fun e he => hattrs e (by simp [he])) hcount
        have hbytes : (fixed ++ encode (pre ++ [x'])) ++ encode post' =
            fixed ++ encode (pre ++ x' :: post') := by
          simp
        rw [hbytes] at hrun h'
        refine ⟨ies', pre ++ x' :: post', ?_, hsize', ?_, ?_⟩
        · rw [Loop.run, hpass]
          exact hrun
        · have hpost' : pre ++ x' :: post' = (pre ++ [x']) ++ post' := by simp
          rw [hpost'] at h' ⊢
          exact Holds.append_iff.2 h'
        · -- no element before the first is a P2P element
          refine List.rel_append (forall₂_attrDeleted_self fun y hy hp2p => ?_) (.cons hx' hall)
          obtain ⟨p, q, rfl⟩ := List.append_of_mem hy
          exact hpre p y q rfl (looksP2p_of_isP2p hp2p)

/-- The attributes of the id are taken out, whatever elements there are. -/
lemma delAttrOk {net : BssidEx} (h : IsEntry net fixed es) (hattrs : HoldAttrs es)
    (attrId : UInt8) : DelAttrOk net attrId fixed es := by
  have hle := h.le
  have hL := h.ieLength_eq
  have hmax : maxIeSz = 768 := rfl
  have hfixed := h.length_fixed
  have hcount := length_le_encode es
  have hrest : sub32 net.ieLength net.fixedIeOffset = (encode es).length := by
    rw [sub32_of_le (by omega) (by omega)]
    omega
  have hk : es.length < net.ieLength + 1 := by omega
  obtain ⟨ies', es', hrun, hsize, hholds, hall⟩ :=
    run_bssExDelP2pAttrPass h.holds h.length_ies hattrs attrId hk
  refine ⟨withIes net ies' (fixed ++ encode es').length, ?_, es', ⟨hsize, hfixed, ?_, ?_⟩, hall⟩
  · rw [Option.mem_def, rtwBssExDelP2pAttr, hrest, ← hfixed, hrun]
    rfl
  · rw [← hsize]
    exact hholds.le
  · exact hholds.take_eq

/-- `rtw_bss_ex_del_p2p_attr` takes out what it should from every network, `rtw_bss_ex_del_p2p_ie`
if none of the elements looks like a P2P element when these are gone. -/
theorem delP2p_iff {net : BssidEx} (h : IsEntry net fixed es) (hattrs : HoldAttrs es)
    (attrId : UInt8) :
    (DelAttrOk net attrId fixed es ∧ DelIeOk net fixed es) ↔
      NoneLooks (es.filter (!isP2p ·)) := by
  rw [delIeOk_iff h]
  exact and_iff_right (delAttrOk h hattrs attrId)

/-- A network heard in a probe request, which has no fixed fields. -/
def reqNetwork (es : List Element) : BssidEx where
  macAddress := .ofBytes 2 0 0 0 0 1
  ssid := []
  reserved0 := Scan.bssTypeProbReq
  infrastructureMode := .infrastructure
  ieLength := (encode es).length
  ies := encode es ++ List.replicate (maxIeSz - (encode es).length) 0

lemma isEntry_reqNetwork (hes : (encode es).length ≤ maxIeSz) :
    IsEntry (reqNetwork es) [] es := by
  refine ⟨?_, rfl, hes, List.take_left⟩
  show (encode es ++ List.replicate _ 0).length = _
  rw [List.length_append, List.length_replicate]
  omega

/-- Two of the three attributes of one element are taken out, and the only one of another. -/
theorem delP2p_repeated :
    let held : Attr := ⟨3, [7, 8], by decide⟩
    let gone : Attr := ⟨2, [9], by decide⟩
    let es := [p2pElement [gone, held, gone] (by decide), p2pElement [gone] (by decide),
      ⟨0, [97], by decide⟩]
    DelAttrOk (reqNetwork es) 2 [] es ∧ DelIeOk (reqNetwork es) [] es := by
  intro held gone es
  refine (delP2p_iff (isEntry_reqNetwork (by decide)) ?_ 2).2 ?_
  · rintro e he hp2p
    simp only [es, List.mem_cons, List.not_mem_nil, or_false] at he
    rcases he with rfl | rfl | rfl
    · exact ⟨_, rfl⟩
    · exact ⟨_, rfl⟩
    · cases hp2p
  · have hrest : es.filter (!isP2p ·) = [⟨0, [97], by decide⟩] := by decide
    rw [hrest]
    rintro p x q hsplit hx
    rcases p with _ | ⟨z, p⟩
    · obtain ⟨rfl, -⟩ := List.cons.inj hsplit
      cases hx.1
    · have hlen := congrArg List.length hsplit
      simp at hlen

/-- A vendor element of two bytes is taken for a P2P element by what follows it. -/
theorem not_delIeOk_short :
    let vendor : Element := ⟨0xDD, [0x50, 0x6F], by decide⟩
    let next : Element := ⟨0x9A, [0, 0, 0, 0, 0, 0, 0, 0, 0], by decide⟩
    IsEntry (reqNetwork [vendor, next]) [] [vendor, next] ∧ HoldAttrs [vendor, next] ∧
      ¬ DelIeOk (reqNetwork [vendor, next]) [] [vendor, next] := by
  intro vendor next
  have hentry : IsEntry (reqNetwork [vendor, next]) [] [vendor, next] :=
    isEntry_reqNetwork (by decide)
  refine ⟨hentry, ?_, fun hok => ?_⟩
  · rintro e he hp2p
    simp only [List.mem_cons, List.not_mem_nil, or_false] at he
    rcases he with rfl | rfl <;> cases hp2p
  · have hrest : [vendor, next].filter (!isP2p ·) = [vendor, next] := by decide
    have hnone := (delIeOk_iff hentry).1 hok
    rw [hrest] at hnone
    exact hnone [] vendor [next] rfl ⟨rfl, by decide⟩

end Rtl8723du.Elems
