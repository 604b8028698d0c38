import Rtl8723du.Elems.GetIe
import Rtl8723du.Ie.Bss

/-!
# Editing the elements of a buffer

`rtw_ies_update_ie`, `rtw_ies_add_ie` and `rtw_ies_remove_ie` change the elements behind an offset
of a buffer, and their length.  The first does not see an element without data, the second does
nothing where there are no elements, and the third compares the OUI without a check of the length
of the element.
-/

namespace Rtl8723du.Elems

open Lib Lib.Bytes Lib.Elements
open Beacon (sub32 sub32_of_le)

/-! ### The code -/

/-- The buffer `ies` and the length `*ies_len` of what it holds. -/
structure Ies where
  ies : List UInt8
  iesLen : ℕ
deriving DecidableEq

/-- `rtw_get_ie` with a limit that is given as an unsigned number. -/
def getIeUint (ies : List UInt8) (start : ℕ) (eid : UInt8) (searchLen : ℕ) : Option (ℕ × ℕ) :=
  if 2 ^ 31 ≤ searchLen then none else Beacon.rtwGetIe ies start eid searchLen

/-- `rtw_ies_update_ie`: whether it succeeds, and the elements. -/
def rtwIesUpdateIe (malloc : ℕ → Bool) (s : Ies) (iesOffset : ℕ) (eid : UInt8)
    (content : List UInt8) : Bool × Ies :=
  if s.iesLen = 0 ∨ s.iesLen ≤ iesOffset then (false, s)
  else
    let searchLen := s.iesLen - iesOffset
    match getIeUint s.ies iesOffset eid searchLen with
    | none => (false, s)
    | some (targetIe, targetIelen) =>
        if targetIelen = 0 then (false, s)
        else
          let ies := writeAt (writeAt s.ies (targetIe + 2) content) (targetIe + 1)
            [UInt8.ofNat content.length]
          if targetIelen = content.length then (true, { s with ies })
          else
            let remainIes := targetIe + 2 + targetIelen
            let remainLen := sub32 searchLen (remainIes - iesOffset)
            if malloc remainLen then
              (true, {
                ies := writeAt ies (targetIe + 2 + content.length)
                  ((s.ies.drop remainIes).take remainLen)
                iesLen := (s.iesLen + sub32 content.length targetIelen) % 4294967296 })
            else (false, s)

/-- The loop of `rtw_ies_add_ie`, with `dst_ie` and `pcurrent`. -/
def addLoop (ies : List UInt8) (pstart searchLen : ℕ) (eid : UInt8) :
    ℕ → Option ℕ → ℕ → Option ℕ × ℕ
  | 0, dstIe, pcurrent => (dstIe, pcurrent)
  | k + 1, dstIe, pcurrent =>
      if searchLen < pcurrent - pstart then (dstIe, pcurrent)
      else if pcurrent - pstart = searchLen then (some pcurrent, pcurrent)
      else if eid < ies.getD pcurrent 0 then (some pcurrent, pcurrent)
      else if ies.getD pcurrent 0 = eid then (some pcurrent, pcurrent + (lenAt ies pcurrent + 2))
      else addLoop ies pstart searchLen eid k (some pcurrent) (pcurrent + (lenAt ies pcurrent + 2))

/-- `rtw_ies_add_ie`: whether it succeeds, and the elements; nothing when it copies to memory that
it did not get. -/
def rtwIesAddIe (malloc : ℕ → Bool) (s : Ies) (iesOffset : ℕ) (eid : UInt8)
    (content : List UInt8) : Option (Bool × Ies) :=
  if s.iesLen = 0 ∨ s.iesLen ≤ iesOffset then some (false, s)
  else
    match addLoop s.ies iesOffset (s.iesLen - iesOffset) eid (s.iesLen + 1) none iesOffset with
    | (none, _) => some (false, s)
    | (some dstIe, pcurrent) =>
        let remainderIelen := sub32 s.iesLen pcurrent
        if 0 < remainderIelen ∧ malloc remainderIelen = false then none
        else
          let remainder := (s.ies.drop pcurrent).take remainderIelen
          let ies := writeAt s.ies dstIe (eid :: UInt8.ofNat content.length :: content)
          let dstIe := dstIe + (content.length + 2)
          some (true, {
            ies := if 0 < remainderIelen then writeAt ies dstIe remainder else ies
            iesLen := (dstIe + remainderIelen) % 4294967296 })

/-- The loop of `rtw_get_ie_ex` up to a limit; nothing when it compares bytes behind the buffer. -/
def searchEx (ies : List UInt8) (eid : UInt8) (oui : Option (List UInt8)) (limit : ℕ) :
    ℕ → ℕ → Option (Option ℕ)
  | 0, _ => some none
  | k + 1, a =>
      if limit ≤ a then some none
      else
        match if eid = ies.getD a 0 then ouiMatches ies (a + 2) oui else some false with
        | none => none
        | some true => some (some a)
        | some false => searchEx ies eid oui limit k (a + (lenAt ies a + 2))

/-- The loop of `rtw_ies_remove_ie`, with `ret`, `start` and `search_len`. -/
def removeLoop (eid : UInt8) (oui : Option (List UInt8)) :
    ℕ → Bool → Ies → ℕ → ℕ → Option (Bool × Ies)
  | 0, ret, s, _, _ => some (ret, s)
  | k + 1, ret, s, start, searchLen =>
      match searchEx s.ies eid oui (start + searchLen) (searchLen + 1) start with
      | none => none
      | some none => some (ret, s)
      | some (some targetIe) =>
          let targetIelen := lenAt s.ies targetIe + 2
          let remainIes := targetIe + targetIelen
          let remainLen := sub32 searchLen (remainIes - start)
          removeLoop eid oui k true {
            ies := writeAt s.ies targetIe ((s.ies.drop remainIes).take remainLen)
            iesLen := sub32 s.iesLen targetIelen } targetIe remainLen

/-- `rtw_ies_remove_ie`: whether it succeeds, and the elements; nothing when it reads behind the
buffer. -/
def rtwIesRemoveIe (s : Ies) (offset : ℕ) (eid : UInt8) (oui : Option (List UInt8)) :
    Option (Bool × Ies) :=
  if s.iesLen ≤ offset then some (false, s)
  else removeLoop eid oui s.iesLen false s offset (s.iesLen - offset)

/-! ### What they are for -/

/-- A buffer of `n` bytes holds some bytes and elements behind them. -/
structure IsIes (n : ℕ) (s : Ies) (fixed : List UInt8) (es : List Element) : Prop where
  length_ies : s.ies.length = n
  le : s.iesLen ≤ n
  blob : s.ies.take s.iesLen = fixed ++ encode es

/-- The first element of the id is replaced. -/
def updateElement (e : Element) : List Element → List Element
  | [] => []
  | x :: es => if x.id = e.id then e :: es else x :: updateElement e es

/-- The element is put in before the first of a larger id, or replaces the one of its id. -/
def addElement (e : Element) : List Element → List Element
  | [] => [e]
  | x :: es =>
      if e.id < x.id then e :: x :: es
      else if x.id = e.id then e :: es
      else x :: addElement e es

/-- The element has the id, and its data begins with the OUI, if one is given. -/
def matchesOui (eid : UInt8) (oui : Option (List UInt8)) (e : Element) : Bool :=
  e.id == eid && oui.all fun o => o.isPrefixOf e.data

/-- `rtw_ies_update_ie` replaces the first element of the id. -/
def UpdateOk (malloc : ℕ → Bool) (n : ℕ) (s : Ies) (fixed : List UInt8) (e : Element)
    (es : List Element) : Prop :=
  IsIes n (rtwIesUpdateIe malloc s fixed.length e.id e.data).2 fixed (updateElement e es)

/-- `rtw_ies_add_ie` adds the element. -/
def AddOk (malloc : ℕ → Bool) (n : ℕ) (s : Ies) (fixed : List UInt8) (e : Element)
    (es : List Element) : Prop :=
  ∃ r ∈ rtwIesAddIe malloc s fixed.length e.id e.data, IsIes n r.2 fixed (addElement e es)

/-- `rtw_ies_remove_ie` removes the elements that match, and no others. -/
def RemoveOk (n : ℕ) (s : Ies) (fixed : List UInt8) (eid : UInt8) (oui : Option (List UInt8))
    (es : List Element) : Prop :=
  ∃ r ∈ rtwIesRemoveIe s fixed.length eid oui, IsIes n r.2 fixed (es.filter (!matchesOui eid oui ·))

/-! ### When they do it -/

/-- The element is there with data and the search has a limit above zero, or it has the content
already. -/
def UpdateFits (e : Element) (es : List Element) : Prop :=
  ∀ x ∈ es.find? (·.id = e.id), x.data ≠ [] ∧ (encode es).length < 2 ^ 31 ∨ x.data = e.data

/-- What stands behind the elements when the first is moved over. -/
def staleBytes (x : Element) (es : List Element) : List UInt8 :=
  (x.bytes ++ encode es).drop (encode es).length

/-- With these bytes behind the elements, each element of the id that does not match is known not
to: the bytes that are compared lie in the buffer and are others. -/
def Told (eid : UInt8) (oui : Option (List UInt8)) : List Element → List UInt8 → Prop
  | [], _ => True
  | x :: es, tail =>
      if matchesOui eid oui x then Told eid oui es (staleBytes x es ++ tail)
      else (x.id = eid → ∀ o ∈ oui, o.length ≤ (x.data ++ (encode es ++ tail)).length ∧
          (x.data ++ (encode es ++ tail)).take o.length ≠ o) ∧ Told eid oui es tail

/-! ### Buffers -/

variable {malloc : ℕ → Bool} {n : ℕ} {s : Ies} {bs fixed tail : List UInt8} {e x : Element}
  {es es' pre post : List Element} {eid : UInt8} {oui : Option (List UInt8)}

namespace IsIes

lemma holds (h : IsIes n s fixed es) : Holds s.ies s.iesLen fixed es :=
  ⟨by rw [h.length_ies]; exact h.le, h.blob⟩

lemma iesLen_eq (h : IsIes n s fixed es) : s.iesLen = fixed.length + (encode es).length :=
  h.holds.len_eq

lemma ies_eq (h : IsIes n s fixed es) :
    s.ies = fixed ++ (encode es ++ s.ies.drop s.iesLen) := h.holds.bytes_eq

lemma at_elements (h : IsIes n s fixed es) : At s.ies fixed.length es := h.holds.at_elements

lemma unique (h : IsIes n s fixed es) (h' : IsIes n s fixed es') : es = es' :=
  h.holds.unique h'.holds

/-- The buffer is left as it is. -/
lemma same_iff (h : IsIes n s fixed es) : IsIes n s fixed es' ↔ es' = es := by
  constructor
  · exact fun h' => h'.unique h
  · rintro rfl
    exact h

end IsIes

/-- A splice at whole elements. -/
lemma isIes_splice {m w : List Element} (h : IsIes n s fixed (pre ++ (m ++ post)))
    (hfits : (fixed ++ encode (pre ++ (w ++ post))).length ≤ n) :
    IsIes n {
      ies := writeAt (writeAt s.ies (fixed.length + (encode pre).length) (encode w))
        (fixed.length + (encode pre).length + (encode w).length) (encode post)
      iesLen := (fixed ++ encode (pre ++ (w ++ post))).length } fixed (pre ++ (w ++ post)) := by
  have hfront : fixed.length + (encode pre).length = (fixed ++ encode pre).length :=
    (List.length_append ..).symm
  have hsize : (fixed ++ encode (pre ++ (w ++ post))).length =
      (fixed ++ encode pre).length + (encode w).length + (encode post).length := by
    simp only [encode_append, List.length_append]
    omega
  refine ⟨?_, hfits, ?_⟩
  · rw [length_writeAt_writeAt, h.length_ies]
    rw [h.length_ies, hfront, ← hsize]
    exact hfits
  · show List.take _ (writeAt _ _ _) = _
    have hies : s.ies =
        (fixed ++ encode pre) ++ (encode m ++ (encode post ++ s.ies.drop s.iesLen)) := by
      conv_lhs => rw [h.ies_eq]
      simp only [encode_append, List.append_assoc]
    rw [hsize, hfront, take_writeAt_writeAt hies]
    simp only [encode_append, List.append_assoc]

/-! ### `rtw_ies_update_ie` -/

lemma updateElement_of_first (hpre : ∀ y ∈ pre, y.id ≠ e.id) (hx : x.id = e.id) :
    updateElement e (pre ++ x :: post) = pre ++ e :: post := by
  induction pre with
  | nil => exact if_pos hx
  | cons y pre ih =>
      rw [List.cons_append, updateElement, if_neg (hpre y (by simp)),
        ih fun z hz => hpre z (by simp [hz])]
      rfl

lemma updateElement_of_none (hes : ∀ x ∈ es, x.id ≠ e.id) : updateElement e es = es := by
  induction es with
  | nil => rfl
  | cons x es ih =>
      rw [updateElement, if_neg (hes x (by simp)), ih fun y hy => hes y (by simp [hy])]

lemma find?_first (hpre : ∀ y ∈ pre, y.id ≠ eid) (hx : x.id = eid) :
    (pre ++ x :: post).find? (·.id = eid) = some x := by
  rw [List.find?_append, List.find?_eq_none.2 (by simpa using hpre), Option.none_or,
    List.find?_cons_of_pos (by simpa using hx)]

/-- What is found in the buffer. -/
lemma getIeUint_of_first (h : IsIes n s fixed (pre ++ x :: post)) (hpre : ∀ y ∈ pre, y.id ≠ eid)
    (hx : x.id = eid) (hlimit : (encode (pre ++ x :: post)).length < 2 ^ 31) :
    getIeUint s.ies fixed.length eid (s.iesLen - fixed.length) =
      some (fixed.length + (encode pre).length, x.data.length) := by
  have hlen : (encode (pre ++ x :: post)).length =
      (encode pre).length + (x.data.length + 2 + (encode post).length) := by simp [Element.size]
  rw [h.iesLen_eq, Nat.add_sub_cancel_left, getIeUint, if_neg (Nat.not_le.2 hlimit)]
  exact Beacon.rtwGetIe_of_at h.at_elements hpre hx (by omega)

lemma getIeUint_of_none (h : IsIes n s fixed es) (hes : ∀ x ∈ es, x.id ≠ eid) :
    getIeUint s.ies fixed.length eid (s.iesLen - fixed.length) = none := by
  rw [h.iesLen_eq, Nat.add_sub_cancel_left, getIeUint]
  split
  · rfl
  · exact Beacon.rtwGetIe_eq_none_of_at h.at_elements hes rfl

/-- Where nothing is found, or an element without data, nothing changes. -/
lemma update_of_none (malloc : ℕ → Bool)
    (h : ∀ a len, getIeUint s.ies fixed.length e.id (s.iesLen - fixed.length) = some (a, len) →
      len = 0) :
    (rtwIesUpdateIe malloc s fixed.length e.id e.data).2 = s := by
  unfold rtwIesUpdateIe
  split
  · rfl
  · dsimp only
    rcases hget : getIeUint s.ies fixed.length e.id (s.iesLen - fixed.length) with _ | ⟨a, len⟩
    · rfl
    · dsimp only
      rw [if_pos (h a len hget)]

/-- An element with data is replaced. -/
lemma update_of_found (hmalloc : ∀ k, malloc k = true) (hn : n < 4294967296)
    (h : IsIes n s fixed (pre ++ x :: post)) (hpre : ∀ y ∈ pre, y.id ≠ e.id) (hx : x.id = e.id)
    (hdata : x.data ≠ []) (hlimit : (encode (pre ++ x :: post)).length < 2 ^ 31)
    (hfits : (fixed ++ encode (pre ++ e :: post)).length ≤ n) :
    IsIes n (rtwIesUpdateIe malloc s fixed.length e.id e.data).2 fixed (pre ++ e :: post) := by
  have hlen := h.iesLen_eq
  have hle := h.le
  have hpos : 0 < x.data.length := List.length_pos_iff.2 hdata
  have hsize : (encode (pre ++ x :: post)).length =
      (encode pre).length + (x.data.length + 2 + (encode post).length) := by simp [Element.size]
  have hnew : (fixed ++ encode (pre ++ e :: post)).length =
      fixed.length + ((encode pre).length + (e.data.length + 2 + (encode post).length)) := by
    simp [Element.size]
  set a := fixed.length + (encode pre).length with ha
  obtain ⟨rest, hdrop⟩ : ∃ rest, s.ies.drop a = x.bytes ++ rest :=
    (At.right h.at_elements).drop_eq
  have hdrop' : s.ies.drop a = e.id :: UInt8.ofNat x.data.length :: (x.data ++ rest) := by
    rw [hdrop, ← hx]
    rfl
  have hbytes : writeAt (writeAt s.ies (a + 2) e.data) (a + 1) [UInt8.ofNat e.data.length] =
      writeAt s.ies a e.bytes := by
    rw [writeAt_content (by rw [h.length_ies]; omega), writeAt_of_drop hdrop']
    rfl
  have hsplice := isIes_splice (m := [x]) (w := [e]) h (by simpa using hfits)
  have hfound := getIeUint_of_first h hpre hx hlimit
  unfold rtwIesUpdateIe
  rw [if_neg (by omega)]
  dsimp only
  rw [hfound]
  dsimp only
  rw [if_neg (Nat.pos_iff_ne_zero.1 hpos), ← ha, hbytes]
  have hremain : (s.ies.drop (a + x.size)).take (encode post).length = encode post := by
    obtain ⟨rest', hrest⟩ := (At.right (p := pre) h.at_elements).tail
    rw [← hrest, List.take_left]
  have hwidth : e.bytes.length = e.data.length + 2 := e.length_bytes
  rw [← ha, encode_cons, encode_nil, List.append_nil] at hsplice
  by_cases hsame : x.data.length = e.data.length
  · rw [if_pos hsame]
    have hstays : writeAt (writeAt s.ies a e.bytes) (a + e.bytes.length) (encode post) =
        writeAt s.ies a e.bytes := by
      refine writeAt_same ?_
      rw [drop_writeAt (by rw [h.length_ies]; omega), hwidth, ← hsame]
      exact hremain
    have htotal : s.iesLen = (fixed ++ encode (pre ++ ([e] ++ post))).length := by
      rw [List.singleton_append, hnew]
      omega
    rw [hstays, ← htotal] at hsplice
    exact hsplice
  · rw [if_neg hsame, if_pos (hmalloc _)]
    have hrem : sub32 (s.iesLen - fixed.length) (a + 2 + x.data.length - fixed.length) =
        (encode post).length := by
      rw [sub32_of_le (by omega) (by omega)]
      omega
    have htotal : (s.iesLen + sub32 e.data.length x.data.length) % 4294967296 =
        (fixed ++ encode (pre ++ ([e] ++ post))).length := by
      have hshort := e.short
      have hshort' := x.short
      rw [List.singleton_append, hnew, sub32]
      omega
    have hplace : a + 2 + e.data.length = a + e.bytes.length := by omega
    have hplace' : a + 2 + x.data.length = a + x.size := by
      rw [Element.size]
      omega
    rw [hrem, htotal, hplace, hplace', hremain]
    exact hsplice

lemma update_iff (hmalloc : ∀ k, malloc k = true) (hn : n < 4294967296) (h : IsIes n s fixed es)
    (hfits : (fixed ++ encode (updateElement e es)).length ≤ n) :
    UpdateOk malloc n s fixed e es ↔ UpdateFits e es := by
  rcases Beacon.exists_first_id e.id es with hnone | ⟨pre, x, post, rfl, hpre, hx⟩
  · have hunchanged : (rtwIesUpdateIe malloc s fixed.length e.id e.data).2 = s :=
      update_of_none malloc fun a len hget => by
        rw [getIeUint_of_none h hnone] at hget
        cases hget
    rw [UpdateOk, hunchanged, updateElement_of_none hnone, UpdateFits,
      List.find?_eq_none.2 (by simpa using hnone)]
    exact iff_of_true h (by simp)
  · rw [updateElement_of_first hpre hx] at hfits
    rw [UpdateOk, updateElement_of_first hpre hx, UpdateFits, find?_first hpre hx]
    by_cases hseen : x.data ≠ [] ∧ (encode (pre ++ x :: post)).length < 2 ^ 31
    · refine iff_of_true (update_of_found hmalloc hn h hpre hx hseen.1 hseen.2 hfits) ?_
      rintro y ⟨⟩
      exact .inl hseen
    · -- the element is not seen, and nothing changes
      have hunchanged : (rtwIesUpdateIe malloc s fixed.length e.id e.data).2 = s :=
        update_of_none malloc fun a len hget => by
          by_cases hlimit : (encode (pre ++ x :: post)).length < 2 ^ 31
          · rw [getIeUint_of_first h hpre hx hlimit] at hget
            obtain ⟨-, rfl⟩ := Prod.mk.inj (Option.some.inj hget)
            have hdata : x.data = [] := by
              by_contra hdata
              exact hseen ⟨hdata, hlimit⟩
            rw [hdata, List.length_nil]
          · rw [h.iesLen_eq, Nat.add_sub_cancel_left, getIeUint, if_pos (Nat.not_lt.1 hlimit)]
              at hget
            cases hget
      rw [hunchanged, h.same_iff, List.append_cancel_left_eq, List.cons.injEq, and_iff_left rfl]
      constructor
      · rintro rfl y ⟨⟩
        exact .inr rfl
      · intro hfirst
        have hdata : x.data = e.data := (hfirst x rfl).resolve_left hseen
        cases e
        cases x
        cases hx
        cases hdata
        rfl

/-! ### `rtw_ies_add_ie` -/

/-- Where the loop stops, and what is put in there. -/
lemma addLoop_eq {a pstart l k : ℕ} {d : Option ℕ} (hat : At bs a es)
    (hle : pstart ≤ a) (hend : pstart + l = a + (encode es).length) (hk : es.length < k) :
    ∃ pre m post, es = pre ++ (m ++ post) ∧ addElement e es = pre ++ ([e] ++ post) ∧
      addLoop bs pstart l e.id k d a =
        (some (a + (encode pre).length), a + (encode (pre ++ m)).length) := by
  induction es generalizing a k d with
  | nil =>
      obtain ⟨k, rfl⟩ : ∃ m, k = m + 1 := ⟨k - 1, by simp at hk; omega⟩
      refine ⟨[], [], [], rfl, rfl, ?_⟩
      rw [encode_nil, List.length_nil] at hend
      rw [addLoop, if_neg (by omega), if_pos (by omega)]
      rfl
  | cons x es ih =>
      obtain ⟨k, rfl⟩ : ∃ m, k = m + 1 := ⟨k - 1, by simp at hk; omega⟩
      have hsize : (encode (x :: es)).length = x.data.length + 2 + (encode es).length := by
        simp [Element.size]
      rw [addLoop, if_neg (by omega), if_neg (by omega), hat.id_eq, At.lenAt_eq hat]
      by_cases hlt : e.id < x.id
      · rw [if_pos hlt]
        exact ⟨[], [], x :: es, rfl, if_pos hlt, rfl⟩
      · rw [if_neg hlt]
        by_cases heq : x.id = e.id
        · rw [if_pos heq]
          refine ⟨[], [x], es, rfl, ?_, ?_⟩
          · rw [addElement, if_neg hlt, if_pos heq]
            rfl
          · simp [Element.size]
        · rw [if_neg heq]
          have hnext : At bs (a + (x.data.length + 2)) es := hat.tail
          obtain ⟨pre, m, post, rfl, hadd, hloop⟩ := ih (d := some a) hnext (by omega) (by omega)
            (by simp at hk; omega : es.length < k)
          refine ⟨x :: pre, m, post, rfl, ?_, ?_⟩
          · rw [addElement, if_neg hlt, if_neg heq, hadd]
            rfl
          · rw [hloop]
            simp [Element.size, Nat.add_assoc]

lemma add_iff (hmalloc : ∀ k, malloc k = true) (hn : n < 4294967296) (h : IsIes n s fixed es)
    (hfits : (fixed ++ encode (addElement e es)).length ≤ n) :
    AddOk malloc n s fixed e es ↔ es ≠ [] := by
  have hlen := h.iesLen_eq
  have hle := h.le
  rcases es with _ | ⟨x, es⟩
  · -- the guard
    rw [encode_nil, List.length_nil, Nat.add_zero] at hlen
    refine iff_of_false ?_ (not_not_intro rfl)
    rintro ⟨r, hr, hies⟩
    rw [rtwIesAddIe, if_pos (.inr (Nat.le_of_eq hlen))] at hr
    cases hr
    cases h.same_iff.1 hies
  · refine iff_of_true ?_ (List.cons_ne_nil _ _)
    have hsize : (encode (x :: es)).length = x.data.length + 2 + (encode es).length := by
      simp [Element.size]
    have hcount := length_le_encode (x :: es)
    obtain ⟨pre, m, post, hes, hadd, hloop⟩ := addLoop_eq (e := e) (d := none)
      (k := s.iesLen + 1) (l := s.iesLen - fixed.length) h.at_elements le_rfl (by omega)
      (by omega)
    rw [hes] at h hlen hsize
    rw [hadd] at hfits
    rw [AddOk, hadd]
    have hsplice := isIes_splice (m := m) (w := [e]) h hfits
    have hpre : (encode (pre ++ (m ++ post))).length =
        (encode (pre ++ m)).length + (encode post).length := by simp [Nat.add_assoc]
    have hnew : (fixed ++ encode (pre ++ ([e] ++ post))).length =
        fixed.length + (encode pre).length + (e.data.length + 2) + (encode post).length := by
      simp [Element.size]
      omega
    have hrem : sub32 s.iesLen (fixed.length + (encode (pre ++ m)).length) =
        (encode post).length := by
      rw [sub32_of_le (by omega) (by omega)]
      omega
    have hremain : (s.ies.drop (fixed.length + (encode (pre ++ m)).length)).take
        (encode post).length = encode post := by
      rw [← List.append_assoc] at h
      obtain ⟨rest, hrest⟩ := h.at_elements.right
      rw [← hrest, List.take_left]
    have htotal : (fixed.length + (encode pre).length + (e.data.length + 2) +
        (encode post).length) % 4294967296 = (fixed ++ encode (pre ++ ([e] ++ post))).length := by
      rw [hnew]
      omega
    refine ⟨(true, _), Option.mem_def.2 ?_, hsplice⟩
    have hbytes : e.id :: UInt8.ofNat e.data.length :: e.data = encode [e] := by
      rw [encode_cons, encode_nil, List.append_nil]
      rfl
    have hwidth : (encode [e]).length = e.data.length + 2 := by simp [Element.size]
    unfold rtwIesAddIe
    rw [if_neg (by omega), hloop]
    dsimp only
    rw [hrem, hremain, if_neg (by simp [hmalloc]), htotal, hbytes, hwidth]
    by_cases hpost : 0 < (encode post).length
    · rw [if_pos hpost]
    · have hnil : encode post = [] := List.length_eq_zero_iff.1 (by omega)
      rw [if_neg hpost, hnil, writeAt_nil]

/-! ### `rtw_ies_remove_ie` -/

/-- What the search sees at an element. -/
def looksAt (eid : UInt8) (oui : Option (List UInt8)) (x : Element) (behind : List UInt8) :
    Option Bool :=
  if eid = x.id then ouiMatches (x.data ++ behind) 0 oui else some false

lemma ouiMatches_eq {a : ℕ} {rest : List UInt8} (h : bs.drop a = x.bytes ++ rest) :
    (if eid = bs.getD a 0 then ouiMatches bs (a + 2) oui else some false) =
      looksAt eid oui x rest := by
  have hid : bs.getD a 0 = x.id := getD_eq_of_drop h
  have hdata : bs.drop (a + 2) = x.data ++ rest := by
    rw [← List.drop_drop, h]
    rfl
  have hlen := congrArg List.length hdata
  rw [List.length_drop] at hlen
  rw [hid, looksAt]
  rcases oui with _ | o
  · rfl
  · rw [ouiMatches, ouiMatches, bytesIn, bytesIn, hdata, List.drop_zero, Nat.zero_add]
    by_cases hzero : o.length = 0
    · rw [if_pos hzero, if_pos hzero]
    · have hiff : a + 2 + o.length ≤ bs.length ↔ o.length ≤ (x.data ++ rest).length := by omega
      rw [if_neg hzero, if_neg hzero, if_congr hiff rfl rfl]

lemma looksAt_of_matches {behind : List UInt8} (h : matchesOui eid oui x = true) :
    looksAt eid oui x behind = some true := by
  rw [matchesOui, Bool.and_eq_true, beq_iff_eq] at h
  rw [looksAt, if_pos h.1.symm]
  rcases oui with _ | o
  · rfl
  · obtain ⟨rest, hrest⟩ := List.isPrefixOf_iff_prefix.1 (show o.isPrefixOf x.data = true from h.2)
    have hlen : 0 + o.length ≤ (x.data ++ behind).length := by
      rw [← hrest]
      simp
    rw [ouiMatches, bytesIn_eq hlen, List.drop_zero, Option.map_some, ← hrest, List.append_assoc,
      List.take_left, beq_self_eq_true]

/-- An element that does not match is passed exactly if it is known not to. -/
lemma looksAt_eq_false_iff {behind : List UInt8} (h : matchesOui eid oui x = false) :
    looksAt eid oui x behind = some false ↔
      (x.id = eid → ∀ o ∈ oui, o.length ≤ (x.data ++ behind).length ∧
        (x.data ++ behind).take o.length ≠ o) := by
  rw [looksAt]
  by_cases hid : x.id = eid
  · rw [if_pos hid.symm, forall_prop_of_true hid]
    rcases oui with _ | o
    · rw [matchesOui, hid, beq_self_eq_true] at h
      cases h
    · have hne : o ≠ [] := by
        rintro rfl
        rw [matchesOui, hid, beq_self_eq_true] at h
        cases h
      rw [ouiMatches, bytesIn, if_neg (by simpa using hne), Nat.zero_add, List.drop_zero]
      by_cases hlen : o.length ≤ (x.data ++ behind).length
      · simp only [hlen, if_true, Option.map_some, Option.some.injEq, Option.mem_def, true_and,
          forall_eq', beq_eq_false_iff_ne]
      · simp only [hlen, if_false, Option.map_none, Option.mem_def, Option.some.injEq, false_and,
          forall_eq', reduceCtorEq]
  · rw [if_neg (Ne.symm hid)]
    exact iff_of_true rfl fun h => absurd h hid

/-- What the loop does to the elements. -/
def removeElements (eid : UInt8) (oui : Option (List UInt8)) :
    List Element → List UInt8 → Option (List Element)
  | [], _ => some []
  | x :: es, tail =>
      (looksAt eid oui x (encode es ++ tail)).bind fun hit =>
        if hit then removeElements eid oui es (staleBytes x es ++ tail)
        else (removeElements eid oui es tail).map (x :: ·)

lemma length_removeElements_le (h : removeElements eid oui es tail = some es') :
    es'.length ≤ (es.filter (!matchesOui eid oui ·)).length := by
  induction es generalizing tail es' with
  | nil =>
      cases h
      exact le_rfl
  | cons x es ih =>
      rw [removeElements] at h
      by_cases hmatch : matchesOui eid oui x = true
      · rw [looksAt_of_matches hmatch, Option.bind_some, if_pos rfl] at h
        rw [List.filter_cons_of_neg (by simpa using hmatch)]
        exact ih h
      · rw [List.filter_cons_of_pos (by simpa using hmatch), List.length_cons]
        obtain ⟨hit, -, hhit⟩ := Option.bind_eq_some_iff.1 h
        cases hit with
        | true => exact (ih hhit).trans (Nat.le_succ _)
        | false =>
            obtain ⟨es'', hes'', rfl⟩ := Option.map_eq_some_iff.1 hhit
            exact Nat.succ_le_succ (ih hes'')

/-- Exactly the elements that match are removed, if the others are known not to. -/
lemma removeElements_eq_iff : removeElements eid oui es tail =
    some (es.filter (!matchesOui eid oui ·)) ↔ Told eid oui es tail := by
  induction es generalizing tail with
  | nil => exact iff_of_true rfl trivial
  | cons x es ih =>
      rw [removeElements, Told]
      by_cases hmatch : matchesOui eid oui x = true
      · rw [looksAt_of_matches hmatch, Option.bind_some, if_pos rfl, if_pos hmatch, ← ih,
          List.filter_cons_of_neg (by simpa using hmatch)]
      · rw [if_neg hmatch, ← looksAt_eq_false_iff (by simpa using hmatch), ← ih,
          List.filter_cons_of_pos (by simpa using hmatch)]
        constructor
        · intro h
          obtain ⟨hit, hlooks, hhit⟩ := Option.bind_eq_some_iff.1 h
          cases hit with
          | true =>
              -- one element too many is gone
              have hle := length_removeElements_le hhit
              rw [List.length_cons] at hle
              omega
          | false =>
              obtain ⟨es', hes', hcons⟩ := Option.map_eq_some_iff.1 hhit
              rw [(List.cons.inj hcons).2] at hes'
              exact ⟨hlooks, hes'⟩
        · rintro ⟨hlooks, hrest⟩
          rw [hlooks, Option.bind_some, if_neg (by decide), hrest]
          rfl

/-- More passes than there are bytes left make no difference. -/
lemma searchEx_congr {limit a k m : ℕ} (hk : limit ≤ a + k) (hm : limit ≤ a + m) :
    searchEx bs eid oui limit k a = searchEx bs eid oui limit m a := by
  induction k generalizing a m with
  | zero =>
      rcases m with _ | m
      · rfl
      · rw [searchEx, searchEx, if_pos (by omega)]
  | succ k ih =>
      rcases m with _ | m
      · rw [searchEx, searchEx, if_pos (by omega)]
      · rw [searchEx, searchEx, ih (m := m) (by omega) (by omega)]

lemma le_of_searchEx {limit a k t : ℕ} (h : searchEx bs eid oui limit k a = some (some t)) :
    a ≤ t := by
  induction k generalizing a with
  | zero => cases h
  | succ k ih =>
      rw [searchEx] at h
      split at h
      · cases h
      · split at h
        · cases h
        · cases h
          exact le_rfl
        · exact Nat.le_of_add_right_le (ih h)

lemma searchEx_cons {limit a k : ℕ} {rest : List UInt8} (h : bs.drop a = x.bytes ++ rest)
    (hlimit : a < limit) : searchEx bs eid oui limit (k + 1) a =
      (looksAt eid oui x rest).bind fun hit =>
        if hit then some (some a) else searchEx bs eid oui limit k (a + x.size) := by
  have hlen : lenAt bs a + 2 = x.size := by
    have hdrop : bs.drop (a + 1) = UInt8.ofNat x.data.length :: (x.data ++ rest) := by
      rw [← List.drop_drop, h]
      rfl
    rw [lenAt, getD_eq_of_drop hdrop, Element.toNat_length, Element.size]
  rw [searchEx, if_neg (by omega), ouiMatches_eq h, hlen]
  rcases looksAt eid oui x rest with _ | _ | _ <;> rfl

/-- Elements that are passed make no difference. -/
lemma removeLoop_pass {a k l : ℕ} {ret : Bool} {rest : List UInt8}
    (h : s.ies.drop a = x.bytes ++ rest) (hlooks : looksAt eid oui x rest = some false) :
    removeLoop eid oui k ret s a (x.size + l) = removeLoop eid oui k ret s (a + x.size) l := by
  cases k with
  | zero => rfl
  | succ k =>
      have hsize : x.size = x.data.length + 2 := rfl
      have hsearch : searchEx s.ies eid oui (a + (x.size + l)) (x.size + l + 1) a =
          searchEx s.ies eid oui (a + x.size + l) (l + 1) (a + x.size) := by
        rw [searchEx_cons h (by omega), hlooks, Option.bind_some, if_neg (by decide),
          ← Nat.add_assoc a]
        exact searchEx_congr (by omega) (by omega)
      rw [removeLoop, removeLoop, hsearch]
      rcases hfound : searchEx s.ies eid oui (a + x.size + l) (l + 1) (a + x.size) with
        _ | _ | t
      · rfl
      · rfl
      · have hle := le_of_searchEx hfound
        have hrem : sub32 (x.size + l) (t + (lenAt s.ies t + 2) - a) =
            sub32 l (t + (lenAt s.ies t + 2) - (a + x.size)) := by
          rw [sub32, sub32]
          congr 1
          omega
        dsimp only
        rw [hrem]

/-- What is behind an element moves to its place. -/
lemma drop_moved {a : ℕ} (ha : a ≤ bs.length)
    (h : bs.drop a = x.bytes ++ (encode es ++ tail)) :
    (writeAt bs a (encode es)).take a = bs.take a ∧
      (writeAt bs a (encode es)).drop a = encode es ++ (staleBytes x es ++ tail) := by
  have hfront : (bs.take a).length = a := by rw [List.length_take, Nat.min_eq_left ha]
  have hmoved : writeAt bs a (encode es) =
      bs.take a ++ (encode es ++ (x.bytes ++ (encode es ++ tail)).drop (encode es).length) := by
    rw [writeAt, ← List.drop_drop, h, List.append_assoc]
  constructor
  · rw [hmoved, List.take_left' hfront]
  · rw [hmoved, List.drop_left' hfront, ← List.append_assoc x.bytes,
      List.drop_append_of_le_length (by simp), staleBytes]

/-- The loop from some place of the buffer on. -/
lemma removeLoop_eq (eid : UInt8) (oui : Option (List UInt8)) {a k : ℕ} {b : Bool}
    (hn : s.ies.length < 4294967296) (ha : a ≤ s.ies.length)
    (hdrop : s.ies.drop a = encode es ++ tail)
    (hlen : s.iesLen = a + (encode es).length) (hk : es.length ≤ k) :
    (removeElements eid oui es tail = none →
        removeLoop eid oui k b s a (encode es).length = none) ∧
      ∀ es', removeElements eid oui es tail = some es' →
        ∃ r ∈ removeLoop eid oui k b s a (encode es).length,
          IsIes s.ies.length r.2 (s.ies.take a) es' := by
  induction es generalizing s a k b tail with
  | nil =>
      refine ⟨fun h => (nomatch h), ?_⟩
      rintro es' ⟨⟩
      have hloop : removeLoop eid oui k b s a (encode []).length = some (b, s) := by
        rcases k with _ | k
        · rfl
        · rw [removeLoop, searchEx, if_pos (by simp)]
      refine ⟨(b, s), hloop, rfl, ?_, ?_⟩
      · rw [hlen]
        simpa using ha
      · rw [hlen, encode_nil, List.length_nil, Nat.add_zero, List.append_nil]
  | cons x es ih =>
      obtain ⟨k, rfl⟩ : ∃ m, k = m + 1 := ⟨k - 1, by simp at hk; omega⟩
      have hk' : es.length ≤ k := by simpa using hk
      have hsize : (encode (x :: es)).length = x.size + (encode es).length := by simp
      have hbytes : s.ies.drop a = x.bytes ++ (encode es ++ tail) := by
        rw [hdrop, encode_cons, List.append_assoc]
      have hroom := congrArg List.length hbytes
      rw [List.length_drop, List.length_append, List.length_append, x.length_bytes] at hroom
      have hpos : 0 < x.size := Nat.succ_pos _
      rw [removeElements, hsize]
      rcases hlooks : looksAt eid oui x (encode es ++ tail) with _ | _ | _
      · -- the comparison leaves the buffer
        refine ⟨fun _ => ?_, fun es' h => nomatch h⟩
        rw [removeLoop, searchEx_cons hbytes (by omega), hlooks]
        rfl
      · -- the element stays
        have hnext : s.ies.drop (a + x.size) = encode es ++ tail := by
          rw [← x.length_bytes]
          exact drop_add_of_drop hbytes
        obtain ⟨hnone, hsome⟩ := ih (k := k + 1) (b := b) hn (by omega) hnext (by omega)
          (by omega)
        rw [removeLoop_pass hbytes hlooks, Option.bind_some, if_neg (by decide)]
        constructor
        · exact fun h => hnone (Option.map_eq_none_iff.1 h)
        · intro es' h
          obtain ⟨es'', hes'', rfl⟩ := Option.map_eq_some_iff.1 h
          obtain ⟨r, hr, hies⟩ := hsome es'' hes''
          refine ⟨r, hr, hies.length_ies, hies.le, ?_⟩
          rw [hies.blob, List.take_add, hbytes, ← x.length_bytes, List.take_left,
            List.append_assoc, encode_cons]
      · -- the element is removed
        have hlenAt : lenAt s.ies a + 2 = x.size := by
          have hat : At s.ies a (x :: es) := ⟨tail, hdrop.symm⟩
          rw [hat.lenAt_eq, Element.size]
        have hrem : sub32 (x.size + (encode es).length) (a + x.size - a) = (encode es).length := by
          rw [sub32_of_le (by omega) (by omega)]
          omega
        have hremain : (s.ies.drop (a + x.size)).take (encode es).length = encode es := by
          rw [← x.length_bytes, drop_add_of_drop hbytes, List.take_left]
        have hshorter : sub32 s.iesLen x.size = a + (encode es).length := by
          rw [sub32_of_le (by omega) (by omega)]
          omega
        obtain ⟨htake, hmoved⟩ := drop_moved ha hbytes
        have hkeep : (writeAt s.ies a (encode es)).length = s.ies.length :=
          length_writeAt (by omega)
        have hstep : removeLoop eid oui (k + 1) b s a (x.size + (encode es).length) =
            removeLoop eid oui k true ⟨writeAt s.ies a (encode es), a + (encode es).length⟩ a
              (encode es).length := by
          rw [removeLoop, searchEx_cons hbytes (by omega), hlooks, Option.bind_some, if_pos rfl]
          dsimp only
          rw [hlenAt, hrem, hremain, hshorter]
        have hrest := ih (s := ⟨writeAt s.ies a (encode es), a + (encode es).length⟩) (b := true)
          (by rwa [hkeep]) (by rwa [hkeep]) hmoved rfl hk'
        rw [hkeep, htake] at hrest
        rw [hstep, Option.bind_some, if_pos rfl]
        exact hrest

lemma remove_iff (hn : n < 4294967296) (h : IsIes n s fixed es) :
    RemoveOk n s fixed eid oui es ↔ Told eid oui es (s.ies.drop s.iesLen) := by
  have hlen := h.iesLen_eq
  have hle := h.le
  have hcount := length_le_encode es
  rw [RemoveOk, rtwIesRemoveIe]
  by_cases hguard : s.iesLen ≤ fixed.length
  · -- the guard
    obtain rfl : es = [] := encode_eq_nil.1 (List.length_eq_zero_iff.1 (by omega))
    rw [if_pos hguard]
    exact iff_of_true ⟨_, rfl, h⟩ trivial
  · have hdrop : s.ies.drop fixed.length = encode es ++ s.ies.drop s.iesLen := h.holds.drop_fixed
    obtain ⟨hnone, hsome⟩ := removeLoop_eq eid oui (k := s.iesLen) (b := false)
      (by rwa [h.length_ies]) (by rw [h.length_ies]; omega) hdrop hlen (by omega)
    have hfixed : s.ies.take fixed.length = fixed := h.holds.take_fixed
    rw [if_neg hguard, hlen, Nat.add_sub_cancel_left, ← hlen, ← removeElements_eq_iff]
    constructor
    · rintro ⟨r, hr, hies⟩
      rcases hes : removeElements eid oui es (s.ies.drop s.iesLen) with _ | es'
      · rw [hnone hes] at hr
        cases hr
      · obtain ⟨r', hr', hies'⟩ := hsome es' hes
        obtain rfl := Option.mem_unique hr hr'
        rw [h.length_ies, hfixed] at hies'
        rw [hies.unique hies']
    · intro hes
      obtain ⟨r, hr, hies⟩ := hsome _ hes
      rw [h.length_ies, hfixed] at hies
      exact ⟨r, hr, hies⟩

/-- Each of the three does what it is for exactly under its condition. -/
theorem iesEdit_iff (hmalloc : ∀ k, malloc k = true) (hn : n < 4294967296)
    (h : IsIes n s fixed es) (e : Element) (eid : UInt8) (oui : Option (List UInt8)) :
    ((fixed ++ encode (updateElement e es)).length ≤ n →
        (UpdateOk malloc n s fixed e es ↔ UpdateFits e es)) ∧
      ((fixed ++ encode (addElement e es)).length ≤ n →
        (AddOk malloc n s fixed e es ↔ es ≠ [])) ∧
      (RemoveOk n s fixed eid oui es ↔ Told eid oui es (s.ies.drop s.iesLen)) :=
  ⟨update_iff hmalloc hn h, add_iff hmalloc hn h, remove_iff hn h⟩

/-- An element of one byte. -/
def oneByte (id b : UInt8) : Element := ⟨id, [b], show 1 < 256 by decide⟩

/-- Elements with nothing before them, in a buffer with some zero bytes behind them. -/
def iesOf (es : List Element) : Ies := ⟨encode es ++ List.replicate 4 0, (encode es).length⟩

lemma isIes_iesOf (es : List Element) :
    IsIes ((encode es).length + 4) (iesOf es) [] es :=
  ⟨by simp [iesOf], Nat.le_add_right _ _, List.take_left⟩

/-- The first of two adjacent elements of an id is replaced, by both editors, and both elements are
removed. -/
theorem iesEdit_adjacent :
    let es := [oneByte 0 1, oneByte 1 2, oneByte 1 3, oneByte 5 4]
    UpdateOk (fun _ => true) 16 (iesOf es) [] (oneByte 1 9) es ∧
      AddOk (fun _ => true) 16 (iesOf es) [] (oneByte 1 9) es ∧
      RemoveOk 16 (iesOf es) [] 1 none es := by
  intro es
  have hsize : (encode es).length + 4 = 16 := by decide
  have hblob := isIes_iesOf es
  rw [hsize] at hblob
  have hmalloc : ∀ k, (fun _ : ℕ => true) k = true := fun _ => rfl
  obtain ⟨hupdate, hadd, hremove⟩ := iesEdit_iff hmalloc (by norm_num) hblob (oneByte 1 9) 1 none
  refine ⟨(hupdate (by decide)).2 ?_, (hadd (by decide)).2 (List.cons_ne_nil _ _), hremove.2 ?_⟩
  · rintro x hx
    have hx' : some x = some (oneByte 1 2) := hx.symm.trans (by decide)
    cases hx'
    exact .inl ⟨List.cons_ne_nil _ _, by decide⟩
  · simp [Told, es, matchesOui, oneByte]

/-- An SSID element without data is not filled in, nothing is put in where there are no elements,
and a vendor element of two bytes is taken for a P2P element by what follows it. -/
theorem iesEdit_misled :
    let hidden : Element := ⟨0, [], by decide⟩
    let vendor : Element := ⟨0xDD, [0x50, 0x6F], by decide⟩
    let next : Element := ⟨0x9A, [0, 0, 0, 0, 0, 0, 0, 0, 0], by decide⟩
    let p2p := some [0x50, 0x6F, 0x9A, 0x09]
    (IsIes 6 (iesOf [hidden]) [] [hidden] ∧
        ¬ UpdateOk (fun _ => true) 6 (iesOf [hidden]) [] (oneByte 0 1) [hidden]) ∧
      (IsIes 4 (iesOf []) [] [] ∧ ¬ AddOk (fun _ => true) 4 (iesOf []) [] (oneByte 0 1) []) ∧
      IsIes 19 (iesOf [vendor, next]) [] [vendor, next] ∧
        ¬ RemoveOk 19 (iesOf [vendor, next]) [] 0xDD p2p [vendor, next] := by
  intro hidden vendor next p2p
  have hmalloc : ∀ k, (fun _ : ℕ => true) k = true := fun _ => rfl
  have hhidden : IsIes 6 (iesOf [hidden]) [] [hidden] := isIes_iesOf [hidden]
  have hempty : IsIes 4 (iesOf []) [] [] := isIes_iesOf []
  have hvendor : IsIes 19 (iesOf [vendor, next]) [] [vendor, next] := isIes_iesOf [vendor, next]
  refine ⟨⟨hhidden, fun hok => ?_⟩, ⟨hempty, fun hok => ?_⟩, hvendor, fun hok => ?_⟩
  · rcases (update_iff hmalloc (by norm_num) hhidden (by decide)).1 hok hidden rfl with h | h
    · exact h.1 rfl
    · cases h
  · exact (add_iff hmalloc (by norm_num) hempty (by decide)).1 hok rfl
  · have htold := (remove_iff (by norm_num) hvendor).1 hok
    rw [Told, if_neg (by decide)] at htold
    exact (htold.1 rfl _ rfl).2 (by decide)

end Rtl8723du.Elems
