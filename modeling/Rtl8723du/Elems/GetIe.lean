import Rtl8723du.Lib.Bytes
import Rtl8723du.Lib.Search
import Rtl8723du.Lib.Tlv

/-!
# Searches for an element

`rtw_get_ie`, `rtw_get_ie_ex` and `rtw_get_wpa_ie` of `core/rtw_ieee80211.c` search a string of
information elements.  They look at an element without a check that its header or its body lies
inside the limit, and compare as many bytes of it as they look for, whatever its length says.

A string is what lies inside the limit; what lies behind it is not to be read.
-/

namespace Rtl8723du.Elems

open Lib Lib.Bytes Lib.Tlv Lib.Search

/-! ### The code -/

/-- The value of a signed 32-bit counter. -/
def sint (n : ℤ) : ℤ := n.bmod (2 ^ 32)

/-- A pass of the loop of `rtw_get_ie`, with the offset of `p` and with `i`. -/
def getIePass (pbuf : List UInt8) (index : ℤ) (s : ℕ × ℤ) : Outcome ⊕ (ℕ × ℤ) :=
  match pbuf[s.1]? with
  | none => .inl .outside
  | some id =>
      -- the length byte is read in both branches
      match pbuf[s.1 + 1]? with
      | none => .inl .outside
      | some tmp =>
          if (id.toNat : ℤ) = index then .inl (.found s.1 tmp.toNat)
          else
            let i := sint (s.2 + (tmp.toNat + 2))
            if (pbuf.length : ℤ) ≤ i then .inl .notFound
            else .inr (s.1 + (tmp.toNat + 2), i)

/-- `rtw_get_ie`.  Each pass goes two bytes on at least. -/
def rtwGetIe (pbuf : List UInt8) (index : ℤ) : Outcome :=
  if pbuf.length < 1 then .notFound
  else (Loop.run (getIePass pbuf index) (pbuf.length + 1) (0, 0)).getD .outside

/-- A pass of the same loop with a limit that need not be where the string ends. -/
def getIeToPass (pbuf : List UInt8) (index limit : ℤ) (s : ℕ × ℤ) : Outcome ⊕ (ℕ × ℤ) :=
  match pbuf[s.1]? with
  | none => .inl .outside
  | some id =>
      match pbuf[s.1 + 1]? with
      | none => .inl .outside
      | some tmp =>
          if (id.toNat : ℤ) = index then .inl (.found s.1 tmp.toNat)
          else
            let i := sint (s.2 + (tmp.toNat + 2))
            if limit ≤ i then .inl .notFound
            else .inr (s.1 + (tmp.toNat + 2), i)

/-- `rtw_get_ie` with such a limit. -/
def rtwGetIeTo (pbuf : List UInt8) (index limit : ℤ) : Outcome :=
  if limit < 1 then .notFound
  else (Loop.run (getIeToPass pbuf index limit) (pbuf.length + 1) (0, 0)).getD .outside

/-- The OUI that is looked for, if one is, is what stands there. -/
def ouiMatches (bs : List UInt8) (off : ℕ) (oui : Option (List UInt8)) : Option Bool :=
  match oui with
  | none => some true
  | some oui => (bytesIn bs off oui.length).map (· == oui)

/-- A pass of the loop of `rtw_get_ie_ex`; `ie` and `ielen` say which of the pointers are given. -/
def getIeExPass (inIe : List UInt8) (eid : UInt8) (oui : Option (List UInt8)) (ie ielen : Bool)
    (cnt : ℕ) : Outcome ⊕ ℕ :=
  match inIe[cnt]? with
  | none => .inl .notFound
  | some id =>
      match if eid = id then ouiMatches inIe ((cnt + 2) % 2 ^ 32) oui else some false with
      | none => .inl .outside
      | some true =>
          let len := (inIe.getD (cnt + 1) 0).toNat
          if (ie || ielen) && decide (inIe.length ≤ cnt + 1) then .inl .outside
          else if ie && decide (inIe.length < cnt + (len + 2)) then .inl .outside
          else .inl (.found cnt (len + 2))
      | some false =>
          match inIe[cnt + 1]? with
          | none => .inl .outside
          | some len => .inr ((cnt + (len.toNat + 2)) % 2 ^ 32)

/-- `wpa_oui_type`. -/
def wpaOuiType : List UInt8 := [0x00, 0x50, 0xf2, 0x01]

/-- The tests of `rtw_get_wpa_ie` on a vendor element. -/
def isWpaIe (pie : List UInt8) (pbuf : ℕ) : Option Bool :=
  match bytesIn pie (pbuf + 2) 4 with
  | none => none
  | some oui =>
      if oui ≠ wpaOuiType then some false
      else (bytesIn pie (pbuf + 6) 2).map fun val16 => leNat val16 == 1

/-- What `rtw_get_wpa_ie` does with what `rtw_get_ie` finds from the offset `a` on. -/
def wpaIeHandle (pie : List UInt8) (a : ℕ) : Outcome → Outcome ⊕ ℕ
  | .notFound => .inl .notFound
  | .outside => .inl .outside
  | .found off len =>
      match isWpaIe pie (a + off) with
      | none => .inl .outside
      | some true => .inl (.found (a + off) len)
      | some false =>
          if pie.length ≤ a + off + (2 + len) then .inl .notFound
          else .inr (a + off + (2 + len))

/-- A pass of the loop of `rtw_get_wpa_ie`, with the offset of `pbuf`; `limit_new` is what is left
from there. -/
def wpaIePass (pie : List UInt8) (a : ℕ) : Outcome ⊕ ℕ :=
  wpaIeHandle pie a (rtwGetIe (pie.drop a) 0xDD)

/-! ### What they are for -/

/-- Information elements. -/
def ieFormat : Format where
  hdr := 2
  id bs a := (bs.getD a 0).toNat
  len bs a := (bs.getD (a + 1) 0).toNat
  hdr_pos := by decide

/-- The body of the element at an offset. -/
def body (bs : List UInt8) (a : ℕ) : List UInt8 := (bs.drop (a + 2)).take (ieFormat.len bs a)

/-- The offsets of the elements that lie wholly inside the string. -/
def elements (bs : List UInt8) : List ℕ := ieFormat.records bs 0

/-- Where the last of them ends. -/
def rest (bs : List UInt8) : ℕ := Walk.stop (ieFormat.next bs) bs.length 0

/-- The elements before the first one that is wanted. -/
def before (bs : List UInt8) (want : ℕ → Bool) : List ℕ :=
  (elements bs).takeWhile fun x => !want x

/-- The first element that is wanted, with the length that is reported. -/
def firstIe (bs : List UInt8) (want : ℕ → Bool) (len : ℕ → ℕ) : Outcome :=
  ((elements bs).find? want).elim .notFound fun x => .found x (len x)

/-- The element has the id. -/
def hasId (bs : List UInt8) (index : ℤ) (x : ℕ) : Bool := (ieFormat.id bs x : ℤ) == index

/-- The element has the id, and its body begins with the OUI, if one is looked for. -/
def hasOui (bs : List UInt8) (eid : UInt8) (oui : Option (List UInt8)) (x : ℕ) : Bool :=
  hasId bs eid.toNat x && oui.all fun o => o.isPrefixOf (body bs x)

/-- The element is a WPA element. -/
def isWpa (bs : List UInt8) (x : ℕ) : Bool :=
  hasId bs 0xDD x && (wpaOuiType ++ [1, 0]).isPrefixOf (body bs x)

/-- `rtw_get_ie` ends, reads inside the limit only and returns the first element. -/
def GetIeOk (pbuf : List UInt8) (index : ℤ) : Prop :=
  let r := firstIe pbuf (hasId pbuf index) (ieFormat.len pbuf)
  if pbuf.length < 1 then r = .notFound else Loop.Returns (getIePass pbuf index) (0, 0) r

/-- `rtw_get_ie_ex` ends, reads inside the limit only and returns the first element. -/
def GetIeExOk (inIe : List UInt8) (eid : UInt8) (oui : Option (List UInt8)) (ie ielen : Bool) :
    Prop :=
  Loop.Returns (getIeExPass inIe eid oui ie ielen) 0
    (firstIe inIe (hasOui inIe eid oui) (ieFormat.size inIe))

/-- `rtw_get_wpa_ie` ends, reads inside the limit only and returns the first element. -/
def GetWpaIeOk (pie : List UInt8) : Prop :=
  Loop.Returns (wpaIePass pie) 0 (firstIe pie (isWpa pie) (ieFormat.len pie))

/-! ### When they do it -/

/-- `rtw_get_ie`: if there is no such element, the string ends with an element, or with a part of
one with its header, with another id, and of a length that does not make the counter wrap. -/
def GetIeRest (bs : List UInt8) (index : ℤ) (base t : ℕ) : Prop :=
  t = bs.length ∨ t + 2 ≤ bs.length ∧ hasId bs index t = false ∧
    t - base + ieFormat.size bs t < 2 ^ 31

/-- The element is not taken for one with the OUI: the bytes that are compared are inside, and are
others. -/
def NotOui (bs : List UInt8) (eid : UInt8) (oui : Option (List UInt8)) (x : ℕ) : Prop :=
  hasId bs eid.toNat x = true →
    ∃ o, oui = some o ∧ o ≠ [] ∧ x + 2 + o.length ≤ bs.length ∧ (bs.drop (x + 2)).take o.length ≠ o

/-- From the offset on the search of `rtw_get_ie_ex` comes to the end of the string; its counter
wraps. -/
inductive RunsOut (bs : List UInt8) (eid : UInt8) (oui : Option (List UInt8)) : ℕ → Prop
  | ended {a : ℕ} : bs.length ≤ a → RunsOut bs eid oui a
  | on {a : ℕ} : a + 2 ≤ bs.length → NotOui bs eid oui a →
      RunsOut bs eid oui ((a + ieFormat.size bs a) % 2 ^ 32) → RunsOut bs eid oui a

/-- The vendor element is not taken for a WPA element: the bytes that are compared are inside, and
are others. -/
def NotWpa (bs : List UInt8) (x : ℕ) : Prop :=
  x + 6 ≤ bs.length ∧ ((bs.drop (x + 2)).take 4 = wpaOuiType →
    x + 8 ≤ bs.length ∧ (bs.drop (x + 6)).take 2 ≠ [1, 0])

/-- Where the last search of `rtw_get_ie` begins: behind the last vendor element. -/
def lastBase (bs : List UInt8) (a : ℕ) (xs : List ℕ) : ℕ :=
  xs.foldl (fun a x => if hasId bs 0xDD x then x + ieFormat.size bs x else a) a

/-- `rtw_get_wpa_ie`: a part of a vendor element at the end is not taken for a WPA element. -/
def WpaRest (bs : List UInt8) (base t : ℕ) : Prop :=
  t + 2 ≤ bs.length ∧ hasId bs 0xDD t = true ∧ NotWpa bs t ∨ GetIeRest bs 0xDD base t

/-! ### Elements of the string -/

variable {bs : List UInt8} {a b x k : ℕ} {index i : ℤ} {eid : UInt8} {oui : Option (List UInt8)}
  {ie ielen : Bool}

lemma size_eq : ieFormat.size bs a = 2 + (bs.getD (a + 1) 0).toNat := rfl

lemma next_eq_some : ieFormat.next bs a = some b ↔
    a + ieFormat.size bs a ≤ bs.length ∧ a + ieFormat.size bs a = b := by
  rw [Format.next]
  split
  · next h => simp [h]
  · next h => simp [h]

lemma next_eq_none : ieFormat.next bs a = none ↔ bs.length < a + ieFormat.size bs a := by
  rw [Format.next]
  split
  · next h => simpa using h
  · next h => simpa using h

lemma next_of_length_le (h : bs.length ≤ a) : ieFormat.next bs a = none := by
  rw [next_eq_none, size_eq]
  omega

lemma getElem?_eq (h : a < bs.length) : bs[a]? = some (bs.getD a 0) := by
  rw [List.getD_eq_getElem?_getD, List.getElem?_eq_getElem h]
  rfl

lemma forward : Walk.Forward (ieFormat.next bs) bs.length := Format.next_forward

/-- The counter does not wrap. -/
lemma sint_of_lt (h : 0 ≤ i) (h' : i < 2 ^ 31) : sint i = i := by
  rw [sint, Int.bmod_eq_of_le (by omega) (by omega)]

/-- The counter wraps. -/
lemma sint_of_le (h : 2 ^ 31 ≤ i) (h' : i < 2 ^ 32) : sint i < 0 := by
  rw [sint, Int.bmod]
  omega

/-! ### `rtw_get_ie` -/

/-- A pass from an element whose header is inside. -/
lemma getIeToPass_eq {limit : ℤ} (h : a + 2 ≤ bs.length) : getIeToPass bs index limit (a, i) =
    if hasId bs index a then .inl (.found a (ieFormat.len bs a))
    else if limit ≤ sint (i + ieFormat.size bs a) then .inl .notFound
    else .inr (a + ieFormat.size bs a, sint (i + ieFormat.size bs a)) := by
  have hlen : ieFormat.size bs a = (bs.getD (a + 1) 0).toNat + 2 := Nat.add_comm ..
  rw [getIeToPass]
  simp only [getElem?_eq (show a < bs.length by omega),
    getElem?_eq (show a + 1 < bs.length by omega), hasId, beq_iff_eq, hlen, Nat.cast_add,
    Nat.cast_ofNat]
  rfl

/-- A header that is not inside is read all the same. -/
lemma getIeToPass_outside {limit : ℤ} (h : bs.length < a + 2) :
    getIeToPass bs index limit (a, i) = .inl .outside := by
  rw [getIeToPass]
  simp only [List.getElem?_eq_none (show bs.length ≤ a + 1 by omega)]
  split <;> rfl

/-- Enough passes. -/
lemma exists_run_getIeToPass (limit : ℤ) (k a : ℕ) (i : ℤ) (h : bs.length ≤ k + a) :
    ∃ r, Loop.run (getIeToPass bs index limit) (k + 1) (a, i) = some r := by
  induction k generalizing a i with
  | zero =>
      rw [Loop.run, getIeToPass_outside (by omega)]
      exact ⟨_, rfl⟩
  | succ k ih =>
      rcases hbody : getIeToPass bs index limit (a, i) with r | ⟨a', i'⟩
      · exact ⟨r, by rw [Loop.run, hbody]⟩
      · have ha' : a + 2 ≤ a' := by
          rcases Nat.lt_or_ge bs.length (a + 2) with hout | hin
          · rw [getIeToPass_outside hout] at hbody
            cases hbody
          · rw [getIeToPass_eq hin] at hbody
            split at hbody
            · cases hbody
            · split at hbody
              · cases hbody
              · rw [← (Prod.mk.inj (Sum.inr.inj hbody)).1, size_eq]
                omega
        obtain ⟨r, hr⟩ := ih a' i' (by omega)
        exact ⟨r, by rw [Loop.run, hbody]; exact hr⟩

/-- The limit is where the string ends. -/
lemma getIePass_eq (h : a + 2 ≤ bs.length) : getIePass bs index (a, i) =
    if hasId bs index a then .inl (.found a (ieFormat.len bs a))
    else if (bs.length : ℤ) ≤ sint (i + ieFormat.size bs a) then .inl .notFound
    else .inr (a + ieFormat.size bs a, sint (i + ieFormat.size bs a)) := getIeToPass_eq h

lemma getIePass_outside (h : bs.length < a + 2) :
    getIePass bs index (a, i) = .inl .outside := getIeToPass_outside h

/-- The loop ends, with what the function returns. -/
lemma returns_rtwGetIe (h : 1 ≤ bs.length) :
    Loop.Returns (getIePass bs index) (0, 0) (rtwGetIe bs index) := by
  obtain ⟨r, hr⟩ : ∃ r, Loop.run (getIePass bs index) (bs.length + 1) (0, 0) = some r :=
    exists_run_getIeToPass bs.length bs.length 0 0 (Nat.le_add_right _ _)
  rw [rtwGetIe, if_neg (Nat.not_lt.2 h), hr]
  exact ⟨_, hr⟩

/-- Behind the last element, of another id, the loop ends well exactly if `GetIeRest` says so. -/
lemma getIePass_rest (hbs : bs.length < 2 ^ 31) (ha : a < bs.length)
    (hnext : bs.length < a + ieFormat.size bs a) (hid : hasId bs index a = false) :
    GetIeRest bs index 0 a ∧ Loop.Returns (getIePass bs index) (a, (a : ℤ)) .notFound ∨
      ¬ GetIeRest bs index 0 a ∧ Loop.Returns (getIePass bs index) (a, (a : ℤ)) .outside := by
  have hne : a ≠ bs.length := Nat.ne_of_lt ha
  have hlen := (bs.getD (a + 1) 0).toNat_lt
  have hsize : ieFormat.size bs a = 2 + (bs.getD (a + 1) 0).toNat := rfl
  rw [GetIeRest, or_iff_right hne, Nat.sub_zero]
  rcases Nat.lt_or_ge bs.length (a + 2) with hout | hin
  · refine .inr ⟨fun h => absurd h.1 (by omega), ?_⟩
    exact (Loop.returns_iff_of_inl (getIePass_outside hout)).2 rfl
  · have hpass := (getIePass_eq (i := (a : ℤ)) hin).trans (if_neg (Bool.eq_false_iff.1 hid))
    by_cases hwrap : a + ieFormat.size bs a < 2 ^ 31
    · rw [sint_of_lt (by omega) (by omega), if_pos (by omega)] at hpass
      exact .inl ⟨⟨hin, hid, hwrap⟩, (Loop.returns_iff_of_inl hpass).2 rfl⟩
    · -- the counter is negative, and the next pass reads behind the string
      have hneg := sint_of_le (i := (a : ℤ) + ieFormat.size bs a) (by omega) (by omega)
      rw [if_neg (by omega)] at hpass
      refine .inr ⟨fun h => hwrap h.2.2, (Loop.returns_iff_of_inr hpass).2 ?_⟩
      exact (Loop.returns_iff_of_inl (getIePass_outside (by omega))).2 rfl

/-- The loop of `rtw_get_ie` searches the elements. -/
lemma searches_getIe (hbs : bs.length < 2 ^ 31) :
    Searches (ieFormat.next bs) (getIePass bs index)
      (fun s => s.2 = (s.1 : ℤ) ∧ s.1 < bs.length) Prod.fst (hasId bs index) (fun _ => True)
      (fun x => .found x (ieFormat.len bs x)) .notFound
      fun s => GetIeRest bs index 0 (Walk.stop (ieFormat.next bs) bs.length s.1) where
  hits := by
    rintro ⟨p, i⟩ b - hnext hhit
    obtain ⟨hfits, -⟩ := next_eq_some.1 hnext
    rw [size_eq] at hfits
    rw [getIePass_eq (by omega), if_pos hhit]
  passes := by
    rintro ⟨p, i⟩ b ⟨hi, hp⟩ hnext hhit -
    obtain rfl : i = p := hi
    have hstop := forward.stop_of_some hnext
    obtain ⟨hfits, rfl⟩ := next_eq_some.1 hnext
    have hsize : ieFormat.size bs p = 2 + (bs.getD (p + 1) 0).toNat := rfl
    simp only at hfits hp
    have hin : p + 2 ≤ bs.length := by omega
    have hpass := (getIePass_eq (i := (p : ℤ)) hin).trans (if_neg (Bool.eq_false_iff.1 hhit))
    rw [sint_of_lt (by omega) (by omega)] at hpass
    by_cases hend : bs.length ≤ p + ieFormat.size bs p
    · right
      rw [if_pos (by omega)] at hpass
      have hlast : ieFormat.next bs (p + ieFormat.size bs p) = none :=
        next_of_length_le hend
      refine ⟨hpass, hlast, .inl ?_⟩
      show Walk.stop _ _ p = _
      rw [hstop, Walk.stop_of_none hlast]
      exact Nat.le_antisymm hfits hend
    · left
      rw [if_neg (by omega)] at hpass
      refine ⟨_, hpass, ⟨(Nat.cast_add ..).symm, Nat.not_le.1 hend⟩, rfl, ?_⟩
      show GetIeRest _ _ _ (Walk.stop _ _ p) ↔ _
      rw [hstop]
  misled _ _ _ _ _ hbad := absurd trivial hbad
  ends := by
    rintro ⟨p, i⟩ ⟨hi, hp⟩ hnone
    obtain rfl : i = p := hi
    have hnext := next_eq_none.1 hnone
    show _ ↔ GetIeRest _ _ _ (Walk.stop _ _ p)
    rw [Walk.stop_of_none hnone]
    rcases hid : hasId bs index p
    · rcases getIePass_rest hbs hp hnext hid with ⟨hok, hret⟩ | ⟨hok, hret⟩
      · exact iff_of_true hret hok
      · exact iff_of_false (fun h => nomatch hret.unique h) hok
    · refine iff_of_false (fun hret => ?_) fun hok => ?_
      · rcases Nat.lt_or_ge bs.length (p + 2) with hout | hin
        · rw [Loop.returns_iff_of_inl (getIePass_outside hout)] at hret
          cases hret
        · rw [Loop.returns_iff_of_inl ((getIePass_eq hin).trans (if_pos hid))] at hret
          cases hret
      · rcases hok with hend | ⟨-, hother, -⟩
        · exact absurd hend (Nat.ne_of_lt hp)
        · rw [hid] at hother
          cases hother

/-- `rtw_get_ie` keeps to the limit and finds the first element exactly if the string, when it has
no such element, does not end badly. -/
lemma getIeOk_iff (hbs : bs.length < 2 ^ 31) : GetIeOk bs index ↔
    ((elements bs).find? (hasId bs index) = none → GetIeRest bs index 0 (rest bs)) := by
  rw [GetIeOk]
  split
  · next hempty =>
      obtain rfl : bs = [] := List.length_eq_zero_iff.1 (by omega)
      exact iff_of_true rfl fun _ => .inl rfl
  · next hne =>
      have hinv : ((0 : ℤ) = ((0 : ℕ) : ℤ)) ∧ 0 < bs.length := ⟨rfl, by omega⟩
      refine (returns_first_iff forward (searches_getIe hbs) (s := (0, 0)) hinv).trans ?_
      exact and_iff_right fun _ _ => trivial

/-! ### `rtw_get_ie_ex` -/

/-- Bytes that are compared are inside, and are others. -/
lemma ouiMatches_eq_false {off : ℕ} : ouiMatches bs off oui = some false ↔
    ∃ o, oui = some o ∧ o ≠ [] ∧ off + o.length ≤ bs.length ∧ (bs.drop off).take o.length ≠ o := by
  rcases oui with _ | o
  · exact iff_of_false nofun nofun
  · rw [ouiMatches, bytesIn]
    by_cases hnil : o = []
    · simp [hnil]
    · rw [if_neg (by simpa using hnil)]
      split
      · next hin => simp [hnil, hin]
      · next hout => simp [hout]

lemma ouiMatches_of_isPrefixOf {len off : ℕ} (hin : off + len ≤ bs.length)
    (h : oui.all (fun o => o.isPrefixOf ((bs.drop off).take len)) = true) :
    ouiMatches bs off oui = some true := by
  rcases oui with _ | o
  · rfl
  · have hpre : o <+: (bs.drop off).take len := List.isPrefixOf_iff_prefix.1 h
    have hlen := hpre.length_le
    rw [List.length_take, List.length_drop] at hlen
    have ho : o = (bs.drop off).take o.length := by
      have heq := List.prefix_iff_eq_take.1 hpre
      rwa [List.take_take, Nat.min_eq_left (by omega)] at heq
    rw [ouiMatches, bytesIn]
    split
    · next hzero => simp [List.length_eq_zero_iff.1 hzero]
    · rw [if_pos (by omega), ← ho]
      simp

/-- The comparison of an element that is not taken for one with the OUI. -/
lemma notOui_iff : NotOui bs eid oui a ↔
    (if eid = bs.getD a 0 then ouiMatches bs (a + 2) oui else some false) = some false := by
  have hid : hasId bs eid.toNat a = true ↔ eid = bs.getD a 0 := by
    rw [hasId, beq_iff_eq, Nat.cast_inj, eq_comm, ← UInt8.toNat_inj]
    rfl
  rw [NotOui, hid]
  split
  · next heq => rw [forall_prop_of_true heq, ouiMatches_eq_false]
  · next hne => exact iff_of_true (fun h => absurd h hne) rfl

/-- A pass goes on from an element that is not taken for one with the OUI; at any other it
returns something. -/
lemma getIeExPass_cases (hbs : bs.length < 2 ^ 32) (ha : a < bs.length) :
    (a + 2 ≤ bs.length ∧ NotOui bs eid oui a ∧ getIeExPass bs eid oui ie ielen a =
      .inr ((a + ieFormat.size bs a) % 2 ^ 32)) ∨
    ¬ (a + 2 ≤ bs.length ∧ NotOui bs eid oui a) ∧
      ∃ r, getIeExPass bs eid oui ie ielen a = .inl r ∧ r ≠ .notFound ∧
        ∀ x len, x ≠ a → r ≠ .found x len := by
  have hmod (hin : a + 2 ≤ bs.length) : (a + 2) % 2 ^ 32 = a + 2 := Nat.mod_eq_of_lt (by omega)
  rw [getIeExPass]
  simp only [getElem?_eq ha]
  rcases hmatch : (if eid = bs.getD a 0 then ouiMatches bs ((a + 2) % 2 ^ 32) oui
    else some false) with _ | _ | _
  · refine .inr ⟨fun h => ?_, _, rfl, nofun, nofun⟩
    rw [notOui_iff, ← hmod h.1, hmatch] at h
    cases h.2
  · by_cases hin : a + 2 ≤ bs.length
    · left
      simp only [getElem?_eq (show a + 1 < bs.length by omega), size_eq, Nat.add_comm 2]
      rw [hmod hin] at hmatch
      exact ⟨hin, notOui_iff.2 hmatch, trivial⟩
    · right
      simp only [List.getElem?_eq_none (show bs.length ≤ a + 1 by omega)]
      exact ⟨fun h => hin h.1, _, rfl, nofun, nofun⟩
  · refine .inr ⟨fun h => ?_, ?_⟩
    · rw [notOui_iff, ← hmod h.1, hmatch] at h
      cases h.2
    · simp only
      split
      · exact ⟨_, rfl, nofun, nofun⟩
      · split
        · exact ⟨_, rfl, nofun, nofun⟩
        · exact ⟨_, rfl, nofun, fun x len hne heq => hne (Outcome.found.inj heq).1.symm⟩

/-- An element with the OUI that is wholly inside is returned, with its size. -/
lemma getIeExPass_of_hasOui (hbs : bs.length < 2 ^ 32) (hin : a + ieFormat.size bs a ≤ bs.length)
    (h : hasOui bs eid oui a = true) :
    getIeExPass bs eid oui ie ielen a = .inl (.found a (ieFormat.size bs a)) := by
  obtain ⟨hid, houi⟩ := Bool.and_eq_true_iff.1 h
  rw [hasId, beq_iff_eq, Nat.cast_inj] at hid
  have heq : eid = bs.getD a 0 := UInt8.toNat_inj.1 hid.symm
  have hlen : (bs.getD (a + 1) 0).toNat + 2 = ieFormat.size bs a := Nat.add_comm ..
  have hmod : (a + 2) % 2 ^ 32 = a + 2 := Nat.mod_eq_of_lt (by omega)
  rw [getIeExPass, hmod]
  simp only [getElem?_eq (show a < bs.length by omega), if_pos heq]
  rw [ouiMatches_of_isPrefixOf (by rw [size_eq] at hin; simp only [ieFormat]; omega) houi]
  simp only [hlen]
  rw [decide_eq_false (by omega), decide_eq_false (by omega), Bool.and_false, Bool.and_false]
  rfl

/-- Without an element the loop comes to the end exactly if `RunsOut` says so. -/
lemma returns_getIeExPass_notFound (hbs : bs.length < 2 ^ 32) :
    Loop.Returns (getIeExPass bs eid oui ie ielen) a .notFound ↔ RunsOut bs eid oui a := by
  have hended {a : ℕ} (ha : bs.length ≤ a) :
      getIeExPass bs eid oui ie ielen a = .inl .notFound := by
    rw [getIeExPass]
    simp only [List.getElem?_eq_none ha]
  constructor
  · rintro ⟨k, hk⟩
    induction k generalizing a with
    | zero => cases hk
    | succ k ih =>
        rcases Nat.lt_or_ge a bs.length with ha | ha
        · rcases getIeExPass_cases hbs ha with ⟨hin, hnot, hpass⟩ | ⟨-, r, hpass, hr, -⟩
          · rw [Loop.run, hpass] at hk
            exact .on hin hnot (ih hk)
          · rw [Loop.run, hpass] at hk
            exact absurd (Option.some.inj hk) hr
        · exact .ended ha
  · intro h
    induction h with
    | ended ha => exact (Loop.returns_iff_of_inl (hended ha)).2 rfl
    | @on a hin hnot _ ih =>
        rcases getIeExPass_cases hbs (show a < bs.length by omega) with ⟨-, -, hpass⟩ | ⟨hbad, -⟩
        · exact (Loop.returns_iff_of_inr hpass).2 ih
        · exact absurd ⟨hin, hnot⟩ hbad

/-- The loop of `rtw_get_ie_ex` searches the elements. -/
lemma searches_getIeEx (hbs : bs.length < 2 ^ 32) :
    Searches (ieFormat.next bs) (getIeExPass bs eid oui ie ielen) (fun _ => True) id
      (hasOui bs eid oui) (NotOui bs eid oui) (fun x => .found x (ieFormat.size bs x)) .notFound
      fun a => RunsOut bs eid oui (Walk.stop (ieFormat.next bs) bs.length a) where
  hits a b _ hnext hhit := getIeExPass_of_hasOui hbs (next_eq_some.1 hnext).1 hhit
  passes := by
    intro a b _ hnext _ hgood
    left
    have hstop := forward.stop_of_some hnext
    obtain ⟨hfits, rfl⟩ := next_eq_some.1 hnext
    simp only [id] at hfits hstop
    have hsize : ieFormat.size bs a = 2 + (bs.getD (a + 1) 0).toNat := rfl
    rcases getIeExPass_cases hbs (show a < bs.length by omega) with ⟨-, -, hpass⟩ | ⟨hbad, -⟩
    · rw [Nat.mod_eq_of_lt (by omega)] at hpass
      exact ⟨_, hpass, trivial, rfl, by rw [hstop]⟩
    · exact absurd ⟨by omega, hgood⟩ hbad
  misled := by
    intro a b _ hnext hhit hgood
    obtain ⟨hfits, -⟩ := next_eq_some.1 hnext
    simp only [id] at hfits
    have hsize : ieFormat.size bs a = 2 + (bs.getD (a + 1) 0).toNat := rfl
    rcases getIeExPass_cases hbs (show a < bs.length by omega) with
      ⟨-, hnot, -⟩ | ⟨-, r, hpass, hr, hx⟩
    · exact absurd hnot hgood
    · refine ⟨r, hpass, hr, fun x hhitx => hx x _ ?_⟩
      rintro rfl
      exact Bool.false_ne_true (hhit.symm.trans hhitx)
  ends := by
    intro a _ hnone
    have hstop : Walk.stop (ieFormat.next bs) bs.length a = a := Walk.stop_of_none hnone
    rw [hstop, returns_getIeExPass_notFound hbs]

/-- `rtw_get_ie_ex` keeps to the limit and finds the first element exactly if it takes no element
before it for one, and, when there is none, comes to the end of the string. -/
lemma getIeExOk_iff (hbs : bs.length < 2 ^ 32) : GetIeExOk bs eid oui ie ielen ↔
    (∀ x ∈ before bs (hasOui bs eid oui), NotOui bs eid oui x) ∧
      ((elements bs).find? (hasOui bs eid oui) = none → RunsOut bs eid oui (rest bs)) :=
  returns_first_iff forward (searches_getIeEx hbs) (s := 0) trivial

/-! ### `rtw_get_wpa_ie` -/

lemma getD_drop (n k : ℕ) : (bs.drop n).getD k 0 = bs.getD (n + k) 0 := by
  rw [List.getD_eq_getElem?_getD, List.getElem?_drop, List.getD_eq_getElem?_getD]

lemma len_drop (n k : ℕ) : ieFormat.len (bs.drop n) k = ieFormat.len bs (n + k) :=
  congrArg UInt8.toNat (getD_drop n (k + 1))

lemma size_drop (n k : ℕ) : ieFormat.size (bs.drop n) k = ieFormat.size bs (n + k) :=
  congrArg (2 + ·) (len_drop n k)

lemma hasId_drop (n k : ℕ) : hasId (bs.drop n) index k = hasId bs index (n + k) :=
  congrArg (fun id : UInt8 => (id.toNat : ℤ) == index) (getD_drop n k)

lemma getIeRest_drop {n : ℕ} (hn : n < bs.length) :
    GetIeRest (bs.drop n) index 0 k ↔ GetIeRest bs index n (n + k) := by
  have hend : k = (bs.drop n).length ↔ n + k = bs.length := by
    rw [List.length_drop]
    omega
  have hin : k + 2 ≤ (bs.drop n).length ↔ n + k + 2 ≤ bs.length := by
    rw [List.length_drop]
    omega
  rw [GetIeRest, GetIeRest, hend, hin, hasId_drop, size_drop, Nat.sub_zero,
    Nat.add_sub_cancel_left]

/-- Two bytes that are the number one. -/
lemma leNat_beq_one {xs : List UInt8} (h : xs.length = 2) : (leNat xs == 1) = (xs == [1, 0]) := by
  obtain ⟨x, y, rfl⟩ := List.length_eq_two.1 h
  have hx := x.toNat_lt
  have hy := y.toNat_lt
  rw [Bool.eq_iff_iff, beq_iff_eq, beq_iff_eq]
  simp only [leNat, List.cons.injEq, and_true, ← UInt8.toNat_inj, UInt8.reduceToNat]
  omega

/-- The tests of a vendor element whose OUI is inside. -/
lemma isWpaIe_eq (h : x + 6 ≤ bs.length) : isWpaIe bs x =
    if (bs.drop (x + 2)).take 4 ≠ wpaOuiType then some false
    else if x + 8 ≤ bs.length then some ((bs.drop (x + 6)).take 2 == [1, 0]) else none := by
  rw [isWpaIe, bytesIn, if_neg (by decide), if_pos (by omega), bytesIn, if_neg (by decide)]
  simp only
  split
  · rfl
  · split
    · next hin =>
        have hlen : ((bs.drop (x + 6)).take 2).length = 2 := by
          rw [List.length_take, List.length_drop]
          omega
        simp only [Option.map_some, leNat_beq_one hlen]
    · rfl

lemma notWpa_iff : NotWpa bs x ↔ isWpaIe bs x = some false := by
  rw [NotWpa]
  by_cases hin : x + 6 ≤ bs.length
  · rw [isWpaIe_eq hin]
    split
    · next hne => exact iff_of_true ⟨hin, fun heq => absurd heq hne⟩ rfl
    · next heq =>
        rw [not_not] at heq
        split
        · next hval => simp [hin, heq, hval]
        · next hval => exact iff_of_false (fun h => hval (h.2 heq).1) fun h => by cases h
  · refine iff_of_false (fun h => hin h.1) ?_
    rw [isWpaIe, bytesIn, if_neg (by decide), if_neg (by omega)]
    intro h
    cases h

/-- A WPA element that is wholly inside passes the tests. -/
lemma isWpaIe_of_isWpa (hin : x + ieFormat.size bs x ≤ bs.length) (h : isWpa bs x = true) :
    isWpaIe bs x = some true := by
  obtain ⟨-, hbody⟩ := Bool.and_eq_true_iff.1 h
  have hpre : wpaOuiType ++ [1, 0] <+: body bs x := List.isPrefixOf_iff_prefix.1 hbody
  have hlen : 6 ≤ ieFormat.len bs x := by
    have hle := hpre.length_le
    rw [body, List.length_take] at hle
    exact Nat.le_trans hle (Nat.min_le_left _ _)
  have hsix : (bs.drop (x + 2)).take 6 = wpaOuiType ++ [1, 0] := by
    have heq := List.prefix_iff_eq_take.1 hpre
    rw [body, List.take_take] at heq
    rw [heq]
    congr 1
    exact (Nat.min_eq_left hlen).symm
  have hfour : (bs.drop (x + 2)).take 4 = wpaOuiType := by
    have htake := congrArg (List.take 4) hsix
    rwa [List.take_take] at htake
  have htwo : (bs.drop (x + 6)).take 2 = [1, 0] := by
    have hdrop := congrArg (List.drop 4) hsix
    rwa [List.drop_take, List.drop_drop] at hdrop
  have hsize : ieFormat.size bs x = 2 + ieFormat.len bs x := rfl
  rw [isWpaIe_eq (by omega), if_neg (not_not.2 hfour), if_pos (by omega), htwo]
  rfl

/-- The searches of `rtw_get_ie` and what is done between them, as one loop: where the search
begins, and the state of the search. -/
def wpaIeFlat (bs : List UInt8) : ℕ × (ℕ × ℤ) → Outcome ⊕ (ℕ × (ℕ × ℤ)) :=
  flat (fun a => getIePass (bs.drop a) 0xDD) (wpaIeHandle bs) fun _ => (0, 0)

lemma returns_wpaIeFlat {r : Outcome} (ha : a < bs.length) :
    Loop.Returns (wpaIePass bs) a r ↔ Loop.Returns (wpaIeFlat bs) (a, (0, 0)) r := by
  refine returns_nested (P := (· < bs.length)) (fun a ha => ⟨_, returns_rtwGetIe ?_, rfl⟩)
    (fun a q a' _ hstep => ?_) ha
  · rw [List.length_drop]
    omega
  · -- the search goes on from a place that is inside
    rcases q with _ | ⟨off, len⟩ | _
    · cases hstep
    · rw [wpaIeHandle] at hstep
      split at hstep
      · cases hstep
      · cases hstep
      · split at hstep
        · cases hstep
        · next hin =>
            rw [← Sum.inr.inj hstep]
            exact Nat.not_le.1 hin
    · cases hstep

/-- What follows a search. -/
lemma returns_wpaIeFlat_iff {s : ℕ × ℤ} {q r : Outcome}
    (hq : Loop.Returns (getIePass (bs.drop a) 0xDD) s q) :
    Loop.Returns (wpaIeFlat bs) (a, s) r ↔ (wpaIeHandle bs a q).elim (fun r' => r = r') fun a' =>
      Loop.Returns (wpaIeFlat bs) (a', (0, 0)) r := by
  rw [wpaIeFlat]
  exact returns_flat_iff hq

/-- A pass at an element of another id. -/
lemma wpaIeFlat_of_ne (hin : a + k + 2 ≤ bs.length) (hid : hasId bs 0xDD (a + k) = false) :
    wpaIeFlat bs (a, (k, i)) =
      if ((bs.length - a : ℕ) : ℤ) ≤ sint (i + ieFormat.size bs (a + k)) then .inl .notFound
      else .inr (a, (k + ieFormat.size bs (a + k), sint (i + ieFormat.size bs (a + k)))) := by
  have hdrop : k + 2 ≤ (bs.drop a).length := by
    rw [List.length_drop]
    omega
  rw [wpaIeFlat, flat, getIePass_eq hdrop, hasId_drop, hid, size_drop, List.length_drop]
  simp only [Bool.false_eq_true, if_false]
  by_cases hend : ((bs.length - a : ℕ) : ℤ) ≤ sint (i + ieFormat.size bs (a + k))
  · simp only [if_pos hend]
    rfl
  · simp only [if_neg hend]

/-- A pass at a vendor element. -/
lemma wpaIeFlat_of_eq (hin : a + k + 2 ≤ bs.length) (hid : hasId bs 0xDD (a + k) = true) :
    wpaIeFlat bs (a, (k, i)) =
      match isWpaIe bs (a + k) with
      | none => .inl .outside
      | some true => .inl (.found (a + k) (ieFormat.len bs (a + k)))
      | some false =>
          if bs.length ≤ a + k + ieFormat.size bs (a + k) then .inl .notFound
          else .inr (a + k + ieFormat.size bs (a + k), (0, 0)) := by
  have hdrop : k + 2 ≤ (bs.drop a).length := by
    rw [List.length_drop]
    omega
  rw [wpaIeFlat, flat, getIePass_eq hdrop, hasId_drop, hid, if_pos rfl, len_drop]
  simp only [wpaIeHandle]
  split
  · rfl
  · rfl
  · show (if bs.length ≤ a + k + ieFormat.size bs (a + k) then _ else _ : Outcome ⊕ ℕ).map _ _ = _
    split <;> rfl

lemma wpaIeFlat_outside (hout : bs.length < a + k + 2) :
    wpaIeFlat bs (a, (k, i)) = .inl .outside := by
  have hdrop : (bs.drop a).length < k + 2 := by
    rw [List.length_drop]
    omega
  rw [wpaIeFlat, flat, getIePass_outside hdrop]
  rfl

lemma lastBase_cons {xs : List ℕ} : lastBase bs a (x :: xs) =
    if hasId bs 0xDD x then lastBase bs (x + ieFormat.size bs x) xs else lastBase bs a xs := by
  rw [lastBase, List.foldl_cons]
  split <;> rfl

/-- What `rtw_get_wpa_ie` may meet behind the last element, in the state of its loops. -/
def wpaEnd (bs : List UInt8) (s : ℕ × (ℕ × ℤ)) : Prop :=
  WpaRest bs (lastBase bs s.1 (ieFormat.records bs (s.1 + s.2.1)))
    (Walk.stop (ieFormat.next bs) bs.length (s.1 + s.2.1))

/-- Behind the last element. -/
lemma returns_wpaIeFlat_rest (hbs : bs.length < 2 ^ 31) (ha : a + k < bs.length)
    (hnext : bs.length < a + k + ieFormat.size bs (a + k)) :
    Loop.Returns (wpaIeFlat bs) (a, (k, (k : ℤ))) .notFound ↔ WpaRest bs a (a + k) := by
  have hne : a + k ≠ bs.length := Nat.ne_of_lt ha
  rw [WpaRest]
  rcases hid : hasId bs 0xDD (a + k)
  · rw [or_iff_right (by simp), ← getIeRest_drop (by omega)]
    have hrest := getIePass_rest (by rw [List.length_drop]; omega)
      (by rw [List.length_drop]; omega) (by rw [List.length_drop, size_drop]; omega)
      ((hasId_drop a k).trans hid)
    rcases hrest with ⟨hok, hret⟩ | ⟨hok, hret⟩
    · rw [returns_wpaIeFlat_iff hret]
      exact iff_of_true rfl hok
    · rw [returns_wpaIeFlat_iff hret]
      exact iff_of_false nofun hok
  · have hother : ¬ GetIeRest bs 0xDD a (a + k) := by
      rintro (hend | ⟨-, hid', -⟩)
      · exact hne hend
      · rw [hid] at hid'
        cases hid'
    rw [or_iff_left hother]
    rcases Nat.lt_or_ge bs.length (a + k + 2) with hout | hin
    · rw [Loop.returns_iff_of_inl (wpaIeFlat_outside hout)]
      exact iff_of_false nofun fun h => absurd h.1 (by omega)
    · have hpass := wpaIeFlat_of_eq (i := (k : ℤ)) hin hid
      rw [notWpa_iff]
      rcases hwpa : isWpaIe bs (a + k) with _ | _ | _
      · rw [hwpa] at hpass
        rw [Loop.returns_iff_of_inl hpass]
        exact iff_of_false nofun fun h => nomatch h.2.2
      · rw [hwpa] at hpass
        rw [Loop.returns_iff_of_inl (hpass.trans (if_pos (by omega)))]
        exact iff_of_true rfl ⟨hin, rfl, rfl⟩
      · rw [hwpa] at hpass
        rw [Loop.returns_iff_of_inl hpass]
        exact iff_of_false nofun fun h => nomatch h.2.2

/-- The loops of `rtw_get_wpa_ie` search the elements. -/
lemma searches_getWpaIe (hbs : bs.length < 2 ^ 31) :
    Searches (ieFormat.next bs) (wpaIeFlat bs)
      (fun s => s.2.2 = (s.2.1 : ℤ) ∧ s.1 + s.2.1 < bs.length) (fun s => s.1 + s.2.1) (isWpa bs)
      (fun x => hasId bs 0xDD x = true → NotWpa bs x) (fun x => .found x (ieFormat.len bs x))
      .notFound (wpaEnd bs) where
  hits := by
    rintro ⟨a, k, i⟩ b - hnext hhit
    obtain ⟨hfits, -⟩ := next_eq_some.1 hnext
    simp only at hfits hhit
    have hid : hasId bs 0xDD (a + k) = true := (Bool.and_eq_true_iff.1 hhit).1
    rw [wpaIeFlat_of_eq (by rw [size_eq] at hfits; omega) hid, isWpaIe_of_isWpa hfits hhit]
  passes := by
    rintro ⟨a, k, i⟩ b ⟨hi, hk⟩ hnext - hgood
    obtain rfl : i = k := hi
    obtain ⟨hfits, rfl⟩ := next_eq_some.1 hnext
    simp only at hfits hk hgood hnext
    have hstop := forward.stop_of_some hnext
    have hrec := forward.records_of_some hnext
    have hsize : ieFormat.size bs (a + k) = 2 + (bs.getD (a + k + 1) 0).toNat := rfl
    have hin : a + k + 2 ≤ bs.length := by omega
    -- where the next element is not inside the string is at its end
    have hlast (hend : bs.length ≤ a + k + ieFormat.size bs (a + k)) :
        ieFormat.next bs (a + k + ieFormat.size bs (a + k)) = none ∧
          wpaEnd bs (a, (k, (k : ℤ))) := by
      have hnone := next_of_length_le hend
      refine ⟨hnone, .inr (.inl ?_)⟩
      show Walk.stop _ _ (a + k) = _
      rw [hstop, Walk.stop_of_none hnone]
      exact Nat.le_antisymm hfits hend
    rcases hid : hasId bs 0xDD (a + k)
    · have hpass := wpaIeFlat_of_ne (i := (k : ℤ)) hin hid
      rw [sint_of_lt (by omega) (by omega)] at hpass
      by_cases hend : bs.length ≤ a + k + ieFormat.size bs (a + k)
      · exact .inr ⟨hpass.trans (if_pos (by omega)), hlast hend⟩
      · refine .inl ⟨_, hpass.trans (if_neg (by omega)), ⟨(Nat.cast_add ..).symm, ?_⟩, ?_, ?_⟩
        · show a + (k + _) < _
          omega
        · exact (Nat.add_assoc ..).symm
        · show WpaRest bs (lastBase bs a (Walk.records _ _ (a + k))) (Walk.stop _ _ (a + k)) ↔ _
          rw [hstop, hrec, lastBase_cons, hid, wpaEnd, Format.records, ← Nat.add_assoc]
          rfl
    · have hpass := wpaIeFlat_of_eq (i := (k : ℤ)) hin hid
      rw [notWpa_iff.1 (hgood hid)] at hpass
      by_cases hend : bs.length ≤ a + k + ieFormat.size bs (a + k)
      · exact .inr ⟨hpass.trans (if_pos hend), hlast hend⟩
      · refine .inl ⟨_, hpass.trans (if_neg hend), ⟨rfl, Nat.not_le.1 hend⟩, rfl, ?_⟩
        show WpaRest bs (lastBase bs a (Walk.records _ _ (a + k))) (Walk.stop _ _ (a + k)) ↔ _
        rw [hstop, hrec, lastBase_cons, hid]
        rfl
  misled := by
    rintro ⟨a, k, i⟩ b - hnext hhit hgood
    obtain ⟨hfits, -⟩ := next_eq_some.1 hnext
    simp only at hfits hhit hgood
    rw [Classical.not_imp, notWpa_iff] at hgood
    obtain ⟨hid, hwpa⟩ := hgood
    have hpass := wpaIeFlat_of_eq (i := i) (by rw [size_eq] at hfits; omega) hid
    rcases hval : isWpaIe bs (a + k) with _ | _ | _
    · rw [hval] at hpass
      exact ⟨_, hpass, (fun h => by cases h), fun x hx h => by cases h⟩
    · exact absurd hval hwpa
    · rw [hval] at hpass
      refine ⟨_, hpass, (fun h => by cases h), fun x hx heq => ?_⟩
      rw [← (Outcome.found.inj heq).1, hhit] at hx
      cases hx
  ends := by
    rintro ⟨a, k, i⟩ ⟨hi, hk⟩ hnone
    obtain rfl : i = k := hi
    simp only at hk hnone
    rw [returns_wpaIeFlat_rest hbs hk (next_eq_none.1 hnone), wpaEnd]
    simp only [Format.records, Walk.records_of_none hnone, Walk.stop_of_none hnone]
    rfl

/-- `rtw_get_wpa_ie` keeps to the limit and finds the first WPA element exactly if it takes no
vendor element before it for one, and the string, when there is none, does not end badly. -/
lemma getWpaIeOk_iff (hbs : bs.length < 2 ^ 31) : GetWpaIeOk bs ↔
    (∀ x ∈ before bs (isWpa bs), hasId bs 0xDD x = true → NotWpa bs x) ∧
      ((elements bs).find? (isWpa bs) = none →
        WpaRest bs (lastBase bs 0 (elements bs)) (rest bs)) := by
  rw [GetWpaIeOk]
  by_cases hempty : bs.length = 0
  · obtain rfl : bs = [] := List.length_eq_zero_iff.1 hempty
    exact iff_of_true ⟨1, rfl⟩ ⟨nofun, fun _ => .inr (.inl rfl)⟩
  · have hpos : 0 < bs.length := Nat.pos_of_ne_zero hempty
    have hinv : ((0 : ℤ) = ((0 : ℕ) : ℤ)) ∧ 0 + 0 < bs.length := ⟨rfl, hpos⟩
    rw [returns_wpaIeFlat hpos]
    exact returns_first_iff forward (searches_getWpaIe hbs) (s := (0, (0, 0))) hinv

/-! ### The three searches -/

/-- When the searches end, keep to the limit and find the first element that is wholly inside it. -/
theorem ieSearch_iff (pbuf inIe pie : List UInt8) (hpbuf : pbuf.length < 2 ^ 31)
    (hinIe : inIe.length < 2 ^ 32) (hpie : pie.length < 2 ^ 31) (index : ℤ) (eid : UInt8)
    (oui : Option (List UInt8)) (ie ielen : Bool) :
    (GetIeOk pbuf index ↔
      ((elements pbuf).find? (hasId pbuf index) = none → GetIeRest pbuf index 0 (rest pbuf))) ∧
    (GetIeExOk inIe eid oui ie ielen ↔
      (∀ x ∈ before inIe (hasOui inIe eid oui), NotOui inIe eid oui x) ∧
        ((elements inIe).find? (hasOui inIe eid oui) = none → RunsOut inIe eid oui (rest inIe))) ∧
    (GetWpaIeOk pie ↔
      (∀ x ∈ before pie (isWpa pie), hasId pie 0xDD x = true → NotWpa pie x) ∧
        ((elements pie).find? (isWpa pie) = none →
          WpaRest pie (lastBase pie 0 (elements pie)) (rest pie))) :=
  ⟨getIeOk_iff hpbuf, getIeExOk_iff hinIe, getWpaIeOk_iff hpie⟩

/-- An RSN element, behind it one that is cut off. -/
def rsnString : List UInt8 := [0x00, 0x00, 0x30, 0x01, 0x07, 0x30, 0x14]

/-- A vendor element, another one of other bytes, and one that is cut off. -/
def vendorString : List UInt8 :=
  [0xDD, 0x04, 0x00, 0x10, 0x18, 0x02, 0xDD, 0x03, 0x50, 0x6F, 0x9A, 0xDD, 0x20]

/-- A vendor element, a WPA element, and a vendor element that is cut off. -/
def wpaString : List UInt8 :=
  [0xDD, 0x04, 0x00, 0x10, 0x18, 0x02, 0xDD, 0x06, 0x00, 0x50, 0xF2, 0x01, 0x01, 0x00, 0xDD, 0x16]

/-- An element that is there is found by all three, whatever is before and behind it. -/
theorem ieSearch_found :
    GetIeOk rsnString 0x30 ∧
      GetIeExOk vendorString 0xDD (some [0x50, 0x6F, 0x9A]) true true ∧ GetWpaIeOk wpaString := by
  obtain ⟨hget, hgetEx, hgetWpa⟩ := ieSearch_iff rsnString vendorString wpaString (by decide)
    (by decide) (by decide) 0x30 0xDD (some [0x50, 0x6F, 0x9A]) true true
  refine ⟨hget.2 fun h => absurd h (by decide), hgetEx.2 ⟨?_, fun h => absurd h (by decide)⟩,
    hgetWpa.2 ⟨?_, fun h => absurd h (by decide)⟩⟩
  · intro x hx
    have hbefore : before vendorString (hasOui vendorString 0xDD (some [0x50, 0x6F, 0x9A])) =
        [0] := by decide
    rw [hbefore, List.mem_singleton] at hx
    rw [hx]
    exact fun _ => ⟨_, rfl, by decide, by decide, by decide⟩
  · intro x hx
    have hbefore : before wpaString (isWpa wpaString) = [0] := by decide
    rw [hbefore, List.mem_singleton] at hx
    rw [hx]
    exact fun _ => ⟨by decide, fun h => absurd h (by decide)⟩

/-- The last element is cut off behind its first byte of data: each search returns it with a length
that leads outside. -/
theorem ieSearch_truncated :
    ¬ GetIeOk [0x30, 0x14, 0x01] 0x30 ∧ ¬ GetIeExOk [0x30, 0x14, 0x01] 0x30 none false true ∧
      ¬ GetWpaIeOk [0xDD, 0x16, 0x00, 0x50, 0xF2, 0x01, 0x01, 0x00] := by
  refine ⟨?_, ?_, ?_⟩
  · intro h
    have hpass : Loop.Returns (getIePass [0x30, 0x14, 0x01] 0x30) (0, 0) (.found 0 20) := ⟨1, rfl⟩
    exact absurd (hpass.unique h) (by decide)
  · intro h
    have hpass : Loop.Returns (getIeExPass [0x30, 0x14, 0x01] 0x30 none false true) 0
      (.found 0 22) := ⟨1, rfl⟩
    exact absurd (hpass.unique h) (by decide)
  · intro h
    have hpass : Loop.Returns (wpaIePass [0xDD, 0x16, 0x00, 0x50, 0xF2, 0x01, 0x01, 0x00]) 0
      (.found 0 22) := ⟨1, by decide⟩
    exact absurd (hpass.unique h) (by decide)

end Rtl8723du.Elems
