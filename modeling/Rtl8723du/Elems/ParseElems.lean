import Rtl8723du.Elems.GetIe
import Rtl8723du.Lib.Elements

/-!
# The parser of the information elements

`rtw_ieee802_11_parse_elems` and `rtw_ieee802_11_parse_vendor_specific` of `core/rtw_ieee80211.c`,
and `check_ielen` of `core/rtw_wlan_util.c`.  The parser fills a record of pointers, each with its
length; a pointer is an offset into the string.
-/

namespace Rtl8723du.Elems

open Lib Lib.Elements

/-! ### The code -/

/-- The pointers of `struct rtw_ieee802_11_elems`. -/
inductive ElemField
  | ssid | suppRates | fhParams | dsParams | cfParams | tim | ibssParams | challenge | erpInfo
  | extSuppRates | wpaIe | rsnIe | wme | wmeTspec | wpsIe | powerCap | suppChannels | mdie | ftie
  | timeoutInt | htCapabilities | htOperation | vendorHtCap | vhtCapabilities | vhtOperation
  | vhtOpModeNotify | rmEnCap
deriving DecidableEq, Repr

/-- A pointer into the string with the length behind it in the record; `none` is NULL. -/
structure ElemPtr where
  ptr : Option ℕ
  len : ℕ
deriving DecidableEq, Repr

/-- `ParseRes`. -/
inductive ParseRes
  | parseOK
  | parseUnknown
  | parseFailed
deriving DecidableEq, Repr

/-- `rtw_ieee802_11_parse_vendor_specific`: the pointer that it sets, if it sets one; otherwise it
returns -1.  Nothing if it reads outside. -/
def parseVendorSpecific (bs : List UInt8) (pos elen : ℕ) : Option (Option ElemField) :=
  if elen < 4 then some none
  else do
    let b0 ← bs[pos]?
    let b1 ← bs[pos + 1]?
    let b2 ← bs[pos + 2]?
    let oui := b0.toNat * 65536 + b1.toNat * 256 + b2.toNat
    let type ← bs[pos + 3]?
    -- `OUI_MICROSOFT`
    if oui = 0x0050f2 then
      if type = 1 then some (some .wpaIe)
      -- `WME_OUI_TYPE`
      else if type = 2 then
        if elen < 5 then some none
        else do
          let subtype ← bs[pos + 4]?
          if subtype = 0 then some (some .wme)
          else if subtype = 1 then some (some .wme)
          else if subtype = 2 then some (some .wmeTspec)
          else some none
      else if type = 4 then some (some .wpsIe)
      else some none
    -- `OUI_BROADCOM` and `VENDOR_HT_CAPAB_OUI_TYPE`
    else if oui = 0x00904c then
      if type = 0x33 then some (some .vendorHtCap) else some none
    else some none

/-- The cases of the switch in `rtw_ieee802_11_parse_elems`, without vendor elements. -/
def elemField (id : UInt8) : Option ElemField :=
  match id with
  | 0 => some .ssid
  | 1 => some .suppRates
  | 2 => some .fhParams
  | 3 => some .dsParams
  | 4 => some .cfParams
  | 5 => some .tim
  | 6 => some .ibssParams
  | 16 => some .challenge
  | 42 => some .erpInfo
  | 50 => some .extSuppRates
  | 48 => some .rsnIe
  | 33 => some .powerCap
  | 36 => some .suppChannels
  | 54 => some .mdie
  | 55 => some .ftie
  | 56 => some .timeoutInt
  | 45 => some .htCapabilities
  | 61 => some .htOperation
  | 191 => some .vhtCapabilities
  | 192 => some .vhtOperation
  | 199 => some .vhtOpModeNotify
  | 70 => some .rmEnCap
  | _ => none

/-- The variables of `rtw_ieee802_11_parse_elems`. -/
structure ParseState where
  pos : ℕ
  left : ℕ
  elems : ElemField → ElemPtr
  unknown : ℕ

/-- A pass of the loop of `rtw_ieee802_11_parse_elems`. -/
def parseElemsPass (bs : List UInt8) (s : ParseState) :
    Option (ParseRes × (ElemField → ElemPtr)) ⊕ ParseState :=
  if s.left < 2 then
    .inl (some (if s.left ≠ 0 then .parseFailed
      else if s.unknown ≠ 0 then .parseUnknown else .parseOK, s.elems))
  else
    match bs[s.pos]?, bs[s.pos + 1]? with
    | some id, some elen =>
        if s.left - 2 < elen.toNat then .inl (some (.parseFailed, s.elems))
        else
          let pos := s.pos + 2
          match if id = 221 then parseVendorSpecific bs pos elen.toNat
            else some (elemField id) with
          | none => .inl none
          | some none =>
              .inr ⟨pos + elen.toNat, s.left - 2 - elen.toNat, s.elems, s.unknown + 1⟩
          | some (some f) =>
              .inr ⟨pos + elen.toNat, s.left - 2 - elen.toNat,
                Function.update s.elems f ⟨some pos, elen.toNat⟩, s.unknown⟩
    | _, _ => .inl none

/-- `rtw_ieee802_11_parse_elems`; nothing if it reads outside.  Each pass goes two bytes on at
least. -/
def parseElems (bs : List UInt8) : Option (ParseRes × (ElemField → ElemPtr)) :=
  ((Loop.run (parseElemsPass bs) (bs.length + 1) ⟨0, bs.length, fun _ => ⟨none, 0⟩, 0⟩)).getD none

/-- A pass of the loop of `check_ielen`, with `pos` and `left`. -/
def checkIelenPass (bs : List UInt8) (s : ℕ × ℤ) : Option Bool ⊕ (ℕ × ℤ) :=
  if s.2 < 2 then .inl (some (s.2 = 0))
  else
    match bs[s.1]?, bs[s.1 + 1]? with
    | some id, some elen =>
        if s.2 - 2 < elen.toNat then .inl (some false)
        else if id = 221 && elen < 3 then .inl (some false)
        else .inr (s.1 + 2 + elen.toNat, s.2 - 2 - elen.toNat)
    | _, _ => .inl none

/-- `check_ielen`; nothing if it reads outside. -/
def checkIelen (bs : List UInt8) : Option Bool :=
  (Loop.run (checkIelenPass bs) (bs.length + 1) (0, sint bs.length)).getD none

/-! ### What it is for -/

/-- The id of the elements that a pointer is for. -/
def ElemField.eid : ElemField → UInt8
  | .ssid => 0
  | .suppRates => 1
  | .fhParams => 2
  | .dsParams => 3
  | .cfParams => 4
  | .tim => 5
  | .ibssParams => 6
  | .challenge => 16
  | .powerCap => 33
  | .suppChannels => 36
  | .erpInfo => 42
  | .htCapabilities => 45
  | .rsnIe => 48
  | .extSuppRates => 50
  | .mdie => 54
  | .ftie => 55
  | .timeoutInt => 56
  | .htOperation => 61
  | .rmEnCap => 70
  | .vhtCapabilities => 191
  | .vhtOperation => 192
  | .vhtOpModeNotify => 199
  | .wpaIe | .wme | .wmeTspec | .wpsIe | .vendorHtCap => 221

/-- What their bodies begin with: those of vendor elements with an OUI, a type and for WME a
subtype. -/
def ElemField.starts : ElemField → List (List UInt8)
  | .wpaIe => [[0x00, 0x50, 0xf2, 1]]
  | .wme => [[0x00, 0x50, 0xf2, 2, 0], [0x00, 0x50, 0xf2, 2, 1]]
  | .wmeTspec => [[0x00, 0x50, 0xf2, 2, 2]]
  | .wpsIe => [[0x00, 0x50, 0xf2, 4]]
  | .vendorHtCap => [[0x00, 0x90, 0x4c, 0x33]]
  | _ => [[]]

/-- The element is one that the pointer is for. -/
def Wants (f : ElemField) (e : Element) : Prop := e.id = f.eid ∧ ∃ s ∈ f.starts, s <+: e.data

/-- The pointer and its length denote the body of the last element that it is for. -/
structure Denotes (bs : List UInt8) (es : List Element) (f : ElemField) (p : ElemPtr) : Prop where
  null : p.ptr = none ↔ ∀ e ∈ es, ¬ Wants f e
  last : ∀ pre e post, es = pre ++ e :: post → Wants f e → (∀ x ∈ post, ¬ Wants f x) →
    ∃ off, p = ⟨some off, e.data.length⟩ ∧ off = (encode pre).length + 2 ∧
      off + e.data.length ≤ bs.length ∧ (bs.drop off).take e.data.length = e.data

/-! ### An element -/

variable {bs d tail : List UInt8} {pos n : ℕ} {e : Element} {es : List Element} {f : ElemField}

lemma getElem?_of_drop (h : bs.drop pos = d) (i : ℕ) : bs[pos + i]? = d[i]? := by
  rw [← h, List.getElem?_drop]

/-- The parser of vendor elements reads the body only. -/
lemma parseVendorSpecific_eq (h : bs.drop pos = d ++ tail) :
    parseVendorSpecific bs pos d.length = parseVendorSpecific d 0 d.length := by
  have hget (i : ℕ) (hi : i < d.length) : bs[pos + i]? = d[0 + i]? := by
    rw [getElem?_of_drop h, List.getElem?_append_left hi, Nat.zero_add]
  rw [parseVendorSpecific, parseVendorSpecific]
  by_cases h4 : d.length < 4
  · rw [if_pos h4, if_pos h4]
  · rw [if_neg h4, if_neg h4]
    have h0 := hget 0 (by omega)
    rw [Nat.add_zero] at h0
    rw [h0, hget 1 (by omega), hget 2 (by omega), hget 3 (by omega)]
    by_cases h5 : d.length < 5
    · simp only [if_pos h5]
    · rw [hget 4 (by omega)]

/-- The three bytes of an OUI. -/
lemma oui_eq {x y z : UInt8} (a b c : UInt8) : x.toNat * 65536 + y.toNat * 256 + z.toNat =
    a.toNat * 65536 + b.toNat * 256 + c.toNat ↔ x = a ∧ y = b ∧ z = c := by
  have hx := x.toNat_lt
  have hy := y.toNat_lt
  have hz := z.toNat_lt
  have ha := a.toNat_lt
  have hb := b.toNat_lt
  have hc := c.toNat_lt
  rw [← UInt8.toNat_inj, ← UInt8.toNat_inj, ← UInt8.toNat_inj]
  omega

/-- What a vendor element begins with has an OUI and a type. -/
lemma length_starts (hid : f.eid = 221) : ∀ s ∈ f.starts, 4 ≤ s.length := by
  cases f <;> first | exact absurd hid (by decide) | decide

/-- The vendor elements that the pointers are for. -/
lemma starts_iff {x y z t : UInt8} :
    (f.eid = 221 ∧ ∃ s ∈ f.starts, s <+: x :: y :: z :: t :: d) ↔
      (x = 0x00 ∧ y = 0x50 ∧ z = 0xf2) ∧ (t = 1 ∧ .wpaIe = f ∨ t = 4 ∧ .wpsIe = f ∨
        t = 2 ∧ (d.head? = some 0 ∧ .wme = f ∨ d.head? = some 1 ∧ .wme = f ∨
          d.head? = some 2 ∧ .wmeTspec = f)) ∨
      (x = 0x00 ∧ y = 0x90 ∧ z = 0x4c) ∧ t = 0x33 ∧ .vendorHtCap = f := by
  have hhead (b : UInt8) : [b] <+: d ↔ d.head? = some b := by
    rcases d with _ | ⟨c, d⟩
    · simp
    · simp [eq_comm]
  cases f <;> simp [ElemField.eid, ElemField.starts, List.cons_prefix_cons, hhead, eq_comm,
    and_assoc, ← and_or_left]

/-- It ends, and sets the pointer that the element is for. -/
lemma parseVendorSpecific_spec (d : List UInt8) : ∃ o, parseVendorSpecific d 0 d.length = some o ∧
    ∀ f, o = some f ↔ f.eid = 221 ∧ ∃ s ∈ f.starts, s <+: d := by
  by_cases hshort : d.length < 4
  · refine ⟨none, if_pos hshort, fun f => iff_of_false nofun ?_⟩
    rintro ⟨hid, s, hs, hpre⟩
    exact absurd (hpre.length_le.trans_lt hshort) (Nat.not_lt.2 (length_starts hid s hs))
  · obtain ⟨x, y, z, t, d, rfl⟩ : ∃ x y z t d', d = x :: y :: z :: t :: d' := by
      rcases d with _ | ⟨x, _ | ⟨y, _ | ⟨z, _ | ⟨t, d⟩⟩⟩⟩
      · exact absurd (by decide) hshort
      · exact absurd (Nat.succ_lt_succ (by decide)) hshort
      · exact absurd (by simp) hshort
      · exact absurd (by simp) hshort
      · exact ⟨x, y, z, t, d, rfl⟩
    have hms := oui_eq (x := x) (y := y) (z := z) 0x00 0x50 0xf2
    have hbc := oui_eq (x := x) (y := y) (z := z) 0x00 0x90 0x4c
    simp only [UInt8.reduceToNat, Nat.zero_mul, Nat.reduceMul, Nat.reduceAdd] at hms hbc
    rw [parseVendorSpecific, if_neg hshort]
    simp only [Nat.zero_add, List.getElem?_cons_zero, List.getElem?_cons_succ]
    rw [Option.bind_eq_bind, Option.bind_some, Option.bind_some, Option.bind_some,
      Option.bind_some]
    simp only [starts_iff, hms, hbc]
    by_cases hm : x = 0x00 ∧ y = 0x50 ∧ z = 0xf2
    · have hb : ¬ (x = 0x00 ∧ y = 0x90 ∧ z = 0x4c) := by
        rintro ⟨-, hy, -⟩
        exact absurd (hm.2.1.symm.trans hy) (by decide)
      simp only [eq_true hm, eq_false hb, if_true, true_and, false_and, or_false]
      by_cases h1 : t = 1
      · exact ⟨_, if_pos h1, fun f => by simp [h1]⟩
      · rw [if_neg h1]
        by_cases h2 : t = 2
        · rw [if_pos h2]
          rcases d with _ | ⟨u, d⟩
          · exact ⟨none, rfl, fun f => by simp [h2]⟩
          · rw [if_neg (by simp)]
            simp only [List.getElem?_cons_zero, Option.bind_some, List.head?_cons, Option.some_inj]
            by_cases hu : u = 0 ∨ u = 1
            · refine ⟨some .wme, ?_, fun f => ?_⟩
              · rcases hu with rfl | rfl <;> rfl
              · rcases hu with rfl | rfl <;> simp [h2]
            · obtain ⟨hu0, hu1⟩ := not_or.1 hu
              rw [if_neg hu0, if_neg hu1]
              by_cases hu2 : u = 2
              · exact ⟨_, if_pos hu2, fun f => by simp [h2, hu2]⟩
              · exact ⟨_, if_neg hu2, fun f => by simp [h2, hu0, hu1, hu2]⟩
        · rw [if_neg h2]
          by_cases h4 : t = 4
          · exact ⟨_, if_pos h4, fun f => by simp [h4]⟩
          · exact ⟨_, if_neg h4, fun f => by simp [h1, h2, h4]⟩
    · simp only [eq_false hm, if_false, false_and, false_or]
      by_cases hb : x = 0x00 ∧ y = 0x90 ∧ z = 0x4c
      · simp only [eq_true hb, if_true, true_and]
        by_cases h : t = 0x33
        · exact ⟨_, if_pos h, fun f => by simp [h]⟩
        · exact ⟨_, if_neg h, fun f => by simp [h]⟩
      · exact ⟨_, if_neg hb, fun f => by simp [hb]⟩

/-- The pointer that is set for an element. -/
def fieldOf (e : Element) : Option ElemField :=
  if e.id = 221 then (parseVendorSpecific e.data 0 e.data.length).join else elemField e.id

lemma fieldOf_eq_some : fieldOf e = some f ↔ Wants f e := by
  rw [fieldOf, Wants]
  split
  · next hid =>
      obtain ⟨o, ho, hspec⟩ := parseVendorSpecific_spec e.data
      rw [ho, Option.join_some, hspec, hid, eq_comm]
  · next hid =>
      constructor
      · intro h
        unfold elemField at h
        split at h <;> cases h <;> exact ⟨‹_›, [], by simp [ElemField.starts], List.nil_prefix⟩
      · rintro ⟨hf, hs⟩
        rw [hf] at hid
        rw [hf]
        cases f <;> first | rfl | exact absurd rfl hid

/-- The record after an element at an offset. -/
def fill (elems : ElemField → ElemPtr) (off : ℕ) (e : Element) : ElemField → ElemPtr :=
  (fieldOf e).elim elems fun f => Function.update elems f ⟨some (off + 2), e.data.length⟩

/-- A pass at a whole element. -/
lemma parseElemsPass_cons {elems : ElemField → ElemPtr} {u : ℕ}
    (h : bs.drop pos = e.bytes ++ tail) :
    ∃ u', parseElemsPass bs ⟨pos, e.size + n, elems, u⟩ =
      .inr ⟨pos + e.size, n, fill elems pos e, u'⟩ := by
  have hid : bs[pos]? = some e.id := (getElem?_of_drop h 0).trans rfl
  have hlen : bs[pos + 1]? = some (UInt8.ofNat e.data.length) := getElem?_of_drop h 1
  have hbody : bs.drop (pos + 2) = e.data ++ tail := by
    rw [← List.drop_drop, h]
    rfl
  have hsize : e.size = e.data.length + 2 := rfl
  have hfield : (if e.id = 221 then parseVendorSpecific bs (pos + 2) e.data.length
      else some (elemField e.id)) = some (fieldOf e) := by
    rw [fieldOf]
    split
    · rw [parseVendorSpecific_eq hbody]
      obtain ⟨o, ho, -⟩ := parseVendorSpecific_spec e.data
      rw [ho]
      rfl
    · rfl
  have hleft : e.size + n - 2 - e.data.length = n := by omega
  have hpos : pos + 2 + e.data.length = pos + e.size := by omega
  rw [parseElemsPass]
  simp only [hid, hlen, Element.toNat_length, hfield, hleft, hpos]
  rw [if_neg (by omega), if_neg (by omega), fill]
  rcases fieldOf e with _ | f
  · exact ⟨_, rfl⟩
  · exact ⟨_, rfl⟩

/-- The last pass. -/
lemma parseElemsPass_end {elems : ElemField → ElemPtr} {u : ℕ} (h : bs.drop pos = tail)
    (htail : tail = [] ∨ Truncated tail) :
    ∃ res, parseElemsPass bs ⟨pos, tail.length, elems, u⟩ = .inl (some (res, elems)) ∧
      (res = .parseFailed ↔ tail ≠ []) := by
  rw [parseElemsPass]
  rcases htail with rfl | hone | ⟨i, l, d, rfl, hlt⟩
  · refine ⟨_, if_pos (by simp), iff_of_false ?_ (by simp)⟩
    rw [if_neg (by simp)]
    split <;> nofun
  · refine ⟨_, if_pos (by simp [hone]), iff_of_true (by simp [hone]) ?_⟩
    rintro rfl
    cases hone
  · have hid : bs[pos]? = some i := (getElem?_of_drop h 0).trans rfl
    have hlen : bs[pos + 1]? = some l := getElem?_of_drop h 1
    refine ⟨.parseFailed, ?_, iff_of_true rfl nofun⟩
    simp only [hid, hlen, List.length_cons]
    rw [if_neg (by omega), if_pos (by omega)]

/-- The record after elements that begin at an offset. -/
def fills (elems : ElemField → ElemPtr) (off : ℕ) : List Element → (ElemField → ElemPtr)
  | [] => elems
  | e :: es => fills (fill elems off e) (off + e.size) es

/-- A run along whole elements, with nothing or a part of an element behind them. -/
lemma run_parseElems (elems : ElemField → ElemPtr) (u : ℕ) (h : bs.drop pos = encode es ++ tail)
    (htail : tail = [] ∨ Truncated tail) :
    ∃ res, Loop.run (parseElemsPass bs) (es.length + 1)
        ⟨pos, (encode es ++ tail).length, elems, u⟩ = some (some (res, fills elems pos es)) ∧
      (res = .parseFailed ↔ tail ≠ []) := by
  induction es generalizing pos elems u with
  | nil =>
      obtain ⟨res, hpass, hres⟩ := parseElemsPass_end (u := u) h htail
      exact ⟨res, by rw [Loop.run, hpass]; rfl, hres⟩
  | cons e es ih =>
      rw [encode_cons, List.append_assoc] at h
      obtain ⟨u', hpass⟩ := parseElemsPass_cons (n := (encode es ++ tail).length) (u := u) h
      have hrest : bs.drop (pos + e.size) = encode es ++ tail := by
        rw [← drop_add_of_drop h, Element.length_bytes]
      obtain ⟨res, hrun, hres⟩ := ih _ u' hrest
      refine ⟨res, ?_, hres⟩
      rw [encode_cons, List.append_assoc, List.length_append, Element.length_bytes, Loop.run,
        List.length_cons, hpass]
      exact hrun

/-! ### The record -/

variable {elems : ElemField → ElemPtr} {pre post : List Element}

lemma fill_of_eq (h : fieldOf e = some f) :
    fill elems pos e f = ⟨some (pos + 2), e.data.length⟩ := by
  rw [fill, h, Option.elim_some, Function.update_self]

lemma fill_of_ne (h : fieldOf e ≠ some f) : fill elems pos e f = elems f := by
  rw [fill]
  rcases hfield : fieldOf e with _ | g
  · rfl
  · have hne : f ≠ g := by
      rintro rfl
      exact h hfield
    rw [Option.elim_some, Function.update_of_ne hne]

lemma fills_append : fills elems pos (pre ++ post) =
    fills (fills elems pos pre) (pos + (encode pre).length) post := by
  induction pre generalizing pos elems with
  | nil => rfl
  | cons e pre ih =>
      rw [List.cons_append, fills, fills, ih, encode_cons, List.length_append,
        Element.length_bytes, Nat.add_assoc]

lemma fills_of_none (h : ∀ e ∈ es, ¬ Wants f e) : fills elems pos es f = elems f := by
  induction es generalizing pos elems with
  | nil => rfl
  | cons e es ih =>
      rw [fills, ih fun x hx => h x (List.mem_cons_of_mem e hx)]
      exact fill_of_ne fun hfield => h e List.mem_cons_self (fieldOf_eq_some.1 hfield)

/-- The last element that the pointer is for is the one that counts. -/
lemma fills_of_last (he : Wants f e) (hpost : ∀ x ∈ post, ¬ Wants f x) :
    fills elems pos (pre ++ e :: post) f =
      ⟨some (pos + (encode pre).length + 2), e.data.length⟩ := by
  rw [fills_append, fills, fills_of_none hpost, fill_of_eq (fieldOf_eq_some.2 he)]

lemma denotes_fills (hbs : encode es = bs) :
    Denotes bs es f (fills (fun _ => ⟨none, 0⟩) 0 es f) where
  null := by
    constructor
    · intro hnull x hx hwants
      obtain ⟨pre, e, post, rfl, he, hpost⟩ := exists_last ⟨x, hx, hwants⟩
      rw [fills_of_last he hpost] at hnull
      cases hnull
    · intro h
      rw [fills_of_none h]
  last := by
    rintro pre e post rfl he hpost
    have hat : At bs 0 (pre ++ e :: post) := by
      rw [At, hbs, List.drop_zero]
    have hbody := hat.right
    rw [Nat.zero_add] at hbody
    refine ⟨_, fills_of_last he hpost, by rw [Nat.zero_add], ?_, ?_⟩
    · rw [← hbs, Nat.zero_add, encode_append, List.length_append, encode_cons, List.length_append,
        Element.length_bytes, Element.size]
      omega
    · rw [Nat.zero_add]
      exact hbody.data_eq

/-! ### `check_ielen` -/

/-- A pass at a whole element refuses the string or goes on. -/
lemma checkIelenPass_cons (h : bs.drop pos = e.bytes ++ tail) :
    checkIelenPass bs (pos, ((e.size + n : ℕ) : ℤ)) = .inl (some false) ∨
      checkIelenPass bs (pos, ((e.size + n : ℕ) : ℤ)) = .inr (pos + e.size, (n : ℤ)) := by
  have hid : bs[pos]? = some e.id := (getElem?_of_drop h 0).trans rfl
  have hlen : bs[pos + 1]? = some (UInt8.ofNat e.data.length) := getElem?_of_drop h 1
  have hsize : e.size = e.data.length + 2 := rfl
  have hleft : ((e.size + n : ℕ) : ℤ) - 2 - e.data.length = n := by omega
  have hpos : pos + 2 + e.data.length = pos + e.size := by omega
  rw [checkIelenPass]
  simp only [hid, hlen, Element.toNat_length, hleft, hpos]
  rw [if_neg (by omega), if_neg (by omega)]
  split
  · exact .inl rfl
  · exact .inr rfl

/-- The last pass refuses a part of an element. -/
lemma checkIelenPass_end (h : bs.drop pos = tail) (htail : Truncated tail) :
    checkIelenPass bs (pos, (tail.length : ℤ)) = .inl (some false) := by
  rw [checkIelenPass]
  rcases htail with hone | ⟨i, l, d, rfl, hlt⟩
  · rw [hone]
    rfl
  · have hid : bs[pos]? = some i := (getElem?_of_drop h 0).trans rfl
    have hlen : bs[pos + 1]? = some l := getElem?_of_drop h 1
    simp only [hid, hlen, List.length_cons]
    rw [if_neg (by omega), if_pos (by omega)]

/-- What is accepted does not end with a part of an element. -/
lemma run_checkIelen {k : ℕ} (h : bs.drop pos = encode es ++ tail) (htail : Truncated tail) :
    Loop.run (checkIelenPass bs) k (pos, ((encode es ++ tail).length : ℤ)) ≠ some (some true) := by
  induction es generalizing pos k with
  | nil =>
      rcases k with _ | k
      · intro hrun
        cases hrun
      · rw [encode_nil, List.nil_append] at h
        rw [Loop.run, encode_nil, List.nil_append, checkIelenPass_end h htail]
        intro hrun
        cases hrun
  | cons e es ih =>
      rcases k with _ | k
      · intro hrun
        cases hrun
      · rw [encode_cons, List.append_assoc] at h
        have hrest : bs.drop (pos + e.size) = encode es ++ tail := by
          rw [← drop_add_of_drop h, Element.length_bytes]
        rw [encode_cons, List.append_assoc, List.length_append, Element.length_bytes, Loop.run]
        rcases checkIelenPass_cons (n := (encode es ++ tail).length) h with hpass | hpass
        · rw [hpass]
          intro hrun
          cases hrun
        · rw [hpass]
          exact ih hrest

/-- What is behind the elements shows whether the string is a string of elements. -/
lemma exists_encode_iff (hsplit : bs = encode es ++ tail) (htail : tail = [] ∨ Truncated tail) :
    (∃ fs, encode fs = bs) ↔ tail = [] := by
  constructor
  · rintro ⟨fs, hfs⟩
    exact htail.resolve_right fun h => h.not_encode es fs (hsplit.symm.trans hfs.symm)
  · rintro rfl
    exact ⟨es, by rw [hsplit, List.append_nil]⟩

/-- A string that is accepted is a string of elements. -/
lemma exists_encode_of_checkIelen (hbs : bs.length < 2 ^ 32) (h : checkIelen bs = some true) :
    ∃ es, encode es = bs := by
  obtain ⟨es, tail, hsplit, htail⟩ := exists_split bs
  rw [exists_encode_iff hsplit htail]
  refine htail.resolve_right fun htrunc => ?_
  rw [checkIelen] at h
  rcases Nat.lt_or_ge bs.length (2 ^ 31) with hlt | hge
  · rw [sint_of_lt (by omega) (by omega)] at h
    have hdrop : bs.drop 0 = encode es ++ tail := hsplit
    have hrun := run_checkIelen (k := bs.length + 1) hdrop htrunc
    rw [← hsplit] at hrun
    rcases hval : Loop.run (checkIelenPass bs) (bs.length + 1) (0, (bs.length : ℤ)) with _ | b
    · rw [hval] at h
      cases h
    · rw [hval, Option.getD_some] at h
      exact hrun (by rw [hval, h])
  · -- the length is a negative number, and what is left is not zero
    have hneg := sint_of_le (i := (bs.length : ℤ)) (by omega) (by omega)
    rw [Loop.run, checkIelenPass, if_pos (by omega)] at h
    simp only [Option.getD_some, Option.some_inj, decide_eq_true_eq] at h
    omega

/-! ### The parser and the check -/

/-- The parser ends and reads inside of the string.  It fails exactly if the string is not a
string of whole elements, and not on what the check accepts; otherwise each pointer denotes the
last element that it is for. -/
theorem parseElems_spec (bs : List UInt8) (hbs : bs.length < 2 ^ 32) :
    ∃ res elems, parseElems bs = some (res, elems) ∧
      (res = .parseFailed ↔ ¬ ∃ es, encode es = bs) ∧
      (∀ es, encode es = bs → ∀ f, Denotes bs es f (elems f)) ∧
      (checkIelen bs = some true → res ≠ .parseFailed) := by
  obtain ⟨es, tail, hsplit, htail⟩ := exists_split bs
  have hwhole := exists_encode_iff hsplit htail
  have hdrop : bs.drop 0 = encode es ++ tail := hsplit
  obtain ⟨res, hrun, hres⟩ := run_parseElems (fun _ => ⟨none, 0⟩) 0 hdrop htail
  rw [Ne, ← hwhole] at hres
  have hlen : es.length ≤ bs.length := by
    have hle := length_le_encode es
    rw [hsplit, List.length_append]
    omega
  have hparse : parseElems bs = some (res, fills (fun _ => ⟨none, 0⟩) 0 es) := by
    have hmore := Loop.run_mono (Nat.succ_le_succ hlen) hrun
    rw [← hsplit] at hmore
    rw [parseElems, hmore]
    rfl
  refine ⟨res, _, hparse, hres, fun fs hfs f => ?_, fun hcheck hfailed => ?_⟩
  · have htail' : tail = [] := hwhole.1 ⟨fs, hfs⟩
    rw [htail', List.append_nil] at hsplit
    rw [encode_injective (hsplit.symm.trans hfs.symm)]
    exact denotes_fills hfs
  · exact hres.1 hfailed (exists_encode_of_checkIelen hbs hcheck)

/-- An RSN element, and behind it another one. -/
theorem parseElems_last :
    ∃ res elems, parseElems [0x30, 0x01, 0x07, 0x30, 0x00] = some (res, elems) ∧
      res ≠ .parseFailed ∧ (elems .rsnIe).ptr = some 5 := by
  obtain ⟨res, elems, hparse, -, hdenotes, hcheck⟩ :=
    parseElems_spec [0x30, 0x01, 0x07, 0x30, 0x00] (by decide)
  have hlast := (hdenotes [⟨0x30, [0x07], by decide⟩, ⟨0x30, [], by decide⟩] rfl .rsnIe).last
    [⟨0x30, [0x07], by decide⟩] ⟨0x30, [], by decide⟩ [] rfl ⟨rfl, [], by decide, List.nil_prefix⟩
    nofun
  obtain ⟨off, hptr, rfl, -⟩ := hlast
  exact ⟨res, elems, hparse, hcheck (by decide), by rw [hptr]; rfl⟩

end Rtl8723du.Elems
