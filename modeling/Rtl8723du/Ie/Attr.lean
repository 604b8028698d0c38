import Rtl8723du.Lib.Loop
import Rtl8723du.Lib.Tlv

/-!
# Attributes of WPS, P2P and WFD elements

`rtw_get_wps_attr`, `rtw_get_p2p_attr` and `rtw_get_wfd_attr` of `core/rtw_ieee80211.c` search
an attribute in an information element.  All three keep the size of an attribute in a `u16`:
a length field near `0xFFFF` makes the step small or zero.  `rtw_get_wps_attr` moreover looks
at an attribute without a check that its header, or the attribute it returns, lies inside the
element; the other two make these checks.
-/

namespace Rtl8723du

open Lib Lib.Tlv

/-! ### Bytes of an element -/

/-- `RTW_GET_BE16`; nothing when a byte of it lies outside. -/
def getBE16 (ie : List UInt8) (off : ℕ) : Option ℕ :=
  match ie[off]?, ie[off + 1]? with
  | some hi, some lo => some (hi.toNat * 256 + lo.toNat)
  | _, _ => none

/-- `RTW_GET_LE16`; nothing when a byte of it lies outside. -/
def getLE16 (ie : List UInt8) (off : ℕ) : Option ℕ :=
  match ie[off + 1]?, ie[off]? with
  | some hi, some lo => some (hi.toNat * 256 + lo.toNat)
  | _, _ => none

/-- The first byte of a vendor specific element, `WLAN_EID_VENDOR_SPECIFIC`. -/
def vendorSpecificIe : UInt8 := 221

def wpsOui : List UInt8 := [0x00, 0x50, 0xF2, 0x04]

def p2pOui : List UInt8 := [0x50, 0x6F, 0x9A, 0x09]

def wfdOui : List UInt8 := [0x50, 0x6F, 0x9A, 0x0A]

/-! ### `rtw_get_wps_attr` -/

/-- A pass of the loop of `rtw_get_wps_attr`, with `bufAttr` whether there is a buffer that the
attribute is copied to. -/
def wpsAttrBody (ie : List UInt8) (targetAttrId : ℕ) (bufAttr : Bool) (off : ℕ) : Outcome ⊕ ℕ :=
  if off < ie.length then
    match getBE16 ie off, getBE16 ie (off + 2) with
    | some attrId, some attrDataLen =>
        let attrLen := (attrDataLen + 4) % 65536
        if attrId = targetAttrId then
          if bufAttr && decide (ie.length < off + attrLen) then .inl .outside
          else .inl (.found off attrLen)
        else .inr (off + attrLen)
    | _, _ => .inl .outside
  else .inl .notFound

/-- `rtw_get_wps_attr` on an element of the length it is declared with, with at most `k` passes
of its loop. -/
def rtwGetWpsAttr (ie : List UInt8) (targetAttrId : ℕ) (bufAttr : Bool) (k : ℕ) :
    Option Outcome :=
  match ie[0]? with
  | none => some .outside
  | some eid =>
      if eid ≠ vendorSpecificIe then some .notFound
      else if ie.length < 6 then some .outside
      else if (ie.drop 2).take 4 ≠ wpsOui then some .notFound
      else Loop.run (wpsAttrBody ie targetAttrId bufAttr) k 6

/-! ### `rtw_get_p2p_attr` and `rtw_get_wfd_attr` -/

/-- A pass of the loop, with `get16` the byte order of the length field. -/
def vendorAttrBody (get16 : List UInt8 → ℕ → Option ℕ) (ie : List UInt8) (targetAttrId : ℕ)
    (bufAttr : Bool) (off : ℕ) : Outcome ⊕ ℕ :=
  if off + 3 ≤ ie.length then
    match ie[off]?, get16 ie (off + 1) with
    | some attrId, some attrDataLen =>
        let attrLen := (attrDataLen + 3) % 65536
        if ie.length < off + attrLen then .inl .notFound
        else if attrId.toNat = targetAttrId then
          if bufAttr && decide (ie.length < off + attrLen) then .inl .outside
          else .inl (.found off attrLen)
        else .inr (off + attrLen)
    | _, _ => .inl .outside
  else .inl .notFound

/-- What the two functions have in common. -/
def vendorGetAttr (oui : List UInt8) (get16 : List UInt8 → ℕ → Option ℕ) (ie : List UInt8)
    (targetAttrId : ℕ) (bufAttr : Bool) (k : ℕ) : Option Outcome :=
  if ie.length ≤ 6 then some .notFound
  else if ie[0]? ≠ some vendorSpecificIe then some .notFound
  else if (ie.drop 2).take 4 ≠ oui then some .notFound
  else Loop.run (vendorAttrBody get16 ie targetAttrId bufAttr) k 6

/-- `rtw_get_p2p_attr`. -/
def rtwGetP2pAttr : List UInt8 → ℕ → Bool → ℕ → Option Outcome := vendorGetAttr p2pOui getLE16

/-- `rtw_get_wfd_attr`. -/
def rtwGetWfdAttr : List UInt8 → ℕ → Bool → ℕ → Option Outcome := vendorGetAttr wfdOui getBE16

/-! ### What they are for -/

/-- The attributes of a WPS element. -/
def wpsFormat : Format where
  hdr := 4
  id ie off := (getBE16 ie off).getD 0
  len ie off := (getBE16 ie (off + 2)).getD 0
  hdr_pos := by decide

/-- The attributes of a P2P or WFD element, by the byte order of the length field. -/
def vendorFormat (get16 : List UInt8 → ℕ → Option ℕ) : Format where
  hdr := 3
  id ie off := (ie.getD off 0).toNat
  len ie off := (get16 ie (off + 1)).getD 0
  hdr_pos := by decide

/-- The string is an element of this kind. -/
def IsVendorIe (oui ie : List UInt8) : Prop :=
  ie[0]? = some vendorSpecificIe ∧ (ie.drop 2).take 4 = oui

instance (oui ie : List UInt8) : Decidable (IsVendorIe oui ie) := by
  unfold IsVendorIe
  infer_instance

/-- The first attribute of an id that lies wholly inside the element. -/
def firstAttr (oui : List UInt8) (F : Format) (ie : List UInt8) (targetAttrId : ℕ) :
    Option (ℕ × ℕ) :=
  if IsVendorIe oui ie then F.find ie targetAttrId 6 else none

/-- The search ends, reads inside the element only, and finds the first attribute of the id
that lies wholly inside it. -/
def FindsAttr (search : ℕ → Option Outcome) (oui : List UInt8) (F : Format) (ie : List UInt8)
    (targetAttrId : ℕ) : Prop :=
  ∃ k, search k = some (.ofOption (firstAttr oui F ie targetAttrId))

/-! ### P2P and WFD -/

section Vendor

variable {get16 : List UInt8 → ℕ → Option ℕ} {oui ie : List UInt8} {targetAttrId off k : ℕ}
  {bufAttr : Bool}

lemma isSome_getBE16 (h : off + 2 ≤ ie.length) : (getBE16 ie off).isSome := by
  simp [getBE16, List.getElem?_eq_getElem (show off < ie.length by omega),
    List.getElem?_eq_getElem (show off + 1 < ie.length by omega)]

lemma isSome_getLE16 (h : off + 2 ≤ ie.length) : (getLE16 ie off).isSome := by
  simp [getLE16, List.getElem?_eq_getElem (show off < ie.length by omega),
    List.getElem?_eq_getElem (show off + 1 < ie.length by omega)]

lemma size_vendorFormat (get16 : List UInt8 → ℕ → Option ℕ) (ie : List UInt8) (off : ℕ) :
    (vendorFormat get16).size ie off = (get16 ie (off + 1)).getD 0 + 3 := Nat.add_comm _ _

/-- A pass at a header that lies inside the element. -/
lemma vendorAttrBody_of_header (targetAttrId : ℕ) (bufAttr : Bool)
    (hget : (get16 ie (off + 1)).isSome) (h : off + 3 ≤ ie.length) :
    vendorAttrBody get16 ie targetAttrId bufAttr off =
      if ie.length < off + step16 (vendorFormat get16) ie off then .inl .notFound
      else if (vendorFormat get16).id ie off = targetAttrId then
        .inl (.found off (step16 (vendorFormat get16) ie off))
      else .inr (off + step16 (vendorFormat get16) ie off) := by
  obtain ⟨attrDataLen, hlen⟩ := Option.isSome_iff_exists.1 hget
  have hbyte := List.getElem?_eq_getElem (show off < ie.length by omega)
  have hid : (vendorFormat get16).id ie off = ie[off].toNat := by
    simp [vendorFormat, hbyte]
  simp only [vendorAttrBody, if_pos h, hbyte, hlen, step16, size_vendorFormat, hid,
    Option.getD_some]
  split
  · rfl
  · rename_i hfits
    simp [hfits]

lemma vendorAttrBody_of_length_lt (h : ie.length < off + 3) :
    vendorAttrBody get16 ie targetAttrId bufAttr off = .inl .notFound := by
  rw [vendorAttrBody, if_neg (by omega)]

lemma searchLoop_vendor (hget : ∀ off, off + 2 ≤ ie.length → (get16 ie off).isSome) :
    SearchLoop (vendorFormat get16) targetAttrId ie
      (Loop.Returns (vendorAttrBody get16 ie targetAttrId bufAttr)) where
  unique h h' := h.unique h'
  step {off r} hhdr hid := by
    have hbody := vendorAttrBody_of_header targetAttrId bufAttr
      (hget (off + 1) hhdr) hhdr
    rw [if_neg hid] at hbody
    split at hbody
    · -- the loop is left at once here, and after one more pass in the other case
      rw [Loop.returns_iff_of_inl hbody,
        Loop.returns_iff_of_inl (vendorAttrBody_of_length_lt (by omega))]
    · exact Loop.returns_iff_of_inr hbody
  stuck {off r} hhdr hid hzero := by
    have hbody := vendorAttrBody_of_header targetAttrId bufAttr
      (hget (off + 1) hhdr) hhdr
    have hin : off + 3 ≤ ie.length := hhdr
    rw [hzero, if_neg (by omega), if_neg hid] at hbody
    exact Loop.not_returns_of_stuck hbody
  found {off} hhdr hid hfits := by
    have hbody := vendorAttrBody_of_header targetAttrId bufAttr
      (hget (off + 1) hhdr) hhdr
    rw [if_neg (by omega), if_pos hid] at hbody
    exact (Loop.returns_iff_of_inl hbody).2 rfl
  done {off} h := (Loop.returns_iff_of_inl (vendorAttrBody_of_length_lt (by omega))).2 rfl

/-- The loop is left with nothing where an attribute does not fit. -/
lemma returns_notFound_vendor (hget : ∀ off, off + 2 ≤ ie.length → (get16 ie off).isSome)
    (h : ie.length < off + 3 ∨ ie.length < off + step16 (vendorFormat get16) ie off) :
    Loop.Returns (vendorAttrBody get16 ie targetAttrId bufAttr) off .notFound := by
  by_cases hhdr : off + 3 ≤ ie.length
  · have hbody := vendorAttrBody_of_header targetAttrId bufAttr
      (hget (off + 1) hhdr) hhdr
    rw [if_pos (by omega)] at hbody
    exact (Loop.returns_iff_of_inl hbody).2 rfl
  · exact (Loop.returns_iff_of_inl (vendorAttrBody_of_length_lt (by omega))).2 rfl

/-- On an element of the kind that has attributes the function is its loop. -/
lemma findsAttr_vendor_iff :
    FindsAttr (vendorGetAttr oui get16 ie targetAttrId bufAttr) oui (vendorFormat get16) ie
        targetAttrId ↔
      (IsVendorIe oui ie → 6 < ie.length →
        Loop.Returns (vendorAttrBody get16 ie targetAttrId bufAttr) 6
          (.ofOption ((vendorFormat get16).find ie targetAttrId 6))) := by
  by_cases hkind : IsVendorIe oui ie
  · by_cases hlen : 6 < ie.length
    · simp [FindsAttr, firstAttr, vendorGetAttr, Loop.Returns, hkind, hlen, Nat.not_le.2 hlen,
        hkind.1, hkind.2]
    · have hnone : (vendorFormat get16).find ie targetAttrId 6 = none :=
        Format.find_of_length_lt (by show ie.length < 6 + 3; omega)
      simp [FindsAttr, firstAttr, vendorGetAttr, hkind, hlen, Nat.le_of_not_lt hlen, hnone,
        Outcome.ofOption]
  · have hnone (k : ℕ) : vendorGetAttr oui get16 ie targetAttrId bufAttr k = some .notFound := by
      unfold vendorGetAttr
      split
      · rfl
      · split
        · rfl
        · rename_i h0
          rw [if_pos fun h2 => hkind ⟨not_not.1 h0, h2⟩]
    simp [FindsAttr, firstAttr, hkind, hnone, Outcome.ofOption]

/-- What the search of a P2P or WFD element needs of the element. -/
def VendorIeOk (oui : List UInt8) (get16 : List UInt8 → ℕ → Option ℕ) (ie : List UInt8)
    (targetAttrId : ℕ) : Prop :=
  IsVendorIe oui ie → 6 < ie.length → SearchOk (vendorFormat get16) targetAttrId ie 6

lemma findsAttr_vendor_of_ok (hget : ∀ off, off + 2 ≤ ie.length → (get16 ie off).isSome)
    (hok : VendorIeOk oui get16 ie targetAttrId) :
    FindsAttr (vendorGetAttr oui get16 ie targetAttrId bufAttr) oui (vendorFormat get16) ie
      targetAttrId := by
  rw [findsAttr_vendor_iff]
  intro hkind hlen
  refine (searchLoop_vendor hget).returns_find (hok hkind hlen) (fun _ hends => ?_) .start
  exact returns_notFound_vendor hget (hends.imp id And.right)

lemma vendorIeOk_of_findsAttr (hget : ∀ off, off + 2 ≤ ie.length → (get16 ie off).isSome)
    (hbound : ie.length < 65536)
    (h : FindsAttr (vendorGetAttr oui get16 ie targetAttrId bufAttr) oui (vendorFormat get16) ie
      targetAttrId) : VendorIeOk oui get16 ie targetAttrId := by
  rw [findsAttr_vendor_iff] at h
  exact fun hkind hlen => (searchLoop_vendor hget).searchOk hbound (h hkind hlen)

end Vendor

/-! ### WPS -/

section Wps

variable {ie : List UInt8} {targetAttrId off : ℕ} {bufAttr : Bool}

lemma getBE16_eq_none (h : ie.length < off + 2) : getBE16 ie off = none := by
  unfold getBE16
  split
  · rename_i hi lo hhi hlo
    have := (List.getElem?_eq_some_iff.1 hlo).1
    omega
  · rfl

lemma size_wpsFormat (ie : List UInt8) (off : ℕ) :
    wpsFormat.size ie off = (getBE16 ie (off + 2)).getD 0 + 4 := Nat.add_comm _ _

/-- A pass at a header that lies inside the element. -/
lemma wpsAttrBody_of_header (targetAttrId : ℕ) (bufAttr : Bool) (h : off + 4 ≤ ie.length) :
    wpsAttrBody ie targetAttrId bufAttr off =
      if wpsFormat.id ie off = targetAttrId then
        if bufAttr && decide (ie.length < off + step16 wpsFormat ie off) then .inl .outside
        else .inl (.found off (step16 wpsFormat ie off))
      else .inr (off + step16 wpsFormat ie off) := by
  obtain ⟨attrId, hid⟩ := Option.isSome_iff_exists.1
    (isSome_getBE16 (show off + 2 ≤ ie.length by omega))
  obtain ⟨attrDataLen, hlen⟩ := Option.isSome_iff_exists.1
    (isSome_getBE16 (show off + 2 + 2 ≤ ie.length by omega))
  have hformat : wpsFormat.id ie off = attrId := by simp [wpsFormat, hid]
  simp only [wpsAttrBody, if_pos (show off < ie.length by omega), hid, hlen, step16,
    size_wpsFormat, hformat, Option.getD_some]

lemma wpsAttrBody_of_length_le (h : ie.length ≤ off) :
    wpsAttrBody ie targetAttrId bufAttr off = .inl .notFound := by
  rw [wpsAttrBody, if_neg (by omega)]

/-- A header that the element ends in is read all the same. -/
lemma wpsAttrBody_of_cut (h : off < ie.length) (hcut : ie.length < off + 4) :
    wpsAttrBody ie targetAttrId bufAttr off = .inl .outside := by
  rw [wpsAttrBody, if_pos h, getBE16_eq_none (show ie.length < off + 2 + 2 by omega)]
  cases getBE16 ie off <;> rfl

lemma searchLoop_wps :
    SearchLoop wpsFormat targetAttrId ie
      (Loop.Returns (wpsAttrBody ie targetAttrId bufAttr)) where
  unique h h' := h.unique h'
  step {off r} hhdr hid := by
    have hbody := wpsAttrBody_of_header targetAttrId bufAttr hhdr
    rw [if_neg hid] at hbody
    exact Loop.returns_iff_of_inr hbody
  stuck {off r} hhdr hid hzero := by
    have hbody := wpsAttrBody_of_header targetAttrId bufAttr hhdr
    rw [if_neg hid, hzero] at hbody
    exact Loop.not_returns_of_stuck hbody
  found {off} hhdr hid hfits := by
    have hbody := wpsAttrBody_of_header targetAttrId bufAttr hhdr
    rw [if_pos hid, decide_eq_false (by omega), Bool.and_false, if_neg Bool.false_ne_true] at hbody
    exact (Loop.returns_iff_of_inl hbody).2 rfl
  done {off} h := (Loop.returns_iff_of_inl (wpsAttrBody_of_length_le h)).2 rfl

/-- What `rtw_get_wps_attr` needs of an element, besides what the other searches need. -/
structure WpsSearchOk (ie : List UInt8) (targetAttrId : ℕ) : Prop where
  search : SearchOk wpsFormat targetAttrId ie 6
  /-- Each header that is reached lies inside the element. -/
  headers : ∀ {w off}, Reaches wpsFormat targetAttrId ie 6 w off → off < ie.length →
    off + 4 ≤ ie.length
  /-- The attribute that is met lies inside the element. -/
  whole : ∀ {w off}, Reaches wpsFormat targetAttrId ie 6 w off → off + 4 ≤ ie.length →
    wpsFormat.id ie off = targetAttrId → off + step16 wpsFormat ie off ≤ ie.length

/-- The search is one that ends well. -/
lemma WpsSearchOk.returns_find (hok : WpsSearchOk ie targetAttrId) :
    Loop.Returns (wpsAttrBody ie targetAttrId bufAttr) 6
      (.ofOption (wpsFormat.find ie targetAttrId 6)) := by
  refine searchLoop_wps.returns_find hok.search (fun {w off} hreach hends => ?_) .start
  by_cases hhdr : off + 4 ≤ ie.length
  · rcases hends with hcut | ⟨hid, hout⟩
    · exact absurd hcut (Nat.not_lt.2 hhdr)
    · exact absurd (hok.whole hreach hhdr hid) (Nat.not_le.2 hout)
  · exact searchLoop_wps.done (Nat.le_of_not_lt fun hlt => hhdr (hok.headers hreach hlt))

/-- A search that finds what it should meets no header and no attribute that is cut. -/
lemma wpsSearchOk_of_returns (hbound : ie.length < 65536)
    (h : Loop.Returns (wpsAttrBody ie targetAttrId bufAttr) 6
      (.ofOption (wpsFormat.find ie targetAttrId 6))) : WpsSearchOk ie targetAttrId where
  search := searchLoop_wps.searchOk hbound h
  headers {w off} hreach hlt := by
    by_contra hcut
    have hthere := (searchLoop_wps.iff_of_reaches hreach).1 h
    rw [Loop.returns_iff_of_inl (wpsAttrBody_of_cut hlt (by omega))] at hthere
    cases hfind : wpsFormat.find ie targetAttrId 6 <;> simp [hfind, Outcome.ofOption] at hthere
  whole {w off} hreach hhdr hid := by
    by_contra hout
    have hthere := (searchLoop_wps.iff_of_reaches hreach).1 h
    have hsize : step16 wpsFormat ie off ≤ wpsFormat.size ie off := step16_le
    have hnone : wpsFormat.find ie targetAttrId off = none :=
      Format.find_of_not_whole (by omega)
    have hfind : wpsFormat.find ie targetAttrId 6 = none := by
      rw [find_of_reaches hbound hreach, hnone, ite_self]
    have hbody := wpsAttrBody_of_header targetAttrId bufAttr hhdr
    rw [if_pos hid] at hbody
    rw [hfind] at hthere
    split at hbody <;> rw [Loop.returns_iff_of_inl hbody] at hthere <;> cases hthere

/-- The function reads the bytes before the attributes, and goes on if they are those of a WPS
element. -/
lemma findsAttr_wps_iff :
    FindsAttr (rtwGetWpsAttr ie targetAttrId bufAttr) wpsOui wpsFormat ie targetAttrId ↔
      ie ≠ [] ∧ (ie[0]? = some vendorSpecificIe → 6 ≤ ie.length) ∧
        (IsVendorIe wpsOui ie → Loop.Returns (wpsAttrBody ie targetAttrId bufAttr) 6
          (.ofOption (wpsFormat.find ie targetAttrId 6))) := by
  unfold FindsAttr rtwGetWpsAttr firstAttr
  cases hbyte : ie[0]? with
  | none =>
      have hnil : ie = [] := by simpa using hbyte
      simp [hnil, IsVendorIe, Outcome.ofOption]
  | some eid =>
      have hne : ie ≠ [] := by
        rintro rfl
        simp at hbyte
      by_cases heid : eid = vendorSpecificIe
      · by_cases hlen : 6 ≤ ie.length
        · by_cases houi : (ie.drop 2).take 4 = wpsOui
          · simp [heid, hlen, Nat.not_lt.2 hlen, houi, hne, IsVendorIe, hbyte, Loop.Returns]
          · simp [heid, hlen, Nat.not_lt.2 hlen, houi, hne, IsVendorIe, Outcome.ofOption]
        · have hshort : ie.length < 6 := by omega
          cases hfirst : (if IsVendorIe wpsOui ie then wpsFormat.find ie targetAttrId 6
            else none) <;> simp [heid, hlen, hshort, Outcome.ofOption]
      · simp [heid, hne, IsVendorIe, hbyte, Outcome.ofOption]

/-- What `rtw_get_wps_attr` needs of the element. -/
structure WpsIeOk (ie : List UInt8) (targetAttrId : ℕ) : Prop where
  nonempty : ie ≠ []
  /-- The bytes that are compared lie inside the element. -/
  header : ie[0]? = some vendorSpecificIe → 6 ≤ ie.length
  attrs : IsVendorIe wpsOui ie → WpsSearchOk ie targetAttrId

lemma findsAttr_wps_of_ok (hok : WpsIeOk ie targetAttrId) :
    FindsAttr (rtwGetWpsAttr ie targetAttrId bufAttr) wpsOui wpsFormat ie targetAttrId :=
  findsAttr_wps_iff.2 ⟨hok.nonempty, hok.header, fun hkind => (hok.attrs hkind).returns_find⟩

lemma wpsIeOk_of_findsAttr (hbound : ie.length < 65536)
    (h : FindsAttr (rtwGetWpsAttr ie targetAttrId bufAttr) wpsOui wpsFormat ie targetAttrId) :
    WpsIeOk ie targetAttrId := by
  obtain ⟨hne, hlen, hreturns⟩ := findsAttr_wps_iff.1 h
  exact ⟨hne, hlen, fun hkind => wpsSearchOk_of_returns hbound (hreturns hkind)⟩

end Wps

/-! ### The three searches -/

/-- **The attribute searches.**  Each ends, reads inside the element only and returns the first
attribute of the id that lies wholly inside it, if sizes of more than 16 bits do not lead it
astray and, for WPS, the element is cut in no attribute that is looked at; and, in an element
whose length has 16 bits, only then. -/
theorem rtw_get_attr_iff (ie : List UInt8) (targetAttrId : ℕ) (bufAttr : Bool) :
    ((WpsIeOk ie targetAttrId →
        FindsAttr (rtwGetWpsAttr ie targetAttrId bufAttr) wpsOui wpsFormat ie targetAttrId) ∧
      (ie.length < 65536 →
        FindsAttr (rtwGetWpsAttr ie targetAttrId bufAttr) wpsOui wpsFormat ie targetAttrId →
          WpsIeOk ie targetAttrId)) ∧
    ((VendorIeOk p2pOui getLE16 ie targetAttrId →
        FindsAttr (rtwGetP2pAttr ie targetAttrId bufAttr) p2pOui (vendorFormat getLE16) ie
          targetAttrId) ∧
      (ie.length < 65536 →
        FindsAttr (rtwGetP2pAttr ie targetAttrId bufAttr) p2pOui (vendorFormat getLE16) ie
          targetAttrId → VendorIeOk p2pOui getLE16 ie targetAttrId)) ∧
    ((VendorIeOk wfdOui getBE16 ie targetAttrId →
        FindsAttr (rtwGetWfdAttr ie targetAttrId bufAttr) wfdOui (vendorFormat getBE16) ie
          targetAttrId) ∧
      (ie.length < 65536 →
        FindsAttr (rtwGetWfdAttr ie targetAttrId bufAttr) wfdOui (vendorFormat getBE16) ie
          targetAttrId → VendorIeOk wfdOui getBE16 ie targetAttrId)) := by
  have hle (off : ℕ) (h : off + 2 ≤ ie.length) := isSome_getLE16 h
  have hbe (off : ℕ) (h : off + 2 ≤ ie.length) := isSome_getBE16 h
  refine ⟨⟨findsAttr_wps_of_ok, wpsIeOk_of_findsAttr⟩, ⟨?_, ?_⟩, ?_, ?_⟩
  · exact findsAttr_vendor_of_ok hle
  · exact vendorIeOk_of_findsAttr hle
  · exact findsAttr_vendor_of_ok hbe
  · exact vendorIeOk_of_findsAttr hbe

/-- A P2P element with a capability and a channel attribute. -/
def p2pIe : List UInt8 :=
  [0xDD, 13, 0x50, 0x6F, 0x9A, 0x09, 2, 2, 0, 0x25, 0, 6, 1, 0, 7]

/-- The channel attribute is found. -/
theorem rtw_get_attr_iff_of_p2pIe :
    FindsAttr (rtwGetP2pAttr p2pIe 6 true) p2pOui (vendorFormat getLE16) p2pIe 6 ∧
      firstAttr p2pOui (vendorFormat getLE16) p2pIe 6 = some (11, 4) := by
  have hsize : ∀ a < 13, (vendorFormat getLE16).size p2pIe a < 65536 := by decide
  refine ⟨(rtw_get_attr_iff p2pIe 6 true).2.1.1 fun _ _ => searchOk_of_size_lt fun a ha => ?_,
    by decide⟩
  simp only [p2pIe, vendorFormat, List.length_cons, List.length_nil] at ha
  exact hsize a (by omega)

/-- A length field for which the step is zero keeps each of the loops at one place. -/
theorem rtw_get_attr_never_ends :
    ¬ FindsAttr (rtwGetWpsAttr [0xDD, 8, 0x00, 0x50, 0xF2, 0x04, 0x10, 0x4A, 0xFF, 0xFC] 0x1041
        false) wpsOui wpsFormat
        [0xDD, 8, 0x00, 0x50, 0xF2, 0x04, 0x10, 0x4A, 0xFF, 0xFC] 0x1041 ∧
      ¬ FindsAttr (rtwGetP2pAttr [0xDD, 7, 0x50, 0x6F, 0x9A, 0x09, 2, 0xFD, 0xFF] 6 false) p2pOui
        (vendorFormat getLE16) [0xDD, 7, 0x50, 0x6F, 0x9A, 0x09, 2, 0xFD, 0xFF] 6 ∧
      ¬ FindsAttr (rtwGetWfdAttr [0xDD, 7, 0x50, 0x6F, 0x9A, 0x0A, 2, 0xFF, 0xFD] 6 false) wfdOui
        (vendorFormat getBE16) [0xDD, 7, 0x50, 0x6F, 0x9A, 0x0A, 2, 0xFF, 0xFD] 6 := by
  refine ⟨fun h => ?_, fun h => ?_, fun h => ?_⟩
  · exact Loop.not_returns_of_stuck (by decide) ((findsAttr_wps_iff.1 h).2.2 (by decide))
  · exact Loop.not_returns_of_stuck (by decide)
      (findsAttr_vendor_iff.1 h (by decide) (by decide))
  · exact Loop.not_returns_of_stuck (by decide)
      (findsAttr_vendor_iff.1 h (by decide) (by decide))

end Rtl8723du
