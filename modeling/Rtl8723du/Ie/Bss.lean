import Rtl8723du.Lib.Elements

/-!
# The elements of a network

`WLAN_BSSID_EX` holds the body of a beacon: twelve bytes of fixed fields and the information
elements behind them, in a buffer of `MAX_IE_SZ` bytes.  `rtw_get_ie`, `rtw_get_ie_ex` and
`rtw_get_wps_ie` search an element from some offset of the buffer.
-/

namespace Rtl8723du.Beacon

open Lib Lib.Elements

/-- `MAX_IE_SZ`. -/
abbrev maxIeSz : ℕ := 768

/-- `_BEACON_IE_OFFSET_`, also `_FIXED_IE_LENGTH_`. -/
abbrev beaconIeOffset : ℕ := 12

def ssidIe : UInt8 := 0

def supportedRatesIe : UInt8 := 1

def timIe : UInt8 := 5

def extSupportedRatesIe : UInt8 := 50

/-- `WLAN_BSSID_EX`. -/
structure WlanBssidEx where
  /-- `Configuration.DSConfig`. -/
  dsConfig : ℕ
  supportedRates : List UInt8
  ieLength : ℕ
  ies : List UInt8
deriving DecidableEq

/-- A difference of two `u32`. -/
def sub32 (a b : ℕ) : ℕ := (a + 4294967296 - b) % 4294967296

lemma sub32_of_le {a b : ℕ} (h : b ≤ a) (ha : a < 4294967296) : sub32 a b = a - b := by
  unfold sub32
  rw [Nat.mod_eq_sub_mod (by omega), Nat.mod_eq_of_lt (by omega)]
  omega

/-- `rtw_get_ie` from an offset: where the element begins, and the length of its data. -/
def rtwGetIe (ies : List UInt8) (off : ℕ) (index : UInt8) (limit : ℕ) : Option (ℕ × ℕ) :=
  (search ies (fun a => ies.getD a 0 == index) (off + limit) (limit + 1) off).map
    fun a => (a, lenAt ies a)

/-- `rtw_get_ie_ex` from an offset: where the element begins, and its length. -/
def rtwGetIeEx (ies : List UInt8) (off inLen : ℕ) (eid : UInt8) (oui : Option (List UInt8)) :
    Option (ℕ × ℕ) :=
  (search ies (fun a => eid == ies.getD a 0 &&
      oui.all fun oui => (ies.drop (a + 2)).take oui.length == oui)
    (off + inLen) (inLen + 1) off).map fun a => (a, lenAt ies a + 2)

section Search

variable {ies : List UInt8} {a limit : ℕ} {es pre post : List Element} {e : Element}
  {index : UInt8}

/-- The first element of an id is found, if it is within the limit. -/
lemma rtwGetIe_of_at (h : At ies a (pre ++ e :: post)) (hpre : ∀ x ∈ pre, x.id ≠ index)
    (he : e.id = index) (hlimit : (encode pre).length < limit) :
    rtwGetIe ies a index limit = some (a + (encode pre).length, e.data.length) := by
  have hcount := length_le_encode pre
  rw [rtwGetIe, search_eq_some h (by omega) (fun p x q hsplit => ?_) ?_ (by omega),
    Option.map_some]
  · rw [At.lenAt_eq h.right]
  · rw [At.id_eq h.right, he]
    exact beq_self_eq_true _
  · subst hsplit
    rw [List.append_assoc] at h
    have hx : x.id ≠ index := hpre x (by simp)
    simp only [beq_eq_false_iff_ne]
    rw [At.id_eq (e := x) (l := q ++ e :: post) h.right]
    exact hx

/-- Nothing is found when no element up to the limit has the id. -/
lemma rtwGetIe_eq_none_of_at (h : At ies a es) (hes : ∀ x ∈ es, x.id ≠ index)
    (hlimit : (encode es).length = limit) : rtwGetIe ies a index limit = none := by
  have hcount := length_le_encode es
  rw [rtwGetIe, search_eq_none h (by omega) (fun p x q hsplit _ => ?_) (by omega),
    Option.map_none]
  subst hsplit
  simp only [beq_eq_false_iff_ne]
  rw [At.id_eq (e := x) (l := q) h.right]
  exact hes x (by simp)

end Search

/-! ### Blobs -/

/-- The network holds the fixed fields and the elements. -/
structure IsBlob (net : WlanBssidEx) (fixed : List UInt8) (es : List Element) : Prop where
  length_ies : net.ies.length = maxIeSz
  length_fixed : fixed.length = beaconIeOffset
  le : net.ieLength ≤ maxIeSz
  blob : net.ies.take net.ieLength = fixed ++ encode es

variable {net : WlanBssidEx} {fixed : List UInt8} {es pre post : List Element} {e : Element}
  {index : UInt8}

namespace IsBlob

lemma holds (h : IsBlob net fixed es) : Holds net.ies net.ieLength fixed es :=
  ⟨by rw [h.length_ies]; exact h.le, h.blob⟩

lemma ieLength_eq (h : IsBlob net fixed es) : net.ieLength = 12 + (encode es).length := by
  have hfixed : fixed.length = 12 := h.length_fixed
  rw [h.holds.len_eq, hfixed]

lemma ies_eq (h : IsBlob net fixed es) :
    net.ies = fixed ++ (encode es ++ net.ies.drop net.ieLength) := h.holds.bytes_eq

lemma at_elements (h : IsBlob net fixed es) : At net.ies 12 es := by
  have hfixed : fixed.length = 12 := h.length_fixed
  rw [← hfixed]
  exact h.holds.at_elements

/-- The elements of a blob are determined. -/
lemma unique {es' : List Element} (h : IsBlob net fixed es) (h' : IsBlob net fixed es') :
    es = es' := h.holds.unique h'.holds

/-- The first element of an id is found. -/
lemma rtwGetIe_eq_some (h : IsBlob net fixed (pre ++ e :: post)) (hpre : ∀ x ∈ pre, x.id ≠ index)
    (he : e.id = index) : rtwGetIe net.ies 12 index (net.ieLength - 12) =
      some (12 + (encode pre).length, e.data.length) := by
  refine rtwGetIe_of_at h.at_elements hpre he ?_
  have hlen : (encode (pre ++ e :: post)).length =
      (encode pre).length + (e.size + (encode post).length) := by simp
  have hpos : 0 < e.size := Nat.succ_pos _
  rw [h.ieLength_eq]
  omega

lemma rtwGetIe_eq_none (h : IsBlob net fixed es) (hes : ∀ x ∈ es, x.id ≠ index) :
    rtwGetIe net.ies 12 index (net.ieLength - 12) = none := by
  refine rtwGetIe_eq_none_of_at h.at_elements hes ?_
  rw [h.ieLength_eq]
  omega

end IsBlob

/-- A network with the given elements and nothing behind them. -/
def blobOf (dsConfig : ℕ) (fixed : List UInt8) (es : List Element) : WlanBssidEx where
  dsConfig
  supportedRates := List.replicate 16 0
  ieLength := (fixed ++ encode es).length
  ies := fixed ++ encode es ++ List.replicate (maxIeSz - (fixed ++ encode es).length) 0

lemma isBlob_blobOf {dsConfig : ℕ} (hfixed : fixed.length = beaconIeOffset)
    (hfits : (fixed ++ encode es).length ≤ maxIeSz) :
    IsBlob (blobOf dsConfig fixed es) fixed es := by
  refine ⟨?_, hfixed, hfits, List.take_left⟩
  rw [blobOf, List.length_append, List.length_replicate]
  exact Nat.add_sub_cancel' hfits

/-- The elements without the first of an id, and that one. -/
lemma exists_first_id (index : UInt8) (es : List Element) : (∀ x ∈ es, x.id ≠ index) ∨
    ∃ pre e post, es = pre ++ e :: post ∧ (∀ x ∈ pre, x.id ≠ index) ∧ e.id = index := by
  rcases exists_first (fun e => e.id == index) es with hnone | ⟨pre, e, post, hes, hpre, he⟩
  · exact .inl fun x hx => by simpa using hnone x hx
  · exact .inr ⟨pre, e, post, hes, fun x hx => by simpa using hpre x hx, by simpa using he⟩

end Rtl8723du.Beacon
