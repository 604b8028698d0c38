import Rtl8723du.Ie.Bss
import Rtl8723du.Lib.Bytes

/-!
# The rates of a network and its wireless mode

`rtw_update_rate_bymode` takes the rates that a mode does not have out of the supported rates
element, with `rtw_filter_suppport_rateie`, and the extended rates elements out of the blob of an
802.11b network, with `rtw_ies_remove_ie`.  The filter collects rates in a buffer of sixteen bytes
whatever the length of the element.  After a removal `IELength` is shortened by the length of the
data only, without the header, and that once.
-/

namespace Rtl8723du.Beacon

open Lib Lib.Elements Lib.Bytes

/-! ### Rates -/

/-- `IEEE80211_BASIC_RATE_MASK`. -/
def basicRateMask : UInt8 := 0x80

/-- `NDIS_802_11_LENGTH_RATES_EX`. -/
abbrev lengthRatesEx : ℕ := 16

/-- `WIFI_CCKRATES`. -/
def wifiCckRates : List UInt8 := [0x82, 0x84, 0x8B, 0x96]

/-- `WIFI_OFDMRATES`. -/
def wifiOfdmRates : List UInt8 := [0x0C, 0x12, 0x18, 0x24, 0x30, 0x48, 0x60, 0x6C]

/-- `rtw_basic_rate_ofdm`. -/
def rtwBasicRateOfdm : List UInt8 := [0x8C, 0x98, 0xB0]

/-- The rate of a byte, without the bit that makes it a basic rate. -/
def rateOf (b : UInt8) : UInt8 := b &&& 0x7F

/-- What `rtw_is_cck_rate`, `rtw_is_ofdm_rate` and `rtw_is_basic_rate_ofdm` have in common. -/
def rateIn (rates : List UInt8) (rate : UInt8) : Bool := rates.any fun r => rateOf r == rateOf rate

/-- `rtw_is_cck_rate`. -/
def rtwIsCckRate : UInt8 → Bool := rateIn wifiCckRates

/-- `rtw_is_ofdm_rate`. -/
def rtwIsOfdmRate : UInt8 → Bool := rateIn wifiOfdmRates

/-- `rtw_is_basic_rate_ofdm`. -/
def rtwIsBasicRateOfdm : UInt8 → Bool := rateIn rtwBasicRateOfdm

/-- The kinds of rates that are kept, of `RATE_SECTION`. -/
inductive RateSection
  | cck
  | ofdm
deriving DecidableEq, Repr

/-- The rates of a kind. -/
def RateSection.holds : RateSection → UInt8 → Bool
  | .cck => rtwIsCckRate
  | .ofdm => rtwIsOfdmRate

/-- A rate as it is written back. -/
def keptRate (rate : UInt8) : UInt8 :=
  if rtwIsBasicRateOfdm rate then rate ||| basicRateMask else rate

lemma rateOf_keptRate (rate : UInt8) : rateOf (keptRate rate) = rateOf rate := by
  unfold keptRate
  split
  · have hbits : ∀ x : BitVec 8, (x ||| 0x80#8) &&& 0x7F#8 = x &&& 0x7F#8 := by decide
    exact UInt8.toBitVec_inj.1 (hbits rate.toBitVec)
  · rfl

/-! ### The two editors -/

/-- `rtw_filter_suppport_rateie`; nothing when it writes behind `new_rate`. -/
def rtwFilterSuppportRateie (net : WlanBssidEx) (keep : RateSection) : Option WlanBssidEx :=
  match rtwGetIe net.ies beaconIeOffset supportedRatesIe (net.ieLength - beaconIeOffset) with
  | none => some net
  | some (p, ieOrilen) =>
      let newRate := (((net.ies.drop (p + 2)).take ieOrilen).filter keep.holds).map keptRate
      if lengthRatesEx < newRate.length then none
      else
        let idx := newRate.length
        let ies := writeAt (writeAt net.ies (p + 1) [UInt8.ofNat idx]) (p + 2) newRate
        let remainIes := p + 2 + ieOrilen
        let remainLen := sub32 net.ieLength remainIes
        some { net with
          ies := writeAt ies (p + 2 + idx) ((ies.drop remainIes).take remainLen)
          ieLength := sub32 net.ieLength (ieOrilen - idx) }

/-- The loop of `rtw_ies_remove_ie`. -/
def removeLoop (eid : UInt8) (oui : Option (List UInt8)) :
    ℕ → List UInt8 → ℕ → ℕ → ℕ → List UInt8 × ℕ
  | 0, ies, iesLen, _, _ => (ies, iesLen)
  | k + 1, ies, iesLen, start, searchLen =>
      match rtwGetIeEx ies start searchLen eid oui with
      | none => (ies, iesLen)
      | some (targetIe, targetIelen) =>
          let remainIes := targetIe + targetIelen
          let remainLen := sub32 searchLen (remainIes - start)
          removeLoop eid oui k (writeAt ies targetIe ((ies.drop remainIes).take remainLen))
            (sub32 iesLen targetIelen) targetIe remainLen

/-- `rtw_ies_remove_ie`: the elements and their length. -/
def rtwIesRemoveIe (ies : List UInt8) (iesLen offset : ℕ) (eid : UInt8)
    (oui : Option (List UInt8)) : List UInt8 × ℕ :=
  if iesLen ≤ offset then (ies, iesLen)
  else removeLoop eid oui iesLen ies iesLen offset (iesLen - offset)

/-! ### `rtw_update_rate_bymode` -/

/-- `WIRELESS_11B`. -/
abbrev wireless11b : ℕ := 1

/-- `WIRELESS_11G`. -/
abbrev wireless11g : ℕ := 2

/-- `WIRELESS_11A`. -/
abbrev wireless11a : ℕ := 4

/-- `WIRELESS_11BG`. -/
abbrev wireless11bg : ℕ := 3

/-- `rtw_set_supported_rate`, for the types that `rtw_update_rate_bymode` gives. -/
def rtwSetSupportedRate (mode : ℕ) : List UInt8 :=
  let rates :=
    if mode = wireless11b then wifiCckRates
    else if mode = wireless11g ∨ mode = wireless11a then wifiOfdmRates
    else if mode = wireless11bg then wifiCckRates ++ wifiOfdmRates
    else []
  rates ++ List.replicate (lengthRatesEx - rates.length) 0

/-- The removal of the extended rates elements. -/
def removeExtRates (net : WlanBssidEx) (networkIelen : ℕ) : WlanBssidEx :=
  match rtwGetIe net.ies beaconIeOffset extSupportedRatesIe (net.ieLength - beaconIeOffset) with
  | none => net
  | some (_, ieLen) =>
      { net with
        ies := (rtwIesRemoveIe net.ies networkIelen beaconIeOffset extSupportedRatesIe none).1
        ieLength := sub32 net.ieLength ieLen }

/-- The elements of the network and its type by the mode, before the rates are set. -/
def updateIesByMode (net : WlanBssidEx) (mode : ℕ) : Option (WlanBssidEx × ℕ) :=
  if mode = wireless11b then
    (rtwFilterSuppportRateie net .cck).map fun net' =>
      (removeExtRates net' net.ieLength, wireless11b)
  else if 14 < net.dsConfig then
    (rtwFilterSuppportRateie net .ofdm).map fun net' => (net', wireless11a)
  else if mode &&& wireless11b = 0 then
    (rtwFilterSuppportRateie net .ofdm).map fun net' => (net', wireless11g)
  else some (net, wireless11bg)

/-- `rtw_update_rate_bymode`: the network and its type; nothing when the filter writes behind its
buffer. -/
def rtwUpdateRateBymode (net : WlanBssidEx) (mode : ℕ) : Option (WlanBssidEx × ℕ) :=
  (updateIesByMode net mode).map fun r =>
    ({ r.1 with supportedRates := rtwSetSupportedRate r.2 }, r.2)

/-! ### What it is for -/

/-- The kind of rates that is kept, where some are not. -/
def keptSection (dsConfig mode : ℕ) : Option RateSection :=
  if mode = wireless11b then some .cck
  else if 14 < dsConfig then some .ofdm
  else if mode &&& wireless11b = 0 then some .ofdm
  else none

/-- The supported rates element has exactly its rates of the kind, in their order; the other
elements are the same. -/
def KeepsRates (keep : RateSection) (es es' : List Element) : Prop :=
  ((∀ x ∈ es, x.id ≠ supportedRatesIe) ∧ es' = es) ∨
    ∃ pre e e' post, es = pre ++ e :: post ∧ (∀ x ∈ pre, x.id ≠ supportedRatesIe) ∧
      e.id = supportedRatesIe ∧ es' = pre ++ e' :: post ∧ e'.id = supportedRatesIe ∧
      e'.data.map rateOf = (e.data.filter keep.holds).map rateOf

/-- The elements of a network by its channel and the mode: the rates that are kept, and for
802.11b no extended rates. -/
def RatesOf (dsConfig mode : ℕ) (es es' : List Element) : Prop :=
  ∃ es₁, (match keptSection dsConfig mode with
      | none => es₁ = es
      | some keep => KeepsRates keep es es₁) ∧
    es' = if mode = wireless11b then es₁.filter (·.id ≠ extSupportedRatesIe) else es₁

/-- No more than sixteen rates are kept, and a network of 802.11b has no extended rates. -/
def RatesFit (dsConfig mode : ℕ) (es : List Element) : Prop :=
  (∀ keep ∈ keptSection dsConfig mode, ∀ e ∈ es.find? (·.id = supportedRatesIe),
      (e.data.filter keep.holds).length ≤ lengthRatesEx) ∧
    (mode = wireless11b → ∀ x ∈ es, x.id ≠ extSupportedRatesIe)

/-! ### The filter -/

variable {net net' : WlanBssidEx} {fixed : List UInt8} {es es' pre post : List Element}
  {e : Element} {k : RateSection}

/-- The element with the rates that are kept. -/
def keptElement (k : RateSection) (e : Element) : Element where
  id := e.id
  data := (e.data.filter k.holds).map keptRate
  short := by
    rw [List.length_map]
    exact (List.length_filter_le _ _).trans_lt e.short

lemma find?_eq_first (hpre : ∀ x ∈ pre, x.id ≠ supportedRatesIe) (he : e.id = supportedRatesIe) :
    (pre ++ e :: post).find? (·.id = supportedRatesIe) = some e := by
  rw [List.find?_append, List.find?_eq_none.2 (by simpa using hpre), Option.none_or,
    List.find?_cons_of_pos (by simpa using he)]

lemma keepsRates_keptElement (hpre : ∀ x ∈ pre, x.id ≠ supportedRatesIe)
    (he : e.id = supportedRatesIe) :
    KeepsRates k (pre ++ e :: post) (pre ++ keptElement k e :: post) := by
  refine .inr ⟨pre, e, keptElement k e, post, rfl, hpre, he, rfl, he, ?_⟩
  rw [keptElement, List.map_map]
  exact List.map_congr_left fun rate _ => rateOf_keptRate rate

/-- More than sixteen rates are written behind the buffer. -/
lemma filter_of_many (h : IsBlob net fixed (pre ++ e :: post))
    (hpre : ∀ x ∈ pre, x.id ≠ supportedRatesIe) (he : e.id = supportedRatesIe)
    (hmany : lengthRatesEx < (e.data.filter k.holds).length) :
    rtwFilterSuppportRateie net k = none := by
  have hdata := At.data_eq (e := e) (l := post) h.at_elements.right
  unfold rtwFilterSuppportRateie
  rw [h.rtwGetIe_eq_some hpre he]
  dsimp only
  rw [hdata, List.length_map, if_pos hmany]

/-- The supported rates element is filtered and what is behind it moves up. -/
lemma filter_of_few (h : IsBlob net fixed (pre ++ e :: post))
    (hpre : ∀ x ∈ pre, x.id ≠ supportedRatesIe) (he : e.id = supportedRatesIe)
    (hfew : (e.data.filter k.holds).length ≤ lengthRatesEx) :
    ∃ net', rtwFilterSuppportRateie net k = some net' ∧
      IsBlob net' fixed (pre ++ keptElement k e :: post) := by
  have hfixed : fixed.length = 12 := h.length_fixed
  have hdata := At.data_eq (e := e) (l := post) h.at_elements.right
  have hlen := h.ieLength_eq
  have hle : net.ieLength ≤ 768 := h.le
  have hshort := e.short
  have hcount : (e.data.filter k.holds).length ≤ e.data.length := List.length_filter_le ..
  have hsize : (encode (pre ++ e :: post)).length =
      (encode pre).length + (e.data.length + 2 + (encode post).length) := by
    simp [Element.size]
  set newRate := (e.data.filter k.holds).map keptRate with hnew
  have hnewlen : newRate.length = (e.data.filter k.holds).length := List.length_map ..
  obtain ⟨tail, hies⟩ : ∃ tail, net.ies = fixed ++ (encode (pre ++ e :: post) ++ tail) :=
    ⟨_, h.ies_eq⟩
  -- the blob up to the length byte
  obtain ⟨front, hfront⟩ : ∃ front, front = fixed ++ encode pre ++ [e.id] := ⟨_, rfl⟩
  have hfrontlen : front.length = 12 + (encode pre).length + 1 := by
    rw [hfront, List.length_append, List.length_append, hfixed]
    rfl
  have hsplit : net.ies = front ++
      (UInt8.ofNat e.data.length :: (e.data ++ (encode post ++ tail))) := by
    rw [hies, hfront, encode_append, encode_cons, Element.bytes]
    simp
  have hlenByte : writeAt net.ies (12 + (encode pre).length + 1) [UInt8.ofNat newRate.length] =
      (front ++ [UInt8.ofNat newRate.length]) ++ (e.data ++ (encode post ++ tail)) := by
    rw [hsplit, ← hfrontlen, writeAt_append]
    simp
  have hrates : writeAt (writeAt net.ies (12 + (encode pre).length + 1)
        [UInt8.ofNat newRate.length]) (12 + (encode pre).length + 2) newRate =
      (front ++ [UInt8.ofNat newRate.length] ++ newRate) ++
        (e.data.drop newRate.length ++ (encode post ++ tail)) := by
    have hpos : (front ++ [UInt8.ofNat newRate.length]).length =
        12 + (encode pre).length + 2 := by
      rw [List.length_append, hfrontlen]
      rfl
    rw [hlenByte, ← hpos, writeAt_append, List.drop_append_of_le_length (by omega)]
    simp only [List.append_assoc]
  set written := writeAt (writeAt net.ies (12 + (encode pre).length + 1)
    [UInt8.ofNat newRate.length]) (12 + (encode pre).length + 2) newRate with hwritten
  have hremainLen : sub32 net.ieLength (12 + (encode pre).length + 2 + e.data.length) =
      (encode post).length := by
    rw [sub32_of_le (by omega) (by omega)]
    omega
  have hremain : (written.drop (12 + (encode pre).length + 2 + e.data.length)).take
      (encode post).length = encode post := by
    have hpos : (front ++ [UInt8.ofNat newRate.length] ++ newRate ++
        e.data.drop newRate.length).length = 12 + (encode pre).length + 2 + e.data.length := by
      simp only [List.length_append, List.length_drop, List.length_singleton, hfrontlen]
      omega
    rw [hrates, ← List.append_assoc, ← hpos, List.drop_left, List.take_left]
  have hmoved : writeAt written (12 + (encode pre).length + 2 + newRate.length) (encode post) =
      (front ++ [UInt8.ofNat newRate.length] ++ newRate) ++ (encode post ++
        (e.data.drop newRate.length ++ (encode post ++ tail)).drop (encode post).length) := by
    have hpos : (front ++ [UInt8.ofNat newRate.length] ++ newRate).length =
        12 + (encode pre).length + 2 + newRate.length := by
      simp only [List.length_append, List.length_singleton, hfrontlen]
    rw [hrates, ← hpos, writeAt_append]
  have hkept : (encode (pre ++ keptElement k e :: post)).length =
      (encode pre).length + (newRate.length + 2 + (encode post).length) := by
    simp [Element.size, keptElement, hnew]
  have hnewLength : sub32 net.ieLength (e.data.length - newRate.length) =
      12 + (encode (pre ++ keptElement k e :: post)).length := by
    rw [sub32_of_le (by omega) (by omega), hkept]
    omega
  refine ⟨{ net with
    ies := writeAt written (12 + (encode pre).length + 2 + newRate.length) (encode post)
    ieLength := 12 + (encode (pre ++ keptElement k e :: post)).length }, ?_, ?_⟩
  · unfold rtwFilterSuppportRateie
    rw [h.rtwGetIe_eq_some hpre he]
    dsimp only
    rw [hdata, ← hnew, if_neg (by rw [hnewlen]; exact Nat.not_lt.2 hfew), ← hwritten, hremainLen,
      hremain, hnewLength]
  · have hbuffer : net.ies.length = 768 := h.length_ies
    have hwrittenLen : written.length = 768 := by
      rw [hwritten, length_writeAt, length_writeAt, hbuffer]
      · simp only [List.length_singleton]
        omega
      · rw [length_writeAt]
        · omega
        · simp only [List.length_singleton]
          omega
    refine ⟨?_, h.length_fixed, ?_, ?_⟩
    · change (writeAt written _ (encode post)).length = 768
      rw [length_writeAt, hwrittenLen]
      omega
    · change 12 + (encode (pre ++ keptElement k e :: post)).length ≤ 768
      omega
    · change (writeAt written _ (encode post)).take _ = _
      have hpos : (front ++ [UInt8.ofNat newRate.length] ++ newRate ++ encode post).length =
          12 + (encode (pre ++ keptElement k e :: post)).length := by
        simp only [List.length_append, List.length_singleton, hfrontlen]
        omega
      rw [hmoved, ← List.append_assoc, ← hpos, List.take_left, hfront, encode_append, encode_cons,
        Element.bytes]
      simp [keptElement, hnew]

/-- The elements as the filter leaves them. -/
def filterRates (k : RateSection) : List Element → List Element
  | [] => []
  | e :: es => if e.id = supportedRatesIe then keptElement k e :: es else e :: filterRates k es

lemma filterRates_of_none (hes : ∀ x ∈ es, x.id ≠ supportedRatesIe) : filterRates k es = es := by
  induction es with
  | nil => rfl
  | cons e es ih =>
      rw [filterRates, if_neg (hes e (by simp)), ih fun x hx => hes x (by simp [hx])]

lemma filterRates_of_first (hpre : ∀ x ∈ pre, x.id ≠ supportedRatesIe)
    (he : e.id = supportedRatesIe) :
    filterRates k (pre ++ e :: post) = pre ++ keptElement k e :: post := by
  induction pre with
  | nil => exact if_pos he
  | cons x pre ih =>
      rw [List.cons_append, filterRates, if_neg (hpre x (by simp)),
        ih fun y hy => hpre y (by simp [hy])]
      rfl

/-- The ids and lengths are the same for any way of keeping the rates. -/
lemma KeepsRates.shape (h : KeepsRates k es es') :
    es'.map (fun x => (x.id, x.size)) = (filterRates k es).map fun x => (x.id, x.size) := by
  rcases h with ⟨hes, rfl⟩ | ⟨pre, e, e', post, rfl, hpre, he, rfl, he', hdata⟩
  · rw [filterRates_of_none hes]
  · have hlength : e'.data.length = (keptElement k e).data.length := by
      have := congrArg List.length hdata
      simpa [keptElement] using this
    have hshape : (e'.id, e'.size) = ((keptElement k e).id, (keptElement k e).size) := by
      rw [Element.size, Element.size, hlength, he']
      exact congrArg (·, _) he.symm
    rw [filterRates_of_first hpre he]
    simp only [List.map_append, List.map_cons, hshape]

lemma keepsRates_filterRates (k : RateSection) (es : List Element) :
    KeepsRates k es (filterRates k es) := by
  rcases exists_first_id supportedRatesIe es with hnone | ⟨pre, e, post, rfl, hpre, he⟩
  · exact .inl ⟨hnone, filterRates_of_none hnone⟩
  · rw [filterRates_of_first hpre he]
    exact keepsRates_keptElement hpre he

lemma id_filterRates (k : RateSection) (es : List Element) :
    (filterRates k es).map (·.id) = es.map (·.id) := by
  induction es with
  | nil => rfl
  | cons e es ih =>
      rw [filterRates]
      split
      · rfl
      · rw [List.map_cons, ih, List.map_cons]

/-- The filter works if and only if no more than sixteen rates are kept. -/
lemma filter_iff (h : IsBlob net fixed es) :
    (∃ net', rtwFilterSuppportRateie net k = some net' ∧ IsBlob net' fixed (filterRates k es)) ∧
        (∀ e ∈ es.find? (·.id = supportedRatesIe), (e.data.filter k.holds).length ≤ 16) ∨
      rtwFilterSuppportRateie net k = none ∧
        ¬ ∀ e ∈ es.find? (·.id = supportedRatesIe), (e.data.filter k.holds).length ≤ 16 := by
  rcases exists_first_id supportedRatesIe es with hnone | ⟨pre, e, post, rfl, hpre, he⟩
  · left
    constructor
    · rw [filterRates_of_none hnone]
      refine ⟨net, ?_, h⟩
      unfold rtwFilterSuppportRateie
      rw [h.rtwGetIe_eq_none hnone]
    · rw [List.find?_eq_none.2 (by simpa using hnone)]
      simp
  · rw [find?_eq_first hpre he, filterRates_of_first hpre he]
    by_cases hfew : (e.data.filter k.holds).length ≤ 16
    · left
      exact ⟨filter_of_few h hpre he hfew, by simpa using hfew⟩
    · right
      exact ⟨filter_of_many h hpre he (Nat.not_le.1 hfew), by simpa using hfew⟩

/-! ### Extended rates -/

lemma length_encode_of_shape {es₁ es₂ : List Element}
    (h : es₁.map (fun x => (x.id, x.size)) = es₂.map fun x => (x.id, x.size)) :
    (encode es₁).length = (encode es₂).length := by
  have hsum : ∀ es : List Element,
      (encode es).length = ((es.map fun x => (x.id, x.size)).map Prod.snd).sum := by
    intro es
    rw [encode, List.length_flatMap, List.map_map]
    refine congrArg List.sum (List.map_congr_left fun x _ => ?_)
    exact x.length_bytes
  rw [hsum, hsum, h]

/-- Elements that are taken out make the string shorter by their headers, too. -/
lemma length_encode_filter_ext {l : List Element} (hx : e ∈ l) (he : e.id = extSupportedRatesIe) :
    (encode (l.filter (·.id ≠ extSupportedRatesIe))).length + e.size ≤ (encode l).length := by
  induction l with
  | nil => cases hx
  | cons x l ih =>
      have hle : (encode (l.filter (·.id ≠ extSupportedRatesIe))).length ≤
          (encode l).length := by
        exact (List.filter_sublist.flatMap _).length_le
      rw [List.filter_cons, encode_cons, List.length_append, Element.length_bytes]
      by_cases hid : x.id = extSupportedRatesIe
      · rw [if_neg (by simpa using hid)]
        rcases List.mem_cons.1 hx with rfl | hmem
        · omega
        · have := ih hmem
          omega
      · rw [if_pos (by simpa using hid), encode_cons, List.length_append, Element.length_bytes]
        rcases List.mem_cons.1 hx with rfl | hmem
        · exact absurd he hid
        · have := ih hmem
          omega

lemma removeExtRates_of_none (h : IsBlob net fixed es)
    (hes : ∀ x ∈ es, x.id ≠ extSupportedRatesIe) (networkIelen : ℕ) :
    removeExtRates net networkIelen = net := by
  unfold removeExtRates
  rw [h.rtwGetIe_eq_none hes]

/-- A removal leaves the length too large. -/
lemma removeExtRates_of_mem (h : IsBlob net fixed es) (hx : ∃ x ∈ es, x.id = extSupportedRatesIe)
    (networkIelen : ℕ) :
    12 + (encode (es.filter (·.id ≠ extSupportedRatesIe))).length <
      (removeExtRates net networkIelen).ieLength := by
  rcases exists_first_id extSupportedRatesIe es with hnone | ⟨pre, e, post, rfl, hpre, he⟩
  · obtain ⟨x, hmem, hid⟩ := hx
    exact absurd hid (hnone x hmem)
  · have hless := length_encode_filter_ext (e := e) (l := pre ++ e :: post) (by simp) he
    have hlen := h.ieLength_eq
    have hle : net.ieLength ≤ 768 := h.le
    have hsize : e.size = e.data.length + 2 := rfl
    unfold removeExtRates
    rw [h.rtwGetIe_eq_some hpre he]
    change _ < sub32 net.ieLength e.data.length
    rw [sub32_of_le (by omega) (by omega)]
    omega

/-! ### The exact condition -/

/-- The elements are right after an update. -/
def UpdatesRates (net : WlanBssidEx) (fixed : List UInt8) (mode : ℕ) (es : List Element) : Prop :=
  ∃ net' networkType es', rtwUpdateRateBymode net mode = some (net', networkType) ∧
    IsBlob net' fixed es' ∧ RatesOf net.dsConfig mode es es'

lemma IsBlob.setSupportedRates (h : IsBlob net fixed es) (rates : List UInt8) :
    IsBlob { net with supportedRates := rates } fixed es :=
  ⟨h.length_ies, h.length_fixed, h.le, h.blob⟩

lemma IsBlob.of_setSupportedRates {rates : List UInt8}
    (h : IsBlob { net with supportedRates := rates } fixed es) : IsBlob net fixed es :=
  ⟨h.length_ies, h.length_fixed, h.le, h.blob⟩

lemma updatesRates_iff_11b (h : IsBlob net fixed es) :
    UpdatesRates net fixed wireless11b es ↔ RatesFit net.dsConfig wireless11b es := by
  have hkept : keptSection net.dsConfig wireless11b = some .cck := rfl
  have hupdate : updateIesByMode net wireless11b =
      (rtwFilterSuppportRateie net .cck).map fun net' =>
        (removeExtRates net' net.ieLength, wireless11b) := rfl
  unfold UpdatesRates RatesFit rtwUpdateRateBymode RatesOf
  rw [hupdate, hkept]
  rcases filter_iff (k := .cck) h with ⟨⟨net₁, hfilter, hblob⟩, hfew⟩ | ⟨hfilter, hmany⟩
  · rw [hfilter]
    have hids : (∃ x ∈ filterRates .cck es, x.id = extSupportedRatesIe) ↔
        ∃ x ∈ es, x.id = extSupportedRatesIe := by
      have hmem : ∀ l : List Element, (∃ x ∈ l, x.id = extSupportedRatesIe) ↔
          extSupportedRatesIe ∈ l.map (·.id) := fun l => by simp
      rw [hmem, hmem, id_filterRates]
    by_cases hext : ∃ x ∈ es, x.id = extSupportedRatesIe
    · refine iff_of_false ?_ fun hfit => ?_
      · -- the recorded length is larger than that of the elements
        rintro ⟨net', t, es', hnet', hblob', es₁, hkeep, hes'⟩
        obtain ⟨rfl, -⟩ := Prod.mk.injEq _ _ _ _ ▸ Option.some.inj hnet'
        have hlen : (removeExtRates net₁ net.ieLength).ieLength = 12 + (encode es').length :=
          hblob'.of_setSupportedRates.ieLength_eq
        have hless := removeExtRates_of_mem hblob (hids.2 hext) net.ieLength
        have hshape := hkeep.shape
        have hfiltered : (encode es').length =
            (encode ((filterRates .cck es).filter (·.id ≠ extSupportedRatesIe))).length := by
          rw [hes', if_pos rfl]
          refine length_encode_of_shape ?_
          have hcomm : ∀ l : List Element,
              (l.filter (·.id ≠ extSupportedRatesIe)).map (fun x => (x.id, x.size)) =
                (l.map fun x => (x.id, x.size)).filter (·.1 ≠ extSupportedRatesIe) := by
            intro l
            rw [List.filter_map]
            rfl
          rw [hcomm, hcomm, hshape]
        omega
      · obtain ⟨x, hx, hid⟩ := hext
        exact hfit.2 rfl x hx hid
    · have hnone : ∀ x ∈ filterRates .cck es, x.id ≠ extSupportedRatesIe := fun x hx hid =>
        hext (hids.1 ⟨x, hx, hid⟩)
      refine iff_of_true ?_ ⟨by simpa using hfew, fun _ x hx hid => hext ⟨x, hx, hid⟩⟩
      have hblob' : IsBlob (removeExtRates net₁ net.ieLength) fixed (filterRates .cck es) := by
        rw [removeExtRates_of_none hblob hnone]
        exact hblob
      refine ⟨_, _, filterRates .cck es, rfl, hblob'.setSupportedRates _, filterRates .cck es,
        keepsRates_filterRates .cck es, ?_⟩
      · rw [if_pos rfl, List.filter_eq_self.2 (by simpa using hnone)]
  · rw [hfilter]
    refine iff_of_false ?_ fun hfit => hmany ?_
    · rintro ⟨net', t, es', hnet', -⟩
      cases hnet'
    · simpa using hfit.1

lemma updatesRates_iff_ofdm (h : IsBlob net fixed es) {mode n : ℕ}
    (hmode : mode ≠ wireless11b) (hkept : keptSection net.dsConfig mode = some .ofdm)
    (hupdate : updateIesByMode net mode =
      (rtwFilterSuppportRateie net .ofdm).map fun net' => (net', n)) :
    UpdatesRates net fixed mode es ↔ RatesFit net.dsConfig mode es := by
  unfold UpdatesRates RatesFit rtwUpdateRateBymode RatesOf
  rw [hupdate, hkept]
  rcases filter_iff (k := .ofdm) h with ⟨⟨net₁, hfilter, hblob⟩, hfew⟩ | ⟨hfilter, hmany⟩
  · rw [hfilter]
    refine iff_of_true ?_ ⟨by simpa using hfew, fun heq => absurd heq hmode⟩
    refine ⟨_, _, filterRates .ofdm es, rfl, hblob.setSupportedRates _, filterRates .ofdm es,
      keepsRates_filterRates .ofdm es, (if_neg hmode).symm⟩
  · rw [hfilter]
    refine iff_of_false ?_ fun hfit => hmany ?_
    · rintro ⟨net', t, es', hnet', -⟩
      cases hnet'
    · simpa using hfit.1

/-- **When the rates are updated right.**  `rtw_update_rate_bymode` turns a blob into the blob of
the elements with the rates that the mode retains if and only if no more than sixteen rates are
kept and, in 802.11b mode, there is no extended rates element. -/
theorem rtwUpdateRateBymode_iff (h : IsBlob net fixed es) (mode : ℕ) :
    UpdatesRates net fixed mode es ↔ RatesFit net.dsConfig mode es := by
  by_cases hb : mode = wireless11b
  · rw [hb]
    exact updatesRates_iff_11b h
  · by_cases hds : 14 < net.dsConfig
    · refine updatesRates_iff_ofdm (n := wireless11a) h hb ?_ ?_
      · rw [keptSection, if_neg hb, if_pos hds]
      · rw [updateIesByMode, if_neg hb, if_pos hds]
    · by_cases hcck : mode &&& wireless11b = 0
      · refine updatesRates_iff_ofdm (n := wireless11g) h hb ?_ ?_
        · rw [keptSection, if_neg hb, if_neg hds, if_pos hcck]
        · rw [updateIesByMode, if_neg hb, if_neg hds, if_pos hcck]
      · have hkept : keptSection net.dsConfig mode = none := by
          rw [keptSection, if_neg hb, if_neg hds, if_neg hcck]
        refine iff_of_true ?_ ⟨by simp [hkept], fun heq => absurd heq hb⟩
        have hupdate : updateIesByMode net mode = some (net, wireless11bg) := by
          rw [updateIesByMode, if_neg hb, if_neg hds, if_neg hcck]
        unfold UpdatesRates rtwUpdateRateBymode RatesOf
        rw [hupdate, hkept]
        exact ⟨_, _, es, rfl, h.setSupportedRates _, es, rfl, (if_neg hb).symm⟩

/-- An element with the given id and data. -/
def ieOf (id : UInt8) (data : List UInt8) (h : data.length < 256 := by decide) : Element :=
  ⟨id, data, h⟩

/-- A network with 1 and 6 Mb/s, on channel 6. -/
def mixedRates : List Element := [ieOf ssidIe [0x61], ieOf supportedRatesIe [0x82, 0x0C]]

theorem rtwUpdateRateBymode_iff_mixedRates :
    UpdatesRates (blobOf 6 (List.replicate 12 0) mixedRates) (List.replicate 12 0) wireless11b
      mixedRates :=
  (rtwUpdateRateBymode_iff (isBlob_blobOf (by decide) (by decide)) wireless11b).2
    ⟨by decide, by decide⟩

/-- The same with 9 Mb/s in an extended rates element. -/
def mixedExtRates : List Element := mixedRates ++ [ieOf extSupportedRatesIe [0x12]]

/-- For 802.11b, the removal leaves two bytes behind the elements in the blob. -/
theorem extRates_wrong_length :
    ((rtwUpdateRateBymode (blobOf 6 (List.replicate 12 0) mixedExtRates) wireless11b).map
        fun r => r.1.ieLength) = some 20 ∧
      ¬ UpdatesRates (blobOf 6 (List.replicate 12 0) mixedExtRates) (List.replicate 12 0)
        wireless11b mixedExtRates := by
  refine ⟨by decide +kernel, fun h => ?_⟩
  have hfit := (updatesRates_iff_11b (isBlob_blobOf (by decide) (by decide))).1 h
  exact absurd (hfit.2 rfl) (by decide)

end Rtl8723du.Beacon
