import Rtl8723du.Ie.RateIe

/-!
# The supported rates of a station

`rtw_ies_get_supported_rate` notes in a table of the CCK and OFDM rates which of them the supported
rates element and the extended supported rates element hold, and which are marked there as basic,
and writes them out in the order of the table.  Of several elements of one id it reads the first.
-/

namespace Rtl8723du.Beacon

open Lib Lib.Elements

/-! ### The code -/

/-- `support_rate_handler`. -/
structure SupportRateHandler where
  rate : UInt8
  basic : Bool := false
  existence : Bool := false
deriving DecidableEq

/-- The rates of `support_rate_tbl`, from `IEEE80211_CCK_RATE_1MB` to `IEEE80211_OFDM_RATE_54MB`. -/
def supportRates : List UInt8 :=
  [0x02, 0x04, 0x0B, 0x16, 0x0C, 0x12, 0x18, 0x24, 0x30, 0x48, 0x60, 0x6C]

/-- `support_rate_tbl`. -/
def supportRateTbl : List SupportRateHandler := supportRates.map fun rate => { rate }

/-- The byte marks its rate as basic. -/
def isBasicRate (b : UInt8) : Bool := b &&& basicRateMask != 0

/-- A byte of an element is compared with a row of the table. -/
def SupportRateHandler.note (row : SupportRateHandler) (b : UInt8) : SupportRateHandler :=
  if rateOf b = row.rate then
    { row with existence := true, basic := if isBasicRate b then true else row.basic }
  else row

/-- The rates of the element with the id, if there is one. -/
def noteRates (ies : List UInt8) (iesLen : ℕ) (id : UInt8) (tbl : List SupportRateHandler) :
    List SupportRateHandler :=
  match rtwGetIe ies 0 id iesLen with
  | none => tbl
  | some (ie, ieLen) => tbl.map fun row => ((ies.drop (ie + 2)).take ieLen).foldl (·.note ·) row

/-- `rtw_ies_get_supported_rate`: whether it succeeds, and `rate_set` up to `rate_num`. -/
def rtwIesGetSupportedRate (ies : List UInt8) (iesLen : ℕ) : Bool × List UInt8 :=
  let tbl := noteRates ies iesLen extSupportedRatesIe
    (noteRates ies iesLen supportedRatesIe supportRateTbl)
  let rateSet := (tbl.filter (·.existence)).map fun row =>
    if row.basic then row.rate ||| basicRateMask else row.rate
  (rateSet.length != 0, rateSet)

/-! ### What it is for -/

/-- The data of the first element of an id. -/
def dataOf (es : List Element) (id : UInt8) : List UInt8 :=
  ((es.find? fun e => e.id == id).map (·.data)).getD []

/-- The bytes of the two rates elements. -/
def rateBytes (es : List Element) : List UInt8 :=
  dataOf es supportedRatesIe ++ dataOf es extSupportedRatesIe

/-- The rates that occur among the bytes, each once and in the order of the table, marked as basic
where one of them is. -/
structure RateSetOf (bytes rateSet : List UInt8) : Prop where
  order : (rateSet.map rateOf).Sublist supportRates
  mem : ∀ rate ∈ supportRates, rate ∈ rateSet.map rateOf ↔ ∃ b ∈ bytes, rateOf b = rate
  basic : ∀ r ∈ rateSet, isBasicRate r = true ↔
    ∃ b ∈ bytes, rateOf b = rateOf r ∧ isBasicRate b = true

/-! ### Proofs -/

variable {es es' : List Element} {id : UInt8} {bytes data : List UInt8}
  {row : SupportRateHandler}

/-- What is noted in a row when the bytes were compared with it. -/
lemma foldl_note (data : List UInt8) (row : SupportRateHandler) : data.foldl (·.note ·) row =
    { row with
      existence := row.existence || data.any fun b => rateOf b == row.rate
      basic := row.basic || data.any fun b => rateOf b == row.rate && isBasicRate b } := by
  induction data generalizing row with
  | nil => simp
  | cons b data ih =>
      rw [List.foldl_cons, ih, SupportRateHandler.note]
      by_cases hrate : rateOf b = row.rate
      · cases hbasic : isBasicRate b <;> simp [hrate, hbasic]
      · have hne : (rateOf b == row.rate) = false := beq_eq_false_iff_ne.2 hrate
        simp [hrate, hne]

/-- The search for a rates element in a string of elements. -/
lemma noteRates_encode (es : List Element) (id : UInt8) (tbl : List SupportRateHandler) :
    noteRates (encode es) (encode es).length id tbl =
      tbl.map fun row => (dataOf es id).foldl (·.note ·) row := by
  have hat : At (encode es) 0 es := List.prefix_refl _
  rw [noteRates, dataOf]
  rcases exists_first_id id es with hnone | ⟨pre, e, post, rfl, hpre, he⟩
  · rw [rtwGetIe_eq_none_of_at hat hnone rfl, List.find?_eq_none.2 fun x hx => by simp [hnone x hx]]
    simp
  · have hfind : (pre ++ e :: post).find? (fun x => x.id == id) = some e := by
      rw [List.find?_append, List.find?_eq_none.2 fun x hx => by simp [hpre x hx]]
      simp [he]
    have hlimit : (encode pre).length < (encode (pre ++ e :: post)).length := by
      simp [Element.size]
    have hdata := (hat.right).data_eq
    rw [rtwGetIe_of_at hat hpre he hlimit, hfind]
    simp only [hdata, Option.map_some, Option.getD_some]

/-- The row of a rate when both elements were read. -/
def notedRow (bytes : List UInt8) (rate : UInt8) : SupportRateHandler where
  rate
  existence := bytes.any fun b => rateOf b == rate
  basic := bytes.any fun b => rateOf b == rate && isBasicRate b

lemma rtwIesGetSupportedRate_encode (es : List Element) :
    (rtwIesGetSupportedRate (encode es) (encode es).length).2 =
      ((supportRates.map (notedRow (rateBytes es))).filter (·.existence)).map fun row =>
        if row.basic then row.rate ||| basicRateMask else row.rate := by
  have hrows : noteRates (encode es) (encode es).length extSupportedRatesIe
      (noteRates (encode es) (encode es).length supportedRatesIe supportRateTbl) =
        supportRates.map (notedRow (rateBytes es)) := by
    rw [noteRates_encode, noteRates_encode, supportRateTbl, List.map_map, List.map_map]
    refine List.map_congr_left fun rate _ => ?_
    show (dataOf es extSupportedRatesIe).foldl _ ((dataOf es supportedRatesIe).foldl _ _) = _
    rw [foldl_note, foldl_note, notedRow, rateBytes, List.any_append, List.any_append]
    simp
  rw [rtwIesGetSupportedRate, hrows]

/-- A rate as it is written out. -/
def writtenRate (bytes : List UInt8) (rate : UInt8) : UInt8 :=
  if (notedRow bytes rate).basic then rate ||| basicRateMask else rate

lemma rateOf_writtenRate {rate : UInt8} (h : rate ∈ supportRates) :
    rateOf (writtenRate bytes rate) = rate := by
  have hrates : ∀ r ∈ supportRates, rateOf (r ||| basicRateMask) = r ∧ rateOf r = r := by
    decide +kernel
  rw [writtenRate]
  split
  · exact (hrates rate h).1
  · exact (hrates rate h).2

lemma isBasicRate_writtenRate {rate : UInt8} (h : rate ∈ supportRates) :
    isBasicRate (writtenRate bytes rate) = (notedRow bytes rate).basic := by
  have hrates : ∀ r ∈ supportRates, isBasicRate (r ||| basicRateMask) = true ∧
      isBasicRate r = false := by decide +kernel
  rw [writtenRate]
  split
  · next hbasic => rw [(hrates rate h).1, hbasic]
  · next hbasic => rw [(hrates rate h).2, Bool.eq_false_iff.2 hbasic]

/-- The rates that occur, as they are written out. -/
def rateSetOf (bytes : List UInt8) : List UInt8 :=
  (supportRates.filter fun rate => (notedRow bytes rate).existence).map (writtenRate bytes)

lemma rtwIesGetSupportedRate_eq (es : List Element) :
    rtwIesGetSupportedRate (encode es) (encode es).length =
      ((rateSetOf (rateBytes es)).length != 0, rateSetOf (rateBytes es)) := by
  have hset : (rtwIesGetSupportedRate (encode es) (encode es).length).2 =
      rateSetOf (rateBytes es) := by
    rw [rtwIesGetSupportedRate_encode, List.filter_map, List.map_map]
    rfl
  exact Prod.ext (congrArg (fun l : List UInt8 => l.length != 0) hset) hset

lemma map_rateOf_rateSetOf (bytes : List UInt8) : (rateSetOf bytes).map rateOf =
    supportRates.filter fun rate => (notedRow bytes rate).existence := by
  rw [rateSetOf, List.map_map]
  refine (List.map_congr_left fun rate hrate => ?_).trans (List.map_id _)
  exact rateOf_writtenRate (List.mem_of_mem_filter hrate)

lemma existence_notedRow {rate : UInt8} : (notedRow bytes rate).existence = true ↔
    ∃ b ∈ bytes, rateOf b = rate := by
  simp [notedRow]

lemma basic_notedRow {rate : UInt8} : (notedRow bytes rate).basic = true ↔
    ∃ b ∈ bytes, rateOf b = rate ∧ isBasicRate b = true := by
  simp [notedRow]

lemma isRateSetOf_rateSetOf (bytes : List UInt8) : RateSetOf bytes (rateSetOf bytes) where
  order := by
    rw [map_rateOf_rateSetOf]
    exact List.filter_sublist
  mem := by
    intro rate hrate
    rw [map_rateOf_rateSetOf, List.mem_filter, existence_notedRow, and_iff_right hrate]
  basic := by
    rintro r hr
    obtain ⟨rate, hrate, rfl⟩ := List.mem_map.1 hr
    have hin := List.mem_of_mem_filter hrate
    rw [isBasicRate_writtenRate hin, rateOf_writtenRate hin, basic_notedRow]

/-- Only the values of the bytes matter. -/
lemma rateSetOf_congr {bytes' : List UInt8} (h : ∀ b, b ∈ bytes ↔ b ∈ bytes') :
    rateSetOf bytes = rateSetOf bytes' := by
  have hrow : notedRow bytes = notedRow bytes' := by
    funext rate
    rw [notedRow, notedRow, SupportRateHandler.mk.injEq]
    refine ⟨rfl, ?_, ?_⟩ <;> rw [Bool.eq_iff_iff, List.any_eq_true, List.any_eq_true] <;>
      exact exists_congr fun b => and_congr_left' (h b)
  have hwritten : writtenRate bytes = writtenRate bytes' := by
    funext rate
    rw [writtenRate, writtenRate, hrow]
  rw [rateSetOf, rateSetOf, hrow, hwritten]

/-- **The supported rates.**  On a string of elements `rtw_ies_get_supported_rate` writes the rates
that occur in the supported rates or extended supported rates element, succeeds if there are any,
and does the same for two strings with the same values in these elements. -/
theorem rtwIesGetSupportedRate_spec (es es' : List Element) :
    let r := rtwIesGetSupportedRate (encode es) (encode es).length
    RateSetOf (rateBytes es) r.2 ∧
      (r.1 = true ↔ ∃ b ∈ rateBytes es, rateOf b ∈ supportRates) ∧
      ((∀ b, b ∈ rateBytes es ↔ b ∈ rateBytes es') →
        rtwIesGetSupportedRate (encode es') (encode es').length = r) := by
  have hset := isRateSetOf_rateSetOf (rateBytes es)
  simp only [rtwIesGetSupportedRate_eq]
  refine ⟨hset, ?_, fun h => by rw [rateSetOf_congr h]⟩
  rw [bne_iff_ne, Ne, List.length_eq_zero_iff, ← List.map_eq_nil_iff (f := rateOf)]
  constructor
  · intro hne
    obtain ⟨rate, hmem⟩ := List.exists_mem_of_ne_nil _ hne
    have hrate := hset.order.subset hmem
    obtain ⟨b, hb, rfl⟩ := (hset.mem rate hrate).1 hmem
    exact ⟨b, hb, hrate⟩
  · rintro ⟨b, hb, hrate⟩
    exact List.ne_nil_of_mem ((hset.mem _ hrate).2 ⟨b, hb, rfl⟩)

/-- The rates of one element, and the same rates in another order in two. -/
theorem rtwIesGetSupportedRate_split :
    let es : List Element := [⟨supportedRatesIe, [0x82, 0x0C, 0x04, 0x02], by decide⟩]
    let es' : List Element := [⟨extSupportedRatesIe, [0x04], by decide⟩,
      ⟨supportedRatesIe, [0x0C, 0x02, 0x82], by decide⟩]
    rtwIesGetSupportedRate (encode es') (encode es').length =
      rtwIesGetSupportedRate (encode es) (encode es).length := by
  intro es es'
  have hbytes : rateBytes es = [0x82, 0x0C, 0x04, 0x02] ∧
    rateBytes es' = [0x0C, 0x02, 0x82, 0x04] := ⟨rfl, rfl⟩
  refine (rtwIesGetSupportedRate_spec es es').2.2 fun b => ?_
  have hperm : [0x82, 0x0C, 0x04, 0x02].Perm ([0x0C, 0x02, 0x82, 0x04] : List UInt8) := by decide
  rw [hbytes.1, hbytes.2]
  exact hperm.mem_iff

end Rtl8723du.Beacon
