import Rtl8723du.Elems.Rsne

/-!
# The parser of the WPA element

`rtw_parse_wpa_ie` of `core/rtw_ieee80211.c`, with the position and what is left of the element
kept apart as the code does.  It looks at the first bytes without a check of the length.  Of the
list of key management suites it reads the first suite only, and neither the count nor whether the
list is there.
-/

namespace Rtl8723du.Elems

open Lib.Bytes

/-! ### The code -/

/-- `SUITE_1X`. -/
def suite1x : List UInt8 := [0x00, 0x50, 0xF2, 1]

/-- `WLAN_AKM_TYPE_8021X`. -/
abbrev wlanAkmType8021x : BitVec 32 := 0x1

/-- The outputs of `rtw_parse_wpa_ie`. -/
structure WpaInfo where
  groupCipher : BitVec 32 := 0
  pairwiseCipher : BitVec 32 := 0
  akm : BitVec 32 := 0
deriving DecidableEq

section

variable (ie : List UInt8)

/-- The key management suites. -/
def parseWpaAkm (info : WpaInfo) (pos : ℕ) (left : ℤ) : Option (Option WpaInfo) :=
  if 6 ≤ left then
    (bytesIn ie (pos + 2) 4).map fun s =>
      some (if s = suite1x then { info with akm := wlanAkmType8021x } else info)
  else some (some info)

/-- `pairwise_cipher`. -/
def parseWpaPairwise (info : WpaInfo) (pos : ℕ) (left : ℤ) : Option (Option WpaInfo) :=
  if 2 ≤ left then
    (getLe16 ie pos).bind fun count =>
      if count = 0 ∨ left - 2 < count * 4 then some none
      else
        (orSuites ie Assoc.rtwGetWpaCipherSuite count (pos + 2) info.pairwiseCipher).bind
          fun pairwiseCipher =>
            parseWpaAkm ie { info with pairwiseCipher } (pos + 2 + 4 * count) (left - 2 - 4 * count)
  else if left = 1 then some none
  else parseWpaAkm ie info pos left

/-- `group_cipher`. -/
def parseWpaGroup (pos : ℕ) (left : ℤ) : Option (Option WpaInfo) :=
  if 4 ≤ left then
    (bytesIn ie pos 4).bind fun s =>
      parseWpaPairwise ie { groupCipher := Assoc.rtwGetWpaCipherSuite s } (pos + 4) (left - 4)
  else if 0 < left then some none
  else parseWpaPairwise ie {} pos left

/-- `rtw_parse_wpa_ie` with outputs that are zero: what they are if it succeeds; nothing if it
reads outside. -/
def rtwParseWpaIe : Option (Option WpaInfo) :=
  if ie.length = 0 then some none
  else
    (ie[0]?).bind fun id =>
      if id ≠ 0xDD then some none
      else
        (ie[1]?).bind fun len =>
          if len ≠ UInt8.ofNat ie.length - 2 then some none
          else
            (bytesIn ie 2 4).bind fun oui =>
              if oui ≠ Assoc.rtwWpaOuiType then some none
              else parseWpaGroup ie 8 (ie.length - 8)

end

/-! ### What it is for -/

/-- A list of suites at the beginning of a string, with its count, and what follows it; nothing if
it does not fit in.  At the end of the string the list may be missing. -/
def suiteList (bs : List UInt8) : Option (List (List UInt8) × List UInt8) :=
  if bs = [] then some ([], [])
  else if bs.length < 2 + 4 * leAt bs 0 2 then none
  else some ((List.range (leAt bs 0 2)).map fun i => (bs.drop (2 + 4 * i)).take 4,
    bs.drop (2 + 4 * leAt bs 0 2))

/-- The group suite and the two lists of a WPA element. -/
structure WpaLists where
  group : List UInt8
  pairwise : List (List UInt8)
  akm : List (List UInt8)

/-- The fields behind the version, if they fit in. -/
def wpaLists (body : List UInt8) : Option WpaLists :=
  if body = [] then some ⟨[], [], []⟩
  else if body.length < 4 then none
  else
    (suiteList (body.drop 4)).bind fun (pairwise, rest) =>
      (suiteList rest).map fun (akm, _) => ⟨body.take 4, pairwise, akm⟩

/-- The ciphers of the suites, and whether 802.1X is among the key management suites. -/
def WpaLists.info (l : WpaLists) : WpaInfo where
  groupCipher := Assoc.rtwGetWpaCipherSuite l.group
  pairwiseCipher := (l.pairwise.map Assoc.rtwGetWpaCipherSuite).foldl (· ||| ·) 0
  akm := if suite1x ∈ l.akm then wlanAkmType8021x else 0

/-- Id, length and OUI are right. -/
def WpaHeader (ie : List UInt8) : Prop :=
  6 ≤ ie.length ∧ ie[0]? = some 0xDD ∧ ie[1]? = some (UInt8.ofNat ie.length - 2) ∧
    (ie.drop 2).take 4 = Assoc.rtwWpaOuiType

instance (ie : List UInt8) : Decidable (WpaHeader ie) := inferInstanceAs (Decidable (_ ∧ _))

/-- The parser reads inside of the element only, rejects it if it is no WPA element or a list does
not fit in, and returns what it holds otherwise. -/
def ParseWpaIeOk (ie : List UInt8) : Prop :=
  rtwParseWpaIe ie = some (if WpaHeader ie then (wpaLists (ie.drop 8)).map (·.info) else none)

/-! ### When it does it -/

/-- What follows the pairwise ciphers is nothing, or a list of suites that fits in, with 802.1X in
the first place if it is there; behind an empty list its suite does not follow. -/
def AkmFine (rest : List UInt8) : Prop :=
  rest = [] ∨ ∃ akm tail, suiteList rest = some (akm, tail) ∧
    (suite1x ∈ akm → akm.head? = some suite1x) ∧ (akm = [] → tail.take 4 ≠ suite1x)

/-- A string that ends within the OUI differs in the id or the length byte.  Behind the group
suite, if a list of pairwise suites fits in, then it is missing, or it is not empty and `AkmFine`
holds of what follows, or it is empty and what follows does not fit in. -/
def WpaIeFine (ie : List UInt8) : Prop :=
  (ie.length < 6 → ie[0]? = some 0xDD → 2 ≤ ie.length ∧ ie[1]? ≠ some (UInt8.ofNat ie.length - 2)) ∧
    (WpaHeader ie → ∀ pairwise rest, suiteList (ie.drop 12) = some (pairwise, rest) →
      ie.drop 12 = [] ∨ pairwise ≠ [] ∧ AkmFine rest ∨ pairwise = [] ∧ suiteList rest = none)

/-! ### The lists -/

variable {ie bs rest : List UInt8} {info : WpaInfo} {pos : ℕ} {left : ℤ}
  {suites pairwise : List (List UInt8)}

lemma suiteList_of_le (hne : bs ≠ []) (h : 2 + 4 * leAt bs 0 2 ≤ bs.length) :
    suiteList bs = some ((List.range (leAt bs 0 2)).map fun i => (bs.drop (2 + 4 * i)).take 4,
      bs.drop (2 + 4 * leAt bs 0 2)) := by
  rw [suiteList, if_neg hne, if_neg (Nat.not_lt.2 h)]

lemma suiteList_of_lt (hne : bs ≠ []) (h : bs.length < 2 + 4 * leAt bs 0 2) :
    suiteList bs = none := by
  rw [suiteList, if_neg hne, if_pos h]

/-- What the code makes of the string behind the pairwise ciphers. -/
def firstAkm (info : WpaInfo) (rest : List UInt8) : WpaInfo :=
  if 6 ≤ rest.length ∧ (rest.drop 2).take 4 = suite1x then { info with akm := wlanAkmType8021x }
  else info

lemma parseWpaAkm_eq (hpos : pos ≤ ie.length) (hleft : left = ie.length - pos) :
    parseWpaAkm ie info pos left = some (some (firstAkm info (ie.drop pos))) := by
  have hlen : (ie.drop pos).length = ie.length - pos := List.length_drop
  rw [parseWpaAkm, firstAkm, hlen, List.drop_drop]
  by_cases hsix : 6 ≤ ie.length - pos
  · rw [if_pos (by omega), bytesIn_eq (by omega), Option.map_some]
    simp only [hsix, true_and]
  · rw [if_neg (by omega), if_neg fun h => hsix h.1]

/-- The list of pairwise ciphers and what follows. -/
lemma parseWpaPairwise_eq (hpos : pos ≤ ie.length) (hleft : left = ie.length - pos)
    (hzero : info.pairwiseCipher = 0) : parseWpaPairwise ie info pos left =
      some ((suiteList (ie.drop pos)).bind fun (pairwise, rest) =>
        if ie.drop pos ≠ [] ∧ pairwise = [] then none
        else some (firstAkm { info with
          pairwiseCipher :=
            (pairwise.map Assoc.rtwGetWpaCipherSuite).foldl (· ||| ·) 0 } rest)) := by
  have hlen : (ie.drop pos).length = ie.length - pos := List.length_drop
  rw [parseWpaPairwise]
  rcases Nat.lt_or_ge (ie.length - pos) 2 with hshort | htwo
  · rw [if_neg (by omega)]
    by_cases hone : left = 1
    · -- half a count
      have hne : ie.drop pos ≠ [] := fun h => by rw [h] at hlen; simp at hlen; omega
      rw [if_pos hone, suiteList_of_lt hne (by omega)]
      rfl
    · have hnil : ie.drop pos = [] := List.drop_eq_nil_iff.2 (by omega)
      rw [if_neg hone, parseWpaAkm_eq hpos hleft, hnil]
      simp [suiteList, ← hzero]
  · have hne : ie.drop pos ≠ [] := fun h => by rw [h] at hlen; simp at hlen; omega
    rw [if_pos (by omega), getLe16_eq (by omega), Option.bind_some]
    generalize hcount : leAt (ie.drop pos) 0 2 = count
    rcases Nat.lt_or_ge (ie.drop pos).length (2 + 4 * count) with hout | hin
    · rw [if_pos (.inr (by omega)), suiteList_of_lt hne (by rw [hcount]; exact hout)]
      rfl
    · rw [suiteList_of_le hne (by rw [hcount]; exact hin), hcount]
      by_cases hnone : count = 0
      · subst hnone
        simp [hne]
      · rw [if_neg (by omega), orSuites_eq _ _ _ _ (by omega), Option.bind_some,
          parseWpaAkm_eq (by omega) (by omega)]
        simp only [Option.bind_some, List.map_eq_nil_iff, List.range_eq_nil, hnone, and_false,
          if_false, List.map_map, hzero, List.drop_drop, ← Nat.add_assoc, Function.comp_def]

/-! ### The element -/

lemma rtwParseWpaIe_of_header (h : WpaHeader ie) :
    rtwParseWpaIe ie = parseWpaGroup ie 8 (ie.length - 8) := by
  obtain ⟨hsix, hid, hlen, houi⟩ := h
  rw [rtwParseWpaIe, if_neg (by omega), hid, Option.bind_some, if_neg (by simp), hlen,
    Option.bind_some, if_neg (by simp), bytesIn_eq (by omega), Option.bind_some,
    if_neg (by rw [houi]; simp)]

/-- A string that is no WPA element is rejected, but for one that ends within the OUI. -/
lemma rtwParseWpaIe_of_not_header (h : ¬ WpaHeader ie) : rtwParseWpaIe ie = some none ↔
    (ie.length < 6 → ie[0]? = some 0xDD →
      2 ≤ ie.length ∧ ie[1]? ≠ some (UInt8.ofNat ie.length - 2)) := by
  rw [rtwParseWpaIe]
  rcases ie with _ | ⟨id, rest⟩
  · simp
  rw [if_neg (by simp), List.getElem?_cons_zero, Option.bind_some]
  by_cases hid : id = 0xDD
  · rw [if_neg (by simpa using hid)]
    rcases hlen : (id :: rest)[1]? with _ | len
    · have hshort : (id :: rest).length ≤ 1 := List.getElem?_eq_none_iff.1 hlen
      refine iff_of_false (fun h => by cases h) fun h' => ?_
      have := (h' (by omega) (by rw [hid])).1
      omega
    · rw [Option.bind_some]
      have htwo : 2 ≤ (id :: rest).length := (List.getElem?_eq_some_iff.1 hlen).1
      by_cases heq : len = UInt8.ofNat (id :: rest).length - 2
      · rw [if_neg (by simpa using heq)]
        rcases Nat.lt_or_ge (id :: rest).length 6 with hcut | hsix
        · rw [bytesIn, if_neg (by decide), if_neg (by omega)]
          exact iff_of_false (fun h => by cases h) fun h' =>
            (h' hcut (by rw [hid])).2 (by rw [heq])
        · rw [bytesIn_eq (by omega), Option.bind_some, if_pos]
          · exact iff_of_true rfl fun hcut => absurd hcut (Nat.not_lt.2 hsix)
          · intro houi
            exact h ⟨hsix, by rw [hid]; rfl, by rw [hlen, heq], houi⟩
      · rw [if_pos heq]
        exact iff_of_true rfl fun _ _ => ⟨htwo, fun h' => heq (Option.some.inj h')⟩
  · rw [if_pos hid]
    exact iff_of_true rfl fun _ h' => absurd (Option.some.inj h') hid

/-- The code looks for 802.1X right behind the count. -/
lemma firstAkm_eq (hzero : info.akm = 0) : firstAkm info rest =
    { info with akm := if (rest.drop 2).take 4 = suite1x then wlanAkmType8021x else 0 } := by
  rw [firstAkm]
  by_cases hsuite : (rest.drop 2).take 4 = suite1x
  · have hlen := congrArg List.length hsuite
    have hfour : suite1x.length = 4 := rfl
    rw [List.length_take, List.length_drop, hfour] at hlen
    rw [if_pos ⟨by omega, hsuite⟩, if_pos hsuite]
  · rw [if_neg fun h => hsuite h.2, if_neg hsuite, ← hzero]

lemma akm_ite_inj {p q : Prop} [Decidable p] [Decidable q] :
    (if p then wlanAkmType8021x else 0) = (if q then wlanAkmType8021x else 0) ↔ (p ↔ q) := by
  by_cases hp : p <;> by_cases hq : q <;> simp [hp, hq]

/-- The list has 802.1X in it exactly if the code finds it there. -/
lemma akmFine_iff : AkmFine rest ↔ ∃ akm tail, suiteList rest = some (akm, tail) ∧
    ((rest.drop 2).take 4 = suite1x ↔ suite1x ∈ akm) := by
  by_cases hne : rest = []
  · subst hne
    exact iff_of_true (.inl rfl) ⟨[], [], rfl, iff_of_false (by decide) (by simp)⟩
  rw [AkmFine, or_iff_right hne]
  refine exists₂_congr fun akm tail => and_congr_right fun hlist => ?_
  rcases Nat.lt_or_ge rest.length (2 + 4 * leAt rest 0 2) with hout | hin
  · rw [suiteList_of_lt hne hout] at hlist
    cases hlist
  · rw [suiteList_of_le hne hin] at hlist
    obtain ⟨rfl, rfl⟩ := Prod.mk.inj (Option.some.inj hlist)
    rcases leAt rest 0 2 with _ | cnt
    · simp
    · have hhead : (List.range (cnt + 1)).map (fun i => (rest.drop (2 + 4 * i)).take 4) =
          (rest.drop 2).take 4 ::
            (List.range cnt).map fun i => (rest.drop (2 + 4 * (i + 1))).take 4 := by
        rw [List.range_succ_eq_map, List.map_cons, List.map_map]
        rfl
      rw [hhead, List.head?_cons, Option.some.injEq]
      constructor
      · rintro ⟨hfirst, -⟩
        exact ⟨fun h => by rw [h]; exact List.mem_cons_self, hfirst⟩
      · rintro h
        exact ⟨h.2, nofun⟩

/-- What the code makes of the string behind the pairwise ciphers is what the list there says. -/
lemma firstAkm_iff (hzero : info.akm = 0) : (some (firstAkm info rest) =
    (suiteList rest).map fun (akm, _) =>
      { info with akm := if suite1x ∈ akm then wlanAkmType8021x else 0 }) ↔ AkmFine rest := by
  rw [akmFine_iff, firstAkm_eq hzero]
  rcases suiteList rest with _ | ⟨akm, tail⟩
  · simp
  · simp only [Option.map_some, Option.some.injEq, WpaInfo.mk.injEq, true_and, akm_ite_inj]
    constructor
    · intro h
      exact ⟨akm, tail, rfl, h⟩
    · rintro ⟨akm', tail', heq, h⟩
      obtain ⟨rfl, rfl⟩ := Prod.mk.inj heq
      exact h

/-- The lists behind the group suite. -/
lemma parseWpaPairwise_iff (hpos : pos ≤ ie.length) (hleft : left = ie.length - pos)
    (hpairwise : info.pairwiseCipher = 0) (hakm : info.akm = 0) :
    parseWpaPairwise ie info pos left =
      some ((suiteList (ie.drop pos)).bind fun (pairwise, rest) =>
        (suiteList rest).map fun (akm, _) => { info with
          pairwiseCipher := (pairwise.map Assoc.rtwGetWpaCipherSuite).foldl (· ||| ·) 0
          akm := if suite1x ∈ akm then wlanAkmType8021x else 0 }) ↔
    ∀ pairwise rest, suiteList (ie.drop pos) = some (pairwise, rest) →
      ie.drop pos = [] ∨ pairwise ≠ [] ∧ AkmFine rest ∨ pairwise = [] ∧ suiteList rest = none := by
  rw [parseWpaPairwise_eq hpos hleft hpairwise, Option.some.injEq]
  by_cases hne : ie.drop pos = []
  · rw [hne]
    refine iff_of_true ?_ fun _ _ _ => .inl rfl
    simp [suiteList, firstAkm, ← hakm]
  rcases hlist : suiteList (ie.drop pos) with _ | ⟨pairwise, rest⟩
  · exact iff_of_true rfl nofun
  · simp only [Option.bind_some, hne, ne_eq, not_false_eq_true, true_and, false_or,
      Option.some.injEq, Prod.mk.injEq]
    by_cases hempty : pairwise = []
    · -- the code rejects an empty list
      subst hempty
      rw [if_pos rfl]
      rcases hrest : suiteList rest with _ | ⟨akm, tail⟩
      · exact iff_of_true rfl (by rintro _ _ ⟨rfl, rfl⟩; exact .inr ⟨rfl, hrest⟩)
      · refine iff_of_false nofun fun h => ?_
        have := h [] rest ⟨rfl, rfl⟩
        simp [hrest] at this
    · rw [if_neg hempty]
      refine (firstAkm_iff ?_).trans ?_
      · exact hakm
      · constructor
        · rintro h _ _ ⟨rfl, rfl⟩
          exact .inl ⟨hempty, h⟩
        · intro h
          exact ((h pairwise rest ⟨rfl, rfl⟩).resolve_right fun h' => hempty h'.1).2

/-- The parser keeps to the element and returns what it holds exactly if `WpaIeFine` holds. -/
theorem parseWpaIe_iff (ie : List UInt8) : ParseWpaIeOk ie ↔ WpaIeFine ie := by
  rw [ParseWpaIeOk, WpaIeFine]
  by_cases hheader : WpaHeader ie
  · have hsix := hheader.1
    rw [rtwParseWpaIe_of_header hheader, if_pos hheader,
      and_iff_right fun hcut => absurd hcut (Nat.not_lt.2 hsix), imp_iff_right hheader,
      parseWpaGroup, wpaLists]
    have hlen : (ie.drop 8).length = ie.length - 8 := List.length_drop
    rcases Nat.lt_or_ge ie.length 12 with hshort | hlong
    · have hnil : ie.drop 12 = [] := List.drop_eq_nil_iff.2 (by omega)
      rw [if_neg (by omega), hnil]
      refine iff_of_true ?_ fun _ _ _ => .inl rfl
      rcases Nat.lt_or_ge 8 ie.length with hpart | hend
      · have hne : ie.drop 8 ≠ [] := fun h => by rw [h] at hlen; simp at hlen; omega
        rw [if_pos (by omega), if_neg hne, if_pos (by omega)]
        rfl
      · have hnil' : ie.drop 8 = [] := List.drop_eq_nil_iff.2 hend
        rw [if_neg (by omega), if_pos hnil', parseWpaPairwise, if_neg (by omega),
          if_neg (by omega), parseWpaAkm, if_neg (by omega)]
        rfl
    · have hne : ie.drop 8 ≠ [] := fun h => by rw [h] at hlen; simp at hlen; omega
      rw [if_pos (by omega), bytesIn_eq (by omega), Option.bind_some, if_neg hne,
        if_neg (by omega), List.drop_drop]
      have hleft : (ie.length : ℤ) - 8 - 4 = ie.length - (12 : ℕ) := by omega
      have hlists : parseWpaPairwise ie
          { groupCipher := Assoc.rtwGetWpaCipherSuite ((ie.drop 8).take 4) } 12 _ = _ ↔ _ :=
        parseWpaPairwise_iff hlong hleft rfl rfl
      refine Iff.trans ?_ hlists
      refine Iff.of_eq (congrArg _ (congrArg some ?_))
      rcases suiteList (ie.drop 12) with _ | ⟨pairwise, rest⟩
      · rfl
      · rw [Option.bind_some, Option.bind_some, Option.map_map]
        rfl
  · rw [if_neg hheader, rtwParseWpaIe_of_not_header hheader,
      and_iff_left fun h => absurd h hheader]

/-- Elements cut off within the OUI, with 802.1X as the second suite, and without the suites that
are announced. -/
theorem parseWpaIe_akm :
    rtwParseWpaIe [0xDD, 0x03, 0x00, 0x50, 0xF2] = none ∧
      ¬ ParseWpaIeOk [0xDD, 0x1A, 0x00, 0x50, 0xF2, 0x01, 0x01, 0x00, 0x00, 0x50, 0xF2, 0x02,
        0x01, 0x00, 0x00, 0x50, 0xF2, 0x02, 0x02, 0x00, 0x00, 0x50, 0xF2, 0x02,
        0x00, 0x50, 0xF2, 0x01] ∧
      ¬ ParseWpaIeOk [0xDD, 0x12, 0x00, 0x50, 0xF2, 0x01, 0x01, 0x00, 0x00, 0x50, 0xF2, 0x02,
        0x01, 0x00, 0x00, 0x50, 0xF2, 0x02, 0x02, 0x00] := by
  refine ⟨by decide, ?_, ?_⟩
  · rw [ParseWpaIeOk]
    decide
  · rw [ParseWpaIeOk]
    decide

end Rtl8723du.Elems
