import Rtl8723du.Assoc.Rsn
import Rtl8723du.Elems.GetIe

/-!
# The parser of the RSN element

`rtw_rsne_info_parse` and `rtw_parse_wpa2_ie` of `core/rtw_ieee80211.c`, with the pointers into the
element that they hand on; a pointer is an offset, and `none` is NULL.
-/

namespace Rtl8723du.Elems

open Lib.Bytes

/-! ### The code -/

/-- `struct rsne_info`. -/
structure RsneInfo where
  gcs : Option ℕ := none
  pcsCnt : ℕ := 0
  pcsList : Option ℕ := none
  akmCnt : ℕ := 0
  akmList : Option ℕ := none
  cap : Option ℕ := none
  pmkidCnt : ℕ := 0
  pmkidList : Option ℕ := none
  gmcs : Option ℕ := none
  err : Bool := false
deriving DecidableEq, Repr

/-- `RTW_GET_LE16`; nothing if it reads outside. -/
def getLe16 (ie : List UInt8) (pos : ℕ) : Option ℕ := (bytesIn ie pos 2).map leNat

namespace RsneInfo

variable (ie : List UInt8)

/-- The element may end at `pos`, but not behind it. -/
def exitOrErr (info : RsneInfo) (pos : ℕ) : RsneInfo :=
  if ie.length ≠ pos then { info with err := true } else info

/-- Group Mgmt CS. -/
def parseGmcs (info : RsneInfo) (pos : ℕ) : Option RsneInfo :=
  if ie.length < pos + 4 then some (exitOrErr ie info pos)
  else some { info with gmcs := some pos }

/-- PMKID. -/
def parsePmkid (info : RsneInfo) (pos : ℕ) : Option RsneInfo :=
  if ie.length < pos + 2 then some (exitOrErr ie info pos)
  else
    (getLe16 ie pos).bind fun cnt =>
      if ie.length < pos + 2 + 16 * cnt then some { info with err := true }
      else parseGmcs ie { info with pmkidCnt := cnt, pmkidList := some (pos + 2) }
        (pos + 2 + 16 * cnt)

/-- RSN cap. -/
def parseCap (info : RsneInfo) (pos : ℕ) : Option RsneInfo :=
  if ie.length < pos + 2 then some (exitOrErr ie info pos)
  else parsePmkid ie { info with cap := some pos } (pos + 2)

/-- A count of suites, and the suites. -/
def parseSuites (info : RsneInfo) (pos : ℕ) (next : ℕ → ℕ → Option RsneInfo) : Option RsneInfo :=
  if ie.length < pos + 2 then some (exitOrErr ie info pos)
  else
    (getLe16 ie pos).bind fun cnt =>
      if ie.length < pos + 2 + 4 * cnt then some (exitOrErr ie info (pos + 2))
      else next cnt (pos + 2)

/-- AKM. -/
def parseAkm (info : RsneInfo) (pos : ℕ) : Option RsneInfo :=
  parseSuites ie info pos fun cnt pos =>
    parseCap ie { info with akmCnt := cnt, akmList := some pos } (pos + 4 * cnt)

/-- Pairwise CS. -/
def parsePcs (info : RsneInfo) (pos : ℕ) : Option RsneInfo :=
  parseSuites ie info pos fun cnt pos =>
    parseAkm ie { info with pcsCnt := cnt, pcsList := some pos } (pos + 4 * cnt)

/-- Group CS. -/
def parseGcs (info : RsneInfo) (pos : ℕ) : Option RsneInfo :=
  if ie.length < pos + 4 then some (exitOrErr ie info pos)
  else parsePcs ie { info with gcs := some pos } (pos + 4)

end RsneInfo

/-- `rtw_rsne_info_parse`, which fails where `err` is set; nothing if it reads outside. -/
def rtwRsneInfoParse (ie : List UInt8) : Option RsneInfo :=
  if ie.length < 4 then some { err := true }
  else do
    let id ← ie[0]?
    let len ← ie[1]?
    if id ≠ 48 ∨ len.toNat ≠ ie.length - 2 then some { err := true }
    else
      let ver ← getLe16 ie 2
      if ver ≠ 1 then some { err := true }
      else RsneInfo.parseGcs ie {} 4

/-- The loops of `rtw_parse_wpa2_ie` over a list of suites. -/
def orSuites (ie : List UInt8) (suite : List UInt8 → BitVec 32) :
    ℕ → ℕ → BitVec 32 → Option (BitVec 32)
  | 0, _, mask => some mask
  | cnt + 1, pos, mask =>
      (bytesIn ie pos 4).bind fun s => orSuites ie suite cnt (pos + 4) (mask ||| suite s)

/-- The suites of a list, if there is one. -/
def orList (ie : List UInt8) (suite : List UInt8 → BitVec 32) (list : Option ℕ) (cnt : ℕ) :
    Option (BitVec 32) :=
  list.elim (some 0) fun pos => orSuites ie suite cnt pos 0

/-- A single suite, if there is one. -/
def oneSuite (ie : List UInt8) (dflt : BitVec 32) (suite : Option ℕ) : Option (BitVec 32) :=
  suite.elim (some dflt) fun pos => (bytesIn ie pos 4).map Assoc.rtwGetRsnCipherSuite

/-- `rtw_parse_wpa2_ie`: what it returns if it succeeds; nothing if it reads outside. -/
def rtwParseWpa2Ie (rsnIe : List UInt8) : Option (Option Assoc.Wpa2Info) := do
  let info ← rtwRsneInfoParse rsnIe
  if info.err then some none
  else
    let groupCipher ← oneSuite rsnIe 0 info.gcs
    let pairwiseCipher ← orList rsnIe Assoc.rtwGetRsnCipherSuite info.pcsList info.pcsCnt
    let gmcs ← oneSuite rsnIe Assoc.wpaCipherBipCmac128 info.gmcs
    let akm ← orList rsnIe Assoc.rtwGetAkmSuiteBitmap info.akmList info.akmCnt
    let cap ← info.cap.elim (some 0) (getLe16 rsnIe)
    some (some ⟨groupCipher, pairwiseCipher, gmcs, akm, cap / 64 % 4, cap / 1024 % 4⟩)

/-! ### What it is for -/

/-- The fields behind the version. -/
inductive RsneField
  | gcs | pcs | akm | cap | pmkid | gmcs
deriving DecidableEq, Repr

namespace RsneField

/-- The number of bytes of a field with a count, without the count, for each entry. -/
def entry : RsneField → Option ℕ
  | .pcs | .akm => some 4
  | .pmkid => some 16
  | .gcs | .cap | .gmcs => none

/-- The number of bytes of a field without a count. -/
def fixed : RsneField → ℕ
  | .cap => 2
  | _ => 4

/-- The count of a field. -/
def cnt (k : RsneField) (b : List UInt8) : ℕ := if k.entry.isSome then leAt b 0 2 else 0

/-- Where the pointer to a field points: behind the count. -/
def hdr (k : RsneField) : ℕ := if k.entry.isSome then 2 else 0

/-- The bytes of a whole field. -/
def Whole (k : RsneField) (b : List UInt8) : Prop :=
  match k.entry with
  | some n => 2 ≤ b.length ∧ b.length = 2 + n * leAt b 0 2
  | none => b.length = k.fixed

/-- The order of the fields. -/
def all : List RsneField := [.gcs, .pcs, .akm, .cap, .pmkid, .gmcs]

end RsneField

/-- The bytes are the fields, cut at the end of one of them or right behind the count of a list of
suites, which is not zero; what follows the last field is ignored. -/
inductive Fields : List RsneField → List UInt8 → List (List UInt8) → Prop
  | ignored (tail : List UInt8) : Fields [] tail []
  | cut (ks : List RsneField) : Fields ks [] []
  | cutCount {k : RsneField} {b : List UInt8} (ks : List RsneField) :
      k.entry = some 4 → b.length = 2 → leAt b 0 2 ≠ 0 → Fields (k :: ks) b []
  | field {k : RsneField} {ks : List RsneField} {b rest : List UInt8} {fs : List (List UInt8)} :
      k.Whole b → Fields ks rest fs → Fields (k :: ks) (b ++ rest) (b :: fs)

/-- Id, length and version are right. -/
def RsneHeader (ie : List UInt8) : Prop :=
  ∃ len rest, ie = 48 :: len :: 1 :: 0 :: rest ∧ len.toNat = rest.length + 2

/-- Id, length and version are right, and the rest is fields. -/
def IsRsne (ie : List UInt8) (fs : List (List UInt8)) : Prop :=
  RsneHeader ie ∧ Fields RsneField.all (ie.drop 4) fs

namespace RsneInfo

/-- The pointer to a field. -/
def ptr (info : RsneInfo) : RsneField → Option ℕ
  | .gcs => info.gcs
  | .pcs => info.pcsList
  | .akm => info.akmList
  | .cap => info.cap
  | .pmkid => info.pmkidList
  | .gmcs => info.gmcs

/-- The count of a field; a field without a count has none. -/
def cnt (info : RsneInfo) : RsneField → ℕ
  | .pcs => info.pcsCnt
  | .akm => info.akmCnt
  | .pmkid => info.pmkidCnt
  | .gcs | .cap | .gmcs => 0

/-- The pointer and the count denote the field, if it is there. -/
structure Denotes (ie : List UInt8) (info : RsneInfo) (fs : List (List UInt8)) (i : ℕ)
    (k : RsneField) : Prop where
  present : ∀ b, fs[i]? = some b → ∃ off, off = 4 + (fs.take i).flatten.length ∧
    off + b.length ≤ ie.length ∧ (ie.drop off).take b.length = b ∧
    info.ptr k = some (off + k.hdr) ∧ info.cnt k = k.cnt b
  absent : fs[i]? = none → info.ptr k = none ∧ info.cnt k = 0

end RsneInfo

/-- The bits of the suites of a list. -/
def maskOf (suite : List UInt8 → BitVec 32) (b : List UInt8) : BitVec 32 :=
  ((List.range (leAt b 0 2)).map fun i => suite ((b.drop (2 + 4 * i)).take 4)).foldl (· ||| ·) 0

/-! ### Whole fields -/

variable {ie b c rest bs : List UInt8} {k : RsneField} {ks : List RsneField}
  {fs : List (List UInt8)} {n pos : ℕ}

lemma leAt_append_zero (h : 2 ≤ b.length) : leAt (b ++ rest) 0 2 = leAt b 0 2 :=
  leAt_append (by omega)

namespace RsneField.Whole

lemma two_le (h : k.Whole b) : 2 ≤ b.length := by
  rw [Whole] at h
  split at h
  · exact h.1
  · rw [h]
    cases k <;> decide

/-- The count is in the first bytes. -/
lemma length_eq (h : k.Whole b) :
    b.length = (k.entry.elim k.fixed fun n => 2 + n * leAt (b ++ rest) 0 2) := by
  rw [leAt_append_zero h.two_le]
  rw [Whole] at h
  split at h
  · next hk => rw [hk]; exact h.2
  · next hk => rw [hk]; exact h

/-- A string begins with one whole field only. -/
lemma unique {rest' : List UInt8} (hb : k.Whole b) (hc : k.Whole c) (h : b ++ rest = c ++ rest') :
    b = c ∧ rest = rest' := by
  refine List.append_inj h ?_
  rw [hb.length_eq, hc.length_eq, h]

end RsneField.Whole

lemma whole_take_fixed (hk : k.entry = none) (h : k.fixed ≤ bs.length) :
    k.Whole (bs.take k.fixed) := by
  rw [RsneField.Whole, hk]
  exact (List.length_take ..).trans (Nat.min_eq_left h)

lemma leAt_take (h : 2 ≤ n) : leAt (bs.take n) 0 2 = leAt bs 0 2 := by
  rw [leAt, List.drop_zero, List.take_take, Nat.min_eq_left h]
  rfl

lemma whole_take_entry (hk : k.entry = some n) (h : 2 + n * leAt bs 0 2 ≤ bs.length) :
    k.Whole (bs.take (2 + n * leAt bs 0 2)) := by
  have hlen : (bs.take (2 + n * leAt bs 0 2)).length = 2 + n * leAt bs 0 2 := by
    rw [List.length_take, Nat.min_eq_left h]
  rw [RsneField.Whole, hk]
  exact ⟨by omega, by rw [hlen, leAt_take (Nat.le_add_right ..)]⟩

/-! ### Fields of a string -/

/-- The fields may end here. -/
def CutAt (k : RsneField) (bs : List UInt8) : Prop :=
  bs = [] ∨ k.entry = some 4 ∧ bs.length = 2 ∧ leAt bs 0 2 ≠ 0

/-- Where a whole field stands, the fields go on. -/
lemma fields_of_whole (hb : k.Whole b) :
    Fields (k :: ks) (b ++ rest) fs ↔ ∃ fs', fs = b :: fs' ∧ Fields ks rest fs' := by
  have htwo := hb.two_le
  constructor
  · intro h
    generalize hbs : b ++ rest = bs at h
    cases h with
    | cut =>
        rw [List.append_eq_nil_iff] at hbs
        rw [hbs.1] at htwo
        exact absurd htwo (by decide)
    | cutCount _ hk hlen hcnt =>
        have hlen' := congrArg List.length hbs
        rw [List.length_append, hlen] at hlen'
        have hwhole : b.length = k.entry.elim k.fixed fun n => 2 + n * leAt (b ++ rest) 0 2 :=
          hb.length_eq
        rw [hk, hbs, Option.elim_some] at hwhole
        omega
    | field hc hrest =>
        obtain ⟨rfl, rfl⟩ := hb.unique hc hbs
        exact ⟨_, rfl, hrest⟩
  · rintro ⟨fs', rfl, h⟩
    exact .field hb h

/-- Where none stands, there are no more fields. -/
lemma fields_of_not_whole (h : ∀ b rest, bs = b ++ rest → ¬ k.Whole b) :
    Fields (k :: ks) bs fs ↔ CutAt k bs ∧ fs = [] := by
  constructor
  · intro hfields
    cases hfields with
    | cut => exact ⟨.inl rfl, rfl⟩
    | cutCount _ hk hlen hcnt => exact ⟨.inr ⟨hk, hlen, hcnt⟩, rfl⟩
    | field hb _ => exact absurd hb (h _ _ rfl)
  · rintro ⟨rfl | ⟨hk, hlen, hcnt⟩, rfl⟩
    · exact .cut _
    · exact .cutCount _ hk hlen hcnt

/-! ### The parser finds the fields -/

namespace RsneInfo

/-- What is noted of a whole field at an offset. -/
def note (info : RsneInfo) (off cnt : ℕ) : RsneField → RsneInfo
  | .gcs => { info with gcs := some off }
  | .pcs => { info with pcsCnt := cnt, pcsList := some (off + 2) }
  | .akm => { info with akmCnt := cnt, akmList := some (off + 2) }
  | .cap => { info with cap := some off }
  | .pmkid => { info with pmkidCnt := cnt, pmkidList := some (off + 2) }
  | .gmcs => { info with gmcs := some off }

/-- What is noted of fields that begin at an offset. -/
def noteAll (info : RsneInfo) (off : ℕ) : List RsneField → List (List UInt8) → RsneInfo
  | k :: ks, b :: fs => noteAll (info.note off (k.cnt b) k) (off + b.length) ks fs
  | _, _ => info

@[simp] lemma err_note (info : RsneInfo) (off cnt : ℕ) (k : RsneField) :
    (info.note off cnt k).err = info.err := by
  cases k <;> rfl

end RsneInfo

open RsneInfo

/-- From any offset the parser fails exactly if there are no fields, and notes them otherwise. -/
def Parses (ie : List UInt8) (ks : List RsneField) (p : RsneInfo → ℕ → Option RsneInfo) : Prop :=
  ∀ info pos, pos ≤ ie.length → info.err = false → ∃ info', p info pos = some info' ∧
    (info'.err = false ↔ ∃ fs, Fields ks (ie.drop pos) fs) ∧
    ∀ fs, Fields ks (ie.drop pos) fs → info' = noteAll info pos ks fs

lemma parses_nil : Parses ie [] fun info _ => some info := by
  intro info pos _ herr
  refine ⟨info, rfl, iff_of_true herr ⟨[], .ignored _⟩, fun fs _ => ?_⟩
  cases fs <;> rfl

/-- One field before the others. -/
lemma Parses.cons {p q : RsneInfo → ℕ → Option RsneInfo} (hq : Parses ie ks q)
    (hp : ∀ info pos, pos ≤ ie.length → info.err = false →
      (∃ b rest, ie.drop pos = b ++ rest ∧ k.Whole b ∧
        p info pos = q (info.note pos (k.cnt b) k) (pos + b.length)) ∨
      (∀ b rest, ie.drop pos = b ++ rest → ¬ k.Whole b) ∧ ∃ info', p info pos = some info' ∧
        (info'.err = false ↔ CutAt k (ie.drop pos)) ∧ (CutAt k (ie.drop pos) → info' = info)) :
    Parses ie (k :: ks) p := by
  intro info pos hpos herr
  rcases hp info pos hpos herr with ⟨b, rest, hdrop, hb, heq⟩ | ⟨hnot, info', heq, hcut, hinfo⟩
  · have hlen := congrArg List.length hdrop
    rw [List.length_drop, List.length_append] at hlen
    have htwo := hb.two_le
    have hrest : ie.drop (pos + b.length) = rest := by
      rw [← List.drop_drop, hdrop, List.drop_left]
    obtain ⟨info', hinfo', hok, hall⟩ := hq (info.note pos (k.cnt b) k) (pos + b.length)
      (by omega) (by rw [err_note, herr])
    rw [hrest] at hok hall
    refine ⟨info', heq.trans hinfo', hok.trans ?_, fun fs hfs => ?_⟩
    · rw [hdrop]
      constructor
      · rintro ⟨fs, hfs⟩
        exact ⟨b :: fs, .field hb hfs⟩
      · rintro ⟨fs, hfs⟩
        obtain ⟨fs', -, hfs'⟩ := (fields_of_whole hb).1 hfs
        exact ⟨fs', hfs'⟩
    · rw [hdrop] at hfs
      obtain ⟨fs', rfl, hfs'⟩ := (fields_of_whole hb).1 hfs
      exact hall fs' hfs'
  · refine ⟨info', heq, hcut.trans ?_, fun fs hfs => ?_⟩
    · constructor
      · intro h
        exact ⟨[], (fields_of_not_whole hnot).2 ⟨h, rfl⟩⟩
      · rintro ⟨fs, hfs⟩
        exact ((fields_of_not_whole hnot).1 hfs).1
    · obtain ⟨h, rfl⟩ := (fields_of_not_whole hnot).1 hfs
      exact hinfo h

/-- Where the element may end it may end. -/
lemma err_exitOrErr (info : RsneInfo) (herr : info.err = false) (hpos : pos ≤ ie.length) :
    ((exitOrErr ie info pos).err = false ↔ ie.drop pos = []) ∧
      (ie.drop pos = [] → exitOrErr ie info pos = info) := by
  have hnil : ie.drop pos = [] ↔ ie.length = pos := by
    rw [List.drop_eq_nil_iff]
    omega
  rw [exitOrErr, hnil]
  split
  · next hne => exact ⟨iff_of_false nofun hne, fun h => absurd h hne⟩
  · next heq => exact ⟨iff_of_true herr (not_not.1 heq), fun _ => rfl⟩

/-- A field without a count. -/
lemma Parses.fixed {p q : RsneInfo → ℕ → Option RsneInfo} (hk : k.entry = none)
    (hq : Parses ie ks q)
    (hp : ∀ info pos, p info pos = if ie.length < pos + k.fixed then
      some (exitOrErr ie info pos) else q (info.note pos 0 k) (pos + k.fixed)) :
    Parses ie (k :: ks) p := by
  refine hq.cons fun info pos hpos herr => ?_
  have hcut : CutAt k (ie.drop pos) ↔ ie.drop pos = [] := by
    rw [CutAt, or_iff_left]
    rintro ⟨h, -⟩
    rw [hk] at h
    cases h
  rw [hp, hcut]
  split
  · next hshort =>
      right
      refine ⟨fun b rest hdrop hb => ?_, _, rfl, err_exitOrErr info herr hpos⟩
      have hlen := congrArg List.length hdrop
      rw [RsneField.Whole, hk] at hb
      rw [List.length_drop, List.length_append] at hlen
      omega
  · next hlong =>
      left
      have hwhole : k.Whole ((ie.drop pos).take k.fixed) :=
        whole_take_fixed hk (by rw [List.length_drop]; omega)
      refine ⟨_, _, (List.take_append_drop k.fixed _).symm, hwhole, ?_⟩
      rw [RsneField.Whole, hk] at hwhole
      rw [hwhole, RsneField.cnt, hk]
      rfl

lemma getLe16_eq (h : pos + 2 ≤ ie.length) : getLe16 ie pos = some (leAt (ie.drop pos) 0 2) := by
  rw [getLe16, bytesIn, if_neg (by decide), if_pos h]
  rfl

/-- A field with a count; `short` is what is done if its entries are not there. -/
lemma Parses.entry {p q : RsneInfo → ℕ → Option RsneInfo} {short : RsneInfo → ℕ → RsneInfo}
    (hk : k.entry = some n) (hq : Parses ie ks q)
    (hshort : ∀ info pos, pos + 2 ≤ ie.length → info.err = false →
      ie.length < pos + 2 + n * leAt (ie.drop pos) 0 2 →
      ((short info pos).err = false ↔ CutAt k (ie.drop pos)) ∧
        (CutAt k (ie.drop pos) → short info pos = info))
    (hp : ∀ info pos, p info pos = if ie.length < pos + 2 then some (exitOrErr ie info pos) else
      (getLe16 ie pos).bind fun cnt => if ie.length < pos + 2 + n * cnt then some (short info pos)
        else q (info.note pos cnt k) (pos + 2 + n * cnt)) :
    Parses ie (k :: ks) p := by
  refine hq.cons fun info pos hpos herr => ?_
  -- a whole field has as many bytes as the count says
  have hnot (hlt : ie.length < pos + 2 + n * leAt (ie.drop pos) 0 2) (b rest : List UInt8)
      (hdrop : ie.drop pos = b ++ rest) : ¬ k.Whole b := by
    intro hb
    have hlen := congrArg List.length hdrop
    have hwhole : b.length = k.entry.elim k.fixed fun n => 2 + n * leAt (b ++ rest) 0 2 :=
      hb.length_eq
    rw [hk, ← hdrop, Option.elim_some] at hwhole
    rw [List.length_drop, List.length_append] at hlen
    omega
  rw [hp]
  split
  · next hlt =>
      right
      have hcut : CutAt k (ie.drop pos) ↔ ie.drop pos = [] := by
        rw [CutAt, or_iff_left]
        rintro ⟨-, hlen, -⟩
        rw [List.length_drop] at hlen
        omega
      rw [hcut]
      exact ⟨hnot (by omega), _, rfl, err_exitOrErr info herr hpos⟩
  · next hge =>
      rw [getLe16_eq (by omega), Option.bind_some]
      split
      · next hlt => exact .inr ⟨hnot hlt, _, rfl, hshort info pos (by omega) herr hlt⟩
      · next hlong =>
          left
          have hwhole : k.Whole ((ie.drop pos).take (2 + n * leAt (ie.drop pos) 0 2)) :=
            whole_take_entry hk (by rw [List.length_drop]; omega)
          refine ⟨_, _, (List.take_append_drop _ _).symm, hwhole, ?_⟩
          rw [RsneField.cnt, hk, if_pos Option.isSome_some, leAt_take (Nat.le_add_right ..),
            List.length_take, List.length_drop, Nat.min_eq_left (by omega), Nat.add_assoc]

/-- An element that ends behind the count of a list of suites. -/
lemma err_exitOrErr_cnt (hk : k.entry = some 4) (info : RsneInfo) (pos : ℕ)
    (hpos : pos + 2 ≤ ie.length) (herr : info.err = false)
    (hlt : ie.length < pos + 2 + 4 * leAt (ie.drop pos) 0 2) :
    ((exitOrErr ie info (pos + 2)).err = false ↔ CutAt k (ie.drop pos)) ∧
      (CutAt k (ie.drop pos) → exitOrErr ie info (pos + 2) = info) := by
  have hcut : CutAt k (ie.drop pos) ↔ ie.drop (pos + 2) = [] := by
    rw [CutAt, List.drop_eq_nil_iff, List.drop_eq_nil_iff, List.length_drop]
    constructor
    · rintro (h | ⟨-, h, -⟩) <;> omega
    · intro h
      exact .inr ⟨hk, by omega, by omega⟩
  rw [hcut]
  exact err_exitOrErr info herr hpos

/-- The whole element from the group suite on. -/
lemma parses_parseGcs (ie : List UInt8) : Parses ie RsneField.all (parseGcs ie) := by
  have hgmcs : Parses ie [.gmcs] (parseGmcs ie) := parses_nil.fixed rfl fun _ _ => rfl
  have hpmkid : Parses ie [.pmkid, .gmcs] (parsePmkid ie) := by
    refine hgmcs.entry rfl (fun info pos hpos _ _ => ?_) fun _ _ => rfl
    -- the list of PMKIDs must be there
    have hcut : ¬ CutAt .pmkid (ie.drop pos) := by
      rintro (h | ⟨h, -⟩)
      · rw [List.drop_eq_nil_iff] at h
        omega
      · cases h
    exact ⟨iff_of_false nofun hcut, fun h => absurd h hcut⟩
  have hcap : Parses ie [.cap, .pmkid, .gmcs] (parseCap ie) := hpmkid.fixed rfl fun _ _ => rfl
  have hakm : Parses ie [.akm, .cap, .pmkid, .gmcs] (parseAkm ie) :=
    hcap.entry rfl (err_exitOrErr_cnt rfl) fun _ _ => rfl
  have hpcs : Parses ie [.pcs, .akm, .cap, .pmkid, .gmcs] (parsePcs ie) :=
    hakm.entry rfl (err_exitOrErr_cnt rfl) fun _ _ => rfl
  exact hpcs.fixed rfl fun _ _ => rfl

/-! ### What the pointers denote -/

lemma Fields.eq_flatten (h : Fields ks bs fs) : ∃ tail, bs = fs.flatten ++ tail := by
  induction h with
  | ignored tail => exact ⟨tail, rfl⟩
  | cut => exact ⟨[], rfl⟩
  | @cutCount _ b => exact ⟨b, rfl⟩
  | field _ _ ih =>
      obtain ⟨tail, rfl⟩ := ih
      exact ⟨tail, by rw [List.flatten_cons, List.append_assoc]⟩

lemma Fields.whole {i : ℕ} (h : Fields ks bs fs) (hk : ks[i]? = some k) (hb : fs[i]? = some b) :
    k.Whole b := by
  induction h generalizing i with
  | ignored => cases hk
  | cut => cases hb
  | cutCount => cases hb
  | field hwhole _ ih =>
      cases i with
      | zero =>
          rw [← Option.some.inj hk, ← Option.some.inj hb]
          exact hwhole
      | succ i => exact ih hk hb

namespace RsneInfo

variable {info : RsneInfo} {off cnt i : ℕ} {x : RsneField}

lemma note_of_eq : (info.note off (k.cnt b) k).ptr k = some (off + k.hdr) ∧
    (info.note off (k.cnt b) k).cnt k = k.cnt b := by
  cases k <;> exact ⟨rfl, rfl⟩

lemma note_of_ne (h : k ≠ x) :
    (info.note off cnt k).ptr x = info.ptr x ∧ (info.note off cnt k).cnt x = info.cnt x := by
  cases k <;> cases x <;> first | exact ⟨rfl, rfl⟩ | exact absurd rfl h

lemma noteAll_of_not_mem (h : k ∉ ks) : (noteAll info off ks fs).ptr k = info.ptr k ∧
    (noteAll info off ks fs).cnt k = info.cnt k := by
  induction ks generalizing info off fs with
  | nil => exact ⟨rfl, rfl⟩
  | cons x ks ih =>
      rw [List.mem_cons, not_or] at h
      cases fs with
      | nil => exact ⟨rfl, rfl⟩
      | cons b fs =>
          rw [noteAll, (ih h.2).1, (ih h.2).2]
          exact note_of_ne (Ne.symm h.1)

/-- A field that is there is noted. -/
lemma noteAll_present (hks : ks.Nodup) (hk : ks[i]? = some k) (hb : fs[i]? = some b) :
    (noteAll info off ks fs).ptr k = some (off + (fs.take i).flatten.length + k.hdr) ∧
      (noteAll info off ks fs).cnt k = k.cnt b := by
  induction ks generalizing info off fs i with
  | nil => cases hk
  | cons x ks ih =>
      obtain ⟨hx, hks⟩ := List.nodup_cons.1 hks
      cases fs with
      | nil => cases hb
      | cons c fs =>
          cases i with
          | zero =>
              obtain rfl := Option.some.inj hk
              obtain rfl := Option.some.inj hb
              rw [noteAll, (noteAll_of_not_mem hx).1, (noteAll_of_not_mem hx).2]
              exact note_of_eq
          | succ i =>
              rw [noteAll, List.take_succ_cons, List.flatten_cons, List.length_append,
                ← Nat.add_assoc]
              exact ih hks hk hb

/-- One that is not there is not. -/
lemma noteAll_absent (hks : ks.Nodup) (hk : ks[i]? = some k) (hb : fs[i]? = none) :
    (noteAll info off ks fs).ptr k = info.ptr k ∧
      (noteAll info off ks fs).cnt k = info.cnt k := by
  induction ks generalizing info off fs i with
  | nil => cases hk
  | cons x ks ih =>
      obtain ⟨hx, hks⟩ := List.nodup_cons.1 hks
      cases fs with
      | nil => exact ⟨rfl, rfl⟩
      | cons c fs =>
          cases i with
          | zero => cases hb
          | succ i =>
              have hne : x ≠ k := by
                rintro rfl
                exact hx (List.mem_of_getElem? hk)
              rw [noteAll, (ih hks hk hb).1, (ih hks hk hb).2]
              exact note_of_ne hne

/-- The pointers denote the fields that are there. -/
lemma denotes_noteAll (hfs : Fields RsneField.all (ie.drop 4) fs)
    (hk : RsneField.all[i]? = some k) : Denotes ie (noteAll {} 4 RsneField.all fs) fs i k where
  present := by
    intro b hb
    obtain ⟨tail, htail⟩ := hfs.eq_flatten
    obtain ⟨hi, hget⟩ := List.getElem?_eq_some_iff.1 hb
    have hflat : fs.flatten = (fs.take i).flatten ++ (b ++ (fs.drop (i + 1)).flatten) := by
      rw [← List.flatten_cons, ← hget, ← List.drop_eq_getElem_cons hi, ← List.flatten_append,
        List.take_append_drop]
    have hdrop : ie.drop (4 + (fs.take i).flatten.length) =
        b ++ ((fs.drop (i + 1)).flatten ++ tail) := by
      rw [← List.drop_drop, htail, hflat, List.append_assoc, List.drop_left, List.append_assoc]
    have hlen := congrArg List.length hdrop
    have htwo := (hfs.whole hk hb).two_le
    rw [List.length_drop, List.length_append] at hlen
    refine ⟨_, rfl, by omega, ?_, noteAll_present (by decide) hk hb⟩
    rw [hdrop, List.take_left]
  absent := by
    intro hb
    obtain ⟨hptr, hcnt⟩ := noteAll_absent (by decide) hk hb
    refine ⟨hptr.trans ?_, hcnt.trans ?_⟩
    · cases k <;> rfl
    · cases k <;> rfl

end RsneInfo

/-! ### The element as a whole -/

/-- The tests of the header, on the bytes. -/
lemma rsneHeader_iff : RsneHeader ie ↔ ¬ ie.length < 4 ∧
    ¬ (ie.getD 0 0 ≠ 48 ∨ (ie.getD 1 0).toNat ≠ ie.length - 2) ∧ ¬ leAt ie 2 2 ≠ 1 := by
  constructor
  · rintro ⟨len, rest, rfl, hlen⟩
    refine ⟨by simp, ?_, not_not.2 rfl⟩
    rw [not_or, not_not, not_not]
    exact ⟨rfl, hlen⟩
  · rintro ⟨hlong, hid, hver⟩
    rcases ie with _ | ⟨id, _ | ⟨len, _ | ⟨v, _ | ⟨w, rest⟩⟩⟩⟩
    · exact absurd (by simp) hlong
    · exact absurd (by simp) hlong
    · exact absurd (by simp) hlong
    · exact absurd (by simp) hlong
    · rw [not_or, not_not, not_not] at hid
      have hvw : (leNat [v, w] == 1) = ([v, w] == [1, 0]) := leNat_beq_one rfl
      have hone : leNat [v, w] = 1 := not_not.1 hver
      rw [hone, beq_self_eq_true, eq_comm, beq_iff_eq] at hvw
      obtain ⟨rfl, hw⟩ := List.cons.inj hvw
      obtain ⟨rfl, -⟩ := List.cons.inj hw
      obtain ⟨rfl, hlen⟩ : id = 48 ∧ _ := hid
      exact ⟨len, rest, rfl, hlen⟩

lemma rtwRsneInfoParse_of_header (h : RsneHeader ie) :
    rtwRsneInfoParse ie = RsneInfo.parseGcs ie {} 4 := by
  obtain ⟨len, rest, rfl, hlen⟩ := h
  have hver : getLe16 (48 :: len :: 1 :: 0 :: rest) 2 = some 1 := by
    rw [getLe16_eq (by simp)]
    rfl
  have hcond : ¬ ((48 : UInt8) ≠ 48 ∨ len.toNat ≠ (48 :: len :: 1 :: 0 :: rest).length - 2) := by
    rw [hlen]
    simp
  rw [rtwRsneInfoParse, if_neg (by simp)]
  show (if _ then _ else _) = _
  rw [if_neg hcond, hver]
  show (if (1 : ℕ) ≠ 1 then some { err := true } else _) = _
  exact if_neg (not_not.2 rfl)

lemma rtwRsneInfoParse_of_not_header (h : ¬ RsneHeader ie) :
    rtwRsneInfoParse ie = some { err := true } := by
  by_cases hshort : ie.length < 4
  · exact if_pos hshort
  · obtain ⟨id, len, v, w, rest, rfl⟩ : ∃ id len v w rest, ie = id :: len :: v :: w :: rest := by
      rcases ie with _ | ⟨id, _ | ⟨len, _ | ⟨v, _ | ⟨w, rest⟩⟩⟩⟩
      · exact absurd (by simp) hshort
      · exact absurd (by simp) hshort
      · exact absurd (by simp) hshort
      · exact absurd (by simp) hshort
      · exact ⟨id, len, v, w, rest, rfl⟩
    have hver : getLe16 (id :: len :: v :: w :: rest) 2 = some (leNat [v, w]) := by
      rw [getLe16_eq (by simp)]
      rfl
    rw [rtwRsneInfoParse, if_neg hshort]
    show (if _ then _ else _) = _
    split
    · rfl
    · next hcond =>
        rw [hver]
        show (if _ then _ else _) = _
        exact if_pos fun hone => h (rsneHeader_iff.2 ⟨hshort, hcond, not_not.2 hone⟩)

/-- The parser ends and reads inside of the element; it succeeds exactly if the element is right,
and then notes its fields. -/
lemma rtwRsneInfoParse_eq (ie : List UInt8) : ∃ info, rtwRsneInfoParse ie = some info ∧
    (info.err = false ↔ ∃ fs, IsRsne ie fs) ∧
    ∀ fs, IsRsne ie fs → info = noteAll {} 4 RsneField.all fs := by
  by_cases hheader : RsneHeader ie
  · have hfour : 4 ≤ ie.length := by
      obtain ⟨len, rest, rfl, -⟩ := hheader
      simp
    obtain ⟨info, hinfo, hok, hall⟩ := parses_parseGcs ie {} 4 hfour rfl
    rw [rtwRsneInfoParse_of_header hheader]
    refine ⟨info, hinfo, hok.trans ?_, fun fs hfs => hall fs hfs.2⟩
    exact exists_congr fun fs => (and_iff_right hheader).symm
  · refine ⟨_, rtwRsneInfoParse_of_not_header hheader, iff_of_false nofun ?_, fun fs hfs => ?_⟩
    · rintro ⟨fs, hfs, -⟩
      exact hheader hfs
    · exact absurd hfs.1 hheader

/-! ### The suites of the lists -/

/-- A loop over suites that are inside. -/
lemma orSuites_eq (suite : List UInt8 → BitVec 32) (cnt pos : ℕ) (mask : BitVec 32)
    (h : pos + 4 * cnt ≤ ie.length) : orSuites ie suite cnt pos mask =
      some (((List.range cnt).map fun i => suite ((ie.drop (pos + 4 * i)).take 4)).foldl
        (· ||| ·) mask) := by
  induction cnt generalizing pos mask with
  | zero => rfl
  | succ cnt ih =>
      rw [orSuites, bytesIn, if_neg (by decide), if_pos (by omega), Option.bind_some,
        ih (pos + 4) _ (by omega), List.range_succ_eq_map, List.map_cons, List.foldl_cons,
        List.map_map, Nat.mul_zero, Nat.add_zero]
      congr 3
      funext i
      show suite ((ie.drop (pos + 4 + 4 * i)).take 4) = suite ((ie.drop (pos + 4 * (i + 1))).take 4)
      rw [show pos + 4 + 4 * i = pos + 4 * (i + 1) by omega]

/-- A slice of a field is one of the element. -/
lemma take_drop_field {off m : ℕ} (hb : (ie.drop off).take b.length = b) (hm : m + n ≤ b.length) :
    (b.drop m).take n = (ie.drop (off + m)).take n := by
  conv_lhs => rw [← hb]
  rw [List.drop_take, List.take_take, List.drop_drop, Nat.min_eq_left (by omega)]

variable {info : RsneInfo} {i : ℕ}

/-- The suites of a list that is there, and none where there is no list. -/
lemma orList_eq (hden : RsneInfo.Denotes ie info fs i k) (hk : k.entry = some 4)
    (hwhole : ∀ b, fs[i]? = some b → k.Whole b) (suite : List UInt8 → BitVec 32) :
    orList ie suite (info.ptr k) (info.cnt k) = some ((fs[i]?).elim 0 (maskOf suite)) := by
  rcases hb : fs[i]? with _ | b
  · rw [(hden.absent hb).1]
    rfl
  · obtain ⟨off, -, hin, hslice, hptr, hcnt⟩ := hden.present b hb
    have hlen := hwhole b hb
    rw [RsneField.Whole, hk] at hlen
    have hhdr : k.hdr = 2 := by rw [RsneField.hdr, hk]; rfl
    have hkcnt : k.cnt b = leAt b 0 2 := by rw [RsneField.cnt, hk]; rfl
    rw [hptr, hcnt, hkcnt, hhdr, orList, Option.elim_some, orSuites_eq _ _ _ _ (by omega),
      Option.elim_some, maskOf]
    congr 2
    refine List.map_congr_left fun j hj => ?_
    rw [List.mem_range] at hj
    rw [take_drop_field hslice (by omega), Nat.add_assoc]

/-- A single suite is inside, if it is there. -/
lemma exists_oneSuite (hden : RsneInfo.Denotes ie info fs i k) (hk : k.entry = none)
    (hfour : k.fixed = 4) (hwhole : ∀ b, fs[i]? = some b → k.Whole b) (dflt : BitVec 32) :
    ∃ m, oneSuite ie dflt (info.ptr k) = some m := by
  rcases hb : fs[i]? with _ | b
  · rw [(hden.absent hb).1]
    exact ⟨dflt, rfl⟩
  · obtain ⟨off, -, hin, -, hptr, -⟩ := hden.present b hb
    have hlen := hwhole b hb
    rw [RsneField.Whole, hk, hfour] at hlen
    have hhdr : k.hdr = 0 := by rw [RsneField.hdr, hk]; rfl
    rw [hptr, hhdr, oneSuite, Option.elim_some, bytesIn, if_neg (by decide), if_pos (by omega)]
    exact ⟨_, rfl⟩

/-- `rtw_parse_wpa2_ie` on an element that is right. -/
lemma rtwParseWpa2Ie_of_isRsne (h : IsRsne ie fs) : ∃ w, rtwParseWpa2Ie ie = some (some w) ∧
    w.pairwiseCipher = (fs[1]?).elim 0 (maskOf Assoc.rtwGetRsnCipherSuite) ∧
    w.akm = (fs[2]?).elim 0 (maskOf Assoc.rtwGetAkmSuiteBitmap) := by
  obtain ⟨info, hparse, hok, hall⟩ := rtwRsneInfoParse_eq ie
  have herr := hok.2 ⟨fs, h⟩
  have hden {i : ℕ} {k : RsneField} (hk : RsneField.all[i]? = some k) :
      RsneInfo.Denotes ie info fs i k := by
    rw [hall fs h]
    exact denotes_noteAll h.2 hk
  have hwhole {i : ℕ} {k : RsneField} (hk : RsneField.all[i]? = some k) (b : List UInt8)
      (hb : fs[i]? = some b) : k.Whole b := h.2.whole hk hb
  obtain ⟨gcs, hgcs⟩ : ∃ m, oneSuite ie 0 info.gcs = some m :=
    exists_oneSuite (hden (i := 0) rfl) rfl rfl (hwhole rfl) 0
  obtain ⟨gmcs, hgmcs⟩ : ∃ m, oneSuite ie Assoc.wpaCipherBipCmac128 info.gmcs = some m :=
    exists_oneSuite (hden (i := 5) rfl) rfl rfl (hwhole rfl) _
  have hpcs : orList ie Assoc.rtwGetRsnCipherSuite info.pcsList info.pcsCnt = _ :=
    orList_eq (hden (i := 1) rfl) rfl (hwhole rfl) _
  have hakm : orList ie Assoc.rtwGetAkmSuiteBitmap info.akmList info.akmCnt = _ :=
    orList_eq (hden (i := 2) rfl) rfl (hwhole rfl) _
  obtain ⟨cap, hcap⟩ : ∃ cap, info.cap.elim (some 0) (getLe16 ie) = some cap := by
    rcases hb : fs[3]? with _ | b
    · have hptr : info.cap = none := ((hden (i := 3) rfl).absent hb).1
      exact ⟨0, by rw [hptr]; rfl⟩
    · obtain ⟨off, -, hin, -, hptr, -⟩ := (hden (i := 3) rfl).present b hb
      have hptr' : info.cap = some off := hptr
      have hlen : b.length = 2 := hwhole (i := 3) rfl b hb
      exact ⟨_, by rw [hptr', Option.elim_some]; exact getLe16_eq (by omega)⟩
  refine ⟨⟨gcs, _, gmcs, _, cap / 64 % 4, cap / 1024 % 4⟩, ?_, rfl, rfl⟩
  rw [rtwParseWpa2Ie, hparse]
  show (if info.err = true then _ else _) = _
  rw [if_neg (Bool.eq_false_iff.1 herr), hgcs, hpcs, hgmcs, hakm, hcap]
  rfl

/-! ### The parser -/

/-- Both functions end and read inside of the element only.  The parser succeeds exactly if the
element is right, its pointers and counts denote the fields that are there, and the masks are those
of the lists. -/
theorem rsne_spec (ie : List UInt8) :
    ∃ info, rtwRsneInfoParse ie = some info ∧ (info.err = false ↔ ∃ fs, IsRsne ie fs) ∧
      (∀ fs, IsRsne ie fs → ∀ i k, RsneField.all[i]? = some k → info.Denotes ie fs i k) ∧
      ∃ res, rtwParseWpa2Ie ie = some res ∧ (res.isSome ↔ ∃ fs, IsRsne ie fs) ∧
        ∀ w fs, res = some w → IsRsne ie fs →
          w.pairwiseCipher = (fs[1]?).elim 0 (maskOf Assoc.rtwGetRsnCipherSuite) ∧
          w.akm = (fs[2]?).elim 0 (maskOf Assoc.rtwGetAkmSuiteBitmap) := by
  obtain ⟨info, hparse, hok, hall⟩ := rtwRsneInfoParse_eq ie
  refine ⟨info, hparse, hok, fun fs hfs i k hk => ?_, ?_⟩
  · rw [hall fs hfs]
    exact denotes_noteAll hfs.2 hk
  · by_cases hright : ∃ fs, IsRsne ie fs
    · obtain ⟨fs, hfs⟩ := hright
      obtain ⟨w, hw, -⟩ := rtwParseWpa2Ie_of_isRsne hfs
      refine ⟨some w, hw, iff_of_true rfl ⟨fs, hfs⟩, ?_⟩
      intro w' fs' hres hfs'
      obtain ⟨v, hv, hmasks⟩ := rtwParseWpa2Ie_of_isRsne hfs'
      obtain rfl : w = v := Option.some.inj (Option.some.inj (hw.symm.trans hv))
      rw [← Option.some.inj hres]
      exact hmasks
    · have herr : info.err = true := by
        rw [← Bool.not_eq_false, hok]
        exact hright
      refine ⟨none, ?_, iff_of_false nofun hright, nofun⟩
      rw [rtwParseWpa2Ie, hparse]
      exact if_pos herr

/-- An element that ends right behind a count of zero: the pointer to the list is not NULL, but
points to the end of the element. -/
theorem rsne_empty_list :
    ¬ ∀ (ie : List UInt8) (info : RsneInfo) (gcs cnt : List UInt8),
      rtwRsneInfoParse ie = some info → info.err = false → gcs.length = 4 → cnt.length = 2 →
      ie.drop 4 = gcs ++ cnt → info.pcsList = none := by
  intro h
  have hnone := h [0x30, 0x08, 0x01, 0x00, 0x00, 0x0F, 0xAC, 0x04, 0x00, 0x00]
    { gcs := some 4, pcsList := some 10 } [0x00, 0x0F, 0xAC, 0x04] [0x00, 0x00] (by decide) rfl rfl
    rfl rfl
  cases hnone

/-! ### The same parser on what is left of the element -/

namespace RsneInfo

/-- What the pointers point to. -/
def deref (ie : List UInt8) (info : RsneInfo) : Assoc.RsneInfo where
  gcs := info.gcs.map fun p => (ie.drop p).take 4
  pcsCnt := info.pcsCnt
  pcsList := info.pcsList.elim [] fun p => ie.drop p
  akmCnt := info.akmCnt
  akmList := info.akmList.elim [] fun p => ie.drop p
  cap := info.cap.map fun p => leAt (ie.drop p) 0 2
  pmkidCnt := info.pmkidCnt
  gmcs := info.gmcs.map fun p => (ie.drop p).take 4

/-- What a parser that does not fail finds. -/
def result (ie : List UInt8) (r : Option RsneInfo) : Option Assoc.RsneInfo :=
  r.bind fun info => if info.err then none else some (info.deref ie)

/-- From any offset the two parsers find the same. -/
def Agrees (ie : List UInt8) (p : RsneInfo → ℕ → Option RsneInfo)
    (q : Assoc.RsneInfo → List UInt8 → Option Assoc.RsneInfo) : Prop :=
  ∀ info pos, pos ≤ ie.length → info.err = false →
    q (info.deref ie) (ie.drop pos) = result ie (p info pos)

variable {r : Option RsneInfo}

lemma result_exitOrErr (info : RsneInfo) (hpos : pos ≤ ie.length) (herr : info.err = false) :
    result ie (some (exitOrErr ie info pos)) = (info.deref ie).atEnd (ie.drop pos) := by
  obtain ⟨hok, hinfo⟩ := err_exitOrErr info herr hpos
  rw [result, Option.bind_some, Assoc.RsneInfo.atEnd]
  by_cases hend : ie.drop pos = []
  · rw [if_pos hend, hinfo hend, if_neg (by simp [herr])]
  · rw [if_neg hend, if_pos (by simpa [hend] using hok)]

lemma length_drop_lt (m : ℕ) (hpos : pos ≤ ie.length) :
    (ie.drop pos).length < m ↔ ie.length < pos + m := by
  rw [List.length_drop]
  omega

lemma agrees_parseGmcs : Agrees ie (parseGmcs ie) Assoc.RsneInfo.parseGmcs := by
  intro info pos hpos herr
  rw [parseGmcs, Assoc.RsneInfo.parseGmcs]
  simp only [length_drop_lt 4 hpos]
  split
  · exact (result_exitOrErr info hpos herr).symm
  · rw [result, Option.bind_some, if_neg (by simp [herr])]
    rfl

lemma agrees_parsePmkid : Agrees ie (parsePmkid ie) Assoc.RsneInfo.parsePmkid := by
  intro info pos hpos herr
  rw [parsePmkid, Assoc.RsneInfo.parsePmkid]
  simp only [length_drop_lt 2 hpos]
  split
  · exact (result_exitOrErr info hpos herr).symm
  · rw [getLe16_eq (by omega), Option.bind_some]
    simp only [List.drop_drop, length_drop_lt _ (show pos + 2 ≤ ie.length by omega)]
    split
    · rfl
    · exact agrees_parseGmcs
        { info with pmkidCnt := leAt (ie.drop pos) 0 2, pmkidList := some (pos + 2) } _ (by omega)
        herr

lemma agrees_parseCap : Agrees ie (parseCap ie) Assoc.RsneInfo.parseCap := by
  intro info pos hpos herr
  rw [parseCap, Assoc.RsneInfo.parseCap]
  simp only [length_drop_lt 2 hpos]
  split
  · exact (result_exitOrErr info hpos herr).symm
  · rw [List.drop_drop]
    exact agrees_parsePmkid { info with cap := some pos } _ (by omega) herr

lemma agrees_parseAkm : Agrees ie (parseAkm ie) Assoc.RsneInfo.parseAkm := by
  intro info pos hpos herr
  rw [parseAkm, parseSuites, Assoc.RsneInfo.parseAkm]
  simp only [length_drop_lt 2 hpos]
  split
  · exact (result_exitOrErr info hpos herr).symm
  · rw [getLe16_eq (by omega), Option.bind_some]
    simp only [List.drop_drop, length_drop_lt _ (show pos + 2 ≤ ie.length by omega)]
    split
    · exact (result_exitOrErr info (by omega) herr).symm
    · exact agrees_parseCap
        { info with akmCnt := leAt (ie.drop pos) 0 2, akmList := some (pos + 2) } _ (by omega) herr

lemma agrees_parsePcs : Agrees ie (parsePcs ie) Assoc.RsneInfo.parsePcs := by
  intro info pos hpos herr
  rw [parsePcs, parseSuites, Assoc.RsneInfo.parsePcs]
  simp only [length_drop_lt 2 hpos]
  split
  · exact (result_exitOrErr info hpos herr).symm
  · rw [getLe16_eq (by omega), Option.bind_some]
    simp only [List.drop_drop, length_drop_lt _ (show pos + 2 ≤ ie.length by omega)]
    split
    · exact (result_exitOrErr info (by omega) herr).symm
    · exact agrees_parseAkm
        { info with pcsCnt := leAt (ie.drop pos) 0 2, pcsList := some (pos + 2) } _ (by omega) herr

lemma agrees_parseGcs : Agrees ie (parseGcs ie) Assoc.RsneInfo.parseGcs := by
  intro info pos hpos herr
  rw [parseGcs, Assoc.RsneInfo.parseGcs]
  simp only [length_drop_lt 4 hpos]
  split
  · exact (result_exitOrErr info hpos herr).symm
  · rw [List.drop_drop]
    exact agrees_parsePcs { info with gcs := some pos } _ (by omega) herr

end RsneInfo

/-- `rtw_rsne_info_parse` on the bytes that are left, as the association has it, is the parser with
the pointers. -/
theorem rtwRsneInfoParse_deref (ie : List UInt8) :
    Assoc.rtwRsneInfoParse ie = RsneInfo.result ie (rtwRsneInfoParse ie) := by
  by_cases h : RsneHeader ie
  · obtain ⟨hlong, hid, hver⟩ := rsneHeader_iff.1 h
    rw [rtwRsneInfoParse_of_header h, Assoc.rtwRsneInfoParse, if_neg hlong, if_neg hid,
      if_neg hver]
    exact agrees_parseGcs {} 4 (Nat.not_lt.1 hlong) rfl
  · rw [rtwRsneInfoParse_of_not_header h, Assoc.rtwRsneInfoParse]
    split
    · rfl
    · next hlong =>
        split
        · rfl
        · next hid =>
            split
            · rfl
            · next hver => exact absurd (rsneHeader_iff.2 ⟨hlong, hid, hver⟩) h

end Rtl8723du.Elems
