import Rtl8723du.Lib.Bytes
import Rtl8723du.Lib.Loop

/-!
# Bluetooth configuration files

`rtk_parse_config_file` and the end of `load_config` of `rtk_misc.c`.  A configuration file is a
magic number, the length of the rest, and entries; the entries become a list of items, and
`load_config` writes the list after merging to a new buffer.
-/

namespace Rtl8723du.BtConfig

open Lib Lib.Bytes

/-! ### The code -/

/-- `struct cfg_list_item`. -/
structure CfgItem where
  offset : UInt16
  data : List UInt8
  /-- The length is a byte. -/
  short : data.length < 256

/-- `cfg_magic`. -/
def cfgMagic : List UInt8 := [0x55, 0xab, 0x23, 0x87]

/-- `RTK_VENDOR_CONFIG_MAGIC`. -/
abbrev rtkVendorConfigMagic : ℕ := 0x8723ab55

/-- `BT_CONFIG_HDRLEN`. -/
abbrev btConfigHdrlen : ℕ := 6

/-- The size of `struct rtk_bt_vendor_config_entry`, without the data. -/
abbrev entryHdrlen : ℕ := 3

/-- An item with `len` bytes of data. -/
def mkItem (offset : ℕ) (len : UInt8) (src : List UInt8) : CfgItem where
  offset := UInt16.ofNat offset
  data := src.take len.toNat
  short := Nat.lt_of_le_of_lt (List.length_take_le ..) len.toNat_lt

/-- A pass of the loop of `rtk_parse_config_file`, with `i` and the list; `alloc` says which of the
allocations succeed. -/
def parseConfigPass (alloc : ℕ → Bool) (bs : List UInt8) (configLen : ℕ)
    (s : ℕ × List CfgItem) : Option (List CfgItem) ⊕ (ℕ × List CfgItem) :=
  if configLen ≤ s.1 then .inl (some s.2)
  else
    let entry := btConfigHdrlen + s.1
    match bs[entry + 2]?, bytesIn bs entry 2 with
    | some entryLen, some offset =>
        if alloc s.2.length then
          match bytesIn bs (entry + entryHdrlen) entryLen.toNat with
          | none => .inl none
          | some data =>
              .inr (s.1 + (entryLen.toNat + entryHdrlen),
                s.2 ++ [mkItem (leNat offset) entryLen data])
        else .inl (some s.2)
    | _, _ => .inl none

/-- `rtk_parse_config_file`: what it returns, and the list; nothing if it reads outside. -/
def rtkParseConfigFile (alloc : ℕ → Bool) (bs : List UInt8) : Option (ℤ × List CfgItem) := do
  let configLen ← bytesIn bs 4 2
  let signature ← bytesIn bs 0 4
  if leNat signature ≠ rtkVendorConfigMagic then some (-1, [])
  else if leNat configLen ≠ bs.length - btConfigHdrlen then some (-1, [])
  else
    let items ← (Loop.run (parseConfigPass alloc bs (leNat configLen)) (leNat configLen + 1)
      (0, [])).getD none
    some (0, items)

/-- Bytes written into a buffer; nothing if they go over its end. -/
def store (buf : List UInt8) (off : ℕ) (src : List UInt8) : Option (List UInt8) :=
  if off + src.length ≤ buf.length then some (writeAt buf off src) else none

/-- The bytes of an entry. -/
def CfgItem.bytes (n : CfgItem) : List UInt8 :=
  leBytes 2 n.offset.toNat ++ [UInt8.ofNat n.data.length] ++ n.data

/-- The 16-bit sum of the lengths of the entries, from a start on. -/
def lenFrom (start : ℕ) (items : List CfgItem) : ℕ :=
  items.foldl (fun len n => (len + (3 + n.data.length)) % 65536) start

/-- The last loop of `load_config`. -/
def storeItems : List UInt8 → ℕ → List CfgItem → Option (List UInt8)
  | buf, _, [] => some buf
  | buf, p, n :: items => do
      let buf ← store buf p n.bytes
      storeItems buf (p + (3 + n.data.length)) items

/-- The end of `load_config`: the buffer, with the length that is reported; nothing if it writes
outside of it. -/
def saveConfigs (items : List CfgItem) : Option (List UInt8 × ℕ) := do
  let configLen := lenFrom 6 items
  let dlen := lenFrom 0 items
  let buf ← store (List.replicate configLen 0) 0 cfgMagic
  let buf ← store buf 4 (leBytes 2 dlen)
  let buf ← storeItems buf 6 items
  some (buf, configLen)

/-! ### What it is for -/

/-- The bytes of entries. -/
def encode (items : List CfgItem) : List UInt8 := items.flatMap CfgItem.bytes

/-- The header is right. -/
def HeaderOk (bs : List UInt8) : Prop :=
  bs.take 4 = cfgMagic ∧ leAt bs 4 2 = bs.length - btConfigHdrlen

/-- The file has a header that is right, and entries that end with the file. -/
def Tiles (bs : List UInt8) : Prop :=
  btConfigHdrlen ≤ bs.length ∧ HeaderOk bs ∧ ∃ items, encode items = bs.drop btConfigHdrlen

/-- The parser reads inside of the file, and succeeds exactly if the entries tile it. -/
def ParsesFile (alloc : ℕ → Bool) (bs : List UInt8) : Prop :=
  ∃ ret items, rtkParseConfigFile alloc bs = some (ret, items) ∧ (ret = 0 ↔ Tiles bs)

/-- The buffer has the length that is reported, and is parsed to the same list. -/
def SavesList (items : List CfgItem) : Prop :=
  ∃ buf, saveConfigs items = some (buf, buf.length) ∧
    rtkParseConfigFile (fun _ => true) buf = some (0, items)

/-! ### Entries -/

variable {alloc : ℕ → Bool} {bs rest : List UInt8} {n : CfgItem} {items : List CfgItem}
  {list : List CfgItem} {i configLen : ℕ}

@[simp] lemma encode_nil : encode [] = [] := rfl

@[simp] lemma encode_cons : encode (n :: items) = n.bytes ++ encode items := rfl

@[simp] lemma length_bytes : n.bytes.length = 3 + n.data.length := by
  rw [CfgItem.bytes, List.length_append, List.length_append, length_leBytes]
  rfl

lemma toNat_length : (UInt8.ofNat n.data.length).toNat = n.data.length := by
  rw [UInt8.toNat_ofNat', Nat.mod_eq_of_lt n.short]

lemma mkItem_eq :
    mkItem n.offset.toNat (UInt8.ofNat n.data.length) n.data = n := by
  have hdata : n.data.take (UInt8.ofNat n.data.length).toNat = n.data := by
    rw [toNat_length, List.take_length]
  rcases n with ⟨offset, data, hshort⟩
  simp only [mkItem, UInt16.ofNat_toNat, CfgItem.mk.injEq, true_and]
  exact hdata

/-- A pass at an entry. -/
lemma parseConfigPass_cons (h : bs.drop (btConfigHdrlen + i) = n.bytes ++ rest)
    (hi : i < configLen) : parseConfigPass alloc bs configLen (i, list) =
      if alloc list.length then .inr (i + (3 + n.data.length), list ++ [n])
      else .inl (some list) := by
  have hlen := congrArg List.length h
  rw [List.length_drop, List.length_append, length_bytes] at hlen
  have hentry : bs[btConfigHdrlen + i + 2]? = some (UInt8.ofNat n.data.length) := by
    rw [← List.getElem?_drop, h]
    rfl
  have hoffset : bytesIn bs (btConfigHdrlen + i) 2 = some (leBytes 2 n.offset.toNat) := by
    rw [bytesIn_eq (by omega), h]
    rfl
  have hdata : bytesIn bs (btConfigHdrlen + i + entryHdrlen) n.data.length = some n.data := by
    rw [bytesIn_eq (by simp only [entryHdrlen]; omega), ← List.drop_drop, h]
    exact congrArg some (List.take_left ..)
  have hle : leNat (leBytes 2 n.offset.toNat) = n.offset.toNat :=
    leNat_leBytes n.offset.toNat_lt
  rw [parseConfigPass, if_neg (Nat.not_le.2 hi)]
  simp only [hentry, hoffset, toNat_length, hdata, hle, mkItem_eq, Nat.add_comm n.data.length]

lemma length_le_encode (items : List CfgItem) : items.length ≤ (encode items).length := by
  induction items with
  | nil => exact Nat.le_refl _
  | cons n items ih =>
      rw [encode_cons, List.length_append, length_bytes, List.length_cons]
      omega

/-- A run along entries that end where the length says; a failed allocation ends it before. -/
lemma run_parseConfig (alloc : ℕ → Bool) (list : List CfgItem)
    (h : bs.drop (btConfigHdrlen + i) = encode items)
    (hlen : configLen = i + (encode items).length) :
    ∃ out, Loop.run (parseConfigPass alloc bs configLen) (items.length + 1) (i, list) =
        some (some out) ∧ ((∀ k, alloc k = true) → out = list ++ items) := by
  induction items generalizing i list with
  | nil =>
      refine ⟨list, ?_, fun _ => (List.append_nil _).symm⟩
      have hend : configLen ≤ i := Nat.le_of_eq hlen
      rw [Loop.run, parseConfigPass, if_pos hend]
  | cons n items ih =>
      rw [encode_cons, List.length_append, length_bytes] at hlen
      have hpass : parseConfigPass alloc bs configLen (i, list) = _ :=
        parseConfigPass_cons h (by omega)
      have hrest : bs.drop (btConfigHdrlen + (i + (3 + n.data.length))) = encode items := by
        rw [← Nat.add_assoc, ← List.drop_drop, h, encode_cons, ← length_bytes, List.drop_left]
      rcases halloc : alloc list.length
      · rw [halloc, if_neg (by decide)] at hpass
        refine ⟨list, by rw [Loop.run, hpass], fun hall => ?_⟩
        rw [hall] at halloc
        cases halloc
      · rw [halloc, if_pos rfl] at hpass
        obtain ⟨out, hrun, hout⟩ := ih (list ++ [n]) hrest (by omega)
        refine ⟨out, by rw [List.length_cons, Loop.run, hpass]; exact hrun, fun hall => ?_⟩
        rw [hout hall, List.append_assoc]
        rfl

/-! ### Files -/

/-- A file that is shorter than the header is read behind its end. -/
lemma rtkParseConfigFile_short (h : bs.length < btConfigHdrlen) :
    rtkParseConfigFile alloc bs = none := by
  have hnone : bytesIn bs 4 2 = none := by
    rw [bytesIn, if_neg (by decide), if_neg (Nat.not_le.2 h)]
  rw [rtkParseConfigFile, hnone]
  rfl

lemma rtkParseConfigFile_eq (h : btConfigHdrlen ≤ bs.length) :
    rtkParseConfigFile alloc bs =
      if leNat (bs.take 4) ≠ rtkVendorConfigMagic then some (-1, [])
      else if leAt bs 4 2 ≠ bs.length - btConfigHdrlen then some (-1, [])
      else ((Loop.run (parseConfigPass alloc bs (leAt bs 4 2)) (leAt bs 4 2 + 1)
        (0, [])).getD none).map fun items => (0, items) := by
  rw [rtkParseConfigFile, bytesIn_eq h, bytesIn_eq (Nat.le_trans (by decide) h)]
  show (if _ then _ else if _ then _ else _) = _
  simp only [List.drop_zero, Option.bind_eq_bind, leAt]
  rcases (Loop.run (parseConfigPass alloc bs (leNat ((bs.drop 4).take 2)))
    (leNat ((bs.drop 4).take 2) + 1) (0, [])).getD none with _ | items <;> rfl

lemma leNat_eq_magic (h : 4 ≤ bs.length) :
    leNat (bs.take 4) = rtkVendorConfigMagic ↔ bs.take 4 = cfgMagic := by
  have hlen : (bs.take 4).length = cfgMagic.length := by
    rw [List.length_take, Nat.min_eq_left h]
    rfl
  have hmagic : leNat cfgMagic = rtkVendorConfigMagic := by decide
  rw [← hmagic]
  exact leNat_inj hlen

/-- Without the right header the parser fails. -/
lemma rtkParseConfigFile_of_not (h : btConfigHdrlen ≤ bs.length) (hheader : ¬ HeaderOk bs) :
    rtkParseConfigFile alloc bs = some (-1, []) := by
  rw [rtkParseConfigFile_eq h]
  split
  · rfl
  · next hmagic =>
      refine if_pos fun hlen => hheader ⟨?_, hlen⟩
      exact (leNat_eq_magic (Nat.le_trans (by decide) h)).1 (not_not.1 hmagic)

/-- With it, it goes through the entries. -/
lemma rtkParseConfigFile_of_header (h : btConfigHdrlen ≤ bs.length) (hheader : HeaderOk bs) :
    rtkParseConfigFile alloc bs =
      ((Loop.run (parseConfigPass alloc bs (leAt bs 4 2)) (leAt bs 4 2 + 1)
        (0, [])).getD none).map fun items => (0, items) := by
  have hmagic := (leNat_eq_magic (Nat.le_trans (by decide) h)).2 hheader.1
  rw [rtkParseConfigFile_eq h, if_neg (not_not.2 hmagic), if_neg (not_not.2 hheader.2)]

/-- Entries that tile the file are read. -/
lemma rtkParseConfigFile_of_encode (alloc : ℕ → Bool) (h : btConfigHdrlen ≤ bs.length)
    (hheader : HeaderOk bs)
    (hitems : encode items = bs.drop btConfigHdrlen) :
    ∃ out, rtkParseConfigFile alloc bs = some (0, out) ∧
      ((∀ k, alloc k = true) → out = items) := by
  have hlen : leAt bs 4 2 = 0 + (encode items).length := by
    rw [hheader.2, hitems, List.length_drop, Nat.zero_add]
  have hdrop : bs.drop (btConfigHdrlen + 0) = encode items := hitems.symm
  obtain ⟨out, hrun, hout⟩ := run_parseConfig alloc [] hdrop hlen
  have hmore := Loop.run_mono (Nat.succ_le_succ ((length_le_encode items).trans
    (Nat.le_of_eq (hlen.trans (Nat.zero_add _)).symm))) hrun
  refine ⟨out, ?_, fun hall => hout hall⟩
  rw [rtkParseConfigFile_of_header h hheader, hmore]
  rfl

lemma parsesFile_iff : ParsesFile alloc bs ↔ btConfigHdrlen ≤ bs.length ∧
    (HeaderOk bs → ∃ items, encode items = bs.drop btConfigHdrlen) := by
  constructor
  · rintro ⟨ret, items, hparse, hret⟩
    have hlen : btConfigHdrlen ≤ bs.length := by
      by_contra hshort
      rw [rtkParseConfigFile_short (Nat.not_le.1 hshort)] at hparse
      cases hparse
    refine ⟨hlen, fun hheader => ?_⟩
    rw [rtkParseConfigFile_of_header hlen hheader] at hparse
    obtain ⟨out, -, hout⟩ := Option.map_eq_some_iff.1 hparse
    exact (hret.1 (Prod.mk.inj hout).1.symm).2.2
  · rintro ⟨hlen, htile⟩
    by_cases hheader : HeaderOk bs
    · obtain ⟨items, hitems⟩ := htile hheader
      obtain ⟨out, hparse, -⟩ := rtkParseConfigFile_of_encode alloc hlen hheader hitems
      exact ⟨0, out, hparse, iff_of_true rfl ⟨hlen, hheader, items, hitems⟩⟩
    · exact ⟨-1, [], rtkParseConfigFile_of_not hlen hheader,
        iff_of_false (by decide) fun h => hheader h.2.1⟩

/-! ### Lists -/

variable {buf pre : List UInt8} {p : ℕ}

lemma lenFrom_eq (start : ℕ) (hstart : start < 65536) (items : List CfgItem) :
    lenFrom start items = (start + (encode items).length) % 65536 := by
  induction items generalizing start with
  | nil => exact (Nat.mod_eq_of_lt hstart).symm
  | cons n items ih =>
      have hcons : lenFrom start (n :: items) =
          lenFrom ((start + (3 + n.data.length)) % 65536) items := rfl
      rw [hcons, ih _ (Nat.mod_lt _ (by decide)), encode_cons, List.length_append, length_bytes,
        Nat.mod_add_mod, Nat.add_assoc]

/-- Items that do not fit are written over the end. -/
lemma storeItems_of_lt (h : buf.length < p + (encode items).length) (hp : p ≤ buf.length) :
    storeItems buf p items = none := by
  induction items generalizing buf p with
  | nil => exact absurd h (Nat.not_lt.2 hp)
  | cons n items ih =>
      rw [storeItems, store]
      split
      · next hfits =>
          rw [encode_cons, List.length_append] at h
          rw [length_bytes] at h hfits
          show storeItems (writeAt buf p n.bytes) _ items = none
          have hlen : (writeAt buf p n.bytes).length = buf.length :=
            length_writeAt (by rw [length_bytes]; exact hfits)
          exact ih (by rw [hlen]; omega) (by rw [hlen]; exact hfits)
      · rfl

/-- Items that fit are written one behind the other. -/
lemma storeItems_of_fit (h : buf.length = (encode items).length) :
    storeItems (pre ++ buf) pre.length items = some (pre ++ encode items) := by
  induction items generalizing pre buf with
  | nil => rw [storeItems, List.length_eq_zero_iff.1 h, encode_nil]
  | cons n items ih =>
      rw [encode_cons, List.length_append] at h
      have hfits : pre.length + n.bytes.length ≤ (pre ++ buf).length := by
        rw [List.length_append]
        omega
      have hrest : (buf.drop n.bytes.length).length = (encode items).length := by
        rw [List.length_drop]
        omega
      rw [storeItems, store, if_pos hfits, writeAt_append, encode_cons, ← List.append_assoc,
        ← List.append_assoc]
      show storeItems _ _ items = _
      rw [← length_bytes, ← List.length_append]
      exact ih hrest

/-- The buffer is as long as the header and the entries, if that is a 16-bit number. -/
lemma saveConfigs_of_lt (h : btConfigHdrlen + (encode items).length < 65536) :
    saveConfigs items = some (cfgMagic ++ leBytes 2 (encode items).length ++ encode items,
      btConfigHdrlen + (encode items).length) := by
  simp only [btConfigHdrlen] at h ⊢
  rw [saveConfigs, lenFrom_eq 6 (by decide), lenFrom_eq 0 (by decide), Nat.mod_eq_of_lt h,
    Nat.zero_add, Nat.mod_eq_of_lt (by omega)]
  generalize hzeros : List.replicate (6 + (encode items).length) (0 : UInt8) = zeros
  have hlen : zeros.length = 6 + (encode items).length := by
    rw [← hzeros, List.length_replicate]
  generalize hdlen : leBytes 2 (encode items).length = dlen
  have htwo : dlen.length = 2 := by rw [← hdlen, length_leBytes]
  have hmagic : store zeros 0 cfgMagic = some (cfgMagic ++ zeros.drop 4) := by
    rw [store, if_pos (by rw [hlen]; simp only [cfgMagic, List.length]; omega)]
    exact congrArg some (writeAt_append [] zeros cfgMagic)
  have hstore : store (cfgMagic ++ zeros.drop 4) 4 dlen =
      some (cfgMagic ++ dlen ++ zeros.drop 6) := by
    have hfour : cfgMagic.length = 4 := rfl
    rw [store, if_pos (by rw [List.length_append, List.length_drop, hlen, htwo, hfour]; omega)]
    refine congrArg some ((writeAt_append cfgMagic (zeros.drop 4) dlen).trans ?_)
    rw [htwo, List.drop_drop, List.append_assoc]
  have hitems : storeItems (cfgMagic ++ dlen ++ zeros.drop 6) 6 items =
      some (cfgMagic ++ dlen ++ encode items) := by
    have hpre : (cfgMagic ++ dlen).length = 6 := by rw [List.length_append, htwo]; rfl
    rw [← hpre]
    exact storeItems_of_fit (by rw [hpre, List.length_drop, hlen, Nat.add_sub_cancel_left])
  rw [hmagic]
  show (store (cfgMagic ++ zeros.drop 4) 4 dlen).bind _ = _
  rw [hstore]
  show (storeItems (cfgMagic ++ dlen ++ zeros.drop 6) 6 items).bind _ = _
  rw [hitems]
  rfl

lemma length_of_store {off : ℕ} {src buf' : List UInt8} (h : store buf off src = some buf') :
    buf'.length = buf.length ∧ off + src.length ≤ buf.length := by
  rw [store] at h
  split at h
  · next hfits =>
      rw [← Option.some.inj h]
      exact ⟨length_writeAt hfits, hfits⟩
  · cases h

/-- A buffer whose length wraps is too short. -/
lemma saveConfigs_of_le (h : 65536 ≤ btConfigHdrlen + (encode items).length) :
    saveConfigs items = none := by
  simp only [btConfigHdrlen] at h
  have hlt : lenFrom 6 items < 65536 := by
    rw [lenFrom_eq 6 (by decide)]
    exact Nat.mod_lt _ (by decide)
  rw [saveConfigs]
  rcases hmagic : store (List.replicate (lenFrom 6 items) 0) 0 cfgMagic with _ | buf
  · rfl
  · rcases hdlen : store buf 4 (leBytes 2 (lenFrom 0 items)) with _ | buf'
    · show (store buf 4 _).bind _ = none
      rw [hdlen]
      rfl
    · obtain ⟨hbuf, -⟩ := length_of_store hmagic
      obtain ⟨hbuf', hfits⟩ := length_of_store hdlen
      rw [List.length_replicate] at hbuf
      rw [length_leBytes] at hfits
      have hnone : storeItems buf' 6 items = none := storeItems_of_lt (by omega) (by omega)
      show (store buf 4 _).bind _ = none
      rw [hdlen]
      show (storeItems buf' 6 items).bind _ = none
      rw [hnone]
      rfl

lemma savesList_iff : SavesList items ↔ btConfigHdrlen + (encode items).length < 65536 := by
  constructor
  · rintro ⟨buf, hsave, -⟩
    by_contra hge
    rw [saveConfigs_of_le (Nat.not_lt.1 hge)] at hsave
    cases hsave
  · intro h
    have hlen : (cfgMagic ++ leBytes 2 (encode items).length ++ encode items).length =
        btConfigHdrlen + (encode items).length := by
      rw [List.length_append, List.length_append, length_leBytes]
      rfl
    have hheader : HeaderOk (cfgMagic ++ leBytes 2 (encode items).length ++ encode items) := by
      refine ⟨rfl, ?_⟩
      rw [hlen, Nat.add_sub_cancel_left]
      have hdlen : (encode items).length < 256 ^ 2 := by
        simp only [btConfigHdrlen] at h
        omega
      exact leNat_leBytes hdlen
    refine ⟨_, (saveConfigs_of_lt h).trans (by rw [hlen]), ?_⟩
    obtain ⟨out, hparse, hout⟩ := rtkParseConfigFile_of_encode (fun _ => true)
      (by rw [hlen]; exact Nat.le_add_right ..) hheader rfl
    rw [hparse, hout fun _ => rfl]

/-! ### Files and lists -/

/-- Files are parsed as they should exactly if they have a header, and if it is right, entries that
end with the file; lists are written and parsed back exactly if the total length is a 16-bit
number. -/
theorem configFile_iff (alloc : ℕ → Bool) (bs : List UInt8) (items : List CfgItem) :
    (ParsesFile alloc bs ↔ btConfigHdrlen ≤ bs.length ∧
      (HeaderOk bs → ∃ entries, encode entries = bs.drop btConfigHdrlen)) ∧
    (SavesList items ↔ btConfigHdrlen + (encode items).length < 65536) :=
  ⟨parsesFile_iff, savesList_iff⟩

/-- A file whose only entry is cut off. -/
theorem configFile_truncated :
    ¬ ParsesFile (fun _ => true) [0x55, 0xab, 0x23, 0x87, 0x04, 0x00, 0x44, 0x00, 0x06, 0x01] := by
  rintro ⟨ret, items, hparse, -⟩
  have hnone : rtkParseConfigFile (fun _ => true)
      [0x55, 0xab, 0x23, 0x87, 0x04, 0x00, 0x44, 0x00, 0x06, 0x01] = none := by decide
  rw [hnone] at hparse
  cases hparse

end Rtl8723du.BtConfig
