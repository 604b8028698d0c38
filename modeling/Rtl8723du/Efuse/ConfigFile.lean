import Rtl8723du.Lib.Memory
import Rtl8723du.Lib.Spelling
import Rtl8723du.Osdep.TextFile

/-!
# The map from a file

`rtw_read_efuse_from_file` of `core/efuse/rtw_efuse.c` reads a map as text: two hex digits for each
byte, with spaces, line ends and NULs between them.

It succeeds on just the texts of this form, whatever follows the last byte of the map.  But it takes
a file without any byte for one that is not readable, and a map of no bytes, for which `vmalloc` has
no memory, for a failure.  The size of the file is a `u32` to it, and an `int` where it is read: of
a file of 4 GiB and more only the rest above the multiple of 4 GiB is looked at, and nothing is read
if that is 2 GiB or more.
-/

namespace Rtl8723du

open Lib Lib.Memory Osdep

/-! ### The code -/

/-- Why no map is read; with the offset in the map where there is one. -/
inductive EfuseFileError
  | notReadable
  | fileVmalloc
  | read
  | mapVmalloc
  /-- `invalid 8-bit hex format`. -/
  | invalid (i : ℕ)
  /-- `sscanf fail`. -/
  | sscanf (i : ℕ)
  /-- `incomplete 8-bit hex format`. -/
  | incomplete (i : ℕ)
deriving DecidableEq, Repr

/-- How the inner loop is left. -/
inductive ValueRead
  /-- `end`, with `temp_i`. -/
  | atEnd (tempI : ℕ)
  | invalid
  | sscanfFail
  /-- A value, and what is left of the file. -/
  | value (v : UInt8) (data : List UInt8)

/-- The inner loop, with the digits in `temp` and what is left of the file. -/
def readValue : List UInt8 → List UInt8 → ValueRead
  | temp, [] => .atEnd temp.length
  | temp, c :: data =>
      if temp.length = 0 ∧ (isEol c || isSpace c || isNull c) = true then readValue temp data
      else if isHexDigit c = false then .invalid
      else if (temp ++ [c]).length = 2 then
        (sscanfHhx (temp ++ [c])).elim .sscanfFail fun v => .value v data
      else readValue (temp ++ [c]) data

/-- The loop over the map, with `n` offsets left from `i` on. -/
def readValues : ℕ → ℕ → List UInt8 → List UInt8 → Except EfuseFileError (List UInt8)
  | 0, _, _, map => .ok map
  | n + 1, i, data, map =>
      match readValue [] data with
      | .atEnd tempI => if tempI ≠ 0 then .error (.incomplete i) else .ok map
      | .invalid => .error (.invalid i)
      | .sscanfFail => .error (.sscanf i)
      | .value v data => readValues n (i + 1) data (map.set i v)

/-- What is not under the control of the function: the pointer to the file, and whether there is
memory for the file and for the map. -/
structure FileEnv where
  fp : BitVec 64
  fileMemory : Bool
  mapMemory : Bool

/-- `rtw_read_efuse_from_file`: what goes wrong, if anything, and the memory from `buf` on. -/
def rtwReadEfuseFromFile (env : FileEnv) {file : List UInt8} (io : Reader file) (mapSize : ℕ)
    (buf : Mem) : Option (Except EfuseFileError Unit × Mem) :=
  (isFileReadable env.fp io.rlen).bind fun err =>
    let fileSize := BitVec.ofNat 32 file.length
    if err ≠ 0 then some (.error .notReadable, buf)
    else if rtwVmalloc env.fileMemory fileSize.toNat = false then some (.error .fileVmalloc, buf)
    else (rtwRetrieveFromFile io.rlen fileSize).bind fun readSize =>
      if readSize = 0 then some (.error .read, buf)
      else if rtwVmalloc env.mapMemory mapSize = false then some (.error .mapVmalloc, buf)
      else
        match readValues mapSize 0 (file.take readSize) (List.replicate mapSize 0xFF) with
        | .error e => some (.error e, buf)
        | .ok map => some (.ok (), write buf 0 map)

/-! ### Texts -/

/-- The separators and digits of a map file. -/
def mapFile : Spelling.Alphabet UInt8 UInt8 where
  sep c := isEol c || isSpace c || isNull c
  digit := isHexDigit
  value := byteOf
  sep_of_digit c h := by
    rw [(plainDigit h).isEol, (plainDigit h).isSpace, (plainDigit h).isNull]
    rfl

/-- The values, and 0xFF behind them. -/
def padded (mapSize : ℕ) (vs : List UInt8) : List UInt8 :=
  vs ++ List.replicate (mapSize - vs.length) 0xFF

/-- The reader succeeds on a text of values, if all else is well, and the map is then those values.
Otherwise the buffer is left alone. -/
structure ReadsMap (mapSize : ℕ) (text : List UInt8) (ok : Prop) (buf : Mem)
    (r : Except EfuseFileError Unit × Mem) : Prop where
  success_iff : r.1 = .ok () ↔ ok ∧ ∃ vs, Spelling.Spells mapFile mapSize text vs
  map : ∀ vs, r.1 = .ok () → Spelling.Spells mapFile mapSize text vs →
    r.2 = write buf 0 (padded mapSize vs)
  untouched : r.1 ≠ .ok () → r.2 = buf

/-- The size of a file, as it is read: a `u32`, and then an `int`. -/
def sizeRead (file : List UInt8) : ℕ :=
  if file.length % 2 ^ 32 < 2 ^ 31 then file.length % 2 ^ 32 else 0

variable {a b c v : UInt8} {n i mapSize : ℕ} {temp data file map : List UInt8} {vs : List UInt8}
  {env : FileEnv} {buf : Mem}

/-! ### The inner loop -/

@[simp] lemma readValue_nil : readValue temp [] = .atEnd temp.length := by rw [readValue]

lemma readValue_of_sep (hc : mapFile.sep c = true) :
    readValue [] (c :: data) = readValue [] data := by
  rw [readValue, if_pos ⟨rfl, hc⟩]

lemma readValue_of_other (hc : mapFile.sep c = false) (hdigit : isHexDigit c = false) :
    readValue [] (c :: data) = .invalid := by
  rw [readValue, if_neg, if_pos hdigit]
  rintro ⟨-, hsep⟩
  exact Bool.false_ne_true (hc.symm.trans hsep)

/-- The first digit is kept. -/
lemma readValue_of_digit (hc : isHexDigit c = true) :
    readValue [] (c :: data) = readValue [c] data := by
  rw [readValue, if_neg, if_neg (by simp [hc]), if_neg (by simp)]
  · rfl
  · rintro ⟨-, hsep⟩
    exact Bool.false_ne_true ((mapFile.sep_of_digit c hc).symm.trans hsep)

/-- Behind a digit nothing but a digit may stand. -/
lemma readValue_singleton (ha : isHexDigit a = true) : readValue [a] (b :: data) =
    if isHexDigit b = true then .value (byteOf a b) data else .invalid := by
  rw [readValue, if_neg (by simp)]
  by_cases hb : isHexDigit b = true
  · rw [if_neg (by simp [hb]), if_pos hb]
    show (sscanfHhx [a, b]).elim _ _ = _
    rw [sscanfHhx_pair ha hb]
    rfl
  · rw [if_pos (by simpa using hb), if_neg hb]

/-! ### The loop over the map -/

lemma readValues_of_sep (hc : mapFile.sep c = true) :
    readValues (n + 1) i (c :: data) map = readValues (n + 1) i data map := by
  rw [readValues, readValue_of_sep hc, readValues]

lemma readValues_of_value (h : readValue [] data = .value v file) :
    readValues (n + 1) i data map = readValues n (i + 1) file (map.set i v) := by
  rw [readValues, h]

/-- The first byte that is not yet written is. -/
lemma set_append_replicate (done : List UInt8) (n : ℕ) (v : UInt8) :
    (done ++ List.replicate (n + 1) 0xFF).set done.length v =
      (done ++ [v]) ++ List.replicate n 0xFF := by
  rw [List.replicate_succ, List.set_append_right _ _ le_rfl, Nat.sub_self, List.set_cons_zero,
    List.append_assoc]
  rfl

lemma append_padded_cons (done : List UInt8) (n : ℕ) (v : UInt8) (vs : List UInt8) :
    (done ++ [v]) ++ padded n vs = done ++ padded (n + 1) (v :: vs) := by
  rw [padded, padded, List.length_cons, Nat.add_sub_add_right, List.append_assoc]
  rfl

/-- Where neither a separator nor a value comes next, the loop fails. -/
lemma readValues_ne_ok (hc : mapFile.sep c = false)
    (hvalue : ∀ b rest, data = b :: rest → isHexDigit c = true → isHexDigit b = false)
    (out : List UInt8) : readValues (n + 1) i (c :: data) map ≠ .ok out := by
  intro h
  rw [readValues] at h
  by_cases ha : isHexDigit c = true
  · rw [readValue_of_digit ha] at h
    rcases data with _ | ⟨b, data⟩
    · -- the file ends inside a value
      rw [readValue_nil] at h
      simp at h
    · rw [readValue_singleton ha, if_neg (by rw [hvalue b data rfl ha]; decide)] at h
      cases h
  · rw [readValue_of_other hc (Bool.not_eq_true _ ▸ ha)] at h
    cases h

/-- The loop succeeds on the texts, and writes their values. -/
lemma readValues_eq_ok_iff (n : ℕ) (data done out : List UInt8) :
    readValues n done.length data (done ++ List.replicate n 0xFF) = .ok out ↔
      ∃ vs, Spelling.Spells mapFile n data vs ∧ out = done ++ padded n vs := by
  -- over the offsets that are left, and for each of them over the separators before its value
  induction n generalizing data done with
  | zero => simp [readValues, padded, eq_comm]
  | succ n ih =>
      induction data with
      | nil => simp [readValues, padded, eq_comm]
      | cons c data ihdata =>
          rcases Spelling.cons_cases mapFile c data with hc | ⟨b, rest, rfl, ha, hb⟩ | ⟨hc, hbad⟩
          · rw [readValues_of_sep hc, ihdata]
            simp only [Spelling.spells_cons_of_sep hc]
          · have hvalue : readValue [] (c :: b :: rest) = .value (byteOf c b) rest := by
              rw [readValue_of_digit ha, readValue_singleton ha]
              exact if_pos hb
            have hlen : done.length + 1 = (done ++ [byteOf c b]).length := by
              rw [List.length_append, List.length_singleton]
            rw [readValues_of_value hvalue, set_append_replicate, hlen, ih]
            constructor
            · rintro ⟨ws, hws, rfl⟩
              exact ⟨_, (Spelling.spells_cons_cons_of_digit ha hb).2 ⟨ws, rfl, hws⟩,
                append_padded_cons ..⟩
            · rintro ⟨vs, hvs, rfl⟩
              obtain ⟨ws, rfl, hws⟩ := (Spelling.spells_cons_cons_of_digit ha hb).1 hvs
              exact ⟨ws, hws, (append_padded_cons ..).symm⟩
          · refine iff_of_false (readValues_ne_ok hc hbad out) ?_
            rintro ⟨vs, hvs, -⟩
            exact Spelling.not_spells_cons hc hbad hvs

/-! ### The function -/

lemma toNat_ofNat_length (file : List UInt8) :
    (BitVec.ofNat 32 file.length).toNat = file.length % 2 ^ 32 := BitVec.toNat_ofNat ..

/-- How much of the file is read. -/
lemma min_toInt_eq_sizeRead (file : List UInt8) :
    min (BitVec.ofNat 32 file.length).toInt.toNat file.length = sizeRead file := by
  have hle : file.length % 2 ^ 32 ≤ file.length := Nat.mod_le ..
  rw [BitVec.toInt_eq_toNat_cond, toNat_ofNat_length, sizeRead]
  split <;> split <;> omega

lemma sizeRead_le (file : List UInt8) : sizeRead file ≤ file.length % 2 ^ 32 := by
  unfold sizeRead
  split <;> omega

lemma rtwVmalloc_eq_true {memory : Bool} {sz : ℕ} :
    rtwVmalloc memory sz = true ↔ memory = true ∧ 0 < sz := by
  rw [rtwVmalloc, Bool.and_eq_true, bne_iff_ne, Nat.pos_iff_ne_zero]

/-- What has to hold for the loop over the map to be reached. -/
def Reached (env : FileEnv) (file : List UInt8) (mapSize : ℕ) : Prop :=
  env.fileMemory = true ∧ env.mapMemory = true ∧ 0 < sizeRead file ∧ 0 < mapSize

section

variable {text : List UInt8} {e : EfuseFileError}

/-- The text decides about the map. -/
lemma padded_eq_of_spells (h : Spelling.Spells mapFile mapSize text vs) :
    readValues mapSize 0 text (List.replicate mapSize 0xFF) = .ok (padded mapSize vs) :=
  (readValues_eq_ok_iff mapSize text [] _).2 ⟨vs, h, rfl⟩

end

/-- What is read from a file if nothing goes wrong before. -/
lemma run_of_reached (io : Reader file) (h : Reached env file mapSize) (buf : Mem) :
    rtwReadEfuseFromFile env io mapSize buf =
      match readValues mapSize 0 (file.take (sizeRead file)) (List.replicate mapSize 0xFF) with
      | .error e => some (.error e, buf)
      | .ok map => some (.ok (), write buf 0 map) := by
  obtain ⟨hfile, hmap, hsize, hpos⟩ := h
  have hle := sizeRead_le file
  have hne : file ≠ [] := by
    rintro rfl
    rw [List.length_nil, Nat.zero_mod] at hle
    omega
  rw [rtwReadEfuseFromFile, io.isFileReadable, if_neg hne, Option.bind_some]
  simp only [toNat_ofNat_length, io.rtwRetrieveFromFile, min_toInt_eq_sizeRead, Option.bind_some]
  rw [if_neg (fun h => h rfl), if_neg (by rw [rtwVmalloc_eq_true.2 ⟨hfile, by omega⟩]; decide),
    if_neg (by omega), if_neg (by rw [rtwVmalloc_eq_true.2 ⟨hmap, hpos⟩]; decide)]

/-- Otherwise an error is returned, and nothing is written. -/
lemma error_of_not_reached (io : Reader file) (h : ¬ Reached env file mapSize) (buf : Mem) :
    ∃ e, rtwReadEfuseFromFile env io mapSize buf = some (.error e, buf) := by
  rw [rtwReadEfuseFromFile, io.isFileReadable, Option.bind_some]
  simp only [toNat_ofNat_length, io.rtwRetrieveFromFile, min_toInt_eq_sizeRead, Option.bind_some]
  by_cases herr : (if file = [] then env.fp.setWidth 32 else 0) ≠ 0
  · exact ⟨_, if_pos herr⟩
  rw [if_neg herr]
  by_cases hfile : rtwVmalloc env.fileMemory (file.length % 2 ^ 32) = false
  · exact ⟨_, if_pos hfile⟩
  rw [if_neg hfile]
  by_cases hread : sizeRead file = 0
  · exact ⟨_, if_pos hread⟩
  rw [if_neg hread]
  by_cases hmap : rtwVmalloc env.mapMemory mapSize = false
  · exact ⟨_, if_pos hmap⟩
  rw [Bool.not_eq_false, rtwVmalloc_eq_true] at hfile hmap
  exact absurd ⟨hfile.1, hmap.1, Nat.pos_of_ne_zero hread, hmap.2⟩ h

/-- Where no map is read, an error is returned, and nothing is written. -/
lemma error_of_not_spells (io : Reader file)
    (h : Reached env file mapSize →
      ∀ vs, ¬ Spelling.Spells mapFile mapSize (file.take (sizeRead file)) vs) (buf : Mem) :
    ∃ e, rtwReadEfuseFromFile env io mapSize buf = some (.error e, buf) := by
  by_cases hreached : Reached env file mapSize
  · rw [run_of_reached io hreached]
    cases hvalues :
      readValues mapSize 0 (file.take (sizeRead file)) (List.replicate mapSize 0xFF) with
    | error e => exact ⟨e, rfl⟩
    | ok map =>
        obtain ⟨vs, hvs, -⟩ := (readValues_eq_ok_iff mapSize _ [] map).1 hvalues
        exact absurd hvs (h hreached vs)
  · exact error_of_not_reached io hreached buf

/-- The part of the file that is read decides, if there is any, and memory, and a map. -/
theorem rtwReadEfuseFromFile_readsMap (env : FileEnv) (io : Reader file) (mapSize : ℕ) (buf : Mem) :
    ∃ r, rtwReadEfuseFromFile env io mapSize buf = some r ∧
      ReadsMap mapSize (file.take (sizeRead file)) (Reached env file mapSize) buf r := by
  by_cases h : Reached env file mapSize ∧
      ∃ vs, Spelling.Spells mapFile mapSize (file.take (sizeRead file)) vs
  · have hmap {ws} (hws : Spelling.Spells mapFile mapSize (file.take (sizeRead file)) ws) :
        rtwReadEfuseFromFile env io mapSize buf =
          some (.ok (), write buf 0 (padded mapSize ws)) := by
      rw [run_of_reached io h.1, padded_eq_of_spells hws]
    obtain ⟨vs, hvs⟩ := h.2
    refine ⟨_, hmap hvs, ⟨fun _ => h, fun _ => rfl⟩, fun ws _ hws => ?_, fun hne => absurd rfl hne⟩
    have hsame := (hmap hvs).symm.trans (hmap hws)
    exact congrArg Prod.snd (Option.some.inj hsame)
  · have hnot (hreached : Reached env file mapSize) :
        ∀ vs, ¬ Spelling.Spells mapFile mapSize (file.take (sizeRead file)) vs :=
      fun vs hvs => h ⟨hreached, vs, hvs⟩
    obtain ⟨e, he⟩ := error_of_not_spells io hnot buf
    refine ⟨_, he, ⟨fun heq => ?_, fun hok => absurd hok h⟩, fun vs heq => ?_, fun _ => rfl⟩
    · cases heq
    · cases heq

/-- The whole file decides, whatever its size and that of the map. -/
def ReadsFile (file : List UInt8) (mapSize : ℕ) : Prop :=
  ∀ (env : FileEnv) (io : Reader file) (buf : Mem), env.fileMemory = true → env.mapMemory = true →
    ∃ r, rtwReadEfuseFromFile env io mapSize buf = some r ∧ ReadsMap mapSize file True buf r

/-- A text that is not read as one. -/
lemma not_readsFile_of_spells {file : List UInt8} {mapSize : ℕ} {vs : List UInt8}
    (hvs : Spelling.Spells mapFile mapSize file vs)
    (h : 0 < sizeRead file → 0 < mapSize →
      ∀ vs, ¬ Spelling.Spells mapFile mapSize (file.take (sizeRead file)) vs) :
    ¬ ReadsFile file mapSize := by
  intro hreads
  obtain ⟨r, hr, hmap⟩ := hreads ⟨0, true, true⟩ (.whole file) (fun _ => 0) rfl rfl
  have hnot (hreached : Reached ⟨0, true, true⟩ file mapSize) :
      ∀ vs, ¬ Spelling.Spells mapFile mapSize (file.take (sizeRead file)) vs :=
    h hreached.2.2.1 hreached.2.2.2
  obtain ⟨e, he⟩ := error_of_not_spells (.whole file) hnot fun _ => 0
  obtain rfl := Option.some.inj (hr.symm.trans he)
  have hsuccess := hmap.success_iff.2 ⟨trivial, vs, hvs⟩
  cases hsuccess

/-- The digit 0 and nothing else, with more digits than there are offsets. -/
lemma spells_replicate (n m : ℕ) : Spelling.Spells mapFile n (List.replicate (2 * n + m) 48)
    (List.replicate n (byteOf 48 48)) := by
  induction n with
  | zero => exact Spelling.spells_zero.2 rfl
  | succ n ih =>
      have hlen : 2 * (n + 1) + m = 2 * n + m + 1 + 1 := by omega
      rw [hlen, List.replicate_succ, List.replicate_succ, List.replicate_succ]
      exact (Spelling.spells_cons_cons_of_digit (A := mapFile) rfl rfl).2 ⟨_, rfl, ih⟩

/-- A file without a byte, a map without a byte, and a file of 4 GiB and one byte, all of them the
digit 0. -/
theorem not_readsFile : ¬ ReadsFile [] 512 ∧ ¬ ReadsFile [48, 48] 0 ∧
    ¬ ReadsFile (List.replicate (2 ^ 32 + 1) 48) 512 := by
  refine ⟨?_, ?_, ?_⟩
  · refine not_readsFile_of_spells (Spelling.spells_nil.2 rfl) fun hpos => ?_
    cases hpos
  · refine not_readsFile_of_spells (Spelling.spells_zero.2 rfl) fun _ hpos => ?_
    cases hpos
  · have hspells := spells_replicate 512 (2 ^ 32 - 1023)
    rw [show 2 * 512 + (2 ^ 32 - 1023) = 2 ^ 32 + 1 by omega] at hspells
    refine not_readsFile_of_spells hspells fun _ _ vs => ?_
    -- the size is 1 to the function, and one digit is no value
    have hsize : sizeRead (List.replicate (2 ^ 32 + 1) 48) = 1 := by
      rw [sizeRead, List.length_replicate]
      decide
    rw [hsize, List.take_replicate, Nat.min_eq_left (by omega), List.replicate_one]
    exact Spelling.not_spells_cons rfl fun _ _ hnil => by cases hnil

end Rtl8723du
