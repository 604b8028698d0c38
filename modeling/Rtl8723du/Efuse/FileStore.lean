import Mathlib.Data.List.TakeWhile
import Rtl8723du.Lib.Footprint
import Rtl8723du.Lib.Memory
import Rtl8723du.Lib.Spelling
import Rtl8723du.Osdep.TextFile

/-!
# A map written to a file

`rtw_efuse_file_store` of `core/efuse/rtw_efuse.c` writes a map as lines of sixteen bytes in hex,
and `rtw_efuse_file_read` reads it back.

The loop of the store goes on as long as `i <= len`, and writes whole lines: the last one has bytes
from behind the map, all of them where `len` is a multiple of sixteen.  The buffer for the text has
three bytes for each byte of the map, none for those bytes, for the line ends and for the NUL.  So
every call reads outside the map and writes outside the buffer.

The text itself is read back: the reader stops after `len` bytes.  It looks at the first 4096 bytes
of the file only, and wants more than 90.  Where a text fills the 4096 bytes, `strpbrk` leaves the
buffer in search of the end of the last byte.
-/

namespace Rtl8723du

open Lib Lib.Footprint Lib.Memory Osdep

/-! ### The store -/

/-- What stands before `pchr` in `cbuf`, and what was read of the map and written of `cbuf`. -/
structure StoreState where
  cbuf : List UInt8
  log : List (Access Unit)

/-- `sprintf` with `"%02X "`, whose NUL is written as well. -/
def storeByte (map : Mem) (s : StoreState) (k : ℕ) : StoreState where
  cbuf := s.cbuf ++ (sprintf02X (map k) ++ [32])
  log := s.log ++ [.read ⟨k, 1⟩, .write () s.cbuf.length 4]

/-- A line. -/
def storeLine (map : Mem) (s : StoreState) (i : ℕ) : StoreState :=
  let s := (List.range 16).foldl (fun s j => storeByte map s (i + j)) s
  { cbuf := s.cbuf ++ [10]
    log := s.log ++ [.write () s.cbuf.length 2] }

/-- A pass of the loop over `i`. -/
def storePass (map : Mem) (len : ℕ) (s : StoreState × ℕ) : StoreState ⊕ (StoreState × ℕ) :=
  if s.2 ≤ len then .inr (storeLine map s.1 s.2, s.2 + 16) else .inl s.1

/-- `rtw_efuse_file_store`: whether it returns `_SUCCESS`, the file, and the accesses.  What does
not fit into `cbuf` is taken to be behind it. -/
def rtwEfuseFileStore (memory : Bool) (io : Writer) (map : Mem) (len : ℕ) (old : List UInt8) :
    Option (Bool × List UInt8 × List (Access Unit)) :=
  if memory = false then some (false, old, [])
  else (Loop.run (storePass map len) (len / 16 + 2) (⟨[], []⟩, 0)).bind fun s =>
    let strlen := (s.cbuf.takeWhile (· ≠ 0)).length
    (rtwStoreToFile io.wlen (BitVec.ofNat 32 strlen)).map fun err =>
      (err == strlen, overwritten old (s.cbuf.take err), s.log)

/-! ### The reader -/

/-- The separators that `strpbrk` looks for. -/
def isCut (c : UInt8) : Bool := c == 32 || c == 9 || c == 10 || c == 13

/-- `strpbrk` from an offset on: where the first separator is, if there is one before the NUL.
Without a NUL it leaves the buffer. -/
def strpbrk (s : List UInt8) (i : ℕ) : Option (Option ℕ) :=
  ((s.drop i).findIdx? fun c => isCut c || c == 0).map fun k =>
    if s[i + k]? = some 0 then none else some (i + k)

/-- The loop of `rtw_efuse_file_read`. -/
structure FileRead where
  tmpbuf : List UInt8
  i : ℕ
  j : ℕ
  buf : Mem

/-- The string at `i` is converted; `ptr` is where it ends. -/
def FileRead.token (s : FileRead) (ptr : ℕ) : FileRead :=
  match sscanfHhx ((s.tmpbuf.drop s.i).takeWhile (· ≠ 0)) with
  | none => { s with i := ptr + 1 }
  | some val8 => { s with buf := write s.buf s.j [val8], j := s.j + 1, i := ptr + 1 }

/-- A pass of the loop; nothing where it reads outside its buffer. -/
def fileReadPass (len count : ℕ) (s : FileRead) : Option FileRead ⊕ FileRead :=
  if s.j < len ∧ s.i < count then
    if s.tmpbuf[s.i]? = some 0 then .inl (some s)
    else
      match strpbrk s.tmpbuf s.i with
      | none => .inl none
      | some none => .inr (s.token (count - 1))
      | some (some ptr) =>
          if ptr = s.i then .inr { s with i := s.i + 1 }
          else .inr (FileRead.token { s with tmpbuf := s.tmpbuf.set ptr 0 } ptr)
  else .inl (some s)

/-- `rtw_efuse_file_read`: whether it returns `_TRUE`, and the memory from `buf` on. -/
def rtwEfuseFileRead (memory : Bool) {file : List UInt8} (io : Reader file) (len : ℕ) (buf : Mem) :
    Option (Bool × Mem) :=
  if memory = false then some (false, buf)
  else (rtwRetrieveFromFile io.rlen 4096).bind fun count =>
    if count ≤ 90 then some (false, buf)
    else
      (Loop.run (fileReadPass len count) (count + 1)
        ⟨file.take count ++ List.replicate (4096 - count) 0, 0, 0, buf⟩).join.map
          fun s => (true, s.buf)

/-! ### What is to hold -/

/-- Of the map only the first `len` bytes are read. -/
def ReadsInside (len : ℕ) (log : List (Access Unit)) : Prop :=
  ∀ r, .read r ∈ log → r.Within ⟨0, len⟩

/-- Only the text buffer is written. -/
def WritesInside (len : ℕ) (log : List (Access Unit)) : Prop :=
  ∀ off n, .write () off n ∈ log → off + n ≤ len * 3

/-- The file is read back as the map. -/
def ReadsBack (map : Mem) (len : ℕ) (file : List UInt8) : Prop :=
  ∀ (io : Reader file) (buf : Mem),
    rtwEfuseFileRead true io len buf = some (true, write buf 0 (readBytes map 0 len))

/-- A map is stored as it is to be. -/
def StoresMap (io : Writer) (map : Mem) (len : ℕ) (old : List UInt8) : Prop :=
  ∃ file log, rtwEfuseFileStore true io map len old = some (true, file, log) ∧
    ReadsInside len log ∧ WritesInside len log ∧ ReadsBack map len file

variable {map buf : Mem} {len count n m i k : ℕ} {s : StoreState} {old file text rest : List UInt8}
  {a b c : UInt8} {vs : List UInt8}

/-! ### The text -/

/-- A byte of the map in the text. -/
def valueText (map : Mem) (k : ℕ) : List UInt8 := sprintf02X (map k) ++ [32]

/-- The bytes from `i` on. -/
def valuesText (map : Mem) (i m : ℕ) : List UInt8 :=
  (List.range m).flatMap fun j => valueText map (i + j)

/-- The first `n` lines. -/
def linesText (map : Mem) (n : ℕ) : List UInt8 :=
  (List.range n).flatMap fun l => valuesText map (16 * l) 16 ++ [10]

/-- The first `n` lines are stored. -/
def storeLines (map : Mem) (n : ℕ) : StoreState :=
  (List.range n).foldl (fun s l => storeLine map s (16 * l)) ⟨[], []⟩

lemma valuesText_succ (map : Mem) (i m : ℕ) :
    valuesText map i (m + 1) = valuesText map i m ++ valueText map (i + m) := by
  rw [valuesText, List.range_succ, List.flatMap_append, List.flatMap_singleton]
  rfl

lemma linesText_succ (map : Mem) (n : ℕ) :
    linesText map (n + 1) = linesText map n ++ (valuesText map (16 * n) 16 ++ [10]) := by
  rw [linesText, List.range_succ, List.flatMap_append, List.flatMap_singleton]
  rfl

lemma storeLines_succ (map : Mem) (n : ℕ) :
    storeLines map (n + 1) = storeLine map (storeLines map n) (16 * n) := by
  rw [storeLines, List.range_succ, List.foldl_append]
  rfl

lemma length_valueText (map : Mem) (k : ℕ) : (valueText map k).length = 3 := rfl

lemma length_valuesText (map : Mem) (i m : ℕ) : (valuesText map i m).length = 3 * m := by
  induction m with
  | zero => rfl
  | succ m ih => rw [valuesText_succ, List.length_append, ih, length_valueText, Nat.mul_succ]

lemma length_linesText (map : Mem) (n : ℕ) : (linesText map n).length = 49 * n := by
  induction n with
  | zero => rfl
  | succ n ih =>
      rw [linesText_succ, List.length_append, ih, List.length_append, length_valuesText,
        List.length_singleton]
      omega

lemma cbuf_foldl_storeByte (map : Mem) (s : StoreState) (i m : ℕ) :
    ((List.range m).foldl (fun s j => storeByte map s (i + j)) s).cbuf =
      s.cbuf ++ valuesText map i m := by
  induction m with
  | zero => exact (List.append_nil _).symm
  | succ m ih =>
      rw [List.range_succ, List.foldl_append, List.foldl_cons, List.foldl_nil]
      show _ ++ _ = _
      rw [ih, valuesText_succ, List.append_assoc]
      rfl

lemma cbuf_storeLines (map : Mem) (n : ℕ) : (storeLines map n).cbuf = linesText map n := by
  induction n with
  | zero => rfl
  | succ n ih =>
      rw [storeLines_succ, linesText_succ, ← ih]
      show _ ++ [10] = _
      rw [cbuf_foldl_storeByte, List.append_assoc]

/-- The loop ends behind the first line that does not begin in the map. -/
lemma run_storePass (map : Mem) (len n : ℕ) (hn : n ≤ len / 16 + 1) (hk : len / 16 + 1 - n < k) :
    Loop.run (storePass map len) k (storeLines map n, 16 * n) =
      some (storeLines map (len / 16 + 1)) := by
  induction k generalizing n with
  | zero => omega
  | succ k ih =>
      rw [Loop.run, storePass]
      rcases hn.eq_or_lt with rfl | hlt
      · rw [if_neg (by omega)]
      · rw [if_pos (by omega), ← storeLines_succ]
        exact ih (n + 1) (by omega) (by omega)

lemma ne_zero_of_mem_valueText (hc : c ∈ valueText map k) : c ≠ 0 := by
  rcases List.mem_append.1 hc with hdigit | hspace
  · exact ne_zero_of_isHexDigit (isHexDigit_of_mem_sprintf02X hdigit)
  · rw [List.mem_singleton.1 hspace]
    decide

lemma ne_zero_of_mem_linesText (hc : c ∈ linesText map n) : c ≠ 0 := by
  obtain ⟨l, -, hl⟩ := List.mem_flatMap.1 hc
  rcases List.mem_append.1 hl with hl | hl
  · obtain ⟨j, -, hj⟩ := List.mem_flatMap.1 hl
    exact ne_zero_of_mem_valueText hj
  · rw [List.mem_singleton.1 hl]
    decide

/-- What is stored. -/
lemma rtwEfuseFileStore_eq (io : Writer) (map : Mem) (hlen : len < 2 ^ 16) (old : List UInt8) :
    rtwEfuseFileStore true io map len old =
      some (true, overwritten old (linesText map (len / 16 + 1)),
        (storeLines map (len / 16 + 1)).log) := by
  have hrun : Loop.run (storePass map len) (len / 16 + 2) (⟨[], []⟩, 0) =
      some (storeLines map (len / 16 + 1)) := run_storePass map len 0 (Nat.zero_le _) (by omega)
  have hall : (linesText map (len / 16 + 1)).takeWhile (· ≠ 0) = linesText map (len / 16 + 1) :=
    List.takeWhile_eq_self_iff.2 fun c hc => decide_eq_true (ne_zero_of_mem_linesText hc)
  have hint : (BitVec.ofNat 32 (49 * (len / 16 + 1))).toInt.toNat = 49 * (len / 16 + 1) := by
    rw [BitVec.toInt_eq_toNat_cond, BitVec.toNat_ofNat, Nat.mod_eq_of_lt (by omega),
      if_pos (by omega), Int.toNat_natCast]
  have htake : (linesText map (len / 16 + 1)).take (49 * (len / 16 + 1)) =
      linesText map (len / 16 + 1) := by
    rw [← length_linesText map, List.take_length]
  rw [rtwEfuseFileStore, if_neg (by decide), hrun, Option.bind_some, cbuf_storeLines, hall,
    length_linesText]
  show (rtwStoreToFile io.wlen (BitVec.ofNat 32 (49 * (len / 16 + 1)))).map _ = _
  rw [io.rtwStoreToFile, hint, Option.map_some, beq_self_eq_true, htake]

/-! ### What is touched -/

/-- The last byte of a line is read. -/
lemma read_mem_storeLine (map : Mem) (s : StoreState) (i : ℕ) :
    .read ⟨i + 15, 1⟩ ∈ (storeLine map s i).log := by
  have hrange : List.range 16 = List.range 15 ++ [15] := rfl
  rw [storeLine, hrange, List.foldl_append]
  refine List.mem_append_left _ ?_
  exact List.mem_append_right _ List.mem_cons_self

/-- The end of a line is written, and a NUL. -/
lemma write_mem_storeLine (map : Mem) (s : StoreState) (i : ℕ) :
    .write () (s.cbuf.length + 48) 2 ∈ (storeLine map s i).log := by
  have hlen : ((List.range 16).foldl (fun s j => storeByte map s (i + j)) s).cbuf.length =
      s.cbuf.length + 48 := by
    rw [cbuf_foldl_storeByte, List.length_append, length_valuesText]
  rw [storeLine, hlen]
  exact List.mem_append_right _ List.mem_cons_self

variable {bound room : ℕ}

/-- The last line ends behind the map. -/
lemma not_readsInside (map : Mem) (len : ℕ) :
    ¬ ReadsInside len (storeLines map (len / 16 + 1)).log := by
  intro h
  rw [storeLines_succ] at h
  obtain ⟨-, hend⟩ := h _ (read_mem_storeLine map _ (16 * (len / 16)))
  have hlast : 16 * (len / 16) + 15 + 1 ≤ 0 + len := hend
  omega

/-- The end of the last line lies behind the buffer. -/
lemma not_writesInside (map : Mem) (len : ℕ) :
    ¬ WritesInside len (storeLines map (len / 16 + 1)).log := by
  intro h
  rw [storeLines_succ] at h
  have hend := h _ _ (write_mem_storeLine map _ (16 * (len / 16)))
  rw [cbuf_storeLines, length_linesText] at hend
  omega

/-! ### Passes of the reader -/

/-- The separators and digits of a stored file. -/
def cutFile : Spelling.Alphabet UInt8 UInt8 where
  sep := isCut
  digit := isHexDigit
  value := byteOf
  sep_of_digit c h := by
    have hplain := plainDigit h
    have heol := hplain.isEol
    have hspace := hplain.isSpace
    rw [isEol, Bool.or_eq_false_iff] at heol
    rw [isSpace, Bool.or_eq_false_iff] at hspace
    rw [isCut, heol.1, heol.2, hspace.1, hspace.2]
    rfl

variable {t t' : FileRead}

lemma getElem?_of_drop (h : t.tmpbuf.drop i = c :: text) : t.tmpbuf[i]? = some c := by
  rw [← List.head?_drop, h, List.head?_cons]

lemma ne_zero_of_isCut (h : isCut c = true) : c ≠ 0 := by
  rintro rfl
  cases h

/-- A separator is skipped. -/
lemma fileReadPass_of_sep (hdrop : t.tmpbuf.drop t.i = c :: text) (hc : isCut c = true)
    (hj : t.j < len) (hi : t.i < count) :
    fileReadPass len count t = .inr { t with i := t.i + 1 } := by
  have hget := getElem?_of_drop hdrop
  have hne : t.tmpbuf[t.i]? ≠ some 0 := by
    rw [hget]
    exact fun h => ne_zero_of_isCut hc (Option.some.inj h)
  have hcut : strpbrk t.tmpbuf t.i = some (some t.i) := by
    rw [strpbrk, hdrop, List.findIdx?_cons, hc, Bool.true_or, if_pos rfl, Option.map_some,
      Nat.add_zero, if_neg hne]
  rw [fileReadPass, if_pos ⟨hj, hi⟩, if_neg hne, hcut]
  exact if_pos rfl

/-- A value is read. -/
lemma fileReadPass_of_value (hdrop : t.tmpbuf.drop t.i = a :: b :: c :: text)
    (ha : isHexDigit a = true) (hb : isHexDigit b = true) (hc : isCut c = true)
    (hj : t.j < len) (hi : t.i < count) :
    fileReadPass len count t = .inr ⟨t.tmpbuf.set (t.i + 2) 0, t.i + 2 + 1, t.j + 1,
      write t.buf t.j [byteOf a b]⟩ := by
  have hnotCut {x : UInt8} (hx : isHexDigit x = true) : (isCut x || x == 0) = false := by
    have hcut : isCut x = false := cutFile.sep_of_digit x hx
    rw [hcut, Bool.false_or]
    exact (plainDigit hx).isNull
  have hget := getElem?_of_drop hdrop
  have hend : t.tmpbuf[t.i + 2]? = some c := by
    have hrest : t.tmpbuf.drop (t.i + 2) = c :: text := by
      rw [← List.drop_drop, hdrop]
      rfl
    exact getElem?_of_drop hrest
  have hfind : (a :: b :: c :: text).findIdx? (fun c => isCut c || c == 0) = some 2 := by
    rw [List.findIdx?_cons, hnotCut ha, List.findIdx?_cons, hnotCut hb, List.findIdx?_cons, hc]
    rfl
  have hcut : strpbrk t.tmpbuf t.i = some (some (t.i + 2)) := by
    rw [strpbrk, hdrop, hfind, Option.map_some, hend, if_neg]
    exact fun h => ne_zero_of_isCut hc (Option.some.inj h)
  have hstring : ((t.tmpbuf.set (t.i + 2) 0).drop t.i).takeWhile (· ≠ 0) = [a, b] := by
    rw [List.drop_set, if_neg (by omega), hdrop, Nat.add_sub_cancel_left]
    show (a :: b :: 0 :: text).takeWhile _ = _
    simp [ne_zero_of_isHexDigit ha, ne_zero_of_isHexDigit hb]
  have hne : some a ≠ some 0 := fun h => ne_zero_of_isHexDigit ha (Option.some.inj h)
  rw [fileReadPass, if_pos ⟨hj, hi⟩, hget, if_neg hne, hcut]
  show (if t.i + 2 = t.i then _ else _) = _
  rw [if_neg (by omega), FileRead.token, hstring, sscanfHhx_pair ha hb]

/-- Where nothing ends the last string, the reader leaves its buffer. -/
lemma fileReadPass_of_outside (hdrop : t.tmpbuf.drop t.i = c :: text)
    (hrest : ∀ x ∈ c :: text, isCut x = false ∧ x ≠ 0) (hj : t.j < len) (hi : t.i < count) :
    fileReadPass len count t = .inl none := by
  have hget := getElem?_of_drop hdrop
  have hcut : strpbrk t.tmpbuf t.i = none := by
    rw [strpbrk, hdrop, List.findIdx?_eq_none_iff.2, Option.map_none]
    intro x hx
    rw [(hrest x hx).1, Bool.false_or, beq_eq_false_iff_ne]
    exact (hrest x hx).2
  rw [fileReadPass, if_pos ⟨hj, hi⟩, hget,
    if_neg fun h => (hrest c List.mem_cons_self).2 (Option.some.inj h), hcut]

lemma fileReadPass_of_le (hj : len ≤ t.j) : fileReadPass len count t = .inl (some t) :=
  if_neg fun h => absurd h.1 (Nat.not_lt.2 hj)

/-! ### Runs of the reader -/

/-- The reader has gone through values that end with `rest` behind them, or is done before that. -/
structure ReadTo (len consumed : ℕ) (vs rest : List UInt8) (t t' : FileRead) : Prop where
  j : t'.j = min len (t.j + vs.length)
  buf : t'.buf = write t.buf t.j (vs.take (len - t.j))
  rest : t'.j < len → t'.tmpbuf.drop t'.i = rest ∧ t'.i = t.i + consumed

lemma ReadTo.refl_of_le (hj : t.j = len) {consumed : ℕ} : ReadTo len consumed vs rest t t where
  j := by omega
  buf := by rw [hj, Nat.sub_self, List.take_zero, write_nil]
  rest h := by omega

/-- The reader goes through a text of closed values. -/
lemma run_of_ended (h : Spelling.Ended cutFile text vs rest) (hdrop : t.tmpbuf.drop t.i = text)
    (hj : t.j ≤ len) (hi : t.i + (text.length - rest.length) ≤ count)
    (hk : text.length - rest.length ≤ k) :
    ∃ k' t', Loop.run (fileReadPass len count) k t = Loop.run (fileReadPass len count) k' t' ∧
      k ≤ k' + (text.length - rest.length) ∧
      ReadTo len (text.length - rest.length) vs rest t t' := by
  induction h generalizing t k with
  | done rest =>
      refine ⟨k, t, rfl, by omega, ?_, ?_, fun _ => ⟨hdrop, by omega⟩⟩
      · rw [List.length_nil]
        omega
      · rw [List.take_nil, write_nil]
  | @sep c text vs rest hc h ih =>
      have hle := h.length_le
      rw [List.length_cons] at hi hk ⊢
      rcases hj.eq_or_lt with hj | hj
      · exact ⟨k, t, rfl, by omega, .refl_of_le hj⟩
      · obtain ⟨k, rfl⟩ : ∃ m, k = m + 1 := ⟨k - 1, by omega⟩
        have hnext : t.tmpbuf.drop (t.i + 1) = text := by
          rw [← List.drop_drop, hdrop]
          rfl
        obtain ⟨k', t', hrun, hk', hto⟩ := ih (t := { t with i := t.i + 1 }) (k := k) hnext hj.le
          (by show t.i + 1 + _ ≤ _; omega) (by omega)
        refine ⟨k', t', ?_, by omega, hto.j, hto.buf, fun hlt => ?_⟩
        · rw [Loop.run, fileReadPass_of_sep hdrop hc hj (by omega)]
          exact hrun
        · obtain ⟨hrest, hi'⟩ := hto.rest hlt
          refine ⟨hrest, hi'.trans ?_⟩
          show t.i + 1 + _ = _
          omega
  | @value a b c text vs rest ha hb hc h ih =>
      have hle := h.length_le
      simp only [List.length_cons] at hi hk ⊢
      rcases hj.eq_or_lt with hj | hj
      · exact ⟨k, t, rfl, by omega, .refl_of_le hj⟩
      · obtain ⟨k, rfl⟩ : ∃ m, k = m + 1 := ⟨k - 1, by omega⟩
        have hnext : (t.tmpbuf.set (t.i + 2) 0).drop (t.i + 2 + 1) = text := by
          rw [List.drop_set_of_lt (by omega), Nat.add_assoc, ← List.drop_drop, hdrop]
          rfl
        obtain ⟨k', t', hrun, hk', hto⟩ := ih (t := ⟨t.tmpbuf.set (t.i + 2) 0, t.i + 2 + 1, t.j + 1,
          write t.buf t.j [byteOf a b]⟩) (k := k) hnext hj
          (by show t.i + 2 + 1 + _ ≤ _; omega) (by omega)
        refine ⟨k', t', ?_, by omega, ?_, ?_, fun hlt => ?_⟩
        · rw [Loop.run, fileReadPass_of_value hdrop ha hb hc hj (by omega)]
          exact hrun
        · rw [hto.j, List.length_cons]
          show min len (t.j + 1 + _) = _
          omega
        · have hsub : len - t.j = len - (t.j + 1) + 1 := by omega
          rw [hto.buf, hsub, List.take_succ_cons]
          exact write_cons ..
        · obtain ⟨hrest, hi'⟩ := hto.rest hlt
          refine ⟨hrest, hi'.trans ?_⟩
          show t.i + 2 + 1 + _ = _
          omega

/-- The reader is done when it has `len` values. -/
lemma exists_run_of_ended (h : Spelling.Ended cutFile text vs rest)
    (hdrop : t.tmpbuf.drop t.i = text) (hj : t.j ≤ len) (hlen : len ≤ t.j + vs.length)
    (hi : t.i + (text.length - rest.length) ≤ count) (hk : text.length - rest.length < k) :
    ∃ t', Loop.run (fileReadPass len count) k t = some (some t') ∧
      t'.buf = write t.buf t.j (vs.take (len - t.j)) := by
  obtain ⟨k', t', hrun, hk', hto⟩ := run_of_ended h hdrop hj hi hk.le
  obtain ⟨k', rfl⟩ : ∃ m, k' = m + 1 := ⟨k' - 1, by omega⟩
  refine ⟨t', ?_, hto.buf⟩
  rw [hrun, Loop.run, fileReadPass_of_le]
  rw [hto.j]
  omega

/-- The reader leaves its buffer behind the last value that is closed. -/
lemma run_of_ended_of_lt (h : Spelling.Ended cutFile text vs (c :: rest))
    (hdrop : t.tmpbuf.drop t.i = text) (hrest : ∀ x ∈ c :: rest, isCut x = false ∧ x ≠ 0)
    (hlen : t.j + vs.length < len) (hi : t.i + (text.length - (c :: rest).length) < count)
    (hk : text.length - (c :: rest).length < k) :
    Loop.run (fileReadPass len count) k t = some none := by
  have hle : t.j ≤ len := by omega
  obtain ⟨k', t', hrun, hk', hto⟩ := run_of_ended h hdrop hle hi.le hk.le
  obtain ⟨k', rfl⟩ : ∃ m, k' = m + 1 := ⟨k' - 1, by omega⟩
  have hj : t'.j < len := by
    rw [hto.j]
    omega
  obtain ⟨hdrop', hi'⟩ := hto.rest hj
  rw [hrun, Loop.run, fileReadPass_of_outside hdrop' hrest hj (by omega)]

/-! ### The stored text is read -/

lemma ended_valueText (map : Mem) (k : ℕ) :
    Spelling.Ended cutFile (valueText map k) [map k] [] := by
  have hlt := (map k).toNat_lt
  have hended : Spelling.Ended cutFile (valueText map k)
      [byteOf (hexUpper ((map k).toNat / 16)) (hexUpper ((map k).toNat % 16))] [] :=
    .value (hexUpper_digit _ (by omega)).1 (hexUpper_digit _ (by omega)).1 rfl (.done [])
  rwa [byteOf_sprintf02X] at hended

/-- Two texts, one behind the other. -/
lemma ended_append {ws more : List UInt8} (h : Spelling.Ended cutFile text vs [])
    (h' : Spelling.Ended cutFile more ws rest) :
    Spelling.Ended cutFile (text ++ more) (vs ++ ws) rest :=
  (h.append_right more).append h'

lemma ended_valuesText (map : Mem) (i m : ℕ) :
    Spelling.Ended cutFile (valuesText map i m) (readBytes map i m) [] := by
  induction m with
  | zero => exact .done []
  | succ m ih =>
      rw [valuesText_succ, readBytes_add]
      exact ended_append ih (ended_valueText map (i + m))

lemma ended_linesText (map : Mem) (n : ℕ) :
    Spelling.Ended cutFile (linesText map n) (readBytes map 0 (16 * n)) [] := by
  induction n with
  | zero => exact .done []
  | succ n ih =>
      have hline : Spelling.Ended cutFile (valuesText map (16 * n) 16 ++ [10])
          (readBytes map (16 * n) 16 ++ []) [] :=
        ended_append (ended_valuesText map (16 * n) 16) (.sep rfl (.done []))
      rw [List.append_nil] at hline
      rw [linesText_succ, Nat.mul_succ, readBytes_add, Nat.zero_add]
      exact ended_append ih hline

/-- The number of values that are closed in the first 4096 bytes of a long text. -/
abbrev maxValues : ℕ := 1337

/-- Those values: 83 lines, and 9 values of the next one. -/
def closedText (map : Mem) : List UInt8 := linesText map 83 ++ valuesText map 1328 9

lemma length_closedText (map : Mem) : (closedText map).length = 4094 := by
  rw [closedText, List.length_append, length_linesText, length_valuesText]

lemma ended_closedText (map : Mem) :
    Spelling.Ended cutFile (closedText map) (readBytes map 0 maxValues) [] := by
  have hvalues : readBytes map 0 maxValues = readBytes map 0 (16 * 83) ++ readBytes map 1328 9 :=
    readBytes_add map 0 (16 * 83) 9
  rw [hvalues]
  exact ended_append (ended_linesText map 83) (ended_valuesText map 1328 9)

/-- In a text of more than 83 lines the two digits behind the closed values are the last of the
first 4096 bytes. -/
lemma linesText_eq (map : Mem) (r : ℕ) : ∃ more,
    linesText map (84 + r) = closedText map ++ sprintf02X (map maxValues) ++ more := by
  induction r with
  | zero =>
      have hvalues : valuesText map 1328 16 = valuesText map 1328 9 ++ sprintf02X (map maxValues) ++
          (32 :: valuesText map 1338 6) := by
        have hrange : List.range 16 = List.range 9 ++ (9 :: (List.range 6).map (10 + ·)) := rfl
        rw [valuesText, hrange, List.flatMap_append, List.flatMap_cons, List.flatMap_map,
          List.append_assoc]
        simp [valuesText, valueText, ← Nat.add_assoc]
      refine ⟨32 :: valuesText map 1338 6 ++ [10], ?_⟩
      rw [linesText_succ, hvalues, closedText]
      simp only [List.append_assoc]
  | succ r ih =>
      obtain ⟨more, hmore⟩ := ih
      refine ⟨more ++ (valuesText map (16 * (84 + r)) 16 ++ [10]), ?_⟩
      rw [← Nat.add_assoc, linesText_succ, hmore, List.append_assoc]

/-- What `ptmpbuf` holds after the file is read. -/
def readBuf (file : List UInt8) : List UInt8 :=
  file.take 4096 ++ List.replicate (4096 - min 4096 file.length) 0

/-- A file that is long enough. -/
lemma rtwEfuseFileRead_eq (io : Reader file) (hfile : 90 < file.length) (len : ℕ) (buf : Mem) :
    rtwEfuseFileRead true io len buf =
      (Loop.run (fileReadPass len (min 4096 file.length)) (min 4096 file.length + 1)
        ⟨readBuf file, 0, 0, buf⟩).join.map fun s => (true, s.buf) := by
  have hint : (4096 : BitVec 32).toInt.toNat = 4096 := by decide
  have htake : file.take (min 4096 file.length) = file.take 4096 := by
    rw [← List.take_eq_take_min]
  rw [rtwEfuseFileRead, if_neg (by decide), io.rtwRetrieveFromFile, hint, Option.bind_some,
    if_neg (by omega), htake]
  rfl

lemma rtwEfuseFileRead_of_le (io : Reader file) (hfile : file.length ≤ 90) (len : ℕ) (buf : Mem) :
    rtwEfuseFileRead true io len buf = some (false, buf) := by
  have hint : (4096 : BitVec 32).toInt.toNat = 4096 := by decide
  rw [rtwEfuseFileRead, if_neg (by decide), io.rtwRetrieveFromFile, hint, Option.bind_some,
    if_pos (by omega)]

lemma readBuf_append {front : List UInt8} (h : front.length ≤ 4096) (more : List UInt8) :
    ∃ rest, readBuf (front ++ more) = front ++ rest := by
  rw [readBuf, List.take_append, List.take_of_length_le h, List.append_assoc]
  exact ⟨_, rfl⟩

lemma readBuf_append_of_length {front : List UInt8} (h : front.length = 4096)
    (more : List UInt8) : readBuf (front ++ more) = front := by
  have hlen : min 4096 (front ++ more).length = 4096 := by
    rw [List.length_append]
    omega
  rw [readBuf, hlen, Nat.sub_self, List.replicate_zero, List.append_nil, ← h, List.take_left]

/-- A file that begins with the values is read back. -/
lemma readsBack_of_ended {front more : List UInt8} (hfile : 90 < (front ++ more).length)
    (hfront : front.length ≤ 4096) (h : Spelling.Ended cutFile front (readBytes map 0 m) [])
    (hm : len ≤ m) : ReadsBack map len (front ++ more) := by
  intro io buf
  obtain ⟨rest, hbuf⟩ := readBuf_append hfront more
  have hended := h.append_right rest
  rw [List.nil_append] at hended
  have hconsumed : (front ++ rest).length - rest.length = front.length := by
    rw [List.length_append, Nat.add_sub_cancel]
  have hcount : front.length ≤ min 4096 (front ++ more).length := by
    rw [List.length_append]
    omega
  obtain ⟨t', hrun, hout⟩ := exists_run_of_ended
    (t := ⟨front ++ rest, 0, 0, buf⟩) (k := min 4096 (front ++ more).length + 1) hended
    (List.drop_zero ..) (Nat.zero_le len) (by rw [length_readBytes]; omega)
    (show 0 + _ ≤ min 4096 (front ++ more).length by omega) (by omega)
  have htake : (readBytes map 0 m).take (len - 0) = readBytes map 0 len := by
    rw [Nat.sub_zero]
    exact ((holds_readBytes map 0 m).readBytes_take (by rwa [length_readBytes])).symm
  rw [rtwEfuseFileRead_eq io hfile, hbuf, hrun, Option.join_some, Option.map_some, hout, htake]

/-- A long text is not read back if more than the closed values are wanted. -/
lemma not_readsBack_of_long (map : Mem) (more : List UInt8) (hlen : maxValues < len) :
    ¬ ReadsBack map len (closedText map ++ sprintf02X (map maxValues) ++ more) := by
  intro h
  have hread := h (.whole _) fun _ => 0
  have hfront : (closedText map ++ sprintf02X (map maxValues)).length = 4096 := by
    rw [List.length_append, length_closedText]
    rfl
  have hfile : min 4096 (closedText map ++ sprintf02X (map maxValues) ++ more).length = 4096 := by
    rw [List.length_append, hfront]
    omega
  have hended := (ended_closedText map).append_right (sprintf02X (map maxValues))
  have hconsumed : (closedText map ++ sprintf02X (map maxValues)).length -
      (sprintf02X (map maxValues)).length = 4094 := by
    rw [hfront]
    rfl
  have hrun : Loop.run (fileReadPass len 4096) (4096 + 1)
      ⟨closedText map ++ sprintf02X (map maxValues), 0, 0, fun _ => 0⟩ = some none := by
    refine run_of_ended_of_lt hended (List.drop_zero ..) (fun x hx => ?_) ?_ ?_ ?_
    · have hdigit := isHexDigit_of_mem_sprintf02X hx
      exact ⟨cutFile.sep_of_digit x hdigit, ne_zero_of_isHexDigit hdigit⟩
    · rw [length_readBytes, Nat.zero_add]
      exact hlen
    · exact lt_of_eq_of_lt ((Nat.zero_add _).trans hconsumed) (by decide)
    · exact lt_of_eq_of_lt hconsumed (by decide)
  rw [rtwEfuseFileRead_eq _ (by omega), readBuf_append_of_length hfront, hfile, hrun] at hread
  cases hread

lemma length_overwritten (old text : List UInt8) :
    (overwritten old text).length = max text.length old.length := by
  rw [overwritten, List.length_append, List.length_drop]
  omega

/-- The reader wants more than 90 bytes. -/
lemma not_readsBack_of_le (hfile : file.length ≤ 90) : ¬ ReadsBack map len file := by
  intro h
  have hread := h (.whole file) fun _ => 0
  rw [rtwEfuseFileRead_of_le _ hfile] at hread
  cases hread

/-- When a stored map is read back. -/
lemma readsBack_overwritten (map : Mem) (len : ℕ) (old : List UInt8) :
    ReadsBack map len (overwritten old (linesText map (len / 16 + 1))) ↔
      (16 ≤ len ∨ 90 < old.length) ∧ len ≤ maxValues := by
  have hmax : maxValues = 1337 := rfl
  have hlength := length_overwritten old (linesText map (len / 16 + 1))
  rw [length_linesText] at hlength
  by_cases hfile : (overwritten old (linesText map (len / 16 + 1))).length ≤ 90
  · refine iff_of_false (not_readsBack_of_le hfile) ?_
    rintro ⟨hlen | hold, -⟩
    · omega
    · omega
  have hlong : 16 ≤ len ∨ 90 < old.length := by omega
  rcases Nat.lt_or_ge (len / 16) 83 with hlines | hlines
  · -- the whole text lies in the first 4096 bytes
    refine iff_of_true ?_ ⟨hlong, by omega⟩
    refine readsBack_of_ended (by rw [← overwritten]; omega) ?_ (ended_linesText map _) (by omega)
    rw [length_linesText]
    omega
  · obtain ⟨r, hr⟩ := Nat.exists_eq_add_of_le hlines
    obtain ⟨more, hmore⟩ := linesText_eq map r
    have htext : overwritten old (linesText map (len / 16 + 1)) =
        closedText map ++ (sprintf02X (map maxValues) ++
          (more ++ old.drop (linesText map (len / 16 + 1)).length)) := by
      rw [overwritten, hr, Nat.add_right_comm, hmore]
      simp only [List.append_assoc]
    rcases Nat.lt_or_ge maxValues len with hlt | hle
    · rw [htext, ← List.append_assoc]
      exact iff_of_false (not_readsBack_of_long map _ hlt) fun h => absurd h.2 (Nat.not_le.2 hlt)
    · refine iff_of_true ?_ ⟨hlong, hle⟩
      rw [htext] at hfile ⊢
      exact readsBack_of_ended (by omega) (by rw [length_closedText]; omega)
        (ended_closedText map) hle

/-- No call keeps to the map. -/
lemma not_storesMap_of_lt (io : Writer) (map : Mem) (hlen : len < 2 ^ 16) (old : List UInt8) :
    ¬ StoresMap io map len old := by
  rintro ⟨file, log, hstore, hreads, -⟩
  rw [rtwEfuseFileStore_eq io map hlen old] at hstore
  cases hstore
  exact not_readsInside map len hreads

/-- Every call reads behind the map and writes behind the buffer.  The text is read back all the
same, if the file is longer than 90 bytes and the values are closed in its first 4096. -/
theorem not_storesMap (io : Writer) (map : Mem) (mapLen : UInt16) (old : List UInt8) :
    ¬ StoresMap io map mapLen.toNat old ∧
      ∃ file log, rtwEfuseFileStore true io map mapLen.toNat old = some (true, file, log) ∧
        ¬ ReadsInside mapLen.toNat log ∧ ¬ WritesInside mapLen.toNat log ∧
        (ReadsBack map mapLen.toNat file ↔
          (16 ≤ mapLen.toNat ∨ 90 < old.length) ∧ mapLen.toNat ≤ maxValues) :=
  ⟨not_storesMap_of_lt io map mapLen.toNat_lt old, _, _,
    rtwEfuseFileStore_eq io map mapLen.toNat_lt old, not_readsInside map _, not_writesInside map _,
    readsBack_overwritten map _ old⟩

/-- A blank map of 512 bytes, in a new file. -/
theorem not_storesMap_blank : ¬ StoresMap .whole (fun _ => 0xFF) 512 [] :=
  not_storesMap_of_lt _ _ (by decide) _

end Rtl8723du
