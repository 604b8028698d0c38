import Rtl8723du.Bt.Config
import Rtl8723du.Lib.Strsep

/-!
# The file with extra items

`line_process`, `config_process` and `config_file_proc` of `rtk_misc.c`: a text file is read into a
buffer, and each line that names an item in hexadecimal numbers is put into the list of extra items.
-/

namespace Rtl8723du.BtConfig

open Lib Lib.Bytes

/-! ### The code -/

/-- The value of a hexadecimal digit. -/
def hexDigit (c : UInt8) : Option ℕ :=
  let lc := c ||| 0x20
  if 0x30 ≤ c ∧ c ≤ 0x39 then some (c.toNat - 0x30)
  else if 0x61 ≤ lc ∧ lc ≤ 0x66 then some (lc.toNat - 0x61 + 10)
  else none

/-- The number that the digits at the start give, behind a value. -/
def hexDigits : ℕ → List UInt8 → ℕ
  | v, [] => v
  | v, c :: cs => (hexDigit c).elim v fun d => hexDigits (16 * v + d) cs

/-- `simple_strtoul` with base 16.  The result is not cut to the width of a `long`: only its lower
bits are used. -/
def simpleStrtoul (s : List UInt8) : ℕ :=
  if s.head? = some 0x30 ∧ (s[1]?.map fun c => c ||| 0x20) = some 0x78 then hexDigits 0 (s.drop 2)
  else hexDigits 0 s

/-- The separators of the words of a line. -/
def isWordSep (c : UInt8) : Bool := c = 0x2c || c = 0x20 || c = 0x09

/-- The separators of lines. -/
def isLineSep (c : UInt8) : Bool := c = 0x0a || c = 0x0d

/-- The body of the loop of `line_process`. -/
def argBody (argv : List (List UInt8)) (ptr : List UInt8) : List (List UInt8) × Bool :=
  if ptr = [] then (argv, false)
  else (argv ++ [ptr], decide (32 ≤ (argv ++ [ptr]).length))

/-- `argv` of `line_process`. -/
def lineArgs (line : List UInt8) : List (List UInt8) :=
  (Loop.run (Strsep.pass isWordSep argBody) (line.length + 2) (some line, [])).getD []

/-- The number in a word; a word that is not there is not read. -/
def argNum (argv : List (List UInt8)) (i : ℕ) : ℕ := simpleStrtoul (argv.getD i [])

/-- The offset, from its two bytes. -/
def argOffset (argv : List (List UInt8)) : ℕ := argNum argv 0 ||| argNum argv 1 <<< 8

/-- The bytes behind the length. -/
def argData (argv : List (List UInt8)) : List UInt8 :=
  (argv.drop 3).map fun a => UInt8.ofNat (simpleStrtoul a)

/-- `line_process`: the item that is put into the list; `alloc` says whether it can be allocated. -/
def lineProcess (alloc : Bool) (line : List UInt8) : Option CfgItem :=
  let argv := lineArgs line
  if argv.length < 4 then none
  else
    let l := UInt8.ofNat (argNum argv 2)
    if l ≠ UInt8.ofNat (argv.length - 3) then none
    else if alloc then some (mkItem (argOffset argv) l (argData argv))
    else none

/-- The body of the loop of `config_process`, with the number of the line and the list; `alloc`
says for which lines the allocation succeeds. -/
def configBody (alloc : ℕ → Bool) (s : ℕ × List CfgItem) (ptr : List UInt8) :
    (ℕ × List CfgItem) × Bool :=
  if ptr = [] then ((s.1 + 1, s.2), false)
  else ((s.1 + 1, s.2 ++ (lineProcess (alloc s.1) ptr).toList), false)

/-- `config_process`, for the string in a buffer. -/
def configProcess (alloc : ℕ → Bool) (buff : List UInt8) : List CfgItem :=
  let text := buff.takeWhile fun c => c ≠ 0
  ((Loop.run (Strsep.pass isLineSep (configBody alloc)) (text.length + 2)
    (some text, (0, []))).getD (0, [])).2

/-- A file that is open. -/
structure CfgFile where
  /-- `S_ISREG`. -/
  regular : Bool
  content : List UInt8

/-- `i_size_read`, as an `int`. -/
def fileSize (bs : List UInt8) : ℤ := Int.bmod bs.length 4294967296

/-- The part of `config_file_proc` that reads a file of some size. -/
def configFileRead (alloc : ℕ → Bool) (content : List UInt8) (size : ℤ) :
    Option (List CfgItem) :=
  if size ≤ 0 then some []
  else do
    -- `kernel_read`
    let read := content.take size.toNat
    let rc := read.length
    let tbuf ← store (List.replicate 256 0) 0 read
    if (rc : ℤ) ≠ size then some []
    else
      let tbuf ← store tbuf rc [0x0a]
      let tbuf ← store tbuf (rc + 1) [0]
      some (configProcess alloc tbuf)

/-- `config_file_proc`, for the file that is found: the items that are put into the list; nothing if
it writes outside of its buffer. -/
def configFileProc (alloc : ℕ → Bool) (file : Option CfgFile) : Option (List CfgItem) :=
  file.elim (some []) fun file =>
    if file.regular then configFileRead alloc file.content (fileSize file.content) else some []

/-! ### What it is for -/

/-- The lines of a text. -/
def lines (bs : List UInt8) : List (List UInt8) := bs.splitOnP isLineSep

/-- The words of a line. -/
def words (line : List UInt8) : List (List UInt8) :=
  (line.splitOnP isWordSep).filter fun w => w ≠ []

/-- The line names an item: an offset, a length, and as many bytes as that. -/
def Named (line : List UInt8) : Prop :=
  4 ≤ (words line).length ∧ argNum (words line) 2 = (words line).length - 3

instance (line : List UInt8) : Decidable (Named line) := inferInstanceAs (Decidable (_ ∧ _))

/-- An item as it is named, of any length. -/
def namedItem (line : List UInt8) : Option (UInt16 × List UInt8) :=
  if Named line then some (UInt16.ofNat (argOffset (words line)), argData (words line)) else none

/-- The offset and the data. -/
def CfgItem.raw (n : CfgItem) : UInt16 × List UInt8 := (n.offset, n.data)

/-- The items of lines for which the allocation succeeds, from the number of the first line on. -/
def itemsFrom {β : Type} (item : List UInt8 → Option β) (alloc : ℕ → Bool) :
    ℕ → List (List UInt8) → List β
  | _, [] => []
  | i, l :: ls => (if alloc i then (item l).toList else []) ++ itemsFrom item alloc (i + 1) ls

/-- The function writes inside of its buffer, and puts the items of the lines that name one into the
list, in their order. -/
def ProcOk (bs : List UInt8) : Prop :=
  ∀ alloc, ∃ items, configFileProc alloc (some ⟨true, bs⟩) = some items ∧
    items.map CfgItem.raw = itemsFrom namedItem alloc 0 (lines bs)

/-- What `config_process` sees of a file: not more than its size as an `int` says, up to a zero. -/
def seen (bs : List UInt8) : List UInt8 := (bs.take (fileSize bs).toNat).takeWhile fun c => c ≠ 0

/-- The rest. -/
def unseen (bs : List UInt8) : List UInt8 := bs.drop (seen bs).length

/-- A line for which neither the 32 words nor the byte of the length make a difference. -/
def Fits (line : List UInt8) : Prop :=
  4 ≤ (words line).length →
    if (words line).length ≤ 32 then
      argNum (words line) 2 < 256 ∨ argNum (words line) 2 % 256 ≠ (words line).length - 3
    else argNum (words line) 2 % 256 ≠ 29 ∧ argNum (words line) 2 ≠ (words line).length - 3

/-- The line `g` of which only the start is seen, when `r` is not. -/
def CutFits (g r : List UInt8) : Prop :=
  if r = [] then Fits g else (lineProcess true g).map CfgItem.raw = namedItem (g ++ r)

/-! ### Lines -/

variable {line g r : List UInt8} {ls rs : List (List UInt8)} {alloc : ℕ → Bool} {bs : List UInt8}

/-- Words are collected up to 32. -/
lemma foldUntil_argBody (argv pieces : List (List UInt8)) (h : argv.length < 32) :
    Strsep.foldUntil argBody argv pieces =
      (argv ++ pieces.filter fun w => w ≠ []).take 32 := by
  induction pieces generalizing argv with
  | nil =>
      rw [List.filter_nil, List.append_nil, List.take_of_length_le (Nat.le_of_lt h)]
      rfl
  | cons w pieces ih =>
      rw [Strsep.foldUntil, argBody]
      by_cases hw : w = []
      · subst hw
        exact ih argv h
      · have hfilter : (w :: pieces).filter (fun w => w ≠ []) =
            w :: pieces.filter fun w => w ≠ [] := List.filter_cons_of_pos (decide_eq_true hw)
        have hlen : (argv ++ [w]).length = argv.length + 1 := List.length_append
        have happend (ws : List (List UInt8)) : argv ++ w :: ws = argv ++ [w] ++ ws := by
          rw [List.append_assoc]
          rfl
        rw [if_neg hw, hfilter, happend (pieces.filter fun w => w ≠ [])]
        by_cases hfull : 32 ≤ (argv ++ [w]).length
        · have htake : (argv ++ [w]).length = 32 := by omega
          simp only [decide_eq_true hfull, if_true]
          rw [← htake, List.take_left]
        · simp only [decide_eq_false hfull, Bool.false_eq_true, if_false]
          exact ih _ (Nat.not_le.1 hfull)

lemma lineArgs_eq (line : List UInt8) : lineArgs line = (words line).take 32 := by
  rw [lineArgs, Strsep.run_pass _ (Nat.le_refl _)]
  exact foldUntil_argBody [] _ (by decide)

/-- Two words that are both looked at. -/
lemma argNum_take {argv : List (List UInt8)} {i k : ℕ} (h : i < k) :
    argNum (argv.take k) i = argNum argv i := by
  rw [argNum, argNum, List.getD_eq_getElem?_getD, List.getD_eq_getElem?_getD,
    List.getElem?_take_of_lt h]

lemma length_argData (argv : List (List UInt8)) : (argData argv).length = argv.length - 3 := by
  rw [argData, List.length_map, List.length_drop]

/-- What is done with a line, said with all of its words. -/
lemma lineProcess_eq (a : Bool) (line : List UInt8) : (lineProcess a line).map CfgItem.raw =
    if a = true ∧ 4 ≤ (words line).length ∧
        argNum (words line) 2 % 256 = min 32 (words line).length - 3 then
      some (UInt16.ofNat (argOffset (words line)), argData ((words line).take 32))
    else none := by
  have hlen : (lineArgs line).length = min 32 (words line).length := by
    rw [lineArgs_eq, List.length_take]
  have htwo : argNum (lineArgs line) 2 = argNum (words line) 2 := by
    rw [lineArgs_eq, argNum_take (by decide)]
  have hoffset : argOffset (lineArgs line) = argOffset (words line) := by
    rw [argOffset, argOffset, lineArgs_eq, argNum_take (by decide), argNum_take (by decide)]
  simp only [lineProcess, hlen, htwo, hoffset]
  by_cases hfew : (words line).length < 4
  · rw [if_pos (by omega), if_neg fun h => Nat.not_lt.2 h.2.1 hfew]
    rfl
  · have hmin : min 32 (words line).length - 3 < 256 := by omega
    have hiff : UInt8.ofNat (argNum (words line) 2) =
        UInt8.ofNat (min 32 (words line).length - 3) ↔
          argNum (words line) 2 % 256 = min 32 (words line).length - 3 := by
      rw [← UInt8.toNat_inj, UInt8.toNat_ofNat', UInt8.toNat_ofNat', Nat.mod_eq_of_lt hmin]
    rw [if_neg (by omega)]
    by_cases hl : argNum (words line) 2 % 256 = min 32 (words line).length - 3
    · rw [if_neg (not_not.2 (hiff.2 hl))]
      cases a with
      | false =>
          rw [if_neg (by decide), if_neg fun h => by cases h.1]
          rfl
      | true =>
          rw [if_pos rfl, if_pos ⟨rfl, Nat.not_lt.1 hfew, hl⟩, Option.map_some, CfgItem.raw]
          have hdata : (UInt8.ofNat (argNum (words line) 2)).toNat =
              (argData (lineArgs line)).length := by
            rw [UInt8.toNat_ofNat', hl, length_argData, hlen]
          have htake : (mkItem (argOffset (words line)) (UInt8.ofNat (argNum (words line) 2))
              (argData (lineArgs line))).data = argData (lineArgs line) :=
            (congrArg (fun k => (argData (lineArgs line)).take k) hdata).trans List.take_length
          rw [htake, lineArgs_eq]
          rfl
    · rw [if_pos (hl ∘ hiff.1), if_neg fun h => hl h.2.2]
      rfl

lemma lineProcess_false (line : List UInt8) : lineProcess false line = none := by
  have heq := lineProcess_eq false line
  rw [if_neg fun h => by cases h.1] at heq
  exact Option.map_eq_none_iff.1 heq

lemma lineProcess_nil (a : Bool) : lineProcess a [] = none := by
  have heq := lineProcess_eq a []
  have hwords : words [] = [] := rfl
  rw [hwords, if_neg fun h => absurd h.2.1 (by decide)] at heq
  exact Option.map_eq_none_iff.1 heq

/-- A line that fits is one whose item is the one that it names. -/
lemma lineProcess_eq_iff (line : List UInt8) :
    (lineProcess true line).map CfgItem.raw = namedItem line ↔ Fits line := by
  rw [lineProcess_eq, namedItem, Fits]
  by_cases hfew : 4 ≤ (words line).length
  · rw [forall_prop_of_true hfew]
    simp only [Named, true_and, hfew]
    by_cases hmany : (words line).length ≤ 32
    · have hmin : min 32 (words line).length = (words line).length := Nat.min_eq_right hmany
      rw [if_pos hmany, hmin, List.take_of_length_le hmany]
      split
      · next htaken =>
          split
          · next hnamed =>
              exact iff_of_true rfl (by omega)
          · next hnamed =>
              exact iff_of_false (Option.some_ne_none _) (by omega)
      · next htaken =>
          split
          · next hnamed => omega
          · exact iff_of_true rfl (by omega)
    · have hmin : min 32 (words line).length = 32 := Nat.min_eq_left (by omega)
      rw [if_neg hmany, hmin]
      split
      · next htaken =>
          refine iff_of_false (fun heq => ?_) fun h => h.1 htaken
          split at heq
          · have hdata := congrArg (fun x => (x.2 : List UInt8).length) (Option.some.inj heq)
            simp only [length_argData, List.length_take] at hdata
            omega
          · cases heq
      · next htaken =>
          split
          · next hnamed =>
              exact iff_of_false (Option.some_ne_none _).symm fun h => h.2 hnamed
          · next hnamed => exact iff_of_true rfl ⟨htaken, hnamed⟩
  · rw [if_neg fun h => hfew h.2.1, if_neg fun h : Named line => hfew h.1]
    exact iff_of_true rfl fun h => absurd h hfew

/-! ### All lines -/

/-- Only the lines from the number on matter. -/
lemma itemsFrom_congr {β : Type} {item : List UInt8 → Option β} {alloc' : ℕ → Bool} {i : ℕ}
    (h : ∀ j, i ≤ j → alloc j = alloc' j) (ls : List (List UInt8)) :
    itemsFrom item alloc i ls = itemsFrom item alloc' i ls := by
  induction ls generalizing i with
  | nil => rfl
  | cons l ls ih =>
      rw [itemsFrom, itemsFrom, h i (Nat.le_refl i), ih fun j hj => h j (by omega)]

lemma itemsFrom_of_none {β : Type} {item : List UInt8 → Option β} {i : ℕ}
    (h : ∀ l ∈ ls, item l = none) : itemsFrom item alloc i ls = [] := by
  induction ls generalizing i with
  | nil => rfl
  | cons l ls ih =>
      rw [itemsFrom, h l List.mem_cons_self, ih fun x hx => h x (List.mem_cons_of_mem l hx)]
      split <;> rfl

/-- A line without an item at the end. -/
lemma itemsFrom_append_singleton {β : Type} {item : List UInt8 → Option β} {l : List UInt8}
    (h : item l = none) (i : ℕ) (ls : List (List UInt8)) :
    itemsFrom item alloc i (ls ++ [l]) = itemsFrom item alloc i ls := by
  induction ls generalizing i with
  | nil => exact itemsFrom_of_none fun x hx => List.mem_singleton.1 hx ▸ h
  | cons x ls ih => rw [List.cons_append, itemsFrom, itemsFrom, ih]

/-- Whatever can be allocated the items are the same just when each line has the same item. -/
lemma itemsFrom_cons_iff {β : Type} {item item' : List UInt8 → Option β} {i : ℕ}
    {l l' : List UInt8} {ls' : List (List UInt8)} :
    (∀ alloc, itemsFrom item alloc i (l :: ls) = itemsFrom item' alloc i (l' :: ls')) ↔
      item l = item' l' ∧
        ∀ alloc, itemsFrom item alloc (i + 1) ls = itemsFrom item' alloc (i + 1) ls' := by
  constructor
  · intro h
    have htail : ∀ alloc,
        itemsFrom item alloc (i + 1) ls = itemsFrom item' alloc (i + 1) ls' := by
      intro alloc
      have heq := h fun j => decide (j ≠ i) && alloc j
      have hagree : ∀ j, i + 1 ≤ j → (decide (j ≠ i) && alloc j) = alloc j := fun j hj => by
        rw [decide_eq_true (by omega), Bool.true_and]
      have hi : (decide (i ≠ i) && alloc i) = false := by
        rw [decide_eq_false fun hne => hne rfl, Bool.false_and]
      rw [itemsFrom, itemsFrom, hi, itemsFrom_congr hagree, itemsFrom_congr hagree] at heq
      exact heq
    refine ⟨?_, htail⟩
    have heq := h fun _ => true
    rw [itemsFrom, itemsFrom, htail fun _ => true, if_pos rfl, if_pos rfl] at heq
    have hhead := congrArg List.head? (List.append_cancel_right heq)
    rwa [Option.head?_toList, Option.head?_toList] at hhead
  · rintro ⟨hitem, htail⟩ alloc
    rw [itemsFrom, itemsFrom, hitem, htail]

/-- Of the last line only the start is seen, and nothing of those behind it. -/
lemma itemsFrom_eq_iff {β : Type} {item item' : List UInt8 → Option β} {i : ℕ}
    (ls : List (List UInt8)) :
    (∀ alloc, itemsFrom item alloc i (ls ++ [g]) =
        itemsFrom item' alloc i (ls ++ (g ++ r) :: rs)) ↔
      (∀ l ∈ ls, item l = item' l) ∧ item g = item' (g ++ r) ∧ ∀ l ∈ rs, item' l = none := by
  induction ls generalizing i with
  | nil =>
      rw [List.nil_append, List.nil_append, itemsFrom_cons_iff]
      refine (and_congr_right fun _ => ?_).trans (and_iff_right nofun).symm
      constructor
      · intro h
        clear * - h
        induction rs generalizing i with
        | nil => nofun
        | cons l rs ih =>
            have hl : item' l = none := by
              have heq := h fun _ => true
              rw [itemsFrom, itemsFrom, if_pos rfl] at heq
              have hnil := (List.append_eq_nil_iff.1 heq.symm).1
              rcases hitem : item' l with _ | x
              · rfl
              · rw [hitem] at hnil
                cases hnil
            refine List.forall_mem_cons.2 ⟨hl, ih (i := i + 1) fun alloc => ?_⟩
            have heq := h alloc
            rw [itemsFrom, itemsFrom, hl] at heq
            rw [itemsFrom, heq]
            split <;> rfl
      · intro h alloc
        rw [itemsFrom_of_none h]
        rfl
  | cons l ls ih =>
      rw [List.cons_append, List.cons_append, itemsFrom_cons_iff, ih, List.forall_mem_cons,
        and_assoc]

/-- The loop over the lines. -/
lemma foldUntil_configBody (i : ℕ) (items : List CfgItem) (ls : List (List UInt8)) :
    (Strsep.foldUntil (configBody alloc) (i, items) ls).2 =
      items ++ itemsFrom (lineProcess true) alloc i ls := by
  induction ls generalizing i items with
  | nil => exact (List.append_nil _).symm
  | cons l ls ih =>
      have hbody : configBody alloc (i, items) l =
          ((i + 1, items ++ (lineProcess (alloc i) l).toList), false) := by
        rw [configBody]
        split
        · next hl =>
            rw [hl, lineProcess_nil, Option.toList_none, List.append_nil]
        · rfl
      have halloc : (lineProcess (alloc i) l).toList =
          if alloc i then (lineProcess true l).toList else [] := by
        rcases alloc i
        · rw [lineProcess_false]
          rfl
        · rfl
      rw [Strsep.foldUntil, hbody]
      simp only [Bool.false_eq_true, if_false]
      rw [ih, halloc, itemsFrom, List.append_assoc]

lemma map_itemsFrom {β γ : Type} (f : β → γ) (item : List UInt8 → Option β) (i : ℕ)
    (ls : List (List UInt8)) : (itemsFrom item alloc i ls).map f =
      itemsFrom (fun l => (item l).map f) alloc i ls := by
  induction ls generalizing i with
  | nil => rfl
  | cons l ls ih =>
      rw [itemsFrom, itemsFrom, List.map_append, ih]
      split
      · rcases item l <;> rfl
      · rfl

/-- `config_process` for a buffer with a text, the end of a line and a zero. -/
lemma configProcess_eq (bs rest : List UInt8) :
    configProcess alloc (bs ++ 0x0a :: 0 :: rest) =
      itemsFrom (lineProcess true) alloc 0 (lines (bs.takeWhile fun c => c ≠ 0)) := by
  rw [configProcess, Strsep.run_pass _ (Nat.le_refl _)]
  show (Strsep.foldUntil (configBody alloc) (0, []) _).2 = _
  rw [foldUntil_configBody, List.nil_append, List.takeWhile_append]
  split
  · next hall =>
      have hself : bs.takeWhile (fun c => c ≠ 0) = bs :=
        (List.takeWhile_prefix _).eq_of_length hall
      have hend : (0x0a :: 0 :: rest).takeWhile (fun c => decide (c ≠ 0)) = [0x0a] := rfl
      have hlines : (bs ++ [0x0a]).splitOnP isLineSep = lines bs ++ [[]] :=
        List.splitOnP_append_cons bs [] rfl
      rw [hself, hend, hlines, itemsFrom_append_singleton (lineProcess_nil true)]
  · rfl

/-! ### The file -/

lemma bmod_natCast_le (n m : ℕ) : Int.bmod n m ≤ n := by
  have hmod : (n : ℤ) % m ≤ n := by
    rw [← Int.natCast_mod]
    exact Int.ofNat_le.2 (Nat.mod_le ..)
  rw [Int.bmod_def]
  split
  · exact hmod
  · exact (Int.sub_le_self _ (Int.natCast_nonneg m)).trans hmod

lemma bmod_natCast {n m : ℕ} (h : 2 * n < m) : Int.bmod n m = n := by
  rw [Int.bmod_def, Int.emod_eq_of_lt (Int.natCast_nonneg n) (by omega), if_pos (by omega)]

/-- A file is at least as long as its size as an `int` says. -/
lemma fileSize_le (bs : List UInt8) : fileSize bs ≤ bs.length := bmod_natCast_le ..

/-- Bytes that are stored behind others. -/
lemma store_append (pre buf src : List UInt8) : store (pre ++ buf) pre.length src =
    if src.length ≤ buf.length then some (pre ++ src ++ buf.drop src.length) else none := by
  rw [store, List.length_append, writeAt_append, ← List.append_assoc]
  simp only [Nat.add_le_add_iff_left]

/-- A file of some size is read, with two more bytes behind it. -/
lemma configFileRead_eq (alloc : ℕ → Bool) (bs : List UInt8) {size : ℤ}
    (hle : size ≤ bs.length) : configFileRead alloc bs size =
      if size ≤ 254 then
        some (itemsFrom (lineProcess true) alloc 0
          (lines ((bs.take size.toNat).takeWhile fun c => c ≠ 0)))
      else none := by
  rw [configFileRead]
  by_cases hsize : size ≤ 0
  · have hitems : itemsFrom (lineProcess true) alloc 0 (lines []) = [] :=
      itemsFrom_of_none fun l hl => List.mem_singleton.1 hl ▸ lineProcess_nil true
    rw [if_pos hsize, if_pos (by omega), Int.toNat_of_nonpos hsize, List.take_zero,
      List.takeWhile_nil, hitems]
  · have hlen : ((bs.take size.toNat).length : ℤ) = size := by
      rw [List.length_take]
      omega
    rw [if_neg hsize]
    generalize bs.take size.toNat = read at hlen ⊢
    generalize hbuf : List.replicate 256 (0 : UInt8) = buf
    have h256 : buf.length = 256 := by rw [← hbuf, List.length_replicate]
    have hfirst : store buf 0 read =
        if read.length ≤ buf.length then some (read ++ buf.drop read.length) else none :=
      store_append [] buf read
    show ((store buf 0 read).bind fun tbuf => if (read.length : ℤ) ≠ size then some []
      else (store tbuf read.length [0x0a]).bind fun tbuf =>
        (store tbuf (read.length + 1) [0]).bind fun tbuf => some (configProcess alloc tbuf)) = _
    rw [hfirst]
    by_cases hfits : read.length ≤ 256
    · rw [if_pos (by omega), Option.bind_some, if_neg (not_not.2 hlen), store_append]
      by_cases hroom : read.length ≤ 255
      · have hone : (read ++ [0x0a]).length = read.length + 1 := List.length_append
        rw [if_pos (by rw [List.length_singleton, List.length_drop]; omega), Option.bind_some,
          ← hone, store_append]
        by_cases hlast : size ≤ 254
        · rw [if_pos hlast, if_pos (by simp only [List.length_singleton, List.length_drop]; omega),
            Option.bind_some, List.append_assoc, List.append_assoc]
          exact congrArg some (configProcess_eq ..)
        · rw [if_neg hlast, if_neg (by simp only [List.length_singleton, List.length_drop]; omega)]
          rfl
      · rw [if_neg (by rw [List.length_singleton, List.length_drop]; omega), if_neg (by omega)]
        rfl
    · rw [if_neg (by omega), if_neg (by omega)]
      rfl

/-- What is in the list after the function: the items of the lines that are seen. -/
lemma configFileProc_eq (alloc : ℕ → Bool) (bs : List UInt8) :
    configFileProc alloc (some ⟨true, bs⟩) =
      if fileSize bs ≤ 254 then some (itemsFrom (lineProcess true) alloc 0 (lines (seen bs)))
      else none := by
  rw [seen, ← configFileRead_eq alloc bs (fileSize_le bs), configFileProc, Option.elim_some]
  exact if_pos rfl

lemma procOk_iff : ProcOk bs ↔ fileSize bs ≤ 254 ∧ ∀ alloc,
    itemsFrom (fun l => (lineProcess true l).map CfgItem.raw) alloc 0 (lines (seen bs)) =
      itemsFrom namedItem alloc 0 (lines bs) := by
  constructor
  · intro hok
    have hsize : fileSize bs ≤ 254 := by
      obtain ⟨items, hproc, -⟩ := hok fun _ => true
      rw [configFileProc_eq] at hproc
      by_contra hsize
      rw [if_neg hsize] at hproc
      cases hproc
    refine ⟨hsize, fun alloc => ?_⟩
    obtain ⟨items, hproc, hitems⟩ := hok alloc
    rw [configFileProc_eq, if_pos hsize] at hproc
    rw [← map_itemsFrom, Option.some.inj hproc, hitems]
  · rintro ⟨hsize, hall⟩ alloc
    refine ⟨_, (configFileProc_eq alloc bs).trans (if_pos hsize), ?_⟩
    rw [map_itemsFrom, hall]

/-- `config_file_proc` is right just when the size fits with the two bytes that it puts behind the
file, each line that is seen fits, and no line that is not seen names an item. -/
theorem configFileProc_iff (bs : List UInt8) : ProcOk bs ↔ fileSize bs ≤ 254 ∧
    (∀ l ∈ (lines (seen bs)).dropLast, Fits l) ∧
    CutFits ((lines (seen bs)).getLastD []) ((lines (unseen bs)).headD []) ∧
    ∀ l ∈ (lines (unseen bs)).tail, ¬ Named l := by
  obtain ⟨r, rs, hunseen, ls, g, hseen, hall⟩ :=
    Strsep.splitOnP_append isLineSep (seen bs) (unseen bs)
  have hbs : seen bs ++ unseen bs = bs := by
    have hprefix : seen bs <+: bs := (List.takeWhile_prefix _).trans (List.take_prefix ..)
    exact List.prefix_iff_eq_append.1 hprefix
  rw [hbs] at hall
  rw [procOk_iff, lines, lines, lines, hseen, hunseen, hall, itemsFrom_eq_iff,
    List.dropLast_concat, List.getLastD_concat]
  refine and_congr_right fun _ => and_congr (forall₂_congr fun l _ => lineProcess_eq_iff l)
    (and_congr ?_ (forall₂_congr fun l _ => ?_))
  · show _ ↔ CutFits g r
    rw [CutFits]
    split
    · next hr =>
        rw [hr, List.append_nil, lineProcess_eq_iff]
    · exact Iff.rfl
  · rw [namedItem]
    split
    · next hnamed => exact iff_of_false (Option.some_ne_none _) (not_not.2 hnamed)
    · next hnamed => exact iff_of_true rfl hnamed

/-- The size of a file that is not too long. -/
lemma fileSize_of_lt (h : bs.length < 2147483648) : fileSize bs = bs.length :=
  bmod_natCast (by omega)

/-- A short file without a zero is seen whole. -/
theorem procOk_text_iff (hlen : bs.length ≤ 254) (hzero : (0 : UInt8) ∉ bs) :
    ProcOk bs ↔ ∀ l ∈ lines bs, Fits l := by
  have hsize : fileSize bs = bs.length := fileSize_of_lt (by omega)
  have hseen : seen bs = bs := by
    rw [seen, hsize, Int.toNat_natCast, List.take_length, List.takeWhile_eq_self_iff]
    rintro c hc
    refine decide_eq_true ?_
    rintro rfl
    exact hzero hc
  obtain ⟨ls, g, hlines⟩ : ∃ ls g, lines bs = ls ++ [g] := by
    rcases List.eq_nil_or_concat (lines bs) with hnil | ⟨ls, g, hlines⟩
    · exact absurd hnil (List.splitOnP_ne_nil _ _)
    · exact ⟨ls, g, by rw [hlines, List.concat_eq_append]⟩
  have hiff : (∀ alloc, itemsFrom (fun l => (lineProcess true l).map CfgItem.raw) alloc 0
      (ls ++ [g]) = itemsFrom namedItem alloc 0 (ls ++ (g ++ []) :: [])) ↔ _ := itemsFrom_eq_iff ls
  rw [List.append_nil] at hiff
  rw [procOk_iff, hseen, hlines, hiff, hsize, List.forall_mem_append, List.forall_mem_singleton]
  have hle : (bs.length : ℤ) ≤ 254 := by omega
  rw [and_iff_right hle]
  refine and_congr (forall₂_congr fun l _ => lineProcess_eq_iff l) ?_
  rw [and_iff_left (fun l hl => absurd hl List.not_mem_nil), lineProcess_eq_iff]

/-- A file that fills the buffer, and one whose item has one byte but the length `0x101`. -/
theorem configFileProc_wrong : ¬ ProcOk (List.replicate 255 0x20) ∧
    ¬ ProcOk [0x30, 0x20, 0x30, 0x20, 0x31, 0x30, 0x31, 0x20, 0x31] := by
  constructor
  · intro hok
    have hlen : (List.replicate 255 (0x20 : UInt8)).length = 255 := List.length_replicate
    have hsize := (procOk_iff.1 hok).1
    rw [fileSize_of_lt (by omega), hlen] at hsize
    omega
  · intro hok
    have hfits := (procOk_text_iff (by decide) (by decide)).1 hok
      [0x30, 0x20, 0x30, 0x20, 0x31, 0x30, 0x31, 0x20, 0x31] (by decide) (by decide)
    revert hfits
    decide

end Rtl8723du.BtConfig
