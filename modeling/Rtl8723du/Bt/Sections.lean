import Mathlib.Data.List.Iterate
import Mathlib.Data.List.Sort
import Rtl8723du.Lib.Bytes
import Rtl8723du.Lib.Loop

/-!
# The sections of a firmware image

An image in the new style is a sequence of sections.  `rtb_get_patch_header` of `BT/rtk_misc.c`
walks over them, and `insert_patch` over the entries of a section; the entries for the version of
the ROM come into a list by priority.  Behind security headers for other keys a second loop takes
the dummy headers, with the same counter and from the same place on.

A read outside the image is `none` here.  The memory for a node is taken to be there.
-/

namespace Rtl8723du.Bt

open Lib Lib.Bytes

/-- A field of `k` bytes inside the image. -/
def field (img : List UInt8) (off : ℤ) (k : ℕ) : Option ℕ :=
  if 0 ≤ off ∧ off + k ≤ img.length then some (leAt img off.toNat k) else none

/-! ### The entries -/

/-- `PATCH_SNIPPETS`. -/
def patchSnippets : ℕ := 1

/-- `PATCH_DUMMY_HEADER`. -/
def patchDummyHeader : ℕ := 2

/-- `PATCH_SECURITY_HEADER`. -/
def patchSecurityHeader : ℕ := 3

/-- `PATCH_OTA_FLAG`. -/
def patchOtaFlag : ℕ := 4

/-- `patch_node`; `payload` is an offset into the image. -/
structure PatchNode where
  pri : ℕ
  len : ℕ
  payload : ℕ

/-- `insert_queue_sort`: in front of the first node whose priority is not smaller. -/
def insertQueueSort (node : PatchNode) (head : List PatchNode) : List PatchNode :=
  head.orderedInsert (fun node tmp => node.pri ≤ tmp.pri) node

/-- What the driver knows of the chip. -/
structure Rom where
  gEVersion : ℕ
  gKeyId : ℕ

/-- `patch_node_hdr`, with `patch_len` and `sec_flag`. -/
structure PatchList where
  nodes : List PatchNode
  patchLen : BitVec 32
  secFlag : Bool

/-- The loop of `insert_patch`. -/
def insertEntries (img : List UInt8) (rom : Rom) (opcode : ℕ) :
    ℕ → ℕ → PatchList → Option PatchList
  | 0, _, list => some list
  | k + 1, pos, list => do
      let eco ← field img pos 1
      let sectionLen ← field img (pos + 4) 4
      let next := pos + (8 + sectionLen) % 2 ^ 32
      if eco = rom.gEVersion + 1 then
        let pri ← field img (pos + 1) 1
        let patchLen := list.patchLen + BitVec.ofNat 32 sectionLen
        insertEntries img rom opcode k next
          (if opcode ≠ patchSecurityHeader ∨ rom.gKeyId = pri ∧ 0 < rom.gKeyId then
            ⟨insertQueueSort ⟨pri, sectionLen, pos + 8⟩ list.nodes, patchLen,
              list.secFlag || opcode == patchSecurityHeader⟩
          else { list with patchLen })
      else insertEntries img rom opcode k next list

/-- `insert_patch`. -/
def insertPatch (img : List UInt8) (rom : Rom) (opcode sectionPos : ℕ) (list : PatchList) :
    Option PatchList := do
  let numbers ← field img (sectionPos + 8) 2
  insertEntries img rom opcode numbers (sectionPos + 12) list

/-! ### The sections -/

/-- The list of nodes, and `*len` if it is set. -/
structure PatchHeader where
  nodes : List PatchNode
  len : Option (BitVec 32)

/-- The variables of `rtb_get_patch_header`. -/
structure SectionState where
  i : ℕ
  pos : ℕ
  list : PatchList
  /-- `section_hdr.section_len`. -/
  sectionLen : ℕ
  /-- In the loop over the dummy headers. -/
  inner : Bool

/-- The end of a pass, behind a section of length `len`. -/
def SectionState.pass (s : SectionState) (len : ℕ) (list : PatchList) : SectionState :=
  { s with
    i := (s.i + 1) % 2 ^ 16
    pos := s.pos + (8 + len) % 2 ^ 32
    list
    sectionLen := len }

/-- The `switch` over the opcode of a section. -/
def switchOpcode (img : List UInt8) (rom : Rom) (s : SectionState) (opcode len : ℕ) :
    Option (PatchHeader ⊕ SectionState) :=
  if opcode = patchSnippets then do
    return .inr (s.pass len (← insertPatch img rom opcode s.pos s.list))
  else if opcode = patchSecurityHeader then
    if rom.gKeyId = 0 then some (.inr (s.pass len s.list))
    else do
      let list ← insertPatch img rom opcode s.pos { s.list with secFlag := false }
      if list.secFlag then return .inr (s.pass len list)
      else return .inr { s with i := 0, list, sectionLen := len, inner := true }
  else if opcode = patchDummyHeader then
    if rom.gKeyId ≠ 0 then some (.inr (s.pass len s.list))
    else do
      return .inr (s.pass len (← insertPatch img rom opcode s.pos s.list))
  else if opcode = patchOtaFlag then do
    let eco ← field img (s.pos + 5) 1
    if eco = rom.gEVersion + 1 then
      let _enable ← field img (s.pos + 8) 4
      -- `j` has sixteen bits and never comes to a larger number of flags.
      return .inr (if 2 ^ 16 ≤ len then s else s.pass len s.list)
    else return .inr (s.pass len s.list)
  else some (.inl ⟨s.list.nodes, none⟩)

/-- A pass of the loop over the sections, or of the loop over the dummy headers. -/
def sectionsStep (img : List UInt8) (rom : Rom) (n : ℕ) (s : SectionState) :
    Option (PatchHeader ⊕ SectionState) :=
  if n ≤ s.i then
    -- Behind the inner loop the outer one goes on with the header read last.
    if s.inner then some (.inr { s.pass s.sectionLen s.list with inner := false })
    else some (.inl ⟨s.list.nodes, some s.list.patchLen⟩)
  else do
    let opcode ← field img s.pos 4
    let len ← field img (s.pos + 4) 4
    if s.inner then
      if opcode = patchDummyHeader then
        return .inr (s.pass len (← insertPatch img rom opcode s.pos s.list))
      else return .inr (s.pass len s.list)
    else switchOpcode img rom s opcode len

/-- The body of the loops; the result is `none` for a read outside the image. -/
def sectionsPass (img : List UInt8) (rom : Rom) (n : ℕ) (s : SectionState) :
    Option PatchHeader ⊕ SectionState :=
  match sectionsStep img rom n s with
  | none => .inl none
  | some (.inl hdr) => .inl (some hdr)
  | some (.inr s') => .inr s'

/-- `rtb_get_patch_header`; there is a result if the loops end within `fuel` passes. -/
def rtbGetPatchHeader (fuel : ℕ) (img : List UInt8) (rom : Rom) : Option (Option PatchHeader) :=
  match field img 16 4 with
  | none => some none
  | some numberOfSection =>
      Loop.run (sectionsPass img rom numberOfSection) fuel ⟨0, 20, ⟨[], 0, false⟩, 0, false⟩

/-! ### What the image holds -/

/-- An entry of a section: the opcode of the section, and where the entry is. -/
structure PatchEntry where
  opcode : ℕ
  pos : ℕ

namespace PatchEntry

variable (rom : Rom) (img : List UInt8) (e : PatchEntry)

/-- The length of the payload. -/
def len : ℕ := leAt img (e.pos + 4) 4

/-- It is for the version of the ROM. -/
def ForRom : Prop := leAt img e.pos 1 = rom.gEVersion + 1

/-- It is for the version of the ROM, and a security header is for the key. -/
def Taken : Prop :=
  e.ForRom rom img ∧ (e.opcode ≠ patchSecurityHeader ∨
    rom.gKeyId = leAt img (e.pos + 1) 1 ∧ 0 < rom.gKeyId)

instance : Decidable (e.ForRom rom img) := inferInstanceAs (Decidable (_ = _))

instance : Decidable (e.Taken rom img) := inferInstanceAs (Decidable (_ ∧ _))

/-- The node for it. -/
def node : PatchNode := ⟨leAt img (e.pos + 1) 1, e.len img, e.pos + 8⟩

end PatchEntry

/-- The place behind a section or an entry, which begin with eight bytes. -/
def behind (img : List UInt8) (p : ℕ) : ℕ := p + (8 + leAt img (p + 4) 4) % 2 ^ 32

/-- The places of `n` sections or entries one behind the other. -/
def places (img : List UInt8) (p n : ℕ) : List ℕ := List.iterate (behind img) p n

/-- The entries of a section. -/
def entries (img : List UInt8) (opcode p : ℕ) : List PatchEntry :=
  (places img (p + 12) (leAt img (p + 8) 2)).map (PatchEntry.mk opcode)

/-- The number of entries and each of them lie inside the image, up to the payloads. -/
def EntriesFit (img : List UInt8) (p : ℕ) : Prop :=
  p + 10 ≤ img.length ∧ ∀ q ∈ places img (p + 12) (leAt img (p + 8) 2), q + 8 ≤ img.length

/-- The lengths of the entries for the version of the ROM. -/
def announced (rom : Rom) (img : List UInt8) (es : List PatchEntry) : ℕ :=
  ((es.filter (·.ForRom rom img)).map (·.len img)).sum

/-- The nodes for the entries that are taken. -/
def selected (rom : Rom) (img : List UInt8) (es : List PatchEntry) : List PatchNode :=
  (es.filter (·.Taken rom img)).map (·.node img)

/-- There is an opcode. -/
def Known (opcode : ℕ) : Prop :=
  opcode = patchSnippets ∨ opcode = patchDummyHeader ∨ opcode = patchSecurityHeader ∨
    opcode = patchOtaFlag

/-- The outer loop takes the entries of sections with the opcode: all snippets, the security
headers if there is a key, and the dummy headers if there is none. -/
def Entered (rom : Rom) (opcode : ℕ) : Prop :=
  opcode = patchSnippets ∨ opcode = patchSecurityHeader ∧ rom.gKeyId ≠ 0 ∨
    opcode = patchDummyHeader ∧ rom.gKeyId = 0

instance (rom : Rom) (opcode : ℕ) : Decidable (Entered rom opcode) :=
  inferInstanceAs (Decidable (_ ∨ _))

/-- The entries that the outer loop takes from a section. -/
def entered (rom : Rom) (img : List UInt8) (p : ℕ) : List PatchEntry :=
  if Entered rom (leAt img p 4) then entries img (leAt img p 4) p else []

/-- The entries that the inner loop takes from a section. -/
def dummies (img : List UInt8) (p : ℕ) : List PatchEntry :=
  if leAt img p 4 = patchDummyHeader then entries img patchDummyHeader p else []

/-- A section lies inside the image as far as the outer loop reads it, and does not count more
flags than sixteen bits do. -/
def SectionFits (rom : Rom) (img : List UInt8) (p : ℕ) : Prop :=
  (Entered rom (leAt img p 4) → EntriesFit img p) ∧
    (leAt img p 4 = patchOtaFlag → leAt img (p + 5) 1 = rom.gEVersion + 1 →
      p + 12 ≤ img.length ∧ leAt img (p + 4) 4 < 2 ^ 16)

/-- A section lies inside the image as far as the inner loop reads it. -/
def DummyFits (img : List UInt8) (p : ℕ) : Prop :=
  p + 8 ≤ img.length ∧ (leAt img p 4 = patchDummyHeader → EntriesFit img p)

/-- Security headers, but none of them for the key. -/
def Turns (rom : Rom) (img : List UInt8) (p : ℕ) : Prop :=
  leAt img p 4 = patchSecurityHeader ∧ rom.gKeyId ≠ 0 ∧
    ∀ e ∈ entries img patchSecurityHeader p, ¬ e.Taken rom img

/-- From the `i`-th of `n` sections on, which is at `p`, the image can be read.  `es` are the
entries of it, and `whole` says that the sections end with the last, and not with an opcode that
there is not. -/
inductive SectionsFit (rom : Rom) (img : List UInt8) (n : ℕ) :
    ℕ → ℕ → List PatchEntry → Bool → Prop
  | last {i p} (count : n ≤ i) : SectionsFit rom img n i p [] true
  | wrong {i p} (more : i < n) (header : p + 8 ≤ img.length) (unknown : ¬ Known (leAt img p 4)) :
      SectionsFit rom img n i p [] false
  | next {i p es whole} (more : i < n) (header : p + 8 ≤ img.length)
      (known : Known (leAt img p 4)) (fits : SectionFits rom img p) (stay : ¬ Turns rom img p)
      (rest : SectionsFit rom img n ((i + 1) % 2 ^ 16) (behind img p) es whole) :
      SectionsFit rom img n i p (entered rom img p ++ es) whole
  /-- Security headers for other keys: `n` sections from here on are read for dummy headers, and
  of the last of them the length counts twice. -/
  | turn {i p q es whole} (more : i < n) (header : p + 8 ≤ img.length)
      (fits : SectionFits rom img p) (turns : Turns rom img p) (count : n < 2 ^ 16)
      (dummiesFit : ∀ r ∈ places img p n, DummyFits img r)
      (place : q = (behind img)^[n - 1] p)
      (rest : SectionsFit rom img n ((n + 1) % 2 ^ 16)
        (behind img q + (8 + leAt img (q + 4) 4) % 2 ^ 32) es whole) :
      SectionsFit rom img n i p
        (entered rom img p ++ ((places img p n).flatMap (dummies img) ++ es)) whole

/-- The list has gained the entries: the nodes for those that are taken, and the lengths of those
for the version of the ROM. -/
structure Gains (rom : Rom) (img : List UInt8) (es : List PatchEntry) (list list' : PatchList) :
    Prop where
  nodes : list'.nodes.Perm (list.nodes ++ selected rom img es)
  patchLen : list'.patchLen = list.patchLen + BitVec.ofNat 32 (announced rom img es)

/-- What `rtb_get_patch_header` gives, up to the order of the nodes. -/
def Yields (rom : Rom) (img : List UInt8) (list : PatchList) (es : List PatchEntry) (whole : Bool)
    (hdr : PatchHeader) : Prop :=
  ∃ list', Gains rom img es list list' ∧
    hdr = ⟨list'.nodes, if whole then some list'.patchLen else none⟩

/-! ### Fields -/

variable {img : List UInt8} {rom : Rom} {n k i p opcode len off : ℕ} {list list' : PatchList}
  {es es' : List PatchEntry} {whole inner : Bool}

lemma field_neg {o : ℤ} (h : o < 0) : field img o k = none := if_neg (by omega)

lemma field_natCast (off k : ℕ) :
    field img off k = if off + k ≤ img.length then some (leAt img off k) else none := by
  unfold field
  by_cases h : off + k ≤ img.length
  · rw [if_pos h, if_pos (by omega), Int.toNat_natCast]
  · rw [if_neg h, if_neg (by omega)]

lemma field_eq {m : ℕ} {o : ℤ} (h : o = m) :
    field img o k = if m + k ≤ img.length then some (leAt img m k) else none := by
  rw [h, field_natCast]

lemma field_inside {m : ℕ} {o : ℤ} (h : o = m) (hle : m + k ≤ img.length) :
    field img o k = some (leAt img m k) := by
  rw [field_eq h, if_pos hle]

lemma field_outside {m : ℕ} {o : ℤ} (h : o = m) (hlt : img.length < m + k) :
    field img o k = none := by
  rw [field_eq h, if_neg (by omega)]

/-! ### What an insertion gains -/

lemma Gains.refl (list : PatchList) : Gains rom img [] list list :=
  ⟨by simp [selected], by simp [announced]⟩

lemma Gains.trans {list'' : PatchList} (h : Gains rom img es list list')
    (h' : Gains rom img es' list' list'') : Gains rom img (es ++ es') list list'' := by
  constructor
  · rw [selected, List.filter_append, List.map_append, ← List.append_assoc]
    exact h'.nodes.trans (h.nodes.append_right _)
  · rw [announced, List.filter_append, List.map_append, List.sum_append, h'.patchLen, h.patchLen,
      BitVec.ofNat_add, BitVec.add_assoc]
    rfl

lemma Gains.yields {hdr : PatchHeader} (h : Gains rom img es list list')
    (h' : Yields rom img list' es' whole hdr) : Yields rom img list (es ++ es') whole hdr := by
  obtain ⟨list'', hgains, rfl⟩ := h'
  exact ⟨list'', h.trans hgains, rfl⟩

/-- What an entry does to the list. -/
def PatchList.enter (rom : Rom) (img : List UInt8) (list : PatchList) (e : PatchEntry) :
    PatchList :=
  if e.ForRom rom img then
    if e.Taken rom img then
      ⟨insertQueueSort (e.node img) list.nodes, list.patchLen + BitVec.ofNat 32 (e.len img),
        list.secFlag || e.opcode == patchSecurityHeader⟩
    else { list with patchLen := list.patchLen + BitVec.ofNat 32 (e.len img) }
  else list

lemma gains_enter (list : PatchList) (e : PatchEntry) :
    Gains rom img [e] list (list.enter rom img e) := by
  unfold PatchList.enter
  by_cases hrom : e.ForRom rom img
  · rw [if_pos hrom]
    by_cases htaken : e.Taken rom img
    · rw [if_pos htaken]
      have hselected : selected rom img [e] = [e.node img] := by simp [selected, htaken]
      refine ⟨?_, by simp [announced, hrom]⟩
      rw [hselected]
      exact (List.perm_orderedInsert _ _ _).trans (List.perm_append_singleton _ _).symm
    · rw [if_neg htaken]
      exact ⟨by simp [selected, htaken], by simp [announced, hrom]⟩
  · rw [if_neg hrom]
    exact ⟨by simp [selected, PatchEntry.Taken, hrom], by simp [announced, hrom]⟩

lemma gains_foldl (es : List PatchEntry) (list : PatchList) :
    Gains rom img es list (es.foldl (PatchList.enter rom img) list) := by
  induction es generalizing list with
  | nil => exact .refl list
  | cons e es ih => exact (gains_enter list e).trans (ih _)

/-- The flag tells whether a security header was for the key. -/
lemma secFlag_foldl (es : List PatchEntry) (list : PatchList) :
    (es.foldl (PatchList.enter rom img) list).secFlag = true ↔ list.secFlag = true ∨
      ∃ e ∈ es, e.opcode = patchSecurityHeader ∧ e.Taken rom img := by
  induction es generalizing list with
  | nil => simp
  | cons e es ih =>
      have henter : (list.enter rom img e).secFlag = true ↔ list.secFlag = true ∨
          (e.opcode = patchSecurityHeader ∧ e.Taken rom img) := by
        unfold PatchList.enter
        by_cases htaken : e.Taken rom img
        · simp [htaken.1, htaken]
        · split_ifs <;> simp [htaken]
      rw [List.foldl_cons, ih, henter, List.exists_mem_cons_iff, or_assoc]

/-- A pass of the loop of `insert_patch`. -/
lemma insertEntries_succ : insertEntries img rom opcode (k + 1) p list =
    if p + 8 ≤ img.length then
      insertEntries img rom opcode k (behind img p) (list.enter rom img ⟨opcode, p⟩)
    else none := by
  rw [insertEntries]
  by_cases hfits : p + 8 ≤ img.length
  · rw [if_pos hfits, field_inside (m := p) rfl (by omega),
      field_inside (m := p + 4) (by omega) (by omega),
      field_inside (m := p + 1) (by omega) (by omega)]
    simp only [Option.bind_eq_bind, Option.bind_some, behind]
    by_cases hrom : leAt img p 1 = rom.gEVersion + 1
    · have hentry : PatchEntry.ForRom rom img ⟨opcode, p⟩ := hrom
      rw [if_pos hrom, PatchList.enter, if_pos hentry]
      by_cases hkey : opcode ≠ patchSecurityHeader ∨
          rom.gKeyId = leAt img (p + 1) 1 ∧ 0 < rom.gKeyId
      · have htaken : PatchEntry.Taken rom img ⟨opcode, p⟩ := ⟨hrom, hkey⟩
        rw [if_pos hkey, if_pos htaken]
        rfl
      · have htaken : ¬ PatchEntry.Taken rom img ⟨opcode, p⟩ := fun h => hkey h.2
        rw [if_neg hkey, if_neg htaken]
        rfl
    · have hentry : ¬ PatchEntry.ForRom rom img ⟨opcode, p⟩ := hrom
      rw [if_neg hrom, PatchList.enter, if_neg hentry]
  · rw [if_neg hfits]
    simp only [field_outside (m := p + 4) (o := (p : ℤ) + 4) rfl
      (show img.length < p + 4 + 4 by omega)]
    cases field img p 1 with
    | none => rfl
    | some eco => rfl

lemma insertEntries_eq : insertEntries img rom opcode k p list =
    if ∀ q ∈ places img p k, q + 8 ≤ img.length then
      some (((places img p k).map (PatchEntry.mk opcode)).foldl (PatchList.enter rom img) list)
    else none := by
  induction k generalizing p list with
  | zero => exact (if_pos fun q hq => absurd hq (List.not_mem_nil)).symm
  | succ k ih =>
      have hplaces : places img p (k + 1) = p :: places img (behind img p) k := rfl
      rw [insertEntries_succ, ih, hplaces]
      simp only [List.forall_mem_cons, List.map_cons, List.foldl_cons]
      split_ifs <;> tauto

/-- `insert_patch` takes the entries of the section. -/
lemma insertPatch_of_fits (list : PatchList) (h : EntriesFit img p) :
    insertPatch img rom opcode p list =
      some ((entries img opcode p).foldl (PatchList.enter rom img) list) := by
  rw [insertPatch, field_inside (m := p + 8) (by omega) h.1, Option.bind_eq_bind,
    Option.bind_some, insertEntries_eq, if_pos h.2]
  rfl

lemma insertPatch_of_not_fits (h : ¬ EntriesFit img p) :
    insertPatch img rom opcode p list = none := by
  rw [insertPatch]
  by_cases hcount : p + 10 ≤ img.length
  · rw [field_inside (m := p + 8) (by omega) hcount, Option.bind_eq_bind, Option.bind_some,
      insertEntries_eq, if_neg fun hall => h ⟨hcount, hall⟩]
  · rw [field_outside (m := p + 8) (by omega) (by omega)]
    rfl

/-! ### A pass -/

/-- Both loops read the header of the section first. -/
lemma sectionsStep_header (hi : i < n) : sectionsStep img rom n ⟨i, p, list, len, inner⟩ =
    if p + 8 ≤ img.length then
      if inner then
        (if leAt img p 4 = patchDummyHeader then insertPatch img rom (leAt img p 4) p list
          else some list).map fun list =>
            .inr ⟨(i + 1) % 2 ^ 16, behind img p, list, leAt img (p + 4) 4, true⟩
      else switchOpcode img rom ⟨i, p, list, len, false⟩ (leAt img p 4) (leAt img (p + 4) 4)
    else none := by
  rw [sectionsStep, if_neg (by simpa using hi)]
  by_cases hheader : p + 8 ≤ img.length
  · rw [if_pos hheader]
    simp only [field_inside (m := p) rfl (show p + 4 ≤ img.length by omega),
      field_inside (m := p + 4) (o := (p : ℤ) + 4) rfl (show p + 4 + 4 ≤ img.length by omega)]
    simp only [Option.bind_eq_bind, Option.bind_some]
    cases inner
    · rfl
    simp only [if_true]
    split
    · cases insertPatch img rom (leAt img p 4) p list <;> rfl
    · rfl
  · rw [if_neg hheader]
    simp only [field_outside (m := p + 4) (o := (p : ℤ) + 4) rfl
      (show img.length < p + 4 + 4 by omega)]
    cases field img (p : ℤ) 4 <;> rfl

lemma sectionsStep_outer (hi : i < n) (h : p + 8 ≤ img.length) :
    sectionsStep img rom n ⟨i, p, list, len, false⟩ =
      switchOpcode img rom ⟨i, p, list, len, false⟩ (leAt img p 4) (leAt img (p + 4) 4) := by
  rw [sectionsStep_header hi, if_pos h, if_neg Bool.false_ne_true]

/-- Without a header inside the image, the pass is a fault. -/
lemma sectionsPass_of_short (hi : i < n) (h : img.length < p + 8) :
    sectionsPass img rom n ⟨i, p, list, len, inner⟩ = .inl none := by
  rw [sectionsPass, sectionsStep_header hi, if_neg (by omega)]

/-- A section whose entries the outer loop takes. -/
lemma switchOpcode_entered (h : Entered rom opcode) (s : SectionState) :
    switchOpcode img rom s opcode len =
      (insertPatch img rom opcode s.pos (if opcode = patchSecurityHeader then
        { s.list with secFlag := false } else s.list)).map fun list =>
          .inr (if opcode = patchSecurityHeader ∧ list.secFlag = false then
            { s with i := 0, list, sectionLen := len, inner := true } else s.pass len list) := by
  unfold switchOpcode
  rcases h with rfl | ⟨rfl, hkey⟩ | ⟨rfl, hkey⟩
  · rw [if_pos rfl, if_neg (by decide)]
    cases insertPatch img rom patchSnippets s.pos s.list with
    | none => rfl
    | some list => rfl
  · rw [if_neg (by decide), if_pos rfl, if_neg hkey, if_pos rfl]
    cases insertPatch img rom patchSecurityHeader s.pos { s.list with secFlag := false } with
    | none => rfl
    | some list =>
        obtain ⟨nodes, patchLen, secFlag⟩ := list
        cases secFlag <;> rfl
  · rw [if_neg (by decide), if_neg (by decide), if_pos rfl, if_neg (not_not.2 hkey),
      if_neg (by decide)]
    cases insertPatch img rom patchDummyHeader s.pos s.list with
    | none => rfl
    | some list => rfl

/-- The outer loop takes the entries; it goes on, or behind security headers for other keys the
inner loop starts at the same place. -/
lemma sectionsPass_entered (list : PatchList) (len : ℕ) (hi : i < n) (h : p + 8 ≤ img.length)
    (hentered : Entered rom (leAt img p 4)) (fits : EntriesFit img p) :
    ∃ list', Gains rom img (entered rom img p) list list' ∧
      (Turns rom img p → sectionsPass img rom n ⟨i, p, list, len, false⟩ =
        .inr ⟨0, p, list', leAt img (p + 4) 4, true⟩) ∧
      (¬ Turns rom img p → sectionsPass img rom n ⟨i, p, list, len, false⟩ =
        .inr ⟨(i + 1) % 2 ^ 16, behind img p, list', leAt img (p + 4) 4, false⟩) := by
  let start : PatchList := if leAt img p 4 = patchSecurityHeader then
    { list with secFlag := false } else list
  let gained := (entries img (leAt img p 4) p).foldl (PatchList.enter rom img) start
  have hgains : Gains rom img (entered rom img p) start gained := by
    rw [entered, if_pos hentered]
    exact gains_foldl _ _
  have hstart : start.nodes = list.nodes ∧ start.patchLen = list.patchLen := by
    unfold start
    split <;> exact ⟨rfl, rfl⟩
  have hturns : Turns rom img p ↔ leAt img p 4 = patchSecurityHeader ∧ gained.secFlag = false := by
    rw [Turns, and_congr_right_iff]
    intro hop
    have hkey : rom.gKeyId ≠ 0 := by
      simpa [Entered, hop, patchSnippets, patchSecurityHeader, patchDummyHeader] using hentered
    have hflag : gained.secFlag = true ↔ _ := secFlag_foldl _ _
    have hfalse : start.secFlag = false := by simp only [start, if_pos hop]
    have hopcode : ∀ e ∈ entries img patchSecurityHeader p, e.opcode = patchSecurityHeader := by
      intro e he
      obtain ⟨q, -, rfl⟩ := List.mem_map.1 he
      rfl
    rw [and_iff_right hkey, ← Bool.not_eq_true, hflag, hfalse, hop]
    simp only [Bool.false_eq_true, false_or, not_exists, not_and]
    exact forall₂_congr fun e he => ⟨fun hnot _ => hnot, fun hnot => hnot (hopcode e he)⟩
  refine ⟨gained, ⟨hstart.1 ▸ hgains.nodes, hstart.2 ▸ hgains.patchLen⟩, fun hturn => ?_,
    fun hstay => ?_⟩
  all_goals
    rw [sectionsPass, sectionsStep_outer hi h, switchOpcode_entered hentered,
      insertPatch_of_fits _ fits, Option.map_some]
  · rw [if_pos (hturns.1 hturn)]
  · rw [if_neg fun hand => hstay (hturns.2 hand)]
    rfl

/-- The outer loop goes over another section. -/
lemma sectionsPass_skip (hi : i < n) (h : p + 8 ≤ img.length) (known : Known (leAt img p 4))
    (fits : SectionFits rom img p) (hnot : ¬ Entered rom (leAt img p 4)) :
    sectionsPass img rom n ⟨i, p, list, len, false⟩ =
      .inr ⟨(i + 1) % 2 ^ 16, behind img p, list, leAt img (p + 4) 4, false⟩ := by
  rw [sectionsPass, sectionsStep_outer hi h, switchOpcode]
  rcases known with hop | hop | hop | hop
  · exact absurd (.inl hop) hnot
  · rw [if_neg (by rw [hop]; decide), if_neg (by rw [hop]; decide), if_pos hop,
      if_pos fun hkey => hnot (.inr (.inr ⟨hop, hkey⟩))]
    rfl
  · rw [if_neg (by rw [hop]; decide), if_pos hop,
      if_pos (not_not.1 fun hkey => hnot (.inr (.inl ⟨hop, hkey⟩)))]
    rfl
  · rw [if_neg (by rw [hop]; decide), if_neg (by rw [hop]; decide), if_neg (by rw [hop]; decide),
      if_pos hop, field_inside (m := p + 5) (by rfl) (by omega)]
    simp only [Option.bind_eq_bind, Option.bind_some]
    by_cases heco : leAt img (p + 5) 1 = rom.gEVersion + 1
    · obtain ⟨hflag, hcount⟩ := fits.2 hop heco
      rw [if_pos heco, field_inside (m := p + 8) (by rfl) hflag, Option.bind_some,
        if_neg (by omega)]
      rfl
    · rw [if_neg heco]
      rfl

/-- The outer loop goes on. -/
lemma sectionsPass_next (list : PatchList) (len : ℕ) (hi : i < n) (h : p + 8 ≤ img.length)
    (known : Known (leAt img p 4)) (fits : SectionFits rom img p) (stay : ¬ Turns rom img p) :
    ∃ list', Gains rom img (entered rom img p) list list' ∧
      sectionsPass img rom n ⟨i, p, list, len, false⟩ =
        .inr ⟨(i + 1) % 2 ^ 16, behind img p, list', leAt img (p + 4) 4, false⟩ := by
  by_cases hentered : Entered rom (leAt img p 4)
  · obtain ⟨list', hgains, -, hnext⟩ := sectionsPass_entered list len hi h hentered
      (fits.1 hentered)
    exact ⟨list', hgains, hnext stay⟩
  · rw [entered, if_neg hentered]
    exact ⟨list, .refl list, sectionsPass_skip hi h known fits hentered⟩

lemma sectionsPass_wrong (hi : i < n) (h : p + 8 ≤ img.length)
    (unknown : ¬ Known (leAt img p 4)) :
    sectionsPass img rom n ⟨i, p, list, len, false⟩ = .inl (some ⟨list.nodes, none⟩) := by
  simp only [Known, not_or] at unknown
  rw [sectionsPass, sectionsStep_outer hi h, switchOpcode, if_neg unknown.1,
    if_neg unknown.2.2.1, if_neg unknown.2.1, if_neg unknown.2.2.2]

/-- Where a section does not fit, the pass is a fault, or the same pass follows for ever. -/
lemma sectionsPass_of_not_fits (list : PatchList) (len : ℕ) (hi : i < n)
    (h : p + 8 ≤ img.length) (unfit : ¬ SectionFits rom img p) :
    sectionsPass img rom n ⟨i, p, list, len, false⟩ = .inl none ∨
      sectionsPass img rom n ⟨i, p, list, len, false⟩ = .inr ⟨i, p, list, len, false⟩ := by
  rw [sectionsPass, sectionsStep_outer hi h]
  by_cases hentries : Entered rom (leAt img p 4) → EntriesFit img p
  · -- The flags do not fit.
    obtain ⟨hop, heco, hflag⟩ : leAt img p 4 = patchOtaFlag ∧
        leAt img (p + 5) 1 = rom.gEVersion + 1 ∧
        ¬ (p + 12 ≤ img.length ∧ leAt img (p + 4) 4 < 2 ^ 16) := by
      by_contra hnot
      refine unfit ⟨hentries, fun hop heco => ?_⟩
      by_contra hflag
      exact hnot ⟨hop, heco, hflag⟩
    rw [switchOpcode, if_neg (by rw [hop]; decide), if_neg (by rw [hop]; decide),
      if_neg (by rw [hop]; decide), if_pos hop, field_inside (m := p + 5) (by rfl) (by omega)]
    simp only [Option.bind_eq_bind, Option.bind_some]
    rw [if_pos heco]
    by_cases hinside : p + 12 ≤ img.length
    · rw [field_inside (m := p + 8) (by rfl) hinside, Option.bind_some, if_pos (by omega)]
      exact .inr rfl
    · rw [field_outside (m := p + 8) (by rfl) (by omega)]
      exact .inl rfl
  · obtain ⟨hentered, hnot⟩ := Classical.not_imp.1 hentries
    rw [switchOpcode_entered hentered, insertPatch_of_not_fits hnot]
    exact .inl rfl

lemma sectionsPass_last (hi : n ≤ i) :
    sectionsPass img rom n ⟨i, p, list, len, false⟩ =
      .inl (some ⟨list.nodes, some list.patchLen⟩) := by
  rw [sectionsPass, sectionsStep, if_pos hi]
  rfl

/-! ### The inner loop -/

lemma sectionsPass_leave (hi : n ≤ i) :
    sectionsPass img rom n ⟨i, p, list, len, true⟩ =
      .inr ⟨(i + 1) % 2 ^ 16, p + (8 + len) % 2 ^ 32, list, len, false⟩ := by
  rw [sectionsPass, sectionsStep, if_pos hi]
  rfl

lemma sectionsPass_dummy (rom : Rom) (list : PatchList) (len : ℕ) (hi : i < n)
    (fits : DummyFits img p) :
    ∃ list', Gains rom img (dummies img p) list list' ∧
      sectionsPass img rom n ⟨i, p, list, len, true⟩ =
        .inr ⟨(i + 1) % 2 ^ 16, behind img p, list', leAt img (p + 4) 4, true⟩ := by
  rw [sectionsPass, sectionsStep_header hi, if_pos fits.1, if_pos rfl]
  unfold dummies
  by_cases hop : leAt img p 4 = patchDummyHeader
  · rw [if_pos hop, if_pos hop, insertPatch_of_fits _ (fits.2 hop), hop]
    exact ⟨_, gains_foldl _ _, rfl⟩
  · rw [if_neg hop, if_neg hop]
    exact ⟨_, .refl _, rfl⟩

lemma sectionsPass_dummy_of_not_fits (hi : i < n) (unfit : ¬ DummyFits img p) :
    sectionsPass img rom n ⟨i, p, list, len, true⟩ = .inl none := by
  by_cases h : p + 8 ≤ img.length
  · obtain ⟨hop, hnot⟩ : leAt img p 4 = patchDummyHeader ∧ ¬ EntriesFit img p :=
      Classical.not_imp.1 fun hfits => unfit ⟨h, hfits⟩
    rw [sectionsPass, sectionsStep_header hi, if_pos h, if_pos rfl, if_pos hop,
      insertPatch_of_not_fits hnot]
    rfl
  · exact sectionsPass_of_short hi (by omega)

/-- The inner loop goes over the sections that are left, and once more over the length of the
last. -/
lemma run_inner (rom : Rom) (list : PatchList) (len : ℕ) (hn : n < 2 ^ 16) {m : ℕ}
    (hi : i + (m + 1) = n)
    (fits : ∀ q ∈ places img p (m + 1), DummyFits img q) :
    ∃ list' len', Gains rom img ((places img p (m + 1)).flatMap (dummies img)) list list' ∧
      ∀ k, Loop.run (sectionsPass img rom n) (m + 2 + k) ⟨i, p, list, len, true⟩ =
        Loop.run (sectionsPass img rom n) k ⟨(n + 1) % 2 ^ 16,
          behind img ((behind img)^[m] p) + (8 + leAt img ((behind img)^[m] p + 4) 4) % 2 ^ 32,
          list', len', false⟩ := by
  induction m generalizing i p list len with
  | zero =>
      obtain ⟨list', hgains, hpass⟩ := sectionsPass_dummy rom list len (by omega : i < n)
        (fits p List.mem_cons_self)
      refine ⟨list', leAt img (p + 4) 4, by simpa [places, List.iterate] using hgains,
        fun k => ?_⟩
      rw [show 0 + 2 + k = k + 1 + 1 by omega, Loop.run, hpass]
      dsimp only
      rw [Loop.run, sectionsPass_leave (by omega), Nat.mod_eq_of_lt (by omega : i + 1 < 2 ^ 16),
        show i + 1 + 1 = n + 1 by omega]
      rfl
  | succ m ih =>
      obtain ⟨list₁, hgains, hpass⟩ := sectionsPass_dummy rom list len (by omega : i < n)
        (fits p List.mem_cons_self)
      obtain ⟨list', len', hgains', hrun⟩ := ih list₁ (leAt img (p + 4) 4)
        (by omega : i + 1 + (m + 1) = n) fun q hq => fits q (List.mem_cons_of_mem _ hq)
      refine ⟨list', len', hgains.trans hgains', fun k => ?_⟩
      rw [show m + 1 + 2 + k = m + 2 + k + 1 by omega, Loop.run, hpass,
        Nat.mod_eq_of_lt (by omega : i + 1 < 2 ^ 16)]
      exact hrun k

/-- Otherwise it has no result but a fault: sixteen bits never come to a larger `n`. -/
lemma run_inner_of_not_fits {hdr : PatchHeader}
    (unfit : n < 2 ^ 16 → ¬ ∀ q ∈ places img p (n - i), DummyFits img q) (hi : i < 2 ^ 16) :
    Loop.run (sectionsPass img rom n) k ⟨i, p, list, len, true⟩ ≠ some (some hdr) := by
  induction k generalizing i p list len with
  | zero => exact fun h => by cases h
  | succ k ih =>
      rw [Loop.run]
      by_cases hlt : i < n
      · by_cases hfits : DummyFits img p
        · obtain ⟨list', -, hpass⟩ := sectionsPass_dummy rom list len hlt hfits
          rw [hpass]
          refine ih (fun hn hall => unfit hn ?_) (Nat.mod_lt _ (by decide))
          rw [Nat.mod_eq_of_lt (by omega)] at hall
          rw [show n - i = n - (i + 1) + 1 by omega]
          exact List.forall_mem_cons.2 ⟨hfits, hall⟩
        · rw [sectionsPass_dummy_of_not_fits hlt hfits]
          exact fun h => by cases h
      · refine absurd (fun q hq => ?_) (unfit (by omega))
        rw [show n - i = 0 by omega] at hq
        exact absurd hq List.not_mem_nil

/-! ### The whole walk -/

/-- A walk with a result goes over an image that can be read. -/
lemma sectionsFit_of_run {hdr : PatchHeader}
    (h : Loop.run (sectionsPass img rom n) k ⟨i, p, list, len, false⟩ = some (some hdr)) :
    ∃ es whole, SectionsFit rom img n i p es whole ∧ Yields rom img list es whole hdr := by
  induction k using Nat.strong_induction_on generalizing i p list len with
  | _ k ih =>
    cases k with
    | zero => cases h
    | succ k =>
      rw [Loop.run] at h
      by_cases hi : i < n
      swap
      · rw [sectionsPass_last (by omega)] at h
        obtain rfl := Option.some.inj (Option.some.inj h)
        exact ⟨[], true, .last (by omega), list, .refl list, rfl⟩
      by_cases hheader : p + 8 ≤ img.length
      swap
      · rw [sectionsPass_of_short hi (by omega)] at h
        cases h
      by_cases hknown : Known (leAt img p 4)
      swap
      · rw [sectionsPass_wrong hi hheader hknown] at h
        obtain rfl := Option.some.inj (Option.some.inj h)
        exact ⟨[], false, .wrong hi hheader hknown, list, .refl list, rfl⟩
      by_cases hfits : SectionFits rom img p
      swap
      · rcases sectionsPass_of_not_fits list len hi hheader hfits with hpass | hpass
        · rw [hpass] at h
          cases h
        · rw [hpass] at h
          cases (Loop.run_of_stuck hpass k).symm.trans h
      by_cases hturns : Turns rom img p
      · have hentered : Entered rom (leAt img p 4) := .inr (.inl ⟨hturns.1, hturns.2.1⟩)
        obtain ⟨list₁, hgains, hpass, -⟩ := sectionsPass_entered list len hi hheader hentered
          (hfits.1 hentered)
        rw [hpass hturns] at h
        obtain ⟨hn, hdummies⟩ : n < 2 ^ 16 ∧ ∀ q ∈ places img p n, DummyFits img q := by
          by_contra hnot
          exact run_inner_of_not_fits (fun hn hall => hnot ⟨hn, hall⟩) (by decide) h
        obtain ⟨m, rfl⟩ : ∃ m, n = m + 1 := ⟨n - 1, by omega⟩
        obtain ⟨list', len', hgains', hrun⟩ := run_inner rom list₁ (leAt img (p + 4) 4) hn
          (Nat.zero_add _) hdummies
        -- The passes that are left over are enough for the rest.
        have hrest := hrun k
        rw [Loop.run_mono (Nat.le_add_left k (m + 2)) h] at hrest
        obtain ⟨es, whole, hfit, hyields⟩ := ih k (Nat.lt_succ_self k) hrest.symm
        exact ⟨_, whole, .turn hi hheader hfits hturns hn hdummies rfl hfit,
          hgains.yields (hgains'.yields hyields)⟩
      · obtain ⟨list', hgains, hpass⟩ := sectionsPass_next list len hi hheader hknown hfits
          hturns
        rw [hpass] at h
        obtain ⟨es, whole, hfit, hyields⟩ := ih k (Nat.lt_succ_self k) h
        exact ⟨_, whole, .next hi hheader hknown hfits hturns hfit, hgains.yields hyields⟩

/-- Over an image that can be read, the walk has a result. -/
lemma SectionsFit.exists_run (h : SectionsFit rom img n i p es whole) (list : PatchList)
    (len : ℕ) :
    ∃ hdr, Yields rom img list es whole hdr ∧
      ∃ k, Loop.run (sectionsPass img rom n) k ⟨i, p, list, len, false⟩ = some (some hdr) := by
  induction h generalizing list len with
  | last count =>
      refine ⟨_, ⟨list, .refl list, rfl⟩, 1, ?_⟩
      rw [Loop.run, sectionsPass_last count]
      rfl
  | wrong more header unknown =>
      refine ⟨_, ⟨list, .refl list, rfl⟩, 1, ?_⟩
      rw [Loop.run, sectionsPass_wrong more header unknown]
      rfl
  | next more header known fits stay rest ih =>
      obtain ⟨list', hgains, hpass⟩ := sectionsPass_next list len more header known fits stay
      obtain ⟨hdr, hyields, k, hrun⟩ := ih list' (leAt img (_ + 4) 4)
      refine ⟨hdr, hgains.yields hyields, k + 1, ?_⟩
      rw [Loop.run, hpass]
      exact hrun
  | turn more header fits turns count dummiesFit place rest ih =>
      have hentered : Entered rom (leAt img _ 4) := .inr (.inl ⟨turns.1, turns.2.1⟩)
      obtain ⟨list₁, hgains, hpass, -⟩ := sectionsPass_entered list len more header hentered
        (fits.1 hentered)
      obtain ⟨m, rfl⟩ : ∃ m, n = m + 1 := ⟨n - 1, by omega⟩
      obtain ⟨list', len', hgains', hrun'⟩ := run_inner rom list₁ (leAt img (_ + 4) 4) count
        (Nat.zero_add _) dummiesFit
      subst place
      obtain ⟨hdr, hyields, k, hrun⟩ := ih list' len'
      refine ⟨hdr, hgains.yields (hgains'.yields hyields), m + 2 + k + 1, ?_⟩
      rw [Loop.run, hpass turns]
      exact (hrun' k).trans hrun

end Rtl8723du.Bt
