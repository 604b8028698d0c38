import Rtl8723du.Bt.Sections

/-!
# Loading the firmware

`load_firmware` of `BT/rtk_misc.c` takes a firmware image apart: from its end
`rtk_get_fw_project_id` walks backward over the extension section to the number of the project.
In an image in the old style `rtk_get_patch_entry` finds the patch for the version of the ROM in a
table behind the header; one in the new style goes through `rtb_get_patch_header`.  The patches and
the configuration make up the buffer that is downloaded.  All offsets come from the image, and few
are checked.

A read outside the image is a `fault` here, as is an index outside `project_id`.
-/

namespace Rtl8723du.Bt

open Lib Lib.Bytes

/-! ### The image -/

/-- `RTK_EPATCH_SIGNATURE`. -/
def rtkEpatchSignature : List UInt8 := [0x52, 0x65, 0x61, 0x6C, 0x74, 0x65, 0x63, 0x68]

/-- `RTK_EPATCH_SIGNATURE_NEW`. -/
def rtkEpatchSignatureNew : List UInt8 := [0x52, 0x54, 0x42, 0x54, 0x43, 0x6F, 0x72, 0x65]

/-- `Extension_Section_SIGNATURE`. -/
def extensionSectionSignature : List UInt8 := [0x51, 0x04, 0xFD, 0x77]

/-- `project_id`. -/
def projectId : List ℕ :=
  [0x1200, 0x8723, 0x8821, 0x8761, 0, 0, 0, 0, 0x8822, 0x8723, 0x8821, 0, 0, 0x8822, 0x8761, 0, 0,
    0, 0x8852, 0x8723, 0x8852, 0, 0, 0, 0, 0x8852, 0, 0, 0, 0, 0, 0, 0, 0x8822]

/-- `ROM_LMP_8723a`. -/
def romLmp8723a : ℕ := 0x1200

/-! ### The extension section -/

/-- A pass of the loop of `rtk_get_fw_project_id`; `p_buf` is an offset into the image. -/
def projectIdPass (img : List UInt8) (p : ℤ) : Option ℕ ⊕ ℤ :=
  match field img p 1, field img (p - 1) 1 with
  | some opcode, some len =>
      if opcode = 0 ∧ len = 1 then .inl (field img (p - 2) 1)
      else
        match field img (p - (len + 2)) 1 with
        | none => .inl none
        | some next => if next = 0xFF then .inl (some 0) else .inr (p - (len + 2))
  | _, _ => .inl none

/-- `rtk_get_fw_project_id`; there is a result if the loop ends, and it is `none` for a fault. -/
def rtkGetFwProjectId (img : List UInt8) (p : ℤ) : Option (Option ℕ) :=
  Loop.run (projectIdPass img) (img.length + 1) p

/-! ### The patch -/

/-- `rtk_epatch_entry`. -/
structure RtkEpatchEntry where
  patchLength : ℕ
  startOffset : ℕ
deriving DecidableEq

/-- The loop of `rtk_get_patch_entry`: the first patch for the ROM, none, or a fault. -/
def findPatch (img : List UInt8) (gEVersion : ℕ) : ℕ → ℕ → Option (Option ℕ)
  | 0, _ => some none
  | k + 1, i => do
      let version ← field img (14 + 2 * i) 2
      if version = gEVersion + 1 then return some i
      findPatch img gEVersion k (i + 1)

/-- `rtk_get_patch_entry`; `none` for a fault. -/
def rtkGetPatchEntry (img : List UInt8) (gEVersion : ℕ) : Option RtkEpatchEntry := do
  let numberOfTotalPatch ← field img 12 2
  let _fwVersion ← field img 8 4
  match ← findPatch img gEVersion numberOfTotalPatch 0 with
  | none => return ⟨0, 0⟩
  | some i =>
      let patchLength ← field img (14 + 2 * numberOfTotalPatch + 2 * i) 2
      let startOffset ← field img (14 + 4 * numberOfTotalPatch + 4 * i) 4
      let _svnVer ← field img (startOffset + patchLength - 8) 4
      let _coexVer ← field img (startOffset + patchLength - 12) 4
      return ⟨patchLength, startOffset⟩

/-! ### The buffer -/

/-- Where a byte of the buffer comes from. -/
inductive Source
  | zero
  | image (off : ℤ)
  | config (i : ℕ)
deriving DecidableEq

/-- `memcpy` into the buffer, as far as it lies inside. -/
def overlay (buf : List Source) (off : ℤ) (n : ℕ) (src : ℕ → Source) : List Source :=
  buf.mapIdx fun i s => if off ≤ i ∧ (i : ℤ) < off + n then src (i - off).toNat else s

/-- What becomes of an image. -/
inductive Outcome
  | fault
  | rejected
  | loaded (buf : List Source)
deriving DecidableEq

/-- What the loading depends on besides the image. -/
structure LoadEnv extends Rom where
  /-- `lmp_sub` of the device. -/
  lmpVersion : ℕ
  configLen : ℕ
  /-- There is memory for the buffer. -/
  alloc : Bool

/-- The copy of the patch and the configuration. -/
def copyPatch (env : LoadEnv) (img : List UInt8) (entry : RtkEpatchEntry) : Outcome :=
  if entry.patchLength = 0 then .rejected
  else if env.alloc then
    if entry.startOffset + entry.patchLength ≤ img.length ∧ 12 ≤ img.length then
      let buf := List.replicate (entry.patchLength + env.configLen) Source.zero
      let buf := overlay buf 0 entry.patchLength fun j => .image (entry.startOffset + j)
      let buf := overlay buf (entry.patchLength - 4) 4 fun j => .image (8 + j)
      .loaded (overlay buf entry.patchLength env.configLen fun j => .config j)
    else .fault
  else .rejected

/-- The copy of a whole image for an 8723A. -/
def copyImage (env : LoadEnv) (img : List UInt8) : Outcome :=
  if env.alloc then
    let buf := List.replicate (img.length + env.configLen) Source.zero
    let buf := overlay buf 0 img.length fun j => .image j
    .loaded (overlay buf img.length env.configLen fun j => .config j)
  else .rejected

/-- The copy of the nodes, one behind the other; `tmp_len` is an `int`. -/
def copyNodes : List Source → BitVec 32 → List PatchNode → List Source
  | buf, _, [] => buf
  | buf, tmpLen, tmp :: rest =>
      copyNodes (overlay buf tmpLen.toInt tmp.len fun j => .image (tmp.payload + j))
        (tmpLen + BitVec.ofNat 32 tmp.len) rest

/-- The copy of the nodes and the configuration. -/
def copySections (env : LoadEnv) (img : List UInt8) (hdr : PatchHeader) : Outcome :=
  -- Without `*len`, `buf_len` is still the length of the image and of the configuration.
  let bufLen := hdr.len.getD (BitVec.ofNat 32 (img.length + env.configLen))
  if bufLen = 0 then .rejected
  else
    let bufLen := (bufLen + BitVec.ofNat 32 env.configLen).toInt
    -- There is no memory for a negative length.
    if 0 ≤ bufLen ∧ env.alloc then
      if ∀ tmp ∈ hdr.nodes, tmp.payload + tmp.len ≤ img.length then
        if bufLen = 0 then .rejected
        else
          let buf := copyNodes (List.replicate bufLen.toNat .zero) 0 hdr.nodes
          .loaded (overlay buf (bufLen - env.configLen) env.configLen fun j => .config j)
      else .fault
    else .rejected

/-- `load_firmware` from an image that has been read; there is a result if it ends, within `fuel`
passes over the sections. -/
def loadFirmware (env : LoadEnv) (img : List UInt8) (fuel : ℕ) : Option Outcome :=
  if env.lmpVersion = romLmp8723a then
    some (if img.take 8 = rtkEpatchSignature then .rejected else copyImage env img)
  else if env.gEVersion = 0xFE then some .rejected
  else if (img.take 8 ≠ rtkEpatchSignature ∧ img.take 8 ≠ rtkEpatchSignatureNew) ∨
      img.drop (img.length - 4) ≠ extensionSectionSignature then some .rejected
  else
    (rtkGetFwProjectId img (img.length - 5)).bind fun projId =>
      match projId.bind (projectId[·]?) with
      | none => some .fault
      | some id =>
          if env.lmpVersion ≠ id then some .rejected
          else if img.take 8 = rtkEpatchSignatureNew then
            (rtbGetPatchHeader fuel img env.toRom).map fun hdr =>
              hdr.elim .fault (copySections env img)
          else some ((rtkGetPatchEntry img env.gEVersion).elim .fault (copyPatch env img))

/-! ### Conditions -/

/-- The image passes the signature check at its start and end. -/
def Signed (img : List UInt8) : Prop :=
  (img.take 8 = rtkEpatchSignature ∨ img.take 8 = rtkEpatchSignatureNew) ∧
    img.drop (img.length - 4) = extensionSectionSignature

/-- An entry of the extension section, which is read from its end. -/
def extEntry (data : List UInt8) (opcode : UInt8) : List UInt8 :=
  data ++ [UInt8.ofNat data.length, opcode]

/-- Read from its end, the string consists of entries up to one that tells the project, or up to
one in front of which there is a byte `FF`; the project of the latter is 0. -/
inductive ExtWalk : List UInt8 → ℕ → Prop
  | project (front : List UInt8) (d : UInt8) : ExtWalk (front ++ extEntry [d] 0) d.toNat
  | last (front data : List UInt8) (opcode : UInt8) (short : data.length < 256)
      (other : ¬ (opcode = 0 ∧ data.length = 1)) :
      ExtWalk ((front ++ [0xFF]) ++ extEntry data opcode) 0
  | next (front data : List UInt8) (opcode : UInt8) (d : ℕ) (short : data.length < 256)
      (other : ¬ (opcode = 0 ∧ data.length = 1)) (more : front.getLast? ≠ some 0xFF)
      (walk : ExtWalk front d) : ExtWalk (front ++ extEntry data opcode) d

/-- The version of the ROM that a patch is for. -/
def patchVersion (img : List UInt8) (i : ℕ) : ℕ := leAt img (14 + 2 * i) 2

/-- The first patch for the ROM, of `k` from the `i`-th on. -/
def firstPatch (img : List UInt8) (gEVersion i k : ℕ) : Option ℕ :=
  (List.range' i k).find? (patchVersion img · = gEVersion + 1)

/-- The table lies inside the image as far as it is read, and so do the versions in front of the
end of the patch and the patch itself where it is copied. -/
def PatchFits (env : LoadEnv) (img : List UInt8) : Prop :=
  let n := leAt img 12 2
  14 ≤ img.length ∧
    match firstPatch img env.gEVersion 0 n with
    | none => 14 + 2 * n ≤ img.length
    | some i =>
        let patchLength := leAt img (14 + 2 * n + 2 * i) 2
        let stop := leAt img (14 + 4 * n + 4 * i) 4 + patchLength
        14 + 4 * n + 4 * i + 4 ≤ img.length ∧ 12 ≤ stop ∧ stop ≤ img.length + 4 ∧
          (patchLength ≠ 0 → env.alloc = true → stop ≤ img.length)

/-- No buffer is made for the entries `es`, or the payloads that are copied lie inside the image and
fill the buffer up to the configuration. -/
def CopyFits (env : LoadEnv) (img : List UInt8) (es : List PatchEntry) (whole : Bool) : Prop :=
  let len := BitVec.ofNat 32
    (if whole then announced env.toRom img es else img.length + env.configLen)
  let bufLen := (len + BitVec.ofNat 32 env.configLen).toInt
  len = 0 ∨ bufLen < 0 ∨ env.alloc = false ∨
    (∀ e ∈ es, e.Taken env.toRom img → e.pos + 8 + e.len img ≤ img.length) ∧
      bufLen - env.configLen ≤ ((es.filter (·.Taken env.toRom img)).map (·.len img)).sum

/-- The sections can be read and copied. -/
def SectionsCopied (env : LoadEnv) (img : List UInt8) : Prop :=
  20 ≤ img.length ∧ ∃ es whole,
    SectionsFit env.toRom img (leAt img 16 4) 0 20 es whole ∧ CopyFits env img es whole

/-- The extension section can be walked, its project is in `project_id`, and where that is the
device's, the patch or the sections fit. -/
def LoadFits (env : LoadEnv) (img : List UInt8) : Prop :=
  env.lmpVersion = romLmp8723a ∨ env.gEVersion = 0xFE ∨
    ∃ d, ExtWalk (img.take (img.length - 4)) d ∧ d < projectId.length ∧
      (projectId.getD d 0 = env.lmpVersion →
        (img.take 8 = rtkEpatchSignature → PatchFits env img) ∧
          (img.take 8 = rtkEpatchSignatureNew → SectionsCopied env img))

/-- The byte comes from inside the image or from the configuration. -/
def Source.Inside (env : LoadEnv) (img : List UInt8) : Source → Prop
  | .zero => False
  | .image off => 0 ≤ off ∧ off < img.length
  | .config i => i < env.configLen

/-- The image is rejected, or a buffer is made of its bytes and of the configuration. -/
def Outcome.Safe (env : LoadEnv) (img : List UInt8) : Outcome → Prop
  | .fault => False
  | .rejected => True
  | .loaded buf => ∀ s ∈ buf, s.Inside env img

/-- The loading ends, reads only inside the image, and rejects it or makes a buffer of its bytes
and of the configuration. -/
def LoadSafe (env : LoadEnv) (img : List UInt8) : Prop :=
  ∃ fuel o, loadFirmware env img fuel = some o ∧ o.Safe env img

variable {img bs rest front data front' data' : List UInt8} {env : LoadEnv} {opcode opcode' : UInt8}
  {d k n off : ℕ}

/-! ### Fields -/

/-- A byte of the image. -/
lemma field_byte {r : List UInt8} {l : List UInt8} {b : UInt8} {off : ℤ} (himg : img = l ++ b :: r)
    (hoff : off = l.length) :
    field img off 1 = some b.toNat := by
  rw [field_eq hoff, himg, if_pos (by simp), leAt, List.drop_left]
  simp [leNat]

/-! ### The extension section -/

lemma length_extEntry (data : List UInt8) (opcode : UInt8) :
    (extEntry data opcode).length = data.length + 2 := by
  simp [extEntry]

/-- There is only one last entry. -/
lemma extEntry_inj (hd : data.length < 256) (hd' : data'.length < 256)
    (h : front ++ extEntry data opcode = front' ++ extEntry data' opcode') :
    front = front' ∧ data = data' ∧ opcode = opcode' := by
  have hassoc (f g : List UInt8) (o : UInt8) : f ++ extEntry g o =
      (f ++ g ++ [UInt8.ofNat g.length]) ++ [o] := by simp [extEntry]
  rw [hassoc, hassoc] at h
  obtain ⟨hfront, hop⟩ := List.append_inj' h rfl
  obtain ⟨hdata, hlen⟩ := List.append_inj' hfront rfl
  have hlength : data.length = data'.length := by
    have := congrArg UInt8.toNat (List.cons.inj hlen).1
    rwa [UInt8.toNat_ofNat', UInt8.toNat_ofNat', Nat.mod_eq_of_lt hd, Nat.mod_eq_of_lt hd'] at this
  obtain ⟨rfl, rfl⟩ := List.append_inj' hdata hlength
  exact ⟨rfl, rfl, (List.cons.inj hop).1⟩

/-- Behind a string either there is a last entry, or it is too short for that. -/
lemma exists_extEntry (bs : List UInt8) :
    (∃ front data opcode, data.length < 256 ∧ bs = front ++ extEntry data opcode) ∨
      bs.length < 2 ∨ ∃ front l opcode, bs = front ++ [l, opcode] ∧ front.length < l.toNat := by
  by_cases hshort : bs.length < 2
  · exact .inr (.inl hshort)
  · obtain ⟨front, l, opcode, rfl⟩ : ∃ front l opcode, bs = front ++ [l, opcode] := by
      rcases List.eq_nil_or_concat bs with rfl | ⟨bs, opcode, rfl⟩
      · simp at hshort
      · rcases List.eq_nil_or_concat bs with rfl | ⟨bs, l, rfl⟩
        · simp at hshort
        · exact ⟨bs, l, opcode, by simp⟩
    by_cases hl : front.length < l.toNat
    · exact .inr (.inr ⟨front, l, opcode, rfl, hl⟩)
    · have hlt := l.toNat_lt
      have hlen : (front.drop (front.length - l.toNat)).length = l.toNat := by
        rw [List.length_drop]
        omega
      refine .inl ⟨front.take (front.length - l.toNat), front.drop (front.length - l.toNat), opcode,
        by omega, ?_⟩
      rw [extEntry, hlen, ← List.append_assoc, List.take_append_drop, UInt8.ofNat_toNat]

/-- A walk begins with an entry. -/
lemma ExtWalk.exists_entry (h : ExtWalk bs d) :
    ∃ front data opcode, data.length < 256 ∧ bs = front ++ extEntry data opcode := by
  cases h with
  | project front d => exact ⟨front, [d], 0, by simp, rfl⟩
  | last front data opcode short => exact ⟨_, data, opcode, short, rfl⟩
  | next front data opcode d short => exact ⟨_, data, opcode, short, rfl⟩

/-- What a walk does at its first entry. -/
lemma extWalk_iff (hshort : data.length < 256) :
    ExtWalk (front ++ extEntry data opcode) d ↔
      if opcode = 0 ∧ data.length = 1 then data = [UInt8.ofNat d] ∧ d < 256
      else if front.getLast? = some 0xFF then d = 0
      else ExtWalk front d := by
  constructor
  · generalize hbs : front ++ extEntry data opcode = bs
    intro h
    cases h with
    | project front' d' =>
        obtain ⟨rfl, rfl, rfl⟩ := extEntry_inj hshort (by simp) hbs
        rw [if_pos ⟨rfl, rfl⟩, UInt8.ofNat_toNat]
        exact ⟨rfl, d'.toNat_lt⟩
    | last front' data' opcode' short other =>
        obtain ⟨rfl, rfl, rfl⟩ := extEntry_inj hshort short hbs
        rw [if_neg other, if_pos (by simp)]
    | next front' data' opcode' d' short other more walk =>
        obtain ⟨rfl, rfl, rfl⟩ := extEntry_inj hshort short hbs
        rw [if_neg other, if_neg more]
        exact walk
  · intro h
    split at h
    · rename_i hproj
      obtain ⟨rfl, hlt⟩ := h
      have hd : d = (UInt8.ofNat d).toNat := by
        rw [UInt8.toNat_ofNat', Nat.mod_eq_of_lt hlt]
      rw [hproj.1]
      conv_rhs => rw [hd]
      exact .project front _
    · rename_i hother
      split at h
      · rename_i hlast
        obtain ⟨init, rfl⟩ := List.getLast?_eq_some_iff.1 hlast
        subst h
        exact .last init data opcode hshort hother
      · exact .next front data opcode d hshort hother (by assumption) h

/-- A pass over an entry. -/
lemma projectIdPass_entry (hshort : data.length < 256)
    (himg : img = (front ++ extEntry data opcode) ++ rest) {p : ℤ}
    (hp : p = (front ++ extEntry data opcode).length - 1) :
    projectIdPass img p =
      if opcode = 0 ∧ data.length = 1 then .inl (some ((data.headD 0).toNat))
      else if front = [] then .inl none
      else if front.getLast? = some 0xFF then .inl (some 0)
      else .inr (front.length - 1) := by
  rw [List.length_append, length_extEntry] at hp
  have hopcode : field img p 1 = some opcode.toNat :=
    field_byte (l := front ++ data ++ [UInt8.ofNat data.length]) (r := rest)
      (by rw [himg]; simp [extEntry]) (by simp; omega)
  have hlen : field img (p - 1) 1 = some data.length := by
    rw [field_byte (l := front ++ data) (b := UInt8.ofNat data.length) (r := opcode :: rest)
      (by rw [himg]; simp [extEntry]) (by simp; omega), UInt8.toNat_ofNat', Nat.mod_eq_of_lt hshort]
  have hzero : opcode.toNat = 0 ↔ opcode = 0 :=
    ⟨fun h => UInt8.toNat_inj.1 h, fun h => by rw [h]; rfl⟩
  unfold projectIdPass
  rw [hopcode, hlen]
  simp only [hzero]
  by_cases hproj : opcode = 0 ∧ data.length = 1
  · rw [if_pos hproj, if_pos hproj]
    obtain ⟨x, rfl⟩ := List.length_eq_one_iff.1 hproj.2
    rw [field_byte (l := front) (b := x) (r := [1, opcode] ++ rest)
      (by rw [himg]; simp [extEntry]) (by simp at hp; omega)]
    rfl
  · rw [if_neg hproj, if_neg hproj]
    rcases List.eq_nil_or_concat front with rfl | ⟨init, b, rfl⟩
    · rw [if_pos rfl, field_neg (by simp at hp; omega)]
    · rw [List.concat_eq_append] at *
      rw [if_neg (by simp), field_byte (l := init) (b := b) (r := extEntry data opcode ++ rest)
        (by rw [himg]; simp) (by simp at hp; omega)]
      dsimp only
      have hff : b.toNat = 0xFF ↔ (init ++ [b]).getLast? = some 0xFF := by
        rw [List.getLast?_append, List.getLast?_singleton, Option.some_or, Option.some.injEq]
        exact ⟨fun h => UInt8.toNat_inj.1 h, fun h => by rw [h]; rfl⟩
      simp only [hff]
      by_cases hlast : (init ++ [b]).getLast? = some 0xFF
      · rw [if_pos hlast, if_pos hlast]
      · rw [if_neg hlast, if_neg hlast, hp]
        congr 1
        omega

/-- Where there is no entry, the walk leaves the image. -/
lemma projectIdPass_none (himg : img = bs ++ rest) {p : ℤ} (hp : p = bs.length - 1)
    (hbs : bs.length < 2 ∨ ∃ front l opcode, bs = front ++ [l, opcode] ∧ front.length < l.toNat) :
    projectIdPass img p = .inl none := by
  unfold projectIdPass
  rcases hbs with hshort | ⟨front, l, opcode, rfl, hlt⟩
  · rw [field_neg (o := p - 1) (by omega)]
    split
    · rename_i heq
      exact absurd heq (by simp)
    · rfl
  · simp only [List.length_append, List.length_cons, List.length_nil] at hp
    rw [field_byte (l := front ++ [l]) (b := opcode) (r := rest) (by rw [himg]; simp)
        (by simp; omega),
      field_byte (l := front) (b := l) (r := opcode :: rest) (by rw [himg]; simp)
        (by omega)]
    dsimp only
    split
    · rename_i hproj
      rw [field_neg (by omega)]
    · rw [field_neg (by omega)]

/-- The walk ends, with a project exactly if the string consists of entries. -/
lemma run_projectIdPass {t : List UInt8} {s : List UInt8} (himg : img = s ++ t)
    (hn : s.length < n) {p : ℤ}
    (hp : p = s.length - 1) :
    ∃ r, Loop.run (projectIdPass img) n p = some r ∧ ∀ d, r = some d ↔ ExtWalk s d := by
  induction n generalizing s t p with
  | zero => exact absurd hn (Nat.not_lt_zero _)
  | succ n ih =>
      rw [Loop.run]
      rcases exists_extEntry s with ⟨front, data, opcode, hshort, rfl⟩ | hnone
      · rw [projectIdPass_entry hshort himg hp]
        by_cases hproj : opcode = 0 ∧ data.length = 1
        · refine ⟨_, by rw [if_pos hproj], fun d => ?_⟩
          rw [extWalk_iff hshort, if_pos hproj]
          obtain ⟨x, rfl⟩ := List.length_eq_one_iff.1 hproj.2
          simp only [List.headD_cons, Option.some.injEq, List.cons.injEq, and_true]
          constructor
          · rintro rfl
            exact ⟨UInt8.ofNat_toNat.symm, x.toNat_lt⟩
          · rintro ⟨rfl, hd⟩
            rw [UInt8.toNat_ofNat', Nat.mod_eq_of_lt hd]
        · rw [if_neg hproj]
          by_cases hnil : front = []
          · refine ⟨_, by rw [if_pos hnil], fun d => ?_⟩
            rw [extWalk_iff hshort, if_neg hproj, hnil, if_neg (by simp)]
            refine iff_of_false (by simp) fun hwalk => ?_
            obtain ⟨f, g, o, -, heq⟩ := hwalk.exists_entry
            have := congrArg List.length heq
            rw [List.length_append, length_extEntry, List.length_nil] at this
            omega
          · rw [if_neg hnil]
            by_cases hlast : front.getLast? = some 0xFF
            · refine ⟨_, by rw [if_pos hlast], fun d => ?_⟩
              rw [extWalk_iff hshort, if_neg hproj, if_pos hlast, Option.some.injEq, eq_comm]
            · rw [if_neg hlast]
              rw [List.length_append, length_extEntry] at hn
              obtain ⟨r, hrun, hr⟩ := ih (s := front) (t := extEntry data opcode ++ t)
                (by rw [himg, List.append_assoc]) (by omega) rfl
              refine ⟨r, hrun, fun d => ?_⟩
              rw [hr, extWalk_iff hshort, if_neg hproj, if_neg hlast]
      · rw [projectIdPass_none himg hp hnone]
        refine ⟨_, rfl, fun d => iff_of_false (by simp) fun hwalk => ?_⟩
        obtain ⟨f, g, o, hg, rfl⟩ := hwalk.exists_entry
        rcases hnone with hshort | ⟨front, l, opcode, heq, hlt⟩
        · rw [List.length_append, length_extEntry] at hshort
          omega
        · -- The length byte is that of the entry.
          rw [extEntry, ← List.append_assoc] at heq
          obtain ⟨rfl, htail⟩ := List.append_inj' heq rfl
          have hl := (List.cons.inj htail).1
          rw [← hl, UInt8.toNat_ofNat', Nat.mod_eq_of_lt hg, List.length_append] at hlt
          omega

/-- `rtk_get_fw_project_id` ends, with a project exactly if the extension section can be walked. -/
lemma rtkGetFwProjectId_spec {l : List UInt8} (hlen : 4 ≤ l.length) :
    ∃ r, rtkGetFwProjectId l (l.length - 5) = some r ∧
      ∀ d, r = some d ↔ ExtWalk (l.take (l.length - 4)) d := by
  refine run_projectIdPass (t := l.drop (l.length - 4)) (List.take_append_drop ..).symm ?_ ?_
  · rw [List.length_take]
    omega
  · rw [List.length_take]
    omega

/-! ### The table of patches -/

variable {gEVersion i : ℕ}

/-- A pass of the loop. -/
lemma findPatch_succ (img : List UInt8) (gEVersion k i : ℕ) :
    findPatch img gEVersion (k + 1) i =
      if 14 + 2 * i + 2 ≤ img.length then
        if patchVersion img i = gEVersion + 1 then some (some i)
        else findPatch img gEVersion k (i + 1)
      else none := by
  rw [findPatch, field_eq (m := 14 + 2 * i) (by omega)]
  by_cases hlen : 14 + 2 * i + 2 ≤ img.length
  · rw [if_pos hlen, if_pos hlen]
    rfl
  · rw [if_neg hlen, if_neg hlen]
    rfl

/-- The loop finds the first patch for the ROM, where it comes so far. -/
lemma findPatch_eq : findPatch img gEVersion k i = (firstPatch img gEVersion i k).elim
    (if k = 0 ∨ 14 + 2 * (i + k) ≤ img.length then some none else none)
    fun m => if 14 + 2 * m + 2 ≤ img.length then some (some m) else none := by
  induction k generalizing i with
  | zero => rfl
  | succ k ih =>
      rw [findPatch_succ]
      by_cases hver : patchVersion img i = gEVersion + 1
      · have hfirst : firstPatch img gEVersion i (k + 1) = some i := by
          simp [firstPatch, List.range'_succ, hver]
        rw [hfirst, Option.elim_some, if_pos hver]
      · have hfirst : firstPatch img gEVersion i (k + 1) = firstPatch img gEVersion (i + 1) k := by
          simp [firstPatch, List.range'_succ, hver]
        rw [hfirst, if_neg hver, ih]
        by_cases hlen : 14 + 2 * i + 2 ≤ img.length
        · rw [if_pos hlen]
          congr 1
          exact if_congr (by omega) rfl rfl
        · rw [if_neg hlen]
          cases hnext : firstPatch img gEVersion (i + 1) k with
          | none => exact (if_neg (by omega)).symm
          | some m =>
              have hm := List.mem_range'_1.1 (List.mem_of_find?_eq_some hnext)
              exact (if_neg (by omega)).symm

/-- `rtk_get_patch_entry`, step by step. -/
lemma rtkGetPatchEntry_eq (h : 14 ≤ img.length) : rtkGetPatchEntry img gEVersion =
    match findPatch img gEVersion (leAt img 12 2) 0 with
    | none => none
    | some none => some ⟨0, 0⟩
    | some (some i) =>
        if 14 + 2 * leAt img 12 2 + 2 * i + 2 ≤ img.length ∧
            14 + 4 * leAt img 12 2 + 4 * i + 4 ≤ img.length ∧
            12 ≤ leAt img (14 + 4 * leAt img 12 2 + 4 * i) 4 +
              leAt img (14 + 2 * leAt img 12 2 + 2 * i) 2 ∧
            leAt img (14 + 4 * leAt img 12 2 + 4 * i) 4 +
              leAt img (14 + 2 * leAt img 12 2 + 2 * i) 2 ≤ img.length + 4 then
          some ⟨leAt img (14 + 2 * leAt img 12 2 + 2 * i) 2,
            leAt img (14 + 4 * leAt img 12 2 + 4 * i) 4⟩
        else none := by
  have hcount : field img 12 2 = some (leAt img 12 2) :=
    (field_eq (m := 12) rfl).trans (if_pos (by omega))
  have hversion : field img 8 4 = some (leAt img 8 4) :=
    (field_eq (m := 8) rfl).trans (if_pos (by omega))
  simp only [rtkGetPatchEntry, hcount, hversion, Option.bind_eq_bind, Option.bind_some]
  cases findPatch img gEVersion (leAt img 12 2) 0 with
  | none => rfl
  | some found =>
      cases found with
      | none => rfl
      | some i =>
          simp only [Option.bind_some]
          generalize leAt img 12 2 = n
          rw [field_eq (m := 14 + 2 * n + 2 * i) (by omega),
            field_eq (m := 14 + 4 * n + 4 * i) (by omega)]
          generalize hA : leAt img (14 + 2 * n + 2 * i) 2 = len
          generalize hB : leAt img (14 + 4 * n + 4 * i) 4 = start
          by_cases hlen : 14 + 2 * n + 2 * i + 2 ≤ img.length
          swap
          · rw [if_neg hlen]
            exact (if_neg fun hand => hlen hand.1).symm
          by_cases hstart : 14 + 4 * n + 4 * i + 4 ≤ img.length
          swap
          · rw [if_pos hlen, if_neg hstart]
            exact (if_neg fun hand => hstart hand.2.1).symm
          rw [if_pos hlen, if_pos hstart]
          simp only [Option.bind_some, field]
          split_ifs <;> first | rfl | omega

lemma rtkGetPatchEntry_of_short (h : img.length < 14) : rtkGetPatchEntry img gEVersion = none := by
  have hcount : field img 12 2 = none :=
    (field_eq (m := 12) rfl).trans (if_neg (by omega))
  simp only [rtkGetPatchEntry, hcount, Option.bind_eq_bind, Option.bind_none]

/-- The table is read inside the image, and where the patch is copied it lies inside too. -/
lemma patchFits_iff : PatchFits env img ↔
    ∃ entry, rtkGetPatchEntry img env.gEVersion = some entry ∧
      (entry.patchLength ≠ 0 → env.alloc = true →
        entry.startOffset + entry.patchLength ≤ img.length) := by
  by_cases h14 : 14 ≤ img.length
  swap
  · rw [rtkGetPatchEntry_of_short (by omega)]
    refine iff_of_false (fun h => h14 h.1) ?_
    rintro ⟨entry, hentry, -⟩
    exact absurd hentry (by simp)
  rw [rtkGetPatchEntry_eq h14, findPatch_eq, PatchFits, and_iff_right h14]
  cases hfirst : firstPatch img env.gEVersion 0 (leAt img 12 2) with
  | none =>
      dsimp only [Option.elim]
      by_cases hend : leAt img 12 2 = 0 ∨ 14 + 2 * (0 + leAt img 12 2) ≤ img.length
      · rw [if_pos hend]
        exact iff_of_true (by omega) ⟨_, rfl, fun hne => absurd rfl hne⟩
      · rw [if_neg hend]
        exact iff_of_false (by omega) (by simp)
  | some i =>
      have hi := List.mem_range'_1.1 (List.mem_of_find?_eq_some hfirst)
      dsimp only [Option.elim]
      by_cases hver : 14 + 2 * i + 2 ≤ img.length
      swap
      · rw [if_neg hver]
        exact iff_of_false (by omega) (by simp)
      rw [if_pos hver]
      dsimp only
      split_ifs with hfits
      · constructor
        · exact fun hand => ⟨_, rfl, hand.2.2.2⟩
        · rintro ⟨entry, hentry, hcopy⟩
          cases hentry
          exact ⟨hfits.2.1, hfits.2.2.1, hfits.2.2.2, hcopy⟩
      · refine iff_of_false (fun hand => hfits ⟨by omega, hand.1, hand.2.1, hand.2.2.1⟩) ?_
        simp

/-! ### The buffer -/

lemma length_overlay (buf : List Source) (off : ℤ) (n : ℕ) (src : ℕ → Source) :
    (overlay buf off n src).length = buf.length := List.length_mapIdx

lemma getElem?_overlay (buf : List Source) (off : ℤ) (n : ℕ) (src : ℕ → Source) (i : ℕ) :
    (overlay buf off n src)[i]? = buf[i]?.map fun s =>
      if off ≤ i ∧ (i : ℤ) < off + n then src (i - off).toNat else s := List.getElem?_mapIdx

/-- A byte of the buffer is overwritten or as before. -/
lemma mem_overlay {buf : List Source} {off : ℤ} {src : ℕ → Source} {s : Source}
    (h : s ∈ overlay buf off n src) : ∃ (i : ℕ) (s' : Source), buf[i]? = some s' ∧
      s = if off ≤ i ∧ (i : ℤ) < off + n then src (i - off).toNat else s' := by
  obtain ⟨i, hi⟩ := List.mem_iff_getElem?.1 h
  rw [getElem?_overlay] at hi
  obtain ⟨s', hs', rfl⟩ := Option.map_eq_some_iff.1 hi
  exact ⟨i, s', hs', rfl⟩

lemma copyPatch_safe_iff {entry : RtkEpatchEntry} (h12 : 12 ≤ img.length) :
    (copyPatch env img entry).Safe env img ↔ (entry.patchLength ≠ 0 → env.alloc = true →
      entry.startOffset + entry.patchLength ≤ img.length) := by
  unfold copyPatch
  dsimp only
  by_cases hzero : entry.patchLength = 0
  · rw [if_pos hzero]
    exact iff_of_true trivial fun hne => absurd hzero hne
  rw [if_neg hzero]
  cases env.alloc
  · exact iff_of_true trivial fun _ h => absurd h (by decide)
  by_cases hfits : entry.startOffset + entry.patchLength ≤ img.length
  swap
  · rw [if_pos rfl, if_neg fun hand => hfits hand.1]
    exact iff_of_false id fun h => hfits (h hzero rfl)
  rw [if_pos rfl, if_pos ⟨hfits, h12⟩]
  refine iff_of_true (fun s hs => ?_) fun _ _ => hfits
  obtain ⟨i, s', hs', rfl⟩ := mem_overlay hs
  have hi := (List.getElem?_eq_some_iff.1 hs').1
  rw [length_overlay, length_overlay, List.length_replicate] at hi
  split
  · show (_ : ℕ) < env.configLen
    omega
  · rw [getElem?_overlay, getElem?_overlay, List.getElem?_replicate, if_pos hi] at hs'
    simp only [Option.map_some, Option.some.injEq] at hs'
    rw [← hs']
    split
    · show (0 : ℤ) ≤ _ ∧ _ < (img.length : ℤ)
      omega
    · rw [if_pos (by omega)]
      show (0 : ℤ) ≤ _ ∧ _ < (img.length : ℤ)
      omega

lemma copyImage_safe : (copyImage env img).Safe env img := by
  unfold copyImage
  dsimp only
  split
  swap
  · exact trivial
  intro s hs
  obtain ⟨i, s', hs', rfl⟩ := mem_overlay hs
  have hi := (List.getElem?_eq_some_iff.1 hs').1
  rw [length_overlay, List.length_replicate] at hi
  split
  · show (_ : ℕ) < env.configLen
    omega
  · rw [getElem?_overlay, List.getElem?_replicate, if_pos hi] at hs'
    simp only [Option.map_some, Option.some.injEq] at hs'
    rw [← hs', if_pos (by omega)]
    show (0 : ℤ) ≤ _ ∧ _ < (img.length : ℤ)
    omega

/-! ### The nodes in the buffer -/

variable {nodes : List PatchNode} {buf : List Source} {t : ℕ}

lemma length_copyNodes (buf : List Source) (tmpLen : BitVec 32) (nodes : List PatchNode) :
    (copyNodes buf tmpLen nodes).length = buf.length := by
  induction nodes generalizing buf tmpLen with
  | nil => rfl
  | cons tmp rest ih => rw [copyNodes, ih, length_overlay]

/-- Below `2 ^ 31` the offset is what it says. -/
lemma toInt_ofNat (ht : t < 2 ^ 31) : (BitVec.ofNat 32 t).toInt = t := by
  rw [BitVec.toInt_ofNat']
  exact Int.bmod_eq_of_le (by omega) (by omega)

/-- Behind the nodes the buffer is as before. -/
lemma getElem?_copyNodes_behind (hi : t + (nodes.map (·.len)).sum ≤ i) (hlt : i < 2 ^ 31) :
    (copyNodes buf (BitVec.ofNat 32 t) nodes)[i]? = buf[i]? := by
  induction nodes generalizing buf t with
  | nil => rfl
  | cons tmp rest ih =>
      rw [List.map_cons, List.sum_cons] at hi
      rw [copyNodes, ← BitVec.ofNat_add, ih (by omega), getElem?_overlay, toInt_ofNat (by omega)]
      simp only [if_neg (show ¬ ((t : ℤ) ≤ i ∧ (i : ℤ) < t + tmp.len) by omega), Option.map_id']

/-- A byte that a node covers comes from inside the image, and so stays one that does. -/
lemma copyNodes_inside (hnodes : ∀ tmp ∈ nodes, tmp.payload + tmp.len ≤ img.length)
    (hlt : i < 2 ^ 31)
    (h : (∀ s, buf[i]? = some s → s.Inside env img) ∨ t ≤ i ∧ i < t + (nodes.map (·.len)).sum) :
    ∀ s, (copyNodes buf (BitVec.ofNat 32 t) nodes)[i]? = some s → s.Inside env img := by
  induction nodes generalizing buf t with
  | nil =>
      rcases h with h | h
      · exact h
      · simp only [List.map_nil, List.sum_nil] at h
        omega
  | cons tmp rest ih =>
      have htmp := hnodes tmp List.mem_cons_self
      rw [copyNodes, ← BitVec.ofNat_add]
      refine ih (fun tmp' h' => hnodes tmp' (List.mem_cons_of_mem _ h')) ?_
      rw [List.map_cons, List.sum_cons] at h
      by_cases hbehind : t ≤ i ∧ t + tmp.len ≤ i ∧ i < t + tmp.len + (rest.map (·.len)).sum
      · exact .inr ⟨hbehind.2.1, hbehind.2.2⟩
      refine .inl fun s hs => ?_
      rw [getElem?_overlay] at hs
      obtain ⟨s', hs', rfl⟩ := Option.map_eq_some_iff.1 hs
      split
      · show (0 : ℤ) ≤ _ ∧ _ < (img.length : ℤ)
        omega
      · rename_i hnot
        rcases h with h | h
        · exact h s' hs'
        · rw [toInt_ofNat (by omega)] at hnot
          omega

/-- The buffer for the sections is safe exactly if the copy fits. -/
lemma copySections_safe_iff {es : List PatchEntry} {whole : Bool} {hdr : PatchHeader}
    (h : Yields env.toRom img ⟨[], 0, false⟩ es whole hdr) :
    (copySections env img hdr).Safe env img ↔ CopyFits env img es whole := by
  obtain ⟨list', hgains, rfl⟩ := h
  have hperm : list'.nodes.Perm (selected env.toRom img es) := hgains.nodes
  have hlen : (if whole then some list'.patchLen else none).getD
      (BitVec.ofNat 32 (img.length + env.configLen)) = BitVec.ofNat 32
        (if whole then announced env.toRom img es else img.length + env.configLen) := by
    rw [hgains.patchLen]
    cases whole
    · rfl
    · exact BitVec.zero_add _
  have hsum : (list'.nodes.map (·.len)).sum =
      ((es.filter (·.Taken env.toRom img)).map (·.len img)).sum := by
    rw [(hperm.map _).sum_eq, selected, List.map_map]
    rfl
  have hinside : (∀ tmp ∈ list'.nodes, tmp.payload + tmp.len ≤ img.length) ↔
      ∀ e ∈ es, e.Taken env.toRom img → e.pos + 8 + e.len img ≤ img.length := by
    simp only [hperm.mem_iff, selected, List.forall_mem_map, List.mem_filter, decide_eq_true_eq,
      and_imp]
    rfl
  unfold copySections CopyFits
  rw [hlen]
  generalize BitVec.ofNat 32
    (if whole then announced env.toRom img es else img.length + env.configLen) = len
  dsimp only
  by_cases hzero : len = 0
  · rw [if_pos hzero]
    exact iff_of_true trivial (.inl hzero)
  rw [if_neg hzero, or_iff_right hzero]
  have hbound : (len + BitVec.ofNat 32 env.configLen).toInt < 2 ^ 31 := BitVec.toInt_lt
  generalize (len + BitVec.ofNat 32 env.configLen).toInt = bufLen at hbound ⊢
  by_cases hneg : bufLen < 0
  · rw [if_neg (by omega)]
    exact iff_of_true trivial (.inl hneg)
  by_cases halloc : env.alloc = false
  · rw [if_neg (by simp [halloc])]
    exact iff_of_true trivial (.inr (.inl halloc))
  rw [if_pos ⟨by omega, Bool.of_not_eq_false halloc⟩, or_iff_right hneg, or_iff_right halloc,
    ← hinside, ← hsum]
  by_cases hall : ∀ tmp ∈ list'.nodes, tmp.payload + tmp.len ≤ img.length
  swap
  · rw [if_neg hall]
    exact iff_of_false id fun hand => hall hand.1
  rw [if_pos hall, and_iff_right hall]
  by_cases hempty : bufLen = 0
  · rw [if_pos hempty]
    exact iff_of_true trivial (by omega)
  rw [if_neg hempty]
  constructor
  · -- A byte between the nodes and the configuration is zero.
    intro hsafe
    by_contra hgap
    refine hsafe .zero (List.mem_iff_getElem?.2 ⟨(list'.nodes.map (·.len)).sum, ?_⟩)
    rw [getElem?_overlay, show (0 : BitVec 32) = BitVec.ofNat 32 0 from rfl,
      getElem?_copyNodes_behind (by omega) (by omega), List.getElem?_replicate,
      if_pos (by omega), Option.map_some, if_neg (by omega)]
  · intro hfull s hs
    obtain ⟨i, s', hs', rfl⟩ := mem_overlay hs
    have hi := (List.getElem?_eq_some_iff.1 hs').1
    rw [length_copyNodes, List.length_replicate] at hi
    split
    · show (_ : ℕ) < env.configLen
      omega
    · exact copyNodes_inside (t := 0) hall (by omega) (.inr ⟨by omega, by omega⟩) s' hs'

/-! ### The whole -/

/-- The two signatures do not overlap. -/
lemma Signed.length_le (h : Signed img) : 12 ≤ img.length := by
  obtain ⟨hstart, hend⟩ := h
  have hlen8 : 8 ≤ img.length := by
    have hlen : (img.take 8).length = 8 := by rcases hstart with h | h <;> rw [h] <;> rfl
    rw [List.length_take] at hlen
    omega
  by_contra hshort
  have hhead : img[img.length - 4]? = some 0x51 := by
    have := congrArg List.head? hend
    rwa [List.head?_drop] at this
  have htake : (img.take 8)[img.length - 4]? = some 0x51 := by
    rw [List.getElem?_take_of_lt (by omega), hhead]
  obtain hk | hk | hk | hk : img.length - 4 = 4 ∨ img.length - 4 = 5 ∨ img.length - 4 = 6 ∨
      img.length - 4 = 7 := by omega
  all_goals
    rw [hk] at htake
    rcases hstart with h | h <;> rw [h] at htake <;> exact absurd htake (by decide)

lemma loadSafe_iff_of_eq {o : Outcome} (h : ∀ k, loadFirmware env img k = some o) :
    LoadSafe env img ↔ o.Safe env img := by
  constructor
  · rintro ⟨k, o', ho', hsafe⟩
    rw [h] at ho'
    exact Option.some.inj ho' ▸ hsafe
  · exact fun hsafe => ⟨0, o, h 0, hsafe⟩

/-- In the new style the loading is safe exactly if the sections can be read and copied. -/
lemma loadSafe_iff_sections (h : ∀ k, loadFirmware env img k =
    (rtbGetPatchHeader k img env.toRom).map fun hdr => hdr.elim .fault (copySections env img)) :
    LoadSafe env img ↔ SectionsCopied env img := by
  unfold LoadSafe SectionsCopied
  simp only [h, rtbGetPatchHeader]
  by_cases hlen : 20 ≤ img.length
  swap
  · have hfield : field img 16 4 = none := field_outside (m := 16) rfl (by omega)
    rw [hfield]
    refine iff_of_false ?_ fun hand => hlen hand.1
    rintro ⟨k, o, ho, hsafe⟩
    cases ho
    exact hsafe
  have hfield : field img 16 4 = some (leAt img 16 4) := field_inside (m := 16) rfl hlen
  rw [hfield, and_iff_right hlen]
  constructor
  · rintro ⟨k, o, ho, hsafe⟩
    obtain ⟨hdr, hrun, rfl⟩ := Option.map_eq_some_iff.1 ho
    cases hdr with
    | none => exact hsafe.elim
    | some hdr =>
        obtain ⟨es, whole, hfit, hyields⟩ := sectionsFit_of_run hrun
        exact ⟨es, whole, hfit, (copySections_safe_iff hyields).1 hsafe⟩
  · rintro ⟨es, whole, hfit, hcopy⟩
    obtain ⟨hdr, hyields, k, hrun⟩ := hfit.exists_run ⟨[], 0, false⟩ 0
    exact ⟨k, _, Option.map_eq_some_iff.2 ⟨some hdr, hrun, rfl⟩,
      (copySections_safe_iff hyields).2 hcopy⟩

/-- The loading of an image with both signatures is safe exactly under the condition. -/
theorem loadFirmware_safe_iff (h : Signed img) : LoadSafe env img ↔ LoadFits env img := by
  have h12 := h.length_le
  unfold LoadFits
  by_cases hlmp : env.lmpVersion = romLmp8723a
  · rw [loadSafe_iff_of_eq fun k => by rw [loadFirmware, if_pos hlmp]]
    refine iff_of_true ?_ (.inl hlmp)
    split
    · trivial
    · exact copyImage_safe
  rw [or_iff_right hlmp]
  by_cases hver : env.gEVersion = 0xFE
  · rw [loadSafe_iff_of_eq fun k => by rw [loadFirmware, if_neg hlmp, if_pos hver]]
    exact iff_of_true trivial (.inl hver)
  rw [or_iff_right hver]
  have hsigned : ¬ ((img.take 8 ≠ rtkEpatchSignature ∧ img.take 8 ≠ rtkEpatchSignatureNew) ∨
      img.drop (img.length - 4) ≠ extensionSectionSignature) := by
    rintro (⟨hold, hnew⟩ | hend)
    · exact h.1.elim hold hnew
    · exact hend h.2
  obtain ⟨r, hrun, hwalk⟩ := rtkGetFwProjectId_spec (l := img) (by omega)
  cases hr : r.bind (projectId[·]?) with
  | none =>
      rw [loadSafe_iff_of_eq fun k => by
        rw [loadFirmware, if_neg hlmp, if_neg hver, if_neg hsigned, hrun, Option.bind_some, hr]]
      refine iff_of_false id ?_
      rintro ⟨d, hd, hlt, -⟩
      rw [(hwalk d).2 hd, Option.bind_some, List.getElem?_eq_getElem hlt] at hr
      cases hr
  | some project =>
      obtain ⟨d, rfl, hget⟩ := Option.bind_eq_some_iff.1 hr
      obtain ⟨hlt, -⟩ := List.getElem?_eq_some_iff.1 hget
      have hproject : projectId.getD d 0 = project := by
        rw [List.getD_eq_getElem?_getD, hget, Option.getD_some]
      have hfits (P : Prop) : (∃ d', ExtWalk (img.take (img.length - 4)) d' ∧
          d' < projectId.length ∧ (projectId.getD d' 0 = env.lmpVersion → P)) ↔
          (project = env.lmpVersion → P) := by
        constructor
        · rintro ⟨d', hd', -, hP⟩
          obtain rfl : d = d' := Option.some.inj ((hwalk d').2 hd')
          rwa [hproject] at hP
        · exact fun hP => ⟨d, (hwalk d).1 rfl, hlt, by rwa [hproject]⟩
      rw [hfits]
      by_cases hother : env.lmpVersion = project
      swap
      · rw [loadSafe_iff_of_eq fun k => by
          rw [loadFirmware, if_neg hlmp, if_neg hver, if_neg hsigned, hrun, Option.bind_some, hr]
          exact if_pos hother]
        exact iff_of_true trivial fun heq => absurd heq.symm hother
      rw [forall_prop_of_true hother.symm]
      by_cases hnew : img.take 8 = rtkEpatchSignatureNew
      · rw [loadSafe_iff_sections fun k => by
          rw [loadFirmware, if_neg hlmp, if_neg hver, if_neg hsigned, hrun, Option.bind_some, hr]
          exact (if_neg (not_not.2 hother)).trans (if_pos hnew), hnew]
        rw [forall_prop_of_true rfl, and_iff_right fun hold => absurd hold (by decide)]
      have hold := h.1.resolve_right hnew
      rw [loadSafe_iff_of_eq fun k => by
        rw [loadFirmware, if_neg hlmp, if_neg hver, if_neg hsigned, hrun, Option.bind_some, hr]
        exact (if_neg (not_not.2 hother)).trans (if_neg hnew),
        and_iff_left fun heq => absurd heq hnew, forall_prop_of_true hold, patchFits_iff]
      cases hentry : rtkGetPatchEntry img env.gEVersion with
      | none => exact iff_of_false id (by simp)
      | some entry =>
          refine (copyPatch_safe_iff h12).trans ⟨fun hcopy => ⟨entry, rfl, hcopy⟩, ?_⟩
          rintro ⟨entry', hentry', hcopy⟩
          cases hentry'
          exact hcopy

/-- An image of the two signatures only: the length byte of the last entry is the seventh byte of
the first signature, and the walk leaves the image. -/
theorem loadFirmware_leaves_image :
    let img := rtkEpatchSignature ++ extensionSectionSignature
    let env : LoadEnv := ⟨⟨0, 0⟩, 0x8723, 0, true⟩
    Signed img ∧ rtkGetFwProjectId img 7 = some none ∧
      (∀ k, loadFirmware env img k = some .fault) ∧ ¬ LoadSafe env img := by
  intro img env
  have hfault : ∀ k, loadFirmware env img k = some .fault := fun k => rfl
  refine ⟨⟨.inl rfl, rfl⟩, by decide, hfault, ?_⟩
  rintro ⟨k, o, ho, hsafe⟩
  rw [hfault] at ho
  cases ho
  exact hsafe

/-- A patch of twelve bytes for the first version of an 8723D in the old style, and a snippet of two
bytes in the new style. -/
theorem loadFirmware_safe_iff_onePatch :
    let old := rtkEpatchSignature ++ [1, 0, 0, 0, 1, 0, 1, 0, 12, 0, 22, 0, 0, 0] ++
      List.replicate 12 7 ++ [9, 1, 0] ++ extensionSectionSignature
    let new := rtkEpatchSignatureNew ++ List.replicate 8 1 ++ [1, 0, 0, 0, 1, 0, 0, 0] ++
      [14, 0, 0, 0, 1, 0, 0, 0, 1, 5, 0, 0, 2, 0, 0, 0, 7, 7, 9, 1, 0] ++ extensionSectionSignature
    LoadSafe ⟨⟨0, 0⟩, 0x8723, 2, true⟩ old ∧ LoadSafe ⟨⟨0, 0⟩, 0x8723, 2, true⟩ new := by
  intro old new
  constructor
  · refine (loadFirmware_safe_iff ⟨.inl rfl, rfl⟩).2 (.inr (.inr ⟨9, ?_, by decide, fun _ =>
      ⟨fun _ => ?_, fun h => absurd h (by decide)⟩⟩))
    · exact .project (old.take 34) 9
    · have hfirst : firstPatch old 0 0 1 = some 0 := by decide
      refine ⟨by decide, ?_⟩
      dsimp only
      rw [show leAt old 12 2 = 1 by decide, hfirst]
      exact ⟨by decide, by decide, by decide, fun _ _ => by decide⟩
  · refine (loadFirmware_safe_iff ⟨.inr rfl, rfl⟩).2 (.inr (.inr ⟨9, ?_, by decide, fun _ =>
      ⟨fun h => absurd h (by decide), fun _ => ?_⟩⟩))
    · exact .project (new.take 42) 9
    · have hfit : SectionsFit ⟨0, 0⟩ new (leAt new 16 4) 0 20 (entered ⟨0, 0⟩ new 20 ++ []) true :=
        .next (by decide) (by decide) (.inl (by decide)) ⟨fun _ => ⟨by decide, by decide⟩,
          fun h => absurd h (by decide)⟩ (fun h => absurd h.1 (by decide)) (.last (by decide))
      exact ⟨by decide, _, true, hfit, .inr (.inr (.inr ⟨by decide, by decide⟩))⟩

end Rtl8723du.Bt
