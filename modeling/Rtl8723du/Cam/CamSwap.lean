import Mathlib.Logic.Equiv.Basic
import Rtl8723du.Cam.CamRun

/-!
# Moving keys in the security CAM

`rtw_sec_cam_swap` exchanges two slots of the CAM: it saves what the cache says of them, clears both
and writes each one's entry to the other slot.  `rtw_clean_dk_section` moves the keys in the first
four slots, where the hardware looks for default keys, to free slots behind them.  Beside the
entries of `cam_cache` the model has the keys in them and the contents of the hardware.
-/

namespace Rtl8723du

open Function

/-! ### The code -/

/-- The key in a slot. -/
abbrev SecCamKey := Vector UInt8 16

/-- What a slot holds: `sec_cam_ent` with its key. -/
abbrev SecCamSlot := SecCamEnt × SecCamKey

/-- A slot that was cleared. -/
def SecCamSlot.zero : SecCamSlot := (.zero, Vector.replicate 16 0)

/-- `rtw_camid_set`. -/
def rtwCamidSet (c : CamCtl) (camId : ℕ) : CamCtl :=
  if camId < c.num then { c with used := rtwSecCamMapSet c.used camId } else c

/-- The CAM: `cam_ctl` and `cam_cache`, the keys of the cache, and the slots of the hardware. -/
structure SecCam where
  ctl : CamCtl
  cacheKey : ℕ → SecCamKey
  hw : ℕ → SecCamSlot

namespace SecCam

/-- The bit of the slot in `used`, within `num`. -/
def isUsed (s : SecCam) (id : ℕ) : Bool := rtwSecCamidIsUsed s.ctl id

/-- The entry of the slot in `cam_cache`. -/
def cache (s : SecCam) (id : ℕ) : SecCamSlot := (s.ctl.camCache id, s.cacheKey id)

/-- `_write_cam`; nothing when it writes outside of `cam_cache`. -/
def writeSlot (s : SecCam) (id : ℕ) (slot : SecCamSlot) : Option SecCam :=
  if secCamEntNumSwLimit ≤ id then none
  else some {
    ctl := writeCamCache s.ctl id slot.1
    cacheKey := update s.cacheKey id slot.2
    hw := update s.hw id slot }

/-- `write_cam`; `more` is what follows the 16 bytes of the key, nothing when that is outside. -/
def writeCam (s : SecCam) (id : ℕ) (ctrl : BitVec 16) (mac : MacAddr) (key : SecCamKey)
    (more : Option SecCamKey) : Option SecCam :=
  if ctrl.getLsbD 9 then
    (s.writeSlot id (⟨ctrl, mac⟩, key)).bind fun s =>
      more.bind fun key => s.writeSlot (id + 1) (⟨ctrl ||| 0x20#16, mac⟩, key)
  else s.writeSlot id (⟨ctrl, mac⟩, key)

/-- `rtw_camid_free` and `clear_cam_entry`. -/
def clean (s : SecCam) (id : ℕ) : SecCam where
  ctl := clearCamEntry (rtwCamidFree s.ctl id) id
  cacheKey := update s.cacheKey id SecCamSlot.zero.2
  hw := update s.hw id .zero

/-- A saved entry is written to a slot; a `sec_cam_ent` ends with its key. -/
def putBack (s : SecCam) (id : ℕ) (saved : SecCamSlot) : Option SecCam :=
  (s.writeCam id saved.1.ctrl saved.1.mac saved.2 none).map fun s =>
    { s with ctl := rtwCamidSet s.ctl id }

/-- `rtw_sec_cam_swap`; nothing when it reads or writes outside of an entry or of the cache. -/
def swap (s : SecCam) (a b : ℕ) : Option SecCam :=
  if a = b then some s
  else
    let camAUsed := s.isUsed a
    let camBUsed := s.isUsed b
    let cacheA := s.cache a
    let cacheB := s.cache b
    let s := if camAUsed then s.clean a else s
    let s := if camBUsed then s.clean b else s
    (if camAUsed then s.putBack b cacheA else some s).bind fun s =>
      if camBUsed then s.putBack a cacheB else some s

/-- `rtw_get_empty_cam_entry`. -/
def getEmpty (s : SecCam) (start : ℕ) : Option ℕ :=
  (List.range' start (s.ctl.num - start)).find? fun i => !s.isUsed i

/-- A pass of the loop of `rtw_clean_dk_section`. -/
def cleanDkPass (s : SecCam) (i : ℕ) : Option SecCam :=
  if s.isUsed i then
    match s.getEmpty 4 with
    | some ept => if 0 < ept then s.swap i ept else some s
    | none => some s
  else some s

/-- `rtw_clean_dk_section`. -/
def cleanDkSection (s : SecCam) : Option SecCam := (List.range 4).foldlM cleanDkPass s

/-! ### What they are for -/

/-- The key in the slot takes the next one too. -/
def isExt (s : SecCam) (x : ℕ) : Bool := (s.ctl.camCache x).ctrl.getLsbD 9

/-- The slot is the second one, before or after, of one of the two keys. -/
def Second (s : SecCam) (a b x : ℕ) : Prop :=
  ((s.isUsed a ∧ s.isExt a) ∨ (s.isUsed b ∧ s.isExt b)) ∧ (x = a + 1 ∨ x = b + 1)

/-- There is nothing in the slot, in the cache and in the hardware. -/
def Blank (s : SecCam) (x : ℕ) : Prop := s.cache x = .zero ∧ s.hw x = .zero

/-- The keys in two slots are exchanged, each with its second slot, and no others; a slot that a
key has left is blank. -/
structure Swapped (s s' : SecCam) (a b : ℕ) : Prop where
  num : s'.ctl.num = s.ctl.num
  used : ∀ x, ¬ s.Second a b x → s'.isUsed x = s.isUsed (Equiv.swap a b x)
  moved : ∀ x, (x = a ∨ x = b) → s.isUsed x → a ≠ b →
    s'.cache (Equiv.swap a b x) = s.cache x ∧ s'.hw (Equiv.swap a b x) = s.cache x
  second : ∀ x, (x = a ∨ x = b) → s.isUsed x → s.isExt x → a ≠ b →
    s'.isUsed (Equiv.swap a b x + 1) ∧ s'.cache (Equiv.swap a b x + 1) = s.cache (x + 1) ∧
      s'.hw (Equiv.swap a b x + 1) = s.cache (x + 1)
  emptied : ∀ x, (x = a ∨ x = b) → s.isUsed x → s.isUsed (Equiv.swap a b x) = false →
    ¬ s.Second a b x → s'.Blank x
  -- the second slot of a key, unless one of the keys is there now
  secondEmptied : ∀ x, (x = a ∨ x = b) → s.isUsed x → s.isExt x → a ≠ b →
    x + 1 ≠ Equiv.swap a b x → ¬ (s.isUsed (Equiv.swap a b x) ∧ s.isExt (Equiv.swap a b x)) →
      s'.isUsed (x + 1) = false ∧ s'.Blank (x + 1)
  idle : ∀ x, (x = a ∨ x = b) → s.isUsed a = false → s.isUsed b = false →
    s'.cache x = s.cache x ∧ s'.hw x = s.hw x
  others : ∀ x, x ≠ a → x ≠ b → ¬ s.Second a b x → s'.cache x = s.cache x ∧ s'.hw x = s.hw x

/-- Every key is where `σ` says, in the cache and in the hardware, and no other slot is in use; one
that is no longer in use is blank. -/
structure Kept (s s' : SecCam) (σ : Equiv.Perm ℕ) : Prop where
  num : s'.ctl.num = s.ctl.num
  used : ∀ x, s'.isUsed (σ x) = s.isUsed x
  cache : ∀ x, s.isUsed x → s'.cache (σ x) = s.cache x
  hw : ∀ x, s.isUsed x → s'.hw (σ x) = s.cache x ∨ σ x = x ∧ s'.hw x = s.hw x
  unused : ∀ x, s'.isUsed x = false →
    s'.Blank x ∨ s.isUsed x = false ∧ s'.cache x = s.cache x ∧ s'.hw x = s.hw x

/-- The number of free slots behind the section of default keys. -/
def freeBehind (s : SecCam) : ℕ := (List.range' 4 (s.ctl.num - 4)).countP fun x => !s.isUsed x

/-- `rtw_sec_cam_swap` exchanges the keys. -/
def SwapOk (s : SecCam) (a b : ℕ) : Prop := ∃ s', s.swap a b = some s' ∧ s.Swapped s' a b

/-- `rtw_clean_dk_section` loses no key, and leaves none in the section if there is room. -/
def CleanOk (s : SecCam) : Prop :=
  ∃ s', s.cleanDkSection = some s' ∧ (∃ σ, s.Kept s' σ) ∧
    ((List.range 4).countP s.isUsed ≤ s.freeBehind →
      ∀ i < 4, s'.isUsed i = false ∧ (s.isUsed i → s'.Blank i))

/-! ### When they do it -/

/-- The keys in the two slots, if they are not the same, take one slot each. -/
def SwapFine (s : SecCam) (a b : ℕ) : Prop :=
  a ≠ b → (s.isUsed a → s.isExt a = false) ∧ (s.isUsed b → s.isExt b = false)

/-- The keys of the section that there is room for behind it take one slot each. -/
def CleanFine (s : SecCam) : Prop :=
  ∀ i < 4, s.isUsed i → (List.range i).countP s.isUsed < s.freeBehind → s.isExt i = false

/-! ### One slot -/

variable {s s' t : SecCam} {a b x id i : ℕ} {slot : SecCamSlot}

lemma isUsed_eq (s : SecCam) (x : ℕ) :
    s.isUsed x = (decide (x < s.ctl.num) && s.ctl.used.getLsbD x) :=
  rtwSecCamidIsUsed_eq s.ctl x

lemma lt_num_of_isUsed (h : s.isUsed x = true) : x < s.ctl.num := by
  rw [isUsed_eq, Bool.and_eq_true, decide_eq_true_eq] at h
  exact h.1

@[simp] lemma num_clean (s : SecCam) (id : ℕ) : (s.clean id).ctl.num = s.ctl.num := by
  show (rtwCamidFree s.ctl id).num = _
  rw [rtwCamidFree]
  split <;> rfl

@[simp] lemma isUsed_clean (s : SecCam) (id x : ℕ) :
    (s.clean id).isUsed x = (s.isUsed x && decide (x ≠ id)) := by
  rw [isUsed_eq, isUsed_eq, num_clean]
  show (_ && (rtwCamidFree s.ctl id).used.getLsbD x) = _
  rw [rtwCamidFree]
  split
  · show (_ && (rtwSecCamMapClr s.ctl.used id).getLsbD x) = _
    rw [getLsbD_rtwSecCamMapClr, Bool.and_assoc]
  · next hout =>
      by_cases hx : x = id
      · subst hx
        simp [hout]
      · simp [hx]

@[simp] lemma cache_clean (s : SecCam) (id : ℕ) : (s.clean id).cache = update s.cache id .zero := by
  funext x
  have hcache : (s.clean id).ctl.camCache = update s.ctl.camCache id .zero := by
    show update (rtwCamidFree s.ctl id).camCache id .zero = _
    rw [rtwCamidFree]
    split <;> rfl
  have hkey : (s.clean id).cacheKey = update s.cacheKey id SecCamSlot.zero.2 := rfl
  rw [cache, hcache, hkey]
  by_cases hx : x = id
  · subst hx
    simp [SecCamSlot.zero]
  · simp [cache, hx]

@[simp] lemma hw_clean (s : SecCam) (id : ℕ) : (s.clean id).hw = update s.hw id .zero := rfl

/-- The slot is taken, and holds this. -/
def put (s : SecCam) (id : ℕ) (slot : SecCamSlot) : SecCam where
  ctl := rtwCamidSet (writeCamCache s.ctl id slot.1) id
  cacheKey := update s.cacheKey id slot.2
  hw := update s.hw id slot

lemma putBack_eq (slot : SecCamSlot) (hid : id < s.ctl.num) (hext : slot.1.ctrl.getLsbD 9 = false) :
    s.putBack id slot = some (s.put id slot) := by
  have hlt : ¬ secCamEntNumSwLimit ≤ id := Nat.not_le.2 (lt_of_lt_of_le hid s.ctl.num_le)
  rw [putBack, writeCam, if_neg (by rw [hext]; decide), writeSlot, if_neg hlt]
  rfl

/-- The second half of a key of two slots is read behind the entry. -/
lemma putBack_of_ext (slot : SecCamSlot) (hext : slot.1.ctrl.getLsbD 9 = true) :
    s.putBack id slot = none := by
  rw [putBack, writeCam, if_pos hext]
  rcases s.writeSlot id (⟨slot.1.ctrl, slot.1.mac⟩, slot.2) with _ | s' <;> rfl

@[simp] lemma num_put (s : SecCam) (id : ℕ) (slot : SecCamSlot) :
    (s.put id slot).ctl.num = s.ctl.num := by
  show (rtwCamidSet (writeCamCache s.ctl id slot.1) id).num = _
  rw [rtwCamidSet]
  split <;> rfl

@[simp] lemma cache_put (s : SecCam) (id : ℕ) (slot : SecCamSlot) :
    (s.put id slot).cache = update s.cache id slot := by
  funext x
  have hcache : (s.put id slot).ctl.camCache = update s.ctl.camCache id slot.1 := by
    show (rtwCamidSet (writeCamCache s.ctl id slot.1) id).camCache = _
    rw [rtwCamidSet]
    split <;> rfl
  have hkey : (s.put id slot).cacheKey = update s.cacheKey id slot.2 := rfl
  rw [cache, hcache, hkey]
  by_cases hx : x = id
  · subst hx
    simp
  · simp [cache, hx]

@[simp] lemma hw_put (s : SecCam) (id : ℕ) (slot : SecCamSlot) :
    (s.put id slot).hw = update s.hw id slot := rfl

lemma isUsed_put (hid : id < s.ctl.num) (slot : SecCamSlot) (x : ℕ) :
    (s.put id slot).isUsed x = (s.isUsed x || decide (x = id)) := by
  have hused : (s.put id slot).ctl.used = rtwSecCamMapSet s.ctl.used id := by
    show (rtwCamidSet (writeCamCache s.ctl id slot.1) id).used = _
    rw [rtwCamidSet, if_pos (show id < (writeCamCache s.ctl id slot.1).num from hid)]
    rfl
  have h32 := s.ctl.num_le
  rw [isUsed_eq, isUsed_eq, num_put, hused, getLsbD_rtwSecCamMapSet]
  by_cases hx : x = id
  · subst hx
    simp [hid, lt_of_lt_of_le hid h32]
  · simp [hx]

/-! ### Two slots -/

/-- The first of two slots is in use, the second is not. -/
lemma swap_of_left (hne : a ≠ b) (ha : s.isUsed a = true) (hb : s.isUsed b = false) :
    s.swap a b = (s.clean a).putBack b (s.cache a) := by
  simp [swap, hne, ha, hb]

lemma swap_of_right (hne : a ≠ b) (ha : s.isUsed a = false) (hb : s.isUsed b = true) :
    s.swap a b = (s.clean b).putBack a (s.cache b) := by
  simp [swap, hne, ha, hb]

lemma swap_of_both (hne : a ≠ b) (ha : s.isUsed a = true) (hb : s.isUsed b = true) :
    s.swap a b = (((s.clean a).clean b).putBack b (s.cache a)).bind fun s' =>
      s'.putBack a (s.cache b) := by
  simp [swap, hne, ha, hb]

lemma swap_of_none (ha : s.isUsed a = false) (hb : s.isUsed b = false) :
    s.swap a b = some s := by
  simp [swap, ha, hb]

lemma putBack_cache_of_ext (h : s.isExt x = true) : t.putBack id (s.cache x) = none :=
  putBack_of_ext (s.cache x) h

lemma putBack_cache (hid : id < t.ctl.num) (h : s.isExt x = false) :
    t.putBack id (s.cache x) = some (t.put id (s.cache x)) :=
  putBack_eq (s.cache x) hid h

/-- A key of two slots is not exchanged. -/
lemma swap_of_ext (hne : a ≠ b) (h : s.isUsed a = true ∧ s.isExt a = true ∨
    s.isUsed b = true ∧ s.isExt b = true) : s.swap a b = none := by
  cases ha : s.isUsed a <;> cases hb : s.isUsed b <;> simp only [ha, hb, Bool.false_eq_true,
    false_and, true_and, or_false, false_or] at h
  · rw [swap_of_right hne ha hb, putBack_cache_of_ext h]
  · rw [swap_of_left hne ha hb, putBack_cache_of_ext h]
  · rw [swap_of_both hne ha hb]
    rcases h with h | h
    · rw [putBack_cache_of_ext h]
      rfl
    · rcases ((s.clean a).clean b).putBack b (s.cache a) with _ | s'
      · rfl
      · exact putBack_cache_of_ext h

lemma swapped_self (s : SecCam) (a : ℕ) : s.Swapped s a a where
  num := rfl
  used := by
    intro x _
    rw [Equiv.swap_self, Equiv.refl_apply]
  moved := fun _ _ _ hne => (hne rfl).elim
  second := fun _ _ _ _ hne => (hne rfl).elim
  emptied := by
    intro x hx hux hfree _
    rw [Equiv.swap_self, Equiv.refl_apply, hux] at hfree
    cases hfree
  secondEmptied := fun _ _ _ _ hne => (hne rfl).elim
  idle := fun _ _ _ _ => ⟨rfl, rfl⟩
  others := fun _ _ _ _ => ⟨rfl, rfl⟩

/-- The used slots are changed as the keys are. -/
lemma Swapped.of_one (hone : ∀ x, (x = a ∨ x = b) → s.isUsed x = true → s.isExt x = false)
    (hnum : s'.ctl.num = s.ctl.num) (hused : ∀ x, s'.isUsed x = s.isUsed (Equiv.swap a b x))
    (hcache : ∀ x, (x = a ∨ x = b) → s.isUsed x = true → a ≠ b →
      s'.cache (Equiv.swap a b x) = s.cache x ∧ s'.hw (Equiv.swap a b x) = s.cache x)
    (hemptied : ∀ x, (x = a ∨ x = b) → s.isUsed x = true → s.isUsed (Equiv.swap a b x) = false →
      s'.Blank x)
    (hidle : ∀ x, (x = a ∨ x = b) → s.isUsed a = false → s.isUsed b = false →
      s'.cache x = s.cache x ∧ s'.hw x = s.hw x)
    (hothers : ∀ x, x ≠ a → x ≠ b → s'.cache x = s.cache x ∧ s'.hw x = s.hw x) :
    s.Swapped s' a b where
  num := hnum
  used := fun x _ => hused x
  moved := hcache
  second := by
    intro x hx hux hext
    rw [hone x hx hux] at hext
    cases hext
  emptied := fun x hx hux hfree _ => hemptied x hx hux hfree
  secondEmptied := by
    intro x hx hux hext
    rw [hone x hx hux] at hext
    cases hext
  idle := hidle
  others := fun x ha hb _ => hothers x ha hb

/-- A key of one slot goes to a free slot. -/
lemma swapped_left (hne : a ≠ b) (hb : b < s.ctl.num) (hua : s.isUsed a = true)
    (hub : s.isUsed b = false) (hext : s.isExt a = false) :
    ∃ s', (s.clean a).putBack b (s.cache a) = some s' ∧ s.Swapped s' a b := by
  have hb' : b < (s.clean a).ctl.num := by rwa [num_clean]
  refine ⟨_, putBack_cache hb' hext, Swapped.of_one ?_ ?_ ?_ ?_ ?_ ?_ ?_⟩
  · rintro x (rfl | rfl) hx
    · exact hext
    · rw [hub] at hx
      cases hx
  · simp
  · intro x
    rw [isUsed_put hb', isUsed_clean]
    by_cases hxa : x = a
    · subst hxa
      simp [hub, hne]
    · by_cases hxb : x = b
      · subst hxb
        simp [hua]
      · simp [hxa, hxb, Equiv.swap_apply_of_ne_of_ne]
  · rintro x (rfl | rfl) hx -
    · simp
    · rw [hub] at hx
      cases hx
  · rintro x (rfl | rfl) hx -
    · simp [Blank, hne]
    · rw [hub] at hx
      cases hx
  · rintro x - hfree -
    rw [hua] at hfree
    cases hfree
  · intro x hxa hxb
    simp [hxa, hxb]

lemma Swapped.symm (h : s.Swapped s' b a) : s.Swapped s' a b := by
  have hsecond : ∀ x, s.Second b a x → s.Second a b x := fun x hx => ⟨hx.1.symm, hx.2.symm⟩
  constructor
  · exact h.num
  · intro x hx
    rw [Equiv.swap_comm]
    exact h.used x fun h' => hx (hsecond x h')
  · intro x hx hux hne
    rw [Equiv.swap_comm]
    exact h.moved x hx.symm hux hne.symm
  · intro x hx hux hext hne
    rw [Equiv.swap_comm]
    exact h.second x hx.symm hux hext hne.symm
  · intro x hx hux hfree hx'
    rw [Equiv.swap_comm] at hfree
    exact h.emptied x hx.symm hux hfree fun h' => hx' (hsecond x h')
  · intro x hx hux hext hne hnext hone
    rw [Equiv.swap_comm] at hnext hone
    exact h.secondEmptied x hx.symm hux hext hne.symm hnext hone
  · intro x hx hfree hfree'
    exact h.idle x hx.symm hfree' hfree
  · intro x ha hb hx
    exact h.others x hb ha fun h' => hx (hsecond x h')

/-- Two keys of one slot. -/
lemma swapped_both (hne : a ≠ b) (ha : a < s.ctl.num) (hb : b < s.ctl.num)
    (hua : s.isUsed a = true) (hub : s.isUsed b = true) (hexta : s.isExt a = false)
    (hextb : s.isExt b = false) :
    ∃ s', s.swap a b = some s' ∧ s.Swapped s' a b := by
  have hb' : b < ((s.clean a).clean b).ctl.num := by rwa [num_clean, num_clean]
  have ha' : a < (((s.clean a).clean b).put b (s.cache a)).ctl.num := by
    rwa [num_put, num_clean, num_clean]
  rw [swap_of_both hne hua hub, putBack_cache hb' hexta, Option.bind_some,
    putBack_cache ha' hextb]
  refine ⟨_, rfl, Swapped.of_one ?_ ?_ ?_ ?_ ?_ ?_ ?_⟩
  · rintro x (rfl | rfl) -
    · exact hexta
    · exact hextb
  · simp
  · intro x
    rw [isUsed_put ha', isUsed_put hb', isUsed_clean, isUsed_clean]
    by_cases hxa : x = a
    · subst hxa
      simp [hub]
    · by_cases hxb : x = b
      · subst hxb
        simp [hua]
      · simp [hxa, hxb, Equiv.swap_apply_of_ne_of_ne]
  · rintro x (rfl | rfl) - -
    · simp [hne.symm]
    · simp
  · rintro x (rfl | rfl) - hfree
    · rw [Equiv.swap_apply_left, hub] at hfree
      cases hfree
    · rw [Equiv.swap_apply_right, hua] at hfree
      cases hfree
  · intro x _ hfree _
    rw [hua] at hfree
    cases hfree
  · intro x hxa hxb
    simp [hxa, hxb]

/-- Keys of one slot are exchanged. -/
lemma swapOk_of_fine (ha : a < s.ctl.num) (hb : b < s.ctl.num) (h : s.SwapFine a b) :
    s.SwapOk a b := by
  by_cases hne : a = b
  · subst hne
    exact ⟨s, by simp [swap], swapped_self s a⟩
  obtain ⟨hexta, hextb⟩ := h hne
  cases hua : s.isUsed a <;> cases hub : s.isUsed b
  · refine ⟨s, swap_of_none hua hub, Swapped.of_one ?_ rfl ?_ ?_ ?_ (fun _ _ _ _ => ⟨rfl, rfl⟩)
      fun _ _ _ => ⟨rfl, rfl⟩⟩
    · rintro x (rfl | rfl) hx
      · exact hexta hx
      · exact hextb hx
    · intro x
      by_cases hxa : x = a
      · rw [hxa, Equiv.swap_apply_left, hua, hub]
      · by_cases hxb : x = b
        · rw [hxb, Equiv.swap_apply_right, hua, hub]
        · rw [Equiv.swap_apply_of_ne_of_ne hxa hxb]
    · rintro x (rfl | rfl) hx
      · rw [hua] at hx
        cases hx
      · rw [hub] at hx
        cases hx
    · rintro x (rfl | rfl) hx
      · rw [hua] at hx
        cases hx
      · rw [hub] at hx
        cases hx
  · rw [SwapOk, swap_of_right hne hua hub]
    obtain ⟨s', hput, hswap⟩ := swapped_left (Ne.symm hne) ha hub hua (hextb hub)
    exact ⟨s', hput, hswap.symm⟩
  · rw [SwapOk, swap_of_left hne hua hub]
    exact swapped_left hne hb hua hub (hexta hua)
  · exact swapped_both hne ha hb hua hub (hexta hua) (hextb hub)

lemma SwapOk.fine (h : s.SwapOk a b) : s.SwapFine a b := by
  obtain ⟨s', hswap, -⟩ := h
  intro hne
  constructor
  · intro hua
    by_contra hext
    rw [swap_of_ext hne (.inl ⟨hua, by simpa using hext⟩)] at hswap
    cases hswap
  · intro hub
    by_contra hext
    rw [swap_of_ext hne (.inr ⟨hub, by simpa using hext⟩)] at hswap
    cases hswap

/-! ### The section of default keys -/

/-- The first free slot behind the section, and the rest of them. -/
lemma getEmpty_eq_some {e : ℕ} (h : s.getEmpty 4 = some e) : 4 ≤ e ∧ e < s.ctl.num ∧
    s.isUsed e = false := by
  have hmem := List.mem_range'_1.1 (List.mem_of_find?_eq_some h)
  have hfree := List.find?_some h
  exact ⟨hmem.1, by omega, by simpa using hfree⟩

lemma getEmpty_eq_none : s.getEmpty 4 = none ↔ s.freeBehind = 0 := by
  rw [getEmpty, freeBehind, List.find?_eq_none, List.countP_eq_zero]

/-- A slot behind the section is taken. -/
lemma freeBehind_of_taken {e : ℕ} (h : s.getEmpty 4 = some e) (hnum : s'.ctl.num = s.ctl.num)
    (he : s'.isUsed e = true) (hother : ∀ x, 4 ≤ x → x ≠ e → s'.isUsed x = s.isUsed x) :
    s'.freeBehind + 1 = s.freeBehind := by
  obtain ⟨hfree, pre, post, hsplit, hpre⟩ := List.find?_eq_some_iff_append.1 h
  have hnodup : (pre ++ e :: post).Nodup := hsplit ▸ List.nodup_range'
  have hmem : ∀ x ∈ pre ++ e :: post, 4 ≤ x := fun x hx => by
    rw [← hsplit] at hx
    exact (List.mem_range'_1.1 hx).1
  have hne : ∀ x, x ∈ pre ∨ x ∈ post → x ≠ e := by
    rintro x hx rfl
    rw [List.nodup_append, List.nodup_cons] at hnodup
    rcases hx with hx | hx
    · exact hnodup.2.2 x hx x (by simp) rfl
    · exact hnodup.2.1.1 hx
  have hcount : ∀ l : List ℕ, (∀ x ∈ l, 4 ≤ x ∧ x ≠ e) →
      (l.countP fun x => !s'.isUsed x) = l.countP fun x => !s.isUsed x := fun l hl =>
    List.countP_congr fun x hx => by rw [hother x (hl x hx).1 (hl x hx).2]
  rw [freeBehind, freeBehind, hnum, hsplit, List.countP_append, List.countP_append,
    List.countP_cons, List.countP_cons,
    hcount pre fun x hx => ⟨hmem x (by simp [hx]), hne x (.inl hx)⟩,
    hcount post fun x hx => ⟨hmem x (by simp [hx]), hne x (.inr hx)⟩, he, if_pos hfree]
  simp only [Bool.not_true, Bool.false_eq_true, if_false]
  omega

lemma Kept.refl (s : SecCam) : s.Kept s (Equiv.refl ℕ) :=
  ⟨rfl, fun _ => rfl, fun _ _ => rfl, fun _ _ => .inr ⟨rfl, rfl⟩,
    fun _ hx => .inr ⟨hx, rfl, rfl⟩⟩

lemma Kept.trans {σ τ : Equiv.Perm ℕ} (h : s.Kept s' σ) (h' : s'.Kept t τ) :
    s.Kept t (σ.trans τ) where
  num := h'.num.trans h.num
  used := fun x => (h'.used (σ x)).trans (h.used x)
  cache := by
    intro x hx
    exact (h'.cache (σ x) ((h.used x).trans hx)).trans (h.cache x hx)
  hw := by
    intro x hx
    have hx' := (h.used x).trans hx
    rcases h'.hw (σ x) hx' with hmoved | ⟨hstays, hsame⟩
    · exact .inl (hmoved.trans (h.cache x hx))
    · rcases h.hw x hx with hmoved | ⟨hstays', hsame'⟩
      · left
        show t.hw (τ (σ x)) = _
        rw [hstays, hsame, hmoved]
      · right
        rw [hstays'] at hstays hsame
        exact ⟨by rw [Equiv.trans_apply, hstays', hstays], hsame.trans hsame'⟩
  unused := by
    intro x hx
    rcases h'.unused x hx with hblank | ⟨hx', hcache', hhw'⟩
    · exact .inl hblank
    · rcases h.unused x hx' with ⟨hcache, hhw⟩ | ⟨hx'', hcache, hhw⟩
      · exact .inl ⟨hcache'.trans hcache, hhw'.trans hhw⟩
      · exact .inr ⟨hx'', hcache'.trans hcache, hhw'.trans hhw⟩

/-- A slot that a key has left. -/
lemma Kept.blank {σ : Equiv.Perm ℕ} (h : s.Kept s' σ) (hused : s.isUsed x = true)
    (hfree : s'.isUsed x = false) : s'.Blank x := by
  rcases h.unused x hfree with hblank | ⟨hfree', -⟩
  · exact hblank
  · rw [hused] at hfree'
    cases hfree'

lemma isExt_of_cache (h : s'.cache x = s.cache x) : s'.isExt x = s.isExt x := by
  have hent : s'.ctl.camCache x = s.ctl.camCache x := congrArg Prod.fst h
  rw [isExt, isExt, hent]

/-- A key goes to a free slot behind the section. -/
structure MovedOut (s s' : SecCam) (i : ℕ) : Prop where
  kept : ∃ σ, s.Kept s' σ
  free : s'.freeBehind + 1 = s.freeBehind
  gone : s'.isUsed i = false
  used : ∀ j < 4, j ≠ i → s'.isUsed j = s.isUsed j
  ext : ∀ j < 4, j ≠ i → s'.isExt j = s.isExt j

lemma Swapped.movedOut {e : ℕ} (h : s.Swapped s' i e) (hi : i < 4) (he : s.getEmpty 4 = some e)
    (hused : s.isUsed i = true) (hext : s.isExt i = false) : s.MovedOut s' i := by
  obtain ⟨hbehind, -, hfree⟩ := getEmpty_eq_some he
  have hne : i ≠ e := by omega
  have hsecond : ∀ x, ¬ s.Second i e x := by
    rintro x ⟨⟨-, h'⟩ | ⟨h', -⟩, -⟩
    · rw [hext] at h'
      cases h'
    · rw [hfree] at h'
      cases h'
  have hkeeps : ∀ x, s.isUsed x = true → s'.cache (Equiv.swap i e x) = s.cache x ∧
      (s'.hw (Equiv.swap i e x) = s.cache x ∨ Equiv.swap i e x = x ∧ s'.hw x = s.hw x) := by
    intro x hx
    by_cases hxi : x = i
    · have hmoved := h.moved x (.inl hxi) hx hne
      exact ⟨hmoved.1, .inl hmoved.2⟩
    · have hxe : x ≠ e := fun heq => by
        rw [heq, hfree] at hx
        cases hx
      have hsame := h.others x hxi hxe (hsecond x)
      rw [Equiv.swap_apply_of_ne_of_ne hxi hxe]
      exact ⟨hsame.1, .inr ⟨rfl, hsame.2⟩⟩
  have husedAt : ∀ x, x ≠ i → x ≠ e → s'.isUsed x = s.isUsed x := by
    intro x hxi hxe
    rw [h.used x (hsecond x), Equiv.swap_apply_of_ne_of_ne hxi hxe]
  have hunused : ∀ x, s'.isUsed x = false →
      s'.Blank x ∨ s.isUsed x = false ∧ s'.cache x = s.cache x ∧ s'.hw x = s.hw x := by
    intro x hx
    by_cases hxi : x = i
    · subst hxi
      refine .inl (h.emptied x (.inl rfl) hused ?_ (hsecond x))
      rw [Equiv.swap_apply_left, hfree]
    · have hxe : x ≠ e := fun heq => by
        rw [heq, h.used e (hsecond e), Equiv.swap_apply_right, hused] at hx
        cases hx
      exact .inr ⟨(husedAt x hxi hxe).symm.trans hx, h.others x hxi hxe (hsecond x)⟩
  refine ⟨⟨Equiv.swap i e, h.num, fun x => ?_, fun x hx => (hkeeps x hx).1,
    fun x hx => (hkeeps x hx).2, hunused⟩, ?_, ?_, ?_, ?_⟩
  · rw [h.used _ (hsecond _), Equiv.swap_apply_self]
  · refine freeBehind_of_taken he h.num ?_ fun x hx hxe => husedAt x (by omega) hxe
    rw [h.used e (hsecond e), Equiv.swap_apply_right, hused]
  · rw [h.used i (hsecond i), Equiv.swap_apply_left, hfree]
  · intro j hj hji
    exact husedAt j hji (by omega)
  · intro j hj hji
    exact isExt_of_cache (h.others j hji (by omega) (hsecond j)).1

/-- What a pass does. -/
lemma cleanDkPass_cases (hi : i < 4) : (s.isUsed i = false ∨ s.freeBehind = 0) ∧
      s.cleanDkPass i = some s ∨
    s.isUsed i = true ∧ 0 < s.freeBehind ∧ (s.isExt i = true ∧ s.cleanDkPass i = none ∨
      s.isExt i = false ∧ ∃ s', s.cleanDkPass i = some s' ∧ s.MovedOut s' i) := by
  rw [cleanDkPass]
  cases hused : s.isUsed i
  · exact .inl ⟨.inl rfl, rfl⟩
  rcases hempty : s.getEmpty 4 with _ | e
  · exact .inl ⟨.inr (getEmpty_eq_none.1 hempty), rfl⟩
  right
  obtain ⟨hbehind, hlt, hfree⟩ := getEmpty_eq_some hempty
  have hne : i ≠ e := by omega
  refine ⟨rfl, ?_, ?_⟩
  · refine Nat.pos_of_ne_zero fun hzero => ?_
    rw [getEmpty_eq_none.2 hzero] at hempty
    cases hempty
  simp only [if_true, if_pos (show 0 < e by omega)]
  cases hext : s.isExt i
  · right
    obtain ⟨s', hswap, hswapped⟩ := swapOk_of_fine (lt_num_of_isUsed hused) hlt
      fun _ => ⟨fun _ => hext, fun h => by rw [hfree] at h; cases h⟩
    exact ⟨rfl, s', hswap, hswapped.movedOut hi hempty hused hext⟩
  · exact .inl ⟨rfl, swap_of_ext hne (.inl ⟨hused, hext⟩)⟩

/-- `CleanFine` from the slot `i` on. -/
def FineFrom (s : SecCam) (i n : ℕ) : Prop :=
  ∀ j < n, s.isUsed (i + j) → (List.range' i j).countP s.isUsed < s.freeBehind →
    s.isExt (i + j) = false

lemma fineFrom_of_skip {n : ℕ} (h : s.isUsed i = false ∨ s.freeBehind = 0) :
    s.FineFrom i (n + 1) ↔ s.FineFrom (i + 1) n := by
  rcases h with hfree | hfull
  · have hcount : ∀ j, (List.range' i (j + 1)).countP s.isUsed =
        (List.range' (i + 1) j).countP s.isUsed := fun j => by
      rw [List.range'_succ, List.countP_cons, hfree]
      rfl
    have hplace : ∀ j, i + (j + 1) = i + 1 + j := fun j => by omega
    constructor
    · intro h j hj hused hlt
      have := h (j + 1) (by omega)
      rw [hplace, hcount] at this
      exact this hused hlt
    · rintro h (_ | j) hj hused hlt
      · rw [Nat.add_zero, hfree] at hused
        cases hused
      · rw [hplace, hcount] at *
        exact h j (by omega) hused hlt
  · refine iff_of_true ?_ ?_ <;>
    · rintro j - - hlt
      rw [hfull] at hlt
      exact absurd hlt (Nat.not_lt_zero _)

lemma MovedOut.countP_eq (h : s.MovedOut s' i) {j : ℕ} (hj : i + 1 + j ≤ 4) :
    (List.range' (i + 1) j).countP s'.isUsed = (List.range' (i + 1) j).countP s.isUsed := by
  refine List.countP_congr fun x hx => ?_
  have hx' := List.mem_range'_1.1 hx
  rw [h.used x (by omega) (by omega)]

lemma MovedOut.fineFrom_iff (h : s.MovedOut s' i) {n : ℕ} (hi : i + (n + 1) = 4)
    (hused : s.isUsed i = true) (hext : s.isExt i = false) :
    s.FineFrom i (n + 1) ↔ s'.FineFrom (i + 1) n := by
  have hcount : ∀ j, i + 1 + j ≤ 4 → (List.range' i (j + 1)).countP s.isUsed =
      (List.range' (i + 1) j).countP s'.isUsed + 1 := fun j hj => by
    rw [List.range'_succ, List.countP_cons, hused, h.countP_eq hj]
    rfl
  have hplace : ∀ j, i + (j + 1) = i + 1 + j := fun j => by omega
  have hfree := h.free
  constructor
  · intro hall j hj hused' hlt
    have := hall (j + 1) (by omega)
    rw [hplace, hcount j (by omega), ← h.used _ (by omega) (by omega),
      ← h.ext _ (by omega) (by omega)] at this
    exact this hused' (by omega)
  · rintro hall (_ | j) hj hused' hlt
    · exact hext
    · rw [hcount j (by omega)] at hlt
      rw [hplace, ← h.used _ (by omega) (by omega)] at hused'
      rw [hplace, ← h.ext _ (by omega) (by omega)]
      exact hall j (by omega) hused' (by omega)

/-- A run of the loop, from the slot `i` on. -/
lemma cleanDk_run (n : ℕ) (hi : i + n = 4) :
    (s.FineFrom i n → ∃ s', (List.range' i n).foldlM cleanDkPass s = some s' ∧
      (∃ σ, s.Kept s' σ) ∧ (∀ j < i, s'.isUsed j = s.isUsed j) ∧
      ((List.range' i n).countP s.isUsed ≤ s.freeBehind →
        ∀ j, i ≤ j → j < 4 → s'.isUsed j = false)) ∧
    (¬ s.FineFrom i n → (List.range' i n).foldlM cleanDkPass s = none) := by
  induction n generalizing i s with
  | zero =>
      refine ⟨fun _ => ⟨s, rfl, ⟨_, .refl s⟩, fun _ _ => rfl, fun _ j hj hlt => ?_⟩, fun h => ?_⟩
      · omega
      · exact absurd (fun j hj => absurd hj (Nat.not_lt_zero j)) h
  | succ n ih =>
      have hnext : i + 1 + n = 4 := by omega
      rw [List.range'_succ, List.foldlM_cons]
      rcases cleanDkPass_cases (s := s) (show i < 4 by omega) with
        ⟨hskip, hpass⟩ | ⟨hused, hroom, ⟨hext, hpass⟩ | ⟨hext, s', hpass, hmoved⟩⟩
      · -- nothing is moved
        rw [hpass, fineFrom_of_skip hskip]
        obtain ⟨hfine, hnot⟩ := ih (s := s) hnext
        refine ⟨fun h => ?_, hnot⟩
        obtain ⟨t, hrun, hkept, hbefore, hclean⟩ := hfine h
        refine ⟨t, hrun, hkept, fun j hj => hbefore j (by omega), fun hle j hij hj => ?_⟩
        rw [List.countP_cons] at hle
        by_cases hji : j = i
        · have hfree : s.isUsed i = false := by
            rcases hskip with hfree | hfull
            · exact hfree
            · rw [hfull, Nat.le_zero, Nat.add_eq_zero_iff] at hle
              simpa using hle.2
          rw [hji, hbefore i (by omega), hfree]
        · exact hclean (by omega) j (by omega) hj
      · -- a key of two slots
        rw [hpass]
        refine ⟨fun h => ?_, fun _ => rfl⟩
        have hno := h 0 (by omega) hused hroom
        rw [Nat.add_zero, hext] at hno
        cases hno
      · rw [hpass, hmoved.fineFrom_iff hi hused hext]
        obtain ⟨hfine, hnot⟩ := ih (s := s') hnext
        refine ⟨fun h => ?_, hnot⟩
        obtain ⟨t, hrun, ⟨τ, hτ⟩, hbefore, hclean⟩ := hfine h
        obtain ⟨σ, hσ⟩ := hmoved.kept
        refine ⟨t, hrun, ⟨_, hσ.trans hτ⟩, fun j hj => ?_, fun hle j hij hj => ?_⟩
        · rw [hbefore j (by omega), hmoved.used j (by omega) (by omega)]
        · have hfree := hmoved.free
          rw [List.countP_cons, hused, if_pos rfl, ← hmoved.countP_eq (by omega)] at hle
          by_cases hji : j = i
          · rw [hji, hbefore i (by omega), hmoved.gone]
          · exact hclean (by omega) j (by omega) hj

lemma fineFrom_zero : s.FineFrom 0 4 ↔ s.CleanFine := by
  refine forall₂_congr fun j _ => ?_
  rw [Nat.zero_add, List.range_eq_range']

lemma cleanOk_iff (s : SecCam) : s.CleanOk ↔ s.CleanFine := by
  obtain ⟨hfine, hnot⟩ := cleanDk_run (s := s) (i := 0) 4 rfl
  rw [fineFrom_zero] at hfine hnot
  rw [CleanOk, cleanDkSection, List.range_eq_range']
  constructor
  · rintro ⟨s', hrun, -⟩
    by_contra h
    rw [hnot h] at hrun
    cases hrun
  · intro h
    obtain ⟨s', hrun, ⟨σ, hkept⟩, -, hclean⟩ := hfine h
    refine ⟨s', hrun, ⟨σ, hkept⟩, fun hle i hi => ?_⟩
    have hfree := hclean hle i (Nat.zero_le i) hi
    exact ⟨hfree, fun hused => hkept.blank hused hfree⟩

/-- `rtw_sec_cam_swap` exchanges the keys in two slots exactly if none of them takes two slots, and
`rtw_clean_dk_section` does its work exactly if none of those it moves does. -/
theorem camSwap_iff (s : SecCam) (a b : ℕ) (ha : a < s.ctl.num) (hb : b < s.ctl.num) :
    (s.SwapOk a b ↔ s.SwapFine a b) ∧ (s.CleanOk ↔ s.CleanFine) :=
  ⟨⟨SwapOk.fine, swapOk_of_fine ha hb⟩, cleanOk_iff s⟩

/-- A CAM of 32 slots with keys that have this `ctrl`. -/
def sampleCam (used : BitVec 32) (ctrl : BitVec 16) : SecCam where
  ctl := ⟨32, le_rfl, true, used, fun _ => ⟨ctrl, bcAddr⟩⟩
  cacheKey _ := Vector.replicate 16 7
  hw _ := (⟨ctrl, bcAddr⟩, Vector.replicate 16 7)

/-- A key in the first slot. -/
theorem camSwap_one : (sampleCam 0x1 0x8010).SwapOk 0 5 ∧ (sampleCam 0x1 0x8010).CleanOk := by
  have hiff := camSwap_iff (sampleCam 0x1 0x8010) 0 5 (by decide) (by decide)
  exact ⟨hiff.1.2 fun _ => ⟨fun _ => by decide, fun _ => by decide⟩,
    hiff.2.2 fun _ _ _ _ => by simp [isExt, sampleCam]⟩

/-- A key in the first two slots. -/
theorem camSwap_ext : ¬ (sampleCam 0x3 0x8210).SwapOk 0 5 ∧ ¬ (sampleCam 0x3 0x8210).CleanOk := by
  constructor
  · intro h
    exact absurd ((h.fine (by decide)).1 (by decide)) (by decide)
  · intro h
    exact absurd ((cleanOk_iff _).1 h 0 (by decide) (by decide) (by decide)) (by decide)

end SecCam

end Rtl8723du
