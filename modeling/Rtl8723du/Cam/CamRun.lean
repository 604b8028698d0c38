import Rtl8723du.Cam.Camid
import Rtl8723du.Lib.Machine

/-!
# Live keys over runs of the CAM

A run sets and frees keys in any order.  The keys that have been set and not freed are kept
beside the CAM, with the slot that each was given.  As long as no key of two slots takes its
second one from another key, and no slot is freed that is the second one of a live key, the
slots of the live keys are theirs alone, and the search finds them (`CamInv`).
-/

namespace Rtl8723du

/-- A key that was set, and the slot it was given. -/
structure CamKey where
  addr : MacAddr
  kid : BitVec 8
  gk : Bool
  extSec : Bool
  slot : ℕ
deriving DecidableEq

/-- The slots of a key. -/
def CamKey.slots (k : CamKey) : List ℕ := if k.extSec then [k.slot, k.slot + 1] else [k.slot]

/-- The key is for the same use. -/
def CamKey.For (k : CamKey) (addr : MacAddr) (kid : BitVec 8) (gk : Bool) : Prop :=
  k.addr = addr ∧ k.kid = kid ∧ k.gk = gk

instance (k : CamKey) (addr : MacAddr) (kid : BitVec 8) (gk : Bool) :
    Decidable (k.For addr kid gk) := by
  rw [CamKey.For]
  infer_instance

/-- The CAM, and the keys that live in it. -/
structure CamState where
  cam : CamCtl
  live : List CamKey

/-- What happens to the CAM. -/
inductive CamOp where
  | set (iface : CamIface) (sta : Option MacAddr) (algorithm keyid : BitVec 8) (gk spp : Bool)
  | free (camId : ℕ)

/-- One step.  A key that is set replaces the one for the same use. -/
def camStep (s : CamState) : CamOp → CamState × List ℕ
  | .set iface sta algorithm keyid gk spp =>
      match iface.keyAddr sta, setKey s.cam iface sta algorithm keyid gk spp with
      | some addr, (some camId, cam) =>
          (⟨cam, ⟨addr, keyid, gk, secType256 algorithm, camId⟩ ::
            s.live.filter fun k => ¬ k.For addr keyid gk⟩, [camId])
      | _, (_, cam) => (⟨cam, s.live⟩, [])
  | .free camId => (⟨freeKey s.cam camId, s.live.filter fun k => k.slot ≠ camId⟩, [])

/-- The key id is one, and an entry that was cleared does not look like the key. -/
def KeyIdOk (addr : MacAddr) (kid : BitVec 8) (gk : Bool) : Prop :=
  kid.toNat < 4 ∧ ¬ (addr = SecCamEnt.zero.mac ∧ kid = 0 ∧ gk = false)

/-- A key of two slots that finds an entry of its address and key id must find the slot after
it in the CAM, and not in use by a key for something else. -/
def SecondSlotOk (s : CamState) (addr : MacAddr) (kid : BitVec 8) (gk : Bool) : Prop :=
  ∀ i ∈ rtwCamidSearch s.cam addr (some kid) (some gk),
    i + 1 < s.cam.num ∧ ∀ k ∈ s.live, i + 1 ∈ k.slots → k.For addr kid gk

/-- The condition on a step. -/
def CamStepOk (s : CamState) : CamOp → Prop
  | .set iface sta algorithm keyid gk _ =>
      ∀ addr ∈ iface.keyAddr sta,
        KeyIdOk addr keyid gk ∧ (secType256 algorithm = true → SecondSlotOk s addr keyid gk)
  | .free camId => ∀ k ∈ s.live, k.extSec = true → camId ≠ k.slot + 1

/-- No slot is used by two live keys. -/
def NoSharedSlot (s : CamState) : Prop :=
  ∀ k ∈ s.live, ∀ k' ∈ s.live, ∀ x ∈ k.slots, x ∈ k'.slots → k = k'

/-- Every live key is found at the slot it was given. -/
def AllFound (s : CamState) : Prop :=
  ∀ k ∈ s.live, rtwCamidSearch s.cam k.addr (some k.kid) (some k.gk) = some k.slot

/-- After the slot of a key is freed, all slots that the key occupied are available. -/
def FreesAll (s : CamState) (camId : ℕ) : Prop :=
  ∀ k ∈ s.live, k.slot = camId →
    ∀ x ∈ k.slots, rtwSecCamidIsUsed (camStep s (.free camId)).1.cam x = false

/-! ### The bitmap and the entries -/

variable {c : CamCtl} {i x : ℕ} {addr : MacAddr} {kid : BitVec 8} {gk : Bool}

lemma rtwSecCamidIsUsed_eq (c : CamCtl) (x : ℕ) :
    rtwSecCamidIsUsed c x = (decide (x < c.num) && c.used.getLsbD x) := by
  rw [rtwSecCamidIsUsed, rtwSecCamidIsSet_eq]
  by_cases hx : c.num ≤ x
  · simp [hx]
  · simp [hx, Nat.lt_of_not_le hx]

lemma rtwCamidIsGk_eq (c : CamCtl) (x : ℕ) :
    rtwCamidIsGk c x = (rtwSecCamidIsUsed c x && (c.camCache x).ctrl.getLsbD 6) := by
  rw [rtwCamidIsGk]
  by_cases hx : c.num ≤ x
  · simp [rtwSecCamidIsUsed, hx]
  · rw [if_neg hx]
    cases rtwSecCamidIsUsed c x <;> simp

lemma camCacheChk_eq_true : camCacheChk c x addr (some kid) (some gk) = true ↔
    (c.camCache x).mac = addr ∧ kid.toNat = ((c.camCache x).ctrl &&& 0x03#16).toNat ∧
      rtwCamidIsGk c x = gk := by
  rw [camCacheChk]
  generalize ((c.camCache x).ctrl &&& 0x03#16).toNat = ent
  generalize rtwCamidIsGk c x = isGk
  by_cases hmac : (c.camCache x).mac = addr
  · by_cases hkid : kid.toNat = ent
    · simpa [hmac, hkid] using eq_comm
    · simp [hmac, hkid]
  · simp [hmac]

lemma rtwCamidSearch_eq_some :
    rtwCamidSearch c addr (some kid) (some gk) = some i ↔
      i < c.num ∧ camCacheChk c i addr (some kid) (some gk) = true ∧
        ∀ x < i, camCacheChk c x addr (some kid) (some gk) = false := by
  rw [rtwCamidSearch, List.find?_range_eq_some]
  simp only [List.mem_range, Bool.not_eq_true']
  constructor
  · rintro ⟨hchk, hlt, hfirst⟩
    exact ⟨hlt, hchk, hfirst⟩
  · rintro ⟨hlt, hchk, hfirst⟩
    exact ⟨hchk, hlt, hfirst⟩

/-! ### The invariant -/

/-- The entry of a slot is that of a live key, and the slot is in use. -/
structure CamCtl.Holds (c : CamCtl) (x : ℕ) (addr : MacAddr) (kid : BitVec 8) (gk : Bool) :
    Prop where
  lt : x < c.num
  used : c.used.getLsbD x = true
  mac : (c.camCache x).mac = addr
  kid : kid.toNat = ((c.camCache x).ctrl &&& 0x03#16).toNat
  gk : (c.camCache x).ctrl.getLsbD 6 = gk

/-- What holds in every state of a run. -/
structure CamInv (s : CamState) : Prop where
  chkBmc : s.cam.chkBmc = true
  holds : ∀ k ∈ s.live, ∀ x ∈ k.slots, s.cam.Holds x k.addr k.kid k.gk
  /-- No entry before the slot of a key looks like the key. -/
  first : ∀ k ∈ s.live, ∀ x < k.slot,
    camCacheChk s.cam x k.addr (some k.kid) (some k.gk) = false
  unique : ∀ k ∈ s.live, ∀ k' ∈ s.live, k'.For k.addr k.kid k.gk → k = k'
  keyIdOk : ∀ k ∈ s.live, KeyIdOk k.addr k.kid k.gk

lemma CamKey.slot_mem_slots (k : CamKey) : k.slot ∈ k.slots := by
  rw [slots]
  split <;> simp

lemma CamKey.mem_slots {k : CamKey} :
    x ∈ k.slots ↔ x = k.slot ∨ (k.extSec = true ∧ x = k.slot + 1) := by
  rw [slots]
  cases k.extSec <;> simp

lemma CamCtl.Holds.chk (h : c.Holds x addr kid gk) :
    camCacheChk c x addr (some kid) (some gk) = true :=
  camCacheChk_eq_true.2 ⟨h.mac, h.kid, by
    rw [rtwCamidIsGk_eq, rtwSecCamidIsUsed_eq, h.used, h.gk]
    simp [h.lt]⟩

/-- The entry of a live key does not look like another key. -/
lemma CamCtl.Holds.eq_of_chk {addr' : MacAddr} {kid' : BitVec 8} {gk' : Bool}
    (h : c.Holds x addr kid gk) (hchk : camCacheChk c x addr' (some kid') (some gk') = true) :
    addr = addr' ∧ kid = kid' ∧ gk = gk' := by
  obtain ⟨hmac, hkid, hgk⟩ := camCacheChk_eq_true.1 h.chk
  obtain ⟨hmac', hkid', hgk'⟩ := camCacheChk_eq_true.1 hchk
  exact ⟨hmac.symm.trans hmac', BitVec.eq_of_toNat_eq (hkid.trans hkid'.symm),
    hgk.symm.trans hgk'⟩

/-- The slots of the live keys are theirs alone. -/
lemma CamInv.noSharedSlot {s : CamState} (h : CamInv s) : NoSharedSlot s := by
  intro k hk k' hk' x hx hx'
  exact h.unique k hk k' hk' ((h.holds k' hk' x hx').eq_of_chk (h.holds k hk x hx).chk)

/-- The search finds the live keys. -/
lemma CamInv.allFound {s : CamState} (h : CamInv s) : AllFound s := by
  intro k hk
  have hslot := h.holds k hk k.slot k.slot_mem_slots
  exact rtwCamidSearch_eq_some.2 ⟨hslot.lt, hslot.chk, h.first k hk⟩

/-! ### A key is freed -/

lemma freeKey_chkBmc (c : CamCtl) (camId : ℕ) : (freeKey c camId).chkBmc = c.chkBmc := by
  rw [freeKey, rtwCamidFree]
  split <;> rfl

lemma freeKey_num (c : CamCtl) (camId : ℕ) : (freeKey c camId).num = c.num := by
  rw [freeKey, rtwCamidFree]
  split <;> rfl

lemma freeKey_camCache (c : CamCtl) (camId : ℕ) :
    (freeKey c camId).camCache = Function.update c.camCache camId .zero := by
  rw [freeKey, rtwCamidFree]
  split <;> rfl

lemma freeKey_used (c : CamCtl) (camId : ℕ) (hx : x < c.num) :
    (freeKey c camId).used.getLsbD x = (c.used.getLsbD x && decide (x ≠ camId)) := by
  rw [freeKey, rtwCamidFree]
  split
  · exact getLsbD_rtwSecCamMapClr _ _
  · rename_i hge
    have hne : x ≠ camId := fun h => hge (by rw [← h]; exact hx)
    simp [clearCamEntry, writeCamCache, hne]

/-- A slot that is not freed keeps its entry. -/
lemma freeKey_holds {camId : ℕ} (hne : x ≠ camId) (h : c.Holds x addr kid gk) :
    (freeKey c camId).Holds x addr kid gk where
  lt := by
    rw [freeKey_num]
    exact h.lt
  used := by
    rw [freeKey_used c camId h.lt, h.used]
    simp [hne]
  mac := by
    rw [freeKey_camCache, Function.update_of_ne hne]
    exact h.mac
  kid := by
    rw [freeKey_camCache, Function.update_of_ne hne]
    exact h.kid
  gk := by
    rw [freeKey_camCache, Function.update_of_ne hne]
    exact h.gk

/-- The entry of a slot that is freed looks like no key, and the others look as before. -/
lemma freeKey_chk {camId : ℕ} (hkey : KeyIdOk addr kid gk)
    (h : camCacheChk (freeKey c camId) x addr (some kid) (some gk) = true) :
    camCacheChk c x addr (some kid) (some gk) = true := by
  obtain ⟨hmac, hkid, hgk⟩ := camCacheChk_eq_true.1 h
  rw [freeKey_camCache] at hmac hkid
  by_cases hne : x = camId
  · subst hne
    rw [Function.update_self] at hmac hkid
    rw [rtwCamidIsGk_eq, freeKey_camCache, Function.update_self] at hgk
    refine absurd ⟨hmac.symm, BitVec.eq_of_toNat_eq hkid, ?_⟩ hkey.2
    rw [← hgk]
    simp [SecCamEnt.zero]
  · rw [Function.update_of_ne hne] at hmac hkid
    refine camCacheChk_eq_true.2 ⟨hmac, hkid, ?_⟩
    rw [← hgk, rtwCamidIsGk_eq, rtwCamidIsGk_eq, rtwSecCamidIsUsed_eq, rtwSecCamidIsUsed_eq,
      freeKey_camCache, Function.update_of_ne hne, freeKey_num]
    by_cases hx : x < c.num
    · rw [freeKey_used c camId hx]
      simp [hne]
    · simp [hx]

lemma CamInv.free {s : CamState} {camId : ℕ} (h : CamInv s) (hok : CamStepOk s (.free camId)) :
    CamInv (camStep s (.free camId)).1 where
  chkBmc := (freeKey_chkBmc s.cam camId).trans h.chkBmc
  holds := by
    intro k hk x hx
    obtain ⟨hk, hne⟩ := List.mem_filter.1 hk
    have hslot : k.slot ≠ camId := by simpa using hne
    refine freeKey_holds ?_ (h.holds k hk x hx)
    rcases CamKey.mem_slots.1 hx with rfl | ⟨hext, rfl⟩
    · exact hslot
    · exact (hok k hk hext).symm
  first := by
    intro k hk x hx
    obtain ⟨hk, -⟩ := List.mem_filter.1 hk
    rw [Bool.eq_false_iff]
    intro hchk
    have hold := freeKey_chk (h.keyIdOk k hk) hchk
    rw [h.first k hk x hx] at hold
    cases hold
  unique := fun k hk k' hk' hfor =>
    h.unique k (List.mem_filter.1 hk).1 k' (List.mem_filter.1 hk').1 hfor
  keyIdOk := fun k hk => h.keyIdOk k (List.mem_filter.1 hk).1

/-- All slots of a key are available after its slot is freed if and only if it has no second
one. -/
lemma CamInv.freesAll_iff {s : CamState} (h : CamInv s) (camId : ℕ) :
    FreesAll s camId ↔ ∀ k ∈ s.live, k.slot = camId → k.extSec = false := by
  have hused : ∀ x < s.cam.num, rtwSecCamidIsUsed (freeKey s.cam camId) x =
      (s.cam.used.getLsbD x && decide (x ≠ camId)) := by
    intro x hx
    rw [rtwSecCamidIsUsed_eq, freeKey_num, freeKey_used s.cam camId hx]
    simp [hx]
  constructor
  · intro hfree k hk hslot
    by_contra hext
    have hext : k.extSec = true := by simpa using hext
    have hmem : k.slot + 1 ∈ k.slots := CamKey.mem_slots.2 (.inr ⟨hext, rfl⟩)
    have hheld := h.holds k hk _ hmem
    have hfalse := hfree k hk hslot _ hmem
    have hne : k.slot + 1 ≠ camId := by omega
    have htrue := hused _ hheld.lt
    rw [hheld.used] at htrue
    simp only [camStep] at hfalse
    rw [hfalse] at htrue
    simp [hne] at htrue
  · intro hsingle k hk hslot x hx
    rcases CamKey.mem_slots.1 hx with rfl | ⟨hext, -⟩
    · have hheld := h.holds k hk _ hx
      show rtwSecCamidIsUsed (freeKey s.cam camId) k.slot = false
      rw [hused _ hheld.lt, hslot]
      simp
    · rw [hsingle k hk hslot] at hext
      cases hext

/-! ### A key is set -/

lemma packCtrl_fields : ∀ (secType : Fin 8) (kid : Fin 4) (gk extSec spp : Bool),
    let ctrl := packCtrl (BitVec.ofNat 16 secType) (BitVec.ofNat 8 kid) gk extSec spp
    (ctrl &&& 0x03#16).toNat = kid ∧ ((ctrl ||| 0x20#16) &&& 0x03#16).toNat = kid ∧
      ctrl.getLsbD 6 = gk ∧ (ctrl ||| 0x20#16).getLsbD 6 = gk ∧ ctrl.getLsbD 9 = extSec := by
  decide +kernel

lemma keyCtrl_fields (algorithm : BitVec 8) (hkid : kid.toNat < 4) (gk spp : Bool) :
    (keyCtrl algorithm kid gk spp &&& 0x03#16).toNat = kid.toNat ∧
      ((keyCtrl algorithm kid gk spp ||| 0x20#16) &&& 0x03#16).toNat = kid.toNat ∧
      (keyCtrl algorithm kid gk spp).getLsbD 6 = gk ∧
      (keyCtrl algorithm kid gk spp ||| 0x20#16).getLsbD 6 = gk ∧
      (keyCtrl algorithm kid gk spp).getLsbD 9 = secType256 algorithm := by
  have hlt : (algorithm.setWidth 16 &&& 0x07#16).toNat < 8 := by
    rw [BitVec.toNat_and]
    exact Nat.lt_succ_of_le Nat.and_le_right
  have hfields := packCtrl_fields ⟨_, hlt⟩ ⟨_, hkid⟩ gk (secType256 algorithm) spp
  simp only [BitVec.ofNat_toNat, BitVec.setWidth_eq] at hfields
  exact hfields

/-- The CAM `c'` is `c` with a key in the slot `i`, and in the next one if it is of two
slots. -/
structure Installed (c c' : CamCtl) (i : ℕ) (extSec : Bool) (addr : MacAddr) (kid : BitVec 8)
    (gk : Bool) : Prop where
  num : c'.num = c.num
  chkBmc : c'.chkBmc = c.chkBmc
  holds : ∀ x < c.num, x = i ∨ (extSec = true ∧ x = i + 1) → c'.Holds x addr kid gk
  frame : ∀ x, ¬ (x = i ∨ (extSec = true ∧ x = i + 1)) →
    c'.camCache x = c.camCache x ∧ c'.used.getLsbD x = c.used.getLsbD x

lemma getLsbD_bitmapHandle (c : CamCtl) (i : ℕ) (extSec : Bool) (hx : x < 32) :
    (c.bitmapHandle i extSec).used.getLsbD x =
      (c.used.getLsbD x || decide (x = i ∨ (extSec = true ∧ x = i + 1))) := by
  rw [CamCtl.bitmapHandle]
  cases extSec with
  | false =>
      rw [if_neg Bool.false_ne_true, getLsbD_rtwSecCamMapSet, decide_eq_true hx, Bool.and_true]
      simp
  | true =>
      rw [if_pos rfl, getLsbD_rtwSecCamMapSet, getLsbD_rtwSecCamMapSet, decide_eq_true hx,
        Bool.and_true, Bool.and_true, Bool.or_assoc]
      simp

lemma writeCam_used (c : CamCtl) (i : ℕ) (ctrl : BitVec 16) (addr : MacAddr) :
    (writeCam c i ctrl addr).num = c.num ∧ (writeCam c i ctrl addr).chkBmc = c.chkBmc ∧
      (writeCam c i ctrl addr).used = c.used := by
  rw [writeCam]
  split <;> exact ⟨rfl, rfl, rfl⟩

lemma writeCam_camCache (c : CamCtl) (i : ℕ) (ctrl : BitVec 16) (addr : MacAddr) (x : ℕ) :
    (writeCam c i ctrl addr).camCache x =
      if x = i then ⟨ctrl, addr⟩
      else if ctrl.getLsbD 9 = true ∧ x = i + 1 then ⟨ctrl ||| 0x20#16, addr⟩
      else c.camCache x := by
  rw [writeCam]
  cases ctrl.getLsbD 9 with
  | false =>
      by_cases hx : x = i
      · subst hx
        simp [writeCamCache]
      · simp [writeCamCache, hx]
  | true =>
      by_cases hx : x = i
      · subst hx
        simp [writeCamCache]
      · by_cases hx' : x = i + 1
        · subst hx'
          simp [writeCamCache]
        · simp [writeCamCache, hx, hx']

/-- A key that is written to the slot it was allocated is there. -/
lemma installed_of_alloc {extSec : Bool} {ctrl : BitVec 16} (hext : ctrl.getLsbD 9 = extSec)
    (hkid : (ctrl &&& 0x03#16).toNat = kid.toNat)
    (hkid' : ((ctrl ||| 0x20#16) &&& 0x03#16).toNat = kid.toNat)
    (hgk : ctrl.getLsbD 6 = gk) (hgk' : (ctrl ||| 0x20#16).getLsbD 6 = gk) :
    Installed c (writeCam (c.bitmapHandle i extSec) i ctrl addr) i extSec addr kid gk := by
  have hnum : c.num ≤ 32 := c.num_le
  obtain ⟨hnum', hbmc, hused⟩ := writeCam_used (c.bitmapHandle i extSec) i ctrl addr
  have hcache := fun x => writeCam_camCache (c.bitmapHandle i extSec) i ctrl addr x
  rw [hext] at hcache
  refine ⟨hnum', hbmc, ?_, ?_⟩
  · intro x hx hslot
    have hent : ∀ ent : SecCamEnt, ent = ⟨ctrl, addr⟩ ∨ ent = ⟨ctrl ||| 0x20#16, addr⟩ →
        ent.mac = addr ∧ kid.toNat = (ent.ctrl &&& 0x03#16).toNat ∧ ent.ctrl.getLsbD 6 = gk := by
      rintro ent (rfl | rfl)
      · exact ⟨rfl, hkid.symm, hgk⟩
      · exact ⟨rfl, hkid'.symm, hgk'⟩
    obtain ⟨hmac, hk, hg⟩ := hent _ (show (writeCam _ i ctrl addr).camCache x = _ ∨ _ by
      rw [hcache x]
      by_cases hxi : x = i
      · exact .inl (if_pos hxi)
      · rw [if_neg hxi, if_pos (hslot.resolve_left hxi)]
        exact .inr rfl)
    refine ⟨by rw [hnum']; exact hx, ?_, hmac, hk, hg⟩
    rw [hused, getLsbD_bitmapHandle _ _ _ (by omega), decide_eq_true hslot, Bool.or_true]
  · intro x hslot
    have hne := not_or.1 hslot
    constructor
    · rw [hcache x, if_neg hne.1, if_neg hne.2]
      rfl
    · rw [hused]
      by_cases hx : x < 32
      · rw [getLsbD_bitmapHandle _ _ _ hx, decide_eq_false hslot, Bool.or_false]
      · rw [BitVec.getLsbD_of_ge _ x (Nat.le_of_not_lt hx),
          BitVec.getLsbD_of_ge _ x (Nat.le_of_not_lt hx)]

lemma setKey_spec {c' : CamCtl} {iface : CamIface} {sta : Option MacAddr}
    {algorithm : BitVec 8} {spp : Bool} (haddr : iface.keyAddr sta = some addr)
    (hkid : kid.toNat < 4) (h : setKey c iface sta algorithm kid gk spp = (some i, c')) :
    rtwGetCamid c addr kid gk (secType256 algorithm) = some i ∧
      Installed c c' i (secType256 algorithm) addr kid gk := by
  obtain ⟨hkidOf, hkidOf', hgk, hgk', hext⟩ := keyCtrl_fields algorithm hkid gk spp
  unfold setKey rtwCamidAlloc at h
  simp only [haddr, Option.bind_some] at h
  cases hget : rtwGetCamid c addr kid gk (secType256 algorithm) with
  | none => simp [hget] at h
  | some camId =>
      simp only [hget, Prod.mk.injEq, Option.some.injEq] at h
      obtain ⟨rfl, rfl⟩ := h
      exact ⟨rfl, installed_of_alloc hext hkidOf hkidOf' hgk hgk'⟩

/-- A key for which there is no room changes nothing. -/
lemma setKey_none {c' : CamCtl} {iface : CamIface} {sta : Option MacAddr}
    {algorithm : BitVec 8} {spp : Bool} (h : setKey c iface sta algorithm kid gk spp = (none, c')) :
    c' = c := by
  unfold setKey rtwCamidAlloc at h
  cases haddr : iface.keyAddr sta with
  | none =>
      simp only [haddr, Option.bind_none, Prod.mk.injEq] at h
      exact h.2.symm
  | some addr =>
      simp only [haddr, Option.bind_some] at h
      cases hget : rtwGetCamid c addr kid gk (secType256 algorithm) with
      | none =>
          simp only [hget, Prod.mk.injEq] at h
          exact h.2.symm
      | some camId => simp [hget] at h

/-- The slot that is found is the one of the key, or a free one. -/
lemma rtwGetCamid_spec {extSec : Bool} (hbmc : c.chkBmc = true)
    (h : rtwGetCamid c addr kid gk extSec = some i) :
    i < c.num ∧ (∀ x < i, camCacheChk c x addr (some kid) (some gk) = false) ∧
      (rtwCamidSearch c addr (some kid) (some gk) = some i ∨
        (c.used.getLsbD i = false ∧
          (extSec = true → i + 1 < c.num ∧ c.used.getLsbD (i + 1) = false))) := by
  unfold rtwGetCamid at h
  rw [hbmc, if_pos rfl] at h
  cases hsearch : rtwCamidSearch c addr (some kid) (some gk) with
  | some j =>
      obtain rfl : j = i := by simpa [hsearch] using h
      obtain ⟨hlt, hchk, hfirst⟩ := rtwCamidSearch_eq_some.1 hsearch
      exact ⟨hlt, hfirst, .inl rfl⟩
  | none =>
      simp only [hsearch] at h
      have hlt : i < c.num := List.mem_range.1 (List.mem_of_find?_eq_some h)
      have hfree := List.find?_some h
      rw [Bool.and_eq_true, rtwSecCamidIsUsed_eq, rtwSecCamidIsUsed_eq] at hfree
      refine ⟨hlt, fun x hx => ?_, .inr ⟨by simpa [hlt] using hfree.1, ?_⟩⟩
      · have hnot := List.find?_eq_none.1 hsearch x (List.mem_range.2 (by omega))
        simpa using hnot
      · rintro rfl
        have hnext := hfree.2
        by_cases hlt' : i + 1 < c.num
        · exact ⟨hlt', by simpa [hlt'] using hnext⟩
        · simp [hlt'] at hnext

/-- The slots of a key that is set are not those of a key for something else. -/
lemma CamInv.slot_free {s : CamState} (h : CamInv s) {extSec : Bool}
    (hok : extSec = true → SecondSlotOk s addr kid gk)
    (hget : rtwGetCamid s.cam addr kid gk extSec = some i) {k : CamKey} (hk : k ∈ s.live)
    (hfor : ¬ k.For addr kid gk) (hslot : x = i ∨ (extSec = true ∧ x = i + 1)) : x ∉ k.slots := by
  intro hx
  have hheld := h.holds k hk x hx
  obtain ⟨-, -, hfound⟩ := rtwGetCamid_spec h.chkBmc hget
  rcases hfound with hsearch | ⟨hunused, hunused'⟩
  · rcases hslot with rfl | ⟨hext, rfl⟩
    · exact hfor (hheld.eq_of_chk (rtwCamidSearch_eq_some.1 hsearch).2.1)
    · exact hfor ((hok hext i hsearch).2 k hk hx)
  · rcases hslot with rfl | ⟨hext, rfl⟩
    · rw [hheld.used] at hunused
      cases hunused
    · rw [hheld.used] at hunused'
      cases (hunused' hext).2

/-- The slots of a key that is set are in the CAM. -/
lemma CamInv.slot_lt {s : CamState} (h : CamInv s) {extSec : Bool}
    (hok : extSec = true → SecondSlotOk s addr kid gk)
    (hget : rtwGetCamid s.cam addr kid gk extSec = some i)
    (hslot : x = i ∨ (extSec = true ∧ x = i + 1)) : x < s.cam.num := by
  obtain ⟨hlt, -, hfound⟩ := rtwGetCamid_spec h.chkBmc hget
  rcases hslot with rfl | ⟨hext, rfl⟩
  · exact hlt
  · rcases hfound with hsearch | ⟨-, hunused⟩
    · exact (hok hext i hsearch).1
    · exact (hunused hext).1

/-- An entry that is not written looks as before. -/
lemma Installed.chk_eq {c' : CamCtl} {extSec : Bool} {addr' : MacAddr} {kid' : BitVec 8}
    {gk' : Bool} (h : Installed c c' i extSec addr kid gk)
    (hx : ¬ (x = i ∨ (extSec = true ∧ x = i + 1))) :
    camCacheChk c' x addr' (some kid') (some gk') =
      camCacheChk c x addr' (some kid') (some gk') := by
  obtain ⟨hcache, hused⟩ := h.frame x hx
  have hgk : rtwCamidIsGk c' x = rtwCamidIsGk c x := by
    rw [rtwCamidIsGk_eq, rtwCamidIsGk_eq, rtwSecCamidIsUsed_eq, rtwSecCamidIsUsed_eq, hcache, hused,
      h.num]
  rw [Bool.eq_iff_iff, camCacheChk_eq_true, camCacheChk_eq_true, hcache, hgk]

lemma CamInv.install {s : CamState} {c' : CamCtl} {extSec : Bool} (h : CamInv s)
    (hkey : KeyIdOk addr kid gk) (hok : extSec = true → SecondSlotOk s addr kid gk)
    (hget : rtwGetCamid s.cam addr kid gk extSec = some i)
    (hinst : Installed s.cam c' i extSec addr kid gk) :
    CamInv ⟨c', ⟨addr, kid, gk, extSec, i⟩ :: s.live.filter fun k => ¬ k.For addr kid gk⟩ := by
  obtain ⟨-, hfirst, -⟩ := rtwGetCamid_spec h.chkBmc hget
  have hold : ∀ k ∈ s.live.filter fun k => ¬ k.For addr kid gk,
      k ∈ s.live ∧ ¬ k.For addr kid gk := fun k hk => by
    obtain ⟨hk, hfor⟩ := List.mem_filter.1 hk
    exact ⟨hk, by simpa using hfor⟩
  refine ⟨hinst.chkBmc.trans h.chkBmc, ?_, ?_, ?_, ?_⟩
  · intro k hk x hx
    rcases List.mem_cons.1 hk with rfl | hk
    · have hslot := CamKey.mem_slots.1 hx
      exact hinst.holds x (h.slot_lt hok hget hslot) hslot
    · obtain ⟨hk, hfor⟩ := hold k hk
      have hheld := h.holds k hk x hx
      obtain ⟨hcache, hused⟩ := hinst.frame x fun hslot => h.slot_free hok hget hk hfor hslot hx
      refine ⟨?_, ?_, ?_, ?_, ?_⟩
      · rw [hinst.num]
        exact hheld.lt
      · rw [hused]
        exact hheld.used
      · rw [hcache]
        exact hheld.mac
      · rw [hcache]
        exact hheld.kid
      · rw [hcache]
        exact hheld.gk
  · intro k hk x hx
    rcases List.mem_cons.1 hk with rfl | hk
    · have hx : x < i := hx
      rw [hinst.chk_eq (by omega)]
      exact hfirst x hx
    · obtain ⟨hk, hfor⟩ := hold k hk
      by_cases hslot : x = i ∨ (extSec = true ∧ x = i + 1)
      · -- the new entry does not look like another key
        rw [Bool.eq_false_iff]
        intro hchk
        have heq := (hinst.holds x (h.slot_lt hok hget hslot) hslot).eq_of_chk hchk
        exact hfor ⟨heq.1.symm, heq.2.1.symm, heq.2.2.symm⟩
      · rw [hinst.chk_eq hslot]
        exact h.first k hk x hx
  · intro k hk k' hk' hfor
    rcases List.mem_cons.1 hk with rfl | hk
    · rcases List.mem_cons.1 hk' with rfl | hk'
      · rfl
      · exact absurd hfor (hold k' hk').2
    · rcases List.mem_cons.1 hk' with rfl | hk'
      · exact absurd ⟨hfor.1.symm, hfor.2.1.symm, hfor.2.2.symm⟩ (hold k hk).2
      · exact h.unique k (hold k hk).1 k' (hold k' hk').1 hfor
  · intro k hk
    rcases List.mem_cons.1 hk with rfl | hk
    · exact hkey
    · exact h.keyIdOk k (hold k hk).1

lemma CamInv.set {s : CamState} {iface : CamIface} {sta : Option MacAddr}
    {algorithm keyid : BitVec 8} {spp : Bool} (h : CamInv s)
    (hok : CamStepOk s (.set iface sta algorithm keyid gk spp)) :
    CamInv (camStep s (.set iface sta algorithm keyid gk spp)).1 := by
  obtain ⟨camId, c', hset⟩ :
      ∃ camId c', setKey s.cam iface sta algorithm keyid gk spp = (camId, c') :=
    ⟨_, _, rfl⟩
  cases camId with
  | none =>
      have hsame := setKey_none hset
      cases haddr : iface.keyAddr sta with
      | none =>
          simp only [camStep, haddr, hset, hsame]
          exact h
      | some addr =>
          simp only [camStep, haddr, hset, hsame]
          exact h
  | some i =>
      cases haddr : iface.keyAddr sta with
      | none => simp [setKey, haddr] at hset
      | some addr =>
          obtain ⟨hkey, hsecond⟩ := hok addr haddr
          obtain ⟨hget, hinst⟩ := setKey_spec haddr hkey.1 hset
          simp only [camStep, haddr, hset]
          exact h.install hkey hsecond hget hinst

lemma CamInv.step {s : CamState} {op : CamOp} (hok : CamStepOk s op) (h : CamInv s) :
    CamInv (camStep s op).1 := by
  cases op with
  | set => exact h.set hok
  | free => exact h.free hok

/-! ### Runs -/

/-- A CAM in which no key lives. -/
def CamState.start (num : ℕ) (hnum : num ≤ secCamEntNumSwLimit) (used : BitVec 32) : CamState :=
  ⟨{ num, num_le := hnum, chkBmc := true, used, camCache := fun _ => .zero }, []⟩

/-- The state after a run. -/
def camRun (s : CamState) (ops : List CamOp) : CamState := Lib.Machine.final camStep s ops

/-- Whatever keys are set and whatever slots are freed: in every state of a run whose steps meet
the condition, no slot is used by two live keys, and every live key is found at its slot.  To
free the slot of a live key makes all slots of the key available if and only if the key has no
second one. -/
theorem camRun_slots (num : ℕ) (hnum : num ≤ secCamEntNumSwLimit) (used : BitVec 32)
    (ops : List CamOp)
    (hok : Lib.Machine.Along camStep CamStepOk (CamState.start num hnum used) ops) :
    NoSharedSlot (camRun (CamState.start num hnum used) ops) ∧
      AllFound (camRun (CamState.start num hnum used) ops) ∧
      ∀ camId, FreesAll (camRun (CamState.start num hnum used) ops) camId ↔
        ∀ k ∈ (camRun (CamState.start num hnum used) ops).live,
          k.slot = camId → k.extSec = false := by
  have hstart : CamInv (CamState.start num hnum used) := by
    refine ⟨rfl, ?_, ?_, ?_, ?_⟩ <;> exact fun k hk => absurd hk List.not_mem_nil
  have hinv : CamInv (camRun (CamState.start num hnum used) ops) :=
    Lib.Machine.final_induction (fun _ _ hok h => h.step hok) hstart hok
  exact ⟨hinv.noSharedSlot, hinv.allFound, hinv.freesAll_iff⟩

instance (addr : MacAddr) (kid : BitVec 8) (gk : Bool) : Decidable (KeyIdOk addr kid gk) := by
  rw [KeyIdOk]
  infer_instance

instance (s : CamState) (addr : MacAddr) (kid : BitVec 8) (gk : Bool) :
    Decidable (SecondSlotOk s addr kid gk) := by
  rw [SecondSlotOk]
  infer_instance

instance (s : CamState) : ∀ op, Decidable (CamStepOk s op)
  -- not over all addresses
  | .set iface sta algorithm keyid gk _ =>
      decidable_of_iff ((iface.keyAddr sta).all (fun addr => decide (KeyIdOk addr keyid gk ∧
        (secType256 algorithm = true → SecondSlotOk s addr keyid gk))) = true) (by
          rw [CamStepOk, Option.all_eq_true]
          simp only [decide_eq_true_eq, Option.mem_def])
  | .free camId => by
      rw [CamStepOk]
      infer_instance

instance (s : CamState) : Decidable (NoSharedSlot s) := by
  rw [NoSharedSlot]
  infer_instance

instance (s : CamState) : Decidable (AllFound s) := by
  rw [AllFound]
  infer_instance

instance (s : CamState) (camId : ℕ) : Decidable (FreesAll s camId) := by
  rw [FreesAll]
  infer_instance

/-- An access point. -/
def camIface : CamIface :=
  ⟨true, false, MacAddr.ofBytes 2 0 0 0 0 0, MacAddr.ofBytes 2 0 0 0 0 0⟩

/-- A station with a key of one slot, another with one of two; the first leaves, and a third one
comes with a key of two slots. -/
def roamOps : List CamOp :=
  [.set camIface (some (MacAddr.ofBytes 2 0 0 0 0 1)) 0x04#8 0 false false,
    .set camIface (some (MacAddr.ofBytes 2 0 0 0 0 2)) 0x14#8 0 false false, .free 0,
    .set camIface (some (MacAddr.ofBytes 2 0 0 0 0 3)) 0x14#8 0 false false]

theorem camRun_slots_of_roamOps :
    let s := camRun (CamState.start 32 (by decide) 0) roamOps
    (s.live.map fun k => (k.slot, k.extSec)) = [(3, true), (1, true)] ∧
      NoSharedSlot s ∧ AllFound s ∧
      ∀ camId, FreesAll s camId ↔ ∀ k ∈ s.live, k.slot = camId → k.extSec = false :=
  ⟨by decide +kernel, camRun_slots 32 (by decide) 0 roamOps (by decide +kernel)⟩

/-- Two stations with keys of one slot each. -/
def rekeyOps : List CamOp :=
  [.set camIface (some (MacAddr.ofBytes 2 0 0 0 0 1)) 0x04#8 0 false false,
    .set camIface (some (MacAddr.ofBytes 2 0 0 0 0 2)) 0x04#8 0 false false]

/-- The first one is given a key of two slots. -/
def widerKey : CamOp :=
  .set camIface (some (MacAddr.ofBytes 2 0 0 0 0 1)) 0x14#8 0 false false

/-- The second slot of the wider key is that of the other station, whose key is lost; and after
the key is freed it is still in use. -/
theorem camRun_slots_of_widerKey :
    let s := camRun (.start 32 (by decide) 0) (rekeyOps ++ [widerKey])
    ¬ NoSharedSlot s ∧ ¬ AllFound s ∧ ¬ FreesAll s 0 := by
  decide +kernel

end Rtl8723du
