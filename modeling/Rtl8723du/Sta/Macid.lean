import Mathlib.Data.Finset.Basic
import Rtl8723du.Cam.Camid
import Rtl8723du.Lib.Machine

/-!
# The MAC ids of stations

The hardware knows a station by a small number.  `macid_ctl` says which numbers are used, by
which adapters, and for which `sta_info`; `rtw_alloc_macid` takes a free one for a new entry,
`rtw_release_macid` gives it back.  `RTW_DEFAULT_MGMT_MACID` is reserved from the start for
management frames on all adapters, and shared by the group entries of stations.
-/

namespace Rtl8723du.Macid

open Lib.Machine Function

/-! ### The tables -/

/-- `RTW_DEFAULT_MGMT_MACID`. -/
abbrev rtwDefaultMgmtMacid : ℕ := 1

/-- `INVALID_SEC_MAC_CAM_ID`. -/
abbrev invalidSecMacCamId : ℕ := 0xFF

/-- `macid_ctl.num`: `macid_num` of the chip, up to `MACID_NUM_SW_LIMIT`. -/
abbrev macidNum : ℕ := min 16 32

/-- `rtw_macid_is_set`. -/
def rtwMacidIsSet (map : BitVec 32) (id : ℕ) : Bool := rtwSecCamidIsSet map id

/-- `rtw_macid_map_set`. -/
def rtwMacidMapSet (map : BitVec 32) (id : ℕ) : BitVec 32 := rtwSecCamMapSet map id

/-- `rtw_macid_map_clr`. -/
def rtwMacidMapClr (map : BitVec 32) (id : ℕ) : BitVec 32 := rtwSecCamMapClr map id

section

variable (ι P : Type*)

/-- `macid_ctl_t`, with the adapters `ι` and pointers `P` to `sta_info`. -/
structure MacidCtl where
  used : BitVec 32 := 0
  bmc : BitVec 32 := 0
  ifG : ι → BitVec 32 := fun _ => 0
  chG : Fin 2 → BitVec 32 := fun _ => 0
  ifaceBmc : ι → ℕ := fun _ => 0
  sta : ℕ → Option P := fun _ => none

/-- `sta_info`, of the entries that are allocated. -/
structure StaInfo where
  padapter : ι
  macAddr : MacAddr
  macId : ℕ

/-- The device: `macid_ctl`, `cam_ctl` and the live `sta_info`. -/
structure Dvobj where
  macidCtl : MacidCtl ι P
  camCtl : CamCtl
  stas : P → Option (StaInfo ι) := fun _ => none

/-- The own addresses of the adapters, and `SEC_CAP_CHK_EXTRA_SEC`. -/
structure Adapters where
  macAddr : ι → MacAddr
  chkExtraSec : Bool

end

variable {ι P : Type*} [DecidableEq ι] [DecidableEq P]

/-- `rtw_macid_ctl_init`, on memory that is zero. -/
def rtwMacidCtlInit : MacidCtl ι P where
  used := rtwMacidMapSet 0 rtwDefaultMgmtMacid
  bmc := rtwMacidMapSet 0 rtwDefaultMgmtMacid
  ifG _ := rtwMacidMapSet 0 rtwDefaultMgmtMacid

/-- `rtw_macid_is_used`. -/
def rtwMacidIsUsed (m : MacidCtl ι P) (id : ℕ) : Bool := rtwMacidIsSet m.used id

/-- The slots of the CAM that go with the id of a group entry. -/
def camMap (f : BitVec 32 → ℕ → BitVec 32) (ad : Adapters ι) (c : CamCtl) (id : ℕ) : CamCtl :=
  { c with used := if ad.chkExtraSec then f (f c.used id) (id + 1) else f c.used id }

/-! ### Allocation and release -/

/-- The first id that is free, and for a group entry also free in the CAM. -/
def freeMacid (m : MacidCtl ι P) (c : CamCtl) (isBcSta : Bool) : Option ℕ :=
  (List.range macidNum).find? fun i =>
    !(isBcSta && rtwSecCamidIsUsed c i) && !rtwMacidIsUsed m i

/-- An id is taken. -/
def takeMacid (ad : Adapters ι) (d : Dvobj ι P) (padapter : ι) (psta : P) (isBcSta : Bool)
    (i : ℕ) : Dvobj ι P :=
  { d with
    macidCtl := { d.macidCtl with
      used := rtwMacidMapSet d.macidCtl.used i
      bmc := if isBcSta then rtwMacidMapSet d.macidCtl.bmc i else d.macidCtl.bmc
      ifaceBmc := if isBcSta then update d.macidCtl.ifaceBmc padapter i else d.macidCtl.ifaceBmc
      ifG := update d.macidCtl.ifG padapter (rtwMacidMapSet (d.macidCtl.ifG padapter) i)
      sta := update d.macidCtl.sta i (some psta) }
    camCtl := if isBcSta then camMap rtwSecCamMapSet ad d.camCtl i else d.camCtl }

/-- `rtw_alloc_macid`: the tables, and the id of the entry.  `staOrNull` is
`MLME_IS_STA(padapter) || MLME_IS_NULL(padapter)`. -/
def rtwAllocMacid (ad : Adapters ι) (d : Dvobj ι P) (padapter : ι) (staOrNull : Bool) (psta : P)
    (macAddr : MacAddr) : Dvobj ι P × ℕ :=
  if macAddr = ad.macAddr padapter then (d, macidNum)
  else
    let isBcSta := decide (macAddr = bcAddr)
    let d := if isBcSta then
      { d with macidCtl := { d.macidCtl with
        ifaceBmc := update d.macidCtl.ifaceBmc padapter invalidSecMacCamId } } else d
    if isBcSta && staOrNull then (d, rtwDefaultMgmtMacid)
    else
      match freeMacid d.macidCtl d.camCtl isBcSta with
      | some i => (takeMacid ad d padapter psta isBcSta i, i)
      | none => (d, macidNum)

/-- The CAM of the group entry of an adapter is given back. -/
def releaseBcmc (ad : Adapters ι) (d : Dvobj ι P) (padapter : ι) : Dvobj ι P :=
  let id := d.macidCtl.ifaceBmc padapter
  { d with
    macidCtl := { d.macidCtl with
      ifaceBmc := update d.macidCtl.ifaceBmc padapter invalidSecMacCamId }
    camCtl := if id ≠ invalidSecMacCamId ∧ id < d.camCtl.num then
      camMap rtwSecCamMapClr ad d.camCtl id else d.camCtl }

/-- The id is given back by the adapter, and free if no other one has it. -/
def dropMacid [Fintype ι] (m : MacidCtl ι P) (padapter : ι) (id : ℕ) : MacidCtl ι P :=
  let ifG := update m.ifG padapter (rtwMacidMapClr (m.ifG padapter) id)
  if ∀ i, i ≠ padapter → rtwMacidIsSet (m.ifG i) id = false then
    { m with
      used := rtwMacidMapClr m.used id
      bmc := rtwMacidMapClr m.bmc id
      ifG := ifG
      chG := fun i => rtwMacidMapClr (m.chG i) id
      sta := update m.sta id none }
  else { m with ifG := ifG }

/-- `rtw_release_macid`. -/
def rtwReleaseMacid [Fintype ι] (ad : Adapters ι) (d : Dvobj ι P) (psta : StaInfo ι) : Dvobj ι P :=
  if psta.macAddr = ad.macAddr psta.padapter then d
  else if macidNum ≤ psta.macId then d
  else if psta.macId = rtwDefaultMgmtMacid then d
  else if rtwMacidIsUsed d.macidCtl psta.macId = false then d
  else if rtwMacidIsSet (d.macidCtl.ifG psta.padapter) psta.macId = false then d
  else
    let d := if psta.macAddr = bcAddr then releaseBcmc ad d psta.padapter else d
    { d with macidCtl := dropMacid d.macidCtl psta.padapter psta.macId }

/-! ### Runs -/

/-- What happens to the tables. -/
inductive Event (ι P : Type*)
  /-- `rtw_alloc_stainfo` takes a free `sta_info`. -/
  | alloc (padapter : ι) (staOrNull : Bool) (psta : P) (macAddr : MacAddr)
  /-- `rtw_free_stainfo` of a live `sta_info`. -/
  | free (psta : P)
  /-- Keys are installed or removed. -/
  | cam (camCtl : CamCtl)

/-- One event. -/
def step [Fintype ι] (ad : Adapters ι) (d : Dvobj ι P) : Event ι P → Dvobj ι P × List Unit
  | .alloc padapter staOrNull psta macAddr =>
      match d.stas psta with
      | some _ => (d, [])
      | none =>
          let r := rtwAllocMacid ad d padapter staOrNull psta macAddr
          ({ r.1 with stas := update r.1.stas psta (some ⟨padapter, macAddr, r.2⟩) }, [])
  | .free psta =>
      match d.stas psta with
      | none => (d, [])
      | some sta =>
          let d := rtwReleaseMacid ad d sta
          ({ d with stas := update d.stas psta none }, [])
  | .cam camCtl => ({ d with camCtl := camCtl }, [])

/-- The device when it is set up. -/
def start (camCtl : CamCtl) : Dvobj ι P := { macidCtl := rtwMacidCtlInit, camCtl := camCtl }

/-! ### Tables in step -/

variable {ad : Adapters ι} {d : Dvobj ι P} {id x : ℕ} {p q : P} {a padapter : ι}

/-- A live entry has the id. -/
def Dvobj.Holds (d : Dvobj ι P) (p : P) (id : ℕ) : Prop := ∃ sta ∈ d.stas p, sta.macId = id

/-- The tables are in step for all ids: no two entries of an adapter share one other than the
default, an id is used when an entry has it, and `sta` points to that. -/
structure InStepAll (d : Dvobj ι P) : Prop where
  unshared : ∀ p q, ∀ sp ∈ d.stas p, ∀ sq ∈ d.stas q, sp.padapter = sq.padapter →
    sp.macId = sq.macId → sp.macId ≠ rtwDefaultMgmtMacid → p = q
  used : ∀ id, id < macidNum → (rtwMacidIsUsed d.macidCtl id = true ↔ ∃ p, d.Holds p id)
  sta : ∀ id, id < macidNum → ∀ p, d.Holds p id → d.macidCtl.sta id = some p

/-- The same for the ids below `macid_ctl.num` but the default one, over all adapters; that one
is used from the start, and has no entry. -/
structure InStep (d : Dvobj ι P) : Prop where
  unshared : ∀ p q, ∀ sp ∈ d.stas p, ∀ sq ∈ d.stas q, sp.macId = sq.macId →
    sp.macId < macidNum → sp.macId ≠ rtwDefaultMgmtMacid → p = q
  used : ∀ id, id < macidNum → id ≠ rtwDefaultMgmtMacid →
    (rtwMacidIsUsed d.macidCtl id = true ↔ ∃ p, d.Holds p id)
  sta : ∀ id, id < macidNum → id ≠ rtwDefaultMgmtMacid →
    ∀ p, d.macidCtl.sta id = some p ↔ d.Holds p id
  defaultUsed : rtwMacidIsUsed d.macidCtl rtwDefaultMgmtMacid = true
  defaultSta : d.macidCtl.sta rtwDefaultMgmtMacid = none

/-- What holds between the entries and the tables: the id of an entry is that of a slot of
`sta`, whose bits are set and no others. -/
structure Tied (ad : Adapters ι) (d : Dvobj ι P) : Prop where
  sta : ∀ id, id ≠ rtwDefaultMgmtMacid → id < macidNum →
    ∀ p, d.macidCtl.sta id = some p ↔ d.Holds p id
  used : ∀ id, id < macidNum → (rtwMacidIsUsed d.macidCtl id = true ↔
    id = rtwDefaultMgmtMacid ∨ (d.macidCtl.sta id).isSome = true)
  ifG : ∀ id, id < macidNum → id ≠ rtwDefaultMgmtMacid → ∀ a,
    (rtwMacidIsSet (d.macidCtl.ifG a) id = true ↔
      ∃ p, ∃ sta ∈ d.stas p, sta.macId = id ∧ sta.padapter = a)
  defaultSta : d.macidCtl.sta rtwDefaultMgmtMacid = none
  own : ∀ p, ∀ sta ∈ d.stas p, sta.macAddr = ad.macAddr sta.padapter → macidNum ≤ sta.macId

omit [DecidableEq ι] [DecidableEq P] in
lemma Tied.inStep (h : Tied ad d) : InStep d where
  unshared := by
    intro p q sp hp sq hq heq hlt hne
    have hsp := (h.sta _ hne hlt p).2 ⟨sp, hp, rfl⟩
    have hsq := (h.sta _ hne hlt q).2 ⟨sq, hq, heq.symm⟩
    exact Option.some.inj (hsp.symm.trans hsq)
  used := by
    intro id hlt hne
    rw [h.used id hlt, or_iff_right hne, Option.isSome_iff_exists]
    exact exists_congr fun p => h.sta id hne hlt p
  sta id hlt hne := h.sta id hne hlt
  defaultUsed := (h.used _ (by decide)).2 (.inl rfl)
  defaultSta := h.defaultSta

/-! ### Bits -/

lemma rtwMacidIsSet_set (map : BitVec 32) (id x : ℕ) :
    rtwMacidIsSet (rtwMacidMapSet map id) x =
      (rtwMacidIsSet map x || (decide (x = id) && decide (x < 32))) := by
  simp only [rtwMacidIsSet, rtwMacidMapSet, rtwSecCamidIsSet_eq, getLsbD_rtwSecCamMapSet]

lemma rtwMacidIsSet_clr (map : BitVec 32) (id x : ℕ) :
    rtwMacidIsSet (rtwMacidMapClr map id) x = (rtwMacidIsSet map x && decide (x ≠ id)) := by
  simp only [rtwMacidIsSet, rtwMacidMapClr, rtwSecCamidIsSet_eq, getLsbD_rtwSecCamMapClr]

lemma rtwMacidIsSet_zero (x : ℕ) : rtwMacidIsSet 0 x = false := by
  rw [rtwMacidIsSet, rtwSecCamidIsSet_eq]
  exact BitVec.getLsbD_zero

lemma macidNum_le : macidNum ≤ 32 := by decide

omit [DecidableEq ι] [DecidableEq P] in
lemma tied_start (camCtl : CamCtl) : Tied ad (start camCtl : Dvobj ι P) where
  sta := by
    intro id _ _ p
    exact iff_of_false (fun h => by cases h) (fun ⟨sta, hsta, _⟩ => by cases hsta)
  used := by
    intro id hlt
    have hle := macidNum_le
    change rtwMacidIsSet (rtwMacidMapSet 0 rtwDefaultMgmtMacid) id = true ↔ _
    rw [rtwMacidIsSet_set, rtwMacidIsSet_zero]
    simp [start, rtwMacidCtlInit, lt_of_lt_of_le hlt hle]
  ifG := by
    intro id hlt hne a
    refine iff_of_false (fun h => ?_) (fun ⟨p, sta, hsta, _⟩ => by cases hsta)
    have hset : rtwMacidIsSet (rtwMacidMapSet 0 rtwDefaultMgmtMacid) id = true := h
    rw [rtwMacidIsSet_set, rtwMacidIsSet_zero] at hset
    exact hne (by simpa using hset : id = rtwDefaultMgmtMacid ∧ id < 32).1
  defaultSta := rfl
  own := fun p sta hsta => by cases hsta

/-! ### Allocation -/

omit [DecidableEq ι] [DecidableEq P] in
lemma freeMacid_spec {m : MacidCtl ι P} {c : CamCtl} {isBcSta : Bool} {i : ℕ}
    (h : freeMacid m c isBcSta = some i) : i < macidNum ∧ rtwMacidIsUsed m i = false := by
  have hmem := List.mem_of_find?_eq_some h
  have hfree := List.find?_some h
  rw [Bool.and_eq_true, Bool.not_eq_true', Bool.not_eq_true'] at hfree
  exact ⟨List.mem_range.1 hmem, hfree.2⟩

omit [DecidableEq ι] [DecidableEq P] in
/-- What is not in these tables does not matter. -/
lemma Tied.congr {d' : Dvobj ι P} (h : Tied ad d) (hstas : d'.stas = d.stas)
    (hused : d'.macidCtl.used = d.macidCtl.used) (hifG : d'.macidCtl.ifG = d.macidCtl.ifG)
    (hsta : d'.macidCtl.sta = d.macidCtl.sta) : Tied ad d' := by
  obtain ⟨⟨used, bmc, ifG, chG, ifaceBmc, sta⟩, camCtl, stas⟩ := d'
  subst hstas hused hifG hsta
  exact ⟨h.sta, h.used, h.ifG, h.defaultSta, h.own⟩

omit [DecidableEq ι] in
/-- An entry without an id of its own is added. -/
lemma Tied.add (h : Tied ad d) (hnew : d.stas p = none) {sta : StaInfo ι}
    (hid : macidNum ≤ sta.macId ∨
      sta.macId = rtwDefaultMgmtMacid ∧ sta.macAddr ≠ ad.macAddr sta.padapter) :
    Tied ad { d with stas := update d.stas p (some sta) } := by
  have hother : ∀ id, id < macidNum → id ≠ rtwDefaultMgmtMacid → sta.macId ≠ id := by
    rintro id hlt hne rfl
    rcases hid with hle | ⟨heq, -⟩
    · exact absurd hle (Nat.not_le.2 hlt)
    · exact hne heq
  have hstas : ∀ id, id < macidNum → id ≠ rtwDefaultMgmtMacid → ∀ (Q : StaInfo ι → Prop) q,
      (∃ s ∈ update d.stas p (some sta) q, s.macId = id ∧ Q s) ↔
        ∃ s ∈ d.stas q, s.macId = id ∧ Q s := by
    intro id hlt hne Q q
    by_cases hq : q = p
    · subst hq
      rw [update_self, hnew]
      refine iff_of_false ?_ (by simp)
      rintro ⟨s, hs, heq, -⟩
      obtain rfl := Option.some.inj hs
      exact hother id hlt hne heq
    · rw [update_of_ne hq]
  refine ⟨fun id hne hlt q => ?_, h.used, fun id hlt hne a => ?_, h.defaultSta, fun q s hs => ?_⟩
  · rw [h.sta id hne hlt q]
    have hiff := hstas id hlt hne (fun _ => True) q
    simp only [and_true] at hiff
    exact hiff.symm
  · rw [h.ifG id hlt hne a]
    exact exists_congr fun q => (hstas id hlt hne (·.padapter = a) q).symm
  · by_cases hq : q = p
    · subst hq
      have hsome : update d.stas q (some sta) q = some s := hs
      rw [update_self] at hsome
      obtain rfl := Option.some.inj hsome
      rintro heq
      exact hid.resolve_right fun hand => hand.2 heq
    · have hsome : update d.stas p (some sta) q = some s := hs
      rw [update_of_ne hq] at hsome
      exact h.own q s hsome

/-- An entry takes a free id. -/
lemma Tied.take (h : Tied ad d) (hnew : d.stas p = none) {macAddr : MacAddr} {isBcSta : Bool}
    {i : ℕ} (hlt : i < macidNum) (hfree : rtwMacidIsUsed d.macidCtl i = false)
    (haddr : macAddr ≠ ad.macAddr a) :
    Tied ad { takeMacid ad d a p isBcSta i with
      stas := update d.stas p (some ⟨a, macAddr, i⟩) } := by
  have hi : ¬ (i = rtwDefaultMgmtMacid ∨ (d.macidCtl.sta i).isSome = true) := by
    rw [← h.used i hlt, hfree]
    exact Bool.false_ne_true
  rw [not_or, Bool.not_eq_true, Option.isSome_eq_false_iff, Option.isNone_iff_eq_none] at hi
  obtain ⟨hidef, hinone⟩ := hi
  have hunheld : ∀ q, ¬ d.Holds q i := fun q hq => by
    have hsome := (h.sta i hidef hlt q).2 hq
    rw [hinone] at hsome
    cases hsome
  have h32 : ∀ id, id < macidNum → id < 32 := fun id hid => lt_of_lt_of_le hid macidNum_le
  refine ⟨fun id hne hid q => ?_, fun id hid => ?_, fun id hid hne b => ?_, ?_, fun q s hs => ?_⟩
  · change update d.macidCtl.sta i (some p) id = some q ↔
      ∃ s ∈ update d.stas p (some ⟨a, macAddr, i⟩) q, s.macId = id
    by_cases heq : id = i
    · subst heq
      rw [update_self]
      by_cases hq : q = p
      · subst hq
        rw [update_self]
        exact iff_of_true rfl ⟨_, rfl, rfl⟩
      · rw [update_of_ne hq]
        exact iff_of_false (fun hsome => hq (Option.some.inj hsome).symm) (hunheld q)
    · rw [update_of_ne heq, h.sta id hne hid q]
      by_cases hq : q = p
      · subst hq
        rw [update_self]
        refine iff_of_false (fun ⟨s, hs, _⟩ => by rw [hnew] at hs; cases hs) ?_
        rintro ⟨s, hs, hsid⟩
        obtain rfl := Option.some.inj hs
        exact heq hsid.symm
      · rw [update_of_ne hq]
        rfl
  · change rtwMacidIsSet (rtwMacidMapSet d.macidCtl.used i) id = true ↔
      id = rtwDefaultMgmtMacid ∨ (update d.macidCtl.sta i (some p) id).isSome = true
    have hused := h.used id hid
    rw [rtwMacidIsUsed] at hused
    rw [rtwMacidIsSet_set, Bool.or_eq_true, hused]
    by_cases heq : id = i
    · subst heq
      rw [update_self]
      exact iff_of_true (.inr (by simp [h32 id hid])) (.inr rfl)
    · rw [update_of_ne heq]
      simp [heq]
  · change rtwMacidIsSet (update d.macidCtl.ifG a (rtwMacidMapSet (d.macidCtl.ifG a) i) b) id =
        true ↔ ∃ q, ∃ s ∈ update d.stas p (some ⟨a, macAddr, i⟩) q, s.macId = id ∧ s.padapter = b
    have hbit : rtwMacidIsSet (update d.macidCtl.ifG a
        (rtwMacidMapSet (d.macidCtl.ifG a) i) b) id = true ↔
        rtwMacidIsSet (d.macidCtl.ifG b) id = true ∨ id = i ∧ b = a := by
      by_cases hb : b = a
      · subst hb
        rw [update_self, rtwMacidIsSet_set, Bool.or_eq_true]
        simp [h32 id hid]
      · rw [update_of_ne hb]
        simp [hb]
    rw [hbit, h.ifG id hid hne b]
    constructor
    · rintro (⟨q, s, hs, hsid, hsb⟩ | ⟨rfl, rfl⟩)
      · refine ⟨q, s, ?_, hsid, hsb⟩
        rw [update_of_ne (fun hq => ?_)]
        · exact hs
        · rw [hq, hnew] at hs
          cases hs
      · exact ⟨p, _, update_self .., rfl, rfl⟩
    · rintro ⟨q, s, hs, hsid, hsb⟩
      by_cases hq : q = p
      · subst hq
        rw [update_self] at hs
        obtain rfl := Option.some.inj hs
        exact .inr ⟨hsid.symm, hsb.symm⟩
      · rw [update_of_ne hq] at hs
        exact .inl ⟨q, s, hs, hsid, hsb⟩
  · change update d.macidCtl.sta i (some p) rtwDefaultMgmtMacid = none
    rw [update_of_ne (Ne.symm hidef)]
    exact h.defaultSta
  · have hsome : update d.stas p (some ⟨a, macAddr, i⟩) q = some s := hs
    by_cases hq : q = p
    · subst hq
      rw [update_self] at hsome
      obtain rfl := Option.some.inj hsome
      exact fun heq => absurd heq haddr
    · rw [update_of_ne hq] at hsome
      exact h.own q s hsome

lemma Tied.alloc [Fintype ι] (h : Tied ad d) {staOrNull : Bool} {macAddr : MacAddr} :
    Tied ad (step ad d (.alloc a staOrNull p macAddr)).1 := by
  unfold step
  dsimp only
  cases hnew : d.stas p with
  | some sta => exact h
  | none =>
      dsimp only
      unfold rtwAllocMacid
      by_cases hown : macAddr = ad.macAddr a
      · rw [if_pos hown]
        exact h.add hnew (.inl le_rfl)
      · rw [if_neg hown]
        -- the id of the group entry in the CAM is no part of the tables
        set d' := if decide (macAddr = bcAddr) = true then
          { d with macidCtl := { d.macidCtl with
            ifaceBmc := update d.macidCtl.ifaceBmc a invalidSecMacCamId } } else d with hd'
        have hfields : d'.stas = d.stas ∧ Tied ad d' := by
          rw [hd']
          split
          · exact ⟨rfl, h.congr rfl rfl rfl rfl⟩
          · exact ⟨rfl, h⟩
        have hnew' : d'.stas p = none := by rw [hfields.1, hnew]
        dsimp only
        split
        · exact hfields.2.add hnew' (.inr ⟨rfl, hown⟩)
        · split
          · rename_i i hfind
            obtain ⟨hlt, hfree⟩ := freeMacid_spec hfind
            exact hfields.2.take hnew' hlt hfree hown
          · exact hfields.2.add hnew' (.inl le_rfl)

/-! ### Release -/

/-- An entry goes, and its id is free. -/
lemma Tied.drop [Fintype ι] (h : Tied ad d) {sta : StaInfo ι} (hsta : d.stas p = some sta)
    (hlt : sta.macId < macidNum) (hne : sta.macId ≠ rtwDefaultMgmtMacid) :
    Tied ad { d with
      macidCtl := dropMacid d.macidCtl sta.padapter sta.macId
      stas := update d.stas p none } := by
  have honly : ∀ q, d.Holds q sta.macId → q = p := by
    intro q hq
    have hp := (h.sta _ hne hlt p).2 ⟨sta, hsta, rfl⟩
    have hq' := (h.sta _ hne hlt q).2 hq
    exact Option.some.inj (hq'.symm.trans hp)
  -- no other adapter has the id
  have hlast : ∀ b, b ≠ sta.padapter →
      rtwMacidIsSet (d.macidCtl.ifG b) sta.macId = false := by
    intro b hb
    rw [← Bool.not_eq_true, h.ifG _ hlt hne b]
    rintro ⟨q, s, hs, hsid, hsb⟩
    obtain rfl := honly q ⟨s, hs, hsid⟩
    rw [hsta] at hs
    obtain rfl := Option.some.inj hs
    exact hb hsb.symm
  have hstas : ∀ id, id ≠ sta.macId → ∀ (Q : StaInfo ι → Prop) q,
      (∃ s ∈ update d.stas p none q, s.macId = id ∧ Q s) ↔ ∃ s ∈ d.stas q, s.macId = id ∧ Q s := by
    intro id hid Q q
    by_cases hq : q = p
    · subst hq
      rw [update_self, hsta]
      refine iff_of_false (by simp) ?_
      rintro ⟨s, hs, heq, -⟩
      obtain rfl := Option.some.inj hs
      exact hid heq.symm
    · rw [update_of_ne hq]
  have hgone : ∀ (Q : StaInfo ι → Prop) q,
      ¬ ∃ s ∈ update d.stas p none q, s.macId = sta.macId ∧ Q s := by
    rintro Q q ⟨s, hs, hsid, -⟩
    by_cases hq : q = p
    · rw [hq, update_self] at hs
      cases hs
    · rw [update_of_ne hq] at hs
      exact hq (honly q ⟨s, hs, hsid⟩)
  unfold dropMacid
  rw [if_pos hlast]
  refine ⟨fun id hid hidlt q => ?_, fun id hidlt => ?_, fun id hidlt hid b => ?_, ?_,
    fun q s hs => ?_⟩
  · change update d.macidCtl.sta sta.macId none id = some q ↔
      ∃ s ∈ update d.stas p none q, s.macId = id
    have hholds := hstas id
    by_cases heq : id = sta.macId
    · subst heq
      rw [update_self]
      refine iff_of_false (by simp) ?_
      have := hgone (fun _ => True) q
      simpa only [and_true] using this
    · rw [update_of_ne heq, h.sta id hid hidlt q]
      have := hstas id heq (fun _ => True) q
      simp only [and_true] at this
      exact this.symm
  · change rtwMacidIsSet (rtwMacidMapClr d.macidCtl.used sta.macId) id = true ↔
      id = rtwDefaultMgmtMacid ∨ (update d.macidCtl.sta sta.macId none id).isSome = true
    have hused := h.used id hidlt
    rw [rtwMacidIsUsed] at hused
    rw [rtwMacidIsSet_clr, Bool.and_eq_true, hused, decide_eq_true_iff]
    by_cases heq : id = sta.macId
    · subst heq
      rw [update_self]
      simp [hne]
    · rw [update_of_ne heq]
      simp [heq]
  · change rtwMacidIsSet (update d.macidCtl.ifG sta.padapter
        (rtwMacidMapClr (d.macidCtl.ifG sta.padapter) sta.macId) b) id = true ↔
      ∃ q, ∃ s ∈ update d.stas p none q, s.macId = id ∧ s.padapter = b
    by_cases heq : id = sta.macId
    · subst heq
      refine iff_of_false (fun hset => ?_) (fun ⟨q, hq⟩ => hgone (·.padapter = b) q hq)
      by_cases hb : b = sta.padapter
      · subst hb
        rw [update_self, rtwMacidIsSet_clr] at hset
        simp at hset
      · rw [update_of_ne hb, hlast b hb] at hset
        cases hset
    · have hbit : rtwMacidIsSet (update d.macidCtl.ifG sta.padapter
          (rtwMacidMapClr (d.macidCtl.ifG sta.padapter) sta.macId) b) id =
          rtwMacidIsSet (d.macidCtl.ifG b) id := by
        by_cases hb : b = sta.padapter
        · subst hb
          rw [update_self, rtwMacidIsSet_clr]
          simp [heq]
        · rw [update_of_ne hb]
      rw [hbit, h.ifG id hidlt hid b]
      exact exists_congr fun q => (hstas id heq (·.padapter = b) q).symm
  · change update d.macidCtl.sta sta.macId none rtwDefaultMgmtMacid = none
    rw [update_of_ne (Ne.symm hne)]
    exact h.defaultSta
  · have hsome : update d.stas p none q = some s := hs
    by_cases hq : q = p
    · rw [hq, update_self] at hsome
      cases hsome
    · rw [update_of_ne hq] at hsome
      exact h.own q s hsome

omit [DecidableEq ι] in
/-- An entry without an id of its own goes. -/
lemma Tied.remove (h : Tied ad d) {sta : StaInfo ι} (hsta : d.stas p = some sta)
    (hid : macidNum ≤ sta.macId ∨ sta.macId = rtwDefaultMgmtMacid) :
    Tied ad { d with stas := update d.stas p none } := by
  have hstas : ∀ id, id < macidNum → id ≠ rtwDefaultMgmtMacid → ∀ (Q : StaInfo ι → Prop) q,
      (∃ s ∈ update d.stas p none q, s.macId = id ∧ Q s) ↔ ∃ s ∈ d.stas q, s.macId = id ∧ Q s := by
    intro id hlt hne Q q
    by_cases hq : q = p
    · subst hq
      rw [update_self, hsta]
      refine iff_of_false (by simp) ?_
      rintro ⟨s, hs, rfl, -⟩
      obtain rfl := Option.some.inj hs
      rcases hid with hle | heq
      · exact absurd hle (Nat.not_le.2 hlt)
      · exact hne heq
    · rw [update_of_ne hq]
  refine ⟨fun id hne hlt q => ?_, h.used, fun id hlt hne b => ?_, h.defaultSta, fun q s hs => ?_⟩
  · rw [h.sta id hne hlt q]
    have hiff := hstas id hlt hne (fun _ => True) q
    simp only [and_true] at hiff
    exact hiff.symm
  · rw [h.ifG id hlt hne b]
    exact exists_congr fun q => (hstas id hlt hne (·.padapter = b) q).symm
  · have hsome : update d.stas p none q = some s := hs
    by_cases hq : q = p
    · rw [hq, update_self] at hsome
      cases hsome
    · rw [update_of_ne hq] at hsome
      exact h.own q s hsome

lemma Tied.free [Fintype ι] (h : Tied ad d) : Tied ad (step ad d (.free p)).1 := by
  unfold step
  dsimp only
  cases hsta : d.stas p with
  | none => exact h
  | some sta =>
      dsimp only
      unfold rtwReleaseMacid
      by_cases hown : sta.macAddr = ad.macAddr sta.padapter
      · rw [if_pos hown]
        exact h.remove hsta (.inl (h.own p sta hsta hown))
      · rw [if_neg hown]
        by_cases hnone : macidNum ≤ sta.macId
        · rw [if_pos hnone]
          exact h.remove hsta (.inl hnone)
        · rw [if_neg hnone]
          by_cases hdef : sta.macId = rtwDefaultMgmtMacid
          · rw [if_pos hdef]
            exact h.remove hsta (.inr hdef)
          · rw [if_neg hdef]
            have hlt := Nat.lt_of_not_le hnone
            have hsome := (h.sta _ hdef hlt p).2 ⟨sta, hsta, rfl⟩
            have hused : rtwMacidIsUsed d.macidCtl sta.macId = true :=
              (h.used _ hlt).2 (.inr (by rw [hsome]; rfl))
            have hself : rtwMacidIsSet (d.macidCtl.ifG sta.padapter) sta.macId = true :=
              (h.ifG _ hlt hdef _).2 ⟨p, sta, hsta, rfl, rfl⟩
            rw [if_neg (by rw [hused]; decide), if_neg (by rw [hself]; decide)]
            dsimp only
            split
            · refine Tied.drop ?_ hsta hlt hdef
              exact h.congr rfl rfl rfl rfl
            · exact h.drop hsta hlt hdef

/-- **The MAC ids.**  In every state that allocations and releases lead to, the tables are in
step for all ids but the default one. -/
theorem macid_inStep [Fintype ι] (ad : Adapters ι) (camCtl : CamCtl) (es : List (Event ι P)) :
    InStep (final (step ad) (start camCtl) es) := by
  have hsteps : Along (step ad) (fun (_ : Dvobj ι P) _ => True) (start camCtl) es :=
    along_of_forall fun _ _ => trivial
  refine (final_induction (I := Tied ad) (fun d e _ h => ?_) (tied_start camCtl) hsteps).inStep
  cases e with
  | alloc padapter staOrNull psta macAddr => exact h.alloc
  | free psta => exact h.free
  | cam camCtl => exact h.congr rfl rfl rfl rfl

/-- The default id is used though no entry has it, and the group entry of a station shares it
without a place in `sta`. -/
theorem macid_default_reserved :
    ¬ InStepAll (start ⟨8, by decide, true, 0, fun _ => .zero⟩ : Dvobj Unit Unit) ∧
      ¬ InStepAll (final
        (step ⟨fun _ => MacAddr.ofBytes 2 0 0 0 0 1, false⟩)
        (start ⟨8, by decide, true, 0, fun _ => .zero⟩ : Dvobj Unit Unit)
        [.alloc () true () bcAddr]) := by
  constructor
  · intro h
    obtain ⟨p, sta, hsta, -⟩ := (h.used rtwDefaultMgmtMacid (by decide)).1 (by decide)
    cases hsta
  · intro h
    have hsome := h.sta rtwDefaultMgmtMacid (by decide) ()
      ⟨⟨(), bcAddr, rtwDefaultMgmtMacid⟩, rfl, rfl⟩
    exact absurd hsome (by decide +kernel)

end Rtl8723du.Macid
