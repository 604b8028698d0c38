import Rtl8723du.Lib.Links
import Rtl8723du.Lib.Machine
import Rtl8723du.Recv.Frame

/-!
# The access control lists

There is a list of addresses for the device and one for the BSS (`RTW_ACL_PERIOD_DEV` and `_BSS`).
Each has sixteen entries with a valid flag, of which the valid ones are linked and counted by hand,
and a mode that says what the list is for.  Over a run each list is the set that its operations
make, as long as it has room (`acl_run`).
-/

namespace Rtl8723du

open Lib.Links

/-! ### The operations -/

/-- `NUM_ACL`. -/
abbrev numAcl : ℕ := 16

/-- `RTW_ACL_PERIOD_NUM`. -/
abbrev rtwAclPeriodNum : ℕ := 2

/-- `RTW_ACL_MODE_DISABLED`. -/
abbrev rtwAclModeDisabled : ℤ := 0

/-- `RTW_ACL_MODE_ACCEPT_UNLESS_LISTED`. -/
abbrev rtwAclModeAcceptUnlessListed : ℤ := 1

/-- `RTW_ACL_MODE_DENY_UNLESS_LISTED`. -/
abbrev rtwAclModeDenyUnlessListed : ℤ := 2

/-- `struct rtw_wlan_acl_node`. -/
structure AclNode where
  addr : MacAddr
  valid : Bool

/-- `struct wlan_acl_pool`. -/
structure AclPool where
  mode : ℤ
  num : ℤ
  aclnode : Fin numAcl → AclNode
  aclNodeQ : List (Fin numAcl)

/-- `acl_list`, by the period. -/
abbrev AclList := ℕ → AclPool

/-- `rtw_macaddr_acl_init`. -/
def rtwMacaddrAclInit (acl : AclPool) : AclPool where
  mode := rtwAclModeDisabled
  num := 0
  aclnode i := { acl.aclnode i with valid := false }
  aclNodeQ := []

/-- A valid entry of the list has the address. -/
def AclPool.listed (acl : AclPool) (addr : MacAddr) : Bool :=
  acl.aclNodeQ.any fun i => (acl.aclnode i).addr == addr && (acl.aclnode i).valid

/-- The entry `i` is used for the address. -/
def AclPool.use (acl : AclPool) (i : Fin numAcl) (addr : MacAddr) : AclPool :=
  { acl with
    num := acl.num + 1
    aclnode := Function.update acl.aclnode i ⟨addr, true⟩
    aclNodeQ := acl.aclNodeQ ++ [i] }

/-- The entry `i` is no longer used. -/
def AclPool.delete (acl : AclPool) (i : Fin numAcl) : AclPool :=
  { acl with
    num := acl.num - 1
    aclnode := Function.update acl.aclnode i { acl.aclnode i with valid := false }
    aclNodeQ := unlink acl.aclNodeQ i }

/-- The loop that goes over the list and deletes valid entries. -/
def AclPool.deleteIf (p : MacAddr → Bool) (acl : AclPool) (list : List (Fin numAcl)) : AclPool :=
  list.foldl (fun acl i =>
    if p (acl.aclnode i).addr && (acl.aclnode i).valid then acl.delete i else acl) acl

/-- `_rtw_macaddr_acl_deinit`. -/
def rtwMacaddrAclDeinit (aclList : AclList) (period : ℕ) : AclList :=
  if rtwAclPeriodNum ≤ period then aclList
  else
    let acl := aclList period
    Function.update aclList period
      { acl.deleteIf (fun _ => true) acl.aclNodeQ with mode := rtwAclModeDisabled }

/-- `rtw_set_macaddr_acl`. -/
def rtwSetMacaddrAcl (aclList : AclList) (period : ℕ) (mode : ℤ) : AclList :=
  if rtwAclPeriodNum ≤ period then aclList
  else Function.update aclList period { aclList period with mode }

/-- `rtw_acl_add_sta`. -/
def rtwAclAddSta (aclList : AclList) (period : ℕ) (addr : MacAddr) : AclList × ℤ :=
  if rtwAclPeriodNum ≤ period then (aclList, -1)
  else
    let acl := aclList period
    if acl.listed addr then (aclList, 0)
    else if numAcl ≤ acl.num then (aclList, -1)
    else
      -- find empty one and use
      ((List.finRange numAcl).find? fun i => !(acl.aclnode i).valid).elim (aclList, -1) fun i =>
        (Function.update aclList period (acl.use i addr), 0)

/-- `rtw_acl_remove_sta`. -/
def rtwAclRemoveSta (aclList : AclList) (period : ℕ) (addr : MacAddr) : AclList × ℤ :=
  if rtwAclPeriodNum ≤ period then (aclList, 0)
  else
    let acl := aclList period
    let isBaddr := addr == bcAddr
    (Function.update aclList period (acl.deleteIf (fun a => isBaddr || a == addr) acl.aclNodeQ), 0)

/-- `_rtw_access_ctrl`. -/
def rtwAccessCtrlPeriod (aclList : AclList) (period : ℕ) (macAddr : MacAddr) : Bool :=
  if rtwAclPeriodNum ≤ period then true
  else
    let acl := aclList period
    if acl.mode ≠ rtwAclModeAcceptUnlessListed ∧ acl.mode ≠ rtwAclModeDenyUnlessListed then true
    else if acl.mode = rtwAclModeAcceptUnlessListed then !acl.listed macAddr
    else acl.listed macAddr

/-- `rtw_access_ctrl`. -/
def rtwAccessCtrl (aclList : AclList) (macAddr : MacAddr) : Bool :=
  (List.range rtwAclPeriodNum).all fun i => rtwAccessCtrlPeriod aclList i macAddr

/-- What is done to the lists; `clear` and `deinit` differ only in the lock. -/
inductive AclOp
  | add (period : ℕ) (addr : MacAddr)
  | remove (period : ℕ) (addr : MacAddr)
  | setMode (period : ℕ) (mode : ℤ)
  | clear (period : ℕ)
  | deinit (period : ℕ)

/-- An operation, and what it returns. -/
def aclStep (s : AclList) : AclOp → AclList × List ℤ
  | .add period addr => ((rtwAclAddSta s period addr).1, [(rtwAclAddSta s period addr).2])
  | .remove period addr => ((rtwAclRemoveSta s period addr).1, [(rtwAclRemoveSta s period addr).2])
  | .setMode period mode => (rtwSetMacaddrAcl s period mode, [])
  | .clear period => (rtwMacaddrAclDeinit s period, [])
  | .deinit period => (rtwMacaddrAclDeinit s period, [])

/-! ### What they are for -/

/-- A list as it is meant: a set and a mode. -/
structure AclSet where
  addrs : Finset MacAddr := ∅
  mode : ℤ := rtwAclModeDisabled

/-- What an operation means for the list of the period `p`. -/
def AclSet.step (p : ℕ) (s : AclSet) : AclOp → AclSet
  | .add period addr => if period = p then { s with addrs := insert addr s.addrs } else s
  | .remove period addr =>
      if period = p then
        { s with addrs := if addr = bcAddr then ∅ else s.addrs.erase addr }
      else s
  | .setMode period mode => if period = p then { s with mode } else s
  | .clear period => if period = p then {} else s
  | .deinit period => if period = p then {} else s

/-- Whether a station may come in. -/
def AclSet.Accepts (s : AclSet) (addr : MacAddr) : Prop :=
  (s.mode = rtwAclModeAcceptUnlessListed → addr ∉ s.addrs) ∧
    (s.mode = rtwAclModeDenyUnlessListed → addr ∈ s.addrs)

/-- The addresses of the valid entries. -/
def AclPool.addrs (acl : AclPool) : Finset MacAddr :=
  (Finset.univ.filter fun i => (acl.aclnode i).valid = true).image fun i => (acl.aclnode i).addr

/-- The set that a list is. -/
def AclPool.toSet (acl : AclPool) : AclSet := ⟨acl.addrs, acl.mode⟩

/-- The valid entries are linked once and counted, and have different addresses. -/
structure AclPool.Inv (acl : AclPool) : Prop where
  nodup : acl.aclNodeQ.Nodup
  mem : ∀ i, i ∈ acl.aclNodeQ ↔ (acl.aclnode i).valid = true
  num : acl.num = tally fun i => (acl.aclnode i).valid
  inj : ∀ i j, (acl.aclnode i).valid = true → (acl.aclnode j).valid = true →
    (acl.aclnode i).addr = (acl.aclnode j).addr → i = j

namespace AclPool

variable {acl : AclPool} {addr : MacAddr} {i : Fin numAcl}

lemma mem_addrs : addr ∈ acl.addrs ↔
    ∃ i, (acl.aclnode i).valid = true ∧ (acl.aclnode i).addr = addr := by
  simp [addrs]

/-! ### One entry -/

lemma Inv.listed_iff (h : acl.Inv) (addr : MacAddr) :
    acl.listed addr = true ↔ addr ∈ acl.addrs := by
  rw [listed, List.any_eq_true, mem_addrs]
  constructor
  · rintro ⟨i, -, hi⟩
    obtain ⟨haddr, hvalid⟩ := (Bool.and_eq_true _ _).mp hi
    exact ⟨i, hvalid, eq_of_beq haddr⟩
  · rintro ⟨i, hvalid, rfl⟩
    exact ⟨i, (h.mem i).2 hvalid, by simp [hvalid]⟩

/-- The count is the number of addresses. -/
lemma Inv.num_eq_card (h : acl.Inv) : acl.num = acl.addrs.card := by
  rw [h.num, tally, addrs, Finset.card_image_of_injOn]
  intro i hi j hj
  exact h.inj i j (by simpa using hi) (by simpa using hj)

lemma addrs_card_le (acl : AclPool) : acl.addrs.card ≤ numAcl := by
  refine Finset.card_image_le.trans ((Finset.card_filter_le _ _).trans ?_)
  rw [Finset.card_univ, Fintype.card_fin]

lemma valid_update (node : AclNode) : (fun j => (Function.update acl.aclnode i node j).valid) =
    Function.update (fun j => (acl.aclnode j).valid) i node.valid := by
  ext1 j
  by_cases hj : j = i
  · subst hj
    simp
  · simp [hj]

/-- An entry that is not in use takes a new address. -/
lemma Inv.use (h : acl.Inv) (hi : (acl.aclnode i).valid = false) (haddr : addr ∉ acl.addrs) :
    (acl.use i addr).Inv ∧ (acl.use i addr).addrs = insert addr acl.addrs := by
  have hne {j : Fin numAcl} (hj : (acl.aclnode j).valid = true) : j ≠ i := by
    rintro rfl
    rw [hi] at hj
    cases hj
  refine ⟨⟨?_, fun j => ?_, ?_, fun j k hj hk hjk => ?_⟩, ?_⟩
  · refine nodup_append_singleton h.nodup fun hmem => ?_
    exact hne ((h.mem i).1 hmem) rfl
  · by_cases hj : j = i
    · subst hj
      simp [AclPool.use]
    · simp [AclPool.use, hj, h.mem j]
  · show acl.num + 1 = tally fun j => (Function.update acl.aclnode i ⟨addr, true⟩ j).valid
    rw [valid_update, tally_update, hi, h.num, share_false, share_true, sub_zero]
  · by_contra hne'
    have hother {j : Fin numAcl} (hj : j ≠ i) (hv : ((acl.use i addr).aclnode j).valid = true)
        (ha : ((acl.use i addr).aclnode j).addr = addr) : False := by
      simp only [AclPool.use, Function.update_of_ne hj] at hv ha
      exact haddr (mem_addrs.2 ⟨j, hv, ha⟩)
    by_cases hji : j = i
    · subst hji
      exact hother (Ne.symm hne') hk (by rw [← hjk]; simp [AclPool.use])
    · by_cases hki : k = i
      · subst hki
        exact hother hne' hj (by rw [hjk]; simp [AclPool.use])
      · simp only [AclPool.use, Function.update_of_ne hji, Function.update_of_ne hki] at hj hk hjk
        exact hne' (h.inj j k hj hk hjk)
  · ext a
    rw [Finset.mem_insert, mem_addrs, mem_addrs]
    constructor
    · rintro ⟨j, hj, rfl⟩
      by_cases hji : j = i
      · subst hji
        exact .inl (by simp [AclPool.use])
      · simp only [AclPool.use, Function.update_of_ne hji] at hj ⊢
        exact .inr ⟨j, hj, rfl⟩
    · rintro (rfl | ⟨j, hj, rfl⟩)
      · exact ⟨i, by simp [AclPool.use]⟩
      · have hsame : (acl.use i addr).aclnode j = acl.aclnode j :=
          Function.update_of_ne (hne hj) _ _
        exact ⟨j, by rwa [hsame], by rw [hsame]⟩

lemma Inv.delete (h : acl.Inv) (hi : (acl.aclnode i).valid = true) : (acl.delete i).Inv := by
  have hvalid {j : Fin numAcl} (hj : ((acl.delete i).aclnode j).valid = true) :
      j ≠ i ∧ (acl.aclnode j).valid = true := by
    by_cases hji : j = i
    · subst hji
      simp [AclPool.delete] at hj
    · exact ⟨hji, by simpa [AclPool.delete, hji] using hj⟩
  have hnode {j : Fin numAcl} (hj : j ≠ i) : (acl.delete i).aclnode j = acl.aclnode j :=
    Function.update_of_ne hj _ _
  refine ⟨nodup_unlink i h.nodup, fun j => ?_, ?_, fun j k hj hk hjk => ?_⟩
  · show j ∈ unlink acl.aclNodeQ i ↔ _
    rw [mem_unlink, h.mem j]
    constructor
    · rintro ⟨hj, hji⟩
      rwa [hnode hji]
    · intro hj
      exact ⟨(hvalid hj).2, (hvalid hj).1⟩
  · show acl.num - 1 =
      tally fun j => (Function.update acl.aclnode i { acl.aclnode i with valid := false } j).valid
    rw [valid_update, tally_update, hi, h.num, share_false, share_true, add_zero]
  · have hj' := hvalid hj
    have hk' := hvalid hk
    rw [hnode hj'.1, hnode hk'.1] at hjk
    exact h.inj j k hj'.2 hk'.2 hjk

/-! ### The loops over a list -/

/-- The loop deletes the valid entries of the list whose address it is to delete. -/
lemma Inv.deleteIf_spec (p : MacAddr → Bool) (list : List (Fin numAcl)) :
    ∀ {acl : AclPool}, acl.Inv → (acl.deleteIf p list).Inv ∧
      (acl.deleteIf p list).mode = acl.mode ∧
      ∀ i, (acl.deleteIf p list).aclnode i =
        if i ∈ list ∧ p (acl.aclnode i).addr = true then { acl.aclnode i with valid := false }
        else acl.aclnode i := by
  induction list with
  | nil => exact fun h => ⟨h, rfl, fun i => by simp [deleteIf]⟩
  | cons i list ih =>
      intro acl h
      by_cases hdel : (p (acl.aclnode i).addr && (acl.aclnode i).valid) = true
      · obtain ⟨hp, hvalid⟩ := (Bool.and_eq_true _ _).mp hdel
        have hstep : acl.deleteIf p (i :: list) = (acl.delete i).deleteIf p list := by
          simp only [deleteIf, List.foldl_cons, hdel, if_true]
        obtain ⟨hinv, hmode, hnode⟩ := ih (h.delete hvalid)
        rw [hstep]
        refine ⟨hinv, hmode, fun j => ?_⟩
        rw [hnode j]
        by_cases hji : j = i
        · subst hji
          simp [AclPool.delete, hp]
        · have hsame : (acl.delete i).aclnode j = acl.aclnode j := Function.update_of_ne hji _ _
          rw [hsame]
          simp [hji]
      · have hstep : acl.deleteIf p (i :: list) = acl.deleteIf p list := by
          simp only [deleteIf, List.foldl_cons, hdel, Bool.false_eq_true, if_false]
        obtain ⟨hinv, hmode, hnode⟩ := ih h
        rw [hstep]
        refine ⟨hinv, hmode, fun j => ?_⟩
        rw [hnode j]
        by_cases hji : j = i
        · -- the entry is not to be deleted, or was not in use
          subst hji
          by_cases hp : p (acl.aclnode j).addr = true
          · have hvalid : (acl.aclnode j).valid = false := by simpa [hp] using hdel
            have hnone : ({ acl.aclnode j with valid := false } : AclNode) = acl.aclnode j := by
              rw [← hvalid]
            simp [hnone]
          · simp [hp]
        · simp [hji]

/-- Over the whole list, the loop deletes the addresses it is to delete. -/
lemma Inv.deleteIf (h : acl.Inv) (p : MacAddr → Bool) :
    (acl.deleteIf p acl.aclNodeQ).Inv ∧ (acl.deleteIf p acl.aclNodeQ).mode = acl.mode ∧
      (acl.deleteIf p acl.aclNodeQ).addrs = acl.addrs.filter fun a => ¬ p a = true := by
  obtain ⟨hinv, hmode, hnode⟩ := Inv.deleteIf_spec p acl.aclNodeQ h
  refine ⟨hinv, hmode, ?_⟩
  ext a
  rw [Finset.mem_filter, mem_addrs, mem_addrs]
  constructor
  · rintro ⟨i, hvalid, rfl⟩
    rw [hnode i] at hvalid ⊢
    split at hvalid
    · cases hvalid
    · rename_i hkeep
      rw [if_neg hkeep]
      exact ⟨⟨i, hvalid, rfl⟩, fun hp => hkeep ⟨(h.mem i).2 hvalid, hp⟩⟩
  · rintro ⟨⟨i, hvalid, rfl⟩, hp⟩
    refine ⟨i, ?_⟩
    rw [hnode i, if_neg fun hdel => hp hdel.2]
    exact ⟨hvalid, rfl⟩

/-! ### The operations on a list in order -/

lemma inv_init (acl : AclPool) : (rtwMacaddrAclInit acl).Inv where
  nodup := List.nodup_nil
  mem i := by simp [rtwMacaddrAclInit]
  num := (tally_eq_zero_iff.2 fun _ => rfl).symm
  inj i j hi := by cases hi

lemma addrs_init (acl : AclPool) : (rtwMacaddrAclInit acl).addrs = ∅ := by
  ext a
  simp [mem_addrs, rtwMacaddrAclInit]

end AclPool

variable {s : AclList} {p : ℕ} {addr : MacAddr}

/-- An address is added if it is there, or there is room for it. -/
lemma rtwAclAddSta_spec (h : (s p).Inv) (hp : p < rtwAclPeriodNum) (addr : MacAddr) :
    (rtwAclAddSta s p addr).2 = (if addr ∈ (s p).addrs ∨ (s p).addrs.card < numAcl then 0 else -1) ∧
      ((rtwAclAddSta s p addr).1 p).Inv ∧ ((rtwAclAddSta s p addr).1 p).mode = (s p).mode ∧
      ((rtwAclAddSta s p addr).1 p).addrs =
        if (s p).addrs.card < numAcl then insert addr (s p).addrs else (s p).addrs := by
  rw [rtwAclAddSta, if_neg (not_le.2 hp)]
  dsimp only
  by_cases hlisted : (s p).listed addr = true
  · have hmem := (h.listed_iff addr).1 hlisted
    rw [if_pos hlisted, if_pos (.inl hmem)]
    refine ⟨rfl, h, rfl, ?_⟩
    rw [Finset.insert_eq_of_mem hmem, ite_self]
  · have hmem : addr ∉ (s p).addrs := fun hmem => hlisted ((h.listed_iff addr).2 hmem)
    rw [if_neg hlisted]
    by_cases hfull : (numAcl : ℤ) ≤ (s p).num
    · have hcard : ¬ (s p).addrs.card < numAcl := by
        rw [h.num_eq_card] at hfull
        omega
      rw [if_pos hfull, if_neg (fun hor => hor.elim hmem hcard), if_neg hcard]
      exact ⟨rfl, h, rfl, rfl⟩
    · have hcard : (s p).addrs.card < numAcl := by
        rw [h.num_eq_card] at hfull
        omega
      rw [if_neg hfull, if_pos (.inr hcard), if_pos hcard]
      rcases hfind : (List.finRange numAcl).find? (fun i => !((s p).aclnode i).valid) with _ | i
      · -- all entries are valid, so they are as many as the addresses
        exfalso
        have hall : ∀ i, ((s p).aclnode i).valid = true := fun i => by
          simpa using List.find?_eq_none.1 hfind i (List.mem_finRange i)
        refine hfull ?_
        rw [h.num, tally, Finset.filter_true_of_mem fun i _ => hall i, Finset.card_univ,
          Fintype.card_fin]
      · have hfree : ((s p).aclnode i).valid = false := by simpa using List.find?_some hfind
        obtain ⟨hinv, haddrs⟩ := h.use hfree hmem
        rw [Option.elim_some]
        dsimp only
        rw [Function.update_self]
        exact ⟨rfl, hinv, rfl, haddrs⟩

/-- The wildcard removes all addresses, any other address itself. -/
lemma rtwAclRemoveSta_spec (h : (s p).Inv) (hp : p < rtwAclPeriodNum) (addr : MacAddr) :
    ((rtwAclRemoveSta s p addr).1 p).Inv ∧ ((rtwAclRemoveSta s p addr).1 p).mode = (s p).mode ∧
      ((rtwAclRemoveSta s p addr).1 p).addrs =
        if addr = bcAddr then ∅ else (s p).addrs.erase addr := by
  rw [rtwAclRemoveSta, if_neg (not_le.2 hp)]
  dsimp only
  rw [Function.update_self]
  obtain ⟨hinv, hmode, haddrs⟩ := h.deleteIf fun a => addr == bcAddr || a == addr
  refine ⟨hinv, hmode, haddrs.trans ?_⟩
  ext a
  split
  · rename_i hbc
    simp [hbc]
  · rename_i hbc
    simp [hbc, and_comm]

lemma rtwMacaddrAclDeinit_spec (h : (s p).Inv) (hp : p < rtwAclPeriodNum) :
    (rtwMacaddrAclDeinit s p p).Inv ∧ (rtwMacaddrAclDeinit s p p).toSet = {} := by
  rw [rtwMacaddrAclDeinit, if_neg (not_le.2 hp), Function.update_self]
  obtain ⟨hinv, -, haddrs⟩ := h.deleteIf fun _ => true
  refine ⟨⟨hinv.nodup, hinv.mem, hinv.num, hinv.inj⟩, ?_⟩
  have hnone : ((s p).addrs.filter fun a => ¬ true = true) = ∅ := by simp
  exact congrArg (AclSet.mk · rtwAclModeDisabled) (haddrs.trans hnone)

/-- The decision of a list in order. -/
lemma rtwAccessCtrlPeriod_iff (h : (s p).Inv) (hp : p < rtwAclPeriodNum) (addr : MacAddr) :
    rtwAccessCtrlPeriod s p addr = true ↔ (s p).toSet.Accepts addr := by
  rw [rtwAccessCtrlPeriod, if_neg (not_le.2 hp), AclSet.Accepts]
  dsimp only [AclPool.toSet]
  rw [← h.listed_iff]
  have hmodes : rtwAclModeAcceptUnlessListed ≠ rtwAclModeDenyUnlessListed := by decide
  by_cases hunless : (s p).mode = rtwAclModeAcceptUnlessListed
  · simp [hunless, hmodes]
  · by_cases hdeny : (s p).mode = rtwAclModeDenyUnlessListed
    · simp [hdeny, hmodes.symm]
    · simp [hunless, hdeny]

/-! ### Runs -/

/-- The period an operation is for. -/
def AclOp.period : AclOp → ℕ
  | .add period _ => period
  | .remove period _ => period
  | .setMode period _ => period
  | .clear period => period
  | .deinit period => period

/-- The list of another period stays as it is. -/
lemma aclStep_of_ne {op : AclOp} (hne : op.period ≠ p) : (aclStep s op).1 p = s p := by
  have hne := Ne.symm hne
  cases op with
  | add period addr =>
      show (rtwAclAddSta s period addr).1 p = s p
      rw [rtwAclAddSta]
      dsimp only
      split
      · rfl
      · split
        · rfl
        · split
          · rfl
          · rcases (List.finRange numAcl).find? (fun i => !((s period).aclnode i).valid) with _ | i
            · rfl
            · exact Function.update_of_ne hne _ _
  | remove period addr =>
      show (rtwAclRemoveSta s period addr).1 p = s p
      rw [rtwAclRemoveSta]
      split
      · rfl
      · exact Function.update_of_ne hne _ _
  | setMode period mode =>
      show rtwSetMacaddrAcl s period mode p = s p
      rw [rtwSetMacaddrAcl]
      split
      · rfl
      · exact Function.update_of_ne hne _ _
  | clear period =>
      show rtwMacaddrAclDeinit s period p = s p
      rw [rtwMacaddrAclDeinit]
      split
      · rfl
      · exact Function.update_of_ne hne _ _
  | deinit period =>
      show rtwMacaddrAclDeinit s period p = s p
      rw [rtwMacaddrAclDeinit]
      split
      · rfl
      · exact Function.update_of_ne hne _ _

/-- An operation keeps a list in order, and does what it means if the set still has room then. -/
lemma aclStep_spec (h : (s p).Inv) (hp : p < rtwAclPeriodNum) (op : AclOp) :
    ((aclStep s op).1 p).Inv ∧
      ((((s p).toSet).step p op).addrs.card ≤ numAcl →
        ((aclStep s op).1 p).toSet = (s p).toSet.step p op) := by
  by_cases hperiod : op.period = p
  · cases op with
    | add period addr =>
        obtain rfl : period = p := hperiod
        obtain ⟨-, hinv, hmode, haddrs⟩ := rtwAclAddSta_spec h hp addr
        refine ⟨hinv, fun hroom => ?_⟩
        rw [AclSet.step, if_pos rfl] at hroom ⊢
        refine congrArg₂ AclSet.mk (haddrs.trans ?_) hmode
        dsimp only [AclPool.toSet] at hroom
        split
        · rfl
        · rename_i hfull
          -- there is no room, so the address is there already
          have hmem : addr ∈ (s period).addrs := by
            by_contra hmem
            rw [Finset.card_insert_of_notMem hmem] at hroom
            omega
          exact (Finset.insert_eq_of_mem hmem).symm
    | remove period addr =>
        obtain rfl : period = p := hperiod
        obtain ⟨hinv, hmode, haddrs⟩ := rtwAclRemoveSta_spec h hp addr
        refine ⟨hinv, fun _ => ?_⟩
        rw [AclSet.step, if_pos rfl]
        exact congrArg₂ AclSet.mk haddrs hmode
    | setMode period mode =>
        obtain rfl : period = p := hperiod
        have hlist : (aclStep s (.setMode period mode)).1 period = { s period with mode } := by
          show rtwSetMacaddrAcl s period mode period = _
          rw [rtwSetMacaddrAcl, if_neg (not_le.2 hp), Function.update_self]
        rw [hlist]
        refine ⟨⟨h.nodup, h.mem, h.num, h.inj⟩, fun _ => ?_⟩
        rw [AclSet.step, if_pos rfl]
        rfl
    | clear period =>
        obtain rfl : period = p := hperiod
        obtain ⟨hinv, hset⟩ := rtwMacaddrAclDeinit_spec h hp
        refine ⟨hinv, fun _ => ?_⟩
        rw [AclSet.step, if_pos rfl]
        exact hset
    | deinit period =>
        obtain rfl : period = p := hperiod
        obtain ⟨hinv, hset⟩ := rtwMacaddrAclDeinit_spec h hp
        refine ⟨hinv, fun _ => ?_⟩
        rw [AclSet.step, if_pos rfl]
        exact hset
  · rw [aclStep_of_ne hperiod]
    refine ⟨h, fun _ => ?_⟩
    cases op <;> exact (if_neg hperiod).symm

/-- The lists after some operations, from `rtw_macaddr_acl_init` on. -/
def aclRun (acl : AclList) (ops : List AclOp) : AclList :=
  Lib.Machine.final aclStep (fun p => rtwMacaddrAclInit (acl p)) ops

/-- What the operations mean for the list of the period `p`. -/
def aclMeaning (p : ℕ) (ops : List AclOp) : AclSet := ops.foldl (AclSet.step p) {}

lemma aclRun_inv (acl : AclList) (hp : p < rtwAclPeriodNum) (ops : List AclOp) :
    (aclRun acl ops p).Inv := by
  induction ops using List.reverseRecOn with
  | nil => exact AclPool.inv_init (acl p)
  | append_singleton ops op ih =>
      rw [aclRun, Lib.Machine.final_concat]
      exact (aclStep_spec ih hp op).1

/-- As long as the set has room, the list is the set. -/
lemma aclRun_toSet (acl : AclList) (hp : p < rtwAclPeriodNum) (ops : List AclOp) :
    (∀ pre, pre <+: ops → (aclMeaning p pre).addrs.card ≤ numAcl) →
      (aclRun acl ops p).toSet = aclMeaning p ops := by
  induction ops using List.reverseRecOn with
  | nil => exact fun _ => congrArg (AclSet.mk · _) (AclPool.addrs_init (acl p))
  | append_singleton ops op ih =>
      intro hroom
      have hbefore := ih fun pre hpre => hroom pre (hpre.trans (List.prefix_append _ _))
      have hmeaning : aclMeaning p (ops ++ [op]) = (aclRun acl ops p).toSet.step p op := by
        rw [hbefore, aclMeaning, List.foldl_append]
        rfl
      have hnow := hroom _ List.prefix_rfl
      rw [hmeaning] at hnow ⊢
      rw [aclRun, Lib.Machine.final_concat]
      exact (aclStep_spec (aclRun_inv acl hp ops) hp op).2 hnow

/-- After every run, each list counts its valid entries and is the set that the operations make, as
long as that had room for it.  An address is refused only when it is new and all entries are in
use, the wildcard empties the list, and stations are let in as the lists say. -/
theorem acl_run (acl : AclList) (ops : List AclOp) :
    (∀ p < rtwAclPeriodNum,
      (aclRun acl ops p).num = tally (fun i => ((aclRun acl ops p).aclnode i).valid) ∧
      ((∀ pre, pre <+: ops → (aclMeaning p pre).addrs.card ≤ numAcl) →
        (aclRun acl ops p).toSet = aclMeaning p ops) ∧
      (∀ addr, (rtwAclAddSta (aclRun acl ops) p addr).2 ≠ 0 ↔
        addr ∉ (aclRun acl ops p).addrs ∧ (aclRun acl ops p).num = numAcl) ∧
      ((rtwAclRemoveSta (aclRun acl ops) p bcAddr).1 p).addrs = ∅) ∧
    ∀ addr, rtwAccessCtrl (aclRun acl ops) addr = true ↔
      ∀ p < rtwAclPeriodNum, (aclRun acl ops p).toSet.Accepts addr := by
  constructor
  · intro p hp
    have h := aclRun_inv acl hp ops
    refine ⟨h.num, aclRun_toSet acl hp ops, fun addr => ?_, ?_⟩
    · have hle := (aclRun acl ops p).addrs_card_le
      have hcount : (aclRun acl ops p).num = numAcl ↔ (aclRun acl ops p).addrs.card = numAcl := by
        rw [h.num_eq_card]
        omega
      rw [(rtwAclAddSta_spec h hp addr).1, hcount]
      split
      · rename_i hadded
        refine iff_of_false (fun hne => hne rfl) ?_
        rintro ⟨hnot, hfull⟩
        exact hadded.elim hnot fun hlt => absurd hfull hlt.ne
      · rename_i hadded
        refine iff_of_true (by decide) ⟨fun hmem => hadded (.inl hmem), ?_⟩
        exact le_antisymm hle (not_lt.1 fun hlt => hadded (.inr hlt))
    · rw [(rtwAclRemoveSta_spec h hp bcAddr).2.2, if_pos rfl]
  · intro addr
    rw [rtwAccessCtrl, List.all_eq_true]
    constructor
    · intro hall p hp
      exact (rtwAccessCtrlPeriod_iff (aclRun_inv acl hp ops) hp addr).1
        (hall p (List.mem_range.2 hp))
    · intro hall p hp
      have hp := List.mem_range.1 hp
      exact (rtwAccessCtrlPeriod_iff (aclRun_inv acl hp ops) hp addr).2 (hall p hp)

end Rtl8723du
