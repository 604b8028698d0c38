import Rtl8723du.Lib.Census
import Rtl8723du.Sta.Macid

/-!
# Media status reports

The driver tells the firmware with an H2C command which MAC ids are connected, and in which role,
and keeps the last report of each id.  Beside them `op_num` counts for each role the ids whose
report has the operation mode set.  `rtw_macid_ctl_set_h2c_msr` looks only at changes of the
operation mode: an id that takes another role while it stays connected is counted for the old one,
and taken out of the new one when it goes.  `rtw_release_macid` leaves the reports alone.
-/

namespace Rtl8723du.Macid

open Lib.Machine Lib.Census Function

/-! ### The code -/

/-- `H2C_MSR_ROLE_MAX`. -/
abbrev h2cMsrRoleMax : ℕ := 8

/-- `GET_H2CCMD_MSRRPT_PARM_OPMODE`. -/
def msrRptOpmode (h2cMsr : UInt8) : Bool := h2cMsr &&& 1 != 0

/-- `GET_H2CCMD_MSRRPT_PARM_ROLE`. -/
def msrRptRole (h2cMsr : UInt8) : ℕ := (h2cMsr >>> 4).toNat

/-- The reports and counters of `macid_ctl_t`. -/
structure MsrCtl where
  h2cMsr : ℕ → UInt8 := fun _ => 0
  opNum : ℕ → UInt8 := fun _ => 0

/-- The counter of a role is changed, if it has one: the counters and `op_num_change_bmp`. -/
def MsrCtl.count (m : MsrCtl) (role : ℕ) (f : UInt8 → UInt8) : (ℕ → UInt8) × UInt8 :=
  if role < h2cMsrRoleMax then
    (update m.opNum role (f (m.opNum role)), 1 <<< UInt8.ofNat role)
  else (m.opNum, 0)

/-- `rtw_macid_ctl_set_h2c_msr`: the tables and `op_num_change_bmp`. -/
def rtwMacidCtlSetH2cMsr (m : MsrCtl) (id : ℕ) (h2cMsr : UInt8) : MsrCtl × UInt8 :=
  if macidNum ≤ id then (m, 0)
  else
    let old := m.h2cMsr id
    let counted :=
      if msrRptOpmode old && !msrRptOpmode h2cMsr then m.count (msrRptRole old) (· - 1)
      else if !msrRptOpmode old && msrRptOpmode h2cMsr then m.count (msrRptRole h2cMsr) (· + 1)
      else (m.opNum, 0)
    ({ h2cMsr := update m.h2cMsr id h2cMsr, opNum := counted.1 }, counted.2)

section

variable (ι P : Type*)

/-- The device, with the reports of its ids. -/
structure Reported where
  dvobj : Dvobj ι P
  msr : MsrCtl := {}

/-- What happens to the reports, and to the ids. -/
inductive MsrEvent
  /-- A report is set. -/
  | report (id : ℕ) (h2cMsr : UInt8)
  /-- An id is allocated or released, or keys change. -/
  | tables (e : Event ι P)
  /-- `rtw_hal_power_off`. -/
  | powerOff

end

variable {ι P : Type*} [DecidableEq ι] [DecidableEq P] [Fintype ι]

/-- One event; the bitmap says which counters were changed. -/
def msrStep (ad : Adapters ι) (s : Reported ι P) : MsrEvent ι P → Reported ι P × List UInt8
  | .report id h2cMsr =>
      let r := rtwMacidCtlSetH2cMsr s.msr id h2cMsr
      ({ s with msr := r.1 }, [r.2])
  | .tables e => ({ s with dvobj := (step ad s.dvobj e).1 }, [])
  | .powerOff => ({ s with msr := {} }, [])

/-! ### What the counters are for -/

/-- The number of ids whose report has the operation mode set and the role. -/
def MsrCtl.connected (m : MsrCtl) (role : ℕ) : ℕ :=
  ((Finset.range macidNum).filter fun id =>
    msrRptOpmode (m.h2cMsr id) = true ∧ msrRptRole (m.h2cMsr id) = role).card

/-- Each counter is that number. -/
def MsrCtl.Exact (m : MsrCtl) : Prop :=
  ∀ role < h2cMsrRoleMax, (m.opNum role).toNat = m.connected role

/-- A counter goes below zero. -/
def Underflows (s : Reported ι P) : MsrEvent ι P → Prop
  | .report id h2cMsr => id < macidNum ∧ msrRptOpmode (s.msr.h2cMsr id) = true ∧
      msrRptOpmode h2cMsr = false ∧
      ∃ role < h2cMsrRoleMax, role = msrRptRole (s.msr.h2cMsr id) ∧ s.msr.opNum role = 0
  | _ => False

/-- A report for an id that is connected, and stays so, has the role of the one before; roles that
have no counter may change. -/
def KeepsRole (s : Reported ι P) : MsrEvent ι P → Prop
  | .report id h2cMsr => id < macidNum → msrRptOpmode (s.msr.h2cMsr id) = true →
      msrRptOpmode h2cMsr = true → msrRptRole (s.msr.h2cMsr id) = msrRptRole h2cMsr ∨
        h2cMsrRoleMax ≤ msrRptRole (s.msr.h2cMsr id) ∧ h2cMsrRoleMax ≤ msrRptRole h2cMsr
  | _ => True

/-! ### One report -/

/-- The role that an id with this report is connected in. -/
def msrClass (h2cMsr : UInt8) : Option ℕ :=
  if msrRptOpmode h2cMsr then some (msrRptRole h2cMsr) else none

variable {m : MsrCtl} {id role : ℕ} {b : UInt8} {f : ℕ → UInt8}

lemma msrClass_eq_some : msrClass b = some role ↔
    msrRptOpmode b = true ∧ msrRptRole b = role := by
  rw [msrClass]
  split
  · next h => simp [h]
  · next h => simp [h]

lemma MsrCtl.connected_eq (m : MsrCtl) (role : ℕ) :
    m.connected role = census (Finset.range macidNum) (msrClass ∘ m.h2cMsr) role := by
  rw [MsrCtl.connected, census]
  congr 1
  ext id
  simp only [Finset.mem_filter, comp_apply, msrClass_eq_some]

lemma MsrCtl.connected_le (m : MsrCtl) (role : ℕ) : m.connected role ≤ macidNum := by
  rw [connected_eq]
  exact census_le_card.trans_eq (Finset.card_range macidNum)

/-- How a report changes the number of ids that are connected. -/
lemma MsrCtl.connected_update (hid : id < macidNum) :
    connected ⟨update m.h2cMsr id b, f⟩ role +
        (if msrClass (m.h2cMsr id) = some role then 1 else 0) =
      m.connected role + (if msrClass b = some role then 1 else 0) := by
  rw [connected_eq, connected_eq]
  have hcls : msrClass ∘ update m.h2cMsr id b = update (msrClass ∘ m.h2cMsr) id (msrClass b) :=
    comp_update _ _ _ _
  show census _ (msrClass ∘ update m.h2cMsr id b) role + _ = _
  rw [hcls]
  exact census_update (Finset.mem_range.2 hid)

@[simp] lemma MsrCtl.count_self {g : UInt8 → UInt8} (hrole : role < h2cMsrRoleMax) :
    (m.count role g).1 role = g (m.opNum role) := by
  rw [MsrCtl.count, if_pos hrole]
  exact update_self _ _ _

lemma MsrCtl.count_of_ne {g : UInt8 → UInt8} {r : ℕ} (hne : role ≠ r) :
    (m.count r g).1 role = m.opNum role := by
  rw [MsrCtl.count]
  split
  · exact update_of_ne hne _ _
  · rfl

/-- An id that is connected is counted. -/
lemma MsrCtl.Exact.opNum_pos (h : m.Exact) (hid : id < macidNum)
    (hon : msrRptOpmode (m.h2cMsr id) = true) (hrole : msrRptRole (m.h2cMsr id) < h2cMsrRoleMax) :
    0 < (m.opNum (msrRptRole (m.h2cMsr id))).toNat := by
  rw [h _ hrole, MsrCtl.connected_eq]
  exact census_pos (Finset.mem_range.2 hid) (msrClass_eq_some.2 ⟨hon, rfl⟩)

/-- The counters after a report, if they were right before. -/
lemma MsrCtl.Exact.exact_iff (h : m.Exact) (hid : id < macidNum) :
    MsrCtl.Exact ⟨update m.h2cMsr id b, f⟩ ↔ ∀ role < h2cMsrRoleMax,
      (f role).toNat + (if msrClass (m.h2cMsr id) = some role then 1 else 0) =
        (m.opNum role).toNat + (if msrClass b = some role then 1 else 0) := by
  refine forall₂_congr fun role hrole => ?_
  have hupd : MsrCtl.connected ⟨update m.h2cMsr id b, f⟩ role + _ = _ :=
    MsrCtl.connected_update hid
  rw [h role hrole, ← hupd]
  exact Nat.add_right_cancel_iff.symm

/-- An id goes. -/
lemma MsrCtl.Exact.disconnect (h : m.Exact) (hid : id < macidNum)
    (hold : msrRptOpmode (m.h2cMsr id) = true) (hnew : msrRptOpmode b = false) :
    MsrCtl.Exact ⟨update m.h2cMsr id b, (m.count (msrRptRole (m.h2cMsr id)) (· - 1)).1⟩ := by
  rw [h.exact_iff hid]
  intro role hrole
  have hb : msrClass b ≠ some role := fun heq => by simp [msrClass_eq_some.1 heq] at hnew
  rw [if_neg hb]
  by_cases heq : role = msrRptRole (m.h2cMsr id)
  · have hpos := h.opNum_pos hid hold (heq ▸ hrole)
    have hone : (1 : UInt8) ≤ m.opNum (msrRptRole (m.h2cMsr id)) := UInt8.le_iff_toNat_le.2 hpos
    rw [if_pos (msrClass_eq_some.2 ⟨hold, heq.symm⟩), heq, MsrCtl.count_self (heq ▸ hrole),
      UInt8.toNat_sub_of_le _ _ hone]
    exact Nat.sub_add_cancel hpos
  · have hne : msrClass (m.h2cMsr id) ≠ some role := fun h' => heq (msrClass_eq_some.1 h').2.symm
    rw [if_neg hne, MsrCtl.count_of_ne heq]

/-- An id comes. -/
lemma MsrCtl.Exact.connect (h : m.Exact) (hid : id < macidNum)
    (hold : msrRptOpmode (m.h2cMsr id) = false) (hnew : msrRptOpmode b = true) :
    MsrCtl.Exact ⟨update m.h2cMsr id b, (m.count (msrRptRole b) (· + 1)).1⟩ := by
  rw [h.exact_iff hid]
  intro role hrole
  have hb : msrClass (m.h2cMsr id) ≠ some role := fun heq => by
    simp [msrClass_eq_some.1 heq] at hold
  rw [if_neg hb]
  by_cases heq : role = msrRptRole b
  · have hle : (m.opNum role).toNat ≤ 16 := (h role hrole).trans_le (m.connected_le role)
    have hlt : (m.opNum role).toNat + 1 < 2 ^ 8 := by omega
    rw [if_pos (msrClass_eq_some.2 ⟨hnew, heq.symm⟩), ← heq, MsrCtl.count_self hrole,
      UInt8.toNat_add]
    exact Nat.mod_eq_of_lt hlt
  · have hne : msrClass b ≠ some role := fun h' => heq (msrClass_eq_some.1 h').2.symm
    rw [if_neg hne, MsrCtl.count_of_ne heq]

/-- An id that stays as it is. -/
lemma MsrCtl.Exact.stay_iff (h : m.Exact) (hid : id < macidNum)
    (hsame : msrRptOpmode (m.h2cMsr id) = msrRptOpmode b) :
    MsrCtl.Exact ⟨update m.h2cMsr id b, m.opNum⟩ ↔
      (msrRptOpmode b = true → msrRptRole (m.h2cMsr id) = msrRptRole b ∨
        h2cMsrRoleMax ≤ msrRptRole (m.h2cMsr id) ∧ h2cMsrRoleMax ≤ msrRptRole b) := by
  rw [h.exact_iff hid]
  simp only [Nat.add_left_cancel_iff, msrClass, hsame]
  by_cases hon : msrRptOpmode b = true
  · simp only [hon, if_true, Option.some.injEq, forall_const]
    constructor
    · intro hall
      by_contra hne
      rw [not_or, not_and_or, Nat.not_le, Nat.not_le] at hne
      obtain ⟨hne, hlt | hlt⟩ := hne
      · have hrole := hall _ hlt
        rw [if_pos rfl, if_neg (Ne.symm hne)] at hrole
        cases hrole
      · have hrole := hall _ hlt
        rw [if_pos rfl, if_neg hne] at hrole
        cases hrole
    · rintro (heq | ⟨hold, hnew⟩) role hrole
      · rw [heq]
      · rw [if_neg (by omega), if_neg (by omega)]
  · simp [hon]

/-- A report leaves the counters right exactly if it does not change the role of a connected id. -/
theorem MsrCtl.Exact.report_iff (h : m.Exact) (id : ℕ) (b : UInt8) :
    (rtwMacidCtlSetH2cMsr m id b).1.Exact ↔
      (id < macidNum → msrRptOpmode (m.h2cMsr id) = true → msrRptOpmode b = true →
        msrRptRole (m.h2cMsr id) = msrRptRole b ∨
          h2cMsrRoleMax ≤ msrRptRole (m.h2cMsr id) ∧ h2cMsrRoleMax ≤ msrRptRole b) := by
  rcases Nat.lt_or_ge id macidNum with hid | hid
  · rw [rtwMacidCtlSetH2cMsr, if_neg (Nat.not_le.2 hid)]
    cases hold : msrRptOpmode (m.h2cMsr id) <;> cases hnew : msrRptOpmode b
    · simpa [hold, hnew] using (h.stay_iff hid (hold.trans hnew.symm)).2 (by simp [hnew])
    · simpa [hold, hnew] using h.connect hid hold hnew
    · simpa [hold, hnew] using h.disconnect hid hold hnew
    · simp only [hold, Bool.not_true, Bool.and_false, Bool.false_and, Bool.false_eq_true, if_false]
      simpa only [hnew, hid, forall_const] using h.stay_iff hid (hold.trans hnew.symm)
  · rw [rtwMacidCtlSetH2cMsr, if_pos hid]
    exact iff_of_true h fun hlt => absurd hid (Nat.not_le.2 hlt)

/-! ### Runs -/

variable {ad : Adapters ι} {s : Reported ι P} {e : MsrEvent ι P}

lemma exact_zero : MsrCtl.Exact {} := by
  rintro role -
  rw [MsrCtl.connected_eq, census, Finset.card_eq_zero.2]
  · rfl
  · refine Finset.filter_eq_empty_iff.2 fun id _ hcls => ?_
    have hon : msrRptOpmode 0 = true := (msrClass_eq_some.1 hcls).1
    exact absurd hon (by decide)

lemma exact_msrStep_iff (h : s.msr.Exact) : (msrStep ad s e).1.msr.Exact ↔ KeepsRole s e := by
  cases e with
  | report id b => exact h.report_iff id b
  | tables e => exact iff_of_true h trivial
  | powerOff => exact iff_of_true exact_zero trivial

omit [DecidableEq ι] [DecidableEq P] [Fintype ι] in
lemma not_underflows (h : s.msr.Exact) : ¬ Underflows s e := by
  cases e with
  | report id b =>
      rintro ⟨hid, hon, -, role, hrole, rfl, hzero⟩
      have hpos := h.opNum_pos hid hon hrole
      rw [hzero] at hpos
      exact absurd hpos (by decide)
  | tables e => exact id
  | powerOff => exact id

/-- The device when it is set up. -/
def msrStart (camCtl : CamCtl) : Reported ι P := { dvobj := start camCtl }

/-- The counters are right in each state of a run, and none goes below zero in it, exactly if no
report changes the role of an id that stays connected. -/
theorem opNum_run_iff (ad : Adapters ι) (camCtl : CamCtl) (es : List (MsrEvent ι P)) :
    ((∀ pre, pre <+: es → (final (msrStep ad) (msrStart camCtl) pre).msr.Exact) ∧
        Along (msrStep ad) (fun s e => ¬ Underflows s e) (msrStart camCtl) es) ↔
      Along (msrStep ad) KeepsRole (msrStart camCtl) es := by
  have hrun : (∀ pre, pre <+: es → (final (msrStep ad) (msrStart camCtl) pre).msr.Exact) ↔
      Along (msrStep ad) KeepsRole (msrStart camCtl) es :=
    forall_prefix_iff_along (J := fun _ => True) (I := fun s : Reported ι P => s.msr.Exact)
      (fun _ _ _ => trivial) (fun _ _ _ h => exact_msrStep_iff h) trivial exact_zero
  rw [hrun]
  refine and_iff_left_of_imp fun h => along_iff.2 fun pre e post hsplit => ?_
  exact not_underflows (hrun.2 h pre ⟨e :: post, hsplit.symm⟩)

/-- An id that is connected as a station, then as an access point, and then goes. -/
def roleChange : List (MsrEvent Unit Unit) := [.report 2 0x11, .report 2 0x21, .report 2 0x20]

/-- It is left in the counter of its first role, and that of the second goes below zero. -/
theorem opNum_roleChange :
    let run := final (msrStep ⟨fun _ => bcAddr, false⟩)
      (msrStart ⟨8, by decide, true, 0, fun _ => .zero⟩ : Reported Unit Unit)
    ¬ (run (roleChange.take 2)).msr.Exact ∧ ¬ (run roleChange).msr.Exact ∧
      (run roleChange).msr.opNum 1 = 1 ∧ (run roleChange).msr.opNum 2 = 255 := by
  refine ⟨fun h => ?_, fun h => ?_, by decide, by decide⟩
  · exact absurd (h 2 (by decide)) (by decide +kernel)
  · exact absurd (h 2 (by decide)) (by decide +kernel)

end Rtl8723du.Macid
