import Mathlib.Data.Int.Init
import Mathlib.Tactic.NormNum

/-!
# The target of the transmit power

`phy_get_txpwr_target` of `hal_com_phycfg.c`, with the functions that convert the limits from mBm to
the gain index of the chip.  Each assignment to a variable of 8 or 16 bits goes through a cast; with
casts that change nothing the same function computes in the integers.
-/

namespace Rtl8723du.Txpwr

/-! ### The code -/

/-- `BAND_TYPE`. -/
inductive Band
  | on24G
  | on5G
deriving DecidableEq

/-- `RATE_SECTION`. -/
inductive RateSection
  | cck
  | ofdm
  | ht (ss : ℕ)
  | vht (ss : ℕ)
deriving DecidableEq

/-- `enum channel_width`. -/
inductive ChannelWidth
  | w20
  | w40
  | w80
  | w160
  | w8080
  | w5
  | w10
deriving DecidableEq

/-- `UNSPECIFIED_MBM`. -/
def unspecifiedMbm : Int16 := 32767

/-- `MBM_PDBM`. -/
abbrev mbmPdbm : ℤ := 100

/-- `TPC_MODE_MANUAL`. -/
abbrev tpcModeManual : UInt8 := 1

/-- The rates of which `IS_CCK_RATE` is true. -/
def isCckRate (rate : UInt8) : Bool := rate = 0x02 || rate = 0x04 || rate = 0x0b || rate = 0x16

/-- `_mb_of_ntx`. -/
def mbOfNtxTable : List ℤ := [0, 301, 477, 602, 699, 778, 845, 903]

/-- `mb_of_ntx`, for a count that the table has. -/
def mbOfNtx (ntx : ℕ) : ℤ := mbOfNtxTable.getD (ntx - 1) 0

/-- `struct hal_spec_t`, as far as it is used here. -/
structure HalSpec where
  /-- The greatest gain index, which also stands for no limit. -/
  txgiMax : UInt8
  /-- The steps of the gain index for a dBm. -/
  txgiPdbm : UInt8

/-- The settings that are read. -/
structure Settings where
  regEnableTxPowerLimit : UInt8
  eepromRegulatory : UInt8
  /-- `regd_src` is `REGD_SRC_OS`. -/
  regdSrcOs : Bool
  antennaGain : Int16
  tpcMode : UInt8
  tpcManualConstraint : UInt16
  totalTargetMbm : Int16
  totalLmtMbm : Int16
  eepromBluetoothCoexist : Bool
  reducedWlPwrLvl : UInt8

/-- What is asked for. -/
structure Request where
  rfpath : UInt8
  rs : RateSection
  rate : UInt8
  ntxIdx : ℕ
  bw : ChannelWidth
  band : Band
  cch : UInt8
  opch : UInt8
  regMax : Bool
  /-- `_mb_of_ntx` has an entry. -/
  ntx_lt : ntxIdx < 8

/-- What the tables say: `phy_get_txpwr_by_rate`, `phy_get_txpwr_lmt_sub_chs`,
`rtw_os_get_total_txpwr_regd_lmt_mbm` and `rtw_hal_get_txpwr_target_extra_bias`. -/
structure Tables where
  byRate : Band → UInt8 → RateSection → UInt8 → Int8
  lmtSubChs : Band → ChannelWidth → UInt8 → UInt8 → ℕ → UInt8 → UInt8 → Bool → Int8
  osRegdLmt : UInt8 → ChannelWidth → Int16
  extraBias : UInt8 → RateSection → UInt8 → ChannelWidth → Band → UInt8 → Int8

section Casts

variable (s8 u16 : ℤ → ℤ) (spec : HalSpec) (set : Settings) (tab : Tables) (r : Request)

/-- A power for all antennas in mBm, for one of them in hundredths of the gain index. -/
def centiTxgi (mbm : Int16) : ℤ :=
  (mbm.toInt - mbOfNtx (r.ntxIdx + 1) - set.antennaGain.toInt) * spec.txgiPdbm.toNat

/-- The same as a gain index. -/
def txgiOf (mbm : Int16) : ℤ := (centiTxgi spec set r mbm).tdiv mbmPdbm

/-- The end of `phy_get_txpwr_regd_lmt` and its siblings. -/
def txgiOrMax (mbm : Int16) : ℤ :=
  if mbm ≠ unspecifiedMbm then s8 (txgiOf spec set r mbm) else s8 spec.txgiMax.toNat

/-- The regulatory limit in mBm. -/
def regdMbm : Int16 :=
  if (set.regEnableTxPowerLimit = 2 ∧ set.eepromRegulatory ≠ 1) ∨ set.regEnableTxPowerLimit = 0 then
    unspecifiedMbm
  else if set.regdSrcOs then tab.osRegdLmt r.cch r.bw
  else unspecifiedMbm

/-- `phy_get_txpwr_regd_lmt`. -/
def phyGetTxpwrRegdLmt : ℤ := txgiOrMax s8 spec set r (regdMbm set tab r)

/-- `phy_get_txpwr_user_target`. -/
def phyGetTxpwrUserTarget : ℤ := txgiOrMax s8 spec set r set.totalTargetMbm

/-- `phy_get_txpwr_user_lmt`. -/
def phyGetTxpwrUserLmt : ℤ := txgiOrMax s8 spec set r set.totalLmtMbm

/-- The constraint of `phy_get_txpwr_tpc`. -/
def tpcConstraint : ℤ :=
  if set.tpcMode = tpcModeManual then
    u16 (((set.tpcManualConstraint.toNat : ℤ) * spec.txgiPdbm.toNat).tdiv mbmPdbm)
  else 0

/-- `phy_get_txpwr_tpc`. -/
def phyGetTxpwrTpc : ℤ := s8 (-tpcConstraint u16 spec set)

/-- `if (target > lmt) target = lmt`. -/
def clip (target lmt : ℤ) : ℤ := if target > lmt then lmt else target

/-- The variables of `phy_get_txpwr_target`; most of them are those of `struct txpwr_idx_comp`. -/
structure Components where
  /-- `txgi_max`, as the limits are set first. -/
  unspecified : ℤ
  utarget : ℤ
  byRate : ℤ
  btc : ℤ
  extra : ℤ
  rlimit : ℤ
  limit : ℤ
  ulimit : ℤ
  tpc : ℤ
  /-- The target before the limits. -/
  base : ℤ
  target : ℤ
deriving DecidableEq

/-- A rate that the band does not have. -/
def Request.skip : Bool := r.band ≠ .on24G && isCckRate r.rate

/-- `phy_get_txpwr_target`: what it returns is the `target`. -/
def targetWith : Components :=
  let max : ℤ := spec.txgiMax.toNat
  let unspecified := s8 max
  let utgt :=
    if r.skip ∨ r.regMax then unspecified else phyGetTxpwrUserTarget s8 spec set r
  -- neither of the two jumps to the limits
  let own := ¬ r.skip ∧ (r.regMax ∨ utgt = max)
  let tableRate := (tab.byRate r.band r.rfpath r.rs r.rate).toInt
  let byRate := if own ∧ tableRate ≠ max then tableRate else 0
  let btcDiff :=
    if own ∧ ¬ r.regMax ∧ set.eepromBluetoothCoexist then
      s8 (-((set.reducedWlPwrLvl.toNat : ℤ) * spec.txgiPdbm.toNat))
    else 0
  let extra :=
    if own then (tab.extraBias r.rfpath r.rs r.rate r.bw r.band r.cch).toInt else 0
  let rlmt := if r.skip then unspecified else phyGetTxpwrRegdLmt s8 spec set tab r
  let lmt :=
    if r.skip then unspecified
    else (tab.lmtSubChs r.band r.bw r.rfpath r.rate r.ntxIdx r.cch r.opch r.regMax).toInt
  let ulmt := if r.skip ∨ r.regMax then unspecified else phyGetTxpwrUserLmt s8 spec set r
  let tpc := if r.skip ∨ r.regMax then 0 else phyGetTxpwrTpc s8 u16 spec set
  let base := if utgt ≠ max then utgt else s8 (byRate + btcDiff + extra)
  let target := clip (clip (clip base rlmt) lmt) ulmt
  { unspecified, utarget := utgt, byRate, btc := btcDiff, extra, rlimit := rlmt, limit := lmt,
    ulimit := ulmt, tpc, base, target := s8 (target + tpc) }

end Casts

/-- To a signed byte. -/
def toS8 (x : ℤ) : ℤ := Int.bmod x 256

/-- To 16 bits. -/
def toU16 (x : ℤ) : ℤ := x % 65536

/-- `phy_get_txpwr_target`. -/
def phyGetTxpwrTarget (spec : HalSpec) (set : Settings) (tab : Tables) (r : Request) : Components :=
  targetWith toS8 toU16 spec set tab r

/-! ### What it is for -/

section Spec

variable (spec : HalSpec) (set : Settings) (tab : Tables) (r : Request)

/-- The same computation in the integers. -/
def exactTarget : Components := targetWith id id spec set tab r

/-- The power constraint that applies, in steps of the gain index. -/
def constraint : ℤ := if r.skip ∨ r.regMax then 0 else tpcConstraint id spec set

/-- The limit of the tables. -/
def tableLmt : ℤ :=
  (tab.lmtSubChs r.band r.bw r.rfpath r.rate r.ntxIdx r.cch r.opch r.regMax).toInt

/-- The limits that apply, computed in the integers: the two regulatory ones and that of the
user. -/
def limits : List ℤ :=
  if r.skip then []
  else
    (if regdMbm set tab r ≠ unspecifiedMbm then [txgiOf spec set r (regdMbm set tab r)] else []) ++
    ((if tableLmt tab r ≠ spec.txgiMax.toNat then [tableLmt tab r] else []) ++
      if ¬ r.regMax ∧ set.totalLmtMbm ≠ unspecifiedMbm then [txgiOf spec set r set.totalLmtMbm]
      else [])

/-- No variable is changed by narrowing, and the target with the power constraint does not exceed a
limit. -/
def TargetOk : Prop :=
  phyGetTxpwrTarget spec set tab r = exactTarget spec set tab r ∧
    ∀ lmt ∈ limits spec set tab r,
      (phyGetTxpwrTarget spec set tab r).target + constraint spec set r ≤ lmt

/-- A number that a signed byte holds. -/
def InS8 (x : ℤ) : Prop := -128 ≤ x ∧ x ≤ 127

/-- The target is not the one that the user has set. -/
def OwnTarget : Prop :=
  r.skip = false ∧ (r.regMax = true ∨ set.totalTargetMbm = unspecifiedMbm ∨
    txgiOf spec set r set.totalTargetMbm = spec.txgiMax.toNat)

/-- The value of the table for the rate. -/
def ownRate : ℤ :=
  if (tab.byRate r.band r.rfpath r.rs r.rate).toInt = spec.txgiMax.toNat then 0
  else (tab.byRate r.band r.rfpath r.rs r.rate).toInt

/-- What is taken off for Bluetooth. -/
def btcReduction : ℤ :=
  if r.regMax = false ∧ set.eepromBluetoothCoexist = true then
    (set.reducedWlPwrLvl.toNat : ℤ) * spec.txgiPdbm.toNat
  else 0

/-- The target that is not the one of the user. -/
def ownBase : ℤ :=
  ownRate spec tab r - btcReduction spec set r +
    (tab.extraBias r.rfpath r.rs r.rate r.bw r.band r.cch).toInt

/-- Everything that goes into the target is in the range of a signed byte, also less the power
constraint. -/
structure Fits : Prop where
  txgiMax : spec.txgiMax.toNat ≤ 127
  utarget : r.skip = false → r.regMax = false → set.totalTargetMbm ≠ unspecifiedMbm →
    InS8 (txgiOf spec set r set.totalTargetMbm)
  btc : OwnTarget spec set r → btcReduction spec set r ≤ 128
  base : OwnTarget spec set r → InS8 (ownBase spec set tab r)
  limit : ∀ lmt ∈ limits spec set tab r, InS8 lmt
  tpc : constraint spec set r ≤ 128
  own_low : OwnTarget spec set r → -128 ≤ ownBase spec set tab r - constraint spec set r
  user_low : r.skip = false → ¬ OwnTarget spec set r →
    -128 ≤ txgiOf spec set r set.totalTargetMbm - constraint spec set r
  limit_low : ∀ lmt ∈ limits spec set tab r, -128 ≤ lmt - constraint spec set r

end Spec

/-! ### Casts -/

lemma toS8_eq_iff {x : ℤ} : toS8 x = x ↔ InS8 x := by
  rw [toS8, Int.bmod_def, InS8]
  split <;> omega

lemma toS8_zero : toS8 0 = 0 := rfl

lemma toU16_zero : toU16 0 = 0 := rfl

lemma toU16_of_lt {x : ℤ} (h : 0 ≤ x) (hlt : x < 65536) : toU16 x = x := Int.emod_eq_of_lt h hlt

/-- A constraint that is exact fits a signed byte. -/
lemma toS8_neg_eq_iff {c : ℤ} (hc : 0 ≤ c) : toS8 (-toU16 c) = -c ↔ c ≤ 128 := by
  constructor
  · intro heq
    rw [toS8, toU16, Int.bmod_def] at heq
    split at heq <;> omega
  · intro hle
    rw [toU16_of_lt hc (by omega), toS8_eq_iff]
    exact ⟨by omega, by omega⟩

lemma inS8_toInt (x : Int8) : InS8 x.toInt := by
  have hlow := x.le_toInt
  have hhigh := x.toInt_le
  exact ⟨hlow, hhigh⟩

lemma clip_eq_min (target lmt : ℤ) : clip target lmt = min target lmt := by
  rw [clip]
  split <;> omega

/-! ### The variables -/

variable {spec : HalSpec} {set : Settings} {tab : Tables} {r : Request} {s8 u16 : ℤ → ℤ}

/-- The regulatory limit, if any. -/
def regdOrMax (spec : HalSpec) (set : Settings) (tab : Tables) (r : Request) : ℤ :=
  if regdMbm set tab r ≠ unspecifiedMbm then txgiOf spec set r (regdMbm set tab r)
  else spec.txgiMax.toNat

/-- The limit of the user, if any. -/
def userOrMax (spec : HalSpec) (set : Settings) (r : Request) : ℤ :=
  if r.regMax = false ∧ set.totalLmtMbm ≠ unspecifiedMbm then txgiOf spec set r set.totalLmtMbm
  else spec.txgiMax.toNat

/-- The variables, from those that differ between the two ways to a target. -/
def componentsOf (s8 u16 : ℤ → ℤ) (spec : HalSpec) (set : Settings) (tab : Tables) (r : Request)
    (utarget byRate btc extra base : ℤ) : Components where
  unspecified := spec.txgiMax.toNat
  utarget := utarget
  byRate := byRate
  btc := btc
  extra := extra
  rlimit := s8 (regdOrMax spec set tab r)
  limit := tableLmt tab r
  ulimit := s8 (userOrMax spec set r)
  tpc := s8 (-u16 (constraint spec set r))
  base := s8 base
  target := s8 (clip (clip (clip (s8 base) (s8 (regdOrMax spec set tab r))) (tableLmt tab r))
    (s8 (userOrMax spec set r)) + s8 (-u16 (constraint spec set r)))

lemma txgiOrMax_eq (hmax : s8 spec.txgiMax.toNat = spec.txgiMax.toNat) (mbm : Int16) :
    txgiOrMax s8 spec set r mbm =
      if mbm ≠ unspecifiedMbm then s8 (txgiOf spec set r mbm) else spec.txgiMax.toNat := by
  rw [txgiOrMax, hmax]

lemma regdLmt_eq (hmax : s8 spec.txgiMax.toNat = spec.txgiMax.toNat) :
    phyGetTxpwrRegdLmt s8 spec set tab r = s8 (regdOrMax spec set tab r) := by
  rw [phyGetTxpwrRegdLmt, txgiOrMax_eq hmax, regdOrMax]
  split
  · rfl
  · exact hmax.symm

lemma userLmt_eq (hmax : s8 spec.txgiMax.toNat = spec.txgiMax.toNat) :
    (if r.regMax = true then (spec.txgiMax.toNat : ℤ) else phyGetTxpwrUserLmt s8 spec set r) =
      s8 (userOrMax spec set r) := by
  rw [phyGetTxpwrUserLmt, txgiOrMax_eq hmax, userOrMax]
  rcases r.regMax
  · simp only [Bool.false_eq_true, if_false, true_and]
    split
    · rfl
    · exact hmax.symm
  · simp only [if_true, Bool.true_eq_false, false_and, if_false, hmax]

lemma tpc_eq (hs8 : s8 0 = 0) (hu16 : u16 0 = 0) (hskip : r.skip = false) :
    (if r.regMax = true then 0 else phyGetTxpwrTpc s8 u16 spec set) =
      s8 (-u16 (constraint spec set r)) := by
  rw [constraint, hskip]
  rcases r.regMax
  · simp only [Bool.false_eq_true, or_self, if_false]
    rw [phyGetTxpwrTpc, tpcConstraint, tpcConstraint]
    split
    · rfl
    · rw [hu16]
  · simp only [or_true, if_true, hu16, Int.neg_zero, hs8]

lemma userTarget_eq (hmax : s8 spec.txgiMax.toNat = spec.txgiMax.toNat)
    (hown : OwnTarget spec set r)
    (huser : r.regMax = false → set.totalTargetMbm ≠ unspecifiedMbm →
      s8 (txgiOf spec set r set.totalTargetMbm) = txgiOf spec set r set.totalTargetMbm) :
    (if r.regMax = true then (spec.txgiMax.toNat : ℤ) else phyGetTxpwrUserTarget s8 spec set r) =
      spec.txgiMax.toNat := by
  rcases hreg : r.regMax
  · rw [if_neg Bool.false_ne_true, phyGetTxpwrUserTarget, txgiOrMax_eq hmax]
    split
    · next hspec =>
        rw [huser hreg hspec]
        rcases hown.2 with htrue | hunspec | heq
        · rw [hreg] at htrue
          cases htrue
        · exact absurd hunspec hspec
        · exact heq
    · rfl
  · rfl

/-- The target comes from the tables. -/
lemma targetWith_own (hs8 : s8 0 = 0) (hu16 : u16 0 = 0)
    (hmax : s8 spec.txgiMax.toNat = spec.txgiMax.toNat) (hown : OwnTarget spec set r)
    (huser : r.regMax = false → set.totalTargetMbm ≠ unspecifiedMbm →
      s8 (txgiOf spec set r set.totalTargetMbm) = txgiOf spec set r set.totalTargetMbm) :
    targetWith s8 u16 spec set tab r =
      componentsOf s8 u16 spec set tab r spec.txgiMax.toNat (ownRate spec tab r)
        (s8 (-btcReduction spec set r)) (tab.extraBias r.rfpath r.rs r.rate r.bw r.band r.cch).toInt
        (ownRate spec tab r + s8 (-btcReduction spec set r) +
          (tab.extraBias r.rfpath r.rs r.rate r.bw r.band r.cch).toInt) := by
  have hutgt := userTarget_eq hmax hown huser
  have hbtc : (if r.regMax = false ∧ set.eepromBluetoothCoexist = true then
      s8 (-((set.reducedWlPwrLvl.toNat : ℤ) * spec.txgiPdbm.toNat)) else 0) =
        s8 (-btcReduction spec set r) := by
    rw [btcReduction]
    split
    · rfl
    · rw [Int.neg_zero, hs8]
  have hrate : (if (tab.byRate r.band r.rfpath r.rs r.rate).toInt ≠ spec.txgiMax.toNat then
      (tab.byRate r.band r.rfpath r.rs r.rate).toInt else 0) = ownRate spec tab r := ite_not ..
  rw [targetWith, componentsOf, tableLmt]
  simp only [hown.1, Bool.false_eq_true, false_or, if_false, hmax, not_false_eq_true, true_and,
    hutgt, or_true, if_true, ne_eq, not_true_eq_false, Bool.not_eq_true, hbtc, hrate,
    regdLmt_eq hmax, userLmt_eq hmax, tpc_eq hs8 hu16 hown.1]

/-- A target that is not from the tables is set by the user. -/
lemma user_of_not_own (hskip : r.skip = false) (hown : ¬ OwnTarget spec set r) :
    r.regMax = false ∧ set.totalTargetMbm ≠ unspecifiedMbm ∧
      txgiOf spec set r set.totalTargetMbm ≠ spec.txgiMax.toNat := by
  rw [OwnTarget, not_and] at hown
  have hnot := hown hskip
  rw [not_or, not_or, Bool.not_eq_true] at hnot
  exact hnot

lemma targetWith_user (hs8 : s8 0 = 0) (hu16 : u16 0 = 0)
    (hmax : s8 spec.txgiMax.toNat = spec.txgiMax.toNat) (hskip : r.skip = false)
    (hown : ¬ OwnTarget spec set r)
    (huser : s8 (txgiOf spec set r set.totalTargetMbm) = txgiOf spec set r set.totalTargetMbm) :
    targetWith s8 u16 spec set tab r =
      componentsOf s8 u16 spec set tab r (txgiOf spec set r set.totalTargetMbm) 0 0 0
        (txgiOf spec set r set.totalTargetMbm) := by
  obtain ⟨hreg, hspec, hne⟩ := user_of_not_own hskip hown
  have hutgt : phyGetTxpwrUserTarget s8 spec set r = txgiOf spec set r set.totalTargetMbm := by
    rw [phyGetTxpwrUserTarget, txgiOrMax, if_pos hspec, huser]
  have hulmt : phyGetTxpwrUserLmt s8 spec set r = s8 (userOrMax spec set r) := by
    rw [← userLmt_eq hmax, hreg, if_neg Bool.false_ne_true]
  have htpc : phyGetTxpwrTpc s8 u16 spec set = s8 (-u16 (constraint spec set r)) := by
    rw [← tpc_eq hs8 hu16 hskip, hreg, if_neg Bool.false_ne_true]
  rw [targetWith, componentsOf, tableLmt]
  simp only [hskip, hreg, Bool.false_eq_true, or_self, if_false, hmax, hutgt, hne, and_false,
    false_and, ne_eq, not_false_eq_true, if_true, hulmt, htpc, regdLmt_eq hmax, huser]

/-- A rate that the band does not have gets the target zero. -/
lemma targetWith_skip (hs8 : s8 0 = 0) (hmax : s8 spec.txgiMax.toNat = spec.txgiMax.toNat)
    (hskip : r.skip = true) : targetWith s8 u16 spec set tab r =
      ⟨spec.txgiMax.toNat, spec.txgiMax.toNat, 0, 0, 0, spec.txgiMax.toNat, spec.txgiMax.toNat,
        spec.txgiMax.toNat, 0, 0, 0⟩ := by
  have hclip : clip 0 (spec.txgiMax.toNat : ℤ) = 0 := if_neg (by omega)
  rw [targetWith]
  simp only [hskip, true_or, if_true, hmax, not_true_eq_false, false_and, if_false, ne_eq, hs8,
    hclip, Int.add_zero]

/-! ### The condition -/

lemma constraint_nonneg : 0 ≤ constraint spec set r := by
  rw [constraint, tpcConstraint]
  split
  · exact Int.le_refl 0
  · split
    · exact Int.tdiv_nonneg (by positivity) (by decide)
    · exact Int.le_refl 0

lemma forall_limits (hskip : r.skip = false) {P : ℤ → Prop} :
    (∀ lmt ∈ limits spec set tab r, P lmt) ↔
      (regdMbm set tab r ≠ unspecifiedMbm → P (txgiOf spec set r (regdMbm set tab r))) ∧
      (tableLmt tab r ≠ spec.txgiMax.toNat → P (tableLmt tab r)) ∧
      (r.regMax = false ∧ set.totalLmtMbm ≠ unspecifiedMbm →
        P (txgiOf spec set r set.totalLmtMbm)) := by
  have hopt (c : Prop) [Decidable c] (x : ℤ) : (∀ lmt ∈ (if c then [x] else []), P lmt) ↔
      (c → P x) := by
    by_cases hc : c
    · rw [if_pos hc, List.forall_mem_singleton, forall_prop_of_true hc]
    · rw [if_neg hc]
      exact iff_of_true nofun fun h => absurd h hc
  rw [limits, hskip, if_neg Bool.false_ne_true, List.forall_mem_append, List.forall_mem_append,
    hopt, hopt, hopt, Bool.not_eq_true]

/-- The limits are in a range if those that stand for none are too. -/
lemma forall_limits_of {P : ℤ → Prop} (hmax : P spec.txgiMax.toNat) (hskip : r.skip = false) :
    (∀ lmt ∈ limits spec set tab r, P lmt) ↔
      P (regdOrMax spec set tab r) ∧ P (tableLmt tab r) ∧ P (userOrMax spec set r) := by
  rw [forall_limits hskip, regdOrMax, userOrMax]
  refine and_congr ?_ (and_congr ?_ ?_)
  · split
    · next h => exact forall_prop_of_true h
    · next h => exact iff_of_true (fun h' => absurd h' h) hmax
  · by_cases h : tableLmt tab r = spec.txgiMax.toNat
    · exact iff_of_true (fun h' => absurd h h') (by rwa [h])
    · exact forall_prop_of_true h
  · split
    · next h => exact forall_prop_of_true h
    · next h => exact iff_of_true (fun h' => absurd h' h) hmax

/-- The range of the values that a limit may have, less the power constraint. -/
def Ranges (spec : HalSpec) (set : Settings) (r : Request) (x : ℤ) : Prop :=
  InS8 x ∧ -128 ≤ x - constraint spec set r

lemma ranges_max (hmax : spec.txgiMax.toNat ≤ 127) (htpc : constraint spec set r ≤ 128) :
    Ranges spec set r spec.txgiMax.toNat := ⟨⟨by omega, by omega⟩, by omega⟩

/-- With the same values before the casts the variables are the same just when these are in their
ranges. -/
lemma componentsOf_eq_iff {utarget byRate btc extra base : ℤ} :
    componentsOf toS8 toU16 spec set tab r utarget byRate btc extra base =
        componentsOf id id spec set tab r utarget byRate btc extra base ↔
      constraint spec set r ≤ 128 ∧ Ranges spec set r base ∧
        Ranges spec set r (regdOrMax spec set tab r) ∧ Ranges spec set r (tableLmt tab r) ∧
        Ranges spec set r (userOrMax spec set r) := by
  have hc : 0 ≤ constraint spec set r := constraint_nonneg
  have htable : InS8 (tableLmt tab r) := inS8_toInt _
  rw [componentsOf, componentsOf, Components.mk.injEq]
  simp only [id, toS8_neg_eq_iff hc, toS8_eq_iff, true_and, clip_eq_min]
  simp only [Ranges]
  constructor
  · rintro ⟨hregd, huser, htpc, hbase, htarget⟩
    rw [toS8_eq_iff.2 hregd, toS8_eq_iff.2 huser, toS8_eq_iff.2 hbase,
      (toS8_neg_eq_iff hc).2 htpc, toS8_eq_iff] at htarget
    obtain ⟨hlow, -⟩ := htarget
    exact ⟨htpc, ⟨hbase, by omega⟩, ⟨hregd, by omega⟩, ⟨htable, by omega⟩, huser, by omega⟩
  · rintro ⟨htpc, ⟨hbase, hbase'⟩, ⟨hregd, hregd'⟩, ⟨-, htable'⟩, huser, huser'⟩
    refine ⟨hregd, huser, htpc, hbase, ?_⟩
    rw [toS8_eq_iff.2 hregd, toS8_eq_iff.2 huser, toS8_eq_iff.2 hbase,
      (toS8_neg_eq_iff hc).2 htpc, toS8_eq_iff]
    obtain ⟨-, hbase''⟩ := hbase
    exact ⟨by omega, by omega⟩

/-- In the integers the limits are kept. -/
lemma componentsOf_le {utarget byRate btc extra base lmt : ℤ} (hskip : r.skip = false)
    (hlmt : lmt ∈ limits spec set tab r) :
    (componentsOf id id spec set tab r utarget byRate btc extra base).target +
      constraint spec set r ≤ lmt := by
  revert lmt
  rw [forall_limits hskip]
  simp only [componentsOf, clip_eq_min, id]
  refine ⟨fun h => ?_, fun _ => by omega, fun h => ?_⟩
  · rw [regdOrMax, if_pos h]
    omega
  · rw [userOrMax, if_pos h]
    omega

lemma btcReduction_nonneg : 0 ≤ btcReduction spec set r := by
  rw [btcReduction]
  split
  · positivity
  · exact Int.le_refl 0

/-- The part of the condition for the limits. -/
lemma fits_limits_iff (hskip : r.skip = false) (hmax : spec.txgiMax.toNat ≤ 127)
    (htpc : constraint spec set r ≤ 128) :
    ((∀ lmt ∈ limits spec set tab r, InS8 lmt) ∧
      ∀ lmt ∈ limits spec set tab r, -128 ≤ lmt - constraint spec set r) ↔
      Ranges spec set r (regdOrMax spec set tab r) ∧ Ranges spec set r (tableLmt tab r) ∧
        Ranges spec set r (userOrMax spec set r) := by
  rw [← forall_limits_of (ranges_max hmax htpc) hskip]
  exact ⟨fun h lmt hlmt => ⟨h.1 lmt hlmt, h.2 lmt hlmt⟩,
    fun h => ⟨fun lmt hlmt => (h lmt hlmt).1, fun lmt hlmt => (h lmt hlmt).2⟩⟩

lemma targetWith_unspecified :
    (targetWith s8 u16 spec set tab r).unspecified = s8 spec.txgiMax.toNat := rfl

lemma max_of_eq (h : phyGetTxpwrTarget spec set tab r = exactTarget spec set tab r) :
    toS8 spec.txgiMax.toNat = spec.txgiMax.toNat := by
  have hmax := congrArg Components.unspecified h
  rwa [phyGetTxpwrTarget, exactTarget, targetWith_unspecified, targetWith_unspecified] at hmax

/-- The target of the user is not changed. -/
lemma user_of_eq (h : phyGetTxpwrTarget spec set tab r = exactTarget spec set tab r)
    (hskip : r.skip = false) (hreg : r.regMax = false)
    (hspec : set.totalTargetMbm ≠ unspecifiedMbm) :
    toS8 (txgiOf spec set r set.totalTargetMbm) = txgiOf spec set r set.totalTargetMbm := by
  have hutarget : (if r.skip = true ∨ r.regMax = true then toS8 spec.txgiMax.toNat
      else phyGetTxpwrUserTarget toS8 spec set r) =
      if r.skip = true ∨ r.regMax = true then id (spec.txgiMax.toNat : ℤ)
      else phyGetTxpwrUserTarget id spec set r := congrArg Components.utarget h
  have hnot : ¬ (r.skip = true ∨ r.regMax = true) := by simp [hskip, hreg]
  rw [if_neg hnot, if_neg hnot, phyGetTxpwrUserTarget, phyGetTxpwrUserTarget, txgiOrMax, txgiOrMax,
    if_pos hspec, if_pos hspec] at hutarget
  exact hutarget

/-- In the integers the limits are always kept. -/
lemma exactTarget_le {lmt : ℤ} (hlmt : lmt ∈ limits spec set tab r) :
    (exactTarget spec set tab r).target + constraint spec set r ≤ lmt := by
  rcases hskip : r.skip
  · by_cases hown : OwnTarget spec set r
    · rw [exactTarget, targetWith_own rfl rfl rfl hown fun _ _ => rfl]
      exact componentsOf_le hskip hlmt
    · rw [exactTarget, targetWith_user rfl rfl rfl hskip hown rfl]
      exact componentsOf_le hskip hlmt
  · rw [limits, hskip] at hlmt
    cases hlmt

/-- What must fit if nothing is changed by narrowing. -/
lemma fits_of_eq (h : phyGetTxpwrTarget spec set tab r = exactTarget spec set tab r)
    (hskip : r.skip = false) : Fits spec set tab r := by
  have hmax := max_of_eq h
  have hmax' : spec.txgiMax.toNat ≤ 127 := by
    obtain ⟨-, hle⟩ := toS8_eq_iff.1 hmax
    omega
  have huser := user_of_eq h hskip
  have hutarget : r.skip = false → r.regMax = false → set.totalTargetMbm ≠ unspecifiedMbm →
      InS8 (txgiOf spec set r set.totalTargetMbm) :=
    fun _ hreg hspec => toS8_eq_iff.1 (huser hreg hspec)
  by_cases hown : OwnTarget spec set r
  · have hbtc : toS8 (-btcReduction spec set r) = -btcReduction spec set r := by
      have hbtc := congrArg Components.btc h
      rw [phyGetTxpwrTarget, exactTarget, targetWith_own toS8_zero toU16_zero hmax hown huser,
        targetWith_own rfl rfl rfl hown fun _ _ => rfl] at hbtc
      exact hbtc
    have hle : btcReduction spec set r ≤ 128 := by
      obtain ⟨hle, -⟩ := toS8_eq_iff.1 hbtc
      omega
    rw [phyGetTxpwrTarget, exactTarget, targetWith_own toS8_zero toU16_zero hmax hown huser,
      targetWith_own rfl rfl rfl hown fun _ _ => rfl, hbtc, id, componentsOf_eq_iff] at h
    obtain ⟨htpc, hbase, hlimits⟩ := h
    obtain ⟨hlimit, hlow⟩ := (fits_limits_iff hskip hmax' htpc).2 hlimits
    exact ⟨hmax', hutarget, fun _ => hle, fun _ => hbase.1, hlimit, htpc, fun _ => hbase.2,
      fun _ hnot => absurd hown hnot, hlow⟩
  · obtain ⟨hreg, hspec, -⟩ := user_of_not_own hskip hown
    rw [phyGetTxpwrTarget, exactTarget,
      targetWith_user toS8_zero toU16_zero hmax hskip hown (huser hreg hspec),
      targetWith_user rfl rfl rfl hskip hown rfl, componentsOf_eq_iff] at h
    obtain ⟨htpc, hbase, hlimits⟩ := h
    obtain ⟨hlimit, hlow⟩ := (fits_limits_iff hskip hmax' htpc).2 hlimits
    exact ⟨hmax', hutarget, fun h => absurd h hown, fun h => absurd h hown, hlimit, htpc,
      fun h => absurd h hown, fun _ _ => hbase.2, hlow⟩

lemma Fits.max_eq (h : Fits spec set tab r) : toS8 spec.txgiMax.toNat = spec.txgiMax.toNat :=
  toS8_eq_iff.2 ⟨by omega, Int.ofNat_le.2 h.txgiMax⟩

/-- If everything fits nothing is changed. -/
lemma Fits.target_eq (h : Fits spec set tab r) (hskip : r.skip = false) :
    phyGetTxpwrTarget spec set tab r = exactTarget spec set tab r := by
  have huser : r.regMax = false → set.totalTargetMbm ≠ unspecifiedMbm →
      toS8 (txgiOf spec set r set.totalTargetMbm) = txgiOf spec set r set.totalTargetMbm :=
    fun hreg hspec => toS8_eq_iff.2 (h.utarget hskip hreg hspec)
  have hlimits := (fits_limits_iff hskip h.txgiMax h.tpc).1 ⟨h.limit, h.limit_low⟩
  by_cases hown : OwnTarget spec set r
  · have hbtc : toS8 (-btcReduction spec set r) = -btcReduction spec set r := by
      have hle := h.btc hown
      have hb : 0 ≤ btcReduction spec set r := btcReduction_nonneg
      exact toS8_eq_iff.2 ⟨by omega, by omega⟩
    rw [phyGetTxpwrTarget, exactTarget, targetWith_own toS8_zero toU16_zero h.max_eq hown huser,
      targetWith_own rfl rfl rfl hown fun _ _ => rfl, hbtc, id, componentsOf_eq_iff]
    exact ⟨h.tpc, ⟨h.base hown, h.own_low hown⟩, hlimits⟩
  · obtain ⟨hreg, hspec, -⟩ := user_of_not_own hskip hown
    rw [phyGetTxpwrTarget, exactTarget,
      targetWith_user toS8_zero toU16_zero h.max_eq hskip hown (huser hreg hspec),
      targetWith_user rfl rfl rfl hskip hown rfl, componentsOf_eq_iff]
    exact ⟨h.tpc, ⟨h.utarget hskip hreg hspec, h.user_low hskip hown⟩, hlimits⟩

/-- For a rate that the band does not have only `txgi_max` matters. -/
lemma target_eq_iff_skip (hskip : r.skip = true) :
    phyGetTxpwrTarget spec set tab r = exactTarget spec set tab r ↔ Fits spec set tab r := by
  have hlimits : limits spec set tab r = [] := by
    rw [limits, hskip]
    rfl
  have htpc : constraint spec set r = 0 := by
    rw [constraint, hskip]
    rfl
  have hnot : r.skip ≠ false := by rw [hskip]; exact Bool.noConfusion
  have hown : ¬ OwnTarget spec set r := fun h => hnot h.1
  constructor
  · intro heq
    obtain ⟨-, hle⟩ := toS8_eq_iff.1 (max_of_eq heq)
    refine ⟨Int.ofNat_le.1 hle, fun h => absurd h hnot, fun h => absurd h hown,
      fun h => absurd h hown, ?_, by omega, fun h => absurd h hown, fun h => absurd h hnot, ?_⟩
    · rw [hlimits]
      nofun
    · rw [hlimits]
      nofun
  · intro h
    rw [phyGetTxpwrTarget, exactTarget, targetWith_skip toS8_zero h.max_eq hskip,
      targetWith_skip rfl rfl hskip]

/-- `phy_get_txpwr_target` computes as in the integers and keeps the limits just when everything
fits. -/
theorem phyGetTxpwrTarget_iff (spec : HalSpec) (set : Settings) (tab : Tables) (r : Request) :
    TargetOk spec set tab r ↔ Fits spec set tab r := by
  have heq : phyGetTxpwrTarget spec set tab r = exactTarget spec set tab r ↔
      Fits spec set tab r := by
    rcases hskip : r.skip
    · exact ⟨fun h => fits_of_eq h hskip, fun h => h.target_eq hskip⟩
    · exact target_eq_iff_skip hskip
  constructor
  · rintro ⟨h, -⟩
    exact heq.1 h
  · intro h
    refine ⟨heq.2 h, fun lmt hlmt => ?_⟩
    rw [heq.2 h]
    exact exactTarget_le hlmt

/-- The chip of this driver, with an antenna gain of 100 dB and a limit of 20 dBm by the user. -/
def gainSettings : Settings :=
  ⟨1, 1, false, 10000, 0, 0, unspecifiedMbm, 2000, false, 0⟩

/-- A target is wanted at 20 dBm. -/
def flatTables : Tables := ⟨fun _ _ _ _ => 40, fun _ _ _ _ _ _ _ _ => 63, fun _ _ => 0,
  fun _ _ _ _ _ _ => 0⟩

/-- The rate of 6 Mbit/s on channel 1. -/
def ofdmRequest : Request := ⟨0, .ofdm, 0x0c, 0, .w20, .on24G, 1, 0, false, by decide⟩

/-- The limit is 80 dB below 0 dBm, and becomes one of 48 dBm. -/
theorem phyGetTxpwrTarget_gain :
    (phyGetTxpwrTarget ⟨63, 2⟩ gainSettings flatTables ofdmRequest).target = 40 ∧
      -160 ∈ limits ⟨63, 2⟩ gainSettings flatTables ofdmRequest ∧
      ¬ TargetOk ⟨63, 2⟩ gainSettings flatTables ofdmRequest := by
  have htarget : (phyGetTxpwrTarget ⟨63, 2⟩ gainSettings flatTables ofdmRequest).target = 40 := by
    decide
  have hmem : -160 ∈ limits ⟨63, 2⟩ gainSettings flatTables ofdmRequest := by decide
  refine ⟨htarget, hmem, fun hok => ?_⟩
  have hle := hok.2 _ hmem
  rw [htarget] at hle
  exact absurd hle (by decide)

end Rtl8723du.Txpwr
