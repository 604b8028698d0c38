import Mathlib.Data.BitVec
import Rtl8723du.Lib.Branches

/-!
# Parameter tables

The tables of the MAC, the baseband and the radio are arrays of pairs of words.  A pair is a
register with its value, or it has one of the upper bits set and belongs to a condition on the
board.  `odm_read_and_config_mp_8723d_*` read them with one loop; they differ in what is done with a
register.
-/

namespace Rtl8723du.Phydm

open Lib Lib.Machine

/-- What `check_positive` reads of `struct dm_struct`. -/
structure DmStruct where
  boardType : BitVec 8
  cutVersion : BitVec 8
  packageType : BitVec 8
  supportInterface : BitVec 8
  supportPlatform : BitVec 8
  typeGlna : BitVec 16
  typeGpa : BitVec 16
  typeAlna : BitVec 16
  typeApa : BitVec 16

/-- `ODM_CUT_A`. -/
abbrev odmCutA : BitVec 8 := 0

/-- `_board_type`. -/
def DmStruct.board (dm : DmStruct) : BitVec 8 :=
  ((dm.boardType &&& 0x10) >>> 4) <<< 0 ||| ((dm.boardType &&& 0x08) >>> 3) <<< 1 |||
    ((dm.boardType &&& 0x80) >>> 7) <<< 2 ||| ((dm.boardType &&& 0x40) >>> 6) <<< 3 |||
    ((dm.boardType &&& 0x04) >>> 2) <<< 4 ||| ((dm.boardType &&& 0x02) >>> 1) <<< 5 |||
    ((dm.boardType &&& 0x20) >>> 5) <<< 6

/-- `driver1`. -/
def DmStruct.driver1 (dm : DmStruct) : BitVec 32 :=
  let cutVersionForPara := if dm.cutVersion = odmCutA then 15 else dm.cutVersion
  let pkgTypeForPara := if dm.packageType = 0 then 15 else dm.packageType
  cutVersionForPara.setWidth 32 <<< 24 ||| (dm.supportInterface.setWidth 32 &&& 0xF0) <<< 16 |||
    dm.supportPlatform.setWidth 32 <<< 16 ||| pkgTypeForPara.setWidth 32 <<< 12 |||
    (dm.supportInterface.setWidth 32 &&& 0x0F) <<< 8 ||| dm.board.setWidth 32

/-- `driver2`. -/
def DmStruct.driver2 (dm : DmStruct) : BitVec 32 :=
  (dm.typeGlna.setWidth 32 &&& 0xFF) <<< 0 ||| (dm.typeGpa.setWidth 32 &&& 0xFF) <<< 8 |||
    (dm.typeAlna.setWidth 32 &&& 0xFF) <<< 16 ||| (dm.typeApa.setWidth 32 &&& 0xFF) <<< 24

/-- `driver4`. -/
def DmStruct.driver4 (dm : DmStruct) : BitVec 32 :=
  (dm.typeGlna.setWidth 32 &&& 0xFF00) >>> 8 ||| (dm.typeGpa.setWidth 32 &&& 0xFF00) |||
    (dm.typeAlna.setWidth 32 &&& 0xFF00) <<< 8 ||| (dm.typeApa.setWidth 32 &&& 0xFF00) <<< 16

/-- `bit_mask`: the front ends that a condition names. -/
def bitMask (cond1 : BitVec 32) : BitVec 32 :=
  (if cond1 &&& 1 ≠ 0 then 0x000000FF else 0) ||| (if cond1 &&& 2 ≠ 0 then 0x0000FF00 else 0) |||
    (if cond1 &&& 4 ≠ 0 then 0x00FF0000 else 0) ||| (if cond1 &&& 8 ≠ 0 then 0xFF000000 else 0)

/-- `check_positive`. -/
def checkPositive (dm : DmStruct) (condition1 condition2 _condition3 condition4 : BitVec 32) :
    Bool :=
  if condition1 &&& 0x0000F000 ≠ 0 ∧
      condition1 &&& 0x0000F000 ≠ dm.driver1 &&& 0x0000F000 then false
  else if condition1 &&& 0x0F000000 ≠ 0 ∧
      condition1 &&& 0x0F000000 ≠ dm.driver1 &&& 0x0F000000 then false
  else
    let cond1 := condition1 &&& 0x00FF0FFF
    let driver1 := dm.driver1 &&& 0x00FF0FFF
    if cond1 &&& driver1 = cond1 then
      if cond1 &&& 0x0F = 0 then true
      else
        decide (condition2 &&& bitMask cond1 = dm.driver2 &&& bitMask cond1 ∧
          condition4 &&& bitMask cond1 = dm.driver4 &&& bitMask cond1)
    else false

/-! ### The loop -/

/-- A word of a table. -/
abbrev Word := BitVec 32

/-- `BIT(31)`. -/
abbrev bit31 : Word := 0x80000000

/-- `BIT(30)`. -/
abbrev bit30 : Word := 0x40000000

/-- `COND_ELSE`. -/
abbrev condElse : Word := 2

/-- `COND_ENDIF`. -/
abbrev condEndif : Word := 3

/-- The variables of the loop. -/
structure ParaState where
  isMatched : Bool := true
  isSkipped : Bool := false
  preV1 : Word := 0
  preV2 : Word := 0

/-- A pass of the loop.  `config` is what is done with a register. -/
def paraStep {ο : Type*} (dm : DmStruct) (config : Word → Word → List ο) (s : ParaState)
    (v : Word × Word) : ParaState × List ο :=
  if v.1 &&& (bit31 ||| bit30) ≠ 0 then
    if v.1 &&& bit31 ≠ 0 then
      let cCond := (v.1 &&& 0x30000000) >>> 28
      if cCond = condEndif then ({ s with isMatched := true, isSkipped := false }, [])
      else if cCond = condElse then ({ s with isMatched := !s.isSkipped }, [])
      else ({ s with preV1 := v.1, preV2 := v.2 }, [])
    else if s.isSkipped = false then
      if checkPositive dm s.preV1 s.preV2 v.1 v.2 then
        ({ s with isMatched := true, isSkipped := true }, [])
      else ({ s with isMatched := false, isSkipped := false }, [])
    else ({ s with isMatched := false }, [])
  else (s, if s.isMatched then config v.1 v.2 else [])

/-- The pairs that the loop reads, up to the last whole one. -/
def pairs : List Word → List (Word × Word)
  | v1 :: v2 :: array => (v1, v2) :: pairs array
  | _ => []

/-- The loop of `odm_read_and_config_mp_8723d_*`. -/
def odmReadAndConfig {ο : Type*} (dm : DmStruct) (config : Word → Word → List ο)
    (array : List Word) : List ο := outputs (paraStep dm config) {} (pairs array)

/-! ### The four tables -/

/-- What is done to the chip. -/
inductive Config
  /-- `odm_write_1byte`. -/
  | write1byte (addr : Word) (data : BitVec 8)
  /-- `odm_set_bb_reg`. -/
  | setBbReg (addr bitmask data : Word)
  /-- `odm_set_rf_reg` of `RF_PATH_A`. -/
  | setRfReg (addr bitmask data : Word)
  | sleepMs (n : ℕ)
  | delayMs (n : ℕ)
  | delayUs (n : ℕ)
deriving DecidableEq

/-- `odm_config_mac_8723d`. -/
def odmConfigMac8723d (addr data : Word) : List Config := [.write1byte addr (data.setWidth 8)]

/-- `odm_config_bb_agc_8723d`. -/
def odmConfigBbAgc8723d (addr data : Word) : List Config :=
  [.setBbReg addr 0xffffffff data, .delayUs 1]

/-- `odm_config_bb_phy_8723d`. -/
def odmConfigBbPhy8723d (addr data : Word) : List Config :=
  (if addr = 0xfe then [.sleepMs 50]
    else if addr = 0xfd then [.delayMs 5]
    else if addr = 0xfc then [.delayMs 1]
    else if addr = 0xfb then [.delayUs 50]
    else if addr = 0xfa then [.delayUs 5]
    else if addr = 0xf9 then [.delayUs 1]
    else [.setBbReg addr 0xffffffff data]) ++ [.delayUs 1]

/-- `odm_config_rf_radio_a_8723d`. -/
def odmConfigRfRadioA8723d (addr data : Word) : List Config :=
  if addr = 0xfe ∨ addr = 0xffe then [.sleepMs 50]
  else [.setRfReg (addr ||| (0x1000 &&& 0xE000)) 0xfffff data, .delayUs 1]

/-- `odm_read_and_config_mp_8723d_mac_reg`. -/
def odmReadAndConfigMp8723dMacReg (dm : DmStruct) (arrayMp8723dMacReg : List Word) : List Config :=
  odmReadAndConfig dm odmConfigMac8723d arrayMp8723dMacReg

/-- `odm_read_and_config_mp_8723d_agc_tab`. -/
def odmReadAndConfigMp8723dAgcTab (dm : DmStruct) (arrayMp8723dAgcTab : List Word) : List Config :=
  odmReadAndConfig dm odmConfigBbAgc8723d arrayMp8723dAgcTab

/-- `odm_read_and_config_mp_8723d_phy_reg`. -/
def odmReadAndConfigMp8723dPhyReg (dm : DmStruct) (arrayMp8723dPhyReg : List Word) : List Config :=
  odmReadAndConfig dm odmConfigBbPhy8723d arrayMp8723dPhyReg

/-- `odm_read_and_config_mp_8723d_radioa`. -/
def odmReadAndConfigMp8723dRadioa (dm : DmStruct) (arrayMp8723dRadioa : List Word) : List Config :=
  odmReadAndConfig dm odmConfigRfRadioA8723d arrayMp8723dRadioa

/-! ### Tables that come from blocks -/

/-- A register with its value. -/
structure Setting where
  v1 : Word
  v2 : Word
  plain : v1 &&& (bit31 ||| bit30) = 0

/-- A condition takes two pairs: the first one begins the branch, the second one is compared too. -/
structure Cond where
  preV1 : Word
  preV2 : Word
  v1 : Word
  v2 : Word
  positive : preV1 &&& bit31 ≠ 0
  branch : (preV1 &&& 0x30000000) >>> 28 ≠ condElse ∧ (preV1 &&& 0x30000000) >>> 28 ≠ condEndif
  negative : v1 &&& bit31 = 0 ∧ v1 &&& bit30 ≠ 0

/-- The condition holds for the board. -/
def Cond.holds (dm : DmStruct) (c : Cond) : Bool := checkPositive dm c.preV1 c.preV2 c.v1 c.v2

/-- The pairs of an entry. -/
def entryPairs : Branches.Entry Cond Setting → List (Word × Word)
  | .cond c => [(c.preV1, c.preV2), (c.v1, c.v2)]
  | .otherwise => [(0xA0000000, 0)]
  | .endif => [(0xB0000000, 0)]
  | .item a => [(a.v1, a.v2)]

/-- The words of a table of statements. -/
def words (ps : List (Branches.Stmt Cond Setting)) : List Word :=
  ((ps.flatMap Branches.Stmt.entries).flatMap entryPairs).flatMap fun v => [v.1, v.2]

variable {ο : Type*} {dm : DmStruct} {config : Word → Word → List ο} {s : ParaState}

/-- The flags of the loop. -/
def ParaState.mode (s : ParaState) : Branches.Mode := ⟨s.isMatched, s.isSkipped⟩

lemma bits_ne_zero_of_bit31 {v : Word} (h : v &&& bit31 ≠ 0) : v &&& (bit31 ||| bit30) ≠ 0 := by
  intro hzero
  refine h ?_
  have hsub : bit31 = (bit31 ||| bit30) &&& bit31 := by decide
  rw [hsub, ← BitVec.and_assoc, hzero]
  exact BitVec.zero_and

lemma bits_ne_zero_of_bit30 {v : Word} (h : v &&& bit30 ≠ 0) : v &&& (bit31 ||| bit30) ≠ 0 := by
  intro hzero
  refine h ?_
  have hsub : bit30 = (bit31 ||| bit30) &&& bit30 := by decide
  rw [hsub, ← BitVec.and_assoc, hzero]
  exact BitVec.zero_and

/-- The two pairs of a condition. -/
lemma run_cond (s : ParaState) (c : Cond) :
    (final (paraStep dm config) s [(c.preV1, c.preV2), (c.v1, c.v2)]).mode =
        (Branches.step (α := Setting) (Cond.holds dm) s.mode (.cond c)).1 ∧
      outputs (paraStep dm config) s [(c.preV1, c.preV2), (c.v1, c.v2)] = [] := by
  have hfirst : paraStep dm config s (c.preV1, c.preV2) =
      ({ s with preV1 := c.preV1, preV2 := c.preV2 }, []) := by
    rw [paraStep, if_pos (bits_ne_zero_of_bit31 c.positive), if_pos c.positive]
    dsimp only
    rw [if_neg c.branch.2, if_neg c.branch.1]
  rw [final_cons, outputs_cons, final_cons, outputs_cons, final_nil, outputs_nil, hfirst, paraStep,
    if_pos (bits_ne_zero_of_bit30 c.negative.2), if_neg (not_not.2 c.negative.1), Branches.step]
  by_cases hskip : s.isSkipped = true
  · rw [if_neg (by rw [hskip]; exact Bool.noConfusion),
      if_pos (show s.mode.skipped = true from hskip)]
    exact ⟨rfl, rfl⟩
  · rw [if_pos (Bool.eq_false_of_not_eq_true hskip),
      if_neg (show ¬ s.mode.skipped = true from hskip), Cond.holds]
    split_ifs with hholds
    · rw [hholds]
      exact ⟨rfl, rfl⟩
    · rw [Bool.eq_false_of_not_eq_true hholds]
      exact ⟨rfl, rfl⟩

lemma step_cond (m : Branches.Mode) (c : Cond) :
    (Branches.step (α := Setting) (Cond.holds dm) m (.cond c)).2 = [] := by
  rw [Branches.step]
  split_ifs <;> rfl

/-- The loop over the pairs of an entry does what the reader does at the entry. -/
lemma run_entryPairs (s : ParaState) (e : Branches.Entry Cond Setting) :
    (final (paraStep dm config) s (entryPairs e)).mode =
        (Branches.step (Cond.holds dm) s.mode e).1 ∧
      outputs (paraStep dm config) s (entryPairs e) =
        (Branches.step (Cond.holds dm) s.mode e).2.flatMap fun a => config a.v1 a.v2 := by
  cases e with
  | cond c =>
      rw [entryPairs, step_cond]
      exact run_cond s c
  | otherwise => exact ⟨rfl, rfl⟩
  | endif => exact ⟨rfl, rfl⟩
  | item a =>
      rw [entryPairs, final_cons, outputs_cons, final_nil, outputs_nil, paraStep,
        if_neg (not_not.2 a.plain), Branches.step]
      refine ⟨rfl, ?_⟩
      by_cases hmatched : s.isMatched = true
      · rw [if_pos hmatched, if_pos (show s.mode.matched = true from hmatched),
          List.flatMap_singleton, List.append_nil]
      · rw [if_neg hmatched, if_neg (show ¬ s.mode.matched = true from hmatched)]
        rfl

lemma run_entries (s : ParaState) (es : List (Branches.Entry Cond Setting)) :
    outputs (paraStep dm config) s (es.flatMap entryPairs) =
      (outputs (Branches.step (Cond.holds dm)) s.mode es).flatMap fun a => config a.v1 a.v2 := by
  induction es generalizing s with
  | nil => rfl
  | cons e es ih =>
      obtain ⟨hmode, hout⟩ := @run_entryPairs ο dm config s e
      rw [List.flatMap_cons, outputs_append, outputs_cons, List.flatMap_append, hout, ih, hmode]

lemma pairs_flatMap (vs : List (Word × Word)) : pairs (vs.flatMap fun v => [v.1, v.2]) = vs := by
  induction vs with
  | nil => rfl
  | cons v vs ih => exact congrArg (v :: ·) ih

/-- A table that comes from blocks sets the registers that the blocks mean, in order: of each block
those of the first branch whose condition holds for the board, or else those of the last one. -/
theorem odmReadAndConfig_words (dm : DmStruct) (config : Word → Word → List ο)
    (ps : List (Branches.Stmt Cond Setting)) :
    odmReadAndConfig dm config (words ps) =
      (ps.flatMap (Branches.Stmt.eval (Cond.holds dm))).flatMap fun a => config a.v1 a.v2 := by
  rw [odmReadAndConfig, words, pairs_flatMap, run_entries]
  exact congrArg _ (Branches.outputs_entries ps)

end Rtl8723du.Phydm
