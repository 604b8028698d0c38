import Rtl8723du.Lib.Footprint
import Rtl8723du.Lib.Memory
import Rtl8723du.Recv.Frame

/-!
# The handlers of elements

A handler gets the address of an element and trusts its length byte, or its content, or neither.
What it touches is told with what it does; the header of the element, which each handler and the
loop around it look at, is told by the loop.
-/

namespace Rtl8723du.Mlme

open Lib Lib.Footprint Lib.Memory

/-! ### Elements in the memory -/

/-- `pIE->Length`. -/
def elen (m : Mem) (pIE : ℕ) : ℕ := (m (pIE + 1)).toNat

/-- The bytes of the element. -/
def extent (m : Mem) (pIE : ℕ) : Range := ⟨pIE, elen m pIE + 2⟩

/-- The structures that the handlers fill. -/
inductive Dest
  | wmmParam | htCaps | htInfo | erpIe | rmEnCapAssoc
deriving DecidableEq, Repr

/-- Their sizes. -/
def Dest.size : Dest → ℕ
  | .wmmParam => 18
  | .htCaps => 26
  | .htInfo => 22
  | .erpIe => 1
  | .rmEnCapAssoc => 5

/-- What a handler touches. -/
abbrev Log := List (Access Dest)

/-- The header of an element is read. -/
def readHeader (pIE : ℕ) : Access Dest := .read ⟨pIE, 2⟩

/-- Some bytes of its data are read. -/
def readData (pIE off n : ℕ) : Access Dest := .read ⟨pIE + 2 + off, n⟩

/-! ### The state -/

/-- `CHANNEL_WIDTH_20`. -/
abbrev channelWidth20 : ℕ := 0

/-- `CHANNEL_WIDTH_40`. -/
abbrev channelWidth40 : ℕ := 1

/-- `CHANNEL_WIDTH_80`. -/
abbrev channelWidth80 : ℕ := 2

/-- What the handlers use of `struct sta_info`. -/
structure StaInfo where
  rtsen : Bool
  cts2self : Bool
  bwMode : ℕ
  htOption : Bool
  chOffset : ℕ
deriving DecidableEq, Repr

/-- The commands that the handlers enqueue. -/
inductive Cmd
  | wmmEdcaUpdate
  | dmRaMask (psta : MacAddr)
deriving DecidableEq, Repr

/-- What the handlers use of the adapter. -/
structure Adapter where
  qosOption : ℕ
  wmmEnable : Bool
  wmmParam : List UInt8
  htOption : Bool
  curBwmode : ℕ
  curChOffset : ℕ
  curChannel : ℕ
  /-- `hal_chk_bw_cap(padapter, BW_CAP_40M)`. -/
  bwCap40m : Bool
  /-- `REGSTY_IS_BW_5G_SUPPORT(pregistrypriv, CHANNEL_WIDTH_40)`. -/
  bw5gSupport : Bool
  /-- `REGSTY_IS_BW_2G_SUPPORT(pregistrypriv, CHANNEL_WIDTH_40)`. -/
  bw2gSupport : Bool
  bwmodeUpdated : Bool
  htInfoEnable : Bool
  htInfo : List UInt8
  erpEnable : Bool
  erpIe : UInt8
  vrtlCarrierSense : ℕ
  vcsType : ℕ
  /-- `network.MacAddress`. -/
  networkAddress : MacAddr
  /-- `rtw_get_stainfo`. -/
  stainfo : MacAddr → Option StaInfo
  cmds : List Cmd

/-- A station is changed, if there is one. -/
def Adapter.modifySta (st : Adapter) (psta : MacAddr) (f : StaInfo → StaInfo) : Adapter :=
  { st with stainfo := Function.update st.stainfo psta ((st.stainfo psta).map f) }

/-! ### WMM, HT operation and ERP -/

/-- `WMM_param_handler`: what it returns, and what it does. -/
def wmmParamHandler (m : Mem) (pIE : ℕ) (st : Adapter) : Bool × Adapter × Log :=
  if st.qosOption = 0 then (false, { st with wmmEnable := false }, [])
  else
    let param := readBytes m (pIE + 2 + 6) 18
    if st.wmmParam = param then (false, st, [readData pIE 6 18])
    else (true, { st with wmmParam := param, wmmEnable := true },
      [readData pIE 6 18, .write .wmmParam 0 18])

/-- `HT_info_handler`. -/
def htInfoHandler (m : Mem) (pIE : ℕ) (st : Adapter) : Adapter × Log :=
  if st.htOption = false then (st, [])
  else if 22 < elen m pIE then (st, [])
  else
    ({ st with
        htInfoEnable := true
        htInfo := readBytes m (pIE + 2) (elen m pIE) ++ st.htInfo.drop (elen m pIE) },
      [readData pIE 0 (elen m pIE), .write .htInfo 0 (elen m pIE)])

/-- `ERP_IE_handler`. -/
def erpIeHandler (m : Mem) (pIE : ℕ) (st : Adapter) : Adapter × Log :=
  if 1 < elen m pIE then (st, [])
  else
    ({ st with
        erpEnable := true
        erpIe := if elen m pIE = 0 then st.erpIe else m (pIE + 2) },
      [readData pIE 0 (elen m pIE), .write .erpIe 0 (elen m pIE)])

/-- The protection of a station, by `vcs_type`: RTS, or CTS to self. -/
def StaInfo.protect (sta : StaInfo) (on : Bool) (vcsType : ℕ) : StaInfo :=
  { sta with rtsen := on && vcsType == 1, cts2self := on && vcsType != 1 }

/-- `VCS_update`. -/
def vcsUpdate (st : Adapter) (psta : MacAddr) : Adapter :=
  let on :=
    if st.vrtlCarrierSense = 0 then false
    else if st.vrtlCarrierSense = 1 then true
    else st.erpEnable && st.erpIe &&& 2 != 0
  st.modifySta psta fun sta => sta.protect on st.vcsType

/-! ### The bandwidth -/

/-- `new_bwmode` and `new_ch_offset`, by `infos[0]`. -/
def newBwmode (infos : UInt8) (cbw40Enable : Bool) : ℕ × ℕ :=
  if infos &&& 4 ≠ 0 ∧ cbw40Enable then
    if infos &&& 3 = 1 then (channelWidth40, 1)
    else if infos &&& 3 = 3 then (channelWidth40, 2)
    else (channelWidth20, 0)
  else (channelWidth20, 0)

/-- The end of `bwmode_update_check`: the station of the AP is told. -/
def updateApSta (st : Adapter) : Adapter :=
  if (st.stainfo st.networkAddress).isSome then
    let st' := st.modifySta st.networkAddress fun sta =>
      if sta.htOption then { sta with bwMode := st.curBwmode, chOffset := st.curChOffset }
      else { sta with bwMode := channelWidth20, chOffset := 0 }
    { st' with cmds := st'.cmds ++ [.dmRaMask st.networkAddress] }
  else st

/-- `cbw40_enable`. -/
def Adapter.cbw40Enable (st : Adapter) : Bool :=
  st.bwCap40m && (if 14 < st.curChannel then st.bw5gSupport else st.bw2gSupport)

/-- `bwmode_update_check`. -/
def bwmodeUpdateCheck (m : Mem) (pIE : ℕ) (st : Adapter) : Adapter × Log :=
  if st.htOption = false then (st, [])
  else if channelWidth80 ≤ st.curBwmode then (st, [])
  else if 22 < elen m pIE then (st, [])
  else
    -- `infos[0]` is the second byte of the data
    let new := newBwmode (m (pIE + 2 + 1)) st.cbw40Enable
    if (new.1 ≠ st.curBwmode ∨ new.2 ≠ st.curChOffset) ∧ new.1 < st.curBwmode then
      let r := htInfoHandler m pIE
        { st with bwmodeUpdated := true, curBwmode := new.1, curChOffset := new.2 }
      (updateApSta r.1, readData pIE 1 1 :: r.2)
    else ({ st with bwmodeUpdated := false }, [readData pIE 1 1])

/-! ### What the handlers touch -/

variable {m : Mem} {pIE : ℕ} {st : Adapter} {r : Range}

@[simp] lemma inside_readHeader :
    Access.Inside Dest.size r (readHeader pIE) ↔ (⟨pIE, 2⟩ : Range).Within r := Iff.rfl

@[simp] lemma inside_readData {off n : ℕ} :
    Access.Inside Dest.size r (readData pIE off n) ↔ (⟨pIE + 2 + off, n⟩ : Range).Within r :=
  Iff.rfl

/-- `WMM_param_handler` reads 24 bytes. -/
lemma confined_wmmParamHandler : Confined Dest.size r (wmmParamHandler m pIE st).2.2 ↔
    (st.qosOption ≠ 0 → (⟨pIE + 2 + 6, 18⟩ : Range).Within r) := by
  rw [wmmParamHandler]
  split
  · rename_i hqos
    simp [hqos]
  · rename_i hqos
    dsimp only
    split <;> simp [hqos, Dest.size]

/-- `HT_info_handler` reads the data if they fit into the structure. -/
lemma confined_htInfoHandler : Confined Dest.size r (htInfoHandler m pIE st).2 ↔
    (st.htOption = true → elen m pIE ≤ 22 → (⟨pIE + 2, elen m pIE⟩ : Range).Within r) := by
  rw [htInfoHandler]
  by_cases hht : st.htOption = true
  · by_cases hlen : 22 < elen m pIE
    · simp [hht, hlen]
    · simp [hht, hlen, Nat.not_lt.1 hlen, Dest.size]
  · simp [hht]

/-- `ERP_IE_handler` reads one byte at most. -/
lemma confined_erpIeHandler : Confined Dest.size r (erpIeHandler m pIE st).2 ↔
    (elen m pIE ≤ 1 → (⟨pIE + 2, elen m pIE⟩ : Range).Within r) := by
  rw [erpIeHandler]
  by_cases hlen : 1 < elen m pIE
  · simp [hlen]
  · simp [hlen, Nat.not_lt.1 hlen, Dest.size]

/-- The data of an element are in it. -/
lemma data_within (m : Mem) (pIE : ℕ) : (⟨pIE + 2, elen m pIE⟩ : Range).Within (extent m pIE) :=
  ⟨Nat.le_add_right _ _, by
    show pIE + 2 + elen m pIE ≤ pIE + (elen m pIE + 2)
    omega⟩

/-- `bwmode_update_check` looks at the second byte of the data, whether there is one or not. -/
lemma confined_bwmodeUpdateCheck :
    Confined Dest.size (extent m pIE) (bwmodeUpdateCheck m pIE st).2 ↔
      (st.htOption = true → st.curBwmode < channelWidth80 → 2 ≤ elen m pIE) := by
  have hsecond : Access.Inside Dest.size (extent m pIE) (readData pIE 1 1) ↔ 2 ≤ elen m pIE := by
    rw [inside_readData, extent, within_mk]
    omega
  have hinfo (st : Adapter) : Confined Dest.size (extent m pIE) (htInfoHandler m pIE st).2 :=
    confined_htInfoHandler.2 fun _ _ => data_within m pIE
  rw [bwmodeUpdateCheck]
  by_cases hht : st.htOption = true
  · by_cases hwide : channelWidth80 ≤ st.curBwmode
    · simp [hht, hwide, Nat.not_lt.2 hwide]
    · by_cases hlen : 22 < elen m pIE
      · have htwo : 2 ≤ elen m pIE := by omega
        simp [hht, hwide, hlen, htwo]
      · have hnarrow := Nat.not_le.1 hwide
        rw [if_neg (by simp [hht]), if_neg hwide, if_neg hlen]
        dsimp only
        split
        · rw [confined_cons, hsecond]
          simp [hht, hnarrow, hinfo]
        · rw [confined_cons, hsecond]
          simp [hht, hnarrow]
  · simp [hht]

/-! ### What they leave alone -/

/-- What the handlers decide by how much they read. -/
structure SameUse (st st' : Adapter) : Prop where
  qosOption : st'.qosOption = st.qosOption
  htOption : st'.htOption = st.htOption
  curBwmode : st'.curBwmode < channelWidth80 ↔ st.curBwmode < channelWidth80

lemma SameUse.refl (st : Adapter) : SameUse st st := ⟨rfl, rfl, Iff.rfl⟩

lemma SameUse.trans {st' st'' : Adapter} (h : SameUse st st') (h' : SameUse st' st'') :
    SameUse st st'' :=
  ⟨h'.1.trans h.1, h'.2.trans h.2, h'.3.trans h.3⟩

lemma sameUse_wmmParamHandler : SameUse st (wmmParamHandler m pIE st).2.1 := by
  rw [wmmParamHandler]
  split
  · exact ⟨rfl, rfl, Iff.rfl⟩
  · dsimp only
    split <;> exact ⟨rfl, rfl, Iff.rfl⟩

lemma sameUse_htInfoHandler : SameUse st (htInfoHandler m pIE st).1 := by
  rw [htInfoHandler]
  split
  · exact .refl st
  · split <;> exact ⟨rfl, rfl, Iff.rfl⟩

lemma sameUse_erpIeHandler : SameUse st (erpIeHandler m pIE st).1 := by
  rw [erpIeHandler]
  split <;> exact ⟨rfl, rfl, Iff.rfl⟩

lemma sameUse_updateApSta : SameUse st (updateApSta st) := by
  rw [updateApSta]
  split <;> exact ⟨rfl, rfl, Iff.rfl⟩

/-- The bandwidth becomes smaller only. -/
lemma sameUse_bwmodeUpdateCheck : SameUse st (bwmodeUpdateCheck m pIE st).1 := by
  rw [bwmodeUpdateCheck]
  split
  · exact .refl st
  · split
    · exact .refl st
    · rename_i hwide
      split
      · exact .refl st
      · dsimp only
        split
        · rename_i hless
          refine SameUse.trans ?_ (sameUse_htInfoHandler.trans sameUse_updateApSta)
          exact ⟨rfl, rfl, fun _ => Nat.not_le.1 hwide, fun hst => hless.2.trans hst⟩
        · exact ⟨rfl, rfl, Iff.rfl⟩

end Rtl8723du.Mlme
