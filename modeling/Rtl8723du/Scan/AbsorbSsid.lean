import Rtl8723du.Lib.Bytes
import Rtl8723du.Scan.Entry

/-!
# The SSID of a hidden network

`rtw_absorb_ssid_ifneed` writes the SSID of a received frame into the entry of the scan queue that
has its address, if that entry is hidden.  The SSID element is searched from the offset of the
received frame's type, and `IELength` grows by the length of the SSID whatever the length of the
element that it replaces.
-/

namespace Rtl8723du.Scan

open Lib Lib.Elements Lib.Bytes
open Beacon (maxIeSz ssidIe sub32 sub32_of_le)

variable {κ : Type}

/-! ### The code -/

/-- The subtypes of frames that are told apart. -/
inductive FrameSubtype
  | beacon
  | probeRsp
  | probeReq
  | other
deriving DecidableEq, Repr

/-- The type of a network by the frame that it comes from. -/
def FrameSubtype.bssType : FrameSubtype → UInt8
  | .beacon => bssTypeBcn
  | .probeRsp => bssTypeProbRsp
  | .probeReq => bssTypeProbReq
  | .other => 0

/-- `_BEACON_IE_OFFSET_`, `_PROBERSP_IE_OFFSET_`, `_PROBEREQ_IE_OFFSET_` or
`_FIXED_IE_LENGTH_`. -/
def FrameSubtype.ieOffset : FrameSubtype → ℕ
  | .probeReq => 0
  | _ => 12

/-- `_rtw_find_network`: the place of the entry. -/
def rtwFindNetwork (q : List (WlanNetwork κ)) (addr : MacAddr) : Option ℕ :=
  if addr = Vector.replicate 6 0 then none else q.findIdx? (·.network.macAddress = addr)

/-- The writing of the SSID, at `p`; nothing when more is copied than `backupIE` or `IEs` holds. -/
def writeSsid (snetwork : BssidEx) (ssid : List UInt8) (p ssidLenOri : ℕ) : Option BssidEx :=
  let nextIe := p + 2 + ssidLenOri
  let remainLen := sub32 snetwork.ieLength nextIe
  if maxIeSz < remainLen ∨ maxIeSz < p + 2 + ssid.length + remainLen then none
  else
    let backupIE := (snetwork.ies.drop nextIe).take remainLen
    let ies := writeAt snetwork.ies (p + 1) [UInt8.ofNat ssid.length]
    some { snetwork with
      ssid
      ies := writeAt (writeAt ies (p + 2) ssid) (p + 2 + ssid.length) backupIE
      ieLength := snetwork.ieLength + ssid.length }

/-- `rtw_absorb_ssid_ifneed` on the entry that is found.  A limit below zero is as good as none. -/
def absorbSsid (snetwork : BssidEx) (ssid : List UInt8) (ieOffset : ℕ) : Option BssidEx :=
  if isHiddenSsid snetwork.ssid && !isHiddenSsid ssid then
    (Beacon.rtwGetIe snetwork.ies ieOffset ssidIe (snetwork.ieLength - ieOffset)).elim
      (some snetwork) fun p => writeSsid snetwork ssid p.1 p.2
  else some snetwork

/-- `rtw_absorb_ssid_ifneed`, with the received network, the type of its frame and its address. -/
def rtwAbsorbSsidIfneed (q : List (WlanNetwork κ)) (bssid : BssidEx) (subtype : FrameSubtype)
    (mac : MacAddr) : Option (BssidEx × List (WlanNetwork κ)) :=
  let bssid := { bssid with reserved0 := subtype.bssType }
  ((rtwFindNetwork q mac).bind fun i => (q[i]?).map (i, ·)).elim (some (bssid, q)) fun scanned =>
    (absorbSsid scanned.2.network bssid.ssid subtype.ieOffset).map fun network =>
      (bssid, q.set scanned.1 { scanned.2 with network })

/-! ### What it is for -/

/-- The first SSID element has the SSID, and the others are the same. -/
def HoldsSsid (ssid : List UInt8) (es es' : List Element) : Prop :=
  ∃ pre x y post, es = pre ++ x :: post ∧ (∀ z ∈ pre, z.id ≠ ssidIe) ∧ x.id = ssidIe ∧
    es' = pre ++ y :: post ∧ y.id = ssidIe ∧ y.data = ssid

/-- The entry at the place holds the SSID afterwards. -/
def AbsorbOk (q : List (WlanNetwork κ)) (j : ℕ) (bssid : BssidEx) (subtype : FrameSubtype)
    (mac : MacAddr) (fixed : List UInt8) (es : List Element) : Prop :=
  ∃ r ∈ rtwAbsorbSsidIfneed q bssid subtype mac, ∃ e ∈ r.2[j]?, ∃ es',
    IsEntry e.network fixed es' ∧ HoldsSsid bssid.ssid es es'

/-! ### When it does it -/

/-- Where the SSID goes: the first entry of the address, if it is hidden and the search from the
offset of the frame finds an SSID element in it. -/
def target (q : List (WlanNetwork κ)) (mac : MacAddr) (ieOffset : ℕ) : Option (ℕ × ℕ × ℕ) :=
  (rtwFindNetwork q mac).bind fun i => (q[i]?).bind fun e =>
    if isHiddenSsid e.network.ssid then
      (Beacon.rtwGetIe e.network.ies ieOffset ssidIe (e.network.ieLength - ieOffset)).map (i, ·)
    else none

/-- The SSID is copied inside the buffer. -/
def CopiesInside (net : BssidEx) (ssid : List UInt8) (p len : ℕ) : Prop :=
  p + 2 + len ≤ net.ieLength ∧ net.ieLength + ssid.length ≤ maxIeSz + len

/-- By chance: what is found before the SSID element has the length of the new SSID, and when that
is written there, what stands behind it is what there was, the new element and the rest. -/
def Coincides (net : BssidEx) (ssid : List UInt8) (p len a : ℕ) (post : List Element) : Prop :=
  len = ssid.length ∧ p + 2 ≤ a ∧ p + 2 + ssid.length ≤ net.ieLength ∧
    (net.ies.take a).drop (p + 2) ++ (ssidIe :: UInt8.ofNat ssid.length :: (ssid ++ encode post))
      <+: ssid ++ net.ies.drop (p + 2 + ssid.length)

/-- There is an SSID element, and it has the SSID already and is left alone, or it is empty, is what
the search finds, and there is room for the SSID. -/
def AbsorbFits (q : List (WlanNetwork κ)) (j : ℕ) (net : BssidEx) (ssid : List UInt8)
    (mac : MacAddr) (ieOffset : ℕ) (fixed : List UInt8) (es : List Element) : Prop :=
  ∃ pre x post, es = pre ++ x :: post ∧ (∀ z ∈ pre, z.id ≠ ssidIe) ∧ x.id = ssidIe ∧
    ((x.data = ssid ∧ ∀ i p len, target q mac ieOffset = some (i, p, len) →
        i ≠ j ∧ ∃ e ∈ q[i]?, CopiesInside e.network ssid p len) ∨
      ∃ p len, target q mac ieOffset = some (j, p, len) ∧ x.data = [] ∧
        net.ieLength + ssid.length ≤ maxIeSz ∧
        (p = (fixed ++ encode pre).length ∨
          Coincides net ssid p len (fixed ++ encode pre).length post))

/-! ### Writing the SSID -/

variable {net : BssidEx} {ssid fixed : List UInt8} {es pre post : List Element} {x y : Element}
  {p len : ℕ}

/-- The entry with the SSID written at `p`. -/
def written (net : BssidEx) (y : Element) (p len : ℕ) : BssidEx :=
  { net with
    ssid := y.data
    ies := writeAt (writeAt net.ies p y.bytes) (p + y.size)
      ((net.ies.drop (p + 2 + len)).take (net.ieLength - (p + 2 + len)))
    ieLength := net.ieLength + y.data.length }

/-- The element with the SSID is written where one is found. -/
lemma writeSsid_of_inside (hies : net.ies.length = maxIeSz) (hle : net.ieLength ≤ maxIeSz)
    (hy : y.id = ssidIe) (hp : net.ies.getD p 0 = ssidIe) (hin : CopiesInside net y.data p len) :
    writeSsid net y.data p len = some (written net y p len) := by
  obtain ⟨hin, hroom⟩ := hin
  have hsize : y.size = y.data.length + 2 := rfl
  have hrem : sub32 net.ieLength (p + 2 + len) = net.ieLength - (p + 2 + len) :=
    sub32_of_le hin (lt_of_le_of_lt hle (by norm_num))
  have hid : net.ies.drop p = ssidIe :: net.ies.drop (p + 1) := by
    rw [List.drop_eq_getElem_cons (by omega), ← hp, List.getD_eq_getElem _ _ (by omega)]
  have hbytes : writeAt (writeAt net.ies (p + 1) [UInt8.ofNat y.data.length]) (p + 2) y.data =
      writeAt net.ies p y.bytes := by
    rw [writeAt_succ (by omega), writeAt_of_drop hid, ← hy]
    rfl
  have hplace : p + 2 + y.data.length = p + y.size := by omega
  unfold writeSsid
  dsimp only
  rw [hrem, hbytes, hplace, if_neg (by omega)]
  rfl

lemma writeSsid_of_outside (hle : net.ieLength ≤ maxIeSz) (hlt : p < net.ieLength)
    (hlen : len < 256) (hout : ¬ CopiesInside net ssid p len) :
    writeSsid net ssid p len = none := by
  have hle' : net.ieLength ≤ 768 := hle
  have hmax : maxIeSz = 768 := rfl
  unfold writeSsid
  dsimp only
  refine if_pos ?_
  by_cases hin : p + 2 + len ≤ net.ieLength
  · right
    have hroom : ¬ net.ieLength + ssid.length ≤ maxIeSz + len := fun hroom => hout ⟨hin, hroom⟩
    rw [sub32_of_le hin (by omega)]
    omega
  · -- the length that is left wraps
    left
    rw [sub32]
    omega

/-- What is written, up to where the old elements end now. -/
lemma take_written (h : IsEntry net fixed es) (hin : p + 2 + len ≤ net.ieLength) :
    (written net y p len).ies.take (net.ieLength + y.data.length - len) =
      net.ies.take p ++ (y.bytes ++ (net.ies.drop (p + 2 + len)).take
        (net.ieLength - (p + 2 + len))) := by
  have hle := h.le
  have hies := h.length_ies
  have hfront : (net.ies.take p).length = p := by
    rw [List.length_take]
    omega
  have hrem : ((net.ies.drop (p + 2 + len)).take (net.ieLength - (p + 2 + len))).length =
      net.ieLength - (p + 2 + len) := by
    rw [List.length_take, List.length_drop]
    omega
  have hall := take_writeAt_writeAt (w := y.bytes) (q := (net.ies.drop (p + 2 + len)).take
    (net.ieLength - (p + 2 + len))) (List.take_append_drop p net.ies).symm
  have hsize : y.size = y.data.length + 2 := rfl
  rw [hfront, y.length_bytes, hrem] at hall
  rw [← hall, written]
  congr 1
  omega

lemma take_two {bs : List UInt8} (h : p + 1 < bs.length) :
    bs.take (p + 2) = bs.take p ++ [bs.getD p 0, bs.getD (p + 1) 0] := by
  rw [List.take_add, List.drop_eq_getElem_cons (by omega), List.drop_eq_getElem_cons h,
    List.getD_eq_getElem _ _ (by omega), List.getD_eq_getElem _ _ h]
  rfl

lemma ofNat_eq_zero {n : ℕ} (hn : n < 256) (h : UInt8.ofNat n = 0) : n = 0 := by
  have hnat := congrArg UInt8.toNat h
  rwa [UInt8.toNat_ofNat', Nat.mod_eq_of_lt hn] at hnat

lemma length_written (h : IsEntry net fixed es) (hin : p + 2 + len ≤ net.ieLength)
    (hroom : net.ieLength + y.data.length ≤ maxIeSz + len) :
    (written net y p len).ies.length = maxIeSz := by
  have hle := h.le
  have hsize : y.size = y.data.length + 2 := rfl
  have hrem : ((net.ies.drop (p + 2 + len)).take (net.ieLength - (p + 2 + len))).length =
      net.ieLength - (p + 2 + len) := by
    rw [List.length_take, List.length_drop, h.length_ies]
    omega
  show (writeAt _ _ _).length = _
  rw [← y.length_bytes, length_writeAt_writeAt, h.length_ies]
  rw [h.length_ies, y.length_bytes, hrem]
  omega

/-- The header where the SSID is written. -/
lemma take_two_written (h : IsEntry net fixed es) (hy : y.id = ssidIe)
    (hin : p + 2 + len ≤ net.ieLength) : (written net y p len).ies.take (p + 2) =
      net.ies.take p ++ [ssidIe, UInt8.ofNat y.data.length] := by
  have hle := h.le
  have hfront : (net.ies.take p ++ [ssidIe, UInt8.ofNat y.data.length]).length = p + 2 := by
    rw [List.length_append, List.length_take, h.length_ies, Nat.min_eq_left (by omega)]
    rfl
  have hk : p + 2 ≤ net.ieLength + y.data.length - len := by omega
  have htake := congrArg (List.take (p + 2)) (take_written (y := y) h hin)
  rw [List.take_take, Nat.min_eq_left hk] at htake
  rw [htake, Element.bytes, hy]
  have happ : net.ies.take p ++ (ssidIe :: UInt8.ofNat y.data.length :: y.data ++
      (net.ies.drop (p + 2 + len)).take (net.ieLength - (p + 2 + len))) =
      (net.ies.take p ++ [ssidIe, UInt8.ofNat y.data.length]) ++ (y.data ++
        (net.ies.drop (p + 2 + len)).take (net.ieLength - (p + 2 + len))) := by simp
  rw [happ, List.take_left' hfront]

/-- What is written over as many bytes as it has changes these bytes only. -/
lemma written_ies_of_same (h : IsEntry net fixed es) (hin : p + 2 + len ≤ net.ieLength)
    (hsame : len = y.data.length) : (written net y p len).ies = writeAt net.ies p y.bytes := by
  have hle := h.le
  have hies := h.length_ies
  have hsize : y.size = y.data.length + 2 := rfl
  have hrem : ((net.ies.drop (p + 2 + len)).take (net.ieLength - (p + 2 + len))).length =
      net.ieLength - (p + 2 + len) := by
    rw [List.length_take, List.length_drop, hies]
    omega
  have hplace : p + 2 + len = p + y.size := by omega
  show writeAt _ _ _ = _
  refine writeAt_same ?_
  rw [hrem, ← y.length_bytes, drop_writeAt (by omega), y.length_bytes, hplace]

/-- The blob with the SSID in its place. -/
lemma encode_put (fixed : List UInt8) (pre post : List Element) (y : Element) :
    fixed ++ encode (pre ++ y :: post) = (fixed ++ encode pre) ++ (y.bytes ++ encode post) := by
  simp

lemma isEntry_written_iff_blob (h : IsEntry net fixed es) (hin : p + 2 + len ≤ net.ieLength)
    (hroom : net.ieLength + y.data.length ≤ maxIeSz + len) :
    IsEntry (written net y p len) fixed (pre ++ y :: post) ↔
      net.ieLength + y.data.length ≤ maxIeSz ∧
        (written net y p len).ies.take (net.ieLength + y.data.length) =
          (fixed ++ encode pre) ++ (y.bytes ++ encode post) := by
  constructor
  · intro h'
    exact ⟨h'.le, h'.blob.trans (encode_put fixed pre post y)⟩
  · rintro ⟨hle, hblob⟩
    exact ⟨length_written h hin hroom, h.length_fixed, hle,
      hblob.trans (encode_put fixed pre post y).symm⟩

section Place

variable (h : IsEntry net fixed (pre ++ x :: post)) (hx : x.id = ssidIe) (hy : y.id = ssidIe)
  (hpos : 0 < y.data.length) (hin : p + 2 + len ≤ net.ieLength)

include h in
lemma lenAt_ssid : lenAt net.ies (fixed ++ encode pre).length = x.data.length := by
  have hat : At net.ies (fixed ++ encode pre).length (x :: post) :=
    (Holds.append_iff.1 h.holds).at_elements
  exact hat.lenAt_eq

include h hx in
lemma getD_ssid : net.ies.getD (fixed ++ encode pre).length 0 = ssidIe :=
  (getD_eq_of_drop h.drop_eq).trans hx

include h in
lemma length_entry : net.ieLength =
    (fixed ++ encode pre).length + (x.data.length + 2 + (encode post).length) := by
  rw [h.ieLength_eq, encode_append, encode_cons]
  simp only [List.length_append, Element.length_bytes, Element.size]
  omega

include h in
/-- It grows by the length of the SSID: the element that was there was empty. -/
lemma data_eq_nil (hblob : (written net y p len).ies.take (net.ieLength + y.data.length) =
      (fixed ++ encode pre) ++ (y.bytes ++ encode post))
    (hfull : net.ieLength + y.data.length ≤ (written net y p len).ies.length) : x.data = [] := by
  have hlen := congrArg List.length hblob
  have hL := length_entry h
  rw [List.length_take, Nat.min_eq_left hfull] at hlen
  simp only [List.length_append, Element.length_bytes, Element.size] at hlen hL
  exact List.length_eq_zero_iff.1 (by omega)

include h hy hpos hin in
/-- It is not written behind the SSID element. -/
lemma le_of_written (hp : net.ies.getD p 0 = ssidIe) (hempty : x.data = [])
    (hblob : (written net y p len).ies.take (net.ieLength + y.data.length) =
      (fixed ++ encode pre) ++ (y.bytes ++ encode post)) : p ≤ (fixed ++ encode pre).length := by
  set a := (fixed ++ encode pre).length with ha
  by_contra hlt
  have hle := h.le
  have hies := h.length_ies
  have hshort := y.short
  have hsame : (written net y p len).ies.take (a + 2) = net.ies.take (a + 2) := by
    have hone : (written net y p len).ies.take (p + 1) = net.ies.take (p + 1) := by
      have htwo := congrArg (List.take (p + 1)) (take_two_written h hy hin)
      have hfront : (net.ies.take p ++ [ssidIe]).length = p + 1 := by
        rw [List.length_append, List.length_take, Nat.min_eq_left (by omega)]
        rfl
      have hsplit : net.ies.take p ++ [ssidIe, UInt8.ofNat y.data.length] =
          (net.ies.take p ++ [ssidIe]) ++ [UInt8.ofNat y.data.length] := by simp
      rw [List.take_take, Nat.min_eq_left (Nat.le_succ _), hsplit, List.take_left' hfront] at htwo
      rw [htwo, List.take_add, List.drop_eq_getElem_cons (by omega), ← hp,
        List.getD_eq_getElem _ _ (by omega)]
      rfl
    have hcut := congrArg (List.take (a + 2)) hone
    rwa [List.take_take, List.take_take, Nat.min_eq_left (by omega)] at hcut
  have hwant : (written net y p len).ies.take (a + 2) =
      (fixed ++ encode pre) ++ [ssidIe, UInt8.ofNat y.data.length] := by
    have hcut := congrArg (List.take (a + 2)) hblob
    rw [List.take_take, Nat.min_eq_left (by omega)] at hcut
    rw [hcut, ha, List.take_length_add_append, Element.bytes, hy]
    rfl
  have htwo : net.ies.take (a + 2) = net.ies.take a ++ [net.ies.getD a 0, net.ies.getD (a + 1) 0] :=
    take_two (by omega)
  have hzero : UInt8.ofNat y.data.length = 0 := by
    have hlenByte : net.ies.getD (a + 1) 0 = 0 := by
      have hlen := lenAt_ssid h
      rw [hempty] at hlen
      exact UInt8.toNat_inj.1 hlen
    rw [hsame, htwo, h.take_eq, List.append_cancel_left_eq, hlenByte] at hwant
    simpa using (List.cons.inj hwant).2.symm
  exact absurd (ofNat_eq_zero hshort hzero) (by omega)

include h hx hy hpos hin in
/-- Before the SSID element it is written over as many bytes. -/
lemma len_of_written (hlen : len = lenAt net.ies p)
    (hlt : p < (fixed ++ encode pre).length)
    (hblob : (written net y p len).ies.take (net.ieLength + y.data.length) =
      (fixed ++ encode pre) ++ (y.bytes ++ encode post)) :
    len = y.data.length ∧ p + 2 ≤ (fixed ++ encode pre).length := by
  set a := (fixed ++ encode pre).length with ha
  have hle := h.le
  have hies := h.length_ies
  have hshort := y.short
  have hone : (written net y p len).ies.take (a + 1) = net.ies.take (a + 1) := by
    have hL := length_entry h
    have hcut := congrArg (List.take (a + 1)) hblob
    rw [List.take_take, Nat.min_eq_left (by omega)] at hcut
    rw [hcut, ha, List.take_length_add_append, Element.bytes, hy, List.take_add, h.take_eq,
      h.drop_eq, Element.bytes, hx]
    rfl
  have hbyte : UInt8.ofNat y.data.length = net.ies.getD (p + 1) 0 := by
    have hcut := congrArg (List.take (p + 2)) hone
    rw [List.take_take, List.take_take, Nat.min_eq_left (by omega), take_two_written h hy hin,
      take_two (by omega), List.append_cancel_left_eq] at hcut
    simpa using (List.cons.inj hcut).2
  have hlen' : len = y.data.length := by
    rw [hlen, lenAt, ← hbyte, y.toNat_length]
  refine ⟨hlen', ?_⟩
  -- next to the SSID element the length would be its id
  by_contra hnext
  have hid : net.ies.getD (p + 1) 0 = ssidIe := by
    rw [← getD_ssid h hx, ← ha]
    congr 1
    omega
  rw [hid] at hbyte
  exact absurd (ofNat_eq_zero hshort hbyte) (by omega)

include h hy hin in
/-- There it is right only by chance. -/
lemma written_iff_of_len (hlen : len = lenAt net.ies p) (hp : net.ies.getD p 0 = ssidIe)
    (hsame : len = y.data.length) (hle : p + 2 ≤ (fixed ++ encode pre).length)
    (hempty : x.data = []) :
    (written net y p len).ies.take (net.ieLength + y.data.length) =
        (fixed ++ encode pre) ++ (y.bytes ++ encode post) ↔
      (net.ies.take (fixed ++ encode pre).length).drop (p + 2) ++
          (ssidIe :: UInt8.ofNat y.data.length :: (y.data ++ encode post)) <+:
        y.data ++ net.ies.drop (p + 2 + y.data.length) := by
  have hleL := h.le
  have hies := h.length_ies
  have hL := length_entry h
  have hwritten : (written net y p len).ies =
      net.ies.take (p + 2) ++ (y.data ++ net.ies.drop (p + 2 + y.data.length)) := by
    have hbyte : net.ies.getD (p + 1) 0 = UInt8.ofNat y.data.length := by
      refine UInt8.toNat_inj.1 ?_
      rw [y.toNat_length, ← hsame, hlen]
      rfl
    rw [written_ies_of_same h hin hsame, take_two (by omega), hp, hbyte, writeAt, y.length_bytes,
      Element.size, Element.bytes, hy, Nat.add_comm y.data.length 2, ← Nat.add_assoc]
    simp
  have hfront : fixed ++ encode pre = net.ies.take (p + 2) ++
      (net.ies.take (fixed ++ encode pre).length).drop (p + 2) := by
    conv_lhs => rw [← h.take_eq, ← List.take_append_drop (p + 2) (net.ies.take _)]
    rw [List.take_take, Nat.min_eq_left hle]
  have hwant : (fixed ++ encode pre) ++ (y.bytes ++ encode post) = net.ies.take (p + 2) ++
      ((net.ies.take (fixed ++ encode pre).length).drop (p + 2) ++
        (ssidIe :: UInt8.ofNat y.data.length :: (y.data ++ encode post))) := by
    conv_lhs => rw [hfront]
    rw [Element.bytes, hy, List.append_assoc]
    rfl
  have hwantLen : ((fixed ++ encode pre) ++ (y.bytes ++ encode post)).length =
      net.ieLength + y.data.length := by
    simp only [List.length_append, y.length_bytes, Element.size] at hL ⊢
    rw [hempty, List.length_nil] at hL
    omega
  rw [← hwantLen, eq_comm, ← List.prefix_iff_eq_take, hwritten, hwant,
    List.prefix_append_right_inj]

include h in
/-- In the SSID element it is right. -/
lemma take_written_of_eq (hempty : x.data = []) (hpa : p = (fixed ++ encode pre).length)
    (hlen : len = lenAt net.ies p) :
    (written net y p len).ies.take (net.ieLength + y.data.length) =
      (fixed ++ encode pre) ++ (y.bytes ++ encode post) := by
  have hL := length_entry h
  have hzero : len = 0 := by rw [hlen, hpa, lenAt_ssid h, hempty, List.length_nil]
  rw [hempty, List.length_nil, Nat.zero_add] at hL
  subst hpa hzero
  have hrest : net.ies.drop ((fixed ++ encode pre).length + 2 + 0) =
      encode post ++ net.ies.drop net.ieLength := by
    have hsize : x.bytes.length = 2 := by rw [x.length_bytes, Element.size, hempty]; rfl
    rw [Nat.add_zero, ← hsize]
    exact drop_add_of_drop h.drop_eq
  have htake : (written net y (fixed ++ encode pre).length 0).ies.take
      (net.ieLength + y.data.length - 0) = net.ies.take (fixed ++ encode pre).length ++
        (y.bytes ++ (net.ies.drop ((fixed ++ encode pre).length + 2 + 0)).take
          (net.ieLength - ((fixed ++ encode pre).length + 2 + 0))) := take_written h (by omega)
  rw [Nat.sub_zero, h.take_eq, hrest] at htake
  rw [htake, hL, Nat.add_zero, ← Nat.add_assoc, Nat.add_sub_cancel_left, List.take_left]

end Place

/-- Where the SSID is written into the first SSID element, or by chance, the entry holds it. -/
lemma isEntry_written_iff (h : IsEntry net fixed (pre ++ x :: post)) (hx : x.id = ssidIe)
    (hy : y.id = ssidIe) (hpos : 0 < y.data.length) (hp : net.ies.getD p 0 = ssidIe)
    (hlen : len = lenAt net.ies p) (hin : CopiesInside net y.data p len) :
    IsEntry (written net y p len) fixed (pre ++ y :: post) ↔
      x.data = [] ∧ net.ieLength + y.data.length ≤ maxIeSz ∧
        (p = (fixed ++ encode pre).length ∨
          Coincides net y.data p len (fixed ++ encode pre).length post) := by
  rw [isEntry_written_iff_blob h hin.1 hin.2]
  constructor
  · rintro ⟨hroom, hblob⟩
    have hempty := data_eq_nil h hblob (by rw [length_written h hin.1 hin.2]; exact hroom)
    refine ⟨hempty, hroom, ?_⟩
    rcases Nat.eq_or_lt_of_le (le_of_written h hy hpos hin.1 hp hempty hblob) with heq | hlt
    · exact .inl heq
    · obtain ⟨hsame, hle⟩ := len_of_written h hx hy hpos hin.1 hlen hlt hblob
      refine .inr ⟨hsame, hle, ?_, ?_⟩
      · rw [← hsame]
        exact hin.1
      · exact (written_iff_of_len h hy hin.1 hlen hp hsame hle hempty).1 hblob
  · rintro ⟨hempty, hroom, heq | ⟨hsame, hle, -, hprefix⟩⟩
    · exact ⟨hroom, take_written_of_eq h hempty heq hlen⟩
    · exact ⟨hroom, (written_iff_of_len h hy hin.1 hlen hp hsame hle hempty).2 hprefix⟩

/-! ### The queue -/

variable {q : List (WlanNetwork κ)} {e : WlanNetwork κ} {i j : ℕ} {bssid : BssidEx}
  {subtype : FrameSubtype} {mac : MacAddr} {off : ℕ} {t : ℕ × ℕ × ℕ}

/-- What is known of the place where the SSID goes. -/
lemma exists_of_target (h : target q mac off = some (i, p, len)) :
    ∃ e ∈ q[i]?, e.network.ies.getD p 0 = ssidIe ∧ len = lenAt e.network.ies p ∧
      p < e.network.ieLength := by
  obtain ⟨i', -, hi⟩ := Option.bind_eq_some_iff.1 h
  obtain ⟨e, he, hif⟩ := Option.bind_eq_some_iff.1 hi
  split at hif
  · obtain ⟨r, hr, hpair⟩ := Option.map_eq_some_iff.1 hif
    obtain ⟨rfl, rfl⟩ := Prod.mk.inj hpair
    obtain ⟨b, hb, hpair'⟩ := Option.map_eq_some_iff.1 hr
    obtain ⟨rfl, rfl⟩ := Prod.mk.inj hpair'
    obtain ⟨hhit, hlt⟩ := hit_of_search hb
    refine ⟨e, he, beq_iff_eq.1 hhit, rfl, ?_⟩
    by_contra hout
    -- the limit is zero, and nothing is found
    rw [search, if_pos (by omega)] at hb
    cases hb
  · cases hif

lemma absorbSsid_of_visible (hhidden : isHiddenSsid net.ssid = false) :
    absorbSsid net ssid off = some net := by
  rw [absorbSsid, hhidden, Bool.false_and, if_neg Bool.false_ne_true]

lemma absorbSsid_of_hidden (hhidden : isHiddenSsid net.ssid = true)
    (hvis : isHiddenSsid ssid = false) : absorbSsid net ssid off =
      (Beacon.rtwGetIe net.ies off ssidIe (net.ieLength - off)).elim (some net)
        fun p => writeSsid net ssid p.1 p.2 := by
  rw [absorbSsid, hhidden, hvis, Bool.not_false, Bool.true_and, if_pos rfl]

/-- The function writes to one place, or nowhere. -/
lemma rtwAbsorbSsidIfneed_eq (hvis : isHiddenSsid bssid.ssid = false) :
    rtwAbsorbSsidIfneed q bssid subtype mac =
      (target q mac subtype.ieOffset).elim
        (some ({ bssid with reserved0 := subtype.bssType }, q)) fun t =>
          (q[t.1]?).bind fun e => (writeSsid e.network bssid.ssid t.2.1 t.2.2).map fun network =>
            ({ bssid with reserved0 := subtype.bssType }, q.set t.1 { e with network }) := by
  rw [rtwAbsorbSsidIfneed, target]
  rcases rtwFindNetwork q mac with _ | i
  · rfl
  · dsimp only
    rw [Option.bind_some, Option.bind_some]
    rcases he : q[i]? with _ | e
    · rfl
    · have hsame : q.set i { e with network := e.network } = q := by
        obtain ⟨hi, rfl⟩ := List.getElem?_eq_some_iff.1 he
        exact List.set_getElem_self hi
      rw [Option.map_some, Option.bind_some, Option.elim_some]
      dsimp only
      by_cases hhidden : isHiddenSsid e.network.ssid = true
      · rw [absorbSsid_of_hidden hhidden hvis, if_pos hhidden]
        rcases Beacon.rtwGetIe e.network.ies subtype.ieOffset ssidIe
          (e.network.ieLength - subtype.ieOffset) with _ | ⟨p, len⟩
        · rw [Option.map_none, Option.elim_none, Option.elim_none, Option.map_some, hsame]
        · rw [Option.map_some, Option.elim_some, Option.elim_some, he, Option.bind_some]
      · rw [absorbSsid_of_visible (Bool.eq_false_iff.2 hhidden), if_neg hhidden, Option.map_some,
          Option.elim_none, hsame]

/-- The SSID element with an SSID. -/
def ssidElement (ssid : List UInt8) (h : ssid.length ≤ 32) : Element where
  id := ssidIe
  data := ssid
  short := by omega

lemma eq_ssidElement {h : ssid.length ≤ 32} (hy : y.id = ssidIe) (hdata : y.data = ssid) :
    y = ssidElement ssid h := by
  obtain ⟨id, data, short⟩ := y
  cases hy
  cases hdata
  rfl

/-- An entry that is left alone holds the SSID if it did before. -/
lemma holds_of_kept (h : IsEntry net fixed es) :
    (∃ es', IsEntry net fixed es' ∧ HoldsSsid ssid es es') ↔
      ∃ pre x post, es = pre ++ x :: post ∧ (∀ z ∈ pre, z.id ≠ ssidIe) ∧ x.id = ssidIe ∧
        x.data = ssid := by
  constructor
  · rintro ⟨es', h', pre, x, y, post, rfl, hpre, hx, rfl, -, hdata⟩
    obtain ⟨-, hcons⟩ := List.append_inj (h.unique h') rfl
    obtain ⟨rfl, -⟩ := List.cons.inj hcons
    exact ⟨pre, x, post, rfl, hpre, hx, hdata⟩
  · rintro ⟨pre, x, post, rfl, hpre, hx, hdata⟩
    exact ⟨_, h, pre, x, x, post, rfl, hpre, hx, rfl, hx, hdata⟩

/-- When an entry that is written to holds the SSID. -/
lemma holds_of_written (hssid : ssid.length ≤ 32) (hpos : 0 < ssid.length)
    (h : IsEntry net fixed es) (hp : net.ies.getD p 0 = ssidIe) (hlen : len = lenAt net.ies p)
    (hin : CopiesInside net ssid p len) :
    (∃ es', IsEntry (written net (ssidElement ssid hssid) p len) fixed es' ∧
        HoldsSsid ssid es es') ↔
      ∃ pre x post, es = pre ++ x :: post ∧ (∀ z ∈ pre, z.id ≠ ssidIe) ∧ x.id = ssidIe ∧
        (x.data = [] ∧ net.ieLength + ssid.length ≤ maxIeSz ∧
          (p = (fixed ++ encode pre).length ∨
            Coincides net ssid p len (fixed ++ encode pre).length post)) := by
  constructor
  · rintro ⟨es', h', pre, x, y, post, rfl, hpre, hx, rfl, hy, hdata⟩
    obtain rfl := eq_ssidElement (h := hssid) hy hdata
    exact ⟨pre, x, post, rfl, hpre, hx,
      (isEntry_written_iff h hx hy hpos hp hlen hin).1 h'⟩
  · rintro ⟨pre, x, post, rfl, hpre, hx, hfits⟩
    exact ⟨_, (isEntry_written_iff h hx (y := ssidElement ssid hssid) rfl hpos hp hlen hin).2 hfits,
      pre, x, _, post, rfl, hpre, hx, rfl, rfl, rfl⟩

lemma pos_of_visible (hvis : isHiddenSsid ssid = false) : 0 < ssid.length := by
  rcases ssid with _ | ⟨b, bs⟩
  · cases hvis
  · exact Nat.succ_pos _

/-- Nothing is written. -/
lemma absorbOk_of_none (hvis : isHiddenSsid bssid.ssid = false) (hj : q[j]? = some e)
    (h : IsEntry e.network fixed es) (htarget : target q mac subtype.ieOffset = none) :
    AbsorbOk q j bssid subtype mac fixed es ↔
      ∃ pre x post, es = pre ++ x :: post ∧ (∀ z ∈ pre, z.id ≠ ssidIe) ∧ x.id = ssidIe ∧
        x.data = bssid.ssid := by
  rw [AbsorbOk, rtwAbsorbSsidIfneed_eq hvis, htarget]
  simp only [Option.elim_none, Option.mem_some_iff, exists_eq_left', hj]
  exact holds_of_kept h

/-- The SSID is written into an entry. -/
lemma rtwAbsorbSsidIfneed_of_inside (hvis : isHiddenSsid bssid.ssid = false)
    (hssid : bssid.ssid.length ≤ 32) (hi : q[i]? = some e)
    (hies : e.network.ies.length = maxIeSz) (hle : e.network.ieLength ≤ maxIeSz)
    (htarget : target q mac subtype.ieOffset = some (i, p, len))
    (hin : CopiesInside e.network bssid.ssid p len) :
    rtwAbsorbSsidIfneed q bssid subtype mac = some ({ bssid with reserved0 := subtype.bssType },
      q.set i { e with network := written e.network (ssidElement bssid.ssid hssid) p len }) := by
  obtain ⟨e', he', hp, -⟩ := exists_of_target htarget
  obtain rfl : e' = e := Option.mem_unique he' hi
  have hwrite : writeSsid e'.network bssid.ssid p len = some _ :=
    writeSsid_of_inside (y := ssidElement bssid.ssid hssid) hies hle rfl hp hin
  rw [rtwAbsorbSsidIfneed_eq hvis, htarget, Option.elim_some, hi, Option.bind_some, hwrite,
    Option.map_some]

/-- It is written into the entry. -/
lemma absorbOk_of_self (hvis : isHiddenSsid bssid.ssid = false) (hssid : bssid.ssid.length ≤ 32)
    (hj : q[j]? = some e) (h : IsEntry e.network fixed es)
    (htarget : target q mac subtype.ieOffset = some (j, p, len))
    (hin : CopiesInside e.network bssid.ssid p len) :
    AbsorbOk q j bssid subtype mac fixed es ↔
      ∃ pre x post, es = pre ++ x :: post ∧ (∀ z ∈ pre, z.id ≠ ssidIe) ∧ x.id = ssidIe ∧
        (x.data = [] ∧ e.network.ieLength + bssid.ssid.length ≤ maxIeSz ∧
          (p = (fixed ++ encode pre).length ∨
            Coincides e.network bssid.ssid p len (fixed ++ encode pre).length post)) := by
  obtain ⟨e', he', hp, hlen, -⟩ := exists_of_target htarget
  obtain rfl : e' = e := Option.mem_unique he' hj
  obtain ⟨hlt, -⟩ := List.getElem?_eq_some_iff.1 hj
  rw [AbsorbOk, rtwAbsorbSsidIfneed_of_inside hvis hssid hj h.length_ies h.le htarget hin]
  simp only [Option.mem_some_iff, exists_eq_left', List.getElem?_set_self hlt]
  exact holds_of_written hssid (pos_of_visible hvis) h hp hlen hin

/-- It is written into another entry. -/
lemma absorbOk_of_other (hvis : isHiddenSsid bssid.ssid = false) (hssid : bssid.ssid.length ≤ 32)
    {e' : WlanNetwork κ} (hi : q[i]? = some e') (hies : e'.network.ies.length = maxIeSz)
    (hle : e'.network.ieLength ≤ maxIeSz) (hj : q[j]? = some e) (hij : i ≠ j)
    (h : IsEntry e.network fixed es)
    (htarget : target q mac subtype.ieOffset = some (i, p, len))
    (hin : CopiesInside e'.network bssid.ssid p len) :
    AbsorbOk q j bssid subtype mac fixed es ↔
      ∃ pre x post, es = pre ++ x :: post ∧ (∀ z ∈ pre, z.id ≠ ssidIe) ∧ x.id = ssidIe ∧
        x.data = bssid.ssid := by
  rw [AbsorbOk, rtwAbsorbSsidIfneed_of_inside hvis hssid hi hies hle htarget hin]
  simp only [Option.mem_some_iff, exists_eq_left', List.getElem?_set_ne hij, hj]
  exact holds_of_kept h

/-- Something is copied outside. -/
lemma not_absorbOk_of_outside (hvis : isHiddenSsid bssid.ssid = false)
    (hi : q[i]? = some e) (hle : e.network.ieLength ≤ maxIeSz)
    (htarget : target q mac subtype.ieOffset = some (i, p, len))
    (hout : ¬ CopiesInside e.network bssid.ssid p len) :
    ¬ AbsorbOk q j bssid subtype mac fixed es := by
  obtain ⟨e', he', -, hlen, hlt⟩ := exists_of_target htarget
  obtain rfl : e' = e := Option.mem_unique he' hi
  have hshort : len < 256 := by
    rw [hlen]
    exact UInt8.toNat_lt _
  rintro ⟨r, hr, -⟩
  rw [rtwAbsorbSsidIfneed_eq hvis, htarget, Option.elim_some, hi, Option.bind_some,
    writeSsid_of_outside hle hlt hshort hout] at hr
  cases hr

/-- In the SSID element it is copied inside, and by chance as well. -/
lemma copiesInside_of_fits (h : IsEntry net fixed (pre ++ x :: post)) (hempty : x.data = [])
    (hroom : net.ieLength + ssid.length ≤ maxIeSz) (hlen : len = lenAt net.ies p)
    (hplace : p = (fixed ++ encode pre).length ∨
      Coincides net ssid p len (fixed ++ encode pre).length post) :
    CopiesInside net ssid p len := by
  refine ⟨?_, hroom.trans (Nat.le_add_right _ _)⟩
  rcases hplace with rfl | ⟨rfl, -, hend, -⟩
  · have hL := length_entry h
    rw [hlen, lenAt_ssid h, hempty, List.length_nil]
    omega
  · exact hend

/-- The entry holds the SSID exactly if there is an SSID element that has it and is left alone, or
is empty and is the one that is found, with room for the SSID. -/
theorem absorbOk_iff (hvis : isHiddenSsid bssid.ssid = false) (hssid : bssid.ssid.length ≤ 32)
    (hq : ∀ e ∈ q, e.network.ies.length = maxIeSz ∧ e.network.ieLength ≤ maxIeSz)
    (hj : q[j]? = some e) (h : IsEntry e.network fixed es) (subtype : FrameSubtype)
    (mac : MacAddr) : AbsorbOk q j bssid subtype mac fixed es ↔
      AbsorbFits q j e.network bssid.ssid mac subtype.ieOffset fixed es := by
  rw [AbsorbFits]
  rcases htarget : target q mac subtype.ieOffset with _ | ⟨i, p, len⟩
  · simp only [absorbOk_of_none hvis hj h htarget, reduceCtorEq, false_implies, implies_true,
      and_true, false_and, exists_false, or_false]
  · obtain ⟨e', he', -, hlen, -⟩ := exists_of_target htarget
    obtain ⟨hies, hle⟩ := hq e' (List.mem_of_getElem? he')
    by_cases hin : CopiesInside e'.network bssid.ssid p len
    · by_cases hij : i = j
      · subst hij
        obtain rfl : e' = e := Option.mem_unique he' hj
        rw [absorbOk_of_self hvis hssid hj h htarget hin]
        refine exists_congr fun pre => exists_congr fun x => exists_congr fun post =>
          and_congr_right fun _ => and_congr_right fun _ => and_congr_right fun _ => ?_
        constructor
        · exact fun hfits => .inr ⟨p, len, rfl, hfits⟩
        · rintro (⟨-, hother⟩ | ⟨p', len', heq, hfits⟩)
          · exact absurd rfl (hother i p len rfl).1
          · cases heq
            exact hfits
      · rw [absorbOk_of_other hvis hssid he' hies hle hj hij h htarget hin]
        refine exists_congr fun pre => exists_congr fun x => exists_congr fun post =>
          and_congr_right fun _ => and_congr_right fun _ => and_congr_right fun _ => ?_
        constructor
        · refine fun hdata => .inl ⟨hdata, ?_⟩
          rintro i' p' len' ⟨⟩
          exact ⟨hij, e', he', hin⟩
        · rintro (⟨hdata, -⟩ | ⟨p', len', heq, -⟩)
          · exact hdata
          · cases heq
            exact absurd rfl hij
    · refine iff_of_false (not_absorbOk_of_outside hvis he' hle htarget hin) ?_
      rintro ⟨pre, x, post, rfl, -, -, ⟨-, hother⟩ | ⟨p', len', heq, hempty, hroom, hplace⟩⟩
      · obtain ⟨-, e'', he'', hin'⟩ := hother i p len rfl
        obtain rfl := Option.mem_unique he' he''
        exact hin hin'
      · cases heq
        obtain rfl : e' = e := Option.mem_unique he' hj
        exact hin (copiesInside_of_fits h hempty hroom hlen hplace)

/-- A frame of the entry's own offset finds its first SSID element. -/
lemma target_of_first (hfind : rtwFindNetwork q mac = some j) (hj : q[j]? = some e)
    (hhidden : isHiddenSsid e.network.ssid = true)
    (h : IsEntry e.network fixed (pre ++ x :: post)) (hpre : ∀ z ∈ pre, z.id ≠ ssidIe)
    (hx : x.id = ssidIe) :
    target q mac fixed.length = some (j, (fixed ++ encode pre).length, x.data.length) := by
  have hL := length_entry h
  have hat : At e.network.ies fixed.length (pre ++ x :: post) := h.holds.at_elements
  rw [List.length_append] at hL
  have hget : Beacon.rtwGetIe e.network.ies fixed.length ssidIe
      (e.network.ieLength - fixed.length) = some _ :=
    Beacon.rtwGetIe_of_at hat hpre hx (by omega)
  rw [target, hfind, Option.bind_some, hj, Option.bind_some, if_pos hhidden, hget, Option.map_some,
    List.length_append]

/-- A network of a beacon, with an SSID element and nothing behind it. -/
def apNetwork (ssid : List UInt8) (h : ssid.length ≤ 32) : BssidEx where
  macAddress := .ofBytes 2 0 0 0 0 1
  ssid
  reserved0 := bssTypeBcn
  infrastructureMode := .infrastructure
  ieLength := 14 + ssid.length
  ies := List.replicate 12 0 ++ encode [ssidElement ssid h] ++
    List.replicate (754 - ssid.length) 0

lemma isEntry_apNetwork (hssid : ssid.length ≤ 32) :
    IsEntry (apNetwork ssid hssid) (List.replicate 12 0) [ssidElement ssid hssid] := by
  have hdata : (ssidElement ssid hssid).data.length = ssid.length := rfl
  have hlen : (List.replicate 12 (0 : UInt8) ++ encode [ssidElement ssid hssid]).length =
      14 + ssid.length := by
    simp only [encode_cons, encode_nil, List.append_nil, List.length_append, List.length_replicate,
      Element.length_bytes, Element.size, hdata]
    omega
  refine ⟨?_, ?_, ?_, ?_⟩
  · show List.length (_ ++ _) = 768
    rw [List.length_append, hlen, List.length_replicate]
    omega
  · rw [List.length_replicate]
    exact (if_neg (show bssTypeBcn ≠ bssTypeProbReq by decide)).symm
  · show 14 + ssid.length ≤ 768
    omega
  · show List.take (14 + ssid.length) (_ ++ _) = _
    rw [← hlen, List.take_left]

/-- The entry of a network. -/
def entryOf (net : BssidEx) : WlanNetwork Unit := ⟨0, net, false, 0, 0, ⟨[], ()⟩⟩

lemma rtwFindNetwork_entryOf (hssid : ssid.length ≤ 32) :
    rtwFindNetwork [entryOf (apNetwork ssid hssid)] (.ofBytes 2 0 0 0 0 1) = some 0 := by
  rw [rtwFindNetwork, if_neg (by decide), List.findIdx?_cons]
  exact if_pos (decide_eq_true rfl)

/-- The empty SSID of a beacon is replaced by that of a probe response. -/
theorem absorbOk_empty : AbsorbOk [entryOf (apNetwork [] (by decide))] 0
    (apNetwork [97, 98] (by decide)) .probeRsp (.ofBytes 2 0 0 0 0 1) (List.replicate 12 0)
    [ssidElement [] (by decide)] := by
  have hentry : IsEntry (apNetwork [] (by decide)) _ _ := isEntry_apNetwork (by decide)
  refine (absorbOk_iff (e := entryOf (apNetwork [] (by decide))) (by decide) (by decide) ?_ rfl
    hentry .probeRsp _).2 ?_
  · intro e he
    obtain rfl := List.mem_singleton.1 he
    exact ⟨hentry.length_ies, hentry.le⟩
  · have hblob : IsEntry (apNetwork [] (by decide)) _ ([] ++ _ :: []) := hentry
    have htarget := target_of_first (rtwFindNetwork_entryOf (by decide)) rfl (by decide) hblob
      (by simp) rfl
    refine ⟨[], ssidElement [] (by decide), [], rfl, by simp, rfl, .inr ⟨_, _, htarget, rfl, ?_,
      .inl rfl⟩⟩
    show 14 + 2 ≤ 768
    omega

/-- An SSID of two zero bytes is overwritten, and the length is two too many. -/
theorem not_absorbOk_null : ¬ AbsorbOk [entryOf (apNetwork [0, 0] (by decide))] 0
    (apNetwork [97, 98] (by decide)) .probeRsp (.ofBytes 2 0 0 0 0 1) (List.replicate 12 0)
    [ssidElement [0, 0] (by decide)] := by
  have hentry : IsEntry (apNetwork [0, 0] (by decide)) _ _ := isEntry_apNetwork (by decide)
  have hblob : IsEntry (apNetwork [0, 0] (by decide)) _ ([] ++ _ :: []) := hentry
  have htarget : target [entryOf (apNetwork [0, 0] (by decide))] (.ofBytes 2 0 0 0 0 1)
      FrameSubtype.probeRsp.ieOffset = some (0, 12, 2) := by
    have hfirst := target_of_first (rtwFindNetwork_entryOf (by decide)) rfl (by decide) hblob
      (by simp) rfl
    rw [encode_nil, List.append_nil, List.length_replicate] at hfirst
    exact hfirst
  have hin : CopiesInside (apNetwork [0, 0] (by decide)) [97, 98] 12 2 := by
    refine ⟨?_, ?_⟩
    · show 12 + 2 + 2 ≤ 14 + 2
      omega
    · show 14 + 2 + 2 ≤ 768 + 2
      omega
  intro hok
  obtain ⟨pre, x, post, hes, -, -, hempty, -⟩ :=
    (absorbOk_of_self (by decide) (by decide) rfl hentry htarget hin).1 hok
  rcases pre with _ | ⟨z, pre⟩
  · obtain ⟨rfl, -⟩ := List.cons.inj hes
    cases hempty
  · have hlen := congrArg List.length hes
    simp at hlen

end Rtl8723du.Scan
