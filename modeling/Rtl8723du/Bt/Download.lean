import Rtl8723du.Lib.Bytes

/-!
# Downloading the firmware

`download_data` of `BT/rtk_misc.c` cuts the patch into fragments of `PATCH_SEG_MAX` bytes and sends
each as a command of its own; the last may be empty.  A fragment carries its number in a byte whose
top bit, `DATA_END`, marks the last one.  The number is to go on with 1 after 127, but it is
computed as `(i & 0x7f) + 1`, which is 128 for `i = 255`: there the number itself is the mark.
-/

namespace Rtl8723du.Bt

open Lib

/-- `PATCH_SEG_MAX`. -/
abbrev patchSegMax : ℕ := 252

/-- `DATA_END`. -/
abbrev dataEnd : UInt8 := 0x80

/-- `CMD_HDR_LEN`. -/
abbrev cmdHdrLen : ℕ := 3

/-- `DOWNLOAD_OPCODE`, as it lies in the command header. -/
def downloadOpcode : List UInt8 := [0x20, 0xfc]

/-- `chip_type`. -/
inductive ChipType
  | rtlPrevious
  | rtl8822bu
  | rtl8723du
  | rtl8821cu
  | rtl8822cu
  | rtl8761bu
  | rtl8852au
  | rtl8723fu
  | rtl8852bu
  | rtl8852cu
  | rtl8822eu
deriving DecidableEq, Repr

/-- `get_max_patch_size`; its default is for values that are no `chip_type`. -/
def getMaxPatchSize : ChipType → ℕ
  | .rtlPrevious => 24 * 1024
  | .rtl8822bu => 25 * 1024
  | .rtl8723du | .rtl8822cu | .rtl8761bu | .rtl8821cu => 40 * 1024
  | .rtl8852au => 0x114D0 + 529
  | .rtl8723fu => 0xC4CF + 529
  | .rtl8852bu => 0x104D0 + 529
  | .rtl8852cu => 0x130D0 + 529
  | .rtl8822eu => 0x24620 + 529

/-! ### The commands -/

/-- The send side of `xchange_data`: `send_pkt` from `plen` on, and how much of it is sent. -/
structure XchangeData where
  plen : UInt8
  /-- `cmd_para->index`. -/
  index : UInt8
  /-- `cmd_para->data` and the bytes behind it. -/
  data : List UInt8
  pktLen : ℕ
deriving DecidableEq

/-- How the device takes a command. -/
structure Reply where
  /-- What `send_hci_cmd` returns. -/
  send : ℤ
  /-- What `rcv_hci_evt` returns. -/
  rcv : ℤ
  /-- `evt_para->status`. -/
  status : UInt8
deriving DecidableEq

/-- The bytes `send_hci_cmd` hands to the device. -/
def XchangeData.sendPkt (x : XchangeData) : List UInt8 :=
  (downloadOpcode ++ x.plen :: x.index :: x.data).take x.pktLen

/-- `frag_num` in `download_data`. -/
def fragNum (fw : List UInt8) : ℕ := fw.length / patchSegMax + 1

/-- `frag_len` in the pass `i` of `download_data`. -/
def fragLen (fw : List UInt8) (i : ℕ) : ℕ :=
  if i = fragNum fw - 1 then fw.length % patchSegMax else patchSegMax

/-- `cmd_para->index` in the pass `i` of `download_data`. -/
def fragIndex (fw : List UInt8) (i : ℕ) : UInt8 :=
  let j : ℕ := if i > 0x7f then i % 0x80 + 1 else i
  if i = fragNum fw - 1 then UInt8.ofNat j ||| dataEnd else UInt8.ofNat j

/-- The command that the pass `i` of `download_data` fills in. -/
def fillCmd (fw : List UInt8) (i : ℕ) (x : XchangeData) : XchangeData where
  index := fragIndex fw i
  plen := UInt8.ofNat (1 + fragLen fw i)
  pktLen := cmdHdrLen + (1 + patchSegMax) - (patchSegMax - fragLen fw i)
  data := (fw.drop (patchSegMax * i)).take (fragLen fw i) ++ x.data.drop (fragLen fw i)

/-- The passes of `download_data` from `i` on: the packets that are sent, and what it returns. -/
def downloadFrom (reply : ℕ → Reply) (fw : List UInt8) :
    ℕ → ℕ → XchangeData → List (List UInt8) × ℤ
  | 0, _, _ => ([], fw.length)
  | k + 1, i, x =>
      let x := fillCmd fw i x
      if (reply i).send < 0 then ([], (reply i).send)
      else if (reply i).rcv < 0 then ([x.sendPkt], (reply i).rcv)
      else if (reply i).status ≠ 0 then ([x.sendPkt], -1)
      else
        (x.sendPkt :: (downloadFrom reply fw k (i + 1) x).1, (downloadFrom reply fw k (i + 1) x).2)

/-- `download_data`, with what the device does with each fragment. -/
def downloadData (reply : ℕ → Reply) (fw : List UInt8) (x : XchangeData) :
    List (List UInt8) × ℤ :=
  downloadFrom reply fw (fragNum fw) 0 x

/-! ### What the device is to get -/

/-- The fragment in a download command. -/
def fragOf (pkt : List UInt8) : List UInt8 := pkt.drop (cmdHdrLen + 1)

/-- A well formed download command. -/
structure DownloadCmd (pkt : List UInt8) : Prop where
  opcode : pkt.take 2 = downloadOpcode
  fits : (fragOf pkt).length ≤ patchSegMax
  plen : (pkt.getD 2 0).toNat = 1 + (fragOf pkt).length
  length : pkt.length = cmdHdrLen + (pkt.getD 2 0).toNat

/-- A command is marked as the last. -/
def IsEnd (pkt : List UInt8) : Prop := pkt.getD cmdHdrLen 0 &&& dataEnd ≠ 0

instance (pkt : List UInt8) : Decidable (IsEnd pkt) := inferInstanceAs (Decidable (¬ _))

/-- The commands carry the buffer, and just the last is marked. -/
structure Delivers (fw : List UInt8) (pkts : List (List UInt8)) : Prop where
  cmd : ∀ pkt ∈ pkts, DownloadCmd pkt
  concat : (pkts.map fragOf).flatten = fw
  isEnd : ∀ i pkt, pkts[i]? = some pkt → (IsEnd pkt ↔ i + 1 = pkts.length)

/-! ### One fragment -/

variable {fw : List UInt8} {i k : ℕ} {x : XchangeData}

/-- The command for a fragment. -/
def fragCmd (fw : List UInt8) (i : ℕ) : List UInt8 :=
  downloadOpcode ++ UInt8.ofNat (1 + fragLen fw i) :: fragIndex fw i ::
    (fw.drop (patchSegMax * i)).take (fragLen fw i)

lemma fragLen_le : fragLen fw i ≤ 252 := by
  rw [fragLen]
  split
  · exact (Nat.mod_lt _ (by decide)).le
  · exact le_rfl

/-- A fragment lies inside the buffer. -/
lemma fragLen_add_le (hi : i < fragNum fw) : patchSegMax * i + fragLen fw i ≤ fw.length := by
  have hdiv := Nat.div_add_mod fw.length patchSegMax
  rw [fragLen]
  split
  · next hlast =>
      have : i = fw.length / patchSegMax := by simpa [fragNum] using hlast
      subst this
      exact hdiv.le
  · next hlast =>
      have hlt : i + 1 ≤ fw.length / patchSegMax := by
        simp only [fragNum] at hi hlast
        omega
      calc patchSegMax * i + patchSegMax = patchSegMax * (i + 1) := by ring
        _ ≤ patchSegMax * (fw.length / patchSegMax) := Nat.mul_le_mul_left _ hlt
        _ ≤ fw.length := Nat.mul_div_le _ _

lemma length_fragOf_fragCmd (hi : i < fragNum fw) :
    ((fw.drop (patchSegMax * i)).take (fragLen fw i)).length = fragLen fw i := by
  have := fragLen_add_le hi
  rw [List.length_take, List.length_drop]
  omega

lemma length_fragCmd (hi : i < fragNum fw) : (fragCmd fw i).length = fragLen fw i + 4 := by
  simp [fragCmd, downloadOpcode, length_fragOf_fragCmd hi]

/-- Nothing that was in the buffer before is sent. -/
lemma sendPkt_fillCmd (hi : i < fragNum fw) : (fillCmd fw i x).sendPkt = fragCmd fw i := by
  have hle : fragLen fw i ≤ 252 := fragLen_le
  have hpkt : (fillCmd fw i x).pktLen = (fragCmd fw i).length := by
    rw [length_fragCmd hi]
    show 3 + (1 + 252) - (252 - fragLen fw i) = _
    omega
  have hpre : downloadOpcode ++ (fillCmd fw i x).plen :: (fillCmd fw i x).index ::
      (fillCmd fw i x).data = fragCmd fw i ++ x.data.drop (fragLen fw i) := by
    simp [fillCmd, fragCmd]
  rw [XchangeData.sendPkt, hpkt, hpre, List.take_left]

@[simp] lemma fragOf_fragCmd :
    fragOf (fragCmd fw i) = (fw.drop (patchSegMax * i)).take (fragLen fw i) := rfl

lemma downloadCmd_fragCmd (hi : i < fragNum fw) : DownloadCmd (fragCmd fw i) := by
  have hlen := length_fragOf_fragCmd hi
  have hle : fragLen fw i ≤ 252 := fragLen_le
  have hplen : ((fragCmd fw i).getD 2 0).toNat = 1 + fragLen fw i := by
    show (UInt8.ofNat (1 + fragLen fw i)).toNat = _
    rw [UInt8.toNat_ofNat']
    exact Nat.mod_eq_of_lt (by omega)
  refine ⟨rfl, ?_, ?_, ?_⟩
  · rw [fragOf_fragCmd, hlen]
    exact hle
  · rw [fragOf_fragCmd, hlen, hplen]
  · rw [hplen, length_fragCmd hi]
    show fragLen fw i + 4 = 3 + (1 + fragLen fw i)
    omega

/-- The last fragment is marked, and so are those whose number is 128. -/
lemma isEnd_fragCmd_iff : IsEnd (fragCmd fw i) ↔
    i = fragNum fw - 1 ∨ 0x7f < i ∧ i % 0x80 = 0x7f := by
  have hmark (j : Fin 129) : (UInt8.ofNat j ||| dataEnd) &&& dataEnd ≠ 0 ∧
      (UInt8.ofNat j &&& dataEnd ≠ 0 ↔ j.val = 128) := by
    revert j
    decide
  -- the number fits seven bits but for `0x7f + 1`
  obtain ⟨j, hj⟩ : ∃ j : Fin 129, j.val = if i > 0x7f then i % 0x80 + 1 else i := by
    refine ⟨⟨if i > 0x7f then i % 0x80 + 1 else i, ?_⟩, rfl⟩
    split <;> omega
  show fragIndex fw i &&& dataEnd ≠ 0 ↔ _
  rw [fragIndex, ← hj]
  by_cases hlast : i = fragNum fw - 1
  · rw [if_pos hlast]
    exact iff_of_true (hmark j).1 (.inl hlast)
  · rw [if_neg hlast, (hmark j).2, hj]
    simp only [hlast, false_or]
    split <;> omega

/-! ### The whole buffer -/

/-- The device takes a fragment. -/
structure Reply.Takes (r : Reply) : Prop where
  send : 0 ≤ r.send
  rcv : 0 ≤ r.rcv
  status : r.status = 0

/-- What a download sends when the device takes each fragment. -/
lemma downloadFrom_of_takes {reply : ℕ → Reply} (hik : i + k = fragNum fw)
    (h : ∀ j, i ≤ j → j < fragNum fw → (reply j).Takes) :
    downloadFrom reply fw k i x = ((List.range' i k).map (fragCmd fw), (fw.length : ℤ)) := by
  induction k generalizing i x with
  | zero => rfl
  | succ k ih =>
      obtain ⟨hsend, hrcv, hstatus⟩ := h i le_rfl (by omega)
      have hrest := fun j hj => h j (Nat.le_of_succ_le hj)
      rw [downloadFrom, if_neg (by omega), if_neg (by omega), if_neg (by rw [hstatus]; simp),
        sendPkt_fillCmd (by omega), ih (by omega) hrest]
      rfl

lemma downloadData_of_takes {reply : ℕ → Reply} (h : ∀ i < fragNum fw, (reply i).Takes) :
    downloadData reply fw x = ((List.range (fragNum fw)).map (fragCmd fw), (fw.length : ℤ)) := by
  rw [List.range_eq_range']
  exact downloadFrom_of_takes (by omega) fun j _ hj => h j hj

/-- The fragments from `i` on make up the buffer from there on. -/
lemma flatten_fragCmd (fw : List UInt8) (i : ℕ) (hik : i + k = fragNum fw) :
    (((List.range' i k).map (fragCmd fw)).map fragOf).flatten = fw.drop (patchSegMax * i) := by
  induction k generalizing i with
  | zero =>
      have hlt : fw.length < patchSegMax * fragNum fw := Nat.lt_mul_div_succ _ (by decide)
      obtain rfl : i = fragNum fw := by omega
      simp [List.drop_eq_nil_of_le hlt.le]
  | succ k ih =>
      rw [List.range'_succ, List.map_cons, List.map_cons, List.flatten_cons, ih _ (by omega),
        fragOf_fragCmd]
      by_cases hlast : i = fragNum fw - 1
      · -- nothing is left behind the last fragment
        have hadd : fw.length = patchSegMax * i + fragLen fw i := by
          rw [fragLen, if_pos hlast, hlast]
          exact (Nat.div_add_mod fw.length patchSegMax).symm
        have hlt : fw.length ≤ patchSegMax * (i + 1) := by
          rw [show i + 1 = fragNum fw by omega]
          exact (Nat.lt_mul_div_succ _ (by decide)).le
        rw [List.drop_eq_nil_of_le hlt, List.append_nil, List.take_of_length_le]
        rw [List.length_drop]
        omega
      · rw [fragLen, if_neg hlast, Nat.mul_succ, ← List.drop_drop, List.take_append_drop]

/-- A fragment other than the last is marked just if there are more than 256. -/
lemma exists_marked_iff :
    (∃ i, i + 1 < fragNum fw ∧ 0x7f < i ∧ i % 0x80 = 0x7f) ↔ 64512 ≤ fw.length := by
  have hnum : fragNum fw = fw.length / 252 + 1 := rfl
  constructor
  · rintro ⟨i, hi, hlt, hmod⟩
    omega
  · intro hlen
    exact ⟨255, by omega, by omega, rfl⟩

/-- The planned commands deliver the buffer just if it is shorter than 256 fragments. -/
lemma delivers_fragCmd_iff :
    Delivers fw ((List.range (fragNum fw)).map (fragCmd fw)) ↔ fw.length < 64512 := by
  have hget {i : ℕ} {pkt : List UInt8} :
      ((List.range (fragNum fw)).map (fragCmd fw))[i]? = some pkt ↔
        i < fragNum fw ∧ fragCmd fw i = pkt := by
    rw [List.getElem?_map, Option.map_eq_some_iff]
    simp [List.getElem?_eq_some_iff]
  rw [← Nat.not_le, ← exists_marked_iff]
  constructor
  · rintro hdel ⟨i, hi, hmark⟩
    have hend := (hdel.isEnd i _ (hget.2 ⟨by omega, rfl⟩)).1 (isEnd_fragCmd_iff.2 (.inr hmark))
    simp only [List.length_map, List.length_range] at hend
    omega
  · intro hno
    refine ⟨?_, ?_, ?_⟩
    · intro pkt hpkt
      obtain ⟨i, hi, rfl⟩ := List.mem_map.1 hpkt
      exact downloadCmd_fragCmd (List.mem_range.1 hi)
    · rw [List.range_eq_range']
      simpa using flatten_fragCmd fw 0 (by omega)
    · intro i pkt hpkt
      obtain ⟨hi, rfl⟩ := hget.1 hpkt
      rw [isEnd_fragCmd_iff, List.length_map, List.length_range]
      constructor
      · rintro (hlast | hmark)
        · omega
        · by_contra hne
          exact hno ⟨i, by omega, hmark⟩
      · intro hlast
        left
        omega

/-- A download of which the device takes each fragment ends well, and it has delivered the buffer
just if that is shorter than 64512 bytes. -/
theorem downloadData_delivers_iff (reply : ℕ → Reply) (fw : List UInt8) (x : XchangeData)
    (h : ∀ i < fragNum fw, (reply i).Takes) :
    (downloadData reply fw x).2 = fw.length ∧
      (Delivers fw (downloadData reply fw x).1 ↔ fw.length < 64512) := by
  rw [downloadData_of_takes h]
  exact ⟨rfl, delivers_fragCmd_iff⟩

/-- A device that takes all fragments. -/
def allTaken (_ : ℕ) : Reply := ⟨256, 6, 0⟩

lemma takes_allTaken (i : ℕ) : (allTaken i).Takes :=
  ⟨show (0 : ℤ) ≤ 256 by decide, show (0 : ℤ) ≤ 6 by decide, rfl⟩

/-- A patch of two full fragments and a short one. -/
theorem downloadData_delivers_threeFragments :
    (downloadData allTaken (List.replicate 600 7) ⟨0, 0, [], 0⟩).1.length = 3 ∧
      Delivers (List.replicate 600 7)
        (downloadData allTaken (List.replicate 600 7) ⟨0, 0, [], 0⟩).1 := by
  refine ⟨by decide +kernel, (downloadData_delivers_iff allTaken (List.replicate 600 7)
    ⟨0, 0, [], 0⟩ fun i _ => takes_allTaken i).2.2 ?_⟩
  rw [List.length_replicate]
  decide

/-- A patch that an RTL8852AU takes, and a device that takes all of its fragments. -/
theorem downloadData_marks_early :
    (List.replicate 64512 (0 : UInt8)).length ≤ getMaxPatchSize .rtl8852au ∧
      (downloadData allTaken (List.replicate 64512 0) ⟨0, 0, [], 0⟩).2 =
        (List.replicate 64512 (0 : UInt8)).length ∧
      ¬ Delivers (List.replicate 64512 0)
        (downloadData allTaken (List.replicate 64512 0) ⟨0, 0, [], 0⟩).1 := by
  rw [downloadData_of_takes fun i _ => takes_allTaken i]
  refine ⟨?_, rfl, ?_⟩
  · rw [List.length_replicate]
    decide
  · rw [delivers_fragCmd_iff, List.length_replicate]
    decide

end Rtl8723du.Bt
