import Rtl8723du.Bridge.PppoeRelay

/-!
# Frames of the clients on their way out

`rtw_br_client_tx` puts the address of the adapter in place of the source address of a frame, when
`nat25_db_handle` has learnt where the answers are to go.  For that a VLAN tag is taken out, by
moving the two addresses up by four bytes, and put back at the end.  An insertion that fails with
-1 is to be ignored, but the frame then goes out as it is at that moment: without its VLAN tag, and
with the address of the client.
-/

namespace Rtl8723du.BrExt

open Lib Lib.Memory

/-! ### The code -/

/-- What a call of `rtw_br_client_tx` depends on besides the frame. -/
structure TxEnv extends Env where
  /-- The device is a port of a bridge. -/
  brPort : Bool
  /-- `rtw_skb_copy` has memory. -/
  copyOk : Bool
  /-- The buffer of the copy, before the frame is copied into it. -/
  copyMem : Mem
  copyTailroom : ℕ
  /-- `skb_linearize` does not fail; the frames here are linear. -/
  linearizeOk : Bool

/-- What `rtw_br_client_tx` leaves; `ret` is missing if `nat25_db_handle` does not return. -/
structure Sent where
  priv : Priv
  skb : Skb
  ret : Option ℤ

/-- `skb_pull`. -/
def Skb.pull (b : Skb) (n : ℕ) : Skb :=
  if n ≤ b.len then { b with data := b.data + n, len := b.len - n } else b

/-- `skb_push`. -/
def Skb.push (b : Skb) (n : ℕ) : Skb := { b with data := b.data - n, len := b.len + n }

/-- The addresses are moved up by four bytes, two bytes at a time. -/
def moveUp (b : Skb) : Skb :=
  (List.range 6).foldl (fun b i => b.wr (14 - 2 * i) (b.rd (10 - 2 * i) 2)) b

/-- The addresses are moved down by four bytes, two bytes at a time. -/
def moveDown (b : Skb) : Skb :=
  (List.range 6).foldl (fun b i => b.wr (2 * i) (b.rd (4 + 2 * i) 2)) b

/-- `is_vlan_tag`. -/
def isVlanTag (b : Skb) : Prop := b.be 12 = 0x8100

instance (b : Skb) : Decidable (isVlanTag b) := inferInstanceAs (Decidable (_ = _))

/-- The VLAN tag is taken out. -/
def stripTag (b : Skb) : Skb := (moveUp b).pull 4

/-- The VLAN tag is put back, with `vlan_hdr`. -/
def restoreTag (vlanHdr : List UInt8) (b : Skb) : Skb :=
  ((moveDown (b.push 4)).wr 12 [0x81, 0x00]).wr 14 vlanHdr

/-- The tag is taken out, if the frame that came in has one. -/
def untagged (b b' : Skb) : Skb := if isVlanTag b then stripTag b' else b'

/-- The tag is put back, if the frame that came in has one. -/
def retagged (b : Skb) (vlanHdr : List UInt8) (b' : Skb) : Skb :=
  if isVlanTag b then restoreTag vlanHdr b' else b'

/-- `rtw_skb_copy`. -/
def skbCopy (e : TxEnv) (b : Skb) : Skb :=
  { b with
    mem := write e.copyMem b.data b.bytes
    tailroom := e.copyTailroom }

/-- `scdb_findEntry`. -/
def scdbFindEntry (p : Priv) (ipAddr : List UInt8) : Option (List UInt8) :=
  (p.nethash (nat25GenerateIpv4NetworkAddr ipAddr)).map fun _ => nat25GenerateIpv4NetworkAddr ipAddr

/-- The address of the bridge itself. -/
def learnBrIp (p : Priv) (b : Skb) : Priv :=
  if b.mac 6 = p.brMac ∧ b.be 12 = 0x0800 then { p with brIp := b.rd 26 4 } else p

/-- The caches of the bridge extension; the second part is `do_nat25`. -/
def learn (p : Priv) (b : Skb) : Priv × Bool :=
  let p := learnBrIp p b
  if b.be 12 = 0x0800 then
    if b.mac 6 ≠ p.scdbMac then
      match scdbFindEntry p (b.rd 26 4) with
      | none => ({ p with scdbEntry := none }, true)
      | some entry =>
          ({ p with scdbEntry := some entry, scdbMac := b.mac 6, scdbIp := b.rd 26 4 }, false)
    else if p.scdbEntry.isSome then (p, false)
    else ({ p with scdbMac := Vector.replicate 6 0, scdbIp := List.replicate 4 0 }, true)
  else (p, true)

/-- The client and its entry are cached: nothing but the source address needs to be written. -/
def FastPath (e : TxEnv) (p : Priv) (b : Skb) : Prop :=
  b.get 0 &&& 1 = 0 ∧ e.brPort = true ∧ b.mac 6 ≠ p.brMac ∧ b.be 12 ≠ 0x8100 ∧ b.be 12 = 0x0800 ∧
    p.scdbMac = b.mac 6 ∧ p.scdbEntry.isSome

instance (e : TxEnv) (p : Priv) (b : Skb) : Decidable (FastPath e p b) :=
  inferInstanceAs (Decidable (_ ∧ _))

/-- The frame that is edited, with its `vlan_hdr`: a copy, if `nat25_db_handle` says so, and the tag
is taken out of that once more. -/
def editFrame (e : TxEnv) (p : Priv) (b : Skb) : Option (Skb × List UInt8) :=
  if (nat25DbHandle e.toEnv p (untagged b b) .check).ret = some 0 then
    if e.copyOk = true then
      let newskb := skbCopy e (retagged b (b.rd 14 2) (untagged b b))
      some (untagged b newskb, newskb.rd 14 2)
    else none
  else some (untagged b b, b.rd 14 2)

/-- The test of the source address at the end. -/
def checkSource (p : Priv) (b : Skb) : Sent :=
  if b.mac 6 ≠ p.hwaddr then ⟨p, b, some (-1)⟩ else ⟨p, b, some 0⟩

/-- The way out of a frame that has been edited. -/
def sendEdited (p : Priv) (b : Skb) (vlanHdr : List UInt8) (b' : Skb) : Sent :=
  checkSource p (retagged b vlanHdr (dhcpFlagBcast p (b'.wr 6 p.hwaddr.toList)))

/-- `rtw_br_client_tx`. -/
def rtwBrClientTx (e : TxEnv) (p : Priv) (b : Skb) : Sent :=
  if FastPath e p b then checkSource p (b.wr 6 p.hwaddr.toList)
  else
    let learnt := learn p (untagged b b)
    if learnt.2 = false then sendEdited learnt.1 b (b.rd 14 2) (untagged b b)
    else
      match editFrame e learnt.1 b with
      | none => ⟨learnt.1, retagged b (b.rd 14 2) (untagged b b), some (-1)⟩
      | some (b', vlanHdr) =>
          if e.linearizeOk = false then ⟨learnt.1, b', some (-1)⟩
          else
            let r := nat25DbHandle e.toEnv learnt.1 b' .insert
            match r.ret with
            | none => ⟨r.priv, r.skb, none⟩
            | some res =>
                if res < 0 then
                  if res = -2 then ⟨r.priv, r.skb, some (-1)⟩
                  else ⟨r.priv, r.skb, some 0⟩  -- "let it go"
                else sendEdited r.priv b vlanHdr r.skb

/-! ### What is to become of a frame -/

/-- An Ethernet frame has its header. -/
def EthFrame (b : Skb) : Prop := 14 ≤ b.len ∧ (isVlanTag b → 18 ≤ b.len)

/-- The length of the VLAN tag. -/
def vlanLen (b : Skb) : ℕ := if isVlanTag b then 4 else 0

/-- The frame `u` is `b` without a VLAN tag. -/
structure Untagged (b u : Skb) : Prop where
  len : u.len + vlanLen b = b.len
  addrs : ∀ i < 12, u.get i = b.get i
  rest : ∀ i, 12 ≤ i → i < u.len → u.get i = b.get (i + vlanLen b)

/-- The hardware address in an ARP message, and that in a Neighbour Discovery message with its
checksum. -/
def HwEdit (u : Skb) (i : ℕ) : Prop :=
  (u.be 12 = 0x0806 ∧ 22 ≤ i ∧ i < 28) ∨
    (u.be 12 = 0x86dd ∧ ∃ o, NdEdited u o ∧
      ((o + 2 ≤ u.data + i ∧ u.data + i < o + 8) ∨ 56 ≤ i ∧ i < 58))

/-- The broadcast flag of a DHCP request and its checksum. -/
def DhcpEdit (u : Skb) (i : ℕ) : Prop :=
  DhcpMatches u ∧ (i = udphOff u + 6 ∨ i = udphOff u + 7 ∨ i = udphOff u + 18)

/-- A PADI or PADR. -/
def IsPadx (b : Skb) : Prop :=
  (b.be 12 = 0x8863 ∨ b.be 12 = 0x8864) ∧ b.be 16 = 0 ∧ (b.get 15 = 0x09 ∨ b.get 15 = 0x19)

instance (b : Skb) : Decidable (IsPadx b) := inferInstanceAs (Decidable (_ ∧ _))

/-- What stands behind the addresses is that of an untagged PADI or PADR, with the relay tag in
front of the other tags. -/
def RelayEdit (u : Skb) (l : List UInt8) : Prop :=
  match (nat25FindPppoeTag u pttRelaySid).1 with
  | none =>
      20 ≤ u.len ∧
        l = u.rd 12 6 ++ beBytes (u.be 18 + 12) ++ beBytes pttRelaySid ++ beBytes 8 ++
          beBytes magicCode ++ u.rd 6 6 ++ u.rd 20 (u.len - 20)
  | some t =>
      let old := u.be (t + 2)
      20 ≤ t ∧ t + (4 + old) ≤ u.len ∧
        l = u.rd 12 6 ++ beBytes (u.be 18 + 8) ++ beBytes pttRelaySid ++ beBytes (8 + old) ++
          beBytes magicCode ++ u.rd 6 6 ++ u.rd (t + 4) old ++ u.rd 20 (t - 20) ++
            u.rd (t + (4 + old)) (u.len - (t + (4 + old)))

/-- The frame has kept what it should keep, against the untagged frame `u`. -/
structure FrameKept (hwaddr : MacAddr) (b u b' : Skb) : Prop where
  source : b'.mac 6 = hwaddr
  dest : ∀ i < 6, b'.get i = b.get i
  tag : ∀ i, 12 ≤ i → i < 12 + vlanLen b → b'.get i = b.get i
  rest : (b'.len = b.len ∧ ∀ i, 12 + vlanLen b ≤ i → i < b.len →
      ¬ (HwEdit u (i - vlanLen b) ∨ DhcpEdit u (i - vlanLen b)) → b'.get i = b.get i) ∨
    (IsPadx u ∧ RelayEdit u (b'.rd (12 + vlanLen b) (b'.len - (12 + vlanLen b))))

/-- Whenever 0 is returned, the frame has kept what it should keep. -/
def ClientKept (e : TxEnv) (p : Priv) (b : Skb) : Prop :=
  (rtwBrClientTx e p b).ret = some 0 →
    ∃ u, Untagged b u ∧ FrameKept p.hwaddr b u (rtwBrClientTx e p b).skb

/-! ### When it is so -/

/-- The bridge extension accepts the frame and does not have to make room in it. -/
def Accepted (p : Priv) (b : Skb) : Prop :=
  (b.be 12 = 0x0800 ∧ 4 * (b.get 14 &&& 0x0f).toNat < b.len) ∨
    (b.be 12 = 0x0806 ∧ b.be 16 = 0x0800) ∨
    ((b.be 12 = 0x8863 ∨ b.be 12 = 0x8864) ∧ b.be 16 ≠ 0) ∨
    (IsPadx b ∧ p.addPppoeTag = false) ∨
    (b.be 12 = 0x888e ∨ b.be 12 = 0xe2ae ∨ b.be 12 = 0xe2af) ∨
    (b.be 12 = 0x86dd ∧ 40 < (b.len + (2 ^ 32 - 14)) % 2 ^ 32)

/-- A PADI or PADR that is not given a relay tag, and keeps its own one. -/
def RelayStays (b : Skb) : Prop :=
  match (nat25FindPppoeTag b pttRelaySid).1 with
  | none => b.tailroom < 2052
  | some t => 28 < b.be (t + 2) ∨ b.len < t + (4 + b.be (t + 2))

/-- The frame is cached, cannot be sent, is accepted, or is let go as it should be: without a VLAN
tag, with the address of the adapter, and with the relay tag it had. -/
def ClientOk (e : TxEnv) (p : Priv) (b : Skb) : Prop :=
  FastPath e p b ∨ (learn p (untagged b b)).2 = false ∨ e.linearizeOk = false ∨
    ∀ r ∈ editFrame e (learn p (untagged b b)).1 b, Accepted p r.1 ∨
      (¬ isVlanTag b ∧ b.mac 6 = p.hwaddr ∧ (IsPadx r.1 → RelayStays r.1))

/-! ### The VLAN tag -/

variable {e : TxEnv} {p : Priv} {b b' u : Skb} {i j n : ℕ}

lemma Skb.get_wr_pair (b : Skb) (i j : ℕ) (x y : UInt8) :
    (b.wr j [x, y]).get i = if i = j then x else if i = j + 1 then y else b.get i := by
  simp only [Skb.wr, Skb.get, write, List.length_cons, List.length_nil]
  rcases Nat.lt_trichotomy i j with hlt | rfl | hgt
  · rw [if_neg (by omega), if_neg (by omega), if_neg (by omega)]
  · simp
  · rw [if_neg (by omega : i ≠ j)]
    by_cases hi : i = j + 1
    · subst hi
      rw [if_pos (by omega), if_pos rfl, show b.data + (j + 1) - (b.data + j) = 1 by omega]
      rfl
    · rw [if_neg (by omega), if_neg hi]

lemma Skb.rd_pair (b : Skb) (i : ℕ) : b.rd i 2 = [b.get i, b.get (i + 1)] := by
  simp [Skb.rd, readBytes, Skb.get, List.range_succ, Nat.add_assoc]

@[simp] lemma Skb.data_wr (b : Skb) (i : ℕ) (bs : List UInt8) : (b.wr i bs).data = b.data := rfl

@[simp] lemma Skb.len_wr (b : Skb) (i : ℕ) (bs : List UInt8) : (b.wr i bs).len = b.len := rfl

/-- The two bytes of a pass lie below those that have been moved. -/
lemma moveUp_loop (b : Skb) (i : ℕ) {k : ℕ} (hk : k ≤ 6) :
    ((List.range k).foldl (fun b i => b.wr (14 - 2 * i) (b.rd (10 - 2 * i) 2)) b).get i =
      if 16 - 2 * k ≤ i ∧ i < 16 then b.get (i - 4) else b.get i := by
  induction k generalizing i with
  | zero =>
      rw [if_neg (by omega)]
      rfl
  | succ k ih =>
      rw [List.range_succ, List.foldl_append, List.foldl_cons, List.foldl_nil, Skb.rd_pair,
        Skb.get_wr_pair, ih i (by omega), ih _ (by omega), ih _ (by omega),
        if_neg (by omega : ¬ (16 - 2 * k ≤ 10 - 2 * k ∧ _)),
        if_neg (by omega : ¬ (16 - 2 * k ≤ 10 - 2 * k + 1 ∧ _))]
      by_cases h0 : i = 14 - 2 * k
      · rw [if_pos h0, if_pos (by omega), h0, show 14 - 2 * k - 4 = 10 - 2 * k by omega]
      by_cases h1 : i = 14 - 2 * k + 1
      · rw [if_neg h0, if_pos h1, if_pos (by omega), h1,
          show 14 - 2 * k + 1 - 4 = 10 - 2 * k + 1 by omega]
      · rw [if_neg h0, if_neg h1]
        congr 1
        exact propext (by omega)

lemma moveUp_get (b : Skb) (i : ℕ) :
    (moveUp b).get i = if 4 ≤ i ∧ i < 16 then b.get (i - 4) else b.get i :=
  moveUp_loop b i le_rfl

lemma moveDown_loop (b : Skb) (i : ℕ) {k : ℕ} :
    ((List.range k).foldl (fun b i => b.wr (2 * i) (b.rd (4 + 2 * i) 2)) b).get i =
      if i < 2 * k then b.get (i + 4) else b.get i := by
  induction k generalizing i with
  | zero => rfl
  | succ k ih =>
      rw [List.range_succ, List.foldl_append, List.foldl_cons, List.foldl_nil, Skb.rd_pair,
        Skb.get_wr_pair, ih i, ih, ih, if_neg (by omega : ¬ 4 + 2 * k < 2 * k),
        if_neg (by omega : ¬ 4 + 2 * k + 1 < 2 * k)]
      by_cases h0 : i = 2 * k
      · rw [if_pos h0, if_pos (by omega), h0, Nat.add_comm]
      by_cases h1 : i = 2 * k + 1
      · rw [if_neg h0, if_pos h1, if_pos (by omega), h1,
          show 4 + 2 * k + 1 = 2 * k + 1 + 4 by omega]
      · rw [if_neg h0, if_neg h1]
        congr 1
        exact propext (by omega)

lemma moveDown_get (b : Skb) (i : ℕ) :
    (moveDown b).get i = if i < 12 then b.get (i + 4) else b.get i :=
  moveDown_loop b i

lemma stripTag_spec (h : 4 ≤ b.len) :
    (stripTag b).data = b.data + 4 ∧ (stripTag b).len + 4 = b.len ∧
      ∀ i, (stripTag b).get i = if i < 12 then b.get i else b.get (i + 4) := by
  have hpull : stripTag b =
      { moveUp b with data := (moveUp b).data + 4, len := (moveUp b).len - 4 } := if_pos h
  rw [hpull]
  refine ⟨rfl, Nat.sub_add_cancel h, fun i => ?_⟩
  show (moveUp b).mem ((moveUp b).data + 4 + i) = _
  have hget := moveUp_get b (4 + i)
  rw [Skb.get, ← Nat.add_assoc] at hget
  rw [hget]
  by_cases hi : i < 12
  · rw [if_pos (by omega), if_pos hi, Nat.add_sub_cancel_left]
  · rw [if_neg (by omega), if_neg hi, Nat.add_comm]

lemma restoreTag_spec (vlanHdr : List UInt8) (b : Skb) (hhdr : vlanHdr.length = 2)
    (h : 4 ≤ b.data) :
    (restoreTag vlanHdr b).len = b.len + 4 ∧ (restoreTag vlanHdr b).data + 4 = b.data ∧
      (∀ i < 12, (restoreTag vlanHdr b).get i = b.get i) ∧
      (restoreTag vlanHdr b).rd 12 4 = [0x81, 0x00] ++ vlanHdr ∧
      ∀ i, 12 ≤ i → (restoreTag vlanHdr b).get (i + 4) = b.get i := by
  have hpush (i : ℕ) : (b.push 4).get (i + 4) = b.get i := by
    show b.mem (b.data - 4 + (i + 4)) = b.mem (b.data + i)
    congr 1
    omega
  refine ⟨rfl, Nat.sub_add_cancel h, fun i hi => ?_, ?_, fun i hi => ?_⟩
  · rw [restoreTag, Skb.get_wr_of_ne (by omega), Skb.get_wr_of_ne (by omega), moveDown_get,
      if_pos hi, hpush]
  · rw [Skb.rd_add _ 12 2 2, restoreTag]
    have htag : ((moveDown (b.push 4)).wr 12 [0x81, 0x00]).rd 12 2 = [0x81, 0x00] :=
      Skb.rd_wr _ 12 [0x81, 0x00]
    have hvlan := Skb.rd_wr ((moveDown (b.push 4)).wr 12 [0x81, 0x00]) 14 vlanHdr
    rw [hhdr] at hvlan
    rw [hvlan, Skb.rd_wr_of_disjoint (by omega), htag]
  · rw [restoreTag, Skb.get_wr_of_ne (by rw [hhdr]; omega), Skb.get_wr_of_ne (by simp; omega),
      moveDown_get, if_neg (by omega), hpush]

/-- The bytes of a VLAN tag. -/
lemma isVlanTag.rd_eq (h : isVlanTag b) : b.rd 12 2 = [0x81, 0x00] := by
  have hbe : 256 * (b.get 12).toNat + (b.get 13).toNat = 0x8100 := h
  have h12 := (b.get 12).toNat_lt
  have h13 := (b.get 13).toNat_lt
  have hhi : b.get 12 = 0x81 := UInt8.toNat_inj.1 (show (b.get 12).toNat = 0x81 by omega)
  have hlo : b.get 13 = 0x00 := UInt8.toNat_inj.1 (show (b.get 13).toNat = 0x00 by omega)
  rw [Skb.rd_pair, hhi, hlo]

lemma Skb.get_of_rd {c : Skb} (h : b.rd i n = c.rd i n) (hj : i ≤ j) (hjn : j < i + n) :
    b.get j = c.get j := by
  have hget := congrArg (fun l : List UInt8 => l[j - i]?) h
  simp only [Skb.rd, readBytes, List.getElem?_map] at hget
  rw [List.getElem?_range (by omega)] at hget
  simpa [Skb.get, show b.data + i + (j - i) = b.data + j by omega,
    show c.data + i + (j - i) = c.data + j by omega] using hget

/-- Taking the tag out and putting it back. -/
lemma restoreTag_stripTag (htag : isVlanTag b) (h : 4 ≤ b.len) :
    let c := restoreTag (b.rd 14 2) (stripTag b)
    c.len = b.len ∧ c.data = b.data ∧ ∀ i, c.get i = b.get i := by
  obtain ⟨hdata, hlen, hget⟩ := stripTag_spec h
  obtain ⟨hlen', hdata', haddrs, hmid, hrest⟩ :=
    restoreTag_spec (b.rd 14 2) (stripTag b) length_readBytes (by omega)
  refine ⟨by omega, by omega, fun i => ?_⟩
  by_cases hi : i < 12
  · rw [haddrs i hi, hget, if_pos hi]
  by_cases hi' : i < 16
  · refine Skb.get_of_rd (i := 12) (n := 4) ?_ (by omega) (by omega)
    rw [hmid, Skb.rd_add _ 12 2 2, htag.rd_eq]
  · have hsub : i - 4 + 4 = i := by omega
    rw [← hsub, hrest (i - 4) (by omega), hget, if_neg (by omega)]

lemma EthFrame.untagged {c : Skb} (h : EthFrame b) (hlen : c.len = b.len)
    (hget : ∀ i < b.len, c.get i = b.get i) :
    Untagged b (untagged b c) ∧ (BrExt.untagged b c).data = c.data + vlanLen b := by
  rw [BrExt.untagged, vlanLen]
  by_cases htag : isVlanTag b
  · have h18 := h.2 htag
    obtain ⟨hdata', hlen', hget'⟩ := stripTag_spec (b := c) (by omega)
    have hv : vlanLen b = 4 := if_pos htag
    rw [if_pos htag, if_pos htag]
    refine ⟨⟨by omega, fun i hi => ?_, fun i hi hi' => ?_⟩, hdata'⟩
    · rw [hget', if_pos hi, hget i (by omega)]
    · rw [hget', if_neg (by omega), hget _ (by omega), hv]
  · have hv : vlanLen b = 0 := if_neg htag
    have h14 := h.1
    rw [if_neg htag, if_neg htag]
    refine ⟨⟨by omega, fun i hi => hget i (by omega), fun i hi hi' => ?_⟩, rfl⟩
    rw [hv, hget i (by omega), Nat.add_zero]

/-- The frame that is edited is the one that came in. -/
lemma EthFrame.editFrame (h : EthFrame b) {vlanHdr : List UInt8}
    (hedit : editFrame e p b = some (u, vlanHdr)) :
    Untagged b u ∧ u.data = b.data + vlanLen b ∧ (isVlanTag b → vlanHdr = b.rd 14 2) := by
  rw [BrExt.editFrame] at hedit
  split at hedit
  swap
  · obtain ⟨rfl, rfl⟩ := Prod.mk.inj (Option.some.inj hedit)
    obtain ⟨hu, hdata⟩ := h.untagged rfl fun _ _ => rfl
    exact ⟨hu, hdata, fun _ => rfl⟩
  split at hedit
  swap
  · simp at hedit
  obtain ⟨rfl, rfl⟩ := Prod.mk.inj (Option.some.inj hedit)
  set c := retagged b (b.rd 14 2) (BrExt.untagged b b) with hc
  have hsame : c.len = b.len ∧ c.data = b.data ∧ ∀ i, c.get i = b.get i := by
    rw [hc, retagged, BrExt.untagged]
    by_cases htag : isVlanTag b
    · rw [if_pos htag, if_pos htag]
      exact restoreTag_stripTag htag (by have := h.2 htag; omega)
    · rw [if_neg htag, if_neg htag]
      exact ⟨rfl, rfl, fun _ => rfl⟩
  obtain ⟨hlen, hdata, hget⟩ := hsame
  have hcopy : ∀ i < b.len, (skbCopy e c).get i = b.get i := by
    intro i hi
    rw [← hget i]
    have hrd : (skbCopy e c).rd 0 c.len = c.rd 0 c.len := by
      have hwrite := readBytes_write e.copyMem c.data c.bytes
      rw [Skb.bytes, Skb.rd, length_readBytes] at hwrite
      exact hwrite
    exact Skb.get_of_rd hrd (by omega) (by omega)
  obtain ⟨hu, hdata'⟩ := h.untagged (c := skbCopy e c) hlen hcopy
  refine ⟨hu, ?_, fun htag => ?_⟩
  · rw [hdata']
    exact congrArg (· + vlanLen b) hdata
  · have h18 := h.2 htag
    rw [Skb.rd_pair, Skb.rd_pair, hcopy 14 (by omega), hcopy 15 (by omega)]

/-! ### The insertion -/

lemma insertRelayTag_priv (e : Env) (p : Priv) (b : Skb) (acc : List Access) :
    (insertRelayTag e p b acc).priv = p := by
  rw [insertRelayTag]
  rcases (takeOldTag b e.stack (nat25FindPppoeTag b pttRelaySid).1).1 with _ | ⟨b', tagBuf, old⟩
  · rfl
  · simp only
    split <;> rfl

lemma updateNd_priv (e : Env) (p : Priv) (b : Skb) (acc : List Access) :
    (updateNd e p b acc).priv = p := by
  rw [updateNd]
  split <;> rfl

lemma hwaddr_handleIp (e : Env) (p : Priv) (b : Skb) :
    (handleIp e p b .insert).priv.hwaddr = p.hwaddr := by
  rw [handleIp]
  split_ifs
  · rfl
  · rfl
  · exact hwaddr_nat25DbNetworkInsert _ _

lemma hwaddr_handleArp (e : Env) (p : Priv) (b : Skb) :
    (handleArp e p b .insert).priv.hwaddr = p.hwaddr := by
  rw [handleArp]
  split_ifs
  · rfl
  · exact hwaddr_nat25DbNetworkInsert _ _

lemma hwaddr_handlePppoe (e : Env) (p : Priv) (b : Skb) :
    (handlePppoe e p b .insert).priv.hwaddr = p.hwaddr := by
  rw [handlePppoe]
  split_ifs
  · rw [insertRelayTag_priv]
  · rw [insertUntagged]
    split_ifs <;> rfl
  · rfl
  · rw [insertSession]
    simp only
    split_ifs <;> exact hwaddr_nat25DbNetworkInsert _ _

lemma hwaddr_handleIpv6 (e : Env) (p : Priv) (b : Skb) :
    (handleIpv6 e p b .insert).priv.hwaddr = p.hwaddr := by
  rw [handleIpv6]
  split_ifs
  · rfl
  · rfl
  · rw [updateNd_priv]
    exact hwaddr_nat25DbNetworkInsert _ _
  · exact hwaddr_nat25DbNetworkInsert _ _

@[simp] lemma hwaddr_insert (e : Env) (p : Priv) (b : Skb) :
    (nat25DbHandle e p b .insert).priv.hwaddr = p.hwaddr := by
  rw [nat25DbHandle]
  by_cases hip : b.be 12 = 0x0800
  · rw [if_pos hip, hwaddr_handleIp]
  by_cases harp : b.be 12 = 0x0806
  · rw [if_neg hip, if_pos harp, hwaddr_handleArp]
  by_cases hppp : b.be 12 = 0x8863 ∨ b.be 12 = 0x8864
  · rw [if_neg hip, if_neg harp, if_pos hppp, hwaddr_handlePppoe]
  by_cases heap : b.be 12 = 0x888e
  · rw [if_neg hip, if_neg harp, if_neg hppp, if_pos heap]
    rfl
  by_cases hown : b.be 12 = 0xe2ae ∨ b.be 12 = 0xe2af
  · rw [if_neg hip, if_neg harp, if_neg hppp, if_neg heap, if_pos hown]
    rfl
  by_cases hip6 : b.be 12 = 0x86dd
  · rw [if_neg hip, if_neg harp, if_neg hppp, if_neg heap, if_neg hown, if_pos hip6,
      hwaddr_handleIpv6]
  · rw [if_neg hip, if_neg harp, if_neg hppp, if_neg heap, if_neg hown, if_neg hip6]

/-- The frame is as it was, but for hardware addresses. -/
structure HwEdited (u b' : Skb) : Prop where
  data : b'.data = u.data
  len : b'.len = u.len
  get : ∀ i, ¬ HwEdit u i → b'.get i = u.get i

lemma HwEdited.refl (u : Skb) : HwEdited u u := ⟨rfl, rfl, fun _ _ => rfl⟩

/-- A Neighbour Discovery message. -/
lemma hwEdited_ndDone {o : ℕ} (h12 : u.be 12 = 0x86dd) (ho : NdEdited u o) (p : Priv) :
    HwEdited u (ndDone p u o) := by
  refine ⟨rfl, rfl, fun i hi => ?_⟩
  rw [HwEdit, not_or] at hi
  have hno : ¬ ((o + 2 ≤ u.data + i ∧ u.data + i < o + 8) ∨ 56 ≤ i ∧ i < 58) :=
    fun h => hi.2 ⟨h12, o, ho, h⟩
  rw [not_or] at hno
  rw [ndDone, Skb.get_wr_of_ne (by rw [length_leBytes16]; omega), ndEdit,
    Skb.get_wr_of_ne (by simp only [List.length_cons, List.length_nil]; omega)]
  have hlen : p.hwaddr.toList.length = 6 := by simp
  by_cases hlt : u.data + i < o + 2
  · exact write_of_lt hlt
  · exact write_of_le (show o + 2 + p.hwaddr.toList.length ≤ u.data + i by omega)

/-- What the insertion of an accepted frame does. -/
lemma Accepted.insert (h : Accepted p u) (e : Env) :
    (nat25DbHandle e p u .insert).ret = none ∨ (nat25DbHandle e p u .insert).ret = some (-2) ∨
      ((nat25DbHandle e p u .insert).ret = some 0 ∧
        HwEdited u (nat25DbHandle e p u .insert).skb) := by
  rcases h with ⟨h12, hihl⟩ | ⟨h12, hpro⟩ | ⟨h12, hsid⟩ | ⟨⟨h12, hsid, hcode⟩, htag⟩ | hown |
    ⟨h12, hlen⟩
  · have hhandle : nat25DbHandle e p u .insert = handleIp e p u .insert := by
      simp [nat25DbHandle, h12]
    rw [hhandle, handleIp]
    simp only [if_neg (Nat.not_le.2 hihl)]
    split <;> exact .inr (.inr ⟨rfl, .refl u⟩)
  · have hhandle : nat25DbHandle e p u .insert = handleArp e p u .insert := by
      simp [nat25DbHandle, h12]
    rw [hhandle, handleArp]
    simp only [hpro, ne_eq, not_true_eq_false, if_false]
    refine .inr (.inr ⟨trivial, rfl, rfl, fun i hi => ?_⟩)
    have hno : ¬ (22 ≤ i ∧ i < 28) := fun h => hi (.inl ⟨h12, h⟩)
    exact Skb.get_wr_of_ne (by
      have hlen : p.hwaddr.toList.length = 6 := by simp
      omega)
  · have hhandle : nat25DbHandle e p u .insert = handlePppoe e p u .insert := by
      rcases h12 with h12 | h12 <;> simp [nat25DbHandle, h12]
    rw [hhandle, handlePppoe]
    simp only [if_neg hsid]
    exact .inr (.inr ⟨rfl, .refl u⟩)
  · have hhandle : nat25DbHandle e p u .insert = handlePppoe e p u .insert := by
      rcases h12 with h12 | h12 <;> simp [nat25DbHandle, h12]
    rw [hhandle, handlePppoe]
    simp only [if_pos hsid, if_pos hcode, htag, Bool.false_eq_true, if_false]
    rw [insertUntagged]
    simp only
    split
    · exact .inr (.inl rfl)
    · exact .inr (.inr ⟨rfl, .refl u⟩)
  · have hhandle : nat25DbHandle e p u .insert = handleOwn p u .insert := by
      rcases hown with h12 | h12 | h12 <;> simp [nat25DbHandle, h12]
    rw [hhandle]
    exact .inr (.inr ⟨rfl, .refl u⟩)
  · rcases hret : (nat25DbHandle e p u .insert).ret with _ | ret
    · exact .inl rfl
    have hzero : ret = 0 := by
      have hhandle : nat25DbHandle e p u .insert = handleIpv6 e p u .insert := by
        simp [nat25DbHandle, h12]
      rw [hhandle, handleIpv6, if_neg (by omega)] at hret
      simp only at hret
      split at hret
      · exact (Option.some.inj hret).symm
      split at hret
      · rw [updateNd] at hret
        simp only at hret
        split at hret
        · simp at hret
        · exact (Option.some.inj hret).symm
        · exact (Option.some.inj hret).symm
      · exact (Option.some.inj hret).symm
    subst hzero
    refine .inr (.inr ⟨rfl, ?_⟩)
    rcases nat25DbHandle_insert_ipv6 h12 hret with ⟨hskb, -⟩ | ⟨o, ho, hskb⟩
    · rw [hskb]
      exact .refl u
    · rw [hskb]
      exact hwEdited_ndDone h12 ho p

lemma nat25AddPppoeTag_eq {tag : Mem} (hlen : (tag 2).toNat + 256 * (tag 3).toNat + 4 = n) :
    (b.tailroom < n ∧ (nat25AddPppoeTag b tag).1 = none) ∨
      ∃ b', n ≤ b.tailroom ∧ (nat25AddPppoeTag b tag).1 = some b' ∧ b'.data = b.data ∧
        b'.len = b.len + n := by
  rw [nat25AddPppoeTag, hlen]
  by_cases hroom : b.tailroom < n
  · exact .inl ⟨hroom, by rw [if_pos hroom]⟩
  · simp only [if_neg hroom]
    exact .inr ⟨_, Nat.not_lt.1 hroom, rfl, rfl, rfl⟩

/-- What becomes of the frame where a relay tag is to be inserted. -/
lemma insertRelayTag_spec (e : Env) (p : Priv) (u : Skb) (acc : List Access) :
    let r := insertRelayTag e p u acc
    (r.ret = some (-1) ∧ r.skb = u ∧ RelayStays u) ∨
      (¬ RelayStays u ∧ r.skb.data = u.data ∧
        ((r.ret = some (-1) ∧ r.skb.len < u.len) ∨
          (r.ret = some 0 ∧ u.len + 12 < r.skb.len))) := by
  rw [RelayStays, insertRelayTag]
  rcases hfind : (nat25FindPppoeTag u pttRelaySid).1 with _ | t
  · simp only [takeOldTag]
    rcases nat25AddPppoeTag_eq (b := u) (fillTag_len e.stack (u.rd 6 6) 0) with
      ⟨hroom, hadd⟩ | ⟨b', hroom, hadd, hdata, hlen⟩
    · rw [hadd]
      exact .inl ⟨rfl, rfl, hroom⟩
    · rw [hadd]
      refine .inr ⟨Nat.not_lt.2 hroom, hdata, .inr ⟨rfl, ?_⟩⟩
      have hswap : swappedLen 0 = 2052 := rfl
      show u.len + 12 < b'.len
      omega
  simp only [takeOldTag]
  by_cases hlong : 40 < u.be (t + 2) + 4 + 2 + 6
  · simp only [if_pos hlong]
    exact .inl ⟨trivial, trivial, .inl (by omega)⟩
  simp only [if_neg hlong]
  rcases hpull : skbPullAndMerge u t (4 + u.be (t + 2)) with _ | b₁
  · have hno : ¬ t + (4 + u.be (t + 2)) ≤ u.len := by
      rw [← skbPullAndMerge_eq_some_iff, hpull]
      simp
    exact .inl ⟨rfl, rfl, .inr (by omega)⟩
  have hin := skbPullAndMerge_eq_some_iff.1 ⟨b₁, hpull⟩
  have hno : ¬ (28 < u.be (t + 2) ∨ u.len < t + (4 + u.be (t + 2))) := by omega
  have hdata₁ : b₁.data = u.data := by
    rw [skbPullAndMerge, if_neg (by omega)] at hpull
    rw [← Option.some.inj hpull]
  have hlen₁ := (skbPullAndMerge_len hpull).1
  set b₂ := b₁.wr 18 (beBytes ((b₁.be 18 + (65536 - 4) + (65536 - u.be (t + 2))) % 65536)) with hb₂
  have hlen₂ : b₂.len = u.len - (4 + u.be (t + 2)) := hlen₁
  simp only
  rcases nat25AddPppoeTag_eq (b := b₂) (fillTag_len
      (write e.stack 12 (u.rd (t + 4) (u.be (t + 2)))) (b₂.rd 6 6) (u.be (t + 2))) with
    ⟨-, hadd⟩ | ⟨b', -, hadd, hdata, hlen⟩
  · rw [hadd]
    refine .inr ⟨hno, hdata₁, .inl ⟨rfl, ?_⟩⟩
    show b₂.len < u.len
    omega
  · rw [hadd]
    refine .inr ⟨hno, hdata.trans hdata₁, .inr ⟨rfl, ?_⟩⟩
    show u.len + 12 < b'.len
    rw [swappedLen] at hlen
    omega

/-- What the insertion of another frame does. -/
lemma insert_of_not_accepted (h : ¬ Accepted p u) (e : Env) :
    let r := nat25DbHandle e p u .insert
    (r.ret = some (-1) ∧ r.skb = u ∧ (IsPadx u → RelayStays u)) ∨
      (IsPadx u ∧ ¬ RelayStays u ∧ r.skb.data = u.data ∧
        ((r.ret = some (-1) ∧ r.skb.len < u.len) ∨
          (r.ret = some 0 ∧ u.len + 12 < r.skb.len))) := by
  simp only [Accepted, not_or, not_and] at h
  obtain ⟨hip, harp, hses, hpadx, ⟨heap, hown, hown'⟩, hip6⟩ := h
  by_cases h12 : u.be 12 = 0x8863 ∨ u.be 12 = 0x8864
  · have hhandle : nat25DbHandle e p u .insert = handlePppoe e p u .insert := by
      rcases h12 with h12 | h12 <;> simp [nat25DbHandle, h12]
    have hsid : u.be 16 = 0 := not_not.1 (hses h12)
    rw [hhandle, handlePppoe]
    simp only [if_pos hsid]
    by_cases hcode : u.get 15 = 0x09 ∨ u.get 15 = 0x19
    · have hpx : IsPadx u := ⟨h12, hsid, hcode⟩
      have htag : p.addPppoeTag = true := by simpa using hpadx hpx
      simp only [if_pos hcode, htag, if_true]
      rcases insertRelayTag_spec e p u [u.acc 16 2, u.acc 15 1] with ⟨hret, hskb, hstays⟩ | hrest
      · exact .inl ⟨hret, hskb, fun _ => hstays⟩
      · exact .inr ⟨hpx, hrest⟩
    · rw [if_neg hcode]
      exact .inl ⟨rfl, rfl, fun hpx => absurd hpx.2.2 hcode⟩
  have hdeclined : ∃ acc, nat25DbHandle e p u .insert = ⟨p, u, some (-1), acc⟩ := by
    rw [nat25DbHandle, if_neg h12, if_neg heap, if_neg (not_or.2 ⟨hown, hown'⟩)]
    by_cases h4 : u.be 12 = 0x0800
    · have hihl : u.len ≤ 4 * (u.get 14 &&& 0x0f).toNat := Nat.not_lt.1 (hip h4)
      exact ⟨_, by rw [if_pos h4, handleIp, if_pos hihl]⟩
    by_cases ha : u.be 12 = 0x0806
    · have hpro : u.be 16 ≠ 0x0800 := harp ha
      exact ⟨_, by rw [if_neg h4, if_pos ha, handleArp, if_pos hpro]⟩
    by_cases h6 : u.be 12 = 0x86dd
    · have hshort := Nat.not_lt.1 (hip6 h6)
      exact ⟨_, by rw [if_neg h4, if_neg ha, if_pos h6, handleIpv6, if_pos hshort]⟩
    · exact ⟨_, by rw [if_neg h4, if_neg ha, if_neg h6]⟩
  obtain ⟨acc, hr⟩ := hdeclined
  rw [hr]
  exact .inl ⟨rfl, rfl, fun hpx => absurd hpx.1 h12⟩

/-! ### The way out -/

lemma Skb.mac_wr (b : Skb) (i : ℕ) (a : MacAddr) : (b.wr i a.toList).mac i = a := by
  have hlen : a.toList.length = 6 := by simp
  refine Vector.ext fun k hk => ?_
  have hget : (b.wr i a.toList).get (i + k) = a.toList.getD k 0 := by
    show write b.mem (b.data + i) a.toList (b.data + (i + k)) = _
    rw [write_of_mem (by omega) (by omega), show b.data + (i + k) - (b.data + i) = k by omega]
  simp [Skb.mac, hget, hk]

lemma Skb.mac_congr {c : Skb} (h : ∀ k, i ≤ k → k < i + 6 → c.get k = b.get k) :
    c.mac i = b.mac i := by
  refine Vector.ext fun k hk => ?_
  simpa [Skb.mac] using h (i + k) (by omega) (by omega)

lemma dhcpFlagBcast_eq (p : Priv) (b : Skb) :
    (dhcpFlagBcast p b).data = b.data ∧ (dhcpFlagBcast p b).len = b.len := by
  rw [dhcpFlagBcast]
  split <;> exact ⟨rfl, rfl⟩

lemma dhcpFlagBcast_get (h : ¬ DhcpEdit b i) : (dhcpFlagBcast p b).get i = b.get i := by
  rw [dhcpFlagBcast]
  split
  · rename_i hm
    have hno : ¬ (i = udphOff b + 6 ∨ i = udphOff b + 7 ∨ i = udphOff b + 18) :=
      fun hi => h ⟨hm.2, hi⟩
    simp only
    rw [Skb.get_wr_of_ne (by rw [length_leBytes16]; omega), Skb.get_wr_pair]
    rw [if_neg (by omega)]
    by_cases hi : i = udphOff b + 18 + 1
    · rw [if_pos hi, hi]
    · rw [if_neg hi]
  · rfl

lemma DhcpEdit.le (h : DhcpEdit b i) : 20 ≤ i := by
  have hoff : 14 ≤ udphOff b := Nat.le_add_right 14 _
  rcases h.2 with hi | hi | hi <;> omega

lemma HwEdit.le (h : HwEdit u i) : 22 ≤ i := by
  rcases h with ⟨-, hi, -⟩ | ⟨-, o, ho, hi | hi⟩
  · exact hi
  · have := ho.2.2.2.2.le_off
    omega
  · omega

/-- Whether a frame is a DHCP request does not depend on its addresses. -/
lemma DhcpEdit.congr {c : Skb} (hget : ∀ i, 12 ≤ i → c.get i = u.get i) (h : DhcpEdit c i) :
    DhcpEdit u i := by
  have hbe {j : ℕ} (hj : 12 ≤ j) : c.be j = u.be j := by
    show 256 * (c.get j).toNat + (c.get (j + 1)).toNat = _
    rw [hget j hj, hget (j + 1) (by omega)]
    rfl
  have hoff : udphOff c = udphOff u := by rw [udphOff, hget 14 (by omega), udphOff]
  have hle : 14 ≤ udphOff u := Nat.le_add_right 14 _
  have hrd : c.rd (udphOff u + 244) 4 = u.rd (udphOff u + 244) 4 := by
    rw [Skb.rd_add _ _ 2 2, Skb.rd_add _ _ 2 2, Skb.rd_pair, Skb.rd_pair, Skb.rd_pair, Skb.rd_pair,
      hget _ (by omega), hget _ (by omega), hget _ (by omega), hget _ (by omega)]
  obtain ⟨⟨h12, h23, hsrc, hdst, hmagic, hflag⟩, hi⟩ := h
  rw [hoff] at hsrc hdst hmagic hflag hi
  rw [hbe (by omega)] at h12 hsrc hdst
  rw [hget _ (by omega)] at h23 hflag
  rw [hrd] at hmagic
  exact ⟨⟨h12, h23, hsrc, hdst, hmagic, hflag⟩, hi⟩

/-- The frame that goes out, without its tag. -/
def edited (p : Priv) (b' : Skb) : Skb := dhcpFlagBcast p (b'.wr 6 p.hwaddr.toList)

lemma edited_eq (p : Priv) (b' : Skb) :
    (edited p b').data = b'.data ∧ (edited p b').len = b'.len := dhcpFlagBcast_eq p _

lemma edited_mac (p : Priv) (b' : Skb) : (edited p b').mac 6 = p.hwaddr := by
  rw [← Skb.mac_wr b' 6 p.hwaddr]
  exact Skb.mac_congr fun k _ hk => dhcpFlagBcast_get fun h => absurd h.le (by omega)

lemma HwEdited.edited_get (h : HwEdited u b') (p : Priv) (hi : i < 6 ∨ 12 ≤ i)
    (hno : ¬ (HwEdit u i ∨ DhcpEdit u i)) : (edited p b').get i = u.get i := by
  rw [not_or] at hno
  have hlen : p.hwaddr.toList.length = 6 := by simp
  have hwr {j : ℕ} (hj : j < 6 ∨ 12 ≤ j) : (b'.wr 6 p.hwaddr.toList).get j = b'.get j :=
    Skb.get_wr_of_ne (by omega)
  have hdhcp : ¬ DhcpEdit (b'.wr 6 p.hwaddr.toList) i := by
    intro hd
    -- an IPv4 frame has no hardware address edited
    have h12 : u.be 12 = 0x0800 := by
      have hbe : (b'.wr 6 p.hwaddr.toList).be 12 = u.be 12 := by
        show 256 * (Skb.get _ 12).toNat + (Skb.get _ 13).toNat = _
        rw [hwr (by omega), hwr (by omega), h.get 12 fun hw => absurd hw.le (by omega),
          h.get 13 fun hw => absurd hw.le (by omega)]
        rfl
      rw [← hbe]
      exact hd.1.1
    refine hno.2 (hd.congr fun j hj => ?_)
    rw [hwr (.inr hj), h.get j]
    rintro (⟨harp, -⟩ | ⟨hip6, -⟩)
    · omega
    · omega
  rw [edited, dhcpFlagBcast_get hdhcp, hwr hi, h.get i hno.1]

lemma checkSource_of_eq (h : b.mac 6 = p.hwaddr) : checkSource p b = ⟨p, b, some 0⟩ :=
  if_neg (not_not.2 h)

/-- The frame that has been edited goes out with the address of the adapter. -/
lemma sendEdited_eq (p : Priv) (b b' : Skb) (vlanHdr : List UInt8)
    (hdata : vlanLen b ≤ b'.data)
    (hhdr : isVlanTag b → vlanHdr.length = 2) :
    sendEdited p b vlanHdr b' = ⟨p, retagged b vlanHdr (edited p b'), some 0⟩ ∧
      (retagged b vlanHdr (edited p b')).mac 6 = p.hwaddr ∧
      (retagged b vlanHdr (edited p b')).len = b'.len + vlanLen b := by
  have hmac : (retagged b vlanHdr (edited p b')).mac 6 = p.hwaddr ∧
      (retagged b vlanHdr (edited p b')).len = b'.len + vlanLen b := by
    rw [retagged, vlanLen]
    by_cases htag : isVlanTag b
    · have hv : vlanLen b = 4 := if_pos htag
      rw [if_pos htag, if_pos htag]
      obtain ⟨hlen, -, haddrs, -, -⟩ := restoreTag_spec vlanHdr (edited p b') (hhdr htag)
        (by rw [(edited_eq p b').1]; omega)
      rw [hlen, (edited_eq p b').2, ← edited_mac p b']
      exact ⟨Skb.mac_congr fun k _ hk => haddrs k (by omega), rfl⟩
    · rw [if_neg htag, if_neg htag]
      exact ⟨edited_mac p b', (edited_eq p b').2⟩
  exact ⟨checkSource_of_eq hmac.1, hmac⟩

lemma sendEdited_kept {vlanHdr : List UInt8} (hb : EthFrame b) (hu : Untagged b u)
    (hdata : u.data = b.data + vlanLen b) (hhdr : isVlanTag b → vlanHdr = b.rd 14 2)
    (h : HwEdited u b') : FrameKept p.hwaddr b u (sendEdited p b vlanHdr b').skb := by
  have hhdr' : isVlanTag b → vlanHdr.length = 2 := fun htag => by
    rw [hhdr htag]
    exact length_readBytes
  obtain ⟨hsend, hmac, hlen⟩ := sendEdited_eq p b b' vlanHdr
    (by rw [h.data]; omega) hhdr'
  rw [hsend]
  have h14 := hb.1
  have hulen := hu.len
  have hget {i : ℕ} := h.edited_get p (i := i)
  rw [h.len, hulen] at hlen
  by_cases htag : isVlanTag b
  · have hv : vlanLen b = 4 := if_pos htag
    have h18 := hb.2 htag
    have hret : retagged b vlanHdr (edited p b') = restoreTag vlanHdr (edited p b') := if_pos htag
    obtain ⟨-, -, haddrs, hmid, hrest⟩ := restoreTag_spec vlanHdr (edited p b') (hhdr' htag)
      (by rw [(edited_eq p b').1, h.data]; omega)
    rw [hret] at hmac hlen ⊢
    refine ⟨hmac, fun i hi => ?_, fun i hi hi' => ?_, .inl ⟨hlen, fun i hi hi' hno => ?_⟩⟩
    · rw [haddrs i (by omega), hget (.inl hi) ?_, hu.addrs i (by omega)]
      rintro (hw | hd)
      · exact absurd hw.le (by omega)
      · exact absurd hd.le (by omega)
    · refine Skb.get_of_rd (i := 12) (n := 4) ?_ hi (by omega)
      rw [hmid, Skb.rd_add _ 12 2 2, htag.rd_eq, hhdr htag]
    · have hsub : i - 4 + 4 = i := by omega
      rw [hv] at hno
      have hgo := hrest (i - 4) (by omega)
      rw [hsub] at hgo
      rw [hgo, hget (.inr (by omega)) hno, hu.rest (i - 4) (by omega) (by omega), hv, hsub]
  · have hv : vlanLen b = 0 := if_neg htag
    have hret : retagged b vlanHdr (edited p b') = edited p b' := if_neg htag
    rw [hret] at hmac hlen ⊢
    refine ⟨hmac, fun i hi => ?_, fun i hi hi' => absurd hi' (by omega),
      .inl ⟨hlen, fun i hi hi' hno => ?_⟩⟩
    · rw [hget (.inl hi) ?_, hu.addrs i (by omega)]
      rintro (hw | hd)
      · exact absurd hw.le (by omega)
      · exact absurd hd.le (by omega)
    · rw [hv, Nat.sub_zero] at hno
      rw [hget (.inr (by omega)) hno, hu.rest i (by omega) (by omega), hv, Nat.add_zero]

/-! ### The result -/

lemma learn_eq (p : Priv) (b : Skb) :
    (learn p b).1.hwaddr = p.hwaddr ∧ (learn p b).1.addPppoeTag = p.addPppoeTag := by
  have hbr : (learnBrIp p b).hwaddr = p.hwaddr ∧
      (learnBrIp p b).addPppoeTag = p.addPppoeTag := by
    rw [learnBrIp]
    split_ifs <;> exact ⟨rfl, rfl⟩
  rw [learn, ← hbr.1, ← hbr.2]
  rcases scdbFindEntry (learnBrIp p b) (b.rd 26 4) with _ | entry
  all_goals split_ifs <;> exact ⟨rfl, rfl⟩

lemma Accepted.congr {p' : Priv} (h : p'.addPppoeTag = p.addPppoeTag) :
    Accepted p' u ↔ Accepted p u := by
  rw [Accepted, Accepted, h]

/-- How long a frame may be that has kept what it should keep. -/
lemma FrameKept.len_eq {hwaddr : MacAddr} (h : FrameKept hwaddr b u b') (hu : Untagged b u) :
    b'.len = b.len ∨ b'.len = b.len + 8 ∨ b'.len = b.len + 12 := by
  have hulen := hu.len
  rcases h.rest with ⟨hlen, -⟩ | ⟨-, hedit⟩
  · exact .inl hlen
  rw [RelayEdit] at hedit
  split at hedit
  · obtain ⟨h20, hl⟩ := hedit
    have hlen := congrArg List.length hl
    simp only [Skb.rd, length_readBytes, List.length_append, length_beBytes] at hlen
    omega
  · obtain ⟨ht, hin, hl⟩ := hedit
    have hlen := congrArg List.length hl
    simp only [Skb.rd, length_readBytes, List.length_append, length_beBytes] at hlen
    omega

/-- A frame that is let go as it came in, without its tag. -/
lemma letGo_iff {hwaddr : MacAddr} (hb : EthFrame b) (hu : Untagged b u) :
    (∃ u', Untagged b u' ∧ FrameKept hwaddr b u' u) ↔ ¬ isVlanTag b ∧ b.mac 6 = hwaddr := by
  have h14 := hb.1
  have hulen := hu.len
  constructor
  · rintro ⟨u', hu', hkept⟩
    have hlen := hkept.len_eq hu'
    have hv : vlanLen b = 0 := by omega
    have htag : ¬ isVlanTag b := by
      intro htag
      have hv4 : vlanLen b = 4 := if_pos htag
      omega
    refine ⟨htag, ?_⟩
    rw [← hkept.source]
    exact Skb.mac_congr fun k _ hk => (hu.addrs k (by omega)).symm
  · rintro ⟨htag, hmac⟩
    have hv : vlanLen b = 0 := if_neg htag
    refine ⟨u, hu, ⟨?_, fun i hi => hu.addrs i (by omega), fun i hi hi' => absurd hi' (by omega),
      .inl ⟨by omega, fun i hi hi' _ => ?_⟩⟩⟩
    · rw [← hmac]
      exact Skb.mac_congr fun k _ hk => hu.addrs k (by omega)
    · rw [hu.rest i (by omega) (by omega), hv, Nat.add_zero]

/-- The cached client: the frame has its source address replaced and nothing else. -/
lemma FastPath.kept (h : FastPath e p b) (hb : EthFrame b) : ClientKept e p b := by
  have htag : ¬ isVlanTag b := h.2.2.2.1
  have hv : vlanLen b = 0 := if_neg htag
  have hmac := Skb.mac_wr b 6 p.hwaddr
  have hlen : p.hwaddr.toList.length = 6 := by simp
  have hwr {j : ℕ} (hj : j < 6 ∨ 12 ≤ j) : (b.wr 6 p.hwaddr.toList).get j = b.get j :=
    Skb.get_wr_of_ne (by omega)
  intro _
  rw [rtwBrClientTx, if_pos h, checkSource_of_eq hmac]
  have hu := (hb.untagged rfl fun _ _ => rfl).1
  rw [BrExt.untagged, if_neg htag] at hu
  exact ⟨b, hu, hmac, fun i hi => hwr (.inl hi), fun i hi _ => hwr (.inr hi),
    .inl ⟨rfl, fun i hi _ _ => hwr (.inr (by omega))⟩⟩

/-- A frame that 0 is returned for has kept what it should keep, exactly if it is cached, cannot be
sent, is accepted, or is let go as it should be. -/
theorem clientKept_iff (e : TxEnv) (p : Priv) (b : Skb) (hb : EthFrame b) :
    ClientKept e p b ↔ ClientOk e p b := by
  by_cases hfast : FastPath e p b
  · exact iff_of_true (hfast.kept hb) (.inl hfast)
  rw [ClientKept, ClientOk, or_iff_right hfast, rtwBrClientTx, if_neg hfast]
  obtain ⟨hhw, htagged⟩ := learn_eq p (BrExt.untagged b b)
  set learnt := learn p (BrExt.untagged b b) with hlearnt
  simp only
  by_cases hcached : learnt.2 = false
  · refine iff_of_true (fun _ => ?_) (.inl hcached)
    obtain ⟨hu, hdata⟩ := hb.untagged rfl fun _ _ => rfl
    rw [if_pos hcached, ← hhw]
    exact ⟨_, hu, sendEdited_kept hb hu hdata (fun _ => rfl) (.refl _)⟩
  rw [if_neg hcached, or_iff_right hcached]
  rcases hedit : editFrame e learnt.1 b with _ | ⟨u, vlanHdr⟩
  · exact iff_of_true (fun hret => by simp at hret) (.inr fun r hr => by simp at hr)
  obtain ⟨hu, hdata, hhdr⟩ := hb.editFrame hedit
  simp only [Option.mem_def, Option.some.injEq, forall_eq']
  by_cases hlin : e.linearizeOk = false
  · refine iff_of_true (fun hret => ?_) (.inl hlin)
    rw [if_pos hlin] at hret
    simp at hret
  rw [if_neg hlin, or_iff_right hlin]
  have hhw' := hwaddr_insert e.toEnv learnt.1 u
  by_cases hacc : Accepted p u
  · refine iff_of_true ?_ (.inl hacc)
    rcases ((Accepted.congr htagged).2 hacc).insert e.toEnv with hret | hret | ⟨hret, hedited⟩
    · rw [hret]
      simp
    · rw [hret]
      simp
    · rw [hret]
      simp only [lt_irrefl, if_false]
      intro _
      have hkept := sendEdited_kept (p := (nat25DbHandle e.toEnv learnt.1 u .insert).priv) hb hu
        hdata hhdr hedited
      rw [hhw', hhw] at hkept
      exact ⟨u, hu, hkept⟩
  rw [or_iff_right hacc]
  have hulen := hu.len
  have hneg : ((-1 : ℤ) < 0) := by decide
  have hother : ¬ ((-1 : ℤ) = -2) := by decide
  have hinsert := insert_of_not_accepted (fun h => hacc ((Accepted.congr htagged).1 h)) e.toEnv
  rcases hinsert with ⟨hret, hskb, hstays⟩ | ⟨hpx, hno, hdata', hrest⟩
  · rw [hret, hskb]
    simp only [hneg, hother, if_true, if_false, true_imp_iff]
    rw [letGo_iff hb hu]
    exact and_congr_right fun _ => (and_iff_left hstays).symm
  refine iff_of_false ?_ fun h => hno (h.2.2 hpx)
  have hlength {c : Skb} (hc : c.len < b.len ∨ b.len + 12 < c.len) :
      ¬ ∃ u', Untagged b u' ∧ FrameKept p.hwaddr b u' c := by
    rintro ⟨u', hu', hkept⟩
    have := hkept.len_eq hu'
    omega
  rcases hrest with ⟨hret, hlt⟩ | ⟨hret, hgt⟩
  · rw [hret]
    simp only [hneg, hother, if_true, if_false]
    exact fun h => hlength (.inl (by omega)) (h trivial)
  · rw [hret]
    simp only [lt_irrefl, if_false]
    obtain ⟨hsend, -, hlen⟩ := sendEdited_eq
      (nat25DbHandle e.toEnv learnt.1 u .insert).priv b
      (nat25DbHandle e.toEnv learnt.1 u .insert).skb vlanHdr (by rw [hdata']; omega)
      fun htag => by
        rw [hhdr htag]
        exact length_readBytes
    rw [hsend]
    exact fun h => hlength (.inr (by rw [hlen]; omega)) (h rfl)

/-- A frame of a client with a VLAN tag and the EtherType of LLDP. -/
def lldp : Skb where
  mem := fun i => [0x01, 0x80, 0xc2, 0, 0, 0x0e, 2, 0, 0, 0, 0, 1, 0x81, 0, 0, 5, 0x88, 0xcc, 2,
    7].getD i 0
  data := 0
  len := 20
  tailroom := 0

/-- The adapter is a port of a bridge, and nothing fails. -/
def bridgedEnv : TxEnv where
  toEnv := plainEnv
  brPort := true
  copyOk := true
  copyMem := fun _ => 0
  copyTailroom := 0
  linearizeOk := true

/-- An ARP request of a client, with a VLAN tag. -/
def arpRequest : Skb where
  mem := fun i => [0xff, 0xff, 0xff, 0xff, 0xff, 0xff, 2, 0, 0, 0, 0, 1, 0x81, 0, 0, 5, 0x08, 0x06,
    0, 1, 0x08, 0, 6, 4, 0, 1, 2, 0, 0, 0, 0, 1, 192, 168, 1, 2, 0, 0, 0, 0, 0, 0, 192, 168, 1,
    1].getD i 0
  data := 0
  len := 46
  tailroom := 0

/-- It is sent, and keeps what it should keep. -/
theorem clientKept_iff_arpRequest :
    (rtwBrClientTx bridgedEnv (freshPriv (MacAddr.ofBytes 2 0 0 0 0 9)) arpRequest).ret = some 0 ∧
      ClientKept bridgedEnv (freshPriv (MacAddr.ofBytes 2 0 0 0 0 9)) arpRequest := by
  refine ⟨by decide +kernel, (clientKept_iff _ _ arpRequest ⟨by decide, by decide⟩).2
    (.inr (.inr (.inr fun r hr => .inl (.inr (.inl ?_)))))⟩
  have hfields : (editFrame bridgedEnv (learn (freshPriv (MacAddr.ofBytes 2 0 0 0 0 9))
      (BrExt.untagged arpRequest arpRequest)).1 arpRequest).map (fun r => (r.1.be 12, r.1.be 16)) =
        some (0x0806, 0x0800) := by decide +kernel
  rw [Option.mem_def.1 hr, Option.map_some, Option.some.injEq, Prod.mk.injEq] at hfields
  exact hfields

/-- The frame goes out with the address of the client, and without its tag. -/
theorem lldp_let_go :
    EthFrame lldp ∧ ¬ ClientKept bridgedEnv (freshPriv (MacAddr.ofBytes 2 0 0 0 0 9)) lldp := by
  refine ⟨⟨by decide, by decide⟩, fun h => ?_⟩
  obtain ⟨u, -, hkept⟩ := h (by decide)
  have hsource := hkept.source
  revert hsource
  decide

end Rtl8723du.BrExt
