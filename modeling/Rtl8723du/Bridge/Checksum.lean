import Rtl8723du.Bridge.DbHandle

/-!
# The checksums of bridged frames

`dhcp_flag_bcast` sets the broadcast flag of a DHCP request and patches the UDP checksum: it adds
the new flags to the sum, although the old ones are in it already.  `nat25_db_handle` computes the
checksum of a Neighbour Discovery message anew, over the length from the IPv6 header, whose bytes
it does not swap.  The checksums are right just where the old flags are zero, or the two
lengths cover the same sum; a UDP checksum of zero, which stands for none, is patched as well.
-/

namespace Rtl8723du.BrExt

open Lib Lib.Memory Lib.OnesComplement

/-! ### `dhcp_flag_bcast` -/

/-- A 16-bit number as the CPU reads it. -/
def Skb.le (b : Skb) (i : ℕ) : ℕ := (b.get i).toNat + 256 * (b.get (i + 1)).toNat

/-- The offset of the UDP header. -/
def udphOff (b : Skb) : ℕ := 14 + 4 * (b.get 14 &&& 0x0f).toNat

/-- The loop that adds the carries in again; a sum of two 16-bit numbers takes one pass. -/
def addCarries : ℕ → ℕ → ℕ
  | 0, sum => sum
  | k + 1, sum => if sum / 65536 ≠ 0 then addCarries k (sum % 65536 + sum / 65536) else sum

/-- The frame is a DHCP request, and its broadcast flag is not set. -/
def DhcpMatches (b : Skb) : Prop :=
  b.be 12 = 0x0800 ∧ b.get 23 = 17 ∧ b.be (udphOff b) = 68 ∧ b.be (udphOff b + 2) = 67 ∧
    b.rd (udphOff b + 244) 4 = [0x63, 0x82, 0x53, 0x63] ∧ b.get (udphOff b + 18) &&& 0x80 = 0

instance (b : Skb) : Decidable (DhcpMatches b) := inferInstanceAs (Decidable (_ ∧ _))

/-- `dhcp_flag_bcast`. -/
def dhcpFlagBcast (p : Priv) (b : Skb) : Skb :=
  if p.dhcpBcstDisable = false ∧ DhcpMatches b then
    let u := udphOff b
    let b₁ := b.wr (u + 18) [b.get (u + 18) ||| 0x80, b.get (u + 19)]
    let sum := addCarries 2 (65535 - b₁.le (u + 6) + b₁.le (u + 18))
    b₁.wr (u + 6) (leBytes16 (65535 - sum))
  else b

/-! ### Valid checksums -/

/-- The pseudo header of UDP over IPv4. -/
def udpPseudo (b : Skb) : List UInt8 :=
  b.rd 26 4 ++ b.rd 30 4 ++ [0, 17] ++ b.rd (udphOff b + 4) 2

/-- The UDP checksum, as the CPU reads it. -/
def udpCheck (b : Skb) : ℕ := b.le (udphOff b + 6)

/-- The UDP checksum is zero, or it fits. -/
def UdpValid (b : Skb) : Prop :=
  udpCheck b = 0 ∨ fold (sum16 (udpPseudo b ++ b.rd (udphOff b) (b.be (udphOff b + 4)))) = 65535

/-- The IP header has its full length, and the UDP datagram reaches behind the flags. -/
structure DhcpFrame (b : Skb) : Prop where
  ihl : 34 ≤ udphOff b
  udpLen : 20 ≤ b.be (udphOff b + 4)

/-- A valid checksum stays one, and none stays none. -/
def DhcpKeeps (p : Priv) (b : Skb) : Prop :=
  DhcpFrame b → UdpValid b →
    UdpValid (dhcpFlagBcast p b) ∧ (udpCheck b = 0 → udpCheck (dhcpFlagBcast p b) = 0)

/-- When the patch is right: the flags were zero, or it leads to no checksum. -/
def DhcpOk (p : Priv) (b : Skb) : Prop :=
  p.dhcpBcstDisable = false → DhcpMatches b →
    (udpCheck b = 0 ∧ b.le (udphOff b + 18) + 128 = 65535) ∨
      (udpCheck b ≠ 0 ∧ (b.le (udphOff b + 18) = 0 ∨ b.le (udphOff b + 18) + 128 = udpCheck b))

/-- What an ICMPv6 checksum over `n` bytes covers. -/
def icmp6Sum (b : Skb) (n : ℕ) : ℕ :=
  sum16 (pseudoHeader (b.rd 22 16) (b.rd 38 16) n 58) + sum16 (b.rd 54 n)

/-- The ICMPv6 checksum fits. -/
def Icmp6Valid (b : Skb) : Prop := fold (icmp6Sum b (b.be 18)) = 65535

/-- An IPv6 frame with an ICMPv6 message that has a checksum. -/
structure NdFrame (b : Skb) : Prop where
  ethType : b.be 12 = 0x86dd
  payloadLen : 4 ≤ b.be 18

/-- Whenever the insertion returns, a valid checksum has stayed one. -/
def NdKeeps (e : Env) (p : Priv) (b : Skb) : Prop :=
  NdFrame b → Icmp6Valid b → ∀ fuel ret,
    (nat25DbHandle { e with fuel := fuel } p b .insert).ret = some ret →
      Icmp6Valid (nat25DbHandle { e with fuel := fuel } p b .insert).skb

/-- The message is updated, in the option at `o` from the start of the memory. -/
def NdEdited (b : Skb) (o : ℕ) : Prop :=
  40 < (b.len + (2 ^ 32 - 14)) % 2 ^ 32 ∧ b.rd 22 16 ≠ List.replicate 16 0 ∧ b.get 20 = 58 ∧
    14 + 40 + 4 < b.len ∧ LinkOption b.mem (b.data + 54) (b.data + b.len) o

/-- The message with the new address and without a checksum. -/
def ndEdit (p : Priv) (b : Skb) (o : ℕ) : Skb :=
  ({ b with mem := write b.mem (o + 2) p.hwaddr.toList } : Skb).wr 56 [0, 0]

/-- When the new checksum is right: it is over the same sum as with the length of the message. -/
def NdOk (p : Priv) (b : Skb) : Prop :=
  ∀ o, NdEdited b o →
    icmp6Sum (ndEdit p b o) (b.be 18) ≡ icmp6Sum (ndEdit p b o) (rawPayloadLen b) [MOD 65535]

/-! ### Fields of a frame that is written to -/

variable {p : Priv} {b : Skb} {i j n k : ℕ} {bs : List UInt8}

lemma Skb.get_wr_of_ne (h : i < j ∨ j + bs.length ≤ i) : (b.wr j bs).get i = b.get i := by
  rcases h with h | h
  · exact write_of_lt (show b.data + i < b.data + j by omega)
  · exact write_of_le (show b.data + j + bs.length ≤ b.data + i by omega)

lemma Skb.rd_wr_of_disjoint (h : i + n ≤ j ∨ j + bs.length ≤ i) :
    (b.wr j bs).rd i n = b.rd i n :=
  readBytes_write_of_disjoint (by
    show b.data + i + n ≤ b.data + j ∨ b.data + j + bs.length ≤ b.data + i
    omega)

lemma Skb.rd_wr (b : Skb) (j : ℕ) (bs : List UInt8) : (b.wr j bs).rd j bs.length = bs :=
  readBytes_write b.mem (b.data + j) bs

lemma Skb.be_wr_of_ne (h : i + 2 ≤ j ∨ j + bs.length ≤ i) : (b.wr j bs).be i = b.be i := by
  have h0 : (b.wr j bs).get i = b.get i := Skb.get_wr_of_ne (by omega)
  have h1 : (b.wr j bs).get (i + 1) = b.get (i + 1) := Skb.get_wr_of_ne (by omega)
  show 256 * ((b.wr j bs).get i).toNat + ((b.wr j bs).get (i + 1)).toNat = _
  rw [h0, h1]
  rfl

lemma Skb.le_wr_of_ne (h : i + 2 ≤ j ∨ j + bs.length ≤ i) : (b.wr j bs).le i = b.le i := by
  rw [Skb.le, Skb.get_wr_of_ne (by omega), Skb.get_wr_of_ne (by omega)]
  rfl

lemma Skb.rd_add (b : Skb) (i n k : ℕ) : b.rd i (n + k) = b.rd i n ++ b.rd (i + n) k := by
  show readBytes b.mem (b.data + i) (n + k) = _
  rw [readBytes_add, Nat.add_assoc]
  rfl

lemma sum16_rd_two : sum16 (b.rd i 2) = b.le i := by
  simp [Skb.rd, readBytes, sum16, Skb.le, Skb.get, List.range_succ, Nat.add_assoc]

lemma Skb.le_lt : b.le i < 65536 := by
  have h0 := (b.get i).toNat_lt
  have h1 := (b.get (i + 1)).toNat_lt
  rw [Skb.le]
  omega

@[simp] lemma length_leBytes16 (n : ℕ) : (leBytes16 n).length = 2 := rfl

/-- A number that was stored is read again. -/
lemma Skb.le_wr_leBytes16 (h : n < 65536) : (b.wr i (leBytes16 n)).le i = n := by
  rw [← sum16_rd_two, show b.wr i (leBytes16 n) = b.wr i (leBytes16 n) from rfl]
  have hrd : (b.wr i (leBytes16 n)).rd i 2 = leBytes16 n := Skb.rd_wr b i (leBytes16 n)
  rw [hrd]
  simp only [leBytes16, sum16, UInt8.toNat_ofNat']
  omega

/-- A field at an even offset is a word of the sum. -/
lemma sum16_rd_split (h : i % 2 = 0) :
    sum16 (b.rd j (i + (2 + k))) =
      sum16 (b.rd j i) + (b.le (j + i) + sum16 (b.rd (j + i + 2) k)) := by
  rw [Skb.rd_add, Skb.rd_add, sum16_append (by simpa [Skb.rd] using h),
    sum16_append (by simp [Skb.rd]), sum16_rd_two]

/-! ### The UDP checksum -/

lemma addCarries_eq_fold (hpos : 0 < n) (hlt : n < 131071) : addCarries 2 n = fold n := by
  have hfold : fold n = (n - 1) % 65535 + 1 := if_neg (by omega)
  rw [hfold, addCarries]
  split
  · next hcarry =>
      rw [addCarries, if_neg (by omega)]
      omega
  · next hcarry => omega

/-- Setting a flag that is not set adds its value. -/
lemma toNat_or_flag {x : UInt8} (h : x &&& 0x80 = 0) : (x ||| 0x80).toNat = x.toNat + 128 := by
  have hall : ∀ n : Fin 256, UInt8.ofNat n &&& 0x80 = 0 →
      (UInt8.ofNat n ||| 0x80).toNat = (UInt8.ofNat n).toNat + 128 := by
    decide +kernel
  have hx := hall ⟨x.toNat, x.toNat_lt⟩
  simp only [UInt8.ofNat_toNat] at hx
  exact hx h

/-- The sum over the datagram without the checksum and the flags. -/
def udpRest (b : Skb) : ℕ :=
  sum16 (udpPseudo b) + sum16 (b.rd (udphOff b) 6) + sum16 (b.rd (udphOff b + 8) 10) +
    sum16 (b.rd (udphOff b + 20) (b.be (udphOff b + 4) - 20))

lemma sum16_udp (h : 20 ≤ b.be (udphOff b + 4)) :
    sum16 (udpPseudo b ++ b.rd (udphOff b) (b.be (udphOff b + 4))) =
      udpRest b + udpCheck b + b.le (udphOff b + 18) := by
  obtain ⟨k, hk⟩ : ∃ k, b.be (udphOff b + 4) = 6 + (2 + (10 + (2 + k))) :=
    ⟨b.be (udphOff b + 4) - 20, by omega⟩
  have hpseudo : (udpPseudo b).length % 2 = 0 := by simp [udpPseudo, Skb.rd]
  rw [sum16_append hpseudo, udpRest, hk, sum16_rd_split (by decide), sum16_rd_split (by decide),
    show 6 + (2 + (10 + (2 + k))) - 20 = k by omega]
  simp only [Nat.add_assoc, Nat.reduceAdd, udpCheck]
  omega

/-- All that `dhcp_flag_bcast` leaves alone in a frame that it changes. -/
structure SameUdp (b b' : Skb) : Prop where
  udphOff : udphOff b' = udphOff b
  len : b'.be (BrExt.udphOff b + 4) = b.be (BrExt.udphOff b + 4)
  rest : udpRest b' = udpRest b

lemma sameUdp_wr (hihl : 34 ≤ udphOff b) (bs : List UInt8)
    (h : j = udphOff b + 6 ∨ j = udphOff b + 18) (hbs : bs.length = 2) :
    SameUdp b (b.wr j bs) := by
  have hoff : udphOff (b.wr j bs) = udphOff b := by
    rw [udphOff, Skb.get_wr_of_ne (by omega)]
    rfl
  have hlen : (b.wr j bs).be (udphOff b + 4) = b.be (udphOff b + 4) := Skb.be_wr_of_ne (by omega)
  refine ⟨hoff, hlen, ?_⟩
  have hrd {i n : ℕ} (hd : i + n ≤ j ∨ j + 2 ≤ i) : (b.wr j bs).rd i n = b.rd i n :=
    Skb.rd_wr_of_disjoint (by omega)
  rw [udpRest, udpPseudo, hoff, hlen, hrd (by omega), hrd (by omega), hrd (by omega),
    hrd (by omega), hrd (by omega), hrd (by omega)]
  rfl

/-- The patched checksum, for a checksum and the flags before. -/
def patchedCheck (check flags : ℕ) : ℕ := 65535 - addCarries 2 (65535 - check + (flags + 128))

/-- A patched datagram: only the checksum and the flags have changed. -/
lemma dhcpFlagBcast_spec (hf : DhcpFrame b) (hbcst : p.dhcpBcstDisable = false)
    (hm : DhcpMatches b) :
    SameUdp b (dhcpFlagBcast p b) ∧
      udpCheck (dhcpFlagBcast p b) = patchedCheck (udpCheck b) (b.le (udphOff b + 18)) ∧
      (dhcpFlagBcast p b).le (udphOff b + 18) = b.le (udphOff b + 18) + 128 := by
  have hihl := hf.ihl
  set u := udphOff b with hu
  set b₁ := b.wr (u + 18) [b.get (u + 18) ||| 0x80, b.get (u + 19)] with hb₁
  have hflag : (b.get (u + 18) ||| 0x80).toNat = (b.get (u + 18)).toNat + 128 :=
    toNat_or_flag hm.2.2.2.2.2
  have hflags : b₁.le (u + 18) = b.le (u + 18) + 128 := by
    have hrd : b₁.rd (u + 18) 2 = [b.get (u + 18) ||| 0x80, b.get (u + 19)] := Skb.rd_wr _ _ _
    rw [← sum16_rd_two, hrd]
    simp only [sum16, hflag, Skb.le, Nat.add_assoc, Nat.reduceAdd]
    omega
  have hcheck : b₁.le (u + 6) = udpCheck b := Skb.le_wr_of_ne (by omega)
  have hlt : patchedCheck (udpCheck b) (b.le (u + 18)) < 65536 := by
    rw [patchedCheck]
    omega
  have hout : dhcpFlagBcast p b =
      b₁.wr (u + 6) (leBytes16 (patchedCheck (udpCheck b) (b.le (u + 18)))) := by
    rw [dhcpFlagBcast, if_pos ⟨hbcst, hm⟩]
    simp only [← hu, ← hb₁, hcheck, hflags, patchedCheck]
  have hsame₁ : SameUdp b b₁ := sameUdp_wr hihl _ (.inr rfl) rfl
  have hsame : SameUdp b (dhcpFlagBcast p b) := by
    have h₂ : SameUdp b₁ (dhcpFlagBcast p b) := by
      rw [hout]
      exact sameUdp_wr (by rw [hsame₁.udphOff]; exact hihl) _
        (.inl (by rw [hsame₁.udphOff])) rfl
    refine ⟨h₂.udphOff.trans hsame₁.udphOff, ?_, h₂.rest.trans hsame₁.rest⟩
    have hlen := h₂.len
    rw [hsame₁.udphOff] at hlen
    exact hlen.trans hsame₁.len
  refine ⟨hsame, ?_, ?_⟩
  · rw [udpCheck, hsame.udphOff, hout]
    exact Skb.le_wr_leBytes16 hlt
  · rw [hout, Skb.le_wr_of_ne (by simp only [length_leBytes16]; omega), hflags]

lemma udpValid_iff (h : 20 ≤ b.be (udphOff b + 4)) :
    UdpValid b ↔ udpCheck b = 0 ∨
      fold (udpRest b + udpCheck b + b.le (udphOff b + 18)) = 65535 := by
  rw [UdpValid, sum16_udp h]

/-- The patch in numbers: `check` and `flags` with the flag clear, and the sum `r` of the rest. -/
lemma patched_iff {r check flags : ℕ} (hc : check < 65536) (hf : flags + 128 < 65536)
    (hvalid : check = 0 ∨ fold (r + check + flags) = 65535) :
    ((patchedCheck check flags = 0 ∨
        fold (r + patchedCheck check flags + (flags + 128)) = 65535) ∧
      (check = 0 → patchedCheck check flags = 0)) ↔
    (check = 0 ∧ flags + 128 = 65535) ∨ (check ≠ 0 ∧ (flags = 0 ∨ flags + 128 = check)) := by
  have hpatch : patchedCheck check flags = csumFold (65535 - check + (flags + 128)) := by
    rw [patchedCheck, addCarries_eq_fold (by omega) (by omega), csumFold]
  have hzero : patchedCheck check flags = 0 ↔
      flags + 128 = check ∨ check = 0 ∧ flags + 128 = 65535 := by
    have hle := fold_le (65535 - check + (flags + 128))
    have hfold := fold_eq_iff (n := 65535 - check + (flags + 128)) (by omega)
    rw [Nat.ModEq] at hfold
    rw [hpatch, csumFold]
    omega
  have hsum := add_csumFold (65535 - check + (flags + 128))
  rw [← hpatch] at hsum
  by_cases hcheck : check = 0
  · omega
  have hold : (r + check + flags) % 65535 = 0 := by
    have := hvalid.resolve_left hcheck
    exact (fold_eq_iff (by omega)).1 this
  have hnew : fold (r + patchedCheck check flags + (flags + 128)) = 65535 ↔ flags = 0 := by
    rw [fold_eq_iff (by omega), Nat.ModEq]
    rw [Nat.ModEq] at hsum
    omega
  rw [hnew, hzero]
  omega

lemma dhcpKeeps_iff : DhcpKeeps p b ↔ (DhcpFrame b → UdpValid b → DhcpOk p b) := by
  refine forall₂_congr fun hf hvalid => ?_
  by_cases hedit : p.dhcpBcstDisable = false ∧ DhcpMatches b
  · obtain ⟨hsame, hcheck, hflags⟩ := dhcpFlagBcast_spec hf hedit.1 hedit.2
    have hlt : b.le (udphOff b + 18) + 128 < 65536 := by
      rw [← hflags]
      exact Skb.le_lt
    have hcheck_lt : udpCheck b < 65536 := Skb.le_lt
    have hvalid' := (udpValid_iff hf.udpLen).1 hvalid
    have hlen' : 20 ≤ (dhcpFlagBcast p b).be (udphOff (dhcpFlagBcast p b) + 4) := by
      rw [hsame.udphOff, hsame.len]
      exact hf.udpLen
    rw [udpValid_iff hlen', hcheck, hsame.rest, hsame.udphOff, hflags,
      patched_iff hcheck_lt hlt hvalid']
    simp only [DhcpOk, hedit.1, hedit.2, true_imp_iff]
  · have hout : dhcpFlagBcast p b = b := if_neg hedit
    rw [hout]
    refine iff_of_true ⟨hvalid, id⟩ fun hbcst hm => absurd ⟨hbcst, hm⟩ hedit

/-! ### The ICMPv6 checksum -/

variable {e : Env} {o fuel : ℕ}

/-- The sum with a checksum is the sum without it and the checksum. -/
lemma icmp6Sum_wr (h : 4 ≤ n) (hk : k < 65536) :
    icmp6Sum (b.wr 56 (leBytes16 k)) n = icmp6Sum (b.wr 56 [0, 0]) n + k := by
  obtain ⟨n, rfl⟩ : ∃ n', n = 2 + (2 + n') := ⟨n - 4, by omega⟩
  have hrd {i n : ℕ} {bs : List UInt8} (hbs : bs.length = 2) (hd : i + n ≤ 56 ∨ 58 ≤ i) :
      (b.wr 56 bs).rd i n = b.rd i n := Skb.rd_wr_of_disjoint (by omega)
  have hzero : (b.wr 56 [0, 0]).le 56 = 0 := Skb.le_wr_leBytes16 (n := 0) (by decide)
  simp only [icmp6Sum, sum16_rd_split (show 2 % 2 = 0 by decide), Nat.reduceAdd,
    Skb.le_wr_leBytes16 hk, hzero]
  rw [hrd rfl (by omega), hrd rfl (by omega), hrd rfl (by omega), hrd rfl (by omega),
    hrd rfl (by omega), hrd rfl (by omega), hrd rfl (by omega), hrd rfl (by omega)]
  omega

lemma icmp6Sum_pos : 0 < icmp6Sum b n := by
  have hlen : (b.rd 22 16 ++ b.rd 38 16 ++ [UInt8.ofNat (n / 2 ^ 24), UInt8.ofNat (n / 2 ^ 16),
      UInt8.ofNat (n / 2 ^ 8), UInt8.ofNat n]).length % 2 = 0 := by
    simp [Skb.rd]
  have hproto : sum16 [0, 0, 0, 58] = 58 * 256 := rfl
  rw [icmp6Sum, pseudoHeader, sum16_append hlen, hproto]
  omega

/-- A checksum over one length fits another if the sums over both are the same. -/
lemma icmp6Valid_wr_iff (h : 4 ≤ b.be 18) :
    Icmp6Valid (b.wr 56 (leBytes16 (csumFold (icmp6Sum (b.wr 56 [0, 0]) k)))) ↔
      icmp6Sum (b.wr 56 [0, 0]) (b.be 18) ≡ icmp6Sum (b.wr 56 [0, 0]) k [MOD 65535] := by
  have hbe : (b.wr 56 (leBytes16 (csumFold (icmp6Sum (b.wr 56 [0, 0]) k)))).be 18 = b.be 18 :=
    Skb.be_wr_of_ne (by omega)
  have hsum := add_csumFold (icmp6Sum (b.wr 56 [0, 0]) k)
  have hpos : 0 < icmp6Sum (b.wr 56 [0, 0]) (b.be 18) := icmp6Sum_pos
  rw [Icmp6Valid, hbe, icmp6Sum_wr h (csumFold_lt _), fold_eq_iff (by omega)]
  rw [Nat.ModEq] at hsum ⊢
  rw [Nat.ModEq]
  omega

/-! ### The insertion of an IPv6 frame -/

/-- The updated frame: the new address, and a checksum over the length as it lies in memory. -/
def ndDone (p : Priv) (b : Skb) (o : ℕ) : Skb :=
  (ndEdit p b o).wr 56 (leBytes16 (csumFold (icmp6Sum (ndEdit p b o) (rawPayloadLen b))))

lemma LinkOption.le_off {m : Mem} {data e' : ℕ} (h : LinkOption m data e' o) : data + 8 ≤ o := by
  obtain ⟨hdr, tag, hnd, ho⟩ := h
  have hhdr : 8 ≤ hdr := by
    rw [ndOptions] at hnd
    split_ifs at hnd <;> simp only [Option.some.injEq, Prod.mk.injEq] at hnd <;>
      omega
  have := ho.optionAt.le
  omega

/-- The new address is behind the ICMPv6 header. -/
lemma NdEdited.get_eq (h : NdEdited b o) (hi : i < 54) : (ndEdit p b o).get i = b.get i := by
  have ho := h.2.2.2.2.le_off
  rw [ndEdit, Skb.get_wr_of_ne (by omega)]
  exact write_of_lt (show b.data + i < o + 2 by omega)

@[simp] lemma hwaddr_nat25DbNetworkInsert (macAddr : MacAddr) (networkAddr : List UInt8) :
    (nat25DbNetworkInsert e p macAddr networkAddr).hwaddr = p.hwaddr := by
  rw [nat25DbNetworkInsert]
  split <;> rfl

/-- What `updateNd` leaves when the update is done. -/
lemma updateNd_of_link (acc : List Access) (h : NdEdited b o)
    (hr : updateNdLinkLayerAddr b.mem (b.data + 54) ((b.len : ℤ) - 54) p.hwaddr e.fuel =
      some (write b.mem (o + 2) p.hwaddr.toList, true)) :
    (updateNd e p b acc).ret = some 0 ∧ (updateNd e p b acc).skb = ndDone p b o := by
  have hraw : rawPayloadLen (ndEdit p b o) = rawPayloadLen b := by
    rw [rawPayloadLen, h.get_eq (by decide), h.get_eq (by decide)]
    rfl
  rw [updateNd, hr]
  refine ⟨rfl, ?_⟩
  rw [ndDone, ← hraw]
  rfl

/-- The insertion either updates the message or leaves the frame alone. -/
lemma nat25DbHandle_insert_ipv6 {ret : ℤ} (h12 : b.be 12 = 0x86dd)
    (h : (nat25DbHandle e p b .insert).ret = some ret) :
    ((nat25DbHandle e p b .insert).skb = b ∧ ∀ o, ¬ NdEdited b o) ∨
      ∃ o, NdEdited b o ∧ (nat25DbHandle e p b .insert).skb = ndDone p b o := by
  have hhandle : nat25DbHandle e p b .insert = handleIpv6 e p b .insert := by
    simp [nat25DbHandle, h12]
  rw [hhandle] at h ⊢
  rw [handleIpv6] at h ⊢
  by_cases hshort : (b.len + (2 ^ 32 - 14)) % 2 ^ 32 ≤ 40
  · rw [if_pos hshort]
    exact .inl ⟨rfl, fun o ho => absurd ho.1 (by omega)⟩
  rw [if_neg hshort] at h ⊢
  by_cases hzero : b.rd 22 16 = List.replicate 16 0
  · simp only [if_pos hzero]
    exact .inl ⟨trivial, fun o ho => absurd hzero ho.2.1⟩
  simp only [if_neg hzero] at h ⊢
  by_cases hnd : b.get 20 = 58 ∧ 14 + 40 + 4 < b.len
  swap
  · rw [if_neg hnd]
    exact .inl ⟨rfl, fun o ho => absurd ⟨ho.2.2.1, ho.2.2.2.1⟩ hnd⟩
  rw [if_pos hnd] at h ⊢
  have harea : b.data + 54 + ((b.len : ℤ) - 54).toNat = b.data + b.len := by omega
  set p' := nat25DbNetworkInsert e p (b.mac 6) (nat25GenerateIpv6NetworkAddr (b.rd 22 16)) with hp'
  have hhw : p'.hwaddr = p.hwaddr := hwaddr_nat25DbNetworkInsert _ _
  rcases hupdate : updateNdLinkLayerAddr b.mem (b.data + 54) ((b.len : ℤ) - 54) p'.hwaddr e.fuel
    with _ | r
  · simp [updateNd, hupdate] at h
  have hok := (returns_update b.mem (b.data + 54) ((b.len : ℤ) - 54) p'.hwaddr).2 e.fuel r hupdate
  rw [harea] at hok
  rcases hok with ⟨rfl, hnone⟩ | ⟨o, ho, rfl⟩
  · left
    refine ⟨by rw [updateNd, hupdate], fun o ho => hnone o ho.2.2.2.2⟩
  · have hedited : NdEdited b o := ⟨by omega, hzero, hnd.1, hnd.2, ho⟩
    refine .inr ⟨o, hedited, ?_⟩
    rw [(updateNd_of_link _ hedited hupdate).2, ndDone, ndDone, ndEdit, ndEdit, hhw]

/-- Where there is something to update, the insertion returns. -/
lemma NdEdited.returns (h : NdEdited b o) (h12 : b.be 12 = 0x86dd) (e : Env) (p : Priv) :
    ∃ fuel, (nat25DbHandle { e with fuel := fuel } p b .insert).ret = some 0 ∧
      (nat25DbHandle { e with fuel := fuel } p b .insert).skb = ndDone p b o := by
  obtain ⟨hlen, hzero, hnexthdr, hlong, ho⟩ := h
  have harea : b.data + 54 + ((b.len : ℤ) - 54).toNat = b.data + b.len := by omega
  rw [← harea] at ho
  obtain ⟨fuel, hfuel⟩ := ho.returns p.hwaddr
  refine ⟨fuel, ?_⟩
  have hhandle : nat25DbHandle { e with fuel := fuel } p b .insert =
      updateNd { e with fuel := fuel } (nat25DbNetworkInsert { e with fuel := fuel } p (b.mac 6)
        (nat25GenerateIpv6NetworkAddr (b.rd 22 16))) b [b.acc 22 16, b.acc 6 6, b.acc 20 1] := by
    have hlen' : ¬ (b.len + (2 ^ 32 - 14)) % 2 ^ 32 ≤ 40 := by omega
    simp only [nat25DbHandle, h12, handleIpv6, if_neg hlen', if_neg hzero,
      if_pos (And.intro hnexthdr hlong)]
    rfl
  have hedited : NdEdited b o := ⟨hlen, hzero, hnexthdr, hlong, by rwa [← harea]⟩
  have hdone := updateNd_of_link (e := { e with fuel := fuel })
    (p := nat25DbNetworkInsert { e with fuel := fuel } p (b.mac 6)
      (nat25GenerateIpv6NetworkAddr (b.rd 22 16)))
    [b.acc 22 16, b.acc 6 6, b.acc 20 1] hedited
    (by rw [hwaddr_nat25DbNetworkInsert]; exact hfuel)
  rw [hhandle, hdone.1, hdone.2]
  refine ⟨rfl, ?_⟩
  rw [ndDone, ndDone, ndEdit, ndEdit, hwaddr_nat25DbNetworkInsert]

/-- The checksum of an updated message. -/
lemma icmp6Valid_ndDone_iff (h : NdEdited b o) (hf : NdFrame b) :
    Icmp6Valid (ndDone p b o) ↔
      icmp6Sum (ndEdit p b o) (b.be 18) ≡ icmp6Sum (ndEdit p b o) (rawPayloadLen b)
        [MOD 65535] := by
  have ho := h.2.2.2.2.le_off
  set b₁ : Skb := { b with mem := write b.mem (o + 2) p.hwaddr.toList } with hb₁
  have hbe : b₁.be 18 = b.be 18 := by
    have h0 : b₁.get 18 = b.get 18 := write_of_lt (show b.data + 18 < o + 2 by omega)
    have h1 : b₁.get 19 = b.get 19 := write_of_lt (show b.data + 19 < o + 2 by omega)
    show 256 * (b₁.get 18).toNat + (b₁.get 19).toNat = _
    rw [h0, h1]
    rfl
  have hdone (k : ℕ) : (ndEdit p b o).wr 56 (leBytes16 k) = b₁.wr 56 (leBytes16 k) := by
    simp only [ndEdit, Skb.wr]
    rw [write_write (by rfl)]
  have hvalid := icmp6Valid_wr_iff (b := b₁) (k := rawPayloadLen b)
    (by rw [hbe]; exact hf.payloadLen)
  rw [hbe] at hvalid
  rw [ndDone, hdone]
  exact hvalid

lemma ndKeeps_iff : NdKeeps e p b ↔ (NdFrame b → Icmp6Valid b → NdOk p b) := by
  refine forall₂_congr fun hf hvalid => ?_
  constructor
  · intro h o ho
    obtain ⟨fuel, hret, hskb⟩ := ho.returns hf.ethType e p
    have hdone := h fuel 0 hret
    rw [hskb] at hdone
    exact (icmp6Valid_ndDone_iff ho hf).1 hdone
  · intro h fuel ret hret
    rcases nat25DbHandle_insert_ipv6 hf.ethType hret with ⟨hskb, -⟩ | ⟨o, ho, hskb⟩
    · rw [hskb]
      exact hvalid
    · rw [hskb]
      exact (icmp6Valid_ndDone_iff ho hf).2 (h o ho)

/-- Exactly when valid checksums stay valid: those of DHCP requests and of Neighbour Discovery
messages. -/
theorem checksums_kept_iff (e : Env) (p : Priv) (b : Skb) :
    (DhcpKeeps p b ↔ (DhcpFrame b → UdpValid b → DhcpOk p b)) ∧
      (NdKeeps e p b ↔ (NdFrame b → Icmp6Valid b → NdOk p b)) :=
  ⟨dhcpKeeps_iff, ndKeeps_iff⟩

/-- A DHCP request without a UDP checksum. -/
def dhcpRequest : Skb where
  mem
    | 12 => 0x08
    | 14 => 0x45
    | 23 => 17
    | 35 => 68
    | 37 => 67
    | 38 => 0x01
    | 39 => 0x34
    | 278 => 0x63
    | 279 => 0x82
    | 280 => 0x53
    | 281 => 0x63
    | _ => 0
  data := 0
  len := 342
  tailroom := 0

/-- It gets one that does not fit. -/
theorem dhcp_checksum_broken :
    ¬ DhcpKeeps (freshPriv (MacAddr.ofBytes 2 0 0 0 0 9)) dhcpRequest := by
  rw [dhcpKeeps_iff]
  intro h
  have hf : DhcpFrame dhcpRequest := ⟨by decide, by decide⟩
  have hvalid : UdpValid dhcpRequest := .inl (by decide)
  have hm : DhcpMatches dhcpRequest := by decide
  rcases h hf hvalid rfl hm with ⟨-, hflags⟩ | ⟨hcheck, -⟩
  · exact absurd hflags (by decide)
  · exact hcheck (by decide)

end Rtl8723du.BrExt
