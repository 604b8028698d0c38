import Rtl8723du.Bridge.Checksum

/-!
# What `nat25_db_handle` touches

Each branch of `nat25_db_handle` has its own idea of the length of a frame: the IPv4 header is
measured against an address 14 bytes behind the end, ARP messages, PPPoE headers and tags against
nothing at all, and IPv6 headers against a difference that wraps.  `FrameFits` says for each
protocol and method how long a frame must be for all that is touched to lie inside of it.
-/

namespace Rtl8723du.BrExt

open Lib Lib.Memory

/-! ### Frames that are long enough -/

/-- All accesses lie inside the frame. -/
def AllInside (l : List Access) : Prop := ∀ a ∈ l, a.Inside

instance (l : List Access) : Decidable (AllInside l) := inferInstanceAs (Decidable (∀ a ∈ l, _))

/-- IPv4: the first byte of the header, and the address that is looked up. -/
def IpFits (b : Skb) (method : Method) : Prop :=
  15 ≤ b.len ∧ (4 * (b.get 14 &&& 0x0f).toNat < b.len →
    (method = .insert → 30 ≤ b.len) ∧ (method = .lookup → 34 ≤ b.len))

/-- ARP: the addresses, whose places depend on the lengths in the message. -/
def ArpFits (b : Skb) (method : Method) : Prop :=
  let hln := (b.get 18).toNat
  let pln := (b.get 19).toNat
  18 ≤ b.len ∧ (b.be 16 = 0x0800 →
    (method = .insert → 28 ≤ b.len ∧ 26 + hln ≤ b.len) ∧
      (method = .lookup → 26 + hln + (hln + pln) ≤ b.len ∧ 28 + (hln + pln) ≤ b.len))

/-- The offsets that the walk over the tags comes to from `c` on, in search of a type. -/
inductive TagFrom (b : Skb) (type : ℕ) : ℕ → ℕ → Prop
  | here {c : ℕ} : TagFrom b type c c
  | later {c x : ℕ} : c < b.be 18 → b.be (20 + c) ≠ type →
      TagFrom b type (c + (4 + b.be (20 + c + 2))) x → TagFrom b type c x

/-- The headers of all tags up to the relay tag lie inside the frame. -/
def TagsFit (b : Skb) : Prop :=
  20 ≤ b.len ∧ ∀ c, TagFrom b pttRelaySid 0 c → c < b.be 18 → 24 + c ≤ b.len

/-- A PADI or PADR: the tags, and the old relay tag; where a new one is added also all that the
length in the header covers. -/
def RelayInsertFits (b : Skb) : Prop :=
  TagsFit b ∧
    match (nat25FindPppoeTag b pttRelaySid).1 with
    | none => 2052 ≤ b.tailroom → 20 + b.be 18 ≤ b.len
    | some t =>
        let old := b.be (t + 2)
        old ≤ 28 → t + 4 + old ≤ b.len ∧ (256 * (8 + old) + 4 ≤ b.tailroom + (4 + old) →
          20 + (b.be 18 + (65536 - 4) + (65536 - old)) % 65536 ≤ b.len - (4 + old))

/-- A PADO or PADS: the tags, and the magic code and the address in the relay tag. -/
def RelayLookupFits (b : Skb) : Prop :=
  TagsFit b ∧ ∀ t ∈ (nat25FindPppoeTag b pttRelaySid).1, 8 ≤ b.be (t + 2) →
    t + 6 ≤ b.len ∧ (b.be (t + 4) = magicCode → t + 12 ≤ b.len)

/-- PPPoE. -/
def PppoeFits (p : Priv) (b : Skb) : Method → Prop
  | .check => 18 ≤ b.len
  | .insert =>
      18 ≤ b.len ∧ (b.be 16 = 0 → b.get 15 = 0x09 ∨ b.get 15 = 0x19 → p.addPppoeTag = true →
        RelayInsertFits b)
  | .lookup =>
      if b.get 15 = 0x07 ∨ b.get 15 = 0x65 then
        16 ≤ b.len ∧ (p.addPppoeTag = true → RelayLookupFits b)
      else 18 ≤ b.len

/-- Neighbour Discovery: no option that is looked at begins at the last byte. -/
def NdFits (b : Skb) : Prop :=
  ∀ hdr tag, ndOptions (b.get 54) = some (hdr, tag) → (hdr : ℤ) ≤ (b.len : ℤ) - 54 →
    ∀ o, OptionAt b.mem (b.data + b.len) (b.data + 54 + hdr) o →
      (∀ o', OptionAt b.mem (b.data + b.len) (b.data + 54 + hdr) o' → o' < o →
        ¬ IsOption b.mem (b.data + b.len) tag 1 o') →
      o + 1 ≠ b.data + b.len

/-- IPv6, if the frame passes the test of its length. -/
def Ipv6Fits (b : Skb) (method : Method) : Prop :=
  40 < (b.len + (2 ^ 32 - 14)) % 2 ^ 32 →
    match method with
    | .check => 1 ≤ b.len
    | .insert =>
        38 ≤ b.len ∧ (b.rd 22 16 ≠ List.replicate 16 0 → b.get 20 = 58 → 14 + 40 + 4 < b.len →
          NdFits b)
    | .lookup => 54 ≤ b.len

/-- All that is touched lies inside the frame. -/
def FrameFits (p : Priv) (b : Skb) (method : Method) : Prop :=
  let protocol := b.be 12
  if protocol = 0x0800 then IpFits b method
  else if protocol = 0x0806 then ArpFits b method
  else if protocol = 0x8863 ∨ protocol = 0x8864 then PppoeFits p b method
  else if protocol = 0x86dd then Ipv6Fits b method
  else True

/-! ### Lists of accesses -/

variable {e : Env} {p : Priv} {b : Skb} {i j n k c x : ℕ} {l l' : List Access} {method : Method}

@[simp] lemma allInside_nil : AllInside [] := by simp [AllInside]

@[simp] lemma allInside_cons {a : Access} : AllInside (a :: l) ↔ a.Inside ∧ AllInside l := by
  simp [AllInside]

@[simp] lemma allInside_append : AllInside (l ++ l') ↔ AllInside l ∧ AllInside l' := by
  simp [AllInside, or_imp, forall_and]

@[simp] lemma inside_acc : (b.acc i n).Inside ↔ i + n ≤ b.len := Iff.rfl

/-- A lookup writes to the destination address at most. -/
lemma allInside_lookup (e : Env) (p : Priv) (networkAddr : List UInt8) (h : 6 ≤ b.len) :
    AllInside (nat25DbNetworkLookupAndReplace e p b networkAddr).2.1 := by
  rw [nat25DbNetworkLookupAndReplace]
  split
  · exact allInside_nil
  · split
    · exact allInside_nil
    · simpa using h

/-! ### IPv4 and ARP -/

lemma handleIp_inside_iff : AllInside (handleIp e p b method).acc ↔ IpFits b method := by
  unfold handleIp IpFits
  by_cases hihl : b.len ≤ 4 * (b.get 14 &&& 0x0f).toNat
  · simp only [if_pos hihl, Nat.not_lt.2 hihl, false_imp_iff, and_true, allInside_cons, inside_acc,
      allInside_nil, Nat.reduceAdd]
  have hlt : 4 * (b.get 14 &&& 0x0f).toNat < b.len := Nat.not_le.1 hihl
  cases method with
  | check =>
      simp only [if_neg hihl, allInside_cons, inside_acc, allInside_nil, reduceCtorEq,
        false_imp_iff, and_true, implies_true, Nat.reduceAdd]
  | insert =>
      simp only [if_neg hihl, hlt, true_imp_iff, reduceCtorEq, false_imp_iff, and_true]
      split
      · simp only [allInside_cons, inside_acc, allInside_nil, and_true]
      · simp only [allInside_cons, inside_acc, allInside_nil, and_true]
        omega
  | lookup =>
      simp only [if_neg hihl, hlt, true_imp_iff, reduceCtorEq, false_imp_iff, true_and]
      by_cases hlen : 34 ≤ b.len
      · have hlookup := allInside_lookup (b := b) e p (nat25GenerateIpv4NetworkAddr (b.rd 30 4))
          (by omega)
        refine iff_of_true ?_ ⟨by omega, hlen⟩
        split
        · simp only [allInside_cons, allInside_append, inside_acc, allInside_nil, hlookup, and_true]
          omega
        · split <;>
            simp only [allInside_cons, allInside_append, inside_acc, allInside_nil, hlookup,
              and_true] <;>
            omega
      · refine iff_of_false ?_ (by omega)
        split
        · simp only [allInside_cons, allInside_append, inside_acc]
          omega
        · split <;> simp only [allInside_cons, allInside_append, inside_acc] <;> omega

lemma handleArp_inside_iff : AllInside (handleArp e p b method).acc ↔ ArpFits b method := by
  unfold handleArp ArpFits
  by_cases hpro : b.be 16 = 0x0800
  swap
  · simp only [if_pos (show b.be 16 ≠ 0x0800 from hpro), hpro, false_imp_iff, and_true,
      allInside_cons, allInside_nil, inside_acc, Nat.reduceAdd]
  simp only [hpro, ne_eq, not_true_eq_false, if_false, true_imp_iff]
  cases method with
  | check =>
      simp only [allInside_cons, inside_acc, allInside_nil, reduceCtorEq, false_imp_iff, and_true,
        Nat.reduceAdd]
  | insert =>
      simp only [true_imp_iff, reduceCtorEq, false_imp_iff, and_true, allInside_cons,
        allInside_nil, inside_acc]
      omega
  | lookup =>
      simp only [true_imp_iff, reduceCtorEq, false_imp_iff, true_and, allInside_cons,
        allInside_nil, allInside_append, inside_acc, and_true]
      by_cases hlen : 26 ≤ b.len
      · have hlookup := allInside_lookup (b := b) e p (nat25GenerateIpv4NetworkAddr
          (b.rd (22 + (b.get 18).toNat + ((b.get 18).toNat + (b.get 19).toNat)) 4)) (by omega)
        simp only [hlookup, and_true]
        omega
      · refine iff_of_false ?_ (by omega)
        omega

/-! ### PPPoE tags -/

lemma tagFrom_iff {type : ℕ} : TagFrom b type c x ↔
    x = c ∨ (c < b.be 18 ∧ b.be (20 + c) ≠ type ∧
      TagFrom b type (c + (4 + b.be (20 + c + 2))) x) := by
  constructor
  · intro h
    cases h with
    | here => exact .inl rfl
    | later hlt hne hrest => exact .inr ⟨hlt, hne, hrest⟩
  · rintro (rfl | ⟨hlt, hne, hrest⟩)
    · exact .here
    · exact .later hlt hne hrest

/-- All that the walk reads, if its passes are enough. -/
lemma findTagFrom_inside_iff {type : ℕ} (h20 : 20 ≤ b.len) (hk : b.be 18 < c + k) :
    AllInside (findTagFrom b type k c).2 ↔
      ∀ x, TagFrom b type c x → x < b.be 18 → 24 + x ≤ b.len := by
  induction k generalizing c with
  | zero =>
      refine iff_of_true allInside_nil fun x hx hlt => ?_
      rcases tagFrom_iff.1 hx with rfl | ⟨hc, -, -⟩ <;> omega
  | succ k ih =>
      rw [findTagFrom]
      by_cases hc : c < b.be 18
      swap
      · rw [if_neg hc]
        refine iff_of_true (by simpa using h20) fun x hx hlt => ?_
        rcases tagFrom_iff.1 hx with rfl | ⟨hc', -, -⟩
        · exact absurd hlt hc
        · exact absurd hc' hc
      rw [if_pos hc]
      by_cases htype : b.be (20 + c) = type
      · rw [if_pos htype]
        simp only [allInside_cons, allInside_nil, inside_acc, and_true]
        constructor
        · rintro ⟨-, -, hlen⟩ x hx -
          rcases tagFrom_iff.1 hx with rfl | ⟨-, hne, -⟩
          · omega
          · exact absurd htype hne
        · intro h
          have := h c .here hc
          omega
      · rw [if_neg htype]
        simp only [allInside_append, allInside_cons, allInside_nil, inside_acc, and_true]
        rw [ih (by omega)]
        constructor
        · rintro ⟨⟨-, -, hlen⟩, hrest⟩ x hx hlt
          rcases tagFrom_iff.1 hx with rfl | ⟨-, -, hx'⟩
          · omega
          · exact hrest x hx' hlt
        · intro h
          have := h c .here hc
          exact ⟨by omega, fun x hx => h x (.later hc htype hx)⟩

/-- A tag that is found is one of those that were looked at. -/
lemma findTagFrom_eq_some {type t : ℕ} (h : (findTagFrom b type k c).1 = some t) :
    ∃ x, t = 20 + x ∧ TagFrom b type c x ∧ x < b.be 18 ∧ b.be t = type := by
  induction k generalizing c with
  | zero => simp [findTagFrom] at h
  | succ k ih =>
      rw [findTagFrom] at h
      by_cases hc : c < b.be 18
      swap
      · simp [hc] at h
      rw [if_pos hc] at h
      by_cases htype : b.be (20 + c) = type
      · rw [if_pos htype] at h
        obtain rfl : 20 + c = t := by simpa using h
        exact ⟨c, rfl, .here, hc, htype⟩
      · rw [if_neg htype] at h
        obtain ⟨x, rfl, hx, hlt, hbe⟩ := ih h
        exact ⟨x, rfl, .later hc htype hx, hlt, hbe⟩

lemma nat25FindPppoeTag_inside_iff :
    AllInside (nat25FindPppoeTag b pttRelaySid).2 ↔ TagsFit b := by
  by_cases h20 : 20 ≤ b.len
  · rw [nat25FindPppoeTag, findTagFrom_inside_iff h20 (by omega), TagsFit]
    exact (and_iff_right h20).symm
  · refine iff_of_false ?_ fun h => h20 h.1
    rw [nat25FindPppoeTag, findTagFrom]
    intro h
    split at h
    · split at h <;> simp only [allInside_cons, allInside_append, inside_acc] at h <;> omega
    · simp only [allInside_cons, inside_acc] at h
      omega

/-- A tag that is found, in a frame in which the headers of the tags lie. -/
lemma TagsFit.found {t : ℕ} (h : TagsFit b) (ht : (nat25FindPppoeTag b pttRelaySid).1 = some t) :
    20 ≤ t ∧ t + 4 ≤ b.len ∧ b.be t = pttRelaySid := by
  obtain ⟨x, rfl, hx, hlt, hbe⟩ := findTagFrom_eq_some ht
  have := h.2 x hx hlt
  exact ⟨by omega, by omega, hbe⟩

/-! ### PPPoE frames -/

/-- Taking out a tag does not move what stands before it. -/
lemma skbPullAndMerge_be {b' : Skb} {src : ℕ} (h : skbPullAndMerge b src n = some b')
    (hi : i + 2 ≤ src) : b'.be i = b.be i := by
  rw [skbPullAndMerge] at h
  split at h
  · simp at h
  · obtain rfl := Option.some.inj h
    have hget {j : ℕ} (hj : j < src) :
        move b.mem (b.data + src) (b.data + (src + n)) (b.len - (src + n)) (b.data + j) =
          b.mem (b.data + j) := write_of_lt (by omega)
    simp only [Skb.be, be16]
    rw [hget (by omega), Nat.add_assoc b.data i 1, hget (by omega)]

lemma skbPullAndMerge_eq_some_iff {src : ℕ} :
    (∃ b', skbPullAndMerge b src n = some b') ↔ src + n ≤ b.len := by
  rw [skbPullAndMerge]
  split <;> simp <;> omega

lemma skbPullAndMerge_len {b' : Skb} {src : ℕ} (h : skbPullAndMerge b src n = some b') :
    b'.len = b.len - n ∧ b'.tailroom = b.tailroom + n := by
  rw [skbPullAndMerge] at h
  split at h
  · simp at h
  · obtain rfl := Option.some.inj h
    exact ⟨rfl, rfl⟩

@[simp] lemma be_wr_beBytes (b : Skb) (h : n < 65536) : (b.wr i (beBytes n)).be i = n := by
  have h0 : (b.wr i (beBytes n)).get i = UInt8.ofNat (n / 256) := by
    show write b.mem (b.data + i) (beBytes n) (b.data + i) = _
    rw [write_of_mem le_rfl (by simp [beBytes])]
    simp [beBytes]
  have h1 : (b.wr i (beBytes n)).get (i + 1) = UInt8.ofNat n := by
    show write b.mem (b.data + i) (beBytes n) (b.data + (i + 1)) = _
    rw [write_of_mem (by omega) (by simp [beBytes]; omega),
      show b.data + (i + 1) - (b.data + i) = 1 by omega]
    simp [beBytes]
  show 256 * ((b.wr i (beBytes n)).get i).toNat + ((b.wr i (beBytes n)).get (i + 1)).toNat = n
  rw [h0, h1, UInt8.toNat_ofNat', UInt8.toNat_ofNat']
  omega

/-- The size of the room for a tag, as `__nat25_add_pppoe_tag` computes it: the swapped length. -/
def swappedLen (old : ℕ) : ℕ := (8 + old) / 256 % 256 + 256 * ((8 + old) % 256) + 4

lemma fillTag_len (tagBuf : Mem) (client : List UInt8) (old : ℕ) :
    (fillTag tagBuf client old 2).toNat + 256 * (fillTag tagBuf client old 3).toNat + 4 =
      swappedLen old := by
  have h2 : fillTag tagBuf client old 2 = UInt8.ofNat ((8 + old) / 256) := by
    simp [fillTag, write, beBytes]
  have h3 : fillTag tagBuf client old 3 = UInt8.ofNat (8 + old) := by
    simp [fillTag, write, beBytes]
  rw [h2, h3, UInt8.toNat_ofNat', UInt8.toNat_ofNat', swappedLen]

/-- A tag is added where there is room; then all that the length covers is moved. -/
lemma nat25AddPppoeTag_inside_iff {tag : Mem} (h20 : 20 ≤ b.len)
    (hlen : (tag 2).toNat + 256 * (tag 3).toNat + 4 = k) :
    AllInside (nat25AddPppoeTag b tag).2 ↔ (k ≤ b.tailroom → 20 + b.be 18 ≤ b.len) := by
  rw [nat25AddPppoeTag, hlen]
  by_cases hroom : b.tailroom < k
  · simp only [if_pos hroom, allInside_nil, true_iff]
    omega
  · have hbe : (b.put k).be 18 = b.be 18 := rfl
    have hputlen : (b.put k).len = b.len + k := rfl
    simp only [if_neg hroom, allInside_cons, allInside_nil, inside_acc, hbe, hputlen, and_true]
    omega

/-- What is accessed where a relay tag is to be inserted. -/
lemma insertRelayTag_acc (e : Env) (p : Priv) (b : Skb) (acc : List Access) :
    (insertRelayTag e p b acc).acc =
      acc ++ (nat25FindPppoeTag b pttRelaySid).2 ++
        (takeOldTag b e.stack (nat25FindPppoeTag b pttRelaySid).1).2 ++
        match (takeOldTag b e.stack (nat25FindPppoeTag b pttRelaySid).1).1 with
        | none => []
        | some (b', tagBuf, old) =>
            b'.acc 6 6 :: (nat25AddPppoeTag b' (fillTag tagBuf (b'.rd 6 6) old)).2 := by
  rw [insertRelayTag]
  rcases (takeOldTag b e.stack (nat25FindPppoeTag b pttRelaySid).1).1 with _ | ⟨b', tagBuf, old⟩
  · simp
  · simp only
    split <;> simp

lemma insertRelayTag_inside_iff {acc : List Access} (hacc : AllInside acc) :
    AllInside (insertRelayTag e p b acc).acc ↔ RelayInsertFits b := by
  unfold RelayInsertFits
  rw [insertRelayTag_acc, allInside_append, allInside_append, allInside_append, and_assoc,
    and_assoc, and_iff_right hacc, nat25FindPppoeTag_inside_iff]
  refine and_congr_right fun htags => ?_
  have h20 := htags.1
  rcases hfound : (nat25FindPppoeTag b pttRelaySid).1 with _ | t
  · have hadd := nat25AddPppoeTag_inside_iff h20 (fillTag_len e.stack (b.rd 6 6) 0)
    rw [show swappedLen 0 = 2052 from rfl] at hadd
    simp only [takeOldTag, allInside_nil, allInside_cons, inside_acc, true_and, hadd,
      and_iff_right_iff_imp]
    omega
  obtain ⟨ht, hthdr, -⟩ := htags.found hfound
  simp only [takeOldTag]
  by_cases hlong : 40 < b.be (t + 2) + 4 + 2 + 6
  · simp only [if_pos hlong, allInside_cons, allInside_nil, inside_acc, and_true]
    exact iff_of_true (by omega) fun hold => absurd hold (by omega)
  simp only [if_neg hlong]
  rcases hpull : skbPullAndMerge b t (4 + b.be (t + 2)) with _ | b'
  · have hno : ¬ t + (4 + b.be (t + 2)) ≤ b.len := by
      rw [← skbPullAndMerge_eq_some_iff, hpull]
      simp
    simp only [allInside_cons, allInside_nil, inside_acc]
    omega
  simp only
  have hin : t + (4 + b.be (t + 2)) ≤ b.len := skbPullAndMerge_eq_some_iff.1 ⟨b', hpull⟩
  obtain ⟨hlen', hroom'⟩ := skbPullAndMerge_len hpull
  have hbe' : b'.be 18 = b.be 18 := skbPullAndMerge_be hpull ht
  have hmod : (b'.be 18 + (65536 - 4) + (65536 - b.be (t + 2))) % 65536 < 65536 :=
    Nat.mod_lt _ (by decide)
  set b₂ := b'.wr 18 (beBytes ((b'.be 18 + (65536 - 4) + (65536 - b.be (t + 2))) % 65536)) with hb₂
  have hlen₂ : b₂.len = b.len - (4 + b.be (t + 2)) := hlen'
  have hroom₂ : b₂.tailroom = b.tailroom + (4 + b.be (t + 2)) := hroom'
  have hbe₂ : b₂.be 18 = (b.be 18 + (65536 - 4) + (65536 - b.be (t + 2))) % 65536 := by
    rw [hb₂, be_wr_beBytes b' hmod, hbe']
  have hadd := nat25AddPppoeTag_inside_iff (by omega : 20 ≤ b₂.len)
    (fillTag_len (write e.stack 12 (b.rd (t + 4) (b.be (t + 2)))) (b₂.rd 6 6) (b.be (t + 2)))
  have hswap : swappedLen (b.be (t + 2)) = 256 * (8 + b.be (t + 2)) + 4 := by
    rw [swappedLen]
    omega
  rw [hswap, hroom₂, hbe₂, hlen₂] at hadd
  have hold : b.be (t + 2) ≤ 28 := by omega
  have hmac : 6 + 6 ≤ b₂.len := by omega
  have hhdr : 18 + 2 ≤ b'.len := by omega
  have hdata : t + 4 + b.be (t + 2) ≤ b.len := by omega
  have ht2 : t + 2 + 2 ≤ b.len := by omega
  simp only [allInside_append, allInside_cons, allInside_nil, inside_acc, hhdr, hdata, ht2, hmac,
    hold, hadd, and_true, true_and, true_imp_iff]

/-- Nothing but the tags is read of a PADO or PADS without a relay tag. -/
lemma lookupRelayTag_acc (p : Priv) (b : Skb) (acc : List Access) :
    ∃ l, (lookupRelayTag p b acc).acc = acc ++ (nat25FindPppoeTag b pttRelaySid).2 ++ l := by
  rw [lookupRelayTag]
  rcases (nat25FindPppoeTag b pttRelaySid).1 with _ | t
  · exact ⟨[], (List.append_nil _).symm⟩
  simp only
  split
  · exact ⟨_, rfl⟩
  split
  · exact ⟨_, List.append_assoc _ _ _⟩
  split
  · exact ⟨_, List.append_assoc _ _ _⟩
  · exact ⟨_, by rw [List.append_assoc, List.append_assoc]⟩

lemma lookupRelayTag_inside_iff {acc : List Access} (hacc : AllInside acc) :
    AllInside (lookupRelayTag p b acc).acc ↔ RelayLookupFits b := by
  unfold RelayLookupFits
  by_cases htags : TagsFit b
  swap
  · refine iff_of_false (fun h => htags ?_) fun h => htags h.1
    obtain ⟨l, hl⟩ := lookupRelayTag_acc p b acc
    rw [hl, allInside_append, allInside_append, nat25FindPppoeTag_inside_iff] at h
    exact h.1.2
  have hfind := nat25FindPppoeTag_inside_iff.2 htags
  rw [and_iff_right htags, lookupRelayTag]
  rcases hfound : (nat25FindPppoeTag b pttRelaySid).1 with _ | t
  · simp only [allInside_append, hacc, hfind, and_true, Option.mem_def, reduceCtorEq,
      false_imp_iff, implies_true]
  obtain ⟨ht, hthdr, htype⟩ := htags.found hfound
  simp only [Option.mem_def, Option.some.injEq, forall_eq']
  by_cases hshort : b.be (t + 2) < 8
  · rw [if_pos (.inr hshort)]
    simp only [allInside_append, allInside_cons, allInside_nil, inside_acc, hacc, hfind, hthdr,
      and_true, true_iff]
    omega
  rw [if_neg (by simp only [htype, ne_eq, not_true_eq_false, false_or]; exact hshort)]
  by_cases hmagic : b.be (t + 4) = magicCode
  swap
  · rw [if_pos hmagic]
    simp only [hmagic, allInside_append, allInside_cons, allInside_nil, inside_acc, hacc, hfind,
      hthdr, and_true, true_and, false_imp_iff]
    omega
  rw [if_neg (not_not.2 hmagic)]
  simp only [hmagic, true_imp_iff]
  set offset := if b.be (t + 2) > 2 + 6 then 4 else 0 with hoffset
  have hoff : offset = 0 ∨ offset = 4 := by
    rw [hoffset]
    split <;> simp
  have hlen₁ : (b.wr 0 (b.rd (t + 6) 6)).len = b.len := rfl
  rcases hpull : skbPullAndMerge (b.wr 0 (b.rd (t + 6) 6)) (t + offset) (4 + 2 + 6 - offset)
    with _ | b''
  · have hno : ¬ t + offset + (4 + 2 + 6 - offset) ≤ b.len := by
      rw [← hlen₁, ← skbPullAndMerge_eq_some_iff, hpull]
      simp
    simp only [allInside_append, allInside_cons, allInside_nil, inside_acc, hacc, hfind, hthdr,
      and_true, true_and]
    omega
  · have hin := skbPullAndMerge_eq_some_iff.1 ⟨b'', hpull⟩
    obtain ⟨hlen', -⟩ := skbPullAndMerge_len hpull
    rw [hlen₁] at hin hlen'
    have hif : AllInside (if offset > 0 then [b''.acc (t + 2) 2] else []) := by
      split
      · simp only [allInside_cons, allInside_nil, inside_acc, and_true]
        omega
      · exact allInside_nil
    simp only [allInside_append, allInside_cons, allInside_nil, inside_acc, hacc, hfind, hthdr,
      hif, and_true, true_and]
    omega

lemma handlePppoe_insert_inside_iff :
    AllInside (handlePppoe e p b .insert).acc ↔ PppoeFits p b .insert := by
  simp only [handlePppoe, PppoeFits]
  by_cases hsid : b.be 16 = 0
  swap
  · simp only [↓reduceIte, insertSession, hsid, false_imp_iff, and_true, allInside_append,
      allInside_cons, allInside_nil, inside_acc]
    omega
  by_cases hcode : b.get 15 = 0x09 ∨ b.get 15 = 0x19
  swap
  · simp only [hsid, ↓reduceIte, hcode, false_imp_iff, implies_true, and_true,
      allInside_cons, allInside_nil, inside_acc]
    omega
  simp only [hsid, hcode, ↓reduceIte, true_imp_iff]
  rcases Bool.eq_false_or_eq_true p.addPppoeTag with htag | htag
  · simp only [htag, ↓reduceIte, true_imp_iff]
    by_cases h18 : 18 ≤ b.len
    · have hacc : AllInside [b.acc 16 2, b.acc 15 1] := by
        simp only [allInside_cons, allInside_nil, inside_acc, and_true]
        omega
      rw [insertRelayTag_inside_iff hacc, and_iff_right h18]
    · refine iff_of_false ?_ fun h => h18 h.1
      rw [insertRelayTag_acc]
      simp only [allInside_append, allInside_cons, inside_acc]
      omega
  · simp only [htag, Bool.false_eq_true, ↓reduceIte, false_imp_iff, and_true, insertUntagged]
    split <;> simp only [allInside_append, allInside_cons, allInside_nil, inside_acc, and_true] <;>
      omega

lemma handlePppoe_lookup_inside_iff :
    AllInside (handlePppoe e p b .lookup).acc ↔ PppoeFits p b .lookup := by
  simp only [handlePppoe, PppoeFits]
  by_cases hcode : b.get 15 = 0x07 ∨ b.get 15 = 0x65
  swap
  · simp only [if_neg hcode]
    by_cases hsid : b.be 16 = 0
    · simp only [hsid, ne_eq, not_true_eq_false, ↓reduceIte, allInside_cons, allInside_nil,
        inside_acc, and_true]
      omega
    · simp only [ne_eq, hsid, not_false_eq_true, ↓reduceIte, allInside_append, allInside_cons,
        allInside_nil, inside_acc, and_true]
      by_cases h18 : 18 ≤ b.len
      · have hlookup := allInside_lookup (b := b) e p
          (nat25GeneratePppoeNetworkAddr (b.rd 6 6) (b.rd 16 2)) (by omega)
        simp only [hlookup, and_true]
        omega
      · refine iff_of_false ?_ h18
        omega
  simp only [if_pos hcode]
  rcases Bool.eq_false_or_eq_true p.addPppoeTag with htag | htag
  · simp only [htag, ↓reduceIte, true_imp_iff]
    by_cases h16 : 16 ≤ b.len
    · have hacc : AllInside [b.acc 15 1] := by
        simp only [allInside_cons, allInside_nil, inside_acc, and_true]
        omega
      rw [lookupRelayTag_inside_iff hacc, and_iff_right h16]
    · refine iff_of_false ?_ fun h => h16 h.1
      obtain ⟨l, hl⟩ := lookupRelayTag_acc p b [b.acc 15 1]
      rw [hl]
      simp only [allInside_append, allInside_cons, inside_acc]
      omega
  · simp only [htag, Bool.false_eq_true, ↓reduceIte, false_imp_iff, and_true]
    split
    · simp only [allInside_cons, allInside_nil, inside_acc, and_true, Nat.reduceAdd]
    · simp only [allInside_cons, allInside_nil, inside_acc, and_true]
      omega

lemma handlePppoe_inside_iff : AllInside (handlePppoe e p b method).acc ↔ PppoeFits p b method := by
  cases method with
  | check =>
      simp only [handlePppoe, PppoeFits, allInside_cons, allInside_nil, inside_acc, and_true,
        Nat.reduceAdd]
  | insert => exact handlePppoe_insert_inside_iff
  | lookup => exact handlePppoe_lookup_inside_iff

/-! ### IPv6 -/

/-- The offsets at which `scan_tlv` looks: up to the option that it finds. -/
def Scanned (m : Mem) (e' a : ℕ) (tag len8b : UInt8) (o : ℕ) : Prop :=
  OptionAt m e' a o ∧ ∀ o', OptionAt m e' a o' → o' < o → ¬ IsOption m e' tag len8b o'

lemma scanned_iff {m : Mem} {e' a o : ℕ} {tag len8b : UInt8} (hlt : a < e')
    (hne : m (a + 1) ≠ 0) : Scanned m e' a tag len8b o ↔
      o = a ∨ (¬ IsOption m e' tag len8b a ∧ Scanned m e' (stepOver m a) tag len8b o) := by
  have hpos : 0 < (m (a + 1)).toNat := Nat.pos_of_ne_zero fun h => hne (UInt8.toNat_inj.1 h)
  constructor
  · rintro ⟨ho, hbefore⟩
    rcases (optionAt_iff.1 ho).2 with rfl | hrest
    · exact .inl rfl
    · have hle : stepOver m a ≤ o := hrest.le
      refine .inr ⟨hbefore a (.here hlt) ?_, hrest, fun o' ho' => hbefore o' (.later hlt ho')⟩
      exact (show a < stepOver m a by simp only [stepOver]; omega).trans_le hle
  · rintro (rfl | ⟨hno, ho, hbefore⟩)
    · exact ⟨.here hlt, fun o' ho' ho'lt => absurd ho'.le (by omega)⟩
    · refine ⟨.later hlt ho, fun o' ho' ho'lt => ?_⟩
      rcases (optionAt_iff.1 ho').2 with rfl | hrest
      · exact hno
      · exact hbefore o' hrest ho'lt

/-- The passes that stay at an option all see the same. -/
lemma scanAccesses_stuck {tag len8b : UInt8} {s : ℕ × ℤ}
    (h : scanPass b.mem tag len8b s = .inr s) (k : ℕ) :
    ∀ x ∈ scanAccesses b b.mem tag len8b k s, x = b.acc (s.1 - b.data) 2 := by
  induction k with
  | zero => simp [scanAccesses]
  | succ k ih =>
      intro x hx
      rw [scanAccesses] at hx
      split at hx
      · rw [h] at hx
        rcases List.mem_cons.1 hx with rfl | hx
        · rfl
        · exact ih x hx
      · simp at hx

/-- All that is seen of the options lies inside the frame. -/
lemma scanAccesses_inside_iff {a : ℕ} {tag : UInt8} (hdata : b.data ≤ a) :
    (∀ k, AllInside (scanAccesses b b.mem tag 1 k (a, ((b.data + b.len : ℕ) : ℤ) - a))) ↔
      ∀ o, Scanned b.mem (b.data + b.len) a tag 1 o → o + 1 ≠ b.data + b.len := by
  generalize hn : b.data + b.len - a = n
  induction n using Nat.strongRecOn generalizing a with
  | ind n ih =>
      rcases Nat.lt_or_ge a (b.data + b.len) with hlt | hle
      swap
      · refine iff_of_true (fun k => ?_) fun o ho => absurd ho.1.lt (by omega)
        cases k with
        | zero => exact allInside_nil
        | succ k =>
            rw [scanAccesses, if_neg (by simp only; omega)]
            exact allInside_nil
      have hhead (k : ℕ) : scanAccesses b b.mem tag 1 (k + 1)
          (a, ((b.data + b.len : ℕ) : ℤ) - a) = b.acc (a - b.data) 2 ::
            (scanPass b.mem tag 1 (a, ((b.data + b.len : ℕ) : ℤ) - a)).elim (fun _ => [])
              (scanAccesses b b.mem tag 1 k) := by
        rw [scanAccesses, if_pos (by simp only; omega)]
        rcases scanPass b.mem tag 1 (a, ((b.data + b.len : ℕ) : ℤ) - a) with _ | s' <;> rfl
      have hinside : (b.acc (a - b.data) 2).Inside ↔ a + 1 ≠ b.data + b.len := by
        rw [inside_acc]
        omega
      by_cases ho : IsOption b.mem (b.data + b.len) tag 1 a
      · -- the search ends here
        have hpass := scanPass_of_isOption hlt ho
        have hwhole : a + 8 ≤ b.data + b.len := ho.2.2
        simp only [hpass, Sum.elim_inl] at hhead
        constructor
        · intro _ o hs
          obtain rfl : o = a := by
            by_contra hne
            exact hs.2 a (.here hlt) (lt_of_le_of_ne hs.1.le (Ne.symm hne)) ho
          omega
        · intro h k
          cases k with
          | zero => exact allInside_nil
          | succ k =>
              rw [hhead, allInside_cons, hinside]
              exact ⟨by omega, allInside_nil⟩
      have hpass := scanPass_of_not_isOption hlt ho
      by_cases hzero : b.mem (a + 1) = 0
      · -- it stays here
        have hstep : stepOver b.mem a = a := by simp [stepOver, hzero]
        rw [hstep] at hpass
        have honly (o : ℕ) (hs : Scanned b.mem (b.data + b.len) a tag 1 o) : o = a :=
          le_antisymm ((OptionAt.here hlt).le_of_stall hzero hs.1) hs.1.le
        constructor
        · intro h o hs
          rw [honly o hs, ← hinside]
          have h1 := h 1
          rw [hhead 0, allInside_cons] at h1
          exact h1.1
        · intro h k x hx
          rw [scanAccesses_stuck hpass k x hx, hinside]
          exact h a ⟨.here hlt, fun o' ho' ho'lt => absurd ho'.le (by omega)⟩
      · have hpos : 0 < (b.mem (a + 1)).toNat :=
          Nat.pos_of_ne_zero fun h => hzero (UInt8.toNat_inj.1 h)
        have hrest := ih (b.data + b.len - stepOver b.mem a) (by simp only [stepOver]; omega)
          (by simp only [stepOver]; omega) rfl
        simp only [hpass, Sum.elim_inr] at hhead
        constructor
        · intro h o hs
          have hall (k : ℕ) := h (k + 1)
          simp only [hhead, allInside_cons, hinside] at hall
          rcases (scanned_iff hlt hzero).1 hs with rfl | ⟨-, hs'⟩
          · exact (hall 0).1
          · exact hrest.1 (fun k => (hall k).2) o hs'
        · intro h k
          cases k with
          | zero => exact allInside_nil
          | succ k =>
              rw [hhead, allInside_cons, hinside]
              refine ⟨h a ((scanned_iff hlt hzero).2 (.inl rfl)), ?_⟩
              exact hrest.2 (fun o hs => h o ((scanned_iff hlt hzero).2 (.inr ⟨ho, hs⟩))) k

/-- The update of a Neighbour Discovery message, in a frame that is long enough for its type. -/
lemma updateNd_inside_iff {acc : List Access} (hacc : AllInside acc) (hlen : 58 < b.len) :
    (∀ fuel, AllInside (updateNd { e with fuel := fuel } p b acc).acc) ↔ NdFits b := by
  have hsplit (fuel : ℕ) : AllInside (updateNd { e with fuel := fuel } p b acc).acc ↔
      AllInside (updateNdAccesses b fuel) := by
    rw [updateNd]
    split <;>
      simp only [allInside_append, allInside_cons, allInside_nil, inside_acc, hacc, and_true,
        true_and, and_iff_left_iff_imp]
    omega
  simp only [hsplit, updateNdAccesses, allInside_cons, inside_acc]
  have h54 : 54 + 1 ≤ b.len := by omega
  simp only [h54, true_and]
  rcases hnd : ndOptions (b.get 54) with _ | ⟨hdr, tag⟩
  · refine iff_of_true (fun _ => allInside_nil) fun hdr tag hnd' => ?_
    simp [hnd] at hnd'
  have hfits : NdFits b ↔ ((hdr : ℤ) ≤ (b.len : ℤ) - 54 →
      ∀ o, Scanned b.mem (b.data + b.len) (b.data + 54 + hdr) tag 1 o →
        o + 1 ≠ b.data + b.len) := by
    constructor
    · intro h hhdr o ho
      exact h hdr tag hnd hhdr o ho.1 ho.2
    · intro h hdr' tag' hnd' hhdr o ho hbefore
      obtain ⟨rfl, rfl⟩ : hdr = hdr' ∧ tag = tag' := by simpa [hnd] using hnd'
      exact h hhdr o ⟨ho, hbefore⟩
  rw [hfits]
  by_cases hhdr : (hdr : ℤ) ≤ (b.len : ℤ) - 54
  swap
  · refine iff_of_true (fun fuel => ?_) fun h => absurd h hhdr
    simp only [hhdr, ↓reduceIte, allInside_nil]
  have hcast : (b.len : ℤ) - 54 - hdr = ((b.data + b.len : ℕ) : ℤ) - (b.data + 54 + hdr : ℕ) := by
    omega
  simp only [hhdr, ↓reduceIte, true_imp_iff, allInside_append, hcast]
  rw [← scanAccesses_inside_iff (by omega)]
  -- the address that is found lies in an option
  have hmac (k mac : ℕ) (hscan : scanTlv b.mem (b.data + 54 + hdr)
      (((b.data + b.len : ℕ) : ℤ) - (b.data + 54 + hdr : ℕ)) tag 1 k = some (some mac)) :
      (b.acc (mac - b.data) 6).Inside := by
    obtain ⟨o, rfl, ho⟩ := (returns_scanTlv b.mem (b.data + 54 + hdr)
      (((b.data + b.len : ℕ) : ℤ) - (b.data + 54 + hdr : ℕ)) tag 1).2 k _ hscan
    have hwhole := ho.isOption.2.2
    have hle := ho.optionAt.le
    have h8 : (1 : UInt8).toNat * 8 = 8 := rfl
    rw [inside_acc]
    omega
  refine forall_congr' fun k => and_iff_left ?_
  split
  · next mac hscan => simpa using hmac k mac hscan
  · exact allInside_nil

lemma handleIpv6_inside_iff :
    (∀ fuel, AllInside (handleIpv6 { e with fuel := fuel } p b method).acc) ↔
      Ipv6Fits b method := by
  unfold Ipv6Fits
  by_cases hshort : (b.len + (2 ^ 32 - 14)) % 2 ^ 32 ≤ 40
  · refine iff_of_true (fun fuel => ?_) fun h => absurd h (by omega)
    rw [handleIpv6.eq_def, if_pos hshort]
    exact allInside_nil
  have hlong : 40 < (b.len + (2 ^ 32 - 14)) % 2 ^ 32 := Nat.not_le.1 hshort
  simp only [handleIpv6.eq_def, if_neg hshort, hlong, true_imp_iff]
  cases method with
  | check =>
      simp only [allInside_cons, allInside_nil, inside_acc, and_true, Nat.zero_add, forall_const]
  | lookup =>
      simp only [allInside_cons, inside_acc]
      by_cases h54 : 54 ≤ b.len
      · refine iff_of_true (fun fuel => ⟨by omega, ?_⟩) h54
        exact allInside_lookup _ p _ (by omega)
      · exact iff_of_false (fun h => absurd (h 0).1 (by omega)) h54
  | insert =>
      by_cases hzero : b.rd 22 16 = List.replicate 16 0
      · simp only [if_pos hzero, allInside_cons, allInside_nil, inside_acc, and_true, forall_const]
        exact ⟨fun h => ⟨h, fun hne => absurd hzero hne⟩, fun h => h.1⟩
      simp only [if_neg hzero]
      by_cases hnd : b.get 20 = 58 ∧ 14 + 40 + 4 < b.len
      · have hacc : AllInside [b.acc 22 16, b.acc 6 6, b.acc 20 1] := by
          simp only [allInside_cons, allInside_nil, inside_acc, and_true]
          omega
        simp only [if_pos hnd]
        refine Iff.trans (updateNd_inside_iff (p := nat25DbNetworkInsert e p (b.mac 6)
          (nat25GenerateIpv6NetworkAddr (b.rd 22 16))) hacc hnd.2) ?_
        exact ⟨fun h => ⟨by omega, fun _ _ _ => h⟩, fun h => h.2 hzero hnd.1 hnd.2⟩
      · simp only [if_neg hnd, allInside_cons, allInside_nil, inside_acc, and_true, forall_const]
        constructor
        · intro h
          exact ⟨h.1, fun _ h20 h58 => absurd ⟨h20, h58⟩ hnd⟩
        · rintro ⟨h38, -⟩
          omega

/-- Exactly when all that `nat25_db_handle` touches lies inside the frame. -/
theorem nat25DbHandle_inside_iff (e : Env) (p : Priv) (b : Skb) (method : Method) :
    (∀ fuel, AllInside (nat25DbHandle { e with fuel := fuel } p b method).acc) ↔
      FrameFits p b method := by
  unfold nat25DbHandle FrameFits
  by_cases hip : b.be 12 = 0x0800
  · simp only [if_pos hip]
    exact ⟨fun h => handleIp_inside_iff.1 (h 0), fun h _ => handleIp_inside_iff.2 h⟩
  by_cases harp : b.be 12 = 0x0806
  · simp only [if_neg hip, if_pos harp]
    exact ⟨fun h => handleArp_inside_iff.1 (h 0), fun h _ => handleArp_inside_iff.2 h⟩
  by_cases hppp : b.be 12 = 0x8863 ∨ b.be 12 = 0x8864
  · simp only [if_neg hip, if_neg harp, if_pos hppp]
    exact ⟨fun h => handlePppoe_inside_iff.1 (h 0), fun h _ => handlePppoe_inside_iff.2 h⟩
  by_cases hipv6 : b.be 12 = 0x86dd
  · have heap : ¬ b.be 12 = 0x888e := by omega
    have hcmedia : ¬ (b.be 12 = 0xe2ae ∨ b.be 12 = 0xe2af) := by omega
    simp only [if_neg hip, if_neg harp, if_neg hppp, if_neg heap, if_neg hcmedia, if_pos hipv6]
    exact handleIpv6_inside_iff
  · simp only [if_neg hip, if_neg harp, if_neg hppp, if_neg hipv6, iff_true]
    intro fuel
    split
    · exact allInside_nil
    · split <;> exact allInside_nil

/-- An ARP request of 42 bytes whose hardware addresses are to have 255. -/
def longArp : Skb where
  mem
    | 12 => 0x08
    | 13 => 0x06
    | 16 => 0x08
    | 18 => 255
    | 19 => 4
    | _ => 0
  data := 0
  len := 42
  tailroom := 0

/-- Its addresses are looked for far behind it. -/
theorem arp_read_outside : ¬ ∀ fuel, AllInside
    (nat25DbHandle ⟨true, fun _ => false, fun _ => 0, fuel⟩
    (freshPriv (MacAddr.ofBytes 2 0 0 0 0 9)) longArp .lookup).acc := by
  intro h
  exact absurd (h 0) (by decide)

end Rtl8723du.BrExt
