import Rtl8723du.Bridge.Bounds

/-!
# The relay tag of PPPoE discovery

A PADI or PADR of a client is to get a Relay-Session-Id tag with the address of the client, into
which an own tag of this type is merged; the PADO or PADS that echoes it goes to that client, with
the tag as it was.  `__nat25_add_pppoe_tag` takes the length of the tag from the tag itself, where
it is in network order: on a little-endian CPU it makes room for 2052 bytes or more.  There mostly
is no such room, and then the frame stays as it is unless its own tag has been taken out already.
-/

namespace Rtl8723du.BrExt

open Lib Lib.Memory

/-! ### Tags -/

/-- A tag of a discovery frame. -/
structure Tag where
  type : ℕ
  data : List UInt8
  type_lt : type < 65536
  data_lt : data.length < 65536

/-- A tag as it lies in the frame. -/
def Tag.enc (t : Tag) : List UInt8 := beBytes t.type ++ beBytes t.data.length ++ t.data

/-- The tags one behind the other. -/
def encTags (tags : List Tag) : List UInt8 := tags.flatMap Tag.enc

/-- The type is that of a Relay-Session-Id tag. -/
def Tag.IsRelay (t : Tag) : Prop := t.type = pttRelaySid

instance (t : Tag) : Decidable t.IsRelay := inferInstanceAs (Decidable (_ = _))

/-- The own relay tag of a client. -/
def ownTag (tags : List Tag) : Option Tag := tags.find? fun t => t.IsRelay

/-- The tags besides that. -/
def otherTags (tags : List Tag) : List Tag := tags.eraseP fun t => t.IsRelay

/-- The relay tag for a client, with the data of its own one. -/
def relayTag (client : List UInt8) (own : Option Tag) : List UInt8 :=
  let data := beBytes magicCode ++ client ++ (own.map Tag.data).getD []
  beBytes pttRelaySid ++ beBytes data.length ++ data

/-- The bytes stand in the frame at an offset. -/
def Skb.Has (b : Skb) (i : ℕ) (l : List UInt8) : Prop := b.rd i l.length = l

/-- The tags of a frame, and nothing else, are covered by its length field. -/
structure HasTags (b : Skb) (l : List UInt8) : Prop where
  ethType : b.be 12 = 0x8863
  length : b.be 18 = l.length
  tags : b.Has 20 l
  inside : 20 + l.length ≤ b.len

/-- A PADI or PADR of a client. -/
structure Padx (b : Skb) (tags : List Tag) : Prop extends HasTags b (encTags tags) where
  sid : b.be 16 = 0
  code : b.get 15 = 0x09 ∨ b.get 15 = 0x19

/-! ### What is to happen -/

/-- A PADO or PADS that echoes a relay tag goes to the client, with the client's own tag. -/
def Restores (e : Env) (p : Priv) (client : List UInt8) (own : Option Tag) : Prop :=
  ∀ b pre post, (b.get 15 = 0x07 ∨ b.get 15 = 0x65) → (∀ t ∈ pre, ¬ t.IsRelay) →
    HasTags b (encTags pre ++ relayTag client own ++ encTags post) →
      (nat25DbHandle e p b .lookup).ret = some 0 ∧
        (nat25DbHandle e p b .lookup).skb.rd 0 6 = client ∧
        HasTags (nat25DbHandle e p b .lookup).skb (encTags (pre ++ own.toList ++ post))

/-- An insertion that fails leaves the frame as it was; one that succeeds puts the relay tag in
front of the other tags, and the reply to it is restored. -/
structure RelayOk (e : Env) (p : Priv) (b : Skb) (tags : List Tag) : Prop where
  fails : (nat25DbHandle e p b .insert).ret = some (-1) →
    (nat25DbHandle e p b .insert).skb.bytes = b.bytes
  inserted : (nat25DbHandle e p b .insert).ret = some 0 →
    HasTags (nat25DbHandle e p b .insert).skb
      (relayTag (b.rd 6 6) (ownTag tags) ++ encTags (otherTags tags))
  restores : (nat25DbHandle e p b .insert).ret = some 0 →
    Restores e (nat25DbHandle e p b .insert).priv (b.rd 6 6) (ownTag tags)

/-- The insertion fails before it has changed anything: the own tag is too long, or there is none
and no room for 2052 bytes. -/
def FailsAtOnce (b : Skb) (tags : List Tag) : Prop :=
  match ownTag tags with
  | some own => 28 < own.data.length
  | none => b.tailroom < 2052

/-! ### Bytes and fields -/

variable {e : Env} {p : Priv} {b : Skb} {tags pre post : List Tag} {own : Tag} {i c k n : ℕ}
  {l l' : List UInt8}

lemma Skb.has_append : b.Has i (l ++ l') ↔ b.Has i l ∧ b.Has (i + l.length) l' := by
  rw [Skb.Has, Skb.Has, Skb.Has, List.length_append, Skb.rd_add]
  constructor
  · exact fun h => List.append_inj h (by simp [Skb.rd])
  · rintro ⟨h, h'⟩
    rw [h, h']

lemma Skb.Has.get {x : UInt8} (h : b.Has i (x :: l)) : b.get i = x := by
  have hhead : (b.rd i (x :: l).length).head? = some x := by
    rw [h]
    rfl
  simpa [Skb.rd, readBytes, Skb.get, List.range_succ_eq_map] using hhead

lemma Skb.Has.be (h : b.Has i (beBytes n)) : b.be i = n % 65536 := by
  have h' : b.Has i ([UInt8.ofNat (n / 256)] ++ [UInt8.ofNat n]) := h
  obtain ⟨h0, h1⟩ := Skb.has_append.1 h'
  have hget0 : b.get i = UInt8.ofNat (n / 256) := h0.get
  have hget1 : b.get (i + 1) = UInt8.ofNat n := h1.get
  show 256 * (b.get i).toNat + (b.get (i + 1)).toNat = _
  rw [hget0, hget1, UInt8.toNat_ofNat', UInt8.toNat_ofNat']
  omega

@[simp] lemma length_beBytes (n : ℕ) : (beBytes n).length = 2 := rfl

lemma length_enc (t : Tag) : t.enc.length = 4 + t.data.length := by
  simp [Tag.enc]
  omega

@[simp] lemma encTags_append : encTags (pre ++ post) = encTags pre ++ encTags post := by
  simp [encTags]

@[simp] lemma encTags_cons : encTags (own :: post) = own.enc ++ encTags post := by
  simp [encTags]

/-- The header of a tag. -/
lemma Skb.Has.tag (h : b.Has i own.enc) : b.be i = own.type ∧ b.be (i + 2) = own.data.length := by
  rw [Tag.enc, Skb.has_append, Skb.has_append] at h
  have htype := h.1.1.be
  have hlen := h.1.2.be
  rw [Nat.mod_eq_of_lt own.type_lt] at htype
  rw [Nat.mod_eq_of_lt own.data_lt] at hlen
  exact ⟨htype, hlen⟩

/-! ### The walk over the tags -/

/-- The walk goes over tags of other types. -/
lemma findTagFrom_skip {type : ℕ} (hpre : ∀ t ∈ pre, t.type ≠ type)
    (h : b.Has (20 + c) (encTags pre)) (hlen : c + (encTags pre).length ≤ b.be 18) :
    (findTagFrom b type (pre.length + k) c).1 =
      (findTagFrom b type k (c + (encTags pre).length)).1 := by
  induction pre generalizing c with
  | nil => simp [encTags]
  | cons t pre ih =>
      rw [encTags_cons, Skb.has_append] at h
      rw [encTags_cons, List.length_append, length_enc] at hlen
      obtain ⟨htype, hdata⟩ := h.1.tag
      have hne : b.be (20 + c) ≠ type := by
        rw [htype]
        exact hpre t (by simp)
      have hstep : c + (4 + b.be (20 + c + 2)) = c + t.enc.length := by
        rw [hdata, length_enc]
      rw [List.length_cons, show pre.length + 1 + k = pre.length + k + 1 by omega, findTagFrom,
        if_pos (by omega), if_neg hne, hstep]
      show (findTagFrom b type (pre.length + k) (c + t.enc.length)).1 = _
      rw [ih (fun t' ht' => hpre t' (by simp [ht']))
        (by rw [← Nat.add_assoc]; exact h.2) (by rw [length_enc]; omega), encTags_cons,
        List.length_append, Nat.add_assoc]

lemma length_le_encTags (tags : List Tag) : tags.length ≤ (encTags tags).length := by
  induction tags with
  | nil => simp
  | cons t tags ih =>
      rw [encTags_cons, List.length_append, length_enc, List.length_cons]
      omega

/-- A frame without a relay tag. -/
lemma HasTags.find_none (h : HasTags b (encTags tags)) (hno : ∀ t ∈ tags, ¬ t.IsRelay) :
    (nat25FindPppoeTag b pttRelaySid).1 = none := by
  obtain ⟨k, hk⟩ : ∃ k, b.be 18 + 1 = tags.length + (k + 1) :=
    ⟨b.be 18 - tags.length, by
      have := length_le_encTags tags
      have := h.length
      omega⟩
  rw [nat25FindPppoeTag, hk, findTagFrom_skip hno h.tags (by rw [h.length]; omega), findTagFrom,
    if_neg (by rw [h.length]; omega)]

/-- The first relay tag of a frame, behind tags of other types. -/
lemma HasTags.find_some (h : HasTags b (encTags pre ++ l ++ l')) (hpre : ∀ t ∈ pre, ¬ t.IsRelay)
    (hl : b.be (20 + (encTags pre).length) = pttRelaySid) (hpos : 0 < l.length) :
    (nat25FindPppoeTag b pttRelaySid).1 = some (20 + (encTags pre).length) := by
  have hlen : b.be 18 = (encTags pre).length + l.length + l'.length := by
    rw [h.length, List.length_append, List.length_append]
  obtain ⟨k, hk⟩ : ∃ k, b.be 18 + 1 = pre.length + (k + 1) :=
    ⟨b.be 18 - pre.length, by
      have := length_le_encTags pre
      omega⟩
  have hhas := h.tags
  rw [Skb.has_append, Skb.has_append] at hhas
  rw [nat25FindPppoeTag, hk, findTagFrom_skip hpre hhas.1.1 (by omega), Nat.zero_add, findTagFrom,
    if_pos (by omega), if_pos hl]


/-! ### Which own tag there is -/

lemma ownTag_eq_none_iff : ownTag tags = none ↔ ∀ t ∈ tags, ¬ t.IsRelay := by
  simp [ownTag, List.find?_eq_none]

lemma ownTag_eq_some (h : ownTag tags = some own) :
    own.IsRelay ∧ ∃ pre post, tags = pre ++ own :: post ∧ ∀ t ∈ pre, ¬ t.IsRelay := by
  rw [ownTag, List.find?_eq_some_iff_append] at h
  obtain ⟨hown, pre, post, rfl, hpre⟩ := h
  exact ⟨by simpa using hown, pre, post, rfl, fun t ht => by simpa using hpre t ht⟩

/-- The other tags together with the own one are as long as all tags. -/
lemma length_otherTags (h : ownTag tags = some own) :
    (encTags (otherTags tags)).length + (4 + own.data.length) = (encTags tags).length := by
  obtain ⟨hown, pre, post, rfl, hpre⟩ := ownTag_eq_some h
  have hothers : otherTags (pre ++ own :: post) = pre ++ post := by
    rw [otherTags, List.eraseP_append_right _ (by simpa using hpre), List.eraseP_cons_of_pos]
    simpa using hown
  rw [hothers, encTags_append, encTags_append, encTags_cons]
  simp only [List.length_append, length_enc]
  omega

lemma length_relayTag (client : List UInt8) (own : Option Tag) (h : client.length = 6) :
    (relayTag client own).length = 12 + ((own.map Tag.data).getD []).length := by
  simp only [relayTag, List.length_append, length_beBytes, h]
  omega

/-! ### Insertion -/

lemma Skb.be_lt (b : Skb) (i : ℕ) : b.be i < 65536 := by
  have h0 := (b.get i).toNat_lt
  have h1 := (b.get (i + 1)).toNat_lt
  show 256 * (b.get i).toNat + (b.get (i + 1)).toNat < _
  omega

lemma Padx.insert_eq (h : Padx b tags) (hp : p.addPppoeTag = true) :
    nat25DbHandle e p b .insert = insertRelayTag e p b [b.acc 16 2, b.acc 15 1] := by
  rw [nat25DbHandle]
  simp only [h.ethType, Nat.reduceEqDiff, if_false, true_or, if_true]
  rw [handlePppoe]
  simp only [h.sid, if_true, h.code, hp]

/-- A tag that is added: the length is wrong by what the swapped length is. -/
lemma nat25AddPppoeTag_be {tag : Mem} {b' : Skb}
    (hlen : (tag 2).toNat + 256 * (tag 3).toNat + 4 = k)
    (h : (nat25AddPppoeTag b tag).1 = some b') : b'.be 18 = (b.be 18 + k) % 65536 := by
  rw [nat25AddPppoeTag, hlen] at h
  by_cases hroom : b.tailroom < k
  · simp [hroom] at h
  simp only [if_neg hroom, Option.some.injEq] at h
  rw [← h, Skb.be_wr_of_ne (.inl le_rfl)]
  exact Skb.Has.be (Skb.rd_wr _ 18 (beBytes (b.be 18 + k)))

lemma nat25AddPppoeTag_eq_none_iff {tag : Mem}
    (hlen : (tag 2).toNat + 256 * (tag 3).toNat + 4 = k) :
    (nat25AddPppoeTag b tag).1 = none ↔ b.tailroom < k := by
  rw [nat25AddPppoeTag, hlen]
  by_cases hroom : b.tailroom < k
  · simp [hroom]
  · simp [hroom]

lemma nat25AddPppoeTag_spec {tag : Mem} (hlen : (tag 2).toNat + 256 * (tag 3).toNat + 4 = k) :
    (b.tailroom < k ∧ (nat25AddPppoeTag b tag).1 = none) ∨
      ∃ b', k ≤ b.tailroom ∧ (nat25AddPppoeTag b tag).1 = some b' ∧
        b'.be 18 = (b.be 18 + k) % 65536 := by
  have hnone := nat25AddPppoeTag_eq_none_iff (b := b) hlen
  rcases hadd : (nat25AddPppoeTag b tag).1 with _ | b'
  · exact .inl ⟨hnone.1 hadd, rfl⟩
  · refine .inr ⟨b', ?_, rfl, nat25AddPppoeTag_be hlen hadd⟩
    rw [hadd] at hnone
    simpa using hnone

/-- What an insertion leaves that has not failed at once is not what it should leave. -/
lemma RelayOk.length_eq (h : RelayOk e p b tags) (hb : HasTags b (encTags tags))
    (hret : (nat25DbHandle e p b .insert).ret = some 0) :
    (nat25DbHandle e p b .insert).skb.be 18 =
      b.be 18 + 12 - (if (ownTag tags).isSome then 4 else 0) := by
  have hclient : (b.rd 6 6).length = 6 := by simp [Skb.rd]
  rw [(h.inserted hret).length, List.length_append, length_relayTag _ _ hclient, hb.length]
  rcases hown : ownTag tags with _ | own
  · have hothers : otherTags tags = tags := List.eraseP_of_forall_not (by
      simpa using ownTag_eq_none_iff.1 hown)
    simp only [hothers, Option.map_none, Option.getD_none, List.length_nil, Option.isSome_none,
      Bool.false_eq_true, if_false]
    omega
  · have := length_otherTags hown
    simp only [Option.map_some, Option.getD_some, Option.isSome_some, if_true]
    omega

/-! ### Frames without and with an own tag -/

/-- Without an own tag the insertion fails at once, or the length is off by 2040. -/
lemma Padx.insert_none (h : Padx b tags) (hp : p.addPppoeTag = true) (hown : ownTag tags = none)
    (e : Env) :
    let r := nat25DbHandle e p b .insert
    (b.tailroom < 2052 ∧ r.ret = some (-1) ∧ r.skb = b) ∨
      (2052 ≤ b.tailroom ∧ r.ret = some 0 ∧ r.skb.be 18 = (b.be 18 + 2052) % 65536) := by
  have hfind := h.toHasTags.find_none (ownTag_eq_none_iff.1 hown)
  simp only [h.insert_eq hp, insertRelayTag, hfind, takeOldTag]
  rcases nat25AddPppoeTag_spec (b := b) (fillTag_len e.stack (b.rd 6 6) 0) with
    ⟨hroom, hadd⟩ | ⟨b', hroom, hadd, hbe⟩
  · rw [hadd]
    exact .inl ⟨hroom, rfl, rfl⟩
  · rw [hadd]
    exact .inr ⟨hroom, rfl, hbe⟩

/-- Where the walk finds the own tag. -/
lemma HasTags.find_own (h : HasTags b (encTags tags)) (hown : ownTag tags = some own) :
    ∃ t, (nat25FindPppoeTag b pttRelaySid).1 = some t ∧ 20 ≤ t ∧ b.be (t + 2) = own.data.length ∧
      t + (4 + own.data.length) ≤ b.len ∧ 4 + own.data.length ≤ b.be 18 := by
  obtain ⟨hrelay, pre, post, rfl, hpre⟩ := ownTag_eq_some hown
  rw [encTags_append, encTags_cons, ← List.append_assoc] at h
  have hhas := h.tags
  have hlen := h.length
  have hinside := h.inside
  rw [Skb.has_append, Skb.has_append] at hhas
  obtain ⟨htype, hdata⟩ := hhas.1.2.tag
  rw [List.length_append, List.length_append, length_enc] at hlen hinside
  exact ⟨20 + (encTags pre).length, h.find_some hpre (htype.trans hrelay) (by simp [length_enc]),
    by omega, hdata, by omega, by omega⟩

/-- An own tag that is too long is left alone. -/
lemma Padx.insert_long (h : Padx b tags) (hp : p.addPppoeTag = true) (hown : ownTag tags = some own)
    (hlong : 28 < own.data.length) (e : Env) :
    (nat25DbHandle e p b .insert).ret = some (-1) ∧ (nat25DbHandle e p b .insert).skb = b := by
  obtain ⟨t, hfind, -, hdata, -, -⟩ := h.toHasTags.find_own hown
  have htake : 40 < own.data.length + 4 + 2 + 6 := by omega
  simp only [h.insert_eq hp, insertRelayTag, hfind, takeOldTag, hdata, htake, if_true, true_and]

/-- An own tag that is taken out: then the insertion fails, or the length is wrong. -/
lemma Padx.insert_short (h : Padx b tags) (hp : p.addPppoeTag = true)
    (hown : ownTag tags = some own) (hshort : own.data.length ≤ 28) (e : Env) :
    let r := nat25DbHandle e p b .insert
    (r.ret = some (-1) ∧ r.skb.len + (4 + own.data.length) = b.len) ∨
      (r.ret = some 0 ∧ r.skb.be 18 =
        (b.be 18 - (4 + own.data.length) + (256 * (8 + own.data.length) + 4)) % 65536) := by
  obtain ⟨t, hfind, ht, hdata, hin, hbe18⟩ := h.toHasTags.find_own hown
  obtain ⟨b₁, hpull⟩ := (skbPullAndMerge_eq_some_iff (b := b)).2 hin
  have hnot : ¬ 40 < own.data.length + 4 + 2 + 6 := by omega
  have hlt := b.be_lt 18
  have hlength : (b₁.be 18 + (65536 - 4) + (65536 - own.data.length)) % 65536 =
      b.be 18 - (4 + own.data.length) := by
    rw [skbPullAndMerge_be hpull ht]
    omega
  have hswap : swappedLen own.data.length = 256 * (8 + own.data.length) + 4 := by
    rw [swappedLen]
    omega
  simp only [h.insert_eq hp, insertRelayTag, hfind, takeOldTag, hdata, hnot, if_false, hpull,
    hlength]
  set b₂ := b₁.wr 18 (beBytes (b.be 18 - (4 + own.data.length))) with hb₂
  have hbe₂ : b₂.be 18 = b.be 18 - (4 + own.data.length) := by
    rw [hb₂, be_wr_beBytes _ (by omega)]
  have hlen₂ : b₂.len = b.len - (4 + own.data.length) := (skbPullAndMerge_len hpull).1
  rcases nat25AddPppoeTag_spec (b := b₂) (fillTag_len
      (write e.stack 12 (b.rd (t + 4) own.data.length)) (b₂.rd 6 6) own.data.length) with
    ⟨-, hadd⟩ | ⟨b', -, hadd, hbe⟩
  · rw [hadd]
    exact .inl ⟨rfl, by show b₂.len + _ = _; omega⟩
  · rw [hadd]
    exact .inr ⟨rfl, by show b'.be 18 = _; rw [hbe, hbe₂, hswap]⟩

/-! ### The result -/

/-- The relay tag of a client is inserted and taken out as it should be, or the frame left alone,
exactly where the insertion fails at once. -/
theorem relayOk_iff_failsAtOnce (e : Env) (p : Priv) (b : Skb) (tags : List Tag) (h : Padx b tags)
    (hp : p.addPppoeTag = true) : RelayOk e p b tags ↔ FailsAtOnce b tags := by
  have hlt := b.be_lt 18
  rw [FailsAtOnce]
  rcases hown : ownTag tags with _ | own
  · rcases h.insert_none hp hown e with ⟨hroom, hret, hskb⟩ | ⟨hroom, hret, hbe⟩
    · refine iff_of_true ⟨fun _ => by rw [hskb], fun hok => ?_, fun hok => ?_⟩ hroom <;>
        simp [hret] at hok
    · refine iff_of_false (fun hok => ?_) (Nat.not_lt.2 hroom)
      have hlength := hok.length_eq h.toHasTags hret
      rw [hbe, hown] at hlength
      simp only [Option.isSome_none, Bool.false_eq_true, if_false] at hlength
      omega
  · by_cases hlong : 28 < own.data.length
    · obtain ⟨hret, hskb⟩ := h.insert_long hp hown hlong e
      refine iff_of_true ⟨fun _ => by rw [hskb], fun hok => ?_, fun hok => ?_⟩ hlong <;>
        simp [hret] at hok
    · refine iff_of_false (fun hok => ?_) hlong
      rcases h.insert_short hp hown (by omega) e with ⟨hret, hlen⟩ | ⟨hret, hbe⟩
      · have hbytes := congrArg List.length (hok.fails hret)
        simp only [Skb.bytes, Skb.rd, length_readBytes] at hbytes
        omega
      · have hlength := hok.length_eq h.toHasTags hret
        rw [hbe, hown] at hlength
        simp only [Option.isSome_some, if_true] at hlength
        have hdata := h.toHasTags.find_own hown
        obtain ⟨-, -, -, -, -, hbe18⟩ := hdata
        omega

/-- A PADI of a client with an own relay tag of two bytes. -/
def padi : Skb where
  mem := fun i => [0xff, 0xff, 0xff, 0xff, 0xff, 0xff, 2, 0, 0, 0, 0, 1, 0x88, 0x63, 0x11, 0x09,
    0, 0, 0, 6, 0x01, 0x10, 0, 2, 0xab, 0xcd].getD i 0
  data := 0
  len := 26
  tailroom := 100

/-- The own tag of that client. -/
def padiTag : Tag := ⟨pttRelaySid, [0xab, 0xcd], by decide, by decide⟩

/-- An environment in which nothing has expired. -/
def plainEnv : Env := ⟨true, fun _ => false, fun _ => 0, 0⟩

lemma padx_padi : Padx padi [padiTag] where
  ethType := by decide
  length := by decide
  tags := by
    show padi.rd 20 6 = _
    decide
  inside := by decide
  sid := by decide
  code := by decide

/-- Its own tag is taken out, and then there is no room for 2564 bytes. -/
theorem own_tag_lost :
    Padx padi [padiTag] ∧
      ¬ RelayOk plainEnv (freshPriv (MacAddr.ofBytes 2 0 0 0 0 9)) padi [padiTag] := by
  refine ⟨padx_padi, fun h => ?_⟩
  have hbytes := congrArg List.length (h.fails (by decide))
  revert hbytes
  decide

/-- A PADI of a client that asks for any service, and has no relay tag. -/
def servicePadi : Skb where
  mem := fun i => [0xff, 0xff, 0xff, 0xff, 0xff, 0xff, 2, 0, 0, 0, 0, 1, 0x88, 0x63, 0x11, 0x09,
    0, 0, 0, 4, 0x01, 0x01, 0, 0].getD i 0
  data := 0
  len := 24
  tailroom := 100

/-- The tag of that client. -/
def serviceTag : Tag := ⟨0x0101, [], by decide, by decide⟩

/-- There is no room for a relay tag, and it is left as it was. -/
theorem relayOk_iff_failsAtOnce_servicePadi :
    RelayOk plainEnv (freshPriv (MacAddr.ofBytes 2 0 0 0 0 9)) servicePadi [serviceTag] := by
  have hpadx : Padx servicePadi [serviceTag] :=
    { ethType := by decide
      length := by decide
      tags := by
        show servicePadi.rd 20 4 = _
        decide
      inside := by decide
      sid := by decide
      code := by decide }
  refine (relayOk_iff_failsAtOnce _ _ servicePadi [serviceTag] hpadx rfl).2 ?_
  show (100 : ℕ) < 2052
  decide

end Rtl8723du.BrExt
