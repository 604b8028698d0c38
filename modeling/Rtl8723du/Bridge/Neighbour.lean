import Rtl8723du.Lib.Loop
import Rtl8723du.Lib.Memory
import Rtl8723du.Recv.Frame
import Mathlib.Tactic.Ring

/-!
# Neighbour Discovery options

A bridged client announces its hardware address in the options of its Neighbour Discovery messages.
`update_nd_link_layer_addr` puts the address of the adapter there: `scan_tlv` goes from option to
option, each with its length in units of eight bytes, to the first that has the type and the length
of a link-layer address option.  An option of length zero is where it stays forever.
-/

namespace Rtl8723du.BrExt

open Lib Lib.Memory

/-! ### The code -/

/-- A pass of the loop of `scan_tlv`, from `data` and `len`. -/
def scanPass (m : Mem) (tag len8b : UInt8) (s : ℕ × ℤ) : Option ℕ ⊕ ℕ × ℤ :=
  if 0 < s.2 then
    if m s.1 = tag ∧ m (s.1 + 1) = len8b ∧ (len8b.toNat * 8 : ℤ) ≤ s.2 then .inl (some (s.1 + 2))
    else .inr (s.1 + (m (s.1 + 1)).toNat * 8, s.2 - (m (s.1 + 1)).toNat * 8)
  else .inl none

/-- `scan_tlv`, with a bound for the passes. -/
def scanTlv (m : Mem) (data : ℕ) (len : ℤ) (tag len8b : UInt8) (fuel : ℕ) : Option (Option ℕ) :=
  Loop.run (scanPass m tag len8b) fuel (data, len)

/-- For each `icmp6_type`: where the options begin, and the type of the option with the link-layer
address. -/
def ndOptions (icmp6Type : UInt8) : Option (ℕ × UInt8) :=
  if icmp6Type = 133 then some (8, 1)  -- `NDISC_ROUTER_SOLICITATION`
  else if icmp6Type = 134 then some (16, 1)  -- `NDISC_ROUTER_ADVERTISEMENT`
  else if icmp6Type = 135 then some (24, 1)  -- `NDISC_NEIGHBOUR_SOLICITATION`
  else if icmp6Type = 136 then some (24, 2)  -- `NDISC_NEIGHBOUR_ADVERTISEMENT`
  else if icmp6Type = 137 then some (40, 2)  -- `NDISC_REDIRECT`
  else none

/-- `update_nd_link_layer_addr`: the memory afterwards and what is returned. -/
def updateNdLinkLayerAddr (m : Mem) (data : ℕ) (len : ℤ) (replaceMac : MacAddr) (fuel : ℕ) :
    Option (Mem × Bool) :=
  match ndOptions (m data) with
  | none => some (m, false)
  | some (hdr, tag) =>
      if (hdr : ℤ) ≤ len then
        match scanTlv m (data + hdr) (len - hdr) tag 1 fuel with
        | none => none
        | some none => some (m, false)
        | some (some mac) => some (write m mac replaceMac.toList, true)
      else some (m, false)

/-! ### The sequence of options -/

/-- The offsets of the options in the area from `a` up to `e`. -/
inductive OptionAt (m : Mem) (e : ℕ) : ℕ → ℕ → Prop
  | here {a : ℕ} : a < e → OptionAt m e a a
  | later {a b : ℕ} : a < e → OptionAt m e (a + (m (a + 1)).toNat * 8) b → OptionAt m e a b

/-- The option has the type and the length, and lies inside the area. -/
def IsOption (m : Mem) (e : ℕ) (tag len8b : UInt8) (a : ℕ) : Prop :=
  m a = tag ∧ m (a + 1) = len8b ∧ a + len8b.toNat * 8 ≤ e

/-- The first option of the type and the length. -/
structure FirstOption (m : Mem) (e a : ℕ) (tag len8b : UInt8) (o : ℕ) : Prop where
  optionAt : OptionAt m e a o
  isOption : IsOption m e tag len8b o
  first : ∀ b, OptionAt m e a b → b < o → ¬ (m b = tag ∧ m (b + 1) = len8b)

/-- What `scan_tlv` is to return: what stands in the first option of the type and the length, or
nothing if there is none. -/
def ScanOk (m : Mem) (e a : ℕ) (tag len8b : UInt8) : Option ℕ → Prop
  | some p => ∃ o, p = o + 2 ∧ FirstOption m e a tag len8b o
  | none => ∀ o, OptionAt m e a o → ¬ IsOption m e tag len8b o

/-- Before the option that is looked for none has length zero. -/
def NoStall (m : Mem) (e a : ℕ) (tag len8b : UInt8) : Prop :=
  ∀ o, OptionAt m e a o → (∀ b, OptionAt m e a b → b ≤ o → ¬ IsOption m e tag len8b b) →
    m (o + 1) ≠ 0

/-- The option that an update is about, in a message from `data` up to `e`. -/
def LinkOption (m : Mem) (data e o : ℕ) : Prop :=
  ∃ hdr tag, ndOptions (m data) = some (hdr, tag) ∧ FirstOption m e (data + hdr) tag 1 o

/-- The address in that option is replaced and nothing else, if there is one. -/
def UpdateOk (m : Mem) (data e : ℕ) (replaceMac : MacAddr) (r : Mem × Bool) : Prop :=
  (r = (m, false) ∧ ∀ o, ¬ LinkOption m data e o) ∨
    ∃ o, LinkOption m data e o ∧ r = (write m (o + 2) replaceMac.toList, true)

/-! ### One option -/

variable {m : Mem} {e a b : ℕ} {tag len8b : UInt8} {r : Option ℕ}

lemma OptionAt.lt (h : OptionAt m e a b) : a < e := by
  cases h <;> assumption

lemma OptionAt.le (h : OptionAt m e a b) : a ≤ b := by
  induction h with
  | here => exact le_rfl
  | later _ _ ih => omega

/-- The sequence from an option on. -/
lemma optionAt_iff : OptionAt m e a b ↔
    a < e ∧ (b = a ∨ OptionAt m e (a + (m (a + 1)).toNat * 8) b) := by
  constructor
  · intro h
    cases h with
    | here hlt => exact ⟨hlt, .inl rfl⟩
    | later hlt hrest => exact ⟨hlt, .inr hrest⟩
  · rintro ⟨hlt, rfl | hrest⟩
    · exact .here hlt
    · exact .later hlt hrest

/-- The step over an option that is not the one looked for. -/
abbrev stepOver (m : Mem) (a : ℕ) : ℕ := a + (m (a + 1)).toNat * 8

lemma noStall_iff (hlt : a < e) (hno : ¬ IsOption m e tag len8b a) :
    NoStall m e a tag len8b ↔ m (a + 1) ≠ 0 ∧ NoStall m e (stepOver m a) tag len8b := by
  constructor
  · intro h
    refine ⟨h a (.here hlt) ?_, ?_⟩
    · intro b hb hba
      obtain rfl : b = a := le_antisymm hba hb.le
      exact hno
    · intro o ho hbefore
      refine h o (.later hlt ho) ?_
      intro b hb hbo
      rcases (optionAt_iff.1 hb).2 with rfl | hrest
      · exact hno
      · exact hbefore b hrest hbo
  · rintro ⟨hne, h⟩ o ho hbefore
    rcases (optionAt_iff.1 ho).2 with rfl | hrest
    · exact hne
    · exact h o hrest fun b hb hbo => hbefore b (.later hlt hb) hbo

lemma noStall_of_isOption (ho : IsOption m e tag len8b a) : NoStall m e a tag len8b := by
  intro o hat hbefore
  exact absurd ho (hbefore a (.here hat.lt) hat.le)

lemma scanOk_iff (hlt : a < e) (hno : ¬ IsOption m e tag len8b a) (hne : m (a + 1) ≠ 0) :
    ScanOk m e a tag len8b r ↔ ScanOk m e (stepOver m a) tag len8b r := by
  have hpos : 0 < (m (a + 1)).toNat := Nat.pos_of_ne_zero fun h => hne (UInt8.toNat_inj.1 h)
  cases r with
  | none =>
      constructor
      · intro h o ho
        exact h o (.later hlt ho)
      · intro h o ho
        rcases (optionAt_iff.1 ho).2 with rfl | hrest
        · exact hno
        · exact h o hrest
  | some p =>
      constructor
      · rintro ⟨o, rfl, ho⟩
        rcases (optionAt_iff.1 ho.optionAt).2 with rfl | hrest
        · exact absurd ho.isOption hno
        · exact ⟨o, rfl, hrest, ho.isOption, fun b hb => ho.first b (.later hlt hb)⟩
      · rintro ⟨o, rfl, ho⟩
        refine ⟨o, rfl, .later hlt ho.optionAt, ho.isOption, ?_⟩
        intro b hb hbo
        rcases (optionAt_iff.1 hb).2 with rfl | hrest
        · -- an option that another one follows lies inside the area
          rintro ⟨htag, hlen⟩
          have hle : stepOver m b ≤ o := ho.optionAt.le
          have hoe := ho.isOption.2.2
          refine hno ⟨htag, hlen, ?_⟩
          rw [← hlen]
          exact hle.trans (by omega)
        · exact ho.first b hrest hbo

/-- Behind an option of length zero there is none. -/
lemma OptionAt.le_of_stall {o : ℕ} (ho : OptionAt m e a o) (hzero : m (o + 1) = 0)
    (hb : OptionAt m e a b) : b ≤ o := by
  induction hb with
  | here => exact ho.le
  | later hlt _ ih =>
      refine ih ?_
      rcases (optionAt_iff.1 ho).2 with rfl | hrest
      · simpa [hzero] using ho
      · exact hrest

/-- The search gets to the first option. -/
lemma FirstOption.noStall {o : ℕ} (h : FirstOption m e a tag len8b o) :
    NoStall m e a tag len8b := by
  intro x hx hbefore hzero
  exact hbefore o h.optionAt (hx.le_of_stall hzero h.optionAt) h.isOption

lemma FirstOption.unique {o o' : ℕ} (h : FirstOption m e a tag len8b o)
    (h' : FirstOption m e a tag len8b o') : o = o' := by
  by_contra hne
  rcases Nat.lt_or_gt_of_ne hne with hlt | hgt
  · exact h'.first o h.optionAt hlt ⟨h.isOption.1, h.isOption.2.1⟩
  · exact h.first o' h'.optionAt hgt ⟨h'.isOption.1, h'.isOption.2.1⟩

/-! ### The search -/

lemma scanPass_of_le (m : Mem) (tag len8b : UInt8) (h : e ≤ a) :
    scanPass m tag len8b (a, (e : ℤ) - a) = .inl none :=
  if_neg (by simp only; omega)

lemma scanPass_of_isOption (hlt : a < e) (ho : IsOption m e tag len8b a) :
    scanPass m tag len8b (a, (e : ℤ) - a) = .inl (some (a + 2)) := by
  obtain ⟨htag, hlen, hle⟩ := ho
  rw [scanPass, if_pos (by simp only; omega), if_pos ⟨htag, hlen, by simp only; omega⟩]

lemma scanPass_of_not_isOption (hlt : a < e) (hno : ¬ IsOption m e tag len8b a) :
    scanPass m tag len8b (a, (e : ℤ) - a) = .inr (stepOver m a, (e : ℤ) - (stepOver m a : ℕ)) := by
  have hno' : ¬ (m a = tag ∧ m (a + 1) = len8b ∧ (len8b.toNat * 8 : ℤ) ≤ (e : ℤ) - a) := by
    rintro ⟨htag, hlen, hle⟩
    exact hno ⟨htag, hlen, by omega⟩
  rw [scanPass, if_pos (by simp only; omega), if_neg hno']
  simp only [stepOver, Nat.cast_add, Nat.cast_mul, Nat.cast_ofNat, sub_sub]

/-- The search ends just if no option of length zero stops it, and then it has found what it is
for. -/
lemma returns_scanPass (m : Mem) (e a : ℕ) (tag len8b : UInt8) :
    ((∃ r, Loop.Returns (scanPass m tag len8b) (a, (e : ℤ) - a) r) ↔ NoStall m e a tag len8b) ∧
      ∀ r, Loop.Returns (scanPass m tag len8b) (a, (e : ℤ) - a) r → ScanOk m e a tag len8b r := by
  generalize hn : e - a = n
  induction n using Nat.strongRecOn generalizing a with
  | ind n ih =>
      rcases Nat.lt_or_ge a e with hlt | hle
      swap
      · -- behind the last option
        have hpass := scanPass_of_le m tag len8b hle
        have hnone (o : ℕ) : ¬ OptionAt m e a o := fun ho => absurd ho.lt (by omega)
        refine ⟨iff_of_true ⟨none, (Loop.returns_iff_of_inl hpass).2 rfl⟩ fun o ho =>
          absurd ho (hnone o), ?_⟩
        intro r hr
        obtain rfl := (Loop.returns_iff_of_inl hpass).1 hr
        exact fun o ho => absurd ho (hnone o)
      by_cases ho : IsOption m e tag len8b a
      · have hpass := scanPass_of_isOption hlt ho
        refine ⟨iff_of_true ⟨_, (Loop.returns_iff_of_inl hpass).2 rfl⟩ (noStall_of_isOption ho), ?_⟩
        intro r hr
        obtain rfl := (Loop.returns_iff_of_inl hpass).1 hr
        exact ⟨a, rfl, .here hlt, ho, fun b hb hba => absurd hb.le (by omega)⟩
      have hpass := scanPass_of_not_isOption hlt ho
      by_cases hzero : m (a + 1) = 0
      · -- the pass leads to where it began
        have hstep : stepOver m a = a := by simp [stepOver, hzero]
        rw [hstep] at hpass
        have hno (r : Option ℕ) :
            ¬ Loop.Returns (scanPass m tag len8b) (a, (e : ℤ) - a) r :=
          Loop.not_returns_of_stuck hpass
        refine ⟨iff_of_false (fun ⟨r, hr⟩ => hno r hr) ?_, fun r hr => absurd hr (hno r)⟩
        rw [noStall_iff hlt ho]
        exact fun h => h.1 hzero
      · have hpos : 0 < (m (a + 1)).toNat :=
          Nat.pos_of_ne_zero fun h => hzero (UInt8.toNat_inj.1 h)
        obtain ⟨hends, hok⟩ := ih (e - stepOver m a) (by simp only [stepOver]; omega) _ rfl
        constructor
        · rw [noStall_iff hlt ho, ← hends]
          simp only [Loop.returns_iff_of_inr hpass, hzero, not_false_eq_true, true_and, ne_eq]
        · intro r hr
          rw [scanOk_iff hlt ho hzero]
          exact hok r ((Loop.returns_iff_of_inr hpass).1 hr)

/-- `len` is the length of the area from `data` on, if there is one. -/
lemma returns_scanTlv (m : Mem) (data : ℕ) (len : ℤ) (tag len8b : UInt8) :
    ((∃ fuel r, scanTlv m data len tag len8b fuel = some r) ↔
        NoStall m (data + len.toNat) data tag len8b) ∧
      ∀ fuel r, scanTlv m data len tag len8b fuel = some r →
        ScanOk m (data + len.toNat) data tag len8b r := by
  rcases le_or_gt 0 len with hlen | hlen
  · have hcast : ((data + len.toNat : ℕ) : ℤ) - data = len := by omega
    obtain ⟨hends, hok⟩ := returns_scanPass m (data + len.toNat) data tag len8b
    rw [hcast] at hends hok
    exact ⟨exists_comm.trans hends, fun fuel r hr => hok r ⟨fuel, hr⟩⟩
  · -- a negative length is no area at all
    have hpass : scanPass m tag len8b (data, len) = .inl none := if_neg (by simp only; omega)
    have hnone (o : ℕ) : ¬ OptionAt m (data + len.toNat) data o :=
      fun ho => absurd ho.lt (by omega)
    refine ⟨iff_of_true ⟨1, none, by rw [scanTlv, Loop.run, hpass]⟩ fun o ho =>
      absurd ho (hnone o), ?_⟩
    intro fuel r hr
    obtain rfl := (Loop.returns_iff_of_inl hpass).1 ⟨fuel, hr⟩
    exact fun o ho => absurd ho (hnone o)

/-! ### The update -/

/-- The options of a message of a known type, if it is long enough to have some. -/
def NdNoStall (m : Mem) (data : ℕ) (len : ℤ) : Prop :=
  ∀ hdr tag, ndOptions (m data) = some (hdr, tag) → (hdr : ℤ) ≤ len →
    NoStall m (data + len.toNat) (data + hdr) tag 1

lemma returns_update (m : Mem) (data : ℕ) (len : ℤ) (replaceMac : MacAddr) :
    ((∃ fuel r, updateNdLinkLayerAddr m data len replaceMac fuel = some r) ↔
        NdNoStall m data len) ∧
      ∀ fuel r, updateNdLinkLayerAddr m data len replaceMac fuel = some r →
        UpdateOk m data (data + len.toNat) replaceMac r := by
  rcases hnd : ndOptions (m data) with _ | ⟨hdr, tag⟩
  · refine ⟨iff_of_true ⟨0, (m, false), by simp [updateNdLinkLayerAddr, hnd]⟩ ?_, ?_⟩
    · intro hdr tag h
      simp [hnd] at h
    · intro fuel r hr
      refine .inl ⟨by simpa [updateNdLinkLayerAddr, hnd, eq_comm] using hr, ?_⟩
      rintro o ⟨hdr, tag, h, -⟩
      simp [hnd] at h
  by_cases hlen : (hdr : ℤ) ≤ len
  · have harea : data + hdr + (len - hdr).toNat = data + len.toNat := by omega
    obtain ⟨hends, hok⟩ := returns_scanTlv m (data + hdr) (len - hdr) tag 1
    rw [harea] at hends hok
    have hupdate (fuel : ℕ) : updateNdLinkLayerAddr m data len replaceMac fuel =
        (scanTlv m (data + hdr) (len - hdr) tag 1 fuel).map fun r =>
          r.elim (m, false) fun mac => (write m mac replaceMac.toList, true) := by
      rw [updateNdLinkLayerAddr, hnd]
      simp only [if_pos hlen]
      rcases scanTlv m (data + hdr) (len - hdr) tag 1 fuel with _ | _ | mac <;> rfl
    constructor
    · have hnostall : NdNoStall m data len ↔
          NoStall m (data + len.toNat) (data + hdr) tag 1 := by
        constructor
        · intro h
          exact h hdr tag hnd hlen
        · intro h hdr' tag' hnd' _
          obtain ⟨rfl, rfl⟩ : hdr = hdr' ∧ tag = tag' := by simpa [hnd] using hnd'
          exact h
      rw [hnostall, ← hends]
      simp only [hupdate, Option.map_eq_some_iff]
      constructor
      · rintro ⟨fuel, _, r, hr, -⟩
        exact ⟨fuel, r, hr⟩
      · rintro ⟨fuel, r, hr⟩
        exact ⟨fuel, _, r, hr, rfl⟩
    · intro fuel r hr
      rw [hupdate, Option.map_eq_some_iff] at hr
      obtain ⟨found, hfound, rfl⟩ := hr
      have hscan := hok fuel found hfound
      cases found with
      | none =>
          refine .inl ⟨rfl, ?_⟩
          rintro o ⟨hdr', tag', hnd', ho⟩
          obtain ⟨rfl, rfl⟩ : hdr = hdr' ∧ tag = tag' := by simpa [hnd] using hnd'
          exact hscan o ho.optionAt ho.isOption
      | some mac =>
          obtain ⟨o, rfl, ho⟩ := hscan
          exact .inr ⟨o, ⟨hdr, tag, hnd, ho⟩, rfl⟩
  · have hshort (fuel : ℕ) :
        updateNdLinkLayerAddr m data len replaceMac fuel = some (m, false) := by
      rw [updateNdLinkLayerAddr, hnd]
      simp only [if_neg hlen]
    refine ⟨iff_of_true ⟨0, _, hshort 0⟩ ?_, ?_⟩
    · intro hdr' tag' hnd' hlen'
      obtain ⟨rfl, rfl⟩ : hdr = hdr' ∧ tag = tag' := by simpa [hnd] using hnd'
      exact absurd hlen' hlen
    · intro fuel r hr
      refine .inl ⟨by simpa [hshort, eq_comm] using hr, ?_⟩
      rintro o ⟨hdr', tag', hnd', ho⟩
      obtain ⟨rfl, rfl⟩ : hdr = hdr' ∧ tag = tag' := by simpa [hnd] using hnd'
      have := ho.optionAt.lt
      omega

/-- An update leaves alone every byte outside of the address in its option, which lies inside the
message. -/
theorem UpdateOk.frame {m : Mem} {data e : ℕ} {replaceMac : MacAddr} {m' : Mem} {b : Bool}
    (h : UpdateOk m data e replaceMac (m', b)) {i : ℕ} (hi : m' i ≠ m i) :
    ∃ o, LinkOption m data e o ∧ o + 2 ≤ i ∧ i < o + 8 ∧ o + 8 ≤ e := by
  rcases h with ⟨h, -⟩ | ⟨o, ho, h⟩
  · obtain ⟨rfl, -⟩ : m' = m ∧ b = false := by simpa using h
    exact absurd rfl hi
  · obtain ⟨rfl, -⟩ : m' = write m (o + 2) replaceMac.toList ∧ b = true := by simpa using h
    have hlen : replaceMac.toList.length = 6 := by simp
    have hinside : o + 8 ≤ e := by
      obtain ⟨hdr, tag, -, hfirst⟩ := ho
      exact hfirst.isOption.2.2
    refine ⟨o, ho, ?_, ?_, hinside⟩
    · by_contra hlt
      exact hi (write_of_lt (by omega))
    · by_contra hge
      exact hi (write_of_le (by omega))

/-- A message with such an option is updated. -/
lemma LinkOption.returns {m : Mem} {data : ℕ} {len : ℤ} {o : ℕ}
    (h : LinkOption m data (data + len.toNat) o) (replaceMac : MacAddr) :
    ∃ fuel, updateNdLinkLayerAddr m data len replaceMac fuel =
      some (write m (o + 2) replaceMac.toList, true) := by
  obtain ⟨hdr, tag, hnd, ho⟩ := h
  obtain ⟨hends, hok⟩ := returns_update m data len replaceMac
  have hnostall : NdNoStall m data len := by
    intro hdr' tag' hnd' _
    obtain ⟨rfl, rfl⟩ : hdr = hdr' ∧ tag = tag' := by simpa [hnd] using hnd'
    exact ho.noStall
  obtain ⟨fuel, r, hr⟩ := hends.2 hnostall
  refine ⟨fuel, ?_⟩
  rw [hr]
  rcases hok fuel r hr with ⟨-, hnone⟩ | ⟨o', ⟨hdr', tag', hnd', ho'⟩, rfl⟩
  · exact absurd ⟨hdr, tag, hnd, ho⟩ (hnone o)
  · obtain ⟨rfl, rfl⟩ : hdr = hdr' ∧ tag = tag' := by simpa [hnd] using hnd'
    rw [ho.unique ho']

/-- `scan_tlv` ends with what it is for just if no option before that has length zero, and so does
`update_nd_link_layer_addr`, which changes nothing else. -/
theorem nd_options_iff (m : Mem) (data : ℕ) (len : ℤ) (tag len8b : UInt8) (replaceMac : MacAddr) :
    ((∃ fuel r, scanTlv m data len tag len8b fuel = some r ∧
        ScanOk m (data + len.toNat) data tag len8b r) ↔
      NoStall m (data + len.toNat) data tag len8b) ∧
    ((∃ fuel r, updateNdLinkLayerAddr m data len replaceMac fuel = some r ∧
        UpdateOk m data (data + len.toNat) replaceMac r) ↔
      NdNoStall m data len) := by
  obtain ⟨hends, hok⟩ := returns_scanTlv m data len tag len8b
  obtain ⟨hends', hok'⟩ := returns_update m data len replaceMac
  rw [← hends, ← hends']
  constructor
  · constructor
    · rintro ⟨fuel, r, hr, -⟩
      exact ⟨fuel, r, hr⟩
    · rintro ⟨fuel, r, hr⟩
      exact ⟨fuel, r, hr, hok fuel r hr⟩
  · constructor
    · rintro ⟨fuel, r, hr, -⟩
      exact ⟨fuel, r, hr⟩
    · rintro ⟨fuel, r, hr⟩
      exact ⟨fuel, r, hr, hok' fuel r hr⟩

/-- A Neighbour Solicitation with an option of length zero. -/
def stallingMessage : Mem := fun i =>
  ([135, 0, 0, 0] ++ List.replicate 20 0 ++ [1, 0, 2, 0, 0, 0, 0, 1] : List UInt8).getD i 0

/-- The option is where the search stays. -/
theorem nd_update_stalls :
    ¬ ∃ fuel r, updateNdLinkLayerAddr stallingMessage 0 32 (MacAddr.ofBytes 2 0 0 0 0 9) fuel =
        some r ∧ UpdateOk stallingMessage 0 32 (MacAddr.ofBytes 2 0 0 0 0 9) r := by
  rintro ⟨fuel, r, hr, -⟩
  have hnd : ndOptions (stallingMessage 0) = some (24, 1) := by decide
  have hstuck : scanPass stallingMessage 1 1 (24, 8) = .inr (24, 8) := by decide
  have hscan : scanTlv stallingMessage 24 8 1 1 fuel = none := Loop.run_of_stuck hstuck fuel
  simp [updateNdLinkLayerAddr, hnd, hscan] at hr

end Rtl8723du.BrExt
