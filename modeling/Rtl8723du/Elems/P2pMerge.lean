import Rtl8723du.Elems.GetIe
import Rtl8723du.Lib.Elements

/-!
# Merging P2P elements

A P2P element that is too long for one element comes as several.  `rtw_get_p2p_merged_ies_len` adds
up the length of their bodies and the OUI, `rtw_p2p_merge_ies` writes one element with the bodies
one after the other.  Both compare the OUI without a check of the length, and the second counts in
a `u8`.
-/

namespace Rtl8723du.Elems

open Lib Lib.Bytes Lib.Elements

/-! ### The code -/

/-- The OUI and the type of a P2P element. -/
def p2pOui : List UInt8 := [0x50, 0x6F, 0x9A, 0x09]

/-- `_VENDOR_SPECIFIC_IE_`. -/
abbrev vendorSpecificIe : UInt8 := 0xDD

/-- What both loops see at `i`: whether a P2P element stands there, its offset and its length byte;
nothing if they look outside. -/
def p2pAt (inIe : List UInt8) (i : ℤ) : Option (Bool × ℕ × ℕ) :=
  if i < 0 then none
  else
    (inIe[i.toNat]?).bind fun id =>
      (if id = vendorSpecificIe then (bytesIn inIe (i.toNat + 2) 4).map (· == p2pOui)
        else some false).bind fun hit =>
        (inIe[i.toNat + 1]?).map fun len => (hit, i.toNat, len.toNat)

/-- The `int` `i` is compared with the `u32` `in_len`. -/
def below (i : ℤ) (inLen : ℕ) : Bool := decide (i % 2 ^ 32 < inLen)

/-- A pass of the loop of `rtw_get_p2p_merged_ies_len`, with `i` and `len`. -/
def mergedLenPass (inIe : List UInt8) (s : ℤ × ℤ) : Option ℕ ⊕ (ℤ × ℤ) :=
  if below s.1 inIe.length then
    match p2pAt inIe s.1 with
    | none => .inl none
    | some (hit, _, len) =>
        .inr (sint (s.1 + (len + 2)), if hit then sint (s.2 + (len - 4)) else s.2)
  else .inl (some ((s.2 + 4) % 2 ^ 32).toNat)

/-- `ELOUI`. -/
def elOui : List UInt8 := [0xDD, 0x00, 0x50, 0x6F, 0x9A, 0x09]

/-- The state of the loop of `rtw_p2p_merge_ies`; `written` is what stands before `merge_ie`. -/
structure MergeState where
  i : ℤ := 0
  len : UInt8 := 0
  written : List UInt8 := elOui

/-- A pass of the loop of `rtw_p2p_merge_ies`: what it returns and what is written, or nothing if it
reads outside or copies a number of bytes below zero. -/
def mergePass (inIe : List UInt8) (s : MergeState) : Option (ℕ × List UInt8) ⊕ MergeState :=
  if below s.i inIe.length then
    match p2pAt inIe s.i with
    | none => .inl none
    | some (hit, off, len) =>
        if hit then
          match if len < 4 then none else bytesIn inIe (off + 2 + 4) (len - 4) with
          | none => .inl none
          | some body => .inr ⟨sint (s.i + (len + 2)), s.len + UInt8.ofNat (len - 4),
              s.written ++ body⟩
        else .inr { s with i := sint (s.i + (len + 2)) }
  else .inl (some (s.len.toNat + 4, s.written))

/-! ### What they are for -/

/-- The element is a P2P element. -/
def isP2p (e : Element) : Bool := e.id == vendorSpecificIe && p2pOui.isPrefixOf e.data

/-- The bodies of the P2P elements behind the OUI, in order. -/
def p2pBodies (es : List Element) : List UInt8 := (es.filter isP2p).flatMap fun e => e.data.drop 4

/-- Both functions end, with the same length; that many bytes and a header are written, and behind
the header stand the OUI and the bodies. -/
def MergesP2p (es : List Element) : Prop :=
  ∃ len written, Loop.Returns (mergedLenPass (encode es)) (0, 0) (some len) ∧
    Loop.Returns (mergePass (encode es)) {} (some (len, written)) ∧
    written.length = len + 2 ∧ written.drop 2 = p2pOui ++ p2pBodies es

/-! ### When they do it -/

/-- The element begins where an `int` can say; a vendor element that is too short for the OUI is
followed by bytes that complete four of them, but not to the OUI. -/
def HeadReadable (i : ℕ) (e : Element) (es : List Element) : Prop :=
  i < 2 ^ 31 ∧ (e.id = vendorSpecificIe → e.data.length < 4 →
    4 ≤ (e.data ++ encode es).length ∧ (e.data ++ encode es).take 4 ≠ p2pOui)

/-- All elements from an offset on are so. -/
def P2pReadable : ℕ → List Element → Prop
  | _, [] => True
  | i, e :: es => HeadReadable i e es ∧ P2pReadable (i + e.size) es

/-! ### One element -/

variable {bs : List UInt8} {pos : ℕ} {e : Element} {es : List Element}

lemma below_sint (hpos : pos < 2 ^ 32) (n : ℕ) : below (sint pos) n = decide (pos < n) := by
  have hmod : sint pos % 2 ^ 32 = pos := by
    rw [sint, show ((2 : ℤ) ^ 32) = ((2 ^ 32 : ℕ) : ℤ) from rfl, Int.bmod_emod]
    omega
  rw [below, hmod]
  simp

lemma isP2p_eq : isP2p e = (e.id == vendorSpecificIe && e.data.take 4 == p2pOui) := by
  have hprefix : p2pOui.isPrefixOf e.data = (e.data.take 4 == p2pOui) := by
    rw [Bool.eq_iff_iff, List.isPrefixOf_iff_prefix, List.prefix_iff_eq_take, beq_iff_eq]
    exact eq_comm
  rw [isP2p, hprefix]

lemma four_le_of_isP2p (h : isP2p e = true) : 4 ≤ e.data.length := by
  have hle := (List.isPrefixOf_iff_prefix.1 (Bool.and_eq_true_iff.1 h).2).length_le
  exact hle

/-- Where the data of the element is. -/
lemma drop_two (h : bs.drop pos = encode (e :: es)) : bs.drop (pos + 2) = e.data ++ encode es := by
  rw [← List.drop_drop, h]
  rfl

lemma length_of_drop (h : bs.drop pos = encode (e :: es)) :
    bs.length = pos + (e.data.length + 2 + (encode es).length) := by
  have hlen := congrArg List.length h
  rw [List.length_drop, encode_cons, List.length_append, Element.length_bytes, Element.size] at hlen
  omega

/-- What the loops see at an element whose offset an `int` can say. -/
lemma p2pAt_eq (h : bs.drop pos = encode (e :: es)) (hpos : pos < 2 ^ 31) : p2pAt bs pos =
    if e.id = vendorSpecificIe ∧ (e.data ++ encode es).length < 4 then none
    else some (e.id == vendorSpecificIe && (e.data ++ encode es).take 4 == p2pOui, pos,
      e.data.length) := by
  have hat : At bs pos (e :: es) := by
    rw [At, h]
  have hlen := length_of_drop h
  have hid : bs[pos]? = some e.id := by
    rw [getElem?_eq (by omega), hat.id_eq]
  have hbyte : bs[pos + 1]? = some (UInt8.ofNat e.data.length) := by
    have hcons : bs.drop (pos + 1) = UInt8.ofNat e.data.length :: (e.data ++ encode es) := by
      rw [← List.drop_drop, h]
      rfl
    rw [getElem?_eq (by omega), getD_eq_of_drop hcons]
  rw [p2pAt, if_neg (by omega), Int.toNat_natCast, hid, Option.bind_some]
  have hdata : (e.data ++ encode es).length = e.data.length + (encode es).length :=
    List.length_append
  by_cases hvendor : e.id = vendorSpecificIe
  · rw [if_pos hvendor]
    by_cases hshort : (e.data ++ encode es).length < 4
    · have hnone : bytesIn bs (pos + 2) 4 = none := by
        rw [bytesIn, if_neg (by decide), if_neg (by omega)]
      rw [hnone, if_pos ⟨hvendor, hshort⟩]
      rfl
    · rw [bytesIn_eq (by omega), drop_two h, if_neg fun hand => hshort hand.2, hvendor, hbyte]
      simp only [Option.map_some, Option.bind_some, Element.toNat_length, beq_self_eq_true,
        Bool.true_and]
  · rw [if_neg hvendor, if_neg fun hand => hvendor hand.1, hbyte, beq_eq_false_iff_ne.2 hvendor]
    simp only [Option.map_some, Option.bind_some, Element.toNat_length, Bool.false_and]

/-- It is seen as what it is. -/
lemma p2pAt_of_readable (h : bs.drop pos = encode (e :: es)) (hread : HeadReadable pos e es) :
    p2pAt bs pos = some (isP2p e, pos, e.data.length) := by
  obtain ⟨hpos, hshort⟩ := hread
  rw [p2pAt_eq h hpos, isP2p_eq]
  by_cases hvendor : e.id = vendorSpecificIe
  · rcases Nat.lt_or_ge e.data.length 4 with hlt | hge
    · obtain ⟨hfour, hother⟩ := hshort hvendor hlt
      have hself : e.data.take 4 ≠ p2pOui := fun heq => by
        have hlen := congrArg List.length heq
        rw [List.length_take, show p2pOui.length = 4 from rfl] at hlen
        omega
      rw [if_neg fun hand => absurd hand.2 (Nat.not_lt.2 hfour), beq_eq_false_iff_ne.2 hother,
        beq_eq_false_iff_ne.2 hself]
    · rw [if_neg fun hand => by rw [List.length_append] at hand; omega,
        List.take_append_of_le_length hge]
  · rw [if_neg fun hand => hvendor hand.1, beq_eq_false_iff_ne.2 hvendor]
    rfl

/-! ### The loops -/

variable {len : UInt8} {written : List UInt8}

lemma mergePass_of_readable (h : bs.drop pos = encode (e :: es)) (hbs : bs.length < 2 ^ 32)
    (hread : HeadReadable pos e es) : mergePass bs ⟨sint pos, len, written⟩ = .inr
      ⟨sint (pos + e.size : ℕ), if isP2p e then len + UInt8.ofNat (e.data.length - 4) else len,
        written ++ if isP2p e then e.data.drop 4 else []⟩ := by
  have hlen := length_of_drop h
  have hpos : sint pos = pos := sint_of_lt (by omega) (by have := hread.1; omega)
  have hnext : sint ((pos : ℤ) + (e.data.length + 2)) = sint (pos + e.size : ℕ) := by
    rw [Element.size]
    congr 1
  rw [mergePass, below_sint (by omega), if_pos (by simp; omega), hpos, p2pAt_of_readable h hread]
  by_cases hp2p : isP2p e = true
  · have hfour := four_le_of_isP2p hp2p
    have hbody : bytesIn bs (pos + 2 + 4) (e.data.length - 4) = some (e.data.drop 4) := by
      rw [bytesIn_eq (by omega), ← List.drop_drop, drop_two h, List.drop_append_of_le_length hfour,
        List.take_left' List.length_drop]
    simp only [hp2p, if_true, if_neg (Nat.not_lt.2 hfour), hbody, hnext]
  · simp only [hp2p, if_false, hnext, List.append_nil, Bool.false_eq_true]

lemma mergePass_of_not_readable (h : bs.drop pos = encode (e :: es)) (hbs : bs.length < 2 ^ 32)
    (hread : ¬ HeadReadable pos e es) : mergePass bs ⟨sint pos, len, written⟩ = .inl none := by
  have hlen := length_of_drop h
  rw [mergePass, below_sint (by omega), if_pos (by simp; omega)]
  by_cases hpos : pos < 2 ^ 31
  · have hsint : sint pos = pos := sint_of_lt (by omega) (by omega)
    rw [hsint, p2pAt_eq h hpos]
    rw [HeadReadable, and_iff_right hpos] at hread
    push Not at hread
    obtain ⟨hvendor, hshort, hother⟩ := hread
    by_cases hcut : (e.data ++ encode es).length < 4
    · rw [if_pos ⟨hvendor, hcut⟩]
    · rw [if_neg fun hand => hcut hand.2, hvendor, hother (Nat.not_lt.1 hcut)]
      simp only [beq_self_eq_true, Bool.and_self, if_true, if_pos hshort]
  · have hneg : sint pos < 0 := sint_of_le (by omega) (by omega)
    rw [p2pAt, if_pos hneg]

lemma mergedLenPass_of_readable {len : ℤ} (h : bs.drop pos = encode (e :: es))
    (hbs : bs.length < 2 ^ 32) (hread : HeadReadable pos e es) :
    mergedLenPass bs (sint pos, len) = .inr (sint (pos + e.size : ℕ),
      if isP2p e then sint (len + (e.data.length - 4 : ℕ)) else len) := by
  have hlen := length_of_drop h
  have hpos : sint pos = pos := sint_of_lt (by omega) (by have := hread.1; omega)
  have hnext : sint ((pos : ℤ) + (e.data.length + 2)) = sint (pos + e.size : ℕ) := by
    rw [Element.size]
    congr 1
  rw [mergedLenPass, below_sint (by omega), if_pos (by simp; omega), hpos,
    p2pAt_of_readable h hread]
  simp only [hnext]
  split
  · next hp2p => rw [Nat.cast_sub (four_le_of_isP2p hp2p)]; rfl
  · rfl

lemma p2pBodies_cons : p2pBodies (e :: es) = (if isP2p e then e.data.drop 4 else []) ++
    p2pBodies es := by
  rw [p2pBodies, List.filter_cons]
  split <;> rfl

lemma drop_size (h : bs.drop pos = encode (e :: es)) : bs.drop (pos + e.size) = encode es := by
  rw [← List.drop_drop, h, encode_cons, ← Element.length_bytes, List.drop_left]

lemma ofNat_length_body (e : Element) (len : UInt8) (n : ℕ) :
    (if isP2p e then len + UInt8.ofNat (e.data.length - 4) else len) + UInt8.ofNat n =
      len + UInt8.ofNat ((if isP2p e then e.data.drop 4 else []).length + n) := by
  split
  · rw [UInt8.add_assoc, ← UInt8.ofNat_add, List.length_drop]
  · rw [List.length_nil, Nat.zero_add]

/-- The loop of `rtw_p2p_merge_ies`, from an element on. -/
lemma returns_mergePass (h : bs.drop pos = encode es) (hpos : pos ≤ bs.length)
    (hbs : bs.length < 2 ^ 32) :
    (P2pReadable pos es → Loop.Returns (mergePass bs) ⟨sint pos, len, written⟩
      (some ((len + UInt8.ofNat (p2pBodies es).length).toNat + 4, written ++ p2pBodies es))) ∧
    (¬ P2pReadable pos es → Loop.Returns (mergePass bs) ⟨sint pos, len, written⟩ none) := by
  induction es generalizing pos len written with
  | nil =>
      have hend : bs.length ≤ pos := List.drop_eq_nil_iff.1 h
      have hpass : mergePass bs ⟨sint pos, len, written⟩ =
          .inl (some (len.toNat + 4, written)) := by
        rw [mergePass, below_sint (by omega), if_neg (by simp; omega)]
      refine ⟨fun _ => ?_, fun hnot => absurd trivial hnot⟩
      rw [Loop.returns_iff_of_inl hpass]
      simp [p2pBodies]
  | cons e es ih =>
      have hlen := length_of_drop h
      by_cases hhead : HeadReadable pos e es
      · have hnext := drop_size h
        have hstep : mergePass bs ⟨sint pos, len, written⟩ = _ := mergePass_of_readable h hbs hhead
        have hsize : pos + e.size ≤ bs.length := by rw [Element.size]; omega
        rw [Loop.returns_iff_of_inr hstep, Loop.returns_iff_of_inr hstep, P2pReadable,
          and_iff_right hhead, p2pBodies_cons, ← List.append_assoc, List.append_assoc,
          List.length_append, ← ofNat_length_body, ← List.append_assoc]
        exact ih hnext hsize
      · rw [Loop.returns_iff_of_inl (mergePass_of_not_readable h hbs hhead)]
        refine ⟨fun hread => absurd hread.1 hhead, fun _ => ?_⟩
        rw [Loop.returns_iff_of_inl (mergePass_of_not_readable h hbs hhead)]

/-- The loop of `rtw_get_p2p_merged_ies_len`, from an element on. -/
lemma returns_mergedLenPass {len : ℕ} (h : bs.drop pos = encode es) (hpos : pos ≤ bs.length)
    (hbs : bs.length < 2 ^ 32) (hread : P2pReadable pos es)
    (hlen : len + (p2pBodies es).length < 256) :
    Loop.Returns (mergedLenPass bs) (sint pos, len) (some (len + (p2pBodies es).length + 4)) := by
  induction es generalizing pos len with
  | nil =>
      have hend : bs.length ≤ pos := List.drop_eq_nil_iff.1 h
      have hpass : mergedLenPass bs (sint pos, len) = .inl (some (len + 4)) := by
        rw [mergedLenPass, below_sint (by omega), if_neg (by simp; omega)]
        congr 2
        simp [p2pBodies] at hlen
        omega
      rw [Loop.returns_iff_of_inl hpass]
      rfl
  | cons e es ih =>
      have hall := length_of_drop h
      have hsize : pos + e.size ≤ bs.length := by rw [Element.size]; omega
      rw [Loop.returns_iff_of_inr (mergedLenPass_of_readable h hbs hread.1)]
      rw [p2pBodies_cons, List.length_append] at hlen ⊢
      split
      · next hp2p =>
          rw [if_pos hp2p, List.length_drop] at hlen
          rw [List.length_drop]
          have hsint :
              sint ((len : ℤ) + (e.data.length - 4 : ℕ)) = (len + (e.data.length - 4) : ℕ) :=
            sint_of_lt (by omega) (by omega)
          rw [hsint, ← Nat.add_assoc]
          exact ih (drop_size h) hsize hread.2 (by omega)
      · next hp2p =>
          rw [if_neg hp2p, List.length_nil, Nat.zero_add] at hlen
          rw [List.length_nil, Nat.zero_add]
          exact ih (drop_size h) hsize hread.2 hlen

lemma sint_zero : sint ((0 : ℕ) : ℤ) = 0 := sint_of_lt le_rfl (by norm_num)

/-- The whole loop of `rtw_p2p_merge_ies`. -/
lemma returns_mergePass_encode (h : (encode es).length < 2 ^ 32) :
    (P2pReadable 0 es → Loop.Returns (mergePass (encode es)) {}
      (some ((UInt8.ofNat (p2pBodies es).length).toNat + 4, elOui ++ p2pBodies es))) ∧
    (¬ P2pReadable 0 es → Loop.Returns (mergePass (encode es)) {} none) := by
  have hreturns : (P2pReadable 0 es →
        Loop.Returns (mergePass (encode es)) ⟨sint (0 : ℕ), 0, elOui⟩ _) ∧
      (¬ P2pReadable 0 es → Loop.Returns (mergePass (encode es)) ⟨sint (0 : ℕ), 0, elOui⟩ none) :=
    returns_mergePass List.drop_zero (Nat.zero_le _) h
  rwa [sint_zero, UInt8.zero_add] at hreturns

lemma MergesP2p.readable (hmerges : MergesP2p es) (h : (encode es).length < 2 ^ 32) :
    P2pReadable 0 es ∧ (p2pBodies es).length < 256 := by
  obtain ⟨hread, hnot⟩ := returns_mergePass_encode h
  obtain ⟨len, written, -, hmerge, hlen, -⟩ := hmerges
  by_cases hreadable : P2pReadable 0 es
  · have heq := (hread hreadable).unique hmerge
    obtain ⟨rfl, rfl⟩ := Prod.mk.inj (Option.some.inj heq)
    have hlt := UInt8.toNat_lt (UInt8.ofNat (p2pBodies es).length)
    have hsix : elOui.length = 6 := rfl
    rw [List.length_append] at hlen
    exact ⟨hreadable, by omega⟩
  · cases (hnot hreadable).unique hmerge

/-- The two functions agree, and write the merged element, exactly if they read the elements
rightly and the bodies have less than 256 bytes together. -/
theorem mergesP2p_iff (es : List Element) (h : (encode es).length < 2 ^ 32) :
    MergesP2p es ↔ P2pReadable 0 es ∧ (p2pBodies es).length < 256 := by
  refine ⟨fun hmerges => hmerges.readable h, ?_⟩
  rintro ⟨hreadable, hlt⟩
  have hmerge := (returns_mergePass_encode h).1 hreadable
  have hbyte : (UInt8.ofNat (p2pBodies es).length).toNat = (p2pBodies es).length := by
    rw [UInt8.toNat_ofNat', Nat.mod_eq_of_lt hlt]
  have hlen : Loop.Returns (mergedLenPass (encode es)) (sint (0 : ℕ), (0 : ℕ)) _ :=
    returns_mergedLenPass List.drop_zero (Nat.zero_le _) h hreadable (by omega)
  have hsix : elOui.length = 6 := rfl
  rw [hbyte] at hmerge
  rw [sint_zero, Nat.zero_add] at hlen
  refine ⟨_, _, hlen, hmerge, ?_, rfl⟩
  rw [List.length_append]
  omega

/-- A P2P element with one attribute. -/
def shortP2p : Element := ⟨vendorSpecificIe, p2pOui ++ [0x02, 0x02, 0x00, 0x27, 0x0C], by decide⟩

/-- Two elements are merged. -/
theorem mergesP2p_two : MergesP2p [shortP2p, shortP2p] := by
  have hlt : (encode [shortP2p, shortP2p]).length < 2 ^ 32 := by
    have hlen : (encode [shortP2p, shortP2p]).length = 22 := by decide
    rw [hlen]
    norm_num
  have hsize : 0 + shortP2p.size = 11 := by decide
  have hshort : ¬ shortP2p.data.length < 4 := by decide
  refine (mergesP2p_iff _ hlt).2 ⟨⟨⟨?_, ?_⟩, ⟨?_, ?_⟩, trivial⟩, by decide⟩
  · norm_num
  · exact fun _ h => absurd h hshort
  · rw [hsize]
    norm_num
  · exact fun _ h => absurd h hshort

/-- A P2P element of full length. -/
def longP2p : Element :=
  ⟨vendorSpecificIe, p2pOui ++ List.replicate 251 0, by
    rw [List.length_append, List.length_replicate]
    decide⟩

/-- The bodies of two elements do not fit in a `u8`, a vendor element of three bytes is taken for a
P2P element, and one without data is the last. -/
theorem mergesP2p_long : ¬ MergesP2p [longP2p, longP2p] ∧
    ¬ MergesP2p [⟨vendorSpecificIe, [0x50, 0x6F, 0x9A], by decide⟩, ⟨0x09, [], by decide⟩] ∧
    ¬ MergesP2p [⟨vendorSpecificIe, [], by decide⟩] := by
  refine ⟨fun h => ?_, fun h => ?_, fun h => ?_⟩
  · have hlen : (encode [longP2p, longP2p]).length = 514 := by decide +kernel
    have hbodies : (p2pBodies [longP2p, longP2p]).length = 502 := by decide +kernel
    have hlt := (h.readable (by rw [hlen]; norm_num)).2
    rw [hbodies] at hlt
    exact absurd hlt (by decide)
  · have hread := (h.readable (lt_of_eq_of_lt rfl (show 7 < 2 ^ 32 by norm_num))).1
    exact (hread.1.2 rfl (by decide)).2 rfl
  · have hread := (h.readable (lt_of_eq_of_lt rfl (show 2 < 2 ^ 32 by norm_num))).1
    exact absurd (hread.1.2 rfl (by decide)).1 (by decide)

end Rtl8723du.Elems
