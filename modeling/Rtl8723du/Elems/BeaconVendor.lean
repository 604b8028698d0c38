import Mathlib.Tactic.MkIffOfInductiveProp
import Rtl8723du.Elems.GetIe
import Rtl8723du.Ie.Bss

/-!
# The vendor elements of a beacon

The two loops of `rtw_check_beacon_data` that look for the WPA and the WMM element.  Each calls
`rtw_get_ie` again behind every vendor element that is another one.  The limit it then gives is the
length of the whole string less that one element, whatever came before it, so a search that finds
nothing more goes on behind the string; and an empty vendor element ends the loop.
-/

namespace Rtl8723du.Elems

open Lib Lib.Bytes Lib.Tlv Lib.Search

/-! ### The code -/

/-- What a loop does with what `rtw_get_ie` finds from the offset `a` on: `accessed` are the offsets
of the element that is wanted that are then read or written. -/
def vendorHandle (bs oui : List UInt8) (accessed : List ℕ) (a : ℕ) :
    Outcome → Outcome ⊕ (ℕ × ℕ)
  | .notFound => .inl .notFound
  | .outside => .inl .outside
  | .found off ieLen =>
      match bytesIn bs (a + off + 2) oui.length with
      | none => .inl .outside
      | some bytes =>
          if bytes = oui then
            if ∀ k ∈ accessed, a + off + k < bs.length then .inl (.found (a + off) ieLen)
            else .inl .outside
          -- `ie_len == 0`
          else if ieLen = 0 then .inl .notFound
          else .inr (a + off + (ieLen + 2), ieLen)

/-- A pass, with the offset of `p` and with `ie_len`. -/
def vendorPass (bs oui : List UInt8) (accessed : List ℕ) (s : ℕ × ℕ) : Outcome ⊕ (ℕ × ℕ) :=
  vendorHandle bs oui accessed s.1 (rtwGetIeTo (bs.drop s.1) 0xDD (bs.length - (s.2 + 2)))

/-- `WMM_PARA_IE`. -/
def wmmParaIe : List UInt8 := [0x00, 0x50, 0xf2, 0x02, 0x01, 0x01]

/-- A pass of the loop of `rtw_check_beacon_data` that looks for `OUI1`. -/
def beaconWpaPass (bs : List UInt8) : ℕ × ℕ → Outcome ⊕ (ℕ × ℕ) := vendorPass bs wpaOuiType []

/-- A pass of the one that looks for `WMM_PARA_IE`.  Of the element it writes the QoS info and the
ACM bits, and `WMM_param_handler` compares `struct WMM_para_element` with it. -/
def beaconWmmPass (bs : List UInt8) : ℕ × ℕ → Outcome ⊕ (ℕ × ℕ) :=
  vendorPass bs wmmParaIe ([8, 10, 14, 18, 22] ++ List.range' 8 18)

/-- What is given to `rtw_check_beacon_data` and is not refused for its length. -/
structure BeaconData where
  pbuf : List UInt8
  length_le : pbuf.length ≤ Beacon.maxIeSz

/-- The elements, behind `_BEACON_IE_OFFSET_`. -/
def BeaconData.elems (d : BeaconData) : List UInt8 := d.pbuf.drop 12

/-! ### When they find what is there -/

/-- A loop ends, reads inside the string only and finds the first element with the OUI. -/
def VendorSearchOk (bs oui : List UInt8) (pass : ℕ × ℕ → Outcome ⊕ (ℕ × ℕ)) : Prop :=
  Loop.Returns pass (0, 0) (firstIe bs (hasOui bs 0xDD (some oui)) (ieFormat.len bs))

/-- Where a search ends that begins behind the vendor element `last`, or at the start. -/
def searchEnd (bs : List UInt8) (last : Option ℕ) : ℕ :=
  last.elim (bs.length - 2) (bs.length + ·)

/-- What may stand behind the last element: nothing that a search comes to, or a part of an element
with its header, which the search steps over to its end.  If it is a vendor element, the bytes that
are compared are inside, and are others, and it says that it is no shorter than the string. -/
def VendorRest (bs oui : List UInt8) (last : Option ℕ) (t : ℕ) : Prop :=
  searchEnd bs last ≤ t ∨ t + 2 ≤ bs.length ∧
    if hasId bs 0xDD t then NotOui bs 0xDD (some oui) t ∧ bs.length ≤ ieFormat.size bs t
    else searchEnd bs last ≤ t + ieFormat.size bs t

/-- The vendor elements among `xs` before the one that is wanted. -/
def vendors (bs oui : List UInt8) (xs : List ℕ) : List ℕ :=
  (xs.takeWhile fun x => !hasOui bs 0xDD (some oui) x).filter (hasId bs 0xDD)

/-- Those of them before the first empty one. -/
def passed (bs oui : List UInt8) (xs : List ℕ) : List ℕ :=
  (vendors bs oui xs).takeWhile fun x => ieFormat.len bs x ≠ 0

/-- The first empty one. -/
def firstEmpty (bs oui : List UInt8) (xs : List ℕ) : Option ℕ :=
  (vendors bs oui xs).find? fun x => ieFormat.len bs x = 0

/-- The search for the OUI goes well over the elements `xs` of the string and what stands behind
them at `t`, with `last` the vendor element before. -/
@[mk_iff] structure VendorFine (bs oui : List UInt8) (accessed : List ℕ) (last : Option ℕ) (t : ℕ)
    (xs : List ℕ) : Prop where
  /-- No other vendor element is taken for the wanted one. -/
  passed : ∀ x ∈ passed bs oui xs, NotOui bs 0xDD (some oui) x
  /-- The wanted one is not behind an empty one, and what is accessed of it is inside. -/
  wanted : ∀ x ∈ xs.find? (hasOui bs 0xDD (some oui)),
    firstEmpty bs oui xs = none ∧ ∀ k ∈ accessed, x + k < bs.length
  /-- If none is wanted, the first empty one is not taken for it, or not come to. -/
  empty : xs.find? (hasOui bs 0xDD (some oui)) = none → ∀ x ∈ firstEmpty bs oui xs,
    searchEnd bs ((Elems.passed bs oui xs).getLast?.or last) ≤ x ∨ NotOui bs 0xDD (some oui) x
  /-- If there is no empty one either, the string ends well. -/
  rest : xs.find? (hasOui bs 0xDD (some oui)) = none → firstEmpty bs oui xs = none →
    VendorRest bs oui ((Elems.passed bs oui xs).getLast?.or last) t

variable {bs oui : List UInt8} {accessed : List ℕ} {last : Option ℕ} {x t : ℕ} {xs : List ℕ}

/-! ### The condition, element by element -/

lemma vendors_cons_of_other (hwant : hasOui bs 0xDD (some oui) x = false)
    (hid : hasId bs 0xDD x = false) : vendors bs oui (x :: xs) = vendors bs oui xs := by
  rw [vendors, List.takeWhile_cons_of_pos (by simp [hwant]),
    List.filter_cons_of_neg (by simp [hid])]
  rfl

lemma vendors_cons_of_vendor (hwant : hasOui bs 0xDD (some oui) x = false)
    (hid : hasId bs 0xDD x = true) : vendors bs oui (x :: xs) = x :: vendors bs oui xs := by
  rw [vendors, List.takeWhile_cons_of_pos (by simp [hwant]), List.filter_cons_of_pos hid]
  rfl

lemma vendorFine_nil : VendorFine bs oui accessed last t [] ↔ VendorRest bs oui last t := by
  simp [vendorFine_iff, passed, firstEmpty, vendors]

/-- The wanted element. -/
lemma vendorFine_cons_of_wanted (hwant : hasOui bs 0xDD (some oui) x = true) :
    VendorFine bs oui accessed last t (x :: xs) ↔ ∀ k ∈ accessed, x + k < bs.length := by
  have hnone : vendors bs oui (x :: xs) = [] := by
    rw [vendors, List.takeWhile_cons_of_neg (by simp [hwant]), List.filter_nil]
  simp [vendorFine_iff, passed, firstEmpty, hnone, hwant]

/-- An element of another id. -/
lemma vendorFine_cons_of_other (hwant : hasOui bs 0xDD (some oui) x = false)
    (hid : hasId bs 0xDD x = false) :
    VendorFine bs oui accessed last t (x :: xs) ↔ VendorFine bs oui accessed last t xs := by
  simp only [vendorFine_iff, passed, firstEmpty, vendors_cons_of_other hwant hid,
    List.find?_cons_of_neg (show ¬ hasOui bs 0xDD (some oui) x = true by simp [hwant])]

/-- A vendor element that is another one. -/
lemma vendorFine_cons_of_vendor (hwant : hasOui bs 0xDD (some oui) x = false)
    (hid : hasId bs 0xDD x = true) (hlen : ieFormat.len bs x ≠ 0) :
    VendorFine bs oui accessed last t (x :: xs) ↔
      NotOui bs 0xDD (some oui) x ∧ VendorFine bs oui accessed (some x) t xs := by
  have hpassed : passed bs oui (x :: xs) = x :: passed bs oui xs := by
    rw [passed, vendors_cons_of_vendor hwant hid, List.takeWhile_cons_of_pos (by simp [hlen])]
    rfl
  have hempty : firstEmpty bs oui (x :: xs) = firstEmpty bs oui xs := by
    rw [firstEmpty, vendors_cons_of_vendor hwant hid, List.find?_cons_of_neg (by simp [hlen])]
    rfl
  have hlast : (passed bs oui (x :: xs)).getLast?.or last =
      (passed bs oui xs).getLast?.or (some x) := by
    rw [hpassed, List.getLast?_cons]
    cases (passed bs oui xs).getLast? <;> rfl
  rw [vendorFine_iff, vendorFine_iff, hlast, hpassed, hempty, List.forall_mem_cons,
    List.find?_cons_of_neg (by simp [hwant]), and_assoc]

/-- An empty one. -/
lemma vendorFine_cons_of_empty (hwant : hasOui bs 0xDD (some oui) x = false)
    (hid : hasId bs 0xDD x = true) (hlen : ieFormat.len bs x = 0) :
    VendorFine bs oui accessed last t (x :: xs) ↔
      xs.find? (hasOui bs 0xDD (some oui)) = none ∧
        (searchEnd bs last ≤ x ∨ NotOui bs 0xDD (some oui) x) := by
  have hpassed : passed bs oui (x :: xs) = [] := by
    rw [passed, vendors_cons_of_vendor hwant hid, List.takeWhile_cons_of_neg (by simp [hlen])]
  have hempty : firstEmpty bs oui (x :: xs) = some x := by
    rw [firstEmpty, vendors_cons_of_vendor hwant hid, List.find?_cons_of_pos (by simp [hlen])]
  rw [vendorFine_iff, hpassed, hempty, List.find?_cons_of_neg (by simp [hwant])]
  cases hfind : xs.find? (hasOui bs 0xDD (some oui)) with
  | none => simp
  | some y => simp

/-! ### The loops as one -/

/-- A pass of `rtw_get_ie` with the test of the limit before it too. -/
def getIeGuarded (pbuf : List UInt8) (index limit : ℤ) (q : ℕ × ℤ) : Outcome ⊕ (ℕ × ℤ) :=
  if limit ≤ q.2 then .inl .notFound else getIeToPass pbuf index limit q

lemma run_getIeGuarded {index limit : ℤ} (k : ℕ) (q : ℕ × ℤ) (hq : ¬ limit ≤ q.2) :
    Loop.run (getIeGuarded bs index limit) k q = Loop.run (getIeToPass bs index limit) k q := by
  induction k generalizing q with
  | zero => rfl
  | succ k ih =>
      have hguard : getIeGuarded bs index limit q = getIeToPass bs index limit q := if_neg hq
      rw [Loop.run, Loop.run, hguard]
      rcases hpass : getIeToPass bs index limit q with r | ⟨a, i⟩
      · rfl
      · refine ih (a, i) ?_
        -- the pass went on, so its own test did not fire
        rcases Nat.lt_or_ge bs.length (q.1 + 2) with hout | hin
        · rw [← Prod.mk.eta (p := q), getIeToPass_outside hout] at hpass
          cases hpass
        · rw [← Prod.mk.eta (p := q), getIeToPass_eq hin] at hpass
          split at hpass
          · cases hpass
          · split at hpass
            · cases hpass
            · rename_i hlimit
              rwa [← (Prod.mk.inj (Sum.inr.inj hpass)).2]

/-- With the test before it the loop returns what `rtw_get_ie` does. -/
lemma returns_getIeGuarded (bs : List UInt8) (index limit : ℤ) :
    Loop.Returns (getIeGuarded bs index limit) (0, 0) (rtwGetIeTo bs index limit) := by
  rw [rtwGetIeTo]
  split
  · have hguard : getIeGuarded bs index limit (0, 0) = .inl .notFound :=
      if_pos (by dsimp only; omega)
    exact (Loop.returns_iff_of_inl hguard).2 rfl
  · obtain ⟨r, hr⟩ : ∃ r, Loop.run (getIeToPass bs index limit) (bs.length + 1) (0, 0) = some r :=
      exists_run_getIeToPass limit bs.length 0 0 (Nat.le_add_right _ _)
    rw [hr]
    exact ⟨bs.length + 1, (run_getIeGuarded _ _ (by dsimp only; omega)).trans hr⟩

/-- The searches and what is done between them, as one loop. -/
def vendorFlat (bs oui : List UInt8) (accessed : List ℕ) :
    (ℕ × ℕ) × (ℕ × ℤ) → Outcome ⊕ ((ℕ × ℕ) × (ℕ × ℤ)) :=
  flat (fun s => getIeGuarded (bs.drop s.1) 0xDD (bs.length - (s.2 + 2)))
    (fun s => vendorHandle bs oui accessed s.1) fun _ => (0, 0)

lemma returns_vendorFlat {r : Outcome} (s : ℕ × ℕ) :
    Loop.Returns (vendorPass bs oui accessed) s r ↔
      Loop.Returns (vendorFlat bs oui accessed) (s, (0, 0)) r :=
  returns_nested (P := fun _ => True) (fun _ _ => ⟨_, returns_getIeGuarded _ _ _, rfl⟩)
    (fun _ _ _ _ _ => trivial) trivial

/-- The offset and `ie_len` with which a search begins. -/
def startOf (bs : List UInt8) (last : Option ℕ) : ℕ × ℕ :=
  last.elim (0, 0) fun o => (o + ieFormat.size bs o, ieFormat.len bs o)

/-- The loop returns `r` from the offset `x` on, in the search behind `last`. -/
def ReturnsAt (bs oui : List UInt8) (accessed : List ℕ) (last : Option ℕ) (x : ℕ) (r : Outcome) :
    Prop :=
  Loop.Returns (vendorFlat bs oui accessed)
    (startOf bs last, (x - (startOf bs last).1, ((x - (startOf bs last).1 : ℕ) : ℤ))) r

variable {r : Outcome}

lemma limit_le_iff (hx : (startOf bs last).1 ≤ x) :
    (bs.length : ℤ) - ((startOf bs last).2 + 2) ≤ ((x - (startOf bs last).1 : ℕ) : ℤ) ↔
      searchEnd bs last ≤ x := by
  cases last with
  | none =>
      simp only [startOf, searchEnd, Option.elim_none]
      omega
  | some o =>
      have hsize : ieFormat.size bs o = 2 + ieFormat.len bs o := rfl
      simp only [startOf, searchEnd, Option.elim_some] at hx ⊢
      omega

/-- The search is at its end. -/
lemma returnsAt_done (hx : (startOf bs last).1 ≤ x) (hend : searchEnd bs last ≤ x) :
    ReturnsAt bs oui accessed last x r ↔ r = .notFound := by
  refine Loop.returns_iff_of_inl ?_
  rw [vendorFlat, flat, getIeGuarded]
  simp only [if_pos ((limit_le_iff hx).2 hend)]
  rfl

section Pass

variable (hx : (startOf bs last).1 ≤ x) (hend : x < searchEnd bs last)
include hx hend

lemma getIeGuarded_eq : getIeGuarded (bs.drop (startOf bs last).1) 0xDD
      (bs.length - ((startOf bs last).2 + 2))
      (x - (startOf bs last).1, ((x - (startOf bs last).1 : ℕ) : ℤ)) =
    getIeToPass (bs.drop (startOf bs last).1) 0xDD (bs.length - ((startOf bs last).2 + 2))
      (x - (startOf bs last).1, ((x - (startOf bs last).1 : ℕ) : ℤ)) :=
  if_neg fun h => Nat.not_le.2 hend ((limit_le_iff hx).1 h)

/-- A header that is not inside is read. -/
lemma returnsAt_outside (hout : bs.length < x + 2) :
    ReturnsAt bs oui accessed last x r ↔ r = .outside := by
  have hdrop : (bs.drop (startOf bs last).1).length < x - (startOf bs last).1 + 2 := by
    rw [List.length_drop]
    omega
  refine Loop.returns_iff_of_inl ?_
  rw [vendorFlat, flat, getIeGuarded_eq hx hend, getIeToPass_outside hdrop]
  rfl

/-- From an element of another id the search goes on behind it. -/
lemma returnsAt_other (hbs : bs.length ≤ Beacon.maxIeSz) (hin : x + 2 ≤ bs.length)
    (hid : hasId bs 0xDD x = false) : ReturnsAt bs oui accessed last x r ↔
      ReturnsAt bs oui accessed last (x + ieFormat.size bs x) r := by
  have hmax : Beacon.maxIeSz = 768 := rfl
  have hsize : ieFormat.size bs x = 2 + (bs.getD (x + 1) 0).toNat := rfl
  have hlen := (bs.getD (x + 1) 0).toNat_lt
  have hdrop : x - (startOf bs last).1 + 2 ≤ (bs.drop (startOf bs last).1).length := by
    rw [List.length_drop]
    omega
  have hback : (startOf bs last).1 + (x - (startOf bs last).1) = x := by omega
  have hnext : x + ieFormat.size bs x - (startOf bs last).1 =
      x - (startOf bs last).1 + ieFormat.size bs x := by omega
  have hpass := (getIeGuarded_eq hx hend).trans (getIeToPass_eq hdrop)
  rw [hasId_drop, hback, hid, if_neg (by simp), size_drop, hback,
    sint_of_lt (by omega) (by omega), ← Nat.cast_add, ← hnext] at hpass
  by_cases hlast : searchEnd bs last ≤ x + ieFormat.size bs x
  · rw [if_pos ((limit_le_iff (by omega)).2 hlast)] at hpass
    rw [returnsAt_done (by omega) hlast]
    refine Loop.returns_iff_of_inl ?_
    rw [vendorFlat, flat, hpass]
    rfl
  · rw [if_neg fun h => hlast ((limit_le_iff (by omega)).1 h)] at hpass
    refine Loop.returns_iff_of_inr ?_
    rw [vendorFlat, flat, hpass]

/-- A vendor element is handled. -/
lemma returnsAt_vendor (hin : x + 2 ≤ bs.length) (hid : hasId bs 0xDD x = true) :
    ReturnsAt bs oui accessed last x r ↔
      (bytesIn bs (x + 2) oui.length).elim (r = .outside) fun bytes =>
        if bytes = oui then
          r = if ∀ k ∈ accessed, x + k < bs.length then .found x (ieFormat.len bs x) else .outside
        else if ieFormat.len bs x = 0 then r = .notFound
        else ReturnsAt bs oui accessed (some x) (x + ieFormat.size bs x) r := by
  have hdrop : x - (startOf bs last).1 + 2 ≤ (bs.drop (startOf bs last).1).length := by
    rw [List.length_drop]
    omega
  have hback : (startOf bs last).1 + (x - (startOf bs last).1) = x := by omega
  have hpass := (getIeGuarded_eq hx hend).trans (getIeToPass_eq hdrop)
  rw [hasId_drop, hback, hid, if_pos rfl, len_drop, hback] at hpass
  have hflat : vendorFlat bs oui accessed
      (startOf bs last, (x - (startOf bs last).1, ((x - (startOf bs last).1 : ℕ) : ℤ))) =
      (vendorHandle bs oui accessed (startOf bs last).1
        (.found (x - (startOf bs last).1) (ieFormat.len bs x))).map id fun s => (s, (0, 0)) := by
    rw [vendorFlat, flat, hpass]
  rw [vendorHandle, hback] at hflat
  rcases hbytes : bytesIn bs (x + 2) oui.length with _ | bytes
  · simp only [hbytes] at hflat
    exact Loop.returns_iff_of_inl hflat
  · simp only [hbytes] at hflat
    rw [Option.elim_some]
    by_cases heq : bytes = oui
    · rw [if_pos heq] at hflat ⊢
      by_cases hacc : ∀ k ∈ accessed, x + k < bs.length
      · rw [if_pos hacc] at hflat ⊢
        exact Loop.returns_iff_of_inl hflat
      · rw [if_neg hacc] at hflat ⊢
        exact Loop.returns_iff_of_inl hflat
    · rw [if_neg heq] at hflat ⊢
      by_cases hzero : ieFormat.len bs x = 0
      · rw [if_pos hzero] at hflat ⊢
        exact Loop.returns_iff_of_inl hflat
      · rw [if_neg hzero] at hflat ⊢
        refine (Loop.returns_iff_of_inr hflat).trans ?_
        have hstart : startOf bs (some x) = (x + (ieFormat.len bs x + 2), ieFormat.len bs x) := by
          rw [Nat.add_comm (ieFormat.len bs x)]
          rfl
        have hsize : ieFormat.size bs x = ieFormat.len bs x + 2 := Nat.add_comm ..
        rw [ReturnsAt, hstart, hsize, Nat.sub_self]
        rfl

end Pass

/-! ### One element -/

lemma startOf_le_of_some (o : ℕ) : (startOf bs (some o)).1 = o + ieFormat.size bs o := rfl

/-- A vendor element is not taken for the wanted one if the bytes that are compared are others. -/
lemma notOui_of_vendor (houi : oui ≠ []) (hid : hasId bs 0xDD x = true) :
    NotOui bs 0xDD (some oui) x ↔ ∃ bytes, bytesIn bs (x + 2) oui.length = some bytes ∧
      bytes ≠ oui := by
  have hpos : oui.length ≠ 0 := fun h => houi (List.length_eq_zero_iff.1 h)
  rw [NotOui, bytesIn, if_neg hpos]
  constructor
  · intro h
    obtain ⟨o, ho, -, hin, hne⟩ := h hid
    obtain rfl : oui = o := Option.some.inj ho
    exact ⟨_, if_pos hin, hne⟩
  · rintro ⟨bytes, hbytes, hne⟩ -
    split at hbytes
    · rename_i hin
      obtain rfl := Option.some.inj hbytes
      exact ⟨oui, rfl, houi, hin, hne⟩
    · cases hbytes

/-- A wanted element has the OUI inside of it. -/
lemma bytesIn_of_hasOui (hin : x + ieFormat.size bs x ≤ bs.length)
    (hwant : hasOui bs 0xDD (some oui) x = true) :
    x + 2 + oui.length ≤ bs.length ∧ bytesIn bs (x + 2) oui.length = some oui := by
  have hsize : ieFormat.size bs x = 2 + ieFormat.len bs x := rfl
  have hpre : oui <+: body bs x := List.isPrefixOf_iff_prefix.1 (Bool.and_eq_true_iff.1 hwant).2
  have hlen := hpre.length_le
  have hle : oui.length ≤ ieFormat.len bs x := by
    rw [body, List.length_take] at hlen
    omega
  have htake : (bs.drop (x + 2)).take oui.length = oui := by
    have heq := List.prefix_iff_eq_take.1 hpre
    rw [body, List.take_take, Nat.min_eq_left hle] at heq
    exact heq.symm
  refine ⟨by omega, ?_⟩
  rw [bytesIn_eq (by omega), htake]

/-- What follows a vendor element that is not taken for the wanted one. -/
lemma returnsAt_of_notOui (hx : (startOf bs last).1 ≤ x) (hend : x < searchEnd bs last)
    (hin : x + 2 ≤ bs.length) (hid : hasId bs 0xDD x = true) (houi : oui ≠ [])
    (hnot : NotOui bs 0xDD (some oui) x) : ReturnsAt bs oui accessed last x r ↔
      if ieFormat.len bs x = 0 then r = .notFound
      else ReturnsAt bs oui accessed (some x) (x + ieFormat.size bs x) r := by
  obtain ⟨bytes, hbytes, hne⟩ := (notOui_of_vendor houi hid).1 hnot
  rw [returnsAt_vendor hx hend hin hid, hbytes, Option.elim_some, if_neg hne]

/-- A vendor element that is taken for the wanted one, or is compared outside. -/
lemma returnsAt_of_misled (hx : (startOf bs last).1 ≤ x) (hend : x < searchEnd bs last)
    (hin : x + 2 ≤ bs.length) (hid : hasId bs 0xDD x = true) (houi : oui ≠ [])
    (hnot : ¬ NotOui bs 0xDD (some oui) x) (hr : ReturnsAt bs oui accessed last x r) :
    r ≠ .notFound ∧ ∀ y len, y ≠ x → r ≠ .found y len := by
  rw [returnsAt_vendor hx hend hin hid] at hr
  rcases hbytes : bytesIn bs (x + 2) oui.length with _ | bytes
  · rw [hbytes, Option.elim_none] at hr
    rw [hr]
    exact ⟨nofun, nofun⟩
  · by_cases heq : bytes = oui
    · rw [hbytes, Option.elim_some, if_pos heq] at hr
      rw [hr]
      split
      · exact ⟨nofun, fun y len hne h => hne (Outcome.found.inj h).1.symm⟩
      · exact ⟨nofun, nofun⟩
    · exact absurd ((notOui_of_vendor houi hid).2 ⟨bytes, hbytes, heq⟩) hnot

/-- It is not the first wanted one. -/
lemma returnsAt_first_of_misled (hwant : hasOui bs 0xDD (some oui) x = false)
    (h : (xs.find? (hasOui bs 0xDD (some oui))).elim Outcome.notFound
        (fun y => .found y (ieFormat.len bs y)) ≠ .notFound ∧
      ∀ y len, y ≠ x → (xs.find? (hasOui bs 0xDD (some oui))).elim Outcome.notFound
        (fun y => .found y (ieFormat.len bs y)) ≠ .found y len) : False := by
  obtain ⟨hfound, hother⟩ := h
  cases hfind : xs.find? (hasOui bs 0xDD (some oui)) with
  | none =>
      rw [hfind] at hfound
      exact hfound rfl
  | some y =>
      rw [hfind] at hother
      refine hother y (ieFormat.len bs y) ?_ rfl
      rintro rfl
      exact Bool.false_ne_true (hwant.symm.trans (List.find?_some hfind))

/-- What stands behind the last element. -/
lemma returnsAt_rest (hbs : bs.length ≤ Beacon.maxIeSz) (houi : oui ≠ [])
    (hx : (startOf bs last).1 ≤ x) (hnext : bs.length < x + ieFormat.size bs x) :
    ReturnsAt bs oui accessed last x .notFound ↔ VendorRest bs oui last x := by
  have hsize : ieFormat.size bs x = 2 + ieFormat.len bs x := rfl
  rw [VendorRest]
  rcases Nat.lt_or_ge x (searchEnd bs last) with hend | hend
  · rw [or_iff_right (Nat.not_le.2 hend)]
    rcases Nat.lt_or_ge bs.length (x + 2) with hout | hin
    · rw [returnsAt_outside hx hend hout]
      exact iff_of_false nofun fun h => absurd h.1 (by omega)
    · rw [and_iff_right hin]
      rcases hid : hasId bs 0xDD x
      · rw [returnsAt_other hx hend hbs hin hid, if_neg (by simp)]
        rcases Nat.lt_or_ge (x + ieFormat.size bs x) (searchEnd bs last) with hgo | hstop
        · rw [returnsAt_outside (by omega) hgo (by omega)]
          exact iff_of_false nofun (Nat.not_le.2 hgo)
        · rw [returnsAt_done (by omega) hstop]
          exact iff_of_true rfl hstop
      · rw [if_pos rfl]
        by_cases hnot : NotOui bs 0xDD (some oui) x
        · rw [returnsAt_of_notOui hx hend hin hid houi hnot, if_neg (by omega), and_iff_right hnot]
          have hend' : searchEnd bs (some x) = bs.length + x := rfl
          rcases Nat.lt_or_ge (ieFormat.size bs x) bs.length with hgo | hstop
          · rw [returnsAt_outside (Nat.le_of_eq (startOf_le_of_some x)) (by omega) (by omega)]
            exact iff_of_false nofun (Nat.not_le.2 hgo)
          · rw [returnsAt_done (Nat.le_of_eq (startOf_le_of_some x)) (by omega)]
            exact iff_of_true rfl hstop
        · refine iff_of_false (fun hr => ?_) fun h => hnot h.1
          exact (returnsAt_of_misled hx hend hin hid houi hnot hr).1 rfl
  · rw [returnsAt_done hx hend]
    exact iff_of_true rfl (.inl hend)

/-- Only an empty element in the last two bytes is behind the end of a search. -/
lemma empty_of_searchEnd_le (hx : (startOf bs last).1 ≤ x) (hend : searchEnd bs last ≤ x)
    (hin : x + ieFormat.size bs x ≤ bs.length) :
    ieFormat.len bs x = 0 ∧ x + ieFormat.size bs x = bs.length := by
  have hsize : ieFormat.size bs x = 2 + ieFormat.len bs x := rfl
  cases last with
  | none =>
      have hnone : searchEnd bs none = bs.length - 2 := rfl
      omega
  | some o =>
      have hsome : searchEnd bs (some o) = bs.length + o := rfl
      omega

/-! ### The search -/

/-- From an element on the search goes well exactly if `VendorFine` says so. -/
lemma returnsAt_iff (hbs : bs.length ≤ Beacon.maxIeSz) (houi : oui ≠ []) (x : ℕ) :
    ∀ last, (startOf bs last).1 ≤ x →
      (ReturnsAt bs oui accessed last x
          (((ieFormat.records bs x).find? (hasOui bs 0xDD (some oui))).elim .notFound
            fun y => .found y (ieFormat.len bs y)) ↔
        VendorFine bs oui accessed last (Walk.stop (ieFormat.next bs) bs.length x)
          (ieFormat.records bs x)) := by
  have hforward : Walk.Forward (ieFormat.next bs) bs.length := forward
  induction x using hforward.induction with
  | none x hnone =>
      intro last hx
      rw [Format.records, Walk.records_of_none hnone, Walk.stop_of_none hnone, vendorFine_nil]
      exact returnsAt_rest hbs houi hx (next_eq_none.1 hnone)
  | some x y hsome ih =>
      intro last hx
      have hrecords : ieFormat.records bs x = x :: ieFormat.records bs y :=
        forward.records_of_some hsome
      have hstop := forward.stop_of_some hsome
      obtain ⟨hin, rfl⟩ := next_eq_some.1 hsome
      have hsize : ieFormat.size bs x = 2 + ieFormat.len bs x := rfl
      rw [hrecords, hstop]
      rcases hwant : hasOui bs 0xDD (some oui) x
      · rw [List.find?_cons_of_neg (by simp [hwant])]
        rcases Nat.lt_or_ge x (searchEnd bs last) with hend | hend
        · rcases hid : hasId bs 0xDD x
          · rw [returnsAt_other hx hend hbs (by omega) hid, vendorFine_cons_of_other hwant hid]
            exact ih last (by omega)
          · by_cases hzero : ieFormat.len bs x = 0
            · rw [vendorFine_cons_of_empty hwant hid hzero, or_iff_right (Nat.not_le.2 hend)]
              by_cases hnot : NotOui bs 0xDD (some oui) x
              · rw [returnsAt_of_notOui hx hend (by omega) hid houi hnot, if_pos hzero,
                  and_iff_left hnot]
                cases (ieFormat.records bs (x + ieFormat.size bs x)).find?
                    (hasOui bs 0xDD (some oui)) with
                | none => exact iff_of_true rfl rfl
                | some z => exact iff_of_false (fun h => by cases h) fun h => by cases h
              · refine iff_of_false (fun hr => ?_) fun h => hnot h.2
                exact returnsAt_first_of_misled hwant
                  (returnsAt_of_misled hx hend (by omega) hid houi hnot hr)
            · rw [vendorFine_cons_of_vendor hwant hid hzero]
              by_cases hnot : NotOui bs 0xDD (some oui) x
              · rw [returnsAt_of_notOui hx hend (by omega) hid houi hnot, if_neg hzero,
                  and_iff_right hnot]
                exact ih (some x) (Nat.le_of_eq (startOf_le_of_some x))
              · refine iff_of_false (fun hr => ?_) fun h => hnot h.1
                exact returnsAt_first_of_misled hwant
                  (returnsAt_of_misled hx hend (by omega) hid houi hnot hr)
        · -- the search has ended, and this is the last element
          obtain ⟨hzero, hlast⟩ := empty_of_searchEnd_le hx hend hin
          have hend' : ieFormat.next bs (x + ieFormat.size bs x) = none :=
            next_of_length_le (Nat.le_of_eq hlast.symm)
          rw [Format.records, Walk.records_of_none hend', Walk.stop_of_none hend',
            returnsAt_done hx hend]
          refine iff_of_true rfl ?_
          rcases hid : hasId bs 0xDD x
          · rw [vendorFine_cons_of_other hwant hid, vendorFine_nil]
            exact .inl (by omega)
          · rw [vendorFine_cons_of_empty hwant hid hzero]
            exact ⟨rfl, .inl hend⟩
      · obtain ⟨hlong, hbytes⟩ := bytesIn_of_hasOui hin hwant
        have hid : hasId bs 0xDD x = true := (Bool.and_eq_true_iff.1 hwant).1
        have hpos : oui.length ≠ 0 := fun h => houi (List.length_eq_zero_iff.1 h)
        have hend : x < searchEnd bs last := by
          by_contra hno
          obtain ⟨hzero, hlast⟩ := empty_of_searchEnd_le hx (Nat.not_lt.1 hno) hin
          omega
        rw [List.find?_cons_of_pos hwant, Option.elim_some, vendorFine_cons_of_wanted hwant,
          returnsAt_vendor hx hend (by omega) hid, hbytes, Option.elim_some, if_pos rfl]
        constructor
        · intro h
          by_contra hacc
          rw [if_neg hacc] at h
          cases h
        · intro hacc
          rw [if_pos hacc]

lemma vendorSearchOk_iff (hbs : bs.length ≤ Beacon.maxIeSz) (houi : oui ≠ []) :
    VendorSearchOk bs oui (vendorPass bs oui accessed) ↔
      VendorFine bs oui accessed none (rest bs) (elements bs) :=
  (returns_vendorFlat (0, 0)).trans (returnsAt_iff hbs houi 0 none (Nat.le_refl 0))

lemma BeaconData.length_elems_le (d : BeaconData) : d.elems.length ≤ Beacon.maxIeSz := by
  rw [BeaconData.elems, List.length_drop]
  exact Nat.le_trans (Nat.sub_le _ _) d.length_le

/-- Each loop of `rtw_check_beacon_data` ends, reads inside the string only and finds the element
that it looks for exactly if `VendorFine` says so. -/
theorem beaconVendor_iff (d : BeaconData) :
    (VendorSearchOk d.elems wpaOuiType (beaconWpaPass d.elems) ↔
      VendorFine d.elems wpaOuiType [] none (rest d.elems) (elements d.elems)) ∧
    (VendorSearchOk d.elems wmmParaIe (beaconWmmPass d.elems) ↔
      VendorFine d.elems wmmParaIe ([8, 10, 14, 18, 22] ++ List.range' 8 18) none (rest d.elems)
        (elements d.elems)) :=
  ⟨vendorSearchOk_iff d.length_elems_le (by decide),
    vendorSearchOk_iff d.length_elems_le (by decide)⟩

/-- An SSID and a vendor element of another OUI. -/
def plainBeacon : BeaconData where
  pbuf := List.replicate 12 0 ++ [0x00, 0x01, 0x61] ++ [0xdd, 0x04, 0x00, 0x10, 0x18, 0x02]
  length_le := by decide

/-- A WMM element behind an empty vendor element. -/
def hiddenWmm : BeaconData where
  pbuf := List.replicate 12 0 ++ [0xdd, 0x00] ++ [0xdd, 0x18] ++ wmmParaIe ++ List.replicate 18 0
  length_le := by decide

/-- The search for WPA goes on behind the first of them, and the one for WMM does not find the
element of the second. -/
theorem beaconVendor_not_ok :
    (¬ ∀ d : BeaconData, VendorSearchOk d.elems wpaOuiType (beaconWpaPass d.elems)) ∧
    ¬ ∀ d : BeaconData, VendorSearchOk d.elems wmmParaIe (beaconWmmPass d.elems) := by
  constructor
  · intro h
    have hout : Loop.Returns (beaconWpaPass plainBeacon.elems) (0, 0) .outside :=
      ⟨2, by decide +kernel⟩
    exact absurd ((h plainBeacon).unique hout) (by decide +kernel)
  · intro h
    have hnone : Loop.Returns (beaconWmmPass hiddenWmm.elems) (0, 0) .notFound :=
      ⟨1, by decide +kernel⟩
    exact absurd ((h hiddenWmm).unique hnone) (by decide +kernel)

end Rtl8723du.Elems
