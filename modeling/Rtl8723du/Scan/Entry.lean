import Rtl8723du.Ie.Bss
import Rtl8723du.Scan.ScanQueue

/-!
# The elements of a scanned network

`WLAN_BSSID_EX` holds the body of the frame that a network was heard in.  How many fixed fields
there are before the elements depends on the type of the frame.
-/

namespace Rtl8723du.Scan

open Lib.Elements
open Beacon (maxIeSz)

/-- `BSS_TYPE_PROB_REQ`. -/
abbrev bssTypeProbReq : UInt8 := 1

/-- `BSS_EX_FIXED_IE_OFFSET`. -/
def BssidEx.fixedIeOffset (net : BssidEx) : ℕ := if net.reserved0 = bssTypeProbReq then 0 else 12

/-- The network holds the fixed fields of its type, and the elements. -/
structure IsEntry (net : BssidEx) (fixed : List UInt8) (es : List Element) : Prop where
  length_ies : net.ies.length = maxIeSz
  length_fixed : fixed.length = net.fixedIeOffset
  le : net.ieLength ≤ maxIeSz
  blob : net.ies.take net.ieLength = fixed ++ encode es

variable {net : BssidEx} {fixed : List UInt8} {es es' pre post : List Element} {x : Element}

namespace IsEntry

lemma holds (h : IsEntry net fixed es) : Holds net.ies net.ieLength fixed es :=
  ⟨by rw [h.length_ies]; exact h.le, h.blob⟩

lemma ieLength_eq (h : IsEntry net fixed es) :
    net.ieLength = fixed.length + (encode es).length := h.holds.len_eq

/-- The buffer from an element on. -/
lemma drop_eq (h : IsEntry net fixed (pre ++ x :: post)) :
    net.ies.drop (fixed ++ encode pre).length =
      x.bytes ++ (encode post ++ net.ies.drop net.ieLength) := by
  rw [(Holds.append_iff.1 h.holds).drop_fixed, encode_cons, List.append_assoc]

lemma take_eq (h : IsEntry net fixed (pre ++ x :: post)) :
    net.ies.take (fixed ++ encode pre).length = fixed ++ encode pre :=
  (Holds.append_iff.1 h.holds).take_fixed

lemma unique (h : IsEntry net fixed es) (h' : IsEntry net fixed es') : es = es' :=
  h.holds.unique h'.holds

end IsEntry

end Rtl8723du.Scan
