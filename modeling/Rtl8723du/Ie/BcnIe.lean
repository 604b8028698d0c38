import Rtl8723du.Ie.Attr
import Rtl8723du.Ie.Bss
import Rtl8723du.Lib.Bytes

/-!
# Elements of the beacon that change

`update_BCNTIM`, `rtw_add_bcn_ie`, `rtw_remove_bcn_ie` and `update_bcn_wps_ie` of `core/rtw_ap.c`
put an element into the beacon or take one out.  Each saves what is behind the place in a buffer of
its own, writes the element, and puts the rest back behind it.  They differ in where the place is:
`update_BCNTIM` computes it for a beacon without a TIM, as if SSID, rates and a DS parameter set of
one byte of data came first and the length of that were 1; `rtw_add_bcn_ie` wants an element of a
smaller id before it; and three of them take an element without data for none.  Behind a TIM,
`update_BCNTIM` goes on by what `rtw_set_tim_ie` returns, which is a u8.

Memory of up to `MAX_IE_SZ` bytes is taken to be there.
-/

namespace Rtl8723du.Beacon

open Lib Lib.Elements Lib.Bytes

/-! ### The editors -/

/-- What the editors have in common: save `remainder_ielen` bytes from `premainder_ie` on, write
`src` at `dst_ie` and the saved bytes `len` bytes on.  `malloc` says for which sizes there is
memory. -/
def spliceIeBy (malloc : ℕ → Bool) (net : WlanBssidEx) (dstIe premainderIe remainderIelen : ℕ)
    (src : List UInt8) (len : ℕ) : WlanBssidEx :=
  let written := writeAt net.ies dstIe src
  { net with
    ies :=
      if 0 < remainderIelen ∧ malloc remainderIelen then
        writeAt written (dstIe + len)
          ((net.ies.drop premainderIe).take remainderIelen)
      else written
    ieLength := (dstIe + len + remainderIelen) % 4294967296 }

/-- The saved bytes go behind `src`. -/
def spliceIe (malloc : ℕ → Bool) (net : WlanBssidEx) (dstIe premainderIe remainderIelen : ℕ)
    (src : List UInt8) : WlanBssidEx :=
  spliceIeBy malloc net dstIe premainderIe remainderIelen src src.length

/-- The search for the last octet of the bitmap that is not zero, except octet 0. -/
def lastOctet (bmp : List UInt8) : ℕ → ℕ
  | 0 => 0
  | i + 1 => if bmp.getD (i + 1) 0 ≠ 0 then i + 1 else lastOctet bmp i

/-- The octets of the bitmap that `rtw_set_tim_ie` gives: the first and the last. -/
def timOctets (bmp : List UInt8) : ℕ × ℕ :=
  if bmp.any (· ≠ 0) then (bmp.findIdx (· ≠ 0) &&& 0xFE, lastOctet bmp (bmp.length - 1)) else (0, 0)

/-- `rtw_set_tim_ie`. -/
def rtwSetTimIe (dtimCnt dtimPeriod : UInt8) (bmp : List UInt8) : List UInt8 :=
  let (n1, n2) := timOctets bmp
  let bmpLen := n2 - n1 + 1
  [timIe, UInt8.ofNat (2 + 1 + bmpLen), dtimCnt, dtimPeriod,
    (bmp.getD 0 0 &&& 1) ||| UInt8.ofNat n1] ++ (bmp.drop n1).take bmpLen

/-- The length of the element of an id, with its header, if there is one. -/
def ieLenOf (net : WlanBssidEx) (index : UInt8) : ℕ :=
  match rtwGetIe net.ies beaconIeOffset index (net.ieLength - beaconIeOffset) with
  | none => 0
  | some (_, len) => len + 2

/-- Where `update_BCNTIM` puts a TIM when there is none: behind the SSID, the rates and three
bytes. -/
def timOffset (net : WlanBssidEx) : ℕ :=
  beaconIeOffset + ieLenOf net ssidIe + ieLenOf net supportedRatesIe + 3

/-- `update_BCNTIM`. -/
def updateBCNTIM (malloc : ℕ → Bool) (timBitmap : List UInt8) (net : WlanBssidEx) : WlanBssidEx :=
  let tim := rtwSetTimIe 0 1 timBitmap
  -- what `rtw_set_tim_ie` returns
  let len := tim.length % 256
  let found := (rtwGetIe net.ies beaconIeOffset timIe (net.ieLength - beaconIeOffset)).filter
    fun r => 0 < r.2
  match found with
  | some (p, timIelen) =>
      spliceIeBy malloc net p (p + (timIelen + 2)) (sub32 net.ieLength (p + (timIelen + 2))) tim len
  | none =>
      spliceIeBy malloc net (timOffset net) (timOffset net) (sub32 net.ieLength (timOffset net)) tim
        len

/-- The loop of `rtw_add_bcn_ie`: the element it stops with, where that begins and its length, and
whether it has the id. -/
def addBcnLoop (net : WlanBssidEx) (index : UInt8) :
    ℕ → ℕ → Option (ℕ × ℕ) → Option (ℕ × ℕ) × Bool
  | 0, _, p => (p, false)
  | k + 1, i, p =>
      if net.ieLength ≤ i then (p, false)
      else if index < net.ies.getD i 0 then (p, false)
      else if net.ies.getD i 0 = index then (some (i, lenAt net.ies i), true)
      else addBcnLoop net index k (i + (lenAt net.ies i + 2)) (some (i, lenAt net.ies i))

/-- `rtw_add_bcn_ie`. -/
def rtwAddBcnIe (malloc : ℕ → Bool) (index : UInt8) (data : List UInt8) (net : WlanBssidEx) :
    WlanBssidEx :=
  match addBcnLoop net index net.ieLength beaconIeOffset none with
  | (none, _) => net
  | (some (p, ielen), bmatch) =>
      if 0 < ielen then
        let premainderIe := p + (ielen + 2)
        spliceIe malloc net (if bmatch then p else premainderIe) premainderIe
          (sub32 net.ieLength premainderIe) (index :: UInt8.ofNat data.length :: data)
      else net

/-- `rtw_remove_bcn_ie`. -/
def rtwRemoveBcnIe (malloc : ℕ → Bool) (index : UInt8) (net : WlanBssidEx) : WlanBssidEx :=
  match rtwGetIe net.ies beaconIeOffset index (net.ieLength - beaconIeOffset) with
  | none => net
  | some (p, ielen) =>
      if 0 < ielen then
        spliceIe malloc net p (p + (ielen + 2)) (sub32 net.ieLength (p + (ielen + 2))) []
      else net

/-- `rtw_get_wps_ie` from an offset: where the element begins, and its length. -/
def rtwGetWpsIe (ies : List UInt8) (off inLen : ℕ) : Option (ℕ × ℕ) :=
  (search ies (fun a => ies.getD a 0 == vendorSpecificIe && (ies.drop (a + 2)).take 4 == wpsOui)
    (off + (min inLen maxIeSz - 5)) (inLen + 1) off).map fun a => (a, lenAt ies a + 2)

/-- `update_bcn_wps_ie`; `wps_beacon_ie` is there or not. -/
def updateBcnWpsIe (malloc : ℕ → Bool) (wpsBeaconIe : Option (List UInt8)) (net : WlanBssidEx) :
    WlanBssidEx :=
  match rtwGetWpsIe net.ies beaconIeOffset (net.ieLength - beaconIeOffset), wpsBeaconIe with
  | some (wpsOffset, wpsIelen), some src =>
      let remainderIelen := sub32 net.ieLength (wpsOffset + wpsIelen)
      let len := lenAt src 0 + 2
      if wpsOffset + len + remainderIelen ≤ maxIeSz then
        spliceIe malloc net wpsOffset (wpsOffset + wpsIelen) remainderIelen (src.take len)
      else net
  | _, _ => net

/-! ### What they are for -/

/-- The bitmap of a TIM, at most as long as a TIM can hold. -/
structure TimBitmap where
  octets : List UInt8
  pos : 0 < octets.length
  le : octets.length ≤ 251

lemma lastOctet_le (bmp : List UInt8) (k : ℕ) : lastOctet bmp k ≤ k := by
  induction k with
  | zero => exact Nat.le_refl 0
  | succ k ih =>
      rw [lastOctet]
      split
      · exact Nat.le_refl _
      · exact ih.trans (Nat.le_succ k)

lemma le_lastOctet {bmp : List UInt8} {i k : ℕ} (hi : bmp.getD i 0 ≠ 0) (hik : i ≤ k) :
    i ≤ lastOctet bmp k := by
  induction k with
  | zero => rwa [Nat.le_zero.1 hik] at *
  | succ k ih =>
      rw [lastOctet]
      split
      · exact hik
      · rename_i hzero
        refine ih (Nat.le_of_lt_succ (Nat.lt_of_le_of_ne hik fun heq => ?_))
        rw [heq] at hi
        exact hzero hi

/-- The octets that are given lie in the bitmap. -/
lemma timOctets_le (bmp : TimBitmap) :
    (timOctets bmp.octets).1 ≤ (timOctets bmp.octets).2 ∧
      (timOctets bmp.octets).2 < bmp.octets.length := by
  have hpos := bmp.pos
  unfold timOctets
  split
  · rename_i hany
    have hfind : bmp.octets.findIdx (· ≠ 0) < bmp.octets.length := by
      rw [List.findIdx_lt_length]
      simpa using hany
    constructor
    · refine Nat.and_le_left.trans (le_lastOctet ?_ (by omega))
      rw [List.getD_eq_getElem?_getD, List.getElem?_eq_getElem hfind, Option.getD_some]
      simpa using List.findIdx_getElem (w := hfind)
    · have := lastOctet_le bmp.octets (bmp.octets.length - 1)
      dsimp only
      omega
  · exact ⟨Nat.le_refl 0, hpos⟩

/-- The TIM of a bitmap. -/
def timElement (bmp : TimBitmap) : Element where
  id := timIe
  data := [0, 1, (bmp.octets.getD 0 0 &&& 1) ||| UInt8.ofNat (timOctets bmp.octets).1] ++
    (bmp.octets.drop (timOctets bmp.octets).1).take
      ((timOctets bmp.octets).2 - (timOctets bmp.octets).1 + 1)
  short := by
    have hle := bmp.le
    have hoctets := timOctets_le bmp
    simp only [List.length_append, List.length_take, List.length_drop, List.length_cons,
      List.length_nil]
    omega

lemma bytes_timElement (bmp : TimBitmap) : (timElement bmp).bytes = rtwSetTimIe 0 1 bmp.octets := by
  have hle := bmp.le
  have hoctets := timOctets_le bmp
  have hlen : (timElement bmp).data.length =
      2 + 1 + ((timOctets bmp.octets).2 - (timOctets bmp.octets).1 + 1) := by
    simp only [timElement, List.length_append, List.length_take, List.length_drop,
      List.length_cons, List.length_nil]
    omega
  rw [Element.bytes, hlen]
  rfl

/-- The element is a WPS element. -/
def isWps (e : Element) : Bool := e.id == vendorSpecificIe && e.data.take 4 == wpsOui

/-- The edits of a beacon. -/
inductive BcnEdit
  | tim (timBitmap : TimBitmap)
  | add (e : Element)
  | remove (index : UInt8)
  | wps (wpsBeaconIe : Option {e : Element // isWps e = true})

/-- Make an edit. -/
def editBcn (malloc : ℕ → Bool) (net : WlanBssidEx) : BcnEdit → WlanBssidEx
  | .tim bmp => updateBCNTIM malloc bmp.octets net
  | .add e => rtwAddBcnIe malloc e.id e.data net
  | .remove index => rtwRemoveBcnIe malloc index net
  | .wps w => updateBcnWpsIe malloc (w.map fun w => w.1.bytes) net

/-- The first element with a property is replaced. -/
def Replaced (p : Element → Bool) (e : Element) (es es' : List Element) : Prop :=
  ∃ pre old post, es = pre ++ old :: post ∧ (∀ x ∈ pre, p x = false) ∧ p old = true ∧
    es' = pre ++ e :: post

/-- The first element with a property is replaced, or a new one put in where there is none. -/
def PutIn (p : Element → Bool) (e : Element) (es es' : List Element) : Prop :=
  Replaced p e es es' ∨
    (∀ x ∈ es, p x = false) ∧ ∃ pre post, es = pre ++ post ∧ es' = pre ++ e :: post

/-- The elements after an edit.  Only an element that is there is replaced by a WPS element. -/
def Edited (es es' : List Element) : BcnEdit → Prop
  | .tim bmp => PutIn (·.id = timIe) (timElement bmp) es es'
  | .add e => PutIn (·.id = e.id) e es es'
  | .remove index => es' = es.filter (·.id ≠ index)
  | .wps none => es' = es
  | .wps (some w) => Replaced isWps w.1 es es' ∨ (∀ x ∈ es, isWps x = false) ∧ es' = es

/-- The edit gives the blob of the edited elements. -/
def EditWorks (malloc : ℕ → Bool) (net : WlanBssidEx) (fixed : List UInt8) (es : List Element)
    (edit : BcnEdit) : Prop :=
  ∃ es', IsBlob (editBcn malloc net edit) fixed es' ∧ Edited es es' edit

/-! ### The conditions -/

/-- The length of the first element of an id. -/
def sizeOf (index : UInt8) (es : List Element) : ℕ :=
  ((es.find? (·.id = index)).map Element.size).getD 0

/-- Where a new TIM goes, from the first element on. -/
def timGap (es : List Element) : ℕ := sizeOf ssidIe es + sizeOf supportedRatesIe es + 3

/-- There is a TIM with data, or there is none and the place computed for it is the end of an
element; or the bytes from there to the end of an element are the same with the TIM before and
behind them. -/
def TimPlaced (tim : Element) (es : List Element) : Prop :=
  (∃ pre old post, es = pre ++ old :: post ∧ (∀ x ∈ pre, x.id ≠ timIe) ∧ old.id = timIe ∧
      old.data ≠ []) ∨
    (∀ x ∈ es, x.id ≠ timIe) ∧ ∃ pre post, es = pre ++ post ∧ timGap es ≤ (encode pre).length ∧
      tim.bytes ++ (encode pre).drop (timGap es) = (encode pre).drop (timGap es) ++ tim.bytes

/-- The new TIM has less than 256 bytes, and there is a place for it. -/
def TimFits (tim : Element) (es : List Element) : Prop :=
  tim.size < 256 ∧ TimPlaced tim es

/-- Behind elements of smaller ids there is one of the id, with data or not to be changed; or there
is none of the id at all, and the elements of smaller ids that come first end with one that has
data; or the element is there already, behind one of a larger id, and no element with data comes
before that. -/
def AddFits (e : Element) (es : List Element) : Prop :=
  ∃ pre post, es = pre ++ post ∧ (∀ x ∈ pre, x.id < e.id) ∧
    ((∃ old rest, post = old :: rest ∧ old.id = e.id ∧ (old.data ≠ [] ∨ old = e)) ∨
      (∀ x ∈ post.head?, e.id < x.id) ∧
        ((∃ x ∈ pre.getLast?, x.data ≠ []) ∧ (∀ x ∈ post, x.id ≠ e.id) ∨
          (∀ x ∈ pre.getLast?, x.data = []) ∧ post.find? (·.id = e.id) = some e))

/-- There is at most one element of the id, and it has data. -/
def RemoveFits (index : UInt8) (es : List Element) : Prop :=
  es.countP (·.id = index) ≤ 1 ∧ ∀ x ∈ es, x.id = index → x.data ≠ []

/-- `rtw_get_wps_ie` takes the element for a WPS element, given what follows it. -/
def LooksWps (e : Element) (post : List Element) : Prop :=
  e.id = vendorSpecificIe ∧ (e.data ++ encode post).take 4 = wpsOui

/-- The first element that `rtw_get_wps_ie` takes for a WPS element is one; or there is no room
for another, and the first WPS element, if any, is the same already. -/
def WpsFits (w : Element) (es : List Element) : Prop :=
  ∀ pre v post, es = pre ++ v :: post → LooksWps v post →
    (∀ p x q, pre = p ++ x :: q → ¬ LooksWps x (q ++ v :: post)) →
    isWps v = true ∨
      maxIeSz < beaconIeOffset + (encode (pre ++ w :: post)).length ∧
        ∀ x ∈ es.find? isWps, x = w

/-- The condition on each edit. -/
def EditFits (es : List Element) : BcnEdit → Prop
  | .tim bmp => TimFits (timElement bmp) es
  | .add e => AddFits e es
  | .remove index => RemoveFits index es
  | .wps none => True
  | .wps (some w) => WpsFits w.1 es

/-! ### Splicing -/

variable {malloc : ℕ → Bool} {net net' : WlanBssidEx} {fixed : List UInt8}
  {es es' pre post : List Element} {e old : Element} {index : UInt8}

/-- The recorded length after a splice. -/
lemma ieLength_spliceIeBy {n : WlanBssidEx} {f : ℕ → Bool} (hle : n.ieLength ≤ 768) {d p : ℕ}
    (s : List UInt8) {len : ℕ} (hpre : p ≤ n.ieLength + 4294967296) (hdst : d ≤ p)
    (hsrc : n.ieLength + len < 4294967296) :
    (spliceIeBy f n d p (sub32 n.ieLength p) s len).ieLength =
      (n.ieLength + len + 4294967296 - (p - d)) % 4294967296 := by
  unfold spliceIeBy sub32
  dsimp only
  omega

lemma ieLength_spliceIe {n : WlanBssidEx} {f : ℕ → Bool} (hle : n.ieLength ≤ 768) {d p : ℕ}
    {s : List UInt8} (hpre : p ≤ n.ieLength + 4294967296) (hdst : d ≤ p)
    (hsrc : n.ieLength + s.length < 4294967296) :
    (spliceIe f n d p (sub32 n.ieLength p) s).ieLength =
      (n.ieLength + s.length + 4294967296 - (p - d)) % 4294967296 :=
  ieLength_spliceIeBy hle s hpre hdst hsrc

/-- A splice inside the blob. -/
lemma take_spliceIe (hmalloc : ∀ k ≤ maxIeSz, malloc k = true) (hbuf : net.ies.length = maxIeSz)
    {a b c s : List UInt8} (hblob : net.ies.take net.ieLength = a ++ (b ++ c))
    (hle : net.ieLength ≤ maxIeSz) (hfits : a.length + s.length + c.length ≤ maxIeSz)
    {p : ℕ} (hpre : p = a.length + b.length) :
    (spliceIe malloc net a.length p (sub32 net.ieLength p) s).ies.length =
        maxIeSz ∧
      (spliceIe malloc net a.length p (sub32 net.ieLength p) s).ieLength =
        a.length + s.length + c.length ∧
      (spliceIe malloc net a.length p (sub32 net.ieLength p) s).ies.take
        (a.length + s.length + c.length) = a ++ (s ++ c) := by
  have hlen := congrArg List.length hblob
  simp only [List.length_take, List.length_append, hbuf, Nat.min_eq_left hle] at hlen
  have hle' : net.ieLength ≤ 768 := hle
  have hfits' : a.length + s.length + c.length ≤ 768 := hfits
  obtain ⟨tail, hies⟩ : ∃ tail, net.ies = a ++ (b ++ (c ++ tail)) := by
    refine ⟨net.ies.drop net.ieLength, ?_⟩
    rw [← List.append_assoc b, ← List.append_assoc, ← hblob, List.take_append_drop]
  have hrem : sub32 net.ieLength p = c.length := by
    rw [sub32_of_le (by omega) (by omega)]
    omega
  have hsaved : (net.ies.drop p).take c.length = c := by
    have hlenab : (a ++ b).length = p := by rw [List.length_append, hpre]
    rw [hies, ← List.append_assoc, ← hlenab, List.drop_left, List.take_left]
  have hwritten : writeAt net.ies a.length s = a ++ (s ++ (b ++ (c ++ tail)).drop s.length) := by
    rw [hies, writeAt_append]
  have hwrittenLen : (writeAt net.ies a.length s).length = 768 := by
    rw [length_writeAt (by rw [hbuf]; omega), hbuf]
  rw [hrem]
  unfold spliceIe spliceIeBy
  dsimp only
  rw [hsaved]
  have hmod : (a.length + s.length + c.length) % 4294967296 = a.length + s.length + c.length :=
    Nat.mod_eq_of_lt (by omega)
  by_cases hc : 0 < c.length
  · rw [if_pos ⟨hc, hmalloc _ (by show _ ≤ 768; omega)⟩]
    refine ⟨?_, hmod, ?_⟩
    · rw [length_writeAt (by rw [hwrittenLen]; omega), hwrittenLen]
    · have hfront : a.length + s.length = (a ++ s).length := (List.length_append ..).symm
      rw [hwritten, ← List.append_assoc, hfront, writeAt_append, ← List.append_assoc,
        ← List.length_append, List.take_left, List.append_assoc]
  · obtain rfl : c = [] := List.length_eq_zero_iff.1 (by omega)
    rw [if_neg (fun hand => hc hand.1)]
    refine ⟨hwrittenLen, hmod, ?_⟩
    have hfront : a.length + s.length + ([] : List UInt8).length = (a ++ s).length := by simp
    rw [hwritten, ← List.append_assoc, hfront, List.take_left, List.append_nil]

/-- A splice at whole elements. -/
lemma isBlob_spliceIe (hmalloc : ∀ k ≤ maxIeSz, malloc k = true) {m n : List Element}
    (h : IsBlob net fixed (pre ++ (m ++ post))) {dst premainder : ℕ} {src : List UInt8}
    (hsrc : src = encode n) (hdst : dst = 12 + (encode pre).length)
    (hpre : premainder = 12 + (encode (pre ++ m)).length)
    (hfits : 12 + (encode (pre ++ (n ++ post))).length ≤ maxIeSz) :
    IsBlob (spliceIe malloc net dst premainder (sub32 net.ieLength premainder) src) fixed
      (pre ++ (n ++ post)) := by
  have hfixed : fixed.length = 12 := h.length_fixed
  have hblob : net.ies.take net.ieLength =
      (fixed ++ encode pre) ++ (encode m ++ encode post) := by
    rw [h.blob, encode_append, encode_append, List.append_assoc]
  have hfront : (fixed ++ encode pre).length = dst := by
    rw [List.length_append, hfixed, hdst]
  have hsize : (fixed ++ encode pre).length + src.length + (encode post).length =
      12 + (encode (pre ++ (n ++ post))).length := by
    rw [hsrc]
    simp only [List.length_append, hfixed, encode_append]
    omega
  obtain ⟨hlen, hie, htake⟩ := take_spliceIe hmalloc h.length_ies hblob h.le (s := src)
    (by rw [hsize]; exact hfits) (p := premainder) (by
      rw [hpre]
      simp only [List.length_append, hfixed, encode_append]
      omega)
  rw [hfront] at hlen hie htake
  rw [← hfront, hsize, hfront] at hie htake
  refine ⟨hlen, h.length_fixed, by rw [hie]; exact hfits, ?_⟩
  rw [hie, htake, hsrc, encode_append, encode_append, List.append_assoc]

end Rtl8723du.Beacon
