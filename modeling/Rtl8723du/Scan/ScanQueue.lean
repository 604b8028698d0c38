import Mathlib.Data.List.Nodup
import Rtl8723du.Lib.Machine
import Rtl8723du.Recv.Frame

/-!
# The scan queue

`rtw_update_scanned_network` keeps one `wlan_network` for each network that is heard: a scan result
updates the first entry that `is_same_network`, or takes a new one from the pool, or the one of the
oldest entry that is not fixed.

A hidden network is the same as any other with its BSSID, so that sameness is not transitive.  The
search stops at the first entry that is the same, and the entry it is copied to can then be the same
as one behind it.  An object is freed without a look at the queue it is in, and is counted off also
when it is in the pool already.
-/

namespace Rtl8723du.Scan

open Lib.Machine

/-! ### The networks -/

/-- `InfrastructureMode`, as far as it is looked at. -/
inductive NetworkMode
  | infrastructure
  | mesh
  | other
deriving DecidableEq, Repr

/-- `BSS_TYPE_BCN`. -/
abbrev bssTypeBcn : UInt8 := 2

/-- `BSS_TYPE_PROB_RSP`. -/
abbrev bssTypeProbRsp : UInt8 := 3

/-- `WLAN_BSSID_EX`. -/
structure BssidEx where
  macAddress : MacAddr
  /-- The first `SsidLength` bytes. -/
  ssid : List UInt8
  /-- `Reserved[0]`, the type of the frame. -/
  reserved0 : UInt8
  infrastructureMode : NetworkMode
  ieLength : ℕ
  /-- The whole buffer. -/
  ies : List UInt8
deriving DecidableEq, Repr

/-- `memcpy` of `get_WLAN_BSSID_EX_sz` bytes: what is behind `IELength` stays. -/
def copyBss (dst src : BssidEx) : BssidEx :=
  { src with ies := src.ies.take src.ieLength ++ dst.ies.drop src.ieLength }

/-- The low byte of the capability, by `rtw_get_capability_from_ie`. -/
def capability (bss : BssidEx) : UInt8 := bss.ies.getD 10 0

/-- `is_all_null`. -/
def isAllNull (ssid : List UInt8) : Bool := ssid.all (· == 0)

/-- `is_hidden_ssid`; the empty one is all null. -/
def isHiddenSsid (ssid : List UInt8) : Bool := isAllNull ssid

/-- `is_same_network`; `feature` is set where P2P is in use. -/
def isSameNetwork (src dst : BssidEx) (feature : Bool) : Bool :=
  if feature && src.macAddress == dst.macAddress then true
  else if src.macAddress == dst.macAddress &&
      (capability src &&& 0x02 == capability dst &&& 0x02) &&
      (capability src &&& 0x01 == capability dst &&& 0x01) then
    if src.ssid.length == dst.ssid.length &&
        (src.ssid == dst.ssid || (isAllNull src.ssid || isAllNull dst.ssid)) then true
    else src.ssid.length == 0 || dst.ssid.length == 0
  else false

/-- `struct beacon_keys`. -/
structure BcnKeys (κ : Type) where
  ssid : List UInt8
  /-- What else there is. -/
  rest : κ
deriving DecidableEq

/-- `struct wlan_network`. -/
structure WlanNetwork (κ : Type) where
  /-- Which object it is. -/
  id : ℕ
  network : BssidEx
  fixed : Bool
  lastScanned : ℕ
  lastNonHiddenSsidAp : ℕ
  bcnKeys : BcnKeys κ
deriving DecidableEq

/-- The functions on beacon keys: `rtw_get_bcn_keys_from_bss`, with what it writes and whether it
succeeds, and `rtw_bcn_key_compare`. -/
structure BcnFns (κ : Type) where
  rtwGetBcnKeysFromBss : BssidEx → BcnKeys κ × Bool
  rtwBcnKeyCompare : BcnKeys κ → BcnKeys κ → Bool

/-- The part of `struct mlme_priv` that scan results are kept in. -/
structure MlmePriv (κ : Type) where
  freeBssPool : List (WlanNetwork κ)
  scannedQueue : List (WlanNetwork κ)
  numOfScanned : ℕ

variable {κ : Type}

/-! ### Allocation and release -/

/-- `SCANQUEUE_LIFETIME`. -/
abbrev scanqueueLifetime : ℕ := 20000

/-- What `_rtw_free_network` frees: not a fixed entry, nor a young one unless all are freed. -/
def freed (isfreeall adhoc : Bool) (now : ℕ) (e : WlanNetwork κ) : Bool :=
  !e.fixed && (isfreeall || !(now - e.lastScanned < if adhoc then 1 else scanqueueLifetime))

/-- The object is unlinked from its queue, whichever that is, and linked to the tail of the
pool. -/
def MlmePriv.relink (s : MlmePriv κ) (e : WlanNetwork κ) : MlmePriv κ where
  freeBssPool := (s.freeBssPool.filter fun a => a.id ≠ e.id) ++ [e]
  scannedQueue := s.scannedQueue.filter fun a => a.id ≠ e.id
  numOfScanned := (s.numOfScanned + 4294967295) % 4294967296

/-- `_rtw_free_network` and `_rtw_free_network_nolock`: the object is freed if `p` holds of it. -/
def MlmePriv.free (s : MlmePriv κ) (p : WlanNetwork κ → Bool) (id : ℕ) : MlmePriv κ :=
  match (s.scannedQueue ++ s.freeBssPool).find? fun e => e.id == id with
  | none => s
  | some e => if p e then s.relink e else s

/-- The loop over the scan queue of `_rtw_free_network_queue` and of `free_scanqueue`. -/
def MlmePriv.freeAll (s : MlmePriv κ) (p : WlanNetwork κ → Bool) : MlmePriv κ :=
  s.scannedQueue.foldl (fun s e => s.free p e.id) s

/-! ### A scan result -/

/-- The test of the loop of `rtw_update_scanned_network`. -/
def matchesTarget (p2p : Bool) (target : BssidEx) (e : WlanNetwork κ) : Bool :=
  (p2p && e.network.macAddress == target.macAddress) || isSameNetwork e.network target p2p

/-- `choice`, the oldest entry that is not fixed. -/
def choice (q : List (WlanNetwork κ)) : Option (WlanNetwork κ) :=
  (q.filter fun e => !e.fixed).foldl
    (fun c e =>
      match c with
      | none => some e
      | some c => if e.lastScanned < c.lastScanned then some e else some c) none

/-- The frame has beacon keys. -/
def hasBcnKeys (target : BssidEx) : Bool :=
  target.reserved0 == bssTypeBcn || target.reserved0 == bssTypeProbRsp

/-- The network is copied into an object that is new to it. -/
def renew (c : BcnFns κ) (target : BssidEx) (now : ℕ) (e : WlanNetwork κ) : WlanNetwork κ :=
  let network := copyBss e.network target
  { e with
    network := network
    fixed := false
    lastScanned := now
    lastNonHiddenSsidAp := now
    bcnKeys := if hasBcnKeys target then (c.rtwGetBcnKeysFromBss network).1 else e.bcnKeys }

/-- The beacon keys of the frame. -/
def targetKeys (c : BcnFns κ) (target : BssidEx) : Option (BcnKeys κ) :=
  if hasBcnKeys target && (c.rtwGetBcnKeysFromBss target).2 then
    some (c.rtwGetBcnKeysFromBss target).1
  else none

/-- The entry is updated at `now`: when a network with an SSID was last heard. -/
def nonHiddenTime (target : BssidEx) (now : ℕ) (e : WlanNetwork κ) : ℕ :=
  if hasBcnKeys target && target.infrastructureMode == .infrastructure &&
    !isHiddenSsid target.ssid then now else e.lastNonHiddenSsidAp

/-- A hidden SSID gives way to the one that is known. -/
def knownSsid (e : WlanNetwork κ) (keys : BcnKeys κ) : BcnKeys κ :=
  if isHiddenSsid keys.ssid then { keys with ssid := e.bcnKeys.ssid } else keys

/-- The first two tests for `update_ie`. -/
def replacesIes (target : BssidEx) (now : ℕ) (e : WlanNetwork κ) : Bool :=
  target.infrastructureMode == .mesh || e.network.reserved0 ≤ target.reserved0 ||
    (target.infrastructureMode == .infrastructure && !e.fixed &&
      scanqueueLifetime < now - nonHiddenTime target now e)

/-- `update_ie`. -/
def updateIe (c : BcnFns κ) (target : BssidEx) (now : ℕ) (e : WlanNetwork κ) : Bool :=
  replacesIes target now e ||
    match targetKeys c target with
    | none => false
    | some keys => !c.rtwBcnKeyCompare e.bcnKeys (knownSsid e keys)

/-- An entry is updated. -/
def refresh (c : BcnFns κ) (target : BssidEx) (now : ℕ) (e : WlanNetwork κ) : WlanNetwork κ :=
  { e with
    network := if updateIe c target now e then copyBss e.network target else e.network
    lastScanned := now
    lastNonHiddenSsidAp := nonHiddenTime target now e
    bcnKeys :=
      match targetKeys c target with
      | none => e.bcnKeys
      | some keys => if replacesIes target now e then keys else knownSsid e keys }

/-- The object `id` in the queue is changed. -/
def MlmePriv.modify (s : MlmePriv κ) (id : ℕ) (g : WlanNetwork κ → WlanNetwork κ) : MlmePriv κ :=
  { s with scannedQueue := s.scannedQueue.map fun e => if e.id = id then g e else e }

/-- `rtw_update_scanned_network`. -/
def rtwUpdateScannedNetwork (c : BcnFns κ) (s : MlmePriv κ) (target : BssidEx) (p2p : Bool)
    (now : ℕ) : MlmePriv κ :=
  match s.scannedQueue.find? (matchesTarget p2p target) with
  | some e => s.modify e.id (refresh c target now)
  | none =>
      match s.freeBssPool with
      | [] =>
          match choice s.scannedQueue with
          | none => s
          | some e => s.modify e.id (renew c target now)
      | e :: pool =>
          { freeBssPool := pool
            scannedQueue := s.scannedQueue ++ [renew c target now e]
            numOfScanned := (s.numOfScanned + 1) % 4294967296 }

/-! ### Runs -/

/-- What happens to the scan queue. -/
inductive ScanEvent
  /-- A scan result; `p2p` says that P2P is in use. -/
  | update (target : BssidEx) (p2p : Bool) (now : ℕ)
  /-- `rtw_free_network_queue`. -/
  | freeQueue (isfreeall adhoc : Bool) (now : ℕ)
  /-- `rtw_free_network`. -/
  | freeNetwork (id : ℕ) (isfreeall adhoc : Bool) (now : ℕ)
  /-- `rtw_free_network_nolock`. -/
  | freeNetworkNolock (id : ℕ)
  /-- `free_scanqueue`. -/
  | freeScanqueue
  /-- An entry is joined, or left. -/
  | setFixed (id : ℕ) (fixed : Bool)

/-- One event. -/
def scanStep (c : BcnFns κ) (s : MlmePriv κ) : ScanEvent → MlmePriv κ × List Unit
  | .update target p2p now => (rtwUpdateScannedNetwork c s target p2p now, [])
  | .freeQueue isfreeall adhoc now => (s.freeAll (freed isfreeall adhoc now), [])
  | .freeNetwork id isfreeall adhoc now => (s.free (freed isfreeall adhoc now) id, [])
  | .freeNetworkNolock id => (s.free (fun e => !e.fixed) id, [])
  | .freeScanqueue => (s.freeAll fun _ => true, [])
  | .setFixed id fixed => (s.modify id fun e => { e with fixed := fixed }, [])

/-! ### What is to hold -/

/-- The objects are in exactly one of the two queues, and those in the scan queue are counted; `all`
is the pool at the beginning. -/
structure Pooled (all : List ℕ) (s : MlmePriv κ) : Prop where
  perm : ((s.freeBssPool ++ s.scannedQueue).map WlanNetwork.id).Perm all
  numOfScanned : s.numOfScanned = s.scannedQueue.length

/-- No two entries are the same network. -/
def Distinct (s : MlmePriv κ) : Prop :=
  ∀ a ∈ s.scannedQueue, ∀ b ∈ s.scannedQueue, a.id ≠ b.id →
    isSameNetwork a.network b.network false = false

/-- The fixed entries are still there, and have not been overwritten by another network. -/
def FixedKept (s s' : MlmePriv κ) : Prop :=
  ∀ e ∈ s.scannedQueue, e.fixed = true → ∃ e' ∈ s'.scannedQueue, e'.id = e.id ∧
    (e'.network = e.network ∨ isSameNetwork e.network e'.network false = true)

/-- The object that a scan result is copied to, if it is. -/
def slot (c : BcnFns κ) (s : MlmePriv κ) (target : BssidEx) (p2p : Bool) (now : ℕ) :
    Option (WlanNetwork κ) :=
  match s.scannedQueue.find? (matchesTarget p2p target) with
  | some e => if updateIe c target now e then some e else none
  | none =>
      match s.freeBssPool with
      | [] => choice s.scannedQueue
      | e :: _ => some e

/-- No object is freed that is in the pool. -/
def KeepsCount (s : MlmePriv κ) : ScanEvent → Prop
  | .freeNetwork id isfreeall adhoc now =>
      ∀ e ∈ s.freeBssPool, e.id = id → freed isfreeall adhoc now e = false
  | .freeNetworkNolock id => ∀ e ∈ s.freeBssPool, e.id = id → e.fixed = true
  | _ => True

/-- What is copied is not the same network as another entry. -/
def KeepsApart (c : BcnFns κ) (s : MlmePriv κ) : ScanEvent → Prop
  | .update target p2p now => ∀ e, slot c s target p2p now = some e →
      ∀ e' ∈ s.scannedQueue, e'.id ≠ e.id →
        isSameNetwork (copyBss e.network target) e'.network false = false
  | _ => True

/-- A fixed entry is only overwritten by the same network, and not there when all are freed. -/
def KeepsFixed (c : BcnFns κ) (s : MlmePriv κ) : ScanEvent → Prop
  | .update target p2p now => ∀ e, s.scannedQueue.find? (matchesTarget p2p target) = some e →
      updateIe c target now e = true → e.fixed = true →
        isSameNetwork e.network (copyBss e.network target) false = true
  | .freeScanqueue => ∀ e ∈ s.scannedQueue, e.fixed = false
  | _ => True

/-- In every state the objects are where they should be and no network is there twice, and no fixed
entry is lost. -/
structure ScanRunOk (c : BcnFns κ) (all : List ℕ) (s : MlmePriv κ) (es : List ScanEvent) :
    Prop where
  pooled : ∀ pre, pre <+: es → Pooled all (final (scanStep c) s pre)
  distinct : ∀ pre, pre <+: es → Distinct (final (scanStep c) s pre)
  fixedKept : ∀ pre e, pre ++ [e] <+: es →
    FixedKept (final (scanStep c) s pre) (final (scanStep c) s (pre ++ [e]))

variable {c : BcnFns κ} {s : MlmePriv κ} {all : List ℕ} {target : BssidEx} {p2p : Bool} {now : ℕ}
  {e : WlanNetwork κ} {g : WlanNetwork κ → WlanNetwork κ} {p : WlanNetwork κ → Bool}
  {ev : ScanEvent}

/-! ### Sameness -/

lemma isSameNetwork_comm (a b : BssidEx) (feature : Bool) :
    isSameNetwork a b feature = isSameNetwork b a feature := by
  have hmac : (a.macAddress == b.macAddress) = (b.macAddress == a.macAddress) := BEq.comm
  have hibss : (capability a &&& 0x02 == capability b &&& 0x02) =
      (capability b &&& 0x02 == capability a &&& 0x02) := BEq.comm
  have hbss : (capability a &&& 0x01 == capability b &&& 0x01) =
      (capability b &&& 0x01 == capability a &&& 0x01) := BEq.comm
  have hlen : (a.ssid.length == b.ssid.length) = (b.ssid.length == a.ssid.length) := BEq.comm
  have hssid : (a.ssid == b.ssid) = (b.ssid == a.ssid) := BEq.comm
  simp only [isSameNetwork, hmac, hibss, hbss, hlen, hssid, Bool.or_comm (isAllNull a.ssid),
    Bool.or_comm (a.ssid.length == 0)]

/-! ### The objects -/

lemma Pooled.nodup (h : Pooled all s) (hall : all.Nodup) :
    ((s.freeBssPool ++ s.scannedQueue).map WlanNetwork.id).Nodup := h.perm.nodup_iff.2 hall

/-- There is only one entry for an object. -/
lemma Pooled.eq_of_id (h : Pooled all s) (hall : all.Nodup) {a b : WlanNetwork κ}
    (ha : a ∈ s.scannedQueue) (hb : b ∈ s.scannedQueue) (hid : a.id = b.id) : a = b := by
  refine List.inj_on_of_nodup_map (h.nodup hall) ?_ ?_ hid
  · exact List.mem_append_right _ ha
  · exact List.mem_append_right _ hb

/-- Changing an object leaves the queues as they are. -/
lemma Pooled.modify (h : Pooled all s) (id : ℕ) (hg : ∀ e, (g e).id = e.id) :
    Pooled all (s.modify id g) := by
  have hids : ((s.modify id g).scannedQueue).map WlanNetwork.id =
      s.scannedQueue.map WlanNetwork.id := by
    rw [MlmePriv.modify, List.map_map]
    refine List.map_congr_left fun e _ => ?_
    show (if e.id = id then g e else e).id = e.id
    split
    · exact hg e
    · rfl
  constructor
  · rw [List.map_append, hids, ← List.map_append]
    exact h.perm
  · show s.numOfScanned = _
    rw [h.numOfScanned]
    exact (List.length_map _).symm

/-- With one object for each id: all but one, and that one. -/
lemma filter_append_perm {l : List (WlanNetwork κ)} (hl : (l.map WlanNetwork.id).Nodup)
    (he : e ∈ l) : ((l.filter fun a => a.id ≠ e.id) ++ [e]).Perm l := by
  have hone : (l.filter fun a => !decide (a.id ≠ e.id)).Perm [e] := by
    refine (List.perm_ext_iff_of_nodup (hl.of_map.filter _) (List.nodup_singleton e)).2 fun a => ?_
    rw [List.mem_filter, List.mem_singleton]
    constructor
    · rintro ⟨ha, hid⟩
      exact List.inj_on_of_nodup_map hl ha he (by simpa using hid)
    · rintro rfl
      exact ⟨he, by simp⟩
  exact (hone.symm.append_left _).trans (List.filter_append_perm _ l)

/-- The object that is found is the only one with its id. -/
lemma Pooled.eq_of_find? (h : Pooled all s) (hall : all.Nodup) {id : ℕ} {a : WlanNetwork κ}
    (hfind : (s.scannedQueue ++ s.freeBssPool).find? (fun e => e.id == id) = some e)
    (ha : a ∈ s.scannedQueue ++ s.freeBssPool) (hid : a.id = id) : a = e := by
  have hmem := List.mem_of_find?_eq_some hfind
  have heid : e.id = id := by simpa using List.find?_some hfind
  rw [List.mem_append, or_comm, ← List.mem_append] at ha hmem
  exact List.inj_on_of_nodup_map (h.nodup hall) ha hmem (hid.trans heid.symm)

/-- No object is in both queues. -/
lemma Pooled.id_ne (h : Pooled all s) (hall : all.Nodup) {a b : WlanNetwork κ}
    (ha : a ∈ s.freeBssPool) (hb : b ∈ s.scannedQueue) : a.id ≠ b.id := by
  have hnodup := h.nodup hall
  rw [List.map_append, List.nodup_append] at hnodup
  exact hnodup.2.2 _ (List.mem_map_of_mem ha) _ (List.mem_map_of_mem hb)

/-- What is freed is counted off, and is then missing from the scan queue if it was there. -/
lemma Pooled.relink_iff (h : Pooled all s) (hall : all.Nodup) (hlen : all.length < 4294967296)
    (he : e ∈ s.scannedQueue ++ s.freeBssPool) :
    Pooled all (s.relink e) ↔ e ∈ s.scannedQueue := by
  have htotal := h.perm.length_eq
  rw [List.length_map, List.length_append] at htotal
  have hcount := h.numOfScanned
  have hnodup := h.nodup hall
  constructor
  · intro hrelinked
    by_contra hout
    have hpool := (List.mem_append.1 he).resolve_left hout
    have hqueue : (s.scannedQueue.filter fun a => a.id ≠ e.id) = s.scannedQueue :=
      List.filter_eq_self.2 fun a ha => by simpa using (h.id_ne hall hpool ha).symm
    have hoff : (s.numOfScanned + 4294967295) % 4294967296 =
        (s.scannedQueue.filter fun a => a.id ≠ e.id).length := hrelinked.numOfScanned
    rw [hqueue, hcount] at hoff
    omega
  · intro hqueue
    constructor
    · have hmem : e ∈ s.freeBssPool ++ s.scannedQueue := List.mem_append_right _ hqueue
      have hperm := (filter_append_perm hnodup hmem).map WlanNetwork.id
      rw [List.filter_append, List.append_assoc] at hperm
      show (((s.freeBssPool.filter fun a => a.id ≠ e.id) ++ [e] ++
        s.scannedQueue.filter fun a => a.id ≠ e.id).map WlanNetwork.id).Perm all
      rw [List.append_assoc]
      exact ((List.perm_append_comm.append_left _).map _).trans (hperm.trans h.perm)
    · rw [List.map_append] at hnodup
      have hshort := (filter_append_perm hnodup.of_append_right hqueue).length_eq
      rw [List.length_append, List.length_singleton] at hshort
      show (s.numOfScanned + 4294967295) % 4294967296 =
        (s.scannedQueue.filter fun a => a.id ≠ e.id).length
      omega

/-- An object may be freed if it is not in the pool. -/
lemma Pooled.free_iff (h : Pooled all s) (hall : all.Nodup) (hlen : all.length < 4294967296)
    {id : ℕ} : Pooled all (s.free p id) ↔ ∀ e ∈ s.freeBssPool, e.id = id → p e = false := by
  rcases hfind : (s.scannedQueue ++ s.freeBssPool).find? (fun e => e.id == id) with _ | e <;>
    rw [MlmePriv.free, hfind]
  · refine iff_of_true h fun e he hid => ?_
    have hno := List.find?_eq_none.1 hfind e (List.mem_append_right _ he)
    exact absurd hid (by simpa using hno)
  · have hmem := List.mem_of_find?_eq_some hfind
    have heid : e.id = id := by simpa using List.find?_some hfind
    dsimp only
    cases hp : p e
    · refine iff_of_true h fun a ha hid => ?_
      rw [h.eq_of_find? hall hfind (List.mem_append_right _ ha) hid]
      exact hp
    · rw [if_pos rfl, h.relink_iff hall hlen hmem]
      constructor
      · intro hqueue a ha hid
        exact absurd (hid.trans heid.symm) (h.id_ne hall ha hqueue)
      · intro hno
        refine (List.mem_append.1 hmem).resolve_right fun hpool => ?_
        rw [hno e hpool heid] at hp
        cases hp

/-- The entries that stay in the scan queue. -/
lemma Pooled.mem_free (h : Pooled all s) (hall : all.Nodup) {id : ℕ} {a : WlanNetwork κ} :
    a ∈ (s.free p id).scannedQueue ↔ a ∈ s.scannedQueue ∧ (a.id = id → p a = false) := by
  rcases hfind : (s.scannedQueue ++ s.freeBssPool).find? (fun e => e.id == id) with _ | e <;>
    rw [MlmePriv.free, hfind]
  · refine (and_iff_left_of_imp ?_).symm
    intro ha hid
    have hno := List.find?_eq_none.1 hfind a (List.mem_append_left _ ha)
    exact absurd hid (by simpa using hno)
  · have heid : e.id = id := by simpa using List.find?_some hfind
    have hone (ha : a ∈ s.scannedQueue) (hid : a.id = id) : a = e :=
      h.eq_of_find? hall hfind (List.mem_append_left _ ha) hid
    dsimp only
    cases hp : p e
    · refine (and_iff_left_of_imp ?_).symm
      intro ha hid
      rw [hone ha hid]
      exact hp
    · show a ∈ (s.scannedQueue.filter fun a => a.id ≠ e.id) ↔ _
      rw [List.mem_filter, decide_eq_true_eq, heid]
      refine and_congr_right fun ha => ⟨fun hne hid => absurd hid hne, fun hkept hid => ?_⟩
      have hno := hkept hid
      rw [hone ha hid, hp] at hno
      cases hno

/-- The loop over the queue, from the entries that it still has to visit. -/
lemma Pooled.foldl_free (hall : all.Nodup) (hlen : all.length < 4294967296)
    (l : List (WlanNetwork κ)) (h : Pooled all s) (hl : (l.map WlanNetwork.id).Nodup)
    (hsub : ∀ e ∈ l, e ∈ s.scannedQueue) :
    Pooled all (l.foldl (fun s e => s.free p e.id) s) ∧
      ∀ a, a ∈ (l.foldl (fun s e => s.free p e.id) s).scannedQueue ↔
        a ∈ s.scannedQueue ∧ (a ∈ l → p a = false) := by
  induction l generalizing s with
  | nil => exact ⟨h, fun a => (and_iff_left fun ha => absurd ha List.not_mem_nil).symm⟩
  | cons e l ih =>
      have he := hsub e List.mem_cons_self
      rw [List.map_cons, List.nodup_cons] at hl
      have hfreed : Pooled all (s.free p e.id) :=
        (h.free_iff hall hlen).2 fun a ha hid => absurd hid (h.id_ne hall ha he)
      have hrest (a : WlanNetwork κ) (ha : a ∈ l) : a ∈ (s.free p e.id).scannedQueue := by
        refine (h.mem_free hall).2 ⟨hsub a (List.mem_cons_of_mem _ ha), fun hid => ?_⟩
        exact absurd (hid ▸ List.mem_map_of_mem ha) hl.1
      obtain ⟨hpooled, hmem⟩ := ih hfreed hl.2 hrest
      refine ⟨hpooled, fun a => ?_⟩
      rw [List.foldl_cons, hmem, h.mem_free hall, and_assoc]
      refine and_congr_right fun ha => ?_
      rw [List.mem_cons]
      constructor
      · rintro ⟨hfirst, hlater⟩ (rfl | hal)
        · exact hfirst rfl
        · exact hlater hal
      · intro hboth
        exact ⟨fun hid => hboth (.inl (h.eq_of_id hall ha he hid)), fun hal => hboth (.inr hal)⟩

/-- All entries that `p` holds of are freed, and no others. -/
lemma Pooled.freeAll (h : Pooled all s) (hall : all.Nodup) (hlen : all.length < 4294967296)
    (p : WlanNetwork κ → Bool) : Pooled all (s.freeAll p) ∧
      ∀ a, a ∈ (s.freeAll p).scannedQueue ↔ a ∈ s.scannedQueue ∧ p a = false := by
  have hnodup := h.nodup hall
  rw [List.map_append] at hnodup
  obtain ⟨hpooled, hmem⟩ := Pooled.foldl_free (p := p) hall hlen s.scannedQueue h
    hnodup.of_append_right fun _ he => he
  refine ⟨hpooled, fun a => (hmem a).trans (and_congr_right fun ha => ?_)⟩
  exact ⟨fun hp => hp ha, fun hp _ => hp⟩

lemma refresh_id (e : WlanNetwork κ) : (refresh c target now e).id = e.id := rfl

lemma renew_id (e : WlanNetwork κ) : (renew c target now e).id = e.id := rfl

/-- Every event keeps the objects in their queues, and the count, unless it frees one of the
pool. -/
lemma Pooled.step_iff (h : Pooled all s) (hall : all.Nodup) (hlen : all.length < 4294967296)
    (ev : ScanEvent) : Pooled all (scanStep c s ev).1 ↔ KeepsCount s ev := by
  cases ev with
  | update target p2p now =>
      refine iff_of_true ?_ trivial
      show Pooled all (rtwUpdateScannedNetwork c s target p2p now)
      rw [rtwUpdateScannedNetwork]
      split
      · exact h.modify _ refresh_id
      · split
        · split
          · exact h
          · exact h.modify _ renew_id
        · next e pool hpool =>
            constructor
            · have hperm := h.perm
              rw [hpool, List.cons_append, List.map_cons] at hperm
              show ((pool ++ (s.scannedQueue ++ [renew c target now e])).map
                WlanNetwork.id).Perm all
              rw [← List.append_assoc, List.map_append, List.map_singleton, renew_id]
              exact List.perm_append_singleton _ _ |>.trans hperm
            · show (s.numOfScanned + 1) % 4294967296 = (s.scannedQueue ++ [_]).length
              have htotal := h.perm.length_eq
              rw [hpool, List.length_map, List.length_append, List.length_cons] at htotal
              rw [h.numOfScanned, List.length_append, List.length_singleton]
              exact Nat.mod_eq_of_lt (by omega)
  | freeQueue isfreeall adhoc now => exact iff_of_true (h.freeAll hall hlen _).1 trivial
  | freeNetwork id isfreeall adhoc now => exact h.free_iff hall hlen
  | freeNetworkNolock id =>
      refine (h.free_iff hall hlen).trans (forall₃_congr fun e _ _ => ?_)
      cases e.fixed <;> decide
  | freeScanqueue => exact iff_of_true (h.freeAll hall hlen _).1 trivial
  | setFixed id fixed => exact iff_of_true (h.modify _ fun _ => rfl) trivial

/-! ### One network, one entry -/

/-- The entries of a part of the queue are different if those of the queue are. -/
lemma Distinct.of_subset {s' : MlmePriv κ} (h : Distinct s)
    (hsub : ∀ e' ∈ s'.scannedQueue, e' ∈ s.scannedQueue) : Distinct s' :=
  fun a ha b hb hid => h a (hsub a ha) b (hsub b hb) hid

/-- The entry that is changed, and the others. -/
lemma mem_modify {id : ℕ} {e' : WlanNetwork κ} :
    e' ∈ (s.modify id g).scannedQueue ↔
      ∃ a ∈ s.scannedQueue, e' = if a.id = id then g a else a := by
  rw [MlmePriv.modify, List.mem_map]
  exact ⟨fun ⟨a, ha, h⟩ => ⟨a, ha, h.symm⟩, fun ⟨a, ha, h⟩ => ⟨a, ha, h.symm⟩⟩

/-- A change that leaves the network as it is. -/
lemma distinct_modify_of_network {id : ℕ} (hg : ∀ e, (g e).id = e.id)
    (hnet : ∀ e ∈ s.scannedQueue, e.id = id → (g e).network = e.network) (h : Distinct s) :
    Distinct (s.modify id g) := by
  have hsame (a : WlanNetwork κ) (ha : a ∈ s.scannedQueue) :
      (if a.id = id then g a else a).network = a.network ∧
        (if a.id = id then g a else a).id = a.id := by
    split
    · next hid => exact ⟨hnet a ha hid, hg a⟩
    · exact ⟨rfl, rfl⟩
  intro x hx y hy hid
  obtain ⟨a, ha, rfl⟩ := mem_modify.1 hx
  obtain ⟨b, hb, rfl⟩ := mem_modify.1 hy
  rw [(hsame a ha).1, (hsame b hb).1]
  rw [(hsame a ha).2, (hsame b hb).2] at hid
  exact h a ha b hb hid

/-- An entry is given a network: exactly then all are different if that is not the network of
another. -/
lemma distinct_modify_iff (hpool : Pooled all s) (hall : all.Nodup) (he : e ∈ s.scannedQueue)
    (hg : ∀ e, (g e).id = e.id) (h : Distinct s) :
    Distinct (s.modify e.id g) ↔ ∀ e' ∈ s.scannedQueue, e'.id ≠ e.id →
      isSameNetwork (g e).network e'.network false = false := by
  constructor
  · intro hd e' he' hid
    have hne : (g e).id ≠ e'.id := by
      rw [hg]
      exact hid.symm
    refine hd (g e) (mem_modify.2 ⟨e, he, (if_pos rfl).symm⟩) e'
      (mem_modify.2 ⟨e', he', (if_neg hid).symm⟩) hne
  · intro hnew x hx y hy hid
    obtain ⟨a, ha, rfl⟩ := mem_modify.1 hx
    obtain ⟨b, hb, rfl⟩ := mem_modify.1 hy
    by_cases hae : a.id = e.id
    · obtain rfl := hpool.eq_of_id hall ha he hae
      rw [if_pos rfl] at hid ⊢
      by_cases hbe : b.id = a.id
      · rw [if_pos hbe, hg, hg] at hid
        exact absurd hbe.symm hid
      · rw [if_neg hbe]
        exact hnew b hb hbe
    · rw [if_neg hae] at hid ⊢
      by_cases hbe : b.id = e.id
      · obtain rfl := hpool.eq_of_id hall hb he hbe
        rw [if_pos rfl, isSameNetwork_comm]
        exact hnew a ha hae
      · rw [if_neg hbe] at hid ⊢
        exact h a ha b hb hid

/-- The oldest entry is one of the queue that is not fixed. -/
lemma mem_of_choice {q : List (WlanNetwork κ)} (h : choice q = some e) :
    e ∈ q ∧ e.fixed = false := by
  have hfold : ∀ (l : List (WlanNetwork κ)) (c₀ : Option (WlanNetwork κ)),
      (l.foldl (fun c e =>
        match c with
        | none => some e
        | some c => if e.lastScanned < c.lastScanned then some e else some c) c₀ = some e) →
        e ∈ l ∨ c₀ = some e := by
    intro l
    induction l with
    | nil => exact fun c₀ h => .inr h
    | cons a l ih =>
        intro c₀ h
        rcases ih _ h with hmem | hc
        · exact .inl (List.mem_cons_of_mem _ hmem)
        · rcases c₀ with _ | b
          · exact .inl (by rw [Option.some.inj hc]; exact List.mem_cons_self)
          · simp only at hc
            split at hc
            · exact .inl (by rw [Option.some.inj hc]; exact List.mem_cons_self)
            · exact .inr hc
  rcases hfold _ _ h with hmem | hno
  · obtain ⟨hq, hfix⟩ := List.mem_filter.1 hmem
    exact ⟨hq, by simpa using hfix⟩
  · cases hno

/-- After an event all networks are different exactly if what it copies is not the network of
another entry. -/
lemma distinct_step_iff (hpool : Pooled all s) (hall : all.Nodup) (hlen : all.length < 4294967296)
    (h : Distinct s) :
    Distinct (scanStep c s ev).1 ↔ KeepsApart c s ev := by
  cases ev with
  | update target p2p now =>
      show Distinct (rtwUpdateScannedNetwork c s target p2p now) ↔
        ∀ e, slot c s target p2p now = some e → _
      rw [rtwUpdateScannedNetwork, slot]
      rcases hfind : s.scannedQueue.find? (matchesTarget p2p target) with _ | e
      · rcases hfree : s.freeBssPool with _ | ⟨e, pool⟩
        · rcases hc : choice s.scannedQueue with _ | e
          · exact iff_of_true h fun e he => nomatch he
          · simp only [Option.some.injEq, forall_eq']
            exact distinct_modify_iff hpool hall (mem_of_choice hc).1 renew_id h
        · simp only [Option.some.injEq, forall_eq']
          have hnot (e' : WlanNetwork κ) (he' : e' ∈ s.scannedQueue) : e'.id ≠ e.id := by
            have hnodup := hpool.nodup hall
            rw [hfree, List.cons_append, List.map_cons] at hnodup
            intro hid
            refine (List.nodup_cons.1 hnodup).1 ?_
            rw [← hid]
            exact List.mem_map_of_mem (List.mem_append_right _ he')
          constructor
          · intro hd e' he' hid
            exact hd (renew c target now e) (List.mem_append_right _ (List.mem_singleton.2 rfl)) e'
              (List.mem_append_left _ he') hid.symm
          · intro hnew x hx y hy hid
            rcases List.mem_append.1 hx with hx | hx <;> rcases List.mem_append.1 hy with hy | hy
            · exact h x hx y hy hid
            · obtain rfl := List.mem_singleton.1 hy
              rw [isSameNetwork_comm]
              exact hnew x hx (hnot x hx)
            · obtain rfl := List.mem_singleton.1 hx
              exact hnew y hy (hnot y hy)
            · obtain rfl := List.mem_singleton.1 hx
              obtain rfl := List.mem_singleton.1 hy
              exact absurd rfl hid
      · have hmem := List.mem_of_find?_eq_some hfind
        simp only
        by_cases hupd : updateIe c target now e = true
        · rw [if_pos hupd]
          simp only [Option.some.injEq, forall_eq']
          have hnet : (refresh c target now e).network = copyBss e.network target := if_pos hupd
          rw [← hnet]
          exact distinct_modify_iff hpool hall hmem refresh_id h
        · rw [if_neg hupd]
          refine iff_of_true (distinct_modify_of_network refresh_id ?_ h) fun e he => nomatch he
          intro a ha hid
          obtain rfl := hpool.eq_of_id hall ha hmem hid
          exact if_neg hupd
  | freeQueue isfreeall adhoc now =>
      have hmem := (hpool.freeAll hall hlen (freed isfreeall adhoc now)).2
      exact iff_of_true (h.of_subset fun e he => ((hmem e).1 he).1) trivial
  | freeNetwork id isfreeall adhoc now =>
      exact iff_of_true (h.of_subset fun e he => ((hpool.mem_free hall).1 he).1) trivial
  | freeNetworkNolock id =>
      exact iff_of_true (h.of_subset fun e he => ((hpool.mem_free hall).1 he).1) trivial
  | freeScanqueue =>
      have hmem := (hpool.freeAll hall hlen fun _ => true).2
      exact iff_of_true (h.of_subset fun e he => ((hmem e).1 he).1) trivial
  | setFixed id fixed =>
      exact iff_of_true (distinct_modify_of_network (fun _ => rfl) (fun _ _ _ => rfl) h) trivial

/-- Where the frame has its fixed fields, a copy of it is the same as what the frame is. -/
lemma isSameNetwork_copyBss {dst : BssidEx} (hlen : 10 < target.ieLength)
    (hies : 10 < target.ies.length) (b : BssidEx) (feature : Bool) :
    isSameNetwork (copyBss dst target) b feature = isSameNetwork target b feature := by
  have htake : 10 < (target.ies.take target.ieLength).length := by
    rw [List.length_take]
    exact Nat.lt_min.2 ⟨hlen, hies⟩
  have hcap : capability (copyBss dst target) = capability target := by
    show (target.ies.take target.ieLength ++ dst.ies.drop target.ieLength).getD 10 0 = _
    rw [List.getD_append _ _ _ _ htake, capability, List.getD_eq_getElem _ _ htake,
      List.getElem_take, List.getD_eq_getElem _ _ hies]
  simp only [isSameNetwork, hcap]
  rfl

/-- For a frame with its fixed fields only the update of an entry can go wrong: when the frame is
also of the network of another entry than the first. -/
theorem keepsApart_iff (hlen : 10 < target.ieLength) (hies : 10 < target.ies.length) :
    KeepsApart c s (.update target p2p now) ↔
      ∀ e, s.scannedQueue.find? (matchesTarget p2p target) = some e →
        updateIe c target now e = true → ∀ e' ∈ s.scannedQueue, e'.id ≠ e.id →
          isSameNetwork target e'.network false = false := by
  have hnew (hfind : s.scannedQueue.find? (matchesTarget p2p target) = none)
      {e' : WlanNetwork κ} (he' : e' ∈ s.scannedQueue) :
      isSameNetwork target e'.network false = false := by
    have hno : isSameNetwork e'.network target p2p = false := by
      have := List.find?_eq_none.1 hfind e' he'
      rw [Bool.not_eq_true, matchesTarget, Bool.or_eq_false_iff] at this
      exact this.2
    rw [isSameNetwork_comm] at hno
    rw [isSameNetwork] at hno ⊢
    split at hno
    · cases hno
    · simpa using hno
  rw [KeepsApart, slot]
  simp only [isSameNetwork_copyBss hlen hies]
  rcases hfind : s.scannedQueue.find? (matchesTarget p2p target) with _ | e
  · exact iff_of_true (fun e _ e' he' _ => hnew hfind he') fun e he => nomatch he
  · simp only [Option.some.injEq, forall_eq']
    by_cases hupd : updateIe c target now e = true
    · simp only [hupd, if_true, Option.some.injEq, forall_eq', true_imp_iff]
    · exact iff_of_true (fun e he => by rw [if_neg hupd] at he; cases he) fun h => absurd h hupd

/-! ### Fixed entries -/

lemma isSameNetwork_self (a : BssidEx) : isSameNetwork a a false = true := by
  rw [isSameNetwork]
  simp

/-- A change of one object keeps the fixed entries exactly if it does so with that one. -/
lemma fixedKept_modify_iff {id : ℕ} (hpool : Pooled all s) (hall : all.Nodup)
    (he : e ∈ s.scannedQueue) (hid : e.id = id) (hg : ∀ e, (g e).id = e.id) :
    FixedKept s (s.modify id g) ↔ (e.fixed = true → (g e).network = e.network ∨
      isSameNetwork e.network (g e).network false = true) := by
  subst hid
  constructor
  · intro h hfixed
    obtain ⟨e', he', hid, hnet⟩ := h e he hfixed
    obtain ⟨a, ha, rfl⟩ := mem_modify.1 he'
    have hae : a.id = e.id := by
      split at hid
      · rw [← hid, hg]
      · exact hid
    obtain rfl := hpool.eq_of_id hall ha he hae
    rw [if_pos rfl] at hnet
    exact hnet
  · intro h a ha hfixed
    refine ⟨if a.id = e.id then g a else a, mem_modify.2 ⟨a, ha, rfl⟩, ?_, ?_⟩
    · split
      · exact hg a
      · rfl
    · by_cases hae : a.id = e.id
      · obtain rfl := hpool.eq_of_id hall ha he hae
        rw [if_pos rfl]
        exact h hfixed
      · rw [if_neg hae]
        exact .inl rfl

/-- Only entries that are not fixed are freed. -/
lemma fixedKept_of_mem {s' : MlmePriv κ}
    (hmem : ∀ a ∈ s.scannedQueue, p a = false → a ∈ s'.scannedQueue)
    (hp : ∀ e, p e = true → e.fixed = false) : FixedKept s s' := by
  intro e he hfixed
  refine ⟨e, hmem e he ?_, rfl, .inl rfl⟩
  cases hpe : p e
  · rfl
  · rw [hp e hpe] at hfixed
    exact absurd hfixed Bool.false_ne_true

lemma fixed_of_freed {isfreeall adhoc : Bool} (h : freed isfreeall adhoc now e = true) :
    e.fixed = false := by
  rw [freed, Bool.and_eq_true, Bool.not_eq_true'] at h
  exact h.1

/-- An event keeps the fixed entries exactly if a scan result that goes to one is of the same
network. -/
lemma fixedKept_step_iff (hpool : Pooled all s) (hall : all.Nodup)
    (hlen : all.length < 4294967296) :
    FixedKept s (scanStep c s ev).1 ↔ KeepsFixed c s ev := by
  have hrefl : FixedKept s s := fun e he _ => ⟨e, he, rfl, .inl rfl⟩
  cases ev with
  | update target p2p now =>
      show FixedKept s (rtwUpdateScannedNetwork c s target p2p now) ↔
        ∀ e, s.scannedQueue.find? (matchesTarget p2p target) = some e → _
      rw [rtwUpdateScannedNetwork]
      rcases hfind : s.scannedQueue.find? (matchesTarget p2p target) with _ | e
      · refine iff_of_true ?_ fun e he => nomatch he
        rcases s.freeBssPool with _ | ⟨e, pool⟩
        · rcases hc : choice s.scannedQueue with _ | e
          · exact hrefl
          · -- the oldest entry is not fixed
            obtain ⟨he, hfree⟩ := mem_of_choice hc
            refine (fixedKept_modify_iff hpool hall he rfl renew_id).2 fun hfixed => ?_
            rw [hfree] at hfixed
            exact absurd hfixed Bool.false_ne_true
        · exact fun a ha _ => ⟨a, List.mem_append_left _ ha, rfl, .inl rfl⟩
      · simp only [Option.some.injEq, forall_eq']
        refine (fixedKept_modify_iff hpool hall (List.mem_of_find?_eq_some hfind) rfl
          refresh_id).trans ?_
        by_cases hupd : updateIe c target now e = true
        · have hnet : (refresh c target now e).network = copyBss e.network target := if_pos hupd
          rw [hnet]
          constructor
          · rintro h - hfixed
            rcases h hfixed with heq | hsame
            · rw [heq]
              exact isSameNetwork_self _
            · exact hsame
          · exact fun h hfixed => .inr (h hupd hfixed)
        · exact iff_of_true (fun _ => .inl (if_neg hupd)) fun h => absurd h hupd
  | freeQueue isfreeall adhoc now =>
      have hmem := (hpool.freeAll hall hlen (freed isfreeall adhoc now)).2
      refine iff_of_true (fixedKept_of_mem (fun a ha hp => (hmem a).2 ⟨ha, hp⟩) ?_) trivial
      exact fun e he => fixed_of_freed he
  | freeNetwork id isfreeall adhoc now =>
      refine iff_of_true (fixedKept_of_mem (p := freed isfreeall adhoc now) ?_ ?_) trivial
      · exact fun a ha hp => (hpool.mem_free hall).2 ⟨ha, fun _ => hp⟩
      · exact fun e he => fixed_of_freed he
  | freeNetworkNolock id =>
      refine iff_of_true (fixedKept_of_mem (p := fun e => !e.fixed) ?_ ?_) trivial
      · exact fun a ha hp => (hpool.mem_free hall).2 ⟨ha, fun _ => hp⟩
      · exact fun e he => by simpa using he
  | freeScanqueue =>
      have hmem := (hpool.freeAll hall hlen fun _ => true).2
      constructor
      · intro h e he
        by_contra hfixed
        obtain ⟨e', he', -⟩ := h e he (by simpa using hfixed)
        exact absurd ((hmem e').1 he').2 (by decide)
      · intro h e he hfixed
        rw [h e he] at hfixed
        cases hfixed
  | setFixed id fixed =>
      refine iff_of_true (fun a ha _ => ?_) trivial
      refine ⟨if a.id = id then { a with fixed := fixed } else a, mem_modify.2 ⟨a, ha, rfl⟩, ?_, ?_⟩
      · split <;> rfl
      · left
        split <;> rfl

/-! ### Runs of the scan queue -/

/-- `rtw_init_mlme_priv`: all objects are in the pool. -/
def initial (pool : List (WlanNetwork κ)) : MlmePriv κ := ⟨pool, [], 0⟩

/-- Beacon keys that are the SSID. -/
def ssidFns : BcnFns Unit where
  rtwGetBcnKeysFromBss bss := (⟨bss.ssid, ()⟩, true)
  rtwBcnKeyCompare a b := a.ssid == b.ssid

/-- A beacon of one BSSID with an SSID, or with none. -/
def ssidBeacon (ssid : List UInt8) : BssidEx :=
  ⟨.ofBytes 2 0 0 0 0 1, ssid, bssTypeBcn, .infrastructure, 12,
    [0, 0, 0, 0, 0, 0, 0, 0, 100, 0, 1, 0]⟩

/-- Objects in the pool. -/
def twoObjects : List (WlanNetwork Unit) :=
  [⟨0, ssidBeacon [], false, 0, 0, ⟨[], ()⟩⟩, ⟨1, ssidBeacon [], false, 0, 0, ⟨[], ()⟩⟩]

end Rtl8723du.Scan
