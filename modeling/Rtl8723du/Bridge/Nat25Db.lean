import Mathlib.Data.BitVec
import Mathlib.Data.Finset.Card
import Mathlib.Data.Fintype.Basic
import Rtl8723du.Lib.Hlist
import Rtl8723du.Recv.Frame

/-!
# The entries of the NAT2.5 table

The table of `core/rtw_br_ext.c` as it is in memory: entries in chains, with ageing timers and use
counts, and `scdb_entry`, which points to one of them.  What is done under `br_ext_lock` is one
step.

`α` are the addresses that `rtw_malloc` can give, `live` those of the entries that have not been
freed.  A step that follows a null pointer, touches an entry that is not live or goes around in a
chain has no result.
-/

namespace Rtl8723du.Nat25

open Lib Hlist

/-! ### The code -/

/-- An entry without its links; `unsigned long` has `w` bits. -/
structure Entry (w : ℕ) where
  useCount : BitVec 32
  macAddr : List UInt8
  ageingTimer : BitVec w
  networkAddr : List UInt8
deriving DecidableEq

/-- What the adapter has of the bridge extension. -/
structure Adapter (α : Type*) (w : ℕ) where
  /-- `nethash`, and `next_hash` and `pprev_hash` of the entries. -/
  links : Links (Fin 16) α
  live : Finset α
  ent : α → Entry w
  scdbMac : List UInt8
  scdbIp : List UInt8
  scdbEntry : Option α
  brMac : List UInt8
  brIp : List UInt8

/-- What does not change. -/
structure Config (w : ℕ) where
  /-- The kernel is older than 5.15. -/
  oldKernel : Bool
  /-- `NAT25_AGEING_TIME * HZ`. -/
  ageing : BitVec w

/-- `n` bytes of an address from byte `off` on, combined with exclusive or. -/
def xorBytes (networkAddr : List UInt8) (off n : ℕ) : UInt8 :=
  ((networkAddr.drop off).take n).foldl (· ^^^ ·) 0

/-- `__nat25_network_hash`. -/
def nat25NetworkHash (oldKernel : Bool) (networkAddr : List UInt8) : Fin 16 :=
  Fin.ofNat 16 <| UInt8.toNat <|
    match networkAddr.getD 0 0 with
    | 1 => xorBytes networkAddr 7 4
    | 2 => xorBytes networkAddr 1 16
    | 3 => if oldKernel then xorBytes networkAddr 1 10 else xorBytes networkAddr 0 17
    | 4 => if oldKernel then xorBytes networkAddr 1 3 else xorBytes networkAddr 0 17
    | 5 => xorBytes networkAddr 0 9
    | _ => xorBytes networkAddr 0 17

variable {α : Type*} [DecidableEq α] {w : ℕ}

/-- `__nat25_has_expired`, with `time_before_eq`. -/
def nat25HasExpired (cfg : Config w) (jiffies : BitVec w) (f : Entry w) : Bool :=
  decide (0 ≤ (jiffies - cfg.ageing - f.ageingTimer).toInt)

/-- The fields of an entry are written. -/
def Adapter.setEnt (s : Adapter α w) (a : α) (e : Entry w) : Adapter α w :=
  { s with ent := Function.update s.ent a e }

/-- The entry with a network address in a chain, after `k` entries at most. -/
def findEntry (s : Adapter α w) (networkAddr : List UInt8) : ℕ → Option α → Option (Option α)
  | 0, _ => none
  | _ + 1, none => some none
  | k + 1, some db =>
      if db ∉ s.live then none
      else if (s.ent db).networkAddr = networkAddr then some (some db)
      else findEntry s networkAddr k (s.links.next db)

/-- The search of a chain that has no more entries than there are. -/
def networkSearch (cfg : Config w) (s : Adapter α w) (networkAddr : List UInt8) :
    Option (Option α) :=
  findEntry s networkAddr (s.live.card + 1)
    (s.links.head (nat25NetworkHash cfg.oldKernel networkAddr))

/-- What is pointed to is live, or the pointer is null. -/
def Adapter.LivePtr (s : Adapter α w) (p : Option α) : Prop := ∀ a ∈ p, a ∈ s.live

instance (s : Adapter α w) (p : Option α) : Decidable (s.LivePtr p) := by
  unfold Adapter.LivePtr
  infer_instance

/-- `__network_hash_link`. -/
def networkHashLink (s : Adapter α w) (ent : α) (hash : Fin 16) : Option (Adapter α w) :=
  if ent ∈ s.live ∧ s.LivePtr (s.links.head hash) then
    some { s with links := s.links.link ent hash }
  else none

/-- The entry in which a place is, if it is in one. -/
def ownerOf : Slot (Fin 16) α → Option α
  | .head _ => none
  | .next a => some a

/-- `__network_hash_unlink`. -/
def networkHashUnlink (s : Adapter α w) (ent : α) : Option (Adapter α w) :=
  match s.links.pprev ent with
  | none => none
  | some p =>
      if ent ∈ s.live ∧ s.LivePtr (ownerOf p) ∧ s.LivePtr (s.links.next ent) then
        some { s with links := s.links.unlink ent p }
      else none

/-- `__nat25_db_network_lookup_and_replace`: the destination of the frame and the result. -/
def nat25DbNetworkLookupAndReplace (cfg : Config w) (s : Adapter α w) (da networkAddr : List UInt8)
    (jiffies : BitVec w) : Option (Adapter α w × List UInt8 × ℤ) :=
  match networkSearch cfg s networkAddr with
  | none => none
  | some none => some (s, da, 0)
  | some (some db) =>
      let e := s.ent db
      if nat25HasExpired cfg jiffies e then some (s, da, 1)
      else some (s.setEnt db { e with useCount := e.useCount + 1 }, e.macAddr, 1)

/-- `__nat25_db_network_insert`; `mem` is what `rtw_malloc` returns. -/
def nat25DbNetworkInsert (cfg : Config w) (s : Adapter α w) (mem : Option α)
    (macAddr networkAddr : List UInt8) (jiffies : BitVec w) : Option (Adapter α w) :=
  match networkSearch cfg s networkAddr with
  | none => none
  | some (some db) =>
      some (s.setEnt db { s.ent db with macAddr := macAddr, ageingTimer := jiffies })
  | some none =>
      match mem with
      | none => some s
      | some db =>
          networkHashLink
            ({ s with live := insert db s.live }.setEnt db ⟨1, macAddr, jiffies, networkAddr⟩)
            db (nat25NetworkHash cfg.oldKernel networkAddr)

/-- The cache without an entry that is to go. -/
def dropCache (s : Adapter α w) (f : α) : Adapter α w :=
  if s.scdbEntry = some f then
    { s with
      scdbMac := List.replicate 6 0
      scdbIp := List.replicate 4 0
      scdbEntry := none }
  else s

/-- An entry is taken out of the cache and of its chain, and freed. -/
def releaseEntry (s : Adapter α w) (f : α) : Option (Adapter α w) :=
  (networkHashUnlink (dropCache s f) f).map fun s => { s with live := s.live.erase f }

/-- The loop over a chain of `nat25_db_cleanup` and `nat25_db_expire`; `visit` gives the fields of
an entry afterwards and says whether it is freed. -/
def sweepChain (visit : Entry w → Entry w × Bool) :
    ℕ → Option α → Adapter α w → Option (Adapter α w)
  | 0, _, _ => none
  | _ + 1, none, s => some s
  | k + 1, some f, s =>
      if f ∉ s.live then none
      else
        let g := s.links.next f
        let v := visit (s.ent f)
        if v.2 then (releaseEntry (s.setEnt f v.1) f).bind (sweepChain visit k g)
        else sweepChain visit k g (s.setEnt f v.1)

/-- The loop over the chains. -/
def sweep (visit : Entry w → Entry w × Bool) : List (Fin 16) → Adapter α w → Option (Adapter α w)
  | [], s => some s
  | i :: is, s => (sweepChain visit (s.live.card + 1) (s.links.head i) s).bind (sweep visit is)

/-- `nat25_db_cleanup`. -/
def nat25DbCleanup (s : Adapter α w) : Option (Adapter α w) :=
  sweep (fun f => (f, true)) (List.finRange 16) s

/-- `nat25_db_expire`. -/
def nat25DbExpire (cfg : Config w) (s : Adapter α w) (jiffies : BitVec w) : Option (Adapter α w) :=
  sweep (fun f =>
    if nat25HasExpired cfg jiffies f then
      ({ f with useCount := f.useCount - 1 }, f.useCount - 1 == 0)
    else (f, false)) (List.finRange 16) s

/-- `__nat25_generate_ipv4_network_addr`. -/
def nat25GenerateIpv4NetworkAddr (ipAddr : List UInt8) : List UInt8 :=
  1 :: (List.replicate 6 0 ++ ipAddr.take 4 ++ List.replicate (16 - 6 - (ipAddr.take 4).length) 0)

/-- A frame that `rtw_br_client_tx` is given. -/
structure Frame where
  da : List UInt8
  sa : List UInt8
  /-- It has an 802.1Q tag. -/
  vlan : Bool
  /-- The source address of an IPv4 packet. -/
  saddr : Option (List UInt8)
deriving DecidableEq

/-- The entry in the cache is used. -/
def touch (s : Adapter α w) (db : α) (jiffies : BitVec w) : Option (Adapter α w) :=
  if db ∈ s.live then some (s.setEnt db { s.ent db with ageingTimer := jiffies }) else none

/-- The cache when an IPv4 frame is sent, and `do_nat25`. -/
def scdbLearn (cfg : Config w) (s : Adapter α w) (sa saddr : List UInt8) (jiffies : BitVec w) :
    Option (Adapter α w × Bool) :=
  if s.scdbMac ≠ sa then
    match networkSearch cfg s (nat25GenerateIpv4NetworkAddr saddr) with
    | none => none
    | some none => some ({ s with scdbEntry := none }, true)
    | some (some db) =>
        (touch { s with scdbEntry := some db, scdbMac := sa, scdbIp := saddr } db jiffies).map
          fun s => (s, false)
  else
    match s.scdbEntry with
    | some db => (touch s db jiffies).map fun s => (s, false)
    | none => some ({ s with scdbMac := List.replicate 6 0, scdbIp := List.replicate 4 0 }, true)

/-- What `rtw_br_client_tx` does under the lock, and `do_nat25`; `brPort` says that the interface
is the port of a bridge. -/
def rtwBrClientTx (cfg : Config w) (s : Adapter α w) (brPort : Bool) (f : Frame)
    (jiffies : BitVec w) : Option (Adapter α w × Bool) :=
  match f.saddr with
  | none => some (s, true)
  | some saddr =>
      match s.scdbEntry with
      | some db =>
          if (f.da.getD 0 0) &&& 1 = 0 ∧ brPort ∧ f.sa ≠ s.brMac ∧ ¬ f.vlan ∧ s.scdbMac = f.sa then
            (touch s db jiffies).map fun s => (s, false)
          else
            scdbLearn cfg (if f.sa = s.brMac then { s with brIp := saddr } else s) f.sa saddr
              jiffies
      | none =>
          scdbLearn cfg (if f.sa = s.brMac then { s with brIp := saddr } else s) f.sa saddr
              jiffies

/-- What is done under the lock. -/
inductive Op (α : Type*) (w : ℕ) where
  | insert (mem : Option α) (macAddr networkAddr : List UInt8) (jiffies : BitVec w)
  | lookup (da networkAddr : List UInt8) (jiffies : BitVec w)
  | expire (jiffies : BitVec w)
  | cleanup
  | clientTx (brPort : Bool) (f : Frame) (jiffies : BitVec w)
  /-- `netdev_br_init`. -/
  | brInit (brMac : List UInt8)

/-- A step.  `rtw_malloc` gives no memory that is in use. -/
def step (cfg : Config w) (s : Adapter α w) : Op α w → Option (Adapter α w)
  | .insert mem macAddr networkAddr jiffies =>
      nat25DbNetworkInsert cfg s (mem.filter (· ∉ s.live)) macAddr networkAddr jiffies
  | .lookup da networkAddr jiffies =>
      (nat25DbNetworkLookupAndReplace cfg s da networkAddr jiffies).map fun r => r.1
  | .expire jiffies => nat25DbExpire cfg s jiffies
  | .cleanup => nat25DbCleanup s
  | .clientTx brPort f jiffies => (rtwBrClientTx cfg s brPort f jiffies).map fun r => r.1
  | .brInit brMac => some { s with brMac := brMac }

/-- Steps one after the other. -/
def run (cfg : Config w) : Adapter α w → List (Op α w) → Option (Adapter α w)
  | s, [] => some s
  | s, o :: os => (step cfg s o).bind fun s => run cfg s os

/-- The adapter at first. -/
def start (ent : α → Entry w) : Adapter α w where
  links := Links.empty
  live := ∅
  ent := ent
  scdbMac := List.replicate 6 0
  scdbIp := List.replicate 4 0
  scdbEntry := none
  brMac := List.replicate 6 0
  brIp := List.replicate 4 0

/-! ### The chains -/

/-- The table is that of the lists `c`, each entry in the list of its hash value, and the entry in
the cache is live. -/
structure Rep (cfg : Config w) (s : Adapter α w) (c : Fin 16 → List α) : Prop where
  chains : Chains s.links c
  live_iff : ∀ a, a ∈ s.live ↔ ∃ i, a ∈ c i
  hash : ∀ i, ∀ a ∈ c i, nat25NetworkHash cfg.oldKernel (s.ent a).networkAddr = i
  distinct : ∀ a ∈ s.live, ∀ b ∈ s.live, (s.ent a).networkAddr = (s.ent b).networkAddr → a = b
  cache : ∀ a, s.scdbEntry = some a → a ∈ s.live

variable {cfg : Config w} {s : Adapter α w} {c : Fin 16 → List α} {a : α} {i : Fin 16} {k : ℕ}
  {key : List UInt8} {l l' : List α} {e : Entry w}

omit [DecidableEq α] in
lemma rep_start {g : Config w} (ent : α → Entry w) : Rep g (start ent) fun _ => [] where
  chains := chains_empty
  live_iff a := by simp [start]
  hash i a ha := absurd ha List.not_mem_nil
  distinct a ha := absurd ha (Finset.notMem_empty a)
  cache a ha := absurd ha (by simp [start])

omit [DecidableEq α] in
lemma Rep.mem_live (h : Rep cfg s c) (ha : a ∈ c i) : a ∈ s.live := (h.live_iff a).2 ⟨i, ha⟩

omit [DecidableEq α] in
/-- An entry is in the chain of its hash value. -/
lemma Rep.mem_chain (h : Rep cfg s c) (ha : a ∈ s.live) :
    a ∈ c (nat25NetworkHash cfg.oldKernel (s.ent a).networkAddr) := by
  obtain ⟨i, hi⟩ := (h.live_iff a).1 ha
  rwa [h.hash i a hi]

lemma Rep.length_le (h : Rep cfg s c) (i : Fin 16) : (c i).length ≤ s.live.card := by
  rw [← List.toFinset_card_of_nodup (h.chains.nodup i)]
  exact Finset.card_le_card fun a ha => h.mem_live (List.mem_toFinset.1 ha)

/-- A search goes through a chain to its end. -/
lemma findEntry_seg {q : List UInt8} {p : Slot (Fin 16) α} (h : Seg s.links p l)
    (hlive : ∀ a ∈ l, a ∈ s.live) (hk : l.length < k) :
    findEntry s q k l.head? = some (l.find? fun a => (s.ent a).networkAddr = q) := by
  induction l generalizing p k with
  | nil =>
      obtain ⟨k, rfl⟩ := Nat.exists_eq_add_one_of_ne_zero (Nat.ne_of_gt (Nat.zero_lt_of_lt hk))
      rfl
  | cons a l ih =>
      obtain ⟨k, rfl⟩ := Nat.exists_eq_add_one_of_ne_zero (Nat.ne_of_gt (Nat.zero_lt_of_lt hk))
      rw [List.head?_cons, findEntry, if_neg (not_not.2 (hlive a (List.mem_cons_self ..)))]
      have hrest : s.links.next a = l.head? := h.tail.get_eq
      by_cases hkey : (s.ent a).networkAddr = q
      · rw [if_pos hkey, List.find?_cons_of_pos (by simpa using hkey)]
      · rw [if_neg hkey, List.find?_cons_of_neg (by simpa using hkey), hrest]
        exact ih h.tail (fun b hb => hlive b (List.mem_cons_of_mem _ hb))
          (Nat.lt_of_succ_lt_succ hk)

/-- The search finds the entry with a network address, if there is one. -/
lemma Rep.networkSearch_cases (h : Rep cfg s c) (key : List UInt8) :
    (networkSearch cfg s key = some none ∧ ∀ a ∈ s.live, (s.ent a).networkAddr ≠ key) ∨
      ∃ a ∈ s.live, (s.ent a).networkAddr = key ∧ networkSearch cfg s key = some (some a) := by
  have hseg := h.chains.seg (nat25NetworkHash cfg.oldKernel key)
  have hfind := findEntry_seg (q := key) hseg (fun a ha => h.mem_live ha)
    (Nat.lt_succ_of_le (h.length_le _))
  rw [← hseg.get_eq] at hfind
  cases hres : (c (nat25NetworkHash cfg.oldKernel key)).find?
      fun a => (s.ent a).networkAddr = key with
  | none =>
      refine .inl ⟨hfind.trans (by rw [hres]), fun a ha hkey => ?_⟩
      have hnot := List.find?_eq_none.1 hres a (by rw [← hkey]; exact h.mem_chain ha)
      exact hnot (by simpa using hkey)
  | some a =>
      refine .inr ⟨a, h.mem_live (List.mem_of_find?_eq_some hres), ?_,
        hfind.trans (by rw [hres])⟩
      simpa using List.find?_some hres

/-! ### Changes of the table -/

/-- The other fields of an entry do not matter. -/
lemma Rep.setEnt (h : Rep cfg s c) (he : e.networkAddr = (s.ent a).networkAddr) :
    Rep cfg (s.setEnt a e) c := by
  have hent : ∀ b, ((s.setEnt a e).ent b).networkAddr = (s.ent b).networkAddr := by
    intro b
    by_cases hb : b = a
    · subst hb
      exact (congrArg _ (Function.update_self ..)).trans he
    · exact congrArg _ (Function.update_of_ne hb ..)
  refine ⟨h.chains, h.live_iff, fun i b hb => ?_, fun b hb d hd hbd => ?_, h.cache⟩
  · rw [hent]
    exact h.hash i b hb
  · rw [hent, hent] at hbd
    exact h.distinct b hb d hd hbd

/-- A new entry is linked. -/
lemma Rep.link (h : Rep cfg s c) (ha : a ∉ s.live)
    (hkey : ∀ b ∈ s.live, (s.ent b).networkAddr ≠ e.networkAddr) :
    ∃ s' c', networkHashLink ({ s with live := insert a s.live }.setEnt a e) a
      (nat25NetworkHash cfg.oldKernel e.networkAddr) = some s' ∧ Rep cfg s' c' := by
  have hnot : ∀ j, a ∉ c j := fun j hj => ha (h.mem_live hj)
  have hent : ∀ b ∈ s.live, Function.update s.ent a e b = s.ent b := by
    intro b hb
    refine Function.update_of_ne ?_ _ _
    rintro rfl
    exact ha hb
  have hptr : ({ s with live := insert a s.live }.setEnt a e).LivePtr
      (s.links.head (nat25NetworkHash cfg.oldKernel e.networkAddr)) := by
    rintro b hb
    have hget := (h.chains.seg (nat25NetworkHash cfg.oldKernel e.networkAddr)).get_eq
    rw [Links.get_head] at hget
    rw [hget] at hb
    exact Finset.mem_insert_of_mem (h.mem_live (List.mem_of_head? hb))
  refine ⟨_, Function.update c (nat25NetworkHash cfg.oldKernel e.networkAddr) (a :: c _),
    if_pos ⟨Finset.mem_insert_self .., hptr⟩, h.chains.link hnot _, fun b => ?_, fun j b hb => ?_,
    fun b hb d hd hbd => ?_, fun b hb => Finset.mem_insert_of_mem (h.cache b hb)⟩
  · refine Finset.mem_insert.trans ?_
    rw [h.live_iff b]
    constructor
    · rintro (rfl | ⟨j, hj⟩)
      · exact ⟨_, by rw [Function.update_self]; exact List.mem_cons_self ..⟩
      · refine ⟨j, ?_⟩
        by_cases hji : j = nat25NetworkHash cfg.oldKernel e.networkAddr
        · subst hji
          rw [Function.update_self]
          exact List.mem_cons_of_mem _ hj
        · rwa [Function.update_of_ne hji]
    · rintro ⟨j, hj⟩
      by_cases hji : j = nat25NetworkHash cfg.oldKernel e.networkAddr
      · subst hji
        rw [Function.update_self] at hj
        exact (List.mem_cons.1 hj).imp id fun hb => ⟨_, hb⟩
      · rw [Function.update_of_ne hji] at hj
        exact .inr ⟨j, hj⟩
  · by_cases hji : j = nat25NetworkHash cfg.oldKernel e.networkAddr
    · subst hji
      rw [Function.update_self] at hb
      rcases List.mem_cons.1 hb with rfl | hb
      · exact congrArg (fun f : Entry w => nat25NetworkHash cfg.oldKernel f.networkAddr)
          (Function.update_self ..)
      · exact (congrArg (fun f : Entry w => nat25NetworkHash cfg.oldKernel f.networkAddr)
          (hent b (h.mem_live hb))).trans (h.hash _ b hb)
    · rw [Function.update_of_ne hji] at hb
      exact (congrArg (fun f : Entry w => nat25NetworkHash cfg.oldKernel f.networkAddr)
        (hent b (h.mem_live hb))).trans (h.hash _ b hb)
  · change (Function.update s.ent a e b).networkAddr = (Function.update s.ent a e d).networkAddr
      at hbd
    rcases Finset.mem_insert.1 hb with hba | hb'
    · rcases Finset.mem_insert.1 hd with hda | hd'
      · exact hba.trans hda.symm
      · rw [hba, Function.update_self, hent d hd'] at hbd
        exact absurd hbd.symm (hkey d hd')
    · rcases Finset.mem_insert.1 hd with hda | hd'
      · rw [hda, Function.update_self, hent b hb'] at hbd
        exact absurd hbd (hkey b hb')
      · rw [hent b hb', hent d hd'] at hbd
        exact h.distinct b hb' d hd' hbd

lemma Rep.dropCache (h : Rep cfg s c) (a : α) :
    Rep cfg (Nat25.dropCache s a) c ∧ (Nat25.dropCache s a).scdbEntry ≠ some a := by
  unfold Nat25.dropCache
  split
  · exact ⟨⟨h.chains, h.live_iff, h.hash, h.distinct, fun b hb => absurd hb (by simp)⟩, by simp⟩
  · exact ⟨h, ‹_›⟩

/-- An entry is taken out of its chain and freed. -/
lemma Rep.release (h : Rep cfg s c) (hc : c i = l ++ a :: l') :
    ∃ s', releaseEntry s a = some s' ∧ Rep cfg s' (Function.update c i (l ++ l')) := by
  obtain ⟨h', hcache⟩ := h.dropCache a
  have hseg := h'.chains.seg i
  rw [hc] at hseg
  have ha : a ∈ c i := by simp [hc]
  have hunlink : networkHashUnlink (Nat25.dropCache s a) a = some { Nat25.dropCache s a with
      links := (Nat25.dropCache s a).links.unlink a (last (.head i) l) } := by
    unfold networkHashUnlink
    rw [hseg.pprev_eq]
    refine if_pos ⟨h'.mem_live ha, ?_, ?_⟩
    · rcases last_head i l with ⟨-, hlast⟩ | ⟨b, hb, hlast⟩
      · simp [hlast, ownerOf, Adapter.LivePtr]
      · rw [hlast]
        rintro d hd
        obtain rfl : b = d := Option.mem_some_iff.1 hd
        exact h'.mem_live (i := i) (by simp [hc, hb])
    · rw [hseg.next_eq]
      rintro d hd
      exact h'.mem_live (i := i) (by simp [hc, List.mem_of_head? hd])
  refine ⟨_, by rw [releaseEntry, hunlink, Option.map_some], ?_⟩
  have hother := h'.chains.mem_unlink hc
  refine ⟨h'.chains.unlink hc, fun b => ?_, fun j b hb => ?_, fun b hb d hd => ?_, fun b hb => ?_⟩
  · refine Finset.mem_erase.trans ?_
    rw [h'.live_iff b]
    simp only [hother]
    tauto
  · exact h'.hash j b ((hother j b).1 hb).1
  · exact h'.distinct b (Finset.mem_of_mem_erase hb) d (Finset.mem_of_mem_erase hd)
  · refine Finset.mem_erase.2 ⟨fun hba => hcache (hba ▸ hb), h'.cache b hb⟩

/-- A visit changes no network address. -/
def Harmless (visit : Entry w → Entry w × Bool) : Prop :=
  ∀ e, (visit e).1.networkAddr = e.networkAddr

variable {visit : Entry w → Entry w × Bool}

/-- The loop over a chain comes to its end, with the entries that it has left behind it. -/
lemma Rep.sweepChain {r : List α} (hv : Harmless visit) (h : Rep cfg s c) (hc : c i = l ++ r)
    (hk : r.length < k) :
    ∃ s' c', Nat25.sweepChain visit k r.head? s = some s' ∧ Rep cfg s' c' := by
  induction r generalizing s c l k with
  | nil =>
      obtain ⟨k, rfl⟩ := Nat.exists_eq_add_one_of_ne_zero (Nat.ne_of_gt (Nat.zero_lt_of_lt hk))
      exact ⟨s, c, rfl, h⟩
  | cons a r ih =>
      obtain ⟨k, rfl⟩ := Nat.exists_eq_add_one_of_ne_zero (Nat.ne_of_gt (Nat.zero_lt_of_lt hk))
      have hk' := Nat.lt_of_succ_lt_succ hk
      have hseg := h.chains.seg i
      rw [hc] at hseg
      have hent : Rep cfg (s.setEnt a (visit (s.ent a)).1) c := h.setEnt (hv _)
      rw [List.head?_cons, Nat25.sweepChain,
        if_neg (not_not.2 (h.mem_live (i := i) (by simp [hc]))),
        hseg.next_eq]
      by_cases hgo : (visit (s.ent a)).2 = true
      · obtain ⟨s', hrelease, h'⟩ := hent.release hc
        simp only [hgo, if_true, hrelease, Option.bind_some]
        exact ih h' (Function.update_self ..) hk'
      · simp only [hgo]
        exact ih hent (l := l ++ [a]) (by simpa using hc) hk'

lemma Rep.sweep (hv : Harmless visit) (h : Rep cfg s c) (is : List (Fin 16)) :
    ∃ s' c', Nat25.sweep visit is s = some s' ∧ Rep cfg s' c' := by
  induction is generalizing s c with
  | nil => exact ⟨s, c, rfl, h⟩
  | cons i is ih =>
      have hhead := (h.chains.seg i).get_eq
      rw [Links.get_head] at hhead
      obtain ⟨s', c', hchain, h'⟩ := h.sweepChain hv (i := i) (l := []) (r := c i) rfl
        (Nat.lt_succ_of_le (h.length_le i))
      rw [Nat25.sweep, hhead, hchain]
      exact ih h'

/-! ### Steps -/

omit [DecidableEq α] in
lemma Rep.cacheTo (h : Rep cfg s c) {entry : Option α} (hentry : ∀ a, entry = some a → a ∈ s.live)
    (scdbMac scdbIp brMac brIp : List UInt8) :
    Rep cfg { s with
      scdbEntry := entry, scdbMac := scdbMac, scdbIp := scdbIp, brMac := brMac, brIp := brIp } c :=
  ⟨h.chains, h.live_iff, h.hash, h.distinct, hentry⟩

lemma Rep.touch (h : Rep cfg s c) (ha : a ∈ s.live) (jiffies : BitVec w) :
    ∃ s', Nat25.touch s a jiffies = some s' ∧ Rep cfg s' c :=
  ⟨_, if_pos ha, h.setEnt rfl⟩

lemma Rep.insert (h : Rep cfg s c) (mem : Option α) (hmem : ∀ a, mem = some a → a ∉ s.live)
    (macAddr networkAddr : List UInt8) (jiffies : BitVec w) :
    ∃ s' c', nat25DbNetworkInsert cfg s mem macAddr networkAddr jiffies = some s' ∧
      Rep cfg s' c' := by
  unfold nat25DbNetworkInsert
  rcases h.networkSearch_cases networkAddr with ⟨hsearch, hnot⟩ | ⟨a, ha, -, hsearch⟩
  · rw [hsearch]
    cases mem with
    | none => exact ⟨s, c, rfl, h⟩
    | some a => exact h.link (e := ⟨1, macAddr, jiffies, networkAddr⟩) (hmem a rfl) hnot
  · rw [hsearch]
    exact ⟨_, c, rfl, h.setEnt rfl⟩

lemma Rep.lookup (h : Rep cfg s c) (da networkAddr : List UInt8) (jiffies : BitVec w) :
    ∃ s' r, nat25DbNetworkLookupAndReplace cfg s da networkAddr jiffies = some (s', r) ∧
      Rep cfg s' c := by
  unfold nat25DbNetworkLookupAndReplace
  rcases h.networkSearch_cases networkAddr with ⟨hsearch, -⟩ | ⟨a, -, -, hsearch⟩
  · rw [hsearch]
    exact ⟨s, _, rfl, h⟩
  · rw [hsearch]
    dsimp only
    split
    · exact ⟨s, _, rfl, h⟩
    · exact ⟨_, _, rfl, h.setEnt rfl⟩

lemma Rep.scdbLearn (h : Rep cfg s c) (sa saddr : List UInt8) (jiffies : BitVec w) :
    ∃ s' b, Nat25.scdbLearn cfg s sa saddr jiffies = some (s', b) ∧ Rep cfg s' c := by
  unfold Nat25.scdbLearn
  split
  · rcases h.networkSearch_cases (nat25GenerateIpv4NetworkAddr saddr) with
      ⟨hsearch, -⟩ | ⟨a, ha, -, hsearch⟩
    · rw [hsearch]
      exact ⟨_, true, rfl, h.cacheTo (fun a ha => absurd ha (by simp)) _ _ _ _⟩
    · rw [hsearch]
      have hcache : Rep cfg { s with scdbEntry := some a, scdbMac := sa, scdbIp := saddr } c :=
        h.cacheTo (fun b hb => Option.some.inj hb ▸ ha) _ _ _ _
      obtain ⟨s', htouch, h'⟩ := hcache.touch ha jiffies
      exact ⟨s', false, congrArg (Option.map fun s => (s, false)) htouch, h'⟩
  · split
    · rename_i db hdb
      obtain ⟨s', htouch, h'⟩ := h.touch (h.cache db hdb) jiffies
      exact ⟨s', false, congrArg (Option.map fun s => (s, false)) htouch, h'⟩
    · exact ⟨_, true, rfl, h.cacheTo h.cache _ _ _ _⟩

lemma Rep.clientTx (h : Rep cfg s c) (brPort : Bool) (f : Frame) (jiffies : BitVec w) :
    ∃ s' b, rtwBrClientTx cfg s brPort f jiffies = some (s', b) ∧ Rep cfg s' c := by
  have hlearn (saddr : List UInt8) : ∃ s' b, Nat25.scdbLearn cfg
      (if f.sa = s.brMac then { s with brIp := saddr } else s) f.sa saddr jiffies = some (s', b) ∧
        Rep cfg s' c := by
    split
    · exact (h.cacheTo h.cache _ _ _ saddr).scdbLearn _ _ _
    · exact h.scdbLearn _ _ _
  unfold rtwBrClientTx
  split
  · exact ⟨s, true, rfl, h⟩
  split
  · rename_i db hdb
    split
    · obtain ⟨s', htouch, h'⟩ := h.touch (h.cache db hdb) jiffies
      exact ⟨s', false, congrArg (Option.map fun s => (s, false)) htouch, h'⟩
    · exact hlearn _
  · exact hlearn _

/-- A step has a result and keeps the table. -/
lemma Rep.step (h : Rep cfg s c) (o : Op α w) :
    ∃ s' c', Nat25.step cfg s o = some s' ∧ Rep cfg s' c' := by
  cases o with
  | insert mem macAddr networkAddr jiffies =>
      refine h.insert _ (fun a ha => ?_) macAddr networkAddr jiffies
      simpa using (Option.filter_eq_some_iff.1 ha).2
  | lookup da networkAddr jiffies =>
      obtain ⟨s', r, hlookup, h'⟩ := h.lookup da networkAddr jiffies
      exact ⟨s', c, by rw [Nat25.step, hlookup, Option.map_some], h'⟩
  | expire jiffies =>
      refine h.sweep (fun e => ?_) _
      split <;> rfl
  | cleanup => exact h.sweep (fun e => rfl) _
  | clientTx brPort f jiffies =>
      obtain ⟨s', b, htx, h'⟩ := h.clientTx brPort f jiffies
      exact ⟨s', c, by rw [Nat25.step, htx, Option.map_some], h'⟩
  | brInit brMac => exact ⟨_, c, rfl, h.cacheTo h.cache _ _ brMac _⟩

lemma Rep.run (h : Rep cfg s c) (os : List (Op α w)) :
    ∃ s' c', Nat25.run cfg s os = some s' ∧ Rep cfg s' c' := by
  induction os generalizing s c with
  | nil => exact ⟨s, c, rfl, h⟩
  | cons o os ih =>
      obtain ⟨s', c', hstep, h'⟩ := h.step o
      rw [Nat25.run, hstep]
      exact ih h'

/-- What holds of the table in memory. -/
structure Intact (cfg : Config w) (s : Adapter α w) : Prop where
  /-- Each entry is come to in one way from the head of a chain. -/
  once : ∀ a ∈ s.live, ∃! p : Fin 16 × ℕ, nth s.links p.1 p.2 = some a
  /-- What is linked is an entry, in the chain of its hash value. -/
  bucket : ∀ i n a, nth s.links i n = some a →
    a ∈ s.live ∧ nat25NetworkHash cfg.oldKernel (s.ent a).networkAddr = i
  distinct : ∀ a ∈ s.live, ∀ b ∈ s.live, (s.ent a).networkAddr = (s.ent b).networkAddr → a = b
  cache : ∀ a, s.scdbEntry = some a → a ∈ s.live

omit [DecidableEq α] in
lemma Rep.intact (h : Rep cfg s c) : Intact cfg s where
  once a ha := h.chains.existsUnique (h.mem_chain ha)
  bucket i n a hn := by
    have ha : a ∈ c i := List.mem_of_getElem? ((h.chains.nth_eq i n).symm.trans hn)
    exact ⟨h.mem_live ha, h.hash i a ha⟩
  distinct := h.distinct
  cache := h.cache

/-- Whatever is done, no step fails, each entry is linked once, in its chain, no two have the same
network address, and the entry in the cache is linked. -/
theorem run_intact (cfg : Config w) (ent : α → Entry w) (os : List (Op α w)) :
    ∃ s, run cfg (start ent) os = some s ∧ Intact cfg s := by
  obtain ⟨s, c, hrun, h⟩ := (rep_start (g := cfg) ent).run os
  exact ⟨s, hrun, h.intact⟩

end Rtl8723du.Nat25
