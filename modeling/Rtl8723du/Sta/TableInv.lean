import Rtl8723du.Sta.MfpAuth

/-!
# The lists of the station table

Where the entries are.  That each entry is in the free queue or in the bucket of its address,
and that `auth_list` is of hashed entries, holds whatever happens (`Placed`).  That
`asoc_list` and the AID table are of hashed entries too, and that no address is there twice,
holds as long as no entry is freed that is linked in `asoc_list` (`Tidy`).
-/

namespace Rtl8723du

open Lib.Links

variable {s s' : StaPriv} {cfg : ApConfig} {hwaddr : MacAddr} {i j : Fin numSta} {g : Sta → Sta}

/-- The members of an entry that the lists are about. -/
structure Sta.SameLinks (x y : Sta) : Prop where
  macAddr : y.macAddr = x.macAddr
  aid : y.aid = x.aid
  authLinked : y.authLinked = x.authLinked
  asocLinked : y.asocLinked = x.asocLinked

lemma Sta.SameLinks.refl (x : Sta) : x.SameLinks x := ⟨rfl, rfl, rfl, rfl⟩

lemma Sta.SameLinks.trans {x y z : Sta} (h : x.SameLinks y) (h' : y.SameLinks z) :
    x.SameLinks z :=
  ⟨h'.macAddr.trans h.macAddr, h'.aid.trans h.aid, h'.authLinked.trans h.authLinked,
    h'.asocLinked.trans h.asocLinked⟩

/-- The flags that say what a station is counted for. -/
def Sta.counted (sta : Sta) : (CapProp → Bool) × Bool := (sta.capSet, sta.ht40mhzIntolerant)

lemma wifiMacHash_lt (mac : MacAddr) : wifiMacHash mac < numSta := by
  rw [wifiMacHash]
  rw [BitVec.toNat_and]
  exact Nat.lt_of_le_of_lt Nat.and_le_right (by decide)

namespace StaPriv

/-- The entry is in the bucket of its address. -/
def Hashed (s : StaPriv) (i : Fin numSta) : Prop := i ∈ s.staHash (wifiMacHash (s.sta i).macAddr)

instance (s : StaPriv) (i : Fin numSta) : Decidable (s.Hashed i) := by
  rw [Hashed]
  infer_instance

/-- A list of hashed entries: which nodes are linked in it, and how many. -/
structure Listed (hashed : Fin numSta → Prop) (linked : Fin numSta → Bool)
    (l : List (Fin numSta)) (cnt : BitVec 8) : Prop where
  nodup : l.Nodup
  mem : ∀ i, i ∈ l ↔ linked i = true
  hashed : ∀ i ∈ l, hashed i
  cnt : cnt.toNat = l.length

/-- Every entry has its one place, and `auth_list` is of hashed ones. -/
structure Placed (s : StaPriv) : Prop where
  free_nodup : s.freeStaQueue.Nodup
  bucket_nodup : ∀ index, (s.staHash index).Nodup
  mem_bucket : ∀ index, ∀ i ∈ s.staHash index, index = wifiMacHash (s.sta i).macAddr
  mem_free : ∀ i, i ∈ s.freeStaQueue ↔ ¬ s.Hashed i
  count : s.asocStaCount + s.freeStaQueue.length = numSta
  auth : Listed s.Hashed (fun i => (s.sta i).authLinked) s.authList s.authListCnt

/-- `asoc_list` and the AID table are of hashed entries, and every address is hashed once. -/
structure Tidy (s : StaPriv) (cfg : ApConfig) : Prop where
  asoc : Listed s.Hashed (fun i => (s.sta i).asocLinked) s.asocList s.asocListCnt
  apart : ∀ i, (s.sta i).authLinked = true → (s.sta i).asocLinked = false
  unique : ∀ i j, s.Hashed i → s.Hashed j → (s.sta i).macAddr = (s.sta j).macAddr → i = j
  aid_hashed : ∀ aid i, s.staAid aid = some i → s.Hashed i ∧ (s.sta i).aid = aid + 1
  aid_ap : cfg.apState = false → ∀ aid, s.staAid aid = none

/-! ### Linking -/

section Listed

variable {hashed hashed' : Fin numSta → Prop} {linked linked' : Fin numSta → Bool}
  {l : List (Fin numSta)} {cnt : BitVec 8}

lemma Listed.length_le (h : Listed hashed linked l cnt) : l.length ≤ 32 := by
  simpa using h.nodup.length_le_card

lemma Listed.congr (h : Listed hashed linked l cnt) (hlinked : ∀ j, linked' j = linked j)
    (hhashed : ∀ j ∈ l, hashed j → hashed' j) : Listed hashed' linked' l cnt where
  nodup := h.nodup
  mem := fun j => by rw [h.mem, hlinked]
  hashed := fun j hj => hhashed j hj (h.hashed j hj)
  cnt := h.cnt

lemma Listed.link (h : Listed hashed linked l cnt) (hi : hashed i) (hout : linked i = false)
    (hlinked : ∀ j, linked' j = if j = i then true else linked j) :
    Listed hashed linked' (l ++ [i]) (cnt + 1) where
  nodup := nodup_append_singleton h.nodup fun hmem =>
    Bool.false_ne_true (hout.symm.trans ((h.mem i).1 hmem))
  mem := fun j => by
    rw [hlinked, List.mem_append, h.mem, List.mem_singleton]
    by_cases hji : j = i <;> simp [hji]
  hashed := fun j hj => by
    rcases List.mem_append.1 hj with hl | hnew
    · exact h.hashed j hl
    · rw [List.mem_singleton.1 hnew]
      exact hi
  cnt := by
    have hle := h.length_le
    have hcnt := h.cnt
    rw [BitVec.toNat_add, List.length_append, List.length_singleton, hcnt]
    exact Nat.mod_eq_of_lt (by show l.length + 1 < 2 ^ 8; omega)

lemma Listed.unlink (h : Listed hashed linked l cnt) (hin : linked i = true)
    (hlinked : ∀ j, linked' j = if j = i then false else linked j) :
    Listed hashed linked' (Lib.Links.unlink l i) (cnt - 1) where
  nodup := nodup_unlink i h.nodup
  mem := fun j => by
    rw [hlinked, mem_unlink, h.mem]
    by_cases hji : j = i <;> simp [hji]
  hashed := fun j hj => h.hashed j (mem_unlink.1 hj).1
  cnt := by
    have hlen := length_unlink h.nodup ((h.mem i).2 hin)
    have hle := h.length_le
    have hcnt := h.cnt
    have hone : (1 : BitVec 8).toNat = 1 := rfl
    rw [BitVec.toNat_sub, hcnt, hone]
    omega

end Listed

/-! ### The search -/

lemma Placed.hashed_of_mem (h : s.Placed) {index : ℕ} (hi : i ∈ s.staHash index) :
    s.Hashed i := by
  rw [Hashed, ← h.mem_bucket index i hi]
  exact hi

lemma Placed.notMem_bucket (h : s.Placed) (hi : i ∈ s.freeStaQueue) (index : ℕ) :
    i ∉ s.staHash index := fun hmem => (h.mem_free i).1 hi (h.hashed_of_mem hmem)

lemma hashed_of_getStainfo (h : s.Placed) (hfound : s.getStainfo hwaddr = some i) :
    s.Hashed i := h.hashed_of_mem (List.mem_of_find?_eq_some hfound)

lemma macAddr_of_getStainfo (hmcast : isMcast hwaddr = false)
    (hfound : s.getStainfo hwaddr = some i) : (s.sta i).macAddr = hwaddr := by
  have hmac := List.find?_some hfound
  simpa [hmcast] using hmac

/-- An address that is not found is that of no hashed entry. -/
lemma macAddr_ne_of_getStainfo (hmcast : isMcast hwaddr = false)
    (hnone : s.getStainfo hwaddr = none) (hi : s.Hashed i) : (s.sta i).macAddr ≠ hwaddr := by
  rintro rfl
  have hmem : i ∈ s.staHash (wifiMacHash (s.sta i).macAddr) := hi
  have hno := List.find?_eq_none.1 hnone i (by simpa [hmcast] using hmem)
  simp [hmcast] at hno

/-! ### Where the lists stay -/

/-- The addresses and the buckets stay. -/
structure SameHash (s s' : StaPriv) : Prop where
  staHash : s'.staHash = s.staHash
  macAddr : ∀ i, (s'.sta i).macAddr = (s.sta i).macAddr

lemma SameHash.hashed (h : SameHash s s') : s'.Hashed i ↔ s.Hashed i := by
  rw [Hashed, Hashed, h.staHash, h.macAddr]

lemma SameHash.trans {s'' : StaPriv} (h : SameHash s s') (h' : SameHash s' s'') :
    SameHash s s'' :=
  ⟨h'.staHash.trans h.staHash, fun i => (h'.macAddr i).trans (h.macAddr i)⟩

/-- Nothing but `auth_list` changes of what places an entry. -/
lemma Placed.of_auth (h : s.Placed) (hs : SameHash s s')
    (hfree : s'.freeStaQueue = s.freeStaQueue) (hcount : s'.asocStaCount = s.asocStaCount)
    (hauth : Listed s.Hashed (fun i => (s'.sta i).authLinked) s'.authList s'.authListCnt) :
    s'.Placed where
  free_nodup := hfree ▸ h.free_nodup
  bucket_nodup := hs.staHash ▸ h.bucket_nodup
  mem_bucket := fun index i hi => by
    rw [hs.macAddr]
    exact h.mem_bucket index i (hs.staHash ▸ hi)
  mem_free := fun i => by rw [hfree, hs.hashed, h.mem_free]
  count := by rw [hcount, hfree, h.count]
  auth := hauth.congr (fun _ => rfl) fun _ _ hj => hs.hashed.2 hj

/-- Nothing but `asoc_list` changes of what else the entries are linked in. -/
lemma Tidy.of_asoc (h : s.Tidy cfg) (hs : SameHash s s') (hstaAid : s'.staAid = s.staAid)
    (haid : ∀ i, (s'.sta i).aid = (s.sta i).aid)
    (hasoc : Listed s.Hashed (fun i => (s'.sta i).asocLinked) s'.asocList s'.asocListCnt)
    (hapart : ∀ i, (s'.sta i).authLinked = true → (s'.sta i).asocLinked = false) :
    s'.Tidy cfg where
  asoc := hasoc.congr (fun _ => rfl) fun _ _ hj => hs.hashed.2 hj
  apart := hapart
  unique := fun i j hi hj hmac =>
    h.unique i j (hs.hashed.1 hi) (hs.hashed.1 hj) (by rw [← hs.macAddr, hmac, hs.macAddr])
  aid_hashed := fun aid i hi => by
    rw [hs.hashed, haid]
    exact h.aid_hashed aid i (hstaAid ▸ hi)
  aid_ap := fun hap aid => by rw [hstaAid, h.aid_ap hap]

/-! ### An entry is written -/

/-- One entry is written, and no other. -/
def Writes (s s' : StaPriv) (i : Fin numSta) (g : Sta → Sta) : Prop :=
  ∀ j, s'.sta j = if j = i then g (s.sta i) else s.sta j

/-- A member of the entries that is not written. -/
lemma Writes.same {β : Type*} (h : Writes s s' i g) (field : Sta → β)
    (hg : field (g (s.sta i)) = field (s.sta i)) (j : Fin numSta) :
    field (s'.sta j) = field (s.sta j) := by
  rw [h j]
  split
  · rename_i hji
    rw [hg, hji]
  · rfl

/-- A member that is written. -/
lemma Writes.set {β : Type*} (h : Writes s s' i g) (field : Sta → β) {b : β}
    (hg : field (g (s.sta i)) = b) (j : Fin numSta) :
    field (s'.sta j) = if j = i then b else field (s.sta j) := by
  rw [h j]
  split
  · exact hg
  · rfl

/-- An entry that is not written is written as it is. -/
lemma writes_rfl (hg : g (s.sta i) = s.sta i) : Writes s s i g := fun j => by
  split
  · rename_i hji
    rw [hg, hji]
  · rfl

lemma writes_modify (s : StaPriv) (i : Fin numSta) (g : Sta → Sta) : Writes s (s.modify i g) i g :=
  fun _ => Function.update_apply ..

lemma Placed.modify (h : s.Placed) (hg : (s.sta i).SameLinks (g (s.sta i))) :
    (s.modify i g).Placed :=
  have hw := writes_modify s i g
  h.of_auth ⟨rfl, hw.same Sta.macAddr hg.macAddr⟩ rfl rfl
    (h.auth.congr (hw.same Sta.authLinked hg.authLinked) fun _ _ hj => hj)

lemma Tidy.modify (h : s.Tidy cfg) (hg : (s.sta i).SameLinks (g (s.sta i))) :
    (s.modify i g).Tidy cfg :=
  have hw := writes_modify s i g
  h.of_asoc ⟨rfl, hw.same Sta.macAddr hg.macAddr⟩ rfl (hw.same Sta.aid hg.aid)
    (h.asoc.congr (hw.same Sta.asocLinked hg.asocLinked) fun _ _ hj => hj) fun j hj => by
      rw [hw.same Sta.asocLinked hg.asocLinked]
      rw [hw.same Sta.authLinked hg.authLinked] at hj
      exact h.apart j hj

/-! ### A node is linked or unlinked -/

lemma writes_authLink (s : StaPriv) (i : Fin numSta) :
    Writes s (s.authLink i) i (·.setAuthLinked true) := by
  rw [authLink]
  split
  · rename_i hin
    exact writes_rfl (by simp [Sta.setAuthLinked, ← hin])
  · exact writes_modify s i (·.setAuthLinked true)

lemma writes_authUnlink (s : StaPriv) (i : Fin numSta) :
    Writes s (s.authUnlink i) i (·.setAuthLinked false) := by
  rw [authUnlink]
  split
  · exact writes_modify s i (·.setAuthLinked false)
  · rename_i hout
    rw [Bool.not_eq_true] at hout
    exact writes_rfl (by simp [Sta.setAuthLinked, ← hout])

lemma writes_asocLink (s : StaPriv) (i : Fin numSta) :
    Writes s (s.asocLink i) i (·.setAsocLinked true) := by
  rw [asocLink]
  split
  · rename_i hin
    exact writes_rfl (by simp [Sta.setAsocLinked, ← hin])
  · exact writes_modify s i (·.setAsocLinked true)

lemma writes_asocUnlink (s : StaPriv) (i : Fin numSta) :
    Writes s (s.asocUnlink i) i (·.setAsocLinked false) := by
  rw [asocUnlink]
  split
  · exact writes_modify s i (·.setAsocLinked false)
  · rename_i hout
    rw [Bool.not_eq_true] at hout
    exact writes_rfl (by simp [Sta.setAsocLinked, ← hout])

/-- Everything but `auth_list` and the entries stays. -/
structure SameButAuth (s s' : StaPriv) : Prop where
  freeStaQueue : s'.freeStaQueue = s.freeStaQueue
  staHash : s'.staHash = s.staHash
  asocStaCount : s'.asocStaCount = s.asocStaCount
  asocList : s'.asocList = s.asocList
  asocListCnt : s'.asocListCnt = s.asocListCnt
  staAid : s'.staAid = s.staAid

/-- Everything but `asoc_list` and the entries stays. -/
structure SameButAsoc (s s' : StaPriv) : Prop where
  freeStaQueue : s'.freeStaQueue = s.freeStaQueue
  staHash : s'.staHash = s.staHash
  asocStaCount : s'.asocStaCount = s.asocStaCount
  authList : s'.authList = s.authList
  authListCnt : s'.authListCnt = s.authListCnt
  staAid : s'.staAid = s.staAid

lemma sameButAuth_authLink (s : StaPriv) (i : Fin numSta) : SameButAuth s (s.authLink i) := by
  rw [authLink]
  split <;> exact ⟨rfl, rfl, rfl, rfl, rfl, rfl⟩

lemma sameButAuth_authUnlink (s : StaPriv) (i : Fin numSta) :
    SameButAuth s (s.authUnlink i) := by
  rw [authUnlink]
  split <;> exact ⟨rfl, rfl, rfl, rfl, rfl, rfl⟩

lemma sameButAsoc_asocLink (s : StaPriv) (i : Fin numSta) : SameButAsoc s (s.asocLink i) := by
  rw [asocLink]
  split <;> exact ⟨rfl, rfl, rfl, rfl, rfl, rfl⟩

lemma sameButAsoc_asocUnlink (s : StaPriv) (i : Fin numSta) :
    SameButAsoc s (s.asocUnlink i) := by
  rw [asocUnlink]
  split <;> exact ⟨rfl, rfl, rfl, rfl, rfl, rfl⟩

lemma Placed.authLink (h : s.Placed) (hi : s.Hashed i) : (s.authLink i).Placed := by
  have hw := writes_authLink s i
  have hs := sameButAuth_authLink s i
  refine h.of_auth ⟨hs.staHash, hw.same Sta.macAddr rfl⟩ hs.freeStaQueue hs.asocStaCount ?_
  have hlinked := hw.set Sta.authLinked rfl
  rw [StaPriv.authLink] at hlinked ⊢
  split
  · exact h.auth
  · rename_i hout
    rw [if_neg hout] at hlinked
    exact h.auth.link hi (Bool.not_eq_true _ ▸ hout) hlinked

lemma listed_authUnlink {hashed : Fin numSta → Prop}
    (h : Listed hashed (fun j => (s.sta j).authLinked) s.authList s.authListCnt) :
    Listed hashed (fun j => ((s.authUnlink i).sta j).authLinked) (s.authUnlink i).authList
      (s.authUnlink i).authListCnt := by
  have hlinked := (writes_authUnlink s i).set Sta.authLinked rfl
  rw [StaPriv.authUnlink] at hlinked ⊢
  split
  · rename_i hin
    rw [if_pos hin] at hlinked
    exact h.unlink hin hlinked
  · exact h

lemma Placed.authUnlink (h : s.Placed) : (s.authUnlink i).Placed :=
  have hs := sameButAuth_authUnlink s i
  h.of_auth ⟨hs.staHash, (writes_authUnlink s i).same Sta.macAddr rfl⟩ hs.freeStaQueue
    hs.asocStaCount (listed_authUnlink h.auth)

/-- The AID table and `asoc_list` do not see what is done to `auth_list`. -/
lemma Tidy.of_sameButAuth (h : s.Tidy cfg) (hs : SameButAuth s s') {linked : Bool}
    (hw : Writes s s' i (·.setAuthLinked linked))
    (hapart : linked = true → (s.sta i).asocLinked = false) : s'.Tidy cfg := by
  have hasoc := hw.same Sta.asocLinked rfl
  refine h.of_asoc ⟨hs.staHash, hw.same Sta.macAddr rfl⟩ hs.staAid (hw.same Sta.aid rfl) ?_ ?_
  · rw [hs.asocList, hs.asocListCnt]
    exact h.asoc.congr hasoc fun _ _ hj => hj
  · intro j hj
    rw [hasoc]
    rw [hw.set Sta.authLinked rfl] at hj
    split at hj
    · rename_i hji
      exact hji ▸ hapart hj
    · exact h.apart j hj

/-- The free queue, the buckets and `auth_list` do not see what is done to `asoc_list`. -/
lemma Placed.of_sameButAsoc (h : s.Placed) (hs : SameButAsoc s s') {linked : Bool}
    (hw : Writes s s' i (·.setAsocLinked linked)) : s'.Placed := by
  refine h.of_auth ⟨hs.staHash, hw.same Sta.macAddr rfl⟩ hs.freeStaQueue hs.asocStaCount ?_
  rw [hs.authList, hs.authListCnt]
  exact h.auth.congr (hw.same Sta.authLinked rfl) fun _ _ hj => hj

lemma Tidy.asocLink (h : s.Tidy cfg) (hi : s.Hashed i) (hauth : (s.sta i).authLinked = false) :
    (s.asocLink i).Tidy cfg := by
  have hw := writes_asocLink s i
  have hs := sameButAsoc_asocLink s i
  have hlinked := hw.set Sta.asocLinked rfl
  refine h.of_asoc ⟨hs.staHash, hw.same Sta.macAddr rfl⟩ hs.staAid (hw.same Sta.aid rfl) ?_ ?_
  · rw [StaPriv.asocLink] at hlinked ⊢
    split
    · exact h.asoc
    · rename_i hout
      rw [if_neg hout] at hlinked
      exact h.asoc.link hi (Bool.not_eq_true _ ▸ hout) hlinked
  · intro j hj
    rw [hw.same Sta.authLinked rfl] at hj
    rw [hlinked]
    split
    · rename_i hji
      rw [hji, hauth] at hj
      exact absurd hj Bool.false_ne_true
    · exact h.apart j hj

lemma Tidy.asocUnlink (h : s.Tidy cfg) : (s.asocUnlink i).Tidy cfg := by
  have hw := writes_asocUnlink s i
  have hs := sameButAsoc_asocUnlink s i
  have hlinked := hw.set Sta.asocLinked rfl
  refine h.of_asoc ⟨hs.staHash, hw.same Sta.macAddr rfl⟩ hs.staAid (hw.same Sta.aid rfl) ?_ ?_
  · rw [StaPriv.asocUnlink] at hlinked ⊢
    split
    · rename_i hin
      rw [if_pos hin] at hlinked
      exact h.asoc.unlink hin hlinked
    · exact h.asoc
  · intro j hj
    rw [hw.same Sta.authLinked rfl] at hj
    rw [hlinked]
    split
    · rfl
    · exact h.apart j hj

/-! ### An entry is taken -/

lemma allocStainfo_nil (hq : s.freeStaQueue = []) : s.allocStainfo hwaddr = (s, none) := by
  simp [allocStainfo, hq]

lemma allocStainfo_cons {rest : List (Fin numSta)} (hq : s.freeStaQueue = i :: rest) :
    s.allocStainfo hwaddr =
      ((s.takeEntry i rest hwaddr).hashLink i (wifiMacHash hwaddr), some i) := by
  have hindex : ¬ numSta ≤ wifiMacHash hwaddr := Nat.not_le.2 (wifiMacHash_lt hwaddr)
  simp [allocStainfo, hq, hindex]

section Alloc

variable {rest : List (Fin numSta)}

lemma writes_alloc (s : StaPriv) (i : Fin numSta) (rest : List (Fin numSta)) (hwaddr : MacAddr) :
    Writes s ((s.takeEntry i rest hwaddr).hashLink i (wifiMacHash hwaddr)) i
      fun _ => { macAddr := hwaddr } :=
  writes_modify s i fun _ => { macAddr := hwaddr }

/-- The buckets after an entry is taken. -/
lemma mem_alloc_bucket {index : ℕ} :
    j ∈ ((s.takeEntry i rest hwaddr).hashLink i (wifiMacHash hwaddr)).staHash index ↔
      j ∈ s.staHash index ∨ index = wifiMacHash hwaddr ∧ j = i := by
  show j ∈ Function.update s.staHash (wifiMacHash hwaddr)
    (s.staHash (wifiMacHash hwaddr) ++ [i]) index ↔ _
  rw [Function.update_apply]
  split
  · rename_i hindex
    simp [hindex]
  · rename_i hindex
    simp [hindex]

/-- The entries that are hashed after one is taken. -/
lemma hashed_alloc :
    ((s.takeEntry i rest hwaddr).hashLink i (wifiMacHash hwaddr)).Hashed j ↔
      s.Hashed j ∨ j = i := by
  rw [Hashed, mem_alloc_bucket, (writes_alloc s i rest hwaddr).set Sta.macAddr rfl]
  by_cases hji : j = i
  · simp [hji]
  · simp [hji, Hashed]

lemma Placed.alloc (h : s.Placed) (hq : s.freeStaQueue = i :: rest) :
    ((s.takeEntry i rest hwaddr).hashLink i (wifiMacHash hwaddr)).Placed where
  free_nodup := by
    have hnodup := h.free_nodup
    rw [hq] at hnodup
    exact hnodup.of_cons
  bucket_nodup := fun index => by
    have hfree : i ∈ s.freeStaQueue := by rw [hq]; exact List.mem_cons_self
    show (Function.update s.staHash (wifiMacHash hwaddr) _ index).Nodup
    rw [Function.update_apply]
    split
    · exact nodup_append_singleton (h.bucket_nodup _) (h.notMem_bucket hfree _)
    · exact h.bucket_nodup index
  mem_bucket := fun index j hj => by
    have hfree : i ∈ s.freeStaQueue := by rw [hq]; exact List.mem_cons_self
    rw [(writes_alloc s i rest hwaddr).set Sta.macAddr rfl]
    rcases mem_alloc_bucket.1 hj with hold | ⟨hindex, hji⟩
    · have hji : j ≠ i := fun hji => h.notMem_bucket hfree index (hji ▸ hold)
      rw [if_neg hji]
      exact h.mem_bucket index j hold
    · rw [if_pos hji, hindex]
  mem_free := fun j => by
    have hnodup := h.free_nodup
    have hmem := h.mem_free j
    rw [hq] at hnodup hmem
    rw [hashed_alloc]
    show j ∈ rest ↔ _
    have hhead : i ∉ rest := (List.nodup_cons.1 hnodup).1
    by_cases hji : j = i
    · simp [hji, hhead]
    · rw [List.mem_cons, or_iff_right hji] at hmem
      simp [hmem, hji]
  count := by
    have hcount := h.count
    rw [hq, List.length_cons] at hcount
    show s.asocStaCount + 1 + (rest.length : ℤ) = (32 : ℕ)
    push_cast at hcount ⊢
    omega
  auth := by
    have hfree : i ∈ s.freeStaQueue := by rw [hq]; exact List.mem_cons_self
    have hauth := (writes_alloc s i rest hwaddr).set Sta.authLinked rfl
    refine h.auth.congr (fun j => ?_) fun j _ hj => hashed_alloc.2 (Or.inl hj)
    rw [hauth]
    split
    · rename_i hji
      -- a free entry is not linked
      have hout : j ∉ s.authList := fun hmem =>
        (h.mem_free j).1 (hji ▸ hfree) (h.auth.hashed j hmem)
      exact (Bool.not_eq_true _ ▸ fun hin => hout ((h.auth.mem j).2 hin) :
        (s.sta j).authLinked = false).symm
    · rfl

lemma Tidy.alloc (h : s.Tidy cfg) (hp : s.Placed) (hq : s.freeStaQueue = i :: rest)
    (hfresh : ∀ j, s.Hashed j → (s.sta j).macAddr ≠ hwaddr) :
    ((s.takeEntry i rest hwaddr).hashLink i (wifiMacHash hwaddr)).Tidy cfg where
  asoc := by
    have hfree : i ∈ s.freeStaQueue := by rw [hq]; exact List.mem_cons_self
    have hasoc := (writes_alloc s i rest hwaddr).set Sta.asocLinked rfl
    refine h.asoc.congr (fun j => ?_) fun j _ hj => hashed_alloc.2 (Or.inl hj)
    rw [hasoc]
    split
    · rename_i hji
      have hout : j ∉ s.asocList := fun hmem =>
        (hp.mem_free j).1 (hji ▸ hfree) (h.asoc.hashed j hmem)
      exact (Bool.not_eq_true _ ▸ fun hin => hout ((h.asoc.mem j).2 hin) :
        (s.sta j).asocLinked = false).symm
    · rfl
  apart := fun j hj => by
    rw [(writes_alloc s i rest hwaddr).set Sta.authLinked rfl] at hj
    rw [(writes_alloc s i rest hwaddr).set Sta.asocLinked rfl]
    split
    · rfl
    · rename_i hji
      rw [if_neg hji] at hj
      exact h.apart j hj
  unique := fun j k hj hk hmac => by
    rw [hashed_alloc] at hj hk
    rw [(writes_alloc s i rest hwaddr).set Sta.macAddr rfl,
      (writes_alloc s i rest hwaddr).set Sta.macAddr rfl] at hmac
    -- the new entry is the only one of its address
    by_cases hji : j = i <;> by_cases hki : k = i
    · rw [hji, hki]
    · rw [if_pos hji, if_neg hki] at hmac
      exact absurd hmac.symm (hfresh k (hk.resolve_right hki))
    · rw [if_neg hji, if_pos hki] at hmac
      exact absurd hmac (hfresh j (hj.resolve_right hji))
    · rw [if_neg hji, if_neg hki] at hmac
      exact h.unique j k (hj.resolve_right hji) (hk.resolve_right hki) hmac
  aid_hashed := fun aid j hj => by
    have hfree : i ∈ s.freeStaQueue := by rw [hq]; exact List.mem_cons_self
    obtain ⟨hhashed, haid⟩ := h.aid_hashed aid j hj
    have hji : j ≠ i := fun hji => (hp.mem_free i).1 hfree (hji ▸ hhashed)
    rw [(writes_alloc s i rest hwaddr).set Sta.aid rfl, if_neg hji]
    exact ⟨hashed_alloc.2 (Or.inl hhashed), haid⟩
  aid_ap := h.aid_ap

end Alloc

lemma Placed.allocStainfo (h : s.Placed) (hwaddr : MacAddr) :
    (s.allocStainfo hwaddr).1.Placed := by
  cases hq : s.freeStaQueue with
  | nil => rw [allocStainfo_nil hq]; exact h
  | cons i rest => rw [allocStainfo_cons hq]; exact h.alloc hq

lemma Tidy.allocStainfo (h : s.Tidy cfg) (hp : s.Placed)
    (hfresh : ∀ j, s.Hashed j → (s.sta j).macAddr ≠ hwaddr) :
    (s.allocStainfo hwaddr).1.Tidy cfg := by
  cases hq : s.freeStaQueue with
  | nil => rw [allocStainfo_nil hq]; exact h
  | cons i rest => rw [allocStainfo_cons hq]; exact h.alloc hp hq hfresh

/-- A new entry is hashed, linked in no list, and came from the free queue. -/
lemma allocStainfo_some (halloc : s.allocStainfo hwaddr = (s', some i)) :
    s'.Hashed i ∧ s'.sta i = { macAddr := hwaddr } ∧ i ∈ s.freeStaQueue := by
  cases hq : s.freeStaQueue with
  | nil =>
      rw [allocStainfo_nil hq] at halloc
      cases halloc
  | cons k rest =>
      rw [allocStainfo_cons hq] at halloc
      cases halloc
      refine ⟨hashed_alloc.2 (Or.inr rfl), ?_, List.mem_cons_self⟩
      rw [writes_alloc s i rest hwaddr i, if_pos rfl]

/-! ### An entry is freed -/

lemma Writes.trans {s'' : StaPriv} {g' : Sta → Sta} (h : Writes s s' i g)
    (h' : Writes s' s'' i g') : Writes s s'' i (g' ∘ g) := fun j => by
  rw [h' j, h i, if_pos rfl]
  by_cases hji : j = i
  · simp [hji]
  · rw [if_neg hji, if_neg hji, h j, if_neg hji]

/-- The AID entry is that of the station itself. -/
def OwnsAid (s : StaPriv) (i : Fin numSta) : Prop :=
  0 < (s.sta i).aid ∧ s.staAid ((s.sta i).aid - 1) = some i

instance (s : StaPriv) (i : Fin numSta) : Decidable (s.OwnsAid i) := by
  rw [OwnsAid]
  infer_instance

/-- Everything but the AID table, the TIM and the entries stays. -/
structure SameButAid (s s' : StaPriv) : Prop where
  freeStaQueue : s'.freeStaQueue = s.freeStaQueue
  staHash : s'.staHash = s.staHash
  asocStaCount : s'.asocStaCount = s.asocStaCount
  authList : s'.authList = s.authList
  authListCnt : s'.authListCnt = s.authListCnt
  asocList : s'.asocList = s.asocList
  asocListCnt : s'.asocListCnt = s.asocListCnt

lemma aidRelease_eq (s : StaPriv) (i : Fin numSta) : s.aidRelease i =
    if s.OwnsAid i then
      ((s.timMap (s.sta i).aid false).setStaAid (s.sta i).aid none).modify i (·.setAid 0)
    else s.timMap (s.sta i).aid false := rfl

lemma sameButAid_aidRelease (s : StaPriv) (i : Fin numSta) : SameButAid s (s.aidRelease i) := by
  rw [aidRelease_eq]
  split <;> exact ⟨rfl, rfl, rfl, rfl, rfl, rfl, rfl⟩

lemma writes_aidRelease (s : StaPriv) (i : Fin numSta) :
    Writes s (s.aidRelease i) i fun sta => sta.setAid (if s.OwnsAid i then 0 else sta.aid) := by
  rw [aidRelease_eq]
  split
  · exact writes_modify s i (·.setAid 0)
  · have hsame : (s.sta i).setAid (s.sta i).aid = s.sta i := rfl
    exact writes_rfl (s := s) (g := fun sta => sta.setAid sta.aid) hsame

lemma aidRelease_staAid (s : StaPriv) (i : Fin numSta) (aid : ℕ) : (s.aidRelease i).staAid aid =
    if s.OwnsAid i ∧ aid = (s.sta i).aid - 1 then none else s.staAid aid := by
  rw [aidRelease_eq]
  by_cases hown : s.OwnsAid i
  · rw [if_pos hown]
    show Function.update s.staAid ((s.sta i).aid - 1) none aid = _
    simp [Function.update_apply, hown]
  · rw [if_neg hown]
    simp only [hown, false_and, if_false]
    rfl

/-- The first half of `rtw_free_stainfo`, before the AID: out of the bucket and of
`auth_list`. -/
def freeUnlinked (s : StaPriv) (i : Fin numSta) : StaPriv :=
  ((s.hashUnlink i).countDown.modify i (·.setAsoc false)).authUnlink i

lemma freeStainfo_eq (s : StaPriv) (cfg : ApConfig) (i : Fin numSta) : s.freeStainfo cfg i =
    (if cfg.apState then (s.freeUnlinked i).aidRelease i else s.freeUnlinked i).enqueueFree i :=
  rfl

lemma writes_freeUnlinked (s : StaPriv) (i : Fin numSta) :
    Writes s (s.freeUnlinked i) i fun sta => (sta.setAsoc false).setAuthLinked false :=
  have hasoc : Writes s ((s.hashUnlink i).countDown.modify i (·.setAsoc false)) i
      (·.setAsoc false) := writes_modify s i (·.setAsoc false)
  hasoc.trans (writes_authUnlink _ i)

/-- What a free leaves of everything but the AID. -/
structure Freed (s s' : StaPriv) (i : Fin numSta) : Prop where
  freeStaQueue : s'.freeStaQueue = s.freeStaQueue ++ [i]
  staHash : s'.staHash = fun index => unlink (s.staHash index) i
  asocStaCount : s'.asocStaCount = s.asocStaCount - 1
  asocList : s'.asocList = s.asocList
  asocListCnt : s'.asocListCnt = s.asocListCnt
  macAddr : ∀ j, (s'.sta j).macAddr = (s.sta j).macAddr
  asocLinked : ∀ j, (s'.sta j).asocLinked = (s.sta j).asocLinked
  counted : ∀ j, (s'.sta j).counted = (s.sta j).counted
  auth : ∀ hashed : Fin numSta → Prop,
    Listed hashed (fun j => (s.sta j).authLinked) s.authList s.authListCnt →
      Listed hashed (fun j => (s'.sta j).authLinked) s'.authList s'.authListCnt
  authLinked : ∀ j, (s'.sta j).authLinked = if j = i then false else (s.sta j).authLinked

lemma freed_freeStainfo (s : StaPriv) (cfg : ApConfig) (i : Fin numSta) :
    Freed s (s.freeStainfo cfg i) i := by
  have hw := writes_freeUnlinked s i
  have hs := sameButAuth_authUnlink ((s.hashUnlink i).countDown.modify i (·.setAsoc false)) i
  have hauth (hashed : Fin numSta → Prop)
      (h : Listed hashed (fun j => (s.sta j).authLinked) s.authList s.authListCnt) :
      Listed hashed (fun j => ((s.freeUnlinked i).sta j).authLinked) (s.freeUnlinked i).authList
        (s.freeUnlinked i).authListCnt := by
    refine listed_authUnlink (h.congr (fun j => ?_) fun _ _ hj => hj)
    exact (writes_modify s i (·.setAsoc false)).same Sta.authLinked rfl j
  have hunlinked : Freed s ((s.freeUnlinked i).enqueueFree i) i :=
    { freeStaQueue := congrArg (· ++ [i]) hs.freeStaQueue
      staHash := hs.staHash
      asocStaCount := hs.asocStaCount
      asocList := hs.asocList
      asocListCnt := hs.asocListCnt
      macAddr := hw.same Sta.macAddr rfl
      asocLinked := hw.same Sta.asocLinked rfl
      counted := hw.same Sta.counted rfl
      auth := hauth
      authLinked := hw.set Sta.authLinked rfl }
  rw [freeStainfo_eq]
  cases cfg.apState with
  | false => exact hunlinked
  | true =>
      have hwa := writes_aidRelease (s.freeUnlinked i) i
      have hsa := sameButAid_aidRelease (s.freeUnlinked i) i
      exact
        { freeStaQueue := (congrArg (· ++ [i]) hsa.freeStaQueue).trans hunlinked.freeStaQueue
          staHash := hsa.staHash.trans hunlinked.staHash
          asocStaCount := hsa.asocStaCount.trans hunlinked.asocStaCount
          asocList := hsa.asocList.trans hunlinked.asocList
          asocListCnt := hsa.asocListCnt.trans hunlinked.asocListCnt
          macAddr := fun j => (hwa.same Sta.macAddr rfl j).trans (hunlinked.macAddr j)
          asocLinked := fun j => (hwa.same Sta.asocLinked rfl j).trans (hunlinked.asocLinked j)
          counted := fun j => (hwa.same Sta.counted rfl j).trans (hunlinked.counted j)
          auth := fun hashed h => by
            show Listed hashed _ ((s.freeUnlinked i).aidRelease i).authList
              ((s.freeUnlinked i).aidRelease i).authListCnt
            rw [hsa.authList, hsa.authListCnt]
            exact (hauth hashed h).congr (hwa.same Sta.authLinked rfl) fun _ _ hj => hj
          authLinked := fun j => (hwa.same Sta.authLinked rfl j).trans (hunlinked.authLinked j) }

/-- The entries that are hashed after one is freed. -/
lemma Freed.hashed (h : Freed s s' i) : s'.Hashed j ↔ s.Hashed j ∧ j ≠ i := by
  rw [Hashed, h.staHash, h.macAddr, mem_unlink]
  rfl

lemma Placed.freed (hp : s.Placed) (h : Freed s s' i) (hi : s.Hashed i) : s'.Placed where
  free_nodup := by
    rw [h.freeStaQueue]
    exact nodup_append_singleton hp.free_nodup fun hfree => (hp.mem_free i).1 hfree hi
  bucket_nodup := fun index => by
    rw [h.staHash]
    exact nodup_unlink i (hp.bucket_nodup index)
  mem_bucket := fun index j hj => by
    rw [h.macAddr]
    rw [h.staHash] at hj
    exact hp.mem_bucket index j (mem_unlink.1 hj).1
  mem_free := fun j => by
    rw [h.hashed, h.freeStaQueue, List.mem_append, List.mem_singleton, hp.mem_free]
    tauto
  count := by
    have hcount := hp.count
    rw [h.asocStaCount, h.freeStaQueue, List.length_append, List.length_singleton]
    push_cast at hcount ⊢
    omega
  auth := (h.auth s.Hashed hp.auth).congr (fun _ => rfl) fun j hj hhashed => by
    rw [h.hashed]
    refine ⟨hhashed, fun hji => ?_⟩
    have hin := ((h.auth s.Hashed hp.auth).mem j).1 hj
    rw [h.authLinked, if_pos hji] at hin
    exact Bool.false_ne_true hin

/-- No AID entry is made by a free, and that of the entry that is freed goes. -/
lemma Tidy.aid_freeStainfo (h : s.Tidy cfg) {aid : ℕ}
    (hj : (s.freeStainfo cfg i).staAid aid = some j) :
    s.staAid aid = some j ∧ j ≠ i ∧ ((s.freeStainfo cfg i).sta j).aid = (s.sta j).aid := by
  have hwu := writes_freeUnlinked s i
  have haid := hwu.same Sta.aid rfl
  have hstaAid : (s.freeUnlinked i).staAid = s.staAid :=
    (sameButAuth_authUnlink ((s.hashUnlink i).countDown.modify i (·.setAsoc false)) i).staAid
  rw [freeStainfo_eq] at hj ⊢
  cases hap : cfg.apState with
  | false =>
      rw [hap] at hj
      have hnone : (s.freeUnlinked i).staAid aid = none := by rw [hstaAid, h.aid_ap hap]
      exact absurd (hnone.symm.trans hj) (by simp)
  | true =>
      rw [hap] at hj
      have hold : (if (s.freeUnlinked i).OwnsAid i ∧ aid = ((s.freeUnlinked i).sta i).aid - 1
          then none else (s.freeUnlinked i).staAid aid) = some j :=
        (aidRelease_staAid _ i aid).symm.trans hj
      simp only [OwnsAid, haid, hstaAid] at hold
      split at hold
      · exact absurd hold (by simp)
      · rename_i hother
        have hji : j ≠ i := by
          rintro rfl
          have hown := (h.aid_hashed aid j hold).2
          have hsub : (s.sta j).aid - 1 = aid := by omega
          exact hother ⟨⟨by omega, by rw [hsub, hold]⟩, hsub.symm⟩
        refine ⟨hold, hji, ?_⟩
        have hkept := writes_aidRelease (s.freeUnlinked i) i j
        rw [if_neg hji] at hkept
        exact (congrArg Sta.aid hkept).trans (haid j)

lemma Tidy.aid_ap_freeStainfo (h : s.Tidy cfg) (hap : cfg.apState = false) (aid : ℕ) :
    (s.freeStainfo cfg i).staAid aid = none := by
  cases hj : (s.freeStainfo cfg i).staAid aid with
  | none => rfl
  | some j =>
      have hold := (h.aid_freeStainfo hj).1
      rw [h.aid_ap hap] at hold
      exact absurd hold (by simp)

/-- An entry that is not linked in `asoc_list` may be freed. -/
lemma Tidy.freeStainfo (h : s.Tidy cfg) (hout : (s.sta i).asocLinked = false) :
    (s.freeStainfo cfg i).Tidy cfg := by
  have hf := freed_freeStainfo s cfg i
  refine
    { asoc := ?_
      apart := fun j hj => ?_
      unique := fun j k hj hk hmac => ?_
      aid_hashed := fun aid j hj => ?_
      aid_ap := h.aid_ap_freeStainfo }
  · rw [hf.asocList, hf.asocListCnt]
    refine h.asoc.congr hf.asocLinked fun j hj hhashed => hf.hashed.2 ⟨hhashed, fun hji => ?_⟩
    have hin := (h.asoc.mem j).1 hj
    rw [hji, hout] at hin
    exact Bool.false_ne_true hin
  · rw [hf.authLinked] at hj
    rw [hf.asocLinked]
    split at hj
    · exact absurd hj Bool.false_ne_true
    · exact h.apart j hj
  · rw [hf.macAddr, hf.macAddr] at hmac
    exact h.unique j k (hf.hashed.1 hj).1 (hf.hashed.1 hk).1 hmac
  · obtain ⟨hold, hji, hkept⟩ := h.aid_freeStainfo hj
    obtain ⟨hhashed, haid⟩ := h.aid_hashed aid j hold
    exact ⟨hf.hashed.2 ⟨hhashed, hji⟩, hkept.trans haid⟩

lemma Placed.freeStainfo (h : s.Placed) (hi : s.Hashed i) : (s.freeStainfo cfg i).Placed :=
  h.freed (freed_freeStainfo s cfg i) hi

/-! ### An AID is given -/

/-- The AID that is given. -/
def givenAid (s : StaPriv) (cfg : ApConfig) : ℕ := s.aidSearch cfg 0 0 cfg.maxAid

lemma writes_aidAlloc (s : StaPriv) (cfg : ApConfig) (i : Fin numSta) :
    Writes s (s.aidAlloc cfg i).1 i (·.setAid (s.givenAid cfg)) := by
  rw [aidAlloc]
  simp only
  split <;> exact writes_modify s i (·.setAid (s.givenAid cfg))

lemma sameButAid_aidAlloc (s : StaPriv) (cfg : ApConfig) (i : Fin numSta) :
    SameButAid s (s.aidAlloc cfg i).1 := by
  rw [aidAlloc]
  simp only
  split <;> exact ⟨rfl, rfl, rfl, rfl, rfl, rfl, rfl⟩

lemma aidAlloc_staAid (s : StaPriv) (cfg : ApConfig) (i : Fin numSta) (aid : ℕ) :
    (s.aidAlloc cfg i).1.staAid aid =
      if s.givenAid cfg ≠ 0 ∧ aid = s.givenAid cfg - 1 then some i else s.staAid aid := by
  rw [aidAlloc, givenAid]
  simp only
  by_cases hzero : s.aidSearch cfg 0 0 cfg.maxAid = 0
  · simp only [hzero, if_true, ne_eq, not_true_eq_false, false_and, if_false]
    rfl
  · rw [if_neg hzero]
    show Function.update s.staAid (s.aidSearch cfg 0 0 cfg.maxAid - 1) (some i) aid = _
    simp [Function.update_apply, hzero]

lemma Placed.aidAlloc (h : s.Placed) : (s.aidAlloc cfg i).1.Placed := by
  have hw := writes_aidAlloc s cfg i
  have hs := sameButAid_aidAlloc s cfg i
  refine h.of_auth ⟨hs.staHash, hw.same Sta.macAddr rfl⟩ hs.freeStaQueue hs.asocStaCount ?_
  rw [hs.authList, hs.authListCnt]
  exact h.auth.congr (hw.same Sta.authLinked rfl) fun _ _ hj => hj

/-- A hashed entry without an AID is given one, in an access point. -/
lemma Tidy.aidAlloc (h : s.Tidy cfg) (hap : cfg.apState = true) (hi : s.Hashed i)
    (hzero : (s.sta i).aid = 0) : (s.aidAlloc cfg i).1.Tidy cfg := by
  have hw := writes_aidAlloc s cfg i
  have hs := sameButAid_aidAlloc s cfg i
  have hsame : SameHash s (s.aidAlloc cfg i).1 := ⟨hs.staHash, hw.same Sta.macAddr rfl⟩
  refine
    { asoc := ?_
      apart := fun j hj => ?_
      unique := fun j k hj hk hmac => ?_
      aid_hashed := fun aid j hj => ?_
      aid_ap := fun hno => absurd (hap.symm.trans hno) (by simp) }
  · rw [hs.asocList, hs.asocListCnt]
    exact h.asoc.congr (hw.same Sta.asocLinked rfl) fun _ _ hj => hsame.hashed.2 hj
  · rw [hw.same Sta.asocLinked rfl]
    rw [hw.same Sta.authLinked rfl] at hj
    exact h.apart j hj
  · rw [hw.same Sta.macAddr rfl, hw.same Sta.macAddr rfl] at hmac
    exact h.unique j k (hsame.hashed.1 hj) (hsame.hashed.1 hk) hmac
  · rw [aidAlloc_staAid] at hj
    rw [hsame.hashed, hw.set Sta.aid rfl]
    split at hj
    · rename_i hgiven
      obtain rfl : i = j := by simpa using hj
      rw [if_pos rfl]
      exact ⟨hi, by show s.givenAid cfg = aid + 1; omega⟩
    · obtain ⟨hhashed, haid⟩ := h.aid_hashed aid j hj
      have hji : j ≠ i := fun hji => by
        rw [hji, hzero] at haid
        omega
      rw [if_neg hji]
      exact ⟨hhashed, haid⟩

end StaPriv

end Rtl8723du
