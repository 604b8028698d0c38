import Rtl8723du.Bridge.Nat25

/-!
# Received frames find the client that last used their address

A run of the bridge extension, with the client that last sent from each IP address beside it.
The cache learns nothing of the frames that it answers and is not told of what the table
learns.  `bridge_resolves_iff` says which runs are those where cache and table both give every
received IPv4 frame the right client in all states.
-/

namespace Rtl8723du.Bridge

open Lib.HashChain Lib.Machine

/-! ### Runs -/

/-- The bridge extension, and who used which address last. -/
structure BrRun extends BrState where
  lastUser : IpAddr → Option MacAddr := fun _ => none

/-- A frame is sent or received. -/
inductive Event
  | tx (o : TxEnv) (f : EthFrame)
  | rx (f : EthFrame)

/-- The address that a client sends from, if it is one. -/
def sourceIp (f : EthFrame) : Option IpAddr :=
  match f.payload with
  | .ip iph => if iph.saddr = zeroIp then none else some iph.saddr
  | .arp arp => if arp.proIp = false ∨ arp.senderIp = zeroIp then none else some arp.senderIp

/-- The address of a frame that was bridged out has been used by its client. -/
def noteUser (lastUser : IpAddr → Option MacAddr) (f : EthFrame) (out : Option EthFrame) :
    IpAddr → Option MacAddr :=
  match sourceIp f, out with
  | some ipAddr, some _ => Function.update lastUser ipAddr (some f.sa)
  | _, _ => lastUser

/-- One frame; what goes out. -/
def bridgeStep (cfg : BrConfig) (b : BrRun) : Event → BrRun × List EthFrame
  | .tx o f =>
      let r := rtwBrClientTx cfg o b.toBrState f
      ({ r.1 with lastUser := noteUser b.lastUser f r.2 }, r.2.toList)
  | .rx f =>
      let r := nat25HandleFrame cfg b.toBrState f
      ({ r.1 with lastUser := b.lastUser }, [r.2.1])

/-- Nothing has been sent; `br_mac` is that of the bridge. -/
def bridgeInit (brMac : MacAddr) : BrRun := { brMac := brMac }

/-- Every unicast IPv4 frame is given the client that last used its destination, by what is
asked first and by the table. -/
def Resolves (cfg : BrConfig) (b : BrRun) : Prop :=
  ∀ f iph m, f.payload = .ip iph → isMcast f.da = false → iph.WellFormed →
    b.lastUser iph.daddr = some m →
      (nat25HandleFrame cfg b.toBrState f).2.1.da = m ∧
        (nat25DbHandle cfg true b.toBrState f .lookup).2.1.da = m

/-- The MAC address that the table gives. -/
def tableDa (cfg : BrConfig) (s : BrState) (ipAddr : IpAddr) : MacAddr :=
  (s.lookup ipAddr).getD (if IpAddr.last ipAddr = 0xff then bcAddr else (netdevBrInit cfg s).brMac)

/-- The cache answers for a frame that is sent: it has the client, or takes it since the table
has its address. -/
def CacheAnswers (s : BrState) (f : EthFrame) (ipAddr : IpAddr) : Prop :=
  if s.scdbMac = f.sa then s.scdbEntry.isSome = true else (s.lookup ipAddr).isSome = true

/-- The table has an entry for the address, or there is memory for one. -/
def CanLearn (o : TxEnv) (s : BrState) (ipAddr : IpAddr) : Prop :=
  o.mallocOk = true ∨ (s.lookup ipAddr).isSome = true

/-- The table gives the client's address already, or learns it now; an IPv4 frame is not
learnt when the cache answers for it. -/
def IpFits (cfg : BrConfig) (o : TxEnv) (s : BrState) (f : EthFrame) (iph : IpHdr) : Prop :=
  tableDa cfg s iph.saddr = f.sa ∨
    ¬ CacheAnswers s f iph.saddr ∧ (o.linearOk = false ∨ iph.WellFormed ∧ CanLearn o s iph.saddr)

/-- An ARP message is learnt; it must not be about the cached address, unless it is from the
cached client. -/
def ArpFits (cfg : BrConfig) (o : TxEnv) (s : BrState) (f : EthFrame) (arp : ArpHdr) : Prop :=
  o.copyOk = true ∧ o.linearOk = true →
    (tableDa cfg s arp.senderIp = f.sa ∨ CanLearn o s arp.senderIp) ∧
      (s.scdbIp = arp.senderIp → s.scdbMac = f.sa)

/-- The frame can be sent in the state without harm. -/
def Fits (cfg : BrConfig) (b : BrRun) : Event → Prop
  | .tx o f =>
      match f.payload with
      | .ip iph => iph.saddr ≠ zeroIp → IpFits cfg o b.toBrState f iph
      | .arp arp =>
          arp.proIp = true → arp.senderIp ≠ zeroIp → ArpFits cfg o b.toBrState f arp
  | .rx _ => True

/-! ### What the table gives -/

variable {cfg : BrConfig} {s s' : BrState} {b : BrRun} {o : TxEnv} {f : EthFrame}
  {ipAddr ipAddr' : IpAddr} {m : MacAddr}

lemma nat25GenerateIpv4NetworkAddr_injective :
    Function.Injective nat25GenerateIpv4NetworkAddr := by
  intro x y h
  have htail := (List.cons.inj h).2
  have hlists := List.append_cancel_left (List.append_cancel_right htail)
  exact Vector.toList_inj.1 hlists

lemma lookup_nat25DbNetworkInsert (s : BrState) (mallocOk : Bool) (m : MacAddr)
    (ipAddr ipAddr' : IpAddr) :
    (nat25DbNetworkInsert s mallocOk m (nat25GenerateIpv4NetworkAddr ipAddr)).lookup ipAddr' =
      if ipAddr' = ipAddr ∧ (mallocOk = true ∨ (s.lookup ipAddr).isSome = true) then some m
      else s.lookup ipAddr' := by
  have hkey : nat25GenerateIpv4NetworkAddr ipAddr' = nat25GenerateIpv4NetworkAddr ipAddr ↔
      ipAddr' = ipAddr := nat25GenerateIpv4NetworkAddr_injective.eq_iff
  unfold nat25DbNetworkInsert BrState.lookup
  by_cases hfound :
      (find nat25NetworkHash s.nethash (nat25GenerateIpv4NetworkAddr ipAddr)).isSome = true
  · rw [if_pos hfound, find_replace]
    simp [hkey, hfound]
  · rw [if_neg hfound]
    cases mallocOk with
    | true =>
        rw [if_pos rfl, find_link]
        simp [hkey]
    | false =>
        rw [if_neg Bool.false_ne_true, if_neg]
        rintro ⟨-, hlearn | hlearn⟩
        · cases hlearn
        · exact hfound hlearn

/-- An insertion changes the table only. -/
lemma nat25DbNetworkInsert_eq (s : BrState) (mallocOk : Bool) (m : MacAddr)
    (networkAddr : List UInt8) :
    nat25DbNetworkInsert s mallocOk m networkAddr =
      { s with nethash := (nat25DbNetworkInsert s mallocOk m networkAddr).nethash } := by
  unfold nat25DbNetworkInsert
  split_ifs <;> rfl

lemma tableDa_congr (hlookup : s'.lookup ipAddr = s.lookup ipAddr) (hmac : s'.brMac = s.brMac) :
    tableDa cfg s' ipAddr = tableDa cfg s ipAddr := by
  unfold tableDa netdevBrInit
  rw [hlookup, hmac]
  split_ifs <;> simp [hmac]

lemma tableDa_of_lookup (h : s.lookup ipAddr = some m) : tableDa cfg s ipAddr = m := by
  rw [tableDa, h, Option.getD_some]

lemma netdevBrInit_lookup : (netdevBrInit cfg s).lookup ipAddr = s.lookup ipAddr := by
  rw [netdevBrInit]
  split_ifs <;> rfl

lemma tableDa_netdevBrInit : tableDa cfg (netdevBrInit cfg s) ipAddr = tableDa cfg s ipAddr := by
  have hagain : (netdevBrInit cfg (netdevBrInit cfg s)).brMac = (netdevBrInit cfg s).brMac := by
    unfold netdevBrInit
    cases cfg.bridge <;> split_ifs <;> simp_all
  rw [tableDa, tableDa, netdevBrInit_lookup, hagain]

/-- The address that a lookup gives a frame. -/
lemma nat25LookupIp_da : (nat25LookupIp cfg s f ipAddr).2.da = tableDa cfg s ipAddr := by
  unfold nat25LookupIp tableDa
  cases s.lookup ipAddr with
  | some m => rfl
  | none => dsimp only; split_ifs <;> rfl

/-! ### What is known of the clients -/

/-- The client that last used an address is the one that the table gives, and the one in the
cache if the address is there. -/
def Known (cfg : BrConfig) (b : BrRun) : Prop :=
  ∀ ipAddr m, b.lastUser ipAddr = some m →
    tableDa cfg b.toBrState ipAddr = m ∧ (b.scdbIp = ipAddr → b.scdbMac = m)

lemma resolves_iff_known : Resolves cfg b ↔ Known cfg b := by
  constructor
  · intro h ipAddr m hlast
    have hunicast : isMcast zeroMac = false := by decide
    have hframe := h ⟨zeroMac, zeroMac, false, .ip ⟨zeroIp, ipAddr, 5, 34⟩⟩ _ m rfl hunicast
      (show 4 * 5 < 34 by omega) hlast
    have htable : tableDa cfg b.toBrState ipAddr = m := by
      rw [← nat25LookupIp_da]
      exact hframe.2
    refine ⟨htable, fun hip => ?_⟩
    have hcached := hframe.1
    rw [nat25HandleFrame, if_neg (by simp [hunicast]), if_pos (by simp [scdbHit, hip])] at hcached
    exact hcached
  · rintro h f iph m hf hda hfits hlast
    obtain ⟨htable, hcache⟩ := h _ m hlast
    have hlookup : (nat25DbHandle cfg true b.toBrState f .lookup).2.1.da = m := by
      unfold nat25DbHandle
      rw [hf]
      simp only [hfits, not_true_eq_false, if_false]
      rw [nat25LookupIp_da, htable]
    refine ⟨?_, hlookup⟩
    unfold nat25HandleFrame
    rw [if_neg (by simp [hda])]
    split_ifs with hhit
    · exact hcache (by simpa [scdbHit, hf] using hhit)
    · exact hlookup

/-! ### One frame -/

/-- The cached address is in the table. -/
def CacheInTable (s : BrState) : Prop := s.scdbIp ≠ zeroIp → (s.lookup s.scdbIp).isSome = true

/-- The cached address is in the table, and nobody has used `0.0.0.0`. -/
structure Tidy (b : BrRun) : Prop where
  cached : CacheInTable b.toBrState
  zero : b.lastUser zeroIp = none

lemma noteUser_none (lastUser : IpAddr → Option MacAddr) :
    noteUser lastUser f none = lastUser := by
  unfold noteUser
  cases sourceIp f <;> rfl

/-- What is known of the addresses outside a set is as before: the table has the same of them,
and the cache has none of them that it did not have. -/
structure SameOutside (p : IpAddr → Prop) (s s' : BrState) : Prop where
  lookup : ∀ ipAddr, ¬ p ipAddr → s'.lookup ipAddr = s.lookup ipAddr
  brMac : s'.brMac = s.brMac
  scdb : ¬ p s'.scdbIp → s'.scdbIp = s.scdbIp ∧ s'.scdbMac = s.scdbMac

/-- Nothing is forgotten where no client has used an address. -/
lemma Known.of_sameOutside (h : Known cfg b) (htidy : Tidy b)
    (hsame : SameOutside (· = zeroIp) b.toBrState s) :
    Known cfg { s with lastUser := b.lastUser } := by
  intro ipAddr m hlast
  have hne : ¬ ipAddr = zeroIp := by
    rintro rfl
    rw [htidy.zero] at hlast
    cases hlast
  obtain ⟨htable, hcache⟩ := h ipAddr m hlast
  refine ⟨(tableDa_congr (hsame.lookup ipAddr hne) hsame.brMac).trans htable, ?_⟩
  rintro rfl
  obtain ⟨hip, hmac⟩ := hsame.scdb hne
  exact hmac.trans (hcache hip.symm)

/-- After an address was used, it is to be seen whether it is known. -/
lemma Known.used_iff (h : Known cfg b) (htidy : Tidy b)
    (hsame : SameOutside (fun a => a = zeroIp ∨ a = ipAddr) b.toBrState s) :
    Known cfg { s with lastUser := Function.update b.lastUser ipAddr (some m) } ↔
      tableDa cfg s ipAddr = m ∧ (s.scdbIp = ipAddr → s.scdbMac = m) := by
  constructor
  · intro hknown
    exact hknown ipAddr m (Function.update_self ..)
  · rintro hused a m' hlast
    by_cases ha : a = ipAddr
    · subst ha
      obtain rfl : m = m' := by simpa using hlast
      exact hused
    · have hbefore : b.lastUser a = some m' := by simpa [ha] using hlast
      have hne : ¬ (a = zeroIp ∨ a = ipAddr) := by
        rintro (rfl | heq)
        · rw [htidy.zero] at hbefore
          cases hbefore
        · exact ha heq
      obtain ⟨htable, hcache⟩ := h a m' hbefore
      refine ⟨(tableDa_congr (hsame.lookup a hne) hsame.brMac).trans htable, ?_⟩
      rintro rfl
      obtain ⟨hip, hmac⟩ := hsame.scdb hne
      exact hmac.trans (hcache hip.symm)

/-! ### IPv4 frames -/

section Ip

variable {iph : IpHdr}

/-- What the cache holds after an IPv4 frame: the client, if the cache answers for it. -/
structure CacheAfter (s s' : BrState) (scdbMac : MacAddr) (scdbIp : IpAddr) : Prop where
  nethash : s'.nethash = s.nethash
  brMac : s'.brMac = s.brMac
  scdbMac : s'.scdbMac = scdbMac
  scdbIp : s'.scdbIp = scdbIp

lemma learnBrIp_cacheAfter : CacheAfter s (learnBrIp s f) s.scdbMac s.scdbIp := by
  rw [learnBrIp]
  split
  · split_ifs <;> exact ⟨rfl, rfl, rfl, rfl⟩
  · exact ⟨rfl, rfl, rfl, rfl⟩

lemma learnBrIp_scdbEntry : (learnBrIp s f).scdbEntry = s.scdbEntry := by
  rw [learnBrIp]
  split
  · split_ifs <;> rfl
  · rfl

/-- A frame that the cache answers for is not entered in the table. -/
lemma rtwBrClientTx_cached (cfg : BrConfig) (o : TxEnv) (hf : f.payload = .ip iph)
    (hcache : CacheAnswers s f iph.saddr) :
    (rtwBrClientTx cfg o s f).2 = some { f with sa := cfg.myHwaddr } ∧
      CacheAfter s (rtwBrClientTx cfg o s f).1 f.sa
        (if s.scdbMac = f.sa then s.scdbIp else iph.saddr) := by
  unfold CacheAnswers at hcache
  rw [rtwBrClientTx]
  by_cases hfast : fastPath o s f = true
  · rw [if_pos hfast]
    have hmac : s.scdbMac = f.sa := by
      rw [fastPath, hf] at hfast
      simp only [Bool.and_eq_true, beq_iff_eq] at hfast
      exact hfast.1.2
    rw [if_pos hmac]
    exact ⟨rfl, rfl, rfl, hmac, rfl⟩
  · rw [if_neg hfast]
    have hbr := learnBrIp_cacheAfter (s := s) (f := f)
    have hentry := learnBrIp_scdbEntry (s := s) (f := f)
    generalize hs : learnBrIp s f = t at hbr hentry
    have hlearn : (scdbLearn t f).2 = false ∧
        CacheAfter s (scdbLearn t f).1 f.sa
          (if s.scdbMac = f.sa then s.scdbIp else iph.saddr) := by
      rw [scdbLearn]
      rw [hf]
      dsimp only
      by_cases hmac : s.scdbMac = f.sa
      · rw [if_pos hmac] at hcache ⊢
        rw [hbr.scdbMac, hentry, if_neg (not_not.2 hmac), if_pos hcache]
        exact ⟨rfl, hbr.nethash, hbr.brMac, hbr.scdbMac.trans hmac, hbr.scdbIp⟩
      · rw [if_neg hmac] at hcache ⊢
        have hfound :
            scdbFindEntry t iph.saddr = some (nat25GenerateIpv4NetworkAddr iph.saddr) := by
          rw [scdbFindEntry, BrState.lookup, hbr.nethash]
          exact if_pos hcache
        rw [hbr.scdbMac, if_pos hmac, hfound]
        exact ⟨rfl, hbr.nethash, hbr.brMac, rfl, rfl⟩
    rw [if_pos hlearn.1]
    exact ⟨rfl, hlearn.2⟩

/-- Another frame is entered in the table; the cache loses the client that is not in the
table. -/
lemma rtwBrClientTx_uncached (cfg : BrConfig) (o : TxEnv) (hf : f.payload = .ip iph)
    (hcache : ¬ CacheAnswers s f iph.saddr) :
    ∃ t, rtwBrClientTx cfg o s f = nat25Learn cfg o t f ∧
      CacheAfter s t (if s.scdbMac = f.sa then zeroMac else s.scdbMac)
        (if s.scdbMac = f.sa then zeroIp else s.scdbIp) := by
  unfold CacheAnswers at hcache
  have hslow : ¬ fastPath o s f = true := by
    intro hfast
    rw [fastPath, hf] at hfast
    simp only [Bool.and_eq_true, beq_iff_eq] at hfast
    rw [if_pos hfast.1.2] at hcache
    exact hcache hfast.2
  have hbr := learnBrIp_cacheAfter (s := s) (f := f)
  have hentry := learnBrIp_scdbEntry (s := s) (f := f)
  refine ⟨(scdbLearn (learnBrIp s f) f).1, ?_⟩
  rw [rtwBrClientTx, if_neg hslow]
  generalize hs : learnBrIp s f = t at hbr hentry
  have hlearn : (scdbLearn t f).2 = true ∧
      CacheAfter s (scdbLearn t f).1 (if s.scdbMac = f.sa then zeroMac else s.scdbMac)
        (if s.scdbMac = f.sa then zeroIp else s.scdbIp) := by
    rw [scdbLearn]
    rw [hf]
    dsimp only
    by_cases hmac : s.scdbMac = f.sa
    · rw [if_pos hmac] at hcache
      rw [if_pos hmac, if_pos hmac, hbr.scdbMac, hentry, if_neg (not_not.2 hmac), if_neg hcache]
      exact ⟨rfl, hbr.nethash, hbr.brMac, rfl, rfl⟩
    · rw [if_neg hmac] at hcache
      have hfound : scdbFindEntry t iph.saddr = none := by
        rw [scdbFindEntry, BrState.lookup, hbr.nethash]
        exact if_neg hcache
      rw [if_neg hmac, if_neg hmac, hbr.scdbMac, if_pos hmac, hfound]
      exact ⟨rfl, hbr.nethash, hbr.brMac, rfl, hbr.scdbIp⟩
  rw [if_neg (by simp [hlearn.1])]
  exact ⟨rfl, hlearn.2⟩

/-- The entry of an IPv4 frame. -/
lemma nat25Learn_ip (cfg : BrConfig) (o : TxEnv) (s : BrState) (hf : f.payload = .ip iph) :
    (nat25Learn cfg o s f).2.isSome = o.linearOk ∧
      (nat25Learn cfg o s f).1 =
        if o.linearOk = true ∧ iph.WellFormed ∧ iph.saddr ≠ zeroIp then
          nat25DbNetworkInsert s o.mallocOk f.sa (nat25GenerateIpv4NetworkAddr iph.saddr)
        else s := by
  have hcheck : ¬ ((nat25DbHandle cfg o.mallocOk s f .check).2.2 = 0 ∧ o.copyOk = false) := by
    rintro ⟨hzero, -⟩
    unfold nat25DbHandle at hzero
    rw [hf] at hzero
    dsimp only at hzero
    split_ifs at hzero <;> cases hzero
  unfold nat25Learn
  rw [if_neg hcheck]
  cases hlinear : o.linearOk with
  | false => simp
  | true =>
      unfold nat25DbHandle
      rw [hf]
      by_cases hfits : iph.WellFormed
      · by_cases hzero : iph.saddr = zeroIp <;> simp [hfits, hzero]
      · simp [hfits]

lemma CacheAfter.lookup {mac : MacAddr} {ip : IpAddr} (h : CacheAfter s s' mac ip) :
    s'.lookup ipAddr = s.lookup ipAddr := by
  rw [BrState.lookup, BrState.lookup, h.nethash]

/-- The cache after a frame that it answers for has at most its address anew. -/
lemma CacheAfter.sameOutside_cached {p : IpAddr → Prop} (hp : p ipAddr)
    (h : CacheAfter s s' f.sa (if s.scdbMac = f.sa then s.scdbIp else ipAddr)) :
    SameOutside p s s' := by
  refine ⟨fun a _ => h.lookup, h.brMac, fun hout => ?_⟩
  have hip := h.scdbIp
  split at hip
  · exact ⟨hip, h.scdbMac.trans (Eq.symm ‹_›)⟩
  · exact absurd hp (hip ▸ hout)

/-- The cache after another frame has no address anew. -/
lemma CacheAfter.sameOutside_uncached {p : IpAddr → Prop} (hp : p zeroIp)
    (h : CacheAfter s s' (if s.scdbMac = f.sa then zeroMac else s.scdbMac)
      (if s.scdbMac = f.sa then zeroIp else s.scdbIp)) : SameOutside p s s' := by
  refine ⟨fun a _ => h.lookup, h.brMac, fun hout => ?_⟩
  have hip := h.scdbIp
  have hmac := h.scdbMac
  split at hip
  · exact absurd hp (hip ▸ hout)
  · rw [if_neg ‹_›] at hmac
    exact ⟨hip, hmac⟩

/-- An insertion concerns its address only. -/
lemma SameOutside.insert {p : IpAddr → Prop} (h : SameOutside p s s') (hp : p ipAddr)
    (mallocOk : Bool) (m : MacAddr) :
    SameOutside p s
      (nat25DbNetworkInsert s' mallocOk m (nat25GenerateIpv4NetworkAddr ipAddr)) := by
  refine ⟨fun a ha => ?_, ?_, fun hout => ?_⟩
  · rw [lookup_nat25DbNetworkInsert, if_neg, h.lookup a ha]
    rintro ⟨rfl, -⟩
    exact ha hp
  · rw [nat25DbNetworkInsert_eq]
    exact h.brMac
  · rw [nat25DbNetworkInsert_eq] at hout ⊢
    exact h.scdb hout

/-- After an insertion the table gives the client its address, if it could be learnt or was
known. -/
lemma tableDa_insert_iff :
    tableDa cfg (nat25DbNetworkInsert s o.mallocOk m (nat25GenerateIpv4NetworkAddr ipAddr))
        ipAddr = m ↔ tableDa cfg s ipAddr = m ∨ CanLearn o s ipAddr := by
  have hlookup := lookup_nat25DbNetworkInsert s o.mallocOk m ipAddr ipAddr
  by_cases hlearn : CanLearn o s ipAddr
  · rw [if_pos ⟨rfl, hlearn⟩] at hlookup
    exact iff_of_true (tableDa_of_lookup hlookup) (.inr hlearn)
  · rw [if_neg (fun h => hlearn h.2)] at hlookup
    have hmac : (nat25DbNetworkInsert s o.mallocOk m
        (nat25GenerateIpv4NetworkAddr ipAddr)).brMac = s.brMac := by
      rw [nat25DbNetworkInsert_eq]
    rw [tableDa_congr hlookup hmac]
    exact ⟨.inl, fun h => h.resolve_right hlearn⟩

/-- What is known after an IPv4 frame was sent. -/
lemma known_tx_ip (hf : f.payload = .ip iph) (h : Known cfg b) (htidy : Tidy b) :
    Known cfg (bridgeStep cfg b (.tx o f)).1 ↔
      (iph.saddr ≠ zeroIp → IpFits cfg o b.toBrState f iph) := by
  by_cases hcache : CacheAnswers b.toBrState f iph.saddr
  · obtain ⟨hout, hafter⟩ := rtwBrClientTx_cached cfg o hf hcache
    by_cases hzero : iph.saddr = zeroIp
    · have hstep : (bridgeStep cfg b (.tx o f)).1 =
          { (rtwBrClientTx cfg o b.toBrState f).1 with lastUser := b.lastUser } := by
        simp [bridgeStep, noteUser, sourceIp, hf, hzero]
      rw [hstep]
      exact iff_of_true (h.of_sameOutside htidy (hafter.sameOutside_cached hzero))
        (fun hne => absurd hzero hne)
    · have hstep : (bridgeStep cfg b (.tx o f)).1 =
          { (rtwBrClientTx cfg o b.toBrState f).1 with
            lastUser := Function.update b.lastUser iph.saddr (some f.sa) } := by
        simp [bridgeStep, noteUser, sourceIp, hf, hzero, hout]
      rw [hstep, h.used_iff htidy (hafter.sameOutside_cached (.inr rfl)),
        tableDa_congr hafter.lookup hafter.brMac]
      unfold IpFits
      simp only [hcache, not_true_eq_false, false_and, or_false, hafter.scdbMac, implies_true,
        and_true]
      exact ⟨fun heq _ => heq, fun himp => himp hzero⟩
  · obtain ⟨t, htx, hafter⟩ := rtwBrClientTx_uncached cfg o hf hcache
    obtain ⟨hout, hstate⟩ := nat25Learn_ip cfg o t hf
    rw [← htx] at hout hstate
    by_cases hused : iph.saddr ≠ zeroIp ∧ o.linearOk = true
    · obtain ⟨hzero, hlinear⟩ := hused
      obtain ⟨out, hsome⟩ := Option.isSome_iff_exists.1 (hout.trans hlinear)
      have hstep : (bridgeStep cfg b (.tx o f)).1 =
          { (rtwBrClientTx cfg o b.toBrState f).1 with
            lastUser := Function.update b.lastUser iph.saddr (some f.sa) } := by
        simp [bridgeStep, noteUser, sourceIp, hf, hzero, hsome]
      have hnotCached : t.scdbIp ≠ iph.saddr := by
        intro heq
        rw [hafter.scdbIp] at heq
        unfold CacheAnswers at hcache
        split at heq
        · exact hzero heq.symm
        · rw [if_neg ‹_›, ← heq] at hcache
          exact hcache (htidy.cached (heq ▸ hzero))
      have hbefore : SameOutside (fun a => a = zeroIp ∨ a = iph.saddr) b.toBrState t :=
        hafter.sameOutside_uncached (.inl rfl)
      have hda : tableDa cfg t iph.saddr = tableDa cfg b.toBrState iph.saddr :=
        tableDa_congr hafter.lookup hafter.brMac
      have hlearn : CanLearn o t iph.saddr ↔ CanLearn o b.toBrState iph.saddr := by
        unfold CanLearn
        rw [hafter.lookup]
      rw [hstep, hstate]
      unfold IpFits
      by_cases hfits : iph.WellFormed
      · rw [if_pos ⟨hlinear, hfits, hzero⟩, h.used_iff htidy (hbefore.insert (.inr rfl) _ _),
          tableDa_insert_iff, hda, hlearn]
        have hscdb : (nat25DbNetworkInsert t o.mallocOk f.sa
            (nat25GenerateIpv4NetworkAddr iph.saddr)).scdbIp ≠ iph.saddr := by
          rw [nat25DbNetworkInsert_eq]
          exact hnotCached
        simp [hscdb, hzero, hcache, hlinear, hfits]
      · rw [if_neg (fun hall => hfits hall.2.1), h.used_iff htidy hbefore, hda]
        simp [hnotCached, hzero, hlinear, hfits]
    · -- nothing is used: the frame is dropped, or it is from `0.0.0.0`
      have hstate' : (rtwBrClientTx cfg o b.toBrState f).1 = t := by
        rw [hstate, if_neg (fun hall => hused ⟨hall.2.2, hall.1⟩)]
      have hstep : (bridgeStep cfg b (.tx o f)).1 = { t with lastUser := b.lastUser } := by
        rw [← hstate']
        by_cases hzero : iph.saddr = zeroIp
        · simp [bridgeStep, noteUser, sourceIp, hf, hzero]
        · have hnone : (rtwBrClientTx cfg o b.toBrState f).2 = none := by
            rw [← Option.isNone_iff_eq_none, ← Option.not_isSome, hout]
            simpa [hzero] using hused
          simp [bridgeStep, noteUser, sourceIp, hf, hzero, hnone]
      rw [hstep]
      refine iff_of_true (h.of_sameOutside htidy (hafter.sameOutside_uncached rfl)) fun hzero => ?_
      refine .inr ⟨hcache, .inl ?_⟩
      simpa [hzero] using hused

end Ip

/-! ### ARP messages -/

section Arp

variable {arp : ArpHdr}

/-- The entry of an ARP message. -/
lemma rtwBrClientTx_arp (cfg : BrConfig) (o : TxEnv) (s : BrState)
    (hf : f.payload = .arp arp) (hip : arp.proIp = true) :
    (rtwBrClientTx cfg o s f).2.isSome = (o.copyOk && o.linearOk) ∧
      (rtwBrClientTx cfg o s f).1 =
        if o.copyOk = true ∧ o.linearOk = true then
          nat25DbNetworkInsert s o.mallocOk f.sa (nat25GenerateIpv4NetworkAddr arp.senderIp)
        else s := by
  have htx : rtwBrClientTx cfg o s f = nat25Learn cfg o s f := by
    rw [rtwBrClientTx, fastPath, scdbLearn, learnBrIp]
    rw [hf]
    rfl
  rw [htx]
  unfold nat25Learn nat25DbHandle
  rw [hf]
  cases hcopy : o.copyOk <;> cases hlinear : o.linearOk <;> simp [hip]

/-- An ARP message for another protocol. -/
lemma rtwBrClientTx_arp_other (hf : f.payload = .arp arp) (hip : arp.proIp = false) :
    (rtwBrClientTx cfg o s f).1 = s := by
  have htx : rtwBrClientTx cfg o s f = nat25Learn cfg o s f := by
    rw [rtwBrClientTx, fastPath, scdbLearn, learnBrIp]
    rw [hf]
    rfl
  rw [htx]
  unfold nat25Learn nat25DbHandle
  rw [hf]
  cases hlinear : o.linearOk <;> simp [hip]

lemma SameOutside.refl {p : IpAddr → Prop} : SameOutside p s s :=
  ⟨fun _ _ => rfl, rfl, fun _ => ⟨rfl, rfl⟩⟩

/-- What is known after an ARP message was sent. -/
lemma known_tx_arp (hf : f.payload = .arp arp) (h : Known cfg b) (htidy : Tidy b) :
    Known cfg (bridgeStep cfg b (.tx o f)).1 ↔
      (arp.proIp = true → arp.senderIp ≠ zeroIp → ArpFits cfg o b.toBrState f arp) := by
  cases hip : arp.proIp with
  | false =>
      have hstep : (bridgeStep cfg b (.tx o f)).1 = b := by
        simp [bridgeStep, noteUser, sourceIp, hf, hip, rtwBrClientTx_arp_other hf hip]
      rw [hstep]
      exact iff_of_true h (fun hne => by cases hne)
  | true =>
      obtain ⟨hout, hstate⟩ := rtwBrClientTx_arp cfg o b.toBrState hf hip
      by_cases hsent : o.copyOk = true ∧ o.linearOk = true
      · rw [if_pos hsent] at hstate
        have hsome : (rtwBrClientTx cfg o b.toBrState f).2.isSome = true := by
          rw [hout, hsent.1, hsent.2]
          rfl
        obtain ⟨out, hsome⟩ := Option.isSome_iff_exists.1 hsome
        by_cases hzero : arp.senderIp = zeroIp
        · have hstep : (bridgeStep cfg b (.tx o f)).1 =
              { (rtwBrClientTx cfg o b.toBrState f).1 with lastUser := b.lastUser } := by
            simp [bridgeStep, noteUser, sourceIp, hf, hip, hzero]
          have hsame : SameOutside (· = zeroIp) b.toBrState (nat25DbNetworkInsert b.toBrState
              o.mallocOk f.sa (nat25GenerateIpv4NetworkAddr arp.senderIp)) :=
            SameOutside.refl.insert (p := (· = zeroIp)) hzero _ _
          rw [hstep, hstate]
          exact iff_of_true (h.of_sameOutside htidy hsame) (fun _ hne => absurd hzero hne)
        · have hstep : (bridgeStep cfg b (.tx o f)).1 =
              { (rtwBrClientTx cfg o b.toBrState f).1 with
                lastUser := Function.update b.lastUser arp.senderIp (some f.sa) } := by
            simp [bridgeStep, noteUser, sourceIp, hf, hip, hzero, hsome]
          rw [hstep, hstate, h.used_iff htidy (SameOutside.refl.insert (.inr rfl) _ _),
            tableDa_insert_iff, nat25DbNetworkInsert_eq]
          rw [ArpFits]
          simp only [forall_const, ne_eq, hzero, not_false_eq_true, hsent, and_self]
      · rw [if_neg hsent] at hstate
        have hnone : (rtwBrClientTx cfg o b.toBrState f).2 = none := by
          rw [← Option.not_isSome_iff_eq_none, hout, Bool.and_eq_true]
          exact hsent
        have hstep : (bridgeStep cfg b (.tx o f)).1 = b := by
          simp only [bridgeStep, hnone, noteUser_none, hstate]
        rw [hstep]
        exact iff_of_true h (fun _ _ hboth => absurd hboth hsent)

end Arp

/-! ### Received frames -/

/-- A received frame changes at most `br_mac`, and that as the lookup has it. -/
lemma nat25HandleFrame_state (cfg : BrConfig) (s : BrState) (f : EthFrame) :
    (nat25HandleFrame cfg s f).1 = s ∨ (nat25HandleFrame cfg s f).1 = netdevBrInit cfg s := by
  unfold nat25HandleFrame nat25DbHandle nat25LookupIp
  cases f.payload with
  | arp arp =>
      left
      dsimp only
      split_ifs <;> rfl
  | ip iph =>
      dsimp only
      cases s.lookup iph.daddr with
      | some m =>
          left
          dsimp only
          split_ifs <;> rfl
      | none =>
          dsimp only
          split_ifs
          · exact .inl rfl
          · exact .inl rfl
          · exact .inl rfl
          · exact .inr rfl
          · exact .inl rfl

lemma netdevBrInit_scdb : (netdevBrInit cfg s).scdbIp = s.scdbIp ∧
    (netdevBrInit cfg s).scdbMac = s.scdbMac := by
  rw [netdevBrInit]
  split_ifs <;> exact ⟨rfl, rfl⟩

lemma known_rx (h : Known cfg b) : Known cfg (bridgeStep cfg b (.rx f)).1 := by
  intro ipAddr m hlast
  obtain ⟨htable, hcache⟩ := h ipAddr m hlast
  rcases nat25HandleFrame_state cfg b.toBrState f with hstate | hstate
  · simp only [bridgeStep, hstate]
    exact ⟨htable, hcache⟩
  · simp only [bridgeStep, hstate, tableDa_netdevBrInit, netdevBrInit_scdb]
    exact ⟨htable, hcache⟩

/-! ### Whole runs -/

/-- A step keeps what is known exactly if its frame fits. -/
lemma known_step_iff (e : Event) (htidy : Tidy b) (h : Known cfg b) :
    Known cfg (bridgeStep cfg b e).1 ↔ Fits cfg b e := by
  cases e with
  | rx f => exact iff_of_true (known_rx h) trivial
  | tx o f =>
      cases hf : f.payload with
      | ip iph =>
          simp only [Fits, hf]
          exact known_tx_ip hf h htidy
      | arp arp =>
          simp only [Fits, hf]
          exact known_tx_arp hf h htidy

lemma sourceIp_ne_zero (h : sourceIp f = some ipAddr) : ipAddr ≠ zeroIp := by
  rintro rfl
  unfold sourceIp at h
  cases hf : f.payload with
  | ip iph =>
      simp only [hf] at h
      split_ifs at h with hzero
      exact hzero (Option.some.inj h)
  | arp arp =>
      simp only [hf] at h
      split_ifs at h with hzero
      exact hzero (.inr (Option.some.inj h))

lemma noteUser_zero {lastUser : IpAddr → Option MacAddr} (h : lastUser zeroIp = none)
    (out : Option EthFrame) : noteUser lastUser f out zeroIp = none := by
  cases out with
  | none => rw [noteUser_none, h]
  | some out =>
      unfold noteUser
      cases hsource : sourceIp f with
      | none => exact h
      | some ipAddr => exact (Function.update_of_ne (sourceIp_ne_zero hsource).symm ..).trans h

/-- No address leaves the table. -/
lemma CacheInTable.insert (h : CacheInTable s) (mallocOk : Bool) (m : MacAddr)
    (ipAddr : IpAddr) : CacheInTable
      (nat25DbNetworkInsert s mallocOk m (nat25GenerateIpv4NetworkAddr ipAddr)) := by
  intro hne
  rw [nat25DbNetworkInsert_eq] at hne
  have hip : (nat25DbNetworkInsert s mallocOk m
      (nat25GenerateIpv4NetworkAddr ipAddr)).scdbIp = s.scdbIp := by
    rw [nat25DbNetworkInsert_eq]
  rw [hip, lookup_nat25DbNetworkInsert]
  split_ifs
  · rfl
  · exact h hne

/-- The cached address is still in the table after a frame was sent. -/
lemma CacheInTable.tx (h : CacheInTable s) : CacheInTable (rtwBrClientTx cfg o s f).1 := by
  cases hf : f.payload with
  | arp arp =>
      cases hip : arp.proIp with
      | false =>
          rw [rtwBrClientTx_arp_other hf hip]
          exact h
      | true =>
          rw [(rtwBrClientTx_arp cfg o s hf hip).2]
          split_ifs
          · exact h.insert _ _ _
          · exact h
  | ip iph =>
      by_cases hcache : CacheAnswers s f iph.saddr
      · obtain ⟨-, hafter⟩ := rtwBrClientTx_cached cfg o hf hcache
        intro hne
        rw [hafter.scdbIp] at hne
        rw [hafter.lookup, hafter.scdbIp]
        unfold CacheAnswers at hcache
        by_cases hmac : s.scdbMac = f.sa
        · rw [if_pos hmac] at hne ⊢
          exact h hne
        · rw [if_neg hmac] at hcache ⊢
          exact hcache
      · obtain ⟨t, htx, hafter⟩ := rtwBrClientTx_uncached cfg o hf hcache
        have ht : CacheInTable t := by
          intro hne
          rw [hafter.scdbIp] at hne
          rw [hafter.lookup, hafter.scdbIp]
          by_cases hmac : s.scdbMac = f.sa
          · rw [if_pos hmac] at hne
            exact absurd rfl hne
          · rw [if_neg hmac] at hne ⊢
            exact h hne
        rw [htx, (nat25Learn_ip cfg o t hf).2]
        split_ifs
        · exact ht.insert _ _ _
        · exact ht

lemma Tidy.step (h : Tidy b) (e : Event) : Tidy (bridgeStep cfg b e).1 := by
  cases e with
  | tx o f => exact ⟨h.cached.tx, noteUser_zero h.zero _⟩
  | rx f =>
      refine ⟨?_, h.zero⟩
      simp only [bridgeStep]
      rcases nat25HandleFrame_state cfg b.toBrState f with hstate | hstate
      · rw [hstate]
        exact h.cached
      · rw [hstate, CacheInTable, netdevBrInit_scdb.1, netdevBrInit_lookup]
        exact h.cached

/-- **Resolution of received frames.**  In all states of a run every received IPv4 frame is
given the client that last used its destination, by the cache as by the table, exactly if each
frame that was sent fits the state that it met. -/
theorem bridge_resolves_iff (cfg : BrConfig) (brMac : MacAddr) (es : List Event) :
    (∀ pre, pre <+: es → Resolves cfg (final (bridgeStep cfg) (bridgeInit brMac) pre)) ↔
      Along (bridgeStep cfg) (Fits cfg) (bridgeInit brMac) es := by
  have hinit : Tidy (bridgeInit brMac) := ⟨fun hne => absurd rfl hne, rfl⟩
  have hnone : Known cfg (bridgeInit brMac) := fun _ _ hlast => by cases hlast
  simp only [resolves_iff_known]
  exact forall_prefix_iff_along (J := Tidy) (I := Known cfg) (fun _ e htidy => htidy.step e)
    (fun _ e htidy h => known_step_iff e htidy h) hinit hnone

/-- The station, behind a bridge that has its own address. -/
def bridgeCfg : BrConfig where
  myHwaddr := MacAddr.ofBytes 2 0 0 0 0 1
  bridge := some (MacAddr.ofBytes 2 0 0 0 0 2)

/-- An ARP message of a client for `192.168.0.10`. -/
def arpFrom (sa : MacAddr) : Event :=
  .tx {} ⟨bcAddr, sa, false,
    .arp ⟨true, sa, IpAddr.ofBytes 192 168 0 10, zeroMac, IpAddr.ofBytes 192 168 0 1⟩⟩

/-- An IPv4 frame of a client with that address. -/
def ipFrom (sa : MacAddr) : Event :=
  .tx {} ⟨MacAddr.ofBytes 4 0 0 0 0 1, sa, false,
    .ip ⟨IpAddr.ofBytes 192 168 0 10, IpAddr.ofBytes 192 168 0 1, 5, 60⟩⟩

/-- The address moves from one client to another, which announces it; the frames for it still
go to the first. -/
theorem bridge_moved_address :
    let b := final (bridgeStep bridgeCfg) (bridgeInit (MacAddr.ofBytes 2 0 0 0 0 2))
      [arpFrom (MacAddr.ofBytes 6 0 0 0 0 1), ipFrom (MacAddr.ofBytes 6 0 0 0 0 1),
        arpFrom (MacAddr.ofBytes 6 0 0 0 0 2)]
    b.lastUser (IpAddr.ofBytes 192 168 0 10) = some (MacAddr.ofBytes 6 0 0 0 0 2) ∧
      (nat25HandleFrame bridgeCfg b.toBrState ⟨MacAddr.ofBytes 2 0 0 0 0 1,
        MacAddr.ofBytes 4 0 0 0 0 1, false,
        .ip ⟨IpAddr.ofBytes 192 168 0 1, IpAddr.ofBytes 192 168 0 10, 5, 60⟩⟩).2.1.da =
          MacAddr.ofBytes 6 0 0 0 0 1 ∧
      ¬ Resolves bridgeCfg b := by
  refine ⟨by decide, by decide, fun h => ?_⟩
  have hgiven := h ⟨MacAddr.ofBytes 2 0 0 0 0 1, MacAddr.ofBytes 4 0 0 0 0 1, false,
    .ip ⟨IpAddr.ofBytes 192 168 0 1, IpAddr.ofBytes 192 168 0 10, 5, 60⟩⟩ _
    (MacAddr.ofBytes 6 0 0 0 0 2) rfl
    (by decide) (by decide) (by decide)
  exact absurd hgiven.1 (by decide)

end Rtl8723du.Bridge
