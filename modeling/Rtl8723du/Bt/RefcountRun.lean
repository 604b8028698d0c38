import Rtl8723du.Bt.Refcount

/-!
# The counts over runs of the tracker

Each event of the tracker, with the condition under which it keeps the counts in order, and the
runs that it follows for: `coex_balanced_iff`.
-/

namespace Rtl8723du.Bt

open Lib Lib.Machine Function

/-! ### When an event fits -/

/-- A connection with the handle has no uses left when it is set up anew, and the profile that
is added does not overflow. -/
def ConnectFits (s : Coex) (handle : BitVec 16) (first : Option Profile) : Prop :=
  (∀ pl ∈ findConnectionByHandle s handle, ∀ q, pl.elem.cnt q = 0) ∧
    ∀ p ∈ first, s.cnt p ≠ 127

/-- The connection has one use of a profile, and none of another. -/
def UsesOnly (s : Coex) (c : Conn) (p : Profile) : Prop :=
  (∀ q, q ≠ p → c.cnt q = 0) ∧ (s.cnt p ≠ 0 → c.cnt p = 1)

/-- The channels on a handle. -/
def channelsOf (s : Coex) (handle : BitVec 16) : List ProfInfo :=
  s.profileList.filter (handle == ·.handle)

/-- A connection that goes has the uses that are taken back for it: on an ACL link, one for each
of its channels. -/
def DisconnectFits (s : Coex) (handle : BitVec 16) (c : Conn) : Prop :=
  match c.type with
  | .l2cap =>
      (∀ q, q ≠ .sink → min (s.cnt q) (uses (channelsOf s handle) q) = c.cnt q) ∧
        c.cnt .sink ≤ mediaChannels (channelsOf s handle)
  | .sco => UsesOnly s c .sco
  | .le => UsesOnly s c .hid

/-- A channel that is accepted does not make its profile overflow, and one that is closed has
been counted on its connection. -/
def L2Fits (s : Coex) (handle : BitVec 16) (out : Bool) : L2Cmd → Prop
  | .connReq _ _ => True
  | .connRsp _ scid result =>
      ∀ pl ∈ rspChannel s handle scid out, result.setWidth 8 = (0 : BitVec 8) →
        (findConnectionByHandle s handle).isSome = true → s.cnt pl.elem.profileIndex ≠ 127
  | .disconnReq dcid scid =>
      ∀ pl ∈ disconnChannelOf s handle dcid scid out,
        ∀ conn ∈ findConnectionByHandle s handle,
          s.cnt pl.elem.profileIndex ≠ 0 → 0 < conn.elem.cnt pl.elem.profileIndex
  | .other => True

/-- The sink that media data adds does not overflow. -/
def MediaFits (s : Coex) (handle scid : BitVec 16) (out : Bool) : Prop :=
  ∀ pl ∈ findConnectionByHandle s handle, ∀ desc ∈ rspChannel s handle scid out,
    mediaConn pl.elem desc.elem → pl.elem.profileStatus .a2dp = false → out = false →
      pl.elem.profileBitmap .sink = false → s.cnt .sink ≠ 127

/-- The event keeps the counts in order. -/
def Fits (s : Coex) : Event → Prop
  | .connectionComplete status handle linkType alloc =>
      status = 0 → canConnect s handle alloc = true →
        ConnectFits s handle (if linkType = 0 ∨ linkType = 2 then some .sco else none)
  | .leConnectionComplete status handle interval alloc =>
      status = 0 → canConnect s handle alloc = true →
        ConnectFits s handle (some .hid) ∧
          ((findConnectionByHandle s handle).isSome = true ∨ handle &&& 0xfff = handle →
            ¬ interval < 60)
  | .intervalChange handle interval =>
      ∀ pl ∈ findConnectionByHandle s handle, pl.elem.profileBitmap .hid = true → ¬ interval < 60
  | .disconnectComplete status handle =>
      status = 0 → ∀ pl ∈ findConnectionByHandle s handle, DisconnectFits s handle pl.elem
  | .l2Sig handle out cmds node _ =>
      ∀ cmd ∈ cmds.head?, node = true → L2Fits s (handle &&& 0xfff) out cmd
  | .l2Data handle channelId out =>
      (s.profileBitmap .a2dp || s.profileBitmap .pan) = true →
        MediaFits s (handle &&& 0xfff) channelId out
  | .a2dpTimeout _ => True

/-! ### What every state has -/

/-- The interval of HID is never counted over all connections, and no channel is of it or of
the sink. -/
structure Steady (s : Coex) : Prop where
  interval : s.cnt .hidInterval = 0
  channels : ∀ d ∈ s.profileList, d.profileIndex ≠ .hidInterval ∧ d.profileIndex ≠ .sink

variable {s : Coex} {g : Counts} {c : Conn} {p q : Profile} {handle : BitVec 16}
  {conns : List Conn} {pl : Place Conn} {first : Option Profile} {alloc : Option FreshConn}
  {type : ConnType}

lemma psmToProfileIndex_ne {psm : BitVec 16} (h : psmToProfileIndex psm = some p) :
    p ≠ .hidInterval ∧ p ≠ .sink := by
  unfold psmToProfileIndex at h
  split_ifs at h <;> (obtain rfl := Option.some.inj h; decide)

lemma cnt_updateProfileConnection_of_ne {isAdd : Bool} (hne : q ≠ p) :
    (updateProfileConnection g c p isAdd).1.cnt q = g.cnt q := by
  unfold updateProfileConnection
  split_ifs
  · rw [cnt_add, if_neg hne]
  · rfl
  · rw [cnt_remove, cnt_decr, if_neg hne]

lemma interval_disconnProfile (h : g.cnt .hidInterval = 0) (hp : p ≠ .hidInterval) :
    (disconnProfile g c p).1.cnt .hidInterval = 0 := by
  have hremove : (g.remove p).cnt .hidInterval = 0 := by
    rw [cnt_remove, cnt_decr, if_neg hp.symm, h]
  unfold disconnProfile
  split
  · exact h
  · dsimp only
    generalize (if (g.remove p).profileRefcount p = 0 then c.resetPacketCount p else c) = d
    generalize (if d.profileRefcount p ≠ 0 then { d with toCounts := d.toCounts.decr p } else d) = e
    split
    · exact hremove
    · unfold lastUse
      split
      · dsimp only
        split
        · exact absurd (refcount_eq_zero.2 hremove) ‹_›
        · exact hremove
      · exact hremove

lemma interval_disconnChannels {channels : List ProfInfo} (h : g.cnt .hidInterval = 0)
    (hidx : ∀ d ∈ channels, d.profileIndex ≠ .hidInterval ∧ d.profileIndex ≠ .sink) :
    (channels.foldl disconnChannel (g, c)).1.cnt .hidInterval = 0 := by
  induction channels generalizing g c with
  | nil => exact h
  | cons d channels ih =>
      have hfirst := interval_disconnProfile (c := c) h (hidx d (by simp)).1
      have hnext : (disconnChannel (g, c) d).1.cnt .hidInterval = 0 := by
        unfold disconnChannel
        dsimp only
        split
        · exact interval_disconnProfile hfirst (by decide)
        · exact hfirst
      exact ih hnext fun d' hd' => hidx d' (List.mem_cons_of_mem d hd')

lemma cnt_setupConn_of_ne (hne : ∀ p ∈ first, q ≠ p) :
    (setupConn g c type first).1.cnt q = g.cnt q := by
  cases first with
  | none => rfl
  | some p => exact cnt_updateProfileConnection_of_ne (hne p rfl)

lemma connected_profileList : (connected s handle type first alloc).profileList =
    s.profileList := by
  unfold connected
  split
  · rfl
  · split <;> rfl

lemma interval_connected (h : s.cnt .hidInterval = 0) (hne : ∀ p ∈ first, .hidInterval ≠ p) :
    (connected s handle type first alloc).cnt .hidInterval = 0 := by
  unfold connected
  split
  · exact (cnt_setupConn_of_ne hne).trans h
  · split
    · exact h
    · exact (cnt_setupConn_of_ne hne).trans h

lemma updateHidActiveState_fields (s : Coex) (handle interval : BitVec 16) :
    (updateHidActiveState s handle interval).toCounts = s.toCounts ∧
      (updateHidActiveState s handle interval).profileList = s.profileList := by
  unfold updateHidActiveState
  split <;> exact ⟨rfl, rfl⟩

lemma Steady.connected (h : Steady s) (hne : ∀ p ∈ first, .hidInterval ≠ p) :
    Steady (connected s handle type first alloc) := by
  refine ⟨interval_connected h.interval hne, ?_⟩
  rw [connected_profileList]
  exact h.channels

lemma Steady.hid (h : Steady s) {interval : BitVec 16} :
    Steady (updateHidActiveState s handle interval) := by
  obtain ⟨hcounts, hchannels⟩ := updateHidActiveState_fields s handle interval
  constructor
  · rw [hcounts]
    exact h.interval
  · rw [hchannels]
    exact h.channels

lemma Steady.disconnect (h : Steady s) {status : UInt8} :
    Steady (rtkHandleDisconnectCompleteEvt s status handle) := by
  unfold rtkHandleDisconnectCompleteEvt
  split
  · exact h
  · split
    · exact h
    · split
      · refine ⟨interval_disconnChannels h.interval fun d hd => ?_, fun d hd => ?_⟩
        · exact h.channels d (List.mem_of_mem_filter hd)
        · exact h.channels d (List.mem_of_mem_filter hd)
      · exact ⟨(cnt_updateProfileConnection_of_ne (by decide)).trans h.interval, h.channels⟩
      · exact ⟨(cnt_updateProfileConnection_of_ne (by decide)).trans h.interval, h.channels⟩

lemma Steady.updateConnection (h : Steady s) {isAdd : Bool} (hp : p ≠ .hidInterval) :
    Steady (updateConnectionByHandle s handle p isAdd) := by
  unfold updateConnectionByHandle
  split
  · exact h
  · exact ⟨(cnt_updateProfileConnection_of_ne hp.symm).trans h.interval, h.channels⟩

lemma Steady.listAllocateAdd (h : Steady s) {psm dcid scid : BitVec 16} {flags : Option UInt8}
    (hp : p ≠ .hidInterval ∧ p ≠ .sink) :
    Steady (listAllocateAdd s handle psm p dcid scid flags) := by
  unfold Bt.listAllocateAdd
  split
  · exact h
  · refine ⟨h.interval, fun d hd => ?_⟩
    rcases List.mem_append.1 hd with hd | hd
    · exact h.channels d hd
    · obtain rfl := List.mem_singleton.1 hd
      exact hp

lemma Steady.conReq (h : Steady s) {psm scid : BitVec 16} {out : Bool} {flags : Option UInt8} :
    Steady (handleL2capConReq s handle psm scid out flags) := by
  unfold handleL2capConReq
  cases hidx : psmToProfileIndex psm with
  | none => exact h
  | some p =>
      dsimp only
      split_ifs
      · exact h
      · exact h.listAllocateAdd (psmToProfileIndex_ne hidx)
      · exact h
      · exact h.listAllocateAdd (psmToProfileIndex_ne hidx)

lemma rspChannel_mem {scid : BitVec 16} {out : Bool} {d : Place ProfInfo}
    (h : rspChannel s handle scid out = some d) : d.list = s.profileList := by
  unfold rspChannel findProfileByHandleDcid findProfileByHandleScid at h
  split at h
  · exact (pick_eq_some h).1
  · exact (pick_eq_some h).1

lemma disconnChannelOf_mem {dcid scid : BitVec 16} {out : Bool} {d : Place ProfInfo}
    (h : disconnChannelOf s handle dcid scid out = some d) : d.list = s.profileList := by
  unfold disconnChannelOf findProfileByHandleDcidScid at h
  split at h
  · exact (pick_eq_some h).1
  · exact (pick_eq_some h).1

lemma Steady.conRsp (h : Steady s) {dcid scid : BitVec 16} {out : Bool} {result : BitVec 8} :
    Steady (handleL2capConRsp s handle dcid scid out result) := by
  unfold handleL2capConRsp
  cases hrsp : rspChannel s handle scid out with
  | none => exact h
  | some d =>
      have hlist := rspChannel_mem hrsp
      have hd : d.elem.profileIndex ≠ .hidInterval ∧ d.elem.profileIndex ≠ .sink :=
        h.channels _ (hlist ▸ Place.mem_list)
      dsimp only
      split
      · exact h
      · have hset : ∀ desc : ProfInfo, desc.profileIndex = d.elem.profileIndex →
            Steady { s with profileList := d.set desc } := by
          refine fun desc hdesc => ⟨h.interval, fun d' hd' => ?_⟩
          rcases Place.mem_set.1 hd' with hd' | rfl
          · refine h.channels d' ?_
            rw [← hlist]
            exact Place.mem_set.2 (.inl hd')
          · rw [hdesc]
            exact hd
        refine (hset _ ?_).updateConnection hd.1
        split <;> rfl

lemma Steady.disconReq (h : Steady s) {dcid scid : BitVec 16} {out : Bool} :
    Steady (handleL2capDisconReq s handle dcid scid out) := by
  unfold handleL2capDisconReq
  cases hdis : disconnChannelOf s handle dcid scid out with
  | none => exact h
  | some d =>
      have hlist := disconnChannelOf_mem hdis
      have hd : d.elem.profileIndex ≠ .hidInterval ∧ d.elem.profileIndex ≠ .sink :=
        h.channels _ (hlist ▸ Place.mem_list)
      dsimp only
      split
      · exact h
      · refine ⟨?_, fun d' hd' => ?_⟩
        · dsimp only
          split
          · rw [cnt_updateProfileConnection_of_ne (by decide),
              cnt_updateProfileConnection_of_ne hd.1.symm]
            exact h.interval
          · rw [cnt_updateProfileConnection_of_ne hd.1.symm]
            exact h.interval
        · refine h.channels d' ?_
          rw [← hlist]
          exact Place.mem_set.2 (.inl hd')

lemma interval_mediaPacket {out : Bool} :
    (mediaPacket g c out).1.cnt .hidInterval = g.cnt .hidInterval := by
  unfold mediaPacket
  dsimp only
  split
  · rfl
  · split
    · rfl
    · dsimp only
      split
      · exact cnt_updateProfileConnection_of_ne (by decide)
      · rfl

lemma Steady.packetsCount (h : Steady s) {scid : BitVec 16} {out : Bool} :
    Steady (packetsCount s handle scid out) := by
  unfold Bt.packetsCount
  split
  · exact h
  · dsimp only
    split
    · exact h
    · split
      · exact ⟨interval_mediaPacket.trans h.interval, h.channels⟩
      · exact h

lemma Steady.step (h : Steady s) (e : Event) : Steady (coexStep s e).1 := by
  cases e with
  | connectionComplete status handle linkType alloc =>
      unfold coexStep rtkHandleConnectionCompleteEvt
      dsimp only
      split_ifs
      · exact h
      · exact h.connected (by decide)
      · exact h.connected (by decide)
  | leConnectionComplete status handle interval alloc =>
      unfold coexStep rtkHandleLeConnectionCompleteEvt
      dsimp only
      split_ifs
      · exact h
      · exact (h.connected (by decide)).hid
      · exact h
  | intervalChange handle interval => exact h.hid
  | disconnectComplete status handle => exact h.disconnect
  | l2Sig handle out cmds node flags =>
      unfold coexStep
      cases cmds with
      | nil => exact h
      | cons cmd cmds =>
          dsimp only
          split
          · cases cmd with
            | connReq psm scid => exact h.conReq
            | connRsp dcid scid result => exact h.conRsp
            | disconnReq dcid scid => exact h.disconReq
            | other => exact h
          · exact h
  | l2Data handle channelId out =>
      unfold coexStep
      dsimp only
      split
      · exact h.packetsCount
      · exact h
  | a2dpTimeout i => exact ⟨h.interval, h.channels⟩

/-! ### A connection is set up -/

/-- The counts of the state are in order. -/
def InOrder (s : Coex) : Prop := Balanced s.toCounts s.connHash

/-- Nothing is counted on a connection that is set up anew. -/
lemma sound_zero {status : Profile → Bool} :
    Sound ⟨fun _ => false, status, fun _ => 0⟩ := by
  refine ⟨fun p => ?_, fun p => ?_⟩
  · change 0 ≤ BitVec.toInt 0#8
    decide
  · refine iff_of_false Bool.false_ne_true ?_
    change ¬ 0 < BitVec.toInt 0#8
    decide

/-- What is set up is tied to the rest if nothing was counted on the connection before. -/
lemma tied_setupConn_iff {rest : Profile → ℤ} (hg : Sound g) :
    Tied (setupConn g c type first).1 (setupConn g c type first).2.toCounts rest ↔
      (∀ q, g.cnt q = rest q) ∧ ∀ p ∈ first, g.cnt p ≠ 127 := by
  cases first with
  | none =>
      constructor
      · intro h
        refine ⟨fun q => ?_, fun p hp => by cases hp⟩
        exact (h.sum q).trans (zero_add _)
      · rintro ⟨hsum, -⟩
        exact ⟨hg, sound_zero, fun q => (hsum q).trans (zero_add _).symm⟩
  | some p =>
      refine Iff.trans (tied_add_iff hg sound_zero (hg.nonneg p)) ?_
      constructor
      · rintro ⟨hover, hsum⟩
        refine ⟨fun q => (hsum q).trans (zero_add _), fun p' hp' => ?_⟩
        obtain rfl := Option.some.inj hp'
        exact hover
      · rintro ⟨hsum, hover⟩
        exact ⟨hover p rfl, fun q => (hsum q).trans (zero_add _).symm⟩

lemma findConnectionByHandle_list (h : findConnectionByHandle s handle = some pl) :
    pl.list = s.connHash := (pick_eq_some h).1

/-- A connection that is complete keeps the counts in order if it fits. -/
lemma inOrder_connected_iff (h : InOrder s) (hcan : canConnect s handle alloc = true) :
    InOrder (connected s handle type first alloc) ↔ ConnectFits s handle first := by
  unfold InOrder connected ConnectFits
  cases hfind : findConnectionByHandle s handle with
  | some pl =>
      have hlist := findConnectionByHandle_list hfind
      have htied := h.tied hlist
      dsimp only
      rw [balanced_set_iff (h.rest_sound hlist), tied_setupConn_iff h.total]
      refine and_congr_left fun _ => ?_
      constructor
      · intro hsum pl' hpl' q
        obtain rfl := Option.some.inj hpl'
        have := htied.sum q
        have := hsum q
        omega
      · intro hzero q
        have := htied.sum q
        have := hzero pl rfl q
        omega
  | none =>
      have halloc : ∃ fresh, alloc = some fresh := by
        rw [canConnect, hfind] at hcan
        exact Option.isSome_iff_exists.1 hcan
      obtain ⟨fresh, rfl⟩ := halloc
      dsimp only
      have hparts : ∀ c ∈ (Place.mk s.connHash { handle := handle, type := type } []).erase,
          Sound c.toCounts := by simpa [Place.erase] using h.parts
      refine (balanced_set_iff hparts).trans ?_
      rw [tied_setupConn_iff h.total]
      have hrest : ∀ q, s.cnt q =
          restOf ⟨s.connHash, { handle := handle, type := type }, []⟩ q := by
        intro q
        rw [h.sum q]
        simp [restOf, Place.erase]
      constructor
      · rintro ⟨-, hover⟩
        exact ⟨fun pl hpl => (by cases hpl), hover⟩
      · rintro ⟨-, hover⟩
        exact ⟨hrest, hover⟩

/-! ### The interval of HID -/

/-- In a state in order no connection has an interval of HID. -/
lemma InOrder.noInterval (h : InOrder s) (hs : Steady s) :
    ∀ c ∈ s.connHash, NoInterval c.toCounts := by
  intro c hc
  obtain ⟨before, after, heq⟩ := List.append_of_mem hc
  have hlist : (Place.mk before c after).list = s.connHash := heq.symm
  have htied : Tied s.toCounts c.toCounts _ := h.tied hlist
  have hsum := htied.sum .hidInterval
  have hnn := htied.conn.nonneg .hidInterval
  have hrest := h.rest_nonneg hlist .hidInterval
  have hzero := hs.interval
  refine htied.conn.noInterval ?_
  omega

/-- The interval of HID is counted on its connection alone: the counts stay in order only if
there is none to count. -/
lemma inOrder_hid_iff {interval : BitVec 16} (hzero : s.cnt .hidInterval = 0)
    (hnone : ∀ c ∈ s.connHash, NoInterval c.toCounts) :
    InOrder (updateHidActiveState s handle interval) ↔ InOrder s ∧
      ∀ pl ∈ findConnectionByHandle s handle,
        pl.elem.profileBitmap .hid = true → ¬ interval < 60 := by
  unfold updateHidActiveState
  cases hfind : findConnectionByHandle s handle with
  | none => exact ⟨fun h => ⟨h, fun pl hpl => by cases hpl⟩, fun h => h.1⟩
  | some pl =>
      have hlist := findConnectionByHandle_list hfind
      have helem : NoInterval pl.elem.toCounts := hnone _ (hlist ▸ Place.mem_list)
      dsimp only
      by_cases hset : pl.elem.profileBitmap .hid = true ∧ interval < 60
      · refine iff_of_false (fun h => ?_) (fun h => h.2 pl rfl hset.1 hset.2)
        have hone : (hidActiveConn pl.elem interval).cnt .hidInterval = 1 := by
          have hcount : pl.elem.profileRefcount .hidInterval = 0 := refcount_eq_zero.2 helem.1
          unfold hidActiveConn
          rw [if_neg (by rw [hset.1]; decide), if_pos hset.2, if_neg (by rw [helem.2]; decide)]
          unfold Counts.cnt
          dsimp only
          rw [update_self, hcount]
          rfl
        have hrest : restOf pl .hidInterval = 0 := by
          refine List.sum_eq_zero fun n hn => ?_
          obtain ⟨c, hc, rfl⟩ := List.mem_map.1 hn
          exact (hnone c (hlist ▸ Place.mem_set.2 (.inl hc))).1
        have hsum := h.sum .hidInterval
        rw [sum_set, hone, hrest] at hsum
        change s.cnt .hidInterval = 1 + 0 at hsum
        omega
      · have hsame : hidActiveConn pl.elem interval = pl.elem := by
          unfold hidActiveConn
          by_cases hhid : pl.elem.profileBitmap .hid = true
          · rw [if_neg (by rw [hhid]; decide), if_neg (fun hlt => hset ⟨hhid, hlt⟩),
              if_neg (by rw [helem.2]; decide)]
          · rw [if_pos (by simpa using hhid)]
        rw [hsame]
        have hback : pl.set pl.elem = s.connHash := hlist
        rw [hback]
        refine ⟨fun h => ⟨h, fun pl' hpl' hhid hlt => ?_⟩, fun h => h.1⟩
        obtain rfl := Option.some.inj hpl'
        exact hset ⟨hhid, hlt⟩

/-- After a LE connection is complete, its connection is found if it was there, or if its handle
is one of 12 bits; and it is one of HID. -/
lemma find_connected (hcan : canConnect s handle alloc = true) :
    (∀ pl ∈ findConnectionByHandle (connected s handle .le (some .hid) alloc) handle,
        pl.elem.profileBitmap .hid = true) ∧
      ((findConnectionByHandle (connected s handle .le (some .hid) alloc) handle).isSome = true ↔
        (findConnectionByHandle s handle).isSome = true ∨ handle &&& 0xfff = handle) := by
  have hbit : ∀ (g : Counts) (c : Conn),
      (setupConn g c .le (some .hid)).2.profileBitmap .hid = true := by
    intro g c
    change (Conn.add _ Profile.hid).toCounts.profileBitmap .hid = true
    rw [Conn.add_toCounts, bitmap_add, if_pos ⟨rfl, rfl⟩]
  have hhandle : ∀ (g : Counts) (c : Conn),
      (setupConn g c .le (some .hid)).2.handle = c.handle := by
    intro g c
    rfl
  unfold connected
  cases hfind : findConnectionByHandle s handle with
  | some pl =>
      have hmatch := (pick_eq_some hfind).2.1
      have hset := pick_set hfind (x := (setupConn s.toCounts pl.elem .le (some .hid)).2)
        (by rw [hhandle]; exact hmatch)
      dsimp only
      unfold findConnectionByHandle
      dsimp only
      rw [hset]
      refine ⟨fun pl' hpl' => ?_, by simp⟩
      obtain rfl := Option.some.inj hpl'
      exact hbit s.toCounts pl.elem
  | none =>
      obtain ⟨fresh, rfl⟩ : ∃ fresh, alloc = some fresh := by
        rw [canConnect, hfind] at hcan
        exact Option.isSome_iff_exists.1 hcan
      have hadd := pick_append hfind (setupConn s.toCounts
          { handle := handle, type := .le, profileStatus := fresh.profileStatus,
            a2dpPacketCount := fresh.a2dpPacketCount } .le (some .hid)).2
      dsimp only
      unfold findConnectionByHandle
      dsimp only
      rw [hadd, hhandle]
      by_cases hh : handle &&& 0xfff = handle
      · rw [if_pos (by simpa using hh)]
        refine ⟨fun pl' hpl' => ?_, fun _ => .inr hh, fun _ => rfl⟩
        obtain rfl := Option.some.inj hpl'
        exact hbit s.toCounts _
      · rw [if_neg (by simpa using hh)]
        refine ⟨fun pl' hpl' => (by cases hpl'), fun hsome => (by cases hsome), fun hor => ?_⟩
        rcases hor with hsome | heq
        · cases hsome
        · exact absurd heq hh

/-- A LE connection has no interval of HID when it is set up. -/
lemma noInterval_connected (h : ∀ c ∈ s.connHash, NoInterval c.toCounts)
    (hne : ∀ p ∈ first, .hidInterval ≠ p) :
    ∀ c ∈ (connected s handle type first alloc).connHash, NoInterval c.toCounts := by
  have hnew : ∀ (g : Counts) (c : Conn), NoInterval (setupConn g c type first).2.toCounts := by
    intro g c
    cases first with
    | none => exact ⟨rfl, rfl⟩
    | some p =>
        change NoInterval (Conn.add _ p).toCounts
        rw [Conn.add_toCounts]
        constructor
        · rw [cnt_add, if_neg (hne p rfl)]
          rfl
        · rw [bitmap_add, if_neg (fun hand => hne p rfl hand.1)]
  unfold connected
  cases hfind : findConnectionByHandle s handle with
  | some pl =>
      intro c hc
      rcases Place.mem_set.1 hc with hc | rfl
      · exact h c (findConnectionByHandle_list hfind ▸ Place.mem_set.2 (.inl hc))
      · exact hnew _ _
  | none =>
      cases alloc with
      | none => exact h
      | some fresh =>
          intro c hc
          rcases List.mem_append.1 hc with hc | hc
          · exact h c hc
          · obtain rfl := List.mem_singleton.1 hc
            exact hnew _ _

/-! ### A connection goes -/

lemma inOrder_disconnect_iff (h : InOrder s) (hs : Steady s)
    (hfind : findConnectionByHandle s handle = some pl) :
    InOrder (rtkHandleDisconnectCompleteEvt s 0 handle) ↔ DisconnectFits s handle pl.elem := by
  have hlist := findConnectionByHandle_list hfind
  have htied := h.tied hlist
  have hrest := h.rest_nonneg hlist
  have hsound := h.rest_sound hlist
  unfold InOrder rtkHandleDisconnectCompleteEvt DisconnectFits
  rw [if_neg (by decide), hfind]
  dsimp only
  cases pl.elem.type with
  | l2cap =>
      dsimp only
      rw [balanced_erase_iff hsound]
      refine erase_channels_iff htied hrest hs.interval fun d hd => ?_
      exact hs.channels d (List.mem_of_mem_filter hd)
  | sco =>
      dsimp only
      rw [balanced_erase_iff hsound]
      exact erase_remove_iff htied hrest
  | le =>
      dsimp only
      rw [balanced_erase_iff hsound]
      exact erase_remove_iff htied hrest

/-! ### Channels -/

lemma conReq_counts (s : Coex) (handle psm scid : BitVec 16) (out : Bool)
    (flags : Option UInt8) :
    (handleL2capConReq s handle psm scid out flags).toCounts = s.toCounts ∧
      (handleL2capConReq s handle psm scid out flags).connHash = s.connHash := by
  have hadd : ∀ (p : Profile) (dcid scid : BitVec 16),
      (listAllocateAdd s handle psm p dcid scid flags).toCounts = s.toCounts ∧
        (listAllocateAdd s handle psm p dcid scid flags).connHash = s.connHash := by
    intro p dcid scid
    unfold listAllocateAdd
    split <;> exact ⟨rfl, rfl⟩
  unfold handleL2capConReq
  cases psmToProfileIndex psm with
  | none => exact ⟨rfl, rfl⟩
  | some p =>
      dsimp only
      split_ifs
      · exact ⟨rfl, rfl⟩
      · exact hadd p 0 scid
      · exact ⟨rfl, rfl⟩
      · exact hadd p scid 0

/-- A use that is added to the connection with a handle. -/
lemma inOrder_add_iff (s : Coex) (handle : BitVec 16) (p : Profile) (h : InOrder s) :
    InOrder (updateConnectionByHandle s handle p true) ↔
      ((findConnectionByHandle s handle).isSome = true → s.cnt p ≠ 127) := by
  unfold InOrder updateConnectionByHandle
  cases hfind : findConnectionByHandle s handle with
  | none => exact iff_of_true h (fun hsome => by cases hsome)
  | some pl =>
      have hlist := findConnectionByHandle_list hfind
      have htied := h.tied hlist
      have hrest := h.rest_nonneg hlist p
      have hsum := htied.sum p
      dsimp only
      rw [balanced_set_iff (h.rest_sound hlist), updateProfileConnection, if_pos rfl,
        tied_add_iff h.total htied.conn (by omega)]
      exact ⟨fun hand _ => hand.1, fun hover => ⟨hover rfl, htied.sum⟩⟩

lemma inOrder_conRsp_iff (h : InOrder s) {dcid scid : BitVec 16} {out : Bool}
    {result : BitVec 8} :
    InOrder (handleL2capConRsp s handle dcid scid out result) ↔
      ∀ d ∈ rspChannel s handle scid out, result = 0 →
        (findConnectionByHandle s handle).isSome = true → s.cnt d.elem.profileIndex ≠ 127 := by
  unfold handleL2capConRsp
  cases hrsp : rspChannel s handle scid out with
  | none => exact iff_of_true h (fun d hd => by cases hd)
  | some d =>
      dsimp only
      by_cases hres : result = 0
      · rw [if_neg (not_not.2 hres)]
        generalize d.set _ = profileList
        refine (inOrder_add_iff { s with profileList := profileList } _ _ h).trans ?_
        constructor
        · intro hover d' hd' _
          obtain rfl := Option.some.inj hd'
          exact hover
        · intro hover
          exact hover d rfl hres
      · rw [if_pos hres]
        exact iff_of_true h (fun _ _ heq => absurd heq hres)

/-- A count that is negative stays so when another profile is taken back. -/
lemma cnt_removeConn_of_ne (hint : c.profileBitmap .hidInterval = false)
    (hp : p ≠ .hidInterval) (hne : q ≠ p) :
    (updateProfileConnection g c p false).2.cnt q = c.cnt q := by
  unfold updateProfileConnection
  rw [if_neg Bool.false_ne_true]
  split
  · rfl
  · dsimp only
    rw [Conn.remove_toCounts hint hp, cnt_remove, cnt_decr, if_neg hne]

lemma bitmap_removeConn_of_ne (hint : c.profileBitmap .hidInterval = false)
    (hp : p ≠ .hidInterval) (hne : q ≠ p) :
    (updateProfileConnection g c p false).2.profileBitmap q = c.profileBitmap q := by
  unfold updateProfileConnection
  rw [if_neg Bool.false_ne_true]
  split
  · rfl
  · dsimp only
    rw [Conn.remove_toCounts hint hp, bitmap_remove, if_neg (fun hand => hne hand.1)]

lemma inOrder_disconReq_iff (h : InOrder s) (hs : Steady s) {dcid scid : BitVec 16} {out : Bool} :
    InOrder (handleL2capDisconReq s handle dcid scid out) ↔
      ∀ d ∈ disconnChannelOf s handle dcid scid out, ∀ conn ∈ findConnectionByHandle s handle,
        s.cnt d.elem.profileIndex ≠ 0 → 0 < conn.elem.cnt d.elem.profileIndex := by
  unfold handleL2capDisconReq
  cases hdis : disconnChannelOf s handle dcid scid out with
  | none => exact iff_of_true h (fun d hd => by cases hd)
  | some d =>
      cases hfind : findConnectionByHandle s handle with
      | none => exact iff_of_true h (fun _ _ conn hconn => by cases hconn)
      | some pl =>
          have hlist := findConnectionByHandle_list hfind
          have htied := h.tied hlist
          have hint := (h.noInterval hs pl.elem (hlist ▸ Place.mem_list)).2
          have hd : d.elem.profileIndex ≠ .hidInterval :=
            (hs.channels _ (disconnChannelOf_mem hdis ▸ Place.mem_list)).1
          have hfirst := tied_remove_iff htied hint hd
          unfold InOrder
          dsimp only
          rw [balanced_set_iff (h.rest_sound hlist)]
          have hfits : (∀ d' ∈ some d, ∀ conn ∈ some pl,
              s.cnt d'.elem.profileIndex ≠ 0 → 0 < conn.elem.cnt d'.elem.profileIndex) ↔
              (s.cnt d.elem.profileIndex ≠ 0 → 0 < pl.elem.cnt d.elem.profileIndex) := by
            simp
          rw [hfits, ← hfirst]
          split
          · rename_i hsink
            have hne : Profile.a2dp ≠ .hidInterval := by decide
            rw [hsink.1] at hfirst ⊢
            rw [hsink.1] at hsink
            have hint' : (updateProfileConnection s.toCounts pl.elem .a2dp false).2.profileBitmap
                .hidInterval = false := by
              rw [bitmap_removeConn_of_ne hint hne (by decide)]
              exact hint
            constructor
            · intro hboth
              rw [hfirst]
              intro hzero
              -- otherwise the connection has a negative count, which stays
              by_contra hnone
              have hneg := hboth.conn.nonneg .a2dp
              rw [cnt_removeConn_of_ne hint' (by decide) (by decide)] at hneg
              unfold updateProfileConnection at hneg
              rw [if_neg Bool.false_ne_true,
                if_neg (fun heq => hzero (refcount_eq_zero.1 heq))] at hneg
              dsimp only at hneg
              have hnn := htied.conn.nonneg .a2dp
              have hlow : pl.elem.cnt .a2dp ≠ -128 := by omega
              rw [Conn.remove_toCounts hint hne, cnt_remove, cnt_decr, if_pos rfl,
                if_neg hlow] at hneg
              omega
            · intro hone
              refine (tied_remove_iff hone hint' (by decide)).2 fun _ => ?_
              exact (hone.conn.bit .sink).1 hsink.2
          · exact Iff.rfl

/-! ### Media data -/

/-- A bit that is set before the use is added makes no difference. -/
lemma Sound.add_of_bit (h : Sound g) {busy : Bool} :
    Counts.add { g with profileBitmap := update g.profileBitmap p true } p busy =
      g.add p busy := by
  unfold Counts.add
  dsimp only
  by_cases hzero : g.cnt p = 0
  · rw [if_pos (refcount_eq_zero.2 hzero), if_pos (refcount_eq_zero.2 hzero), update_idem]
  · rw [if_neg (fun heq => hzero (refcount_eq_zero.1 heq)),
      if_neg (fun heq => hzero (refcount_eq_zero.1 heq))]
    have hbit : g.profileBitmap p = true := by
      have := h.nonneg p
      exact (h.bit p).2 (by omega)
    rw [update_eq_self_iff.2 hbit.symm]

/-- Whether counts are in order has nothing to do with who is busy. -/
lemma tied_status_iff {x : Counts} {rest : Profile → ℤ} {status : Profile → Bool} :
    Tied g { x with profileStatus := status } rest ↔ Tied g x rest :=
  ⟨fun h => ⟨h.total, ⟨h.conn.nonneg, h.conn.bit⟩, h.sum⟩,
    fun h => ⟨h.total, ⟨h.conn.nonneg, h.conn.bit⟩, h.sum⟩⟩

lemma updateProfileState_toCounts (c : Conn) (p : Profile) (bitmap : Profile → Bool)
    (isBusy : Bool) : ∃ status, (updateProfileState bitmap c p isBusy).toCounts =
      { c.toCounts with profileStatus := status } := by
  unfold updateProfileState
  split
  · exact ⟨c.profileStatus, rfl⟩
  · exact ⟨update c.profileStatus p isBusy, rfl⟩

lemma tied_updateProfileState_iff {rest : Profile → ℤ} {bitmap : Profile → Bool} {isBusy : Bool} :
    Tied g (updateProfileState bitmap c p isBusy).toCounts rest ↔ Tied g c.toCounts rest := by
  obtain ⟨status, hstatus⟩ := updateProfileState_toCounts c p bitmap isBusy
  rw [hstatus]
  exact tied_status_iff

/-- Media data keeps the counts in order, if the sink that it may add does not overflow. -/
lemma tied_mediaPacket_iff {rest : Profile → ℤ} {out : Bool} (h : Tied g c.toCounts rest)
    (hrest : ∀ q, 0 ≤ rest q) :
    Tied (mediaPacket g c out).1 (mediaPacket g c out).2.toCounts rest ↔
      (c.profileStatus .a2dp = false → out = false → c.profileBitmap .sink = false →
        g.cnt .sink ≠ 127) := by
  unfold mediaPacket
  dsimp only
  by_cases hbusy : c.profileStatus .a2dp = true
  · rw [if_pos hbusy]
    exact iff_of_true h (fun hidle => absurd (hbusy.symm.trans hidle) (by decide))
  · rw [if_neg hbusy]
    cases out with
    | true =>
        rw [if_pos rfl]
        exact iff_of_true (tied_updateProfileState_iff.2 h) (fun _ hin => by cases hin)
    | false =>
        rw [if_neg Bool.false_ne_true]
        obtain ⟨status, hstatus⟩ := updateProfileState_toCounts c .a2dp g.profileBitmap true
        generalize updateProfileState g.profileBitmap c .a2dp true = d at hstatus
        have hd : Tied g d.toCounts rest := by
          rw [hstatus]
          exact tied_status_iff.2 h
        have hbit : d.profileBitmap = c.profileBitmap := by rw [hstatus]
        have hidle : c.profileStatus .a2dp = false := by simpa using hbusy
        refine tied_updateProfileState_iff.trans ?_
        cases hsink : c.profileBitmap .sink with
        | true =>
            rw [if_neg (by rw [hbit, hsink]; decide)]
            exact iff_of_true hd (fun _ _ hclear => by cases hclear)
        | false =>
            rw [if_pos (by rw [hbit, hsink]), updateProfileConnection, if_pos rfl]
            dsimp only
            have hsum := hd.sum .sink
            have hnn := hrest .sink
            rw [h.total.add_of_bit, Conn.add_toCounts, hd.conn.add_of_bit, ← Conn.add_toCounts,
              tied_add_iff h.total hd.conn (by omega)]
            exact ⟨fun hand _ _ _ => hand.1, fun hover => ⟨hover hidle rfl rfl, hd.sum⟩⟩

lemma inOrder_packetsCount_iff (h : InOrder s) {scid : BitVec 16} {out : Bool} :
    InOrder (packetsCount s handle scid out) ↔ MediaFits s handle scid out := by
  unfold packetsCount MediaFits
  cases hfind : findConnectionByHandle s handle with
  | none => exact iff_of_true h (fun pl hpl => by cases hpl)
  | some pl =>
      dsimp only
      cases hrsp : rspChannel s handle scid out with
      | none => exact iff_of_true h (fun _ _ desc hdesc => by cases hdesc)
      | some desc =>
          have hlist := findConnectionByHandle_list hfind
          have htied := h.tied hlist
          have hall : (∀ pl' ∈ some pl, ∀ desc' ∈ some desc, mediaConn pl'.elem desc'.elem →
              pl'.elem.profileStatus .a2dp = false → out = false →
                pl'.elem.profileBitmap .sink = false → s.cnt .sink ≠ 127) ↔
              (mediaConn pl.elem desc.elem → pl.elem.profileStatus .a2dp = false → out = false →
                pl.elem.profileBitmap .sink = false → s.cnt .sink ≠ 127) := by
            simp
          rw [hall]
          dsimp only
          by_cases hmedia : mediaConn pl.elem desc.elem
          · rw [if_pos hmedia]
            unfold InOrder
            dsimp only
            rw [balanced_set_iff (h.rest_sound hlist)]
            exact (tied_mediaPacket_iff htied (h.rest_nonneg hlist)).trans (by simp [hmedia])
          · rw [if_neg hmedia]
            exact iff_of_true h (fun hm => absurd hm hmedia)

/-! ### Whole runs -/

lemma inOrder_timeout (h : InOrder s) (i : ℕ) : InOrder (coexStep s (.a2dpTimeout i)).1 := by
  by_cases hi : i < s.connHash.length
  · obtain ⟨before, c, after, heq, -, hmodify⟩ :=
      List.exists_of_modify (countA2dpPacketTimeout s.toCounts) hi
    have hlist : (Place.mk before c after).list = s.connHash := heq.symm
    have htied : Tied s.toCounts c.toCounts _ := h.tied hlist
    have hset : InOrder { s with connHash :=
        (Place.mk before c after).set (countA2dpPacketTimeout s.toCounts c) } := by
      refine (balanced_set_iff (h.rest_sound hlist)).2 ?_
      unfold countA2dpPacketTimeout
      dsimp only
      split
      · split
        · exact tied_updateProfileState_iff.2 (tied_updateProfileState_iff.2 htied)
        · exact tied_updateProfileState_iff.2 htied
      · exact htied
    unfold coexStep
    dsimp only
    rw [hmodify]
    exact hset
  · unfold coexStep
    dsimp only
    rw [List.modify_eq_self (Nat.le_of_not_lt hi)]
    exact h

/-- An event keeps the counts in order exactly if it fits. -/
lemma inOrder_step_iff (e : Event) (hs : Steady s) (h : InOrder s) :
    InOrder (coexStep s e).1 ↔ Fits s e := by
  cases e with
  | connectionComplete status handle linkType alloc =>
      unfold coexStep rtkHandleConnectionCompleteEvt Fits
      dsimp only
      by_cases hstatus : status = 0
      · rw [if_neg (not_not.2 hstatus)]
        simp only [hstatus, true_implies]
        by_cases hcan : canConnect s handle alloc = true
        · by_cases hlink : linkType = 0 ∨ linkType = 2
          · rw [if_pos hlink, if_pos hlink, inOrder_connected_iff h hcan]
            simp [hcan]
          · rw [if_neg hlink, if_neg hlink, inOrder_connected_iff h hcan]
            simp [hcan]
        · have hnone : ∀ (type : ConnType) (first : Option Profile),
              connected s handle type first alloc = s := by
            intro type first
            rw [canConnect, Bool.or_eq_true, not_or] at hcan
            unfold connected
            rw [Option.not_isSome_iff_eq_none.1 hcan.1, Option.not_isSome_iff_eq_none.1 hcan.2]
          rw [hnone, hnone, ite_self]
          exact iff_of_true h (fun hc => absurd hc hcan)
      · rw [if_pos hstatus]
        exact iff_of_true h (fun heq => absurd heq hstatus)
  | leConnectionComplete status handle interval alloc =>
      unfold coexStep rtkHandleLeConnectionCompleteEvt Fits
      dsimp only
      by_cases hstatus : status = 0
      · rw [if_neg (not_not.2 hstatus)]
        by_cases hcan : canConnect s handle alloc = true
        · rw [if_pos hcan]
          obtain ⟨hhid, hfound⟩ := find_connected (s := s) hcan
          have hzero : (connected s handle .le (some .hid) alloc).cnt .hidInterval = 0 :=
            interval_connected hs.interval (by decide)
          rw [inOrder_hid_iff hzero (noInterval_connected (h.noInterval hs) (by decide)),
            inOrder_connected_iff h hcan]
          simp only [hstatus, hcan, true_implies]
          refine and_congr_right fun _ => ?_
          rw [← hfound]
          constructor
          · intro hall hsome
            obtain ⟨pl, hpl⟩ := Option.isSome_iff_exists.1 hsome
            exact hall pl hpl (hhid pl hpl)
          · intro hlt pl hpl _
            exact hlt (Option.isSome_iff_exists.2 ⟨pl, hpl⟩)
        · rw [if_neg hcan]
          exact iff_of_true h (fun _ hc => absurd hc hcan)
      · rw [if_pos hstatus]
        exact iff_of_true h (fun heq => absurd heq hstatus)
  | intervalChange handle interval =>
      refine (inOrder_hid_iff hs.interval (h.noInterval hs)).trans ?_
      exact ⟨fun hand => hand.2, fun hfits => ⟨h, hfits⟩⟩
  | disconnectComplete status handle =>
      unfold coexStep Fits
      dsimp only
      by_cases hstatus : status = 0
      · subst hstatus
        simp only [true_implies]
        cases hfind : findConnectionByHandle s handle with
        | none =>
            have hsame : rtkHandleDisconnectCompleteEvt s 0 handle = s := by
              unfold rtkHandleDisconnectCompleteEvt
              rw [hfind]
              exact ite_self _
            rw [hsame]
            exact iff_of_true h (fun pl hpl => by cases hpl)
        | some pl =>
            rw [inOrder_disconnect_iff h hs hfind]
            simp
      · have hsame : rtkHandleDisconnectCompleteEvt s status handle = s := by
          rw [rtkHandleDisconnectCompleteEvt, if_pos hstatus]
        rw [hsame]
        exact iff_of_true h (fun heq => absurd heq hstatus)
  | l2Sig handle out cmds node flags =>
      unfold coexStep Fits
      cases cmds with
      | nil => exact iff_of_true h (fun cmd hcmd => by cases hcmd)
      | cons cmd cmds =>
          have hhead : (∀ cmd' ∈ (cmd :: cmds).head?, node = true →
              L2Fits s (handle &&& 0xfff) out cmd') ↔
              (node = true → L2Fits s (handle &&& 0xfff) out cmd) := by
            simp
          refine Iff.trans ?_ hhead.symm
          dsimp only
          cases node with
          | false => exact iff_of_true h (fun heq => by cases heq)
          | true =>
              rw [if_pos rfl]
              simp only [true_implies]
              cases cmd with
              | connReq psm scid =>
                  refine iff_of_true ?_ trivial
                  have hcounts := conReq_counts s (handle &&& 0xfff) psm scid out flags
                  unfold InOrder rtlProcessL2Sig
                  rw [hcounts.1, hcounts.2]
                  exact h
              | connRsp dcid scid result => exact inOrder_conRsp_iff h
              | disconnReq dcid scid => exact inOrder_disconReq_iff h hs
              | other => exact iff_of_true h trivial
  | l2Data handle channelId out =>
      unfold coexStep Fits
      dsimp only
      by_cases hany : (s.profileBitmap .a2dp || s.profileBitmap .pan) = true
      · rw [if_pos hany, inOrder_packetsCount_iff h]
        exact ⟨fun hfits _ => hfits, fun hfits => hfits hany⟩
      · rw [if_neg hany]
        exact iff_of_true h (fun heq => absurd heq hany)
  | a2dpTimeout i => exact iff_of_true (inOrder_timeout h i) trivial

lemma inOrder_init : InOrder {} := by
  refine ⟨sound_zero, fun c hc => ?_, fun p => rfl⟩
  cases hc

/-- **The counts of profiles.**  In all states of a run the counts over all connections are the
sums of those of each, none is negative, and each bit is set exactly if its count is positive:
that is so exactly if each event fits the state that it meets. -/
theorem coex_balanced_iff (es : List Event) :
    (∀ pre, pre <+: es → InOrder (final coexStep {} pre)) ↔ Along coexStep Fits {} es :=
  forall_prefix_iff_along (J := Steady) (I := InOrder) (fun _ e hs => hs.step e)
    (fun _ e hs h => inOrder_step_iff e hs h) ⟨rfl, fun d hd => by cases hd⟩ inOrder_init

/-- A LE connection with a short interval: the connection counts the interval, the tracker does
not. -/
theorem coex_short_interval :
    (final coexStep {} [.leConnectionComplete 0 1 24 (some ⟨fun _ => false, 0⟩)]).cnt
        .hidInterval = 0 ∧
      ((final coexStep {} [.leConnectionComplete 0 1 24 (some ⟨fun _ => false, 0⟩)]).connHash.map
        (·.cnt .hidInterval)).sum = 1 ∧
      ¬ InOrder (final coexStep {}
        [.leConnectionComplete 0 1 24 (some ⟨fun _ => false, 0⟩)]) := by
  refine ⟨by decide, by decide, fun h => ?_⟩
  exact absurd (h.sum .hidInterval) (by decide)

end Rtl8723du.Bt
