import Mathlib.Data.List.Count
import Rtl8723du.Bt.RefcountRun

/-!
# The channels of a link

What the two sides of a link agree on by their signalling: the channels that are open or being
opened, each with the identifiers that the sides have given it.  The tracker sees the commands
pass by, and its list of profiles is to be the list of these channels; `coex_follows` says which
packets keep it so.

A packet can have several commands, and a response leaves a channel as it is (the request is
pending, or has been answered before), opens it or refuses it.
-/

namespace Rtl8723du.Bt

open Lib Lib.Machine Function

/-! ### The channels that the sides agree on -/

/-- A channel that is open or being opened, with our identifier and that of the other side, if
it has been given. -/
structure Channel where
  handle : BitVec 16
  psm : BitVec 16
  scid : Option (BitVec 16) := none
  dcid : Option (BitVec 16) := none
  isOpen : Bool := false
deriving DecidableEq

/-- The identifier that a side has given. -/
def Channel.cid (c : Channel) (ours : Bool) : Option (BitVec 16) := if ours then c.scid else c.dcid

/-- A side gives its identifier. -/
def Channel.setCid (c : Channel) (ours : Bool) (cid : BitVec 16) : Channel :=
  if ours then { c with scid := some cid } else { c with dcid := some cid }

/-- A channel of a link by the identifier of a side. -/
def Channel.has (c : Channel) (handle : BitVec 16) (ours : Bool) (cid : BitVec 16) : Bool :=
  c.handle == handle && c.cid ours == some cid

/-- A side asks for a channel, unless it has one with the identifier. -/
def requested (chs : List Channel) (handle psm scid : BitVec 16) (out : Bool) : List Channel :=
  if (psmToProfileIndex psm).isNone || chs.any (·.has handle out scid) then chs
  else chs ++ [({ handle := handle, psm := psm } : Channel).setCid out scid]

/-- The other side's answer: it opens the channel (0), takes its time (1) or refuses. -/
def answered (chs : List Channel) (handle dcid scid result : BitVec 16) (out : Bool) :
    List Channel :=
  match pick (·.has handle (!out) scid) chs with
  | none => chs
  | some pl =>
      if pl.elem.isOpen then chs
      else if result = 0 then pl.set { pl.elem.setCid out dcid with isOpen := true }
      else if result = 1 then chs
      else pl.erase

/-- A side closes an open channel. -/
def closed (chs : List Channel) (handle dcid scid : BitVec 16) (out : Bool) : List Channel :=
  match pick (fun c => c.isOpen && c.has handle out scid && c.has handle (!out) dcid) chs with
  | none => chs
  | some pl => pl.erase

/-- One command. -/
def chanCmd (handle : BitVec 16) (out : Bool) (chs : List Channel) : L2Cmd → List Channel
  | .connReq psm scid => requested chs handle psm scid out
  | .connRsp dcid scid result => answered chs handle dcid scid result out
  | .disconnReq dcid scid => closed chs handle dcid scid out
  | .other => chs

/-- A packet of the signalling channel as the driver gets it: from a side, with commands, and
what there is to handle it with. -/
structure L2Pdu where
  handle : BitVec 16
  out : Bool
  cmds : List L2Cmd
  node : Bool
  alloc : Option UInt8

/-- All the commands of a packet. -/
def chanPdu (chs : List Channel) (pdu : L2Pdu) : List Channel :=
  pdu.cmds.foldl (chanCmd (pdu.handle &&& 0xfff) pdu.out) chs

/-- The packet for the tracker. -/
def L2Pdu.event (pdu : L2Pdu) : Event := .l2Sig pdu.handle pdu.out pdu.cmds pdu.node pdu.alloc

/-- The tracker and the channels. -/
def trackStep (t : Coex × List Channel) (pdu : L2Pdu) : (Coex × List Channel) × List Unit :=
  (((coexStep t.1 pdu.event).1, chanPdu t.2 pdu), [])

/-! ### What the tracker is to have -/

/-- The link, the service and the identifiers, with 0 for one that is not known. -/
def ProfInfo.ids (d : ProfInfo) : BitVec 16 × BitVec 16 × BitVec 16 × BitVec 16 :=
  (d.handle, d.psm, d.scid, d.dcid)

/-- The same of a channel. -/
def Channel.ids (c : Channel) : BitVec 16 × BitVec 16 × BitVec 16 × BitVec 16 :=
  (c.handle, c.psm, c.scid.getD 0, c.dcid.getD 0)

/-- An open channel with a profile. -/
def Channel.opened (p : Profile) (c : Channel) : Bool :=
  c.isOpen && psmToProfileIndex c.psm == some p

/-- An open channel of a link with a profile. -/
def Channel.openedOn (handle : BitVec 16) (p : Profile) (c : Channel) : Bool :=
  c.handle == handle &&& 0xfff && c.opened p

/-- The count of a profile on the connection with a handle. -/
def connCnt (s : Coex) (handle : BitVec 16) (p : Profile) : Option ℤ :=
  (findConnectionByHandle s handle).map (·.elem.cnt p)

/-- The list has an entry for each channel, with its identifiers, and no other, and each open
channel is counted once, over all connections and on its own. -/
structure Follows (s₀ s : Coex) (chs : List Channel) : Prop where
  entries : s.profileList.map ProfInfo.ids = chs.map Channel.ids
  total : ∀ p, s.cnt p = s₀.cnt p + chs.countP (·.opened p)
  conn : ∀ handle p,
    connCnt s handle p = (connCnt s₀ handle p).map (· + (chs.countP (·.openedOn handle p) : ℤ))

/-- A tracker before there are channels: no count is negative, no media data has come in, and an
interval of HID is of a HID connection. -/
structure Start (s₀ : Coex) : Prop where
  channels : s₀.profileList = []
  nonneg : ∀ p, 0 ≤ s₀.cnt p
  connNonneg : ∀ c ∈ s₀.connHash, ∀ p, 0 ≤ c.cnt p
  sink : ∀ c ∈ s₀.connHash, c.profileBitmap .sink = false
  interval : ∀ c ∈ s₀.connHash, c.profileBitmap .hidInterval = true → 0 < c.cnt .hid

/-! ### When a packet fits -/

/-- No channel of the link is taken for one with the identifier because its own is not known. -/
def NotMistaken (chs : List Channel) (handle : BitVec 16) (ours : Bool) (cid : BitVec 16) : Prop :=
  cid = 0 → ∀ c ∈ chs, c.handle = handle → (c.cid ours).isSome = true

/-- What the first command must be for the tracker to make of it what the sides do.  A request
is recorded if there is memory.  A response to a channel that is being opened accepts it, while
there is a connection and the counts have room, or leaves it pending; one to an open channel
does not look like acceptance.  A disconnection is not of a channel that is being opened. -/
def CmdFits (s : Coex) (chs : List Channel) (handle : BitVec 16) (out : Bool)
    (alloc : Option UInt8) : L2Cmd → Prop
  | .connReq psm scid =>
      (psmToProfileIndex psm).isSome = true →
        NotMistaken chs handle out scid ∧ (alloc.isSome = true ∨ chs.any (·.has handle out scid))
  | .connRsp _ scid result =>
      NotMistaken chs handle (!out) scid ∧
        ∀ pl ∈ pick (·.has handle (!out) scid) chs,
          if pl.elem.isOpen = true then result.setWidth 8 ≠ (0 : BitVec 8)
          else result = 1 ∨ result = 0 ∧ ∃ conn, findConnectionByHandle s handle = some conn ∧
            ∀ p ∈ psmToProfileIndex pl.elem.psm, s.cnt p ≠ 127 ∧ conn.elem.cnt p ≠ 127
  | .disconnReq dcid scid =>
      ∀ c ∈ chs, c.handle = handle → (c.cid out).getD 0 = scid → (c.cid (!out)).getD 0 = dcid →
        c.isOpen = true
  | .other => True

/-- A packet is queued, its first command fits, and the others change nothing. -/
def PduFits (t : Coex × List Channel) (pdu : L2Pdu) : Prop :=
  match pdu.cmds with
  | [] => True
  | cmd :: cmds =>
      let handle := pdu.handle &&& 0xfff
      let chs := chanCmd handle pdu.out t.2 cmd
      cmds.foldl (chanCmd handle pdu.out) chs = chs ∧
        if pdu.node = true then CmdFits t.1 t.2 handle pdu.out pdu.alloc cmd else chs = t.2

/-! ### The list and the channels -/

variable {s s₀ s' : Coex} {chs chs' : List Channel} {handle psm scid dcid : BitVec 16}
  {out ours : Bool} {c c' : Conn} {p q : Profile}

/-- The connection with a handle. -/
def connAt (s : Coex) (handle : BitVec 16) : Option Conn :=
  s.connHash.find? fun desc => handle &&& 0xfff == desc.handle

lemma map_elem_findConnection : (findConnectionByHandle s handle).map Place.elem =
    connAt s handle := map_elem_pick

lemma connCnt_eq : connCnt s handle p = (connAt s handle).map (·.cnt p) := by
  rw [connCnt, ← map_elem_findConnection, Option.map_map]
  rfl

/-- An entry and its channel. -/
structure Entry (d : ProfInfo) (c : Channel) : Prop where
  ids : d.ids = c.ids
  index : psmToProfileIndex d.psm = some d.profileIndex
  known : c.isOpen = true → ∀ ours, (c.cid ours).isSome = true

/-- The identifier that a side has given, in an entry. -/
def ProfInfo.cid (d : ProfInfo) (ours : Bool) : BitVec 16 := if ours then d.scid else d.dcid

lemma Entry.cid {d : ProfInfo} {c : Channel} (h : Entry d c) :
    d.cid ours = (c.cid ours).getD 0 := by
  have hids := h.ids
  simp only [ProfInfo.ids, Channel.ids, Prod.mk.injEq] at hids
  cases ours
  · exact hids.2.2.2
  · exact hids.2.2.1

lemma Entry.handle_eq {d : ProfInfo} {c : Channel} (h : Entry d c) : d.handle = c.handle :=
  congrArg Prod.fst h.ids

lemma Entry.psm_eq {d : ProfInfo} {c : Channel} (h : Entry d c) : d.psm = c.psm :=
  congrArg (·.2.1) h.ids

/-- A side gives its identifier, in an entry. -/
def ProfInfo.setCid (d : ProfInfo) (ours : Bool) (cid : BitVec 16) : ProfInfo :=
  if ours then { d with scid := cid } else { d with dcid := cid }

/-- The entry of a handle and an identifier, as the tracker looks for it. -/
def ProfInfo.has (d : ProfInfo) (handle : BitVec 16) (ours : Bool) (cid : BitVec 16) : Bool :=
  handle &&& 0xfff == d.handle && cid == d.cid ours

lemma rspChannel_eq : rspChannel s handle scid out = pick (·.has handle (!out) scid)
    s.profileList := by
  cases out <;> rfl

/-- The tracker finds the channel by an identifier that is not mistaken. -/
lemma Entry.has {o : Bool} {b : BitVec 16} {d : ProfInfo} {c : Channel} (h : Entry d c)
    (hm : handle &&& 0xfff = handle)
    (hcid : c.handle = handle → b = 0 → (c.cid o).isSome = true) :
    d.has handle o b = c.has handle o b := by
  rw [ProfInfo.has, Channel.has, hm, h.handle_eq, h.cid, Bool.beq_comm]
  by_cases hc : c.handle = handle
  · have hside : (b == (c.cid o).getD 0) = (c.cid o == some b) := by
      cases hknown : c.cid o with
      | some cid => simp [Bool.beq_comm]
      | none =>
          have hne : b ≠ 0 := fun hzero => by simpa [hknown] using hcid hc hzero
          rw [Option.getD_none, beq_eq_false_iff_ne.2 hne]
          rfl
    rw [hside]
  · have hno : (c.handle == handle) = false := by simpa using hc
    rw [hno, Bool.false_and, Bool.false_and]

/-- What the bits that a disconnection looks at are. -/
def Conn.marks (c : Conn) : Bool × Bool := (c.profileBitmap .sink, c.profileBitmap .hidInterval)

/-- The tracker follows the channels, with what else is the same as when it started. -/
structure Linked (s₀ s : Coex) (chs : List Channel) : Prop where
  entries : List.Forall₂ Entry s.profileList chs
  total : ∀ p, s.cnt p = s₀.cnt p + chs.countP (·.opened p)
  conn : ∀ handle p,
    connCnt s handle p = (connCnt s₀ handle p).map (· + (chs.countP (·.openedOn handle p) : ℤ))
  marks : ∀ handle, (connAt s handle).map Conn.marks = (connAt s₀ handle).map Conn.marks
  link : ∀ c ∈ chs, c.isOpen = true →
    c.handle &&& 0xfff = c.handle ∧ (connAt s₀ c.handle).isSome = true

lemma map_ids_eq {l : List ProfInfo} (h : List.Forall₂ Entry l chs) :
    l.map ProfInfo.ids = chs.map Channel.ids := by
  induction h with
  | nil => rfl
  | cons hentry _ ih => rw [List.map_cons, List.map_cons, hentry.ids, ih]

lemma Linked.follows (h : Linked s₀ s chs) : Follows s₀ s chs where
  entries := map_ids_eq h.entries
  total := h.total
  conn := h.conn

lemma linked_start (h : Start s₀) : Linked s₀ s₀ [] where
  entries := h.channels ▸ .nil
  total p := (add_zero _).symm
  conn handle p := by simp
  marks handle := rfl
  link := by simp

/-! ### A channel more, a channel less -/

/-- A connection that is replaced by another one with its handle. -/
lemma connAt_set {conn : Place Conn} (hfind : findConnectionByHandle s handle = some conn)
    (hset : s'.connHash = conn.set c') (hc' : c'.handle = conn.elem.handle) (h' : BitVec 16) :
    connAt s' h' = if h' &&& 0xfff = handle &&& 0xfff then some c' else connAt s h' := by
  obtain ⟨hlist, helem, -⟩ := pick_eq_some hfind
  have hhandle : handle &&& 0xfff = conn.elem.handle := by simpa using helem
  by_cases heq : h' &&& 0xfff = handle &&& 0xfff
  · rw [if_pos heq, connAt, heq, ← map_elem_pick, hset, pick_set hfind
      (beq_iff_eq.2 (hhandle.trans hc'.symm))]
    rfl
  · rw [if_neg heq, connAt, connAt, hset, ← hlist, find?_set_of_neg]
    · simpa [← hhandle] using heq
    · simpa [hc', ← hhandle] using heq

/-- The counts of a profile go up or down with the channels. -/
lemma Linked.update (h : Linked s₀ s chs) {conn : Place Conn}
    (hfind : findConnectionByHandle s handle = some conn)
    (hentries : List.Forall₂ Entry s'.profileList chs') (hset : s'.connHash = conn.set c')
    (hc' : c'.handle = conn.elem.handle) (hmarks : c'.marks = conn.elem.marks) {δ : ℤ}
    (htotal : ∀ q, s'.cnt q = s.cnt q + if q = p then δ else 0)
    (hconn : ∀ q, c'.cnt q = conn.elem.cnt q + if q = p then δ else 0)
    (hcount : ∀ q, (chs'.countP (·.opened q) : ℤ) =
      chs.countP (·.opened q) + if q = p then δ else 0)
    (hcountOn : ∀ h' q, (chs'.countP (·.openedOn h' q) : ℤ) =
      chs.countP (·.openedOn h' q) + if h' &&& 0xfff = handle &&& 0xfff ∧ q = p then δ else 0)
    (hlink : ∀ c ∈ chs', c.isOpen = true →
      c.handle &&& 0xfff = c.handle ∧ (connAt s₀ c.handle).isSome = true) :
    Linked s₀ s' chs' := by
  have hold : ∀ h', h' &&& 0xfff = handle &&& 0xfff → connAt s h' = some conn.elem := by
    intro h' heq
    rw [connAt, heq]
    exact map_elem_findConnection.symm.trans (by rw [hfind]; rfl)
  refine ⟨hentries, fun q => ?_, fun h' q => ?_, fun h' => ?_, hlink⟩
  · rw [htotal, h.total, hcount]
    ring
  · have hbase := h.conn h' q
    rw [connCnt_eq, connCnt_eq] at hbase ⊢
    rw [connAt_set hfind hset hc']
    by_cases heq : h' &&& 0xfff = handle &&& 0xfff
    · rw [hold h' heq] at hbase
      cases hstart : connAt s₀ h' with
      | none => simp [hstart] at hbase
      | some c₀ =>
          have hval : conn.elem.cnt q = c₀.cnt q + chs.countP (·.openedOn h' q) := by
            simpa [hstart] using hbase
          rw [if_pos heq, Option.map_some, Option.map_some, hconn, hcountOn, hval]
          simp only [heq, true_and]
          congr 1
          ring
    · rw [if_neg heq, hbase]
      refine congrArg (Option.map · _) (funext fun n => ?_)
      rw [hcountOn, if_neg (fun hand => heq hand.1), add_zero]
  · rw [connAt_set hfind hset hc', ← h.marks h']
    by_cases heq : h' &&& 0xfff = handle &&& 0xfff
    · rw [if_pos heq, hold h' heq, Option.map_some, Option.map_some, hmarks]
    · rw [if_neg heq]

/-! ### Requests -/

lemma handleL2capConReq_eq {i : Profile} {flags : Option UInt8}
    (hidx : psmToProfileIndex psm = some i) :
    handleL2capConReq s handle psm scid out flags =
      if (pick (·.has handle out scid) s.profileList).isSome then s
      else listAllocateAdd s handle psm i (if out then 0 else scid) (if out then scid else 0)
        flags := by
  unfold handleL2capConReq
  rw [hidx]
  cases out <;> rfl

lemma any_eq_isSome_pick {α : Type*} (f : α → Bool) (l : List α) :
    l.any f = (pick f l).isSome := by
  cases hpick : pick f l with
  | none => simpa using pick_eq_none.1 hpick
  | some pl =>
      obtain ⟨rfl, helem, -⟩ := pick_eq_some hpick
      exact List.any_eq_true.2 ⟨pl.elem, Place.mem_list, helem⟩

/-- The tracker finds an entry exactly if there is the channel. -/
lemma Linked.pick_has (h : Linked s₀ s chs) (hm : handle &&& 0xfff = handle)
    (hcid : NotMistaken chs handle ours scid) :
    (pick (·.has handle ours scid) s.profileList = none ∧
        pick (·.has handle ours scid) chs = none) ∨
      ∃ pl pm, pick (·.has handle ours scid) s.profileList = some pl ∧
        pick (·.has handle ours scid) chs = some pm ∧ Entry pl.elem pm.elem ∧
        List.Forall₂ Entry pl.before pm.before ∧ List.Forall₂ Entry pl.after pm.after :=
  pick_forall₂ h.entries fun _ c hc hentry => hentry.has hm fun hhandle hzero =>
    hcid hzero c hc hhandle

/-- A channel that is not open counts nowhere. -/
lemma countP_append_closed {f : Channel → Bool} {c : Channel} (hc : f c = false) :
    (chs ++ [c]).countP f = chs.countP f := by
  simp [hc]

lemma setCid_isOpen {c : Channel} {cid : BitVec 16} :
    (c.setCid ours cid).isOpen = c.isOpen := by
  rw [Channel.setCid]
  split <;> rfl

lemma Linked.conReq (h : Linked s₀ s chs) (hm : handle &&& 0xfff = handle) {flags : Option UInt8}
    (hfits : CmdFits s chs handle out flags (.connReq psm scid)) :
    Linked s₀ (handleL2capConReq s handle psm scid out flags)
      (requested chs handle psm scid out) := by
  rw [requested]
  cases hidx : psmToProfileIndex psm with
  | none =>
      unfold handleL2capConReq
      rw [hidx]
      exact h
  | some i =>
      obtain ⟨hcid, hroom⟩ := hfits (by rw [hidx]; rfl)
      rw [handleL2capConReq_eq hidx, any_eq_isSome_pick]
      rw [any_eq_isSome_pick] at hroom
      rcases h.pick_has hm hcid with ⟨hp, hq⟩ | ⟨pl, pm, hp, hq, -⟩
      · rw [hq] at hroom
        simp only [hp, hq, Option.isSome_none, Option.isNone_some, Bool.or_self,
          Bool.false_eq_true, if_false]
        cases flags with
        | none => simp at hroom
        | some flags =>
            have hopen : ∀ f : Channel → Bool, (∀ c, c.isOpen = false → f c = false) →
                f (({ handle := handle, psm := psm } : Channel).setCid out scid) = false :=
              fun f hf => hf _ setCid_isOpen
            refine ⟨List.rel_append h.entries (.cons ⟨?_, hidx, ?_⟩ .nil), fun p => ?_,
              fun h' p => ?_, h.marks, fun c hc hcopen => ?_⟩
            · cases out <;> rfl
            · intro hset
              rw [setCid_isOpen] at hset
              cases hset
            · rw [countP_append_closed (hopen _ fun c hc => by simp [Channel.opened, hc])]
              exact h.total p
            · rw [countP_append_closed (hopen _ fun c hc => by
                simp [Channel.openedOn, Channel.opened, hc])]
              exact h.conn h' p
            · rcases List.mem_append.1 hc with hc | hc
              · exact h.link c hc hcopen
              · obtain rfl := List.mem_singleton.1 hc
                rw [setCid_isOpen] at hcopen
                cases hcopen
      · rw [hp, hq]
        exact h

/-! ### Responses -/

lemma Linked.isSome_connAt (h : Linked s₀ s chs) (h' : BitVec 16) :
    (connAt s h').isSome = (connAt s₀ h').isSome := by
  have hmap := congrArg Option.isSome (h.marks h')
  rwa [Option.isSome_map, Option.isSome_map] at hmap

lemma connAt_of_find {conn : Place Conn} (hfind : findConnectionByHandle s handle = some conn) :
    connAt s handle = some conn.elem := by
  rw [← map_elem_findConnection, hfind]
  rfl

/-- The channel of an entry that is found. -/
lemma opened_eq {d : ProfInfo} {c : Channel} (h : Entry d c) (ho : c.isOpen = true) :
    c.opened q = decide (q = d.profileIndex) := by
  rw [Channel.opened, ho, ← h.psm_eq, h.index, Bool.true_and]
  by_cases hq : q = d.profileIndex
  · simp [hq]
  · have hne : d.profileIndex ≠ q := fun heq => hq heq.symm
    simp [hq, hne]

lemma marks_add (hp : p ≠ .hidInterval ∧ p ≠ .sink) : (c.add p).marks = c.marks := by
  unfold Conn.marks
  rw [Conn.add_toCounts, bitmap_add, bitmap_add, if_neg (fun hand => hp.2 hand.1.symm),
    if_neg (fun hand => hp.1 hand.1.symm)]

lemma resetPacketCount_handle : (c.resetPacketCount p).handle = c.handle := by
  rw [Conn.resetPacketCount]
  split <;> rfl

lemma add_handle : (c.add p).handle = c.handle := by
  rw [Conn.add]
  dsimp only
  split
  · exact resetPacketCount_handle
  · rfl

lemma cnt_add_of_ne {busy : Bool} {x : Counts} (hp : x.cnt p ≠ 127) (q : Profile) :
    (x.add p busy).cnt q = x.cnt q + if q = p then 1 else 0 := by
  rw [cnt_add, if_neg hp]
  by_cases hq : q = p
  · rw [if_pos hq, if_pos hq, hq]
  · rw [if_neg hq, if_neg hq, add_zero]

/-- The counts of channels when one is opened or closed. -/
lemma countP_delta {n : ℕ} {m : ℤ} {b b' : Bool}
    (h : (n : ℤ) = m + (if b then 1 else 0) - (if b' then 1 else 0)) (hb' : b' = false) :
    (n : ℤ) = m + if b = true then 1 else 0 := by
  rw [h, hb']
  simp

lemma Linked.accept (h : Linked s₀ s chs) (hm : handle &&& 0xfff = handle) {pl : Place ProfInfo}
    {pm : Place Channel} (hq : pick (·.has handle (!out) scid) chs = some pm)
    (hentry : Entry pl.elem pm.elem) (hbefore : List.Forall₂ Entry pl.before pm.before)
    (hafter : List.Forall₂ Entry pl.after pm.after) (hopen : pm.elem.isOpen = false)
    {conn : Place Conn} (hfind : findConnectionByHandle s handle = some conn)
    (hroom : s.cnt pl.elem.profileIndex ≠ 127 ∧ conn.elem.cnt pl.elem.profileIndex ≠ 127) :
    Linked s₀
      (updateConnectionByHandle
        { s with profileList := pl.set (pl.elem.setCid out dcid) } handle pl.elem.profileIndex true)
      (pm.set { pm.elem.setCid out dcid with isOpen := true }) := by
  obtain ⟨hlist, hhas, -⟩ := pick_eq_some hq
  obtain ⟨hhandle, hcid⟩ : pm.elem.handle = handle ∧ pm.elem.cid (!out) = some scid := by
    simpa [Channel.has] using hhas
  have hne := psmToProfileIndex_ne hentry.index
  have hnew : Entry (pl.elem.setCid out dcid)
      { pm.elem.setCid out dcid with isOpen := true } := by
    have hids := hentry.ids
    simp only [ProfInfo.ids, Channel.ids, Prod.mk.injEq] at hids
    refine ⟨?_, ?_, fun _ ours => ?_⟩
    · cases out <;> simp [ProfInfo.ids, Channel.ids, ProfInfo.setCid, Channel.setCid, hids]
    · cases out <;> exact hentry.index
    · cases out <;> cases ours <;> simp_all [Channel.cid, Channel.setCid]
  have hnewHandle : (pm.elem.setCid out dcid).handle = handle := by
    rw [← hhandle]
    rw [Channel.setCid]
    split <;> rfl
  have hnewIndex : (pl.elem.setCid out dcid).profileIndex = pl.elem.profileIndex := by
    rw [ProfInfo.setCid]
    split <;> rfl
  have hopened := fun q => (opened_eq (q := q) hnew rfl).trans (by rw [hnewIndex])
  have hclosed : ∀ q, pm.elem.opened q = false := fun q => by simp [Channel.opened, hopen]
  rw [updateConnectionByHandle]
  have hfind' : findConnectionByHandle
      { s with profileList := pl.set (pl.elem.setCid out dcid) } handle = some conn := hfind
  rw [hfind']
  refine h.update (δ := 1) (p := pl.elem.profileIndex) hfind
    (List.rel_append hbefore (.cons hnew hafter)) rfl add_handle (marks_add hne)
    (cnt_add_of_ne hroom.1) (fun q => ?_) (fun q => ?_) (fun h' q => ?_) (fun c hc ho => ?_)
  · exact cnt_add_of_ne hroom.2 q
  · rw [countP_delta (Place.countP_set _ pm _) (hclosed q), hlist, hopened]
    simp
  · rw [countP_delta (Place.countP_set _ pm _) (by simp [Channel.openedOn, hclosed]), hlist,
      Channel.openedOn, hopened]
    have hside : (({ pm.elem.setCid out dcid with isOpen := true } : Channel).handle ==
        h' &&& 0xfff) = decide (h' &&& 0xfff = handle &&& 0xfff) := by
      rw [hm, ← hnewHandle, Bool.beq_comm]
      exact Bool.beq_eq_decide_eq _ _
    rw [hside]
    simp
  · rcases Place.mem_set.1 hc with hc | rfl
    · refine h.link c ?_ ho
      rw [← hlist]
      exact Place.mem_set.2 (.inl hc)
    · have hsome : (connAt s₀ handle).isSome = true := by
        rw [← h.isSome_connAt, connAt_of_find hfind]
        rfl
      exact ⟨hnewHandle.symm ▸ hm, hnewHandle.symm ▸ hsome⟩

lemma Linked.conRsp (h : Linked s₀ s chs) (hm : handle &&& 0xfff = handle)
    {flags : Option UInt8} {result : BitVec 16}
    (hfits : CmdFits s chs handle out flags (.connRsp dcid scid result)) :
    Linked s₀ (handleL2capConRsp s handle dcid scid out (result.setWidth 8))
      (answered chs handle dcid scid result out) := by
  unfold handleL2capConRsp answered
  rw [rspChannel_eq]
  rcases h.pick_has hm hfits.1 with ⟨hp, hq⟩ | ⟨pl, pm, hp, hq, hentry, hbefore, hafter⟩
  · rw [hp, hq]
    exact h
  · have hlocal := hfits.2 pm hq
    rw [hp, hq]
    dsimp only
    by_cases hopen : pm.elem.isOpen = true
    · rw [if_pos hopen] at hlocal ⊢
      rw [if_pos hlocal]
      exact h
    · rw [if_neg hopen] at hlocal ⊢
      rcases hlocal with rfl | ⟨rfl, conn, hfind, hroom⟩
      · -- pending
        rw [if_pos (by decide), if_neg (by decide), if_pos rfl]
        exact h
      · rw [if_neg (by decide), if_pos rfl]
        rw [← hentry.psm_eq] at hroom
        exact h.accept hm hq hentry hbefore hafter (Bool.eq_false_iff.2 hopen) hfind
          (hroom _ hentry.index)

/-! ### Disconnections -/

lemma disconnChannelOf_eq : disconnChannelOf s handle dcid scid out =
    pick (fun d => d.has handle out scid && dcid == d.cid (!out)) s.profileList := by
  cases out
  · rfl
  · refine congrArg (pick · s.profileList) (funext fun d => ?_)
    exact Bool.and_right_comm ..

/-- The tracker finds the entry of an open channel by both identifiers. -/
lemma Entry.has_both {d : ProfInfo} {c : Channel} (h : Entry d c) (hm : handle &&& 0xfff = handle)
    (hopen : c.handle = handle → (c.cid out).getD 0 = scid → (c.cid (!out)).getD 0 = dcid →
      c.isOpen = true) :
    (d.has handle out scid && dcid == d.cid (!out)) =
      (c.isOpen && c.has handle out scid && c.has handle (!out) dcid) := by
  by_cases ho : c.isOpen = true
  · have hleft := h.has (o := out) (b := scid) hm fun _ _ => h.known ho out
    have hright := h.has (o := !out) (b := dcid) hm fun _ _ => h.known ho (!out)
    rw [ho, Bool.true_and, ← hleft, ← hright]
    unfold ProfInfo.has
    cases (handle &&& 0xfff == d.handle) <;> simp
  · have hno : ¬ (d.has handle out scid && dcid == d.cid (!out)) = true := by
      intro hboth
      simp only [ProfInfo.has, Bool.and_eq_true, beq_iff_eq, hm, h.handle_eq, h.cid] at hboth
      exact ho (hopen hboth.1.1.symm hboth.1.2.symm hboth.2.symm)
    rw [Bool.eq_false_iff.2 hno, Bool.eq_false_iff.2 ho, Bool.false_and, Bool.false_and]

lemma cnt_remove_of_ne {x : Counts} (hp : x.cnt p ≠ -128) (q : Profile) :
    (x.remove p).cnt q = x.cnt q + if q = p then -1 else 0 := by
  rw [cnt_remove, cnt_decr, if_neg hp]
  by_cases hq : q = p
  · rw [if_pos hq, if_pos hq, hq]
    rfl
  · rw [if_neg hq, if_neg hq, add_zero]

/-- The connection keeps its interval of HID while it has a use of HID left. -/
lemma remove_toCounts_of_left (hp : p ≠ .hidInterval) (hlow : c.cnt p ≠ -128)
    (hleft : p = .hid → c.profileBitmap .hidInterval = true → c.cnt .hid ≠ 1) :
    (c.remove p).toCounts = c.toCounts.remove p ∧ (c.remove p).handle = c.handle := by
  rw [Conn.remove]
  dsimp only
  split
  · rename_i hzero
    have hone : c.cnt p = 1 := by
      have hcnt := cnt_remove_of_ne hlow p
      rw [refcount_eq_zero.1 hzero, if_pos rfl] at hcnt
      omega
    rw [Conn.clearHidInterval]
    rw [if_neg]
    · exact ⟨resetPacketCount_toCounts, resetPacketCount_handle⟩
    · rintro ⟨rfl, hset⟩
      rw [resetPacketCount_toCounts] at hset
      dsimp only at hset
      rw [bitmap_remove, if_neg (fun hand => hp hand.1.symm)] at hset
      exact hleft rfl hset hone
  · exact ⟨rfl, rfl⟩

lemma sub_ite_one (m : ℤ) (P : Prop) [Decidable P] :
    m - (if decide P = true then 1 else 0) = m + if P then -1 else 0 := by
  by_cases hP : P
  · rw [if_pos (decide_eq_true hP), if_pos hP, sub_eq_add_neg]
  · rw [if_neg (by simpa using hP), if_neg hP, sub_zero, add_zero]

/-- The connection of an open channel: its counts and marks are those it had, and the
channels. -/
lemma Linked.conn_of_open (h : Linked s₀ s chs) {ch : Channel} (hc : ch ∈ chs)
    (ho : ch.isOpen = true) :
    ∃ conn c₀, findConnectionByHandle s ch.handle = some conn ∧ c₀ ∈ s₀.connHash ∧
      conn.elem.marks = c₀.marks ∧
      ∀ q, conn.elem.cnt q = c₀.cnt q + chs.countP (·.openedOn ch.handle q) := by
  have hsome := h.isSome_connAt ch.handle
  rw [(h.link ch hc ho).2, ← map_elem_findConnection, Option.isSome_map] at hsome
  obtain ⟨conn, hfind⟩ := Option.isSome_iff_exists.1 hsome
  obtain ⟨c₀, hstart⟩ := Option.isSome_iff_exists.1 (h.link ch hc ho).2
  have hmarks := h.marks ch.handle
  rw [connAt_of_find hfind, hstart] at hmarks
  refine ⟨conn, c₀, hfind, List.mem_of_find?_eq_some hstart, Option.some.inj hmarks,
    fun q => ?_⟩
  have hcnt := h.conn ch.handle q
  rw [connCnt_eq, connCnt_eq, connAt_of_find hfind, hstart] at hcnt
  exact Option.some.inj hcnt

lemma Linked.close (h : Linked s₀ s chs) (hs : Start s₀) (hm : handle &&& 0xfff = handle)
    {pl : Place ProfInfo} {pm : Place Channel} (hlist : pm.list = chs)
    (hhandle : pm.elem.handle = handle) (hopen : pm.elem.isOpen = true)
    (hentry : Entry pl.elem pm.elem) (hbefore : List.Forall₂ Entry pl.before pm.before)
    (hafter : List.Forall₂ Entry pl.after pm.after)
    (hdis : disconnChannelOf s handle dcid scid out = some pl) :
    Linked s₀ (handleL2capDisconReq s handle dcid scid out) pm.erase := by
  have hmem : pm.elem ∈ chs := hlist ▸ Place.mem_list
  obtain ⟨conn, c₀, hfind, hc₀, hmarks, hcnt⟩ := h.conn_of_open hmem hopen
  rw [hhandle] at hfind hcnt
  have hne := psmToProfileIndex_ne hentry.index
  set p := pl.elem.profileIndex with hp
  have hopened := fun q => opened_eq (q := q) hentry hopen
  have hopenedOn : ∀ h' q, pm.elem.openedOn h' q =
      decide (h' &&& 0xfff = handle &&& 0xfff ∧ q = p) := by
    intro h' q
    rw [Channel.openedOn, hopened, hhandle, hm, Bool.beq_comm, Bool.decide_and,
      Bool.beq_eq_decide_eq]
  -- the channel that goes counts
  have htotal : 0 < s.cnt p := by
    have hpos : 0 < chs.countP (·.opened p) :=
      List.countP_pos_iff.2 ⟨pm.elem, hmem, by simp [hopened, hp]⟩
    have hsum := h.total p
    have hnn := hs.nonneg p
    omega
  have hpos : 0 < chs.countP (·.openedOn handle p) :=
    List.countP_pos_iff.2 ⟨pm.elem, hmem, by simp [hopenedOn]⟩
  have hconnPos : 0 < conn.elem.cnt p := by
    have hnn := hs.connNonneg c₀ hc₀ p
    have hsum := hcnt p
    omega
  obtain ⟨hsink, hint⟩ := Prod.mk.injEq _ _ _ _ ▸ hmarks
  have hremove := remove_toCounts_of_left (c := conn.elem) hne.1 (by omega) fun hhid hset => by
    have hbase := hs.interval c₀ hc₀ (hint ▸ hset)
    have hsum := hcnt .hid
    rw [hhid] at hpos
    omega
  have hzero : s.profileRefcount p ≠ 0 := fun heq => by
    have := refcount_eq_zero.1 heq
    omega
  have hmarks' : (conn.elem.remove p).marks = conn.elem.marks := by
    unfold Conn.marks
    rw [hremove.1, bitmap_remove, bitmap_remove, if_neg (fun hand => hne.2 hand.1.symm),
      if_neg (fun hand => hne.1 hand.1.symm)]
  have hnosink : (conn.elem.remove p).profileBitmap .sink = false := by
    have hmark := congrArg Prod.fst hmarks'
    exact hmark.trans (hsink.trans (hs.sink c₀ hc₀))
  unfold handleL2capDisconReq
  rw [hdis, hfind]
  dsimp only
  rw [← hp, updateProfileConnection, if_neg Bool.false_ne_true, if_neg hzero]
  dsimp only
  rw [if_neg (fun hand => by rw [hnosink] at hand; cases hand.2)]
  refine h.update (δ := -1) (p := p) hfind (List.rel_append hbefore hafter) rfl hremove.2 hmarks'
    (cnt_remove_of_ne (by omega)) (fun q => ?_) (fun q => ?_) (fun h' q => ?_) (fun c hc ho => ?_)
  · rw [hremove.1]
    exact cnt_remove_of_ne (by omega) q
  · rw [Place.countP_erase, hlist, hopened]
    exact sub_ite_one ..
  · rw [Place.countP_erase, hlist, hopenedOn]
    exact sub_ite_one ..
  · refine h.link c ?_ ho
    rw [← hlist]
    exact Place.mem_set.2 (.inl hc)

lemma Linked.disconReq (h : Linked s₀ s chs) (hs : Start s₀) (hm : handle &&& 0xfff = handle)
    {flags : Option UInt8} (hfits : CmdFits s chs handle out flags (.disconnReq dcid scid)) :
    Linked s₀ (handleL2capDisconReq s handle dcid scid out)
      (closed chs handle dcid scid out) := by
  rw [closed]
  have hagree : ∀ d c, c ∈ chs → Entry d c → (d.has handle out scid && dcid == d.cid (!out)) =
      (c.isOpen && c.has handle out scid && c.has handle (!out) dcid) :=
    fun d c hc hentry => hentry.has_both hm (hfits c hc)
  rcases pick_forall₂ h.entries hagree with ⟨hp, hq⟩ | ⟨pl, pm, hp, hq, hentry, hbefore, hafter⟩
  · rw [hq, handleL2capDisconReq, disconnChannelOf_eq, hp]
    exact h
  · obtain ⟨hlist, hhas, -⟩ := pick_eq_some hq
    obtain ⟨⟨hopen, hhandle, -⟩, -⟩ : (pm.elem.isOpen = true ∧ pm.elem.handle = handle ∧
        pm.elem.cid out = some scid) ∧ pm.elem.handle = handle ∧
          pm.elem.cid (!out) = some dcid := by
      simpa [Channel.has] using hhas
    rw [hq]
    exact h.close hs hm hlist hhandle hopen hentry hbefore hafter (disconnChannelOf_eq.trans hp)

/-! ### Runs -/

lemma Linked.cmd (h : Linked s₀ s chs) (hs : Start s₀) (hm : handle &&& 0xfff = handle)
    {flags : Option UInt8} {cmd : L2Cmd} (hfits : CmdFits s chs handle out flags cmd) :
    Linked s₀ (rtlProcessL2Sig s handle out cmd flags) (chanCmd handle out chs cmd) := by
  cases cmd with
  | connReq psm scid =>
      simp only [rtlProcessL2Sig, chanCmd, hm]
      exact h.conReq hm hfits
  | connRsp dcid scid result =>
      simp only [rtlProcessL2Sig, chanCmd, hm]
      exact h.conRsp hm hfits
  | disconnReq dcid scid =>
      simp only [rtlProcessL2Sig, chanCmd, hm]
      exact h.disconReq hs hm hfits
  | other => exact h

lemma and_mask (n : BitVec 16) : n &&& 0xfff &&& 0xfff = n &&& 0xfff := by
  rw [BitVec.and_assoc, BitVec.and_self]

/-- The handle is masked before it is used. -/
lemma rtlProcessL2Sig_mask {cmd : L2Cmd} {flags : Option UInt8} :
    rtlProcessL2Sig s (handle &&& 0xfff) out cmd flags =
      rtlProcessL2Sig s handle out cmd flags := by
  cases cmd <;> simp only [rtlProcessL2Sig, and_mask]

/-- One packet. -/
lemma Linked.pdu (h : Linked s₀ s chs) (hs : Start s₀) {pdu : L2Pdu}
    (hfits : PduFits (s, chs) pdu) :
    Linked s₀ (coexStep s pdu.event).1 (chanPdu chs pdu) := by
  rw [chanPdu]
  unfold PduFits at hfits
  cases hcmds : pdu.cmds with
  | nil =>
      rw [L2Pdu.event, hcmds]
      exact h
  | cons cmd cmds =>
      rw [hcmds] at hfits
      obtain ⟨hrest, hfirst⟩ := hfits
      rw [L2Pdu.event, hcmds, List.foldl_cons, hrest]
      change Linked s₀ (if pdu.node then _ else _) _
      by_cases hnode : pdu.node = true
      · rw [if_pos hnode] at hfirst ⊢
        rw [← rtlProcessL2Sig_mask]
        exact h.cmd hs (and_mask _) hfirst
      · rw [if_neg hnode] at hfirst ⊢
        rw [hfirst]
        exact h

lemma final_trackStep (s : Coex) (chs : List Channel) (pdus : List L2Pdu) :
    final trackStep (s, chs) pdus =
      (final coexStep s (pdus.map L2Pdu.event), pdus.foldl chanPdu chs) := by
  induction pdus generalizing s chs with
  | nil => rfl
  | cons pdu pdus ih => exact ih _ _

/-- **The list of profiles.**  In a run whose packets fit the states that they meet, the list
has an entry for each channel that is open or being opened and no other, and each open channel is
counted once. -/
theorem coex_follows (hs : Start s₀) {pdus : List L2Pdu}
    (hfits : Along trackStep PduFits (s₀, []) pdus) :
    ∀ pre, pre <+: pdus →
      Follows s₀ (final coexStep s₀ (pre.map L2Pdu.event)) (pre.foldl chanPdu []) := by
  rintro pre ⟨post, rfl⟩
  have hlinked := final_induction (I := fun t : Coex × List Channel => Linked s₀ t.1 t.2)
    (fun t pdu hpdu h => h.pdu hs hpdu) (linked_start hs) hfits.left
  rw [final_trackStep] at hlinked
  exact hlinked.follows

/-- A link without channels. -/
def oneLink : Coex := { connHash := [{ handle := 1, type := .l2cap }] }

/-- A packet with one command. -/
def onePdu (out : Bool) (cmd : L2Cmd) : L2Pdu :=
  { handle := 1, out := out, cmds := [cmd], node := true, alloc := some 0 }

lemma start_oneLink : Start oneLink where
  channels := rfl
  nonneg _ := Int.le_refl 0
  connNonneg := by
    intro c hc p
    obtain rfl := List.mem_singleton.1 hc
    exact Int.le_refl 0
  sink := by
    intro c hc
    obtain rfl := List.mem_singleton.1 hc
    rfl
  interval := by
    intro c hc hset
    obtain rfl := List.mem_singleton.1 hc
    cases hset

/-- We ask for an A2DP channel, and the other side accepts. -/
theorem coex_follows_accepted :
    Follows oneLink
      (final coexStep oneLink
        ([onePdu true (.connReq 0x19 0x40), onePdu false (.connRsp 0x41 0x40 0)].map
          L2Pdu.event))
      ([onePdu true (.connReq 0x19 0x40), onePdu false (.connRsp 0x41 0x40 0)].foldl chanPdu
        []) := by
  have hfits : Along trackStep PduFits (oneLink, [])
      [onePdu true (.connReq 0x19 0x40), onePdu false (.connRsp 0x41 0x40 0)] := by
    refine ⟨⟨rfl, fun _ => ⟨fun h => absurd h (by decide), .inl rfl⟩⟩,
      ⟨rfl, fun h => absurd h (by decide), fun pl hpl => ?_⟩, trivial⟩
    obtain rfl := Option.some.inj hpl
    refine .inr ⟨rfl, ⟨[], { handle := 1, type := .l2cap }, []⟩, rfl, fun p hp => ?_⟩
    obtain rfl := Option.some.inj hp
    exact ⟨by decide, by decide⟩
  exact coex_follows start_oneLink hfits _ List.prefix_rfl

/-- The other side refuses: the entry stays. -/
theorem coex_keeps_refused :
    Start oneLink ∧
      [onePdu true (.connReq 0x19 0x40), onePdu false (.connRsp 0 0x40 2)].foldl chanPdu [] = [] ∧
      (final coexStep oneLink
        ([onePdu true (.connReq 0x19 0x40), onePdu false (.connRsp 0 0x40 2)].map
          L2Pdu.event)).profileList.map ProfInfo.ids = [(1, 0x19, 0x40, 0)] ∧
      ¬ Follows oneLink
        (final coexStep oneLink
          ([onePdu true (.connReq 0x19 0x40), onePdu false (.connRsp 0 0x40 2)].map
            L2Pdu.event))
        ([onePdu true (.connReq 0x19 0x40), onePdu false (.connRsp 0 0x40 2)].foldl chanPdu
          []) := by
  refine ⟨start_oneLink, by decide, by decide, fun h => ?_⟩
  exact absurd h.entries (by decide)

end Rtl8723du.Bt
