import Rtl8723du.Lib.Bytes
import Rtl8723du.Lib.Elements
import Rtl8723du.Lib.Reassembly

/-!
# HCI events from the interrupt pipe

`btusb_intr_complete` hands every chunk of the interrupt pipe to two parsers, each of which puts
the events together again: `rtk_btcoex_parse_event` in the buffer `back_buff` of the coexistence
code, `btusb_recv_intr` in a socket buffer for the HCI core.  An event is a code, a length byte and
that many bytes of parameters.

`alloc` says which allocations of a socket buffer succeed, and `room` is how many bytes
`bt_skb_alloc` makes room for.
-/

namespace Rtl8723du.Bt

open Lib Lib.Elements Lib.Bytes Lib.Reassembly

/-- `HCI_MAX_EVENT_SIZE`. -/
abbrev hciMaxEventSize : ℕ := 260

/-- `HCI_EVENT_HDR_SIZE`. -/
abbrev hciEventHdrSize : ℕ := 2

/-- `plen` of the event header. -/
def plen (bs : List UInt8) : ℕ := (bs.getD 1 0).toNat

/-! ### The parser of the coexistence code -/

/-- The fields of `rtl_coex_struct` that the parser uses, and the frames it has passed to
`rtk_btcoex_evt_enqueue`. -/
structure CoexRx where
  /-- `RTL_COEX_RUNNING`. -/
  running : Bool
  /-- Where in `back_buff` the next byte goes, inside a frame. -/
  tbuff : Option ℕ
  elen : ℕ
  expect : ℕ
  backBuff : List UInt8
  enqueued : List (List UInt8)
deriving DecidableEq

/-- The end of a pass: a frame without anything missing is passed on. -/
def coexPassEnd (coex : CoexRx) (tbuff : ℕ) : CoexRx × Option ℕ :=
  if coex.expect = 0 then
    ({ coex with elen := 0, enqueued := coex.enqueued ++ [coex.backBuff.take coex.elen] }, none)
  else (coex, some tbuff)

/-- A pass inside a frame, from the copying on. -/
def coexPassCopy (coex : CoexRx) (tbuff : ℕ) (buffer : List UInt8) :
    (CoexRx × Option ℕ) ⊕ ((CoexRx × Option ℕ) × List UInt8) :=
  let len := min coex.expect buffer.length
  let copied : CoexRx := { coex with
    backBuff := writeAt coex.backBuff tbuff (buffer.take len)
    elen := coex.elen + len
    expect := coex.expect - len }
  if copied.elen = hciEventHdrSize then
    let header : CoexRx := { copied with expect := plen copied.backBuff }
    if hciMaxEventSize - header.elen < header.expect then .inl ({ header with elen := 0 }, none)
    else .inr (coexPassEnd header (tbuff + len), buffer.drop len)
  else .inr (coexPassEnd copied (tbuff + len), buffer.drop len)

/-- A pass of the loop of `rtk_btcoex_parse_event`; the local `tbuff` stands beside the state. -/
def parseEventPass : (CoexRx × Option ℕ) × List UInt8 →
    (CoexRx × Option ℕ) ⊕ ((CoexRx × Option ℕ) × List UInt8)
  | (s, []) => .inl s
  | ((coex, none), buffer) =>
      coexPassCopy { coex with tbuff := none, elen := 0, expect := hciEventHdrSize } 0 buffer
  | ((coex, some tbuff), buffer) => coexPassCopy coex tbuff buffer

/-- `rtk_btcoex_parse_event`; there is a result if the loop ends. -/
def rtkBtcoexParseEvent (buffer : List UInt8) (coex : CoexRx) : Option CoexRx :=
  if coex.running then
    (Loop.run parseEventPass (buffer.length + 1) ((coex, coex.tbuff), buffer)).map
      fun (coex, tbuff) => { coex with tbuff }
  else some coex

/-! ### The parser for the HCI core -/

/-- A socket buffer with its control block. -/
structure Skb where
  data : List UInt8
  expect : ℕ
deriving DecidableEq

/-- The fields of `btusb_data` that the parser uses, and the frames it has passed to
`hci_recv_frame`. -/
structure BtusbRx where
  evtSkb : Option Skb
  /-- The number of allocations so far. -/
  allocs : ℕ
  received : List (List UInt8)
deriving DecidableEq

/-- The end of a pass. -/
def intrPassEnd (data : BtusbRx) (skb : Skb) : BtusbRx × Option Skb :=
  if skb.expect = 0 then ({ data with received := data.received ++ [skb.data] }, none)
  else (data, some skb)

/-- A pass with a socket buffer. -/
def intrPassCopy (room : ℕ) (data : BtusbRx) (skb : Skb) (buffer : List UInt8) :
    ((BtusbRx × Option Skb) × ℤ) ⊕ ((BtusbRx × Option Skb) × List UInt8) :=
  let len := min skb.expect buffer.length
  let copied : Skb := ⟨skb.data ++ buffer.take len, skb.expect - len⟩
  if copied.data.length = hciEventHdrSize then
    let header : Skb := { copied with expect := plen copied.data }
    if room - header.data.length < header.expect then .inl ((data, none), -84)
    else .inr (intrPassEnd data header, buffer.drop len)
  else .inr (intrPassEnd data copied, buffer.drop len)

/-- A pass of the loop of `btusb_recv_intr`; the local `skb` stands beside the state, and the
result has the error code (`-ENOMEM`, `-EILSEQ`). -/
def recvIntrPass (alloc : ℕ → Bool) (room : ℕ) : (BtusbRx × Option Skb) × List UInt8 →
    ((BtusbRx × Option Skb) × ℤ) ⊕ ((BtusbRx × Option Skb) × List UInt8)
  | (s, []) => .inl (s, 0)
  | ((data, none), buffer) =>
      if alloc data.allocs then
        intrPassCopy room { data with allocs := data.allocs + 1 } ⟨[], hciEventHdrSize⟩ buffer
      else .inl (({ data with allocs := data.allocs + 1 }, none), -12)
  | ((data, some skb), buffer) => intrPassCopy room data skb buffer

/-- `btusb_recv_intr`. -/
def btusbRecvIntr (alloc : ℕ → Bool) (room : ℕ) (buffer : List UInt8) (data : BtusbRx) :
    Option (BtusbRx × ℤ) :=
  (Loop.run (recvIntrPass alloc room) (buffer.length + 1) ((data, data.evtSkb), buffer)).map
    fun ((data, skb), err) => ({ data with evtSkb := skb }, err)

/-! ### Both -/

/-- The state of both parsers and `stat.err_rx`. -/
structure BtIntr where
  coex : CoexRx
  data : BtusbRx
  errRx : ℕ
deriving DecidableEq

/-- `btusb_intr_complete` for a chunk that has arrived. -/
def btusbIntrComplete (alloc : ℕ → Bool) (room : ℕ) (s : BtIntr) (buffer : List UInt8) :
    Option BtIntr := do
  let coex ← rtkBtcoexParseEvent buffer s.coex
  let (data, err) ← btusbRecvIntr alloc room buffer s.data
  return ⟨coex, data, if err < 0 then s.errRx + 1 else s.errRx⟩

/-- Both parsers are idle. -/
structure BtIntr.Idle (s : BtIntr) : Prop where
  running : s.coex.running = true
  tbuff : s.coex.tbuff = none
  backBuff : s.coex.backBuff.length = hciMaxEventSize
  evtSkb : s.data.evtSkb = none

/-! ### Events -/

/-- How many bytes are wanted behind the beginning of an event. -/
def want (p : List UInt8) : ℕ :=
  if p.length < hciEventHdrSize then hciEventHdrSize - p.length
  else hciEventHdrSize + plen p - p.length

variable {p l bs : List UInt8} {e : Element} {es : List Element}

lemma plen_lt (bs : List UInt8) : plen bs < 256 := (bs.getD 1 0).toNat_lt

lemma plen_append (h : 2 ≤ p.length) : plen (p ++ l) = plen p := by
  rw [plen, plen, List.getD_eq_getElem?_getD, List.getD_eq_getElem?_getD,
    List.getElem?_append_left (by omega)]

lemma want_of_lt (h : p.length < 2) : want p = 2 - p.length := if_pos h

lemma want_of_le (h : 2 ≤ p.length) : want p = 2 + plen p - p.length := if_neg (Nat.not_lt.2 h)

lemma want_nil_pos : 0 < want [] := Nat.succ_pos 1

lemma paced_want : Paced want := by
  intro p l hl
  by_cases hp : p.length < 2
  · rw [want_of_lt hp] at hl
    rw [want_of_lt (by rw [List.length_append]; omega), List.length_append]
    omega
  · rw [want_of_le (by omega)] at hl
    rw [want_of_le (by rw [List.length_append]; omega), plen_append (by omega), List.length_append]
    omega

/-- The bytes of an event are a frame. -/
lemma frame_bytes (e : Element) : Frame want e.bytes := by
  have hlen : e.bytes.length = e.data.length + 2 := e.length_bytes
  have hplen : plen e.bytes = e.data.length := e.toNat_length
  refine ⟨?_, fun q hq hne => ?_⟩
  · rw [want_of_le (by omega), hplen]
    omega
  · obtain ⟨t, ht⟩ := hq
    have htlen : 0 < t.length := by
      refine List.length_pos_iff.2 fun hnil => hne ?_
      rw [← ht, hnil, List.append_nil]
    have hsum := congrArg List.length ht
    rw [List.length_append] at hsum
    by_cases hshort : q.length < 2
    · rw [want_of_lt hshort]
      omega
    · rw [want_of_le (by omega), ← plen_append (l := t) (by omega), ht, hplen]
      omega

/-- A stream of events and of the beginning of another is cut into these. -/
lemma cut_encode {l : List Element} {tail : List UInt8} (htail : tail <+: e.bytes)
    (hne : tail ≠ e.bytes) :
    Cut want (l.map Element.bytes) tail (encode l ++ tail) where
  eq := by rw [encode, List.flatMap_def]
  frames f hf := by
    obtain ⟨x, -, rfl⟩ := List.mem_map.1 hf
    exact frame_bytes x
  rest q hq := by
    refine (frame_bytes e).before q (hq.trans htail) fun heq => hne ?_
    exact htail.eq_of_length (Nat.le_antisymm htail.length_le (heq ▸ hq.length_le))

/-- What is wanted after a part of what was wanted has been read. -/
lemma want_append (hl : l.length ≤ want p) :
    want (p ++ l) = if (p ++ l).length = 2 then plen (p ++ l) else want p - l.length := by
  have hlen : (p ++ l).length = p.length + l.length := List.length_append
  by_cases hp : p.length < 2
  · rw [want_of_lt hp] at hl ⊢
    by_cases htwo : (p ++ l).length = 2
    · rw [if_pos htwo, want_of_le (by omega), htwo]
      omega
    · rw [if_neg htwo, want_of_lt (by omega)]
      omega
  · rw [want_of_le (by omega)] at hl ⊢
    rw [want_of_le (by omega), plen_append (by omega)]
    split <;> omega

/-- Frames are not longer than `HCI_MAX_EVENT_SIZE`. -/
lemma length_add_want_le (p : List UInt8) (h : 0 < want p) : p.length + want p ≤ 257 := by
  have hplen := plen_lt p
  by_cases hp : p.length < 2
  · rw [want_of_lt hp]
    omega
  · rw [want_of_le (by omega)] at h ⊢
    omega

/-! ### What the parsers keep -/

/-- The coexistence code holds the beginning of a frame. -/
structure CoexRep (coex : CoexRx) (p : List UInt8) : Prop where
  elen : coex.elen = p.length
  expect : coex.expect = want p
  take : coex.backBuff.take p.length = p

/-- From the stream the coexistence code has passed on the frames and keeps the rest. -/
structure CoexHolds (old : List (List UInt8)) (s : CoexRx × Option ℕ) (bs : List UInt8) : Prop where
  running : s.1.running = true
  length_backBuff : s.1.backBuff.length = hciMaxEventSize
  cut : ∃ fs p, Cut want fs p bs ∧ s.1.enqueued = old ++ fs ∧
    (s.2 = none ∧ p = [] ∨ s.2 = some p.length ∧ CoexRep s.1 p)

variable {old fs : List (List UInt8)} {coex : CoexRx} {data : BtusbRx} {skb : Skb}
  {buffer : List UInt8} {alloc : ℕ → Bool} {room : ℕ}

/-- The end of a pass, with a frame or without. -/
lemma coexPassEnd_holds (hcut : Cut want fs p bs) (hl : l.length ≤ want p)
    (hrun : coex.running = true) (hlen : coex.backBuff.length = hciMaxEventSize)
    (henq : coex.enqueued = old ++ fs) (hrep : CoexRep coex (p ++ l)) :
    CoexHolds old (coexPassEnd coex (p ++ l).length) (bs ++ l) := by
  unfold coexPassEnd
  by_cases hzero : coex.expect = 0
  · rw [if_pos hzero]
    have hwant : want (p ++ l) = 0 := hrep.expect.symm.trans hzero
    refine ⟨hrun, hlen, _, [], hcut.close paced_want hl want_nil_pos hwant, ?_, .inl ⟨rfl, rfl⟩⟩
    dsimp only
    rw [henq, hrep.elen, hrep.take, List.append_assoc]
  · rw [if_neg hzero]
    rw [hrep.expect] at hzero
    exact ⟨hrun, hlen, _, _, hcut.extend paced_want hl (Nat.pos_of_ne_zero hzero), henq,
      .inr ⟨rfl, hrep⟩⟩

/-- A pass copies what is wanted, or what there is of it. -/
lemma coexPassCopy_eq (hrep : CoexRep coex p) (hlen : coex.backBuff.length = hciMaxEventSize)
    (hpos : 0 < want p) (hbuf : buffer = l ++ bs) (hl : l.length = min (want p) buffer.length) :
    coexPassCopy coex p.length buffer =
        .inr (coexPassEnd { coex with
          backBuff := writeAt coex.backBuff p.length l
          elen := (p ++ l).length
          expect := want (p ++ l) } (p ++ l).length, bs) ∧
      writeAt coex.backBuff p.length l =
        (p ++ l) ++ coex.backBuff.drop (p.length + l.length) ∧
      (writeAt coex.backBuff p.length l).length = hciMaxEventSize := by
  have hfits := length_add_want_le p hpos
  have hwant := want_append (p := p) (l := l) (by omega)
  have hwritten : writeAt coex.backBuff p.length l =
      (p ++ l) ++ coex.backBuff.drop (p.length + l.length) := by
    rw [writeAt, hrep.take]
  have hlen' : coex.backBuff.length = 260 := hlen
  refine ⟨?_, hwritten, by rw [length_writeAt (by omega), hlen]⟩
  have htake : buffer.take l.length = l := by rw [hbuf, List.take_left]
  have hdrop : buffer.drop l.length = bs := by rw [hbuf, List.drop_left]
  have hsum : p.length + l.length = (p ++ l).length := List.length_append.symm
  unfold coexPassCopy
  dsimp only
  rw [hrep.expect, ← hl, hrep.elen, hsum, htake, hdrop, hwant]
  by_cases htwo : (p ++ l).length = 2
  · have hplen : plen (writeAt coex.backBuff p.length l) = plen (p ++ l) := by
      rw [hwritten, plen_append (by omega)]
    have hlt := plen_lt (p ++ l)
    rw [if_pos htwo, if_pos htwo, hplen, if_neg (by show ¬ 260 - _ < _; omega)]
  · rw [if_neg htwo, if_neg htwo]

lemma coexPassCopy_holds {c : CoexRx} (hcut : Cut want fs p bs) (hrun : c.running = true)
    (hlen : c.backBuff.length = hciMaxEventSize) (henq : c.enqueued = old ++ fs)
    (hrep : CoexRep c p) (hb : buffer ≠ []) :
    ∃ s' l b', buffer = l ++ b' ∧ l ≠ [] ∧ coexPassCopy c p.length buffer = .inr (s', b') ∧
      CoexHolds old s' (bs ++ l) := by
  have hpos : 0 < want p := hcut.rest p List.prefix_rfl
  have hblen := List.length_pos_iff.2 hb
  obtain ⟨l, b', rfl, hl⟩ : ∃ l b', buffer = l ++ b' ∧ l.length = min (want p) buffer.length :=
    ⟨buffer.take (min (want p) buffer.length), buffer.drop (min (want p) buffer.length),
      (List.take_append_drop ..).symm, by rw [List.length_take]; omega⟩
  obtain ⟨heq, hwritten, hlength⟩ := coexPassCopy_eq hrep hlen hpos rfl hl
  refine ⟨_, l, b', rfl, List.ne_nil_of_length_pos (by omega), heq, ?_⟩
  refine coexPassEnd_holds hcut (by omega) hrun hlength henq ⟨rfl, rfl, ?_⟩
  rw [hwritten, List.take_left]

lemma parseEventPass_holds (s : CoexRx × Option ℕ) (bs b : List UInt8) (h : CoexHolds old s bs)
    (hb : b ≠ []) : ∃ s' l b', b = l ++ b' ∧ l ≠ [] ∧ parseEventPass (s, b) = .inr (s', b') ∧
      CoexHolds old s' (bs ++ l) := by
  obtain ⟨hrun, hlen, fs, p, hcut, henq, hstate⟩ := h
  obtain ⟨coex, tbuff⟩ := s
  obtain ⟨x, b, rfl⟩ := List.exists_cons_of_ne_nil hb
  rcases hstate with ⟨rfl, rfl⟩ | ⟨rfl, hrep⟩
  · -- A frame begins.
    exact coexPassCopy_holds (c := { coex with tbuff := none, elen := 0, expect := 2 }) hcut hrun
      hlen henq ⟨rfl, rfl, rfl⟩ hb
  · exact coexPassCopy_holds hcut hrun hlen henq hrep hb

/-- `rtk_btcoex_parse_event` ends and passes on the frames of the stream. -/
lemma rtkBtcoexParseEvent_holds {b : List UInt8} (h : CoexHolds old (coex, coex.tbuff) bs) :
    ∃ coex', rtkBtcoexParseEvent b coex = some coex' ∧
      CoexHolds old (coex', coex'.tbuff) (bs ++ b) := by
  obtain ⟨⟨coex', tbuff'⟩, hrun, h'⟩ := run_of_pass (I := CoexHolds old) (f := id)
    (fun _ => rfl) parseEventPass_holds (Nat.lt_succ_self b.length) h
  refine ⟨{ coex' with tbuff := tbuff' }, ?_, h'.running, h'.length_backBuff, ?_⟩
  · have hrunning : coex.running = true := h.running
    rw [rtkBtcoexParseEvent, if_pos hrunning, hrun]
    rfl
  · obtain ⟨fs, p, hcut, henq, hstate⟩ := h'.cut
    refine ⟨fs, p, hcut, henq, hstate.imp_right fun hin => ⟨hin.1, ?_⟩⟩
    exact ⟨hin.2.elen, hin.2.expect, hin.2.take⟩

/-- From the stream the parser for the HCI core has passed on the frames and keeps the rest. -/
def BtusbHolds (old : List (List UInt8)) (s : BtusbRx × Option Skb) (bs : List UInt8) : Prop :=
  ∃ fs p, Cut want fs p bs ∧ s.1.received = old ++ fs ∧
    (s.2 = none ∧ p = [] ∨ s.2 = some ⟨p, want p⟩)

lemma intrPassCopy_holds {d : BtusbRx} (hroom : hciMaxEventSize ≤ room) (hcut : Cut want fs p bs)
    (hrec : d.received = old ++ fs) (hb : buffer ≠ []) :
    ∃ s' l b', buffer = l ++ b' ∧ l ≠ [] ∧
      intrPassCopy room d ⟨p, want p⟩ buffer = .inr (s', b') ∧ BtusbHolds old s' (bs ++ l) := by
  have hpos : 0 < want p := hcut.rest p List.prefix_rfl
  have hblen := List.length_pos_iff.2 hb
  obtain ⟨l, b', hbuf, hl⟩ : ∃ l b', buffer = l ++ b' ∧ l.length = min (want p) buffer.length :=
    ⟨buffer.take (min (want p) buffer.length), buffer.drop (min (want p) buffer.length),
      (List.take_append_drop ..).symm, by rw [List.length_take]; omega⟩
  have hwant := want_append (p := p) (l := l) (by omega)
  have htake : buffer.take l.length = l := by rw [hbuf, List.take_left]
  have hdrop : buffer.drop l.length = b' := by rw [hbuf, List.drop_left]
  have heq : intrPassCopy room d ⟨p, want p⟩ buffer =
      .inr (intrPassEnd d ⟨p ++ l, want (p ++ l)⟩, b') := by
    unfold intrPassCopy
    dsimp only
    rw [← hl, htake, hdrop, hwant]
    by_cases htwo : (p ++ l).length = 2
    · have hlt := plen_lt (p ++ l)
      have hroom' : 260 ≤ room := hroom
      rw [if_pos htwo, if_pos htwo, if_neg (by omega)]
    · rw [if_neg htwo, if_neg htwo]
  refine ⟨_, l, b', hbuf, List.ne_nil_of_length_pos (by omega), heq, ?_⟩
  unfold intrPassEnd
  dsimp only
  by_cases hzero : want (p ++ l) = 0
  · rw [if_pos hzero]
    refine ⟨_, [], hcut.close paced_want (by omega) want_nil_pos hzero, ?_, .inl ⟨rfl, rfl⟩⟩
    rw [hrec, List.append_assoc]
  · rw [if_neg hzero]
    exact ⟨fs, _, hcut.extend paced_want (by omega) (Nat.pos_of_ne_zero hzero), hrec, .inr rfl⟩

lemma recvIntrPass_holds (halloc : ∀ k, alloc k = true) (hroom : hciMaxEventSize ≤ room)
    (s : BtusbRx × Option Skb) (bs b : List UInt8) (h : BtusbHolds old s bs) (hb : b ≠ []) :
    ∃ s' l b', b = l ++ b' ∧ l ≠ [] ∧ recvIntrPass alloc room (s, b) = .inr (s', b') ∧
      BtusbHolds old s' (bs ++ l) := by
  obtain ⟨fs, p, hcut, hrec, hstate⟩ := h
  obtain ⟨data, skb⟩ := s
  obtain ⟨x, b, rfl⟩ := List.exists_cons_of_ne_nil hb
  rcases hstate with ⟨rfl, rfl⟩ | rfl
  · obtain ⟨s', l, b', hbuf, hl, hpass, h'⟩ := intrPassCopy_holds
      (d := { data with allocs := data.allocs + 1 }) hroom hcut hrec hb
    refine ⟨s', l, b', hbuf, hl, ?_, h'⟩
    exact (if_pos (halloc data.allocs)).trans hpass
  · exact intrPassCopy_holds hroom hcut hrec hb

/-- `btusb_recv_intr` ends without an error and passes on the frames of the stream. -/
lemma btusbRecvIntr_holds {b : List UInt8} (halloc : ∀ k, alloc k = true)
    (hroom : hciMaxEventSize ≤ room)
    (h : BtusbHolds old (data, data.evtSkb) bs) :
    ∃ data', btusbRecvIntr alloc room b data = some (data', 0) ∧
      BtusbHolds old (data', data'.evtSkb) (bs ++ b) := by
  obtain ⟨⟨data', skb'⟩, hrun, h'⟩ := run_of_pass (I := BtusbHolds old)
    (f := fun s => (s, (0 : ℤ))) (fun _ => rfl) (recvIntrPass_holds halloc hroom)
    (Nat.lt_succ_self b.length) h
  exact ⟨{ data' with evtSkb := skb' }, by rw [btusbRecvIntr, hrun]; rfl, h'⟩

/-! ### Any chunks -/

/-- Both parsers have passed on the frames of the stream. -/
structure BtIntr.Holds (s₀ s : BtIntr) (bs : List UInt8) : Prop where
  coex : CoexHolds s₀.coex.enqueued (s.coex, s.coex.tbuff) bs
  data : BtusbHolds s₀.data.received (s.data, s.data.evtSkb) bs
  errRx : s.errRx = s₀.errRx

variable {s₀ s : BtIntr}

lemma BtIntr.Idle.holds (h : s.Idle) : s.Holds s [] where
  coex := ⟨h.running, h.backBuff, [], [], .nil want_nil_pos, (List.append_nil _).symm,
    .inl ⟨h.tbuff, rfl⟩⟩
  data := ⟨[], [], .nil want_nil_pos, (List.append_nil _).symm, .inl ⟨h.evtSkb, rfl⟩⟩
  errRx := rfl

/-- One chunk. -/
lemma BtIntr.Holds.step {b : List UInt8} (halloc : ∀ k, alloc k = true)
    (hroom : hciMaxEventSize ≤ room)
    (h : s₀.Holds s bs) :
    ∃ s', btusbIntrComplete alloc room s b = some s' ∧ s₀.Holds s' (bs ++ b) := by
  obtain ⟨coex', hcoex, hcoex'⟩ := rtkBtcoexParseEvent_holds (b := b) h.coex
  obtain ⟨data', hdata, hdata'⟩ := btusbRecvIntr_holds (b := b) halloc hroom h.data
  refine ⟨⟨coex', data', s.errRx⟩, ?_, hcoex', hdata', h.errRx⟩
  simp [btusbIntrComplete, hcoex, hdata]

/-- All chunks. -/
lemma BtIntr.Holds.run (halloc : ∀ k, alloc k = true) (hroom : hciMaxEventSize ≤ room)
    (chunks : List (List UInt8)) (h : s₀.Holds s bs) :
    ∃ s', chunks.foldlM (btusbIntrComplete alloc room) s = some s' ∧
      s₀.Holds s' (bs ++ chunks.flatten) := by
  induction chunks generalizing s bs with
  | nil => exact ⟨s, rfl, by simpa using h⟩
  | cons chunk chunks ih =>
      obtain ⟨s', hstep, h'⟩ := h.step (b := chunk) halloc hroom
      obtain ⟨s'', hrun, h''⟩ := ih h'
      refine ⟨s'', ?_, by simpa using h''⟩
      rw [List.foldlM_cons, hstep]
      exact hrun

/-- Both parsers pass on the events of a stream, each once and in order, whatever its chunks; the
beginning of another event may follow. -/
theorem btusbIntrComplete_events (halloc : ∀ k, alloc k = true) (hroom : hciMaxEventSize ≤ room)
    (hidle : s.Idle) {events : List Element} {tail : List UInt8} (htail : tail <+: e.bytes)
    (hne : tail ≠ e.bytes) {chunks : List (List UInt8)}
    (hchunks : chunks.flatten = encode events ++ tail) :
    ∃ s', chunks.foldlM (btusbIntrComplete alloc room) s = some s' ∧
      s'.coex.enqueued = s.coex.enqueued ++ events.map Element.bytes ∧
      s'.data.received = s.data.received ++ events.map Element.bytes ∧
      s'.errRx = s.errRx := by
  obtain ⟨s', hrun, h⟩ := hidle.holds.run halloc hroom chunks
  rw [List.nil_append, hchunks] at h
  have hcut := cut_encode (l := events) htail hne
  obtain ⟨fs, p, hcut', henq, hcoex⟩ := h.coex.cut
  obtain ⟨rfl, rfl⟩ := hcut'.unique hcut
  obtain ⟨gs, q, hcut'', hrec, hdata⟩ := h.data
  obtain ⟨rfl, rfl⟩ := hcut''.unique hcut
  exact ⟨s', hrun, henq, hrec, h.errRx⟩

/-- A command complete event and an event without parameters, in chunks that cut the first header
and leave an empty chunk. -/
theorem btusbIntrComplete_events_chunks :
    let s : BtIntr := ⟨⟨true, none, 0, 0, List.replicate 260 0, []⟩, ⟨none, 0, []⟩, 0⟩
    ∃ s', [[0x0E], [], [4, 1, 3], [12, 0, 0x10, 0]].foldlM
        (btusbIntrComplete (fun _ => true) 260) s = some s' ∧
      s'.coex.enqueued = [[0x0E, 4, 1, 3, 12, 0], [0x10, 0]] ∧
      s'.data.received = [[0x0E, 4, 1, 3, 12, 0], [0x10, 0]] ∧ s'.errRx = 0 := by
  intro s
  have hidle : s.Idle := ⟨rfl, rfl, List.length_replicate, rfl⟩
  have hchunks : [[0x0E], [], [4, 1, 3], [12, 0, 0x10, 0]].flatten =
      encode [⟨0x0E, [1, 3, 12, 0], by decide⟩, ⟨0x10, [], by decide⟩] ++ [] := rfl
  exact btusbIntrComplete_events (e := ⟨0, [], by decide⟩) (fun _ => rfl) (Nat.le_refl _) hidle
    List.nil_prefix (by decide) hchunks

end Rtl8723du.Bt
