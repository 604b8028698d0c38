import Rtl8723du.Ap.FramePool

/-!
# The levels of the transmit queues

A frame waits in the `sta_pending` queue of its station and access category, or in a `sleep_q`;
a queue with frames is linked in the hardware queue of its category; `qcnt` and `accnt` count the
frames on two levels.  `rtw_xmit_classifier`, `rtw_dequeue_xframe`, `stop_sta_xmit` and
`wakeup_sta_to_xmit` keep the three levels in step, in any order and for any stations
(`txQueues_inStep`).
-/

namespace Rtl8723du

open Lib.Machine

variable {n : ℕ}

/-! ### Views of the queues -/

/-- The frames of a station and an access category that wait to be sent. -/
def ApPriv.pend (s : ApPriv n) (i : Fin n) (ac : Ac) : List (XmitFrame n) :=
  ((s.staXmitpriv i).acQ ac).staPending

/-- How often a frame is in the transmit queues of a station. -/
def StaXmitPriv.countPkt (p : StaXmitPriv n) (x : ℕ) : ℕ :=
  p.voQ.staPending.countP (·.pkt = x) + p.viQ.staPending.countP (·.pkt = x) +
    p.beQ.staPending.countP (·.pkt = x) + p.bkQ.staPending.countP (·.pkt = x)

/-- How often a frame is in the queues. -/
def ApPriv.queued (s : ApPriv n) (x : ℕ) : ℕ :=
  ∑ i, (s.sta i).sleepQ.countP (·.pkt = x) + ∑ i, (s.staXmitpriv i).countPkt x

/-- The levels are in step: no frame is in two queues or twice in one, the counters are right, and
the queues that are linked, each once, are those with frames. -/
structure QueuesInStep (s : ApPriv n) : Prop where
  once : ∀ x, s.queued x ≤ 1
  qcnt : ∀ i ac, ((s.staXmitpriv i).acQ ac).qcnt = (s.pend i ac).length
  accnt : ∀ ac, (s.hwxmits ac).accnt = ∑ i, ((s.staXmitpriv i).acQ ac).qcnt
  linkedOnce : ∀ ac, (s.hwxmits ac).staQueue.Nodup
  linked : ∀ ac i, i ∈ (s.hwxmits ac).staQueue ↔ s.pend i ac ≠ []

/-- No frame waits anywhere. -/
structure TxIdle (s : ApPriv n) : Prop where
  xmit : ∀ i, s.staXmitpriv i = {}
  sleepQ : ∀ i, (s.sta i).sleepQ = [] ∧ (s.sta i).mgmtSleepQ = []
  hw : ∀ ac, s.hwxmits ac = {}

/-! ### The calls -/

/-- The calls under the transmit lock. -/
inductive TxEvent (n : ℕ)
  | classifier (f : XmitFrame n)
  | dequeue
  | stop (i : Fin n)
  | wakeup (i : Fin n)

/-- One call. -/
def txStep (conf : ApConf) (s : ApPriv n) : TxEvent n → ApPriv n × List (XmitFrame n)
  | .classifier f => ((rtwXmitClassifier s f).getD s, [])
  | .dequeue =>
      match rtwDequeueXframe conf s with
      | none => (s, [])
      | some (f, s') => (s', [f])
  | .stop i => (stopStaXmit s i, [])
  | .wakeup i => ((wakeupStaToXmit s i).1, [])

/-- A frame that is enqueued is not in a queue. -/
def Unqueued (s : ApPriv n) : TxEvent n → Prop
  | .classifier f => s.queued f.pkt = 0
  | _ => True

/-! ### Where frames belong -/

variable {s s' : ApPriv n} {i j : Fin n} {ac ac' : Ac} {f : XmitFrame n} {x : ℕ}

/-- The frame is for the station, which is associated. -/
def Placed (s : ApPriv n) (i : Fin n) (f : XmitFrame n) : Prop :=
  f.psta = i ∧ rtwGetStainfo s f.ra = some i ∧ (s.sta i).asocState = true

/-- Stations that are looked up and enqueued for as before. -/
def SameStas (s s' : ApPriv n) : Prop :=
  ∀ j, (s'.sta j).macAddr = (s.sta j).macAddr ∧ (s'.sta j).asocState = (s.sta j).asocState

lemma SameStas.of_sta_eq (h : s'.sta = s.sta) : SameStas s s' := fun j => by
  rw [h]
  exact ⟨rfl, rfl⟩

lemma SameStas.trans {s'' : ApPriv n} (h : SameStas s s') (h' : SameStas s' s'') :
    SameStas s s'' := fun j => ⟨(h' j).1.trans (h j).1, (h' j).2.trans (h j).2⟩

lemma SameStas.rtwGetStainfo (h : SameStas s s') (a : MacAddr) :
    rtwGetStainfo s' a = rtwGetStainfo s a := by
  unfold Rtl8723du.rtwGetStainfo
  simp only [(h _).1]

lemma SameStas.placed (h : SameStas s s') : Placed s' i f ↔ Placed s i f := by
  rw [Placed, Placed, h.rtwGetStainfo, (h i).2]

lemma SameStas.of_update {psta : StaInfo n} (h : s'.sta = Function.update s.sta i psta)
    (hmac : psta.macAddr = (s.sta i).macAddr) (hasoc : psta.asocState = (s.sta i).asocState) :
    SameStas s s' := by
  intro j
  rw [h]
  by_cases hj : j = i
  · subst hj
    rw [Function.update_self]
    exact ⟨hmac, hasoc⟩
  · rw [Function.update_of_ne hj]
    exact ⟨rfl, rfl⟩

/-- The queues between two calls, with the places of all frames. -/
structure TxOk (s : ApPriv n) : Prop where
  placed : ∀ i ac, ∀ f ∈ s.pend i ac, Placed s i f ∧ acOf f.priority = ac
  sleepPlaced : ∀ i, ∀ f ∈ (s.sta i).sleepQ, Placed s i f
  qcnt : ∀ i ac, ((s.staXmitpriv i).acQ ac).qcnt = (s.pend i ac).length
  accnt : ∀ ac, (s.hwxmits ac).accnt = ((∑ i, (s.pend i ac).length : ℕ) : ℤ)
  linkedOnce : ∀ ac, (s.hwxmits ac).staQueue.Nodup
  linked : ∀ ac i, i ∈ (s.hwxmits ac).staQueue ↔ s.pend i ac ≠ []
  noMgmt : ∀ i, (s.staXmitpriv i).mgmtQ.staPending = [] ∧ (s.sta i).mgmtSleepQ = []

lemma TxOk.inStep (h : TxOk s) (honce : ∀ x, s.queued x ≤ 1) : QueuesInStep s where
  once := honce
  qcnt := h.qcnt
  accnt ac := by
    rw [h.accnt, Nat.cast_sum]
    exact Finset.sum_congr rfl fun i _ => (h.qcnt i ac).symm
  linkedOnce := h.linkedOnce
  linked := h.linked

/-! ### Counting frames -/

lemma StaXmitPriv.countPkt_modAcQ (p : StaXmitPriv n) (ac : Ac) (g : TxServq n → TxServq n)
    (x : ℕ) : (p.modAcQ ac g).countPkt x + (p.acQ ac).staPending.countP (·.pkt = x) =
      p.countPkt x + (g (p.acQ ac)).staPending.countP (·.pkt = x) := by
  cases ac <;> simp only [modAcQ, acQ, countPkt] <;> omega

lemma queued_modSta (s : ApPriv n) (i : Fin n) (g : StaInfo n → StaInfo n) (x : ℕ) :
    (s.modSta i g).queued x + (s.sta i).sleepQ.countP (·.pkt = x) =
      s.queued x + (g (s.sta i)).sleepQ.countP (·.pkt = x) := by
  have := sum_update (fun psta : StaInfo n => psta.sleepQ.countP (·.pkt = x)) s.sta i
    (g (s.sta i))
  simp only [ApPriv.queued, ApPriv.modSta] at this ⊢
  omega

lemma queued_modXmit (s : ApPriv n) (i : Fin n) (ac : Ac) (g : TxServq n → TxServq n) (x : ℕ) :
    (s.modXmit i fun p => p.modAcQ ac g).queued x + (s.pend i ac).countP (·.pkt = x) =
      s.queued x + (g ((s.staXmitpriv i).acQ ac)).staPending.countP (·.pkt = x) := by
  have hsum := sum_update (fun p : StaXmitPriv n => p.countPkt x) s.staXmitpriv i
    ((s.staXmitpriv i).modAcQ ac g)
  have hmod := (s.staXmitpriv i).countPkt_modAcQ ac g x
  simp only [ApPriv.queued, ApPriv.modXmit, ApPriv.pend] at hsum ⊢
  omega

/-- The waiting frames after the queue of one station is changed. -/
lemma pend_modXmit (s : ApPriv n) (i : Fin n) (ac : Ac) (g : TxServq n → TxServq n) :
    (s.modXmit i fun p => p.modAcQ ac g).pend j ac' =
      if j = i ∧ ac' = ac then (g ((s.staXmitpriv i).acQ ac)).staPending else s.pend j ac' := by
  unfold ApPriv.pend ApPriv.modXmit
  by_cases hj : j = i
  · subst hj
    by_cases hac : ac' = ac
    · subst hac
      simp
    · simp [hac, StaXmitPriv.acQ_modAcQ_of_ne]
  · simp [hj]

lemma acQ_modXmit (s : ApPriv n) (i : Fin n) (ac : Ac) (g : TxServq n → TxServq n) :
    ((s.modXmit i fun p => p.modAcQ ac g).staXmitpriv j).acQ ac' =
      if j = i ∧ ac' = ac then g ((s.staXmitpriv i).acQ ac) else (s.staXmitpriv j).acQ ac' := by
  rw [ApPriv.modXmit]
  by_cases hj : j = i
  · subst hj
    by_cases hac : ac' = ac
    · subst hac
      simp
    · simp [hac, StaXmitPriv.acQ_modAcQ_of_ne]
  · simp [hj]

/-- The lengths of the queues of an access category when one is changed. -/
lemma sum_length_pend {a : Ac} {t : ApPriv n} (hpend : ∀ j, j ≠ i → t.pend j a = s.pend j a) :
    ∑ j, (t.pend j a).length + (s.pend i a).length =
      ∑ j, (s.pend j a).length + (t.pend i a).length := by
  have hsum := sum_update (fun l : List (XmitFrame n) => l.length) (fun j => s.pend j a) i
    (t.pend i a)
  have hupdate : ∀ j, Function.update (fun j => s.pend j a) i (t.pend i a) j =
      t.pend j a := by
    intro j
    by_cases hj : j = i
    · rw [hj, Function.update_self]
    · rw [Function.update_of_ne hj, hpend j hj]
  simp only [hupdate] at hsum
  exact hsum

/-! ### Enqueue and dequeue -/

lemma rtwXmitClassifier_eq (h : Placed s i f) : rtwXmitClassifier s f =
    some ((s.modXmit i fun p => p.modAcQ (acOf f.priority) fun q => q.push f).modHw
      (acOf f.priority) fun h => (h.link i).count 1) := by
  rw [rtwXmitClassifier]
  rw [h.2.1]
  exact if_pos ⟨h.1, h.2.2⟩

lemma placed_of_rtwXmitClassifier (h : rtwXmitClassifier s f = some s') : ∃ i, Placed s i f := by
  unfold rtwXmitClassifier at h
  split at h
  · cases h
  · rename_i i hi
    split at h
    · rename_i hplaced
      exact ⟨i, hplaced.1, hi, hplaced.2⟩
    · cases h

lemma mem_link {h : HwXmit n} : j ∈ (h.link i).staQueue ↔ j ∈ h.staQueue ∨ j = i := by
  rw [HwXmit.link]
  split
  · rename_i hi
    refine ⟨.inl, fun hj => hj.elim id fun heq => heq ▸ hi⟩
  · simp

lemma nodup_link {h : HwXmit n} (hn : h.staQueue.Nodup) : (h.link i).staQueue.Nodup := by
  rw [HwXmit.link]
  split
  · exact hn
  · rename_i hi
    refine List.Nodup.append hn (List.nodup_singleton i) ?_
    intro k hk hki
    obtain rfl := List.mem_singleton.1 hki
    exact hi hk

lemma link_accnt {h : HwXmit n} : (h.link i).accnt = h.accnt := by
  rw [HwXmit.link]
  split <;> rfl

@[simp] lemma modHw_pend (s : ApPriv n) (ac : Ac) (g : HwXmit n → HwXmit n) :
    (s.modHw ac g).pend = s.pend := rfl

lemma modHw_hwxmits (s : ApPriv n) (ac : Ac) (g : HwXmit n → HwXmit n) :
    (s.modHw ac g).hwxmits ac' = if ac' = ac then g (s.hwxmits ac) else s.hwxmits ac' := by
  rw [ApPriv.modHw]
  by_cases hac : ac' = ac
  · subst hac
    simp
  · simp [hac]

/-- One queue is changed, with the hardware queue it belongs to. -/
lemma TxOk.change (h : TxOk s) {g : TxServq n → TxServq n} {k : HwXmit n → HwXmit n} {δ : ℤ}
    (hplaced : ∀ f ∈ (g ((s.staXmitpriv i).acQ ac)).staPending,
      Placed s i f ∧ acOf f.priority = ac)
    (hqcnt : (g ((s.staXmitpriv i).acQ ac)).qcnt = ((s.staXmitpriv i).acQ ac).qcnt + δ)
    (hlength : ((g ((s.staXmitpriv i).acQ ac)).staPending.length : ℤ) =
      (s.pend i ac).length + δ)
    (haccnt : (k (s.hwxmits ac)).accnt = (s.hwxmits ac).accnt + δ)
    (hnodup : (k (s.hwxmits ac)).staQueue.Nodup)
    (hlinked : ∀ j, j ∈ (k (s.hwxmits ac)).staQueue ↔
      if j = i then (g ((s.staXmitpriv i).acQ ac)).staPending ≠ []
      else j ∈ (s.hwxmits ac).staQueue) :
    TxOk ((s.modXmit i fun p => p.modAcQ ac g).modHw ac k) := by
  set s' := (s.modXmit i fun p => p.modAcQ ac g).modHw ac k with hs'
  have hsame : SameStas s s' := .of_sta_eq rfl
  have hpend : ∀ j ac', s'.pend j ac' =
      if j = i ∧ ac' = ac then (g ((s.staXmitpriv i).acQ ac)).staPending else s.pend j ac' :=
    fun j ac' => pend_modXmit s i ac g
  refine ⟨fun j ac' f hf => ?_, fun j f hf => hsame.placed.2 (h.sleepPlaced j f hf),
    fun j ac' => ?_, fun ac' => ?_, fun ac' => ?_, fun ac' j => ?_, fun j => ?_⟩
  · rw [hpend] at hf
    rw [hsame.placed]
    split at hf
    · rename_i hand
      obtain ⟨rfl, rfl⟩ := hand
      exact hplaced f hf
    · exact h.placed j ac' f hf
  · rw [hpend]
    have hacQ : (s'.staXmitpriv j).acQ ac' =
        if j = i ∧ ac' = ac then g ((s.staXmitpriv i).acQ ac) else (s.staXmitpriv j).acQ ac' :=
      acQ_modXmit s i ac g
    rw [hacQ]
    split
    · rw [hqcnt, hlength, h.qcnt]
    · exact h.qcnt j ac'
  · rw [hs', modHw_hwxmits]
    by_cases hac : ac' = ac
    · subst hac
      have hsum := sum_length_pend (s := s) (t := s') (i := i) (a := ac') fun j hj => by
        rw [hpend, if_neg (fun hand => hj hand.1)]
      rw [hpend i, if_pos ⟨rfl, rfl⟩] at hsum
      have hold := h.accnt ac'
      rw [if_pos rfl]
      change (k (s.hwxmits ac')).accnt = ((∑ j, (s'.pend j ac').length : ℕ) : ℤ)
      omega
    · rw [if_neg hac]
      change (s.hwxmits ac').accnt = ((∑ j, (s'.pend j ac').length : ℕ) : ℤ)
      have hsame' : ∀ j, s'.pend j ac' = s.pend j ac' := fun j => by
        rw [hpend, if_neg (fun hand => hac hand.2)]
      simp only [hsame']
      exact h.accnt ac'
  · rw [hs', modHw_hwxmits]
    split
    · exact hnodup
    · exact h.linkedOnce ac'
  · rw [hs', modHw_hwxmits, ← hs', hpend]
    by_cases hac : ac' = ac
    · subst hac
      rw [if_pos rfl]
      refine (hlinked j).trans ?_
      by_cases hj : j = i
      · rw [if_pos hj, if_pos ⟨hj, rfl⟩]
      · rw [if_neg hj, if_neg (fun hand => hj hand.1)]
        exact h.linked ac' j
    · rw [if_neg hac, if_neg (fun hand => hac hand.2)]
      exact h.linked ac' j
  · refine ⟨?_, (h.noMgmt j).2⟩
    have hmgmt : (s'.staXmitpriv j).mgmtQ = (s.staXmitpriv j).mgmtQ := by
      rw [hs']
      rw [ApPriv.modHw, ApPriv.modXmit]
      by_cases hj : j = i
      · subst hj
        simp only [Function.update_self]
        cases ac <;> rfl
      · simp [hj]
    rw [hmgmt]
    exact (h.noMgmt j).1

lemma TxOk.classifier (h : TxOk s) (hf : Placed s i f) :
    TxOk ((s.modXmit i fun p => p.modAcQ (acOf f.priority) fun q => q.push f).modHw
      (acOf f.priority) fun h => (h.link i).count 1) := by
  refine h.change (δ := 1) (fun f' hf' => ?_) rfl ?_ ?_ (nodup_link (h.linkedOnce _))
    (fun j => ?_)
  · rcases List.mem_append.1 hf' with hf' | hf'
    · exact h.placed i _ f' hf'
    · obtain rfl := List.mem_singleton.1 hf'
      exact ⟨hf, rfl⟩
  · rw [length_push]
    push_cast
    rfl
  · change ((s.hwxmits (acOf f.priority)).link i).accnt + 1 = _
    rw [link_accnt]
  · refine mem_link.trans ?_
    by_cases hj : j = i
    · simp [hj, TxServq.push]
    · simp [hj]

lemma TxOk.classifier_some (h : TxOk s) (hs' : rtwXmitClassifier s f = some s') :
    TxOk s' ∧ s'.queued x = s.queued x + if f.pkt = x then 1 else 0 := by
  obtain ⟨i, hf⟩ := placed_of_rtwXmitClassifier hs'
  rw [rtwXmitClassifier_eq hf] at hs'
  obtain rfl := Option.some.inj hs'
  refine ⟨h.classifier hf, ?_⟩
  have hqueued := queued_modXmit s i (acOf f.priority) (fun q => q.push f) x
  have hpush : (((s.staXmitpriv i).acQ (acOf f.priority)).push f).staPending.countP (·.pkt = x) =
      (s.pend i (acOf f.priority)).countP (·.pkt = x) + if f.pkt = x then 1 else 0 := by
    simp [TxServq.push, ApPriv.pend, List.countP_append, List.countP_cons]
  change (s.modXmit i fun p => p.modAcQ (acOf f.priority) fun q => q.push f).queued x = _
  omega

lemma TxOk.dequeueOne (h : TxOk s) (hd : dequeueOneXmitframe s ac i = some (f, s')) :
    TxOk s' ∧ s'.queued x + (if f.pkt = x then 1 else 0) = s.queued x := by
  unfold dequeueOneXmitframe at hd
  split at hd
  · cases hd
  · rename_i f' rest hpend
    obtain ⟨rfl, rfl⟩ := Prod.mk.injEq _ _ _ _ ▸ Option.some.inj hd
    have hpend' : s.pend i ac = f' :: rest := hpend
    have hpop : (((s.staXmitpriv i).acQ ac).pop).staPending = rest := by
      rw [TxServq.pop, hpend]
      rfl
    constructor
    · refine h.change (δ := -1) (fun g hg => ?_) rfl ?_ ?_ ?_ (fun j => ?_)
      · rw [hpop] at hg
        exact h.placed i ac g (hpend' ▸ List.mem_cons_of_mem _ hg)
      · rw [hpop, hpend', List.length_cons]
        omega
      · split <;> rfl
      · split
        · exact (h.linkedOnce ac).filter _
        · exact h.linkedOnce ac
      · rw [hpop]
        have hi : i ∈ (s.hwxmits ac).staQueue := (h.linked ac i).2 (by rw [hpend']; simp)
        by_cases hrest : rest = []
        · rw [if_pos hrest]
          by_cases hj : j = i
          · simp [hj, hrest, HwXmit.count, HwXmit.unlink]
          · simp [hj, HwXmit.count, HwXmit.unlink]
        · rw [if_neg hrest]
          by_cases hj : j = i
          · simp [hj, hrest, HwXmit.count, hi]
          · simp [hj, HwXmit.count]
    · have hqueued := queued_modXmit s i ac (fun q => q.pop) x
      rw [hpop, hpend', List.countP_cons] at hqueued
      have hone : (if decide (f'.pkt = x) = true then 1 else 0) = if f'.pkt = x then 1 else 0 := by
        simp
      rw [hone] at hqueued
      change (s.modXmit i fun p => p.modAcQ ac fun q => q.pop).queued x + _ = _
      omega

/-! ### Going to sleep -/

/-- The frames of the station are buffered: group frames while any station dozes, others while
it dozes itself. -/
def Dozes (s : ApPriv n) (i : Fin n) : Prop :=
  if (s.sta i).macAddr = some bcAddr then s.staDzBitmap.Nonempty
  else (s.sta i).sleepState = true ∧ (s.sta i).aid ∈ s.staDzBitmap

/-- The frame as `dequeue_xmitframes_to_sleeping_queue` buffers it. -/
def XmitFrame.untrigger (f : XmitFrame n) : XmitFrame n := { f with triggered := false }

lemma isMcast_of_placed (h : Placed s i f) :
    isMcast f.ra = true ↔ (s.sta i).macAddr = some bcAddr := by
  have hmac := macAddr_of_rtwGetStainfo h.2.1
  constructor
  · intro hmc
    rw [hmac, if_pos hmc]
  · intro hbc
    by_contra hmc
    rw [hmac, if_neg hmc] at hbc
    exact ne_bcAddr_of_not_isMcast hmc (Option.some.inj hbc)

/-- What else stays as it is when frames are moved between the queues of a station: it is still
dozing, and so is any other. -/
structure OnlyQueues (i : Fin n) (s s' : ApPriv n) : Prop where
  other : ∀ j, j ≠ i → s'.sta j = s.sta j
  same : SameStas s s'
  mgmt : (s'.sta i).mgmtSleepQ = (s.sta i).mgmtSleepQ
  sleeps : (s'.sta i).sleepState = (s.sta i).sleepState ∧ (s'.sta i).aid = (s.sta i).aid
  dz : s.staDzBitmap ⊆ s'.staDzBitmap

lemma OnlyQueues.refl (i : Fin n) (s : ApPriv n) : OnlyQueues i s s :=
  ⟨fun _ _ => rfl, fun _ => ⟨rfl, rfl⟩, rfl, ⟨rfl, rfl⟩, Finset.Subset.refl _⟩

lemma OnlyQueues.trans {s'' : ApPriv n} (h : OnlyQueues i s s') (h' : OnlyQueues i s' s'') :
    OnlyQueues i s s'' :=
  ⟨fun j hj => (h'.other j hj).trans (h.other j hj), h.same.trans h'.same,
    h'.mgmt.trans h.mgmt, ⟨h'.sleeps.1.trans h.sleeps.1, h'.sleeps.2.trans h.sleeps.2⟩,
    h.dz.trans h'.dz⟩

lemma OnlyQueues.dozes (h : OnlyQueues i s s') (hd : Dozes s j) : Dozes s' j := by
  rw [Dozes] at hd ⊢
  rw [(h.same j).1]
  split at hd
  · rw [if_pos ‹_›]
    exact hd.mono h.dz
  · rw [if_neg ‹_›]
    by_cases hj : j = i
    · subst hj
      rw [h.sleeps.1, h.sleeps.2]
      exact ⟨hd.1, h.dz hd.2⟩
    · rw [h.other j hj]
      exact ⟨hd.1, h.dz hd.2⟩

/-- A frame of a dozing station is buffered. -/
lemma enqueue_of_dozes (h : Placed s i f) (ht : f.triggered = false) (hd : Dozes s i) :
    ∃ s', xmitframeEnqueueForSleepingSta s f = some s' ∧ OnlyQueues i s s' ∧
      (s'.sta i).sleepQ = (s.sta i).sleepQ ++ [f] ∧ s'.staXmitpriv = s.staXmitpriv ∧
      s'.hwxmits = s.hwxmits := by
  rw [xmitframeEnqueueForSleepingSta]
  rw [h.2.1]
  dsimp only
  rw [if_neg (by simp [h.1, h.2.2, ht])]
  unfold Dozes at hd
  by_cases hmc : isMcast f.ra = true
  · rw [if_pos ((isMcast_of_placed h).1 hmc)] at hd
    rw [if_pos hmc, if_pos hd]
    refine ⟨_, rfl, ⟨fun j hj => ?_, .of_update rfl rfl rfl, ?_, ?_,
      ?_⟩, ?_, rfl, rfl⟩
    · exact Function.update_of_ne hj ..
    · simp [StaInfo.bufferGroup]
    · simp [StaInfo.bufferGroup]
    · exact Finset.subset_insert ..
    · simp [StaInfo.bufferGroup]
  · rw [if_neg (fun hbc => hmc ((isMcast_of_placed h).2 hbc))] at hd
    rw [if_neg hmc, if_pos hd]
    refine ⟨_, rfl, ⟨fun j hj => ?_, .of_update rfl rfl rfl, ?_, ?_,
      ?_⟩, ?_, rfl, rfl⟩
    · exact Function.update_of_ne hj ..
    · simp [StaInfo.buffer]
    · simp [StaInfo.buffer]
    · exact Finset.Subset.refl _
    · simp [StaInfo.buffer]

/-- So many frames are counted off a queue. -/
def TxServq.countOffMany (k : ℕ) (q : TxServq n) : TxServq n :=
  { staPending := q.staPending, qcnt := q.qcnt - k }

lemma modAcQ_modAcQ (p : StaXmitPriv n) (ac : Ac) (g g' : TxServq n → TxServq n) :
    (p.modAcQ ac g).modAcQ ac g' = p.modAcQ ac fun q => g' (g q) := by
  cases ac <;> rfl

lemma modAcQ_id (p : StaXmitPriv n) (ac : Ac) : (p.modAcQ ac fun q => q) = p := by
  cases ac <;> rfl

/-- The loop over a queue of a dozing station moves all its frames. -/
lemma dequeueLoop_moves (fs : List (XmitFrame n)) : ∀ {s : ApPriv n},
    (∀ f ∈ fs, Placed s i f ∧ acOf f.priority = ac) → Dozes s i →
    OnlyQueues i s (dequeueLoop i ac fs s) ∧
      ((dequeueLoop i ac fs s).sta i).sleepQ =
        (s.sta i).sleepQ ++ fs.map XmitFrame.untrigger ∧
      (dequeueLoop i ac fs s).staXmitpriv = Function.update s.staXmitpriv i
        ((s.staXmitpriv i).modAcQ ac (TxServq.countOffMany fs.length)) ∧
      (dequeueLoop i ac fs s).hwxmits = Function.update s.hwxmits ac
        ((s.hwxmits ac).count (-fs.length)) := by
  induction fs with
  | nil =>
      intro s _ _
      refine ⟨.refl i s, (List.append_nil _).symm, ?_, ?_⟩
      · have hid : (s.staXmitpriv i).modAcQ ac (TxServq.countOffMany 0) = s.staXmitpriv i := by
          refine Eq.trans ?_ (modAcQ_id _ ac)
          refine congrArg _ (funext fun q => ?_)
          simp [TxServq.countOffMany]
        exact (Function.update_eq_self_iff.2 hid).symm
      · have hid : (s.hwxmits ac).count (-((0 : ℕ) : ℤ)) = s.hwxmits ac := by
          simp [HwXmit.count]
        exact (Function.update_eq_self_iff.2 hid).symm
  | cons f fs ih =>
      intro s hplaced hd
      obtain ⟨hf, hac⟩ := hplaced f (by simp)
      obtain ⟨s', henq, honly, hsleep, hxmit, hhw⟩ :=
        enqueue_of_dozes (f := f.untrigger) hf rfl hd
      have hloop : dequeueLoop i ac (f :: fs) s = dequeueLoop i ac fs
          ((s'.modXmit i fun p => p.modAcQ ac fun q => q.countOff).modHw ac
            fun h => h.count (-1)) := by
        rw [dequeueLoop]
        dsimp only
        rw [show xmitframeEnqueueForSleepingSta s { f with triggered := false } = some s' from henq]
        dsimp only
        rw [hac]
      set s'' := (s'.modXmit i fun p => p.modAcQ ac fun q => q.countOff).modHw ac
        fun h => h.count (-1) with hs''
      have honly' : OnlyQueues i s s'' :=
        ⟨honly.other, honly.same, honly.mgmt, honly.sleeps, honly.dz⟩
      obtain ⟨hrest, hsleep', hxmit', hhw'⟩ := ih (s := s'') (fun g hg =>
        ⟨honly'.same.placed.2 (hplaced g (List.mem_cons_of_mem _ hg)).1,
          (hplaced g (List.mem_cons_of_mem _ hg)).2⟩) (honly'.dozes hd)
      rw [hloop]
      refine ⟨honly'.trans hrest, ?_, ?_, ?_⟩
      · rw [hsleep']
        change (s'.sta i).sleepQ ++ _ = _
        rw [hsleep]
        simp
      · rw [hxmit']
        change Function.update (Function.update s'.staXmitpriv i _) i _ = _
        rw [hxmit, Function.update_idem]
        refine congrArg _ ?_
        change ((Function.update s'.staXmitpriv i ((s'.staXmitpriv i).modAcQ ac
          fun q => q.countOff)) i).modAcQ ac _ = _
        rw [Function.update_self, modAcQ_modAcQ, hxmit]
        refine congrArg _ (funext fun q => ?_)
        simp only [TxServq.countOffMany, TxServq.countOff, List.length_cons]
        congr 1
        push_cast
        omega
      · rw [hhw']
        change Function.update (Function.update s'.hwxmits ac _) ac _ = _
        rw [hhw, Function.update_idem]
        refine congrArg _ ?_
        change ((Function.update s'.hwxmits ac ((s'.hwxmits ac).count (-1))) ac).count _ = _
        rw [Function.update_self, hhw]
        simp only [HwXmit.count, List.length_cons]
        congr 1
        push_cast
        omega

/-- The queues are what they were, but for other fields and other `sleep_q` of the stations. -/
lemma TxOk.of_xmit (h : TxOk s) (hxmit : s'.staXmitpriv = s.staXmitpriv)
    (hhw : s'.hwxmits = s.hwxmits) (hsame : SameStas s s')
    (hsleep : ∀ j, ∀ f ∈ (s'.sta j).sleepQ, Placed s j f)
    (hmgmt : ∀ j, (s'.sta j).mgmtSleepQ = (s.sta j).mgmtSleepQ) : TxOk s' := by
  have hpend : s'.pend = s.pend := by
    unfold ApPriv.pend
    rw [hxmit]
  refine ⟨fun j ac f hf => ?_, fun j f hf => hsame.placed.2 (hsleep j f hf), fun j ac => ?_,
    fun ac => ?_, fun ac => ?_, fun ac j => ?_, fun j => ?_⟩
  · rw [hpend] at hf
    rw [hsame.placed]
    exact h.placed j ac f hf
  · rw [hpend, hxmit]
    exact h.qcnt j ac
  · rw [hpend, hhw]
    exact h.accnt ac
  · rw [hhw]
    exact h.linkedOnce ac
  · rw [hpend, hhw]
    exact h.linked ac j
  · rw [hxmit, hmgmt]
    exact h.noMgmt j

/-- The queue of an access category moves to the `sleep_q` as a whole. -/
lemma TxOk.dequeueXmitframes (h : TxOk s) (hd : Dozes s i) (ac : Ac) :
    TxOk (dequeueXmitframesToSleepingQueue i s ac) ∧
      OnlyQueues i s (dequeueXmitframesToSleepingQueue i s ac) ∧
      ∀ x, (dequeueXmitframesToSleepingQueue i s ac).queued x = s.queued x := by
  obtain ⟨honly, hsleep, hxmit, hhw⟩ := dequeueLoop_moves (s.pend i ac)
    (s := s.modXmit i fun p => p.modAcQ ac fun q => q.clear)
    (fun f hf => h.placed i ac f hf) hd
  set s₁ := dequeueLoop i ac (s.pend i ac) (s.modXmit i fun p => p.modAcQ ac fun q => q.clear)
    with hs₁
  -- the queues without the frames, before they are in the `sleep_q`
  set g : TxServq n → TxServq n := fun q => (q.clear).countOffMany (s.pend i ac).length with hg
  set k : HwXmit n → HwXmit n := fun h => (h.count (-(s.pend i ac).length)).unlink i with hk
  set t := (s.modXmit i fun p => p.modAcQ ac g).modHw ac k with ht
  have hcleared : TxOk t := by
    refine h.change (δ := -(s.pend i ac).length) (fun f hf => by cases hf) rfl ?_ rfl
      ((h.linkedOnce ac).filter _) (fun j => ?_)
    · change ((0 : ℕ) : ℤ) = _
      omega
    · by_cases hj : j = i
      · simp [hk, hg, hj, HwXmit.unlink, HwXmit.count, TxServq.countOffMany, TxServq.clear]
      · simp [hk, hj, HwXmit.unlink, HwXmit.count]
  have hxmit' : s₁.staXmitpriv = t.staXmitpriv := by
    rw [hxmit]
    change Function.update (Function.update s.staXmitpriv i _) i _ = _
    rw [Function.update_idem]
    refine congrArg (Function.update s.staXmitpriv i) ?_
    change ((Function.update s.staXmitpriv i
      ((s.staXmitpriv i).modAcQ ac fun q => q.clear)) i).modAcQ ac _ = _
    rw [Function.update_self, modAcQ_modAcQ]
  have hhw' : (dequeueXmitframesToSleepingQueue i s ac).hwxmits = t.hwxmits := by
    change Function.update s₁.hwxmits ac ((s₁.hwxmits ac).unlink i) = _
    rw [hhw, Function.update_idem]
    refine congrArg (Function.update s.hwxmits ac) ?_
    change ((Function.update s.hwxmits ac ((s.hwxmits ac).count (-(s.pend i ac).length))) ac).unlink
      i = _
    rw [Function.update_self]
    rfl
  have hsame : SameStas t (dequeueXmitframesToSleepingQueue i s ac) := honly.same
  refine ⟨hcleared.of_xmit hxmit' hhw' hsame (fun j f hf => ?_) (fun j => ?_),
    ⟨honly.other, honly.same, honly.mgmt, honly.sleeps, honly.dz⟩, fun x => ?_⟩
  · change f ∈ (s₁.sta j).sleepQ at hf
    by_cases hj : j = i
    · subst hj
      rw [hsleep] at hf
      rcases List.mem_append.1 hf with hf | hf
      · exact h.sleepPlaced j f hf
      · obtain ⟨f', hf', rfl⟩ := List.mem_map.1 hf
        exact (h.placed j ac f' hf').1
    · rw [honly.other j hj] at hf
      exact h.sleepPlaced j f hf
  · change (s₁.sta j).mgmtSleepQ = (s.sta j).mgmtSleepQ
    by_cases hj : j = i
    · subst hj
      exact honly.mgmt
    · rw [honly.other j hj]
      rfl
  · -- what the queue loses the `sleep_q` gains
    have hlost := queued_modXmit s i ac g x
    have hgained := sum_update (fun psta : StaInfo n => psta.sleepQ.countP (·.pkt = x)) s.sta i
      (s₁.sta i)
    have hsta : Function.update s.sta i (s₁.sta i) = s₁.sta := by
      funext j
      by_cases hj : j = i
      · subst hj
        rw [Function.update_self]
      · rw [Function.update_of_ne hj, honly.other j hj]
        rfl
    have hcount : (s₁.sta i).sleepQ.countP (·.pkt = x) =
        (s.sta i).sleepQ.countP (·.pkt = x) + (s.pend i ac).countP (·.pkt = x) := by
      rw [hsleep, List.countP_append, List.countP_map]
      rfl
    have hempty : (g ((s.staXmitpriv i).acQ ac)).staPending.countP (·.pkt = x) = 0 := rfl
    rw [hsta, hcount] at hgained
    have hnew : (dequeueXmitframesToSleepingQueue i s ac).queued x =
        ∑ j, (s₁.sta j).sleepQ.countP (·.pkt = x) + ∑ j, (t.staXmitpriv j).countPkt x := by
      rw [← hxmit']
      rfl
    have hmid : (s.modXmit i fun p => p.modAcQ ac g).queued x =
        ∑ j, (s.sta j).sleepQ.countP (·.pkt = x) + ∑ j, (t.staXmitpriv j).countPkt x := rfl
    rw [hnew]
    omega

lemma TxOk.dequeueAll (acs : List Ac) : ∀ {s : ApPriv n}, TxOk s → Dozes s i →
    TxOk (acs.foldl (dequeueXmitframesToSleepingQueue i) s) ∧
      OnlyQueues i s (acs.foldl (dequeueXmitframesToSleepingQueue i) s) ∧
      ∀ x, (acs.foldl (dequeueXmitframesToSleepingQueue i) s).queued x = s.queued x := by
  induction acs with
  | nil => exact fun h _ => ⟨h, .refl i _, fun _ => rfl⟩
  | cons ac acs ih =>
      intro s h hd
      obtain ⟨hfirst, honly, hqueued⟩ := h.dequeueXmitframes hd ac
      obtain ⟨hrest, honly', hqueued'⟩ := ih hfirst (honly.dozes hd)
      exact ⟨hrest, honly.trans honly', fun x => (hqueued' x).trans (hqueued x)⟩

/-- Stations and queues that hold the same frames. -/
lemma queued_congr (hsleep : ∀ j, (s'.sta j).sleepQ = (s.sta j).sleepQ)
    (hxmit : s'.staXmitpriv = s.staXmitpriv) (x : ℕ) : s'.queued x = s.queued x := by
  unfold ApPriv.queued
  rw [hxmit]
  simp only [hsleep]

/-- There are no management frames to move. -/
lemma TxOk.dequeueMgmt (h : TxOk s) (i : Fin n) :
    TxOk (dequeueMgmtXmitframeToSleepq i s) ∧
      (dequeueMgmtXmitframeToSleepq i s).sta = s.sta ∧
      (dequeueMgmtXmitframeToSleepq i s).staDzBitmap = s.staDzBitmap ∧
      (dequeueMgmtXmitframeToSleepq i s).staXmitpriv = s.staXmitpriv := by
  have hnone := (h.noMgmt i).1
  rw [dequeueMgmtXmitframeToSleepq]
  rw [hnone]
  have hclear : (s.staXmitpriv i).modMgmtQ (fun q => q.clear) = s.staXmitpriv i := by
    rw [StaXmitPriv.modMgmtQ, TxServq.clear]
    rw [← hnone]
  have hxmit : (s.modXmit i fun p => p.modMgmtQ fun q => q.clear).staXmitpriv = s.staXmitpriv := by
    rw [ApPriv.modXmit]
    exact Function.update_eq_self_iff.2 hclear
  exact ⟨h.of_xmit hxmit rfl (.of_sta_eq rfl) h.sleepPlaced fun _ => rfl, rfl, rfl, hxmit⟩

lemma TxOk.stop (h : TxOk s) (i : Fin n) :
    TxOk (stopStaXmit s i) ∧ ∀ x, (stopStaXmit s i).queued x = s.queued x := by
  set s₁ := (s.modSta i fun psta => psta.fallAsleep).modDz
    (insert ((s.modSta i fun psta => psta.fallAsleep).sta i).aid) with hs₁
  have hfields : ∀ j, (s₁.sta j).sleepQ = (s.sta j).sleepQ ∧
      (s₁.sta j).mgmtSleepQ = (s.sta j).mgmtSleepQ := by
    intro j
    change ((s.modSta i fun psta => psta.fallAsleep).sta j).sleepQ = _ ∧
      ((s.modSta i fun psta => psta.fallAsleep).sta j).mgmtSleepQ = _
    by_cases hj : j = i
    · subst hj
      rw [ApPriv.modSta_sta_self]
      exact ⟨rfl, rfl⟩
    · rw [ApPriv.modSta_sta_of_ne s hj]
      exact ⟨rfl, rfl⟩
  have hsame : SameStas s s₁ := .of_update rfl rfl rfl
  have h₁ : TxOk s₁ := h.of_xmit rfl rfl hsame
    (fun j f hf => h.sleepPlaced j f ((hfields j).1 ▸ hf)) fun j => (hfields j).2
  have hasleep : ∀ s₂ : ApPriv n, s₂.sta = s₁.sta → s₂.staDzBitmap = s₁.staDzBitmap →
      Dozes s₂ i ∧ s₂.staDzBitmap.Nonempty := by
    intro s₂ hsta hdz
    have hmem : (s₂.sta i).aid ∈ s₂.staDzBitmap := by
      rw [hsta, hdz]
      exact Finset.mem_insert_self ..
    refine ⟨?_, ⟨_, hmem⟩⟩
    rw [Dozes]
    split
    · exact ⟨_, hmem⟩
    · refine ⟨?_, hmem⟩
      rw [hsta]
      change ((s.modSta i fun psta => psta.fallAsleep).sta i).sleepState = true
      rw [ApPriv.modSta_sta_self]
      rfl
  obtain ⟨h₂, hsta₂, hdz₂, hxmit₂⟩ := h₁.dequeueMgmt i
  obtain ⟨hdoze, hany⟩ := hasleep _ hsta₂ hdz₂
  obtain ⟨h₃, honly, hqueued⟩ := h₂.dequeueAll [.vo, .vi, .be, .bk] hdoze
  have hqueued₃ : ∀ x, ([Ac.vo, .vi, .be, .bk].foldl (dequeueXmitframesToSleepingQueue i)
      (dequeueMgmtXmitframeToSleepq i s₁)).queued x = s.queued x := fun x => by
    rw [hqueued, queued_congr (fun j => by rw [hsta₂]) hxmit₂,
      queued_congr (fun j => (hfields j).1) rfl]
  unfold stopStaXmit
  dsimp only
  rw [← hs₁]
  cases hb : rtwGetBcmcStainfo ([Ac.vo, .vi, .be, .bk].foldl
      (dequeueXmitframesToSleepingQueue i) (dequeueMgmtXmitframeToSleepq i s₁)) with
  | none => exact ⟨h₃, hqueued₃⟩
  | some b =>
      have hbdoze : Dozes ([Ac.vo, .vi, .be, .bk].foldl (dequeueXmitframesToSleepingQueue i)
          (dequeueMgmtXmitframeToSleepq i s₁)) b := by
        rw [Dozes]
        rw [if_pos (macAddr_of_rtwGetBcmcStainfo hb)]
        exact hany.mono honly.dz
      obtain ⟨h₄, -, hqueued₄⟩ := h₃.dequeueAll [.vo, .vi, .be, .bk] hbdoze
      exact ⟨h₄, fun x => (hqueued₄ x).trans (hqueued₃ x)⟩

/-! ### Waking up -/

/-- What a release leaves of a frame. -/
def XmitFrame.key (f : XmitFrame n) : MacAddr × Fin n × ℕ × ℕ := (f.ra, f.psta, f.priority, f.pkt)

lemma placed_congr {f' : XmitFrame n} (h : f'.key = f.key) : Placed s i f' ↔ Placed s i f := by
  simp only [XmitFrame.key, Prod.mk.injEq] at h
  rw [Placed, Placed, h.1, h.2.1]

/-- A turn of a release loop takes the first frame out. -/
structure TakesFirst (turn : StaInfo n → XmitFrame n → StaInfo n × XmitFrame n) : Prop where
  sleepQ : ∀ psta f, (turn psta f).1.sleepQ = psta.sleepQ.tail
  same : ∀ psta f, (turn psta f).1.macAddr = psta.macAddr ∧
    (turn psta f).1.asocState = psta.asocState ∧ (turn psta f).1.mgmtSleepQ = psta.mgmtSleepQ
  sleeps : ∀ psta f, (turn psta f).1.sleepState = psta.sleepState
  key : ∀ psta f, (turn psta f).2.key = f.key

lemma takesFirst_wakeupTurn : TakesFirst (n := n) wakeupTurn where
  sleepQ := wakeupTurn_sleepQ
  same psta f := by
    rw [wakeupTurn]
    dsimp only
    split <;> exact ⟨rfl, rfl, rfl⟩
  sleeps psta f := by
    rw [wakeupTurn]
    dsimp only
    split <;> rfl
  key psta f := by
    rw [wakeupTurn]
    dsimp only
    split <;> rfl

lemma takesFirst_bmcTurn : TakesFirst (n := n) bmcTurn :=
  ⟨fun _ _ => rfl, fun _ _ => ⟨rfl, rfl, rfl⟩, fun _ _ => rfl, fun _ _ => rfl⟩

lemma TakesFirst.sleepState {turn : StaInfo n → XmitFrame n → StaInfo n × XmitFrame n}
    (ht : TakesFirst turn) (fs : List (XmitFrame n)) : ∀ psta : StaInfo n,
    (Rtl8723du.releaseLoop turn fs psta).1.sleepState = psta.sleepState := by
  induction fs with
  | nil => exact fun _ => rfl
  | cons f fs ih => exact fun psta => (ih _).trans (ht.sleeps psta f)

lemma TakesFirst.releaseLoop {turn : StaInfo n → XmitFrame n → StaInfo n × XmitFrame n}
    (ht : TakesFirst turn) (fs : List (XmitFrame n)) : ∀ psta : StaInfo n,
    (releaseLoop turn fs psta).1.sleepQ = psta.sleepQ.drop fs.length ∧
      (releaseLoop turn fs psta).1.macAddr = psta.macAddr ∧
      (releaseLoop turn fs psta).1.asocState = psta.asocState ∧
      (releaseLoop turn fs psta).1.mgmtSleepQ = psta.mgmtSleepQ ∧
      (releaseLoop turn fs psta).2.map XmitFrame.key = fs.map XmitFrame.key := by
  induction fs with
  | nil => exact fun psta => ⟨rfl, rfl, rfl, rfl, rfl⟩
  | cons f fs ih =>
      intro psta
      obtain ⟨hsleep, hmac, hasoc, hmgmt, hkey⟩ := ih (turn psta f).1
      obtain ⟨hmac', hasoc', hmgmt'⟩ := ht.same psta f
      refine ⟨?_, hmac.trans hmac', hasoc.trans hasoc', hmgmt.trans hmgmt', ?_⟩
      · refine hsleep.trans ?_
        rw [ht.sleepQ, List.drop_tail, List.length_cons]
      · exact congrArg₂ List.cons (ht.key psta f) hkey

/-- Frames that belong to a station are enqueued. -/
lemma TxOk.enqueueAll (fs : List (XmitFrame n)) : ∀ {s : ApPriv n}, TxOk s →
    (∀ f ∈ fs, Placed s i f) → TxOk (fs.foldl rtwHalXmitframeEnqueue s) ∧
      ∀ x, (fs.foldl rtwHalXmitframeEnqueue s).queued x =
        s.queued x + fs.countP (·.pkt = x) := by
  induction fs with
  | nil => exact fun h _ => ⟨h, fun _ => rfl⟩
  | cons f fs ih =>
      intro s h hplaced
      have heq := rtwXmitClassifier_eq (hplaced f (by simp))
      have hsta := rtwXmitClassifier_sta heq
      obtain ⟨hrest, hqueued⟩ := ih (h.classifier_some (x := 0) heq).1 fun g hg =>
        (SameStas.of_sta_eq hsta).placed.2 (hplaced g (List.mem_cons_of_mem _ hg))
      rw [List.foldl_cons, rtwHalXmitframeEnqueue, heq, Option.getD_some]
      refine ⟨hrest, fun x => ?_⟩
      rw [hqueued, (h.classifier_some (x := x) heq).2, List.countP_cons]
      simp only [decide_eq_true_eq]
      omega

lemma countP_pkt_of_key {fs gs : List (XmitFrame n)}
    (h : fs.map XmitFrame.key = gs.map XmitFrame.key) (x : ℕ) :
    fs.countP (·.pkt = x) = gs.countP (·.pkt = x) := by
  have hkey : ∀ l : List (XmitFrame n),
      l.countP (·.pkt = x) = (l.map XmitFrame.key).countP (·.2.2.2 = x) := fun l => by
    rw [List.countP_map]
    rfl
  rw [hkey, hkey, h]

/-- The whole `sleep_q` of a station is released. -/
lemma TxOk.releaseSleepQ (h : TxOk s) {turn : StaInfo n → XmitFrame n → StaInfo n × XmitFrame n}
    (ht : TakesFirst turn) (i : Fin n) :
    TxOk (releaseSleepQ turn i s).1 ∧
      ∀ x, (releaseSleepQ turn i s).1.queued x = s.queued x := by
  obtain ⟨hsleep, hmac, hasoc, hmgmt, hkey⟩ := ht.releaseLoop (s.sta i).sleepQ (s.sta i)
  unfold Rtl8723du.releaseSleepQ
  dsimp only
  set r := releaseLoop turn (s.sta i).sleepQ (s.sta i) with hr
  rw [List.drop_length] at hsleep
  set s₁ := s.modSta i fun _ => r.1 with hs₁
  have hsame : SameStas s s₁ := .of_update rfl hmac hasoc
  have hsleep₁ : ∀ j, j ≠ i → s₁.sta j = s.sta j := fun j hj => ApPriv.modSta_sta_of_ne s hj _
  have hself : s₁.sta i = r.1 := ApPriv.modSta_sta_self ..
  have h₁ : TxOk s₁ := by
    refine h.of_xmit rfl rfl hsame (fun j f hf => ?_) (fun j => ?_)
    · by_cases hj : j = i
      · subst hj
        rw [hself, hsleep] at hf
        cases hf
      · rw [hsleep₁ j hj] at hf
        exact h.sleepPlaced j f hf
    · by_cases hj : j = i
      · subst hj
        rw [hself]
        exact hmgmt
      · rw [hsleep₁ j hj]
  obtain ⟨hfinal, hqueued⟩ := h₁.enqueueAll (i := i) r.2 fun f hf => by
    obtain ⟨g, hg, hgf⟩ := List.mem_map.1 (hkey ▸ List.mem_map_of_mem hf)
    exact hsame.placed.2 ((placed_congr hgf.symm).2 (h.sleepPlaced i g hg))
  refine ⟨hfinal, fun x => ?_⟩
  have hlost := queued_modSta s i (fun _ => r.1) x
  rw [hsleep, List.countP_nil] at hlost
  rw [hqueued, countP_pkt_of_key hkey]
  exact hlost

/-- There are no management frames to release. -/
lemma TxOk.releaseMgmt (h : TxOk s) (i : Fin n) : releaseMgmt i s = s := by
  unfold Rtl8723du.releaseMgmt
  rw [(h.noMgmt i).2]
  change s.modSta i (fun _ => s.sta i) = s
  rw [ApPriv.modSta]
  rw [Function.update_eq_self]

/-- Other fields of one station change. -/
lemma TxOk.modSta (h : TxOk s) {g : StaInfo n → StaInfo n}
    (hg : ∀ psta, (g psta).sleepQ = psta.sleepQ ∧ (g psta).macAddr = psta.macAddr ∧
      (g psta).asocState = psta.asocState ∧ (g psta).mgmtSleepQ = psta.mgmtSleepQ) (i : Fin n) :
    TxOk (s.modSta i g) ∧ ∀ x, (s.modSta i g).queued x = s.queued x := by
  have hsta : ∀ j, ((s.modSta i g).sta j).sleepQ = (s.sta j).sleepQ ∧
      ((s.modSta i g).sta j).mgmtSleepQ = (s.sta j).mgmtSleepQ := by
    intro j
    by_cases hj : j = i
    · subst hj
      rw [ApPriv.modSta_sta_self]
      exact ⟨(hg _).1, (hg _).2.2.2⟩
    · rw [ApPriv.modSta_sta_of_ne s hj]
      exact ⟨rfl, rfl⟩
  constructor
  · refine h.of_xmit rfl rfl (.of_update rfl (hg _).2.1 (hg _).2.2.1) (fun j f hf => ?_)
      fun j => (hsta j).2
    exact h.sleepPlaced j f ((hsta j).1 ▸ hf)
  · exact queued_congr (fun j => (hsta j).1) rfl

/-- The bitmaps change. -/
lemma TxOk.modMaps (h : TxOk s) (g g' : Finset ℕ → Finset ℕ) :
    TxOk ((s.modTim g).modDz g') ∧ ∀ x, ((s.modTim g).modDz g').queued x = s.queued x :=
  ⟨h.of_xmit rfl rfl (.of_sta_eq rfl) h.sleepPlaced fun _ => rfl, fun _ => rfl⟩

lemma TxOk.wakeupBmc (h : TxOk s) :
    TxOk (wakeupBmc s).1 ∧ ∀ x, (wakeupBmc s).1.queued x = s.queued x := by
  unfold Rtl8723du.wakeupBmc
  cases rtwGetBcmcStainfo s with
  | none => exact ⟨h, fun _ => rfl⟩
  | some b =>
      dsimp only
      split
      · exact ⟨h, fun _ => rfl⟩
      · obtain ⟨hrel, hqueued⟩ := h.releaseSleepQ takesFirst_bmcTurn b
        split
        · obtain ⟨hclear, hqueued'⟩ := hrel.modMaps (·.erase 0) (·.erase 0)
          exact ⟨hclear, fun x => (hqueued' x).trans (hqueued x)⟩
        · exact ⟨hrel, hqueued⟩

lemma TxOk.wakeup (h : TxOk s) (i : Fin n) :
    TxOk (wakeupStaToXmit s i).1 ∧ ∀ x, (wakeupStaToXmit s i).1.queued x = s.queued x := by
  obtain ⟨hrel, hqueued⟩ := h.releaseSleepQ takesFirst_wakeupTurn i
  rw [wakeupStaToXmit]
  dsimp only
  rw [h.releaseMgmt]
  split
  · obtain ⟨hsta, hqueued'⟩ := hrel.modSta (g := fun psta => psta.wakeUp)
      (fun _ => ⟨rfl, rfl, rfl, rfl⟩) i
    obtain ⟨hmaps, hqueued''⟩ := hsta.modMaps
      (·.erase ((Rtl8723du.releaseSleepQ wakeupTurn i s).1.sta i).aid)
      (·.erase ((Rtl8723du.releaseSleepQ wakeupTurn i s).1.sta i).aid)
    obtain ⟨hbmc, hqueued₃⟩ := hmaps.wakeupBmc
    refine ⟨hbmc, fun x => ?_⟩
    rw [hqueued₃, hqueued'', hqueued', hqueued]
  · obtain ⟨hbmc, hqueued'⟩ := hrel.wakeupBmc
    exact ⟨hbmc, fun x => (hqueued' x).trans (hqueued x)⟩

/-! ### Every run -/

lemma TxIdle.queued (h : TxIdle s) (x : ℕ) : s.queued x = 0 := by
  rw [ApPriv.queued]
  simp [h.xmit, h.sleepQ, StaXmitPriv.countPkt]

lemma TxIdle.txOk (h : TxIdle s) : TxOk s := by
  have hpend : ∀ i ac, s.pend i ac = [] := by
    intro i ac
    rw [ApPriv.pend]
    rw [h.xmit]
    cases ac <;> rfl
  refine ⟨fun i ac f hf => ?_, fun i f hf => ?_, fun i ac => ?_, fun ac => ?_, fun ac => ?_,
    fun ac i => ?_, fun i => ⟨?_, (h.sleepQ i).2⟩⟩
  · rw [hpend] at hf
    cases hf
  · rw [(h.sleepQ i).1] at hf
    cases hf
  · rw [hpend, h.xmit]
    cases ac <;> rfl
  · simp [h.hw, hpend]
  · simp [h.hw]
  · simp [h.hw, hpend]
  · rw [h.xmit]

/-- What one call preserves. -/
lemma TxOk.txStep (conf : ApConf) (h : TxOk s) (honce : ∀ x, s.queued x ≤ 1) {e : TxEvent n}
    (he : Unqueued s e) :
    TxOk (txStep conf s e).1 ∧ ∀ x, (txStep conf s e).1.queued x ≤ 1 := by
  cases e with
  | classifier f =>
      change TxOk ((rtwXmitClassifier s f).getD s) ∧ _
      change _ ∧ ∀ x, ((rtwXmitClassifier s f).getD s).queued x ≤ 1
      cases hc : rtwXmitClassifier s f with
      | none => exact ⟨h, honce⟩
      | some s' =>
          refine ⟨(h.classifier_some (x := 0) hc).1, fun x => ?_⟩
          rw [Option.getD_some, (h.classifier_some hc).2]
          split
          · rename_i hx
            have hnew : s.queued f.pkt = 0 := he
            rw [← hx, hnew]
          · exact honce x
  | dequeue =>
      unfold Rtl8723du.txStep
      dsimp only
      cases hd : rtwDequeueXframe conf s with
      | none => exact ⟨h, honce⟩
      | some r =>
          obtain ⟨ac, i, -, hone⟩ := exists_of_rtwDequeueXframe hd
          refine ⟨(h.dequeueOne (x := 0) hone).1, fun x => ?_⟩
          have hless := (h.dequeueOne (x := x) hone).2
          have := honce x
          dsimp only
          omega
  | stop i => exact ⟨(h.stop i).1, fun x => ((h.stop i).2 x).trans_le (honce x)⟩
  | wakeup i => exact ⟨(h.wakeup i).1, fun x => ((h.wakeup i).2 x).trans_le (honce x)⟩

/-- **The three levels of the queues stay in step.**  In every state that calls of
`rtw_xmit_classifier`, `rtw_dequeue_xframe`, `stop_sta_xmit` and `wakeup_sta_to_xmit` reach from
empty queues, no frame is in two of the `sta_pending` and `sleep_q` queues or twice in one, each
`qcnt` is the length of its queue, each `accnt` the sum of the `qcnt` of its access category, and
a queue is linked in its hardware queue, once, iff it has frames. -/
theorem txQueues_inStep (conf : ApConf) {s : ApPriv n} (hs : TxIdle s) {es : List (TxEvent n)}
    (hes : Along (txStep conf) Unqueued s es) : QueuesInStep (final (txStep conf) s es) := by
  have hinv : TxOk (final (txStep conf) s es) ∧
      ∀ x, (final (txStep conf) s es).queued x ≤ 1 := by
    refine final_induction (I := fun s => TxOk s ∧ ∀ x, s.queued x ≤ 1) ?_ ?_ hes
    · rintro s e he ⟨h, honce⟩
      exact h.txStep conf honce he
    · exact ⟨hs.txOk, fun x => (hs.queued x).trans_le (Nat.zero_le 1)⟩
  exact hinv.1.inStep hinv.2

/-- An access point with one associated station. -/
def oneStation : ApPriv 2 :=
  (ApPriv.start 0).modSta 1 fun psta =>
    { psta with macAddr := some (MacAddr.ofBytes 2 0 0 0 0 1), asocState := true, aid := 1 }

def voiceFrame : XmitFrame 2 :=
  { ra := MacAddr.ofBytes 2 0 0 0 0 1, psta := 1, priority := 6, pkt := 1 }

/-- A voice frame for the station and a group frame wait when the station falls asleep and wakes
up again. -/
def sleepAndWake : List (TxEvent 2) :=
  [.classifier voiceFrame, .classifier { ra := bcAddr, psta := 0, priority := 0, pkt := 2 },
    .stop 1, .wakeup 1, .dequeue]

/-- The voice frame is sent first, the group frame still waits. -/
theorem txQueues_inStep_sleepAndWake :
    QueuesInStep (final (txStep { maxAid := 32, maxNumSta := 32 }) oneStation sleepAndWake) ∧
      (outputs (txStep { maxAid := 32, maxNumSta := 32 }) oneStation sleepAndWake).map (·.pkt) =
        [1] ∧
      ((final (txStep { maxAid := 32, maxNumSta := 32 }) oneStation sleepAndWake).pend 0 .be).map
        (·.pkt) = [2] := by
  refine ⟨txQueues_inStep _ ⟨fun _ => rfl, by decide, fun _ => rfl⟩ ⟨?_, ?_, trivial, trivial,
    trivial, trivial⟩, by decide +kernel, by decide +kernel⟩
  · exact (by decide : oneStation.queued 1 = 0)
  · exact (by decide :
      ((rtwXmitClassifier oneStation voiceFrame).getD oneStation).queued 2 = 0)

end Rtl8723du
