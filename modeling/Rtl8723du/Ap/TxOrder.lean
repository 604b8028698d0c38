import Rtl8723du.Ap.ServicePeriod
import Rtl8723du.Ap.TxQueues

/-!
# The order of the frames of a destination

Frames move between the queues of a station and its `sleep_q`, always to the tail.  For a station
this keeps the frames of an access category in the order in which the host offered them.  For the
broadcast station it does not: group frames that a beacon released and that are not sent yet are
buffered again when another station falls asleep, behind newer ones.  Nor does it when a station
falls asleep between the two critical sections of `rtw_xmit_posthandle`.  Runs without these keep
the order (`leave_inOrder`), others need not (`groupFrames_overtake`).
-/

namespace Rtl8723du

open Lib.Machine

variable {n : ℕ}

/-! ### Lines -/

/-- The address of the `sta_info` that a receiver address stands for. -/
def entryAddr (ra : MacAddr) : MacAddr := if isMcast ra then bcAddr else ra

/-- A frame as the host offers it. -/
structure HostFrame where
  ra : MacAddr
  priority : ℕ
  pkt : ℕ
deriving DecidableEq, Repr

/-- The destination and the access category of a frame. -/
def HostFrame.line (g : HostFrame) : MacAddr × Ac := (entryAddr g.ra, acOf g.priority)

/-- What the host offered. -/
def XmitFrame.host (f : XmitFrame n) : HostFrame := ⟨f.ra, f.priority, f.pkt⟩

/-- The frames of one destination and access category. -/
def onLine (l : MacAddr × Ac) (fs : List (XmitFrame n)) : List HostFrame :=
  (fs.map XmitFrame.host).filter (·.line = l)

/-- What the host and the transmitter see of a run. -/
inductive Mark
  /-- The host offers a frame. -/
  | offered (g : HostFrame)
  /-- A frame leaves `rtw_dequeue_xframe`. -/
  | left (g : HostFrame)
deriving DecidableEq, Repr

/-- The offered frames among the marks. -/
def Mark.offered? : Mark → Option HostFrame
  | .offered g => some g
  | .left _ => none

/-- The frames among the marks that left. -/
def Mark.left? : Mark → Option HostFrame
  | .offered _ => none
  | .left g => some g

/-- A frame that is sent. -/
def ApOut.sent? : ApOut n → Option (XmitFrame n)
  | .sent f => some f
  | _ => none

/-- The marks of an event. -/
def marks (conf : ApConf) (s : ApPriv n) : ApEvent → List Mark
  | .xmit ra priority pkt => [.offered ⟨ra, priority, pkt⟩]
  | .dequeue => ((apStep conf s .dequeue).2.filterMap ApOut.sent?).map fun f => .left f.host
  | .xmitframeComplete k =>
      ((apStep conf s (.xmitframeComplete k)).2.filterMap ApOut.sent?).map fun f => .left f.host
  | _ => []

/-- A step of the access point, with its marks. -/
def orderStep (conf : ApConf) (s : ApPriv n) (e : ApEvent) : ApPriv n × List Mark :=
  ((apStep conf s e).1, marks conf s e)

/-- The offered frames of a destination and an access category. -/
def offeredOn (l : MacAddr × Ac) (h : List Mark) : List HostFrame :=
  (h.filterMap Mark.offered?).filter (·.line = l)

/-- The frames of a destination and an access category that left. -/
def leftOn (l : MacAddr × Ac) (h : List Mark) : List HostFrame :=
  (h.filterMap Mark.left?).filter (·.line = l)

/-- The frames of each destination and access category that left did so in the order in which they
were offered. -/
def InOrder (h : List Mark) : Prop := ∀ l, List.Sublist (leftOn l h) (offeredOn l h)

/-! ### The condition -/

/-- No access category has frames both waiting and in the `sleep_q` of the station. -/
def NotMixed (s : ApPriv n) (i : Fin n) : Prop :=
  ∀ ac, s.pend i ac = [] ∨ ∀ f ∈ (s.sta i).sleepQ, acOf f.priority ≠ ac

/-- The event does not queue a frame behind newer ones: calls of `rtw_xmit` for one destination
and access category do not overlap; a frame on its way to `rtw_hal_xmit` is not queued while older
ones are in the `sleep_q`; no station falls asleep while group frames of an access category are
both waiting and buffered. -/
def OrderFits (s : ApPriv n) : ApEvent → Prop
  | .xmit ra priority _ => ∀ f ∈ s.xmitting, f.host.line ≠ (entryAddr ra, acOf priority)
  | .halXmit k direct =>
      ∀ f ∈ s.xmitting[k]?, (direct && !rtwTxframesStaAcPending s f) = true ∨
        (rtwXmitClassifier s f).isNone = true ∨
        ∀ g ∈ (s.sta f.psta).sleepQ, acOf g.priority ≠ acOf f.priority
  | .dataFrame ta pwrbit _ _ =>
      pwrbit = true → ∀ i ∈ rtwGetStainfo s ta, (s.sta i).sleepState = false →
        ∀ b ∈ rtwGetBcmcStainfo s, NotMixed s b
  | _ => True

instance (p : Ac → Prop) [DecidablePred p] : Decidable (∀ ac, p ac) :=
  decidable_of_iff (p .vo ∧ p .vi ∧ p .be ∧ p .bk)
    ⟨fun h ac => by cases ac <;> simp [h], fun h => ⟨h _, h _, h _, h _⟩⟩

instance (s : ApPriv n) (i : Fin n) : Decidable (NotMixed s i) := by
  rw [NotMixed]
  infer_instance

instance (s : ApPriv n) : ∀ e, Decidable (OrderFits s e)
  | .xmit ra priority _ => inferInstanceAs
      (Decidable (∀ f ∈ s.xmitting, f.host.line ≠ (entryAddr ra, acOf priority)))
  | .halXmit k direct => inferInstanceAs
      (Decidable (∀ f ∈ s.xmitting[k]?, (direct && !rtwTxframesStaAcPending s f) = true ∨
        (rtwXmitClassifier s f).isNone = true ∨
        ∀ g ∈ (s.sta f.psta).sleepQ, acOf g.priority ≠ acOf f.priority))
  | .dataFrame ta pwrbit _ _ => inferInstanceAs
      (Decidable (pwrbit = true → ∀ i ∈ rtwGetStainfo s ta, (s.sta i).sleepState = false →
        ∀ b ∈ rtwGetBcmcStainfo s, NotMixed s b))
  | .dequeue | .xmitframeComplete _ | .freeXmitframe | .mgmtXmit .. | .dequeueMgmt | .psPoll ..
  | .auth .. | .assocReq .. | .apFreeSta _ | .freeStainfo _ | .aliveCheck _ | .heard _
  | .sleepqAging .. | .chkBmcSleepq | .chkHiQueue _ | .apBmcFrames =>
      inferInstanceAs (Decidable True)

/-! ### The line of a destination -/

variable {s s' : ApPriv n} {i j : Fin n} {ac ac' : Ac} {f : XmitFrame n} {l : MacAddr × Ac}

@[simp] lemma onLine_nil : onLine l ([] : List (XmitFrame n)) = [] := rfl

@[simp] lemma onLine_append (fs gs : List (XmitFrame n)) :
    onLine l (fs ++ gs) = onLine l fs ++ onLine l gs := by
  simp [onLine]

lemma onLine_cons (f : XmitFrame n) (fs : List (XmitFrame n)) :
    onLine l (f :: fs) = onLine l [f] ++ onLine l fs :=
  onLine_append [f] fs

lemma onLine_sublist {fs gs : List (XmitFrame n)} (h : List.Sublist fs gs) :
    List.Sublist (onLine l fs) (onLine l gs) :=
  (h.map _).filter _

lemma onLine_congr {fs gs : List (XmitFrame n)}
    (h : fs.map XmitFrame.host = gs.map XmitFrame.host) : onLine l fs = onLine l gs := by
  rw [onLine, onLine, h]

lemma onLine_eq_nil {q : List (XmitFrame n)} (h : ∀ f ∈ q, f.host.line ≠ l) :
    onLine l q = [] := by
  refine List.filter_eq_nil_iff.2 fun g hg => ?_
  obtain ⟨f, hf, rfl⟩ := List.mem_map.1 hg
  simpa using h f hf

/-- The entry with an address. -/
def ApPriv.entry (s : ApPriv n) (a : MacAddr) : Option (Fin n) :=
  (List.finRange n).find? fun i => (s.sta i).macAddr = some a

/-- The frames of a line in the queues of its entry. -/
def ApPriv.queueLine (s : ApPriv n) (l : MacAddr × Ac) (i : Fin n) : List HostFrame :=
  onLine l (s.pend i l.2) ++ onLine l (s.sta i).sleepQ

/-- The frames of a line that were offered and did not leave, the one that is next first. -/
def ApPriv.waiting (s : ApPriv n) (l : MacAddr × Ac) : List HostFrame :=
  (s.entry l.1).elim [] (s.queueLine l) ++ onLine l s.xmitting

/-- The frame is in the queues of the entry that has its address. -/
def Home (s : ApPriv n) (i : Fin n) (f : XmitFrame n) : Prop :=
  f.psta = i ∧ (s.sta i).macAddr = some (entryAddr f.ra)

/-- The queues between two events: frames are where they belong, no two entries have one address,
a station that is awake has no buffered frames, and the frames on their way are for different
lines. -/
structure Homed (s : ApPriv n) : Prop where
  home : ∀ i ac, ∀ f ∈ s.pend i ac, Home s i f ∧ acOf f.priority = ac
  sleepHome : ∀ i, ∀ f ∈ (s.sta i).sleepQ, Home s i f
  unique : ∀ i j a, (s.sta i).macAddr = some a → (s.sta j).macAddr = some a → i = j
  awake : ∀ i, (s.sta i).macAddr ≠ some bcAddr → (s.sta i).sleepState = false →
    (s.sta i).sleepQ = []
  apart : s.xmitting.Pairwise fun f g => f.host.line ≠ g.host.line

lemma Homed.entry_iff (h : Homed s) {a : MacAddr} :
    s.entry a = some i ↔ (s.sta i).macAddr = some a := by
  constructor
  · intro hi
    simpa using List.find?_some hi
  · intro hi
    cases hfind : s.entry a with
    | none =>
        have := List.find?_eq_none.1 hfind i (List.mem_finRange i)
        simp [hi] at this
    | some j =>
        have hj : (s.sta j).macAddr = some a := by simpa using List.find?_some hfind
        rw [h.unique i j a hi hj]

lemma Homed.rtwGetStainfo (h : Homed s) (hf : Home s i f) : rtwGetStainfo s f.ra = some i :=
  h.entry_iff.2 hf.2

lemma Homed.placed (h : Homed s) (hf : Home s i f) : Placed s i f ↔ (s.sta i).asocState = true :=
  ⟨fun hp => hp.2.2, fun ha => ⟨hf.1, h.rtwGetStainfo hf, ha⟩⟩

/-- The step keeps the queues right and no frame overtakes another one. -/
def Keeps (s s' : ApPriv n) : Prop :=
  Homed s → Homed s' ∧ ∀ l, List.Sublist (s'.waiting l) (s.waiting l)

lemma Keeps.refl (s : ApPriv n) : Keeps s s := fun h => ⟨h, fun _ => List.Sublist.refl _⟩

lemma Keeps.trans {s'' : ApPriv n} (h : Keeps s s') (h' : Keeps s' s'') : Keeps s s'' := by
  intro hs
  obtain ⟨hs', hsub⟩ := h hs
  obtain ⟨hs'', hsub'⟩ := h' hs'
  exact ⟨hs'', fun l => (hsub' l).trans (hsub l)⟩

lemma waiting_sublist (hmac : ∀ j, (s'.sta j).macAddr = (s.sta j).macAddr)
    (hxmit : s'.xmitting = s.xmitting)
    (hq : ∀ j l, List.Sublist (s'.queueLine l j) (s.queueLine l j)) (l : MacAddr × Ac) :
    List.Sublist (s'.waiting l) (s.waiting l) := by
  have hentry : s'.entry l.1 = s.entry l.1 := by
    unfold ApPriv.entry
    simp only [hmac]
  unfold ApPriv.waiting
  rw [hentry, hxmit]
  refine List.Sublist.append ?_ (List.Sublist.refl _)
  cases s.entry l.1 with
  | none => exact List.Sublist.refl _
  | some i => exact hq i l

/-! ### Steps that leave the frames where they are -/

/-- The frames stay where they are, and no station with frames wakes up. -/
structure SameFrames (s s' : ApPriv n) : Prop where
  mac : ∀ j, (s'.sta j).macAddr = (s.sta j).macAddr
  sleepQ : ∀ j, (s'.sta j).sleepQ = (s.sta j).sleepQ
  awake : ∀ j, (s'.sta j).sleepState = false → (s.sta j).sleepState = false ∨ (s.sta j).sleepQ = []
  pend : ∀ j ac, s'.pend j ac = s.pend j ac
  xmitting : s'.xmitting = s.xmitting

lemma SameFrames.refl (s : ApPriv n) : SameFrames s s :=
  ⟨fun _ => rfl, fun _ => rfl, fun _ h => .inl h, fun _ _ => rfl, rfl⟩

lemma SameFrames.trans {s'' : ApPriv n} (h : SameFrames s s') (h' : SameFrames s' s'') :
    SameFrames s s'' where
  mac j := (h'.mac j).trans (h.mac j)
  sleepQ j := (h'.sleepQ j).trans (h.sleepQ j)
  awake j hj := by
    rcases h'.awake j hj with hawake | hnone
    · exact h.awake j hawake
    · exact .inr ((h.sleepQ j).symm.trans hnone)
  pend j ac := (h'.pend j ac).trans (h.pend j ac)
  xmitting := h'.xmitting.trans h.xmitting

lemma SameFrames.keeps (h : SameFrames s s') : Keeps s s' := by
  intro hs
  have hhome : ∀ j g, Home s j g → Home s' j g := fun j g hg => ⟨hg.1, (h.mac j).trans hg.2⟩
  constructor
  · refine ⟨fun j ac g hg => ?_, fun j g hg => ?_, fun i j a hi hj => ?_, fun j hmac hawake => ?_,
      ?_⟩
    · rw [h.pend] at hg
      exact ⟨hhome j g (hs.home j ac g hg).1, (hs.home j ac g hg).2⟩
    · rw [h.sleepQ] at hg
      exact hhome j g (hs.sleepHome j g hg)
    · rw [h.mac] at hi hj
      exact hs.unique i j a hi hj
    · rw [h.mac] at hmac
      rw [h.sleepQ]
      exact (h.awake j hawake).elim (hs.awake j hmac) id
    · rw [h.xmitting]
      exact hs.apart
  · refine waiting_sublist h.mac h.xmitting fun j l => ?_
    unfold ApPriv.queueLine
    rw [h.pend, h.sleepQ]

/-- One station changes in fields that have nothing to do with its frames. -/
lemma SameFrames.modSta {g : StaInfo n → StaInfo n} (hmac : (g (s.sta i)).macAddr =
    (s.sta i).macAddr) (hsleepQ : (g (s.sta i)).sleepQ = (s.sta i).sleepQ)
    (hawake : (g (s.sta i)).sleepState = false →
      (s.sta i).sleepState = false ∨ (s.sta i).sleepQ = []) : SameFrames s (s.modSta i g) := by
  have hsta : ∀ j, (s.modSta i g).sta j = if j = i then g (s.sta i) else s.sta j := by
    intro j
    by_cases hj : j = i
    · rw [if_pos hj, hj, ApPriv.modSta_sta_self]
    · rw [if_neg hj, ApPriv.modSta_sta_of_ne s hj]
  refine ⟨fun j => ?_, fun j => ?_, fun j hj => ?_, fun _ _ => rfl, rfl⟩
  · rw [hsta]
    split
    · rw [hmac, ‹j = i›]
    · rfl
  · rw [hsta]
    split
    · rw [hsleepQ, ‹j = i›]
    · rfl
  · rw [hsta] at hj
    split at hj
    · rw [‹j = i›]
      exact hawake hj
    · exact .inl hj

/-- Only what has nothing to do with the frames changes. -/
lemma SameFrames.of_eq (hsta : s'.sta = s.sta) (hpend : s'.pend = s.pend)
    (hxmit : s'.xmitting = s.xmitting) : SameFrames s s' :=
  ⟨fun j => by rw [hsta], fun j => by rw [hsta], fun j hj => .inl (by rwa [hsta] at hj),
    fun j ac => by rw [hpend], hxmit⟩

/-! ### Releasing frames -/

lemma rtwXmitClassifier_none (h : Homed s) (hf : Home s i f)
    (hasoc : ¬ (s.sta i).asocState = true) : rtwXmitClassifier s f = none := by
  rw [rtwXmitClassifier]
  rw [h.rtwGetStainfo hf]
  exact if_neg fun hand => hasoc hand.2

/-- A frame that is queued for an entry. -/
lemma queue_pend (h : Homed s) (hf : Home s i f) (j : Fin n) (ac : Ac) :
    (rtwHalXmitframeEnqueue s f).pend j ac =
      s.pend j ac ++ if j = i ∧ (s.sta i).asocState = true ∧ acOf f.priority = ac then [f]
        else [] := by
  rw [rtwHalXmitframeEnqueue]
  by_cases hasoc : (s.sta i).asocState = true
  · rw [rtwXmitClassifier_eq ((h.placed hf).2 hasoc), Option.getD_some, modHw_pend, pend_modXmit]
    by_cases hji : j = i ∧ ac = acOf f.priority
    · rw [if_pos hji, if_pos ⟨hji.1, hasoc, hji.2.symm⟩, hji.1, hji.2]
      rfl
    · rw [if_neg hji, if_neg (fun hand => hji ⟨hand.1, hand.2.2.symm⟩), List.append_nil]
  · rw [rtwXmitClassifier_none h hf hasoc, if_neg (fun hand => hasoc hand.2.1), List.append_nil]
    rfl

lemma rtwHalXmitframeEnqueue_xmitting (s : ApPriv n) (f : XmitFrame n) :
    (rtwHalXmitframeEnqueue s f).xmitting = s.xmitting := by
  rw [rtwHalXmitframeEnqueue, rtwXmitClassifier]
  split
  · rfl
  · split <;> rfl

/-- The queues are right after frames of an entry are queued. -/
lemma Homed.queue (h : Homed s) (hf : Home s i f) : Homed (rtwHalXmitframeEnqueue s f) := by
  have hsta := rtwHalXmitframeEnqueue_sta s f
  refine ⟨fun j ac g hg => ?_, fun j g hg => ?_, fun a b => ?_, fun j => ?_, ?_⟩
  · rw [queue_pend h hf] at hg
    rw [Home, hsta]
    rcases List.mem_append.1 hg with hg | hg
    · exact h.home j ac g hg
    · split at hg
      · rename_i hand
        obtain rfl := List.mem_singleton.1 hg
        obtain ⟨rfl, -, hac⟩ := hand
        exact ⟨hf, hac⟩
      · cases hg
  · rw [hsta] at hg
    rw [Home, hsta]
    exact h.sleepHome j g hg
  · rw [hsta]
    exact h.unique a b
  · rw [hsta]
    exact h.awake j
  · rw [rtwHalXmitframeEnqueue_xmitting]
    exact h.apart

/-- The frames that are queued for an entry are, in order, behind those that wait. -/
lemma queueAll (fs : List (XmitFrame n)) : ∀ {s : ApPriv n}, Homed s → (∀ f ∈ fs, Home s i f) →
    Homed (fs.foldl rtwHalXmitframeEnqueue s) ∧
      (fs.foldl rtwHalXmitframeEnqueue s).xmitting = s.xmitting ∧
      ∀ j ac, (fs.foldl rtwHalXmitframeEnqueue s).pend j ac =
        s.pend j ac ++ if j = i ∧ (s.sta i).asocState = true then
          fs.filter (acOf ·.priority = ac) else [] := by
  induction fs with
  | nil => exact fun h _ => ⟨h, rfl, fun j ac => by split <;> simp⟩
  | cons f fs ih =>
      intro s h hhome
      have hf := hhome f (by simp)
      have hsta := rtwHalXmitframeEnqueue_sta s f
      obtain ⟨hend, hxmit, hpend⟩ := ih (h.queue hf) fun g hg => by
        rw [Home, hsta]
        exact hhome g (List.mem_cons_of_mem _ hg)
      refine ⟨hend, hxmit.trans (rtwHalXmitframeEnqueue_xmitting s f), fun j ac => ?_⟩
      rw [List.foldl_cons, hpend, queue_pend h hf, hsta, List.append_assoc, List.filter_cons]
      by_cases hji : j = i ∧ (s.sta i).asocState = true
      · by_cases hac : acOf f.priority = ac
        · simp [hji.1, hji.2, hac]
        · simp [hji.1, hji.2, hac]
      · simp only [if_neg hji, if_neg (fun hand => hji ⟨hand.1, hand.2.1⟩ :
          ¬ (j = i ∧ (s.sta i).asocState = true ∧ acOf f.priority = ac)), List.append_nil]

/-- The frames of an access category are those of its lines. -/
lemma onLine_filter_acOf (fs : List (XmitFrame n)) :
    onLine l (fs.filter (acOf ·.priority = l.2)) = onLine l fs := by
  induction fs with
  | nil => rfl
  | cons f fs ih =>
      rw [List.filter_cons, onLine_cons f fs]
      by_cases hac : acOf f.priority = l.2
      · rw [if_pos (by simpa using hac), onLine_cons, ih]
      · have hnone : onLine l [f] = [] := by
          refine onLine_eq_nil fun g hg => ?_
          obtain rfl := List.mem_singleton.1 hg
          exact fun heq => hac (congrArg Prod.snd heq :)
        rw [if_neg (by simpa using hac), ih, hnone, List.nil_append]

/-- Frames are taken out of a `sleep_q`, in order, and queued. -/
lemma Keeps.release {psta : StaInfo n} {fs : List (XmitFrame n)}
    (hmac : psta.macAddr = (s.sta i).macAddr)
    (hawake : psta.sleepState = false → (s.sta i).sleepState = false)
    (hfrom : ∀ f ∈ psta.sleepQ ++ fs, ∃ g ∈ (s.sta i).sleepQ, g.key = f.key)
    (hline : ∀ l, List.Sublist (onLine l fs ++ onLine l psta.sleepQ)
      (onLine l (s.sta i).sleepQ)) :
    Keeps s (fs.foldl rtwHalXmitframeEnqueue (s.modSta i fun _ => psta)) := by
  intro h
  set s₁ := s.modSta i fun _ => psta with hs₁
  have hself : s₁.sta i = psta := ApPriv.modSta_sta_self ..
  have hother : ∀ j, j ≠ i → s₁.sta j = s.sta j := fun j hj => ApPriv.modSta_sta_of_ne s hj _
  have hmacs : ∀ j, (s₁.sta j).macAddr = (s.sta j).macAddr := by
    intro j
    by_cases hj : j = i
    · rw [hj, hself, hmac]
    · rw [hother j hj]
  have hhome : ∀ f ∈ psta.sleepQ ++ fs, Home s i f := by
    intro f hf
    obtain ⟨g, hg, hkey⟩ := hfrom f hf
    simp only [XmitFrame.key, Prod.mk.injEq] at hkey
    have hgh := h.sleepHome i g hg
    exact ⟨hkey.2.1 ▸ hgh.1, hkey.1 ▸ hgh.2⟩
  have h₁ : Homed s₁ := by
    refine ⟨fun j ac g hg => ?_, fun j g hg => ?_, fun a b c ha hb => ?_, fun j hbc hj => ?_,
      h.apart⟩
    · rw [Home, hmacs]
      exact h.home j ac g hg
    · rw [Home, hmacs]
      by_cases hj : j = i
      · subst hj
        rw [hself] at hg
        exact hhome g (List.mem_append_left _ hg)
      · rw [hother j hj] at hg
        exact h.sleepHome j g hg
    · rw [hmacs] at ha hb
      exact h.unique a b c ha hb
    · rw [hmacs] at hbc
      by_cases hji : j = i
      · subst hji
        rw [hself] at hj ⊢
        have hnone := h.awake j hbc (hawake hj)
        refine List.eq_nil_iff_forall_not_mem.2 fun g hg => ?_
        obtain ⟨g', hg', -⟩ := hfrom g (List.mem_append_left _ hg)
        rw [hnone] at hg'
        cases hg'
      · rw [hother j hji] at hj ⊢
        exact h.awake j hbc hj
  have hhome₁ : ∀ f ∈ fs, Home s₁ i f := by
    intro f hf
    rw [Home, hmacs]
    exact hhome f (List.mem_append_right _ hf)
  obtain ⟨hend, hxmit, hpend⟩ := queueAll fs h₁ hhome₁
  have hsta : (fs.foldl rtwHalXmitframeEnqueue s₁).sta = s₁.sta :=
    foldl_rtwHalXmitframeEnqueue_sta fs s₁
  refine ⟨hend, waiting_sublist (fun j => ?_) hxmit fun j l => ?_⟩
  · rw [hsta, hmacs]
  · unfold ApPriv.queueLine
    rw [hsta, hpend]
    change List.Sublist (onLine l (s.pend j l.2 ++ _) ++ _) _
    by_cases hj : j = i
    · subst hj
      rw [onLine_append, List.append_assoc, hself]
      refine List.Sublist.append (List.Sublist.refl _) ?_
      split
      · rw [onLine_filter_acOf]
        exact hline l
      · exact (List.sublist_append_right _ _).trans (hline l)
    · rw [if_neg (fun hand => hj hand.1), List.append_nil, hother j hj]

lemma host_of_key {fs gs : List (XmitFrame n)}
    (h : fs.map XmitFrame.key = gs.map XmitFrame.key) :
    fs.map XmitFrame.host = gs.map XmitFrame.host := by
  have hhost : ∀ l : List (XmitFrame n), l.map XmitFrame.host =
      (l.map XmitFrame.key).map fun k => ⟨k.1, k.2.2.1, k.2.2.2⟩ := fun l => by
    rw [List.map_map]
    rfl
  rw [hhost, hhost, h]

/-- The first frames of a `sleep_q` are released. -/
lemma Keeps.takesFirst {turn : StaInfo n → XmitFrame n → StaInfo n × XmitFrame n}
    (ht : TakesFirst turn) {gs fs rest : List (XmitFrame n)} (hq : (s.sta i).sleepQ = gs ++ rest)
    (hfs : fs.map XmitFrame.key = (releaseLoop turn gs (s.sta i)).2.map XmitFrame.key) :
    Keeps s (fs.foldl rtwHalXmitframeEnqueue
      (s.modSta i fun _ => (releaseLoop turn gs (s.sta i)).1)) := by
  obtain ⟨hsleep, hmac, -, -, hkey⟩ := ht.releaseLoop gs (s.sta i)
  rw [hq, List.drop_left] at hsleep
  refine .release hmac (fun h => (ht.sleepState gs _).symm.trans h) (fun f hf => ?_) fun l => ?_
  · rw [hsleep] at hf
    rw [hq]
    rcases List.mem_append.1 hf with hf | hf
    · exact ⟨f, List.mem_append_right _ hf, rfl⟩
    · obtain ⟨g, hg, hgf⟩ := List.mem_map.1 (hfs.trans hkey ▸ List.mem_map_of_mem hf)
      exact ⟨g, List.mem_append_left _ hg, hgf⟩
  · rw [hsleep, hq, onLine_congr (host_of_key (hfs.trans hkey)), ← onLine_append]

lemma Keeps.releaseSleepQ {turn : StaInfo n → XmitFrame n → StaInfo n × XmitFrame n}
    (ht : TakesFirst turn) (s : ApPriv n) (i : Fin n) : Keeps s (releaseSleepQ turn i s).1 :=
  .takesFirst ht (List.append_nil _).symm rfl

lemma SameFrames.modTim (s : ApPriv n) (g : Finset ℕ → Finset ℕ) : SameFrames s (s.modTim g) :=
  .of_eq rfl rfl rfl

lemma SameFrames.modDz (s : ApPriv n) (g : Finset ℕ → Finset ℕ) : SameFrames s (s.modDz g) :=
  .of_eq rfl rfl rfl

lemma SameFrames.send (s : ApPriv n) (k : ℕ) : SameFrames s (s.send k) := .of_eq rfl rfl rfl

lemma SameFrames.rtwFreeXmitframe (s : ApPriv n) : SameFrames s (rtwFreeXmitframe s) :=
  .of_eq rfl rfl rfl

lemma SameFrames.clearBmcBits (s : ApPriv n) : SameFrames s (clearBmcBits s) :=
  .of_eq rfl rfl rfl

lemma Keeps.wakeupBmc (s : ApPriv n) : Keeps s (wakeupBmc s).1 := by
  unfold Rtl8723du.wakeupBmc
  cases rtwGetBcmcStainfo s with
  | none => exact .refl s
  | some b =>
      dsimp only
      split
      · exact .refl s
      · have hrel := Keeps.releaseSleepQ takesFirst_bmcTurn s b
        split
        · exact hrel.trans (SameFrames.clearBmcBits _).keeps
        · exact hrel

/-- Frames of the line are all released, or all left. -/
lemma onLine_filter_triggers (psta : StaInfo n) (fs : List (XmitFrame n)) :
    onLine l (fs.filter psta.triggers) ++ onLine l (fs.filter fun f => !psta.triggers f) =
      onLine l fs := by
  have hall : ∀ f : XmitFrame n, f.host.line = l →
      psta.triggers f = (psta.wmmpsAc f.priority).triggerEnabled ∧ acOf f.priority = l.2 :=
    fun f hf => ⟨rfl, (congrArg Prod.snd hf :)⟩
  have hkeep : ∀ p : XmitFrame n → Bool,
      (∀ f : XmitFrame n, f.host.line = l → p f = true) → onLine l (fs.filter p) = onLine l fs := by
    intro p hp
    induction fs with
    | nil => rfl
    | cons f fs ih =>
        rw [List.filter_cons, onLine_cons f fs]
        split
        · rw [onLine_cons, ih]
        · have hnone : onLine l [f] = [] := by
            refine onLine_eq_nil fun g hg heq => ?_
            obtain rfl := List.mem_singleton.1 hg
            exact ‹¬ p g = true› (hp g heq)
          rw [ih, hnone, List.nil_append]
  have hdrop : ∀ p : XmitFrame n → Bool,
      (∀ f : XmitFrame n, f.host.line = l → p f = false) → onLine l (fs.filter p) = [] := by
    intro p hp
    refine onLine_eq_nil fun f hf heq => ?_
    have := (List.mem_filter.1 hf).2
    rw [hp f heq] at this
    cases this
  have hsame : ∀ f g : XmitFrame n, f.host.line = l → g.host.line = l →
      psta.triggers f = psta.triggers g := by
    intro f g hf hg
    have hac : acOf f.priority = acOf g.priority := (hall f hf).2.trans (hall g hg).2.symm
    unfold StaInfo.triggers StaInfo.wmmpsAc
    rw [hac]
  by_cases hex : ∃ f : XmitFrame n, f.host.line = l ∧ psta.triggers f = true
  · obtain ⟨g, hg, htrig⟩ := hex
    rw [hkeep _ fun f hf => (hsame f g hf hg).trans htrig, hdrop _ fun f hf => by
      rw [hsame f g hf hg, htrig]
      rfl, List.append_nil]
  · have hnone : ∀ f : XmitFrame n, f.host.line = l → psta.triggers f = false := by
      intro f hf
      by_contra htrig
      exact hex ⟨f, hf, by simpa using htrig⟩
    rw [hdrop _ hnone, hkeep _ fun f hf => by rw [hnone f hf]; rfl, List.nil_append]

lemma key_countedDown (fs : List (XmitFrame n)) : ∀ k : BitVec 32,
    (countedDown k fs).map XmitFrame.key = fs.map XmitFrame.key := by
  induction fs with
  | nil => exact fun _ => rfl
  | cons f fs ih => exact fun k => congrArg₂ List.cons rfl (ih _)

lemma sleepState_deliveryLoop (fs : List (XmitFrame n)) : ∀ psta : StaInfo n,
    (deliveryLoop fs psta).1.sleepState = psta.sleepState := by
  induction fs with
  | nil => exact fun _ => rfl
  | cons f fs ih =>
      intro psta
      rw [deliveryLoop]
      split
      · exact ih (deliveryTurn psta f).1
      · exact ih (psta.passOver f)

lemma Keeps.xmitDeliveryEnabledFrames (s : ApPriv n) (i : Fin n) :
    Keeps s (xmitDeliveryEnabledFrames s i).1 := by
  have hreleased := deliveryLoop_released (s.sta i).sleepQ (s.sta i).emptySleepQ
  obtain ⟨hsleep, -, -, hmac, -⟩ := deliveryLoop_sta (s.sta i).sleepQ (s.sta i).emptySleepQ
  set r := deliveryLoop (s.sta i).sleepQ (s.sta i).emptySleepQ with hr
  have hkey : r.2.1.map XmitFrame.key =
      ((s.sta i).sleepQ.filter (s.sta i).triggers).map XmitFrame.key := by
    rw [hreleased, key_countedDown]
    rfl
  have hleft : r.1.sleepQ = (s.sta i).sleepQ.filter fun f => !(s.sta i).triggers f := by
    rw [hsleep]
    exact List.nil_append _
  have hrel : Keeps s (r.2.1.foldl rtwHalXmitframeEnqueue (s.modSta i fun _ => r.1)) := by
    refine .release hmac (fun h => ?_) (fun f hf => ?_) fun l => ?_
    · rw [hr, sleepState_deliveryLoop] at h
      exact h
    · rw [hleft] at hf
      rcases List.mem_append.1 hf with hf | hf
      · exact ⟨f, List.mem_of_mem_filter hf, rfl⟩
      · obtain ⟨g, hg, hgf⟩ := List.mem_map.1 (hkey ▸ List.mem_map_of_mem hf)
        exact ⟨g, List.mem_of_mem_filter hg, hgf⟩
    · rw [hleft, onLine_congr (host_of_key hkey), onLine_filter_triggers]
  unfold Rtl8723du.xmitDeliveryEnabledFrames
  dsimp only
  rw [← hr]
  split
  · exact hrel.trans (SameFrames.modTim ..).keeps
  · exact hrel

/-! ### Management frames -/

lemma pend_modXmit_of_acQ {g : StaXmitPriv n → StaXmitPriv n}
    (hg : ∀ p ac, ((g p).acQ ac).staPending = (p.acQ ac).staPending) (s : ApPriv n) (i : Fin n) :
    (s.modXmit i g).pend = s.pend := by
  funext j ac
  unfold ApPriv.pend ApPriv.modXmit
  by_cases hj : j = i
  · subst hj
    simp [hg]
  · simp [hj]

lemma SameFrames.modMgmtQ (s : ApPriv n) (i : Fin n) (g : TxServq n → TxServq n) :
    SameFrames s (s.modXmit i fun p => p.modMgmtQ g) :=
  .of_eq rfl (pend_modXmit_of_acQ (fun _ ac => by cases ac <;> rfl) s i) rfl

lemma SameFrames.modMgmtHw (s : ApPriv n) (g : HwXmit n → HwXmit n) :
    SameFrames s (s.modMgmtHw g) := .of_eq rfl rfl rfl

lemma SameFrames.mgmtQueue (s : ApPriv n) (f : XmitFrame n) :
    SameFrames s (rtwHalMgmtXmitframeEnqueue s f) := by
  rw [rtwHalMgmtXmitframeEnqueue, rtwMgmtXmitframeEnqueue]
  split
  · exact .refl s
  · split
    · rw [Option.getD_some]
      exact (SameFrames.modMgmtQ ..).trans (.modMgmtHw ..)
    · exact .refl s

lemma SameFrames.mgmtQueueAll (fs : List (XmitFrame n)) (s : ApPriv n) :
    SameFrames s (fs.foldl rtwHalMgmtXmitframeEnqueue s) := by
  induction fs generalizing s with
  | nil => exact .refl s
  | cons f fs ih => exact (SameFrames.mgmtQueue s f).trans (ih _)

lemma mgmtLoop_frames (fs : List (XmitFrame n)) : ∀ psta : StaInfo n,
    (releaseLoop mgmtTurn fs psta).1.macAddr = psta.macAddr ∧
      (releaseLoop mgmtTurn fs psta).1.sleepQ = psta.sleepQ ∧
      (releaseLoop mgmtTurn fs psta).1.sleepState = psta.sleepState := by
  induction fs with
  | nil => exact fun _ => ⟨rfl, rfl, rfl⟩
  | cons f fs ih => exact fun psta => ih (mgmtTurn psta f).1

lemma SameFrames.releaseMgmt (s : ApPriv n) (i : Fin n) : SameFrames s (releaseMgmt i s) := by
  obtain ⟨hmac, hsleep, hstate⟩ := mgmtLoop_frames (s.sta i).mgmtSleepQ (s.sta i)
  exact (SameFrames.modSta hmac hsleep fun h => .inl (hstate.symm.trans h)).trans
    (.mgmtQueueAll ..)

lemma SameFrames.mgmtBuffer (h : mgmtXmitframeEnqueueForSleepingSta s f = some s') :
    SameFrames s s' := by
  obtain ⟨-, -, -, -, rfl⟩ := mgmtXmitframeEnqueueForSleepingSta_cases h
  exact (SameFrames.modSta rfl rfl fun h => .inl h).trans (.modTim ..)

lemma SameFrames.dequeueMgmtLoop (fs : List (XmitFrame n)) : ∀ s : ApPriv n,
    SameFrames s (dequeueMgmtLoop i fs s) := by
  induction fs with
  | nil => exact .refl
  | cons f fs ih =>
      intro s
      rw [Rtl8723du.dequeueMgmtLoop]
      cases hb : mgmtXmitframeEnqueueForSleepingSta s { f with triggered := false } with
      | none => exact (SameFrames.modMgmtQ ..).trans (ih _)
      | some s' =>
          exact (((SameFrames.mgmtBuffer hb).trans (.modMgmtQ ..)).trans (.modMgmtHw ..)).trans
            (ih _)

lemma SameFrames.dequeueMgmt (s : ApPriv n) (i : Fin n) :
    SameFrames s (dequeueMgmtXmitframeToSleepq i s) :=
  ((SameFrames.modMgmtQ ..).trans (.dequeueMgmtLoop ..)).trans (.modMgmtHw ..)

lemma Keeps.wakeupStaToXmit (s : ApPriv n) (i : Fin n) : Keeps s (wakeupStaToXmit s i).1 := by
  have hrel : Keeps s (Rtl8723du.releaseSleepQ wakeupTurn i (Rtl8723du.releaseMgmt i s)).1 :=
    (SameFrames.releaseMgmt s i).keeps.trans (.releaseSleepQ takesFirst_wakeupTurn _ _)
  have hempty : ((Rtl8723du.releaseSleepQ wakeupTurn i (Rtl8723du.releaseMgmt i s)).1.sta
      i).sleepQ = [] := by
    obtain ⟨hsleep, -⟩ := takesFirst_wakeupTurn.releaseLoop
      ((Rtl8723du.releaseMgmt i s).sta i).sleepQ ((Rtl8723du.releaseMgmt i s).sta i)
    rw [List.drop_length] at hsleep
    unfold Rtl8723du.releaseSleepQ
    dsimp only
    rw [foldl_rtwHalXmitframeEnqueue_sta, ApPriv.modSta_sta_self]
    exact hsleep
  unfold Rtl8723du.wakeupStaToXmit
  dsimp only
  refine Keeps.trans ?_ (Keeps.wakeupBmc _)
  split
  · refine hrel.trans (SameFrames.keeps ?_)
    exact ((SameFrames.modSta rfl rfl fun _ => .inr hempty).trans (.modTim ..)).trans (.modDz ..)
  · exact hrel

/-! ### Falling asleep -/

/-- A frame of a station that does not doze is not buffered. -/
lemma enqueue_none (h : Homed s) (hf : Home s i f)
    (hd : ¬ ((s.sta i).asocState = true ∧ Dozes s i)) :
    xmitframeEnqueueForSleepingSta s f = none := by
  cases he : xmitframeEnqueueForSleepingSta s f with
  | none => rfl
  | some s' =>
      obtain ⟨j, hj, -, hasoc, hcases⟩ := xmitframeEnqueueForSleepingSta_cases he
      obtain rfl : i = j := Option.some.inj ((h.rtwGetStainfo hf).symm.trans hj)
      refine absurd ⟨hasoc, ?_⟩ hd
      have hmc := isMcast_of_placed ((h.placed hf).2 hasoc)
      rw [Dozes]
      rcases hcases with ⟨hmcast, hdz, -⟩ | ⟨hmcast, hsleep, haid, -⟩
      · rw [if_pos (hmc.1 hmcast)]
        exact hdz
      · rw [if_neg (fun hbc => by rw [hmc.2 hbc] at hmcast; cases hmcast)]
        exact ⟨hsleep, haid⟩

lemma host_untrigger (fs : List (XmitFrame n)) :
    (fs.map XmitFrame.untrigger).map XmitFrame.host = fs.map XmitFrame.host := by
  rw [List.map_map]
  rfl

/-- Whether a frame is buffered does not depend on the transmit queues. -/
lemma enqueue_modXmit_none {g : StaXmitPriv n → StaXmitPriv n}
    (h : xmitframeEnqueueForSleepingSta s f = none) :
    xmitframeEnqueueForSleepingSta (s.modXmit i g) f = none := by
  cases he : xmitframeEnqueueForSleepingSta (s.modXmit i g) f with
  | none => rfl
  | some s' =>
      obtain ⟨j, hj, hpsta, hasoc, hcases⟩ := xmitframeEnqueueForSleepingSta_cases he
      have htrig : f.triggered = false := by
        cases ht : f.triggered with
        | false => rfl
        | true =>
            unfold xmitframeEnqueueForSleepingSta at he
            rw [hj] at he
            simp [ht] at he
      have hj' : rtwGetStainfo s f.ra = some j := hj
      have hasoc' : (s.sta j).asocState = true := hasoc
      unfold xmitframeEnqueueForSleepingSta at h
      rw [hj'] at h
      dsimp only at h
      rw [if_neg (by simp [hpsta, hasoc', htrig])] at h
      rcases hcases with ⟨hmc, hdz, -⟩ | ⟨hmc, hsleep, haid, -⟩
      · have hdz' : s.staDzBitmap.Nonempty := hdz
        rw [if_pos hmc, if_pos hdz'] at h
        cases h
      · have hand : (s.sta j).sleepState = true ∧ (s.sta j).aid ∈ s.staDzBitmap := ⟨hsleep, haid⟩
        rw [if_neg (by simp [hmc]), if_pos hand] at h
        cases h

/-- The loop over a queue whose frames are not buffered puts them back. -/
lemma dequeueLoop_stays {a : Ac} (fs : List (XmitFrame n)) : ∀ {s : ApPriv n},
    (∀ f ∈ fs, xmitframeEnqueueForSleepingSta s f.untrigger = none) →
    (dequeueLoop i a fs s).sta = s.sta ∧
      ∀ j ac', (dequeueLoop i a fs s).pend j ac' =
        s.pend j ac' ++ if j = i ∧ ac' = a then fs.map XmitFrame.untrigger else [] := by
  induction fs with
  | nil => exact fun _ => ⟨rfl, fun j ac' => by simp [dequeueLoop]⟩
  | cons f fs ih =>
      intro s hnone
      have hloop : dequeueLoop i a (f :: fs) s = dequeueLoop i a fs
          (s.modXmit i fun p => p.modAcQ a fun q => q.keep f.untrigger) := by
        rw [dequeueLoop]
        dsimp only
        rw [show xmitframeEnqueueForSleepingSta s { f with triggered := false } = none from
          hnone f (by simp)]
        rfl
      set s₁ := s.modXmit i fun p => p.modAcQ a fun q => q.keep f.untrigger with hs₁
      have hpend₁ : ∀ j ac', s₁.pend j ac' =
          s.pend j ac' ++ if j = i ∧ ac' = a then [f.untrigger] else [] := by
        intro j ac'
        rw [hs₁, pend_modXmit]
        by_cases hj : j = i ∧ ac' = a
        · rw [if_pos hj, if_pos hj, hj.1, hj.2]
          rfl
        · rw [if_neg hj, if_neg hj, List.append_nil]
      obtain ⟨hsta, hpend⟩ := ih (s := s₁) fun g hg =>
        enqueue_modXmit_none (hnone g (List.mem_cons_of_mem _ hg))
      rw [hloop]
      refine ⟨hsta, fun j ac' => ?_⟩
      rw [hpend, hpend₁, List.append_assoc]
      by_cases hj : j = i ∧ ac' = a
      · simp [hj]
      · simp only [if_neg hj, List.append_nil]

/-- What `dequeue_xmitframes_to_sleeping_queue` does to a queue: its frames stay, or all of them
are buffered. -/
lemma dequeueXmitframes_frames (h : Homed s) (i : Fin n) (ac : Ac) :
    ((dequeueXmitframesToSleepingQueue i s ac).sta = s.sta ∧
      ∀ j ac', (dequeueXmitframesToSleepingQueue i s ac).pend j ac' =
        if j = i ∧ ac' = ac then (s.pend i ac).map XmitFrame.untrigger else s.pend j ac') ∨
    (Dozes s i ∧ OnlyQueues i s (dequeueXmitframesToSleepingQueue i s ac) ∧
      ((dequeueXmitframesToSleepingQueue i s ac).sta i).sleepQ =
        (s.sta i).sleepQ ++ (s.pend i ac).map XmitFrame.untrigger ∧
      ∀ j ac', (dequeueXmitframesToSleepingQueue i s ac).pend j ac' =
        if j = i ∧ ac' = ac then [] else s.pend j ac') := by
  set s₀ := s.modXmit i fun p => p.modAcQ ac fun q => q.clear with hs₀
  have hpend₀ : ∀ j ac', s₀.pend j ac' = if j = i ∧ ac' = ac then [] else s.pend j ac' :=
    fun j ac' => pend_modXmit s i ac _
  by_cases hd : (s.sta i).asocState = true ∧ Dozes s i
  · right
    obtain ⟨honly, hsleep, hxmit, -⟩ := dequeueLoop_moves (s.pend i ac) (s := s₀)
      (fun f hf => ⟨(h.placed (h.home i ac f hf).1).2 hd.1, (h.home i ac f hf).2⟩) hd.2
    refine ⟨hd.2, ⟨honly.other, honly.same, honly.mgmt, honly.sleeps, honly.dz⟩, hsleep,
      fun j ac' => ?_⟩
    have hmod : (dequeueXmitframesToSleepingQueue i s ac).pend =
        (s₀.modXmit i fun p =>
          p.modAcQ ac (TxServq.countOffMany (s.pend i ac).length)).pend := by
      funext j ac'
      change (((dequeueLoop i ac (s.pend i ac) s₀).staXmitpriv j).acQ ac').staPending = _
      rw [hxmit]
      rfl
    rw [hmod, pend_modXmit]
    split
    · rename_i hand
      have hz : s₀.pend i ac = [] := by rw [hpend₀, if_pos ⟨rfl, rfl⟩]
      exact hz
    · rw [hpend₀, if_neg ‹_›]
  · left
    obtain ⟨hsta, hpend⟩ := dequeueLoop_stays (s.pend i ac) (s := s₀) (i := i) (a := ac)
      fun f hf => enqueue_modXmit_none (enqueue_none (f := f.untrigger) h (h.home i ac f hf).1 hd)
    refine ⟨hsta, fun j ac' => ?_⟩
    change (dequeueLoop i ac (s.pend i ac) s₀).pend j ac' = _
    rw [hpend, hpend₀]
    split
    · rfl
    · rw [List.append_nil]

lemma enqueue_xmitting (h : xmitframeEnqueueForSleepingSta s f = some s') :
    s'.xmitting = s.xmitting := by
  obtain ⟨j, -, -, -, ⟨-, -, rfl⟩ | ⟨-, -, -, rfl⟩⟩ := xmitframeEnqueueForSleepingSta_cases h
  · rfl
  · rfl

lemma dequeueLoop_xmitting (fs : List (XmitFrame n)) : ∀ s : ApPriv n,
    (dequeueLoop i ac fs s).xmitting = s.xmitting := by
  induction fs with
  | nil => exact fun _ => rfl
  | cons f fs ih =>
      intro s
      rw [dequeueLoop]
      dsimp only
      cases he : xmitframeEnqueueForSleepingSta s { f with triggered := false } with
      | none => exact ih _
      | some s' =>
          have hxmit : s'.xmitting = s.xmitting := enqueue_xmitting he
          exact (ih _).trans hxmit

lemma dequeueXmitframes_xmitting (s : ApPriv n) (i : Fin n) (ac : Ac) :
    (dequeueXmitframesToSleepingQueue i s ac).xmitting = s.xmitting :=
  dequeueLoop_xmitting (s.pend i ac) _

lemma acOf_untrigger {fs : List (XmitFrame n)} (h : ∀ f ∈ fs, acOf f.priority = ac) :
    ∀ f ∈ fs.map XmitFrame.untrigger, acOf f.priority = ac := by
  intro f hf
  obtain ⟨g, hg, rfl⟩ := List.mem_map.1 hf
  exact h g hg

/-- A station that is not mixed is not mixed afterwards. -/
lemma notMixed_dequeueXmitframes (h : Homed s) (hu : NotMixed s j) (i : Fin n) (ac : Ac) :
    NotMixed (dequeueXmitframesToSleepingQueue i s ac) j := by
  intro ac'
  rcases dequeueXmitframes_frames h i ac with ⟨hsta, hpend⟩ | ⟨-, honly, hsleep, hpend⟩
  · rw [hsta, hpend]
    refine (hu ac').imp_left fun hnil => ?_
    split
    · rename_i hand
      rw [hand.1, hand.2] at hnil
      rw [hnil]
      rfl
    · exact hnil
  · rw [hpend]
    by_cases hj : j = i
    · subst hj
      by_cases hac : ac' = ac
      · exact .inl (if_pos ⟨rfl, hac⟩)
      · rw [if_neg (fun hand => hac hand.2), hsleep]
        refine (hu ac').imp_right fun hne f hf => ?_
        rcases List.mem_append.1 hf with hf | hf
        · exact hne f hf
        · rw [acOf_untrigger (fun g hg => (h.home j ac g hg).2) f hf]
          exact Ne.symm hac
    · rw [if_neg (fun hand => hj hand.1), honly.other j hj]
      exact hu ac'

/-- Frames of a queue are buffered behind none of their access category. -/
lemma Keeps.dequeueXmitframes (hu : NotMixed s i) (ac : Ac) :
    Keeps s (dequeueXmitframesToSleepingQueue i s ac) := by
  intro h
  have hxmit := dequeueXmitframes_xmitting s i ac
  have hpsta : ∀ f ∈ (s.pend i ac).map XmitFrame.untrigger, Home s i f ∧ acOf f.priority = ac := by
    intro f hf
    obtain ⟨g, hg, rfl⟩ := List.mem_map.1 hf
    exact h.home i ac g hg
  rcases dequeueXmitframes_frames h i ac with ⟨hsta, hpend⟩ | ⟨hd, honly, hsleep, hpend⟩
  · constructor
    · refine ⟨fun j ac' f hf => ?_, fun j f hf => ?_, fun a b => ?_, fun j => ?_, ?_⟩
      · rw [hpend] at hf
        rw [Home, hsta]
        split at hf
        · rename_i hand
          rw [hand.1, hand.2]
          exact hpsta f hf
        · exact h.home j ac' f hf
      · rw [hsta] at hf
        rw [Home, hsta]
        exact h.sleepHome j f hf
      · rw [hsta]
        exact h.unique a b
      · rw [hsta]
        exact h.awake j
      · rw [hxmit]
        exact h.apart
    · refine waiting_sublist (fun j => by rw [hsta]) hxmit fun j l => ?_
      unfold ApPriv.queueLine
      rw [hsta, hpend]
      split
      · rename_i hand
        rw [hand.1, hand.2, onLine_congr (host_untrigger (s.pend i ac))]
      · exact .refl _
  · have hmac : ∀ j, ((dequeueXmitframesToSleepingQueue i s ac).sta j).macAddr =
        (s.sta j).macAddr := fun j => (honly.same j).1
    constructor
    · refine ⟨fun j ac' f hf => ?_, fun j f hf => ?_, fun a b c ha hb => ?_, fun j hbc hj => ?_, ?_⟩
      · rw [hpend] at hf
        rw [Home, hmac]
        split at hf
        · cases hf
        · exact h.home j ac' f hf
      · rw [Home, hmac]
        by_cases hj : j = i
        · subst hj
          rw [hsleep] at hf
          rcases List.mem_append.1 hf with hf | hf
          · exact h.sleepHome j f hf
          · exact (hpsta f hf).1
        · rw [honly.other j hj] at hf
          exact h.sleepHome j f hf
      · rw [hmac] at ha hb
        exact h.unique a b c ha hb
      · rw [hmac] at hbc
        by_cases hji : j = i
        · -- frames other than group frames are buffered while the station sleeps
          subst hji
          unfold Dozes at hd
          rw [if_neg hbc] at hd
          rw [honly.sleeps.1, hd.1] at hj
          cases hj
        · rw [honly.other j hji] at hj ⊢
          exact h.awake j hbc hj
      · rw [hxmit]
        exact h.apart
    · refine waiting_sublist hmac hxmit fun j l => ?_
      unfold ApPriv.queueLine
      rw [hpend]
      by_cases hj : j = i
      · subst hj
        rw [hsleep, onLine_append, onLine_congr (host_untrigger (s.pend j ac))]
        by_cases hac : l.2 = ac
        · -- the queue moves as a whole, and one of the two was empty
          subst hac
          rw [if_pos ⟨rfl, rfl⟩]
          rcases hu l.2 with hnil | hne
          · rw [hnil]
            simp
          · rw [onLine_eq_nil (q := (s.sta j).sleepQ) fun f hf heq =>
              hne f hf (congrArg Prod.snd heq :)]
            simp
        · rw [if_neg (fun hand => hac hand.2), onLine_eq_nil (q := s.pend j ac) fun f hf heq =>
            hac ((congrArg Prod.snd heq :).symm.trans (h.home j ac f hf).2), List.append_nil]
      · rw [if_neg (fun hand => hj hand.1), honly.other j hj]

lemma dequeueXmitframes_macAddr (h : Homed s) (i j : Fin n) (ac : Ac) :
    ((dequeueXmitframesToSleepingQueue i s ac).sta j).macAddr = (s.sta j).macAddr := by
  rcases dequeueXmitframes_frames h i ac with ⟨hsta, -⟩ | ⟨-, honly, -, -⟩
  · rw [hsta]
  · exact (honly.same j).1

lemma Keeps.dequeueAll (acs : List Ac) : ∀ {s : ApPriv n}, Homed s → NotMixed s i →
    Keeps s (acs.foldl (dequeueXmitframesToSleepingQueue i) s) ∧
      (∀ j, NotMixed s j → NotMixed (acs.foldl (dequeueXmitframesToSleepingQueue i) s) j) ∧
      ∀ j, ((acs.foldl (dequeueXmitframesToSleepingQueue i) s).sta j).macAddr =
        (s.sta j).macAddr := by
  induction acs with
  | nil => exact fun {s} _ _ => ⟨.refl s, fun _ hu => hu, fun _ => rfl⟩
  | cons ac acs ih =>
      intro s h hi
      have hfirst := Keeps.dequeueXmitframes hi ac
      obtain ⟨hrest, hu, hmac⟩ := ih (hfirst h).1 (notMixed_dequeueXmitframes h hi i ac)
      exact ⟨hfirst.trans hrest, fun j hj => hu j (notMixed_dequeueXmitframes h hj i ac),
        fun j => (hmac j).trans (dequeueXmitframes_macAddr h i j ac)⟩

lemma SameFrames.notMixed (h : SameFrames s s') (hu : NotMixed s i) : NotMixed s' i := by
  intro ac
  rw [h.pend, h.sleepQ]
  exact hu ac

/-- A station that is awake falls asleep while group frames are not mixed. -/
lemma Keeps.stopStaXmit (hawake : (s.sta i).sleepState = false)
    (hu : ∀ b ∈ rtwGetBcmcStainfo s, NotMixed s b) : Keeps s (stopStaXmit s i) := by
  intro h
  have hi : NotMixed s i := by
    by_cases hbc : (s.sta i).macAddr = some bcAddr
    · exact hu i (h.entry_iff.2 hbc)
    · intro ac
      rw [h.awake i hbc hawake]
      exact .inr fun f hf => by cases hf
  set s₁ := dequeueMgmtXmitframeToSleepq i ((s.modSta i fun psta => psta.fallAsleep).modDz
    (insert ((s.modSta i fun psta => psta.fallAsleep).sta i).aid)) with hs₁
  have hsame : SameFrames s s₁ :=
    ((SameFrames.modSta rfl rfl fun hf => by cases hf).trans (.modDz ..)).trans (.dequeueMgmt ..)
  have h₁ := (hsame.keeps h).1
  obtain ⟨hkeeps, hnotMixed, hmac⟩ :=
    Keeps.dequeueAll [.vo, .vi, .be, .bk] h₁ (hsame.notMixed hi)
  set s₂ := [Ac.vo, .vi, .be, .bk].foldl (dequeueXmitframesToSleepingQueue i) s₁ with hs₂
  have h₂ := (hkeeps h₁).1
  refine Keeps.trans (hsame.keeps.trans hkeeps) ?_ h
  unfold Rtl8723du.stopStaXmit
  dsimp only
  rw [← hs₁, ← hs₂]
  cases hb : rtwGetBcmcStainfo s₂ with
  | none => exact .refl s₂
  | some b =>
      have hbmac : (s.sta b).macAddr = some bcAddr := by
        rw [← hsame.mac, ← hmac]
        exact macAddr_of_rtwGetBcmcStainfo hb
      have hub : NotMixed s b := hu b (h.entry_iff.2 hbmac)
      exact (Keeps.dequeueAll [.vo, .vi, .be, .bk] h₂ (hnotMixed b (hsame.notMixed hub))).1

/-! ### Stations coming and going -/

lemma Keeps.rtwFreeStainfo (s : ApPriv n) (i : Fin n) : Keeps s (rtwFreeStainfo s i) := by
  intro h
  set s' := Rtl8723du.rtwFreeStainfo s i with hs'
  have hother : ∀ j, j ≠ i → s'.sta j = s.sta j := fun j hj => Function.update_of_ne hj ..
  have hself : (s'.sta i).macAddr = none ∧ (s'.sta i).sleepQ = [] := by
    have hsta : s'.sta = Function.update s.sta i (s'.sta i) := by
      rw [hs']
      unfold Rtl8723du.rtwFreeStainfo
      dsimp only
      rw [Function.update_self]
    rw [hs']
    unfold Rtl8723du.rtwFreeStainfo
    dsimp only
    rw [Function.update_self]
    exact ⟨rfl, rfl⟩
  have hpend : ∀ j ac, s'.pend j ac = if j = i then [] else s.pend j ac := by
    intro j ac
    change ((Function.update s.staXmitpriv i {} j).acQ ac).staPending = _
    by_cases hj : j = i
    · subst hj
      rw [Function.update_self, if_pos rfl]
      cases ac <;> rfl
    · rw [Function.update_of_ne hj, if_neg hj]
      rfl
  have hmac : ∀ {j a}, (s'.sta j).macAddr = some a → j ≠ i ∧ (s.sta j).macAddr = some a := by
    intro j a hj
    have hne : j ≠ i := by
      rintro rfl
      rw [hself.1] at hj
      cases hj
    exact ⟨hne, hother j hne ▸ hj⟩
  have hhomed : Homed s' := by
    refine ⟨fun j ac g hg => ?_, fun j g hg => ?_, fun a b c ha hb => ?_, fun j hbc hj => ?_,
      h.apart⟩
    · rw [hpend] at hg
      split at hg
      · cases hg
      · rw [Home, hother j ‹_›]
        exact h.home j ac g hg
    · by_cases hj : j = i
      · rw [hj, hself.2] at hg
        cases hg
      · rw [hother j hj] at hg
        rw [Home, hother j hj]
        exact h.sleepHome j g hg
    · exact h.unique a b c (hmac ha).2 (hmac hb).2
    · by_cases hji : j = i
      · rw [hji]
        exact hself.2
      · rw [hother j hji] at hbc hj ⊢
        exact h.awake j hbc hj
  refine ⟨hhomed, fun l => ?_⟩
  unfold ApPriv.waiting
  refine List.Sublist.append ?_ (List.Sublist.refl _)
  cases hentry : s'.entry l.1 with
  | none => exact List.nil_sublist _
  | some j =>
      obtain ⟨hj, hold⟩ := hmac (hhomed.entry_iff.1 hentry)
      rw [h.entry_iff.2 hold]
      change List.Sublist (s'.queueLine l j) (s.queueLine l j)
      unfold ApPriv.queueLine
      rw [hpend, if_neg hj, hother j hj]

lemma Keeps.rtwAllocStainfo {hwaddr : MacAddr} (halloc : rtwAllocStainfo s hwaddr = some s')
    (hnew : s.entry hwaddr = none) : Keeps s s' := by
  intro h
  unfold Rtl8723du.rtwAllocStainfo at halloc
  split at halloc
  · cases halloc
  · rename_i i hfree
    obtain rfl := Option.some.inj halloc
    set s' := (s.modSta i fun _ => { macAddr := some hwaddr }).modXmit i fun _ => {} with hs'
    have hfree' : (s.sta i).macAddr = none := by simpa using List.find?_some hfree
    have hself : s'.sta i = { macAddr := some hwaddr } :=
      s.modSta_sta_self i fun _ => { macAddr := some hwaddr }
    have hother : ∀ j, j ≠ i → s'.sta j = s.sta j := fun j hj =>
      s.modSta_sta_of_ne hj fun _ => { macAddr := some hwaddr }
    have hnone : ∀ j, (s.sta j).macAddr ≠ some hwaddr := by
      intro j hj
      rw [h.entry_iff.2 hj] at hnew
      cases hnew
    have hpend : ∀ j ac, s'.pend j ac = if j = i then [] else s.pend j ac := by
      intro j ac
      change ((Function.update s.staXmitpriv i {} j).acQ ac).staPending = _
      by_cases hj : j = i
      · subst hj
        rw [Function.update_self, if_pos rfl]
        cases ac <;> rfl
      · rw [Function.update_of_ne hj, if_neg hj]
        rfl
    have hhomed : Homed s' := by
      refine ⟨fun j ac g hg => ?_, fun j g hg => ?_, fun a b c ha hb => ?_, fun j hbc hj => ?_,
        h.apart⟩
      · rw [hpend] at hg
        split at hg
        · cases hg
        · rw [Home, hother j ‹_›]
          exact h.home j ac g hg
      · by_cases hj : j = i
        · rw [hj, hself] at hg
          cases hg
        · rw [hother j hj] at hg
          rw [Home, hother j hj]
          exact h.sleepHome j g hg
      · by_cases hai : a = i
        · by_cases hbi : b = i
          · rw [hai, hbi]
          · subst hai
            rw [hself] at ha
            rw [hother b hbi, ← ha] at hb
            exact absurd hb (hnone b)
        · rw [hother a hai] at ha
          by_cases hbi : b = i
          · subst hbi
            rw [hself] at hb
            rw [← hb] at ha
            exact absurd ha (hnone a)
          · rw [hother b hbi] at hb
            exact h.unique a b c ha hb
      · by_cases hji : j = i
        · rw [hji, hself]
        · rw [hother j hji] at hbc hj ⊢
          exact h.awake j hbc hj
    refine ⟨hhomed, fun l => ?_⟩
    rw [ApPriv.waiting]
    refine List.Sublist.append ?_ (List.Sublist.refl _)
    cases hentry : s'.entry l.1 with
    | none => exact List.nil_sublist _
    | some j =>
        change List.Sublist (s'.queueLine l j) _
        rw [ApPriv.queueLine]
        rw [hpend]
        by_cases hj : j = i
        · rw [if_pos hj, hj, hself]
          exact List.nil_sublist _
        · have hold := hhomed.entry_iff.1 hentry
          rw [hother j hj] at hold ⊢
          rw [if_neg hj, h.entry_iff.2 hold]
          exact .refl _

lemma Keeps.onAuth (s : ApPriv n) (sa : MacAddr) (res : AuthRes) : Keeps s (onAuth s sa res) := by
  unfold Rtl8723du.onAuth
  split
  · exact .refl s
  · rename_i hmc
    dsimp only
    cases hfound : (if (rtwGetStainfo s sa).isSome then some s
        else Rtl8723du.rtwAllocStainfo s sa) with
    | none => exact .refl s
    | some s' =>
        have hs' : Keeps s s' := by
          split at hfound
          · cases hfound
            exact .refl s
          · rename_i hnone
            refine Keeps.rtwAllocStainfo hfound ?_
            have hentry : s.entry sa = rtwGetStainfo s sa := by
              rw [ApPriv.entry, rtwGetStainfo]
              rw [if_neg hmc]
            rw [hentry]
            simpa using hnone
        dsimp only
        cases rtwGetStainfo s' sa with
        | none => exact hs'
        | some i =>
            cases res with
            | fail => exact hs'.trans (.rtwFreeStainfo s' i)
            | goOn => exact hs'
            | success => exact hs'.trans (SameFrames.modSta rfl rfl fun h => .inl h).keeps

lemma SameFrames.rtwAidAlloc (conf : ApConf) (s : ApPriv n) (i : Fin n) :
    SameFrames s (rtwAidAlloc conf s i) := by
  have haid : SameFrames s (s.modSta i fun psta =>
      { psta with aid := findAid conf s 0 0 conf.maxAid }) :=
    .modSta rfl rfl fun h => .inl h
  unfold Rtl8723du.rtwAidAlloc
  dsimp only
  split
  · exact haid
  · exact haid.trans (.of_eq rfl rfl rfl)

lemma SameFrames.assocFinish (conf : ApConf) (s : ApPriv n) (i : Fin n) (res : AssocRes)
    (qosOption : Bool) : SameFrames s (assocFinish conf s i res qosOption) := by
  have haid : SameFrames s (assocAid conf s i) := by
    rw [assocAid]
    split
    · exact .refl s
    · exact .rtwAidAlloc conf s i
  unfold Rtl8723du.assocFinish
  dsimp only
  split
  · exact haid
  · split
    · exact haid.trans (.modSta rfl rfl fun h => .inl h)
    · exact (haid.trans (.modSta rfl rfl fun h => .inl h)).trans (.modSta rfl rfl fun h => .inl h)

lemma SameFrames.onAssocReq (conf : ApConf) (s : ApPriv n) (sa : MacAddr) (res : AssocRes)
    (wmm : Option (BitVec 8)) (ht : Bool) : SameFrames s (onAssocReq conf s sa res wmm ht) := by
  unfold Rtl8723du.onAssocReq
  split
  · exact .refl s
  · cases rtwGetStainfo s sa with
    | none => exact .refl s
    | some i =>
        dsimp only
        have hstart : SameFrames s (s.modSta i StaInfo.startAssoc) := by
          refine .modSta ?_ ?_ fun h => ?_
          · rw [StaInfo.startAssoc]
            split <;> rfl
          · rw [StaInfo.startAssoc]
            split <;> rfl
          · unfold StaInfo.startAssoc at h
            split at h
            · exact .inl h
            · exact .inl h
        split
        · split
          · exact hstart
          · have hparse := hstart.trans
              (.modSta (g := rtwApParseStaWmmIe wmm) (i := i) rfl rfl fun h => .inl h)
            split
            · exact hparse
            · exact hparse.trans (.assocFinish ..)
        · exact .refl s

/-! ### Events of power save -/

lemma Keeps.processPwrbitData (i : Fin n) (pwrbit : Bool)
    (hu : pwrbit = true → (s.sta i).sleepState = false → ∀ b ∈ rtwGetBcmcStainfo s, NotMixed s b) :
    Keeps s (processPwrbitData s i pwrbit).1 := by
  unfold Rtl8723du.processPwrbitData
  cases pwrbit with
  | true =>
      rw [if_pos rfl]
      dsimp only
      cases hsleep : (s.sta i).sleepState with
      | true => exact .refl s
      | false => exact .stopStaXmit hsleep (hu rfl hsleep)
  | false =>
      rw [if_neg (by simp)]
      split
      · exact .wakeupStaToXmit s i
      · exact .refl s

lemma Keeps.processWmmpsData (s : ApPriv n) (i : Fin n) (priority : ℕ) :
    Keeps s (processWmmpsData s i priority).1 := by
  unfold Rtl8723du.processWmmpsData
  split
  · split
    · exact .xmitDeliveryEnabledFrames s i
    · exact .refl s
  · exact .refl s

lemma Keeps.rtwApRxDataValidateHdr {ta : MacAddr} {pwrbit qos : Bool} {priority : ℕ}
    (hu : OrderFits s (.dataFrame ta pwrbit qos priority)) :
    Keeps s (rtwApRxDataValidateHdr s ta pwrbit qos priority).1 := by
  unfold Rtl8723du.rtwApRxDataValidateHdr
  cases hi : rtwGetStainfo s ta with
  | none => exact .refl s
  | some i =>
      have hpwr : Keeps s (Rtl8723du.processPwrbitData s i pwrbit).1 :=
        .processPwrbitData i pwrbit fun hp => hu hp i hi
      dsimp only
      split
      · exact hpwr.trans (.processWmmpsData _ i priority)
      · exact hpwr

/-- A PS-Poll releases the first frame. -/
lemma Keeps.psPollRelease {rest : List (XmitFrame n)} (hq : (s.sta i).sleepQ = f :: rest) :
    Keeps s (psPollRelease s i f rest).1 := by
  set g : XmitFrame n := { f with
    mdata := ((s.modSta i fun psta => psta.psPollTurn rest).sta i).sleepqLen != 0
    triggered := true } with hg
  have hrel : Keeps s ([g].foldl rtwHalXmitframeEnqueue
      (s.modSta i fun _ => (s.sta i).psPollTurn rest)) := by
    refine .release rfl (fun h => h) (fun f' hf' => ?_) fun l => ?_
    · rw [hq]
      rcases List.mem_append.1 hf' with hf' | hf'
      · exact ⟨f', List.mem_cons_of_mem _ hf', rfl⟩
      · obtain rfl := List.mem_singleton.1 hf'
        exact ⟨f, List.mem_cons_self .., rfl⟩
    · rw [hq, onLine_cons f rest]
      exact .refl _
  unfold Rtl8723du.psPollRelease
  dsimp only
  split
  · exact hrel.trans (SameFrames.modTim ..).keeps
  · exact hrel

lemma SameFrames.psPollEmpty (s : ApPriv n) (i : Fin n) : SameFrames s (psPollEmpty s i).1 := by
  have htim := SameFrames.modTim s fun map => map.erase (s.sta i).aid
  unfold Rtl8723du.psPollEmpty
  dsimp only
  split
  · split
    · exact htim
    · exact htim.trans (.modSta rfl rfl fun h => .inl h)
  · exact .refl s

lemma Keeps.validateRecvPsPoll (s : ApPriv n) (ta : MacAddr) (aid priority : ℕ) :
    Keeps s (validateRecvPsPoll s ta aid priority).1 := by
  have hclear : ∀ i, SameFrames s (s.modSta i fun psta => psta.clearAliveChk) := fun i =>
    .modSta rfl rfl fun h => .inl h
  rcases validateRecvPsPoll_cases s ta aid priority with
    ⟨-, h | ⟨i, h⟩⟩ | ⟨i, s', -, rfl, ⟨f, rest, hq, h⟩ | ⟨-, h⟩⟩
  · rw [h]
    exact .refl s
  · rw [h]
    exact (hclear i).keeps
  · rw [h]
    exact (hclear i).keeps.trans (.psPollRelease (((hclear i).sleepQ i).trans hq))
  · rw [h]
    exact ((hclear i).trans (.psPollEmpty ..)).keeps

lemma Keeps.chkBmcSleepqHdl (s : ApPriv n) : Keeps s (chkBmcSleepqHdl s).1 := by
  unfold Rtl8723du.chkBmcSleepqHdl
  cases rtwGetBcmcStainfo s with
  | none => exact .refl s
  | some b =>
      dsimp only
      split
      · exact .releaseSleepQ takesFirst_bmcTurn s b
      · exact .refl s

lemma SameFrames.rtwChkHiQueueHdl (s : ApPriv n) (hiqEmpty : Bool) :
    SameFrames s (rtwChkHiQueueHdl s hiqEmpty) := by
  unfold Rtl8723du.rtwChkHiQueueHdl
  cases rtwGetBcmcStainfo s with
  | none => exact .refl s
  | some b =>
      dsimp only
      split
      · exact .clearBmcBits s
      · exact .refl s

lemma Keeps.rtwApBmcFramesHdl (conf : ApConf) (s : ApPriv n) :
    Keeps s (rtwApBmcFramesHdl conf s).1 := by
  unfold Rtl8723du.rtwApBmcFramesHdl
  split
  · exact .refl s
  · cases rtwGetBcmcStainfo s with
    | none => exact .refl s
    | some b =>
        dsimp only
        split
        · refine .takesFirst takesFirst_bmcTurn (List.take_append_drop hiqXmitCounts _).symm ?_
          refine List.ext_getElem? fun k => ?_
          rw [List.getElem?_map, List.getElem?_mapIdx, List.getElem?_map, Option.map_map]
          refine congrArg (Option.map · _) (funext fun f => ?_)
          dsimp only [Function.comp]
          split <;> rfl
        · split
          · exact (SameFrames.clearBmcBits s).keeps
          · exact .refl s

lemma Keeps.withSta {ta : MacAddr} {g : Fin n → ApPriv n × List (ApOut n)}
    (hg : ∀ i, Keeps s (g i).1) : Keeps s (s.withSta ta g).1 := by
  rw [ApPriv.withSta]
  cases rtwGetStainfo s ta with
  | none => exact .refl s
  | some i => exact hg i

/-! ### Offering and leaving -/

/-- A frame is buffered last in its `sleep_q`. -/
lemma enqueue_frames (h : xmitframeEnqueueForSleepingSta s f = some s') :
    ∃ i, Placed s i f ∧ (∀ j, j ≠ i → s'.sta j = s.sta j) ∧ SameStas s s' ∧
      (s'.sta i).sleepQ = (s.sta i).sleepQ ++ [f] ∧
      ((s.sta i).macAddr ≠ some bcAddr → (s'.sta i).sleepState = true) ∧ s'.pend = s.pend := by
  obtain ⟨i, hi, hpsta, hasoc, hcases⟩ := xmitframeEnqueueForSleepingSta_cases h
  have hplaced : Placed s i f := ⟨hpsta, hi, hasoc⟩
  refine ⟨i, hplaced, ?_⟩
  rcases hcases with ⟨hmc, -, rfl⟩ | ⟨-, hsleep, -, rfl⟩
  · refine ⟨fun j hj => Function.update_of_ne hj .., .of_update rfl rfl rfl, ?_, ?_, rfl⟩
    · simp [StaInfo.bufferGroup]
    · exact fun hne => absurd ((isMcast_of_placed hplaced).1 hmc) hne
  · refine ⟨fun j hj => Function.update_of_ne hj .., .of_update rfl rfl rfl, ?_, ?_, rfl⟩
    · simp [StaInfo.buffer]
    · simp [StaInfo.buffer, hsleep]

lemma home_of_placed (h : Placed s i f) : Home s i f :=
  ⟨h.1, macAddr_of_rtwGetStainfo h.2.1⟩

/-- A frame that is offered gets in line last. -/
lemma waiting_rtwXmit (h : Homed s) {ra : MacAddr} {priority pkt : ℕ}
    (hfits : OrderFits s (.xmit ra priority pkt)) :
    Homed (rtwXmit s ra priority pkt) ∧ ∀ l,
      List.Sublist ((rtwXmit s ra priority pkt).waiting l)
        (s.waiting l ++ [(⟨ra, priority, pkt⟩ : HostFrame)].filter (·.line = l)) := by
  have hstay : Homed s ∧ ∀ l, List.Sublist (s.waiting l)
      (s.waiting l ++ [(⟨ra, priority, pkt⟩ : HostFrame)].filter (·.line = l)) :=
    ⟨h, fun l => List.sublist_append_left ..⟩
  rw [rtwXmit]
  split
  · exact hstay
  · cases hi : rtwGetStainfo s ra with
    | none => exact hstay
    | some i =>
        dsimp only
        split
        · exact hstay
        · set s₀ : ApPriv n := { s with freeXmitframeCnt := s.freeXmitframeCnt - 1 } with hs₀
          set f : XmitFrame n := { ra, psta := i, priority, pkt } with hf
          have h₀ : Homed s₀ := ⟨h.home, h.sleepHome, h.unique, h.awake, h.apart⟩
          have hw₀ : ∀ l, s₀.waiting l = s.waiting l := fun _ => rfl
          have hhost : f.host = ⟨ra, priority, pkt⟩ := rfl
          have hline : ∀ l, [(⟨ra, priority, pkt⟩ : HostFrame)].filter (·.line = l) =
            onLine l [f] := fun _ => rfl
          cases he : xmitframeEnqueueForSleepingSta s₀ f with
          | none =>
              rw [Option.getD_none]
              refine ⟨⟨h.home, h.sleepHome, h.unique, h.awake, ?_⟩, fun l => ?_⟩
              · change (s.xmitting ++ [f]).Pairwise _
                rw [List.pairwise_append]
                refine ⟨h.apart, List.pairwise_singleton .., fun g hg g' hg' => ?_⟩
                obtain rfl := List.mem_singleton.1 hg'
                exact hfits g hg
              · rw [hline]
                change List.Sublist ((s.entry l.1).elim [] (s.queueLine l) ++
                  onLine l (s.xmitting ++ [f])) _
                rw [onLine_append, ← List.append_assoc]
                exact .refl _
          | some s' =>
              rw [Option.getD_some]
              obtain ⟨j, hplaced, hother, hsame, hsleep, hasleep, hpend⟩ := enqueue_frames he
              have hmac : ∀ k, (s'.sta k).macAddr = (s₀.sta k).macAddr := fun k => (hsame k).1
              have hxmit : s'.xmitting = s₀.xmitting := enqueue_xmitting he
              have hhome := home_of_placed hplaced
              have hs' : Homed s' := by
                refine ⟨fun k ac g hg => ?_, fun k g hg => ?_, fun a b c ha hb => ?_,
                  fun k hbc hk => ?_, ?_⟩
                · rw [hpend] at hg
                  rw [Home, hmac]
                  exact h₀.home k ac g hg
                · rw [Home, hmac]
                  by_cases hk : k = j
                  · subst hk
                    rw [hsleep] at hg
                    rcases List.mem_append.1 hg with hg | hg
                    · exact h₀.sleepHome k g hg
                    · obtain rfl := List.mem_singleton.1 hg
                      exact hhome
                  · rw [hother k hk] at hg
                    exact h₀.sleepHome k g hg
                · rw [hmac] at ha hb
                  exact h₀.unique a b c ha hb
                · rw [hmac] at hbc
                  by_cases hkj : k = j
                  · subst hkj
                    rw [hasleep hbc] at hk
                    cases hk
                  · rw [hother k hkj] at hk ⊢
                    exact h₀.awake k hbc hk
                · rw [hxmit]
                  exact h₀.apart
              refine ⟨hs', fun l => ?_⟩
              have hentry : s'.entry l.1 = s.entry l.1 := by
                rw [ApPriv.entry]
                simp only [hmac]
                rfl
              rw [hline]
              unfold ApPriv.waiting
              rw [hentry, hxmit]
              change List.Sublist (_ ++ onLine l s.xmitting) _
              by_cases hl : f.host.line = l
              · -- none of the line is on its way
                have hnone : onLine l s.xmitting = [] :=
                  onLine_eq_nil fun g hg heq => hfits g hg (heq.trans hl.symm)
                have hj : s.entry l.1 = some j := by
                  rw [← hl]
                  exact h.entry_iff.2 hhome.2
                rw [hnone, hj, List.append_nil, List.append_nil]
                change List.Sublist (s'.queueLine l j) (s.queueLine l j ++ _)
                rw [ApPriv.queueLine]
                rw [hpend, hsleep, onLine_append, ← List.append_assoc]
                exact .refl _
              · have hnone : onLine l [f] = [] := onLine_eq_nil fun g hg heq => by
                  obtain rfl := List.mem_singleton.1 hg
                  exact hl heq
                rw [hnone, List.append_nil]
                refine List.Sublist.append ?_ (.refl _)
                cases s.entry l.1 with
                | none => exact .refl _
                | some k =>
                    change List.Sublist (s'.queueLine l k) (s.queueLine l k)
                    rw [ApPriv.queueLine]
                    rw [hpend]
                    by_cases hk : k = j
                    · subst hk
                      rw [hsleep, onLine_append, hnone, List.append_nil]
                      exact .refl _
                    · rw [hother k hk]
                      exact .refl _

/-- A frame on its way gets in line where it is, or is gone. -/
lemma Keeps.preXmitframe {k : ℕ} {direct : Bool} (hfits : OrderFits s (.halXmit k direct)) :
    Keeps s (preXmitframe s k direct).1 := by
  unfold Rtl8723du.preXmitframe
  cases hk : s.xmitting[k]? with
  | none => exact .refl s
  | some f =>
      have hlt : k < s.xmitting.length := (List.getElem?_eq_some_iff.1 hk).1
      have hsplit : s.xmitting = s.xmitting.take k ++ f :: s.xmitting.drop (k + 1) := by
        rw [← (List.getElem?_eq_some_iff.1 hk).2, List.getElem_cons_drop, List.take_append_drop]
      set pre := s.xmitting.take k with hpre
      set post := s.xmitting.drop (k + 1) with hpost
      have herase : s.xmitting.eraseIdx k = pre ++ post := List.eraseIdx_eq_take_drop_succ ..
      set s₁ : ApPriv n := { s with xmitting := s.xmitting.eraseIdx k } with hs₁
      have hx₁ : s₁.xmitting = pre ++ post := herase
      have hfirst : Keeps s s₁ := by
        intro h
        have hsub : List.Sublist s₁.xmitting s.xmitting := List.eraseIdx_sublist ..
        exact ⟨⟨h.home, h.sleepHome, h.unique, h.awake, h.apart.sublist hsub⟩,
          fun l => List.Sublist.append (.refl _) (onLine_sublist hsub)⟩
      dsimp only
      split
      · exact hfirst.trans (SameFrames.send s₁ 1).keeps
      · rename_i hdirect
        by_cases hplaced : ∃ i, Placed s i f
        · obtain ⟨i, hplaced⟩ := hplaced
          intro h
          have h₁ := (hfirst h).1
          have hhome : Home s₁ i f := home_of_placed hplaced
          refine ⟨h₁.queue hhome, fun l => ?_⟩
          have hsta : (rtwHalXmitframeEnqueue s₁ f).sta = s.sta :=
            rtwHalXmitframeEnqueue_sta s₁ f
          have hentry : (rtwHalXmitframeEnqueue s₁ f).entry l.1 = s.entry l.1 := by
            unfold ApPriv.entry
            rw [hsta]
          have hpend : ∀ j ac, (rtwHalXmitframeEnqueue s₁ f).pend j ac =
              s.pend j ac ++ if j = i ∧ (s.sta i).asocState = true ∧ acOf f.priority = ac then [f]
                else [] := queue_pend h₁ hhome
          unfold ApPriv.waiting
          rw [hentry, rtwHalXmitframeEnqueue_xmitting, hx₁, hsplit, onLine_append, onLine_append,
            onLine_cons f post]
          by_cases hl : f.host.line = l
          · -- it is the first of its line on the way, and none of the line is buffered
            have happart := h.apart
            rw [hsplit, List.pairwise_append] at happart
            have hnone : onLine l pre = [] := onLine_eq_nil fun g hg heq =>
              happart.2.2 g hg f (List.mem_cons_self ..) (heq.trans hl.symm)
            have hi : s.entry l.1 = some i := by
              rw [← hl]
              exact h.entry_iff.2 hhome.2
            have hac : acOf f.priority = l.2 := (congrArg Prod.snd hl :)
            have hsleep : onLine l (s.sta i).sleepQ = [] := by
              rcases hfits f hk with hdir | hrefused | hne
              · exact absurd hdir hdirect
              · rw [rtwXmitClassifier_eq hplaced] at hrefused
                cases hrefused
              · refine onLine_eq_nil fun g hg heq => ?_
                rw [hplaced.1] at hne
                exact hne g hg ((congrArg Prod.snd heq :).trans hac.symm)
            rw [hnone, hi]
            change List.Sublist ((rtwHalXmitframeEnqueue s₁ f).queueLine l i ++ _)
              (s.queueLine l i ++ _)
            unfold ApPriv.queueLine
            rw [hpend, hsta, hsleep, if_pos ⟨rfl, hplaced.2.2, hac⟩, onLine_append]
            simp
          · have hnone : onLine l [f] = [] := onLine_eq_nil fun g hg heq => by
              obtain rfl := List.mem_singleton.1 hg
              exact hl heq
            rw [hnone, List.nil_append]
            refine List.Sublist.append ?_ (.refl _)
            cases s.entry l.1 with
            | none => exact .refl _
            | some j =>
                change List.Sublist ((rtwHalXmitframeEnqueue s₁ f).queueLine l j)
                  (s.queueLine l j)
                unfold ApPriv.queueLine
                rw [hpend, hsta, onLine_append]
                split
                · rw [hnone, List.append_nil]
                · rw [onLine_nil, List.append_nil]
        · have hrefused : rtwXmitClassifier s₁ f = none := by
            cases hc : rtwXmitClassifier s₁ f with
            | none => rfl
            | some s' => exact absurd (placed_of_rtwXmitClassifier hc) hplaced
          unfold rtwHalXmitframeEnqueue
          rw [hrefused]
          exact hfirst.trans (SameFrames.rtwFreeXmitframe s₁).keeps

/-- The frame that leaves was first in line. -/
lemma waiting_dequeueOne (h : Homed s) (hd : dequeueOneXmitframe s ac i = some (f, s')) :
    Homed s' ∧ s'.sta = s.sta ∧ ∀ l, s.waiting l = onLine l [f] ++ s'.waiting l := by
  unfold dequeueOneXmitframe at hd
  split at hd
  · cases hd
  · rename_i f' rest hpend
    obtain ⟨rfl, rfl⟩ := Prod.mk.injEq _ _ _ _ ▸ Option.some.inj hd
    have hpend' : s.pend i ac = f' :: rest := hpend
    obtain ⟨hhome, hac⟩ := h.home i ac f' (hpend' ▸ List.mem_cons_self ..)
    set s' := (s.modXmit i fun p => p.modAcQ ac fun q => q.pop).modHw ac fun h =>
      (if rest = [] then h.unlink i else h).count (-1) with hs'
    have hnew : ∀ j ac', s'.pend j ac' = if j = i ∧ ac' = ac then rest else s.pend j ac' := by
      intro j ac'
      rw [hs', modHw_pend, pend_modXmit, TxServq.pop, hpend]
      rfl
    refine ⟨⟨fun j ac' g hg => ?_, h.sleepHome, h.unique, h.awake, h.apart⟩, rfl, fun l => ?_⟩
    · rw [hnew] at hg
      split at hg
      · rename_i hand
        rw [hand.1, hand.2]
        exact h.home i ac g (hpend' ▸ List.mem_cons_of_mem _ hg)
      · exact h.home j ac' g hg
    · rw [ApPriv.waiting]
      change (s.entry l.1).elim [] (s.queueLine l) ++ onLine l s.xmitting =
        onLine l [f'] ++ ((s.entry l.1).elim [] (s'.queueLine l) ++ onLine l s.xmitting)
      rw [← List.append_assoc]
      refine congrArg (· ++ _) ?_
      by_cases hl : f'.host.line = l
      · have hi : s.entry l.1 = some i := by
          rw [← hl]
          exact h.entry_iff.2 hhome.2
        have hac' : l.2 = ac := by rw [← hl, ← hac]; rfl
        rw [hi]
        change s.queueLine l i = onLine l [f'] ++ s'.queueLine l i
        unfold ApPriv.queueLine
        rw [hnew, if_pos ⟨rfl, hac'⟩, hac', hpend', onLine_cons f' rest, List.append_assoc]
        rfl
      · have hnone : onLine l [f'] = [] := onLine_eq_nil fun g hg heq => by
          obtain rfl := List.mem_singleton.1 hg
          exact hl heq
        rw [hnone, List.nil_append]
        cases s.entry l.1 with
        | none => rfl
        | some j =>
            change s.queueLine l j = s'.queueLine l j
            unfold ApPriv.queueLine
            rw [hnew]
            split
            · rename_i hand
              rw [hand.1, hand.2, hpend', onLine_cons f' rest, hnone]
              rfl
            · rfl

lemma waiting_aggregate (ac : Ac) (i : Fin n) (k : ℕ) : ∀ {s : ApPriv n}, Homed s →
    Homed (aggregate ac i k s).2 ∧
      ∀ l, s.waiting l = onLine l (aggregate ac i k s).1 ++ (aggregate ac i k s).2.waiting l := by
  induction k with
  | zero => exact fun h => ⟨h, fun _ => rfl⟩
  | succ k ih =>
      intro s h
      rw [aggregate]
      cases hd : dequeueOneXmitframe s ac i with
      | none => exact ⟨h, fun _ => rfl⟩
      | some r =>
          obtain ⟨f, s'⟩ := r
          obtain ⟨h', -, hw⟩ := waiting_dequeueOne h hd
          obtain ⟨hend, hw'⟩ := ih h'
          refine ⟨hend, fun l => ?_⟩
          dsimp only
          rw [hw, hw' l, onLine_cons f (aggregate ac i k s').1, List.append_assoc]

/-- The frames of a transfer were first in their lines. -/
lemma waiting_xmitframeComplete (conf : ApConf) (k : ℕ) (h : Homed s) :
    Homed (xmitframeComplete conf k s).2 ∧ ∀ l, List.Sublist
      (onLine l (xmitframeComplete conf k s).1 ++ (xmitframeComplete conf k s).2.waiting l)
      (s.waiting l) := by
  rw [xmitframeComplete]
  cases hd : rtwDequeueXframe conf s with
  | none => exact ⟨h, fun _ => .refl _⟩
  | some r =>
      obtain ⟨f, s'⟩ := r
      obtain ⟨ac, i, -, hone⟩ := exists_of_rtwDequeueXframe hd
      obtain ⟨h', -, hw⟩ := waiting_dequeueOne h hone
      obtain ⟨h'', hw'⟩ := waiting_aggregate (acOf f.priority) f.psta k h'
      have hlast : ∀ {s₃ : ApPriv n}, SameFrames (aggregate (acOf f.priority) f.psta k s').2 s₃ →
          Homed s₃ ∧ ∀ l, List.Sublist
            (onLine l (f :: (aggregate (acOf f.priority) f.psta k s').1) ++ s₃.waiting l)
            (s.waiting l) := by
        intro s₃ hsame
        refine ⟨(hsame.keeps h'').1, fun l => ?_⟩
        rw [hw, hw' l, onLine_cons f (aggregate (acOf f.priority) f.psta k s').1,
          List.append_assoc]
        exact ((List.Sublist.refl _).append ((List.Sublist.refl _).append
          ((hsame.keeps h'').2 l)))
      dsimp only
      split
      · exact hlast (.of_eq rfl rfl rfl)
      · split
        · exact hlast (.of_eq rfl rfl rfl)
        · exact hlast (.of_eq rfl rfl rfl)

/-! ### Every run -/

/-- The frames that left and those in line are, in order, among those offered. -/
def LineOk (s : ApPriv n) (h : List Mark) : Prop :=
  Homed s ∧ ∀ l, List.Sublist (leftOn l h ++ s.waiting l) (offeredOn l h)

lemma LineOk.inOrder {h : List Mark} (hl : LineOk s h) : InOrder h := fun l =>
  (List.sublist_append_left ..).trans (hl.2 l)

/-- Nothing is offered and nothing leaves. -/
lemma LineOk.keeps {h : List Mark} (hl : LineOk s h) (hk : Keeps s s') : LineOk s' (h ++ []) := by
  rw [List.append_nil]
  obtain ⟨hs', hsub⟩ := hk hl.1
  exact ⟨hs', fun l => ((List.Sublist.refl _).append (hsub l)).trans (hl.2 l)⟩

/-- Frames leave that were first in line. -/
lemma LineOk.left {h : List Mark} (hl : LineOk s h) {q : List (XmitFrame n)} (hs' : Homed s')
    (hw : ∀ l, List.Sublist (onLine l q ++ s'.waiting l) (s.waiting l)) :
    LineOk s' (h ++ q.map fun f => .left f.host) := by
  refine ⟨hs', fun l => ?_⟩
  have hleft : leftOn l (h ++ q.map fun f => .left f.host) = leftOn l h ++ onLine l q := by
    unfold leftOn onLine
    have hall : (q.map fun f => Mark.left f.host).filterMap Mark.left? =
        q.map XmitFrame.host := by
      rw [List.filterMap_map]
      exact congrFun List.filterMap_eq_map q
    rw [List.filterMap_append, List.filter_append, hall]
  have hoffered : offeredOn l (h ++ q.map fun f => .left f.host) = offeredOn l h := by
    unfold offeredOn
    rw [List.filterMap_append, List.filterMap_map]
    have hnone : q.filterMap (Mark.offered? ∘ fun f => .left f.host) = [] :=
      List.filterMap_eq_nil_iff.2 fun _ _ => rfl
    rw [hnone, List.append_nil]
  rw [hleft, hoffered, List.append_assoc]
  exact ((List.Sublist.refl _).append (hw l)).trans (hl.2 l)

lemma filterMap_sent (fs : List (XmitFrame n)) :
    (fs.map ApOut.sent).filterMap ApOut.sent? = fs := by
  rw [List.filterMap_map]
  exact List.filterMap_some ..

/-- What one event does to the line of every destination. -/
lemma LineOk.step {conf : ApConf} {h : List Mark} {e : ApEvent} (he : OrderFits s e)
    (hl : LineOk s h) : LineOk (orderStep conf s e).1 (h ++ (orderStep conf s e).2) := by
  cases e with
  | xmit ra priority pkt =>
      obtain ⟨hs', hw⟩ := waiting_rtwXmit hl.1 he
      refine ⟨hs', fun l => ?_⟩
      have hleft : leftOn l (h ++ [.offered ⟨ra, priority, pkt⟩]) = leftOn l h := by
        simp [leftOn, Mark.left?]
      have hoffered : offeredOn l (h ++ [.offered ⟨ra, priority, pkt⟩]) =
          offeredOn l h ++ [(⟨ra, priority, pkt⟩ : HostFrame)].filter (·.line = l) := by
        simp [offeredOn, Mark.offered?]
      change List.Sublist (leftOn l (h ++ [.offered ⟨ra, priority, pkt⟩]) ++ _)
        (offeredOn l (h ++ [.offered ⟨ra, priority, pkt⟩]))
      rw [hleft, hoffered]
      refine ((List.Sublist.refl _).append (hw l)).trans ?_
      rw [← List.append_assoc]
      exact (hl.2 l).append (.refl _)
  | halXmit k direct => exact hl.keeps (.preXmitframe he)
  | dequeue =>
      rw [orderStep, marks, apStep, dequeueForTransmission]
      cases hd : rtwDequeueXframe conf s with
      | none => exact hl.keeps (.refl s)
      | some r =>
          obtain ⟨f, s'⟩ := r
          obtain ⟨ac, i, -, hone⟩ := exists_of_rtwDequeueXframe hd
          obtain ⟨h', -, hw⟩ := waiting_dequeueOne hl.1 hone
          have hsend := SameFrames.send s' 1
          exact hl.left (q := [f]) (hsend.keeps h').1 fun l =>
            ((List.Sublist.refl _).append ((hsend.keeps h').2 l)).trans (hw l ▸ .refl _)
  | xmitframeComplete k =>
      obtain ⟨h', hw⟩ := waiting_xmitframeComplete conf k hl.1
      have := hl.left h' hw
      rw [orderStep, marks, apStep]
      dsimp only
      rw [filterMap_sent]
      exact this
  | freeXmitframe =>
      refine hl.keeps (SameFrames.keeps ?_)
      change SameFrames s (freeSentXmitframe s)
      rw [freeSentXmitframe]
      split
      · exact .refl s
      · exact .of_eq rfl rfl rfl
  | mgmtXmit ra psDontq pkt =>
      refine hl.keeps (SameFrames.keeps ?_)
      change SameFrames s (rtwHalMgntXmit s ra psDontq pkt).1
      rw [rtwHalMgntXmit]
      cases rtwGetStainfo s ra with
      | none => exact .refl s
      | some i =>
          dsimp only
          cases hb : mgmtXmitframeEnqueueForSleepingSta s
              { ra, psta := i, priority := 7, psDontq, pkt } with
          | none => exact .refl s
          | some s' => exact .mgmtBuffer hb
  | dequeueMgmt =>
      refine hl.keeps (SameFrames.keeps ?_)
      change SameFrames s (rtwDequeueMgmtXframe s).1
      rw [rtwDequeueMgmtXframe]
      split
      · exact .refl s
      · rename_i i _ _
        dsimp only
        exact (SameFrames.modMgmtQ s i fun q => q.pop).trans (.modMgmtHw ..)
  | dataFrame ta pwrbit qos priority => exact hl.keeps (.rtwApRxDataValidateHdr he)
  | psPoll ta aid priority => exact hl.keeps (.validateRecvPsPoll s ta aid priority)
  | auth sa res => exact hl.keeps (.onAuth s sa res)
  | assocReq sa res wmm ht => exact hl.keeps (SameFrames.onAssocReq conf s sa res wmm ht).keeps
  | apFreeSta ta =>
      refine hl.keeps (.withSta fun i => SameFrames.keeps ?_)
      change SameFrames s (apFreeSta s i)
      exact (SameFrames.modSta (g := fun psta => { psta with asocState := false }) rfl rfl
        fun h => .inl h).trans (.modTim ..)
  | freeStainfo ta => exact hl.keeps (.withSta fun i => .rtwFreeStainfo s i)
  | aliveCheck ta =>
      refine hl.keeps (.withSta fun i => SameFrames.keeps ?_)
      change SameFrames s (aliveCheck s i)
      unfold aliveCheck
      dsimp only
      split
      · exact (SameFrames.modSta (g := fun psta => { psta with aliveChkState := true }) rfl rfl
          fun h => .inl h).trans (.modTim ..)
      · exact .refl s
  | heard ta =>
      exact hl.keeps (.withSta fun i => (SameFrames.modSta (g := fun psta => psta.clearAliveChk)
        rfl rfl fun h => .inl h).keeps)
  | sleepqAging ta asocListCnt =>
      refine hl.keeps (.withSta fun i => ?_)
      change Keeps s (sleepqAging s i asocListCnt).1
      rw [sleepqAging]
      split
      · exact .wakeupStaToXmit s i
      · exact .refl s
  | chkBmcSleepq => exact hl.keeps (.chkBmcSleepqHdl s)
  | chkHiQueue hiqEmpty => exact hl.keeps (SameFrames.rtwChkHiQueueHdl s hiqEmpty).keeps
  | apBmcFrames => exact hl.keeps (.rtwApBmcFramesHdl conf s)

lemma lineOk_start (b : Fin n) : LineOk (ApPriv.start b) [] := by
  have hpend : ∀ i ac, (ApPriv.start b).pend i ac = [] := fun i ac => by cases ac <;> rfl
  have hsta : ∀ i, ((ApPriv.start b).sta i).sleepQ = [] := by
    intro i
    rw [ApPriv.start]
    by_cases hi : i = b
    · subst hi
      simp
    · simp [hi]
  refine ⟨⟨fun i ac f hf => ?_, fun i f hf => ?_, fun i j a hi hj => ?_, fun i _ _ => hsta i,
    List.Pairwise.nil⟩, fun l => ?_⟩
  · rw [hpend] at hf
    cases hf
  · rw [hsta] at hf
    cases hf
  · have hb : ∀ k, ((ApPriv.start b).sta k).macAddr = some a → k = b := by
      intro k hk
      by_contra hne
      unfold ApPriv.start at hk
      simp [hne] at hk
    rw [hb i hi, hb j hj]
  · have hnone : (ApPriv.start b).waiting l = [] := by
      rw [ApPriv.waiting]
      have hxmit : onLine l (ApPriv.start b).xmitting = [] := rfl
      rw [hxmit, List.append_nil]
      cases (ApPriv.start b).entry l.1 with
      | none => rfl
      | some i =>
          change (ApPriv.start b).queueLine l i = []
          rw [ApPriv.queueLine]
          rw [hpend, hsta]
          rfl
    rw [hnone]
    exact .refl _

/-- **Frames leave in the order in which they were offered.**  In every run without the three
situations of `OrderFits`, the frames of each destination and access category that left
`rtw_dequeue_xframe` are, in their order, among those the host offered. -/
theorem leave_inOrder (conf : ApConf) (b : Fin n) {es : List ApEvent}
    (hes : Along (orderStep conf) OrderFits (ApPriv.start b) es) :
    InOrder (outputs (orderStep conf) (ApPriv.start b) es) := by
  have hinv := history_induction (I := LineOk) (fun s h e he hl => hl.step he) (lineOk_start b) hes
  exact hinv.inOrder

/-- Two stations join. -/
def twoStations : List ApEvent :=
  [.auth (MacAddr.ofBytes 2 0 0 0 0 1) .success,
    .assocReq (MacAddr.ofBytes 2 0 0 0 0 1) .join none false,
    .auth (MacAddr.ofBytes 2 0 0 0 0 2) .success,
    .assocReq (MacAddr.ofBytes 2 0 0 0 0 2) .join none false]

/-- A station sleeps, two group frames are buffered, released after a beacon, and sent, a third
one is buffered and sent when the station is awake. -/
def groupFramesSent : List ApEvent :=
  twoStations ++
    [.dataFrame (MacAddr.ofBytes 2 0 0 0 0 1) true false 0, .xmit bcAddr 0 1, .xmit bcAddr 0 2,
      .chkBmcSleepq, .dequeue, .xmit bcAddr 0 3, .dequeue,
      .dataFrame (MacAddr.ofBytes 2 0 0 0 0 1) false false 0, .dequeue]

theorem leave_inOrder_groupFramesSent :
    InOrder (outputs (orderStep { maxAid := 32, maxNumSta := 32 }) (ApPriv.start (0 : Fin 3))
        groupFramesSent) ∧
      (leftOn (bcAddr, .be) (outputs (orderStep { maxAid := 32, maxNumSta := 32 })
        (ApPriv.start (0 : Fin 3)) groupFramesSent)).map (·.pkt) = [1, 2, 3] :=
  ⟨leave_inOrder _ 0 (by decide +kernel), by decide +kernel⟩

/-- The second station falls asleep before the two released frames are sent. -/
def groupFramesBuffered : List ApEvent :=
  twoStations ++
    [.dataFrame (MacAddr.ofBytes 2 0 0 0 0 1) true false 0, .xmit bcAddr 0 1, .xmit bcAddr 0 2,
      .chkBmcSleepq, .xmit bcAddr 0 3, .dataFrame (MacAddr.ofBytes 2 0 0 0 0 2) true false 0,
      .dataFrame (MacAddr.ofBytes 2 0 0 0 0 1) false false 0,
      .dataFrame (MacAddr.ofBytes 2 0 0 0 0 2) false false 0, .dequeue, .dequeue, .dequeue]

/-- The third frame overtakes the first two. -/
theorem groupFrames_overtake :
    ¬ InOrder (outputs (orderStep { maxAid := 32, maxNumSta := 32 })
      (ApPriv.start (0 : Fin 3)) groupFramesBuffered) := by
  intro h
  have hleft : (leftOn (bcAddr, .be) (outputs (orderStep { maxAid := 32, maxNumSta := 32 })
      (ApPriv.start (0 : Fin 3)) groupFramesBuffered)).map (·.pkt) = [3, 1, 2] := by
    decide +kernel
  have hoffered : (offeredOn (bcAddr, .be) (outputs (orderStep { maxAid := 32, maxNumSta := 32 })
      (ApPriv.start (0 : Fin 3)) groupFramesBuffered)).map (·.pkt) = [1, 2, 3] := by
    decide +kernel
  have hsub := (h (bcAddr, .be)).map (·.pkt)
  rw [hleft, hoffered] at hsub
  exact absurd hsub (by decide)

end Rtl8723du
