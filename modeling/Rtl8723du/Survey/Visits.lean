import Rtl8723du.Survey.OffChannel

/-!
# Which channels a scan visits

Unless it is aborted, a scan visits the channels of its list one after the other up to the first
without a number, however often it goes back to the operating channel in between.  A channel that
was listened to passively may be visited once more, directly afterwards, with the SSIDs of the
scan (`scan_visits`).
-/

namespace Rtl8723du.Survey

open Lib Lib.Machine

/-- A call of `site_survey`. -/
structure Visit where
  ch : ℕ
  type : ScanType
  forceSsidScan : Bool
deriving DecidableEq, Repr

/-- The visits since the last scan was done. -/
def seen (acc : List Visit) : ScanOp → List Visit
  | .survey ch type force => acc ++ [⟨ch, type, force⟩]
  | .surveydone _ => []
  | _ => acc

/-- The type of the first visit of a channel. -/
def ScanChannel.scanType (c : ScanChannel) : ScanType := if c.passiveScan then .passive else .active

/-- A channel, and a second visit if `forced`. -/
def ScanChannel.visits (c : ScanChannel) (forced : Bool) : List Visit :=
  ⟨c.hwValue, c.scanType, false⟩ :: if forced then [⟨c.hwValue, c.scanType, true⟩] else []

/-- The visits of a scan that has come as far as there are entries in `forced`. -/
def visits (ch : List ScanChannel) (forced : List Bool) : List Visit :=
  (ch.zip forced).flatMap fun c => c.1.visits c.2

/-- The scan is over its own list of channels. -/
def Plain (w : WifidirectInfo) : Prop :=
  w.scanOpChOnly = false ∧ w.findPhaseStateExchangeCnt = p2pFindphaseExNone

/-- The list and the SSIDs of the scan, and what the scan must not meet. -/
structure SameList (s s' : ScanCtl) : Prop where
  ch : s'.ss.ch = s.ss.ch
  ssid : s'.ss.ssid = s.ss.ssid
  wdinfo : s'.wdinfo = s.wdinfo
  scanAbort : s'.scanAbort = s.scanAbort

variable {s : ScanCtl} {env : ScanEnv}

/-- What `sitesurvey_pick_ch_behavior` can do. -/
inductive Picked (s : ScanCtl) : ScanCtl × ScanState × Pick → Prop
  /-- The next channel. -/
  | onward {s' c flags} (hs : SameList s s') (hc : s.ss.ch[s.ss.channelIdx]? = some c)
      (hhw : c.hwValue ≠ 0) (hidx : s'.ss.channelIdx = s.ss.channelIdx)
      (hforce : s'.ss.forceSsidScan = false) :
      Picked s (s', .process, ⟨c.hwValue, c.scanType, flags⟩)
  /-- The channel before, with SSIDs. -/
  | back {s' c flags} (hs : SameList s s') (hc : s.ss.ch[s.ss.channelIdx - 1]? = some c)
      (hpassive : c.passiveScan = true) (hssid : s.ss.ssid ≠ []) (hpos : s.ss.channelIdx ≠ 0)
      (hidx : s'.ss.channelIdx = s.ss.channelIdx - 1) (hold : s.ss.forceSsidScan = false)
      (hforce : s'.ss.forceSsidScan = true) :
      Picked s (s', .process, ⟨c.hwValue, c.scanType, flags⟩)
  /-- Back to the operating channel. -/
  | backop {s' pick} (hs : SameList s s') (hidx : s'.ss.channelIdx = s.ss.channelIdx)
      (hforce : s'.ss.forceSsidScan = s.ss.forceSsidScan) : Picked s (s', .backingOp, pick)
  /-- No channel is left. -/
  | done {s' pick} (hs : SameList s s')
      (hend : ∀ c, s.ss.ch[s.ss.channelIdx]? = some c → c.hwValue = 0) :
      Picked s (s', .complete, pick)

/-- It is time to go back to the operating channel. -/
def BackopDue (s : ScanCtl) (flags : UInt8) : Prop := flags ≠ 0 ∧ s.ss.scanCntMax ≤ s.ss.scanCnt

lemma hiddenBehind_cases (h : hiddenBehind s = true) :
    s.ss.channelIdx ≠ 0 ∧ s.ss.forceSsidScan = false ∧ s.ss.ssid ≠ [] ∧
      ∃ c, s.ss.ch[s.ss.channelIdx - 1]? = some c ∧ c.passiveScan = true := by
  simp only [hiddenBehind, Bool.and_eq_true, bne_iff_ne, Bool.not_eq_true', Option.any_eq_true,
    ne_eq, List.length_eq_zero_iff] at h
  exact ⟨h.1.1.1, h.1.1.2, h.1.2, h.2⟩

/-- What becomes of the channel index before the channel is looked up. -/
lemma forceUnlessBackop_cases (s : ScanCtl) (flags : UInt8) :
    (BackopDue s flags ∧ forceUnlessBackop s flags = s) ∨
    (¬ BackopDue s flags ∧ (forceUnlessBackop s flags) =
      { s with ss := { s.ss with forceSsidScan := false } }) ∨
    (¬ BackopDue s flags ∧ hiddenBehind s = true ∧ hiddenHeard s = true ∧
      forceUnlessBackop s flags = { s with
        ss := { s.ss with channelIdx := s.ss.channelIdx - 1, forceSsidScan := true } }) := by
  rw [forceUnlessBackop, BackopDue]
  by_cases hdue : flags ≠ 0 ∧ s.ss.scanCntMax ≤ s.ss.scanCnt
  · rw [if_pos hdue]
    exact Or.inl ⟨hdue, rfl⟩
  · rw [if_neg hdue, forceBack]
    by_cases hhidden : hiddenBehind s = true
    · rw [if_pos hhidden]
      by_cases hheard : hiddenHeard s = true
      · rw [if_pos hheard]
        exact Or.inr (Or.inr ⟨hdue, hhidden, hheard, rfl⟩)
      · rw [if_neg hheard]
        have hforce := (hiddenBehind_cases hhidden).2.1
        refine Or.inr (Or.inl ⟨hdue, ?_⟩)
        rw [← hforce]
    · rw [if_neg hhidden]
      exact Or.inr (Or.inl ⟨hdue, rfl⟩)

lemma pick_cases (hplain : Plain s.wdinfo) (habort : s.scanAbort = false)
    (hback : ∀ c, s.ss.ch[s.ss.channelIdx - 1]? = some c → s.ss.channelIdx ≠ 0 → c.hwValue ≠ 0) :
    Picked s (sitesurveyPickChBehavior s env) := by
  have hsocial : s.wdinfo.findphaseExIsSocial = false := by
    rw [WifidirectInfo.findphaseExIsSocial, hplain.2]
    decide
  have hneeded (s' : ScanCtl) (h : s'.wdinfo = s.wdinfo) :
      s'.wdinfo.findphaseExIsNeeded = false := by
    rw [h, WifidirectInfo.findphaseExIsNeeded, hplain.2]
    simp
  set flags := rtwScanBackopDecision s.ss env with hflags
  have hpick : pickCh (scanAbortHdl s) env =
      (forceUnlessBackop s flags, pickScanCh (forceUnlessBackop s flags) flags) := by
    rw [scanAbortHdl, if_neg (by simp [habort]), pickCh, if_neg (by simp [hplain.1]),
      if_neg (by simp [hsocial])]
  rw [sitesurveyPickChBehavior, hpick]
  dsimp only
  rcases forceUnlessBackop_cases s flags with ⟨hdue, heq⟩ | ⟨hdue, heq⟩ | ⟨hdue, hhidden, -, heq⟩
  · -- no survey: back to the operating channel, or the end
    rw [heq, pickScanCh]
    cases hc : s.ss.ch[s.ss.channelIdx]? with
    | none =>
        rw [if_neg (by simp), hneeded _ rfl]
        exact .done ⟨rfl, rfl, rfl, rfl⟩ (by simp [hc])
    | some c =>
        by_cases hhw : c.hwValue = 0
        · rw [if_neg (by simp [hhw]), hneeded _ rfl]
          exact .done ⟨rfl, rfl, rfl, rfl⟩ (by simp [hc, hhw])
        · rw [if_pos hhw, if_pos hdue.1, if_neg (Nat.not_lt.2 hdue.2)]
          exact .backop ⟨rfl, rfl, rfl, rfl⟩ rfl rfl
  · rw [heq, pickScanCh]
    cases hc : s.ss.ch[s.ss.channelIdx]? with
    | none =>
        rw [if_neg (by simp), hneeded _ rfl]
        exact .done ⟨rfl, rfl, rfl, rfl⟩ (by simp [hc])
    | some c =>
        by_cases hhw : c.hwValue = 0
        · rw [if_neg (by simp [hhw]), hneeded _ rfl]
          exact .done ⟨rfl, rfl, rfl, rfl⟩ (by simp [hc, hhw])
        · rw [if_pos hhw]
          split_ifs with hflags hcnt
          · exact .onward ⟨rfl, rfl, rfl, rfl⟩ hc hhw rfl rfl
          · exact absurd ⟨hflags, Nat.not_lt.1 hcnt⟩ hdue
          · exact .onward ⟨rfl, rfl, rfl, rfl⟩ hc hhw rfl rfl
  · obtain ⟨hpos, hold, hssid, c, hc, hpassive⟩ := hiddenBehind_cases hhidden
    rw [heq, pickScanCh, hc]
    rw [if_pos (hback c hc hpos)]
    split_ifs with hflags hcnt
    · exact .back ⟨rfl, rfl, rfl, rfl⟩ hc hpassive hssid hpos rfl hold rfl
    · exact absurd ⟨hflags, Nat.not_lt.1 hcnt⟩ hdue
    · exact .back ⟨rfl, rfl, rfl, rfl⟩ hc hpassive hssid hpos rfl hold rfl

/-! ### How far a scan has come -/

/-- The visits `acc` of a scan that has been to the first channels, with a second visit where
`forced` says so.  `force` is set if the last visit was a second one. -/
structure Progress (ch : List ScanChannel) (ssid : List (List UInt8)) (force : Bool)
    (forced : List Bool) (acc : List Visit) : Prop where
  le : forced.length ≤ ch.length
  acc : acc = visits ch forced
  hwValue : ∀ c ∈ ch.take forced.length, c.hwValue ≠ 0
  second : ∀ c ∈ ch.zip forced, c.2 = true → c.1.passiveScan = true ∧ ssid ≠ []
  last : forced.getLast? = some true → force = true

variable {ch : List ScanChannel} {ssid : List (List UInt8)} {force b : Bool} {forced : List Bool}
  {acc : List Visit} {c : ScanChannel}

lemma zip_concat (hc : ch[forced.length]? = some c) :
    ch.zip (forced ++ [b]) = ch.zip forced ++ [(c, b)] := by
  induction forced generalizing ch with
  | nil =>
      cases ch with
      | nil => simp at hc
      | cons d ch => simpa using hc
  | cons x forced ih =>
      cases ch with
      | nil => simp at hc
      | cons d ch => simpa using ih (by simpa using hc)

lemma visits_concat (hc : ch[forced.length]? = some c) :
    visits ch (forced ++ [b]) = visits ch forced ++ c.visits b := by
  rw [visits, zip_concat hc, List.flatMap_append]
  simp [visits]

lemma progress_nil (ch : List ScanChannel) (ssid : List (List UInt8)) :
    Progress ch ssid false [] [] := ⟨Nat.zero_le _, by simp [visits], by simp, by simp, by simp⟩

/-- The next channel has been visited. -/
lemma Progress.onward (h : Progress ch ssid force forced acc) (hc : ch[forced.length]? = some c)
    (hhw : c.hwValue ≠ 0) :
    Progress ch ssid false (forced ++ [false]) (acc ++ [⟨c.hwValue, c.scanType, false⟩]) where
  le := by
    have hlt := (List.getElem?_eq_some_iff.1 hc).1
    rw [List.length_append]
    exact hlt
  acc := by rw [h.acc, visits_concat hc]; rfl
  hwValue := by
    rw [List.length_append, List.length_singleton, List.take_add_one, hc]
    simp only [Option.toList_some, List.mem_append, List.mem_singleton]
    rintro d (hd | rfl)
    · exact h.hwValue d hd
    · exact hhw
  second := by
    rw [zip_concat hc]
    simp only [List.mem_append, List.mem_singleton]
    rintro d (hd | rfl) hforced
    · exact h.second d hd hforced
    · simp at hforced
  last := by simp

/-- The channel before has been visited once more. -/
lemma Progress.back (h : Progress ch ssid false forced acc) (hpos : forced.length ≠ 0)
    (hc : ch[forced.length - 1]? = some c) (hpassive : c.passiveScan = true) (hssid : ssid ≠ []) :
    ∃ forced', forced'.length = forced.length ∧
      Progress ch ssid true forced' (acc ++ [⟨c.hwValue, c.scanType, true⟩]) := by
  obtain ⟨init, b, rfl⟩ : ∃ init b, forced = init ++ [b] :=
    ⟨forced.dropLast, forced.getLast (by simpa using hpos), (List.dropLast_append_getLast _).symm⟩
  have hb : b = false := by
    by_contra hne
    exact Bool.false_ne_true (h.last (by simp [Bool.eq_true_of_not_eq_false hne]))
  subst hb
  rw [List.length_append, List.length_singleton, Nat.add_sub_cancel] at hc
  refine ⟨init ++ [true], by simp, ?_, ?_, ?_, ?_, fun _ => rfl⟩
  · simpa using h.le
  · rw [h.acc, visits_concat hc, visits_concat hc, List.append_assoc]
    rfl
  · simpa using h.hwValue
  · have hforced := h.second
    rw [zip_concat hc] at hforced ⊢
    simp only [List.mem_append, List.mem_singleton] at hforced ⊢
    rintro d (hd | rfl) hset
    · exact hforced d (Or.inl hd) hset
    · exact ⟨hpassive, hssid⟩

/-- Where no channel follows, all channels up to the first without a number have been visited. -/
lemma Progress.length_eq (h : Progress ch ssid force forced acc)
    (hend : ∀ c, ch[forced.length]? = some c → c.hwValue = 0) :
    forced.length = (ch.takeWhile fun c => c.hwValue != 0).length := by
  have hfirst : (ch.takeWhile fun c => c.hwValue != 0) =
      ch.take forced.length ++ (ch.drop forced.length).takeWhile fun c => c.hwValue != 0 := by
    rw [← List.takeWhile_append_of_pos (by simpa using h.hwValue), List.take_append_drop]
  have hrest : ((ch.drop forced.length).takeWhile fun c => c.hwValue != 0) = [] := by
    cases hdrop : ch.drop forced.length with
    | nil => rfl
    | cons d ds =>
        have hd : ch[forced.length]? = some d := by
          rw [← List.head?_drop, hdrop, List.head?_cons]
        simp [hend d hd]
  rw [hfirst, hrest, List.append_nil, List.length_take, Nat.min_eq_left h.le]

/-! ### Runs -/

/-- How many channels have been visited at least once. -/
def position (s : ScanCtl) : ℕ :=
  s.ss.channelIdx + if s.ss.state = .process ∧ s.running = none then 1 else 0

/-- The scan has come as far as the position says. -/
def AtPosition (s : ScanCtl) (acc : List Visit) : Prop :=
  ∃ forced, forced.length = position s ∧
    Progress s.ss.ch s.ss.ssid s.ss.forceSsidScan forced acc

/-- What the visits are in each of the scan states. -/
def VisitsOf (s : ScanCtl) (acc : List Visit) : Prop :=
  match s.ss.state with
  | .disable => acc = []
  | .complete => ∃ force forced, Progress s.ss.ch s.ss.ssid force forced acc ∧
      forced.length = (s.ss.ch.takeWhile fun c => c.hwValue != 0).length
  | .toP2pListen | .p2pListen => False
  | _ => AtPosition s acc

/-- The invariant of a scan that nothing disturbs. -/
structure VisitInv (s : ScanCtl) (acc : List Visit) : Prop where
  plain : Plain s.wdinfo
  scanAbort : s.scanAbort = false
  visits : VisitsOf s acc

/-- The scan is not aborted, and the P2P code does not start one of its own. -/
def Undisturbed : ScanEvent → Prop
  | .abort flag => flag = false
  | .p2p wdinfo => Plain wdinfo
  | _ => True

/-- Operations that are no part of a survey. -/
lemma watched_seen_eq {ops : List ScanOp} (h : ∀ op ∈ ops, seen acc op = acc) :
    watched seen acc ops = acc := by
  have hneutral : Accepts seen (fun _ _ => True) acc ops ∧ watched seen acc ops = acc :=
    accepts_of_neutral fun op hop => ⟨trivial, h op hop⟩
  exact hneutral.2

lemma watched_seen_siteSurvey (acc : List Visit) (s : ScanCtl) (wifiSpec : Bool) (pick : Pick) :
    watched seen acc (siteSurvey s wifiSpec pick) =
      acc ++ [⟨pick.scanCh, pick.scanType, s.ss.forceSsidScan⟩] := by
  rw [siteSurvey, watched_cons, watched_cons]
  refine watched_seen_eq fun op hop => ?_
  obtain rfl | ⟨ssid, wps, rfl⟩ := mem_surveyProbes hop <;> rfl

/-- What the next step starts from. -/
def after (pass : Pass) : ScanCtl := if pass.2.2 then pass.1 else pass.1.leave

lemma position_eq (h : s.ss.state ≠ .process ∨ s.running ≠ none) :
    position s = s.ss.channelIdx := by
  rw [position, if_neg fun hidle => h.elim (absurd hidle.1) (absurd hidle.2), Nat.add_zero]

lemma hwValue_ne_zero_of_progress (h : Progress ch ssid force forced acc) {c : ScanChannel}
    (hc : ch[forced.length - 1]? = some c) (hpos : forced.length ≠ 0) : c.hwValue ≠ 0 := by
  refine h.hwValue c (List.mem_of_getElem? (i := forced.length - 1) ?_)
  rw [List.getElem?_take_of_lt (by omega), hc]

lemma visitInv_operateProcess (h : VisitInv s acc) (hstate : s.ss.state = .process)
    (hrunning : s.running ≠ none) :
    VisitInv (after (operateProcess s env)) (watched seen acc (operateProcess s env).2.1) := by
  have hvisits := h.visits
  simp only [VisitsOf, hstate] at hvisits
  obtain ⟨forced, hlen, hprog⟩ := hvisits
  rw [position_eq (Or.inr hrunning)] at hlen
  have hpicked : Picked s (sitesurveyPickChBehavior s env) := by
    refine pick_cases h.plain h.scanAbort fun c hc hpos => ?_
    rw [← hlen] at hc hpos
    exact hwValue_ne_zero_of_progress hprog hc hpos
  have hsame := sameScan_sitesurveyPickChBehavior s env
  rw [operateProcess]
  generalize sitesurveyPickChBehavior s env = picked at hpicked hsame ⊢
  cases hpicked with
  | onward hs hc hhw hidx hforce =>
      rename_i s' c flags
      have hstate' : s'.ss.state = .process := hsame.state.trans hstate
      rw [if_neg (by simp), watched_append, watched_seen_siteSurvey]
      refine ⟨hs.wdinfo ▸ h.plain, hs.scanAbort ▸ h.scanAbort, ?_⟩
      simp only [VisitsOf, after, Bool.false_eq_true, if_false, ScanCtl.leave, hstate']
      refine ⟨forced ++ [false], ?_, ?_⟩
      · rw [position, if_pos ⟨hstate', rfl⟩, List.length_append, hlen]
        exact congrArg (· + 1) hidx.symm
      · rw [hs.ch, hs.ssid, hforce]
        exact hprog.onward (by rw [hlen, hc]) hhw
  | back hs hc hpassive hssid hpos hidx hold hforce =>
      rename_i s' c flags
      have hstate' : s'.ss.state = .process := hsame.state.trans hstate
      rw [if_neg (by simp), watched_append, watched_seen_siteSurvey]
      refine ⟨hs.wdinfo ▸ h.plain, hs.scanAbort ▸ h.scanAbort, ?_⟩
      simp only [VisitsOf, after, Bool.false_eq_true, if_false, ScanCtl.leave, hstate']
      rw [hold] at hprog
      obtain ⟨forced', hlen', hprog'⟩ :=
        hprog.back (by rwa [hlen]) (by rw [hlen, hc]) hpassive hssid
      refine ⟨forced', ?_, ?_⟩
      · rw [position, if_pos ⟨hstate', rfl⟩, hlen', hlen, hidx]
        exact (Nat.sub_add_cancel (Nat.one_le_iff_ne_zero.2 hpos)).symm
      · rw [hs.ch, hs.ssid, hforce]
        exact hprog'
  | backop hs hidx hforce =>
      rename_i s' pick
      rw [if_pos (by simp)]
      refine ⟨hs.wdinfo ▸ h.plain, hs.scanAbort ▸ h.scanAbort, forced, ?_, ?_⟩
      · rw [hlen, ← hidx]
        have hne : (s'.setScanState .backingOp).ss.state ≠ .process :=
          show ScanState.backingOp ≠ .process by decide
        exact (position_eq (Or.inl hne)).symm
      · change Progress s'.ss.ch s'.ss.ssid s'.ss.forceSsidScan forced _
        rw [hs.ch, hs.ssid, hforce]
        exact hprog
  | done hs hend =>
      rename_i s' pick
      rw [if_pos (by simp)]
      refine ⟨hs.wdinfo ▸ h.plain, hs.scanAbort ▸ h.scanAbort, s.ss.forceSsidScan, forced, ?_, ?_⟩
      · change Progress s'.ss.ch s'.ss.ssid _ forced _
        rw [hs.ch, hs.ssid]
        exact hprog
      · change _ = (s'.ss.ch.takeWhile _).length
        rw [hs.ch]
        exact hprog.length_eq (by rwa [hlen])

/-- The scan is between its start and its end. -/
def Middle : ScanState → Bool
  | .disable | .complete | .toP2pListen | .p2pListen => false
  | _ => true

lemma visitsOf_iff (h : Middle s.ss.state = true) : VisitsOf s acc ↔ AtPosition s acc := by
  rw [VisitsOf]
  cases hstate : s.ss.state <;> rw [hstate] at h <;> first | rfl | exact absurd h (by decide)

/-- A step that leaves the list, the SSIDs and the position alone. -/
lemma VisitInv.keep {s' : ScanCtl} (h : VisitInv s acc) (hmid : Middle s.ss.state = true)
    (hmid' : Middle s'.ss.state = true) (hs : SameList s s')
    (hforce : s'.ss.forceSsidScan = s.ss.forceSsidScan) (hpos : position s' = position s) :
    VisitInv s' acc := by
  refine ⟨hs.wdinfo ▸ h.plain, hs.scanAbort ▸ h.scanAbort, (visitsOf_iff hmid').2 ?_⟩
  obtain ⟨forced, hlen, hprog⟩ := (visitsOf_iff hmid).1 h.visits
  exact ⟨forced, hlen.trans hpos.symm, by rw [hs.ch, hs.ssid, hforce]; exact hprog⟩

/-- Operations of which no survey is one. -/
def Quiet (ops : List ScanOp) : Prop := ∀ acc, watched seen acc ops = acc

lemma Quiet.append {ops ops' : List ScanOp} (h : Quiet ops) (h' : Quiet ops') :
    Quiet (ops ++ ops') := fun acc => by rw [watched_append, h, h']

lemma quiet_rtwPsAnnc (env : ScanEnv) (ps : Bool) : Quiet (rtwPsAnnc env ps).2 := by
  rw [rtwPsAnnc]
  split_ifs <;> exact fun _ => rfl

lemma quiet_ite {p : Prop} [Decidable p] {ops : List ScanOp} (h : Quiet ops) :
    Quiet (if p then ops else []) := by
  split_ifs
  · exact h
  · exact fun _ => rfl

lemma visitInv_operationByState (h : VisitInv s acc) (parm : SitesurveyParm)
    (hrunning : s.running ≠ none) (hwait : s.ss.state ≠ .psAnncWait) :
    VisitInv (after (operationByState s env parm))
      (watched seen acc (operationByState s env parm).2.1) := by
  have hpos := position_eq (Or.inr hrunning)
  rw [operationByState]
  have hmid {state : ScanState} (hs : s.ss.state = state) (h : Middle state = true) :
      Middle s.ss.state = true := hs ▸ h
  cases hstate : s.ss.state with
  | disable =>
      have hacc : acc = [] := by simpa only [VisitsOf, hstate] using h.visits
      rw [hacc]
      exact ⟨h.plain, h.scanAbort, [], rfl, progress_nil _ _⟩
  | start =>
      have hops : Quiet ((if s.ss.rxAmpdu then [.rxAmpduApply] else []) ++
          [.checkTxbuf, .macidSleepAllUsed] ++ (rtwPsAnnc env true).2) :=
        ((quiet_ite fun _ => rfl).append fun _ => rfl).append (quiet_rtwPsAnnc env true)
      change VisitInv (after (operateStart s env)) (watched seen acc (operateStart s env).2.1)
      rw [operateStart]
      by_cases hassoc : (rtwPsAnnc env true).1 = true
      · rw [if_pos hassoc, hops.append (fun _ => rfl) acc]
        exact h.keep (hmid hstate rfl) rfl ⟨rfl, rfl, rfl, rfl⟩ rfl
          ((position_eq (Or.inl (show ScanState.psAnncWait ≠ .process by decide))).trans hpos.symm)
      · rw [if_neg hassoc, hops acc]
        exact h.keep (hmid hstate rfl) rfl ⟨rfl, rfl, rfl, rfl⟩ rfl
          ((position_eq (Or.inl (show ScanState.enter ≠ .process by decide))).trans hpos.symm)
  | psAnncWait => exact absurd hstate hwait
  | enter =>
      have hrunning' : (after (operateEnter s env)).running ≠ none := hrunning
      exact h.keep (hmid hstate rfl) rfl ⟨rfl, rfl, rfl, rfl⟩ rfl
        ((position_eq (Or.inr hrunning')).trans hpos.symm)
  | process => exact visitInv_operateProcess h hstate hrunning
  | backingOp =>
      have hops : Quiet (operateBackingOp s env).2.1 :=
        (Quiet.append (fun _ => rfl) (quiet_ite (@Quiet.append [_, _] _ (fun _ => rfl)
          (quiet_rtwPsAnnc env false)))).append (quiet_ite fun _ => rfl)
      dsimp only
      rw [hops acc]
      exact h.keep (hmid hstate rfl) rfl ⟨rfl, rfl, rfl, rfl⟩ rfl
        ((position_eq (Or.inl (show ScanState.backOp ≠ .process by decide))).trans hpos.symm)
  | backOp =>
      change VisitInv (after (operateBackOp s env)) (watched seen acc (operateBackOp s env).2.1)
      rw [operateBackOp]
      split_ifs
      · exact h.keep (hmid hstate rfl) rfl ⟨rfl, rfl, rfl, rfl⟩ rfl
          ((position_eq (Or.inl (show ScanState.leavingOp ≠ .process by decide))).trans hpos.symm)
      · refine h.keep (hmid hstate rfl) (hmid hstate rfl) ⟨rfl, rfl, rfl, rfl⟩ rfl
          ((position_eq (Or.inl ?_)).trans hpos.symm)
        exact fun hprocess => absurd (hstate.symm.trans hprocess) (by decide)
  | leavingOp =>
      change VisitInv (after (operateLeavingOp s env))
        (watched seen acc (operateLeavingOp s env).2.1)
      have hops : Quiet ([.checkTxbuf, .macidSleepAllUsed] ++ (rtwPsAnnc env true).2) :=
        Quiet.append (fun _ => rfl) (quiet_rtwPsAnnc env true)
      rw [operateLeavingOp]
      split_ifs
      · rw [hops.append (fun _ => rfl) acc]
        exact h.keep (hmid hstate rfl) rfl ⟨rfl, rfl, rfl, rfl⟩ rfl
          ((position_eq (Or.inl (show ScanState.psAnncWait ≠ .process by decide))).trans hpos.symm)
      · rw [hops acc]
        exact h.keep (hmid hstate rfl) rfl ⟨rfl, rfl, rfl, rfl⟩ rfl
          ((position_eq (Or.inl (show ScanState.leaveOp ≠ .process by decide))).trans hpos.symm)
      · exact h.keep (hmid hstate rfl) rfl ⟨rfl, rfl, rfl, rfl⟩ rfl
          ((position_eq (Or.inl (show ScanState.leaveOp ≠ .process by decide))).trans hpos.symm)
  | leaveOp =>
      have hops : Quiet (operateLeaveOp s).2.1 := (quiet_ite fun _ => rfl).append fun _ => rfl
      dsimp only
      have hrunning' : (after (operateLeaveOp s)).running ≠ none := hrunning
      rw [hops acc]
      exact h.keep (hmid hstate rfl) rfl ⟨rfl, rfl, rfl, rfl⟩ rfl
        ((position_eq (Or.inr hrunning')).trans hpos.symm)
  | toP2pListen => exact absurd h.visits (by simp only [VisitsOf, hstate, not_false_eq_true])
  | p2pListen => exact absurd h.visits (by simp only [VisitsOf, hstate, not_false_eq_true])
  | complete =>
      refine ⟨⟨h.plain.1, rfl⟩, h.scanAbort, ?_⟩
      change watched seen acc (_ ++ (rtwPsAnnc env false).2 ++ _) = []
      rw [watched_append, watched_append]
      rfl

/-- A command takes the scan on from where it waits. -/
lemma visitInv_cmdEnter {r : Radio} (htuned : Tuned s r) (h : VisitInv s acc)
    (hrunning : s.running = none) (parm : SitesurveyParm) : VisitInv (cmdEnter s parm) acc := by
  have hpos : position (cmdEnter s parm) = (cmdEnter s parm).ss.channelIdx :=
    position_eq (Or.inr (by simp [cmdEnter]))
  by_cases hprocess : s.ss.state = .process
  · have hnext : s.ss.nextState = s.ss.state := by
      rcases htuned.next with hnext | hnext
      · exact hnext.1
      · exact absurd (hprocess.symm.trans hnext.1) (by decide)
    have heq : cmdEnter s parm = { s with
        ss := { s.ss with channelIdx := s.ss.channelIdx + 1 }, running := some parm } := by
      rw [cmdEnter, increaseIdx, if_pos hprocess, updateScanState,
        if_neg (fun hne => hne hnext.symm)]
    have hmid : Middle s.ss.state = true := by rw [hprocess]; rfl
    have hold : position s = s.ss.channelIdx + 1 := by rw [position, if_pos ⟨hprocess, hrunning⟩]
    rw [heq] at hpos ⊢
    exact h.keep hmid hmid ⟨rfl, rfl, rfl, rfl⟩ rfl (hpos.trans hold.symm)
  · have hold : position s = s.ss.channelIdx := position_eq (Or.inl hprocess)
    rcases htuned.next with ⟨hnext, -⟩ | ⟨hwait, hnext⟩
    · have heq : cmdEnter s parm = { s with running := some parm } := by
        rw [cmdEnter, increaseIdx, if_neg hprocess, updateScanState,
          if_neg (fun hne => hne hnext.symm)]
      rw [heq] at hpos ⊢
      by_cases hmid : Middle s.ss.state = true
      · exact h.keep hmid hmid ⟨rfl, rfl, rfl, rfl⟩ rfl (hpos.trans hold.symm)
      · refine ⟨h.plain, h.scanAbort, ?_⟩
        have hvisits := h.visits
        unfold VisitsOf at hvisits ⊢
        dsimp only
        cases hstate : s.ss.state <;> rw [hstate] at hmid hvisits <;>
          first | exact hvisits | exact absurd rfl hmid
    · have heq : cmdEnter s parm =
          { s.setScanState s.ss.nextState with running := some parm } := by
        rw [cmdEnter, increaseIdx, if_neg hprocess, updateScanState, if_pos]
        rw [hwait]
        rcases hnext with hnext | hnext <;> rw [hnext] <;> decide
      have hmid : Middle s.ss.state = true := by rw [hwait]; rfl
      have hmid' : Middle (s.setScanState s.ss.nextState).ss.state = true := by
        change Middle s.ss.nextState = true
        rcases hnext with hnext | hnext <;> rw [hnext] <;> rfl
      rw [heq] at hpos ⊢
      exact h.keep hmid hmid' ⟨rfl, rfl, rfl, rfl⟩ rfl (hpos.trans hold.symm)

lemma visitInv_scanStep {r : Radio} (hinv : ScanInv s r) (h : VisitInv s acc) {e : ScanEvent}
    (he : Undisturbed e) :
    VisitInv (scanStep s e).1 (watched seen acc (scanStep s e).2) := by
  cases e with
  | cmd parm =>
      rw [scanStep]
      split_ifs with hrunning
      · exact h
      · exact visitInv_cmdEnter hinv.tuned h (by simpa using hrunning) parm
  | operate env =>
      rw [scanStep]
      cases hrunning : s.running with
      | none => exact h
      | some parm =>
          exact visitInv_operationByState h parm (by simp [hrunning])
            (hinv.running (by rw [hrunning]; rfl))
  | hidden i => exact ⟨h.plain, h.scanAbort, h.visits⟩
  | abort flag => exact ⟨h.plain, he, h.visits⟩
  | p2p wdinfo => exact ⟨he, h.scanAbort, h.visits⟩

lemma visitInv_run (h : Idle s) (hplain : Plain s.wdinfo) (habort : s.scanAbort = false)
    {es : List ScanEvent} (hes : ∀ e ∈ es, Undisturbed e) :
    VisitInv (final scanStep s es) (watched seen [] (outputs scanStep s es)) := by
  have hstart : VisitInv s [] := by
    refine ⟨hplain, habort, ?_⟩
    rw [VisitsOf, h.state]
  have halong : Along scanStep (fun s e => Undisturbed e ∧ ∃ r, ScanInv s r) s es :=
    along_iff.2 fun pre e post hsplit => ⟨hes e (by simp [hsplit]), _, (scanInv_run h pre).2⟩
  have hrun : Accepts seen (fun _ _ => True) [] (outputs scanStep s es) ∧
      VisitInv (final scanStep s es) (watched seen [] (outputs scanStep s es)) := by
    refine monitored_induction (I := VisitInv) ?_ hstart halong
    rintro s acc e ⟨he, r, hinv⟩ h
    exact ⟨accepts_of_forall (fun _ _ => trivial) _ _, visitInv_scanStep hinv h he⟩
  exact hrun.2

/-- A scan that nothing disturbs visits the channels of its list in order, each once, and some of
the passive ones once more directly afterwards with the SSIDs.  When it is complete it has been to
all up to the first without a number. -/
theorem scan_visits (h : Idle s) (hplain : Plain s.wdinfo) (habort : s.scanAbort = false)
    {es : List ScanEvent} (hes : ∀ e ∈ es, Undisturbed e) :
    let t := final scanStep s es
    let acc := watched seen [] (outputs scanStep s es)
    ∃ forced, acc = visits t.ss.ch forced ∧
      (∀ c ∈ t.ss.ch.zip forced, c.2 = true → c.1.passiveScan = true ∧ t.ss.ssid ≠ []) ∧
      (t.ss.state = .complete →
        forced.length = (t.ss.ch.takeWhile fun c => c.hwValue != 0).length) := by
  intro t acc
  have hinv : VisitInv t acc := visitInv_run h hplain habort hes
  have hvisits := hinv.visits
  by_cases hmid : Middle t.ss.state = true
  · obtain ⟨forced, -, hprog⟩ := (visitsOf_iff hmid).1 hvisits
    refine ⟨forced, hprog.acc, hprog.second, fun hcomplete => ?_⟩
    rw [hcomplete] at hmid
    exact absurd hmid (by decide)
  · unfold VisitsOf at hvisits
    cases hstate : t.ss.state <;> rw [hstate] at hmid hvisits
    case disable => exact ⟨[], by simpa [visits] using hvisits, by simp, nofun⟩
    case complete =>
      obtain ⟨force, forced, hprog, hlen⟩ := hvisits
      exact ⟨forced, hprog.acc, hprog.second, fun _ => hlen⟩
    all_goals first | exact absurd rfl hmid | exact hvisits.elim

theorem scan_visits_idleScan :
    let s := final scanStep (scanInit idleChSet) idleScan
    let acc := watched seen [] (outputs scanStep (scanInit idleChSet) idleScan)
    acc = [⟨1, .active, false⟩, ⟨12, .passive, false⟩, ⟨12, .passive, true⟩,
        ⟨13, .passive, false⟩] ∧
      ∃ forced : List Bool, forced.length = 3 ∧ acc = visits s.ss.ch forced := by
  intro s acc
  have hcomplete : s.ss.state = .complete := by decide +kernel
  have hlen : (s.ss.ch.takeWhile fun c => c.hwValue != 0).length = 3 := by decide +kernel
  have hes : ∀ e ∈ idleScan, Undisturbed e := by simp [idleScan, Undisturbed]
  obtain ⟨forced, hacc, -, hdone⟩ := scan_visits (idle_scanInit idleChSet) ⟨rfl, rfl⟩ rfl hes
  exact ⟨by decide +kernel, forced, (hdone hcomplete).trans hlen, hacc⟩

end Rtl8723du.Survey
