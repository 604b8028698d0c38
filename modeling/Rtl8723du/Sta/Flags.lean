import Rtl8723du.Sta.TableRun

/-!
# The flags of the stations over the events

A flag of an entry is written when its station joins or leaves, and by nothing else but the
clearing of a new entry.  So what the events of the table make of the flags is said once for
any flag (`FlagSafe`), and so is what a request and a departure do before the counters are
touched (`SameCounted`).
-/

namespace Rtl8723du

open Lib.Links

variable {cfg : ApConfig} {env : AuthEnv} {f : RxFrame} {i j : Fin numSta} {hwaddr : MacAddr}

/-- A flag that says what a station is counted for.  A new entry does not have it. -/
structure Flag where
  get : (CapProp → Bool) × Bool → Bool
  fresh : get (fun _ => false, false) = false

/-- The flag of a property. -/
def CapProp.flag (p : CapProp) : Flag := ⟨fun counted => counted.1 p, rfl⟩

/-- `ht_40mhz_intolerant`. -/
def Flag.intolerant : Flag := ⟨fun counted => counted.2, rfl⟩

/-- An entry has the flag. -/
def Sta.has (sta : Sta) (F : Flag) : Bool := F.get sta.counted

namespace StaPriv

variable {F : Flag} {s s' s'' : StaPriv}

/-- The flags stay, and only entries without it become free. -/
structure FlagSafe (F : Flag) (s s' : StaPriv) : Prop where
  has : ∀ i, (s'.sta i).has F = (s.sta i).has F
  free : ∀ i ∈ s'.freeStaQueue, i ∈ s.freeStaQueue ∨ (s.sta i).has F = false

lemma FlagSafe.refl (F : Flag) (s : StaPriv) : FlagSafe F s s :=
  ⟨fun _ => rfl, fun _ hi => Or.inl hi⟩

lemma FlagSafe.trans (h : FlagSafe F s s') (h' : FlagSafe F s' s'') : FlagSafe F s s'' where
  has := fun i => (h'.has i).trans (h.has i)
  free := fun i hi => by
    rcases h'.free i hi with hold | hno
    · exact h.free i hold
    · exact Or.inr ((h.has i).symm.trans hno)

/-- One entry is written, and its flags are not. -/
lemma Writes.flagSafe {g : Sta → Sta} (h : Writes s s' i g)
    (hg : (g (s.sta i)).counted = (s.sta i).counted) (hfree : s'.freeStaQueue = s.freeStaQueue) :
    FlagSafe F s s' :=
  ⟨fun j => congrArg F.get (h.same Sta.counted hg j), fun _ hj => Or.inl (hfree ▸ hj)⟩

lemma Freed.flagSafe (h : Freed s s' i) (hi : (s.sta i).has F = false) : FlagSafe F s s' where
  has := fun j => congrArg F.get (h.counted j)
  free := fun j hj => by
    rw [h.freeStaQueue, List.mem_append, List.mem_singleton] at hj
    refine hj.imp_right fun hji => ?_
    rw [hji]
    exact hi

lemma flagSafe_freeEach {l : List (Fin numSta)} (hl : ∀ i ∈ l, (s.sta i).has F = false) :
    FlagSafe F s (s.freeEach cfg l) := by
  induction l generalizing s with
  | nil => exact FlagSafe.refl F s
  | cons i l ih =>
      have hfirst := (freed_freeStainfo s cfg i).flagSafe (hl i List.mem_cons_self)
      exact hfirst.trans (ih fun j hj =>
        (hfirst.has j).trans (hl j (List.mem_cons_of_mem i hj)))

/-- A new entry did not have the flag, and does not have it. -/
lemma flagSafe_allocStainfo (hfree : ∀ i ∈ s.freeStaQueue, (s.sta i).has F = false) :
    FlagSafe F s (s.allocStainfo hwaddr).1 := by
  cases hq : s.freeStaQueue with
  | nil =>
      rw [allocStainfo_nil hq]
      exact FlagSafe.refl F s
  | cons i rest =>
      rw [allocStainfo_cons hq]
      have hi : (s.sta i).has F = false := hfree i (by rw [hq]; exact List.mem_cons_self)
      refine ⟨(writes_alloc s i rest hwaddr).same (fun sta => sta.has F) (F.fresh.trans hi.symm),
        fun j hj => Or.inl ?_⟩
      rw [hq]
      exact List.mem_cons_of_mem i hj

/-! ### Authentication -/

lemma flagSafe_authListed (F : Flag) (s : StaPriv) (i : Fin numSta) :
    FlagSafe F s (s.authListed i) := by
  rw [authListed]
  split
  · exact FlagSafe.refl F s
  · exact (writes_authLink s i).flagSafe rfl (sameButAuth_authLink s i).freeStaQueue

/-- The exchange with a station that is not counted, or whose frame passes. -/
lemma flagSafe_onAuthStation
    (hok : authReported cfg (authAlgorithm env f) = true ∨ AuthInSequence cfg env f (s.sta i) ∨
      (s.sta i).has F = false) : FlagSafe F s (s.onAuthStation cfg env f i).1 := by
  have hlisted := flagSafe_authListed F s i
  rcases onAuthStation_cases s cfg env f i with
    ⟨hrep, hseq, hfreed⟩ | ⟨-, g, -, hcounted, hwritten⟩
  · rw [hfreed]
    have hno := (hok.resolve_left hrep).resolve_left hseq
    exact hlisted.trans ((freed_freeStainfo _ cfg i).flagSafe ((hlisted.has i).trans hno))
  · rw [hwritten]
    exact hlisted.trans ((writes_modify (s.authListed i) i g).flagSafe hcounted rfl)

lemma flagSafe_onAuth (hfree : ∀ i ∈ s.freeStaQueue, (s.sta i).has F = false)
    (hok : ∀ i, s.getStainfo f.sa = some i →
      s.AuthPasses cfg env f (s.sta i) ∨ (s.sta i).has F = false) :
    FlagSafe F s (s.onAuth cfg env f).1 := by
  rcases onAuth_cases s cfg env f with hsame | ⟨s', i, hst, hgo, -, hres⟩
  · rw [hsame]
    exact FlagSafe.refl F s
  · rw [hres]
    rcases authStation_cases hst with ⟨-, s₁, halloc, rfl⟩ | ⟨hfound, rfl⟩
    · have hnew := (flagSafe_allocStainfo hfree : FlagSafe F s (s.allocStainfo f.sa).1)
      rw [halloc] at hnew
      refine (hnew.trans ((writes_modify s₁ i (·.startAuth)).flagSafe rfl rfl)).trans
        (flagSafe_onAuthStation (Or.inr (Or.inr ?_)))
      rw [modify_sta_self, (allocStainfo_some halloc).2.1]
      exact F.fresh
    · have hcases := hok i hfound
      rw [AuthPasses, or_assoc, or_assoc, or_iff_right hgo] at hcases
      split
      · exact flagSafe_onAuthStation hcases
      · have hw := writes_asocUnlink s i
        refine (hw.flagSafe rfl (sameButAsoc_asocUnlink s i).freeStaQueue).trans
          (flagSafe_onAuthStation ?_)
        rw [authInSequence_congr (hw.same Sta.authSeq rfl i) (hw.same Sta.chgTxt rfl i),
          hw.same (fun sta => sta.has F) rfl i]
        exact hcases

/-! ### The events that concern the table alone -/

/-- No entry is freed at the event that has the flag. -/
def FreesNone (F : Flag) (cfg : ApConfig) (s : StaPriv) : StaEvent → Prop
  | .free hwaddr => ∀ i ∈ s.getStainfo hwaddr, (s.sta i).has F = false
  | .freeAll => s.asocStaCount = 1 ∨ ∀ i ∈ s.freeStaList, (s.sta i).has F = false
  | .authExpired i => i ∈ s.authList → (s.sta i).has F = false
  | .auth env f =>
      ∀ i ∈ s.getStainfo f.sa, s.AuthPasses cfg env f (s.sta i) ∨ (s.sta i).has F = false
  | _ => True

instance decidableFreesNone (F : Flag) (cfg : ApConfig) (s : StaPriv) :
    (e : StaEvent) → Decidable (FreesNone F cfg s e)
  | .free hwaddr => inferInstanceAs (Decidable
      (∀ i ∈ s.getStainfo hwaddr, (s.sta i).has F = false))
  | .freeAll => inferInstanceAs (Decidable
      (s.asocStaCount = 1 ∨ ∀ i ∈ s.freeStaList, (s.sta i).has F = false))
  | .authExpired i => inferInstanceAs (Decidable (i ∈ s.authList → (s.sta i).has F = false))
  | .auth env f => inferInstanceAs (Decidable
      (∀ i ∈ s.getStainfo f.sa, s.AuthPasses cfg env f (s.sta i) ∨ (s.sta i).has F = false))
  | .alloc _ | .assocReq _ | .leave _ | .keyInstalled _ | .tim _ _ => .isTrue trivial

lemma flagSafe_step {e : StaEvent} (hfree : ∀ i ∈ s.freeStaQueue, (s.sta i).has F = false)
    (hok : FreesNone F cfg s e) : FlagSafe F s (s.step cfg e) := by
  cases e with
  | assocReq req => exact FlagSafe.refl F s
  | leave hwaddr => exact FlagSafe.refl F s
  | alloc hwaddr => exact flagSafe_allocStainfo hfree
  | free hwaddr =>
      show FlagSafe F s (s.stadelEvent cfg hwaddr)
      rw [stadelEvent]
      cases hfound : s.getStainfo hwaddr with
      | none => exact FlagSafe.refl F s
      | some i => exact (freed_freeStainfo s cfg i).flagSafe (hok i hfound)
  | freeAll =>
      show FlagSafe F s (s.freeAllStainfo cfg)
      rw [freeAllStainfo_eq]
      split
      · exact FlagSafe.refl F s
      · rename_i hcount
        exact flagSafe_freeEach (hok.resolve_left hcount)
  | authExpired i =>
      show FlagSafe F s (s.authExpire cfg i)
      rw [authExpire]
      split
      · rename_i hin
        exact (freed_freeStainfo s cfg i).flagSafe (hok hin)
      · exact FlagSafe.refl F s
  | auth env f => exact flagSafe_onAuth hfree hok
  | keyInstalled hwaddr =>
      show FlagSafe F s (s.keyInstalled hwaddr)
      rw [keyInstalled]
      cases s.getStainfo hwaddr with
      | none => exact FlagSafe.refl F s
      | some i => exact (writes_modify s i (·.setKeyInstalled)).flagSafe rfl rfl
  | tim aid on => exact ⟨fun _ => rfl, fun _ hi => Or.inl hi⟩

end StaPriv

/-! ### A request or a departure, before the counters -/

/-- What a station is able to, as its request says it. -/
def Sta.abilities (sta : Sta) : StaFlags × BitVec 16 × BitVec 16 :=
  (sta.flags, sta.htCapInfo, sta.capability)

namespace ApState

variable {s s' s'' : ApState} {req : AssocReq}

/-- The entry of a station with the elements of its request. -/
def parsed (cfg : ApConfig) (s : ApState) (req : AssocReq) (i : Fin numSta) : Sta :=
  (assocParse cfg.bss req (assocStart (s.stapriv.sta i))).1

/-- The request of the station in the entry is granted, and the station let in. -/
def Grants (cfg : ApConfig) (s : ApState) (req : AssocReq) (i : Fin numSta) : Prop :=
  s.stapriv.getStainfo req.sa = some i ∧
    (assocParse cfg.bss req (assocStart (s.stapriv.sta i))).2 = true ∧
    (parsed cfg s req i).mfpKeyed = false

instance (cfg : ApConfig) (s : ApState) (req : AssocReq) (i : Fin numSta) :
    Decidable (Grants cfg s req i) := by
  rw [Grants]
  infer_instance

/-- The free queue, the flags and the counters stay. -/
structure SameCounted (s s' : ApState) : Prop where
  free : s'.stapriv.freeStaQueue = s.stapriv.freeStaQueue
  counted : ∀ j, (s'.stapriv.sta j).counted = (s.stapriv.sta j).counted
  mlme : s'.mlme = s.mlme

lemma SameCounted.refl (s : ApState) : SameCounted s s := ⟨rfl, fun _ => rfl, rfl⟩

lemma SameCounted.trans (h : SameCounted s s') (h' : SameCounted s' s'') : SameCounted s s'' :=
  ⟨h'.free.trans h.free, fun j => (h'.counted j).trans (h.counted j), h'.mlme.trans h.mlme⟩

lemma sameCounted_of_writes {t t' : StaPriv} {g : Sta → Sta} (h : StaPriv.Writes t t' i g)
    (hg : (g (t.sta i)).counted = (t.sta i).counted) (hfree : t'.freeStaQueue = t.freeStaQueue)
    (m : MlmePriv) : SameCounted ⟨t, m⟩ ⟨t', m⟩ :=
  ⟨hfree, h.same Sta.counted hg, rfl⟩

lemma sameCounted_modifySta {g : Sta → Sta} (hg : (g (s.stapriv.sta i)).counted =
    (s.stapriv.sta i).counted) : SameCounted s (s.modifySta i g) :=
  sameCounted_of_writes (StaPriv.writes_modify s.stapriv i g) hg rfl s.mlme

/-- The elements of a request are no reason to count. -/
lemma assocParse_counted (bss : BssConfig) (req : AssocReq) (sta : Sta) :
    (assocParse bss req sta).1.counted = sta.counted := by
  rw [assocParse]
  split
  · rfl
  · simp only
    split
    · rfl
    · rw [rtwApParseStaSupportedRates]
      cases hrates : req.rateSet with
      | nil => rfl
      | cons rate rates =>
          simp only [reduceCtorEq, if_false]
          split
          · rfl
          · rw [rtwApParseStaHtIe]
            split <;> rfl

/-- An AID is given, and what a station is let in for stays. -/
lemma sameCounted_assocAid (cfg : ApConfig) (t : StaPriv) (m : MlmePriv) (i : Fin numSta) :
    SameCounted ⟨t, m⟩ ⟨(assocAid cfg t i).1, m⟩ ∧
      ∀ j, ((assocAid cfg t i).1.sta j).mfpKeyed = (t.sta j).mfpKeyed ∧
        ((assocAid cfg t i).1.sta j).abilities = (t.sta j).abilities := by
  rw [assocAid]
  split
  · exact ⟨SameCounted.refl _, fun _ => ⟨rfl, rfl⟩⟩
  · have hw := StaPriv.writes_aidAlloc t cfg i
    exact ⟨sameCounted_of_writes hw rfl (StaPriv.sameButAid_aidAlloc t cfg i).freeStaQueue m,
      fun j => ⟨hw.same Sta.mfpKeyed rfl j, hw.same Sta.abilities rfl j⟩⟩

/-- The lists before a station is counted. -/
lemma sameCounted_listed (t : StaPriv) (m : MlmePriv) (i : Fin numSta) :
    SameCounted ⟨t, m⟩ ⟨(t.authUnlink i).asocLink i, m⟩ :=
  (sameCounted_of_writes (StaPriv.writes_authUnlink t i) rfl
    (StaPriv.sameButAuth_authUnlink t i).freeStaQueue m).trans
  (sameCounted_of_writes (StaPriv.writes_asocLink (t.authUnlink i) i) rfl
    (StaPriv.sameButAsoc_asocLink (t.authUnlink i) i).freeStaQueue m)

lemma abilities_listed (t : StaPriv) (i j : Fin numSta) :
    (((t.authUnlink i).asocLink i).sta j).abilities = (t.sta j).abilities :=
  ((StaPriv.writes_asocLink (t.authUnlink i) i).same Sta.abilities rfl j).trans
    ((StaPriv.writes_authUnlink t i).same Sta.abilities rfl j)

/-- What a request comes to: nothing for the counters, or a station is let in, after nothing
but other parts of the state was written. -/
lemma onAssocReq_counted (cfg : ApConfig) (s : ApState) (req : AssocReq) :
    (SameCounted s (onAssocReq cfg s req).1 ∧ (onAssocReq cfg s req).2 = []) ∨
      ∃ i t, Grants cfg s req i ∧ SameCounted s t ∧
        (t.stapriv.sta i).abilities = (parsed cfg s req i).abilities ∧
        onAssocReq cfg s req =
          ((bssCapUpdateOnStaJoin cfg.bss t i).1.modifySta i (·.setAsoc true),
            .joined i :: (bssCapUpdateOnStaJoin cfg.bss t i).2) := by
  rcases onAssocReq_cases cfg s req with hsame | ⟨i, hfound, -, hcases⟩
  · rw [hsame]
    exact Or.inl ⟨SameCounted.refl s, rfl⟩
  · change let s₁ := s.modifySta i fun _ => parsed cfg s req i
      let s₂ : ApState := ⟨(assocAid cfg s₁.stapriv i).1, s.mlme⟩
      onAssocReq cfg s req = (s₁, []) ∨ onAssocReq cfg s req = (s₂, []) ∨
        (_ ∧ onAssocReq cfg s req = assocJoin cfg s₂ i) at hcases
    have hparsed : SameCounted s (s.modifySta i fun _ => parsed cfg s req i) :=
      sameCounted_modifySta (assocParse_counted ..)
    have hself : (s.modifySta i fun _ => parsed cfg s req i).stapriv.sta i =
      parsed cfg s req i := Function.update_self ..
    obtain ⟨haid, hview⟩ := sameCounted_assocAid cfg
      (s.modifySta i fun _ => parsed cfg s req i).stapriv s.mlme i
    obtain ⟨hkeyed, habilities⟩ := hview i
    rw [hself] at hkeyed habilities
    rcases hcases with hres | hres | ⟨hgranted, hres⟩
    · rw [hres]
      exact Or.inl ⟨hparsed, rfl⟩
    · rw [hres]
      exact Or.inl ⟨hparsed.trans haid, rfl⟩
    · set s₂ : ApState :=
        ⟨(assocAid cfg (s.modifySta i fun _ => parsed cfg s req i).stapriv i).1, s.mlme⟩
      have hdone : SameCounted s (s₂.modifySta i assocDone) :=
        (hparsed.trans haid).trans (sameCounted_modifySta rfl)
      have hw := StaPriv.writes_modify s₂.stapriv i assocDone
      rw [hres]
      rw [assocJoin]
      simp only
      split
      · exact Or.inl ⟨hdone, rfl⟩
      · rename_i hno
        refine Or.inr ⟨i, ⟨((s₂.modifySta i assocDone).stapriv.authUnlink i).asocLink i,
          (s₂.modifySta i assocDone).mlme⟩, ⟨hfound, hgranted, ?_⟩,
          hdone.trans (sameCounted_listed _ _ i), ?_, rfl⟩
        · rw [← hkeyed, ← hw.same Sta.mfpKeyed rfl i]
          exact Bool.not_eq_true _ ▸ hno
        · rw [abilities_listed]
          exact (hw.same Sta.abilities rfl i).trans habilities

/-- What a departure comes to. -/
lemma leave_counted (cfg : ApConfig) (s : ApState) (hwaddr : MacAddr) :
    leave cfg s hwaddr = (s, []) ∨
      ∃ i t, s.stapriv.getStainfo hwaddr = some i ∧ (s.stapriv.sta i).asocLinked = true ∧
        SameCounted s t ∧ t.stapriv.timBitmap = s.stapriv.timBitmap ∧
        (t.stapriv.sta i).aid = (s.stapriv.sta i).aid ∧
        leave cfg s hwaddr = ((bssCapUpdateOnStaLeave cfg.bss t i).1,
          .left i :: (bssCapUpdateOnStaLeave cfg.bss t i).2) := by
  rw [leave]
  cases hfound : s.stapriv.getStainfo hwaddr with
  | none => exact Or.inl rfl
  | some i =>
      simp only
      split
      · rename_i hlinked
        have hw := StaPriv.writes_asocUnlink s.stapriv i
        have hunlinked : SameCounted s ⟨s.stapriv.asocUnlink i, s.mlme⟩ :=
          sameCounted_of_writes hw rfl (StaPriv.sameButAsoc_asocUnlink s.stapriv i).freeStaQueue _
        have hasoc : SameCounted ⟨s.stapriv.asocUnlink i, s.mlme⟩
            (modifySta ⟨s.stapriv.asocUnlink i, s.mlme⟩ i (·.setAsoc false)) :=
          sameCounted_modifySta rfl
        have haid := (StaPriv.writes_modify (s.stapriv.asocUnlink i) i
          (·.setAsoc false)).same Sta.aid rfl i
        have htim : (s.stapriv.asocUnlink i).timBitmap = s.stapriv.timBitmap := by
          rw [StaPriv.asocUnlink]
          split <;> rfl
        exact Or.inr ⟨i, _, rfl, hlinked, hunlinked.trans hasoc, htim,
          haid.trans (hw.same Sta.aid rfl i), rfl⟩
      · exact Or.inl rfl

/-- The command for the beacon is nothing to a record of who joined and left. -/
lemma foldl_sendBeacon {β : Type*} (bss : BssConfig) (s : ApState) (beaconUpdated : Bool)
    {record : β → StaOut → β} (hrecord : ∀ x, record x .setTxBeaconCmd = x) (x : β) :
    (sendBeacon bss s beaconUpdated).2.foldl record x = x := by
  rw [sendBeacon]
  split
  · split
    · exact hrecord x
    · rfl
  · rfl

/-- An event of neither kind concerns the table alone. -/
lemma step_table (cfg : ApConfig) (s : ApState) (e : StaEvent) :
    s.step cfg e = ({ s with stapriv := s.stapriv.step cfg e }, []) ∨
      (∃ req, e = .assocReq req) ∨ ∃ hwaddr, e = .leave hwaddr := by
  cases e with
  | assocReq req => exact Or.inr (Or.inl ⟨req, rfl⟩)
  | leave hwaddr => exact Or.inr (Or.inr ⟨hwaddr, rfl⟩)
  | _ => exact Or.inl rfl

end ApState

end Rtl8723du
