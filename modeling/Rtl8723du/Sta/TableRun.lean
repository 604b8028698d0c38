import Rtl8723du.Sta.CapStep
import Rtl8723du.Sta.TableInv

/-!
# The station table over runs

What the events of an access point make of the lists of the station table.  Where no entry is
freed that is linked in `asoc_list`, and none is taken for an address that is hashed already,
the table is in order after every run (`TableOk`).
-/

namespace Rtl8723du

open Lib.Links

variable {s s' : StaPriv} {cfg : ApConfig} {env : AuthEnv} {f : RxFrame} {hwaddr : MacAddr}
  {i j : Fin numSta}

namespace StaPriv

/-! ### All entries are freed -/

lemma freeStainfo_hashUnlink_self (s : StaPriv) (cfg : ApConfig) (i : Fin numSta) :
    (s.hashUnlink i).freeStainfo cfg i = s.freeStainfo cfg i := by
  have htwice : (s.hashUnlink i).hashUnlink i = s.hashUnlink i := by
    simp only [hashUnlink, unlink_unlink]
  rw [freeStainfo, htwice]
  rfl

lemma authUnlink_hashUnlink (s : StaPriv) (i j : Fin numSta) :
    (s.hashUnlink j).authUnlink i = (s.authUnlink i).hashUnlink j := by
  unfold authUnlink
  by_cases hin : (s.sta i).authLinked = true
  · rw [if_pos hin, if_pos (show ((s.hashUnlink j).sta i).authLinked = true from hin)]
    rfl
  · rw [if_neg hin, if_neg (show ¬ ((s.hashUnlink j).sta i).authLinked = true from hin)]

lemma aidRelease_hashUnlink (s : StaPriv) (i j : Fin numSta) :
    (s.hashUnlink j).aidRelease i = (s.aidRelease i).hashUnlink j := by
  rw [aidRelease_eq, aidRelease_eq]
  by_cases hown : s.OwnsAid i
  · rw [if_pos hown, if_pos (show (s.hashUnlink j).OwnsAid i from hown)]
    rfl
  · rw [if_neg hown, if_neg (show ¬ (s.hashUnlink j).OwnsAid i from hown)]
    rfl

/-- An entry that is out of its bucket stays out of it when another is freed. -/
lemma freeStainfo_hashUnlink (s : StaPriv) (cfg : ApConfig) (i j : Fin numSta) :
    (s.hashUnlink j).freeStainfo cfg i = (s.freeStainfo cfg i).hashUnlink j := by
  have hswap : (s.hashUnlink j).hashUnlink i = (s.hashUnlink i).hashUnlink j := by
    simp only [hashUnlink, unlink_comm _ j i]
  have hfirst : (s.hashUnlink j).freeUnlinked i = (s.freeUnlinked i).hashUnlink j := by
    rw [freeUnlinked, hswap]
    exact authUnlink_hashUnlink ((s.hashUnlink i).countDown.modify i (·.setAsoc false)) i j
  rw [freeStainfo_eq, freeStainfo_eq, hfirst]
  cases cfg.apState with
  | false => rfl
  | true =>
      simp only [if_true]
      rw [aidRelease_hashUnlink]
      rfl

/-- The entries are freed one after another. -/
def freeEach (s : StaPriv) (cfg : ApConfig) (l : List (Fin numSta)) : StaPriv :=
  l.foldl (fun s i => s.freeStainfo cfg i) s

/-- That all of them are taken out of the buckets first makes no difference. -/
lemma freeEach_hashUnlink (cfg : ApConfig) (l : List (Fin numSta)) (s : StaPriv) :
    (l.foldl hashUnlink s).freeEach cfg l = s.freeEach cfg l := by
  have hcomm (l : List (Fin numSta)) (s : StaPriv) (i : Fin numSta) :
      (l.foldl hashUnlink s).freeStainfo cfg i = l.foldl hashUnlink (s.freeStainfo cfg i) := by
    induction l generalizing s with
    | nil => rfl
    | cons j l ih =>
        rw [List.foldl_cons, List.foldl_cons, ih, freeStainfo_hashUnlink]
  induction l generalizing s with
  | nil => rfl
  | cons i l ih =>
      show (((l.foldl hashUnlink (s.hashUnlink i)).freeStainfo cfg i).freeEach cfg l) = _
      rw [hcomm, freeStainfo_hashUnlink_self, ih]
      rfl

lemma freeAllStainfo_eq (s : StaPriv) (cfg : ApConfig) : s.freeAllStainfo cfg =
    if s.asocStaCount = 1 then s else s.freeEach cfg s.freeStaList := by
  rw [freeAllStainfo]
  split
  · rfl
  · exact freeEach_hashUnlink cfg s.freeStaList s

lemma mem_freeStaList : i ∈ s.freeStaList →
    ∃ index, i ∈ s.staHash index ∧ s.getBcmcStainfo ≠ some i := by
  intro hi
  obtain ⟨index, -, hmem⟩ := List.mem_flatMap.1 hi
  rw [List.mem_filter] at hmem
  exact ⟨index, hmem.1, by simpa using hmem.2⟩

lemma Placed.nodup_freeStaList (h : s.Placed) : s.freeStaList.Nodup := by
  refine List.nodup_flatMap.2 ⟨fun index _ => (h.bucket_nodup index).filter _, ?_⟩
  refine List.nodup_range.imp fun {a b} hab => ?_
  -- an entry is in one bucket
  intro i hia hib
  have ha := h.mem_bucket a i (List.mem_of_mem_filter hia)
  have hb := h.mem_bucket b i (List.mem_of_mem_filter hib)
  exact hab (ha.trans hb.symm)

/-- Hashed entries that are freed one after another, each once. -/
lemma Placed.freeEach (h : s.Placed) {l : List (Fin numSta)} (hnodup : l.Nodup)
    (hl : ∀ i ∈ l, s.Hashed i) : (s.freeEach cfg l).Placed := by
  induction l generalizing s with
  | nil => exact h
  | cons i l ih =>
      obtain ⟨hi, hnodup⟩ := List.nodup_cons.1 hnodup
      refine ih (h.freeStainfo (hl i List.mem_cons_self)) hnodup fun j hj => ?_
      have hji : j ≠ i := fun hji => hi (hji ▸ hj)
      exact (freed_freeStainfo s cfg i).hashed.2 ⟨hl j (List.mem_cons_of_mem i hj), hji⟩

lemma Tidy.freeEach (h : s.Tidy cfg) {l : List (Fin numSta)}
    (hl : ∀ i ∈ l, (s.sta i).asocLinked = false) : (s.freeEach cfg l).Tidy cfg := by
  induction l generalizing s with
  | nil => exact h
  | cons i l ih =>
      refine ih (h.freeStainfo (hl i List.mem_cons_self)) fun j hj => ?_
      rw [(freed_freeStainfo s cfg i).asocLinked]
      exact hl j (List.mem_cons_of_mem i hj)

lemma Placed.hashed_freeStaList (h : s.Placed) (hi : i ∈ s.freeStaList) : s.Hashed i := by
  obtain ⟨index, hmem, -⟩ := mem_freeStaList hi
  exact h.hashed_of_mem hmem

lemma Placed.freeAllStainfo (h : s.Placed) : (s.freeAllStainfo cfg).Placed := by
  rw [freeAllStainfo_eq]
  split
  · exact h
  · exact h.freeEach h.nodup_freeStaList fun _ => h.hashed_freeStaList

lemma Tidy.freeAllStainfo (h : s.Tidy cfg)
    (hl : s.asocStaCount = 1 ∨ ∀ i ∈ s.freeStaList, (s.sta i).asocLinked = false) :
    (s.freeAllStainfo cfg).Tidy cfg := by
  rw [freeAllStainfo_eq]
  split
  · exact h
  · rename_i hcount
    exact h.freeEach (hl.resolve_left hcount)

/-! ### Authentication -/

lemma authExchange_sameLinks {pstat pstat' : Sta}
    (h : authExchange cfg env f pstat = .ok pstat') :
    pstat.SameLinks pstat' ∧ pstat'.counted = pstat.counted := by
  simp only [authExchange] at h
  split_ifs at h <;> cases h <;> exact ⟨⟨rfl, rfl, rfl, rfl⟩, rfl⟩

/-- The exchange reads the sequence and the challenge of the station. -/
lemma authInSequence_congr {pstat pstat' : Sta} (hseq : pstat'.authSeq = pstat.authSeq)
    (hchg : pstat'.chgTxt = pstat.chgTxt) :
    AuthInSequence cfg env f pstat' ↔ AuthInSequence cfg env f pstat := by
  rw [AuthInSequence, AuthInSequence, hseq, hchg]

lemma writes_authListed (s : StaPriv) (i : Fin numSta) : ∃ linked,
    Writes s (s.authListed i) i (·.setAuthLinked linked) := by
  rw [authListed]
  split
  · exact ⟨(s.sta i).authLinked, writes_rfl rfl⟩
  · exact ⟨true, writes_authLink s i⟩

/-- What the exchange with a station does to the table: it frees the station, or writes what
the lists are not about. -/
lemma onAuthStation_cases (s : StaPriv) (cfg : ApConfig) (env : AuthEnv) (f : RxFrame)
    (i : Fin numSta) :
    (¬ authReported cfg (authAlgorithm env f) = true ∧ ¬ AuthInSequence cfg env f (s.sta i) ∧
      (s.onAuthStation cfg env f i).1 = (s.authListed i).freeStainfo cfg i) ∨
    ((authReported cfg (authAlgorithm env f) = true ∨ AuthInSequence cfg env f (s.sta i)) ∧
      ∃ g : Sta → Sta, ((s.authListed i).sta i).SameLinks (g ((s.authListed i).sta i)) ∧
        (g ((s.authListed i).sta i)).counted = ((s.authListed i).sta i).counted ∧
        (s.onAuthStation cfg env f i).1 = (s.authListed i).modify i g) := by
  obtain ⟨linked, hw⟩ := writes_authListed s i
  have hseq := hw.same Sta.authSeq rfl i
  have hchg := hw.same Sta.chgTxt rfl i
  unfold onAuthStation
  rw [← authInSequence_congr hseq hchg, ← authExchange_eq_ok_iff]
  simp only
  by_cases hrep : authReported cfg (authAlgorithm env f) = true
  · rw [if_pos hrep]
    exact Or.inr ⟨Or.inl hrep, (·.setAuthalg (authAlgorithm env f)), ⟨rfl, rfl, rfl, rfl⟩,
      rfl, rfl⟩
  · rw [if_neg hrep]
    cases hex : authExchange cfg env f ((s.authListed i).sta i) with
    | error status => exact Or.inl ⟨hrep, by simp, rfl⟩
    | ok sta =>
        obtain ⟨hsame, hcaps⟩ := authExchange_sameLinks hex
        have hissued : ((s.authListed i).sta i).SameLinks (authIssued env f sta) :=
          hsame.trans ⟨rfl, rfl, rfl, rfl⟩
        exact Or.inr ⟨Or.inr ⟨sta, rfl⟩, fun _ => authIssued env f sta, hissued, hcaps, rfl⟩

/-- The frame is stopped, or no entry is free for it, or the exchange is entered with a
station. -/
lemma onAuth_cases (s : StaPriv) (cfg : ApConfig) (env : AuthEnv) (f : RxFrame) :
    (s.onAuth cfg env f).1 = s ∨
      ∃ s' i, s.authStation f.sa = (s', some i) ∧ ¬ s.AuthStopped cfg env f ∧
        isMcast f.sa = false ∧ (s.onAuth cfg env f).1 = (s'.onAuthStation cfg env f i).1 := by
  rw [onAuth, AuthStopped]
  by_cases hoff : cfg.apState = false ∨ cfg.mlmeIsAsoc = false
  · exact Or.inl (by rw [if_pos hoff])
  · rw [if_neg hoff]
    by_cases hinvalid : rtwCheckInvalidMacAddress f.sa false = true
    · exact Or.inl (by rw [if_pos hinvalid])
    · rw [if_neg hinvalid]
      have hmcast : isMcast f.sa = false := by
        rw [rtwCheckInvalidMacAddress] at hinvalid
        rw [isMcast]
        simp only [Bool.or_eq_true, not_or, Bool.not_eq_true] at hinvalid
        exact hinvalid.1.2
      cases hrefused : s.authRefused cfg env f with
      | some status => exact Or.inl rfl
      | none =>
          have hgo : ¬ (cfg.apState = false ∨ cfg.mlmeIsAsoc = false ∨
              rtwCheckInvalidMacAddress f.sa false = true ∨ (none : Option ℕ) ≠ none) := by
            tauto
          cases hst : s.authStation f.sa with
          | mk s' pstat =>
              cases pstat with
              | some i => exact Or.inr ⟨s', i, rfl, hgo, hmcast, rfl⟩
              | none =>
                  refine Or.inl ?_
                  show s' = s
                  unfold authStation at hst
                  split at hst
                  · -- nothing is written when the free queue is empty
                    cases hq : s.freeStaQueue with
                    | nil =>
                        rw [allocStainfo_nil hq] at hst
                        cases hst
                        rfl
                    | cons k rest =>
                        rw [allocStainfo_cons hq] at hst
                        cases hst
                  · cases hst

/-- The station that the exchange is entered with: a new one, or one that was found. -/
lemma authStation_cases {sa : MacAddr} (hst : s.authStation sa = (s', some i)) :
    (s.getStainfo sa = none ∧ ∃ s₁, s.allocStainfo sa = (s₁, some i) ∧
      s' = s₁.modify i (·.startAuth)) ∨
    (s.getStainfo sa = some i ∧
      s' = if (s.sta i).mfpKeyed then s else s.asocUnlink i) := by
  unfold authStation at hst
  cases hfound : s.getStainfo sa with
  | some k =>
      simp only [hfound] at hst
      cases hst
      exact Or.inr ⟨rfl, rfl⟩
  | none =>
      simp only [hfound] at hst
      cases halloc : s.allocStainfo sa with
      | mk s₁ pstat =>
          cases pstat with
          | none => simp [halloc] at hst
          | some k =>
              simp only [halloc] at hst
              cases hst
              exact Or.inl ⟨rfl, s₁, rfl, rfl⟩

lemma startAuth_sameLinks (pstat : Sta) : pstat.SameLinks pstat.startAuth := ⟨rfl, rfl, rfl, rfl⟩

lemma Placed.authStation (h : s.Placed) {sa : MacAddr}
    (hst : s.authStation sa = (s', some i)) : s'.Placed ∧ s'.Hashed i := by
  rcases authStation_cases hst with ⟨-, s₁, halloc, rfl⟩ | ⟨hfound, rfl⟩
  · have hp : s₁.Placed := by
      have := h.allocStainfo sa
      rwa [halloc] at this
    have hhash : SameHash s₁ (s₁.modify i (·.startAuth)) :=
      ⟨rfl, (writes_modify s₁ i _).same Sta.macAddr rfl⟩
    exact ⟨hp.modify (startAuth_sameLinks _), hhash.hashed.2 (allocStainfo_some halloc).1⟩
  · have hi := hashed_of_getStainfo h hfound
    split
    · exact ⟨h, hi⟩
    · have hs := sameButAsoc_asocUnlink s i
      have hw := writes_asocUnlink s i
      have hhash : SameHash s (s.asocUnlink i) := ⟨hs.staHash, hw.same Sta.macAddr rfl⟩
      exact ⟨h.of_sameButAsoc hs hw, hhash.hashed.2 hi⟩

/-- A station without protected management frames and a key is out of `asoc_list`. -/
lemma Tidy.authStation (h : s.Tidy cfg) (hp : s.Placed) {sa : MacAddr}
    (hmcast : isMcast sa = false) (hst : s.authStation sa = (s', some i)) :
    s'.Tidy cfg ∧ ((s'.sta i).mfpKeyed = false → (s'.sta i).asocLinked = false) := by
  rcases authStation_cases hst with ⟨hnone, s₁, halloc, rfl⟩ | ⟨hfound, rfl⟩
  · have ht : s₁.Tidy cfg := by
      have := h.allocStainfo hp fun j hj => macAddr_ne_of_getStainfo hmcast hnone hj
      rwa [halloc] at this
    refine ⟨ht.modify (startAuth_sameLinks _), fun _ => ?_⟩
    rw [modify_sta_self, (allocStainfo_some halloc).2.1]
    rfl
  · cases hkeyed : (s.sta i).mfpKeyed with
    | true => exact ⟨by simpa using h, fun hno => by simp [hkeyed] at hno⟩
    | false =>
        refine ⟨by simpa using h.asocUnlink, fun _ => ?_⟩
        have hw := writes_asocUnlink s i
        have hout : ((s.asocUnlink i).sta i).asocLinked = false :=
          (hw.set Sta.asocLinked rfl i).trans (if_pos rfl)
        simpa using hout

lemma Placed.authListed (h : s.Placed) (hi : s.Hashed i) :
    (s.authListed i).Placed ∧ (s.authListed i).Hashed i := by
  rw [StaPriv.authListed]
  split
  · exact ⟨h, hi⟩
  · have hhash : SameHash s (s.authLink i) :=
      ⟨(sameButAuth_authLink s i).staHash, (writes_authLink s i).same Sta.macAddr rfl⟩
    exact ⟨h.authLink hi, hhash.hashed.2 hi⟩

lemma Placed.onAuth (h : s.Placed) : (s.onAuth cfg env f).1.Placed := by
  rcases onAuth_cases s cfg env f with hsame | ⟨s', i, hst, -, -, hres⟩
  · rw [hsame]
    exact h
  · obtain ⟨hp, hi⟩ := h.authStation hst
    obtain ⟨hpl, hil⟩ := hp.authListed hi
    rw [hres]
    rcases onAuthStation_cases s' cfg env f i with ⟨-, -, hfreed⟩ | ⟨-, g, hg, -, hwritten⟩
    · rw [hfreed]
      exact hpl.freeStainfo hil
    · rw [hwritten]
      exact hpl.modify hg

/-- A frame is all right if it does not have an associated station with a key freed. -/
lemma Tidy.onAuth (h : s.Tidy cfg) (hp : s.Placed)
    (hok : ∀ i, s.getStainfo f.sa = some i → (s.sta i).mfpKeyed = true →
      (s.sta i).asocLinked = true → s.AuthPasses cfg env f (s.sta i)) :
    (s.onAuth cfg env f).1.Tidy cfg := by
  rcases onAuth_cases s cfg env f with hsame | ⟨s', i, hst, hgo, hmcast, hres⟩
  · rw [hsame]
    exact h
  · obtain ⟨ht, hunlinked⟩ := h.authStation hp hmcast hst
    have htl : (s'.authListed i).Tidy cfg := by
      rw [StaPriv.authListed]
      split
      · exact ht
      · rename_i hkeyed
        rw [Bool.not_eq_true] at hkeyed
        exact ht.of_sameButAuth (sameButAuth_authLink s' i) (writes_authLink s' i)
          fun _ => hunlinked hkeyed
    rw [hres]
    rcases onAuthStation_cases s' cfg env f i with ⟨hrep, hseq, hfreed⟩ | ⟨-, g, hg, -, hwritten⟩
    · rw [hfreed]
      refine htl.freeStainfo ?_
      obtain ⟨linked, hw⟩ := writes_authListed s' i
      rw [hw.same Sta.asocLinked rfl]
      cases hkeyed : (s'.sta i).mfpKeyed with
      | false => exact hunlinked hkeyed
      | true =>
          -- only a station that was found has a key, and it was left as it was
          rcases authStation_cases hst with ⟨-, s₁, halloc, rfl⟩ | ⟨hfound, hs'⟩
          · rw [modify_sta_self, (allocStainfo_some halloc).2.1] at hkeyed
            exact absurd hkeyed Bool.false_ne_true
          · have hkeyed' : (s.sta i).mfpKeyed = true := by
              by_contra hno
              rw [hs', if_neg hno, Sta.mfpKeyed,
                (writes_asocUnlink s i).same Sta.flags rfl,
                (writes_asocUnlink s i).same Sta.bpairwiseKeyInstalled rfl] at hkeyed
              exact hno hkeyed
            rw [if_pos hkeyed'] at hs'
            subst hs'
            by_contra hlinked
            rw [Bool.not_eq_false] at hlinked
            rcases hok i hfound hkeyed' hlinked with hstop | hrep' | hseq'
            · exact hgo hstop
            · exact hrep hrep'
            · exact hseq hseq'
    · rw [hwritten]
      exact htl.modify hg

/-- A station with a key that a frame has freed is still linked in `asoc_list`. -/
lemma Associated.freed (h : s.Associated f.sa i)
    (hno : ¬ s.AuthPasses cfg env f (s.sta i)) :
    i ∈ (s.onAuth cfg env f).1.freeStaQueue ∧ i ∈ (s.onAuth cfg env f).1.asocList := by
  have hlisted : s.authListed i = s := if_pos h.mfpKeyed
  rw [onAuth_of_mfpKeyed (fun hstop => hno (Or.inl hstop)) h.found h.mfpKeyed]
  rcases onAuthStation_cases s cfg env f i with ⟨-, -, hfreed⟩ | ⟨hpass, -⟩
  · have hf := freed_freeStainfo s cfg i
    rw [hfreed, hlisted, hf.freeStaQueue, hf.asocList]
    exact ⟨List.mem_append_right _ (List.mem_singleton_self i), h.listed⟩
  · exact absurd (Or.inr hpass) hno

/-! ### Association -/

end StaPriv

lemma CapStep.sameLinks {x x' : CapState} (h : CapStep x x') : x.2.SameLinks x'.2 := by
  obtain ⟨c, b, hsta⟩ := h.sta
  rw [hsta]
  exact ⟨rfl, rfl, rfl, rfl⟩

namespace ApState

variable {s : ApState} {req : AssocReq}

lemma assocParse_sameLinks (cfg : BssConfig) (req : AssocReq) (sta : Sta) :
    sta.SameLinks (assocParse cfg req sta).1 := by
  rw [assocParse]
  split
  · exact Sta.SameLinks.refl sta
  · simp only
    split
    · exact ⟨rfl, rfl, rfl, rfl⟩
    · rw [rtwApParseStaSupportedRates]
      cases hrates : req.rateSet with
      | nil => exact ⟨rfl, rfl, rfl, rfl⟩
      | cons rate rates =>
          simp only [reduceCtorEq, if_false]
          split
          · exact ⟨rfl, rfl, rfl, rfl⟩
          · rw [rtwApParseStaHtIe]
            split <;> exact ⟨rfl, rfl, rfl, rfl⟩

lemma sendBeacon_stapriv (cfg : BssConfig) (s : ApState) (beaconUpdated : Bool) :
    (sendBeacon cfg s beaconUpdated).1.stapriv = s.stapriv := by
  rw [sendBeacon]
  split <;> rfl

lemma bssCapUpdateOnStaJoin_stapriv (cfg : BssConfig) (s : ApState) (i : Fin numSta) :
    (bssCapUpdateOnStaJoin cfg s i).1.stapriv = s.stapriv.modify i fun _ =>
      (joinCaps cfg s.stapriv.timBitmap (s.mlme, s.stapriv.sta i)).1.2 :=
  sendBeacon_stapriv ..

lemma leaveTim_stapriv (cfg : BssConfig) (s : ApState) (i : Fin numSta) :
    (leaveTim cfg s i).stapriv = s.stapriv ∨
      (leaveTim cfg s i).stapriv = s.stapriv.timMap (s.stapriv.sta i).aid false := by
  rw [leaveTim]
  simp only
  split
  · exact Or.inr rfl
  · exact Or.inl rfl

lemma leaveTim_sta (cfg : BssConfig) (s : ApState) (i : Fin numSta) :
    (leaveTim cfg s i).stapriv.sta = s.stapriv.sta := by
  rcases leaveTim_stapriv cfg s i with h | h
  · rw [h]
  · rw [h]
    rfl

/-- What the lists make of a TIM bit: nothing. -/
lemma placed_timMap {t : StaPriv} (h : t.Placed) (aid : ℕ) (on : Bool) :
    (t.timMap aid on).Placed :=
  h.of_auth ⟨rfl, fun _ => rfl⟩ rfl rfl h.auth

lemma tidy_timMap {t : StaPriv} (h : t.Tidy cfg) (aid : ℕ) (on : Bool) :
    (t.timMap aid on).Tidy cfg :=
  h.of_asoc ⟨rfl, fun _ => rfl⟩ rfl (fun _ => rfl) h.asoc h.apart

/-- A station leaves the counters. -/
lemma bssCapUpdateOnStaLeave_stapriv (cfg : BssConfig) (s : ApState) (i : Fin numSta) :
    (bssCapUpdateOnStaLeave cfg s i).1.stapriv = (leaveTim cfg s i).stapriv.modify i fun _ =>
      (leaveCaps cfg (leaveTim cfg s i).stapriv.timBitmap
        ((leaveTim cfg s i).mlme, (leaveTim cfg s i).stapriv.sta i)).1.2 :=
  sendBeacon_stapriv ..

/-- An invariant of the table that associations and departures keep. -/
structure Stable (cfg : ApConfig) (I : StaPriv → Prop) : Prop where
  placed : ∀ t, I t → t.Placed
  modify : ∀ t i g, I t → (t.sta i).SameLinks (g (t.sta i)) → I (t.modify i g)
  timMap : ∀ t aid on, I t → I (t.timMap aid on)
  aidAlloc : ∀ t i, I t → cfg.apState = true → t.Hashed i → (t.sta i).aid = 0 →
    I (t.aidAlloc cfg i).1
  join : ∀ t i, I t → t.Hashed i → I ((t.authUnlink i).asocLink i)
  leave : ∀ t i, I t → I (t.asocUnlink i)

lemma stable_placed (cfg : ApConfig) : Stable cfg StaPriv.Placed where
  placed := fun _ h => h
  modify := fun _ _ _ h hg => h.modify hg
  timMap := fun _ aid on h => placed_timMap h aid on
  aidAlloc := fun _ _ h _ _ _ => h.aidAlloc
  join := fun t i h _ =>
    h.authUnlink.of_sameButAsoc (StaPriv.sameButAsoc_asocLink (t.authUnlink i) i)
      (StaPriv.writes_asocLink (t.authUnlink i) i)
  leave := fun t i h =>
    h.of_sameButAsoc (StaPriv.sameButAsoc_asocUnlink t i) (StaPriv.writes_asocUnlink t i)

/-- The table is in order. -/
structure InOrder (cfg : ApConfig) (t : StaPriv) : Prop where
  placed : t.Placed
  tidy : t.Tidy cfg

lemma stable_inOrder (cfg : ApConfig) : Stable cfg (InOrder cfg) where
  placed := fun _ h => h.placed
  modify := fun _ _ _ h hg => ⟨h.placed.modify hg, h.tidy.modify hg⟩
  timMap := fun _ aid on h => ⟨placed_timMap h.placed aid on, tidy_timMap h.tidy aid on⟩
  aidAlloc := fun _ _ h hap hi hzero => ⟨h.placed.aidAlloc, h.tidy.aidAlloc hap hi hzero⟩
  join := fun t i h hi => by
    have hw := StaPriv.writes_authUnlink t i
    have hs := StaPriv.sameButAuth_authUnlink t i
    have hunlinked : (t.authUnlink i).Tidy cfg :=
      h.tidy.of_sameButAuth hs hw fun hno => absurd hno Bool.false_ne_true
    have hhash : StaPriv.SameHash t (t.authUnlink i) := ⟨hs.staHash, hw.same Sta.macAddr rfl⟩
    exact ⟨(stable_placed cfg).join t i h.placed hi,
      hunlinked.asocLink (hhash.hashed.2 hi) ((hw.set Sta.authLinked rfl i).trans (if_pos rfl))⟩
  leave := fun t i h => ⟨(stable_placed cfg).leave t i h.placed, h.tidy.asocUnlink⟩

section Stable

variable {I : StaPriv → Prop}

lemma Stable.bssJoin (h : Stable cfg I) (bss : BssConfig) (hs : I s.stapriv) :
    I (bssCapUpdateOnStaJoin bss s i).1.stapriv := by
  rw [bssCapUpdateOnStaJoin_stapriv]
  exact h.modify _ i _ hs
    (capStep_joinCaps bss s.stapriv.timBitmap (s.mlme, s.stapriv.sta i)).sameLinks

lemma Stable.bssLeave (h : Stable cfg I) (bss : BssConfig) (hs : I s.stapriv) :
    I (bssCapUpdateOnStaLeave bss s i).1.stapriv := by
  rw [bssCapUpdateOnStaLeave_stapriv]
  have htim : I (leaveTim bss s i).stapriv := by
    rcases leaveTim_stapriv bss s i with hsame | htim
    · rw [hsame]
      exact hs
    · rw [htim]
      exact h.timMap _ _ _ hs
  exact h.modify _ i _ htim (capStep_leaveCaps bss (leaveTim bss s i).stapriv.timBitmap
    ((leaveTim bss s i).mlme, (leaveTim bss s i).stapriv.sta i)).sameLinks

lemma Stable.assocJoin (h : Stable cfg I) (hs : I s.stapriv) (hi : s.stapriv.Hashed i) :
    I (assocJoin cfg s i).1.stapriv := by
  have hdone : I (s.modifySta i assocDone).stapriv :=
    h.modify _ i assocDone hs ⟨rfl, rfl, rfl, rfl⟩
  have hhash : StaPriv.SameHash s.stapriv (s.modifySta i assocDone).stapriv :=
    ⟨rfl, (StaPriv.writes_modify s.stapriv i assocDone).same Sta.macAddr rfl⟩
  rw [ApState.assocJoin]
  simp only
  split
  · exact hdone
  · have hlinked := h.join _ i hdone (hhash.hashed.2 hi)
    have hjoined := h.bssJoin cfg.bss (i := i)
      (s := ⟨((s.modifySta i assocDone).stapriv.authUnlink i).asocLink i, s.mlme⟩) hlinked
    exact h.modify _ i (·.setAsoc true) hjoined ⟨rfl, rfl, rfl, rfl⟩

lemma Stable.assocAid (h : Stable cfg I) {t : StaPriv} (ht : I t) (hap : cfg.apState = true)
    (hi : t.Hashed i) : I (assocAid cfg t i).1 ∧ (assocAid cfg t i).1.Hashed i := by
  rw [ApState.assocAid]
  split
  · exact ⟨ht, hi⟩
  · rename_i hzero
    have hhash : StaPriv.SameHash t (t.aidAlloc cfg i).1 :=
      ⟨(StaPriv.sameButAid_aidAlloc t cfg i).staHash,
        (StaPriv.writes_aidAlloc t cfg i).same Sta.macAddr rfl⟩
    exact ⟨h.aidAlloc t i ht hap hi (by omega), hhash.hashed.2 hi⟩

/-- The parts of `OnAssocReq`: it ends without a trace, or with a written entry, or the
station gets an AID and is let in or not. -/
lemma onAssocReq_cases (cfg : ApConfig) (s : ApState) (req : AssocReq) :
    onAssocReq cfg s req = (s, []) ∨
      ∃ i, s.stapriv.getStainfo req.sa = some i ∧ cfg.apState = true ∧
        let s₁ := s.modifySta i fun _ => (assocParse cfg.bss req (assocStart (s.stapriv.sta i))).1
        let s₂ : ApState := ⟨(assocAid cfg s₁.stapriv i).1, s.mlme⟩
        onAssocReq cfg s req = (s₁, []) ∨ onAssocReq cfg s req = (s₂, []) ∨
          ((assocParse cfg.bss req (assocStart (s.stapriv.sta i))).2 = true ∧
            onAssocReq cfg s req = assocJoin cfg s₂ i) := by
  rw [onAssocReq]
  split
  · exact Or.inl rfl
  · rename_i hgo
    have hap : cfg.apState = true := by
      cases h : cfg.apState with
      | true => rfl
      | false => exact absurd (Or.inl h) hgo
    cases hfound : s.stapriv.getStainfo req.sa with
    | none => exact Or.inl rfl
    | some i =>
        simp only
        split_ifs
        · exact Or.inl rfl
        · exact Or.inl rfl
        · exact Or.inr ⟨i, rfl, hap, Or.inl rfl⟩
        · rename_i hparsed _
          exact Or.inr ⟨i, rfl, hap, Or.inr (Or.inr ⟨Bool.not_eq_false _ ▸ hparsed, rfl⟩)⟩
        · exact Or.inr ⟨i, rfl, hap, Or.inr (Or.inl rfl)⟩

lemma Stable.onAssocReq (h : Stable cfg I) (hs : I s.stapriv) :
    I (ApState.onAssocReq cfg s req).1.stapriv := by
  rcases onAssocReq_cases cfg s req with hsame | ⟨i, hfound, hap, hcases⟩
  · rw [hsame]
    exact hs
  · have hi := StaPriv.hashed_of_getStainfo (h.placed _ hs) hfound
    have hstart : (s.stapriv.sta i).SameLinks (assocStart (s.stapriv.sta i)) :=
      ⟨rfl, rfl, rfl, rfl⟩
    have hlinks := hstart.trans (assocParse_sameLinks cfg.bss req _)
    have hparsed := h.modify s.stapriv i
      (fun _ => (assocParse cfg.bss req (assocStart (s.stapriv.sta i))).1) hs hlinks
    have hhash : StaPriv.SameHash s.stapriv (s.stapriv.modify i
        fun _ => (assocParse cfg.bss req (assocStart (s.stapriv.sta i))).1) :=
      ⟨rfl, (StaPriv.writes_modify s.stapriv i _).same Sta.macAddr hlinks.macAddr⟩
    obtain ⟨haid, hhashed⟩ := h.assocAid hparsed hap (hhash.hashed.2 hi)
    rcases hcases with hres | hres | ⟨-, hres⟩
    · rw [hres]
      exact hparsed
    · rw [hres]
      exact haid
    · rw [hres]
      exact h.assocJoin haid hhashed

lemma Stable.leaves (h : Stable cfg I) (hs : I s.stapriv) :
    I (ApState.leave cfg s hwaddr).1.stapriv := by
  rw [ApState.leave]
  cases s.stapriv.getStainfo hwaddr with
  | none => exact hs
  | some i =>
      simp only
      split
      · have hasoc := h.modify _ i (·.setAsoc false) (h.leave _ i hs) ⟨rfl, rfl, rfl, rfl⟩
        exact h.bssLeave cfg.bss
          (s := ⟨(s.stapriv.asocUnlink i).modify i (·.setAsoc false), s.mlme⟩) hasoc
      · exact hs

end Stable

/-! ### Steps and runs -/

/-- The condition on an event: nothing is freed that is linked in `asoc_list`, and no second
entry is taken for an address. -/
def TableStepOk (cfg : ApConfig) (s : ApState) : StaEvent → Prop
  | .alloc hwaddr => ∀ i, s.stapriv.Hashed i → (s.stapriv.sta i).macAddr ≠ hwaddr
  | .free hwaddr => ∀ i ∈ s.stapriv.getStainfo hwaddr, (s.stapriv.sta i).asocLinked = false
  | .freeAll =>
      s.stapriv.asocStaCount = 1 ∨
        ∀ i ∈ s.stapriv.freeStaList, (s.stapriv.sta i).asocLinked = false
  | .auth env f =>
      ∀ i ∈ s.stapriv.getStainfo f.sa, (s.stapriv.sta i).mfpKeyed = true →
        (s.stapriv.sta i).asocLinked = true → s.stapriv.AuthPasses cfg env f (s.stapriv.sta i)
  | _ => True

instance (cfg : ApConfig) (s : ApState) (e : StaEvent) : Decidable (TableStepOk cfg s e) := by
  unfold TableStepOk
  split <;> infer_instance

/-- Every entry has its one place, whatever happens. -/
lemma placed_step (e : StaEvent) (h : s.stapriv.Placed) : (s.step cfg e).1.stapriv.Placed := by
  cases e with
  | assocReq req => exact (stable_placed cfg).onAssocReq h
  | leave hwaddr => exact (stable_placed cfg).leaves h
  | alloc hwaddr => exact h.allocStainfo hwaddr
  | free hwaddr =>
      show (s.stapriv.stadelEvent cfg hwaddr).Placed
      rw [StaPriv.stadelEvent]
      cases hfound : s.stapriv.getStainfo hwaddr with
      | none => exact h
      | some i => exact h.freeStainfo (StaPriv.hashed_of_getStainfo h hfound)
  | freeAll => exact h.freeAllStainfo
  | authExpired i =>
      show (s.stapriv.authExpire cfg i).Placed
      rw [StaPriv.authExpire]
      split
      · rename_i hin
        exact h.freeStainfo (h.auth.hashed i hin)
      · exact h
  | auth env f => exact h.onAuth
  | keyInstalled hwaddr =>
      show (s.stapriv.keyInstalled hwaddr).Placed
      rw [StaPriv.keyInstalled]
      split
      · exact h
      · exact h.modify ⟨rfl, rfl, rfl, rfl⟩
  | tim aid on => exact placed_timMap h aid on

/-- The table stays in order where the condition on the event holds. -/
lemma inOrder_step (e : StaEvent) (hok : TableStepOk cfg s e) (h : InOrder cfg s.stapriv) :
    InOrder cfg (s.step cfg e).1.stapriv := by
  refine ⟨placed_step e h.placed, ?_⟩
  cases e with
  | assocReq req => exact ((stable_inOrder cfg).onAssocReq h).tidy
  | leave hwaddr => exact ((stable_inOrder cfg).leaves h).tidy
  | alloc hwaddr => exact h.tidy.allocStainfo h.placed hok
  | free hwaddr =>
      show (s.stapriv.stadelEvent cfg hwaddr).Tidy cfg
      rw [StaPriv.stadelEvent]
      cases hfound : s.stapriv.getStainfo hwaddr with
      | none => exact h.tidy
      | some i => exact h.tidy.freeStainfo (hok i hfound)
  | freeAll => exact h.tidy.freeAllStainfo hok
  | authExpired i =>
      show (s.stapriv.authExpire cfg i).Tidy cfg
      rw [StaPriv.authExpire]
      split
      · rename_i hin
        -- a station in `auth_list` is not in `asoc_list`
        exact h.tidy.freeStainfo (h.tidy.apart i ((h.placed.auth.mem i).1 hin))
      · exact h.tidy
  | auth env f => exact h.tidy.onAuth h.placed hok
  | keyInstalled hwaddr =>
      show (s.stapriv.keyInstalled hwaddr).Tidy cfg
      rw [StaPriv.keyInstalled]
      split
      · exact h.tidy
      · exact h.tidy.modify ⟨rfl, rfl, rfl, rfl⟩
  | tim aid on => exact tidy_timMap h.tidy aid on

/-- The table of an access point that starts. -/
lemma inOrder_init (cfg : ApConfig) : InOrder cfg StaPriv.init where
  placed :=
    { free_nodup := List.nodup_finRange numSta
      bucket_nodup := fun _ => List.nodup_nil
      mem_bucket := fun _ i hi => absurd hi List.not_mem_nil
      mem_free := fun i => iff_of_true (List.mem_finRange i) List.not_mem_nil
      count := by
        show (0 : ℤ) + ((List.finRange numSta).length : ℕ) = (numSta : ℕ)
        rw [List.length_finRange, zero_add]
      auth := ⟨List.nodup_nil, fun _ => by simp [StaPriv.init], fun _ hi => absurd hi
        List.not_mem_nil, rfl⟩ }
  tidy :=
    { asoc := ⟨List.nodup_nil, fun _ => by simp [StaPriv.init], fun _ hi => absurd hi
        List.not_mem_nil, rfl⟩
      apart := fun _ h => absurd h Bool.false_ne_true
      unique := fun _ _ h => absurd h List.not_mem_nil
      aid_hashed := fun _ _ h => absurd h (by simp [StaPriv.init])
      aid_ap := fun _ _ => rfl }

/-- An access point that starts. -/
def init (beacon : Beacon) : ApState := ⟨StaPriv.init, MlmePriv.init beacon⟩

end ApState

/-- The table as it should be: each entry is in the free queue or in the bucket of its own
address, in one of them and once; the counters count; no address is hashed twice; and an entry
in the free queue is in no other list. -/
structure TableOk (s : StaPriv) : Prop where
  onePlace : ∀ i, i ∈ s.freeStaQueue ↔ ¬ s.Hashed i
  ownBucket : ∀ index, ∀ i ∈ s.staHash index, index = wifiMacHash (s.sta i).macAddr
  once : s.freeStaQueue.Nodup ∧ ∀ index, (s.staHash index).Nodup
  asocStaCount : s.asocStaCount = tally fun i => decide (s.Hashed i)
  unique : ∀ i j, s.Hashed i → s.Hashed j → (s.sta i).macAddr = (s.sta j).macAddr → i = j
  freed : ∀ i ∈ s.freeStaQueue,
    i ∉ s.authList ∧ i ∉ s.asocList ∧ ∀ aid, s.staAid aid ≠ some i
  authListCnt : s.authListCnt.toNat = s.authList.length
  asocListCnt : s.asocListCnt.toNat = s.asocList.length

/-- All entries that are not free are hashed, and counted. -/
lemma StaPriv.Placed.asocStaCount {t : StaPriv} (h : t.Placed) :
    t.asocStaCount = tally fun i => decide (t.Hashed i) := by
  have hsplit : (Finset.univ.filter fun i => decide (t.Hashed i) = true) =
      Finset.univ \ t.freeStaQueue.toFinset := by
    ext i
    simp [h.mem_free]
  have hcard : (Finset.univ \ t.freeStaQueue.toFinset).card = numSta - t.freeStaQueue.length := by
    rw [Finset.card_sdiff_of_subset (Finset.subset_univ _), Finset.card_univ, Fintype.card_fin,
      List.toFinset_card_of_nodup h.free_nodup]
  have hle : t.freeStaQueue.length ≤ numSta := by simpa using h.free_nodup.length_le_card
  have hcount := h.count
  rw [tally, hsplit, hcard]
  omega

namespace ApState

lemma InOrder.tableOk {t : StaPriv} (h : InOrder cfg t) : TableOk t where
  onePlace := h.placed.mem_free
  ownBucket := h.placed.mem_bucket
  once := ⟨h.placed.free_nodup, h.placed.bucket_nodup⟩
  asocStaCount := StaPriv.Placed.asocStaCount h.placed
  unique := h.tidy.unique
  freed := fun i hi =>
    have hout := (h.placed.mem_free i).1 hi
    ⟨fun hauth => hout (h.placed.auth.hashed i hauth),
      fun hasoc => hout (h.tidy.asoc.hashed i hasoc),
      fun aid haid => hout (h.tidy.aid_hashed aid i haid).1⟩
  authListCnt := h.placed.auth.cnt
  asocListCnt := h.tidy.asoc.cnt

/-- After every run of an access point in which no entry is freed that is linked in
`asoc_list`, and none is taken for an address that is hashed, the table is as it should be. -/
theorem tableOk_final (cfg : ApConfig) (beacon : Beacon) (es : List StaEvent)
    (hok : Lib.Machine.Along (step cfg) (TableStepOk cfg) (init beacon) es) :
    TableOk (Lib.Machine.final (step cfg) (init beacon) es).stapriv :=
  have h : InOrder cfg (Lib.Machine.final (step cfg) (init beacon) es).stapriv :=
    Lib.Machine.final_induction (I := fun s => InOrder cfg s.stapriv)
      (fun _ e hok h => inOrder_step e hok h) (inOrder_init cfg) hok
  h.tableOk

/-- An authentication frame that frees a station with a key leaves it in `asoc_list`. -/
lemma not_tableOk_of_auth {s : ApState} (h : s.stapriv.Associated f.sa i)
    (hno : ¬ s.stapriv.AuthPasses cfg env f (s.stapriv.sta i)) :
    ¬ TableOk (s.step cfg (.auth env f)).1.stapriv := fun hok =>
  have hfreed := h.freed hno
  (hok.freed i hfreed.1).2.1 hfreed.2

/-! ### One station -/

open StaPriv (peerMac wpaConfig quietEnv peerAuth)

/-- An association request of the station, with protected management frames or not. -/
def peerAssoc (mfp : Bool) : AssocReq where
  sa := peerMac
  longEnough := true
  forceAsocFail := false
  elemsOk := true
  capability := 0x0420
  ssidOk := true
  rateSet := [0x82, 0x84, 0x8b, 0x96, 0x6c]
  setsMfp := mfp
  securityOk := true
  tkip := false
  htCapInfo := some 0x0012
  p2pRefused := false

end ApState

/-- The beacon of a network without stations. -/
def emptyBeacon : Beacon where
  erpInfo := some 0
  htInfo := some ⟨0, false, 0⟩
  tim := fun _ => false

namespace ApState

open StaPriv (peerMac wpaConfig quietEnv peerAuth)

/-- The station comes, gets its key, and leaves. -/
def visitEvents : List StaEvent :=
  [.alloc bcAddr, .auth quietEnv (peerAuth 0 1), .assocReq (peerAssoc true),
    .keyInstalled peerMac, .leave peerMac, .free peerMac, .freeAll]

theorem tableOk_final_of_visitEvents : TableOk (Lib.Machine.final (step wpaConfig)
    (init emptyBeacon) visitEvents).stapriv :=
  tableOk_final wpaConfig emptyBeacon visitEvents (by decide +kernel)

/-- The station comes and gets its key. -/
def keyedEvents : List StaEvent :=
  [.alloc bcAddr, .auth quietEnv (peerAuth 0 1), .assocReq (peerAssoc true),
    .keyInstalled peerMac]

/-- An authentication frame out of sequence in the name of the station: its entry is in the
free queue and in `asoc_list`. -/
theorem tableOk_final_not_of_keyedEvents : ¬ ∀ (cfg : ApConfig) (beacon : Beacon)
    (es : List StaEvent), TableOk (Lib.Machine.final (step cfg) (init beacon) es).stapriv := by
  intro h
  have hsa : (peerAuth 0 2).sa = peerMac := by decide +kernel
  have hassociated : (Lib.Machine.final (step wpaConfig) (init emptyBeacon)
      keyedEvents).stapriv.Associated peerMac 1 := by decide +kernel
  rw [← hsa] at hassociated
  have hforged : ¬ (Lib.Machine.final (step wpaConfig) (init emptyBeacon)
      keyedEvents).stapriv.AuthPasses wpaConfig quietEnv (peerAuth 0 2)
        ((Lib.Machine.final (step wpaConfig) (init emptyBeacon) keyedEvents).stapriv.sta 1) := by
    decide +kernel
  have hok := h wpaConfig emptyBeacon (keyedEvents ++ [.auth quietEnv (peerAuth 0 2)])
  rw [Lib.Machine.final_concat] at hok
  exact not_tableOk_of_auth hassociated hforged hok

end ApState

end Rtl8723du
