import Rtl8723du.Sta.TableRun

/-!
# What an event does to the authentication of a station

`SameAuth` relates two versions of an entry between which nothing of its authentication went
forward.  Every event but an authentication frame leaves each entry so, or clears it
(`authQuiet_step`).
-/

namespace Rtl8723du

open Lib.Links

variable {s s' s'' : StaPriv} {cfg : ApConfig} {i j : Fin numSta}

/-- The part of an entry that `OnAuth` decides on is the same; `WIFI_FW_AUTH_SUCCESS` may have gone
and a key may have come. -/
structure Sta.SameAuth (x y : Sta) : Prop where
  macAddr : y.macAddr = x.macAddr
  authSeq : y.authSeq = x.authSeq
  chgTxt : y.chgTxt = x.chgTxt
  success : y.state.authSuccess = true → x.state.authSuccess = true
  keyed : x.mfpKeyed = true → y.mfpKeyed = true

lemma Sta.SameAuth.refl (x : Sta) : x.SameAuth x := ⟨rfl, rfl, rfl, id, id⟩

lemma Sta.SameAuth.trans {x y z : Sta} (h : x.SameAuth y) (h' : y.SameAuth z) : x.SameAuth z :=
  ⟨h'.macAddr.trans h.macAddr, h'.authSeq.trans h.authSeq, h'.chgTxt.trans h.chgTxt,
    fun hz => h.success (h'.success hz), fun hx => h'.keyed (h.keyed hx)⟩

/-- An entry at the start of its authentication. -/
def Sta.AuthFresh (x : Sta) : Prop := x.authSeq = 0 ∧ x.state.authSuccess = false

/-- The entry is the same to `OnAuth`, or starts anew. -/
def Sta.AuthKept (x y : Sta) : Prop := x.SameAuth y ∨ y.AuthFresh

lemma Sta.AuthKept.trans {x y z : Sta} (h : x.AuthKept y) (h' : y.AuthKept z) : x.AuthKept z := by
  rcases h' with hsame | hfresh
  · rcases h with hxy | hfresh
    · exact .inl (hxy.trans hsame)
    · refine .inr ⟨hsame.authSeq.trans hfresh.1, ?_⟩
      rw [← Bool.not_eq_true]
      intro hz
      exact absurd (hfresh.2.symm.trans (hsame.success hz)) (by decide)
  · exact .inr hfresh

namespace StaPriv

/-- No entry went forward. -/
def AuthQuiet (s s' : StaPriv) : Prop := ∀ i, (s.sta i).AuthKept (s'.sta i)

lemma AuthQuiet.refl (s : StaPriv) : AuthQuiet s s := fun _ => .inl (.refl _)

lemma AuthQuiet.trans (h : AuthQuiet s s') (h' : AuthQuiet s' s'') : AuthQuiet s s'' :=
  fun i => (h i).trans (h' i)

/-- The entries are the same. -/
lemma authQuiet_of_sta (h : s'.sta = s.sta) : AuthQuiet s s' := by
  intro i
  rw [h]
  exact .inl (.refl _)

/-- One entry is written. -/
lemma Writes.authQuiet {g : Sta → Sta} (h : Writes s s' i g)
    (hg : (s.sta i).AuthKept (g (s.sta i))) : AuthQuiet s s' := by
  intro j
  rw [h j]
  split
  · next hji =>
      rw [hji]
      exact hg
  · exact .inl (.refl _)

lemma authQuiet_modify {g : Sta → Sta} (hg : (s.sta i).SameAuth (g (s.sta i))) :
    AuthQuiet s (s.modify i g) := (writes_modify s i g).authQuiet (.inl hg)

/-! ### The table -/

lemma authQuiet_allocStainfo (s : StaPriv) (hwaddr : MacAddr) :
    AuthQuiet s (s.allocStainfo hwaddr).1 := by
  cases hq : s.freeStaQueue with
  | nil =>
      rw [allocStainfo_nil hq]
      exact .refl s
  | cons i rest =>
      rw [allocStainfo_cons hq]
      exact (writes_alloc s i rest hwaddr).authQuiet (.inr ⟨rfl, rfl⟩)

lemma authQuiet_freeStainfo (s : StaPriv) (cfg : ApConfig) (i : Fin numSta) :
    AuthQuiet s (s.freeStainfo cfg i) := by
  have hunlinked : AuthQuiet s (s.freeUnlinked i) :=
    (writes_freeUnlinked s i).authQuiet (.inl ⟨rfl, rfl, rfl, id, id⟩)
  rw [freeStainfo_eq]
  cases cfg.apState with
  | false => exact hunlinked
  | true =>
      exact hunlinked.trans
        ((writes_aidRelease (s.freeUnlinked i) i).authQuiet (.inl ⟨rfl, rfl, rfl, id, id⟩))

lemma authQuiet_freeEach (cfg : ApConfig) (l : List (Fin numSta)) (s : StaPriv) :
    AuthQuiet s (s.freeEach cfg l) := by
  induction l generalizing s with
  | nil => exact .refl s
  | cons i l ih => exact (authQuiet_freeStainfo s cfg i).trans (ih _)

lemma authQuiet_freeAllStainfo (s : StaPriv) (cfg : ApConfig) :
    AuthQuiet s (s.freeAllStainfo cfg) := by
  rw [freeAllStainfo_eq]
  split
  · exact .refl s
  · exact authQuiet_freeEach cfg _ s

lemma authQuiet_stadelEvent (s : StaPriv) (cfg : ApConfig) (hwaddr : MacAddr) :
    AuthQuiet s (s.stadelEvent cfg hwaddr) := by
  rw [stadelEvent]
  cases s.getStainfo hwaddr with
  | none => exact .refl s
  | some i => exact authQuiet_freeStainfo s cfg i

lemma authQuiet_authExpire (s : StaPriv) (cfg : ApConfig) (i : Fin numSta) :
    AuthQuiet s (s.authExpire cfg i) := by
  rw [authExpire]
  split
  · exact authQuiet_freeStainfo s cfg i
  · exact .refl s

lemma authQuiet_keyInstalled (s : StaPriv) (hwaddr : MacAddr) :
    AuthQuiet s (s.keyInstalled hwaddr) := by
  rw [keyInstalled]
  cases s.getStainfo hwaddr with
  | none => exact .refl s
  | some i =>
      refine authQuiet_modify ⟨rfl, rfl, rfl, id, fun hkeyed => ?_⟩
      rw [Sta.mfpKeyed, Bool.and_eq_true] at hkeyed
      rw [Sta.mfpKeyed, Bool.and_eq_true]
      exact ⟨hkeyed.1, rfl⟩

end StaPriv

/-! ### Association -/

namespace ApState

open StaPriv

variable {s : ApState}

lemma CapStep.sameAuth {x x' : CapState} (h : CapStep x x') : x.2.SameAuth x'.2 := by
  obtain ⟨c, b, hsta⟩ := h.sta
  rw [hsta]
  exact ⟨rfl, rfl, rfl, id, id⟩

/-- The parser never takes MFP back. -/
lemma assocParse_sameAuth (cfg : BssConfig) (req : AssocReq) (sta : Sta) :
    sta.SameAuth (assocParse cfg req sta).1 := by
  have hor (x : Sta) (m : Bool) (hx : x.mfpKeyed = true) :
      ((x.flags.mfp || m) && x.bpairwiseKeyInstalled) = true := by
    rw [Sta.mfpKeyed, Bool.and_eq_true] at hx
    rw [hx.1, hx.2, Bool.true_or, Bool.and_true]
  unfold assocParse
  split
  · exact .refl sta
  · simp only
    split
    · exact ⟨rfl, rfl, rfl, id, id⟩
    · unfold rtwApParseStaSupportedRates
      cases hrates : req.rateSet with
      | nil => exact ⟨rfl, rfl, rfl, id, id⟩
      | cons rate rates =>
          simp only [reduceCtorEq, if_false]
          split
          · exact ⟨rfl, rfl, rfl, id, hor sta req.setsMfp⟩
          · unfold rtwApParseStaHtIe
            split <;> exact ⟨rfl, rfl, rfl, id, hor sta req.setsMfp⟩

/-- The request takes `WIFI_FW_AUTH_SUCCESS`, and never sets it. -/
lemma assocStart_sameAuth (sta : Sta) : sta.SameAuth (assocStart sta) := by
  refine ⟨rfl, rfl, rfl, ?_, id⟩
  rw [assocStart]
  split
  · intro h
    exact absurd (show false = true from h) Bool.false_ne_true
  · exact id

lemma authQuiet_bssJoin (bss : BssConfig) (s : ApState) (i : Fin numSta) :
    AuthQuiet s.stapriv (bssCapUpdateOnStaJoin bss s i).1.stapriv := by
  rw [bssCapUpdateOnStaJoin_stapriv]
  exact authQuiet_modify (g := fun _ => _)
    (CapStep.sameAuth (capStep_joinCaps bss s.stapriv.timBitmap (s.mlme, s.stapriv.sta i)))

lemma authQuiet_bssLeave (bss : BssConfig) (s : ApState) (i : Fin numSta) :
    AuthQuiet s.stapriv (bssCapUpdateOnStaLeave bss s i).1.stapriv := by
  rw [bssCapUpdateOnStaLeave_stapriv]
  refine (authQuiet_of_sta (leaveTim_sta bss s i)).trans ?_
  exact authQuiet_modify (g := fun _ => _)
    (CapStep.sameAuth (capStep_leaveCaps bss (leaveTim bss s i).stapriv.timBitmap
      ((leaveTim bss s i).mlme, (leaveTim bss s i).stapriv.sta i)))

lemma authQuiet_assocJoin (cfg : ApConfig) (s : ApState) (i : Fin numSta) :
    AuthQuiet s.stapriv (assocJoin cfg s i).1.stapriv := by
  have hdone : AuthQuiet s.stapriv (s.modifySta i assocDone).stapriv :=
    authQuiet_modify ⟨rfl, rfl, rfl, id, id⟩
  unfold assocJoin
  simp only
  split
  · exact hdone
  · set t := (s.modifySta i assocDone).stapriv
    have hunlink : AuthQuiet t (t.authUnlink i) :=
      (writes_authUnlink t i).authQuiet (.inl ⟨rfl, rfl, rfl, id, id⟩)
    have hlink : AuthQuiet (t.authUnlink i) ((t.authUnlink i).asocLink i) :=
      (writes_asocLink _ i).authQuiet (.inl ⟨rfl, rfl, rfl, id, id⟩)
    have hjoin := authQuiet_bssJoin cfg.bss ⟨(t.authUnlink i).asocLink i, s.mlme⟩ i
    refine (hdone.trans hunlink).trans ((hlink.trans hjoin).trans ?_)
    exact authQuiet_modify (g := (·.setAsoc true)) ⟨rfl, rfl, rfl, id, id⟩

lemma authQuiet_assocAid (cfg : ApConfig) (t : StaPriv) (i : Fin numSta) :
    AuthQuiet t (assocAid cfg t i).1 := by
  unfold assocAid
  split
  · exact .refl t
  · exact (writes_aidAlloc t cfg i).authQuiet (.inl ⟨rfl, rfl, rfl, id, id⟩)

lemma authQuiet_onAssocReq (cfg : ApConfig) (s : ApState) (req : AssocReq) :
    AuthQuiet s.stapriv (onAssocReq cfg s req).1.stapriv := by
  rcases onAssocReq_cases cfg s req with hsame | ⟨i, -, -, hcases⟩
  · rw [hsame]
    exact .refl _
  · have hparsed : AuthQuiet s.stapriv (s.modifySta i fun _ =>
        (assocParse cfg.bss req (assocStart (s.stapriv.sta i))).1).stapriv :=
      authQuiet_modify (s := s.stapriv) (i := i) (g := fun _ => _)
        ((assocStart_sameAuth (s.stapriv.sta i)).trans
          (assocParse_sameAuth cfg.bss req (assocStart (s.stapriv.sta i))))
    have haid := authQuiet_assocAid cfg (s.modifySta i fun _ =>
        (assocParse cfg.bss req (assocStart (s.stapriv.sta i))).1).stapriv i
    rcases hcases with hres | hres | ⟨-, hres⟩
    · rw [hres]
      exact hparsed
    · rw [hres]
      exact hparsed.trans haid
    · rw [hres]
      exact (hparsed.trans haid).trans (authQuiet_assocJoin cfg ⟨_, s.mlme⟩ i)

lemma authQuiet_leave (cfg : ApConfig) (s : ApState) (hwaddr : MacAddr) :
    AuthQuiet s.stapriv (leave cfg s hwaddr).1.stapriv := by
  unfold leave
  cases s.stapriv.getStainfo hwaddr with
  | none => exact .refl _
  | some i =>
      simp only
      split
      · have hunlink : AuthQuiet s.stapriv (s.stapriv.asocUnlink i) :=
          (writes_asocUnlink s.stapriv i).authQuiet (.inl ⟨rfl, rfl, rfl, id, id⟩)
        have hasoc : AuthQuiet (s.stapriv.asocUnlink i)
            ((s.stapriv.asocUnlink i).modify i (·.setAsoc false)) :=
          authQuiet_modify ⟨rfl, rfl, rfl, id, id⟩
        exact (hunlink.trans hasoc).trans (authQuiet_bssLeave cfg.bss
          ⟨(s.stapriv.asocUnlink i).modify i (·.setAsoc false), s.mlme⟩ i)
      · exact .refl _

/-- Only an authentication frame takes a station forward. -/
lemma authQuiet_step (cfg : ApConfig) (s : ApState) {e : StaEvent}
    (he : ∀ env f, e ≠ .auth env f) : AuthQuiet s.stapriv (s.step cfg e).1.stapriv := by
  cases e with
  | alloc hwaddr => exact authQuiet_allocStainfo s.stapriv hwaddr
  | free hwaddr => exact authQuiet_stadelEvent s.stapriv cfg hwaddr
  | freeAll => exact authQuiet_freeAllStainfo s.stapriv cfg
  | authExpired i => exact authQuiet_authExpire s.stapriv cfg i
  | auth env f => exact absurd rfl (he env f)
  | assocReq req => exact authQuiet_onAssocReq cfg s req
  | leave hwaddr => exact authQuiet_leave cfg s hwaddr
  | keyInstalled hwaddr => exact authQuiet_keyInstalled s.stapriv hwaddr
  | tim aid on => exact authQuiet_of_sta rfl

end ApState

end Rtl8723du
