import Rtl8723du.Sta.Flags

/-!
# The counters over runs

Each counter of the access point is the number of stations that joined, did not depart, and
had the property at their latest association.  The flags of the entries carry this from one
event to the next (`CapInv`).  Two things break it: an entry that is freed with a flag set,
and a station that associates again as able to do HT greenfield or 40 MHz, or without HT,
whose flag is not cleared.
-/

namespace Rtl8723du

open Lib.Links

instance : Fintype CapProp where
  elems := {.noShortPreamble, .nonErp, .noShortSlotTime, .noHt, .htNoGf, .ht20mhz}
  complete := fun p => by cases p <;> decide

variable {cfg : ApConfig} {env : AuthEnv} {f : RxFrame} {i j : Fin numSta} {hwaddr : MacAddr}
  {p : CapProp}

namespace StaPriv

variable {s s' : StaPriv}

/-- The flags of a property stay, and only entries without it become free. -/
structure CapSafe (p : CapProp) (s s' : StaPriv) : Prop where
  capSet : ∀ i, (s'.sta i).capSet p = (s.sta i).capSet p
  free : ∀ i ∈ s'.freeStaQueue, i ∈ s.freeStaQueue ∨ (s.sta i).capSet p = false

lemma FlagSafe.capSafe (h : FlagSafe p.flag s s') : CapSafe p s s' := ⟨h.has, h.free⟩

end StaPriv

/-- The property is one that a station is never taken out of while it is associated. -/
def CapProp.IsKept (p : CapProp) : Prop := p = .htNoGf ∨ p = .ht20mhz

instance (p : CapProp) : Decidable p.IsKept := by
  unfold CapProp.IsKept
  infer_instance

namespace ApState

/-- The condition on an event, for one property: no entry is freed that is counted for it, and
no station that is let in again is now to be out of a counter that it is never taken out of. -/
def CapStepOk (cfg : ApConfig) (p : CapProp) (s : ApState) : StaEvent → Prop
  | .free hwaddr => ∀ i ∈ s.stapriv.getStainfo hwaddr, (s.stapriv.sta i).capSet p = false
  | .freeAll =>
      s.stapriv.asocStaCount = 1 ∨
        ∀ i ∈ s.stapriv.freeStaList, (s.stapriv.sta i).capSet p = false
  | .authExpired i => i ∈ s.stapriv.authList → (s.stapriv.sta i).capSet p = false
  | .auth env f =>
      ∀ i ∈ s.stapriv.getStainfo f.sa,
        s.stapriv.AuthPasses cfg env f (s.stapriv.sta i) ∨ (s.stapriv.sta i).capSet p = false
  | .assocReq req =>
      p.IsKept → ∀ i, Grants cfg s req i → (s.stapriv.sta i).capSet p = true →
        capsOf cfg.bss (parsed cfg s req i) p = true
  | _ => True

instance decidableCapStepOk (cfg : ApConfig) (p : CapProp) (s : ApState) :
    (e : StaEvent) → Decidable (CapStepOk cfg p s e)
  | .free hwaddr => inferInstanceAs (Decidable
      (∀ i ∈ s.stapriv.getStainfo hwaddr, (s.stapriv.sta i).capSet p = false))
  | .freeAll => inferInstanceAs (Decidable (s.stapriv.asocStaCount = 1 ∨
      ∀ i ∈ s.stapriv.freeStaList, (s.stapriv.sta i).capSet p = false))
  | .authExpired i => inferInstanceAs (Decidable
      (i ∈ s.stapriv.authList → (s.stapriv.sta i).capSet p = false))
  | .auth env f => inferInstanceAs (Decidable (∀ i ∈ s.stapriv.getStainfo f.sa,
      s.stapriv.AuthPasses cfg env f (s.stapriv.sta i) ∨ (s.stapriv.sta i).capSet p = false))
  | .assocReq req => inferInstanceAs (Decidable (p.IsKept → ∀ i, Grants cfg s req i →
      (s.stapriv.sta i).capSet p = true → capsOf cfg.bss (parsed cfg s req i) p = true))
  | .alloc _ | .leave _ | .keyInstalled _ | .tim _ _ => .isTrue trivial

end ApState

namespace StaPriv

variable {s : StaPriv} {m : MlmePriv} {e : StaEvent}

/-- An event that is all right for a property frees no entry with its flag. -/
lemma freesNone_of_capStepOk (hok : ApState.CapStepOk cfg p ⟨s, m⟩ e) :
    FreesNone p.flag cfg s e := by
  cases e with
  | free hwaddr => exact hok
  | freeAll => exact hok
  | authExpired i => exact hok
  | auth env f => exact hok
  | _ => trivial

lemma capSafe_step (hfree : ∀ i ∈ s.freeStaQueue, (s.sta i).capSet p = false)
    (hok : ApState.CapStepOk cfg p ⟨s, m⟩ e) : CapSafe p s (s.step cfg e) :=
  (flagSafe_step hfree (freesNone_of_capStepOk hok)).capSafe

end StaPriv

/-! ### One station joins or leaves -/

lemma CapStep.capsOf {bss : BssConfig} {x x' : CapState} (h : CapStep x x') :
    capsOf bss x'.2 = capsOf bss x.2 := by
  obtain ⟨c, b, hsta⟩ := h.sta
  rw [hsta]
  funext p
  cases p <;> rfl

/-- The flag of a station that joins says what it is to be counted for. -/
lemma joinCaps_capSet_eq {bss : BssConfig} (timBitmap : ℕ → Bool) (x : CapState)
    (hkept : p.IsKept → x.2.capSet p = true → capsOf bss x.2 p = true)
    (hnoHt : p = .noHt → bss.htSupported = false → x.2.capSet p = false) :
    (joinCaps bss timBitmap x).1.2.capSet p = capsOf bss x.2 p := by
  rw [joinCaps_capSet]
  cases p with
  | noShortPreamble => rfl
  | nonErp => rfl
  | noShortSlotTime => rfl
  | noHt =>
      cases hht : bss.htSupported with
      | true => simp [capsOf, hht]
      | false => simp [capsOf, hht, hnoHt rfl hht]
  | htNoGf =>
      have hgf := hkept (Or.inl rfl)
      show (capsOf bss x.2 .htNoGf || x.2.capSet .htNoGf) = capsOf bss x.2 .htNoGf
      cases hset : x.2.capSet .htNoGf with
      | true => rw [hgf hset, Bool.or_true]
      | false => rw [Bool.or_false]
  | ht20mhz =>
      have hwidth := hkept (Or.inr rfl)
      show (capsOf bss x.2 .ht20mhz || x.2.capSet .ht20mhz) = capsOf bss x.2 .ht20mhz
      cases hset : x.2.capSet .ht20mhz with
      | true => rw [hwidth hset, Bool.or_true]
      | false => rw [Bool.or_false]

namespace ApState

variable {s s' s'' : ApState} {bss : BssConfig}

/-- The flags of one station and the counters are written, and they go together. -/
structure CapWrite (s s' : ApState) (i : Fin numSta) : Prop where
  free : ∀ j ∈ s'.stapriv.freeStaQueue, j ∈ s.stapriv.freeStaQueue
  others : ∀ j, j ≠ i → (s'.stapriv.sta j).capSet = (s.stapriv.sta j).capSet
  balance : ∀ p, s'.mlme.num p - share ((s'.stapriv.sta i).capSet p) =
    s.mlme.num p - share ((s.stapriv.sta i).capSet p)

lemma sendBeacon_num (bss : BssConfig) (s : ApState) (beaconUpdated : Bool) :
    (sendBeacon bss s beaconUpdated).1.mlme.num = s.mlme.num := by
  unfold sendBeacon
  split
  · exact updateBeacon_num ..
  · rfl

/-- The free queue, the flags and the counters stay. -/
structure SameCaps (s s' : ApState) : Prop where
  free : s'.stapriv.freeStaQueue = s.stapriv.freeStaQueue
  capSet : ∀ j, (s'.stapriv.sta j).capSet = (s.stapriv.sta j).capSet
  mlme : s'.mlme = s.mlme

lemma SameCounted.sameCaps (h : SameCounted s s') : SameCaps s s' :=
  ⟨h.free, fun j => congrArg Prod.fst (h.counted j), h.mlme⟩

/-- What is written before, of other parts of the state. -/
lemma CapWrite.of_sameCaps {t : ApState} (h : CapWrite s s' i) (hsame : SameCaps t s) :
    CapWrite t s' i where
  free := fun j hj => hsame.free ▸ h.free j hj
  others := fun j hj => (h.others j hj).trans (hsame.capSet j)
  balance := fun p => by rw [h.balance, hsame.capSet, hsame.mlme]

/-- What is written afterwards, of other members of the entry. -/
lemma CapWrite.modifySta (h : CapWrite s s' i) {g : Sta → Sta}
    (hg : (g (s'.stapriv.sta i)).capSet = (s'.stapriv.sta i).capSet) :
    CapWrite s (s'.modifySta i g) i := by
  have hcaps := (StaPriv.writes_modify s'.stapriv i g).same Sta.capSet hg
  refine ⟨h.free, fun j hj => (hcaps j).trans (h.others j hj), fun p => ?_⟩
  have hbalance := h.balance p
  rw [← hcaps i] at hbalance
  exact hbalance

/-- The entry of the station is written as a step of the counters leaves it. -/
lemma capWrite_sendBeacon {x : CapState} (h : CapStep (s.mlme, s.stapriv.sta i) x)
    (beaconUpdated : Bool) :
    CapWrite s (sendBeacon bss ⟨s.stapriv.modify i fun _ => x.2, x.1⟩ beaconUpdated).1 i := by
  have hw := StaPriv.writes_modify s.stapriv i fun _ => x.2
  refine ⟨fun j hj => ?_, fun j hj => ?_, fun p => ?_⟩
  · rw [sendBeacon_stapriv] at hj
    exact hj
  · rw [sendBeacon_stapriv, hw j, if_neg hj]
  · rw [sendBeacon_stapriv, sendBeacon_num, hw i, if_pos rfl]
    exact h.balance p

lemma capWrite_join (bss : BssConfig) (s : ApState) (i : Fin numSta) :
    CapWrite s (bssCapUpdateOnStaJoin bss s i).1 i :=
  capWrite_sendBeacon (capStep_joinCaps bss s.stapriv.timBitmap _) _

lemma leaveTim_num (bss : BssConfig) (s : ApState) (i : Fin numSta) :
    (leaveTim bss s i).mlme.num = s.mlme.num := by
  unfold leaveTim
  simp only
  split
  · exact updateBeacon_num ..
  · rfl

lemma leaveTim_freeStaQueue (bss : BssConfig) (s : ApState) (i : Fin numSta) :
    (leaveTim bss s i).stapriv.freeStaQueue = s.stapriv.freeStaQueue := by
  rcases leaveTim_stapriv bss s i with h | h
  · rw [h]
  · rw [h]
    rfl

lemma capWrite_leave (bss : BssConfig) (s : ApState) (i : Fin numSta) :
    CapWrite s (bssCapUpdateOnStaLeave bss s i).1 i := by
  have hleave : CapWrite (leaveTim bss s i) (bssCapUpdateOnStaLeave bss s i).1 i :=
    capWrite_sendBeacon (capStep_leaveCaps bss (leaveTim bss s i).stapriv.timBitmap _) _
  refine ⟨fun j hj => ?_, fun j hj => ?_, fun p => ?_⟩
  · exact leaveTim_freeStaQueue bss s i ▸ hleave.free j hj
  · rw [hleave.others j hj, leaveTim_sta]
  · rw [hleave.balance, leaveTim_sta, leaveTim_num]

lemma capsOf_congr {x y : Sta} (h : y.abilities = x.abilities) : capsOf bss y = capsOf bss x := by
  obtain ⟨hflags, hht, hcap⟩ : y.flags = x.flags ∧ y.htCapInfo = x.htCapInfo ∧
      y.capability = x.capability := by
    simpa [Sta.abilities] using h
  funext p
  cases p <;> simp only [capsOf, Sta.noShortSlot, Sta.noGf, Sta.only20mhz, hflags, hht, hcap]

/-- What a request comes to: nothing for the counters, or a station is let in, after nothing
but other parts of the state was written. -/
lemma onAssocReq_caps (cfg : ApConfig) (s : ApState) (req : AssocReq) :
    (SameCaps s (onAssocReq cfg s req).1 ∧ (onAssocReq cfg s req).2 = []) ∨
      ∃ i t, Grants cfg s req i ∧ SameCaps s t ∧
        capsOf cfg.bss (t.stapriv.sta i) = capsOf cfg.bss (parsed cfg s req i) ∧
        onAssocReq cfg s req =
          ((bssCapUpdateOnStaJoin cfg.bss t i).1.modifySta i (·.setAsoc true),
            .joined i :: (bssCapUpdateOnStaJoin cfg.bss t i).2) := by
  rcases onAssocReq_counted cfg s req with
    ⟨hsame, hout⟩ | ⟨i, t, hgrants, hsame, habilities, hres⟩
  · exact Or.inl ⟨hsame.sameCaps, hout⟩
  · exact Or.inr ⟨i, t, hgrants, hsame.sameCaps, capsOf_congr habilities, hres⟩

/-- What a departure comes to. -/
lemma leave_caps (cfg : ApConfig) (s : ApState) (hwaddr : MacAddr) :
    leave cfg s hwaddr = (s, []) ∨
      ∃ i t, s.stapriv.getStainfo hwaddr = some i ∧ (s.stapriv.sta i).asocLinked = true ∧
        SameCaps s t ∧ t.stapriv.timBitmap = s.stapriv.timBitmap ∧
        (t.stapriv.sta i).aid = (s.stapriv.sta i).aid ∧
        leave cfg s hwaddr = ((bssCapUpdateOnStaLeave cfg.bss t i).1,
          .left i :: (bssCapUpdateOnStaLeave cfg.bss t i).2) := by
  rcases leave_counted cfg s hwaddr with
    hnone | ⟨i, t, hfound, hlinked, hsame, htim, haid, hres⟩
  · exact Or.inl hnone
  · exact Or.inr ⟨i, t, hfound, hlinked, hsame.sameCaps, htim, haid, hres⟩

lemma bssCapUpdateOnStaJoin_capSet (t : ApState) (i : Fin numSta)
    (hkept : p.IsKept → (t.stapriv.sta i).capSet p = true →
      capsOf bss (t.stapriv.sta i) p = true)
    (hnoHt : p = .noHt → bss.htSupported = false → (t.stapriv.sta i).capSet p = false) :
    ((bssCapUpdateOnStaJoin bss t i).1.stapriv.sta i).capSet p =
      capsOf bss ((bssCapUpdateOnStaJoin bss t i).1.stapriv.sta i) p := by
  have hw := StaPriv.writes_modify t.stapriv i fun _ =>
    (joinCaps bss t.stapriv.timBitmap (t.mlme, t.stapriv.sta i)).1.2
  rw [bssCapUpdateOnStaJoin_stapriv, hw i, if_pos rfl]
  rw [(capStep_joinCaps bss t.stapriv.timBitmap (t.mlme, t.stapriv.sta i)).capsOf]
  exact joinCaps_capSet_eq t.stapriv.timBitmap (t.mlme, t.stapriv.sta i) hkept hnoHt

lemma bssCapUpdateOnStaLeave_capSet (bss : BssConfig) (p : CapProp) (t : ApState)
    (i : Fin numSta) :
    ((bssCapUpdateOnStaLeave bss t i).1.stapriv.sta i).capSet p = false := by
  have hw := StaPriv.writes_modify (leaveTim bss t i).stapriv i fun _ =>
    (leaveCaps bss (leaveTim bss t i).stapriv.timBitmap
      ((leaveTim bss t i).mlme, (leaveTim bss t i).stapriv.sta i)).1.2
  rw [bssCapUpdateOnStaLeave_stapriv, hw i, if_pos rfl]
  exact leaveCaps_capSet ..

end ApState

/-! ### Runs -/

namespace ApRun

variable {r : ApRun} {e : StaEvent}

/-- What a station that joined has, nothing if none did. -/
def has (r : ApRun) (i : Fin numSta) (p : CapProp) : Bool := (r.joined i).elim false (· p)

/-- The flags of a property are those of the stations that joined, and its counter is the
number of entries with the flag. -/
structure CapInv (cfg : ApConfig) (p : CapProp) (r : ApRun) : Prop where
  placed : r.ap.stapriv.Placed
  flags : ∀ i, (r.ap.stapriv.sta i).capSet p = r.has i p
  num : r.ap.mlme.num p = tally fun i => (r.ap.stapriv.sta i).capSet p
  free : ∀ i ∈ r.ap.stapriv.freeStaQueue, r.joined i = none
  noHt : p = .noHt → cfg.bss.htSupported = false → ∀ i, (r.ap.stapriv.sta i).capSet p = false

lemma CapInv.capSet_of_free (h : CapInv cfg p r) (hi : i ∈ r.ap.stapriv.freeStaQueue) :
    (r.ap.stapriv.sta i).capSet p = false := by
  rw [h.flags, has, h.free i hi]
  rfl

lemma step_ap (cfg : ApConfig) (r : ApRun) (e : StaEvent) :
    (r.step cfg e).1.ap = (r.ap.step cfg e).1 := rfl

lemma step_joined (cfg : ApConfig) (r : ApRun) (e : StaEvent) (i : Fin numSta) :
    (r.step cfg e).1.joined i =
      if i ∈ (r.ap.step cfg e).1.stapriv.freeStaQueue then none
      else (r.ap.step cfg e).2.foldl (record cfg.bss (r.ap.step cfg e).1) r.joined i := rfl

/-- The invariant over an event at which no station joins or leaves. -/
lemma CapInv.quiet (h : CapInv cfg p r)
    (hsafe : StaPriv.CapSafe p r.ap.stapriv (r.ap.step cfg e).1.stapriv)
    (hmlme : (r.ap.step cfg e).1.mlme = r.ap.mlme) (hout : (r.ap.step cfg e).2 = []) :
    CapInv cfg p (r.step cfg e).1 where
  placed := ApState.placed_step e h.placed
  flags := fun i => by
    rw [has, step_joined, hout, step_ap, hsafe.capSet]
    split
    · rename_i hfree
      rcases hsafe.free i hfree with hold | hno
      · exact h.capSet_of_free hold
      · exact hno
    · exact h.flags i
  num := by
    rw [step_ap, hmlme, h.num]
    exact congrArg tally (funext fun i => by rw [hsafe.capSet])
  free := fun i hi => by
    rw [step_joined]
    exact if_pos hi
  noHt := fun hp hht i => by
    rw [step_ap, hsafe.capSet]
    exact h.noHt hp hht i

lemma CapInv.same (h : CapInv cfg p r) (hsame : ApState.SameCaps r.ap (r.ap.step cfg e).1)
    (hout : (r.ap.step cfg e).2 = []) : CapInv cfg p (r.step cfg e).1 :=
  h.quiet ⟨fun i => congrFun (hsame.capSet i) p, fun _ hi => Or.inl (hsame.free ▸ hi)⟩
    hsame.mlme hout

/-- The invariant over an event at which one station joins, with the properties `c`, or
leaves. -/
lemma CapInv.write (h : CapInv cfg p r) (hw : ApState.CapWrite r.ap (r.ap.step cfg e).1 i)
    (hi : i ∉ (r.ap.step cfg e).1.stapriv.freeStaQueue) {c : Option (CapProp → Bool)}
    (hrecord : (r.ap.step cfg e).2.foldl (record cfg.bss (r.ap.step cfg e).1) r.joined =
      Function.update r.joined i c)
    (hflags : ((r.ap.step cfg e).1.stapriv.sta i).capSet p = c.elim false (· p))
    (hnoHt : p = .noHt → cfg.bss.htSupported = false →
      ((r.ap.step cfg e).1.stapriv.sta i).capSet p = false) :
    CapInv cfg p (r.step cfg e).1 where
  placed := ApState.placed_step e h.placed
  flags := fun j => by
    rw [has, step_joined, hrecord, step_ap]
    by_cases hji : j = i
    · rw [hji, if_neg hi, Function.update_self, hflags]
    · rw [Function.update_of_ne hji, hw.others j hji]
      split
      · rename_i hfree
        exact h.capSet_of_free (hw.free j hfree)
      · exact h.flags j
  num := by
    rw [step_ap]
    exact tally_eq_of_balance h.num (fun j hji => congrFun (hw.others j hji) p) (hw.balance p)
  free := fun j hj => by
    rw [step_joined]
    exact if_pos hj
  noHt := fun hp hht j => by
    rw [step_ap]
    by_cases hji : j = i
    · rw [hji]
      exact hnoHt hp hht
    · rw [hw.others j hji]
      exact h.noHt hp hht j

lemma capInv_assocReq {req : AssocReq} (h : CapInv cfg p r)
    (hok : ApState.CapStepOk cfg p r.ap (.assocReq req)) :
    CapInv cfg p (r.step cfg (.assocReq req)).1 := by
  rcases ApState.onAssocReq_caps cfg r.ap req with
    ⟨hsame, hout⟩ | ⟨i, t, hgrants, hsame, hcaps, hres⟩
  · exact h.same hsame hout
  · have hset := congrFun (hsame.capSet i) p
    have hkept (hp : p.IsKept) (hin : (t.stapriv.sta i).capSet p = true) :
        capsOf cfg.bss (t.stapriv.sta i) p = true := by
      rw [hcaps]
      exact hok hp i hgrants (hset ▸ hin)
    have hjoined := ApState.bssCapUpdateOnStaJoin_capSet t i hkept fun hp hht => by
      rw [hset, h.noHt hp hht]
    have hw := ((ApState.capWrite_join cfg.bss t i).of_sameCaps hsame).modifySta
      (g := (·.setAsoc true)) rfl
    have hasoc := StaPriv.writes_modify
      (ApState.bssCapUpdateOnStaJoin cfg.bss t i).1.stapriv i (·.setAsoc true)
    have hflags : (((ApState.bssCapUpdateOnStaJoin cfg.bss t i).1.modifySta i
          (·.setAsoc true)).stapriv.sta i).capSet p =
        capsOf cfg.bss (((ApState.bssCapUpdateOnStaJoin cfg.bss t i).1.modifySta i
          (·.setAsoc true)).stapriv.sta i) p :=
      (congrFun (hasoc.same Sta.capSet rfl i) p).trans
        (hjoined.trans (congrFun (hasoc.same (capsOf cfg.bss) rfl i).symm p))
    have hin : i ∉ r.ap.stapriv.freeStaQueue := fun hin =>
      (h.placed.mem_free i).1 hin (StaPriv.hashed_of_getStainfo h.placed hgrants.1)
    have hstep : r.ap.step cfg (.assocReq req) = _ := hres
    refine h.write (i := i) (c := some (capsOf cfg.bss
      ((r.ap.step cfg (.assocReq req)).1.stapriv.sta i))) ?_ ?_ ?_ ?_ ?_
    all_goals rw [hstep]
    · exact hw
    · exact fun hnow => hin (hw.free i hnow)
    · rw [List.foldl_cons]
      exact ApState.foldl_sendBeacon _ _ _ (fun _ => rfl) _
    · exact hflags
    · intro hp hht
      rw [hflags, hp]
      simp [capsOf, hht]

lemma capInv_leave (h : CapInv cfg p r) (hwaddr : MacAddr) :
    CapInv cfg p (r.step cfg (.leave hwaddr)).1 := by
  rcases ApState.leave_caps cfg r.ap hwaddr with hnone | ⟨i, t, hfound, -, hsame, -, -, hres⟩
  · have hstep : r.ap.step cfg (.leave hwaddr) = (r.ap, []) := hnone
    exact h.same (by rw [hstep]; exact (ApState.SameCounted.refl _).sameCaps) (by rw [hstep])
  · have hw := (ApState.capWrite_leave cfg.bss t i).of_sameCaps hsame
    have hno := ApState.bssCapUpdateOnStaLeave_capSet cfg.bss p t i
    have hin : i ∉ r.ap.stapriv.freeStaQueue := fun hin =>
      (h.placed.mem_free i).1 hin (StaPriv.hashed_of_getStainfo h.placed hfound)
    have hstep : r.ap.step cfg (.leave hwaddr) = _ := hres
    refine h.write (i := i) (c := none) ?_ ?_ ?_ ?_ ?_
    all_goals rw [hstep]
    · exact hw
    · exact fun hnow => hin (hw.free i hnow)
    · rw [List.foldl_cons]
      exact ApState.foldl_sendBeacon _ _ _ (fun _ => rfl) _
    · exact hno
    · exact fun _ _ => hno

lemma capInv_step (e : StaEvent) (hok : ApState.CapStepOk cfg p r.ap e) (h : CapInv cfg p r) :
    CapInv cfg p (r.step cfg e).1 := by
  rcases ApState.step_table cfg r.ap e with hstep | ⟨req, rfl⟩ | ⟨hwaddr, rfl⟩
  · have hsafe := StaPriv.capSafe_step (fun _ hi => h.capSet_of_free hi) hok
    exact h.quiet (by rw [hstep]; exact hsafe) (by rw [hstep]) (by rw [hstep])
  · exact capInv_assocReq h hok
  · exact capInv_leave h hwaddr

lemma capInv_init (cfg : ApConfig) (p : CapProp) (beacon : Beacon) :
    CapInv cfg p (init beacon) where
  placed := (ApState.inOrder_init cfg).placed
  flags := fun _ => rfl
  num := (tally_eq_zero_iff.2 fun _ => rfl).symm
  free := fun _ _ => rfl
  noHt := fun _ _ _ => rfl

/-- The counters as they should be: each is the number of stations that joined with the
property, and only a station that is in one of them is taken out. -/
structure CountersOk (r : ApRun) : Prop where
  num : ∀ p, r.ap.mlme.num p = tally fun i => r.has i p
  decrement : ∀ i p, (r.ap.stapriv.sta i).capSet p = true → 0 < r.ap.mlme.num p

lemma countersOk_of_capInv (h : ∀ p, CapInv cfg p r) : CountersOk r where
  num := fun p => (h p).num.trans (congrArg tally (funext fun i => (h p).flags i))
  decrement := fun i p hin => by
    rw [(h p).num]
    exact tally_pos_iff.2 ⟨i, hin⟩

/-- After every run in which no entry is freed that is counted for something, and no station
associates again that is now able to do HT greenfield or 40 MHz and was not, or is HT no more,
each counter is the number of stations that joined, did not depart, and have the property. -/
theorem countersOk_final (cfg : ApConfig) (beacon : Beacon) (es : List StaEvent)
    (hok : Lib.Machine.Along (step cfg) (fun r e => ∀ p, ApState.CapStepOk cfg p r.ap e)
      (init beacon) es) :
    CountersOk (Lib.Machine.final (step cfg) (init beacon) es) :=
  countersOk_of_capInv (Lib.Machine.final_induction (I := fun r => ∀ p, CapInv cfg p r)
    (fun _ e hok h p => capInv_step e (hok p) (h p)) (fun p => capInv_init cfg p beacon) hok)

/-! ### One station -/

open StaPriv (peerMac wpaConfig quietEnv peerAuth)
open ApState (peerAssoc)

/-- The request of an 802.11b station. -/
def legacyAssoc : AssocReq :=
  { peerAssoc false with capability := 0, rateSet := [0x82, 0x84, 0x8b, 0x96], htCapInfo := none }

/-- The station comes as an 802.11b one, then as an 802.11n one, and leaves. -/
def upgradeEvents : List StaEvent :=
  [.alloc bcAddr, .auth quietEnv (peerAuth 0 1), .assocReq legacyAssoc,
    .assocReq (peerAssoc false), .leave peerMac, .free peerMac]

theorem countersOk_final_of_upgradeEvents :
    CountersOk (Lib.Machine.final (step wpaConfig) (init emptyBeacon) upgradeEvents) :=
  countersOk_final wpaConfig emptyBeacon upgradeEvents (by decide +kernel)

/-- The request of an 802.11n station with the HT capabilities `capInfo`. -/
def htAssoc (capInfo : BitVec 16) : AssocReq :=
  { peerAssoc false with htCapInfo := some capInfo }

/-- The station comes without HT greenfield, and then with it. -/
def greenfieldEvents : List StaEvent :=
  [.alloc bcAddr, .auth quietEnv (peerAuth 0 1), .assocReq (htAssoc 0x0002),
    .assocReq (htAssoc 0x0012)]

/-- A station that associates again, now with HT greenfield, is still counted as one
without. -/
theorem countersOk_final_not_of_greenfieldEvents : ¬ ∀ (cfg : ApConfig) (beacon : Beacon)
    (es : List StaEvent), CountersOk (Lib.Machine.final (step cfg) (init beacon) es) := by
  intro h
  have hnum := (h wpaConfig emptyBeacon greenfieldEvents).num .htNoGf
  have hone : (Lib.Machine.final (step wpaConfig) (init emptyBeacon)
      greenfieldEvents).ap.mlme.num .htNoGf = 1 := by decide +kernel
  have hnone : ∀ i, (Lib.Machine.final (step wpaConfig) (init emptyBeacon)
      greenfieldEvents).has i .htNoGf = false := by decide +kernel
  rw [hone, tally_eq_zero_iff.2 hnone] at hnum
  exact absurd hnum (by decide)

end ApRun

end Rtl8723du
