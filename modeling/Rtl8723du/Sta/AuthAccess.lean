import Rtl8723du.Sta.AuthStep

/-!
# What `OnAuth` reads of a frame

`onAuthIn` is `OnAuth` with every access to the frame checked.  On the frame alone, without what is
behind it in its buffer, it gives what `OnAuth` gives exactly if the frame has the `authBytes` that
are read (`onAuthIn_eq`).
-/

namespace Rtl8723du

open Lib.Bytes StaPriv

/-! ### The accesses -/

/-- The frame in a buffer of its own. -/
def RxFrame.alone (f : RxFrame) : RxFrame where
  rxData := f.rxData.take f.len
  len := f.len
  len_le := by rw [List.length_take, Nat.min_eq_left f.len_le]

/-- An access to bytes of the frame; nothing when one of them is behind its end. -/
def RxFrame.access (f : RxFrame) (start count : ℕ) : Option Unit :=
  if start + count ≤ f.len then some () else none

/-- The accesses of `rtw_wep_decrypt`: the IV, and the body with the ICV. -/
def wepAccess (f : RxFrame) : Option Unit :=
  if getPrivacy f.rxData then
    (f.access wlanHdrA3Len 4).bind fun _ =>
      f.access (wlanHdrA3Len + 4) (f.len - (wlanHdrA3Len + 4))
  else some ()

/-- The accesses to the header and to the fixed fields. -/
def fixedAccess (env : AuthEnv) (f : RxFrame) : Option Unit :=
  (f.access 0 2).bind fun _ =>
    (wepAccess f).bind fun _ =>
      (f.access (wlanHdrA3Len + (authBody env f).2) 2).bind fun _ =>
        (f.access (wlanHdrA3Len + (authBody env f).2 + 2) 2).bind fun _ => f.access 10 6

/-- The accesses of the loop of `rtw_get_ie` to elements at `base` in the frame. -/
def rtwGetIeAccess (f : RxFrame) (base : ℕ) (pbuf : List UInt8) (index : UInt8) (limit : ℤ)
    (i : ℕ) : ℕ → Option Unit
  | 0 => some ()
  | turns + 1 =>
      (f.access (base + i) 2).bind fun _ =>
        if pbuf.getD i 0 = index then some ()
        else
          let next := i + (pbuf.getD (i + 1) 0).toNat + 2
          if limit ≤ next then some () else rtwGetIeAccess f base pbuf index limit next turns

/-- The elements of an authentication frame, as the search for the challenge takes them. -/
def authIes (env : AuthEnv) (f : RxFrame) : List UInt8 :=
  (authBody env f).1.drop (wlanHdrA3Len + 4 + 6)

/-- The number of bytes of the frame behind that place. -/
def authIesLen (f : RxFrame) : ℤ := f.len - wlanHdrA3Len - 6 - 4

/-- The accesses of the check of the challenge. -/
def challengeAccess (env : AuthEnv) (f : RxFrame) : Option Unit :=
  if authIesLen f < 1 then some ()
  else
    (rtwGetIeAccess f (wlanHdrA3Len + 4 + 6) (authIes env f) 16 (authIesLen f) 0
        (authIesLen f).toNat).bind fun _ =>
      match rtwGetIe (authIes env f) 16 (authIesLen f) with
      | none => some ()
      | some (p, ieLen) =>
          if ieLen = 0 then some () else f.access (wlanHdrA3Len + 4 + 6 + p + 2) 128

/-- The challenge is looked at in the third frame of the sequence. -/
def exchangeAccess (cfg : ApConfig) (env : AuthEnv) (f : RxFrame) (pstat : Sta) : Option Unit :=
  if authReported cfg (authAlgorithm env f) = false ∧ pstat.authSeq + 1 = authSeqNum env f ∧
      openSystem (authMode cfg (authAlgorithm env f)) (authAlgorithm env f) = false ∧
      authSeqNum env f = 3 then
    challengeAccess env f
  else some ()

/-- `OnAuth` with its accesses to the frame; nothing when one is not inside. -/
def StaPriv.onAuthIn (s : StaPriv) (cfg : ApConfig) (env : AuthEnv) (f : RxFrame) :
    Option (StaPriv × AuthOutcome) :=
  if cfg.apState = false ∨ cfg.mlmeIsAsoc = false then some (s, .notHandled)
  else
    (fixedAccess env f).bind fun _ =>
      if rtwCheckInvalidMacAddress f.sa false then some (s, .notHandled)
      else
        match s.authRefused cfg env f with
        | some status => some (s, .answered status)
        | none =>
            match s.authStation f.sa with
            | (s, none) => some (s, .answered statsUnableHandleSta)
            | (s, some pstat) =>
                (exchangeAccess cfg env f ((s.authListed pstat).sta pstat)).map fun _ =>
                  s.onAuthStation cfg env f pstat

/-! ### How much is read -/

/-- Where the reads of the loop of `rtw_get_ie` end. -/
def rtwGetIeEnd (pbuf : List UInt8) (index : UInt8) (limit : ℤ) (i : ℕ) : ℕ → ℕ
  | 0 => i
  | turns + 1 =>
      if pbuf.getD i 0 = index then i + 2
      else
        let next := i + (pbuf.getD (i + 1) 0).toNat + 2
        if limit ≤ next then i + 2 else rtwGetIeEnd pbuf index limit next turns

/-- Where the reads of the check of the challenge end. -/
def challengeEnd (env : AuthEnv) (f : RxFrame) : ℕ :=
  if authIesLen f < 1 then 0
  else
    wlanHdrA3Len + 4 + 6 +
      match rtwGetIe (authIes env f) 16 (authIesLen f) with
      | none => rtwGetIeEnd (authIes env f) 16 (authIesLen f) 0 (authIesLen f).toNat
      | some (p, ieLen) => if ieLen = 0 then p + 2 else p + 2 + 128

variable (cfg : ApConfig) (s : StaPriv) (env : AuthEnv) (f : RxFrame)

/-- The frame is the third of its sequence, so its challenge is looked at. -/
def ChallengeRead : Prop :=
  ¬ s.AuthStopped cfg env f ∧ ∃ i ∈ s.getStainfo f.sa, (s.sta i).authSeq = 2 ∧
    authSeqNum env f = 3

instance : Decidable (ChallengeRead cfg s env f) := by
  unfold ChallengeRead
  infer_instance

/-- The fixed fields end here, with the IV if the frame is protected. -/
def fixedEnd : ℕ := if getPrivacy f.rxData then wlanHdrA3Len + 8 else wlanHdrA3Len + 4

/-- How many bytes of the frame `OnAuth` reads at least: the fixed fields, and the challenge. -/
def authBytes : ℕ :=
  if cfg.apState = false ∨ cfg.mlmeIsAsoc = false then 0
  else max (fixedEnd f) (if ChallengeRead cfg s env f then challengeEnd env f else 0)

variable {cfg s env f}

/-! ### The way of a frame -/

/-- A frame that is not stopped comes to the station. -/
lemma onAuth_of_go (hgo : ¬ s.AuthStopped cfg env f) :
    s.onAuth cfg env f =
      match s.authStation f.sa with
      | (s, none) => (s, .answered statsUnableHandleSta)
      | (s, some pstat) => s.onAuthStation cfg env f pstat := by
  simp only [AuthStopped, not_or, not_not] at hgo
  obtain ⟨hap, hasoc, hmac, hrefused⟩ := hgo
  rw [StaPriv.onAuth, if_neg (by rintro (h | h); exacts [hap h, hasoc h]), if_neg hmac]
  rcases s.authStation f.sa with ⟨t, _ | pstat⟩ <;> simp only [hrefused]

/-- With shared key authentication only frames with another algorithm than open system come to
the station, and none goes up. -/
lemma shared_of_go (hshared : cfg.dot11AuthAlgrthm = 1) (hgo : ¬ s.AuthStopped cfg env f) :
    authAlgorithm env f ≠ 0 ∧ authReported cfg (authAlgorithm env f) = false ∧
      openSystem (authMode cfg (authAlgorithm env f)) (authAlgorithm env f) = false := by
  have hmode (algorithm : ℕ) : authMode cfg algorithm = 1 := by
    rw [authMode, hshared]
    rfl
  have halg : authAlgorithm env f ≠ 0 := by
    intro hzero
    refine hgo (.inr (.inr (.inr ?_)))
    have hbad : badAlgorithm (authMode cfg (authAlgorithm env f)) (authAlgorithm env f) = true := by
      rw [hmode, hzero]
      rfl
    rw [authRefused]
    split_ifs <;> simp
  refine ⟨halg, ?_, ?_⟩
  · rw [authReported, hmode]
    simp
  · rw [openSystem, hmode]
    simp

/-! ### The frame alone -/

lemma bind_access {α : Type} (f : RxFrame) (start count : ℕ) (next : Unit → Option α) :
    (f.access start count).bind next = if start + count ≤ f.len then next () else none := by
  unfold RxFrame.access
  split <;> rfl

lemma access_of_le {start count : ℕ} (h : start + count ≤ f.len) : f.access start count = some () :=
  if_pos h

lemma len_alone (f : RxFrame) : f.alone.len = f.len := rfl

lemma bind_access_alone {α : Type} (f : RxFrame) (start count : ℕ) (next : Unit → Option α) :
    (f.alone.access start count).bind next = if start + count ≤ f.len then next () else none :=
  bind_access f.alone start count next

/-- The decryption looks at the frame only, and leaves what is behind it. -/
def DecryptsInside (env : AuthEnv) (f : RxFrame) : Prop :=
  ∃ rest, env.rtwWepDecrypt f.rxData = env.rtwWepDecrypt f.alone.rxData ++ rest ∧
    (env.rtwWepDecrypt f.alone.rxData).length = f.len

/-- What is in front of the end of the frame is the same without what is behind it. -/
structure SameInside (env : AuthEnv) (f : RxFrame) : Prop where
  privacy : getPrivacy f.alone.rxData = getPrivacy f.rxData
  sa : f.alone.sa = f.sa
  body : ∃ rest, (authBody env f).1 = (authBody env f.alone).1 ++ rest ∧
    (authBody env f.alone).1.length = f.len
  offset : (authBody env f.alone).2 = (authBody env f).2

lemma rxData_eq (f : RxFrame) : f.rxData = f.alone.rxData ++ f.rxData.drop f.len :=
  (List.take_append_drop f.len f.rxData).symm

lemma length_alone (f : RxFrame) : f.alone.rxData.length = f.len := by
  show (f.rxData.take f.len).length = f.len
  rw [List.length_take, Nat.min_eq_left f.len_le]

lemma getPrivacy_alone (h : 2 ≤ f.len) : getPrivacy f.alone.rxData = getPrivacy f.rxData := by
  rw [rxData_eq f, getPrivacy, getPrivacy, List.getD_append _ _ _ _ (by rw [length_alone]; omega)]

lemma sameInside (hdec : DecryptsInside env f) (h : 16 ≤ f.len) : SameInside env f := by
  have hpriv := getPrivacy_alone (show 2 ≤ f.len by omega)
  refine ⟨hpriv, ?_, ?_, ?_⟩
  · rw [RxFrame.sa, RxFrame.sa, rxData_eq f, macAt, macAt]
    congr 1
    funext i
    rw [List.getD_append _ _ _ _ (by rw [length_alone]; omega)]
  · rw [authBody, authBody, hpriv]
    split
    · exact hdec
    · exact ⟨_, rxData_eq f, length_alone f⟩
  · rw [authBody, authBody, hpriv]
    split <;> rfl

/-- The fixed fields are inside. -/
lemma SameInside.fields (h : SameInside env f) (hfixed : fixedEnd f ≤ f.len) :
    authAlgorithm env f.alone = authAlgorithm env f ∧
      authSeqNum env f.alone = authSeqNum env f := by
  obtain ⟨rest, hbody, hlen⟩ := h.body
  have hoffset : wlanHdrA3Len + (authBody env f).2 + 4 ≤ f.len := by
    unfold fixedEnd at hfixed
    unfold authBody
    split at hfixed <;> simp_all
  unfold authAlgorithm authSeqNum
  rw [hbody, h.offset, leAt_append (by omega), leAt_append (by omega)]
  exact ⟨rfl, rfl⟩

/-- The accesses to the fixed fields are inside exactly if the fields are. -/
lemma fixedAccess_eq : fixedAccess env f.alone =
    if fixedEnd f ≤ f.len then some () else none := by
  rw [fixedAccess, bind_access_alone]
  by_cases htwo : 2 ≤ f.len
  swap
  · rw [if_neg (by omega), if_neg]
    unfold fixedEnd
    split <;> (simp only [wlanHdrA3Len]; omega)
  have hpriv := getPrivacy_alone htwo
  rw [if_pos (by omega), wepAccess, authBody, hpriv, fixedEnd]
  cases getPrivacy f.rxData
  · simp only [Bool.false_eq_true, if_false, Option.bind_some, bind_access_alone]
    by_cases hin : wlanHdrA3Len + 4 ≤ f.len
    · rw [if_pos (by omega), if_pos (by omega), if_pos hin, access_of_le]
      exact (by decide : 10 + 6 ≤ wlanHdrA3Len + 4).trans hin
    · rw [if_neg hin]
      split <;> rfl
  · simp only [if_true, bind_access_alone, len_alone]
    by_cases hiv : wlanHdrA3Len + 4 ≤ f.len
    · rw [if_pos hiv, bind_access_alone, if_pos (by omega)]
      by_cases hin : wlanHdrA3Len + 8 ≤ f.len
      · rw [if_pos (by omega), if_pos (by omega), if_pos hin, access_of_le]
        exact (by decide : 10 + 6 ≤ wlanHdrA3Len + 4).trans hiv
      · rw [if_neg hin]
        split <;> rfl
    · rw [if_neg hiv, Option.bind_none]
      exact (if_neg (by omega)).symm

/-! ### The search for the challenge -/

/-- The loop of `rtw_get_ie` ends its reads behind the element it finds. -/
lemma rtwGetIeEnd_of_some {pbuf : List UInt8} {index : UInt8} {limit : ℤ} {i turns p : ℕ}
    (h : rtwGetIeFrom pbuf index limit i turns = some p) :
    rtwGetIeEnd pbuf index limit i turns = p + 2 := by
  induction turns generalizing i with
  | zero => cases h
  | succ turns ih =>
      rw [rtwGetIeFrom] at h
      rw [rtwGetIeEnd]
      split at h
      · next hfound =>
          rw [if_pos hfound, Option.some.inj h]
      · next hother =>
          rw [if_neg hother]
          dsimp only at h ⊢
          split at h
          · cases h
          · next hgo =>
              rw [if_neg hgo]
              exact ih h

lemma le_rtwGetIeEnd (pbuf : List UInt8) (index : UInt8) (limit : ℤ) (i turns : ℕ) :
    i ≤ rtwGetIeEnd pbuf index limit i turns := by
  induction turns generalizing i with
  | zero => exact Nat.le_refl i
  | succ turns ih =>
      rw [rtwGetIeEnd]
      split
      · exact Nat.le_add_right i 2
      · dsimp only
        split
        · exact Nat.le_add_right i 2
        · exact (by omega : i ≤ _).trans (ih _)

/-- The accesses of the search are inside exactly if it ends inside, and it then finds the same
without what is behind the frame. -/
lemma rtwGetIeAccess_eq {g : RxFrame} {base : ℕ} {ies rest : List UInt8} {index : UInt8}
    {limit : ℤ} {i turns : ℕ} (hlen : base + ies.length = g.len) (hi : i < limit)
    (hturns : limit ≤ i + turns) :
    rtwGetIeAccess g base ies index limit i turns =
        (if base + rtwGetIeEnd (ies ++ rest) index limit i turns ≤ g.len then some () else none) ∧
      (base + rtwGetIeEnd (ies ++ rest) index limit i turns ≤ g.len →
        rtwGetIeFrom ies index limit i turns = rtwGetIeFrom (ies ++ rest) index limit i turns) := by
  induction turns generalizing i with
  | zero => omega
  | succ turns ih =>
      rw [rtwGetIeAccess, bind_access, rtwGetIeEnd, rtwGetIeFrom, rtwGetIeFrom]
      by_cases hin : base + (i + 2) ≤ g.len
      · have hid : (ies ++ rest).getD i 0 = ies.getD i 0 :=
          List.getD_append _ _ _ _ (by omega)
        have hsize : (ies ++ rest).getD (i + 1) 0 = ies.getD (i + 1) 0 :=
          List.getD_append _ _ _ _ (by omega)
        rw [hid, hsize, if_pos (by omega)]
        by_cases hfound : ies.getD i 0 = index
        · simp only [if_pos hfound, if_pos hin, implies_true, and_self]
        simp only [if_neg hfound]
        by_cases hstop : limit ≤ (i + (ies.getD (i + 1) 0).toNat + 2 : ℕ)
        · simp only [if_pos hstop, if_pos hin, implies_true, and_self]
        simp only [if_neg hstop]
        exact ih (by omega) (by omega)
      · -- the header of this element is not inside
        have hout : ¬ base + (if (ies ++ rest).getD i 0 = index then i + 2
            else
              let next := i + ((ies ++ rest).getD (i + 1) 0).toNat + 2
              if limit ≤ next then i + 2
              else rtwGetIeEnd (ies ++ rest) index limit next turns) ≤ g.len := by
          split
          · exact hin
          · dsimp only
            split
            · exact hin
            · have := le_rtwGetIeEnd (ies ++ rest) index limit
                (i + ((ies ++ rest).getD (i + 1) 0).toNat + 2) turns
              omega
        rw [if_neg (by omega), if_neg hout]
        exact ⟨rfl, fun h => absurd h hout⟩

/-- The accesses of the check of the challenge are inside exactly if its end is, and the check then
comes out the same without what is behind the frame. -/
lemma SameInside.challenge (h : SameInside env f) :
    challengeAccess env f.alone = (if challengeEnd env f ≤ f.len then some () else none) ∧
      (challengeEnd env f ≤ f.len →
        ∀ txt, challengeOk env f.alone txt = challengeOk env f txt) := by
  obtain ⟨rest, hbody, hlen⟩ := h.body
  by_cases hshort : authIesLen f < 1
  · have hnone (ies : List UInt8) : rtwGetIe ies 16 (authIesLen f) = none := if_pos hshort
    have hno (f' : RxFrame) (hf' : f'.len = f.len) (txt : List UInt8) :
        challengeOk env f' txt = false := by
      have hlimit : (f'.len - wlanHdrA3Len - 6 - 4 : ℤ) = authIesLen f := by rw [hf']; rfl
      rw [challengeOk, hlimit, hnone]
    have hshort' : authIesLen f.alone < 1 := hshort
    rw [challengeAccess, challengeEnd, if_pos hshort, if_pos hshort', if_pos (Nat.zero_le _)]
    exact ⟨rfl, fun _ txt => (hno f.alone rfl txt).trans (hno f rfl txt).symm⟩
  have hplace : 34 ≤ f.len := by
    unfold authIesLen at hshort
    simp only [wlanHdrA3Len] at hshort
    omega
  have hies : authIes env f = authIes env f.alone ++ rest := by
    rw [authIes, authIes, hbody, List.drop_append_of_le_length (by rw [hlen]; exact hplace)]
  have hiesLen : wlanHdrA3Len + 4 + 6 + (authIes env f.alone).length = f.alone.len := by
    rw [authIes, List.length_drop, hlen, len_alone]
    simp only [wlanHdrA3Len]
    omega
  obtain ⟨haccess, hfrom⟩ := @rtwGetIeAccess_eq f.alone _ _ rest 16 (authIesLen f) 0
    (authIesLen f).toNat hiesLen (by omega) (by omega)
  rw [← hies] at haccess hfrom
  -- the element that is found, and its length
  have hget (hin : wlanHdrA3Len + 4 + 6 +
        rtwGetIeEnd (authIes env f) 16 (authIesLen f) 0 (authIesLen f).toNat ≤ f.len) :
      rtwGetIe (authIes env f.alone) 16 (authIesLen f) =
        rtwGetIe (authIes env f) 16 (authIesLen f) := by
    unfold rtwGetIe
    rw [if_neg hshort, if_neg hshort, hfrom hin]
    cases hfound : rtwGetIeFrom (authIes env f) 16 (authIesLen f) 0 (authIesLen f).toNat with
    | none => rfl
    | some p =>
        have hend := rtwGetIeEnd_of_some hfound
        rw [Option.map_some, Option.map_some, hies, List.getD_append _ _ _ _ (by
          rw [len_alone] at hiesLen
          omega)]
  -- and the text behind it
  have htext {p : ℕ} (hin : wlanHdrA3Len + 4 + 6 + p + 2 + 128 ≤ f.len) :
      (List.range 128).map (fun k => (authIes env f.alone).getD (p + 2 + k) 0) =
        (List.range 128).map fun k => (authIes env f).getD (p + 2 + k) 0 := by
    refine List.map_congr_left fun k hk => ?_
    have hk' := List.mem_range.1 hk
    rw [len_alone] at hiesLen
    rw [hies, List.getD_append _ _ _ _ (by omega)]
  have hok (f' : RxFrame) (hf' : f'.len = f.len) (txt : List UInt8) : challengeOk env f' txt =
      match rtwGetIe (authIes env f') 16 (authIesLen f) with
      | none => false
      | some (p, ieLen) => ieLen ≠ 0 &&
          (List.range 128).map (fun k => (authIes env f').getD (p + 2 + k) 0) == txt := by
    have hlimit : (f'.len - wlanHdrA3Len - 6 - 4 : ℤ) = authIesLen f := by rw [hf']; rfl
    rw [challengeOk, hlimit]
    rfl
  have hend {p ieLen : ℕ} (hfound : rtwGetIe (authIes env f) 16 (authIesLen f) = some (p, ieLen)) :
      rtwGetIeEnd (authIes env f) 16 (authIesLen f) 0 (authIesLen f).toNat = p + 2 := by
    rw [rtwGetIe, if_neg hshort] at hfound
    obtain ⟨q, hq, heq⟩ := Option.map_eq_some_iff.1 hfound
    rw [rtwGetIeEnd_of_some hq, (Prod.mk.inj heq).1]
  have hfirst : challengeAccess env f.alone =
      (if wlanHdrA3Len + 4 + 6 +
        rtwGetIeEnd (authIes env f) 16 (authIesLen f) 0 (authIesLen f).toNat ≤ f.len then some ()
      else none).bind fun _ =>
        match rtwGetIe (authIes env f.alone) 16 (authIesLen f) with
        | none => some ()
        | some (p, ieLen) =>
            if ieLen = 0 then some () else f.alone.access (wlanHdrA3Len + 4 + 6 + p + 2) 128 := by
    rw [challengeAccess, if_neg (show ¬ authIesLen f.alone < 1 from hshort)]
    exact congrArg (Option.bind · _) haccess
  rw [hfirst, challengeEnd, if_neg hshort]
  by_cases hin : wlanHdrA3Len + 4 + 6 +
      rtwGetIeEnd (authIes env f) 16 (authIesLen f) 0 (authIesLen f).toNat ≤ f.len
  · rw [if_pos hin, Option.bind_some, hget hin]
    rcases hfound : rtwGetIe (authIes env f) 16 (authIesLen f) with _ | ⟨p, ieLen⟩
    · refine ⟨(if_pos hin).symm, fun _ txt => ?_⟩
      rw [hok f.alone rfl, hok f rfl, hget hin, hfound]
    rw [hend hfound] at hin
    by_cases hempty : ieLen = 0
    · simp only [if_pos hempty]
      refine ⟨(if_pos hin).symm, fun _ txt => ?_⟩
      rw [hok f.alone rfl, hok f rfl, hget (by rwa [hend hfound]), hfound, hempty]
      rfl
    · simp only [if_neg hempty]
      refine ⟨by simp only [RxFrame.access, len_alone]; congr 1, fun hle txt => ?_⟩
      rw [hok f.alone rfl, hok f rfl, hget (by rwa [hend hfound]), hfound]
      dsimp only
      rw [htext hle]
  · have hout : ¬ wlanHdrA3Len + 4 + 6 +
        (match rtwGetIe (authIes env f) 16 (authIesLen f) with
          | none => rtwGetIeEnd (authIes env f) 16 (authIesLen f) 0 (authIesLen f).toNat
          | some (p, ieLen) => if ieLen = 0 then p + 2 else p + 2 + 128) ≤ f.len := by
      rcases hfound : rtwGetIe (authIes env f) 16 (authIesLen f) with _ | ⟨p, ieLen⟩
      · exact hin
      · rw [hend hfound] at hin
        dsimp only
        split
        · exact hin
        · exact fun hle => hin ((Nat.add_le_add_left (Nat.le_add_right _ 128) _).trans hle)
    rw [if_neg hin, if_neg hout]
    exact ⟨rfl, fun h => absurd h hout⟩

/-! ### `OnAuth` -/

/-- The station that the frame comes to is at the third frame of its sequence exactly if it was
found so. -/
lemma authSeq_of_authStation {t : StaPriv} {i : Fin numSta}
    (hst : s.authStation f.sa = (t, some i)) :
    ((t.authListed i).sta i).authSeq = 2 ↔ ∃ k ∈ s.getStainfo f.sa, (s.sta k).authSeq = 2 := by
  have hlisted : ((t.authListed i).sta i).authSeq = (t.sta i).authSeq := by
    obtain ⟨linked, hw⟩ := writes_authListed t i
    rw [(hw i).trans (if_pos rfl)]
    rfl
  rw [hlisted]
  rcases authStation_cases hst with ⟨hnone, s₁, halloc, rfl⟩ | ⟨hfound, rfl⟩
  · -- a new station is at the beginning
    refine iff_of_false ?_ ?_
    · rw [modify_sta_self]
      exact (by decide : 0 ≠ 2)
    · rw [hnone]
      rintro ⟨k, hk, -⟩
      cases hk
  · have hsta : ((if (s.sta i).mfpKeyed then s else s.asocUnlink i).sta i).authSeq =
        (s.sta i).authSeq := by
      split
      · rfl
      · rw [writes_asocUnlink s i i, if_pos rfl]
        rfl
    rw [hsta, hfound]
    exact ⟨fun h => ⟨i, rfl, h⟩, fun ⟨k, hk, h⟩ => by rwa [Option.some.inj hk]⟩

/-- The exchange takes the same course where what it looks at is the same. -/
lemma onAuthStation_alone {t : StaPriv} {i : Fin numSta}
    (halg : authAlgorithm env f.alone = authAlgorithm env f)
    (hseq : authSeqNum env f.alone = authSeqNum env f)
    (hchg : ((t.authListed i).sta i).authSeq = 2 → authSeqNum env f = 3 →
      ∀ txt, challengeOk env f.alone txt = challengeOk env f txt) :
    t.onAuthStation cfg env f.alone i = t.onAuthStation cfg env f i := by
  have hexchange : authExchange cfg env f.alone ((t.authListed i).sta i) =
      authExchange cfg env f ((t.authListed i).sta i) := by
    rw [authExchange, authExchange, halg, hseq]
    dsimp only
    split
    · rfl
    · next hnext =>
        by_cases h3 : authSeqNum env f = 3
        · rw [hchg (by omega) h3]
        · simp only [if_neg h3]
  have hissued (sta : Sta) : authIssued env f.alone sta = authIssued env f sta := by
    rw [authIssued, authIssued, hseq]
  rw [onAuthStation, onAuthStation, halg, hexchange]
  simp only [hissued]

/-- On the frame alone, with its accesses checked, `OnAuth` for shared key authentication does what
it does in the buffer exactly if the frame has the bytes that are read. -/
theorem onAuthIn_eq (hshared : cfg.dot11AuthAlgrthm = 1) (hdec : DecryptsInside env f) :
    s.onAuthIn cfg env f.alone =
      if authBytes cfg s env f ≤ f.len then some (s.onAuth cfg env f) else none := by
  rw [onAuthIn, authBytes, StaPriv.onAuth]
  by_cases hoff : cfg.apState = false ∨ cfg.mlmeIsAsoc = false
  · rw [if_pos hoff, if_pos hoff, if_pos hoff, if_pos (Nat.zero_le _)]
  rw [if_neg hoff, if_neg hoff, if_neg hoff, fixedAccess_eq]
  by_cases hfixed : fixedEnd f ≤ f.len
  swap
  · rw [if_neg hfixed, if_neg fun h => hfixed ((le_max_left _ _).trans h)]
    rfl
  have hmin : 16 ≤ fixedEnd f := by
    unfold fixedEnd
    split <;> decide
  have hsame := sameInside hdec (hmin.trans hfixed)
  obtain ⟨halg, hseq⟩ := hsame.fields hfixed
  have hrefused : s.authRefused cfg env f.alone = s.authRefused cfg env f := by
    rw [authRefused, authRefused, hsame.sa, halg]
  -- where the challenge is not looked at, the fixed fields are all that is read
  have hquiet (hno : ¬ ChallengeRead cfg s env f) :
      max (fixedEnd f) (if ChallengeRead cfg s env f then challengeEnd env f else 0) ≤ f.len := by
    rw [if_neg hno, Nat.max_zero]
    exact hfixed
  rw [if_pos hfixed, Option.bind_some, hsame.sa, hrefused]
  by_cases hmac : rtwCheckInvalidMacAddress f.sa false = true
  · rw [if_pos hmac, if_pos hmac, if_pos (hquiet fun h => h.1 (.inr (.inr (.inl hmac))))]
  rw [if_neg hmac, if_neg hmac]
  rcases hr : s.authRefused cfg env f with _ | status
  swap
  · have hstop : s.AuthStopped cfg env f := .inr (.inr (.inr (by rw [hr]; simp)))
    rw [if_pos (hquiet fun h => h.1 hstop)]
  have hgo : ¬ s.AuthStopped cfg env f := by
    rintro (h | h | h | h)
    exacts [hoff (.inl h), hoff (.inr h), hmac h, h hr]
  obtain ⟨-, hrep, hopen⟩ := shared_of_go hshared hgo
  rcases hst : s.authStation f.sa with ⟨t, _ | i⟩
  · have hnone : ¬ ChallengeRead cfg s env f := by
      rintro ⟨-, k, hk, -⟩
      rw [authStation, hk] at hst
      cases hst
    rw [if_pos (hquiet hnone)]
  have hread : ChallengeRead cfg s env f ↔
      ((t.authListed i).sta i).authSeq = 2 ∧ authSeqNum env f = 3 := by
    rw [authSeq_of_authStation hst]
    constructor
    · rintro ⟨-, k, hk, h2, h3⟩
      exact ⟨⟨k, hk, h2⟩, h3⟩
    · rintro ⟨⟨k, hk, h2⟩, h3⟩
      exact ⟨hgo, k, hk, h2, h3⟩
  obtain ⟨haccess, hchg⟩ := hsame.challenge
  dsimp only
  rw [exchangeAccess, halg, hseq, hrep, hopen]
  by_cases hthird : ChallengeRead cfg s env f
  · obtain ⟨h2, h3⟩ := hread.1 hthird
    rw [if_pos ⟨rfl, by rw [h2, h3], rfl, h3⟩, haccess, if_pos hthird]
    by_cases hend : challengeEnd env f ≤ f.len
    · rw [if_pos hend, if_pos (max_le hfixed hend), Option.map_some,
        onAuthStation_alone halg hseq fun _ _ => hchg hend]
    · rw [if_neg hend, if_neg fun h => hend ((le_max_right _ _).trans h)]
      rfl
  · rw [if_neg, Option.map_some, if_pos (hquiet hthird),
      onAuthStation_alone halg hseq fun h2 h3 => absurd (hread.2 ⟨h2, h3⟩) hthird]
    rintro ⟨-, hnext, -, h3⟩
    exact hthird (hread.2 ⟨by omega, h3⟩)

end Rtl8723du
