import Rtl8723du.Ba.Action

/-!
# Agreements to send A-MPDUs

`agg_enable_bitmap` says for which TIDs a station takes A-MPDUs.  A bit is set by an ADDBA response
with status 0, whether or not a request was sent, and cleared by any other response and by a DELBA.
Neither the dialog token nor the length of a frame is checked.  Where the peers answer what they
were asked, in whole frames, the bits are those of the agreements that were made.
-/

namespace Rtl8723du.Ba

open Lib

/-- An entry by which the agreement for a TID ends. -/
def Ends (addr : List UInt8) (t : ℕ) : Log → Prop
  | .resp addr' tid _ status => addr' = addr ∧ tid = t ∧ status ≠ 0
  | .delba addr' tid => addr' = addr ∧ tid = t
  | _ => False

/-- A request was sent, answered with the same token and status 0, and nothing ended the agreement
since. -/
def Agreed (log : List Log) (addr : List UInt8) (t : ℕ) : Prop :=
  ∃ pre mid post token, log = pre ++ .req addr t token :: (mid ++ .resp addr t token 0 :: post) ∧
    ∀ x ∈ post, ¬ Ends addr t x

/-- The frame is a Block Ack frame that `OnAction_back` deals with. -/
def IsBack (ad : Adapter) (f : List UInt8) : Prop :=
  (f.drop 4).take 6 = ad.myMac ∧ (ad.apState || ad.assocSuccess) = true ∧
    (ad.sta ((f.drop 10).take 6)).isSome = true ∧ byteAt f 24 = 3 ∧ ad.htEnable = true

/-- How many bytes a frame must have, with what is behind it in memory. -/
def bytesNeeded (ad : Adapter) (f : List UInt8) : ℕ :=
  if (f.drop 4).take 6 ≠ ad.myMac ∨ (ad.apState || ad.assocSuccess) = false then 10
  else if (ad.sta ((f.drop 10).take 6)).isSome = false then 16
  else if byteAt f 24 ≠ 3 ∨ ad.htEnable = false then 25
  else if byteAt f 25 = 0 then 33
  else if byteAt f 25 = 1 then 30
  else if byteAt f 25 = 2 then if (byteAt f 27).getLsbD 3 then 28 else 30
  else 26

/-- The bit of a station for a TID. -/
def Adapter.Bit (ad : Adapter) (addr : List UInt8) (t : ℕ) : Prop :=
  ∃ psta, ad.sta addr = some psta ∧ psta.aggEnableBitmap.getLsbD t = true

/-- A frame is whole, and a response with status 0 answers a request or finds the bit set. -/
def Solicited (w : World) : Event → Prop
  | .recv frame behind _ _ _ =>
      let f := frame ++ behind
      let addr := (f.drop 10).take 6
      bytesNeeded w.ad f ≤ frame.length ∧
        (IsBack w.ad f → byteAt f 25 = 1 → le16At f 27 = 0 →
          tidOf (le16At f 29) < 8 ∧ .req addr (tidOf (le16At f 29)) (byteAt f 26) ∈ w.log ∨
            w.ad.Bit addr (respTid f))
  | _ => True

/-! ### Bits -/

lemma getLsbD_bit8 (n t : ℕ) : (bit8 n).getLsbD t = decide (t < 8 ∧ t = n) := by
  rw [bit8, BitVec.getLsbD_shiftLeft]
  by_cases htn : t = n
  · subst htn
    simp
  · by_cases hlt : t < n
    · simp [hlt, htn]
    · have hpos : t - n ≠ 0 := by omega
      simp [BitVec.getLsbD_one, hpos, htn]

lemma getLsbD_set (b : BitVec 8) (n t : ℕ) :
    (b ||| bit8 n).getLsbD t = true ↔ b.getLsbD t = true ∨ t < 8 ∧ t = n := by
  rw [BitVec.getLsbD_or, getLsbD_bit8, Bool.or_eq_true, decide_eq_true_iff]

lemma getLsbD_clear (b : BitVec 8) (n t : ℕ) :
    (b &&& ~~~bit8 n).getLsbD t = true ↔ b.getLsbD t = true ∧ t ≠ n := by
  rw [BitVec.getLsbD_and, BitVec.getLsbD_not, getLsbD_bit8]
  by_cases ht : t < 8
  · simp [ht]
  · have hb : b.getLsbD t = false := BitVec.getLsbD_of_ge b t (by omega)
    simp [hb]

/-- `OnAction_back` takes three of the four bits of the TID. -/
lemma respTid_eq (f : List UInt8) : respTid f = tidOf (le16At f 29) % 8 := by
  have hshift : (byteAt f 30).toNat <<< 8 ||| (byteAt f 29).toNat =
      256 * (byteAt f 30).toNat + (byteAt f 29).toNat := by
    rw [← Nat.shiftLeft_add_eq_or_of_lt (byteAt f 29).isLt, Nat.shiftLeft_eq]
    omega
  have hresp : respTid f = (byteAt f 29).toNat / 4 % 8 := by
    rw [respTid, BitVec.toNat_and, BitVec.toNat_ushiftRight, Nat.shiftRight_eq_div_pow]
    exact Nat.and_two_pow_sub_one_eq_mod _ 3
  have htid : tidOf (le16At f 29) =
      (256 * (byteAt f 30).toNat + (byteAt f 29).toNat) / 4 % 16 := by
    rw [tidOf, le16At, BitVec.toNat_and, BitVec.toNat_ushiftRight, BitVec.toNat_append, hshift,
      Nat.shiftRight_eq_div_pow]
    exact Nat.and_two_pow_sub_one_eq_mod _ 4
  rw [hresp, htid]
  omega

/-! ### Steps -/

/-- No bit is set. -/
def Shrinks (ad ad' : Adapter) : Prop := ∀ addr t, ad'.Bit addr t → ad.Bit addr t

lemma Shrinks.refl (ad : Adapter) : Shrinks ad ad := fun _ _ h => h

lemma Shrinks.trans {ad ad' ad'' : Adapter} (h : Shrinks ad ad') (h' : Shrinks ad' ad'') :
    Shrinks ad ad'' := fun addr t ht => h addr t (h' addr t ht)

variable {ad : Adapter} {addr : List UInt8} {psta psta' : Sta} {t : ℕ} {f : List UInt8}

lemma bit_setSta {addr' : List UInt8} : (ad.setSta addr psta').Bit addr' t ↔
    if addr' = addr then psta'.aggEnableBitmap.getLsbD t = true else ad.Bit addr' t := by
  unfold Adapter.Bit Adapter.setSta
  split
  · subst addr'
    simp
  · simp only [Function.update_of_ne ‹_›]

/-- A station is written back with bits that it had. -/
lemma shrinks_setSta (h : ad.sta addr = some psta)
    (hsub : ∀ t, psta'.aggEnableBitmap.getLsbD t = true → psta.aggEnableBitmap.getLsbD t = true) :
    Shrinks ad (ad.setSta addr psta') := by
  intro addr' t ht
  rw [bit_setSta] at ht
  split at ht
  · subst addr'
    exact ⟨psta, h, hsub t ht⟩
  · exact ht

lemma shrinks_modify {g : Sta → Sta} (hsub : ∀ psta t,
    (g psta).aggEnableBitmap.getLsbD t = true → psta.aggEnableBitmap.getLsbD t = true) :
    Shrinks ad (ad.modify addr g) := by
  unfold Adapter.modify
  split
  · exact .refl _
  · exact shrinks_setSta ‹_› (hsub _)

lemma shrinks_issueAddbaReq (tid : ℕ) (sent : Bool) :
    Shrinks ad (issueAddbaReq ad addr tid sent).1 := by
  unfold issueAddbaReq
  split
  · exact fun _ _ h => h
  · exact .refl _

lemma shrinks_addBaRspEnd (parm : AddBaRspParm) : Shrinks ad (addBaRspEnd ad parm) := by
  unfold addBaRspEnd
  dsimp only
  split
  · exact fun _ _ h => h
  · rename_i psta hsta
    have hidle : Shrinks ad { ad with running := none } := fun _ _ h => h
    refine hidle.trans (shrinks_setSta hsta fun t ht => ?_)
    split at ht
    · exact ht
    split at ht <;> exact ht

/-- Entries that end no agreement and report no read outside. -/
def Silent (x : Log) : Prop := (∀ addr t, ¬ Ends addr t x) ∧ x ≠ .outside

lemma silent_issueAddbaReq (tid : ℕ) (sent : Bool) :
    ∀ x ∈ (issueAddbaReq ad addr tid sent).2, Silent x := by
  unfold issueAddbaReq
  split
  · intro x hx
    obtain rfl := List.mem_singleton.1 hx
    exact ⟨fun _ _ h => h, by simp⟩
  · exact fun x hx => absurd hx List.not_mem_nil

/-- The command thread sets no bit. -/
lemma shrinks_nextCmd (ad : Adapter) (sent blocked : Bool) :
    Shrinks ad (nextCmd ad sent blocked).1 ∧ ∀ x ∈ (nextCmd ad sent blocked).2, Silent x := by
  have hnil : ∀ x ∈ ([] : List Log), Silent x := fun x hx => absurd hx List.not_mem_nil
  unfold nextCmd
  split
  · exact ⟨.refl _, hnil⟩
  · exact ⟨.refl _, hnil⟩
  · rename_i addr tid cmds _ _
    have hqueue : Shrinks ad { ad with cmdQueue := cmds } := fun _ _ h => h
    unfold addBaHdl
    split
    · exact ⟨hqueue, hnil⟩
    · rename_i psta hsta
      split
      · exact ⟨hqueue.trans (shrinks_issueAddbaReq tid sent), silent_issueAddbaReq tid sent⟩
      · exact ⟨hqueue.trans (shrinks_setSta hsta fun _ h => h), hnil⟩
  · rename_i parm cmds _ _
    have hqueue : Shrinks ad { ad with cmdQueue := cmds } := fun _ _ h => h
    dsimp only
    split
    · exact ⟨hqueue, hnil⟩
    split
    · exact ⟨hqueue.trans (shrinks_addBaRspEnd parm), hnil⟩
    · exact ⟨fun _ _ h => h, hnil⟩

lemma shrinks_attempt (ad : Adapter) (sent acked cannotRun : Bool) :
    Shrinks ad (attempt ad sent acked cannotRun).1 ∧
      ∀ x ∈ (attempt ad sent acked cannotRun).2, Silent x := by
  unfold attempt
  split
  · exact ⟨.refl _, fun x hx => absurd hx List.not_mem_nil⟩
  · rename_i parm i _
    have hlog : ∀ x ∈ if sent then [issueAddbaRsp ad parm] else [], Silent x := by
      intro x hx
      split at hx
      · obtain rfl := List.mem_singleton.1 hx
        exact ⟨fun _ _ h => h, by simp [issueAddbaRsp]⟩
      · exact absurd hx List.not_mem_nil
    dsimp only
    split
    · exact ⟨shrinks_addBaRspEnd parm, hlog⟩
    · exact ⟨fun _ _ h => h, hlog⟩

/-- An event other than a frame sets no bit. -/
lemma shrinks_act (ad : Adapter) (e : Event)
    (he : ∀ frame behind accept size queued, e ≠ .recv frame behind accept size queued) :
    Shrinks ad (act ad e).1 ∧ ∀ x ∈ (act ad e).2, Silent x := by
  have hnil : ∀ x ∈ ([] : List Log), Silent x := fun x hx => absurd hx List.not_mem_nil
  cases e with
  | recv frame behind accept size queued => exact absurd rfl (he _ _ _ _ _)
  | nextCmd sent blocked => exact shrinks_nextCmd ad sent blocked
  | attempt sent acked cannotRun => exact shrinks_attempt ad sent acked cannotRun
  | issueReq ra priority queued =>
      refine ⟨?_, hnil⟩
      simp only [act, issueAddbareqCmd]
      split
      · exact .refl _
      · rename_i psta hsta
        split
        · split
          · have hset : Shrinks ad (ad.setSta ra { psta with
                candidateTidBitmap := psta.candidateTidBitmap ||| bit8 priority }) :=
              shrinks_setSta hsta fun _ h => h
            exact fun addr t ht => hset addr t ht
          · exact shrinks_setSta hsta fun _ h => h
        · exact .refl _
  | aliveCheck addr expireTo sent =>
      simp only [act, aliveCheck]
      split
      · exact ⟨.refl _, hnil⟩
      · rename_i psta hsta
        split
        · refine ⟨Shrinks.trans ?_ (shrinks_issueAddbaReq 1 sent), silent_issueAddbaReq 1 sent⟩
          exact shrinks_setSta hsta fun _ h => h
        · exact ⟨.refl _, hnil⟩
  | timer addr =>
      refine ⟨shrinks_modify fun psta t ht => ?_, hnil⟩
      split at ht <;> exact ht
  | sendDelba addr tid =>
      exact ⟨shrinks_modify fun psta t ht => ((getLsbD_clear _ _ _).1 ht).1, hnil⟩
  | station addr psta =>
      refine ⟨?_, hnil⟩
      rintro addr' t ⟨psta', hsta, ht⟩
      by_cases haddr : addr' = addr
      · subst haddr
        simp only [act, Function.update_self, Option.map_eq_some_iff] at hsta
        obtain ⟨psta'', -, rfl⟩ := hsta
        simp at ht
      · simp only [act, Function.update_of_ne haddr] at hsta
        exact ⟨psta', hsta, ht⟩
  | takeToken => exact ⟨fun _ _ h => h, hnil⟩
  | iface apState assocSuccess htEnable => exact ⟨fun _ _ h => h, hnil⟩

/-! ### A frame -/

lemma bit_processAddbaReq {c : Adapter} (accept : Bool) (size : BitVec 8) (queued : Bool) :
    Shrinks c (processAddbaReq c addr accept size queued) := by
  unfold processAddbaReq
  split
  · exact .refl _
  split
  · exact fun _ _ h => h
  · exact .refl _

/-- A response sets its bit or clears it. -/
lemma bit_addbaResp (ad : Adapter) (h : (addbaResp ad psta f).aggEnableBitmap.getLsbD t = true) :
    psta.aggEnableBitmap.getLsbD t = true ∧ (le16At f 27 = 0 ∨ t ≠ respTid f) ∨
      le16At f 27 = 0 ∧ t = respTid f := by
  have hafter : ((if le16At f 27 = 0 then psta.aggEnableBitmap ||| bit8 (respTid f)
      else psta.aggEnableBitmap &&& ~~~bit8 (respTid f)).getLsbD t) = true := by
    unfold addbaResp at h
    dsimp only at h
    by_cases hstatus : le16At f 27 = 0
    · simp only [hstatus, if_true] at h ⊢
      split at h
      · exact ((getLsbD_clear _ _ _).1 h).1
      · exact h
    · simp only [hstatus, if_false] at h ⊢
      split at h
      · exact ((getLsbD_clear _ _ _).1 h).1
      · exact h
  by_cases hstatus : le16At f 27 = 0
  · rw [if_pos hstatus, getLsbD_set] at hafter
    rcases hafter with hold | ⟨-, ht⟩
    · exact .inl ⟨hold, .inl hstatus⟩
    · exact .inr ⟨hstatus, ht⟩
  · rw [if_neg hstatus, getLsbD_clear] at hafter
    exact .inl ⟨hafter.1, .inr hafter.2⟩

/-- A DELBA of the recipient clears its bit. -/
lemma bit_delba (h : (delba psta f).aggEnableBitmap.getLsbD t = true) :
    psta.aggEnableBitmap.getLsbD t = true ∧
      ((byteAt f 27).getLsbD 3 = false → t ≠ delbaTid f) := by
  unfold delba at h
  split at h
  · rename_i hinit
    exact ⟨h, fun hno => absurd (hno.symm.trans hinit) Bool.false_ne_true⟩
  · obtain ⟨hold, hne⟩ := (getLsbD_clear _ _ _).1 h
    exact ⟨hold, fun _ => hne⟩

lemma Adapter.Bit.lt (h : ad.Bit addr t) : t < 8 := by
  obtain ⟨psta, -, ht⟩ := h
  by_contra hlt
  rw [BitVec.getLsbD_of_ge _ _ (by omega)] at ht
  exact Bool.false_ne_true ht

/-- What `OnAction_back` does: the bytes it reads, and the bits that are set afterwards. -/
structure BackEffect (ad : Adapter) (f : List UInt8) (r : Adapter × List Log × ℕ) : Prop where
  reads : r.2.2 = bytesNeeded ad f
  inside : ∀ x ∈ r.2.1, x ≠ .outside
  bits : ∀ addr t, r.1.Bit addr t →
    ad.Bit addr t ∧ (∀ x ∈ r.2.1, ¬ Ends addr t x) ∨
      IsBack ad f ∧ byteAt f 25 = 1 ∧ le16At f 27 = 0 ∧ addr = (f.drop 10).take 6 ∧
        t = respTid f ∧ r.2.1 = [.resp addr (tidOf (le16At f 29)) (byteAt f 26) 0]

/-- A frame that is not dealt with. -/
lemma backEffect_nil {ad' : Adapter} {n : ℕ} (hn : n = bytesNeeded ad f) (h : Shrinks ad ad') :
    BackEffect ad f (ad', [], n) where
  reads := hn
  inside _ hx := absurd hx List.not_mem_nil
  bits addr t ht := .inl ⟨h addr t ht, fun _ hx => absurd hx List.not_mem_nil⟩

/-- What is needed of a Block Ack frame that is dealt with. -/
lemma bytesNeeded_of_isBack (h : IsBack ad f) : bytesNeeded ad f =
    if byteAt f 25 = 0 then 33
    else if byteAt f 25 = 1 then 30
    else if byteAt f 25 = 2 then if (byteAt f 27).getLsbD 3 then 28 else 30
    else 26 := by
  obtain ⟨hra, hstate, hsta, hcat, hht⟩ := h
  rw [bytesNeeded, if_neg (by simp [hra, hstate]), if_neg (by simp [hsta]),
    if_neg (by simp [hcat, hht])]

/-- The stations of a frame whose only entry ends an agreement that it does not leave. -/
lemma bits_setSta (hsta : ad.sta addr = some psta) {x : Log}
    (hself : ∀ t, psta'.aggEnableBitmap.getLsbD t = true →
      psta.aggEnableBitmap.getLsbD t = true ∧ ¬ Ends addr t x)
    (hother : ∀ addr' t, addr' ≠ addr → ¬ Ends addr' t x) (addr' : List UInt8) (t : ℕ)
    (ht : (ad.setSta addr psta').Bit addr' t) :
    ad.Bit addr' t ∧ ∀ y ∈ [x], ¬ Ends addr' t y := by
  rw [bit_setSta] at ht
  rw [List.forall_mem_singleton]
  split at ht
  · subst addr'
    exact ⟨⟨psta, hsta, (hself t ht).1⟩, (hself t ht).2⟩
  · exact ⟨ht, hother addr' t ‹_›⟩

lemma backEffect_resp (h : IsBack ad f) (hsta : ad.sta ((f.drop 10).take 6) = some psta)
    (hresp : byteAt f 25 = 1) :
    BackEffect ad f (ad.setSta ((f.drop 10).take 6) (addbaResp ad psta f),
      [.resp ((f.drop 10).take 6) (tidOf (le16At f 29)) (byteAt f 26) (le16At f 27)], 30) where
  reads := by
    rw [bytesNeeded_of_isBack h, if_neg (by rw [hresp]; decide), if_pos hresp]
  inside x hx := by
    rw [List.mem_singleton.1 hx]
    simp
  bits addr t ht := by
    by_cases hset : addr = (f.drop 10).take 6 ∧ le16At f 27 = 0 ∧ t = respTid f
    · obtain ⟨haddr, hstatus, htid⟩ := hset
      exact .inr ⟨h, hresp, hstatus, haddr, htid, by rw [haddr, hstatus]⟩
    · rw [bit_setSta] at ht
      rw [List.forall_mem_singleton]
      split at ht
      · rename_i haddr
        subst haddr
        rcases bit_addbaResp ad ht with ⟨hold, hkeep⟩ | hnew
        · refine .inl ⟨⟨psta, hsta, hold⟩, ?_⟩
          rintro ⟨-, htid, hbad⟩
          have hlt := Adapter.Bit.lt ⟨psta, hsta, hold⟩
          refine hkeep.elim hbad fun hne => hne ?_
          rw [respTid_eq, htid, Nat.mod_eq_of_lt hlt]
        · exact absurd ⟨rfl, hnew⟩ hset
      · exact .inl ⟨ht, fun hends => absurd hends.1.symm ‹_›⟩

lemma backEffect_delba (h : IsBack ad f) (hsta : ad.sta ((f.drop 10).take 6) = some psta)
    (hdelba : byteAt f 25 = 2) :
    BackEffect ad f (if (byteAt f 27).getLsbD 3 then
        (ad.setSta ((f.drop 10).take 6) (delba psta f), [], 28)
      else (ad.setSta ((f.drop 10).take 6) (delba psta f),
        [.delba ((f.drop 10).take 6) (delbaTid f)], 30)) := by
  have hneeded : bytesNeeded ad f = if (byteAt f 27).getLsbD 3 then 28 else 30 := by
    rw [bytesNeeded_of_isBack h, if_neg (by rw [hdelba]; decide), if_neg (by rw [hdelba]; decide),
      if_pos hdelba]
  split
  · rename_i hinit
    rw [if_pos hinit] at hneeded
    exact backEffect_nil hneeded.symm (shrinks_setSta hsta fun t ht => (bit_delba ht).1)
  · rename_i hinit
    rw [if_neg hinit] at hneeded
    refine ⟨hneeded.symm, fun x hx => ?_, fun addr t ht => .inl ?_⟩
    · rw [List.mem_singleton.1 hx]
      simp
    · refine bits_setSta hsta (x := .delba _ (delbaTid f)) (fun t ht => ?_) ?_ addr t ht
      · refine ⟨(bit_delba ht).1, fun hends => ?_⟩
        exact (bit_delba ht).2 (Bool.eq_false_of_not_eq_true hinit) hends.2.symm
      · exact fun addr' t hne hends => hne hends.1.symm

lemma backEffect_onActionBack (ad : Adapter) (f : List UInt8) (accept : Bool) (size : BitVec 8)
    (queued : Bool) : BackEffect ad f (onActionBack ad f accept size queued) := by
  unfold onActionBack
  dsimp only
  by_cases hra : (f.drop 4).take 6 = ad.myMac
  swap
  · rw [if_pos hra]
    exact backEffect_nil (by simp [bytesNeeded, hra]) (.refl _)
  rw [if_neg (not_not.2 hra)]
  by_cases hstate : (ad.apState || ad.assocSuccess) = true
  swap
  · rw [Bool.not_eq_true] at hstate
    rw [if_pos (by simpa using hstate)]
    exact backEffect_nil (by simp [bytesNeeded, hstate]) (.refl _)
  rw [if_neg (by simpa [or_iff_not_imp_left] using hstate)]
  cases hsta : ad.sta ((f.drop 10).take 6) with
  | none => exact backEffect_nil (by simp [bytesNeeded, hra, hstate, hsta]) (.refl _)
  | some psta =>
      have hsome : (ad.sta ((f.drop 10).take 6)).isSome = true := by
        rw [hsta]
        rfl
      have hother (hno : byteAt f 24 ≠ 3 ∨ ad.htEnable = false) : bytesNeeded ad f = 25 := by
        rw [bytesNeeded, if_neg (by simp [hra, hstate]), if_neg (by simp [hsome]), if_pos hno]
      dsimp only
      by_cases hcat : byteAt f 24 = 3
      swap
      · rw [if_pos hcat]
        exact backEffect_nil (hother (.inl hcat)).symm (.refl _)
      rw [if_neg (not_not.2 hcat)]
      by_cases hht : ad.htEnable = true
      swap
      · rw [Bool.not_eq_true] at hht
        rw [if_pos (by simp [hht])]
        exact backEffect_nil (hother (.inr hht)).symm (.refl _)
      have hback : IsBack ad f := ⟨hra, hstate, hsome, hcat, hht⟩
      rw [if_neg (by simp [hht])]
      split
      · rename_i hreq
        refine ⟨by rw [bytesNeeded_of_isBack hback, if_pos hreq], fun x hx => ?_,
          fun addr t ht => .inl ⟨?_, fun x hx => ?_⟩⟩
        · rw [List.mem_singleton.1 hx]
          simp
        · exact bit_processAddbaReq (c := { ad with addbaReq := .ofFrame f }) _ _ _ _ _ ht
        · rw [List.mem_singleton.1 hx]
          exact id
      split
      · exact backEffect_resp hback hsta ‹_›
      split
      · exact backEffect_delba hback hsta ‹_›
      · refine backEffect_nil ?_ (.refl _)
        rw [bytesNeeded_of_isBack hback, if_neg ‹_›, if_neg ‹_›, if_neg ‹_›]

/-! ### Runs -/

/-- Every bit is that of an agreement, and no frame was read beyond its end. -/
structure Kept (w : World) : Prop where
  agreed : ∀ addr t, w.ad.Bit addr t → Agreed w.log addr t
  inside : .outside ∉ w.log

variable {w : World}

lemma Agreed.append {log log' : List Log} (h : Agreed log addr t)
    (hends : ∀ x ∈ log', ¬ Ends addr t x) : Agreed (log ++ log') addr t := by
  obtain ⟨pre, mid, post, token, rfl, hpost⟩ := h
  refine ⟨pre, mid, post ++ log', token, by simp, fun x hx => ?_⟩
  exact (List.mem_append.1 hx).elim (hpost x) (hends x)

/-- A request is answered. -/
lemma agreed_of_resp {log : List Log} {token : BitVec 8} (h : .req addr t token ∈ log) :
    Agreed (log ++ [.resp addr t token 0]) addr t := by
  obtain ⟨pre, mid, rfl⟩ := List.append_of_mem h
  exact ⟨pre, mid, [], token, by simp, fun x hx => absurd hx List.not_mem_nil⟩

lemma kept_of_fresh (h : Fresh w) : Kept w where
  agreed := by
    rintro addr t ⟨psta, hsta, ht⟩
    rw [h.bitmap addr psta hsta] at ht
    simp at ht
  inside := by simp [h.log]

/-- A frame that meets its condition. -/
lemma Kept.recv (h : Kept w) {frame behind : List UInt8} {accept : Bool} {size : BitVec 8}
    {queued : Bool} (he : Solicited w (.recv frame behind accept size queued)) :
    Kept (Ba.step w (.recv frame behind accept size queued)).1 := by
  obtain ⟨hlong, hsol⟩ := he
  obtain ⟨hreads, hinside, hbits⟩ :=
    backEffect_onActionBack w.ad (frame ++ behind) accept size queued
  have hlog : (act w.ad (.recv frame behind accept size queued)).2 =
      (onActionBack w.ad (frame ++ behind) accept size queued).2.1 := by
    simp only [act, hreads]
    rw [if_neg (Nat.not_lt.2 hlong), List.append_nil]
  constructor
  · intro addr t ht
    have hlog' : (Ba.step w (.recv frame behind accept size queued)).1.log =
        w.log ++ (onActionBack w.ad (frame ++ behind) accept size queued).2.1 :=
      congrArg (w.log ++ ·) hlog
    rw [hlog']
    rcases hbits addr t ht with ⟨hold, hends⟩ | ⟨hback, hresp, hstatus, rfl, rfl, hentry⟩
    · exact (h.agreed addr t hold).append hends
    · rw [hentry]
      rcases hsol hback hresp hstatus with ⟨hlt, hreq⟩ | hset
      · rw [respTid_eq, Nat.mod_eq_of_lt hlt]
        exact agreed_of_resp hreq
      · refine (h.agreed _ _ hset).append fun x hx => ?_
        rw [List.mem_singleton.1 hx]
        exact fun hends => hends.2.2 rfl
  · intro hmem
    rcases List.mem_append.1 hmem with hmem | hmem
    · exact h.inside hmem
    · rw [hlog] at hmem
      exact hinside _ hmem rfl

/-- A step that meets its condition keeps the bits those of the agreements. -/
lemma Kept.step (h : Kept w) {e : Event} (he : Solicited w e) : Kept (Ba.step w e).1 := by
  by_cases hrecv : ∃ frame behind accept size queued, e = .recv frame behind accept size queued
  · obtain ⟨frame, behind, accept, size, queued, rfl⟩ := hrecv
    exact h.recv he
  · obtain ⟨hbits, hlog⟩ := shrinks_act w.ad e fun frame behind accept size queued heq =>
      hrecv ⟨_, _, _, _, _, heq⟩
    constructor
    · intro addr t ht
      exact (h.agreed addr t (hbits addr t ht)).append fun x hx => (hlog x hx).1 addr t
    · intro hmem
      rcases List.mem_append.1 hmem with hmem | hmem
      · exact h.inside hmem
      · exact (hlog _ hmem).2 rfl

/-- Over a run of whole frames in which every response with status 0 answers a request or finds its
bit set, each bit is that of an agreement, and no frame is read beyond its end. -/
theorem agg_enable_agreed (h : Fresh w) {es : List Event}
    (hes : Machine.Along step Solicited w es) : Kept (Machine.final step w es) :=
  Machine.final_induction (fun _ _ he hk => hk.step he) (kept_of_fresh h) hes

/-! ### A response that was asked for, and one that was not -/

/-- A response of a peer for TID 0 with status 0. -/
def respFrame (n token : UInt8) : List UInt8 :=
  [0xD0, 0, 0, 0] ++ peer 1 ++ peer n ++ peer 1 ++ [0, 0] ++ [3, 1, token, 0, 0, 2, 0x10, 0, 0]

/-- A request is sent and answered. -/
theorem agg_enable_agreed_answered :
    Kept (Machine.final step twoPeers [.issueReq (peer 2) 0 true, .nextCmd true false,
      .recv (respFrame 2 1) [] true 64 true]) :=
  agg_enable_agreed fresh_twoPeers
    ⟨trivial, trivial, ⟨by decide, fun _ _ _ => .inl (by decide +kernel)⟩, trivial⟩

/-- A response to nothing sets a bit, and a frame of 26 bytes is read as a response of 30. -/
theorem agg_enable_unsolicited :
    ¬ Kept (Machine.final step twoPeers [.recv (respFrame 2 1) [] true 64 true]) ∧
      .outside ∈ (Machine.final step twoPeers
        [.recv ((respFrame 2 1).take 26) [] true 64 true]).log := by
  constructor
  · intro h
    have hbit : (Machine.final step twoPeers [.recv (respFrame 2 1) [] true 64 true]).ad.Bit
        (peer 2) 0 := ⟨_, rfl, by decide⟩
    obtain ⟨pre, mid, post, token, hlog, -⟩ := h.agreed _ _ hbit
    have hmem : .req (peer 2) 0 token ∈
        (Machine.final step twoPeers [.recv (respFrame 2 1) [] true 64 true]).log := by
      rw [hlog]
      simp
    have hentries : (Machine.final step twoPeers [.recv (respFrame 2 1) [] true 64 true]).log =
        [.resp (peer 2) 0 1 0] := by
      decide +kernel
    rw [hentries] at hmem
    exact absurd (List.mem_singleton.1 hmem) (by simp)
  · decide +kernel

end Rtl8723du.Ba
