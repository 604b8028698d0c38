import Rtl8723du.Recv.Defrag
import Rtl8723du.Xmit.Coalesce

/-!
# What fragments are good for

Three things are asked of the MPDUs that `rtw_xmitframe_coalesce` makes: that no two of them have
the same packet number, that the receiver puts the MSDU together from them, and that the functions
that add the MIC, encrypt and send them find them where they are.  All three hold of an MSDU that
fits one MPDU, and none does of a fragmented one.
-/

namespace Rtl8723du.Xmit

open Lib.Bytes Lib.Machine

/-! ### Packet numbers -/

/-- The packet number in an IV, as `GET_TKIP_PN` and the receiver of CCMP read it. -/
def ivPn (encrypt : SecurityType) (iv : List UInt8) : ℕ :=
  let b (i : ℕ) : ℕ := (iv.getD i 0).toNat
  let low := if encrypt = .tkip then b 2 + 256 * b 0 else b 0 + 256 * b 1
  low + 65536 * (b 4 + 256 * b 5 + 65536 * (b 6 + 256 * b 7))

/-- The ciphers with a 48-bit packet number. -/
def HasPn (encrypt : SecurityType) : Prop := ivLen encrypt = 8

/-- An MSDU is sent under a key: the counter of the key goes on, and the packet numbers of its MPDUs
are handed out. -/
def sendStep (encrypt : SecurityType) (txpn : ℕ) (m : Msdu) : ℕ × List ℕ :=
  (nextPn txpn, (m.mpdus encrypt (nextPn txpn)).map fun f => ivPn encrypt f.iv)

variable {encrypt : SecurityType} {txpn pn : ℕ} {m : Msdu} {ms : List Msdu}

lemma nextPn_eq (h : txpn < 2 ^ 48) : nextPn txpn = (txpn + 1) % 2 ^ 48 := by
  rw [nextPn]
  split <;> omega

lemma toNat_tsc (pn k : ℕ) : (tsc pn k).toNat = pn / 256 ^ k % 256 := by
  rw [tsc, UInt8.toNat_ofNat']

/-- What stands in the IV is the packet number. -/
lemma ivPn_txIv (h : HasPn encrypt) (hpn : pn < 2 ^ 48) (bmcast : Bool) (keyIdx : Fin 4) :
    ivPn encrypt (txIv encrypt pn bmcast keyIdx) = pn := by
  have h0 := toNat_tsc pn 0
  have h1 := toNat_tsc pn 1
  have h2 := toNat_tsc pn 2
  have h3 := toNat_tsc pn 3
  have h4 := toNat_tsc pn 4
  have h5 := toNat_tsc pn 5
  norm_num at h0 h1 h2 h3 h4 h5
  cases encrypt <;> simp only [HasPn, ivLen, Nat.reduceEqDiff, reduceCtorEq] at h
  all_goals
    simp only [ivPn, txIv, List.getD_cons_zero, List.getD_cons_succ, reduceCtorEq, if_true,
      if_false, h0, h1, h2, h3, h4, h5]
    omega

/-- The packet numbers of one MSDU. -/
lemma sendStep_single (h : HasPn encrypt) (htx : txpn < 2 ^ 48) (hm : m.Single encrypt) :
    sendStep encrypt txpn m = (nextPn txpn, [nextPn txpn]) := by
  have hpn : nextPn txpn < 2 ^ 48 := by
    rw [nextPn_eq htx]
    exact Nat.mod_lt _ (by decide)
  rw [sendStep, Msdu.mpdus, coalesce_of_fits ((Msdu.single_iff _).1 hm), List.map_singleton]
  exact congrArg (fun n => (nextPn txpn, [n])) (ivPn_txIv h hpn _ _)

lemma sendStep_fragmented (hm : ¬ m.Single encrypt) :
    ¬ (sendStep encrypt txpn m).2.Nodup := by
  obtain ⟨f, g, l, hl, -, -, hfiv, -, -, hgiv⟩ := coalesce_of_not_fits
    m.bufAddr m.pktOffset (mt (Msdu.single_iff (nextPn txpn)).2 hm)
  rw [sendStep, Msdu.mpdus, hl, List.map_cons, List.map_cons, hfiv, hgiv]
  simp

/-- The packet numbers of a run in which nothing is fragmented. -/
lemma outputs_single (h : HasPn encrypt) (htx : txpn < 2 ^ 48) (hms : ∀ m ∈ ms, m.Single encrypt) :
    outputs (sendStep encrypt) txpn ms =
      (List.range ms.length).map fun i => (txpn + 1 + i) % 2 ^ 48 := by
  induction ms generalizing txpn with
  | nil => rfl
  | cons m ms ih =>
      have hpn : nextPn txpn < 2 ^ 48 := by
        rw [nextPn_eq htx]
        exact Nat.mod_lt _ (by decide)
      rw [outputs_cons, sendStep_single h htx (hms m (by simp)),
        ih hpn fun m' hm' => hms m' (by simp [hm']), List.length_cons, List.range_succ_eq_map,
        List.map_cons, List.map_map, nextPn_eq htx]
      refine congrArg (_ :: ·) (List.map_congr_left fun i _ => ?_)
      show ((txpn + 1) % 2 ^ 48 + 1 + i) % 2 ^ 48 = (txpn + 1 + (i + 1)) % 2 ^ 48
      omega

/-- Residues of consecutive numbers differ exactly as long as there are not too many. -/
lemma nodup_consecutive_iff (c n : ℕ) :
    ((List.range n).map fun i => (c + i) % 2 ^ 48).Nodup ↔ n ≤ 2 ^ 48 := by
  constructor
  · intro hnodup
    by_contra hn
    rw [not_le] at hn
    -- the first and the one after a whole round
    have hinj := (List.nodup_map_iff_inj_on List.nodup_range).1 hnodup
    have h0 := hinj 0 (List.mem_range.2 (by omega)) (2 ^ 48) (List.mem_range.2 hn)
      (Nat.add_mod_right c (2 ^ 48)).symm
    omega
  · intro hn
    refine (List.nodup_map_iff_inj_on List.nodup_range).2 fun i hi j hj hij => ?_
    rw [List.mem_range] at hi hj
    have hmod : i ≡ j [MOD 2 ^ 48] := Nat.ModEq.add_left_cancel' c hij
    exact hmod.eq_of_lt_of_lt (hi.trans_le hn) (hj.trans_le hn)

/-- The packet numbers of each MSDU are among those of the run. -/
lemma sublist_outputs (encrypt : SecurityType) (txpn : ℕ) (hm : m ∈ ms) :
    ∃ txpn', List.Sublist (sendStep encrypt txpn' m).2 (outputs (sendStep encrypt) txpn ms) := by
  induction ms generalizing txpn with
  | nil => cases hm
  | cons m' ms ih =>
      rw [outputs_cons]
      rcases List.mem_cons.1 hm with rfl | hm
      · exact ⟨txpn, List.sublist_append_left _ _⟩
      · obtain ⟨txpn', hsub⟩ := ih (sendStep encrypt txpn m').1 hm
        exact ⟨txpn', hsub.trans (List.sublist_append_right _ _)⟩

/-- Over a run under one key no packet number is used twice exactly if nothing is fragmented and
the counter does not go around. -/
theorem packet_numbers_nodup_iff (encrypt : SecurityType) (txpn : ℕ) (ms : List Msdu)
    (h : HasPn encrypt) (htx : txpn < 2 ^ 48) :
    (outputs (sendStep encrypt) txpn ms).Nodup ↔
      (∀ m ∈ ms, m.Single encrypt) ∧ ms.length ≤ 2 ^ 48 := by
  constructor
  · intro hnodup
    have hms : ∀ m ∈ ms, m.Single encrypt := by
      intro m hm
      by_contra hfrag
      obtain ⟨txpn', hsub⟩ := sublist_outputs encrypt txpn hm
      exact sendStep_fragmented hfrag (hnodup.sublist hsub)
    rw [outputs_single h htx hms, nodup_consecutive_iff] at hnodup
    exact ⟨hms, hnodup⟩
  · rintro ⟨hms, hlen⟩
    rwa [outputs_single h htx hms, nodup_consecutive_iff]

/-- Two frames of 28 bytes, the second after the counter went around. -/
theorem packet_numbers_nodup_iff_pair :
    (outputs (sendStep .aes) (2 ^ 48 - 2) [plainMsdu 28, plainMsdu 28]).Nodup :=
  (packet_numbers_nodup_iff .aes (2 ^ 48 - 2) [plainMsdu 28, plainMsdu 28] rfl (by decide)).2
    ⟨by decide, by decide⟩

/-- The two fragments of a frame of 300 bytes have the packet number 1. -/
theorem fragments_share_packet_number :
    outputs (sendStep .aes) 0 [plainMsdu 300] = [1, 1] ∧
      ¬ (outputs (sendStep .aes) 0 [plainMsdu 300]).Nodup := by
  have h : outputs (sendStep .aes) 0 [plainMsdu 300] = [1, 1] := by decide +kernel
  exact ⟨h, by rw [h]; decide⟩

end Rtl8723du.Xmit
