import Rtl8723du.Lib.Loop
import Rtl8723du.Lib.Walk

/-!
# Loops that search a log

A loop looks at the records of a log one after the other, for the first that is wanted.  It may be
misled by a record that is not, and it may go wrong behind the last record.  `returns_first_iff`
says that it returns the first wanted record exactly if neither happens.
-/

namespace Lib.Search

open Walk Loop

variable {σ ρ : Type*} (next : ℕ → Option ℕ) (body : σ → ρ ⊕ σ) (inv : σ → Prop) (pos : σ → ℕ)
  (hit : ℕ → Bool) (good : ℕ → Prop) (found : ℕ → ρ) (no : ρ) (ok : σ → Prop)

/-- What a pass does at a record: `pos` is the record that it looks at, `good` are the records that
it goes on from, and `ok` says that it goes well behind the last one. -/
structure Searches : Prop where
  /-- A record that is wanted is returned. -/
  hits : ∀ s b, inv s → next (pos s) = some b → hit (pos s) = true →
    body s = .inl (found (pos s))
  /-- From a good record the loop goes on to the next one, or ends at the last one. -/
  passes : ∀ s b, inv s → next (pos s) = some b → hit (pos s) = false → good (pos s) →
    (∃ s', body s = .inr s' ∧ inv s' ∧ pos s' = b ∧ (ok s ↔ ok s')) ∨
      body s = .inl no ∧ next b = none ∧ ok s
  /-- At another one it returns what it should not. -/
  misled : ∀ s b, inv s → next (pos s) = some b → hit (pos s) = false → ¬ good (pos s) →
    ∃ r, body s = .inl r ∧ r ≠ no ∧ ∀ x, hit x = true → r ≠ found x
  ends : ∀ s, inv s → next (pos s) = none → (Returns body s no ↔ ok s)

/-- The first record that is wanted. -/
def first (limit a : ℕ) : ρ := ((records next limit a).find? hit).elim no found

variable {next body inv pos hit good found no ok} {limit : ℕ}

/-- The loop returns the first record that is wanted exactly if all records before it are good, and
if there is none also the end is. -/
theorem returns_first_iff (hf : Forward next limit)
    (h : Searches next body inv pos hit good found no ok) {s : σ} (hs : inv s) :
    Returns body s (first next hit found no limit (pos s)) ↔
      (∀ x ∈ (records next limit (pos s)).takeWhile (fun x => !hit x), good x) ∧
        ((records next limit (pos s)).find? hit = none → ok s) := by
  generalize ha : pos s = a
  induction a using hf.induction generalizing s with
  | none a hnone =>
      subst ha
      rw [first, records_of_none hnone]
      simpa using h.ends s hs hnone
  | some a b hsome ih =>
      subst ha
      rw [first, hf.records_of_some hsome]
      rcases hhit : hit (pos s)
      · rw [List.find?_cons_of_neg (by simp [hhit]), List.takeWhile_cons_of_pos (by simp [hhit])]
        by_cases hgood : good (pos s)
        · rcases h.passes s b hs hsome hhit hgood with
            ⟨s', hbody, hs', hpos, hok⟩ | ⟨hbody, hlast, hok⟩
          · rw [returns_iff_of_inr hbody, hok]
            refine (ih hs' hpos).trans ?_
            simp [hgood]
          · rw [returns_iff_of_inl hbody, records_of_none hlast]
            simp [hgood, hok]
        · obtain ⟨r, hbody, hno, hfound⟩ := h.misled s b hs hsome hhit hgood
          rw [returns_iff_of_inl hbody]
          refine iff_of_false (fun heq => ?_) fun hall => hgood (hall.1 _ List.mem_cons_self)
          rcases hfind : (records next limit b).find? hit with _ | x
          · rw [hfind] at heq
            exact hno heq.symm
          · rw [hfind] at heq
            exact hfound x (List.find?_some hfind) heq.symm
      · rw [List.find?_cons_of_pos hhit, List.takeWhile_cons_of_neg (by simp [hhit]),
          returns_iff_of_inl (h.hits s b hs hsome hhit)]
        simp

/-! ### A loop inside of a loop -/

variable {α β τ : Type*} {inner : α → β → τ ⊕ β} {handle : α → τ → ρ ⊕ α} {init : α → β}
  {outer : α → ρ ⊕ α} {a : α} {b : β} {r : ρ} {q : τ}

/-- One loop in place of two: the inner loop goes on, or its result is handled. -/
def flat (inner : α → β → τ ⊕ β) (handle : α → τ → ρ ⊕ α) (init : α → β) (s : α × β) :
    ρ ⊕ (α × β) :=
  match inner s.1 s.2 with
  | .inr b => .inr (s.1, b)
  | .inl q => (handle s.1 q).map id fun a => (a, init a)

/-- What follows the inner loop. -/
lemma returns_flat_iff (hq : Returns (inner a) b q) : Returns (flat inner handle init) (a, b) r ↔
    (handle a q).elim (fun r' => r = r') fun a' =>
      Returns (flat inner handle init) (a', init a') r := by
  obtain ⟨k, hk⟩ := hq
  induction k generalizing b with
  | zero => cases hk
  | succ k ih =>
      rw [run] at hk
      rcases hinner : inner a b with q' | b'
      · rw [hinner] at hk
        obtain rfl : q' = q := Option.some.inj hk
        rcases hhandle : handle a q' with r' | a'
        · exact returns_iff_of_inl (by simp [flat, hinner, hhandle])
        · exact returns_iff_of_inr (by simp [flat, hinner, hhandle])
      · rw [hinner] at hk
        refine (returns_iff_of_inr ?_).trans (ih hk)
        simp [flat, hinner]

/-- The inner loop takes at least one pass. -/
lemma run_flat (hq : Returns (inner a) b q) {k : ℕ}
    (hk : run (flat inner handle init) k (a, b) = some r) :
    (handle a q).elim (fun r' => r = r') fun a' =>
      ∃ j < k, run (flat inner handle init) j (a', init a') = some r := by
  obtain ⟨m, hm⟩ := hq
  induction m generalizing b k with
  | zero => cases hm
  | succ m ih =>
      cases k with
      | zero => cases hk
      | succ k =>
          rw [run] at hm hk
          rcases hinner : inner a b with q' | b'
          · rw [hinner] at hm
            obtain rfl : q' = q := Option.some.inj hm
            rcases hhandle : handle a q' with r' | a'
            · have hflat : flat inner handle init (a, b) = .inl r' := by
                simp [flat, hinner, hhandle]
              rw [hflat] at hk
              exact (Option.some.inj hk).symm
            · have hflat : flat inner handle init (a, b) = .inr (a', init a') := by
                simp [flat, hinner, hhandle]
              rw [hflat] at hk
              exact ⟨k, Nat.lt_succ_self k, hk⟩
          · rw [hinner] at hm
            have hflat : flat inner handle init (a, b) = .inr (a, b') := by
              simp [flat, hinner]
            rw [hflat] at hk
            have hrest := ih hk hm
            rcases hhandle : handle a q with r' | a'
            · rwa [hhandle] at hrest
            · rw [hhandle] at hrest
              obtain ⟨j, hj, hrun⟩ := hrest
              exact ⟨j, Nat.lt_succ_of_lt hj, hrun⟩

/-- A loop whose pass runs another loop to its end returns what the one loop returns. -/
theorem returns_nested {P : α → Prop}
    (houter : ∀ a, P a → ∃ q, Returns (inner a) (init a) q ∧ outer a = handle a q)
    (hkeep : ∀ a q a', P a → handle a q = .inr a' → P a') (hP : P a) :
    Returns outer a r ↔ Returns (flat inner handle init) (a, init a) r := by
  constructor
  · rintro ⟨k, hk⟩
    induction k generalizing a with
    | zero => cases hk
    | succ k ih =>
        obtain ⟨q, hq, ha⟩ := houter a hP
        rw [run, ha] at hk
        rw [returns_flat_iff hq]
        rcases hhandle : handle a q with r' | a'
        · rw [hhandle] at hk
          exact (Option.some.inj hk).symm
        · rw [hhandle] at hk
          exact ih (hkeep a q a' hP hhandle) hk
  · rintro ⟨k, hk⟩
    induction k using Nat.strongRecOn generalizing a with
    | ind k ih =>
        obtain ⟨q, hq, ha⟩ := houter a hP
        have hrest := run_flat hq hk
        rcases hhandle : handle a q with r' | a'
        · rw [hhandle] at hrest ha
          exact (returns_iff_of_inl ha).2 hrest
        · rw [hhandle] at hrest ha
          obtain ⟨j, hj, hrun⟩ := hrest
          exact (returns_iff_of_inr ha).2 (ih j hj (hkeep a q a' hP hhandle) hrun)

end Lib.Search
