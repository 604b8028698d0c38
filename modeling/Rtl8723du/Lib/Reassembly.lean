import Mathlib.Data.List.Basic
import Rtl8723du.Lib.Loop

/-!
# Frames read in pieces

A stream is a row of frames.  From the part of a frame that has been read, `want` tells how many
symbols may be read before one has to look again; nothing is wanted exactly when the frame is
complete.  A stream is cut into frames in one way only (`Cut.unique`), and a reader that takes no
more than it wants, from pieces of any length, keeps to that way.
-/

namespace Lib.Reassembly

variable {α : Type*} {want : List α → ℕ}

/-- What is read here is the beginning of a frame. -/
def Partial (want : List α → ℕ) (p : List α) : Prop := ∀ q, q <+: p → 0 < want q

/-- A frame: complete at its end and not before. -/
structure Frame (want : List α → ℕ) (f : List α) : Prop where
  complete : want f = 0
  before : ∀ q, q <+: f → q ≠ f → 0 < want q

/-- The stream consists of the frames and of the beginning of another. -/
structure Cut (want : List α → ℕ) (fs : List (List α)) (p bs : List α) : Prop where
  eq : bs = fs.flatten ++ p
  frames : ∀ f ∈ fs, Frame want f
  rest : Partial want p

/-- Something is wanted until as much has been read as was wanted. -/
def Paced (want : List α → ℕ) : Prop :=
  ∀ p l, l.length < want p → 0 < want (p ++ l)

variable {p q l bs cs : List α} {fs gs : List (List α)} {f g : List α}

lemma partial_nil (h : 0 < want []) : Partial want [] := by
  intro q hq
  rwa [List.prefix_nil.1 hq]

lemma Cut.nil (h : 0 < want []) : Cut want [] [] [] :=
  ⟨rfl, by simp, partial_nil h⟩

/-- What is read within what is wanted leaves every shorter part incomplete. -/
lemma Partial.before (hwant : Paced want) (hp : Partial want p) (hl : l.length ≤ want p)
    (hq : q <+: p ++ l) (hne : q ≠ p ++ l) : 0 < want q := by
  obtain ⟨t, ht⟩ := hq
  rcases List.append_eq_append_iff.1 ht with ⟨u, rfl, -⟩ | ⟨u, rfl, rfl⟩
  · exact hp q (List.prefix_append ..)
  · refine hwant p u (Nat.lt_of_lt_of_le ?_ hl)
    have ht : t ≠ [] := fun hnil => hne (by rw [hnil, List.append_nil])
    have hlen := List.length_pos_iff.2 ht
    rw [List.length_append]
    omega

/-- Reading on, with the frame still incomplete. -/
lemma Cut.extend (hwant : Paced want) (h : Cut want fs p bs) (hl : l.length ≤ want p)
    (hpos : 0 < want (p ++ l)) : Cut want fs (p ++ l) (bs ++ l) where
  eq := by rw [h.eq, List.append_assoc]
  frames := h.frames
  rest q hq := by
    by_cases hne : q = p ++ l
    · rwa [hne]
    · exact h.rest.before hwant hl hq hne

/-- Reading on to the end of the frame. -/
lemma Cut.close (hwant : Paced want) (h : Cut want fs p bs) (hl : l.length ≤ want p)
    (hnil : 0 < want []) (hzero : want (p ++ l) = 0) :
    Cut want (fs ++ [p ++ l]) [] (bs ++ l) where
  eq := by simp [h.eq]
  frames f hf := by
    rcases List.mem_append.1 hf with hf | hf
    · exact h.frames f hf
    · rw [List.mem_singleton.1 hf]
      exact ⟨hzero, fun q hq hne => h.rest.before hwant hl hq hne⟩
  rest := partial_nil hnil

lemma Frame.eq_of_prefix (hf : Frame want f) (hg : Frame want g) (h : f <+: g) : f = g := by
  by_contra hne
  exact absurd hf.complete (Nat.ne_of_gt (hg.before f h hne))

lemma Frame.not_prefix_rest (hf : Frame want f) (hp : Partial want p) : ¬ f <+: p :=
  fun h => absurd hf.complete (Nat.ne_of_gt (hp f h))

/-- A stream is cut in one way only. -/
theorem Cut.unique {s : List α} (h : Cut want fs p s) (h' : Cut want gs q s) : fs = gs ∧ p = q := by
  induction fs generalizing gs s with
  | nil =>
      cases gs with
      | nil => exact ⟨rfl, by simpa using h.eq.symm.trans h'.eq⟩
      | cons g gs =>
          have heq := h.eq.symm.trans h'.eq
          rw [List.flatten_nil, List.nil_append, List.flatten_cons, List.append_assoc] at heq
          exact absurd ⟨_, heq.symm⟩ ((h'.frames g (by simp)).not_prefix_rest h.rest)
  | cons f fs ih =>
      cases gs with
      | nil =>
          have heq := h.eq.symm.trans h'.eq
          rw [List.flatten_nil, List.nil_append, List.flatten_cons, List.append_assoc] at heq
          exact absurd ⟨_, heq⟩ ((h.frames f (by simp)).not_prefix_rest h'.rest)
      | cons g gs =>
          have hf := h.frames f (by simp)
          have hg := h'.frames g (by simp)
          have heq := h.eq.symm.trans h'.eq
          rw [List.flatten_cons, List.flatten_cons, List.append_assoc, List.append_assoc] at heq
          obtain rfl : f = g := by
            rcases List.prefix_or_prefix_of_prefix ⟨_, rfl⟩ ⟨_, heq.symm⟩ with hfg | hgf
            · exact hf.eq_of_prefix hg hfg
            · exact (hg.eq_of_prefix hf hgf).symm
          have hrest := List.append_cancel_left heq
          obtain ⟨rfl, rfl⟩ := ih (s := fs.flatten ++ p)
            ⟨rfl, fun x hx => h.frames x (by simp [hx]), h.rest⟩
            ⟨hrest, fun x hx => h'.frames x (by simp [hx]), h'.rest⟩
          exact ⟨rfl, rfl⟩

/-! ### Readers -/

/-- A loop that is left when the buffer is empty, and otherwise takes something from it and keeps
the invariant of what has been read, empties the buffer. -/
lemma run_of_pass {σ ρ : Type*} {body : σ × List α → ρ ⊕ (σ × List α)} {f : σ → ρ}
    {I : σ → List α → Prop} (hend : ∀ s, body (s, []) = .inl (f s))
    (hpass : ∀ s bs b, I s bs → b ≠ [] → ∃ s' l b', b = l ++ b' ∧ l ≠ [] ∧
      body (s, b) = .inr (s', b') ∧ I s' (bs ++ l))
    {k : ℕ} {s : σ} {b : List α} (hk : b.length < k) (h : I s bs) :
    ∃ s', Loop.run body k (s, b) = some (f s') ∧ I s' (bs ++ b) := by
  induction k generalizing s b bs with
  | zero => exact absurd hk (Nat.not_lt_zero _)
  | succ k ih =>
      by_cases hb : b = []
      · subst hb
        refine ⟨s, ?_, by simpa using h⟩
        rw [Loop.run, hend]
      · obtain ⟨s', l, b', rfl, hl, hbody, h'⟩ := hpass s bs b h hb
        have hlen : 0 < l.length := List.length_pos_iff.2 hl
        rw [List.length_append] at hk
        obtain ⟨s'', hrun, h''⟩ := ih (b := b') (by omega) h'
        refine ⟨s'', ?_, by rwa [List.append_assoc] at h''⟩
        rw [Loop.run, hbody]
        exact hrun

end Lib.Reassembly
