import Mathlib.Data.List.Basic

/-!
# Event machines and their runs

A component that handles one event at a time, changes its state and hands out
some values is a function `σ → ε → σ × List ο`.  This file gives the run of such
a function over a list of events, and the rules by which a fact about one step
becomes a fact about a whole run:

* `final_induction`: an invariant of the state;
* `history_induction`: an invariant that ties the state to everything handed
  out so far;
* `exists_of_outputs_eq`: what is handed out over a run is handed out at one of its
  events;
* `forall_prefix_iff_along`: where the steps that keep a property of the state are known
  exactly, so are the runs;
* `run_conserves` and `mem_gone_of_ticks`: a machine that holds items neither loses nor
  repeats one, and lets go of each when some events always let go of one.
-/

namespace Lib.Machine

variable {σ ε ο : Type*} (step : σ → ε → σ × List ο)

/-- The run of a machine: the state it ends in and all it hands out, in order. -/
def run : σ → List ε → σ × List ο
  | s, [] => (s, [])
  | s, e :: es =>
      ((run (step s e).1 es).1, (step s e).2 ++ (run (step s e).1 es).2)

/-- The state at the end of a run. -/
def final (s : σ) (es : List ε) : σ := (run step s es).1

/-- Everything handed out over a run. -/
def outputs (s : σ) (es : List ε) : List ο := (run step s es).2

@[simp] lemma final_nil (s : σ) : final step s [] = s := rfl

@[simp] lemma outputs_nil (s : σ) : outputs step s [] = [] := rfl

@[simp] lemma final_cons (s : σ) (e : ε) (es : List ε) :
    final step s (e :: es) = final step (step s e).1 es := rfl

@[simp] lemma outputs_cons (s : σ) (e : ε) (es : List ε) :
    outputs step s (e :: es) = (step s e).2 ++ outputs step (step s e).1 es := rfl

lemma final_append (s : σ) (es fs : List ε) :
    final step s (es ++ fs) = final step (final step s es) fs := by
  induction es generalizing s with
  | nil => rfl
  | cons e es ih => exact ih (step s e).1

lemma outputs_append (s : σ) (es fs : List ε) :
    outputs step s (es ++ fs) = outputs step s es ++ outputs step (final step s es) fs := by
  induction es generalizing s with
  | nil => rfl
  | cons e es ih =>
      simp only [List.cons_append, outputs_cons, final_cons, ih, List.append_assoc]

/-- The state just after the event `e`. -/
lemma final_concat (s : σ) (es : List ε) (e : ε) :
    final step s (es ++ [e]) = (step (final step s es) e).1 := by
  simp only [final_append, final_cons, final_nil]

lemma outputs_concat (s : σ) (es : List ε) (e : ε) :
    outputs step s (es ++ [e]) = outputs step s es ++ (step (final step s es) e).2 := by
  simp only [outputs_append, outputs_cons, outputs_nil, List.append_nil]

/-- Each value that is handed out over a run is handed out at one of its events, after
what was handed out before. -/
lemma exists_of_outputs_eq {s : σ} {es : List ε} {pre post : List ο} {o : ο}
    (h : outputs step s es = pre ++ o :: post) :
    ∃ es₁ e es₂ mid mid', es = es₁ ++ e :: es₂ ∧
      (step (final step s es₁) e).2 = mid ++ o :: mid' ∧ pre = outputs step s es₁ ++ mid := by
  induction es generalizing s pre with
  | nil => simp at h
  | cons e es ih =>
      rw [outputs_cons] at h
      rcases List.append_eq_append_iff.1 h with ⟨pre', rfl, hrest⟩ | ⟨out, hout, hrest⟩
      · -- at a later event
        obtain ⟨es₁, e', es₂, mid, mid', rfl, hstep, rfl⟩ := ih hrest
        exact ⟨e :: es₁, e', es₂, mid, mid', rfl, hstep, by simp⟩
      · cases out with
        | nil =>
            have hrest' : outputs step (step s e).1 es = [] ++ o :: post := hrest.symm
            obtain ⟨es₁, e', es₂, mid, mid', rfl, hstep, hnil⟩ := ih hrest'
            refine ⟨e :: es₁, e', es₂, mid, mid', rfl, hstep, ?_⟩
            rw [outputs_cons, List.append_assoc, ← hnil, hout]
            simp
        | cons o' out =>
            obtain ⟨rfl, -⟩ : o = o' ∧ post = out ++ outputs step (step s e).1 es := by
              simpa using hrest
            exact ⟨[], e, es, pre, out, rfl, hout, by simp⟩

/-- Every event of the run meets a state that it fits to. -/
def Along (P : σ → ε → Prop) : σ → List ε → Prop
  | _, [] => True
  | s, e :: es => P s e ∧ Along P (step s e).1 es

instance (P : σ → ε → Prop) [∀ s e, Decidable (P s e)] :
    ∀ s es, Decidable (Along step P s es)
  | _, [] => inferInstanceAs (Decidable True)
  | s, e :: es =>
      have := instDecidableAlong P (step s e).1 es
      inferInstanceAs (Decidable (P s e ∧ Along step P (step s e).1 es))

variable {step} {P : σ → ε → Prop}

lemma along_iff {s : σ} {es : List ε} :
    Along step P s es ↔ ∀ pre e post, es = pre ++ e :: post → P (final step s pre) e := by
  induction es generalizing s with
  | nil => simp [Along]
  | cons e es ih =>
      rw [Along, ih]
      constructor
      · rintro ⟨he, hes⟩ pre e' post hsplit
        cases pre with
        | nil =>
            obtain ⟨rfl, -⟩ : e = e' ∧ es = post := by simpa using hsplit
            exact he
        | cons a pre =>
            obtain ⟨rfl, hrest⟩ : e = a ∧ es = pre ++ e' :: post := by simpa using hsplit
            exact hes pre e' post hrest
      · intro h
        exact ⟨h [] e es rfl, fun pre e' post hsplit => h (e :: pre) e' post (by simp [hsplit])⟩

/-- A condition on the events alone. -/
lemma along_of_forall {Q : ε → Prop} {s : σ} {es : List ε} (h : ∀ e ∈ es, Q e) :
    Along step (fun _ e => Q e) s es :=
  along_iff.2 fun _ e _ hsplit => h e (by simp [hsplit])

lemma Along.and_forall {Q : ε → Prop} {s : σ} {es : List ε} (h : ∀ e ∈ es, Q e)
    (h' : Along step P s es) : Along step (fun s e => Q e ∧ P s e) s es :=
  along_iff.2 fun pre e post hsplit => ⟨h e (by simp [hsplit]), along_iff.1 h' pre e post hsplit⟩

lemma Along.left {s : σ} {es fs : List ε} (h : Along step P s (es ++ fs)) :
    Along step P s es :=
  along_iff.2 fun pre e post hsplit => along_iff.1 h pre e (post ++ fs) (by simp [hsplit])

lemma Along.right {s : σ} {es fs : List ε} (h : Along step P s (es ++ fs)) :
    Along step P (final step s es) fs :=
  along_iff.2 fun pre e post hsplit => by
    rw [← final_append]
    exact along_iff.1 h (es ++ pre) e post (by simp [hsplit])

/-- An invariant of single steps is an invariant of runs. -/
theorem final_induction {I : σ → Prop} (hstep : ∀ s e, P s e → I s → I (step s e).1) {s : σ}
    (hs : I s) {es : List ε} (hes : Along step P s es) : I (final step s es) := by
  induction es generalizing s with
  | nil => exact hs
  | cons e es ih => exact ih (hstep s e hes.1 hs) hes.2

/-- An invariant between the state and the values handed out so far, kept by
single steps, is kept by runs. -/
theorem history_induction {I : σ → List ο → Prop}
    (hstep : ∀ s h e, P s e → I s h → I (step s e).1 (h ++ (step s e).2)) {s : σ} {h : List ο}
    (hs : I s h) {es : List ε} (hes : Along step P s es) :
    I (final step s es) (h ++ outputs step s es) := by
  induction es generalizing s h with
  | nil => simpa using hs
  | cons e es ih =>
      have := ih (hstep s h e hes.1 hs) hes.2
      simpa only [final_cons, outputs_cons, List.append_assoc] using this

/-- Where a step from a good state is exactly then to a good state when its event fits, the
states of a run are all good exactly if its events all fit. -/
theorem forall_prefix_iff_along {J I : σ → Prop} (hkeep : ∀ s e, J s → J (step s e).1)
    (hstep : ∀ s e, J s → I s → (I (step s e).1 ↔ P s e)) {s : σ} (hJ : J s) (hI : I s)
    {es : List ε} : (∀ pre, pre <+: es → I (final step s pre)) ↔ Along step P s es := by
  induction es generalizing s with
  | nil =>
      refine iff_of_true (fun pre hpre => ?_) trivial
      rw [List.prefix_nil.1 hpre]
      exact hI
  | cons e es ih =>
      constructor
      · intro h
        have hnext : I (step s e).1 := h [e] ⟨es, rfl⟩
        refine ⟨(hstep s e hJ hI).1 hnext, (ih (hkeep s e hJ) hnext).1 fun pre hpre => ?_⟩
        exact h (e :: pre) ((List.prefix_cons_inj e).2 hpre)
      · rintro ⟨he, hes⟩ pre hpre
        cases pre with
        | nil => exact hI
        | cons a pre =>
            obtain ⟨rfl, hrest⟩ := List.cons_prefix_cons.1 hpre
            exact (ih (hkeep s a hJ) ((hstep s a hJ hI).2 he)).2 hes pre hrest

/-! ### Machines that hold items -/

variable {α : Type*} {held : σ → List α} {got gone : ο → Option α}

/-- The items held and those that come in at a step are those that go out at it and those
held then. -/
def Conserves (step : σ → ε → σ × List ο) (held : σ → List α) (got gone : ο → Option α) : Prop :=
  ∀ s e, (held s ++ (step s e).2.filterMap got).Perm
    ((step s e).2.filterMap gone ++ held (step s e).1)

theorem run_conserves (hstep : Conserves step held got gone) (s : σ) (es : List ε) :
    (held s ++ (outputs step s es).filterMap got).Perm
      ((outputs step s es).filterMap gone ++ held (final step s es)) := by
  induction es generalizing s with
  | nil => simp
  | cons e es ih =>
      have hfirst := (hstep s e).append_right ((outputs step (step s e).1 es).filterMap got)
      have hrest := (ih (step s e).1).append_left ((step s e).2.filterMap gone)
      simp only [List.append_assoc] at hfirst
      simpa only [outputs_cons, final_cons, List.filterMap_append, List.append_assoc]
        using hfirst.trans hrest

/-- An item that is held is let go when the ticks, each of which lets go of an item if there
is one, are as many as the items held and those that came in since. -/
theorem mem_gone_of_ticks (hstep : Conserves step held got gone) {tick : ε → Bool}
    (htick : ∀ s e, tick e = true → held s ≠ [] → (step s e).2.filterMap gone ≠ []) {s : σ}
    {x : α} (hx : x ∈ held s) {es : List ε}
    (hcount : (held s).length + ((outputs step s es).filterMap got).length ≤ es.countP tick) :
    x ∈ (outputs step s es).filterMap gone := by
  by_contra hnot
  refine absurd hcount (Nat.not_le.2 ?_)
  clear hcount
  induction es generalizing s with
  | nil => simpa using List.length_pos_of_mem hx
  | cons e es ih =>
      simp only [outputs_cons, List.filterMap_append, List.mem_append, not_or] at hnot
      have hstays : x ∈ held (step s e).1 := by
        have := (hstep s e).mem_iff.1 (List.mem_append_left _ hx)
        exact (List.mem_append.1 this).resolve_left hnot.1
      have hrest := ih hstays hnot.2
      have hlength := (hstep s e).length_eq
      simp only [List.length_append] at hlength
      simp only [outputs_cons, List.filterMap_append, List.length_append, List.countP_cons]
      split
      · have := List.length_pos_iff.2 (htick s e ‹_› (List.ne_nil_of_mem hx))
        omega
      · omega

end Lib.Machine
