import Rtl8723du.Lib.Machine

/-!
# Tables with conditions

A flat table of items in which some entries begin a branch, begin the last branch, or end a block of
branches.  A reader goes over it once and keeps two flags.  What it hands out of a table that comes
from blocks is what the blocks mean: of each block the items of the first branch whose condition
holds, or else those of the last branch.
-/

namespace Lib.Branches

open Machine

variable {κ α : Type*}

/-- An entry of a table. -/
inductive Entry (κ α : Type*)
  | cond (c : κ)
  | otherwise
  | endif
  | item (a : α)

/-- The flags of the reader. -/
structure Mode where
  matched : Bool := true
  skipped : Bool := false

/-- The reader at an entry. -/
def step (holds : κ → Bool) (m : Mode) : Entry κ α → Mode × List α
  | .cond c =>
      if m.skipped then ({ m with matched := false }, [])
      else ({ matched := holds c, skipped := holds c }, [])
  | .otherwise => ({ m with matched := !m.skipped }, [])
  | .endif => ({ matched := true, skipped := false }, [])
  | .item a => (m, if m.matched then [a] else [])

/-- An item, or a block of branches with their conditions. -/
inductive Stmt (κ α : Type*)
  | item (a : α)
  | block (branches : List (κ × List α)) (last : Option (List α))

/-- The entries of a branch. -/
def branchEntries (b : κ × List α) : List (Entry κ α) := .cond b.1 :: b.2.map .item

/-- The entries of the last branch. -/
def lastEntries : Option (List α) → List (Entry κ α)
  | none => []
  | some items => .otherwise :: items.map .item

/-- The entries of a statement. -/
def Stmt.entries : Stmt κ α → List (Entry κ α)
  | .item a => [.item a]
  | .block branches last => branches.flatMap branchEntries ++ (lastEntries last ++ [.endif])

/-- What a statement means. -/
def Stmt.eval (holds : κ → Bool) : Stmt κ α → List α
  | .item a => [a]
  | .block branches last =>
      ((branches.find? fun b => holds b.1).map Prod.snd).getD (last.getD [])

variable {holds : κ → Bool} {m : Mode}

lemma run_items (m : Mode) (items : List α) :
    final (step holds) m (items.map .item) = m ∧
      outputs (step holds) m (items.map .item) = if m.matched then items else [] := by
  induction items with
  | nil =>
      refine ⟨rfl, ?_⟩
      split_ifs <;> rfl
  | cons a items ih =>
      obtain ⟨hfinal, hout⟩ := ih
      rw [List.map_cons, final_cons, outputs_cons, step]
      refine ⟨hfinal, ?_⟩
      rw [hout]
      split_ifs <;> rfl

/-- When a branch has been taken, the others are passed over. -/
lemma run_branches_skipped (hm : m.skipped = true) (branches : List (κ × List α)) :
    (final (step holds) m (branches.flatMap branchEntries)).skipped = true ∧
      outputs (step holds) m (branches.flatMap branchEntries) = [] := by
  induction branches generalizing m with
  | nil => exact ⟨hm, rfl⟩
  | cons b branches ih =>
      have hcond : step holds m (.cond b.1 : Entry κ α) = ({ m with matched := false }, []) := by
        rw [step, if_pos hm]
      obtain ⟨hfinal, hout⟩ := run_items { m with matched := false } b.2
      rw [List.flatMap_cons, final_append, outputs_append, branchEntries, final_cons, outputs_cons,
        hcond, hfinal, hout]
      exact ih hm

/-- The first branch whose condition holds is taken. -/
lemma run_branches (hm : m.skipped = false) (branches : List (κ × List α)) :
    (final (step holds) m (branches.flatMap branchEntries)).skipped =
        (branches.find? fun b => holds b.1).isSome ∧
      outputs (step holds) m (branches.flatMap branchEntries) =
        ((branches.find? fun b => holds b.1).map Prod.snd).getD [] := by
  induction branches generalizing m with
  | nil => exact ⟨hm, rfl⟩
  | cons b branches ih =>
      have hcond : step holds m (.cond b.1 : Entry κ α) = (⟨holds b.1, holds b.1⟩, []) := by
        rw [step, if_neg (by rw [hm]; exact Bool.false_ne_true)]
      obtain ⟨hfinal, hout⟩ := run_items ⟨holds b.1, holds b.1⟩ b.2
      rw [List.flatMap_cons, final_append, outputs_append, branchEntries, final_cons, outputs_cons,
        hcond, hfinal, hout]
      cases hb : holds b.1 with
      | true =>
          have hfind : (b :: branches).find? (fun b => holds b.1) = some b :=
            List.find?_cons_of_pos hb
          obtain ⟨hskip, hnone⟩ := run_branches_skipped (m := ⟨true, true⟩) rfl
            branches
          rw [hfind, hskip, hnone]
          exact ⟨rfl, List.append_nil _⟩
      | false =>
          have hfind : (b :: branches).find? (fun b => holds b.1) =
              branches.find? fun b => holds b.1 :=
            List.find?_cons_of_neg (by rw [hb]; exact Bool.false_ne_true)
          rw [hfind]
          exact ih rfl

lemma run_last (m : Mode) (last : Option (List α)) :
    final (step holds) m (lastEntries last ++ [.endif]) = {} ∧
      outputs (step holds) m (lastEntries last ++ [.endif]) =
        if m.skipped then [] else last.getD [] := by
  cases last with
  | none =>
      refine ⟨rfl, ?_⟩
      split_ifs <;> rfl
  | some items =>
      obtain ⟨-, hout⟩ := run_items { m with matched := !m.skipped } items
      have hitems : outputs (step holds) m (lastEntries (some items)) =
          if (!m.skipped) = true then items else [] := hout
      rw [final_append, outputs_append, hitems]
      refine ⟨rfl, ?_⟩
      cases m.skipped
      · exact List.append_nil items
      · rfl

lemma run_stmt (p : Stmt κ α) :
    final (step holds) {} p.entries = {} ∧ outputs (step holds) {} p.entries = p.eval holds := by
  cases p with
  | item a => exact ⟨rfl, rfl⟩
  | block branches last =>
      obtain ⟨hskip, hout⟩ := run_branches (m := {}) rfl branches
      rw [Stmt.entries, final_append, outputs_append]
      obtain ⟨hfinal, hlast⟩ := @run_last _ _ holds
        (final (step holds) {} (branches.flatMap branchEntries)) last
      refine ⟨hfinal, ?_⟩
      rw [hlast, hskip, hout, Stmt.eval]
      cases branches.find? fun b => holds b.1 with
      | none => rfl
      | some b => exact List.append_nil _

/-- The reader hands out what the statements mean. -/
theorem outputs_entries (ps : List (Stmt κ α)) :
    outputs (step holds) {} (ps.flatMap Stmt.entries) = ps.flatMap (Stmt.eval holds) := by
  induction ps with
  | nil => rfl
  | cons p ps ih =>
      obtain ⟨hfinal, hout⟩ := run_stmt p
      rw [List.flatMap_cons, List.flatMap_cons, outputs_append, hfinal, hout, ih]

end Lib.Branches
