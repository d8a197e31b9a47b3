/-
  SourceEditor/Proofs/History/Closing.lean
  ========================================
  What a history does with groups: recording operations in the open group, closing it, and moving
  groups between the two stacks.  Closing a group that has operations always forgets what could be
  redone; the group goes on the undo stack, or its single operation joins the group on top.
-/
import SourceEditor.History

namespace SourceEditor

/-- A group that joins one with operations is told from the group that comes of it. -/
theorem EditGroup.merge_ne {last g : EditGroup} (hne : last.operations ≠ []) :
    last.merge g ≠ g := by
  intro heq
  have hself : last.operations ++ g.operations = g.operations := congrArg EditGroup.operations heq
  exact hne (List.append_left_eq_self.mp hself)

namespace History

theorem foldl_record {h : History} {g : EditGroup} (hcurrent : h.current = some g)
    (ops : List EditOperation) :
    ops.foldl record h = { h with
      current := some { g with
        operations := g.operations ++ ops, isTimed := g.isTimed || !ops.isEmpty } } := by
  induction ops generalizing h g with
  | nil => simp [← hcurrent]
  | cons op ops ih =>
    rw [List.foldl_cons, ih (g := g.push op) (by simp only [record, hcurrent, Option.map_some])]
    simp [record, EditGroup.push]

/-! ### Closing a group -/

/-- Closing the open group leaves none open. -/
theorem current_commit (h : History) : h.commit.current = none := by
  rw [commit]
  split
  · assumption
  · dsimp only
    split
    · rfl
    · split <;> rfl
    · rfl

theorem begin_of_idle {h : History} (idle : h.current = none) (caret : Point) :
    h.begin caret = { h with current := some (.new caret) } := by
  simp only [begin, commit, idle]

/-- Closing a group without operations drops it. -/
theorem commit_of_nil (h : History) {g : EditGroup} (hnil : g.operations = []) :
    ({ h with current := some g } : History).commit = { h with current := none } := by
  simp only [commit, hnil]

/-- Closing a group with operations puts it on the undo stack or, if typing makes one group, may
add its operation to the group on top. -/
theorem commit_of_ne_nil (h : History) {g : EditGroup} (hne : g.operations ≠ []) :
    ({ h with current := some g } : History).commit =
        { h with
          current := none, undoStack := (g :: h.undoStack).take h.maxSize, redoStack := [] } ∨
      ∃ last rest, h.undoStack = last :: rest ∧ h.coalesce = true ∧
        (∃ op, g.operations = [op] ∧ last.canCoalesce op = true) ∧
        ({ h with current := some g } : History).commit =
          { h with current := none, undoStack := last.merge g :: rest, redoStack := [] } := by
  simp only [commit]
  split
  · contradiction
  · rename_i op last rest hops hstack
    by_cases hjoin : (h.coalesce && last.canCoalesce op) = true
    · rw [if_pos hjoin]
      obtain ⟨hcoalesce, hcontinues⟩ := Bool.and_eq_true_iff.mp hjoin
      exact .inr ⟨last, rest, hstack, hcoalesce, ⟨op, hops, hcontinues⟩, rfl⟩
    · rw [if_neg hjoin]
      exact .inl rfl
  · exact .inl rfl

/-- A group of one operation that joins no other is put on the undo stack. -/
theorem commit_of_apart (h : History) {g : EditGroup} {op : EditOperation}
    (hops : g.operations = [op]) (happart : ∀ last ∈ h.undoStack, last.canCoalesce op = false) :
    ({ h with current := some g } : History).commit =
      { h with
        current := none, undoStack := (g :: h.undoStack).take h.maxSize, redoStack := [] } := by
  have hne : g.operations ≠ [] := by
    rw [hops]
    exact List.cons_ne_nil op []
  rcases h.commit_of_ne_nil hne with hpush | ⟨last, rest, hstack, _, ⟨op', hops', hjoin⟩, _⟩
  · exact hpush
  · obtain rfl : op = op' := List.singleton_inj.mp (hops.symm.trans hops')
    rw [happart last (hstack ▸ List.mem_cons_self)] at hjoin
    cases hjoin

/-! ### Undoing and redoing -/

theorem undo_nil {h : History} (idle : h.current = none) (hstack : h.undoStack = []) :
    h.undo = (none, h) := by
  simp only [undo, commit, idle, hstack]

theorem undo_cons {h : History} (idle : h.current = none) {g : EditGroup} {rest : List EditGroup}
    (hstack : h.undoStack = g :: rest) :
    h.undo = (some ((g.operations.map EditOperation.inverse).reverse, g.caretBefore),
      { h with undoStack := rest, redoStack := g :: h.redoStack }) := by
  simp only [undo, commit, idle, hstack]
  rfl

theorem redo_nil {h : History} (hstack : h.redoStack = []) : h.redo = (none, h) := by
  simp only [redo, hstack]

theorem redo_cons {h : History} {g : EditGroup} {rest : List EditGroup}
    (hstack : h.redoStack = g :: rest) :
    h.redo = (some (g.operations, g.caretAfter),
      { h with undoStack := g :: h.undoStack, redoStack := rest }) := by
  simp only [redo, hstack]

theorem current_undo (h : History) : h.undo.2.current = none := by
  have hidle := h.current_commit
  rw [undo]
  split
  · exact hidle
  · exact hidle

theorem current_redo {h : History} (idle : h.current = none) : h.redo.2.current = none := by
  rw [redo]
  split
  · exact idle
  · exact idle

end History

end SourceEditor
