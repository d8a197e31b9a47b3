/-
  SourceEditor/Proofs/History/Capacity.lean
  =========================================
  **What a history holds.**  Groups come in where an open group is closed: on top of the undo stack,
  from which the oldest ones are dropped then, or into the group that is there.  Both forget what
  could be redone.  Undoing and redoing only move a group from one stack to the other.  So all
  groups together are never more than the history has room for, and none of them is empty; and with
  no group open, what is undone can be redone exactly, and the other way round.

  Whether a group may still be joined is a matter of time as well: of typing, only what follows
  within a window makes one group.  The clock is left open here; each call comes with what the clock
  would say.
-/
import SourceEditor.Proofs.History.Recency

namespace SourceEditor

@[simp] theorem EditOperation.inverse_inverse (op : EditOperation) : op.inverse.inverse = op := by
  cases op <;> rfl

/-- Undoing what undoes a group is doing the group. -/
theorem EditGroup.reverse_map_inverse_undoing (g : EditGroup) :
    (g.undoing.map EditOperation.inverse).reverse = g.operations := by
  rw [undoing, List.map_reverse, List.reverse_reverse, List.map_map]
  exact List.map_id'' EditOperation.inverse_inverse g.operations

namespace History

/-! ### Calls and the clock -/

/-- The history that a call leaves, given whether the group that could be undone next was last
edited within the window of time.  A group that was not is joined by no other, as if typing did not
make one group. -/
def afterAt (h : History) (recent : Bool) (c : HistoryCall) : History :=
  { ({ h with coalesce := h.coalesce && recent } : History).after c with
    coalesce := (h.after c).coalesce }

/-- The history that calls leave, made one after the other, each with what the clock says. -/
def runAt (h : History) (calls : List (Bool × HistoryCall)) : History :=
  calls.foldl (fun h call => h.afterAt call.1 call.2) h

/-! ### What every call keeps -/

/-- Whether a history with room for `n` groups holds no more of them, and none without
operations. -/
structure Fits (n : Nat) (h : History) : Prop where
  maxSize : h.maxSize = n
  bounded : h.undoStack.length + h.redoStack.length ≤ n
  filled : ∀ g ∈ h.undoStack ++ h.redoStack, g.operations ≠ []

variable {n : Nat} {h h' : History}

theorem fits_new (n : Nat) : Fits n { maxSize := n } := by
  refine ⟨rfl, Nat.zero_le n, ?_⟩
  intro g hg
  cases hg

theorem Fits.of_eq (hfits : Fits n h) (maxSize : h'.maxSize = h.maxSize)
    (undoStack : h'.undoStack = h.undoStack) (redoStack : h'.redoStack = h.redoStack) :
    Fits n h' := by
  refine ⟨maxSize.trans hfits.maxSize, ?_, ?_⟩
  · rw [undoStack, redoStack]
    exact hfits.bounded
  · rw [undoStack, redoStack]
    exact hfits.filled

theorem Fits.undo_filled (hfits : Fits n h) {g : EditGroup} (hg : g ∈ h.undoStack) :
    g.operations ≠ [] := hfits.filled g (List.mem_append_left _ hg)

/-- Closing the open group: on its way to the undo stack the redo stack is emptied. -/
theorem Fits.commit (hfits : Fits n h) : Fits n h.commit := by
  rcases hcurrent : h.current with _ | g
  · rw [History.commit, hcurrent]
    exact hfits
  have hsame : h = { h with current := some g } := by rw [← hcurrent]
  by_cases hnil : g.operations = []
  · rw [hsame, h.commit_of_nil hnil]
    exact hfits.of_eq rfl rfl rfl
  rcases h.commit_of_ne_nil hnil with hpush | ⟨last, rest, hstack, -, -, hjoin⟩
  · rw [hsame, hpush]
    refine ⟨hfits.maxSize, ?_, ?_⟩
    · have hlength := List.length_take_le h.maxSize (g :: h.undoStack)
      exact Nat.le_trans hlength (Nat.le_of_eq hfits.maxSize)
    · intro g' hg'
      rw [List.append_nil] at hg'
      rcases List.mem_cons.mp (List.mem_of_mem_take hg') with rfl | hg'
      · exact hnil
      · exact hfits.undo_filled hg'
  · rw [hsame, hjoin]
    refine ⟨hfits.maxSize, ?_, ?_⟩
    · have hbounded := hfits.bounded
      rw [hstack] at hbounded
      simp only [List.length_cons, List.length_nil] at hbounded ⊢
      omega
    · intro g' hg'
      rw [List.append_nil] at hg'
      rcases List.mem_cons.mp hg' with rfl | hg'
      · intro hempty
        exact hnil (List.append_eq_nil_iff.mp hempty).2
      · exact hfits.undo_filled (hstack ▸ List.mem_cons_of_mem last hg')

/-- Undoing moves a group to the redo stack. -/
theorem Fits.undo (hfits : Fits n h) : Fits n h.undo.2 := by
  have hcommit := hfits.commit
  rw [History.undo]
  split
  · exact hcommit
  · rename_i g rest hstack
    obtain ⟨hmax, hbounded, hfilled⟩ := hcommit
    rw [hstack] at hbounded hfilled
    refine ⟨hmax, ?_, ?_⟩
    · simp only [List.length_cons] at hbounded ⊢
      omega
    · intro g' hg'
      exact hfilled g' (List.perm_middle.mem_iff.mp hg')

/-- Redoing moves a group to the undo stack. -/
theorem Fits.redo (hfits : Fits n h) : Fits n h.redo.2 := by
  rcases hstack : h.redoStack with _ | ⟨g, rest⟩
  · rw [redo_nil hstack]
    exact hfits
  · obtain ⟨hmax, hbounded, hfilled⟩ := hfits
    rw [hstack] at hbounded hfilled
    rw [redo_cons hstack]
    refine ⟨hmax, ?_, ?_⟩
    · simp only [List.length_cons] at hbounded ⊢
      omega
    · intro g' hg'
      exact hfilled g' (List.perm_middle.mem_iff.mpr hg')

theorem Fits.after (hfits : Fits n h) (c : HistoryCall) : Fits n (h.after c) := by
  cases c with
  | begin caret => exact hfits.commit.of_eq rfl rfl rfl
  | record op => exact hfits.of_eq rfl rfl rfl
  | setCaret caret => exact hfits.of_eq rfl rfl rfl
  | commit => exact hfits.commit
  | undo => exact hfits.undo
  | redo => exact hfits.redo
  | clear =>
    refine ⟨hfits.maxSize, Nat.zero_le n, ?_⟩
    intro g hg
    cases hg
  | setCoalesce on => exact hfits.of_eq rfl rfl rfl

theorem Fits.afterAt (hfits : Fits n h) (recent : Bool) (c : HistoryCall) :
    Fits n (h.afterAt recent c) := by
  have hset : Fits n { h with coalesce := h.coalesce && recent } := hfits.of_eq rfl rfl rfl
  exact (hset.after c).of_eq rfl rfl rfl

theorem Fits.runAt (hfits : Fits n h) (calls : List (Bool × HistoryCall)) :
    Fits n (h.runAt calls) := by
  induction calls generalizing h with
  | nil => exact hfits
  | cons call calls ih => exact ih (hfits.afterAt call.1 call.2)

/-! ### There and back -/

/-- With no group open, redoing takes back an undoing: it gives the inverse operations in the
opposite order, and leaves the history as it was. -/
theorem redo_undo (idle : h.current = none) {ops : List EditOperation} {caret : Point}
    (undoes : h.undo.1 = some (ops, caret)) :
    ∃ caret', h.undo.2.redo = (some ((ops.map EditOperation.inverse).reverse, caret'), h) := by
  rcases hstack : h.undoStack with _ | ⟨g, rest⟩
  · rw [undo_nil idle hstack] at undoes
    cases undoes
  · rw [undo_cons idle hstack] at undoes ⊢
    obtain ⟨rfl, -⟩ := Prod.mk.inj (Option.some.inj undoes)
    refine ⟨g.caretAfter, ?_⟩
    rw [redo_cons rfl, ← EditGroup.undoing, g.reverse_map_inverse_undoing]
    simp only [← hstack]

/-- With no group open, undoing takes back a redoing. -/
theorem undo_redo (idle : h.current = none) {ops : List EditOperation} {caret : Point}
    (redoes : h.redo.1 = some (ops, caret)) :
    ∃ caret', h.redo.2.undo = (some ((ops.map EditOperation.inverse).reverse, caret'), h) := by
  have hidle := current_redo idle
  rcases hstack : h.redoStack with _ | ⟨g, rest⟩
  · rw [redo_nil hstack] at redoes
    cases redoes
  · rw [redo_cons hstack] at redoes hidle ⊢
    obtain ⟨rfl, -⟩ := Prod.mk.inj (Option.some.inj redoes)
    refine ⟨g.caretBefore, ?_⟩
    rw [undo_cons hidle rfl]
    simp only [← hstack]

/-- **The books of a history.**  Whatever calls have been made of a history of any size, and
whatever the clock said at each: all groups together are no more than it has room for, and none is
empty.  If no group is open, then after an undoing that gives operations redoing gives their
inverses in the opposite order and leads back to the same history, and the same with undoing and
redoing changed over. -/
theorem groups_bounded_and_restored (maxSize : Nat) (calls : List (Bool × HistoryCall)) :
    let h := ({ maxSize } : History).runAt calls
    h.undoStack.length + h.redoStack.length ≤ maxSize ∧
      (∀ g ∈ h.undoStack ++ h.redoStack, g.operations ≠ []) ∧
      (h.current = none →
        (∀ ops caret, h.undo.1 = some (ops, caret) → ∃ caret',
          h.undo.2.redo = (some ((ops.map EditOperation.inverse).reverse, caret'), h)) ∧
        ∀ ops caret, h.redo.1 = some (ops, caret) → ∃ caret',
          h.redo.2.undo = (some ((ops.map EditOperation.inverse).reverse, caret'), h)) := by
  intro h
  have hfits : Fits maxSize h := (fits_new maxSize).runAt calls
  refine ⟨hfits.bounded, hfits.filled, ?_⟩
  intro idle
  exact ⟨fun _ _ undoes => redo_undo idle undoes, fun _ _ redoes => undo_redo idle redoes⟩

/-- Two letters with a pause between them make two groups; with one of them undone, the other can be
undone and redone. -/
theorem groups_bounded_and_restored_of_pause :
    let calls : List (Bool × HistoryCall) := [(true, .begin ⟨1, 0⟩),
      (true, .record (.insert ⟨1, 0⟩ ['a'])), (true, .commit), (true, .begin ⟨1, 1⟩),
      (true, .record (.insert ⟨1, 1⟩ ['b'])), (false, .commit), (true, .undo)]
    let h := ({ maxSize := 2 } : History).runAt calls
    h.current = none ∧ h.redoStack.length = 1 ∧
      h.undo.1 = some ([.delete ⟨1, 0⟩ ['a']], ⟨1, 0⟩) ∧
      ∃ caret, h.undo.2.redo = (some ([.insert ⟨1, 0⟩ ['a']], caret), h) := by
  intro calls h
  have idle : h.current = none := by decide
  have undoes : h.undo.1 = some ([.delete ⟨1, 0⟩ ['a']], ⟨1, 0⟩) := by decide
  exact ⟨idle, by decide, undoes,
    ((groups_bounded_and_restored 2 calls).2.2 idle).1 _ _ undoes⟩

end History

end SourceEditor
