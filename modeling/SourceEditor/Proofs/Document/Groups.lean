/-
  SourceEditor/Proofs/Document/Groups.lean
  ========================================
  What a call that edits a document does with groups: it opens one, records its edits in it, and
  closes it.  Its operations lead from the text before the call to the text after it.
-/
import SourceEditor.Proofs.Document.Calls
import SourceEditor.Proofs.History.Closing

namespace SourceEditor

open EditOperation (LeadsAll)
open Document (operationsRecorded historyRecorded)

/-- A group with the operations of one more edit. -/
def EditGroup.recording (g : EditGroup) (e : Edit) : EditGroup :=
  { g with
    operations := g.operations ++ operationsRecorded e
    caretAfter := e.caret
    isTimed := g.isTimed || !(operationsRecorded e).isEmpty }

namespace EditGroup

theorem operations_foldl_recording (g : EditGroup) (es : List Edit) :
    (es.foldl recording g).operations = g.operations ++ es.flatMap operationsRecorded := by
  induction es generalizing g with
  | nil => simp
  | cons e es ih =>
    rw [List.foldl_cons, ih, List.flatMap_cons, ← List.append_assoc]
    rfl

theorem caretBefore_foldl_recording (g : EditGroup) (es : List Edit) :
    (es.foldl recording g).caretBefore = g.caretBefore := by
  induction es generalizing g with
  | nil => rfl
  | cons e es ih => exact ih (g.recording e)

theorem caretAfter_foldl_recording (g : EditGroup) {es : List Edit} {e : Edit}
    (h : es.getLast? = some e) : (es.foldl recording g).caretAfter = e.caret := by
  obtain ⟨others, rfl⟩ := List.getLast?_eq_some_iff.mp h
  rw [List.foldl_append]
  rfl

end EditGroup

namespace History

theorem foldl_historyRecorded (h : History) (g : EditGroup) (es : List Edit) :
    es.foldl historyRecorded { h with current := some g } =
      { h with current := some (es.foldl EditGroup.recording g) } := by
  induction es generalizing g with
  | nil => rfl
  | cons e es ih =>
    rw [List.foldl_cons, List.foldl_cons, ← ih, historyRecorded, foldl_record rfl]
    rfl

end History

namespace Document

/-- The group that a call makes by itself: what it puts on an empty undo stack, where groups are
kept apart. -/
def ownGroup (d : Document) (a : DocumentEdit) : Option EditGroup :=
  (({ d with history := { coalesce := false } } : Document).edited a).history.undoStack.head?

/-- The edits of a call, recorded where groups are kept apart, make the group of the call. -/
theorem ownGroup_eq {d : Document} {a : DocumentEdit} {es : List Edit} {b' : Buffer} {m : Bool}
    (h : ({ d with history := { coalesce := false } } : Document).edited a =
      ⟨b', (es.foldl historyRecorded (({ coalesce := false } : History).begin a.caret)).commit,
        d.options, m⟩) :
    let g := es.foldl EditGroup.recording (.new a.caret)
    d.ownGroup a = if g.operations = [] then none else some g := by
  intro g
  rw [History.begin_of_idle rfl, History.foldl_historyRecorded] at h
  rw [ownGroup, h]
  change ({ ({ coalesce := false } : History) with
    current := some g } : History).commit.undoStack.head? = _
  by_cases hnil : g.operations = []
  · rw [if_pos hnil, History.commit_of_nil _ hnil]
    rfl
  · rw [if_neg hnil]
    -- on an empty stack no group is joined, so the one closed is all there is
    rcases History.commit_of_ne_nil { coalesce := false } hnil with hpush | ⟨last, rest, hstack, _⟩
    · rw [hpush]
      rfl
    · cases hstack

/-- A call that edits closes one group.  Its operations lead from the text before the call to the
text after it, and if there are any, its places of the caret are points of the two texts. -/
theorem exists_group_of_edited {d : Document} (hd : d.buffer.IsClean)
    (idle : d.history.current = none) (a : DocumentEdit) :
    ∃ g : EditGroup,
      (d.edited a).buffer.IsClean ∧
      LeadsAll g.operations d.buffer.text (d.edited a).buffer.text ∧
      (g.operations ≠ [] → d.buffer.HasPoint g.caretBefore ∧
        (d.edited a).buffer.HasPoint g.caretAfter) ∧
      (d.edited a).history = ({ d.history with current := some g } : History).commit ∧
      d.ownGroup a = if g.operations = [] then none else some g := by
  obtain ⟨b, history, o, m⟩ := d
  obtain ⟨es, b', hedited, hpoint, hleaves⟩ := exists_edited hd o a
  obtain ⟨hb', hleads, hcaret⟩ := leadsAll_of_edited hd hedited
  have hops := EditGroup.operations_foldl_recording (.new a.caret) es
  have hown := ownGroup_eq (d := ⟨b, history, o, m⟩) (hleaves { coalesce := false } m)
  refine ⟨es.foldl EditGroup.recording (.new a.caret), ?_, ?_, ?_, ?_, hown⟩
  · rw [hleaves]
    exact hb'
  · rw [hleaves, hops]
    exact hleads
  · intro hne
    have hes : es ≠ [] := by
      rintro rfl
      exact hne rfl
    have hlast := List.getLast?_eq_some_getLast hes
    rw [EditGroup.caretBefore_foldl_recording, EditGroup.caretAfter_foldl_recording _ hlast,
      hleaves]
    exact ⟨hpoint hes, hcaret _ hlast⟩
  · rw [hleaves, History.begin_of_idle idle, History.foldl_historyRecorded]

end Document

end SourceEditor
