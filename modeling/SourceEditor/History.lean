/-
  SourceEditor/History.lean
  =========================
  **Undo and redo.**  Edits are recorded as insertions and deletions, in groups that are undone
  and redone together.  A history holds the groups that can be undone and those that can be
  redone, the most recent first, and perhaps a group that is still open.

  Typing is one group: an edit of a single character may join the group before it.  Whether it
  came soon enough after that one is not decided here: every group that was recorded counts as
  recent.
-/
import SourceEditor.Point

namespace SourceEditor

/-! ### Operations -/

/-- An operation that can be undone. -/
inductive EditOperation where
  /-- A text inserted at a point. -/
  | insert (point : Point) (text : Text)
  /-- A text deleted that began at a point. -/
  | delete (point : Point) (text : Text)
  deriving DecidableEq, Repr

namespace EditOperation

/-- The operation that undoes an operation. -/
def inverse : EditOperation → EditOperation
  | .insert p t => .delete p t
  | .delete p t => .insert p t

/-- The text inserted or deleted. -/
def text : EditOperation → Text
  | .insert _ t => t
  | .delete _ t => t

/-- Whether the operation concerns a single character. -/
def isSingleChar (op : EditOperation) : Bool := op.text.length == 1

/-- Whether a second operation goes on where a first one left off: a character typed right behind
another one that is no line break, or a character other than a line break deleted right before
another one on the same line. -/
def continues : EditOperation → EditOperation → Bool
  | .insert p t, .insert q _ => q = p.advance t && t.getLast? != some '\n'
  | .delete p _, .delete q t => p.col > 0 && q = ⟨p.line, p.col - 1⟩ && t != ['\n']
  | _, _ => false

end EditOperation

/-! ### Groups -/

/-- Operations that are undone together, in the order in which they were done. -/
structure EditGroup where
  operations : List EditOperation
  caretBefore : Point
  caretAfter : Point
  /-- Whether an edit has been recorded in the group. -/
  isTimed : Bool
  deriving DecidableEq, Repr

namespace EditGroup

/-- A group without operations. -/
def new (caret : Point) : EditGroup := ⟨[], caret, caret, false⟩

/-- Whether the group has no operations. -/
def isEmpty (g : EditGroup) : Bool := g.operations.isEmpty

/-- The group with one more operation. -/
def push (g : EditGroup) (op : EditOperation) : EditGroup :=
  { g with operations := g.operations ++ [op], isTimed := true }

/-- Whether an operation may join the group: the group has been edited, and its last operation, if
it has one, is of a single character like the new one, which continues it. -/
def canCoalesce (g : EditGroup) (op : EditOperation) : Bool :=
  g.isTimed &&
    match g.operations.getLast? with
    | none => true
    | some last => last.isSingleChar && op.isSingleChar && last.continues op

/-- The group with the operations of a later group. -/
def merge (g later : EditGroup) : EditGroup :=
  { g with
    operations := g.operations ++ later.operations
    caretAfter := later.caretAfter
    isTimed := later.isTimed }

/-- The operations that undo the group, in the order in which to do them. -/
def undoing (g : EditGroup) : List EditOperation :=
  (g.operations.map EditOperation.inverse).reverse

end EditGroup

/-! ### Histories -/

/-- The groups done and undone. -/
structure History where
  /-- The groups that can be undone, the most recent first. -/
  undoStack : List EditGroup := []
  /-- The groups that can be redone, the most recently undone first. -/
  redoStack : List EditGroup := []
  /-- The greatest number of groups to undo. -/
  maxSize : Nat := 1000
  /-- The group that is open. -/
  current : Option EditGroup := none
  /-- Whether typing makes one group. -/
  coalesce : Bool := true
  deriving DecidableEq, Repr

namespace History

/-- Puts a group on the undo stack.  Nothing can be redone any more, and the oldest groups beyond
the greatest number are forgotten. -/
def pushUndo (h : History) (g : EditGroup) : History :=
  { h with undoStack := (g :: h.undoStack).take h.maxSize, redoStack := [] }

/-- Closes the open group.  A group without operations is dropped; one of a single operation may
join the group before it. -/
def commit (h : History) : History :=
  match h.current with
  | none => h
  | some g =>
    let h := { h with current := none }
    match g.operations, h.undoStack with
    | [], _ => h
    | [op], last :: rest =>
      if h.coalesce && last.canCoalesce op then
        { h with undoStack := last.merge g :: rest, redoStack := [] }
      else h.pushUndo g
    | _, _ => h.pushUndo g

/-- Opens a group, after closing the one that is open. -/
def begin (h : History) (caret : Point) : History :=
  { h.commit with current := some (.new caret) }

/-- Records an operation in the open group. -/
def record (h : History) (op : EditOperation) : History :=
  { h with current := h.current.map fun g => g.push op }

/-- Notes where the caret is after the open group. -/
def setCaret (h : History) (caret : Point) : History :=
  { h with current := h.current.map fun g => { g with caretAfter := caret } }

/-- Whether there is a group to undo. -/
def canUndo (h : History) : Bool := !h.undoStack.isEmpty

/-- Whether there is a group to redo. -/
def canRedo (h : History) : Bool := !h.redoStack.isEmpty

/-- Closes the open group and takes back the last group: gives the operations to do and the caret
from before the group. -/
def undo (h : History) : Option (List EditOperation × Point) × History :=
  let h := h.commit
  match h.undoStack with
  | [] => (none, h)
  | g :: rest =>
    (some (g.undoing, g.caretBefore), { h with undoStack := rest, redoStack := g :: h.redoStack })

/-- Takes up the group undone last: gives the operations to do and the caret from after the group.
A group that is open stays open. -/
def redo (h : History) : Option (List EditOperation × Point) × History :=
  match h.redoStack with
  | [] => (none, h)
  | g :: rest =>
    (some (g.operations, g.caretAfter),
      { h with undoStack := g :: h.undoStack, redoStack := rest })

/-- Forgets everything, also the open group. -/
def clear (h : History) : History := { h with undoStack := [], redoStack := [], current := none }

end History

end SourceEditor
