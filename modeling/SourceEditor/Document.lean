/-
  SourceEditor/Document.lean
  ==========================
  **Documents**: a buffer with its options and its history.  Every operation records what it does
  as one group, to be undone together.  An operation gives the document it leaves in any case,
  also with an error.
-/
import SourceEditor.History
import SourceEditor.Indent.Basic
import SourceEditor.Search.Replace

namespace SourceEditor

/-- An open document. -/
structure Document where
  buffer : Buffer
  history : History := {}
  options : Options
  /-- Whether the text has changed since it was saved. -/
  modified : Bool := false

namespace Document

/-- The document of a buffer, with the options of its profile. -/
def ofBuffer (b : Buffer) : Document := { buffer := b, options := b.profile.options }

/-- The text. -/
def text (d : Document) : Text := d.buffer.text

/-- Sets the options, if they can be used. -/
def setOptions (d : Document) (o : Options) : Except OptionsError Document :=
  match o.validate with
  | .error e => .error e
  | .ok () => .ok { d with options := o }

/-- Switches to another profile; the options stay. -/
def setProfile (d : Document) (p : Profile) : Document :=
  { d with buffer := d.buffer.setProfile p }

/-- Subscribes to the changes of the text from now on, under the number that is told. -/
def subscribe (d : Document) : Nat × Document :=
  (d.buffer.subscribe.1, { d with buffer := d.buffer.subscribe.2 })

/-- The subscriber with a number stops to listen. -/
def unsubscribe (d : Document) (k : Nat) : Document :=
  { d with buffer := d.buffer.unsubscribe k }

/-- Marks the text as saved. -/
def markSaved (d : Document) : Document := { d with modified := false }

/-! ### Recording -/

/-- The operations that an edit consists of: what it removes, and what it inserts. -/
def operationsOf (e : Edit) : List EditOperation :=
  (if e.removed.isEmpty then [] else [.delete e.range.start e.removed]) ++
    (if e.inserted.isEmpty then [] else [.insert e.range.start e.inserted])

/-- Records an edit that has been made. -/
def recorded (d : Document) (e : Edit) : Document :=
  let operations := if e.changed then operationsOf e else []
  { d with
    history := (operations.foldl History.record d.history).setCaret e.caret
    modified := d.modified || e.changed }

/-- Does something as one group of the history. -/
def grouped {ε α : Type} (d : Document) (caret : Point)
    (body : Document → Except ε α × Document) :
    Except ε α × Document :=
  let (result, d) := body { d with history := d.history.begin caret }
  (result, { d with history := d.history.commit })

/-- Takes over the buffer that an edit leaves, and records the edit if it has been accepted. -/
def applied (d : Document) (result : Except BufferError Edit × Buffer) :
    Except BufferError Edit × Document :=
  let d := { d with buffer := result.2 }
  match result.1 with
  | .error e => (.error e, d)
  | .ok edit => (.ok edit, d.recorded edit)

/-! ### Editing -/

/-- Inserts a text at a point. -/
def insert (d : Document) (p : Point) (t : Text) : Except BufferError Edit × Document :=
  d.grouped p fun d => d.applied (d.buffer.insert p t)

/-- Deletes the text of a range. -/
def delete (d : Document) (r : Range) : Except BufferError Edit × Document :=
  d.grouped r.stop fun d => d.applied (d.buffer.delete r)

/-- Replaces the text of a range. -/
def replace (d : Document) (r : Range) (t : Text) : Except BufferError Edit × Document :=
  d.grouped r.stop fun d => d.applied (d.buffer.replace r t)

/-! ### Indentation -/

/-- The indentation that a line should have. -/
def computeIndent (d : Document) (n : Nat) : Except BufferError Text :=
  d.buffer.computeIndent d.options n

/-- Gives a line its indentation. -/
def applyIndent (d : Document) (n : Nat) : Except BufferError Edit × Document :=
  match d.computeIndent n with
  | .error e => (.error e, d)
  | .ok indent =>
    let width := ((d.buffer.line? n).map fun l => l.indent.length).getD 0
    d.applied (d.buffer.replace ⟨⟨n, 0⟩, ⟨n, width⟩⟩ indent)

/-- Breaks the line at a point and indents the new one; gives the caret after its indentation. -/
def newline (d : Document) (p : Point) : Except BufferError Point × Document :=
  d.grouped p fun d =>
    match d.applied (d.buffer.insert p ['\n']) with
    | (.error e, d) => (.error e, d)
    | (.ok _, d) =>
      match d.applyIndent (p.line + 1) with
      | (.error e, d) => (.error e, d)
      | (.ok edit, d) => (.ok edit.caret, d)

/-- Gives a line its indentation, as one group. -/
def reindentLine (d : Document) (n : Nat) : Except BufferError Edit × Document :=
  d.grouped ⟨n, 0⟩ fun d => d.applyIndent n

/-- Gives `count` lines from the line `n` on their indentation, from top to bottom, blank lines
left as they are; gives the number of lines that changed. -/
def indentLines (d : Document) (n : Nat) : (count : Nat) → Except BufferError Nat × Document
  | 0 => (.ok 0, d)
  | count + 1 =>
    match d.buffer.line? n with
    | none => (.error (.invalidLine n d.buffer.lineCount), d)
    | some l =>
      if l.isBlank then d.indentLines (n + 1) count
      else
        match d.applyIndent n with
        | (.error e, d) => (.error e, d)
        | (.ok edit, d) =>
          match d.indentLines (n + 1) count with
          | (.error e, d) => (.error e, d)
          | (.ok changed, d) => (.ok (if edit.changed then changed + 1 else changed), d)

/-- Gives the lines from `first` to `last` their indentation, as one group. -/
def reindentLines (d : Document) (first last : Nat) : Except BufferError Nat × Document :=
  d.grouped ⟨first, 0⟩ fun d => d.indentLines first (last + 1 - first)

/-! ### Finding and replacing -/

/-- The next match from a point. -/
def findNext (d : Document) (pattern : Text) (p : Point) (o : FindOptions) (wrap : Bool) :
    Except FindError (Option Range) := d.buffer.findNext pattern p o wrap

/-- All matches in the text. -/
def findAll (d : Document) (pattern : Text) (o : FindOptions) : Except FindError (List Range) :=
  d.buffer.findAll pattern d.buffer.range o

/-- Replaces all matches inside a range, as one group; gives their number. -/
def replaceAll (d : Document) (pattern replacement : Text) (r : Range) (o : FindOptions) :
    Except FindError Nat × Document :=
  d.grouped r.start fun d =>
    match d.buffer.replaceAll pattern replacement r o with
    | (.error e, b) => (.error e, { d with buffer := b })
    | (.ok edits, b) => (.ok edits.length, edits.foldl recorded { d with buffer := b })

/-- Replaces the selection if it is a match, and finds the next one. -/
def replaceNext (d : Document) (pattern replacement : Text) (selection : Range) (o : FindOptions)
    (wrap : Bool) : Except FindError ReplaceStep × Document :=
  d.grouped selection.start fun d =>
    match d.buffer.replaceNext pattern replacement selection o wrap with
    | (.error e, b) => (.error e, { d with buffer := b })
    | (.ok step, b) =>
      let d := { d with buffer := b }
      match step with
      | .replaced edit _ => (.ok step, d.recorded edit)
      | _ => (.ok step, d)

/-! ### Undoing and redoing -/

/-- Does an operation without recording it. -/
def perform (d : Document) (op : EditOperation) : Except BufferError Edit × Document :=
  let (result, b) := match op with
    | .insert p t => d.buffer.insert p t
    | .delete p t => d.buffer.delete (.between p (p.advance t))
  (result, { d with buffer := b })

/-- Does operations one after the other, up to the first that is refused. -/
def performAll (d : Document) : List EditOperation → Except BufferError Unit × Document
  | [] => (.ok (), d)
  | op :: rest =>
    match d.perform op with
    | (.error e, d) => (.error e, d)
    | (.ok _, d) => d.performAll rest

/-- Does the operations that the history has given; gives the caret, `none` if there is nothing to
do. -/
def revisit (d : Document) (step : Option (List EditOperation × Point) × History) :
    Except BufferError (Option Point) × Document :=
  let d := { d with history := step.2 }
  match step.1 with
  | none => (.ok none, d)
  | some (operations, caret) =>
    match d.performAll operations with
    | (.error e, d) => (.error e, d)
    | (.ok (), d) => (.ok (some caret), { d with modified := true })

/-- Undoes the last group. -/
def undo (d : Document) : Except BufferError (Option Point) × Document := d.revisit d.history.undo

/-- Redoes the group undone last. -/
def redo (d : Document) : Except BufferError (Option Point) × Document := d.revisit d.history.redo

/-- Whether there is a group to undo. -/
def canUndo (d : Document) : Bool := d.history.canUndo

/-- Whether there is a group to redo. -/
def canRedo (d : Document) : Bool := d.history.canRedo

/-- Forgets the history. -/
def clearHistory (d : Document) : Document := { d with history := d.history.clear }

/-- Sets whether typing makes one group. -/
def setCoalesce (d : Document) (on : Bool) : Document :=
  { d with history := { d.history with coalesce := on } }

end Document

end SourceEditor
