/-
  SourceEditor/Buffer/Edit.lean
  =============================
  **Editing a buffer.**  Inserting, deleting and replacing are one operation: a range of the text
  gives way to another text.  It is refused as a whole or done as a whole.  The lines it leaves
  are scanned again, and the lines below them as far as the state they inherit has changed; then
  the subscribers are told.

  A line keeps its identity through edits inside it, and when a text that ends with a line break
  is inserted in front of it; lines that come into being get identities never used before.
-/
import SourceEditor.Buffer.Basic

namespace SourceEditor

/-- What an edit did. -/
structure Edit where
  /-- The point after the inserted text. -/
  caret : Point
  /-- Whether the text changed. -/
  changed : Bool
  /-- The range of the inserted text. -/
  range : Range
  removed : Text
  /-- The inserted text, with line feeds for its line breaks. -/
  inserted : Text
  deriving DecidableEq, Repr

theorem Text.appendLast_ne_nil (after : Text) (ls : List Text) : appendLast after ls ≠ [] := by
  fun_cases appendLast after ls <;> simp

theorem Text.surround_ne_nil (before after : Text) (ls : List Text) :
    surround before after ls ≠ [] := appendLast_ne_nil after _

/-- Lines with the given texts and identities, not yet scanned.  The last one takes over the state
that the line at whose place it ends has left, which tells whether the lines below are still
scanned as they should be. -/
def Line.unscannedLines (stateOut : ScanState) : List LineId → List Text → List Line
  | id :: _, [t] => [{ Line.unscanned id t with stateOut }]
  | id :: ids, t :: rest => .unscanned id t :: unscannedLines stateOut ids rest
  | _, _ => []

theorem Line.unscannedLines_ne_nil {stateOut : ScanState} {ids : List LineId} {ts : List Text}
    (hids : ids ≠ []) (hts : ts ≠ []) : unscannedLines stateOut ids ts ≠ [] := by
  match ids, ts with
  | [], _ => exact absurd rfl hids
  | _, [] => exact absurd rfl hts
  | id :: ids, [t] => simp [unscannedLines]
  | id :: ids, t :: t' :: rest => simp [unscannedLines]

namespace Buffer

/-- The identities of the lines that `count` new lines leave at the place of a line: one takes
over its identity, the last if the line is only pushed down and otherwise the first, and the
others are new from `next` on. -/
def identities (next count : Nat) (old : LineId) (pushedDown : Bool) : List LineId :=
  let fresh := (List.range' next (count - 1)).map some
  if pushedDown then fresh ++ [old] else old :: fresh

theorem identities_ne_nil (next count : Nat) (old : LineId) (pushedDown : Bool) :
    identities next count old pushedDown ≠ [] := by
  cases pushedDown <;> simp [identities]

/-- The state in which the line at an index begins. -/
def stateAt (b : Buffer) : Nat → ScanState
  | 0 => .normal
  | i + 1 => (b.lines[i]?.map Line.stateOut).getD .normal

/-- The buffer after the lines of a valid range have given way to lines of the given pieces of
text, with what the range cut off in front of the first piece and behind the last. -/
def replaced (b : Buffer) (kind : ChangeKind) (r after : Range) (pieces : List Text) : Buffer :=
  let first := r.start.line - 1
  let last := r.stop.line - 1
  let firstLine := b.lines[first]?.getD b.firstLine
  let lastLine := b.lines[last]?.getD b.lastLine
  let texts := Text.surround (firstLine.text.take r.start.col) (lastLine.text.drop r.stop.col)
    pieces
  let pushedDown :=
    r.isEmpty && r.start.col == 0 && pieces.length > 1 && pieces.getLast? == some []
  let ids := identities b.nextId texts.length firstLine.id pushedDown
  let unscanned := Line.unscannedLines lastLine.stateOut ids texts ++ b.lines.drop (last + 1)
  let lines := b.lines.take first ++
    rescan b.profile.lexicon (b.stateAt first) (texts.length - 1) unscanned
  { b with
    lines
    nextId := b.nextId + (texts.length - 1)
    index := if texts.length = 1 ∧ first = last then b.index else none
    subscribers := b.subscribers.notify ⟨kind, r, after⟩
    lines_ne_nil := List.append_ne_nil_of_right_ne_nil _ (rescan_ne_nil
      (List.append_ne_nil_of_left_ne_nil (Line.unscannedLines_ne_nil
        (identities_ne_nil _ _ _ _) (Text.surround_ne_nil _ _ _)) _)) }

/-- Replaces a range by a text, and gives the buffer that this leaves in any case, also with an
error.  An edit that puts back what it removes changes nothing, and nobody is told of it. -/
def splice (b : Buffer) (kind : ChangeKind) (r : Range) (t : Text) :
    Except BufferError Edit × Buffer :=
  match b.checkRange r with
  | .error e => (.error e, b)
  | .ok () =>
    let inserted := t.normalized
    let removed := b.slice r
    let caret := r.start.advance inserted
    let after : Range := ⟨r.start, caret⟩
    if removed = inserted then (.ok ⟨caret, false, after, removed, inserted⟩, b)
    else (.ok ⟨caret, true, after, removed, inserted⟩, b.replaced kind r after t.lines)

/-- Inserts a text at a point. -/
def insert (b : Buffer) (p : Point) (t : Text) : Except BufferError Edit × Buffer :=
  b.splice .insert (.emptyAt p) t

/-- Deletes the text of a range. -/
def delete (b : Buffer) (r : Range) : Except BufferError Edit × Buffer :=
  b.splice .delete r []

/-- Replaces the text of a range. -/
def replace (b : Buffer) (r : Range) (t : Text) : Except BufferError Edit × Buffer :=
  b.splice .replace r t

/-! ### Appending lines -/

/-- Appends a line; it is scanned from the state that the last line leaves. -/
def appendOne (b : Buffer) (id : LineId) (t : Text) : Buffer :=
  let lines := b.lines ++
    [(Line.unscanned id t).scanned b.profile.lexicon b.lastLine.stateOut]
  { b with
    lines
    index := b.index.map fun index => index.enter b.lineCount id
    subscribers := b.subscribers.notify
      ⟨.insert, .emptyAt b.stopPoint, ⟨b.stopPoint, ⟨b.lineCount + 1, t.length⟩⟩⟩
    lines_ne_nil := by simp [lines] }

/-- Appends lines with new identities. -/
def appendNew (b : Buffer) : List Text → Buffer
  | [] => b
  | t :: rest =>
    let b' := b.appendOne (some b.nextId) t
    appendNew { b' with nextId := b.nextId + 1 } rest

/-- Appends the lines of a text below the last line, and tells the identity of the first. -/
def append (b : Buffer) (t : Text) : Nat × Buffer := (b.nextId, b.appendNew t.lines)

/-! ### Annotating lines -/

/-- Gives the line at an index an identity and spans. -/
def annotateAt (b : Buffer) (i : Nat) (id : LineId) (spans : List Span) : List Line :=
  b.lines.modify i fun l => l.annotated id spans

/-- Gives a line another identity, and spans in place of those of its scan.  A line that does not
exist is passed over. -/
def annotate (b : Buffer) (n : Nat) (id : LineId) (spans : List Span) : Buffer :=
  if n = 0 then b
  else
    let lines := b.annotateAt (n - 1) id spans
    { b with
      lines
      index := if n ≤ b.lineCount then none else b.index
      lines_ne_nil := by
        intro h
        exact b.lines_ne_nil (by simpa [lines, annotateAt] using h) }

/-- Appends a line that has an identity and spans of its own; its scan decides the states only. -/
def appendAnnotated (b : Buffer) (id : LineId) (t : Text) (spans : List Span) : Buffer :=
  let b' := b.appendOne id t
  { b' with
    lines := b'.annotateAt b.lineCount id spans
    lines_ne_nil := by
      intro h
      exact b'.lines_ne_nil (by simpa [annotateAt] using h) }

/-! ### Changing the profile -/

/-- Switches to another profile and scans all lines again. -/
def setProfile (b : Buffer) (profile : Profile) : Buffer :=
  { b with
    lines := rescan profile.lexicon .normal b.lineCount b.lines
    profile
    lines_ne_nil := rescan_ne_nil b.lines_ne_nil }

end Buffer

end SourceEditor
