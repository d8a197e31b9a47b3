/-
  SourceEditor/Search/Replace.lean
  ================================
  **Replacing in a buffer**: all matches of a range, or the match that is selected.  Replacing all
  goes forward from match to match; the search goes on behind each inserted text, so a
  replacement that matches itself is not found again.

  These operations edit step by step.  They give the buffer they leave in any case, also with an
  error.
-/
import SourceEditor.Search.Find
import SourceEditor.Buffer.Edit

namespace SourceEditor

/-- What is left of a range after the match `replaced` inside it gave way to a text that ends at
`caret`: the part behind that text. -/
def Range.rebase (source replaced : Range) (caret : Point) : Range :=
  let stop : Point :=
    if source.stop.line = replaced.stop.line then
      ⟨caret.line, caret.col + (source.stop.col - replaced.stop.col)⟩
    else ⟨caret.line + source.stop.line - replaced.stop.line, source.stop.col⟩
  ⟨caret, stop⟩

/-- Replaces matches inside a range from the first one on, at most `fuel` of them. -/
def Matcher.replaceFrom (m : Matcher) (replacement : Text) :
    Nat → Buffer → Range → Except FindError (List Edit) × Buffer
  | 0, b, _ => (.ok [], b)
  | fuel + 1, b, source =>
    match m.findFirst b source with
    | none => (.ok [], b)
    | some found =>
      match b.replace found (m.replacement b found replacement) with
      | (.error e, b) => (.error (.buffer e), b)
      | (.ok edit, b) =>
        match m.replaceFrom replacement fuel b (source.rebase found edit.caret) with
        | (.error e, b) => (.error e, b)
        | (.ok edits, b) => (.ok (edit :: edits), b)

/-- What one step of replacing has done. -/
inductive ReplaceStep where
  /-- The selection was no match; this is the next one. -/
  | selected (r : Range)
  /-- The selection was replaced; the next match, if there is one. -/
  | replaced (edit : Edit) (next : Option Range)
  | notFound
  deriving DecidableEq, Repr

namespace Buffer

/-- Replaces all matches inside a range; gives the edits in order.  A match takes at least one
character of the range, so one more than their number is enough fuel. -/
def replaceAll (b : Buffer) (pattern replacement : Text) (r : Range) (o : FindOptions)
    (E : Engine := .standard) : Except FindError (List Edit) × Buffer :=
  match b.checkRange r with
  | .error e => (.error (.buffer e), b)
  | .ok () =>
    match Matcher.ofPattern pattern o.forward E with
    | .error e => (.error e, b)
    | .ok m => m.replaceFrom replacement ((b.slice r).length + 1) b r

/-- Replaces the selection if it is the match that a search inside it finds first, and then finds
the next match.  Otherwise the next match from the start of the selection is to be selected. -/
def replaceNext (b : Buffer) (pattern replacement : Text) (selection : Range) (o : FindOptions)
    (wrap : Bool) (E : Engine := .standard) : Except FindError ReplaceStep × Buffer :=
  match b.checkRange selection with
  | .error e => (.error (.buffer e), b)
  | .ok () =>
    match Matcher.ofPattern pattern o E with
    | .error e => (.error e, b)
    | .ok m =>
      if !selection.isEmpty && m.findFirst b selection == some selection then
        match b.replace selection (m.replacement b selection replacement) with
        | (.error e, b) => (.error (.buffer e), b)
        | (.ok edit, b) =>
          let start := if o.reverse then edit.range.start else edit.caret
          match b.findNext pattern start o wrap E with
          | .error e => (.error e, b)
          | .ok next => (.ok (.replaced edit next), b)
      else
        match b.findNext pattern selection.start o wrap E with
        | .error e => (.error e, b)
        | .ok none => (.ok .notFound, b)
        | .ok (some r) => (.ok (.selected r), b)

end Buffer

end SourceEditor
