/-
  SourceEditor/Line.lean
  ======================
  **A line of a buffer**: its text, the identity that follows it through edits, and what its last
  scan found.  The questions that indenting asks about a line are answered here, always with
  quoted characters (comments, strings, preprocessor lines) told apart from code.
-/
import SourceEditor.Lexis.Scan

namespace SourceEditor

/-- The identity of a line; `none` marks a line without one, such as a heading in a listing. -/
abbrev LineId := Option Nat

/-- A line with its lexical annotation. -/
structure Line where
  id : LineId
  text : Text
  spans : List Span
  stateIn : ScanState
  stateOut : ScanState
  deriving DecidableEq, Repr

namespace Line

/-- A line that has not been scanned. -/
def unscanned (id : LineId) (text : Text) : Line := ⟨id, text, [], .normal, .normal⟩

/-- The number of characters. -/
def length (l : Line) : Nat := l.text.length

/-- The line with the annotation that a scan from `state` gives it. -/
def scanned (lex : Lexicon) (state : ScanState) (l : Line) : Line :=
  let s := lex.scanLine state l.text
  { l with spans := s.spans, stateIn := state, stateOut := s.stateOut }

/-! ### Tokens -/

/-- The kind of token at a column: that of the first span that does not end before it, if the
span has begun. -/
def tokenAt (l : Line) (col : Nat) : Option TokenKind :=
  match l.spans.dropWhile fun s => s.stop ≤ col with
  | [] => none
  | s :: _ => if s.contains col then some s.kind else none

/-- Whether the character at a column is quoted. -/
def isQuoted (l : Line) (col : Nat) : Bool := (l.tokenAt col).any TokenKind.isQuoted

/-- Whether the character at a column is in a comment. -/
def isComment (l : Line) (col : Nat) : Bool := (l.tokenAt col).any TokenKind.isComment

/-! ### Blanks -/

/-- The leading spaces and tabs. -/
def indent (l : Line) : Text := l.text.indent

/-- Whether the line holds nothing but spaces and tabs. -/
def isBlank (l : Line) : Bool := l.text.all SourceEditor.isBlank

/-- The column of the first character that is neither space nor tab. -/
def firstNonBlank (l : Line) : Option Nat := l.text.findIdx? fun c => !SourceEditor.isBlank c

/-- The characters with their columns. -/
def columns (l : Line) : List (Nat × Char) := l.text.zipIdx.map Prod.swap

/-- Whether the line holds a comment and nothing else. -/
def isCommentOnly (l : Line) : Bool :=
  !l.isBlank && l.columns.all fun (col, c) => SourceEditor.isBlank c || l.isComment col

/-! ### Code -/

/-- The characters that are not quoted, with their columns. -/
def codeChars (l : Line) : List (Nat × Char) := l.columns.filter fun (col, _) => !l.isQuoted col

/-- The last character of code that is not white space, with its column. -/
def lastCodeChar (l : Line) : Option (Nat × Char) :=
  l.codeChars.reverse.find? fun (_, c) => !isWhitespace c

/-- The first character of code that is not white space, with its column. -/
def firstCodeChar (l : Line) : Option (Nat × Char) :=
  l.codeChars.find? fun (_, c) => !isWhitespace c

/-- The text with a space in place of every quoted character, without white space at its ends. -/
def codeText (l : Line) : Text :=
  Text.trim (l.columns.map fun (col, c) => if l.isQuoted col then ' ' else c)

/-! ### Spans from outside -/

/-- Keeps of some spans those that are not empty and start at or after the end of the last one
kept. -/
def keepDisjoint (stop : Nat) : List Span → List Span
  | [] => []
  | s :: rest =>
    if s.length > 0 ∧ stop ≤ s.offset then s :: keepDisjoint s.stop rest
    else keepDisjoint stop rest

/-- Any spans made ascending and disjoint: sorted by offset, and without those that are empty or
overlap one kept before. -/
def normalSpans (spans : List Span) : List Span :=
  keepDisjoint 0 (spans.mergeSort fun s t => s.offset ≤ t.offset)

/-- The line with the given identity, and the given spans in place of those of its scan. -/
def annotated (l : Line) (id : LineId) (spans : List Span) : Line :=
  { l with id := id, spans := normalSpans spans }

end Line

end SourceEditor
