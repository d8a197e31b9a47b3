/-
  SourceEditor/Lexis/Token.lean
  =============================
  **Tokens of a line**: the kinds of text a scan tells apart, the spans that carry them, and the
  state that goes from one line to the next.
-/
namespace SourceEditor

/-- What a span of a line holds.  Text outside all spans is plain. -/
inductive TokenKind where
  | comment
  | string
  | char
  | preprocessor
  | number
  | identifier
  | keyword
  /-- Matched text in a listing of matches. -/
  | found
  deriving DecidableEq, Repr

namespace TokenKind

/-- Whether brackets and words inside the kind are not code. -/
def isQuoted : TokenKind → Bool
  | .comment | .string | .char | .preprocessor => true
  | _ => false

/-- Whether the kind is a comment. -/
def isComment : TokenKind → Bool
  | .comment => true
  | _ => false

/-- The name of the kind. -/
def name : TokenKind → String
  | .comment => "Comment"
  | .string => "String"
  | .char => "Char"
  | .preprocessor => "Preprocessor"
  | .number => "Number"
  | .identifier => "Identifier"
  | .keyword => "Keyword"
  | .found => "Match"

end TokenKind

/-- A classified stretch of a line, in columns. -/
structure Span where
  offset : Nat
  length : Nat
  kind : TokenKind
  deriving DecidableEq, Repr

namespace Span

/-- The column just past the span. -/
def stop (s : Span) : Nat := s.offset + s.length

/-- Whether the span covers the character at a column. -/
def contains (s : Span) (col : Nat) : Bool := s.offset ≤ col && col < s.stop

/-- A span as it is listed: `Kind@offset+length`. -/
def shown (s : Span) : String := s!"{s.kind.name}@{s.offset}+{s.length}"

/-- Spans as they are listed, with a space between two of them. -/
def shownAll (spans : List Span) : String := " ".intercalate (spans.map shown)

end Span

/-- What a line inherits from the lines above it. -/
inductive ScanState where
  | normal
  /-- Inside a quote of the rule with this index. -/
  | quote (rule : Nat)
  deriving DecidableEq, Repr

/-- The outcome of scanning a line: its spans, and the state it leaves to the next line. -/
structure Scan where
  spans : List Span
  stateOut : ScanState
  deriving DecidableEq, Repr

end SourceEditor
