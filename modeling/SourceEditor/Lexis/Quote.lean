/-
  SourceEditor/Lexis/Quote.lean
  =============================
  **Quote rules**: the comments and strings of a language.  A quote starts at its start marker.
  A quote of several lines ends at its end marker only; a quote of a single line ends there or
  at the end of the line, unless a backslash ends the line and carries the quote on.
-/
import SourceEditor.Lexis.Token
import SourceEditor.Text.Quoted

namespace SourceEditor

/-- How a quote ends. -/
inductive QuoteKind where
  /-- At the end marker or the end of the line.  A backslash escapes the next character, and one
  that ends the line continues the quote.  Without an end marker only the line ends it. -/
  | singleLine
  /-- At the end marker, possibly many lines later. -/
  | multiLine
  deriving DecidableEq, Repr

/-- A rule for one kind of comment or string. -/
structure QuoteRule where
  token : TokenKind
  start : Text
  stop : Text
  kind : QuoteKind
  deriving DecidableEq, Repr

/-- How the part of a quote on one line ends. -/
inductive QuoteEnd where
  /-- Closed after this many characters, the end marker included. -/
  | closed (length : Nat)
  /-- Open at the end of the line; whether it continues on the next line. -/
  | unclosed (continues : Bool)
  deriving DecidableEq, Repr

namespace QuoteRule

/-- Looks for the end marker of a quote of several lines; `n` characters have been read. -/
def findMarker (marker : Text) (n : Nat) : Text → QuoteEnd
  | [] => .unclosed true
  | c :: rest =>
    if Text.startsWith (c :: rest) marker then .closed (n + marker.length)
    else findMarker marker (n + 1) rest

/-- Looks for the end of a quote of a single line; a backslash and the character after it are
passed over together. -/
def findOnLine (marker : Text) (n : Nat) : Text → QuoteEnd
  | [] => .unclosed false
  | ['\\'] => .unclosed true
  | '\\' :: _ :: rest => findOnLine marker (n + 2) rest
  | c :: rest =>
    if Text.startsWith (c :: rest) marker then .closed (n + marker.length)
    else findOnLine marker (n + 1) rest

/-- The end of a quote in the text after its start marker, or in the line that it is carried
into. -/
def findEnd (rule : QuoteRule) (body : Text) : QuoteEnd :=
  match rule.kind with
  | .multiLine => findMarker rule.stop 0 body
  | .singleLine => findOnLine rule.stop 0 body

end QuoteRule

/-- Why a quote rule is not accepted. -/
inductive QuoteRuleError where
  | emptyStartMarker
  | emptyEndMarker (start : Text)
  | duplicateStartMarker (start : Text)
  deriving DecidableEq, Repr

/-- The text of a quote rule error. -/
def QuoteRuleError.message : QuoteRuleError → String
  | .emptyStartMarker => "quote rule has an empty start marker"
  | .emptyEndMarker start =>
    "multi-line quote rule starting with " ++ .ofList start.quoted ++ " has an empty end marker"
  | .duplicateStartMarker start =>
    "start marker " ++ .ofList start.quoted ++ " is already registered by another quote rule"

end SourceEditor
