/-
  SourceEditor/Lexis/Lexicon.lean
  ===============================
  **The lexical rules of a language**: its quote rules, in the order of their registration, and
  its keywords.  Registration keeps start markers distinct and non-empty, so that at every
  position the longest start marker decides which quote begins there.
-/
import SourceEditor.Lexis.Quote

namespace SourceEditor

/-- Quote rules and keywords. -/
structure Lexicon where
  quotes : List QuoteRule := []
  keywords : List Text := []
  deriving DecidableEq, Repr

namespace Lexicon

/-- Registers a quote rule and returns its index.  A rule without a start marker, one of several
lines without an end marker, and one whose start marker is taken are refused. -/
def addQuote (lex : Lexicon) (rule : QuoteRule) : Except QuoteRuleError (Nat × Lexicon) :=
  if rule.start.isEmpty then .error .emptyStartMarker
  else if rule.kind = .multiLine ∧ rule.stop.isEmpty then .error (.emptyEndMarker rule.start)
  else if lex.quotes.any fun q => q.start = rule.start then
    .error (.duplicateStartMarker rule.start)
  else .ok (lex.quotes.length, { lex with quotes := lex.quotes ++ [rule] })

/-- Registers rules one after the other, up to the first that is refused. -/
def addQuotes (lex : Lexicon) : List QuoteRule → Except QuoteRuleError Lexicon
  | [] => .ok lex
  | rule :: rest =>
    match lex.addQuote rule with
    | .error e => .error e
    | .ok (_, lex') => lex'.addQuotes rest

/-- Whether a word is a keyword. -/
def isKeyword (lex : Lexicon) (word : Text) : Bool := lex.keywords.contains word

/-- Of the rules from index `i` on, the first of those with the longest start marker at the start
of the text. -/
def longestStart (text : Text) : Nat → List QuoteRule → Option (Nat × QuoteRule)
  | _, [] => none
  | i, rule :: rest =>
    let later := longestStart text (i + 1) rest
    if text.startsWith rule.start then
      match later with
      | some (j, other) =>
        if rule.start.length < other.start.length then some (j, other) else some (i, rule)
      | none => some (i, rule)
    else later

/-- The rule whose quote begins at the start of the text, with its index. -/
def matchStart (lex : Lexicon) (text : Text) : Option (Nat × QuoteRule) :=
  longestStart text 0 lex.quotes

end Lexicon

end SourceEditor
