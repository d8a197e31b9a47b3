/-
  SourceEditor/Lexis/Scan.lean
  ============================
  **Scanning one line.**  A scan depends on the line, the lexical rules and the state that the
  line above leaves, and on nothing else.  It goes through the line once, from left to right:
  where a token is found, its span is recorded and the rest of its characters are passed over.
-/
import SourceEditor.Lexis.Lexicon

namespace SourceEditor

namespace Scan

/-- The scan with one more span in front. -/
def add (span : Span) (s : Scan) : Scan := { s with spans := span :: s.spans }

/-- The scan of a line whose last quote, of the rule with index `i`, is open at its end. -/
def unclosed (i : Nat) (continues : Bool) (spans : List Span) : Scan :=
  ⟨spans, if continues then .quote i else .normal⟩

end Scan

/-- The characters of a number after its first digit. -/
def isNumberChar (c : Char) : Bool := isWordChar c || c == '.'

/-- Whether a word may start with the character. -/
def isWordStart (c : Char) : Bool := isAlphabetic c || c == '_'

namespace Lexicon

/-- The kind of a word. -/
def wordKind (lex : Lexicon) (word : Text) : TokenKind :=
  if lex.isKeyword word then .keyword else .identifier

/-- Scans the rest of a line from column `col`, after passing over `skip` characters that belong
to a token already recorded. -/
def scanCode (lex : Lexicon) : (skip col : Nat) → Text → Scan
  | _, _, [] => ⟨[], .normal⟩
  | skip + 1, col, _ :: rest => scanCode lex skip (col + 1) rest
  | 0, col, c :: rest =>
    match lex.matchStart (c :: rest) with
    | some (i, rule) =>
      match rule.findEnd ((c :: rest).drop rule.start.length) with
      | .closed n =>
        let length := rule.start.length + n
        (scanCode lex (length - 1) (col + 1) rest).add ⟨col, length, rule.token⟩
      | .unclosed continues =>
        .unclosed i continues [⟨col, (c :: rest).length, rule.token⟩]
    | none =>
      if c.isDigit then
        let number := (c :: rest).takeWhile isNumberChar
        (scanCode lex (number.length - 1) (col + 1) rest).add ⟨col, number.length, .number⟩
      else if isWordStart c then
        let word := (c :: rest).takeWhile isWordChar
        (scanCode lex (word.length - 1) (col + 1) rest).add ⟨col, word.length, lex.wordKind word⟩
      else scanCode lex 0 (col + 1) rest

/-- Scans a line that begins inside a quote of the rule with index `i`. -/
def scanQuoted (lex : Lexicon) (i : Nat) (rule : QuoteRule) (text : Text) : Scan :=
  match rule.findEnd text with
  | .closed n => (lex.scanCode n 0 text).add ⟨0, n, rule.token⟩
  | .unclosed continues =>
    .unclosed i continues (if text.isEmpty then [] else [⟨0, text.length, rule.token⟩])

/-- Scans a line that begins in the given state.  A state that names no rule of the table is the
normal one. -/
def scanLine (lex : Lexicon) (state : ScanState) (text : Text) : Scan :=
  match state with
  | .normal => lex.scanCode 0 0 text
  | .quote i =>
    match lex.quotes[i]? with
    | none => lex.scanCode 0 0 text
    | some rule => lex.scanQuoted i rule text

/-- Scans lines in order, each in the state that the line above leaves. -/
def scanLines (lex : Lexicon) (state : ScanState) : List Text → List Scan
  | [] => []
  | text :: rest =>
    let s := lex.scanLine state text
    s :: lex.scanLines s.stateOut rest

end Lexicon

end SourceEditor
