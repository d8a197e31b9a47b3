/-
  SourceEditor/Indent/Braces.lean
  ===============================
  **Indentation of languages with braces.**  The nearest line above that counts decides, together
  with a few shapes of the line itself: a closing brace at its start, a `case` label, an access
  specifier.
-/
import SourceEditor.Indent.Above

namespace SourceEditor

/-- The words that begin a statement whose body may follow without braces. -/
def headerWords : List Text := ["if", "else", "for", "while", "do"].map String.toList

/-- The words of access specifiers. -/
def accessWords : List Text := ["public", "protected", "private"].map String.toList

namespace Line

/-- Whether the line is a `case` or `default` label. -/
def isCaseLabel (l : Line) : Bool :=
  let code := l.codeText
  let word := code.firstWord
  if word = "case".toList then true
  else if word = "default".toList then
    (Text.trimStart (code.drop word.length)).head? == some ':'
  else false

/-- Whether the line is an access specifier: one of the words and a single colon. -/
def isAccessSpecifier (l : Line) : Bool :=
  let code := l.codeText
  accessWords.any fun word =>
    word.isPrefixOf code &&
      match Text.trimStart (code.drop word.length) with
      | ':' :: ':' :: _ => false
      | ':' :: _ => true
      | _ => false

/-- The column of the first character after a column that is neither white space nor comment. -/
def tokenAfter (l : Line) (col : Nat) : Option Nat :=
  (l.columns.find? fun (c, ch) => col < c && !isWhitespace ch && !l.isComment c).map Prod.fst

end Line

namespace Buffer

/-- The width of the indentation of the line with a number. -/
def widthAt (b : Buffer) (o : Options) (n : Nat) : UInt64 :=
  ((b.line? n).map fun l => l.indentWidth o).getD 0

/-- The width of the indentation of the statement that holds a point. -/
def statementWidth (b : Buffer) (o : Options) (p : Point) : UInt64 :=
  b.widthAt o (b.statementStart p.line p.col)

/-- Whether the statement that ends on a line is a header whose body is on the next line. -/
def isOpenHeader (b : Buffer) (n : Nat) : Bool :=
  match b.line? n with
  | none => false
  | some l =>
    match l.lastCodeChar with
    | none => false
    | some (_, last) =>
      if last = ';' ∨ last = '{' ∨ last = '}' then false
      else
        (b.line? (b.statementStart n l.length)).any fun start =>
          headerWords.contains
            (Text.trimStart (start.codeText.dropWhile (· == '}'))).firstWord

/-- The width at which a statement that has ended leaves the next line.  If the statement is the
body of headers without braces, those have ended with it, and the outermost header counts. -/
def closedWidth (b : Buffer) (o : Options) (n : Nat) : UInt64 :=
  match _h : b.significantAbove n with
  | none => b.widthAt o n
  | some above =>
    if b.isOpenHeader above then
      b.closedWidth o (b.statementStart above (((b.line? above).map Line.length).getD 0))
    else b.widthAt o n
termination_by n
decreasing_by
  have := significantAbove_lt ‹_›
  have := b.statementStart_le above (((b.line? above).map Line.length).getD 0)
  omega

/-- The width of the indentation of a line that stands in the block around it: a closing brace, a
label or an access specifier; `none` for other lines, and outside all blocks. -/
def blockWidth (b : Buffer) (o : Options) (n : Nat) (l : Line) : Option UInt64 :=
  let around (col : Nat) (extra : UInt64) : Option UInt64 :=
    (b.unmatchedOpen .braces ⟨n, col⟩).map fun p => b.statementWidth o p + extra
  let closing := match l.firstCodeChar with
    | some (col, '}') => around col 0
    | _ => none
  let label :=
    if l.isCaseLabel then around 0 (if o.indentCase then o.shiftWidth else 0) else none
  let specifier :=
    if l.isAccessSpecifier then around 0 (if o.indentAccessSpecifier then o.shiftWidth else 0)
    else none
  closing <|> label <|> specifier

/-- The width of the indentation of a line inside parentheses or brackets left open above: under
the first token after the opener, or one level in if nothing follows the opener. -/
def continuationWidth (b : Buffer) (o : Options) (n : Nat) : Option UInt64 :=
  (b.unmatchedOpen .parensInBlock ⟨n, 0⟩).bind fun p =>
    (b.line? p.line).map fun l =>
      match l.tokenAfter p.col with
      | some col => l.displayColumn o col
      | none => b.statementWidth o p + o.shiftWidth

/-- The width of the indentation after the line `above` has ended a statement or a label. -/
def widthAfter (b : Buffer) (o : Options) (above : Nat) (l : Line) : UInt64 :=
  let afterStatement := b.closedWidth o (b.statementStart above l.length)
  match l.lastCodeChar with
  | some (col, '}') =>
    match b.unmatchedOpen .braces ⟨above, col⟩ with
    | some p => b.closedWidth o (b.statementStart p.line p.col)
    | none => afterStatement
  | some (_, ':') =>
    if l.isAccessSpecifier || l.isCaseLabel then l.indentWidth o + o.shiftWidth
    else afterStatement
  | _ => afterStatement

/-- The width of the indentation that follows from the nearest line above that counts. -/
def widthFromAbove (b : Buffer) (o : Options) (n : Nat) (l : Line) : UInt64 :=
  match b.significantAbove n with
  | none => 0
  | some above =>
    match b.line? above with
    | none => 0
    | some aboveLine =>
      match aboveLine.lastCodeChar with
      | some (col, '{') => b.statementWidth o ⟨above, col⟩ + o.shiftWidth
      | _ =>
        match b.continuationWidth o n with
        | some width => width
        | none =>
          if b.isOpenHeader above then
            let header := b.statementWidth o ⟨above, aboveLine.length⟩
            match l.firstCodeChar with
            | some (_, '{') => header
            | _ => header + o.shiftWidth
          else b.widthAfter o above aboveLine

/-- The indentation of a line in a language with braces.  Macros and lines that begin inside a
quote keep what they have. -/
def braceIndent (b : Buffer) (o : Options) (n : Nat) : Text :=
  match b.line? n with
  | none => []
  | some l =>
    if b.isMacroLine n || l.startsQuoted then l.indent
    else o.makeIndent ((b.blockWidth o n l).getD (b.widthFromAbove o n l))

end Buffer

end SourceEditor
