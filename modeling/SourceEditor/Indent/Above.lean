/-
  SourceEditor/Indent/Above.lean
  ==============================
  **Looking up from a line.**  The indentation of a line follows from lines above it.  This
  module finds them: the nearest line that counts, the opener that a bracket or a line hangs on,
  and the line where a statement spread over several lines begins.  Quoted characters are passed
  over everywhere.
-/
import SourceEditor.Buffer.Basic

namespace SourceEditor

/-! ### Lines that count -/

/-- The greatest number below `n` with a property. -/
def nearestBelow (p : Nat → Bool) : Nat → Option Nat
  | 0 => none
  | n + 1 => if p n then some n else nearestBelow p n

theorem nearestBelow_lt {p : Nat → Bool} {n m : Nat} (h : nearestBelow p n = some m) : m < n := by
  induction n with
  | zero => simp [nearestBelow] at h
  | succ n ih =>
    simp only [nearestBelow] at h
    split at h
    · injection h; omega
    · have := ih h; omega

/-- Whether a line begins inside a quote that the line above left open.  Its leading white space
is content of the quote. -/
def Line.startsQuoted (l : Line) : Bool := l.stateIn != .normal

/-- Whether the first character of a line that is not blank is a `#` outside comments. -/
def Line.isDirective (l : Line) : Bool :=
  l.firstNonBlank.any fun col => l.text.trimStart.head? == some '#' && !l.isComment col

/-- Whether a line ends with a backslash, and so goes on in the next one. -/
def Line.isContinued (l : Line) : Bool := l.text.getLast? == some '\\'

namespace Buffer

/-- Whether the line with a number is a preprocessor line or continues one. -/
def isMacroLine (b : Buffer) : Nat → Bool
  | 0 => false
  | n + 1 =>
    match b.line? (n + 1) with
    | none => false
    | some l => l.isDirective || ((b.line? n).any Line.isContinued && b.isMacroLine n)

/-- Whether the line with a number counts for the indentation of lines below it: it holds code,
and it neither begins inside a quote nor belongs to a macro. -/
def isSignificant (b : Buffer) (n : Nat) : Bool :=
  ((b.line? n).any fun l => !l.isBlank && !l.isCommentOnly && !l.startsQuoted) &&
    !b.isMacroLine n

/-- The number of the nearest line above that counts. -/
def significantAbove (b : Buffer) (n : Nat) : Option Nat := nearestBelow b.isSignificant n

theorem significantAbove_lt {b : Buffer} {n m : Nat} (h : b.significantAbove n = some m) :
    m < n := nearestBelow_lt h

end Buffer

/-! ### Open brackets -/

/-- The characters of a search for an open bracket. -/
structure Brackets where
  opens : List Char
  closes : List Char
  /-- Characters outside any pair at which the search gives up. -/
  stops : List Char := []

/-- The braces of blocks. -/
def Brackets.braces : Brackets := ⟨['{'], ['}'], []⟩

/-- The parentheses of calls and the brackets of subscripts. -/
def Brackets.parens : Brackets := ⟨['(', '['], [')', ']'], []⟩

/-- Parentheses and brackets, inside the innermost block only. -/
def Brackets.parensInBlock : Brackets := ⟨['(', '['], [')', ']'], ['{', '}']⟩

/-- Where a search over some characters has led. -/
inductive BracketSearch where
  /-- To an opener without a closer, at this column. -/
  | found (col : Nat)
  /-- To a character that ends the search. -/
  | stopped
  /-- To the start, with this number of closers still waiting for their openers. -/
  | waiting (depth : Nat)
  deriving DecidableEq, Repr

/-- Goes backward through characters with their columns, the last one first; `depth` closers wait
for their openers. -/
def Brackets.search (br : Brackets) (depth : Nat) : List (Nat × Char) → BracketSearch
  | [] => .waiting depth
  | (col, c) :: rest =>
    if br.closes.contains c then br.search (depth + 1) rest
    else if br.opens.contains c then
      match depth with
      | 0 => .found col
      | d + 1 => br.search d rest
    else if depth = 0 && br.stops.contains c then .stopped
    else br.search depth rest

namespace Buffer

/-- Goes up from the end of the line with a number to an opener without a closer. -/
def openAbove (b : Buffer) (br : Brackets) (depth : Nat) : Nat → Option Point
  | 0 => none
  | n + 1 =>
    match b.line? (n + 1) with
    | none => none
    | some l =>
      match br.search depth l.codeChars.reverse with
      | .found col => some ⟨n + 1, col⟩
      | .stopped => none
      | .waiting d => b.openAbove br d n

/-- The nearest opener in front of a point without a closer between the two. -/
def unmatchedOpen (b : Buffer) (br : Brackets) (p : Point) : Option Point :=
  match b.line? p.line with
  | none => none
  | some l =>
    match br.search 0 (l.codeChars.filter fun c => c.1 < p.col).reverse with
    | .found col => some ⟨p.line, col⟩
    | .stopped => none
    | .waiting d => b.openAbove br d (p.line - 1)

end Buffer

/-! ### Starts of statements -/

/-- The column of the first closing parenthesis or bracket among some characters whose opener is
not among them; `depth` openers are waiting for their closers. -/
def unmatchedCloser (depth : Nat) : List (Nat × Char) → Option Nat
  | [] => none
  | (col, c) :: rest =>
    if c = '(' ∨ c = '[' then unmatchedCloser (depth + 1) rest
    else if c = ')' ∨ c = ']' then
      match depth with
      | 0 => some col
      | d + 1 => unmatchedCloser d rest
    else unmatchedCloser depth rest

namespace Buffer

/-- The number of the line where the statement that holds a point begins: closers in front of the
point are followed up to the lines of their openers. -/
def statementStart (b : Buffer) (n col : Nat) : Nat :=
  match b.line? n with
  | none => n
  | some l =>
    match unmatchedCloser 0 (l.codeChars.filter fun c => c.1 < col) with
    | none => n
    | some closer =>
      match b.unmatchedOpen .parens ⟨n, closer⟩ with
      | none => n
      | some p => if p.line < n then b.statementStart p.line p.col else n
termination_by n

theorem statementStart_le (b : Buffer) (n col : Nat) : b.statementStart n col ≤ n := by
  fun_induction statementStart b n col <;> omega

end Buffer

/-! ### Widths -/

namespace Line

/-- The display width of the leading blanks. -/
def indentWidth (l : Line) (o : Options) : UInt64 := o.indentWidth l.indent

/-- The display column of a character. -/
def displayColumn (l : Line) (o : Options) (col : Nat) : UInt64 := o.indentWidth (l.text.take col)

end Line

end SourceEditor
