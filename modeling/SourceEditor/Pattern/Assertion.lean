/-
  SourceEditor/Pattern/Assertion.lean
  ===================================
  **Assertions of a pattern**: conditions on a place in a text that take no character.  Each one
  is decided by the characters directly before and after the place, `none` at an end of the text.
-/
import SourceEditor.Text.Lines

namespace SourceEditor.Pattern

/-- A condition on whether there are word characters before and after a place. -/
inductive WordRule where
  | boundary
  | notBoundary
  | start
  | stop
  | startHalf
  | stopHalf
  deriving DecidableEq, Repr

/-- A condition on a place in a text. -/
inductive Assertion where
  | textStart
  | textStop
  /-- At the start of a line; whether carriage returns end lines too. -/
  | lineStart (returns : Bool)
  /-- At the end of a line; whether carriage returns end lines too. -/
  | lineStop (returns : Bool)
  /-- At a place among words; whether only ASCII characters make words. -/
  | word (rule : WordRule) (ascii : Bool)
  deriving DecidableEq, Repr

/-- Whether an ASCII character makes words. -/
def isAsciiWord (c : Char) : Bool := c.isAlphanum || c == '_'

/-- The marks, digits, connectors and joiners that make words in a pattern besides the alphabetic
characters. -/
def wordExtras : CharSet :=
  Unicode.marks ∪ Unicode.categories [.decimalNumber, .connectorPunctuation] ∪ Unicode.joinControl

/-- Whether a character makes words in a pattern. -/
def isPatternWord (c : Char) : Bool :=
  if isAscii c then isAsciiWord c else Unicode.alphabetic.contains c || wordExtras.contains c

/-- Whether a word rule holds, given whether a word character is before and after the place. -/
def WordRule.holds (before after : Bool) : WordRule → Bool
  | .boundary => before != after
  | .notBoundary => before == after
  | .start => !before && after
  | .stop => before && !after
  | .startHalf => !before
  | .stopHalf => !after

/-- Whether an assertion holds between two characters.  Where carriage returns end lines, there is
no place between a carriage return and the line feed after it. -/
def Assertion.holds (before after : Option Char) : Assertion → Bool
  | .textStart => before.isNone
  | .textStop => after.isNone
  | .lineStart false => before.isNone || before == some '\n'
  | .lineStop false => after.isNone || after == some '\n'
  | .lineStart true =>
    before.isNone || before == some '\n' || (before == some '\r' && after != some '\n')
  | .lineStop true =>
    after.isNone || after == some '\r' || (after == some '\n' && before != some '\r')
  | .word rule ascii =>
    let isWord := if ascii then fun c => isAscii c && isAsciiWord c else isPatternWord
    rule.holds (before.any isWord) (after.any isWord)

end SourceEditor.Pattern
