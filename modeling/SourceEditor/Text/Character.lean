/-
  SourceEditor/Text/Character.lean
  ================================
  **Classes of characters** that scanning, indenting and searching ask about.  Characters of the
  ASCII block are decided without a table.
-/
import SourceEditor.Unicode.Recent

namespace SourceEditor

/-- Whether the character is in the ASCII block. -/
def isAscii (c : Char) : Bool := c.toNat < 128

/-- Whether the character is alphabetic. -/
def isAlphabetic (c : Char) : Bool :=
  if isAscii c then c.isAlpha
  else Unicode.alphabetic.contains c || Unicode.recentAlphabetic.contains c

/-- Whether the character is a number of any kind: a digit, a letter number or another one. -/
def isNumeric (c : Char) : Bool :=
  if isAscii c then c.isDigit else Unicode.numbers.contains c || Unicode.recentNumbers.contains c

/-- Whether the character is alphabetic or a number. -/
def isAlphanumeric (c : Char) : Bool := isAlphabetic c || isNumeric c

/-- The characters of identifiers, and of words in a whole-word search. -/
def isWordChar (c : Char) : Bool := isAlphanumeric c || c == '_'

/-- Whether the character is white space. -/
def isWhitespace (c : Char) : Bool :=
  if isAscii c then c == ' ' || (9 ≤ c.toNat && c.toNat ≤ 13) else Unicode.whiteSpace.contains c

/-- The characters that indent a line: the space and the tab. -/
def isBlank (c : Char) : Bool := c == ' ' || c == '\t'

/-- The characters that end a line. -/
def isLineBreak (c : Char) : Bool := c == '\n' || c == '\r'

end SourceEditor
