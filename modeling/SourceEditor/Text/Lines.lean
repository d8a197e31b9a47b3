/-
  SourceEditor/Text/Lines.lean
  ============================
  **Texts and their lines.**  A text is its list of characters, so a column is an index into it.
  Reading accepts a line feed, a carriage return and the two together as one line break; writing
  uses the line feed only.
-/
import SourceEditor.Text.Character

namespace SourceEditor

/-- A piece of text, as its characters. -/
abbrev Text := List Char

namespace Text

/-! ### Lines -/

/-- Puts a character in front of the first of some lines. -/
def consFirst (c : Char) : List Text → List Text
  | [] => [[c]]
  | line :: rest => (c :: line) :: rest

/-- The lines of a text, without their line breaks.  There is always at least one, and a line
break at the end of the text opens one more, empty line. -/
def lines : Text → List Text
  | [] => [[]]
  | '\r' :: '\n' :: rest => [] :: lines rest
  | c :: rest => if isLineBreak c then [] :: lines rest else consFirst c (lines rest)

theorem consFirst_ne_nil (c : Char) (ls : List Text) : consFirst c ls ≠ [] := by
  cases ls <;> simp [consFirst]

theorem lines_ne_nil (t : Text) : lines t ≠ [] := by
  fun_cases lines t <;> simp [consFirst_ne_nil]

/-- Lines written one after the other, with a line feed between two of them. -/
def joinLines (ls : List Text) : Text := ['\n'].intercalate ls

/-- The text with every line break written as a line feed. -/
def normalized (t : Text) : Text := joinLines (lines t)

/-- The lines with a text in front of the first one. -/
def prependFirst (before : Text) : List Text → List Text
  | [] => [before]
  | line :: rest => (before ++ line) :: rest

/-- The lines with a text behind the last one. -/
def appendLast (after : Text) : List Text → List Text
  | [] => [after]
  | [line] => [line ++ after]
  | line :: rest => line :: appendLast after rest

/-- The lines with a text in front of the first and one behind the last. -/
def surround (before after : Text) (ls : List Text) : List Text :=
  appendLast after (prependFirst before ls)

/-- The lines without the first `n` characters of the first one. -/
def dropFirst (n : Nat) : List Text → List Text
  | [] => []
  | line :: rest => line.drop n :: rest

/-- The lines with the first `n` characters only of the last one. -/
def takeLast (n : Nat) : List Text → List Text
  | [] => []
  | [line] => [line.take n]
  | line :: rest => line :: takeLast n rest

/-! ### Ends of a text -/

/-- The text without leading white space. -/
def trimStart (t : Text) : Text := t.dropWhile isWhitespace

/-- The text without trailing white space. -/
def trimEnd (t : Text) : Text := (trimStart t.reverse).reverse

/-- The text without white space at either end. -/
def trim (t : Text) : Text := trimEnd (trimStart t)

/-- The leading spaces and tabs. -/
def indent (t : Text) : Text := t.takeWhile isBlank

/-- The word at the start of a text, empty if it starts with none. -/
def firstWord (t : Text) : Text := t.takeWhile isWordChar

/-- Whether `marker` occurs at the start of the text; an empty marker occurs nowhere. -/
def startsWith (t marker : Text) : Bool := !marker.isEmpty && marker.isPrefixOf t

end Text

end SourceEditor
