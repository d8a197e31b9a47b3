/-
  SourceEditor/Text/Quoted.lean
  =============================
  **Quoted text**, as messages show a marker or a pattern: between double quotes, with escapes
  for the quote, the backslash, the usual control characters, and every character that has no
  shape of its own or only extends the one before it.
-/
import SourceEditor.Text.Lines

namespace SourceEditor.Text

/-- The lower-case hexadecimal digits of a number. -/
def hexDigits (n : Nat) : Text := Nat.toDigits 16 n

/-- The characters outside ASCII that cannot be read off a message: those that extend the one
before them, but for the two half width sound marks, those that may show nothing, and those that
have no shape of their own. -/
def hidden : CharSet :=
  (Unicode.graphemeExtend ∪ Unicode.recentGraphemeExtend).diff (.range 0xFF9E 0xFF9F) ∪
    Unicode.defaultIgnorable ∪ Unicode.unprintable.diff Unicode.recentlyAssigned

/-- Whether a quoted character is written by its code point. -/
def isHidden (c : Char) : Bool :=
  if isAscii c then c.toNat < 32 || c.toNat == 127 else hidden.contains c

/-- One character of a quoted text. -/
def quotedChar (c : Char) : Text :=
  match c with
  | '\x00' => ['\\', '0']
  | '\t' => ['\\', 't']
  | '\n' => ['\\', 'n']
  | '\r' => ['\\', 'r']
  | '\\' => ['\\', '\\']
  | '"' => ['\\', '"']
  | _ => if isHidden c then ['\\', 'u', '\x7b'] ++ hexDigits c.toNat ++ ['\x7d'] else [c]

/-- The text between double quotes, escaped. -/
def quoted (t : Text) : Text := '"' :: t.flatMap quotedChar ++ ['"']

end SourceEditor.Text
