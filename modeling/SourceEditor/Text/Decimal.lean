/-
  SourceEditor/Text/Decimal.lean
  ==============================
  **Decimal numbers in text**: writing them, aligning them, and reading the unsigned 64-bit
  numbers of a command line or a template.
-/
import SourceEditor.Text.Lines

namespace SourceEditor.Text

/-- The decimal digits of a number. -/
def ofNat (n : Nat) : Text := Nat.toDigits 10 n

/-- The text moved to the right end of a field of the given width. -/
def alignRight (width : Nat) (t : Text) : Text := t.leftpad width ' '

/-- The value of a row of decimal digits, most significant first. -/
def digitsValue (digits : Text) : Nat :=
  digits.foldl (fun n c => n * 10 + (c.toNat - '0'.toNat)) 0

/-- Reads an unsigned 64-bit number: an optional plus sign, then digits and nothing else. -/
def unsigned? (t : Text) : Option Nat :=
  let digits := match t with
    | '+' :: rest => rest
    | _ => t
  if digits.isEmpty || !digits.all Char.isDigit then none
  else
    let n := digitsValue digits
    if n < UInt64.size then some n else none

end SourceEditor.Text
