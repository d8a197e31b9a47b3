/-
  SourceEditor/Text/Encoding.lean
  ===============================
  **Encodings of a text as bytes**: UTF-8 and the two byte orders of UTF-16.  Decoding is strict:
  it accepts the bytes that encoding some text gives and no others, and it takes a byte order
  mark for an ordinary character.
-/
import SourceEditor.Text.Lines

namespace SourceEditor

/-- The encodings known. -/
inductive Encoding where
  | utf8
  | utf16le
  | utf16be
  deriving DecidableEq, Repr

namespace Encoding

/-- The name of the encoding as people write it. -/
def name : Encoding → String
  | .utf8 => "UTF-8"
  | .utf16le => "UTF-16LE"
  | .utf16be => "UTF-16BE"

/-- The character with a code point, if it is one. -/
def char? (n : Nat) : Option Char := if n.isValidChar then some (Char.ofNat n) else none

/-! ### UTF-8 -/

/-- The six payload bits of a continuation byte. -/
def continuation? (b : UInt8) : Option Nat :=
  if 0x80 ≤ b ∧ b < 0xC0 then some (b.toNat - 0x80) else none

/-- The character that a sequence of payload bits gives, if no shorter sequence gives it: its
code point is at least `least`. -/
def charFrom? (least n : Nat) : Option Char := if least ≤ n then char? n else none

/-- Decodes UTF-8. -/
def decodeUtf8 : List UInt8 → Option Text
  | [] => some []
  | a :: rest =>
    if a < 0x80 then (decodeUtf8 rest).map (Char.ofNat a.toNat :: ·)
    else if a < 0xC0 then none
    else if a < 0xE0 then
      match rest with
      | b :: rest => do
        let c ← charFrom? 0x80 ((a.toNat - 0xC0) * 64 + (← continuation? b))
        return c :: (← decodeUtf8 rest)
      | _ => none
    else if a < 0xF0 then
      match rest with
      | b₁ :: b₂ :: rest => do
        let n := ((a.toNat - 0xE0) * 64 + (← continuation? b₁)) * 64 + (← continuation? b₂)
        let c ← charFrom? 0x800 n
        return c :: (← decodeUtf8 rest)
      | _ => none
    else if a < 0xF8 then
      match rest with
      | b₁ :: b₂ :: b₃ :: rest => do
        let n := ((a.toNat - 0xF0) * 64 + (← continuation? b₁)) * 64 + (← continuation? b₂)
        let c ← charFrom? 0x10000 (n * 64 + (← continuation? b₃))
        return c :: (← decodeUtf8 rest)
      | _ => none
    else none

/-- The continuation byte with the lowest six bits of a number. -/
def continuation (n : Nat) : UInt8 := .ofNat (0x80 + n % 64)

/-- The UTF-8 bytes of a character. -/
def encodeCharUtf8 (c : Char) : List UInt8 :=
  let n := c.toNat
  if n < 0x80 then [.ofNat n]
  else if n < 0x800 then [.ofNat (0xC0 + n / 64), continuation n]
  else if n < 0x10000 then [.ofNat (0xE0 + n / 4096), continuation (n / 64), continuation n]
  else
    [.ofNat (0xF0 + n / 262144), continuation (n / 4096), continuation (n / 64), continuation n]

/-! ### UTF-16 -/

/-- The 16-bit units of a row of bytes, in the order of bytes given by `unit`; `none` if a byte
is left over. -/
def units? (unit : UInt8 → UInt8 → Nat) : List UInt8 → Option (List Nat)
  | [] => some []
  | [_] => none
  | a :: b :: rest => (units? unit rest).map (unit a b :: ·)

/-- The unit with the low byte first. -/
def littleEndian (a b : UInt8) : Nat := a.toNat + 256 * b.toNat

/-- The unit with the high byte first. -/
def bigEndian (a b : UInt8) : Nat := 256 * a.toNat + b.toNat

/-- Decodes units: a high surrogate and a low one after it make one character, and no surrogate
stands alone. -/
def decodeUnits : List Nat → Option Text
  | [] => some []
  | u :: rest =>
    if 0xD800 ≤ u ∧ u < 0xDC00 then
      match rest with
      | v :: rest =>
        if 0xDC00 ≤ v ∧ v < 0xE000 then do
          let c ← char? (0x10000 + (u - 0xD800) * 1024 + (v - 0xDC00))
          return c :: (← decodeUnits rest)
        else none
      | [] => none
    else do
      let c ← char? u
      return c :: (← decodeUnits rest)

/-- The units of a character. -/
def encodeCharUnits (c : Char) : List Nat :=
  let n := c.toNat
  if n < 0x10000 then [n]
  else [0xD800 + (n - 0x10000) / 1024, 0xDC00 + (n - 0x10000) % 1024]

/-! ### Both directions -/

/-- The text that bytes encode, if they encode one. -/
def decode? (e : Encoding) (bytes : List UInt8) : Option Text :=
  match e with
  | .utf8 => decodeUtf8 bytes
  | .utf16le => (units? littleEndian bytes).bind decodeUnits
  | .utf16be => (units? bigEndian bytes).bind decodeUnits

/-- The bytes that encode a text. -/
def encode (e : Encoding) (t : Text) : List UInt8 :=
  match e with
  | .utf8 => t.flatMap encodeCharUtf8
  | .utf16le =>
    (t.flatMap encodeCharUnits).flatMap fun u => [.ofNat (u % 256), .ofNat (u / 256)]
  | .utf16be =>
    (t.flatMap encodeCharUnits).flatMap fun u => [.ofNat (u / 256), .ofNat (u % 256)]

end Encoding

end SourceEditor
