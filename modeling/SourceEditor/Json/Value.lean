/-
  SourceEditor/Json/Value.lean
  ============================
  **JSON values and their text.**  The reader accepts the JSON grammar and nothing else.  It keeps
  of a number only whether it is written as an unsigned 64-bit integer, and of a string or a name
  whose escapes leave half a character only that it is there: that is all that reading options asks.
-/
import SourceEditor.CharSet
import SourceEditor.Text.Decimal

namespace SourceEditor

/-- A JSON value. -/
inductive JsonValue where
  | null
  | bool (b : Bool)
  /-- A number; its value if it is an unsigned 64-bit integer without fraction and exponent. -/
  | number (value : Option Nat)
  /-- A string; its text if its escapes make whole characters. -/
  | string (text : Option Text)
  | array (elements : List JsonValue)
  /-- An object, with its members in order; the name of each if its escapes make whole
  characters. -/
  | object (members : List (Option Text × JsonValue))

namespace JsonValue

/-! ### White space and strings -/

/-- Whether JSON allows the character between its tokens. -/
def isSpace (c : Char) : Bool := c == ' ' || c == '\n' || c == '\t' || c == '\r'

/-- The text after leading white space. -/
def skipSpace (t : Text) : Text := t.dropWhile isSpace

/-- A piece of a string: a character, or an escaped 16-bit unit. -/
inductive Piece where
  | char (c : Char)
  | unit (n : Nat)

/-- The character that a letter after a backslash stands for. -/
def escapedChar? : Char → Option Char
  | '"' => some '"'
  | '\\' => some '\\'
  | '/' => some '/'
  | 'b' => some '\x08'
  | 'f' => some '\x0c'
  | 'n' => some '\n'
  | 'r' => some '\r'
  | 't' => some '\t'
  | _ => none

/-- The unit with four hexadecimal digits. -/
def unit? (a b c d : Char) : Option Nat := do
  return (((← CharSet.hexDigit? a) * 16 + (← CharSet.hexDigit? b)) * 16 +
    (← CharSet.hexDigit? c)) * 16 + (← CharSet.hexDigit? d)

/-- Reads a string after its opening quote, to the closing one. -/
def readPieces : Text → Option (List Piece × Text)
  | [] => none
  | '"' :: rest => some ([], rest)
  | '\\' :: 'u' :: a :: b :: c :: d :: rest => do
    let n ← unit? a b c d
    let (pieces, rest) ← readPieces rest
    return (.unit n :: pieces, rest)
  | '\\' :: c :: rest => do
    let e ← escapedChar? c
    let (pieces, rest) ← readPieces rest
    return (.char e :: pieces, rest)
  | c :: rest =>
    if c = '\\' ∨ c.toNat < 32 then none
    else (readPieces rest).map fun (pieces, rest) => (.char c :: pieces, rest)

/-- The text of a string, if every surrogate among its units is half of a pair. -/
def joinPieces : List Piece → Option Text
  | [] => some []
  | .char c :: rest => (joinPieces rest).map (c :: ·)
  | .unit u :: .unit v :: rest =>
    if 0xD800 ≤ u ∧ u < 0xDC00 then
      if 0xDC00 ≤ v ∧ v < 0xE000 then
        (joinPieces rest).map (Char.ofNat (0x10000 + (u - 0xD800) * 1024 + (v - 0xDC00)) :: ·)
      else none
    else if u.isValidChar then (joinPieces (.unit v :: rest)).map (Char.ofNat u :: ·)
    else none
  | .unit u :: rest =>
    if u.isValidChar then (joinPieces rest).map (Char.ofNat u :: ·) else none

/-! ### Numbers -/

/-- The digits at the start of a text, of which there must be one, and the rest. -/
def readDigits (t : Text) : Option (Text × Text) :=
  let digits := t.takeWhile Char.isDigit
  if digits.isEmpty then none else some (digits, t.drop digits.length)

/-- Reads the integral part of a number: no digit follows a leading zero. -/
def readInteger (t : Text) : Option (Text × Text) :=
  match readDigits t with
  | some ('0' :: _ :: _, _) => none
  | r => r

/-- Passes over the fraction of a number, if there is one, and tells whether there is. -/
def readFraction : Text → Option (Bool × Text)
  | '.' :: rest => (readDigits rest).map fun (_, rest) => (true, rest)
  | t => some (false, t)

/-- Passes over the exponent of a number, if there is one, and tells whether there is. -/
def readExponent (t : Text) : Option (Bool × Text) :=
  match t with
  | c :: rest =>
    if c = 'e' ∨ c = 'E' then
      let digits := match rest with
        | '+' :: rest => rest
        | '-' :: rest => rest
        | rest => rest
      (readDigits digits).map fun (_, rest) => (true, rest)
    else some (false, t)
  | [] => some (false, t)

/-- Reads a number. -/
def readNumber (t : Text) : Option (Option Nat × Text) := do
  let (negative, t) := match t with
    | '-' :: rest => (true, rest)
    | t => (false, t)
  let (digits, t) ← readInteger t
  let (hasFraction, t) ← readFraction t
  let (hasExponent, t) ← readExponent t
  let n := Text.digitsValue digits
  let isPlain := !negative && !hasFraction && !hasExponent && decide (n < UInt64.size)
  return (if isPlain then some n else none, t)

/-! ### Values -/

/-- Reads a value.  A level of nesting takes an opening and a closing character and at most two
units of fuel, and so does an element with its separator: twice the length of the text is
enough. -/
def readValue : (fuel : Nat) → Text → Option (JsonValue × Text)
  | 0, _ => none
  | fuel + 1, t =>
    match skipSpace t with
    | 'n' :: 'u' :: 'l' :: 'l' :: rest => some (.null, rest)
    | 't' :: 'r' :: 'u' :: 'e' :: rest => some (.bool true, rest)
    | 'f' :: 'a' :: 'l' :: 's' :: 'e' :: rest => some (.bool false, rest)
    | '"' :: rest => (readPieces rest).map fun (pieces, rest) => (.string (joinPieces pieces), rest)
    | '[' :: rest =>
      match skipSpace rest with
      | ']' :: rest => some (.array [], rest)
      | rest => (readElements fuel rest).map fun (l, rest) => (.array l, rest)
    | '\x7b' :: rest =>
      match skipSpace rest with
      | '\x7d' :: rest => some (.object [], rest)
      | rest => (readMembers fuel rest).map fun (l, rest) => (.object l, rest)
    | t => (readNumber t).map fun (n, rest) => (.number n, rest)
where
  /-- Reads the elements of an array up to its closing bracket. -/
  readElements : Nat → Text → Option (List JsonValue × Text)
    | 0, _ => none
    | fuel + 1, t => do
      let (v, rest) ← readValue fuel t
      match skipSpace rest with
      | ',' :: rest =>
        let (l, rest) ← readElements fuel rest
        return (v :: l, rest)
      | ']' :: rest => return ([v], rest)
      | _ => none
  /-- Reads the members of an object up to its closing brace. -/
  readMembers : Nat → Text → Option (List (Option Text × JsonValue) × Text)
    | 0, _ => none
    | fuel + 1, t => do
      let '"' :: rest := skipSpace t | none
      let (pieces, rest) ← readPieces rest
      let key := joinPieces pieces
      let ':' :: rest := skipSpace rest | none
      let (v, rest) ← readValue fuel rest
      match skipSpace rest with
      | ',' :: rest =>
        let (l, rest) ← readMembers fuel rest
        return ((key, v) :: l, rest)
      | '\x7d' :: rest => return ([(key, v)], rest)
      | _ => none

/-- Reads a text that is one value, with white space around it. -/
def read (t : Text) : Option JsonValue := do
  let (v, rest) ← readValue (2 * t.length + 2) t
  guard (skipSpace rest).isEmpty
  return v

end JsonValue

end SourceEditor
