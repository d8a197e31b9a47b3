/-
  SourceEditor/Pattern/Escape.lean
  ================================
  **Escapes of a pattern**: what a backslash and the characters after it stand for.  The readers
  take the rest of the pattern and give what follows the escape; `none` is a malformed pattern.
-/
import SourceEditor.Pattern.Classes

namespace SourceEditor.Pattern

/-- What an escape stands for. -/
inductive Escaped where
  | char (c : Char)
  | set (s : CharSet)
  | assertion (a : Assertion)

/-! ### Passing over white space -/

/-- The text after leading white space and comments; `inComment` tells whether it begins inside a
comment. -/
def skipSpaceFrom (inComment : Bool) : Text → Text
  | [] => []
  | c :: rest =>
    if inComment then skipSpaceFrom (c ≠ '\n') rest
    else if isWhitespace c then skipSpaceFrom false rest
    else if c = '#' then skipSpaceFrom true rest
    else c :: rest

/-- The text as the flags let it be read from here. -/
def Flags.skip (f : Flags) (t : Text) : Text := if f.verbose then skipSpaceFrom false t else t

/-- The leading characters with a property, and the rest; what the flags let pass is passed over
after each.  At most `fuel` characters are taken. -/
def Flags.takeWhile (f : Flags) (p : Char → Bool) : Nat → Text → Text × Text
  | fuel + 1, c :: rest =>
    if p c then
      let (taken, rest) := f.takeWhile p fuel (f.skip rest)
      (c :: taken, rest)
    else ([], c :: rest)
  | _, t => ([], t)

/-! ### Code points -/

/-- The value of hexadecimal digits. -/
def hexValue? (digits : Text) : Option Nat :=
  digits.foldl (fun n c => do return (← n) * 16 + (← CharSet.hexDigit? c)) (some 0)

/-- The character whose code point the hexadecimal digits give. -/
def hexChar? (digits : Text) : Option Char := do
  guard (!digits.isEmpty)
  let n ← hexValue? digits
  guard n.isValidChar
  return Char.ofNat n

/-- Reads a character given by its code point, after the letter `x`, `u` or `U`: between braces,
or as two, four or eight digits.  Without the `u` flag two digits are a byte, which is a
character in the ASCII block only. -/
def Flags.readCodePoint (f : Flags) (letter : Char) (t : Text) : Option (Char × Text) :=
  match f.skip t with
  | '\x7b' :: rest =>
    let (digits, rest) := f.takeWhile (· ≠ '\x7d') rest.length (f.skip rest)
    match rest with
    | _ :: rest => do return (← hexChar? digits, rest)
    | [] => none
  | t =>
    let count := if letter = 'x' then 2 else if letter = 'u' then 4 else 8
    let (digits, rest) := f.takeWhile (fun c => (CharSet.hexDigit? c).isSome) count t
    if digits.length = count then do
      let c ← hexChar? digits
      guard (f.unicode || letter ≠ 'x' || isAscii c)
      return (c, rest)
    else none

/-! ### Character properties -/

/-- The two sides of a text around the first place where `marker` occurs. -/
def splitAtMarker (marker : Text) : Text → Option (Text × Text)
  | [] => none
  | c :: rest =>
    if Text.startsWith (c :: rest) marker then some ([], (c :: rest).drop marker.length)
    else (splitAtMarker marker rest).map fun (before, after) => (c :: before, after)

/-- The characters that the text between the braces of a property denotes: a name, or a name and
a value with one of the marks `!=`, `:` and `=` between them.  The first mark denies the value, and
then the text denotes all other characters: this is what the second component tells. -/
def propertyChars? (t : Text) : Option (CharSet × Bool) :=
  match splitAtMarker ['!', '='] t with
  | some (name, value) => (Unicode.charsWithValue? name value).map (·, true)
  | none =>
    match [[':'], ['=']].findSome? fun marker => splitAtMarker marker t with
    | some (name, value) => (Unicode.charsWithValue? name value).map (·, false)
    | none => (Unicode.charsNamed? t).map (·, false)

/-- Reads a character property, after the letter `p` or `P`. -/
def Flags.readProperty (f : Flags) (negated : Bool) (t : Text) : Option (CharSet × Text) := do
  guard f.unicode
  let (chars, denied, rest) ← match f.skip t with
    | [] => none
    | '\x7b' :: rest =>
      let (name, rest) := f.takeWhile (· ≠ '\x7d') rest.length (f.skip rest)
      match rest with
      | _ :: rest => (propertyChars? name).map fun (chars, denied) => (chars, denied, rest)
      | [] => none
    | c :: rest =>
      if c = '\\' then none else (Unicode.charsNamed? [c]).map fun chars => (chars, false, rest)
  let set ← f.negatedIf (negated != denied) (f.folded chars)
  return (set, rest)

/-! ### Word boundaries -/

/-- Reads what may follow `\b`: a kind of boundary between braces.  If no name starts after the
brace, the brace belongs to a repetition. -/
def Flags.readBoundary (f : Flags) (t : Text) : Option (WordRule × Text) :=
  match t with
  | '\x7b' :: rest =>
    let isNameChar := fun c : Char => c.isAlpha || c == '-'
    match f.skip rest with
    | [] => none
    | c :: later =>
      if !isNameChar c then some (.boundary, t)
      else
        let (name, rest) := f.takeWhile isNameChar rest.length (c :: later)
        match String.ofList name, rest with
        | "start", '\x7d' :: rest => some (.start, rest)
        | "end", '\x7d' :: rest => some (.stop, rest)
        | "start-half", '\x7d' :: rest => some (.startHalf, rest)
        | "end-half", '\x7d' :: rest => some (.stopHalf, rest)
        | _, _ => none
  | _ => some (.boundary, t)

/-! ### All escapes -/

/-- Whether a character stands for itself after a backslash: any ASCII character but the letters,
the digits and the angle brackets. -/
def isEscapable (c : Char) : Bool := isAscii c && !c.isAlphanum && c != '<' && c != '>'

/-- Reads an escape, after its backslash. -/
def Flags.readEscape (f : Flags) : Text → Option (Escaped × Text)
  | [] => none
  | c :: rest =>
    let word (rule : WordRule) (rest : Text) := some (.assertion (.word rule !f.unicode), rest)
    if isEscapable c then some (.char c, rest)
    else
      match c with
      | 'x' | 'u' | 'U' => (f.readCodePoint c rest).map fun (c, rest) => (.char c, rest)
      | 'p' | 'P' => (f.readProperty (c = 'P') rest).map fun (s, rest) => (.set s, rest)
      | 'd' | 's' | 'w' => some (.set (f.letterClass c), rest)
      | 'D' | 'S' | 'W' =>
        (f.negatedIf true (f.letterClass c.toLower)).map fun s => (.set s, rest)
      | 'a' => some (.char '\x07', rest)
      | 'f' => some (.char '\x0c', rest)
      | 't' => some (.char '\t', rest)
      | 'n' => some (.char '\n', rest)
      | 'r' => some (.char '\r', rest)
      | 'v' => some (.char '\x0b', rest)
      | 'A' => some (.assertion .textStart, rest)
      | 'z' => some (.assertion .textStop, rest)
      | 'b' => (f.readBoundary rest).bind fun (rule, rest) => word rule rest
      | 'B' => word .notBoundary rest
      | '<' => word .start rest
      | '>' => word .stop rest
      | _ => none

end SourceEditor.Pattern
