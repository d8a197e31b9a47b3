/-
  SourceEditor/Pattern/Classes.lean
  =================================
  **Flags and named classes of a pattern**: what letters such as `\d` and names such as
  `[:alpha:]` stand for, and how the flags in force change a set of characters.
-/
import SourceEditor.Pattern.Expr
import SourceEditor.Unicode.CaseFolding
import SourceEditor.Unicode.Query

namespace SourceEditor.Pattern

/-- The flags of a pattern. -/
structure Flags where
  /-- `i`: characters match up to case. -/
  ignoreCase : Bool := false
  /-- `m`: `^` and `$` match at line breaks. -/
  multiLine : Bool := false
  /-- `s`: the dot matches line feeds. -/
  dotAll : Bool := false
  /-- `U`: repetitions match as little as possible, and `?` turns that round. -/
  swapGreed : Bool := false
  /-- `u`: classes and word characters go beyond ASCII. -/
  unicode : Bool := true
  /-- `R`: carriage returns end lines too. -/
  returns : Bool := false
  /-- `x`: white space and comments in the pattern are passed over. -/
  verbose : Bool := false
  deriving DecidableEq, Repr

/-- The flags with the one named by a letter set or cleared. -/
def Flags.set? (f : Flags) (letter : Char) (value : Bool) : Option Flags :=
  match letter with
  | 'i' => some { f with ignoreCase := value }
  | 'm' => some { f with multiLine := value }
  | 's' => some { f with dotAll := value }
  | 'U' => some { f with swapGreed := value }
  | 'u' => some { f with unicode := value }
  | 'R' => some { f with returns := value }
  | 'x' => some { f with verbose := value }
  | _ => none

/-! ### Case -/

/-- The set closed under the case of ASCII letters. -/
def asciiCaseClosure (s : CharSet) : CharSet :=
  (List.range 26).foldl
    (fun t i => if s.holds (65 + i) || s.holds (97 + i) then
      (t.insert (65 + i) (65 + i)).insert (97 + i) (97 + i) else t) s

/-- The set as the flags read it: with the characters that differ from its members in case only,
if case is ignored. -/
def Flags.folded (f : Flags) (s : CharSet) : CharSet :=
  if !f.ignoreCase then s
  else if f.unicode then Unicode.foldClosure s
  else asciiCaseClosure s

/-- The set, or its complement if `negated`.  Without the `u` flag a complement would hold parts
of characters, which is an error. -/
def Flags.negatedIf (f : Flags) (negated : Bool) (s : CharSet) : Option CharSet :=
  if !negated then some s else if f.unicode then some s.complement else none

/-! ### Named classes -/

/-- The digits, spaces and word characters that an escaped letter stands for, in lower case. -/
def Flags.letterClass (f : Flags) (letter : Char) : CharSet :=
  match letter with
  | 'd' => if f.unicode then Unicode.Category.decimalNumber.chars else .range 0x30 0x39
  | 's' => if f.unicode then Unicode.whiteSpace else .ofTable ["9-D 20"]
  | _ => if f.unicode then Unicode.alphabetic ∪ wordExtras else .ofTable ["30-39 41-5A 5F 61-7A"]

/-- The characters that the dot stands for; without the `u` flag it would stand for parts of
characters. -/
def Flags.dot (f : Flags) : Option CharSet :=
  if !f.unicode then none
  else if f.dotAll then some .all
  else if f.returns then some (CharSet.ofTable ["A D"]).complement
  else some (CharSet.singleton '\n').complement

/-- The ASCII class with a name. -/
def asciiClass? (name : String) : Option CharSet :=
  let table : Option String :=
    match name with
    | "alnum" => some "30-39 41-5A 61-7A"
    | "alpha" => some "41-5A 61-7A"
    | "ascii" => some "0-7F"
    | "blank" => some "9 20"
    | "cntrl" => some "0-1F 7F"
    | "digit" => some "30-39"
    | "graph" => some "21-7E"
    | "lower" => some "61-7A"
    | "print" => some "20-7E"
    | "punct" => some "21-2F 3A-40 5B-60 7B-7E"
    | "space" => some "9-D 20"
    | "upper" => some "41-5A"
    | "word" => some "30-39 41-5A 5F 61-7A"
    | "xdigit" => some "30-39 41-46 61-66"
    | _ => none
  table.map fun t => .ofTable [t]

end SourceEditor.Pattern
