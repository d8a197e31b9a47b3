/-
  SourceEditor/Pattern/Reader.lean
  ================================
  **Reading a regular expression.**  The reader goes through the pattern once; open groups are
  kept on a list, the innermost first, each with what was read of it before the next one opened.
  Flags set in a group hold to its end.
-/
import SourceEditor.Pattern.Bracket
import SourceEditor.Text.Decimal

namespace SourceEditor.Pattern

/-- An expression read, with its nesting depth.  Flags set by themselves are a part without an
expression: they cannot be repeated. -/
structure Part where
  expr : Option Expr
  depth : Nat

/-- A group that is still open. -/
structure OpenGroup where
  /-- Its number, if its match is kept. -/
  index : Option Nat
  /-- The flags to go back to at its end. -/
  outerFlags : Flags
  /-- The parts before it in the branch around it, the last one first. -/
  outerParts : List Part
  /-- The branches before that one, the last one first. -/
  outerBranches : List (Expr × Nat)

/-- What has been read of a pattern. -/
structure Reader where
  flags : Flags
  /-- The parts of the branch at hand, the last one first. -/
  parts : List Part := []
  /-- The branches before it, the last one first. -/
  branches : List (Expr × Nat) := []
  pending : List OpenGroup := []
  /-- The number of groups begun. -/
  groups : Nat := 0
  /-- The names of groups, with their numbers. -/
  names : List (Text × Nat) := []

/-- The greatest nesting depth allowed. -/
def depthLimit : Nat := 250

namespace Reader

/-- The reader after one more part. -/
def push (r : Reader) (e : Expr) (depth : Nat) : Reader :=
  { r with parts := ⟨some e, depth⟩ :: r.parts }

/-- The branch at hand as an expression, with its depth. -/
def branch (r : Reader) : Expr × Nat :=
  let depth := (r.parts.map Part.depth).foldl max 0
  (.sequence (r.parts.reverse.filterMap Part.expr),
    if r.parts.length ≤ 1 then depth else depth + 1)

/-- All branches of the group at hand as an expression, with its depth. -/
def body (r : Reader) : Expr × Nat :=
  match r.branches with
  | [] => r.branch
  | _ =>
    let all := (r.branch :: r.branches).reverse
    (.choice (all.map Prod.fst), (all.map Prod.snd).foldl max 0 + 1)

/-- The reader after the start of a group. -/
def openGroup (r : Reader) (index : Option Nat) (flags : Flags) : Reader :=
  { r with
    flags
    parts := []
    branches := []
    pending := ⟨index, r.flags, r.parts, r.branches⟩ :: r.pending }

/-- The reader after the start of a numbered group, which may have a name. -/
def openNumbered (r : Reader) (name : Option Text) : Reader :=
  let index := r.groups + 1
  let names := match name with
    | none => r.names
    | some n => r.names ++ [(n, index)]
  { r with groups := index, names }.openGroup (some index) r.flags

/-- The reader after the end of the innermost group; `none` if no group is open. -/
def closeGroup (r : Reader) : Option Reader :=
  match r.pending with
  | [] => none
  | g :: rest =>
    let (inner, depth) := r.body
    let e := g.index.elim inner fun i => .group i inner
    some { r with
      flags := g.outerFlags
      parts := ⟨some e, depth + 1⟩ :: g.outerParts
      branches := g.outerBranches
      pending := rest }

/-- The reader after a repetition of the last part. -/
def repeatLast (r : Reader) (least : Nat) (most : Option Nat) (lazy : Bool) : Option Reader :=
  match r.parts with
  | ⟨some e, depth⟩ :: rest =>
    let greedy := lazy == r.flags.swapGreed
    some { r with parts := ⟨some (.repetition e least most greedy), depth + 1⟩ :: rest }
  | _ => none

end Reader

/-! ### Groups -/

/-- Reads the letters between `(?` and the colon or parenthesis that ends them.  `seen` holds the
letters read, the last one first: none occurs twice, and a hyphen, which clears the flags after
it, does not come last.  Gives the flags, whether letters were read, the ending character and
the rest. -/
def Flags.readLetters (f : Flags) (seen : List Char) : Text → Option (Flags × Bool × Char × Text)
  | [] => none
  | c :: rest =>
    if c = ':' ∨ c = ')' then
      if seen.head? = some '-' then none else some (f, !seen.isEmpty, c, rest)
    else if seen.contains c then none
    else if c = '-' then f.readLetters (c :: seen) rest
    else (f.set? c (!seen.contains '-')).bind fun f => f.readLetters (c :: seen) rest

/-- Whether a group name may start with a character. -/
def isNameStart (c : Char) : Bool := c == '_' || isAlphabetic c

/-- Whether a group name may go on with a character. -/
def isNameChar (c : Char) : Bool :=
  c == '_' || c == '.' || c == '[' || c == ']' || isAlphanumeric c

/-- Reads a group name up to the angle bracket after it. -/
def readName (t : Text) : Option (Text × Text) :=
  let name := t.takeWhile (· ≠ '>')
  match name, t.drop name.length with
  | c :: more, _ :: rest =>
    if isNameStart c && more.all isNameChar then some (name, rest) else none
  | _, _ => none

namespace Reader

/-- Reads the name of a group and starts the group.  No two groups have the same name. -/
def readNamed (r : Reader) (t : Text) : Option (Reader × Text) := do
  let (name, rest) ← readName t
  guard !(r.names.any fun n => n.1 == name)
  return (r.openNumbered (some name), rest)

/-- Reads what follows an opening parenthesis.  Looking around is not supported. -/
def readGroup (r : Reader) (t : Text) : Option (Reader × Text) :=
  match r.flags.skip t with
  | '?' :: '=' :: _ | '?' :: '!' :: _ | '?' :: '<' :: '=' :: _ | '?' :: '<' :: '!' :: _ => none
  | '?' :: 'P' :: '<' :: rest => r.readNamed rest
  | '?' :: '<' :: rest => r.readNamed rest
  | '?' :: rest => do
    let (flags, any, last, rest) ← r.flags.readLetters [] rest
    if last = ':' then return (r.openGroup none flags, rest)
    guard any
    return ({ r with flags, parts := ⟨none, 0⟩ :: r.parts }, rest)
  | rest => some (r.openNumbered none, rest)

/-! ### Repetitions -/

/-- Takes the question mark that makes a repetition take as little as possible. -/
def takeLazy : Text → Bool × Text
  | '?' :: rest => (true, rest)
  | t => (false, t)

/-- Reads the digits of a bound and the white space around them. -/
def readBound (f : Flags) (t : Text) : Text × Text :=
  let (digits, rest) := f.takeWhile Char.isDigit t.length (t.dropWhile isWhitespace)
  (digits, f.skip (rest.dropWhile isWhitespace))

/-- The value of a bound: a number of at most 32 bits. -/
def bound? (digits : Text) : Option Nat := do
  guard !digits.isEmpty
  let n := Text.digitsValue digits
  guard (n < UInt32.size)
  return n

/-- Reads the upper bound of a repetition and its closing brace, after the lower bound: the same
bound, none, or another one. -/
def readMost (f : Flags) (least : Nat) : Text → Option (Option Nat × Text)
  | '\x7d' :: rest => some (some least, rest)
  | ',' :: rest =>
    match f.skip rest with
    | '\x7d' :: rest => some (none, rest)
    | rest =>
      match readBound f rest with
      | (digits, '\x7d' :: rest) => (bound? digits).map fun most => (some most, rest)
      | _ => none
  | _ => none

/-- Reads a counted repetition, after its opening brace. -/
def readCount (r : Reader) (t : Text) : Option (Reader × Text) := do
  let (digits, rest) := readBound r.flags (r.flags.skip t)
  let least ← bound? digits
  let (most, rest) ← readMost r.flags least rest
  let (lazy, rest) := takeLazy (r.flags.skip rest)
  guard (most.all fun m => least ≤ m)
  return (← r.repeatLast least most lazy, rest)

/-! ### Single characters -/

/-- The reader after a set of characters, whose nesting depth is given. -/
def pushSet (r : Reader) (s : CharSet) (depth : Nat) : Reader :=
  r.push (.ofSet s !r.flags.unicode) depth

/-- The reader after a literal character. -/
def pushChar (r : Reader) (c : Char) : Reader := r.pushSet (r.flags.folded (.singleton c)) 0

/-- The reader after an escape. -/
def pushEscaped (r : Reader) : Escaped → Reader
  | .char c => r.pushChar c
  | .set s => r.pushSet s 0
  | .assertion a => r.push (.assertion a) 0

/-! ### The whole pattern -/

/-- Reads the part of a pattern that begins with `c`. -/
def step (r : Reader) (c : Char) (rest : Text) : Option (Reader × Text) :=
  let count (least : Nat) (most : Option Nat) : Option (Reader × Text) :=
    let (lazy, rest) := takeLazy rest
    (r.repeatLast least most lazy).map (·, rest)
  match c with
  | '(' => r.readGroup rest
  | ')' => r.closeGroup.map (·, rest)
  | '|' => some ({ r with parts := [], branches := r.branch :: r.branches }, rest)
  | '[' => (r.flags.readClass rest).map fun (s, depth, rest) => (r.pushSet s depth, rest)
  | '?' => count 0 (some 1)
  | '*' => count 0 none
  | '+' => count 1 none
  | '\x7b' => r.readCount rest
  | '\\' => (r.flags.readEscape rest).map fun (e, rest) => (r.pushEscaped e, rest)
  | '.' => r.flags.dot.map fun s => (r.pushSet s 0, rest)
  | '^' =>
    let a := if r.flags.multiLine then .lineStart r.flags.returns else .textStart
    some (r.push (.assertion a) 0, rest)
  | '$' =>
    let a := if r.flags.multiLine then .lineStop r.flags.returns else .textStop
    some (r.push (.assertion a) 0, rest)
  | _ => some (r.pushChar c, rest)

/-- Reads a pattern to its end.  Every step takes a character, so one more than the length of the
pattern is enough fuel. -/
def run (r : Reader) : Nat → Text → Option Reader
  | 0, _ => none
  | fuel + 1, t =>
    match r.flags.skip t with
    | [] => some r
    | c :: rest => (r.step c rest).bind fun (r, rest) => r.run fuel rest

end Reader

/-- A regular expression that has been read, with the names of its groups. -/
structure Parsed where
  expr : Expr
  names : List (Text × Nat)

/-- Reads a regular expression; `none` if it is malformed.  `ignoreCase` is the flag that the
pattern starts with. -/
def Parsed.read (ignoreCase : Bool) (t : Text) : Option Parsed := do
  let r ← Reader.run { flags := { ignoreCase } } (t.length + 1) t
  guard r.pending.isEmpty
  let (expr, depth) := r.body
  guard (depth ≤ depthLimit)
  return ⟨expr, r.names⟩

end SourceEditor.Pattern
