/-
  SourceEditor/Pattern/Bracket.lean
  =================================
  **Bracketed classes of a pattern**, such as `[^a-z[:digit:]&&[^5]]`.  Items that stand side by
  side form a union; the operators `&&`, `--` and `~~` combine unions from left to right; and
  brackets nest.
-/
import SourceEditor.Pattern.Escape

namespace SourceEditor.Pattern

/-- A set operator of a bracketed class. -/
inductive SetOperator where
  | intersection
  | difference
  | symmetricDifference
  deriving DecidableEq, Repr

/-- Applies an operator. -/
def SetOperator.apply : SetOperator → CharSet → CharSet → CharSet
  | .intersection => .inter
  | .difference => .diff
  | .symmetricDifference => .symmDiff

/-- The operator that a doubled character writes. -/
def SetOperator.ofChar? : Char → Option SetOperator
  | '&' => some .intersection
  | '-' => some .difference
  | '~' => some .symmetricDifference
  | _ => none

/-- A class being read: the union at hand, with the number and the nesting depth of its items,
and the operation whose right side it is. -/
structure Bracket where
  negated : Bool := false
  union : CharSet := ∅
  items : Nat := 0
  depth : Nat := 0
  pending : Option (SetOperator × CharSet × Nat) := none

namespace Bracket

/-- The class with one more item. -/
def add (b : Bracket) (s : CharSet) (depth : Nat) : Bracket :=
  { b with union := b.union ∪ s, items := b.items + 1, depth := max b.depth depth }

/-- The set that the operators so far give, and its nesting depth. -/
def combined (f : Flags) (b : Bracket) : CharSet × Nat :=
  let depth := if b.items ≤ 1 then b.depth else b.depth + 1
  match b.pending with
  | none => (b.union, depth)
  | some (op, left, leftDepth) =>
    (op.apply (f.folded left) (f.folded b.union), max leftDepth depth + 1)

/-- The class after an operator. -/
def operate (f : Flags) (b : Bracket) (op : SetOperator) : Bracket :=
  let (left, depth) := b.combined f
  { negated := b.negated, pending := some (op, left, depth) }

/-- The set of the finished class, and its nesting depth. -/
def finish (f : Flags) (b : Bracket) : Option (CharSet × Nat) := do
  let (s, depth) := b.combined f
  return (← f.negatedIf b.negated (f.folded s), depth + 1)

end Bracket

/-- Leading hyphens of a class, which are literal. -/
def Flags.readHyphens (f : Flags) : Nat → Bracket → Text → Bracket × Text
  | fuel + 1, b, '-' :: rest => f.readHyphens fuel (b.add (.singleton '-') 0) (f.skip rest)
  | _, b, t => (b, t)

/-- Reads the start of a class, after its opening bracket: a caret that negates it, hyphens, and a
closing bracket as a literal if nothing stands before it. -/
def Flags.openBracket (f : Flags) (t : Text) : Bracket × Text :=
  let (negated, t) := match f.skip t with
    | '^' :: rest => (true, f.skip rest)
    | t => (false, t)
  let (b, t) := f.readHyphens t.length { negated } t
  match b.items, t with
  | 0, ']' :: rest => (b.add (.singleton ']') 0, f.skip rest)
  | _, t => (b, t)

/-- Reads an ASCII class such as `[:alpha:]`, after its opening bracket.  What is none is left to
be read as a nested class. -/
def Flags.readAsciiClass (f : Flags) (t : Text) : Option (Option CharSet × Text) :=
  match t with
  | ':' :: rest =>
    let (negated, rest) := match rest with
      | '^' :: rest => (true, rest)
      | rest => (false, rest)
    let name := rest.takeWhile (· ≠ ':')
    match rest.drop name.length with
    | ':' :: ']' :: rest =>
      (asciiClass? (.ofList name)).map fun s => (f.negatedIf negated (f.folded s), rest)
    | _ => none
  | _ => none

/-- Reads one item of a class that is no bracket. -/
def Flags.readItem (f : Flags) : Text → Option (Escaped × Text)
  | [] => none
  | '\\' :: rest => f.readEscape rest
  | c :: rest => some (.char c, rest)

/-- The set of an item.  An assertion is none, and without the `u` flag neither is a character
outside ASCII. -/
def Flags.itemSet? (f : Flags) : Escaped → Option CharSet
  | .char c => if f.unicode || isAscii c then some (.singleton c) else none
  | .set s => some s
  | .assertion _ => none

/-- The character by which a hyphen is told from the mark of a range.  If white space is passed
over, so is one number sign, with the white space around it, but not the comment that it starts. -/
def Flags.peek (f : Flags) (t : Text) : Option Char :=
  if f.verbose then
    match t.dropWhile isWhitespace with
    | '#' :: rest => (rest.dropWhile isWhitespace).head?
    | rest => rest.head?
  else t.head?

/-- Reads an item or a range of characters.  A hyphen before the closing bracket or before another
hyphen makes no range. -/
def Flags.readRange (f : Flags) (t : Text) : Option (CharSet × Text) := do
  let (first, rest) ← f.readItem t
  let rest := f.skip rest
  let single := (f.itemSet? first).map (·, rest)
  match rest with
  | [] => none
  | '-' :: later =>
    if f.peek later = some ']' ∨ f.peek later = some '-' then single
    else
      match first, ← f.readItem (f.skip later) with
      | .char a, (.char b, rest) =>
        guard (a ≤ b && (f.unicode || (isAscii a && isAscii b)))
        return (.range a.toNat b.toNat, rest)
      | _, _ => none
  | _ => single

/-- Reads the rest of a class up to its closing bracket; gives the set and the nesting depth.
Every step takes a character, so the length of the text is enough fuel. -/
def Flags.readBracket (f : Flags) : Nat → Bracket → Text → Option (CharSet × Nat × Text)
  | 0, _, _ => none
  | fuel + 1, b, t =>
    let readMember (t : Text) := do
      let (s, rest) ← f.readRange t
      f.readBracket fuel (b.add s 0) rest
    match f.skip t with
    | [] => none
    | ']' :: rest => (b.finish f).map fun (s, depth) => (s, depth, rest)
    | '[' :: rest =>
      match f.readAsciiClass rest with
      | some (s, rest) => do f.readBracket fuel (b.add (← s) 0) rest
      | none => do
        let (nested, inner) := f.openBracket rest
        let (s, depth, rest) ← f.readBracket fuel nested inner
        f.readBracket fuel (b.add s depth) rest
    | c :: d :: rest =>
      match SetOperator.ofChar? c with
      | some op =>
        if c = d then f.readBracket fuel (b.operate f op) rest else readMember (c :: d :: rest)
      | none => readMember (c :: d :: rest)
    | t => readMember t

/-- Reads a class, after its opening bracket. -/
def Flags.readClass (f : Flags) (t : Text) : Option (CharSet × Nat × Text) :=
  let (b, rest) := f.openBracket t
  f.readBracket (t.length + 1) b rest

end SourceEditor.Pattern
