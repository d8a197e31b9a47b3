/-
  SourceEditor/Pattern/Expr.lean
  ==============================
  **Regular expressions** as trees, with the constructors that put them together in a normal
  form: sequences without empty parts and with whole literals, repetitions without superfluous
  bounds, and alternatives that share the parts they all begin with.

  The form matters beyond tidiness: how much memory a pattern is charged for depends on it.
-/
import SourceEditor.Pattern.Assertion

namespace SourceEditor.Pattern

/-- A regular expression.  Alternatives come in the order of preference. -/
inductive Expr where
  | empty
  /-- The characters of a text, one after the other. -/
  | literal (t : Text)
  /-- One character of a set; whether the set was written for ASCII characters alone. -/
  | chars (set : CharSet) (ascii : Bool)
  | assertion (a : Assertion)
  /-- A numbered group, whose match is kept. -/
  | group (index : Nat) (body : Expr)
  | seq (first second : Expr)
  | alt (first second : Expr)
  /-- From `least` to `most` times, as often as possible if `greedy` and as rarely otherwise. -/
  | times (body : Expr) (least : Nat) (most : Option Nat) (greedy : Bool)
  deriving DecidableEq, Repr

namespace Expr

/-! ### Questions -/

/-- Whether the expression can only match the empty text. -/
def isZeroWidth : Expr → Bool
  | .empty => true
  | .literal _ => false
  | .chars _ _ => false
  | .assertion _ => true
  | .group _ body => body.isZeroWidth
  | .seq first second => first.isZeroWidth && second.isZeroWidth
  | .alt first second => first.isZeroWidth && second.isZeroWidth
  | .times body _ _ _ => body.isZeroWidth

/-- The least length of a match, as far as it is known: not of an expression that has a part
without any match, the empty set. -/
def minLength? : Expr → Option Nat
  | .empty => some 0
  | .literal t => some t.length
  | .chars set _ => if set.ranges.isEmpty then none else some 1
  | .assertion _ => some 0
  | .group _ body => body.minLength?
  | .seq first second => do return (← first.minLength?) + (← second.minLength?)
  | .alt first second => do return min (← first.minLength?) (← second.minLength?)
  | .times body least _ _ => do return (← body.minLength?) * least

/-- Whether every match is known to take a character. -/
def takesCharacter (e : Expr) : Bool := e.minLength?.any (0 < ·)

/-- Whether every match begins with an assertion. -/
def beginsWith (a : Assertion) : Expr → Bool
  | .empty => false
  | .literal _ => false
  | .chars _ _ => false
  | .assertion b => a = b
  | .group _ body => body.beginsWith a
  | .seq first second => first.beginsWith a || first.isZeroWidth && second.beginsWith a
  | .alt first second => first.beginsWith a && second.beginsWith a
  | .times body least _ _ => least != 0 && body.beginsWith a

/-- Whether every match ends with an assertion. -/
def endsWith (a : Assertion) : Expr → Bool
  | .empty => false
  | .literal _ => false
  | .chars _ _ => false
  | .assertion b => a = b
  | .group _ body => body.endsWith a
  | .seq first second => second.endsWith a || second.isZeroWidth && first.endsWith a
  | .alt first second => first.endsWith a && second.endsWith a
  | .times body least _ _ => least != 0 && body.endsWith a

/-- The number of nodes. -/
def size : Expr → Nat
  | .group _ body => body.size + 1
  | .seq first second => first.size + second.size + 1
  | .alt first second => first.size + second.size + 1
  | .times body _ _ _ => body.size + 1
  | _ => 1

/-! ### Sets and literals -/

/-- What has no match: one character of the empty set. -/
def never : Expr := .chars ∅ true

/-- One character of a set.  A set of one character is a literal. -/
def ofSet (set : CharSet) (ascii : Bool) : Expr :=
  match set.ranges with
  | [] => never
  | [(low, high)] => if low = high then .literal [.ofNat low] else .chars set ascii
  | _ => .chars set ascii

/-- The characters of an expression that is one set. -/
def set? : Expr → Option CharSet
  | .chars set _ => some set
  | _ => none

/-- The text of an expression that is a literal. -/
def literal? : Expr → Option Text
  | .literal t => some t
  | _ => none

/-- The set of an expression that is a literal of one character. -/
def singleton? : Expr → Option CharSet
  | .literal [c] => some (.singleton c)
  | _ => none

/-! ### Sequences and repetitions -/

/-- The parts of a sequence. -/
def parts : Expr → List Expr
  | .empty => []
  | .seq first second => first.parts ++ second.parts
  | e => [e]

/-- The parts with neighbouring literals put together. -/
def joinLiterals : List Expr → List Expr
  | [] => []
  | .literal s :: rest =>
    match joinLiterals rest with
    | .literal t :: more => .literal (s ++ t) :: more
    | more => .literal s :: more
  | e :: rest => e :: joinLiterals rest

/-- The sequence of some expressions. -/
def sequence (l : List Expr) : Expr :=
  match joinLiterals (l.flatMap parts) with
  | [] => .empty
  | e :: rest => chain e rest
where
  chain (e : Expr) : List Expr → Expr
    | [] => e
    | f :: rest => .seq e (chain f rest)

/-- A repetition.  What takes no character is repeated once at most, no repetition is the empty
expression, and exactly one is the expression itself. -/
def repetition (body : Expr) (least : Nat) (most : Option Nat) (greedy : Bool) : Expr :=
  let (least, most) :=
    if body.isZeroWidth then (min least 1, some (min (most.getD 1) 1)) else (least, most)
  if most = some 0 then .empty
  else if least = 1 ∧ most = some 1 then body
  else .times body least most greedy

/-! ### Alternatives -/

/-- The branches of an alternative. -/
def branches : Expr → List Expr
  | .alt first second => first.branches ++ second.branches
  | e => [e]

/-- The parts that all rows begin with. -/
def commonParts : List (List Expr) → List Expr
  | [] => []
  | row :: rest => rest.foldl shared row
where
  shared : List Expr → List Expr → List Expr
    | e :: es, f :: fs => if e = f then e :: shared es fs else []
    | _, _ => []

/-- The alternative of some branches, in the order of preference.  Branches of single characters
make one set, and so do branches that are sets; branches of several parts that begin with the same
ones share those.  `fuel` bounds the depth of sharing. -/
def choiceWithin (fuel : Nat) (l : List Expr) : Expr :=
  let flat := l.flatMap branches
  match flat with
  | [] => never
  | [e] => e
  | e :: rest =>
    match flat.mapM singleton? <|> flat.mapM set? with
    | some sets => ofSet (.unions sets) false
    | none =>
      let rows := flat.map parts
      let common := if rows.all fun row => 2 ≤ row.length then commonParts rows else []
      match fuel, common with
      | fuel + 1, _ :: _ =>
        sequence (common ++
          [choiceWithin fuel (rows.map fun row => sequence (row.drop common.length))])
      | _, _ => chain e rest
where
  chain (e : Expr) : List Expr → Expr
    | [] => e
    | f :: rest => .alt e (chain f rest)

/-- The alternative of some branches.  Each sharing takes nodes away, so their number is enough
fuel. -/
def choice (l : List Expr) : Expr := choiceWithin (l.foldl (fun n e => n + e.size) 0) l

end Expr

end SourceEditor.Pattern
