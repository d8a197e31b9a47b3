/-
  SourceEditor/Pattern/Program.lean
  =================================
  **Programs of a regular expression.**  An expression becomes a list of steps; a run that
  reaches the end of the list is a match.  Where a run may go two ways, the step names the
  preferred one first.  Steps say how far to go, not where to, so that the steps of a part can be
  put at any place, and as often as a repetition asks for.
-/
import SourceEditor.Pattern.Expr

namespace SourceEditor.Pattern

/-- A step of a program. -/
inductive Step where
  /-- Takes one character of a set. -/
  | chars (set : CharSet)
  /-- Goes on where an assertion holds. -/
  | check (a : Assertion)
  /-- Notes the place in the text. -/
  | mark (slot : Nat)
  /-- Goes so many steps on or back: the first way if that leads to a match, and otherwise the
  second. -/
  | fork (preferred other : Int)
  /-- Goes so many steps on or back. -/
  | jump (distance : Int)
  deriving DecidableEq, Repr

namespace Step

/-- A fork between going on with a repetition and leaving it. -/
def forkTo (greedy : Bool) (on leave : Int) : Step :=
  if greedy then .fork on leave else .fork leave on

/-- The steps once or more. -/
def oneOrMore (steps : List Step) (greedy : Bool) : List Step :=
  steps ++ [forkTo greedy (-steps.length) 1]

/-- The steps once or not at all. -/
def optional (steps : List Step) (greedy : Bool) : List Step :=
  forkTo greedy 1 (steps.length + 1) :: steps

/-- The steps any number of times: a fork to which each run through them comes back. -/
def loop (steps : List Step) (greedy : Bool) : List Step :=
  forkTo greedy 1 (steps.length + 2) :: steps ++ [.jump (-(steps.length + 1))]

/-- The steps so many times in a row. -/
def copies (steps : List Step) (n : Nat) : List Step := (List.replicate n steps).flatten

/-- The steps at most so many times; before every time they may be left for the end. -/
def atMost (steps : List Step) (greedy : Bool) (n : Nat) : List Step :=
  (List.range n).flatMap fun i : Nat =>
    forkTo greedy 1 ((n - i) * (steps.length + 1) : Nat) :: steps

/-- The steps between a least and a greatest number of times.  Steps that may take no character
are not made a loop: then any number of times is at most one run of once or more, and an empty run
through the steps comes after a run that leaves them. -/
def repeated (steps : List Step) (takesCharacter : Bool) (least : Nat) (most : Option Nat)
    (greedy : Bool) : List Step :=
  match least, most with
  | 0, none =>
    if takesCharacter then loop steps greedy else optional (oneOrMore steps greedy) greedy
  | n + 1, none => copies steps n ++ oneOrMore steps greedy
  | n, some m => copies steps n ++ atMost steps greedy (m - n)

/-- The first steps or, if they do not lead to a match, the second ones. -/
def either (first second : List Step) : List Step :=
  .fork 1 (first.length + 2) :: first ++ .jump (second.length + 1) :: second

end Step

/-- The steps of an expression.  The group with number `i` notes its ends in the slots `2 * i` and
`2 * i + 1`. -/
def Expr.steps : Expr → List Step
  | .empty => []
  | .literal t => t.map fun c => .chars (.singleton c)
  | .chars set _ => [.chars set]
  | .assertion a => [.check a]
  | .group i body => .mark (2 * i) :: body.steps ++ [.mark (2 * i + 1)]
  | .seq first second => first.steps ++ second.steps
  | .alt first second => Step.either first.steps second.steps
  | .times body least most greedy =>
    Step.repeated body.steps body.takesCharacter least most greedy

/-- A regular expression ready for matching. -/
structure Program where
  steps : Array Step
  /-- The names of the groups, with their numbers. -/
  names : List (Text × Nat)

end SourceEditor.Pattern
