/-
  SourceEditor/Pattern/Template.lean
  ==================================
  **Templates of replacements.**  A dollar sign and a name stand for what a group has matched;
  the name is a number or the name of a group, with or without braces around it.  Two dollar
  signs are one, and one that no name follows is itself.
-/
import SourceEditor.Text.Decimal

namespace SourceEditor.Pattern

/-- A part of a template. -/
inductive TemplatePart where
  | literal (t : Text)
  | numbered (group : Nat)
  | named (name : Text)
  deriving DecidableEq, Repr

namespace TemplatePart

/-- Whether a name without braces may hold the character. -/
def isNameChar (c : Char) : Bool := c.isAlphanum || c == '_'

/-- The part that a name stands for. -/
def ofName (name : Text) : TemplatePart :=
  match Text.unsigned? name with
  | some group => .numbered group
  | none => .named name

/-- Reads what follows a dollar sign: a part, and the rest of the template. -/
def readReference (t : Text) : TemplatePart × Text :=
  match t with
  | '$' :: rest => (.literal ['$'], rest)
  | '\x7b' :: rest =>
    let name := rest.takeWhile (· ≠ '\x7d')
    match rest.drop name.length with
    | [] => (.literal ['$'], t)
    | _ :: rest => (ofName name, rest)
  | _ =>
    let name := t.takeWhile isNameChar
    if name.isEmpty then (.literal ['$'], t) else (ofName name, t.drop name.length)

theorem length_readReference_le (t : Text) : (readReference t).2.length ≤ t.length := by
  unfold readReference
  split
  · simp
  · dsimp only
    split
    · simp
    · rename_i h
      have := congrArg List.length h
      simp only [List.length_drop, List.length_cons] at this ⊢
      omega
  · dsimp only
    split <;> simp

/-- The parts of a template. -/
def parts : Text → List TemplatePart
  | [] => []
  | c :: rest =>
    if c = '$' then
      let reference := readReference rest
      have := length_readReference_le rest
      reference.1 :: parts reference.2
    else .literal [c] :: parts rest
termination_by t => t.length
decreasing_by all_goals simp only [List.length_cons]; omega

end TemplatePart

/-- A template filled in: `group` gives what the group with a number has matched, and `names` the
numbers of the named groups.  What names no group is empty. -/
def fillTemplate (group : Nat → Text) (names : List (Text × Nat)) (template : Text) : Text :=
  (TemplatePart.parts template).flatMap fun
    | .literal t => t
    | .numbered i => group i
    | .named name => ((names.lookup name).map group).getD []

end SourceEditor.Pattern
