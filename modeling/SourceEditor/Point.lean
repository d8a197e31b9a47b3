/-
  SourceEditor/Point.lean
  =======================
  **Positions in a text.**  A point lies between two characters of a line; lines count from one,
  columns from zero.  A range is a pair of points, taken as it is given: whether its start
  precedes its stop is for the operation that uses it to check.
-/
import SourceEditor.Text.Decimal

namespace SourceEditor

/-- A position between characters. -/
structure Point where
  line : Nat
  col : Nat
  deriving DecidableEq, Repr

namespace Point

/-- Points are ordered by line, then by column. -/
def le (p q : Point) : Prop := p.line < q.line ∨ (p.line = q.line ∧ p.col ≤ q.col)

instance : LE Point := ⟨le⟩

instance : LT Point := ⟨fun p q => p.line < q.line ∨ (p.line = q.line ∧ p.col < q.col)⟩

instance (p q : Point) : Decidable (p ≤ q) :=
  inferInstanceAs (Decidable (p.line < q.line ∨ (p.line = q.line ∧ p.col ≤ q.col)))

instance (p q : Point) : Decidable (p < q) :=
  inferInstanceAs (Decidable (p.line < q.line ∨ (p.line = q.line ∧ p.col < q.col)))

/-- The order of two points. -/
def compare (p q : Point) : Ordering :=
  if p < q then .lt else if p = q then .eq else .gt

/-- The point reached by typing a text at a point; a line feed starts the next line. -/
def advance (p : Point) : Text → Point
  | [] => p
  | c :: rest =>
    if c = '\n' then advance ⟨p.line + 1, 0⟩ rest else advance ⟨p.line, p.col + 1⟩ rest

/-- A point as messages show it: `line:column`. -/
def shown (p : Point) : String := s!"{p.line}:{p.col}"

end Point

/-- A stretch of text from one point to another. -/
structure Range where
  start : Point
  stop : Point
  deriving DecidableEq, Repr

namespace Range

/-- The range between two points in either order. -/
def between (p q : Point) : Range := if p ≤ q then ⟨p, q⟩ else ⟨q, p⟩

/-- The empty range at a point. -/
def emptyAt (p : Point) : Range := ⟨p, p⟩

/-- Whether the range holds nothing. -/
def isEmpty (r : Range) : Bool := r.start = r.stop

/-- Whether the range begins and ends on one line. -/
def isSingleLine (r : Range) : Bool := r.start.line = r.stop.line

/-- Whether a point lies in the range, its ends included. -/
def contains (r : Range) (p : Point) : Bool := r.start ≤ p ∧ p ≤ r.stop

/-- The number of lines the range touches. -/
def lineCount (r : Range) : Nat := r.stop.line - r.start.line + 1

/-- A range as it is shown: its two points with a hyphen between them. -/
def shown (r : Range) : String := s!"{r.start.shown}-{r.stop.shown}"

end Range

end SourceEditor
