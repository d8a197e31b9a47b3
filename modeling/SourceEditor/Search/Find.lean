/-
  SourceEditor/Search/Find.lean
  =============================
  **Finding in a buffer**: the first or last match inside a range, all matches inside it, and the
  next match from a point, with or without wrapping round.
-/
import SourceEditor.Search.Matcher
import SourceEditor.Buffer.Basic

namespace SourceEditor

namespace Matcher

/-- The columns between which a range covers one of its lines. -/
def columnsOn (r : Range) (n : Nat) (l : Line) : Nat × Nat :=
  (if n = r.start.line then r.start.col else 0, if n = r.stop.line then r.stop.col else l.length)

/-- The range between two columns of a line. -/
def onLine (n : Nat) (columns : Nat × Nat) : Range := ⟨⟨n, columns.1⟩, ⟨n, columns.2⟩⟩

/-- The first match of a range on one of its lines. -/
def firstOn (m : Matcher) (r : Range) (n : Nat) (l : Line) : Option Range :=
  let (start, stop) := columnsOn r n l
  (m.firstBetween l.text start stop).map (onLine n)

/-- The matches of a range on one of its lines. -/
def matchesOn (m : Matcher) (r : Range) (overlapping : Bool) (n : Nat) (l : Line) : List Range :=
  let (start, stop) := columnsOn r n l
  (m.matchesBetween l.text start stop overlapping).map (onLine n)

theorem head?_matchesOn (m : Matcher) (r : Range) (overlapping : Bool) (n : Nat) (l : Line) :
    (m.matchesOn r overlapping n l).head? = m.firstOn r n l := by
  simp [matchesOn, firstOn, head?_matchesBetween]

/-- The lines of a buffer from one number to another, with their numbers. -/
def linesBetween (b : Buffer) (first last : Nat) : List (Nat × Line) :=
  ((b.lines.zipIdx 1).map Prod.swap).filter fun (n, _) => first ≤ n && n ≤ last

/-- The matches inside a range, in order.  A range that starts before the first line has none. -/
def findAllIn (m : Matcher) (b : Buffer) (r : Range) : List Range :=
  if r.start.line = 0 then []
  else (linesBetween b r.start.line r.stop.line).flatMap fun (n, l) => m.matchesOn r false n l

/-- The first match inside a range. -/
def findFirst (m : Matcher) (b : Buffer) (r : Range) : Option Range :=
  if r.start.line = 0 then none
  else (linesBetween b r.start.line r.stop.line).findSome? fun (n, l) => m.firstOn r n l

/-- The last match inside a range; matches may overlap here.  A range that stops after the last
line has none. -/
def findLast (m : Matcher) (b : Buffer) (r : Range) : Option Range :=
  if (b.line? r.stop.line).isNone then none
  else (linesBetween b r.start.line r.stop.line).reverse.findSome? fun (n, l) =>
    (m.matchesOn r true n l).getLast?

/-- The first match inside a range, or the last one. -/
def findIn (m : Matcher) (b : Buffer) (r : Range) (reverse : Bool) : Option Range :=
  if reverse then m.findLast b r else m.findFirst b r

/-- The text that takes the place of the match of a range.  Without the line of the range it is
the replacement itself. -/
def replacement (m : Matcher) (b : Buffer) (r : Range) (replacement : Text) : Text :=
  match b.line? r.start.line with
  | none => replacement
  | some l => m.replacementAt l.text r.start.col replacement

end Matcher

namespace Buffer

/-- The first match inside a range, or the last one by the options. -/
def find (b : Buffer) (pattern : Text) (r : Range) (o : FindOptions) (E : Engine := .standard) :
    Except FindError (Option Range) :=
  match b.checkRange r with
  | .error e => .error (.buffer e)
  | .ok () =>
    match Matcher.ofPattern pattern o E with
    | .error e => .error e
    | .ok m => .ok (m.findIn b r o.reverse)

/-- All matches inside a range, in order. -/
def findAll (b : Buffer) (pattern : Text) (r : Range) (o : FindOptions)
    (E : Engine := .standard) : Except FindError (List Range) :=
  match b.checkRange r with
  | .error e => .error (.buffer e)
  | .ok () =>
    match Matcher.ofPattern pattern o.forward E with
    | .error e => .error e
    | .ok m => .ok (m.findAllIn b r)

/-- The part of the text that a search from a point looks at first, and the other part. -/
def searchOrder (b : Buffer) (p : Point) (reverse : Bool) : Range × Range :=
  let before : Range := ⟨b.startPoint, p⟩
  let after : Range := ⟨p, b.stopPoint⟩
  if reverse then (before, after) else (after, before)

/-- The next match from a point.  With `wrap` the other side of the point is searched if there is
none on this side. -/
def findNext (b : Buffer) (pattern : Text) (p : Point) (o : FindOptions) (wrap : Bool)
    (E : Engine := .standard) : Except FindError (Option Range) :=
  match b.checkPoint p with
  | .error e => .error (.buffer e)
  | .ok () =>
    match Matcher.ofPattern pattern o E with
    | .error e => .error e
    | .ok m =>
      let (first, second) := b.searchOrder p o.reverse
      match m.findIn b first o.reverse with
      | some r => .ok (some r)
      | none =>
        if wrap && !second.isEmpty then .ok (m.findIn b second o.reverse) else .ok none

end Buffer

end SourceEditor
