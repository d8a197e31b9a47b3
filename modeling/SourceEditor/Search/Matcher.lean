/-
  SourceEditor/Search/Matcher.lean
  ================================
  **Matching on one line.**  A matcher is a pattern made ready by an engine, with the question
  which of the matches count.  A match never spans a line break.
-/
import SourceEditor.Buffer.Error
import SourceEditor.Search.Engine

namespace SourceEditor

open Pattern (Found PatternError)

/-- The options of a search. -/
structure FindOptions where
  /-- Whether the pattern is a regular expression. -/
  useRegex : Bool := false
  caseSensitive : Bool := false
  /-- Whether both ends of a match must be at characters outside words or at an end of the
  line. -/
  wholeWord : Bool := false
  /-- Whether to search backward, which goes with literal patterns only. -/
  reverse : Bool := false
  deriving DecidableEq, Repr

/-- The same options for a search forward. -/
def FindOptions.forward (o : FindOptions) : FindOptions := { o with reverse := false }

/-- Why a search fails.  That nothing matches is no failure. -/
inductive FindError where
  | emptyPattern
  | reverseRegex
  | pattern (e : PatternError)
  | buffer (e : BufferError)
  deriving DecidableEq, Repr

/-- The text of a search error. -/
def FindError.message : FindError → String
  | .emptyPattern => "search pattern is empty"
  | .reverseRegex => "reverse search is not supported for regex patterns"
  | .pattern e => e.message
  | .buffer e => e.message

/-- A pattern made ready for a search. -/
structure Matcher where
  regex : Regex
  /-- Whether the pattern is a regular expression, so that a replacement may refer to its groups. -/
  useRegex : Bool
  wholeWord : Bool

namespace Matcher

/-- Makes a pattern ready. -/
def ofPattern (pattern : Text) (o : FindOptions) (E : Engine := .standard) :
    Except FindError Matcher :=
  if pattern.isEmpty then .error .emptyPattern
  else if o.useRegex && o.reverse then .error .reverseRegex
  else
    match E.compile o.useRegex (!o.caseSensitive) pattern with
    | .error e => .error (.pattern e)
    | .ok regex => .ok ⟨regex, o.useRegex, o.wholeWord⟩

/-- The first match on a line that starts at a column or after it. -/
def findAt (m : Matcher) (t : Text) (col : Nat) : Option Found := m.regex.findAt t col

theorem le_start_of_findAt {m : Matcher} {t : Text} {col : Nat} {f : Found}
    (h : m.findAt t col = some f) : col ≤ f.start := m.regex.le_start h

/-- The first match that starts at a column or after it and does not go past `limit`.  One that
does is looked for again on the line cut at `limit`, which assertions then take for its end. -/
def findWithin (m : Matcher) (t : Text) (limit col : Nat) : Option Found :=
  match m.findAt t col with
  | none => none
  | some f => if limit < f.stop then m.findAt (t.take limit) col else some f

theorem le_start_of_findWithin {m : Matcher} {t : Text} {limit col : Nat} {f : Found}
    (h : m.findWithin t limit col = some f) : col ≤ f.start := by
  unfold findWithin at h
  split at h
  · contradiction
  · rename_i g hg
    split at h
    · exact le_start_of_findAt h
    · injection h with h
      subst h
      exact le_start_of_findAt hg

/-- Whether no word goes on across either end of a stretch of a line. -/
def isWordBounded (t : Text) (start stop : Nat) : Bool :=
  !(charBefore t start).any isWordChar && !t[stop]?.any isWordChar

/-- Whether a match counts: it is not empty, and bounded by the ends of words if the matcher asks
for whole words.  The whole line decides that, also where the search is cut. -/
def accepts (m : Matcher) (t : Text) (f : Found) : Bool :=
  f.length != 0 && (!m.wholeWord || isWordBounded t f.start f.stop)

theorem lt_of_accepts {m : Matcher} {t : Text} {f : Found} (h : m.accepts t f) :
    f.start < f.stop := by
  simp only [accepts, Bool.and_eq_true, bne_iff_ne, Found.length] at h
  omega

/-- The first match that counts, as a pair of columns, of those that start at a column or after it
and do not go past `limit`.  A match that does not count is passed over by one character. -/
def nextMatch (m : Matcher) (t : Text) (limit col : Nat) : Option (Nat × Nat) :=
  if col ≤ limit then
    match h : m.findWithin t limit col with
    | none => none
    | some f =>
      if m.accepts t f then some (f.start, f.stop)
      else
        have := le_start_of_findWithin h
        m.nextMatch t limit (f.start + 1)
  else none
termination_by limit + 1 - col

theorem nextMatch_bounds {m : Matcher} {t : Text} {limit col : Nat} {r : Nat × Nat}
    (h : m.nextMatch t limit col = some r) : col ≤ limit ∧ col ≤ r.1 ∧ r.1 < r.2 := by
  fun_induction nextMatch m t limit col with
  | case1 => contradiction
  | case2 col hcol f hf accepted =>
    injection h with h
    subst h
    exact ⟨hcol, le_start_of_findWithin hf, lt_of_accepts accepted⟩
  | case3 col hcol f hf _ hstart ih =>
    obtain ⟨_, hle, hlt⟩ := ih h
    exact ⟨hcol, by omega, hlt⟩
  | case4 => contradiction

/-- The matches on a line that count, from left to right, as pairs of columns.  With `overlapping`
the next one is looked for one character after the start of a match, and otherwise from its end
on. -/
def lineMatches (m : Matcher) (t : Text) (limit : Nat) (overlapping : Bool) (col : Nat) :
    List (Nat × Nat) :=
  match h : m.nextMatch t limit col with
  | none => []
  | some r =>
    have := nextMatch_bounds h
    r :: m.lineMatches t limit overlapping (if overlapping then r.1 + 1 else r.2)
termination_by limit + 1 - col
decreasing_by split <;> omega

/-- The first match on a line between two columns, either of which may lie past its end. -/
def firstBetween (m : Matcher) (t : Text) (start stop : Nat) : Option (Nat × Nat) :=
  m.nextMatch t (min stop t.length) (min start t.length)

/-- The matches on a line between two columns, either of which may lie past its end. -/
def matchesBetween (m : Matcher) (t : Text) (start stop : Nat) (overlapping : Bool) :
    List (Nat × Nat) :=
  m.lineMatches t (min stop t.length) overlapping (min start t.length)

theorem head?_matchesBetween (m : Matcher) (t : Text) (start stop : Nat) (overlapping : Bool) :
    (m.matchesBetween t start stop overlapping).head? = m.firstBetween t start stop := by
  unfold matchesBetween firstBetween lineMatches
  split <;> simp_all

/-- The text that takes the place of the match that begins at a column of a line: the replacement
itself for a literal pattern, and otherwise the template filled in with the groups of the match
found there. -/
def replacementAt (m : Matcher) (t : Text) (col : Nat) (replacement : Text) : Text :=
  if m.useRegex then
    match m.findAt t (min col t.length) with
    | none => replacement
    | some f => Pattern.fillTemplate (f.groupText t) m.regex.names replacement
  else replacement

end Matcher

end SourceEditor
