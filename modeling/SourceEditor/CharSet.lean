/-
  SourceEditor/CharSet.lean
  =========================
  **Sets of characters**, held as ascending, disjoint ranges of code points.

  A set answers membership by walking its ranges until one reaches the code point, so a
  character of the ASCII block is decided by the first few ranges of any table.  The usual set
  operations are there, and a reader for the way tables of ranges are written down:
  `"41-5A 61-7A 100-12E/2"`.

  The surrogates, `D800` to `DFFF`, are no characters: what comes after `D7FF` is `E000`.  No range
  begins or ends within them, and whether a range that goes over them is counted as one range or
  as two is kept as it was built.
-/
namespace SourceEditor

/-- A set of code points: inclusive ranges `(low, high)`, ascending and separated by gaps. -/
structure CharSet where
  ranges : List (Nat × Nat)
  deriving DecidableEq, Repr

namespace CharSet

/-- The greatest code point. -/
def maxCodePoint : Nat := 0x10FFFF

/-- The code point of the next character. -/
def next (n : Nat) : Nat := if n = 0xD7FF then 0xE000 else n + 1

/-- The code point of the character before. -/
def prev (n : Nat) : Nat := if n = 0xE000 then 0xD7FF else n - 1

/-! ### Membership -/

/-- Whether one of the ascending ranges holds the code point. -/
def memRanges (n : Nat) : List (Nat × Nat) → Bool
  | [] => false
  | (low, high) :: rest =>
    if n < low then false else if n ≤ high then true else memRanges n rest

/-- Whether the set holds the code point `n`. -/
def holds (s : CharSet) (n : Nat) : Bool := memRanges n s.ranges

/-- Whether the set holds the character `c`. -/
def contains (s : CharSet) (c : Char) : Bool := s.holds c.toNat

/-! ### Building sets -/

/-- The set of no character. -/
def empty : CharSet := ⟨[]⟩

instance : EmptyCollection CharSet := ⟨empty⟩

/-- The set of every character. -/
def all : CharSet := ⟨[(0, maxCodePoint)]⟩

/-- Adds one range to ascending ranges; ranges that touch it are merged with it. -/
def insertRange (low high : Nat) : List (Nat × Nat) → List (Nat × Nat)
  | [] => [(low, high)]
  | (a, b) :: rest =>
    if high + 1 < a then (low, high) :: (a, b) :: rest
    else if b + 1 < low then (a, b) :: insertRange low high rest
    else insertRange (min low a) (max high b) rest

/-- Adds the range from `low` to `high`. -/
def insert (s : CharSet) (low high : Nat) : CharSet := ⟨insertRange low high s.ranges⟩

/-- The characters from `low` to `high`. -/
def range (low high : Nat) : CharSet := ⟨[(low, high)]⟩

/-- The set of one character. -/
def singleton (c : Char) : CharSet := range c.toNat c.toNat

/-! ### Set operations -/

/-- Ranges in the order of their lower ends, with those that overlap or touch merged; the range
from `low` to `high` comes first. -/
def mergeRanges (low high : Nat) : List (Nat × Nat) → List (Nat × Nat)
  | [] => [(low, high)]
  | (a, b) :: rest =>
    if a ≤ high + 1 then mergeRanges low (max high b) rest
    else (low, high) :: mergeRanges a b rest

/-- The characters of either set. -/
def union (s t : CharSet) : CharSet :=
  match s.ranges.merge t.ranges fun r q => r.1 ≤ q.1 with
  | [] => ∅
  | (low, high) :: rest => ⟨mergeRanges low high rest⟩

instance : Union CharSet := ⟨union⟩

/-- The union of a list of sets. -/
def unions (sets : List CharSet) : CharSet := sets.foldl union empty

/-- The gaps between ascending ranges after one that ends at `high`, up to the greatest code
point.  Two ranges that have only the surrogates between them leave no character out; what counts
as the gap there is the two characters at that seam. -/
def gapsAfter (high : Nat) : List (Nat × Nat) → List (Nat × Nat)
  | [] => if high < maxCodePoint then [(next high, maxCodePoint)] else []
  | (low, top) :: rest =>
    (min (next high) (prev low), max (next high) (prev low)) :: gapsAfter top rest

/-- Every character outside the set. -/
def complement (s : CharSet) : CharSet :=
  match s.ranges with
  | [] => all
  | (low, high) :: rest =>
    ⟨(if 0 < low then [(0, prev low)] else []) ++ gapsAfter high rest⟩

/-- The ranges common to two lists of ascending ranges. -/
def interRanges : List (Nat × Nat) → List (Nat × Nat) → List (Nat × Nat)
  | [], _ => []
  | _, [] => []
  | (a, b) :: xs, (c, d) :: ys =>
    let later := if b < d then interRanges xs ((c, d) :: ys) else interRanges ((a, b) :: xs) ys
    if max a c ≤ min b d then (max a c, min b d) :: later else later
termination_by xs ys => xs.length + ys.length

/-- The characters of both sets. -/
def inter (s t : CharSet) : CharSet := ⟨interRanges s.ranges t.ranges⟩

/-- What is left of ascending ranges without others. -/
def diffRanges : List (Nat × Nat) → List (Nat × Nat) → List (Nat × Nat)
  | [], _ => []
  | xs, [] => xs
  | (a, b) :: xs, (c, d) :: ys =>
    if d < a then diffRanges ((a, b) :: xs) ys
    else if b < c then (a, b) :: diffRanges xs ((c, d) :: ys)
    else
      let front := if a < c then [(a, prev c)] else []
      if d < b then front ++ diffRanges ((next d, b) :: xs) ys
      else front ++ diffRanges xs ((c, d) :: ys)
termination_by xs ys => xs.length + ys.length

/-- The characters of the first set outside the second. -/
def diff (s t : CharSet) : CharSet := ⟨diffRanges s.ranges t.ranges⟩

/-- The characters in exactly one of the two sets. -/
def symmDiff (s t : CharSet) : CharSet := (s ∪ t).diff (s.inter t)

/-! ### Written tables -/

/-- The value of a hexadecimal digit. -/
def hexDigit? (c : Char) : Option Nat :=
  if '0' ≤ c ∧ c ≤ '9' then some (c.toNat - '0'.toNat)
  else if 'A' ≤ c ∧ c ≤ 'F' then some (c.toNat - 'A'.toNat + 10)
  else if 'a' ≤ c ∧ c ≤ 'f' then some (c.toNat - 'a'.toNat + 10)
  else none

/-- Every `step`-th code point from `low` to `high`, as ranges. -/
def everyNth (low high step : Nat) : List (Nat × Nat) :=
  (List.range ((high - low) / step + 1)).map fun i => (low + i * step, low + i * step)

/-- The ranges of one entry of a table: `last` is the number that was read last, and `ends` holds
those before it. -/
def entryRanges (last : Nat) : List Nat → List (Nat × Nat)
  | [] => [(last, last)]
  | [low] => [(low, last)]
  | high :: low :: _ => everyNth low high last

/-- Reads a written table: `number` holds the digits read so far, and `ends` the numbers of the
entry before it, the last one first.  A character that is neither a digit nor a hyphen or slash
ends an entry. -/
def readTable (ends : List Nat) (number : Option Nat) : List Char → List (Nat × Nat)
  | [] => finish []
  | c :: rest =>
    match hexDigit? c with
    | some d => readTable ends (some (number.getD 0 * 16 + d)) rest
    | none =>
      if c = '-' ∨ c = '/' then readTable (number.getD 0 :: ends) none rest
      else finish (readTable [] none rest)
where
  finish (later : List (Nat × Nat)) : List (Nat × Nat) :=
    match number with
    | none => later
    | some n => entryRanges n ends ++ later

/-- The set written as lines of hexadecimal entries in ascending order: `41` for one code point,
`41-5A` for a range, and `100-12E/2` for every second code point of a range. -/
def ofTable (lines : List String) : CharSet :=
  ⟨lines.flatMap fun line => readTable [] none line.toList⟩

end CharSet

end SourceEditor
