/-
  SourceEditor/Pattern/Texts.lean
  ===============================
  **Expressions that match a few texts only.**  The texts of such an expression can be listed, in
  the order of preference.  If they can be found by themselves, the expression needs no automaton,
  and is not charged for one.
-/
import SourceEditor.Pattern.ByteRanges
import SourceEditor.Pattern.Expr

namespace SourceEditor.Pattern

namespace Expr

/-- Whether the expression keeps no group and makes no assertion, so that a match is its text and
nothing else. -/
def isPlain : Expr → Bool
  | .empty => true
  | .literal _ => true
  | .chars _ _ => true
  | .assertion _ => false
  | .group _ _ => false
  | .seq first second => first.isPlain && second.isPlain
  | .alt first second => first.isPlain && second.isPlain
  | .times body _ _ _ => body.isPlain

/-- The rows without those that repeat the row before them. -/
def withoutRepeats : List Text → List Text
  | s :: t :: rest => if s = t then withoutRepeats (t :: rest) else s :: withoutRepeats (t :: rest)
  | l => l

/-- The texts, unless there are too many, or too long ones. -/
def listed (texts : List Text) : Option (List Text) :=
  if texts.length ≤ 250 && texts.all fun t => (textBytes t).length ≤ 100 then
    some (withoutRepeats texts)
  else none

/-- The characters of a set, unless there are more than ten. -/
def members? (set : CharSet) : Option (List Char) :=
  if set.ranges.foldl (fun n r => n + (r.2 + 1 - r.1)) 0 ≤ 10 then
    some (set.ranges.flatMap fun r => (List.range (r.2 + 1 - r.1)).map fun i => .ofNat (r.1 + i))
  else none

/-- The texts that a text of the first list and one of the second make.  Where the first list is
empty the second is not looked at. -/
def followed (first second : Option (List Text)) : Option (List Text) :=
  match first, second with
  | some [], _ => some []
  | some first, some second => listed (first.flatMap fun s => second.map (s ++ ·))
  | _, _ => none

/-- The texts of a repetition.  A body without any text is repeated no times, if that is allowed;
otherwise only a body that may be left out, and a body that comes a fixed number of times, ten at
most, have their texts listed. -/
def repeatedTexts (texts : List Text) (least : Nat) (most : Option Nat) (greedy : Bool) :
    Option (List Text) :=
  match texts, least, most with
  | [], 0, _ => some [[]]
  | [], _ + 1, _ => some []
  | _, 0, some 1 => listed (if greedy then texts ++ [[]] else [] :: texts)
  | _, n + 1, most =>
    if most = some (n + 1) ∧ n < 10 then
      (List.replicate (n + 1) texts).foldl (fun all texts => followed all (some texts)) (some [[]])
    else none
  | _, _, _ => none

/-- The texts that the expression matches, in the order of preference, where they can be
listed. -/
def texts? : Expr → Option (List Text)
  | .empty => some [[]]
  | .literal t => listed [t]
  | .chars set _ => (members? set).map fun l => l.map fun c => [c]
  | .assertion _ => none
  | .group _ _ => none
  | .seq first second => followed first.texts? second.texts?
  | .alt first second => do listed ((← first.texts?) ++ (← second.texts?))
  | .times body least most greedy => do repeatedTexts (← body.texts?) least most greedy

end Expr

/-! ### Looking for texts by themselves -/

/-- Whether a byte is common in texts, so that a search for it alone would stop too often: most
letters and digits, blanks, much of the punctuation, and the bytes that begin a character outside
ASCII. -/
def isCommonByte (b : Nat) : Bool :=
  0xC0 ≤ b || "\n\r (),-./0129:_abcdefghilmnoprstuvxy|".toList.any fun c => c.toNat = b

/-- The rows without those that begin with an earlier one, which would be found in their place. -/
def withoutExtensions (rows : List (List Nat)) : List (List Nat) :=
  rows.foldl (fun kept row => if kept.any (·.isPrefixOf row) then kept else kept ++ [row]) []

/-- What two rows both begin with. -/
def sharedStart : List Nat → List Nat → List Nat
  | a :: s, b :: t => if a = b then a :: sharedStart s t else []
  | _, _ => []

/-- What all rows begin with. -/
def commonStart : List (List Nat) → List Nat
  | [] => []
  | row :: rest => rest.foldl sharedStart row

/-- The rows cut short while there are too many of them: each step keeps so many bytes of every row
if there are more than so many rows. -/
def cutShort : List (Nat × Nat) → List (List Nat) → List (List Nat)
  | [], rows => rows
  | (kept, limit) :: steps, rows =>
    if rows.length ≤ limit then rows
    else cutShort steps (withoutExtensions (rows.map fun row => row.take kept))

/-- Whether some texts, by their bytes, are looked for as they are, and not by something that they
have in common and that would have to be checked then.  What they share is preferred if it is rare
or long, and many texts are cut short unless nothing telling is left of them. -/
def foundAlone (rows : List (List Nat)) : Bool :=
  let rest := withoutExtensions rows
  let shared := commonStart rest
  if rows.isEmpty || rows.any List.isEmpty then false
  else if 1 < rows.length && shared.length ≤ 3 && shared.head?.any fun b => !isCommonByte b then
    rest.all fun row => row.length ≤ 1
  else if 4 < shared.length || (1 < shared.length && 16 < rest.length) then rest == [shared]
  else
    let cut := cutShort [(5, 10), (4, 10), (3, 64), (2, 64), (1, 10)] rest
    cut == rest || 64 < cut.length || cut.any fun row => row.length ≤ 2

/-- The texts to look for in place of the expression, if they can be found by themselves. -/
def Expr.fewTexts? (e : Expr) : Option (List Text) := do
  guard e.isPlain
  let texts ← e.texts?
  guard (foundAlone (texts.map textBytes))
  return texts

end SourceEditor.Pattern
