/-
  SourceEditor/Search/Engine.lean
  ===============================
  **Making patterns ready.**  An engine takes a pattern and gives what the searches use of it: on a
  line, from a column on, the first place where it matches, and the match that it prefers there.
  The engine of this program looks for a literal character by character, and runs the program of a
  regular expression.  The searches take any other engine as well.
-/
import SourceEditor.Pattern.Run
import SourceEditor.Pattern.Template

namespace SourceEditor

open Pattern (Expr Found PatternError Program)

/-- A pattern made ready: what it finds on a line from a column on, and the numbers of the groups
that have names.  A match never starts before the column, and never ends behind the line. -/
structure Regex where
  findAt : Text → Nat → Option Found
  names : List (Text × Nat)
  le_start : ∀ {t : Text} {col : Nat} {f : Found}, findAt t col = some f → col ≤ f.start
  stop_le : ∀ {t : Text} {col : Nat} {f : Found}, col ≤ t.length → findAt t col = some f →
    f.stop ≤ t.length

/-- What makes patterns ready: regular expressions, or literals otherwise, perhaps up to case. -/
structure Engine where
  compile : (useRegex ignoreCase : Bool) → Text → Except PatternError Regex

/-- The character before a column. -/
def charBefore (t : Text) (col : Nat) : Option Char := if col = 0 then none else t[col - 1]?

/-! ### Literals -/

namespace Literal

/-- Whether two characters match. -/
def sameChar (ignoreCase : Bool) (a b : Char) : Bool :=
  if ignoreCase then Unicode.sameFold a b else a == b

/-- Whether the text begins with the characters wanted. -/
def beginsWith (ignoreCase : Bool) : Text → Text → Bool
  | [], _ => true
  | _ :: _, [] => false
  | a :: wanted, b :: t => sameChar ignoreCase a b && beginsWith ignoreCase wanted t

theorem length_le_of_beginsWith {ignoreCase : Bool} {wanted t : Text}
    (h : beginsWith ignoreCase wanted t = true) : wanted.length ≤ t.length := by
  induction wanted generalizing t with
  | nil => simp
  | cons a wanted ih =>
    cases t with
    | nil => simp [beginsWith] at h
    | cons b t =>
      simp only [beginsWith, Bool.and_eq_true] at h
      exact Nat.succ_le_succ (ih h.2)

/-- The first place of a literal in the text `rest` from column `col` on. -/
def search (ignoreCase : Bool) (wanted : Text) (col : Nat) (rest : Text) : Option Found :=
  if beginsWith ignoreCase wanted rest then some ⟨col, col + wanted.length, []⟩
  else
    match rest with
    | [] => none
    | _ :: rest => search ignoreCase wanted (col + 1) rest

theorem bounds_of_search {ignoreCase : Bool} {wanted : Text} {col : Nat} {rest : Text} {f : Found}
    (h : search ignoreCase wanted col rest = some f) :
    col ≤ f.start ∧ f.stop ≤ col + rest.length := by
  induction rest generalizing col with
  | nil =>
    unfold search at h
    split at h
    · rename_i hbegins
      obtain rfl := Option.some.inj h
      exact ⟨Nat.le_refl _, Nat.add_le_add_left (length_le_of_beginsWith hbegins) col⟩
    · cases h
  | cons c rest ih =>
    unfold search at h
    split at h
    · rename_i hbegins
      obtain rfl := Option.some.inj h
      exact ⟨Nat.le_refl _, Nat.add_le_add_left (length_le_of_beginsWith hbegins) col⟩
    · obtain ⟨hstart, hstop⟩ := ih h
      rw [List.length_cons]
      omega

end Literal

/-! ### The engine of the program -/

namespace Regex

/-- A literal, perhaps up to case. -/
def literal (wanted : Text) (ignoreCase : Bool) : Regex where
  findAt t col := Literal.search ignoreCase wanted col (t.drop col)
  names := []
  le_start h := (Literal.bounds_of_search h).1
  stop_le hcol h := by
    have hstop := (Literal.bounds_of_search h).2
    rw [List.length_drop] at hstop
    omega

/-- A regular expression, by its program. -/
def ofProgram (p : Program) : Regex where
  findAt t col := p.search ∅ (charBefore t col) col (t.drop col)
  names := p.names
  le_start h := Program.le_start_of_search h
  stop_le hcol h := by
    have hstop := Program.stop_le_of_search h
    rw [List.length_drop] at hstop
    omega

end Regex

/-- The engine of this program.  A literal is charged for its memory as the regular expression of
the same characters is. -/
def Engine.standard : Engine where
  compile useRegex ignoreCase pattern :=
    if useRegex then
      match Program.ofPattern ignoreCase pattern with
      | .error e => .error e
      | .ok p => .ok (.ofProgram p)
    else if (Expr.ofText ignoreCase pattern).fits then .ok (.literal pattern ignoreCase)
    else .error .tooLarge

end SourceEditor
