/-
  SourceEditor/Proofs/Pattern/Context.lean
  ========================================
  **What a search depends on.**  A search sees the text from its column on and, through the
  assertions of the pattern, the one character before it.  Where the columns start to count makes
  no difference to what is found, and neither do two characters in front that no assertion tells
  apart.
-/
import Mathlib.Data.List.Forall2
import SourceEditor.Pattern.Run

namespace SourceEditor.Pattern

/-! ### Characters that a program cannot tell apart -/

/-- Whether each assertion of a program holds alike behind two characters, whatever follows. -/
def Program.Alike (p : Program) (c d : Option Char) : Prop :=
  ∀ (i : Nat) (a : Assertion), p.steps[i]? = some (.check a) →
    ∀ next, a.holds c next = a.holds d next

theorem Program.Alike.refl (p : Program) (c : Option Char) : p.Alike c c :=
  fun _ _ _ _ => rfl

/-! ### Moved by some columns -/

/-- Notes of columns, each so many columns further on. -/
def movedMarks (n : Nat) (marks : List (Nat × Nat)) : List (Nat × Nat) :=
  marks.map fun mark => (mark.1, mark.2 + n)

theorem lookup_movedMarks (n slot : Nat) (marks : List (Nat × Nat)) :
    (movedMarks n marks).lookup slot = (marks.lookup slot).map (· + n) := by
  induction marks with
  | nil => rfl
  | cons mark marks ih =>
    obtain ⟨slot', col⟩ := mark
    change List.lookup slot ((slot', col + n) :: movedMarks n marks) = _
    rw [List.lookup_cons, List.lookup_cons, ih]
    cases slot == slot' <;> rfl

/-- A match, so many columns further on. -/
def Found.moved (n : Nat) (f : Found) : Found := ⟨f.start + n, f.stop + n, movedMarks n f.marks⟩

@[simp] theorem Found.start_moved (n : Nat) (f : Found) : (f.moved n).start = f.start + n := rfl

@[simp] theorem Found.stop_moved (n : Nat) (f : Found) : (f.moved n).stop = f.stop + n := rfl

@[simp] theorem Found.length_moved (n : Nat) (f : Found) : (f.moved n).length = f.length := by
  simp only [length, start_moved, stop_moved]
  omega

/-- With a text in front of the line, a match that starts as much later has matched the same. -/
theorem Found.groupText_moved (x y : Text) (f : Found) (group : Nat) :
    (f.moved x.length).groupText (x ++ y) group = f.groupText y group := by
  have hdrop : ∀ n, (x ++ y).drop (n + x.length) = y.drop n := fun n => by
    rw [Nat.add_comm, List.drop_append]
    simp
  unfold groupText
  split
  · rw [length_moved, start_moved, hdrop]
  · simp only [moved, lookup_movedMarks]
    rcases f.marks.lookup (2 * group) with _ | first
    · rfl
    · rcases f.marks.lookup (2 * group + 1) with _ | last
      · rfl
      · simp only [Option.map_some, hdrop, Nat.add_sub_add_right]

/-- Whether a way is another one, so many columns further on, behind a character that the program
does not tell apart from the one there. -/
structure Way.Moved (p : Program) (n : Nat) (w w' : Way) : Prop where
  place : w'.place = w.place
  col : w'.col = w.col + n
  before : p.Alike w.before w'.before
  rest : w'.rest = w.rest
  marks : w'.marks = movedMarks n w.marks

theorem Way.Moved.go {p : Program} {n : Nat} {w w' : Way} (h : w.Moved p n w') (distance : Int) :
    (w.go distance).Moved p n (w'.go distance) where
  place := by rw [Way.go, Way.go, h.place]
  col := h.col
  before := h.before
  rest := h.rest
  marks := h.marks

theorem Step.ways_moved {p : Program} {s : Step} {n : Nat} {w w' : Way}
    (hs : p.steps[w.place]? = some s) (h : w.Moved p n w') :
    List.Forall₂ (Way.Moved p n) (s.ways w) (s.ways w') := by
  cases s with
  | chars set =>
    simp only [ways, h.rest]
    rcases w.rest with _ | ⟨c, rest⟩
    · exact .nil
    · dsimp only
      split
      · refine .cons ⟨?_, ?_, .refl p _, rfl, h.marks⟩ .nil
        · rw [h.place]
        · simp only [h.col]
          omega
      · exact .nil
  | check a =>
    simp only [ways, h.rest, ← h.before _ a hs]
    split
    · exact .cons (h.go 1) .nil
    · exact .nil
  | mark slot =>
    refine .cons ⟨?_, h.col, h.before, h.rest, ?_⟩ .nil
    · simp only [h.place]
    · simp only [h.col, h.marks]
      rfl
  | fork preferred other => exact .cons (h.go preferred) (.cons (h.go other) .nil)
  | jump distance => exact .cons (h.go distance) .nil

/-- Whether the steps and places seen are those of another run, so many columns further on. -/
def SeenMoved (p : Program) (n : Nat) (seen seen' : Std.HashSet Nat) : Prop :=
  ∀ key, seen'.contains (key + n * (p.steps.size + 1)) = seen.contains key

theorem SeenMoved.insert {p : Program} {n : Nat} {seen seen' : Std.HashSet Nat}
    (h : SeenMoved p n seen seen') (key : Nat) :
    SeenMoved p n (seen.insert key) (seen'.insert (key + n * (p.steps.size + 1))) := by
  intro other
  rw [Std.HashSet.contains_insert, Std.HashSet.contains_insert, h other]
  congr 1
  rw [Bool.eq_iff_iff, beq_iff_eq, beq_iff_eq]
  omega

namespace Program

variable {p : Program}

/-- Two runs on ways that differ only in where they are end alike. -/
theorem follow_moved (fuel : Nat) {n : Nat} {seen seen' : Std.HashSet Nat} {stack stack' : List Way}
    (hseen : SeenMoved p n seen seen') (hstack : List.Forall₂ (Way.Moved p n) stack stack') :
    (∃ stop marks, p.follow fuel seen stack = .ok (stop, marks) ∧
        p.follow fuel seen' stack' = .ok (stop + n, movedMarks n marks)) ∨
      ∃ last last', p.follow fuel seen stack = .error last ∧
        p.follow fuel seen' stack' = .error last' ∧ SeenMoved p n last last' := by
  -- both runs take from their stacks in step, and skip the same ways
  induction fuel generalizing seen seen' stack stack' with
  | zero => exact .inr ⟨seen, seen', by simp [follow], by simp [follow], hseen⟩
  | succ fuel ih =>
    cases hstack with
    | nil => exact .inr ⟨seen, seen', by simp [follow], by simp [follow], hseen⟩
    | @cons w w' more more' hw hmore =>
      have hkey : w'.col * (p.steps.size + 1) + w'.place =
          w.col * (p.steps.size + 1) + w.place + n * (p.steps.size + 1) := by
        rw [hw.col, hw.place, Nat.add_mul]
        omega
      rw [follow, follow, hkey, hseen, hw.place]
      split
      · exact ih hseen hmore
      · rcases hs : p.steps[w.place]? with _ | s
        · exact .inl ⟨w.col, w.marks, rfl, by rw [hw.col, hw.marks]⟩
        · refine ih (hseen.insert _) ?_
          exact List.rel_append (Step.ways_moved hs hw) hmore

/-- A search further on, behind a character like the other one, finds the same further on. -/
theorem search_moved {n : Nat} {seen seen' : Std.HashSet Nat} (hseen : SeenMoved p n seen seen')
    {c d : Option Char} (h : p.Alike c d) (col : Nat) (rest : Text) :
    p.search seen' d (col + n) rest = (p.search seen c col rest).map (Found.moved n) := by
  induction rest generalizing seen seen' c d col with
  | nil =>
    have hways : List.Forall₂ (Way.Moved p n) [⟨0, col, c, [], []⟩] [⟨0, col + n, d, [], []⟩] :=
      .cons ⟨rfl, rfl, h, rfl, rfl⟩ .nil
    unfold search
    rcases follow_moved (p.enoughFor 0) hseen hways with
      ⟨stop, marks, hfollow, hfollow'⟩ | ⟨last, last', hfollow, hfollow', _⟩
    · simp only [List.length_nil, hfollow, hfollow']
      rfl
    · simp only [List.length_nil, hfollow, hfollow']
      rfl
  | cons a rest ih =>
    have hways : List.Forall₂ (Way.Moved p n) [⟨0, col, c, a :: rest, []⟩]
        [⟨0, col + n, d, a :: rest, []⟩] := .cons ⟨rfl, rfl, h, rfl, rfl⟩ .nil
    unfold search
    rcases follow_moved (p.enoughFor (a :: rest).length) hseen hways with
      ⟨stop, marks, hfollow, hfollow'⟩ | ⟨last, last', hfollow, hfollow', hlast⟩
    · simp only [hfollow, hfollow']
      rfl
    · simp only [hfollow, hfollow']
      rw [Nat.add_right_comm]
      exact ih hlast (.refl p _) (col + 1)

end Program

end SourceEditor.Pattern
