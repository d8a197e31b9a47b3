/-
  SourceEditor/Pattern/Run.lean
  =============================
  **Running a program on a text.**  A run keeps the ways it may still go on a stack, the
  preferred one on top.  A way that reaches a step at a place where another way has been leads to
  nothing new and is given up.  That also holds of a run that starts further on in the same text,
  so a search takes at most two ways per step and place altogether.
-/
import Std.Data.HashSet
import SourceEditor.Pattern.Memory
import SourceEditor.Pattern.Program
import SourceEditor.Pattern.Reader
import SourceEditor.Pattern.Texts

namespace SourceEditor.Pattern

/-- A way that a run may go on. -/
structure Way where
  /-- The next step. -/
  place : Nat
  /-- The column in the text. -/
  col : Nat
  /-- The character before the column. -/
  before : Option Char
  /-- The characters from the column on. -/
  rest : Text
  /-- The slots noted, with the columns at that time, the last one first. -/
  marks : List (Nat × Nat)

/-- The way some steps on or back. -/
def Way.go (w : Way) (distance : Int) : Way := { w with place := (w.place + distance).toNat }

/-- The ways that a step leads to, in the order of preference. -/
def Step.ways (s : Step) (w : Way) : List Way :=
  match s with
  | .chars set =>
    match w.rest with
    | [] => []
    | c :: rest =>
      if set.contains c then
        [{ w with place := w.place + 1, col := w.col + 1, before := some c, rest }]
      else []
  | .check a => if a.holds w.before w.rest.head? then [w.go 1] else []
  | .mark slot => [{ w with place := w.place + 1, marks := (slot, w.col) :: w.marks }]
  | .fork preferred other => [w.go preferred, w.go other]
  | .jump distance => [w.go distance]

/-- Each step keeps where a way will be when it has taken the rest of the text. -/
theorem Step.col_add_length_of_mem_ways {s : Step} {w w' : Way} (h : w' ∈ s.ways w) :
    w'.col + w'.rest.length = w.col + w.rest.length := by
  cases s with
  | chars set =>
    rcases hrest : w.rest with _ | ⟨c, rest⟩
    · simp [ways, hrest] at h
    · simp only [ways, hrest] at h
      split at h
      · rw [List.mem_singleton.mp h]
        simp only [List.length_cons]
        omega
      · cases h
  | check a =>
    simp only [ways] at h
    split at h
    · rw [List.mem_singleton.mp h]
      rfl
    · cases h
  | mark slot =>
    rw [List.mem_singleton.mp h]
  | fork preferred other =>
    rcases List.mem_cons.mp h with rfl | h
    · rfl
    · rw [List.mem_singleton.mp h]
      rfl
  | jump distance =>
    rw [List.mem_singleton.mp h]
    rfl

/-- A match on a line. -/
structure Found where
  start : Nat
  /-- The column just past the match. -/
  stop : Nat
  /-- The columns of the ends of the groups, by slot. -/
  marks : List (Nat × Nat)
  deriving DecidableEq, Repr

/-- The number of characters of a match. -/
def Found.length (f : Found) : Nat := f.stop - f.start

/-- The text that the group with a number has matched on the line `t`; the group zero is the whole
match. -/
def Found.groupText (f : Found) (t : Text) (group : Nat) : Text :=
  if group = 0 then (t.drop f.start).take f.length
  else
    match f.marks.lookup (2 * group), f.marks.lookup (2 * group + 1) with
    | some first, some last => (t.drop first).take (last - first)
    | _, _ => []

namespace Program

/-- Goes on with the ways on the stack; `seen` holds the steps and places where one has been.
Gives the column where a match ends and the slots noted; without a match, all the steps and places
seen. -/
def follow (p : Program) :
    Nat → Std.HashSet Nat → List Way → Except (Std.HashSet Nat) (Nat × List (Nat × Nat))
  | 0, seen, _ => .error seen
  | _, seen, [] => .error seen
  | fuel + 1, seen, w :: more =>
    let key := w.col * (p.steps.size + 1) + w.place
    if seen.contains key then p.follow fuel seen more
    else
      match p.steps[w.place]? with
      | none => .ok (w.col, w.marks)
      | some step => p.follow fuel (seen.insert key) (step.ways w ++ more)

/-- A run ends inside the text if all the ways on its stack lead there. -/
theorem stop_le_of_follow {p : Program} {fuel : Nat} {seen : Std.HashSet Nat}
    {stack : List Way} {n stop : Nat} {marks : List (Nat × Nat)}
    (hstack : ∀ w ∈ stack, w.col + w.rest.length = n)
    (h : p.follow fuel seen stack = .ok (stop, marks)) : stop ≤ n := by
  induction fuel generalizing seen stack with
  | zero => simp [follow] at h
  | succ fuel ih =>
    cases stack with
    | nil => simp [follow] at h
    | cons w more =>
      have hw := hstack w (by simp)
      have hmore : ∀ w' ∈ more, w'.col + w'.rest.length = n :=
        fun w' hw' => hstack w' (List.mem_cons_of_mem w hw')
      rw [follow] at h
      split at h
      · exact ih hmore h
      · split at h
        · injection h with h
          rw [← (Prod.mk.inj h).1]
          omega
        · rename_i step _
          refine ih ?_ h
          intro w' hw'
          rcases List.mem_append.mp hw' with hw' | hw'
          · exact (step.col_add_length_of_mem_ways hw').trans hw
          · exact hmore w' hw'

/-- The number of ways that are enough for a run on a text of a length. -/
def enoughFor (p : Program) (length : Nat) : Nat := 2 * (p.steps.size + 1) * (length + 1) + 1

/-- The first match in the text `rest` from column `col` on, where `before` is the character before
the column. -/
def search (p : Program) (seen : Std.HashSet Nat) (before : Option Char) (col : Nat)
    (rest : Text) : Option Found :=
  match p.follow (p.enoughFor rest.length) seen [⟨0, col, before, rest, []⟩] with
  | .ok (stop, marks) => some ⟨col, stop, marks⟩
  | .error seen =>
    match rest with
    | [] => none
    | c :: rest => p.search seen (some c) (col + 1) rest

theorem le_start_of_search {p : Program} {seen : Std.HashSet Nat} {before : Option Char}
    {col : Nat} {rest : Text} {f : Found} (h : p.search seen before col rest = some f) :
    col ≤ f.start := by
  induction rest generalizing seen before col with
  | nil =>
    unfold search at h
    split at h
    · injection h with h; subst h; exact Nat.le_refl _
    · contradiction
  | cons c rest ih =>
    unfold search at h
    split at h
    · injection h with h; subst h; exact Nat.le_refl _
    · have := ih h; omega

theorem stop_le_of_search {p : Program} {seen : Std.HashSet Nat} {before : Option Char}
    {col : Nat} {rest : Text} {f : Found} (h : p.search seen before col rest = some f) :
    f.stop ≤ col + rest.length := by
  induction rest generalizing seen before col with
  | nil =>
    unfold search at h
    split at h
    · rename_i hfollow
      injection h with h
      subst h
      exact stop_le_of_follow (by simp) hfollow
    · cases h
  | cons c rest ih =>
    unfold search at h
    split at h
    · rename_i hfollow
      injection h with h
      subst h
      exact stop_le_of_follow (by simp) hfollow
    · have := ih h
      simp only [List.length_cons]
      omega

end Program

/-- Why a pattern is not accepted. -/
inductive PatternError where
  | malformed
  /-- The pattern is well-formed but would take too much memory. -/
  | tooLarge
  deriving DecidableEq, Repr

/-- The text of a pattern error, as far as it is one line. -/
def PatternError.message : PatternError → String
  | .malformed => "invalid regex pattern: regex parse error:"
  | .tooLarge => "invalid regex pattern: Compiled regex exceeds size limit of 10485760 bytes."

/-- The expression of a literal text. -/
def Expr.ofText (ignoreCase : Bool) (t : Text) : Expr :=
  let flags : Flags := { ignoreCase }
  .sequence (t.map fun c => .ofSet (flags.folded (.singleton c)) false)

/-- The program of a regular expression.  One that does not fit in the memory allowed is still
accepted if it stands for a few texts. -/
def Program.ofPattern (ignoreCase : Bool) (t : Text) : Except PatternError Program :=
  match Parsed.read ignoreCase t with
  | none => .error .malformed
  | some parsed =>
    if parsed.expr.fits then .ok ⟨parsed.expr.steps.toArray, parsed.names⟩
    else
      match parsed.expr.fewTexts? with
      | some texts => .ok ⟨(Expr.choice (texts.map .literal)).steps.toArray, parsed.names⟩
      | none => .error .tooLarge

end SourceEditor.Pattern
