/-
  SourceEditor/Proofs/Indent/Code.lean
  ====================================
  **The code of a buffer, from its first line to its last.**  Searches go from line to line; what
  they look for is a matter of the code characters in their order only.  Here the lines are put
  together to one row of characters, each with its point, and the searches for an open bracket are
  searches through the part of that row in front of a point.
-/
import Mathlib.Data.List.Infix
import SourceEditor.Proofs.Buffer.Points
import SourceEditor.Proofs.Indent.Views

namespace SourceEditor

/-! ### Rows of characters in order -/

/-- Whether characters stand in the order of their points. -/
def IsAscending (cs : List (Point × Char)) : Prop := cs.Pairwise fun x y => x.1 < y.1

/-- The characters in front of a point. -/
def charsBefore (p : Point) (cs : List (Point × Char)) : List (Point × Char) :=
  cs.filter fun x => x.1 < p

namespace IsAscending

variable {cs front behind : List (Point × Char)} {x : Point × Char}

/-- In front of one of the characters stand those that come before it. -/
theorem charsBefore_eq (h : IsAscending (front ++ x :: behind)) :
    charsBefore x.1 (front ++ x :: behind) = front := by
  obtain ⟨_, hbehind, hfront⟩ := List.pairwise_append.mp h
  have hin : front.filter (fun y => y.1 < x.1) = front := by
    rw [List.filter_eq_self]
    intro y hy
    simpa using hfront y hy x List.mem_cons_self
  have hout : (x :: behind).filter (fun y => decide (y.1 < x.1)) = [] := by
    rw [List.filter_eq_nil_iff]
    intro y hy
    rw [decide_eq_true_eq, Point.lt_iff]
    rcases List.mem_cons.mp hy with rfl | hy
    · omega
    · have hlt := (List.pairwise_cons.mp hbehind).1 y hy
      rw [Point.lt_iff] at hlt
      omega
  rw [charsBefore, List.filter_append, hin, hout, List.append_nil]

/-- Behind one of the characters stand those that come after it. -/
theorem filter_behind_eq (h : IsAscending (front ++ x :: behind)) :
    (front ++ x :: behind).filter (fun y => x.1 < y.1) = behind := by
  obtain ⟨_, hbehind, hfront⟩ := List.pairwise_append.mp h
  have hout : front.filter (fun y => decide (x.1 < y.1)) = [] := by
    rw [List.filter_eq_nil_iff]
    intro y hy
    have hlt := hfront y hy x List.mem_cons_self
    rw [Point.lt_iff] at hlt
    rw [decide_eq_true_eq, Point.lt_iff]
    omega
  have hin : behind.filter (fun y => decide (x.1 < y.1)) = behind := by
    rw [List.filter_eq_self]
    intro y hy
    simpa using (List.pairwise_cons.mp hbehind).1 y hy
  have hself : ¬x.1 < x.1 := by
    rw [Point.lt_iff]
    omega
  rw [List.filter_append, hout, List.nil_append, List.filter_cons_of_neg (by simpa using hself),
    hin]

theorem charsBefore (h : IsAscending cs) (p : Point) : IsAscending (charsBefore p cs) :=
  h.filter _

theorem eq_of_mem (h : IsAscending cs) {p : Point} {c c' : Char} (hc : (p, c) ∈ cs)
    (hc' : (p, c') ∈ cs) : c = c' := by
  obtain ⟨front, behind, rfl⟩ := List.append_of_mem hc
  obtain ⟨_, hbehind, hfront⟩ := List.pairwise_append.mp h
  have hirrefl : ¬p < p := by
    rw [Point.lt_iff]
    omega
  rcases List.mem_append.mp hc' with hmem | hmem
  · exact absurd (hfront _ hmem _ List.mem_cons_self) hirrefl
  · rcases List.mem_cons.mp hmem with heq | hmem
    · exact (congrArg Prod.snd heq).symm
    · exact absurd ((List.pairwise_cons.mp hbehind).1 _ hmem) hirrefl

end IsAscending

/-! ### Searching backward -/

namespace Brackets

variable {α : Type}

/-- Goes backward through characters, the last one first, to an opener without a closer; `depth`
closers wait for their openers. -/
def find (br : Brackets) (depth : Nat) : List (α × Char) → Option α
  | [] => none
  | (a, c) :: rest =>
    if br.closes.contains c then br.find (depth + 1) rest
    else if br.opens.contains c then
      match depth with
      | 0 => some a
      | d + 1 => br.find d rest
    else if depth = 0 && br.stops.contains c then none
    else br.find depth rest

/-- Where the search through a line leads, from the end of its characters. -/
theorem find_append (br : Brackets) (n depth : Nat) (cs : List (Nat × Char))
    (rest : List (Point × Char)) :
    br.find depth (cs.map (fun x => (⟨n, x.1⟩, x.2)) ++ rest) =
      match br.search depth cs with
      | .found col => some ⟨n, col⟩
      | .stopped => none
      | .waiting d => br.find d rest := by
  fun_induction search br depth cs with
  | case1 depth => rfl
  | case2 depth col c cs hcloses ih =>
    simp only [List.map_cons, List.cons_append, find, if_pos hcloses, ih]
  | case3 col c cs hcloses hopens =>
    simp only [List.map_cons, List.cons_append, find, if_neg hcloses, if_pos hopens]
  | case4 col c cs hcloses hopens d ih =>
    simp only [List.map_cons, List.cons_append, find, if_neg hcloses, if_pos hopens, ih]
  | case5 depth col c cs hcloses hopens hstops =>
    simp only [List.map_cons, List.cons_append, find, if_neg hcloses, if_neg hopens, if_pos hstops]
  | case6 depth col c cs hcloses hopens hstops ih =>
    simp only [List.map_cons, List.cons_append, find, if_neg hcloses, if_neg hopens,
      if_neg hstops, ih]

end Brackets

namespace Buffer

variable {b : Buffer}

theorem le_lineCount_of_line? {n : Nat} {l : Line} (hl : b.line? n = some l) :
    n ≤ b.lineCount := by
  apply Nat.le_of_not_lt
  intro hlt
  rw [line?_eq_none_iff.mpr (.inr hlt)] at hl
  cases hl

/-! ### The code -/

/-- The code characters of the line with a number, each with its point. -/
def codeOn (b : Buffer) (n : Nat) : List (Point × Char) :=
  ((b.line? n).map fun l => l.codeChars.map fun x => (⟨n, x.1⟩, x.2)).getD []

/-- The code characters of the first `n` lines. -/
def codeTo (b : Buffer) : Nat → List (Point × Char)
  | 0 => []
  | n + 1 => b.codeTo n ++ b.codeOn (n + 1)

/-- The code characters in front of a point. -/
def codeBefore (b : Buffer) (p : Point) : List (Point × Char) :=
  charsBefore p (b.codeTo b.lineCount)

theorem codeOn_eq {n : Nat} {l : Line} (hl : b.line? n = some l) :
    b.codeOn n = l.codeChars.map fun x => (⟨n, x.1⟩, x.2) := by
  rw [codeOn, hl]
  rfl

theorem line_of_mem_codeOn {n : Nat} {x : Point × Char} (h : x ∈ b.codeOn n) : x.1.line = n := by
  rcases hl : b.line? n with _ | l
  · rw [codeOn, hl] at h
    cases h
  · rw [codeOn_eq hl] at h
    obtain ⟨y, _, rfl⟩ := List.mem_map.mp h
    rfl

theorem exists_line?_of_mem_codeOn {n : Nat} {x : Point × Char} (h : x ∈ b.codeOn n) :
    ∃ l, b.line? n = some l := by
  rcases hl : b.line? n with _ | l
  · rw [codeOn, hl] at h
    cases h
  · exact ⟨l, rfl⟩

theorem isAscending_codeOn (b : Buffer) (n : Nat) : IsAscending (b.codeOn n) := by
  rcases hl : b.line? n with _ | l
  · rw [codeOn, hl]
    exact List.Pairwise.nil
  · rw [codeOn_eq hl, IsAscending, List.pairwise_map]
    exact l.pairwise_codeChars.imp fun hlt => .inr ⟨rfl, hlt⟩

theorem mem_codeTo {n : Nat} {x : Point × Char} :
    x ∈ b.codeTo n ↔ x.1.line ≤ n ∧ x ∈ b.codeOn x.1.line := by
  induction n with
  | zero =>
    have hzero : b.codeOn 0 = [] := rfl
    simp only [codeTo, List.not_mem_nil, false_iff, not_and]
    intro hle
    rw [Nat.le_zero.mp hle, hzero]
    exact List.not_mem_nil
  | succ n ih =>
    rw [codeTo, List.mem_append, ih]
    constructor
    · rintro (⟨hle, hx⟩ | hx)
      · exact ⟨Nat.le_succ_of_le hle, hx⟩
      · have hline := line_of_mem_codeOn hx
        exact ⟨Nat.le_of_eq hline, hline ▸ hx⟩
    · rintro ⟨hle, hx⟩
      rcases Nat.eq_or_lt_of_le hle with heq | hlt
      · exact .inr (heq ▸ hx)
      · exact .inl ⟨Nat.le_of_lt_succ hlt, hx⟩

theorem isAscending_codeTo (b : Buffer) (n : Nat) : IsAscending (b.codeTo n) := by
  induction n with
  | zero => exact List.Pairwise.nil
  | succ n ih =>
    refine List.pairwise_append.mpr ⟨ih, b.isAscending_codeOn (n + 1), ?_⟩
    intro x hx y hy
    have hle := (mem_codeTo.mp hx).1
    have hline := line_of_mem_codeOn hy
    rw [Point.lt_iff]
    omega

theorem charsBefore_codeOn_of_lt {p : Point} {n : Nat} (h : n < p.line) :
    charsBefore p (b.codeOn n) = b.codeOn n := by
  rw [charsBefore, List.filter_eq_self]
  intro x hx
  rw [decide_eq_true_eq, Point.lt_iff, line_of_mem_codeOn hx]
  exact .inl h

/-- In front of a point stand the lines above it and the characters of its line up to its column. -/
theorem codeBefore_eq {p : Point} {l : Line} (hl : b.line? p.line = some l) :
    b.codeBefore p = b.codeTo (p.line - 1) ++
      (l.codeChars.filter fun x => x.1 < p.col).map fun x => (⟨p.line, x.1⟩, x.2) := by
  have hline : charsBefore p (b.codeOn p.line) =
      (l.codeChars.filter fun x => x.1 < p.col).map fun x => (⟨p.line, x.1⟩, x.2) := by
    rw [codeOn_eq hl, charsBefore, List.filter_map]
    congr 2
    funext x
    simp [Point.lt_iff]
  -- the lines from the one of the point on add nothing
  have hgo : ∀ n, charsBefore p (b.codeTo n) =
      if n < p.line then b.codeTo n
      else b.codeTo (p.line - 1) ++ charsBefore p (b.codeOn p.line) := by
    intro n
    induction n with
    | zero =>
      obtain ⟨hne, _⟩ := line?_eq_some_iff.mp hl
      rw [if_pos (Nat.pos_of_ne_zero hne)]
      rfl
    | succ n ih =>
      rw [codeTo, charsBefore, List.filter_append]
      change charsBefore p (b.codeTo n) ++ charsBefore p (b.codeOn (n + 1)) = _
      rw [ih]
      rcases Nat.lt_trichotomy (n + 1) p.line with hlt | heq | hlt
      · rw [if_pos (by omega), if_pos hlt, charsBefore_codeOn_of_lt hlt]
      · rw [if_pos (by omega), if_neg (by omega), ← heq, Nat.add_sub_cancel]
      · have hnil : charsBefore p (b.codeOn (n + 1)) = [] := by
          rw [charsBefore, List.filter_eq_nil_iff]
          intro x hx
          rw [decide_eq_true_eq, Point.lt_iff, line_of_mem_codeOn hx]
          omega
        rw [if_neg (by omega), if_neg (by omega), hnil, List.append_nil]
  have hle := le_lineCount_of_line? hl
  rw [codeBefore, hgo, if_neg (by omega), hline]

/-! ### Open brackets -/

theorem openAbove_eq_find {n : Nat} (hn : n ≤ b.lineCount) (br : Brackets) (depth : Nat) :
    b.openAbove br depth n = br.find depth (b.codeTo n).reverse := by
  induction n generalizing depth with
  | zero => rfl
  | succ n ih =>
    have habove := ih (Nat.le_of_succ_le hn)
    rcases hl : b.line? (n + 1) with _ | l
    · rw [line?_eq_none_iff] at hl
      omega
    · rcases hsearch : br.search depth l.codeChars.reverse with col | _ | d <;>
        simp only [openAbove, hl, codeTo, List.reverse_append, codeOn_eq hl, ← List.map_reverse,
          Brackets.find_append, habove, hsearch]

/-- The search for an open bracket goes backward through the code in front of a point. -/
theorem unmatchedOpen_eq_find {p : Point} {l : Line} (hl : b.line? p.line = some l)
    (br : Brackets) : b.unmatchedOpen br p = br.find 0 (b.codeBefore p).reverse := by
  have hle : p.line - 1 ≤ b.lineCount := by
    have hline := le_lineCount_of_line? hl
    omega
  rcases hsearch : br.search 0 (l.codeChars.filter fun c => c.1 < p.col).reverse
    with col | _ | d <;>
    simp only [unmatchedOpen, hl, codeBefore_eq hl, List.reverse_append, ← List.map_reverse,
      Brackets.find_append, openAbove_eq_find hle, hsearch]

end Buffer

end SourceEditor
