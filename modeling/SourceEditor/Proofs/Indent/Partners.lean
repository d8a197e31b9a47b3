/-
  SourceEditor/Proofs/Indent/Partners.lean
  ========================================
  **Openers, closers and the statements they hold together.**  Read forward, a closing parenthesis
  or bracket closes the last opener that is open in front of it; the backward search finds that
  opener.  The start of a statement follows closers to the lines of their openers, on each line the
  first closer whose opener is not on the line.  So no closer of the statement has its opener above
  the statement's first line, but for closers that stand behind another such closer on their line.
-/
import Mathlib.Data.List.Induction
import SourceEditor.Proofs.Indent.Code
import SourceEditor.Proofs.Indent.Plain

namespace SourceEditor

/-! ### Openers and closers -/

/-- Whether a character opens a parenthesis or a bracket. -/
def IsOpener (c : Char) : Prop := c = '(' ∨ c = '['

/-- Whether a character closes a parenthesis or a bracket. -/
def IsCloser (c : Char) : Prop := c = ')' ∨ c = ']'

instance (c : Char) : Decidable (IsOpener c) := inferInstanceAs (Decidable (c = '(' ∨ c = '['))

instance (c : Char) : Decidable (IsCloser c) := inferInstanceAs (Decidable (c = ')' ∨ c = ']'))

theorem IsCloser.not_isOpener {c : Char} (h : IsCloser c) : ¬IsOpener c := by
  rcases h with rfl | rfl <;> decide

namespace Text

theorem nesting_concat_opener {c : Char} (h : IsOpener c) (depth : Nat) (t : Text) :
    nesting depth (t ++ [c]) = (nesting depth t).map (· + 1) := by
  have hc : c = '(' ∨ c = '[' := h
  rw [nesting_append]
  rcases nesting depth t with _ | d
  · rfl
  · simp [nesting, hc]

theorem nesting_concat_closer {c : Char} (h : IsCloser c) (depth d : Nat) (t : Text) :
    nesting depth (t ++ [c]) = some d ↔ nesting depth t = some (d + 1) := by
  have hopens : ¬(c = '(' ∨ c = '[') := h.not_isOpener
  have hc : c = ')' ∨ c = ']' := h
  rw [nesting_append]
  rcases nesting depth t with _ | e
  · simp
  · cases e <;> simp [nesting, hopens, hc]

theorem nesting_concat_other {c : Char} (hopens : ¬IsOpener c) (hcloses : ¬IsCloser c)
    (depth : Nat) (t : Text) : nesting depth (t ++ [c]) = nesting depth t := by
  have hopens : ¬(c = '(' ∨ c = '[') := hopens
  have hcloses : ¬(c = ')' ∨ c = ']') := hcloses
  rw [nesting_append]
  rcases nesting depth t with _ | d
  · rfl
  · simp [nesting, hopens, hcloses]

theorem nesting_cons_opener {c : Char} (h : IsOpener c) (depth : Nat) (t : Text) :
    nesting depth (c :: t) = nesting (depth + 1) t := by
  have hc : c = '(' ∨ c = '[' := h
  simp [nesting, hc]

theorem pos_of_nesting_cons_closer {c : Char} (h : IsCloser c) {depth d : Nat} {t : Text}
    (ht : nesting depth (c :: t) = some d) : 0 < depth := by
  have hopens : ¬(c = '(' ∨ c = '[') := h.not_isOpener
  have hc : c = ')' ∨ c = ']' := h
  cases depth with
  | zero => simp [nesting, hopens, hc] at ht
  | succ depth => exact Nat.succ_pos depth

/-- What is open in front of a text stays open behind it. -/
theorem nesting_add {depth d : Nat} {t : Text} (h : nesting depth t = some d) (k : Nat) :
    nesting (depth + k) t = some (d + k) := by
  fun_induction nesting depth t with
  | case1 =>
    obtain rfl := Option.some.inj h
    rfl
  | case2 depth c rest hopens ih =>
    simp only [nesting, if_pos hopens, Nat.add_right_comm depth k 1]
    exact ih h
  | case3 c rest hopens hcloses => cases h
  | case4 c rest hopens hcloses d' ih =>
    simp only [nesting, if_neg hopens, if_pos hcloses, Nat.add_right_comm d' 1 k]
    exact ih h
  | case5 depth c rest hopens hcloses ih =>
    simp only [nesting, if_neg hopens, if_neg hcloses]
    exact ih h

theorem exists_nesting_of_append {depth d : Nat} {s t : Text}
    (h : nesting depth (s ++ t) = some d) :
    ∃ e, nesting depth s = some e ∧ nesting e t = some d := by
  rw [nesting_append] at h
  exact Option.bind_eq_some_iff.mp h

end Text

/-! ### The last opener that is open -/

section StaysOpen

variable {α : Type} {cs cs' : List (α × Char)} {a : α} {depth : Nat}

/-- Whether the opener at a place is open behind some characters, with `depth` openers open inside
it. -/
def StaysOpen (cs : List (α × Char)) (a : α) (depth : Nat) : Prop :=
  ∃ front c behind, cs = front ++ (a, c) :: behind ∧ IsOpener c ∧
    Text.nesting 0 (behind.map Prod.snd) = some depth

theorem StaysOpen.exists_mem (h : StaysOpen cs a depth) : ∃ c, (a, c) ∈ cs := by
  obtain ⟨front, c, behind, rfl, _, _⟩ := h
  exact ⟨c, List.mem_append_right _ List.mem_cons_self⟩

theorem staysOpen_concat {x : α × Char} :
    StaysOpen (cs ++ [x]) a depth ↔
      (a = x.1 ∧ IsOpener x.2 ∧ depth = 0) ∨
        ∃ front c behind, cs = front ++ (a, c) :: behind ∧ IsOpener c ∧
          Text.nesting 0 (behind.map Prod.snd ++ [x.2]) = some depth := by
  constructor
  · rintro ⟨front, c, behind, heq, hc, hnesting⟩
    rcases List.eq_nil_or_concat' behind with rfl | ⟨behind, y, rfl⟩
    · obtain ⟨rfl, hx⟩ := List.append_inj' heq rfl
      obtain rfl := List.singleton_inj.mp hx
      exact .inl ⟨rfl, hc, (Option.some.inj hnesting).symm⟩
    · rw [← List.cons_append, ← List.append_assoc] at heq
      obtain ⟨rfl, hx⟩ := List.append_inj' heq rfl
      obtain rfl := List.singleton_inj.mp hx
      exact .inr ⟨front, c, behind, rfl, hc, by simpa using hnesting⟩
  · rintro (⟨rfl, hc, rfl⟩ | ⟨front, c, behind, rfl, hc, hnesting⟩)
    · exact ⟨cs, x.2, [], rfl, hc, rfl⟩
    · exact ⟨front, c, behind ++ [x], by simp, hc, by simpa using hnesting⟩

/-- The backward search comes to the opener that is open with as many openers inside it as closers
are waiting. -/
theorem Brackets.find_parens_eq_some_iff :
    parens.find depth cs.reverse = some a ↔ StaysOpen cs a depth := by
  have hopeners : ∀ c, parens.opens.contains c = true ↔ IsOpener c := by simp [parens, IsOpener]
  have hclosers : ∀ c, parens.closes.contains c = true ↔ IsCloser c := by simp [parens, IsCloser]
  induction cs using List.reverseRecOn generalizing depth with
  | nil => simp [find, StaysOpen]
  | append_singleton cs x ih =>
    obtain ⟨b, c⟩ := x
    rw [staysOpen_concat, List.reverse_concat]
    simp only [find, hopeners, hclosers]
    by_cases hcloses : IsCloser c
    · have hopens := hcloses.not_isOpener
      simp only [if_pos hcloses, ih, StaysOpen, hopens, Text.nesting_concat_closer hcloses,
        false_and, and_false, false_or]
    · by_cases hopens : IsOpener c
      · simp only [if_neg hcloses, Text.nesting_concat_opener hopens, hopens]
        cases depth with
        | zero =>
          have hnone : ∀ n : Option Nat, n.map (· + 1) ≠ some 0 := by simp
          simp [hnone, eq_comm]
        | succ depth => simp [ih, StaysOpen]
      · have hstops : parens.stops.contains c = false := rfl
        simp only [if_neg hcloses, hstops, Bool.and_false, Bool.false_eq_true, if_false, ih,
          StaysOpen, hopens, Text.nesting_concat_other hopens hcloses, false_and, and_false,
          false_or]

theorem StaysOpen.unique {a' : α} (h : StaysOpen cs a depth) (h' : StaysOpen cs a' depth) :
    a = a' := by
  rw [← Brackets.find_parens_eq_some_iff] at h h'
  exact Option.some.inj (h.symm.trans h')

/-- An opener that is open behind a row of characters is open in the last part of it, or in front of
that part with as many fewer openers inside it as the part leaves open. -/
theorem StaysOpen.append_cases (h : StaysOpen (cs ++ cs') a depth) {n : Nat}
    (hn : Text.nesting 0 (cs'.map Prod.snd) = some n) :
    (depth < n ∧ StaysOpen cs' a depth) ∨ ∃ k, depth = n + k ∧ StaysOpen cs a k := by
  obtain ⟨front, c, behind, heq, hc, hnesting⟩ := h
  rcases List.append_eq_append_iff.mp heq with ⟨mid, rfl, hmid⟩ | ⟨mid, rfl, hmid⟩
  · left
    refine ⟨?_, mid, c, behind, hmid, hc, hnesting⟩
    rw [hmid, List.map_append, List.map_cons] at hn
    obtain ⟨e, _, hrest⟩ := Text.exists_nesting_of_append hn
    have hbehind := Text.nesting_add hnesting (e + 1)
    rw [Text.nesting_cons_opener hc] at hrest
    rw [Nat.zero_add, hrest] at hbehind
    have hlt := Option.some.inj hbehind
    omega
  · rcases List.cons_eq_append_iff.mp hmid with ⟨rfl, rfl⟩ | ⟨mid, rfl, rfl⟩
    · left
      refine ⟨?_, [], c, behind, rfl, hc, hnesting⟩
      have hbehind := Text.nesting_add hnesting 1
      rw [List.map_cons, Text.nesting_cons_opener hc, hbehind] at hn
      have hlt := Option.some.inj hn
      omega
    · right
      rw [List.map_append] at hnesting
      obtain ⟨k, hmid, hrest⟩ := Text.exists_nesting_of_append hnesting
      have hwhole := Text.nesting_add hn k
      rw [Nat.zero_add, hrest] at hwhole
      exact ⟨k, Option.some.inj hwhole, front, c, mid, rfl, hc, hmid⟩

theorem StaysOpen.of_append (h : StaysOpen cs' a depth) : StaysOpen (cs ++ cs') a depth := by
  obtain ⟨front, c, behind, rfl, hc, hnesting⟩ := h
  exact ⟨cs ++ front, c, behind, by simp, hc, hnesting⟩

/-- Where more is opened than `depth`, there is an opener with that many open inside it. -/
theorem exists_staysOpen {n : Nat} (hn : Text.nesting 0 (cs.map Prod.snd) = some n)
    (hlt : depth < n) : ∃ a, StaysOpen cs a depth := by
  induction cs using List.reverseRecOn generalizing n depth with
  | nil =>
    obtain rfl := Option.some.inj hn
    exact absurd hlt (Nat.not_lt_zero depth)
  | append_singleton cs x ih =>
    simp only [staysOpen_concat]
    rw [List.map_append, List.map_singleton] at hn
    by_cases hcloses : IsCloser x.2
    · rw [Text.nesting_concat_closer hcloses] at hn
      obtain ⟨a, front, c, behind, rfl, hc, hnesting⟩ := ih hn (Nat.succ_lt_succ hlt)
      exact ⟨a, .inr ⟨front, c, behind, rfl, hc,
        (Text.nesting_concat_closer hcloses _ _ _).mpr hnesting⟩⟩
    · by_cases hopens : IsOpener x.2
      · rw [Text.nesting_concat_opener hopens, Option.map_eq_some_iff] at hn
        obtain ⟨m, hm, rfl⟩ := hn
        cases depth with
        | zero => exact ⟨x.1, .inl ⟨rfl, hopens, rfl⟩⟩
        | succ depth =>
          obtain ⟨a, front, c, behind, rfl, hc, hnesting⟩ := ih hm (Nat.lt_of_succ_lt_succ hlt)
          refine ⟨a, .inr ⟨front, c, behind, rfl, hc, ?_⟩⟩
          rw [Text.nesting_concat_opener hopens, hnesting]
          rfl
      · rw [Text.nesting_concat_other hopens hcloses] at hn
        obtain ⟨a, front, c, behind, rfl, hc, hnesting⟩ := ih hn hlt
        exact ⟨a, .inr ⟨front, c, behind, rfl, hc,
          (Text.nesting_concat_other hopens hcloses _ _).trans hnesting⟩⟩

/-- In front of a closer that stands behind an opener which stays open, some opener is open. -/
theorem StaysOpen.exists_of_closer {x : α × Char} (h : StaysOpen (cs ++ x :: cs') a depth)
    (hx : IsCloser x.2) (ha : ∀ c, (a, c) ∉ x :: cs') : ∃ a', StaysOpen cs a' 0 := by
  obtain ⟨front, c, behind, heq, hc, hnesting⟩ := h
  rcases List.append_eq_append_iff.mp heq with ⟨mid, rfl, hmid⟩ | ⟨mid, rfl, hmid⟩
  · exact absurd (hmid ▸ List.mem_append_right _ List.mem_cons_self) (ha c)
  rcases List.cons_eq_append_iff.mp hmid with ⟨rfl, hbehind⟩ | ⟨mid, rfl, rfl⟩
  · exact absurd (hbehind ▸ List.mem_cons_self) (ha c)
  rw [List.map_append, List.map_cons] at hnesting
  obtain ⟨e, hmid, hrest⟩ := Text.exists_nesting_of_append hnesting
  have hpos : 0 < e := Text.pos_of_nesting_cons_closer hx hrest
  obtain ⟨a', hstays⟩ := exists_staysOpen hmid hpos
  have hcons : StaysOpen ([(a, c)] ++ mid) a' 0 := hstays.of_append
  exact ⟨a', hcons.of_append⟩

end StaysOpen

/-! ### Closers of a line -/

theorem exists_of_unmatchedCloser {depth col : Nat} {cs : List (Nat × Char)}
    (h : unmatchedCloser depth cs = some col) :
    ∃ front c behind, cs = front ++ (col, c) :: behind ∧ IsCloser c ∧
      Text.nesting depth (front.map Prod.snd) = some 0 := by
  fun_induction unmatchedCloser depth cs with
  | case1 => cases h
  | case2 depth col' c rest hopens ih =>
    obtain ⟨front, d, behind, rfl, hd, hnesting⟩ := ih h
    exact ⟨(col', c) :: front, d, behind, rfl, hd,
      (Text.nesting_cons_opener hopens _ _).trans hnesting⟩
  | case3 col' c rest hopens hcloses =>
    obtain rfl := Option.some.inj h
    exact ⟨[], c, rest, rfl, hcloses, rfl⟩
  | case4 col' c rest hopens hcloses d ih =>
    obtain ⟨front, e, behind, rfl, he, hnesting⟩ := ih h
    refine ⟨(col', c) :: front, e, behind, rfl, he, ?_⟩
    simpa [Text.nesting, hopens, hcloses] using hnesting
  | case5 depth col' c rest hopens hcloses ih =>
    obtain ⟨front, e, behind, rfl, he, hnesting⟩ := ih h
    refine ⟨(col', c) :: front, e, behind, rfl, he, ?_⟩
    simpa [Text.nesting, hopens, hcloses] using hnesting

theorem exists_nesting_of_unmatchedCloser {depth : Nat} {cs : List (Nat × Char)}
    (h : unmatchedCloser depth cs = none) : ∃ d, Text.nesting depth (cs.map Prod.snd) = some d := by
  fun_induction unmatchedCloser depth cs with
  | case1 depth => exact ⟨depth, rfl⟩
  | case2 depth col c rest hopens ih => simpa [Text.nesting, hopens] using ih h
  | case3 col c rest hopens hcloses => cases h
  | case4 col c rest hopens hcloses d ih => simpa [Text.nesting, hopens, hcloses] using ih h
  | case5 depth col c rest hopens hcloses ih => simpa [Text.nesting, hopens, hcloses] using ih h

/-! ### Partners -/

namespace Buffer

variable {b : Buffer} {p q : Point} {x : Point × Char} {front behind : List (Point × Char)}

theorem isAscending_codeBefore (b : Buffer) (p : Point) : IsAscending (b.codeBefore p) :=
  (b.isAscending_codeTo b.lineCount).charsBefore p

theorem mem_codeBefore : x ∈ b.codeBefore p ↔ x ∈ b.codeOn x.1.line ∧ x.1 < p := by
  rw [codeBefore, charsBefore, List.mem_filter, decide_eq_true_eq, mem_codeTo]
  constructor
  · rintro ⟨⟨_, hx⟩, hlt⟩
    exact ⟨hx, hlt⟩
  · rintro ⟨hx, hlt⟩
    obtain ⟨l, hl⟩ := exists_line?_of_mem_codeOn hx
    exact ⟨⟨le_lineCount_of_line? hl, hx⟩, hlt⟩

/-- The code in front of a character is what stands in front of it in a longer row of code. -/
theorem codeBefore_of_append (h : b.codeBefore p = front ++ x :: behind) :
    b.codeBefore x.1 = front := by
  have hlt : x.1 < p := (mem_codeBefore.mp (h ▸ List.mem_append_right _ List.mem_cons_self)).2
  have hcs : IsAscending (front ++ x :: behind) := h ▸ b.isAscending_codeBefore p
  rw [← hcs.charsBefore_eq, ← h, codeBefore, codeBefore, charsBefore, charsBefore, charsBefore,
    List.filter_filter]
  congr 1
  funext y
  rw [Point.lt_iff] at hlt
  rw [← Bool.decide_and, decide_eq_decide, Point.lt_iff, Point.lt_iff]
  omega

theorem exists_codeBefore_eq (hx : x ∈ b.codeOn x.1.line) (hlt : x.1 < p) :
    ∃ behind, b.codeBefore p = b.codeBefore x.1 ++ x :: behind := by
  obtain ⟨front, behind, heq⟩ := List.append_of_mem (mem_codeBefore.mpr ⟨hx, hlt⟩)
  exact ⟨behind, by rw [codeBefore_of_append heq, heq]⟩

theorem line_of_codeBefore_eq (h : b.codeBefore p = front ++ x :: behind) {y : Point × Char}
    (hy : y ∈ x :: behind) : x.1.line ≤ y.1.line ∧ y.1.line ≤ p.line := by
  have hlt : y.1 < p := (mem_codeBefore.mp (h ▸ List.mem_append_right _ hy)).2
  have hcs : IsAscending (front ++ x :: behind) := h ▸ b.isAscending_codeBefore p
  have hbehind := List.pairwise_cons.mp (List.pairwise_append.mp hcs).2.1
  rw [Point.lt_iff] at hlt
  rcases List.mem_cons.mp hy with rfl | hy
  · omega
  · have hxy := hbehind.1 y hy
    rw [Point.lt_iff] at hxy
    omega

/-- Whether the opener at `q` is closed by the closer at `p`. -/
def IsPartner (b : Buffer) (q p : Point) : Prop :=
  (∃ c, (p, c) ∈ b.codeOn p.line ∧ IsCloser c) ∧ StaysOpen (b.codeBefore p) q 0

/-- The search for an open parenthesis or bracket comes to the innermost one that is open. -/
theorem unmatchedOpen_parens_eq_some_iff {l : Line} (hl : b.line? p.line = some l) :
    b.unmatchedOpen .parens p = some q ↔ StaysOpen (b.codeBefore p) q 0 := by
  rw [unmatchedOpen_eq_find hl, Brackets.find_parens_eq_some_iff]

/-- The partner of a closer is the opener that the search from the closer comes to. -/
theorem isPartner_iff {l : Line} (hl : b.line? p.line = some l) :
    b.IsPartner q p ↔
      (∃ c, (p, c) ∈ b.codeOn p.line ∧ IsCloser c) ∧ b.unmatchedOpen .parens p = some q := by
  rw [IsPartner, unmatchedOpen_parens_eq_some_iff hl]

namespace IsPartner

variable {q' p' : Point}

/-- Between a closer and its partner all is closed that is opened there. -/
theorem exists_codeBefore (h : b.IsPartner q p) :
    ∃ c inside, b.codeBefore p = b.codeBefore q ++ (q, c) :: inside ∧ IsOpener c ∧
      Text.nesting 0 (inside.map Prod.snd) = some 0 := by
  obtain ⟨_, front, c, inside, heq, hc, hnesting⟩ := h
  obtain rfl : b.codeBefore q = front := codeBefore_of_append heq
  exact ⟨c, inside, heq, hc, hnesting⟩

theorem unique (h : b.IsPartner q p) (h' : b.IsPartner q' p) : q = q' := h.2.unique h'.2

/-- The partner of a closer that stands in a part which closes only what it opens is in the part. -/
theorem exists_mem (h : b.IsPartner q p) {part : List (Point × Char)} {d : Nat} {c : Char}
    (heq : b.codeBefore p' = front ++ part)
    (hpart : Text.nesting 0 (part.map Prod.snd) = some d) (hmem : (p, c) ∈ part) :
    ∃ c', (q, c') ∈ part := by
  obtain ⟨⟨c₀, hc₀, hcloser⟩, hopen⟩ := h
  have hc : (p, c) ∈ b.codeOn p.line :=
    (mem_codeBefore.mp (heq ▸ List.mem_append_right _ hmem)).1
  obtain rfl := (b.isAscending_codeOn p.line).eq_of_mem hc hc₀
  obtain ⟨inside, behind, rfl⟩ := List.append_of_mem hmem
  rw [← List.append_assoc] at heq
  rw [codeBefore_of_append heq] at hopen
  rw [List.map_append, List.map_cons] at hpart
  obtain ⟨e, hinside, hbehind⟩ := Text.exists_nesting_of_append hpart
  -- the closer needs an opener inside the part
  have hpos : 0 < e := Text.pos_of_nesting_cons_closer hcloser hbehind
  rcases hopen.append_cases hinside with ⟨_, hstays⟩ | ⟨k, hk, _⟩
  · obtain ⟨c', hmem'⟩ := hstays.exists_mem
    exact ⟨c', List.mem_append_left _ hmem'⟩
  · omega

/-- Pairs do not cross: inside a pair a closer has its partner inside. -/
theorem nested (h : b.IsPartner q p) (h' : b.IsPartner q' p') (hq : q < p') (hp : p' < p) :
    q < q' := by
  obtain ⟨c, inside, heq, _, hinside⟩ := h.exists_codeBefore
  obtain ⟨c', hc', _⟩ := h'.1
  have hcode : IsAscending (b.codeBefore q ++ (q, c) :: inside) := heq ▸ b.isAscending_codeBefore p
  have hmem : (p', c') ∈ b.codeBefore q ++ (q, c) :: inside := by
    rw [← heq]
    exact mem_codeBefore.mpr ⟨hc', hp⟩
  rcases List.mem_append.mp hmem with hfront | hmem
  · have hlt : p' < q := (mem_codeBefore.mp hfront).2
    rw [Point.lt_iff] at hlt hq
    omega
  rcases List.mem_cons.mp hmem with heq' | hmem
  · obtain rfl : p' = q := congrArg Prod.fst heq'
    rw [Point.lt_iff] at hq
    omega
  rw [List.append_cons] at heq
  obtain ⟨d, hd⟩ := h'.exists_mem heq hinside hmem
  exact (List.pairwise_cons.mp (List.pairwise_append.mp hcode).2.1).1 _ hd

end IsPartner

/-! ### One step of the walk -/

/-- Closers in a part of a line which closes only what it opens have their partners on the line. -/
theorem IsPartner.line_eq {c : Point} {part : List (Point × Char)} {d : Nat}
    (h : b.IsPartner q c) (heq : b.codeBefore p = b.codeTo (p.line - 1) ++ part)
    (hpart : Text.nesting 0 (part.map Prod.snd) = some d) (hlines : ∀ x ∈ part, x.1.line = p.line)
    (hline : c.line = p.line) (hcol : c.col < p.col) : q.line = p.line := by
  obtain ⟨e, he, _⟩ := h.1
  have hmem : (c, e) ∈ b.codeTo (p.line - 1) ++ part := by
    rw [← heq]
    exact mem_codeBefore.mpr ⟨he, .inr ⟨hline, hcol⟩⟩
  rcases List.mem_append.mp hmem with habove | hmem
  · have hle : c.line ≤ p.line - 1 := (mem_codeTo.mp habove).1
    obtain ⟨l, hl⟩ := exists_line?_of_mem_codeOn he
    obtain ⟨hne, _⟩ := line?_eq_some_iff.mp hl
    omega
  · obtain ⟨f, hf⟩ := h.exists_mem heq hpart hmem
    exact hlines _ hf

/-- The first closer of a line whose opener is not on the line: in front of it the line closes all
that it opens. -/
theorem exists_of_unmatchedCloser_eq_some {n col closer : Nat} {l : Line}
    (hl : b.line? n = some l)
    (h : unmatchedCloser 0 (l.codeChars.filter fun x => x.1 < col) = some closer) :
    ∃ c part, (⟨n, closer⟩, c) ∈ b.codeOn n ∧ IsCloser c ∧ closer < col ∧
      b.codeBefore ⟨n, closer⟩ = b.codeTo (n - 1) ++ part ∧
      Text.nesting 0 (part.map Prod.snd) = some 0 ∧ ∀ x ∈ part, x.1.line = n := by
  obtain ⟨front, c, behind, hrow, hc, hfront⟩ := exists_of_unmatchedCloser h
  have hcode := codeBefore_eq (p := ⟨n, col⟩) hl
  rw [hrow, List.map_append, List.map_cons, ← List.append_assoc] at hcode
  have hmem : (⟨⟨n, closer⟩, c⟩ : Point × Char) ∈ b.codeBefore ⟨n, col⟩ := by
    rw [hcode]
    exact List.mem_append_right _ List.mem_cons_self
  obtain ⟨hon, hlt⟩ := mem_codeBefore.mp hmem
  refine ⟨c, _, hon, hc, ?_, codeBefore_of_append hcode, ?_, ?_⟩
  · rw [Point.lt_iff] at hlt
    dsimp only at hlt
    omega
  · rw [List.map_map]
    exact hfront
  · intro x hx
    obtain ⟨y, _, rfl⟩ := List.mem_map.mp hx
    rfl

/-- Behind a closer without a partner no closer of the line has its partner above the line: that
partner would be open up to the first of the two, which would close it. -/
theorem IsPartner.line_eq_of_behind {c : Point} (h : b.IsPartner q c) {e : Char}
    (hon : (p, e) ∈ b.codeOn p.line) (he : IsCloser e) (hnone : ∀ q, ¬b.IsPartner q p)
    (hline : c.line = p.line) (hcol : p.col < c.col) : q.line = p.line := by
  obtain ⟨rest, hrest⟩ := exists_codeBefore_eq hon (p := c) (.inr ⟨hline.symm, hcol⟩)
  apply Decidable.byContradiction
  intro hne
  have habove : ∀ d, (q, d) ∉ (p, e) :: rest := by
    intro d hd
    have hlines := line_of_codeBefore_eq hrest hd
    dsimp only at hlines
    omega
  have hstays := h.2
  rw [hrest] at hstays
  obtain ⟨q', hq'⟩ := hstays.exists_of_closer he habove
  exact hnone q' ⟨⟨e, hon, he⟩, hq'⟩

/-- Where the walk to the start of a statement goes from a point. -/
def outward (b : Buffer) (p : Point) : Option Point :=
  (b.line? p.line).bind fun l =>
    (unmatchedCloser 0 (l.codeChars.filter fun x => x.1 < p.col)).bind fun closer =>
      (b.unmatchedOpen .parens ⟨p.line, closer⟩).filter fun q => q.line < p.line

theorem statementStart_eq (b : Buffer) (p : Point) :
    b.statementStart p.line p.col =
      ((b.outward p).map fun q => b.statementStart q.line q.col).getD p.line := by
  rw [statementStart, outward]
  rcases b.line? p.line with _ | l
  · rfl
  rw [Option.bind_some]
  dsimp only
  rcases unmatchedCloser 0 (l.codeChars.filter fun x => x.1 < p.col) with _ | closer
  · rfl
  rw [Option.bind_some]
  dsimp only
  rcases b.unmatchedOpen .parens ⟨p.line, closer⟩ with _ | q
  · rfl
  by_cases h : q.line < p.line <;> simp [Option.filter, h]

/-- What the walk to the start of a statement does on a line: it stays where every closer in front
of the point has its partner on the line, and else goes to the partner of the first that has not. -/
theorem statementStart_cases {n : Nat} {l : Line} (hl : b.line? n = some l) (col : Nat) :
    (b.statementStart n col = n ∧
        ∀ c q, b.IsPartner q c → c.line = n → c.col < col → q.line = n) ∨
      ∃ closer q, closer < col ∧ b.IsPartner q ⟨n, closer⟩ ∧ q.line < n ∧
        b.statementStart n col = b.statementStart q.line q.col ∧
        ∀ c q, b.IsPartner q c → c.line = n → c.col < closer → q.line = n := by
  rw [b.statementStart_eq ⟨n, col⟩, outward, hl, Option.bind_some]
  dsimp only
  rcases hcloser : unmatchedCloser 0 (l.codeChars.filter fun x => x.1 < col) with _ | closer
  · left
    refine ⟨rfl, ?_⟩
    intro c q hpartner hline hcol
    obtain ⟨d, hd⟩ := exists_nesting_of_unmatchedCloser hcloser
    refine hpartner.line_eq (codeBefore_eq (p := ⟨n, col⟩) hl) (d := d) ?_ ?_ hline hcol
    · rw [List.map_map]
      exact hd
    · intro x hx
      obtain ⟨y, _, rfl⟩ := List.mem_map.mp hx
      rfl
  obtain ⟨c, part, hon, hc, hcol, hbefore, hnesting, hlines⟩ :=
    exists_of_unmatchedCloser_eq_some hl hcloser
  have hfirst : ∀ c q, b.IsPartner q c → c.line = n → c.col < closer → q.line = n :=
    fun _ _ hpartner => hpartner.line_eq hbefore hnesting hlines
  rw [Option.bind_some]
  rcases hopen : b.unmatchedOpen .parens ⟨n, closer⟩ with _ | q
  · left
    refine ⟨rfl, ?_⟩
    have hnone : ∀ q, ¬b.IsPartner q ⟨n, closer⟩ := by
      intro q hq
      have hfound := (unmatchedOpen_parens_eq_some_iff hl).mpr hq.2
      rw [hopen] at hfound
      cases hfound
    intro c' q hpartner hline hcol'
    rcases Nat.lt_trichotomy c'.col closer with hlt | heq | hlt
    · exact hfirst c' q hpartner hline hlt
    · obtain rfl : c' = ⟨n, closer⟩ := by
        rw [← hline, ← heq]
      exact absurd hpartner (hnone q)
    · exact hpartner.line_eq_of_behind hon hc hnone hline hlt
  · right
    rw [unmatchedOpen_parens_eq_some_iff hl] at hopen
    -- the opener is not on the line, since the closers in front of the first have theirs there
    have habove : q.line < n := by
      have hstays := hopen
      rw [hbefore] at hstays
      rcases hstays.append_cases hnesting with ⟨hneg, _⟩ | ⟨k, _, habove⟩
      · omega
      · obtain ⟨d, hd⟩ := habove.exists_mem
        have hle : q.line ≤ n - 1 := (mem_codeTo.mp hd).1
        obtain ⟨hne, _⟩ := line?_eq_some_iff.mp hl
        omega
    refine ⟨closer, q, hcol, ⟨⟨c, hon, hc⟩, hopen⟩, habove, ?_, hfirst⟩
    rw [Option.filter_some, if_pos (decide_eq_true habove)]
    rfl

/-! ### The whole walk -/

/-- Whether a closer stands behind another of its line whose partner is on line `s` or below it, but
above the line of the two. -/
def IsShadowed (b : Buffer) (s : Nat) (c : Point) : Prop :=
  ∃ c' q', b.IsPartner q' c' ∧ c'.line = c.line ∧ c'.col < c.col ∧ s ≤ q'.line ∧ q'.line < c.line

theorem IsPartner.exists_line? (h : b.IsPartner q p) : ∃ l, b.line? q.line = some l := by
  obtain ⟨d, hd⟩ := h.2.exists_mem
  exact exists_line?_of_mem_codeOn (mem_codeBefore.mp hd).1

theorem IsPartner.not_isPartner {c : Point} (h : b.IsPartner q c) : ¬b.IsPartner p q := by
  intro hp
  obtain ⟨d, inside, heq, hopener, _⟩ := h.exists_codeBefore
  obtain ⟨⟨d', hd', hcloser⟩, _⟩ := hp
  have hd : (q, d) ∈ b.codeBefore c := heq ▸ List.mem_append_right _ List.mem_cons_self
  obtain rfl := (b.isAscending_codeOn q.line).eq_of_mem (mem_codeBefore.mp hd).1 hd'
  exact hcloser.not_isOpener hopener

theorem exists_line?_statementStart {n : Nat} {l : Line} (hl : b.line? n = some l) (col : Nat) :
    ∃ start, b.line? (b.statementStart n col) = some start := by
  induction n using Nat.strongRecOn generalizing col l with
  | _ n ih =>
    rcases statementStart_cases hl col with ⟨hs, _⟩ | ⟨closer, q, _, hq, hlt, hs, _⟩
    · rw [hs]
      exact ⟨l, hl⟩
    · obtain ⟨l', hl'⟩ := hq.exists_line?
      rw [hs]
      exact ih q.line hlt hl' q.col

/-- A closer between the start of a statement and a point has its partner above the start only where
the walk has left the closer's line for the partner of another closer in front of it. -/
theorem isShadowed_of_line_lt {n col : Nat} {l : Line} (hl : b.line? n = some l) {c : Point}
    (hc : b.IsPartner q c) (hstart : b.statementStart n col ≤ c.line) (hlt : c < ⟨n, col⟩)
    (hq : q.line < b.statementStart n col) : b.IsShadowed (b.statementStart n col) c := by
  induction n using Nat.strongRecOn generalizing col l with
  | _ n ih =>
    rw [Point.lt_iff] at hlt
    dsimp only at hlt
    rcases statementStart_cases hl col with
      ⟨hs, hline⟩ | ⟨closer, open₀, hcloser, hpair, habove, hs, -⟩
    · rw [hs] at hstart hq
      have hq' := hline c q hc (by omega) (by omega)
      omega
    have hle := b.statementStart_le open₀.line open₀.col
    rw [hs] at hstart hq ⊢
    -- where the closer stands from the pair that the walk follows
    rcases Point.lt_trichotomy c open₀ with hfront | rfl | hbehind
    · obtain ⟨l', hl'⟩ := hpair.exists_line?
      exact ih open₀.line habove hl' hstart hfront hq
    · exact absurd hc hpair.not_isPartner
    rcases Point.lt_trichotomy c ⟨n, closer⟩ with hinside | rfl | hright
    · have hnested := hpair.nested hc hbehind hinside
      rw [Point.lt_iff] at hnested
      omega
    · obtain rfl := hpair.unique hc
      omega
    · rw [Point.lt_iff] at hright
      dsimp only at hright
      exact ⟨⟨n, closer⟩, open₀, hpair, by dsimp only; omega, by dsimp only; omega, hle, by omega⟩

/-- The line where a statement starts is one of the text and not below the point.  Going forward
from it, no closer in front of the point has its partner above it, but for closers behind one that
has taken the walk away from their line. -/
theorem statementStart_follows_closers (b : Buffer) {p : Point} (hp : b.HasPoint p) :
    1 ≤ b.statementStart p.line p.col ∧ b.statementStart p.line p.col ≤ p.line ∧
      ∀ c q, b.IsPartner q c → b.statementStart p.line p.col ≤ c.line → c < p →
        q.line < b.statementStart p.line p.col →
        b.IsShadowed (b.statementStart p.line p.col) c := by
  obtain ⟨l, hl, _⟩ := hasPoint_iff.mp hp
  obtain ⟨start, hstart⟩ := exists_line?_statementStart hl p.col
  obtain ⟨hne, _⟩ := line?_eq_some_iff.mp hstart
  refine ⟨Nat.pos_of_ne_zero hne, b.statementStart_le p.line p.col, ?_⟩
  intro c q hc hle hlt hq
  exact isShadowed_of_line_lt hl hc hle hlt hq

/-- A call whose second line holds a closer of its own and the one of the call. -/
theorem statementStart_follows_closers_of_call :
    let b := Buffer.ofText "0(1,\n  2(3), 4);".toList (.ofLanguage .cpp)
    b.HasPoint ⟨2, 11⟩ ∧ b.statementStart 2 11 = 1 ∧
      ∀ c q, b.IsPartner q c → 1 ≤ c.line → c < ⟨2, 11⟩ → q.line < 1 → b.IsShadowed 1 c := by
  intro b
  have hp : b.HasPoint ⟨2, 11⟩ := checkPoint_eq_ok_iff.mp (by decide +kernel)
  have hs : b.statementStart 2 11 = 1 := by
    have hfirst : b.outward ⟨2, 11⟩ = some ⟨1, 1⟩ := by decide +kernel
    have hsecond : b.outward ⟨1, 1⟩ = none := by decide +kernel
    rw [b.statementStart_eq ⟨2, 11⟩, hfirst, Option.map_some, b.statementStart_eq ⟨1, 1⟩, hsecond]
    rfl
  have hspec := statementStart_follows_closers b hp
  dsimp only at hspec
  rw [hs] at hspec
  exact ⟨hp, hs, hspec.2.2⟩

/-- Of two closers that belong to lines above, the walk follows the first one only: the statement
begins on line 1, and the walk ends on line 2. -/
theorem exists_closer_not_followed :
    let b := Buffer.ofText "000(\n    111(2,\n        3), 4);\n5;".toList (.ofLanguage .cpp)
    b.HasPoint ⟨3, 15⟩ ∧ ∃ c q, b.IsPartner q c ∧ b.statementStart 3 15 ≤ c.line ∧ c < ⟨3, 15⟩ ∧
      q.line < b.statementStart 3 15 := by
  intro b
  have hp : b.HasPoint ⟨3, 15⟩ := checkPoint_eq_ok_iff.mp (by decide +kernel)
  have hs : b.statementStart 3 15 = 2 := by
    have hfirst : b.outward ⟨3, 15⟩ = some ⟨2, 7⟩ := by decide +kernel
    have hsecond : b.outward ⟨2, 7⟩ = none := by decide +kernel
    rw [b.statementStart_eq ⟨3, 15⟩, hfirst, Option.map_some, b.statementStart_eq ⟨2, 7⟩, hsecond]
    rfl
  obtain ⟨l, hl, _⟩ := hasPoint_iff.mp hp
  have hpair : b.IsPartner ⟨1, 3⟩ ⟨3, 13⟩ :=
    (isPartner_iff (p := ⟨3, 13⟩) hl).mpr ⟨⟨')', by decide +kernel, .inl rfl⟩, by decide +kernel⟩
  refine ⟨hp, ⟨3, 13⟩, ⟨1, 3⟩, hpair, ?_⟩
  rw [hs]
  decide

end Buffer

end SourceEditor
