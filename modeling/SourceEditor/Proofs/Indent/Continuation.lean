/-
  SourceEditor/Proofs/Indent/Continuation.lean
  ============================================
  **Lines inside open parentheses.**  Read forward, the brackets of all three kinds make a stack of
  those that are open.  Where a parenthesis or a bracket is on its top, the line below is part of a
  list, and it stands under the first token of the list or one level in.  The search that finds the
  list goes backward and stops at braces: a brace that stands in the list itself, and not inside
  further parentheses of it, hides the list from the lines below.
-/
import Mathlib.Data.List.Induction
import SourceEditor.Proofs.Indent.Partners
import SourceEditor.Proofs.Indent.Quoted

namespace SourceEditor

/-! ### The brackets that are open -/

/-- The bracket that closes an opening one. -/
def closerOf? : Char → Option Char
  | '(' => some ')'
  | '[' => some ']'
  | '{' => some '}'
  | _ => none

section OpenBrackets

variable {α : Type} {cs inside part : List (α × Char)} {stack stack' : List (α × Char)}
  {x y : α × Char}

/-- Takes up a character behind which the brackets on a stack are open. -/
def openBracketsStep (stack : List (α × Char)) (x : α × Char) : Option (List (α × Char)) :=
  if (closerOf? x.2).isSome then some (x :: stack)
  else if x.2 = ')' ∨ x.2 = ']' ∨ x.2 = '}' then
    match stack with
    | y :: outer => if closerOf? y.2 = some x.2 then some outer else none
    | [] => none
  else some stack

/-- The brackets that are open behind some characters, the innermost first; `none` if the brackets
are not properly nested. -/
def openBrackets (cs : List (α × Char)) : Option (List (α × Char)) :=
  cs.foldlM openBracketsStep []

/-- Whether some characters open the brackets on a stack, and have closed all other parentheses and
brackets between any two of them. -/
inductive Leaves : List (α × Char) → List (α × Char) → Prop where
  | nil {cs : List (α × Char)} : Text.IsBalanced (cs.map Prod.snd) → Leaves cs []
  | cons {front inside outer : List (α × Char)} (x : α × Char) : Leaves front outer →
      Text.IsBalanced (inside.map Prod.snd) → Leaves (front ++ x :: inside) (x :: outer)

theorem Text.IsBalanced.append {s t : Text} (hs : s.IsBalanced) (ht : t.IsBalanced) :
    IsBalanced (s ++ t) := by
  unfold IsBalanced at hs ht ⊢
  rw [nesting_append, hs, Option.bind_some, ht]

/-- A pair of brackets around a balanced text is balanced. -/
theorem Text.IsBalanced.enclosed {t : Text} (ht : t.IsBalanced) {c d : Char}
    (h : closerOf? c = some d) : IsBalanced (c :: (t ++ [d])) := by
  have hbrace : ∀ depth, nesting depth t = some depth := by
    intro depth
    simpa using nesting_add ht depth
  unfold IsBalanced
  unfold closerOf? at h
  split at h
  all_goals cases h
  · rw [nesting_cons_opener (.inl rfl), nesting_append, hbrace]
    rfl
  · rw [nesting_cons_opener (.inr rfl), nesting_append, hbrace]
    rfl
  · change nesting 0 (t ++ ['}']) = some 0
    rw [nesting_append, hbrace]
    rfl

theorem Leaves.append (h : Leaves cs stack) (hpart : Text.IsBalanced (part.map Prod.snd)) :
    Leaves (cs ++ part) stack := by
  cases h with
  | nil hcs =>
    apply Leaves.nil
    rw [List.map_append]
    exact hcs.append hpart
  | cons x hfront hinside =>
    rw [List.append_assoc, List.cons_append]
    apply hfront.cons
    rw [List.map_append]
    exact hinside.append hpart

/-- One more character keeps what the stack says about the characters. -/
theorem Leaves.step (h : Leaves cs stack) (hstep : openBracketsStep stack x = some stack') :
    Leaves (cs ++ [x]) stack' := by
  unfold openBracketsStep at hstep
  split at hstep
  · obtain rfl := Option.some.inj hstep
    exact h.cons x rfl
  split at hstep
  · -- the closer makes a pair of the top of the stack
    cases h with
    | nil hcs => cases hstep
    | cons y hfront hinside =>
      dsimp only at hstep
      split at hstep
      · rename_i hpair
        obtain rfl := Option.some.inj hstep
        rw [List.append_assoc, List.cons_append]
        apply hfront.append
        rw [List.map_cons, List.map_append]
        exact hinside.enclosed hpair
      · cases hstep
  · rename_i hopens hcloses
    obtain rfl := Option.some.inj hstep
    apply h.append
    have hopener : ¬(x.2 = '(' ∨ x.2 = '[') := by
      rintro (hx | hx)
      all_goals
        rw [hx] at hopens
        exact hopens rfl
    have hcloser : ¬(x.2 = ')' ∨ x.2 = ']') := fun hx => hcloses (hx.imp_right .inl)
    simp [Text.IsBalanced, Text.nesting, hopener, hcloser]

theorem Leaves.exists_eq_append (h : Leaves cs (x :: stack)) :
    ∃ front inside, cs = front ++ x :: inside ∧ Text.IsBalanced (inside.map Prod.snd) := by
  cases h with
  | cons _ _ hinside => exact ⟨_, _, rfl, hinside⟩

theorem leaves_of_openBrackets (h : openBrackets cs = some stack) : Leaves cs stack := by
  induction cs using List.reverseRecOn generalizing stack with
  | nil =>
    obtain rfl := Option.some.inj h
    exact .nil rfl
  | append_singleton cs x ih =>
    unfold openBrackets at h ih
    rw [List.foldlM_append] at h
    obtain ⟨before, hbefore, hstep⟩ := Option.bind_eq_some_iff.mp h
    rw [List.foldlM_cons] at hstep
    obtain ⟨after, hafter, hnil⟩ := Option.bind_eq_some_iff.mp hstep
    obtain rfl := Option.some.inj hnil
    exact (ih hbefore).step hafter

end OpenBrackets

/-! ### Braces in a list -/

/-- Whether a text holds a brace outside its parentheses and brackets, `depth` of which are open in
front of it. -/
def Text.hasBareBrace (depth : Nat) : Text → Bool
  | [] => false
  | c :: rest =>
    if c = '(' ∨ c = '[' then hasBareBrace (depth + 1) rest
    else if c = ')' ∨ c = ']' then hasBareBrace (depth - 1) rest
    else (depth = 0 && (c = '{' || c = '}')) || hasBareBrace depth rest

theorem Text.hasBareBrace_append {depth d : Nat} {s : Text} (h : nesting depth s = some d)
    (t : Text) : hasBareBrace depth (s ++ t) = (hasBareBrace depth s || hasBareBrace d t) := by
  fun_induction nesting depth s with
  | case1 =>
    obtain rfl := Option.some.inj h
    rfl
  | case2 depth c rest hopens ih => simpa [hasBareBrace, hopens] using ih h
  | case3 c rest hopens hcloses => cases h
  | case4 c rest hopens hcloses d' ih => simpa [hasBareBrace, hopens, hcloses] using ih h
  | case5 depth c rest hopens hcloses ih =>
    simp [hasBareBrace, hopens, hcloses, ih h, Bool.or_assoc]

/-- The search goes backward through a text that closes only what it opens, unless a brace in it
stands outside parentheses. -/
theorem Brackets.find_parensInBlock {α : Type} {d : Nat} {cs : List (α × Char)}
    (h : Text.nesting 0 (cs.map Prod.snd) = some d) (rest : List (α × Char)) :
    parensInBlock.find d (cs.reverse ++ rest) =
      if Text.hasBareBrace 0 (cs.map Prod.snd) then none else parensInBlock.find 0 rest := by
  have hopeners : ∀ c, parensInBlock.opens.contains c = true ↔ IsOpener c := by
    simp [parensInBlock, IsOpener]
  have hclosers : ∀ c, parensInBlock.closes.contains c = true ↔ IsCloser c := by
    simp [parensInBlock, IsCloser]
  have hstops : ∀ c, parensInBlock.stops.contains c = (c = '{' || c = '}') := by
    simp [parensInBlock]
  induction cs using List.reverseRecOn generalizing d with
  | nil =>
    obtain rfl := Option.some.inj h
    rfl
  | append_singleton cs x ih =>
    obtain ⟨a, c⟩ := x
    rw [List.map_append, List.map_singleton] at h ⊢
    obtain ⟨e, he, _⟩ := Text.exists_nesting_of_append h
    rw [List.reverse_concat, List.cons_append, Text.hasBareBrace_append he]
    simp only [find, hopeners, hclosers, hstops]
    by_cases hcloses : IsCloser c
    · rw [Text.nesting_concat_closer hcloses] at h
      have hopens : ¬(c = '(' ∨ c = '[') := hcloses.not_isOpener
      have hbare : Text.hasBareBrace e [c] = false := by
        simp [Text.hasBareBrace, hopens, show c = ')' ∨ c = ']' from hcloses]
      rw [if_pos hcloses, ih h, hbare, Bool.or_false]
    by_cases hopens : IsOpener c
    · rw [Text.nesting_concat_opener hopens, Option.map_eq_some_iff] at h
      obtain ⟨m, hm, rfl⟩ := h
      have hbare : Text.hasBareBrace e [c] = false := by
        simp [Text.hasBareBrace, show c = '(' ∨ c = '[' from hopens]
      rw [if_neg hcloses, if_pos hopens, hbare, Bool.or_false]
      exact ih hm
    · rw [Text.nesting_concat_other hopens hcloses] at h
      obtain rfl : d = e := Option.some.inj (h.symm.trans he)
      have hbare : Text.hasBareBrace d [c] = (decide (d = 0) && (c = '{' || c = '}')) := by
        simp [Text.hasBareBrace, show ¬(c = '(' ∨ c = '[') from hopens,
          show ¬(c = ')' ∨ c = ']') from hcloses]
      rw [if_neg hcloses, if_neg hopens, ih h, hbare]
      by_cases hbrace : d = 0 && (c = '{' || c = '}')
      · simp [hbrace]
      · simp [hbrace]

namespace Buffer

variable {b : Buffer} {n : Nat} {l : Line} {p : Point} {c : Char}
  {outer : List (Point × Char)}

/-- The code behind a point on the lines above the one with a number. -/
def codeBetween (b : Buffer) (p : Point) (n : Nat) : List (Point × Char) :=
  (b.codeTo (n - 1)).filter fun x => p < x.1

/-- Where a parenthesis or a bracket is the innermost one that is open above a line, the search from
the line comes to it, unless a brace stands between the two in the list itself. -/
theorem unmatchedOpen_of_openBrackets (hl : b.line? n = some l)
    (hopen : openBrackets (b.codeTo (n - 1)) = some ((p, c) :: outer)) (hc : IsOpener c) :
    b.unmatchedOpen .parensInBlock ⟨n, 0⟩ =
      if Text.hasBareBrace 0 ((b.codeBetween p n).map Prod.snd) then none else some p := by
  have hle : n - 1 ≤ b.lineCount := (Nat.sub_le n 1).trans (le_lineCount_of_line? hl)
  have hcode := b.isAscending_codeTo (n - 1)
  rw [unmatchedOpen_lineStart hl, openAbove_eq_find hle, codeBetween]
  obtain ⟨front, inside, heq, hinside⟩ := (leaves_of_openBrackets hopen).exists_eq_append
  rw [heq] at hcode ⊢
  have hfound : Brackets.parensInBlock.find 0 ((p, c) :: front.reverse) = some p := by
    rcases hc with rfl | rfl <;> rfl
  rw [hcode.filter_behind_eq, List.reverse_append, List.reverse_cons, List.append_assoc,
    List.singleton_append, Brackets.find_parensInBlock hinside, hfound]

/-! ### The first token of a list -/

end Buffer

/-- Whether at a column of a line stands a character that is neither white space nor comment. -/
def Line.HasToken (l : Line) (col : Nat) : Prop :=
  ∃ c, l.text[col]? = some c ∧ isWhitespace c = false ∧ l.isComment col = false

/-- Whether a column is the first one behind `col` with such a character. -/
structure Line.IsTokenAfter (l : Line) (col first : Nat) : Prop where
  behind : col < first
  token : l.HasToken first
  first : ∀ i, col < i → i < first → ¬l.HasToken i

namespace Line

variable {l : Line} {col first : Nat}

theorem IsTokenAfter.tokenAfter (h : l.IsTokenAfter col first) :
    l.tokenAfter col = some first := by
  obtain ⟨c, hc, hwhite, hcomment⟩ := h.token
  unfold Line.tokenAfter
  rw [Option.map_eq_some_iff]
  refine ⟨(first, c), ?_, rfl⟩
  have hget : l.columns[first]? = some (first, c) := by rw [getElem?_columns, hc, Option.map_some]
  obtain ⟨hlt, hget⟩ := List.getElem?_eq_some_iff.mp hget
  rw [List.find?_eq_some_iff_getElem]
  refine ⟨by simp [h.behind, hwhite, hcomment], first, hlt, hget, ?_⟩
  intro i hi
  have hlti := Nat.lt_trans hi hlt
  obtain ⟨d, hd, heq⟩ := Option.map_eq_some_iff.mp
    ((l.getElem?_columns i).symm.trans (List.getElem?_eq_getElem hlti))
  rw [← heq, Bool.not_eq_true', Bool.eq_false_iff]
  intro htoken
  simp only [Bool.and_eq_true, decide_eq_true_eq, Bool.not_eq_true'] at htoken
  exact h.first i htoken.1.1 hi ⟨d, hd, htoken.1.2, htoken.2⟩

theorem tokenAfter_eq_none_iff :
    l.tokenAfter col = none ↔ ∀ i, col < i → ¬l.HasToken i := by
  unfold tokenAfter
  rw [Option.map_eq_none_iff, List.find?_eq_none]
  constructor
  · rintro h i hi ⟨c, hc, hwhite, hcomment⟩
    apply h (i, c) (mem_columns.mpr hc)
    simp [hi, hwhite, hcomment]
  · rintro h ⟨i, c⟩ hc htoken
    simp only [Bool.and_eq_true, decide_eq_true_eq, Bool.not_eq_true'] at htoken
    exact h i htoken.1.1 ⟨c, mem_columns.mp hc, htoken.1.2, htoken.2⟩

end Line

theorem exists_nearestBelow {p : Nat → Bool} {i n : Nat} (hp : p i = true) (hlt : i < n) :
    ∃ m, nearestBelow p n = some m := by
  induction n with
  | zero => exact absurd hlt (Nat.not_lt_zero i)
  | succ n ih =>
    unfold nearestBelow
    by_cases hn : p n = true
    · exact ⟨n, if_pos hn⟩
    · rw [if_neg hn]
      apply ih
      apply Nat.lt_of_le_of_ne (Nat.le_of_lt_succ hlt)
      rintro rfl
      exact hn hp

theorem eq_true_of_nearestBelow {p : Nat → Bool} {n m : Nat} (h : nearestBelow p n = some m) :
    p m = true := by
  induction n with
  | zero => cases h
  | succ n ih =>
    unfold nearestBelow at h
    split at h
    · rename_i hp
      obtain rfl := Option.some.inj h
      exact hp
    · exact ih h

namespace Buffer

variable {b : Buffer} {n : Nat} {l : Line} {p : Point} {c : Char}
  {outer : List (Point × Char)}

theorem exists_line?_of_significantAbove {i : Nat} (h : b.significantAbove n = some i) :
    ∃ k, b.line? i = some k := by
  have hsignificant := eq_true_of_nearestBelow h
  unfold isSignificant at hsignificant
  rcases hk : b.line? i with _ | k
  · simp [hk] at hsignificant
  · exact ⟨k, rfl⟩

/-- A line with a character of code that is no white space counts, if it is neither inside a quote
nor part of a macro. -/
theorem isSignificant_of_mem_codeOn {m : Line} (hm : b.line? n = some m)
    (hcode : (p, c) ∈ b.codeOn n) (hc : isWhitespace c = false)
    (hnormal : m.stateIn = .normal) (hfree : b.isMacroLine n = false) :
    b.isSignificant n = true := by
  rw [codeOn_eq hm] at hcode
  obtain ⟨⟨col, d⟩, hmem, heq⟩ := List.mem_map.mp hcode
  obtain ⟨-, rfl⟩ := Prod.mk.inj heq
  obtain ⟨hcolumn, hquoted⟩ := List.mem_filter.mp hmem
  have hblank := isBlank_of_isWhitespace_eq_false hc
  have hcomment : m.isComment col = false := Line.isComment_of_isQuoted (by simpa using hquoted)
  have hnotBlank := Line.isBlank_of_mem_columns hcolumn hblank
  have hnotComment := Line.isCommentOnly_of_mem_columns hcolumn hblank hcomment
  have hnotQuoted : m.startsQuoted = false := by
    rw [Line.startsQuoted, hnormal]
    rfl
  simp [isSignificant, hm, hnotBlank, hnotComment, hnotQuoted, hfree]

/-- The width of a line inside a list that its opener at `p` holds open: under the first token of
the list if one stands on the line of the opener, else one level in. -/
theorem continuationWidth_eq {m : Line} (hm : b.line? p.line = some m) (o : Options)
    (hopen : b.unmatchedOpen .parensInBlock ⟨n, 0⟩ = some p) :
    b.continuationWidth o n =
      some (((m.tokenAfter p.col).map (m.displayColumn o)).getD
        (b.statementWidth o p + o.shiftWidth)) := by
  rw [continuationWidth, hopen, Option.bind_some, hm, Option.map_some]
  rcases m.tokenAfter p.col with _ | col <;> rfl

theorem widthFromAbove_of_continuationWidth {i : Nat} {width : UInt64} {k : Line} {o : Options}
    (habove : b.significantAbove n = some i) (hk : b.line? i = some k)
    (hlast : k.lastCodeChar.map Prod.snd ≠ some '{')
    (hwidth : b.continuationWidth o n = some width) : b.widthFromAbove o n l = width := by
  unfold widthFromAbove
  simp only [habove, hk, hwidth]
  split
  · rename_i heq
    rw [heq] at hlast
    exact absurd rfl hlast
  · rfl

theorem blockWidth_eq_none (hl : b.line? n = some l)
    (closing : l.firstCodeChar.map Prod.snd ≠ some '}') (label : l.isCaseLabel = false)
    (specifier : l.isAccessSpecifier = false) (o : Options) : b.blockWidth o n l = none := by
  rw [blockWidth_eq hl]
  simp [closing, label, specifier]

/-- Whether the lines up to the one with a number begin outside quotes and belong to no macro. -/
def IsOutsideQuotes (b : Buffer) (n : Nat) : Prop :=
  ∀ i < n + 1, (b.line? i).all (fun k => k.stateIn = .normal) = true ∧ b.isMacroLine i = false

instance : Decidable (b.IsOutsideQuotes n) :=
  inferInstanceAs (Decidable (∀ i < n + 1,
    (b.line? i).all (fun k => k.stateIn = .normal) = true ∧ b.isMacroLine i = false))

theorem IsOutsideQuotes.of_line? (h : b.IsOutsideQuotes n) {i : Nat} {k : Line} (hi : i ≤ n)
    (hk : b.line? i = some k) : k.stateIn = .normal ∧ b.isMacroLine i = false := by
  obtain ⟨hstate, hfree⟩ := h i (Nat.lt_succ_of_le hi)
  rw [hk] at hstate
  exact ⟨by simpa using hstate, hfree⟩

theorem exists_significantAbove (houtside : b.IsOutsideQuotes n) (hmem : (p, c) ∈ b.codeTo (n - 1))
    (hc : isWhitespace c = false) :
    ∃ i k, b.significantAbove n = some i ∧ b.line? i = some k := by
  obtain ⟨hle, hcode⟩ := mem_codeTo.mp hmem
  have hle : p.line ≤ n - 1 := hle
  obtain ⟨m, hm⟩ := exists_line?_of_mem_codeOn hcode
  have hm : b.line? p.line = some m := hm
  obtain ⟨hne, _⟩ := line?_eq_some_iff.mp hm
  obtain ⟨hnormal, hfree⟩ := houtside.of_line? (i := p.line) (by omega) hm
  have hsignificant := isSignificant_of_mem_codeOn hm hcode hc hnormal hfree
  have hlt : p.line < n := by omega
  obtain ⟨i, hi⟩ : ∃ i, b.significantAbove n = some i := exists_nearestBelow hsignificant hlt
  obtain ⟨k, hk⟩ := exists_line?_of_significantAbove hi
  exact ⟨i, k, hi, hk⟩

/-- **Lines inside parentheses.**  Where no line is inside a quote or a macro, the brackets above a
line are properly nested and the innermost one that is open is a parenthesis or a bracket, with no
brace in its list outside further parentheses, the line goes under the first token of the list, or
one level in from the statement that holds the opener if nothing follows the opener on its line; the
line above may not end with an opening brace, and the line may not begin with a closing one or be a
label. -/
theorem computeIndent_eq_of_openBrackets (style : b.profile.indent = .braces)
    (line : b.line? n = some l)
    (outside : b.IsOutsideQuotes n)
    (nested : openBrackets (b.codeTo (n - 1)) = some ((p, c) :: outer)) (opener : IsOpener c)
    (list : Text.hasBareBrace 0 ((b.codeBetween p n).map Prod.snd) = false)
    (above : (((b.significantAbove n).bind b.line?).bind Line.lastCodeChar).map Prod.snd ≠ some '{')
    (closing : l.firstCodeChar.map Prod.snd ≠ some '}') (label : l.isCaseLabel = false)
    (specifier : l.isAccessSpecifier = false) (o : Options) :
    ∃ m t, b.line? p.line = some m ∧ b.computeIndent o n = .ok t ∧
      (∀ col, m.IsTokenAfter p.col col → o.indentWidth t = m.displayColumn o col) ∧
      ((∀ col, p.col < col → ¬m.HasToken col) →
        o.indentWidth t = b.statementWidth o p + o.shiftWidth) := by
  have hmem : (p, c) ∈ b.codeTo (n - 1) := by
    obtain ⟨front, inside, heq, _⟩ := (leaves_of_openBrackets nested).exists_eq_append
    rw [heq]
    exact List.mem_append_right _ List.mem_cons_self
  have hwhite : isWhitespace c = false := by
    rcases opener with rfl | rfl <;> decide
  obtain ⟨i, k, hi, hk⟩ := exists_significantAbove outside hmem hwhite
  obtain ⟨m, hm⟩ := exists_line?_of_mem_codeOn (mem_codeTo.mp hmem).2
  have hopen := unmatchedOpen_of_openBrackets line nested opener
  rw [list, if_neg Bool.false_ne_true] at hopen
  have hcontinuation := continuationWidth_eq hm o hopen
  rw [hi, Option.bind_some, hk, Option.bind_some] at above
  have hwidth := widthFromAbove_of_continuationWidth (l := l) hi hk above hcontinuation
  obtain ⟨hstate, hfree⟩ := outside.of_line? (Nat.le_refl n) line
  have hquoted : l.startsQuoted = false := by
    rw [Line.startsQuoted, hstate]
    rfl
  have hindent := computeIndent_of_braces style line hfree hquoted o
  rw [braceWidth, blockWidth_eq_none line closing label specifier o, Option.getD_none, hwidth]
    at hindent
  refine ⟨m, _, hm, hindent, ?_, ?_⟩
  · intro col hcol
    rw [Options.indentWidth_makeIndent, hcol.tokenAfter]
    rfl
  · intro hnone
    rw [Options.indentWidth_makeIndent, Line.tokenAfter_eq_none_iff.mpr hnone]
    rfl

/-- A call in a list whose braces stand in parentheses of their own. -/
theorem computeIndent_eq_of_openBrackets_of_call :
    let b := Buffer.ofText "0(1(\x7b2\x7d),\n3);".toList (.ofLanguage .cpp)
    b.IsOutsideQuotes 2 ∧ openBrackets (b.codeTo 1) = some [(⟨1, 1⟩, '(')] ∧
      Text.hasBareBrace 0 ((b.codeBetween ⟨1, 1⟩ 2).map Prod.snd) = false ∧
      ∃ t, b.computeIndent {} 2 = .ok t ∧ ({} : Options).indentWidth t = 2 := by
  intro b
  let l : Line := ⟨some 1, "3);".toList, [⟨0, 1, .number⟩], .normal, .normal⟩
  let m : Line := ⟨some 0, "0(1(\x7b2\x7d),".toList,
    [⟨0, 1, .number⟩, ⟨2, 1, .number⟩, ⟨5, 1, .number⟩], .normal, .normal⟩
  have hl : b.line? 2 = some l := by decide +kernel
  have hm : b.line? 1 = some m := by decide +kernel
  have houtside : b.IsOutsideQuotes 2 := by decide +kernel
  have hopen : openBrackets (b.codeTo (2 - 1)) = some [(⟨1, 1⟩, '(')] := by decide +kernel
  have hlist : Text.hasBareBrace 0 ((b.codeBetween ⟨1, 1⟩ 2).map Prod.snd) = false := by
    decide +kernel
  refine ⟨houtside, hopen, hlist, ?_⟩
  obtain ⟨k, t, hk, ht, htoken, -⟩ := computeIndent_eq_of_openBrackets rfl hl houtside hopen
    (.inl rfl) hlist (by decide +kernel) (by decide +kernel) (by decide +kernel)
    (by decide +kernel) {}
  obtain rfl := Option.some.inj (hm.symm.trans hk)
  refine ⟨t, ht, ?_⟩
  have hfirst : m.IsTokenAfter 1 2 := by
    refine ⟨by decide, ⟨'1', rfl, by decide, by decide +kernel⟩, ?_⟩
    intro i hi hlt
    omega
  exact (htoken 2 hfirst).trans (by decide)

/-- A brace that stands in the list itself ends the search for it, and the line goes to the left
edge instead of under the first token of the list. -/
theorem exists_list_not_continued :
    let b := Buffer.ofText "0(\x7b1\x7d,\n2);".toList (.ofLanguage .cpp)
    b.IsOutsideQuotes 2 ∧ openBrackets (b.codeTo 1) = some [(⟨1, 1⟩, '(')] ∧
      (((b.significantAbove 2).bind b.line?).bind Line.lastCodeChar).map Prod.snd ≠ some '{' ∧
      (∃ l, b.line? 2 = some l ∧ l.firstCodeChar.map Prod.snd ≠ some '}' ∧
        l.isCaseLabel = false ∧ l.isAccessSpecifier = false) ∧
      ∃ m, b.line? 1 = some m ∧ m.IsTokenAfter 1 2 ∧
        ∀ t, b.computeIndent {} 2 = .ok t →
          ({} : Options).indentWidth t ≠ m.displayColumn {} 2 := by
  intro b
  let l : Line := ⟨some 1, "2);".toList, [⟨0, 1, .number⟩], .normal, .normal⟩
  let m : Line := ⟨some 0, "0(\x7b1\x7d,".toList, [⟨0, 1, .number⟩, ⟨3, 1, .number⟩],
    .normal, .normal⟩
  have hl : b.line? 2 = some l := by decide +kernel
  have hm : b.line? 1 = some m := by decide +kernel
  have hclosing : l.firstCodeChar.map Prod.snd ≠ some '}' := by decide +kernel
  have hlabel : l.isCaseLabel = false := by decide +kernel
  have hspecifier : l.isAccessSpecifier = false := by decide +kernel
  have habove : b.significantAbove 2 = some 1 := by decide +kernel
  have htop : b.significantAbove 1 = none := by decide +kernel
  have hlast : m.lastCodeChar = some (5, ',') := by decide +kernel
  have hopen : b.unmatchedOpen .parensInBlock ⟨2, 0⟩ = none := by decide +kernel
  have hcontinuation : b.continuationWidth {} 2 = none := by
    rw [continuationWidth, hopen]
    rfl
  have hstart : b.statementStart 1 m.length = 1 := by
    have houtward : b.outward ⟨1, m.length⟩ = none := by decide +kernel
    rw [b.statementStart_eq ⟨1, m.length⟩, houtward]
    rfl
  have hheader : b.isOpenHeader 1 = false := by
    simp only [isOpenHeader, hm, hlast, hstart]
    decide +kernel
  have hclosed : b.closedWidth {} 1 = 0 := by
    rw [closedWidth]
    split
    · decide +kernel
    · rename_i heq
      rw [htop] at heq
      cases heq
  have hwidth : b.widthFromAbove {} 2 l = 0 := by
    simp only [widthFromAbove, habove, hm, hlast, hcontinuation, hheader, widthAfter, hstart,
      hclosed]
    rfl
  have hindent := computeIndent_of_braces rfl hl (by decide +kernel) (by decide +kernel) {}
  rw [braceWidth, blockWidth_eq_none hl hclosing hlabel hspecifier {}, Option.getD_none, hwidth]
    at hindent
  refine ⟨by decide +kernel, by decide +kernel, by decide +kernel,
    ⟨l, hl, hclosing, hlabel, hspecifier⟩, m, hm, ⟨by decide, ⟨'{', rfl, by decide, by decide⟩, ?_⟩,
    ?_⟩
  · intro i hi hlt
    omega
  · intro t ht
    obtain rfl := Except.ok.inj (hindent.symm.trans ht)
    decide

end Buffer

end SourceEditor
