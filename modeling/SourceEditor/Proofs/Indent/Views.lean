/-
  SourceEditor/Proofs/Indent/Views.lean
  =====================================
  **What the indentation looks at.**  The indentation of a line is a function of the answers that
  the lines above it give to a few questions, and of fewer answers still that the line itself
  gives.  Lines below it have no say.  So two buffers whose lines above give the same answers give
  a line the same indentation; what makes lines give the same answers is for other modules to say.
-/
import SourceEditor.Indent.Basic

namespace SourceEditor

/-! ### Lines that look alike -/

/-- Whether two lines give the same answers to what the indentation of the lines below asks. -/
structure Line.Alike (l l' : Line) : Prop where
  length : l.length = l'.length
  indent : l.indent = l'.indent
  isBlank : l.isBlank = l'.isBlank
  isCommentOnly : l.isCommentOnly = l'.isCommentOnly
  startsQuoted : l.startsQuoted = l'.startsQuoted
  isDirective : l.isDirective = l'.isDirective
  isContinued : l.isContinued = l'.isContinued
  codeChars : l.codeChars = l'.codeChars
  codeText : l.codeText = l'.codeText
  tokenAfter : l.tokenAfter = l'.tokenAfter
  displayColumn : l.displayColumn = l'.displayColumn

/-- Whether two lines give the same answers to what their own indentation asks. -/
structure Line.AlikeInside (l l' : Line) : Prop where
  startsQuoted : l.startsQuoted = l'.startsQuoted
  isDirective : l.isDirective = l'.isDirective
  firstChar : l.firstCodeChar.map Prod.snd = l'.firstCodeChar.map Prod.snd
  codeText : l.codeText = l'.codeText

namespace Line.Alike

variable {l l' : Line}

theorem refl (l : Line) : l.Alike l := by
  constructor <;> rfl

theorem lastCodeChar (h : l.Alike l') : l.lastCodeChar = l'.lastCodeChar := by
  rw [Line.lastCodeChar, Line.lastCodeChar, h.codeChars]

theorem isCaseLabel (h : l.Alike l') : l.isCaseLabel = l'.isCaseLabel := by
  rw [Line.isCaseLabel, Line.isCaseLabel, h.codeText]

theorem isAccessSpecifier (h : l.Alike l') : l.isAccessSpecifier = l'.isAccessSpecifier := by
  rw [Line.isAccessSpecifier, Line.isAccessSpecifier, h.codeText]

theorem indentWidth (h : l.Alike l') (o : Options) : l.indentWidth o = l'.indentWidth o := by
  rw [Line.indentWidth, Line.indentWidth, h.indent]

theorem inside (h : l.Alike l') : l.AlikeInside l' where
  startsQuoted := h.startsQuoted
  isDirective := h.isDirective
  firstChar := by rw [firstCodeChar, firstCodeChar, h.codeChars]
  codeText := h.codeText

end Line.Alike

namespace Line.AlikeInside

variable {l l' : Line}

theorem symm (h : l.AlikeInside l') : l'.AlikeInside l :=
  ⟨h.startsQuoted.symm, h.isDirective.symm, h.firstChar.symm, h.codeText.symm⟩

theorem trans {l'' : Line} (h : l.AlikeInside l') (h' : l'.AlikeInside l'') : l.AlikeInside l'' :=
  ⟨h.startsQuoted.trans h'.startsQuoted, h.isDirective.trans h'.isDirective,
    h.firstChar.trans h'.firstChar, h.codeText.trans h'.codeText⟩

theorem isCaseLabel (h : l.AlikeInside l') : l.isCaseLabel = l'.isCaseLabel := by
  rw [Line.isCaseLabel, Line.isCaseLabel, h.codeText]

theorem isAccessSpecifier (h : l.AlikeInside l') :
    l.isAccessSpecifier = l'.isAccessSpecifier := by
  rw [Line.isAccessSpecifier, Line.isAccessSpecifier, h.codeText]

end Line.AlikeInside

/-! ### Characters and their columns -/

namespace Line

variable {l : Line} {col : Nat} {c : Char}

theorem getElem?_columns (l : Line) (col : Nat) :
    l.columns[col]? = l.text[col]?.map fun c => (col, c) := by
  simp only [columns, List.getElem?_map, List.getElem?_zipIdx, Option.map_map, Nat.zero_add]
  rfl

theorem map_snd_columns (l : Line) : l.columns.map Prod.snd = l.text := by
  rw [columns, List.map_map]
  exact List.zipIdx_map_fst 0 l.text

theorem mem_columns : (col, c) ∈ l.columns ↔ l.text[col]? = some c := by
  rw [List.mem_iff_getElem?]
  simp only [getElem?_columns, Option.map_eq_some_iff, Prod.mk.injEq]
  constructor
  · rintro ⟨i, d, hd, rfl, rfl⟩
    exact hd
  · intro h
    exact ⟨col, c, h, rfl, rfl⟩

theorem isBlank_of_mem_columns (h : (col, c) ∈ l.columns)
    (hc : SourceEditor.isBlank c = false) : l.isBlank = false := by
  rw [isBlank, List.all_eq_false]
  exact ⟨c, List.mem_of_getElem? (mem_columns.mp h), by simp [hc]⟩

theorem isCommentOnly_of_mem_columns (h : (col, c) ∈ l.columns)
    (hc : SourceEditor.isBlank c = false) (hcomment : l.isComment col = false) :
    l.isCommentOnly = false := by
  rw [isCommentOnly, Bool.and_eq_false_iff, List.all_eq_false]
  exact .inr ⟨(col, c), h, by simp [hc, hcomment]⟩

end Line

/-! ### Searches from the line itself -/

theorem Brackets.search_of_ignored {br : Brackets} (hstops : br.stops = []) {cs : List (Nat × Char)}
    (h : ∀ c ∈ cs, c.2 ∉ br.opens ∧ c.2 ∉ br.closes) (depth : Nat) :
    br.search depth cs = .waiting depth := by
  induction cs with
  | nil => rfl
  | cons c cs ih =>
    obtain ⟨hopens, hcloses⟩ := h c List.mem_cons_self
    have hrest := ih fun c' hc' => h c' (List.mem_cons_of_mem c hc')
    simp [search, hopens, hcloses, hstops, hrest]

theorem Line.pairwise_codeChars (l : Line) : l.codeChars.Pairwise fun x y => x.1 < y.1 := by
  have hcolumns : l.columns.map Prod.fst = List.range' 0 l.length := by
    rw [columns, List.map_map]
    exact List.zipIdx_map_snd 0 l.text
  have hpairwise : l.columns.Pairwise fun x y => x.1 < y.1 := by
    rw [← List.pairwise_map (f := Prod.fst) (R := (· < ·)), hcolumns]
    exact List.pairwise_lt_range'
  exact hpairwise.filter _

/-- Before the first character of code there is white space only. -/
theorem Line.isWhitespace_of_lt_firstCodeChar {l : Line} {x : Nat × Char}
    (h : l.firstCodeChar = some x) :
    ∀ c ∈ l.codeChars.filter fun c => c.1 < x.1, SourceEditor.isWhitespace c.2 = true := by
  obtain ⟨_, front, rest, hsplit, hfront⟩ := List.find?_eq_some_iff_append.mp h
  intro c hc
  obtain ⟨hmem, hlt⟩ := List.mem_filter.mp hc
  have hpairwise := l.pairwise_codeChars
  rw [hsplit] at hmem hpairwise
  rcases List.mem_append.mp hmem with hmem | hmem
  · simpa using hfront c hmem
  · rcases List.mem_cons.mp hmem with rfl | hmem
    · simp at hlt
    · have hrest := (List.pairwise_cons.mp (List.pairwise_append.mp hpairwise).2.1).1 c hmem
      simp only [decide_eq_true_eq] at hlt
      omega

namespace Buffer

/-- In front of the whole line there is nothing on it, so a search goes on above. -/
theorem unmatchedOpen_lineStart {b : Buffer} {n : Nat} {l : Line} (hl : b.line? n = some l)
    (br : Brackets) : b.unmatchedOpen br ⟨n, 0⟩ = b.openAbove br 0 (n - 1) := by
  have hnone : (l.codeChars.filter fun c => c.1 < 0) = [] := by simp
  simp only [unmatchedOpen, hl, hnone]
  rfl

theorem unmatchedOpen_firstCodeChar {b : Buffer} {n : Nat} {l : Line} (hl : b.line? n = some l)
    {x : Nat × Char} (hx : l.firstCodeChar = some x) :
    b.unmatchedOpen .braces ⟨n, x.1⟩ = b.openAbove .braces 0 (n - 1) := by
  have hsearch : Brackets.braces.search 0 (l.codeChars.filter fun c => c.1 < x.1).reverse =
      .waiting 0 := by
    apply Brackets.search_of_ignored rfl
    intro c hc
    have hwhite := Line.isWhitespace_of_lt_firstCodeChar hx c (List.mem_reverse.mp hc)
    constructor <;>
    · intro hmem
      rw [List.mem_singleton.mp hmem] at hwhite
      revert hwhite
      decide
  simp [unmatchedOpen, hl, hsearch]

theorem openAbove_line_le {b : Buffer} {br : Brackets} {depth n : Nat} {p : Point}
    (h : b.openAbove br depth n = some p) : p.line ≤ n := by
  induction n generalizing depth with
  | zero => cases h
  | succ n ih =>
    rw [openAbove] at h
    split at h
    · cases h
    · split at h
      · obtain rfl := Option.some.inj h
        exact Nat.le_refl _
      · cases h
      · exact Nat.le_succ_of_le (ih h)

theorem unmatchedOpen_line_le {b : Buffer} {br : Brackets} {p q : Point}
    (h : b.unmatchedOpen br p = some q) : q.line ≤ p.line := by
  rw [unmatchedOpen] at h
  split at h
  · cases h
  · split at h
    · obtain rfl := Option.some.inj h
      exact Nat.le_refl _
    · cases h
    · exact Nat.le_trans (openAbove_line_le h) (Nat.sub_le _ _)

/-- Of the line itself, its width below the lines above depends on the first character only. -/
theorem widthFromAbove_of_firstChar (b : Buffer) (o : Options) (n : Nat) {l l' : Line}
    (h : l.firstCodeChar.map Prod.snd = l'.firstCodeChar.map Prod.snd) :
    b.widthFromAbove o n l = b.widthFromAbove o n l' := by
  unfold widthFromAbove
  rcases hx : l.firstCodeChar with _ | ⟨_, c⟩ <;> rcases hx' : l'.firstCodeChar with _ | ⟨_, c'⟩
  · rfl
  · rw [hx, hx'] at h
    cases h
  · rw [hx, hx'] at h
    cases h
  · rw [hx, hx'] at h
    obtain rfl : c = c' := Option.some.inj h
    by_cases hc : c = '{'
    · subst hc
      rfl
    · simp [hc]

/-- The width of a line that stands in the block around it, by what it begins with. -/
theorem blockWidth_eq {b : Buffer} {n : Nat} {l : Line} (hl : b.line? n = some l) (o : Options) :
    b.blockWidth o n l =
      let around (extra : UInt64) : Option UInt64 :=
        (b.openAbove .braces 0 (n - 1)).map fun p => b.statementWidth o p + extra
      (if l.firstCodeChar.map Prod.snd = some '}' then around 0 else none) <|>
        (if l.isCaseLabel then around (if o.indentCase then o.shiftWidth else 0) else none) <|>
        (if l.isAccessSpecifier then around (if o.indentAccessSpecifier then o.shiftWidth else 0)
          else none) := by
  rw [blockWidth]
  dsimp only
  rw [unmatchedOpen_lineStart hl]
  rcases hfirst : l.firstCodeChar with _ | ⟨col, c⟩
  · simp
  · have hopen := unmatchedOpen_firstCodeChar hl hfirst
    by_cases hc : c = '}'
    · subst hc
      simp only [hopen, Option.map_some, if_true]
    · have hne : ¬some c = some '}' := fun h => hc (Option.some.inj h)
      simp only [Option.map_some, if_neg hne]
      congr 1
      split
      · rename_i heq
        exact absurd (congrArg Prod.snd (Option.some.inj heq)) hc
      · rfl

/-- The width that a line gets in a language with braces, if it is indented anew. -/
def braceWidth (b : Buffer) (o : Options) (n : Nat) (l : Line) : UInt64 :=
  (b.blockWidth o n l).getD (b.widthFromAbove o n l)

theorem braceIndent_eq {b : Buffer} {n : Nat} {l : Line} (hl : b.line? n = some l) (o : Options) :
    b.braceIndent o n =
      if b.isMacroLine n || l.startsQuoted then l.indent else o.makeIndent (b.braceWidth o n l) := by
  simp only [braceIndent, hl, braceWidth]

/-- Where braces decide, a line outside quotes and macros gets the width that follows from the lines
above. -/
theorem computeIndent_of_braces {b : Buffer} {n : Nat} {l : Line}
    (style : b.profile.indent = .braces) (hl : b.line? n = some l) (hfree : b.isMacroLine n = false)
    (hquoted : l.startsQuoted = false) (o : Options) :
    b.computeIndent o n = .ok (o.makeIndent (b.braceWidth o n l)) := by
  rw [computeIndent, hl]
  dsimp only
  rw [style, indentBy, braceIndent_eq hl, hfree, hquoted, Bool.or_false, if_neg Bool.false_ne_true]

/-- The indentation that follows from the line above that counts, where colons open blocks. -/
def colonIndentBelow (b : Buffer) (o : Options) (n : Nat) : Text :=
  match (b.significantAbove n).bind b.line? with
  | none => []
  | some above =>
    let opens := above.lastCodeChar.any fun c => c.2 == ':'
    o.makeIndent (above.indentWidth o + if opens then o.shiftWidth else 0)

theorem colonIndent_eq {b : Buffer} {n : Nat} {l : Line} (hl : b.line? n = some l) (o : Options) :
    b.colonIndent o n = if l.startsQuoted then l.indent else b.colonIndentBelow o n := by
  cases hquoted : l.startsQuoted with
  | false =>
    simp only [colonIndent, hl, Option.filter, hquoted, Bool.false_eq_true, if_false]
    rfl
  | true => simp [colonIndent, hl, Option.filter, hquoted]

/-! ### Lines above that look alike -/

theorem nearestBelow_congr {p q : Nat → Bool} {n : Nat} (h : ∀ i < n, p i = q i) :
    nearestBelow p n = nearestBelow q n := by
  induction n with
  | zero => rfl
  | succ n ih =>
    rw [nearestBelow, nearestBelow, h n (Nat.lt_succ_self n),
      ih fun i hi => h i (Nat.lt_succ_of_lt hi)]

/-- Whether the lines above a line look alike in two buffers. -/
def AlikeAbove (b b' : Buffer) (n : Nat) : Prop :=
  ∀ i < n, (b.line? i = none ∧ b'.line? i = none) ∨
    ∃ l l', b.line? i = some l ∧ b'.line? i = some l' ∧ l.Alike l'

section AlikeAbove

variable {b b' : Buffer} {n : Nat} (h : b.AlikeAbove b' n)

include h

theorem isMacroLine_congr {i : Nat} (hi : i < n) : b.isMacroLine i = b'.isMacroLine i := by
  induction i with
  | zero => rfl
  | succ i ih =>
    have habove := ih (Nat.lt_of_succ_lt hi)
    have hcontinued : (b.line? i).any Line.isContinued = (b'.line? i).any Line.isContinued := by
      rcases h i (Nat.lt_of_succ_lt hi) with ⟨hl, hl'⟩ | ⟨l, l', hl, hl', halike⟩
      · rw [hl, hl']
      · simp [hl, hl', halike.isContinued]
    rcases h (i + 1) hi with ⟨hl, hl'⟩ | ⟨l, l', hl, hl', halike⟩
    · simp [isMacroLine, hl, hl']
    · simp [isMacroLine, hl, hl', halike.isDirective, hcontinued, habove]

/-- Whether a line is part of a macro is asked of the line itself as well. -/
theorem isMacroLine_congr_inside {l l' : Line} (hl : b.line? n = some l) (hl' : b'.line? n = some l')
    (halike : l.AlikeInside l') : b.isMacroLine n = b'.isMacroLine n := by
  cases n with
  | zero => rfl
  | succ i =>
    have habove := isMacroLine_congr h (Nat.lt_succ_self i)
    have hcontinued : (b.line? i).any Line.isContinued = (b'.line? i).any Line.isContinued := by
      rcases h i (Nat.lt_succ_self i) with ⟨hm, hm'⟩ | ⟨m, m', hm, hm', hmalike⟩
      · rw [hm, hm']
      · simp [hm, hm', hmalike.isContinued]
    simp [isMacroLine, hl, hl', halike.isDirective, hcontinued, habove]

theorem isSignificant_congr {i : Nat} (hi : i < n) : b.isSignificant i = b'.isSignificant i := by
  rw [isSignificant, isSignificant, isMacroLine_congr h hi]
  rcases h i hi with ⟨hl, hl'⟩ | ⟨l, l', hl, hl', halike⟩
  · rw [hl, hl']
  · simp [hl, hl', halike.isBlank, halike.isCommentOnly, halike.startsQuoted]

theorem significantAbove_congr {i : Nat} (hi : i ≤ n) :
    b.significantAbove i = b'.significantAbove i :=
  nearestBelow_congr fun _ hj => isSignificant_congr h (Nat.lt_of_lt_of_le hj hi)

theorem openAbove_congr (br : Brackets) (depth : Nat) {i : Nat} (hi : i < n) :
    b.openAbove br depth i = b'.openAbove br depth i := by
  induction i generalizing depth with
  | zero => rfl
  | succ i ih =>
    rcases h (i + 1) hi with ⟨hl, hl'⟩ | ⟨l, l', hl, hl', halike⟩
    · simp [openAbove, hl, hl']
    · have habove := fun depth => ih depth (Nat.lt_of_succ_lt hi)
      simp [openAbove, hl, hl', halike.codeChars, habove]

theorem unmatchedOpen_congr (br : Brackets) {p : Point} (hp : p.line < n) :
    b.unmatchedOpen br p = b'.unmatchedOpen br p := by
  rcases h p.line hp with ⟨hl, hl'⟩ | ⟨l, l', hl, hl', halike⟩
  · simp [unmatchedOpen, hl, hl']
  · have habove := fun depth =>
      openAbove_congr h br depth (Nat.lt_of_le_of_lt (Nat.sub_le p.line 1) hp)
    simp [unmatchedOpen, hl, hl', halike.codeChars, habove]

theorem statementStart_congr {i : Nat} (col : Nat) (hi : i < n) :
    b.statementStart i col = b'.statementStart i col := by
  induction i using Nat.strongRecOn generalizing col with
  | ind i ih =>
    rw [statementStart, statementStart]
    rcases h i hi with ⟨hl, hl'⟩ | ⟨l, l', hl, hl', halike⟩
    · simp only [hl, hl']
    · simp only [hl, hl', halike.codeChars]
      split
      · rfl
      · rename_i closer _
        rw [unmatchedOpen_congr h .parens (p := ⟨i, closer⟩) hi]
        split
        · rfl
        · rename_i p _
          split
          · rename_i hp
            exact ih p.line hp p.col (Nat.lt_trans hp hi)
          · rfl

theorem widthAt_congr (o : Options) {i : Nat} (hi : i < n) : b.widthAt o i = b'.widthAt o i := by
  rcases h i hi with ⟨hl, hl'⟩ | ⟨l, l', hl, hl', halike⟩
  · simp [widthAt, hl, hl']
  · simp [widthAt, hl, hl', halike.indentWidth o]

theorem statementWidth_congr (o : Options) {p : Point} (hp : p.line < n) :
    b.statementWidth o p = b'.statementWidth o p := by
  rw [statementWidth, statementWidth, ← statementStart_congr h p.col hp]
  exact widthAt_congr h o (Nat.lt_of_le_of_lt (b.statementStart_le p.line p.col) hp)

theorem isOpenHeader_congr {i : Nat} (hi : i < n) : b.isOpenHeader i = b'.isOpenHeader i := by
  rw [isOpenHeader, isOpenHeader]
  rcases h i hi with ⟨hl, hl'⟩ | ⟨l, l', hl, hl', halike⟩
  · simp only [hl, hl']
  · have hstart := Nat.lt_of_le_of_lt (b.statementStart_le i l.length) hi
    simp only [hl, hl', halike.lastCodeChar, ← halike.length,
      ← statementStart_congr h l.length hi]
    rcases h _ hstart with ⟨hm, hm'⟩ | ⟨m, m', hm, hm', hmalike⟩
    · rw [hm, hm']
    · simp only [hm, hm', Option.any_some, hmalike.codeText]

theorem length_congr {i : Nat} (hi : i < n) :
    ((b.line? i).map Line.length).getD 0 = ((b'.line? i).map Line.length).getD 0 := by
  rcases h i hi with ⟨hl, hl'⟩ | ⟨l, l', hl, hl', halike⟩
  · rw [hl, hl']
  · simp [hl, hl', halike.length]

theorem closedWidth_congr (o : Options) {i : Nat} (hi : i < n) :
    b.closedWidth o i = b'.closedWidth o i := by
  induction i using Nat.strongRecOn with
  | ind i ih =>
    rw [closedWidth, closedWidth, ← significantAbove_congr h (Nat.le_of_lt hi),
      widthAt_congr h o hi]
    split
    · rfl
    · rename_i above habove
      have hlt := significantAbove_lt habove
      have hn := Nat.lt_trans hlt hi
      rw [isOpenHeader_congr h hn, ← length_congr h hn, ← statementStart_congr h _ hn]
      have hle := b.statementStart_le above (((b.line? above).map Line.length).getD 0)
      rw [ih _ (Nat.lt_of_le_of_lt hle hlt) (Nat.lt_of_le_of_lt hle hn)]

/-- The block around a line is opened above it. -/
theorem statementWidth_openAbove_congr (o : Options) (br : Brackets) :
    (b.openAbove br 0 (n - 1)).map (b.statementWidth o) =
      (b'.openAbove br 0 (n - 1)).map (b'.statementWidth o) := by
  cases n with
  | zero => rfl
  | succ n =>
    rw [Nat.add_sub_cancel, ← openAbove_congr h br 0 (Nat.lt_succ_self n)]
    rcases hopen : b.openAbove br 0 n with _ | p
    · rfl
    · have hp := Nat.lt_succ_of_le (openAbove_line_le hopen)
      rw [Option.map_some, Option.map_some, statementWidth_congr h o hp]

section Inside

variable {l l' : Line} (hl : b.line? n = some l) (hl' : b'.line? n = some l')

include hl hl'

theorem blockWidth_congr (o : Options) (halike : l.AlikeInside l') :
    b.blockWidth o n l = b'.blockWidth o n l' := by
  have haround : ∀ extra, (b.openAbove .braces 0 (n - 1)).map (b.statementWidth o · + extra) =
      (b'.openAbove .braces 0 (n - 1)).map (b'.statementWidth o · + extra) := by
    intro extra
    have hwidths := congrArg (Option.map (· + extra)) (statementWidth_openAbove_congr h o .braces)
    simpa [Function.comp_def] using hwidths
  rw [blockWidth_eq hl, blockWidth_eq hl', halike.firstChar, halike.isCaseLabel,
    halike.isAccessSpecifier]
  simp only [haround]

theorem continuationWidth_congr (o : Options) :
    b.continuationWidth o n = b'.continuationWidth o n := by
  rw [continuationWidth, continuationWidth, unmatchedOpen_lineStart hl,
    unmatchedOpen_lineStart hl']
  cases n with
  | zero => rfl
  | succ n =>
    rw [Nat.add_sub_cancel, ← openAbove_congr h _ 0 (Nat.lt_succ_self n)]
    rcases hopen : b.openAbove .parensInBlock 0 n with _ | p
    · rfl
    · have hp := Nat.lt_succ_of_le (openAbove_line_le hopen)
      rw [Option.bind_some, Option.bind_some]
      rcases h p.line hp with ⟨hm, hm'⟩ | ⟨m, m', hm, hm', hmalike⟩
      · rw [hm, hm']
        rfl
      · simp only [hm, hm', Option.map_some, hmalike.tokenAfter, hmalike.displayColumn,
          statementWidth_congr h o hp]

omit hl hl' in
theorem widthAfter_congr (o : Options) {above : Nat} (habove : above < n) {m m' : Line}
    (halike : m.Alike m') : b.widthAfter o above m = b'.widthAfter o above m' := by
  have hstatement : b.closedWidth o (b.statementStart above m.length) =
      b'.closedWidth o (b'.statementStart above m'.length) := by
    have hle := b.statementStart_le above m.length
    rw [← halike.length, ← statementStart_congr h _ habove]
    exact closedWidth_congr h o (Nat.lt_of_le_of_lt hle habove)
  rw [widthAfter, widthAfter, halike.lastCodeChar, halike.isAccessSpecifier, halike.isCaseLabel,
    halike.indentWidth o, hstatement]
  split
  · rename_i col _
    rw [← unmatchedOpen_congr h .braces (p := ⟨above, col⟩) habove]
    rcases hopen : b.unmatchedOpen .braces ⟨above, col⟩ with _ | p
    · rfl
    · have hp := Nat.lt_of_le_of_lt (unmatchedOpen_line_le hopen) habove
      have hle := b.statementStart_le p.line p.col
      dsimp only
      rw [← statementStart_congr h _ hp]
      exact closedWidth_congr h o (Nat.lt_of_le_of_lt hle hp)
  · rfl
  · rfl

theorem widthFromAbove_congr (o : Options)
    (hfirst : l.firstCodeChar.map Prod.snd = l'.firstCodeChar.map Prod.snd) :
    b.widthFromAbove o n l = b'.widthFromAbove o n l' := by
  rw [← widthFromAbove_of_firstChar b' o n hfirst]
  rw [widthFromAbove, widthFromAbove, ← significantAbove_congr h (Nat.le_refl n)]
  split
  · rfl
  · rename_i above hsignificant
    have habove := significantAbove_lt hsignificant
    rcases h above habove with ⟨hm, hm'⟩ | ⟨m, m', hm, hm', hmalike⟩
    · simp only [hm, hm']
    · simp only [hm, hm', hmalike.lastCodeChar]
      split
      · rename_i col _
        rw [statementWidth_congr h o (p := ⟨above, col⟩) habove]
      · rw [continuationWidth_congr h hl hl' o]
        split
        · rfl
        · rw [isOpenHeader_congr h habove, widthAfter_congr h o habove hmalike, hmalike.length,
            statementWidth_congr h o (p := ⟨above, m'.length⟩) habove]

/-- A line that is indented anew gets the same width in two buffers whose lines above look alike,
if it looks alike itself. -/
theorem braceWidth_congr (o : Options) (halike : l.AlikeInside l') :
    b.braceWidth o n l = b'.braceWidth o n l' := by
  rw [braceWidth, braceWidth, blockWidth_congr h hl hl' o halike,
    widthFromAbove_congr h hl hl' o halike.firstChar]

end Inside

theorem colonWidth_congr (o : Options) : b.colonIndentBelow o n = b'.colonIndentBelow o n := by
  rw [colonIndentBelow, colonIndentBelow, ← significantAbove_congr h (Nat.le_refl n)]
  rcases hsignificant : b.significantAbove n with _ | above
  · rfl
  · rcases h above (significantAbove_lt hsignificant) with ⟨hm, hm'⟩ | ⟨m, m', hm, hm', halike⟩
    · simp only [Option.bind_some, hm, hm']
    · simp only [Option.bind_some, hm, hm', halike.indentWidth o, halike.lastCodeChar]

theorem keptIndent_congr : b.keptIndent n = b'.keptIndent n := by
  have hnearest : nearestBelow (fun i => (b.line? i).any fun l => !l.isBlank) n =
      nearestBelow (fun i => (b'.line? i).any fun l => !l.isBlank) n := by
    apply nearestBelow_congr
    intro i hi
    rcases h i hi with ⟨hm, hm'⟩ | ⟨m, m', hm, hm', halike⟩
    · rw [hm, hm']
    · simp [hm, hm', halike.isBlank]
  rw [keptIndent, keptIndent, ← hnearest]
  split
  · rfl
  · rename_i above habove
    rcases h above (nearestBelow_lt habove) with ⟨hm, hm'⟩ | ⟨m, m', hm, hm', halike⟩
    · rw [hm, hm']
    · simp [hm, hm', halike.indent]

end AlikeAbove

/-! ### The line itself -/

/-- Whether a line keeps the indentation it has. -/
def keepsIndent (b : Buffer) (style : IndentStyle) (n : Nat) (l : Line) : Bool :=
  match style with
  | .braces => b.isMacroLine n || l.startsQuoted
  | .colons => l.startsQuoted
  | .keep => false

theorem indentBy_of_keepsIndent {b : Buffer} {style : IndentStyle} {n : Nat} {l : Line}
    (hl : b.line? n = some l) (hkeeps : b.keepsIndent style n l = true) (o : Options) :
    b.indentBy style o n = l.indent := by
  cases style with
  | braces => exact (braceIndent_eq hl o).trans (if_pos hkeeps)
  | colons => exact (colonIndent_eq hl o).trans (if_pos hkeeps)
  | keep => cases hkeeps

/-- Lines above that look alike leave it to the line itself whether it keeps its indentation. -/
theorem keepsIndent_congr {b b' : Buffer} {n : Nat} (h : b.AlikeAbove b' n) {l l' : Line}
    (hl : b.line? n = some l) (hl' : b'.line? n = some l') {style : IndentStyle}
    (halike : style ≠ .keep → l.AlikeInside l') :
    b.keepsIndent style n l = b'.keepsIndent style n l' := by
  cases style with
  | braces =>
    have hinside := halike (by decide)
    rw [keepsIndent, keepsIndent, isMacroLine_congr_inside h hl hl' hinside, hinside.startsQuoted]
  | colons => exact (halike (by decide)).startsQuoted
  | keep => rfl

/-- **The indentation of a line is a function of the lines above it** and, in a language with
braces, of how the line itself begins. -/
theorem indentBy_congr {b b' : Buffer} {n : Nat} (h : b.AlikeAbove b' n) {l l' : Line}
    (hl : b.line? n = some l) (hl' : b'.line? n = some l') {style : IndentStyle}
    (halike : style ≠ .keep → l.AlikeInside l') (hkeeps : b.keepsIndent style n l = false)
    (o : Options) : b.indentBy style o n = b'.indentBy style o n := by
  have hkeeps' := (keepsIndent_congr h hl hl' halike).symm.trans hkeeps
  cases style with
  | braces =>
    have hkeeps : (b.isMacroLine n || l.startsQuoted) = false := hkeeps
    have hkeeps' : (b'.isMacroLine n || l'.startsQuoted) = false := hkeeps'
    change b.braceIndent o n = b'.braceIndent o n
    rw [braceIndent_eq hl, braceIndent_eq hl', hkeeps, hkeeps',
      braceWidth_congr h hl hl' o (halike (by decide))]
    rfl
  | colons =>
    have hkeeps : l.startsQuoted = false := hkeeps
    have hkeeps' : l'.startsQuoted = false := hkeeps'
    change b.colonIndent o n = b'.colonIndent o n
    rw [colonIndent_eq hl, colonIndent_eq hl', hkeeps, hkeeps', colonWidth_congr h o]
    rfl
  | keep => exact keptIndent_congr h

end Buffer

end SourceEditor
