/-
  SourceEditor/Proofs/Indent/Expected.lean
  ========================================
  **The indentation of a row follows from the rows above it.**  On the forms of line of a program
  the rules of the indentation are few: which block is open, which headers have ended, and what the
  line above leaves.  They are stated here over the list of the rows above, the nearest first, and
  proved to be what the buffer computes from its lines.
-/
import SourceEditor.Proofs.Indent.Rows

namespace SourceEditor

/-! ### Rules over rows -/

namespace Row

/-- The rows from the head of the innermost open block on, the nearest first; `depth` blocks closed
further down are passed over. -/
def enclosing : Nat → List Row → List Row
  | _, [] => []
  | depth, r :: above =>
    match r.content with
    | .opening _ =>
      match depth with
      | 0 => r :: above
      | d + 1 => enclosing d above
    | .closing _ => enclosing (depth + 1) above
    | _ => enclosing depth above

/-- The width at which a statement leaves the next line that ends on a row of the given width: that
of the outermost of the headers that end with it. -/
def outermost (width : UInt64) : List Row → UInt64
  | [] => width
  | r :: above => if r.content.isHeader then outermost r.width above else width

/-- The width of a statement below some rows. -/
def below (o : Options) : List Row → UInt64
  | [] => 0
  | r :: above =>
    match r.content with
    | .simple _ | .closing true => outermost r.width above
    | .opening _ | .header _ _ | .label _ => r.width + o.shiftWidth
    | .closing false =>
      match enclosing 0 above with
      | [] => outermost r.width above
      | head :: rest => outermost head.width rest

/-- The width that the head of the innermost open block gives a line: a closing brace stands below
it, and a label as deep as the options want it. -/
def around (o : Options) (above : List Row) : Content → Option UInt64
  | .closing _ => (enclosing 0 above).head?.map Row.width
  | .label l => (enclosing 0 above).head?.map fun head => head.width + l.depth o
  | _ => none

/-- The width of a line below some rows. -/
def expected (o : Options) (above : List Row) (c : Content) : UInt64 :=
  (around o above c).getD (below o above)

theorem enclosing_cons_inner {r : Row} (h : r.content.isInner = true) (depth : Nat)
    (above : List Row) : enclosing depth (r :: above) = enclosing depth above := by
  obtain ⟨width, c⟩ := r
  cases c with
  | opening head => cases h
  | closing semicolon => cases h
  | _ => cases depth <;> rfl

theorem enclosing_suffix (depth : Nat) (above : List Row) : enclosing depth above <:+ above := by
  induction above generalizing depth with
  | nil => exact List.suffix_rfl
  | cons r above ih =>
    rw [enclosing.eq_def]
    dsimp only
    split
    · split
      · exact List.suffix_rfl
      · exact (ih _).trans (List.suffix_cons r above)
    · exact (ih _).trans (List.suffix_cons r above)
    · exact (ih _).trans (List.suffix_cons r above)

end Row

open Row (enclosing outermost below around expected)

/-! ### Lines that show rows -/

/-- Whether a line shows a row: it has the content of the row, and is indented as wide. -/
structure Line.Shows (o : Options) (l : Line) (r : Row) : Prop where
  code : l.IsCode r.content.text
  shape : r.content.IsShaped
  width : l.indentWidth o = r.width

theorem Line.Shows.exists_lastCodeChar {o : Options} {l : Line} {r : Row} (h : l.Shows o r) :
    ∃ col, l.lastCodeChar = some (col, r.content.last) := by
  have hlast := h.code.map_snd_lastCodeChar
  rw [r.content.getLast?_text, Option.map_eq_some_iff] at hlast
  obtain ⟨⟨col, c⟩, hlast, rfl⟩ := hlast
  exact ⟨col, hlast⟩

namespace Buffer

/-- Whether the first lines of a buffer show some rows, the last of them the first row. -/
def ShowsAbove (b : Buffer) (o : Options) : List Row → Prop
  | [] => True
  | r :: above =>
    (∃ l, b.line? (above.length + 1) = some l ∧ l.Shows o r) ∧ b.ShowsAbove o above

variable {b : Buffer} {o : Options}

/-- Below a line that opens no block, and outside parentheses left open, a line that does not begin
with a brace is the body of a header or stands where a statement that has ended leaves it. -/
theorem widthFromAbove_of_ne_brace {n above col : Nat} {l m : Line} {c : Char}
    (habove : b.significantAbove n = some above) (hm : b.line? above = some m)
    (hlast : m.lastCodeChar = some (col, c)) (hc : c ≠ '{') (hopen : b.continuationWidth o n = none)
    (hfirst : l.firstCodeChar.map Prod.snd ≠ some '{') :
    b.widthFromAbove o n l =
      if b.isOpenHeader above then b.statementWidth o ⟨above, m.length⟩ + o.shiftWidth
      else b.widthAfter o above m := by
  rw [widthFromAbove]
  simp only [habove, hm, hlast, hopen]
  split
  · rename_i heq
    exact absurd (congrArg Prod.snd (Option.some.inj heq)) hc
  · split
    · split
      · rename_i heq
        exact absurd (congrArg (Option.map Prod.snd) heq) hfirst
      · rfl
    · rfl

namespace ShowsAbove

theorem suffix {above rows : List Row} (h : b.ShowsAbove o above) (hs : rows <:+ above) :
    b.ShowsAbove o rows := by
  induction above with
  | nil =>
    obtain rfl := List.suffix_nil.mp hs
    exact h
  | cons r above ih =>
    rcases List.suffix_cons_iff.mp hs with rfl | hs
    · exact h
    · exact ih h.2 hs

theorem isCodeTo {above : List Row} (h : b.ShowsAbove o above) : b.IsCodeTo above.length := by
  induction above with
  | nil =>
    intro m hm hle
    exact absurd hm (by simpa using hle)
  | cons r above ih =>
    obtain ⟨⟨l, hl, hshows⟩, habove⟩ := h
    intro m hm hle
    rcases Nat.eq_or_lt_of_le hle with rfl | hlt
    · exact ⟨l, _, hl, hshows.code⟩
    · exact ih habove m hm (Nat.le_of_lt_succ hlt)

theorem widthAt {r : Row} {above : List Row} (h : b.ShowsAbove o (r :: above)) :
    b.widthAt o (above.length + 1) = r.width := by
  obtain ⟨⟨l, hl, hshows⟩, _⟩ := h
  simp [Buffer.widthAt, hl, hshows.width]

theorem statementWidth {r : Row} {above : List Row} (h : b.ShowsAbove o (r :: above)) (col : Nat) :
    b.statementWidth o ⟨above.length + 1, col⟩ = r.width :=
  (h.isCodeTo.statementWidth (Nat.le_add_left 1 _) o col).trans h.widthAt

/-! ### Looking for brackets -/

/-- No row is inside parentheses left open above. -/
theorem openAbove_parens {above : List Row} (h : b.ShowsAbove o above) :
    b.openAbove .parensInBlock 0 above.length = none := by
  induction above with
  | nil => rfl
  | cons r above ih =>
    obtain ⟨width, c⟩ := r
    obtain ⟨⟨l, hl, hshows⟩, habove⟩ := h
    obtain ⟨hcode, hshape, _⟩ := hshows
    rw [List.length_cons, openAbove]
    -- a brace of either kind ends the search, since parentheses are balanced inside a statement
    rcases c.opening_or_closing_or_inner with ⟨head, rfl⟩ | ⟨semicolon, rfl⟩ | hinner
    · obtain ⟨col, _, _, hsearch⟩ := hcode.exists_search_of_opening hshape.2
      simp only [hl, hsearch]
    · simp only [hl, (hcode.search_of_closing 0).2]
    · simp only [hl, hcode.searchParens_of_braceless (Content.isBraceless_text hshape hinner),
        ih habove]

/-- The block that is open around a line is that of the rows above. -/
theorem openAbove_braces {above : List Row} (h : b.ShowsAbove o above) (depth : Nat) :
    (b.openAbove .braces depth above.length).map Point.line =
      match enclosing depth above with
      | [] => none
      | _ :: rest => some (rest.length + 1) := by
  induction above generalizing depth with
  | nil => rfl
  | cons r above ih =>
    obtain ⟨width, c⟩ := r
    obtain ⟨⟨l, hl, hshows⟩, habove⟩ := h
    obtain ⟨hcode, hshape, _⟩ := hshows
    rw [List.length_cons, openAbove]
    rcases c.opening_or_closing_or_inner with ⟨head, rfl⟩ | ⟨semicolon, rfl⟩ | hinner
    · obtain ⟨col, hfound, hpassed, _⟩ := hcode.exists_search_of_opening hshape.2
      cases depth with
      | zero =>
        simp only [hl, hfound]
        rfl
      | succ depth =>
        simp only [hl, hpassed, ih habove]
        rfl
    · simp only [hl, (hcode.search_of_closing depth).1, ih habove]
      rfl
    · have henclosing : enclosing depth (⟨width, c⟩ :: above) = enclosing depth above :=
        Row.enclosing_cons_inner hinner depth above
      simp only [hl, hcode.search_of_braceless (Content.isBraceless_text hshape hinner),
        ih habove, henclosing]

/-! ### Headers -/

theorem isOpenHeader {r : Row} {above : List Row} (h : b.ShowsAbove o (r :: above)) :
    b.isOpenHeader (above.length + 1) = r.content.isHeader := by
  have hcodes := h.isCodeTo
  obtain ⟨⟨l, hl, hshows⟩, _⟩ := h
  obtain ⟨col, hlast⟩ := hshows.exists_lastCodeChar
  have hstart : b.statementStart (above.length + 1) l.length = above.length + 1 :=
    hcodes.statementStart (Nat.le_add_left 1 _) l.length
  have htext := hshows.code.codeText
  have hshape := hshows.shape
  obtain ⟨width, c⟩ := r
  rw [Buffer.isOpenHeader]
  simp only [hl, hlast, hstart, Option.any_some, htext]
  cases c with
  | simple code => rfl
  | opening head => rfl
  | closing semicolon => cases semicolon <;> rfl
  | header word condition => exact Content.contains_headerWords hshape (.inl rfl)
  | label lab => exact Content.contains_headerWords hshape (.inr ⟨lab, rfl⟩)

/-- The width of a line below a statement is that of the outermost header ending with it. -/
theorem closedWidth {r : Row} {above : List Row} (h : b.ShowsAbove o (r :: above)) :
    b.closedWidth o (above.length + 1) = outermost r.width above := by
  -- both go up from row to row as long as there is a header, and stop at the same one
  induction above generalizing r with
  | nil =>
    rw [Buffer.closedWidth]
    split
    · exact h.widthAt
    · rename_i i hi
      have hnone : b.significantAbove 1 = some i := hi
      rw [b.significantAbove_one] at hnone
      cases hnone
  | cons r' above ih =>
    have habove := h.2
    have hsignificant := habove.isCodeTo.significantAbove (Nat.le_add_left 1 above.length)
    rw [Buffer.closedWidth]
    split
    · rename_i hi
      cases hsignificant.symm.trans hi
    · rename_i i hi
      obtain rfl := Option.some.inj (hsignificant.symm.trans hi)
      have hheader := habove.isOpenHeader
      have hstart : ∀ col, b.statementStart (above.length + 1) col = above.length + 1 :=
        habove.isCodeTo.statementStart (Nat.le_add_left 1 above.length)
      rw [List.length_cons, hheader, hstart, outermost]
      split
      · exact ih habove
      · exact h.widthAt

theorem closedWidth_statementStart {r : Row} {above : List Row} (h : b.ShowsAbove o (r :: above))
    (col : Nat) :
    b.closedWidth o (b.statementStart (above.length + 1) col) = outermost r.width above := by
  have hstart : b.statementStart (above.length + 1) col = above.length + 1 :=
    h.isCodeTo.statementStart (Nat.le_add_left 1 _) col
  rw [hstart, h.closedWidth]

/-! ### The width of a row -/

/-- The block around a line is opened above it by a row that the buffer shows, or by none. -/
theorem openAbove_cases {above : List Row} (h : b.ShowsAbove o above) :
    (b.openAbove .braces 0 above.length = none ∧ enclosing 0 above = []) ∨
      ∃ head rest col, b.openAbove .braces 0 above.length = some ⟨rest.length + 1, col⟩ ∧
        enclosing 0 above = head :: rest ∧ b.ShowsAbove o (head :: rest) := by
  have hline := h.openAbove_braces 0
  have hsuffix := h.suffix (Row.enclosing_suffix 0 above)
  rcases hopen : b.openAbove .braces 0 above.length with _ | ⟨line, col⟩ <;>
    rcases henclosing : enclosing 0 above with _ | ⟨head, rest⟩ <;>
      rw [hopen, henclosing] at hline
  · exact .inl ⟨rfl, rfl⟩
  · cases hline
  · cases hline
  · obtain rfl : line = rest.length + 1 := Option.some.inj hline
    exact .inr ⟨head, rest, col, rfl, rfl, henclosing ▸ hsuffix⟩

/-- What a row leaves to the line below it, if its statement ends with it. -/
theorem widthAfter {r : Row} {above : List Row} (h : b.ShowsAbove o (r :: above)) {l : Line}
    (hl : b.line? (above.length + 1) = some l) (hopening : ∀ head, r.content ≠ .opening head)
    (hheader : r.content.isHeader = false) :
    b.widthAfter o (above.length + 1) l = below o (r :: above) := by
  have hclosed := h.closedWidth_statementStart l.length
  obtain ⟨⟨l', hl', hshows⟩, habove⟩ := h
  obtain rfl := Option.some.inj (hl.symm.trans hl')
  obtain ⟨col, hlast⟩ := hshows.exists_lastCodeChar
  obtain ⟨hcode, hshape, hwidth⟩ := hshows
  obtain ⟨width, c⟩ := r
  cases c with
  | simple code =>
    have hlast : l.lastCodeChar = some (col, ';') := hlast
    simp only [Buffer.widthAfter, hlast]
    exact hclosed
  | opening head => exact absurd rfl (hopening head)
  | header word condition => cases hheader
  | label lab =>
    have hlabel : (l.isAccessSpecifier || l.isCaseLabel) = true := by
      obtain ⟨hcase, haccess⟩ := Line.label_of_codeText hshape hcode.codeText
      rw [hcase, haccess, Bool.or_not_self]
    have hlast : l.lastCodeChar = some (col, ':') := hlast
    simp only [Buffer.widthAfter, hlast, hlabel, if_true, hwidth]
    rfl
  | closing semicolon =>
    cases semicolon with
    | true =>
      have hlast : l.lastCodeChar = some (col, ';') := hlast
      simp only [Buffer.widthAfter, hlast]
      exact hclosed
    | false =>
      -- the brace ends the statement that begins on the line with its partner
      have hsingle : l.IsCode ['}'] := hcode
      have hlast : l.lastCodeChar = some (col, '}') := hlast
      have hopen : b.unmatchedOpen .braces ⟨above.length + 1, col⟩ =
          b.openAbove .braces 0 above.length :=
        unmatchedOpen_firstCodeChar hl (hsingle.firstCodeChar_eq_lastCodeChar.trans hlast)
      simp only [Buffer.widthAfter, hlast, hopen]
      rcases habove.openAbove_cases with
        ⟨hnone, henclosing⟩ | ⟨head, rest, col', hsome, henclosing, hrest⟩
      · simp only [hnone, below, henclosing]
        exact hclosed
      · simp only [hsome, below, henclosing]
        exact hrest.closedWidth_statementStart col'

theorem widthFromAbove {above : List Row} (h : b.ShowsAbove o above) {l : Line}
    (hl : b.line? (above.length + 1) = some l) (hfirst : l.firstCodeChar.map Prod.snd ≠ some '{') :
    b.widthFromAbove o (above.length + 1) l = below o above := by
  cases above with
  | nil =>
    have hnone := b.significantAbove_one
    rw [Buffer.widthFromAbove]
    simp only [List.length_nil, Nat.zero_add, hnone]
    rfl
  | cons r above =>
    have hsignificant : b.significantAbove ((r :: above).length + 1) = some (above.length + 1) :=
      h.isCodeTo.significantAbove (Nat.le_add_left 1 above.length)
    have hcontinuation : b.continuationWidth o ((r :: above).length + 1) = none := by
      rw [continuationWidth, unmatchedOpen_lineStart hl, Nat.add_sub_cancel, h.openAbove_parens]
      rfl
    obtain ⟨⟨m, hm, hshows⟩, habove⟩ := id h
    obtain ⟨col, hlast⟩ := hshows.exists_lastCodeChar
    have hafter : ∀ hopening hheader, b.widthAfter o (above.length + 1) m = below o (r :: above) :=
      h.widthAfter hm
    have hclosed : r.content.last ≠ '{' → b.widthFromAbove o ((r :: above).length + 1) l =
        if r.content.isHeader then r.width + o.shiftWidth
        else b.widthAfter o (above.length + 1) m := by
      intro hbrace
      rw [Buffer.widthFromAbove_of_ne_brace hsignificant hm hlast hbrace hcontinuation hfirst,
        h.isOpenHeader, h.statementWidth]
    have hstatement := h.statementWidth
    obtain ⟨width, c⟩ := r
    cases c with
    | opening head =>
      have hlast : m.lastCodeChar = some (col, '{') := hlast
      rw [Buffer.widthFromAbove]
      simp only [hsignificant, hm, hlast, hstatement]
      rfl
    | header word condition => exact hclosed (by simp [Content.last])
    | simple code => exact (hclosed (by simp [Content.last])).trans (hafter (by simp) rfl)
    | label lab => exact (hclosed (by simp [Content.last])).trans (hafter (by simp) rfl)
    | closing semicolon =>
      have hbrace : (Content.closing semicolon).last ≠ '{' := by cases semicolon <;> decide
      exact (hclosed hbrace).trans (hafter (by simp) rfl)

/-- What the buffer computes from the head of the block around a line. -/
theorem map_openAbove {above : List Row} (h : b.ShowsAbove o above) (extra : UInt64) :
    (b.openAbove .braces 0 above.length).map (b.statementWidth o · + extra) =
      (enclosing 0 above).head?.map fun head => head.width + extra := by
  rcases h.openAbove_cases with ⟨hnone, henclosing⟩ | ⟨head, rest, col, hsome, henclosing, hrest⟩
  · rw [hnone, henclosing]
    rfl
  · rw [hsome, henclosing, Option.map_some, hrest.statementWidth]
    rfl

theorem blockWidth {r : Row} {above : List Row} {l : Line} (h : b.ShowsAbove o above)
    (hl : b.line? (above.length + 1) = some l) (hshows : l.Shows o r) :
    b.blockWidth o (above.length + 1) l = around o above r.content := by
  obtain ⟨hcode, hshape, _⟩ := hshows
  rw [blockWidth_eq hl, hcode.map_snd_firstCodeChar]
  simp only [Nat.add_sub_cancel, h.map_openAbove]
  -- a line that begins with a name is neither a closing brace nor a label
  have hname : r.content.text.StartsWithName →
      r.content.text.head? ≠ some '}' ∧ l.isCaseLabel = false ∧ l.isAccessSpecifier = false := by
    intro hname
    obtain ⟨x, hx, _, _, hne⟩ := hname.head
    have hcodeText : l.codeText.StartsWithName := hcode.codeText ▸ hname
    refine ⟨?_, Line.isCaseLabel_of_startsWithName hcodeText,
      Line.isAccessSpecifier_of_startsWithName hcodeText⟩
    rw [hx]
    exact fun heq => hne (Option.some.inj heq)
  obtain ⟨width, c⟩ := r
  cases c with
  | closing semicolon =>
    have hnolabel : l.isCaseLabel = false ∧ l.isAccessSpecifier = false := by
      have hcodeText := hcode.codeText
      cases semicolon <;> simp only [Line.isCaseLabel, Line.isAccessSpecifier, hcodeText] <;>
        exact ⟨rfl, rfl⟩
    rw [Content.head?_text_closing]
    simp [around, hnolabel]
  | label lab =>
    obtain ⟨hcase, haccess⟩ := Line.label_of_codeText hshape hcode.codeText
    obtain ⟨x, hx, _, _, hne⟩ := Content.head?_text hshape (by simp)
    rw [hx]
    cases lab with
    | case value => simp [around, hne, hcase, haccess, Label.isAccess, Label.depth]
    | default => simp [around, hne, hcase, haccess, Label.isAccess, Label.depth]
    | access word => simp [around, hne, hcase, haccess, Label.isAccess, Label.depth]
  | simple code =>
    obtain ⟨hfirst, hcase, haccess⟩ := hname (Content.startsWithName_simple hshape.1)
    simp [around, hfirst, hcase, haccess]
  | opening code =>
    obtain ⟨hfirst, hcase, haccess⟩ := hname (Content.startsWithName_opening hshape.1)
    simp [around, hfirst, hcase, haccess]
  | header word condition =>
    obtain ⟨hfirst, hcase, haccess⟩ := hname (Content.startsWithName_header hshape.1 condition)
    simp [around, hfirst, hcase, haccess]

/-- **The indentation of a row is the one that the rows above it let expect.** -/
theorem braceIndent {r : Row} {above : List Row} (h : b.ShowsAbove o (r :: above)) :
    b.braceIndent o (above.length + 1) = o.makeIndent (expected o above r.content) := by
  have hmacro : b.isMacroLine (above.length + 1) = false := h.isCodeTo.isMacroLine
  obtain ⟨⟨l, hl, hshows⟩, habove⟩ := h
  have hbelow : b.widthFromAbove o (above.length + 1) l = below o above := by
    apply habove.widthFromAbove hl
    rw [hshows.code.map_snd_firstCodeChar]
    exact Content.head?_text_ne_brace hshows.shape
  rw [braceIndent_eq hl, hmacro, hshows.code.plain.startsQuoted, Bool.or_self,
    if_neg Bool.false_ne_true, braceWidth, hbelow, habove.blockWidth hl hshows, expected]

end ShowsAbove

end Buffer

end SourceEditor
