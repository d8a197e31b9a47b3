/-
  SourceEditor/Proofs/Json/Expected.lean
  ======================================
  **The indentation of a line of JSON follows from the lines above it.**  To the indentation an
  object is a block and an array is a list: the end of an object looks for the brace that opens it,
  while any line that is not below the start of an object stands inside the innermost list, the end
  of an array like all others.  These rules are stated here over the rows above, the nearest first,
  and proved to be what the buffer computes from its lines.
-/
import SourceEditor.Proofs.Json.Lines

namespace SourceEditor

/-! ### Searching backward -/

namespace Brackets

variable {α β : Type} {br : Brackets}

/-- The characters that a search distinguishes from others. -/
def chars (br : Brackets) : List Char := br.opens ++ br.closes ++ br.stops

theorem find_map (f : α → β) (depth : Nat) (cs : List (α × Char)) :
    br.find depth (cs.map fun x => (f x.1, x.2)) = (br.find depth cs).map f := by
  fun_induction find br depth cs with
  | case1 depth => rfl
  | case2 depth a c rest hcloses ih => simp only [List.map_cons, find, if_pos hcloses, ih]
  | case3 a c rest hcloses hopens =>
    simp only [List.map_cons, find, if_neg hcloses, if_pos hopens, Option.map_some]
  | case4 a c rest hcloses hopens d ih =>
    simp only [List.map_cons, find, if_neg hcloses, if_pos hopens, ih]
  | case5 depth a c rest hcloses hopens hstops =>
    simp only [List.map_cons, find, if_neg hcloses, if_neg hopens, if_pos hstops, Option.map_none]
  | case6 depth a c rest hcloses hopens hstops ih =>
    simp only [List.map_cons, find, if_neg hcloses, if_neg hopens, if_neg hstops, ih]

theorem find_cons_of_not_mem {c : Char} (h : c ∉ br.chars) (depth : Nat) (a : α)
    (cs : List (α × Char)) : br.find depth ((a, c) :: cs) = br.find depth cs := by
  simp only [chars, List.mem_append, not_or] at h
  obtain ⟨⟨hopens, hcloses⟩, hstops⟩ := h
  simp [find, hopens, hcloses, hstops]

theorem find_filter {p : Char → Bool} (h : ∀ c ∈ br.chars, p c = true) (depth : Nat)
    (cs : List (α × Char)) :
    br.find depth (cs.filter fun x => p x.2) = br.find depth cs := by
  induction cs generalizing depth with
  | nil => rfl
  | cons x cs ih =>
    obtain ⟨a, c⟩ := x
    by_cases hp : p c = true
    · rw [List.filter_cons, if_pos hp]
      simp only [find, ih]
    · rw [List.filter_cons, if_neg hp, ih, find_cons_of_not_mem fun hmem => hp (h c hmem)]

theorem exists_mem_of_find {depth : Nat} {cs : List (α × Char)} {a : α}
    (h : br.find depth cs = some a) : ∃ c ∈ br.opens, (a, c) ∈ cs := by
  fun_induction find br depth cs with
  | case1 depth => cases h
  | case2 depth a' c rest hcloses ih =>
    obtain ⟨d, hd, hmem⟩ := ih h
    exact ⟨d, hd, List.mem_cons_of_mem _ hmem⟩
  | case3 a' c rest hcloses hopens =>
    obtain rfl := Option.some.inj h
    exact ⟨c, by simpa using hopens, List.mem_cons_self⟩
  | case4 a' c rest hcloses hopens d ih =>
    obtain ⟨d, hd, hmem⟩ := ih h
    exact ⟨d, hd, List.mem_cons_of_mem _ hmem⟩
  | case5 depth a' c rest hcloses hopens hstops => cases h
  | case6 depth a' c rest hcloses hopens hstops ih =>
    obtain ⟨d, hd, hmem⟩ := ih h
    exact ⟨d, hd, List.mem_cons_of_mem _ hmem⟩

end Brackets

namespace Json

/-! ### Rules over rows -/

/-- The brackets of some rows, the nearest first, each with its row and the number of its line. -/
def bracketsOf : List Row → List ((Nat × Row) × Char)
  | [] => []
  | r :: above =>
    (r.content.brackets.reverse.map fun c => ((above.length + 1, r), c)) ++ bracketsOf above

theorem bracketsOf_closing {r : Row} {kind : Container} {comma : Bool}
    (h : r.content = .closing kind comma) (above : List Row) :
    bracketsOf (r :: above) = ((above.length + 1, r), kind.closing) :: bracketsOf above := by
  rw [bracketsOf, h]
  rfl

/-- The width of the row with the bracket that is open behind some rows. -/
def openerWidth (br : Brackets) (above : List Row) : Option UInt64 :=
  (br.find 0 (bracketsOf above)).map fun x => x.2.width

/-- The width of a line inside the list that is open behind some rows. -/
def listWidth (o : Options) (above : List Row) : Option UInt64 :=
  (openerWidth .parensInBlock above).map (· + o.shiftWidth)

/-- The width at which a row leaves the line below it, if that is not inside a list. -/
def after (r : Row) (above : List Row) : UInt64 :=
  match r.content with
  | .closing .array _ => (openerWidth .parens above).getD r.width
  | .closing .object false => (openerWidth .braces above).getD r.width
  | _ => r.width

/-- The width of the statement that a row ends. -/
def ending (r : Row) (above : List Row) : UInt64 :=
  match r.content with
  | .closing .array _ => (openerWidth .parens above).getD r.width
  | _ => r.width

theorem ending_eq_width {r : Row} (h : ∀ comma, r.content ≠ .closing .array comma)
    (above : List Row) : ending r above = r.width := by
  unfold ending
  split
  · rename_i comma hcontent
    exact absurd hcontent (h comma)
  · rfl

theorem after_eq_ending {r : Row} (h : r.content.final ≠ some '}') (above : List Row) :
    after r above = ending r above := by
  obtain ⟨width, c⟩ := r
  cases c with
  | closing kind comma =>
    cases kind with
    | array => rfl
    | object =>
      cases comma with
      | true => rfl
      | false => exact absurd rfl h
  | _ => rfl

/-- The width of a line below some rows. -/
def below (o : Options) : List Row → UInt64
  | [] => 0
  | r :: above =>
    match r.content with
    | .opening _ .object => r.width + o.shiftWidth
    | _ => (listWidth o (r :: above)).getD (after r above)

theorem below_cons {o : Options} {r : Row} {above : List Row} (h : r.content.final ≠ some '{') :
    below o (r :: above) = (listWidth o (r :: above)).getD (after r above) := by
  obtain ⟨width, c⟩ := r
  cases c with
  | opening name kind =>
    cases kind with
    | array => rfl
    | object => exact absurd rfl h
  | _ => rfl

/-- The width of a line below some rows, by what it holds itself. -/
def expected (o : Options) (above : List Row) : Content → UInt64
  | .closing .object _ => (openerWidth .braces above).getD (below o above)
  | _ => below o above

/-! ### Lines that show rows -/

/-- Whether a line shows a row: it has the content of the row, and is indented as wide. -/
structure Shows (o : Options) (l : Line) (r : Row) : Prop where
  holds : Holds l r.content
  width : l.indentWidth o = r.width

/-- Whether the first lines of a buffer show some rows, the last of them the first row. -/
def ShowsAbove (b : Buffer) (o : Options) : List Row → Prop
  | [] => True
  | r :: above =>
    (∃ l, b.line? (above.length + 1) = some l ∧ Shows o l r) ∧ ShowsAbove b o above

/-! ### Rows and their brackets -/

/-- The brackets that the indentation searches for. -/
def searched : List Brackets := [.braces, .parens, .parensInBlock]

theorem isBracket_of_searched {br : Brackets} (hbr : br ∈ searched) :
    ∀ c ∈ br.chars, isBracket c = true := by
  have hall : ∀ br ∈ searched, br.chars.all isBracket = true := by decide
  exact List.all_eq_true.mp (hall br hbr)

theorem mem_bracketsOf {above : List Row} {n : Nat} {r : Row} {c : Char}
    (h : ((n, r), c) ∈ bracketsOf above) :
    ∃ rest, r :: rest <:+ above ∧ n = rest.length + 1 ∧ c ∈ r.content.brackets := by
  induction above with
  | nil => cases h
  | cons r' above ih =>
    rw [bracketsOf, List.mem_append] at h
    rcases h with h | h
    · obtain ⟨d, hd, heq⟩ := List.mem_map.mp h
      obtain ⟨hrow, rfl⟩ := Prod.mk.inj heq
      obtain ⟨rfl, rfl⟩ := Prod.mk.inj hrow
      exact ⟨above, List.suffix_rfl, rfl, List.mem_reverse.mp hd⟩
    · obtain ⟨rest, hsuffix, hn, hc⟩ := ih h
      exact ⟨rest, hsuffix.trans (List.suffix_cons r' above), hn, hc⟩

/-- A list that is open is that of an array. -/
theorem content_of_find {above : List Row} {depth n : Nat} {r : Row}
    (h : Brackets.parensInBlock.find depth (bracketsOf above) = some (n, r)) :
    ∃ name, r.content = .opening name .array := by
  induction above generalizing depth with
  | nil => cases h
  | cons r' above ih =>
    obtain ⟨width, c⟩ := r'
    cases c with
    | scalar name s comma => exact ih h
    | empty name kind comma =>
      cases kind with
      | array => exact ih h
      | object =>
        cases depth with
        | zero => cases h
        | succ depth => exact ih h
    | opening name kind =>
      cases kind with
      | array =>
        cases depth with
        | zero =>
          obtain ⟨_, rfl⟩ := Prod.mk.inj (Option.some.inj h)
          exact ⟨name, rfl⟩
        | succ depth => exact ih h
      | object =>
        cases depth with
        | zero => cases h
        | succ depth => exact ih h
    | closing kind comma =>
      cases kind with
      | array => exact ih h
      | object =>
        cases depth with
        | zero => cases h
        | succ depth => exact ih h

end Json

/-! ### Lines on their own -/

namespace Json

variable {b : Buffer} {n col : Nat} {l : Line} {c : Content} {br : Brackets}

/-- A search from a point goes through the brackets in front of the point on its line, and on
above. -/
theorem unmatchedOpen_eq (hl : b.line? n = some l) (hbr : br ∈ searched)
    {front : List (Nat × Char)}
    (hfront : (l.codeChars.filter fun y => y.1 < col).filter (fun y => isBracket y.2) = front) :
    b.unmatchedOpen br ⟨n, col⟩ =
      br.find 0 ((front.reverse.map fun x => (⟨n, x.1⟩, x.2)) ++ (b.codeTo (n - 1)).reverse) := by
  have hbrackets := isBracket_of_searched hbr
  have hline : b.line? (⟨n, col⟩ : Point).line = some l := hl
  rw [Buffer.unmatchedOpen_eq_find hline, Buffer.codeBefore_eq hline, List.reverse_append,
    ← Brackets.find_filter hbrackets, ← Brackets.find_filter hbrackets 0 (_ ++ _), ← hfront]
  simp [List.filter_map, Function.comp_def]

/-- The brackets in front of a point do not matter where there are none. -/
theorem unmatchedOpen_eq_openAbove (hl : b.line? n = some l) (hbr : br ∈ searched)
    (hfront : (l.codeChars.filter fun y => y.1 < col).filter (fun y => isBracket y.2) = []) :
    b.unmatchedOpen br ⟨n, col⟩ = b.openAbove br 0 (n - 1) := by
  have hle := Buffer.le_lineCount_of_line? hl
  rw [unmatchedOpen_eq hl hbr hfront, Buffer.openAbove_eq_find (by omega)]
  rfl

theorem statementStart_of_holds (hl : b.line? n = some l) (hc : Holds l c)
    (hclosing : ∀ comma, c ≠ .closing .array comma) (col : Nat) : b.statementStart n col = n := by
  rw [Buffer.statementStart, hl]
  dsimp only
  rw [hc.unmatchedCloser_eq_none hclosing]

/-! ### Lines below rows -/

namespace ShowsAbove

variable {o : Options} {above : List Row}

theorem suffix {rows : List Row} (h : ShowsAbove b o above) (hs : rows <:+ above) :
    ShowsAbove b o rows := by
  induction above with
  | nil =>
    obtain rfl := List.suffix_nil.mp hs
    exact h
  | cons r above ih =>
    rcases List.suffix_cons_iff.mp hs with rfl | hs
    · exact h
    · exact ih h.2 hs

theorem length_le (h : ShowsAbove b o above) : above.length ≤ b.lineCount := by
  cases above with
  | nil => exact Nat.zero_le _
  | cons r above =>
    obtain ⟨⟨l, hl, _⟩, _⟩ := h
    exact Buffer.le_lineCount_of_line? hl

theorem exists_holds (h : ShowsAbove b o above) (hn : n ≠ 0) (hle : n ≤ above.length) :
    ∃ l c, b.line? n = some l ∧ Holds l c := by
  induction above with
  | nil => exact absurd (Nat.le_zero.mp hle) hn
  | cons r above ih =>
    obtain ⟨⟨l, hl, hshows⟩, habove⟩ := h
    rcases Nat.eq_or_lt_of_le hle with rfl | hlt
    · exact ⟨l, r.content, hl, hshows.holds⟩
    · exact ih habove (Nat.le_of_lt_succ hlt)

/-! ### Each line by itself -/

theorem isMacroLine (h : ShowsAbove b o above) (hle : n ≤ above.length) :
    b.isMacroLine n = false := by
  induction n with
  | zero => rfl
  | succ n ih =>
    obtain ⟨l, c, hl, hc⟩ := h.exists_holds (Nat.succ_ne_zero n) hle
    exact Buffer.isMacroLine_succ (ih (Nat.le_of_succ_le hle)) hl hc.isDirective

theorem significantAbove (h : ShowsAbove b o above) (hn : n ≠ 0) (hle : n ≤ above.length) :
    b.significantAbove (n + 1) = some n := by
  obtain ⟨l, c, hl, hc⟩ := h.exists_holds hn hle
  have hsignificant : b.isSignificant n = true := by
    simp [Buffer.isSignificant, hl, hc.isBlank, hc.isCommentOnly, hc.startsQuoted,
      h.isMacroLine hle]
  rw [Buffer.significantAbove, nearestBelow, if_pos hsignificant]

theorem isOpenHeader (h : ShowsAbove b o above) (hle : n ≤ above.length) :
    b.isOpenHeader n = false := by
  unfold Buffer.isOpenHeader
  split
  · rfl
  · rename_i l hl
    split
    · rfl
    · split
      · rfl
      · have hstart := b.statementStart_le n l.length
        rcases hm : b.line? (b.statementStart n l.length) with _ | m
        · rfl
        · obtain ⟨m', c, hm', hc⟩ :=
            h.exists_holds (Buffer.line?_eq_some_iff.mp hm).1 (Nat.le_trans hstart hle)
          obtain rfl := Option.some.inj (hm.symm.trans hm')
          exact hc.not_header

theorem closedWidth (h : ShowsAbove b o above) (hle : n ≤ above.length) :
    b.closedWidth o n = b.widthAt o n := by
  have halone : b.Closes n n := by
    apply Buffer.Closes.alone
    intro i hi
    have hlt := Buffer.significantAbove_lt hi
    exact h.isOpenHeader (by omega)
  exact halone.closedWidth o

/-! ### The brackets above -/

/-- The code of the lines has the brackets of the rows. -/
theorem filter_codeTo (h : ShowsAbove b o above) :
    ((b.codeTo above.length).reverse.filter fun x => isBracket x.2).map
        (fun x => (x.1.line, x.2)) = (bracketsOf above).map fun x => (x.1.1, x.2) := by
  induction above with
  | nil => rfl
  | cons r above ih =>
    obtain ⟨⟨l, hl, hshows⟩, habove⟩ := h
    have hline : ((b.codeOn (above.length + 1)).reverse.filter fun x => isBracket x.2).map
        (fun x => (x.1.line, x.2)) =
          r.content.brackets.reverse.map fun c => (above.length + 1, c) := by
      rw [Buffer.codeOn_eq hl, ← hshows.holds.filter_codeChars]
      simp [List.filter_map, Function.comp_def]
    rw [List.length_cons, Buffer.codeTo, List.reverse_append, List.filter_append, List.map_append,
      hline, ih habove, bracketsOf, List.map_append, List.map_map]
    rfl

theorem map_line_openAbove (h : ShowsAbove b o above) (hbr : br ∈ searched) (depth : Nat) :
    (b.openAbove br depth above.length).map Point.line =
      (br.find depth (bracketsOf above)).map Prod.fst := by
  rw [Buffer.openAbove_eq_find h.length_le,
    ← Brackets.find_filter (isBracket_of_searched hbr), ← Brackets.find_map, h.filter_codeTo,
    Brackets.find_map]

end ShowsAbove

/-- A bracket that is open above a line: it stands on a line that shows one of the rows, and not one
that closes an array. -/
structure IsOpener (b : Buffer) (o : Options) (above : List Row) (p : Point) (r : Row) : Prop where
  shows : ∃ l c, b.line? p.line = some l ∧ Shows o l r ∧
    (p.col, c) ∈ l.codeChars ∧ isBracket c = true
  le : p.line ≤ above.length
  opens : ∀ comma, r.content ≠ .closing .array comma

theorem IsOpener.statementWidth {o : Options} {above : List Row} {p : Point} {r : Row}
    (h : IsOpener b o above p r) : b.statementWidth o p = r.width := by
  obtain ⟨l, _, hl, hshows, _⟩ := h.shows
  have hstart := statementStart_of_holds hl hshows.holds h.opens p.col
  simp [Buffer.statementWidth, hstart, Buffer.widthAt, hl, hshows.width]

namespace ShowsAbove

variable {o : Options} {above : List Row}

/-- A bracket that is open above has been opened by one of the rows. -/
theorem openAbove_cases (h : ShowsAbove b o above) (hbr : br ∈ searched) :
    (b.openAbove br 0 above.length = none ∧ br.find 0 (bracketsOf above) = none) ∨
      ∃ p r, b.openAbove br 0 above.length = some p ∧
        br.find 0 (bracketsOf above) = some (p.line, r) ∧ IsOpener b o above p r := by
  have hline := h.map_line_openAbove hbr 0
  rcases hopen : b.openAbove br 0 above.length with _ | p <;>
    rcases hfind : br.find 0 (bracketsOf above) with _ | ⟨n, r⟩ <;> rw [hopen, hfind] at hline
  · exact .inl ⟨rfl, rfl⟩
  · cases hline
  · cases hline
  · obtain rfl : p.line = n := Option.some.inj hline
    obtain ⟨c, hopens, hmem⟩ := Brackets.exists_mem_of_find hfind
    obtain ⟨rest, hsuffix, hn, hc⟩ := mem_bracketsOf hmem
    obtain ⟨⟨l, hl, hshows⟩, _⟩ := h.suffix hsuffix
    rw [← hn] at hl
    refine .inr ⟨p, r, rfl, rfl, ?_, ?_, ?_⟩
    · rw [Buffer.openAbove_eq_find h.length_le] at hopen
      obtain ⟨d, hd, hcode⟩ := Brackets.exists_mem_of_find hopen
      have hon := (Buffer.mem_codeTo.mp (List.mem_reverse.mp hcode)).2
      rw [Buffer.codeOn_eq hl] at hon
      obtain ⟨x, hx, heq⟩ := List.mem_map.mp hon
      obtain ⟨hp, rfl⟩ := Prod.mk.inj heq
      refine ⟨l, x.2, hl, hshows, by rw [← hp]; exact hx, ?_⟩
      exact isBracket_of_searched hbr x.2 (by simp [Brackets.chars, hd])
    · rw [hn]
      exact hsuffix.length_le
    · intro comma heq
      have hnot : ∀ br ∈ searched, ']' ∉ br.opens := by decide
      rw [heq] at hc
      obtain rfl := List.mem_singleton.mp hc
      exact hnot br hbr hopens

theorem map_statementWidth (h : ShowsAbove b o above) (hbr : br ∈ searched) (extra : UInt64) :
    (b.openAbove br 0 above.length).map (b.statementWidth o · + extra) =
      (openerWidth br above).map (· + extra) := by
  unfold openerWidth
  rcases h.openAbove_cases hbr with ⟨hnone, hfind⟩ | ⟨p, r, hsome, hfind, hopener⟩
  · rw [hnone, hfind]
    rfl
  · rw [hsome, hfind, Option.map_some, hopener.statementWidth]
    rfl

/-- The bracket that opens a list is the last of its line, so the lines of the list stand one level
in. -/
theorem continuationWidth (h : ShowsAbove b o above) (hl : b.line? (above.length + 1) = some l) :
    b.continuationWidth o (above.length + 1) = listWidth o above := by
  have hbr : Brackets.parensInBlock ∈ searched := by simp [searched]
  rw [Buffer.continuationWidth, Buffer.unmatchedOpen_lineStart hl, Nat.add_sub_cancel, listWidth,
    ← h.map_statementWidth hbr]
  rcases h.openAbove_cases hbr with ⟨hnone, _⟩ | ⟨p, r, hsome, hfind, hopener⟩
  · rw [hnone]
    rfl
  · obtain ⟨m, c, hm, hshows, hmem, hbracket⟩ := hopener.shows
    obtain ⟨name, hname⟩ := content_of_find hfind
    have htoken : m.tokenAfter p.col = none :=
      (hname ▸ hshows.holds : Holds m (.opening name .array)).tokenAfter_opening hmem hbracket
    rw [hsome, Option.bind_some, hm, Option.map_some, htoken]
    rfl

/-! ### The width of a line -/

variable {r : Row}

theorem widthAt (h : ShowsAbove b o (r :: above)) :
    b.widthAt o (above.length + 1) = r.width := by
  obtain ⟨⟨l, hl, hshows⟩, _⟩ := h
  simp [Buffer.widthAt, hl, hshows.width]

/-- The statement that a line ends begins on it, unless the line is the end of an array. -/
theorem widthAt_statementStart (h : ShowsAbove b o (r :: above))
    (hl : b.line? (above.length + 1) = some l) :
    b.widthAt o (b.statementStart (above.length + 1) l.length) = ending r above := by
  have hown := h.widthAt
  obtain ⟨⟨l', hl', hshows⟩, habove⟩ := h
  obtain rfl := Option.some.inj (hl.symm.trans hl')
  by_cases hclosing : ∃ comma, r.content = .closing .array comma
  · obtain ⟨comma, hcontent⟩ := hclosing
    have hbr : Brackets.parens ∈ searched := by simp [searched]
    have hholds : Holds l (.closing .array comma) := hcontent ▸ hshows.holds
    obtain ⟨x, hx, hbracket, hcloser⟩ := hholds.exists_unmatchedCloser
    have hopen := unmatchedOpen_eq_openAbove hl hbr (hholds.filter_lt_closing hx hbracket).2
    rw [Nat.add_sub_cancel] at hopen
    rw [Buffer.statementStart, hl]
    dsimp only
    rw [hcloser]
    dsimp only
    rw [hopen, ending, hcontent]
    dsimp only
    unfold openerWidth
    rcases habove.openAbove_cases hbr with ⟨hnone, hfind⟩ | ⟨p, r', hsome, hfind, hopener⟩
    · rw [hnone, hfind]
      exact hown
    · rw [hsome, hfind]
      dsimp only
      rw [if_pos (Nat.lt_succ_of_le hopener.le)]
      exact hopener.statementWidth
  · have hnot : ∀ comma, r.content ≠ .closing .array comma :=
      fun comma heq => hclosing ⟨comma, heq⟩
    rw [statementStart_of_holds hl hshows.holds hnot, hown, ending_eq_width hnot]

/-- A brace at the end of a line ends what begins on the line with the partner of the brace. -/
theorem closedWidth_partner (h : ShowsAbove b o (r :: above))
    (hl : b.line? (above.length + 1) = some l) {col : Nat}
    (hlast : l.lastCodeChar = some (col, '}')) :
    (match b.unmatchedOpen .braces ⟨above.length + 1, col⟩ with
      | some p => b.closedWidth o (b.statementStart p.line p.col)
      | none => ending r above) = after r above := by
  have hbr : Brackets.braces ∈ searched := by simp [searched]
  have hmem : (col, '}') ∈ l.codeChars := List.mem_reverse.mp (List.mem_of_find?_eq_some hlast)
  obtain ⟨⟨l', hl', hshows⟩, habove⟩ := id h
  obtain rfl := Option.some.inj (hl.symm.trans hl')
  rcases Content.final_eq_closing_iff.mp (hshows.holds.final_of_lastCodeChar hlast rfl) with
    hcontent | ⟨name, hcontent⟩
  · have hholds : Holds l (.closing .object false) := hcontent ▸ hshows.holds
    have hopen := unmatchedOpen_eq_openAbove hl hbr (hholds.filter_lt_closing hmem rfl).2
    rw [Nat.add_sub_cancel] at hopen
    rw [hopen, after, ending, hcontent]
    dsimp only
    unfold openerWidth
    rcases habove.openAbove_cases hbr with ⟨hnone, hfind⟩ | ⟨p, r', hsome, hfind, hopener⟩
    · rw [hnone, hfind]
      rfl
    · rw [hsome, hfind]
      have hle := Nat.le_trans (b.statementStart_le p.line p.col) hopener.le
      exact (habove.closedWidth hle).trans hopener.statementWidth
  · have hholds : Holds l (.empty name .object false) := hcontent ▸ hshows.holds
    obtain ⟨i, hfront⟩ := hholds.filter_lt_empty hmem rfl
    have hopen : b.unmatchedOpen .braces ⟨above.length + 1, col⟩ =
        some ⟨above.length + 1, i⟩ := unmatchedOpen_eq hl hbr hfront
    have hstart := statementStart_of_holds hl hholds (by simp) i
    rw [hopen, after, hcontent]
    dsimp only
    rw [hstart]
    exact (h.closedWidth (Nat.le_refl _)).trans h.widthAt

theorem widthAfter (h : ShowsAbove b o (r :: above)) (hl : b.line? (above.length + 1) = some l) :
    b.widthAfter o (above.length + 1) l = after r above := by
  have hclosed := h.closedWidth (b.statementStart_le (above.length + 1) l.length)
  have hending := hclosed.trans (h.widthAt_statementStart hl)
  obtain ⟨⟨l', hl', hshows⟩, _⟩ := id h
  obtain rfl := Option.some.inj (hl.symm.trans hl')
  obtain ⟨hcase, haccess⟩ := hshows.holds.not_label
  by_cases hfinal : r.content.final = some '}'
  · obtain ⟨col, hlast⟩ := hshows.holds.exists_lastCodeChar hfinal
    simp only [Buffer.widthAfter, hlast, hending]
    exact h.closedWidth_partner hl hlast
  · rw [Buffer.widthAfter, after_eq_ending hfinal, hending]
    split
    · rename_i col hlast
      exact absurd (hshows.holds.final_of_lastCodeChar hlast rfl) hfinal
    · rw [hcase, haccess]
      rfl
    · rfl

theorem widthFromAbove (h : ShowsAbove b o above) (hl : b.line? (above.length + 1) = some l) :
    b.widthFromAbove o (above.length + 1) l = below o above := by
  cases above with
  | nil =>
    have hnone := b.significantAbove_one
    rw [Buffer.widthFromAbove]
    simp only [List.length_nil, Nat.zero_add, hnone]
    rfl
  | cons r above =>
    have hsignificant : b.significantAbove ((r :: above).length + 1) = some (above.length + 1) :=
      h.significantAbove (Nat.succ_ne_zero _) (Nat.le_refl _)
    have hcontinuation := h.continuationWidth hl
    have hheader : b.isOpenHeader (above.length + 1) = false := h.isOpenHeader (Nat.le_refl _)
    obtain ⟨⟨m, hm, hshows⟩, habove⟩ := id h
    have hafter := h.widthAfter hm
    by_cases hfinal : r.content.final = some '{'
    · obtain ⟨col, hlast⟩ := hshows.holds.exists_lastCodeChar hfinal
      obtain ⟨name, hcontent⟩ := Content.final_eq_opening_iff.mp hfinal
      have hnot : ∀ comma, r.content ≠ .closing .array comma := by simp [hcontent]
      have hwidth : b.statementWidth o ⟨above.length + 1, col⟩ = r.width := by
        rw [Buffer.statementWidth, statementStart_of_holds hm hshows.holds hnot, h.widthAt]
      rw [Buffer.widthFromAbove]
      simp only [hsignificant, hm, hlast, hwidth, below, hcontent]
    · rw [Buffer.widthFromAbove, below_cons hfinal]
      simp only [hsignificant, hm, hcontinuation, hheader, hafter]
      split
      · rename_i col hlast
        exact absurd (hshows.holds.final_of_lastCodeChar hlast rfl) hfinal
      · cases listWidth o (r :: above) <;> rfl

theorem blockWidth (h : ShowsAbove b o above) (hl : b.line? (above.length + 1) = some l)
    (hc : Holds l c) :
    b.blockWidth o (above.length + 1) l =
      if c.code.head? = some '}' then openerWidth .braces above else none := by
  obtain ⟨hcase, haccess⟩ := hc.not_label
  have hwidth := h.map_statementWidth (by simp [searched] : Brackets.braces ∈ searched) 0
  rw [Buffer.blockWidth_eq hl, hc.map_snd_firstCodeChar, hcase, haccess]
  simp only [Nat.add_sub_cancel, hwidth]
  split <;> simp

/-- **The indentation of a line of JSON is the one that the rows above it let expect.** -/
theorem braceIndent (h : ShowsAbove b o above) (hl : b.line? (above.length + 1) = some l)
    (hc : Holds l c) :
    b.braceIndent o (above.length + 1) = o.makeIndent (expected o above c) := by
  have hfree := Buffer.isMacroLine_succ (h.isMacroLine (Nat.le_refl _)) hl hc.isDirective
  have hexpected : expected o above c =
      (if c.code.head? = some '}' then openerWidth .braces above else none).getD
        (below o above) := by
    unfold expected
    split
    · rw [if_pos (Content.head?_code_eq_brace_iff.mpr ⟨_, rfl⟩)]
    · rename_i hnot
      rw [if_neg]
      · rfl
      · intro hhead
        obtain ⟨comma, rfl⟩ := Content.head?_code_eq_brace_iff.mp hhead
        exact hnot comma rfl
  rw [Buffer.braceIndent_eq hl, hfree, hc.startsQuoted, Bool.or_self, if_neg Bool.false_ne_true,
    Buffer.braceWidth, h.blockWidth hl hc, h.widthFromAbove hl, hexpected]

end ShowsAbove

end Json

end SourceEditor
