/-
  SourceEditor/Proofs/Json/Lines.lean
  ===================================
  **What the indentation sees of a line of JSON.**  A line that holds one of the forms counts for
  the lines below it, and it is neither a directive nor a label nor a header.  Of its brackets it is
  known which ones there are and what stands in front of them and behind.
-/
import SourceEditor.Proofs.Indent.Headers
import SourceEditor.Proofs.Json.Rows

namespace SourceEditor

namespace Line

/-- A line that begins otherwise than these words do is no label. -/
theorem not_label_of_head {l : Line} (h : ∀ c ∈ l.codeText.head?, c ∉ ['c', 'd', 'p']) :
    l.isCaseLabel = false ∧ l.isAccessSpecifier = false := by
  constructor
  · have hword : ∀ word ∈ ["case".toList, "default".toList], l.codeText.firstWord ≠ word := by
      intro word hword heq
      rcases List.mem_pair.mp hword with rfl | rfl
      · exact h 'c' (Text.head?_of_firstWord heq) (by decide)
      · exact h 'd' (Text.head?_of_firstWord heq) (by decide)
    simp only [isCaseLabel, if_neg (hword _ List.mem_cons_self),
      if_neg (hword "default".toList (by simp))]
  · have hhead : ∀ word ∈ accessWords, word.head? = some 'p' := by decide
    rw [isAccessSpecifier, List.any_eq_false]
    intro word hword
    rw [Bool.and_eq_true, List.isPrefixOf_iff_prefix, not_and]
    rintro ⟨rest, hrest⟩
    have hcode : l.codeText.head? = some 'p' := by
      rw [← hrest, List.head?_append, hhead word hword]
      rfl
    exact absurd (by decide) (h 'p' hcode)

end Line

namespace Json

/-! ### Lines that hold them -/

/-- Whether a line holds a content behind its leading blanks. -/
def Holds (l : Line) (c : Content) : Prop := l.Reads (.code l.indent :: c.pieces)

theorem isBracket_of_isBlank {x : Char} (h : isBlank x = true) : isBracket x = false := by
  rcases eq_of_isBlank h with rfl | rfl <;> decide

namespace Holds

variable {l : Line} {c : Content}

theorem text_eq (h : Holds l c) : l.text = l.indent ++ c.text :=
  (Line.Reads.text_eq h).trans List.flatMap_cons

theorem map_snd_codeChars (h : Holds l c) : l.codeChars.map Prod.snd = l.indent ++ c.code :=
  (Line.Reads.codeChars h).trans (codeOf_code _ _)

theorem map_snd_firstCodeChar (h : Holds l c) : l.firstCodeChar.map Prod.snd = c.code.head? := by
  have hfind : (l.codeChars.map Prod.snd).find? (fun x => !isWhitespace x) = c.code.head? := by
    rw [h.map_snd_codeChars, List.find?_append, Text.find?_of_isBlank l.isBlank_indent,
      Option.none_or]
    rcases hhead : c.code.head? with _ | x
    · rw [List.head?_eq_none_iff.mp hhead]
      rfl
    · exact Text.find?_of_head hhead (Content.isWhitespace_head?_code hhead)
  rw [← hfind, List.find?_map]
  rfl

theorem filter_lastCodeChar (h : Holds l c) :
    (l.lastCodeChar.map Prod.snd).filter isBracket = c.final := by
  have hfind : (l.codeChars.reverse.map Prod.snd).find? (fun x => !isWhitespace x) =
      c.code.reverse.find? fun x => !isWhitespace x := by
    have hblank : Text.IsBlank l.indent.reverse := by
      intro x hx
      exact l.isBlank_indent x (List.mem_reverse.mp hx)
    rw [List.map_reverse, h.map_snd_codeChars, List.reverse_append, List.find?_append,
      Text.find?_of_isBlank hblank, Option.or_none]
  rw [← c.last_code, ← hfind, List.find?_map]
  rfl

theorem final_of_lastCodeChar {x : Nat × Char} (h : Holds l c) (hx : l.lastCodeChar = some x)
    (hbracket : isBracket x.2 = true) : c.final = some x.2 := by
  rw [← h.filter_lastCodeChar, hx]
  simp [hbracket]

theorem exists_lastCodeChar {x : Char} (h : Holds l c) (hx : c.final = some x) :
    ∃ col, l.lastCodeChar = some (col, x) := by
  rw [← h.filter_lastCodeChar, Option.filter_eq_some_iff] at hx
  exact l.exists_lastCodeChar hx.1

theorem filter_codeChars (h : Holds l c) :
    (l.codeChars.filter fun x => isBracket x.2).map Prod.snd = c.brackets := by
  have hindent : l.indent.filter isBracket = [] := by
    rw [List.filter_eq_nil_iff]
    intro x hx
    simp [isBracket_of_isBlank (l.isBlank_indent x hx)]
  have hmap : (l.codeChars.filter fun x => isBracket x.2).map Prod.snd =
      (l.codeChars.map Prod.snd).filter isBracket := by
    rw [List.filter_map]
    rfl
  rw [hmap, h.map_snd_codeChars, List.filter_append, hindent, c.filter_isBracket_code]
  rfl

/-! ### What such a line is not -/

theorem isDirective (h : Holds l c) : l.isDirective = false := by
  obtain ⟨x, hhead, hwhite, hhash⟩ := c.exists_head?_text
  exact Line.isDirective_of_head h.text_eq hhead hwhite hhash

theorem exists_mem_columns (h : Holds l c) :
    ∃ x ∈ l.columns, SourceEditor.isBlank x.2 = false := by
  obtain ⟨y, hhead, hwhite, _⟩ := c.exists_head?_text
  have hmem : y ∈ l.text := by
    rw [h.text_eq, List.mem_append]
    exact .inr (List.mem_of_mem_head? hhead)
  obtain ⟨col, hcol⟩ := List.mem_iff_getElem?.mp hmem
  exact ⟨(col, y), Line.mem_columns.mpr hcol, isBlank_of_isWhitespace_eq_false hwhite⟩

theorem isBlank (h : Holds l c) : l.isBlank = false := by
  obtain ⟨x, hx, hblank⟩ := h.exists_mem_columns
  exact Line.isBlank_of_mem_columns hx hblank

theorem isCommentOnly (h : Holds l c) : l.isCommentOnly = false := by
  obtain ⟨x, hx, hblank⟩ := h.exists_mem_columns
  exact Line.isCommentOnly_of_mem_columns hx hblank (h.comment x.1)

theorem codeText_of_masked (h : Holds l c) {t : Text} (hmasked : maskedOf c.pieces = t)
    (ht : t.IsTight) : l.codeText = t := by
  rw [Line.Reads.codeText h, maskedOf_code, hmasked, Text.trim,
    Text.trimStart_append fun x hx => isWhitespace_of_isBlank (l.isBlank_indent x hx)]
  exact ht.trim

theorem codeText_closing {kind : Container} {comma : Bool} (h : Holds l (.closing kind comma)) :
    l.codeText = kind.closing :: commaText comma := by
  apply h.codeText_of_masked
  · rw [Content.pieces, maskedOf_code]
    exact List.append_nil _
  · cases kind <;> cases comma <;> exact ⟨⟨_, rfl, by decide⟩, ⟨_, rfl, by decide⟩⟩

theorem codeText_false {comma : Bool} (h : Holds l (.scalar none (.bool false) comma)) :
    l.codeText = "false".toList ++ commaText comma := by
  apply h.codeText_of_masked
  · have hpieces : (Content.scalar none (.bool false) comma).pieces =
        [.code "false".toList, .code (commaText comma)] := rfl
    rw [hpieces, maskedOf_code, maskedOf_code]
    exact congrArg _ (List.append_nil _)
  · cases comma <;> exact ⟨⟨_, rfl, by decide⟩, ⟨_, rfl, by decide⟩⟩

theorem not_label (h : Holds l c) : l.isCaseLabel = false ∧ l.isAccessSpecifier = false := by
  have hstart : Content.codeStarts.all (fun x => x != 'c' && x != 'd' && x != 'p') = true := by
    decide
  rcases c.head?_code with ⟨kind, comma, rfl⟩ | ⟨comma, rfl⟩ | hc
  · apply Line.not_label_of_head
    rw [h.codeText_closing]
    cases kind <;> simp [Container.closing]
  · apply Line.not_label_of_head
    rw [h.codeText_false]
    intro x hx
    obtain rfl := Option.some.inj hx
    decide
  · apply Line.not_label_of_head
    rw [l.head?_codeText, h.map_snd_firstCodeChar]
    intro x hx
    simpa [and_assoc] using List.all_eq_true.mp hstart x (hc x hx)

/-- No line begins with the word of a header, neither at once nor behind a closing brace. -/
theorem not_header (h : Holds l c) :
    headerWords.contains (Text.trimStart (l.codeText.dropWhile (· == '}'))).firstWord = false := by
  rcases c.head?_code with ⟨kind, comma, rfl⟩ | ⟨comma, rfl⟩ | hc
  · rw [h.codeText_closing]
    cases kind <;> cases comma <;> decide
  · rw [h.codeText_false]
    cases comma <;> decide
  · have hcode := h.map_snd_firstCodeChar
    rw [← l.head?_codeText] at hcode
    rcases hhead : c.code.head? with _ | x
    · rw [hhead] at hcode
      rw [List.head?_eq_none_iff.mp hcode]
      rfl
    · rw [hhead] at hcode
      obtain ⟨rest, hrest⟩ := List.head?_eq_some_iff.mp hcode
      have hwords : ∀ word ∈ headerWords,
          Content.codeStarts.all (fun x => word.head? != some x) = true := by decide
      have hbrace : x ≠ '}' := by
        rintro rfl
        exact absurd (hc _ hhead) (by decide)
      rw [hrest, List.dropWhile_cons_of_neg (by simpa using hbrace),
        Text.trimStart_of_head rfl (Content.isWhitespace_head?_code hhead), Bool.eq_false_iff]
      intro hword
      rw [List.contains_iff_mem] at hword
      by_cases hx : isWordChar x = true
      · have hne := List.all_eq_true.mp (hwords _ hword) x (hc x hhead)
        exact absurd (by simp [Text.firstWord, hx]) (bne_iff_ne.mp hne)
      · rw [Text.firstWord, List.takeWhile_cons_of_neg hx] at hword
        exact absurd hword (by decide)

theorem startsQuoted (h : Holds l c) : l.startsQuoted = false :=
  l.startsQuoted_of_stateIn h.normal

end Holds

/-! ### The brackets of a line -/

/-- Characters that are no brackets do not count for the nesting. -/
theorem nesting_filter (depth : Nat) (t : Text) :
    Text.nesting depth (t.filter isBracket) = Text.nesting depth t := by
  fun_induction Text.nesting depth t with
  | case1 => rfl
  | case2 depth c rest hopens ih =>
    have hc : isBracket c = true := by rcases hopens with rfl | rfl <;> decide
    simp [hc, Text.nesting, hopens, ih]
  | case3 c rest hopens hcloses =>
    have hc : isBracket c = true := by rcases hcloses with rfl | rfl <;> decide
    simp [hc, Text.nesting, hopens, hcloses]
  | case4 c rest hopens hcloses d ih =>
    have hc : isBracket c = true := by rcases hcloses with rfl | rfl <;> decide
    simp [hc, Text.nesting, hopens, hcloses, ih]
  | case5 depth c rest hopens hcloses ih =>
    by_cases hc : isBracket c = true
    · simp [hc, Text.nesting, hopens, hcloses, ih]
    · simp [hc, ih]

theorem unmatchedCloser_filter (depth : Nat) (cs : List (Nat × Char)) :
    unmatchedCloser depth (cs.filter fun x => isBracket x.2) = unmatchedCloser depth cs := by
  fun_induction unmatchedCloser depth cs with
  | case1 => rfl
  | case2 depth col c rest hopens ih =>
    have hc : isBracket c = true := by rcases hopens with rfl | rfl <;> decide
    simp [hc, unmatchedCloser, hopens, ih]
  | case3 col c rest hopens hcloses =>
    have hc : isBracket c = true := by rcases hcloses with rfl | rfl <;> decide
    simp [hc, unmatchedCloser, hopens, hcloses]
  | case4 col c rest hopens hcloses d ih =>
    have hc : isBracket c = true := by rcases hcloses with rfl | rfl <;> decide
    simp [hc, unmatchedCloser, hopens, hcloses, ih]
  | case5 depth col c rest hopens hcloses ih =>
    by_cases hc : isBracket c = true
    · simp [hc, unmatchedCloser, hopens, hcloses, ih]
    · simp [hc, ih]

/-- The brackets in front of one of them. -/
theorem filter_lt_eq {cs front behind : List (Nat × Char)} {x : Nat × Char}
    (h : cs.Pairwise fun x y => x.1 < y.1)
    (hsplit : cs.filter (fun y => isBracket y.2) = front ++ x :: behind) :
    (cs.filter fun y => y.1 < x.1).filter (fun y => isBracket y.2) = front := by
  have hpairwise := h.filter fun y => isBracket y.2
  rw [hsplit] at hpairwise
  obtain ⟨_, hbehind, hfront⟩ := List.pairwise_append.mp hpairwise
  rw [List.filter_comm, hsplit, List.filter_append]
  have hin : front.filter (fun y => decide (y.1 < x.1)) = front := by
    rw [List.filter_eq_self]
    intro y hy
    simpa using hfront y hy x List.mem_cons_self
  have hout : (x :: behind).filter (fun y => decide (y.1 < x.1)) = [] := by
    rw [List.filter_eq_nil_iff]
    intro y hy
    rcases List.mem_cons.mp hy with rfl | hy
    · simp
    · have hlt := (List.pairwise_cons.mp hbehind).1 y hy
      simp only [decide_eq_true_eq]
      omega
  rw [hin, hout, List.append_nil]

namespace Holds

variable {l : Line} {c : Content}

/-- But for the end of an array, a line closes no bracket that it does not open. -/
theorem unmatchedCloser_eq_none (h : Holds l c) (hc : ∀ comma, c ≠ .closing .array comma)
    (col : Nat) : unmatchedCloser 0 (l.codeChars.filter fun x => x.1 < col) = none := by
  have hnesting : ∃ d, Text.nesting 0 c.brackets = some d := by
    cases c with
    | scalar name s comma => exact ⟨0, rfl⟩
    | empty name kind comma => cases kind <;> exact ⟨0, rfl⟩
    | opening name kind => cases kind <;> exact ⟨_, rfl⟩
    | closing kind comma =>
      cases kind with
      | array => exact absurd rfl (hc comma)
      | object => exact ⟨0, rfl⟩
  obtain ⟨d, hd⟩ := hnesting
  apply l.unmatchedCloser_of_nesting (d := d)
  have hmap : (l.codeChars.map Prod.snd).filter isBracket = c.brackets := by
    rw [← h.filter_codeChars, List.filter_map]
    rfl
  rw [← nesting_filter, hmap, hd]

/-- The end of an array closes a bracket of a line above. -/
theorem exists_unmatchedCloser {comma : Bool} (h : Holds l (.closing .array comma)) :
    ∃ x ∈ l.codeChars, isBracket x.2 = true ∧
      unmatchedCloser 0 (l.codeChars.filter fun y => y.1 < l.length) = some x.1 := by
  have hall : l.codeChars.filter (fun y => decide (y.1 < l.length)) = l.codeChars := by
    rw [List.filter_eq_self]
    intro y hy
    have hcolumn := Line.mem_columns.mp (List.mem_filter.mp hy).1
    exact decide_eq_true (List.getElem?_eq_some_iff.mp hcolumn).1
  obtain ⟨⟨col, d⟩, hx, hsnd⟩ := List.map_eq_singleton_iff.mp h.filter_codeChars
  obtain rfl : d = ']' := hsnd
  have hmem : (col, ']') ∈ l.codeChars.filter fun y => isBracket y.2 := by
    rw [hx]
    exact List.mem_cons_self
  refine ⟨(col, ']'), (List.mem_filter.mp hmem).1, rfl, ?_⟩
  rw [hall, ← unmatchedCloser_filter, hx]
  rfl

/-- The bracket at the end of a line that closes a container is the first one of the line. -/
theorem filter_lt_closing {kind : Container} {comma : Bool} {x : Nat × Char}
    (h : Holds l (.closing kind comma)) (hx : x ∈ l.codeChars) (hbracket : isBracket x.2 = true) :
    x.2 = kind.closing ∧
      (l.codeChars.filter fun y => y.1 < x.1).filter (fun y => isBracket y.2) = [] := by
  obtain ⟨y, hy, hsnd⟩ := List.map_eq_singleton_iff.mp h.filter_codeChars
  have hmem : x ∈ l.codeChars.filter fun y => isBracket y.2 := List.mem_filter.mpr ⟨hx, hbracket⟩
  rw [hy] at hmem
  obtain rfl := List.mem_singleton.mp hmem
  have hsplit : l.codeChars.filter (fun y => isBracket y.2) = [] ++ x :: [] := hy
  exact ⟨hsnd, filter_lt_eq l.pairwise_codeChars hsplit⟩

/-- In front of the bracket at the end of an empty container stands the one that opens it. -/
theorem filter_lt_empty {name : Option StringBody} {kind : Container} {comma : Bool}
    {x : Nat × Char} (h : Holds l (.empty name kind comma)) (hx : x ∈ l.codeChars)
    (hclosing : x.2 = kind.closing) :
    ∃ col, (l.codeChars.filter fun y => y.1 < x.1).filter (fun y => isBracket y.2) =
      [(col, kind.opening)] := by
  have hbracket : isBracket x.2 = true := by
    rw [hclosing]
    cases kind <;> rfl
  obtain ⟨y, rest, hy, hopens, hrest⟩ := List.map_eq_cons_iff.mp h.filter_codeChars
  obtain ⟨z, rfl, _⟩ := List.map_eq_singleton_iff.mp hrest
  have hmem : x ∈ l.codeChars.filter fun y => isBracket y.2 := List.mem_filter.mpr ⟨hx, hbracket⟩
  rw [hy] at hmem
  rcases List.mem_pair.mp hmem with rfl | rfl
  · rw [hopens] at hclosing
    cases kind <;> cases hclosing
  · have hsplit : l.codeChars.filter (fun z => isBracket z.2) = [y] ++ x :: [] := hy
    refine ⟨y.1, ?_⟩
    rw [filter_lt_eq l.pairwise_codeChars hsplit, ← hopens]

/-- Behind the bracket that opens a container the line ends. -/
theorem tokenAfter_opening {name : Option StringBody} {kind : Container} {x : Nat × Char}
    (h : Holds l (.opening name kind)) (hx : x ∈ l.codeChars) (hbracket : isBracket x.2 = true) :
    l.tokenAfter x.1 = none := by
  have hflags : (flaggedOf (.code l.indent :: (Content.opening name kind).pieces)).getLast? =
      some (false, kind.opening) := by
    have hpieces : Piece.code l.indent :: (Content.opening name kind).pieces =
        (.code l.indent :: namePieces name) ++ [.code [kind.opening]] := rfl
    rw [hpieces, flaggedOf, List.flatMap_append]
    exact List.getLast?_concat
  rw [← h.flags, List.getLast?_map, Option.map_eq_some_iff] at hflags
  obtain ⟨⟨col, d⟩, hlast, hflag⟩ := hflags
  obtain ⟨hquoted, rfl⟩ := Prod.mk.inj hflag
  have hmem : (col, kind.opening) ∈ l.codeChars := by
    apply List.mem_filter.mpr
    exact ⟨List.mem_of_getLast? hlast, by simpa using hquoted⟩
  have hlength : l.columns.length = l.text.length := by simp [Line.columns]
  have hcol : col = l.text.length - 1 := by
    rw [List.getLast?_eq_getElem?, Line.getElem?_columns, Option.map_eq_some_iff] at hlast
    obtain ⟨_, _, hpair⟩ := hlast
    rw [← hlength, ← (Prod.mk.inj hpair).1]
  -- there is one bracket on the line only
  obtain ⟨y, hy, _⟩ := List.map_eq_singleton_iff.mp h.filter_codeChars
  have honly : ∀ z ∈ l.codeChars, isBracket z.2 = true → z = y := by
    intro z hz hzbracket
    have hzmem : z ∈ l.codeChars.filter fun y => isBracket y.2 :=
      List.mem_filter.mpr ⟨hz, hzbracket⟩
    rw [hy] at hzmem
    exact List.mem_singleton.mp hzmem
  have hopening : isBracket kind.opening = true := by cases kind <;> rfl
  have hx : x = (col, kind.opening) := (honly x hx hbracket).trans (honly _ hmem hopening).symm
  rw [hx, Line.tokenAfter_eq_none_iff]
  rintro i hi ⟨d, hd, _⟩
  obtain ⟨hlt, _⟩ := List.getElem?_eq_some_iff.mp hd
  omega

end Holds

end Json

end SourceEditor
