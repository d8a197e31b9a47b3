/-
  SourceEditor/Proofs/Indent/Plain.lean
  =====================================
  **Plain lines of code.**  Where no quote begins, a line is all code, and what the indentation asks
  of it can be read off its characters.  If its parentheses are balanced as well, then every
  statement begins on the line where it ends, and no line stands inside parentheses left open
  above.
-/
import SourceEditor.Proofs.Buffer.Annotation
import SourceEditor.Proofs.Indent.Blanks

namespace SourceEditor

/-! ### Scanning where no quote begins -/

/-- A run of characters ends in front of what is none of them. -/
theorem Text.length_takeWhile_append_le {p : Char → Bool} {t rest : Text}
    (hrest : ∀ c ∈ rest.head?, p c = false) : ((t ++ rest).takeWhile p).length ≤ t.length := by
  rw [List.takeWhile_append]
  split
  · cases rest with
    | nil => simp
    | cons c rest => simp [hrest c rfl]
  · exact (List.takeWhile_prefix p).length_le

namespace Lexicon

/-- Whether no quote begins anywhere in a text. -/
def Unquoted (lex : Lexicon) (t : Text) : Prop := ∀ s, s <:+ t → lex.matchStart s = none

theorem Unquoted.tail {lex : Lexicon} {c : Char} {t : Text} (h : lex.Unquoted (c :: t)) :
    lex.Unquoted t := by
  intro s hs
  exact h s (hs.trans (List.suffix_cons c t))

theorem isQuoted_wordKind (lex : Lexicon) (word : Text) : (lex.wordKind word).isQuoted = false := by
  rw [wordKind]
  split <;> rfl

/-- The scan of such a text finds numbers and words only. -/
theorem scanCode_of_unquoted {lex : Lexicon} (skip col : Nat) {t : Text} (h : lex.Unquoted t) :
    (lex.scanCode skip col t).stateOut = .normal ∧
      ∀ s ∈ (lex.scanCode skip col t).spans, s.kind.isQuoted = false := by
  fun_induction scanCode lex skip col t with
  | case1 => simp
  | case2 skip col c rest ih => exact ih h.tail
  | case3 col c rest i rule hstart =>
    rw [h _ List.suffix_rfl] at hstart
    cases hstart
  | case4 col c rest i rule hstart =>
    rw [h _ List.suffix_rfl] at hstart
    cases hstart
  | case5 col c rest _ _ number ih =>
    obtain ⟨hstate, hspans⟩ := ih h.tail
    refine ⟨hstate, ?_⟩
    intro s hs
    rcases List.mem_cons.mp hs with rfl | hs
    · rfl
    · exact hspans s hs
  | case6 col c rest _ _ _ word ih =>
    obtain ⟨hstate, hspans⟩ := ih h.tail
    refine ⟨hstate, ?_⟩
    intro s hs
    rcases List.mem_cons.mp hs with rfl | hs
    · exact isQuoted_wordKind lex word
    · exact hspans s hs
  | case7 col c rest _ _ _ ih => exact ih h.tail

end Lexicon

/-! ### Texts with code at both ends -/

namespace Text

/-- Whether a text begins and ends with a character that is not white space. -/
structure IsTight (t : Text) : Prop where
  head : ∃ c, t.head? = some c ∧ isWhitespace c = false
  last : ∃ c, t.getLast? = some c ∧ isWhitespace c = false

theorem trimStart_of_head {t : Text} {c : Char} (h : t.head? = some c)
    (hc : isWhitespace c = false) : trimStart t = t := by
  obtain ⟨rest, rfl⟩ := List.head?_eq_some_iff.mp h
  simp [trimStart, hc]

theorem body_of_head {t : Text} {c : Char} (h : t.head? = some c) (hc : isWhitespace c = false) :
    t.body = t := by
  obtain ⟨rest, rfl⟩ := List.head?_eq_some_iff.mp h
  simp [body, isBlank_of_isWhitespace_eq_false hc]

theorem find?_of_head {t : Text} {c : Char} (h : t.head? = some c) (hc : isWhitespace c = false) :
    t.find? (fun c => !isWhitespace c) = some c := by
  obtain ⟨rest, rfl⟩ := List.head?_eq_some_iff.mp h
  simp [hc]

theorem find?_of_isBlank {u : Text} (hu : u.IsBlank) :
    u.find? (fun c => !isWhitespace c) = none := by
  rw [List.find?_eq_none]
  intro c hc
  simp [isWhitespace_of_isBlank (hu c hc)]

namespace IsTight

theorem trim {t : Text} (h : t.IsTight) : t.trim = t := by
  obtain ⟨c, hhead, hc⟩ := h.head
  obtain ⟨d, hlast, hd⟩ := h.last
  rw [← List.head?_reverse] at hlast
  rw [Text.trim, trimStart_of_head hhead hc, trimEnd, trimStart_of_head hlast hd,
    List.reverse_reverse]

end IsTight

end Text

/-! ### Plain lines -/

theorem TokenKind.isComment_of_isQuoted {k : TokenKind} (h : k.isQuoted = false) :
    k.isComment = false := by
  cases k with
  | comment => cases h
  | _ => rfl

namespace Line

theorem exists_of_tokenAt {l : Line} {col : Nat} {kind : TokenKind}
    (h : l.tokenAt col = some kind) :
    ∃ x ∈ l.spans, x.contains col = true ∧ x.kind = kind := by
  rw [tokenAt] at h
  split at h
  · cases h
  · rename_i x rest heq
    have hx : x ∈ l.spans := by
      apply (List.dropWhile_sublist _).mem
      rw [heq]
      exact List.mem_cons_self
    by_cases hcontains : x.contains col = true
    · rw [if_pos hcontains] at h
      exact ⟨x, hx, hcontains, Option.some.inj h⟩
    · rw [if_neg hcontains] at h
      cases h

/-- Whether a line holds no quote, neither one of its own nor one from the lines above. -/
structure IsPlain (l : Line) : Prop where
  startsQuoted : l.startsQuoted = false
  spans : ∀ s ∈ l.spans, s.kind.isQuoted = false

/-- Where no line of a text holds the start of a quote, every line is plain. -/
theorem isPlain_of_annotated {lex : Lexicon} (bare : lex.StartsBare) {ls : List Line}
    (h : Annotated lex .normal ls) (hls : ∀ l ∈ ls, lex.Unquoted l.text.body) :
    ∀ l ∈ ls, l.IsPlain := by
  induction ls with
  | nil => simp
  | cons l rest ih =>
    obtain ⟨hl, hrest⟩ := h
    have hscan : lex.scanLine .normal l.text = lex.scanCode 0 l.text.indent.length l.text.body := by
      have hblanks := Lexicon.scanCode_blanks bare (Text.isBlank_indent l.text) 0 l.text.body
      rwa [Text.indent_append_body, Nat.zero_add] at hblanks
    obtain ⟨hstate, hspans⟩ :=
      Lexicon.scanCode_of_unquoted 0 l.text.indent.length (hls l List.mem_cons_self)
    rw [← hscan] at hstate hspans
    have hplain : l.IsPlain := by
      constructor
      · rw [hl]
        rfl
      · rw [hl]
        exact hspans
    have hout : l.stateOut = .normal := by
      rw [hl]
      exact hstate
    rw [hout] at hrest
    intro m hm
    rcases List.mem_cons.mp hm with rfl | hm
    · exact hplain
    · exact ih hrest (fun m hm => hls m (List.mem_cons_of_mem l hm)) m hm

variable {l : Line}

theorem isComment_of_isQuoted {col : Nat} (h : l.isQuoted col = false) :
    l.isComment col = false := by
  unfold isQuoted at h
  unfold isComment
  rcases htoken : l.tokenAt col with _ | k
  · rfl
  · rw [htoken] at h
    exact TokenKind.isComment_of_isQuoted h

namespace IsPlain

theorem isQuoted (h : l.IsPlain) (col : Nat) : l.isQuoted col = false := by
  rw [Line.isQuoted]
  rcases htoken : l.tokenAt col with _ | kind
  · rfl
  · obtain ⟨x, hx, _, rfl⟩ := exists_of_tokenAt htoken
    exact h.spans x hx

theorem isComment (h : l.IsPlain) (col : Nat) : l.isComment col = false :=
  isComment_of_isQuoted (h.isQuoted col)

theorem codeChars (h : l.IsPlain) : l.codeChars = l.columns := by
  rw [Line.codeChars, List.filter_eq_self]
  intro x _
  simp [h.isQuoted]

theorem map_snd_codeChars (h : l.IsPlain) : l.codeChars.map Prod.snd = l.text := by
  rw [h.codeChars, l.map_snd_columns]

theorem codeText (h : l.IsPlain) : l.codeText = l.text.trim := by
  have hmap : (l.columns.map fun x => if l.isQuoted x.1 then ' ' else x.2) = l.text := by
    simp only [h.isQuoted, Bool.false_eq_true, if_false]
    rw [← h.codeChars]
    exact h.map_snd_codeChars
  rw [Line.codeText]
  exact congrArg Text.trim hmap

end IsPlain

end Line

/-! ### Balanced parentheses -/

namespace Text

/-- The number of parentheses and brackets that are open behind a text, `depth` of which were open
in front of it; `none` if one is closed that has not been opened.  Which of the two kinds closes the
other does not matter. -/
def nesting (depth : Nat) : Text → Option Nat
  | [] => some depth
  | c :: rest =>
    if c = '(' ∨ c = '[' then nesting (depth + 1) rest
    else if c = ')' ∨ c = ']' then
      match depth with
      | 0 => none
      | d + 1 => nesting d rest
    else nesting depth rest

theorem nesting_append (depth : Nat) (s t : Text) :
    nesting depth (s ++ t) = (nesting depth s).bind fun d => nesting d t := by
  fun_induction nesting depth s with
  | case1 => rfl
  | case2 depth c rest hopens ih => simpa [nesting, hopens] using ih
  | case3 c rest hopens hcloses => simp [nesting, hopens, hcloses]
  | case4 c rest hopens hcloses d ih => simpa [nesting, hopens, hcloses] using ih
  | case5 depth c rest hopens hcloses ih => simpa [nesting, hopens, hcloses] using ih

theorem nesting_of_isBlank {u : Text} (hu : u.IsBlank) (depth : Nat) :
    nesting depth u = some depth := by
  induction u with
  | nil => rfl
  | cons c u ih =>
    have hrest := ih fun d hd => hu d (List.mem_cons_of_mem c hd)
    rcases eq_of_isBlank (hu c List.mem_cons_self) with rfl | rfl <;> simpa [nesting] using hrest

/-- Whether every parenthesis and every bracket has its partner in the text. -/
def IsBalanced (t : Text) : Prop := nesting 0 t = some 0

instance (t : Text) : Decidable t.IsBalanced :=
  inferInstanceAs (Decidable (nesting 0 t = some 0))

end Text

/-- Nothing is closed in a text that is not opened in it, if the nesting is defined. -/
theorem unmatchedCloser_eq_none {depth d : Nat} {cs : List (Nat × Char)}
    (h : Text.nesting depth (cs.map Prod.snd) = some d) : unmatchedCloser depth cs = none := by
  fun_induction unmatchedCloser depth cs with
  | case1 => rfl
  | case2 depth col c rest hopens ih => exact ih (by simpa [Text.nesting, hopens] using h)
  | case3 col c rest hopens hcloses => simp [Text.nesting, hopens, hcloses] at h
  | case4 col c rest hopens hcloses d' ih =>
    exact ih (by simpa [Text.nesting, hopens, hcloses] using h)
  | case5 depth col c rest hopens hcloses ih =>
    exact ih (by simpa [Text.nesting, hopens, hcloses] using h)

namespace Brackets

/-- A search that has passed some characters goes on behind them. -/
theorem search_append {br : Brackets} {depth d : Nat} {cs : List (Nat × Char)}
    (h : br.search depth cs = .waiting d) (rest : List (Nat × Char)) :
    br.search depth (cs ++ rest) = br.search d rest := by
  fun_induction search br depth cs with
  | case1 depth =>
    cases h
    rfl
  | case2 depth col c cs hcloses ih =>
    simp only [List.cons_append, search]
    rw [if_pos hcloses]
    exact ih h
  | case3 col c cs hcloses hopens => cases h
  | case4 col c cs hcloses hopens d' ih =>
    simp only [List.cons_append, search]
    rw [if_neg hcloses, if_pos hopens]
    exact ih h
  | case5 depth col c cs hcloses hopens hstops => cases h
  | case6 depth col c cs hcloses hopens hstops ih =>
    simp only [List.cons_append, search]
    rw [if_neg hcloses, if_neg hopens, if_neg hstops]
    exact ih h

/-- Backward through a text, as many brackets are opened as are closed forward. -/
theorem search_reverse_of_nesting {depth d : Nat} {cs : List (Nat × Char)}
    (h : Text.nesting depth (cs.map Prod.snd) = some d)
    (hbraces : ∀ x ∈ cs, x.2 ≠ '{' ∧ x.2 ≠ '}') (k : Nat) :
    parensInBlock.search (d + k) cs.reverse = .waiting (depth + k) := by
  -- the first character is the last one that the search comes to, so it acts on what `ih` leaves
  induction cs generalizing depth with
  | nil =>
    obtain rfl := Option.some.inj h
    rfl
  | cons x cs ih =>
    obtain ⟨col, c⟩ := x
    obtain ⟨hopen, hclose⟩ := hbraces (col, c) List.mem_cons_self
    have hrest := fun x hx => hbraces x (List.mem_cons_of_mem (col, c) hx)
    rw [List.reverse_cons]
    simp only [List.map_cons, Text.nesting] at h
    split at h
    · rename_i hopens
      rw [search_append (ih h hrest), show depth + 1 + k = depth + k + 1 by omega]
      rcases hopens with rfl | rfl <;> rfl
    · split at h
      · rename_i hcloses
        cases depth with
        | zero => cases h
        | succ depth =>
          rw [search_append (ih h hrest), show depth + 1 + k = depth + k + 1 by omega]
          rcases hcloses with rfl | rfl <;> rfl
      · rename_i hopens hcloses
        rw [search_append (ih h hrest)]
        simp only [not_or] at hopens hcloses
        simp [search, parensInBlock, hopens, hcloses, hopen, hclose]

end Brackets

/-! ### Lines of code -/

/-- Whether a text is code that fills a line: its ends are no white space, its parentheses have
their partners, and it neither holds a directive nor goes on in the next line. -/
structure Text.IsCode (t : Text) : Prop where
  tight : t.IsTight
  balanced : t.IsBalanced
  hash : '#' ∉ t
  backslash : '\\' ∉ t

/-- Whether a line is plain and holds the given code behind its leading blanks. -/
structure Line.IsCode (l : Line) (t : Text) : Prop where
  plain : l.IsPlain
  body : l.text.body = t
  code : t.IsCode

theorem Line.isBlank_indent (l : Line) : l.indent.IsBlank := Text.isBlank_indent l.text

/-- A line that begins with another character than `#` behind its blanks is no directive. -/
theorem Line.isDirective_of_head {l : Line} {t : Text} {c : Char} (htext : l.text = l.indent ++ t)
    (hhead : t.head? = some c) (hc : isWhitespace c = false) (hne : c ≠ '#') :
    l.isDirective = false := by
  have htrim : l.text.trimStart = t := by
    rw [htext, Text.trimStart_append fun c hc => isWhitespace_of_isBlank (l.isBlank_indent c hc)]
    exact Text.trimStart_of_head hhead hc
  rw [isDirective, htrim, hhead]
  rcases l.firstNonBlank with _ | col
  · rfl
  · simp [hne]

theorem filter_lt_prefix {cs : List (Nat × Char)} (h : cs.Pairwise fun x y => x.1 < y.1)
    (col : Nat) : (cs.filter fun c => c.1 < col) <+: cs := by
  induction cs with
  | nil => exact List.prefix_rfl
  | cons x cs ih =>
    obtain ⟨hx, hcs⟩ := List.pairwise_cons.mp h
    by_cases hlt : x.1 < col
    · rw [List.filter_cons_of_pos (by simpa using hlt)]
      exact (List.prefix_cons_inj x).mpr (ih hcs)
    · have hnil : (x :: cs).filter (fun c => decide (c.1 < col)) = [] := by
        rw [List.filter_eq_nil_iff]
        intro y hy
        rcases List.mem_cons.mp hy with rfl | hy
        · simpa using hlt
        · have hle := hx y hy
          simp only [decide_eq_true_eq]
          omega
      rw [hnil]
      exact List.nil_prefix

/-- Nothing is closed in front of a column that is not opened on the line. -/
theorem Line.unmatchedCloser_of_nesting (l : Line) {d : Nat}
    (h : Text.nesting 0 (l.codeChars.map Prod.snd) = some d) (col : Nat) :
    unmatchedCloser 0 (l.codeChars.filter fun c => c.1 < col) = none := by
  obtain ⟨rest, hrest⟩ := filter_lt_prefix l.pairwise_codeChars col
  rw [← hrest, List.map_append, Text.nesting_append] at h
  obtain ⟨e, he, _⟩ := Option.bind_eq_some_iff.mp h
  exact unmatchedCloser_eq_none he

namespace Line.IsCode

variable {l : Line} {t : Text}

theorem text_eq (h : l.IsCode t) : l.text = l.indent ++ t := by
  rw [← h.body]
  exact (Text.indent_append_body l.text).symm

theorem map_snd_codeChars (h : l.IsCode t) : l.codeChars.map Prod.snd = l.indent ++ t := by
  rw [h.plain.map_snd_codeChars, ← h.text_eq]

theorem map_snd_firstCodeChar (h : l.IsCode t) : l.firstCodeChar.map Prod.snd = t.head? := by
  obtain ⟨c, hhead, hc⟩ := h.code.tight.head
  have hfind : (l.codeChars.map Prod.snd).find? (fun c => !isWhitespace c) = t.head? := by
    rw [h.map_snd_codeChars, List.find?_append, Text.find?_of_isBlank l.isBlank_indent,
      Option.none_or, Text.find?_of_head hhead hc, hhead]
  rw [← hfind, List.find?_map]
  rfl

theorem map_snd_lastCodeChar (h : l.IsCode t) : l.lastCodeChar.map Prod.snd = t.getLast? := by
  obtain ⟨c, hlast, hc⟩ := h.code.tight.last
  have hhead : t.reverse.head? = some c := by rw [List.head?_reverse, hlast]
  have hfind : (l.codeChars.reverse.map Prod.snd).find? (fun c => !isWhitespace c) =
      t.getLast? := by
    rw [List.map_reverse, h.map_snd_codeChars, List.reverse_append, List.find?_append,
      Text.find?_of_head hhead hc, hlast]
    rfl
  rw [← hfind, List.find?_map]
  rfl

theorem codeText (h : l.IsCode t) : l.codeText = t := by
  rw [h.plain.codeText, h.text_eq, Text.trim,
    Text.trimStart_append fun c hc => isWhitespace_of_isBlank (l.isBlank_indent c hc)]
  exact h.code.tight.trim

theorem isDirective (h : l.IsCode t) : l.isDirective = false := by
  obtain ⟨c, hhead, hc⟩ := h.code.tight.head
  apply Line.isDirective_of_head h.text_eq hhead hc
  rintro rfl
  exact h.code.hash (List.mem_of_mem_head? hhead)

theorem isContinued (h : l.IsCode t) : l.isContinued = false := by
  obtain ⟨c, hlast, _⟩ := h.code.tight.last
  have hne : c ≠ '\\' := by
    rintro rfl
    exact h.code.backslash (List.mem_of_getLast? hlast)
  rw [Line.isContinued, h.text_eq, List.getLast?_append, hlast]
  simpa using hne

theorem exists_mem_columns (h : l.IsCode t) :
    ∃ x ∈ l.columns, SourceEditor.isBlank x.2 = false := by
  obtain ⟨c, hhead, hc⟩ := h.code.tight.head
  have hmem : c ∈ l.codeChars.map Prod.snd := by
    rw [h.map_snd_codeChars]
    exact List.mem_append_right _ (List.mem_of_mem_head? hhead)
  rw [h.plain.codeChars] at hmem
  obtain ⟨x, hx, rfl⟩ := List.mem_map.mp hmem
  exact ⟨x, hx, isBlank_of_isWhitespace_eq_false hc⟩

theorem isBlank (h : l.IsCode t) : l.isBlank = false := by
  obtain ⟨x, hx, hblank⟩ := h.exists_mem_columns
  exact Line.isBlank_of_mem_columns hx hblank

theorem isCommentOnly (h : l.IsCode t) : l.isCommentOnly = false := by
  obtain ⟨x, hx, hblank⟩ := h.exists_mem_columns
  exact Line.isCommentOnly_of_mem_columns hx hblank (h.plain.isComment x.1)

theorem nesting (h : l.IsCode t) : Text.nesting 0 (l.codeChars.map Prod.snd) = some 0 := by
  rw [h.map_snd_codeChars, Text.nesting_append, Text.nesting_of_isBlank l.isBlank_indent]
  exact h.code.balanced

theorem unmatchedCloser (h : l.IsCode t) (col : Nat) :
    unmatchedCloser 0 (l.codeChars.filter fun c => c.1 < col) = none :=
  l.unmatchedCloser_of_nesting h.nesting col

end Line.IsCode

/-! ### Buffers of code -/

namespace Buffer

/-- Whether all lines down to the line with a number hold code. -/
def IsCodeTo (b : Buffer) (n : Nat) : Prop :=
  ∀ m, 1 ≤ m → m ≤ n → ∃ l t, b.line? m = some l ∧ l.IsCode t

namespace IsCodeTo

variable {b : Buffer} {n : Nat}

theorem isMacroLine (h : b.IsCodeTo n) : b.isMacroLine n = false := by
  cases n with
  | zero => rfl
  | succ n =>
    obtain ⟨l, t, hl, hcode⟩ := h (n + 1) (by omega) (Nat.le_refl _)
    have hcontinued : (b.line? n).any Line.isContinued = false := by
      rcases Nat.eq_zero_or_pos n with rfl | hn
      · rfl
      · obtain ⟨m, u, hm, hmcode⟩ := h n hn (Nat.le_succ n)
        simp [hm, hmcode.isContinued]
    simp [Buffer.isMacroLine, hl, hcode.isDirective, hcontinued]

theorem isSignificant (h : b.IsCodeTo n) (hn : 1 ≤ n) : b.isSignificant n = true := by
  obtain ⟨l, t, hl, hcode⟩ := h n hn (Nat.le_refl n)
  simp [Buffer.isSignificant, hl, hcode.isBlank, hcode.isCommentOnly, hcode.plain.startsQuoted,
    h.isMacroLine]

/-- The line above a line of code counts. -/
theorem significantAbove (h : b.IsCodeTo n) (hn : 1 ≤ n) :
    b.significantAbove (n + 1) = some n := by
  rw [Buffer.significantAbove, nearestBelow, if_pos (h.isSignificant hn)]

theorem statementStart (h : b.IsCodeTo n) (hn : 1 ≤ n) (col : Nat) :
    b.statementStart n col = n := by
  obtain ⟨l, t, hl, hcode⟩ := h n hn (Nat.le_refl n)
  rw [Buffer.statementStart]
  simp only [hl, hcode.unmatchedCloser]

theorem statementWidth (h : b.IsCodeTo n) (hn : 1 ≤ n) (o : Options) (col : Nat) :
    b.statementWidth o ⟨n, col⟩ = b.widthAt o n := by
  rw [Buffer.statementWidth, h.statementStart hn]

end IsCodeTo

theorem significantAbove_one (b : Buffer) : b.significantAbove 1 = none := by
  have hzero : b.isSignificant 0 = false := rfl
  rw [significantAbove, nearestBelow, hzero]
  rfl

end Buffer

end SourceEditor
