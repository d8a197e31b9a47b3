/-
  SourceEditor/Proofs/Indent/Quoted.lean
  ======================================
  **Quoted text does not influence indentation.**  Two buffers that differ only in characters
  inside comments, strings, character literals and preprocessor lines indent every line alike.
  White space, the `#` and the backslash are left out: they are looked at in quotes as well, where
  a line is blank, a directive, or goes on in the next one.

  A quoted character can be seen in two ways only: by a question that masks it, since it takes all
  characters but the three kinds to be the same, or by one that blanks it out.
-/
import Mathlib.Data.List.Forall2
import SourceEditor.Proofs.Indent.Views
import SourceEditor.Proofs.Text.Character

namespace SourceEditor

/-- Whether a character that is quoted says nothing to the indentation. -/
def isMute (c : Char) : Bool := !isWhitespace c && c != '#' && c != '\\'

/-- A character as it is seen in a quote: mute characters are all the same. -/
def masked (c : Char) : Char := if isMute c then 'x' else c

/-! ### Masked characters -/

theorem isBlank_eq_false_of_isMute {c : Char} (h : isMute c = true) : isBlank c = false := by
  rw [Bool.eq_false_iff]
  intro hblank
  simp [isMute, isWhitespace_of_isBlank hblank] at h

@[simp] theorem isWhitespace_masked (c : Char) : isWhitespace (masked c) = isWhitespace c := by
  by_cases h : isMute c = true
  · have hwhite : isWhitespace c = false := by
      simp only [isMute, Bool.and_eq_true, Bool.not_eq_true'] at h
      exact h.1.1
    rw [masked, if_pos h, hwhite]
    decide
  · rw [masked, if_neg h]

@[simp] theorem isBlank_masked (c : Char) : isBlank (masked c) = isBlank c := by
  by_cases h : isMute c = true
  · rw [masked, if_pos h, isBlank_eq_false_of_isMute h]
    decide
  · rw [masked, if_neg h]

theorem masked_of_isBlank {c : Char} (h : isBlank c = true) : masked c = c := by
  rw [masked, if_neg]
  intro hmute
  rw [isBlank_eq_false_of_isMute hmute] at h
  cases h

/-- The mask is seen through where a character is asked for that it does not hide. -/
theorem masked_eq_iff {d : Char} (hd : isMute d = false) (hx : d ≠ 'x') (c : Char) :
    masked c = d ↔ c = d := by
  by_cases h : isMute c = true
  · rw [masked, if_pos h]
    constructor
    · intro hd
      exact absurd hd.symm hx
    · rintro rfl
      rw [hd] at h
      cases h
  · rw [masked, if_neg h]

theorem map_masked_beq {d : Char} (hd : isMute d = false) (hx : d ≠ 'x') (c : Option Char) :
    (c.map masked == some d) = (c == some d) := by
  rcases c with _ | c
  · rfl
  · rw [Option.map_some, Bool.eq_iff_iff]
    simp [masked_eq_iff hd hx c]

theorem Options.nextColumn_masked (o : Options) (width : UInt64) (c : Char) :
    o.nextColumn width (masked c) = o.nextColumn width c := by
  simp only [nextColumn, masked_eq_iff (d := '\t') (by decide) (by decide)]

/-! ### Lines with the same code -/

/-- Whether two lines are the same but for mute characters that are quoted. -/
structure Line.SameCode (l l' : Line) : Prop where
  spans : l.spans = l'.spans
  stateIn : l.stateIn = l'.stateIn
  stateOut : l.stateOut = l'.stateOut
  length : l.length = l'.length
  chars : ∀ col < l.length, l.text[col]? = l'.text[col]? ∨
    l.isQuoted col = true ∧ l.text[col]?.any isMute = true ∧ l'.text[col]?.any isMute = true

namespace Line

instance (l l' : Line) : Decidable (l.SameCode l') :=
  decidable_of_iff
    (l.spans = l'.spans ∧ l.stateIn = l'.stateIn ∧ l.stateOut = l'.stateOut ∧
      l.length = l'.length ∧ ∀ col < l.length, l.text[col]? = l'.text[col]? ∨
        l.isQuoted col = true ∧ l.text[col]?.any isMute = true ∧ l'.text[col]?.any isMute = true)
    ⟨fun ⟨hspans, hin, hout, hlength, hchars⟩ => ⟨hspans, hin, hout, hlength, hchars⟩,
      fun ⟨hspans, hin, hout, hlength, hchars⟩ => ⟨hspans, hin, hout, hlength, hchars⟩⟩

/-- A character with its column, blanked out if it is quoted. -/
def blanked (l : Line) (x : Nat × Char) : Nat × Char :=
  (x.1, if l.isQuoted x.1 then ' ' else x.2)

theorem codeChars_eq_filter_blanked (l : Line) :
    l.codeChars = (l.columns.map l.blanked).filter fun x => !l.isQuoted x.1 := by
  rw [List.filter_map]
  have hcode : l.codeChars.map l.blanked = l.codeChars.map fun x => x := by
    apply List.map_congr_left
    intro x hx
    have hquoted : l.isQuoted x.1 = false := by simpa using (List.mem_filter.mp hx).2
    simp [blanked, hquoted]
  rw [List.map_id'] at hcode
  exact hcode.symm

namespace SameCode

variable {l l' : Line} (h : l.SameCode l')

include h

theorem tokenAt : l.tokenAt = l'.tokenAt := by
  funext col
  rw [Line.tokenAt, Line.tokenAt, h.spans]

theorem isQuoted : l.isQuoted = l'.isQuoted := by
  funext col
  rw [Line.isQuoted, Line.isQuoted, h.tokenAt]

theorem isComment : l.isComment = l'.isComment := by
  funext col
  rw [Line.isComment, Line.isComment, h.tokenAt]

theorem chars_cases (col : Nat) :
    l.text[col]? = l'.text[col]? ∨
      ∃ c c', l.text[col]? = some c ∧ l'.text[col]? = some c' ∧ l.isQuoted col = true ∧
        isMute c = true ∧ isMute c' = true := by
  by_cases hcol : col < l.length
  · rcases h.chars col hcol with hsame | ⟨hquoted, hmute, hmute'⟩
    · exact .inl hsame
    · rcases hc : l.text[col]? with _ | c
      · rw [hc] at hmute
        cases hmute
      · rcases hc' : l'.text[col]? with _ | c'
        · rw [hc'] at hmute'
          cases hmute'
        · rw [hc] at hmute
          rw [hc'] at hmute'
          exact .inr ⟨c, c', rfl, rfl, hquoted, hmute, hmute'⟩
  · have hcol' : ¬col < l'.length := h.length ▸ hcol
    rw [List.getElem?_eq_none (Nat.le_of_not_lt hcol),
      List.getElem?_eq_none (Nat.le_of_not_lt hcol')]
    exact .inl rfl

theorem map_masked : l.text.map masked = l'.text.map masked := by
  apply List.ext_getElem?
  intro col
  rw [List.getElem?_map, List.getElem?_map]
  rcases h.chars_cases col with hsame | ⟨c, c', hc, hc', _, hmute, hmute'⟩
  · rw [hsame]
  · simp [hc, hc', masked, hmute, hmute']

theorem map_blanked : l.columns.map l.blanked = l'.columns.map l'.blanked := by
  have hblanked : l.blanked = l'.blanked := by
    funext x
    rw [blanked, blanked, h.isQuoted]
  apply List.ext_getElem?
  intro col
  rw [List.getElem?_map, List.getElem?_map, getElem?_columns, getElem?_columns, ← hblanked]
  rcases h.chars_cases col with hsame | ⟨c, c', hc, hc', hquoted, _, _⟩
  · rw [hsame]
  · simp [hc, hc', blanked, hquoted]

theorem codeChars : l.codeChars = l'.codeChars := by
  rw [codeChars_eq_filter_blanked, codeChars_eq_filter_blanked, h.map_blanked, h.isQuoted]

theorem codeText : l.codeText = l'.codeText := by
  have hmap := congrArg (List.map Prod.snd) h.map_blanked
  rw [List.map_map, List.map_map] at hmap
  exact congrArg Text.trim hmap

end SameCode

/-! ### Questions that masked characters answer -/

/-- The characters with their columns, masked. -/
theorem map_columns_masked (l : Line) :
    l.columns.map (fun x => (x.1, masked x.2)) = (l.text.map masked).zipIdx.map Prod.swap := by
  rw [columns, List.map_map, List.zipIdx_map, List.map_map]
  rfl

theorem isBlank_eq_masked (l : Line) : l.isBlank = (l.text.map masked).all SourceEditor.isBlank := by
  rw [isBlank, List.all_map]
  simp [Function.comp_def]

theorem indent_eq_masked (l : Line) : l.indent = Text.indent (l.text.map masked) := by
  rw [indent, Text.indent, Text.indent, List.takeWhile_map]
  have hblank : SourceEditor.isBlank ∘ masked = SourceEditor.isBlank := by
    funext c
    exact isBlank_masked c
  have hmap : (l.text.takeWhile SourceEditor.isBlank).map masked =
      (l.text.takeWhile SourceEditor.isBlank).map fun c => c := by
    apply List.map_congr_left
    intro c hc
    exact masked_of_isBlank (List.all_eq_true.mp List.all_takeWhile c hc)
  rw [hblank, hmap, List.map_id']

theorem displayColumn_eq_masked (l : Line) (o : Options) (col : Nat) :
    l.displayColumn o col = o.indentWidth ((l.text.map masked).take col) := by
  rw [displayColumn, Options.indentWidth, Options.indentWidth, ← List.map_take, List.foldl_map]
  simp only [Options.nextColumn_masked]

theorem isContinued_eq_masked (l : Line) :
    l.isContinued = ((l.text.map masked).getLast? == some '\\') := by
  rw [isContinued, List.getLast?_map, map_masked_beq (by decide) (by decide)]

theorem isDirective_eq_masked (l : Line) :
    l.isDirective = ((l.text.map masked).findIdx? fun c => !SourceEditor.isBlank c).any fun col =>
      (Text.trimStart (l.text.map masked)).head? == some '#' && !l.isComment col := by
  have hwhite : isWhitespace ∘ masked = isWhitespace := by
    funext c
    exact isWhitespace_masked c
  rw [isDirective, firstNonBlank, List.findIdx?_map, Text.trimStart, Text.trimStart,
    List.dropWhile_map, hwhite, List.head?_map, map_masked_beq (by decide) (by decide)]
  simp [Function.comp_def]

theorem isCommentOnly_eq_masked (l : Line) :
    l.isCommentOnly = (!l.isBlank && ((l.text.map masked).zipIdx.map Prod.swap).all
      fun (col, c) => SourceEditor.isBlank c || l.isComment col) := by
  rw [isCommentOnly, ← map_columns_masked, List.all_map]
  simp [Function.comp_def]

theorem tokenAfter_eq_masked (l : Line) (col : Nat) :
    l.tokenAfter col = (((l.text.map masked).zipIdx.map Prod.swap).find? fun (c, ch) =>
      col < c && !isWhitespace ch && !l.isComment c).map Prod.fst := by
  rw [tokenAfter, ← map_columns_masked, List.find?_map, Option.map_map]
  simp [Function.comp_def]

/-- Lines with the same code look alike to the indentation. -/
theorem SameCode.alike {l l' : Line} (h : l.SameCode l') : l.Alike l' where
  length := h.length
  indent := by rw [indent_eq_masked, indent_eq_masked, h.map_masked]
  isBlank := by rw [isBlank_eq_masked, isBlank_eq_masked, h.map_masked]
  isCommentOnly := by
    rw [isCommentOnly_eq_masked, isCommentOnly_eq_masked, isBlank_eq_masked, isBlank_eq_masked,
      h.map_masked, h.isComment]
  startsQuoted := by rw [startsQuoted, startsQuoted, h.stateIn]
  isDirective := by
    rw [isDirective_eq_masked, isDirective_eq_masked, h.map_masked, h.isComment]
  isContinued := by rw [isContinued_eq_masked, isContinued_eq_masked, h.map_masked]
  codeChars := h.codeChars
  codeText := h.codeText
  tokenAfter := by
    funext col
    rw [tokenAfter_eq_masked, tokenAfter_eq_masked, h.map_masked, h.isComment]
  displayColumn := by
    funext o col
    rw [displayColumn_eq_masked, displayColumn_eq_masked, h.map_masked]

end Line

namespace Buffer

/-- Whether two buffers are the same, line by line, but for mute characters that are quoted. -/
def SameCode (b b' : Buffer) : Prop := List.Forall₂ Line.SameCode b.lines b'.lines

theorem SameCode.line?_cases {b b' : Buffer} (h : b.SameCode b') (n : Nat) :
    (b.line? n = none ∧ b'.line? n = none) ∨
      ∃ l l', b.line? n = some l ∧ b'.line? n = some l' ∧ l.SameCode l' := by
  by_cases hn : n = 0
  · exact .inl ⟨if_pos hn, if_pos hn⟩
  · rw [line?, line?, if_neg hn, if_neg hn]
    have hlength := List.Forall₂.length_eq h
    by_cases hlt : n - 1 < b.lines.length
    · have hlt' : n - 1 < b'.lines.length := hlength ▸ hlt
      exact .inr ⟨_, _, List.getElem?_eq_getElem hlt, List.getElem?_eq_getElem hlt',
        List.Forall₂.get h hlt hlt'⟩
    · refine .inl ⟨List.getElem?_eq_none (Nat.le_of_not_lt hlt), ?_⟩
      exact List.getElem?_eq_none (hlength ▸ Nat.le_of_not_lt hlt)

theorem SameCode.alikeAbove {b b' : Buffer} (h : b.SameCode b') (n : Nat) : b.AlikeAbove b' n := by
  intro i _
  rcases h.line?_cases i with hnone | ⟨l, l', hl, hl', hsame⟩
  · exact .inl hnone
  · exact .inr ⟨l, l', hl, hl', hsame.alike⟩

/-- **Quoted text does not influence indentation.**  Whatever mute characters stand inside its
quotes, a buffer gives every line the same indentation, where braces decide and where colons
do. -/
theorem SameCode.indent_eq {b b' : Buffer} (h : b.SameCode b') (o : Options) (n : Nat) :
    b.braceIndent o n = b'.braceIndent o n ∧ b.colonIndent o n = b'.colonIndent o n := by
  have habove := h.alikeAbove n
  rcases h.line?_cases n with ⟨hl, hl'⟩ | ⟨l, l', hl, hl', hsame⟩
  · constructor
    · simp only [braceIndent, hl, hl']
    · have hcolon : ∀ c : Buffer, c.line? n = none → c.colonIndent o n = c.colonIndentBelow o n := by
        intro c hc
        simp only [colonIndent, hc, Option.filter_none]
        rfl
      rw [hcolon b hl, hcolon b' hl', colonWidth_congr habove o]
  · have halike := hsame.alike
    constructor
    · rw [braceIndent_eq hl, braceIndent_eq hl', isMacroLine_congr_inside habove hl hl' halike.inside,
        braceWidth_congr habove hl hl' o halike.inside, halike.startsQuoted, halike.indent]
    · rw [colonIndent_eq hl, colonIndent_eq hl', colonWidth_congr habove o, halike.startsQuoted,
        halike.indent]

/-- A brace in a comment and one in a string may be any other mute characters. -/
theorem indent_eq_of_braces :
    let b := Buffer.ofText ['(', '"', '}', '"', ')', '/', '/', '{', '\n', '+'] (.ofLanguage .c)
    let b' := Buffer.ofText ['(', '"', 'x', '"', ')', '/', '/', '(', '\n', '+'] (.ofLanguage .c)
    b.SameCode b' ∧ b.text ≠ b'.text ∧
      b.braceIndent {} 2 = b'.braceIndent {} 2 ∧ b.colonIndent {} 2 = b'.colonIndent {} 2 := by
  intro b b'
  have h : b.SameCode b' := by
    have hlines : List.Forall₂ Line.SameCode b.lines b'.lines := by decide +kernel
    exact hlines
  exact ⟨h, by decide +kernel, h.indent_eq {} 2⟩

end Buffer

end SourceEditor
