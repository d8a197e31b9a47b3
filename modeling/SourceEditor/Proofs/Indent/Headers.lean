/-
  SourceEditor/Proofs/Indent/Headers.lean
  =======================================
  **Headers without braces, and the line behind their body.**  When the single statement in a chain
  of headers has ended, all of them have: the next line goes back to the outermost header.  No line
  is an exception, not even one that begins with `else`: it is put under the outermost header of the
  chain, and that is its own `if` only where the chain has no more than one.
-/
import Mathlib.Data.List.TakeWhile
import SourceEditor.Proofs.Document.Reindent
import SourceEditor.Proofs.Indent.Continuation
import SourceEditor.Proofs.Indent.Expected

namespace SourceEditor

/-! ### The first character of code -/

namespace Text

theorem head?_trimEnd {c : Char} {t : Text} (hc : isWhitespace c = false) :
    (trimEnd (c :: t)).head? = some c := by
  unfold trimEnd trimStart
  rw [List.reverse_cons, List.dropWhile_append]
  split
  · simp [hc]
  · simp

theorem head?_trim (t : Text) : t.trim.head? = t.find? fun c => !isWhitespace c := by
  have hstart : t.trimStart.head? = t.find? fun c => !isWhitespace c :=
    (t.find?_not_eq_head?_dropWhile isWhitespace).symm
  rw [← hstart]
  unfold trim
  rcases hcode : t.trimStart with _ | ⟨c, rest⟩
  · rfl
  · rw [hcode, List.head?_cons] at hstart
    have hc : isWhitespace c = false := by simpa using List.find?_some hstart.symm
    rw [head?_trimEnd hc, List.head?_cons]

theorem head?_of_firstWord {t : Text} {c : Char} {word : Text} (h : t.firstWord = c :: word) :
    t.head? = some c := by
  unfold firstWord at h
  cases t with
  | nil => cases h
  | cons d t =>
    by_cases hd : isWordChar d = true
    · rw [List.takeWhile_cons_of_pos hd] at h
      rw [List.head?_cons, (List.cons.inj h).1]
    · rw [List.takeWhile_cons_of_neg hd] at h
      cases h

end Text

namespace Line

variable {l : Line}

/-- The code of a line begins with its first character of code that is no white space. -/
theorem head?_codeText (l : Line) : l.codeText.head? = l.firstCodeChar.map Prod.snd := by
  let masked (x : Nat × Char) : Char := if l.isQuoted x.1 then ' ' else x.2
  have hmasked : ∀ x, (!isWhitespace (masked x)) =
      decide ((!l.isQuoted x.1) = true ∧ (!isWhitespace x.2) = true) := by
    intro x
    by_cases hquoted : l.isQuoted x.1 = true
    · simp only [masked, hquoted, if_true]
      rfl
    · simp [masked, hquoted]
  have hcode : l.codeText.head? =
      (l.columns.find? fun x => !isWhitespace (masked x)).map masked := by
    unfold codeText
    rw [Text.head?_trim]
    exact List.find?_map
  unfold firstCodeChar codeChars
  rw [hcode, List.find?_filter]
  simp only [hmasked]
  apply Option.map_congr
  intro x hx
  have hcodeChar := List.find?_some hx
  simp only [decide_eq_true_eq, Bool.not_eq_true'] at hcodeChar
  exact if_neg (by simp [hcodeChar.1])

/-! ### Lines of a chain -/

/-- Whether a line begins outside quotes, is no directive, and closes the parentheses and brackets
that it opens and no others. -/
structure IsWhole (l : Line) : Prop where
  normal : l.stateIn = .normal
  directive : l.isDirective = false
  balanced : Text.IsBalanced (l.codeChars.map Prod.snd)

/-- Whether a line is a header without braces: it begins with a word and ends with the parenthesis
of its condition. -/
structure IsHeader (l : Line) (word : Text) : Prop extends IsWhole l where
  word : l.codeText.firstWord = word
  last : l.lastCodeChar.map Prod.snd = some ')'

/-- Whether a line ends a statement that it holds as a whole. -/
structure IsStatement (l : Line) : Prop extends IsWhole l where
  last : l.lastCodeChar.map Prod.snd = some ';'

/-- Whether the code of a line begins with the word `else`. -/
structure IsElse (l : Line) : Prop where
  normal : l.stateIn = .normal
  directive : l.isDirective = false
  word : l.codeText.firstWord = "else".toList

theorem startsQuoted_of_stateIn (h : l.stateIn = .normal) : l.startsQuoted = false := by
  rw [startsQuoted, h]
  rfl

theorem IsElse.map_snd_firstCodeChar (h : l.IsElse) :
    l.firstCodeChar.map Prod.snd = some 'e' := by
  rw [← head?_codeText]
  exact Text.head?_of_firstWord h.word

/-- Nothing about such a line makes it stand in the block around it. -/
theorem IsElse.not_label (h : l.IsElse) : l.isCaseLabel = false ∧ l.isAccessSpecifier = false := by
  have hhead : l.codeText.head? = some 'e' := Text.head?_of_firstWord h.word
  obtain ⟨rest, hcode⟩ := List.head?_eq_some_iff.mp hhead
  constructor
  · simp only [isCaseLabel, h.word]
    rfl
  · simp only [isAccessSpecifier, hcode]
    rfl

theorem exists_lastCodeChar {c : Char} (h : l.lastCodeChar.map Prod.snd = some c) :
    ∃ col, l.lastCodeChar = some (col, c) := by
  obtain ⟨⟨col, d⟩, hlast, rfl⟩ := Option.map_eq_some_iff.mp h
  exact ⟨col, hlast⟩

end Line

namespace Buffer

variable {b : Buffer} {o : Options} {n : Nat} {l : Line}

theorem isMacroLine_succ (hfree : b.isMacroLine n = false) (hl : b.line? (n + 1) = some l)
    (hdirective : l.isDirective = false) : b.isMacroLine (n + 1) = false := by
  simp [isMacroLine, hl, hdirective, hfree]

theorem statementStart_of_isWhole (hl : b.line? n = some l) (h : l.IsWhole) (col : Nat) :
    b.statementStart n col = n := by
  rw [statementStart, hl]
  dsimp only
  rw [l.unmatchedCloser_of_nesting h.balanced]

/-- A line that counts stands right above the next one. -/
theorem significantAbove_of_lastCodeChar {c : Char} (hl : b.line? n = some l) (h : l.IsWhole)
    (hfree : b.isMacroLine n = false) (hlast : l.lastCodeChar.map Prod.snd = some c) :
    b.significantAbove (n + 1) = some n := by
  obtain ⟨col, hlast⟩ := l.exists_lastCodeChar hlast
  have hwhite : isWhitespace c = false := by simpa using List.find?_some hlast
  have hmem : (⟨⟨n, col⟩, c⟩ : Point × Char) ∈ b.codeOn n := by
    rw [codeOn_eq hl]
    exact List.mem_map.mpr ⟨(col, c), List.mem_reverse.mp (List.mem_of_find?_eq_some hlast), rfl⟩
  have hsignificant := isSignificant_of_mem_codeOn hl hmem hwhite h.normal hfree
  rw [significantAbove, nearestBelow, if_pos hsignificant]

/-- No parenthesis is open behind a line that closes what it opens, if none was in front of it. -/
theorem openAbove_of_isWhole (hl : b.line? n = some l) (h : l.IsWhole)
    (hopen : b.openAbove .parensInBlock 0 (n - 1) = none) :
    b.openAbove .parensInBlock 0 n = none := by
  have hle := le_lineCount_of_line? hl
  obtain ⟨hne, _⟩ := line?_eq_some_iff.mp hl
  obtain ⟨n, rfl⟩ := Nat.exists_eq_succ_of_ne_zero hne
  have hnesting : Text.nesting 0 ((b.codeOn (n + 1)).map Prod.snd) = some 0 := by
    rw [codeOn_eq hl, List.map_map]
    exact h.balanced
  rw [openAbove_eq_find (by omega)] at hopen ⊢
  rw [codeTo, List.reverse_append, Brackets.find_parensInBlock hnesting]
  split
  · rfl
  · exact hopen

theorem contains_headerWords {t word : Text} (hword : word ∈ bodyWords) (h : t.firstWord = word) :
    headerWords.contains (Text.trimStart (t.dropWhile (· == '}'))).firstWord = true := by
  have hsame : ∀ c, t.head? = some c → c ≠ '}' → isWhitespace c = false →
      Text.trimStart (t.dropWhile (· == '}')) = t := by
    intro c hhead hbrace hwhite
    obtain ⟨rest, rfl⟩ := List.head?_eq_some_iff.mp hhead
    rw [List.dropWhile_cons_of_neg (by simpa using hbrace)]
    exact Text.trimStart_of_head hhead hwhite
  rcases eq_of_mem_bodyWords hword with rfl | rfl | rfl
  all_goals
    rw [hsame _ (Text.head?_of_firstWord h) (by decide) (by decide), h]
    rfl

theorem isOpenHeader_of_isHeader {word : Text} (hword : word ∈ bodyWords)
    (hl : b.line? n = some l) (h : l.IsHeader word) : b.isOpenHeader n = true := by
  obtain ⟨col, hlast⟩ := l.exists_lastCodeChar h.last
  have hstart := statementStart_of_isWhole hl h.toIsWhole l.length
  unfold isOpenHeader
  rw [hl]
  dsimp only
  rw [hlast]
  dsimp only
  rw [if_neg (by decide), hstart, hl]
  exact contains_headerWords hword h.word

theorem isOpenHeader_of_isStatement (hl : b.line? n = some l) (h : l.IsStatement) :
    b.isOpenHeader n = false := by
  obtain ⟨col, hlast⟩ := l.exists_lastCodeChar h.last
  unfold isOpenHeader
  rw [hl]
  dsimp only
  rw [hlast]
  rfl

/-! ### Where a statement leads back to -/

/-- Whether the statement that begins on a line ends headers without braces up to the one that
begins on line `r`; where it stands in no such header, this is its own line. -/
inductive Closes (b : Buffer) : Nat → Nat → Prop where
  | alone {n : Nat} : (∀ i, b.significantAbove n = some i → b.isOpenHeader i = false) → Closes b n n
  | header {n i r : Nat} {l : Line} : b.significantAbove n = some i → b.isOpenHeader i = true →
      b.line? i = some l → Closes b (b.statementStart i l.length) r → Closes b n r

theorem Closes.closedWidth {r : Nat} (h : b.Closes n r) (o : Options) :
    b.closedWidth o n = b.widthAt o r := by
  induction h with
  | alone hnone =>
    rw [Buffer.closedWidth]
    split
    · rfl
    · rename_i i hi
      rw [hnone i hi]
      rfl
  | header hi hheader hl _ ih =>
    rw [Buffer.closedWidth]
    split
    · rename_i hnone
      cases hi.symm.trans hnone
    · rename_i j hj
      obtain rfl := Option.some.inj (hi.symm.trans hj)
      rw [hheader, if_pos rfl, hl]
      exact ih

theorem exists_closes (b : Buffer) (n : Nat) : ∃ r, b.Closes n r ∧ r ≤ n := by
  induction n using Nat.strongRecOn with
  | _ n ih =>
    by_cases hheader : ∃ i, b.significantAbove n = some i ∧ b.isOpenHeader i = true
    · obtain ⟨i, hi, hheader⟩ := hheader
      obtain ⟨l, hl⟩ := exists_line?_of_significantAbove hi
      have hlt := significantAbove_lt hi
      have hle := b.statementStart_le i l.length
      obtain ⟨r, hr, hler⟩ := ih (b.statementStart i l.length) (by omega)
      exact ⟨r, .header hi hheader hl hr, by omega⟩
    · refine ⟨n, .alone ?_, Nat.le_refl n⟩
      intro i hi
      exact Bool.eq_false_iff.mpr fun htrue => hheader ⟨i, hi, htrue⟩

theorem Closes.eq_of_alone {r : Nat} (h : b.Closes n r)
    (hnone : ∀ i, b.significantAbove n = some i → b.isOpenHeader i = false) : r = n := by
  cases h with
  | alone _ => rfl
  | header hi hheader _ _ =>
    rw [hnone _ hi] at hheader
    cases hheader

/-! ### Down a chain -/

/-- Whether a line stands outside macros and open parentheses, and a statement that begins on it
ends headers without braces up to the one of width `width`. -/
structure Continues (b : Buffer) (o : Options) (n : Nat) (width : UInt64) : Prop where
  free : b.isMacroLine n = false
  parens : b.openAbove .parensInBlock 0 (n - 1) = none
  closed : b.closedWidth o n = width

theorem Continues.header {width : UInt64} {word : Text} {l' : Line} (h : b.Continues o n width)
    (hl : b.line? n = some l) (hheader : l.IsHeader word) (hword : word ∈ bodyWords)
    (hl' : b.line? (n + 1) = some l') (hdirective : l'.isDirective = false) :
    b.Continues o (n + 1) width where
  free := isMacroLine_succ h.free hl' hdirective
  parens := openAbove_of_isWhole hl hheader.toIsWhole h.parens
  closed := by
    have habove := significantAbove_of_lastCodeChar hl hheader.toIsWhole h.free hheader.last
    rw [closedWidth]
    split
    · rename_i hnone
      cases habove.symm.trans hnone
    · rename_i i hi
      obtain rfl := Option.some.inj (habove.symm.trans hi)
      rw [isOpenHeader_of_isHeader hword hl hheader, if_pos rfl,
        statementStart_of_isWhole hl hheader.toIsWhole, h.closed]

/-- Behind the statement of a chain the line gets the width up to which the statement closes. -/
theorem Continues.computeIndent {width : UInt64} {l' : Line} (h : b.Continues o n width)
    (style : b.profile.indent = .braces) (hl : b.line? n = some l) (hstatement : l.IsStatement)
    (hl' : b.line? (n + 1) = some l') (helse : l'.IsElse) :
    b.computeIndent o (n + 1) = .ok (o.makeIndent width) := by
  have hwhole := hstatement.toIsWhole
  have hfree := isMacroLine_succ h.free hl' helse.directive
  have habove := significantAbove_of_lastCodeChar hl hwhole h.free hstatement.last
  have hopen := openAbove_of_isWhole hl hwhole h.parens
  have hcontinuation : b.continuationWidth o (n + 1) = none := by
    rw [continuationWidth, unmatchedOpen_lineStart hl', Nat.add_sub_cancel, hopen]
    rfl
  obtain ⟨col, hlast⟩ := l.exists_lastCodeChar hstatement.last
  obtain ⟨hlabel, hspecifier⟩ := helse.not_label
  have hfirst := helse.map_snd_firstCodeChar
  have hblock := blockWidth_eq_none hl' (by rw [hfirst]; decide) hlabel hspecifier o
  have hbelow : b.widthFromAbove o (n + 1) l' = width := by
    rw [widthFromAbove_of_ne_brace habove hl hlast (by decide) hcontinuation
      (by rw [hfirst]; decide), isOpenHeader_of_isStatement hl hstatement, if_neg (by decide),
      widthAfter]
    simp only [hlast]
    rw [statementStart_of_isWhole hl hwhole, h.closed]
    rfl
  rw [computeIndent_of_braces style hl' hfree (l'.startsQuoted_of_stateIn helse.normal) o,
    braceWidth, hblock, hbelow]
  rfl

/-- Whether `k` headers without braces stand on the lines from `m` on, each one level deeper than
the one before and the last one an `if`, and below them the statement that is their body. -/
structure IsChain (b : Buffer) (o : Options) (m k : Nat) : Prop where
  header : ∀ i < k, ∃ l word, b.line? (m + i) = some l ∧ word ∈ bodyWords ∧ l.IsHeader word ∧
    (i + 1 = k → word = "if".toList)
  statement : ∃ l, b.line? (m + k) = some l ∧ l.IsStatement
  width : ∀ i ≤ k,
    (b.widthAt o (m + i)).toNat = (b.widthAt o m).toNat + i * o.shiftWidth.toNat

theorem IsChain.exists_line? {m k i : Nat} (h : b.IsChain o m k) (hi : i ≤ k) :
    ∃ l, b.line? (m + i) = some l ∧ l.isDirective = false := by
  rcases Nat.lt_or_eq_of_le hi with hlt | rfl
  · obtain ⟨l, word, hl, _, hheader, _⟩ := h.header i hlt
    exact ⟨l, hl, hheader.directive⟩
  · obtain ⟨l, hl, hstatement⟩ := h.statement
    exact ⟨l, hl, hstatement.directive⟩

theorem IsChain.continues {m k i : Nat} {width : UInt64} (h : b.IsChain o m k)
    (htop : b.Continues o m width) (hi : i ≤ k) : b.Continues o (m + i) width := by
  induction i with
  | zero => exact htop
  | succ i ih =>
    obtain ⟨l, word, hl, hword, hheader, _⟩ := h.header i hi
    obtain ⟨l', hl', hdirective⟩ := h.exists_line? hi
    exact (ih (Nat.le_of_succ_le hi)).header hl hheader hword hl' hdirective

/-- **Behind the body of headers without braces** a line that begins with `else` goes back to the
outermost header: the first one of the chain, or where the chain is the body of further headers, the
outermost of those.  Where the chain stands alone, this is the `if` above the body just if the chain
has no other header. -/
theorem computeIndent_else {m k : Nat} (hcpp : b.profile = .ofLanguage .cpp)
    (valid : o.validate = .ok ()) (chain : b.IsChain o m k) (nonempty : 1 ≤ k)
    (free : b.isMacroLine m = false) (parens : b.unmatchedOpen .parensInBlock ⟨m, 0⟩ = none)
    (line : b.line? (m + k + 1) = some l) (word : l.IsElse) :
    ∃ r t, b.Closes m r ∧ b.computeIndent o (m + k + 1) = .ok t ∧
      o.indentWidth t = b.widthAt o r ∧
      ((∀ i, b.significantAbove m = some i → b.isOpenHeader i = false) →
        r = m ∧ (o.indentWidth t = b.widthAt o (m + (k - 1)) ↔ k = 1)) := by
  have style : b.profile.indent = .braces := by
    rw [hcpp]
    rfl
  have hshift : 0 < o.shiftWidth.toNat := by
    unfold Options.validate at valid
    split at valid
    · cases valid
    · split at valid
      · cases valid
      · rename_i hshift
        exact Nat.pos_of_ne_zero fun hzero => hshift (UInt64.toNat_inj.mp hzero)
  obtain ⟨r, hr, _⟩ := b.exists_closes m
  obtain ⟨first, hfirst, _⟩ := chain.exists_line? (Nat.zero_le k)
  have hfirst : b.line? m = some first := hfirst
  rw [unmatchedOpen_lineStart hfirst] at parens
  have htop : b.Continues o m (b.widthAt o r) := ⟨free, parens, hr.closedWidth o⟩
  obtain ⟨l', hl', hstatement⟩ := chain.statement
  have hbody := chain.continues htop (Nat.le_refl k)
  have hindent := hbody.computeIndent style hl' hstatement line word
  refine ⟨r, _, hr, hindent, by simp, ?_⟩
  intro hnone
  obtain rfl := hr.eq_of_alone hnone
  refine ⟨rfl, ?_⟩
  rw [Options.indentWidth_makeIndent, ← UInt64.toNat_inj, chain.width (k - 1) (Nat.sub_le k 1)]
  constructor
  · intro heq
    have hzero : (k - 1) * o.shiftWidth.toNat = 0 := by omega
    rcases Nat.mul_eq_zero.mp hzero with hk | hs
    · omega
    · omega
  · rintro rfl
    simp

end Buffer

/-! ### A chain of two headers -/

namespace Text

theorem isTight_iff (t : Text) :
    t.IsTight ↔ t.head?.any (fun c => !isWhitespace c) = true ∧
      t.getLast?.any (fun c => !isWhitespace c) = true := by
  simp only [Option.any_eq_true, Bool.not_eq_true']
  constructor
  · rintro ⟨hhead, hlast⟩
    exact ⟨hhead, hlast⟩
  · rintro ⟨hhead, hlast⟩
    exact ⟨hhead, hlast⟩

instance (t : Text) : Decidable t.IsTight := decidable_of_iff' _ t.isTight_iff

theorem isCode_iff (t : Text) :
    t.IsCode ↔ t.IsTight ∧ t.IsBalanced ∧ '#' ∉ t ∧ '\\' ∉ t := by
  constructor
  · rintro ⟨htight, hbalanced, hhash, hbackslash⟩
    exact ⟨htight, hbalanced, hhash, hbackslash⟩
  · rintro ⟨htight, hbalanced, hhash, hbackslash⟩
    exact ⟨htight, hbalanced, hhash, hbackslash⟩

instance (t : Text) : Decidable t.IsCode := decidable_of_iff' _ t.isCode_iff

end Text

namespace Line.IsCode

variable {l : Line} {t : Text}

theorem isWhole (h : l.IsCode t) : l.IsWhole where
  normal := by simpa [startsQuoted] using h.plain.startsQuoted
  directive := h.isDirective
  balanced := h.nesting

theorem isHeader (h : l.IsCode t) (hlast : t.getLast? = some ')') : l.IsHeader t.firstWord where
  toIsWhole := h.isWhole
  word := by rw [h.codeText]
  last := by rw [h.map_snd_lastCodeChar, hlast]

theorem isStatement (h : l.IsCode t) (hlast : t.getLast? = some ';') : l.IsStatement where
  toIsWhole := h.isWhole
  last := by rw [h.map_snd_lastCodeChar, hlast]

theorem isElse (h : l.IsCode t) (hword : t.firstWord = "else".toList) : l.IsElse where
  normal := h.isWhole.normal
  directive := h.isDirective
  word := by rw [h.codeText, hword]

end Line.IsCode

namespace Buffer

/-- Where every line is code without a quote, the buffer has read it so. -/
theorem Reachable.exists_isCode {b : Buffer} (reached : b.Reachable)
    (bare : b.profile.lexicon.StartsBare) (hcode : ∀ t ∈ b.texts, t.body.IsCode)
    (hquotes : ∀ t ∈ b.texts, ∀ q ∈ b.profile.lexicon.quotes, ¬q.start <:+: t.body) {n : Nat}
    {t : Text} (ht : b.texts[n]? = some t) :
    ∃ l, b.line? (n + 1) = some l ∧ l.text = t ∧ l.IsCode t.body := by
  have hplain : ∀ l ∈ b.lines, l.IsPlain := by
    apply Line.isPlain_of_annotated bare reached.isAnnotated
    intro l hl
    exact Lexicon.unquoted_of_not_infix (hquotes l.text (List.mem_map_of_mem hl))
  unfold texts at ht
  rw [List.getElem?_map, Option.map_eq_some_iff] at ht
  obtain ⟨l, hl, rfl⟩ := ht
  have hmem := List.mem_of_getElem? hl
  exact ⟨l, line?_eq_some_iff.mpr ⟨Nat.succ_ne_zero n, hl⟩, rfl,
    hplain l hmem, rfl, hcode l.text (List.mem_map_of_mem hmem)⟩

/-- Two headers, their body, and an `else` for the inner one. -/
def danglingElse : Buffer :=
  .ofText "if (a)\n    if (b)\n        x();\n    else".toList (.ofLanguage .cpp)

theorem exists_danglingElse_line {n : Nat} {t : Text} (ht : danglingElse.texts[n]? = some t) :
    ∃ l, danglingElse.line? (n + 1) = some l ∧ l.text = t ∧ l.IsCode t.body := by
  have reached : danglingElse.Reachable := .ofText _ _
  apply reached.exists_isCode _ _ _ ht
  · exact Profile.startsBare_ofLanguage .cpp
  · decide +kernel
  · decide +kernel

theorem danglingElse_isChain : danglingElse.IsChain {} 1 2 where
  header := by
    intro i hi
    have hcases : i = 0 ∨ i = 1 := by omega
    rcases hcases with rfl | rfl
    · obtain ⟨l, hl, _, hcode⟩ := exists_danglingElse_line (n := 0) (t := "if (a)".toList) rfl
      exact ⟨l, _, hl, by decide, hcode.isHeader rfl, by decide⟩
    · obtain ⟨l, hl, _, hcode⟩ := exists_danglingElse_line (n := 1) (t := "    if (b)".toList) rfl
      exact ⟨l, _, hl, by decide, hcode.isHeader rfl, by decide⟩
  statement := by
    obtain ⟨l, hl, _, hcode⟩ := exists_danglingElse_line (n := 2) (t := "        x();".toList) rfl
    exact ⟨l, hl, hcode.isStatement rfl⟩
  width := by decide +kernel

theorem exists_danglingElse_else : ∃ l, danglingElse.line? 4 = some l ∧ l.IsElse := by
  obtain ⟨l, hl, _, hcode⟩ := exists_danglingElse_line (n := 3) (t := "    else".toList) rfl
  exact ⟨l, hl, hcode.isElse rfl⟩

/-- The `else` of the inner header goes to the outer one. -/
theorem computeIndent_else_of_two_headers :
    danglingElse.IsChain {} 1 2 ∧ ∃ l, danglingElse.line? 4 = some l ∧ l.IsElse ∧
      ∃ t, danglingElse.computeIndent {} 4 = .ok t ∧
        ({} : Options).indentWidth t = danglingElse.widthAt {} 1 := by
  obtain ⟨l, hl, helse⟩ := exists_danglingElse_else
  have hparens : danglingElse.unmatchedOpen .parensInBlock ⟨1, 0⟩ = none := by
    obtain ⟨m, hm, _⟩ := danglingElse_isChain.exists_line? (Nat.zero_le 2)
    exact unmatchedOpen_lineStart (n := 1) hm .parensInBlock
  obtain ⟨r, t, _, ht, hwidth, halone⟩ := computeIndent_else rfl rfl danglingElse_isChain
    (by decide) (by decide +kernel) hparens hl helse
  obtain ⟨rfl, _⟩ := halone fun i hi => by
    rw [significantAbove_one] at hi
    cases hi
  exact ⟨danglingElse_isChain, l, hl, helse, t, ht, hwidth⟩

/-- An `else` that does not go under the `if` above its body: that one stands four columns in. -/
theorem exists_else_not_under_if :
    danglingElse.profile = .ofLanguage .cpp ∧ danglingElse.IsChain {} 1 2 ∧
      (∃ l, danglingElse.line? 4 = some l ∧ l.IsElse) ∧
      ∀ t, danglingElse.computeIndent {} 4 = .ok t →
        ({} : Options).indentWidth t ≠ danglingElse.widthAt {} 2 := by
  refine ⟨rfl, danglingElse_isChain, exists_danglingElse_else, ?_⟩
  intro t ht
  have hclosed : danglingElse.closedWidth {} 1 = danglingElse.widthAt {} 1 :=
    (Closes.alone fun i hi => by
      rw [significantAbove_one] at hi
      cases hi).closedWidth {}
  have htop : danglingElse.Continues {} 1 (danglingElse.widthAt {} 1) :=
    ⟨by decide +kernel, rfl, hclosed⟩
  obtain ⟨m, hm, hstatement⟩ := danglingElse_isChain.statement
  obtain ⟨l, hl, helse⟩ := exists_danglingElse_else
  have hindent := (danglingElse_isChain.continues htop (Nat.le_refl 2)).computeIndent rfl hm
    hstatement hl helse
  obtain rfl := Except.ok.inj (hindent.symm.trans ht)
  rw [Options.indentWidth_makeIndent]
  decide +kernel

end Buffer

end SourceEditor
