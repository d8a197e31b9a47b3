/-
  SourceEditor/Proofs/Indent/Macros.lean
  ======================================
  **Preprocessor lines and their continuations.**  Whether a line belongs to a macro is told from
  the texts of the lines above it: each ends with a backslash, up to one that begins with `#`.  The
  scan tells it from the state that it carries into the line.  The two agree as long as no line
  between has the backslash at its end escaped, its `#` behind code, or a `#` at its start inside a
  string.
-/
import SourceEditor.Proofs.Indent.Plain
import SourceEditor.Proofs.Lexis.Tokens

namespace SourceEditor

/-! ### Backslashes at the end -/

namespace Text

/-- The number of backslashes at the end of a text. -/
def trailingBackslashes (t : Text) : Nat := (t.reverse.takeWhile (· == '\\')).length

theorem trailingBackslashes_le_length (t : Text) : t.trailingBackslashes ≤ t.length := by
  have hlength := (List.takeWhile_prefix (· == '\\') (l := t.reverse)).length_le
  rwa [List.length_reverse] at hlength

theorem trailingBackslashes_cons (c : Char) (t : Text) :
    trailingBackslashes (c :: t) =
      if t.trailingBackslashes = t.length ∧ c = '\\' then t.length + 1
      else t.trailingBackslashes := by
  unfold trailingBackslashes
  rw [List.reverse_cons, List.takeWhile_append, List.length_reverse]
  by_cases hall : (t.reverse.takeWhile (· == '\\')).length = t.length
  · by_cases hc : c = '\\'
    · simp [hall, hc]
    · simp [hall, hc]
  · simp [hall]

theorem trailingBackslashes_char {c : Char} (hc : c ≠ '\\') (t : Text) :
    trailingBackslashes (c :: t) = t.trailingBackslashes := by
  rw [trailingBackslashes_cons, if_neg fun h => hc h.2]

theorem trailingBackslashes_escape (c : Char) (t : Text) :
    trailingBackslashes ('\\' :: c :: t) % 2 = t.trailingBackslashes % 2 := by
  have hle := trailingBackslashes_le_length t
  rw [trailingBackslashes_cons, trailingBackslashes_cons c t, List.length_cons]
  by_cases hall : t.trailingBackslashes = t.length ∧ c = '\\'
  · rw [if_pos hall, if_pos ⟨rfl, rfl⟩, hall.1]
    omega
  · rw [if_neg hall, if_neg (by omega)]

theorem trailingBackslashes_append {c : Char} (hc : c ≠ '\\') (s t : Text) :
    trailingBackslashes (s ++ c :: t) = t.trailingBackslashes := by
  induction s with
  | nil => exact trailingBackslashes_char hc t
  | cons d s ih =>
    have hle := trailingBackslashes_le_length t
    rw [List.cons_append, trailingBackslashes_cons, ih, if_neg]
    simp only [List.length_append, List.length_cons]
    omega

/-- The last of an odd number of backslashes at the end of a text is not escaped. -/
theorem exists_reads_last {t : Text} (h : t.trailingBackslashes % 2 = 1) :
    ∃ j, t.Reads j ∧ t[j]? = some '\\' ∧ j + 1 = t.length := by
  -- the cases are those of reading: the end, a backslash at the end, an escape, another character
  fun_induction QuoteRule.findOnLine [] 0 t with
  | case1 => cases h
  | case2 => exact ⟨0, .start _, rfl, rfl⟩
  | case3 n d rest ih =>
    rw [trailingBackslashes_escape] at h
    obtain ⟨j, hreads, hget, hlength⟩ := ih h
    exact ⟨j + 2, .escape hreads, hget, by simpa using hlength⟩
  | case4 n c rest hlast hescape hstarts => cases hstarts
  | case5 n c rest hlast hescape hstarts ih =>
    have hc := QuoteRule.ne_backslash_of_cases hlast hescape
    rw [trailingBackslashes_char hc] at h
    obtain ⟨j, hreads, hget, hlength⟩ := ih h
    exact ⟨j + 1, .char hc hreads, hget, by simpa using hlength⟩

theorem head?_of_startsWith {c : Char} {t marker : Text}
    (h : startsWith (c :: t) marker = true) : marker.head? = some c := by
  obtain ⟨hne, hprefix⟩ := startsWith_iff.mp h
  cases marker with
  | nil => exact absurd rfl hne
  | cons d rest =>
    obtain ⟨rfl, _⟩ := List.cons_prefix_cons.mp hprefix
    rfl

end Text

/-! ### The preprocessor rule -/

namespace Language

/-- The state that carries a preprocessor line on, in the tables of C and C++. -/
def preprocessorState : ScanState := .quote (c.quotes.idxOf preprocessorQuote)

theorem head_markers_c : ∀ q ∈ c.quotes,
    q.start.head?.any isWhitespace = false ∧ q.stop.head?.any isWhitespace = false := by
  decide

theorem eq_preprocessorQuote :
    ∀ q ∈ c.quotes, q.start.head? = some '#' → q = preprocessorQuote := by
  decide

end Language

open SourceEditor.Language

theorem ends_preprocessorQuote {t : Text} (h : t.trailingBackslashes % 2 = 1) :
    preprocessorQuote.Ends t (.unclosed true) := by
  apply QuoteRule.Ends.unclosed
  · rintro j ⟨hstarts, _⟩
    cases hstarts
  · simp only [true_iff]
    exact fun _ => Text.exists_reads_last h

namespace Lexicon

variable {lex : Lexicon} {state : ScanState} {t : Text}

section C

variable (hquotes : lex.quotes = c.quotes)

include hquotes

theorem isRegular_of_quotes_c : lex.IsRegular := by
  apply (isRegular_lexicon .c).of_perm
  rw [hquotes]
  exact .refl _

theorem startsLongest_hash (t : Text) : lex.StartsLongest ('#' :: t) 4 preprocessorQuote := by
  constructor
  · rw [hquotes]
    rfl
  · simp [Text.startsWith, preprocessorQuote, lineQuote]
  · intro q hq hstarts
    rw [hquotes] at hq
    obtain rfl := eq_preprocessorQuote q hq (Text.head?_of_startsWith hstarts)
    exact Nat.le_refl _

/-- What may begin in the white space in front of a `#`, or at the `#` itself. -/
theorem Begins.in_front {x : Span} {w u : Text} (hx : lex.Begins state (w ++ '#' :: u) x)
    (huncarried : ¬lex.Carries state) (hw : ∀ d ∈ w, isWhitespace d = true)
    (hoffset : x.offset ≤ w.length) :
    x.kind ≠ .comment ∧ (x.offset < w.length → x.stop ≤ w.length) := by
  have hdrop : (w ++ '#' :: u).drop x.offset = w.drop x.offset ++ '#' :: u :=
    List.drop_append_of_le_length hoffset
  have hlength : (w.drop x.offset).length = w.length - x.offset := List.length_drop
  cases hx with
  | @quote i rule body e starts ends stop kind =>
    have hrule := List.mem_of_getElem? starts.registered
    have hstarts := (starts.longest huncarried).starts
    rw [hquotes] at hrule
    rw [hdrop] at hstarts
    rcases hfront : w.drop x.offset with _ | ⟨d, rest⟩
    · rw [hfront] at hstarts hlength
      rw [List.nil_append] at hstarts
      rw [eq_preprocessorQuote rule hrule (Text.head?_of_startsWith hstarts)] at kind
      refine ⟨by rw [kind]; decide, ?_⟩
      simp only [List.length_nil] at hlength
      omega
    · -- no marker begins with white space
      rw [hfront, List.cons_append] at hstarts
      have hd : d ∈ w := by
        apply List.mem_of_mem_drop (i := x.offset)
        rw [hfront]
        exact List.mem_cons_self
      have hbare := (head_markers_c rule hrule).1
      rw [Text.head?_of_startsWith hstarts, Option.any_some, hw d hd] at hbare
      cases hbare
  | number plain head digit length kind =>
    have hhash : ∀ d ∈ ('#' :: u).head?, isNumberChar d = false := by
      rintro d ⟨⟩
      decide
    have hle := Text.length_takeWhile_append_le (t := w.drop x.offset) hhash
    rw [hdrop] at length
    refine ⟨by rw [kind]; decide, ?_⟩
    simp only [Span.stop]
    omega
  | word plain head letter run length kind =>
    have hhash : ∀ d ∈ ('#' :: u).head?, isWordChar d = false := by
      rintro d ⟨⟩
      decide
    have hle := Text.length_takeWhile_append_le (t := w.drop x.offset) hhash
    rw [hdrop] at run
    subst run
    refine ⟨by rw [kind]; split <;> decide, ?_⟩
    simp only [Span.stop]
    omega

theorem Describes.isFree_hash {s : Scan} {w u : Text}
    (h : lex.Describes state (w ++ '#' :: u) 0 s) (huncarried : ¬lex.Carries state)
    (hw : ∀ d ∈ w, isWhitespace d = true) : Span.IsFree s.spans w.length := by
  rintro x hx ⟨hlt, hstop⟩
  have hfront := (h.begins_of_mem hx).in_front hquotes huncarried hw (Nat.le_of_lt hlt)
  exact absurd hstop (Nat.not_lt.mpr (hfront.2 hlt))

theorem Describes.stateOut_of_hash {s : Scan} {w u : Text}
    (h : lex.Describes state (w ++ '#' :: u) 0 s) (huncarried : ¬lex.Carries state)
    (hw : ∀ d ∈ w, isWhitespace d = true) (hodd : u.trailingBackslashes % 2 = 1) :
    s.stateOut = preprocessorState := by
  have hdrop : (w ++ '#' :: u).drop w.length = '#' :: u := List.drop_left
  apply (h.stateOut 4).mpr
  refine ⟨preprocessorQuote, w.length, w.length + 1, Nat.zero_le _, ?_, ?_, ?_⟩
  · exact h.isFree_hash hquotes huncarried hw
  · apply QuoteAt.marker _ fun _ => huncarried
    rw [hdrop]
    exact startsLongest_hash hquotes u
  · rw [← List.drop_drop, hdrop]
    exact ends_preprocessorQuote hodd

theorem Describes.stateOut_of_carried {s : Scan} (h : lex.Describes preprocessorState t 0 s)
    (hodd : t.trailingBackslashes % 2 = 1) : s.stateOut = preprocessorState := by
  apply (h.stateOut 4).mpr
  refine ⟨preprocessorQuote, 0, 0, Nat.le_refl 0, Span.isFree_zero _, ?_,
    ends_preprocessorQuote hodd⟩
  apply QuoteAt.carried rfl
  rw [hquotes]
  rfl

/-- Behind a quote from the line above there is more than white space. -/
theorem Describes.not_carries {s : Scan} {col : Nat} (h : lex.Describes state t 0 s)
    (hfree : Span.IsFree s.spans col) (hpos : 0 < col) (hlt : col < t.length)
    (hw : ∀ d ∈ t.take col, isWhitespace d = true) : ¬lex.Carries state := by
  rintro ⟨i, rule, hstate, hrule⟩
  have hends : rule.Ends t (rule.findEnd t) := QuoteRule.ends_iff.mpr rfl
  generalize rule.findEnd t = e at hends
  have hbegins : lex.Begins state t ⟨0, e.stop 0 t.length, rule.token⟩ :=
    .quote (.carried hstate hrule) hends (Nat.zero_add _) rfl
  have hmem :=
    (h.spans _ (Nat.le_refl 0) (Nat.lt_trans hpos hlt) (Span.isFree_zero _)).mpr hbegins
  have hstop : e.stop 0 t.length ≤ col := by
    have hy := hfree _ hmem
    simp only [Span.stop] at hy
    omega
  cases hends with
  | unclosed => exact absurd hstop (Nat.not_le.mpr hlt)
  | @closed j ends first =>
    -- the end marker stands in the white space
    have hstarts := ends.1
    rcases hbehind : t.drop j with _ | ⟨d, rest⟩
    · rw [hbehind, Text.startsWith_nil] at hstarts
      cases hstarts
    · rw [hbehind] at hstarts
      have hpositive := List.length_pos_iff.mpr (Text.startsWith_iff.mp hstarts).1
      have hd : d ∈ t.take col := by
        apply List.mem_of_getElem? (i := j)
        rw [List.getElem?_take_of_lt (by simp only [QuoteEnd.stop] at hstop; omega),
          ← List.head?_drop, hbehind]
        rfl
      rw [hquotes] at hrule
      have hbare := (head_markers_c rule (List.mem_of_getElem? hrule)).2
      rw [Text.head?_of_startsWith hstarts, Option.any_some, hw d hd] at hbare
      cases hbare

end C

end Lexicon

namespace Line

variable {l : Line}

theorem exists_of_isComment {col : Nat} (h : l.isComment col = true) :
    ∃ x ∈ l.spans, x.contains col = true ∧ x.kind = .comment := by
  rw [isComment] at h
  rcases htoken : l.tokenAt col with _ | kind
  · rw [htoken] at h
    cases h
  · rw [htoken] at h
    obtain ⟨x, hx, hcontains, rfl⟩ := exists_of_tokenAt htoken
    refine ⟨x, hx, hcontains, ?_⟩
    cases hkind : x.kind with
    | comment => rfl
    | _ =>
      rw [hkind] at h
      cases h

theorem head?_of_isDirective (h : l.isDirective = true) : l.text.trimStart.head? = some '#' := by
  rw [isDirective] at h
  rcases hfirst : l.firstNonBlank with _ | col
  · rw [hfirst] at h
    cases h
  · rw [hfirst] at h
    simp only [Option.any_some, Bool.and_eq_true, beq_iff_eq] at h
    exact h.1

theorem exists_hash_of_isDirective (h : l.isDirective = true) :
    ∃ w u, l.text = w ++ '#' :: u ∧ ∀ d ∈ w, isWhitespace d = true := by
  obtain ⟨u, hu⟩ := List.head?_eq_some_iff.mp (head?_of_isDirective h)
  refine ⟨l.text.takeWhile isWhitespace, u, ?_, List.all_eq_true.mp List.all_takeWhile⟩
  rw [← hu]
  exact List.takeWhile_append_dropWhile.symm

theorem isDirective_of_hash {w u : Text} (ht : l.text = w ++ '#' :: u)
    (hw : ∀ d ∈ w, isWhitespace d = true) (hcode : ∀ col ≤ w.length, l.isComment col = false) :
    l.isDirective = true := by
  have hhash : l.text[w.length]? = some '#' := by simp [ht]
  have htrim : l.text.trimStart = '#' :: u := by
    rw [ht, Text.trimStart_append hw]
    exact Text.trimStart_of_head rfl (by decide)
  rw [isDirective]
  rcases hfirst : l.firstNonBlank with _ | col
  · have hblank := List.findIdx?_eq_none_iff.mp hfirst '#' (List.mem_of_getElem? hhash)
    cases hblank
  · obtain ⟨hlt, _, hbefore⟩ := List.findIdx?_eq_some_iff_getElem.mp hfirst
    have hle : col ≤ w.length := by
      apply Nat.le_of_not_lt
      intro hw'
      have hblank := hbefore w.length hw'
      rw [List.getElem?_eq_getElem (Nat.lt_trans hw' hlt)] at hhash
      rw [Option.some.inj hhash] at hblank
      exact hblank rfl
    simp [htrim, hcode col hle]

theorem isContinued_of_getElem? {j : Nat} (hj : l.text[j]? = some '\\')
    (hlast : j + 1 = l.text.length) :
    l.isContinued = true := by
  have hindex : l.text.length - 1 = j := by omega
  rw [isContinued, List.getLast?_eq_getElem?, hindex, hj]
  rfl

/-- Whether what the text of a line tells of macros is what the scan finds: it has no preprocessor
line behind code, no `#` at its start inside a string, and no escaped backslash at its end. -/
structure IsClear (l : Line) : Prop where
  leading : ∀ x ∈ l.spans, x.kind = .preprocessor →
    (l.text.take x.offset).all isWhitespace = true
  outside : l.isDirective = true → l.stateIn = .normal ∨ l.stateIn = preprocessorState
  unpaired : l.isDirective = true ∨ l.stateIn = preprocessorState →
    l.text.trailingBackslashes % 2 = 1

theorem isClear_iff : l.IsClear ↔
    (∀ x ∈ l.spans, x.kind = .preprocessor → (l.text.take x.offset).all isWhitespace = true) ∧
    (l.isDirective = true → l.stateIn = .normal ∨ l.stateIn = preprocessorState) ∧
    (l.isDirective = true ∨ l.stateIn = preprocessorState →
      l.text.trailingBackslashes % 2 = 1) :=
  ⟨fun ⟨leading, outside, unpaired⟩ => ⟨leading, outside, unpaired⟩,
    fun ⟨leading, outside, unpaired⟩ => ⟨leading, outside, unpaired⟩⟩

instance (l : Line) : Decidable l.IsClear := decidable_of_iff' _ l.isClear_iff

variable {lex : Lexicon} {state : ScanState}

theorem describes_of_scanned (hlex : lex.IsRegular) (hl : l = l.scanned lex state) :
    lex.Describes state l.text 0 ⟨l.spans, l.stateOut⟩ := by
  have hscan : (⟨l.spans, l.stateOut⟩ : Scan) = lex.scanLine state l.text := by
    rw [hl]
    rfl
  rw [hscan]
  exact hlex.describes_scanLine state l.text

section C

variable (hquotes : lex.quotes = c.quotes)

include hquotes

/-- A preprocessor line that begins behind white space only is a directive. -/
theorem isDirective_of_marker {col : Nat}
    (hdescribes : lex.Describes state l.text 0 ⟨l.spans, l.stateOut⟩)
    (hleading : ∀ x ∈ l.spans, x.kind = .preprocessor →
      (l.text.take x.offset).all isWhitespace = true)
    (hfree : Span.IsFree l.spans col)
    (longest : lex.StartsLongest (l.text.drop col) 4 preprocessorQuote)
    (uncarried : col = 0 → ¬lex.Carries state)
    (hends : preprocessorQuote.Ends (l.text.drop (col + 1)) (.unclosed true)) :
    l.isDirective = true := by
  obtain ⟨u, hu⟩ := (Text.startsWith_iff.mp longest.starts).2
  have hdrop : l.text.drop col = '#' :: u := hu.symm
  have hlt : col < l.text.length := by
    have hlength := congrArg List.length hdrop
    rw [List.length_drop, List.length_cons] at hlength
    omega
  have hbegins : lex.Begins state l.text ⟨col, l.text.length - col, .preprocessor⟩ :=
    .quote (.marker longest uncarried) hends (Nat.add_sub_cancel' (Nat.le_of_lt hlt)) rfl
  have hw := List.all_eq_true.mp
    (hleading _ ((hdescribes.spans _ (Nat.zero_le _) hlt hfree).mpr hbegins) rfl)
  have huncarried : ¬lex.Carries state := by
    rcases Nat.eq_zero_or_pos col with hzero | hpos
    · exact uncarried hzero
    · exact hdescribes.not_carries hquotes hfree hpos hlt hw
  have ht : l.text = l.text.take col ++ '#' :: u := by rw [← hdrop, List.take_append_drop]
  apply isDirective_of_hash ht hw
  intro i hi
  rw [← Bool.not_eq_true]
  intro hcomment
  obtain ⟨x, hx, hcontains, hkind⟩ := exists_of_isComment hcomment
  have hoffset : x.offset ≤ i := by
    simp only [Span.contains, Bool.and_eq_true, decide_eq_true_eq] at hcontains
    exact hcontains.1
  rw [ht] at hdescribes
  exact ((hdescribes.begins_of_mem hx).in_front hquotes huncarried hw (by omega)).1 hkind

variable (hl : l = l.scanned lex state)

include hl

theorem exists_open_of_stateOut (h : l.stateOut = preprocessorState) :
    ∃ col body, Span.IsFree l.spans col ∧
      lex.QuoteAt state l.text 4 preprocessorQuote col body ∧
      preprocessorQuote.Ends (l.text.drop body) (.unclosed true) := by
  have hdescribes := describes_of_scanned (Lexicon.isRegular_of_quotes_c hquotes) hl
  obtain ⟨rule, col, body, _, hfree, hquote, hends⟩ := (hdescribes.stateOut 4).mp h
  have hrule := hquote.registered
  rw [hquotes] at hrule
  obtain rfl := Option.some.inj hrule
  exact ⟨col, body, hfree, hquote, hends⟩

theorem isContinued_of_stateOut (h : l.stateOut = preprocessorState) : l.isContinued = true := by
  obtain ⟨col, body, _, _, hends⟩ := exists_open_of_stateOut hquotes hl h
  cases hends with
  | unclosed endless carries =>
    obtain ⟨j, _, hget, hlength⟩ := carries.mp rfl rfl
    rw [List.getElem?_drop] at hget
    rw [List.length_drop] at hlength
    exact isContinued_of_getElem? hget (by omega)

/-- A clear line hands a preprocessor line on if one begins on it or is carried into it. -/
theorem stateOut_eq_iff (hclear : l.IsClear) :
    l.stateOut = preprocessorState ↔ l.isDirective = true ∨ l.stateIn = preprocessorState := by
  have hdescribes := describes_of_scanned (Lexicon.isRegular_of_quotes_c hquotes) hl
  have hstate : l.stateIn = state := by
    rw [hl]
    rfl
  constructor
  · intro h
    obtain ⟨col, body, hfree, hquote, hends⟩ := exists_open_of_stateOut hquotes hl h
    cases hquote with
    | carried enters _ => exact .inr (hstate.trans enters)
    | marker longest uncarried =>
      left
      exact isDirective_of_marker hquotes hdescribes hclear.leading hfree longest uncarried hends
  · intro h
    have hodd := hclear.unpaired h
    by_cases hin : l.stateIn = preprocessorState
    · rw [← hstate, hin] at hdescribes
      exact hdescribes.stateOut_of_carried hquotes hodd
    · have hdirective := h.resolve_right hin
      have hnormal := (hclear.outside hdirective).resolve_right hin
      obtain ⟨w, u, ht, hw⟩ := exists_hash_of_isDirective hdirective
      have huncarried : ¬lex.Carries state := by
        rintro ⟨i, rule, hquote, _⟩
        rw [← hstate, hnormal] at hquote
        cases hquote
      rw [ht] at hdescribes hodd
      rw [Text.trailingBackslashes_append (by decide)] at hodd
      exact hdescribes.stateOut_of_hash hquotes huncarried hw hodd

end C

end Line

namespace Buffer

/-- Whether the lines that go on into the line with a number, by a backslash at the end of each,
are clear. -/
def IsClearAbove (b : Buffer) : Nat → Prop
  | 0 => True
  | n + 1 => ∀ l ∈ b.line? n, l.isContinued = true → l.IsClear ∧ b.IsClearAbove n

instance decidableIsClearAbove (b : Buffer) : (n : Nat) → Decidable (b.IsClearAbove n)
  | 0 => isTrue trivial
  | n + 1 =>
    haveI := decidableIsClearAbove b n
    inferInstanceAs
      (Decidable (∀ l ∈ b.line? n, l.isContinued = true → l.IsClear ∧ b.IsClearAbove n))

theorem exists_line?_above {b : Buffer} {n : Nat} {l : Line} (hl : b.line? (n + 1 + 1) = some l) :
    ∃ m, b.line? (n + 1) = some m := by
  obtain ⟨hlt, _⟩ := List.getElem?_eq_some_iff.mp (line?_eq_some_iff.mp hl).2
  rw [Nat.add_sub_cancel] at hlt
  exact ⟨b.lines[n], line?_eq_some_iff.mpr ⟨Nat.succ_ne_zero n, List.getElem?_eq_getElem _⟩⟩

theorem stateAt_of_line? {b : Buffer} {n : Nat} {l : Line} (hl : b.line? n = some l) :
    b.stateAt n = l.stateOut := by
  obtain ⟨hne, hget⟩ := line?_eq_some_iff.mp hl
  cases n with
  | zero => exact absurd rfl hne
  | succ n =>
    rw [Nat.add_sub_cancel] at hget
    rw [stateAt, hget]
    rfl

theorem IsAnnotated.isMacroLine_iff {b : Buffer} (hb : b.IsAnnotated)
    (hquotes : b.profile.lexicon.quotes = c.quotes) {n : Nat} {l : Line} (hl : b.line? n = some l)
    (hclear : b.IsClearAbove n) :
    b.isMacroLine n = true ↔ l.isDirective = true ∨ l.stateIn = preprocessorState := by
  induction n generalizing l with
  | zero => cases hl
  | succ n ih =>
    rw [isMacroLine, hl]
    have hin : l.stateIn = b.stateAt n := by
      rw [hb.eq_scanned hl]
      rfl
    cases n with
    | zero =>
      have hnormal : l.stateIn ≠ preprocessorState := by
        rw [hin, stateAt]
        decide
      simp [line?, hnormal]
    | succ k =>
      obtain ⟨m, hm⟩ := exists_line?_above hl
      have hm' := hb.eq_scanned hm
      rw [stateAt_of_line? hm] at hin
      rw [hm, hin, Option.any_some]
      by_cases hcontinued : m.isContinued = true
      · obtain ⟨hclearm, habove⟩ := hclear m hm hcontinued
        have hstep := Line.stateOut_eq_iff hquotes hm' hclearm
        simp [hcontinued, ih hm habove, hstep]
      · -- the state is only carried on behind a backslash
        have hstep : m.stateOut ≠ preprocessorState :=
          fun h => hcontinued (Line.isContinued_of_stateOut hquotes hm' h)
        simp [hcontinued, hstep]

/-- **Text and scan agree on macros**: in C and C++ a line that does not begin with `#` belongs to a
macro exactly if the scan carries a preprocessor line into it, provided that the lines above that go
on into it are clear. -/
theorem Reachable.isMacroLine_iff_stateIn {b : Buffer} (reached : b.Reachable) {lang : Language}
    (family : lang = .c ∨ lang = .cpp) (profile : b.profile = .ofLanguage lang) {n : Nat} {l : Line}
    (line : b.line? n = some l) (hash : l.text.trimStart.head? ≠ some '#')
    (clear : b.IsClearAbove n) : b.isMacroLine n = true ↔ l.stateIn = preprocessorState := by
  have hquotes : b.profile.lexicon.quotes = c.quotes := by
    rw [profile]
    rcases family with rfl | rfl <;> rfl
  rw [reached.isAnnotated.isMacroLine_iff hquotes line clear]
  exact or_iff_right fun hdirective => hash (Line.head?_of_isDirective hdirective)

/-- A definition over three lines. -/
theorem isMacroLine_iff_stateIn_of_define :
    let b := Buffer.ofText "#define F(a) \\\n  f(a) \\\n  + a".toList (.ofLanguage .c)
    ∃ l, b.line? 3 = some l ∧ l.text.trimStart.head? ≠ some '#' ∧ b.IsClearAbove 3 ∧
      (b.isMacroLine 3 = true ↔ l.stateIn = preprocessorState) := by
  have line : (Buffer.ofText "#define F(a) \\\n  f(a) \\\n  + a".toList (.ofLanguage .c)).line? 3 =
      some ⟨some 2, "  + a".toList, [⟨0, 5, .preprocessor⟩], preprocessorState, .normal⟩ := by
    decide +kernel
  have hash : (Text.trimStart "  + a".toList).head? ≠ some '#' := by decide
  have clear : (Buffer.ofText "#define F(a) \\\n  f(a) \\\n  + a".toList
      (.ofLanguage .c)).IsClearAbove 3 := by
    decide +kernel
  exact ⟨_, line, hash, clear,
    (Reachable.ofText _ _).isMacroLine_iff_stateIn (.inl rfl) rfl line hash clear⟩

/-- Behind an escaped backslash the text goes on with the macro, and the scan does not. -/
theorem not_isMacroLine_iff_stateIn_of_escaped :
    let b := Buffer.ofText "#define X \\\\\n;".toList (.ofLanguage .cpp)
    b.Reachable ∧ ∃ l, b.line? 2 = some l ∧ l.text = [';'] ∧
      ¬(b.isMacroLine 2 = true ↔ l.stateIn = preprocessorState) := by
  refine ⟨.ofText _ _, ⟨some 1, [';'], [], .normal, .normal⟩, ?_, rfl, ?_⟩
  · decide +kernel
  · decide +kernel

/-- The scan goes on with a preprocessor line that begins behind code, and the text does not. -/
example :
    let b := Buffer.ofText "1; # \\\n;".toList (.ofLanguage .cpp)
    b.isMacroLine 2 = false ∧ (b.line? 2).map Line.stateIn = some preprocessorState := by
  decide +kernel

/-- A line inside a string that begins with a `#` begins a macro for the text only. -/
example :
    let b := Buffer.ofText "\"a \\\n#b \\\nc".toList (.ofLanguage .cpp)
    b.isMacroLine 3 = true ∧ (b.line? 3).map Line.stateIn = some (.quote 2) := by
  decide +kernel

end Buffer

end SourceEditor
