/-
  SourceEditor/Proofs/Lexis/Tokens.lean
  =====================================
  **What a scan finds.**  A line is described by what begins at each of its columns that no token
  reaches over: a quote, if the line above carries one or if a start marker occurs there; otherwise
  a number or a word, or nothing.  One scan only fits the description, that of the scanner.
-/
import SourceEditor.Lexis.Scan
import SourceEditor.Proofs.Lexis.Quotes
import Mathlib.Data.List.Pairwise

namespace SourceEditor

/-- Whether no span reaches over a column from further left. -/
def Span.IsFree (spans : List Span) (col : Nat) : Prop :=
  ∀ x ∈ spans, ¬(x.offset < col ∧ col < x.stop)

theorem Span.isFree_zero (spans : List Span) : IsFree spans 0 := by
  rintro x _ ⟨hlt, _⟩
  cases hlt

/-- The column where the part of a quote on a line stops, its end looked for from `body` on. -/
def QuoteEnd.stop (body length : Nat) : QuoteEnd → Nat
  | .closed n => body + n
  | .unclosed _ => length

namespace Lexicon

/-- Whether a state carries a quote of one of the rules into a line. -/
def Carries (lex : Lexicon) (state : ScanState) : Prop :=
  ∃ i rule, state = .quote i ∧ lex.quotes[i]? = some rule

/-- Whether a quote of the rule with an index begins at the column `col` of a line, its end to be
looked for from the column `body` on. -/
inductive QuoteAt (lex : Lexicon) (state : ScanState) (t : Text) (i : Nat) (rule : QuoteRule) :
    (col body : Nat) → Prop
  | carried (enters : state = .quote i) (registered : lex.quotes[i]? = some rule) :
    QuoteAt lex state t i rule 0 0
  | marker {col : Nat} (longest : lex.StartsLongest (t.drop col) i rule)
    (uncarried : col = 0 → ¬lex.Carries state) :
    QuoteAt lex state t i rule col (col + rule.start.length)

/-- Whether no quote begins at a column of a line: none is carried there, and no start marker
occurs there. -/
structure NoQuoteAt (lex : Lexicon) (state : ScanState) (t : Text) (col : Nat) : Prop where
  uncarried : col = 0 → ¬lex.Carries state
  unmarked : ∀ q ∈ lex.quotes, Text.startsWith (t.drop col) q.start = false

/-- Whether the token that begins where a span does, if no other reaches over the place, is what the
span says. -/
inductive Begins (lex : Lexicon) (state : ScanState) (t : Text) (x : Span) : Prop
  | quote {i : Nat} {rule : QuoteRule} {body : Nat} {e : QuoteEnd}
    (starts : lex.QuoteAt state t i rule x.offset body) (ends : rule.Ends (t.drop body) e)
    (stop : x.stop = e.stop body t.length) (kind : x.kind = rule.token)
  | number {c : Char} (plain : lex.NoQuoteAt state t x.offset)
    (head : t[x.offset]? = some c) (digit : c.isDigit = true)
    (length : x.length = ((t.drop x.offset).takeWhile isNumberChar).length)
    (kind : x.kind = .number)
  | word {c : Char} {word : Text} (plain : lex.NoQuoteAt state t x.offset)
    (head : t[x.offset]? = some c) (letter : isAlphabetic c = true ∨ c = '_')
    (run : (t.drop x.offset).takeWhile isWordChar = word) (length : x.length = word.length)
    (kind : x.kind = if word ∈ lex.keywords then .keyword else .identifier)

/-- Whether a scan is right for a line from the column `k` on. -/
structure Describes (lex : Lexicon) (state : ScanState) (t : Text) (k : Nat) (s : Scan) : Prop where
  nonempty : ∀ x ∈ s.spans, 0 < x.length
  apart : s.spans.Pairwise fun x y => x.stop ≤ y.offset
  inside : ∀ x ∈ s.spans, k ≤ x.offset ∧ x.stop ≤ t.length
  spans : ∀ x : Span, k ≤ x.offset → x.offset < t.length → Span.IsFree s.spans x.offset →
    (x ∈ s.spans ↔ lex.Begins state t x)
  stateOut : ∀ i, s.stateOut = .quote i ↔ ∃ rule col body, k ≤ col ∧ Span.IsFree s.spans col ∧
    lex.QuoteAt state t i rule col body ∧ rule.Ends (t.drop body) (.unclosed true)

variable {lex : Lexicon} {state : ScanState} {t : Text} {k : Nat}

/-! ### One token at a place -/

theorem isAscii_of_isDigit {c : Char} (h : c.isDigit = true) : isAscii c = true := by
  simp only [Char.isDigit, Bool.and_eq_true, decide_eq_true_eq, UInt32.le_iff_toNat_le] at h
  rw [isAscii, decide_eq_true_eq]
  exact Nat.lt_of_le_of_lt h.2 (by decide)

theorem isNumberChar_of_isDigit {c : Char} (h : c.isDigit = true) : isNumberChar c = true := by
  have hnumeric : isNumeric c = true := by rw [isNumeric, if_pos (isAscii_of_isDigit h), h]
  simp [isNumberChar, isWordChar, isAlphanumeric, hnumeric]

theorem isWordStart_iff {c : Char} : isWordStart c = true ↔ isAlphabetic c = true ∨ c = '_' := by
  simp [isWordStart]

theorem isWordChar_of_isWordStart {c : Char} (h : isWordStart c = true) : isWordChar c = true := by
  rcases isWordStart_iff.mp h with halpha | rfl
  · simp [isWordChar, isAlphanumeric, halpha]
  · simp [isWordChar]

theorem isWordStart_of_isDigit {c : Char} (h : c.isDigit = true) : isWordStart c = false := by
  have hall : ∀ n < 128, (Char.ofNat n).isDigit = true → isWordStart (Char.ofNat n) = false := by
    decide +kernel
  have hlt : c.toNat < 128 := by simpa [isAscii] using isAscii_of_isDigit h
  have hc := hall c.toNat hlt
  rw [Char.ofNat_toNat] at hc
  exact hc h

theorem wordKind_eq (lex : Lexicon) (word : Text) :
    lex.wordKind word = if word ∈ lex.keywords then .keyword else .identifier := by
  simp [wordKind, isKeyword]

theorem QuoteAt.registered {i : Nat} {rule : QuoteRule} {col body : Nat}
    (h : lex.QuoteAt state t i rule col body) : lex.quotes[i]? = some rule := by
  cases h with
  | carried _ registered => exact registered
  | marker longest _ => exact longest.registered

theorem QuoteAt.longest {i : Nat} {rule : QuoteRule} {col body : Nat}
    (h : lex.QuoteAt state t i rule col body) (huncarried : ¬lex.Carries state) :
    lex.StartsLongest (t.drop col) i rule := by
  cases h with
  | carried enters registered => exact absurd ⟨i, rule, enters, registered⟩ huncarried
  | marker longest _ => exact longest

theorem QuoteAt.bounds {i : Nat} {rule : QuoteRule} {col body : Nat}
    (h : lex.QuoteAt state t i rule col body) : col ≤ body ∧ body ≤ t.length := by
  cases h with
  | carried => simp
  | marker longest _ =>
    obtain ⟨hne, hprefix⟩ := Text.startsWith_iff.mp longest.starts
    have hpos := List.length_pos_iff.mpr hne
    have hlength := hprefix.length_le
    rw [List.length_drop] at hlength
    omega

theorem IsRegular.quoteAt_unique (hlex : lex.IsRegular) {i i' : Nat} {rule rule' : QuoteRule}
    {col body body' : Nat} (h : lex.QuoteAt state t i rule col body)
    (h' : lex.QuoteAt state t i' rule' col body') : i = i' ∧ rule = rule' ∧ body = body' := by
  cases h with
  | carried hstate hrule =>
    cases h' with
    | carried hstate' hrule' =>
      obtain rfl := ScanState.quote.inj (hstate.symm.trans hstate')
      exact ⟨rfl, Option.some.inj (hrule.symm.trans hrule'), rfl⟩
    | marker _ uncarried => exact absurd ⟨i, rule, hstate, hrule⟩ (uncarried rfl)
  | marker longest uncarried =>
    cases h' with
    | carried hstate' hrule' => exact absurd ⟨i', rule', hstate', hrule'⟩ (uncarried rfl)
    | marker longest' _ =>
      have hmatch := hlex.matchStart_eq_some_iff.mpr longest
      rw [hlex.matchStart_eq_some_iff.mpr longest'] at hmatch
      obtain ⟨rfl, rfl⟩ := Prod.mk.inj (Option.some.inj hmatch)
      exact ⟨rfl, rfl, rfl⟩

theorem NoQuoteAt.not_quoteAt {col : Nat} (h : lex.NoQuoteAt state t col) {i : Nat}
    {rule : QuoteRule} {body : Nat} : ¬lex.QuoteAt state t i rule col body := by
  intro hquote
  cases hquote with
  | carried hstate hrule => exact h.uncarried rfl ⟨i, rule, hstate, hrule⟩
  | marker longest _ =>
    have hstarts := h.unmarked rule (List.mem_of_getElem? longest.registered)
    rw [longest.starts] at hstarts
    cases hstarts

theorem noQuoteAt_of_matchStart {col : Nat} (h : lex.matchStart (t.drop col) = none)
    (huncarried : col = 0 → ¬lex.Carries state) : lex.NoQuoteAt state t col :=
  ⟨huncarried, matchStart_eq_none_iff.mp h⟩

theorem IsRegular.quoteAt_of_matchStart (hlex : lex.IsRegular) {i col : Nat} {rule : QuoteRule}
    (h : lex.matchStart (t.drop col) = some (i, rule))
    (huncarried : col = 0 → ¬lex.Carries state) :
    lex.QuoteAt state t i rule col (col + rule.start.length) :=
  .marker (hlex.matchStart_eq_some_iff.mp h) huncarried

theorem IsRegular.noQuoteAt_iff (hlex : lex.IsRegular) {col : Nat} :
    lex.NoQuoteAt state t col ↔ ∀ i rule body, ¬lex.QuoteAt state t i rule col body := by
  constructor
  · intro h i rule body
    exact h.not_quoteAt
  · intro h
    have huncarried : col = 0 → ¬lex.Carries state := by
      rintro rfl ⟨i, rule, hstate, hrule⟩
      exact h i rule 0 (.carried hstate hrule)
    rcases hmatch : lex.matchStart (t.drop col) with _ | ⟨i, rule⟩
    · exact noQuoteAt_of_matchStart hmatch huncarried
    · exact absurd (hlex.quoteAt_of_matchStart hmatch huncarried) (h i rule _)

theorem IsRegular.begins_unique (hlex : lex.IsRegular) {x y : Span} (hx : lex.Begins state t x)
    (hy : lex.Begins state t y) (hoffset : x.offset = y.offset) : x = y := by
  -- two tokens with one offset agree as soon as they agree in length and kind
  suffices h : x.length = y.length ∧ x.kind = y.kind by
    cases x
    cases y
    simp_all
  cases hx with
  | quote starts ends stop kind =>
    rw [hoffset] at starts
    cases hy with
    | quote starts' ends' stop' kind' =>
      obtain ⟨rfl, rfl, rfl⟩ := hlex.quoteAt_unique starts starts'
      obtain rfl := ends.unique ends'
      have hstop := stop.trans stop'.symm
      simp only [Span.stop] at hstop
      exact ⟨by omega, kind.trans kind'.symm⟩
    | number plain' => exact absurd starts plain'.not_quoteAt
    | word plain' => exact absurd starts plain'.not_quoteAt
  | number plain head digit length kind =>
    rw [hoffset] at plain head length
    cases hy with
    | quote starts' => exact absurd starts' plain.not_quoteAt
    | number _ _ _ length' kind' => exact ⟨length.trans length'.symm, kind.trans kind'.symm⟩
    | word _ head' letter' =>
      obtain rfl := Option.some.inj (head.symm.trans head')
      rw [← isWordStart_iff, isWordStart_of_isDigit digit] at letter'
      cases letter'
  | word plain head letter run length kind =>
    rw [hoffset] at plain head run
    cases hy with
    | quote starts' => exact absurd starts' plain.not_quoteAt
    | number _ head' digit' =>
      obtain rfl := Option.some.inj (head.symm.trans head')
      rw [← isWordStart_iff, isWordStart_of_isDigit digit'] at letter
      cases letter
    | word _ _ _ run' length' kind' =>
      obtain rfl := run.symm.trans run'
      exact ⟨length.trans length'.symm, kind.trans kind'.symm⟩

/-! ### From right to left

What is described from a column on is still described with a token in front of it, or with a
character at which nothing begins. -/

namespace Describes

theorem nil (hk : t.length ≤ k) (huncarried : k = 0 → ¬lex.Carries state) :
    lex.Describes state t k ⟨[], .normal⟩ := by
  constructor
  · simp
  · simp
  · simp
  · intro x hx hlt
    omega
  · intro i
    simp only [reduceCtorEq, false_iff]
    rintro ⟨rule, col, body, hcol, _, hquote, _⟩
    cases hquote with
    | carried hstate hrule => exact huncarried (by omega) ⟨i, rule, hstate, hrule⟩
    | marker longest _ =>
      have hstarts := longest.starts
      rw [List.drop_eq_nil_of_le (by omega), Text.startsWith_nil] at hstarts
      cases hstarts

theorem cons (hlex : lex.IsRegular) {x : Span} {s : Scan} {out : ScanState}
    (hx : lex.Begins state t x) (hlength : 0 < x.length) (hstop : x.stop ≤ t.length)
    (hs : lex.Describes state t x.stop s)
    (hout : ∀ i, out = .quote i ↔ s.stateOut = .quote i ∨ ∃ rule body,
      lex.QuoteAt state t i rule x.offset body ∧ rule.Ends (t.drop body) (.unclosed true)) :
    lex.Describes state t x.offset ⟨x :: s.spans, out⟩ := by
  have hlt : x.offset < x.stop := Nat.lt_add_of_pos_right hlength
  constructor
  · intro y hy
    rcases List.mem_cons.mp hy with rfl | hy
    · exact hlength
    · exact hs.nonempty y hy
  · exact .cons (fun y hy => (hs.inside y hy).1) hs.apart
  · intro y hy
    rcases List.mem_cons.mp hy with rfl | hy
    · exact ⟨Nat.le_refl _, hstop⟩
    · have hinside := hs.inside y hy
      exact ⟨by omega, hinside.2⟩
  · intro y hk hy hfree
    by_cases heq : y.offset = x.offset
    · -- only the new token has this offset
      constructor
      · intro hmem
        rcases List.mem_cons.mp hmem with rfl | hmem
        · exact hx
        · have hinside := hs.inside y hmem
          omega
      · intro hbegins
        rw [hlex.begins_unique hbegins hx heq]
        exact List.mem_cons_self
    · have hbehind : x.stop ≤ y.offset := by
        have hxfree := hfree x List.mem_cons_self
        omega
      rw [← hs.spans y hbehind hy fun z hz => hfree z (List.mem_cons_of_mem x hz), List.mem_cons,
        or_iff_right]
      rintro rfl
      exact heq rfl
  · intro i
    rw [hout, hs.stateOut]
    constructor
    · rintro (⟨rule, col, body, hcol, hfree, hquote⟩ | ⟨rule, body, hquote⟩)
      · refine ⟨rule, col, body, by omega, ?_, hquote⟩
        intro y hy
        rcases List.mem_cons.mp hy with rfl | hy
        · omega
        · exact hfree y hy
      · refine ⟨rule, x.offset, body, Nat.le_refl _, ?_, hquote⟩
        intro y hy
        rcases List.mem_cons.mp hy with rfl | hy
        · omega
        · have hinside := hs.inside y hy
          omega
    · rintro ⟨rule, col, body, hcol, hfree, hquote⟩
      by_cases heq : col = x.offset
      · subst heq
        exact .inr ⟨rule, body, hquote⟩
      · have hxfree := hfree x List.mem_cons_self
        refine .inl ⟨rule, col, body, by omega, ?_, hquote⟩
        exact fun y hy => hfree y (List.mem_cons_of_mem x hy)

theorem add (hlex : lex.IsRegular) {x : Span} {s : Scan} (hx : lex.Begins state t x)
    (hlength : 0 < x.length) (hstop : x.stop ≤ t.length) (hs : lex.Describes state t x.stop s)
    (hclosed : ∀ {i rule body}, lex.QuoteAt state t i rule x.offset body →
      ¬rule.Ends (t.drop body) (.unclosed true)) :
    lex.Describes state t x.offset (s.add x) := by
  apply hs.cons hlex hx hlength hstop
  intro i
  refine (or_iff_left ?_).symm
  rintro ⟨rule, body, hquote, hends⟩
  exact hclosed hquote hends

theorem closedQuote (hlex : lex.IsRegular) {i : Nat} {rule : QuoteRule} {body n length : Nat}
    {s : Scan} (hquote : lex.QuoteAt state t i rule k body)
    (hends : rule.Ends (t.drop body) (.closed n)) (hlength : k + length = body + n)
    (hs : lex.Describes state t (k + length) s) :
    lex.Describes state t k (s.add ⟨k, length, rule.token⟩) := by
  have hbegins : lex.Begins state t ⟨k, length, rule.token⟩ := .quote hquote hends hlength rfl
  obtain ⟨hpos, hle⟩ := hends.length_bounds
  obtain ⟨hbody, hbodyle⟩ := hquote.bounds
  rw [List.length_drop] at hle
  apply hs.add hlex hbegins
  · simp only
    omega
  · simp only [Span.stop]
    omega
  · intro i' rule' body' hquote' hends'
    obtain ⟨rfl, rfl, rfl⟩ := hlex.quoteAt_unique hquote hquote'
    cases hends.unique hends'

/-- The state that a quote left open hands on, whether it has characters on the line or not. -/
theorem stateOut_unclosed (hlex : lex.IsRegular) {i : Nat} {rule : QuoteRule} {body : Nat}
    {continues : Bool} (hquote : lex.QuoteAt state t i rule k body)
    (hends : rule.Ends (t.drop body) (.unclosed continues)) (spans : List Span) (j : Nat) :
    (Scan.unclosed i continues spans).stateOut = .quote j ↔ ∃ rule body,
      lex.QuoteAt state t j rule k body ∧ rule.Ends (t.drop body) (.unclosed true) := by
  constructor
  · intro h
    cases continues with
    | false => cases h
    | true =>
      obtain rfl := ScanState.quote.inj h
      exact ⟨rule, body, hquote, hends⟩
  · rintro ⟨rule', body', hquote', hends'⟩
    obtain ⟨rfl, rfl, rfl⟩ := hlex.quoteAt_unique hquote hquote'
    cases hends.unique hends'
    rfl

theorem unclosedQuote (hlex : lex.IsRegular) {i : Nat} {rule : QuoteRule} {body length : Nat}
    {continues : Bool} (hquote : lex.QuoteAt state t i rule k body)
    (hends : rule.Ends (t.drop body) (.unclosed continues)) (hlength : k + length = t.length)
    (hpos : 0 < length) :
    lex.Describes state t k (.unclosed i continues [⟨k, length, rule.token⟩]) := by
  have hbegins : lex.Begins state t ⟨k, length, rule.token⟩ := .quote hquote hends hlength rfl
  have hbehind : lex.Describes state t (k + length) ⟨[], .normal⟩ := by
    apply nil (Nat.le_of_eq hlength.symm)
    omega
  apply hbehind.cons hlex hbegins hpos (Nat.le_of_eq hlength)
  intro j
  have hnormal : ScanState.normal ≠ .quote j := by simp
  rw [or_iff_right hnormal]
  exact stateOut_unclosed hlex hquote hends [⟨k, length, rule.token⟩] j

theorem token (hlex : lex.IsRegular) {length : Nat} {kind : TokenKind} {s : Scan}
    (hplain : lex.NoQuoteAt state t k) (hbegins : lex.Begins state t ⟨k, length, kind⟩)
    (hpos : 0 < length) (hle : k + length ≤ t.length)
    (hs : lex.Describes state t (k + 1 + (length - 1)) s) :
    lex.Describes state t k (s.add ⟨k, length, kind⟩) := by
  rw [Nat.add_assoc, Nat.add_sub_cancel' hpos] at hs
  apply hs.add hlex hbegins hpos hle
  intro i rule body hquote
  exact absurd hquote hplain.not_quoteAt

theorem pass {c : Char} {s : Scan} (hplain : lex.NoQuoteAt state t k) (hhead : t[k]? = some c)
    (hdigit : c.isDigit = false) (hword : isWordStart c = false)
    (hs : lex.Describes state t (k + 1) s) : lex.Describes state t k s := by
  have hnone : ∀ x : Span, x.offset = k → ¬lex.Begins state t x := by
    rintro x rfl hx
    cases hx with
    | quote starts => exact hplain.not_quoteAt starts
    | number _ head digit =>
      obtain rfl := Option.some.inj (head.symm.trans hhead)
      rw [hdigit] at digit
      cases digit
    | word _ head letter =>
      obtain rfl := Option.some.inj (head.symm.trans hhead)
      rw [← isWordStart_iff, hword] at letter
      cases letter
  constructor
  · exact hs.nonempty
  · exact hs.apart
  · intro x hx
    have hinside := hs.inside x hx
    exact ⟨by omega, hinside.2⟩
  · intro x hk hx hfree
    by_cases heq : x.offset = k
    · refine iff_of_false ?_ (hnone x heq)
      intro hmem
      have hinside := hs.inside x hmem
      omega
    · exact hs.spans x (by omega) hx hfree
  · intro i
    rw [hs.stateOut]
    constructor
    · rintro ⟨rule, col, body, hcol, hquote⟩
      exact ⟨rule, col, body, by omega, hquote⟩
    · rintro ⟨rule, col, body, hcol, hfree, hquote, hends⟩
      have hne : col ≠ k := by
        rintro rfl
        exact hplain.not_quoteAt hquote
      exact ⟨rule, col, body, by omega, hfree, hquote, hends⟩

end Describes

/-! ### The scan of a line -/

section Suffix

variable {col : Nat} {c : Char} {rest : Text} (hdrop : t.drop col = c :: rest)

include hdrop

theorem drop_succ_of_drop : t.drop (col + 1) = rest := by
  rw [← List.drop_drop, hdrop]
  rfl

theorem getElem?_of_drop : t[col]? = some c := by
  rw [← List.head?_drop, hdrop]
  rfl

theorem add_length_of_drop : col + (c :: rest).length = t.length := by
  have hlength := congrArg List.length hdrop
  rw [List.length_drop, List.length_cons] at hlength
  rw [List.length_cons]
  omega

theorem ends_of_drop {rule : QuoteRule} {e : QuoteEnd}
    (h : rule.findEnd ((c :: rest).drop rule.start.length) = e) :
    rule.Ends (t.drop (col + rule.start.length)) e := by
  rw [QuoteRule.ends_iff, ← List.drop_drop, hdrop]
  exact h.symm

theorem run_bounds {p : Char → Bool} (hc : p c = true) :
    0 < ((c :: rest).takeWhile p).length ∧ col + ((c :: rest).takeWhile p).length ≤ t.length := by
  have hlength := (List.takeWhile_prefix p (l := c :: rest)).length_le
  have htotal := add_length_of_drop hdrop
  refine ⟨?_, by omega⟩
  rw [List.takeWhile_cons_of_pos hc]
  exact Nat.succ_pos _

end Suffix

theorem IsRegular.describes_scanCode (hlex : lex.IsRegular) (skip col : Nat) {rest : Text}
    (hdrop : t.drop col = rest) (hskip : skip ≤ rest.length)
    (huncarried : col + skip = 0 → ¬lex.Carries state) :
    lex.Describes state t (col + skip) (lex.scanCode skip col rest) := by
  fun_induction scanCode lex skip col rest with
  | case1 skip col =>
    apply Describes.nil _ huncarried
    have hle := List.drop_eq_nil_iff.mp hdrop
    omega
  | case2 skip col c rest ih =>
    have hbehind := ih (drop_succ_of_drop hdrop) (by simpa using hskip) (by omega)
    rwa [Nat.add_assoc, Nat.add_comm 1 skip] at hbehind
  | case3 col c rest i rule hstart n hend length ih =>
    have hends := ends_of_drop hdrop hend
    rw [← hdrop] at hstart
    have hquote := hlex.quoteAt_of_matchStart hstart huncarried
    have htotal := add_length_of_drop hdrop
    obtain ⟨hpos, hle⟩ := hends.length_bounds
    rw [List.length_drop] at hle
    rw [List.length_cons] at htotal
    have hbehind := ih (drop_succ_of_drop hdrop) (by omega) (by omega)
    rw [Nat.add_assoc, Nat.add_sub_cancel' (by omega)] at hbehind
    exact hbehind.closedQuote hlex hquote hends (Nat.add_assoc _ _ _).symm
  | case4 col c rest i rule hstart continues hend =>
    have hends := ends_of_drop hdrop hend
    rw [← hdrop] at hstart
    have hquote := hlex.quoteAt_of_matchStart hstart huncarried
    exact .unclosedQuote hlex hquote hends (add_length_of_drop hdrop) (Nat.succ_pos _)
  | case5 col c rest hstart hdigit number ih =>
    rw [← hdrop] at hstart
    have hplain := noQuoteAt_of_matchStart hstart huncarried
    have hbegins : lex.Begins state t ⟨col, number.length, .number⟩ :=
      .number hplain (getElem?_of_drop hdrop) hdigit (by rw [hdrop]) rfl
    obtain ⟨hpos, hle⟩ : 0 < number.length ∧ col + number.length ≤ t.length :=
      run_bounds hdrop (isNumberChar_of_isDigit hdigit)
    have htotal := add_length_of_drop hdrop
    rw [List.length_cons] at htotal
    have hbehind := ih (drop_succ_of_drop hdrop) (by omega) (by omega)
    exact hbehind.token hlex hplain hbegins hpos hle
  | case6 col c rest hstart hdigit hword word ih =>
    rw [← hdrop] at hstart
    have hplain := noQuoteAt_of_matchStart hstart huncarried
    have hbegins : lex.Begins state t ⟨col, word.length, lex.wordKind word⟩ :=
      .word hplain (getElem?_of_drop hdrop) (isWordStart_iff.mp hword) (by rw [hdrop]) rfl
        (wordKind_eq lex word)
    obtain ⟨hpos, hle⟩ : 0 < word.length ∧ col + word.length ≤ t.length :=
      run_bounds hdrop (isWordChar_of_isWordStart hword)
    have htotal := add_length_of_drop hdrop
    rw [List.length_cons] at htotal
    have hbehind := ih (drop_succ_of_drop hdrop) (by omega) (by omega)
    exact hbehind.token hlex hplain hbegins hpos hle
  | case7 col c rest hstart hdigit hword ih =>
    rw [← hdrop] at hstart
    have hplain := noQuoteAt_of_matchStart hstart huncarried
    rw [Bool.not_eq_true] at hdigit hword
    apply Describes.pass hplain (getElem?_of_drop hdrop) hdigit hword
    exact ih (drop_succ_of_drop hdrop) (Nat.zero_le _) (by omega)

theorem IsRegular.describes_empty (hlex : lex.IsRegular) {i : Nat} {rule : QuoteRule}
    {continues : Bool} (hquote : lex.QuoteAt state [] i rule 0 0)
    (hends : rule.Ends [] (.unclosed continues)) :
    lex.Describes state [] 0 (.unclosed i continues []) := by
  constructor
  · simp [Scan.unclosed]
  · simp [Scan.unclosed]
  · simp [Scan.unclosed]
  · intro x _ hlt
    cases hlt
  · intro j
    rw [Describes.stateOut_unclosed hlex hquote hends]
    constructor
    · rintro ⟨rule', body, hquote', hends'⟩
      exact ⟨rule', 0, body, Nat.le_refl 0, Span.isFree_zero _, hquote', hends'⟩
    · rintro ⟨rule', col, body, _, _, hquote', hends'⟩
      have hcol : col = 0 := Nat.le_zero.mp (Nat.le_trans hquote'.bounds.1 hquote'.bounds.2)
      subst hcol
      exact ⟨rule', body, hquote', hends'⟩

theorem IsRegular.describes_scanQuoted (hlex : lex.IsRegular) {i : Nat} {rule : QuoteRule}
    (hrule : lex.quotes[i]? = some rule) (t : Text) :
    lex.Describes (.quote i) t 0 (lex.scanQuoted i rule t) := by
  have hquote : lex.QuoteAt (.quote i) t i rule 0 0 := .carried rfl hrule
  have hends : rule.Ends t (rule.findEnd t) := QuoteRule.ends_iff.mpr rfl
  rw [scanQuoted]
  generalize rule.findEnd t = e at hends
  rcases e with n | continues
  · obtain ⟨hpos, hle⟩ := hends.length_bounds
    have hbehind : lex.Describes (.quote i) t (0 + n) (lex.scanCode n 0 t) :=
      hlex.describes_scanCode n 0 rfl hle (by omega)
    exact hbehind.closedQuote hlex hquote hends rfl
  · cases t with
    | nil => exact hlex.describes_empty hquote hends
    | cons c rest => exact .unclosedQuote hlex hquote hends (Nat.zero_add _) (Nat.succ_pos _)

theorem IsRegular.describes_scanLine (hlex : lex.IsRegular) (state : ScanState) (t : Text) :
    lex.Describes state t 0 (lex.scanLine state t) := by
  cases state with
  | normal =>
    apply hlex.describes_scanCode 0 0 rfl (Nat.zero_le _)
    rintro _ ⟨i, rule, hstate, _⟩
    cases hstate
  | quote i =>
    rw [scanLine]
    rcases hrule : lex.quotes[i]? with _ | rule
    · apply hlex.describes_scanCode 0 0 rfl (Nat.zero_le _)
      rintro _ ⟨j, rule, hstate, hj⟩
      obtain rfl := ScanState.quote.inj hstate
      rw [hrule] at hj
      cases hj
    · exact hlex.describes_scanQuoted hrule t

/-! ### No other scan -/

namespace Describes

variable {s s' : Scan}

theorem isFree_of_mem (h : lex.Describes state t k s) {x : Span} (hx : x ∈ s.spans) :
    Span.IsFree s.spans x.offset := by
  rintro y hy ⟨hlt, hstop⟩
  have hne : x ≠ y := by
    rintro rfl
    exact Nat.lt_irrefl _ hlt
  have hsymm : Std.Symm fun x y : Span => x.stop ≤ y.offset ∨ y.stop ≤ x.offset :=
    ⟨fun _ _ => Or.symm⟩
  have hpairs : s.spans.Pairwise fun x y => x.stop ≤ y.offset ∨ y.stop ≤ x.offset :=
    h.apart.imp Or.inl
  have hapart := hpairs.forall hx hy hne
  have hlength := h.nonempty x hx
  simp only [Span.stop] at hapart hstop
  omega

theorem offset_lt_length (h : lex.Describes state t k s) {x : Span} (hx : x ∈ s.spans) :
    x.offset < t.length := by
  have hlength := h.nonempty x hx
  have hinside := (h.inside x hx).2
  simp only [Span.stop] at hinside
  omega

theorem begins_of_mem (h : lex.Describes state t k s) {x : Span}
    (hx : x ∈ s.spans) : lex.Begins state t x :=
  (h.spans x (h.inside x hx).1 (h.offset_lt_length hx) (h.isFree_of_mem hx)).mp hx

/-- What lies further left decides which span begins at a place. -/
theorem mem_of_left (h : lex.Describes state t 0 s) (h' : lex.Describes state t 0 s') {x : Span}
    (hleft : ∀ y : Span, y.offset < x.offset → (y ∈ s.spans ↔ y ∈ s'.spans)) (hx : x ∈ s.spans) :
    x ∈ s'.spans := by
  have hlt := h.offset_lt_length hx
  have hfree := h.isFree_of_mem hx
  have hfree' : Span.IsFree s'.spans x.offset := by
    rintro y hy ⟨hoffset, hstop⟩
    exact hfree y ((hleft y hoffset).mpr hy) ⟨hoffset, hstop⟩
  exact (h'.spans x (Nat.zero_le _) hlt hfree').mpr (h.begins_of_mem hx)

theorem mem_iff (h : lex.Describes state t 0 s) (h' : lex.Describes state t 0 s') (n : Nat) :
    ∀ x : Span, x.offset = n → (x ∈ s.spans ↔ x ∈ s'.spans) := by
  induction n using Nat.strongRecOn with
  | ind n ih =>
    rintro x rfl
    have hleft : ∀ y : Span, y.offset < x.offset → (y ∈ s.spans ↔ y ∈ s'.spans) :=
      fun y hy => ih y.offset hy y rfl
    constructor
    · exact h.mem_of_left h' hleft
    · exact h'.mem_of_left h fun y hy => (hleft y hy).symm

theorem ascending (h : lex.Describes state t k s) :
    s.spans.Pairwise fun x y => x.offset < y.offset := by
  apply h.apart.imp_of_mem
  intro x y hx _ hstop
  have hlength := h.nonempty x hx
  simp only [Span.stop] at hstop
  omega

theorem nodup (h : lex.Describes state t k s) : s.spans.Nodup := by
  apply h.ascending.imp
  rintro x y hlt rfl
  exact Nat.lt_irrefl _ hlt

theorem unique (h : lex.Describes state t 0 s) (h' : lex.Describes state t 0 s') : s = s' := by
  have hperm : s.spans.Perm s'.spans := by
    apply (List.perm_ext_iff_of_nodup _ _).mpr
    · exact fun x => h.mem_iff h' x.offset x rfl
    · exact h.nodup
    · exact h'.nodup
  have hspans : s.spans = s'.spans := by
    apply hperm.eq_of_pairwise _ h.ascending h'.ascending
    intro x y _ _ hlt hlt'
    omega
  have hstate : ∀ i, s.stateOut = .quote i ↔ s'.stateOut = .quote i := by
    intro i
    rw [h.stateOut, h'.stateOut, hspans]
  have hout : s.stateOut = s'.stateOut := by
    rcases hs' : s'.stateOut with _ | i
    · rcases hs : s.stateOut with _ | i
      · rfl
      · have hi := (hstate i).mp hs
        rw [hs'] at hi
        cases hi
    · exact (hstate i).mpr hs'
  cases s
  cases s'
  simp_all

end Describes

/-! ### The description -/

/-- Whatever rules have been offered to a table, and whichever of them it refused: of all scans that
of the scanner alone is right, a quote begins wherever one is carried in or a start marker occurs,
and a state whose index is not in the table carries nothing. -/
theorem describes_iff_eq_scanLine (keywords : List Text) (rules : List QuoteRule) (t : Text) :
    (∀ state s, (offerAll ⟨[], keywords⟩ rules).Describes state t 0 s ↔
      s = (offerAll ⟨[], keywords⟩ rules).scanLine state t) ∧
    (∀ state col, (offerAll ⟨[], keywords⟩ rules).NoQuoteAt state t col ↔
      ∀ i rule body, ¬(offerAll ⟨[], keywords⟩ rules).QuoteAt state t i rule col body) ∧
    ∀ n, (offerAll ⟨[], keywords⟩ rules).scanLine
        (.quote ((offerAll ⟨[], keywords⟩ rules).quotes.length + n)) t =
      (offerAll ⟨[], keywords⟩ rules).scanLine .normal t := by
  have hempty : IsRegular ⟨[], keywords⟩ := isRegular_of_nil rfl
  have hlex := hempty.offerAll rules
  generalize offerAll ⟨[], keywords⟩ rules = lex at hlex
  refine ⟨?_, ?_, ?_⟩
  · intro state s
    constructor
    · intro h
      exact h.unique (hlex.describes_scanLine state t)
    · rintro rfl
      exact hlex.describes_scanLine state t
  · intro state col
    exact hlex.noQuoteAt_iff
  · intro n
    have hnone : lex.quotes[lex.quotes.length + n]? = none :=
      List.getElem?_eq_none (Nat.le_add_right _ _)
    simp only [scanLine, hnone]

example :
    scanLine
      ⟨[Language.lineQuote .string "r\"" "\"", Language.blockQuote .comment "/*" "*/"],
        ["r".toList]⟩
      (.quote 1) "*/ r\"\\\"\" r 1.e_".toList =
    ⟨[⟨0, 2, .comment⟩, ⟨3, 5, .string⟩, ⟨9, 1, .keyword⟩, ⟨11, 4, .number⟩], .normal⟩ := by
  decide +kernel

end Lexicon

end SourceEditor
