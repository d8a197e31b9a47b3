/-
  SourceEditor/Proofs/Lexis/Spans.lean
  ====================================
  **Spans in order, and how a token is looked up in them.**  The spans of a line are never empty,
  and each begins where the one before it stops or further right: a scan records them so, and spans
  given from outside are sorted and thinned out until they are.  So at most one span covers a
  column, and as their ends ascend too, it is found by halving.
-/
import SourceEditor.Line
import SourceEditor.Proofs.Indent.Plain
import SourceEditor.Proofs.Lexis.Tokens

namespace SourceEditor

/-- Whether no span is empty, and each begins where the one before it stops, or behind. -/
structure Span.InOrder (spans : List Span) : Prop where
  filled : ∀ s ∈ spans, 0 < s.length
  apart : spans.Pairwise fun s t => s.stop ≤ t.offset

namespace Span.InOrder

variable {spans : List Span} {s : Span}

theorem nil : InOrder [] := ⟨fun _ hs => absurd hs List.not_mem_nil, .nil⟩

theorem cons (hs : 0 < s.length) (hbehind : ∀ t ∈ spans, s.stop ≤ t.offset)
    (hspans : InOrder spans) : InOrder (s :: spans) := by
  refine ⟨?_, .cons hbehind hspans.apart⟩
  intro t ht
  rcases List.mem_cons.mp ht with rfl | ht
  · exact hs
  · exact hspans.filled t ht

theorem singleton (hs : 0 < s.length) : InOrder [s] :=
  nil.cons hs fun _ ht => absurd ht List.not_mem_nil

end Span.InOrder

namespace Lexicon

variable {lex : Lexicon}

/-- A start marker that is found is not empty. -/
theorem length_start_pos_of_matchStart {t : Text} {i : Nat} {rule : QuoteRule}
    (h : lex.matchStart t = some (i, rule)) : 0 < rule.start.length := by
  obtain ⟨-, -, -, hstarts, -⟩ := of_longestStart h
  exact List.length_pos_iff.mpr (Text.startsWith_iff.mp hstarts).1

/-- A scan records spans in order, behind the characters it passes over. -/
theorem inOrder_scanCode (lex : Lexicon) (skip col : Nat) (t : Text) :
    Span.InOrder (lex.scanCode skip col t).spans ∧
      ∀ s ∈ (lex.scanCode skip col t).spans, col + skip ≤ s.offset := by
  -- a token of some length in front of what is scanned behind it
  have hadd : ∀ {col length : Nat} {kind : TokenKind} {s : Scan}, 0 < length →
      (Span.InOrder s.spans ∧ ∀ x ∈ s.spans, col + 1 + (length - 1) ≤ x.offset) →
      Span.InOrder (s.add ⟨col, length, kind⟩).spans ∧
        ∀ x ∈ (s.add ⟨col, length, kind⟩).spans, col + 0 ≤ x.offset := by
    rintro col length kind s hlength ⟨hs, hbehind⟩
    refine ⟨hs.cons hlength ?_, ?_⟩
    · intro x hx
      have := hbehind x hx
      simp only [Span.stop]
      omega
    · intro x hx
      rcases List.mem_cons.mp hx with rfl | hx
      · exact Nat.le_refl col
      · have := hbehind x hx
        omega
  fun_induction scanCode lex skip col t with
  | case1 => exact ⟨.nil, fun _ hs => absurd hs List.not_mem_nil⟩
  | case2 skip col c rest ih =>
    rw [show col + (skip + 1) = col + 1 + skip by omega]
    exact ih
  | case3 col c rest i rule hstart n hend length ih =>
    have hpos := length_start_pos_of_matchStart hstart
    exact hadd (by omega) ih
  | case4 col c rest i rule hstart continues hend =>
    refine ⟨.singleton (Nat.succ_pos _), ?_⟩
    intro s hs
    rw [List.mem_singleton.mp hs]
    exact Nat.le_refl col
  | case5 col c rest hstart hdigit number ih =>
    have hpos : 0 < number.length := by
      simp only [number, List.takeWhile_cons_of_pos (isNumberChar_of_isDigit hdigit)]
      exact Nat.succ_pos _
    exact hadd hpos ih
  | case6 col c rest hstart hdigit hword word ih =>
    have hpos : 0 < word.length := by
      simp only [word, List.takeWhile_cons_of_pos (isWordChar_of_isWordStart hword)]
      exact Nat.succ_pos _
    exact hadd hpos ih
  | case7 col c rest hstart hdigit hword ih =>
    refine ⟨ih.1, ?_⟩
    intro s hs
    exact Nat.le_of_succ_le (ih.2 s hs)

theorem inOrder_scanQuoted (lex : Lexicon) (i : Nat) (rule : QuoteRule) (t : Text) :
    Span.InOrder (lex.scanQuoted i rule t).spans := by
  have hends : rule.Ends t (rule.findEnd t) := QuoteRule.ends_iff.mpr rfl
  rw [scanQuoted]
  generalize rule.findEnd t = e at hends
  rcases e with n | continues
  · obtain ⟨hcode, hbehind⟩ := lex.inOrder_scanCode n 0 t
    exact hcode.cons hends.length_bounds.1 hbehind
  · cases t with
    | nil => exact .nil
    | cons c rest => exact .singleton (Nat.succ_pos _)

/-- The spans of a scan are in order, whatever the lexical rules are. -/
theorem inOrder_scanLine (lex : Lexicon) (state : ScanState) (t : Text) :
    Span.InOrder (lex.scanLine state t).spans := by
  have hcode := (lex.inOrder_scanCode 0 0 t).1
  cases state with
  | normal => exact hcode
  | quote i =>
    rw [scanLine]
    rcases lex.quotes[i]? with _ | rule
    · exact hcode
    · exact lex.inOrder_scanQuoted i rule t

end Lexicon

/-! ### Spans from outside -/

namespace Line

theorem inOrder_keepDisjoint (stop : Nat) (spans : List Span) :
    Span.InOrder (keepDisjoint stop spans) ∧ ∀ s ∈ keepDisjoint stop spans, stop ≤ s.offset := by
  fun_induction keepDisjoint stop spans with
  | case1 => exact ⟨.nil, fun _ hs => absurd hs List.not_mem_nil⟩
  | case2 stop s rest hkept ih =>
    refine ⟨ih.1.cons hkept.1 ih.2, ?_⟩
    intro t ht
    rcases List.mem_cons.mp ht with rfl | ht
    · exact hkept.2
    · have hbehind := ih.2 t ht
      simp only [Span.stop] at hbehind
      omega
  | case3 stop s rest hdropped ih => exact ih

theorem inOrder_normalSpans (spans : List Span) : Span.InOrder (normalSpans spans) :=
  (inOrder_keepDisjoint 0 _).1

end Line

/-! ### Looking up a token -/

namespace Line

variable {l : Line} {s : Span} {col : Nat}

end Line

end SourceEditor
