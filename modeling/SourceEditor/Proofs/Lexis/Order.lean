/-
  SourceEditor/Proofs/Lexis/Order.lean
  ====================================
  **The order of registration.**  Two tables of the same rules find the same spans, in whatever
  order their rules were registered; only the indices by which scan states name the rules differ.
  Rules that were offered and refused leave no trace.
-/
import SourceEditor.Lexis.Scan
import SourceEditor.Proofs.Lexis.Registration

namespace SourceEditor

/-- The state with another number for its rule. -/
def ScanState.renumbered (σ : Nat → Nat) : ScanState → ScanState
  | .normal => .normal
  | .quote i => .quote (σ i)

/-- The scan with other numbers for the rules. -/
def Scan.renumbered (σ : Nat → Nat) (s : Scan) : Scan :=
  { s with stateOut := s.stateOut.renumbered σ }

namespace Lexicon

/-- The index in another table of the rule with an index in this one.  An index that names no rule
stays. -/
def renumber (lex lex' : Lexicon) (i : Nat) : Nat :=
  match lex.quotes[i]? with
  | some rule => lex'.quotes.idxOf rule
  | none => i

/-- Whether two tables differ only in how their rules are numbered. -/
structure Corresponds (lex lex' : Lexicon) (σ : Nat → Nat) : Prop where
  keywords : lex'.keywords = lex.keywords
  quotes : ∀ i, lex'.quotes[σ i]? = lex.quotes[i]?
  matchStart : ∀ t, lex'.matchStart t = (lex.matchStart t).map fun (i, rule) => (σ i, rule)

/-! ### Tables of the same rules -/

variable {lex lex' : Lexicon}

theorem getElem?_renumber (perm : lex.quotes.Perm lex'.quotes) (i : Nat) :
    lex'.quotes[lex.renumber lex' i]? = lex.quotes[i]? := by
  rw [renumber]
  rcases hi : lex.quotes[i]? with _ | rule
  · have hlength := List.getElem?_eq_none_iff.mp hi
    rw [perm.length_eq] at hlength
    exact List.getElem?_eq_none_iff.mpr hlength
  · have hrule := perm.mem_iff.mp (List.mem_of_getElem? hi)
    exact List.getElem?_idxOf hrule

theorem IsRegular.renumber_renumber (hlex : lex.IsRegular) (perm : lex.quotes.Perm lex'.quotes)
    (i : Nat) : lex'.renumber lex (lex.renumber lex' i) = i := by
  have hget := getElem?_renumber perm i
  rw [renumber, hget]
  rcases hi : lex.quotes[i]? with _ | rule
  · simp [renumber, hi]
  · have hrule := List.getElem?_idxOf (List.mem_of_getElem? hi)
    exact hlex.index_eq hrule hi rfl

theorem StartsLongest.renumber (perm : lex.quotes.Perm lex'.quotes) {t : Text} {i : Nat}
    {rule : QuoteRule} (h : lex.StartsLongest t i rule) :
    lex'.StartsLongest t (lex.renumber lex' i) rule := by
  constructor
  · rw [getElem?_renumber perm]
    exact h.registered
  · exact h.starts
  · intro q hq
    exact h.longest q (perm.mem_iff.mpr hq)

theorem IsRegular.corresponds (hlex : lex.IsRegular) (hkeywords : lex'.keywords = lex.keywords)
    (perm : lex.quotes.Perm lex'.quotes) : lex.Corresponds lex' (lex.renumber lex') := by
  constructor
  · exact hkeywords
  · exact getElem?_renumber perm
  · intro t
    rcases hmatch : lex.matchStart t with _ | ⟨i, rule⟩
    · apply matchStart_eq_none_iff.mpr
      intro q hq
      exact matchStart_eq_none_iff.mp hmatch q (perm.mem_iff.mpr hq)
    · have hlongest := hlex.matchStart_eq_some_iff.mp hmatch
      exact (hlex.of_perm perm).matchStart_eq_some_iff.mpr (hlongest.renumber perm)

/-! ### Scanning with either -/

namespace Corresponds

variable {σ : Nat → Nat}

theorem wordKind (h : lex.Corresponds lex' σ) (word : Text) :
    lex'.wordKind word = lex.wordKind word := by
  rw [Lexicon.wordKind, Lexicon.wordKind, isKeyword, isKeyword, h.keywords]

theorem scanCode (h : lex.Corresponds lex' σ) (skip col : Nat) (t : Text) :
    lex'.scanCode skip col t = (lex.scanCode skip col t).renumbered σ := by
  -- both scans take the same branch; of what they compute, only the index of an open quote differs
  fun_induction Lexicon.scanCode lex skip col t with
  | case1 => simp [Lexicon.scanCode, Scan.renumbered, ScanState.renumbered]
  | case2 skip col c rest ih => simpa [Lexicon.scanCode] using ih
  | case3 col c rest i rule hstart n hend length ih =>
    simp [Lexicon.scanCode, h.matchStart, hstart, hend, ih, Scan.renumbered, Scan.add, length]
  | case4 col c rest i rule hstart continues hend =>
    cases continues <;> simp [Lexicon.scanCode, h.matchStart, hstart, hend, Scan.renumbered,
      Scan.unclosed, ScanState.renumbered]
  | case5 col c rest hstart hdigit number ih =>
    simp [Lexicon.scanCode, h.matchStart, hstart, hdigit, ih, Scan.renumbered, Scan.add, number]
  | case6 col c rest hstart hdigit hword word ih =>
    simp [Lexicon.scanCode, h.matchStart, hstart, hdigit, hword, ih, h.wordKind, Scan.renumbered,
      Scan.add, word]
  | case7 col c rest hstart hdigit hword ih =>
    simpa [Lexicon.scanCode, h.matchStart, hstart, hdigit, hword] using ih

theorem scanQuoted (h : lex.Corresponds lex' σ) (i : Nat) (rule : QuoteRule) (t : Text) :
    lex'.scanQuoted (σ i) rule t = (lex.scanQuoted i rule t).renumbered σ := by
  rw [Lexicon.scanQuoted, Lexicon.scanQuoted]
  rcases rule.findEnd t with n | continues
  · simp [h.scanCode, Scan.renumbered, Scan.add]
  · cases continues <;> simp [Scan.renumbered, Scan.unclosed, ScanState.renumbered]

theorem scanLine (h : lex.Corresponds lex' σ) (state : ScanState) (t : Text) :
    lex'.scanLine (state.renumbered σ) t = (lex.scanLine state t).renumbered σ := by
  cases state with
  | normal => exact h.scanCode 0 0 t
  | quote i =>
    simp only [ScanState.renumbered, Lexicon.scanLine, h.quotes]
    rcases lex.quotes[i]? with _ | rule
    · exact h.scanCode 0 0 t
    · exact h.scanQuoted i rule t

end Corresponds

/-! ### The order does not matter -/

/-- Rules that are accepted in one order are accepted in every order, with refused ones offered
between them or not, and the tables differ only in how they number the rules. -/
theorem scanLine_eq_of_perm {keywords : List Text} {rules rules' : List QuoteRule} {lex : Lexicon}
    (accepted : addQuotes ⟨[], keywords⟩ rules = .ok lex) (perm : rules.Perm rules') :
    ∃ lex', addQuotes ⟨[], keywords⟩ rules' = .ok lex' ∧
      (∀ offered, taken ⟨[], keywords⟩ offered = rules' → offerAll ⟨[], keywords⟩ offered = lex') ∧
      (∀ i, lex'.quotes[lex.renumber lex' i]? = lex.quotes[i]?) ∧
      (∀ i, lex'.renumber lex (lex.renumber lex' i) = i) ∧
      ∀ state t, lex'.scanLine (state.renumbered (lex.renumber lex')) t =
        (lex.scanLine state t).renumbered (lex.renumber lex') := by
  have hempty : IsRegular ⟨[], keywords⟩ := isRegular_of_nil rfl
  obtain ⟨rfl, hlex⟩ := (addQuotes_eq_ok_iff hempty).mp accepted
  refine ⟨⟨rules', keywords⟩, ?_, ?_, ?_⟩
  · apply (addQuotes_eq_ok_iff hempty).mpr
    exact ⟨rfl, hlex.of_perm perm⟩
  · rintro offered rfl
    exact offerAll_eq _ offered
  · obtain hcorresponds : Corresponds ⟨rules, keywords⟩ ⟨rules', keywords⟩ _ :=
      hlex.corresponds rfl perm
    exact ⟨hcorresponds.quotes, hlex.renumber_renumber perm, hcorresponds.scanLine⟩

/-- The rules of Python the other way round, and behind them a rule whose marker is taken: where
one quotation mark begins a string and where three do is the same. -/
theorem scanLine_eq_of_reversed_python :
    ∃ lex', addQuotes ⟨[], Language.python.keywords⟩ Language.python.quotes.reverse = .ok lex' ∧
      offerAll ⟨[], Language.python.keywords⟩
        (Language.python.quotes.reverse ++ [Language.charQuote]) = lex' ∧
      ∀ t, (lex'.scanLine .normal t).spans =
        (Language.python.lexicon.scanLine .normal t).spans := by
  have accepted : addQuotes ⟨[], Language.python.keywords⟩ Language.python.quotes =
      .ok Language.python.lexicon := rfl
  have perm := (List.reverse_perm Language.python.quotes).symm
  obtain ⟨lex', haccepted, hoffered, _, _, hscan⟩ := scanLine_eq_of_perm accepted perm
  refine ⟨lex', haccepted, hoffered _ rfl, ?_⟩
  intro t
  have hspans := congrArg Scan.spans (hscan .normal t)
  exact hspans

end Lexicon

end SourceEditor
