/-
  SourceEditor/Proofs/Search/Cuts.lean
  ====================================
  **Matches and the end of a range.**  On the line where a range ends, a match that goes past the
  end is looked for again on the line cut there, and what is found then need not be found on the
  whole line.  Elsewhere the search of a range finds what the pattern matches on the whole line: from
  the column where the search begins, and just as well from the column where the match begins.
-/
import SourceEditor.Proofs.Pattern.Pruning
import SourceEditor.Proofs.Search.Places

namespace SourceEditor

open Pattern (Program Found)

theorem charBefore_eq_getLast? {t : Text} {col : Nat} (hcol : col ≤ t.length) :
    charBefore t col = (t.take col).getLast? := by
  have h := charBefore_append (t.take col) (t.drop col) 0
  rwa [List.take_append_drop, List.length_take_of_le hcol, Nat.zero_add, if_pos rfl] at h

/-! ### Searching from further on -/

/-- A search for a literal that starts between the start of another one and the place that it finds
finds the same place. -/
theorem Literal.search_resume {ignoreCase : Bool} {wanted : Text} {col i : Nat} {rest : Text}
    {f : Found} (h : search ignoreCase wanted col rest = some f) (hi : col + i ≤ f.start) :
    search ignoreCase wanted (col + i) (rest.drop i) = some f := by
  induction i generalizing col rest with
  | zero => exact h
  | succ i ih =>
    unfold search at h
    split at h
    · obtain rfl := Option.some.inj h
      simp only at hi
      omega
    · cases rest with
      | nil => cases h
      | cons c rest =>
        have hnext := ih h (by omega)
        rwa [Nat.add_right_comm] at hnext

namespace Regex

/-- Whether a search that starts between the start of another one and the match that it finds finds
the same match. -/
def Resumes (re : Regex) : Prop :=
  ∀ (t : Text) (col q : Nat) (f : Found), re.findAt t col = some f → col ≤ q → q ≤ f.start →
    f.start ≤ t.length → re.findAt t q = some f

theorem resumes_literal (wanted : Text) (ignoreCase : Bool) :
    (literal wanted ignoreCase).Resumes := by
  intro t col q f h hle hq _
  obtain ⟨i, rfl⟩ := Nat.exists_eq_add_of_le hle
  have hsame := Literal.search_resume h hq
  rwa [List.drop_drop] at hsame

theorem resumes_ofProgram {p : Program} (stays : p.Stays) : (ofProgram p).Resumes := by
  intro t col q f h hle hq hstart
  simp only [ofProgram] at h ⊢
  rw [charBefore_eq_getLast? (by omega)] at h ⊢
  exact Program.search_resume stays hle hq hstart h

end Regex

/-- Whether an engine finds each match again from further on, whatever the pattern. -/
def Engine.Resumes (E : Engine) : Prop :=
  ∀ {useRegex ignoreCase : Bool} {pattern : Text} {re : Regex},
    E.compile useRegex ignoreCase pattern = .ok re → re.Resumes

theorem Engine.resumes_standard : standard.Resumes := by
  intro useRegex ignoreCase pattern re hre
  rcases standard_cases hre with ⟨_, rfl⟩ | ⟨_, p, hp, rfl⟩
  · exact Regex.resumes_literal _ _
  · exact Regex.resumes_ofProgram (Program.stays_of_ofPattern hp)

theorem Matcher.resumes_of_ofPattern {E : Engine} (resumes : E.Resumes) {pattern : Text}
    {o : FindOptions} {m : Matcher} (accepted : ofPattern pattern o E = .ok m) :
    m.regex.Resumes := by
  obtain ⟨re, hre, rfl⟩ := exists_compile_of_ofPattern accepted
  exact resumes hre

namespace Matcher

variable {m : Matcher} {p : Program} {t : Text} {limit col : Nat} {f : Found}

/-! ### On one line -/

/-- Whether a search from a column comes upon a match that goes past the limit. -/
def IsCutAt (m : Matcher) (t : Text) (limit col : Nat) : Prop :=
  ∃ g, m.findAt t col = some g ∧ limit < g.stop

theorem not_isCutAt_length (m : Matcher) (hcol : col ≤ t.length) : ¬m.IsCutAt t t.length col := by
  rintro ⟨g, hg, hlt⟩
  have := stop_le_of_findAt hcol hg
  omega

/-- A match within a limit is one on the whole line, or one on the line cut at the limit in the
place of one that goes past it. -/
theorem findWithin_eq_some_iff :
    m.findWithin t limit col = some f ↔ (m.findAt t col = some f ∧ f.stop ≤ limit) ∨
      (m.IsCutAt t limit col ∧ m.findAt (t.take limit) col = some f) := by
  rw [findWithin, IsCutAt]
  rcases m.findAt t col with _ | g
  · simp
  · by_cases hlimit : limit < g.stop
    · simp only [hlimit, if_true, Option.some.injEq, exists_eq_left', true_and]
      constructor
      · exact .inr
      · rintro (⟨rfl, hle⟩ | h)
        · omega
        · exact h
    · simp only [hlimit, if_false, Option.some.injEq, exists_eq_left', false_and, or_false]
      constructor
      · rintro rfl
        exact ⟨rfl, by omega⟩
      · exact And.left

/-- The match that counts is found from some column on, which lies between the one from where it is
looked for and its own. -/
theorem exists_findWithin_of_nextMatch {r : Nat × Nat} (h : m.nextMatch t limit col = some r) :
    ∃ c f, col ≤ c ∧ c ≤ r.1 ∧ c ≤ limit ∧ m.findWithin t limit c = some f ∧
      m.accepts t f = true ∧ (f.start, f.stop) = r := by
  fun_induction nextMatch m t limit col with
  | case1 => cases h
  | case2 col hcol f hf accepted =>
    obtain rfl := Option.some.inj h
    exact ⟨col, f, Nat.le_refl _, le_start_of_findWithin hf, hcol, hf, accepted, rfl⟩
  | case3 col hcol f hf _ hstart ih =>
    obtain ⟨c, g, hc, hr⟩ := ih h
    exact ⟨c, g, by omega, hr⟩
  | case4 => cases h

/-- Whether the first thing found from a column on is a match that begins there, ends at another
column and counts on the line, where `seen` of the line is searched. -/
def FindsAt (m : Matcher) (line seen : Text) (start stop : Nat) : Prop :=
  ∃ f, m.findAt seen start = some f ∧ m.accepts line f = true ∧ f.start = start ∧ f.stop = stop

/-- A match that counts begins where it is looked for if it is the first thing found there, on the
whole line or on the line cut at the limit. -/
theorem nextMatch_at_iff {stop : Nat} :
    m.nextMatch t limit col = some (col, stop) ↔ col ≤ limit ∧
      ((m.FindsAt t t col stop ∧ stop ≤ limit) ∨
        (m.IsCutAt t limit col ∧ m.FindsAt t (t.take limit) col stop)) := by
  have hwithin : (m.FindsAt t t col stop ∧ stop ≤ limit) ∨
        (m.IsCutAt t limit col ∧ m.FindsAt t (t.take limit) col stop) ↔
      ∃ f, m.findWithin t limit col = some f ∧ m.accepts t f = true ∧
        f.start = col ∧ f.stop = stop := by
    constructor
    · rintro (⟨⟨f, hf, hfound⟩, hle⟩ | ⟨hcut, f, hf, hfound⟩)
      · exact ⟨f, findWithin_eq_some_iff.mpr (.inl ⟨hf, hfound.2.2 ▸ hle⟩), hfound⟩
      · exact ⟨f, findWithin_eq_some_iff.mpr (.inr ⟨hcut, hf⟩), hfound⟩
    · rintro ⟨f, hf, hfound⟩
      rcases findWithin_eq_some_iff.mp hf with ⟨hf, hle⟩ | ⟨hcut, hf⟩
      · exact .inl ⟨⟨f, hf, hfound⟩, hfound.2.2 ▸ hle⟩
      · exact .inr ⟨hcut, f, hf, hfound⟩
  rw [hwithin, nextMatch_eq]
  by_cases hcol : col ≤ limit
  · rw [if_pos hcol, and_iff_right hcol]
    rcases hf : m.findWithin t limit col with _ | f
    · simp
    · have hstart := le_start_of_findWithin hf
      by_cases haccepts : m.accepts t f = true
      · simp [haccepts]
      · simp only [Option.some.injEq, exists_eq_left', haccepts]
        constructor
        · intro h
          have := (nextMatch_bounds h).2.1
          simp only at this
          omega
        · rintro ⟨h, _⟩
          cases h
  · rw [if_neg hcol]
    simp [hcol]

/-- Up to the end of the line no match is cut. -/
theorem nextMatch_to_end_iff (hcol : col ≤ t.length) {stop : Nat} :
    m.nextMatch t t.length col = some (col, stop) ↔ m.FindsAt t t col stop := by
  rw [nextMatch_at_iff, and_iff_right hcol,
    or_iff_left fun h => m.not_isCutAt_length hcol h.1]
  refine and_iff_left_of_imp ?_
  rintro ⟨f, hf, _, _, rfl⟩
  exact stop_le_of_findAt hcol hf

/-- What a regular expression matches, as a computation that can be evaluated. -/
theorem findAt_listed (regex : m.regex = .ofProgram p) (t : Text) (col : Nat) :
    m.findAt t col = p.searchListed [] (charBefore t col) col (t.drop col) := by
  rw [findAt, regex]
  exact Program.search_listed (by simp) _ _ _

/-- Unless the search is cut on its way, a match that counts is what the pattern matches from its
own column on. -/
theorem findsAt_of_nextMatch (resumes : m.regex.Resumes)
    (hlimit : limit ≤ t.length) {r : Nat × Nat} (h : m.nextMatch t limit col = some r)
    (huncut : ∀ c, col ≤ c → c ≤ r.1 → ¬m.IsCutAt t limit c) : m.FindsAt t t r.1 r.2 := by
  obtain ⟨c, f, hc, hr, _, hf, haccepts, rfl⟩ := exists_findWithin_of_nextMatch h
  rcases findWithin_eq_some_iff.mp hf with ⟨hfound, hstop⟩ | ⟨hcut, _⟩
  · have hlt := (nextMatch_bounds h).2.2
    simp only at hr hlt
    exact ⟨f, resumes t c _ f hfound hr (Nat.le_refl _) (by omega), haccepts, rfl, rfl⟩
  · exact absurd hcut (huncut c hc hr)

/-! ### In a buffer -/

variable {b : Buffer} {r g : Range} {l : Line}

/-- The column from which a range that starts at `q` covers a line. -/
def startOn (q : Point) (n : Nat) (l : Line) : Nat := min (if n = q.line then q.col else 0) l.length

/-- The first match of a range is the first one on its line between the columns covered. -/
theorem nextMatch_of_findFirst (h : m.findFirst b r = some g) :
    ∃ l, b.line? g.start.line = some l ∧ g.stop.line = g.start.line ∧
      m.nextMatch l.text (limitOn r.stop g.start.line l) (startOn r.start g.start.line l) =
        some (g.start.col, g.stop.col) := by
  rw [findFirst] at h
  split at h
  · cases h
  · obtain ⟨⟨n, l⟩, hline, hfirst⟩ := List.exists_of_findSome?_eq_some h
    obtain ⟨columns, hcolumns, rfl⟩ := Option.map_eq_some_iff.mp hfirst
    exact ⟨l, (mem_linesBetween.mp hline).1, rfl, hcolumns⟩

theorem single_of_findFirst (h : m.findFirst b r = some g) :
    g.stop.line = g.start.line := by
  obtain ⟨_, _, hsingle, _⟩ := nextMatch_of_findFirst h
  exact hsingle

theorem isEmpty_of_findFirst (h : m.findFirst b r = some g) : g.isEmpty = false := by
  obtain ⟨_, _, _, hnext⟩ := nextMatch_of_findFirst h
  have hlt := (nextMatch_bounds hnext).2.2
  rw [Range.isEmpty, decide_eq_false_iff_not]
  intro heq
  rw [heq] at hlt
  exact Nat.lt_irrefl _ hlt

/-- The first match of a range begins where the range does exactly if it is found there on the first
line. -/
theorem findFirst_at_iff {q s : Point} (hq : b.HasPoint q) (hle : q.line ≤ s.line)
    (hl : b.line? q.line = some l) {stop : Point} :
    m.findFirst b ⟨q, s⟩ = some ⟨q, stop⟩ ↔ stop.line = q.line ∧
      m.nextMatch l.text (limitOn s q.line l) q.col = some (q.col, stop.col) := by
  obtain ⟨l', hl', hcol⟩ := Buffer.hasPoint_iff.mp hq
  obtain rfl : l = l' := Option.some.inj (hl.symm.trans hl')
  constructor
  · intro h
    obtain ⟨l', hl', hsingle, hnext⟩ := nextMatch_of_findFirst h
    obtain rfl : l = l' := Option.some.inj (hl.symm.trans hl')
    rw [startOn, if_pos rfl, Nat.min_eq_left hcol] at hnext
    exact ⟨hsingle, hnext⟩
  · rintro ⟨hsingle, hnext⟩
    obtain ⟨n, j⟩ := stop
    obtain rfl : n = q.line := hsingle
    rw [findFirst_eq_or m s hl hcol hle, hnext]
    rfl

/-- The text that takes the place of a range is the template filled in with what the pattern matches
from the start of the range on, on the whole line. -/
theorem replacement_eq (regex : m.useRegex = true) (hl : b.line? g.start.line = some l)
    (hcol : g.start.col ≤ l.length) (template : Text) :
    m.replacement b g template = (m.findAt l.text g.start.col).elim template fun f =>
      Pattern.fillTemplate (f.groupText l.text) m.regex.names template := by
  have hcol' : g.start.col ≤ l.text.length := hcol
  simp only [replacement, hl, replacementAt, regex, if_true, Nat.min_eq_left hcol']
  cases m.findAt l.text g.start.col <;> rfl

/-- Whether the search of a range comes upon a match that goes past the end of the range on its way
to the match `g` on the line `l`. -/
def IsCut (m : Matcher) (r g : Range) (l : Line) : Prop :=
  ∃ c, startOn r.start g.start.line l ≤ c ∧ c ≤ g.start.col ∧
    m.IsCutAt l.text (limitOn r.stop g.start.line l) c

end Matcher

/-- Whether a point is at the end of a line of a buffer. -/
def Buffer.EndsLine (b : Buffer) (p : Point) : Prop :=
  ∃ l, b.line? p.line = some l ∧ p.col = l.length

namespace Matcher

variable {m : Matcher} {b : Buffer} {r g : Range} {l : Line}

theorem limitOn_of_endsLine {q : Point} (hq : b.EndsLine q) {n : Nat} (hl : b.line? n = some l) :
    limitOn q n l = l.length := by
  rw [limitOn]
  by_cases hn : n = q.line
  · obtain ⟨l', hl', hcol⟩ := hq
    obtain rfl : l = l' := Option.some.inj (hl.symm.trans (hn ▸ hl'))
    rw [if_pos hn, hcol, Nat.min_self]
  · rw [if_neg hn, Nat.min_self]

/-- A range that ends with a line is not cut anywhere. -/
theorem not_isCut_of_endsLine (hstop : b.EndsLine r.stop) (hl : b.line? g.start.line = some l)
    (hg : g.start.col ≤ l.length) : ¬m.IsCut r g l := by
  rintro ⟨c, _, hc, hcut⟩
  rw [limitOn_of_endsLine hstop hl] at hcut
  exact m.not_isCutAt_length (Nat.le_trans hc hg) hcut

end Matcher

theorem Buffer.endsLine_stopPoint (b : Buffer) : b.EndsLine b.stopPoint :=
  ⟨b.lastLine, b.line?_lineCount, rfl⟩

end SourceEditor
