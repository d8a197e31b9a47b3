/-
  SourceEditor/Proofs/Search/Occurrences.lean
  ===========================================
  **What a search for a literal finds.**  The occurrences of a text in a range are said without
  any search: cut a line of the range in three so that the middle part is the text, character by
  character.  A search forward answers with the one that begins first, a search backward with the one
  that begins last, also where occurrences overlap; the listing takes the first one again and again,
  each time behind the one before.
-/
import SourceEditor.Proofs.Pattern.Literal
import SourceEditor.Proofs.Search.Literal
import SourceEditor.Proofs.Search.Places

namespace SourceEditor

namespace Buffer

/-- Whether a pattern occurs at a range inside another range: the range lies on one line, and the
pattern occurs there on the whole line. -/
structure Occurs (b : Buffer) (pattern : Text) (o : FindOptions) (r f : Range) : Prop where
  start : r.start ≤ f.start
  stop : f.stop ≤ r.stop
  single : f.stop.line = f.start.line
  occurs : ∃ l, b.line? f.start.line = some l ∧
    o.OccursOn pattern l.text f.start.col f.stop.col

end Buffer

/-- Whether a range begins no later than another one. -/
def Range.BeginsBy (f g : Range) : Prop := f.start ≤ g.start

/-- Which of two occurrences a search comes upon sooner: the one that begins first or, backward, the
one that begins last. -/
def FindOptions.Ahead (o : FindOptions) (f g : Range) : Prop :=
  if o.reverse = true then g.BeginsBy f else f.BeginsBy g

/-- Occurrences taken one after the other from a point on: the one that begins first of those at
the point or behind it, and then those from its end on. -/
inductive Successive (P : Range → Prop) : Point → List Range → Prop where
  | done {p : Point} (unmatched : IsForemost Range.BeginsBy (fun f => P f ∧ p ≤ f.start) none) :
      Successive P p []
  | next {p : Point} {f : Range} {rest : List Range}
      (first : IsForemost Range.BeginsBy (fun f => P f ∧ p ≤ f.start) (some f))
      (further : Successive P f.stop rest) : Successive P p (f :: rest)

namespace Matcher

variable {b : Buffer} {pattern : Text} {o : FindOptions}

/-! ### Line by line -/

theorem not_occurs_of_lt {p q : Point} (h : q.line < p.line) (f : Range) :
    ¬b.Occurs pattern o ⟨p, q⟩ f := by
  rintro ⟨hstart, hstop, hsingle, _⟩
  rw [Point.le_iff] at hstart hstop
  simp only at hstart hstop
  omega

/-- The occurrences in a range are those on its first line and those from the next line on. -/
theorem occurs_iff_or {p q : Point} {l : Line} (hl : b.line? p.line = some l)
    (hle : p.line ≤ q.line) {f : Range} :
    b.Occurs pattern o ⟨p, q⟩ f ↔
      (∃ c, f = onLine p.line c ∧
        OccursBetween pattern o l.text p.col (limitOn q p.line l) c) ∨
      b.Occurs pattern o ⟨⟨p.line + 1, 0⟩, q⟩ f := by
  constructor
  · rintro ⟨hstart, hstop, hsingle, l', hl', hoccurs⟩
    rw [Point.le_iff] at hstart hstop
    simp only at hstart hstop
    by_cases hfirst : f.start.line = p.line
    · left
      obtain ⟨⟨n, i⟩, ⟨n', j⟩⟩ := f
      simp only at hfirst hsingle hstart hstop hl' hoccurs
      obtain rfl : n = p.line := hfirst
      obtain rfl : n' = p.line := hsingle
      obtain rfl : l = l' := Option.some.inj (hl.symm.trans hl')
      refine ⟨(i, j), rfl, by omega, ?_, hoccurs⟩
      obtain ⟨before, word, after, hline, _, hj, _⟩ := hoccurs
      have hlength : j ≤ l.length := by
        rw [Line.length, hline, List.length_append]
        omega
      rw [limitOn]
      split <;> omega
    · right
      refine ⟨?_, hstop, hsingle, l', hl', hoccurs⟩
      rw [Point.le_iff]
      simp only
      omega
  · rintro (⟨⟨i, j⟩, rfl, hi, hj, hoccurs⟩ | ⟨hstart, hstop, hsingle, hoccurs⟩)
    · refine ⟨.inr ⟨rfl, hi⟩, ?_, rfl, l, hl, hoccurs⟩
      rw [limitOn] at hj
      rw [Point.le_iff]
      simp only [onLine] at hj ⊢
      split at hj <;> omega
    · refine ⟨?_, hstop, hsingle, hoccurs⟩
      rw [Point.le_iff] at hstart ⊢
      simp only at hstart ⊢
      omega

theorem start_le_of_occurs_below {p q : Point} {c : Nat × Nat} {f : Range}
    (h : b.Occurs pattern o ⟨⟨p.line + 1, 0⟩, q⟩ f) : (onLine p.line c).start ≤ f.start := by
  have hstart := h.start
  rw [Point.le_iff] at hstart ⊢
  simp only [onLine] at hstart ⊢
  omega

/-- A search down to a point is right in every range if it is right from any line on as soon as it is
from the next line on. -/
theorem isForemost_of_lines {ahead : Range → Range → Prop} (search : Point → Option Range)
    {q : Point} (hq : b.HasPoint q) (past : ∀ p, q.line < p.line → search p = none)
    (step : ∀ p l, b.line? p.line = some l → p.col ≤ l.length → p.line ≤ q.line →
      IsForemost ahead (b.Occurs pattern o ⟨⟨p.line + 1, 0⟩, q⟩) (search ⟨p.line + 1, 0⟩) →
      IsForemost ahead (b.Occurs pattern o ⟨p, q⟩) (search p))
    {p : Point} (hp : b.HasPoint p) : IsForemost ahead (b.Occurs pattern o ⟨p, q⟩) (search p) := by
  have hpast : ∀ p, q.line < p.line → IsForemost ahead (b.Occurs pattern o ⟨p, q⟩) (search p) := by
    intro p hlt
    rw [past p hlt]
    exact not_occurs_of_lt hlt
  -- the lines from `p` on get fewer
  induction hn : q.line + 1 - p.line generalizing p with
  | zero => exact hpast p (by omega)
  | succ n ih =>
    obtain ⟨l, hl, hcol⟩ := Buffer.hasPoint_iff.mp hp
    apply step p l hl hcol (by omega)
    by_cases hlt : p.line < q.line
    · exact ih (hasPoint_line hq (Nat.succ_ne_zero _) hlt) (by simp only; omega)
    · exact hpast _ (by simp only; omega)

/-- **A search forward finds the occurrence that begins first.** -/
theorem findFirst_literal (nonempty : pattern ≠ []) {p q : Point} (hp : b.HasPoint p)
    (hq : b.HasPoint q) :
    IsForemost Range.BeginsBy (b.Occurs pattern o ⟨p, q⟩)
      ((literal pattern o).findFirst b ⟨p, q⟩) := by
  refine isForemost_of_lines (fun p => (literal pattern o).findFirst b ⟨p, q⟩) hq
    (fun p hlt => findFirst_eq_nil _ b hlt) ?_ hp
  intro p l hl hcol hle hbelow
  have hline := (nextMatch_literal (o := o) nonempty l.text (limitOn q p.line l) p.col).map
    (onLine p.line) Range.BeginsBy fun c d hcd => .inr ⟨rfl, hcd⟩
  rw [findFirst_eq_or _ q hl hcol hle]
  refine (hline.or hbelow ?_).congr fun f => (occurs_iff_or hl hle).symm
  rintro _ f ⟨c, rfl, _⟩ hf
  exact start_le_of_occurs_below hf

/-- The last match of a range that stops on a line of the buffer is the last one of the list of
overlapping matches. -/
theorem findLast_eq_getLast? (m : Matcher) {r : Range} {l : Line} (hl : b.line? r.stop.line = some l) :
    m.findLast b r = ((linesBetween b r.start.line r.stop.line).flatMap fun (n, l) =>
      m.matchesOn r true n l).getLast? := by
  rw [findLast, hl, List.getLast?_flatMap]
  rfl

/-- The last match of a range is the last one from the next line on or, if there is none, the last
one on its first line. -/
theorem findLast_eq_or (m : Matcher) {p q : Point} {l : Line} (hl : b.line? p.line = some l)
    (hcol : p.col ≤ l.length) (hle : p.line ≤ q.line) (hq : b.HasPoint q) :
    m.findLast b ⟨p, q⟩ =
      (m.findLast b ⟨⟨p.line + 1, 0⟩, q⟩).or
        ((m.lineMatches l.text (limitOn q p.line l) true p.col).getLast?.map (onLine p.line)) := by
  obtain ⟨_, hstop, _⟩ := Buffer.hasPoint_iff.mp hq
  rw [findLast_eq_getLast? m hstop, findLast_eq_getLast? m hstop, linesBetween_eq_cons hl hle,
    List.flatMap_cons, List.getLast?_append, ← List.getLast?_map, ← matchesOn_eq m q hcol]
  congr 2
  apply List.flatMap_congr
  rintro ⟨n, l'⟩ hmem
  exact m.matchesOn_below q true l' (mem_linesBetween.mp hmem).2.1

theorem findLast_eq_nil (m : Matcher) (b : Buffer) {p q : Point} (h : q.line < p.line) :
    m.findLast b ⟨p, q⟩ = none := by
  rw [findLast, linesBetween_eq_nil b h]
  simp

/-- **A search backward finds the occurrence that begins last.** -/
theorem findLast_literal (nonempty : pattern ≠ []) {p q : Point} (hp : b.HasPoint p)
    (hq : b.HasPoint q) :
    IsForemost (fun f g => g.BeginsBy f) (b.Occurs pattern o ⟨p, q⟩)
      ((literal pattern o).findLast b ⟨p, q⟩) := by
  refine isForemost_of_lines (fun p => (literal pattern o).findLast b ⟨p, q⟩) hq
    (fun p hlt => findLast_eq_nil _ b hlt) ?_ hp
  intro p l hl hcol hle hbelow
  have hline := (getLast?_lineMatches_literal (o := o) nonempty l.text (limitOn q p.line l)
    p.col).map (onLine p.line) (fun f g => g.BeginsBy f) fun c d hcd => .inr ⟨rfl, hcd⟩
  rw [findLast_eq_or _ hl hcol hle hq]
  refine (hbelow.or hline ?_).congr fun f => or_comm.trans (occurs_iff_or hl hle).symm
  rintro f _ hf ⟨c, rfl, _⟩
  exact start_le_of_occurs_below hf

theorem findIn_literal (nonempty : pattern ≠ []) {p q : Point} (hp : b.HasPoint p)
    (hq : b.HasPoint q) :
    IsForemost o.Ahead (b.Occurs pattern o ⟨p, q⟩)
      ((literal pattern o).findIn b ⟨p, q⟩ o.reverse) := by
  rw [findIn]
  rcases hreverse : o.reverse with _ | _
  · have hahead : o.Ahead = Range.BeginsBy := by
      funext f g
      rw [FindOptions.Ahead, hreverse]
      rfl
    rw [hahead]
    exact findFirst_literal nonempty hp hq
  · have hahead : o.Ahead = fun f g => g.BeginsBy f := by
      funext f g
      rw [FindOptions.Ahead, hreverse]
      rfl
    rw [hahead]
    exact findLast_literal nonempty hp hq

/-! ### One after the other -/

theorem occurs_iff_from {p p' q : Point} (hle : p ≤ p') {f : Range} :
    b.Occurs pattern o ⟨p', q⟩ f ↔ b.Occurs pattern o ⟨p, q⟩ f ∧ p' ≤ f.start := by
  constructor
  · rintro ⟨hstart, hstop, hsingle, hoccurs⟩
    exact ⟨⟨Point.le_trans hle hstart, hstop, hsingle, hoccurs⟩, hstart⟩
  · rintro ⟨⟨_, hstop, hsingle, hoccurs⟩, hstart⟩
    exact ⟨hstart, hstop, hsingle, hoccurs⟩

/-- **The listing takes the first occurrence again and again.** -/
theorem findAllIn_literal (nonempty : pattern ≠ []) {p p' q : Point} (hle : p ≤ p')
    (hp : b.HasPoint p') (hq : b.HasPoint q) :
    Successive (b.Occurs pattern o ⟨p, q⟩) p' ((literal pattern o).findAllIn b ⟨p', q⟩) := by
  induction hfs : (literal pattern o).findAllIn b ⟨p', q⟩ generalizing p' with
  | nil =>
    have hfirst := findFirst_literal (o := o) nonempty hp hq
    rw [findAllIn_eq_nil_iff.mp hfs] at hfirst
    exact .done (hfirst.congr fun f => occurs_iff_from hle)
  | cons f rest ih =>
    have hfirst := findFirst_literal (o := o) nonempty hp hq
    rw [findFirst_eq_some_iff.mpr ⟨rest, hfs⟩] at hfirst
    obtain ⟨l, hl, hsingle, hlt, hstop⟩ := exists_takes_of_mem_findAllIn
      (show f ∈ (literal pattern o).findAllIn b ⟨p', q⟩ by rw [hfs]; exact List.mem_cons_self)
    have hpoint : b.HasPoint f.stop :=
      Buffer.hasPoint_iff.mpr ⟨l, by rw [hsingle]; exact hl, hstop⟩
    have hbehind : p ≤ f.stop :=
      Point.le_trans (Point.le_trans hle hfirst.1.start) (.inr ⟨hsingle.symm, Nat.le_of_lt hlt⟩)
    exact .next (hfirst.congr fun f => occurs_iff_from hle)
      (ih hbehind hpoint (findAllIn_tail hp hq hfs))

theorem not_occurs_of_isEmpty (nonempty : pattern ≠ []) {r : Range} (hempty : r.isEmpty = true)
    (f : Range) : ¬b.Occurs pattern o r f := by
  rintro ⟨hstart, hstop, hsingle, l, _, hoccurs⟩
  have hpos := List.length_pos_iff.mpr nonempty
  obtain ⟨_, hlength, _⟩ := (occursOn_iff nonempty).mp hoccurs
  rw [Range.isEmpty, decide_eq_true_eq] at hempty
  rw [← hempty, Point.le_iff] at hstop
  rw [Point.le_iff] at hstart
  omega

end Matcher

namespace Buffer

/-! ### Searches for literals -/

/-- A search of a range gives an answer, and the answer is the occurrence that the search comes upon
first, or that there is none. -/
structure Finds (b : Buffer) (pattern : Text) (o : FindOptions) (r : Range) (x : Option Range) :
    Prop where
  found : b.find pattern r o = .ok x
  foremost : IsForemost o.Ahead (b.Occurs pattern o r) x

section Literal

variable {b : Buffer} {pattern : Text} {o : FindOptions} (nonempty : pattern ≠ [])
  (accepted : Matcher.ofPattern pattern o = .ok (.literal pattern o))

include nonempty accepted

theorem finds_literal {r : Range} (valid : b.checkRange r = .ok ()) :
    b.Finds pattern o r ((Matcher.literal pattern o).findIn b r o.reverse) := by
  obtain ⟨hstart, hstop, _⟩ := checkRange_eq_ok_iff.mp valid
  refine ⟨?_, Matcher.findIn_literal nonempty hstart hstop⟩
  rw [find, valid, accepted]

/-- The search from a point, with the two parts of the text that it looks at. -/
theorem findNext_eq_of_searchOrder {p : Point} (hp : b.checkPoint p = .ok ()) (wrap : Bool)
    {first second : Range} (order : b.searchOrder p o.reverse = (first, second))
    (hfirst : b.checkRange first = .ok ()) (hsecond : b.checkRange second = .ok ()) :
    ∃ x y, b.Finds pattern o first x ∧ b.Finds pattern o second y ∧
      b.findNext pattern p o wrap = .ok (if wrap = true then x.or y else x) := by
  have hx := finds_literal nonempty accepted hfirst
  have hy := finds_literal nonempty accepted hsecond
  refine ⟨_, _, hx, hy, ?_⟩
  rw [findNext, hp, accepted]
  simp only [order]
  rcases (Matcher.literal pattern o).findIn b first o.reverse with _ | f
  · cases wrap with
    | false => rfl
    | true =>
      simp only [Bool.true_and, if_true, Option.none_or]
      by_cases hempty : second.isEmpty = true
      · -- an empty range is not searched, but nothing occurs there either
        have hnone : (Matcher.literal pattern o).findIn b second o.reverse = none := by
          have hforemost := hy.foremost
          rcases hfound : (Matcher.literal pattern o).findIn b second o.reverse with _ | f
          · rfl
          · rw [hfound] at hforemost
            exact absurd hforemost.1 (Matcher.not_occurs_of_isEmpty nonempty hempty f)
        rw [hempty, hnone]
        rfl
      · rw [Bool.not_eq_true] at hempty
        rw [hempty]
        rfl
  · cases wrap <;> rfl

theorem findNext_literal {p : Point} (hp : b.checkPoint p = .ok ()) (wrap : Bool) :
    ∃ x y,
      b.Finds pattern o (if o.reverse = true then ⟨b.startPoint, p⟩ else ⟨p, b.stopPoint⟩) x ∧
      b.Finds pattern o (if o.reverse = true then ⟨p, b.stopPoint⟩ else ⟨b.startPoint, p⟩) y ∧
      b.findNext pattern p o wrap = .ok (if wrap = true then x.or y else x) := by
  have hpoint := checkPoint_eq_ok_iff.mp hp
  have hbefore : b.checkRange ⟨b.startPoint, p⟩ = .ok () :=
    checkRange_eq_ok_iff.mpr ⟨b.hasPoint_startPoint, hpoint, startPoint_le hpoint⟩
  have hafter : b.checkRange ⟨p, b.stopPoint⟩ = .ok () :=
    checkRange_eq_ok_iff.mpr ⟨hpoint, b.hasPoint_stopPoint, le_stopPoint hpoint⟩
  by_cases hreverse : o.reverse = true
  · simp only [if_pos hreverse]
    exact findNext_eq_of_searchOrder nonempty accepted hp wrap (by rw [hreverse]; rfl) hbefore hafter
  · simp only [if_neg hreverse]
    rw [Bool.not_eq_true] at hreverse
    exact findNext_eq_of_searchOrder nonempty accepted hp wrap (by rw [hreverse]; rfl) hafter hbefore

end Literal

/-- With case taken into account a literal is admitted up to a number of bytes. -/
theorem admits_iff_of_case {pattern : Text} {o : FindOptions} (nonempty : pattern ≠ [])
    (hcase : o.caseSensitive = true) :
    o.Admits pattern ↔ (Pattern.textBytes pattern).length ≤ Pattern.Expr.longestLiteral := by
  rw [FindOptions.Admits, hcase, Bool.not_true, Pattern.Expr.ofText_of_case nonempty,
    Pattern.Expr.fits_literal_iff]

/-- **What a search for a literal finds.**  A text that is admitted as a pattern is found where it
occurs and nowhere else.  In any range the search forward gives the occurrence that begins first
and the search backward the one that begins last, overlapping or not, and nothing exactly if there is
no occurrence; the listing gives the first occurrence again and again, each time behind the one
before; and the search from a point gives the answer for the text on its side of the point or, going
round, for the other side.  A text that takes too much memory as a pattern is refused by all three,
which depends on the number of its bytes alone if case counts. -/
theorem literal_is_found_where_it_occurs (b : Buffer) {pattern : Text} {o : FindOptions}
    (nonempty : pattern ≠ []) (plain : o.useRegex = false) :
    (o.Admits pattern →
      (∀ r, b.checkRange r = .ok () → ∃ x, b.Finds pattern o r x) ∧
      (∀ r, b.checkRange r = .ok () →
        ∃ fs, b.findAll pattern r o = .ok fs ∧ Successive (b.Occurs pattern o r) r.start fs) ∧
      (∀ p wrap, b.checkPoint p = .ok () → ∃ x y,
        b.Finds pattern o (if o.reverse = true then ⟨b.startPoint, p⟩ else ⟨p, b.stopPoint⟩) x ∧
        b.Finds pattern o (if o.reverse = true then ⟨p, b.stopPoint⟩ else ⟨b.startPoint, p⟩) y ∧
        b.findNext pattern p o wrap = .ok (if wrap = true then x.or y else x))) ∧
    (¬o.Admits pattern →
      (∀ r, b.checkRange r = .ok () →
        b.find pattern r o = .error (.pattern .tooLarge) ∧
        b.findAll pattern r o = .error (.pattern .tooLarge)) ∧
      ∀ p wrap, b.checkPoint p = .ok () →
        b.findNext pattern p o wrap = .error (.pattern .tooLarge)) ∧
    (o.caseSensitive = true →
      (o.Admits pattern ↔
        (Pattern.textBytes pattern).length ≤ Pattern.Expr.longestLiteral)) := by
  refine ⟨?_, ?_, admits_iff_of_case nonempty⟩
  · intro admitted
    have accepted := Matcher.ofPattern_literal nonempty plain admitted
    refine ⟨fun r valid => ⟨_, finds_literal nonempty accepted valid⟩, ?_,
      fun p wrap hp => findNext_literal nonempty accepted hp wrap⟩
    intro r valid
    obtain ⟨hstart, hstop, _⟩ := checkRange_eq_ok_iff.mp valid
    refine ⟨_, ?_, Matcher.findAllIn_literal nonempty (Point.le_refl _) hstart hstop⟩
    rw [findAll, valid, Matcher.ofPattern_forward nonempty plain admitted]
  · intro refused
    have hrefused := Matcher.ofPattern_tooLarge nonempty plain refused
    refine ⟨?_, ?_⟩
    · intro r valid
      constructor
      · rw [find, valid, hrefused]
      · rw [findAll, valid, Matcher.ofPattern_forward_tooLarge nonempty plain refused]
    · intro p wrap hp
      rw [findNext, hp, hrefused]

/-- Searching backward for whole words, in either case, from the middle of a word to the middle of
another one: the first two letters stand in a longer word, and the last two go beyond the range.
From the start of the word found the search goes round to the second line. -/
theorem literal_is_found_where_it_occurs_of_words :
    let b := Buffer.ofText ['x', 'a', 'a', ' ', 'a', 'A', '\n', 'a', 'a'] .plainText
    let o : FindOptions := { wholeWord := true, reverse := true }
    let r : Range := ⟨⟨1, 1⟩, ⟨2, 1⟩⟩
    let f : Range := ⟨⟨1, 4⟩, ⟨1, 6⟩⟩
    let g : Range := ⟨⟨2, 0⟩, ⟨2, 2⟩⟩
    o.Admits ['a', 'a'] ∧ b.checkRange r = .ok () ∧ b.checkPoint f.start = .ok () ∧
      b.Finds ['a', 'a'] o r (some f) ∧ Successive (b.Occurs ['a', 'a'] o r) r.start [f] ∧
      b.Finds ['a', 'a'] o ⟨⟨1, 0⟩, ⟨1, 4⟩⟩ none ∧
      b.Finds ['a', 'a'] o ⟨⟨1, 4⟩, ⟨2, 2⟩⟩ (some g) ∧
      b.findNext ['a', 'a'] f.start o true = .ok (some g) := by
  intro b o r f g
  have nonempty : (['a', 'a'] : Text) ≠ [] := List.cons_ne_nil _ _
  have admitted : o.Admits ['a', 'a'] := by
    rw [FindOptions.Admits]
    decide +kernel
  have valid : b.checkRange r = .ok () := by decide +kernel
  have hpoint : b.checkPoint f.start = .ok () := by decide +kernel
  obtain ⟨hfind, hall, hnext⟩ :=
    (literal_is_found_where_it_occurs b (o := o) nonempty rfl).1 admitted
  -- the pattern is charged for its memory once, and not in every search again
  have accepted := Matcher.ofPattern_literal nonempty rfl admitted
  have hlisted : b.findAll ['a', 'a'] r o = .ok [f] := by
    rw [findAll, valid, Matcher.ofPattern_forward nonempty rfl admitted]
    decide +kernel
  have hfound : b.find ['a', 'a'] r o = .ok (some f) := by
    rw [find, valid, accepted]
    decide +kernel
  have hbefore : b.find ['a', 'a'] ⟨b.startPoint, f.start⟩ o = .ok none := by
    rw [find, accepted]
    decide +kernel
  have hafter : b.find ['a', 'a'] ⟨f.start, b.stopPoint⟩ o = .ok (some g) := by
    rw [find, accepted]
    decide +kernel
  obtain ⟨x, hx⟩ := hfind r valid
  obtain rfl : x = some f := Except.ok.inj (hx.found.symm.trans hfound)
  obtain ⟨fs, hfs, hsuccessive⟩ := hall r valid
  obtain rfl : fs = [f] := Except.ok.inj (hfs.symm.trans hlisted)
  obtain ⟨y, z, hy, hz, hround⟩ := hnext f.start true hpoint
  obtain rfl : y = none := Except.ok.inj (hy.found.symm.trans hbefore)
  obtain rfl : z = some g := Except.ok.inj (hz.found.symm.trans hafter)
  exact ⟨admitted, valid, hpoint, hx, hsuccessive, hy, hz, hround⟩

/-- A text with more letters than a pattern may have bytes is refused, although no such text occurs
in the buffer. -/
theorem long_literal_is_refused :
    let b := Buffer.ofText ['a'] .plainText
    let pattern : Text := List.replicate 330000 'a'
    let o : FindOptions := { caseSensitive := true }
    pattern ≠ [] ∧ o.useRegex = false ∧ b.checkRange b.range = .ok () ∧
      (∀ f, ¬b.Occurs pattern o b.range f) ∧ ∀ x, b.find pattern b.range o ≠ .ok x := by
  intro b pattern o
  have hlength : pattern.length = 330000 := List.length_replicate
  have nonempty : pattern ≠ [] := List.ne_nil_of_length_pos (by omega)
  have valid : b.checkRange b.range = .ok () := by decide
  have refused : ¬o.Admits pattern := by
    have hbytes := Pattern.Expr.length_le_length_textBytes pattern
    rw [admits_iff_of_case nonempty rfl, Pattern.Expr.longestLiteral]
    omega
  refine ⟨nonempty, rfl, valid, ?_, ?_⟩
  · rintro f ⟨hstart, hstop, hsingle, l, _, hoccurs⟩
    obtain ⟨_, hend, _⟩ := (Matcher.occursOn_iff nonempty).mp hoccurs
    have hrange : b.range = ⟨⟨1, 0⟩, ⟨1, 1⟩⟩ := by decide
    rw [hrange, Point.le_iff] at hstart hstop
    simp only at hstart hstop
    omega
  · intro x hx
    rw [find, valid, Matcher.ofPattern_tooLarge nonempty rfl refused] at hx
    cases hx

end Buffer

end SourceEditor
