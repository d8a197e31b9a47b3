/-
  SourceEditor/Proofs/Search/Wrapping.lean
  ========================================
  **Searching round the whole text.**  A search that goes round looks at the text on one side of a
  point and then at the text on the other side.  It finds what lies on either side, in whichever
  order it looks at them; what it cannot find is an occurrence that the point itself lies inside of.
-/
import SourceEditor.Proofs.Search.Occurrences
import SourceEditor.Proofs.Search.Stepping

namespace SourceEditor

/-- Whether a point lies inside a range, and at neither end of it. -/
def Range.IsAround (f : Range) (p : Point) : Prop := f.start < p ∧ p < f.stop

theorem Range.not_isAround_iff {f : Range} {p : Point} :
    ¬f.IsAround p ↔ f.stop ≤ p ∨ p ≤ f.start := by
  rw [IsAround, ← Point.not_le, ← Point.not_le, not_and_or, not_not, not_not, or_comm]

/-- Of matches that do not overlap, a point lies inside one at most. -/
theorem Range.eq_nil_or_singleton_of_isAround {fs : List Range} {p : Point}
    (apart : fs.Pairwise fun f g => f.stop ≤ g.start) (haround : ∀ f ∈ fs, f.IsAround p) :
    fs = [] ∨ ∃ f : Range, fs = [f] ∧ f.IsAround p := by
  match fs with
  | [] => exact .inl rfl
  | [f] => exact .inr ⟨f, rfl, haround f List.mem_cons_self⟩
  | f :: g :: rest =>
    -- the point would lie in front of the end of one match and behind the start of the next one
    have hle := List.rel_of_pairwise_cons apart List.mem_cons_self
    have hg := Point.le_of_lt (haround g (List.mem_cons_of_mem f List.mem_cons_self)).1
    exact absurd (Point.le_trans hle hg) (Point.not_le.mpr (haround f List.mem_cons_self).2)

theorem Successive.of_mem {P : Range → Prop} {p : Point} {fs : List Range}
    (h : Successive P p fs) {f : Range} (hf : f ∈ fs) : P f := by
  induction h with
  | done => cases hf
  | next first _ ih =>
    rcases List.mem_cons.mp hf with rfl | hf
    · exact first.1.1
    · exact ih hf

namespace Buffer

variable {b : Buffer} {pattern : Text} {o : FindOptions} {p : Point}

/-- An occurrence in the text that a point does not lie inside of is before the point or behind
it. -/
theorem occurs_on_side_iff (hp : b.HasPoint p) {f : Range} :
    b.Occurs pattern o ⟨b.startPoint, p⟩ f ∨ b.Occurs pattern o ⟨p, b.stopPoint⟩ f ↔
      b.Occurs pattern o b.range f ∧ ¬f.IsAround p := by
  rw [Range.not_isAround_iff]
  constructor
  · rintro (hf | hf)
    · exact ⟨⟨hf.start, Point.le_trans hf.stop (le_stopPoint hp), hf.single, hf.occurs⟩,
        .inl hf.stop⟩
    · exact ⟨⟨Point.le_trans (startPoint_le hp) hf.start, hf.stop, hf.single, hf.occurs⟩,
        .inr hf.start⟩
  · rintro ⟨hf, hstop | hstart⟩
    · exact .inl ⟨hf.start, hstop, hf.single, hf.occurs⟩
    · exact .inr ⟨hstart, hf.stop, hf.single, hf.occurs⟩

section Literal

variable (nonempty : pattern ≠ []) (plain : o.useRegex = false)

include nonempty plain

/-- Of the two parts of the text on the sides of a point, one is searched first and then the other
one. -/
theorem findNext_round_eq_none_iff (admitted : o.Admits pattern)
    (valid : b.checkPoint p = .ok ()) :
    b.findNext pattern p o true = .ok none ↔
      ∀ f, b.Occurs pattern o b.range f → f.IsAround p := by
  have hsides : (∀ f, b.Occurs pattern o b.range f → f.IsAround p) ↔
      (∀ f, ¬b.Occurs pattern o ⟨b.startPoint, p⟩ f) ∧
        ∀ f, ¬b.Occurs pattern o ⟨p, b.stopPoint⟩ f := by
    rw [← forall_and]
    apply forall_congr'
    intro f
    rw [← not_or, occurs_on_side_iff (checkPoint_eq_ok_iff.mp valid), not_and, not_not]
  obtain ⟨x, y, hx, hy, hnext⟩ :=
    findNext_literal nonempty (Matcher.ofPattern_literal nonempty plain admitted) valid true
  have hx := hx.foremost.eq_none_iff
  have hy := hy.foremost.eq_none_iff
  rw [hnext, if_pos rfl, Except.ok.injEq, Option.or_eq_none_iff, hx, hy, hsides]
  by_cases hreverse : o.reverse = true
  · simp only [if_pos hreverse]
  · simp only [if_neg hreverse]
    exact and_comm

/-- If a point lies inside all occurrences in the buffer, the listing has one match at most. -/
theorem findAll_around (admitted : o.Admits pattern)
    (haround : ∀ f, b.Occurs pattern o b.range f → f.IsAround p) :
    b.findAll pattern b.range o = .ok [] ∨
      ∃ f : Range, b.findAll pattern b.range o = .ok [f] ∧ f.IsAround p := by
  have hlisted : Successive (b.Occurs pattern o b.range) b.startPoint
      ((Matcher.literal pattern o).findAllIn b b.range) :=
    Matcher.findAllIn_literal nonempty (Point.le_refl _) b.hasPoint_startPoint
      b.hasPoint_stopPoint
  rw [findAll_range_eq (Matcher.ofPattern_forward nonempty plain admitted)]
  rcases Range.eq_nil_or_singleton_of_isAround
      ((Matcher.literal pattern o).pairwise_findAllIn b.hasPoint_startPoint b.hasPoint_stopPoint)
      (fun f hf => haround f (hlisted.of_mem hf)) with hnil | ⟨f, hf, hp⟩
  · exact .inl (congrArg Except.ok hnil)
  · exact .inr ⟨f, congrArg Except.ok hf, hp⟩

/-- **A search that goes round misses only what is around its start.**  It finds nothing exactly if
the point where it starts lies inside every occurrence of the literal in the buffer, and at neither
end of it.  Then the listing of the whole buffer is empty, or it has a single match, which the point
lies inside of. -/
theorem findNext_round_misses_around (valid : b.checkPoint p = .ok ()) :
    (b.findNext pattern p o true = .ok none ↔
      o.Admits pattern ∧ ∀ f, b.Occurs pattern o b.range f → f.IsAround p) ∧
    (b.findNext pattern p o true = .ok none →
      b.findAll pattern b.range o = .ok [] ∨
        ∃ f : Range, b.findAll pattern b.range o = .ok [f] ∧ f.IsAround p) := by
  have hround : b.findNext pattern p o true = .ok none ↔
      o.Admits pattern ∧ ∀ f, b.Occurs pattern o b.range f → f.IsAround p := by
    by_cases admitted : o.Admits pattern
    · rw [findNext_round_eq_none_iff nonempty plain admitted valid, and_iff_right admitted]
    · -- a refused pattern is an error, not a search in vain
      rw [findNext, valid, Matcher.ofPattern_tooLarge nonempty plain admitted]
      exact iff_of_false (by simp) fun h => admitted h.1
  refine ⟨hround, ?_⟩
  intro hnone
  obtain ⟨admitted, haround⟩ := hround.mp hnone
  exact findAll_around nonempty plain admitted haround

end Literal

/-- Backward and for whole words, from inside the only one: the letters at the start of the line
stand in a longer word. -/
theorem findNext_round_misses_around_of_word :
    let b := Buffer.ofText ['a', 'a', 'b', ' ', 'A', 'a'] .plainText
    let o : FindOptions := { wholeWord := true, reverse := true }
    b.checkPoint ⟨1, 5⟩ = .ok () ∧ b.findNext ['a', 'a'] ⟨1, 5⟩ o true = .ok none ∧
      o.Admits ['a', 'a'] ∧ (∀ f, b.Occurs ['a', 'a'] o b.range f → f.IsAround ⟨1, 5⟩) ∧
      ∃ f : Range, b.findAll ['a', 'a'] b.range o = .ok [f] ∧ f.IsAround ⟨1, 5⟩ := by
  intro b o
  have nonempty : (['a', 'a'] : Text) ≠ [] := List.cons_ne_nil _ _
  have admitted : o.Admits ['a', 'a'] := by
    rw [FindOptions.Admits]
    decide +kernel
  have valid : b.checkPoint ⟨1, 5⟩ = .ok () := by decide +kernel
  have hnone : b.findNext ['a', 'a'] ⟨1, 5⟩ o true = .ok none := by
    rw [findNext, valid, Matcher.ofPattern_literal nonempty rfl admitted]
    decide +kernel
  have hsome : b.findAll ['a', 'a'] b.range o ≠ .ok [] := by
    rw [findAll, Matcher.ofPattern_forward nonempty rfl admitted]
    decide +kernel
  obtain ⟨hround, hlisted⟩ := findNext_round_misses_around (o := o) nonempty rfl valid
  exact ⟨valid, hnone, admitted, (hround.mp hnone).2, (hlisted hnone).resolve_left hsome⟩

/-- From inside the only match the search goes round and does not come upon it: it is in neither of
the two parts of the line. -/
theorem round_search_misses_match :
    let b := Buffer.ofText ['a', 'b', 'c'] .plainText
    let o : FindOptions := { caseSensitive := true }
    b.checkPoint ⟨1, 1⟩ = .ok () ∧ b.findNext ['a', 'b', 'c'] ⟨1, 1⟩ o true = .ok none ∧
      b.findAll ['a', 'b', 'c'] b.range o = .ok [⟨⟨1, 0⟩, ⟨1, 3⟩⟩] := by
  decide +kernel

end Buffer

end SourceEditor
