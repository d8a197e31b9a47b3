/-
  SourceEditor/Proofs/Search/Substitution.lean
  ============================================
  **Replacing a literal is substitution.**  A literal that need not be a whole word is found
  whatever stands before it, so no inserted text hides a match behind it or makes a new one there.
  Replacing all matches one after the other therefore comes to the same as listing them first and
  replacing all of them at once.
-/
import SourceEditor.Proofs.Listing.Buffers
import SourceEditor.Proofs.Search.Occurrences
import SourceEditor.Proofs.Search.ReplaceAll

namespace SourceEditor

namespace Matcher

variable {pattern : Text} {o : FindOptions}

/-- A match of a literal gives way to the replacement itself. -/
theorem inserted_literal (b : Buffer) (replacement : Text) (f : Range) :
    (literal pattern o).inserted b replacement f = replacement.normalized := by
  rw [inserted, Matcher.replacement]
  rcases b.line? f.start.line with _ | l <;> rfl

theorem stretch_literal (b : Buffer) (replacement : Text) :
    (literal pattern o).stretch b replacement =
      fun f => (b.offset f.start, b.offset f.stop, replacement.normalized) := by
  funext f
  rw [stretch, inserted_literal]

/-- A literal that need not be a whole word cannot tell what stands before it. -/
theorem alike_literal (anywhere : o.wholeWord = false) (x x' : Text) :
    (literal pattern o).Alike x x' where
  regex := Regex.alike_literal _ _ x x'
  words h := absurd (anywhere.symm.trans h) Bool.false_ne_true

end Matcher

namespace Buffer

/-- **Replacing all occurrences of a literal is simultaneous substitution.**  In any buffer, the
matches listed in a range are the occurrences taken one after the other, and replacing all of them
makes one edit for each, in their order: it removes the match and inserts the replacement with its
line breaks normalised.  The text in the end is the text as it was with every listed match replaced,
and nothing else changed.  A text that takes too much memory as a pattern is refused by both, and
the buffer stays as it is. -/
theorem Obtained.replaceAll_substitutes {b : Buffer} (obtained : b.Obtained) {pattern : Text}
    (replacement : Text) {r : Range} {o : FindOptions} (nonempty : pattern ≠ [])
    (plain : o.useRegex = false) (anywhere : o.wholeWord = false)
    (valid : b.checkRange r = .ok ()) :
    (o.Admits pattern →
      ∃ fs es b', b.findAll pattern r o = .ok fs ∧
        Successive (b.Occurs pattern o r) r.start fs ∧
        b.replaceAll pattern replacement r o = (.ok es, b') ∧ es.length = fs.length ∧
        es.map Edit.removed = fs.map b.slice ∧
        (∀ e ∈ es, e.inserted = replacement.normalized) ∧
        b'.text = b.text.replaceEach 0
          (fs.map fun f => (b.offset f.start, b.offset f.stop, replacement.normalized))) ∧
    (¬o.Admits pattern →
      b.findAll pattern r o = .error (.pattern .tooLarge) ∧
      b.replaceAll pattern replacement r o = (.error (.pattern .tooLarge), b)) := by
  have hb := obtained.isClean
  constructor
  · intro admitted
    have accepted := Matcher.ofPattern_forward nonempty plain admitted
    have listed : b.findAll pattern r o = .ok ((Matcher.literal pattern o).findAllIn b r) := by
      rw [findAll, valid, accepted]
    obtain ⟨hstart, hstop, _⟩ := checkRange_eq_ok_iff.mp valid
    obtain ⟨es, b', hall, hinter⟩ := exists_replaceAll_interleaved hb replacement valid accepted
    obtain ⟨hremoved, hinserted, hfinal⟩ := hinter.agrees_on_range hb valid
      fun f _ => Matcher.alike_literal anywhere _ _
    have hlength := congrArg List.length hremoved
    rw [List.length_map, List.length_map] at hlength
    refine ⟨_, es, b', listed,
      Matcher.findAllIn_literal nonempty (Point.le_refl _) hstart hstop, hall, hlength, hremoved,
      ?_, ?_⟩
    · intro e he
      have hmem : e.inserted ∈ es.map Edit.inserted := List.mem_map_of_mem he
      rw [hinserted] at hmem
      obtain ⟨f, _, heq⟩ := List.mem_map.mp hmem
      rw [← heq, Matcher.inserted_literal]
    · rw [hfinal, Matcher.stretch_literal]
  · intro refused
    have hrefused := Matcher.ofPattern_forward_tooLarge nonempty plain refused
    constructor
    · rw [findAll, valid, hrefused]
    · rw [replaceAll, valid, hrefused]

/-- The replacement holds a line break and begins and ends with what is replaced.  The range begins
behind the first letter and ends in front of the last one, on a line that moves down. -/
theorem replaceAll_substitutes_of_own_match :
    let b := Buffer.ofText ['a', 'b', 'A', 'a', '\n', 'A', 'c', 'a'] .plainText
    let r : Range := ⟨⟨1, 1⟩, ⟨2, 2⟩⟩
    let o : FindOptions := {}
    o.Admits ['a'] ∧ b.checkRange r = .ok () ∧
      ∃ es b', b.replaceAll ['a'] ['a', '\r', '\n', 'A'] r o = (.ok es, b') ∧ es.length = 3 ∧
        es.map Edit.removed = [['A'], ['a'], ['A']] ∧
        b'.text = ['a', 'b', 'a', '\n', 'A', 'a', '\n', 'A', '\n', 'a', '\n', 'A', 'c', 'a'] := by
  intro b r o
  have admitted : o.Admits ['a'] := by
    rw [FindOptions.Admits]
    decide +kernel
  have valid : b.checkRange r = .ok () := by decide +kernel
  have hlisted : b.findAll ['a'] r o =
      .ok [⟨⟨1, 2⟩, ⟨1, 3⟩⟩, ⟨⟨1, 3⟩, ⟨1, 4⟩⟩, ⟨⟨2, 0⟩, ⟨2, 1⟩⟩] := by
    rw [findAll, valid, Matcher.ofPattern_forward (List.cons_ne_nil _ _) rfl admitted]
    decide +kernel
  obtain ⟨fs, es, b', hfs, _, hall, hlength, hremoved, _, htext⟩ :=
    ((Obtained.ofReachable (.ofText _ _)).replaceAll_substitutes ['a', '\r', '\n', 'A']
      (List.cons_ne_nil _ _) rfl rfl valid).1 admitted
  obtain rfl := Except.ok.inj (hfs.symm.trans hlisted)
  refine ⟨admitted, valid, es, b', hall, hlength, hremoved.trans ?_, htext.trans ?_⟩
  · decide +kernel
  · decide +kernel

end Buffer

end SourceEditor
