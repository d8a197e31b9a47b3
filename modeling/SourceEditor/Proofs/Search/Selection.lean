/-
  SourceEditor/Proofs/Search/Selection.lean
  =========================================
  **Replacing the match that is selected.**  Whether the selection is replaced is decided by a
  search inside it.  If the next match is the selection, that search finds it as well; and if the
  next match does not go past the end of the selection, it finds nothing else.  But where the next
  match goes past the end, the selection may be what is found on the line cut there, and then it is
  replaced although it is not the next match.
-/
import SourceEditor.Proofs.Search.Cuts
import SourceEditor.Proofs.Search.Literal
import SourceEditor.Proofs.Search.Refusal
import SourceEditor.Proofs.Search.Stepping

namespace SourceEditor

namespace Matcher

variable {m : Matcher} {b : Buffer} {pattern : Text} {o : FindOptions} {s : Range}

/-- Whether a range is what a search inside it finds only because a longer match is cut at its end:
the match found from its start on goes past its end, and on the line cut there the whole range is
a match that counts. -/
def IsCutTo (m : Matcher) (b : Buffer) (s : Range) : Prop :=
  s.stop.line = s.start.line ∧ ∃ l, b.line? s.start.line = some l ∧
    m.IsCutAt l.text s.stop.col s.start.col ∧
    m.FindsAt l.text (l.text.take s.stop.col) s.start.col s.stop.col

/-- No longer match of a literal is cut: all of them are equally long. -/
theorem useRegex_of_isCutTo (accepted : ofPattern pattern o = .ok m) (h : m.IsCutTo b s) :
    o.useRegex = true := by
  by_contra hplain
  rw [Bool.not_eq_true] at hplain
  obtain ⟨nonempty, rfl⟩ := eq_literal_of_ofPattern hplain accepted
  obtain ⟨_, l, _, ⟨g, hg, hlt⟩, f, hf, _, hstart, hstop⟩ := h
  obtain ⟨hlength, _, hleast⟩ := le_of_findAt_literal hg
  obtain ⟨hlength', hstands, _⟩ := le_of_findAt_literal hf
  have hstands' := ((Literal.beginsWith_drop_take nonempty).mp hstands).1
  have hle := hleast f.start (by omega) hstands'
  have hge := le_start_of_findAt hg
  omega

section Line

variable {l : Line} (valid : b.checkRange s = .ok ()) (hl : b.line? s.start.line = some l)
  (single : s.stop.line = s.start.line)

include valid hl single

theorem stop_le_length : s.start.col ≤ s.stop.col ∧ s.stop.col ≤ l.length := by
  obtain ⟨_, hstop, hle⟩ := Buffer.checkRange_eq_ok_iff.mp valid
  obtain ⟨l', hl', hcol⟩ := Buffer.hasPoint_iff.mp hstop
  obtain rfl : l = l' := Option.some.inj (hl.symm.trans (single ▸ hl'))
  rw [Point.le_iff] at hle
  omega

/-- Up to the end of the text, a range on one line is the first match from its start exactly if the
pattern matches it on the whole line. -/
theorem findFirst_from_iff :
    m.findFirst b ⟨s.start, b.stopPoint⟩ = some s ↔
      m.FindsAt l.text l.text s.start.col s.stop.col := by
  obtain ⟨hle, hcol⟩ := stop_le_length valid hl single
  have hstart := (Buffer.checkRange_eq_ok_iff.mp valid).1
  have hline : s.start.line ≤ b.stopPoint.line := by
    have := Point.le_iff.mp (Buffer.le_stopPoint hstart)
    omega
  rw [show s = ⟨s.start, s.stop⟩ from rfl, findFirst_at_iff hstart hline hl,
    and_iff_right single, limitOn_of_endsLine b.endsLine_stopPoint hl]
  exact nextMatch_to_end_iff (Nat.le_trans hle hcol)

/-- Inside a range on one line, the range is the first match exactly if the pattern matches it on
the whole line or, in the place of a longer match, on the line cut at its end. -/
theorem findFirst_inside_iff :
    m.findFirst b s = some s ↔
      m.findFirst b ⟨s.start, b.stopPoint⟩ = some s ∨ m.IsCutTo b s := by
  obtain ⟨hle, hcol⟩ := stop_le_length valid hl single
  have hstart := (Buffer.checkRange_eq_ok_iff.mp valid).1
  have hlimit : limitOn s.stop s.start.line l = s.stop.col := by
    rw [limitOn, if_pos single.symm, Nat.min_eq_left hcol]
  have hcut : m.IsCutTo b s ↔ m.IsCutAt l.text s.stop.col s.start.col ∧
      m.FindsAt l.text (l.text.take s.stop.col) s.start.col s.stop.col := by
    rw [IsCutTo, hl, and_iff_right single]
    simp
  rw [findFirst_from_iff valid hl single, hcut, show s = ⟨s.start, s.stop⟩ from rfl,
    findFirst_at_iff hstart (Nat.le_of_eq single.symm) hl, and_iff_right single]
  simp only [hlimit]
  rw [nextMatch_at_iff, and_iff_right hle, and_iff_left (Nat.le_refl _)]

/-- What is found on the cut line only is no match on the whole line. -/
theorem not_findFirst_of_isCutTo (h : m.IsCutTo b s) :
    m.findFirst b ⟨s.start, b.stopPoint⟩ ≠ some s := by
  rw [Ne, findFirst_from_iff valid hl single]
  obtain ⟨_, l', hl', ⟨g, hg, hlt⟩, _⟩ := h
  obtain rfl : l = l' := Option.some.inj (hl.symm.trans hl')
  rintro ⟨f, hf, _, _, hstop⟩
  obtain rfl : g = f := Option.some.inj (hg.symm.trans hf)
  omega

end Line

/-- A range is the first match inside itself exactly if it is the first match from its start, or the
match that begins there is longer and cut at its end. -/
theorem findFirst_self_iff (valid : b.checkRange s = .ok ()) :
    m.findFirst b s = some s ↔
      m.findFirst b ⟨s.start, b.stopPoint⟩ = some s ∨ m.IsCutTo b s := by
  obtain ⟨l, hl, _⟩ := Buffer.hasPoint_iff.mp (Buffer.checkRange_eq_ok_iff.mp valid).1
  by_cases single : s.stop.line = s.start.line
  · exact findFirst_inside_iff valid hl single
  · refine iff_of_false (fun h => single (single_of_findFirst h)) ?_
    rintro (h | h)
    · exact single (single_of_findFirst h)
    · exact single h.1

end Matcher

namespace Buffer

variable {b : Buffer} {E : Engine} {pattern : Text} {o : FindOptions} {m : Matcher}
  {selection : Range}

/-- A selection that is replaced is the first match inside itself. -/
theorem replace_of_replaceNext {b b' : Buffer} {E : Engine} {pattern template : Text}
    {selection : Range} {o : FindOptions} {wrap : Bool} {e : Edit} {next : Option Range}
    (h : b.replaceNext pattern template selection o wrap E = (.ok (.replaced e next), b')) :
    ∃ m b₁, Matcher.ofPattern pattern o E = .ok m ∧ m.findFirst b selection = some selection ∧
      b.replace selection (m.replacement b selection template) = (.ok e, b₁) := by
  rw [replaceNext] at h
  rcases hcheck : b.checkRange selection with error | ⟨⟩
  · rw [hcheck] at h
    cases h
  · rcases hm : Matcher.ofPattern pattern o E with error | m
    · rw [hcheck, hm] at h
      cases h
    · rw [hcheck, hm] at h
      dsimp only at h
      split at h
      · rename_i hfound
        rw [Bool.and_eq_true, beq_iff_eq] at hfound
        rcases hreplace : b.replace selection (m.replacement b selection template) with
          ⟨error | e', b₁⟩
        · rw [hreplace] at h
          cases h
        · rw [hreplace] at h
          dsimp only at h
          split at h
          · cases h
          · cases h
            exact ⟨m, _, rfl, hfound.2, hreplace⟩
      · split at h <;> cases h

section Accepted

variable (accepted : Matcher.ofPattern pattern o E = .ok m)
  (valid : b.checkRange selection = .ok ()) (template : Text) (wrap : Bool)

include accepted valid

/-- A selection that is the first match inside itself is replaced, and the search goes on from the
text inserted. -/
theorem exists_replaceNext (hb : b.IsClean)
    (found : m.findFirst b selection = some selection) :
    ∃ e next b', b.replace selection (m.replacement b selection template) = (.ok e, b') ∧
      b'.findNext pattern (if o.reverse = true then e.range.start else e.caret) o wrap E =
        .ok next ∧
      b.replaceNext pattern template selection o wrap E = (.ok (.replaced e next), b') := by
  have nonempty := Matcher.isEmpty_of_findFirst found
  obtain ⟨s, t, u, htext, rfl⟩ := exists_split_of_checkRange hb valid
  obtain ⟨_, _, _, e, b', _, _, _, hreplace, _⟩ :=
    Matcher.exists_replace_of_found template hb htext found
  obtain ⟨hstart, hcaret⟩ := hasPoint_of_edit hb (q := .replace _ _) hreplace
  have hpoint : b'.HasPoint (if o.reverse = true then e.range.start else e.caret) := by
    split
    · exact hstart
    · exact hcaret
  obtain ⟨next, hnext⟩ := findNext_isOk hpoint accepted wrap
  refine ⟨e, next, b', hreplace, hnext, ?_⟩
  rw [replaceNext, valid, accepted]
  simp only [nonempty, found, Bool.not_false, Bool.true_and, beq_self_eq_true, if_true, hreplace,
    hnext]

/-- Any other selection is left alone, and the next match is to be selected. -/
theorem exists_findNext_of_replaceNext (hfound : m.findFirst b selection ≠ some selection) :
    ∃ next, b.findNext pattern selection.start o wrap E = .ok next ∧
      b.replaceNext pattern template selection o wrap E =
        (.ok (next.elim .notFound .selected), b) := by
  obtain ⟨next, hnext⟩ := findNext_isOk (checkRange_eq_ok_iff.mp valid).1 accepted wrap
  refine ⟨next, hnext, ?_⟩
  rw [replaceNext, valid, accepted]
  simp only [beq_eq_false_iff_ne.mpr hfound, Bool.and_false, Bool.false_eq_true, if_false, hnext]
  cases next <;> rfl

/-- The search forward from the start of the selection, without going round, gives the selection
exactly if it is the first match up to the end of the text. -/
theorem findNext_selection_iff :
    b.findNext pattern selection.start o.forward false E = .ok (some selection) ↔
      m.findFirst b ⟨selection.start, b.stopPoint⟩ = some selection := by
  rw [findNext_forward (Matcher.ofPattern_forward_of_ok accepted)
    (checkRange_eq_ok_iff.mp valid).1, Except.ok.injEq]

/-- **Replacing replaces the next match, or what is cut off a longer one.**  If the selection is what
a search forward from its start finds, it is replaced, and the next match is looked for from the end
of the text inserted or, backward, from its start.  Otherwise nothing changes, and the answer is what
a search from the start of the selection finds by the options; with one exception.  A selection is
replaced as well if the match found from its start on goes past its end, and the pattern matches just
the selection on the line cut there.  The engine of the program never does that with literals. -/
theorem Obtained.replaceNext_replaces_next_match (obtained : b.Obtained) :
    (b.findNext pattern selection.start o.forward false E = .ok (some selection) ∨
        m.IsCutTo b selection →
      ∃ e next b', b.replace selection (m.replacement b selection template) = (.ok e, b') ∧
        b'.findNext pattern (if o.reverse = true then e.range.start else e.caret) o wrap E =
          .ok next ∧
        b.replaceNext pattern template selection o wrap E = (.ok (.replaced e next), b')) ∧
    (b.findNext pattern selection.start o.forward false E ≠ .ok (some selection) →
      ¬m.IsCutTo b selection →
      ∃ next, b.findNext pattern selection.start o wrap E = .ok next ∧
        b.replaceNext pattern template selection o wrap E =
          (.ok (next.elim .notFound .selected), b)) ∧
    (m.IsCutTo b selection → (E = .standard → o.useRegex = true) ∧
      b.findNext pattern selection.start o.forward false E ≠ .ok (some selection)) := by
  rw [Ne, findNext_selection_iff accepted valid]
  refine ⟨?_, ?_, ?_⟩
  · intro h
    exact exists_replaceNext accepted valid template wrap obtained.isClean
      ((Matcher.findFirst_self_iff valid).mpr h)
  · intro hnext hcut
    apply exists_findNext_of_replaceNext accepted valid template wrap
    intro h
    exact ((Matcher.findFirst_self_iff valid).mp h).elim hnext hcut
  · intro hcut
    have ⟨single, l, hl, _⟩ := hcut
    refine ⟨?_, Matcher.not_findFirst_of_isCutTo valid hl single hcut⟩
    rintro rfl
    exact Matcher.useRegex_of_isCutTo accepted hcut

end Accepted

/-- The letters selected at the start of a line are the next match, since another letter follows. -/
theorem replaceNext_replaces_next_match_of_letters :
    let b := Buffer.ofText ['a', 'a', 'b'] .plainText
    let o : FindOptions := { useRegex := true, caseSensitive := true }
    let p : Pattern.Program := ⟨#[.chars (.singleton 'a'), .fork (-1) 1], []⟩
    let selection : Range := ⟨⟨1, 0⟩, ⟨1, 2⟩⟩
    Matcher.ofPattern ['a', '+'] o = .ok ⟨.ofProgram p, true, false⟩ ∧
      b.checkRange selection = .ok () ∧
      b.findNext ['a', '+'] selection.start o.forward false = .ok (some selection) ∧
      ∃ e next b', b.replaceNext ['a', '+'] ['$', '0', '0'] selection o true =
        (.ok (.replaced e next), b') := by
  intro b o p selection
  have accepted : Matcher.ofPattern ['a', '+'] o = .ok ⟨.ofProgram p, true, false⟩ := rfl
  have valid : b.checkRange selection = .ok () := by decide +kernel
  have hnext : b.findNext ['a', '+'] selection.start o.forward false = .ok (some selection) := by
    obtain ⟨l, hl, htext⟩ : ∃ l, b.line? 1 = some l ∧ l.text = ['a', 'a', 'b'] :=
      Option.map_eq_some_iff.mp (by decide +kernel)
    rw [findNext_selection_iff accepted valid, Matcher.findFirst_from_iff valid hl rfl, htext]
    refine ⟨⟨0, 2, []⟩, ?_, rfl, rfl, rfl⟩
    rw [Matcher.findAt_listed rfl]
    decide +kernel
  obtain ⟨hreplaced, _⟩ := (Obtained.ofReachable (.ofText _ _)).replaceNext_replaces_next_match
    accepted valid ['$', '0', '0'] true
  obtain ⟨e, next, b', _, _, h⟩ := hreplaced (.inl hnext)
  exact ⟨accepted, valid, hnext, e, next, b', h⟩

/-- Two of three letters are replaced, although the next match is all three. -/
theorem head_of_match_is_replaced :
    let b := Buffer.ofText ['a', 'a', 'a'] .plainText
    let o : FindOptions := { useRegex := true, caseSensitive := true }
    let selection : Range := ⟨⟨1, 0⟩, ⟨1, 2⟩⟩
    b.checkRange selection = .ok () ∧ selection.isEmpty = false ∧
      b.findNext ['a', '+'] selection.start o.forward false = .ok (some ⟨⟨1, 0⟩, ⟨1, 3⟩⟩) ∧
      ∃ e next b', b.replaceNext ['a', '+'] ['x'] selection o false =
        (.ok (.replaced e next), b') ∧ b'.text = ['x', 'a'] := by
  intro b o selection
  let m : Matcher := ⟨.ofProgram ⟨#[.chars (.singleton 'a'), .fork (-1) 1], []⟩, true, false⟩
  have accepted : Matcher.ofPattern ['a', '+'] o = .ok m := rfl
  have valid : b.checkRange selection = .ok () := by decide +kernel
  obtain ⟨l, hl, htext⟩ : ∃ l, b.line? 1 = some l ∧ l.text = ['a', 'a', 'a'] :=
    Option.map_eq_some_iff.mp (by decide +kernel)
  have hwhole : m.findAt l.text 0 = some ⟨0, 3, []⟩ := by
    rw [htext, Matcher.findAt_listed rfl]
    decide +kernel
  have hhead : m.findAt (l.text.take 2) 0 = some ⟨0, 2, []⟩ := by
    rw [htext, Matcher.findAt_listed rfl]
    decide +kernel
  have hcut : m.IsCutTo b selection :=
    ⟨rfl, l, hl, ⟨_, hwhole, by decide⟩, _, hhead, rfl, rfl, rfl⟩
  obtain ⟨e, next, b', hreplace, _, hreplaced⟩ := exists_replaceNext accepted valid ['x'] false
    (Obtained.ofReachable (.ofText _ _)).isClean
    ((Matcher.findFirst_self_iff valid).mpr (.inr hcut))
  have hnext : b.findNext ['a', '+'] selection.start o.forward false =
      .ok (some ⟨⟨1, 0⟩, ⟨1, 3⟩⟩) := by
    have hvalid : b.checkRange ⟨⟨1, 0⟩, ⟨1, 3⟩⟩ = .ok () := by decide +kernel
    exact (findNext_selection_iff accepted hvalid).mpr
      ((Matcher.findFirst_from_iff hvalid hl rfl).mpr ⟨_, hwhole, rfl, rfl, rfl⟩)
  have htext' : (b.replace selection ['x']).2.text = ['x', 'a'] := by decide +kernel
  have hx : m.replacement b selection ['x'] = ['x'] := by
    rw [Matcher.replacement_eq rfl hl (Nat.zero_le _), hwhole, htext]
    decide +kernel
  rw [hx] at hreplace
  rw [hreplace] at htext'
  exact ⟨valid, rfl, hnext, e, next, b', hreplaced, htext'⟩

end Buffer

end SourceEditor
