/-
  SourceEditor/Proofs/Search/Consuming.lean
  =========================================
  **Replacing all matches goes through the range once.**  The edits cut the old text of the range
  into gaps and removed texts, in their order, and the new text holds the same gaps with the
  inserted texts between them.  So what has been inserted is not searched again, nothing outside
  the range changes, and there cannot be more edits than the range has characters, whatever the
  replacement is.
-/
import SourceEditor.Proofs.Listing.Buffers
import SourceEditor.Proofs.Search.Replacing

namespace SourceEditor

namespace Text

/-- Gaps and pieces in turn: a gap, a piece, the next gap, and so on up to the last gap. -/
def woven : List Text → List Text → Text
  | gap :: gaps, piece :: pieces => gap ++ piece ++ woven gaps pieces
  | gap :: _, [] => gap
  | [], _ => []

theorem length_le_woven {gaps pieces : List Text} (hlength : pieces.length < gaps.length)
    (hpieces : ∀ piece ∈ pieces, piece ≠ []) : pieces.length ≤ (woven gaps pieces).length := by
  induction pieces generalizing gaps with
  | nil => exact Nat.zero_le _
  | cons piece pieces ih =>
    cases gaps with
    | nil => exact absurd hlength (Nat.not_lt_zero _)
    | cons gap gaps =>
      have hpiece := List.length_pos_iff.mpr (hpieces piece List.mem_cons_self)
      have hrest := ih (Nat.lt_of_succ_lt_succ hlength)
        fun p hp => hpieces p (List.mem_cons_of_mem piece hp)
      simp only [woven, List.length_append, List.length_cons]
      omega

end Text

namespace Matcher

/-- Finding and replacing in turn weaves the inserted texts into the gaps that the removed ones
leave. -/
theorem Interleaved.exists_gaps {m : Matcher} {replacement : Text} {b b' : Buffer}
    (hb : b.IsClean) {s t u : Text} (h : b.text = s ++ t ++ u) {es : List Edit}
    (hinter : m.Interleaved replacement b ⟨.behind s, .behind (s ++ t)⟩ es b') :
    ∃ gaps : List Text, gaps.length = es.length + 1 ∧
      t = Text.woven gaps (es.map Edit.removed) ∧
      b'.text = s ++ Text.woven gaps (es.map Edit.inserted) ++ u ∧
      ∀ e ∈ es, e.removed ≠ [] ∧ e.removed.IsLine := by
  induction es generalizing b s t with
  | nil =>
    rcases findFirst_alike hb hb h h (.refl m _) with
      ⟨hnone, _⟩ | ⟨g, w, v, rfl, _, _, hsome, _⟩
    · obtain ⟨_, rfl⟩ := hinter.of_none hnone
      exact ⟨[t], rfl, rfl, h, fun e he => nomatch he⟩
    · obtain ⟨_, _, _, hcons, _⟩ := hinter.of_some hb h hsome
      cases hcons
  | cons e es ih =>
    rcases findFirst_alike hb hb h h (.refl m _) with
      ⟨hnone, _⟩ | ⟨g, w, v, rfl, hne, hline, hsome, _⟩
    · cases (hinter.of_none hnone).1
    · obtain ⟨_, _, b₁, hcons, hremoved, _, hb₁, h₁, further⟩ := hinter.of_some hb h hsome
      obtain ⟨rfl, rfl⟩ := List.cons.inj hcons
      -- the search goes on behind the inserted text, so the rest of the range is the old one
      obtain ⟨gaps, hlength, hold, hnew, hpieces⟩ := ih hb₁ h₁ further
      refine ⟨g :: gaps, ?_, ?_, ?_, ?_⟩
      · rw [List.length_cons, List.length_cons, hlength]
      · rw [List.map_cons, Text.woven, ← hold, hremoved]
      · rw [hnew, List.map_cons, Text.woven]
        simp
      · intro e' he'
        rcases List.mem_cons.mp he' with rfl | he'
        · rw [hremoved]
          exact ⟨hne, hline⟩
        · exact hpieces e' he'

end Matcher

namespace Buffer

/-- **Replacing all matches consumes the range once**, whatever the engine.  It comes to an end with
no match left in what remains of the range, and its edits replace disjoint parts of the old text of
the range, from left to right, none of them empty and none going over a line break; all else stays as
it was. -/
theorem Obtained.replaceAll_consumes {b : Buffer} (obtained : b.Obtained) {E : Engine}
    {pattern : Text} (replacement : Text) {r : Range} {o : FindOptions} {m : Matcher}
    (valid : b.checkRange r = .ok ()) (accepted : Matcher.ofPattern pattern o.forward E = .ok m) :
    ∃ es b', b.replaceAll pattern replacement r o E = (.ok es, b') ∧
      m.Interleaved replacement b r es b' ∧
      (∃ gaps : List Text, gaps.length = es.length + 1 ∧
        b.getText r = .ok (Text.woven gaps (es.map Edit.removed)) ∧
        b'.text = b.text.take (b.offset r.start) ++ Text.woven gaps (es.map Edit.inserted) ++
          b.text.drop (b.offset r.stop)) ∧
      (∀ e ∈ es, e.removed ≠ [] ∧ '\n' ∉ e.removed ∧ '\r' ∉ e.removed) ∧
      es.length ≤ (b.slice r).length := by
  have hb := obtained.isClean
  obtain ⟨es, b', hall, hinter⟩ := exists_replaceAll_interleaved hb replacement valid accepted
  refine ⟨es, b', hall, hinter, ?_⟩
  obtain ⟨s, t, u, htext, rfl⟩ := exists_split_of_checkRange hb valid
  obtain ⟨_, hslice, hfrom⟩ := checkRange_behind hb htext
  obtain ⟨hstart, hstop, _⟩ := checkRange_eq_ok_iff.mp valid
  have hbefore := (hasPoint_behind hb (htext.trans (List.append_assoc s t u))).2.1
  obtain ⟨gaps, hlength, hold, hnew, hpieces⟩ := hinter.exists_gaps hb htext
  refine ⟨⟨gaps, hlength, ?_, ?_⟩, ?_, ?_⟩
  · rw [getText_behind hb htext, ← hold]
  · rw [take_offset hstart, drop_offset hstop, hbefore, hfrom, hnew]
  · intro e he
    obtain ⟨hne, hline⟩ := hpieces e he
    exact ⟨hne, hline.lineFeed_not_mem, hline.return_not_mem⟩
  · have hcount : (es.map Edit.removed).length < gaps.length := by
      rw [List.length_map, hlength]
      exact Nat.lt_succ_self _
    have hle := Text.length_le_woven hcount fun piece hpiece => by
      obtain ⟨e, he, rfl⟩ := List.mem_map.mp hpiece
      exact (hpieces e he).1
    rwa [List.length_map, ← hold, ← hslice] at hle

/-- The replacement holds a line break and matches again, and the range ends on a lower line, in
front of one more match. -/
theorem replaceAll_consumes_of_own_match :
    let b := Buffer.ofText ['a', 'b', 'a', '\n', 'a', 'c', 'a'] .plainText
    let r : Range := ⟨⟨1, 1⟩, ⟨2, 2⟩⟩
    let o : FindOptions := { caseSensitive := true }
    b.Obtained ∧ b.checkRange r = .ok () ∧
      Matcher.ofPattern ['a'] o.forward = .ok ⟨.literal ['a'] false, false, false⟩ ∧
      ∃ es b' gaps, b.replaceAll ['a'] ['a', '\n', 'a'] r o = (.ok es, b') ∧
        Text.woven gaps (es.map Edit.removed) = ['b', 'a', '\n', 'a', 'c'] ∧
        b'.text = ['a'] ++ Text.woven gaps (es.map Edit.inserted) ++ ['a'] := by
  intro b r o
  have obtained : b.Obtained := .ofReachable (.ofText _ _)
  have valid : b.checkRange r = .ok () := by decide
  have accepted : Matcher.ofPattern ['a'] o.forward =
      .ok ⟨.literal ['a'] false, false, false⟩ := rfl
  obtain ⟨es, b', h, _, ⟨gaps, _, hold, hnew⟩, _⟩ :=
    obtained.replaceAll_consumes ['a', '\n', 'a'] valid accepted
  have hslice : b.getText r = .ok ['b', 'a', '\n', 'a', 'c'] := by decide
  rw [hslice] at hold
  refine ⟨obtained, valid, accepted, es, b', gaps, h, (Except.ok.inj hold).symm, ?_⟩
  rw [hnew]
  rfl

end Buffer

end SourceEditor
