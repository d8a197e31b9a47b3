/-
  SourceEditor/Proofs/Search/Refusal.lean
  =======================================
  **Replacing is refused at once or not at all.**  The range and the pattern are looked at before
  the first edit.  What is done after it looks at ranges, points and the pattern again, and could be
  refused for each of them; but what is left of the range is always a range of the buffer as it is
  then, every match found in it can be replaced, both ends of an inserted text are points, and a
  pattern that was accepted is accepted again.  So a call that is refused has not changed anything.
-/
import SourceEditor.Proofs.Listing.Buffers
import SourceEditor.Proofs.Search.Replacing

namespace SourceEditor

namespace Matcher

/-- How far the replacing of all matches of a range can come: some matches have been replaced, each
of them the first in what was left of the range then, and a part of the range is left. -/
inductive Replaces (m : Matcher) (replacement : Text) :
    Buffer → Range → List Edit → Buffer → Range → Prop where
  | start {b : Buffer} {r : Range} : Replaces m replacement b r [] b r
  | step {b b₁ b' : Buffer} {r f left : Range} {e : Edit} {es : List Edit}
      (found : m.findFirst b r = some f)
      (replaced : b.replace f (m.replacement b f replacement) = (.ok e, b₁))
      (further : Replaces m replacement b₁ (r.rebase f e.caret) es b' left) :
      Replaces m replacement b r (e :: es) b' left

variable {m : Matcher} {replacement : Text}

/-- What is left of the range is a part of the text at any time, with the same text behind it; each
match that was replaced has taken a character of it. -/
theorem Replaces.exists_split {b b' : Buffer} (hb : b.IsClean) {s t u : Text}
    (h : b.text = s ++ t ++ u) {es : List Edit} {left : Range}
    (hreplaces : m.Replaces replacement b ⟨.behind s, .behind (s ++ t)⟩ es b' left) :
    b'.IsClean ∧ ∃ s' t', b'.text = s' ++ t' ++ u ∧ left = ⟨.behind s', .behind (s' ++ t')⟩ ∧
      es.length + t'.length ≤ t.length := by
  induction es generalizing b s t with
  | nil =>
    cases hreplaces
    exact ⟨hb, s, t, h, rfl, by simp⟩
  | cons e es ih =>
    cases hreplaces with
    | step found replaced further =>
      obtain ⟨g, w, v, e', b₁, rfl, hne, rfl, hedit, _, hb₁, htext, hrebase⟩ :=
        exists_replace_of_found replacement hb h found
      cases hedit.symm.trans replaced
      rw [hrebase] at further
      obtain ⟨hb', s', t', htext', hleft, hlength⟩ := ih hb₁ htext further
      refine ⟨hb', s', t', htext', hleft, ?_⟩
      have htaken := List.length_pos_iff.mpr hne
      simp only [List.length_cons, List.length_append]
      omega

/-- At any time what is left is a range of the buffer, and a match found in it can be replaced. -/
theorem Replaces.exists_replace {b b' : Buffer} (hb : b.IsClean) {r left : Range}
    (valid : b.checkRange r = .ok ()) {es : List Edit}
    (hreplaces : m.Replaces replacement b r es b' left) :
    b'.checkRange left = .ok () ∧ ∀ f, m.findFirst b' left = some f →
      ∃ e b'', b'.replace f (m.replacement b' f replacement) = (.ok e, b'') := by
  obtain ⟨s, t, u, htext, rfl⟩ := Buffer.exists_split_of_checkRange hb valid
  obtain ⟨hb', s', t', htext', rfl, _⟩ := hreplaces.exists_split hb htext
  refine ⟨(Buffer.checkRange_behind hb' htext').1, ?_⟩
  intro f hfound
  obtain ⟨_, _, _, e, b'', _, _, _, hedit, _⟩ :=
    exists_replace_of_found replacement hb' htext' hfound
  exact ⟨e, b'', hedit⟩

/-- Replacing goes on until no match is left, or all fuel is used up. -/
theorem exists_replaces {fuel : Nat} {b b' : Buffer} {r : Range} {es : List Edit}
    (h : m.replaceFrom replacement fuel b r = (.ok es, b')) :
    ∃ left, m.Replaces replacement b r es b' left ∧
      (m.findFirst b' left = none ∨ es.length = fuel) := by
  induction fuel generalizing b r es with
  | zero =>
    cases h
    exact ⟨r, .start, .inr rfl⟩
  | succ fuel ih =>
    rw [replaceFrom] at h
    rcases hfound : m.findFirst b r with _ | f
    · rw [hfound] at h
      cases h
      exact ⟨r, .start, .inl hfound⟩
    · simp only [hfound] at h
      rcases hreplace : b.replace f (m.replacement b f replacement) with ⟨error | e, b₁⟩
      · rw [hreplace] at h
        cases h
      · simp only [hreplace] at h
        rcases hrest : m.replaceFrom replacement fuel b₁ (r.rebase f e.caret) with
          ⟨error | es', b₂⟩
        · rw [hrest] at h
          cases h
        · rw [hrest] at h
          cases h
          obtain ⟨left, hreplaces, hend⟩ := ih hrest
          refine ⟨left, .step hfound hreplace hreplaces, ?_⟩
          rcases hend with hnone | hlength
          · exact .inl hnone
          · exact .inr (congrArg Nat.succ hlength)

end Matcher

namespace Buffer

/-- Replacing all matches of a range that exists succeeds, and leaves no match in what is left of
the range. -/
theorem exists_replaceAll {b : Buffer} (hb : b.IsClean) {E : Engine} {pattern : Text}
    (replacement : Text) {r : Range} {o : FindOptions} {m : Matcher}
    (valid : b.checkRange r = .ok ()) (accepted : Matcher.ofPattern pattern o.forward E = .ok m) :
    ∃ es b' left, b.replaceAll pattern replacement r o E = (.ok es, b') ∧
      m.Replaces replacement b r es b' left ∧ m.findFirst b' left = none := by
  obtain ⟨es, b', hall, _⟩ := exists_replaceAll_interleaved hb replacement valid accepted
  have hfrom := hall
  rw [replaceAll, valid, accepted] at hfrom
  obtain ⟨left, hreplaces, hend⟩ := Matcher.exists_replaces hfrom
  refine ⟨es, b', left, hall, hreplaces, ?_⟩
  obtain ⟨s, t, u, htext, rfl⟩ := exists_split_of_checkRange hb valid
  obtain ⟨_, _, t', _, _, hlength⟩ := hreplaces.exists_split hb htext
  rw [(checkRange_behind hb htext).2.1] at hend
  rcases hend with hnone | hfuel
  · exact hnone
  · omega

/-- Both ends of the text that an edit has inserted are points of the buffer then. -/
theorem hasPoint_of_edit {b b' : Buffer} (hb : b.IsClean) {q : EditRequest} {e : Edit}
    (h : b.edit q = (.ok e, b')) : b'.HasPoint e.range.start ∧ b'.HasPoint e.caret := by
  obtain ⟨x, y, z, _, _, rfl, htext, hb'⟩ := exists_splice_of_edit hb h
  have hstart := (hasPoint_behind hb' (htext.trans (List.append_assoc _ _ _))).1
  exact ⟨hstart, (hasPoint_behind hb' htext).1⟩

/-- **Replacing never fails halfway.**  Whatever the buffer and the engine, a call to replace all
matches of a range or the selected match leaves the buffer as it was if it is refused: its text, the
identities and annotations of its lines, its subscribers and what they have received, and all else.
For once the range and the pattern have been accepted, and however many matches have been replaced,
what is left of the range is a range of the buffer and the next match in it can be replaced, until
there is none; and once the selection has been replaced, the next match can be searched for from
either end of the text inserted. -/
theorem Obtained.replacing_never_fails_halfway {b : Buffer} (obtained : b.Obtained)
    (pattern replacement : Text) (r : Range) (o : FindOptions) (wrap : Bool) (E : Engine) :
    (∀ error b', b.replaceAll pattern replacement r o E = (.error error, b') → b' = b) ∧
    (∀ error b', b.replaceNext pattern replacement r o wrap E = (.error error, b') → b' = b) ∧
    (∀ m, b.checkRange r = .ok () → Matcher.ofPattern pattern o.forward E = .ok m →
      (∃ es b' left, b.replaceAll pattern replacement r o E = (.ok es, b') ∧
        m.Replaces replacement b r es b' left ∧ m.findFirst b' left = none) ∧
      ∀ es b' left, m.Replaces replacement b r es b' left →
        b'.checkRange left = .ok () ∧ ∀ f, m.findFirst b' left = some f →
          ∃ e b'', b'.replace f (m.replacement b' f replacement) = (.ok e, b'')) ∧
    (∀ m e b', Matcher.ofPattern pattern o E = .ok m →
      b.replace r (m.replacement b r replacement) = (.ok e, b') →
      ∀ p, p = e.range.start ∨ p = e.caret →
        ∃ next, b'.findNext pattern p o wrap E = .ok next) := by
  have hb := obtained.isClean
  refine ⟨?_, ?_, ?_, ?_⟩
  · intro error b' hrefused
    rcases replaceAll_cases hb pattern replacement r o E with
      ⟨error', _, hall⟩ | ⟨_, es, b₁, _, _, hall, _⟩
    · rw [hall] at hrefused
      exact (Prod.mk.inj hrefused).2.symm
    · rw [hall] at hrefused
      cases hrefused
  · intro error b' hrefused
    rcases replaceNext_cases hb pattern replacement r o wrap E with
      ⟨result, hnext, _⟩ | ⟨e, next, b₁, _, hnext, _⟩
    · rw [hnext] at hrefused
      exact (Prod.mk.inj hrefused).2.symm
    · rw [hnext] at hrefused
      cases hrefused
  · intro m valid accepted
    refine ⟨exists_replaceAll hb replacement valid accepted, ?_⟩
    intro es b' left hreplaces
    exact hreplaces.exists_replace hb valid
  · intro m e b' accepted hreplace p hp
    obtain ⟨hstart, hcaret⟩ :=
      hasPoint_of_edit hb (q := .replace r (m.replacement b r replacement)) hreplace
    rcases hp with rfl | rfl
    · exact findNext_isOk hstart accepted wrap
    · exact findNext_isOk hcaret accepted wrap

/-- In a listing a range goes on beyond the last line, which is found out before anything is
replaced.  On the last line there are two matches; with the first replaced by two lines, the range
left begins on a line that was not there before, and the second match is replaced as well. -/
theorem replacing_never_fails_halfway_of_listing :
    let b := Listing.new.buffer.appendAnnotated none ['a', 'b', 'a'] []
    let b' := b.after (.edit (.replace ⟨⟨2, 0⟩, ⟨2, 1⟩⟩ ['x', '\n']))
    let o : FindOptions := { caseSensitive := true }
    let m : Matcher := ⟨.literal ['a'] false, false, false⟩
    b.Obtained ∧
      (b.replaceAll ['a'] ['x', '\n'] ⟨⟨2, 0⟩, ⟨3, 0⟩⟩ o).1 = .error (.buffer (.invalidLine 3 2)) ∧
      (b.replaceAll ['a'] ['x', '\n'] ⟨⟨2, 0⟩, ⟨3, 0⟩⟩ o).2 = b ∧
      b.checkRange ⟨⟨2, 0⟩, ⟨2, 3⟩⟩ = .ok () ∧ Matcher.ofPattern ['a'] o.forward = .ok m ∧
      b'.checkRange ⟨⟨3, 0⟩, ⟨3, 2⟩⟩ = .ok () ∧
      ∃ e b'', b'.replace ⟨⟨3, 1⟩, ⟨3, 2⟩⟩ ['x', '\n'] = (.ok e, b'') := by
  intro b b' o m
  have obtained : b.Obtained :=
    Listing.obtained_new.appendAnnotated none (.cons rfl (.cons rfl (.cons rfl Text.isLine_nil))) []
  have accepted : Matcher.ofPattern ['a'] o.forward = .ok m := rfl
  have valid : b.checkRange ⟨⟨2, 0⟩, ⟨2, 3⟩⟩ = .ok () := by decide +kernel
  have refused : (b.replaceAll ['a'] ['x', '\n'] ⟨⟨2, 0⟩, ⟨3, 0⟩⟩ o).1 =
      .error (.buffer (.invalidLine 3 2)) := by decide +kernel
  obtain ⟨hspared, _⟩ := obtained.replacing_never_fails_halfway ['a'] ['x', '\n']
    ⟨⟨2, 0⟩, ⟨3, 0⟩⟩ o false .standard
  obtain ⟨_, _, hgoes, _⟩ := obtained.replacing_never_fails_halfway ['a'] ['x', '\n']
    ⟨⟨2, 0⟩, ⟨2, 3⟩⟩ o false .standard
  obtain ⟨_, hnext⟩ := hgoes m valid accepted
  have hfirst : m.findFirst b ⟨⟨2, 0⟩, ⟨2, 3⟩⟩ = some ⟨⟨2, 0⟩, ⟨2, 1⟩⟩ := by decide +kernel
  obtain ⟨e, b₁, hreplace⟩ := (hnext [] b _ .start).2 _ hfirst
  have hcaret : e.caret = ⟨3, 0⟩ := by
    have hreported : (b.replace ⟨⟨2, 0⟩, ⟨2, 1⟩⟩ ['x', '\n']).1.map Edit.caret = .ok ⟨3, 0⟩ := by
      decide +kernel
    have hreplace' : b.replace ⟨⟨2, 0⟩, ⟨2, 1⟩⟩ ['x', '\n'] = (.ok e, b₁) := hreplace
    rw [hreplace'] at hreported
    exact Except.ok.inj hreported
  have hafter : b₁ = b' := by
    have hedit : b.edit (.replace ⟨⟨2, 0⟩, ⟨2, 1⟩⟩ ['x', '\n']) = (.ok e, b₁) := hreplace
    simp only [b', Buffer.after, hedit]
  have hsecond : m.findFirst b' ⟨⟨3, 0⟩, ⟨3, 2⟩⟩ = some ⟨⟨3, 1⟩, ⟨3, 2⟩⟩ := by decide +kernel
  have hleft := hnext _ _ _ (.step hfirst hreplace .start)
  rw [hcaret, hafter] at hleft
  refine ⟨obtained, refused, ?_, valid, accepted, hleft.1, hleft.2 _ hsecond⟩
  exact hspared _ _ (Prod.ext refused rfl)

end Buffer

end SourceEditor
