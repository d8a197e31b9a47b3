/-
  SourceEditor/Proofs/Search/Replacing.lean
  =========================================
  **Replacing match after match.**  Seen from the text, a match is a part of the range that was
  searched, and when it has given way to another text the search goes on in the part behind that
  text.  So replacing all matches never runs into an invalid range, and what it does is a row of
  edits like any other.
-/
import SourceEditor.Proofs.Buffer.Splice
import SourceEditor.Proofs.Search.Places
import SourceEditor.Search.Replace

namespace SourceEditor

/-! ### Ranges over the text -/

/-- What is left of a range behind a match ends where the text behind the match ends, typed at the
caret. -/
theorem Range.rebase_advance (p q start start' : Point) (t : Text) :
    (⟨start, p.advance t⟩ : Range).rebase ⟨start', p⟩ q = ⟨q, q.advance t⟩ := by
  rw [rebase]
  simp only [Range.mk.injEq, true_and]
  by_cases h : '\n' ∈ t
  · have hcount : 0 < t.count '\n' := List.count_pos_iff.mpr h
    rw [if_neg (by rw [Point.advance_line]; omega), Point.mk.injEq]
    refine ⟨?_, Point.advance_col_congr (.inr h)⟩
    simp only [Point.advance_line]
    omega
  · rw [Point.advance_of_not_mem p h, Point.advance_of_not_mem q h, if_pos rfl,
      Nat.add_sub_cancel_left]

namespace Matcher

/-! ### Finding and replacing in turn -/

/-- Finding and replacing in turn: the first match of the range is replaced, and the search goes on
in what is left of the range behind the text inserted, which holds what was behind the match,
until there is no match any more. -/
inductive Interleaved (m : Matcher) (replacement : Text) :
    Buffer → Range → List Edit → Buffer → Prop where
  | done {b : Buffer} {r : Range} (unmatched : m.findAllIn b r = []) :
      Interleaved m replacement b r [] b
  | step {b b₁ b₂ : Buffer} {r r' f : Range} {others : List Range} {e : Edit} {es : List Edit}
      {v : Text} (found : m.findAllIn b r = f :: others)
      (replaced : b.replace f (m.replacement b f replacement) = (.ok e, b₁))
      (start : r'.start = e.caret) (rest : b.getText ⟨f.stop, r.stop⟩ = .ok v)
      (left : b₁.getText r' = .ok v) (further : Interleaved m replacement b₁ r' es b₂) :
      Interleaved m replacement b r (e :: es) b₂

theorem Interleaved.edited {m : Matcher} {replacement : Text} {b b' : Buffer} {r : Range}
    {es : List Edit} (h : m.Interleaved replacement b r es b') : b.Edited es b' := by
  induction h with
  | done _ => exact .nil _
  | step _ replaced _ _ _ _ ih => exact .cons (q := .replace _ _) replaced ih

/-- The first match of a range is a part of its text.  It is accepted as a range to replace, and what
is then left of the range is the part behind the text inserted. -/
theorem exists_replace_of_found {m : Matcher} (replacement : Text) {b : Buffer} (hb : b.IsClean)
    {s t u : Text} (h : b.text = s ++ t ++ u) {f : Range}
    (hfound : m.findFirst b ⟨.behind s, .behind (s ++ t)⟩ = some f) :
    ∃ (g w v : Text) (e : Edit) (b₁ : Buffer), t = g ++ w ++ v ∧ w ≠ [] ∧
      f = ⟨.behind (s ++ g), .behind (s ++ g ++ w)⟩ ∧
      b.replace f (m.replacement b f replacement) = (.ok e, b₁) ∧
      e.caret = .behind (s ++ g ++ e.inserted) ∧
      b₁.IsClean ∧ b₁.text = s ++ g ++ e.inserted ++ v ++ u ∧
      (⟨.behind s, .behind (s ++ t)⟩ : Range).rebase f e.caret =
        ⟨.behind (s ++ g ++ e.inserted), .behind (s ++ g ++ e.inserted ++ v)⟩ := by
  rcases findFirst_alike hb hb h h (.refl m _) with
    ⟨hnone, _⟩ | ⟨g, w, v, rfl, hne, _, hsome, _⟩
  · rw [hnone] at hfound
    cases hfound
  · obtain rfl : ⟨.behind (s ++ g), .behind (s ++ g ++ w)⟩ = f :=
      Option.some.inj (hsome.symm.trans hfound)
    have hsplit : b.text = s ++ g ++ w ++ (v ++ u) := by simp [h]
    obtain ⟨b₁, hedit, htext, hb₁⟩ :=
      Buffer.splice_behind hb hsplit .replace (m.replacement b
        ⟨.behind (s ++ g), .behind (s ++ g ++ w)⟩ replacement)
    have hrange : s ++ (g ++ w ++ v) = s ++ g ++ w ++ v := by simp
    have hrebase := Range.rebase_advance (.behind (s ++ g ++ w))
      (.behind (s ++ g ++ (m.replacement b
        ⟨.behind (s ++ g), .behind (s ++ g ++ w)⟩ replacement).normalized))
      (.behind s) (.behind (s ++ g)) v
    rw [← Point.behind_append, ← Point.behind_append, ← hrange] at hrebase
    exact ⟨g, w, v, _, b₁, rfl, hne, rfl, hedit, rfl, hb₁,
      htext.trans (List.append_assoc _ v u).symm, hrebase⟩

/-- Replacing the matches of a range never goes wrong.  Each match takes a character of the range
at least, so with more fuel than these there is no match left in the end. -/
theorem exists_interleaved (m : Matcher) (replacement : Text) {fuel : Nat} {b : Buffer}
    (hb : b.IsClean) {s t u : Text} (h : b.text = s ++ t ++ u) (hfuel : t.length < fuel) :
    ∃ es b', m.replaceFrom replacement fuel b ⟨.behind s, .behind (s ++ t)⟩ = (.ok es, b') ∧
      m.Interleaved replacement b ⟨.behind s, .behind (s ++ t)⟩ es b' := by
  induction fuel generalizing b s t with
  | zero => exact absurd hfuel (Nat.not_lt_zero _)
  | succ fuel ih =>
    rw [replaceFrom]
    rcases hfound : m.findFirst b ⟨.behind s, .behind (s ++ t)⟩ with _ | f
    · exact ⟨[], b, rfl, .done (findAllIn_eq_nil_iff.mpr hfound)⟩
    · obtain ⟨g, w, v, e, b₁, rfl, hne, rfl, hedit, hcaret, hb₁, htext₁, hrebase⟩ :=
        exists_replace_of_found replacement hb h hfound
      have hshorter : v.length < fuel := by
        have := List.length_pos_iff.mpr hne
        simp only [List.length_append] at hfuel
        omega
      obtain ⟨es, b', hrest, hinter⟩ := ih hb₁ htext₁ hshorter
      dsimp only
      rw [hedit]
      dsimp only
      rw [hrebase, hrest]
      have hsplit : b.text = s ++ g ++ w ++ v ++ u := by simp [h]
      have hrange : s ++ (g ++ w ++ v) = s ++ g ++ w ++ v := by simp
      rw [hrange] at hfound ⊢
      obtain ⟨others, hall⟩ := findFirst_eq_some_iff.mp hfound
      exact ⟨_, b', rfl, .step hall hedit hcaret.symm (Buffer.getText_behind hb hsplit)
        (Buffer.getText_behind hb₁ htext₁) hinter⟩

theorem Interleaved.of_none {m : Matcher} {replacement : Text} {b b' : Buffer} {r : Range}
    {es : List Edit} (hinter : m.Interleaved replacement b r es b')
    (hnone : m.findFirst b r = none) : es = [] ∧ b' = b := by
  cases hinter with
  | done _ => exact ⟨rfl, rfl⟩
  | step found _ _ _ _ _ =>
    rw [findAllIn_eq_nil_iff.mpr hnone] at found
    cases found

/-- Where the first match is a part of the text, it gives way to its text, and finding and replacing
goes on behind that. -/
theorem Interleaved.of_some {m : Matcher} {replacement : Text} {b b' : Buffer} (hb : b.IsClean)
    {s g w v u : Text} (h : b.text = s ++ (g ++ w ++ v) ++ u) {es : List Edit}
    (hinter : m.Interleaved replacement b ⟨.behind s, .behind (s ++ (g ++ w ++ v))⟩ es b')
    (hsome : m.findFirst b ⟨.behind s, .behind (s ++ (g ++ w ++ v))⟩ =
      some ⟨.behind (s ++ g), .behind (s ++ g ++ w)⟩) :
    ∃ (e : Edit) (others : List Edit) (b₁ : Buffer),
      es = e :: others ∧ e.removed = w ∧
      e.inserted =
        (m.replacement b ⟨.behind (s ++ g), .behind (s ++ g ++ w)⟩ replacement).normalized ∧
      b₁.IsClean ∧ b₁.text = s ++ g ++ e.inserted ++ v ++ u ∧
      m.Interleaved replacement b₁
        ⟨.behind (s ++ g ++ e.inserted), .behind (s ++ g ++ e.inserted ++ v)⟩ others b' := by
  have hassoc : s ++ (g ++ w ++ v) = s ++ g ++ w ++ v := by simp
  rw [hassoc] at h hinter hsome
  generalize hr : (⟨.behind s, .behind (s ++ g ++ w ++ v)⟩ : Range) = r at hinter
  cases hinter with
  | done unmatched =>
    rw [← hr, findAllIn_eq_nil_iff, hsome] at unmatched
    cases unmatched
  | @step _ b₁ _ _ r' f _ e es v' found replaced start rest left further =>
    subst hr
    obtain rfl : f = ⟨.behind (s ++ g), .behind (s ++ g ++ w)⟩ := by
      rw [findFirst_eq_some_iff.mpr ⟨_, found⟩] at hsome
      exact Option.some.inj hsome
    obtain ⟨b₂, hedit, htext, hb₂⟩ := Buffer.splice_behind hb
      (h.trans (List.append_assoc _ v u)) .replace
      (m.replacement b ⟨.behind (s ++ g), .behind (s ++ g ++ w)⟩ replacement)
    rw [← Buffer.replace, replaced] at hedit
    cases hedit
    -- what is left behind the text inserted is what was behind the match
    rw [Buffer.getText_behind hb h] at rest
    obtain rfl : v = v' := Except.ok.inj rest
    have hrange := Buffer.eq_behind_of_getText hb₂ htext start left
    exact ⟨_, es, b₁, rfl, rfl, rfl, hb₂, htext.trans (List.append_assoc _ v u).symm,
      hrange ▸ further⟩

end Matcher

namespace Buffer

/-- Replacing all matches is refused before anything is done, as listing them is, or it is finding
and replacing in turn. -/
theorem replaceAll_cases {b : Buffer} (hb : b.IsClean) (pattern replacement : Text) (r : Range)
    (o : FindOptions) (E : Engine) :
    (∃ e, b.findAll pattern r o E = .error e ∧
        b.replaceAll pattern replacement r o E = (.error e, b)) ∨
      ∃ m es b', b.checkRange r = .ok () ∧ Matcher.ofPattern pattern o.forward E = .ok m ∧
        b.replaceAll pattern replacement r o E = (.ok es, b') ∧
        m.Interleaved replacement b r es b' := by
  rw [replaceAll, findAll]
  rcases hcheck : b.checkRange r with e | ⟨⟩
  · exact .inl ⟨_, rfl, rfl⟩
  · rcases hm : Matcher.ofPattern pattern o.forward E with e | m
    · exact .inl ⟨_, rfl, rfl⟩
    · obtain ⟨s, t, u, htext, rfl⟩ := exists_split_of_checkRange hb hcheck
      have hslice := (checkRange_behind hb htext).2.1
      have hfuel : t.length < (b.slice ⟨.behind s, .behind (s ++ t)⟩).length + 1 := by
        rw [hslice]
        exact Nat.lt_succ_self _
      obtain ⟨es, b', hreplace, hinter⟩ := m.exists_interleaved replacement hb htext hfuel
      exact .inr ⟨m, es, b', rfl, rfl, hreplace, hinter⟩

/-- In a range that exists, an accepted pattern is found and replaced in turn. -/
theorem exists_replaceAll_interleaved {b : Buffer} (hb : b.IsClean) {E : Engine} {pattern : Text}
    (replacement : Text) {r : Range} {o : FindOptions} {m : Matcher}
    (valid : b.checkRange r = .ok ()) (accepted : Matcher.ofPattern pattern o.forward E = .ok m) :
    ∃ es b', b.replaceAll pattern replacement r o E = (.ok es, b') ∧
      m.Interleaved replacement b r es b' := by
  rcases replaceAll_cases hb pattern replacement r o E with
    ⟨e, hrefused, _⟩ | ⟨m', es, b', _, hm', hall, hinter⟩
  · rw [findAll, valid, accepted] at hrefused
    cases hrefused
  · obtain rfl : m = m' := Except.ok.inj (accepted.symm.trans hm')
    exact ⟨es, b', hall, hinter⟩

theorem findNext_isOk {b : Buffer} {p : Point} (hp : b.HasPoint p) {pattern : Text}
    {o : FindOptions} {E : Engine} {m : Matcher} (hm : Matcher.ofPattern pattern o E = .ok m)
    (wrap : Bool) : ∃ next, b.findNext pattern p o wrap E = .ok next := by
  rw [findNext, checkPoint_eq_ok_iff.mpr hp, hm]
  dsimp only
  split
  · exact ⟨_, rfl⟩
  · split <;> exact ⟨_, rfl⟩

/-- Replacing the selection leaves the buffer alone, or it makes the one edit that it reports: once
the selection has been replaced, nothing goes wrong any more. -/
theorem replaceNext_cases {b : Buffer} (hb : b.IsClean) (pattern replacement : Text)
    (selection : Range) (o : FindOptions) (wrap : Bool) (E : Engine) :
    (∃ result, b.replaceNext pattern replacement selection o wrap E = (result, b) ∧
      ∀ e next, result ≠ .ok (.replaced e next)) ∨
    ∃ e next b' t, b.replaceNext pattern replacement selection o wrap E =
        (.ok (.replaced e next), b') ∧ b.edit (.replace selection t) = (.ok e, b') := by
  rw [replaceNext]
  rcases hcheck : b.checkRange selection with e | ⟨⟩
  · exact .inl ⟨_, rfl, by simp⟩
  · rcases hm : Matcher.ofPattern pattern o E with e | m
    · exact .inl ⟨_, rfl, by simp⟩
    · dsimp only
      split
      · obtain ⟨s, t, u, htext, rfl⟩ := exists_split_of_checkRange hb hcheck
        obtain ⟨b', hsplice, htext', hb'⟩ := splice_behind hb htext .replace
          (m.replacement b ⟨.behind s, .behind (s ++ t)⟩ replacement)
        rw [← replace] at hsplice
        rw [hsplice]
        dsimp only
        have hstart : b'.HasPoint (.behind s) :=
          (hasPoint_behind hb' (htext'.trans (List.append_assoc _ _ _))).1
        have hcaret := (hasPoint_behind hb' htext').1
        have hpoint : b'.HasPoint (if o.reverse then .behind s else .behind
            (s ++ (m.replacement b ⟨.behind s, .behind (s ++ t)⟩ replacement).normalized)) := by
          split
          · exact hstart
          · exact hcaret
        obtain ⟨next, hnext⟩ := findNext_isOk hpoint hm wrap
        rw [hnext]
        exact .inr ⟨_, next, b', _, rfl, hsplice⟩
      · rcases b.findNext pattern selection.start o wrap E with e | next
        · exact .inl ⟨_, rfl, by simp⟩
        · cases next <;> exact .inl ⟨_, rfl, by simp⟩

end Buffer

end SourceEditor
