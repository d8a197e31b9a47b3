/-
  SourceEditor/Proofs/Search/Captures.lean
  ========================================
  **Templates and the matches they refer to.**  The text that takes the place of a match is found
  out by matching once more, from the start of the match on and on the whole line.  That gives the
  groups of the match replaced, unless the search has come upon a match that goes past the end of the
  range: then the match replaced is one on the line cut there, and the groups are those of what the
  pattern matches on the whole line, or the template is put in as it is where that is nothing.
-/
import SourceEditor.Proofs.Search.Selection

namespace SourceEditor

open Pattern (Program Found)

namespace Pattern

/-- The template that stands for the whole match gives the whole match. -/
theorem fillTemplate_whole (group : Nat → Text) (names : List (Text × Nat)) :
    fillTemplate group names ['$', '0'] = group 0 := by
  have hparts : TemplatePart.parts ['$', '0'] = [.numbered 0] := by decide +kernel
  rw [fillTemplate, hparts]
  exact List.append_nil _

end Pattern

namespace Buffer

/-! ### Ends of lines -/

theorem endsLine_behind_iff {b : Buffer} (hb : b.IsClean) {s t : Text} (h : b.text = s ++ t) :
    b.EndsLine (.behind s) ↔ t.firstPart = [] := by
  obtain ⟨l, hl, htext, hs⟩ := exists_line_behind hb h
  have hlength : l.length = (Point.behind s).col + t.firstPart.length := by
    rw [Line.length, htext, List.length_append, hs]
  rw [← List.length_eq_zero_iff]
  constructor
  · rintro ⟨l', hl', hcol⟩
    obtain rfl : l = l' := Option.some.inj (hl.symm.trans hl')
    omega
  · intro hnil
    exact ⟨l, hl, by omega⟩

end Buffer

namespace Matcher

variable {m : Matcher} {template : Text} {b b' : Buffer} {r g left : Range}
  {l : Line} {e : Edit} {es : List Edit}

/-- Replacing the matches of a range leaves the text behind the range as it is, so what is left of
the range ends with a line if the range does. -/
theorem Replaces.endsLine (hb : b.IsClean) (valid : b.checkRange r = .ok ())
    (hends : b.EndsLine r.stop) (h : m.Replaces template b r es b' left) :
    b'.EndsLine left.stop := by
  obtain ⟨s, t, u, htext, rfl⟩ := Buffer.exists_split_of_checkRange hb valid
  obtain ⟨hb', s', t', htext', rfl, _⟩ := h.exists_split hb htext
  rw [Buffer.endsLine_behind_iff hb' htext']
  exact (Buffer.endsLine_behind_iff hb htext).mp hends

/-- Each of the edits was made in its turn: some others before it have left a buffer and a part of
the range, the first match of which it has replaced. -/
theorem Replaces.exists_of_append {es₁ es₂ : List Edit}
    (h : m.Replaces template b r (es₁ ++ e :: es₂) b' left) :
    ∃ b₁ left₁ g b₂, m.Replaces template b r es₁ b₁ left₁ ∧ m.findFirst b₁ left₁ = some g ∧
      b₁.replace g (m.replacement b₁ g template) = (.ok e, b₂) := by
  induction es₁ generalizing b r with
  | nil =>
    cases h with
    | step found replaced _ => exact ⟨b, r, _, _, .start, found, replaced⟩
  | cons e' es₁ ih =>
    cases h with
    | step found replaced further =>
      obtain ⟨b₁, left₁, g, b₂, hbefore, hlast⟩ := ih further
      exact ⟨b₁, left₁, g, b₂, .step found replaced hbefore, hlast⟩

/-! ### Groups of the match replaced -/

/-- Whether an edit on a line has put a template in the place of a match of a regular expression,
filled in with the groups of the same match: it begins where the edit does, and the whole of it is
the text removed. -/
def Expands (m : Matcher) (template : Text) (l : Line) (e : Edit) : Prop :=
  ∃ f : Found, m.findAt l.text e.range.start.col = some f ∧ f.start = e.range.start.col ∧
    f.groupText l.text 0 = e.removed ∧
    e.inserted = (Pattern.fillTemplate (f.groupText l.text) m.regex.names template).normalized

theorem Expands.inserted_eq_removed (h : m.Expands ['$', '0'] l e)
    (hremoved : e.removed.normalized = e.removed) : e.inserted = e.removed := by
  obtain ⟨f, _, _, hwhole, hinserted⟩ := h
  rw [hinserted, Pattern.fillTemplate_whole, hwhole, hremoved]

/-- What the replacing of the first match of a range has done: the text of the match is removed, and
the template is filled in with what the pattern matches from there on, on the whole line; with the
groups of the same match, unless the search was cut. -/
structure Substitutes (m : Matcher) (template : Text) (b : Buffer) (r g : Range)
    (l : Line) (e : Edit) : Prop where
  found : m.findFirst b r = some g
  line : b.line? g.start.line = some l
  start : e.range.start = g.start
  removed : b.getText g = .ok e.removed
  inserted : e.inserted = ((m.findAt l.text g.start.col).elim template fun f =>
    Pattern.fillTemplate (f.groupText l.text) m.regex.names template).normalized
  expands : ¬m.IsCut r g l → m.Expands template l e
  whole : ¬m.IsCut r g l → template = ['$', '0'] → e.inserted = e.removed

variable (regex : m.useRegex = true) (resumes : m.regex.Resumes)

include regex resumes

theorem exists_substitutes (hb : b.IsClean) (found : m.findFirst b r = some g)
    (replaced : b.replace g (m.replacement b g template) = (.ok e, b')) :
    ∃ l, m.Substitutes template b r g l e ∧ g.start.col ≤ l.length := by
  obtain ⟨l, hl, hsingle, hnext⟩ := nextMatch_of_findFirst found
  obtain ⟨hstart, hremoved, hinserted⟩ := Buffer.fields_of_replace replaced
  have hlt := (nextMatch_bounds hnext).2.2
  have hstop : g.stop.col ≤ l.length :=
    Nat.le_trans (stop_le_of_nextMatch (Nat.min_le_right _ _) hnext) (Nat.min_le_right _ _)
  simp only at hlt
  have hcol : g.start.col ≤ l.length := by omega
  have hget : b.getText g = .ok ((l.text.take g.stop.col).drop g.start.col) := by
    obtain ⟨⟨n, i⟩, ⟨n', j⟩⟩ := g
    obtain rfl : n' = n := hsingle
    exact Buffer.getText_on_line hl (Nat.le_of_lt hlt) hstop
  have htext := Except.ok.inj (hremoved.symm.trans hget)
  rw [replacement_eq regex hl hcol] at hinserted
  have hexpands : ¬m.IsCut r g l → m.Expands template l e := by
    intro huncut
    obtain ⟨f, hf, _, hfirst, hlast⟩ := findsAt_of_nextMatch resumes (Nat.min_le_right _ _) hnext
      fun c hc hc' hcut => huncut ⟨c, hc, hc', hcut⟩
    rw [hf] at hinserted
    refine ⟨f, hstart ▸ hf, hstart ▸ hfirst, ?_, hinserted⟩
    rw [htext, Found.groupText, if_pos rfl, Found.length, hfirst, hlast, List.drop_take]
  refine ⟨l, ⟨found, hl, hstart, hremoved, hinserted, hexpands, ?_⟩, hcol⟩
  rintro huncut rfl
  exact (hexpands huncut).inserted_eq_removed (Buffer.normalized_of_getText hb hremoved)

end Matcher

namespace Buffer

/-- The first match of a range is the first one that is replaced. -/
theorem exists_first_edit {b : Buffer} (hb : b.IsClean) {pattern : Text} {o : FindOptions}
    {m : Matcher} (accepted : Matcher.ofPattern pattern o.forward = .ok m) (template : Text)
    {r g : Range} (valid : b.checkRange r = .ok ()) (found : m.findFirst b r = some g) :
    ∃ e es b₁ b', b.replaceAll pattern template r o = (.ok (e :: es), b') ∧
      b.replace g (m.replacement b g template) = (.ok e, b₁) := by
  obtain ⟨es, b', left, hall, hreplaces, hnone⟩ := exists_replaceAll hb template valid accepted
  cases hreplaces with
  | start =>
    rw [found] at hnone
    cases hnone
  | step found' replaced _ =>
    obtain rfl := Option.some.inj (found.symm.trans found')
    exact ⟨_, _, _, b', hall, replaced⟩

/-- **Groups refer to the match replaced.**  Replacing all matches of a range that exists succeeds.
Each edit was made in its turn, when some others had left a buffer and a part of the range, and has
replaced the first match there; so has the edit that replaces a selection.  It has put in the
template, filled in with what the pattern matches from the start of the text removed on.  That is the
text removed, with its groups, unless the search for it came upon a match that goes past the end of
the range; which does not happen where the range ends with a line. -/
theorem Obtained.replacing_expands_captures {b : Buffer} (obtained : b.Obtained)
    {pattern : Text} {o : FindOptions} {m : Matcher}
    (accepted : Matcher.ofPattern pattern o.forward = .ok m) (regex : o.useRegex = true)
    (template : Text) {r : Range} (valid : b.checkRange r = .ok ()) :
    (∃ es b', b.replaceAll pattern template r o = (.ok es, b') ∧
      ∀ es₁ e es₂, es = es₁ ++ e :: es₂ → ∃ b₁ left g l,
        m.Replaces template b r es₁ b₁ left ∧ m.Substitutes template b₁ left g l e ∧
        (b.EndsLine r.stop → ¬m.IsCut left g l)) ∧
    ∀ wrap e next b', b.replaceNext pattern template r o wrap = (.ok (.replaced e next), b') →
      ∃ l, m.Substitutes template b r r l e ∧ (b.EndsLine r.stop → ¬m.IsCut r r l) := by
  have hb := obtained.isClean
  have resumes := Matcher.resumes_of_ofPattern Engine.resumes_standard accepted
  have huse : m.useRegex = true := by
    obtain ⟨_, _, rfl⟩ := Matcher.exists_compile_of_ofPattern accepted
    exact regex
  constructor
  · obtain ⟨es, b', left, hall, hreplaces, _⟩ := exists_replaceAll hb template valid accepted
    refine ⟨es, b', hall, ?_⟩
    rintro es₁ e es₂ rfl
    obtain ⟨b₁, left₁, g, b₂, hbefore, found, replaced⟩ := hreplaces.exists_of_append
    have hb₁ : b₁.IsClean := by
      obtain ⟨s, t, u, htext, rfl⟩ := exists_split_of_checkRange hb valid
      exact (hbefore.exists_split hb htext).1
    obtain ⟨l, hl, hcol⟩ := Matcher.exists_substitutes huse resumes hb₁ found replaced
    refine ⟨b₁, left₁, g, l, hbefore, hl, ?_⟩
    intro hends
    exact Matcher.not_isCut_of_endsLine (hbefore.endsLine hb valid hends) hl.line hcol
  · intro wrap e next b' h
    obtain ⟨m', b₁, hm', found, replaced⟩ := replace_of_replaceNext h
    obtain rfl : m' = m :=
      Except.ok.inj ((Matcher.ofPattern_forward_of_ok hm').symm.trans accepted)
    obtain ⟨l, hl, hcol⟩ := Matcher.exists_substitutes huse resumes hb found replaced
    exact ⟨l, hl, fun hends => Matcher.not_isCut_of_endsLine hends hl.line hcol⟩

/-- A letter with the letter behind it is replaced by itself and both of them. -/
theorem replacing_expands_captures_of_group :
    let b := Buffer.ofText ['x', 'a', 'b'] .plainText
    let o : FindOptions := { useRegex := true, caseSensitive := true }
    let p : Program := ⟨#[.mark 2, .chars (.singleton 'a'), .mark 3, .chars (.singleton 'b')], []⟩
    let m : Matcher := ⟨.ofProgram p, true, false⟩
    let r : Range := ⟨⟨1, 1⟩, ⟨1, 3⟩⟩
    Matcher.ofPattern ['(', 'a', ')', 'b'] o.forward = .ok m ∧ o.useRegex = true ∧
      b.checkRange r = .ok () ∧ b.EndsLine r.stop ∧
      ∃ e es b', b.replaceAll ['(', 'a', ')', 'b'] ['$', '1', '$', '0'] r o =
          (.ok (e :: es), b') ∧
        (∃ l, m.Expands ['$', '1', '$', '0'] l e) ∧
        e.removed = ['a', 'b'] ∧ e.inserted = ['a', 'a', 'b'] := by
  intro b o p m r
  have accepted : Matcher.ofPattern ['(', 'a', ')', 'b'] o.forward = .ok m := rfl
  have valid : b.checkRange r = .ok () := by decide +kernel
  have hends : b.EndsLine r.stop := b.endsLine_stopPoint
  obtain ⟨l, hl, htext⟩ : ∃ l, b.line? 1 = some l ∧ l.text = ['x', 'a', 'b'] :=
    Option.map_eq_some_iff.mp (by decide +kernel)
  have hfind : m.findAt l.text 1 = some ⟨1, 3, [(3, 2), (2, 1)]⟩ := by
    rw [htext, Matcher.findAt_listed rfl]
    decide +kernel
  have found : m.findFirst b r = some r :=
    (Matcher.findFirst_from_iff valid hl rfl).mpr ⟨_, hfind, rfl, rfl, rfl⟩
  have obtained : b.Obtained := .ofReachable (.ofText _ _)
  obtain ⟨e, es, _, b', hall, _⟩ :=
    exists_first_edit obtained.isClean accepted ['$', '1', '$', '0'] valid found
  obtain ⟨⟨es', b'', hall', hedits⟩, _⟩ :=
    obtained.replacing_expands_captures accepted rfl ['$', '1', '$', '0'] valid
  rw [hall] at hall'
  cases hall'
  obtain ⟨b₁, left, g, l', hbefore, hsub, huncut⟩ := hedits [] e es rfl
  cases hbefore
  obtain rfl : r = g := Option.some.inj (found.symm.trans hsub.found)
  obtain rfl : l = l' := Option.some.inj (hl.symm.trans hsub.line)
  have hinserted := hsub.inserted
  have hremoved : b.getText r = .ok ['a', 'b'] := by decide +kernel
  rw [show r.start.col = 1 from rfl, hfind, htext] at hinserted
  refine ⟨accepted, rfl, valid, hends, e, es, b', hall, ⟨l, hsub.expands (huncut hends)⟩,
    Except.ok.inj (hsub.removed.symm.trans hremoved), hinserted.trans ?_⟩
  decide +kernel

/-- Two of three letters are replaced by what the pattern matches from the first one on, which is
all three. -/
theorem longer_match_is_inserted :
    let b := Buffer.ofText ['a', 'a', 'a', ' ', 'b'] .plainText
    let o : FindOptions := { useRegex := true, caseSensitive := true }
    let r : Range := ⟨⟨1, 0⟩, ⟨1, 2⟩⟩
    b.checkRange r = .ok () ∧
      ∃ e es b', b.replaceAll ['a', '+'] ['$', '0'] r o = (.ok (e :: es), b') ∧
        e.removed = ['a', 'a'] ∧ e.inserted = ['a', 'a', 'a'] := by
  intro b o r
  let m : Matcher := ⟨.ofProgram ⟨#[.chars (.singleton 'a'), .fork (-1) 1], []⟩, true, false⟩
  have accepted : Matcher.ofPattern ['a', '+'] o.forward = .ok m := rfl
  have valid : b.checkRange r = .ok () := by decide +kernel
  obtain ⟨l, hl, htext⟩ : ∃ l, b.line? 1 = some l ∧ l.text = ['a', 'a', 'a', ' ', 'b'] :=
    Option.map_eq_some_iff.mp (by decide +kernel)
  have hwhole : m.findAt l.text 0 = some ⟨0, 3, []⟩ := by
    rw [htext, Matcher.findAt_listed rfl]
    decide +kernel
  have hhead : m.findAt (l.text.take 2) 0 = some ⟨0, 2, []⟩ := by
    rw [htext, Matcher.findAt_listed rfl]
    decide +kernel
  have hcut : m.IsCutTo b r :=
    ⟨rfl, l, hl, ⟨_, hwhole, by decide⟩, _, hhead, rfl, rfl, rfl⟩
  have found : m.findFirst b r = some r := (Matcher.findFirst_self_iff valid).mpr (.inr hcut)
  obtain ⟨e, es, _, b', hall, hreplace⟩ := exists_first_edit
    (Obtained.ofReachable (.ofText _ _)).isClean accepted ['$', '0'] valid found
  obtain ⟨_, hremoved, hinserted⟩ := fields_of_replace hreplace
  have hslice : b.getText r = .ok ['a', 'a'] := by decide +kernel
  rw [Matcher.replacement_eq rfl hl (Nat.zero_le _), show r.start.col = 0 from rfl, hwhole, htext]
    at hinserted
  refine ⟨valid, e, es, b', hall, Except.ok.inj (hremoved.symm.trans hslice), hinserted.trans ?_⟩
  decide +kernel

end Buffer

end SourceEditor
