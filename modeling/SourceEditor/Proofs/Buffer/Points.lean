/-
  SourceEditor/Proofs/Buffer/Points.lean
  ======================================
  **The points and ranges of a buffer.**  A buffer accepts exactly the points that its lines have,
  and exactly the ranges between two such points in order.  A point accepted has an offset in the
  text; where no line holds a line break, the point is the one behind as many characters, and what
  lies between two points is the text between their offsets.
-/
import SourceEditor.Buffer.Basic
import SourceEditor.Proofs.Text.Points

namespace SourceEditor.Buffer

/-! ### Accepted points -/

theorem texts_ne_nil (b : Buffer) : b.texts ≠ [] := by
  intro h
  exact b.lines_ne_nil (List.map_eq_nil_iff.mp h)

theorem line?_eq_some_iff {b : Buffer} {n : Nat} {l : Line} :
    b.line? n = some l ↔ n ≠ 0 ∧ b.lines[n - 1]? = some l := by
  unfold line?
  by_cases hn : n = 0
  · simp [hn]
  · simp [hn]

theorem line?_eq_none_iff {b : Buffer} {n : Nat} :
    b.line? n = none ↔ n = 0 ∨ b.lineCount < n := by
  unfold line? lineCount
  by_cases hn : n = 0
  · simp [hn]
  · simp only [hn, if_false, List.getElem?_eq_none_iff, false_or]
    omega

/-- Whether a point is one of the text. -/
def HasPoint (b : Buffer) (p : Point) : Prop := Text.HasPoint b.texts p

theorem hasPoint_iff {b : Buffer} {p : Point} :
    b.HasPoint p ↔ ∃ l, b.line? p.line = some l ∧ p.col ≤ l.length := by
  constructor
  · rintro ⟨hline, t, ht, hcol⟩
    rw [texts, List.getElem?_map, Option.map_eq_some_iff] at ht
    obtain ⟨l, hl, rfl⟩ := ht
    exact ⟨l, line?_eq_some_iff.mpr ⟨hline, hl⟩, hcol⟩
  · rintro ⟨l, hl, hcol⟩
    obtain ⟨hline, hget⟩ := line?_eq_some_iff.mp hl
    exact ⟨hline, l.text, by rw [texts, List.getElem?_map, hget]; rfl, hcol⟩

theorem checkPoint_eq_ok_iff {b : Buffer} {p : Point} :
    b.checkPoint p = .ok () ↔ b.HasPoint p := by
  rw [hasPoint_iff, checkPoint]
  rcases hl : b.line? p.line with _ | l
  · simp
  · by_cases hcol : p.col ≤ l.length <;> simp [hcol]

theorem checkRange_eq_ok_iff {b : Buffer} {r : Range} :
    b.checkRange r = .ok () ↔ b.HasPoint r.start ∧ b.HasPoint r.stop ∧ r.start ≤ r.stop := by
  rw [← checkPoint_eq_ok_iff, ← checkPoint_eq_ok_iff, checkRange]
  rcases b.checkPoint r.start with e | ⟨⟩
  · simp
  · rcases b.checkPoint r.stop with e | ⟨⟩
    · simp
    · by_cases hle : r.start ≤ r.stop <;> simp [hle]

/-! ### Both ends of the text -/

theorem hasPoint_startPoint (b : Buffer) : b.HasPoint b.startPoint := by
  obtain ⟨l, ls, hlines⟩ := List.exists_cons_of_ne_nil b.lines_ne_nil
  exact hasPoint_iff.mpr ⟨l, line?_eq_some_iff.mpr ⟨Nat.one_ne_zero, by rw [hlines]; rfl⟩,
    Nat.zero_le _⟩

theorem line?_lineCount (b : Buffer) : b.line? b.lineCount = some b.lastLine := by
  have hpos := List.length_pos_iff.mpr b.lines_ne_nil
  rw [line?_eq_some_iff, lineCount, lastLine, List.getLast_eq_getElem]
  exact ⟨by omega, List.getElem?_eq_getElem _⟩

theorem hasPoint_stopPoint (b : Buffer) : b.HasPoint b.stopPoint :=
  hasPoint_iff.mpr ⟨b.lastLine, b.line?_lineCount, Nat.le_refl _⟩

theorem startPoint_le {b : Buffer} {p : Point} (hp : b.HasPoint p) : b.startPoint ≤ p := by
  obtain ⟨l, hl, _⟩ := hasPoint_iff.mp hp
  have hne := (line?_eq_some_iff.mp hl).1
  rw [Point.le_iff, startPoint]
  simp only
  omega

theorem le_stopPoint {b : Buffer} {p : Point} (hp : b.HasPoint p) : p ≤ b.stopPoint := by
  obtain ⟨l, hl, hcol⟩ := hasPoint_iff.mp hp
  obtain ⟨hlt, _⟩ := List.getElem?_eq_some_iff.mp (line?_eq_some_iff.mp hl).2
  rw [Point.le_iff, stopPoint]
  simp only
  by_cases hlast : p.line = b.lineCount
  · rw [hlast, line?_lineCount] at hl
    obtain rfl := Option.some.inj hl
    exact .inr ⟨hlast, hcol⟩
  · rw [lineCount] at hlast ⊢
    omega

/-! ### Offsets -/

/-- The number of characters in front of a point: those of the lines above it, each with its line
break, and its column. -/
def offset (b : Buffer) (p : Point) : Nat :=
  (b.texts.take (p.line - 1)).foldr (fun t n => t.length + 1 + n) p.col

/-- The text in front of a point. -/
def textBefore (b : Buffer) (p : Point) : Text := .joinLines (Text.upTo b.texts p)

/-- The text from a point on. -/
def textFrom (b : Buffer) (p : Point) : Text := .joinLines (Text.onFrom b.texts p)

theorem text_eq_append {b : Buffer} {p : Point} (h : b.HasPoint p) :
    b.text = b.textBefore p ++ b.textFrom p := Text.joinLines_eq_append h

theorem length_joinLines_append (above : List Text) (l : Text) :
    (Text.joinLines (above ++ [l])).length =
      above.foldr (fun t n => t.length + 1 + n) l.length := by
  induction above with
  | nil => simp
  | cons a above ih =>
    rw [List.cons_append, Text.joinLines_cons (by simp), List.length_append, List.length_cons, ih,
      List.foldr_cons]
    omega

theorem length_textBefore {b : Buffer} {p : Point} (h : b.HasPoint p) :
    (b.textBefore p).length = b.offset p := by
  obtain ⟨_, l, hl, hcol⟩ := h
  rw [textBefore, Text.upTo, length_joinLines_append, hl, Option.getD_some, List.length_take,
    Nat.min_eq_left hcol, offset]

theorem take_offset {b : Buffer} {p : Point} (h : b.HasPoint p) :
    b.text.take (b.offset p) = b.textBefore p := by
  rw [text_eq_append h, ← length_textBefore h, List.take_left]

theorem drop_offset {b : Buffer} {p : Point} (h : b.HasPoint p) :
    b.text.drop (b.offset p) = b.textFrom p := by
  rw [text_eq_append h, ← length_textBefore h, List.drop_left]

/-! ### Ranges -/

/-- A range splits the text from its start on into what it holds and the text behind it. -/
theorem textFrom_start {b : Buffer} {r : Range} (h : b.checkRange r = .ok ()) :
    b.textFrom r.start = b.slice r ++ b.textFrom r.stop := by
  obtain ⟨hstart, hstop, hle⟩ := checkRange_eq_ok_iff.mp h
  obtain ⟨hne, hglue⟩ := Text.glue_cutOut_onFrom hstart hstop hle
  rw [textFrom, ← hglue, Text.joinLines_glue hne (Text.onFrom_ne_nil _ _)]
  rfl

theorem text_eq_append_slice {b : Buffer} {r : Range} (h : b.checkRange r = .ok ()) :
    b.text = b.textBefore r.start ++ b.slice r ++ b.textFrom r.stop := by
  rw [text_eq_append (checkRange_eq_ok_iff.mp h).1, textFrom_start h, List.append_assoc]

theorem textBefore_stop {b : Buffer} {r : Range} (h : b.checkRange r = .ok ()) :
    b.textBefore r.stop = b.textBefore r.start ++ b.slice r := by
  have hstop := (checkRange_eq_ok_iff.mp h).2.1
  have heq : b.textBefore r.stop ++ b.textFrom r.stop =
      b.textBefore r.start ++ b.slice r ++ b.textFrom r.stop := by
    rw [← text_eq_append hstop, text_eq_append_slice h]
  exact List.append_cancel_right heq

/-- What a range holds is the text between the offsets of its ends. -/
theorem slice_eq_take_drop {b : Buffer} {r : Range} (h : b.checkRange r = .ok ()) :
    b.slice r = (b.text.drop (b.offset r.start)).take (b.offset r.stop - b.offset r.start) := by
  obtain ⟨hstart, hstop, _⟩ := checkRange_eq_ok_iff.mp h
  have hlength := congrArg List.length (textBefore_stop h)
  rw [List.length_append, length_textBefore hstop, length_textBefore hstart] at hlength
  rw [drop_offset hstart, textFrom_start h, hlength, Nat.add_sub_cancel_left, List.take_left]

/-! ### Lines without line breaks -/

/-- Whether no line holds a line break. -/
def IsClean (b : Buffer) : Prop := ∀ t ∈ b.texts, t.IsLine

theorem IsClean.return_not_mem {b : Buffer} (h : b.IsClean) : '\r' ∉ b.text :=
  Text.return_not_mem_joinLines h

theorem behind_textBefore {b : Buffer} (hb : b.IsClean) {p : Point} (h : b.HasPoint p) :
    Point.behind (b.textBefore p) = p := Text.behind_joinLines_upTo hb h

/-- The point behind a text with which the buffer begins is accepted, and cuts the text there. -/
theorem hasPoint_behind {b : Buffer} (hb : b.IsClean) {s t : Text} (h : b.text = s ++ t) :
    b.HasPoint (.behind s) ∧ b.textBefore (.behind s) = s ∧ b.textFrom (.behind s) = t := by
  obtain ⟨hpoint, hbefore⟩ := Text.exists_upTo_eq b.texts_ne_nil hb h
  have heq := text_eq_append hpoint
  rw [h, textBefore, hbefore] at heq
  exact ⟨hpoint, hbefore, (List.append_cancel_left heq).symm⟩

/-- Where the text is split in three, the range between the two places is accepted, and holds the
part in the middle. -/
theorem checkRange_behind {b : Buffer} (hb : b.IsClean) {s t u : Text}
    (h : b.text = s ++ t ++ u) :
    b.checkRange ⟨.behind s, .behind (s ++ t)⟩ = .ok () ∧
      b.slice ⟨.behind s, .behind (s ++ t)⟩ = t ∧ b.textFrom (.behind (s ++ t)) = u := by
  obtain ⟨hstart, hbefore, _⟩ := hasPoint_behind hb (h.trans (List.append_assoc s t u))
  obtain ⟨hstop, hbefore', hfrom⟩ := hasPoint_behind hb h
  have hcheck : b.checkRange ⟨.behind s, .behind (s ++ t)⟩ = .ok () :=
    checkRange_eq_ok_iff.mpr ⟨hstart, hstop, Point.behind_le_behind_append s t⟩
  refine ⟨hcheck, ?_, hfrom⟩
  have heq := textBefore_stop hcheck
  simp only [hbefore, hbefore'] at heq
  exact (List.append_cancel_left heq).symm

/-- The text between two columns of a line. -/
theorem slice_on_line {b : Buffer} {n : Nat} {l : Line} (hl : b.line? n = some l) (i j : Nat) :
    b.slice ⟨⟨n, i⟩, ⟨n, j⟩⟩ = (l.text.take j).drop i := by
  have hget : b.texts[n - 1]? = some l.text := by
    rw [texts, List.getElem?_map, (line?_eq_some_iff.mp hl).2]
    rfl
  obtain ⟨hlt, hgetElem⟩ := List.getElem?_eq_some_iff.mp hget
  have hcut : b.cut ⟨⟨n, i⟩, ⟨n, j⟩⟩ = [(l.text.take j).drop i] := by
    simp only [cut, Range.lineCount, Nat.sub_self, Nat.zero_add]
    rw [List.drop_eq_getElem_cons hlt, hgetElem]
    rfl
  rw [slice, hcut, Text.joinLines_singleton]

theorem getText_on_line {b : Buffer} {n : Nat} {l : Line} (hl : b.line? n = some l) {i j : Nat}
    (hle : i ≤ j) (hj : j ≤ l.length) :
    b.getText ⟨⟨n, i⟩, ⟨n, j⟩⟩ = .ok ((l.text.take j).drop i) := by
  have hcheck : b.checkRange ⟨⟨n, i⟩, ⟨n, j⟩⟩ = .ok () :=
    checkRange_eq_ok_iff.mpr ⟨hasPoint_iff.mpr ⟨l, hl, Nat.le_trans hle hj⟩,
      hasPoint_iff.mpr ⟨l, hl, hj⟩, .inr ⟨rfl, hle⟩⟩
  rw [getText, hcheck, slice_on_line hl]

theorem getText_behind {b : Buffer} (hb : b.IsClean) {s t u : Text} (h : b.text = s ++ t ++ u) :
    b.getText ⟨.behind s, .behind (s ++ t)⟩ = .ok t := by
  obtain ⟨hcheck, hslice, _⟩ := checkRange_behind hb h
  rw [getText, hcheck, hslice]

/-- A range from behind a text on is known by what it holds. -/
theorem eq_behind_of_getText {b : Buffer} (hb : b.IsClean) {s t : Text} (h : b.text = s ++ t)
    {r : Range} (hstart : r.start = .behind s) {v : Text} (hget : b.getText r = .ok v) :
    r = ⟨.behind s, .behind (s ++ v)⟩ := by
  rw [getText] at hget
  split at hget
  · cases hget
  · rename_i hcheck
    injection hget with hget
    have hstop := textBefore_stop hcheck
    rw [hstart, (hasPoint_behind hb h).2.1, hget] at hstop
    rw [← hstop, behind_textBefore hb (checkRange_eq_ok_iff.mp hcheck).2.1, ← hstart]

theorem IsClean.lines_text {b : Buffer} (hb : b.IsClean) : b.text.lines = b.texts :=
  Text.lines_joinLines b.texts_ne_nil hb

/-- The last point of a text lies behind all of it. -/
theorem IsClean.stopPoint_eq {b : Buffer} (hb : b.IsClean) : b.stopPoint = .behind b.text := by
  obtain ⟨above, hlines⟩ : ∃ above, b.lines = above ++ [b.lastLine] :=
    ⟨_, (List.dropLast_concat_getLast b.lines_ne_nil).symm⟩
  have htexts : b.texts = above.map Line.text ++ [b.lastLine.text] := by
    rw [texts, hlines, List.map_append]
    rfl
  have hlength : b.lines.length = above.length + 1 := by
    rw [hlines, List.length_append]
    rfl
  rw [text, htexts, Point.behind_joinLines (by rw [← htexts]; exact hb), List.length_map]
  simp only [stopPoint, lineCount, hlength, Line.length]

theorem IsClean.checkRange_range {b : Buffer} (hb : b.IsClean) : b.checkRange b.range = .ok () := by
  have htext : b.text = [] ++ b.text ++ [] := by simp
  have hcheck := (checkRange_behind hb htext).1
  rwa [List.nil_append, ← hb.stopPoint_eq] at hcheck

/-- Every range accepted lies between two places of the text. -/
theorem exists_split_of_checkRange {b : Buffer} (hb : b.IsClean) {r : Range}
    (h : b.checkRange r = .ok ()) :
    ∃ s t u, b.text = s ++ t ++ u ∧ r = ⟨.behind s, .behind (s ++ t)⟩ := by
  obtain ⟨hstart, hstop, _⟩ := checkRange_eq_ok_iff.mp h
  refine ⟨_, _, _, text_eq_append_slice h, ?_⟩
  rw [behind_textBefore hb hstart, ← textBefore_stop h, behind_textBefore hb hstop]

/-- The line on which a text ends with which the buffer begins: its first characters are those
behind the last line break of that text, and the others go on up to the next line break. -/
theorem exists_line_behind {b : Buffer} (hb : b.IsClean) {s t : Text} (h : b.text = s ++ t) :
    ∃ l, b.line? (Point.behind s).line = some l ∧ l.text = s.lastPart ++ t.firstPart ∧
      s.lastPart.length = (Point.behind s).col := by
  obtain ⟨hpoint, hbefore, hfrom⟩ := hasPoint_behind hb h
  obtain ⟨l, hl, hcol⟩ := hasPoint_iff.mp hpoint
  have hget : b.texts[(Point.behind s).line - 1]? = some l.text := by
    rw [texts, List.getElem?_map, (line?_eq_some_iff.mp hl).2]
    rfl
  have hline : l.text.IsLine := hb l.text (List.mem_of_getElem? hget)
  rw [textBefore, Text.upTo, hget, Option.getD_some] at hbefore
  rw [textFrom, Text.onFrom, hget, Option.getD_some] at hfrom
  have hlast := Text.lastPart_joinLines (b.texts.take ((Point.behind s).line - 1))
    (hline.take (Point.behind s).col)
  have hfirst := Text.firstPart_joinLines (hline.drop (Point.behind s).col)
    (b.texts.drop (Point.behind s).line)
  rw [hbefore] at hlast
  rw [hfrom] at hfirst
  refine ⟨l, hl, ?_, ?_⟩
  · rw [hlast, hfirst, List.take_append_drop]
  · rw [hlast, List.length_take]
    exact Nat.min_eq_left hcol

end SourceEditor.Buffer
