/-
  SourceEditor/Proofs/Buffer/Splice.lean
  ======================================
  **An edit of lines is a splice of the text.**  Editing works on lines: it cuts the first and the
  last line of the range, puts the pieces of the new text between the parts, and scans what is
  new.  Seen as one text, it replaces what lies between two offsets, with every line break of the
  new text written as a line feed.
-/
import SourceEditor.Proofs.Buffer.Calls
import SourceEditor.Proofs.Buffer.Points

namespace SourceEditor

/-! ### What scanning keeps -/

/-- Scanning lines again changes nothing that a scan does not decide. -/
theorem map_rescan {α : Type} {f : Line → α}
    (hf : ∀ (lex : Lexicon) (state : ScanState) (l : Line), f (l.scanned lex state) = f l)
    (lex : Lexicon) (state : ScanState) (n : Nat) (ls : List Line) :
    (rescan lex state n ls).map f = ls.map f := by
  induction ls generalizing state n with
  | nil => cases n <;> rfl
  | cons l rest ih =>
    cases n with
    | zero =>
      rw [rescan]
      split
      · rw [List.map_cons, List.map_cons, hf]
      · rw [List.map_cons, List.map_cons, ih, hf]
    | succ n => rw [rescan, List.map_cons, List.map_cons, ih, hf]

theorem map_text_rescan (lex : Lexicon) (state : ScanState) (n : Nat) (ls : List Line) :
    (rescan lex state n ls).map Line.text = ls.map Line.text :=
  map_rescan (fun _ _ _ => rfl) lex state n ls

theorem map_id_rescan (lex : Lexicon) (state : ScanState) (n : Nat) (ls : List Line) :
    (rescan lex state n ls).map Line.id = ls.map Line.id :=
  map_rescan (fun _ _ _ => rfl) lex state n ls

/-- New lines carry the identities and the texts that they are made of. -/
theorem Line.map_unscannedLines (stateOut : ScanState) (ids : List LineId) (ts : List Text) :
    (unscannedLines stateOut ids ts).map (fun l => (l.id, l.text)) = ids.zip ts := by
  induction ts generalizing ids with
  | nil => cases ids <;> rfl
  | cons t rest ih =>
    cases ids with
    | nil => rfl
    | cons id ids =>
      cases rest with
      | nil => simp [unscannedLines, unscanned]
      | cons t' rest =>
        rw [unscannedLines, List.map_cons, ih ids, List.zip_cons_cons]
        · rfl
        · simp

theorem Line.map_text_unscannedLines (stateOut : ScanState) {ids : List LineId} {ts : List Text}
    (h : ids.length = ts.length) : (unscannedLines stateOut ids ts).map Line.text = ts := by
  have hzip := congrArg (List.map Prod.snd) (map_unscannedLines stateOut ids ts)
  rwa [List.map_map, List.map_snd_zip (Nat.le_of_eq h.symm)] at hzip

theorem Line.map_id_unscannedLines (stateOut : ScanState) {ids : List LineId} {ts : List Text}
    (h : ids.length = ts.length) : (unscannedLines stateOut ids ts).map Line.id = ids := by
  have hzip := congrArg (List.map Prod.fst) (map_unscannedLines stateOut ids ts)
  rwa [List.map_map, List.map_fst_zip (Nat.le_of_eq h)] at hzip

namespace Buffer

/-! ### The lines after a splice -/

theorem length_identities (next : Nat) {count : Nat} (old : LineId) (pushedDown : Bool)
    (h : count ≠ 0) : (identities next count old pushedDown).length = count := by
  unfold identities
  cases pushedDown
  · simp only [Bool.false_eq_true, if_false, List.length_cons, List.length_map,
      List.length_range']
    omega
  · simp only [if_true, List.length_append, List.length_map, List.length_range', List.length_cons,
      List.length_nil]
    omega

theorem text_getElem?_getD {b : Buffer} {p : Point} (h : b.HasPoint p) (l : Line) :
    (b.lines[p.line - 1]?.getD l).text = b.texts[p.line - 1]?.getD [] := by
  obtain ⟨l', hl, _⟩ := hasPoint_iff.mp h
  rw [texts, List.getElem?_map, (line?_eq_some_iff.mp hl).2]
  rfl

/-- The lines that a range leaves when it gives way to pieces of a text are the lines above it, the
pieces and the lines below it, glued together. -/
theorem texts_replaced {b : Buffer} {r : Range} (hr : b.checkRange r = .ok ()) (kind : ChangeKind)
    (after : Range) {pieces : List Text} (hne : pieces ≠ []) :
    (b.replaced kind r after pieces).texts =
      Text.glue (Text.upTo b.texts r.start) (Text.glue pieces (Text.onFrom b.texts r.stop)) := by
  obtain ⟨hstart, hstop, _⟩ := checkRange_eq_ok_iff.mp hr
  have hfirst := text_getElem?_getD hstart b.firstLine
  have hlast := text_getElem?_getD hstop b.lastLine
  have hbelow : (b.lines.drop (r.stop.line - 1 + 1)).map Line.text = b.texts.drop r.stop.line := by
    rw [List.map_drop, Nat.sub_one_add_one hstop.1]
    rfl
  rw [texts, replaced]
  dsimp only
  rw [List.map_append, map_text_rescan, List.map_append,
    Line.map_text_unscannedLines _ (length_identities _ _ _
      (mt List.eq_nil_of_length_eq_zero (Text.surround_ne_nil _ _ pieces))),
    hfirst, hlast, hbelow, List.map_take, Text.surround_eq_glue _ _ hne]
  have hglue := Text.glue_ne_nil hne [(b.texts[r.stop.line - 1]?.getD []).drop r.stop.col]
  rw [Text.glue_append _ hglue, Text.glue_append _ (List.cons_ne_nil _ _),
    Text.append_glue _ (List.cons_ne_nil _ _)]
  rfl

/-- The text after a range has given way to the lines of a text. -/
theorem text_replaced {b : Buffer} {r : Range} (hr : b.checkRange r = .ok ()) (kind : ChangeKind)
    (after : Range) (t : Text) :
    (b.replaced kind r after t.lines).text =
      b.textBefore r.start ++ t.normalized ++ b.textFrom r.stop := by
  have hne := t.lines_ne_nil
  rw [text, texts_replaced hr kind after hne,
    Text.joinLines_glue (Text.upTo_ne_nil _ _) (Text.glue_ne_nil hne _),
    Text.joinLines_glue hne (Text.onFrom_ne_nil _ _), ← List.append_assoc]
  rfl

/-! ### Lines without line breaks -/

theorem IsClean.replaced {b : Buffer} (hb : b.IsClean) {r : Range} (hr : b.checkRange r = .ok ())
    (kind : ChangeKind) (after : Range) (t : Text) : (b.replaced kind r after t.lines).IsClean := by
  intro l hl
  rw [texts_replaced hr kind after t.lines_ne_nil] at hl
  exact Text.isLine_of_mem_glue (fun _ h => Text.isLine_of_mem_upTo hb h)
    (fun _ h => Text.isLine_of_mem_glue (fun _ h => Text.isLine_of_mem_lines h)
      (fun _ h => Text.isLine_of_mem_onFrom hb h) h) hl

theorem texts_ofText (t : Text) (profile : Profile) : (ofText t profile).texts = t.lines := by
  rw [texts, ofText, ofLines]
  dsimp only
  rw [map_text_rescan, List.map_map]
  apply List.ext_getElem
  · simp
  · intro i h h'
    simp [Line.unscanned]

theorem texts_setProfile (b : Buffer) (profile : Profile) : (b.setProfile profile).texts = b.texts :=
  map_text_rescan _ _ _ _

theorem texts_appendOne (b : Buffer) (id : LineId) (t : Text) :
    (b.appendOne id t).texts = b.texts ++ [t] := by
  rw [texts, appendOne, List.map_append]
  rfl

theorem text_appendOne (b : Buffer) (id : LineId) (t : Text) :
    (b.appendOne id t).text = b.text ++ '\n' :: t := by
  rw [text, texts_appendOne, Text.joinLines_concat b.texts_ne_nil]
  rfl

theorem text_setProfile (b : Buffer) (profile : Profile) : (b.setProfile profile).text = b.text :=
  congrArg Text.joinLines (texts_setProfile b profile)

theorem IsClean.appendOne {b : Buffer} (hb : b.IsClean) (id : LineId) {t : Text} (ht : t.IsLine) :
    (b.appendOne id t).IsClean := by
  intro l hl
  rw [texts_appendOne] at hl
  rcases List.mem_append.mp hl with hl | hl
  · exact hb l hl
  · exact (List.mem_singleton.mp hl) ▸ ht

theorem IsClean.setProfile {b : Buffer} (hb : b.IsClean) (profile : Profile) :
    (b.setProfile profile).IsClean := by
  intro l hl
  rw [texts_setProfile] at hl
  exact hb l hl

/-- No line of a buffer reached holds a line break. -/
theorem Reachable.isClean {b : Buffer} (reached : b.Reachable) : b.IsClean := by
  apply reached.induct
  · intro t profile l hl
    rw [texts_ofText] at hl
    exact Text.isLine_of_mem_lines hl
  · intro b kind r after t hb hr
    exact hb.replaced hr kind after t
  · intro b t hb ht
    exact hb.appendOne _ ht
  · intro b profile hb
    exact hb.setProfile profile
  · intro b s hb
    exact hb
  · intro b hb
    exact hb

theorem IsClean.after {b : Buffer} (hb : b.IsClean) (c : BufferCall) : (b.after c).IsClean := by
  apply after_induct c hb
  · intro b kind r after t hb hr
    exact hb.replaced hr kind after t
  · intro b t hb ht
    exact hb.appendOne _ ht
  · intro b profile hb
    exact hb.setProfile profile
  · intro b s hb
    exact hb

/-! ### Splices -/

/-- Replacing a part of the text: the edit reports the part, and the text that is there now. -/
theorem splice_behind {b : Buffer} (hb : b.IsClean) {x y z : Text} (h : b.text = x ++ y ++ z)
    (kind : ChangeKind) (t : Text) :
    ∃ b', b.splice kind ⟨.behind x, .behind (x ++ y)⟩ t =
        (.ok ⟨.behind (x ++ t.normalized), y != t.normalized,
          ⟨.behind x, .behind (x ++ t.normalized)⟩, y, t.normalized⟩, b') ∧
      b'.text = x ++ t.normalized ++ z ∧ b'.IsClean := by
  obtain ⟨hcheck, hslice, hfrom⟩ := checkRange_behind hb h
  have hbefore : b.textBefore (.behind x) = x :=
    (hasPoint_behind hb (h.trans (List.append_assoc x y z))).2.1
  have hcaret : (Point.behind x).advance t.normalized = .behind (x ++ t.normalized) :=
    (Point.behind_append x t.normalized).symm
  rw [splice, hcheck]
  dsimp only
  rw [hslice, hcaret]
  by_cases hsame : y = t.normalized
  · rw [if_pos hsame]
    refine ⟨b, ?_, hsame ▸ h, hb⟩
    simp [hsame]
  · rw [if_neg hsame]
    refine ⟨b.replaced kind _ ⟨.behind x, .behind (x ++ t.normalized)⟩ t.lines, ?_, ?_,
      hb.replaced hcheck kind _ t⟩
    · simp [hsame]
    · rw [text_replaced hcheck, hbefore, hfrom]

/-- An accepted request replaces a part of the text, and reports just that. -/
theorem exists_splice_of_edit {b b' : Buffer} (hb : b.IsClean) {q : EditRequest} {e : Edit}
    (h : b.edit q = (.ok e, b')) :
    ∃ x y z, b.text = x ++ y ++ z ∧ q.range = ⟨.behind x, .behind (x ++ y)⟩ ∧
      e = ⟨.behind (x ++ q.text.normalized), y != q.text.normalized,
        ⟨.behind x, .behind (x ++ q.text.normalized)⟩, y, q.text.normalized⟩ ∧
      b'.text = x ++ q.text.normalized ++ z ∧ b'.IsClean := by
  obtain ⟨x, y, z, htext, hrange⟩ := exists_split_of_checkRange hb (checkRange_of_edit h)
  obtain ⟨b₁, hsplice, htext₁, hb₁⟩ := splice_behind hb htext q.kind q.text
  rw [← hrange, ← edit_eq_splice, h] at hsplice
  cases hsplice
  exact ⟨x, y, z, htext, hrange, rfl, htext₁, hb₁⟩

/-- What an edit reports of the range and the text that it was asked to replace it with. -/
theorem fields_of_replace {b b' : Buffer} {r : Range} {t : Text} {e : Edit}
    (h : b.replace r t = (.ok e, b')) :
    e.range.start = r.start ∧ b.getText r = .ok e.removed ∧ e.inserted = t.normalized := by
  rw [replace, splice] at h
  rw [getText]
  rcases hcheck : b.checkRange r with error | ⟨⟩
  · rw [hcheck] at h
    cases h
  · rw [hcheck] at h
    dsimp only at h
    split at h
    · cases h
      exact ⟨rfl, rfl, rfl⟩
    · cases h
      exact ⟨rfl, rfl, rfl⟩

theorem normalized_of_getText {b : Buffer} (hb : b.IsClean) {r : Range} {t : Text}
    (h : b.getText r = .ok t) : t.normalized = t := by
  rcases hcheck : b.checkRange r with error | ⟨⟩
  · rw [getText, hcheck] at h
    cases h
  · obtain ⟨s, w, u, htext, rfl⟩ := exists_split_of_checkRange hb hcheck
    obtain rfl : w = t := Except.ok.inj ((getText_behind hb htext).symm.trans h)
    apply Text.normalized_eq_self
    intro hreturn
    exact hb.return_not_mem (by simp [htext, hreturn])

theorem offset_behind {b : Buffer} (hb : b.IsClean) {s t : Text} (h : b.text = s ++ t) :
    b.offset (.behind s) = s.length := by
  obtain ⟨hpoint, hbefore, _⟩ := hasPoint_behind hb h
  rw [← length_textBefore hpoint, hbefore]

theorem edit_isOk_iff {b : Buffer} {q : EditRequest} :
    (∃ e b', b.edit q = (.ok e, b')) ↔ b.checkRange q.range = .ok () := by
  constructor
  · rintro ⟨e, b', h⟩
    exact checkRange_of_edit h
  · intro h
    rw [edit_eq_splice, splice, h]
    dsimp only
    split <;> exact ⟨_, _, rfl⟩

/-- **An edit is a splice of the text.**  A buffer reached accepts a request exactly if both ends of
its range are points of the text, in order.  Then the text between their offsets gives way to the
text of the request, with a line feed for each of its line breaks, and the edit reports just that;
a request refused leaves the buffer as it was.  There is always a line, and none holds a line
break. -/
theorem Reachable.edit_splices_text {b : Buffer} (reached : b.Reachable) (q : EditRequest) :
    let first := b.offset q.range.start
    let last := b.offset q.range.stop
    let inserted := q.text.withLineFeeds
    ((∃ e b', b.edit q = (.ok e, b')) ↔
      b.HasPoint q.range.start ∧ b.HasPoint q.range.stop ∧ q.range.start ≤ q.range.stop) ∧
    (∀ e b', b.edit q = (.ok e, b') →
      b.after (.edit q) = b' ∧
      b'.text = b.text.take first ++ inserted ++ b.text.drop last ∧
      e.removed = (b.text.drop first).take (last - first) ∧
      e.inserted = inserted ∧
      e.range = ⟨q.range.start, q.range.start.advance inserted⟩ ∧
      b'.getText e.range = .ok inserted ∧
      e.caret = e.range.stop ∧
      (e.changed = true ↔ b'.text ≠ b.text)) ∧
    (∀ error b', b.edit q = (.error error, b') → b.after (.edit q) = b' ∧ b' = b) ∧
    b.lines ≠ [] ∧ ∀ l ∈ b.lines, '\n' ∉ l.text ∧ '\r' ∉ l.text := by
  have hb := reached.isClean
  refine ⟨edit_isOk_iff.trans checkRange_eq_ok_iff, ?_, ?_, b.lines_ne_nil, ?_⟩
  · intro e b' h
    have hcheck := checkRange_of_edit h
    obtain ⟨hstart, hstop, _⟩ := checkRange_eq_ok_iff.mp hcheck
    have htext := text_eq_append_slice hcheck
    have hrange : q.range =
        ⟨.behind (b.textBefore q.range.start),
          .behind (b.textBefore q.range.start ++ b.slice q.range)⟩ := by
      rw [← textBefore_stop hcheck, behind_textBefore hb hstart, behind_textBefore hb hstop]
    obtain ⟨b₁, hsplice, htext₁, hb₁⟩ := splice_behind hb htext q.kind q.text
    rw [← hrange, ← edit_eq_splice] at hsplice
    cases hsplice.symm.trans h
    obtain ⟨hget, hinserted, _⟩ := checkRange_behind hb₁ htext₁
    rw [take_offset hstart, drop_offset hstop, ← slice_eq_take_drop hcheck,
      ← Text.normalized_eq_withLineFeeds]
    refine ⟨?_, htext₁, rfl, rfl, ?_, ?_, rfl, ?_⟩
    · simp only [Buffer.after, hsplice]
    · rw [Point.behind_append, behind_textBefore hb hstart]
    · simp only [getText, hget, hinserted]
    · rw [htext₁, htext, bne_iff_ne, ne_eq, ne_eq, List.append_cancel_right_eq,
        List.append_cancel_left_eq]
      exact not_congr eq_comm
  · intro error b' h
    exact ⟨by simp only [Buffer.after, h], eq_of_edit_error h⟩
  · intro l hl
    exact (Text.isLine_iff l.text).mp (hb l.text (List.mem_map_of_mem hl))

/-- A line break of two characters takes the place of the end of one line, of a line below it and
of the start of the next. -/
theorem edit_splices_text_of_three_lines :
    let b := Buffer.ofText ['a', 'b', '\r', 'c', '\n', 'd', 'e'] .plainText
    let q : EditRequest := .replace ⟨⟨1, 1⟩, ⟨3, 1⟩⟩ ['x', '\r', '\n']
    b.Reachable ∧ ∃ e b', b.edit q = (.ok e, b') ∧
      b'.text = ['a', 'x', '\n', 'e'] ∧ e.removed = ['b', '\n', 'c', '\n', 'd'] := by
  intro b q
  have reached : b.Reachable := .ofText _ _
  refine ⟨reached, ?_⟩
  obtain ⟨haccepted, hspliced, _⟩ := reached.edit_splices_text q
  have hpoints : b.HasPoint q.range.start ∧ b.HasPoint q.range.stop ∧ q.range.start ≤ q.range.stop :=
    checkRange_eq_ok_iff.mp rfl
  obtain ⟨e, b', h⟩ := haccepted.mpr hpoints
  obtain ⟨_, htext, hremoved, _⟩ := hspliced e b' h
  exact ⟨e, b', h, htext.trans (by decide), hremoved.trans (by decide)⟩

end Buffer

end SourceEditor
