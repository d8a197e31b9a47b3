/-
  SourceEditor/Proofs/Listing/Rows.lean
  =====================================
  **What a listing shows.**  The matches in a source are listed below what the listings hold
  already.  Each row stands for one match: it repeats the line that the match is on behind a field
  with its number, and marks the field and the match.  As a row carries the identity of that line,
  the line is found in the source as long as it is there, wherever edits have moved it.
-/
import SourceEditor.Listing
import SourceEditor.Proofs.Buffer.Index
import SourceEditor.Proofs.Search.Lines

namespace SourceEditor

/-! ### Spans in order -/

namespace Line

theorem keepDisjoint_eq_self {spans : List Span} {stop : Nat} (hstop : ∀ s ∈ spans, stop ≤ s.offset)
    (hpos : ∀ s ∈ spans, 0 < s.length)
    (hapart : spans.Pairwise fun s t => s.stop ≤ t.offset) : keepDisjoint stop spans = spans := by
  induction spans generalizing stop with
  | nil => rfl
  | cons s rest ih =>
    obtain ⟨hfirst, hrest⟩ := List.pairwise_cons.mp hapart
    have hkept : s.length > 0 ∧ stop ≤ s.offset :=
      ⟨hpos s List.mem_cons_self, hstop s List.mem_cons_self⟩
    rw [keepDisjoint, if_pos hkept,
      ih hfirst (fun t ht => hpos t (List.mem_cons_of_mem s ht)) hrest]

/-- Spans that are not empty and lie apart in their order are taken as they are. -/
theorem normalSpans_eq_self {spans : List Span} (hpos : ∀ s ∈ spans, 0 < s.length)
    (hapart : spans.Pairwise fun s t => s.stop ≤ t.offset) : normalSpans spans = spans := by
  have hsorted : spans.Pairwise fun s t => decide (s.offset ≤ t.offset) = true := by
    apply hapart.imp
    intro s t h
    have hle : s.offset ≤ s.stop := Nat.le_add_right _ _
    exact decide_eq_true (Nat.le_trans hle h)
  rw [normalSpans, List.mergeSort_of_pairwise hsorted]
  exact keepDisjoint_eq_self (fun s _ => Nat.zero_le _) hpos hapart

@[simp] theorem normalSpans_nil : normalSpans [] = [] := by simp [normalSpans, keepDisjoint]

end Line

/-! ### Lines below the last one -/

namespace Buffer

/-- The line that is put below the last one, with an identity and spans of its own. -/
def annotatedLine (b : Buffer) (id : LineId) (t : Text) (spans : List Span) : Line :=
  ((Line.unscanned id t).scanned b.profile.lexicon b.lastLine.stateOut).annotated id spans

theorem lines_appendAnnotated (b : Buffer) (id : LineId) (t : Text) (spans : List Span) :
    (b.appendAnnotated id t spans).lines = b.lines ++ [b.annotatedLine id t spans] := by
  have hlt : b.lineCount < (b.appendOne id t).lines.length := by
    simp [appendOne, lineCount]
  rw [appendAnnotated]
  dsimp only
  rw [annotateAt, List.modify_eq_take_cons_drop hlt]
  simp [appendOne, lineCount, annotatedLine]

theorem text_eq_nil_iff {b : Buffer} : b.text = [] ↔ ∃ l, b.lines = [l] ∧ l.text = [] := by
  rw [text, texts]
  rcases hlines : b.lines with _ | ⟨l, _ | ⟨l', rest⟩⟩
  · exact absurd hlines b.lines_ne_nil
  · simp
  · rw [List.map_cons, Text.joinLines_cons (by simp)]
    simp

theorem range_isEmpty_iff {b : Buffer} : b.range.isEmpty = true ↔ b.text = [] := by
  simp only [Range.isEmpty, range, startPoint, stopPoint, Point.mk.injEq, decide_eq_true_eq,
    text_eq_nil_iff, lineCount, Line.length]
  constructor
  · rintro ⟨hcount, hlength⟩
    obtain ⟨l, hlines⟩ := List.length_eq_one_iff.mp hcount.symm
    refine ⟨l, hlines, List.eq_nil_of_length_eq_zero ?_⟩
    rw [hlength]
    simp [lastLine, hlines]
  · rintro ⟨l, hlines, htext⟩
    simp [lastLine, hlines, htext]

end Buffer

/-! ### Rows -/

namespace Listing

/-- Whether a line belongs to the listing itself and to no source. -/
structure IsMarker (row : Line) (t : Text) : Prop where
  id : row.id = none
  text : row.text = t
  spans : row.spans = []

/-- Whether a line shows a match in a source: the number of the line that the match is on, at the
right end of a field, and then that line, whose identity it carries.  The field is marked, and so is
the text of the match. -/
structure Shows (source : Buffer) (width : Nat) (f : Range) (row : Line) : Prop where
  exists_line : ∃ l, source.line? f.start.line = some l ∧ row.id = l.id ∧
    row.text = (Text.ofNat f.start.line).alignRight width ++ ' ' :: l.text
  length_number : ((Text.ofNat f.start.line).alignRight width).length = width
  exists_match : ∃ v, source.getText f = .ok v ∧
    row.spans = [⟨0, width, .number⟩, ⟨width + 1 + f.start.col, v.length, .found⟩] ∧
    (row.text.drop (width + 1 + f.start.col)).take v.length = v

theorem isMarker_annotatedLine (b : Buffer) (t : Text) :
    IsMarker (b.annotatedLine none t []) t := ⟨rfl, rfl, Line.normalSpans_nil⟩

/-- The number field is as wide as the longest number. -/
theorem numberWidth_eq_max {found : List Range} (hne : found ≠ []) :
    (∀ f ∈ found, (Text.ofNat f.start.line).length ≤ numberWidth found) ∧
      ∃ f ∈ found, (Text.ofNat f.start.line).length = numberWidth found := by
  obtain ⟨width, hmax⟩ : ∃ width,
      (found.map fun f => (Text.ofNat f.start.line).length).max? = some width := by
    rw [← Option.isSome_iff_exists, List.isSome_max?_iff]
    simpa using hne
  have hwidth : numberWidth found = width := by
    rw [numberWidth, List.foldl_max, hmax]
    simp
  obtain ⟨hmem, hle⟩ := List.max?_eq_some_iff.mp hmax
  rw [hwidth]
  refine ⟨?_, List.mem_map.mp hmem⟩
  intro f hf
  exact hle _ (List.mem_map_of_mem hf)

/-- A match in the source is shown by its row. -/
theorem shows_annotatedLine {source b : Buffer} {f : Range} {l : Line} {width : Nat}
    (h : Matcher.Takes source f l) (hwidth : (Text.ofNat f.start.line).length ≤ width) :
    Shows source width f
      (b.annotatedLine l.id (rowText width f.start.line l) (rowSpans width f l)) := by
  obtain ⟨⟨_, i⟩, ⟨n, j⟩⟩ := f
  obtain ⟨hl, hline, hlt, hle⟩ := h
  dsimp only at hl hline hlt hle hwidth ⊢
  subst hline
  have hlength : ((Text.ofNat n).alignRight width).length = width := by
    rw [Text.alignRight, List.length_leftpad, Nat.max_eq_left hwidth]
  have hdigits : 0 < width := Nat.lt_of_lt_of_le Nat.length_toDigits_pos hwidth
  have hspans : rowSpans width ⟨⟨n, i⟩, ⟨n, j⟩⟩ l =
      [⟨0, width, .number⟩, ⟨width + 1 + i, j - i, .found⟩] := by
    simp [rowSpans, Range.isSingleLine]
  have hmatch : ((l.text.take j).drop i).length = j - i := by
    have hj : j ≤ l.text.length := hle
    rw [List.length_drop, List.length_take, Nat.min_eq_left hj]
  refine ⟨⟨l, hl, rfl, rfl⟩, hlength, (l.text.take j).drop i,
    Buffer.getText_on_line hl (Nat.le_of_lt hlt) hle, ?_, ?_⟩
  · change Line.normalSpans (rowSpans width ⟨⟨n, i⟩, ⟨n, j⟩⟩ l) = _
    rw [hspans, hmatch]
    apply Line.normalSpans_eq_self
    · simp
      omega
    · simp [Span.stop]
      omega
  · -- the match stands as far behind the field as it stands on its line
    change ((rowText width n l).drop (width + 1 + i)).take _ = _
    have hdrop : (rowText width n l).drop (width + 1 + i) = l.text.drop i := by
      rw [rowText, Nat.add_assoc, ← List.drop_drop, List.drop_left' hlength, Nat.add_comm 1 i,
        List.drop_succ_cons]
    rw [hdrop, hmatch, List.drop_take]

/-- Rows are put below the last line, one for each match. -/
theorem exists_rows {source : Buffer} {width : Nat} {found : List Range}
    (hfound : ∀ f ∈ found, ∃ l, Matcher.Takes source f l)
    (hwidth : ∀ f ∈ found, (Text.ofNat f.start.line).length ≤ width) (b : Buffer) :
    ∃ rows, (found.foldl (writeRow source width) b).lines = b.lines ++ rows ∧
      List.Forall₂ (Shows source width) found rows := by
  induction found generalizing b with
  | nil => exact ⟨[], by simp, .nil⟩
  | cons f found ih =>
    obtain ⟨l, hl⟩ := hfound f List.mem_cons_self
    have hrow : writeRow source width b f =
        b.appendAnnotated l.id (rowText width f.start.line l) (rowSpans width f l) := by
      simp only [writeRow, hl.line]
    obtain ⟨rows, hlines, hshows⟩ := ih (fun g hg => hfound g (List.mem_cons_of_mem f hg))
      (fun g hg => hwidth g (List.mem_cons_of_mem f hg)) (writeRow source width b f)
    refine ⟨b.annotatedLine l.id (rowText width f.start.line l) (rowSpans width f l) :: rows, ?_,
      .cons (shows_annotatedLine hl (hwidth f List.mem_cons_self)) hshows⟩
    rw [List.foldl_cons, hlines, hrow, Buffer.lines_appendAnnotated, List.append_assoc]
    rfl

/-! ### The heading -/

theorem isLine_heading (name : Text) : (heading name).IsLine := by
  intro c hc
  simp only [heading, List.mem_append, List.mem_cons, List.mem_map, List.not_mem_nil,
    or_false] at hc
  rcases hc with (rfl | rfl | rfl) | ⟨d, _, rfl⟩
  · decide
  · decide
  · decide
  · split
    · decide
    · rename_i h
      exact Bool.not_eq_true _ ▸ h

/-- The lines that stay above a new listing: all there are, but not the one line of an empty
text. -/
def earlier (l : Listing) : List Line := if l.buffer.text = [] then [] else l.buffer.lines

/-- The heading takes the place of the one line of an empty text, and stands below the last line
otherwise. -/
theorem exists_writeHeading (l : Listing) (name : Text) :
    ∃ b row, writeHeading l.buffer name = .ok b ∧ b.lines = l.earlier ++ [row] ∧
      IsMarker row (heading name) := by
  obtain ⟨b⟩ := l
  by_cases hempty : b.text = []
  · obtain ⟨l, hlines, hl⟩ := Buffer.text_eq_nil_iff.mp hempty
    have hclean : b.IsClean := by
      intro t ht
      rw [Buffer.texts, hlines, List.map_singleton, List.mem_singleton] at ht
      rw [ht, hl]
      exact Text.isLine_nil
    have htext : b.text = [] ++ [] ++ [] := by simpa using hempty
    obtain ⟨b', hsplice, htext', hclean'⟩ :=
      Buffer.splice_behind hclean htext .insert (heading name)
    have hnormal := Text.normalized_eq_self (isLine_heading name).return_not_mem
    rw [hnormal, List.nil_append, List.append_nil] at htext'
    have hinsert : b.insert ⟨1, 0⟩ (heading name) = (.ok _, b') := hsplice
    have htexts : b'.texts = [heading name] := by
      rw [← hclean'.lines_text, htext', Text.lines_of_isLine (isLine_heading name)]
    obtain ⟨row, hrow, hname⟩ := List.map_eq_singleton_iff.mp htexts
    refine ⟨b'.annotate 1 none [], row.annotated none [], ?_, ?_,
      ⟨rfl, hname, Line.normalSpans_nil⟩⟩
    · simp only [writeHeading, Buffer.range_isEmpty_iff.mpr hempty, if_true, hinsert]
    · simp [earlier, hempty, Buffer.annotate, Buffer.annotateAt, hrow]
  · refine ⟨b.appendAnnotated none (heading name) [], _, ?_, ?_, isMarker_annotatedLine b _⟩
    · rw [writeHeading, if_neg (mt Buffer.range_isEmpty_iff.mp hempty)]
    · rw [Buffer.lines_appendAnnotated, earlier, if_neg hempty]

/-! ### Listings -/

theorem exists_write {source : Buffer} {found : List Range} (hne : found ≠ [])
    (hfound : ∀ f ∈ found, ∃ l, Matcher.Takes source f l) (l : Listing) (name : Text) :
    ∃ l' head rows foot, l.write name source found = .ok l' ∧
      l'.buffer.lines = l.earlier ++ head :: rows ++ [foot] ∧ IsMarker head (heading name) ∧
      IsMarker foot (footer found.length) ∧
      List.Forall₂ (Shows source (numberWidth found)) found rows := by
  obtain ⟨b, head, hhead, hlines, hmarker⟩ := l.exists_writeHeading name
  obtain ⟨rows, hrows, hshows⟩ := exists_rows hfound (numberWidth_eq_max hne).1 b
  let b' := found.foldl (writeRow source (numberWidth found)) b
  refine ⟨⟨b'.appendAnnotated none (footer found.length) []⟩, head, rows,
    b'.annotatedLine none (footer found.length) [], ?_, ?_, hmarker, isMarker_annotatedLine b' _,
    hshows⟩
  · rw [write, List.isEmpty_eq_false_iff.mpr hne, hhead]
    rfl
  · rw [Buffer.lines_appendAnnotated, hrows, hlines]
    simp

theorem getElem?_rows (above : List Line) (head : Line) (rows : List Line) (foot : Line) (i : Nat) :
    (above ++ head :: rows ++ [foot])[above.length + i + 1]? = (rows ++ [foot])[i]? := by
  rw [List.append_assoc, List.getElem?_append_right (by omega), Nat.add_assoc,
    Nat.add_sub_cancel_left]
  rfl

theorem sourceLine_eq {l : Listing} {i : Nat} {row : Line} (h : l.buffer.lines[i]? = some row)
    (source : Buffer) : l.sourceLine (i + 1) source = source.lineNumber? row.id := by
  have hrow : l.buffer.line? (i + 1) = some row :=
    Buffer.line?_eq_some_iff.mpr ⟨Nat.succ_ne_zero i, h⟩
  rw [sourceLine, hrow, Option.bind_some]

theorem sourceLine_of_isMarker {l : Listing} {i : Nat} {row : Line} {t : Text}
    (h : l.buffer.lines[i]? = some row) (hmarker : IsMarker row t) (source : Buffer) :
    l.sourceLine (i + 1) source = none := by
  rw [sourceLine_eq h, hmarker.id, Buffer.lineNumber?_none]

/-- A row leads to the line that it shows, wherever that is now. -/
theorem sourceLine_of_shows {source : Buffer} (reached : source.Reachable) {width : Nat}
    {l : Listing} {i : Nat} {row : Line} (h : l.buffer.lines[i]? = some row) {f : Range}
    (hshows : Shows source width f row) {line : Line}
    (hline : source.line? f.start.line = some line) (calls : List BufferCall) :
    (∀ k, l.sourceLine (i + 1) (source.run calls) = some k ↔
      ∃ line', (source.run calls).line? k = some line' ∧ line'.id = line.id) ∧
    (l.sourceLine (i + 1) (source.run calls) = none ↔ line.id ∉ (source.run calls).ids) := by
  obtain ⟨line₁, hline₁, hid, _⟩ := hshows.exists_line
  obtain rfl : line₁ = line := Option.some.inj (hline₁.symm.trans hline)
  have hmem : line₁.id ∈ source.ids :=
    List.mem_map_of_mem (List.mem_of_getElem? (Buffer.line?_eq_some_iff.mp hline).2)
  obtain ⟨n, _, hn⟩ := reached.isNumbered.lt_nextId line₁.id hmem
  rw [sourceLine_eq h, hid]
  refine ⟨?_, (reached.run calls).lineNumber?_eq_none_iff⟩
  intro k
  rw [(reached.run calls).lineNumber?_eq_some_iff, hn]
  simp

/-- **A listing shows what has been found, and leads back to it.**  If a pattern is accepted, all of
a source is searched for it, and nothing is refused.  Without matches the listings stay as they are.
Otherwise there stand below the listings from before a heading, a row for each match in the order in
which they are found, and a footer.  Whatever is called on the source afterwards, a row leads to the
line that it shows as long as that is there, and then to nothing, as heading and footer always
do. -/
theorem findAll_shows_matches {source : Buffer} (reached : source.Reachable) (l : Listing)
    (name : Text) {pattern : Text} {o : FindOptions} {m : Matcher}
    (accepted : Matcher.ofPattern pattern o.forward = .ok m) :
    ∃ found l', source.findAll pattern source.range o = .ok found ∧
      l.findAll name source pattern o = .ok (found.length, l') ∧
      (found = [] → l' = l) ∧
      (found ≠ [] → ∃ head rows foot width,
        l'.buffer.lines = l.earlier ++ head :: rows ++ [foot] ∧
        IsMarker head (heading name) ∧ IsMarker foot (footer found.length) ∧
        (∀ f ∈ found, (Text.ofNat f.start.line).length ≤ width) ∧
        (∃ f ∈ found, (Text.ofNat f.start.line).length = width) ∧
        List.Forall₂ (Shows source width) found rows ∧
        ∀ calls, let source' := source.run calls
          l'.sourceLine (l.earlier.length + 1) source' = none ∧
          l'.sourceLine (l.earlier.length + found.length + 2) source' = none ∧
          ∀ i f line, found[i]? = some f → source.line? f.start.line = some line →
            (∀ k, l'.sourceLine (l.earlier.length + i + 2) source' = some k ↔
              ∃ line', source'.line? k = some line' ∧ line'.id = line.id) ∧
            (l'.sourceLine (l.earlier.length + i + 2) source' = none ↔ line.id ∉ source'.ids)) := by
  have hfind : source.findAll pattern source.range o = .ok (m.findAllIn source source.range) := by
    rw [Buffer.findAll, reached.isClean.checkRange_range, accepted]
  have hfound : ∀ f ∈ m.findAllIn source source.range, ∃ l, Matcher.Takes source f l :=
    fun f hf => Matcher.exists_takes_of_mem_findAllIn hf
  generalize m.findAllIn source source.range = found at hfind hfound
  by_cases hnil : found = []
  · refine ⟨found, l, hfind, ?_, fun _ => rfl, fun hne => absurd hnil hne⟩
    simp [findAll, hfind, write, hnil]
  · obtain ⟨l', head, rows, foot, hwrite, hlines, hhead, hfoot, hshows⟩ :=
      l.exists_write hnil hfound name
    obtain ⟨hwidth, hwidest⟩ := numberWidth_eq_max hnil
    refine ⟨found, l', hfind, ?_, fun h => absurd h hnil, fun _ => ⟨head, rows, foot,
      numberWidth found, hlines, hhead, hfoot, hwidth, hwidest, hshows, ?_⟩⟩
    · simp only [findAll, hfind, hwrite]
    · obtain ⟨hlength, hget⟩ := List.forall₂_iff_get.mp hshows
      intro calls source'
      refine ⟨?_, ?_, ?_⟩
      · refine sourceLine_of_isMarker ?_ hhead source'
        simp [hlines]
      · refine sourceLine_of_isMarker ?_ hfoot source'
        rw [hlines, getElem?_rows, hlength, List.getElem?_concat_length]
      · intro i f line hf hline
        obtain ⟨hi, rfl⟩ := List.getElem?_eq_some_iff.mp hf
        have hrow : l'.buffer.lines[l.earlier.length + i + 1]? =
            some (rows.get ⟨i, hlength ▸ hi⟩) := by
          rw [hlines, getElem?_rows, List.getElem?_append_left (hlength ▸ hi)]
          exact List.getElem?_eq_getElem _
        exact sourceLine_of_shows reached hrow (hget i hi (hlength ▸ hi)) hline calls

/-- Two lines are listed, and then a line is put in front of them. -/
theorem findAll_shows_matches_of_two_lines :
    let source := Buffer.ofText ['a', 'b', '\n', 'c', 'a', 'b'] .plainText
    let o : FindOptions := { caseSensitive := true }
    let calls : List BufferCall := [.edit (.insert ⟨1, 0⟩ ['x', '\n'])]
    source.Reachable ∧
      Matcher.ofPattern ['a', 'b'] o.forward = .ok ⟨.literal ['a', 'b'] false, false, false⟩ ∧
      ∃ l', Listing.new.findAll ['f'] source ['a', 'b'] o = .ok (2, l') ∧
        l'.buffer.lines.length = 4 ∧ l'.sourceLine 1 (source.run calls) = none ∧
        l'.sourceLine 3 source = some 2 ∧ l'.sourceLine 3 (source.run calls) = some 3 := by
  intro source o calls
  have reached : source.Reachable := .ofText _ _
  have accepted : Matcher.ofPattern ['a', 'b'] o.forward =
      .ok ⟨.literal ['a', 'b'] false, false, false⟩ := rfl
  have listed : source.findAll ['a', 'b'] source.range o =
      .ok [⟨⟨1, 0⟩, ⟨1, 2⟩⟩, ⟨⟨2, 1⟩, ⟨2, 3⟩⟩] := by decide +kernel
  obtain ⟨found, l', hfind, hall, _, hlisted⟩ :=
    findAll_shows_matches reached Listing.new ['f'] accepted
  obtain rfl : [⟨⟨1, 0⟩, ⟨1, 2⟩⟩, ⟨⟨2, 1⟩, ⟨2, 3⟩⟩] = found :=
    Except.ok.inj (listed.symm.trans hfind)
  obtain ⟨head, rows, foot, width, hlines, _, _, _, _, hshows, hsource⟩ :=
    hlisted (List.cons_ne_nil _ _)
  have hearlier : Listing.new.earlier = [] := rfl
  rw [hearlier] at hlines hsource
  have hline : source.line? 2 = some source.lastLine := rfl
  refine ⟨reached, accepted, l', hall, ?_, (hsource calls).1, ?_, ?_⟩
  · rw [hlines]
    simp [← hshows.length_eq]
  · exact (((hsource []).2.2 1 _ _ rfl hline).1 2).mpr ⟨_, hline, rfl⟩
  · exact (((hsource calls).2.2 1 _ _ rfl hline).1 3).mpr ⟨(source.run calls).lastLine, rfl, rfl⟩

end Listing

end SourceEditor
