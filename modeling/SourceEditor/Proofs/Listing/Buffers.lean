/-
  SourceEditor/Proofs/Listing/Buffers.lean
  ========================================
  **All the buffers there are.**  Besides the buffers of texts there are those that listings are
  written into, where lines are put below the last one and annotated one by one.  A listing hands
  its buffer out, so that whatever can be done to a buffer can be done to this one too.  No line of
  any of them ever holds a line break.
-/
import SourceEditor.Proofs.Buffer.Annotation
import SourceEditor.Proofs.Listing.Rows

namespace SourceEditor

namespace Buffer

theorem texts_annotate (b : Buffer) (n : Nat) (id : LineId) (spans : List Span) :
    (b.annotate n id spans).texts = b.texts := by
  rw [annotate]
  by_cases hn : n = 0
  · rw [if_pos hn]
  · rw [if_neg hn]
    apply List.ext_getElem?
    intro i
    simp only [texts, annotateAt, List.getElem?_map, List.getElem?_modify]
    rcases b.lines[i]? with _ | l
    · rfl
    · by_cases hi : n - 1 = i <;> simp [hi, Line.annotated]

theorem texts_appendAnnotated (b : Buffer) (id : LineId) (t : Text) (spans : List Span) :
    (b.appendAnnotated id t spans).texts = b.texts ++ [t] := by
  rw [texts, lines_appendAnnotated, List.map_append]
  rfl

theorem IsTracked.annotateAt {b : Buffer} (hb : b.IsTracked) (i : Nat) (id : LineId)
    (spans : List Span) : Tracked b.profile.lexicon .normal (b.annotateAt i id spans) :=
  Chained.modify (f := fun l => l.annotated id spans) (fun h => h) (fun _ => rfl) hb i

theorem IsTracked.annotate {b : Buffer} (hb : b.IsTracked) (n : Nat) (id : LineId)
    (spans : List Span) : (b.annotate n id spans).IsTracked := by
  rw [Buffer.annotate]
  split
  · exact hb
  · exact hb.annotateAt (n - 1) id spans

theorem IsTracked.appendAnnotated {b : Buffer} (hb : b.IsTracked) (id : LineId) (t : Text)
    (spans : List Span) : (b.appendAnnotated id t spans).IsTracked :=
  IsTracked.annotateAt (IsChained.appendOne Line.trackedIn_scanned hb id t) b.lineCount id spans

/-- The buffers of texts, and those into which lines with annotations of their own are put, after
any calls and with lines looked up in between. -/
inductive Obtained : Buffer → Prop where
  | ofReachable {b : Buffer} (reached : b.Reachable) : Obtained b
  | after {b : Buffer} (obtained : Obtained b) (c : BufferCall) : Obtained (b.after c)
  | annotate {b : Buffer} (obtained : Obtained b) (n : Nat) (id : LineId) (spans : List Span) :
      Obtained (b.annotate n id spans)
  | appendAnnotated {b : Buffer} (obtained : Obtained b) (id : LineId) {t : Text}
      (line : t.IsLine) (spans : List Span) : Obtained (b.appendAnnotated id t spans)
  | lookUp {b : Buffer} (obtained : Obtained b) (id : LineId) : Obtained (b.lookUp id).2

namespace Obtained

theorem isClean {b : Buffer} (obtained : b.Obtained) : b.IsClean := by
  induction obtained with
  | ofReachable reached => exact reached.isClean
  | after _ c ih => exact ih.after c
  | annotate _ n id spans ih =>
    intro t ht
    rw [texts_annotate] at ht
    exact ih t ht
  | appendAnnotated _ id line spans ih =>
    intro t ht
    rw [texts_appendAnnotated] at ht
    rcases List.mem_append.mp ht with ht | ht
    · exact ih t ht
    · rw [List.mem_singleton.mp ht]
      exact line
  | @lookUp b _ id ih =>
    have htexts : (b.lookUp id).2.texts = b.texts := by
      rw [Buffer.lookUp]
      split <;> rfl
    intro t ht
    exact ih t (htexts ▸ ht)

/-- Whatever its lines show, a buffer keeps the states that they begin and end in. -/
theorem isTracked {b : Buffer} (obtained : b.Obtained) : b.IsTracked := by
  induction obtained with
  | ofReachable reached => exact reached.isChained Line.trackedIn_scanned
  | after _ c ih => exact IsChained.after Line.trackedIn_scanned ih c
  | annotate _ n id spans ih => exact ih.annotate n id spans
  | appendAnnotated _ id line spans ih => exact ih.appendAnnotated id _ spans
  | lookUp _ id ih =>
    rw [Buffer.lookUp]
    split <;> exact ih

theorem edit {b b' : Buffer} (obtained : b.Obtained) {q : EditRequest} {e : Edit}
    (h : b.edit q = (.ok e, b')) : b'.Obtained := by
  have hafter := obtained.after (.edit q)
  simpa only [Buffer.after, h] using hafter

theorem run {b : Buffer} (obtained : b.Obtained) (calls : List BufferCall) :
    (b.run calls).Obtained := by
  induction calls generalizing b with
  | nil => exact obtained
  | cons c calls ih => exact ih (obtained.after c)

end Obtained

end Buffer

/-! ### The buffers of listings -/

namespace Listing

theorem isLine_ofNat (n : Nat) : (Text.ofNat n).IsLine := by
  intro c hc
  have hdigit : c.isDigit = true := Nat.isDigit_of_mem_toDigits (by decide) (by decide) hc
  rw [isLineBreak, Bool.or_eq_false_iff]
  constructor
  · rw [beq_eq_false_iff_ne]
    rintro rfl
    cases hdigit
  · rw [beq_eq_false_iff_ne]
    rintro rfl
    cases hdigit

theorem isLine_rowText (width n : Nat) {l : Line} (hl : l.text.IsLine) :
    (rowText width n l).IsLine := by
  apply Text.IsLine.append
  · intro c hc
    rcases List.mem_append.mp hc with hc | hc
    · rw [List.eq_of_mem_replicate hc]
      rfl
    · exact isLine_ofNat n c hc
  · exact Text.IsLine.cons rfl hl

theorem isLine_footer (count : Nat) : (footer count).IsLine := by
  apply Text.IsLine.append
  · exact .cons rfl (.cons rfl (.cons rfl Text.isLine_nil))
  · exact isLine_ofNat count

theorem obtained_new : Listing.new.buffer.Obtained :=
  (Buffer.Obtained.ofReachable (.new _)).annotate 1 none []

section Induct

variable {motive : Buffer → Prop} {l l' : Listing}

/-- What edits and annotations keep is kept where all listings are taken away. -/
theorem clear_induct (h : l.clear = .ok l') (start : motive l.buffer)
    (edit : ∀ {b b' : Buffer} {q : EditRequest} {e : Edit}, motive b → b.edit q = (.ok e, b') →
      motive b')
    (annotate : ∀ b : Buffer, motive b → motive (b.annotate 1 none [])) : motive l'.buffer := by
  rw [clear] at h
  by_cases hempty : l.buffer.range.isEmpty = true
  · simp only [hempty, if_true] at h
    obtain rfl := Except.ok.inj h
    exact annotate _ start
  · rcases hdelete : l.buffer.delete l.buffer.range with ⟨e | e, b⟩
    · simp [hempty, hdelete] at h
    · simp only [hempty, hdelete, Bool.false_eq_true, if_false] at h
      obtain rfl := Except.ok.inj h
      exact annotate _ (edit (q := .delete l.buffer.range) start hdelete)

/-- What edits, annotations and appended lines keep is kept where a listing is written.  The
appended lines hold no line break if no line of the source does. -/
theorem write_induct {name : Text} {source : Buffer} {found : List Range}
    (h : l.write name source found = .ok l') (start : motive l.buffer)
    (edit : ∀ {b b' : Buffer} {q : EditRequest} {e : Edit}, motive b → b.edit q = (.ok e, b') →
      motive b')
    (annotate : ∀ b : Buffer, motive b → motive (b.annotate 1 none []))
    (append : ∀ (b : Buffer) (id : LineId) (t : Text) (spans : List Span),
      (source.IsClean → t.IsLine) → motive b → motive (b.appendAnnotated id t spans)) :
    motive l'.buffer := by
  have hrow : ∀ (b : Buffer) (f : Range), motive b →
      motive (writeRow source (numberWidth found) b f) := by
    intro b f hb
    rw [writeRow]
    rcases hl : source.line? f.start.line with _ | line
    · exact hb
    · refine append b _ _ _ (fun hsource => isLine_rowText _ _ (hsource _ ?_)) hb
      exact List.mem_map_of_mem (List.mem_of_getElem? (Buffer.line?_eq_some_iff.mp hl).2)
  have hrows : ∀ (fs : List Range) (b : Buffer), motive b →
      motive (fs.foldl (writeRow source (numberWidth found)) b) := by
    intro fs
    induction fs with
    | nil => exact fun b hb => hb
    | cons f fs ih => exact fun b hb => ih _ (hrow b f hb)
  have hheading : ∀ b, writeHeading l.buffer name = .ok b → motive b := by
    intro b h
    rw [writeHeading] at h
    by_cases hempty : l.buffer.range.isEmpty = true
    · rw [if_pos hempty] at h
      rcases hinsert : l.buffer.insert ⟨1, 0⟩ (heading name) with ⟨e | e, b₁⟩
      · simp [hinsert] at h
      · simp only [hinsert] at h
        obtain rfl := Except.ok.inj h
        exact annotate _ (edit (q := .insert ⟨1, 0⟩ (heading name)) start hinsert)
    · rw [if_neg hempty] at h
      obtain rfl := Except.ok.inj h
      exact append _ _ _ _ (fun _ => isLine_heading name) start
  rw [write] at h
  by_cases hnil : found.isEmpty = true
  · rw [if_pos hnil] at h
    obtain rfl := Except.ok.inj h
    exact start
  · rw [if_neg hnil] at h
    rcases hb : writeHeading l.buffer name with e | b
    · simp [hb] at h
    · simp only [hb] at h
      obtain rfl := Except.ok.inj h
      exact append _ _ _ _ (fun _ => isLine_footer _) (hrows found b (hheading b hb))

end Induct

theorem obtained_clear {l l' : Listing} (obtained : l.buffer.Obtained) (h : l.clear = .ok l') :
    l'.buffer.Obtained :=
  clear_induct h obtained (fun hb hedit => hb.edit hedit) fun _ hb => hb.annotate 1 none []

/-- A listing is written into a buffer like any other, from a source like any other, which may be
the buffer of a listing itself. -/
theorem obtained_write {source : Buffer} (hsource : source.Obtained) {l l' : Listing}
    (obtained : l.buffer.Obtained) {name : Text} {found : List Range}
    (h : l.write name source found = .ok l') : l'.buffer.Obtained :=
  write_induct h obtained (fun hb hedit => hb.edit hedit) (fun _ hb => hb.annotate 1 none [])
    fun _ id _ spans hline hb => hb.appendAnnotated id (hline hsource.isClean) spans

/-- The listings that there are: the empty one, and those that come about where listings are taken
away and where matches in a source are listed. -/
inductive Made : Listing → Prop where
  | new : Made .new
  | clear {l l' : Listing} (made : Made l) (h : l.clear = .ok l') : Made l'
  | write {l l' : Listing} {name : Text} {source : Buffer} {found : List Range} (made : Made l)
      (obtained : source.Obtained) (h : l.write name source found = .ok l') : Made l'

theorem Made.obtained {l : Listing} (made : l.Made) : l.buffer.Obtained := by
  induction made with
  | new => exact obtained_new
  | clear _ h ih => exact obtained_clear ih h
  | write _ obtained h ih => exact obtained_write obtained ih h

/-- A listing is plain text. -/
theorem Made.profile_eq {l : Listing} (made : l.Made) : l.buffer.profile = .plainText := by
  have hedit : ∀ {b b' : Buffer} {q : EditRequest} {e : Edit}, b.profile = .plainText →
      b.edit q = (.ok e, b') → b'.profile = .plainText := by
    intro b b' q e hb h
    rcases Buffer.edit_cases h with ⟨_, rfl⟩ | ⟨_, rfl⟩
    · exact hb
    · exact hb
  have hannotate : ∀ b : Buffer, b.profile = .plainText →
      (b.annotate 1 none []).profile = .plainText := fun _ hb => hb
  induction made with
  | new => rfl
  | clear _ h ih => exact clear_induct h ih hedit hannotate
  | write _ _ h ih => exact write_induct h ih hedit hannotate fun _ _ _ _ _ hb => hb

end Listing

namespace Buffer

/-- The buffers that there are: those of texts, and those that listings hand out, after any calls
and with lines looked up in between. -/
inductive Handed : Buffer → Prop where
  | ofReachable {b : Buffer} (reached : b.Reachable) : Handed b
  | ofListing {l : Listing} (made : l.Made) : Handed l.buffer
  | after {b : Buffer} (handed : Handed b) (c : BufferCall) : Handed (b.after c)
  | lookUp {b : Buffer} (handed : Handed b) (id : LineId) : Handed (b.lookUp id).2

/-- So the laws of buffers, whatever they show, hold of all these. -/
theorem Handed.obtained {b : Buffer} (handed : b.Handed) : b.Obtained := by
  induction handed with
  | ofReachable reached => exact .ofReachable reached
  | ofListing made => exact made.obtained
  | after _ c ih => exact ih.after c
  | lookUp _ id ih => exact ih.lookUp id

/-- Only the lines of listings show other tokens than those of their scans, and how these are
indented depends on no tokens. -/
theorem Handed.showsScans {b : Buffer} (handed : b.Handed) : b.ShowsScans := by
  induction handed with
  | ofReachable reached => exact reached.showsScans
  | ofListing made =>
    intro hstyle
    rw [made.profile_eq] at hstyle
    exact absurd rfl hstyle
  | after _ c ih => exact ih.after c
  | @lookUp b _ id ih =>
    rw [Buffer.lookUp]
    split <;> exact ih

end Buffer

end SourceEditor
