/-
  SourceEditor/Proofs/Document/Refused.lean
  =========================================
  **What a refused call leaves behind.**  A call that edits is refused for a place that does not
  exist or a pattern that cannot be read.  All calls but one look for that before they edit, so that
  nothing can go wrong afterwards, and the group opened for them is dropped again.  Indenting a row
  of lines looks at each line when its turn comes: where the row goes on beyond the last line, the
  lines that exist have been indented already when the call is refused.
-/
import SourceEditor.Proofs.Document.Reindent

namespace SourceEditor

/-! ### Documents in use -/

/-- The request that an operation makes of the buffer. -/
def EditOperation.request : EditOperation → EditRequest
  | .insert p t => .insert p t
  | .delete p t => .delete (.between p (p.advance t))

namespace Document

theorem perform_eq (d : Document) (op : EditOperation) :
    d.perform op =
      ((d.buffer.edit op.request).1, { d with buffer := (d.buffer.edit op.request).2 }) := by
  cases op <;> rfl

theorem history_performAll (d : Document) (ops : List EditOperation) :
    (d.performAll ops).2.history = d.history := by
  induction ops generalizing d with
  | nil => rfl
  | cons op ops ih =>
    rw [performAll, perform_eq]
    rcases d.buffer.edit op.request with ⟨error | e, b⟩
    · rfl
    · exact ih { d with buffer := b }

/-- Undoing and redoing leave the history that gave the operations. -/
theorem history_revisit (d : Document) (step : Option (List EditOperation × Point) × History) :
    (d.revisit step).2.history = step.2 := by
  obtain ⟨answer, history⟩ := step
  rcases answer with _ | ⟨ops, caret⟩
  · rfl
  · have hall := history_performAll { d with history } ops
    simp only [revisit]
    split
    · rename_i hperform
      rwa [hperform] at hall
    · rename_i hperform
      rwa [hperform] at hall

/-- The document that calls leave, made one after the other. -/
def run (d : Document) (calls : List DocumentCall) : Document := calls.foldl after d

/-- Whether a document is between two calls: its buffer is one that can be reached, and no group is
open. -/
structure Rests (d : Document) : Prop where
  reached : d.buffer.Reachable
  idle : d.history.current = none

theorem Rests.edited {d : Document} (h : d.Rests) (a : DocumentEdit) : (d.edited a).Rests := by
  obtain ⟨b, history, o, m⟩ := d
  obtain ⟨es, b', hedited, _, hleaves⟩ := exists_edited h.reached.isClean o a
  rw [hleaves]
  exact ⟨hedited.reachable h.reached, History.current_commit _⟩

theorem Rests.perform {d : Document} (h : d.Rests) (op : EditOperation) :
    (d.perform op).2.Rests := by
  rw [perform_eq]
  exact ⟨h.reached.after (.edit op.request), h.idle⟩

theorem Rests.performAll {d : Document} (h : d.Rests) (ops : List EditOperation) :
    (d.performAll ops).2.Rests := by
  induction ops generalizing d with
  | nil => exact h
  | cons op ops ih =>
    rw [Document.performAll]
    have hstep := h.perform op
    rcases hperform : d.perform op with ⟨error | e, d'⟩
    · rwa [hperform] at hstep
    · rw [hperform] at hstep
      exact ih hstep

theorem Rests.revisit {d : Document} (h : d.Rests)
    {step : Option (List EditOperation × Point) × History} (idle : step.2.current = none) :
    (d.revisit step).2.Rests := by
  obtain ⟨operations, history⟩ := step
  have hrests : ({ d with history } : Document).Rests := ⟨h.reached, idle⟩
  rcases operations with _ | ⟨ops, caret⟩
  · exact hrests
  · have hall := hrests.performAll ops
    simp only [Document.revisit]
    split
    · rename_i hperform
      rwa [hperform] at hall
    · rename_i hperform
      rw [hperform] at hall
      exact ⟨hall.reached, hall.idle⟩

theorem Rests.after {d : Document} (h : d.Rests) (c : DocumentCall) : (d.after c).Rests := by
  cases c with
  | edit a => exact h.edited a
  | undo => exact h.revisit (History.current_undo _)
  | redo => exact h.revisit (History.current_redo h.idle)
  | setProfile p => exact ⟨h.reached.after (.setProfile p), h.idle⟩
  | subscribe => exact ⟨h.reached.after .subscribe, h.idle⟩
  | unsubscribe k => exact ⟨h.reached.after (.unsubscribe k), h.idle⟩
  | setOptions o =>
    simp only [Document.after, setOptions]
    cases o.validate <;> exact ⟨h.reached, h.idle⟩
  | markSaved => exact ⟨h.reached, h.idle⟩
  | clearHistory => exact ⟨h.reached, rfl⟩
  | setCoalesce on => exact ⟨h.reached, h.idle⟩

theorem Rests.run {d : Document} (h : d.Rests) (calls : List DocumentCall) :
    (d.run calls).Rests := by
  induction calls generalizing d with
  | nil => exact h
  | cons c calls ih => exact ih (h.after c)

/-! ### Refusals -/

/-- The document with no group open. -/
def closed (d : Document) : Document := { d with history := d.history.commit }

theorem Rests.closed_eq {d : Document} (h : d.Rests) : d.closed = d := by
  rw [closed, History.commit, h.idle]

/-- The error that a result is, if it is one. -/
def failure {ε α : Type} (wrap : ε → FindError) : Except ε α → Option FindError
  | .error e => some (wrap e)
  | .ok _ => none

/-- The error with which a call that edits is refused. -/
def refusal (d : Document) : DocumentEdit → Option FindError
  | .insert p t => failure .buffer (d.insert p t).1
  | .delete r => failure .buffer (d.delete r).1
  | .replace r t => failure .buffer (d.replace r t).1
  | .newline p => failure .buffer (d.newline p).1
  | .reindentLine n => failure .buffer (d.reindentLine n).1
  | .reindentLines first last => failure .buffer (d.reindentLines first last).1
  | .replaceAll pattern replacement r o => failure id (d.replaceAll pattern replacement r o).1
  | .replaceNext pattern replacement selection o wrap =>
    failure id (d.replaceNext pattern replacement selection o wrap).1

theorem failure_eq_some_iff {ε α : Type} {wrap : ε → FindError} {x : Except ε α} {e : FindError} :
    failure wrap x = some e ↔ ∃ error, x = .error error ∧ wrap error = e := by
  cases x <;> simp [failure]

section Spares

variable {ε α : Type}

/-- Whether what has been done to a document has left it alone if it was refused. -/
def Spares (d : Document) (x : Except ε α × Document) : Prop :=
  ∀ error, x.1 = .error error → x.2 = d

theorem spares_refused (d : Document) (error : ε) : d.Spares ((.error error : Except ε α), d) :=
  fun _ _ => rfl

theorem spares_of_ok (d : Document) {x : Except ε α × Document} {a : α} (h : x.1 = .ok a) :
    d.Spares x := by
  intro error herror
  rw [h] at herror
  cases herror

/-- The group opened for what is refused is dropped; one that was open before is closed. -/
theorem Spares.grouped {d : Document} {caret : Point} {body : Document → Except ε α × Document}
    (h : Spares { d with history := d.history.begin caret }
      (body { d with history := d.history.begin caret })) :
    d.closed.Spares (d.grouped caret body) := by
  intro error herror
  have hbody := h error herror
  change ({ (body { d with history := d.history.begin caret }).2 with
    history := (body { d with history := d.history.begin caret }).2.history.commit } : Document) =
      d.closed
  have hcommit : (d.history.begin caret).commit = d.history.commit := by
    rw [History.begin, History.commit_of_nil _ rfl, ← d.history.current_commit]
  rw [hbody, closed]
  dsimp only
  rw [hcommit]

end Spares

theorem spares_applied (d : Document) (q : EditRequest) :
    d.Spares (d.applied (d.buffer.edit q)) := by
  rcases h : d.buffer.edit q with ⟨error | e, b⟩
  · rw [← h, applied_of_edit_error h]
    exact d.spares_refused error
  · exact d.spares_of_ok rfl

theorem spares_applyIndent (d : Document) (n : Nat) : d.Spares (d.applyIndent n) := by
  obtain ⟨b, h, o, m⟩ := d
  rcases applyIndent_cases b o n with ⟨error, hrefused⟩ | ⟨q, e, b₁, _, _, hdone⟩
  · rw [hrefused]
    exact spares_refused _ error
  · rw [hdone]
    exact spares_of_ok _ rfl

/-- Where a line has been broken there is a line below it. -/
theorem exists_line?_of_break {b b' : Buffer} (hb : b.IsClean) {p : Point} {e : Edit}
    (h : b.edit (.insert p ['\n']) = (.ok e, b')) : ∃ l, b'.line? (p.line + 1) = some l := by
  obtain ⟨x, y, z, _, hrange, _, htext, hb'⟩ := Buffer.exists_splice_of_edit hb h
  obtain rfl : p = .behind x := congrArg Range.start hrange
  have hbehind : Point.behind (x ++ ['\n']) = ⟨(Point.behind x).line + 1, 0⟩ :=
    Point.behind_append x ['\n']
  have hpoint : b'.HasPoint ⟨(Point.behind x).line + 1, 0⟩ :=
    hbehind ▸ (Buffer.hasPoint_behind hb' htext).1
  obtain ⟨l, hl, _⟩ := Buffer.hasPoint_iff.mp hpoint
  exact ⟨l, hl⟩

/-- Once the line is broken, the new line exists and can be indented. -/
theorem spares_newline {d : Document} (reached : d.buffer.Reachable) (p : Point) :
    d.closed.Spares (d.newline p) := by
  obtain ⟨b, h, o, m⟩ := d
  refine .grouped ?_
  rcases hedit : b.edit (.insert p ['\n']) with ⟨error | e, b₁⟩
  · have hrefused := applied_of_edit_error (d := ⟨b, h.begin p, o, m⟩) hedit
    rw [Buffer.edit] at hrefused
    simp only [hrefused]
    exact spares_refused _ error
  · obtain ⟨l, hl⟩ := exists_line?_of_break reached.isClean hedit
    obtain ⟨e', b', _, hindent⟩ :=
      exists_applyIndent (o := o) hl
    have hindented := hindent (historyRecorded (h.begin p) e) (m || e.changed)
    change (recorded ⟨b₁, h.begin p, o, m⟩ e).applyIndent (p.line + 1) = _ at hindented
    rw [Buffer.edit] at hedit
    simp only [applied, hedit, hindented]
    exact spares_of_ok _ rfl

theorem spares_replaceAll {d : Document} (hd : d.buffer.IsClean) (pattern replacement : Text)
    (r : Range) (o : FindOptions) : d.closed.Spares (d.replaceAll pattern replacement r o) := by
  refine .grouped ?_
  rcases Buffer.replaceAll_cases hd pattern replacement r o .standard with
    ⟨error, _, h⟩ | ⟨m, es, b', _, _, h, _⟩
  · simp only [h]
    exact spares_refused _ error
  · simp only [h]
    exact spares_of_ok _ rfl

theorem spares_replaceNext {d : Document} (hd : d.buffer.IsClean) (pattern replacement : Text)
    (selection : Range) (o : FindOptions) (wrap : Bool) :
    d.closed.Spares (d.replaceNext pattern replacement selection o wrap) := by
  refine .grouped ?_
  rcases Buffer.replaceNext_cases hd pattern replacement selection o wrap .standard with
    ⟨result, h, _⟩ | ⟨e, next, b', t, h, _⟩
  · rcases result with error | step
    · simp only [h]
      exact spares_refused _ error
    · simp only [h]
      cases step <;> exact spares_of_ok _ rfl
  · simp only [h]
    exact spares_of_ok _ rfl

/-! ### Rows of lines -/

theorem spares_indentLines_of_none {d : Document} {n : Nat} (hnone : d.buffer.line? n = none)
    (count : Nat) : d.Spares (d.indentLines n count) := by
  cases count with
  | zero => exact d.spares_of_ok rfl
  | succ count =>
    rw [indentLines, hnone]
    exact d.spares_refused _

/-- A row of lines that is refused in its second part is refused as a whole, with what has been done
to the first. -/
theorem indentLines_add_of_error {d d₁ d' : Document} {n count more k : Nat} {error : BufferError}
    (first : d.indentLines n count = (.ok k, d₁))
    (rest : d₁.indentLines (n + count) more = (.error error, d')) :
    d.indentLines n (count + more) = (.error error, d') := by
  induction count generalizing d n k with
  | zero =>
    obtain ⟨_, rfl⟩ := Prod.mk.inj first
    rwa [Nat.zero_add]
  | succ count ih =>
    rw [Nat.succ_add]
    rw [show n + (count + 1) = n + 1 + count by omega] at rest
    rw [indentLines] at first ⊢
    rcases hl : d.buffer.line? n with _ | l
    · simp only [hl] at first
      cases first
    · simp only [hl] at first ⊢
      by_cases hblank : l.isBlank = true
      · rw [if_pos hblank] at first ⊢
        exact ih first rest
      · rw [if_neg hblank] at first ⊢
        rcases happly : d.applyIndent n with ⟨refused | e, d₂⟩
        · rw [happly] at first
          cases first
        · rw [happly] at first
          dsimp only at first ⊢
          rcases hbelow : d₂.indentLines (n + 1) count with ⟨refused | k', d₃⟩
          · rw [hbelow] at first
            cases first
          · rw [hbelow] at first
            obtain ⟨_, rfl⟩ := Prod.mk.inj first
            rw [ih hbelow rest]

/-- **Indenting lines beyond the last one** indents those that exist, and is refused for the first
that does not. -/
theorem reindentLines_of_lineCount_lt {d : Document} (reached : d.buffer.Reachable)
    {first last : Nat} (hfirst : 1 ≤ first) (hle : first ≤ d.buffer.lineCount)
    (hlast : d.buffer.lineCount < last) :
    ∃ k d', d.reindentLines first d.buffer.lineCount = (.ok k, d') ∧
      d.reindentLines first last =
        (.error (.invalidLine (d.buffer.lineCount + 1) d.buffer.lineCount), d') := by
  obtain ⟨b, h, o, m⟩ := d
  change first ≤ b.lineCount at hle
  change b.lineCount < last at hlast
  have hthere : first + (b.lineCount + 1 - first) ≤ b.lineCount + 1 := by omega
  obtain ⟨k, b', h', m', hrun, hrealigns, _⟩ := exists_indentLines b o
    (Nat.one_le_iff_ne_zero.mp hfirst) hthere (h.begin ⟨first, 0⟩) m
  have hcount : b'.lineCount = b.lineCount := Buffer.lineCount_eq_of_bodies hrealigns.bodies
  have hnone : b'.line? (b.lineCount + 1) = none :=
    Buffer.line?_eq_none_iff.mpr (.inr (by omega))
  obtain ⟨more, hmore⟩ : ∃ more, last + 1 - first = b.lineCount + 1 - first + (more + 1) :=
    ⟨last - b.lineCount - 1, by omega⟩
  have hrest : (⟨b', h', o, m'⟩ : Document).indentLines (first + (b.lineCount + 1 - first))
      (more + 1) = (.error (.invalidLine (b.lineCount + 1) b.lineCount), ⟨b', h', o, m'⟩) := by
    rw [show first + (b.lineCount + 1 - first) = b.lineCount + 1 by omega, indentLines, hnone,
      hcount]
  refine ⟨k, ⟨b', h'.commit, o, m'⟩, ?_, ?_⟩
  · simp only [reindentLines, grouped, hrun]
  · simp only [reindentLines, grouped, hmore, indentLines_add_of_error hrun hrest]

/-- A row of lines that is refused begins where there is no line, or goes on beyond the last. -/
theorem reindentLines_refused {d : Document} (reached : d.buffer.Reachable) {first last : Nat}
    {error : BufferError} (hrefused : (d.reindentLines first last).1 = .error error) :
    (d.reindentLines first last).2 = d.closed ∨
      1 ≤ first ∧ first ≤ d.buffer.lineCount ∧ d.buffer.lineCount < last := by
  by_cases hexists : 1 ≤ first ∧ first ≤ d.buffer.lineCount
  · obtain ⟨hfirst, hle⟩ := hexists
    by_cases hlast : d.buffer.lineCount < last
    · exact .inr ⟨hfirst, hle, hlast⟩
    · -- all lines of the row exist, so that none is refused
      obtain ⟨b, history, o, m⟩ := d
      change first ≤ b.lineCount at hle
      change ¬b.lineCount < last at hlast
      have hthere : first + (last + 1 - first) ≤ b.lineCount + 1 := by omega
      obtain ⟨k, b', h', m', hrun, _⟩ := exists_indentLines b o
        (Nat.one_le_iff_ne_zero.mp hfirst) hthere (history.begin ⟨first, 0⟩) m
      simp only [reindentLines, grouped, hrun] at hrefused
      cases hrefused
  · have hnone : d.buffer.line? first = none := Buffer.line?_eq_none_iff.mpr (by omega)
    have hspares : d.closed.Spares (d.reindentLines first last) := by
      refine .grouped ?_
      exact spares_indentLines_of_none (d := { d with history := d.history.begin ⟨first, 0⟩ })
        hnone _
    exact .inl (hspares error hrefused)

/-! ### All calls -/

/-- A call that is refused closes a group that is open, and leaves the document alone otherwise,
unless a row of lines goes on beyond the last one. -/
theorem edited_of_refusal {d : Document} (reached : d.buffer.Reachable) {a : DocumentEdit}
    {error : FindError} (refused : d.refusal a = some error) :
    d.edited a = d.closed ∨
      ∃ first last k, a = .reindentLines first last ∧ 1 ≤ first ∧ first ≤ d.buffer.lineCount ∧
        d.buffer.lineCount < last ∧
        error = .buffer (.invalidLine (d.buffer.lineCount + 1) d.buffer.lineCount) ∧
        d.reindentLines first d.buffer.lineCount = (.ok k, d.edited a) := by
  cases a with
  | insert p t =>
    obtain ⟨e, he, _⟩ := failure_eq_some_iff.mp refused
    exact .inl (Spares.grouped (spares_applied _ (.insert p t)) e he)
  | delete r =>
    obtain ⟨e, he, _⟩ := failure_eq_some_iff.mp refused
    exact .inl (Spares.grouped (spares_applied _ (.delete r)) e he)
  | replace r t =>
    obtain ⟨e, he, _⟩ := failure_eq_some_iff.mp refused
    exact .inl (Spares.grouped (spares_applied _ (.replace r t)) e he)
  | newline p =>
    obtain ⟨e, he, _⟩ := failure_eq_some_iff.mp refused
    exact .inl (spares_newline reached p e he)
  | reindentLine n =>
    obtain ⟨e, he, _⟩ := failure_eq_some_iff.mp refused
    exact .inl (Spares.grouped (spares_applyIndent _ n) e he)
  | reindentLines first last =>
    obtain ⟨e, he, rfl⟩ := failure_eq_some_iff.mp refused
    rcases reindentLines_refused reached he with hsame | ⟨hfirst, hle, hlast⟩
    · exact .inl hsame
    · obtain ⟨k, d', hdone, hbeyond⟩ := reindentLines_of_lineCount_lt reached hfirst hle hlast
      rw [hbeyond] at he
      obtain rfl := Except.error.inj he
      refine .inr ⟨first, last, k, rfl, hfirst, hle, hlast, rfl, ?_⟩
      rw [hdone, edited, hbeyond]
  | replaceAll pattern replacement r o =>
    obtain ⟨e, he, _⟩ := failure_eq_some_iff.mp refused
    exact .inl (spares_replaceAll reached.isClean pattern replacement r o e he)
  | replaceNext pattern replacement selection o wrap =>
    obtain ⟨e, he, _⟩ := failure_eq_some_iff.mp refused
    exact .inl (spares_replaceNext reached.isClean pattern replacement selection o wrap e he)

/-- **A refused call leaves no trace, with one exception.**  Whatever calls have been made, a call
that edits and is refused leaves the document as it was, with its text, its lines and their
identities, its history and all else; except that indenting lines from one that exists to one beyond
the last is refused after it has indented those that exist, and leaves what indenting these alone
leaves. -/
theorem edited_eq_self_of_refusal {b : Buffer} (reached : b.Reachable) (calls : List DocumentCall)
    {a : DocumentEdit} {error : FindError}
    (refused : ((ofBuffer b).run calls).refusal a = some error) :
    let d := (ofBuffer b).run calls
    d.edited a = d ∨
      ∃ first last k, a = .reindentLines first last ∧ 1 ≤ first ∧ first ≤ d.buffer.lineCount ∧
        d.buffer.lineCount < last ∧
        error = .buffer (.invalidLine (d.buffer.lineCount + 1) d.buffer.lineCount) ∧
        d.reindentLines first d.buffer.lineCount = (.ok k, d.edited a) := by
  intro d
  have h : d.Rests := Rests.run ⟨reached, rfl⟩ calls
  have hcases := edited_of_refusal h.reached refused
  rwa [h.closed_eq] at hcases

/-- With a group to redo, a line below the last one cannot be broken; the group can still be
redone. -/
theorem edited_eq_self_of_refusal_of_missing_line :
    let b := Buffer.ofText [] .plainText
    let d := (ofBuffer b).run [.edit (.insert ⟨1, 0⟩ ['a']), .undo]
    b.Reachable ∧ d.canRedo = true ∧
      d.refusal (.newline ⟨2, 0⟩) = some (.buffer (.invalidLine 2 1)) ∧
      d.edited (.newline ⟨2, 0⟩) = d := by
  intro b d
  have reached : b.Reachable := .ofText _ _
  have hredo : d.canRedo = true := by decide +kernel
  have hrefused : d.refusal (.newline ⟨2, 0⟩) = some (.buffer (.invalidLine 2 1)) := by
    decide +kernel
  refine ⟨reached, hredo, hrefused, ?_⟩
  rcases edited_eq_self_of_refusal reached _ hrefused with hsame | ⟨first, last, k, hcall, _⟩
  · exact hsame
  · cases hcall

/-- Two lines are to be indented from the first to the third, which does not exist: that is refused,
but the second line has been indented. -/
theorem exists_trace_of_refusal :
    let b := Buffer.ofText ['a', '\n', ' ', ' ', 'b'] .plainText
    let d := (ofBuffer b).run []
    let d' := d.edited (.reindentLines 1 3)
    b.Reachable ∧ d.refusal (.reindentLines 1 3) = some (.buffer (.invalidLine 3 2)) ∧
      d.text = ['a', '\n', ' ', ' ', 'b'] ∧ d'.text = ['a', '\n', 'b'] ∧
      (d.modified, d.canUndo) = (false, false) ∧ (d'.modified, d'.canUndo) = (true, true) := by
  intro b d d'
  refine ⟨.ofText _ _, ?_, ?_, ?_, ?_, ?_⟩
  · decide +kernel
  · decide +kernel
  · decide +kernel
  · decide +kernel
  · decide +kernel

end Document

end SourceEditor
