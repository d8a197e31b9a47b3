/-
  SourceEditor/Proofs/Document/Calls.lean
  =======================================
  **What can happen to a document.**  Some calls edit the text, the others change what surrounds
  it.  Each call that edits opens a group, makes a row of edits, some of them perhaps without
  effect, and closes the group.  Which edits it makes depends on the buffer and the options alone,
  not on the history.
-/
import SourceEditor.Proofs.Document.Operations
import SourceEditor.Proofs.Search.Replacing

namespace SourceEditor

open EditOperation (LeadsAll)

/-- A call that edits a document. -/
inductive DocumentEdit where
  | insert (p : Point) (t : Text)
  | delete (r : Range)
  | replace (r : Range) (t : Text)
  | newline (p : Point)
  | reindentLine (n : Nat)
  | reindentLines (first last : Nat)
  | replaceAll (pattern replacement : Text) (r : Range) (o : FindOptions)
  | replaceNext (pattern replacement : Text) (selection : Range) (o : FindOptions) (wrap : Bool)

/-- A call that may change a document. -/
inductive DocumentCall where
  | edit (a : DocumentEdit)
  | undo
  | redo
  | setProfile (p : Profile)
  | subscribe
  | unsubscribe (k : Nat)
  | setOptions (o : Options)
  | markSaved
  | clearHistory
  | setCoalesce (on : Bool)

/-- Where the caret is taken to be before a call that edits. -/
def DocumentEdit.caret : DocumentEdit → Point
  | .insert p _ => p
  | .delete r => r.stop
  | .replace r _ => r.stop
  | .newline p => p
  | .reindentLine n => ⟨n, 0⟩
  | .reindentLines first _ => ⟨first, 0⟩
  | .replaceAll _ _ r _ => r.start
  | .replaceNext _ _ selection _ _ => selection.start

namespace Document

/-- The document that a call that edits leaves. -/
def edited (d : Document) : DocumentEdit → Document
  | .insert p t => (d.insert p t).2
  | .delete r => (d.delete r).2
  | .replace r t => (d.replace r t).2
  | .newline p => (d.newline p).2
  | .reindentLine n => (d.reindentLine n).2
  | .reindentLines first last => (d.reindentLines first last).2
  | .replaceAll pattern replacement r o => (d.replaceAll pattern replacement r o).2
  | .replaceNext pattern replacement selection o wrap =>
    (d.replaceNext pattern replacement selection o wrap).2

/-- The document that a call leaves. -/
def after (d : Document) : DocumentCall → Document
  | .edit a => d.edited a
  | .undo => d.undo.2
  | .redo => d.redo.2
  | .setProfile p => d.setProfile p
  | .subscribe => d.subscribe.2
  | .unsubscribe k => d.unsubscribe k
  | .setOptions o =>
    match d.setOptions o with
    | .error _ => d
    | .ok d' => d'
  | .markSaved => d.markSaved
  | .clearHistory => d.clearHistory
  | .setCoalesce on => d.setCoalesce on

/-! ### The edits of a call -/

/-- The history after an edit has been recorded. -/
def historyRecorded (h : History) (e : Edit) : History :=
  ((operationsRecorded e).foldl History.record h).setCaret e.caret

theorem foldl_recorded (b : Buffer) (h : History) (o : Options) (m : Bool) (es : List Edit) :
    es.foldl recorded ⟨b, h, o, m⟩ =
      ⟨b, es.foldl historyRecorded h, o, m || es.any Edit.changed⟩ := by
  induction es generalizing h m with
  | nil => simp
  | cons e es ih =>
    rw [List.foldl_cons, List.foldl_cons, List.any_cons, ← Bool.or_assoc]
    exact ih (historyRecorded h e) (m || e.changed)

/-- What is done inside a group makes a row of edits, whatever the history is, and records them. -/
structure Makes {ε α : Type} (body : Document → Except ε α × Document) (b : Buffer) (o : Options)
    (es : List Edit) (b' : Buffer) : Prop where
  edited : b.Edited es b'
  leaves : ∀ h m, (body ⟨b, h, o, m⟩).2 =
    ⟨b', es.foldl historyRecorded h, o, m || es.any Edit.changed⟩

section Makes

variable {ε α : Type} {body : Document → Except ε α × Document} {b b' : Buffer} {o : Options}
  {es : List Edit}

theorem makes_nil (h : ∀ h m, (body ⟨b, h, o, m⟩).2 = ⟨b, h, o, m⟩) : Makes body b o [] b where
  edited := .nil b
  leaves := by
    intro history m
    rw [h]
    simp

theorem Makes.grouped (h : Makes body b o es b') (caret : Point) (history : History) (m : Bool) :
    ((⟨b, history, o, m⟩ : Document).grouped caret body).2 =
      ⟨b', (es.foldl historyRecorded (history.begin caret)).commit, o,
        m || es.any Edit.changed⟩ := by
  have hleaves := h.leaves (history.begin caret) m
  change ({ (body ⟨b, history.begin caret, o, m⟩).2 with
    history := (body ⟨b, history.begin caret, o, m⟩).2.history.commit } : Document) = _
  rw [hleaves]

/-- After a row of edits the rest of the group goes on from the buffer they have left. -/
theorem Makes.after {ε' α' : Type} {b₁ : Buffer} {e : Edit} {q : EditRequest}
    (first : b.edit q = (.ok e, b₁)) {rest : Document → Except ε' α' × Document}
    (hrest : Makes rest b₁ o es b')
    (h : ∀ h m, (body ⟨b, h, o, m⟩).2 = (rest (recorded ⟨b₁, h, o, m⟩ e)).2) :
    Makes body b o (e :: es) b' where
  edited := .cons first hrest.edited
  leaves := by
    intro history m
    rw [h, List.foldl_cons, List.any_cons, ← Bool.or_assoc]
    exact hrest.leaves (historyRecorded history e) (m || e.changed)

end Makes

/-- Where the buffer refuses a request, so does the document, and stays as it is. -/
theorem applied_of_edit_error {d : Document} {q : EditRequest} {error : BufferError} {b : Buffer}
    (h : d.buffer.edit q = (.error error, b)) :
    d.applied (d.buffer.edit q) = (.error error, d) := by
  rw [h, Buffer.eq_of_edit_error h]
  rfl

/-- A request is refused, or it is one edit. -/
theorem exists_makes_applied (b : Buffer) (o : Options) (q : EditRequest) :
    ∃ es b', Makes (fun d => d.applied (d.buffer.edit q)) b o es b' ∧
      (es = [] ∨ ∃ e, es = [e] ∧ b.edit q = (.ok e, b')) := by
  rcases h : b.edit q with ⟨error | e, b₁⟩
  · refine ⟨[], b, makes_nil fun history m => ?_, .inl rfl⟩
    rw [applied_of_edit_error (d := ⟨b, history, o, m⟩) h]
  · refine ⟨[e], b₁, ?_, .inr ⟨e, rfl, rfl⟩⟩
    have hdone : Makes (fun d => ((.ok e : Except BufferError Edit), d)) b₁ o [] b₁ :=
      makes_nil fun _ _ => rfl
    refine .after h hdone fun history m => ?_
    simp only [applied, h]

theorem checkRange_of_makes_applied {b b' : Buffer} {q : EditRequest} {es : List Edit}
    (h : es = [] ∨ ∃ e, es = [e] ∧ b.edit q = (.ok e, b')) (hne : es ≠ []) :
    b.checkRange q.range = .ok () := by
  rcases h with hnil | ⟨e, _, hedit⟩
  · exact absurd hnil hne
  · exact Buffer.checkRange_of_edit hedit

/-- Giving a line its indentation is refused, or it is one edit from the start of the line on. -/
theorem applyIndent_cases (b : Buffer) (o : Options) (n : Nat) :
    (∃ error, ∀ h m, (⟨b, h, o, m⟩ : Document).applyIndent n = (.error error, ⟨b, h, o, m⟩)) ∨
      ∃ q e b₁, b.edit q = (.ok e, b₁) ∧ b.HasPoint ⟨n, 0⟩ ∧
        ∀ h m, (⟨b, h, o, m⟩ : Document).applyIndent n = (.ok e, recorded ⟨b₁, h, o, m⟩ e) := by
  rcases hindent : b.computeIndent o n with error | indent
  · refine .inl ⟨error, fun h m => ?_⟩
    simp only [applyIndent, computeIndent, hindent]
  · rcases hedit : b.edit
        (.replace ⟨⟨n, 0⟩, ⟨n, ((b.line? n).map fun l => l.indent.length).getD 0⟩⟩ indent)
      with ⟨error | e, b₁⟩
    · refine .inl ⟨error, fun h m => ?_⟩
      have hrefused := applied_of_edit_error (d := ⟨b, h, o, m⟩) hedit
      rw [Buffer.edit] at hrefused
      simp only [applyIndent, computeIndent, hindent, hrefused]
    · have hcheck := Buffer.checkRange_of_edit hedit
      refine .inr ⟨_, e, b₁, hedit, (Buffer.checkRange_eq_ok_iff.mp hcheck).1, fun h m => ?_⟩
      rw [Buffer.edit] at hedit
      simp only [applyIndent, computeIndent, hindent, applied, hedit]

theorem exists_makes_applyIndent (b : Buffer) (o : Options) (n : Nat) :
    ∃ es b', Makes (fun d => d.applyIndent n) b o es b' ∧ (es ≠ [] → b.HasPoint ⟨n, 0⟩) := by
  rcases applyIndent_cases b o n with ⟨error, h⟩ | ⟨q, e, b₁, hedit, hpoint, h⟩
  · refine ⟨[], b, makes_nil fun history m => ?_, fun hne => absurd rfl hne⟩
    rw [h]
  · refine ⟨[e], b₁, ?_, fun _ => hpoint⟩
    have hdone : Makes (fun d => ((.ok e : Except BufferError Edit), d)) b₁ o [] b₁ :=
      makes_nil fun _ _ => rfl
    refine .after hedit hdone fun history m => ?_
    rw [h]

theorem exists_makes_indentLines (b : Buffer) (o : Options) (n count : Nat) :
    ∃ es b', Makes (fun d => d.indentLines n count) b o es b' ∧ (es ≠ [] → b.HasPoint ⟨n, 0⟩) := by
  induction count generalizing b n with
  | zero => exact ⟨[], b, makes_nil fun _ _ => rfl, fun hne => absurd rfl hne⟩
  | succ count ih =>
    rcases hl : b.line? n with _ | l
    · refine ⟨[], b, makes_nil fun history m => ?_, fun hne => absurd rfl hne⟩
      simp only [indentLines, hl]
    · have hpoint : b.HasPoint ⟨n, 0⟩ := Buffer.hasPoint_iff.mpr ⟨l, hl, Nat.zero_le _⟩
      by_cases hblank : l.isBlank = true
      · obtain ⟨es, b', hmakes, _⟩ := ih b (n + 1)
        refine ⟨es, b', ⟨hmakes.edited, fun history m => ?_⟩, fun _ => hpoint⟩
        rw [← hmakes.leaves]
        simp only [indentLines, hl, if_pos hblank]
      · rcases applyIndent_cases b o n with ⟨error, h⟩ | ⟨q, e, b₁, hedit, _, h⟩
        · refine ⟨[], b, makes_nil fun history m => ?_, fun hne => absurd rfl hne⟩
          simp only [indentLines, hl, if_neg hblank, h]
        · obtain ⟨es, b', hmakes, _⟩ := ih b₁ (n + 1)
          refine ⟨e :: es, b', .after hedit hmakes fun history m => ?_, fun _ => hpoint⟩
          simp only [indentLines, hl, if_neg hblank, h]
          split <;> rename_i heq <;> simp only [heq]

/-- A call that edits makes a row of edits, whatever the history is, and records them as one
group.  If there is one, the place of the caret before is a point of the text. -/
theorem exists_edited {b : Buffer} (hb : b.IsClean) (o : Options) (a : DocumentEdit) :
    ∃ es b', b.Edited es b' ∧ (es ≠ [] → b.HasPoint a.caret) ∧
      ∀ h m, (⟨b, h, o, m⟩ : Document).edited a =
        ⟨b', (es.foldl historyRecorded (h.begin a.caret)).commit, o, m || es.any Edit.changed⟩ := by
  cases a with
  | insert p t =>
    obtain ⟨es, b', hmakes, hes⟩ := exists_makes_applied b o (.insert p t)
    refine ⟨es, b', hmakes.edited, ?_, hmakes.grouped p⟩
    intro hne
    exact (Buffer.checkRange_eq_ok_iff.mp (checkRange_of_makes_applied hes hne)).1
  | delete r =>
    obtain ⟨es, b', hmakes, hes⟩ := exists_makes_applied b o (.delete r)
    refine ⟨es, b', hmakes.edited, ?_, hmakes.grouped r.stop⟩
    intro hne
    exact (Buffer.checkRange_eq_ok_iff.mp (checkRange_of_makes_applied hes hne)).2.1
  | replace r t =>
    obtain ⟨es, b', hmakes, hes⟩ := exists_makes_applied b o (.replace r t)
    refine ⟨es, b', hmakes.edited, ?_, hmakes.grouped r.stop⟩
    intro hne
    exact (Buffer.checkRange_eq_ok_iff.mp (checkRange_of_makes_applied hes hne)).2.1
  | newline p =>
    rcases h : b.edit (.insert p ['\n']) with ⟨error | e, b₁⟩
    · refine ⟨[], b, .nil b, fun hne => absurd rfl hne, Makes.grouped (makes_nil ?_) p⟩
      intro history m
      have hrefused := applied_of_edit_error (d := ⟨b, history, o, m⟩) h
      rw [Buffer.edit] at hrefused
      simp only [hrefused]
    · have hpoint := (Buffer.checkRange_eq_ok_iff.mp (Buffer.checkRange_of_edit h)).1
      obtain ⟨es, b', hmakes, _⟩ := exists_makes_applyIndent b₁ o (p.line + 1)
      refine ⟨e :: es, b', .cons h hmakes.edited, fun _ => hpoint, Makes.grouped ?_ p⟩
      refine .after h hmakes fun history m => ?_
      rw [Buffer.edit] at h
      simp only [applied, h]
      split <;> rename_i heq <;> simp only [heq]
  | reindentLine n =>
    obtain ⟨es, b', hmakes, hpoint⟩ := exists_makes_applyIndent b o n
    exact ⟨es, b', hmakes.edited, hpoint, hmakes.grouped ⟨n, 0⟩⟩
  | reindentLines first last =>
    obtain ⟨es, b', hmakes, hpoint⟩ := exists_makes_indentLines b o first (last + 1 - first)
    exact ⟨es, b', hmakes.edited, hpoint, hmakes.grouped ⟨first, 0⟩⟩
  | replaceAll pattern replacement r options =>
    rcases Buffer.replaceAll_cases hb pattern replacement r options .standard with
      ⟨error, _, h⟩ | ⟨m, es, b', hcheck, _, h, hinter⟩
    · refine ⟨[], b, .nil b, fun hne => absurd rfl hne, Makes.grouped (makes_nil ?_) r.start⟩
      intro history m
      simp only [h]
    · have hpoint := (Buffer.checkRange_eq_ok_iff.mp hcheck).1
      have hedited := hinter.edited
      refine ⟨es, b', hedited, fun _ => hpoint, Makes.grouped ⟨hedited, ?_⟩ r.start⟩
      intro history m
      simp only [h, foldl_recorded]
  | replaceNext pattern replacement selection options wrap =>
    rcases Buffer.replaceNext_cases hb pattern replacement selection options wrap .standard with
      ⟨result, h, hresult⟩ | ⟨e, next, b', t, h, hedit⟩
    · refine ⟨[], b, .nil b, fun hne => absurd rfl hne, Makes.grouped (makes_nil ?_) selection.start⟩
      intro history m
      rcases result with error | step
      · simp only [h]
      · cases step with
        | replaced e next => exact absurd rfl (hresult e next)
        | selected r => simp only [h]
        | notFound => simp only [h]
    · have hpoint := (Buffer.checkRange_eq_ok_iff.mp (Buffer.checkRange_of_edit hedit)).1
      have hedited : b.Edited [e] b' := .cons hedit (.nil b')
      refine ⟨[e], b', hedited, fun _ => hpoint, Makes.grouped ⟨hedited, ?_⟩ selection.start⟩
      intro history m
      simp only [h]
      exact foldl_recorded b' history o m [e]

end Document

end SourceEditor
