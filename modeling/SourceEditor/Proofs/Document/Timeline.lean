/-
  SourceEditor/Proofs/Document/Timeline.lean
  ==========================================
  **Undoing and redoing are exact.**  Beside a document runs a log that the document knows nothing
  of: for each group on its two stacks, the text from before the first call that went into the
  group and the text from after the last one.  Every group leads from the one text to the other,
  and the texts of neighbouring groups fit together, whatever calls are made.
-/
import SourceEditor.Proofs.Document.Groups
import SourceEditor.Proofs.Listing.Buffers

namespace SourceEditor

open EditOperation (LeadsAll)

/-! ### Passages -/

/-- The texts between which a group has taken a document. -/
structure Passage where
  before : Text
  after : Text
  deriving DecidableEq, Repr

/-- Whether a point is one of a text. -/
def Point.IsIn (p : Point) (t : Text) : Prop := ∃ front rest, t = front ++ rest ∧ p = .behind front

theorem Buffer.isIn_of_hasPoint {b : Buffer} (hb : b.IsClean) {p : Point} (h : b.HasPoint p) :
    p.IsIn b.text :=
  ⟨b.textBefore p, b.textFrom p, text_eq_append h, (behind_textBefore hb h).symm⟩

theorem Buffer.hasPoint_of_isIn {b : Buffer} (hb : b.IsClean) {p : Point} (h : p.IsIn b.text) :
    b.HasPoint p := by
  obtain ⟨front, rest, htext, rfl⟩ := h
  exact (hasPoint_behind hb htext).1

/-- Whether a group makes a passage: its operations lead from the text before to the text after,
and its places of the caret are points of these texts. -/
structure EditGroup.Makes (g : EditGroup) (p : Passage) : Prop where
  leads : LeadsAll g.operations p.before p.after
  ne_nil : g.operations ≠ []
  caretBefore : g.caretBefore.IsIn p.before
  caretAfter : g.caretAfter.IsIn p.after

theorem EditGroup.Makes.merge {last g : EditGroup} {p : Passage} {t : Text} (hlast : last.Makes p)
    (hg : g.Makes ⟨p.after, t⟩) : (last.merge g).Makes ⟨p.before, t⟩ where
  leads := hlast.leads.append hg.leads
  ne_nil := List.append_ne_nil_of_left_ne_nil hlast.ne_nil _
  caretBefore := hlast.caretBefore
  caretAfter := hg.caretAfter

/-- Groups to undo, the last one first, and their passages, of which each ends where the one after
it starts; the last one ends at the given text. -/
inductive Past : Text → List EditGroup → List Passage → Prop where
  | nil (t : Text) : Past t [] []
  | cons {t : Text} {g : EditGroup} {p : Passage} {gs : List EditGroup} {ps : List Passage}
      (makes : g.Makes p) (here : p.after = t) (earlier : Past p.before gs ps) :
      Past t (g :: gs) (p :: ps)

/-- Groups to redo, the next one first, and their passages, of which each starts where the one
before it ends; the next one starts at the given text. -/
inductive Future : Text → List EditGroup → List Passage → Prop where
  | nil (t : Text) : Future t [] []
  | cons {t : Text} {g : EditGroup} {p : Passage} {gs : List EditGroup} {ps : List Passage}
      (makes : g.Makes p) (here : p.before = t) (later : Future p.after gs ps) :
      Future t (g :: gs) (p :: ps)

theorem Past.length_eq {t : Text} {gs : List EditGroup} {ps : List Passage} (h : Past t gs ps) :
    ps.length = gs.length := by
  induction h with
  | nil t => rfl
  | cons _ _ _ ih => rw [List.length_cons, List.length_cons, ih]

theorem Future.length_eq {t : Text} {gs : List EditGroup} {ps : List Passage} (h : Future t gs ps) :
    ps.length = gs.length := by
  induction h with
  | nil t => rfl
  | cons _ _ _ ih => rw [List.length_cons, List.length_cons, ih]

/-- Forgetting the oldest groups forgets the oldest passages. -/
theorem Past.take {t : Text} {gs : List EditGroup} {ps : List Passage} (h : Past t gs ps) (n : Nat) :
    Past t (gs.take n) (ps.take (gs.take n).length) := by
  induction h generalizing n with
  | nil t => simpa using .nil t
  | cons makes here _ ih =>
    cases n with
    | zero => exact .nil _
    | succ n => exact .cons makes here (ih n)

/-! ### Sessions -/

/-- A document and the log beside it: the passages of the groups to undo, the last one first, and
of those to redo, the next one first. -/
structure Session where
  document : Document
  past : List Passage
  future : List Passage

namespace Session

/-- The session of a buffer just opened. -/
def start (b : Buffer) : Session := ⟨.ofBuffer b, [], []⟩

/-- The passages to undo after a call that edits.  If the call has put its own group on the undo
stack, its texts make a new passage; if the group has joined the one on top, the last passage
goes on to the text after the call. -/
def pastEdited (s : Session) (a : DocumentEdit) : List Passage :=
  let d := s.document.edited a
  match s.document.ownGroup a with
  | none => s.past
  | some g =>
    if d.history.undoStack.head? = some g then ⟨s.document.text, d.text⟩ :: s.past
    else s.past.modifyHead fun p => { p with after := d.text }

/-- Makes a call and keeps the log.  Groups that the document has forgotten leave the log as
well. -/
def step (s : Session) (c : DocumentCall) : Session :=
  let d := s.document.after c
  match c with
  | .edit a =>
    ⟨d, (s.pastEdited a).take d.history.undoStack.length,
      s.future.take d.history.redoStack.length⟩
  | .undo =>
    match s.document.undo.1, s.past with
    | .ok (some _), p :: past => ⟨d, past, p :: s.future⟩
    | _, _ => { s with document := d }
  | .redo =>
    match s.document.redo.1, s.future with
    | .ok (some _), p :: future => ⟨d, p :: s.past, future⟩
    | _, _ => { s with document := d }
  | .clearHistory => ⟨d, [], []⟩
  | _ => { s with document := d }

/-- Makes calls one after the other. -/
def run (s : Session) (calls : List DocumentCall) : Session := calls.foldl step s

end Session

/-- Whether a log is true of a buffer and its history. -/
structure Logged (b : Buffer) (h : History) (past future : List Passage) : Prop where
  clean : b.IsClean
  idle : h.current = none
  roomy : h.maxSize ≠ 0
  past : Past b.text h.undoStack past
  future : Future b.text h.redoStack future

section Logged

variable {b b' : Buffer} {h : History} {past future : List Passage}

theorem Logged.take (hlog : Logged b h past future) :
    Logged b h (past.take h.undoStack.length) (future.take h.redoStack.length) := by
  rw [List.take_of_length_le (Nat.le_of_eq hlog.past.length_eq),
    List.take_of_length_le (Nat.le_of_eq hlog.future.length_eq)]
  exact hlog

/-- A new group on the undo stack makes a new passage. -/
theorem Logged.push (hlog : Logged b h past future) (hb' : b'.IsClean) {g : EditGroup}
    (hg : g.Makes ⟨b.text, b'.text⟩) :
    Logged b' { h with
        current := none, undoStack := (g :: h.undoStack).take h.maxSize, redoStack := [] }
      ((⟨b.text, b'.text⟩ :: past).take ((g :: h.undoStack).take h.maxSize).length) [] where
  clean := hb'
  idle := rfl
  roomy := hlog.roomy
  past := (Past.cons hg rfl hlog.past).take h.maxSize
  future := .nil _

/-- A group that joins the one on top makes the last passage longer. -/
theorem Logged.join (hlog : Logged b h past future) (hb' : b'.IsClean) {g last : EditGroup}
    {rest : List EditGroup} (hstack : h.undoStack = last :: rest)
    (hg : g.Makes ⟨b.text, b'.text⟩) :
    Logged b' { h with current := none, undoStack := last.merge g :: rest, redoStack := [] }
      (past.modifyHead fun p => { p with after := b'.text }) [] := by
  have hpast := hlog.past
  rw [hstack] at hpast
  cases hpast with
  | @cons _ _ p _ ps makes here earlier =>
    rw [← here] at hg
    exact ⟨hb', rfl, hlog.roomy, .cons (makes.merge hg) rfl earlier, .nil _⟩

/-- The groups on the undo stack have operations, so a group that joins one of them is told from
the group that comes of it. -/
theorem Logged.merge_ne (hlog : Logged b h past future) {g last : EditGroup}
    {rest : List EditGroup} (hstack : h.undoStack = last :: rest) : last.merge g ≠ g := by
  have hpast := hlog.past
  rw [hstack] at hpast
  cases hpast with
  | cons makes _ _ => exact EditGroup.merge_ne makes.ne_nil

end Logged

namespace Session

/-- Whether the log of a session is true. -/
def Sound (s : Session) : Prop := Logged s.document.buffer s.document.history s.past s.future

theorem sound_of_isClean {b : Buffer} (hb : b.IsClean) : (start b).Sound where
  clean := hb
  idle := rfl
  roomy := Nat.succ_ne_zero 999
  past := .nil _
  future := .nil _

/-- A call that edits leaves text and history as they are, puts a group of its own on the undo
stack, or has its group join the one on top; the log follows. -/
theorem Sound.edit_cases {s : Session} (h : s.Sound) (a : DocumentEdit) :
    let b := s.document.buffer
    let b' := (s.document.edited a).buffer
    let history := s.document.history
    let history' := (s.document.edited a).history
    b'.IsClean ∧
      ((b'.text = b.text ∧ history' = { history with current := none } ∧ s.pastEdited a = s.past) ∨
        ∃ g : EditGroup, g.Makes ⟨b.text, b'.text⟩ ∧
          ((history' = { history with
                current := none, undoStack := (g :: history.undoStack).take history.maxSize,
                redoStack := [] } ∧
              s.pastEdited a = ⟨b.text, b'.text⟩ :: s.past) ∨
            ∃ last rest, history.undoStack = last :: rest ∧ history.coalesce = true ∧
              history' = { history with
                current := none, undoStack := last.merge g :: rest, redoStack := [] } ∧
              s.pastEdited a = s.past.modifyHead fun p => { p with after := b'.text })) := by
  obtain ⟨g, hclean, hleads, hcarets, hhistory, hown⟩ :=
    Document.exists_group_of_edited h.clean h.idle a
  refine ⟨hclean, ?_⟩
  rw [pastEdited, hown, hhistory]
  by_cases hnil : g.operations = []
  · rw [hnil] at hleads
    rw [if_pos hnil, History.commit_of_nil _ hnil]
    exact .inl ⟨hleads.eq_of_nil, rfl, rfl⟩
  · obtain ⟨hbefore, hafter⟩ := hcarets hnil
    refine .inr ⟨g, ⟨hleads, hnil, Buffer.isIn_of_hasPoint h.clean hbefore,
      Buffer.isIn_of_hasPoint hclean hafter⟩, ?_⟩
    rw [if_neg hnil]
    dsimp only
    rcases History.commit_of_ne_nil s.document.history hnil with
      hpush | ⟨last, rest, hstack, hcoalesce, _, hjoin⟩
    · -- the stack holds one group at least, so the new one is not forgotten at once
      have hhead : ((g :: s.document.history.undoStack).take s.document.history.maxSize).head? =
          some g := by
        rw [List.head?_take, if_neg h.roomy]
        rfl
      rw [hpush, if_pos hhead]
      exact .inl ⟨rfl, rfl⟩
    · have hhead : ¬(last.merge g :: rest).head? = some g := by
        rw [List.head?_cons, Option.some.injEq]
        exact h.merge_ne hstack
      rw [hjoin, if_neg hhead]
      exact .inr ⟨last, rest, hstack, hcoalesce, rfl, rfl⟩

theorem Sound.edit {s : Session} (h : s.Sound) (a : DocumentEdit) : (s.step (.edit a)).Sound := by
  obtain ⟨hclean, hcases⟩ := h.edit_cases a
  change Logged (s.document.edited a).buffer (s.document.edited a).history
    ((s.pastEdited a).take (s.document.edited a).history.undoStack.length)
    (s.future.take (s.document.edited a).history.redoStack.length)
  rcases hcases with ⟨htext, hhistory, hpast⟩ | ⟨g, hg, ⟨hhistory, hpast⟩ | hjoin⟩
  · rw [hhistory, hpast]
    exact Logged.take ⟨hclean, rfl, h.roomy, htext.symm ▸ h.past, htext.symm ▸ h.future⟩
  · rw [hhistory, hpast]
    exact h.push hclean hg
  · obtain ⟨last, rest, hstack, _, hhistory, hpast⟩ := hjoin
    rw [hhistory, hpast]
    exact (h.join hclean hstack hg).take

/-- Where groups are kept apart, a call that changes the text makes a passage of its own. -/
theorem Sound.edit_apart {s : Session} (h : s.Sound) (apart : s.document.history.coalesce = false)
    {a : DocumentEdit} (changed : (s.document.edited a).text ≠ s.document.text) :
    (∃ past, (s.step (.edit a)).past =
        ⟨s.document.text, (s.document.edited a).text⟩ :: past) ∧
      (s.document.edited a).history.undoStack.tail =
        s.document.history.undoStack.take (s.document.history.maxSize - 1) := by
  obtain ⟨n, hroom⟩ := Nat.exists_eq_succ_of_ne_zero h.roomy
  obtain ⟨_, hcases⟩ := h.edit_cases a
  rcases hcases with ⟨htext, _, _⟩ | ⟨g, _, ⟨hhistory, hpast⟩ | ⟨_, _, _, joined, _⟩⟩
  · exact absurd htext changed
  · have hstep : (s.step (.edit a)).past =
        (s.pastEdited a).take (s.document.edited a).history.undoStack.length := rfl
    rw [hstep, hpast, hhistory, hroom]
    exact ⟨⟨_, rfl⟩, rfl⟩
  · rw [apart] at joined
    cases joined

/-- Operations that lead from the text to another one are done in full, and give that text. -/
theorem exists_revisit {d : Document} (hd : d.buffer.IsClean) {ops : List EditOperation} {t : Text}
    (hops : LeadsAll ops d.buffer.text t) {caret : Point} (hcaret : caret.IsIn t) (h : History) :
    ∃ b, d.revisit (some (ops, caret), h) =
        (.ok (some caret), { d with buffer := b, history := h, modified := true }) ∧
      b.text = t ∧ b.IsClean ∧ b.HasPoint caret := by
  obtain ⟨b, hall, rfl, hb⟩ :=
    Document.performAll_of_leadsAll (d := { d with history := h }) hd hops
  refine ⟨b, ?_, rfl, hb, Buffer.hasPoint_of_isIn hb hcaret⟩
  simp only [Document.revisit, hall]

/-- With nothing to undo, undoing does nothing. -/
theorem Sound.undo_nil {s : Session} (h : s.Sound) (hpast : s.past = []) :
    s.document.undo = (.ok none, s.document) := by
  have hstack := h.past
  rw [hpast] at hstack
  generalize hgs : s.document.history.undoStack = gs at hstack
  cases hstack with
  | nil =>
    rw [Document.undo, History.undo_nil h.idle hgs]
    rfl

/-- Undoing takes the last passage back. -/
theorem Sound.undo_cons {s : Session} (h : s.Sound) {p : Passage} {past : List Passage}
    (hpast : s.past = p :: past) :
    ∃ caret d, s.document.undo = (.ok (some caret), d) ∧ d.text = p.before ∧
      d.buffer.HasPoint caret ∧ Logged d.buffer d.history past (p :: s.future) ∧
      d.history.undoStack = s.document.history.undoStack.tail := by
  have hstack := h.past
  rw [hpast] at hstack
  generalize hgs : s.document.history.undoStack = gs at hstack
  cases hstack with
  | @cons _ g _ rest _ makes here earlier =>
    -- the text is the one that the last passage ends in, so its operations can be taken back
    have hback := makes.leads.inverse
    rw [here] at hback
    obtain ⟨b, hrevisit, htext, hb, hpoint⟩ := exists_revisit h.clean hback makes.caretBefore
      { s.document.history with
        undoStack := rest, redoStack := g :: s.document.history.redoStack }
    rw [← History.undo_cons h.idle hgs] at hrevisit
    have hfuture : Future p.after s.document.history.redoStack s.future := here ▸ h.future
    exact ⟨g.caretBefore, _, hrevisit, htext, hpoint,
      ⟨hb, h.idle, h.roomy, htext ▸ earlier, .cons makes htext.symm hfuture⟩, rfl⟩

/-- With nothing to redo, redoing does nothing. -/
theorem Sound.redo_nil {s : Session} (h : s.Sound) (hfuture : s.future = []) :
    s.document.redo = (.ok none, s.document) := by
  have hstack := h.future
  rw [hfuture] at hstack
  generalize hgs : s.document.history.redoStack = gs at hstack
  cases hstack with
  | nil =>
    rw [Document.redo, History.redo_nil hgs]
    rfl

/-- Redoing makes the next passage again. -/
theorem Sound.redo_cons {s : Session} (h : s.Sound) {p : Passage} {future : List Passage}
    (hfuture : s.future = p :: future) :
    ∃ caret d, s.document.redo = (.ok (some caret), d) ∧ d.text = p.after ∧
      d.buffer.HasPoint caret ∧ Logged d.buffer d.history (p :: s.past) future := by
  have hstack := h.future
  rw [hfuture] at hstack
  generalize hgs : s.document.history.redoStack = gs at hstack
  cases hstack with
  | @cons _ g _ rest _ makes here later =>
    have hforth := makes.leads
    rw [here] at hforth
    obtain ⟨b, hrevisit, htext, hb, hpoint⟩ := exists_revisit h.clean hforth makes.caretAfter
      { s.document.history with
        undoStack := g :: s.document.history.undoStack, redoStack := rest }
    rw [← History.redo_cons hgs] at hrevisit
    have hpast : Past p.before s.document.history.undoStack s.past := here ▸ h.past
    exact ⟨g.caretAfter, _, hrevisit, htext, hpoint,
      ⟨hb, h.idle, h.roomy, .cons makes htext.symm hpast, htext ▸ later⟩⟩

/-- Every call keeps the log true. -/
theorem Sound.step {s : Session} (h : s.Sound) (c : DocumentCall) : (s.step c).Sound := by
  cases c with
  | edit a => exact h.edit a
  | undo =>
    rcases hpast : s.past with _ | ⟨p, past⟩
    · have hundo := h.undo_nil hpast
      simp only [Session.step, Document.after, hundo, hpast]
      exact hpast ▸ h
    · obtain ⟨caret, d, hundo, _, _, hlog, _⟩ := h.undo_cons hpast
      simp only [Session.step, Document.after, hundo, hpast]
      exact hlog
  | redo =>
    rcases hfuture : s.future with _ | ⟨p, future⟩
    · have hredo := h.redo_nil hfuture
      simp only [Session.step, Document.after, hredo, hfuture]
      exact hfuture ▸ h
    · obtain ⟨caret, d, hredo, _, _, hlog⟩ := h.redo_cons hfuture
      simp only [Session.step, Document.after, hredo, hfuture]
      exact hlog
  | setProfile profile =>
    have htext := Buffer.text_setProfile s.document.buffer profile
    exact ⟨h.clean.setProfile profile, h.idle, h.roomy, htext.symm ▸ h.past,
      htext.symm ▸ h.future⟩
  | subscribe | unsubscribe k => exact ⟨h.clean, h.idle, h.roomy, h.past, h.future⟩
  | setOptions o =>
    change Logged (s.document.after (.setOptions o)).buffer
      (s.document.after (.setOptions o)).history s.past s.future
    simp only [Document.after, Document.setOptions]
    cases o.validate <;> exact h
  | markSaved => exact h
  | clearHistory => exact ⟨h.clean, rfl, h.roomy, .nil _, .nil _⟩
  | setCoalesce on => exact ⟨h.clean, h.idle, h.roomy, h.past, h.future⟩

theorem Sound.run {s : Session} (h : s.Sound) (calls : List DocumentCall) :
    (s.run calls).Sound := by
  induction calls generalizing s with
  | nil => exact h
  | cons c calls ih => exact ih (h.step c)

/-- **Undo and redo are exact.**  Whatever calls have been made, undoing and redoing never fail.
Where there is a group to undo, undoing it leaves the text from before the first call that went
into the group; where there is one to redo, redoing it leaves the text from after the last one;
the caret given is a point of that text.  Where groups are kept apart, one undo takes back what one
call has done to the text, and no more. -/
theorem undo_redo_exact {b : Buffer} (obtained : b.Obtained) (calls : List DocumentCall) :
    let s := (start b).run calls
    (∃ caret? d, s.document.undo = (.ok caret?, d) ∧
      match caret?, s.past with
      | some caret, p :: _ => d.text = p.before ∧ d.buffer.checkPoint caret = .ok ()
      | none, [] => d.text = s.document.text
      | _, _ => False) ∧
    (∃ caret? d, s.document.redo = (.ok caret?, d) ∧
      match caret?, s.future with
      | some caret, p :: _ => d.text = p.after ∧ d.buffer.checkPoint caret = .ok ()
      | none, [] => d.text = s.document.text
      | _, _ => False) ∧
    s.past.length = s.document.history.undoStack.length ∧
    s.future.length = s.document.history.redoStack.length ∧
    ∀ a, s.document.history.coalesce = false → (s.document.edited a).text ≠ s.document.text →
      ∃ caret d, (s.document.edited a).undo = (.ok (some caret), d) ∧
        d.text = s.document.text ∧
        d.history.undoStack =
          s.document.history.undoStack.take (s.document.history.maxSize - 1) := by
  intro s
  have h : s.Sound := (sound_of_isClean obtained.isClean).run calls
  refine ⟨?_, ?_, h.past.length_eq, h.future.length_eq, ?_⟩
  · rcases hpast : s.past with _ | ⟨p, past⟩
    · exact ⟨none, _, h.undo_nil hpast, rfl⟩
    · obtain ⟨caret, d, hundo, htext, hpoint, _, _⟩ := h.undo_cons hpast
      exact ⟨some caret, d, hundo, htext, Buffer.checkPoint_eq_ok_iff.mpr hpoint⟩
  · rcases hfuture : s.future with _ | ⟨p, future⟩
    · exact ⟨none, _, h.redo_nil hfuture, rfl⟩
    · obtain ⟨caret, d, hredo, htext, hpoint, _⟩ := h.redo_cons hfuture
      exact ⟨some caret, d, hredo, htext, Buffer.checkPoint_eq_ok_iff.mpr hpoint⟩
  · intro a apart changed
    obtain ⟨⟨past, hpast⟩, hstack⟩ := h.edit_apart apart changed
    obtain ⟨caret, d, hundo, htext, _, _, hrest⟩ := (h.edit a).undo_cons hpast
    exact ⟨caret, d, hundo, htext, hrest.trans hstack⟩

/-- Two characters typed make one group, which one undo takes back. -/
theorem undo_redo_exact_of_typing :
    let b := Buffer.ofText [] .plainText
    let calls : List DocumentCall :=
      [.edit (.insert ⟨1, 0⟩ ['a']), .edit (.insert ⟨1, 1⟩ ['b'])]
    b.Obtained ∧ ((start b).run calls).past = [⟨[], ['a', 'b']⟩] ∧
      ∃ caret d, ((start b).run calls).document.undo = (.ok (some caret), d) ∧ d.text = [] := by
  have obtained : (Buffer.ofText [] .plainText).Obtained := .ofReachable (.ofText _ _)
  have hpast : ((start (Buffer.ofText [] .plainText)).run
      [.edit (.insert ⟨1, 0⟩ ['a']), .edit (.insert ⟨1, 1⟩ ['b'])]).past = [⟨[], ['a', 'b']⟩] := by
    decide
  refine ⟨obtained, hpast, ?_⟩
  obtain ⟨⟨caret?, d, hundo, hexact⟩, _⟩ := undo_redo_exact obtained
    [.edit (.insert ⟨1, 0⟩ ['a']), .edit (.insert ⟨1, 1⟩ ['b'])]
  rw [hpast] at hexact
  rcases caret? with _ | caret
  · exact hexact.elim
  · exact ⟨caret, d, hundo, hexact.1⟩

end Session

end SourceEditor
