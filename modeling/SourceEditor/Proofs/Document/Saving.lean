/-
  SourceEditor/Proofs/Document/Saving.lean
  ========================================
  **A document without changes holds the text saved last.**  An edit that changes the text marks the
  document as changed, whether it is made by an edit of the user, by a call that is refused
  half-way, or by undoing and redoing, which never fail in between.  Nothing but saving takes the
  mark away.  So a document that is not marked has not been changed since it was saved, or opened.
-/
import SourceEditor.Proofs.Document.Identities
import SourceEditor.Proofs.Listing.Buffers

namespace SourceEditor

namespace Document

theorem modified_of_revisit {d d' : Document}
    {step : Option (List EditOperation × Point) × History} {caret : Point}
    (h : d.revisit step = (.ok (some caret), d')) : d'.modified = true := by
  obtain ⟨answer, history⟩ := step
  rcases answer with _ | ⟨ops, caret'⟩
  · cases h
  · simp only [revisit] at h
    split at h
    · cases h
    · cases h
      rfl

/-- Edits of which none has changed anything leave the text as it was. -/
theorem text_eq_of_unchanged {b b' : Buffer} (hb : b.IsClean) {es : List Edit}
    (h : b.Edited es b') (unchanged : es.any Edit.changed = false) : b'.text = b.text := by
  obtain ⟨_, hleads, _⟩ := leadsAll_of_edited hb h
  have hnone : es.flatMap operationsRecorded = [] := by
    apply List.flatMap_eq_nil_iff.mpr
    intro e he
    have hchanged : e.changed = false := by
      rw [List.any_eq_false] at unchanged
      exact Bool.eq_false_iff.mpr (unchanged e he)
    rw [operationsRecorded, hchanged]
    rfl
  rw [hnone] at hleads
  exact hleads.eq_of_nil

end Document

namespace Session

/-- A call after which a document is not marked as changed, and that does not save it, has found it
without a mark, and has left its text as it was. -/
theorem Sound.unmodified {s : Session} (h : s.Sound) {c : DocumentCall} (hc : c ≠ .markSaved)
    (unmodified : (s.document.after c).modified = false) :
    s.document.modified = false ∧ (s.document.after c).text = s.document.text := by
  cases c with
  | edit a =>
    obtain ⟨⟨b, history, o, m⟩, past, future⟩ := s
    obtain ⟨es, b', hedited, _, hleaves⟩ := Document.exists_edited h.clean o a
    have hafter : (⟨b, history, o, m⟩ : Document).after (.edit a) = _ := hleaves history m
    rw [hafter] at unmodified ⊢
    obtain ⟨hm, hunchanged⟩ := Bool.or_eq_false_iff.mp unmodified
    exact ⟨hm, Document.text_eq_of_unchanged h.clean hedited hunchanged⟩
  | undo =>
    rcases hpast : s.past with _ | ⟨p, past⟩
    · have hafter : s.document.after .undo = s.document := by
        rw [Document.after, h.undo_nil hpast]
      rw [hafter] at unmodified ⊢
      exact ⟨unmodified, rfl⟩
    · obtain ⟨caret, d, hundo, _⟩ := h.undo_cons hpast
      have hmarked := Document.modified_of_revisit hundo
      simp only [Document.after, hundo, hmarked] at unmodified
      cases unmodified
  | redo =>
    rcases hfuture : s.future with _ | ⟨p, future⟩
    · have hafter : s.document.after .redo = s.document := by
        rw [Document.after, h.redo_nil hfuture]
      rw [hafter] at unmodified ⊢
      exact ⟨unmodified, rfl⟩
    · obtain ⟨caret, d, hredo, _⟩ := h.redo_cons hfuture
      have hmarked := Document.modified_of_revisit hredo
      simp only [Document.after, hredo, hmarked] at unmodified
      cases unmodified
  | setProfile p => exact ⟨unmodified, Buffer.text_setProfile s.document.buffer p⟩
  | subscribe | unsubscribe k => exact ⟨unmodified, rfl⟩
  | setOptions o =>
    rw [Document.after, Document.setOptions] at unmodified ⊢
    cases hvalid : o.validate with
    | error e =>
      rw [hvalid] at unmodified
      exact ⟨unmodified, rfl⟩
    | ok _ =>
      rw [hvalid] at unmodified
      exact ⟨unmodified, rfl⟩
  | markSaved => exact absurd rfl hc
  | clearHistory => exact ⟨unmodified, rfl⟩
  | setCoalesce on => exact ⟨unmodified, rfl⟩

theorem Sound.text_run {s : Session} (h : s.Sound) {calls : List DocumentCall}
    (unsaved : .markSaved ∉ calls) (unmodified : (s.document.run calls).modified = false) :
    (s.document.run calls).text = s.document.text := by
  -- a mark once made stays, so that there is none after any of the calls
  suffices hboth : s.document.modified = false ∧ (s.document.run calls).text = s.document.text from
    hboth.2
  induction calls generalizing s with
  | nil => exact ⟨unmodified, rfl⟩
  | cons c calls ih =>
    have hdocument : (s.step c).document = s.document.after c := s.document_run [c]
    have hrun : s.document.run (c :: calls) = (s.step c).document.run calls := by
      rw [hdocument]
      rfl
    have hc : c ≠ .markSaved := by
      rintro rfl
      exact unsaved List.mem_cons_self
    rw [hrun] at unmodified ⊢
    obtain ⟨hafter, htext⟩ := ih (h.step c) (fun hmem => unsaved (List.mem_cons_of_mem c hmem))
      unmodified
    rw [hdocument] at hafter
    obtain ⟨hbefore, hsame⟩ := h.unmodified hc hafter
    refine ⟨hbefore, ?_⟩
    rw [htext, hdocument, hsame]

end Session

namespace Document

/-- **A document without changes holds the text saved last.**  Whatever calls have been made of a
document, accepted or refused: if it is not marked as changed, its text is the one that it had when
it was last marked as saved, and the one that it was opened with if it never was. -/
theorem text_eq_saved_of_not_modified {b : Buffer} (obtained : b.Obtained)
    (calls : List DocumentCall) (unmodified : ((ofBuffer b).run calls).modified = false) :
    (.markSaved ∉ calls → ((ofBuffer b).run calls).text = b.text) ∧
      ∀ before later, calls = before ++ .markSaved :: later → .markSaved ∉ later →
        ((ofBuffer b).run calls).text = ((ofBuffer b).run before).text := by
  have hsound := Session.sound_of_isClean obtained.isClean
  constructor
  · intro unsaved
    exact hsound.text_run unsaved unmodified
  · rintro before later rfl unsaved
    have hsaved := hsound.run (before ++ [.markSaved])
    have hdocument := (Session.start b).document_run (before ++ [.markSaved])
    have hsplit : (ofBuffer b).run (before ++ .markSaved :: later) =
        ((Session.start b).run (before ++ [.markSaved])).document.run later := by
      rw [hdocument, run, run, run, ← List.foldl_append, List.append_assoc]
      rfl
    rw [hsplit] at unmodified ⊢
    rw [hsaved.text_run unsaved unmodified, hdocument, run, List.foldl_append]
    rfl

/-- A letter is typed and saved; a second one is refused, and the file is taken for another
language.  Then there is nothing to save. -/
theorem text_eq_saved_of_not_modified_of_refusal :
    let b := Buffer.ofText ['a'] .plainText
    let before : List DocumentCall := [.edit (.insert ⟨1, 1⟩ ['b'])]
    let later : List DocumentCall := [.edit (.insert ⟨2, 0⟩ ['c']), .setProfile .plainText]
    b.Obtained ∧ .markSaved ∉ later ∧
      ((ofBuffer b).run (before ++ .markSaved :: later)).modified = false ∧
      ((ofBuffer b).run (before ++ .markSaved :: later)).text = ['a', 'b'] := by
  intro b before later
  have obtained : b.Obtained := .ofReachable (.ofText _ _)
  have unsaved : .markSaved ∉ later := by
    intro hmem
    rcases List.mem_cons.mp hmem with h | hmem
    · cases h
    · cases List.mem_singleton.mp hmem
  have unmodified : ((ofBuffer b).run (before ++ .markSaved :: later)).modified = false := by
    decide +kernel
  refine ⟨obtained, unsaved, unmodified, ?_⟩
  obtain ⟨_, hsaved⟩ := text_eq_saved_of_not_modified obtained _ unmodified
  have htext : ((ofBuffer b).run before).text = ['a', 'b'] := by decide +kernel
  rw [hsaved before later rfl unsaved, htext]

end Document

end SourceEditor
