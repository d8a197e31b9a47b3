/-
  SourceEditor/Proofs/Document/Operations.lean
  ============================================
  **Operations lead from text to text.**  A recorded operation speaks of a point, so it means
  something only for the text it was recorded against.  Here an operation is read as a step from
  one text to another; its inverse is the step back, and a document that has the first text and
  performs the operation has the second one afterwards.
-/
import SourceEditor.Document
import SourceEditor.Proofs.Buffer.Splice

namespace SourceEditor

open EditOperation (inverse)

namespace EditOperation

/-- The steps from text to text that an operation stands for. -/
inductive Leads : EditOperation → Text → Text → Prop where
  | insert (x z : Text) {t : Text} (ht : '\r' ∉ t) :
      Leads (.insert (.behind x) t) (x ++ z) (x ++ t ++ z)
  | delete (x z : Text) {t : Text} (ht : '\r' ∉ t) :
      Leads (.delete (.behind x) t) (x ++ t ++ z) (x ++ z)

theorem Leads.inverse {op : EditOperation} {s t : Text} (h : op.Leads s t) :
    op.inverse.Leads t s := by
  cases h with
  | insert x z ht => exact .delete x z ht
  | delete x z ht => exact .insert x z ht

/-- Operations done one after the other, from text to text. -/
inductive LeadsAll : List EditOperation → Text → Text → Prop where
  | nil (s : Text) : LeadsAll [] s s
  | cons {op : EditOperation} {ops : List EditOperation} {s t u : Text} (first : op.Leads s t)
      (others : LeadsAll ops t u) : LeadsAll (op :: ops) s u

theorem LeadsAll.append {ops ops' : List EditOperation} {s t u : Text} (h : LeadsAll ops s t)
    (h' : LeadsAll ops' t u) : LeadsAll (ops ++ ops') s u := by
  induction h with
  | nil s => exact h'
  | cons first _ ih => exact .cons first (ih h')

/-- The inverse operations in reverse order lead back. -/
theorem LeadsAll.inverse {ops : List EditOperation} {s t : Text} (h : LeadsAll ops s t) :
    LeadsAll (ops.map EditOperation.inverse).reverse t s := by
  induction h with
  | nil s => exact .nil s
  | cons first _ ih =>
    rw [List.map_cons, List.reverse_cons]
    exact ih.append (.cons first.inverse (.nil _))

theorem LeadsAll.eq_of_nil {s t : Text} (h : LeadsAll [] s t) : t = s := by
  cases h
  rfl

end EditOperation

open EditOperation (LeadsAll)

/-- The point that typing leads to does not precede the one where it began. -/
theorem Range.between_advance (p : Point) (t : Text) :
    Range.between p (p.advance t) = ⟨p, p.advance t⟩ := if_pos (Point.le_advance p t)

namespace Document

/-! ### Recorded edits -/

/-- The operations that are recorded of an edit: none if it has changed nothing. -/
def operationsRecorded (e : Edit) : List EditOperation := if e.changed then operationsOf e else []

theorem leadsAll_operationsOf {x y z n : Text} (hy : '\r' ∉ y) (hn : '\r' ∉ n) (caret stop : Point)
    (changed : Bool) : LeadsAll (operationsOf ⟨caret, changed, ⟨.behind x, stop⟩, y, n⟩)
      (x ++ y ++ z) (x ++ n ++ z) := by
  have hremoved : LeadsAll (if y.isEmpty then [] else [.delete (.behind x) y])
      (x ++ y ++ z) (x ++ z) := by
    cases y with
    | nil => simpa using LeadsAll.nil (x ++ z)
    | cons c y => exact .cons (.delete x z hy) (.nil _)
  have hinserted : LeadsAll (if n.isEmpty then [] else [.insert (.behind x) n])
      (x ++ z) (x ++ n ++ z) := by
    cases n with
    | nil => simpa using LeadsAll.nil (x ++ z)
    | cons c n => exact .cons (.insert x z hn) (.nil _)
  exact hremoved.append hinserted

/-- An accepted edit of a buffer whose lines hold no line breaks: the operations recorded of it
lead from the old text to the new one, and the caret is a point of the new one. -/
theorem leadsAll_of_edit {b b' : Buffer} (hb : b.IsClean) {q : EditRequest} {e : Edit}
    (h : b.edit q = (.ok e, b')) :
    b'.IsClean ∧ LeadsAll (operationsRecorded e) b.text b'.text ∧ b'.HasPoint e.caret := by
  obtain ⟨x, y, z, htext, hrange, rfl, htext₁, hb₁⟩ := Buffer.exists_splice_of_edit hb h
  refine ⟨hb₁, ?_, (Buffer.hasPoint_behind hb₁ htext₁).1⟩
  rw [htext, htext₁, operationsRecorded]
  by_cases hsame : y = q.text.normalized
  · rw [hsame]
    simpa using LeadsAll.nil _
  · have hy : '\r' ∉ y := fun hmem => hb.return_not_mem (by simp [htext, hmem])
    rw [if_pos (by simpa using hsame)]
    exact leadsAll_operationsOf hy (Text.return_not_mem_normalized _) _ _ _

/-- What a row of edits leaves: the operations recorded lead from the old text to the new one, and
the last caret is a point of the new one. -/
theorem leadsAll_of_edited {b b' : Buffer} (hb : b.IsClean) {es : List Edit}
    (h : b.Edited es b') :
    b'.IsClean ∧ LeadsAll (es.flatMap operationsRecorded) b.text b'.text ∧
      ∀ e ∈ es.getLast?, b'.HasPoint e.caret := by
  induction h with
  | nil b => exact ⟨hb, .nil _, by simp⟩
  | @cons b b₁ b₂ q e es first others ih =>
    obtain ⟨hb₁, hleads, hcaret⟩ := leadsAll_of_edit hb first
    obtain ⟨hb₂, hleads', hcaret'⟩ := ih hb₁
    refine ⟨hb₂, hleads.append hleads', ?_⟩
    cases others with
    | nil b =>
      intro e' he'
      obtain rfl := Option.some.inj he'
      exact hcaret
    | cons first' others' =>
      rw [List.getLast?_cons_cons]
      exact hcaret'

/-! ### Performing operations -/

/-- An operation performed on the text that it was recorded against is accepted. -/
theorem perform_of_leads {d : Document} (hd : d.buffer.IsClean) {op : EditOperation} {t : Text}
    (h : op.Leads d.buffer.text t) :
    ∃ e b, d.perform op = (.ok e, { d with buffer := b }) ∧ b.text = t ∧ b.IsClean := by
  generalize hs : d.buffer.text = s at h
  cases h with
  | @insert x z t ht =>
    have htext : d.buffer.text = x ++ [] ++ z := by simpa using hs
    obtain ⟨b, hsplice, hb⟩ := Buffer.splice_behind hd htext .insert t
    rw [Text.normalized_eq_self ht] at hsplice hb
    rw [List.append_nil] at hsplice
    refine ⟨⟨.behind (x ++ t), [] != t, ⟨.behind x, .behind (x ++ t)⟩, [], t⟩, b, ?_, hb⟩
    simp only [perform, Buffer.insert, Range.emptyAt, hsplice]
  | @delete x z t ht =>
    obtain ⟨b, hsplice, hb⟩ := Buffer.splice_behind hd hs .delete []
    rw [Text.normalized_eq_self List.not_mem_nil, List.append_nil] at hsplice hb
    refine ⟨⟨.behind x, t != [], ⟨.behind x, .behind x⟩, t, []⟩, b, ?_, hb⟩
    dsimp only [perform, Buffer.delete]
    rw [Range.between_advance, ← Point.behind_append, hsplice]

theorem performAll_of_leadsAll {ops : List EditOperation} {d : Document} (hd : d.buffer.IsClean)
    {t : Text} (h : LeadsAll ops d.buffer.text t) :
    ∃ b, d.performAll ops = (.ok (), { d with buffer := b }) ∧ b.text = t ∧ b.IsClean := by
  induction ops generalizing d with
  | nil => exact ⟨d.buffer, rfl, h.eq_of_nil.symm, hd⟩
  | cons op ops ih =>
    cases h with
    | cons first others =>
      obtain ⟨e, b, hperform, hb, hclean⟩ := perform_of_leads hd first
      obtain ⟨b', hall, hb'⟩ := ih (d := { d with buffer := b }) hclean (hb ▸ others)
      refine ⟨b', ?_, hb'⟩
      rw [performAll, hperform]
      exact hall

end Document

end SourceEditor
