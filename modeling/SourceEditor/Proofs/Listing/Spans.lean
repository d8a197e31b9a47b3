/-
  SourceEditor/Proofs/Listing/Spans.lean
  ======================================
  **Tokens on all the lines there are.**  A line of a buffer has the spans of its last scan, or
  spans that were given to it since; both are in order.  So on every line of every buffer the token
  at a column is that of the one span which covers the column.
-/
import SourceEditor.Proofs.Lexis.Spans
import SourceEditor.Proofs.Listing.Buffers

namespace SourceEditor

/-- Scanning again leaves lines with the spans of a scan, and lines as they were. -/
theorem inOrder_of_mem_rescan {lex : Lexicon} {state : ScanState} {n : Nat} {ls : List Line}
    (h : ∀ l ∈ ls, Span.InOrder l.spans) : ∀ l ∈ rescan lex state n ls, Span.InOrder l.spans := by
  induction ls generalizing state n with
  | nil =>
    intro l hl
    cases n <;> cases hl
  | cons first rest ih =>
    have hfirst : Span.InOrder (first.scanned lex state).spans :=
      lex.inOrder_scanLine state first.text
    have hrest : ∀ l ∈ rest, Span.InOrder l.spans := fun l hl => h l (List.mem_cons_of_mem first hl)
    intro l hl
    cases n with
    | zero =>
      rw [rescan] at hl
      split at hl
      · rcases List.mem_cons.mp hl with rfl | hl
        · exact hfirst
        · exact hrest l hl
      · rcases List.mem_cons.mp hl with rfl | hl
        · exact hfirst
        · exact ih hrest l hl
    | succ n =>
      rcases List.mem_cons.mp hl with rfl | hl
      · exact hfirst
      · exact ih hrest l hl

theorem Line.inOrder_of_mem_unscannedLines {stateOut : ScanState} {ids : List LineId}
    {ts : List Text} : ∀ l ∈ unscannedLines stateOut ids ts, Span.InOrder l.spans := by
  fun_induction unscannedLines stateOut ids ts with
  | case1 id _ t =>
    intro l hl
    rw [List.mem_singleton.mp hl]
    exact .nil
  | case2 id ids t rest _ ih =>
    intro l hl
    rcases List.mem_cons.mp hl with rfl | hl
    · exact .nil
    · exact ih l hl
  | case3 =>
    intro l hl
    cases hl

namespace Buffer

/-- Whether the spans of every line are in order. -/
def HasSpansInOrder (b : Buffer) : Prop := ∀ l ∈ b.lines, Span.InOrder l.spans

namespace HasSpansInOrder

variable {b : Buffer}

theorem replaced (hb : b.HasSpansInOrder) (kind : ChangeKind) (r after : Range)
    (pieces : List Text) : (b.replaced kind r after pieces).HasSpansInOrder := by
  intro l hl
  rcases List.mem_append.mp hl with hl | hl
  · exact hb l (List.mem_of_mem_take hl)
  · refine inOrder_of_mem_rescan ?_ l hl
    intro l hl
    rcases List.mem_append.mp hl with hl | hl
    · exact Line.inOrder_of_mem_unscannedLines l hl
    · exact hb l (List.mem_of_mem_drop hl)

theorem appendOne (hb : b.HasSpansInOrder) (id : LineId) (t : Text) :
    (b.appendOne id t).HasSpansInOrder := by
  intro l hl
  rcases List.mem_append.mp hl with hl | hl
  · exact hb l hl
  · rw [List.mem_singleton.mp hl]
    exact b.profile.lexicon.inOrder_scanLine _ t

theorem setProfile (hb : b.HasSpansInOrder) (profile : Profile) :
    (b.setProfile profile).HasSpansInOrder := inOrder_of_mem_rescan hb

theorem after (hb : b.HasSpansInOrder) (c : BufferCall) : (b.after c).HasSpansInOrder :=
  after_induct c hb (fun _ kind r after t hb _ => hb.replaced kind r after t.lines)
    (fun _ t hb _ => hb.appendOne _ t) (fun _ profile hb => hb.setProfile profile)
    fun _ _ hb => hb

theorem annotate (hb : b.HasSpansInOrder) (n : Nat) (id : LineId) (spans : List Span) :
    (b.annotate n id spans).HasSpansInOrder := by
  rw [Buffer.annotate]
  split
  · exact hb
  · intro l hl
    obtain ⟨i, hi, rfl⟩ := List.getElem_of_mem hl
    simp only [annotateAt, List.getElem_modify]
    split
    · exact Line.inOrder_normalSpans spans
    · exact hb _ (List.getElem_mem _)

theorem appendAnnotated (hb : b.HasSpansInOrder) (id : LineId) (t : Text) (spans : List Span) :
    (b.appendAnnotated id t spans).HasSpansInOrder := by
  intro l hl
  rw [lines_appendAnnotated] at hl
  rcases List.mem_append.mp hl with hl | hl
  · exact hb l hl
  · rw [List.mem_singleton.mp hl]
    exact Line.inOrder_normalSpans spans

end HasSpansInOrder

end Buffer

end SourceEditor
