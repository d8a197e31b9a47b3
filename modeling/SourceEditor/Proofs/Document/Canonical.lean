/-
  SourceEditor/Proofs/Document/Canonical.lean
  ===========================================
  **Programs are recovered by indenting them again.**  From the lines of a program, whatever blanks
  they begin with, re-indentation makes the program as it is printed: from top to bottom, each line
  in place shows the next row, and the rows shown let expect the row after them.  A program printed
  is in place from the start.
-/
import SourceEditor.Proofs.Document.Reindent
import SourceEditor.Proofs.Indent.Program

namespace SourceEditor

open Row (Fit expected)

/-- Behind their leading blanks, the lines of a program are the contents of its rows. -/
theorem CppProgram.map_body_lines {o : Options} {p : CppProgram} (hp : p.IsValid) :
    (p.lines o).map Text.body = (p.rows o).map fun r => r.content.text := by
  rw [lines, List.map_map, List.map_inj_left]
  intro r hr
  exact Row.body_text (isValid_rows hp r hr).shape

namespace Buffer

variable {b : Buffer} {o : Options}

/-- A line below the rows that a buffer shows is in place if it has the indentation that they let
expect. -/
theorem ShowsAbove.isIndented_iff {above : List Row} (h : b.ShowsAbove o above)
    (hstyle : b.profile.indent = .braces) {l : Line} (hl : b.line? (above.length + 1) = some l)
    {c : Content} (hcode : l.IsCode c.text) (hshape : c.IsShaped) :
    b.IsIndented o (above.length + 1) ↔ l.indent = o.makeIndent (expected o above c) := by
  have hshows : b.ShowsAbove o (⟨l.indentWidth o, c⟩ :: above) :=
    ⟨⟨l, hl, hcode, hshape, rfl⟩, h⟩
  have hindent : b.indentBy .braces o (above.length + 1) = o.makeIndent (expected o above c) :=
    hshows.braceIndent
  rw [Buffer.isIndented_iff hl hcode.isBlank, hstyle, hindent]

/-- The lines that hold the contents of rows are in place exactly if they are these rows as they are
printed. -/
theorem areIndented_iff_rows {rows : List Row} (hstyle : b.profile.indent = .braces)
    (hrows : List.Forall₂ (fun l r => l.IsCode r.content.text ∧ r.content.IsShaped) b.lines rows)
    (hfit : Fit o [] rows) :
    (∀ n, 0 < n → n ≤ b.lineCount → b.IsIndented o n) ↔
      b.lines.map Line.text = rows.map fun r => r.text o := by
  have hsame : ∀ {above r rows l}, b.ShowsAbove o above ∧ Fit o above (r :: rows) →
      b.line? (above.length + 1) = some l → l.IsCode r.content.text ∧ r.content.IsShaped →
      (b.IsIndented o (above.length + 1) ↔ l.text = r.text o) := by
    rintro above r rows l ⟨h, hwidth, _⟩ hl ⟨hcode, hshape⟩
    rw [h.isIndented_iff hstyle hl hcode hshape, ← hwidth, hcode.text_eq, Row.text,
      List.append_left_inj]
  have hnone : b.ShowsAbove o [] ∧ Fit o [] rows := ⟨trivial, hfit⟩
  apply areIndented_iff_texts (P := fun above rows => b.ShowsAbove o above ∧ Fit o above rows)
    hsame _ hnone (List.nil_append _).symm rfl hrows
  -- once a line is in place it shows its row, and the others are below it
  rintro above r rows l ⟨h, _, hfit⟩ hl ⟨hcode, hshape⟩ htext
  rw [hcode.text_eq, Row.text, List.append_left_inj] at htext
  have hshows : l.Shows o r := by
    refine ⟨hcode, hshape, ?_⟩
    rw [Line.indentWidth, htext, Options.indentWidth_makeIndent]
  exact ⟨⟨⟨l, hl, hshows⟩, h⟩, hfit⟩

/-- **The lines of a program are in place exactly if they are the program as it is printed.** -/
theorem areIndented_iff_printed (reached : b.Reachable) (hcpp : b.profile = .ofLanguage .cpp)
    {p : CppProgram} (hp : p.IsValid)
    (hbodies : b.texts.map Text.body = (p.lines o).map Text.body) :
    (∀ n, 0 < n → n ≤ b.lineCount → b.IsIndented o n) ↔ b.texts = p.lines o := by
  have bare := Profile.startsBare_ofLanguage .cpp
  have hbodies : b.lines.map (fun l => l.text.body) = (p.rows o).map fun r => r.content.text := by
    rw [p.map_body_lines hp, texts, List.map_map] at hbodies
    exact hbodies
  have hannotated : Annotated (Profile.ofLanguage .cpp).lexicon .normal b.lines :=
    hcpp ▸ reached.isAnnotated
  have hplain : ∀ l ∈ b.lines, l.IsPlain := by
    apply Line.isPlain_of_annotated bare hannotated
    intro l hl
    have hmem : l.text.body ∈ (p.rows o).map fun r => r.content.text :=
      hbodies ▸ List.mem_map_of_mem hl
    obtain ⟨r, hr, htext⟩ := List.mem_map.mp hmem
    rw [← htext]
    exact Lexicon.unquoted_of_not_infix (p.isValid_rows hp r hr).unquoted
  have hshown : List.Forall₂ (fun l r => l.text.body = r.content.text) b.lines (p.rows o) := by
    rwa [← List.forall₂_eq_eq_eq, List.forall₂_map_left_iff, List.forall₂_map_right_iff] at hbodies
  have hrows : List.Forall₂ (fun l r => l.IsCode r.content.text ∧ r.content.IsShaped) b.lines
      (p.rows o) := by
    obtain ⟨hlength, hbody⟩ := List.forall₂_iff_zip.mp hshown
    apply List.forall₂_iff_zip.mpr
    refine ⟨hlength, fun {l r} hmem => ?_⟩
    obtain ⟨hl, hr⟩ := List.of_mem_zip hmem
    have hvalid := p.isValid_rows hp r hr
    exact ⟨⟨hplain l hl, hbody hmem, hvalid.isCode⟩, hvalid.shape⟩
  rw [areIndented_iff_rows (by rw [hcpp]; rfl) hrows (p.fit_rows hp)]
  rfl

end Buffer

namespace Document

/-- **Programs are recovered by indenting them again.**  From the lines of a program, whatever
blanks they begin with, re-indentation makes the program as it is printed; and none of its lines
changes if it is printed already. -/
theorem reindentLines_recovers {d : Document} (reached : d.buffer.Reachable)
    (hcpp : d.buffer.profile = .ofLanguage .cpp) {p : CppProgram} (hp : p.IsValid)
    (hbodies : d.buffer.texts.map Text.body = (p.lines d.options).map Text.body) :
    ∃ k d', d.reindentLines 1 d.buffer.lineCount = (.ok k, d') ∧
      d'.buffer.texts = p.lines d.options ∧
      (d.buffer.texts = p.lines d.options → k = 0 ∧ d'.buffer = d.buffer) := by
  have hcount : 1 ≤ d.buffer.lineCount := List.length_pos_iff.mpr d.buffer.lines_ne_nil
  have bare : d.buffer.profile.lexicon.StartsBare := hcpp ▸ Profile.startsBare_ofLanguage .cpp
  obtain ⟨k, d', hrun, hoptions, _, hsettles⟩ :=
    exists_reindentLines reached.showsScans bare (Nat.le_refl 1) hcount (Nat.le_refl _)
  refine ⟨k, d', hrun, ?_, ?_⟩
  · have hiff := Buffer.areIndented_iff_printed (hsettles.reached reached)
      (hsettles.profile.trans hcpp) hp (hsettles.bodies.trans hbodies)
    rw [← hiff]
    intro n hn hle
    rw [Buffer.lineCount_eq_of_bodies hsettles.bodies] at hle
    exact hsettles.indented n hn (by omega)
  · intro hprinted
    have hindented := (Buffer.areIndented_iff_printed reached hcpp hp hbodies).mpr hprinted
    have hsame :=
      reindentLines_of_isIndented (Nat.le_refl 1) hcount (Nat.le_refl _) hindented
    obtain ⟨hk, rfl⟩ := Prod.mk.inj (hrun.symm.trans hsame)
    exact ⟨Except.ok.inj hk, rfl⟩

/-- A `switch` around a label and a header without braces, all of it out of place. -/
theorem reindentLines_recovers_of_switch :
    let text := "\tswitch (n) \x7b\ncase 1:\n if (a[n])\n\t  b();\n   \x7d".toList
    let d := Document.ofBuffer (.ofText text (.ofLanguage .cpp))
    let p : CppProgram := [.block "switch (n)".toList false
      (.label (.case "1".toList)
        (.statement (.headed "if".toList "a[n]".toList (.simple "b()".toList)) .done))]
    d.buffer.Reachable ∧ d.buffer.profile = .ofLanguage .cpp ∧ p.IsValid ∧
      d.buffer.texts.map Text.body = (p.lines d.options).map Text.body ∧
      ∃ k d', d.reindentLines 1 d.buffer.lineCount = (.ok k, d') ∧
        d'.buffer.texts = p.lines d.options ∧
        (d.buffer.texts = p.lines d.options → k = 0 ∧ d'.buffer = d.buffer) := by
  intro text d p
  have reached : d.buffer.Reachable := .ofText _ _
  have hp : p.IsValid := by decide +kernel
  have hbodies : d.buffer.texts.map Text.body = (p.lines d.options).map Text.body := by
    decide +kernel
  exact ⟨reached, rfl, hp, hbodies, reindentLines_recovers reached rfl hp hbodies⟩

end Document

end SourceEditor
