/-
  SourceEditor/Proofs/Json/Reindent.lean
  ======================================
  **Indenting printed JSON again.**  Line by line from the top, the lines of a printed value are in
  place if they are those that the indentation wants.  So re-indentation leaves them all as they are
  but for the ends of arrays with elements, which it moves one level in; and a value without such
  arrays stays the same.
-/
import SourceEditor.Proofs.Json.Printed

namespace SourceEditor

namespace Json

variable {b : Buffer} {o : Options}

/-- Scanned from the top, the lines hold the contents whose text they have behind their blanks. -/
theorem forall₂_holds {ls : List Line} {rows : List Row}
    (h : Annotated Language.json.lexicon .normal ls)
    (hbodies : ls.map (fun l => l.text.body) = rows.map fun r => r.content.text) :
    List.Forall₂ (fun l r => Holds l r.content) ls rows := by
  induction ls generalizing rows with
  | nil =>
    obtain rfl := List.map_eq_nil_iff.mp hbodies.symm
    exact .nil
  | cons l ls ih =>
    obtain ⟨r, rows, rfl, hbody, hbodies⟩ := List.map_eq_cons_iff.mp hbodies.symm
    obtain ⟨hscan, hrest⟩ := h
    have hvalid : ∀ p ∈ Piece.code l.indent :: r.content.pieces, p.IsValid := by
      intro p hp
      rcases List.mem_cons.mp hp with rfl | hp
      · intro hquote
        exact absurd (l.isBlank_indent _ hquote) (by decide)
      · exact r.content.isValid_pieces p hp
    have htext : l.text = textOf (.code l.indent :: r.content.pieces) := by
      have hbody : l.text.body = r.content.text := hbody.symm
      have hsplit := Text.indent_append_body l.text
      rw [hbody] at hsplit
      exact hsplit.symm
    obtain ⟨hreads, hout⟩ := Line.reads_of_scanned hvalid htext hscan
    rw [hout] at hrest
    exact .cons hreads (ih hrest hbodies.symm)

theorem ShowsAbove.isIndented_iff {above : List Row} {l : Line} {c : Content}
    (h : ShowsAbove b o above) (hstyle : b.profile.indent = .braces)
    (hl : b.line? (above.length + 1) = some l) (hc : Holds l c) :
    b.IsIndented o (above.length + 1) ↔ l.indent = o.makeIndent (expected o above c) := by
  have hindent : b.indentBy .braces o (above.length + 1) = o.makeIndent (expected o above c) :=
    h.braceIndent hl hc
  rw [Buffer.isIndented_iff hl hc.isBlank, hstyle, hindent]

/-- The lines of a value, whatever blanks they begin with, are in place exactly if they are the
lines that the indentation wants. -/
theorem areIndented_iff_settled (reached : b.Reachable) (hjson : b.profile = .ofLanguage .json)
    {v : Value} (hbodies : b.texts.map Text.body = (v.lines o).map Text.body) :
    (∀ n, 0 < n → n ≤ b.lineCount → b.IsIndented o n) ↔ b.texts = v.settledLines o := by
  have hannotated : Annotated (Profile.ofLanguage .json).lexicon .normal b.lines :=
    hjson ▸ reached.isAnnotated
  have hbodies : b.lines.map (fun l => l.text.body) =
      (v.settledRows o).map fun r => r.content.text := by
    rw [Buffer.texts, Value.lines, List.map_map, List.map_map] at hbodies
    rw [Value.settledRows, List.map_map]
    refine Eq.trans hbodies (List.map_congr_left fun r _ => ?_)
    exact (r.body_text o).trans (congrArg Content.text (r.content_settled o)).symm
  have hstyle : b.profile.indent = .braces := by
    rw [hjson]
    rfl
  have hsame : ∀ {above r rows l}, ShowsAbove b o above ∧ Fit o above (r :: rows) →
      b.line? (above.length + 1) = some l → Holds l r.content →
      (b.IsIndented o (above.length + 1) ↔ l.text = r.text o) := by
    rintro above r rows l ⟨h, hwidth, _⟩ hl hc
    rw [h.isIndented_iff hstyle hl hc, ← hwidth, hc.text_eq, Row.text, List.append_left_inj]
  have hnone : ShowsAbove b o [] ∧ Fit o [] (v.settledRows o) := ⟨trivial, v.fit_settledRows⟩
  apply Buffer.areIndented_iff_texts
    (P := fun above rows => ShowsAbove b o above ∧ Fit o above rows) hsame _ hnone
    (List.nil_append _).symm rfl (forall₂_holds hannotated hbodies)
  -- once a line is in place it shows its row, and the others are below it
  rintro above r rows l ⟨h, _, hfit⟩ hl hc htext
  rw [hc.text_eq, Row.text, List.append_left_inj] at htext
  have hshows : Shows o l r := by
    refine ⟨hc, ?_⟩
    rw [Line.indentWidth, htext, Options.indentWidth_makeIndent]
  exact ⟨⟨⟨l, hl, hshows⟩, h⟩, hfit⟩

end Json

namespace Document

variable {d : Document} {v : Json.Value}

theorem exists_reindentLines_settled (reached : d.buffer.Reachable)
    (hjson : d.buffer.profile = .ofLanguage .json) (hprinted : d.buffer.texts = v.lines d.options) :
    ∃ k d', d.reindentLines 1 d.buffer.lineCount = (.ok k, d') ∧
      d'.buffer.texts = v.settledLines d.options := by
  have hcount : 1 ≤ d.buffer.lineCount := List.length_pos_iff.mpr d.buffer.lines_ne_nil
  have bare : d.buffer.profile.lexicon.StartsBare := hjson ▸ Profile.startsBare_ofLanguage .json
  obtain ⟨k, d', hrun, _, _, hsettles⟩ :=
    exists_reindentLines reached.showsScans bare (Nat.le_refl 1) hcount (Nat.le_refl _)
  have hbodies := hsettles.bodies.trans (congrArg (List.map Text.body) hprinted)
  have hiff :=
    Json.areIndented_iff_settled (hsettles.reached reached) (hsettles.profile.trans hjson) hbodies
  refine ⟨k, d', hrun, hiff.mp fun n hn hle => ?_⟩
  rw [Buffer.lineCount_eq_of_bodies hsettles.bodies] at hle
  exact hsettles.indented n hn (by omega)

/-- **Printed JSON keeps its lines, but for the ends of its arrays.**  Re-indentation moves the line
that closes an array with elements one level in, to the elements, and changes no other line of a
printed value; a value without such arrays, and no other, it leaves alone. -/
theorem reindentLines_settles_arrays (reached : d.buffer.Reachable)
    (hjson : d.buffer.profile = .ofLanguage .json) (hprinted : d.buffer.texts = v.lines d.options) :
    ∃ k d', d.reindentLines 1 d.buffer.lineCount = (.ok k, d') ∧
      d'.buffer.texts = v.settledLines d.options ∧
      (v.hasElements = false → k = 0 ∧ d'.buffer = d.buffer) ∧
      (0 < d.options.shiftWidth → d'.buffer.texts = d.buffer.texts → v.hasElements = false) := by
  obtain ⟨k, d', hrun, htexts⟩ := exists_reindentLines_settled reached hjson hprinted
  refine ⟨k, d', hrun, htexts, ?_, ?_⟩
  · intro hv
    -- the lines are those wanted from the start, so none of them moves
    have hsettled : d.buffer.texts = v.settledLines d.options := by
      rw [hprinted, v.settledLines_eq_lines hv]
    have hindented := (Json.areIndented_iff_settled reached hjson
      (congrArg (List.map Text.body) hprinted)).mpr hsettled
    have hcount : 1 ≤ d.buffer.lineCount := List.length_pos_iff.mpr d.buffer.lines_ne_nil
    have hsame :=
      reindentLines_of_isIndented (Nat.le_refl 1) hcount (Nat.le_refl _) hindented
    obtain ⟨hk, rfl⟩ := Prod.mk.inj (hrun.symm.trans hsame)
    exact ⟨Except.ok.inj hk, rfl⟩
  · intro hshift hsame
    rw [htexts, hprinted] at hsame
    exact (v.settledLines_eq_lines_iff hshift).mp hsame

/-- An object with lists and objects inside, and brackets in its names and strings. -/
theorem reindentLines_settles_arrays_of_object :
    let text := "\x7b\n  \"a[\": [\n    1,\n    \x7b\x7d\n  ],\n  \"b\": \"\x7d\"\n\x7d".toList
    let d := Document.ofBuffer (.ofText text (.ofLanguage .json))
    let v : Json.Value := .container .object
      (.member ⟨"a[".toList, by decide⟩
        (.container .array
          (.element (.scalar (.number ⟨"1".toList, by decide⟩))
            (.element (.container .object .nil) .nil)))
        (.member ⟨"b".toList, by decide⟩ (.scalar (.string ⟨"\x7d".toList, by decide⟩)) .nil))
    d.buffer.Reachable ∧ d.buffer.profile = .ofLanguage .json ∧
      d.buffer.texts = v.lines d.options ∧
      ∃ k d', d.reindentLines 1 d.buffer.lineCount = (.ok k, d') ∧
        d'.buffer.texts = v.settledLines d.options ∧
        (v.hasElements = false → k = 0 ∧ d'.buffer = d.buffer) ∧
        (0 < d.options.shiftWidth → d'.buffer.texts = d.buffer.texts → v.hasElements = false) := by
  intro text d v
  have reached : d.buffer.Reachable := .ofText _ _
  have hprinted : d.buffer.texts = v.lines d.options := by decide +kernel
  exact ⟨reached, rfl, hprinted, reindentLines_settles_arrays reached rfl hprinted⟩

/-- A list of one number is printed on three lines, and the last one of them moves. -/
theorem exists_json_not_fixed :
    let d := Document.ofBuffer (.ofText "[\n  1\n]".toList (.ofLanguage .json))
    let v : Json.Value := .container .array
      (.element (.scalar (.number ⟨"1".toList, by decide⟩)) .nil)
    d.buffer.Reachable ∧ d.buffer.profile = .ofLanguage .json ∧
      d.buffer.texts = v.lines d.options ∧
      ∃ k d', d.reindentLines 1 d.buffer.lineCount = (.ok k, d') ∧
        d'.buffer.texts ≠ v.lines d.options := by
  intro d v
  have reached : d.buffer.Reachable := .ofText _ _
  have hprinted : d.buffer.texts = v.lines d.options := by decide +kernel
  obtain ⟨k, d', hrun, htexts⟩ := exists_reindentLines_settled reached rfl hprinted
  refine ⟨reached, rfl, hprinted, k, d', hrun, ?_⟩
  rw [htexts]
  decide +kernel

end Document

end SourceEditor
