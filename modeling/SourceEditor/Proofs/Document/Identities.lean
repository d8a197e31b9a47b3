/-
  SourceEditor/Proofs/Document/Identities.lean
  ============================================
  **Which identities a deletion retires.**  A line that is left where lines have been joined carries
  on the identity of the first of them.  Deleting whole lines joins the first of them, emptied, with
  the line below the last; so it is this line below, whose text stays, that loses its identity, and
  the first line deleted that lends it its own.  A text of whole lines put in front of a line pushes
  the line down with its identity, but to take the text away again gives the line another one, and
  so does undoing.
-/
import SourceEditor.Proofs.Buffer.Index
import SourceEditor.Proofs.Document.Refused
import SourceEditor.Proofs.Document.Timeline

namespace SourceEditor

theorem drop_sub_one_eq_cons {α : Type} {xs : List α} {n : Nat} {x : α} (hn : n ≠ 0)
    (h : xs[n - 1]? = some x) : xs.drop (n - 1) = x :: xs.drop n := by
  obtain ⟨hlt, hget⟩ := List.getElem?_eq_some_iff.mp h
  rw [List.drop_eq_getElem_cons hlt, hget, Nat.sub_one_add_one hn]

namespace Buffer

/-! ### Identities by number -/

theorem Reachable.lineNumber?_eq_some_iff_ids {b : Buffer} (reached : b.Reachable) {id : LineId}
    {n : Nat} : b.lineNumber? id = some n ↔ n ≠ 0 ∧ b.ids[n - 1]? = some id := by
  rw [reached.lineNumber?_eq_some_iff]
  constructor
  · rintro ⟨_, l, hl, rfl⟩
    obtain ⟨hn, hget⟩ := line?_eq_some_iff.mp hl
    refine ⟨hn, ?_⟩
    rw [ids, List.getElem?_map, hget]
    rfl
  · rintro ⟨hn, hget⟩
    obtain ⟨k, _, hk⟩ := reached.isNumbered.lt_nextId id (List.mem_of_getElem? hget)
    rw [ids, List.getElem?_map, Option.map_eq_some_iff] at hget
    obtain ⟨l, hget, hid⟩ := hget
    exact ⟨by simp [hk], l, line?_eq_some_iff.mpr ⟨hn, hget⟩, hid⟩

/-- An identity stands in one place only. -/
theorem IsNumbered.eq_of_getElem? {b : Buffer} (hb : b.IsNumbered) {i j : Nat} {id : LineId}
    (hi : b.ids[i]? = some id) (hj : b.ids[j]? = some id) : i = j :=
  (List.getElem?_inj (List.getElem?_eq_some_iff.mp hi).1 hb.nodup).mp (hi.trans hj.symm)

/-! ### Deletions -/

/-- A range without text ends where it begins. -/
theorem stop_eq_start_of_slice_eq_nil {b : Buffer} (hb : b.IsClean) {r : Range}
    (hr : b.checkRange r = .ok ()) (hslice : b.slice r = []) : r.stop = r.start := by
  obtain ⟨hstart, hstop, _⟩ := checkRange_eq_ok_iff.mp hr
  rw [← behind_textBefore hb hstop, textBefore_stop hr, hslice, List.append_nil,
    behind_textBefore hb hstart]

/-- A deletion deletes nothing and leaves the buffer as it is, or it leaves one line of those that
its range touches. -/
theorem delete_cases {b b' : Buffer} (hb : b.IsClean) {r : Range} {e : Edit}
    (h : b.delete r = (.ok e, b')) :
    b.checkRange r = .ok () ∧
      ((r.stop = r.start ∧ b' = b) ∨ ∃ after, b' = b.replaced .delete r after [[]]) := by
  have hr : b.checkRange r = .ok () := checkRange_of_edit (q := .delete r) h
  refine ⟨hr, ?_⟩
  rw [delete, splice, hr] at h
  dsimp only at h
  split at h
  · rename_i hslice
    obtain ⟨_, rfl⟩ := Prod.mk.inj h
    exact .inl ⟨stop_eq_start_of_slice_eq_nil hb hr hslice, rfl⟩
  · obtain ⟨_, rfl⟩ := Prod.mk.inj h
    exact .inr ⟨_, rfl⟩

/-- A deletion leaves the identities of the lines down to the first of its range, and of those below
the last. -/
theorem ids_delete {b b' : Buffer} (hb : b.IsClean) {r : Range} {e : Edit}
    (h : b.delete r = (.ok e, b')) : b'.ids = b.ids.take r.start.line ++ b.ids.drop r.stop.line := by
  obtain ⟨hr, ⟨hsame, rfl⟩ | ⟨after, rfl⟩⟩ := delete_cases hb h
  · rw [hsame, List.take_append_drop]
  · obtain ⟨old, hold, hids⟩ := ids_replaced hr .delete after (List.cons_ne_nil [] [])
    have hone : identities b.nextId 1 old (pushesDown r [[]]) = [old] := by
      rw [identities_eq]
      cases pushesDown r [[]] <;> rfl
    have hstart := (checkRange_eq_ok_iff.mp hr).1.1
    obtain ⟨hlt, hget⟩ := List.getElem?_eq_some_iff.mp hold
    have htake : b.ids.take r.start.line = b.ids.take (r.start.line - 1) ++ [old] := by
      rw [← hget, ← List.take_succ_eq_append_getElem hlt, Nat.sub_one_add_one hstart]
    rw [hids, htake]
    exact congrArg (fun row => b.ids.take (r.start.line - 1) ++ row ++ b.ids.drop r.stop.line) hone

/-- Where a deletion leaves the lines: those down to the first of its range are found where they
were, those behind it down to the last are not found any more, and those below move up. -/
theorem Reachable.lineNumber?_delete {b b' : Buffer} (reached : b.Reachable) {r : Range} {e : Edit}
    (h : b.delete r = (.ok e, b')) {id : LineId} {n : Nat} (hn : b.lineNumber? id = some n) :
    b'.lineNumber? id = if n ≤ r.start.line then some n else if n ≤ r.stop.line then none
      else some (n - (r.stop.line - r.start.line)) := by
  have reached' : b'.Reachable := reached.edit (q := .delete r) h
  have hids := ids_delete reached.isClean h
  obtain ⟨hr, _⟩ := delete_cases reached.isClean h
  obtain ⟨hstart, hstop, hle⟩ := checkRange_eq_ok_iff.mp hr
  have hlines : r.start.line ≤ r.stop.line := by
    rcases hle with hlt | ⟨heq, _⟩ <;> omega
  have hcount : r.stop.line ≤ b.ids.length := by
    obtain ⟨l, hl, _⟩ := hasPoint_iff.mp hstop
    obtain ⟨hlt, _⟩ := List.getElem?_eq_some_iff.mp (line?_eq_some_iff.mp hl).2
    rw [ids, List.length_map]
    omega
  have hlength : (b.ids.take r.start.line).length = r.start.line := by
    rw [List.length_take]
    omega
  obtain ⟨hn0, hget⟩ := reached.lineNumber?_eq_some_iff_ids.mp hn
  have hlt := (List.getElem?_eq_some_iff.mp hget).1
  split
  · refine reached'.lineNumber?_eq_some_iff_ids.mpr ⟨hn0, ?_⟩
    rw [hids, List.getElem?_append_left (by omega), List.getElem?_take, if_pos (by omega), hget]
  · split
    · -- the identity stands between those that are left, and nowhere else
      rw [reached'.lineNumber?_eq_none_iff, hids, List.mem_append, not_or]
      have hplace : ∀ i : Nat, b.ids[i]? = some id → i = n - 1 := fun i hi =>
        reached.isNumbered.eq_of_getElem? hi hget
      constructor
      · intro hmem
        obtain ⟨i, hi⟩ := List.mem_iff_getElem?.mp hmem
        rw [List.getElem?_take] at hi
        split at hi
        · have := hplace i hi
          omega
        · cases hi
      · intro hmem
        obtain ⟨i, hi⟩ := List.mem_iff_getElem?.mp hmem
        rw [List.getElem?_drop] at hi
        have := hplace _ hi
        omega
    · refine reached'.lineNumber?_eq_some_iff_ids.mpr ⟨by omega, ?_⟩
      rw [hids, List.getElem?_append_right (by omega), hlength, List.getElem?_drop, ← hget]
      congr 1
      omega

/-- Whole lines are deleted with the line breaks behind them. -/
theorem exists_delete_lines {b : Buffer} (hb : b.IsClean) {first below : Nat} (hfirst : 1 ≤ first)
    (hlt : first < below) (hbelow : below ≤ b.lineCount) :
    ∃ e b', b.delete ⟨⟨first, 0⟩, ⟨below, 0⟩⟩ = (.ok e, b') ∧
      b'.texts = b.texts.take (first - 1) ++ b.texts.drop (below - 1) := by
  have hpoint : ∀ n, 1 ≤ n → n ≤ b.lineCount → b.HasPoint ⟨n, 0⟩ := by
    intro n hn hle
    obtain ⟨l, hl⟩ := b.exists_line? (Nat.one_le_iff_ne_zero.mp hn) hle
    exact hasPoint_iff.mpr ⟨l, hl, Nat.zero_le _⟩
  have hcheck : b.checkRange ⟨⟨first, 0⟩, ⟨below, 0⟩⟩ = .ok () :=
    checkRange_eq_ok_iff.mpr ⟨hpoint first hfirst (by omega), hpoint below (by omega) hbelow,
      .inl hlt⟩
  obtain ⟨e, b', h⟩ := edit_isOk_iff (q := .delete ⟨⟨first, 0⟩, ⟨below, 0⟩⟩).mpr hcheck
  refine ⟨e, b', h, ?_⟩
  obtain ⟨_, ⟨hsame, _⟩ | ⟨after, rfl⟩⟩ := delete_cases hb h
  · have hlines : below = first := congrArg Point.line hsame
    omega
  · obtain ⟨hline, t, ht, _⟩ := hpoint below (by omega) hbelow
    rw [texts_replaced hcheck .delete after (List.cons_ne_nil [] []),
      drop_sub_one_eq_cons hline ht, Text.upTo, Text.onFrom, ht, Option.getD_some, List.take_zero,
      List.drop_zero]
    exact Text.glue_append_cons _ [] t _

/-! ### Insertions of whole lines -/

/-- A text that ends with a line break, put at the start of a line, pushes the line down with its
identity. -/
theorem exists_insert_lines {b : Buffer} {n : Nat} (hn : 1 ≤ n)
    (hle : n ≤ b.lineCount) {t : Text} (ht : t.withLineFeeds.getLast? = some '\n') :
    ∃ e b' k, b.insert ⟨n, 0⟩ t = (.ok e, b') ∧ e.changed = true ∧ e.removed = [] ∧
      e.inserted = t.withLineFeeds ∧ k ≠ 0 ∧ e.range = ⟨⟨n, 0⟩, ⟨n + k, 0⟩⟩ ∧
      (⟨n, 0⟩ : Point).advance t.withLineFeeds = ⟨n + k, 0⟩ ∧
      b'.ids = b.ids.take (n - 1) ++ fresh b.nextId k ++ b.ids.drop (n - 1) := by
  obtain ⟨l, hl⟩ := b.exists_line? (Nat.one_le_iff_ne_zero.mp hn) hle
  have hpoint : b.HasPoint ⟨n, 0⟩ := hasPoint_iff.mpr ⟨l, hl, Nat.zero_le _⟩
  have hcheck : b.checkRange (.emptyAt ⟨n, 0⟩) = .ok () :=
    checkRange_eq_ok_iff.mpr ⟨hpoint, hpoint, .inr ⟨rfl, Nat.le_refl 0⟩⟩
  have hslice : b.slice (.emptyAt ⟨n, 0⟩) = [] := slice_on_line hl 0 0
  have hne : t.normalized ≠ [] := by
    rw [Text.normalized_eq_withLineFeeds]
    intro hnil
    rw [hnil] at ht
    cases ht
  -- the text consists of some lines and an empty one behind the last line break
  have hdown : pushesDown (.emptyAt ⟨n, 0⟩) t.lines = true :=
    pushesDown_lines_iff.mpr ⟨decide_eq_true rfl, rfl, ht⟩
  rw [← Text.normalized_eq_withLineFeeds, Text.normalized, Text.getLast?_joinLines t.lines_ne_nil
    fun _ hl => Text.isLine_of_mem_lines hl] at ht
  obtain ⟨above, hlines⟩ := List.getLast?_eq_some_iff.mp ht.2
  have hcount : t.lines.length = above.length + 1 := by
    rw [hlines, List.length_append, List.length_singleton]
  have habove : above ≠ [] := List.ne_nil_of_length_pos (by omega)
  have hcaret : (⟨n, 0⟩ : Point).advance t.normalized = ⟨n + above.length, 0⟩ := by
    rw [Text.normalized, hlines]
    exact Point.advance_joinLines ⟨n, 0⟩ (fun m hm => Text.isLine_of_mem_lines (hlines ▸ hm)) habove
  refine ⟨⟨⟨n + above.length, 0⟩, true, ⟨⟨n, 0⟩, ⟨n + above.length, 0⟩⟩, [], t.normalized⟩,
    b.replaced .insert (.emptyAt ⟨n, 0⟩) ⟨⟨n, 0⟩, ⟨n + above.length, 0⟩⟩ t.lines, above.length, ?_, rfl,
    rfl, t.normalized_eq_withLineFeeds, mt List.eq_nil_of_length_eq_zero habove, rfl,
    t.normalized_eq_withLineFeeds ▸ hcaret, ?_⟩
  · rw [insert, splice, hcheck]
    dsimp only
    rw [hslice, if_neg hne.symm, Range.emptyAt, hcaret]
  · obtain ⟨old, hold, hids⟩ := ids_replaced hcheck .insert
      ⟨⟨n, 0⟩, ⟨n + above.length, 0⟩⟩ t.lines_ne_nil
    have hdrop := drop_sub_one_eq_cons (Nat.one_le_iff_ne_zero.mp hn) hold
    rw [hids, hdrop, hdown, identities_eq, if_pos rfl, hcount, Nat.add_sub_cancel, Range.emptyAt]
    simp only [List.append_assoc, List.singleton_append]

/-- Whether a buffer holds the texts of another, with one line, and no other, under an identity that
the other does not know. -/
structure Renews (b : Buffer) (n : Nat) (b' : Buffer) : Prop where
  texts : b'.texts = b.texts
  found : ∀ id m, b.lineNumber? id = some m →
    b'.lineNumber? id = if m = n then none else some m

/-- To take away again whole lines put in front of a line gives the line a new identity. -/
theorem Reachable.exists_renews {b b₁ : Buffer} (reached : b.Reachable) {n : Nat} (hn : 1 ≤ n)
    (hle : n ≤ b.lineCount) {t : Text} (ht : t.withLineFeeds.getLast? = some '\n') {e : Edit}
    (hinsert : b.insert ⟨n, 0⟩ t = (.ok e, b₁)) :
    ∃ e' b₂, b₁.delete e.range = (.ok e', b₂) ∧ b.Renews n b₂ := by
  have reached₁ : b₁.Reachable := reached.edit (q := .insert ⟨n, 0⟩ t) hinsert
  obtain ⟨_, _, k, hinsert', _, hremoved, _, hk, hrange, _, hids₁⟩ := exists_insert_lines hn hle ht
  cases hinsert.symm.trans hinsert'
  obtain ⟨x, y, z, htext, _, hedit, htext₁, hclean₁⟩ :=
    exists_splice_of_edit (q := .insert ⟨n, 0⟩ t) reached.isClean hinsert
  obtain rfl : y = [] := by rw [← hremoved, hedit]
  obtain ⟨e', b₂, hdelete, htext₂⟩ :
      ∃ e' b₂, b₁.delete e.range = (.ok e', b₂) ∧ b₂.text = x ++ [] ++ z := by
    obtain ⟨b₂, hdelete, htext₂, _⟩ := splice_behind hclean₁ htext₁ .delete []
    have hrange : e.range = ⟨.behind x, .behind (x ++ t.normalized)⟩ := by
      rw [hedit]
      rfl
    exact ⟨_, b₂, hrange ▸ hdelete, htext₂⟩
  have reached₂ : b₂.Reachable := reached₁.edit (q := .delete e.range) hdelete
  refine ⟨_, b₂, hdelete, ?_, ?_⟩
  · rw [← reached₂.isClean.lines_text, ← reached.isClean.lines_text, htext₂, htext]
  · have hlt : n - 1 < b.ids.length := by
      rw [ids, List.length_map]
      exact Nat.lt_of_lt_of_le (Nat.sub_one_lt (Nat.one_le_iff_ne_zero.mp hn)) hle
    have hids₂ : b₂.ids = b.ids.set (n - 1) (some b.nextId) := by
      obtain ⟨k, rfl⟩ := Nat.exists_eq_succ_of_ne_zero hk
      have hfresh : fresh b.nextId (k + 1) = [some b.nextId] ++ fresh (b.nextId + 1) k := rfl
      have hfront : (b.ids.take (n - 1) ++ [some b.nextId]).length = n := by
        rw [List.length_append, List.length_take, List.length_singleton]
        omega
      have hadded : (b.ids.take (n - 1) ++ [some b.nextId] ++ fresh (b.nextId + 1) k).length =
          n + k := by
        rw [List.length_append, hfront, fresh, List.length_map, List.length_range']
      have hfirst : b₁.ids.take n = b.ids.take (n - 1) ++ [some b.nextId] := by
        rw [hids₁, hfresh, ← List.append_assoc, List.append_assoc]
        exact List.take_left' hfront
      have hlast : b₁.ids.drop (n + (k + 1)) = b.ids.drop n := by
        rw [hids₁, hfresh, ← List.append_assoc, ← Nat.add_assoc, ← List.drop_drop,
          List.drop_left' hadded, List.drop_drop, Nat.sub_one_add_one (by omega)]
      rw [ids_delete reached₁.isClean hdelete, hrange, hfirst, hlast,
        List.set_eq_take_append_cons_drop, if_pos hlt, List.append_assoc,
        Nat.sub_one_add_one (by omega)]
      rfl
    intro id m hm
    obtain ⟨hm0, hget⟩ := reached.lineNumber?_eq_some_iff_ids.mp hm
    split
    · rename_i hsame
      rw [reached₂.lineNumber?_eq_none_iff, hids₂]
      intro hmem
      obtain ⟨i, hi⟩ := List.mem_iff_getElem?.mp hmem
      by_cases hi' : n - 1 = i
      · rw [← hi', List.getElem?_set_self hlt] at hi
        obtain ⟨k, hk, heq⟩ := reached.isNumbered.lt_nextId id (List.mem_of_getElem? hget)
        obtain rfl := Option.some.inj ((Option.some.inj hi).trans heq)
        exact Nat.lt_irrefl _ hk
      · rw [List.getElem?_set_ne hi'] at hi
        have := reached.isNumbered.eq_of_getElem? hi hget
        omega
    · refine reached₂.lineNumber?_eq_some_iff_ids.mpr ⟨hm0, ?_⟩
      rw [hids₂, List.getElem?_set_ne (by omega), hget]

end Buffer

/-! ### Undoing -/

/-- A text put at the start of a line joins no group that has operations: what is typed in front of
it ends with a line break, or ends on another column. -/
theorem EditGroup.canCoalesce_lineStart {g : EditGroup} (hne : g.operations ≠ []) (n : Nat)
    (t : Text) : g.canCoalesce (.insert ⟨n, 0⟩ t) = false := by
  rw [canCoalesce, List.getLast?_eq_some_getLast hne, Bool.and_eq_false_iff]
  refine .inr ?_
  rcases g.operations.getLast hne with ⟨p, s⟩ | ⟨p, s⟩
  · rcases s with _ | ⟨c, _ | ⟨c', s⟩⟩
    · rfl
    · by_cases hc : c = '\n'
      · simp [EditOperation.continues, hc]
      · simp [EditOperation.continues, Point.advance, hc]
    · rfl
  · simp [EditOperation.continues]

theorem Past.operations_ne_nil {t : Text} {gs : List EditGroup} {ps : List Passage}
    (h : Past t gs ps) : ∀ g ∈ gs, g.operations ≠ [] := by
  induction h with
  | nil t => exact fun g hg => absurd hg List.not_mem_nil
  | cons makes here earlier ih =>
    intro g hg
    rcases List.mem_cons.mp hg with rfl | hg
    · exact makes.ne_nil
    · exact ih g hg

theorem Session.document_run (s : Session) (calls : List DocumentCall) :
    (s.run calls).document = s.document.run calls := by
  induction calls generalizing s with
  | nil => rfl
  | cons c calls ih =>
    have hstep : (s.step c).document = s.document.after c := by
      cases c with
      | undo =>
        simp only [step]
        split <;> rfl
      | redo =>
        simp only [step]
        split <;> rfl
      | _ => rfl
    exact (ih (s.step c)).trans (congrArg (fun d => d.run calls) hstep)

namespace Document

/-- Undoing gives a line, in front of which whole lines have been put, a new identity. -/
theorem exists_undo_insert_lines {d : Document} (rests : d.Rests)
    (hstack : ∀ g ∈ d.history.undoStack, g.operations ≠ []) (hroom : d.history.maxSize ≠ 0)
    {n : Nat} (hn : 1 ≤ n) (hle : n ≤ d.buffer.lineCount) {t : Text}
    (ht : t.withLineFeeds.getLast? = some '\n') :
    ∃ caret d', (d.insert ⟨n, 0⟩ t).2.undo = (.ok (some caret), d') ∧
      d.buffer.Renews n d'.buffer := by
  obtain ⟨b, h, o, m⟩ := d
  obtain ⟨e, b₁, k, hinsert, hchanged, hremoved, hinserted, _, hrange, hadvance, _⟩ :=
    Buffer.exists_insert_lines hn hle ht
  obtain ⟨e', b₂, hdelete, hrenews⟩ := rests.reached.exists_renews hn hle ht hinsert
  let op : EditOperation := .insert ⟨n, 0⟩ t.withLineFeeds
  let g : EditGroup := (EditGroup.new ⟨n, 0⟩).recording e
  have hops : g.operations = [op] := by
    have hne : t.withLineFeeds ≠ [] := by
      intro hnil
      rw [hnil] at ht
      cases ht
    simp [g, op, EditGroup.recording, EditGroup.new, operationsRecorded, operationsOf, hchanged,
      hremoved, hinserted, hrange, hne]
  have hcommit := History.commit_of_apart h hops fun last hlast =>
    EditGroup.canCoalesce_lineStart (hstack last hlast) n t.withLineFeeds
  have hdone : ((⟨b, h, o, m⟩ : Document).insert ⟨n, 0⟩ t).2 =
      ⟨b₁, ({ h with current := some g } : History).commit, o, m || e.changed⟩ := by
    have hrecorded : historyRecorded (h.begin ⟨n, 0⟩) e = { h with current := some g } := by
      rw [History.begin_of_idle rests.idle]
      exact History.foldl_historyRecorded h (.new ⟨n, 0⟩) [e]
    simp only [insert, grouped, hinsert, applied]
    rw [← hrecorded]
    rfl
  have hback : ∀ h h' m, (⟨b₁, h, o, m⟩ : Document).revisit (some ([op.inverse], ⟨n, 0⟩), h') =
      (.ok (some ⟨n, 0⟩), ⟨b₂, h', o, true⟩) := by
    intro h h' m
    have hrange : Range.between ⟨n, 0⟩ ((⟨n, 0⟩ : Point).advance t.withLineFeeds) = e.range := by
      rw [Range.between_advance, hadvance, hrange]
    simp only [op, EditOperation.inverse, revisit, performAll, perform, hrange, hdelete]
  obtain ⟨room, hroom⟩ := Nat.exists_eq_succ_of_ne_zero hroom
  rw [hdone, hcommit, hroom, List.take_succ_cons, undo, History.undo_cons rfl rfl, hops]
  exact ⟨⟨n, 0⟩, _, hback _ _ _, hrenews⟩

/-- **A deletion retires the identities of the lines behind the first of its range.**  In every
buffer reached, a deletion leaves the lines down to the first of its range under the identities they
have, retires those of the lines behind it down to the last, and moves the lines below up.  So
deleting whole lines, which leaves all other texts as they are, retires the identity of the line
below them in place of that of the first.  And to take away again whole lines that have been put in
front of a line, or to undo this in a document after any calls, leaves all texts as they were and
all lines under the identities they had, but for that one line, whose identity is retired. -/
theorem deletion_retires {b : Buffer} (reached : b.Reachable) :
    (∀ r e b', b.delete r = (.ok e, b') → ∀ id n, b.lineNumber? id = some n →
      b'.lineNumber? id = if n ≤ r.start.line then some n else if n ≤ r.stop.line then none
        else some (n - (r.stop.line - r.start.line))) ∧
    (∀ first below, 1 ≤ first → first < below → below ≤ b.lineCount →
      ∃ e b', b.delete ⟨⟨first, 0⟩, ⟨below, 0⟩⟩ = (.ok e, b') ∧
        b'.texts = b.texts.take (first - 1) ++ b.texts.drop (below - 1)) ∧
    (∀ n t, 1 ≤ n → n ≤ b.lineCount → t.withLineFeeds.getLast? = some '\n' →
      ∃ e b₁ e' b₂, b.insert ⟨n, 0⟩ t = (.ok e, b₁) ∧ b₁.delete e.range = (.ok e', b₂) ∧
        b.Renews n b₂) ∧
    (∀ calls n t, let d := (ofBuffer b).run calls
      1 ≤ n → n ≤ d.buffer.lineCount → t.withLineFeeds.getLast? = some '\n' →
      ∃ caret d', (d.insert ⟨n, 0⟩ t).2.undo = (.ok (some caret), d') ∧
        d.buffer.Renews n d'.buffer) := by
  refine ⟨fun r e b' h id n hn => reached.lineNumber?_delete h hn,
    fun first below => Buffer.exists_delete_lines reached.isClean, ?_, ?_⟩
  · intro n t hn hle ht
    obtain ⟨e, b₁, _, hinsert, _⟩ := Buffer.exists_insert_lines hn hle ht
    obtain ⟨e', b₂, hdelete, hrenews⟩ := reached.exists_renews hn hle ht hinsert
    exact ⟨e, b₁, e', b₂, hinsert, hdelete, hrenews⟩
  · intro calls n t d hn hle ht
    have hsound : ((Session.start b).run calls).Sound :=
      (Session.sound_of_isClean reached.isClean).run calls
    have hdocument : ((Session.start b).run calls).document = d :=
      Session.document_run (Session.start b) calls
    have hpast := hsound.past.operations_ne_nil
    have hroom := hsound.roomy
    rw [hdocument] at hpast hroom
    exact exists_undo_insert_lines (Rests.run ⟨reached, rfl⟩ calls) hpast hroom hn hle ht

/-- The first of three lines is deleted, and a line put in front of the second is taken away again by
undoing; both times it is the second line whose identity is retired. -/
theorem deletion_retires_of_three_lines :
    let b := Buffer.ofText ['a', '\n', 'b', '\n', 'c'] .plainText
    b.Reachable ∧
      (∃ e b', b.delete ⟨⟨1, 0⟩, ⟨2, 0⟩⟩ = (.ok e, b') ∧ b'.texts = [['b'], ['c']] ∧
        b'.lineNumber? (some 0) = some 1 ∧ b'.lineNumber? (some 1) = none ∧
        b'.lineNumber? (some 2) = some 2) ∧
      ∃ caret d', ((ofBuffer b).insert ⟨2, 0⟩ ['x', '\r', '\n']).2.undo = (.ok (some caret), d') ∧
        d'.buffer.texts = [['a'], ['b'], ['c']] ∧ d'.buffer.lineNumber? (some 0) = some 1 ∧
        d'.buffer.lineNumber? (some 1) = none ∧ d'.buffer.lineNumber? (some 2) = some 3 := by
  intro b
  have reached : b.Reachable := .ofText _ _
  have hfirst : b.lineNumber? (some 0) = some 1 := by decide +kernel
  have hsecond : b.lineNumber? (some 1) = some 2 := by decide +kernel
  have hthird : b.lineNumber? (some 2) = some 3 := by decide +kernel
  obtain ⟨hdeletion, hlines, _, hundo⟩ := deletion_retires reached
  refine ⟨reached, ?_, ?_⟩
  · obtain ⟨e, b', hdelete, htexts⟩ := hlines 1 2 (by decide) (by decide) (by decide)
    have hfound := hdeletion _ e b' hdelete
    exact ⟨e, b', hdelete, htexts, hfound _ _ hfirst, hfound _ _ hsecond, hfound _ _ hthird⟩
  · obtain ⟨caret, d', hundone, hrenews⟩ :=
      hundo [] 2 ['x', '\r', '\n'] (by decide) (by decide) (by decide)
    exact ⟨caret, d', hundone, hrenews.texts, hrenews.found _ _ hfirst,
      hrenews.found _ _ hsecond, hrenews.found _ _ hthird⟩

/-- The first of two lines is deleted as a whole.  Its identity is found afterwards, and that of the
line below it, which is all that is left, is not. -/
theorem exists_deleted_line_not_retired :
    let b := Buffer.ofText ['a', '\n', 'b'] .plainText
    b.Reachable ∧ b.lineNumber? (some 0) = some 1 ∧ b.lineNumber? (some 1) = some 2 ∧
      ∃ e b', b.delete ⟨⟨1, 0⟩, ⟨2, 0⟩⟩ = (.ok e, b') ∧ b'.texts = [['b']] ∧
        b'.lineNumber? (some 0) = some 1 ∧ b'.lineNumber? (some 1) = none := by
  intro b
  exact ⟨.ofText _ _, by decide +kernel, by decide +kernel, _, _, rfl, by decide +kernel,
    by decide +kernel, by decide +kernel⟩

end Document

end SourceEditor
