/-
  SourceEditor/Proofs/Buffer/Index.lean
  =====================================
  **Looking up lines by identity.**  The index is made when a line is looked up.  A line that is
  appended is entered, an edit within a line leaves the index alone, and otherwise it is taken away.
  While it is there it names the first line that carries an identity, so a line whose identity is
  looked up is found where it is now.
-/
import SourceEditor.Proofs.Buffer.Identity

namespace SourceEditor

namespace LineIndex

theorem getElem?_enter (index : LineIndex) (i : Nat) (id : LineId) (n : Nat) :
    (index.enter i id)[n]? = index[n]?.or (if id = some n then some i else none) := by
  cases id with
  | none => simp [enter]
  | some m =>
    simp only [enter, Std.TreeMap.getElem?_insertIfNew, Nat.compare_eq_eq, Option.some.injEq,
      Std.TreeMap.mem_iff_isSome_getElem?]
    by_cases h : m = n
    · subst h
      rcases index[m]? with _ | j <;> simp
    · simp [h]

/-- Entering lines finds what was there before, and otherwise the first of the lines. -/
theorem getElem?_enterAll (index : LineIndex) (i : Nat) (ls : List Line) (n : Nat) :
    (index.enterAll i ls)[n]? =
      index[n]?.or (((ls.map Line.id).idxOf? (some n)).map (· + i)) := by
  induction ls generalizing index i with
  | nil => simp [enterAll]
  | cons l rest ih =>
    rw [enterAll, ih, getElem?_enter, List.map_cons, List.idxOf?_cons, Option.or_assoc]
    congr 1
    by_cases h : l.id = some n
    · simp [h]
    · rcases (rest.map Line.id).idxOf? (some n) with _ | j
      · simp [h]
      · simp [h]
        omega

theorem getElem?_ofLines (ls : List Line) (n : Nat) :
    (ofLines ls)[n]? = (ls.map Line.id).idxOf? (some n) := by
  rw [ofLines, getElem?_enterAll]
  simp

end LineIndex

namespace Buffer

/-- Whether the index, if it is there, names the first line of every identity. -/
def IsIndexed (b : Buffer) : Prop :=
  ∀ index ∈ b.index, ∀ n : Nat, index[n]? = b.ids.idxOf? (some n)

theorem isIndexed_of_none {b : Buffer} (h : b.index = none) : b.IsIndexed := by
  intro index hindex
  rw [h] at hindex
  cases hindex

theorem IsIndexed.of_eq {b b' : Buffer} (hb : b.IsIndexed) (hindex : b'.index = b.index)
    (hids : b'.ids = b.ids) : b'.IsIndexed := by
  intro index hmem n
  rw [hids]
  exact hb index (hindex ▸ hmem) n

/-- Whether it is there already or made from the lines: the index names the first line of every
identity. -/
theorem IsIndexed.getElem?_usedIndex {b : Buffer} (hb : b.IsIndexed) (n : Nat) :
    b.usedIndex[n]? = b.ids.idxOf? (some n) := by
  rw [usedIndex]
  rcases hindex : b.index with _ | index
  · rw [Option.getD_none, LineIndex.getElem?_ofLines]
    rfl
  · exact hb index hindex n

/-- An edit of one line that leaves one line leaves the identities as they are. -/
theorem ids_replaced_of_single {b : Buffer} {r : Range} (hr : b.checkRange r = .ok ())
    (kind : ChangeKind) (after : Range) {pieces : List Text} (hcount : pieces.length = 1)
    (hsame : r.start.line - 1 = r.stop.line - 1) :
    (b.replaced kind r after pieces).ids = b.ids := by
  have hne : pieces ≠ [] := List.ne_nil_of_length_pos (by omega)
  obtain ⟨old, hold, hids⟩ := ids_replaced hr kind after hne
  obtain ⟨hstart, hstop, _⟩ := checkRange_eq_ok_iff.mp hr
  obtain ⟨hlt, hget⟩ := List.getElem?_eq_some_iff.mp hold
  have hstopLine : r.stop.line = r.start.line - 1 + 1 := by
    have := hstop.1
    omega
  have hone : identities b.nextId pieces.length old (pushesDown r pieces) = [old] := by
    rw [identities_eq, hcount]
    cases pushesDown r pieces <;> rfl
  rw [hids, hone, hstopLine, List.append_assoc, List.singleton_append, ← hget,
    ← List.drop_eq_getElem_cons hlt, List.take_append_drop]

theorem IsIndexed.replaced {b : Buffer} (hb : b.IsIndexed) {r : Range}
    (hr : b.checkRange r = .ok ()) (kind : ChangeKind) (after : Range) {pieces : List Text}
    (hne : pieces ≠ []) : (b.replaced kind r after pieces).IsIndexed := by
  by_cases h : pieces.length = 1 ∧ r.start.line - 1 = r.stop.line - 1
  · refine hb.of_eq ?_ (ids_replaced_of_single hr kind after h.1 h.2)
    rw [Buffer.replaced]
    exact if_pos ⟨(Text.length_surround _ _ hne).trans h.1, h.2⟩
  · apply isIndexed_of_none
    rw [Buffer.replaced]
    exact if_neg fun h' => h ⟨(Text.length_surround _ _ hne).symm.trans h'.1, h'.2⟩

theorem IsIndexed.appendOne {b : Buffer} (hb : b.IsIndexed) (id : LineId) (t : Text) :
    (b.appendOne id t).IsIndexed := by
  intro index hindex n
  rw [Buffer.appendOne] at hindex
  obtain ⟨before, hbefore, rfl⟩ := Option.map_eq_some_iff.mp hindex
  have happend : (b.ids ++ [id]).idxOf? (some n) = (b.ids.idxOf? (some n)).or
      (([id].idxOf? (some n)).map (· + b.ids.length)) := List.findIdx?_append
  rw [ids_appendOne, LineIndex.getElem?_enter, hb before hbefore n, happend]
  congr 1
  have hlength : b.ids.length = b.lineCount := List.length_map _
  by_cases h : id = some n
  · simp [h, hlength]
  · simp [h]

theorem IsIndexed.after {b : Buffer} (hb : b.IsIndexed) (c : BufferCall) :
    (b.after c).IsIndexed := by
  apply after_induct c hb
  · intro b kind r after t hb hr
    exact hb.replaced hr kind after t.lines_ne_nil
  · intro b t hb _
    exact hb.appendOne _ t
  · intro b profile hb
    exact hb.of_eq rfl (ids_setProfile b profile)
  · intro b s hb
    exact hb.of_eq rfl rfl

/-- The index that looking up leaves is the right one. -/
theorem IsIndexed.lookUp {b : Buffer} (hb : b.IsIndexed) (id : LineId) :
    (b.lookUp id).2.IsIndexed := by
  rw [Buffer.lookUp]
  split
  · exact hb
  · intro index hindex n
    obtain rfl := Option.some.inj hindex
    exact hb.getElem?_usedIndex n

theorem Reachable.isIndexed {b : Buffer} (reached : b.Reachable) : b.IsIndexed := by
  induction reached with
  | new profile => exact isIndexed_of_none rfl
  | ofText t profile => exact isIndexed_of_none rfl
  | ofBytes decoded =>
    obtain ⟨t, rfl⟩ := ofBytes_eq_ofText decoded
    exact isIndexed_of_none rfl
  | ofReader read =>
    obtain ⟨t, rfl⟩ := ofReader_eq_ofText read
    exact isIndexed_of_none rfl
  | after _ c ih => exact ih.after c
  | lookUp _ id ih => exact ih.lookUp id

/-! ### Looking up -/

theorem IsIndexed.lineNumber?_eq {b : Buffer} (hb : b.IsIndexed) (n : Nat) :
    b.lineNumber? (some n) = (b.ids.idxOf? (some n)).map (· + 1) := by
  rw [lineNumber?, Option.bind_some, hb.getElem?_usedIndex]

theorem lineNumber?_none (b : Buffer) : b.lineNumber? none = none := rfl

/-- An identity is found where it is. -/
theorem Reachable.lineNumber?_eq_some_iff {b : Buffer} (reached : b.Reachable) {id : LineId}
    {k : Nat} :
    b.lineNumber? id = some k ↔ id ≠ none ∧ ∃ l, b.line? k = some l ∧ l.id = id := by
  cases id with
  | none => simp [lineNumber?_none]
  | some n =>
    rw [reached.isIndexed.lineNumber?_eq, Option.map_eq_some_iff]
    simp only [List.idxOf?_eq_some_iff, ne_eq, reduceCtorEq, not_false_eq_true, true_and,
      line?_eq_some_iff]
    constructor
    · rintro ⟨i, ⟨hlt, hget, _⟩, rfl⟩
      have hi : i < b.lines.length := by simpa [ids] using hlt
      refine ⟨b.lines[i], ⟨Nat.succ_ne_zero i, List.getElem?_eq_getElem hi⟩, ?_⟩
      simpa [ids] using hget
    · rintro ⟨l, ⟨hk, hget⟩, hid⟩
      obtain ⟨hlt, hget⟩ := List.getElem?_eq_some_iff.mp hget
      have hi : k - 1 < b.ids.length := by simpa [ids] using hlt
      have hk' : b.ids[k - 1] = some n := by simp [ids, hget, hid]
      refine ⟨k - 1, ⟨hi, hk', ?_⟩, Nat.sub_one_add_one hk⟩
      -- no other line has the identity
      intro j hj hsame
      have hdistinct := List.pairwise_iff_getElem.mp reached.isNumbered.nodup j (k - 1)
        (Nat.lt_trans hj hi) hi hj
      exact hdistinct (hsame.trans hk'.symm)

theorem Reachable.lineNumber?_eq_none_iff {b : Buffer} (reached : b.Reachable) {id : LineId} :
    b.lineNumber? id = none ↔ id ∉ b.ids := by
  cases id with
  | none =>
    simp only [lineNumber?_none, true_iff]
    intro hnone
    obtain ⟨n, _, heq⟩ := reached.isNumbered.lt_nextId none hnone
    cases heq
  | some n =>
    rw [reached.isIndexed.lineNumber?_eq, Option.map_eq_none_iff, List.idxOf?_eq_none_iff]

end Buffer

end SourceEditor
