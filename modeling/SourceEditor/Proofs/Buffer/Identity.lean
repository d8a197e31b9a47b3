/-
  SourceEditor/Proofs/Buffer/Identity.lean
  ========================================
  **Lines keep their identity.**  The identities of the lines are numbers that have been given out,
  each of them to one line.  An edit leaves those above and below it alone, hands the identity of
  its first line on to one of the lines it leaves, and gives the others numbers not given out
  before.  So an identity tells a line from all others for good: one that has gone does not come
  back.
-/
import SourceEditor.Proofs.Buffer.Splice

namespace SourceEditor

namespace Text

theorem length_surround (before after : Text) {ls : List Text} (h : ls ≠ []) :
    (surround before after ls).length = ls.length := by
  have hlast : ∀ ls : List Text, ls ≠ [] → (appendLast after ls).length = ls.length := by
    intro ls hne
    fun_induction appendLast after ls with
    | case1 => exact absurd rfl hne
    | case2 l => rfl
    | case3 l rest hrest ih =>
      rw [List.length_cons, List.length_cons, ih]
      rintro rfl
      exact absurd rfl hrest
  rw [surround]
  cases ls with
  | nil => exact absurd rfl h
  | cons l rest =>
    rw [hlast _ (by simp [prependFirst])]
    rfl

/-- Lines make a text that ends with a line feed if there are several and the last one is empty. -/
theorem getLast?_joinLines {ls : List Text} (hne : ls ≠ []) (h : ∀ l ∈ ls, IsLine l) :
    (joinLines ls).getLast? = some '\n' ↔ 1 < ls.length ∧ ls.getLast? = some [] := by
  obtain ⟨above, l, rfl⟩ : ∃ above l, ls = above ++ [l] :=
    ⟨_, _, (List.dropLast_concat_getLast hne).symm⟩
  have hlast : l.getLast? ≠ some '\n' := by
    intro hl
    exact (h l (by simp)).lineFeed_not_mem (List.mem_of_getLast? hl)
  cases above with
  | nil => simpa [joinLines_singleton] using hlast
  | cons a above =>
    rw [joinLines_concat (List.cons_ne_nil a above), List.getLast?_append, List.getLast?_concat]
    cases l with
    | nil => simp
    | cons c l =>
      rw [List.getLast?_cons_cons, List.getLast?_cons]
      simpa [List.getLast?_cons] using hlast

end Text

namespace Buffer

/-- The identities of the lines. -/
def ids (b : Buffer) : List LineId := b.lines.map Line.id

/-! ### The identities after a step -/

theorem ids_ofText (t : Text) (profile : Profile) :
    (ofText t profile).ids = (List.range t.lines.length).map some := by
  rw [ids, ofText, ofLines]
  dsimp only
  rw [map_id_rescan, List.map_map]
  apply List.ext_getElem
  · simp
  · intro i h h'
    simp [Line.unscanned]

theorem ids_setProfile (b : Buffer) (profile : Profile) : (b.setProfile profile).ids = b.ids :=
  map_id_rescan _ _ _ _

theorem ids_appendOne (b : Buffer) (id : LineId) (t : Text) :
    (b.appendOne id t).ids = b.ids ++ [id] := by
  rw [ids, appendOne, List.map_append]
  rfl

/-- Whether the line at an empty range is only pushed down by the pieces of text put there. -/
def pushesDown (r : Range) (pieces : List Text) : Bool :=
  r.isEmpty && r.start.col == 0 && pieces.length > 1 && pieces.getLast? == some []

theorem pushesDown_lines_iff {r : Range} {t : Text} :
    pushesDown r t.lines = true ↔
      r.isEmpty = true ∧ r.start.col = 0 ∧ t.withLineFeeds.getLast? = some '\n' := by
  rw [← Text.normalized_eq_withLineFeeds, Text.normalized,
    Text.getLast?_joinLines t.lines_ne_nil fun _ hl => Text.isLine_of_mem_lines hl]
  simp only [pushesDown, Bool.and_eq_true, beq_iff_eq, decide_eq_true_eq, gt_iff_lt, and_assoc]

/-- The lines above and below a range keep their identities when it gives way to pieces of text. -/
theorem ids_replaced {b : Buffer} {r : Range} (hr : b.checkRange r = .ok ()) (kind : ChangeKind)
    (after : Range) {pieces : List Text} (hne : pieces ≠ []) :
    ∃ old, b.ids[r.start.line - 1]? = some old ∧
      (b.replaced kind r after pieces).ids = b.ids.take (r.start.line - 1) ++
        identities b.nextId pieces.length old (pushesDown r pieces) ++
          b.ids.drop r.stop.line := by
  obtain ⟨hstart, hstop, _⟩ := checkRange_eq_ok_iff.mp hr
  obtain ⟨l, hl, _⟩ := hasPoint_iff.mp hstart
  have hget := (line?_eq_some_iff.mp hl).2
  have hlength := Text.length_surround ((b.lines[r.start.line - 1]?.getD b.firstLine).text.take
    r.start.col) ((b.lines[r.stop.line - 1]?.getD b.lastLine).text.drop r.stop.col) hne
  have hcount := mt List.eq_nil_of_length_eq_zero hne
  refine ⟨l.id, by rw [ids, List.getElem?_map, hget]; rfl, ?_⟩
  rw [ids, replaced]
  dsimp only
  rw [List.map_append, map_id_rescan, List.map_append, hlength,
    Line.map_id_unscannedLines _ ((length_identities _ _ _ hcount).trans hlength.symm), hget,
    Option.getD_some, Nat.sub_one_add_one hstop.1, ← List.append_assoc, List.map_take,
    List.map_drop]
  rfl

theorem nextId_replaced (b : Buffer) (kind : ChangeKind) (r after : Range) {pieces : List Text}
    (hne : pieces ≠ []) :
    (b.replaced kind r after pieces).nextId = b.nextId + (pieces.length - 1) := by
  rw [replaced]
  dsimp only
  rw [Text.length_surround _ _ hne]

/-! ### Numbers given out -/

/-- The identities of lines that are new from a number on. -/
def fresh (next count : Nat) : List LineId := (List.range' next count).map some

theorem mem_fresh {next count : Nat} {id : LineId} :
    id ∈ fresh next count ↔ ∃ n, next ≤ n ∧ n < next + count ∧ id = some n := by
  simp only [fresh, List.mem_map, List.mem_range'_1]
  constructor
  · rintro ⟨n, ⟨hle, hlt⟩, rfl⟩
    exact ⟨n, hle, hlt, rfl⟩
  · rintro ⟨n, hle, hlt, rfl⟩
    exact ⟨n, ⟨hle, hlt⟩, rfl⟩

theorem nodup_fresh (next count : Nat) : (fresh next count).Nodup :=
  List.Pairwise.map some (fun _ _ hne h => hne (Option.some.inj h)) List.nodup_range'

theorem identities_eq (next count : Nat) (old : LineId) (pushedDown : Bool) :
    identities next count old pushedDown =
      if pushedDown then fresh next (count - 1) ++ [old] else old :: fresh next (count - 1) := rfl

theorem perm_identities (next count : Nat) (old : LineId) (pushedDown : Bool) :
    (identities next count old pushedDown).Perm (old :: fresh next (count - 1)) := by
  rw [identities_eq]
  cases pushedDown
  · exact .refl _
  · exact List.perm_append_comm

/-- Whether all lines have identities of their own, and all of them numbers given out already. -/
structure IsNumbered (b : Buffer) : Prop where
  nodup : b.ids.Nodup
  lt_nextId : ∀ id ∈ b.ids, ∃ n, n < b.nextId ∧ id = some n

/-- Whether one buffer comes from another: no number has been taken back, and an identity is an old
one or has been given out since. -/
structure ComesFrom (b' b : Buffer) : Prop where
  nextId_le : b.nextId ≤ b'.nextId
  old_or_new : ∀ id ∈ b'.ids, id ∈ b.ids ∨ ∃ n, b.nextId ≤ n ∧ id = some n

theorem ComesFrom.refl (b : Buffer) : b.ComesFrom b := ⟨Nat.le_refl _, fun _ h => .inl h⟩

theorem ComesFrom.trans {b b' b'' : Buffer} (h : b'.ComesFrom b) (h' : b''.ComesFrom b') :
    b''.ComesFrom b where
  nextId_le := Nat.le_trans h.nextId_le h'.nextId_le
  old_or_new := by
    intro id hid
    rcases h'.old_or_new id hid with hid | ⟨n, hle, rfl⟩
    · exact h.old_or_new id hid
    · exact .inr ⟨n, Nat.le_trans h.nextId_le hle, rfl⟩

/-! ### One step -/

theorem isNumbered_ofText (t : Text) (profile : Profile) : (ofText t profile).IsNumbered where
  nodup := by
    rw [ids_ofText, List.range_eq_range']
    exact nodup_fresh 0 _
  lt_nextId := by
    intro id hid
    rw [ids_ofText, List.mem_map] at hid
    obtain ⟨n, hn, rfl⟩ := hid
    exact ⟨n, List.mem_range.mp hn, rfl⟩

theorem mem_ids_replaced {b : Buffer} {r : Range} (hr : b.checkRange r = .ok ())
    (kind : ChangeKind) (after : Range) {pieces : List Text} (hne : pieces ≠ []) {id : LineId}
    (h : id ∈ (b.replaced kind r after pieces).ids) :
    id ∈ b.ids ∨ id ∈ fresh b.nextId (pieces.length - 1) := by
  obtain ⟨old, hold, hids⟩ := ids_replaced hr kind after hne
  rw [hids, List.mem_append, List.mem_append, (perm_identities _ _ _ _).mem_iff,
    List.mem_cons] at h
  rcases h with (h | rfl | h) | h
  · exact .inl (List.mem_of_mem_take h)
  · exact .inl (List.mem_of_getElem? hold)
  · exact .inr h
  · exact .inl (List.mem_of_mem_drop h)

theorem IsNumbered.replaced {b : Buffer} (hb : b.IsNumbered) {r : Range}
    (hr : b.checkRange r = .ok ()) (kind : ChangeKind) (after : Range) {pieces : List Text}
    (hne : pieces ≠ []) : (b.replaced kind r after pieces).IsNumbered where
  nodup := by
    obtain ⟨old, hold, hids⟩ := ids_replaced hr kind after hne
    obtain ⟨hstart, hstop, hle⟩ := checkRange_eq_ok_iff.mp hr
    have hbelow : r.start.line - 1 + 1 ≤ r.stop.line := by
      have := hstart.1
      rcases hle with hlt | ⟨heq, _⟩ <;> omega
    -- the identities kept are some of those there were, in their order
    have hkept :
        (b.ids.take (r.start.line - 1) ++ old :: b.ids.drop r.stop.line).Sublist b.ids := by
      obtain ⟨hlt, hget⟩ := List.getElem?_eq_some_iff.mp hold
      conv => rhs; rw [← List.take_append_drop (r.start.line - 1) b.ids,
        List.drop_eq_getElem_cons hlt, hget]
      exact .append_left (.cons_cons old (List.drop_sublist_drop_left _ hbelow)) _
    have hperm : (b.replaced kind r after pieces).ids.Perm
        ((b.ids.take (r.start.line - 1) ++ old :: b.ids.drop r.stop.line) ++
          fresh b.nextId (pieces.length - 1)) := by
      rw [hids, List.append_assoc, List.append_assoc]
      refine .append_left _ (((perm_identities _ _ _ _).append_right _).trans ?_)
      exact .cons old List.perm_append_comm
    rw [hperm.nodup_iff, List.nodup_append]
    refine ⟨hkept.nodup hb.nodup, nodup_fresh _ _, ?_⟩
    rintro id hid id' hid' rfl
    obtain ⟨n, hlt, rfl⟩ := hb.lt_nextId id (hkept.subset hid)
    obtain ⟨n', hle', _, heq⟩ := mem_fresh.mp hid'
    obtain rfl := Option.some.inj heq
    omega
  lt_nextId := by
    intro id hid
    rw [nextId_replaced b kind r after hne]
    rcases mem_ids_replaced hr kind after hne hid with hid | hid
    · obtain ⟨n, hlt, rfl⟩ := hb.lt_nextId id hid
      exact ⟨n, by omega, rfl⟩
    · obtain ⟨n, _, hlt, rfl⟩ := mem_fresh.mp hid
      exact ⟨n, hlt, rfl⟩

theorem IsNumbered.appendOne {b : Buffer} (hb : b.IsNumbered) (t : Text) :
    ({ b.appendOne (some b.nextId) t with nextId := b.nextId + 1 } : Buffer).IsNumbered where
  nodup := by
    change (b.appendOne (some b.nextId) t).ids.Nodup
    rw [ids_appendOne, List.nodup_append]
    refine ⟨hb.nodup, by simp, ?_⟩
    rintro id hid _ hid' rfl
    obtain ⟨n, hlt, rfl⟩ := hb.lt_nextId id hid
    obtain rfl := Option.some.inj (List.mem_singleton.mp hid')
    omega
  lt_nextId := by
    intro id hid
    change id ∈ (b.appendOne (some b.nextId) t).ids at hid
    rw [ids_appendOne, List.mem_append, List.mem_singleton] at hid
    rcases hid with hid | rfl
    · obtain ⟨n, hlt, rfl⟩ := hb.lt_nextId id hid
      exact ⟨n, Nat.lt_succ_of_lt hlt, rfl⟩
    · exact ⟨b.nextId, Nat.lt_succ_self _, rfl⟩

theorem comesFrom_replaced {b : Buffer} {r : Range} (hr : b.checkRange r = .ok ())
    (kind : ChangeKind) (after : Range) {pieces : List Text} (hne : pieces ≠ []) :
    (b.replaced kind r after pieces).ComesFrom b where
  nextId_le := by
    rw [nextId_replaced b kind r after hne]
    exact Nat.le_add_right _ _
  old_or_new := by
    intro id hid
    rcases mem_ids_replaced hr kind after hne hid with hid | hid
    · exact .inl hid
    · obtain ⟨n, hle, _, rfl⟩ := mem_fresh.mp hid
      exact .inr ⟨n, hle, rfl⟩

theorem comesFrom_appendOne (b : Buffer) (t : Text) :
    ({ b.appendOne (some b.nextId) t with nextId := b.nextId + 1 } : Buffer).ComesFrom b where
  nextId_le := Nat.le_succ _
  old_or_new := by
    intro id hid
    change id ∈ (b.appendOne (some b.nextId) t).ids at hid
    rw [ids_appendOne, List.mem_append, List.mem_singleton] at hid
    rcases hid with hid | rfl
    · exact .inl hid
    · exact .inr ⟨b.nextId, Nat.le_refl _, rfl⟩

/-! ### Runs -/

theorem Reachable.isNumbered {b : Buffer} (reached : b.Reachable) : b.IsNumbered := by
  apply reached.induct isNumbered_ofText
  · intro b kind r after t hb hr
    exact hb.replaced hr kind after t.lines_ne_nil
  · intro b t hb _
    exact hb.appendOne t
  · intro b profile hb
    exact ⟨ids_setProfile b profile ▸ hb.nodup, ids_setProfile b profile ▸ hb.lt_nextId⟩
  · intro b s hb
    exact ⟨hb.nodup, hb.lt_nextId⟩
  · intro b hb
    exact ⟨hb.nodup, hb.lt_nextId⟩

theorem comesFrom_after (b : Buffer) (c : BufferCall) : (b.after c).ComesFrom b := by
  apply after_induct (motive := fun b' => b'.ComesFrom b) c (.refl b)
  · intro b' kind r after t hb' hr
    exact hb'.trans (comesFrom_replaced hr kind after t.lines_ne_nil)
  · intro b' t hb' _
    exact hb'.trans (comesFrom_appendOne b' t)
  · intro b' profile hb'
    exact ⟨hb'.nextId_le, ids_setProfile b' profile ▸ hb'.old_or_new⟩
  · intro b' s hb'
    exact ⟨hb'.nextId_le, hb'.old_or_new⟩

theorem comesFrom_run (b : Buffer) (calls : List BufferCall) : (b.run calls).ComesFrom b := by
  induction calls generalizing b with
  | nil => exact .refl b
  | cons c calls ih => exact (comesFrom_after b c).trans (ih (b.after c))

/-- An identity given out has a number below all that are given out later. -/
theorem IsNumbered.lt_of_comesFrom {b b' : Buffer} (hb : b.IsNumbered) (h : b'.ComesFrom b)
    {n : Nat} (hn : some n ∈ b.ids) : n < b'.nextId := by
  obtain ⟨m, hlt, heq⟩ := hb.lt_nextId (some n) hn
  obtain rfl := Option.some.inj heq
  exact Nat.lt_of_lt_of_le hlt h.nextId_le

/-- **Lines keep their identity.**  In every buffer reached each line has an identity of its own.
One that was there and has gone is not there again, whatever is called later.  An edit that changes
the text leaves the identities of the lines above and below its range as they are; of the lines it
leaves between them one carries on the identity of the first line of the range, the last one if the
range is empty, at the start of the line, and the text put there ends with a line break, and the
first one otherwise; the identities of the others have not been in the buffer at any time before. -/
theorem Reachable.ids_persist {b : Buffer} (reached : b.Reachable) (calls : List BufferCall) :
    let b' := b.run calls
    (b'.ids.Nodup ∧ none ∉ b'.ids) ∧
    (∀ id later, id ∈ b.ids → id ∉ b'.ids → id ∉ (b'.run later).ids) ∧
    ∀ q e b'', b'.edit q = (.ok e, b'') → e.changed = true →
      ∃ old new, b'.ids[q.range.start.line - 1]? = some old ∧
        new.length + 1 = q.text.lines.length ∧
        b''.ids = b'.ids.take (q.range.start.line - 1) ++
          (if q.range.isEmpty ∧ q.range.start.col = 0 ∧ q.text.withLineFeeds.getLast? = some '\n'
            then new ++ [old] else old :: new) ++ b'.ids.drop q.range.stop.line ∧
        ∀ id ∈ new, ∀ earlier, earlier <+: calls → id ∉ (b.run earlier).ids := by
  intro b'
  have hb' : b'.IsNumbered := (reached.run calls).isNumbered
  refine ⟨⟨hb'.nodup, ?_⟩, ?_, ?_⟩
  · intro hnone
    obtain ⟨n, _, heq⟩ := hb'.lt_nextId none hnone
    cases heq
  · intro id later hid hgone hback
    -- what is there later is old or has a number given out since
    rcases (comesFrom_run b' later).old_or_new id hback with hold | ⟨n, hle, rfl⟩
    · exact hgone hold
    · have hlt := reached.isNumbered.lt_of_comesFrom (comesFrom_run b calls) hid
      exact absurd hle (Nat.not_le_of_lt hlt)
  · intro q e b'' hedit hchanged
    have hcheck := checkRange_of_edit hedit
    rcases edit_cases hedit with ⟨hsame, _⟩ | ⟨_, rfl⟩
    · rw [hchanged] at hsame
      cases hsame
    obtain ⟨old, hold, hids⟩ := ids_replaced hcheck q.kind
      ⟨q.range.start, q.range.start.advance q.text.normalized⟩ q.text.lines_ne_nil
    have hlength := List.length_pos_iff.mpr q.text.lines_ne_nil
    refine ⟨old, fresh b'.nextId (q.text.lines.length - 1), hold, ?_, ?_, ?_⟩
    · simp only [fresh, List.length_map, List.length_range']
      omega
    · rw [hids, identities_eq]
      simp only [pushesDown_lines_iff]
    · rintro id hid earlier ⟨others, rfl⟩ hused
      obtain ⟨n, hle, _, rfl⟩ := mem_fresh.mp hid
      have hcomes : b'.ComesFrom (b.run earlier) := by
        rw [show b' = (b.run earlier).run others from run_append b earlier others]
        exact comesFrom_run _ _
      have hlt := (reached.run earlier).isNumbered.lt_of_comesFrom hcomes hused
      exact absurd hle (Nat.not_le_of_lt hlt)

/-- Two lines become one, and then a line is pushed down by a text put in front of it. -/
theorem ids_persist_of_joined_lines :
    let b := Buffer.ofText ['a', '\n', 'b', '\n', 'c'] .plainText
    let calls : List BufferCall := [.edit (.delete ⟨⟨1, 1⟩, ⟨2, 1⟩⟩)]
    let q : EditRequest := .insert ⟨2, 0⟩ ['x', '\r', '\n']
    b.Reachable ∧ some 1 ∈ b.ids ∧ some 1 ∉ (b.run calls).ids ∧
      some 1 ∉ ((b.run calls).run [.append ['d']]).ids ∧
      ∃ e b'' id, (b.run calls).edit q = (.ok e, b'') ∧ e.changed = true ∧
        b''.ids = [some 0, id, some 2] ∧ id ∉ b.ids := by
  intro b calls q
  have reached : b.Reachable := .ofText _ _
  have hthere : some 1 ∈ b.ids := by decide
  have hgone : some 1 ∉ (b.run calls).ids := by decide
  obtain ⟨e, b'', hedit, hchanged⟩ :
      ∃ e b'', (b.run calls).edit q = (.ok e, b'') ∧ e.changed = true := ⟨_, _, rfl, rfl⟩
  obtain ⟨_, hretired, hedited⟩ := reached.ids_persist calls
  obtain ⟨old, new, hold, hlength, hids, hnew⟩ := hedited q e b'' hedit hchanged
  obtain ⟨id, rfl⟩ := List.length_eq_one_iff.mp (Nat.succ.inj hlength)
  have hkept : (b.run calls).ids = [some 0, some 2] := by decide
  rw [hkept] at hold hids
  obtain rfl : some 2 = old := Option.some.inj hold
  refine ⟨reached, hthere, hgone, hretired _ _ hthere hgone, e, b'', id, hedit, hchanged, ?_, ?_⟩
  · exact hids.trans (by rfl)
  · exact hnew id (by simp) [] List.nil_prefix

end Buffer

end SourceEditor
