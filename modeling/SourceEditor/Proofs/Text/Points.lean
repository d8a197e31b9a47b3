/-
  SourceEditor/Proofs/Text/Points.lean
  ====================================
  **Points against texts.**  A point of some lines cuts them in two, and with them the text they
  are joined to: into the text before the point and the text from it on.  Typing the text before
  it at the start leads to the point again, so points and the places of a text are the same thing.
  A range cuts out the lines between the two cuts.
-/
import SourceEditor.Point
import SourceEditor.Proofs.Text.Lines

namespace SourceEditor

/-! ### The order of points -/

namespace Point

theorem le_iff {p q : Point} :
    p ≤ q ↔ p.line < q.line ∨ (p.line = q.line ∧ p.col ≤ q.col) := Iff.rfl

theorem lt_iff {p q : Point} :
    p < q ↔ p.line < q.line ∨ (p.line = q.line ∧ p.col < q.col) := Iff.rfl

theorem lt_trichotomy (p q : Point) : p < q ∨ p = q ∨ q < p := by
  rw [lt_iff, lt_iff, mk.injEq]
  omega

theorem not_le {p q : Point} : ¬p ≤ q ↔ q < p := by
  rw [le_iff, lt_iff]
  omega

theorem lt_irrefl (p : Point) : ¬p < p := by
  rw [lt_iff]
  omega

theorem lt_asymm {p q : Point} (h : p < q) : ¬q < p := by
  rw [lt_iff] at *
  omega

theorem le_of_lt {p q : Point} (h : p < q) : p ≤ q := by
  rw [lt_iff] at h
  rw [le_iff]
  omega

theorem le_refl (p : Point) : p ≤ p := .inr ⟨rfl, Nat.le_refl _⟩

theorem le_trans {p q s : Point} (h : p ≤ q) (h' : q ≤ s) : p ≤ s := by
  rw [le_iff] at *
  omega

/-! ### Typing -/

/-- Typing two texts one after the other is typing the two in one. -/
theorem advance_append (p : Point) (s t : Text) : p.advance (s ++ t) = (p.advance s).advance t := by
  induction s generalizing p with
  | nil => rfl
  | cons c s ih =>
    simp only [List.cons_append, advance]
    split <;> exact ih _

theorem advance_of_not_mem (p : Point) {t : Text} (h : '\n' ∉ t) :
    p.advance t = ⟨p.line, p.col + t.length⟩ := by
  induction t generalizing p with
  | nil => rfl
  | cons c t ih =>
    have hc : c ≠ '\n' := fun hc => h (by simp [hc])
    rw [advance, if_neg hc, ih _ fun ht => h (List.mem_cons_of_mem c ht)]
    simp only [List.length_cons, Point.mk.injEq, true_and]
    omega

theorem advance_line (p : Point) (t : Text) : (p.advance t).line = p.line + t.count '\n' := by
  induction t generalizing p with
  | nil => rfl
  | cons c t ih =>
    rw [advance]
    split
    · rename_i hc
      rw [ih, hc, List.count_cons_self]
      simp only
      omega
    · rename_i hc
      rw [ih, List.count_cons_of_ne hc]

/-- The column reached depends on where typing began only up to the first line break. -/
theorem advance_col_congr {p q : Point} {t : Text} (h : p.col = q.col ∨ '\n' ∈ t) :
    (p.advance t).col = (q.advance t).col := by
  induction t generalizing p q with
  | nil => exact h.resolve_right (List.not_mem_nil)
  | cons c t ih =>
    rw [advance, advance]
    split
    · exact ih (.inl rfl)
    · rename_i hc
      apply ih
      rcases h with h | h
      · exact .inl (congrArg (· + 1) h)
      · exact .inr ((List.mem_cons.mp h).resolve_left fun h => hc h.symm)

theorem le_advance (p : Point) (t : Text) : p ≤ p.advance t := by
  induction t generalizing p with
  | nil => exact .inr ⟨rfl, Nat.le_refl _⟩
  | cons c t ih =>
    rw [advance]
    split
    · rcases ih ⟨p.line + 1, 0⟩ with h | ⟨h, _⟩ <;> exact .inl (by simp only at h; omega)
    · rcases ih ⟨p.line, p.col + 1⟩ with h | ⟨h, hcol⟩
      · exact .inl h
      · exact .inr ⟨h, by simp only at hcol; omega⟩

/-- Typing lines leads as many lines down as there are line breaks between them, and on the last
line as far as that is long. -/
theorem advance_joinLines (p : Point) {above : List Text} {l : Text}
    (h : ∀ m ∈ above ++ [l], m.IsLine) (hne : above ≠ []) :
    p.advance (.joinLines (above ++ [l])) = ⟨p.line + above.length, l.length⟩ := by
  induction above generalizing p with
  | nil => exact absurd rfl hne
  | cons a above ih =>
    have ha := (h a (by simp)).lineFeed_not_mem
    rw [List.cons_append, Text.joinLines_cons (by simp), advance_append, advance_of_not_mem p ha,
      advance, if_pos rfl]
    cases above with
    | nil =>
      have hl := (h l (by simp)).lineFeed_not_mem
      rw [List.nil_append, Text.joinLines_singleton, advance_of_not_mem _ hl]
      simp
    | cons a' above =>
      rw [ih _ (fun m hm => h m (List.mem_cons_of_mem a hm)) (List.cons_ne_nil _ _)]
      simp only [List.length_cons, Point.mk.injEq, and_true]
      omega

/-- The point with the given text in front of it. -/
def behind (before : Text) : Point := advance ⟨1, 0⟩ before

theorem behind_append (s t : Text) : behind (s ++ t) = (behind s).advance t :=
  advance_append _ s t

theorem behind_le_behind_append (s t : Text) : behind s ≤ behind (s ++ t) := by
  rw [behind_append]
  exact le_advance _ t

theorem behind_joinLines {above : List Text} {l : Text} (h : ∀ m ∈ above ++ [l], m.IsLine) :
    behind (.joinLines (above ++ [l])) = ⟨above.length + 1, l.length⟩ := by
  cases above with
  | nil =>
    have hl := (h l (by simp)).lineFeed_not_mem
    rw [behind, List.nil_append, Text.joinLines_singleton, advance_of_not_mem _ hl]
    simp
  | cons a above =>
    rw [behind, advance_joinLines _ h (List.cons_ne_nil _ _)]
    simp only [Point.mk.injEq, and_true]
    omega

end Point

namespace Text

/-! ### Cutting lines at a point -/

/-- Whether some lines have a point: the line exists, and is as long as the column at least. -/
def HasPoint (ls : List Text) (p : Point) : Prop :=
  p.line ≠ 0 ∧ ∃ l, ls[p.line - 1]? = some l ∧ p.col ≤ l.length

/-- The lines up to a point, the last one cut there. -/
def upTo (ls : List Text) (p : Point) : List Text :=
  ls.take (p.line - 1) ++ [(ls[p.line - 1]?.getD []).take p.col]

/-- The lines from a point on, the first one cut there. -/
def onFrom (ls : List Text) (p : Point) : List Text :=
  (ls[p.line - 1]?.getD []).drop p.col :: ls.drop p.line

theorem upTo_ne_nil (ls : List Text) (p : Point) : upTo ls p ≠ [] := by simp [upTo]

theorem onFrom_ne_nil (ls : List Text) (p : Point) : onFrom ls p ≠ [] := by simp [onFrom]

theorem glue_upTo_onFrom {ls : List Text} {p : Point} (h : HasPoint ls p) :
    glue (upTo ls p) (onFrom ls p) = ls := by
  obtain ⟨hline, l, hl, _⟩ := h
  obtain ⟨hlt, hget⟩ := List.getElem?_eq_some_iff.mp hl
  have hdrop : ls.drop (p.line - 1) = l :: ls.drop p.line := by
    rw [List.drop_eq_getElem_cons hlt, hget, Nat.sub_one_add_one hline]
  rw [upTo, onFrom, glue_append_cons, hl, Option.getD_some, List.take_append_drop, ← hdrop,
    List.take_append_drop]

/-- A point cuts the text in two. -/
theorem joinLines_eq_append {ls : List Text} {p : Point} (h : HasPoint ls p) :
    joinLines ls = joinLines (upTo ls p) ++ joinLines (onFrom ls p) := by
  rw [← joinLines_glue (upTo_ne_nil ls p) (onFrom_ne_nil ls p), glue_upTo_onFrom h]

theorem isLine_of_mem_upTo {ls : List Text} (hls : ∀ l ∈ ls, IsLine l) {p : Point} {l : Text}
    (h : l ∈ upTo ls p) : IsLine l := by
  rcases List.mem_append.mp h with h | h
  · exact hls l (List.mem_of_mem_take h)
  · rw [List.mem_singleton.mp h]
    rcases hget : ls[p.line - 1]? with _ | m
    · exact (isLine_nil).take _
    · exact (hls m (List.mem_of_getElem? hget)).take _

theorem isLine_of_mem_onFrom {ls : List Text} (hls : ∀ l ∈ ls, IsLine l) {p : Point} {l : Text}
    (h : l ∈ onFrom ls p) : IsLine l := by
  rcases List.mem_cons.mp h with rfl | h
  · rcases hget : ls[p.line - 1]? with _ | m
    · exact (isLine_nil).drop _
    · exact (hls m (List.mem_of_getElem? hget)).drop _
  · exact hls l (List.mem_of_mem_drop h)

/-- Typing the text before a point leads to the point. -/
theorem behind_joinLines_upTo {ls : List Text} (hls : ∀ l ∈ ls, IsLine l) {p : Point}
    (h : HasPoint ls p) : Point.behind (joinLines (upTo ls p)) = p := by
  have hlines : ∀ m ∈ upTo ls p, m.IsLine := fun m hm => isLine_of_mem_upTo hls hm
  obtain ⟨hline, l, hl, hcol⟩ := h
  obtain ⟨hlt, _⟩ := List.getElem?_eq_some_iff.mp hl
  rw [upTo, Point.behind_joinLines hlines, List.length_take, hl, Option.getD_some,
    List.length_take, Nat.min_eq_left (Nat.le_of_lt hlt), Nat.min_eq_left hcol,
    Nat.sub_one_add_one hline]

/-- Every place of the text is that of a point: the one that the text before the place leads to. -/
theorem exists_upTo_eq {ls : List Text} (hne : ls ≠ []) (hls : ∀ l ∈ ls, IsLine l) {s t : Text}
    (h : joinLines ls = s ++ t) :
    HasPoint ls (.behind s) ∧ joinLines (upTo ls (.behind s)) = s := by
  have hreturn : '\r' ∉ s ++ t := h ▸ return_not_mem_joinLines hls
  have hs : '\r' ∉ s := fun hs => hreturn (List.mem_append_left t hs)
  have hlines : ls = glue (lines s) (lines t) := by
    rw [← lines_append hs, ← h, lines_joinLines hne hls]
  obtain ⟨above, l, hab⟩ : ∃ above l, lines s = above ++ [l] :=
    ⟨_, _, (List.dropLast_concat_getLast (lines_ne_nil s)).symm⟩
  obtain ⟨m, below, hmb⟩ := List.exists_cons_of_ne_nil (lines_ne_nil t)
  have hjoin : joinLines (above ++ [l]) = s := by rw [← hab, joinLines_lines hs]
  have hbehind : Point.behind s = ⟨above.length + 1, l.length⟩ := by
    rw [← hjoin]
    exact Point.behind_joinLines fun m hm => isLine_of_mem_lines (hab ▸ hm)
  have hget : ls[above.length]? = some (l ++ m) := by
    rw [hlines, hab, hmb, glue_append_cons]
    simp
  constructor
  · rw [hbehind]
    exact ⟨by simp, l ++ m, hget, by simp⟩
  · rw [hbehind, upTo]
    simp only [Nat.add_sub_cancel, hget, Option.getD_some]
    rw [List.take_left, hlines, hab, hmb, glue_append_cons, List.take_left, hjoin]

/-! ### Cutting out a range -/

/-- The lines that a range touches, cut at its ends. -/
def cutOut (ls : List Text) (r : Range) : List Text :=
  dropFirst r.start.col
    (takeLast r.stop.col ((ls.drop (r.start.line - 1)).take r.lineCount))

theorem takeLast_append_singleton (n : Nat) (ls : List Text) (l : Text) :
    takeLast n (ls ++ [l]) = ls ++ [l.take n] := by
  induction ls with
  | nil => rfl
  | cons a ls ih =>
    cases ls with
    | nil => rfl
    | cons b ls => rw [List.cons_append, List.cons_append, takeLast, ← List.cons_append, ih] <;> simp

/-- What a range cuts out and the lines from its end on make the lines from its start on. -/
theorem glue_cutOut_onFrom {ls : List Text} {r : Range} (hstart : HasPoint ls r.start)
    (hstop : HasPoint ls r.stop) (hle : r.start ≤ r.stop) :
    cutOut ls r ≠ [] ∧ glue (cutOut ls r) (onFrom ls r.stop) = onFrom ls r.start := by
  obtain ⟨hline, l, hl, hcol⟩ := hstart
  obtain ⟨hline', l', hl', hcol'⟩ := hstop
  obtain ⟨hlt, hget⟩ := List.getElem?_eq_some_iff.mp hl
  obtain ⟨hlt', hget'⟩ := List.getElem?_eq_some_iff.mp hl'
  have hdrop : ls.drop (r.start.line - 1) = l :: ls.drop r.start.line := by
    rw [List.drop_eq_getElem_cons hlt, hget, Nat.sub_one_add_one hline]
  simp only [cutOut, onFrom, hl, hl', Option.getD_some, hdrop, Range.lineCount]
  rcases hle with hlines | ⟨hlines, hcols⟩
  · -- the range ends on a line further down
    obtain ⟨k, hk⟩ : ∃ k, r.stop.line = r.start.line + k + 1 :=
      ⟨r.stop.line - r.start.line - 1, by omega⟩
    have htake : (ls.drop r.start.line).take (k + 1) = (ls.drop r.start.line).take k ++ [l'] := by
      rw [List.take_add_one, List.getElem?_drop]
      have : r.start.line + k = r.stop.line - 1 := by omega
      rw [this, hl']
      rfl
    have hcount : r.stop.line - r.start.line + 1 = k + 1 + 1 := by omega
    rw [hcount, List.take_succ_cons, htake, ← List.cons_append, takeLast_append_singleton,
      List.cons_append, dropFirst, ← List.cons_append, glue_append_cons]
    refine ⟨by simp, ?_⟩
    rw [List.take_append_drop, List.cons_append]
    have hrest : l' :: ls.drop r.stop.line = (ls.drop r.start.line).drop k := by
      have hidx : r.start.line + k = r.stop.line - 1 := by omega
      rw [List.drop_drop, hidx, List.drop_eq_getElem_cons hlt', hget', Nat.sub_one_add_one hline']
    rw [hrest, List.take_append_drop]
  · -- the range ends on the line where it starts
    have hsame : l' = l := by
      rw [← hlines, hl] at hl'
      exact (Option.some.inj hl').symm
    subst hsame
    have hcount : r.stop.line - r.start.line + 1 = 0 + 1 := by omega
    rw [hcount, List.take_succ_cons, List.take_zero, takeLast, dropFirst]
    refine ⟨by simp, ?_⟩
    have hsplit : (l'.take r.stop.col).drop r.start.col ++ l'.drop r.stop.col =
        l'.drop r.start.col := by
      conv => rhs; rw [← List.take_append_drop r.stop.col l']
      rw [List.drop_append_of_le_length]
      rw [List.length_take]
      omega
    rw [glue, prependFirst, hsplit, hlines]

/-! ### The line around a place -/

/-- The part of a text on its last line. -/
def lastPart (t : Text) : Text := (t.reverse.takeWhile (· ≠ '\n')).reverse

theorem lastPart_append_of_not_mem (s : Text) {t : Text} (h : '\n' ∉ t) :
    lastPart (s ++ t) = lastPart s ++ t := by
  rw [lastPart, List.reverse_append, List.takeWhile_append_of_pos, List.reverse_append,
    List.reverse_reverse, lastPart]
  intro c hc
  have hne : c ≠ '\n' := by
    rintro rfl
    exact h (List.mem_reverse.mp hc)
  simpa using hne

theorem lastPart_append_feed (s t : Text) : lastPart (s ++ '\n' :: t) = lastPart t := by
  rw [lastPart, lastPart, List.reverse_append, List.reverse_cons, List.append_assoc,
    List.takeWhile_append]
  split
  · rename_i hlength
    rw [(List.takeWhile_prefix _).eq_of_length hlength]
    simp
  · rfl

/-- A text with a line break ends on a line of its own, whatever stands before it. -/
theorem lastPart_append_of_mem (s : Text) {t : Text} (h : '\n' ∈ t) :
    lastPart (s ++ t) = lastPart t := by
  obtain ⟨before, behind, rfl⟩ := List.append_of_mem h
  rw [← List.append_assoc, lastPart_append_feed, lastPart_append_feed]

theorem lastPart_of_not_mem {l : Text} (h : '\n' ∉ l) : lastPart l = l :=
  lastPart_append_of_not_mem [] h

theorem feed_not_mem_lastPart (t : Text) : '\n' ∉ lastPart t := by
  intro hmem
  have hall := List.all_eq_true.mp (List.all_takeWhile (l := t.reverse)) _ (List.mem_reverse.mp hmem)
  simp at hall

theorem lastPart_lastPart_append (s t : Text) : lastPart (lastPart s ++ t) = lastPart (s ++ t) := by
  by_cases h : '\n' ∈ t
  · rw [lastPart_append_of_mem _ h, lastPart_append_of_mem _ h]
  · rw [lastPart_append_of_not_mem _ h, lastPart_append_of_not_mem _ h,
      lastPart_of_not_mem (feed_not_mem_lastPart s)]

theorem lastPart_joinLines (above : List Text) {l : Text} (h : l.IsLine) :
    lastPart (joinLines (above ++ [l])) = l := by
  induction above with
  | nil => rw [List.nil_append, joinLines_singleton, lastPart_of_not_mem h.lineFeed_not_mem]
  | cons a above ih => rw [List.cons_append, joinLines_cons (by simp), lastPart_append_feed, ih]

/-- The part of a text on its first line. -/
def firstPart (t : Text) : Text := t.takeWhile (· ≠ '\n')

theorem firstPart_append {l : Text} (h : '\n' ∉ l) (t : Text) :
    firstPart (l ++ t) = l ++ firstPart t := by
  apply List.takeWhile_append_of_pos
  intro c hc
  have hne : c ≠ '\n' := by
    rintro rfl
    exact h hc
  simpa using hne

theorem firstPart_of_not_mem {l : Text} (h : '\n' ∉ l) : firstPart l = l := by
  have happend := firstPart_append h []
  have hnil : firstPart [] = [] := rfl
  rwa [hnil, List.append_nil] at happend

theorem firstPart_append_feed {l : Text} (h : '\n' ∉ l) (t : Text) :
    firstPart (l ++ '\n' :: t) = l := by
  rw [firstPart_append h]
  simp [firstPart]

theorem feed_not_mem_firstPart (t : Text) : '\n' ∉ firstPart t := by
  intro hmem
  have hall := List.all_eq_true.mp (List.all_takeWhile (l := t)) _ hmem
  simp at hall

theorem firstPart_prefix (t : Text) : firstPart t <+: t := List.takeWhile_prefix _

theorem firstPart_prefix_append (t u : Text) : firstPart t <+: firstPart (t ++ u) := by
  rw [firstPart, firstPart, List.takeWhile_append]
  split
  · exact (List.takeWhile_prefix _).trans (List.prefix_append t _)
  · exact List.prefix_refl _

/-- Two places in a text cut it in three. -/
theorem exists_cut (t : Text) {i j : Nat} (hle : i ≤ j) (hj : j ≤ t.length) :
    ∃ g w v, t = g ++ w ++ v ∧ g.length = i ∧ (g ++ w).length = j := by
  refine ⟨t.take i, (t.take j).drop i, t.drop j, ?_, ?_, ?_⟩
  · have htake : t.take i = (t.take j).take i := by rw [List.take_take, Nat.min_eq_left hle]
    rw [htake, List.take_append_drop, List.take_append_drop]
  · rw [List.length_take]
    omega
  · simp only [List.length_append, List.length_take, List.length_drop]
    omega

theorem firstPart_joinLines {l : Text} (h : l.IsLine) (rest : List Text) :
    firstPart (joinLines (l :: rest)) = l := by
  cases rest with
  | nil => rw [joinLines_singleton, firstPart_of_not_mem h.lineFeed_not_mem]
  | cons l' rest =>
    rw [joinLines_cons (List.cons_ne_nil _ _), firstPart_append_feed h.lineFeed_not_mem]

end Text

end SourceEditor
