/-
  SourceEditor/Proofs/Text/Lines.lean
  ===================================
  **Texts against their lines.**  Splitting a text into lines and joining lines to a text are
  inverse to each other as long as the text holds no carriage return and the lines hold no line
  break.  The second view of a text that the laws of editing need is that of lines glued together:
  where two texts meet, the last line of the first and the first line of the second become one.
-/
import SourceEditor.Text.Lines

namespace SourceEditor.Text

/-! ### Joining -/

@[simp] theorem joinLines_singleton (l : Text) : joinLines [l] = l := by
  simp [joinLines]

theorem joinLines_cons {l : Text} {rest : List Text} (h : rest ≠ []) :
    joinLines (l :: rest) = l ++ '\n' :: joinLines rest := by
  simp [joinLines, List.intercalate_cons_of_ne_nil h]

theorem joinLines_concat {above : List Text} (h : above ≠ []) (l : Text) :
    joinLines (above ++ [l]) = joinLines above ++ '\n' :: l := by
  induction above with
  | nil => exact absurd rfl h
  | cons a above ih =>
    rw [List.cons_append, joinLines_cons (by simp)]
    cases above with
    | nil => rw [List.nil_append, joinLines_singleton, joinLines_singleton]
    | cons a' above =>
      rw [ih (List.cons_ne_nil _ _), joinLines_cons (List.cons_ne_nil _ _), List.append_assoc,
        List.cons_append]

theorem joinLines_consFirst (c : Char) {ls : List Text} (h : ls ≠ []) :
    joinLines (consFirst c ls) = c :: joinLines ls := by
  cases ls with
  | nil => exact absurd rfl h
  | cons l rest =>
    cases rest with
    | nil => rfl
    | cons l' rest => simp [consFirst, joinLines_cons]

/-! ### Gluing -/

/-- The lines of two texts written one behind the other: the last line of the first and the first
line of the second become one line. -/
def glue : List Text → List Text → List Text
  | [], second => second
  | [l], second => prependFirst l second
  | l :: rest, second => l :: glue rest second

theorem glue_cons {l : Text} {first : List Text} (h : first ≠ []) (second : List Text) :
    glue (l :: first) second = l :: glue first second := by
  cases first with
  | nil => exact absurd rfl h
  | cons l' rest => rfl

theorem glue_ne_nil {first : List Text} (h : first ≠ []) (second : List Text) :
    glue first second ≠ [] := by
  cases first with
  | nil => exact absurd rfl h
  | cons l rest =>
    cases rest with
    | nil => cases second <;> simp [glue, prependFirst]
    | cons l' rest => simp [glue]

/-- Lines glued together are joined to the two texts one behind the other. -/
theorem joinLines_glue {first second : List Text} (hfirst : first ≠ []) (hsecond : second ≠ []) :
    joinLines (glue first second) = joinLines first ++ joinLines second := by
  induction first with
  | nil => exact absurd rfl hfirst
  | cons l rest ih =>
    cases rest with
    | nil =>
      cases second with
      | nil => exact absurd rfl hsecond
      | cons m more =>
        cases more with
        | nil => simp [glue, prependFirst]
        | cons m' more => simp [glue, prependFirst, joinLines_cons]
    | cons l' rest =>
      have hrest : l' :: rest ≠ [] := List.cons_ne_nil _ _
      rw [glue_cons hrest, joinLines_cons (glue_ne_nil hrest _), ih hrest, joinLines_cons hrest]
      simp

theorem glue_append_cons (above : List Text) (l m : Text) (below : List Text) :
    glue (above ++ [l]) (m :: below) = above ++ (l ++ m) :: below := by
  induction above with
  | nil => rfl
  | cons a above ih =>
    rw [List.cons_append, glue_cons (by simp), ih, List.cons_append]

theorem glue_assoc {first second third : List Text} (h : second ≠ []) :
    glue (glue first second) third = glue first (glue second third) := by
  induction first with
  | nil => rfl
  | cons l rest ih =>
    cases rest with
    | nil =>
      cases second with
      | nil => exact absurd rfl h
      | cons m more =>
        cases more with
        | nil => cases third <;> simp [glue, prependFirst]
        | cons m' more => simp [glue, prependFirst]
    | cons l' rest =>
      have hrest : l' :: rest ≠ [] := List.cons_ne_nil _ _
      rw [glue_cons hrest, glue_cons hrest, glue_cons (glue_ne_nil hrest _), ih]

theorem append_glue (above : List Text) {first : List Text} (h : first ≠ []) (second : List Text) :
    above ++ glue first second = glue (above ++ first) second := by
  induction above with
  | nil => rfl
  | cons a above ih =>
    rw [List.cons_append, List.cons_append, ih, glue_cons (List.append_ne_nil_of_right_ne_nil _ h)]

theorem glue_append (first : List Text) {second : List Text} (h : second ≠ [])
    (below : List Text) : glue first second ++ below = glue first (second ++ below) := by
  obtain ⟨m, more, rfl⟩ := List.exists_cons_of_ne_nil h
  induction first with
  | nil => rfl
  | cons l rest ih =>
    cases rest with
    | nil => rfl
    | cons l' rest =>
      have hrest : l' :: rest ≠ [] := List.cons_ne_nil _ _
      rw [glue_cons hrest, glue_cons hrest, List.cons_append, ih]

theorem prependFirst_eq_glue (before : Text) (ls : List Text) :
    prependFirst before ls = glue [before] ls := rfl

theorem appendLast_eq_glue (after : Text) {ls : List Text} (h : ls ≠ []) :
    appendLast after ls = glue ls [after] := by
  induction ls with
  | nil => exact absurd rfl h
  | cons l rest ih =>
    cases rest with
    | nil => rfl
    | cons l' rest =>
      rw [glue_cons (List.cons_ne_nil _ _), ← ih (List.cons_ne_nil _ _)]
      rfl

theorem surround_eq_glue (before after : Text) {ls : List Text} (h : ls ≠ []) :
    surround before after ls = glue [before] (glue ls [after]) := by
  rw [surround, prependFirst_eq_glue, appendLast_eq_glue after (glue_ne_nil (by simp) _),
    glue_assoc h]

/-! ### Lines without line breaks -/

/-- Whether a text is a single line: it holds no line break. -/
def IsLine (t : Text) : Prop := ∀ c ∈ t, isLineBreak c = false

theorem isLine_nil : IsLine [] := by
  intro c h
  cases h

theorem IsLine.cons {c : Char} {t : Text} (hc : isLineBreak c = false) (ht : IsLine t) :
    IsLine (c :: t) := by
  intro d hd
  rcases List.mem_cons.mp hd with rfl | hd
  · exact hc
  · exact ht d hd

theorem IsLine.append {s t : Text} (hs : IsLine s) (ht : IsLine t) : IsLine (s ++ t) := by
  intro c hc
  rcases List.mem_append.mp hc with hc | hc
  · exact hs c hc
  · exact ht c hc

theorem IsLine.sublist {s t : Text} (ht : IsLine t) (h : s.Sublist t) : IsLine s :=
  fun c hc => ht c (h.subset hc)

theorem IsLine.take {t : Text} (h : IsLine t) (n : Nat) : IsLine (t.take n) :=
  h.sublist (List.take_sublist n t)

theorem IsLine.drop {t : Text} (h : IsLine t) (n : Nat) : IsLine (t.drop n) :=
  h.sublist (List.drop_sublist n t)

theorem isLine_of_mem_glue {first second : List Text} (hfirst : ∀ l ∈ first, IsLine l)
    (hsecond : ∀ l ∈ second, IsLine l) {l : Text} (h : l ∈ glue first second) : IsLine l := by
  induction first with
  | nil => exact hsecond l h
  | cons a rest ih =>
    have ha := hfirst a (by simp)
    cases rest with
    | nil =>
      cases second with
      | nil => exact (List.mem_singleton.mp h) ▸ ha
      | cons m more =>
        rcases List.mem_cons.mp h with rfl | h
        · exact ha.append (hsecond m (by simp))
        · exact hsecond l (List.mem_cons_of_mem m h)
    | cons a' rest =>
      rw [glue_cons (List.cons_ne_nil _ _)] at h
      rcases List.mem_cons.mp h with rfl | h
      · exact ha
      · exact ih (fun m hm => hfirst m (List.mem_cons_of_mem a hm)) h

theorem IsLine.lineFeed_not_mem {t : Text} (h : IsLine t) : '\n' ∉ t := by
  intro hmem
  exact absurd (h _ hmem) (by decide)

theorem IsLine.return_not_mem {t : Text} (h : IsLine t) : '\r' ∉ t := by
  intro hmem
  exact absurd (h _ hmem) (by decide)

theorem isLine_iff (t : Text) : IsLine t ↔ '\n' ∉ t ∧ '\r' ∉ t := by
  constructor
  · intro h
    exact ⟨h.lineFeed_not_mem, h.return_not_mem⟩
  · intro ⟨hfeed, hreturn⟩ c hc
    simp only [isLineBreak, Bool.or_eq_false_iff, beq_eq_false_iff_ne]
    exact ⟨fun h => hfeed (h ▸ hc), fun h => hreturn (h ▸ hc)⟩

/-- The lines of a text hold no line breaks. -/
theorem isLine_of_mem_lines {t l : Text} (h : l ∈ lines t) : IsLine l := by
  fun_induction lines t generalizing l with
  | case1 =>
    rw [List.mem_singleton.mp h]
    exact isLine_nil
  | case2 rest ih =>
    rcases List.mem_cons.mp h with rfl | h
    · exact isLine_nil
    · exact ih h
  | case3 c rest _ _ ih =>
    rcases List.mem_cons.mp h with rfl | h
    · exact isLine_nil
    · exact ih h
  | case4 c rest _ hc ih =>
    have hc : isLineBreak c = false := by simpa using hc
    cases hl : lines rest with
    | nil => exact absurd hl (lines_ne_nil rest)
    | cons first more =>
      rw [hl] at h
      rcases List.mem_cons.mp h with rfl | h
      · exact (ih (by simp [hl])).cons hc
      · exact ih (by simp [hl, h])

/-! ### Splitting -/

theorem lines_cons_of_ne_return {c : Char} (h : c ≠ '\r') (t : Text) :
    lines (c :: t) = if c = '\n' then [] :: lines t else consFirst c (lines t) := by
  rw [lines.eq_def]
  split
  · contradiction
  · rename_i heq
    exact absurd (List.cons.inj heq).1 h
  · rename_i heq
    obtain ⟨rfl, rfl⟩ := List.cons.inj heq
    simp [isLineBreak, h]

/-- Without carriage returns in the first, the lines of two texts one behind the other are their
lines glued together. -/
theorem lines_append {s : Text} (h : '\r' ∉ s) (t : Text) :
    lines (s ++ t) = glue (lines s) (lines t) := by
  induction s with
  | nil =>
    rw [List.nil_append, lines]
    cases ht : lines t with
    | nil => exact absurd ht (lines_ne_nil t)
    | cons l rest => rfl
  | cons c s ih =>
    have hc : c ≠ '\r' := fun hc => h (by simp [hc])
    have hs : '\r' ∉ s := fun hs => h (List.mem_cons_of_mem c hs)
    rw [List.cons_append, lines_cons_of_ne_return hc, lines_cons_of_ne_return hc, ih hs]
    split
    · rw [glue_cons (lines_ne_nil s)]
    · cases hl : lines s with
      | nil => exact absurd hl (lines_ne_nil s)
      | cons l rest =>
        cases rest with
        | nil => cases ht : lines t <;> rfl
        | cons l' rest => rfl

theorem lines_of_isLine {l : Text} (h : IsLine l) : lines l = [l] := by
  induction l with
  | nil => rfl
  | cons c l ih =>
    have hc := h c (by simp)
    have hl : IsLine l := fun d hd => h d (List.mem_cons_of_mem c hd)
    have hreturn : c ≠ '\r' := by
      rintro rfl
      exact absurd hc (by decide)
    have hfeed : c ≠ '\n' := by
      rintro rfl
      exact absurd hc (by decide)
    rw [lines_cons_of_ne_return hreturn, if_neg hfeed, ih hl]
    rfl

/-- Joining lines and splitting the text again gives the lines back. -/
theorem lines_joinLines {ls : List Text} (hne : ls ≠ []) (h : ∀ l ∈ ls, IsLine l) :
    lines (joinLines ls) = ls := by
  induction ls with
  | nil => exact absurd rfl hne
  | cons l rest ih =>
    have hl : IsLine l := h l (by simp)
    cases rest with
    | nil => rw [joinLines_singleton, lines_of_isLine hl]
    | cons l' rest =>
      have hrest : l' :: rest ≠ [] := List.cons_ne_nil _ _
      rw [joinLines_cons hrest, lines_append hl.return_not_mem, lines_of_isLine hl,
        lines_cons_of_ne_return (by decide), if_pos rfl,
        ih hrest fun m hm => h m (List.mem_cons_of_mem l hm)]
      simp [glue, prependFirst]

/-! ### Line breaks written as line feeds -/

/-- The text with a line feed in the place of every line break: of a line feed, of a carriage
return, and of the two together. -/
def withLineFeeds : Text → Text
  | [] => []
  | '\r' :: '\n' :: rest => '\n' :: withLineFeeds rest
  | c :: rest => (if isLineBreak c then '\n' else c) :: withLineFeeds rest

/-- Joining the lines of a text again replaces each line break by a line feed and nothing else. -/
theorem normalized_eq_withLineFeeds (t : Text) : normalized t = withLineFeeds t := by
  unfold normalized
  fun_induction lines t with
  | case1 => rfl
  | case2 rest ih =>
    rw [joinLines_cons (lines_ne_nil rest), ih]
    rfl
  | case3 c rest hpair hc ih =>
    rw [joinLines_cons (lines_ne_nil rest), ih, withLineFeeds, if_pos hc]
    · rfl
    · exact hpair
  | case4 c rest hpair hc ih =>
    rw [joinLines_consFirst c (lines_ne_nil rest), ih, withLineFeeds, if_neg hc]
    exact hpair

theorem return_not_mem_joinLines {ls : List Text} (h : ∀ l ∈ ls, IsLine l) :
    '\r' ∉ joinLines ls := by
  induction ls with
  | nil => simp [joinLines]
  | cons l rest ih =>
    have hl := (h l (by simp)).return_not_mem
    have hrest := ih fun m hm => h m (List.mem_cons_of_mem l hm)
    cases rest with
    | nil => simpa using hl
    | cons l' rest =>
      rw [joinLines_cons (List.cons_ne_nil _ _)]
      simp [hl, hrest]

theorem return_not_mem_normalized (t : Text) : '\r' ∉ normalized t :=
  return_not_mem_joinLines fun _ hl => isLine_of_mem_lines hl

theorem joinLines_lines {t : Text} (h : '\r' ∉ t) : joinLines (lines t) = t := by
  induction t with
  | nil => rfl
  | cons c t ih =>
    have hc : c ≠ '\r' := fun hc => h (by simp [hc])
    have ht := ih fun ht => h (List.mem_cons_of_mem c ht)
    rw [lines_cons_of_ne_return hc]
    split
    · rename_i hfeed
      rw [joinLines_cons (lines_ne_nil t), ht, hfeed]
      rfl
    · rw [joinLines_consFirst c (lines_ne_nil t), ht]

/-- A text without carriage returns is as it would be written. -/
theorem normalized_eq_self {t : Text} (h : '\r' ∉ t) : normalized t = t := joinLines_lines h

end SourceEditor.Text
