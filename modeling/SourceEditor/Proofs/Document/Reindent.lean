/-
  SourceEditor/Proofs/Document/Reindent.lean
  ==========================================
  **Indenting lines again changes nothing.**  Lines are given their indentation from top to bottom.
  To do so with one line leaves the lines above it as they are, and a line's indentation depends on
  these and not on the blanks it begins with; so each line done stays done, whatever happens below
  it.  A second pass finds every line in place, and an edit that puts back what it removes leaves no
  trace in the document.
-/
import Mathlib.Data.List.Forall2
import SourceEditor.Proofs.Buffer.Annotation
import SourceEditor.Proofs.Buffer.Index
import SourceEditor.Proofs.Document.Groups
import SourceEditor.Proofs.Indent.Blanks
import SourceEditor.Proofs.Listing.Buffers

namespace SourceEditor

/-! ### Indentation consists of blanks -/

namespace Buffer

theorem isBlank_indentBy (b : Buffer) (style : IndentStyle) (o : Options) (n : Nat) :
    (b.indentBy style o n).IsBlank := by
  have hnil : Text.IsBlank [] := fun c hc => absurd hc List.not_mem_nil
  cases style with
  | braces =>
    rcases hl : b.line? n with _ | l
    · simpa only [indentBy, braceIndent, hl] using hnil
    · change (b.braceIndent o n).IsBlank
      rw [braceIndent_eq hl]
      split
      · exact Text.isBlank_indent _
      · exact o.isBlank_makeIndent _
  | colons =>
    change (b.colonIndent o n).IsBlank
    rw [colonIndent]
    split
    · exact Text.isBlank_indent _
    · split
      · exact hnil
      · exact o.isBlank_makeIndent _
  | keep =>
    change (b.keptIndent n).IsBlank
    rw [keptIndent]
    split
    · exact hnil
    · rename_i above _
      rcases b.line? above with _ | l
      · exact hnil
      · exact Text.isBlank_indent _

/-! ### One line -/

/-- What it takes to give a line other leading blanks: an edit that is reported as a change exactly
if the blanks are others than before.  Then the line is scanned again, and so are those below it as
far as the state they inherit has changed. -/
structure Reindents (b : Buffer) (n : Nat) (l : Line) (u : Text) (e : Edit) (b' : Buffer) :
    Prop where
  edit : b.replace ⟨⟨n, 0⟩, ⟨n, l.indent.length⟩⟩ u = (.ok e, b')
  changed : e.changed = true ↔ l.indent ≠ u
  same : l.indent = u → b' = b
  lines : l.indent ≠ u → b'.lines = b.lines.take (n - 1) ++
    rescan b.profile.lexicon (b.stateAt (n - 1)) 0
      ({ Line.unscanned l.id (u ++ l.text.body) with stateOut := l.stateOut } :: b.lines.drop n)
  profile : b'.profile = b.profile
  ids : b'.ids = b.ids
  texts : b'.texts = b.texts.set (n - 1) (u ++ l.text.body)
  above : ∀ m < n, b'.line? m = b.line? m

theorem line?_replaced_of_lt {b : Buffer} {r : Range} (hr : b.HasPoint r.start) {m : Nat}
    (h : m < r.start.line) (kind : ChangeKind) (after : Range) (pieces : List Text) :
    (b.replaced kind r after pieces).line? m = b.line? m := by
  obtain ⟨l, hl, _⟩ := hasPoint_iff.mp hr
  obtain ⟨hlt, _⟩ := List.getElem?_eq_some_iff.mp (line?_eq_some_iff.mp hl).2
  rw [line?, line?]
  split
  · rfl
  · rw [replaced]
    dsimp only
    rw [List.getElem?_append_left (by simp; omega), List.getElem?_take, if_pos (by omega)]

/-- To give a line other leading blanks is never refused. -/
theorem exists_reindents {b : Buffer} {n : Nat} {l : Line} (hl : b.line? n = some l) {u : Text}
    (hu : u.IsBlank) : ∃ e b', b.Reindents n l u e b' := by
  let r : Range := ⟨⟨n, 0⟩, ⟨n, l.indent.length⟩⟩
  obtain ⟨hn, hget⟩ := line?_eq_some_iff.mp hl
  have hindent : l.indent.length ≤ l.length := List.IsPrefix.length_le (List.takeWhile_prefix _)
  have hstart : b.HasPoint r.start := hasPoint_iff.mpr ⟨l, hl, Nat.zero_le _⟩
  have hcheck : b.checkRange r = .ok () :=
    checkRange_eq_ok_iff.mpr ⟨hstart, hasPoint_iff.mpr ⟨l, hl, hindent⟩, .inr ⟨rfl, Nat.zero_le _⟩⟩
  have htext : b.texts[n - 1]? = some l.text := by
    rw [Buffer.texts, List.getElem?_map, hget]
    rfl
  obtain ⟨hlt, hgetElem⟩ := List.getElem?_eq_some_iff.mp htext
  have hslice : b.slice r = l.indent :=
    (slice_on_line hl 0 l.indent.length).trans
      (List.prefix_iff_eq_take.mp (List.takeWhile_prefix _)).symm
  have hlines : u.lines = [u] := Text.lines_of_isLine hu.isLine
  have hnormal : u.normalized = u := by
    rw [Text.normalized, hlines, Text.joinLines_singleton]
  let after : Range := ⟨r.start, r.start.advance u⟩
  -- an edit that puts back what it removes leaves the buffer as it is
  by_cases hsame : l.indent = u
  · refine ⟨⟨r.start.advance u, false, after, l.indent, u⟩, b, ?_, by simp [hsame], fun _ => rfl,
      fun hne => absurd hsame hne, rfl, rfl, ?_, fun _ _ => rfl⟩
    · rw [replace, splice, hcheck]
      dsimp only
      rw [hslice, hnormal, if_pos hsame]
    · have hwhole : u ++ l.text.body = l.text := by
        rw [← hsame]
        exact Text.indent_append_body l.text
      rw [hwhole, ← hgetElem, List.set_getElem_self]
  · have hone : u.lines.length = 1 := by rw [hlines, List.length_singleton]
    refine ⟨⟨r.start.advance u, true, after, l.indent, u⟩, b.replaced .replace r after u.lines, ?_,
      by simp [hsame], fun htrue => absurd htrue hsame, fun _ => ?_, rfl,
      ids_replaced_of_single hcheck _ _ hone rfl, ?_,
      fun m hm => line?_replaced_of_lt hstart hm _ _ _⟩
    · rw [replace, splice, hcheck]
      dsimp only
      rw [hslice, hnormal, if_neg hsame]
    · have hcut : l.text.drop l.indent.length = l.text.body := Text.drop_indent l.text
      simp [replaced, r, hlines, hget, hcut, Text.surround, Text.prependFirst, Text.appendLast,
        identities, Line.unscannedLines, Nat.sub_one_add_one hn]
    · rw [texts_replaced hcheck _ _ u.lines_ne_nil, hlines, Text.upTo, Text.onFrom, htext,
        Option.getD_some, List.take_zero, Text.glue, Text.prependFirst, Text.glue_append_cons,
        List.nil_append, List.set_eq_take_append_cons_drop, if_pos hlt, Nat.sub_one_add_one hn]
      exact congrArg (fun t => b.texts.take (n - 1) ++ (u ++ t) :: b.texts.drop n)
        (Text.drop_indent l.text)

theorem Reindents.exists_line {b b' : Buffer} {n : Nat} {l : Line} {u : Text} {e : Edit}
    (hl : b.line? n = some l) (h : b.Reindents n l u e b') :
    ∃ l', b'.line? n = some l' ∧ l'.text = u ++ l.text.body := by
  obtain ⟨hn, hget⟩ := line?_eq_some_iff.mp hl
  have hlt : n - 1 < b.texts.length := by
    rw [Buffer.texts, List.length_map]
    exact (List.getElem?_eq_some_iff.mp hget).1
  have htext : b'.texts[n - 1]? = some (u ++ l.text.body) := by
    rw [h.texts, List.getElem?_set_self hlt]
  rw [Buffer.texts, List.getElem?_map, Option.map_eq_some_iff] at htext
  obtain ⟨l', hl', htext⟩ := htext
  exact ⟨l', line?_eq_some_iff.mpr ⟨hn, hl'⟩, htext⟩

theorem alikeAbove_of_eq {b b' : Buffer} {n : Nat} (h : ∀ m < n, b'.line? m = b.line? m) :
    b.AlikeAbove b' n := by
  intro m hm
  rcases hl : b.line? m with _ | l
  · exact .inl ⟨rfl, (h m hm).trans hl⟩
  · exact .inr ⟨l, l, rfl, (h m hm).trans hl, .refl l⟩

theorem stateAt_eq_line? (b : Buffer) (n : Nat) :
    b.stateAt n = ((b.line? n).map Line.stateOut).getD .normal := by
  cases n <;> rfl

/-- A line scanned as code looks the same to its own indentation after it has been given other
leading blanks. -/
theorem Reindents.alikeInside {b b' : Buffer} (hb : b.IsAnnotated)
    (bare : b.profile.lexicon.StartsBare) {n : Nat} {l l' : Line} {u : Text} {e : Edit}
    (hu : u.IsBlank) (h : b.Reindents n l u e b') (hl : b.line? n = some l)
    (hl' : b'.line? n = some l') (htext : l'.text = u ++ l.text.body)
    (hquoted : l.startsQuoted = false) : l.AlikeInside l' := by
  have hn := (line?_eq_some_iff.mp hl).1
  have hscanned := hb.eq_scanned hl
  have hscanned' := (hb.edit (q := .replace _ _) h.edit).eq_scanned hl'
  have hstates : b'.stateAt (n - 1) = b.stateAt (n - 1) := by
    rw [stateAt_eq_line?, stateAt_eq_line?, h.above (n - 1) (by omega)]
  have hnormal : b.stateAt (n - 1) = .normal := by
    rw [hscanned] at hquoted
    simpa [Line.startsQuoted, Line.scanned] using hquoted
  rw [hnormal] at hscanned
  rw [hstates, hnormal, h.profile] at hscanned'
  exact Line.alikeInside_of_blanks bare (Text.isBlank_indent l.text) hu
    (Text.indent_append_body l.text).symm htext hscanned hscanned'

/-! ### Lines in place -/

/-- Whether a line has the indentation that it should have; blank lines are left alone. -/
def IsIndented (b : Buffer) (o : Options) (n : Nat) : Prop :=
  ∀ l, b.line? n = some l → l.isBlank = false → l.indent = b.indentBy b.profile.indent o n

theorem isIndented_iff {b : Buffer} {o : Options} {n : Nat} {l : Line} (hl : b.line? n = some l)
    (hblank : l.isBlank = false) :
    b.IsIndented o n ↔ l.indent = b.indentBy b.profile.indent o n := by
  constructor
  · intro hindented
    exact hindented l hl hblank
  · intro hindented l' hl' _
    obtain rfl := Option.some.inj (hl.symm.trans hl')
    exact hindented

/-- A line stays in place as long as the lines down to it stay the same. -/
theorem IsIndented.of_eq {b b' : Buffer} {o : Options} {n : Nat} (h : b.IsIndented o n)
    (hlines : ∀ m ≤ n, b'.line? m = b.line? m) (hprofile : b'.profile = b.profile) :
    b'.IsIndented o n := by
  intro l hl' hblank
  have hl : b.line? n = some l := (hlines n (Nat.le_refl n)).symm.trans hl'
  have habove := alikeAbove_of_eq fun m hm => hlines m (Nat.le_of_lt hm)
  have halike : b.profile.indent ≠ .keep → l.AlikeInside l := fun _ => (Line.Alike.refl l).inside
  rw [hprofile]
  by_cases hkeeps : b.keepsIndent b.profile.indent n l = true
  · rw [keepsIndent_congr habove hl hl' halike] at hkeeps
    exact (indentBy_of_keepsIndent hl' hkeeps o).symm
  · rw [← indentBy_congr habove hl hl' halike (Bool.not_eq_true _ ▸ hkeeps) o]
    exact h l hl hblank

/-- **A line that has been given its indentation is in place**: what it should have is still the
same. -/
theorem Reindents.isIndented {b b' : Buffer} (shows : b.ShowsScans)
    (bare : b.profile.lexicon.StartsBare) {o : Options} {n : Nat} {l : Line} {e : Edit}
    (hl : b.line? n = some l) (h : b.Reindents n l (b.indentBy b.profile.indent o n) e b') :
    b'.IsIndented o n := by
  by_cases hkeeps : b.keepsIndent b.profile.indent n l = true
  · have hsame : l.indent = b.indentBy b.profile.indent o n :=
      (indentBy_of_keepsIndent hl hkeeps o).symm
    rw [h.same hsame]
    intro m hm _
    obtain rfl := Option.some.inj (hl.symm.trans hm)
    exact hsame
  · have hkeeps := Bool.not_eq_true _ ▸ hkeeps
    have hblank := isBlank_indentBy b b.profile.indent o n
    obtain ⟨l', hl', htext⟩ := h.exists_line hl
    have halike : b.profile.indent ≠ .keep → l.AlikeInside l' := by
      intro hstyle
      apply h.alikeInside (shows hstyle) bare hblank hl hl' htext
      -- a line that begins in a quote would keep what it has
      cases hindent : b.profile.indent with
      | braces =>
        rw [hindent] at hkeeps
        exact (Bool.or_eq_false_iff.mp hkeeps).2
      | colons =>
        rw [hindent] at hkeeps
        exact hkeeps
      | keep => exact absurd hindent hstyle
    intro m hm _
    obtain rfl := Option.some.inj (hl'.symm.trans hm)
    rw [h.profile, ← indentBy_congr (alikeAbove_of_eq h.above) hl hl' halike hkeeps o, Line.indent,
      htext]
    exact Text.indent_append hblank (Text.startsBare_body l.text)

/-- Other leading blanks leave what is behind them. -/
theorem map_body_set {b : Buffer} {n : Nat} {l : Line} (hl : b.line? n = some l) {u : Text}
    (hu : u.IsBlank) :
    (b.texts.set (n - 1) (u ++ l.text.body)).map Text.body = b.texts.map Text.body := by
  have hbody : (b.texts.map Text.body)[n - 1]? = some l.text.body := by
    rw [Buffer.texts, List.getElem?_map, List.getElem?_map, (line?_eq_some_iff.mp hl).2]
    rfl
  obtain ⟨hlt, hget⟩ := List.getElem?_eq_some_iff.mp hbody
  rw [List.map_set, Text.body_append hu, Text.body_body, ← hget, List.set_getElem_self]

/-- What giving lines from the line `n` on their indentation leaves of a buffer: the lines above are
the same, and the others differ in their leading blanks only. -/
structure Realigns (b : Buffer) (n : Nat) (b' : Buffer) : Prop where
  reached : b.Reachable → b'.Reachable
  shows : b.ShowsScans → b'.ShowsScans
  profile : b'.profile = b.profile
  bodies : b'.texts.map Text.body = b.texts.map Text.body
  above : ∀ m < n, b'.line? m = b.line? m

theorem Reindents.realigns {b b' : Buffer} {n : Nat} {l : Line} {u : Text} {e : Edit}
    (h : b.Reindents n l u e b') (hl : b.line? n = some l) (hu : u.IsBlank) :
    b.Realigns n b' where
  reached := fun reached => reached.edit (q := .replace _ _) h.edit
  shows := fun shows => shows.edit (q := .replace _ _) h.edit
  profile := h.profile
  bodies := by rw [h.texts, map_body_set hl hu]
  above := h.above

theorem Realigns.trans {b b₁ b' : Buffer} {n n' : Nat} (h : b.Realigns n b₁)
    (h' : b₁.Realigns n' b') (hle : n ≤ n') : b.Realigns n b' where
  reached := h'.reached ∘ h.reached
  shows := h'.shows ∘ h.shows
  profile := h'.profile.trans h.profile
  bodies := h'.bodies.trans h.bodies
  above := by
    intro m hm
    exact (h'.above m (Nat.lt_of_lt_of_le hm hle)).trans (h.above m hm)

/-- What it leaves where no quote begins with a blank: `count` lines are in place. -/
structure Settles (b : Buffer) (o : Options) (n count : Nat) (b' : Buffer) : Prop
    extends Realigns b n b' where
  indented : ∀ m, n ≤ m → m < n + count → b'.IsIndented o m

theorem exists_line? (b : Buffer) {n : Nat} (hn : n ≠ 0) (h : n ≤ b.lineCount) :
    ∃ l, b.line? n = some l := by
  rw [← Option.ne_none_iff_exists', ne_eq, line?_eq_none_iff]
  omega

theorem lineCount_eq_of_bodies {b b' : Buffer}
    (h : b'.texts.map Text.body = b.texts.map Text.body) : b'.lineCount = b.lineCount := by
  simpa [Buffer.texts, Buffer.lineCount] using congrArg List.length h

/-- Lines are in place exactly if their texts are those wanted, provided this is so of each line
below lines with the texts wanted.  What is known below such lines is `P`, of what the lines above
hold, the nearest first, and of what the others hold. -/
theorem areIndented_iff_texts {b : Buffer} {o : Options} {ρ : Type} {text : ρ → Text}
    {R : Line → ρ → Prop} {P : List ρ → List ρ → Prop}
    (hfirst : ∀ {above r rows l}, P above (r :: rows) → b.line? (above.length + 1) = some l →
      R l r → (b.IsIndented o (above.length + 1) ↔ l.text = text r))
    (hnext : ∀ {above r rows l}, P above (r :: rows) → b.line? (above.length + 1) = some l →
      R l r → l.text = text r → P (r :: above) rows)
    {above rows : List ρ} {front ls : List Line} (h : P above rows) (hlines : b.lines = front ++ ls)
    (hfront : front.length = above.length) (hrows : List.Forall₂ R ls rows) :
    (∀ n, above.length < n → n ≤ b.lineCount → b.IsIndented o n) ↔
      ls.map Line.text = rows.map text := by
  induction hrows generalizing above front with
  | nil =>
    have hcount : b.lineCount = above.length := by simp [lineCount, hlines, hfront]
    constructor
    · exact fun _ => rfl
    · intro _ n hlt hle
      omega
  | @cons l r ls rows hr hrows ih =>
    have hl : b.line? (above.length + 1) = some l :=
      line?_eq_some_iff.mpr ⟨Nat.succ_ne_zero _, by simp [hlines, ← hfront]⟩
    have hle : above.length + 1 ≤ b.lineCount := by simp [lineCount, hlines, hfront]
    have hsplit : b.lines = front ++ [l] ++ ls := by
      rw [hlines, List.append_assoc]
      rfl
    have hlength : (front ++ [l]).length = above.length + 1 := by
      rw [List.length_append, hfront]
      rfl
    have hfirst := hfirst h hl hr
    rw [List.map_cons, List.map_cons, List.cons.injEq]
    constructor
    · intro hall
      have htext := hfirst.mp (hall _ (Nat.lt_succ_self _) hle)
      refine ⟨htext, (ih (hnext h hl hr htext) hsplit hlength).mp ?_⟩
      exact fun n hlt => hall n (Nat.lt_of_succ_lt hlt)
    · rintro ⟨htext, htexts⟩ n hlt hn
      rcases Nat.eq_or_lt_of_le hlt with rfl | hlt
      · exact hfirst.mpr htext
      · exact (ih (hnext h hl hr htext) hsplit hlength).mpr htexts n hlt hn

end Buffer

/-! ### Rows of lines -/

namespace Document

theorem applyIndent_of_replace {b b' : Buffer} {o : Options} {n : Nat} {l : Line} {e : Edit}
    (hl : b.line? n = some l)
    (hreplace : b.replace ⟨⟨n, 0⟩, ⟨n, l.indent.length⟩⟩ (b.indentBy b.profile.indent o n) =
      (.ok e, b')) (h : History) (m : Bool) :
    (⟨b, h, o, m⟩ : Document).applyIndent n = (.ok e, recorded ⟨b', h, o, m⟩ e) := by
  simp only [applyIndent, computeIndent, Buffer.computeIndent, hl, Option.map_some,
    Option.getD_some, hreplace, applied]

/-- To give a line its indentation is never refused. -/
theorem exists_applyIndent {b : Buffer} {o : Options} {n : Nat} {l : Line}
    (hl : b.line? n = some l) :
    ∃ e b', b.Reindents n l (b.indentBy b.profile.indent o n) e b' ∧
      ∀ h m, (⟨b, h, o, m⟩ : Document).applyIndent n = (.ok e, recorded ⟨b', h, o, m⟩ e) := by
  obtain ⟨e, b', hedit⟩ :=
    Buffer.exists_reindents hl (b.isBlank_indentBy b.profile.indent o n)
  exact ⟨e, b', hedit, applyIndent_of_replace hl hedit.edit⟩

/-- Lines that exist are given their indentation, and none is refused.  Where the lines show their
scans and no quote begins with a blank, they are in place afterwards. -/
theorem exists_indentLines (b : Buffer) (o : Options) {n count : Nat}
    (hn : n ≠ 0) (hcount : n + count ≤ b.lineCount + 1) (h : History) (m : Bool) :
    ∃ k b' h' m', (⟨b, h, o, m⟩ : Document).indentLines n count = (.ok k, ⟨b', h', o, m'⟩) ∧
      b.Realigns n b' ∧
      (b.ShowsScans → b.profile.lexicon.StartsBare → b.Settles o n count b') := by
  induction count generalizing b n h m with
  | zero =>
    have hsame : b.Realigns n b := ⟨id, id, rfl, rfl, fun _ _ => rfl⟩
    exact ⟨0, b, h, m, rfl, hsame, fun _ _ => ⟨hsame, fun i hi hlt => absurd hi (by omega)⟩⟩
  | succ count ih =>
    obtain ⟨l, hl⟩ := b.exists_line? hn (by omega)
    by_cases hblank : l.isBlank = true
    · obtain ⟨k, b', h', m', hrun, hbelow, hsettles⟩ :=
        ih b (Nat.succ_ne_zero n) (by omega) h m
      have hrealigns : b.Realigns n b' :=
        { hbelow with above := fun i hi => hbelow.above i (by omega) }
      refine ⟨k, b', h', m', ?_, hrealigns, fun shows bare => ⟨hrealigns, fun i hi hlt => ?_⟩⟩
      · simp only [indentLines, hl, if_pos hblank, hrun]
      · rcases Nat.eq_or_lt_of_le hi with rfl | hi
        · intro l' hl' hblank'
          rw [hbelow.above n (Nat.lt_succ_self n), hl] at hl'
          obtain rfl := Option.some.inj hl'
          exact absurd (hblank.symm.trans hblank') (by decide)
        · exact (hsettles shows bare).indented i hi (by omega)
    · obtain ⟨e, b₁, hedit, happly⟩ := exists_applyIndent (o := o) hl
      have hfirst : b.Realigns n b₁ := hedit.realigns hl (b.isBlank_indentBy _ o n)
      have hcount₁ : n + 1 + count ≤ b₁.lineCount + 1 := by
        rw [Buffer.lineCount_eq_of_bodies hfirst.bodies]
        omega
      obtain ⟨k, b', h', m', hrun, hbelow, hsettles⟩ := ih b₁ (Nat.succ_ne_zero n) hcount₁
        (historyRecorded h e) (m || e.changed)
      have hrealigns : b.Realigns n b' := hfirst.trans hbelow (Nat.le_succ n)
      refine ⟨if e.changed then k + 1 else k, b', h', m', ?_, hrealigns,
        fun shows bare => ⟨hrealigns, fun i hi hlt => ?_⟩⟩
      · have hnext : (recorded ⟨b₁, h, o, m⟩ e).indentLines (n + 1) count =
            (.ok k, ⟨b', h', o, m'⟩) := hrun
        simp only [indentLines, hl, if_neg hblank, happly, hnext]
      · rcases Nat.eq_or_lt_of_le hi with rfl | hi
        · -- what happens below the line leaves it in place
          have hindented := hedit.isIndented shows bare hl
          exact hindented.of_eq (fun i hi => hbelow.above i (by omega)) hbelow.profile
        · exact (hsettles (hfirst.shows shows) (hedit.profile ▸ bare)).indented i hi (by omega)

/-- Lines in place are left alone: all that is noted of them is where the caret is. -/
theorem indentLines_of_isIndented {b : Buffer} {o : Options} {n count : Nat}
    (hn : n ≠ 0) (hcount : n + count ≤ b.lineCount + 1)
    (hindented : ∀ i, n ≤ i → i < n + count → b.IsIndented o i) (h : History) (g : EditGroup)
    (m : Bool) :
    ∃ g', (⟨b, { h with current := some g }, o, m⟩ : Document).indentLines n count =
        (.ok 0, ⟨b, { h with current := some g' }, o, m⟩) ∧ g'.operations = g.operations := by
  induction count generalizing n g with
  | zero => exact ⟨g, rfl, rfl⟩
  | succ count ih =>
    obtain ⟨l, hl⟩ := b.exists_line? hn (by omega)
    have hbelow : ∀ i, n + 1 ≤ i → i < n + 1 + count → b.IsIndented o i :=
      fun i hi hlt => hindented i (by omega) (by omega)
    by_cases hblank : l.isBlank = true
    · obtain ⟨g', hrun, hops⟩ := ih (Nat.succ_ne_zero n) (by omega) hbelow g
      refine ⟨g', ?_, hops⟩
      simp only [indentLines, hl, if_pos hblank, hrun]
    · obtain ⟨e, b₁, hedit, happly⟩ := exists_applyIndent (o := o) hl
      have hsame := hindented n (Nat.le_refl n) (by omega) l hl (Bool.not_eq_true _ ▸ hblank)
      obtain rfl := hedit.same hsame
      have hunchanged : e.changed = false := by
        rw [← Bool.not_eq_true, hedit.changed]
        exact fun hne => hne hsame
      obtain ⟨g', hrun, hops⟩ := ih (Nat.succ_ne_zero n) (by omega) hbelow
        { g with caretAfter := e.caret }
      refine ⟨g', ?_, hops⟩
      have hrecorded : recorded ⟨b₁, { h with current := some g }, o, m⟩ e =
          ⟨b₁, { h with current := some { g with caretAfter := e.caret } }, o, m⟩ := by
        simp [recorded, hunchanged, History.setCaret]
      simp only [indentLines, hl, if_neg hblank, happly, hrecorded, hrun, hunchanged]
      rfl

end Document

/-- No quote of a built-in language begins with a blank. -/
theorem Profile.startsBare_ofLanguage (language : Language) :
    (Profile.ofLanguage language).lexicon.StartsBare := by
  cases language <;> decide

namespace Document

/-- To indent lines that exist is never refused, and no group stays open. -/
theorem exists_reindentLines {d : Document} (shows : d.buffer.ShowsScans)
    (bare : d.buffer.profile.lexicon.StartsBare) {first last : Nat} (hfirst : 1 ≤ first)
    (hle : first ≤ last) (hlast : last ≤ d.buffer.lineCount) :
    ∃ k d', d.reindentLines first last = (.ok k, d') ∧ d'.options = d.options ∧
      d'.history.current = none ∧
      d.buffer.Settles d.options first (last + 1 - first) d'.buffer := by
  obtain ⟨b, h, o, m⟩ := d
  have hcount : first + (last + 1 - first) ≤ b.lineCount + 1 := by
    change last ≤ b.lineCount at hlast
    omega
  obtain ⟨k, b', h', m', hrun, _, hsettles⟩ := exists_indentLines b o
    (Nat.one_le_iff_ne_zero.mp hfirst) hcount (h.begin ⟨first, 0⟩) m
  refine ⟨k, ⟨b', h'.commit, o, m'⟩, ?_, rfl, h'.current_commit, hsettles shows bare⟩
  simp only [reindentLines, grouped, hrun]

/-- Where the lines are in place already, indenting them does nothing but close the open group. -/
theorem reindentLines_of_isIndented {d : Document} {first last : Nat} (hfirst : 1 ≤ first)
    (hle : first ≤ last) (hlast : last ≤ d.buffer.lineCount)
    (hindented : ∀ n, first ≤ n → n ≤ last → d.buffer.IsIndented d.options n) :
    d.reindentLines first last = (.ok 0, { d with history := d.history.commit }) := by
  obtain ⟨b, h, o, m⟩ := d
  have hcount : first + (last + 1 - first) ≤ b.lineCount + 1 := by
    change last ≤ b.lineCount at hlast
    omega
  obtain ⟨g', hrun, hops⟩ := indentLines_of_isIndented (Nat.one_le_iff_ne_zero.mp hfirst)
    hcount (fun n hn hlt => hindented n hn (by omega)) h.commit (.new ⟨first, 0⟩) m
  -- the group of the pass is empty, so closing it drops it
  have hclosed : ({ h.commit with current := some g' } : History).commit = h.commit := by
    rw [History.commit_of_nil h.commit hops, ← h.current_commit]
  simp only [reindentLines, grouped, History.begin, hrun, hclosed]

/-- **Re-indentation is idempotent.**  No built-in profile has a quote that begins with a blank;
and where no quote does, lines indented once are indented for good, be they those of a text or
those of a listing: to indent them again changes no line and leaves the document as it is, with its
buffer, its history and all. -/
theorem reindentLines_idempotent :
    (∀ language, (Profile.ofLanguage language).lexicon.StartsBare) ∧
      ∀ {d : Document}, d.buffer.Handed → d.buffer.profile.lexicon.StartsBare →
        ∀ {first last : Nat}, 1 ≤ first → first ≤ last → last ≤ d.buffer.lineCount →
          ∃ k d', d.reindentLines first last = (.ok k, d') ∧
            d'.reindentLines first last = (.ok 0, d') := by
  refine ⟨Profile.startsBare_ofLanguage, ?_⟩
  intro d handed bare first last hfirst hle hlast
  obtain ⟨k, d', hrun, hoptions, hidle, hsettles⟩ :=
    exists_reindentLines handed.showsScans bare hfirst hle hlast
  refine ⟨k, d', hrun, ?_⟩
  have hcount := Buffer.lineCount_eq_of_bodies hsettles.bodies
  have hagain := reindentLines_of_isIndented hfirst hle (by omega)
    fun n hn hle => hoptions ▸ hsettles.indented n hn (by omega)
  have hcommit : d'.history.commit = d'.history := by
    rw [History.commit, hidle]
  rw [hagain, hcommit]

/-- A block whose lines are indented in several ways, with tabs; the first pass changes three
lines. -/
theorem reindentLines_idempotent_of_block :
    let d := Document.ofBuffer (.ofText "if (a) \x7b\n\tb;\n  c(\nd);\n \x7d".toList (.ofLanguage .cpp))
    let d := { d with options := { d.options with tabStop := 8, expandTab := false } }
    d.buffer.Handed ∧ d.buffer.profile.lexicon.StartsBare ∧ 5 ≤ d.buffer.lineCount ∧
      ∃ k d', d.reindentLines 1 5 = (.ok k, d') ∧ d'.reindentLines 1 5 = (.ok 0, d') := by
  intro d₀ d
  have handed : d.buffer.Handed := .ofReachable (.ofText _ _)
  have bare := reindentLines_idempotent.1 .cpp
  have hcount : 5 ≤ d.buffer.lineCount := by decide +kernel
  exact ⟨handed, bare, hcount,
    reindentLines_idempotent.2 handed bare (Nat.le_refl 1) (by decide) hcount⟩

end Document

end SourceEditor
