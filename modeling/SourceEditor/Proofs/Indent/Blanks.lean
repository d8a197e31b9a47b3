/-
  SourceEditor/Proofs/Indent/Blanks.lean
  ======================================
  **Leading blanks.**  Indentation that has been written is read back with the width it was written
  for.  Where no quote begins with a blank, the scan of a line passes over its leading blanks, and
  finds behind them what it would find without them; so a line that is given other leading blanks
  looks the same to its own indentation.
-/
import SourceEditor.Proofs.Indent.Views
import SourceEditor.Proofs.Lexis.Registration
import SourceEditor.Proofs.Text.Character

namespace SourceEditor

/-- Whether a text consists of spaces and tabs. -/
def Text.IsBlank (t : Text) : Prop := ∀ c ∈ t, isBlank c = true

/-! ### Written indentation -/

namespace Options

theorem isBlank_makeIndent (o : Options) (width : UInt64) : (o.makeIndent width).IsBlank := by
  intro c hc
  rw [makeIndent] at hc
  split at hc
  · rw [List.eq_of_mem_replicate hc]
    rfl
  · rcases List.mem_append.mp hc with hc | hc <;> rw [List.eq_of_mem_replicate hc] <;> rfl

theorem foldl_nextColumn_spaces (o : Options) (width : UInt64) (n : Nat) :
    (List.replicate n ' ').foldl o.nextColumn width = width + .ofNat n := by
  induction n generalizing width with
  | zero => exact (UInt64.add_zero width).symm
  | succ n ih =>
    have hstep : o.nextColumn width ' ' = width + 1 := rfl
    rw [List.replicate_succ, List.foldl_cons, hstep, ih, UInt64.add_assoc, UInt64.add_comm 1,
      UInt64.ofNat_add]
    rfl

/-- A tab goes from a tab stop to the next one. -/
theorem nextColumn_tab {o : Options} (h : o.tabStop ≠ 0) {k : Nat}
    (hfits : k * o.tabStop.toNat < UInt64.size) :
    o.nextColumn (.ofNat (k * o.tabStop.toNat)) '\t' = .ofNat ((k + 1) * o.tabStop.toNat) := by
  have hmax : max o.tabStop 1 = o.tabStop := by
    change (if o.tabStop ≤ 1 then 1 else o.tabStop) = o.tabStop
    split
    · rename_i hle
      rw [UInt64.le_iff_toNat_le] at hle
      have hpos : o.tabStop.toNat ≠ 0 := fun hzero => h (UInt64.toNat_inj.mp hzero)
      have hone : (1 : UInt64).toNat = 1 := rfl
      apply UInt64.toNat_inj.mp
      omega
    · rfl
  have hrest : UInt64.ofNat (k * o.tabStop.toNat) % o.tabStop = 0 := by
    rw [← UInt64.toNat_inj, UInt64.toNat_mod, UInt64.toNat_ofNat_of_lt' hfits, Nat.mul_mod_left]
    rfl
  rw [nextColumn, if_pos rfl, hmax, hrest, UInt64.sub_zero, Nat.succ_mul, UInt64.ofNat_add,
    UInt64.ofNat_toNat]

/-- From one tab stop, tabs lead to as many tab stops further, as long as they are within 64 bits. -/
theorem foldl_nextColumn_tabs {o : Options} (h : o.tabStop ≠ 0) {k n : Nat}
    (hfits : (k + n) * o.tabStop.toNat < UInt64.size) :
    (List.replicate n '\t').foldl o.nextColumn (.ofNat (k * o.tabStop.toNat)) =
      .ofNat ((k + n) * o.tabStop.toNat) := by
  induction n generalizing k with
  | zero => rfl
  | succ n ih =>
    have hle : k * o.tabStop.toNat ≤ (k + (n + 1)) * o.tabStop.toNat :=
      Nat.mul_le_mul_right _ (Nat.le_add_right k (n + 1))
    have hnext : k + (n + 1) = k + 1 + n := by omega
    rw [List.replicate_succ, List.foldl_cons, nextColumn_tab h (Nat.lt_of_le_of_lt hle hfits), hnext,
      ih (hnext ▸ hfits)]

/-- Indentation that has been written has the width it was written for. -/
@[simp] theorem indentWidth_makeIndent (o : Options) (width : UInt64) :
    o.indentWidth (o.makeIndent width) = width := by
  rw [indentWidth, makeIndent]
  split
  · rw [foldl_nextColumn_spaces, UInt64.ofNat_toNat, UInt64.zero_add]
  · rename_i hspaces
    have htab : o.tabStop ≠ 0 := by
      intro hzero
      simp [hzero] at hspaces
    have hfits : (0 + width.toNat / o.tabStop.toNat) * o.tabStop.toNat < UInt64.size := by
      rw [Nat.zero_add]
      exact Nat.lt_of_le_of_lt (Nat.div_mul_le_self _ _) width.toNat_lt
    have htabs := foldl_nextColumn_tabs htab hfits
    rw [Nat.zero_mul, Nat.zero_add, show UInt64.ofNat 0 = 0 from rfl] at htabs
    rw [List.foldl_append, UInt64.toNat_div, htabs, foldl_nextColumn_spaces, UInt64.toNat_mod,
      ← UInt64.ofNat_add, Nat.div_add_mod', UInt64.ofNat_toNat]

end Options

/-! ### Texts behind blanks -/

namespace Text

theorem IsBlank.isLine {t : Text} (h : t.IsBlank) : ∀ c ∈ t, isLineBreak c = false :=
  fun c hc => isLineBreak_of_isBlank (h c hc)

theorem isBlank_indent (t : Text) : t.indent.IsBlank :=
  fun c hc => List.all_eq_true.mp List.all_takeWhile c hc

/-- The characters behind the leading blanks. -/
def body (t : Text) : Text := t.dropWhile SourceEditor.isBlank

theorem indent_append_body (t : Text) : t.indent ++ t.body = t :=
  List.takeWhile_append_dropWhile

theorem drop_indent (t : Text) : t.drop t.indent.length = t.body := by
  have hdrop : (t.indent ++ t.body).drop t.indent.length = t.body := List.drop_left
  rwa [indent_append_body] at hdrop

theorem body_append {u : Text} (hu : u.IsBlank) (t : Text) : body (u ++ t) = t.body :=
  List.dropWhile_append_of_pos hu

/-- Whether a text begins with a character that is no blank. -/
def StartsBare (t : Text) : Prop := ∀ c ∈ t.head?, SourceEditor.isBlank c = false

theorem all_head?_iff_startsBare (t : Text) :
    (t.head?.all fun c => !SourceEditor.isBlank c) = true ↔ t.StartsBare := by
  cases t <;> simp [StartsBare]

instance (t : Text) : Decidable t.StartsBare := decidable_of_iff _ (all_head?_iff_startsBare t)

theorem startsBare_body (t : Text) : t.body.StartsBare := by
  intro c hc
  have hhead := List.head?_dropWhile_not SourceEditor.isBlank t
  rw [body] at hc
  rw [Option.mem_def.mp hc] at hhead
  simpa using hhead

@[simp] theorem body_body (t : Text) : t.body.body = t.body := by
  have hbare := startsBare_body t
  generalize t.body = rest at hbare
  cases rest with
  | nil => rfl
  | cons c rest =>
    have hc := hbare c rfl
    simp [body, hc]

theorem indent_append {u t : Text} (hu : u.IsBlank) (ht : t.StartsBare) : indent (u ++ t) = u := by
  rw [indent, List.takeWhile_append_of_pos hu]
  cases t with
  | nil => simp
  | cons c t =>
    have hc := ht c rfl
    simp [hc]

theorem trimStart_append {u : Text} (hu : ∀ c ∈ u, isWhitespace c = true) (t : Text) :
    trimStart (u ++ t) = t.trimStart := List.dropWhile_append_of_pos hu

end Text

/-! ### Scanning behind blanks -/

/-- The span moved to the right. -/
def Span.moved (k : Nat) (s : Span) : Span := { s with offset := s.offset + k }

@[simp] theorem Span.stop_moved (k : Nat) (s : Span) : (s.moved k).stop = s.stop + k := by
  simp only [moved, stop]
  omega

@[simp] theorem Span.kind_moved (k : Nat) (s : Span) : (s.moved k).kind = s.kind := rfl

@[simp] theorem Span.contains_moved (k : Nat) (s : Span) (col : Nat) :
    (s.moved k).contains (col + k) = s.contains col := by
  have hstart : (s.moved k).offset ≤ col + k ↔ s.offset ≤ col := Nat.add_le_add_iff_right
  rw [contains, contains, stop_moved, Bool.eq_iff_iff]
  simp [hstart]

/-- The scan with its spans moved to the right. -/
def Scan.moved (k : Nat) (s : Scan) : Scan := { s with spans := s.spans.map (Span.moved k) }

namespace Lexicon

/-- Whether no quote begins with a blank. -/
def StartsBare (lex : Lexicon) : Prop := ∀ q ∈ lex.quotes, q.start.StartsBare

instance (lex : Lexicon) : Decidable lex.StartsBare :=
  List.decidableBAll (fun q : QuoteRule => q.start.StartsBare) lex.quotes

theorem matchStart_of_isBlank {lex : Lexicon} (hlex : lex.StartsBare) {c : Char}
    (hc : isBlank c = true) (t : Text) : lex.matchStart (c :: t) = none := by
  apply matchStart_eq_none_iff.mpr
  intro q hq
  have hbare := hlex q hq
  rcases hstart : q.start with _ | ⟨d, rest⟩
  · rfl
  · have hd : isBlank d = false := hbare d (by rw [hstart]; rfl)
    have hne : d ≠ c := by
      rintro rfl
      rw [hc] at hd
      cases hd
    simp [Text.startsWith, List.isPrefixOf, hne]

/-- A scan passes over leading blanks. -/
theorem scanCode_blanks {lex : Lexicon} (hlex : lex.StartsBare) {u : Text} (hu : u.IsBlank)
    (col : Nat) (t : Text) : lex.scanCode 0 col (u ++ t) = lex.scanCode 0 (col + u.length) t := by
  induction u generalizing col with
  | nil => rfl
  | cons c u ih =>
    have hc := hu c List.mem_cons_self
    have hword : c.isDigit = false ∧ isWordStart c = false := by
      rcases eq_of_isBlank hc with rfl | rfl <;> decide
    rw [List.cons_append, scanCode, matchStart_of_isBlank hlex hc]
    simp only [hword.1, hword.2, Bool.false_eq_true, if_false]
    rw [ih fun d hd => hu d (List.mem_cons_of_mem c hd), List.length_cons]
    congr 1
    omega

/-- A scan that begins further to the right finds the same further to the right. -/
theorem scanCode_moved (lex : Lexicon) (k skip col : Nat) (t : Text) :
    lex.scanCode skip (col + k) t = (lex.scanCode skip col t).moved k := by
  -- the column is only ever written into spans, so every branch of the scan is taken alike
  have hnext : ∀ col, col + k + 1 = col + 1 + k := fun col => by omega
  fun_induction scanCode lex skip col t with
  | case1 => simp [scanCode, Scan.moved]
  | case2 skip col c rest ih => simp [scanCode, hnext, ih]
  | case3 col c rest i rule hstart n hend length ih =>
    simp [scanCode, hstart, hend, hnext, ih, Scan.moved, Scan.add, Span.moved, length]
  | case4 col c rest i rule hstart continues hend =>
    simp [scanCode, hstart, hend, Scan.moved, Scan.unclosed, Span.moved]
  | case5 col c rest hstart hdigit number ih =>
    simp [scanCode, hstart, hdigit, hnext, ih, Scan.moved, Scan.add, Span.moved, number]
  | case6 col c rest hstart hdigit hword word ih =>
    simp [scanCode, hstart, hdigit, hword, hnext, ih, Scan.moved, Scan.add, Span.moved, word]
  | case7 col c rest hstart hdigit hword ih =>
    simp [scanCode, hstart, hdigit, hword, hnext, ih]

end Lexicon

/-! ### Lines behind blanks -/

namespace Line

theorem tokenAt_moved {l m : Line} {k : Nat} (h : l.spans = m.spans.map (Span.moved k))
    (col : Nat) : l.tokenAt (col + k) = m.tokenAt col := by
  have hstop : ((fun s : Span => decide (s.stop ≤ col + k)) ∘ Span.moved k) =
      fun s => decide (s.stop ≤ col) := by
    funext s
    simp
  have hdrop : (l.spans.dropWhile fun s => s.stop ≤ col + k) =
      (m.spans.dropWhile fun s => s.stop ≤ col).map (Span.moved k) := by
    rw [h, List.dropWhile_map, hstop]
  unfold tokenAt
  rw [hdrop]
  generalize (m.spans.dropWhile fun s => s.stop ≤ col) = rest
  cases rest with
  | nil => rfl
  | cons s rest => simp only [List.map_cons, Span.contains_moved, Span.kind_moved]

/-- The columns of a text behind another are those of the text, moved to the right. -/
theorem columns_append (u t : Text) :
    (u ++ t).zipIdx.map Prod.swap =
      u.zipIdx.map Prod.swap ++ (t.zipIdx.map Prod.swap).map fun x => (x.1 + u.length, x.2) := by
  rw [List.zipIdx_append, List.map_append, Nat.zero_add, List.zipIdx_eq_map_add (i := u.length),
    List.map_map, List.map_map]
  congr 1
  apply List.map_congr_left
  intro x _
  simp [Nat.add_comm]

/-- A line looks to its own indentation as it does without its leading blanks. -/
theorem alikeInside_of_moved {l m : Line} {u : Text} (hu : u.IsBlank)
    (htext : l.text = u ++ m.text) (hstate : l.stateIn = m.stateIn)
    (hspans : l.spans = m.spans.map (Span.moved u.length)) : l.AlikeInside m := by
  have htoken := tokenAt_moved hspans
  have hquoted : ∀ col, l.isQuoted (col + u.length) = m.isQuoted col := fun col => by
    rw [isQuoted, isQuoted, htoken]
  have hcomment : ∀ col, l.isComment (col + u.length) = m.isComment col := fun col => by
    rw [isComment, isComment, htoken]
  obtain ⟨front, hcolumns, hwhite⟩ : ∃ front : List (Nat × Char),
      l.columns = front ++ m.columns.map (fun x => (x.1 + u.length, x.2)) ∧
        ∀ x ∈ front, isWhitespace x.2 = true := by
    refine ⟨u.zipIdx.map Prod.swap, ?_, ?_⟩
    · rw [columns, htext, columns_append]
      rfl
    · intro x hx
      obtain ⟨y, hy, rfl⟩ := List.mem_map.mp hx
      exact isWhitespace_of_isBlank (hu _ (List.fst_mem_of_mem_zipIdx hy))
  constructor
  · rw [startsQuoted, startsQuoted, hstate]
  · have hfirst : l.firstNonBlank = m.firstNonBlank.map (· + u.length) := by
      have hnone : u.findIdx? (fun c => !SourceEditor.isBlank c) = none := by
        rw [List.findIdx?_eq_none_iff]
        intro c hc
        simp [hu c hc]
      rw [firstNonBlank, firstNonBlank, htext, List.findIdx?_append, hnone]
      rfl
    have htrim := Text.trimStart_append (fun c hc => isWhitespace_of_isBlank (hu c hc)) m.text
    rw [isDirective, isDirective, hfirst, htext, htrim, Option.any_map]
    simp only [hcomment]
  · have hcode : l.codeChars = front.filter (fun x => !l.isQuoted x.1) ++
        m.codeChars.map fun x => (x.1 + u.length, x.2) := by
      rw [codeChars, codeChars, hcolumns, List.filter_append, List.filter_map]
      simp only [Function.comp_def, hquoted]
    have hskip : (front.filter fun x => !l.isQuoted x.1).find? (fun x => !isWhitespace x.2) =
        none := by
      rw [List.find?_eq_none]
      intro x hx
      simp [hwhite x (List.mem_filter.mp hx).1]
    rw [firstCodeChar, firstCodeChar, hcode, List.find?_append, hskip, Option.none_or,
      List.find?_map, Option.map_map]
    rfl
  · have hblank : ∀ c ∈ front.map (fun x => if l.isQuoted x.1 then ' ' else x.2),
        isWhitespace c = true := by
      intro c hc
      obtain ⟨x, hx, rfl⟩ := List.mem_map.mp hc
      split
      · rfl
      · exact hwhite x hx
    rw [codeText, codeText, hcolumns, List.map_append, Text.trim, Text.trim,
      Text.trimStart_append hblank, List.map_map]
    simp only [Function.comp_def, hquoted]

/-- **The indentation of a line does not depend on its own leading blanks**: two lines that are
scanned as code and differ in them only look alike to their own indentation. -/
theorem alikeInside_of_blanks {lex : Lexicon} (hlex : lex.StartsBare) {l l' : Line} {u u' t : Text}
    (hu : u.IsBlank) (hu' : u'.IsBlank) (htext : l.text = u ++ t) (htext' : l'.text = u' ++ t)
    (hscanned : l = l.scanned lex .normal) (hscanned' : l' = l'.scanned lex .normal) :
    l.AlikeInside l' := by
  -- both are compared with the line without any leading blanks
  let m := (unscanned none t).scanned lex .normal
  have hmoved : ∀ {l : Line} {u : Text}, u.IsBlank → l.text = u ++ t → l = l.scanned lex .normal →
      l.AlikeInside m := by
    intro l u hu htext hscanned
    apply alikeInside_of_moved hu htext
    · rw [hscanned]
      rfl
    · have hscan : lex.scanLine .normal l.text = (lex.scanLine .normal t).moved u.length := by
        rw [htext]
        exact (Lexicon.scanCode_blanks hlex hu 0 t).trans (lex.scanCode_moved u.length 0 0 t)
      rw [hscanned]
      exact congrArg Scan.spans hscan
  exact (hmoved hu htext hscanned).trans (hmoved hu' htext' hscanned').symm

end Line

end SourceEditor
