/-
  SourceEditor/Proofs/Search/Literal.lean
  =======================================
  **Literals on one line.**  What an occurrence of a text is, said by cutting the line in three;
  and that the search gives the occurrence that begins first, and the list of overlapping matches
  ends with the one that begins last.  A range that ends in the middle of a line does not hide
  anything: all occurrences are equally long, so where the first match goes past the end of the range
  there is none inside.
-/
import SourceEditor.Proofs.Search.Bounds
import SourceEditor.Proofs.Search.Context

namespace SourceEditor

open Pattern (Found)

/-! ### Occurrences -/

/-- Whether a character of a line stands for a character of the pattern. -/
def FindOptions.IsSame (o : FindOptions) (a b : Char) : Prop :=
  if o.caseSensitive = true then a = b else Unicode.sameFold a b = true

/-- Whether a pattern occurs on a line from one column to another: character by character, and, for
whole words, with no word character next to it on the whole line. -/
def FindOptions.OccursOn (o : FindOptions) (pattern line : Text) (start stop : Nat) : Prop :=
  ∃ before word after : Text, line = before ++ word ++ after ∧
    before.length = start ∧ (before ++ word).length = stop ∧
    List.Forall₂ o.IsSame pattern word ∧
    (o.wholeWord = true →
      (∀ c ∈ before.getLast?, isWordChar c = false) ∧ ∀ c ∈ after.head?, isWordChar c = false)

/-- Whether a literal is small enough to be searched for: the expression of its characters fits in
the memory that a pattern is allowed. -/
def FindOptions.Admits (o : FindOptions) (pattern : Text) : Prop :=
  (Pattern.Expr.ofText (!o.caseSensitive) pattern).fits = true

/-! ### Answers -/

/-- Whether an answer is one of the things with a property, and ahead of all of them; `none` says
that there are no such things. -/
def IsForemost {α : Type} (ahead : α → α → Prop) (P : α → Prop) : Option α → Prop
  | none => ∀ x, ¬P x
  | some x => P x ∧ ∀ y, P y → ahead x y

namespace IsForemost

variable {α β : Type} {ahead : α → α → Prop} {P Q : α → Prop} {x y : Option α}

theorem congr (h : IsForemost ahead P x) (hiff : ∀ y, P y ↔ Q y) : IsForemost ahead Q x := by
  rwa [show Q = P from funext fun y => propext (hiff y).symm]

theorem eq_none_iff (h : IsForemost ahead P x) : x = none ↔ ∀ y, ¬P y := by
  cases x with
  | none => exact iff_of_true rfl h
  | some x => exact iff_of_false (Option.some_ne_none x) fun hnone => hnone x h.1

/-- Of the things of two kinds, those of the first kind ahead of those of the second, the answer is
the one of the first kind if there is any. -/
theorem or (hx : IsForemost ahead P x) (hy : IsForemost ahead Q y)
    (hahead : ∀ a b, P a → Q b → ahead a b) : IsForemost ahead (fun a => P a ∨ Q a) (x.or y) := by
  cases x with
  | none => exact hy.congr fun a => (or_iff_right (hx a)).symm
  | some a =>
    refine ⟨.inl hx.1, ?_⟩
    rintro b (hb | hb)
    · exact hx.2 b hb
    · exact hahead a b hx.1 hb

theorem map (hx : IsForemost ahead P x) (f : α → β) (ahead' : β → β → Prop)
    (hahead : ∀ a b, ahead a b → ahead' (f a) (f b)) :
    IsForemost ahead' (fun b => ∃ a, b = f a ∧ P a) (x.map f) := by
  cases x with
  | none =>
    rintro _ ⟨a, _, ha⟩
    exact hx a ha
  | some a =>
    refine ⟨⟨a, rfl, hx.1⟩, ?_⟩
    rintro _ ⟨b, rfl, hb⟩
    exact hahead a b (hx.2 b hb)

end IsForemost

namespace Literal

theorem beginsWith_iff {ignoreCase : Bool} {wanted t : Text} :
    beginsWith ignoreCase wanted t = true ↔ ∃ word rest, t = word ++ rest ∧
      List.Forall₂ (fun a b => sameChar ignoreCase a b = true) wanted word := by
  induction wanted generalizing t with
  | nil => exact ⟨fun _ => ⟨[], t, rfl, .nil⟩, fun _ => rfl⟩
  | cons a wanted ih =>
    cases t with
    | nil =>
      constructor
      · intro h
        cases h
      · rintro ⟨word, rest, ht, hsame⟩
        obtain ⟨rfl, rfl⟩ := List.append_eq_nil_iff.mp ht.symm
        cases hsame
    | cons b t =>
      rw [beginsWith, Bool.and_eq_true, ih]
      constructor
      · rintro ⟨hab, word, rest, rfl, hsame⟩
        exact ⟨b :: word, rest, rfl, .cons hab hsame⟩
      · rintro ⟨word, rest, ht, hsame⟩
        cases hsame with
        | cons hab hsame =>
          obtain ⟨rfl, rfl⟩ := List.cons.inj ht
          exact ⟨hab, _, rest, rfl, hsame⟩

theorem not_beginsWith_of_search {ignoreCase : Bool} {wanted : Text} {col : Nat}
    {rest : Text} (h : search ignoreCase wanted col rest = none) (i : Nat) :
    ¬beginsWith ignoreCase wanted (rest.drop i) = true := by
  induction rest generalizing col i with
  | nil =>
    rw [search] at h
    split at h
    · cases h
    · rwa [List.drop_nil]
  | cons c rest ih =>
    rw [search] at h
    split at h
    · cases h
    · cases i with
      | zero => assumption
      | succ i => exact ih h i

/-- A literal is found at the first place where the text goes on with it. -/
theorem exists_of_search {ignoreCase : Bool} {wanted : Text} {col : Nat} {rest : Text}
    {f : Found} (h : search ignoreCase wanted col rest = some f) :
    ∃ i, f.start = col + i ∧ f.stop = col + i + wanted.length ∧
      beginsWith ignoreCase wanted (rest.drop i) = true ∧
      ∀ j < i, ¬beginsWith ignoreCase wanted (rest.drop j) = true := by
  induction rest generalizing col with
  | nil =>
    rw [search] at h
    split at h
    · rename_i hbegins
      obtain rfl := Option.some.inj h
      exact ⟨0, rfl, rfl, hbegins, fun j hj => absurd hj (Nat.not_lt_zero j)⟩
    · cases h
  | cons c rest ih =>
    rw [search] at h
    split at h
    · rename_i hbegins
      obtain rfl := Option.some.inj h
      exact ⟨0, rfl, rfl, hbegins, fun j hj => absurd hj (Nat.not_lt_zero j)⟩
    · rename_i hbegins
      obtain ⟨i, hstart, hstop, hfound, hleast⟩ := ih h
      refine ⟨i + 1, by omega, by omega, hfound, ?_⟩
      intro j hj
      cases j with
      | zero => exact hbegins
      | succ j => exact hleast j (by omega)

/-- A text that is cut off goes on with what it goes on with before the cut. -/
theorem beginsWith_drop_take {ignoreCase : Bool} {wanted t : Text} {limit i : Nat}
    (hne : wanted ≠ []) :
    beginsWith ignoreCase wanted ((t.take limit).drop i) = true ↔
      beginsWith ignoreCase wanted (t.drop i) = true ∧ i + wanted.length ≤ limit := by
  have hpos := List.length_pos_iff.mpr hne
  rw [List.drop_take, beginsWith_iff, beginsWith_iff]
  constructor
  · rintro ⟨word, rest, htake, hsame⟩
    refine ⟨⟨word, rest ++ (t.drop i).drop (limit - i), ?_, hsame⟩, ?_⟩
    · rw [← List.append_assoc, ← htake, List.take_append_drop]
    · have hlength := congrArg List.length htake
      have hword := hsame.length_eq
      rw [List.length_take, List.length_append] at hlength
      omega
  · rintro ⟨⟨word, rest, hdrop, hsame⟩, hle⟩
    refine ⟨word, rest.take (limit - i - word.length), ?_, hsame⟩
    have hword := hsame.length_eq
    rw [hdrop, List.take_append, List.take_of_length_le (by omega)]

end Literal

namespace Matcher

/-- The matcher of a literal. -/
def literal (pattern : Text) (o : FindOptions) : Matcher :=
  ⟨.literal pattern (!o.caseSensitive), false, o.wholeWord⟩

theorem ofPattern_literal {pattern : Text} {o : FindOptions} (nonempty : pattern ≠ [])
    (plain : o.useRegex = false) (admitted : o.Admits pattern) :
    ofPattern pattern o = .ok (literal pattern o) := by
  have hcompiled : Engine.standard.compile false (!o.caseSensitive) pattern =
      .ok (.literal pattern (!o.caseSensitive)) := if_pos admitted
  rw [ofPattern, if_neg (by rwa [List.isEmpty_iff]), plain, if_neg (by simp), hcompiled]
  rfl

theorem ofPattern_tooLarge {pattern : Text} {o : FindOptions} (nonempty : pattern ≠ [])
    (plain : o.useRegex = false) (refused : ¬o.Admits pattern) :
    ofPattern pattern o = .error (.pattern .tooLarge) := by
  have hrefused : Engine.standard.compile false (!o.caseSensitive) pattern = .error .tooLarge :=
    if_neg refused
  rw [ofPattern, if_neg (by rwa [List.isEmpty_iff]), plain, if_neg (by simp), hrefused]

/-- The direction of a search is no part of its matcher. -/
theorem ofPattern_forward {pattern : Text} {o : FindOptions} (nonempty : pattern ≠ [])
    (plain : o.useRegex = false) (admitted : o.Admits pattern) :
    ofPattern pattern o.forward = .ok (literal pattern o) :=
  ofPattern_literal (o := o.forward) nonempty plain admitted

theorem ofPattern_forward_tooLarge {pattern : Text} {o : FindOptions} (nonempty : pattern ≠ [])
    (plain : o.useRegex = false) (refused : ¬o.Admits pattern) :
    ofPattern pattern o.forward = .error (.pattern .tooLarge) :=
  ofPattern_tooLarge (o := o.forward) nonempty plain refused

/-- A pattern that is accepted is accepted for a search forward, with the same matcher. -/
theorem ofPattern_forward_of_ok {pattern : Text} {o : FindOptions} {E : Engine} {m : Matcher}
    (accepted : ofPattern pattern o E = .ok m) : ofPattern pattern o.forward E = .ok m := by
  rw [ofPattern] at accepted ⊢
  split at accepted
  · cases accepted
  · rename_i hempty
    split at accepted
    · cases accepted
    · rwa [if_neg hempty, if_neg (by simp [FindOptions.forward])]

theorem eq_literal_of_ofPattern {pattern : Text} {o : FindOptions} {m : Matcher}
    (plain : o.useRegex = false) (accepted : ofPattern pattern o = .ok m) :
    pattern ≠ [] ∧ m = literal pattern o := by
  by_cases nonempty : pattern = []
  · rw [ofPattern, nonempty] at accepted
    cases accepted
  · refine ⟨nonempty, ?_⟩
    by_cases admitted : o.Admits pattern
    · rw [ofPattern_literal nonempty plain admitted] at accepted
      exact (Except.ok.inj accepted).symm
    · rw [ofPattern_tooLarge nonempty plain admitted] at accepted
      cases accepted

theorem isSame_iff {o : FindOptions} {a b : Char} :
    o.IsSame a b ↔ Literal.sameChar (!o.caseSensitive) a b = true := by
  rw [FindOptions.IsSame, Literal.sameChar]
  cases o.caseSensitive <;> simp

theorem any_isWordChar_eq_false_iff {x : Option Char} :
    x.any isWordChar = false ↔ ∀ c ∈ x, isWordChar c = false := by
  cases x <;> simp

/-- The ends of words are where the parts of a line next to a stretch say. -/
theorem isWordBounded_append (before word after : Text) :
    isWordBounded (before ++ word ++ after) before.length (before ++ word).length = true ↔
      (∀ c ∈ before.getLast?, isWordChar c = false) ∧ ∀ c ∈ after.head?, isWordChar c = false := by
  have hbefore := charBefore_append before (word ++ after) 0
  rw [if_pos rfl, Nat.zero_add, ← List.append_assoc] at hbefore
  have hafter : (before ++ word ++ after)[(before ++ word).length]? = after.head? := by
    rw [List.getElem?_append_right (Nat.le_refl _), Nat.sub_self, List.head?_eq_getElem?]
  rw [isWordBounded, hbefore, hafter, Bool.and_eq_true, Bool.not_eq_true', Bool.not_eq_true',
    any_isWordChar_eq_false_iff, any_isWordChar_eq_false_iff]

section Line

variable {pattern : Text} {o : FindOptions} {t : Text}

/-- Whether a literal stands at a column of a line, words or not. -/
def StandsAt (pattern : Text) (o : FindOptions) (t : Text) (col : Nat) : Prop :=
  Literal.beginsWith (!o.caseSensitive) pattern (t.drop col) = true

theorem occursOn_iff (nonempty : pattern ≠ []) {start stop : Nat} :
    o.OccursOn pattern t start stop ↔ StandsAt pattern o t start ∧
      stop = start + pattern.length ∧ (o.wholeWord = true → isWordBounded t start stop = true) := by
  rw [StandsAt, Literal.beginsWith_iff]
  simp only [← isSame_iff]
  constructor
  · rintro ⟨before, word, after, rfl, rfl, rfl, hsame, hwords⟩
    refine ⟨⟨word, after, by rw [List.append_assoc, List.drop_left], hsame⟩, ?_, ?_⟩
    · rw [List.length_append, hsame.length_eq]
    · intro hwhole
      exact (isWordBounded_append before word after).mpr (hwords hwhole)
  · rintro ⟨⟨word, after, hdrop, hsame⟩, rfl, hwords⟩
    have hlt : start < t.length := by
      rw [← List.drop_eq_nil_iff.not.trans Nat.not_le, hdrop]
      intro hnil
      obtain ⟨rfl, rfl⟩ := List.append_eq_nil_iff.mp hnil
      exact nonempty (List.forall₂_nil_right_iff.mp hsame)
    have hstart : (t.take start).length = start := List.length_take_of_le (Nat.le_of_lt hlt)
    have hline : t = t.take start ++ word ++ after := by
      rw [List.append_assoc, ← hdrop, List.take_append_drop]
    have hstop : (t.take start ++ word).length = start + pattern.length := by
      rw [List.length_append, hstart, hsame.length_eq]
    refine ⟨t.take start, word, after, hline, hstart, hstop, hsame, ?_⟩
    intro hwhole
    rw [← isWordBounded_append, ← hline, hstart, hstop]
    exact hwords hwhole

theorem le_of_findAt_literal {col : Nat} {f : Found}
    (h : (literal pattern o).findAt t col = some f) :
    f.stop = f.start + pattern.length ∧ StandsAt pattern o t f.start ∧
      ∀ i, col ≤ i → StandsAt pattern o t i → f.start ≤ i := by
  obtain ⟨n, hstart, hstop, hfound, hleast⟩ := Literal.exists_of_search h
  rw [List.drop_drop, ← hstart] at hfound
  refine ⟨by omega, hfound, ?_⟩
  intro i hi hstands
  by_contra hlt
  apply hleast (i - col) (by omega)
  rwa [List.drop_drop, Nat.add_sub_cancel' hi]

theorem not_standsAt_of_findAt {col : Nat} (h : (literal pattern o).findAt t col = none) {i : Nat}
    (hi : col ≤ i) : ¬StandsAt pattern o t i := by
  have hnone := Literal.not_beginsWith_of_search h (i - col)
  rwa [List.drop_drop, Nat.add_sub_cancel' hi] at hnone

/-- The first place of a literal within a limit, if there is one.  The search on the cut line is in
vain: what it could find would stand before the first place on the whole line. -/
theorem findWithin_literal (nonempty : pattern ≠ []) (t : Text) (limit col : Nat) :
    IsForemost (fun f g => f.start ≤ g.start)
      (fun f => col ≤ f.start ∧ f.stop ≤ limit ∧ f.stop = f.start + pattern.length ∧
        StandsAt pattern o t f.start)
      ((literal pattern o).findWithin t limit col) := by
  rw [findWithin]
  rcases hfound : (literal pattern o).findAt t col with _ | f
  · rintro g ⟨hcol, _, _, hstands⟩
    exact not_standsAt_of_findAt hfound hcol hstands
  · obtain ⟨hstop, hstands, hleast⟩ := le_of_findAt_literal hfound
    by_cases hlimit : limit < f.stop
    · simp only [if_pos hlimit]
      have hpast : ∀ i, col ≤ i → StandsAt pattern o t i → limit < i + pattern.length := by
        intro i hi hi'
        have := hleast i hi hi'
        omega
      rcases hcut : (literal pattern o).findAt (t.take limit) col with _ | g
      · rintro g ⟨hcol, hle, hlength, hstands'⟩
        have := hpast _ hcol hstands'
        omega
      · obtain ⟨hstop', hstands', _⟩ := le_of_findAt_literal hcut
        obtain ⟨hwhole, hle⟩ := (Literal.beginsWith_drop_take nonempty).mp hstands'
        have := hpast _ (le_start_of_findAt hcut) hwhole
        omega
    · simp only [if_neg hlimit]
      refine ⟨⟨le_start_of_findAt hfound, by omega, hstop, hstands⟩, ?_⟩
      rintro g ⟨hcol, _, _, hstands'⟩
      exact hleast _ hcol hstands'

/-- The occurrences on a line between two columns. -/
def OccursBetween (pattern : Text) (o : FindOptions) (t : Text) (col limit : Nat) (c : Nat × Nat) :
    Prop :=
  col ≤ c.1 ∧ c.2 ≤ limit ∧ o.OccursOn pattern t c.1 c.2

theorem accepts_literal_iff (nonempty : pattern ≠ []) {f : Found}
    (hstop : f.stop = f.start + pattern.length) (hstands : StandsAt pattern o t f.start) :
    (literal pattern o).accepts t f = true ↔ o.OccursOn pattern t f.start f.stop := by
  have hpos := List.length_pos_iff.mpr nonempty
  have hlength : (f.length != 0) = true := by
    rw [bne_iff_ne, Found.length]
    omega
  rw [occursOn_iff nonempty, accepts, hlength, Bool.true_and, literal]
  cases o.wholeWord <;> simp [hstop, hstands]

/-- **The next match of a literal is the occurrence that begins first.**  Places where the literal
stands as a part of a longer word only are passed over one by one. -/
theorem nextMatch_literal (nonempty : pattern ≠ []) (t : Text) (limit col : Nat) :
    IsForemost (fun c d => c.1 ≤ d.1) (OccursBetween pattern o t col limit)
      ((literal pattern o).nextMatch t limit col) := by
  have hpos := List.length_pos_iff.mpr nonempty
  -- the columns from `col` up to the limit get fewer
  induction hn : limit + 1 - col using Nat.strongRecOn generalizing col with
  | ind n ih =>
    rw [nextMatch_eq]
    by_cases hle : col ≤ limit
    · rw [if_pos hle]
      have hfirst := findWithin_literal (o := o) nonempty t limit col
      rcases hfound : (literal pattern o).findWithin t limit col with _ | f
      · rw [hfound] at hfirst
        rintro c ⟨hcol, hlimit, hoccurs⟩
        obtain ⟨hstands, hstop, _⟩ := (occursOn_iff nonempty).mp hoccurs
        exact hfirst ⟨c.1, c.2, []⟩ ⟨hcol, hlimit, hstop, hstands⟩
      · rw [hfound] at hfirst
        obtain ⟨⟨hcol, hlimit, hstop, hstands⟩, hleast⟩ := hfirst
        have hbehind : ∀ c, OccursBetween pattern o t col limit c → f.start ≤ c.1 := by
          rintro c ⟨hcol', hlimit', hoccurs⟩
          obtain ⟨hstands', hstop', _⟩ := (occursOn_iff nonempty).mp hoccurs
          exact hleast ⟨c.1, c.2, []⟩ ⟨hcol', hlimit', hstop', hstands'⟩
        by_cases haccepts : (literal pattern o).accepts t f = true
        · simp only [if_pos haccepts]
          exact ⟨⟨hcol, hlimit, (accepts_literal_iff nonempty hstop hstands).mp haccepts⟩, hbehind⟩
        · simp only [if_neg haccepts]
          apply (ih (limit + 1 - (f.start + 1)) (by omega) (f.start + 1) rfl).congr
          intro c
          constructor
          · rintro ⟨hcol', hlimit', hoccurs⟩
            exact ⟨by omega, hlimit', hoccurs⟩
          · rintro ⟨hcol', hlimit', hoccurs⟩
            have hstart := hbehind c ⟨hcol', hlimit', hoccurs⟩
            refine ⟨?_, hlimit', hoccurs⟩
            rcases Nat.lt_or_eq_of_le hstart with hlt | heq
            · exact hlt
            · obtain ⟨_, hstop', _⟩ := (occursOn_iff nonempty).mp hoccurs
              have hsame : c.2 = f.stop := by omega
              rw [← heq, hsame] at hoccurs
              exact absurd ((accepts_literal_iff nonempty hstop hstands).mpr hoccurs) haccepts
    · rw [if_neg hle]
      rintro c ⟨hcol, hlimit, hoccurs⟩
      obtain ⟨_, hstop, _⟩ := (occursOn_iff nonempty).mp hoccurs
      omega

/-- **The last of the overlapping matches of a literal is the occurrence that begins last.** -/
theorem getLast?_lineMatches_literal (nonempty : pattern ≠ []) (t : Text) (limit col : Nat) :
    IsForemost (fun c d => d.1 ≤ c.1) (OccursBetween pattern o t col limit)
      ((literal pattern o).lineMatches t limit true col).getLast? := by
  induction hn : limit + 1 - col using Nat.strongRecOn generalizing col with
  | ind n ih =>
    have hfirst := nextMatch_literal (o := o) nonempty t limit col
    rw [lineMatches_eq]
    rcases hnext : (literal pattern o).nextMatch t limit col with _ | r
    · rw [hnext] at hfirst
      exact hfirst
    · rw [hnext] at hfirst
      obtain ⟨hr, hleast⟩ := hfirst
      obtain ⟨hcol, hstart, _⟩ := nextMatch_bounds hnext
      have hrest := ih (limit + 1 - (r.1 + 1)) (by omega) (r.1 + 1) rfl
      simp only [if_true, List.getLast?_cons]
      rcases hlast : ((literal pattern o).lineMatches t limit true (r.1 + 1)).getLast? with _ | c
      · rw [hlast] at hrest
        refine ⟨hr, ?_⟩
        intro c hc
        by_contra hlt
        rw [Option.getD_none, Nat.not_le] at hlt
        exact hrest c ⟨hlt, hc.2⟩
      · rw [hlast] at hrest
        obtain ⟨hc, hgreatest⟩ := hrest
        have hbehind := hc.1
        rw [Option.getD_some]
        refine ⟨⟨by omega, hc.2⟩, ?_⟩
        intro d hd
        by_cases hlt : r.1 < d.1
        · exact hgreatest d ⟨hlt, hd.2⟩
        · omega

end Line

end Matcher

end SourceEditor
