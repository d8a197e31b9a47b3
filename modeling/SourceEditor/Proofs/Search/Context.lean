/-
  SourceEditor/Proofs/Search/Context.lean
  =======================================
  **Matching on the rest of a line.**  On two lines that end alike, a matcher finds the same from
  the place on where they begin to be alike, provided that it does not tell what stands in front of
  that place apart.  The engine of the program does not look further back than to the last
  character in front, and that one only the assertions of a pattern look at.
-/
import Mathlib.Data.Option.Basic
import SourceEditor.Proofs.Pattern.Context
import SourceEditor.Proofs.Text.Points
import SourceEditor.Search.Matcher

namespace SourceEditor

open Pattern (Found Program)

/-! ### Matches behind two texts -/

/-- Whether a match is as far behind one text as another match is behind another text. -/
structure Pattern.Found.AsFar (x x' : Text) (f f' : Found) : Prop where
  start : f'.start + x.length = f.start + x'.length
  stop : f'.stop + x.length = f.stop + x'.length

/-- Whether in addition their groups have matched the same, where the lines go on with `y`. -/
structure Pattern.Found.SameBehind (x x' y : Text) (f f' : Found) : Prop extends
    Found.AsFar x x' f f' where
  groupText : f'.groupText (x' ++ y) = f.groupText (x ++ y)

namespace Regex

/-- Whether a pattern finds the same behind two texts, whatever follows on the line. -/
def Alike (re : Regex) (x x' : Text) : Prop :=
  ∀ y i, Option.Rel (Found.SameBehind x x' y) (re.findAt (x ++ y) (i + x.length))
    (re.findAt (x' ++ y) (i + x'.length))

theorem Alike.refl (re : Regex) (x : Text) : re.Alike x x := by
  intro y i
  rcases re.findAt (x ++ y) (i + x.length) with _ | f
  · exact .none
  · exact .some ⟨⟨rfl, rfl⟩, rfl⟩

theorem Alike.trans {re : Regex} {x x' x'' : Text} (h : re.Alike x x') (h' : re.Alike x' x'') :
    re.Alike x x'' := by
  intro y i
  have hfirst := h y i
  have hsecond := h' y i
  generalize re.findAt (x ++ y) (i + x.length) = r at hfirst ⊢
  generalize re.findAt (x' ++ y) (i + x'.length) = r' at hfirst hsecond
  generalize re.findAt (x'' ++ y) (i + x''.length) = r'' at hsecond ⊢
  cases hfirst with
  | none =>
    cases hsecond
    exact .none
  | some hfirst =>
    cases hsecond with
    | some hsecond =>
      have hstart := hfirst.start
      have hstop := hfirst.stop
      have hstart' := hsecond.start
      have hstop' := hsecond.stop
      exact .some ⟨⟨by omega, by omega⟩, hsecond.groupText.trans hfirst.groupText⟩

theorem Alike.symm {re : Regex} {x x' : Text} (h : re.Alike x x') : re.Alike x' x := by
  intro y i
  have hfirst := h y i
  generalize re.findAt (x ++ y) (i + x.length) = r at hfirst ⊢
  generalize re.findAt (x' ++ y) (i + x'.length) = r' at hfirst ⊢
  cases hfirst with
  | none => exact .none
  | some hf => exact .some ⟨⟨hf.start.symm, hf.stop.symm⟩, hf.groupText.symm⟩

/-- Texts that are not told apart are not told apart with the same text behind both. -/
theorem Alike.append {re : Regex} {x x' : Text} (h : re.Alike x x') (g : Text) :
    re.Alike (x ++ g) (x' ++ g) := by
  intro y i
  have hcol : ∀ z : Text, i + g.length + z.length = i + (z ++ g).length := fun z => by
    rw [List.length_append]
    omega
  have hfound := h (g ++ y) (i + g.length)
  rw [← List.append_assoc, ← List.append_assoc, hcol, hcol] at hfound
  generalize re.findAt (x ++ g ++ y) (i + (x ++ g).length) = r at hfound ⊢
  generalize re.findAt (x' ++ g ++ y) (i + (x' ++ g).length) = r' at hfound ⊢
  cases hfound with
  | none => exact .none
  | some hf =>
    have hstart := hf.start
    have hstop := hf.stop
    have hgroups := hf.groupText
    rw [← List.append_assoc, ← List.append_assoc] at hgroups
    refine .some ⟨⟨?_, ?_⟩, hgroups⟩
    · rw [List.length_append, List.length_append]
      omega
    · rw [List.length_append, List.length_append]
      omega

end Regex

/-! ### The engine of the program -/

theorem Literal.search_moved (n : Nat) (ignoreCase : Bool) (wanted : Text) (col : Nat)
    (rest : Text) :
    search ignoreCase wanted (col + n) rest =
      (search ignoreCase wanted col rest).map (Found.moved n) := by
  induction rest generalizing col with
  | nil =>
    unfold search
    split
    · rw [Nat.add_right_comm]
      rfl
    · rfl
  | cons c rest ih =>
    unfold search
    split
    · rw [Nat.add_right_comm]
      rfl
    · dsimp only
      rw [Nat.add_right_comm]
      exact ih (col + 1)

/-- The character before a place behind a text, or before a place further on. -/
theorem charBefore_append (x y : Text) (i : Nat) :
    charBefore (x ++ y) (i + x.length) = if i = 0 then x.getLast? else y[i - 1]? := by
  rw [charBefore]
  by_cases hi : i = 0
  · rw [if_pos hi, hi, Nat.zero_add]
    cases x with
    | nil => rfl
    | cons c x =>
      rw [if_neg (by simp), List.getLast?_eq_getElem?, List.getElem?_append_left (by simp)]
  · rw [if_neg hi, if_neg (by omega), List.getElem?_append_right (by omega)]
    congr 1
    omega

theorem drop_add_length (x y : Text) (i : Nat) : (x ++ y).drop (i + x.length) = y.drop i := by
  rw [Nat.add_comm, List.drop_append]
  simp

namespace Regex

/-- What is found in the rest of the line alone is found behind any two texts. -/
theorem rel_moved (x x' y : Text) (r : Option Found) :
    Option.Rel (Found.SameBehind x x' y) (r.map (Found.moved x.length))
      (r.map (Found.moved x'.length)) := by
  rcases r with _ | f
  · exact .none
  · refine .some ⟨⟨?_, ?_⟩, ?_⟩
    · exact Nat.add_right_comm _ _ _
    · exact Nat.add_right_comm _ _ _
    · funext group
      rw [Found.groupText_moved, Found.groupText_moved]

theorem alike_literal (wanted : Text) (ignoreCase : Bool) (x x' : Text) :
    (literal wanted ignoreCase).Alike x x' := by
  intro y i
  simp only [literal, drop_add_length, Literal.search_moved]
  exact rel_moved x x' y _

/-- The program of a regular expression finds the same behind two texts, if none of its assertions
tells the last characters of these apart. -/
theorem alike_ofProgram {p : Program} {x x' : Text} (h : p.Alike x.getLast? x'.getLast?) :
    (ofProgram p).Alike x x' := by
  intro y i
  have hbefore : p.Alike (charBefore (x ++ y) (i + x.length))
      (charBefore (x' ++ y) (i + x'.length)) := by
    rw [charBefore_append, charBefore_append]
    split
    · exact h
    · exact .refl p _
  have hmoved : ∀ (n : Nat) (c : Option Char), p.Alike (charBefore (x ++ y) (i + x.length)) c →
      p.search ∅ c (i + n) (y.drop i) =
        (p.search ∅ (charBefore (x ++ y) (i + x.length)) i (y.drop i)).map (Found.moved n) :=
    fun _ _ hc => Program.search_moved (fun _ => by simp) hc i (y.drop i)
  simp only [ofProgram, drop_add_length]
  rw [hmoved x.length _ (.refl p _), hmoved x'.length _ hbefore]
  exact rel_moved x x' y _

end Regex

/-- A pattern that the engine of the program makes ready is a literal, or has a program. -/
theorem Engine.standard_cases {useRegex ignoreCase : Bool} {pattern : Text} {re : Regex}
    (h : Engine.standard.compile useRegex ignoreCase pattern = .ok re) :
    (useRegex = false ∧ re = .literal pattern ignoreCase) ∨
      (useRegex = true ∧ ∃ p, Program.ofPattern ignoreCase pattern = .ok p ∧ re = .ofProgram p) := by
  simp only [standard] at h
  cases useRegex with
  | false =>
    rw [if_neg Bool.false_ne_true] at h
    split at h
    · exact .inl ⟨rfl, (Except.ok.inj h).symm⟩
    · cases h
  | true =>
    rw [if_pos rfl] at h
    rcases hp : Program.ofPattern ignoreCase pattern with e | p
    · rw [hp] at h
      cases h
    · rw [hp] at h
      exact .inr ⟨rfl, p, rfl, (Except.ok.inj h).symm⟩

/-! ### Matchers -/

/-- Whether neither an assertion of the pattern nor the question where words end tells two
characters apart in front of a place. -/
structure FindOptions.Alike (o : FindOptions) (pattern : Text) (c d : Option Char) : Prop where
  program : o.useRegex = true → ∀ p, Program.ofPattern (!o.caseSensitive) pattern = .ok p →
    p.Alike c d
  words : o.wholeWord = true → c.any isWordChar = d.any isWordChar

namespace Matcher

/-- Whether a matcher does not tell two texts apart that stand in front of the same: neither what
its pattern finds does, nor the question where words end. -/
structure Alike (m : Matcher) (x x' : Text) : Prop where
  regex : m.regex.Alike x x'
  words : m.wholeWord = true → x.getLast?.any isWordChar = x'.getLast?.any isWordChar

theorem Alike.refl (m : Matcher) (x : Text) : m.Alike x x := ⟨.refl m.regex x, fun _ => rfl⟩

theorem Alike.symm {m : Matcher} {x x' : Text} (h : m.Alike x x') : m.Alike x' x :=
  ⟨h.regex.symm, fun hw => (h.words hw).symm⟩

theorem Alike.trans {m : Matcher} {x x' x'' : Text} (h : m.Alike x x') (h' : m.Alike x' x'') :
    m.Alike x x'' :=
  ⟨h.regex.trans h'.regex, fun hw => (h.words hw).trans (h'.words hw)⟩

theorem Alike.append {m : Matcher} {x x' : Text} (h : m.Alike x x') (g : Text) :
    m.Alike (x ++ g) (x' ++ g) where
  regex := h.regex.append g
  words hw := by
    rw [List.getLast?_append, List.getLast?_append]
    rcases g.getLast? with _ | c
    · exact h.words hw
    · rfl

/-- The same text behind both keeps the lines alike on which they end. -/
theorem Alike.lastPart_append {m : Matcher} {s s' : Text} (h : m.Alike s.lastPart s'.lastPart)
    (g : Text) : m.Alike (s ++ g).lastPart (s' ++ g).lastPart := by
  by_cases hfeed : '\n' ∈ g
  · rw [Text.lastPart_append_of_mem s hfeed, Text.lastPart_append_of_mem s' hfeed]
    exact .refl m _
  · rw [Text.lastPart_append_of_not_mem s hfeed, Text.lastPart_append_of_not_mem s' hfeed]
    exact h.append g

/-- A pattern that is accepted has been made ready by the engine. -/
theorem exists_compile_of_ofPattern {pattern : Text} {o : FindOptions} {E : Engine} {m : Matcher}
    (accepted : ofPattern pattern o E = .ok m) :
    ∃ re, E.compile o.useRegex (!o.caseSensitive) pattern = .ok re ∧
      m = ⟨re, o.useRegex, o.wholeWord⟩ := by
  rw [ofPattern] at accepted
  split at accepted
  · cases accepted
  · split at accepted
    · cases accepted
    · split at accepted
      · cases accepted
      · rename_i re hre
        exact ⟨re, hre, (Except.ok.inj accepted).symm⟩

/-- With the engine of the program, two texts are not told apart if their last characters are
not. -/
theorem alike_of_ofPattern {pattern : Text} {o : FindOptions} {m : Matcher}
    (accepted : ofPattern pattern o = .ok m) {x x' : Text}
    (h : o.Alike pattern x.getLast? x'.getLast?) : m.Alike x x' := by
  obtain ⟨re, hre, rfl⟩ := exists_compile_of_ofPattern accepted
  refine ⟨?_, h.words⟩
  rcases Engine.standard_cases hre with ⟨_, rfl⟩ | ⟨huse, p, hp, rfl⟩
  · exact Regex.alike_literal _ _ x x'
  · exact Regex.alike_ofProgram (h.program huse p hp)

section Suffix

variable {m : Matcher} {x x' : Text} (h : m.Alike x x') (y : Text)

include h

theorem rel_findWithin (k i : Nat) :
    Option.Rel (Found.AsFar x x') (m.findWithin (x ++ y) (k + x.length) (i + x.length))
      (m.findWithin (x' ++ y) (k + x'.length) (i + x'.length)) := by
  have htake : ∀ z : Text, (z ++ y).take (k + z.length) = z ++ y.take k := fun z => by
    rw [List.take_append, Nat.add_sub_cancel, List.take_of_length_le (Nat.le_add_left _ _)]
  have hwhole := h.regex y i
  have hcut := h.regex (y.take k) i
  simp only [findWithin, findAt, htake]
  generalize m.regex.findAt (x ++ y) (i + x.length) = r at hwhole ⊢
  generalize m.regex.findAt (x' ++ y) (i + x'.length) = r' at hwhole ⊢
  generalize m.regex.findAt (x ++ y.take k) (i + x.length) = s at hcut ⊢
  generalize m.regex.findAt (x' ++ y.take k) (i + x'.length) = s' at hcut ⊢
  cases hwhole with
  | none => exact .none
  | @some f f' hf =>
    have hstop := hf.stop
    by_cases hlt : k + x.length < f.stop
    · simp only [if_pos hlt, if_pos (show k + x'.length < f'.stop by omega)]
      cases hcut with
      | none => exact .none
      | some hs => exact .some hs.toAsFar
    · simp only [if_neg hlt, if_neg (show ¬k + x'.length < f'.stop by omega)]
      exact .some hf.toAsFar

/-- Of two matches that are as far behind the texts both count, or none does. -/
theorem accepts_congr {f f' : Found} (hf : Found.AsFar x x' f f') (hstart : x.length ≤ f.start) :
    m.accepts (x' ++ y) f' = m.accepts (x ++ y) f := by
  have hfirst := hf.start
  have hlast := hf.stop
  have hlength : f'.length = f.length := by
    simp only [Found.length]
    omega
  rw [accepts, accepts, hlength]
  by_cases hempty : f.length = 0
  · simp [hempty]
  · rw [Found.length] at hempty
    have hbefore : m.wholeWord = true →
        (charBefore (x' ++ y) f'.start).any isWordChar =
          (charBefore (x ++ y) f.start).any isWordChar := by
      intro hw
      obtain ⟨i, hi⟩ := Nat.exists_eq_add_of_le' hstart
      rw [show f'.start = i + x'.length by omega, hi, charBefore_append, charBefore_append]
      split
      · exact (h.words hw).symm
      · rfl
    have hafter : (x' ++ y)[f'.stop]? = (x ++ y)[f.stop]? := by
      rw [List.getElem?_append_right (by omega), List.getElem?_append_right (by omega)]
      congr 1
      omega
    cases hw : m.wholeWord with
    | false => rfl
    | true => rw [isWordBounded, isWordBounded, hbefore hw, hafter]

/-- The text that takes the place of a match depends on what is found there. -/
theorem replacementAt_append {i : Nat} (hi : i ≤ y.length) (replacement : Text) :
    m.replacementAt (x ++ y) (i + x.length) replacement =
      m.replacementAt (x' ++ y) (i + x'.length) replacement := by
  have hmin : ∀ z : Text, min (i + z.length) (z ++ y).length = i + z.length := fun z => by
    rw [List.length_append]
    omega
  have hfound := h.regex y i
  rw [replacementAt, replacementAt, hmin, hmin, findAt, findAt]
  generalize m.regex.findAt (x ++ y) (i + x.length) = r at hfound ⊢
  generalize m.regex.findAt (x' ++ y) (i + x'.length) = r' at hfound ⊢
  cases hfound with
  | none => rfl
  | some hf => simp only [hf.groupText]

end Suffix

/-! ### Matches -/

theorem nextMatch_eq (m : Matcher) (t : Text) (limit col : Nat) :
    m.nextMatch t limit col =
      if col ≤ limit then
        match m.findWithin t limit col with
        | none => none
        | some f =>
          if m.accepts t f then some (f.start, f.stop) else m.nextMatch t limit (f.start + 1)
      else none := by
  rw [nextMatch]
  split
  · split <;> rename_i hf <;> simp only [hf]
  · rfl

theorem lineMatches_eq (m : Matcher) (t : Text) (limit : Nat) (overlapping : Bool) (col : Nat) :
    m.lineMatches t limit overlapping col =
      match m.nextMatch t limit col with
      | none => []
      | some r => r :: m.lineMatches t limit overlapping (if overlapping then r.1 + 1 else r.2) := by
  rw [lineMatches]
  split <;> rename_i hr <;> simp only [hr]

/-- A pair of columns, so many columns further on. -/
def movedColumns (n : Nat) (r : Nat × Nat) : Nat × Nat := (r.1 + n, r.2 + n)

theorem exists_nextMatch {m : Matcher} {x x' : Text} (h : m.Alike x x') (y : Text) (k i : Nat) :
    ∃ r : Option (Nat × Nat),
      m.nextMatch (x ++ y) (k + x.length) (i + x.length) = r.map (movedColumns x.length) ∧
      m.nextMatch (x' ++ y) (k + x'.length) (i + x'.length) = r.map (movedColumns x'.length) := by
  -- the columns from `i` up to the limit get fewer
  induction hn : k + 1 - i using Nat.strongRecOn generalizing i with
  | ind n ih =>
    rw [nextMatch_eq, nextMatch_eq m (x' ++ y)]
    simp only [Nat.add_le_add_iff_right]
    by_cases hle : i ≤ k
    · rw [if_pos hle, if_pos hle]
      have hfound := rel_findWithin h y k i
      rcases hr : m.findWithin (x ++ y) (k + x.length) (i + x.length) with _ | f
      · rw [hr] at hfound
        generalize m.findWithin (x' ++ y) (k + x'.length) (i + x'.length) = r' at hfound
        cases hfound
        exact ⟨none, rfl, rfl⟩
      · have hstart := le_start_of_findWithin hr
        rw [hr] at hfound
        generalize m.findWithin (x' ++ y) (k + x'.length) (i + x'.length) = r' at hfound
        cases hfound with
        | @some _ f' hf =>
          have hfirst := hf.start
          have hlast := hf.stop
          simp only [accepts_congr h y hf (by omega)]
          by_cases haccepts : m.accepts (x ++ y) f = true
          · have hlt := lt_of_accepts haccepts
            refine ⟨some (f.start - x.length, f.stop - x.length), ?_, ?_⟩
            · simp only [if_pos haccepts, Option.map_some, movedColumns, Option.some.injEq,
                Prod.mk.injEq]
              omega
            · simp only [if_pos haccepts, Option.map_some, movedColumns, Option.some.injEq,
                Prod.mk.injEq]
              omega
          · simp only [if_neg haccepts]
            have hnext := ih (k + 1 - (f.start - x.length + 1)) (by omega)
              (f.start - x.length + 1) rfl
            rwa [show f.start - x.length + 1 + x.length = f.start + 1 by omega,
              show f.start - x.length + 1 + x'.length = f'.start + 1 by omega] at hnext
    · exact ⟨none, by rw [if_neg hle]; rfl, by rw [if_neg hle]; rfl⟩

end Matcher

end SourceEditor
