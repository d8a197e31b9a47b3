/-
  SourceEditor/Proofs/Lexis/Quotes.lean
  =====================================
  **Where a quote ends**: at the first end marker, and in a quote of a single line only at one that
  no backslash escapes.  The search for the end finds exactly that.
-/
import SourceEditor.Proofs.Lexis.Registration

namespace SourceEditor

theorem Text.startsWith_nil (marker : Text) : Text.startsWith [] marker = false := by
  cases marker <;> rfl

/-- Whether a text that is read from its start, each backslash together with the character behind
it, is read on from a column. -/
inductive Text.Reads : Text → Nat → Prop
  | start (t : Text) : Reads t 0
  | char {c : Char} {t : Text} {j : Nat} : c ≠ '\\' → Reads t j → Reads (c :: t) (j + 1)
  | escape {c : Char} {t : Text} {j : Nat} : Reads t j → Reads ('\\' :: c :: t) (j + 2)

namespace QuoteRule

/-- Whether a quote may end with the end marker at a column, in the text behind its start marker. -/
def EndsAt (rule : QuoteRule) (body : Text) (j : Nat) : Prop :=
  Text.startsWith (body.drop j) rule.stop = true ∧
    (rule.kind = .singleLine → body.Reads j ∧ body[j]? ≠ some '\\')

/-- Whether a quote that is open at the end of a line goes on in the next line: one of a single line
does behind a backslash that is not escaped. -/
def CarriesOn (rule : QuoteRule) (body : Text) : Prop :=
  rule.kind = .singleLine → ∃ j, body.Reads j ∧ body[j]? = some '\\' ∧ j + 1 = body.length

/-- How a quote ends in the text behind its start marker, or in the line it is carried into. -/
inductive Ends (rule : QuoteRule) (body : Text) : QuoteEnd → Prop
  | closed {j : Nat} (ends : rule.EndsAt body j) (first : ∀ i < j, ¬rule.EndsAt body i) :
    Ends rule body (.closed (j + rule.stop.length))
  | unclosed {continues : Bool} (endless : ∀ j, ¬rule.EndsAt body j)
    (carries : continues = true ↔ rule.CarriesOn body) : Ends rule body (.unclosed continues)

end QuoteRule

/-- The end as seen from a number of characters further left. -/
def QuoteEnd.moved (k : Nat) : QuoteEnd → QuoteEnd
  | .closed n => .closed (n + k)
  | .unclosed continues => .unclosed continues

theorem QuoteEnd.moved_zero (e : QuoteEnd) : e.moved 0 = e := by
  cases e <;> rfl

theorem QuoteEnd.moved_moved (k n : Nat) (e : QuoteEnd) :
    (e.moved k).moved n = e.moved (n + k) := by
  cases e with
  | closed m => simp only [moved, Nat.add_assoc, Nat.add_comm k n]
  | unclosed continues => rfl

namespace QuoteRule

variable {rule : QuoteRule} {c : Char} {body rest : Text}

theorem Ends.unique {e e' : QuoteEnd} (h : rule.Ends body e) (h' : rule.Ends body e') : e = e' := by
  cases h with
  | @closed j ends first =>
    cases h' with
    | @closed j' ends' first' =>
      rcases Nat.lt_trichotomy j j' with hlt | rfl | hlt
      · exact absurd ends (first' _ hlt)
      · rfl
      · exact absurd ends' (first _ hlt)
    | unclosed endless' => exact absurd ends (endless' _)
  | unclosed endless carries =>
    cases h' with
    | closed ends' => exact absurd ends' (endless _)
    | unclosed _ carries' =>
      have hcontinues := Bool.eq_iff_iff.mpr (carries.trans carries'.symm)
      rw [hcontinues]

/-- Characters in which no end marker begins may stand in front. -/
theorem Ends.moved {e : QuoteEnd} {k : Nat} (h : rule.Ends rest e)
    (hends : ∀ j, rule.EndsAt body j ↔ ∃ i, j = i + k ∧ rule.EndsAt rest i)
    (hcarries : rule.CarriesOn body ↔ rule.CarriesOn rest) : rule.Ends body (e.moved k) := by
  cases h with
  | @closed j ends first =>
    have hmoved := Ends.closed ((hends (j + k)).mpr ⟨j, rfl, ends⟩) ?_
    · rwa [Nat.add_right_comm] at hmoved
    · intro i hi hat
      obtain ⟨i', rfl, hat'⟩ := (hends i).mp hat
      exact first i' (by omega) hat'
  | unclosed endless carries =>
    apply Ends.unclosed
    · intro j hat
      obtain ⟨i, _, hat'⟩ := (hends j).mp hat
      exact endless i hat'
    · exact carries.trans hcarries.symm

theorem Ends.here (h : rule.EndsAt body 0) (n : Nat) :
    ∃ e, rule.Ends body e ∧ QuoteEnd.closed (n + rule.stop.length) = e.moved n := by
  refine ⟨.closed (0 + rule.stop.length), .closed h (by simp), ?_⟩
  simp [QuoteEnd.moved, Nat.add_comm]

theorem not_endsAt_nil (j : Nat) : ¬rule.EndsAt [] j := by
  rintro ⟨hstarts, _⟩
  rw [List.drop_nil, Text.startsWith_nil] at hstarts
  cases hstarts

/-! ### Quotes of several lines -/

theorem endsAt_multiLine (hkind : rule.kind = .multiLine) (j : Nat) :
    rule.EndsAt body j ↔ Text.startsWith (body.drop j) rule.stop = true := by
  simp [EndsAt, hkind]

theorem ends_findMarker (hkind : rule.kind = .multiLine) (n : Nat) (body : Text) :
    ∃ e, rule.Ends body e ∧ findMarker rule.stop n body = e.moved n := by
  induction body generalizing n with
  | nil =>
    refine ⟨.unclosed true, ?_, rfl⟩
    apply Ends.unclosed
    · exact not_endsAt_nil
    · simp [CarriesOn, hkind]
  | cons c rest ih =>
    rw [findMarker]
    by_cases hstarts : Text.startsWith (c :: rest) rule.stop = true
    · rw [if_pos hstarts]
      exact Ends.here ((endsAt_multiLine hkind 0).mpr hstarts) n
    · obtain ⟨e, he, hfound⟩ := ih (n + 1)
      rw [if_neg hstarts]
      refine ⟨e.moved 1, ?_, ?_⟩
      · apply he.moved
        · intro j
          cases j with
          | zero => simp [endsAt_multiLine hkind, hstarts]
          | succ j => simp [endsAt_multiLine hkind]
        · simp [CarriesOn, hkind]
      · rw [hfound, QuoteEnd.moved_moved]

/-! ### Quotes of a single line -/

/-- A backslash is read on its own at the end of a text and with a character behind it elsewhere,
so every other case of the search is about another character. -/
theorem ne_backslash_of_cases (hlast : c = '\\' → rest = [] → False)
    (hescape : ∀ d tail, c = '\\' → rest = d :: tail → False) : c ≠ '\\' := by
  intro hc
  cases rest with
  | nil => exact hlast hc rfl
  | cons d tail => exact hescape d tail hc rfl

theorem reads_char_iff (hc : c ≠ '\\') (j : Nat) :
    Text.Reads (c :: rest) (j + 1) ↔ rest.Reads j := by
  constructor
  · intro h
    cases h with
    | char _ h => exact h
    | escape => exact absurd rfl hc
  · exact .char hc

theorem reads_escape_iff (d : Char) (j : Nat) :
    Text.Reads ('\\' :: d :: rest) j ↔ j = 0 ∨ ∃ i, j = i + 2 ∧ rest.Reads i := by
  constructor
  · intro h
    cases h with
    | start => exact .inl rfl
    | char hc => exact absurd rfl hc
    | escape h => exact .inr ⟨_, rfl, h⟩
  · rintro (rfl | ⟨i, rfl, h⟩)
    · exact .start _
    · exact .escape h

section SingleLine

variable (hkind : rule.kind = .singleLine)

include hkind

theorem endsAt_char_iff (hc : c ≠ '\\') (hstarts : ¬Text.startsWith (c :: rest) rule.stop = true)
    (j : Nat) : rule.EndsAt (c :: rest) j ↔ ∃ i, j = i + 1 ∧ rule.EndsAt rest i := by
  cases j with
  | zero => simp [EndsAt, hstarts]
  | succ j => simp [EndsAt, hkind, reads_char_iff hc]

theorem carriesOn_char_iff (hc : c ≠ '\\') : rule.CarriesOn (c :: rest) ↔ rule.CarriesOn rest := by
  simp only [CarriesOn, hkind, forall_const]
  constructor
  · rintro ⟨_ | j, hreads, hget, hlength⟩
    · exact absurd (Option.some.inj hget) hc
    · exact ⟨j, (reads_char_iff hc j).mp hreads, hget, Nat.succ.inj hlength⟩
  · rintro ⟨j, hreads, hget, hlength⟩
    exact ⟨j + 1, .char hc hreads, hget, congrArg Nat.succ hlength⟩

theorem endsAt_escape_iff (d : Char) (j : Nat) :
    rule.EndsAt ('\\' :: d :: rest) j ↔ ∃ i, j = i + 2 ∧ rule.EndsAt rest i := by
  rw [EndsAt, reads_escape_iff]
  constructor
  · rintro ⟨hstarts, hreads⟩
    obtain ⟨rfl | ⟨i, rfl, hi⟩, hget⟩ := hreads hkind
    · exact absurd rfl hget
    · exact ⟨i, rfl, hstarts, fun _ => ⟨hi, hget⟩⟩
  · rintro ⟨i, rfl, hstarts, hreads⟩
    obtain ⟨hi, hget⟩ := hreads hkind
    exact ⟨hstarts, fun _ => ⟨.inr ⟨i, rfl, hi⟩, hget⟩⟩

theorem carriesOn_escape_iff (d : Char) :
    rule.CarriesOn ('\\' :: d :: rest) ↔ rule.CarriesOn rest := by
  simp only [CarriesOn, hkind, forall_const, reads_escape_iff]
  constructor
  · rintro ⟨j, rfl | ⟨i, rfl, hi⟩, hget, hlength⟩
    · simp at hlength
    · exact ⟨i, hi, hget, by simpa using hlength⟩
  · rintro ⟨i, hi, hget, hlength⟩
    exact ⟨i + 2, .inr ⟨i, rfl, hi⟩, hget, by simpa using hlength⟩

theorem ends_findOnLine (n : Nat) (body : Text) :
    ∃ e, rule.Ends body e ∧ findOnLine rule.stop n body = e.moved n := by
  generalize hmarker : rule.stop = marker
  fun_induction findOnLine marker n body with
  | case1 n =>
    refine ⟨.unclosed false, ?_, rfl⟩
    apply Ends.unclosed
    · exact not_endsAt_nil
    · simp [CarriesOn, hkind]
  | case2 n =>
    refine ⟨.unclosed true, ?_, rfl⟩
    apply Ends.unclosed
    · intro j hat
      cases j with
      | zero => exact (hat.2 hkind).2 rfl
      | succ j =>
        have hstarts := hat.1
        simp [Text.startsWith_nil] at hstarts
    · simp only [true_iff]
      exact fun _ => ⟨0, .start _, rfl, rfl⟩
  | case3 n d rest ih =>
    obtain ⟨e, he, hfound⟩ := ih
    refine ⟨e.moved 2, ?_, ?_⟩
    · exact he.moved (endsAt_escape_iff hkind d) (carriesOn_escape_iff hkind d)
    · rw [hfound, QuoteEnd.moved_moved]
  | case4 n c rest hlast hescape hstarts =>
    have hc := ne_backslash_of_cases hlast hescape
    subst hmarker
    apply Ends.here
    exact ⟨hstarts, fun _ => ⟨.start _, by simpa using hc⟩⟩
  | case5 n c rest hlast hescape hstarts ih =>
    have hc := ne_backslash_of_cases hlast hescape
    obtain ⟨e, he, hfound⟩ := ih
    subst hmarker
    refine ⟨e.moved 1, ?_, ?_⟩
    · exact he.moved (endsAt_char_iff hkind hc hstarts) (carriesOn_char_iff hkind hc)
    · rw [hfound, QuoteEnd.moved_moved]

end SingleLine

/-- The search for the end of a quote finds how it ends. -/
theorem ends_iff {e : QuoteEnd} : rule.Ends body e ↔ e = rule.findEnd body := by
  have hfound : rule.Ends body (rule.findEnd body) := by
    rw [findEnd]
    cases hkind : rule.kind with
    | multiLine =>
      obtain ⟨e, he, hfound⟩ := ends_findMarker hkind 0 body
      dsimp only
      rwa [hfound, QuoteEnd.moved_zero]
    | singleLine =>
      obtain ⟨e, he, hfound⟩ := ends_findOnLine hkind 0 body
      dsimp only
      rwa [hfound, QuoteEnd.moved_zero]
  constructor
  · intro h
    exact h.unique hfound
  · rintro rfl
    exact hfound

theorem Ends.length_bounds {n : Nat} (h : rule.Ends body (.closed n)) :
    0 < n ∧ n ≤ body.length := by
  cases h with
  | @closed j ends first =>
    obtain ⟨hne, hprefix⟩ := Text.startsWith_iff.mp ends.1
    have hpos := List.length_pos_iff.mpr hne
    have hlength := hprefix.length_le
    rw [List.length_drop] at hlength
    omega

end QuoteRule

end SourceEditor
