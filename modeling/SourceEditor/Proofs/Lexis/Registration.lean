/-
  SourceEditor/Proofs/Lexis/Registration.lean
  ===========================================
  **Registered rules.**  Registration accepts rules with a start marker of their own, and with an
  end marker where one is needed.  So of the start markers that occur at a place of a text one is the
  longest, and it belongs to one rule only: which rule a quote follows does not depend on the place
  of the rule in the table.
-/
import SourceEditor.Lexis.Language
import Mathlib.Data.List.Nodup

namespace SourceEditor

theorem Text.startsWith_iff {t marker : Text} :
    t.startsWith marker = true ↔ marker ≠ [] ∧ marker <+: t := by
  simp [startsWith]

/-- Of two markers with which a text starts, the shorter is a prefix of the longer; of the same
length there is one only. -/
theorem Text.eq_of_startsWith {t m m' : Text} (h : t.startsWith m = true)
    (h' : t.startsWith m' = true) (hlength : m.length = m'.length) : m = m' := by
  have hprefix := List.prefix_of_prefix_length_le (startsWith_iff.mp h).2 (startsWith_iff.mp h').2
    (Nat.le_of_eq hlength)
  exact hprefix.eq_of_length hlength

/-- Whether a rule has the markers that it needs. -/
structure QuoteRule.IsComplete (rule : QuoteRule) : Prop where
  start : rule.start ≠ []
  stop : rule.kind = .multiLine → rule.stop ≠ []

namespace Lexicon

/-- Whether the rules are such as registration accepts: complete, each with a start marker of its
own. -/
structure IsRegular (lex : Lexicon) : Prop where
  complete : ∀ rule ∈ lex.quotes, rule.IsComplete
  distinct : (lex.quotes.map QuoteRule.start).Nodup

theorem isRegular_of_nil {lex : Lexicon} (h : lex.quotes = []) : lex.IsRegular := by
  constructor
  · simp [h]
  · simp [h]

theorem IsRegular.of_perm {lex lex' : Lexicon} (hlex : lex.IsRegular)
    (perm : lex.quotes.Perm lex'.quotes) : lex'.IsRegular := by
  constructor
  · intro rule hrule
    exact hlex.complete rule (perm.mem_iff.mpr hrule)
  · exact (perm.map _).nodup_iff.mp hlex.distinct

/-! ### Registering -/

/-- The lexicon with one more rule at the end. -/
def withQuote (lex : Lexicon) (rule : QuoteRule) : Lexicon :=
  { lex with quotes := lex.quotes ++ [rule] }

theorem addQuote_eq_ok_iff {lex lex' : Lexicon} {rule : QuoteRule} {i : Nat} :
    lex.addQuote rule = .ok (i, lex') ↔
      rule.IsComplete ∧ rule.start ∉ lex.quotes.map QuoteRule.start ∧
        i = lex.quotes.length ∧ lex' = lex.withQuote rule := by
  rw [addQuote]
  by_cases hstart : rule.start = []
  · have hincomplete : ¬rule.IsComplete := fun h => h.start hstart
    simp [hstart, hincomplete]
  · by_cases hstop : rule.kind = .multiLine ∧ rule.stop = []
    · have hincomplete : ¬rule.IsComplete := fun h => h.stop hstop.1 hstop.2
      simp [hstart, hstop.1, hstop.2, hincomplete]
    · have hcomplete : rule.IsComplete := ⟨hstart, fun hkind hnil => hstop ⟨hkind, hnil⟩⟩
      by_cases htaken : ∃ q ∈ lex.quotes, q.start = rule.start
      · simp [hstart, hstop, htaken]
      · have hnew : rule.start ∉ lex.quotes.map QuoteRule.start := by simpa using htaken
        have hok : lex.quotes.any (fun q => q.start = rule.start) = false := by
          simpa using htaken
        simp only [List.isEmpty_iff, hstart, hstop, hok, Bool.false_eq_true, if_false,
          Except.ok.injEq, Prod.mk.injEq, hcomplete, hnew, not_false_eq_true, true_and]
        exact and_congr eq_comm eq_comm

theorem isRegular_withQuote_iff {lex : Lexicon} {rule : QuoteRule} :
    (lex.withQuote rule).IsRegular ↔
      lex.IsRegular ∧ rule.IsComplete ∧ rule.start ∉ lex.quotes.map QuoteRule.start := by
  constructor
  · rintro ⟨hcomplete, hdistinct⟩
    simp only [withQuote, List.map_append, List.map_singleton, List.nodup_append',
      List.disjoint_singleton] at hdistinct
    refine ⟨⟨?_, hdistinct.1⟩, hcomplete rule (by simp [withQuote]), hdistinct.2.2⟩
    intro q hq
    exact hcomplete q (List.mem_append_left _ hq)
  · rintro ⟨⟨hcomplete, hdistinct⟩, hrule, hnew⟩
    constructor
    · intro q hq
      rcases List.mem_append.mp hq with hq | hq
      · exact hcomplete q hq
      · rw [List.mem_singleton.mp hq]
        exact hrule
    · rw [withQuote, List.map_append, List.nodup_append']
      exact ⟨hdistinct, List.nodup_singleton _, by simpa using hnew⟩

/-- Rules are accepted one after the other exactly if with them the table is regular. -/
theorem addQuotes_eq_ok_iff {lex lex' : Lexicon} (hlex : lex.IsRegular) {rules : List QuoteRule} :
    lex.addQuotes rules = .ok lex' ↔
      lex' = { lex with quotes := lex.quotes ++ rules } ∧ lex'.IsRegular := by
  induction rules generalizing lex with
  | nil =>
    simp only [addQuotes, List.append_nil, Except.ok.injEq]
    constructor
    · rintro rfl
      exact ⟨rfl, hlex⟩
    · rintro ⟨rfl, _⟩
      rfl
  | cons rule rest ih =>
    have hrest : lex.quotes ++ rule :: rest = (lex.withQuote rule).quotes ++ rest := by
      simp [withQuote]
    rw [addQuotes]
    rcases hadd : lex.addQuote rule with error | ⟨i, lex₁⟩
    · -- the first rule is refused, so the table with it is not regular
      refine iff_of_false (by simp) ?_
      rintro ⟨rfl, hregular⟩
      have hfirst : (lex.withQuote rule).IsRegular := by
        constructor
        · intro q hq
          exact hregular.complete q (by simp only [hrest]; exact List.mem_append_left _ hq)
        · have hdistinct := hregular.distinct
          simp only [hrest, List.map_append] at hdistinct
          exact (List.nodup_append'.mp hdistinct).1
      obtain ⟨_, hcomplete, hnew⟩ := isRegular_withQuote_iff.mp hfirst
      have hok := (addQuote_eq_ok_iff (i := lex.quotes.length)).mpr ⟨hcomplete, hnew, rfl, rfl⟩
      rw [hadd] at hok
      cases hok
    · obtain ⟨hcomplete, hnew, _, rfl⟩ := addQuote_eq_ok_iff.mp hadd
      dsimp only
      rw [ih (isRegular_withQuote_iff.mpr ⟨hlex, hcomplete, hnew⟩), hrest]
      rfl

/-! ### Offering rules -/

/-- The lexicon after a rule has been offered to it, whether it was accepted or not. -/
def offer (lex : Lexicon) (rule : QuoteRule) : Lexicon :=
  match lex.addQuote rule with
  | .ok (_, lex') => lex'
  | .error _ => lex

/-- The lexicon after rules have been offered to it one after the other. -/
def offerAll (lex : Lexicon) (rules : List QuoteRule) : Lexicon := rules.foldl offer lex

/-- Those of some rules offered one after the other that are accepted. -/
def taken (lex : Lexicon) : List QuoteRule → List QuoteRule
  | [] => []
  | rule :: rest =>
    match lex.addQuote rule with
    | .ok (_, lex') => rule :: lex'.taken rest
    | .error _ => lex.taken rest

theorem offerAll_eq (lex : Lexicon) (rules : List QuoteRule) :
    lex.offerAll rules = { lex with quotes := lex.quotes ++ lex.taken rules } := by
  induction rules generalizing lex with
  | nil => simp [offerAll, taken]
  | cons rule rest ih =>
    change (lex.offer rule).offerAll rest = _
    rw [ih, offer, taken]
    rcases hadd : lex.addQuote rule with error | ⟨i, lex₁⟩
    · rfl
    · obtain ⟨_, _, _, rfl⟩ := addQuote_eq_ok_iff.mp hadd
      simp [withQuote]

theorem IsRegular.offerAll {lex : Lexicon} (hlex : lex.IsRegular) (rules : List QuoteRule) :
    (lex.offerAll rules).IsRegular := by
  induction rules generalizing lex with
  | nil => exact hlex
  | cons rule rest ih =>
    change ((lex.offer rule).offerAll rest).IsRegular
    apply ih
    rw [offer]
    rcases hadd : lex.addQuote rule with error | ⟨i, lex₁⟩
    · exact hlex
    · obtain ⟨hcomplete, hnew, _, rfl⟩ := addQuote_eq_ok_iff.mp hadd
      exact isRegular_withQuote_iff.mpr ⟨hlex, hcomplete, hnew⟩

/-! ### The rule of a quote -/

/-- Whether the rule with an index has the longest of the start markers that occur at the start of a
text. -/
structure StartsLongest (lex : Lexicon) (t : Text) (i : Nat) (rule : QuoteRule) : Prop where
  registered : lex.quotes[i]? = some rule
  starts : t.startsWith rule.start = true
  longest : ∀ q ∈ lex.quotes, t.startsWith q.start = true → q.start.length ≤ rule.start.length

theorem longestStart_eq_none_iff {t : Text} {i : Nat} {rules : List QuoteRule} :
    longestStart t i rules = none ↔ ∀ q ∈ rules, t.startsWith q.start = false := by
  induction rules generalizing i with
  | nil => simp [longestStart]
  | cons rule rest ih =>
    rw [longestStart]
    by_cases hstarts : t.startsWith rule.start = true
    · rcases hlater : longestStart t (i + 1) rest with _ | ⟨j, other⟩
      · simp [hstarts]
      · by_cases hlt : rule.start.length < other.start.length <;> simp [hstarts, hlt]
    · simp [hstarts, ih]

theorem of_longestStart {t : Text} {i j : Nat} {rules : List QuoteRule} {rule : QuoteRule}
    (h : longestStart t i rules = some (j, rule)) :
    ∃ k, j = i + k ∧ rules[k]? = some rule ∧ t.startsWith rule.start = true ∧
      ∀ q ∈ rules, t.startsWith q.start = true → q.start.length ≤ rule.start.length := by
  induction rules generalizing i j rule with
  | nil => cases h
  | cons first rest ih =>
    rw [longestStart] at h
    by_cases hstarts : t.startsWith first.start = true
    · rcases hlater : longestStart t (i + 1) rest with _ | ⟨j', other⟩
      · simp only [hstarts, hlater, if_true, Option.some.injEq, Prod.mk.injEq] at h
        obtain ⟨rfl, rfl⟩ := h
        refine ⟨0, rfl, rfl, hstarts, ?_⟩
        intro q hq hq'
        rcases List.mem_cons.mp hq with rfl | hq
        · exact Nat.le_refl _
        · rw [longestStart_eq_none_iff.mp hlater q hq] at hq'
          cases hq'
      · obtain ⟨k, hj, hget, hother, hlongest⟩ := ih hlater
        by_cases hlt : first.start.length < other.start.length
        · simp only [hstarts, hlater, hlt, if_true, Option.some.injEq, Prod.mk.injEq] at h
          obtain ⟨rfl, rfl⟩ := h
          refine ⟨k + 1, by omega, hget, hother, ?_⟩
          intro q hq hq'
          rcases List.mem_cons.mp hq with rfl | hq
          · exact Nat.le_of_lt hlt
          · exact hlongest q hq hq'
        · simp only [hstarts, hlater, hlt, if_true, if_false, Option.some.injEq,
            Prod.mk.injEq] at h
          obtain ⟨rfl, rfl⟩ := h
          refine ⟨0, rfl, rfl, hstarts, ?_⟩
          intro q hq hq'
          rcases List.mem_cons.mp hq with rfl | hq
          · exact Nat.le_refl _
          · exact Nat.le_trans (hlongest q hq hq') (Nat.le_of_not_lt hlt)
    · simp only [hstarts, Bool.false_eq_true, if_false] at h
      obtain ⟨k, hj, hget, hrule, hlongest⟩ := ih h
      refine ⟨k + 1, by omega, hget, hrule, ?_⟩
      intro q hq hq'
      rcases List.mem_cons.mp hq with rfl | hq
      · exact absurd hq' hstarts
      · exact hlongest q hq hq'

theorem matchStart_eq_none_iff {lex : Lexicon} {t : Text} :
    lex.matchStart t = none ↔ ∀ q ∈ lex.quotes, t.startsWith q.start = false :=
  longestStart_eq_none_iff

theorem IsRegular.index_eq {lex : Lexicon} (hlex : lex.IsRegular) {i j : Nat}
    {rule other : QuoteRule} (hi : lex.quotes[i]? = some rule) (hj : lex.quotes[j]? = some other)
    (hstart : rule.start = other.start) : i = j := by
  have hi' : (lex.quotes.map QuoteRule.start)[i]? = some rule.start := by simp [hi]
  have hj' : (lex.quotes.map QuoteRule.start)[j]? = some rule.start := by simp [hj, hstart]
  obtain ⟨hlt, _⟩ := List.getElem?_eq_some_iff.mp hi'
  exact (List.getElem?_inj hlt hlex.distinct).mp (hi'.trans hj'.symm)

/-- A quote follows the rule with the longest start marker that occurs where it begins. -/
theorem IsRegular.matchStart_eq_some_iff {lex : Lexicon} (hlex : lex.IsRegular) {t : Text} {i : Nat}
    {rule : QuoteRule} : lex.matchStart t = some (i, rule) ↔ lex.StartsLongest t i rule := by
  constructor
  · intro h
    obtain ⟨k, hi, hget, hstarts, hlongest⟩ := of_longestStart h
    rw [Nat.zero_add] at hi
    subst hi
    exact ⟨hget, hstarts, hlongest⟩
  · rintro ⟨hget, hstarts, hlongest⟩
    rcases hmatch : lex.matchStart t with _ | ⟨j, other⟩
    · have hnone := matchStart_eq_none_iff.mp hmatch rule (List.mem_of_getElem? hget)
      rw [hstarts] at hnone
      cases hnone
    · obtain ⟨k, hj, hget', hstarts', hlongest'⟩ := of_longestStart hmatch
      rw [Nat.zero_add] at hj
      subst hj
      -- both have the longest marker, so both have the same
      have hlength := Nat.le_antisymm (hlongest other (List.mem_of_getElem? hget') hstarts')
        (hlongest' rule (List.mem_of_getElem? hget) hstarts)
      have hstart := Text.eq_of_startsWith hstarts' hstarts hlength
      obtain rfl := hlex.index_eq hget' hget hstart
      rw [Option.some.inj (hget'.symm.trans hget)]

end Lexicon

/-- The built-in table of every language is one that registration accepts. -/
theorem Language.isRegular_lexicon (l : Language) : l.lexicon.IsRegular := by
  have hadded : Lexicon.addQuotes ⟨[], l.keywords⟩ l.quotes = .ok l.lexicon := by
    cases l <;> rfl
  exact ((Lexicon.addQuotes_eq_ok_iff (Lexicon.isRegular_of_nil rfl)).mp hadded).2

end SourceEditor
