/-
  SourceEditor/Proofs/Search/Stepping.lean
  ========================================
  **Listing matches and stepping through them.**  The listing goes through the lines of a range
  once; whoever steps searches again from the end of each match.  Both come upon the same matches,
  whatever is searched for: each takes some characters of one line of the range, and begins where
  the one before ends or behind that.
-/
import SourceEditor.Proofs.Search.Lines

namespace SourceEditor

namespace Buffer

/-- Stepping through matches from a point on: searching from the point, and then again from the end
of each match found, without going round, until nothing is found. -/
inductive Stepping (b : Buffer) (pattern : Text) (o : FindOptions) (E : Engine) :
    Point → List Range → Prop where
  | done {p : Point} (unmatched : b.findNext pattern p o false E = .ok none) :
      Stepping b pattern o E p []
  | next {p : Point} {f : Range} {rest : List Range}
      (found : b.findNext pattern p o false E = .ok (some f))
      (further : Stepping b pattern o E f.stop rest) : Stepping b pattern o E p (f :: rest)

section Accepted

variable {b : Buffer} {E : Engine} {pattern : Text} {o : FindOptions} {m : Matcher} {p : Point}
  (accepted : Matcher.ofPattern pattern o.forward E = .ok m)

include accepted

/-- Forward and without going round, the next match from a point is the first one up to the end of
the text. -/
theorem findNext_forward (hp : b.HasPoint p) :
    b.findNext pattern p o.forward false E = .ok (m.findFirst b ⟨p, b.stopPoint⟩) := by
  have hsearch : m.findIn b (b.searchOrder p o.forward.reverse).1 o.forward.reverse =
      m.findFirst b ⟨p, b.stopPoint⟩ := rfl
  rw [findNext, checkPoint_eq_ok_iff.mpr hp, accepted]
  dsimp only
  rw [hsearch]
  rcases m.findFirst b ⟨p, b.stopPoint⟩ with _ | f <;> rfl

/-- One step takes the first match of the listing, and leaves the others. -/
theorem stepping_iff (hp : b.HasPoint p) {fs : List Range} :
    b.Stepping pattern o.forward E p fs ↔ m.findAllIn b ⟨p, b.stopPoint⟩ = fs := by
  induction fs generalizing p with
  | nil =>
    rw [Matcher.findAllIn_eq_nil_iff]
    constructor
    · rintro ⟨unmatched⟩
      exact Except.ok.inj ((findNext_forward accepted hp).symm.trans unmatched)
    · intro hnone
      exact .done ((findNext_forward accepted hp).trans (congrArg Except.ok hnone))
  | cons f rest ih =>
    -- a match ends at a point of the buffer, from which the next step is a search again
    have hstep : m.findFirst b ⟨p, b.stopPoint⟩ = some f →
        b.HasPoint f.stop ∧ ∀ others, m.findAllIn b ⟨p, b.stopPoint⟩ = f :: others →
          m.findAllIn b ⟨f.stop, b.stopPoint⟩ = others := by
      intro hfirst
      obtain ⟨others, hall⟩ := Matcher.findFirst_eq_some_iff.mp hfirst
      refine ⟨(Matcher.hasPoint_of_mem_findAllIn (hall ▸ List.mem_cons_self)).2, ?_⟩
      intro others' hall'
      exact Matcher.findAllIn_tail hp b.hasPoint_stopPoint hall'
    constructor
    · rintro (_ | ⟨found, further⟩)
      have hfirst : m.findFirst b ⟨p, b.stopPoint⟩ = some f :=
        Except.ok.inj ((findNext_forward accepted hp).symm.trans found)
      obtain ⟨hpoint, htail⟩ := hstep hfirst
      obtain ⟨others, hall⟩ := Matcher.findFirst_eq_some_iff.mp hfirst
      rw [hall, ← htail others hall, (ih hpoint).mp further]
    · intro hall
      have hfirst := Matcher.findFirst_eq_some_iff.mpr ⟨rest, hall⟩
      obtain ⟨hpoint, htail⟩ := hstep hfirst
      exact .next ((findNext_forward accepted hp).trans (congrArg Except.ok hfirst))
        ((ih hpoint).mpr (htail rest hall))

theorem findAll_eq {r : Range} (valid : b.checkRange r = .ok ()) :
    b.findAll pattern r o E = .ok (m.findAllIn b r) := by
  rw [findAll, valid, accepted]

theorem findAll_range_eq : b.findAll pattern b.range o E = .ok (m.findAllIn b b.range) :=
  findAll_eq accepted (checkRange_eq_ok_iff.mpr
    ⟨b.hasPoint_startPoint, b.hasPoint_stopPoint, startPoint_le b.hasPoint_stopPoint⟩)

end Accepted

/-- **Listing matches is stepping through them.**  Whatever the engine and the pattern, the listing
of a range that exists succeeds.  Each match listed takes some characters of one line, and lies
inside the range; each begins behind the start of the one before, and not before its end.  The
listing of the whole buffer is what one gets who searches forward from the first point, and then
from the end of each match found, until nothing is found. -/
theorem findAll_is_stepping (b : Buffer) {E : Engine} {pattern : Text} {o : FindOptions}
    {m : Matcher} (accepted : Matcher.ofPattern pattern o.forward E = .ok m) :
    (∀ r, b.checkRange r = .ok () → ∃ fs, b.findAll pattern r o E = .ok fs ∧
      (∀ f ∈ fs, b.checkRange f = .ok () ∧ f.stop.line = f.start.line ∧
        f.start.col < f.stop.col ∧ r.start ≤ f.start ∧ f.stop ≤ r.stop) ∧
      fs.Pairwise fun f g => f.start < g.start ∧ f.stop ≤ g.start) ∧
    ∀ fs, b.findAll pattern b.range o E = .ok fs ↔
      b.Stepping pattern o.forward E b.startPoint fs := by
  constructor
  · intro r valid
    obtain ⟨hstart, hstop, _⟩ := checkRange_eq_ok_iff.mp valid
    refine ⟨_, findAll_eq accepted valid, ?_, ?_⟩
    · intro f hf
      obtain ⟨_, _, hsingle, hlt, _⟩ := Matcher.exists_takes_of_mem_findAllIn hf
      obtain ⟨hfirst, hlast⟩ := Matcher.hasPoint_of_mem_findAllIn hf
      have hle : f.start ≤ f.stop := .inr ⟨hsingle.symm, Nat.le_of_lt hlt⟩
      exact ⟨checkRange_eq_ok_iff.mpr ⟨hfirst, hlast, hle⟩, hsingle, hlt,
        Matcher.inside_of_mem_findAllIn hstart hf⟩
    · apply (Matcher.pairwise_findAllIn m hstart hstop).imp_of_mem
      intro f g hf _ hle
      obtain ⟨_, _, hsingle, hlt, _⟩ := Matcher.exists_takes_of_mem_findAllIn hf
      refine ⟨?_, hle⟩
      rcases Point.le_iff.mp hle with hline | ⟨hline, hcol⟩
      · exact .inl (hsingle ▸ hline)
      · exact .inr ⟨hsingle.symm.trans hline, Nat.lt_of_lt_of_le hlt hcol⟩
  · intro fs
    rw [findAll_range_eq accepted, stepping_iff accepted b.hasPoint_startPoint]
    exact ⟨Except.ok.inj, congrArg Except.ok⟩

/-- Whole words of two letters: one at the end of a line, behind a longer word in which the letters
stand twice and overlap, and one behind an empty line. -/
theorem findAll_is_stepping_of_words :
    let b := Buffer.ofText ['a', 'a', 'a', ' ', 'a', 'a', '\n', '\n', 'a', 'a'] .plainText
    let o : FindOptions := { caseSensitive := true, wholeWord := true, reverse := true }
    let fs : List Range := [⟨⟨1, 4⟩, ⟨1, 6⟩⟩, ⟨⟨3, 0⟩, ⟨3, 2⟩⟩]
    Matcher.ofPattern ['a', 'a'] o.forward = .ok ⟨.literal ['a', 'a'] false, false, true⟩ ∧
      b.findAll ['a', 'a'] b.range o = .ok fs ∧
      b.Stepping ['a', 'a'] o.forward .standard b.startPoint fs := by
  intro b o fs
  have accepted : Matcher.ofPattern ['a', 'a'] o.forward =
      .ok ⟨.literal ['a', 'a'] false, false, true⟩ := rfl
  have listed : b.findAll ['a', 'a'] b.range o = .ok fs := by decide +kernel
  exact ⟨accepted, listed, ((findAll_is_stepping b accepted).2 fs).mp listed⟩

end Buffer

end SourceEditor
