/-
  SourceEditor/Proofs/Search/Singly.lean
  ======================================
  **Replacing match by match.**  Someone selects the next match from a point, has it replaced, and
  goes on with the match that is reported then, until none is reported.  A call that replaces all
  matches from the point on does not look at selections; it goes on in what is left of its range.
  Both make the same edits.  A selected match is found again inside itself, since a search that
  begins later, but not behind the match, finds the same match; and what is left of a range that
  goes up to the end of the text goes up to the end of the text.
-/
import SourceEditor.Proofs.Search.Selection

namespace SourceEditor

namespace Matcher

variable {m : Matcher} {template : Text} {b b₁ : Buffer} {r f : Range} {p : Point} {e : Edit}

theorem checkRange_of_findFirst (found : m.findFirst b r = some f) : b.checkRange f = .ok () := by
  obtain ⟨others, hall⟩ := findFirst_eq_some_iff.mp found
  have hmem : f ∈ m.findAllIn b r := by
    rw [hall]
    exact List.mem_cons_self
  obtain ⟨_, _, hsingle, hlt, _⟩ := exists_takes_of_mem_findAllIn hmem
  obtain ⟨hstart, hstop⟩ := hasPoint_of_mem_findAllIn hmem
  apply Buffer.checkRange_eq_ok_iff.mpr
  exact ⟨hstart, hstop, .inr ⟨hsingle.symm, Nat.le_of_lt hlt⟩⟩

/-- The first match from a point up to the end of the text is found again from its own start. -/
theorem findFirst_resume (resumes : m.regex.Resumes)
    (found : m.findFirst b ⟨p, b.stopPoint⟩ = some f) :
    m.findFirst b ⟨f.start, b.stopPoint⟩ = some f := by
  obtain ⟨l, hl, hsingle, hnext⟩ := nextMatch_of_findFirst found
  have valid := checkRange_of_findFirst found
  rw [limitOn_of_endsLine b.endsLine_stopPoint hl] at hnext
  apply (findFirst_from_iff valid hl hsingle).mpr
  apply findsAt_of_nextMatch resumes (Nat.le_refl _) hnext
  intro c _ hc
  have hcol := stop_le_length valid hl hsingle
  exact m.not_isCutAt_length (Nat.le_trans hc (Nat.le_trans hcol.1 hcol.2))

theorem findFirst_self (resumes : m.regex.Resumes)
    (found : m.findFirst b ⟨p, b.stopPoint⟩ = some f) : m.findFirst b f = some f := by
  apply (findFirst_self_iff (checkRange_of_findFirst found)).mpr
  exact .inl (findFirst_resume resumes found)

/-- What is left of a range that goes up to the end of the text goes up to the end of the text. -/
theorem rebase_stopPoint (hb : b.IsClean) (hp : b.HasPoint p)
    (found : m.findFirst b ⟨p, b.stopPoint⟩ = some f)
    (replaced : b.replace f (m.replacement b f template) = (.ok e, b₁)) :
    b₁.IsClean ∧ b₁.HasPoint e.caret ∧
      (⟨p, b.stopPoint⟩ : Range).rebase f e.caret = ⟨e.caret, b₁.stopPoint⟩ := by
  have htext : b.text = b.textBefore p ++ b.textFrom p ++ [] := by
    rw [List.append_nil]
    exact Buffer.text_eq_append hp
  have hrange : (⟨p, b.stopPoint⟩ : Range) =
      ⟨.behind (b.textBefore p), .behind (b.textBefore p ++ b.textFrom p)⟩ := by
    rw [Buffer.behind_textBefore hb hp, hb.stopPoint_eq, ← Buffer.text_eq_append hp]
  rw [hrange] at found ⊢
  obtain ⟨_, _, _, e', b', _, _, _, hedit, hcaret, hb', htext', hrebase⟩ :=
    exists_replace_of_found template hb htext found
  cases hedit.symm.trans replaced
  rw [List.append_nil] at htext'
  refine ⟨hb', ?_, ?_⟩
  · rw [hcaret]
    exact (Buffer.hasPoint_behind hb' htext').1
  · rw [hrebase, hcaret, hb'.stopPoint_eq, htext']

end Matcher

namespace Buffer

variable {pattern template : Text} {o : FindOptions} {E : Engine} {m : Matcher} {b b' : Buffer}
  {selection : Option Range} {es : List Edit} {p : Point}

/-- Replacing match by match: the match that is selected is replaced, and the one reported as the
next is selected in its turn, without going round, until none is reported. -/
inductive ReplacingSingly (pattern template : Text) (o : FindOptions) (E : Engine) :
    Buffer → Option Range → List Edit → Buffer → Prop where
  | done (b : Buffer) : ReplacingSingly pattern template o E b none [] b
  | step {b b₁ b₂ : Buffer} {f : Range} {e : Edit} {next : Option Range} {es : List Edit}
      (replaced : b.replaceNext pattern template f o false E = (.ok (.replaced e next), b₁))
      (further : ReplacingSingly pattern template o E b₁ next es b₂) :
      ReplacingSingly pattern template o E b (some f) (e :: es) b₂

theorem ReplacingSingly.unique (h : ReplacingSingly pattern template o E b selection es b')
    {es' : List Edit} {b'' : Buffer}
    (h' : ReplacingSingly pattern template o E b selection es' b'') : es' = es ∧ b'' = b' := by
  induction h generalizing es' b'' with
  | done b =>
    cases h'
    exact ⟨rfl, rfl⟩
  | step replaced _ ih =>
    cases h' with
    | step replaced' further' =>
      rw [replaced] at replaced'
      obtain ⟨hstep, rfl⟩ := Prod.mk.inj replaced'
      obtain ⟨rfl, rfl⟩ := ReplaceStep.replaced.inj (Except.ok.inj hstep)
      obtain ⟨rfl, rfl⟩ := ih further'
      exact ⟨rfl, rfl⟩

section Accepted

variable (accepted : Matcher.ofPattern pattern o E = .ok m) (forward : o.reverse = false)

include accepted forward

theorem findNext_eq_findFirst (hp : b.HasPoint p) :
    b.findNext pattern p o false E = .ok (m.findFirst b ⟨p, b.stopPoint⟩) := by
  have hsame : o.forward = o := by
    rw [FindOptions.forward, ← forward]
  rw [← hsame] at accepted ⊢
  exact findNext_forward accepted hp

/-- A call that replaces all matches from a point on does in its rounds what the steps do that begin
with the first match there. -/
theorem replacingSingly_of_replaces (resumes : m.regex.Resumes) (hb : b.IsClean)
    (hp : b.HasPoint p) {left : Range} (h : m.Replaces template b ⟨p, b.stopPoint⟩ es b' left)
    (unmatched : m.findFirst b' left = none) :
    ReplacingSingly pattern template o E b (m.findFirst b ⟨p, b.stopPoint⟩) es b' := by
  induction es generalizing b p with
  | nil =>
    cases h
    rw [unmatched]
    exact .done _
  | cons e es ih =>
    cases h with
    | @step _ b₁ _ _ f _ _ _ found replaced further =>
      obtain ⟨hb₁, hcaret, hrest⟩ := Matcher.rebase_stopPoint hb hp found replaced
      rw [hrest] at further
      -- the selection is found inside itself, so that the step replaces it too
      obtain ⟨e', next, b₁', hreplace, hnext, hstep⟩ := exists_replaceNext accepted
        (Matcher.checkRange_of_findFirst found) template false hb
        (Matcher.findFirst_self resumes found)
      cases hreplace.symm.trans replaced
      rw [forward] at hnext
      have hreported : next = m.findFirst b₁ ⟨e.caret, b₁.stopPoint⟩ := by
        apply Except.ok.inj
        rw [← hnext]
        exact findNext_eq_findFirst accepted forward hcaret
      rw [found]
      apply ReplacingSingly.step hstep
      rw [hreported]
      exact ih hb₁ hcaret further

end Accepted

/-- **Replacing match by match is replacing all.**  Whatever the buffer, the point, the replacement
and the pattern, which may be a regular expression and may be searched for in whole words: beginning
with the match that a search forward from the point finds, and going on from match to match as each
step reports the next one, comes to an end; and the edits, in their order, and the buffer they leave
are those of one call that replaces all matches from the point up to the end of the text.  Any engine
will do that finds each match again from further on, as the one of the program does. -/
theorem Obtained.replaceAll_singly {b : Buffer} (obtained : b.Obtained) {E : Engine}
    (resumes : E ≠ .standard → E.Resumes) {pattern : Text} {o : FindOptions} {m : Matcher}
    (accepted : Matcher.ofPattern pattern o E = .ok m) (forward : o.reverse = false)
    (template : Text) {p : Point} (valid : b.checkPoint p = .ok ()) :
    ∃ first es b', b.findNext pattern p o false E = .ok first ∧
      b.replaceAll pattern template ⟨p, b.stopPoint⟩ o E = (.ok es, b') ∧
      ∀ es' b'', ReplacingSingly pattern template o E b first es' b'' ↔ es' = es ∧ b'' = b' := by
  have hb := obtained.isClean
  have hp := checkPoint_eq_ok_iff.mp valid
  have hrange : b.checkRange ⟨p, b.stopPoint⟩ = .ok () :=
    checkRange_eq_ok_iff.mpr ⟨hp, b.hasPoint_stopPoint, le_stopPoint hp⟩
  obtain ⟨es, b', left, hall, hreplaces, unmatched⟩ :=
    exists_replaceAll hb template hrange (Matcher.ofPattern_forward_of_ok accepted)
  have hresumes : E.Resumes := by
    by_cases hstandard : E = .standard
    · rw [hstandard]
      exact Engine.resumes_standard
    · exact resumes hstandard
  have hsingly := replacingSingly_of_replaces accepted forward
    (Matcher.resumes_of_ofPattern hresumes accepted) hb hp hreplaces unmatched
  refine ⟨_, es, b', findNext_eq_findFirst accepted forward hp, hall, ?_⟩
  intro es' b''
  constructor
  · intro h
    exact hsingly.unique h
  · rintro ⟨rfl, rfl⟩
    exact hsingly

/-- Two words of a line, of which the first begins before the point, and one on the line below: from
the point on, two words give way to a text of two lines that holds the word itself. -/
theorem replaceAll_singly_of_words :
    let b := Buffer.ofText ['a', 'b', ' ', 'a', 'b', '\n', 'a', 'b'] .plainText
    let o : FindOptions := { caseSensitive := true, wholeWord := true }
    let template : Text := ['a', 'b', '\r', '\n', 'c']
    b.Obtained ∧ Matcher.ofPattern ['a', 'b'] o = .ok ⟨.literal ['a', 'b'] false, false, true⟩ ∧
      b.checkPoint ⟨1, 1⟩ = .ok () ∧
      b.findNext ['a', 'b'] ⟨1, 1⟩ o false = .ok (some ⟨⟨1, 3⟩, ⟨1, 5⟩⟩) ∧
      ∃ es b', ReplacingSingly ['a', 'b'] template o .standard b (some ⟨⟨1, 3⟩, ⟨1, 5⟩⟩) es b' ∧
        es.length = 2 ∧ b'.text =
          ['a', 'b', ' ', 'a', 'b', '\n', 'c', '\n', 'a', 'b', '\n', 'c'] := by
  intro b o template
  have obtained : b.Obtained := .ofReachable (.ofText _ _)
  have accepted : Matcher.ofPattern ['a', 'b'] o =
      .ok ⟨.literal ['a', 'b'] false, false, true⟩ := rfl
  have valid : b.checkPoint ⟨1, 1⟩ = .ok () := by decide +kernel
  have hfirst : b.findNext ['a', 'b'] ⟨1, 1⟩ o false = .ok (some ⟨⟨1, 3⟩, ⟨1, 5⟩⟩) := by
    decide +kernel
  obtain ⟨first, es, b', hfound, hall, hsingly⟩ :=
    obtained.replaceAll_singly (fun hother => absurd rfl hother) accepted rfl template valid
  obtain rfl : first = some ⟨⟨1, 3⟩, ⟨1, 5⟩⟩ := Except.ok.inj (hfound.symm.trans hfirst)
  have hlength : (b.replaceAll ['a', 'b'] template ⟨⟨1, 1⟩, b.stopPoint⟩ o).1.map List.length =
      .ok 2 := by decide +kernel
  have htext : (b.replaceAll ['a', 'b'] template ⟨⟨1, 1⟩, b.stopPoint⟩ o).2.text =
      ['a', 'b', ' ', 'a', 'b', '\n', 'c', '\n', 'a', 'b', '\n', 'c'] := by decide +kernel
  rw [hall] at hlength htext
  exact ⟨obtained, accepted, valid, hfirst, es, b', (hsingly es b').mpr ⟨rfl, rfl⟩,
    Except.ok.inj hlength, htext⟩

end Buffer

end SourceEditor
