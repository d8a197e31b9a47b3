/-
  SourceEditor/Proofs/Search/ReplaceAll.lean
  ==========================================
  **Replacing all matches against finding all matches.**  Replacing all matches finds and replaces
  in turn, so from the second match on it searches a text that has been edited already.  The
  listing of all matches searches the text as it was.  The two agree as long as the texts inserted
  stand before the rest of their lines as the matches did; a whole word or an assertion of the
  pattern can tell them apart otherwise.
-/
import SourceEditor.Proofs.Listing.Buffers
import SourceEditor.Proofs.Search.Replacing

namespace SourceEditor

/-! ### Replacing at once -/

/-- What a text becomes from an offset on if each of some stretches, given by the offsets of their
ends in ascending order, gives way to a text. -/
def Text.replaceEach (t : Text) (pos : Nat) : List (Nat × Nat × Text) → Text
  | [] => t.drop pos
  | (first, last, n) :: rest =>
    (t.drop pos).take (first - pos) ++ n ++ t.replaceEach last rest

theorem Text.replaceEach_zero {t s rest : Text} (h : t = s ++ rest)
    {stretches : List (Nat × Nat × Text)} (hle : ∀ x ∈ stretches.head?, s.length ≤ x.1) :
    t.replaceEach 0 stretches = s ++ t.replaceEach s.length stretches := by
  cases stretches with
  | nil => rw [replaceEach, replaceEach, h, List.drop_zero, List.drop_left]
  | cons x stretches =>
    obtain ⟨first, last, n⟩ := x
    have hfirst : s.length ≤ first := hle _ rfl
    have htake : t.take first = s ++ (t.drop s.length).take (first - s.length) := by
      rw [h, List.drop_left, List.take_append, List.take_of_length_le hfirst]
    rw [replaceEach, replaceEach, List.drop_zero, Nat.sub_zero, htake, List.append_assoc,
      List.append_assoc, List.append_assoc]

/-- What stands in front of a point on its line. -/
def Buffer.lineBefore (b : Buffer) (p : Point) : Text :=
  ((b.line? p.line).map fun l => l.text.take p.col).getD []

theorem Buffer.lineBefore_behind {b : Buffer} (hb : b.IsClean) {s t : Text} (h : b.text = s ++ t) :
    b.lineBefore (.behind s) = s.lastPart := by
  obtain ⟨l, hl, hltext, hs⟩ := exists_line_behind hb h
  rw [lineBefore, hl, Option.map_some, Option.getD_some, hltext, ← hs, List.take_left]

namespace Matcher

/-- The text that a match gives way to. -/
def inserted (m : Matcher) (b : Buffer) (replacement : Text) (f : Range) : Text :=
  (m.replacement b f replacement).normalized

/-- What stands on the line in front of the text behind a match once the match has given way to its
text. -/
def lineInstead (m : Matcher) (b : Buffer) (replacement : Text) (f : Range) : Text :=
  (b.lineBefore f.start ++ m.inserted b replacement f).lastPart

/-- Whether the text that a match gives way to stands before the rest of the line as the match
does, for all that the matcher can tell. -/
def KeepsContext (m : Matcher) (b : Buffer) (replacement : Text) (f : Range) : Prop :=
  m.Alike (b.lineBefore f.stop) (m.lineInstead b replacement f)

/-- The stretch of a match and the text that it gives way to. -/
def stretch (m : Matcher) (b : Buffer) (replacement : Text) (f : Range) : Nat × Nat × Text :=
  (b.offset f.start, b.offset f.stop, m.inserted b replacement f)

section Behind

variable {m : Matcher} {b : Buffer} (hb : b.IsClean) {s g w v u : Text}
  (h : b.text = s ++ g ++ w ++ (v ++ u))

include hb h

theorem alike_of_keepsContext {replacement : Text}
    (hkeeps : m.KeepsContext b replacement ⟨.behind (s ++ g), .behind (s ++ g ++ w)⟩) :
    m.Alike (s ++ g ++ w).lastPart (s ++ g ++
      m.inserted b replacement ⟨.behind (s ++ g), .behind (s ++ g ++ w)⟩).lastPart := by
  have hstart := Buffer.lineBefore_behind hb (h.trans (List.append_assoc _ w _))
  have hstop := Buffer.lineBefore_behind hb h
  rw [KeepsContext, lineInstead, hstart, hstop, Text.lastPart_lastPart_append] at hkeeps
  exact hkeeps

/-- Replacing a match and what comes behind it, seen from the place where the search began. -/
theorem replaceEach_stretch (replacement : Text) (others : List (Nat × Nat × Text)) :
    b.text.replaceEach s.length
        (m.stretch b replacement ⟨.behind (s ++ g), .behind (s ++ g ++ w)⟩ :: others) =
      g ++ m.inserted b replacement ⟨.behind (s ++ g), .behind (s ++ g ++ w)⟩ ++
        b.text.replaceEach (s ++ g ++ w).length others := by
  have hfirst := Buffer.offset_behind hb (h.trans (List.append_assoc _ w _))
  have hlast := Buffer.offset_behind hb h
  have hgap : (b.text.drop s.length).take ((s ++ g).length - s.length) = g := by
    rw [List.length_append, Nat.add_sub_cancel_left, h, List.append_assoc, List.append_assoc,
      List.drop_left, List.take_left]
  rw [stretch, Text.replaceEach, hfirst, hlast, hgap]

end Behind

/-- A match gives way to the same text in a text that has been edited further up, and what stands
before the rest of the line is alike again afterwards. -/
theorem alike_of_replaced {m : Matcher} {replacement : Text} {b₀ b : Buffer} (hb₀ : b₀.IsClean)
    (hb : b.IsClean) {s₀ s g w v u : Text} (h₀ : b₀.text = s₀ ++ g ++ w ++ (v ++ u))
    (h : b.text = s ++ g ++ w ++ (v ++ u))
    (halike : m.Alike s₀.lastPart s.lastPart)
    (hkeeps : m.KeepsContext b₀ replacement ⟨.behind (s₀ ++ g), .behind (s₀ ++ g ++ w)⟩) :
    let n := m.inserted b₀ replacement ⟨.behind (s₀ ++ g), .behind (s₀ ++ g ++ w)⟩
    (m.replacement b ⟨.behind (s ++ g), .behind (s ++ g ++ w)⟩ replacement).normalized = n ∧
      m.Alike (s₀ ++ g ++ w).lastPart (s ++ g ++ n).lastPart := by
  have hgap : m.Alike (s₀ ++ g).lastPart (s ++ g).lastPart := halike.lastPart_append g
  constructor
  · exact congrArg Text.normalized (replacement_alike hb hb₀ (h.trans (List.append_assoc _ w _))
      (h₀.trans (List.append_assoc _ w _)) hgap.symm _ _ replacement)
  · exact (alike_of_keepsContext hb₀ h₀ hkeeps).trans (hgap.lastPart_append _)

/-- Finding and replacing in turn in a text that has been edited further up, against the matches in
the text as it was. -/
theorem Interleaved.agrees {m : Matcher} {replacement : Text} {b₀ b b' : Buffer}
    (hb₀ : b₀.IsClean) (hb : b.IsClean) {s₀ s t u : Text} (h₀ : b₀.text = s₀ ++ t ++ u)
    (h : b.text = s ++ t ++ u) {es : List Edit}
    (hinter : m.Interleaved replacement b ⟨.behind s, .behind (s ++ t)⟩ es b')
    (halike : m.Alike s₀.lastPart s.lastPart) {fs : List Range}
    (hfs : m.findAllIn b₀ ⟨.behind s₀, .behind (s₀ ++ t)⟩ = fs)
    (hkeeps : ∀ f ∈ fs, m.KeepsContext b₀ replacement f) :
    es.map Edit.removed = fs.map b₀.slice ∧
      es.map Edit.inserted = fs.map (m.inserted b₀ replacement) ∧
      b'.text = s ++ b₀.text.replaceEach s₀.length (fs.map (m.stretch b₀ replacement)) := by
  -- the listing is of the text as it was throughout; only what stands before the rest changes
  induction es generalizing b s₀ s t fs with
  | nil =>
    rcases findFirst_alike hb₀ hb h₀ h halike with
      ⟨hnone₀, hnone⟩ | ⟨g, w, v, rfl, _, _, _, hsome⟩
    · obtain ⟨_, rfl⟩ := hinter.of_none hnone
      rw [findAllIn_eq_nil_iff.mpr hnone₀] at hfs
      subst hfs
      refine ⟨rfl, rfl, ?_⟩
      rw [List.map_nil, Text.replaceEach, h₀, h, List.append_assoc, List.append_assoc,
        List.drop_left]
    · obtain ⟨_, _, _, hcons, _⟩ := hinter.of_some hb h hsome
      cases hcons
  | cons e es ih =>
    rcases findFirst_alike hb₀ hb h₀ h halike with
      ⟨_, hnone⟩ | ⟨g, w, v, rfl, _, _, hsome₀, hsome⟩
    · cases (hinter.of_none hnone).1
    · obtain ⟨_, _, b₁, hcons, hremoved, hinserted, hb₁, h₁, further⟩ := hinter.of_some hb h hsome
      obtain ⟨rfl, rfl⟩ := List.cons.inj hcons
      have hassoc : ∀ s : Text, s ++ (g ++ w ++ v) = s ++ g ++ w ++ v := fun s => by simp
      rw [hassoc] at h₀ h hsome₀ hfs
      obtain ⟨others, hall⟩ := findFirst_eq_some_iff.mp hsome₀
      rw [hall] at hfs
      subst hfs
      have hsplit₀ : b₀.text = s₀ ++ g ++ w ++ (v ++ u) := h₀.trans (List.append_assoc _ v u)
      have hsplit : b.text = s ++ g ++ w ++ (v ++ u) := h.trans (List.append_assoc _ v u)
      obtain ⟨hsame, hnext⟩ := alike_of_replaced hb₀ hb hsplit₀ hsplit halike
        (hkeeps _ List.mem_cons_self)
      rw [hsame] at hinserted
      rw [← hinserted] at hnext
      have hwhole : b₀.text = s₀ ++ (g ++ w ++ v ++ u) := by simp [h₀]
      have htail := findAllIn_tail (Buffer.hasPoint_behind hb₀ hwhole).1
        (Buffer.hasPoint_behind hb₀ h₀).1 hall
      obtain ⟨hremoved', hinserted', hfinal⟩ := ih hb₁ h₀ h₁ further hnext htail
        (fun f hf => hkeeps f (List.mem_cons_of_mem _ hf))
      refine ⟨?_, ?_, ?_⟩
      · rw [List.map_cons, List.map_cons, hremoved', hremoved,
          (Buffer.checkRange_behind hb₀ hsplit₀).2.1]
      · rw [List.map_cons, List.map_cons, hinserted', hinserted]
      · rw [hfinal, List.map_cons, replaceEach_stretch hb₀ hsplit₀, hinserted]
        simp only [inserted, List.append_assoc]

theorem length_le_of_stretch {m : Matcher} {b : Buffer} (hb : b.IsClean) {s t u : Text}
    (h : b.text = s ++ t ++ u) (replacement : Text) :
    ∀ x ∈ ((m.findAllIn b ⟨.behind s, .behind (s ++ t)⟩).map (m.stretch b replacement)).head?,
      s.length ≤ x.1 := by
  intro x hx
  rw [List.head?_map, head?_findAllIn] at hx
  rcases findFirst_alike hb hb h h (.refl m _) with ⟨hnone, _⟩ | ⟨g, w, v, rfl, _, _, hsome, _⟩
  · rw [hnone] at hx
    cases hx
  · rw [hsome, Option.map_some] at hx
    obtain rfl := Option.some.inj hx
    have hsplit : b.text = s ++ g ++ (w ++ v ++ u) := by simp [h]
    rw [stretch, Buffer.offset_behind hb hsplit, List.length_append]
    omega

/-- Finding and replacing in turn in a range of the buffer, against the matches of that range. -/
theorem Interleaved.agrees_on_range {m : Matcher} {replacement : Text} {b b' : Buffer}
    (hb : b.IsClean) {r : Range} (valid : b.checkRange r = .ok ()) {es : List Edit}
    (hinter : m.Interleaved replacement b r es b')
    (hkeeps : ∀ f ∈ m.findAllIn b r, m.KeepsContext b replacement f) :
    es.map Edit.removed = (m.findAllIn b r).map b.slice ∧
      es.map Edit.inserted = (m.findAllIn b r).map (m.inserted b replacement) ∧
      b'.text = b.text.replaceEach 0 ((m.findAllIn b r).map (m.stretch b replacement)) := by
  obtain ⟨s, t, u, htext, rfl⟩ := Buffer.exists_split_of_checkRange hb valid
  obtain ⟨hremoved, hinserted, hfinal⟩ :=
    hinter.agrees hb hb htext htext (.refl m _) rfl hkeeps
  refine ⟨hremoved, hinserted, ?_⟩
  rw [hfinal, Text.replaceEach_zero (htext.trans (List.append_assoc s t u))
    (length_le_of_stretch hb htext replacement)]

end Matcher

namespace Buffer

/-- **Replacing all matches is finding and replacing in turn.**  Where all matches can be listed,
they can be replaced, whatever the engine: each edit removes the first match that the listing of
what is left of the range has in the text edited so far, until it has none.  If every match listed
at the start gives way to a text that stands before the rest of the line as the match does, for all
that the pattern and the search for whole words can tell, then that comes to the same as replacing
the listed matches all at once: one edit for each of them, in their order.  With the engine of the
program it is enough that neither an assertion of the pattern nor the search for whole words tells
the last characters of the two apart. -/
theorem Obtained.replaceAll_interleaves {b : Buffer} (obtained : b.Obtained) {E : Engine}
    {pattern : Text} (replacement : Text) {r : Range} {o : FindOptions} {fs : List Range}
    (listed : b.findAll pattern r o E = .ok fs) :
    ∃ m es b', Matcher.ofPattern pattern o.forward E = .ok m ∧
      b.replaceAll pattern replacement r o E = (.ok es, b') ∧
      m.Interleaved replacement b r es b' ∧
      ((∀ f ∈ fs, m.KeepsContext b replacement f) →
        es.length = fs.length ∧ es.map Edit.removed = fs.map b.slice ∧
        es.map Edit.inserted = fs.map (m.inserted b replacement) ∧
        b'.text = b.text.replaceEach 0 (fs.map (m.stretch b replacement))) ∧
      (E = .standard → ∀ f, o.Alike pattern (b.lineBefore f.stop).getLast?
        (m.lineInstead b replacement f).getLast? → m.KeepsContext b replacement f) := by
  have hb := obtained.isClean
  rcases replaceAll_cases hb pattern replacement r o E with
    ⟨e, hrefused, _⟩ | ⟨m, es, b', hcheck, hm, h, hinter⟩
  · rw [hrefused] at listed
    cases listed
  · rw [findAll, hcheck, hm] at listed
    obtain rfl : m.findAllIn b r = fs := Except.ok.inj listed
    refine ⟨m, es, b', hm, h, hinter, ?_, ?_⟩
    · intro hkeeps
      obtain ⟨hremoved, hinserted, hfinal⟩ := hinter.agrees_on_range hb hcheck hkeeps
      refine ⟨?_, hremoved, hinserted, hfinal⟩
      have hlength := congrArg List.length hremoved
      rwa [List.length_map, List.length_map] at hlength
    · rintro rfl f halike
      exact Matcher.alike_of_ofPattern hm ⟨halike.program, halike.words⟩

/-- Words that give way to words of other letters are found where they were listed. -/
theorem replaceAll_interleaves_of_words :
    let b := Buffer.ofText ['a', 'b', ' ', 'a', 'b'] .plainText
    let o : FindOptions := { caseSensitive := true, wholeWord := true }
    b.Obtained ∧ b.findAll ['a', 'b'] b.range o = .ok [⟨⟨1, 0⟩, ⟨1, 2⟩⟩, ⟨⟨1, 3⟩, ⟨1, 5⟩⟩] ∧
      ∃ es b', b.replaceAll ['a', 'b'] ['c'] b.range o = (.ok es, b') ∧ es.length = 2 ∧
        b'.text = ['c', ' ', 'c'] := by
  intro b o
  have obtained : b.Obtained := .ofReachable (.ofText _ _)
  have listed : b.findAll ['a', 'b'] b.range o =
      .ok [⟨⟨1, 0⟩, ⟨1, 2⟩⟩, ⟨⟨1, 3⟩, ⟨1, 5⟩⟩] := by decide +kernel
  refine ⟨obtained, listed, ?_⟩
  obtain ⟨m, es, b', hm, h, _, hagrees, hkeeps⟩ := obtained.replaceAll_interleaves ['c'] listed
  have hliteral : Matcher.ofPattern ['a', 'b'] o.forward =
      .ok ⟨.literal ['a', 'b'] false, false, true⟩ := rfl
  obtain rfl : m = ⟨.literal ['a', 'b'] false, false, true⟩ :=
    Except.ok.inj (hm.symm.trans hliteral)
  have hwords : ∀ f ∈ [(⟨⟨1, 0⟩, ⟨1, 2⟩⟩ : Range), ⟨⟨1, 3⟩, ⟨1, 5⟩⟩],
      Matcher.KeepsContext ⟨.literal ['a', 'b'] false, false, true⟩ b ['c'] f := by
    intro f hf
    refine hkeeps rfl f ⟨fun huse => (nomatch huse), fun _ => ?_⟩
    revert f
    decide +kernel
  obtain ⟨hlength, _, _, htext⟩ := hagrees hwords
  exact ⟨es, b', h, hlength, htext.trans (by decide +kernel)⟩

/-- Where a match that is a whole word gives way to nothing, what follows may become a whole word:
one match is listed, but two are replaced, and less is left than the listed match would leave. -/
theorem replaceAll_goes_beyond_findAll :
    let b := Buffer.ofText ['-', 'a', '-', 'a'] .plainText
    let o : FindOptions := { caseSensitive := true, wholeWord := true }
    let fs : List Range := [⟨⟨1, 0⟩, ⟨1, 2⟩⟩]
    ∃ es b', b.Reachable ∧ b.findAll ['-', 'a'] b.range o = .ok fs ∧
      b.replaceAll ['-', 'a'] [] b.range o = (.ok es, b') ∧ es.length ≠ fs.length ∧
      b'.text ≠ b.text.replaceEach 0 (fs.map fun f => (b.offset f.start, b.offset f.stop, [])) := by
  intro b o fs
  have hresult : (b.replaceAll ['-', 'a'] [] b.range o).1 =
      .ok [⟨⟨1, 0⟩, true, ⟨⟨1, 0⟩, ⟨1, 0⟩⟩, ['-', 'a'], []⟩,
        ⟨⟨1, 0⟩, true, ⟨⟨1, 0⟩, ⟨1, 0⟩⟩, ['-', 'a'], []⟩] := by decide +kernel
  refine ⟨_, (b.replaceAll ['-', 'a'] [] b.range o).2, .ofText _ _, ?_, Prod.ext hresult rfl, ?_, ?_⟩
  · decide +kernel
  · decide
  · decide +kernel

end Buffer

end SourceEditor
