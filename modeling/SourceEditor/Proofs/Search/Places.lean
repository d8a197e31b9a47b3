/-
  SourceEditor/Proofs/Search/Places.lean
  ======================================
  **Matches as places of the text.**  A range of the text is searched from the line on which the
  text in front of it ends.  What is found depends on the text from there on alone, and on the part
  of the line in front, as far as the matcher can tell such parts apart: in another text that goes
  on in the same way the first match is at the same place.
-/
import SourceEditor.Proofs.Buffer.Points
import SourceEditor.Proofs.Search.Lines

namespace SourceEditor.Matcher

theorem findFirst_eq_nil (m : Matcher) (b : Buffer) {p q : Point} (h : q.line < p.line) :
    m.findFirst b ⟨p, q⟩ = none := by
  rw [← head?_findAllIn, findAllIn_eq_nil m b h]
  rfl

/-- The first match of a range is the first one on its first line or, if there is none, the first
one from the next line on. -/
theorem findFirst_eq_or (m : Matcher) {b : Buffer} {p : Point} (q : Point) {l : Line}
    (hl : b.line? p.line = some l) (hcol : p.col ≤ l.length) (hle : p.line ≤ q.line) :
    m.findFirst b ⟨p, q⟩ =
      ((m.nextMatch l.text (limitOn q p.line l) p.col).map (onLine p.line)).or
        (m.findFirst b ⟨⟨p.line + 1, 0⟩, q⟩) := by
  rw [← head?_findAllIn, findAllIn_eq_append m hl hle, List.head?_append, matchesOn_eq m q hcol,
    List.head?_map, lineMatches_eq, head?_findAllIn]
  rcases m.nextMatch l.text (limitOn q p.line l) p.col with _ | r <;> rfl

/-- On its first line a range covers the first part of its text. -/
theorem limitOn_behind (s t u : Text) (hs : s.lastPart.length = (Point.behind s).col) {l : Line}
    (hl : l.text = s.lastPart ++ (t ++ u).firstPart) :
    limitOn (.behind (s ++ t)) (Point.behind s).line l =
      t.firstPart.length + s.lastPart.length := by
  have hlength : l.length = s.lastPart.length + (t ++ u).firstPart.length := by
    rw [Line.length, hl, List.length_append]
  rw [limitOn, Point.behind_append]
  by_cases hfeed : '\n' ∈ t
  · have hcount : 0 < t.count '\n' := List.count_pos_iff.mpr hfeed
    obtain ⟨g, t', rfl, hg⟩ := List.eq_append_cons_of_mem hfeed
    rw [if_neg (by rw [Point.advance_line]; omega), Nat.min_self, hlength,
      Text.firstPart_append_feed hg, List.append_assoc, List.cons_append,
      Text.firstPart_append_feed hg]
    omega
  · rw [Point.advance_of_not_mem _ hfeed, if_pos rfl, hlength, Text.firstPart_append hfeed,
      Text.firstPart_of_not_mem hfeed, List.length_append]
    simp only
    omega

/-- The first match in a part of the text, by the line on which the text in front of it ends. -/
theorem findFirst_on_line (m : Matcher) {b : Buffer} (hb : b.IsClean) {s t u : Text}
    (h : b.text = s ++ t ++ u) :
    s.lastPart.length = (Point.behind s).col ∧
      m.findFirst b ⟨.behind s, .behind (s ++ t)⟩ =
        ((m.nextMatch (s.lastPart ++ (t ++ u).firstPart)
            (t.firstPart.length + s.lastPart.length) (0 + s.lastPart.length)).map
          (onLine (Point.behind s).line)).or
          (m.findFirst b ⟨⟨(Point.behind s).line + 1, 0⟩, .behind (s ++ t)⟩) := by
  obtain ⟨l, hl, hltext, hs⟩ :=
    Buffer.exists_line_behind hb (h.trans (List.append_assoc s t u))
  have hcol : (Point.behind s).col ≤ l.length := by
    rw [Line.length, hltext, List.length_append]
    omega
  have hle : (Point.behind s).line ≤ (Point.behind (s ++ t)).line := by
    rw [Point.behind_append, Point.advance_line]
    omega
  refine ⟨hs, ?_⟩
  rw [findFirst_eq_or m _ hl hcol hle, limitOn_behind s t u hs hltext, hltext, Nat.zero_add, hs]

/-- Columns on a line behind a text are places in what follows on the line. -/
theorem onLine_movedColumns (s g w : Text) {x : Text} (hx : x.length = (Point.behind s).col)
    (h : '\n' ∉ g ++ w) :
    onLine (Point.behind s).line (movedColumns x.length (g.length, (g ++ w).length)) =
      ⟨.behind (s ++ g), .behind (s ++ g ++ w)⟩ := by
  have hg : '\n' ∉ g := fun hmem => h (List.mem_append_left w hmem)
  rw [List.append_assoc, Point.behind_append s g, Point.behind_append s (g ++ w),
    Point.advance_of_not_mem _ hg, Point.advance_of_not_mem _ h, onLine, movedColumns, hx]
  simp only [Nat.add_comm]

/-- A match in the first part of a text is a part of it, and not empty. -/
theorem exists_cut_of_nextMatch {m : Matcher} {x t u : Text} {i j : Nat}
    (h : m.nextMatch (x ++ (t ++ u).firstPart) (t.firstPart.length + x.length) (0 + x.length) =
      some (movedColumns x.length (i, j))) :
    ∃ g w v, t = g ++ w ++ v ∧ w ≠ [] ∧ '\n' ∉ g ++ w ∧ g.length = i ∧ (g ++ w).length = j := by
  have hlimit : t.firstPart.length + x.length ≤ (x ++ (t ++ u).firstPart).length := by
    have hle := (Text.firstPart_prefix_append t u).length_le
    rw [List.length_append]
    omega
  obtain ⟨_, _, hlt⟩ := nextMatch_bounds h
  have hstop := stop_le_of_nextMatch hlimit h
  simp only [movedColumns] at hlt hstop
  obtain ⟨g, w, v, hcut, hi, hj⟩ :=
    Text.exists_cut t.firstPart (show i ≤ j by omega) (show j ≤ t.firstPart.length by omega)
  obtain ⟨rest, ht⟩ := Text.firstPart_prefix t
  refine ⟨g, w, v ++ rest, ?_, ?_, ?_, hi, hj⟩
  · rw [← ht, hcut, List.append_assoc _ v rest]
  · rintro rfl
    rw [List.append_nil, hi] at hj
    omega
  · intro hmem
    exact Text.feed_not_mem_firstPart t (hcut ▸ List.mem_append_left v hmem)

theorem nextLine_eq_behind (s : Text) {g : Text} (h : '\n' ∉ g) :
    (⟨(Point.behind s).line + 1, 0⟩ : Point) = .behind (s ++ g ++ ['\n']) := by
  rw [Point.behind_append, Point.behind_append, Point.advance_of_not_mem _ h]
  rfl

/-- In two texts that go on alike, behind parts of a line that the matcher does not tell apart, the
first match is at the same place.  It lies on one line, and is not empty. -/
theorem findFirst_alike {m : Matcher} {b b' : Buffer} (hb : b.IsClean) (hb' : b'.IsClean)
    {s s' t u : Text} (h : b.text = s ++ t ++ u) (h' : b'.text = s' ++ t ++ u)
    (halike : m.Alike s.lastPart s'.lastPart) :
    (m.findFirst b ⟨.behind s, .behind (s ++ t)⟩ = none ∧
        m.findFirst b' ⟨.behind s', .behind (s' ++ t)⟩ = none) ∨
      ∃ g w v, t = g ++ w ++ v ∧ w ≠ [] ∧ w.IsLine ∧
        m.findFirst b ⟨.behind s, .behind (s ++ t)⟩ =
          some ⟨.behind (s ++ g), .behind (s ++ g ++ w)⟩ ∧
        m.findFirst b' ⟨.behind s', .behind (s' ++ t)⟩ =
          some ⟨.behind (s' ++ g), .behind (s' ++ g ++ w)⟩ := by
  -- what is left of the range gets shorter from line to line
  induction hn : t.length using Nat.strongRecOn generalizing s s' t with
  | ind n ih =>
    obtain ⟨hs, hfirst⟩ := findFirst_on_line m hb h
    obtain ⟨hs', hfirst'⟩ := findFirst_on_line m hb' h'
    obtain ⟨r, hr, hr'⟩ := exists_nextMatch halike (t ++ u).firstPart t.firstPart.length 0
    rw [hr] at hfirst
    rw [hr'] at hfirst'
    rcases r with _ | ⟨i, j⟩
    · rw [Option.map_none, Option.map_none, Option.none_or] at hfirst hfirst'
      by_cases hfeed : '\n' ∈ t
      · -- the search goes on at the start of the next line, where nothing stands before
        obtain ⟨g, t', rfl, hg⟩ := List.eq_append_cons_of_mem hfeed
        have hsplit : ∀ s : Text, s ++ (g ++ '\n' :: t') = s ++ g ++ ['\n'] ++ t' := fun s => by
          simp
        rw [nextLine_eq_behind _ hg, hsplit] at hfirst hfirst'
        rw [hsplit] at h h'
        have hshorter : t'.length < n := by
          rw [← hn, List.length_append, List.length_cons]
          omega
        have hstarts : m.Alike (s ++ g ++ ['\n']).lastPart (s' ++ g ++ ['\n']).lastPart := by
          rw [Text.lastPart_append_feed, Text.lastPart_append_feed]
          exact .refl m _
        rw [hsplit, hsplit, hfirst, hfirst']
        rcases ih t'.length hshorter h h' hstarts rfl with hnone | hsome
        · exact .inl hnone
        · obtain ⟨g', w, v, rfl, hne, hline, hfound, hfound'⟩ := hsome
          refine .inr ⟨g ++ '\n' :: g', w, v, by simp, hne, hline, ?_, ?_⟩
          · rw [hfound]
            simp
          · rw [hfound']
            simp
      · have hlast : ∀ s : Text, (Point.behind (s ++ t)).line < (Point.behind s).line + 1 :=
          fun s => by
            rw [Point.behind_append, Point.advance_of_not_mem _ hfeed]
            exact Nat.lt_succ_self _
        rw [hfirst, hfirst', findFirst_eq_nil m b (hlast s), findFirst_eq_nil m b' (hlast s')]
        exact .inl ⟨rfl, rfl⟩
    · obtain ⟨g, w, v, hcut, hne, hfeed, rfl, rfl⟩ := exists_cut_of_nextMatch hr
      rw [Option.map_some, Option.map_some, Option.some_or, onLine_movedColumns s g w hs hfeed]
        at hfirst
      rw [Option.map_some, Option.map_some, Option.some_or, onLine_movedColumns s' g w hs' hfeed]
        at hfirst'
      refine .inr ⟨g, w, v, hcut, hne, ?_, hfirst, hfirst'⟩
      have hreturn := hb.return_not_mem
      rw [h, hcut] at hreturn
      apply (Text.isLine_iff w).mpr
      constructor
      · intro hmem
        exact hfeed (List.mem_append_right g hmem)
      · intro hmem
        exact hreturn (by simp [hmem])

/-- The text that takes the place of a match is the same in two texts that go on alike from the
match on, behind parts of a line that the matcher does not tell apart. -/
theorem replacement_alike {m : Matcher} {b b' : Buffer} (hb : b.IsClean) (hb' : b'.IsClean)
    {s s' t : Text} (h : b.text = s ++ t) (h' : b'.text = s' ++ t)
    (halike : m.Alike s.lastPart s'.lastPart) (stop stop' : Point) (replacement : Text) :
    m.replacement b ⟨.behind s, stop⟩ replacement =
      m.replacement b' ⟨.behind s', stop'⟩ replacement := by
  obtain ⟨l, hl, hltext, hs⟩ := Buffer.exists_line_behind hb h
  obtain ⟨l', hl', hltext', hs'⟩ := Buffer.exists_line_behind hb' h'
  have hsame := replacementAt_append halike t.firstPart (Nat.zero_le _) replacement
  simp only [Matcher.replacement, hl, hl', hltext, hltext', ← hs, ← hs']
  simpa only [Nat.zero_add] using hsame

end SourceEditor.Matcher
