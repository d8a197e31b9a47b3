/-
  SourceEditor/Proofs/Search/Lines.lean
  =====================================
  **Matches line by line.**  The matches of a range are those on its first line, and then those of
  the range from the next line on.  So what is left of the matches of a range behind the first one
  are the matches of the range from the end of that one on.
-/
import SourceEditor.Proofs.Buffer.Points
import SourceEditor.Proofs.Search.Bounds
import SourceEditor.Proofs.Search.Context
import SourceEditor.Search.Find

namespace SourceEditor

namespace Matcher

/-! ### From line to line -/

theorem mem_linesBetween {b : Buffer} {first last n : Nat} {l : Line} :
    (n, l) ∈ linesBetween b first last ↔ b.line? n = some l ∧ first ≤ n ∧ n ≤ last := by
  simp only [linesBetween, List.mem_filter, List.mem_map, Bool.and_eq_true, decide_eq_true_eq,
    Prod.exists, Buffer.line?_eq_some_iff]
  constructor
  · rintro ⟨⟨l', n', hmem, heq⟩, hbounds⟩
    obtain ⟨rfl, rfl⟩ := Prod.mk.inj heq
    obtain ⟨hle, hget⟩ := List.mk_mem_zipIdx_iff_le_and_getElem?_sub.mp hmem
    exact ⟨⟨by omega, hget⟩, hbounds⟩
  · rintro ⟨⟨hn, hget⟩, hbounds⟩
    refine ⟨⟨l, n, ?_, rfl⟩, hbounds⟩
    exact List.mk_mem_zipIdx_iff_le_and_getElem?_sub.mpr ⟨by omega, hget⟩

theorem filter_zipIdx_eq_cons {ls : List Line} {i first last : Nat} {l : Line} (hi : i ≤ first)
    (h : ls[first - i]? = some l) (hle : first ≤ last) :
    ((ls.zipIdx i).map Prod.swap).filter (fun (n, _) => first ≤ n && n ≤ last) =
      (first, l) ::
        ((ls.zipIdx i).map Prod.swap).filter (fun (n, _) => first + 1 ≤ n && n ≤ last) := by
  induction ls generalizing i with
  | nil => cases h
  | cons a ls ih =>
    rw [List.zipIdx_cons, List.map_cons, Prod.swap_prod_mk]
    rcases Nat.lt_or_eq_of_le hi with hlt | rfl
    · have hnext : ls[first - (i + 1)]? = some l := by
        rw [← h, ← Nat.sub_sub, ← List.getElem?_cons_succ (a := a)]
        congr 1
        omega
      have hout : ¬(first ≤ i ∧ i ≤ last) := by omega
      have hout' : ¬(first + 1 ≤ i ∧ i ≤ last) := by omega
      rw [List.filter_cons_of_neg (by simpa only [Bool.and_eq_true, decide_eq_true_eq] using hout),
        List.filter_cons_of_neg (by simpa only [Bool.and_eq_true, decide_eq_true_eq] using hout')]
      exact ih hlt hnext
    · rw [Nat.sub_self] at h
      obtain rfl : a = l := Option.some.inj h
      have hin : i ≤ i ∧ i ≤ last := ⟨Nat.le_refl _, hle⟩
      have hout : ¬(i + 1 ≤ i ∧ i ≤ last) := by omega
      rw [List.filter_cons_of_pos (by simpa only [Bool.and_eq_true, decide_eq_true_eq] using hin),
        List.filter_cons_of_neg (by simpa only [Bool.and_eq_true, decide_eq_true_eq] using hout)]
      congr 1
      apply List.filter_congr
      intro x hx
      obtain ⟨y, hy, rfl⟩ := List.mem_map.mp hx
      have := List.le_snd_of_mem_zipIdx hy
      have hn : i ≤ y.2 := by omega
      simp [hn, this]

theorem linesBetween_eq_cons {b : Buffer} {first last : Nat} {l : Line}
    (h : b.line? first = some l) (hle : first ≤ last) :
    linesBetween b first last = (first, l) :: linesBetween b (first + 1) last := by
  obtain ⟨hne, hget⟩ := Buffer.line?_eq_some_iff.mp h
  exact filter_zipIdx_eq_cons (Nat.one_le_iff_ne_zero.mpr hne) hget hle

theorem linesBetween_eq_nil (b : Buffer) {first last : Nat} (h : last < first) :
    linesBetween b first last = [] := by
  rw [linesBetween, List.filter_eq_nil_iff]
  rintro ⟨n, l⟩ _
  simp only [Bool.and_eq_true, decide_eq_true_eq]
  omega

/-- On a line further down a range begins at the first column, wherever it starts. -/
theorem matchesOn_below (m : Matcher) {p : Point} (q : Point) (overlapping : Bool) {n : Nat}
    (l : Line) (h : p.line < n) :
    m.matchesOn ⟨p, q⟩ overlapping n l = m.matchesOn ⟨⟨p.line + 1, 0⟩, q⟩ overlapping n l := by
  have hcolumns : columnsOn ⟨p, q⟩ n l = columnsOn ⟨⟨p.line + 1, 0⟩, q⟩ n l := by
    rw [columnsOn, columnsOn, if_neg (by simp only; omega)]
    simp
  simp only [matchesOn, hcolumns]

/-- The matches of a range are those on its first line and those from the next line on. -/
theorem findAllIn_eq_append (m : Matcher) {b : Buffer} {p q : Point} {l : Line}
    (h : b.line? p.line = some l) (hle : p.line ≤ q.line) :
    m.findAllIn b ⟨p, q⟩ =
      m.matchesOn ⟨p, q⟩ false p.line l ++ m.findAllIn b ⟨⟨p.line + 1, 0⟩, q⟩ := by
  have hne := (Buffer.line?_eq_some_iff.mp h).1
  rw [findAllIn, findAllIn, if_neg hne, if_neg (Nat.succ_ne_zero _), linesBetween_eq_cons h hle,
    List.flatMap_cons]
  congr 1
  apply List.flatMap_congr
  rintro ⟨n, l'⟩ hmem
  exact m.matchesOn_below q false l' (mem_linesBetween.mp hmem).2.1

theorem findAllIn_eq_nil (m : Matcher) (b : Buffer) {p q : Point} (h : q.line < p.line) :
    m.findAllIn b ⟨p, q⟩ = [] := by
  rw [findAllIn, linesBetween_eq_nil b h]
  simp

theorem head?_findAllIn (m : Matcher) (b : Buffer) (r : Range) :
    (m.findAllIn b r).head? = m.findFirst b r := by
  rw [findAllIn, findFirst]
  split
  · rfl
  · induction linesBetween b r.start.line r.stop.line with
    | nil => rfl
    | cons x rest ih =>
      obtain ⟨n, l⟩ := x
      rw [List.flatMap_cons, List.head?_append, ih, head?_matchesOn, List.findSome?_cons]
      dsimp only
      rcases m.firstOn r n l with _ | f <;> rfl

theorem findAllIn_eq_nil_iff {m : Matcher} {b : Buffer} {r : Range} :
    m.findAllIn b r = [] ↔ m.findFirst b r = none := by
  rw [← head?_findAllIn, List.head?_eq_none_iff]

theorem findFirst_eq_some_iff {m : Matcher} {b : Buffer} {r f : Range} :
    m.findFirst b r = some f ↔ ∃ others, m.findAllIn b r = f :: others := by
  rw [← head?_findAllIn, List.head?_eq_some_iff]

/-- The column up to which a range that stops at `q` covers a line. -/
def limitOn (q : Point) (n : Nat) (l : Line) : Nat :=
  min (if n = q.line then q.col else l.length) l.length

theorem matchesOn_eq (m : Matcher) {p : Point} (q : Point) {overlapping : Bool} {l : Line}
    (hcol : p.col ≤ l.length) :
    m.matchesOn ⟨p, q⟩ overlapping p.line l =
      (m.lineMatches l.text (limitOn q p.line l) overlapping p.col).map (onLine p.line) := by
  simp only [matchesOn, columnsOn, if_true, matchesBetween]
  rw [Nat.min_eq_left (show p.col ≤ l.text.length from hcol)]
  rfl

theorem hasPoint_line {b : Buffer} {q : Point} (hq : b.HasPoint q) {n : Nat} (hn : n ≠ 0)
    (hle : n ≤ q.line) : b.HasPoint ⟨n, 0⟩ := by
  obtain ⟨_, t, ht, _⟩ := hq
  have hlt := (List.getElem?_eq_some_iff.mp ht).1
  have hget : n - 1 < b.texts.length := by omega
  exact ⟨hn, _, List.getElem?_eq_getElem hget, Nat.zero_le _⟩

/-- The matches on a line take some of its characters. -/
theorem bounds_of_mem_lineMatches {m : Matcher} {t : Text} {limit col : Nat} {overlapping : Bool}
    {r : Nat × Nat} (hlimit : limit ≤ t.length) (h : r ∈ m.lineMatches t limit overlapping col) :
    r.1 < r.2 ∧ r.2 ≤ limit := by
  fun_induction lineMatches m t limit overlapping col with
  | case1 => cases h
  | case2 col first hnext _ ih =>
    rcases List.mem_cons.mp h with rfl | h
    · exact ⟨(nextMatch_bounds hnext).2.2, stop_le_of_nextMatch hlimit hnext⟩
    · exact ih h

/-- Whether a range takes some characters of a line. -/
structure Takes (b : Buffer) (f : Range) (l : Line) : Prop where
  line : b.line? f.start.line = some l
  single : f.stop.line = f.start.line
  lt : f.start.col < f.stop.col
  le : f.stop.col ≤ l.length

theorem exists_takes_of_mem_findAllIn {m : Matcher} {b : Buffer} {r f : Range}
    (h : f ∈ m.findAllIn b r) : ∃ l, Takes b f l := by
  rw [findAllIn] at h
  split at h
  · cases h
  · obtain ⟨⟨n, l⟩, hline, hmatch⟩ := List.mem_flatMap.mp h
    obtain ⟨columns, hcolumns, rfl⟩ := List.mem_map.mp hmatch
    obtain ⟨hlt, hle⟩ := bounds_of_mem_lineMatches (Nat.min_le_right _ _) hcolumns
    exact ⟨l, (mem_linesBetween.mp hline).1, rfl, hlt, Nat.le_trans hle (Nat.min_le_right _ _)⟩

/-- The matches on a line from a column on begin there or further on. -/
theorem le_of_mem_lineMatches {m : Matcher} {t : Text} {limit col : Nat} {overlapping : Bool}
    {r : Nat × Nat} (h : r ∈ m.lineMatches t limit overlapping col) : col ≤ r.1 := by
  fun_induction lineMatches m t limit overlapping col with
  | case1 => cases h
  | case2 col first hnext hbounds ih =>
    rcases List.mem_cons.mp h with rfl | h
    · exact hbounds.2.1
    · have hle := ih h
      split at hle <;> omega

/-- The matches of a range lie inside it. -/
theorem inside_of_mem_findAllIn {m : Matcher} {b : Buffer} {r f : Range}
    (hstart : b.HasPoint r.start) (h : f ∈ m.findAllIn b r) :
    r.start ≤ f.start ∧ f.stop ≤ r.stop := by
  rw [findAllIn] at h
  split at h
  · cases h
  · obtain ⟨⟨n, l⟩, hline, hmatch⟩ := List.mem_flatMap.mp h
    obtain ⟨hl, hfirst, hlast⟩ := mem_linesBetween.mp hline
    obtain ⟨⟨i, j⟩, hcolumns, rfl⟩ := List.mem_map.mp hmatch
    have hi := le_of_mem_lineMatches hcolumns
    have hj := (bounds_of_mem_lineMatches (Nat.min_le_right _ _) hcolumns).2
    rw [Point.le_iff, Point.le_iff]
    simp only [onLine] at hi hj ⊢
    constructor
    · by_cases hn : n = r.start.line
      · obtain ⟨l', hl', hcol⟩ := Buffer.hasPoint_iff.mp hstart
        obtain rfl : l = l' := Option.some.inj (hl.symm.trans (hn ▸ hl'))
        have hcol' : r.start.col ≤ l.text.length := hcol
        rw [if_pos hn, Nat.min_eq_left hcol'] at hi
        exact .inr ⟨hn.symm, hi⟩
      · omega
    · by_cases hn : n = r.stop.line
      · rw [if_pos hn] at hj
        exact .inr ⟨hn, Nat.le_trans hj (Nat.min_le_left _ _)⟩
      · omega

/-- Both ends of a match are points of the buffer. -/
theorem hasPoint_of_mem_findAllIn {m : Matcher} {b : Buffer} {r f : Range}
    (h : f ∈ m.findAllIn b r) : b.HasPoint f.start ∧ b.HasPoint f.stop := by
  obtain ⟨l, hl, hsingle, hlt, hstop⟩ := exists_takes_of_mem_findAllIn h
  exact ⟨Buffer.hasPoint_iff.mpr ⟨l, hl, by omega⟩,
    Buffer.hasPoint_iff.mpr ⟨l, by rw [hsingle]; exact hl, hstop⟩⟩

/-- Behind the first match of a range come the matches of what is left of the range. -/
theorem findAllIn_tail {m : Matcher} {b : Buffer} {p q : Point} (hp : b.HasPoint p)
    (hq : b.HasPoint q) {f : Range} {rest : List Range} (h : m.findAllIn b ⟨p, q⟩ = f :: rest) :
    m.findAllIn b ⟨f.stop, q⟩ = rest := by
  -- the matches are looked for line by line
  induction hn : q.line + 1 - p.line generalizing p with
  | zero =>
    rw [findAllIn_eq_nil m b (by omega)] at h
    cases h
  | succ n ih =>
    have hle : p.line ≤ q.line := by omega
    obtain ⟨l, hl, hcol⟩ := Buffer.hasPoint_iff.mp hp
    rw [findAllIn_eq_append m hl hle, matchesOn_eq m q hcol, lineMatches_eq] at h
    rcases hnext : m.nextMatch l.text (limitOn q p.line l) p.col with _ | r
    · simp only [hnext, List.map_nil, List.nil_append] at h
      by_cases hlt : p.line < q.line
      · exact ih (hasPoint_line hq (Nat.succ_ne_zero _) hlt) h (by simp only; omega)
      · rw [findAllIn_eq_nil m b (by simp only; omega)] at h
        cases h
    · simp only [hnext, Bool.false_eq_true, if_false, List.map_cons, List.cons_append] at h
      obtain ⟨rfl, hrest⟩ := List.cons.inj h
      have hstop := stop_le_of_nextMatch (Nat.min_le_right _ _) hnext
      rw [← hrest]
      exact (findAllIn_eq_append m (p := ⟨p.line, r.2⟩) hl hle).trans
        (congrArg (· ++ _) (matchesOn_eq m (p := ⟨p.line, r.2⟩) q
          (Nat.le_trans hstop (Nat.min_le_right _ _))))

/-- Each match of a range begins where the one before ends, or behind that. -/
theorem pairwise_findAllIn (m : Matcher) {b : Buffer} {p q : Point} (hp : b.HasPoint p)
    (hq : b.HasPoint q) : (m.findAllIn b ⟨p, q⟩).Pairwise fun f g => f.stop ≤ g.start := by
  induction hfs : m.findAllIn b ⟨p, q⟩ generalizing p with
  | nil => exact .nil
  | cons f rest ih =>
    have hf : f ∈ m.findAllIn b ⟨p, q⟩ := by
      rw [hfs]
      exact List.mem_cons_self
    have hpoint := hasPoint_of_mem_findAllIn hf
    have htail := findAllIn_tail hp hq hfs
    refine .cons ?_ (ih hpoint.2 htail)
    intro g hg
    rw [← htail] at hg
    exact (inside_of_mem_findAllIn hpoint.2 hg).1

end Matcher

end SourceEditor
