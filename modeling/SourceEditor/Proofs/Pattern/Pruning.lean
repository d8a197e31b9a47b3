/-
  SourceEditor/Proofs/Pattern/Pruning.lean
  ========================================
  **Giving up where one has been.**  A run gives up each way that comes to a step and a place where
  it has been, and a search hands on what it has seen to the run that starts one character further
  on.  A run without a match has gone on from all it has seen, so nothing comes of any of it, and
  the next run may do without it.  So a search depends on nothing but the text: started between the
  place where another search starts and the match that that one finds, it finds the same match.
-/
import Mathlib.Data.Finset.Card
import Mathlib.Order.Interval.Finset.Nat
import SourceEditor.Proofs.Pattern.Steps

namespace SourceEditor.Pattern

/-! ### Ways on a text -/

/-- The number that stands for the place and the column of a way in what a run has seen. -/
def Program.key (p : Program) (w : Way) : Nat := w.col * (p.steps.size + 1) + w.place

/-- Whether a way is at a place of the program and at a column of a text. -/
structure Way.IsOn (p : Program) (t : Text) (w : Way) : Prop where
  place : w.place ≤ p.steps.size
  col : w.col ≤ t.length
  before : w.before = (t.take w.col).getLast?
  rest : w.rest = t.drop w.col

variable {p : Program} {t : Text} {w w' : Way} {s : Step}

theorem Step.length_ways_le (s : Step) (w : Way) : (s.ways w).length ≤ 2 := by
  cases s with
  | chars set =>
    simp only [ways]
    split
    · exact Nat.zero_le 2
    · split <;> simp
  | check a =>
    simp only [ways]
    split <;> simp
  | mark slot => simp [ways]
  | fork preferred other => exact Nat.le_refl 2
  | jump distance => simp [ways]

theorem Way.IsOn.go (hp : p.Stays) (hw : w.IsOn p t) (hs : p.steps[w.place]? = some s) {d : Int}
    (hd : d ∈ s.distances) : (w.go d).IsOn p t where
  place := by
    rw [← Array.getElem?_toList] at hs
    have hstay := hp w.place s hs d hd
    rw [Array.length_toList] at hstay
    simp only [Way.go]
    omega
  col := hw.col
  before := hw.before
  rest := hw.rest

theorem getLast?_take_succ {t : Text} {col : Nat} {c : Char} {rest : Text}
    (h : t.drop col = c :: rest) :
    col < t.length ∧ (t.take (col + 1)).getLast? = some c ∧ t.drop (col + 1) = rest := by
  have hlt : col < t.length := by
    rw [← List.drop_eq_nil_iff.not.trans Nat.not_le, h]
    exact List.cons_ne_nil c rest
  have hget : t[col] = c := by
    rw [List.drop_eq_getElem_cons hlt] at h
    exact (List.cons.inj h).1
  refine ⟨hlt, ?_, ?_⟩
  · rw [List.take_succ_eq_append_getElem hlt, List.getLast?_concat, hget]
  · rw [← List.drop_drop, h]
    rfl

/-- A step leads from a way on the text to ways on the text, none of them further back. -/
theorem Way.IsOn.of_mem_ways (hp : p.Stays) (hw : w.IsOn p t) (hs : p.steps[w.place]? = some s)
    (h : w' ∈ s.ways w) : w'.IsOn p t ∧ w.col ≤ w'.col := by
  have hlt := (Array.getElem?_eq_some_iff.mp hs).1
  cases s with
  | chars set =>
    rcases hrest : w.rest with _ | ⟨c, rest⟩
    · simp [Step.ways, hrest] at h
    · simp only [Step.ways, hrest] at h
      split at h
      · obtain ⟨hcol, hbefore, hdrop⟩ := getLast?_take_succ (hw.rest.symm.trans hrest)
        rw [List.mem_singleton.mp h]
        exact ⟨⟨hlt, hcol, hbefore.symm, hdrop.symm⟩, Nat.le_succ _⟩
      · cases h
  | check a =>
    simp only [Step.ways] at h
    split at h
    · rw [List.mem_singleton.mp h]
      exact ⟨hw.go hp hs (List.mem_singleton.mpr rfl), Nat.le_refl _⟩
    · cases h
  | mark slot =>
    rw [List.mem_singleton.mp h]
    exact ⟨⟨hlt, hw.col, hw.before, hw.rest⟩, Nat.le_refl _⟩
  | fork preferred other =>
    rcases List.mem_cons.mp h with rfl | h
    · exact ⟨hw.go hp hs List.mem_cons_self, Nat.le_refl _⟩
    · rw [List.mem_singleton.mp h]
      exact ⟨hw.go hp hs (List.mem_cons_of_mem _ List.mem_cons_self), Nat.le_refl _⟩
  | jump distance =>
    rw [List.mem_singleton.mp h]
    exact ⟨hw.go hp hs List.mem_cons_self, Nat.le_refl _⟩

/-- Ways on the text with the same number are at the same place and column. -/
theorem Way.IsOn.eq_of_key (hw : w.IsOn p t) (hw' : w'.IsOn p t) (h : p.key w = p.key w') :
    w' = { w with marks := w'.marks } := by
  have hcol : w.col = w'.col := by
    have hdiv : ∀ v : Way, v.IsOn p t → p.key v / (p.steps.size + 1) = v.col := by
      intro v hv
      rw [Program.key, Nat.mul_comm, Nat.mul_add_div (Nat.succ_pos _),
        Nat.div_eq_of_lt (Nat.lt_succ_of_le hv.place), Nat.add_zero]
    rw [← hdiv w hw, ← hdiv w' hw', h]
  have hplace : w.place = w'.place := by
    rw [Program.key, Program.key, hcol] at h
    omega
  obtain ⟨place, col, before, rest, marks⟩ := w
  obtain ⟨place', col', before', rest', marks'⟩ := w'
  simp only at hcol hplace
  subst hcol hplace
  have hbefore := hw'.before.trans hw.before.symm
  have hrest := hw'.rest.trans hw.rest.symm
  simp only at hbefore hrest
  rw [hbefore, hrest]

/-- What a way has noted does not decide where it may go on. -/
theorem Step.exists_mem_ways (p : Program) (s : Step) (w : Way) (marks : List (Nat × Nat))
    (h : w' ∈ s.ways { w with marks }) : ∃ v ∈ s.ways w, p.key v = p.key w' := by
  cases s with
  | chars set =>
    rcases hrest : w.rest with _ | ⟨c, rest⟩
    · simp [ways, hrest] at h
    · simp only [ways, hrest] at h ⊢
      split at h
      · rename_i hset
        rw [List.mem_singleton.mp h, if_pos hset]
        exact ⟨_, List.mem_singleton.mpr rfl, rfl⟩
      · cases h
  | check a =>
    simp only [ways] at h ⊢
    split at h
    · rename_i holds
      rw [List.mem_singleton.mp h, if_pos holds]
      exact ⟨_, List.mem_singleton.mpr rfl, rfl⟩
    · cases h
  | mark slot =>
    rw [List.mem_singleton.mp h]
    exact ⟨_, List.mem_singleton.mpr rfl, rfl⟩
  | fork preferred other =>
    rcases List.mem_cons.mp h with rfl | h
    · exact ⟨_, List.mem_cons_self, rfl⟩
    · rw [List.mem_singleton.mp h]
      exact ⟨_, List.mem_cons_of_mem _ List.mem_cons_self, rfl⟩
  | jump distance =>
    rw [List.mem_singleton.mp h]
    exact ⟨_, List.mem_singleton.mpr rfl, rfl⟩

/-! ### What has been seen -/

/-- Whether a run has gone on from all it has seen: none of it was the end of the program, and what
each step leads to has been seen or is on the stack. -/
def Explored (p : Program) (t : Text) (seen : Std.HashSet Nat) (stack : List Way) : Prop :=
  ∀ w : Way, w.IsOn p t → seen.contains (p.key w) = true →
    ∃ s, p.steps[w.place]? = some s ∧ ∀ w' ∈ s.ways w,
      seen.contains (p.key w') = true ∨ ∃ v ∈ stack, p.key v = p.key w'

/-- Whether nothing comes of what has been seen: there is no way out of it. -/
def IsBarren (p : Program) (t : Text) (seen : Std.HashSet Nat) : Prop := Explored p t seen []

theorem isBarren_empty (p : Program) (t : Text) : IsBarren p t ∅ := by
  intro w _ h
  simp at h

theorem IsBarren.explored {seen : Std.HashSet Nat} (h : IsBarren p t seen) (stack : List Way) :
    Explored p t seen stack := by
  intro w hw hseen
  obtain ⟨s, hs, hways⟩ := h w hw hseen
  refine ⟨s, hs, ?_⟩
  intro w' hw'
  rcases hways w' hw' with hw' | ⟨v, hv, _⟩
  · exact .inl hw'
  · cases hv

theorem IsBarren.contains_of_mem_ways {seen : Std.HashSet Nat} (h : IsBarren p t seen)
    (hw : w.IsOn p t) (hseen : seen.contains (p.key w) = true) :
    ∃ s, p.steps[w.place]? = some s ∧ ∀ w' ∈ s.ways w, seen.contains (p.key w') = true := by
  obtain ⟨s, hs, hways⟩ := h w hw hseen
  refine ⟨s, hs, ?_⟩
  intro w' hw'
  rcases hways w' hw' with hw' | ⟨v, hv, _⟩
  · exact hw'
  · cases hv

theorem Explored.skip {seen : Std.HashSet Nat} {more : List Way} (h : Explored p t seen (w :: more))
    (hseen : seen.contains (p.key w) = true) : Explored p t seen more := by
  intro u hu hu'
  obtain ⟨s, hs, hways⟩ := h u hu hu'
  refine ⟨s, hs, ?_⟩
  intro w' hw'
  rcases hways w' hw' with hw' | ⟨v, hv, heq⟩
  · exact .inl hw'
  · rcases List.mem_cons.mp hv with rfl | hv
    · exact .inl (heq ▸ hseen)
    · exact .inr ⟨v, hv, heq⟩

theorem Explored.step {seen : Std.HashSet Nat} {more : List Way} (h : Explored p t seen (w :: more))
    (hw : w.IsOn p t) (hs : p.steps[w.place]? = some s) :
    Explored p t (seen.insert (p.key w)) (s.ways w ++ more) := by
  intro u hu hu'
  rw [Std.HashSet.contains_insert, Bool.or_eq_true, beq_iff_eq] at hu'
  rcases hu' with heq | hu'
  · rw [hw.eq_of_key hu heq]
    refine ⟨s, hs, ?_⟩
    intro w' hw'
    obtain ⟨v, hv, hkey⟩ := s.exists_mem_ways p w _ hw'
    exact .inr ⟨v, List.mem_append_left more hv, hkey⟩
  · obtain ⟨s', hs', hways⟩ := h u hu hu'
    refine ⟨s', hs', ?_⟩
    intro w' hw'
    rw [Std.HashSet.contains_insert, Bool.or_eq_true, beq_iff_eq]
    rcases hways w' hw' with hw' | ⟨v, hv, heq⟩
    · exact .inl (.inr hw')
    · rcases List.mem_cons.mp hv with rfl | hv
      · exact .inl (.inl heq)
      · exact .inr ⟨v, List.mem_append_right _ hv, heq⟩

/-! ### Fuel -/

/-- The number of places and columns from a column on that have not been seen. -/
def Program.unseen (p : Program) (t : Text) (col : Nat) (seen : Std.HashSet Nat) : Nat :=
  ((Finset.Ico (col * (p.steps.size + 1)) ((t.length + 1) * (p.steps.size + 1))).filter
    fun key => seen.contains key = false).card

theorem Program.unseen_le (p : Program) (t : Text) (col : Nat) (seen : Std.HashSet Nat) :
    p.unseen t col seen ≤ (p.steps.size + 1) * (t.length + 1 - col) := by
  refine Nat.le_trans (Finset.card_filter_le _ _) ?_
  rw [Nat.card_Ico, ← Nat.sub_mul, Nat.mul_comm]

theorem Program.unseen_insert_lt {col : Nat} {seen : Std.HashSet Nat} (hw : w.IsOn p t)
    (hcol : col ≤ w.col) (h : seen.contains (p.key w) = false) :
    p.unseen t col (seen.insert (p.key w)) < p.unseen t col seen := by
  apply Finset.card_lt_card
  rw [Finset.ssubset_iff_of_subset]
  · refine ⟨p.key w, ?_, ?_⟩
    · have hplace := hw.place
      have hlow := Nat.mul_le_mul_right (p.steps.size + 1) hcol
      have hhigh := Nat.mul_le_mul_right (p.steps.size + 1) hw.col
      rw [Finset.mem_filter, Finset.mem_Ico, Nat.succ_mul]
      exact ⟨by rw [Program.key]; omega, h⟩
    · simp
  · intro key hkey
    rw [Finset.mem_filter, Std.HashSet.contains_insert, Bool.or_eq_false_iff] at hkey
    exact Finset.mem_filter.mpr ⟨hkey.1, hkey.2.2⟩

/-- Whether a run on a text from a column on has fuel for all it may come to: one for each way on
its stack, and two for each place and column not seen yet. -/
structure Sufficient (p : Program) (t : Text) (col fuel : Nat) (seen : Std.HashSet Nat)
    (stack : List Way) : Prop where
  isOn : ∀ w ∈ stack, w.IsOn p t ∧ col ≤ w.col
  budget : stack.length + 2 * p.unseen t col seen ≤ fuel

namespace Sufficient

variable {col fuel : Nat} {seen : Std.HashSet Nat} {more : List Way}

theorem skip (h : Sufficient p t col (fuel + 1) seen (w :: more)) :
    Sufficient p t col fuel seen more := by
  refine ⟨fun v hv => h.isOn v (List.mem_cons_of_mem w hv), ?_⟩
  have hbudget := h.budget
  rw [List.length_cons] at hbudget
  omega

theorem step (hp : p.Stays) (h : Sufficient p t col (fuel + 1) seen (w :: more))
    (hseen : seen.contains (p.key w) = false) (hs : p.steps[w.place]? = some s) :
    Sufficient p t col fuel (seen.insert (p.key w)) (s.ways w ++ more) := by
  obtain ⟨hw, hcol⟩ := h.isOn w List.mem_cons_self
  constructor
  · intro v hv
    rcases List.mem_append.mp hv with hv | hv
    · obtain ⟨hv, hle⟩ := hw.of_mem_ways hp hs hv
      exact ⟨hv, Nat.le_trans hcol hle⟩
    · exact h.isOn v (List.mem_cons_of_mem w hv)
  · have hbudget := h.budget
    have hways := s.length_ways_le w
    have hlt := Program.unseen_insert_lt hw hcol hseen
    rw [List.length_cons] at hbudget
    rw [List.length_append]
    omega

theorem exists_succ (h : Sufficient p t col fuel seen (w :: more)) : ∃ n, fuel = n + 1 := by
  have hbudget := h.budget
  rw [List.length_cons] at hbudget
  exact ⟨fuel - 1, by omega⟩

end Sufficient

namespace Program

/-! ### Runs -/

variable {fuel : Nat} {seen : Std.HashSet Nat} {more : List Way}

theorem follow_nil (p : Program) (fuel : Nat) (seen : Std.HashSet Nat) :
    p.follow fuel seen [] = .error seen := by
  cases fuel <;> rw [follow]
  exact Nat.succ_ne_zero _

theorem follow_skip (h : seen.contains (p.key w) = true) :
    p.follow (fuel + 1) seen (w :: more) = p.follow fuel seen more := by
  rw [follow]
  exact if_pos h

theorem follow_end (h : seen.contains (p.key w) = false) (hs : p.steps[w.place]? = none) :
    p.follow (fuel + 1) seen (w :: more) = .ok (w.col, w.marks) := by
  rw [follow]
  simp only [key] at h
  simp only [h, hs]
  rfl

theorem follow_step (h : seen.contains (p.key w) = false) (hs : p.steps[w.place]? = some s) :
    p.follow (fuel + 1) seen (w :: more) =
      p.follow fuel (seen.insert (p.key w)) (s.ways w ++ more) := by
  rw [follow]
  simp only [key] at h
  simp only [h, hs]
  rfl

/-- A run that ends without a match leaves nothing to be found where it has been. -/
theorem isBarren_of_follow (hp : p.Stays) {col : Nat} {stack : List Way} {last : Std.HashSet Nat}
    (hfuel : Sufficient p t col fuel seen stack) (hexplored : Explored p t seen stack)
    (h : p.follow fuel seen stack = .error last) : IsBarren p t last := by
  induction fuel generalizing seen stack with
  | zero =>
    cases stack with
    | nil =>
      rw [follow_nil] at h
      obtain rfl := Except.error.inj h
      exact hexplored
    | cons w more =>
      obtain ⟨_, hzero⟩ := hfuel.exists_succ
      cases hzero
  | succ fuel ih =>
    cases stack with
    | nil =>
      rw [follow_nil] at h
      obtain rfl := Except.error.inj h
      exact hexplored
    | cons w more =>
      rcases hseen : seen.contains (p.key w) with _ | _
      · rcases hs : p.steps[w.place]? with _ | s
        · rw [follow_end hseen hs] at h
          cases h
        · rw [follow_step hseen hs] at h
          exact ih (hfuel.step hp hseen hs)
            (hexplored.step (hfuel.isOn w List.mem_cons_self).1 hs) h
      · rw [follow_skip hseen] at h
        exact ih hfuel.skip (hexplored.skip hseen) h

/-- The ways that a run need not give up at once where nothing comes of `barren`. -/
def fertile (p : Program) (barren : Std.HashSet Nat) (stack : List Way) : List Way :=
  stack.filter fun w => !barren.contains (p.key w)

theorem fertile_append (barren : Std.HashSet Nat) (stack more : List Way) :
    p.fertile barren (stack ++ more) = p.fertile barren stack ++ p.fertile barren more :=
  List.filter_append _ _

theorem fertile_cons_of_contains {barren : Std.HashSet Nat} (h : barren.contains (p.key w) = true)
    (more : List Way) : p.fertile barren (w :: more) = p.fertile barren more := by
  rw [fertile, List.filter_cons_of_neg (by rw [h]; decide)]
  rfl

theorem fertile_cons {barren : Std.HashSet Nat} (h : barren.contains (p.key w) = false)
    (more : List Way) : p.fertile barren (w :: more) = w :: p.fertile barren more := by
  rw [fertile, List.filter_cons_of_pos (by rw [h]; rfl)]
  rfl

theorem contains_of_fertile_eq_nil {barren : Std.HashSet Nat}
    (h : p.fertile barren (w :: more) = []) : barren.contains (p.key w) = true := by
  by_contra hw
  rw [Bool.not_eq_true] at hw
  rw [fertile_cons hw] at h
  cases h

theorem fertile_ways_of_isBarren {barren : Std.HashSet Nat} (hbarren : IsBarren p t barren)
    (hw : w.IsOn p t) (h : barren.contains (p.key w) = true) :
    ∃ s, p.steps[w.place]? = some s ∧ p.fertile barren (s.ways w) = [] := by
  obtain ⟨s, hs, hways⟩ := hbarren.contains_of_mem_ways hw h
  refine ⟨s, hs, ?_⟩
  rw [fertile, List.filter_eq_nil_iff]
  intro w' hw'
  rw [hways w' hw']
  decide

/-- Whether a run has seen what another one has seen and besides only `barren`, and has the same ways
to go on but for those that lead there. -/
structure Pruned (p : Program) (barren seen : Std.HashSet Nat) (stack : List Way)
    (seen' : Std.HashSet Nat) (stack' : List Way) : Prop where
  seen : ∀ key, seen'.contains key = (barren.contains key || seen.contains key)
  stack : p.fertile barren stack' = p.fertile barren stack

namespace Pruned

variable {barren seen' : Std.HashSet Nat} {stack stack' more' : List Way}

/-- The run that has been to `barren` gives up a way there. -/
theorem skip' (h : p.Pruned barren seen stack seen' (w :: more'))
    (hw : barren.contains (p.key w) = true) :
    seen'.contains (p.key w) = true ∧ p.Pruned barren seen stack seen' more' := by
  refine ⟨by rw [h.seen, hw, Bool.true_or], h.seen, ?_⟩
  rw [← h.stack, fertile_cons_of_contains hw]

/-- The other run gives up a way there as well, where it has been. -/
theorem skip (h : p.Pruned barren seen (w :: more) seen' stack')
    (hw : barren.contains (p.key w) = true) : p.Pruned barren seen more seen' stack' := by
  refine ⟨h.seen, ?_⟩
  rw [h.stack, fertile_cons_of_contains hw]

/-- Where it has not been yet, it only comes to further ways there. -/
theorem stray (h : p.Pruned barren seen (w :: more) seen' stack') {ways : List Way}
    (hw : barren.contains (p.key w) = true) (hways : p.fertile barren ways = []) :
    p.Pruned barren (seen.insert (p.key w)) (ways ++ more) seen' stack' := by
  constructor
  · intro key
    rw [h.seen, Std.HashSet.contains_insert]
    by_cases heq : p.key w = key
    · rw [← heq, hw, Bool.true_or, Bool.true_or]
    · rw [beq_false_of_ne heq, Bool.false_or]
  · rw [fertile_append, hways, List.nil_append, h.stack, fertile_cons_of_contains hw]

/-- Elsewhere both runs give up a way, or both go on with it. -/
theorem both (h : p.Pruned barren seen (w :: more) seen' (w :: more'))
    (hw : barren.contains (p.key w) = false) :
    seen'.contains (p.key w) = seen.contains (p.key w) ∧
      p.Pruned barren seen more seen' more' ∧ ∀ ways,
        p.Pruned barren (seen.insert (p.key w)) (ways ++ more) (seen'.insert (p.key w))
          (ways ++ more') := by
  have hmore := h.stack
  rw [fertile_cons hw, fertile_cons hw, List.cons.injEq, and_iff_right rfl] at hmore
  refine ⟨by rw [h.seen, hw, Bool.false_or], ⟨h.seen, hmore⟩, ?_⟩
  intro ways
  constructor
  · intro key
    rw [Std.HashSet.contains_insert, Std.HashSet.contains_insert, h.seen, Bool.or_left_comm]
  · rw [fertile_append, fertile_append, hmore]

/-- Where both runs have a way to go on that does not lead to `barren`, it is the same way. -/
theorem eq_of_cons {w' : Way} (h : p.Pruned barren seen (w :: more) seen' (w' :: more'))
    (hw : barren.contains (p.key w) = false) (hw' : barren.contains (p.key w') = false) :
    w' = w := by
  have hstack := h.stack
  rw [fertile_cons hw, fertile_cons hw'] at hstack
  exact (List.cons.inj hstack).1

end Pruned

/-- Whether two runs end alike: with the same match, or both without one. -/
def EndAlike (x y : Except (Std.HashSet Nat) (Nat × List (Nat × Nat))) : Prop :=
  (∃ r, x = .ok r ∧ y = .ok r) ∨ ∃ last last', x = .error last ∧ y = .error last'

/-- A run that has seen besides what another one has seen only what nothing comes of ends as that
one. -/
theorem follow_pruned (hp : p.Stays) {barren : Std.HashSet Nat} (hbarren : IsBarren p t barren)
    {col fuel' : Nat} {seen' : Std.HashSet Nat} {stack stack' : List Way}
    (hfuel : Sufficient p t col fuel seen stack) (hfuel' : Sufficient p t col fuel' seen' stack')
    (h : p.Pruned barren seen stack seen' stack') :
    EndAlike (p.follow fuel seen stack) (p.follow fuel' seen' stack') := by
  -- both runs together have less fuel after each step of one of them
  induction hn : fuel + fuel' using Nat.strongRecOn
    generalizing fuel fuel' seen seen' stack stack' with
  | ind n ih =>
    -- where nothing is to be found, only the run that has not been there goes on
    have hstray : ∀ w more, stack = w :: more → barren.contains (p.key w) = true →
        EndAlike (p.follow fuel seen stack) (p.follow fuel' seen' stack') := by
      rintro w more rfl hw
      obtain ⟨fuel, rfl⟩ := hfuel.exists_succ
      rcases hvisited : seen.contains (p.key w) with _ | _
      · obtain ⟨s, hs, hways⟩ :=
          fertile_ways_of_isBarren hbarren (hfuel.isOn w List.mem_cons_self).1 hw
        rw [follow_step hvisited hs]
        exact ih _ (by omega) (hfuel.step hp hvisited hs) hfuel' (h.stray hw hways) rfl
      · rw [follow_skip hvisited]
        exact ih _ (by omega) hfuel.skip hfuel' (h.skip hw) rfl
    have hgiven : ∀ w more', stack' = w :: more' → barren.contains (p.key w) = true →
        EndAlike (p.follow fuel seen stack) (p.follow fuel' seen' stack') := by
      rintro w more' rfl hw
      obtain ⟨fuel', rfl⟩ := hfuel'.exists_succ
      obtain ⟨hvisited, hrest⟩ := h.skip' hw
      rw [follow_skip hvisited]
      exact ih _ (by omega) hfuel hfuel'.skip hrest rfl
    rcases stack with _ | ⟨w, more⟩ <;> rcases stack' with _ | ⟨w', more'⟩
    · exact .inr ⟨seen, seen', p.follow_nil fuel seen, p.follow_nil fuel' seen'⟩
    · exact hgiven w' more' rfl (contains_of_fertile_eq_nil h.stack)
    · exact hstray w more rfl (contains_of_fertile_eq_nil h.stack.symm)
    · rcases hw : barren.contains (p.key w) with _ | _
      · rcases hw' : barren.contains (p.key w') with _ | _
        · obtain rfl := h.eq_of_cons hw hw'
          obtain ⟨fuel, rfl⟩ := hfuel.exists_succ
          obtain ⟨fuel', rfl⟩ := hfuel'.exists_succ
          obtain ⟨hvisited', hskip, hstep⟩ := h.both hw
          rcases hvisited : seen.contains (p.key w') with _ | _
          · rw [hvisited] at hvisited'
            rcases hs : p.steps[w'.place]? with _ | s
            · exact .inl ⟨_, follow_end hvisited hs, follow_end hvisited' hs⟩
            · rw [follow_step hvisited hs, follow_step hvisited' hs]
              exact ih _ (by omega) (hfuel.step hp hvisited hs) (hfuel'.step hp hvisited' hs)
                (hstep _) rfl
          · rw [hvisited] at hvisited'
            rw [follow_skip hvisited, follow_skip hvisited']
            exact ih _ (by omega) hfuel.skip hfuel'.skip hskip rfl
        · exact hgiven w' more' rfl hw'
      · exact hstray w more rfl hw

/-! ### Searches -/

theorem sufficient_start (p : Program) {col : Nat} (hcol : col ≤ t.length)
    (seen : Std.HashSet Nat) :
    Sufficient p t col (p.enoughFor (t.drop col).length) seen
      [⟨0, col, (t.take col).getLast?, t.drop col, []⟩] := by
  constructor
  · intro w hw
    rw [List.mem_singleton.mp hw]
    exact ⟨⟨Nat.zero_le _, hcol, rfl, rfl⟩, Nat.le_refl _⟩
  · have hle := p.unseen_le t col seen
    rw [Nat.sub_add_comm hcol, ← List.length_drop] at hle
    rw [enoughFor, List.length_singleton, Nat.mul_assoc]
    omega

/-- Where a search goes on after a run has ended without a match. -/
theorem search_of_error {seen last : Std.HashSet Nat} {col : Nat}
    (h : p.follow (p.enoughFor (t.drop col).length) seen
      [⟨0, col, (t.take col).getLast?, t.drop col, []⟩] = .error last) :
    p.search seen (t.take col).getLast? col (t.drop col) =
      if col < t.length then p.search last (t.take (col + 1)).getLast? (col + 1) (t.drop (col + 1))
      else none := by
  rcases hrest : t.drop col with _ | ⟨c, rest⟩
  · rw [hrest] at h
    rw [search, h, if_neg (List.drop_eq_nil_iff.mp hrest).not_gt]
  · obtain ⟨hlt, hlast, hdrop⟩ := getLast?_take_succ hrest
    rw [hrest] at h
    rw [search, h, if_pos hlt, hlast, hdrop]

theorem search_of_ok {seen : Std.HashSet Nat} {col stop : Nat} {marks : List (Nat × Nat)}
    (h : p.follow (p.enoughFor (t.drop col).length) seen
      [⟨0, col, (t.take col).getLast?, t.drop col, []⟩] = .ok (stop, marks)) :
    p.search seen (t.take col).getLast? col (t.drop col) = some ⟨col, stop, marks⟩ := by
  rw [search.eq_def, h]

/-- What a search has seen before, and nothing comes of, makes no difference to what it finds. -/
theorem search_of_isBarren (hp : p.Stays) {barren : Std.HashSet Nat} (h : IsBarren p t barren)
    {col : Nat} (hcol : col ≤ t.length) :
    p.search barren (t.take col).getLast? col (t.drop col) =
      p.search ∅ (t.take col).getLast? col (t.drop col) := by
  induction hn : t.length + 1 - col generalizing barren col with
  | zero => omega
  | succ n ih =>
    have hfuel := p.sufficient_start hcol ∅
    have hfuel' := p.sufficient_start hcol barren
    rcases follow_pruned hp h hfuel hfuel' ⟨by simp, rfl⟩ with
      ⟨⟨stop, marks⟩, hfollow, hfollow'⟩ | ⟨last, last', hfollow, hfollow'⟩
    · rw [search_of_ok hfollow, search_of_ok hfollow']
    · have hlast := isBarren_of_follow hp hfuel ((isBarren_empty p t).explored _) hfollow
      have hlast' := isBarren_of_follow hp hfuel' (h.explored _) hfollow'
      rw [search_of_error hfollow, search_of_error hfollow']
      by_cases hlt : col < t.length
      · rw [if_pos hlt, if_pos hlt, ih hlast hlt (by omega), ih hlast' hlt (by omega)]
      · rw [if_neg hlt, if_neg hlt]

/-- A search that starts between where another one starts and the match that it finds finds the same
match. -/
theorem search_resume (hp : p.Stays) {col q : Nat} {f : Found} (hle : col ≤ q) (hq : q ≤ f.start)
    (hcol : f.start ≤ t.length)
    (h : p.search ∅ (t.take col).getLast? col (t.drop col) = some f) :
    p.search ∅ (t.take q).getLast? q (t.drop q) = some f := by
  induction hle using Nat.decreasingInduction with
  | self => exact h
  | of_succ col hlt ih =>
    apply ih
    have hbound : col ≤ t.length := by omega
    have hfuel := p.sufficient_start hbound ∅
    rcases hfollow : p.follow (p.enoughFor (t.drop col).length) ∅
      [⟨0, col, (t.take col).getLast?, t.drop col, []⟩] with last | ⟨stop, marks⟩
    · have hlast := isBarren_of_follow hp hfuel ((isBarren_empty p t).explored _) hfollow
      rw [search_of_error hfollow] at h
      split at h
      · rename_i hlt'
        rwa [search_of_isBarren hp hlast hlt'] at h
      · cases h
    · rw [search_of_ok hfollow] at h
      obtain rfl := Option.some.inj h
      simp only at hq
      omega

/-! ### Runs that can be evaluated -/

/-- The run that keeps what it has seen in a list. -/
def followListed (p : Program) :
    Nat → List Nat → List Way → Except (List Nat) (Nat × List (Nat × Nat))
  | 0, seen, _ => .error seen
  | _, seen, [] => .error seen
  | fuel + 1, seen, w :: more =>
    if seen.contains (p.key w) then p.followListed fuel seen more
    else
      match p.steps[w.place]? with
      | none => .ok (w.col, w.marks)
      | some step => p.followListed fuel (p.key w :: seen) (step.ways w ++ more)

/-- The search that keeps what it has seen in a list. -/
def searchListed (p : Program) (seen : List Nat) (before : Option Char) (col : Nat) (rest : Text) :
    Option Found :=
  match p.followListed (p.enoughFor rest.length) seen [⟨0, col, before, rest, []⟩] with
  | .ok (stop, marks) => some ⟨col, stop, marks⟩
  | .error seen =>
    match rest with
    | [] => none
    | c :: rest => p.searchListed seen (some c) (col + 1) rest

theorem follow_listed (p : Program) (fuel : Nat) {seen : Std.HashSet Nat} {listed : List Nat}
    (stack : List Way) (hseen : ∀ key, seen.contains key = listed.contains key) :
    (∃ r, p.follow fuel seen stack = .ok r ∧ p.followListed fuel listed stack = .ok r) ∨
      ∃ last last', p.follow fuel seen stack = .error last ∧
        p.followListed fuel listed stack = .error last' ∧
        ∀ key, last.contains key = last'.contains key := by
  induction fuel generalizing seen listed stack with
  | zero => exact .inr ⟨seen, listed, by rw [follow], by rw [followListed], hseen⟩
  | succ fuel ih =>
    cases stack with
    | nil =>
      have hlisted : p.followListed (fuel + 1) listed [] = .error listed := by
        rw [followListed]
        exact Nat.succ_ne_zero fuel
      exact .inr ⟨seen, listed, p.follow_nil _ seen, hlisted, hseen⟩
    | cons w more =>
      rw [followListed, ← hseen]
      rcases hvisited : seen.contains (p.key w) with _ | _
      · rcases hs : p.steps[w.place]? with _ | s
        · exact .inl ⟨_, follow_end hvisited hs, rfl⟩
        · rw [follow_step hvisited hs]
          refine ih _ ?_
          intro key
          rw [Std.HashSet.contains_insert, List.contains_cons, hseen, Bool.beq_comm]
      · rw [follow_skip hvisited]
        exact ih more hseen

/-- How a search keeps what it has seen makes no difference. -/
theorem search_listed {seen : Std.HashSet Nat} {listed : List Nat}
    (hseen : ∀ key, seen.contains key = listed.contains key) (before : Option Char) (col : Nat)
    (rest : Text) : p.search seen before col rest = p.searchListed listed before col rest := by
  induction rest generalizing seen listed before col with
  | nil =>
    rw [search, searchListed]
    rcases p.follow_listed (p.enoughFor 0) [⟨0, col, before, [], []⟩] hseen with
      ⟨r, hfollow, hfollow'⟩ | ⟨last, last', hfollow, hfollow', _⟩
    · simp only [List.length_nil, hfollow, hfollow']
    · simp only [List.length_nil, hfollow, hfollow']
  | cons c rest ih =>
    rw [search, searchListed]
    rcases p.follow_listed (p.enoughFor (c :: rest).length)
        [⟨0, col, before, c :: rest, []⟩] hseen with
      ⟨r, hfollow, hfollow'⟩ | ⟨last, last', hfollow, hfollow', hlast⟩
    · simp only [hfollow, hfollow']
    · simp only [hfollow, hfollow']
      exact ih hlast _ _

end Program

end SourceEditor.Pattern
