/-
  SourceEditor/Proofs/Indent/Stack.lean
  =====================================
  **The search for an open bracket, read forward.**  The search goes backward from a point and
  counts the closers that wait for their openers.  Read forward, the same brackets make a stack: an
  opener is put on it, a closer takes the top off, and a closer that finds it empty is passed over.
  With as many closers waiting as there are openers on top of one, the search comes to that one;
  with none waiting it comes to the top.

  A character that ends searches does so where no closer waits, which is where the opener that the
  search would come to is the innermost one: everywhere but inside a pair.
-/
import Mathlib.Data.List.Induction
import Mathlib.Data.List.Nodup
import SourceEditor.Proofs.Indent.Code

namespace SourceEditor

namespace Brackets

/-- Whether no character is of two kinds. -/
structure IsDisjoint (br : Brackets) : Prop where
  opens_closes : ∀ c ∈ br.opens, c ∉ br.closes
  opens_stops : ∀ c ∈ br.opens, c ∉ br.stops
  closes_stops : ∀ c ∈ br.closes, c ∉ br.stops

/-! ### The stack -/

section Stack

variable {α : Type} {br : Brackets} {cs front behind : List (α × Char)} {openers : List α}
  {x : α × Char} {a : α} {depth : Nat}

/-- The stack after one more character. -/
def push (br : Brackets) (openers : List α) (x : α × Char) : List α :=
  if x.2 ∈ br.opens then x.1 :: openers
  else if x.2 ∈ br.closes then openers.tail
  else openers

/-- The places of the openers that are open behind some characters, the innermost first. -/
def stack (br : Brackets) (cs : List (α × Char)) : List α := cs.foldl br.push []

theorem stack_append (br : Brackets) (cs behind : List (α × Char)) :
    br.stack (cs ++ behind) = behind.foldl br.push (br.stack cs) := List.foldl_append

theorem stack_concat (br : Brackets) (cs : List (α × Char)) (x : α × Char) :
    br.stack (cs ++ [x]) = br.push (br.stack cs) x := br.stack_append cs [x]

theorem push_opener (hx : x.2 ∈ br.opens) : br.push openers x = x.1 :: openers := if_pos hx

theorem push_closer (hbr : br.IsDisjoint) (hx : x.2 ∈ br.closes) :
    br.push openers x = openers.tail := by
  rw [push, if_neg fun hopens => hbr.opens_closes _ hopens hx, if_pos hx]

theorem push_other (hopens : x.2 ∉ br.opens) (hcloses : x.2 ∉ br.closes) :
    br.push openers x = openers := by
  rw [push, if_neg hopens, if_neg hcloses]

/-- The openers on the stack are some of the characters, in their order. -/
theorem stack_sublist (br : Brackets) (cs : List (α × Char)) :
    (br.stack cs).Sublist (cs.map Prod.fst).reverse := by
  induction cs using List.reverseRecOn with
  | nil => exact .slnil
  | append_singleton cs x ih =>
    rw [stack_concat, List.map_append, List.reverse_append, push]
    split
    · exact ih.cons_cons x.1
    split
    · exact ((List.tail_sublist _).trans ih).cons x.1
    · exact ih.cons x.1

theorem mem_of_mem_stack (h : a ∈ br.stack cs) : a ∈ cs.map Prod.fst :=
  List.mem_reverse.mp ((br.stack_sublist cs).subset h)

/-- What is on the stack was there before, or has been put on it. -/
theorem mem_foldl_push (h : a ∈ behind.foldl br.push openers) :
    a ∈ openers ∨ a ∈ behind.map Prod.fst := by
  induction behind generalizing openers with
  | nil => exact .inl h
  | cons x behind ih =>
    rcases ih h with hmem | hmem
    · rw [push] at hmem
      split at hmem
      · rcases List.mem_cons.mp hmem with rfl | hmem
        · exact .inr List.mem_cons_self
        · exact .inl hmem
      split at hmem
      · exact .inl (List.mem_of_mem_tail hmem)
      · exact .inl hmem
    · exact .inr (List.mem_cons_of_mem _ hmem)

/-- An opener stays on the stack with all that is under it, or a closer takes it off. -/
theorem foldl_push_cases (hbr : br.IsDisjoint) (inner : List α) (q : α) (outer : List α)
    (behind : List (α × Char)) :
    (∃ inner', behind.foldl br.push (inner ++ q :: outer) = inner' ++ q :: outer) ∨
      ∃ mid p c later, behind = mid ++ (p, c) :: later ∧ c ∈ br.closes ∧
        mid.foldl br.push (inner ++ q :: outer) = q :: outer := by
  induction behind generalizing inner with
  | nil => exact .inl ⟨inner, rfl⟩
  | cons x behind ih =>
    -- one character makes the part above the opener longer or shorter, unless it takes the opener
    have hgo : ∀ inner', br.push (inner ++ q :: outer) x = inner' ++ q :: outer →
        (∃ inner', (x :: behind).foldl br.push (inner ++ q :: outer) = inner' ++ q :: outer) ∨
          ∃ mid p c later, x :: behind = mid ++ (p, c) :: later ∧ c ∈ br.closes ∧
            mid.foldl br.push (inner ++ q :: outer) = q :: outer := by
      intro inner' hpush
      rw [List.foldl_cons, hpush]
      rcases ih inner' with hstays | ⟨mid, p, c, later, rfl, hc, hmid⟩
      · exact .inl hstays
      · refine .inr ⟨x :: mid, p, c, later, rfl, hc, ?_⟩
        rw [List.foldl_cons, hpush, hmid]
    by_cases hopens : x.2 ∈ br.opens
    · exact hgo (x.1 :: inner) (push_opener hopens)
    by_cases hcloses : x.2 ∈ br.closes
    · cases inner with
      | nil => exact .inr ⟨[], x.1, x.2, behind, rfl, hcloses, rfl⟩
      | cons top inner => exact hgo inner (push_closer hbr hcloses)
    · exact hgo inner (push_other hopens hcloses)

/-! ### The search -/

/-- Whether at no character that ends searches the opener at a place is the innermost one. -/
def Spares (br : Brackets) (cs : List (α × Char)) (a : α) : Prop :=
  ∀ front x behind, cs = front ++ x :: behind → x.2 ∈ br.stops → (br.stack front).head? ≠ some a

theorem spares_concat_iff :
    br.Spares (cs ++ [x]) a ↔
      br.Spares cs a ∧ (x.2 ∈ br.stops → (br.stack cs).head? ≠ some a) := by
  constructor
  · intro h
    refine ⟨?_, h cs x [] rfl⟩
    rintro front y behind rfl
    exact h front y (behind ++ [x]) (by simp)
  · rintro ⟨hcs, hx⟩ front y behind heq
    rcases List.eq_nil_or_concat' behind with rfl | ⟨behind, z, rfl⟩
    · obtain ⟨rfl, hy⟩ := List.append_inj' heq rfl
      obtain rfl := List.singleton_inj.mp hy
      exact hx
    · rw [← List.cons_append, ← List.append_assoc] at heq
      exact hcs front y behind (List.append_inj' heq rfl).1

theorem spares_concat_of_not_mem (hx : x.2 ∉ br.stops) :
    br.Spares (cs ++ [x]) a ↔ br.Spares cs a := by
  rw [spares_concat_iff]
  exact and_iff_left fun hmem => absurd hmem hx

theorem spares_of_stops_eq_nil (hstops : br.stops = []) (cs : List (α × Char)) (a : α) :
    br.Spares cs a := by
  intro front x behind _ hx
  rw [hstops] at hx
  cases hx

/-- A place that is none of the characters' is spared. -/
theorem spares_of_not_mem (ha : a ∉ cs.map Prod.fst) : br.Spares cs a := by
  rintro front x behind rfl _ hhead
  apply ha
  rw [List.map_append]
  exact List.mem_append_left _ (mem_of_mem_stack (List.mem_of_head? hhead))

/-- An opener below the top of the stack is not the top. -/
theorem head?_stack_ne_of_getElem? (hcs : (cs.map Prod.fst).Nodup)
    (h : (br.stack cs)[depth + 1]? = some a) : (br.stack cs).head? ≠ some a := by
  have hnodup := (List.nodup_reverse.mpr hcs).sublist (br.stack_sublist cs)
  rcases hstack : br.stack cs with _ | ⟨top, below⟩
  · exact (Option.some_ne_none a).symm
  · rw [hstack, List.getElem?_cons_succ] at h
    rw [hstack, List.nodup_cons] at hnodup
    rintro ⟨rfl⟩
    exact hnodup.1 (List.mem_of_getElem? h)

/-- With some closers waiting, the search comes to the opener with as many others above it on the
stack, unless this opener is the innermost one at a character that ends searches. -/
theorem find_reverse_eq_some_iff (hbr : br.IsDisjoint) (hcs : (cs.map Prod.fst).Nodup) :
    br.find depth cs.reverse = some a ↔ (br.stack cs)[depth]? = some a ∧ br.Spares cs a := by
  induction cs using List.reverseRecOn generalizing depth with
  | nil => simp [find, stack]
  | append_singleton cs x ih =>
    obtain ⟨b, c⟩ := x
    rw [List.map_append, List.nodup_append'] at hcs
    obtain ⟨hcs, -, hb⟩ := hcs
    rw [List.reverse_concat, stack_concat]
    simp only [find, List.contains_iff_mem]
    by_cases hcloses : c ∈ br.closes
    · have hstops := hbr.closes_stops c hcloses
      rw [if_pos hcloses, ih hcs, push_closer hbr hcloses, List.getElem?_tail,
        spares_concat_of_not_mem hstops]
    rw [if_neg hcloses]
    by_cases hopens : c ∈ br.opens
    · have hstops := hbr.opens_stops c hopens
      rw [if_pos hopens, push_opener hopens, spares_concat_of_not_mem hstops]
      cases depth with
      | zero =>
        have hspares : br.Spares cs b :=
          spares_of_not_mem fun hmem => hb hmem (List.mem_singleton_self b)
        simp only [List.getElem?_cons_zero, Option.some.injEq]
        constructor
        · rintro rfl
          exact ⟨rfl, hspares⟩
        · rintro ⟨rfl, -⟩
          rfl
      | succ d => rw [ih hcs, List.getElem?_cons_succ]
    rw [if_neg hopens, push_other hopens hcloses, spares_concat_iff]
    by_cases hstops : c ∈ br.stops
    · cases depth with
      | zero =>
        rw [if_pos (by simpa using hstops)]
        refine iff_of_false (Option.some_ne_none a).symm ?_
        rintro ⟨hget, -, hhead⟩
        exact hhead hstops (List.head?_eq_getElem?.trans hget)
      | succ d =>
        have hbelow : (br.stack cs)[d + 1]? = some a → (br.stack cs).head? ≠ some a :=
          head?_stack_ne_of_getElem? hcs
        rw [if_neg (by simp), ih hcs]
        tauto
    · simp [hstops, ih hcs]

/-- Where nothing ends searches, the search comes to the opener with as many others above it on the
stack as closers are waiting. -/
theorem find_reverse_eq (hbr : br.IsDisjoint) (hstops : br.stops = [])
    (hcs : (cs.map Prod.fst).Nodup) : br.find depth cs.reverse = (br.stack cs)[depth]? := by
  apply Option.ext
  intro a
  rw [find_reverse_eq_some_iff hbr hcs]
  exact and_iff_left (spares_of_stops_eq_nil hstops cs a)

/-- Whether the closer at `p` takes the opener at `q` off the stack. -/
def IsPair (br : Brackets) (cs : List (α × Char)) (q p : α) : Prop :=
  ∃ front c behind, cs = front ++ (p, c) :: behind ∧ c ∈ br.closes ∧
    (br.stack front).head? = some q

end Stack

/-! ### Pairs -/

section Pairs

variable {br : Brackets} {cs front behind : List (Point × Char)} {x : Point × Char} {a q p : Point}

theorem nodup_of_isAscending (hcs : IsAscending cs) : (cs.map Prod.fst).Nodup := by
  rw [List.nodup_iff_pairwise_ne, List.pairwise_map]
  apply hcs.imp
  rintro x y hlt heq
  rw [heq] at hlt
  exact Point.lt_irrefl _ hlt

/-- On the stack the openers stand in the order of their points, the last one on top. -/
theorem pairwise_stack (br : Brackets) (hcs : IsAscending cs) :
    (br.stack cs).Pairwise fun p q => q < p := by
  apply List.Pairwise.sublist (br.stack_sublist cs)
  rw [List.pairwise_reverse, List.pairwise_map]
  exact hcs

theorem lt_of_mem_stack (hcs : IsAscending (front ++ x :: behind)) (ha : a ∈ br.stack front) :
    a < x.1 := by
  obtain ⟨y, hy, rfl⟩ := List.mem_map.mp (mem_of_mem_stack ha)
  exact (List.pairwise_append.mp hcs).2.2 y hy x List.mem_cons_self

theorem le_of_mem_places (hcs : IsAscending (front ++ x :: behind))
    (ha : a ∈ (x :: behind).map Prod.fst) : x.1 ≤ a := by
  obtain ⟨y, hy, rfl⟩ := List.mem_map.mp ha
  rcases List.mem_cons.mp hy with rfl | hy
  · exact Point.le_refl _
  · exact Point.le_of_lt ((List.pairwise_cons.mp (List.pairwise_append.mp hcs).2.1).1 y hy)

/-- An opener in front of a character which is open behind some more characters is open in front of
the character. -/
theorem mem_stack_of_lt (hcs : IsAscending (front ++ x :: behind))
    (ha : a ∈ br.stack (front ++ x :: behind)) (hlt : a < x.1) : a ∈ br.stack front := by
  rw [stack_append] at ha
  rcases mem_foldl_push ha with hmem | hmem
  · exact hmem
  · exact absurd (le_of_mem_places hcs hmem) (Point.not_le.mpr hlt)

/-- Where an opener that stays open is not the innermost one, the innermost one is closed later on,
and the two make a pair around the place. -/
theorem exists_isPair (hbr : br.IsDisjoint) (hcs : IsAscending (front ++ x :: behind))
    (htop : (br.stack (front ++ x :: behind)).head? = some a) (hlt : a < x.1)
    (hx : x.2 ∈ br.stops) (hhead : (br.stack front).head? ≠ some a) :
    ∃ q p, br.IsPair (front ++ x :: behind) q p ∧ a < q ∧ q < x.1 ∧ x.1 < p := by
  have hmem := mem_stack_of_lt hcs (List.mem_of_head? htop) hlt
  rcases hstack : br.stack front with _ | ⟨q, outer⟩
  · rw [hstack] at hmem
    cases hmem
  rw [hstack] at hmem hhead
  have houter : a ∈ outer := by
    rcases List.mem_cons.mp hmem with rfl | hmem
    · exact absurd rfl hhead
    · exact hmem
  have horder := br.pairwise_stack (List.pairwise_append.mp hcs).1
  rw [hstack, List.pairwise_cons] at horder
  have hq : q ∈ br.stack front := by
    rw [hstack]
    exact List.mem_cons_self
  rcases foldl_push_cases hbr [] q outer (x :: behind) with
    ⟨inner, hstays⟩ | ⟨mid, p, c, later, heq, hc, hmid⟩
  · -- if the innermost opener stayed open, the other one could not be on top at the end
    have hfinal := br.pairwise_stack hcs
    rw [List.nil_append] at hstays
    rw [stack_append, hstack, hstays] at htop hfinal
    cases inner with
    | nil => exact absurd htop hhead
    | cons top inner =>
      obtain rfl := Option.some.inj htop
      have hself := (List.pairwise_cons.mp hfinal).1 top
        (List.mem_append_right _ (List.mem_cons_of_mem q houter))
      exact absurd hself (Point.lt_irrefl top)
  · refine ⟨q, p, ⟨front ++ mid, c, later, by rw [heq, List.append_assoc], hc, ?_⟩,
      horder.1 a houter, lt_of_mem_stack hcs hq, ?_⟩
    · rw [stack_append, hstack]
      exact congrArg List.head? hmid
    · -- the closer is not the character itself, which ends searches
      cases mid with
      | nil =>
        obtain ⟨rfl, -⟩ := List.cons.inj heq
        exact absurd hx (hbr.closes_stops c hc)
      | cons y mid =>
        obtain ⟨-, rfl⟩ := List.cons.inj heq
        exact (List.pairwise_cons.mp (List.pairwise_append.mp hcs).2.1).1 (p, c)
          (List.mem_append_right _ List.mem_cons_self)

/-- In front of the later of two characters stand the earlier one and what comes before it. -/
theorem exists_eq_append_of_lt {front' behind' : List (Point × Char)} {y : Point × Char}
    (hcs : IsAscending (front ++ x :: behind))
    (heq : front ++ x :: behind = front' ++ y :: behind') (hlt : x.1 < y.1) :
    ∃ mid, front' = front ++ x :: mid := by
  rcases List.append_eq_append_iff.mp heq with ⟨mid, rfl, hmid⟩ | ⟨mid, rfl, hmid⟩
  · rcases List.cons_eq_append_iff.mp hmid with ⟨rfl, hnil⟩ | ⟨mid, rfl, -⟩
    · obtain ⟨rfl, -⟩ := List.cons.inj hnil
      exact absurd hlt (Point.lt_irrefl _)
    · exact ⟨mid, rfl⟩
  · exfalso
    rcases List.cons_eq_append_iff.mp hmid with ⟨rfl, hnil⟩ | ⟨mid, rfl, -⟩
    · obtain ⟨rfl, -⟩ := List.cons.inj hnil
      exact Point.lt_irrefl _ hlt
    · have hyx : y.1 < x.1 := (List.pairwise_append.mp hcs).2.2 y
        (List.mem_append_right _ List.mem_cons_self) x List.mem_cons_self
      exact Point.lt_asymm hlt hyx

/-- Inside a pair behind an opener, the opener is not the innermost one. -/
theorem head?_stack_ne_of_isPair (hcs : IsAscending (front ++ x :: behind))
    (hpair : br.IsPair (front ++ x :: behind) q p) (haq : a < q) (hqx : q < x.1) (hxp : x.1 < p) :
    (br.stack front).head? ≠ some a := by
  intro hhead
  obtain ⟨front', c, behind', heq, -, hq⟩ := hpair
  obtain ⟨mid, rfl⟩ := exists_eq_append_of_lt hcs heq hxp
  have hcs' : IsAscending (front ++ x :: mid) := by
    rw [heq] at hcs
    exact (List.pairwise_append.mp hcs).1
  have hmem : q ∈ br.stack front := mem_stack_of_lt hcs' (List.mem_of_head? hq) hqx
  have horder := br.pairwise_stack (List.pairwise_append.mp hcs).1
  rcases hstack : br.stack front with _ | ⟨top, outer⟩
  · rw [hstack] at hhead
    cases hhead
  rw [hstack] at hhead hmem horder
  obtain rfl := Option.some.inj hhead
  rcases List.mem_cons.mp hmem with rfl | hmem
  · exact Point.lt_irrefl _ haq
  · exact Point.lt_asymm haq ((List.pairwise_cons.mp horder).1 q hmem)

/-- The innermost opener is spared if every character behind it that ends searches stands inside a
pair behind it. -/
theorem spares_iff (hbr : br.IsDisjoint) (hcs : IsAscending cs)
    (htop : (br.stack cs).head? = some a) :
    br.Spares cs a ↔ ∀ x ∈ cs, a < x.1 → x.2 ∈ br.stops →
      ∃ q p, br.IsPair cs q p ∧ a < q ∧ q < x.1 ∧ x.1 < p := by
  constructor
  · intro h x hx hlt hstops
    obtain ⟨front, behind, rfl⟩ := List.append_of_mem hx
    exact exists_isPair hbr hcs htop hlt hstops (h front x behind rfl hstops)
  · rintro h front x behind rfl hstops hhead
    have hlt := lt_of_mem_stack hcs (List.mem_of_head? hhead)
    obtain ⟨q, p, hpair, haq, hqx, hxp⟩ :=
      h x (List.mem_append_right _ List.mem_cons_self) hlt hstops
    exact head?_stack_ne_of_isPair hcs hpair haq hqx hxp hhead

end Pairs

end Brackets

/-! ### In a buffer -/

namespace Buffer

/-- **The backward search is a forward stack.**  Of the code characters in front of a point of a
line, in the order of the text, the openers are put on a stack and the closers take them off.  If
nothing ends the search, it comes to the top of the stack, and to nothing if the stack is empty.
Otherwise it comes to the top exactly if every character behind it that would end the search stands
inside a pair whose opener is behind it too. -/
theorem unmatchedOpen_eq_top (b : Buffer) {p : Point} (line : (b.line? p.line).isSome = true)
    {br : Brackets} (disjoint : br.IsDisjoint) :
    let code := b.codeBefore p
    (br.stops = [] → b.unmatchedOpen br p = (br.stack code).head?) ∧
      ∀ top, b.unmatchedOpen br p = some top ↔
        (br.stack code).head? = some top ∧ ∀ x ∈ code, top < x.1 → x.2 ∈ br.stops →
          ∃ opener closer, br.IsPair code opener closer ∧
            top < opener ∧ opener < x.1 ∧ x.1 < closer := by
  intro code
  obtain ⟨l, hl⟩ := Option.isSome_iff_exists.mp line
  have hcode : IsAscending code := (b.isAscending_codeTo b.lineCount).charsBefore p
  have hnodup := Brackets.nodup_of_isAscending hcode
  rw [unmatchedOpen_eq_find hl]
  constructor
  · intro hstops
    rw [Brackets.find_reverse_eq disjoint hstops hnodup, List.head?_eq_getElem?]
  · intro top
    rw [Brackets.find_reverse_eq_some_iff disjoint hnodup, ← List.head?_eq_getElem?]
    exact and_congr_right fun htop => Brackets.spares_iff disjoint hcode htop

/-- The braces in a list stand inside a pair of the list, so that the search passes over them. -/
theorem unmatchedOpen_eq_top_of_call :
    let b := Buffer.ofText "0(1(\x7b2\x7d),".toList (.ofLanguage .cpp)
    let code := b.codeBefore ⟨1, 9⟩
    (b.line? 1).isSome = true ∧ Brackets.parensInBlock.IsDisjoint ∧
      b.unmatchedOpen .parensInBlock ⟨1, 9⟩ = some ⟨1, 1⟩ ∧
      (Brackets.parensInBlock.stack code).head? = some ⟨1, 1⟩ ∧
      ∃ opener closer, Brackets.parensInBlock.IsPair code opener closer ∧
        ⟨1, 1⟩ < opener ∧ opener < ⟨1, 4⟩ ∧ ⟨1, 4⟩ < closer := by
  intro b code
  have hline : (b.line? 1).isSome = true := by decide +kernel
  have hdisjoint : Brackets.parensInBlock.IsDisjoint := by
    constructor <;> simp [Brackets.parensInBlock]
  have hopen : b.unmatchedOpen .parensInBlock ⟨1, 9⟩ = some ⟨1, 1⟩ := by decide +kernel
  obtain ⟨htop, hinside⟩ :=
    ((b.unmatchedOpen_eq_top (p := ⟨1, 9⟩) hline hdisjoint).2 ⟨1, 1⟩).mp hopen
  exact ⟨hline, hdisjoint, hopen, htop,
    hinside (⟨1, 4⟩, '\x7b') (by decide +kernel) (by decide) (by decide)⟩

end Buffer

end SourceEditor
