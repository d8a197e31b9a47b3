/-
  SourceEditor/Proofs/Pattern/Steps.lean
  ======================================
  **Programs that stay inside.**  Steps say how far to go, on or back.  Each way of putting the
  steps of a part together leads from step to step, or to the end of them all, if the steps of the
  part do; so the program of an expression never goes on outside itself.
-/
import Mathlib.Data.List.Basic
import SourceEditor.Pattern.Run

namespace SourceEditor.Pattern

/-- The distances that a step may go. -/
def Step.distances : Step → List Int
  | .fork preferred other => [preferred, other]
  | .jump distance => [distance]
  | _ => [1]

/-! ### Steps one after the other -/

/-- Whether each step goes on inside a list of steps that has so many more in front of them and
behind them, or to its end. -/
def Step.Stay (front back : Nat) (steps : List Step) : Prop :=
  ∀ (i : Nat) (s : Step), steps[i]? = some s → ∀ d ∈ s.distances,
    0 ≤ front + i + d ∧ i + d ≤ steps.length + back

namespace Step

variable {front back : Nat} {s : Step} {steps first second : List Step} {greedy : Bool}

theorem stay_nil (front back : Nat) : Stay front back [] := by
  intro i s hs
  cases hs

theorem Stay.append (hfirst : Stay front (second.length + back) first)
    (hsecond : Stay (front + first.length) back second) : Stay front back (first ++ second) := by
  intro i s hs d hd
  rw [List.length_append]
  by_cases hi : i < first.length
  · rw [List.getElem?_append_left hi] at hs
    have := hfirst i s hs d hd
    omega
  · rw [List.getElem?_append_right (by omega)] at hs
    have := hsecond (i - first.length) s hs d hd
    omega

theorem stay_singleton_iff :
    Stay front back [s] ↔ ∀ d ∈ s.distances, 0 ≤ front + d ∧ d ≤ 1 + back := by
  constructor
  · intro h d hd
    have := h 0 s rfl d hd
    simp only [List.length_singleton] at this
    omega
  · intro h i s' hs d hd
    obtain ⟨hi, hs⟩ := List.getElem?_eq_some_iff.mp hs
    obtain rfl : i = 0 := by simpa using hi
    obtain rfl : s = s' := hs
    have := h d hd
    simp only [List.length_singleton]
    omega

theorem stay_one (h : s.distances = [1]) : Stay front back [s] := by
  rw [stay_singleton_iff, h]
  intro d hd
  rw [List.mem_singleton] at hd
  omega

theorem Stay.cons (hs : ∀ d ∈ s.distances, 0 ≤ front + d ∧ d ≤ 1 + (steps.length + back))
    (hsteps : Stay (front + 1) back steps) : Stay front back (s :: steps) := by
  have hs' : Stay front (steps.length + back) [s] := by
    rw [stay_singleton_iff]
    intro d hd
    have := hs d hd
    omega
  exact hs'.append hsteps

theorem Stay.mono (h : Stay front back steps) {front' back' : Nat} (hfront : front ≤ front')
    (hback : back ≤ back') : Stay front' back' steps := by
  intro i s hs d hd
  have := h i s hs d hd
  omega

theorem mem_distances_forkTo {on leave d : Int} :
    d ∈ (forkTo greedy on leave).distances ↔ d = on ∨ d = leave := by
  cases greedy <;> simp [forkTo, distances, or_comm]

/-! ### Repetitions and choices -/

theorem Stay.oneOrMore (h : Stay 0 0 steps) (greedy : Bool) :
    Stay 0 0 (oneOrMore steps greedy) := by
  refine (h.mono (Nat.le_refl 0) (Nat.zero_le _)).append (stay_singleton_iff.mpr ?_)
  intro d hd
  rcases mem_distances_forkTo.mp hd with rfl | rfl <;> omega

theorem Stay.optional (h : Stay 0 0 steps) (greedy : Bool) : Stay 0 0 (optional steps greedy) := by
  refine .cons ?_ (h.mono (Nat.zero_le _) (Nat.le_refl 0))
  intro d hd
  rcases mem_distances_forkTo.mp hd with rfl | rfl <;> omega

theorem Stay.loop (h : Stay 0 0 steps) (greedy : Bool) : Stay 0 0 (loop steps greedy) := by
  have hlast : Stay (0 + (forkTo greedy 1 (steps.length + 2) :: steps).length) 0
      [.jump (-(steps.length + 1))] := by
    rw [stay_singleton_iff]
    intro d hd
    rw [distances, List.mem_singleton] at hd
    subst hd
    simp only [List.length_cons]
    omega
  refine Stay.append (.cons ?_ (h.mono (Nat.zero_le _) (Nat.zero_le _))) hlast
  intro d hd
  simp only [List.length_singleton]
  rcases mem_distances_forkTo.mp hd with rfl | rfl <;> omega

theorem Stay.copies (h : Stay 0 0 steps) (n : Nat) : Stay 0 0 (copies steps n) := by
  induction n with
  | zero => exact stay_nil 0 0
  | succ n ih =>
    rw [Step.copies, List.replicate_succ, List.flatten_cons]
    exact (h.mono (Nat.le_refl 0) (Nat.zero_le _)).append (ih.mono (Nat.zero_le _) (Nat.le_refl 0))

theorem Stay.atMost (h : Stay 0 0 steps) (greedy : Bool) (n : Nat) :
    Stay 0 0 (atMost steps greedy n) := by
  -- the fork before each time leads behind the last time, so the times are put on from the back
  have hlast : ∀ k ≤ n, ((List.range' (n - k) k).flatMap fun i : Nat =>
        forkTo greedy 1 ((n - i) * (steps.length + 1) : Nat) :: steps).length =
          k * (steps.length + 1) ∧
      Stay 0 0 ((List.range' (n - k) k).flatMap fun i : Nat =>
        forkTo greedy 1 ((n - i) * (steps.length + 1) : Nat) :: steps) := by
    intro k hk
    induction k with
    | zero => exact ⟨by simp, stay_nil 0 0⟩
    | succ k ih =>
      obtain ⟨hlength, hstay⟩ := ih (by omega)
      rw [List.range'_succ, List.flatMap_cons, show n - (k + 1) + 1 = n - k by omega,
        show n - (n - (k + 1)) = k + 1 by omega]
      constructor
      · rw [List.length_append, hlength, List.length_cons, Nat.succ_mul]
        omega
      · refine Stay.append (.cons ?_ (h.mono (Nat.zero_le _) (Nat.zero_le _)))
          (hstay.mono (Nat.zero_le _) (Nat.le_refl 0))
        intro d hd
        rw [hlength]
        rw [Nat.succ_mul] at hd
        rcases mem_distances_forkTo.mp hd with rfl | rfl <;> omega
  have hall := (hlast n (Nat.le_refl n)).2
  rwa [Nat.sub_self, ← List.range_eq_range'] at hall

theorem Stay.repeated (h : Stay 0 0 steps) (takesCharacter : Bool) (least : Nat)
    (most : Option Nat) (greedy : Bool) :
    Stay 0 0 (repeated steps takesCharacter least most greedy) := by
  unfold Step.repeated
  split
  · split
    · exact h.loop greedy
    · exact (h.oneOrMore greedy).optional greedy
  · exact ((h.copies _).mono (Nat.le_refl 0) (Nat.zero_le _)).append
      ((h.oneOrMore greedy).mono (Nat.zero_le _) (Nat.le_refl 0))
  · exact ((h.copies _).mono (Nat.le_refl 0) (Nat.zero_le _)).append
      ((h.atMost greedy _).mono (Nat.zero_le _) (Nat.le_refl 0))

theorem Stay.either (hfirst : Stay 0 0 first) (hsecond : Stay 0 0 second) :
    Stay 0 0 (either first second) := by
  refine Stay.append (.cons ?_ (hfirst.mono (Nat.zero_le _) (Nat.zero_le _)))
    (.cons ?_ (hsecond.mono (Nat.zero_le _) (Nat.le_refl 0)))
  · intro d hd
    rw [distances, List.mem_cons, List.mem_singleton] at hd
    rw [List.length_cons]
    rcases hd with rfl | rfl <;> omega
  · intro d hd
    rw [distances, List.mem_singleton] at hd
    omega

end Step

/-! ### Expressions -/

/-- The steps of an expression lead from one to another, or to their end. -/
theorem Expr.stay_steps (e : Expr) : Step.Stay 0 0 e.steps := by
  induction e with
  | empty => exact Step.stay_nil 0 0
  | literal t =>
    rw [steps]
    induction t with
    | nil => exact Step.stay_nil 0 0
    | cons c t ih =>
      exact (Step.stay_one (s := .chars (.singleton c)) rfl).append
        (ih.mono (Nat.zero_le _) (Nat.le_refl 0))
  | chars set ascii => exact Step.stay_one rfl
  | assertion a => exact Step.stay_one rfl
  | group i body ih =>
    exact ((Step.stay_one (s := .mark (2 * i)) rfl).append
      (ih.mono (Nat.zero_le _) (Nat.zero_le _))).append (Step.stay_one rfl)
  | seq first second hfirst hsecond =>
    exact (hfirst.mono (Nat.le_refl 0) (Nat.zero_le _)).append
      (hsecond.mono (Nat.zero_le _) (Nat.le_refl 0))
  | alt first second hfirst hsecond => exact hfirst.either hsecond
  | times body least most greedy ih => exact ih.repeated _ least most greedy

/-- Whether the steps of a program lead from one to another, or to their end. -/
def Program.Stays (p : Program) : Prop := Step.Stay 0 0 p.steps.toList

/-- A pattern that is accepted has a program that never goes on outside itself. -/
theorem Program.stays_of_ofPattern {ignoreCase : Bool} {t : Text} {p : Program}
    (h : ofPattern ignoreCase t = .ok p) : p.Stays := by
  rw [ofPattern] at h
  split at h
  · cases h
  · split at h
    · obtain rfl := Except.ok.inj h
      exact Expr.stay_steps _
    · split at h
      · obtain rfl := Except.ok.inj h
        exact Expr.stay_steps _
      · cases h

end SourceEditor.Pattern
