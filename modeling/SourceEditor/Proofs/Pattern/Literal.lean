/-
  SourceEditor/Proofs/Pattern/Literal.lean
  ========================================
  **What a literal is charged for.**  With case taken into account the expression of a text is the
  text itself, and its automata have a state for each of its bytes besides a few more.  So there is
  a greatest length of a text that is accepted as a pattern.
-/
import SourceEditor.Pattern.Run

namespace SourceEditor.Pattern

namespace Making

theorem isSome_run_states {d : Direction} {count extra : Nat} {m : Memory} :
    ((states count extra).run d m).isSome = true ↔ (m.add count extra).bytes ≤ Memory.limit := by
  rw [run, Memory.checked]
  by_cases h : (m.add count extra).bytes ≤ Memory.limit <;> simp [h]

/-- What is made after some states must fit in besides them. -/
theorem isSome_run_andThen {d : Direction} {count extra : Nat} {second : Making} {m : Memory} :
    (((states count extra).andThen second).run d m).isSome = true ↔
      (m.add count extra).bytes ≤ Memory.limit ∧
        (second.run d (m.add count extra)).isSome = true := by
  rw [run, run, Memory.checked]
  by_cases h : (m.add count extra).bytes ≤ Memory.limit <;> simp [h]

end Making

namespace Expr

theorem joinLiterals_map_literal (c : Char) (t : Text) :
    joinLiterals ((c :: t).map fun c => .literal [c]) = [.literal (c :: t)] := by
  induction t generalizing c with
  | nil => rfl
  | cons d t ih =>
    rw [List.map_cons, joinLiterals, ih d]
    rfl

theorem ofText_of_case {t : Text} (h : t ≠ []) : ofText false t = .literal t := by
  have hset : ∀ c : Char, ofSet (Flags.folded { ignoreCase := false } (.singleton c)) false =
      .literal [c] := fun c => by
    simp [ofSet, Flags.folded, CharSet.singleton, CharSet.range]
  obtain ⟨c, t, rfl⟩ := List.exists_cons_of_ne_nil h
  have hparts : ((c :: t).map fun c => Expr.literal [c]).flatMap parts =
      (c :: t).map fun c => .literal [c] := by
    rw [List.flatMap_map, List.map_eq_flatMap]
    rfl
  rw [ofText]
  simp only [hset]
  rw [sequence, hparts, joinLiterals_map_literal]
  rfl

/-- The number of bytes of the longest text that is accepted as a pattern with case taken into
account. -/
def longestLiteral : Nat := 327673

theorem fits_literal_iff (t : Text) :
    (literal t).fits = true ↔ (textBytes t).length ≤ longestLiteral := by
  have hforward : (((literal t).automaton .forward).run .forward {}).isSome = true ↔
      (textBytes t).length ≤ longestLiteral := by
    simp only [automaton, beginsWith, making, Bool.false_eq_true, if_false,
      Making.isSome_run_andThen, Making.isSome_run_states, Memory.add, Memory.bytes, Memory.limit,
      longestLiteral]
    omega
  have hbackward : (((literal t).automaton .backward).run .backward {}).isSome = true ↔
      (textBytes t).length ≤ longestLiteral + 2 := by
    simp only [automaton, endsWith, making, Bool.false_eq_true, if_false,
      Making.isSome_run_andThen, Making.isSome_run_states, Memory.add, Memory.bytes, Memory.limit,
      longestLiteral]
    omega
  rw [fits, Bool.and_eq_true, hforward, hbackward]
  omega

theorem length_le_length_textBytes (t : Text) : t.length ≤ (textBytes t).length := by
  induction t with
  | nil => exact Nat.le_refl 0
  | cons c t ih =>
    have hbytes : 0 < (codeBytes c.toNat).length := by
      rw [codeBytes, List.length_map, Encoding.encodeCharUtf8]
      split
      · exact Nat.succ_pos _
      split
      · exact Nat.succ_pos _
      split <;> exact Nat.succ_pos _
    rw [textBytes, List.flatMap_cons, List.length_append, List.length_cons, ← textBytes]
    omega

end Expr

end SourceEditor.Pattern
