/-
  SourceEditor/Proofs/Text/Character.lean
  =======================================
  How the classes of characters stand to each other.
-/
import SourceEditor.Text.Character

namespace SourceEditor

theorem eq_of_isBlank {c : Char} (h : isBlank c = true) : c = ' ' ∨ c = '\t' := by
  simpa [isBlank] using h

theorem isWhitespace_of_isBlank {c : Char} (h : isBlank c = true) : isWhitespace c = true := by
  rcases eq_of_isBlank h with rfl | rfl <;> decide

theorem isBlank_of_isWhitespace_eq_false {c : Char} (h : isWhitespace c = false) :
    isBlank c = false := by
  rw [← Bool.not_eq_true]
  intro hblank
  rw [isWhitespace_of_isBlank hblank] at h
  cases h

theorem isLineBreak_of_isBlank {c : Char} (h : isBlank c = true) : isLineBreak c = false := by
  rcases eq_of_isBlank h with rfl | rfl <;> decide

end SourceEditor
