/-
  SourceEditor/Proofs/Search/Bounds.lean
  ======================================
  **Matches stay inside.**  A match found on a line ends on that line, and does not go past the
  column up to which it is looked for, whatever the engine.
-/
import SourceEditor.Search.Matcher

namespace SourceEditor

open Pattern (Found)

namespace Matcher

theorem stop_le_of_findAt {m : Matcher} {t : Text} {col : Nat} {f : Found} (hcol : col ≤ t.length)
    (h : m.findAt t col = some f) : f.stop ≤ t.length := m.regex.stop_le hcol h

theorem stop_le_of_findWithin {m : Matcher} {t : Text} {limit col : Nat} {f : Found}
    (hlimit : limit ≤ t.length) (hcol : col ≤ limit) (h : m.findWithin t limit col = some f) :
    f.stop ≤ limit := by
  rw [findWithin] at h
  split at h
  · cases h
  · split at h
    · have hle := stop_le_of_findAt (by rw [List.length_take]; omega) h
      rw [List.length_take] at hle
      omega
    · rename_i hstop
      injection h with h
      subst h
      omega

/-- A match that counts takes some characters between the column and the limit. -/
theorem stop_le_of_nextMatch {m : Matcher} {t : Text} {limit col : Nat} {r : Nat × Nat}
    (hlimit : limit ≤ t.length) (h : m.nextMatch t limit col = some r) : r.2 ≤ limit := by
  fun_induction nextMatch m t limit col with
  | case1 => cases h
  | case2 col hcol f hf accepted =>
    injection h with h
    subst h
    exact stop_le_of_findWithin hlimit hcol hf
  | case3 col hcol f hf _ _ ih => exact ih h
  | case4 => cases h

end Matcher

end SourceEditor
