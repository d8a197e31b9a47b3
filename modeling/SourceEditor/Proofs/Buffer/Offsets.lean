/-
  SourceEditor/Proofs/Buffer/Offsets.lean
  =======================================
  **Points are offsets.**  The points that a buffer accepts stand for the places of its text, one
  for each and in the same order.  What lies between two points is what lies between the places,
  and typing it at the first point leads to the second.

  That is so because each side can be told from the other.  The offset of a point counts the
  characters in front of it, and typing those from the start of the text leads to the point.
-/
import Mathlib.Algebra.GroupWithZero.Nat
import Mathlib.Data.Set.Function
import Mathlib.Order.Interval.Set.Defs
import SourceEditor.Proofs.Listing.Buffers

namespace SourceEditor

namespace Buffer

variable {b : Buffer}

/-! ### Offsets of points -/

theorem offset_eq_sum (b : Buffer) (p : Point) :
    b.offset p = ((b.lines.take (p.line - 1)).map fun l => l.length + 1).sum + p.col := by
  have hsum : ∀ ls : List Line, (ls.map Line.text).foldr (fun t n => t.length + 1 + n) p.col =
      (ls.map fun l => l.length + 1).sum + p.col := by
    intro ls
    induction ls with
    | nil => simp
    | cons l ls ih =>
      rw [List.map_cons, List.foldr_cons, ih, List.map_cons, List.sum_cons]
      exact (Nat.add_assoc _ _ _).symm
  rw [offset, texts, ← List.map_take, hsum]

theorem offset_le_length {p : Point} (hp : b.HasPoint p) : b.offset p ≤ b.text.length := by
  rw [← length_textBefore hp, text_eq_append hp, List.length_append]
  exact Nat.le_add_right _ _

/-- What a range holds, typed at its start, leads to its end. -/
theorem IsClean.advance_slice (hb : b.IsClean) {r : Range} (hr : b.checkRange r = .ok ()) :
    r.start.advance (b.slice r) = r.stop := by
  obtain ⟨hstart, hstop, _⟩ := checkRange_eq_ok_iff.mp hr
  calc r.start.advance (b.slice r)
      = (Point.behind (b.textBefore r.start)).advance (b.slice r) := by
        rw [behind_textBefore hb hstart]
    _ = Point.behind (b.textBefore r.stop) := by
        rw [← Point.behind_append, ← textBefore_stop hr]
    _ = r.stop := behind_textBefore hb hstop

theorem IsClean.offset_lt_offset (hb : b.IsClean) {p q : Point} (hp : b.HasPoint p)
    (hq : b.HasPoint q) (hlt : p < q) : b.offset p < b.offset q := by
  have hr : b.checkRange ⟨p, q⟩ = .ok () :=
    checkRange_eq_ok_iff.mpr ⟨hp, hq, Point.le_of_lt hlt⟩
  have hlength := congrArg List.length (textBefore_stop hr)
  rw [List.length_append, length_textBefore hq, length_textBefore hp] at hlength
  have hne : b.slice ⟨p, q⟩ ≠ [] := by
    intro hnil
    have hsame : p = q := by
      have hadvance := hb.advance_slice hr
      rwa [hnil] at hadvance
    rw [hsame, Point.lt_iff] at hlt
    omega
  have hpos := List.length_pos_iff.mpr hne
  omega

theorem IsClean.offset_lt_offset_iff (hb : b.IsClean) {p q : Point} (hp : b.HasPoint p)
    (hq : b.HasPoint q) : p < q ↔ b.offset p < b.offset q := by
  refine ⟨hb.offset_lt_offset hp hq, fun hlt => ?_⟩
  rcases Point.lt_trichotomy p q with h | rfl | h
  · exact h
  · exact absurd hlt (Nat.lt_irrefl _)
  · exact absurd (hb.offset_lt_offset hq hp h) (Nat.lt_asymm hlt)

/-- Every place of the text is the offset of a point. -/
theorem IsClean.exists_offset_eq (hb : b.IsClean) {n : Nat} (hn : n ≤ b.text.length) :
    ∃ p, b.HasPoint p ∧ b.offset p = n := by
  obtain ⟨hpoint, hbefore, _⟩ :=
    hasPoint_behind hb (List.take_append_drop n b.text).symm
  refine ⟨_, hpoint, ?_⟩
  rw [← length_textBefore hpoint, hbefore, List.length_take, Nat.min_eq_left hn]

theorem IsClean.bijOn_offset (hb : b.IsClean) :
    Set.BijOn b.offset {p | b.HasPoint p} (Set.Iic b.text.length) := by
  refine ⟨fun p hp => offset_le_length hp, ?_, ?_⟩
  · intro p hp q hq hsame
    rcases Point.lt_trichotomy p q with h | h | h
    · exact absurd hsame (Nat.ne_of_lt (hb.offset_lt_offset hp hq h))
    · exact h
    · exact absurd hsame (Nat.ne_of_gt (hb.offset_lt_offset hq hp h))
  · intro n hn
    exact hb.exists_offset_eq hn

/-- **Points are offsets.**  The points accepted are the places of the text, in their order; the
text between two of them is the slice between the places, and leads from one to the other; and two
texts typed one after the other lead where both in one do. -/
theorem Obtained.points_are_offsets (obtained : b.Obtained) :
    let offset (p : Point) := ((b.lines.take (p.line - 1)).map fun l => l.length + 1).sum + p.col
    Set.BijOn offset {p | b.checkPoint p = .ok ()} (Set.Iic b.text.length) ∧
      (∀ p q, b.checkPoint p = .ok () → b.checkPoint q = .ok () →
        (p < q ↔ offset p < offset q)) ∧
      (∀ p q, b.checkPoint p = .ok () → b.checkPoint q = .ok () → p ≤ q →
        ∃ t, b.getText ⟨p, q⟩ = .ok t ∧
          t = (b.text.drop (offset p)).take (offset q - offset p) ∧ p.advance t = q) ∧
      ∀ (p : Point) (s t : Text), p.advance (s ++ t) = (p.advance s).advance t := by
  have hb := obtained.isClean
  intro offset
  have hoffset : offset = b.offset := funext fun p => (b.offset_eq_sum p).symm
  simp only [hoffset, checkPoint_eq_ok_iff]
  refine ⟨hb.bijOn_offset, fun p q hp hq => hb.offset_lt_offset_iff hp hq, ?_, ?_⟩
  · intro p q hp hq hle
    have hr : b.checkRange ⟨p, q⟩ = .ok () := checkRange_eq_ok_iff.mpr ⟨hp, hq, hle⟩
    exact ⟨b.slice ⟨p, q⟩, by rw [getText, hr], slice_eq_take_drop hr, hb.advance_slice hr⟩
  · exact Point.advance_append

/-- What lies between points around an empty line holds two line feeds, and the place between them
is that of a point. -/
theorem points_are_offsets_of_empty_line :
    let b := Buffer.ofText ['a', 'b', '\n', '\n', 'c'] .plainText
    b.Obtained ∧ b.checkPoint ⟨1, 1⟩ = .ok () ∧ b.checkPoint ⟨3, 1⟩ = .ok () ∧
      b.getText ⟨⟨1, 1⟩, ⟨3, 1⟩⟩ = .ok ['b', '\n', '\n', 'c'] ∧
      Point.advance ⟨1, 1⟩ ['b', '\n', '\n', 'c'] = ⟨3, 1⟩ ∧
      ∃ p, b.checkPoint p = .ok () ∧
        ((b.lines.take (p.line - 1)).map fun l => l.length + 1).sum + p.col = 3 := by
  intro b
  have obtained : b.Obtained := .ofReachable (.ofText _ _)
  have hstart : b.checkPoint ⟨1, 1⟩ = .ok () := by decide +kernel
  have hstop : b.checkPoint ⟨3, 1⟩ = .ok () := by decide +kernel
  obtain ⟨hplaces, -, hslices, -⟩ := obtained.points_are_offsets
  obtain ⟨t, hget, ht, hadvance⟩ := hslices ⟨1, 1⟩ ⟨3, 1⟩ hstart hstop (by decide)
  obtain rfl : t = ['b', '\n', '\n', 'c'] := ht.trans (by decide +kernel)
  have hplace : 3 ∈ Set.Iic b.text.length := by
    change 3 ≤ b.text.length
    decide +kernel
  exact ⟨obtained, hstart, hstop, hget, hadvance, hplaces.surjOn hplace⟩

end Buffer

end SourceEditor
