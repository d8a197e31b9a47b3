/-
  SourceEditor/Proofs/Text/Misread.lean
  =====================================
  **UTF-8 is not read as UTF-16.**  The bytes of a text in UTF-8 may well be those of some text in
  UTF-16, but never of the same one, unless there are none.

  The two rows of bytes of one text can begin alike: the character U+BFEB has the bytes EB BF AB in
  UTF-8 and EB BF in UTF-16, low byte first.  So it takes the whole rows to tell them apart.  Each
  character of ASCII brings a zero byte in UTF-16, which in UTF-8 only the character zero has; and
  without ASCII no character takes less in UTF-8.  So the rows can only be equal if each character
  takes the same in both, and then the first two bytes differ.
-/
import SourceEditor.Proofs.Text.Encoding

namespace SourceEditor.Encoding

/-! ### Zero bytes -/

theorem toNat_of_mem_continuations {k n : Nat} {b : UInt8} (h : b ∈ continuations k n) :
    0x80 ≤ b.toNat ∧ b.toNat < 0xC0 := by
  induction k with
  | zero => cases h
  | succ k ih =>
    rcases List.mem_cons.mp h with rfl | h
    · rw [toNat_continuation]
      omega
    · exact ih h

/-- The only zero byte in UTF-8 is that of the character zero. -/
theorem count_zero_spelled {k n : Nat} (h : Fits k n) :
    (spelled k n).count 0 = if k = 0 ∧ n = 0 then 1 else 0 := by
  have hcontinuations : (continuations k n).count 0 = 0 := by
    rw [List.count_eq_zero]
    intro hmem
    exact absurd (toNat_of_mem_continuations hmem).1 (by decide)
  have hfirst : UInt8.ofNat (firstByte k + n / 64 ^ k) = 0 ↔ k = 0 ∧ n = 0 := by
    rw [← UInt8.toNat_inj, h.toNat_ofNat]
    rcases k with _ | k
    · simp [firstByte]
    · have hpos : 0 < firstByte (k + 1) := by rcases k with _ | _ | k <;> simp [firstByte]
      simp only [Nat.succ_ne_zero, false_and, iff_false]
      change ¬(_ = 0)
      generalize n / 64 ^ (k + 1) = q
      omega
  rw [spelled, List.count_cons, hcontinuations, Nat.zero_add]
  simp only [beq_iff_eq, hfirst]

section Wide

variable {bytes : Nat → List UInt8}

/-- The units of a text as bytes, in UTF-16 with the given order of bytes. -/
def wide (bytes : Nat → List UInt8) (t : Text) : List UInt8 :=
  (t.flatMap encodeCharUnits).flatMap bytes

theorem wide_cons (bytes : Nat → List UInt8) (c : Char) (t : Text) :
    wide bytes (c :: t) = (encodeCharUnits c).flatMap bytes ++ wide bytes t := by
  rw [wide, List.flatMap_cons, List.flatMap_append]
  rfl

theorem ofNat_eq_zero_iff {n : Nat} (h : n < 256) : UInt8.ofNat n = 0 ↔ n = 0 := by
  rw [← UInt8.toNat_inj, UInt8.toNat_ofNat_of_lt' h]
  rfl

theorem count_zero_unit (hb : bytes = lowFirst ∨ bytes = highFirst) {u : Nat} (hu : u < 0x10000) :
    (bytes u).count 0 = (if u % 256 = 0 then 1 else 0) + if u / 256 = 0 then 1 else 0 := by
  have hlow := ofNat_eq_zero_iff (n := u % 256) (by omega)
  have hhigh := ofNat_eq_zero_iff (n := u / 256) (by omega)
  rcases hb with rfl | rfl
  · simp only [lowFirst, List.count_cons, List.count_nil, beq_iff_eq, hlow, hhigh]
    omega
  · simp only [highFirst, List.count_cons, List.count_nil, beq_iff_eq, hlow, hhigh]
    omega

theorem length_unit (hb : bytes = lowFirst ∨ bytes = highFirst) (u : Nat) :
    (bytes u).length = 2 := by
  rcases hb with rfl | rfl <;> rfl

/-- A character never weighs more in UTF-16 than in UTF-8, where each byte weighs one and each zero
byte takes two off; and it weighs less, unless it takes two or four bytes in UTF-8. -/
theorem weight_char (hb : bytes = lowFirst ∨ bytes = highFirst) {k : Nat} {c : Char}
    (h : Fits k c.toNat) (hleast : least k ≤ c.toNat) :
    ((encodeCharUnits c).flatMap bytes).length + 2 * (encodeCharUtf8 c).count 0 +
        (if k = 1 ∨ k = 3 then 0 else 1) ≤
      (encodeCharUtf8 c).length + 2 * ((encodeCharUnits c).flatMap bytes).count 0 := by
  have hmax := toNat_lt c
  rw [encodeCharUtf8_eq_spelled h hleast, count_zero_spelled h, length_spelled]
  obtain ⟨hk, hend⟩ := h
  by_cases hsmall : c.toNat < 0x10000
  · have hunits : (encodeCharUnits c).flatMap bytes = bytes c.toNat := by
      rw [encodeCharUnits, if_pos hsmall, List.flatMap_singleton]
    rw [hunits, length_unit hb, count_zero_unit hb hsmall]
    have hcases : k = 0 ∨ k = 1 ∨ k = 2 ∨ k = 3 := by omega
    rcases hcases with rfl | rfl | rfl | rfl
    all_goals simp only [firstByte, firstByteEnd, least] at hend hleast
    · have hhigh : c.toNat / 256 = 0 := by omega
      have hlow : c.toNat % 256 = c.toNat := by omega
      simp only [hhigh, hlow, true_and, if_true]
      split <;> simp
    · simp
    · simp
    · omega
  · have hunits : (encodeCharUnits c).flatMap bytes =
        bytes (0xD800 + (c.toNat - 0x10000) / 1024) ++
          bytes (0xDC00 + (c.toNat - 0x10000) % 1024) := by
      rw [encodeCharUnits, if_neg hsmall]
      simp
    rw [hunits, List.length_append, length_unit hb, length_unit hb]
    have hcases : k = 3 := by
      by_contra hne
      have hcases : k = 0 ∨ k = 1 ∨ k = 2 := by omega
      rcases hcases with rfl | rfl | rfl
      all_goals
        simp only [firstByte, firstByteEnd] at hend
        omega
    subst hcases
    simp

/-- A text never weighs more in UTF-16 than in UTF-8. -/
theorem weight_le (hb : bytes = lowFirst ∨ bytes = highFirst) (t : Text) :
    (wide bytes t).length + 2 * (encode .utf8 t).count 0 ≤
      (encode .utf8 t).length + 2 * (wide bytes t).count 0 := by
  induction t with
  | nil => simp [wide, encode]
  | cons c t ih =>
    obtain ⟨k, hfits, hleast⟩ := exists_fits c
    have hchar := weight_char hb hfits hleast
    rw [wide_cons]
    have hsplit : encode .utf8 (c :: t) = encodeCharUtf8 c ++ encode .utf8 t := rfl
    rw [hsplit]
    simp only [List.length_append, List.count_append]
    omega

/-- The first unit of a character that takes as many bytes in UTF-16 as in UTF-8. -/
theorem exists_firstUnit {k : Nat} {c : Char} (h : Fits k c.toNat) (hleast : least k ≤ c.toNat)
    (hk : k = 1 ∨ k = 3) :
    ∃ u rest, encodeCharUnits c = u :: rest ∧ u < 0x10000 ∧
      (k = 1 ∧ u / 256 < 8 ∨ k = 3 ∧ 0xD8 ≤ u / 256 ∧ u / 256 < 0xDC) := by
  have hmax := toNat_lt c
  obtain ⟨_, hend⟩ := h
  rcases hk with rfl | rfl
  all_goals simp only [firstByte, firstByteEnd, least] at hend hleast
  · refine ⟨c.toNat, [], if_pos (by omega), by omega, .inl ⟨rfl, by omega⟩⟩
  · refine ⟨_, _, if_neg (by omega), by omega, .inr ⟨rfl, by omega, by omega⟩⟩

/-- No row of bytes is a text both in UTF-8 and in UTF-16, but the empty one. -/
theorem encode_utf8_ne_wide (hb : bytes = lowFirst ∨ bytes = highFirst) (c : Char) (t : Text) :
    encode .utf8 (c :: t) ≠ wide bytes (c :: t) := by
  intro heq
  obtain ⟨k, hfits, hleast⟩ := exists_fits c
  have hchar := weight_char hb hfits hleast
  have hrest := weight_le hb t
  have hsplit : encode .utf8 (c :: t) = encodeCharUtf8 c ++ encode .utf8 t := rfl
  rw [hsplit, wide_cons] at heq
  have hlength := congrArg List.length heq
  have hcount := congrArg (List.count 0) heq
  simp only [List.length_append, List.count_append] at hlength hcount
  -- The rows weigh the same, so the first character weighs the same in both.
  have hk : k = 1 ∨ k = 3 := by
    by_contra hne
    rw [if_neg hne] at hchar
    omega
  obtain ⟨u, rest, hunits, hu, hhigh⟩ := exists_firstUnit hfits hleast hk
  obtain ⟨k, rfl⟩ : ∃ j, k = j + 1 := ⟨k - 1, by omega⟩
  rw [encodeCharUtf8_eq_spelled hfits hleast, hunits, spelled, continuations,
    List.flatMap_cons] at heq
  have hsecond := toNat_continuation (c.toNat / 64 ^ k)
  have hfirst := hfits.toNat_ofNat
  have hbyte : (UInt8.ofNat (u / 256)).toNat = u / 256 :=
    UInt8.toNat_ofNat_of_lt' (by change _ < 256; omega)
  -- The high byte of its first unit is no continuation byte, and begins no such spelling either.
  rcases hb with rfl | rfl
  · have hsame : continuation (c.toNat / 64 ^ k) = .ofNat (u / 256) :=
      (List.cons.inj (List.cons.inj heq).2).1
    rw [hsame, hbyte] at hsecond
    omega
  · have hsame := (List.cons.inj heq).1
    rw [hsame, hbyte] at hfirst
    generalize c.toNat / 64 ^ (k + 1) = q at hfirst
    rcases hk with hk | hk
    all_goals
      rw [hk] at hfirst
      simp only [firstByte] at hfirst
      omega

end Wide

/-- **UTF-8 is read as the text that it encodes in UTF-8 only**, if there is anything to read. -/
theorem decode?_encode_utf8_eq_some_iff {e : Encoding} {t : Text} :
    e.decode? (encode .utf8 t) = some t ↔ e = .utf8 ∨ t = [] := by
  rw [decode?_eq_some_iff]
  constructor
  · intro h
    rcases t with _ | ⟨c, t⟩
    · exact .inr rfl
    · cases e with
      | utf8 => exact .inl rfl
      | utf16le => exact absurd h.symm (encode_utf8_ne_wide (.inl rfl) c t)
      | utf16be => exact absurd h.symm (encode_utf8_ne_wide (.inr rfl) c t)
  · rintro (rfl | rfl)
    · rfl
    · cases e <;> rfl

end SourceEditor.Encoding
