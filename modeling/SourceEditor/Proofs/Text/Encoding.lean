/-
  SourceEditor/Proofs/Text/Encoding.lean
  ======================================
  **What is decoded is what has been encoded.**  A character is encoded by bytes of its own, and
  whatever stands behind them is decoded as if it stood alone; and bytes that are decoded are the
  ones that the text is encoded by.  So each text has one encoding, and no other bytes are accepted.

  In UTF-8 a number is spelled by a first byte and continuation bytes, and might be spelled by more
  of them than it needs.  Decoding reads any spelling, and then refuses the long ones.  In UTF-16
  the two halves of a character beyond the first 65536 are units that stand for no character by
  themselves.
-/
import Mathlib.Tactic.Ring
import Mathlib.Tactic.SplitIfs
import SourceEditor.Text.Encoding

namespace SourceEditor.Encoding

/-! ### Characters and their numbers -/

theorem toNat_lt (c : Char) : c.toNat < 0x110000 := by
  rcases c.valid with h | h
  · exact Nat.lt_trans h (by decide)
  · exact h.2

theorem char?_eq_some_iff {n : Nat} {c : Char} : char? n = some c ↔ n = c.toNat := by
  unfold char?
  split
  · rename_i h
    rw [Option.some.injEq]
    constructor
    · rintro rfl
      rw [Char.ofNat, dif_pos h]
      rfl
    · rintro rfl
      exact Char.ofNat_toNat c
  · rename_i h
    constructor
    · intro hnone
      cases hnone
    · rintro rfl
      exact absurd c.valid h

theorem char?_toNat (c : Char) : char? c.toNat = some c := char?_eq_some_iff.mpr rfl

theorem char?_eq_none_iff {n : Nat} : char? n = none ↔ ¬n.isValidChar := by
  unfold char?
  split <;> simp_all

theorem charFrom?_eq_some_iff {least n : Nat} {c : Char} :
    charFrom? least n = some c ↔ least ≤ n ∧ n = c.toNat := by
  unfold charFrom?
  split
  · rename_i h
    rw [char?_eq_some_iff]
    exact ⟨fun hc => ⟨h, hc⟩, And.right⟩
  · rename_i h
    constructor
    · intro hnone
      cases hnone
    · intro ⟨hle, _⟩
      exact absurd hle h

theorem charFrom?_eq_none_iff {least n : Nat} :
    charFrom? least n = none ↔ n < least ∨ ¬n.isValidChar := by
  rw [charFrom?, ← char?_eq_none_iff]
  split
  · rename_i h
    have hlt : ¬n < least := by omega
    simp only [hlt, false_or]
  · rename_i h
    have hlt : n < least := by omega
    simp only [hlt, true_or]

/-! ### Spelling numbers in UTF-8 -/

/-- The `k` continuation bytes that hold the lowest bits of a number, six bits each. -/
def continuations : (k n : Nat) → List UInt8
  | 0, _ => []
  | k + 1, n => continuation (n / 64 ^ k) :: continuations k n

/-- The smallest first byte that `k` continuation bytes follow. -/
def firstByte : Nat → Nat
  | 0 => 0
  | 1 => 0xC0
  | 2 => 0xE0
  | _ => 0xF0

/-- The end of the first bytes that `k` continuation bytes follow. -/
def firstByteEnd : Nat → Nat
  | 0 => 0x80
  | 1 => 0xE0
  | 2 => 0xF0
  | _ => 0xF8

/-- The bytes that spell a number with `k` continuation bytes, whether or not it needs so many. -/
def spelled (k n : Nat) : List UInt8 := .ofNat (firstByte k + n / 64 ^ k) :: continuations k n

/-- Whether a number can be spelled with `k` continuation bytes. -/
def Fits (k n : Nat) : Prop := k ≤ 3 ∧ firstByte k + n / 64 ^ k < firstByteEnd k

/-- The least number that needs `k` continuation bytes. -/
def least : Nat → Nat
  | 0 => 0
  | 1 => 0x80
  | 2 => 0x800
  | _ => 0x10000

theorem length_spelled (k n : Nat) : (spelled k n).length = k + 1 := by
  have hcontinuations : ∀ k, (continuations k n).length = k := by
    intro k
    induction k with
    | zero => rfl
    | succ k ih => rw [continuations, List.length_cons, ih]
  rw [spelled, List.length_cons, hcontinuations]

theorem Fits.toNat_ofNat {k n : Nat} (h : Fits k n) :
    (UInt8.ofNat (firstByte k + n / 64 ^ k)).toNat = firstByte k + n / 64 ^ k := by
  have hend : firstByteEnd k ≤ 248 := by
    rw [firstByteEnd.eq_def]
    split <;> decide
  exact UInt8.toNat_ofNat_of_lt' (Nat.lt_of_lt_of_le h.2 (Nat.le_trans hend (by decide)))

/-- Every character has a spelling, and one that is not longer than it needs. -/
theorem exists_fits (c : Char) : ∃ k, Fits k c.toNat ∧ least k ≤ c.toNat := by
  have hmax := toNat_lt c
  by_cases h₀ : c.toNat < 0x80
  · exact ⟨0, ⟨by omega, by simp only [firstByte, firstByteEnd]; omega⟩, Nat.zero_le _⟩
  by_cases h₁ : c.toNat < 0x800
  · exact ⟨1, ⟨by omega, by simp only [firstByte, firstByteEnd]; omega⟩,
      by simp only [least]; omega⟩
  by_cases h₂ : c.toNat < 0x10000
  · exact ⟨2, ⟨by omega, by simp only [firstByte, firstByteEnd]; omega⟩,
      by simp only [least]; omega⟩
  · exact ⟨3, ⟨by omega, by simp only [firstByte, firstByteEnd]; omega⟩,
      by simp only [least]; omega⟩

/-- A character is encoded by the shortest spelling of its number. -/
theorem encodeCharUtf8_eq_spelled {k : Nat} {c : Char} (h : Fits k c.toNat)
    (hleast : least k ≤ c.toNat) : encodeCharUtf8 c = spelled k c.toNat := by
  obtain ⟨hk, hend⟩ := h
  have hcases : k = 0 ∨ k = 1 ∨ k = 2 ∨ k = 3 := by omega
  rw [encodeCharUtf8]
  rcases hcases with rfl | rfl | rfl | rfl
  all_goals simp only [firstByte, firstByteEnd, least] at hend hleast
  · rw [if_pos (by omega)]
    simp [spelled, firstByte, continuations]
  · rw [if_neg (by omega), if_pos (by omega)]
    simp [spelled, firstByte, continuations]
  · rw [if_neg (by omega), if_neg (by omega), if_pos (by omega)]
    simp [spelled, firstByte, continuations]
  · rw [if_neg (by omega), if_neg (by omega), if_neg (by omega)]
    simp [spelled, firstByte, continuations]

/-! ### Reading spellings -/

/-- Reads `k` continuation bytes behind the bits `high`. -/
def readContinuations (high : Nat) : Nat → List UInt8 → Option (Nat × List UInt8)
  | 0, bytes => some (high, bytes)
  | _ + 1, [] => none
  | k + 1, b :: rest => (continuation? b).bind fun x => readContinuations (high * 64 + x) k rest

/-- How many continuation bytes follow a first byte. -/
def continuationCount? (a : UInt8) : Option Nat :=
  if a < 0x80 then some 0
  else if a < 0xC0 then none
  else if a < 0xE0 then some 1
  else if a < 0xF0 then some 2
  else if a < 0xF8 then some 3
  else none

/-- What is decoded where a number has been read, spelled with `k` continuation bytes, and the
given bytes are left. -/
def decodeBehind (k n : Nat) (rest : List UInt8) : Option Text :=
  (charFrom? (least k) n).bind fun c => (decodeUtf8 rest).map (c :: ·)

theorem decodeUtf8_cons (a : UInt8) (bytes : List UInt8) :
    decodeUtf8 (a :: bytes) = (continuationCount? a).bind fun k =>
      (readContinuations (a.toNat - firstByte k) k bytes).bind fun p =>
        decodeBehind k p.1 p.2 := by
  rw [decodeUtf8.eq_def, continuationCount?]
  dsimp only
  split
  · rename_i ha
    have ha : a.toNat < 0x80 := ha
    have hchar : charFrom? (least 0) (a.toNat - firstByte 0) = some (Char.ofNat a.toNat) := by
      rw [charFrom?, least, firstByte, if_pos (Nat.zero_le _), char?, Nat.sub_zero,
        if_pos (.inl (by omega))]
    simp only [Option.bind_some, readContinuations, decodeBehind, hchar]
  split
  · rfl
  split
  · rcases bytes with _ | ⟨b, rest⟩
    · rfl
    · simp only [Option.bind_some, readContinuations, decodeBehind, Option.bind_assoc,
        Option.map_eq_bind]
      rfl
  split
  · rcases bytes with _ | ⟨b₁, _ | ⟨b₂, rest⟩⟩
    · rfl
    · simp [readContinuations]
    · simp only [Option.bind_some, readContinuations, decodeBehind, Option.bind_assoc,
        Option.map_eq_bind]
      rfl
  split
  · rcases bytes with _ | ⟨b₁, _ | ⟨b₂, _ | ⟨b₃, rest⟩⟩⟩
    · rfl
    · simp [readContinuations]
    · simp [readContinuations]
    · simp only [Option.bind_some, readContinuations, decodeBehind, Option.bind_assoc,
        Option.map_eq_bind]
      rfl
  · rfl

theorem toNat_continuation (n : Nat) : (continuation n).toNat = 0x80 + n % 64 := by
  rw [continuation, UInt8.toNat_ofNat']
  omega

theorem continuation?_continuation (n : Nat) : continuation? (continuation n) = some (n % 64) := by
  rw [continuation?, if_pos, toNat_continuation, Nat.add_sub_cancel_left]
  rw [UInt8.le_iff_toNat_le, UInt8.lt_iff_toNat_lt, toNat_continuation]
  simp only [UInt8.reduceToNat]
  omega

theorem continuation?_eq_some_iff {b : UInt8} {n : Nat} :
    continuation? b = some n ↔ n < 64 ∧ b = continuation n := by
  constructor
  · intro h
    rw [continuation?] at h
    split at h
    · rename_i hb
      simp only [UInt8.le_iff_toNat_le, UInt8.lt_iff_toNat_lt, UInt8.reduceToNat] at hb
      obtain rfl := Option.some.inj h
      refine ⟨by omega, ?_⟩
      rw [← UInt8.toNat_inj, continuation, UInt8.toNat_ofNat']
      omega
    · cases h
  · rintro ⟨hn, rfl⟩
    rw [continuation?_continuation, Nat.mod_eq_of_lt hn]

theorem continuation_congr {m n : Nat} (h : m % 64 = n % 64) : continuation m = continuation n := by
  rw [continuation, continuation, h]

theorem readContinuations_append (high k n : Nat) (rest : List UInt8) :
    readContinuations high k (continuations k n ++ rest) =
      some (high * 64 ^ k + n % 64 ^ k, rest) := by
  induction k generalizing high with
  | zero => simp [continuations, readContinuations, Nat.mod_one]
  | succ k ih =>
    rw [continuations, List.cons_append, readContinuations, continuation?_continuation,
      Option.bind_some, ih, Nat.mod_pow_succ, Nat.pow_succ]
    congr 2
    ring

theorem eq_append_of_readContinuations {high k n : Nat} {bytes rest : List UInt8}
    (h : readContinuations high k bytes = some (n, rest)) :
    n / 64 ^ k = high ∧ bytes = continuations k n ++ rest := by
  induction k generalizing high bytes with
  | zero =>
    obtain ⟨rfl, rfl⟩ := Prod.mk.inj (Option.some.inj h)
    exact ⟨Nat.div_one _, rfl⟩
  | succ k ih =>
    rcases bytes with _ | ⟨b, bytes⟩
    · cases h
    · obtain ⟨x, hx, hread⟩ := Option.bind_eq_some_iff.mp h
      obtain ⟨hlt, rfl⟩ := continuation?_eq_some_iff.mp hx
      obtain ⟨hhigh, rfl⟩ := ih hread
      constructor
      · rw [Nat.pow_succ, ← Nat.div_div_eq_div_mul, hhigh]
        omega
      · have hbits : x % 64 = n / 64 ^ k % 64 := by
          rw [hhigh]
          omega
        rw [continuations, continuation_congr hbits, List.cons_append]

theorem continuationCount?_eq_some_iff {a : UInt8} {k : Nat} :
    continuationCount? a = some k ↔
      k ≤ 3 ∧ firstByte k ≤ a.toNat ∧ a.toNat < firstByteEnd k := by
  have hsmall : k ≤ 3 ↔ k = 0 ∨ k = 1 ∨ k = 2 ∨ k = 3 := by omega
  rw [hsmall, continuationCount?]
  simp only [UInt8.lt_iff_toNat_lt, UInt8.reduceToNat]
  constructor
  · intro h
    split_ifs at h with h₀ h₁ h₂ h₃ h₄
    all_goals
      obtain rfl := Option.some.inj h
      simp only [firstByte, firstByteEnd, true_or, or_true, true_and]
      omega
  · rintro ⟨rfl | rfl | rfl | rfl, hle, hlt⟩
    all_goals simp only [firstByte, firstByteEnd] at hle hlt
    · rw [if_pos hlt]
    · rw [if_neg (by omega), if_neg (by omega), if_pos hlt]
    · rw [if_neg (by omega), if_neg (by omega), if_neg (by omega), if_pos hlt]
    · rw [if_neg (by omega), if_neg (by omega), if_neg (by omega), if_neg (by omega), if_pos hlt]

/-- A spelling is read as the number that it spells. -/
theorem decodeUtf8_spelled {k n : Nat} (h : Fits k n) (rest : List UInt8) :
    decodeUtf8 (spelled k n ++ rest) = decodeBehind k n rest := by
  have hcount : continuationCount? (.ofNat (firstByte k + n / 64 ^ k)) = some k := by
    rw [continuationCount?_eq_some_iff, h.toNat_ofNat]
    exact ⟨h.1, Nat.le_add_right _ _, h.2⟩
  rw [spelled, List.cons_append, decodeUtf8_cons, hcount, h.toNat_ofNat, Option.bind_some,
    Nat.add_sub_cancel_left, readContinuations_append, Option.bind_some, Nat.mul_comm,
    Nat.div_add_mod]

/-- Bytes that are decoded begin with a spelling. -/
theorem exists_spelled_of_decodeUtf8 {a : UInt8} {bytes : List UInt8} {t : Text}
    (h : decodeUtf8 (a :: bytes) = some t) :
    ∃ k n rest, Fits k n ∧ a :: bytes = spelled k n ++ rest ∧ decodeBehind k n rest = some t := by
  rw [decodeUtf8_cons] at h
  obtain ⟨k, hk, htail⟩ := Option.bind_eq_some_iff.mp h
  obtain ⟨⟨n, rest⟩, hread, hbehind⟩ := Option.bind_eq_some_iff.mp htail
  obtain ⟨hle, hfirst, hend⟩ := continuationCount?_eq_some_iff.mp hk
  obtain ⟨hhigh, rfl⟩ := eq_append_of_readContinuations hread
  have hsum : firstByte k + n / 64 ^ k = a.toNat := by omega
  refine ⟨k, n, rest, ⟨hle, hsum ▸ hend⟩, ?_, hbehind⟩
  rw [spelled, hsum, UInt8.ofNat_toNat, List.cons_append]

/-! ### Texts in UTF-8 -/

theorem decodeUtf8_append (s : Text) (bytes : List UInt8) :
    decodeUtf8 (s.flatMap encodeCharUtf8 ++ bytes) = (decodeUtf8 bytes).map (s ++ ·) := by
  induction s with
  | nil => simp
  | cons c s ih =>
    obtain ⟨k, hfits, hleast⟩ := exists_fits c
    have hchar := charFrom?_eq_some_iff.mpr ⟨hleast, rfl⟩
    rw [List.flatMap_cons, List.append_assoc, encodeCharUtf8_eq_spelled hfits hleast,
      decodeUtf8_spelled hfits, decodeBehind, hchar, Option.bind_some, ih, Option.map_map]
    rfl

theorem eq_encode_of_decodeUtf8 {bytes : List UInt8} {t : Text} (h : decodeUtf8 bytes = some t) :
    t.flatMap encodeCharUtf8 = bytes := by
  -- by the length of the row: what a spelling leaves is shorter
  induction hlength : bytes.length using Nat.strong_induction_on generalizing bytes t with
  | _ length ih =>
    rcases bytes with _ | ⟨a, bytes⟩
    · obtain rfl : [] = t := Option.some.inj h
      rfl
    · obtain ⟨k, n, rest, hfits, hbytes, hbehind⟩ := exists_spelled_of_decodeUtf8 h
      obtain ⟨c, hchar, hrest⟩ := Option.bind_eq_some_iff.mp hbehind
      obtain ⟨hleast, rfl⟩ := charFrom?_eq_some_iff.mp hchar
      obtain ⟨t', ht', rfl⟩ := Option.map_eq_some_iff.mp hrest
      have hshorter : rest.length < length := by
        rw [← hlength, hbytes, List.length_append, length_spelled]
        omega
      rw [List.flatMap_cons, encodeCharUtf8_eq_spelled hfits hleast, ih _ hshorter ht' rfl, hbytes]

/-! ### Units and their bytes -/

/-- Whether a way to put two bytes together to a unit and a way to take a unit apart belong
together. -/
structure IsOrder (unit : UInt8 → UInt8 → Nat) (bytes : Nat → List UInt8) : Prop where
  unit_lt : ∀ a b, unit a b < 0x10000
  bytes_unit : ∀ a b, bytes (unit a b) = [a, b]
  unit_bytes : ∀ u, u < 0x10000 → ∃ a b, bytes u = [a, b] ∧ unit a b = u

/-- The bytes of a unit with the low one first. -/
def lowFirst (u : Nat) : List UInt8 := [.ofNat (u % 256), .ofNat (u / 256)]

/-- The bytes of a unit with the high one first. -/
def highFirst (u : Nat) : List UInt8 := [.ofNat (u / 256), .ofNat (u % 256)]

theorem isOrder_lowFirst : IsOrder littleEndian lowFirst where
  unit_lt a b := by
    have ha := a.toNat_lt
    have hb := b.toNat_lt
    rw [littleEndian]
    omega
  bytes_unit a b := by
    have ha := a.toNat_lt
    have hlow : (a.toNat + 256 * b.toNat) % 256 = a.toNat := by omega
    have hhigh : (a.toNat + 256 * b.toNat) / 256 = b.toNat := by omega
    rw [littleEndian, lowFirst, hlow, hhigh, UInt8.ofNat_toNat, UInt8.ofNat_toNat]
  unit_bytes u hu := by
    refine ⟨_, _, rfl, ?_⟩
    rw [littleEndian, UInt8.toNat_ofNat', UInt8.toNat_ofNat']
    omega

theorem isOrder_highFirst : IsOrder bigEndian highFirst where
  unit_lt a b := by
    have ha := a.toNat_lt
    have hb := b.toNat_lt
    rw [bigEndian]
    omega
  bytes_unit a b := by
    have hb := b.toNat_lt
    have hlow : (256 * a.toNat + b.toNat) % 256 = b.toNat := by omega
    have hhigh : (256 * a.toNat + b.toNat) / 256 = a.toNat := by omega
    rw [bigEndian, highFirst, hlow, hhigh, UInt8.ofNat_toNat, UInt8.ofNat_toNat]
  unit_bytes u hu := by
    refine ⟨_, _, rfl, ?_⟩
    rw [bigEndian, UInt8.toNat_ofNat', UInt8.toNat_ofNat']
    omega

section Order

variable {unit : UInt8 → UInt8 → Nat} {bytes : Nat → List UInt8}

theorem IsOrder.units?_append (h : IsOrder unit bytes) {us : List Nat}
    (hus : ∀ u ∈ us, u < 0x10000) (rest : List UInt8) :
    units? unit (us.flatMap bytes ++ rest) = (units? unit rest).map (us ++ ·) := by
  induction us with
  | nil => simp
  | cons u us ih =>
    obtain ⟨a, b, hbytes, hunit⟩ := h.unit_bytes u (hus u List.mem_cons_self)
    rw [List.flatMap_cons, hbytes, List.append_assoc, List.cons_append, List.cons_append,
      List.nil_append, units?, ih fun v hv => hus v (List.mem_cons_of_mem u hv), hunit,
      Option.map_map]
    rfl

theorem IsOrder.eq_flatMap_of_units? (h : IsOrder unit bytes) {row : List UInt8} {us : List Nat}
    (hrow : units? unit row = some us) : us.flatMap bytes = row ∧ ∀ u ∈ us, u < 0x10000 := by
  fun_induction units? unit row generalizing us with
  | case1 =>
    obtain rfl := Option.some.inj hrow
    exact ⟨rfl, fun u hu => absurd hu List.not_mem_nil⟩
  | case2 => cases hrow
  | case3 a b rest ih =>
    obtain ⟨vs, hvs, rfl⟩ := Option.map_eq_some_iff.mp hrow
    obtain ⟨hrest, hlt⟩ := ih hvs
    constructor
    · rw [List.flatMap_cons, h.bytes_unit, hrest]
      rfl
    · intro u hu
      rcases List.mem_cons.mp hu with rfl | hu
      · exact h.unit_lt a b
      · exact hlt u hu

end Order

theorem units?_eq_none_of_odd (unit : UInt8 → UInt8 → Nat) {row : List UInt8}
    (h : row.length % 2 = 1) : units? unit row = none := by
  fun_induction units? unit row with
  | case1 => cases h
  | case2 => rfl
  | case3 a b rest ih =>
    rw [ih (by simp only [List.length_cons] at h; omega)]
    rfl

/-! ### Texts in units -/

theorem encodeCharUnits_lt {c : Char} {u : Nat} (h : u ∈ encodeCharUnits c) : u < 0x10000 := by
  have hmax := toNat_lt c
  rw [encodeCharUnits] at h
  split at h
  · rename_i hsmall
    rwa [List.mem_singleton.mp h]
  · have hhalf : u = 0xD800 + (c.toNat - 0x10000) / 1024 ∨
        u = 0xDC00 + (c.toNat - 0x10000) % 1024 := by simpa using h
    omega

theorem decodeUnits_append (s : Text) (us : List Nat) :
    decodeUnits (s.flatMap encodeCharUnits ++ us) = (decodeUnits us).map (s ++ ·) := by
  induction s with
  | nil => simp
  | cons c s ih =>
    have hchar : decodeUnits (encodeCharUnits c ++ (s.flatMap encodeCharUnits ++ us)) =
        (decodeUnits (s.flatMap encodeCharUnits ++ us)).map (c :: ·) := by
      have hmax := toNat_lt c
      have hvalid : c.toNat < 0xD800 ∨ 0xDFFF < c.toNat := c.valid.imp id And.left
      rw [encodeCharUnits]
      split
      · rw [List.singleton_append, decodeUnits.eq_def]
        dsimp only
        rw [if_neg (by omega), char?_toNat, Option.map_eq_bind]
        rfl
      · have hsum : 0x10000 + (0xD800 + (c.toNat - 0x10000) / 1024 - 0xD800) * 1024 +
            (0xDC00 + (c.toNat - 0x10000) % 1024 - 0xDC00) = c.toNat := by omega
        rw [List.cons_append, List.singleton_append, decodeUnits.eq_def]
        dsimp only
        rw [if_pos (by omega), if_pos (by omega), hsum, char?_toNat, Option.map_eq_bind]
        rfl
    rw [List.flatMap_cons, List.append_assoc, hchar, ih, Option.map_map]
    rfl

theorem eq_encode_of_decodeUnits {us : List Nat} {t : Text} (hlt : ∀ u ∈ us, u < 0x10000)
    (h : decodeUnits us = some t) : t.flatMap encodeCharUnits = us := by
  fun_induction decodeUnits us generalizing t with
  | case1 =>
    obtain rfl := Option.some.inj h
    rfl
  | case2 u hu v rest hv ih =>
    obtain ⟨c, hc, htail⟩ := Option.bind_eq_some_iff.mp h
    obtain ⟨t', ht', hsame⟩ := Option.bind_eq_some_iff.mp htail
    obtain rfl := Option.some.inj hsame
    have hnumber := char?_eq_some_iff.mp hc
    have hlarge : ¬c.toNat < 0x10000 := by omega
    have hfirst : 0xD800 + (c.toNat - 0x10000) / 1024 = u := by omega
    have hsecond : 0xDC00 + (c.toNat - 0x10000) % 1024 = v := by omega
    rw [List.flatMap_cons, encodeCharUnits, if_neg hlarge, hfirst, hsecond, ih ?_ ht']
    · rfl
    · intro w hw
      exact hlt w (List.mem_cons_of_mem u (List.mem_cons_of_mem v hw))
  | case3 u hu v rest hv => cases h
  | case4 u hu => cases h
  | case5 u rest hu ih =>
    obtain ⟨c, hc, htail⟩ := Option.bind_eq_some_iff.mp h
    obtain ⟨t', ht', hsame⟩ := Option.bind_eq_some_iff.mp htail
    obtain rfl := Option.some.inj hsame
    obtain rfl := char?_eq_some_iff.mp hc
    rw [List.flatMap_cons, encodeCharUnits, if_pos (hlt _ List.mem_cons_self), ih ?_ ht']
    · rfl
    · intro w hw
      exact hlt w (List.mem_cons_of_mem _ hw)

/-- Whether units begin with one half of a character that the other half does not follow. -/
def BeginsLone : List Nat → Prop
  | [] => False
  | u :: rest => (0xDC00 ≤ u ∧ u < 0xE000) ∨
    (0xD800 ≤ u ∧ u < 0xDC00 ∧ ∀ v ∈ rest.head?, ¬(0xDC00 ≤ v ∧ v < 0xE000))

theorem decodeUnits_eq_none_of_beginsLone {us : List Nat} (h : BeginsLone us) :
    decodeUnits us = none := by
  rcases us with _ | ⟨u, rest⟩
  · exact h.elim
  · rw [decodeUnits.eq_def]
    dsimp only
    rcases h with ⟨hle, hlt⟩ | ⟨hle, hlt, hnext⟩
    · have hchar : char? u = none := by
        rw [char?_eq_none_iff, Nat.isValidChar]
        omega
      rw [if_neg (by omega), hchar]
      rfl
    · rw [if_pos ⟨hle, hlt⟩]
      rcases rest with _ | ⟨v, rest⟩
      · rfl
      · dsimp only
        rw [if_neg (hnext v rfl)]

/-! ### All encodings -/

theorem IsOrder.decode_append {unit : UInt8 → UInt8 → Nat} {bytes : Nat → List UInt8}
    (h : IsOrder unit bytes) (s : Text) (rest : List UInt8) :
    (units? unit ((s.flatMap encodeCharUnits).flatMap bytes ++ rest)).bind decodeUnits =
      ((units? unit rest).bind decodeUnits).map (s ++ ·) := by
  have hlt : ∀ u ∈ s.flatMap encodeCharUnits, u < 0x10000 := by
    intro u hu
    obtain ⟨c, _, hc⟩ := List.mem_flatMap.mp hu
    exact encodeCharUnits_lt hc
  rw [h.units?_append hlt, Option.bind_map, Option.map_bind]
  congr 1
  funext us
  exact decodeUnits_append s us

theorem IsOrder.eq_encode_of_decode {unit : UInt8 → UInt8 → Nat} {bytes : Nat → List UInt8}
    (h : IsOrder unit bytes) {row : List UInt8} {t : Text}
    (hrow : (units? unit row).bind decodeUnits = some t) :
    (t.flatMap encodeCharUnits).flatMap bytes = row := by
  obtain ⟨us, hus, ht⟩ := Option.bind_eq_some_iff.mp hrow
  obtain ⟨hbytes, hlt⟩ := h.eq_flatMap_of_units? hus
  rw [eq_encode_of_decodeUnits hlt ht, hbytes]

/-- What stands behind an encoded text is decoded as if it stood alone. -/
theorem decode?_append (e : Encoding) (s : Text) (bytes : List UInt8) :
    e.decode? (e.encode s ++ bytes) = (e.decode? bytes).map (s ++ ·) := by
  cases e with
  | utf8 => exact decodeUtf8_append s bytes
  | utf16le => exact isOrder_lowFirst.decode_append s bytes
  | utf16be => exact isOrder_highFirst.decode_append s bytes

/-- **What is decoded is what has been encoded**, and nothing else. -/
theorem decode?_eq_some_iff {e : Encoding} {bytes : List UInt8} {t : Text} :
    e.decode? bytes = some t ↔ e.encode t = bytes := by
  constructor
  · intro h
    cases e with
    | utf8 => exact eq_encode_of_decodeUtf8 h
    | utf16le => exact isOrder_lowFirst.eq_encode_of_decode h
    | utf16be => exact isOrder_highFirst.eq_encode_of_decode h
  · rintro rfl
    have hnil : e.decode? [] = some [] := by cases e <;> rfl
    have happend := e.decode?_append t []
    rwa [List.append_nil, hnil, Option.map_some, List.append_nil] at happend

theorem encode_injective (e : Encoding) : Function.Injective e.encode := by
  intro s t h
  have hs := decode?_eq_some_iff.mpr h
  have ht := (decode?_eq_some_iff (e := e)).mpr (rfl : e.encode t = e.encode t)
  exact Option.some.inj (hs.symm.trans ht)

end SourceEditor.Encoding
