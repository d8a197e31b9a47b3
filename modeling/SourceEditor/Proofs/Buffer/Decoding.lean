/-
  SourceEditor/Proofs/Buffer/Decoding.lean
  ========================================
  **A buffer is made from the bytes that encode a text, and from no others.**  It is the buffer of
  that text, and there is only one such text; all other bytes are refused, and the error names the
  encoding.

  Bytes can be wrong in many ways.  `Malformed` lists the well-known ones: a byte too many, half of
  a pair of surrogates, a character spelled longer than it needs, the number of a surrogate or one
  beyond all characters, and a text that ends within a character.
-/
import SourceEditor.Buffer.Basic
import SourceEditor.Proofs.Text.Encoding

namespace SourceEditor

/-! ### Malformed bytes -/

namespace Encoding

/-- The bytes of a unit in an encoding. -/
def unitBytes : Encoding → Nat → List UInt8
  | .utf16be => highFirst
  | _ => lowFirst

/-- The bytes that are wrong in an encoding from some place on, where a text ends that has been
encoded well. -/
inductive Malformed : Encoding → List UInt8 → Prop
  /-- A byte is left over when all units have been put together. -/
  | odd {e : Encoding} {bytes : List UInt8} (wide : e ≠ .utf8) (length : bytes.length % 2 = 1) :
      Malformed e bytes
  /-- A high surrogate has no low one behind it, or a low one has no high one in front of it. -/
  | lone {e : Encoding} {units : List Nat} (wide : e ≠ .utf8) (front : Text)
      (bounded : ∀ u ∈ units, u < 0x10000) (lone : BeginsLone units) :
      Malformed e (e.encode front ++ units.flatMap e.unitBytes)
  /-- A number is spelled with more bytes than it needs. -/
  | overlong {k n : Nat} (front : Text) (fits : Fits k n) (short : n < least k)
      (rest : List UInt8) : Malformed .utf8 (encode .utf8 front ++ (spelled k n ++ rest))
  /-- The number of a surrogate is spelled, or one beyond the last character. -/
  | noCharacter {k n : Nat} (front : Text) (fits : Fits k n) (invalid : ¬n.isValidChar)
      (rest : List UInt8) : Malformed .utf8 (encode .utf8 front ++ (spelled k n ++ rest))
  /-- The bytes end within a character. -/
  | truncated {e : Encoding} {c : Char} {there missing : List UInt8} (front : Text)
      (char : there ++ missing = e.encode [c]) (begun : there ≠ []) (ended : missing ≠ []) :
      Malformed e (e.encode front ++ there)

theorem decodeUnits_of_lone {unit : UInt8 → UInt8 → Nat} {bytes : Nat → List UInt8}
    (h : IsOrder unit bytes) {us : List Nat} (bounded : ∀ u ∈ us, u < 0x10000)
    (lone : BeginsLone us) : (units? unit (us.flatMap bytes)).bind decodeUnits = none := by
  have hunits := h.units?_append bounded []
  rw [List.append_nil] at hunits
  rw [hunits, units?, Option.map_some, List.append_nil, Option.bind_some,
    decodeUnits_eq_none_of_beginsLone lone]

/-- No text is encoded by a part of a character. -/
theorem decode?_eq_none_of_truncated {e : Encoding} {c : Char} {there missing : List UInt8}
    (char : there ++ missing = e.encode [c]) (begun : there ≠ []) (ended : missing ≠ []) :
    e.decode? there = none := by
  by_contra hsome
  obtain ⟨t, ht⟩ := Option.ne_none_iff_exists'.mp hsome
  obtain rfl := decode?_eq_some_iff.mp ht
  -- The text would be decoded in front of what is missing, so it is the character or nothing.
  have hwhole := decode?_eq_some_iff.mpr char.symm
  rw [decode?_append] at hwhole
  obtain ⟨s, hs, happend⟩ := Option.map_eq_some_iff.mp hwhole
  obtain rfl := decode?_eq_some_iff.mp hs
  rcases t with _ | ⟨d, t⟩
  · exact begun (by cases e <;> rfl)
  · obtain rfl : s = [] := (List.append_eq_nil_iff.mp (List.cons.inj happend).2).2
    exact ended (by cases e <;> rfl)

/-- Malformed bytes are not decoded. -/
theorem Malformed.decode?_eq_none {e : Encoding} {bytes : List UInt8} (h : e.Malformed bytes) :
    e.decode? bytes = none := by
  cases h with
  | odd wide length =>
    cases e with
    | utf8 => exact absurd rfl wide
    | utf16le => rw [decode?, units?_eq_none_of_odd littleEndian length, Option.bind_none]
    | utf16be => rw [decode?, units?_eq_none_of_odd bigEndian length, Option.bind_none]
  | lone wide front bounded lone =>
    rw [decode?_append, Option.map_eq_none_iff]
    cases e with
    | utf8 => exact absurd rfl wide
    | utf16le => exact decodeUnits_of_lone isOrder_lowFirst bounded lone
    | utf16be => exact decodeUnits_of_lone isOrder_highFirst bounded lone
  | overlong front fits short rest =>
    rw [decode?_append, decode?, decodeUtf8_spelled fits, decodeBehind,
      charFrom?_eq_none_iff.mpr (.inl short)]
    rfl
  | noCharacter front fits invalid rest =>
    rw [decode?_append, decode?, decodeUtf8_spelled fits, decodeBehind,
      charFrom?_eq_none_iff.mpr (.inr invalid)]
    rfl
  | truncated front char begun ended =>
    rw [decode?_append, decode?_eq_none_of_truncated char begun ended, Option.map_none]

end Encoding

/-! ### Buffers -/

namespace Buffer

theorem ofBytes_eq_ok_iff {bytes : List UInt8} {e : Encoding} {profile : Profile} {b : Buffer} :
    ofBytes bytes e profile = .ok b ↔ ∃ t, e.encode t = bytes ∧ b = ofText t profile := by
  rw [ofBytes]
  split
  · rename_i hnone
    constructor
    · intro h
      cases h
    · rintro ⟨t, ht, -⟩
      rw [Encoding.decode?_eq_some_iff.mpr ht] at hnone
      cases hnone
  · rename_i t ht
    have htext := Encoding.decode?_eq_some_iff.mp ht
    constructor
    · intro h
      exact ⟨t, htext, (Except.ok.inj h).symm⟩
    · rintro ⟨s, hs, rfl⟩
      rw [e.encode_injective (htext.trans hs.symm)]

theorem ofBytes_eq_error_iff {bytes : List UInt8} {e : Encoding} {profile : Profile}
    {err : DecodingError} :
    ofBytes bytes e profile = .error err ↔ err = ⟨e⟩ ∧ ∀ t, e.encode t ≠ bytes := by
  have hnone : e.decode? bytes = none ↔ ∀ t, e.encode t ≠ bytes := by
    simp only [Option.eq_none_iff_forall_ne_some, ne_eq, Encoding.decode?_eq_some_iff]
  rw [ofBytes, ← hnone]
  split
  · rename_i h
    rw [h, Except.error.injEq]
    exact ⟨fun herr => ⟨herr.symm, rfl⟩, fun herr => herr.1.symm⟩
  · rename_i t ht
    rw [ht]
    simp

/-- **Decoding is exact.**  The bytes that a buffer is made from encode one text, the buffer is that
of the text, and whatever encodes a text is accepted, a byte order mark in front of it being one of
its characters.  All other bytes are refused with an error that names the encoding; malformed bytes
are among them. -/
theorem ofBytes_exact (e : Encoding) (profile : Profile) :
    Function.Injective e.encode ∧
    (∀ t, ofBytes (e.encode t) e profile = .ok (ofText t profile)) ∧
    (∀ bytes b, ofBytes bytes e profile = .ok b ↔
      ∃ t, e.encode t = bytes ∧ b = ofText t profile) ∧
    (∀ bytes err, ofBytes bytes e profile = .error err ↔
      err = ⟨e⟩ ∧ ∀ t, e.encode t ≠ bytes) ∧
    ∀ bytes, e.Malformed bytes → ofBytes bytes e profile = .error ⟨e⟩ := by
  refine ⟨e.encode_injective, ?_, ?_, ?_, ?_⟩
  · intro t
    exact ofBytes_eq_ok_iff.mpr ⟨t, rfl, rfl⟩
  · intro bytes b
    exact ofBytes_eq_ok_iff
  · intro bytes err
    exact ofBytes_eq_error_iff
  · intro bytes hbytes
    rw [ofBytes, hbytes.decode?_eq_none]

/-- A byte order mark is kept as a character, and half a pair of surrogates is refused. -/
theorem ofBytes_exact_of_mark :
    ofBytes [0xFF, 0xFE, 0x61, 0x00] .utf16le .plainText =
        .ok (ofText ['\uFEFF', 'a'] .plainText) ∧
      ofBytes [0x61, 0x00, 0x3D, 0xD8] .utf16le .plainText = .error ⟨.utf16le⟩ := by
  obtain ⟨-, haccepted, -, -, hmalformed⟩ := ofBytes_exact .utf16le .plainText
  have hlone : Encoding.BeginsLone [0xD83D] :=
    .inr ⟨by decide, by decide, fun v hv => absurd hv (by simp)⟩
  refine ⟨haccepted ['\uFEFF', 'a'], hmalformed _ ?_⟩
  exact .lone (by decide) ['a'] (by decide) hlone

end Buffer

end SourceEditor
