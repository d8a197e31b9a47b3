/-
  SourceEditor/Pattern/ByteRanges.lean
  ====================================
  **Characters as sequences of bytes.**  The characters between two code points are told by the
  bytes that encode them in UTF-8: they are split into blocks, so that the codes of each block are
  all the rows of bytes within one row of byte ranges.
-/
import SourceEditor.CharSet
import SourceEditor.Text.Encoding

namespace SourceEditor.Pattern

/-- The bytes from the first to the second. -/
abbrev ByteRange := Nat × Nat

/-- The UTF-8 bytes of a code point. -/
def codeBytes (n : Nat) : List Nat := (Encoding.encodeCharUtf8 (.ofNat n)).map UInt8.toNat

/-- The UTF-8 bytes of a text. -/
def textBytes (t : Text) : List Nat := t.flatMap fun c => codeBytes c.toNat

/-! ### Splitting -/

/-- The range from `low` to `high`, cut after each of the ascending limits that lies within it. -/
def cutAfter (low high : Nat) : List Nat → List (Nat × Nat)
  | [] => [(low, high)]
  | limit :: limits =>
    if low ≤ limit ∧ limit < high then (low, limit) :: cutAfter (limit + 1) high limits
    else cutAfter low high limits

/-- The greatest code points that one, two and three bytes encode. -/
def lengthLimits : List Nat := [0x7F, 0x7FF, 0xFFFF]

/-- The range from `low` to `high`, whose codes have equally many bytes, split where it does not
fill the blocks that share the leading bytes: blocks of `size` code points first, and then of the
greater sizes.  What does not fill the first block of a size and what does not fill the last one
stand by themselves. -/
def splitBlocks (low high : Nat) : List Nat → List (Nat × Nat)
  | [] => [(low, high)]
  | size :: sizes =>
    if low / size = high / size then [(low, high)]
    else
      let start := if low % size = 0 then low else (low / size + 1) * size
      let front := if low % size = 0 then [] else [(low, start - 1)]
      if start / size = high / size then front ++ [(start, high)]
      else
        let stop := if high % size = size - 1 then high else high / size * size - 1
        let back := if high % size = size - 1 then [] else [(stop + 1, high)]
        front ++ splitBlocks start stop sizes ++ back

/-- The sizes of the blocks whose codes differ in the last byte, in the last two, and in the last
three. -/
def blockSizes : List Nat := [0x40, 0x1000, 0x40000]

/-- The blocks of a range of code points.  Its two sides around the surrogates are apart. -/
def blocks (low high : Nat) : List (Nat × Nat) :=
  let sides :=
    if low < 0xE000 ∧ 0xD7FF < high then [(low, 0xD7FF), (0xE000, high)] else [(low, high)]
  sides.flatMap fun (low, high) =>
    (cutAfter low high lengthLimits).flatMap fun (low, high) =>
      if high ≤ 0x7F then [(low, high)] else splitBlocks low high blockSizes

/-- The row of byte ranges of a block. -/
def blockBytes (low high : Nat) : List ByteRange := (codeBytes low).zip (codeBytes high)

/-- The rows of byte ranges that hold the codes of a set, in ascending order. -/
def byteRows (s : CharSet) : List (List ByteRange) :=
  s.ranges.flatMap fun (low, high) => (blocks low high).map fun (low, high) => blockBytes low high

end SourceEditor.Pattern
