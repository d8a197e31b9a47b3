/-
  SourceEditor/Buffer/Error.lean
  ==============================
  **Why a buffer refuses** a point, a range or the bytes it is made from.
-/
import SourceEditor.Point
import SourceEditor.Text.Encoding

namespace SourceEditor

/-- A refused point or range.  The buffer is as it was. -/
inductive BufferError where
  | invalidLine (line lineCount : Nat)
  | invalidColumn (line col length : Nat)
  /-- Both ends exist, but the second precedes the first. -/
  | invalidRange (start stop : Point)
  deriving DecidableEq, Repr

/-- The text of a buffer error. -/
def BufferError.message : BufferError → String
  | .invalidLine line count => s!"line {line} is out of range (buffer has {count} lines)"
  | .invalidColumn line col length =>
    s!"column {col} is out of range for line {line} (length {length})"
  | .invalidRange start stop => s!"range end {stop.shown} precedes its begin {start.shown}"

/-- Bytes that no text gives in the encoding. -/
structure DecodingError where
  encoding : Encoding
  deriving DecidableEq, Repr

/-- The text of a decoding error. -/
def DecodingError.message (e : DecodingError) : String := s!"input is not valid {e.encoding.name}"

/-- Why a stream gives no buffer; `ε` are the ways in which reading it can fail. -/
inductive ReadError (ε : Type) where
  | failed (e : ε)
  /-- The bytes that were read are not UTF-8. -/
  | invalidData
  deriving DecidableEq, Repr

end SourceEditor
