/-
  SourceEditor/Listing.lean
  =========================
  **Listings of matches.**  The matches in a source are listed in a buffer of their own: a heading
  with the name of the source, a row per match with its line number and line, and a footer with
  their count.

      -- src/main.c
       3 int count = 0;
      12     count += step;
      >> 2

  A row carries the identity of the line it shows, so that the line is found again after edits
  of the source have moved it.
-/
import SourceEditor.Search.Find
import SourceEditor.Buffer.Edit

namespace SourceEditor

/-- A buffer of listings. -/
structure Listing where
  buffer : Buffer

namespace Listing

/-- A buffer without listings: one empty line without identity. -/
def new : Listing := ⟨(Buffer.new .plainText).annotate 1 none []⟩

/-- Takes all listings away. -/
def clear (l : Listing) : Except BufferError Listing :=
  if l.buffer.range.isEmpty then .ok ⟨l.buffer.annotate 1 none []⟩
  else
    match l.buffer.delete l.buffer.range with
    | (.error e, _) => .error e
    | (.ok _, b) => .ok ⟨b.annotate 1 none []⟩

/-- The heading of the source with a name. -/
def heading (name : Text) : Text :=
  ['-', '-', ' '] ++ name.map fun c => if isLineBreak c then ' ' else c

/-- The footer after a number of matches. -/
def footer (count : Nat) : Text := ['>', '>', ' '] ++ .ofNat count

/-- The width of the number field: that of the longest line number. -/
def numberWidth (found : List Range) : Nat :=
  (found.map fun r => (Text.ofNat r.start.line).length).foldl max 0

/-- The text of a row. -/
def rowText (width n : Nat) (line : Line) : Text :=
  (Text.ofNat n).alignRight width ++ ' ' :: line.text

/-- The spans of a row: the number field, and the match moved behind it. -/
def rowSpans (width : Nat) (r : Range) (line : Line) : List Span :=
  let stop := if r.isSingleLine then r.stop.col else line.length
  [⟨0, width, .number⟩, ⟨width + 1 + r.start.col, stop - r.start.col, .found⟩]

/-- Puts the heading on the first line of an empty buffer, and on a new line otherwise. -/
def writeHeading (b : Buffer) (name : Text) : Except BufferError Buffer :=
  if b.range.isEmpty then
    match b.insert ⟨1, 0⟩ (heading name) with
    | (.error e, _) => .error e
    | (.ok _, b) => .ok (b.annotate 1 none [])
  else .ok (b.appendAnnotated none (heading name) [])

/-- Puts a row below the last line; a match on a line that the source does not have gets none. -/
def writeRow (source : Buffer) (width : Nat) (b : Buffer) (r : Range) : Buffer :=
  match source.line? r.start.line with
  | none => b
  | some line =>
    b.appendAnnotated line.id (rowText width r.start.line line) (rowSpans width r line)

/-- Appends the listing of some matches in a source.  Without matches nothing is written. -/
def write (l : Listing) (name : Text) (source : Buffer) (found : List Range) :
    Except BufferError Listing :=
  if found.isEmpty then .ok l
  else
    match writeHeading l.buffer name with
    | .error e => .error e
    | .ok b =>
      let rows := found.foldl (writeRow source (numberWidth found)) b
      .ok ⟨rows.appendAnnotated none (footer found.length) []⟩

/-- Searches the whole source and appends the listing of the matches; gives their number. -/
def findAll (l : Listing) (name : Text) (source : Buffer) (pattern : Text) (o : FindOptions) :
    Except FindError (Nat × Listing) :=
  match source.findAll pattern source.range o with
  | .error e => .error e
  | .ok found =>
    match l.write name source found with
    | .error e => .error (.buffer e)
    | .ok l => .ok (found.length, l)

/-- The number that the line shown on a line of the listing now has in its source. -/
def sourceLine (l : Listing) (n : Nat) (source : Buffer) : Option Nat :=
  (l.buffer.line? n).bind fun line => source.lineNumber? line.id

/-- Looks that number up in the source. -/
def lookUpSource (l : Listing) (n : Nat) (source : Buffer) : Option Nat × Buffer :=
  match l.buffer.line? n with
  | none => (none, source)
  | some line => source.lookUp line.id

end Listing

end SourceEditor
