/-
  SourceEditor/Buffer/Basic.lean
  ==============================
  **The buffer**: the lines of an open text, always at least one, each with the annotation that
  scanning all lines from the top gives it.  The module holds the type, the ways to make a
  buffer, and the questions that can be asked of one: its lines by number and by identity, its
  points and ranges, and the text between two points.
-/
import Std.Data.TreeMap
import SourceEditor.Buffer.Error
import SourceEditor.Buffer.Subscribers
import SourceEditor.Line
import SourceEditor.Profile

namespace SourceEditor

/-! ### Scanning the lines of a buffer -/

/-- Scans lines from the given state on: the first `n` in any case, and then further lines down
to the first that leaves the state it left before. -/
def rescan (lex : Lexicon) (state : ScanState) : Nat → List Line → List Line
  | _, [] => []
  | n + 1, l :: rest =>
    let l' := l.scanned lex state
    l' :: rescan lex l'.stateOut n rest
  | 0, l :: rest =>
    let l' := l.scanned lex state
    if l'.stateOut = l.stateOut then l' :: rest else l' :: rescan lex l'.stateOut 0 rest

theorem rescan_ne_nil {lex : Lexicon} {state : ScanState} {n : Nat} {ls : List Line}
    (h : ls ≠ []) : rescan lex state n ls ≠ [] := by
  cases ls with
  | nil => exact absurd rfl h
  | cons l rest =>
    cases n with
    | zero => simp only [rescan]; split <;> simp
    | succ n => simp [rescan]

/-! ### The index of identities -/

/-- For each identity the index of the first line that carries it. -/
abbrev LineIndex := Std.TreeMap Nat Nat

/-- Enters the line at index `i`, unless a line with its identity is entered already. -/
def LineIndex.enter (index : LineIndex) (i : Nat) (id : LineId) : LineIndex :=
  match id with
  | none => index
  | some n => index.insertIfNew n i

/-- Enters lines that start at index `i`. -/
def LineIndex.enterAll (index : LineIndex) (i : Nat) : List Line → LineIndex
  | [] => index
  | l :: rest => enterAll (index.enter i l.id) (i + 1) rest

/-- The index of some lines. -/
def LineIndex.ofLines (ls : List Line) : LineIndex := enterAll ∅ 0 ls

/-! ### The type -/

/-- The lines of a text, the profile they are scanned with, the identity that the next new line
gets, and the subscribers.  The index of identities is there once a line has been looked up, until
lines change their numbers or identities. -/
structure Buffer where
  lines : List Line
  profile : Profile
  nextId : Nat
  index : Option LineIndex
  subscribers : Subscribers
  lines_ne_nil : lines ≠ []

namespace Buffer

/-- The buffer of lines with the given texts; their identities count from zero. -/
def ofLines (texts : List Text) (profile : Profile) (h : texts ≠ []) : Buffer :=
  let unscanned := texts.zipIdx.map fun (t, i) => Line.unscanned (some i) t
  let lines := rescan profile.lexicon .normal texts.length unscanned
  { lines
    profile
    nextId := texts.length
    index := none
    subscribers := .empty
    lines_ne_nil := rescan_ne_nil (by simpa [unscanned] using h) }

/-- The buffer of a text. -/
def ofText (t : Text) (profile : Profile) : Buffer := ofLines t.lines profile t.lines_ne_nil

/-- The buffer of one empty line. -/
def new (profile : Profile) : Buffer := ofText [] profile

/-- The buffer of the text that bytes encode. -/
def ofBytes (bytes : List UInt8) (e : Encoding) (profile : Profile) :
    Except DecodingError Buffer :=
  match e.decode? bytes with
  | none => .error ⟨e⟩
  | some t => .ok (ofText t profile)

/-- The buffer of a stream in UTF-8, by what comes of reading the stream to its end. -/
def ofReader {ε : Type} (read : Except ε (List UInt8)) (profile : Profile) :
    Except (ReadError ε) Buffer :=
  match read with
  | .error e => .error (.failed e)
  | .ok bytes =>
    match ofBytes bytes .utf8 profile with
    | .error _ => .error .invalidData
    | .ok b => .ok b

/-! ### Lines -/

/-- The number of lines. -/
def lineCount (b : Buffer) : Nat := b.lines.length

/-- The line with a number, counted from one. -/
def line? (b : Buffer) (n : Nat) : Option Line := if n = 0 then none else b.lines[n - 1]?

/-- The first line. -/
def firstLine (b : Buffer) : Line := b.lines.head b.lines_ne_nil

/-- The last line. -/
def lastLine (b : Buffer) : Line := b.lines.getLast b.lines_ne_nil

/-- The index of identities: the one that is there, and otherwise the one of the lines. -/
def usedIndex (b : Buffer) : LineIndex := b.index.getD (.ofLines b.lines)

/-- The number of the first line with an identity. -/
def lineNumber? (b : Buffer) (id : LineId) : Option Nat :=
  id.bind fun n => b.usedIndex[n]?.map (· + 1)

/-- Looks up the number of the first line with an identity.  The index that this takes stays with
the buffer. -/
def lookUp (b : Buffer) (id : LineId) : Option Nat × Buffer :=
  (b.lineNumber? id, if id = none then b else { b with index := some b.usedIndex })

/-- Whether every line begins in the state that the line above leaves, and the first line in the
normal one. -/
def isConsistent (b : Buffer) : Bool :=
  go .normal b.lines
where
  go (state : ScanState) : List Line → Bool
    | [] => true
    | l :: rest => l.stateIn = state && go l.stateOut rest

/-! ### Points and ranges -/

/-- The first point. -/
def startPoint (_ : Buffer) : Point := ⟨1, 0⟩

/-- The last point. -/
def stopPoint (b : Buffer) : Point := ⟨b.lineCount, b.lastLine.length⟩

/-- The range of the whole text. -/
def range (b : Buffer) : Range := ⟨b.startPoint, b.stopPoint⟩

/-- Accepts the points of the text. -/
def checkPoint (b : Buffer) (p : Point) : Except BufferError Unit :=
  match b.line? p.line with
  | none => .error (.invalidLine p.line b.lineCount)
  | some l =>
    if p.col ≤ l.length then .ok () else .error (.invalidColumn p.line p.col l.length)

/-- Accepts the ranges of the text: both ends are points of it, in order. -/
def checkRange (b : Buffer) (r : Range) : Except BufferError Unit :=
  match b.checkPoint r.start with
  | .error e => .error e
  | .ok () =>
    match b.checkPoint r.stop with
    | .error e => .error e
    | .ok () => if r.start ≤ r.stop then .ok () else .error (.invalidRange r.start r.stop)

/-! ### Text -/

/-- The texts of the lines. -/
def texts (b : Buffer) : List Text := b.lines.map Line.text

/-- The whole text. -/
def text (b : Buffer) : Text := .joinLines b.texts

/-- The texts of the lines that a range touches, cut at its ends. -/
def cut (b : Buffer) (r : Range) : List Text :=
  Text.dropFirst r.start.col
    (Text.takeLast r.stop.col ((b.texts.drop (r.start.line - 1)).take r.lineCount))

/-- The text inside a range of the buffer. -/
def slice (b : Buffer) (r : Range) : Text := .joinLines (b.cut r)

/-- The text inside a range, if the buffer has that range. -/
def getText (b : Buffer) (r : Range) : Except BufferError Text :=
  match b.checkRange r with
  | .error e => .error e
  | .ok () => .ok (b.slice r)

/-! ### Subscribers -/

/-- Subscribes to the changes from now on, under the number that is told. -/
def subscribe (b : Buffer) : Nat × Buffer :=
  (b.subscribers.next, { b with subscribers := b.subscribers.subscribe })

/-- The subscriber with a number stops to listen. -/
def unsubscribe (b : Buffer) (k : Nat) : Buffer :=
  { b with subscribers := b.subscribers.unsubscribe k }

/-- What the subscriber with a number has been sent, if it still listens. -/
def received (b : Buffer) (k : Nat) : Option (List Change) := b.subscribers.received k

end Buffer

end SourceEditor
