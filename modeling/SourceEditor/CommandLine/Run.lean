/-
  SourceEditor/CommandLine/Run.lean
  =================================
  **Running a command.**  A run reads its files through a function and gives an outcome: what to
  print, what to note in the log, the file to write, and the exit code.
-/
import SourceEditor.CommandLine.Help
import SourceEditor.Document
import SourceEditor.Json.Options
import SourceEditor.Listing

namespace SourceEditor.CommandLine

/-- What a run does. -/
structure Outcome where
  code : Nat
  /-- The text to print. -/
  output : Text := []
  /-- The messages of the log, in order. -/
  log : List String := []
  /-- The error to report. -/
  error : Option String := none
  /-- The file to write, with its bytes. -/
  written : Option (Text × List UInt8) := none

/-- The outcome of an error. -/
def Outcome.failure (message : String) : Outcome := { code := 1, error := some message }

/-- The text as a string. -/
def str (t : Text) : String := .ofList t

/-- Reads the bytes of a file, `none` if it cannot be read. -/
abbrev FileReader := Text → Option (List UInt8)

/-! ### Opening a document -/

/-- The options of a file of options. -/
def readOptions (read : FileReader) (path : Text) : Except String Options :=
  match (read path).bind Encoding.utf8.decode? with
  | none => .error s!"Failed to read options {str path}"
  | some t =>
    match Options.read t with
    | none => .error s!"Invalid options in {str path}"
    | some o => .ok o

/-- The options of a run: those of the file of options or of the profile, and over them what the
switches say. -/
def resolveOptions (i : Invocation) (read : FileReader) (defaults : Options) :
    Except String Options := do
  let o ← match i.options with
    | none => .ok defaults
    | some path => readOptions read path
  return { o with
    tabStop := i.tabStop.getD o.tabStop
    shiftWidth := i.shiftWidth.getD o.shiftWidth
    expandTab := if i.tabs then false else o.expandTab }

/-- The document of the file that the command works on. -/
def openDocument (i : Invocation) (read : FileReader) : Except String Document := do
  let path := i.command.file
  let bytes ← (read path).elim (.error s!"Failed to read {str path}") .ok
  let b ← (Buffer.ofBytes bytes i.encoding (.ofPath path)).mapError DecodingError.message
  let d := Document.ofBuffer b
  let o ← resolveOptions i read d.options
  (d.setOptions o).mapError OptionsError.message

/-! ### Giving a document out -/

/-- The outcome of a run that has edited a document: it is printed, or written back if it was
changed.  It is written in UTF-8 whatever encoding it was read in. -/
def give (d : Document) (path : Text) (inPlace : Bool) (log : String) : Outcome :=
  if !inPlace then { code := 0, output := d.text, log := [log] }
  else if !d.modified then { code := 0, log := [log, s!"{str path} unchanged"] }
  else
    { code := 0
      log := [log, s!"Wrote {str path}"]
      written := some (path, Encoding.utf8.encode d.text) }

/-- Lines as they are printed, each with its line break. -/
def printed (ls : List Text) : Text := ls.flatMap fun t => t ++ ['\n']

/-! ### The commands -/

/-- Runs a command on the document of its file. -/
def Command.run (c : Command) (d : Document) : Except String Outcome :=
  match c with
  | .indent _ (some n) _ =>
    match d.computeIndent n with
    | .error e => .error e.message
    | .ok t => .ok { code := 0, output := printed [.ofNat (d.options.indentWidth t).toNat] }
  | .indent file none inPlace =>
    match d.reindentLines 1 d.buffer.lineCount with
    | (.error e, _) => .error e.message
    | (.ok changed, d) =>
      .ok (give d file inPlace s!"Re-indented {changed} line(s) in {str file}")
  | .find file pattern o =>
    match Listing.new.findAll file d.buffer pattern o with
    | .error e => .error e.message
    | .ok (0, _) => .ok { code := 0, log := [s!"No match for {str pattern.quoted}"] }
    | .ok (_, l) => .ok { code := 0, output := printed l.buffer.texts }
  | .replace file pattern replacement o inPlace =>
    match d.replaceAll pattern replacement d.buffer.range o with
    | (.error e, _) => .error e.message
    | (.ok count, d) =>
      .ok (give d file inPlace s!"Replaced {count} match(es) in {str file}")
  | .lex _ =>
    let rows := d.buffer.lines.zipIdx 1 |>.map fun (l, n) =>
      (Text.ofNat n).alignRight 4 ++ ' ' :: (Span.shownAll l.spans).toList
    .ok { code := 0, output := printed rows }

/-- Runs a command line that was understood. -/
def Invocation.run (i : Invocation) (read : FileReader) : Outcome :=
  match openDocument i read >>= i.command.run with
  | .error message => .failure message
  | .ok outcome => outcome

/-! ### Whole command lines -/

/-- The outcome of a command line that is not run as a command. -/
def Stop.outcome : Stop → Outcome
  | .usage => { code := 2 }
  | .help page => { code := 0, output := printed (page.lines.map String.toList) }
  | .version => { code := 0, output := printed ["lexedit 0.1.0".toList] }

/-- Runs a command line. -/
def run (args : List Text) (read : FileReader) : Outcome :=
  match Invocation.read args with
  | .error stop => stop.outcome
  | .ok i => i.run read

/-- The files that a command line reads. -/
def filesRead (args : List Text) : List Text :=
  match Invocation.read args with
  | .error _ => []
  | .ok i => i.command.file :: i.options.toList

end SourceEditor.CommandLine
