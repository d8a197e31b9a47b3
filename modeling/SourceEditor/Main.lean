/-
  SourceEditor/Main.lean
  ======================
  **The program**: runs its command line on the files of the system.  All decisions are taken by
  the run; here files are read and written and texts printed.
-/
import SourceEditor.CommandLine.Run

open SourceEditor

/-- The bytes of a file, `none` if it cannot be read. -/
def readBytes? (path : Text) : IO (Option (List UInt8)) := do
  try
    return some (← IO.FS.readBinFile (String.ofList path)).toList
  catch _ =>
    return none

/-- Prints the outcome of a run and writes its file; gives the exit code. -/
def giveOut (outcome : CommandLine.Outcome) : IO UInt32 := do
  for message in outcome.log do
    IO.eprintln message
  IO.print (String.ofList outcome.output)
  if let some message := outcome.error then
    IO.eprintln s!"Error: {message}"
  if let some (path, bytes) := outcome.written then
    IO.FS.writeBinFile (String.ofList path) ⟨bytes.toArray⟩
  return outcome.code.toUInt32

/-- Runs the command line. -/
def main (args : List String) : IO UInt32 := do
  let args := args.map String.toList
  let paths := CommandLine.filesRead args
  let contents ← paths.mapM fun path => return (path, ← readBytes? path)
  giveOut (CommandLine.run args fun path => (contents.lookup path).join)
