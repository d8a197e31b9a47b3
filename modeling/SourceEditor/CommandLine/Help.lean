/-
  SourceEditor/CommandLine/Help.lean
  ==================================
  **Help texts**: an overview of the commands, and for each command its words and switches.  A
  help text is a list of rows in sections; the purposes of the rows of a section stand in one
  column.
-/
import SourceEditor.CommandLine.Arguments

namespace SourceEditor.CommandLine

/-! ### Switches -/

namespace Switch

/-- The name of the value of a switch, if it takes one. -/
def valueName? : Switch → Option String
  | .options => some "OPTIONS"
  | .tabStop => some "TAB_STOP"
  | .shiftWidth => some "SHIFT_WIDTH"
  | .encoding => some "ENCODING"
  | .line => some "LINE"
  | _ => none

/-- What a switch is for; nothing is said where the name says it. -/
def purpose : Switch → String
  | .options => "JSON file with text options (tab_stop, shift_width, expand_tab, ...)"
  | .tabs => "Indent with tabs instead of spaces"
  | .encoding =>
    "Encoding of the input file [default: utf8] [possible values: utf8, utf16le, utf16be]"
  | .line => "Only print the indent width of this 1-based line"
  | .regex => "Treat the pattern as a regular expression"
  | _ => ""

end Switch

/-! ### Topics -/

namespace Topic

/-- What a command is for. -/
def purpose : Topic → String
  | .indent => "Re-indent a file, or print the computed indent of one line"
  | .find => "List every match of a pattern"
  | .replace => "Replace every match of a pattern"
  | .lex => "Print the lexical spans of every line"

/-- What a switch of the command is for.  Writing the result back is explained with the command
that can do without. -/
def switchPurpose (topic : Topic) (s : Switch) : String :=
  if topic = .indent ∧ s = .inPlace then "Write the result back instead of printing it"
  else s.purpose

end Topic

/-! ### Rows -/

/-- A row of a help text: how a thing is written, and what it is for. -/
structure HelpRow where
  written : String
  purpose : String

/-- Rows as they are printed, after a margin; their purposes stand in one column. -/
def shownRows (margin : HelpRow → String) (rows : List HelpRow) : List String :=
  let width := (rows.map fun r => r.written.length).foldl max 0
  rows.map fun r =>
    margin r ++ r.written ++ "".pushn ' ' (width + 2 - r.written.length) ++ r.purpose

/-- The margin of rows without short forms. -/
def plainMargin (_ : HelpRow) : String := "  "

/-- The margin of a switch, which leaves room for its short form. -/
def switchMargin (r : HelpRow) : String :=
  if r.written = "--help" then "  -h, "
  else if r.written = "--version" then "  -V, "
  else "      "

/-- The row of a switch. -/
def Switch.row (s : Switch) (purpose : String) : HelpRow :=
  ⟨"--" ++ s.name ++ s.valueName?.elim "" fun value => " <" ++ value ++ ">", purpose⟩

/-- The row that tells how to ask for help. -/
def helpRow : HelpRow := ⟨"--help", "Print help"⟩

/-- The row that tells how to ask for the version. -/
def versionRow : HelpRow := ⟨"--version", "Print version"⟩

/-- The switches of a command as its help lists them: its own and the common ones by their place
in their lists, and by name where two have the same place. -/
def Topic.listedSwitches (topic : Topic) : List Switch :=
  let placed := topic.ownSwitches.zipIdx ++ Switch.common.zipIdx
  (placed.mergeSort fun s t => s.2 < t.2 || (s.2 = t.2 && s.1.name ≤ t.1.name)).map Prod.fst

/-! ### Texts -/

/-- What the command that asks for help is for. -/
def helpPurpose : String := "Print this message or the help of the given subcommand(s)"

/-- The lines of the overview. -/
def overviewLines : List String :=
  ["Indent, lex and search source files", "", "Usage: lexedit [OPTIONS] <COMMAND>", "",
    "Commands:"] ++
  shownRows plainMargin ((Topic.every.map fun topic => ⟨topic.name, topic.purpose⟩) ++
    [⟨"help", helpPurpose⟩]) ++
  ["", "Options:"] ++
  shownRows switchMargin
    ((Switch.common.map fun s => s.row s.purpose) ++ [helpRow, versionRow])

/-- The lines of the help with a command. -/
def Topic.help (topic : Topic) : List String :=
  let words := topic.wordNames.map fun word => "<" ++ word ++ ">"
  [topic.purpose, "",
    "Usage: lexedit " ++ topic.name ++ " [OPTIONS] " ++ " ".intercalate words, "",
    "Arguments:"] ++
  shownRows plainMargin (words.map fun word => ⟨word, ""⟩) ++
  ["", "Options:"] ++
  shownRows switchMargin
    ((topic.listedSwitches.map fun s => s.row (topic.switchPurpose s)) ++ [helpRow])

/-- The lines of the help with the command that asks for help. -/
def helpOnHelp : List String :=
  [helpPurpose, "", "Usage: lexedit help [COMMAND]...", "", "Arguments:"] ++
    shownRows plainMargin [⟨"[COMMAND]...", "Print help for the subcommand(s)"⟩]

/-- The lines of a help text. -/
def HelpPage.lines : HelpPage → List String
  | .overview => overviewLines
  | .command topic => topic.help
  | .help => helpOnHelp

end SourceEditor.CommandLine
