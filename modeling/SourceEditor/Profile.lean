/-
  SourceEditor/Profile.lean
  =========================
  **Profiles of file types**: lexical rules, the way lines are indented, and the options that a
  new document of the type starts with.
-/
import SourceEditor.Lexis.Language
import SourceEditor.Options

namespace SourceEditor

/-- How the indentation of a line follows from the lines above it.  These are all the ways that there
are: a profile names one of them and cannot bring another. -/
inductive IndentStyle where
  /-- By braces, parentheses and the keywords of the C family. -/
  | braces
  /-- By the colon that opens a block. -/
  | colons
  /-- As the nearest line above that is not blank. -/
  | keep
  deriving DecidableEq, Repr

/-- What the editor knows about a file type. -/
structure Profile where
  language : Language
  lexicon : Lexicon
  indent : IndentStyle
  options : Options
  deriving DecidableEq, Repr

namespace Profile

/-- How lines of a language are indented. -/
def indentStyle : Language → IndentStyle
  | .python => .colons
  | .plainText => .keep
  | _ => .braces

/-- The options of a language. -/
def defaultOptions : Language → Options
  | .json => { shiftWidth := 2 }
  | _ => {}

/-- The built-in profile of a language. -/
def ofLanguage (l : Language) : Profile :=
  ⟨l, l.lexicon, indentStyle l, defaultOptions l⟩

/-- The profile of plain text. -/
def plainText : Profile := ofLanguage .plainText

/-- The built-in profile of the language that a path's extension tells. -/
def ofPath (path : Text) : Profile := ofLanguage (.ofPath path)

end Profile

end SourceEditor
