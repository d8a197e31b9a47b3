/-
  SourceEditor/Lexis/Language.lean
  ================================
  **Languages**: their names, how a file name tells which language it holds, and the lexical
  rules of each.
-/
import SourceEditor.Lexis.Lexicon

namespace SourceEditor

/-- The languages known. -/
inductive Language where
  | c
  | cpp
  | java
  | javaScript
  | typeScript
  | rust
  | go
  | python
  | json
  | plainText
  deriving DecidableEq, Repr

namespace Language

/-- Every language. -/
def every : List Language :=
  [.c, .cpp, .java, .javaScript, .typeScript, .rust, .go, .python, .json, .plainText]

/-- The name of the language as people write it. -/
def name : Language → String
  | .c => "C"
  | .cpp => "C++"
  | .java => "Java"
  | .javaScript => "JavaScript"
  | .typeScript => "TypeScript"
  | .rust => "Rust"
  | .go => "Go"
  | .python => "Python"
  | .json => "JSON"
  | .plainText => "Plain Text"

/-- The name of the language as an identifier. -/
def identifier : Language → String
  | .c => "C"
  | .cpp => "Cpp"
  | .java => "Java"
  | .javaScript => "JavaScript"
  | .typeScript => "TypeScript"
  | .rust => "Rust"
  | .go => "Go"
  | .python => "Python"
  | .json => "Json"
  | .plainText => "PlainText"

/-- The language with this identifier. -/
def ofIdentifier? (s : String) : Option Language := every.find? fun l => l.identifier == s

/-! ### File names -/

/-- The file name extensions of a language, in lower case. -/
def extensions : Language → List String
  | .c => ["c", "h"]
  | .cpp => ["cpp", "cc", "cxx", "c++", "hpp", "hh", "hxx", "h++"]
  | .java => ["java"]
  | .javaScript => ["js", "jsx", "mjs", "cjs"]
  | .typeScript => ["ts", "tsx", "mts", "cts"]
  | .rust => ["rs"]
  | .go => ["go"]
  | .python => ["py", "pyw", "pyi"]
  | .json => ["json", "jsonc"]
  | .plainText => []

/-- The language of a file name extension, in any case; plain text if no language has it.
All extensions listed are ASCII, and of the characters outside ASCII only the Kelvin sign has a
lower case inside it, which no listed extension contains, so lowering ASCII is enough. -/
def ofExtension (extension : Text) : Language :=
  let lower := String.ofList (extension.map Char.toLower)
  (every.find? fun l => l.extensions.contains lower).getD .plainText

/-- The parts of a path between its slashes. -/
def pathParts : Text → List Text
  | [] => [[]]
  | ch :: rest => if ch = '/' then [] :: pathParts rest else Text.consFirst ch (pathParts rest)

/-- The last part of a path, `none` if that is the parent directory or nothing.  Empty parts and
parts `.` are passed over, but a path that consists of a dot alone has no file name either. -/
def fileName? (path : Text) : Option Text :=
  match ((pathParts path).filter fun p => !p.isEmpty && p ≠ ['.']).getLast? with
  | none => none
  | some p => if p = ['.', '.'] then none else some p

/-- The extension of a file name: what follows its last dot, if something stands before that
dot. -/
def extension? (file : Text) : Option Text :=
  let after := file.reverse.takeWhile (· ≠ '.')
  if after.length + 1 < file.length then some after.reverse else none

/-- The language of a path, by the extension of its file name. -/
def ofPath (path : Text) : Language :=
  ((fileName? path).bind extension?).elim .plainText ofExtension

/-! ### Lexical rules -/

/-- The words of a list of words with spaces between them. -/
def wordList (lines : List String) : List Text :=
  lines.flatMap fun line => (line.splitOn " ").map String.toList

/-- The keywords of C. -/
def cKeywords : List Text := wordList [
  "auto break case char const continue default do double else enum extern float for goto if int",
  "long return short signed sizeof static struct switch typedef union unsigned void volatile",
  "while"]

/-- The keywords of a language. -/
def keywords : Language → List Text
  | .c => cKeywords
  | .cpp => cKeywords ++ wordList [
      "bool catch class const_cast delete explicit false friend inline mutable namespace new",
      "nullptr operator private protected public template this throw true try typename using",
      "virtual"]
  | .java => wordList [
      "abstract boolean break case catch class continue default do else extends final finally",
      "for if implements import interface new package private protected public return static",
      "switch this throw try void while"]
  | .javaScript | .typeScript => wordList [
      "async await break case catch class const continue default else export for function if",
      "import let new return switch this throw try var while"]
  | .rust => wordList [
      "as break const continue crate else enum fn for if impl in let loop match mod mut pub",
      "return self static struct trait type use where while"]
  | .go => wordList [
      "break case chan const continue default defer else for func go if import interface map",
      "package range return select struct switch type var"]
  | .python => wordList [
      "and as class def elif else except for from if import in is lambda not or pass return try",
      "while with yield"]
  | .json | .plainText => []

/-- A quote that ends at its marker or with the line. -/
def lineQuote (token : TokenKind) (start stop : String) : QuoteRule :=
  ⟨token, start.toList, stop.toList, .singleLine⟩

/-- A quote that ends only at its marker. -/
def blockQuote (token : TokenKind) (start stop : String) : QuoteRule :=
  ⟨token, start.toList, stop.toList, .multiLine⟩

/-- The comments and strings common to the languages with braces. -/
def braceQuotes : List QuoteRule :=
  [blockQuote .comment "/*" "*/", lineQuote .comment "//" "", lineQuote .string "\"" "\""]

/-- Character literals. -/
def charQuote : QuoteRule := lineQuote .char "'" "'"

/-- Preprocessor lines. -/
def preprocessorQuote : QuoteRule := lineQuote .preprocessor "#" ""

/-- Strings between back quotes, which may hold line breaks. -/
def backQuote : QuoteRule := blockQuote .string "\x60" "\x60"

/-- The quote rules of a language, in the order of their indices.  In JavaScript and TypeScript
single quotes delimit strings; in Rust they are lifetimes as often as character literals, so no
rule is made of them. -/
def quotes : Language → List QuoteRule
  | .c | .cpp => braceQuotes ++ [charQuote, preprocessorQuote]
  | .java => braceQuotes ++ [charQuote]
  | .javaScript | .typeScript => braceQuotes ++ [lineQuote .string "'" "'", backQuote]
  | .rust => braceQuotes
  | .go => braceQuotes ++ [charQuote, backQuote]
  | .python =>
    [lineQuote .comment "#" "", blockQuote .string "\"\"\"" "\"\"\"",
      blockQuote .string "'''" "'''", lineQuote .string "\"" "\"", lineQuote .string "'" "'"]
  | .json => [lineQuote .string "\"" "\""]
  | .plainText => []

/-- The lexical rules of a language. -/
def lexicon (l : Language) : Lexicon := ⟨l.quotes, l.keywords⟩

end Language

end SourceEditor
