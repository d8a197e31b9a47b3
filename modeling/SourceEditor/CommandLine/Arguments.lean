/-
  SourceEditor/CommandLine/Arguments.lean
  =======================================
  **The arguments of the command line.**  Words name a command and then what it works on; switches
  begin with two hyphens and may stand anywhere, also before the command if they belong to all
  commands.  A switch with a value takes it after an equals sign or as the next argument.
-/
import SourceEditor.Search.Matcher
import SourceEditor.Text.Encoding

namespace SourceEditor.CommandLine

/-! ### Switches -/

/-- The switches. -/
inductive Switch where
  | options
  | tabStop
  | shiftWidth
  | tabs
  | encoding
  | line
  | inPlace
  | regex
  | caseSensitive
  | wholeWord
  deriving DecidableEq, Repr

namespace Switch

/-- The switches of all commands. -/
def common : List Switch := [.options, .tabStop, .shiftWidth, .tabs, .encoding]

/-- The name of a switch, after its hyphens. -/
def name : Switch → String
  | .options => "options"
  | .tabStop => "tab-stop"
  | .shiftWidth => "shift-width"
  | .tabs => "tabs"
  | .encoding => "encoding"
  | .line => "line"
  | .inPlace => "in-place"
  | .regex => "regex"
  | .caseSensitive => "case-sensitive"
  | .wholeWord => "whole-word"

/-- The encoding with a name. -/
def encoding? (t : Text) : Option Encoding :=
  match String.ofList t with
  | "utf8" => some .utf8
  | "utf16le" => some .utf16le
  | "utf16be" => some .utf16be
  | _ => none

/-- Whether a value fits a switch: `none` if the switch takes no value. -/
def accepts? : Switch → Option (Text → Bool)
  | .options => some fun t => !t.isEmpty
  | .tabStop | .shiftWidth | .line => some fun t => (Text.unsigned? t).isSome
  | .encoding => some fun t => (encoding? t).isSome
  | _ => none

end Switch

/-! ### Topics -/

/-- What a command line can be about. -/
inductive Topic where
  | indent
  | find
  | replace
  | lex
  deriving DecidableEq, Repr

namespace Topic

/-- Every topic. -/
def every : List Topic := [.indent, .find, .replace, .lex]

/-- The name of the command. -/
def name : Topic → String
  | .indent => "indent"
  | .find => "find"
  | .replace => "replace"
  | .lex => "lex"

/-- The topic with a name. -/
def ofName? (t : Text) : Option Topic := every.find? fun topic => topic.name.toList = t

/-- The names of the words that follow the name of the command. -/
def wordNames : Topic → List String
  | .indent | .lex => ["FILE"]
  | .find => ["FILE", "PATTERN"]
  | .replace => ["FILE", "PATTERN", "REPLACEMENT"]

/-- The switches that the command takes besides the common ones. -/
def ownSwitches : Topic → List Switch
  | .indent => [.line, .inPlace]
  | .find => [.regex, .caseSensitive, .wholeWord]
  | .replace => [.regex, .caseSensitive, .wholeWord, .inPlace]
  | .lex => []

end Topic

/-! ### Levels -/

/-- What help can be asked for. -/
inductive HelpPage where
  /-- All commands. -/
  | overview
  | command (topic : Topic)
  /-- The command that asks for help. -/
  | help
  deriving DecidableEq, Repr

/-- The help with what a level is about: all commands, or the one that was named. -/
def HelpPage.ofTopic (topic : Option Topic) : HelpPage := topic.elim .overview .command

/-- Why reading arguments ends early. -/
inductive Stop where
  /-- The arguments are not understood. -/
  | usage
  /-- They ask for help. -/
  | help (page : HelpPage)
  /-- They ask for the version. -/
  | version
  deriving DecidableEq, Repr

/-- An argument that was taken up but is not checked yet: a word, or the value of a switch. -/
inductive Unchecked where
  | word (t : Text)
  | value (s : Switch) (t : Text)
  deriving DecidableEq, Repr

/-- What was read before or after the name of the command: switches with their values, and words,
each list with the last one first; and the argument that is checked when the next one is taken
up. -/
structure Level where
  switches : List (Switch × Text) := []
  words : List Text := []
  unchecked : Option Unchecked := none

namespace Level

/-- The level with one more switch, whose value must fit; none is given twice. -/
def give (l : Level) (s : Switch) (value : Text) : Except Stop Level :=
  if s.accepts?.any (fun accepts => !accepts value) || l.switches.any fun g => g.1 = s then
    .error .usage
  else .ok { l with switches := (s, value) :: l.switches }

/-- The level with everything checked.  The first word names a file, and a file has a name. -/
def settle (l : Level) : Except Stop Level :=
  let settled := { l with unchecked := none }
  match l.unchecked with
  | none => .ok l
  | some (.word t) =>
    if l.words.isEmpty && t.isEmpty then .error .usage
    else .ok { settled with words := t :: l.words }
  | some (.value s t) => settled.give s t

/-- The level with one more word.  No command has more words than names for them. -/
def addWord (l : Level) (topic : Topic) (t : Text) : Except Stop Level := do
  let l ← l.settle
  if l.words.length < topic.wordNames.length then return { l with unchecked := some (.word t) }
  else throw .usage

end Level

/-- The name and the value of a long switch, divided at its first equals sign. -/
def divide (t : Text) : Text × Option Text :=
  let name := t.takeWhile (· ≠ '=')
  match t.drop name.length with
  | [] => (name, none)
  | _ :: value => (name, some value)

/-- Whether an argument is a word, and not a switch. -/
def isWord : Text → Bool
  | '-' :: _ :: _ => false
  | _ => true

/-- The switches of a level: those of all commands, and after the command its own. -/
def levelSwitches (topic : Option Topic) : List Switch :=
  Switch.common ++ topic.elim [] Topic.ownSwitches

/-- A switch by itself: one that takes no value is given, one that takes a value waits for it.
Help can be asked for at any level, and the version before the command. -/
def Level.giveLong (l : Level) (topic : Option Topic) (name : Text) (value : Option Text) :
    Except Stop (Level × Option Switch) := do
  let l ← l.settle
  match (levelSwitches topic).find? fun s => s.name.toList = name with
  | none =>
    if name = "help".toList && value.isNone then throw (.help (.ofTopic topic))
    else if topic.isNone && name = "version".toList && value.isNone then throw .version
    else throw .usage
  | some s =>
    match s.accepts?, value with
    | none, none => return (← l.give s [], none)
    | none, some _ => throw .usage
    | some _, none => return (l, some s)
    | some _, some v => return (← l.give s v, none)

/-- A short switch: the one for help, and before the command the one for the version. -/
def Level.giveShort (l : Level) (topic : Option Topic) (letter : Char) : Stop :=
  match l.settle with
  | .error stop => stop
  | .ok _ =>
    if letter = 'h' then .help (.ofTopic topic)
    else if letter = 'V' ∧ topic.isNone then .version
    else .usage

/-- Reads the arguments of one level; `waiting` is a switch that waits for its value.  Before the
command there is no topic, and the first word ends the level, with its last argument still
unchecked.  Gives what was read, and the arguments from that word on. -/
def readLevel (topic : Option Topic) :
    (waiting : Option Switch) → Level → List Text → Except Stop (Level × List Text)
  | some _, _, [] => .error .usage
  | none, l, [] => l.settle.map (·, [])
  | some s, l, value :: rest =>
    if isWord value then readLevel topic none { l with unchecked := some (.value s value) } rest
    else .error .usage
  | none, l, arg :: rest =>
    match arg with
    | ['-', '-'] =>
      match topic with
      | none => .error .usage
      | some topic =>
        (rest.foldlM (fun (l : Level) t => l.addWord topic t) l).bind fun l => l.settle.map (·, [])
    | '-' :: '-' :: long =>
      match l.giveLong topic (divide long).1 (divide long).2 with
      | .error e => .error e
      | .ok (l, waiting) => readLevel topic waiting l rest
    | '-' :: letter :: _ => .error (l.giveShort topic letter)
    | word =>
      match topic with
      | none => .ok (l, word :: rest)
      | some t =>
        match l.addWord t word with
        | .error e => .error e
        | .ok l => readLevel topic none l rest

/-! ### Commands -/

/-- A command, with what it works on. -/
inductive Command where
  /-- Indents a file, or tells the indentation of one of its lines. -/
  | indent (file : Text) (line : Option Nat) (inPlace : Bool)
  /-- Lists the matches of a pattern. -/
  | find (file pattern : Text) (o : FindOptions)
  /-- Replaces the matches of a pattern. -/
  | replace (file pattern replacement : Text) (o : FindOptions) (inPlace : Bool)
  /-- Lists the spans of every line. -/
  | lex (file : Text)
  deriving DecidableEq, Repr

/-- The file that a command works on. -/
def Command.file : Command → Text
  | .indent file .. => file
  | .find file .. => file
  | .replace file .. => file
  | .lex file => file

/-- A command line that was understood. -/
structure Invocation where
  /-- The file of options. -/
  options : Option Text
  tabStop : Option UInt64
  shiftWidth : Option UInt64
  tabs : Bool
  encoding : Encoding
  command : Command
  deriving DecidableEq, Repr

/-- Whether a switch was given. -/
def has (switches : List (Switch × Text)) (s : Switch) : Bool := switches.any fun g => g.1 = s

/-- The value of a switch. -/
def value? (switches : List (Switch × Text)) (s : Switch) : Option Text := switches.lookup s

/-- The width that is the value of a switch. -/
def width? (switches : List (Switch × Text)) (s : Switch) : Option UInt64 :=
  ((value? switches s).bind Text.unsigned?).map .ofNat

/-- The options of a search that switches give. -/
def findOptions (switches : List (Switch × Text)) : FindOptions :=
  { useRegex := has switches .regex
    caseSensitive := has switches .caseSensitive
    wholeWord := has switches .wholeWord }

/-- The command of a topic, on the words that follow its name. -/
def Topic.command? (topic : Topic) (words : List Text) (switches : List (Switch × Text)) :
    Option Command :=
  let inPlace := has switches .inPlace
  match topic, words with
  | .indent, [file] =>
    some (.indent file ((value? switches .line).bind Text.unsigned?) inPlace)
  | .find, [file, pattern] => some (.find file pattern (findOptions switches))
  | .replace, [file, pattern, replacement] =>
    some (.replace file pattern replacement (findOptions switches) inPlace)
  | .lex, [file] => some (.lex file)
  | _, _ => none

/-- What a request for help is about, by the words after it. -/
def askedHelp : List Text → Stop
  | [] => .help .overview
  | [name] =>
    if name = "help".toList then .help .help
    else (Topic.ofName? name).elim .usage fun topic => .help (.command topic)
  | _ => .usage

/-- Reads a command line.  What stands before the command is checked to its end only after what
follows the command; so help with a command is given even if that fails.  A switch given after the
command wins over the same switch before it. -/
def Invocation.read (args : List Text) : Except Stop Invocation := do
  let (before, rest) ← readLevel none none {} args
  match rest with
  | [] => .error .usage
  | name :: rest =>
    if name = "help".toList then .error (askedHelp rest)
    else
      match Topic.ofName? name with
      | none => .error .usage
      | some topic =>
        let (after, _) ← readLevel (some topic) none {} rest
        let before ← before.settle
        let switches := after.switches ++ before.switches
        match topic.command? after.words.reverse switches with
        | none => .error .usage
        | some command => .ok {
            options := value? switches .options
            tabStop := width? switches .tabStop
            shiftWidth := width? switches .shiftWidth
            tabs := has switches .tabs
            encoding := ((value? switches .encoding).bind Switch.encoding?).getD .utf8
            command }

end SourceEditor.CommandLine
