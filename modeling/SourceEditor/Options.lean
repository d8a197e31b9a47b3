/-
  SourceEditor/Options.lean
  =========================
  **Text options**: how wide a tab and a nesting level are, and how indentation is written.
  The two basic functions turn a width into indentation and measure indentation again.  Widths are
  words of 64 bits, and a sum of widths that does not fit in one wraps around.
-/
import SourceEditor.Text.Lines

namespace SourceEditor

/-- The options of a document. -/
structure Options where
  /-- The display width of a tab. -/
  tabStop : UInt64 := 4
  /-- The columns added per nesting level. -/
  shiftWidth : UInt64 := 4
  /-- Whether indentation is written with spaces only. -/
  expandTab : Bool := true
  /-- Whether `case` labels stand one level deeper than their `switch`. -/
  indentCase : Bool := true
  /-- Whether access specifiers stand one level deeper than their class. -/
  indentAccessSpecifier : Bool := true
  deriving DecidableEq, Repr

/-- Why options cannot be used. -/
inductive OptionsError where
  | zeroTabStop
  | zeroShiftWidth
  deriving DecidableEq, Repr

/-- The text of an options error. -/
def OptionsError.message : OptionsError → String
  | .zeroTabStop => "tab stop must be at least 1"
  | .zeroShiftWidth => "shift width must be at least 1"

namespace Options

/-- Accepts options whose widths are positive. -/
def validate (o : Options) : Except OptionsError Unit :=
  if o.tabStop = 0 then .error .zeroTabStop
  else if o.shiftWidth = 0 then .error .zeroShiftWidth
  else .ok ()

/-- Indentation of the given display width: tabs first, then spaces, or spaces only. -/
def makeIndent (o : Options) (width : UInt64) : Text :=
  if o.expandTab || o.tabStop == 0 then List.replicate width.toNat ' '
  else
    List.replicate (width / o.tabStop).toNat '\t' ++
      List.replicate (width % o.tabStop).toNat ' '

/-- The display column after one more character: a tab goes on to the next tab stop. -/
def nextColumn (o : Options) (width : UInt64) (c : Char) : UInt64 :=
  if c = '\t' then width + max o.tabStop 1 - width % max o.tabStop 1 else width + 1

/-- The display width of a text that starts at the left edge. -/
def indentWidth (o : Options) (t : Text) : UInt64 := t.foldl o.nextColumn 0

end Options

end SourceEditor
