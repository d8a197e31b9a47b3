/-
  SourceEditor/Indent/Basic.lean
  ==============================
  **The indentation of a line**, by the style of the buffer's profile.  Computing it changes
  nothing; what it looks at is the text above the line, and of the line itself only its code.
-/
import SourceEditor.Indent.Braces

namespace SourceEditor.Buffer

/-- The indentation of the nearest line above that is not blank. -/
def keptIndent (b : Buffer) (n : Nat) : Text :=
  match nearestBelow (fun i => (b.line? i).any fun l => !l.isBlank) n with
  | none => []
  | some above => ((b.line? above).map Line.indent).getD []

/-- The indentation of a line in a language where a colon at the end of a line opens a block. -/
def colonIndent (b : Buffer) (o : Options) (n : Nat) : Text :=
  match (b.line? n).filter Line.startsQuoted with
  | some l => l.indent
  | none =>
    match (b.significantAbove n).bind b.line? with
    | none => []
    | some above =>
      let opens := above.lastCodeChar.any fun c => c.2 == ':'
      o.makeIndent (above.indentWidth o + if opens then o.shiftWidth else 0)

/-- The indentation that a style gives the line with a number. -/
def indentBy (b : Buffer) (style : IndentStyle) (o : Options) (n : Nat) : Text :=
  match style with
  | .braces => b.braceIndent o n
  | .colons => b.colonIndent o n
  | .keep => b.keptIndent n

/-- The indentation that the line with a number should have. -/
def computeIndent (b : Buffer) (o : Options) (n : Nat) : Except BufferError Text :=
  match b.line? n with
  | none => .error (.invalidLine n b.lineCount)
  | some _ => .ok (b.indentBy b.profile.indent o n)

end SourceEditor.Buffer
