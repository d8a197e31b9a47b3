/-
  SourceEditor/Proofs/Indent/Program.lean
  =======================================
  **Programs and how they are printed.**  A program is a tree of statements; it is printed one level
  deeper for each block and for each header without braces, with labels where the options want them.
  Printed so, every row stands where the rows above it let expect a line, whatever the tree.

  What is proved of a statement is what the rest of the program relies on: its rows are where they
  should be, the blocks around it are open as before, and the next line stands where the outermost
  of the headers that end with the statement has left it.
-/
import SourceEditor.Proofs.Indent.Expected

namespace SourceEditor

/-! ### Programs -/

mutual

/-- A statement. -/
inductive Statement where
  | simple (code : Text)
  /-- A header without braces and the statement that it governs. -/
  | headed (word condition : Text) (body : Statement)
  /-- A block; the one of a class has a semicolon behind it. -/
  | block (head : Text) (semicolon : Bool) (body : Body)

/-- The body of a block: statements, and labels between them. -/
inductive Body where
  | done
  | statement (s : Statement) (rest : Body)
  | label (l : Label) (rest : Body)

end

/-- A program: statements one after the other. -/
abbrev CppProgram := List Statement

/-- Whether a statement is a block with a semicolon behind it. -/
def Statement.isClass : Statement → Bool
  | .block _ semicolon _ => semicolon
  | _ => false

mutual

/-- Whether all lines of a statement are well-formed, and no header governs a class. -/
def Statement.IsValid : Statement → Prop
  | .simple code => (Content.simple code).IsValid
  | .headed word condition body =>
    (Content.header word condition).IsValid ∧ body.isClass = false ∧ body.IsValid
  | .block head _ body => (Content.opening head).IsValid ∧ body.IsValid

def Body.IsValid : Body → Prop
  | .done => True
  | .statement s rest => s.IsValid ∧ rest.IsValid
  | .label l rest => (Content.label l).IsValid ∧ rest.IsValid

end

mutual

def Statement.decidableIsValid : (s : Statement) → Decidable s.IsValid
  | .simple code => inferInstanceAs (Decidable (Content.simple code).IsValid)
  | .headed _ _ body =>
    @instDecidableAnd _ _ inferInstance (@instDecidableAnd _ _ inferInstance body.decidableIsValid)
  | .block _ _ body => @instDecidableAnd _ _ inferInstance body.decidableIsValid

def Body.decidableIsValid : (body : Body) → Decidable body.IsValid
  | .done => inferInstanceAs (Decidable True)
  | .statement s rest => @instDecidableAnd _ _ s.decidableIsValid rest.decidableIsValid
  | .label _ rest => @instDecidableAnd _ _ inferInstance rest.decidableIsValid

end

instance (s : Statement) : Decidable s.IsValid := s.decidableIsValid

/-- Whether all statements of a program are well-formed. -/
def CppProgram.IsValid (p : CppProgram) : Prop := ∀ s ∈ p, s.IsValid

instance (p : CppProgram) : Decidable p.IsValid := inferInstanceAs (Decidable (∀ s ∈ p, s.IsValid))

/-! ### Printing -/

mutual

/-- The rows of a statement at a width. -/
def Statement.rows (o : Options) (width : UInt64) : Statement → List Row
  | .simple code => [⟨width, .simple code⟩]
  | .headed word condition body =>
    ⟨width, .header word condition⟩ :: body.rows o (width + o.shiftWidth)
  | .block head semicolon body =>
    ⟨width, .opening head⟩ ::
      (body.rows o width (width + o.shiftWidth) ++ [⟨width, .closing semicolon⟩])

/-- The rows of the body of a block of the given width: its statements stand at the width `inner`,
and behind a label one level deeper than the label. -/
def Body.rows (o : Options) (width inner : UInt64) : Body → List Row
  | .done => []
  | .statement s rest => s.rows o inner ++ rest.rows o width inner
  | .label l rest =>
    ⟨width + l.depth o, .label l⟩ :: rest.rows o width (width + l.depth o + o.shiftWidth)

end

/-- The text of a row. -/
def Row.text (o : Options) (r : Row) : Text := o.makeIndent r.width ++ r.content.text

namespace CppProgram

def rows (o : Options) (p : CppProgram) : List Row := p.flatMap fun s => s.rows o 0

/-- The lines of a program as it is printed. -/
def lines (o : Options) (p : CppProgram) : List Text := (p.rows o).map fun r => r.text o

end CppProgram

variable {o : Options}

/-! ### What the rows hold -/

theorem Content.isValid_closing (semicolon : Bool) : (Content.closing semicolon).IsValid := by
  cases semicolon <;> decide

mutual

/-- All lines of a well-formed statement are well-formed, closing braces and all. -/
theorem Statement.isValid_rows (s : Statement) (hs : s.IsValid) (width : UInt64) :
    ∀ r ∈ s.rows o width, r.content.IsValid := by
  cases s with
  | simple code =>
    intro r hr
    rw [Statement.rows, List.mem_singleton] at hr
    exact hr ▸ hs
  | headed word condition body =>
    obtain ⟨hheader, _, hbody⟩ := hs
    intro r hr
    rw [Statement.rows, List.mem_cons] at hr
    rcases hr with rfl | hr
    · exact hheader
    · exact body.isValid_rows hbody _ r hr
  | block head semicolon body =>
    obtain ⟨hopening, hbody⟩ := hs
    intro r hr
    rw [Statement.rows, List.mem_cons, List.mem_append, List.mem_singleton] at hr
    rcases hr with rfl | hr | rfl
    · exact hopening
    · exact body.isValid_rows hbody _ _ r hr
    · exact Content.isValid_closing semicolon

theorem Body.isValid_rows (body : Body) (hbody : body.IsValid) (width inner : UInt64) :
    ∀ r ∈ body.rows o width inner, r.content.IsValid := by
  cases body with
  | done =>
    intro r hr
    rw [Body.rows] at hr
    cases hr
  | statement s rest =>
    obtain ⟨hs, hrest⟩ := hbody
    intro r hr
    rw [Body.rows, List.mem_append] at hr
    rcases hr with hr | hr
    · exact s.isValid_rows hs inner r hr
    · exact rest.isValid_rows hrest width inner r hr
  | label l rest =>
    obtain ⟨hlabel, hrest⟩ := hbody
    intro r hr
    rw [Body.rows, List.mem_cons] at hr
    rcases hr with rfl | hr
    · exact hlabel
    · exact rest.isValid_rows hrest width _ r hr

end

theorem CppProgram.isValid_rows {p : CppProgram} (hp : p.IsValid) :
    ∀ r ∈ p.rows o, r.content.IsValid := by
  intro r hr
  obtain ⟨s, hs, hr⟩ := List.mem_flatMap.mp hr
  exact s.isValid_rows (hp s hs) 0 r hr

/-- What stands behind the leading blanks of a row as it is printed is its content. -/
theorem Row.body_text {r : Row} (h : r.content.IsShaped) : (r.text o).body = r.content.text := by
  rw [Row.text, Text.body_append (o.isBlank_makeIndent _)]
  obtain ⟨c, hhead, hc⟩ := (Content.isTight_text h).head
  exact Text.body_of_head hhead hc

/-! ### Rows in place -/

namespace Row

/-- Whether each of some rows stands where the rows above it let expect it. -/
def Fit (o : Options) (above : List Row) : List Row → Prop
  | [] => True
  | r :: rows => r.width = expected o above r.content ∧ Fit o (r :: above) rows

theorem fit_append {o : Options} {above rows rows' : List Row} :
    Fit o above (rows ++ rows') ↔ Fit o above rows ∧ Fit o (rows.reverse ++ above) rows' := by
  induction rows generalizing above with
  | nil => simp [Fit]
  | cons r rows ih => simp [Fit, ih, and_assoc]

/-- What the rows of a statement at a width leave: they are in place, no block is open that was
not open above them, the next line stands where the headers that end with the statement have left
it, and none of these is waiting for a body any more. -/
structure Complete (o : Options) (above : List Row) (width : UInt64) (rows : List Row) : Prop where
  fit : Fit o above rows
  enclosing : ∀ depth, enclosing depth (rows.reverse ++ above) = enclosing depth above
  below : below o (rows.reverse ++ above) = outermost width above
  settled : ∀ x, outermost x (rows.reverse ++ above) = x

/-- What the rows of the body of a block leave. -/
structure Filled (o : Options) (above rows : List Row) : Prop where
  fit : Fit o above rows
  enclosing : ∀ depth, enclosing depth (rows.reverse ++ above) = enclosing depth above
  settled : ∀ x, outermost x (rows.reverse ++ above) = x

end Row

open Row (Fit Complete Filled enclosing outermost below around expected)

theorem complete_simple (code : Text) {above : List Row} {width : UInt64}
    (hbelow : below o above = width) : Complete o above width [⟨width, .simple code⟩] where
  fit := ⟨hbelow.symm, trivial⟩
  enclosing depth := Row.enclosing_cons_inner rfl depth above
  below := rfl
  settled _ := rfl

/-- A header and the statement below it make one statement. -/
theorem complete_headed (word condition : Text) {above rows : List Row} {width : UInt64}
    (hbelow : below o above = width)
    (hbody : Complete o (⟨width, .header word condition⟩ :: above) (width + o.shiftWidth) rows) :
    Complete o above width (⟨width, .header word condition⟩ :: rows) := by
  have hrows : (⟨width, .header word condition⟩ :: rows).reverse ++ above =
      rows.reverse ++ ⟨width, .header word condition⟩ :: above := by simp
  constructor
  · exact ⟨hbelow.symm, hbody.fit⟩
  · intro depth
    rw [hrows, hbody.enclosing]
    exact Row.enclosing_cons_inner rfl depth above
  · rw [hrows, hbody.below]
    rfl
  · intro x
    rw [hrows]
    exact hbody.settled x

/-- The braces around the body of a block make one statement of it.  A class leaves the next line
where it began itself, so no header may end with it. -/
theorem complete_block (head : Text) (semicolon : Bool) {above rows : List Row} {width : UInt64}
    (hbelow : below o above = width) (hclass : semicolon = true → outermost width above = width)
    (hbody : Filled o (⟨width, .opening head⟩ :: above) rows) :
    Complete o above width
      (⟨width, .opening head⟩ :: (rows ++ [⟨width, .closing semicolon⟩])) := by
  have hrows :
      (⟨width, .opening head⟩ :: (rows ++ [⟨width, .closing semicolon⟩])).reverse ++ above =
        ⟨width, .closing semicolon⟩ :: (rows.reverse ++ ⟨width, .opening head⟩ :: above) := by
    simp
  have henclosing : enclosing 0 (rows.reverse ++ ⟨width, .opening head⟩ :: above) =
      ⟨width, .opening head⟩ :: above := hbody.enclosing 0
  constructor
  · refine ⟨hbelow.symm, Row.fit_append.mpr ⟨hbody.fit, ?_, trivial⟩⟩
    simp [expected, around, henclosing]
  · intro depth
    rw [hrows]
    exact hbody.enclosing (depth + 1)
  · rw [hrows]
    cases semicolon with
    | false => simp [below, henclosing]
    | true =>
      rw [hclass rfl]
      exact hbody.settled width
  · intro x
    rw [hrows]
    rfl

theorem filled_nil {above : List Row} (hsettled : ∀ x, outermost x above = x) :
    Filled o above [] where
  fit := trivial
  enclosing _ := rfl
  settled := hsettled

theorem filled_statement {above rows rest : List Row} {width : UInt64}
    (hfirst : Complete o above width rows) (hrest : Filled o (rows.reverse ++ above) rest) :
    Filled o above (rows ++ rest) := by
  have hrows : (rows ++ rest).reverse ++ above = rest.reverse ++ (rows.reverse ++ above) := by
    simp
  constructor
  · exact Row.fit_append.mpr ⟨hfirst.fit, hrest.fit⟩
  · intro depth
    rw [hrows, hrest.enclosing, hfirst.enclosing]
  · intro x
    rw [hrows]
    exact hrest.settled x

theorem filled_label (l : Label) {above rest rows : List Row} {head : Row}
    (henclosing : enclosing 0 above = head :: rest)
    (hrest : Filled o (⟨head.width + l.depth o, .label l⟩ :: above) rows) :
    Filled o above (⟨head.width + l.depth o, .label l⟩ :: rows) := by
  have hrows : (⟨head.width + l.depth o, .label l⟩ :: rows).reverse ++ above =
      rows.reverse ++ ⟨head.width + l.depth o, .label l⟩ :: above := by simp
  constructor
  · exact ⟨by simp [expected, around, henclosing], hrest.fit⟩
  · intro depth
    rw [hrows, hrest.enclosing]
    exact Row.enclosing_cons_inner rfl depth above
  · intro x
    rw [hrows]
    exact hrest.settled x

/-! ### Programs in place -/

mutual

/-- A statement printed where the rows above it let expect it is complete. -/
theorem Statement.complete_rows (s : Statement) (hs : s.IsValid) {above : List Row} {width : UInt64}
    (hbelow : below o above = width) (hclass : s.isClass = true → outermost width above = width) :
    Complete o above width (s.rows o width) := by
  cases s with
  | simple code =>
    rw [Statement.rows]
    exact complete_simple code hbelow
  | headed word condition body =>
    obtain ⟨_, hnoClass, hbody⟩ := hs
    rw [Statement.rows]
    apply complete_headed word condition hbelow
    apply body.complete_rows hbody rfl
    -- a class would have to stand where no header ends with it
    intro hclass
    rw [hnoClass] at hclass
    cases hclass
  | block head semicolon body =>
    obtain ⟨_, hbody⟩ := hs
    rw [Statement.rows]
    have henclosing : enclosing 0 (⟨width, .opening head⟩ :: above) =
        ⟨width, .opening head⟩ :: above := rfl
    apply complete_block head semicolon hbelow hclass
    exact body.filled_rows hbody henclosing rfl fun _ => rfl

/-- The body of a block, printed below its head, is filled. -/
theorem Body.filled_rows (body : Body) (hbody : body.IsValid) {above rest : List Row} {head : Row}
    {inner : UInt64} (henclosing : enclosing 0 above = head :: rest) (hbelow : below o above = inner)
    (hsettled : ∀ x, outermost x above = x) :
    Filled o above (body.rows o head.width inner) := by
  cases body with
  | done =>
    rw [Body.rows]
    exact filled_nil hsettled
  | statement s body =>
    obtain ⟨hs, hbody⟩ := hbody
    have hfirst := s.complete_rows hs hbelow fun _ => hsettled inner
    rw [Body.rows]
    apply filled_statement hfirst
    apply body.filled_rows hbody ((hfirst.enclosing 0).trans henclosing) _ hfirst.settled
    rw [hfirst.below, hsettled]
  | label l body =>
    obtain ⟨_, hbody⟩ := hbody
    rw [Body.rows]
    apply filled_label l henclosing
    exact body.filled_rows hbody ((Row.enclosing_cons_inner rfl 0 above).trans henclosing) rfl
      fun _ => rfl

end

/-- **Every row of a printed program stands where the rows above it let expect it.** -/
theorem CppProgram.fit_rows {p : CppProgram} (hp : p.IsValid) : Fit o [] (p.rows o) := by
  -- each statement leaves to the next one what the start of the program gives the first one
  have hfit : ∀ (p : CppProgram) (above : List Row), p.IsValid → below o above = 0 →
      (∀ x, outermost x above = x) → Fit o above (p.rows o) := by
    intro p
    induction p with
    | nil => exact fun _ _ _ _ => trivial
    | cons s p ih =>
      intro above hp hbelow hsettled
      have hfirst := s.complete_rows (hp s List.mem_cons_self) hbelow fun _ => hsettled 0
      rw [rows, List.flatMap_cons, Row.fit_append]
      refine ⟨hfirst.fit, ih _ (fun s hs => hp s (List.mem_cons_of_mem _ hs)) ?_ hfirst.settled⟩
      rw [hfirst.below, hsettled]
  exact hfit p [] hp rfl fun _ => rfl

end SourceEditor
