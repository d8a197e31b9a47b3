/-
  SourceEditor/Proofs/Json/Printed.lean
  =====================================
  **Printed JSON and where its lines belong.**  A value is printed with one element or member on a
  line, one level deeper for each container around it.  The rows that the indentation wants are
  those that are printed, with one exception: the end of an array stands one level deeper, with the
  elements.

  What is proved of a value is what the lines behind it rely on: its rows are where they should be,
  a search from below passes over it, and it leaves the next line the width that it had itself.
-/
import SourceEditor.Proofs.Json.Expected

namespace SourceEditor.Json

/-! ### Values -/

mutual

/-- A JSON value. -/
inductive Value where
  | scalar (s : Scalar)
  | container (kind : Container) (items : Items kind)

/-- What a container holds: an array its elements, an object its members. -/
inductive Items : Container → Type where
  | nil {kind : Container} : Items kind
  | element (v : Value) (rest : Items .array) : Items .array
  | member (name : StringBody) (v : Value) (rest : Items .object) : Items .object

end

def Items.isEmpty {kind : Container} : Items kind → Bool
  | .nil => true
  | _ => false

mutual

/-- The rows of a value at a width, with its name in front and a comma behind it. -/
def Value.rows (o : Options) (width : UInt64) (name : Option StringBody) (comma : Bool) :
    Value → List Row
  | .scalar s => [⟨width, .scalar name s comma⟩]
  | .container kind items =>
    if items.isEmpty then [⟨width, .empty name kind comma⟩]
    else
      ⟨width, .opening name kind⟩ ::
        (items.rows o (width + o.shiftWidth) ++ [⟨width, .closing kind comma⟩])

def Items.rows (o : Options) (width : UInt64) {kind : Container} : Items kind → List Row
  | .nil => []
  | .element v rest => v.rows o width none (!rest.isEmpty) ++ rest.rows o width
  | .member name v rest => v.rows o width (some name) (!rest.isEmpty) ++ rest.rows o width

end

/-- The text of a row. -/
def Row.text (o : Options) (r : Row) : Text := o.makeIndent r.width ++ r.content.text

/-- The row where the indentation wants it: the end of an array stands with the elements. -/
def Row.settled (o : Options) (r : Row) : Row :=
  match r.content with
  | .closing .array _ => { r with width := r.width + o.shiftWidth }
  | _ => r

@[simp] theorem Row.content_settled (o : Options) (r : Row) :
    (r.settled o).content = r.content := by
  unfold settled
  split <;> rfl

namespace Value

/-- The lines of a value as it is printed. -/
def lines (o : Options) (v : Value) : List Text := (v.rows o 0 none false).map (Row.text o)

def settledRows (o : Options) (v : Value) : List Row :=
  (v.rows o 0 none false).map (Row.settled o)

/-- The lines of a value as the indentation wants them. -/
def settledLines (o : Options) (v : Value) : List Text := (v.settledRows o).map (Row.text o)

end Value

mutual

/-- Whether an array with elements occurs in a value. -/
def Value.hasElements : Value → Bool
  | .scalar _ => false
  | .container _ items => items.hasElements

def Items.hasElements {kind : Container} : Items kind → Bool
  | .nil => false
  | .element _ _ => true
  | .member _ v rest => v.hasElements || rest.hasElements

end

variable {o : Options}

theorem Row.body_text (o : Options) (r : Row) : (r.text o).body = r.content.text := by
  obtain ⟨c, hhead, hwhite, _⟩ := r.content.exists_head?_text
  rw [text, Text.body_append (o.isBlank_makeIndent _), Text.body_of_head hhead hwhite]

mutual

/-- Where no array has elements, the rows stay where they are printed. -/
theorem Value.map_settled_rows (v : Value) (hv : v.hasElements = false) (width : UInt64)
    (name : Option StringBody) (comma : Bool) :
    (v.rows o width name comma).map (Row.settled o) = v.rows o width name comma := by
  cases v with
  | scalar s =>
    rw [Value.rows]
    rfl
  | container kind items =>
    have hitems := items.map_settled_rows hv (width + o.shiftWidth)
    rw [Value.rows]
    split
    · rfl
    · rename_i hne
      rw [List.map_cons, List.map_append, hitems]
      cases kind with
      | object => rfl
      | array =>
        cases items with
        | nil => exact absurd rfl hne
        | element v rest =>
          rw [Value.hasElements, Items.hasElements] at hv
          cases hv

theorem Items.map_settled_rows {kind : Container} (items : Items kind)
    (hitems : items.hasElements = false) (width : UInt64) :
    (items.rows o width).map (Row.settled o) = items.rows o width := by
  cases items with
  | nil =>
    rw [Items.rows]
    rfl
  | element v rest =>
    rw [Items.hasElements] at hitems
    cases hitems
  | member name v rest =>
    rw [Items.hasElements, Bool.or_eq_false_iff] at hitems
    rw [Items.rows, List.map_append, v.map_settled_rows hitems.1, rest.map_settled_rows hitems.2]

end

mutual

theorem Value.exists_closing (v : Value) (hv : v.hasElements = true) (width : UInt64)
    (name : Option StringBody) (comma : Bool) :
    ∃ r ∈ v.rows o width name comma, ∃ comma, r.content = .closing .array comma := by
  cases v with
  | scalar s => cases hv
  | container kind items =>
    have hne : ¬items.isEmpty = true := by
      intro hempty
      cases items with
      | nil => cases hv
      | element v rest => cases hempty
      | member name v rest => cases hempty
    rw [Value.rows, if_neg hne]
    rcases items.exists_closing hv (width + o.shiftWidth) with rfl | ⟨r, hr, hclosing⟩
    · refine ⟨⟨width, .closing .array comma⟩, ?_, comma, rfl⟩
      exact List.mem_cons_of_mem _ (List.mem_append_right _ List.mem_cons_self)
    · exact ⟨r, List.mem_cons_of_mem _ (List.mem_append_left _ hr), hclosing⟩

theorem Items.exists_closing {kind : Container} (items : Items kind)
    (hitems : items.hasElements = true) (width : UInt64) :
    kind = .array ∨ ∃ r ∈ items.rows o width, ∃ comma, r.content = .closing .array comma := by
  cases items with
  | nil => cases hitems
  | element v rest => exact .inl rfl
  | member name v rest =>
    right
    rw [Items.hasElements, Bool.or_eq_true] at hitems
    rw [Items.rows]
    rcases hitems with hv | hrest
    · obtain ⟨r, hr, hclosing⟩ := v.exists_closing hv width (some name) (!rest.isEmpty)
      exact ⟨r, List.mem_append_left _ hr, hclosing⟩
    · rcases rest.exists_closing hrest width with hkind | ⟨r, hr, hclosing⟩
      · cases hkind
      · exact ⟨r, List.mem_append_right _ hr, hclosing⟩

end

theorem Value.settledLines_eq_lines (v : Value) (hv : v.hasElements = false) :
    v.settledLines o = v.lines o := by
  rw [settledLines, settledRows, v.map_settled_rows hv, lines]

/-- The lines are printed where the indentation wants them exactly if no array has elements. -/
theorem Value.settledLines_eq_lines_iff (v : Value) (hshift : 0 < o.shiftWidth) :
    v.settledLines o = v.lines o ↔ v.hasElements = false := by
  constructor
  · intro hsame
    rw [← Bool.not_eq_true]
    intro hv
    obtain ⟨⟨width, c⟩, hr, comma, hclosing⟩ := v.exists_closing (o := o) hv 0 none false
    obtain rfl : c = .closing .array comma := hclosing
    rw [settledLines, settledRows, lines, List.map_map, List.map_inj_left] at hsame
    have hindent := congrArg o.indentWidth (List.append_cancel_right (hsame _ hr))
    simp only [Row.settled, Options.indentWidth_makeIndent] at hindent
    have hzero : o.shiftWidth = 0 := by simpa using hindent
    rw [hzero] at hshift
    exact absurd hshift (by decide)
  · exact v.settledLines_eq_lines

/-! ### Rows in place -/

/-- Whether each of some rows stands where the rows above it let expect it. -/
def Fit (o : Options) (above : List Row) : List Row → Prop
  | [] => True
  | r :: rows => r.width = expected o above r.content ∧ Fit o (r :: above) rows

theorem fit_append {above rows rows' : List Row} :
    Fit o above (rows ++ rows') ↔ Fit o above rows ∧ Fit o (rows.reverse ++ above) rows' := by
  induction rows generalizing above with
  | nil => simp [Fit]
  | cons r rows ih => simp [Fit, ih, and_assoc]

/-- Whether a search passes over complete values: it does, unless it looks for the list that is open
and so stops at the first brace outside brackets. -/
def Passes (br : Brackets) (depth : Nat) : Prop :=
  br = .braces ∨ br = .parens ∨ (br = .parensInBlock ∧ depth ≠ 0)

/-- To such a search the brackets of a container cancel each other. -/
theorem Passes.exists_depth {br : Brackets} {depth : Nat} (h : Passes br depth)
    (kind : Container) :
    ∃ d, Passes br d ∧
      (∀ (a : Nat × Row) cs, br.find depth ((a, kind.closing) :: cs) = br.find d cs) ∧
      ∀ (a : Nat × Row) cs, br.find d ((a, kind.opening) :: cs) = br.find depth cs := by
  have hother : ∀ (br : Brackets) (c : Char), c ∉ br.chars →
      ∀ (a : Nat × Row) cs, br.find depth ((a, c) :: cs) = br.find depth cs :=
    fun br c hc a cs => Brackets.find_cons_of_not_mem hc depth a cs
  rcases h with rfl | rfl | ⟨rfl, hdepth⟩
  · cases kind with
    | array => exact ⟨depth, .inl rfl, hother _ _ (by decide), hother _ _ (by decide)⟩
    | object => exact ⟨depth + 1, .inl rfl, fun _ _ => rfl, fun _ _ => rfl⟩
  · cases kind with
    | array => exact ⟨depth + 1, .inr (.inl rfl), fun _ _ => rfl, fun _ _ => rfl⟩
    | object => exact ⟨depth, .inr (.inl rfl), hother _ _ (by decide), hother _ _ (by decide)⟩
  · obtain ⟨d, rfl⟩ := Nat.exists_eq_succ_of_ne_zero hdepth
    cases kind with
    | array =>
      exact ⟨d + 2, .inr (.inr ⟨rfl, Nat.succ_ne_zero _⟩), fun _ _ => rfl, fun _ _ => rfl⟩
    | object => exact ⟨d + 1, .inr (.inr ⟨rfl, hdepth⟩), fun _ _ => rfl, fun _ _ => rfl⟩

/-- Whether a line below some rows stands at a width, and inside the list that is open, if there
is one. -/
structure Stands (o : Options) (above : List Row) (width : UInt64) : Prop where
  below : below o above = width
  list : ∀ x ∈ listWidth o above, x = width

/-- What the rows of a value or of several ones leave: they are in place, searches from below pass
over them, and the next line stands at their width. -/
structure Complete (o : Options) (above : List Row) (width : UInt64) (rows : List Row) : Prop where
  fit : Fit o above rows
  passed : ∀ br depth, Passes br depth →
    br.find depth (bracketsOf (rows.reverse ++ above)) = br.find depth (bracketsOf above)
  leaves : Stands o (rows.reverse ++ above) width

/-- Below a row that opens no object the next line stands at the width that the row leaves, unless
it is in a list. -/
theorem stands_cons {above : List Row} {r : Row} {width : UInt64} (hr : r.content.final ≠ some '{')
    (hlist : ∀ x ∈ listWidth o (r :: above), x = width) (hafter : after r above = width) :
    Stands o (r :: above) width := by
  refine ⟨?_, hlist⟩
  rw [below_cons hr]
  rcases hwidth : listWidth o (r :: above) with _ | x
  · exact hafter
  · exact hlist x hwidth

theorem complete_nil {above : List Row} {width : UInt64} (habove : Stands o above width) :
    Complete o above width [] where
  fit := trivial
  passed _ _ _ := rfl
  leaves := habove

theorem complete_append {above rows rows' : List Row} {width : UInt64}
    (h : Complete o above width rows) (h' : Complete o (rows.reverse ++ above) width rows') :
    Complete o above width (rows ++ rows') := by
  have hrows : (rows ++ rows').reverse ++ above = rows'.reverse ++ (rows.reverse ++ above) := by
    simp
  constructor
  · exact fit_append.mpr ⟨h.fit, h'.fit⟩
  · intro br depth hbr
    rw [hrows, h'.passed br depth hbr, h.passed br depth hbr]
  · rw [hrows]
    exact h'.leaves

theorem complete_scalar (name : Option StringBody) (s : Scalar) (comma : Bool) {above : List Row}
    {width : UInt64} (habove : Stands o above width) :
    Complete o above width [⟨width, .scalar name s comma⟩] where
  fit := ⟨habove.below.symm, trivial⟩
  passed _ _ _ := rfl
  leaves := stands_cons (by simp [Content.final]) habove.list rfl

theorem complete_empty (name : Option StringBody) (kind : Container) (comma : Bool)
    {above : List Row} {width : UInt64} (habove : Stands o above width) :
    Complete o above width [⟨width, .empty name kind comma⟩] where
  fit := ⟨habove.below.symm, trivial⟩
  passed := by
    intro br depth hbr
    obtain ⟨d, _, hcloses, hopens⟩ := hbr.exists_depth kind
    exact (hcloses _ _).trans (hopens _ _)
  leaves := by
    apply stands_cons
    · cases kind <;> cases comma <;> simp [Content.final, Container.closing]
    · cases kind with
      | array => exact habove.list
      | object =>
        -- the search for a list stops at the brace
        intro x hx
        cases hx
    · rfl

/-- Inside a container a line stands one level deeper. -/
theorem stands_opening (name : Option StringBody) (kind : Container) (above : List Row)
    (width : UInt64) : Stands o (⟨width, .opening name kind⟩ :: above) (width + o.shiftWidth) := by
  cases kind with
  | array =>
    refine ⟨rfl, ?_⟩
    intro x hx
    exact (Option.some.inj hx).symm
  | object =>
    refine ⟨rfl, ?_⟩
    intro x hx
    cases hx

/-- The search that finds what opens a container. -/
def Container.search : Container → Brackets
  | .array => .parens
  | .object => .braces

section Containers

variable {name : Option StringBody} {kind : Container} {comma : Bool} {above rows : List Row}
  {width inside : UInt64} {closing : Row}

/-- Behind what is in a container the search finds the row that opens it. -/
theorem Complete.openerWidth (h : Complete o (⟨width, .opening name kind⟩ :: above) inside rows) :
    openerWidth kind.search (rows.reverse ++ ⟨width, .opening name kind⟩ :: above) =
      some width := by
  have hpasses : Passes kind.search 0 := by
    cases kind with
    | array => exact .inr (.inl rfl)
    | object => exact .inl rfl
  have hfind : kind.search.find 0 (bracketsOf (⟨width, .opening name kind⟩ :: above)) =
      some (above.length + 1, ⟨width, .opening name kind⟩) := by
    cases kind <;> rfl
  rw [Json.openerWidth, h.passed _ 0 hpasses, hfind]
  rfl

/-- Searches from below pass over a container, as they do over what is in it. -/
theorem Complete.find_closing (h : Complete o (⟨width, .opening name kind⟩ :: above) inside rows)
    (hclosing : closing.content = .closing kind comma) {br : Brackets} {depth : Nat}
    (hbr : Passes br depth) :
    br.find depth
        (bracketsOf (closing :: (rows.reverse ++ ⟨width, .opening name kind⟩ :: above))) =
      br.find depth (bracketsOf above) := by
  obtain ⟨d, hd, hcloses, hopens⟩ := hbr.exists_depth kind
  rw [bracketsOf_closing hclosing, hcloses, h.passed br d hd]
  exact hopens _ _

/-- Behind an array the list is open that is open in front of it, and behind an object none. -/
theorem Complete.listWidth_closing
    (h : Complete o (⟨width, .opening name kind⟩ :: above) inside rows)
    (hclosing : closing.content = .closing kind comma) :
    listWidth o (closing :: (rows.reverse ++ ⟨width, .opening name kind⟩ :: above)) =
      if kind = .array then listWidth o above else none := by
  cases kind with
  | array =>
    -- behind the closing bracket the search is inside a pair, where braces do not stop it
    have hpassed := h.passed .parensInBlock 1 (.inr (.inr ⟨rfl, Nat.one_ne_zero⟩))
    have hfind : Brackets.parensInBlock.find 0
        (bracketsOf (closing :: (rows.reverse ++ ⟨width, .opening name .array⟩ :: above))) =
          Brackets.parensInBlock.find 0 (bracketsOf above) := by
      rw [bracketsOf_closing hclosing]
      exact hpassed
    rw [listWidth, Json.openerWidth, hfind]
    rfl
  | object =>
    rw [listWidth, Json.openerWidth, bracketsOf_closing hclosing]
    rfl

/-- Behind a container a line stands as it does in front of it. -/
theorem stands_closing (habove : Stands o above width)
    (hrows : Complete o (⟨width, .opening name kind⟩ :: above) inside rows) :
    Stands o (Row.settled o ⟨width, .closing kind comma⟩ ::
      (rows.reverse ++ ⟨width, .opening name kind⟩ :: above)) width := by
  have hopener := hrows.openerWidth
  have hcontent : (Row.settled o ⟨width, .closing kind comma⟩).content = .closing kind comma :=
    Row.content_settled o _
  apply stands_cons
  · rw [hcontent, ne_eq, Content.final_eq_opening_iff]
    simp
  · rw [hrows.listWidth_closing hcontent]
    split
    · exact habove.list
    · simp
  · rw [after, hcontent]
    cases kind with
    | array => exact congrArg (Option.getD · _) hopener
    | object =>
      cases comma with
      | true => rfl
      | false => exact congrArg (Option.getD · _) hopener

/-- The brackets around complete rows make one complete value of them. -/
theorem complete_container (habove : Stands o above width)
    (hrows : Complete o (⟨width, .opening name kind⟩ :: above) (width + o.shiftWidth) rows) :
    Complete o above width (⟨width, .opening name kind⟩ ::
      (rows ++ [Row.settled o ⟨width, .closing kind comma⟩])) := by
  have hcontent : (Row.settled o ⟨width, .closing kind comma⟩).content = .closing kind comma :=
    Row.content_settled o _
  have hreverse : (⟨width, .opening name kind⟩ ::
        (rows ++ [Row.settled o ⟨width, .closing kind comma⟩])).reverse ++ above =
      Row.settled o ⟨width, .closing kind comma⟩ ::
        (rows.reverse ++ ⟨width, .opening name kind⟩ :: above) := by
    simp
  constructor
  · refine ⟨habove.below.symm, fit_append.mpr ⟨hrows.fit, ?_, trivial⟩⟩
    cases kind with
    | array => exact hrows.leaves.below.symm
    | object => exact (congrArg (Option.getD · _) hrows.openerWidth).symm
  · intro br depth hbr
    rw [hreverse]
    exact hrows.find_closing hcontent hbr
  · rw [hreverse]
    exact stands_closing habove hrows

end Containers

/-! ### Values in place -/

mutual

theorem Value.complete_rows (v : Value) (name : Option StringBody) (comma : Bool)
    {above : List Row} {width : UInt64} (habove : Stands o above width) :
    Complete o above width ((v.rows o width name comma).map (Row.settled o)) := by
  cases v with
  | scalar s =>
    rw [Value.rows]
    exact complete_scalar name s comma habove
  | container kind items =>
    rw [Value.rows]
    split
    · exact complete_empty name kind comma habove
    · rw [List.map_cons, List.map_append]
      apply complete_container habove
      exact items.complete_rows (stands_opening name kind above width)

theorem Items.complete_rows {kind : Container} (items : Items kind) {above : List Row}
    {width : UInt64} (habove : Stands o above width) :
    Complete o above width ((items.rows o width).map (Row.settled o)) := by
  cases items with
  | nil =>
    rw [Items.rows]
    exact complete_nil habove
  | element v rest =>
    have hfirst := v.complete_rows none (!rest.isEmpty) habove
    rw [Items.rows, List.map_append]
    exact complete_append hfirst (rest.complete_rows hfirst.leaves)
  | member name v rest =>
    have hfirst := v.complete_rows (some name) (!rest.isEmpty) habove
    rw [Items.rows, List.map_append]
    exact complete_append hfirst (rest.complete_rows hfirst.leaves)

end

/-- **Every row of a value stands where the rows above it let expect it, once the ends of its arrays
stand with their elements.** -/
theorem Value.fit_settledRows (v : Value) : Fit o [] (v.settledRows o) := by
  have hnone : Stands o [] 0 := ⟨rfl, fun x hx => by cases hx⟩
  exact (v.complete_rows none false hnone).fit

end SourceEditor.Json
