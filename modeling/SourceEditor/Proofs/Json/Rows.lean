/-
  SourceEditor/Proofs/Json/Rows.lean
  ==================================
  **The lines that printed JSON is made of.**  A line holds a scalar or an empty container, or it
  opens or closes a container.  Whatever names and strings stand on it, its code begins and ends as
  its form says, and the only brackets in it are those of the form.
-/
import SourceEditor.Proofs.Json.Pieces

namespace SourceEditor

namespace Json

/-! ### The forms -/

/-- What stands between the quotation marks of a string. -/
structure StringBody where
  text : Text
  valid : isStringBody text = true

/-- The characters that a number begins with. -/
def numberStarts : Text := "-0123456789".toList

/-- The characters of numbers. -/
def numberChars : Text := "0123456789+-.eE".toList

/-- Whether a text begins as a number and holds characters of numbers only. -/
def isNumber (t : Text) : Bool := t.head?.any numberStarts.contains && t.all numberChars.contains

structure Number where
  text : Text
  valid : isNumber text = true

/-- A value without parts. -/
inductive Scalar where
  | null
  | bool (b : Bool)
  | number (n : Number)
  | string (s : StringBody)

inductive Container where
  | array
  | object
  deriving DecidableEq

namespace Container

def opening : Container → Char
  | .array => '['
  | .object => '{'

def closing : Container → Char
  | .array => ']'
  | .object => '}'

end Container

/-- What stands on a line, behind its leading blanks.  A member of an object has its name in front,
and what is not the last of its container has a comma behind it. -/
inductive Content where
  | scalar (name : Option StringBody) (s : Scalar) (comma : Bool)
  /-- A container without elements or members. -/
  | empty (name : Option StringBody) (kind : Container) (comma : Bool)
  | opening (name : Option StringBody) (kind : Container)
  | closing (kind : Container) (comma : Bool)

/-- A line as it is printed: how wide its indentation is, and what stands behind it. -/
structure Row where
  width : UInt64
  content : Content

def Scalar.piece : Scalar → Piece
  | .null => .code "null".toList
  | .bool true => .code "true".toList
  | .bool false => .code "false".toList
  | .number n => .code n.text
  | .string s => .string s.text

/-- A name in front of its value. -/
def namePieces : Option StringBody → List Piece
  | none => []
  | some name => [.string name.text, .code [':', ' ']]

def commaText (comma : Bool) : Text := if comma then [','] else []

namespace Content

def pieces : Content → List Piece
  | .scalar name s comma => namePieces name ++ [s.piece, .code (commaText comma)]
  | .empty name kind comma =>
    namePieces name ++ [.code (kind.opening :: kind.closing :: commaText comma)]
  | .opening name kind => namePieces name ++ [.code [kind.opening]]
  | .closing kind comma => [.code (kind.closing :: commaText comma)]

def text (c : Content) : Text := textOf c.pieces

/-- The characters outside the strings. -/
def code (c : Content) : Text := codeOf c.pieces

/-- The brackets of the form. -/
def brackets : Content → List Char
  | .scalar _ _ _ => []
  | .empty _ kind _ => [kind.opening, kind.closing]
  | .opening _ kind => [kind.opening]
  | .closing kind _ => [kind.closing]

end Content

/-! ### Characters of scalars -/

/-- The brackets of all three kinds. -/
def isBracket (c : Char) : Bool := "{}[]()".toList.contains c

/-- The characters that `null`, `true` and numbers begin with. -/
def scalarStarts : Text := 'n' :: 't' :: numberStarts

/-- The characters of scalars that are no strings. -/
def scalarChars : Text := "0123456789+-.eEnultrfas".toList

theorem solid_of_mem_scalarChars {c : Char} (hc : c ∈ scalarChars) :
    isWhitespace c = false ∧ isBracket c = false ∧ c ≠ '"' := by
  have hall : scalarChars.all (fun c => !isWhitespace c && !isBracket c && c != '"') = true := by
    decide
  simpa [and_assoc] using List.all_eq_true.mp hall c hc

theorem Number.exists_head? (n : Number) : ∃ c ∈ numberStarts, n.text.head? = some c := by
  have hvalid := (Bool.and_eq_true_iff.mp n.valid).1
  rcases hhead : n.text.head? with _ | c
  · rw [hhead] at hvalid
    cases hvalid
  · rw [hhead] at hvalid
    exact ⟨c, by simpa using hvalid, rfl⟩

namespace Scalar

/-- The characters outside quotation marks. -/
def code (s : Scalar) : Text := codeOf [s.piece]

theorem code_subset (s : Scalar) : s.code ⊆ scalarChars := by
  have hnumber : numberChars ⊆ scalarChars := by decide
  cases s with
  | null => decide
  | bool b => cases b <;> decide
  | number n =>
    intro c hc
    have hvalid := (Bool.and_eq_true_iff.mp n.valid).2
    rw [List.all_eq_true] at hvalid
    have hmem : c ∈ n.text := by simpa [code, piece] using hc
    exact hnumber (by simpa using hvalid c hmem)
  | string s =>
    intro c hc
    simp [code, piece] at hc

theorem isValid_piece (s : Scalar) : s.piece.IsValid := by
  cases hs : s.piece with
  | code t =>
    intro hmem
    have hcode : '"' ∈ s.code := by simpa [code, hs] using hmem
    exact (solid_of_mem_scalarChars (s.code_subset hcode)).2.2 rfl
  | string body =>
    cases s with
    | string s =>
      obtain rfl : s.text = body := Piece.string.inj hs
      exact s.valid
    | bool b => cases b <;> cases hs
    | _ => cases hs

theorem head?_code (s : Scalar) :
    s = .bool false ∨ ∀ c ∈ s.code.head?, c ∈ scalarStarts := by
  have hnumber : numberStarts ⊆ scalarStarts := by decide
  cases s with
  | null =>
    right
    intro c hc
    obtain rfl := Option.some.inj hc
    decide
  | bool b =>
    cases b with
    | true =>
      right
      intro c hc
      obtain rfl := Option.some.inj hc
      decide
    | false => exact .inl rfl
  | number n =>
    obtain ⟨c, hc, hhead⟩ := n.exists_head?
    have hcode : (number n).code = n.text := by simp [code, piece]
    right
    intro d hd
    rw [hcode, hhead] at hd
    obtain rfl := Option.some.inj hd
    exact hnumber hc
  | string s => exact .inr (by simp [code, piece])

end Scalar

/-! ### The code of a line -/

/-- The code of a name in front of a value. -/
def nameCode (named : Bool) : Text := if named then [':', ' '] else []

theorem codeOf_namePieces (name : Option StringBody) :
    codeOf (namePieces name) = nameCode name.isSome := by
  cases name <;> simp [namePieces, nameCode]

theorem isValid_namePieces (name : Option StringBody) : ∀ p ∈ namePieces name, p.IsValid := by
  cases name with
  | none => simp [namePieces]
  | some name =>
    intro p hp
    rcases List.mem_pair.mp hp with rfl | rfl
    · exact name.valid
    · exact (by decide : '"' ∉ [':', ' '])

namespace Content

theorem code_scalar (name : Option StringBody) (s : Scalar) (comma : Bool) :
    (scalar name s comma).code = nameCode name.isSome ++ (s.code ++ commaText comma) := by
  have hpieces : (scalar name s comma).pieces =
      namePieces name ++ ([s.piece] ++ [.code (commaText comma)]) := rfl
  rw [code, hpieces, codeOf_append, codeOf_append, codeOf_namePieces, codeOf_code, codeOf_nil,
    List.append_nil]
  rfl

theorem code_empty (name : Option StringBody) (kind : Container) (comma : Bool) :
    (empty name kind comma).code =
      nameCode name.isSome ++ kind.opening :: kind.closing :: commaText comma := by
  simp [code, pieces, codeOf_namePieces]

theorem code_opening (name : Option StringBody) (kind : Container) :
    (opening name kind).code = nameCode name.isSome ++ [kind.opening] := by
  simp [code, pieces, codeOf_namePieces]

theorem code_closing (kind : Container) (comma : Bool) :
    (closing kind comma).code = kind.closing :: commaText comma := by
  simp [code, pieces]

theorem isValid_pieces (c : Content) : ∀ p ∈ c.pieces, p.IsValid := by
  have hcomma : ∀ comma, '"' ∉ commaText comma := by decide
  cases c with
  | scalar name s comma =>
    intro p hp
    rcases List.mem_append.mp hp with hp | hp
    · exact isValid_namePieces name p hp
    · rcases List.mem_pair.mp hp with rfl | rfl
      · exact s.isValid_piece
      · exact hcomma comma
  | empty name kind comma =>
    intro p hp
    rcases List.mem_append.mp hp with hp | hp
    · exact isValid_namePieces name p hp
    · obtain rfl := List.mem_singleton.mp hp
      cases kind <;> simpa [Piece.IsValid, Container.opening, Container.closing] using hcomma comma
  | opening name kind =>
    intro p hp
    rcases List.mem_append.mp hp with hp | hp
    · exact isValid_namePieces name p hp
    · obtain rfl := List.mem_singleton.mp hp
      cases kind <;> simp [Piece.IsValid, Container.opening]
  | closing kind comma =>
    intro p hp
    obtain rfl := List.mem_singleton.mp hp
    cases kind <;> simpa [Piece.IsValid, Container.closing] using hcomma comma

/-- The brackets in the code of a line are those of its form. -/
theorem filter_isBracket_code (c : Content) : c.code.filter isBracket = c.brackets := by
  have hname : ∀ named, (nameCode named).filter isBracket = [] := by decide
  have hcomma : ∀ comma, (commaText comma).filter isBracket = [] := by decide
  cases c with
  | scalar name s comma =>
    have hscalar : s.code.filter isBracket = [] := by
      rw [List.filter_eq_nil_iff]
      intro x hx
      simpa using (solid_of_mem_scalarChars (s.code_subset hx)).2.1
    rw [code_scalar, List.filter_append, List.filter_append, hname, hscalar, hcomma]
    rfl
  | empty name kind comma =>
    rw [code_empty, List.filter_append, hname]
    cases kind <;> simp [isBracket, Container.opening, Container.closing, hcomma, brackets]
  | opening name kind =>
    rw [code_opening, List.filter_append, hname]
    cases kind <;> rfl
  | closing kind comma =>
    rw [code_closing]
    cases kind <;> simp [isBracket, Container.closing, hcomma, brackets]

/-- The characters that code begins with, unless it is `false` or begins with a closing bracket. -/
def codeStarts : Text := [':', ',', '{', '['] ++ scalarStarts

theorem head?_code (c : Content) :
    (∃ kind comma, c = .closing kind comma) ∨ (∃ comma, c = .scalar none (.bool false) comma) ∨
      ∀ x ∈ c.code.head?, x ∈ codeStarts := by
  cases c with
  | scalar name s comma =>
    rw [code_scalar]
    cases name with
    | some name =>
      right; right
      intro x hx
      obtain rfl := Option.some.inj hx
      decide
    | none =>
      rcases s.head?_code with rfl | hs
      · exact .inr (.inl ⟨comma, rfl⟩)
      · right; right
        intro x hx
        have hx : x ∈ (s.code ++ commaText comma).head? := hx
        rw [List.head?_append] at hx
        cases hhead : s.code.head? with
        | none =>
          rw [hhead] at hx
          cases comma with
          | false => cases hx
          | true =>
            obtain rfl := Option.some.inj hx
            decide
        | some y =>
          rw [hhead] at hx
          have hstart : scalarStarts ⊆ codeStarts := by decide
          obtain rfl := Option.some.inj hx
          exact hstart (hs y hhead)
  | empty name kind comma =>
    right; right
    rw [code_empty]
    intro x hx
    cases name <;> cases kind <;> obtain rfl := Option.some.inj hx <;> decide
  | opening name kind =>
    right; right
    rw [code_opening]
    intro x hx
    cases name <;> cases kind <;> obtain rfl := Option.some.inj hx <;> decide
  | closing kind comma => exact .inl ⟨kind, comma, rfl⟩

theorem isWhitespace_head?_code {c : Content} {x : Char} (h : c.code.head? = some x) :
    isWhitespace x = false := by
  have hstart : codeStarts.all (fun x => !isWhitespace x) = true := by decide
  rcases c.head?_code with ⟨kind, comma, rfl⟩ | ⟨comma, rfl⟩ | hc
  · rw [code_closing] at h
    obtain rfl := Option.some.inj h
    cases kind <;> rfl
  · obtain rfl := Option.some.inj h
    rfl
  · simpa using List.all_eq_true.mp hstart x (hc x h)

theorem head?_code_eq_brace_iff {c : Content} :
    c.code.head? = some '}' ↔ ∃ comma, c = .closing .object comma := by
  constructor
  · intro h
    rcases c.head?_code with ⟨kind, comma, rfl⟩ | ⟨comma, rfl⟩ | hc
    · cases kind with
      | array =>
        rw [code_closing] at h
        cases h
      | object => exact ⟨comma, rfl⟩
    · cases h
    · exact absurd (hc '}' h) (by decide)
  · rintro ⟨comma, rfl⟩
    rw [code_closing]
    rfl

/-- The bracket that a line ends with. -/
def final : Content → Option Char
  | .opening _ kind => some kind.opening
  | .empty _ kind false | .closing kind false => some kind.closing
  | _ => none

theorem last_code (c : Content) :
    (c.code.reverse.find? fun x => !isWhitespace x).filter isBracket = c.final := by
  cases c with
  | scalar name s comma =>
    have hnone : ∀ x ∈ (scalar name s comma).code, isBracket x = false := by
      have hfilter := filter_isBracket_code (scalar name s comma)
      intro x hx
      simpa using List.filter_eq_nil_iff.mp hfilter x hx
    change Option.filter isBracket _ = none
    rw [Option.filter_eq_none_iff]
    intro x hx
    have hmem := List.mem_reverse.mp (List.mem_of_find?_eq_some hx)
    simp [hnone x hmem]
  | empty name kind comma =>
    rw [code_empty, List.reverse_append]
    cases kind <;> cases comma <;> rfl
  | opening name kind =>
    rw [code_opening, List.reverse_append]
    cases kind <;> rfl
  | closing kind comma =>
    rw [code_closing]
    cases kind <;> cases comma <;> rfl

theorem final_eq_opening_iff {c : Content} :
    c.final = some '{' ↔ ∃ name, c = .opening name .object := by
  cases c with
  | scalar name s comma => simp [final]
  | empty name kind comma => cases kind <;> cases comma <;> simp [final, Container.closing]
  | opening name kind => cases kind <;> simp [final, Container.opening]
  | closing kind comma => cases kind <;> cases comma <;> simp [final, Container.closing]

theorem final_eq_closing_iff {c : Content} :
    c.final = some '}' ↔
      c = .closing .object false ∨ ∃ name, c = .empty name .object false := by
  cases c with
  | scalar name s comma => simp [final]
  | empty name kind comma => cases kind <;> cases comma <;> simp [final, Container.closing]
  | opening name kind => cases kind <;> simp [final, Container.opening]
  | closing kind comma => cases kind <;> cases comma <;> simp [final, Container.closing]

theorem exists_head?_text (c : Content) :
    ∃ x, c.text.head? = some x ∧ isWhitespace x = false ∧ x ≠ '#' := by
  have hname : ∀ (name : StringBody) (ps : List Piece),
      (textOf (namePieces (some name) ++ ps)).head? = some '"' := fun _ _ => rfl
  cases c with
  | scalar name s comma =>
    cases name with
    | some name => exact ⟨'"', hname name _, by decide, by decide⟩
    | none =>
      cases s with
      | null => exact ⟨'n', rfl, by decide, by decide⟩
      | bool b => cases b <;> exact ⟨_, rfl, by decide, by decide⟩
      | number n =>
        obtain ⟨x, hx, hhead⟩ := n.exists_head?
        have hsolid : numberStarts.all (fun x => !isWhitespace x && x != '#') = true := by decide
        refine ⟨x, ?_, by simpa using List.all_eq_true.mp hsolid x hx⟩
        change (textOf [.code n.text, .code (commaText comma)]).head? = some x
        simp [textOf, Piece.text, List.head?_append, hhead]
      | string s => exact ⟨'"', rfl, by decide, by decide⟩
  | empty name kind comma =>
    cases name with
    | some name => exact ⟨'"', hname name _, by decide, by decide⟩
    | none => cases kind <;> exact ⟨_, rfl, by decide, by decide⟩
  | opening name kind =>
    cases name with
    | some name => exact ⟨'"', hname name _, by decide, by decide⟩
    | none => cases kind <;> exact ⟨_, rfl, by decide, by decide⟩
  | closing kind comma => cases kind <;> exact ⟨_, rfl, by decide, by decide⟩

end Content

end Json

end SourceEditor
