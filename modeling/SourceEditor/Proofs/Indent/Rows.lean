/-
  SourceEditor/Proofs/Indent/Rows.lean
  ====================================
  **The lines that a program is made of.**  A few forms of line are enough for a program with
  blocks, headers whose body has no braces, labels and access specifiers.  Of each form it is known
  how it begins and ends, which of its characters are braces, and whether it is a label; that is all
  that the indentation asks of it.
-/
import Mathlib.Data.List.Infix
import SourceEditor.Indent.Braces
import SourceEditor.Proofs.Indent.Plain

namespace SourceEditor

/-! ### The forms -/

/-- A line that divides the body of a block. -/
inductive Label where
  | case (value : Text)
  | default
  /-- One of the words of access specifiers. -/
  | access (word : Text)

/-- What stands on a line, behind its leading blanks. -/
inductive Content where
  /-- Code with a semicolon behind it. -/
  | simple (code : Text)
  /-- The head of a block, with the brace that opens it. -/
  | opening (head : Text)
  /-- A keyword and a condition in parentheses, for the statement on the next line. -/
  | header (word condition : Text)
  | label (l : Label)
  /-- The brace that closes a block, perhaps with a semicolon. -/
  | closing (semicolon : Bool)

/-- A line as it is printed: how wide its indentation is, and what stands behind it. -/
structure Row where
  width : UInt64
  content : Content

/-- The words that a statement of these programs does not begin with. -/
def reservedWords : List Text :=
  ["case", "default", "public", "protected", "private", "else", "do"].map String.toList

/-- The words of headers whose body may have no braces. -/
def bodyWords : List Text := ["if", "for", "while"].map String.toList

theorem eq_of_mem_bodyWords {word : Text} (h : word ∈ bodyWords) :
    word = "if".toList ∨ word = "for".toList ∨ word = "while".toList := by
  simpa only [bodyWords, List.map_cons, List.map_nil, List.mem_cons, List.not_mem_nil,
    or_false] using h

theorem eq_of_mem_accessWords {word : Text} (h : word ∈ accessWords) :
    word = "public".toList ∨ word = "protected".toList ∨ word = "private".toList := by
  simpa only [accessWords, List.map_cons, List.map_nil, List.mem_cons, List.not_mem_nil,
    or_false] using h

namespace Label

def text : Label → Text
  | .case value => "case ".toList ++ value ++ [':']
  | .default => "default:".toList
  | .access word => word ++ [':']

/-- Whether the label is an access specifier. -/
def isAccess : Label → Bool
  | .access _ => true
  | _ => false

/-- How much deeper than its block a label stands. -/
def depth (o : Options) : Label → UInt64
  | .case _ | .default => if o.indentCase then o.shiftWidth else 0
  | .access _ => if o.indentAccessSpecifier then o.shiftWidth else 0

end Label

namespace Content

def text : Content → Text
  | .simple code => code ++ [';']
  | .opening head => head ++ [' ', '{']
  | .header word condition => word ++ [' ', '('] ++ condition ++ [')']
  | .label l => l.text
  | .closing semicolon => if semicolon then ['}', ';'] else ['}']

/-- The last character. -/
def last : Content → Char
  | .simple _ => ';'
  | .opening _ => '{'
  | .header _ _ => ')'
  | .label _ => ':'
  | .closing semicolon => if semicolon then ';' else '}'

/-- Whether the statement that the line begins goes on in the next line. -/
def isHeader : Content → Bool
  | .header _ _ => true
  | _ => false

/-- Whether the line neither opens nor closes a block. -/
def isInner : Content → Bool
  | .opening _ | .closing _ => false
  | _ => true

theorem opening_or_closing_or_inner (c : Content) :
    (∃ head, c = .opening head) ∨ (∃ semicolon, c = .closing semicolon) ∨ c.isInner = true := by
  cases c with
  | opening head => exact .inl ⟨head, rfl⟩
  | closing semicolon => exact .inr (.inl ⟨semicolon, rfl⟩)
  | _ => exact .inr (.inr rfl)

end Content

/-! ### Well-formed lines -/

namespace Text

/-- Whether a text holds no brace. -/
def IsBraceless (t : Text) : Prop := '{' ∉ t ∧ '}' ∉ t

instance (t : Text) : Decidable t.IsBraceless :=
  inferInstanceAs (Decidable ('{' ∉ t ∧ '}' ∉ t))

/-- Whether a text begins with a name: a word without white space that is not a reserved one. -/
structure StartsWithName (t : Text) : Prop where
  ne_nil : t.firstWord ≠ []
  solid : ∀ c ∈ t.firstWord, isWhitespace c = false
  free : t.firstWord ∉ reservedWords

theorem startsWithName_iff (t : Text) :
    t.StartsWithName ↔ t.firstWord ≠ [] ∧
      t.firstWord.all (fun c => !isWhitespace c) = true ∧ t.firstWord ∉ reservedWords := by
  constructor
  · rintro ⟨hne, hsolid, hfree⟩
    exact ⟨hne, by simpa using hsolid, hfree⟩
  · rintro ⟨hne, hsolid, hfree⟩
    exact ⟨hne, by simpa using hsolid, hfree⟩

instance (t : Text) : Decidable t.StartsWithName := decidable_of_iff' _ t.startsWithName_iff

end Text

namespace Content

/-- Whether the parts of a line are what its form says. -/
def IsShaped : Content → Prop
  | .simple code => code.StartsWithName ∧ code.IsBraceless
  | .opening head => head.StartsWithName ∧ head.IsBraceless
  | .header word condition => word ∈ bodyWords ∧ condition.IsBraceless
  | .label (.case value) => value.IsBraceless
  | .label .default => True
  | .label (.access word) => word ∈ accessWords
  | .closing _ => True

/-- Whether a line is well-formed: it has its form, its parentheses are balanced, and there is no
start of a quote on it (a comment, a string, a character or a directive) and no backslash. -/
structure IsValid (c : Content) : Prop where
  shape : c.IsShaped
  balanced : c.text.IsBalanced
  unquoted : ∀ q ∈ Language.cpp.lexicon.quotes, ¬q.start <:+: c.text
  backslash : '\\' ∉ c.text

instance : (c : Content) → Decidable c.IsShaped
  | .simple code => inferInstanceAs (Decidable (code.StartsWithName ∧ code.IsBraceless))
  | .opening head => inferInstanceAs (Decidable (head.StartsWithName ∧ head.IsBraceless))
  | .header word condition =>
    inferInstanceAs (Decidable (word ∈ bodyWords ∧ condition.IsBraceless))
  | .label (.case value) => inferInstanceAs (Decidable value.IsBraceless)
  | .label (.access word) => inferInstanceAs (Decidable (word ∈ accessWords))
  | .label .default | .closing _ => inferInstanceAs (Decidable True)

theorem isValid_iff (c : Content) :
    c.IsValid ↔ c.IsShaped ∧ c.text.IsBalanced ∧
      (∀ q ∈ Language.cpp.lexicon.quotes, ¬q.start <:+: c.text) ∧ '\\' ∉ c.text := by
  constructor
  · rintro ⟨hshape, hbalanced, hunquoted, hbackslash⟩
    exact ⟨hshape, hbalanced, hunquoted, hbackslash⟩
  · rintro ⟨hshape, hbalanced, hunquoted, hbackslash⟩
    exact ⟨hshape, hbalanced, hunquoted, hbackslash⟩

instance (c : Content) : Decidable c.IsValid := decidable_of_iff' _ c.isValid_iff

end Content

/-! ### How a line begins and ends -/

namespace Text

/-- A character that belongs to no word ends the first one. -/
theorem firstWord_append_cons {c : Char} (hc : isWordChar c = false) (s t : Text) :
    firstWord (s ++ c :: t) = s.firstWord := by
  induction s with
  | nil => simp [firstWord, hc]
  | cons d s ih =>
    by_cases hd : isWordChar d = true
    · simpa [firstWord, hd] using ih
    · simp [firstWord, hd]

/-- A name begins with a character that is neither white space nor a brace. -/
theorem StartsWithName.head {t : Text} (h : t.StartsWithName) :
    ∃ c, t.head? = some c ∧ isWhitespace c = false ∧ c ≠ '{' ∧ c ≠ '}' := by
  cases t with
  | nil => exact absurd rfl h.ne_nil
  | cons c t =>
    have hword : isWordChar c = true := by
      by_cases hc : isWordChar c = true
      · exact hc
      · exact absurd (by simp [firstWord, hc]) h.ne_nil
    have hmem : c ∈ firstWord (c :: t) := by simp [firstWord, hword]
    refine ⟨c, rfl, h.solid c hmem, ?_, ?_⟩ <;>
    · rintro rfl
      revert hword
      decide

end Text

namespace Content

theorem exists_front (c : Content) : ∃ front, c.text = front ++ [c.last] := by
  cases c with
  | simple code => exact ⟨code, rfl⟩
  | opening head => exact ⟨head ++ [' '], (List.append_assoc head [' '] ['{']).symm⟩
  | header word condition => exact ⟨word ++ [' ', '('] ++ condition, rfl⟩
  | label l =>
    cases l with
    | case value => exact ⟨"case ".toList ++ value, rfl⟩
    | default => exact ⟨"default".toList, rfl⟩
    | access word => exact ⟨word, rfl⟩
  | closing semicolon =>
    cases semicolon with
    | false => exact ⟨[], rfl⟩
    | true => exact ⟨['}'], rfl⟩

theorem getLast?_text (c : Content) : c.text.getLast? = some c.last := by
  obtain ⟨front, hfront⟩ := c.exists_front
  rw [hfront, List.getLast?_concat]

theorem isWhitespace_last (c : Content) : isWhitespace c.last = false := by
  cases c with
  | closing semicolon => cases semicolon <;> rfl
  | _ => rfl

theorem head?_text_closing (semicolon : Bool) : (closing semicolon).text.head? = some '}' := by
  cases semicolon <;> rfl

/-- Only a closing brace begins with a brace. -/
theorem head?_text {c : Content} (h : c.IsShaped) (hclosing : ∀ semicolon, c ≠ .closing semicolon) :
    ∃ x, c.text.head? = some x ∧ isWhitespace x = false ∧ x ≠ '{' ∧ x ≠ '}' := by
  cases c with
  | simple code =>
    obtain ⟨x, hx, hsolid⟩ := h.1.head
    exact ⟨x, by simp [text, List.head?_append, hx], hsolid⟩
  | opening head =>
    obtain ⟨x, hx, hsolid⟩ := h.1.head
    exact ⟨x, by simp [text, List.head?_append, hx], hsolid⟩
  | header word condition =>
    obtain ⟨hword, _⟩ := h
    rcases eq_of_mem_bodyWords hword with rfl | rfl | rfl <;>
      exact ⟨_, rfl, by decide, by decide, by decide⟩
  | label l =>
    cases l with
    | case value => exact ⟨'c', rfl, by decide, by decide, by decide⟩
    | default => exact ⟨'d', rfl, by decide, by decide, by decide⟩
    | access word =>
      rcases eq_of_mem_accessWords h with rfl | rfl | rfl <;>
        exact ⟨_, rfl, by decide, by decide, by decide⟩
  | closing semicolon => exact absurd rfl (hclosing semicolon)

/-- No line begins with an opening brace. -/
theorem head?_text_ne_brace {c : Content} (h : c.IsShaped) : c.text.head? ≠ some '{' := by
  by_cases hclosing : ∃ semicolon, c = .closing semicolon
  · obtain ⟨semicolon, rfl⟩ := hclosing
    rw [head?_text_closing]
    decide
  · obtain ⟨x, hx, _, hne, _⟩ := head?_text h fun semicolon hc => hclosing ⟨semicolon, hc⟩
    rw [hx]
    exact fun heq => hne (Option.some.inj heq)

theorem isTight_text {c : Content} (h : c.IsShaped) : c.text.IsTight where
  head := by
    by_cases hclosing : ∃ semicolon, c = .closing semicolon
    · obtain ⟨semicolon, rfl⟩ := hclosing
      exact ⟨'}', head?_text_closing semicolon, by decide⟩
    · obtain ⟨x, hx, hwhite, _⟩ := head?_text h fun semicolon hc => hclosing ⟨semicolon, hc⟩
      exact ⟨x, hx, hwhite⟩
  last := ⟨c.last, c.getLast?_text, c.isWhitespace_last⟩

/-! ### Quotes -/

end Content

/-- A text without the start of a quote is unquoted. -/
theorem Lexicon.unquoted_of_not_infix {lex : Lexicon} {t : Text}
    (h : ∀ q ∈ lex.quotes, ¬q.start <:+: t) : lex.Unquoted t := by
  intro s hs
  apply matchStart_eq_none_iff.mpr
  intro q hq
  rw [← Bool.not_eq_true, Text.startsWith_iff]
  rintro ⟨_, hstart⟩
  exact h q hq (hstart.isInfix.trans hs.isInfix)

theorem Content.IsValid.isCode {c : Content} (h : c.IsValid) : c.text.IsCode where
  tight := isTight_text h.shape
  balanced := h.balanced
  hash := by
    intro hmem
    have hquote : Language.preprocessorQuote ∈ Language.cpp.lexicon.quotes := by decide
    obtain ⟨front, rest, hsplit⟩ := List.append_of_mem hmem
    apply h.unquoted _ hquote
    refine ⟨front, rest, ?_⟩
    rw [hsplit]
    simp [Language.preprocessorQuote, Language.lineQuote]
  backslash := h.backslash

/-! ### Braces and parentheses of a line -/

namespace Text.IsBraceless

theorem append {s t : Text} (hs : s.IsBraceless) (ht : t.IsBraceless) : IsBraceless (s ++ t) := by
  constructor <;> rw [List.mem_append, not_or]
  · exact ⟨hs.1, ht.1⟩
  · exact ⟨hs.2, ht.2⟩

theorem reverse {t : Text} (h : t.IsBraceless) : IsBraceless t.reverse := by
  constructor <;> rw [List.mem_reverse]
  · exact h.1
  · exact h.2

theorem of_isBlank {u : Text} (hu : u.IsBlank) : u.IsBraceless := by
  constructor
  · intro hmem
    exact absurd (hu _ hmem) (by decide)
  · intro hmem
    exact absurd (hu _ hmem) (by decide)

end Text.IsBraceless

/-- The lines that neither open nor close a block hold no brace. -/
theorem Content.isBraceless_text {c : Content} (h : c.IsShaped) (hinner : c.isInner = true) :
    c.text.IsBraceless := by
  cases c with
  | simple code => exact h.2.append (by decide)
  | opening head => cases hinner
  | header word condition =>
    obtain ⟨hword, hcondition⟩ := h
    have hfront : Text.IsBraceless (word ++ [' ', '(']) := by
      rcases eq_of_mem_bodyWords hword with rfl | rfl | rfl <;> decide
    exact (hfront.append hcondition).append (by decide)
  | label l =>
    cases l with
    | case value =>
      have hvalue : value.IsBraceless := h
      have hword : Text.IsBraceless "case ".toList := by decide
      exact (hword.append hvalue).append (by decide)
    | default => exact (by decide : Text.IsBraceless "default:".toList)
    | access word =>
      rcases eq_of_mem_accessWords h with rfl | rfl | rfl <;> decide
  | closing semicolon => cases hinner

theorem Brackets.search_of_braceless {cs : List (Nat × Char)}
    (h : Text.IsBraceless (cs.map Prod.snd)) (depth : Nat) :
    braces.search depth cs = .waiting depth := by
  apply search_of_ignored rfl
  intro x hx
  have hmem : x.2 ∈ cs.map Prod.snd := List.mem_map_of_mem hx
  constructor <;> intro hbrace
  · exact h.1 (List.mem_singleton.mp hbrace ▸ hmem)
  · exact h.2 (List.mem_singleton.mp hbrace ▸ hmem)

namespace Line.IsCode

variable {l : Line}

/-- Backward from its end, a line shows its last character first. -/
theorem exists_reverse_codeChars {front : Text} {c : Char} (h : l.IsCode (front ++ [c])) :
    ∃ col rest, l.codeChars.reverse = (col, c) :: rest ∧
      rest.map Prod.snd = (l.indent ++ front).reverse := by
  have hmap : l.codeChars.reverse.map Prod.snd = c :: (l.indent ++ front).reverse := by
    rw [List.map_reverse, h.map_snd_codeChars, ← List.append_assoc, List.reverse_append]
    rfl
  obtain ⟨x, rest, hsplit, rfl, hrest⟩ := List.map_eq_cons_iff.mp hmap
  exact ⟨x.1, rest, hsplit, hrest⟩

/-- On a line of a single character the first one is the last one. -/
theorem firstCodeChar_eq_lastCodeChar {c : Char} (h : l.IsCode [c]) :
    l.firstCodeChar = l.lastCodeChar := by
  have hcode : l.IsCode ([] ++ [c]) := h
  obtain ⟨col, rest, hreverse, hrest⟩ := hcode.exists_reverse_codeChars
  have hc : isWhitespace c = false := by
    obtain ⟨d, hlast, hd⟩ := h.code.tight.last
    rwa [← Option.some.inj hlast] at hd
  rw [List.append_nil] at hrest
  have hskip : rest.reverse.find? (fun x => !isWhitespace x.2) = none := by
    rw [List.find?_eq_none]
    intro x hx
    have hmem : x.2 ∈ l.indent.reverse := hrest ▸ List.mem_map_of_mem (List.mem_reverse.mp hx)
    simp [isWhitespace_of_isBlank (l.isBlank_indent _ (List.mem_reverse.mp hmem))]
  have hchars : l.codeChars = rest.reverse ++ [(col, c)] := by
    rw [← List.reverse_reverse l.codeChars, hreverse, List.reverse_cons]
  rw [firstCodeChar, lastCodeChar, hreverse, hchars, List.find?_append, hskip,
    List.find?_cons_of_pos (by simpa using hc), List.find?_cons_of_pos (by simpa using hc)]
  rfl

theorem isBraceless_codeChars {t : Text} (h : l.IsCode t) (ht : t.IsBraceless) :
    Text.IsBraceless (l.codeChars.map Prod.snd) := by
  rw [h.map_snd_codeChars]
  exact (Text.IsBraceless.of_isBlank l.isBlank_indent).append ht

theorem search_of_braceless {t : Text} (h : l.IsCode t) (ht : t.IsBraceless) (depth : Nat) :
    Brackets.braces.search depth l.codeChars.reverse = .waiting depth := by
  apply Brackets.search_of_braceless
  rw [List.map_reverse]
  exact (h.isBraceless_codeChars ht).reverse

/-- No line is inside parentheses that a balanced line without braces leaves open. -/
theorem searchParens_of_braceless {t : Text} (h : l.IsCode t) (ht : t.IsBraceless) :
    Brackets.parensInBlock.search 0 l.codeChars.reverse = .waiting 0 := by
  obtain ⟨hopen, hclose⟩ := h.isBraceless_codeChars ht
  refine Brackets.search_reverse_of_nesting h.nesting ?_ 0
  intro x hx
  have hmem : x.2 ∈ l.codeChars.map Prod.snd := List.mem_map_of_mem hx
  constructor
  · intro hx
    exact hopen (hx ▸ hmem)
  · intro hx
    exact hclose (hx ▸ hmem)

theorem exists_search_of_opening {head : Text} (h : l.IsCode (Content.opening head).text)
    (hhead : head.IsBraceless) :
    ∃ col, Brackets.braces.search 0 l.codeChars.reverse = .found col ∧
      (∀ depth, Brackets.braces.search (depth + 1) l.codeChars.reverse = .waiting depth) ∧
      Brackets.parensInBlock.search 0 l.codeChars.reverse = .stopped := by
  have hsplit : (Content.opening head).text = head ++ [' '] ++ ['{'] := by
    simp [Content.text]
  rw [hsplit] at h
  obtain ⟨col, rest, hreverse, hrest⟩ := h.exists_reverse_codeChars
  have hbraceless : Text.IsBraceless (rest.map Prod.snd) := by
    rw [hrest]
    exact ((Text.IsBraceless.of_isBlank l.isBlank_indent).append
      (hhead.append (by decide))).reverse
  rw [hreverse]
  exact ⟨col, rfl, fun depth => Brackets.search_of_braceless hbraceless depth, rfl⟩

theorem search_of_closing {semicolon : Bool} (h : l.IsCode (Content.closing semicolon).text)
    (depth : Nat) :
    Brackets.braces.search depth l.codeChars.reverse = .waiting (depth + 1) ∧
      Brackets.parensInBlock.search 0 l.codeChars.reverse = .stopped := by
  have hbraceless := (Text.IsBraceless.of_isBlank l.isBlank_indent).reverse
  cases semicolon with
  | false =>
    have hcode : l.IsCode ([] ++ ['}']) := h
    obtain ⟨col, rest, hreverse, hrest⟩ := hcode.exists_reverse_codeChars
    rw [List.append_nil] at hrest
    rw [← hrest] at hbraceless
    rw [hreverse]
    exact ⟨Brackets.search_of_braceless hbraceless (depth + 1), rfl⟩
  | true =>
    have hcode : l.IsCode (['}'] ++ [';']) := h
    obtain ⟨col, rest, hreverse, hrest⟩ := hcode.exists_reverse_codeChars
    rw [List.reverse_append] at hrest
    obtain ⟨⟨col', c⟩, blanks, rfl, hbrace, hblanks⟩ := List.map_eq_cons_iff.mp hrest
    obtain rfl : c = '}' := hbrace
    have hbraceless : Text.IsBraceless (blanks.map Prod.snd) := hblanks ▸ hbraceless
    rw [hreverse]
    have hsearch := Brackets.search_of_braceless hbraceless (depth + 1)
    exact ⟨by simpa [Brackets.search, Brackets.braces] using hsearch, rfl⟩

end Line.IsCode

/-! ### Labels and headers -/

theorem Text.StartsWithName.append_cons {s : Text} (h : s.StartsWithName) {c : Char}
    (hc : isWordChar c = false) (t : Text) : Text.StartsWithName (s ++ c :: t) := by
  obtain ⟨hne, hsolid, hfree⟩ := h
  rw [← Text.firstWord_append_cons hc s t] at hne hsolid hfree
  exact ⟨hne, hsolid, hfree⟩

namespace Line

variable {l : Line}

theorem isCaseLabel_of_startsWithName (h : l.codeText.StartsWithName) : l.isCaseLabel = false := by
  have hcase : l.codeText.firstWord ≠ "case".toList := by
    intro heq
    exact h.free (heq ▸ by decide)
  have hdefault : l.codeText.firstWord ≠ "default".toList := by
    intro heq
    exact h.free (heq ▸ by decide)
  simp only [isCaseLabel, if_neg hcase, if_neg hdefault]

/-- A line that begins with a name is no access specifier: if one of the words stands at its start,
then the name goes on behind the word. -/
theorem isAccessSpecifier_of_startsWithName (h : l.codeText.StartsWithName) :
    l.isAccessSpecifier = false := by
  have hreserved : ∀ word ∈ accessWords, word ∈ reservedWords ∧ word.all isWordChar = true := by
    decide
  simp only [isAccessSpecifier]
  generalize l.codeText = t at h
  rw [List.any_eq_false]
  intro word hword
  obtain ⟨hmem, hchars⟩ := hreserved word hword
  rw [Bool.and_eq_true, List.isPrefixOf_iff_prefix, not_and]
  rintro ⟨rest, rfl⟩
  have hfirst : Text.firstWord (word ++ rest) = word ++ Text.firstWord rest :=
    List.takeWhile_append_of_pos (List.all_eq_true.mp hchars)
  rw [List.drop_left]
  have hrest : Text.firstWord rest ≠ [] := by
    intro hnil
    apply h.free
    rw [hfirst, hnil, List.append_nil]
    exact hmem
  cases rest with
  | nil => exact absurd rfl hrest
  | cons c rest =>
    have hc : isWordChar c = true := by
      by_cases hc : isWordChar c = true
      · exact hc
      · exact absurd (by simp [Text.firstWord, hc]) hrest
    have hsolid : isWhitespace c = false := by
      apply h.solid
      rw [hfirst]
      simp [Text.firstWord, hc]
    have hne : c ≠ ':' := by
      rintro rfl
      revert hc
      decide
    rw [Text.trimStart_of_head rfl hsolid]
    simp [hne]

end Line

namespace Content

theorem startsWithName_simple {code : Text} (h : code.StartsWithName) :
    (simple code).text.StartsWithName := h.append_cons (by decide) []

theorem startsWithName_opening {head : Text} (h : head.StartsWithName) :
    (opening head).text.StartsWithName := h.append_cons (by decide) ['{']

theorem startsWithName_header {word : Text} (h : word ∈ bodyWords) (condition : Text) :
    (header word condition).text.StartsWithName := by
  have hwords : ∀ word ∈ bodyWords, word.StartsWithName := by decide
  have hname := (hwords word h).append_cons (by decide : isWordChar ' ' = false)
    ('(' :: (condition ++ [')']))
  simpa [text] using hname

/-- Of the lines that do not end a statement, the headers begin with the word of one. -/
theorem contains_headerWords {c : Content} (h : c.IsShaped)
    (hc : c.isHeader = true ∨ ∃ l, c = .label l) :
    headerWords.contains (Text.trimStart (c.text.dropWhile (· == '}'))).firstWord =
      c.isHeader := by
  cases c with
  | header word condition =>
    obtain ⟨hword, _⟩ := h
    rcases eq_of_mem_bodyWords hword with rfl | rfl | rfl <;> rfl
  | label l =>
    cases l with
    | case value => rfl
    | default => rfl
    | access word =>
      rcases eq_of_mem_accessWords h with rfl | rfl | rfl <;> rfl
  | simple code => simp [isHeader] at hc
  | opening head => simp [isHeader] at hc
  | closing semicolon => simp [isHeader] at hc

end Content

/-- A label is recognised for what it is. -/
theorem Line.label_of_codeText {l : Line} {lab : Label} (hshape : (Content.label lab).IsShaped)
    (h : l.codeText = lab.text) :
    l.isCaseLabel = !lab.isAccess ∧ l.isAccessSpecifier = lab.isAccess := by
  simp only [isCaseLabel, isAccessSpecifier, h]
  cases lab with
  | case value => exact ⟨rfl, rfl⟩
  | default => exact ⟨rfl, rfl⟩
  | access word => rcases eq_of_mem_accessWords hshape with rfl | rfl | rfl <;> exact ⟨rfl, rfl⟩

end SourceEditor
