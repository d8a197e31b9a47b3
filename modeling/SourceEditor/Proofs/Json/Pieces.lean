/-
  SourceEditor/Proofs/Json/Pieces.lean
  ====================================
  **Reading lines of JSON.**  A line of JSON is made of code and strings.  Reading it finds the
  strings as they are and quotes nothing else, so what the indentation asks of the line can be read
  off its pieces.
-/
import SourceEditor.Proofs.Indent.Plain
import SourceEditor.Proofs.Indent.Quoted

namespace SourceEditor

namespace Json

/-! ### Pieces -/

/-- Code, or a string by the characters between its quotation marks. -/
inductive Piece where
  | code (t : Text)
  | string (body : Text)

/-- Whether a text can stand between quotation marks: it holds none itself but behind a backslash,
and every backslash has a character behind it. -/
def isStringBody : Text → Bool
  | [] => true
  | ['\\'] => false
  | '\\' :: _ :: rest => isStringBody rest
  | c :: rest => c != '"' && isStringBody rest

namespace Piece

def text : Piece → Text
  | .code t => t
  | .string body => '"' :: (body ++ ['"'])

def isQuoted : Piece → Bool
  | .code _ => false
  | .string _ => true

/-- The characters, each with whether it is quoted. -/
def flagged (p : Piece) : List (Bool × Char) := p.text.map fun c => (p.isQuoted, c)

def IsValid : Piece → Prop
  | .code t => '"' ∉ t
  | .string body => isStringBody body = true

end Piece

/-- The text that pieces make together. -/
def textOf (ps : List Piece) : Text := ps.flatMap Piece.text

/-- The characters of some pieces, each with whether it is quoted. -/
def flaggedOf (ps : List Piece) : List (Bool × Char) := ps.flatMap Piece.flagged

/-- The characters outside the strings. -/
def codeOf (ps : List Piece) : Text := ((flaggedOf ps).filter fun f => !f.1).map Prod.snd

/-- The characters, with a space in place of each that is in a string. -/
def maskedOf (ps : List Piece) : Text := (flaggedOf ps).map fun f => if f.1 then ' ' else f.2

theorem map_snd_flaggedOf (ps : List Piece) : (flaggedOf ps).map Prod.snd = textOf ps := by
  unfold flaggedOf textOf
  rw [List.map_flatMap]
  congr 1
  funext p
  unfold Piece.flagged
  rw [List.map_map]
  exact List.map_id p.text

@[simp] theorem codeOf_nil : codeOf [] = [] := rfl

@[simp] theorem codeOf_code (t : Text) (ps : List Piece) :
    codeOf (.code t :: ps) = t ++ codeOf ps := by
  simp [codeOf, flaggedOf, Piece.flagged, Piece.isQuoted, Piece.text, List.filter_map,
    Function.comp_def]

@[simp] theorem codeOf_string (body : Text) (ps : List Piece) :
    codeOf (.string body :: ps) = codeOf ps := by
  simp [codeOf, flaggedOf, Piece.flagged, Piece.isQuoted, List.filter_map, Function.comp_def]

@[simp] theorem codeOf_append (ps qs : List Piece) :
    codeOf (ps ++ qs) = codeOf ps ++ codeOf qs := by
  simp [codeOf, flaggedOf]

theorem maskedOf_code (t : Text) (ps : List Piece) :
    maskedOf (.code t :: ps) = t ++ maskedOf ps := by
  simp [maskedOf, flaggedOf, Piece.flagged, Piece.isQuoted, Piece.text, Function.comp_def]

end Json

/-! ### Spans that quote -/

/-- Whether some spans quote the character at a column. -/
def quotedBy (spans : List Span) (col : Nat) : Bool :=
  match spans.dropWhile fun s => s.stop ≤ col with
  | [] => false
  | s :: _ => s.contains col && s.kind.isQuoted

theorem Line.isQuoted_eq_quotedBy (l : Line) (col : Nat) :
    l.isQuoted col = quotedBy l.spans col := by
  unfold isQuoted tokenAt quotedBy
  cases l.spans.dropWhile (fun s => decide (s.stop ≤ col)) with
  | nil => rfl
  | cons s rest => by_cases hcontains : s.contains col = true <;> simp [hcontains]

theorem quotedBy_append_of_stop_le {front rest : List Span} {col : Nat}
    (h : ∀ s ∈ front, s.stop ≤ col) : quotedBy (front ++ rest) col = quotedBy rest col := by
  unfold quotedBy
  rw [List.dropWhile_append_of_pos]
  intro s hs
  simpa using h s hs

theorem quotedBy_cons_of_stop_le {s : Span} {rest : List Span} {col : Nat} (h : s.stop ≤ col) :
    quotedBy (s :: rest) col = quotedBy rest col := by
  have hfront : ∀ x ∈ [s], x.stop ≤ col := by simpa using h
  exact quotedBy_append_of_stop_le hfront

/-- Spans that quote nothing leave the characters in front of the spans behind them unquoted. -/
theorem quotedBy_append_of_lt {front rest : List Span} {col : Nat}
    (hfront : ∀ s ∈ front, s.kind.isQuoted = false) (hrest : ∀ s ∈ rest, col < s.offset) :
    quotedBy (front ++ rest) col = false := by
  unfold quotedBy
  split
  · rfl
  · rename_i s tail heq
    have hmem : s ∈ front ++ rest := by
      apply (List.dropWhile_sublist _).mem
      rw [heq]
      exact List.mem_cons_self
    rcases List.mem_append.mp hmem with hs | hs
    · rw [hfront s hs, Bool.and_false]
    · have hlt := hrest s hs
      have hnot : s.contains col = false := by
        unfold Span.contains
        simp
        omega
      rw [hnot, Bool.false_and]

theorem quotedBy_cons_of_contains {s : Span} {rest : List Span} {col : Nat}
    (h : s.contains col = true) : quotedBy (s :: rest) col = s.kind.isQuoted := by
  have hlt : ¬s.stop ≤ col := by
    unfold Span.contains at h
    simp at h
    omega
  unfold quotedBy
  rw [List.dropWhile_cons_of_neg (by simpa using hlt)]
  simp [h]

namespace Lexicon

theorem scanCode_skip (lex : Lexicon) (col : Nat) (s t : Text) :
    lex.scanCode s.length col (s ++ t) = lex.scanCode 0 (col + s.length) t := by
  induction s generalizing col with
  | nil => rfl
  | cons c s ih =>
    rw [List.length_cons, List.cons_append, scanCode, ih, Nat.add_right_comm, Nat.add_assoc]

end Lexicon

/-- The scan with more spans in front. -/
def Scan.behind (spans : List Span) (s : Scan) : Scan := { s with spans := spans ++ s.spans }

namespace Json

/-- The rule of strings. -/
def stringRule : QuoteRule := Language.lineQuote .string "\"" "\""

theorem quotes_eq : Language.json.lexicon.quotes = [stringRule] := rfl

theorem matchStart_of_ne {c : Char} (hc : c ≠ '"') (t : Text) :
    Language.json.lexicon.matchStart (c :: t) = none := by
  apply Lexicon.matchStart_eq_none_iff.mpr
  intro q hq
  obtain rfl := List.mem_singleton.mp hq
  change Text.startsWith (c :: t) ['"'] = false
  simp [Text.startsWith, List.isPrefixOf, hc.symm]

theorem matchStart_quote (t : Text) :
    Language.json.lexicon.matchStart ('"' :: t) = some (0, stringRule) := by
  simp [Lexicon.matchStart, quotes_eq, Lexicon.longestStart, Text.startsWith, stringRule,
    Language.lineQuote]

theorem findOnLine_of_isStringBody {body : Text} (h : isStringBody body = true) (n : Nat)
    (rest : Text) :
    QuoteRule.findOnLine ['"'] n (body ++ '"' :: rest) = .closed (n + (body.length + 1)) := by
  fun_induction isStringBody body generalizing n with
  | case1 => simp [QuoteRule.findOnLine, Text.startsWith]
  | case2 => cases h
  | case3 c rest' ih =>
    simp only [List.cons_append, QuoteRule.findOnLine, ih h, List.length_cons]
    congr 1
    omega
  | case4 c rest' hlast hescape ih =>
    obtain ⟨hc, hrest⟩ := Bool.and_eq_true_iff.mp h
    have hc : c ≠ '"' := by simpa using hc
    have hbackslash : c ≠ '\\' := by
      rintro rfl
      cases rest' with
      | nil => exact hlast rfl rfl
      | cons d tail => exact hescape d tail rfl rfl
    rw [List.cons_append, QuoteRule.findOnLine]
    · simp [Text.startsWith, hc.symm, ih hrest]
      omega
    · rintro rfl
      exact absurd rfl hbackslash
    · rintro d tail rfl
      exact absurd rfl hbackslash

/-! ### Scanning -/

/-- Whether a scan finds some tokens outside quotes between two columns, and then what another scan
finds. -/
def Precedes (s' s : Scan) (first stop : Nat) : Prop :=
  ∃ spans, s = s'.behind spans ∧
    ∀ x ∈ spans, x.kind.isQuoted = false ∧ first ≤ x.offset ∧ x.stop ≤ stop

section Precedes

variable {s s' : Scan} {first stop : Nat}

theorem Precedes.of_succ (h : Precedes s' s (first + 1) stop) : Precedes s' s first stop := by
  obtain ⟨spans, hscan, hspans⟩ := h
  refine ⟨spans, hscan, ?_⟩
  intro x hx
  obtain ⟨hquoted, hoffset, hstop⟩ := hspans x hx
  exact ⟨hquoted, Nat.le_of_succ_le hoffset, hstop⟩

theorem Precedes.add {x : Span} (h : Precedes s' s first stop) (hx : x.kind.isQuoted = false)
    (hoffset : first ≤ x.offset) (hstop : x.stop ≤ stop) : Precedes s' (s.add x) first stop := by
  obtain ⟨spans, hscan, hspans⟩ := h
  refine ⟨x :: spans, by rw [hscan]; rfl, ?_⟩
  intro y hy
  rcases List.mem_cons.mp hy with rfl | hy
  · exact ⟨hx, hoffset, hstop⟩
  · exact hspans y hy

end Precedes

/-- Code up to a string or the end of the line is scanned to numbers and words. -/
theorem scanCode_code {t : Text} (ht : '"' ∉ t) (rest : Text) (hrest : ∀ c ∈ rest.head?, c = '"')
    {skip : Nat} (hskip : skip ≤ t.length) (col : Nat) :
    Precedes (Language.json.lexicon.scanCode 0 (col + t.length) rest)
      (Language.json.lexicon.scanCode skip col (t ++ rest)) col (col + t.length) := by
  induction t generalizing skip col with
  | nil =>
    obtain rfl := Nat.le_zero.mp hskip
    exact ⟨[], rfl, by simp⟩
  | cons c t ih =>
    have ht' : '"' ∉ t := fun h => ht (List.mem_cons_of_mem c h)
    have hc : c ≠ '"' := by
      rintro rfl
      exact ht List.mem_cons_self
    have hlength : col + 1 + t.length = col + (c :: t).length := by
      rw [List.length_cons]
      omega
    have hgo : ∀ skip ≤ t.length,
        Precedes (Language.json.lexicon.scanCode 0 (col + (c :: t).length) rest)
          (Language.json.lexicon.scanCode skip (col + 1) (t ++ rest)) col
          (col + (c :: t).length) := by
      intro skip hskip
      rw [← hlength]
      exact (ih ht' hskip (col + 1)).of_succ
    -- a token does not reach into the string behind the text
    have htoken : ∀ (p : Char → Bool) (kind : TokenKind), p '"' = false → kind.isQuoted = false →
        Precedes (Language.json.lexicon.scanCode 0 (col + (c :: t).length) rest)
          ((Language.json.lexicon.scanCode ((List.takeWhile p (c :: (t ++ rest))).length - 1)
            (col + 1) (t ++ rest)).add ⟨col, (List.takeWhile p (c :: (t ++ rest))).length, kind⟩)
          col (col + (c :: t).length) := by
      intro p kind hp hkind
      have hle : (List.takeWhile p (c :: (t ++ rest))).length ≤ (c :: t).length :=
        Text.length_takeWhile_append_le (t := c :: t) fun d hd => by rw [hrest d hd, hp]
      have hskip : (List.takeWhile p (c :: (t ++ rest))).length - 1 ≤ t.length := by
        rw [List.length_cons] at hle
        omega
      exact (hgo _ hskip).add hkind (Nat.le_refl col) (Nat.add_le_add_left hle col)
    cases skip with
    | succ skip =>
      rw [List.cons_append, Lexicon.scanCode]
      exact hgo skip (Nat.le_of_succ_le_succ hskip)
    | zero =>
      rw [List.cons_append, Lexicon.scanCode, matchStart_of_ne hc]
      dsimp only
      split
      · exact htoken isNumberChar .number (by decide) rfl
      split
      · exact htoken isWordChar _ (by decide) (Lexicon.isQuoted_wordKind _ _)
      · exact hgo 0 (Nat.zero_le _)

theorem scanCode_string {body : Text} (h : isStringBody body = true) (rest : Text) (col : Nat) :
    Language.json.lexicon.scanCode 0 col ((Piece.string body).text ++ rest) =
      (Language.json.lexicon.scanCode 0 (col + (Piece.string body).text.length) rest).add
        ⟨col, (Piece.string body).text.length, .string⟩ := by
  have hend : stringRule.findEnd (body ++ '"' :: rest) = .closed (body.length + 1) := by
    have hfound := findOnLine_of_isStringBody h 0 rest
    rwa [Nat.zero_add] at hfound
  have hskip := Language.json.lexicon.scanCode_skip (col + 1) (body ++ ['"']) rest
  have hlength : (body ++ ['"']).length = body.length + 1 := by simp
  have htext : (Piece.string body).text ++ rest = '"' :: (body ++ '"' :: rest) := by
    simp [Piece.text]
  rw [hlength, List.append_assoc, List.singleton_append] at hskip
  rw [htext, Lexicon.scanCode, matchStart_quote]
  dsimp only
  have hdrop : ('"' :: (body ++ '"' :: rest)).drop stringRule.start.length =
      body ++ '"' :: rest := rfl
  rw [hdrop, hend]
  dsimp only
  have hstart : stringRule.start.length + (body.length + 1) = (Piece.string body).text.length := by
    simp [Piece.text, stringRule, Language.lineQuote]
    omega
  have hpred : (Piece.string body).text.length - 1 = body.length + 1 := by simp [Piece.text]
  have hcol : col + 1 + (body.length + 1) = col + (Piece.string body).text.length := by
    simp [Piece.text]
    omega
  rw [hstart, hpred, hskip, hcol]
  rfl

/-- What a scan finds on a line of pieces: it ends outside quotes, and quotes the strings. -/
structure Finds (s : Scan) (col : Nat) (flags : List (Bool × Char)) : Prop where
  stateOut : s.stateOut = .normal
  offset : ∀ x ∈ s.spans, col ≤ x.offset
  comment : ∀ x ∈ s.spans, x.kind.isComment = false
  quoted : ∀ i f, flags[i]? = some f → quotedBy s.spans (col + i) = f.1

variable {s s' : Scan} {col : Nat} {flags : List (Bool × Char)}

theorem Finds.code {t : Text} (h : Finds s' (col + t.length) flags)
    (hprecedes : Precedes s' s col (col + t.length)) :
    Finds s col ((Piece.code t).flagged ++ flags) := by
  obtain ⟨spans, rfl, hspans⟩ := hprecedes
  constructor
  · exact h.stateOut
  · intro x hx
    rcases List.mem_append.mp hx with hx | hx
    · exact (hspans x hx).2.1
    · exact Nat.le_trans (Nat.le_add_right col t.length) (h.offset x hx)
  · intro x hx
    rcases List.mem_append.mp hx with hx | hx
    · exact TokenKind.isComment_of_isQuoted (hspans x hx).1
    · exact h.comment x hx
  · intro i f hf
    have hlength : (Piece.code t).flagged.length = t.length := List.length_map _
    rcases Nat.lt_or_ge i t.length with hlt | hge
    · rw [List.getElem?_append_left (by omega)] at hf
      obtain ⟨c, _, rfl⟩ := Option.map_eq_some_iff.mp ((List.getElem?_map).symm.trans hf)
      apply quotedBy_append_of_lt
      · intro x hx
        exact (hspans x hx).1
      · intro x hx
        have hoffset := h.offset x hx
        omega
    · rw [List.getElem?_append_right (by omega), hlength] at hf
      have hquoted := h.quoted (i - t.length) f hf
      rw [show col + t.length + (i - t.length) = col + i by omega] at hquoted
      rw [← hquoted]
      apply quotedBy_append_of_stop_le
      intro x hx
      have hstop := (hspans x hx).2.2
      omega

theorem Finds.string {body : Text} (h : Finds s (col + (Piece.string body).text.length) flags) :
    Finds (s.add ⟨col, (Piece.string body).text.length, .string⟩) col
      ((Piece.string body).flagged ++ flags) where
  stateOut := h.stateOut
  offset := by
    intro x hx
    rcases List.mem_cons.mp hx with rfl | hx
    · exact Nat.le_refl col
    · exact Nat.le_trans (Nat.le_add_right col _) (h.offset x hx)
  comment := by
    intro x hx
    rcases List.mem_cons.mp hx with rfl | hx
    · rfl
    · exact h.comment x hx
  quoted := by
    intro i f hf
    have hlength : (Piece.string body).flagged.length = (Piece.string body).text.length :=
      List.length_map _
    rcases Nat.lt_or_ge i (Piece.string body).text.length with hlt | hge
    · rw [List.getElem?_append_left (by omega)] at hf
      obtain ⟨c, _, rfl⟩ := Option.map_eq_some_iff.mp ((List.getElem?_map).symm.trans hf)
      apply quotedBy_cons_of_contains
      simp [Span.contains, Span.stop, hlt]
    · rw [List.getElem?_append_right (by omega), hlength] at hf
      have hquoted := h.quoted (i - (Piece.string body).text.length) f hf
      rw [show col + (Piece.string body).text.length + (i - (Piece.string body).text.length) =
        col + i by omega] at hquoted
      rw [← hquoted]
      exact quotedBy_cons_of_stop_le (Nat.add_le_add_left hge col)

/-- The scan of pieces, with code in front of them, finds the strings. -/
theorem finds_scanCode {ps : List Piece} (hps : ∀ p ∈ ps, p.IsValid) {t : Text} (ht : '"' ∉ t)
    (col : Nat) :
    Finds (Language.json.lexicon.scanCode 0 col (t ++ textOf ps)) col
      ((Piece.code t).flagged ++ flaggedOf ps) := by
  induction ps generalizing t col with
  | nil =>
    have hcode := scanCode_code ht (textOf []) (by simp [textOf]) (Nat.zero_le t.length) col
    apply Finds.code _ hcode
    exact ⟨rfl, by simp [textOf, Lexicon.scanCode], by simp [textOf, Lexicon.scanCode],
      by simp [flaggedOf]⟩
  | cons p ps ih =>
    obtain ⟨hp, hps'⟩ := List.forall_mem_cons.mp hps
    cases p with
    | code u =>
      -- two pieces of code are scanned as one
      have htu : '"' ∉ t ++ u := by
        rw [List.mem_append, not_or]
        exact ⟨ht, hp⟩
      have hrest := ih hps' htu col
      rw [List.append_assoc] at hrest
      simpa [textOf, flaggedOf, Piece.flagged, Piece.text, Piece.isQuoted] using hrest
    | string body =>
      have htext : textOf (.string body :: ps) = (Piece.string body).text ++ textOf ps :=
        List.flatMap_cons
      have hflags : flaggedOf (.string body :: ps) =
          (Piece.string body).flagged ++ ((Piece.code []).flagged ++ flaggedOf ps) :=
        List.flatMap_cons
      have hcode := scanCode_code ht (textOf (.string body :: ps))
        (by simp [htext, Piece.text]) (Nat.zero_le t.length) col
      have hrest := ih hps' (t := []) (by simp)
        (col + t.length + (Piece.string body).text.length)
      rw [hflags]
      apply Finds.code _ hcode
      rw [htext, scanCode_string hp]
      exact hrest.string

end Json

/-! ### Lines of pieces -/

open Json (Piece textOf flaggedOf map_snd_flaggedOf)

namespace Line

variable {l : Line} {ps : List Piece}

/-- Whether a line has been read as pieces: its strings are quoted and nothing else is, and there is
no comment on it. -/
structure Reads (l : Line) (ps : List Piece) : Prop where
  flags : l.columns.map (fun x => (l.isQuoted x.1, x.2)) = flaggedOf ps
  comment : ∀ col, l.isComment col = false
  normal : l.stateIn = .normal

/-- A line scanned outside quotes is read as the pieces that make it. -/
theorem reads_of_scanned (hps : ∀ p ∈ ps, p.IsValid) (htext : l.text = textOf ps)
    (hscan : l = l.scanned Language.json.lexicon .normal) :
    l.Reads ps ∧ l.stateOut = .normal := by
  obtain ⟨hstateOut, _, hcomment, hquoted⟩ :=
    Json.finds_scanCode hps (List.not_mem_nil : '"' ∉ ([] : Text)) 0
  rw [List.nil_append, ← htext] at hstateOut hcomment hquoted
  have hflags : (Piece.code []).flagged ++ flaggedOf ps = flaggedOf ps := rfl
  rw [hflags] at hquoted
  have hspans : l.spans = (Language.json.lexicon.scanCode 0 0 l.text).spans :=
    congrArg Line.spans hscan
  rw [← hspans] at hcomment hquoted
  refine ⟨⟨?_, ?_, congrArg Line.stateIn hscan⟩, (congrArg Line.stateOut hscan).trans hstateOut⟩
  · apply List.ext_getElem?
    intro i
    have hget : (flaggedOf ps)[i]?.map Prod.snd = l.text[i]? := by
      rw [htext, ← map_snd_flaggedOf, List.getElem?_map]
    rw [List.getElem?_map, getElem?_columns, Option.map_map, ← hget, Option.map_map]
    rcases hf : (flaggedOf ps)[i]? with _ | f
    · rfl
    · have hquote := hquoted i f hf
      rw [Nat.zero_add, ← isQuoted_eq_quotedBy] at hquote
      simp [hquote]
  · intro col
    unfold isComment
    rcases htoken : l.tokenAt col with _ | kind
    · rfl
    · obtain ⟨x, hx, _, rfl⟩ := exists_of_tokenAt htoken
      exact hcomment x hx

namespace Reads

theorem text_eq (h : l.Reads ps) : l.text = textOf ps := by
  rw [← map_snd_flaggedOf, ← h.flags, List.map_map]
  exact l.map_snd_columns.symm

theorem codeChars (h : l.Reads ps) : l.codeChars.map Prod.snd = Json.codeOf ps := by
  have hfilter : (flaggedOf ps).filter (fun f => !f.1) =
      l.codeChars.map fun x => (l.isQuoted x.1, x.2) := by
    rw [← h.flags, List.filter_map]
    rfl
  rw [Json.codeOf, hfilter, List.map_map]
  rfl

theorem codeText (h : l.Reads ps) : l.codeText = Text.trim (Json.maskedOf ps) := by
  unfold Line.codeText Json.maskedOf
  rw [← h.flags, List.map_map]
  rfl

end Reads

end Line

end SourceEditor
