/-
  SourceEditor/Proofs/Document/Indentation.lean
  =============================================
  **Re-indentation touches indentation only.**  A pass over some lines gives them other leading
  blanks, one line after the other, and does nothing else to the text; this is so of every document,
  and also where the pass is refused half way.  What the lines mean is another matter, for a scan
  might find other quotes behind other blanks.  In the built-in languages it does not: a line that
  begins in a quote keeps its blanks, and on any other the scan passes over them.
-/
import SourceEditor.Proofs.Document.Reindent

namespace SourceEditor

/-! ### Annotations behind blanks -/

theorem Lexicon.stateOut_scanCode_of_quotes_eq_nil {lex : Lexicon} (hquotes : lex.quotes = [])
    (skip col : Nat) (t : Text) : (lex.scanCode skip col t).stateOut = .normal := by
  have hstart : ∀ t, lex.matchStart t = none := by
    intro t
    rw [matchStart_eq_none_iff, hquotes]
    exact fun q hq => absurd hq List.not_mem_nil
  fun_induction scanCode lex skip col t with
  | case1 => rfl
  | case2 skip col c rest ih => exact ih
  | case3 col c rest i rule hsome n hend length ih => exact ih
  | case4 col c rest i rule hsome continues hend =>
    rw [hstart] at hsome
    cases hsome
  | case5 col c rest hnone hdigit number ih => exact ih
  | case6 col c rest hnone hdigit hword word ih => exact ih
  | case7 col c rest hnone hdigit hword ih => exact ih

/-- Without quotes every line begins in the normal state. -/
theorem stateIn_of_quotes_eq_nil {lex : Lexicon} (hquotes : lex.quotes = []) {ls : List Line}
    (h : Tracked lex .normal ls) : ∀ l ∈ ls, l.stateIn = .normal := by
  induction ls with
  | nil => exact fun l hl => absurd hl List.not_mem_nil
  | cons l rest ih =>
    obtain ⟨⟨hin, hout⟩, hrest⟩ := h
    rw [hout, Lexicon.scanLine, Lexicon.stateOut_scanCode_of_quotes_eq_nil hquotes] at hrest
    intro m hm
    rcases List.mem_cons.mp hm with rfl | hm
    · exact hin
    · exact ih hrest m hm

namespace Line

/-- Whether a line may come of another where it is re-indented: it begins and ends in the states of
the other; it is the other if it has the same text, and has just been scanned if not; and if the
other shows its scan, each character behind the leading blanks has the token that it had. -/
structure Realigned (lex : Lexicon) (l l' : Line) : Prop where
  stateIn : l'.stateIn = l.stateIn
  stateOut : l'.stateOut = l.stateOut
  same : l'.text = l.text → l' = l
  scanned : l'.text ≠ l.text → l'.ScannedIn lex l'.stateIn
  token : l.ScannedIn lex l.stateIn →
    ∀ k, l'.tokenAt (l'.indent.length + k) = l.tokenAt (l.indent.length + k)

theorem Realigned.refl (lex : Lexicon) (l : Line) : l.Realigned lex l :=
  ⟨rfl, rfl, fun _ => rfl, fun hne => absurd rfl hne, fun _ _ => rfl⟩

section Blanks

variable {lex : Lexicon} (hlex : lex.StartsBare) {l : Line} {u t : Text} (hu : u.IsBlank)
  (ht : t.StartsBare) (htext : l.text = u ++ t)
include hlex hu htext

theorem scanLine_of_blanks :
    lex.scanLine .normal l.text = (lex.scanLine .normal t).moved u.length := by
  rw [htext]
  exact (Lexicon.scanCode_blanks hlex hu 0 t).trans (lex.scanCode_moved u.length 0 0 t)

/-- A line that begins as code ends as it would without its leading blanks. -/
theorem stateOut_of_blanks (htracked : l.TrackedIn lex .normal) :
    l.stateOut = (lex.scanLine .normal t).stateOut := by
  rw [htracked.2, scanLine_of_blanks hlex hu htext]
  rfl

include ht

/-- Behind its leading blanks a line scanned as code shows what it would without them. -/
theorem tokenAt_of_blanks (hscanned : l.ScannedIn lex .normal) (k : Nat) :
    l.tokenAt (l.indent.length + k) = ((unscanned none t).scanned lex .normal).tokenAt k := by
  have hspans : l.spans =
      ((unscanned none t).scanned lex .normal).spans.map (Span.moved u.length) := by
    rw [hscanned]
    exact congrArg Scan.spans (scanLine_of_blanks hlex hu htext)
  have hindent : l.indent = u := by
    rw [indent, htext, Text.indent_append hu ht]
  rw [hindent, Nat.add_comm]
  exact tokenAt_moved hspans k

end Blanks

/-- A line that begins as code, and one scanned as code that differs from it in the leading
blanks. -/
theorem realigned_of_blanks {lex : Lexicon} (hlex : lex.StartsBare) {l l' : Line} {u u' t : Text}
    (hu : u.IsBlank) (hu' : u'.IsBlank) (ht : t.StartsBare) (htext : l.text = u ++ t)
    (htext' : l'.text = u' ++ t) (hne : l'.text ≠ l.text) (htracked : l.TrackedIn lex .normal)
    (hscanned' : l'.ScannedIn lex .normal) : l.Realigned lex l' := by
  have hin : l.stateIn = .normal := htracked.1
  have htracked' : l'.TrackedIn lex .normal := by
    rw [hscanned']
    exact trackedIn_scanned lex .normal l'
  have hin' : l'.stateIn = .normal := htracked'.1
  refine ⟨hin'.trans hin.symm, ?_, fun hsame => absurd hsame hne, fun _ => hin'.symm ▸ hscanned', ?_⟩
  · rw [stateOut_of_blanks hlex hu htext htracked, stateOut_of_blanks hlex hu' htext' htracked']
  · intro hscanned k
    rw [hin] at hscanned
    rw [tokenAt_of_blanks hlex hu ht htext hscanned k,
      tokenAt_of_blanks hlex hu' ht htext' hscanned' k]

end Line

/-! ### Lines that change -/

/-- Where the first of two lists is given an entry of the second, they differ in one entry less, if
they differed there. -/
theorem countP_zip_set {α : Type} [DecidableEq α] {xs ys : List α} {i : Nat} {x y : α}
    (hx : xs[i]? = some x) (hy : ys[i]? = some y) :
    (xs.zip ys).countP (fun z => z.1 ≠ z.2) =
      ((xs.set i y).zip ys).countP (fun z => z.1 ≠ z.2) + if x = y then 0 else 1 := by
  induction xs generalizing ys i with
  | nil => cases hx
  | cons a xs ih =>
    cases ys with
    | nil => cases hy
    | cons c ys =>
      cases i with
      | zero =>
        obtain rfl : a = x := Option.some.inj hx
        obtain rfl : c = y := Option.some.inj hy
        by_cases hsame : a = c <;> simp [hsame]
      | succ i =>
        rw [List.getElem?_cons_succ] at hx hy
        have hrest := ih hx hy
        simp only [List.set_cons_succ, List.zip_cons_cons, List.countP_cons, hrest]
        omega

namespace Buffer

/-- The number of lines that have other texts in another buffer. -/
def changedLines (b b' : Buffer) : Nat := (b.texts.zip b'.texts).countP fun z => z.1 ≠ z.2

theorem changedLines_self (b : Buffer) : b.changedLines b = 0 := by
  rw [changedLines, List.countP_eq_zero]
  intro z hz
  have hsame : z.1 = z.2 := by
    obtain ⟨i, hi, rfl⟩ := List.mem_iff_getElem.mp hz
    simp
  simp [hsame]

/-- Whether a buffer holds the lines of another, with other leading blanks at most on those lines of
a row that are not blank. -/
structure Respaces (b : Buffer) (n count : Nat) (b' : Buffer) : Prop where
  profile : b'.profile = b.profile
  ids : b'.ids = b.ids
  bodies : b'.texts.map Text.body = b.texts.map Text.body
  kept : ∀ i t, b.texts[i]? = some t → t.IsBlank ∨ i + 1 < n ∨ n + count ≤ i + 1 →
    b'.texts[i]? = some t

namespace Respaces

variable {b b₁ b' : Buffer} {n n' count count' : Nat}

theorem refl (b : Buffer) (n count : Nat) : b.Respaces n count b :=
  ⟨rfl, rfl, rfl, fun _ _ ht _ => ht⟩

theorem trans (h : b.Respaces n count b₁) (h' : b₁.Respaces n count b') :
    b.Respaces n count b' where
  profile := h'.profile.trans h.profile
  ids := h'.ids.trans h.ids
  bodies := h'.bodies.trans h.bodies
  kept := fun i t ht hi => h'.kept i t (h.kept i t ht hi) hi

theorem mono (h : b.Respaces n count b') (hle : n' ≤ n) (hle' : n + count ≤ n' + count') :
    b.Respaces n' count' b' where
  profile := h.profile
  ids := h.ids
  bodies := h.bodies
  kept := by
    rintro i t ht (hblank | hlt | hle)
    · exact h.kept i t ht (.inl hblank)
    · exact h.kept i t ht (.inr (.inl (by omega)))
    · exact h.kept i t ht (.inr (.inr (by omega)))

end Respaces

theorem Respaces.exists_line {b b' : Buffer} {n n' count : Nat} {l : Line}
    (h : b.Respaces n count b') (hl : b.line? n' = some l) :
    ∃ l', b'.line? n' = some l' ∧ l'.text.body = l.text.body ∧
      (l.isBlank = true ∨ n' < n ∨ n + count ≤ n' → l'.text = l.text) := by
  obtain ⟨hn, hget⟩ := line?_eq_some_iff.mp hl
  have htext : b.texts[n' - 1]? = some l.text := by
    rw [texts, List.getElem?_map, hget]
    rfl
  have hbody : (b'.texts.map Text.body)[n' - 1]? = some l.text.body := by
    rw [h.bodies, List.getElem?_map, htext]
    rfl
  rw [texts, List.map_map, List.getElem?_map, Option.map_eq_some_iff] at hbody
  obtain ⟨l', hget', hbody⟩ := hbody
  refine ⟨l', line?_eq_some_iff.mpr ⟨hn, hget'⟩, hbody, fun hkept => ?_⟩
  have htext' : b'.texts[n' - 1]? = some l.text := by
    refine h.kept (n' - 1) l.text htext ?_
    rw [Nat.sub_one_add_one hn]
    exact hkept.imp_left fun hblank => List.all_eq_true.mp hblank
  rw [texts, List.getElem?_map, hget'] at htext'
  exact Option.some.inj htext'

/-- What is done below a line leaves the text that it has been given. -/
theorem Respaces.text_above {b b₁ b' : Buffer} {n count : Nat} {l : Line} {t : Text}
    (h : b₁.Respaces (n + 1) count b') (hl : b.line? n = some l)
    (htexts : b₁.texts = b.texts.set (n - 1) t) : b'.texts[n - 1]? = some t := by
  obtain ⟨hn, hget⟩ := line?_eq_some_iff.mp hl
  have hlt : n - 1 < b.texts.length := by
    rw [texts, List.length_map]
    exact (List.getElem?_eq_some_iff.mp hget).1
  refine h.kept (n - 1) t ?_ (.inr (.inl (by omega)))
  rw [htexts, List.getElem?_set_self hlt]

theorem changedLines_of_set {b b₁ b' : Buffer} {n : Nat} {l : Line} {t : Text}
    (hl : b.line? n = some l) (htexts : b₁.texts = b.texts.set (n - 1) t)
    (htext : b'.texts[n - 1]? = some t) :
    b.changedLines b' = b₁.changedLines b' + if l.text = t then 0 else 1 := by
  have hget : b.texts[n - 1]? = some l.text := by
    rw [texts, List.getElem?_map, (line?_eq_some_iff.mp hl).2]
    rfl
  rw [changedLines, changedLines, htexts]
  exact countP_zip_set hget htext

/-- One line that is not blank may be given other leading blanks. -/
theorem respaces_of_set {b b' : Buffer} {n : Nat} {l : Line} (hl : b.line? n = some l)
    (hblank : ¬l.isBlank = true) {u : Text} (hu : u.IsBlank) (hprofile : b'.profile = b.profile)
    (hids : b'.ids = b.ids) (htexts : b'.texts = b.texts.set (n - 1) (u ++ l.text.body)) :
    b.Respaces n 1 b' where
  profile := hprofile
  ids := hids
  bodies := by rw [htexts, map_body_set hl hu]
  kept := by
    obtain ⟨hn, hget⟩ := line?_eq_some_iff.mp hl
    intro i t ht hi
    have hne : n - 1 ≠ i := by
      rintro rfl
      rw [texts, List.getElem?_map, hget] at ht
      obtain rfl : l.text = t := Option.some.inj ht
      rcases hi with hi | hi | hi
      · exact hblank (List.all_eq_true.mpr hi)
      · omega
      · omega
    rw [htexts, List.getElem?_set_ne hne, ht]

/-- An edit that gives a line that begins as code other leading blanks leaves all other lines as they
are, for the line still ends in the state it ended in. -/
theorem Reindents.realigned {b b' : Buffer} (tracked : b.IsTracked)
    (bare : b.profile.lexicon.StartsBare) {n : Nat} {l : Line} {u : Text} {e : Edit}
    (hl : b.line? n = some l) (hu : u.IsBlank) (hnormal : l.stateIn = .normal)
    (h : b.Reindents n l u e b') :
    (∀ m, m ≠ n → b'.line? m = b.line? m) ∧
      ∀ l', b'.line? n = some l' → l.Realigned b.profile.lexicon l' := by
  by_cases hsame : l.indent = u
  · rw [h.same hsame]
    refine ⟨fun _ _ => rfl, fun l' hl' => ?_⟩
    obtain rfl := Option.some.inj (hl.symm.trans hl')
    exact .refl _ l
  · obtain ⟨hn, hget⟩ := line?_eq_some_iff.mp hl
    obtain ⟨hlt, _⟩ := List.getElem?_eq_some_iff.mp hget
    obtain ⟨hin, hout⟩ := tracked.states hl
    have hstate : b.stateAt (n - 1) = .normal := hin.symm.trans hnormal
    rw [hnormal] at hout
    let l₀ : Line := { Line.unscanned l.id (u ++ l.text.body) with stateOut := l.stateOut }
    let l' := l₀.scanned b.profile.lexicon .normal
    have hne : l'.text ≠ l.text := by
      intro htext
      conv at htext => rhs; rw [← Text.indent_append_body l.text]
      exact hsame (List.append_cancel_right htext).symm
    have hrealigned : l.Realigned b.profile.lexicon l' :=
      Line.realigned_of_blanks bare (Text.isBlank_indent l.text) hu (Text.startsBare_body l.text)
        (Text.indent_append_body l.text).symm rfl hne ⟨hnormal, hout⟩ rfl
    have hlines : b'.lines = b.lines.set (n - 1) l' := by
      rw [h.lines hsame, hstate, rescan, if_pos hrealigned.stateOut,
        List.set_eq_take_append_cons_drop, if_pos hlt, Nat.sub_one_add_one hn]
    constructor
    · intro m hm
      rw [line?, line?, hlines]
      split
      · rfl
      · rw [List.getElem?_set_ne (by omega)]
    · intro k hk
      rw [line?_eq_some_iff, hlines, List.getElem?_set_self hlt] at hk
      exact Option.some.inj hk.2 ▸ hrealigned

end Buffer

/-! ### A pass -/

/-- Whether lines keep their meaning when they are given their indentation: no quote begins with a
blank, and there is none at all where also lines that begin in a quote would be moved. -/
def Profile.SparesQuotes (p : Profile) : Prop :=
  p.lexicon.StartsBare ∧ (p.indent = .keep → p.lexicon.quotes = [])

theorem Profile.sparesQuotes_ofLanguage (language : Language) :
    (Profile.ofLanguage language).SparesQuotes :=
  ⟨startsBare_ofLanguage language, by cases language <;> decide⟩

namespace Buffer

/-- A line that is given its indentation keeps its meaning, and so do all others. -/
theorem Reindents.realigned_indentBy {b b' : Buffer} (tracked : b.IsTracked)
    (spares : b.profile.SparesQuotes) {o : Options} {n : Nat} {l : Line} {e : Edit}
    (hl : b.line? n = some l) (h : b.Reindents n l (b.indentBy b.profile.indent o n) e b') :
    (∀ m, m ≠ n → b'.line? m = b.line? m) ∧
      ∀ l', b'.line? n = some l' → l.Realigned b.profile.lexicon l' := by
  by_cases hkeeps : b.keepsIndent b.profile.indent n l = true
  · rw [h.same (indentBy_of_keepsIndent hl hkeeps o).symm]
    refine ⟨fun _ _ => rfl, fun l' hl' => ?_⟩
    obtain rfl := Option.some.inj (hl.symm.trans hl')
    exact .refl _ l
  · have hkeeps := Bool.not_eq_true _ ▸ hkeeps
    have hcode : l.startsQuoted = false → l.stateIn = .normal := by
      intro hquoted
      simpa [Line.startsQuoted] using hquoted
    refine h.realigned tracked spares.1 hl (isBlank_indentBy b _ o n) ?_
    cases hindent : b.profile.indent with
    | braces =>
      rw [hindent] at hkeeps
      exact hcode (Bool.or_eq_false_iff.mp hkeeps).2
    | colons =>
      rw [hindent] at hkeeps
      exact hcode hkeeps
    | keep =>
      have hmem : l ∈ b.lines := List.mem_of_getElem? (line?_eq_some_iff.mp hl).2
      exact stateIn_of_quotes_eq_nil (spares.2 hindent) tracked l hmem

end Buffer

namespace Document

/-- What a pass over `count` lines from the line `n` on leaves, and what it tells. -/
structure Passes (b : Buffer) (n count : Nat) (result : Except BufferError Nat) (b' : Buffer) :
    Prop where
  respaces : b.Respaces n count b'
  counts : ∀ k, result = .ok k → k = b.changedLines b'
  above : ∀ m < n, b'.line? m = b.line? m
  realigned : b.IsTracked → b.profile.SparesQuotes → ∀ m l l', b.line? m = some l →
    b'.line? m = some l' → l.Realigned b.profile.lexicon l'

theorem passes_nil (b : Buffer) (n count : Nat) {result : Except BufferError Nat}
    (h : ∀ k, result = .ok k → k = 0) : Passes b n count result b where
  respaces := .refl b n count
  counts := fun k hk => (h k hk).trans b.changedLines_self.symm
  above := fun _ _ => rfl
  realigned := by
    intro _ _ m l l' hl hl'
    obtain rfl := Option.some.inj (hl.symm.trans hl')
    exact .refl _ l

theorem Passes.blank {b b' : Buffer} {n count : Nat} {result : Except BufferError Nat}
    (h : Passes b (n + 1) count result b') : Passes b n (count + 1) result b' :=
  { h with
    respaces := h.respaces.mono (Nat.le_succ n) (by omega)
    above := fun m hm => h.above m (Nat.lt_succ_of_lt hm) }

/-- A line that is not blank is given its indentation, and the pass goes on below it. -/
theorem exists_passes_cons {b : Buffer} (o : Options) {n : Nat} {l : Line} (hl : b.line? n = some l)
    (hblank : ¬l.isBlank = true) :
    ∃ e b₁, b.replace ⟨⟨n, 0⟩, ⟨n, l.indent.length⟩⟩ (b.indentBy b.profile.indent o n) =
        (.ok e, b₁) ∧
      ∀ count result b', Passes b₁ (n + 1) count result b' →
        Passes b n (count + 1) (result.map fun k => if e.changed then k + 1 else k) b' := by
  have hu := b.isBlank_indentBy b.profile.indent o n
  obtain ⟨e, b₁, h⟩ := Buffer.exists_reindents hl hu
  refine ⟨e, b₁, h.edit, fun count result b' hbelow => ⟨?_, ?_, ?_, ?_⟩⟩
  · have hstep := Buffer.respaces_of_set hl hblank hu h.profile h.ids h.texts
    exact (hstep.mono (Nat.le_refl n) (by omega)).trans
      (hbelow.respaces.mono (Nat.le_succ n) (by omega))
  · intro k hk
    rcases result with error | k'
    · cases hk
    · have htext := hbelow.respaces.text_above hl h.texts
      have hk : (if e.changed then k' + 1 else k') = k := Except.ok.inj hk
      rw [Buffer.changedLines_of_set hl h.texts htext, ← hbelow.counts k' rfl, ← hk]
      have hsame : l.text = b.indentBy b.profile.indent o n ++ l.text.body ↔
          l.indent = b.indentBy b.profile.indent o n := by
        conv => lhs; lhs; rw [← Text.indent_append_body l.text]
        exact List.append_left_inj _
      by_cases hindent : l.indent = b.indentBy b.profile.indent o n
      · rw [if_neg fun htrue => h.changed.mp htrue hindent, if_pos (hsame.mpr hindent),
          Nat.add_zero]
      · rw [if_pos (h.changed.mpr hindent), if_neg (mt hsame.mp hindent)]
  · intro m hm
    rw [hbelow.above m (Nat.lt_succ_of_lt hm), h.above m hm]
  · intro tracked spares m k k' hk hk'
    obtain ⟨hothers, hline⟩ := h.realigned_indentBy tracked spares hl
    rcases Nat.lt_or_ge n m with hlt | hle
    · -- the lines below are changed by the rest of the pass only
      have htracked₁ : b₁.IsTracked :=
        Buffer.IsChained.edit Line.trackedIn_scanned tracked (q := .replace _ _) h.edit
      rw [← h.profile]
      refine hbelow.realigned htracked₁ (h.profile ▸ spares) m k k' ?_ hk'
      rw [hothers m (by omega), hk]
    · rw [hbelow.above m (Nat.lt_succ_of_le hle)] at hk'
      rcases Nat.eq_or_lt_of_le hle with rfl | hlt
      · obtain rfl := Option.some.inj (hl.symm.trans hk)
        exact hline k' hk'
      · rw [hothers m (by omega), hk] at hk'
        obtain rfl := Option.some.inj hk'
        exact .refl _ k

/-- Every pass over lines does no more than a pass may do, however it ends. -/
theorem exists_passes (b : Buffer) (o : Options) (n count : Nat) (h : History) (m : Bool) :
    ∃ result b' h' m', (⟨b, h, o, m⟩ : Document).indentLines n count = (result, ⟨b', h', o, m'⟩) ∧
      Passes b n count result b' := by
  induction count generalizing b n h m with
  | zero => exact ⟨.ok 0, b, h, m, rfl, passes_nil b n 0 fun k hk => (Except.ok.inj hk).symm⟩
  | succ count ih =>
    rcases hl : b.line? n with _ | l
    · refine ⟨.error (.invalidLine n b.lineCount), b, h, m, ?_, passes_nil b n _ ?_⟩
      · simp only [indentLines, hl]
      · rintro k ⟨⟩
    · by_cases hblank : l.isBlank = true
      · obtain ⟨result, b', h', m', hrun, hpasses⟩ := ih b (n + 1) h m
        refine ⟨result, b', h', m', ?_, hpasses.blank⟩
        simp only [indentLines, hl, if_pos hblank, hrun]
      · obtain ⟨e, b₁, hreplace, hcons⟩ := exists_passes_cons o hl hblank
        have happly := applyIndent_of_replace hl hreplace h m
        obtain ⟨result, b', h', m', hrun, hpasses⟩ :=
          ih b₁ (n + 1) (historyRecorded h e) (m || e.changed)
        have hbelow : (recorded ⟨b₁, h, o, m⟩ e).indentLines (n + 1) count =
            (result, ⟨b', h', o, m'⟩) := hrun
        refine ⟨_, b', h', m', ?_, hcons count result b' hpasses⟩
        simp only [indentLines, hl, if_neg hblank, happly, hbelow]
        cases result <;> rfl

/-- **Re-indentation touches indentation only.**  Whatever the document is, and whether or not the
call succeeds, the lines stay as many as they are and keep their identities, and each of them keeps
what is behind its leading blanks; blank lines and lines outside the row keep their texts.  The
number given is that of the lines whose texts changed.

By the rules of a built-in language, every line begins and ends in the state it had, and a line with
the text it had is the same line.  A line that is moved is scanned again.  So its characters behind
the blanks have the tokens they had, if these were those of its scan, as they are in every buffer of
a text; what a listing shows of a match is lost where the row is moved. -/
theorem reindentLines_touches_indent_only (d : Document) (first last : Nat) :
    let b := d.buffer
    let b' := (d.reindentLines first last).2.buffer
    b'.lineCount = b.lineCount ∧ b'.ids = b.ids ∧
    (∀ n l, b.line? n = some l → ∃ l', b'.line? n = some l' ∧ l'.text.body = l.text.body ∧
      (l.isBlank = true ∨ n < first ∨ last < n → l'.text = l.text)) ∧
    (∀ k, (d.reindentLines first last).1 = .ok k → k = b.changedLines b') ∧
    (b.Obtained → ∀ language, b.profile = .ofLanguage language →
      ∀ n l l', b.line? n = some l → b'.line? n = some l' →
        l'.stateIn = l.stateIn ∧ l'.stateOut = l.stateOut ∧
        (l'.text = l.text → l' = l) ∧
        (l'.text ≠ l.text → l'.ScannedIn b.profile.lexicon l'.stateIn) ∧
        (b.Reachable ∨ l.ScannedIn b.profile.lexicon l.stateIn →
          ∀ k, l'.tokenAt (l'.indent.length + k) = l.tokenAt (l.indent.length + k))) := by
  intro b b'
  obtain ⟨buffer, h, o, m⟩ := d
  obtain ⟨result, b'', h', m', hrun, hpasses⟩ :=
    exists_passes buffer o first (last + 1 - first) (h.begin ⟨first, 0⟩) m
  have hgrouped : (⟨buffer, h, o, m⟩ : Document).reindentLines first last =
      (result, ⟨b'', h'.commit, o, m'⟩) := by
    simp only [reindentLines, grouped, hrun]
  have hb' : b' = b'' := congrArg (fun x => x.2.buffer) hgrouped
  rw [hgrouped, hb']
  have hrespaces := hpasses.respaces
  refine ⟨Buffer.lineCount_eq_of_bodies hrespaces.bodies, hrespaces.ids, ?_, hpasses.counts, ?_⟩
  · intro n l hl
    obtain ⟨l', hl', hbody, hkept⟩ := hrespaces.exists_line hl
    refine ⟨l', hl', hbody, fun hn => hkept ?_⟩
    rcases hn with hblank | hlt | hlt
    · exact .inl hblank
    · exact .inr (.inl hlt)
    · -- the row is empty if it ends above the line it begins with
      rcases Nat.lt_or_ge n first with habove | hbelow
      · exact .inr (.inl habove)
      · exact .inr (.inr (by omega))
  · intro obtained language hprofile n l l' hl hl'
    have spares : buffer.profile.SparesQuotes := by
      rw [show buffer.profile = _ from hprofile]
      exact Profile.sparesQuotes_ofLanguage language
    have h := hpasses.realigned obtained.isTracked spares n l l' hl hl'
    refine ⟨h.stateIn, h.stateOut, h.same, h.scanned, fun hshown => h.token ?_⟩
    rcases hshown with reached | hscanned
    · exact reached.isAnnotated.eq_scanned_stateIn hl
    · exact hscanned

/-- A line below a comment of two lines, with a row that goes on below the last line. -/
theorem reindentLines_touches_indent_only_of_comment :
    let d := Document.ofBuffer
      (.ofText "if (a) \x7b\n/* b\n   c */ d;\n \n\"e\" f;\n  \x7d".toList (.ofLanguage .cpp))
    let b' := (d.reindentLines 1 9).2.buffer
    d.buffer.Obtained ∧ d.buffer.Reachable ∧ d.buffer.profile = .ofLanguage .cpp ∧
      b'.lineCount = 6 ∧
      ∃ l', b'.line? 5 = some l' ∧ l'.text.body = "\"e\" f;".toList ∧ l'.stateIn = .normal ∧
        l'.tokenAt (l'.indent.length + 2) = some .string := by
  intro d b'
  have reached : d.buffer.Reachable := .ofText _ _
  obtain ⟨hcount, _, hlines, _, hbuiltIn⟩ := d.reindentLines_touches_indent_only 1 9
  obtain ⟨l, hl, hbody, hstate, htoken⟩ : ∃ l, d.buffer.line? 5 = some l ∧
      l.text.body = "\"e\" f;".toList ∧ l.stateIn = .normal ∧
        l.tokenAt (l.indent.length + 2) = some .string :=
    ⟨_, rfl, by decide +kernel, by decide +kernel, by decide +kernel⟩
  obtain ⟨l', hl', hbody', _⟩ := hlines 5 l hl
  obtain ⟨hin, _, _, _, htokens⟩ := hbuiltIn (.ofReachable reached) .cpp rfl 5 l l' hl hl'
  exact ⟨.ofReachable reached, reached, rfl, hcount.trans (by decide +kernel), l', hl',
    hbody'.trans hbody, hin.trans hstate, (htokens (.inl reached) 2).trans htoken⟩

/-- The number fields of a listing are as wide as the longest number, so that the row of a shorter
one begins with a blank.  A document of the listing indents that row as the heading, and the match
on it is a word like any other afterwards. -/
theorem reindentLines_takes_match_from_row :
    let source := Buffer.ofText (List.replicate 8 '\n' ++ ['a', '\n', 'a']) .plainText
    let found : List Range := [⟨⟨9, 0⟩, ⟨9, 1⟩⟩, ⟨⟨10, 0⟩, ⟨10, 1⟩⟩]
    ∃ listing, Listing.new.write ['f'] source found = .ok listing ∧
      let d := Document.ofBuffer listing.buffer
      let b' := (d.reindentLines 1 4).2.buffer
      d.buffer.Handed ∧ d.buffer.profile = .ofLanguage .plainText ∧
      ∃ l l', d.buffer.line? 2 = some l ∧ b'.line? 2 = some l' ∧
        l.text = [' ', '9', ' ', 'a'] ∧ l'.text = ['9', ' ', 'a'] ∧
        l.tokenAt (l.indent.length + 2) = some .found ∧
        l'.tokenAt (l'.indent.length + 2) = some .identifier := by
  intro source found
  have hrow : (Listing.new.write ['f'] source found).toOption.map
      (fun listing => listing.buffer.line? 2) =
      some (some ⟨some 8, [' ', '9', ' ', 'a'],
        Line.normalSpans [⟨0, 2, .number⟩, ⟨3, 1, .found⟩], .normal, .normal⟩) := rfl
  have hmoved : (Listing.new.write ['f'] source found).toOption.map
      (fun listing => ((ofBuffer listing.buffer).reindentLines 1 4).2.buffer.line? 2) =
      some (some ⟨some 8, ['9', ' ', 'a'],
        [⟨0, 1, .number⟩, ⟨2, 1, .identifier⟩], .normal, .normal⟩) := by decide +kernel
  rw [Line.normalSpans_eq_self (by decide) (by decide)] at hrow
  rcases hwrite : Listing.new.write ['f'] source found with error | listing
  · rw [hwrite] at hrow
    cases hrow
  · rw [hwrite] at hrow hmoved
    have made : listing.Made := .write .new (.ofReachable (.ofText _ _)) hwrite
    exact ⟨listing, rfl, .ofListing made, made.profile_eq, _, _, Option.some.inj hrow,
      Option.some.inj hmoved, rfl, rfl, by decide, by decide⟩

end Document

end SourceEditor
