/-
  SourceEditor/Proofs/Buffer/Annotation.lean
  ==========================================
  **Scanning a part is as good as scanning all.**  After an edit only the lines that it leaves are
  scanned, and those below as far as the state they inherit has changed.  The annotation of every
  line is all the same the one that a scan of the whole text from the top gives.

  The scan stops early where a line leaves the state that is noted of it.  What is noted of the
  last line of an edit is not its own state but that of the line at whose place the edit ends, so
  what makes the stop right is a property of the lines below: they are annotated as from the state
  that is noted above them.
-/
import SourceEditor.Proofs.Buffer.Splice

namespace SourceEditor

/-! ### Chains of lines -/

/-- Whether each line is as it should be in the state that the line above it leaves, the first one
in the given state. -/
def Chained (Fits : ScanState → Line → Prop) (state : ScanState) : List Line → Prop
  | [] => True
  | l :: rest => Fits state l ∧ Chained Fits l.stateOut rest

/-- The state that lines leave to the line below them. -/
def stateBelow (state : ScanState) : List Line → ScanState
  | [] => state
  | l :: rest => stateBelow l.stateOut rest

theorem stateBelow_eq_getLast? (state : ScanState) (ls : List Line) :
    stateBelow state ls = (ls.getLast?.map Line.stateOut).getD state := by
  induction ls generalizing state with
  | nil => rfl
  | cons l rest ih =>
    rw [stateBelow, ih]
    cases rest with
    | nil => rfl
    | cons l' rest =>
      rw [List.getLast?_cons_cons, List.getLast?_eq_some_getLast (List.cons_ne_nil _ _)]
      rfl

section Chained

variable {Fits : ScanState → Line → Prop} {state : ScanState}

theorem chained_append {first second : List Line} :
    Chained Fits state (first ++ second) ↔
      Chained Fits state first ∧ Chained Fits (stateBelow state first) second := by
  induction first generalizing state with
  | nil => simp [Chained, stateBelow]
  | cons l rest ih => simp only [List.cons_append, Chained, stateBelow, ih, and_assoc]

/-- A line may be changed in what neither matters to it nor leaves the line below another state. -/
theorem Chained.modify {f : Line → Line} (hfits : ∀ {state l}, Fits state l → Fits state (f l))
    (hout : ∀ l, (f l).stateOut = l.stateOut) {ls : List Line} (h : Chained Fits state ls)
    (i : Nat) : Chained Fits state (ls.modify i f) := by
  induction ls generalizing state i with
  | nil => cases i <;> exact h
  | cons l rest ih =>
    cases i with
    | zero => exact ⟨hfits h.1, (hout l).symm ▸ h.2⟩
    | succ i => exact ⟨h.1, ih h.2 i⟩

/-! ### Scanning again -/

variable {lex : Lexicon} (scanned : ∀ state l, Fits state (Line.scanned lex state l))
include scanned

/-- Lines all scanned again are as they should be, if a line just scanned is, whatever they were. -/
theorem chained_rescan_of_length_le {n : Nat} {ls : List Line} (h : ls.length ≤ n) :
    Chained Fits state (rescan lex state n ls) := by
  induction ls generalizing state n with
  | nil => cases n <;> exact trivial
  | cons l rest ih =>
    cases n with
    | zero => exact absurd h (by simp)
    | succ n => exact ⟨scanned state l, ih (Nat.le_of_succ_le_succ h)⟩

/-- Scanning may stop at a line that leaves the state noted of it, if the lines below it are as they
should be below that state. -/
theorem chained_rescan_zero {l : Line} {rest : List Line} (h : Chained Fits l.stateOut rest) :
    Chained Fits state (rescan lex state 0 (l :: rest)) := by
  induction rest generalizing state l with
  | nil =>
    simp only [rescan]
    split <;> exact ⟨scanned state l, trivial⟩
  | cons l' rest ih =>
    rw [rescan]
    by_cases hstate : (l.scanned lex state).stateOut = l.stateOut
    · -- the state noted of the line is still right, so the lines below may stay as they are
      simp only [if_pos hstate]
      exact ⟨scanned state l, by rw [hstate]; exact h⟩
    · simp only [if_neg hstate]
      exact ⟨scanned state l, ih h.2⟩

/-- After the lines of an edit have been scanned again, with the lines below as far as needed, all
are as they should be.  It takes that the lines below are so below the state that is noted of the
last line of the edit. -/
theorem chained_rescan {first below : List Line} {l : Line} (h : Chained Fits l.stateOut below) :
    Chained Fits state (rescan lex state first.length (first ++ l :: below)) := by
  induction first generalizing state with
  | nil => exact chained_rescan_zero scanned h
  | cons l' first ih => exact ⟨scanned state l', ih⟩

end Chained

/-! ### Annotated lines -/

/-- Whether a line has the annotation that a scan from the given state gives it. -/
abbrev Line.ScannedIn (lex : Lexicon) (state : ScanState) (l : Line) : Prop :=
  l = l.scanned lex state

theorem Line.scannedIn_scanned (lex : Lexicon) (state : ScanState) (l : Line) :
    ScannedIn lex state (l.scanned lex state) := rfl

/-- Whether each line has the annotation that it gets in the state that the line above leaves, the
first one in the given state. -/
def Annotated (lex : Lexicon) (state : ScanState) (ls : List Line) : Prop :=
  Chained (Line.ScannedIn lex) state ls

/-- Annotated lines show the scans that their texts have one after the other. -/
theorem scans_of_annotated {lex : Lexicon} {state : ScanState} {ls : List Line}
    (h : Annotated lex state ls) :
    ls.map (fun l => (⟨l.spans, l.stateOut⟩ : Scan)) = lex.scanLines state (ls.map Line.text) := by
  induction ls generalizing state with
  | nil => rfl
  | cons l rest ih =>
    obtain ⟨hl, hrest⟩ := h
    have hscan : (⟨l.spans, l.stateOut⟩ : Scan) = lex.scanLine state l.text := by
      rw [hl]
      rfl
    simp only [List.map_cons, Lexicon.scanLines, ← hscan, ih hrest]

/-- Whether a line begins in the given state, and leaves the state that a scan from there leaves.
Its spans may be of any kind. -/
abbrev Line.TrackedIn (lex : Lexicon) (state : ScanState) (l : Line) : Prop :=
  l.stateIn = state ∧ l.stateOut = (lex.scanLine state l.text).stateOut

theorem Line.trackedIn_scanned (lex : Lexicon) (state : ScanState) (l : Line) :
    TrackedIn lex state (l.scanned lex state) := ⟨rfl, rfl⟩

/-- Whether each line begins in the state that the line above leaves, the first one in the given
state, and leaves the state that its scan leaves. -/
def Tracked (lex : Lexicon) (state : ScanState) (ls : List Line) : Prop :=
  Chained (Line.TrackedIn lex) state ls

theorem tracked_of_annotated {lex : Lexicon} {state : ScanState} {ls : List Line}
    (h : Annotated lex state ls) : Tracked lex state ls := by
  induction ls generalizing state with
  | nil => trivial
  | cons l rest ih =>
    obtain ⟨hl, hrest⟩ := h
    refine ⟨?_, ih hrest⟩
    rw [hl]
    exact ⟨rfl, rfl⟩

theorem statesIn_of_tracked {lex : Lexicon} {state : ScanState} {ls : List Line}
    (h : Tracked lex state ls) :
    ls.map Line.stateIn = (state :: ls.map Line.stateOut).take ls.length := by
  induction ls generalizing state with
  | nil => rfl
  | cons l rest ih =>
    obtain ⟨⟨hin, _⟩, hrest⟩ := h
    simp only [List.map_cons, List.length_cons, List.take_succ_cons, hin, ih hrest]

theorem isConsistent_of_tracked {lex : Lexicon} {state : ScanState} {ls : List Line}
    (h : Tracked lex state ls) : Buffer.isConsistent.go state ls = true := by
  induction ls generalizing state with
  | nil => rfl
  | cons l rest ih =>
    obtain ⟨⟨hin, _⟩, hrest⟩ := h
    simp only [Buffer.isConsistent.go, hin, ih hrest, decide_true, Bool.and_self]

/-- New lines end in a line of which the given state is noted. -/
theorem Line.unscannedLines_eq_append (stateOut : ScanState) {ids : List LineId} {ts : List Text}
    (hne : ts ≠ []) (h : ids.length = ts.length) :
    ∃ first l, unscannedLines stateOut ids ts = first ++ [l] ∧ first.length = ts.length - 1 ∧
      l.stateOut = stateOut := by
  induction ts generalizing ids with
  | nil => exact absurd rfl hne
  | cons t rest ih =>
    cases ids with
    | nil => simp at h
    | cons id ids =>
      cases rest with
      | nil => exact ⟨[], { Line.unscanned id t with stateOut }, rfl, rfl, rfl⟩
      | cons t' rest =>
        have hids : ids.length = (t' :: rest).length := by simpa using h
        obtain ⟨first, l, heq, hlength, hstate⟩ := ih (List.cons_ne_nil _ _) hids
        refine ⟨.unscanned id t :: first, l, ?_, ?_, hstate⟩
        · rw [unscannedLines, heq]
          · rfl
          · simp
        · simp [hlength]

namespace Buffer

/-- The state in which a line begins is the one that the lines above it leave. -/
theorem stateAt_eq_stateBelow {b : Buffer} {i : Nat} (h : i ≤ b.lines.length) :
    b.stateAt i = stateBelow .normal (b.lines.take i) := by
  rw [stateBelow_eq_getLast?]
  cases i with
  | zero => rfl
  | succ i =>
    rw [stateAt, List.getLast?_take, if_neg (Nat.succ_ne_zero i), Nat.add_sub_cancel,
      List.getElem?_eq_getElem h]
    rfl

/-- The lines of a buffer around an accepted line. -/
theorem lines_eq_append {b : Buffer} {p : Point} (h : b.HasPoint p) :
    b.lines = b.lines.take (p.line - 1) ++
      b.lines[p.line - 1]?.getD b.lastLine :: b.lines.drop (p.line - 1 + 1) := by
  obtain ⟨l, hl, _⟩ := hasPoint_iff.mp h
  obtain ⟨hlt, hget⟩ := List.getElem?_eq_some_iff.mp (line?_eq_some_iff.mp hl).2
  rw [(line?_eq_some_iff.mp hl).2, Option.getD_some, ← hget, ← List.drop_eq_getElem_cons hlt,
    List.take_append_drop]

/-! ### What every call keeps -/

/-- Whether all lines are as they should be by the rules of the buffer, from the top on. -/
def IsChained (Fits : Lexicon → ScanState → Line → Prop) (b : Buffer) : Prop :=
  Chained (Fits b.profile.lexicon) .normal b.lines

section IsChained

variable {Fits : Lexicon → ScanState → Line → Prop} {b : Buffer}

theorem IsChained.fits {n : Nat} {l : Line} (hb : b.IsChained Fits) (hl : b.line? n = some l) :
    Fits b.profile.lexicon (b.stateAt (n - 1)) l := by
  obtain ⟨hlt, hget⟩ := List.getElem?_eq_some_iff.mp (line?_eq_some_iff.mp hl).2
  have hsplit : b.lines = b.lines.take (n - 1) ++ l :: b.lines.drop (n - 1 + 1) := by
    rw [← hget, ← List.drop_eq_getElem_cons hlt, List.take_append_drop]
  unfold IsChained at hb
  rw [hsplit, chained_append] at hb
  rw [stateAt_eq_stateBelow (Nat.le_of_lt hlt)]
  exact hb.2.1

variable (scanned : ∀ lex state l, Fits lex state (Line.scanned lex state l))
include scanned

theorem isChained_ofText (t : Text) (profile : Profile) : (ofText t profile).IsChained Fits :=
  chained_rescan_of_length_le (scanned _) (by simp)

theorem isChained_setProfile (b : Buffer) (profile : Profile) :
    (b.setProfile profile).IsChained Fits :=
  chained_rescan_of_length_le (scanned _) (Nat.le_refl _)

theorem IsChained.appendOne (hb : b.IsChained Fits) (id : LineId) (t : Text) :
    (b.appendOne id t).IsChained Fits := by
  refine chained_append.mpr ⟨hb, ?_, trivial⟩
  rw [stateBelow_eq_getLast?, List.getLast?_eq_some_getLast b.lines_ne_nil]
  exact scanned _ _ _

theorem IsChained.replaced (hb : b.IsChained Fits) {r : Range} (hr : b.checkRange r = .ok ())
    (kind : ChangeKind) (after : Range) (pieces : List Text) :
    (b.replaced kind r after pieces).IsChained Fits := by
  obtain ⟨hstart, hstop, _⟩ := checkRange_eq_ok_iff.mp hr
  have hfirst : r.start.line - 1 ≤ b.lines.length := by
    obtain ⟨l, hl, _⟩ := hasPoint_iff.mp hstart
    exact Nat.le_of_lt (List.getElem?_eq_some_iff.mp (line?_eq_some_iff.mp hl).2).1
  unfold IsChained at hb
  -- the lines above the range are as they were
  have habove : Chained (Fits b.profile.lexicon) .normal (b.lines.take (r.start.line - 1)) := by
    rw [← List.take_append_drop (r.start.line - 1) b.lines, chained_append] at hb
    exact hb.1
  -- the lines below it are as they should be below the state that is noted of its last line
  rw [lines_eq_append hstop, chained_append] at hb
  have hbelow := hb.2.2
  refine chained_append.mpr ⟨habove, ?_⟩
  rw [← stateAt_eq_stateBelow hfirst]
  obtain ⟨first, l, heq, hlength, hstate⟩ := Line.unscannedLines_eq_append
    (b.lines[r.stop.line - 1]?.getD b.lastLine).stateOut (Text.surround_ne_nil _ _ pieces)
    (length_identities b.nextId (b.lines[r.start.line - 1]?.getD b.firstLine).id
      (r.isEmpty && r.start.col == 0 && pieces.length > 1 && pieces.getLast? == some [])
      (mt List.eq_nil_of_length_eq_zero (Text.surround_ne_nil
        ((b.lines[r.start.line - 1]?.getD b.firstLine).text.take r.start.col)
        ((b.lines[r.stop.line - 1]?.getD b.lastLine).text.drop r.stop.col) pieces)))
  rw [heq, ← hlength, List.append_assoc]
  exact chained_rescan (scanned _) (hstate ▸ hbelow)

theorem IsChained.after (hb : b.IsChained Fits) (c : BufferCall) : (b.after c).IsChained Fits :=
  after_induct c hb (fun _ _ _ after t hb hr => hb.replaced scanned hr _ after t.lines)
    (fun _ t hb _ => hb.appendOne scanned _ t)
    (fun b profile _ => isChained_setProfile scanned b profile) fun _ _ hb => hb

theorem IsChained.edit (hb : b.IsChained Fits) {b' : Buffer} {q : EditRequest} {e : Edit}
    (h : b.edit q = (.ok e, b')) : b'.IsChained Fits := by
  have hafter := hb.after scanned (.edit q)
  simpa only [Buffer.after, h] using hafter

theorem Reachable.isChained (reached : b.Reachable) : b.IsChained Fits :=
  reached.induct (isChained_ofText scanned)
    (fun _ _ _ after t hb hr => hb.replaced scanned hr _ after t.lines)
    (fun _ t hb _ => hb.appendOne scanned _ t)
    (fun b profile _ => isChained_setProfile scanned b profile) (fun _ _ hb => hb) fun _ hb => hb

end IsChained

/-- Whether all lines have the annotation that a scan from the top gives them. -/
def IsAnnotated (b : Buffer) : Prop := b.IsChained Line.ScannedIn

/-- Whether all lines begin and end in the states in which a scan from the top finds them. -/
def IsTracked (b : Buffer) : Prop := b.IsChained Line.TrackedIn

/-- A line begins in the state that the line above it leaves, and leaves the state that its scan
leaves. -/
theorem IsTracked.states {b : Buffer} (hb : b.IsTracked) {n : Nat} {l : Line}
    (hl : b.line? n = some l) : l.stateIn = b.stateAt (n - 1) ∧
      l.stateOut = (b.profile.lexicon.scanLine l.stateIn l.text).stateOut := by
  obtain ⟨hin, hout⟩ := IsChained.fits hb hl
  exact ⟨hin, hin.symm ▸ hout⟩

/-- Each line is annotated as from the state that the line above it leaves. -/
theorem IsAnnotated.eq_scanned {b : Buffer} (hb : b.IsAnnotated) {n : Nat} {l : Line}
    (hl : b.line? n = some l) : l = l.scanned b.profile.lexicon (b.stateAt (n - 1)) :=
  IsChained.fits hb hl

theorem IsAnnotated.eq_scanned_stateIn {b : Buffer} (hb : b.IsAnnotated) {n : Nat} {l : Line}
    (hl : b.line? n = some l) : l.ScannedIn b.profile.lexicon l.stateIn := by
  have heq := hb.eq_scanned hl
  have hin : l.stateIn = b.stateAt (n - 1) := congrArg Line.stateIn heq
  rwa [← hin] at heq

theorem IsAnnotated.edit {b b' : Buffer} (hb : b.IsAnnotated) {q : EditRequest} {e : Edit}
    (h : b.edit q = (.ok e, b')) : b'.IsAnnotated :=
  IsChained.edit Line.scannedIn_scanned hb h

theorem Reachable.isAnnotated {b : Buffer} (reached : b.Reachable) : b.IsAnnotated :=
  reached.isChained Line.scannedIn_scanned

/-! ### What indenting goes by -/

/-- Whether all lines are annotated, unless they are indented as the lines above them whatever
their tokens are. -/
def ShowsScans (b : Buffer) : Prop := b.profile.indent ≠ .keep → b.IsAnnotated

theorem ShowsScans.after {b : Buffer} (hb : b.ShowsScans) (c : BufferCall) :
    (b.after c).ShowsScans := by
  refine after_induct c hb ?_ ?_ ?_ ?_
  · intro b kind r after t hb hr hstyle
    exact IsChained.replaced Line.scannedIn_scanned (hb hstyle) hr kind after t.lines
  · intro b t hb _ hstyle
    exact IsChained.appendOne Line.scannedIn_scanned (hb hstyle) (some b.nextId) t
  · intro b profile _ _
    exact isChained_setProfile Line.scannedIn_scanned b profile
  · exact fun _ _ hb => hb

theorem ShowsScans.edit {b b' : Buffer} (hb : b.ShowsScans) {q : EditRequest} {e : Edit}
    (h : b.edit q = (.ok e, b')) : b'.ShowsScans := by
  have hafter := hb.after (.edit q)
  simpa only [Buffer.after, h] using hafter

theorem Reachable.showsScans {b : Buffer} (reached : b.Reachable) : b.ShowsScans :=
  fun _ => reached.isAnnotated

/-- **Every buffer reached is annotated as by one scan of its whole text.**  The spans and outgoing
states of its lines are those of scanning all its lines from the normal state, each in the state
that the line above leaves; the incoming states are those states moved down by one line. -/
theorem Reachable.scanned_from_top {b : Buffer} (reached : b.Reachable) :
    let scans := b.profile.lexicon.scanLines .normal b.texts
    b.lines.map (fun l => (⟨l.spans, l.stateOut⟩ : Scan)) = scans ∧
      b.lines.map Line.stateIn = (.normal :: scans.map Scan.stateOut).take b.lineCount ∧
      b.isConsistent = true := by
  have h : Annotated b.profile.lexicon .normal b.lines := reached.isAnnotated
  have hscans := scans_of_annotated h
  refine ⟨hscans, ?_, isConsistent_of_tracked (tracked_of_annotated h)⟩
  have hstates := statesIn_of_tracked (tracked_of_annotated h)
  rw [hstates, texts, ← hscans, List.map_map]
  rfl

/-- A comment is opened above two lines, and closed by an edit that makes one line of them. -/
theorem scanned_from_top_of_comment :
    let opened := (Buffer.ofText ['a', '\n', 'b'] (.ofLanguage .c)).after
      (.edit (.insert ⟨1, 0⟩ ['/', '*', '\n']))
    let b := opened.after (.edit (.replace ⟨⟨2, 1⟩, ⟨3, 0⟩⟩ ['*', '/']))
    let scans := b.profile.lexicon.scanLines .normal b.texts
    b.Reachable ∧ b.lines.map (fun l => (⟨l.spans, l.stateOut⟩ : Scan)) = scans ∧
      b.lines.map Line.stateIn = (.normal :: scans.map Scan.stateOut).take b.lineCount ∧
      b.isConsistent = true :=
  have reached := ((Reachable.ofText _ _).after _).after _
  ⟨reached, reached.scanned_from_top⟩

end Buffer

end SourceEditor
