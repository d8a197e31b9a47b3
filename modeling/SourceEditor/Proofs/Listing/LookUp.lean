/-
  SourceEditor/Proofs/Listing/LookUp.lean
  =======================================
  **The index never goes stale.**  Whatever is done to a buffer, of a text or of listings, and
  whenever lines are looked up in between: an identity is found on the first line that carries it.
  In a listing many lines may carry the same identity, and that of a line elsewhere.

  Looking up is the one question that leaves something behind.  The index that it leaves is taken
  along by all that is done later, and nothing else is different for it.
-/
import SourceEditor.Proofs.Listing.Buffers
import SourceEditor.Search.Replace

namespace SourceEditor

/-! ### Operations -/

/-- What can be done to a buffer of a text or of listings, lines being looked up included. -/
inductive BufferOperation where
  | call (c : BufferCall)
  | replaceAll (pattern replacement : Text) (r : Range) (o : FindOptions)
  | replaceNext (pattern replacement : Text) (selection : Range) (o : FindOptions) (wrap : Bool)
  | annotate (n : Nat) (id : LineId) (spans : List Span)
  | appendAnnotated (id : LineId) (t : Text) (spans : List Span)
  | clear
  | write (name : Text) (source : Buffer) (found : List Range)
  | findAll (name : Text) (source : Buffer) (pattern : Text) (o : FindOptions)
  | lookUp (id : LineId)

namespace Buffer

/-- The buffer that an operation leaves; one that is refused leaves it as it was. -/
def operated (b : Buffer) : BufferOperation → Buffer
  | .call c => b.after c
  | .replaceAll pattern replacement r o => (b.replaceAll pattern replacement r o).2
  | .replaceNext pattern replacement selection o wrap =>
    (b.replaceNext pattern replacement selection o wrap).2
  | .annotate n id spans => b.annotate n id spans
  | .appendAnnotated id t spans => b.appendAnnotated id t spans
  | .clear =>
    match (⟨b⟩ : Listing).clear with
    | .error _ => b
    | .ok l => l.buffer
  | .write name source found =>
    match (⟨b⟩ : Listing).write name source found with
    | .error _ => b
    | .ok l => l.buffer
  | .findAll name source pattern o =>
    match (⟨b⟩ : Listing).findAll name source pattern o with
    | .error _ => b
    | .ok (_, l) => l.buffer
  | .lookUp id => (b.lookUp id).2

/-- The buffer that operations leave, done one after the other. -/
def operate (b : Buffer) (operations : List BufferOperation) : Buffer :=
  operations.foldl operated b

section Replacing

variable {motive : Buffer → Prop}
  (edit : ∀ {b b' : Buffer} {q : EditRequest} {e : Edit}, motive b → b.edit q = (.ok e, b') →
    motive b')

include edit

/-- What edits keep is kept where matches are replaced from the first one on. -/
theorem replaceFrom_induct (m : Matcher) (replacement : Text) (fuel : Nat) {b : Buffer} (r : Range)
    (start : motive b) : motive (m.replaceFrom replacement fuel b r).2 := by
  induction fuel generalizing b r with
  | zero => exact start
  | succ fuel ih =>
    rw [Matcher.replaceFrom]
    rcases m.findFirst b r with _ | found
    · exact start
    · dsimp only
      rcases h : b.replace found (m.replacement b found replacement) with ⟨err | e, b₁⟩
      · rwa [eq_of_edit_error (q := .replace found (m.replacement b found replacement)) h]
      · have hrest := ih (r.rebase found e.caret)
          (edit (q := .replace found (m.replacement b found replacement)) start h)
        rcases hmore : m.replaceFrom replacement fuel b₁ (r.rebase found e.caret) with
          ⟨err | es, b₂⟩
        all_goals
          rw [hmore] at hrest
          dsimp only
          rw [hmore]
          exact hrest

theorem replaceAll_induct (pattern replacement : Text) {b : Buffer} (r : Range) (o : FindOptions)
    (start : motive b) : motive (b.replaceAll pattern replacement r o).2 := by
  rw [replaceAll]
  rcases b.checkRange r with err | ⟨⟩
  · exact start
  · dsimp only
    rcases Matcher.ofPattern pattern o.forward with err | m
    · exact start
    · exact replaceFrom_induct edit m replacement _ r start

theorem replaceNext_induct (pattern replacement : Text) {b : Buffer} (selection : Range)
    (o : FindOptions) (wrap : Bool) (start : motive b) :
    motive (b.replaceNext pattern replacement selection o wrap).2 := by
  rw [replaceNext]
  rcases b.checkRange selection with err | ⟨⟩
  · exact start
  dsimp only
  rcases Matcher.ofPattern pattern o with err | m
  · exact start
  dsimp only
  split
  · rcases h : b.replace selection (m.replacement b selection replacement) with ⟨err | e, b₁⟩
    · rwa [eq_of_edit_error (q := .replace selection (m.replacement b selection replacement)) h]
    · have hb₁ := edit (q := .replace selection (m.replacement b selection replacement)) start h
      dsimp only
      rcases b₁.findNext pattern (if o.reverse then e.range.start else e.caret) o wrap with
        err | next
      · exact hb₁
      · exact hb₁
  · rcases b.findNext pattern selection.start o wrap with err | _ | next
    · exact start
    · exact start
    · exact start

end Replacing

/-! ### The index through operations -/

theorem IsIndexed.edit {b b' : Buffer} {q : EditRequest} {e : Edit} (hb : b.IsIndexed)
    (h : b.edit q = (.ok e, b')) : b'.IsIndexed := by
  have hafter := hb.after (.edit q)
  simpa only [Buffer.after, h] using hafter

/-- Annotating a line takes the index away.  A number that no line has leaves it, and the lines. -/
theorem IsIndexed.annotate {b : Buffer} (hb : b.IsIndexed) (n : Nat) (id : LineId)
    (spans : List Span) : (b.annotate n id spans).IsIndexed := by
  rw [Buffer.annotate]
  by_cases hn : n = 0
  · rw [if_pos hn]
    exact hb
  rw [if_neg hn]
  by_cases hthere : n ≤ b.lineCount
  · -- the line may have been the first one with its old identity, or may be so with the new one
    apply isIndexed_of_none
    exact if_pos hthere
  · refine hb.of_eq (if_neg hthere) ?_
    have hbeyond : b.lines.length ≤ n - 1 := by
      rw [lineCount] at hthere
      omega
    exact congrArg (List.map Line.id) (List.modify_eq_self hbeyond)

theorem IsIndexed.appendAnnotated {b : Buffer} (hb : b.IsIndexed) (id : LineId) (t : Text)
    (spans : List Span) : (b.appendAnnotated id t spans).IsIndexed := by
  refine (hb.appendOne id t).of_eq rfl ?_
  rw [ids, lines_appendAnnotated, List.map_append, ids_appendOne]
  rfl

theorem IsIndexed.write {l l' : Listing} {name : Text} {source : Buffer} {found : List Range}
    (hb : l.buffer.IsIndexed) (h : l.write name source found = .ok l') : l'.buffer.IsIndexed :=
  Listing.write_induct h hb IsIndexed.edit (fun _ hb => hb.annotate 1 none [])
    fun _ id t spans _ hb => hb.appendAnnotated id t spans

/-- Whatever is done: if there is an index, it is the right one. -/
theorem IsIndexed.operated {b : Buffer} (hb : b.IsIndexed) (operation : BufferOperation) :
    (b.operated operation).IsIndexed := by
  cases operation with
  | call c => exact hb.after c
  | replaceAll pattern replacement r o =>
    exact replaceAll_induct IsIndexed.edit pattern replacement r o hb
  | replaceNext pattern replacement selection o wrap =>
    exact replaceNext_induct IsIndexed.edit pattern replacement selection o wrap hb
  | annotate n id spans => exact hb.annotate n id spans
  | appendAnnotated id t spans => exact hb.appendAnnotated id t spans
  | clear =>
    rw [Buffer.operated]
    split
    · exact hb
    · rename_i l hl
      exact Listing.clear_induct hl hb IsIndexed.edit fun _ hb => hb.annotate 1 none []
  | write name source found =>
    rw [Buffer.operated]
    split
    · exact hb
    · rename_i l hl
      exact IsIndexed.write (l := ⟨b⟩) hb hl
  | findAll name source pattern o =>
    rw [Buffer.operated, Listing.findAll]
    rcases source.findAll pattern source.range o with err | found
    · exact hb
    · dsimp only
      rcases hl : (⟨b⟩ : Listing).write name source found with err | l
      · exact hb
      · exact IsIndexed.write (l := ⟨b⟩) hb hl
  | lookUp id => exact hb.lookUp id

theorem IsIndexed.operate {b : Buffer} (hb : b.IsIndexed) (operations : List BufferOperation) :
    (b.operate operations).IsIndexed := by
  induction operations generalizing b with
  | nil => exact hb
  | cons operation operations ih => exact ih (hb.operated operation)

/-! ### What is found -/

/-- Whether a line is the first to carry an identity. -/
def IsFirstLine (b : Buffer) (id : LineId) (n : Nat) : Prop :=
  (∃ l, b.line? n = some l ∧ l.id = id) ∧ ∀ k l, k < n → b.line? k = some l → l.id ≠ id

theorem isFirstLine_iff {b : Buffer} {id n : Nat} :
    b.IsFirstLine (some id) n ↔ (b.ids.idxOf? (some id)).map (· + 1) = some n := by
  simp only [Option.map_eq_some_iff, List.idxOf?_eq_some_iff, IsFirstLine, line?_eq_some_iff]
  constructor
  · rintro ⟨⟨l, ⟨hn, hget⟩, hid⟩, hfirst⟩
    obtain ⟨hlt, hget⟩ := List.getElem?_eq_some_iff.mp hget
    have hlt' : n - 1 < b.ids.length := by simpa [ids] using hlt
    have hhere : b.ids[n - 1] = some id := by simp [ids, hget, hid]
    refine ⟨n - 1, ⟨hlt', hhere, ?_⟩, Nat.sub_one_add_one hn⟩
    intro j hj hsame
    have hj' : j < b.lines.length := Nat.lt_trans hj hlt
    apply hfirst (j + 1) b.lines[j] (by omega) ⟨Nat.succ_ne_zero j, List.getElem?_eq_getElem hj'⟩
    simpa [ids] using hsame
  · rintro ⟨i, ⟨hi, hhere, hfirst⟩, rfl⟩
    have hi' : i < b.lines.length := by simpa [ids] using hi
    refine ⟨⟨b.lines[i], ⟨Nat.succ_ne_zero i, List.getElem?_eq_getElem hi'⟩, ?_⟩, ?_⟩
    · simpa [ids] using hhere
    · intro k l hk hl hsame
      obtain ⟨hk0, hget⟩ := hl
      obtain ⟨hlt, hget⟩ := List.getElem?_eq_some_iff.mp hget
      apply hfirst (k - 1) (by omega)
      simp [ids, hget, hsame]

/-- **The index never goes stale.**  After any operations on a buffer, lines being looked up at any
moment, an identity is found on the first line that carries it and nowhere if no line does, and no
identity is found nowhere. -/
theorem lookUp_finds_first_line {b : Buffer} (reached : b.Reachable)
    (operations : List BufferOperation) (id : LineId) :
    let b' := b.operate operations
    (∀ n, (b'.lookUp id).1 = some n ↔ id ≠ none ∧ b'.IsFirstLine id n) ∧
      ((b'.lookUp id).1 = none ↔ id = none ∨ ∀ l ∈ b'.lines, l.id ≠ id) := by
  intro b'
  have hb' : b'.IsIndexed := reached.isIndexed.operate operations
  change (∀ n, b'.lineNumber? id = some n ↔ _) ∧ (b'.lineNumber? id = none ↔ _)
  rcases id with _ | id
  · simp [lineNumber?_none]
  · rw [hb'.lineNumber?_eq]
    constructor
    · intro n
      rw [isFirstLine_iff]
      simp
    · rw [Option.map_eq_none_iff, List.idxOf?_eq_none_iff, ids]
      simp

/-- A listing repeats the identity of a line for each match on it.  It is found on the first of its
rows, and still so after the heading has become a line that carries it. -/
theorem lookUp_finds_first_line_of_repeated :
    let b := Buffer.new .plainText
    let rows : List BufferOperation := [.annotate 1 none [], .lookUp (some 7),
      .appendAnnotated (some 7) ['a'] [], .appendAnnotated (some 7) ['a'] []]
    b.Reachable ∧ ((b.operate rows).lookUp (some 7)).1 = some 2 ∧
      ((b.operate (rows ++ [.lookUp (some 7), .annotate 1 (some 7) []])).lookUp (some 7)).1 =
        some 1 := by
  intro b rows
  have reached : b.Reachable := .new _
  refine ⟨reached, ?_, ?_⟩
  · refine ((lookUp_finds_first_line reached rows (some 7)).1 2).mpr ⟨by decide, ?_⟩
    exact isFirstLine_iff.mpr (by decide +kernel)
  · refine ((lookUp_finds_first_line reached _ (some 7)).1 1).mpr ⟨by decide, ?_⟩
    exact isFirstLine_iff.mpr (by decide +kernel)

end Buffer

end SourceEditor
