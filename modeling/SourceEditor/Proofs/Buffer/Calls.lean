/-
  SourceEditor/Proofs/Buffer/Calls.lean
  =====================================
  **What can happen to a buffer.**  A buffer is made in one of four ways and then called any
  number of times: to edit its text, to take lines in at its end, to switch its profile, to take in
  a subscriber or let it go.  Between the calls lines may be looked up, which leaves an index behind.
  The buffers reached so are the ones that the laws of this theory speak of.  A call that is refused
  is a call as well; it leaves the buffer as it was.
-/
import SourceEditor.Buffer.Edit
import SourceEditor.Proofs.Text.Lines

namespace SourceEditor

/-- A request that a range of the text give way to a text. -/
inductive EditRequest where
  | insert (p : Point) (t : Text)
  | delete (r : Range)
  | replace (r : Range) (t : Text)
  deriving DecidableEq, Repr

namespace EditRequest

/-- The range that is to give way. -/
def range : EditRequest → Range
  | .insert p _ => .emptyAt p
  | .delete r => r
  | .replace r _ => r

/-- The text that is to take the place of the range. -/
def text : EditRequest → Text
  | .insert _ t => t
  | .delete _ => []
  | .replace _ t => t

/-- What the subscribers are told that the request was. -/
def kind : EditRequest → ChangeKind
  | .insert _ _ => .insert
  | .delete _ => .delete
  | .replace _ _ => .replace

end EditRequest

/-- A call that may change a buffer. -/
inductive BufferCall where
  | edit (q : EditRequest)
  | append (t : Text)
  | setProfile (p : Profile)
  | subscribe
  | unsubscribe (k : Nat)

namespace Buffer

/-- Carries out a request. -/
def edit (b : Buffer) : EditRequest → Except BufferError Edit × Buffer
  | .insert p t => b.insert p t
  | .delete r => b.delete r
  | .replace r t => b.replace r t

theorem edit_eq_splice (b : Buffer) (q : EditRequest) :
    b.edit q = b.splice q.kind q.range q.text := by
  cases q <;> rfl

/-- The buffer that a call leaves. -/
def after (b : Buffer) : BufferCall → Buffer
  | .edit q => (b.edit q).2
  | .append t => (b.append t).2
  | .setProfile p => b.setProfile p
  | .subscribe => b.subscribe.2
  | .unsubscribe k => b.unsubscribe k

/-- The buffers that are reached from those just made by any number of calls and by looking up lines
in between. -/
inductive Reachable : Buffer → Prop where
  | new (profile : Profile) : Reachable (.new profile)
  | ofText (t : Text) (profile : Profile) : Reachable (.ofText t profile)
  | ofBytes {bytes : List UInt8} {e : Encoding} {profile : Profile} {b : Buffer}
      (decoded : ofBytes bytes e profile = .ok b) : Reachable b
  | ofReader {ε : Type} {bytes : Except ε (List UInt8)} {profile : Profile} {b : Buffer}
      (read : ofReader bytes profile = .ok b) : Reachable b
  | after {b : Buffer} (reached : Reachable b) (c : BufferCall) : Reachable (b.after c)
  | lookUp {b : Buffer} (reached : Reachable b) (id : LineId) : Reachable (b.lookUp id).2

/-- Edits that a buffer accepts one after the other, and the buffer that they leave. -/
inductive Edited : Buffer → List Edit → Buffer → Prop where
  | nil (b : Buffer) : Edited b [] b
  | cons {b b₁ b₂ : Buffer} {q : EditRequest} {e : Edit} {es : List Edit}
      (first : b.edit q = (.ok e, b₁)) (others : Edited b₁ es b₂) : Edited b (e :: es) b₂

theorem Reachable.edit {b b' : Buffer} (reached : b.Reachable) {q : EditRequest} {e : Edit}
    (h : b.edit q = (.ok e, b')) : b'.Reachable := by
  have hafter := reached.after (.edit q)
  simpa only [Buffer.after, h] using hafter

theorem Edited.reachable {b b' : Buffer} {es : List Edit} (h : b.Edited es b')
    (reached : b.Reachable) : b'.Reachable := by
  induction h with
  | nil b => exact reached
  | cons first _ ih => exact ih (reached.edit first)

theorem ofBytes_eq_ofText {bytes : List UInt8} {e : Encoding} {profile : Profile} {b : Buffer}
    (decoded : ofBytes bytes e profile = .ok b) : ∃ t, b = ofText t profile := by
  unfold ofBytes at decoded
  split at decoded
  · contradiction
  · rename_i t _
    injection decoded with decoded
    exact ⟨t, decoded.symm⟩

/-- A request whose range the buffer does not have is refused, and leaves the buffer as it is. -/
theorem edit_of_checkRange {b : Buffer} {q : EditRequest} {error : BufferError}
    (h : b.checkRange q.range = .error error) : b.edit q = (.error error, b) := by
  rw [edit_eq_splice, splice, h]

theorem ofReader_eq_ofText {ε : Type} {bytes : Except ε (List UInt8)} {profile : Profile}
    {b : Buffer} (read : ofReader bytes profile = .ok b) : ∃ t, b = ofText t profile := by
  rcases bytes with error | bytes
  · cases read
  · rw [ofReader] at read
    rcases decoded : ofBytes bytes .utf8 profile with error | b'
    · simp [decoded] at read
    · simp only [decoded] at read
      exact Except.ok.inj read ▸ ofBytes_eq_ofText decoded

theorem checkRange_of_edit {b b' : Buffer} {q : EditRequest} {e : Edit}
    (h : b.edit q = (.ok e, b')) : b.checkRange q.range = .ok () := by
  rcases hcheck : b.checkRange q.range with error | ⟨⟩
  · rw [edit_of_checkRange hcheck] at h
    cases h
  · rfl

/-- An accepted request leaves the buffer alone if it puts back what it removes, and otherwise
replaces the range by the lines of the text. -/
theorem edit_cases {b b' : Buffer} {q : EditRequest} {e : Edit} (h : b.edit q = (.ok e, b')) :
    (e.changed = false ∧ b' = b) ∨
      (e.changed = true ∧ b' = b.replaced q.kind q.range
        ⟨q.range.start, q.range.start.advance q.text.normalized⟩ q.text.lines) := by
  have hcheck := checkRange_of_edit h
  rw [edit_eq_splice, splice, hcheck] at h
  dsimp only at h
  split at h
  · cases h
    exact .inl ⟨rfl, rfl⟩
  · cases h
    exact .inr ⟨rfl, rfl⟩

/-- A refused request leaves the buffer as it is. -/
theorem eq_of_edit_error {b b' : Buffer} {q : EditRequest} {error : BufferError}
    (h : b.edit q = (.error error, b')) : b' = b := by
  rcases hcheck : b.checkRange q.range with error' | ⟨⟩
  · rw [edit_of_checkRange hcheck] at h
    exact (Prod.mk.inj h).2.symm
  · rw [edit_eq_splice, splice, hcheck] at h
    dsimp only at h
    split at h <;> cases h

/-- What is kept by appending a line is kept by appending lines. -/
theorem appendNew_induct {motive : Buffer → Prop} {b : Buffer} {ts : List Text}
    (hts : ∀ t ∈ ts, t.IsLine) (hb : motive b)
    (step : ∀ (b : Buffer) (t : Text), motive b → t.IsLine →
      motive { b.appendOne (some b.nextId) t with nextId := b.nextId + 1 }) :
    motive (b.appendNew ts) := by
  induction ts generalizing b with
  | nil => exact hb
  | cons t rest ih =>
    exact ih (fun s hs => hts s (List.mem_cons_of_mem t hs)) (step b t hb (hts t (by simp)))

/-- What holds of a buffer whoever listens, and is kept where a range gives way to the lines of a
text, where a line is appended and where the profile is switched, holds of the buffer that a call
leaves. -/
theorem after_induct {motive : Buffer → Prop} {b : Buffer} (c : BufferCall) (hb : motive b)
    (replaced : ∀ (b : Buffer) (kind : ChangeKind) (r after : Range) (t : Text),
      motive b → b.checkRange r = .ok () → motive (b.replaced kind r after t.lines))
    (appendOne : ∀ (b : Buffer) (t : Text), motive b → t.IsLine →
      motive { b.appendOne (some b.nextId) t with nextId := b.nextId + 1 })
    (setProfile : ∀ (b : Buffer) (profile : Profile), motive b → motive (b.setProfile profile))
    (heard : ∀ (b : Buffer) (s : Subscribers), motive b → motive { b with subscribers := s }) :
    motive (b.after c) := by
  cases c with
  | edit q =>
    simp only [Buffer.after]
    rcases h : b.edit q with ⟨error | e, b'⟩
    · rwa [eq_of_edit_error h]
    · rcases edit_cases h with ⟨_, rfl⟩ | ⟨_, rfl⟩
      · exact hb
      · exact replaced b _ _ _ _ hb (checkRange_of_edit h)
  | append t => exact appendNew_induct (fun _ hl => Text.isLine_of_mem_lines hl) hb appendOne
  | setProfile profile => exact setProfile b profile hb
  | subscribe => exact heard b _ hb
  | unsubscribe k => exact heard b _ hb

/-- What holds of the buffers of texts whoever listens, and is kept where a range gives way to the
lines of a text, where a line is appended, where the profile is switched and where the index is
made, holds of every buffer reached. -/
theorem Reachable.induct {motive : Buffer → Prop} {b : Buffer} (reached : b.Reachable)
    (ofText : ∀ t profile, motive (Buffer.ofText t profile))
    (replaced : ∀ (b : Buffer) (kind : ChangeKind) (r after : Range) (t : Text),
      motive b → b.checkRange r = .ok () → motive (b.replaced kind r after t.lines))
    (appendOne : ∀ (b : Buffer) (t : Text), motive b → t.IsLine →
      motive { b.appendOne (some b.nextId) t with nextId := b.nextId + 1 })
    (setProfile : ∀ (b : Buffer) (profile : Profile), motive b → motive (b.setProfile profile))
    (heard : ∀ (b : Buffer) (s : Subscribers), motive b → motive { b with subscribers := s })
    (indexed : ∀ b : Buffer, motive b → motive { b with index := some b.usedIndex }) :
    motive b := by
  induction reached with
  | new profile => exact ofText [] profile
  | ofText t profile => exact ofText t profile
  | ofBytes decoded =>
    obtain ⟨t, rfl⟩ := ofBytes_eq_ofText decoded
    exact ofText t _
  | ofReader read =>
    obtain ⟨t, rfl⟩ := ofReader_eq_ofText read
    exact ofText t _
  | after _ c ih => exact after_induct c ih replaced appendOne setProfile heard
  | @lookUp b _ id ih =>
    rw [Buffer.lookUp]
    split
    · exact ih
    · exact indexed b ih

/-! ### Runs -/

/-- The buffer that calls leave, made one after the other. -/
def run (b : Buffer) (calls : List BufferCall) : Buffer := calls.foldl after b

theorem run_append (b : Buffer) (calls later : List BufferCall) :
    b.run (calls ++ later) = (b.run calls).run later := by
  simp [run, List.foldl_append]

theorem Reachable.run {b : Buffer} (reached : b.Reachable) (calls : List BufferCall) :
    (b.run calls).Reachable := by
  induction calls generalizing b with
  | nil => exact reached
  | cons c calls ih => exact ih (reached.after c)

end Buffer

end SourceEditor
