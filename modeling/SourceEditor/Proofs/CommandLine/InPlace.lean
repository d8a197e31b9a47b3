/-
  SourceEditor/Proofs/CommandLine/InPlace.lean
  ============================================
  **Files edited in place come out in UTF-8.**  A file is read in the encoding that the command line
  names.  If it is to be edited in place and its text has changed, it is written back, and then in
  UTF-8.  So who reads it again in the encoding it came in gets the text that was written if that
  was UTF-8.  In UTF-16 the bytes are refused or taken for another text, whatever the text is.
-/
import SourceEditor.CommandLine.Run
import SourceEditor.Proofs.Buffer.Decoding
import SourceEditor.Proofs.Text.Misread

namespace SourceEditor.CommandLine

/-! ### Steps that may fail -/

theorem bind_eq_ok_iff {ε α β : Type} {x : Except ε α} {f : α → Except ε β} {b : β} :
    x >>= f = .ok b ↔ ∃ a, x = .ok a ∧ f a = .ok b := by
  rcases x with e | a
  · constructor
    · intro h
      cases h
    · rintro ⟨a, ha, -⟩
      cases ha
  · constructor
    · intro h
      exact ⟨a, rfl, h⟩
    · rintro ⟨a', ha, h⟩
      obtain rfl := Except.ok.inj ha
      exact h

theorem mapError_eq_ok_iff {ε ε' α : Type} {x : Except ε α} {f : ε → ε'} {a : α} :
    x.mapError f = .ok a ↔ x = .ok a := by
  rcases x with e | a'
  · simp [Except.mapError]
  · simp [Except.mapError]

/-! ### Opening -/

/-- A document is opened only if the bytes of its file encode a text, and it has that text then. -/
theorem exists_text_of_openDocument {i : Invocation} {read : FileReader} {d : Document}
    (h : openDocument i read = .ok d) :
    ∃ t, read i.command.file = some (i.encoding.encode t) ∧
      d.buffer = .ofText t (.ofPath i.command.file) := by
  obtain ⟨bytes, hread, h⟩ := bind_eq_ok_iff.mp h
  obtain ⟨b, hb, h⟩ := bind_eq_ok_iff.mp h
  obtain ⟨o, -, h⟩ := bind_eq_ok_iff.mp h
  obtain ⟨t, rfl, rfl⟩ := Buffer.ofBytes_eq_ok_iff.mp (mapError_eq_ok_iff.mp hb)
  refine ⟨t, ?_, ?_⟩
  · rcases hfile : read i.command.file with _ | bytes
    · rw [hfile] at hread
      cases hread
    · rw [hfile] at hread
      exact congrArg some (Except.ok.inj hread)
  · have hset := mapError_eq_ok_iff.mp h
    rw [Document.setOptions] at hset
    split at hset
    · cases hset
    · obtain rfl := Except.ok.inj hset
      rfl

/-! ### Writing back -/

/-- What a command that edits in place makes of a document, if it succeeds. -/
inductive Command.EditsInPlace : Command → Document → Document → Prop
  | indent {file : Text} {d d' : Document} {count : Nat}
      (done : d.reindentLines 1 d.buffer.lineCount = (.ok count, d')) :
      EditsInPlace (.indent file none true) d d'
  | replace {file pattern replacement : Text} {o : FindOptions} {d d' : Document} {count : Nat}
      (done : d.replaceAll pattern replacement d.buffer.range o = (.ok count, d')) :
      EditsInPlace (.replace file pattern replacement o true) d d'

theorem written_give (d : Document) (path : Text) (inPlace : Bool) (log : String) :
    (give d path inPlace log).written =
      if inPlace = true ∧ d.modified = true then some (path, Encoding.utf8.encode d.text)
      else none := by
  rw [give]
  rcases inPlace with _ | _
  · rfl
  · rcases hmodified : d.modified with _ | _ <;> simp

/-- A command that edits in place gives the document out that it leaves. -/
theorem Command.EditsInPlace.run_eq {c : Command} {d d' : Document} (h : c.EditsInPlace d d') :
    ∃ log, c.run d = .ok (give d' c.file true log) := by
  cases h with
  | indent done =>
    rw [Command.run, done]
    exact ⟨_, rfl⟩
  | replace done =>
    rw [Command.run, done]
    exact ⟨_, rfl⟩

/-- No other command has anything written. -/
theorem Command.exists_editsInPlace {c : Command} {d : Document} {outcome : Outcome}
    (h : c.run d = .ok outcome) {w : Text × List UInt8} (hw : outcome.written = some w) :
    ∃ d', c.EditsInPlace d d' ∧ d'.modified = true ∧
      w = (c.file, Encoding.utf8.encode d'.text) := by
  have hgive : ∀ (d' : Document) (inPlace : Bool) (log : String),
      outcome = give d' c.file inPlace log →
        inPlace = true ∧ d'.modified = true ∧ w = (c.file, Encoding.utf8.encode d'.text) := by
    rintro d' inPlace log rfl
    rw [written_give] at hw
    split at hw
    · rename_i hboth
      exact ⟨hboth.1, hboth.2, (Option.some.inj hw).symm⟩
    · cases hw
  cases c with
  | indent file line inPlace =>
    rw [Command.run.eq_def] at h
    rcases line with _ | n
    · dsimp only at h
      split at h
      · cases h
      · rename_i count d' done
        obtain ⟨rfl, hmodified, hbytes⟩ := hgive d' inPlace _ (Except.ok.inj h).symm
        exact ⟨d', .indent done, hmodified, hbytes⟩
    · dsimp only at h
      split at h
      · cases h
      · obtain rfl := Except.ok.inj h
        cases hw
  | find file pattern o =>
    rw [Command.run.eq_def] at h
    dsimp only at h
    split at h
    · cases h
    · obtain rfl := Except.ok.inj h
      cases hw
    · obtain rfl := Except.ok.inj h
      cases hw
  | replace file pattern replacement o inPlace =>
    rw [Command.run.eq_def] at h
    dsimp only at h
    split at h
    · cases h
    · rename_i count d' done
      obtain ⟨rfl, hmodified, hbytes⟩ := hgive d' inPlace _ (Except.ok.inj h).symm
      exact ⟨d', .replace done, hmodified, hbytes⟩
  | lex file =>
    obtain rfl := Except.ok.inj h
    cases hw

/-! ### Whole runs -/

/-- Whether a command line is one to edit a file in place, succeeds, and changes the text: that of
the document `d` of the file, which is `d'` then. -/
structure ChangesInPlace (args : List Text) (read : FileReader) (i : Invocation)
    (d d' : Document) : Prop where
  understood : Invocation.read args = .ok i
  opened : openDocument i read = .ok d
  edited : i.command.EditsInPlace d d'
  modified : d'.modified = true

theorem ChangesInPlace.run_eq {args : List Text} {read : FileReader} {i : Invocation}
    {d d' : Document} (h : ChangesInPlace args read i d d') :
    ∃ log, run args read = give d' i.command.file true log := by
  obtain ⟨log, hlog⟩ := h.edited.run_eq
  have hboth : openDocument i read >>= i.command.run = .ok (give d' i.command.file true log) :=
    bind_eq_ok_iff.mpr ⟨d, h.opened, hlog⟩
  refine ⟨log, ?_⟩
  rw [run, h.understood]
  dsimp only
  rw [Invocation.run, hboth]

/-- A command line has a file written if it changes one in place, and in no other case; what is
written is the text in UTF-8. -/
theorem written_eq_some_iff {args : List Text} {read : FileReader} {w : Text × List UInt8} :
    (run args read).written = some w ↔ ∃ i d d', ChangesInPlace args read i d d' ∧
      w = (i.command.file, Encoding.utf8.encode d'.text) := by
  constructor
  · intro hw
    rw [run] at hw
    split at hw
    · rename_i stop _
      cases stop <;> cases hw
    · rename_i i understood
      rw [Invocation.run] at hw
      split at hw
      · cases hw
      · rename_i outcome hboth
        obtain ⟨d, opened, hrun⟩ := bind_eq_ok_iff.mp hboth
        obtain ⟨d', edited, modified, hbytes⟩ := Command.exists_editsInPlace hrun hw
        exact ⟨i, d, d', ⟨understood, opened, edited, modified⟩, hbytes⟩
  · rintro ⟨i, d, d', h, rfl⟩
    obtain ⟨log, hrun⟩ := h.run_eq
    rw [hrun, written_give, if_pos ⟨rfl, h.modified⟩]

/-- **Files edited in place come out in UTF-8.**  The file has been read in the encoding of the
command line.  It is written so that reading it in UTF-8 gives the final text back, and reading it
in UTF-16 never does, unless nothing is left of the text. -/
theorem ChangesInPlace.written_in_utf8 {args : List Text} {read : FileReader} {i : Invocation}
    {d d' : Document} (h : ChangesInPlace args read i d d') :
    (∃ t, read i.command.file = some (i.encoding.encode t) ∧
      d.buffer = .ofText t (.ofPath i.command.file)) ∧
    (run args read).code = 0 ∧
    ∃ bytes, (run args read).written = some (i.command.file, bytes) ∧
      ∀ e : Encoding, e.decode? bytes = some d'.text ↔ e = .utf8 ∨ d'.text = [] := by
  refine ⟨exists_text_of_openDocument h.opened, ?_, ?_⟩
  · obtain ⟨log, hrun⟩ := h.run_eq
    rw [hrun, give]
    simp [h.modified]
  · refine ⟨_, written_eq_some_iff.mpr ⟨i, d, d', h, rfl⟩, fun e => ?_⟩
    exact Encoding.decode?_encode_utf8_eq_some_iff

/-- A file in UTF-16 whose one character gives way to two.  It is written as two bytes, which make
one character in UTF-16. -/
theorem written_in_utf8_of_two_letters :
    let args := ["--encoding".toList, "utf16be".toList, "replace".toList, "a.txt".toList, ['a'],
      ['b', 'c'], "--in-place".toList]
    let read : FileReader := fun path => if path = "a.txt".toList then some [0x00, 0x61] else none
    ∃ i d d', ChangesInPlace args read i d d' ∧ i.encoding = .utf16be ∧ d'.text = ['b', 'c'] ∧
      ∃ bytes, (run args read).written = some (i.command.file, bytes) ∧
        Encoding.utf8.decode? bytes = some d'.text ∧
        Encoding.utf16be.decode? bytes ≠ some d'.text := by
  intro args read
  have hwritten : (run args read).written = some ("a.txt".toList, [0x62, 0x63]) := by
    decide +kernel
  have hencoding : (Invocation.read args).toOption.map Invocation.encoding = some .utf16be := by
    decide +kernel
  obtain ⟨i, d, d', h, hbytes⟩ := written_eq_some_iff.mp hwritten
  have htext : ['b', 'c'] = d'.text := Encoding.utf8.encode_injective (Prod.mk.inj hbytes).2
  rw [h.understood] at hencoding
  obtain ⟨-, -, bytes, hrun, hdecode⟩ := h.written_in_utf8
  refine ⟨i, d, d', h, Option.some.inj hencoding, htext.symm, bytes, hrun, ?_, ?_⟩
  · exact (hdecode .utf8).mpr (.inl rfl)
  · rw [ne_eq, hdecode, ← htext]
    decide

/-- A file in UTF-16 is read, its one character gives way to another, and what is written is no
UTF-16 at all. -/
theorem exists_file_not_read_back :
    let args := ["replace".toList, "a.txt".toList, ['a'], ['b'], "--in-place".toList,
      "--encoding".toList, "utf16le".toList]
    let read : FileReader := fun path => if path = "a.txt".toList then some [0x61, 0x00] else none
    ∃ i d d', ChangesInPlace args read i d d' ∧ i.encoding = .utf16le ∧ d'.text = ['b'] ∧
      (run args read).written = some (i.command.file, [0x62]) ∧
      i.encoding.decode? [0x62] ≠ some d'.text := by
  intro args read
  have hwritten : (run args read).written = some ("a.txt".toList, [0x62]) := by decide +kernel
  have hencoding : (Invocation.read args).toOption.map Invocation.encoding = some .utf16le := by
    decide +kernel
  obtain ⟨i, d, d', h, hbytes⟩ := written_eq_some_iff.mp hwritten
  obtain ⟨hfile, hbytes⟩ := Prod.mk.inj hbytes
  have htext : ['b'] = d'.text := Encoding.utf8.encode_injective hbytes
  rw [h.understood] at hencoding
  have hencoding : i.encoding = .utf16le := Option.some.inj hencoding
  refine ⟨i, d, d', h, hencoding, htext.symm, hfile ▸ hwritten, ?_⟩
  rw [hencoding]
  intro hdecode
  cases hdecode

end SourceEditor.CommandLine
