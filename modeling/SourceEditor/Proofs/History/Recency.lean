/-
  SourceEditor/Proofs/History/Recency.lean
  ========================================
  **What can be redone was undone last.**  A new edit forgets what could be redone.  That happens
  when the group of the edit is closed: by closing it, by opening another one, or by undoing.
  Redoing does not close the open group.  So a group that is redone was undone after every operation
  recorded, except those of a group that is open still.

  Groups have no names, so a chronicle runs beside the history: the calls are numbered, and for each
  group that can be redone the number of the call that undid it is kept.
-/
import Mathlib.Data.List.Forall2
import Mathlib.Data.List.Induction
import SourceEditor.Proofs.History.Closing

namespace SourceEditor

/-- A call of a history. -/
inductive HistoryCall where
  | begin (caret : Point)
  | record (op : EditOperation)
  | setCaret (caret : Point)
  | commit
  | undo
  | redo
  | clear
  | setCoalesce (on : Bool)
  deriving DecidableEq, Repr

namespace History

/-- The history that a call leaves. -/
def after (h : History) : HistoryCall → History
  | .begin caret => h.begin caret
  | .record op => h.record op
  | .setCaret caret => h.setCaret caret
  | .commit => h.commit
  | .undo => h.undo.2
  | .redo => h.redo.2
  | .clear => h.clear
  | .setCoalesce on => { h with coalesce := on }

/-- The history that calls leave, made one after the other. -/
def run (h : History) (calls : List HistoryCall) : History := calls.foldl after h

theorem run_concat (h : History) (calls : List HistoryCall) (c : HistoryCall) :
    h.run (calls ++ [c]) = (h.run calls).after c := by
  rw [run, List.foldl_append]
  rfl

/-- Whether a group that has operations is open. -/
def HasOpen (h : History) : Prop := ∃ g, h.current = some g ∧ g.operations ≠ []

theorem not_hasOpen_of_idle {h : History} (idle : h.current = none) : ¬h.HasOpen := by
  rintro ⟨g, hcurrent, _⟩
  rw [idle] at hcurrent
  cases hcurrent

theorem redoStack_commit_of_hasOpen {h : History} (hopen : h.HasOpen) :
    h.commit.redoStack = [] := by
  obtain ⟨g, hcurrent, hne⟩ := hopen
  have hsame : h = { h with current := some g } := by rw [← hcurrent]
  rw [hsame]
  rcases h.commit_of_ne_nil hne with hpush | ⟨_, _, _, _, _, hjoin⟩
  · rw [hpush]
  · rw [hjoin]

theorem redoStack_commit_of_not_hasOpen {h : History} (hclosed : ¬h.HasOpen) :
    h.commit.redoStack = h.redoStack := by
  rcases hcurrent : h.current with _ | g
  · rw [commit, hcurrent]
  · have hnil : g.operations = [] := by
      by_contra hne
      exact hclosed ⟨g, hcurrent, hne⟩
    have hsame : h = { h with current := some g } := by rw [← hcurrent]
    rw [hsame, h.commit_of_nil hnil]

/-! ### Looking back -/

/-- Whether the call with a number has undone a group, which was then the next one to redo. -/
def UndoneBy (h : History) (calls : List HistoryCall) (n : Nat) (g : EditGroup) : Prop :=
  ∃ before later, calls = before ++ .undo :: later ∧ before.length = n ∧
    (h.run before).undo.1 = some (g.undoing, g.caretBefore) ∧
    (h.run before).undo.2.redoStack.head? = some g

/-- Whether an operation has been recorded in an open group after the call with a number. -/
def RecordsAfter (h : History) (calls : List HistoryCall) (n : Nat) : Prop :=
  ∃ before op later, calls = before ++ .record op :: later ∧ n < before.length ∧
    (h.run before).current ≠ none

section

variable {h₀ : History} {calls : List HistoryCall} {c : HistoryCall} {n : Nat} {g : EditGroup}

theorem UndoneBy.concat (h : h₀.UndoneBy calls n g) (c : HistoryCall) :
    h₀.UndoneBy (calls ++ [c]) n g := by
  obtain ⟨before, later, rfl, hundone⟩ := h
  exact ⟨before, later ++ [c], by simp, hundone⟩

theorem UndoneBy.lt (h : h₀.UndoneBy calls n g) : n < calls.length := by
  obtain ⟨before, later, rfl, rfl, _⟩ := h
  simp

theorem recordsAfter_concat_iff : h₀.RecordsAfter (calls ++ [c]) n ↔
    h₀.RecordsAfter calls n ∨
      ∃ op, c = .record op ∧ n < calls.length ∧ (h₀.run calls).current ≠ none := by
  constructor
  · rintro ⟨before, op, later, hcalls, hlt, hcurrent⟩
    rcases List.eq_nil_or_concat later with rfl | ⟨later, c', rfl⟩
    · obtain ⟨rfl, hc⟩ := List.append_inj' hcalls rfl
      exact .inr ⟨op, List.singleton_inj.mp hc, hlt, hcurrent⟩
    · have hsplit : calls ++ [c] = (before ++ .record op :: later) ++ [c'] := by
        rw [hcalls]
        simp
      obtain ⟨rfl, _⟩ := List.append_inj' hsplit rfl
      exact .inl ⟨before, op, later, rfl, hlt, hcurrent⟩
  · rintro (⟨before, op, later, rfl, hlt, hcurrent⟩ | ⟨op, rfl, hlt, hcurrent⟩)
    · exact ⟨before, op, later ++ [c], by simp, hlt, hcurrent⟩
    · exact ⟨calls, op, [], rfl, hlt, hcurrent⟩

/-- No operation is recorded by another call. -/
theorem recordsAfter_concat_of_ne (hc : ∀ op, c ≠ .record op) :
    h₀.RecordsAfter (calls ++ [c]) n ↔ h₀.RecordsAfter calls n := by
  rw [recordsAfter_concat_iff]
  apply or_iff_left
  rintro ⟨op, hop, _⟩
  exact hc op hop

theorem RecordsAfter.lt (h : h₀.RecordsAfter calls n) : n + 1 < calls.length := by
  obtain ⟨before, op, later, rfl, hlt, _⟩ := h
  simp only [List.length_append, List.length_cons]
  omega

end

end History

/-! ### Chronicles -/

/-- A history, the number of calls made, and for each group that can be redone the number of the
call that has undone it, that of the next group first. -/
structure Chronicle where
  history : History
  made : Nat := 0
  undone : List Nat := []
  deriving DecidableEq, Repr

namespace Chronicle

/-- The chronicle of a history without groups, which has room for some. -/
def start (maxSize : Nat) : Chronicle := { history := { maxSize } }

/-- Makes a call and keeps the chronicle.  Groups that can be redone no more leave it. -/
def step (s : Chronicle) (c : HistoryCall) : Chronicle :=
  let h := s.history.after c
  let undone := match c with
    | .undo =>
      let left := s.undone.take s.history.commit.redoStack.length
      if s.history.undo.1.isSome then s.made :: left else left
    | .redo => s.undone.tail
    | _ => s.undone.take h.redoStack.length
  ⟨h, s.made + 1, undone⟩

/-- Makes calls one after the other. -/
def run (s : Chronicle) (calls : List HistoryCall) : Chronicle := calls.foldl step s

theorem run_concat (s : Chronicle) (calls : List HistoryCall) (c : HistoryCall) :
    s.run (calls ++ [c]) = (s.run calls).step c := by
  rw [run, List.foldl_append]
  rfl

theorem history_run (s : Chronicle) (calls : List HistoryCall) :
    (s.run calls).history = s.history.run calls := by
  induction calls generalizing s with
  | nil => rfl
  | cons c calls ih => exact ih (s.step c)

theorem made_run (s : Chronicle) (calls : List HistoryCall) :
    (s.run calls).made = s.made + calls.length := by
  induction calls generalizing s with
  | nil => rfl
  | cons c calls ih =>
    refine (ih (s.step c)).trans ?_
    rw [List.length_cons, Nat.add_comm calls.length 1, ← Nat.add_assoc]
    rfl

/-- Whether numbers of calls are those of the calls that have undone the groups that can be redone;
an operation was recorded since one of these calls exactly if a group with operations is open. -/
structure Dated (h₀ : History) (calls : List HistoryCall) (h : History) (dates : List Nat) :
    Prop where
  undone : List.Forall₂ (h₀.UndoneBy calls) dates h.redoStack
  recorded : ∀ n ∈ dates, h₀.RecordsAfter calls n ↔ h.HasOpen

section Dated

variable {h₀ h h' : History} {calls : List HistoryCall} {dates : List Nat} {c : HistoryCall}

theorem Dated.take_eq (hd : Dated h₀ calls h dates) : dates.take h.redoStack.length = dates :=
  List.take_of_length_le (Nat.le_of_eq hd.undone.length_eq)

theorem Dated.lt (hd : Dated h₀ calls h dates) {n : Nat} (hn : n ∈ dates) : n < calls.length := by
  obtain ⟨i, hi, rfl⟩ := List.getElem_of_mem hn
  exact (hd.undone.get hi (hd.undone.length_eq ▸ hi)).lt

/-- A call after which the same groups can be redone, and a group with operations is open if one was
before. -/
theorem Dated.kept (hd : Dated h₀ calls h dates) (hc : ∀ op, c ≠ .record op)
    (hredo : h'.redoStack = h.redoStack) (hopen : h'.HasOpen ↔ h.HasOpen) :
    Dated h₀ (calls ++ [c]) h' (dates.take h'.redoStack.length) := by
  rw [hredo, hd.take_eq]
  refine ⟨?_, ?_⟩
  · rw [hredo]
    exact hd.undone.imp fun _ _ hby => hby.concat c
  · intro n hn
    rw [History.recordsAfter_concat_of_ne hc, hopen]
    exact hd.recorded n hn

/-- A call that closes the open group: if it has operations, nothing can be redone any more, and if
it has none, no operation has been recorded since the groups to redo were undone. -/
theorem Dated.closed (hd : Dated h₀ calls h dates) (hc : ∀ op, c ≠ .record op)
    (hredo : h'.redoStack = h.commit.redoStack) (hclosed : ¬h'.HasOpen) :
    Dated h₀ (calls ++ [c]) h' (dates.take h'.redoStack.length) := by
  by_cases hopen : h.HasOpen
  · rw [History.redoStack_commit_of_hasOpen hopen] at hredo
    rw [hredo, List.length_nil, List.take_zero]
    refine ⟨?_, ?_⟩
    · rw [hredo]
      exact .nil
    · intro n hn
      cases hn
  · rw [History.redoStack_commit_of_not_hasOpen hopen] at hredo
    exact hd.kept hc hredo (iff_of_false hclosed hopen)

/-- Recording an operation. -/
theorem Dated.record (hd : Dated h₀ calls (h₀.run calls) dates) (op : EditOperation) :
    Dated h₀ (calls ++ [.record op]) ((h₀.run calls).record op) dates := by
  refine ⟨hd.undone.imp fun _ _ hby => hby.concat _, ?_⟩
  intro n hn
  have hopen : ((h₀.run calls).record op).HasOpen ↔ (h₀.run calls).current ≠ none := by
    rw [History.HasOpen, History.record]
    rcases (h₀.run calls).current with _ | g
    · simp
    · simp [EditGroup.push]
  rw [History.recordsAfter_concat_iff, hopen, hd.recorded n hn]
  constructor
  · rintro (⟨g, hcurrent, _⟩ | ⟨_, _, _, hcurrent⟩)
    · rw [hcurrent]
      exact Option.some_ne_none g
    · exact hcurrent
  · intro hcurrent
    exact .inr ⟨op, rfl, hd.lt hn, hcurrent⟩

/-- Undoing puts a group on the redo stack, dated with the call. -/
theorem Dated.undo (hd : Dated h₀ calls (h₀.run calls) dates) :
    Dated h₀ (calls ++ [.undo]) (h₀.run calls).undo.2
      (if (h₀.run calls).undo.1.isSome then
        calls.length :: dates.take (h₀.run calls).commit.redoStack.length
      else dates.take (h₀.run calls).commit.redoStack.length) := by
  have hclosed : Dated h₀ (calls ++ [.undo]) (h₀.run calls).commit
      (dates.take (h₀.run calls).commit.redoStack.length) :=
    hd.closed (fun _ => nofun) rfl (History.not_hasOpen_of_idle (History.current_commit _))
  rcases hstack : (h₀.run calls).commit.undoStack with _ | ⟨g, rest⟩
  · have hundo : (h₀.run calls).undo = (none, (h₀.run calls).commit) := by
      simp only [History.undo, hstack]
    rw [hundo]
    exact hclosed
  · have hundo : (h₀.run calls).undo = (some (g.undoing, g.caretBefore),
        { (h₀.run calls).commit with
          undoStack := rest, redoStack := g :: (h₀.run calls).commit.redoStack }) := by
      simp only [History.undo, hstack]
    have hby : h₀.UndoneBy (calls ++ [.undo]) calls.length g :=
      ⟨calls, [], rfl, rfl, by rw [hundo], by rw [hundo]; rfl⟩
    have hidle := (h₀.run calls).current_undo
    rw [hundo] at hidle ⊢
    refine ⟨.cons hby hclosed.undone, ?_⟩
    intro n hn
    rcases List.mem_cons.mp hn with rfl | hn
    · apply iff_of_false
      · intro hrecords
        have := hrecords.lt
        simp at this
      · exact History.not_hasOpen_of_idle hidle
    · rw [hclosed.recorded n hn]
      exact iff_of_false (History.not_hasOpen_of_idle (History.current_commit _))
        (History.not_hasOpen_of_idle hidle)

/-- Redoing takes the next group off the redo stack. -/
theorem Dated.redo (hd : Dated h₀ calls h dates) :
    Dated h₀ (calls ++ [.redo]) h.redo.2 dates.tail := by
  have hundone := hd.undone
  rcases hstack : h.redoStack with _ | ⟨g, rest⟩
  · rw [hstack] at hundone
    cases hundone
    rw [History.redo_nil hstack]
    refine ⟨?_, ?_⟩
    · rw [hstack]
      exact .nil
    · intro n hn
      cases hn
  · rw [hstack] at hundone
    cases hundone with
    | @cons n _ dates _ _ others =>
      rw [History.redo_cons hstack]
      refine ⟨others.imp fun _ _ hby => hby.concat _, ?_⟩
      intro n' hn'
      have hc : ∀ op, HistoryCall.redo ≠ .record op := fun _ => nofun
      rw [History.recordsAfter_concat_of_ne hc]
      exact hd.recorded n' (List.mem_cons_of_mem _ hn')

end Dated

/-- Every call keeps the chronicle true. -/
theorem dated_run (h₀ : History) (hnew : h₀.redoStack = []) (calls : List HistoryCall) :
    Dated h₀ calls (h₀.run calls) ((⟨h₀, 0, []⟩ : Chronicle).run calls).undone := by
  induction calls using List.reverseRecOn with
  | nil =>
    refine ⟨?_, fun n hn => absurd hn List.not_mem_nil⟩
    change List.Forall₂ _ [] h₀.redoStack
    rw [hnew]
    exact .nil
  | append_singleton calls c ih =>
    have hhistory := history_run ⟨h₀, 0, []⟩ calls
    have hmade : ((⟨h₀, 0, []⟩ : Chronicle).run calls).made = calls.length := by
      rw [made_run, Nat.zero_add]
    rw [run_concat, History.run_concat]
    simp only [step, hhistory, hmade]
    cases c with
    | begin caret =>
      refine ih.closed (fun _ => nofun) rfl ?_
      rintro ⟨g, hcurrent, hne⟩
      obtain rfl := Option.some.inj hcurrent
      exact hne rfl
    | record op =>
      have hrecord := ih.record op
      have hsame : ((h₀.run calls).after (.record op)).redoStack = (h₀.run calls).redoStack := rfl
      dsimp only
      rw [hsame, ih.take_eq]
      exact hrecord
    | setCaret caret =>
      refine ih.kept (fun _ => nofun) rfl ?_
      rw [History.HasOpen, History.HasOpen, History.after, History.setCaret]
      rcases (h₀.run calls).current with _ | g
      · simp
      · simp
    | commit =>
      exact ih.closed (fun _ => nofun) rfl (History.not_hasOpen_of_idle (History.current_commit _))
    | undo => exact ih.undo
    | redo => exact ih.redo
    | clear =>
      refine ⟨.nil, fun n hn => absurd hn List.not_mem_nil⟩
    | setCoalesce on => exact ih.kept (fun _ => nofun) rfl .rfl

/-- **What is redone was undone last.**  Whatever calls have been made of a history of any size:
where there is a group to redo, redoing it gives the operations of a group that an earlier call has
undone. An operation was recorded in an open group since that call exactly if a group with
operations is open now.  So with no such group open, what is redone was undone after every operation
recorded. -/
theorem redo_gives_latest_undone (maxSize : Nat) (calls : List HistoryCall)
    {ops : List EditOperation} {caret : Point}
    (redoes : ((start maxSize).run calls).history.redo.1 = some (ops, caret)) :
    let h₀ : History := { maxSize }
    let s := (start maxSize).run calls
    s.history = h₀.run calls ∧ ∃ n rest g, s.undone = n :: rest ∧ h₀.UndoneBy calls n g ∧
      ops = g.operations ∧ caret = g.caretAfter ∧
      (h₀.RecordsAfter calls n ↔ s.history.HasOpen) := by
  intro h₀ s
  have hhistory : s.history = h₀.run calls := history_run (start maxSize) calls
  have hdated : Dated h₀ calls (h₀.run calls) s.undone := dated_run h₀ rfl calls
  refine ⟨hhistory, ?_⟩
  rw [← hhistory] at hdated
  have hundone := hdated.undone
  rcases hstack : s.history.redoStack with _ | ⟨g, others⟩
  · rw [History.redo_nil hstack] at redoes
    cases redoes
  · rw [History.redo_cons hstack] at redoes
    obtain ⟨rfl, rfl⟩ := Prod.mk.inj (Option.some.inj redoes)
    rw [hstack] at hundone
    generalize hs : s.undone = dates at hundone
    cases hundone with
    | cons hby _ =>
      exact ⟨_, _, g, rfl, hby, rfl, rfl, hdated.recorded _ (hs ▸ List.mem_cons_self)⟩

theorem redo_gives_latest_undone_of_two_edits :
    let a : EditOperation := .insert ⟨1, 0⟩ ['a']
    let b : EditOperation := .insert ⟨1, 0⟩ ['b']
    let calls : List HistoryCall := [.begin ⟨1, 0⟩, .record a, .commit, .undo,
      .begin ⟨1, 0⟩, .record b, .setCaret ⟨1, 1⟩, .commit, .undo, .begin ⟨1, 0⟩]
    let s := (start 100).run calls
    s.history.redo.1 = some ([b], ⟨1, 1⟩) ∧ s.undone = [8] ∧
      ¬History.RecordsAfter { maxSize := 100 } calls 8 := by
  intro a b calls s
  have redoes : s.history.redo.1 = some ([b], ⟨1, 1⟩) := by decide
  obtain ⟨_, n, rest, g, hundone, _, _, _, hrecords⟩ := redo_gives_latest_undone 100 calls redoes
  have hdates : s.undone = [8] := by decide
  obtain ⟨rfl, rfl⟩ := List.cons.inj (hundone.symm.trans hdates)
  refine ⟨redoes, hdates, ?_⟩
  rw [hrecords]
  rintro ⟨g, hcurrent, hne⟩
  obtain rfl : EditGroup.new ⟨1, 0⟩ = g := Option.some.inj hcurrent
  exact hne rfl

/-- Redoing past an edit: the group of `b` is open still, and the group that was undone before `b`
was recorded is redone. -/
theorem redo_gives_group_undone_before_edit :
    let a : EditOperation := .insert ⟨1, 0⟩ ['a']
    let b : EditOperation := .insert ⟨1, 0⟩ ['b']
    let calls : List HistoryCall := [.begin ⟨1, 0⟩, .record a, .setCaret ⟨1, 1⟩, .commit, .undo,
      .begin ⟨1, 0⟩, .record b]
    let s := (start 100).run calls
    s.history.redo.1 = some ([a], ⟨1, 1⟩) ∧ s.undone = [4] ∧
      History.RecordsAfter { maxSize := 100 } calls 4 := by
  intro a b calls s
  refine ⟨by decide, by decide, ?_⟩
  exact ⟨calls.take 6, b, [], rfl, by decide, by decide⟩

end Chronicle

end SourceEditor
