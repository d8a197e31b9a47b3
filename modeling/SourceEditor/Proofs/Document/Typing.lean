/-
  SourceEditor/Proofs/Document/Typing.lean
  ========================================
  **What makes one group with what is typed.**  A call of a single operation may join the group of
  an earlier call.  Only the last operation of that group is looked at, so that from there on the
  group is typing: characters one after the other, or characters one before the other.  What the
  group holds in front of that operation is whatever the call did that made the group.  The
  replacement of a word by a single letter is two operations, and a letter typed behind it is undone
  with both.

  Groups do not know the calls they come from.  So a ledger runs beside a document: for each group
  that can be undone or redone it holds the calls that went into it, each with its operations.
-/
import Mathlib.Data.List.Chain
import Mathlib.Data.List.Forall2
import Mathlib.Data.List.Induction
import SourceEditor.Proofs.Document.Identities
import SourceEditor.Proofs.Listing.Buffers

namespace SourceEditor

open Document (operationsOf operationsRecorded)

/-! ### Typing -/

/-- Whether an operation goes on where the one before it left off: it inserts a text right behind
one without a line break, or it deletes a text without a line break one column further left. -/
inductive EditOperation.GoesOn : EditOperation → EditOperation → Prop where
  | insert (p : Point) {t : Text} (ht : '\n' ∉ t) (u : Text) :
      GoesOn (.insert p t) (.insert (p.advance t) u)
  | delete (n k : Nat) (t : Text) {u : Text} (hu : '\n' ∉ u) :
      GoesOn (.delete ⟨n, k + 1⟩ t) (.delete ⟨n, k⟩ u)

open EditOperation (GoesOn)

/-- Whether operations are typing: each is of a single character, and each goes on where the one
before it left off. -/
structure IsTyping (ops : List EditOperation) : Prop where
  single : ∀ op ∈ ops, op.text.length = 1
  goesOn : ops.IsChain GoesOn

namespace IsTyping

theorem pair {op op' : EditOperation} (single : op.text.length = 1) (single' : op'.text.length = 1)
    (goesOn : op.GoesOn op') : IsTyping [op, op'] where
  single := by
    intro o ho
    rcases List.mem_pair.mp ho with rfl | rfl
    · exact single
    · exact single'
  goesOn := List.isChain_pair.mpr goesOn

theorem append_iff {ops ops' : List EditOperation} : IsTyping (ops ++ ops') ↔
    IsTyping ops ∧ IsTyping ops' ∧ ∀ op ∈ ops.getLast?, ∀ op' ∈ ops'.head?, op.GoesOn op' := by
  constructor
  · intro h
    obtain ⟨hfirst, hsecond, hseam⟩ := List.isChain_append.mp h.goesOn
    exact ⟨⟨fun op hop => h.single op (List.mem_append_left _ hop), hfirst⟩,
      ⟨fun op hop => h.single op (List.mem_append_right _ hop), hsecond⟩, hseam⟩
  · rintro ⟨h, h', hseam⟩
    refine ⟨?_, List.isChain_append.mpr ⟨h.goesOn, h'.goesOn, hseam⟩⟩
    intro op hop
    rcases List.mem_append.mp hop with hop | hop
    · exact h.single op hop
    · exact h'.single op hop

/-- Operations are typing if all up to one of them are, and all from that one on. -/
theorem overlap {front : List EditOperation} {op : EditOperation} {back : List EditOperation}
    (h : IsTyping (front ++ [op])) (h' : IsTyping (op :: back)) :
    IsTyping (front ++ op :: back) := by
  obtain ⟨hfront, _, hseam⟩ := append_iff.mp h
  exact append_iff.mpr ⟨hfront, h', hseam⟩

end IsTyping

/-- An operation that may join a group is typed behind its last operation. -/
theorem EditGroup.exists_typed_of_canCoalesce {g : EditGroup} {op : EditOperation}
    (hne : g.operations ≠ []) (h : g.canCoalesce op = true) :
    ∃ last, g.operations.getLast? = some last ∧ IsTyping [last, op] := by
  have hlast := List.getLast?_eq_some_getLast hne
  refine ⟨_, hlast, ?_⟩
  generalize g.operations.getLast hne = last at hlast
  rw [canCoalesce, hlast] at h
  simp only [EditOperation.isSingleChar, Bool.and_eq_true, beq_iff_eq] at h
  obtain ⟨_, ⟨single, single'⟩, hcontinues⟩ := h
  refine .pair single single' ?_
  cases last with
  | insert p t =>
    cases op with
    | insert q u =>
      obtain ⟨c, rfl⟩ := List.length_eq_one_iff.mp single
      simp only [EditOperation.continues, Bool.and_eq_true, decide_eq_true_eq] at hcontinues
      obtain ⟨rfl, hbreak⟩ := hcontinues
      refine .insert p ?_ u
      rw [List.mem_singleton]
      rintro rfl
      exact absurd hbreak (by decide)
    | delete q u => cases hcontinues
  | delete p t =>
    cases op with
    | insert q u => cases hcontinues
    | delete q u =>
      obtain ⟨n, k⟩ := p
      obtain ⟨c, rfl⟩ := List.length_eq_one_iff.mp single'
      simp only [EditOperation.continues, Bool.and_eq_true, decide_eq_true_eq] at hcontinues
      obtain ⟨⟨hcol, rfl⟩, hbreak⟩ := hcontinues
      obtain ⟨k, rfl⟩ := Nat.exists_eq_succ_of_ne_zero (Nat.ne_of_gt hcol)
      refine .delete n k t ?_
      rw [List.mem_singleton]
      rintro rfl
      exact absurd hbreak (by decide)

/-! ### The calls behind a group -/

/-- Whether a call inserts a text, or deletes one, and does nothing else. -/
def DocumentEdit.isPlain : DocumentEdit → Bool
  | .insert _ _ => true
  | .delete _ => true
  | _ => false

deriving instance DecidableEq for DocumentEdit

/-- What a call has put into a group. -/
structure Share where
  call : DocumentEdit
  operations : List EditOperation
  deriving DecidableEq

/-- What has gone into a group: the share of the call that made it, and those of the calls that have
joined it since, one after the other. -/
structure Makers where
  first : Share
  joined : List Share
  deriving DecidableEq

/-- The operations of all calls. -/
def Makers.operations (m : Makers) : List EditOperation :=
  m.first.operations ++ m.joined.flatMap Share.operations

/-- Whether a group comes from calls: it has their operations, a plain call has made one operation,
each call that joined has added one, and from the last operation of the first call on all is typing.
-/
structure EditGroup.IsMadeBy (g : EditGroup) (m : Makers) : Prop where
  operations : g.operations = m.operations
  plain : m.first.call.isPlain = true → ∃ op, m.first.operations = [op]
  joined : ∀ s ∈ m.joined, ∃ op, s.operations = [op]
  typed : ∃ front last, m.first.operations = front ++ [last] ∧
    (m.joined ≠ [] → IsTyping (last :: m.joined.flatMap Share.operations))

namespace EditGroup.IsMadeBy

variable {g : EditGroup} {m : Makers}

theorem ne_nil (h : g.IsMadeBy m) : g.operations ≠ [] := by
  obtain ⟨front, last, hfirst, _⟩ := h.typed
  rw [h.operations, Makers.operations, hfirst]
  simp

/-- A group is typing if what its first call did is. -/
theorem isTyping_iff (h : g.IsMadeBy m) :
    IsTyping g.operations ↔ IsTyping m.first.operations := by
  obtain ⟨front, last, hfirst, htyped⟩ := h.typed
  rw [h.operations, Makers.operations]
  constructor
  · intro hall
    exact (IsTyping.append_iff.mp hall).1
  · intro hall
    by_cases hjoined : m.joined = []
    · rw [hjoined]
      simpa using hall
    · rw [hfirst] at hall ⊢
      rw [List.append_assoc]
      exact hall.overlap (htyped hjoined)

/-- A group that a plain call has made, and others have joined, is typing. -/
theorem isTyping_of_isPlain (h : g.IsMadeBy m) (plain : m.first.call.isPlain = true)
    (hjoined : m.joined ≠ []) : IsTyping g.operations := by
  obtain ⟨front, last, hfirst, htyped⟩ := h.typed
  obtain ⟨op, hop⟩ := h.plain plain
  have hsame : front ++ [last] = [] ++ [op] := hfirst.symm.trans hop
  obtain ⟨rfl, _⟩ := List.append_inj' hsame rfl
  rw [h.operations, Makers.operations, hfirst]
  exact htyped hjoined

theorem join {last : EditGroup} (h : last.IsMadeBy m) {op : EditOperation}
    (hops : g.operations = [op]) (hjoin : last.canCoalesce op = true) (a : DocumentEdit) :
    (last.merge g).IsMadeBy { m with joined := m.joined ++ [⟨a, g.operations⟩] } where
  operations := by
    simp [merge, Makers.operations, h.operations]
  plain := h.plain
  joined := by
    intro s hs
    rcases List.mem_append.mp hs with hs | hs
    · exact h.joined s hs
    · obtain rfl := List.mem_singleton.mp hs
      exact ⟨op, hops⟩
  typed := by
    obtain ⟨front, own, hfirst, htyped⟩ := h.typed
    obtain ⟨prev, hprev, hnext⟩ := exists_typed_of_canCoalesce h.ne_nil hjoin
    refine ⟨front, own, hfirst, fun _ => ?_⟩
    rw [h.operations, Makers.operations, hfirst, List.append_assoc, List.singleton_append,
      List.getLast?_append_cons] at hprev
    obtain ⟨others, hothers⟩ := List.getLast?_eq_some_iff.mp hprev
    -- the first call alone need not be typing, but then the one operation looked at is
    have hall : IsTyping (others ++ [prev]) := by
      by_cases hjoined : m.joined = []
      · rw [hjoined, List.flatMap_nil] at hothers
        have hsame : [] ++ [own] = others ++ [prev] := hothers
        obtain ⟨rfl, _⟩ := List.append_inj' hsame rfl
        have hpair : IsTyping ([prev] ++ [op]) := hnext
        exact (IsTyping.append_iff.mp hpair).1
      · rw [← hothers]
        exact htyped hjoined
    have hlonger : own :: (m.joined ++ [(⟨a, g.operations⟩ : Share)]).flatMap Share.operations =
        others ++ [prev, op] := by
      rw [List.flatMap_append, List.flatMap_singleton, hops, ← List.cons_append, hothers,
        List.append_assoc, List.singleton_append]
    rw [hlonger]
    exact hall.overlap hnext

end EditGroup.IsMadeBy

/-! ### What a plain call does -/

theorem length_operationsRecorded_le {e : Edit} (h : e.removed = [] ∨ e.inserted = []) :
    (operationsRecorded e).length ≤ 1 := by
  rw [operationsRecorded, operationsOf]
  split
  · rcases h with h | h
    · rw [h, List.isEmpty_nil, if_pos rfl, List.nil_append]
      split
      · exact Nat.zero_le 1
      · exact Nat.le_refl 1
    · rw [h, List.isEmpty_nil, if_pos rfl, List.append_nil]
      split
      · exact Nat.zero_le 1
      · exact Nat.le_refl 1
  · exact Nat.zero_le 1

theorem Buffer.removed_of_insert {b b' : Buffer} (hb : b.IsClean) {p : Point} {t : Text} {e : Edit}
    (h : b.edit (.insert p t) = (.ok e, b')) : e.removed = [] := by
  obtain ⟨x, y, z, htext, hrange, rfl, _⟩ := exists_splice_of_edit hb h
  obtain ⟨hstart, hstop⟩ := Range.mk.inj hrange
  have hfirst := offset_behind hb (htext.trans (List.append_assoc x y z))
  have hlast := offset_behind hb htext
  rw [← hstart] at hfirst
  rw [← hstop, hfirst, List.length_append] at hlast
  exact List.eq_nil_of_length_eq_zero (Nat.left_eq_add.mp hlast)

theorem Buffer.inserted_of_delete {b b' : Buffer} (hb : b.IsClean) {r : Range} {e : Edit}
    (h : b.edit (.delete r) = (.ok e, b')) : e.inserted = [] := by
  obtain ⟨x, y, z, _, _, rfl, _⟩ := exists_splice_of_edit hb h
  exact Text.normalized_eq_self List.not_mem_nil

namespace Document

/-- A call that makes one request, which does not both remove and insert. -/
theorem exists_operation_of_request {d : Document} {a : DocumentEdit} {q : EditRequest}
    (hgroup : ∀ d : Document, d.edited a =
      (d.grouped a.caret fun d => d.applied (d.buffer.edit q)).2)
    (hedit : ∀ e b', d.buffer.edit q = (.ok e, b') → e.removed = [] ∨ e.inserted = [])
    {g : EditGroup} (hown : d.ownGroup a = some g) : ∃ op, g.operations = [op] := by
  obtain ⟨es, b', hmakes, hcases⟩ := exists_makes_applied d.buffer d.options q
  rw [ownGroup_eq ((hgroup _).trans (hmakes.grouped a.caret _ d.modified))] at hown
  split at hown
  · cases hown
  · rename_i hne
    obtain rfl := Option.some.inj hown
    rw [EditGroup.operations_foldl_recording] at hne ⊢
    rcases hcases with rfl | ⟨e, rfl, he⟩
    · exact absurd rfl hne
    · have hops : (EditGroup.new a.caret).operations ++ [e].flatMap operationsRecorded =
          operationsRecorded e := List.flatMap_singleton operationsRecorded e
      rw [hops] at hne ⊢
      exact List.length_eq_one_iff.mp
        (Nat.le_antisymm (length_operationsRecorded_le (hedit e b' he))
          (List.length_pos_of_ne_nil hne))

/-- A plain call makes a group of a single operation. -/
theorem exists_operation_of_isPlain {d : Document} (hd : d.buffer.IsClean) {a : DocumentEdit}
    (plain : a.isPlain = true) {g : EditGroup} (hown : d.ownGroup a = some g) :
    ∃ op, g.operations = [op] := by
  cases a with
  | insert p t =>
    have hedit : ∀ e b', d.buffer.edit (.insert p t) = (.ok e, b') →
        e.removed = [] ∨ e.inserted = [] := fun e b' h => .inl (Buffer.removed_of_insert hd h)
    exact exists_operation_of_request (fun _ => rfl) hedit hown
  | delete r =>
    have hedit : ∀ e b', d.buffer.edit (.delete r) = (.ok e, b') →
        e.removed = [] ∨ e.inserted = [] := fun e b' h => .inr (Buffer.inserted_of_delete hd h)
    exact exists_operation_of_request (fun _ => rfl) hedit hown
  | _ => cases plain

end Document

/-! ### Ledgers -/

/-- A document, and for each group that it can undo or redo what has gone into it, the last group
undone or done first. -/
structure Ledger where
  document : Document
  undoable : List Makers
  redoable : List Makers

namespace Ledger

/-- The ledger of a buffer just opened. -/
def start (b : Buffer) : Ledger := ⟨.ofBuffer b, [], []⟩

/-- What has gone into the groups to undo after a call that edits.  If the call has put its own
group on the undo stack, it has made a new group; if not, its group has joined the one on top. -/
def undoableEdited (l : Ledger) (a : DocumentEdit) : List Makers :=
  match l.document.ownGroup a with
  | none => l.undoable
  | some g =>
    if (l.document.edited a).history.undoStack.head? = some g then
      ⟨⟨a, g.operations⟩, []⟩ :: l.undoable
    else l.undoable.modifyHead fun m => { m with joined := m.joined ++ [⟨a, g.operations⟩] }

/-- Makes a call and keeps the ledger.  Groups that the document has forgotten leave it as well. -/
def step (l : Ledger) (c : DocumentCall) : Ledger :=
  let d := l.document.after c
  match c with
  | .edit a =>
    ⟨d, (l.undoableEdited a).take d.history.undoStack.length,
      l.redoable.take d.history.redoStack.length⟩
  | .undo =>
    match l.undoable with
    | [] => { l with document := d }
    | m :: rest => ⟨d, rest, m :: l.redoable⟩
  | .redo =>
    match l.redoable with
    | [] => { l with document := d }
    | m :: rest => ⟨d, m :: l.undoable, rest⟩
  | .clearHistory => ⟨d, [], []⟩
  | _ => { l with document := d }

def run (l : Ledger) (calls : List DocumentCall) : Ledger := calls.foldl step l

theorem run_concat (l : Ledger) (calls : List DocumentCall) (c : DocumentCall) :
    l.run (calls ++ [c]) = (l.run calls).step c := by
  rw [run, List.foldl_append]
  rfl

theorem document_step (l : Ledger) (c : DocumentCall) :
    (l.step c).document = l.document.after c := by
  cases c with
  | undo =>
    simp only [step]
    split <;> rfl
  | redo =>
    simp only [step]
    split <;> rfl
  | _ => rfl

theorem document_run (l : Ledger) (calls : List DocumentCall) :
    (l.run calls).document = l.document.run calls := by
  induction calls generalizing l with
  | nil => rfl
  | cons c calls ih =>
    exact (ih (l.step c)).trans (congrArg (fun d => d.run calls) (l.document_step c))

/-- The groups to undo and to redo, each with what has gone into it. -/
def groups (l : Ledger) : List (EditGroup × Makers) :=
  l.document.history.undoStack.zip l.undoable ++ l.document.history.redoStack.zip l.redoable

end Ledger

/-- Whether the groups of a history come from the calls of a ledger. -/
structure Told (h : History) (undoable redoable : List Makers) : Prop where
  undoStack : List.Forall₂ EditGroup.IsMadeBy h.undoStack undoable
  redoStack : List.Forall₂ EditGroup.IsMadeBy h.redoStack redoable

theorem forall₂_take_length {α β : Type} {R : α → β → Prop} {xs : List α} {ys : List β}
    (h : List.Forall₂ R xs ys) (n : Nat) :
    List.Forall₂ R (xs.take n) (ys.take (xs.take n).length) := by
  rw [List.length_take, h.length_eq, ← List.take_eq_take_min]
  exact List.forall₂_take n h

section Told

variable {h : History} {undoable redoable : List Makers}

theorem Told.take (told : Told h undoable redoable) :
    Told h (undoable.take h.undoStack.length) (redoable.take h.redoStack.length) := by
  rw [List.take_of_length_le (Nat.le_of_eq told.undoStack.length_eq.symm),
    List.take_of_length_le (Nat.le_of_eq told.redoStack.length_eq.symm)]
  exact told

theorem Told.push (told : Told h undoable redoable) {g : EditGroup} {m : Makers}
    (hg : g.IsMadeBy m) :
    Told { h with
        current := none, undoStack := (g :: h.undoStack).take h.maxSize, redoStack := [] }
      ((m :: undoable).take ((g :: h.undoStack).take h.maxSize).length) [] where
  undoStack := forall₂_take_length (.cons hg told.undoStack) h.maxSize
  redoStack := .nil

theorem Told.join (told : Told h undoable redoable) {g last : EditGroup} {rest : List EditGroup}
    (hstack : h.undoStack = last :: rest) {op : EditOperation} (hops : g.operations = [op])
    (hjoin : last.canCoalesce op = true) (a : DocumentEdit) :
    Told { h with current := none, undoStack := last.merge g :: rest, redoStack := [] }
      (undoable.modifyHead fun m => { m with joined := m.joined ++ [⟨a, g.operations⟩] }) [] := by
  have hundo := told.undoStack
  rw [hstack] at hundo
  cases hundo with
  | cons hlast hrest => exact ⟨.cons (hlast.join hops hjoin a) hrest, .nil⟩

/-- The group that a call makes by itself comes from that call. -/
theorem Document.isMadeBy_of_ownGroup {d : Document} (hd : d.buffer.IsClean) {a : DocumentEdit}
    {g : EditGroup} (hown : d.ownGroup a = some g) (hne : g.operations ≠ []) :
    g.IsMadeBy ⟨⟨a, g.operations⟩, []⟩ where
  operations := (List.append_nil g.operations).symm
  plain := fun plain => exists_operation_of_isPlain hd plain hown
  joined := fun _ hs => absurd hs List.not_mem_nil
  typed := ⟨g.operations.dropLast, g.operations.getLast hne,
    (List.dropLast_append_getLast hne).symm, fun hjoined => absurd rfl hjoined⟩

end Told

namespace Ledger

/-- Whether the groups of a ledger come from its calls. -/
def Sound (l : Ledger) : Prop := Told l.document.history l.undoable l.redoable

theorem Sound.edit {l : Ledger} (h : l.Sound) (clean : l.document.buffer.IsClean)
    (idle : l.document.history.current = none) (roomy : l.document.history.maxSize ≠ 0)
    (a : DocumentEdit) : (l.step (.edit a)).Sound := by
  obtain ⟨g, _, _, _, hhistory, hown⟩ := Document.exists_group_of_edited clean idle a
  change Told (l.document.edited a).history
    ((l.undoableEdited a).take (l.document.edited a).history.undoStack.length)
    (l.redoable.take (l.document.edited a).history.redoStack.length)
  rw [undoableEdited, hhistory]
  by_cases hnil : g.operations = []
  · rw [hown, if_pos hnil, History.commit_of_nil _ hnil]
    exact Told.take ⟨h.undoStack, h.redoStack⟩
  · rw [if_neg hnil] at hown
    rw [hown]
    dsimp only
    rcases History.commit_of_ne_nil l.document.history hnil with
      hpush | ⟨last, rest, hstack, _, ⟨op, hops, hjoins⟩, hjoin⟩
    · -- the stack holds one group at least, so the new one is not forgotten at once
      have hhead : ((g :: l.document.history.undoStack).take
          l.document.history.maxSize).head? = some g := by
        rw [List.head?_take, if_neg roomy]
        rfl
      rw [hpush, if_pos hhead]
      exact h.push (Document.isMadeBy_of_ownGroup clean hown hnil)
    · have hlast : last.operations ≠ [] := by
        have hundo := h.undoStack
        rw [hstack] at hundo
        obtain ⟨m, _, hmade, _⟩ := List.forall₂_cons_left_iff.mp hundo
        exact hmade.ne_nil
      have hhead : ¬(last.merge g :: rest).head? = some g := by
        rw [List.head?_cons, Option.some.injEq]
        exact EditGroup.merge_ne hlast
      rw [hjoin, if_neg hhead]
      exact (h.join hstack hops hjoins a).take

theorem Sound.undo {l : Ledger} (h : l.Sound) (idle : l.document.history.current = none) :
    (l.step .undo).Sound := by
  have hhistory : (l.document.after .undo).history = l.document.history.undo.2 :=
    Document.history_revisit l.document l.document.history.undo
  have hundo := h.undoStack
  rcases hstack : l.document.history.undoStack with _ | ⟨g, rest⟩
  · rw [hstack] at hundo
    rw [History.undo_nil idle hstack] at hhistory
    have hs := List.forall₂_nil_left_iff.mp hundo
    have hstep : l.step .undo = { l with document := l.document.after .undo } := by
      simp only [step, hs]
    rw [hstep, Sound, hhistory]
    exact h
  · rw [hstack] at hundo
    rw [History.undo_cons idle hstack] at hhistory
    obtain ⟨m, others, hmade, hrest, hs⟩ := List.forall₂_cons_left_iff.mp hundo
    have hstep : l.step .undo = ⟨l.document.after .undo, others, m :: l.redoable⟩ := by
      simp only [step, hs]
    rw [hstep, Sound, hhistory]
    exact ⟨hrest, .cons hmade h.redoStack⟩

theorem Sound.redo {l : Ledger} (h : l.Sound) : (l.step .redo).Sound := by
  have hhistory : (l.document.after .redo).history = l.document.history.redo.2 :=
    Document.history_revisit l.document l.document.history.redo
  have hredo := h.redoStack
  rcases hstack : l.document.history.redoStack with _ | ⟨g, rest⟩
  · rw [hstack] at hredo
    rw [History.redo_nil hstack] at hhistory
    have hs := List.forall₂_nil_left_iff.mp hredo
    have hstep : l.step .redo = { l with document := l.document.after .redo } := by
      simp only [step, hs]
    rw [hstep, Sound, hhistory]
    exact h
  · rw [hstack] at hredo
    rw [History.redo_cons hstack] at hhistory
    obtain ⟨m, others, hmade, hrest, hs⟩ := List.forall₂_cons_left_iff.mp hredo
    have hstep : l.step .redo = ⟨l.document.after .redo, m :: l.undoable, others⟩ := by
      simp only [step, hs]
    rw [hstep, Sound, hhistory]
    exact ⟨.cons hmade h.undoStack, hrest⟩

/-- Every call of a document between two calls keeps the ledger true. -/
theorem Sound.step {l : Ledger} (h : l.Sound) (clean : l.document.buffer.IsClean)
    (idle : l.document.history.current = none) (roomy : l.document.history.maxSize ≠ 0)
    (c : DocumentCall) : (l.step c).Sound := by
  cases c with
  | edit a => exact h.edit clean idle roomy a
  | undo => exact h.undo idle
  | redo => exact h.redo
  | setProfile p => exact ⟨h.undoStack, h.redoStack⟩
  | subscribe | unsubscribe k => exact h
  | setOptions o =>
    change Told (l.document.after (.setOptions o)).history l.undoable l.redoable
    simp only [Document.after, Document.setOptions]
    cases o.validate <;> exact h
  | markSaved => exact h
  | clearHistory => exact ⟨.nil, .nil⟩
  | setCoalesce on => exact ⟨h.undoStack, h.redoStack⟩

theorem sound_run {b : Buffer} (hb : b.IsClean) (calls : List DocumentCall) :
    ((start b).run calls).Sound := by
  induction calls using List.reverseRecOn with
  | nil => exact ⟨.nil, .nil⟩
  | append_singleton calls c ih =>
    have hsession := (Session.sound_of_isClean hb).run calls
    have hdocument : ((Session.start b).run calls).document = ((start b).run calls).document := by
      rw [Session.document_run, document_run]
      rfl
    rw [run_concat]
    exact ih.step (hdocument ▸ hsession.clean) (hdocument ▸ hsession.idle)
      (hdocument ▸ hsession.roomy) c

theorem Sound.isMadeBy {l : Ledger} (h : l.Sound) {g : EditGroup} {m : Makers}
    (hmem : (g, m) ∈ l.groups) : g.IsMadeBy m := by
  rcases List.mem_append.mp hmem with hmem | hmem
  · exact (List.forall₂_iff_zip.mp h.undoStack).2 hmem
  · exact (List.forall₂_iff_zip.mp h.redoStack).2 hmem

/-- **What joins a group is typed behind it.**  Whatever calls have been made of a document: a group
to undo or redo has the operations of the calls that went into it.  Each call but the first has
added a single operation, and from the last operation of the first call on the group is typing.  So
it is typing as a whole exactly if what its first call did is; and it is, if other calls have joined
one that just inserts or deletes a text. -/
theorem joined_groups_are_typed {b : Buffer} (obtained : b.Obtained) (calls : List DocumentCall) :
    let l := (start b).run calls
    l.document = (Document.ofBuffer b).run calls ∧
      l.document.history.undoStack.length = l.undoable.length ∧
      l.document.history.redoStack.length = l.redoable.length ∧
      ∀ g m, (g, m) ∈ l.groups → g.IsMadeBy m ∧
        (IsTyping g.operations ↔ IsTyping m.first.operations) ∧
        (m.joined ≠ [] → m.first.call.isPlain = true → IsTyping g.operations) := by
  intro l
  have hsound : l.Sound := sound_run obtained.isClean calls
  refine ⟨document_run (start b) calls, hsound.undoStack.length_eq, hsound.redoStack.length_eq, ?_⟩
  intro g m hmem
  have hmade := hsound.isMadeBy hmem
  exact ⟨hmade, hmade.isTyping_iff, fun hjoined plain => hmade.isTyping_of_isPlain plain hjoined⟩

/-- Two letters typed one behind the other make one group, which is typing. -/
theorem joined_groups_are_typed_of_letters :
    let b := Buffer.ofText [] .plainText
    let l := (start b).run [.edit (.insert ⟨1, 0⟩ ['a']), .edit (.insert ⟨1, 1⟩ ['b'])]
    b.Obtained ∧ ∃ g m, (g, m) ∈ l.groups ∧ m.first.call = .insert ⟨1, 0⟩ ['a'] ∧
      m.joined.map Share.call = [.insert ⟨1, 1⟩ ['b']] ∧ IsTyping g.operations := by
  intro b l
  have obtained : b.Obtained := .ofReachable (.ofText _ _)
  let g : EditGroup :=
    ⟨[.insert ⟨1, 0⟩ ['a'], .insert ⟨1, 1⟩ ['b']], ⟨1, 0⟩, ⟨1, 2⟩, true⟩
  let m : Makers := ⟨⟨.insert ⟨1, 0⟩ ['a'], [.insert ⟨1, 0⟩ ['a']]⟩,
    [⟨.insert ⟨1, 1⟩ ['b'], [.insert ⟨1, 1⟩ ['b']]⟩]⟩
  have hgroups : l.groups = [(g, m)] := by decide +kernel
  have hmem : (g, m) ∈ l.groups := hgroups ▸ List.mem_singleton_self _
  obtain ⟨_, _, _, hall⟩ := joined_groups_are_typed obtained
    [.edit (.insert ⟨1, 0⟩ ['a']), .edit (.insert ⟨1, 1⟩ ['b'])]
  obtain ⟨_, _, htyping⟩ := hall g m hmem
  exact ⟨obtained, g, m, hmem, rfl, rfl, htyping (List.cons_ne_nil _ _) rfl⟩

/-- A word is replaced by a letter, and another letter typed behind it: both calls are one group, in
which the deletion of the word is no typing, and undoing brings back the word. -/
theorem exists_replacement_undone_with_typing :
    let b := Buffer.ofText ['a', 'b'] .plainText
    let l := (start b).run
      [.edit (.replace ⟨⟨1, 0⟩, ⟨1, 2⟩⟩ ['x']), .edit (.insert ⟨1, 1⟩ ['y'])]
    b.Obtained ∧ l.document.history.coalesce = true ∧ l.document.text = ['x', 'y'] ∧
      l.document.undo.2.text = ['a', 'b'] ∧
      ∃ g m, (g, m) ∈ l.groups ∧ m.first.call = .replace ⟨⟨1, 0⟩, ⟨1, 2⟩⟩ ['x'] ∧
        m.joined.map Share.call = [.insert ⟨1, 1⟩ ['y']] ∧ ¬IsTyping g.operations := by
  intro b l
  have obtained : b.Obtained := .ofReachable (.ofText _ _)
  let g : EditGroup := ⟨[.delete ⟨1, 0⟩ ['a', 'b'], .insert ⟨1, 0⟩ ['x'], .insert ⟨1, 1⟩ ['y']],
    ⟨1, 2⟩, ⟨1, 2⟩, true⟩
  let m : Makers := ⟨⟨.replace ⟨⟨1, 0⟩, ⟨1, 2⟩⟩ ['x'],
      [.delete ⟨1, 0⟩ ['a', 'b'], .insert ⟨1, 0⟩ ['x']]⟩,
    [⟨.insert ⟨1, 1⟩ ['y'], [.insert ⟨1, 1⟩ ['y']]⟩]⟩
  have hgroups : l.groups = [(g, m)] := by decide +kernel
  refine ⟨obtained, by decide +kernel, by decide +kernel, by decide +kernel, g, m,
    hgroups ▸ List.mem_singleton_self _, rfl, rfl, ?_⟩
  intro htyping
  have hsingle := htyping.single (.delete ⟨1, 0⟩ ['a', 'b']) List.mem_cons_self
  exact absurd hsingle (by decide)

end Ledger

end SourceEditor
