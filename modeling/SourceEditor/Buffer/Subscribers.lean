/-
  SourceEditor/Buffer/Subscribers.lean
  ====================================
  **Those who are told of changes.**  Whoever subscribes to a buffer is sent every change of its
  text from then on, in order, and reads them when it likes.  A subscriber that has stopped to
  listen goes unnoticed until the next change: sending it that change fails, and it is forgotten.
-/
import SourceEditor.Point

namespace SourceEditor

/-! ### Changes -/

/-- What an edit was asked to do. -/
inductive ChangeKind where
  | insert
  | delete
  | replace
  deriving DecidableEq, Repr

/-- The name of a kind of change. -/
def ChangeKind.name : ChangeKind → String
  | .insert => "Insert"
  | .delete => "Delete"
  | .replace => "Replace"

/-- A change of the text: the range it replaced, and the range that is there now. -/
structure Change where
  kind : ChangeKind
  before : Range
  after : Range
  deriving DecidableEq, Repr

/-! ### Subscribers -/

/-- One that has subscribed, with the changes that it has been sent. -/
structure Subscriber where
  number : Nat
  /-- Whether there is still someone to read what is sent. -/
  listening : Bool
  received : List Change
  deriving DecidableEq, Repr

/-- Whether this is the subscriber with a number, and it still listens. -/
def Subscriber.listensAs (k : Nat) (a : Subscriber) : Bool := a.number == k && a.listening

/-- The subscribers of a buffer, the oldest first, and the number that the next one gets. -/
structure Subscribers where
  next : Nat
  all : List Subscriber
  number_lt : ∀ s ∈ all, s.number < next

namespace Subscribers

/-- No subscribers. -/
def empty : Subscribers := ⟨0, [], by simp⟩

/-- Takes in a subscriber under the next number. -/
def subscribe (s : Subscribers) : Subscribers where
  next := s.next + 1
  all := s.all ++ [⟨s.next, true, []⟩]
  number_lt := by
    intro a ha
    rcases List.mem_append.mp ha with ha | ha
    · exact Nat.lt_succ_of_lt (s.number_lt a ha)
    · rw [List.mem_singleton.mp ha]
      exact Nat.lt_succ_self s.next

/-- The subscriber with a number stops to listen. -/
def unsubscribe (s : Subscribers) (k : Nat) : Subscribers where
  next := s.next
  all := s.all.map fun a => if a.number = k then { a with listening := false } else a
  number_lt := by
    intro a ha
    obtain ⟨a, hmem, rfl⟩ := List.mem_map.mp ha
    split <;> exact s.number_lt a hmem

/-- Sends a change to all who listen, and forgets the others. -/
def notify (s : Subscribers) (c : Change) : Subscribers where
  next := s.next
  all := (s.all.filter Subscriber.listening).map fun a => { a with received := a.received ++ [c] }
  number_lt := by
    intro a ha
    obtain ⟨a, hmem, rfl⟩ := List.mem_map.mp ha
    exact s.number_lt a ((List.mem_filter.mp hmem).1)

/-- What the subscriber with a number has been sent, if it still listens. -/
def received (s : Subscribers) (k : Nat) : Option (List Change) :=
  (s.all.find? (Subscriber.listensAs k)).map Subscriber.received

end Subscribers

end SourceEditor
