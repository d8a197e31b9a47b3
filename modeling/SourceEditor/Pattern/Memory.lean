/-
  SourceEditor/Pattern/Memory.lean
  ================================
  **The memory that a pattern is charged for.**  A pattern stands for two automata over the bytes
  of a text, one that reads forward and one that reads backward, and it is accepted only if each of
  them fits in ten MiB.  The automata are not built here: an expression is turned into the list of
  what would be made for it, and the states of that are counted in their order.

  A state takes 32 bytes, and more for what it may hold: 8 bytes for every range of bytes of a
  state with several ranges, and 4 bytes for every way out of a fork.  Both automata share states
  among the characters of a set, through a cache with a bounded number of slots, where a new entry
  takes the place of an old one.
-/
import Std.Data.HashMap
import SourceEditor.Pattern.ByteRanges
import SourceEditor.Pattern.Expr

namespace SourceEditor.Pattern

/-- The memory of an automaton: its states, and the bytes that they hold besides. -/
structure Memory where
  states : Nat := 0
  extra : Nat := 0
  deriving DecidableEq, Repr

namespace Memory

/-- The size in bytes. -/
def bytes (m : Memory) : Nat := 32 * m.states + m.extra

/-- The greatest size allowed. -/
def limit : Nat := 10 * 1024 * 1024

/-- The memory with more states, and with more bytes for what they hold. -/
def add (m : Memory) (states extra : Nat) : Memory := ⟨m.states + states, m.extra + extra⟩

/-- The memory, if it is not past the limit. -/
def checked (m : Memory) : Option Memory := if m.bytes ≤ limit then some m else none

end Memory

/-- The reading direction of an automaton. -/
inductive Direction where
  | forward
  | backward
  deriving DecidableEq, Repr

/-! ### Sets of characters -/

/-- The slot of a row of numbers in a cache with so many slots: the numbers are mixed one after the
other into 64 bits. -/
def cacheSlot (slots : Nat) (l : List Nat) : Nat :=
  let mixed := l.foldl (fun (h : UInt64) n => (h ^^^ .ofNat n) * 1099511628211)
    14695981039346656037
  mixed.toNat % slots

/-- The states made for a set: the memory so far, and in the slots of the cache what was made,
each with its state. -/
structure SharedStates where
  memory : Memory
  cache : Std.HashMap Nat (List Nat × Nat) := ∅

/-- A state that is still being made: the ranges with the states they lead to, and the last range,
whose state is not known yet. -/
structure OpenState where
  /-- State, last and first byte, one range after the other, the last one first. -/
  ranges : List Nat := []
  last : Option ByteRange := none

/-- The ranges of a state once the state that the last one leads to is known, the last one
first. -/
def OpenState.closed (o : OpenState) (next : Nat) : List Nat :=
  match o.last with
  | none => o.ranges
  | some (first, last) => next :: last :: first :: o.ranges

namespace SharedStates

/-- The state for a key, which is a new one with so many bytes besides unless the cache knows
it. -/
def state (s : SharedStates) (slots : Nat) (key : List Nat) (extra : Nat) :
    Nat × SharedStates :=
  let i := cacheSlot slots key
  let new := s.memory.states
  match s.cache[i]? with
  | some (known, state) =>
    if known = key then (state, s)
    else (new, ⟨s.memory.add 1 extra, s.cache.insert i (key, new)⟩)
  | none => (new, ⟨s.memory.add 1 extra, s.cache.insert i (key, new)⟩)

/-- Makes the open states of a row, from the last one up; gives the first one.  The last one leads
to the state `target`. -/
def close (target : Nat) : List OpenState → SharedStates → Nat × SharedStates
  | [], s => (target, s)
  | o :: deeper, s =>
    let (next, s) := close target deeper s
    let ranges := (o.closed next).reverse
    s.state 10000 ranges (8 * (ranges.length / 3))

/-- Goes on with the next row of byte ranges: the open states stay as far as their last ranges are
those of the row; the others are made, and new ones opened. -/
def extend (target : Nat) : List OpenState → List ByteRange → SharedStates →
    List OpenState × SharedStates
  | o :: deeper, r :: row, s =>
    if o.last = some r then
      let (deeper, s) := extend target deeper row s
      (o :: deeper, s)
    else
      let (next, s) := close target deeper s
      (⟨o.closed next, some r⟩ :: row.map fun r => ⟨[], some r⟩, s)
  | opened, _, s => (opened, s)

/-- The state that a row of byte ranges leads to, from its end to the state `target`. -/
def chain (target : Nat) (row : List ByteRange) (s : SharedStates) : Nat × SharedStates :=
  row.foldl (fun (next, s) (first, last) => s.state 1000 [next, first, last] 0) (target, s)

end SharedStates

/-- The memory with a set in the forward automaton: rows of byte ranges share the states of equal
ends. -/
def Memory.addForward (m : Memory) (rows : List (List ByteRange)) : Memory :=
  let target := m.states
  let (opened, s) := rows.foldl (fun (opened, s) row => SharedStates.extend target opened row s)
    ([({} : OpenState)], ({ memory := m.add 1 0 } : SharedStates))
  (SharedStates.close target opened s).2.memory

/-- The memory with a set in the backward automaton: a fork with a way for each row of byte ranges;
rows share the states of equal beginnings. -/
def Memory.addBackward (m : Memory) (rows : List (List ByteRange)) : Memory :=
  let target := m.states + 1
  let s := rows.foldl (fun s row => (SharedStates.chain target row s).2)
    ({ memory := m.add 2 0 } : SharedStates)
  s.memory.add 0 (4 * rows.length)

/-! ### What is made -/

/-- What is made for a part of an automaton, in its order. -/
inductive Making where
  /-- So many states, and so many bytes besides. -/
  | states (count extra : Nat)
  /-- The states of a set, by the rows of byte ranges of its characters. -/
  | set (rows : List (List ByteRange))
  | andThen (first second : Making)
  /-- The same so many times. -/
  | repeated (body : Making) (count : Nat)
  deriving DecidableEq, Repr

namespace Making

/-- A step so many times, as long as the memory is not past the limit. -/
def iterate (step : Memory → Option Memory) : Nat → Memory → Option Memory
  | 0, m => some m
  | n + 1, m =>
    match step m with
    | none => none
    | some m => iterate step n m

/-- The memory after something is made; `none` past the limit. -/
def run (d : Direction) : Making → Memory → Option Memory
  | .states count extra, m => (m.add count extra).checked
  | .set rows, m =>
    match d with
    | .forward => (m.addForward rows).checked
    | .backward => (m.addBackward rows).checked
  | .andThen first second, m =>
    match first.run d m with
    | none => none
    | some m => second.run d m
  | .repeated body count, m => iterate (body.run d) count m

/-- A fork with so many ways out. -/
def fork (ways : Nat) : Making := states 1 (4 * ways)

/-- One character of a set.  The ranges of an ASCII set are held by one state. -/
def ofSet (s : CharSet) : Making :=
  if s.ranges.all fun r => r.2 ≤ 0x7F then states 2 (8 * s.ranges.length) else .set (byteRows s)

/-! ### Alternatives of literals -/

/-- The rows of bytes between the empty ones.  An empty row ends a chunk, even one without rows;
but where no byte has been read, further empty rows end nothing. -/
def chunks (rows : List (List Nat)) : List (List (List Nat)) :=
  let (finished, chunk) := rows.foldl
    (fun (finished, chunk) row =>
      if !row.isEmpty then (finished, row :: chunk)
      else if chunk.isEmpty && finished == [[]] then (finished, chunk)
      else (chunk.reverse :: finished, []))
    ([], [])
  (chunk.reverse :: finished).reverse

/-- What is left of the rows that begin with a byte. -/
def tailsAfter (first : Nat) (rows : List (List Nat)) : List (List Nat) :=
  rows.filterMap fun
    | [] => none
    | b :: row => if b = first then some row else none

/-- The memory of the tree that literals make, given by their bytes in the order of preference: a
fork at every byte, with a way for each chunk and for each end between chunks, and a state with the
first bytes of every chunk.  The bytes of the longest literal are enough fuel. -/
def literalTree : Nat → List (List Nat) → Memory
  | 0, _ => {}
  | fuel + 1, rows =>
    if rows.all List.isEmpty then {}
    else
      let all := chunks rows
      let filled := all.filter fun chunk => !chunk.isEmpty
      filled.foldl
        (fun m chunk =>
          let firsts := (chunk.filterMap List.head?).eraseDups
          firsts.foldl
            (fun m first =>
              let below := literalTree fuel (tailsAfter first chunk)
              m.add below.states below.extra)
            (m.add 1 (if firsts.length = 1 then 0 else 8 * firsts.length)))
        ({ states := 1, extra := 4 * (filled.length + all.length - 1) } : Memory)

/-- The UTF-8 bytes of a text in reading direction. -/
def literalBytes (d : Direction) (t : Text) : List Nat :=
  match d with
  | .forward => textBytes t
  | .backward => (textBytes t).reverse

/-- Alternatives that are all literals. -/
def ofLiterals (d : Direction) (l : List Text) : Making :=
  let rows := l.map (literalBytes d)
  let tree := literalTree ((rows.map List.length).foldl max 0) rows
  states (tree.states + 1) tree.extra

/-! ### Repetitions and alternatives -/

/-- A repetition.  Without an upper bound the body is made as often as it must be there, and a fork
leads back to the last one; a body that need not be there and may take no character has a second
fork before it.  With an upper bound, every time that need not be has a fork of its own. -/
def ofRepetition (body : Making) (takesCharacter : Bool) (least : Nat) (most : Option Nat) :
    Making :=
  match least, most with
  | 0, none =>
    if takesCharacter then (fork 2).andThen body else body.andThen (states 3 16)
  | n + 1, none => (body.repeated (n + 1)).andThen (fork 2)
  | 0, some 1 => (fork 2).andThen (body.andThen (states 1 0))
  | n, some m =>
    let must := if n = 0 then states 1 0 else body.repeated n
    if n = m then must
    else must.andThen ((states 1 0).andThen (((fork 2).andThen body).repeated (m - n)))

/-- What follows the branch with a number, counted from 0, of an alternative: after the second one
the fork between them and the state where they meet, and after every later one a way of the
fork. -/
def afterBranch : Nat → Making
  | 0 => states 0 0
  | 1 => states 2 8
  | _ => states 0 4

end Making

/-! ### Expressions -/

/-- What is made for an expression.  If it is an alternative within another one, `earlier` is the
number of branches before it. -/
def Expr.making (d : Direction) (earlier : Nat) : Expr → Making
  | .empty => .states 1 0
  | .literal t => .states (textBytes t).length 0
  | .chars set _ => .ofSet set
  | .assertion _ => .states 1 0
  | .group _ body =>
    match d with
    | .forward => .andThen (.states 1 0) (.andThen (body.making d 0) (.states 1 0))
    | .backward => body.making d 0
  | .seq first second =>
    match d with
    | .forward => .andThen (first.making d 0) (second.making d 0)
    | .backward => .andThen (second.making d 0) (first.making d 0)
  | .alt first second =>
    let texts? :=
      if earlier = 0 then (Expr.alt first second).branches.mapM Expr.literal? else none
    match texts? with
    | some texts => .ofLiterals d texts
    | none =>
      let branch := Making.andThen (first.making d 0) (.afterBranch earlier)
      let later := match second with
        | .alt _ _ => second.making d (earlier + 1)
        | _ => .andThen (second.making d 0) (.afterBranch (earlier + 1))
      .andThen branch later
  | .times body least most _ =>
    .ofRepetition (body.making d 0) body.takesCharacter least most

/-- The automaton for an expression: a loop that passes over the text before a match, unless every
match is at the end that the automaton reads first; what is made for the expression, in the forward
automaton between two states that note the ends of the match; and the state of success. -/
def Expr.automaton (d : Direction) (e : Expr) : Making :=
  match d with
  | .forward =>
    .andThen (if e.beginsWith .textStart then .states 1 0 else .states 3 16)
      (.andThen (.states 1 0) (.andThen (e.making d 0) (.states 2 0)))
  | .backward =>
    .andThen (if e.endsWith .textStop then .states 1 0 else .states 3 16)
      (.andThen (e.making d 0) (.states 1 0))

/-- Whether both automata of an expression fit in the memory allowed. -/
def Expr.fits (e : Expr) : Bool :=
  ((e.automaton .forward).run .forward {}).isSome &&
    ((e.automaton .backward).run .backward {}).isSome

end SourceEditor.Pattern
