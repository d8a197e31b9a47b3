/-
  SourceEditor/Proofs/Buffer/Events.lean
  ======================================
  **The changes of a buffer tell its story.**  Every change of the text is sent to all who listen.
  A change names the range that has given way and the range that is there now; together with the
  text before it, and the text that the second range holds, it gives the text after it.  The changes
  are told in the order in which they were made and none is left out, so what a subscriber receives
  leads from the text at the time it subscribed to the text now.
-/
import SourceEditor.Proofs.Listing.Buffers

namespace SourceEditor

namespace Text

/-- The number of characters in front of a point. -/
def offset (t : Text) (p : Point) : Nat :=
  (t.lines.take (p.line - 1)).foldr (fun l n => l.length + 1 + n) p.col

/-- Whether a range is one of the text: its ends are points of it, in order. -/
def HasRange (t : Text) (r : Range) : Prop :=
  HasPoint t.lines r.start ∧ HasPoint t.lines r.stop ∧ r.start ≤ r.stop

/-- The part of the text that a range holds. -/
def inside (t : Text) (r : Range) : Text :=
  (t.drop (t.offset r.start)).take (t.offset r.stop - t.offset r.start)

/-- The texts that come about when lines are put below a text, one after the other. -/
def extended (t : Text) : List Text → List Text
  | [] => []
  | l :: rest => (t ++ '\n' :: l) :: extended (t ++ '\n' :: l) rest

theorem length_extended (t : Text) (ls : List Text) : (t.extended ls).length = ls.length := by
  induction ls generalizing t with
  | nil => rfl
  | cons l rest ih => simp [extended, ih]

end Text

/-! ### Changes and texts -/

/-- What a change says about the text before it and the text after it. -/
structure Change.Describes (c : Change) (s t : Text) : Prop where
  hasRange_before : s.HasRange c.before
  hasRange_after : t.HasRange c.after
  spliced : t = s.take (s.offset c.before.start) ++ t.inside c.after ++
    s.drop (s.offset c.before.stop)

/-- Changes told one after the other, with the text that each of them leaves: each change is one of
the text that the change before has left. -/
inductive Replay : Text → List Change → List Text → Text → Prop where
  | nil (s : Text) : Replay s [] [] s
  | cons {s t u : Text} {c : Change} {cs : List Change} {ts : List Text} (first : c.Describes s t)
      (others : Replay t cs ts u) : Replay s (c :: cs) (t :: ts) u

theorem Replay.append {s t u : Text} {cs cs' : List Change} {ts ts' : List Text}
    (h : Replay s cs ts t) (h' : Replay t cs' ts' u) : Replay s (cs ++ cs') (ts ++ ts') u := by
  induction h with
  | nil s => exact h'
  | cons first _ ih => exact .cons first (ih h')

theorem Replay.length_eq {s t : Text} {cs : List Change} {ts : List Text} (h : Replay s cs ts t) :
    cs.length = ts.length := by
  induction h with
  | nil s => rfl
  | cons _ _ ih => rw [List.length_cons, List.length_cons, ih]

/-! ### What subscribers receive -/

namespace Subscribers

variable {s : Subscribers} {k : Nat} {events : List Change}

/-- A new subscriber has received nothing. -/
theorem received_subscribe_next (s : Subscribers) : s.subscribe.received s.next = some [] := by
  have hfresh : s.all.find? (Subscriber.listensAs s.next) = none := by
    rw [List.find?_eq_none]
    intro a ha hlistens
    rw [Subscriber.listensAs, Bool.and_eq_true, beq_iff_eq] at hlistens
    exact Nat.ne_of_lt (s.number_lt a ha) hlistens.1
  simp [received, subscribe, List.find?_append, hfresh, Subscriber.listensAs]

theorem received_subscribe (h : s.received k = some events) :
    s.subscribe.received k = some events := by
  obtain ⟨a, ha, rfl⟩ := Option.map_eq_some_iff.mp h
  rw [received, subscribe, List.find?_append, ha]
  rfl

theorem received_unsubscribe_of_ne {j : Nat} (hne : j ≠ k) :
    (s.unsubscribe j).received k = s.received k := by
  let gone (a : Subscriber) : Subscriber :=
    if a.number = j then { a with listening := false } else a
  have hlistens : Subscriber.listensAs k ∘ gone = Subscriber.listensAs k := by
    funext a
    by_cases ha : a.number = j
    · simp [gone, Subscriber.listensAs, ha, hne]
    · simp [gone, ha]
  have hreceived : Subscriber.received ∘ gone = Subscriber.received := by
    funext a
    by_cases ha : a.number = j <;> simp [gone, ha]
  change ((s.all.map gone).find? (Subscriber.listensAs k)).map Subscriber.received = _
  rw [List.find?_map, Option.map_map, hlistens, hreceived, received]

/-- All who listen receive a change, and nobody else does. -/
theorem received_notify (s : Subscribers) (c : Change) (k : Nat) :
    (s.notify c).received k = (s.received k).map (· ++ [c]) := by
  let sent (a : Subscriber) : Subscriber := { a with received := a.received ++ [c] }
  have hlistens : (fun a => decide (a.listening = true ∧
      (Subscriber.listensAs k ∘ sent) a = true)) = Subscriber.listensAs k := by
    funext a
    rw [Bool.eq_iff_iff, decide_eq_true_iff, Function.comp_apply]
    exact and_iff_right_of_imp fun h => (Bool.and_eq_true _ _ ▸ h).2
  change (((s.all.filter Subscriber.listening).map sent).find? (Subscriber.listensAs k)).map
    Subscriber.received = _
  rw [List.find?_map, List.find?_filter, hlistens, received, Option.map_map, Option.map_map]
  rfl

end Subscribers

namespace Buffer

/-- Whether all who listen to the first buffer, and nobody else, have received the changes when it
has become the second. -/
def Tells (b : Buffer) (new : List Change) (b' : Buffer) : Prop :=
  ∀ k, b'.received k = (b.received k).map (· ++ new)

theorem Tells.refl {b b' : Buffer} (h : b'.subscribers = b.subscribers) : b.Tells [] b' := by
  intro k
  simp [received, h]

theorem Tells.trans {b b₁ b₂ : Buffer} {new new' : List Change} (h : b.Tells new b₁)
    (h' : b₁.Tells new' b₂) : b.Tells (new ++ new') b₂ := by
  intro k
  simp [h' k, h k, Function.comp_def]

/-- The texts that a call leads through, the last of them the one it leaves: one for each line that
is appended, and none if the text stays the same. -/
def stages (b : Buffer) (c : BufferCall) : List Text :=
  match c with
  | .append t => b.text.extended t.lines
  | .edit _ | .setProfile _ | .subscribe | .unsubscribe _ =>
    if (b.after c).text = b.text then [] else [(b.after c).text]

theorem stages_eq_nil {b : Buffer} {c : BufferCall} (hc : ∀ t, c ≠ .append t)
    (htext : (b.after c).text = b.text) : b.stages c = [] := by
  cases c with
  | append t => exact absurd rfl (hc t)
  | _ => exact if_pos htext

/-- The texts that calls lead through, made one after the other. -/
def passed (b : Buffer) : List BufferCall → List Text
  | [] => []
  | c :: calls => b.stages c ++ (b.after c).passed calls

/-! ### Texts of buffers -/

section Texts

variable {b b' : Buffer}

theorem IsClean.offset_text (hb : b.IsClean) (p : Point) : b.text.offset p = b.offset p := by
  rw [Text.offset, hb.lines_text]
  rfl

theorem IsClean.hasRange_text_iff (hb : b.IsClean) {r : Range} :
    b.text.HasRange r ↔ b.checkRange r = .ok () := by
  rw [Text.HasRange, hb.lines_text]
  exact checkRange_eq_ok_iff.symm

/-- Where a part of the text has given way to another, a change from the place of the one to the
place of the other describes it. -/
theorem describes_of_text (hb : b.IsClean) (hb' : b'.IsClean) {x y n z : Text}
    (h : b.text = x ++ y ++ z) (h' : b'.text = x ++ n ++ z) (kind : ChangeKind) :
    Change.Describes ⟨kind, ⟨.behind x, .behind (x ++ y)⟩, ⟨.behind x, .behind (x ++ n)⟩⟩
      b.text b'.text where
  hasRange_before := hb.hasRange_text_iff.mpr (checkRange_behind hb h).1
  hasRange_after := hb'.hasRange_text_iff.mpr (checkRange_behind hb' h').1
  spliced := by
    have hstart := offset_behind hb (h.trans (List.append_assoc x y z))
    have hstop := offset_behind hb h
    have hstart' := offset_behind hb' (h'.trans (List.append_assoc x n z))
    have hstop' := offset_behind hb' h'
    simp only [Text.inside, hb.offset_text, hb'.offset_text, hstart, hstop, hstart', hstop']
    rw [h, h', List.drop_left, List.append_assoc x y z, List.take_left, List.append_assoc x n z,
      List.drop_left, List.length_append, Nat.add_sub_cancel_left, List.take_left,
      List.append_assoc]

end Texts

/-! ### One call -/

theorem tells_appendOne (b : Buffer) (t : Text) :
    b.Tells [⟨.insert, .emptyAt b.stopPoint, ⟨b.stopPoint, ⟨b.lineCount + 1, t.length⟩⟩⟩]
      { b.appendOne (some b.nextId) t with nextId := b.nextId + 1 } :=
  b.subscribers.received_notify _

theorem describes_appendOne {b : Buffer} (hb : b.IsClean) (id : LineId) {t : Text} (ht : t.IsLine) :
    Change.Describes ⟨.insert, .emptyAt b.stopPoint, ⟨b.stopPoint, ⟨b.lineCount + 1, t.length⟩⟩⟩
      b.text (b.appendOne id t).text := by
  have hb' := hb.appendOne id ht
  have htext : b.text = b.text ++ [] ++ [] := by simp
  have htext' : (b.appendOne id t).text = b.text ++ '\n' :: t ++ [] := by
    rw [text_appendOne, List.append_nil]
  have hstop : (⟨b.lineCount + 1, t.length⟩ : Point) = .behind (b.text ++ '\n' :: t) := by
    rw [← text_appendOne b id t, ← hb'.stopPoint_eq]
    simp [stopPoint, lineCount, lastLine, Buffer.appendOne, Line.length, Line.scanned,
      Line.unscanned]
  have hdescribes := describes_of_text hb hb' htext htext' .insert
  rw [List.append_nil, ← hb.stopPoint_eq, ← hstop] at hdescribes
  exact hdescribes

/-- Of lines that are appended each is told. -/
theorem replay_appendNew {b : Buffer} (hb : b.IsClean) {ts : List Text} (hts : ∀ t ∈ ts, t.IsLine) :
    ∃ new, b.Tells new (b.appendNew ts) ∧
      Replay b.text new (b.text.extended ts) (b.appendNew ts).text := by
  induction ts generalizing b with
  | nil => exact ⟨[], .refl rfl, .nil _⟩
  | cons t rest ih =>
    let b₁ : Buffer := { b.appendOne (some b.nextId) t with nextId := b.nextId + 1 }
    have ht := hts t List.mem_cons_self
    have hb₁ : b₁.IsClean := hb.appendOne _ ht
    have htells := tells_appendOne b t
    obtain ⟨new, htells', hreplay⟩ := ih hb₁ fun s hs => hts s (List.mem_cons_of_mem t hs)
    refine ⟨_, htells.trans htells', ?_⟩
    have htext : b₁.text = b.text ++ '\n' :: t := text_appendOne b _ t
    rw [Text.extended, ← htext]
    exact .cons (describes_appendOne hb (some b.nextId) ht) hreplay

/-- An accepted request is told if it changes the text. -/
theorem replay_edit {b b' : Buffer} (hb : b.IsClean) {q : EditRequest} {e : Edit}
    (h : b.edit q = (.ok e, b')) :
    b' = b ∨ ∃ c, b.Tells [c] b' ∧ c.Describes b.text b'.text ∧ b'.text ≠ b.text := by
  obtain ⟨x, y, z, htext, hrange, rfl, htext', hb'⟩ := exists_splice_of_edit hb h
  rcases edit_cases h with ⟨_, rfl⟩ | ⟨hchanged, heq⟩
  · exact .inl rfl
  · refine .inr ⟨⟨q.kind, q.range, ⟨q.range.start, q.range.start.advance q.text.normalized⟩⟩, ?_,
      ?_, ?_⟩
    · rw [heq]
      exact b.subscribers.received_notify _
    · rw [hrange, ← Point.behind_append]
      exact describes_of_text hb hb' htext htext' q.kind
    · rw [htext', htext, ne_eq, List.append_cancel_right_eq, List.append_cancel_left_eq]
      simpa using Ne.symm (by simpa using hchanged)

/-- What a call tells leads through the texts that the call leads through. -/
theorem replay_after {b : Buffer} (hb : b.IsClean) (c : BufferCall) :
    ∃ new, Replay b.text new (b.stages c) (b.after c).text ∧
      ∀ k events, c ≠ .unsubscribe k → b.received k = some events →
        (b.after c).received k = some (events ++ new) := by
  have of_tells : ∀ {new}, b.Tells new (b.after c) → ∀ k events, c ≠ .unsubscribe k →
      b.received k = some events → (b.after c).received k = some (events ++ new) := by
    intro new htells k events _ hk
    rw [htells k, hk, Option.map_some]
  have unchanged : (∀ t, c ≠ .append t) → (b.after c).text = b.text →
      Replay b.text [] (b.stages c) (b.after c).text := by
    intro hc htext
    rw [stages_eq_nil hc htext, htext]
    exact .nil _
  cases c with
  | edit q =>
    rcases hedit : b.edit q with ⟨error | e, b'⟩
    · have hafter : b.after (.edit q) = b := by
        simp only [Buffer.after, hedit, eq_of_edit_error hedit]
      exact ⟨[], unchanged (by simp) (by rw [hafter]), of_tells (.refl (by rw [hafter]))⟩
    · have hafter : b.after (.edit q) = b' := by simp only [Buffer.after, hedit]
      rcases replay_edit hb hedit with rfl | ⟨c, htells, hdescribes, hne⟩
      · exact ⟨[], unchanged (by simp) (by rw [hafter]), of_tells (.refl (by rw [hafter]))⟩
      · refine ⟨[c], ?_, of_tells (hafter ▸ htells)⟩
        rw [stages, hafter, if_neg hne]
        exact .cons hdescribes (.nil _)
  | append t =>
    obtain ⟨new, htells, hreplay⟩ := replay_appendNew hb fun _ hl => Text.isLine_of_mem_lines hl
    exact ⟨new, hreplay, of_tells htells⟩
  | setProfile profile =>
    exact ⟨[], unchanged (by simp) (text_setProfile b profile), of_tells (.refl rfl)⟩
  | subscribe =>
    refine ⟨[], unchanged (by simp) rfl, ?_⟩
    intro k events _ hk
    rw [List.append_nil]
    exact Subscribers.received_subscribe hk
  | unsubscribe j =>
    refine ⟨[], unchanged (by simp) rfl, ?_⟩
    intro k events hne hk
    rw [List.append_nil]
    exact (Subscribers.received_unsubscribe_of_ne fun h => hne (congrArg _ h)).trans hk

/-! ### Runs -/

/-- Who listens all the time hears the whole story, one call after the other. -/
theorem replay_run {b : Buffer} (hb : b.IsClean) {k : Nat} {events : List Change}
    (hk : b.received k = some events) (calls : List BufferCall)
    (listens : .unsubscribe k ∉ calls) :
    ∃ new, (b.run calls).received k = some (events ++ new) ∧
      Replay b.text new (b.passed calls) (b.run calls).text := by
  induction calls generalizing b events with
  | nil => exact ⟨[], by rwa [List.append_nil], .nil _⟩
  | cons c calls ih =>
    obtain ⟨hc, hcalls⟩ := not_or.mp (mt List.mem_cons.mpr listens)
    obtain ⟨new, hreplay, hsent⟩ := replay_after hb c
    obtain ⟨new', hk', hreplay'⟩ := ih (hb.after c) (hsent k events (Ne.symm hc) hk) hcalls
    exact ⟨new ++ new', by rwa [← List.append_assoc], hreplay.append hreplay'⟩

/-- **The changes tell what has happened.**  Who subscribes to a buffer, and goes on listening while
calls are made, receives changes that lead from the text at that time to the text now: the range
that gives way is one of the text before the change, the range that is there now is one of the text
after it, and outside the two nothing differs; and each change goes on from the text that the one
before has left.  With each call come one change for every line that it appends, one change for an
edit if that changes the text, and nothing otherwise. -/
theorem Obtained.changes_replay {b : Buffer} (obtained : b.Obtained) (calls : List BufferCall)
    (listens : .unsubscribe b.subscribe.1 ∉ calls) :
    let k := b.subscribe.1
    let b₀ := b.subscribe.2
    let b' := b₀.run calls
    ∃ events, b'.received k = some events ∧
      Replay b.text events (b₀.passed calls) b'.text ∧
      ∀ c, c ≠ .unsubscribe k → ∃ new,
        (b'.after c).received k = some (events ++ new) ∧
        Replay b'.text new (b'.stages c) (b'.after c).text ∧
        new.length = match c with
          | .edit _ => if (b'.after c).text = b'.text then 0 else 1
          | .append t => t.lines.length
          | _ => 0 := by
  intro k b₀ b'
  have hb₀ : b₀.IsClean := obtained.isClean
  obtain ⟨events, hevents, hreplay⟩ :=
    replay_run hb₀ (Subscribers.received_subscribe_next b.subscribers) calls listens
  refine ⟨events, hevents, hreplay, ?_⟩
  intro c hc
  have hb' : b'.IsClean := ((obtained.after .subscribe).run calls).isClean
  obtain ⟨new, hreplay', hsent⟩ := replay_after hb' c
  refine ⟨new, hsent k events hc hevents, hreplay', ?_⟩
  rw [hreplay'.length_eq]
  have silent : (∀ t, c ≠ .append t) → (b'.after c).text = b'.text → (b'.stages c).length = 0 := by
    intro hc htext
    rw [stages_eq_nil hc htext, List.length_nil]
  cases c with
  | edit q =>
    simp only [stages]
    split <;> rfl
  | append t => exact Text.length_extended _ _
  | setProfile profile => exact silent (by simp) (text_setProfile b' profile)
  | subscribe => exact silent (by simp) rfl
  | unsubscribe j => exact silent (by simp) rfl

/-- A line is broken, an edit puts back what it removes, one is refused, and two lines are appended;
meanwhile another subscribes and goes. -/
theorem changes_replay_of_broken_line :
    let b := Buffer.ofText ['a', 'b'] .plainText
    let calls : List BufferCall :=
      [.edit (.insert ⟨1, 1⟩ ['\r', '\n']), .subscribe,
        .edit (.replace ⟨⟨1, 0⟩, ⟨2, 0⟩⟩ ['a', '\r']), .edit (.delete ⟨⟨1, 0⟩, ⟨3, 0⟩⟩),
        .unsubscribe 1, .append ['c', '\n', 'd']]
    let events : List Change :=
      [⟨.insert, ⟨⟨1, 1⟩, ⟨1, 1⟩⟩, ⟨⟨1, 1⟩, ⟨2, 0⟩⟩⟩,
        ⟨.insert, ⟨⟨2, 1⟩, ⟨2, 1⟩⟩, ⟨⟨2, 1⟩, ⟨3, 1⟩⟩⟩,
        ⟨.insert, ⟨⟨3, 1⟩, ⟨3, 1⟩⟩, ⟨⟨3, 1⟩, ⟨4, 1⟩⟩⟩]
    b.Obtained ∧ .unsubscribe b.subscribe.1 ∉ calls ∧
      (b.subscribe.2.run calls).received b.subscribe.1 = some events ∧
      Replay ['a', 'b'] events
        [['a', '\n', 'b'], ['a', '\n', 'b', '\n', 'c'], ['a', '\n', 'b', '\n', 'c', '\n', 'd']]
        ['a', '\n', 'b', '\n', 'c', '\n', 'd'] := by
  intro b calls events
  have obtained : b.Obtained := .ofReachable (.ofText _ _)
  have hlistens : .unsubscribe b.subscribe.1 ∉ calls := by
    simp [calls, b, subscribe, ofText, ofLines, Subscribers.empty]
  have hpassed : b.subscribe.2.passed calls =
      [['a', '\n', 'b'], ['a', '\n', 'b', '\n', 'c'], ['a', '\n', 'b', '\n', 'c', '\n', 'd']] := by
    decide
  have htext : (b.subscribe.2.run calls).text = ['a', '\n', 'b', '\n', 'c', '\n', 'd'] := by decide
  have hreceived : (b.subscribe.2.run calls).received b.subscribe.1 = some events := by decide
  obtain ⟨events', hevents, hreplay, _⟩ := obtained.changes_replay calls hlistens
  obtain rfl := Option.some.inj (hreceived.symm.trans hevents)
  rw [hpassed, htext] at hreplay
  exact ⟨obtained, hlistens, hreceived, hreplay⟩

end Buffer

end SourceEditor
