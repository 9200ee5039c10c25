/-
  Buffering — how much of a stream a loop and its channel hold at once.

  A loop reads its next item only where all that it has read is in the channel,
  so it is never more than one item ahead of what it has put in; and the
  channel holds no more than its capacity.  However slowly the receiver takes,
  no more is read and not taken than the channel can hold and one item
  (`buffering_bounded`).
-/
import GrpcRelay.Proofs.Relay.Rest
import GrpcRelay.Proofs.Service.Fidelity

namespace GrpcRelay

/-- How much is held between a source and the receiver of a channel of this capacity by a loop
    that holds these frames itself. -/
structure Buffers {α : Type} (capacity : Nat) (held : List Frame) (source : Source)
    (sink : Channel α) : Prop where
  /-- What has been read and not been taken is at most one item more than the channel can hold. -/
  backlog : source.read ≤ sink.taken + capacity + 1
  /-- So are the frames in hand together with what waits in the channel. -/
  stock : held.length + sink.queue.length ≤ capacity + 1

theorem buffers_of_bounded {α : Type} {capacity : Nat} {held : List Frame} {source : Source}
    {sink : Channel α} (hb : sink.Bounded capacity) (hheld : held.length ≤ 1)
    (hahead : source.read ≤ sink.given.length + 1) : Buffers capacity held source sink := by
  have hqueue := hb.le
  constructor
  · rw [Channel.length_queue] at hqueue
    omega
  · omega

/-! ## The request loop -/

/-- The frames that a loop at this position holds. -/
def RequestLoopAt.held : RequestLoopAt → List Frame
  | holding f => [f]
  | idle | reading | recording _ | signalling | returned _ => []

theorem RequestLoopAt.length_held_le (p : RequestLoopAt) : p.held.length ≤ 1 := by
  cases p <;> simp [held]

theorem RequestLoopAt.Owes.length_le {p : RequestLoopAt} {rest : List Item} (h : p.Owes rest) :
    rest.length ≤ 1 := by
  cases h <;> simp

namespace RequestLoop

variable {w w' : Setting RequestLoop} {capacity : Nat}

theorem Kept.ahead {u : RequestLoop} (h : u.Kept) : u.source.read ≤ u.sink.given.length + 1 := by
  obtain ⟨rest, hs, ho⟩ := h.seen
  have hrest := ho.length_le
  rw [← u.source.length_seen, hs, List.length_append, List.length_map]
  omega

theorem Run.buffers (hr : Run (initial capacity) w) :
    Buffers capacity w.loop.position.held w.loop.source w.loop.sink :=
  buffers_of_bounded hr.bounded w.loop.position.length_held_le hr.kept.ahead

/-- Where the loop reads, all that it has read before is in its channel. -/
theorem Kept.placed (h : w.loop.Kept) (hb : Branch .read w w') :
    w.loop.source.seen = w.loop.sink.given.map Item.frame := by
  obtain ⟨rest, hs, ho⟩ := h.seen
  have hp : w.loop.position = .reading := by
    obtain ⟨u, a, scope⟩ := w
    obtain ⟨u', a', scope'⟩ := w'
    cases turn_of_step? hb.1 <;> assumption
  rw [hp] at ho
  cases ho
  rw [hs, List.append_nil]

/-- What is read is read by the loop, one item at a time. -/
theorem Step.read (hs : Step w w') :
    w'.loop.source.read = w.loop.source.read ∨
      Branch .read w w' ∧ w'.loop.source.read = w.loop.source.read + 1 := by
  obtain ⟨u, a, scope⟩ := w
  obtain ⟨u', a', scope'⟩ := w'
  cases hs with
  | start | signals => exact Or.inl rfl
  | ends ho => exact Or.inl (by simpa using congrArg List.length ho.seen)
  | branch m hb =>
    cases turn_of_step? hb.1 with
    | readFrame f s _ hn | readFailure e s _ hn =>
      have hseen := (Source.yields_of_next? hn).seen
      exact Or.inr ⟨hb, by simpa using congrArg List.length hseen⟩
    | readEnd s _ hn =>
      obtain ⟨rfl, -⟩ := Source.next?_eq_ended hn
      exact Or.inl rfl
    | quitReading | quitHolding | refuse | send | record | signal => exact Or.inl rfl

end RequestLoop

/-! ## The response loop -/

/-- The frames that a loop at this position holds. -/
def ResponseLoopAt.held : ResponseLoopAt → List Frame
  | holding f => [f]
  | idle | reading | fetching | recording _ _ | signalling _ _ | delivering _ _ | returned _ => []

theorem ResponseLoopAt.length_held_le (p : ResponseLoopAt) : p.held.length ≤ 1 := by
  cases p <;> simp [held]

theorem Conclusion.length_le {s : Source} {here : Bool} {o : Outcome} {rest : List Item}
    {last : Option Status} (h : Conclusion s here o rest last) : rest.length ≤ 1 := by
  cases h <;> simp

theorem ResponseLoopAt.Owes.length_le {s : Source} {here : Bool} {p : ResponseLoopAt}
    {rest : List Item} {last : Option Status} (h : p.Owes s here rest last) :
    rest.length ≤ 1 := by
  cases h with
  | idle | reading | fetching => exact Nat.zero_le 1
  | holding => exact Nat.le_refl 1
  | recording h | signalling h | delivering h | told h | untold h => exact h.length_le

namespace ResponseLoop

variable {w w' : Setting ResponseLoop} {capacity : Nat}

/-- The status at the end comes on top of the frames, so it does not put the loop further ahead. -/
theorem Kept.ahead {d : ResponseLoop} (h : d.Kept) :
    d.source.read ≤ d.sink.given.length + 1 := by
  obtain ⟨fs, rest, last, hs, hg, ho⟩ := h.flow
  have hrest := ho.length_le
  rw [← d.source.length_seen, hs, hg]
  simp only [List.length_append, List.length_map]
  omega

theorem Run.buffers (hr : Run (initial capacity) w) :
    Buffers capacity w.loop.position.held w.loop.source w.loop.sink :=
  buffers_of_bounded hr.bounded w.loop.position.length_held_le hr.kept.ahead

/-- Where the loop reads, all that it has read before is in its channel. -/
theorem Kept.placed (h : w.loop.Kept) (hb : Branch .read w w') :
    w.loop.source.seen = w.loop.sink.given := by
  obtain ⟨fs, rest, last, hs, hg, ho⟩ := h.flow
  have hp : w.loop.position = .reading := by
    obtain ⟨d, a, scope⟩ := w
    obtain ⟨d', a', scope'⟩ := w'
    cases turn_of_step? hb.1 <;> assumption
  rw [hp] at ho
  cases ho
  rw [hs, hg]
  rfl

/-- What is read is read by the loop, one item at a time. -/
theorem Step.read (hs : Step w w') :
    w'.loop.source.read = w.loop.source.read ∨
      Branch .read w w' ∧ w'.loop.source.read = w.loop.source.read + 1 := by
  obtain ⟨d, a, scope⟩ := w
  obtain ⟨d', a', scope'⟩ := w'
  cases hs with
  | start | signals => exact Or.inl rfl
  | ends ho => exact Or.inl (by simpa using congrArg List.length ho.seen)
  | branch m hb =>
    cases turn_of_step? hb.1 with
    | readFrame f s _ hn | readFailure e s _ hn =>
      have hseen := (Source.yields_of_next? hn).seen
      exact Or.inr ⟨hb, by simpa using congrArg List.length hseen⟩
    | readEnd s _ hn =>
      obtain ⟨rfl, -⟩ := Source.next?_eq_ended hn
      exact Or.inl rfl
    | quitReading | quitHolding | desertReading | desertHolding | send | fetchFailure
    | fetchNothing | fetchSome | record | signalLoud | signalQuiet | deliver | drop =>
      exact Or.inl rfl

end ResponseLoop

/-! ## Both loops -/

/-- **Bounded buffering.**  In every run of a loop, what it has read and what has not been taken
    from its channel is at most one item more than the channel can hold.  Items are read one at a
    time, and whenever the loop reads, all that it has read before is in the channel.  So each
    loop of a call never holds more than two frames together with its channel. -/
theorem buffering_bounded (capacity : Nat) :
    (∀ t w, Trace RequestLoop.Step (RequestLoop.initial capacity) t w →
      Buffers capacity w.loop.position.held w.loop.source w.loop.sink ∧
      ∀ p ∈ t,
        (p.2.loop.source.read = p.1.loop.source.read ∨
          RequestLoop.Branch .read p.1 p.2 ∧
            p.2.loop.source.read = p.1.loop.source.read + 1) ∧
        (RequestLoop.Branch .read p.1 p.2 →
          p.1.loop.source.seen = p.1.loop.sink.given.map Item.frame)) ∧
    (∀ t w, Trace ResponseLoop.Step (ResponseLoop.initial capacity) t w →
      Buffers capacity w.loop.position.held w.loop.source w.loop.sink ∧
      ∀ p ∈ t,
        (p.2.loop.source.read = p.1.loop.source.read ∨
          ResponseLoop.Branch .read p.1 p.2 ∧
            p.2.loop.source.read = p.1.loop.source.read + 1) ∧
        (ResponseLoop.Branch .read p.1 p.2 →
          p.1.loop.source.seen = p.1.loop.sink.given)) ∧
    ∀ (config : Config) (s : Service) (i : Nat) (c : Call),
      Service.Run (.ofConfig config) s → s.calls[i]? = some c →
      Buffers 1 c.up.position.held c.up.source c.up.sink ∧
        Buffers 1 c.down.position.held c.down.source c.down.sink := by
  refine ⟨fun t w ht => ⟨RequestLoop.Run.buffers ht.run, fun p hp => ?_⟩,
    fun t w ht => ⟨ResponseLoop.Run.buffers ht.run, fun p hp => ?_⟩, ?_⟩
  · obtain ⟨t₁, -, -, hbefore, hs, -⟩ := ht.split hp
    have hkept := RequestLoop.Run.kept hbefore.run
    exact ⟨hs.read, fun hb => hkept.placed hb⟩
  · obtain ⟨t₁, -, -, hbefore, hs, -⟩ := ht.split hp
    have hkept := ResponseLoop.Run.kept hbefore.run
    exact ⟨hs.read, fun hb => hkept.placed hb⟩
  · intro config s i c hr hc
    have hflows := Service.Run.flows hr hc
    exact ⟨hflows.up.buffers, hflows.down.buffers⟩

/-- Two loops that have read a second frame while nothing is taken, and a call that is relayed: a
    loop can get as far ahead as this, and there it can read no more. -/
theorem buffering_bounded_of_full :
    (∃ t w, Trace RequestLoop.Step (RequestLoop.initial 1) t w ∧
      w.loop.source.read = w.loop.sink.taken + 1 + 1 ∧
      Buffers 1 w.loop.position.held w.loop.source w.loop.sink) ∧
    (∃ t w, Trace ResponseLoop.Step (ResponseLoop.initial 1) t w ∧
      w.loop.source.read = w.loop.sink.taken + 1 + 1 ∧
      Buffers 1 w.loop.position.held w.loop.source w.loop.sink) ∧
    ∃ s c, Service.Run (.ofConfig Service.capped) s ∧ s.calls[0]? = some c ∧
      Buffers 1 c.up.position.held c.up.source c.up.sink := by
  refine ⟨?_, ?_, ?_⟩
  · have hnew : Trace RequestLoop.Step (RequestLoop.initial 1) [] _ := .refl
    have hfed := hnew.tail (.ends (.feed (.more [.frame .empty, .frame .empty] rfl)))
    have hstarted := hfed.tail (.start rfl)
    have hread := hstarted.tail (.of_step? (m := .read) rfl)
    have hsent := hread.tail (.of_step? (m := .send) rfl)
    have ht := hsent.tail (.of_step? (m := .read) rfl)
    exact ⟨_, _, ht, rfl, ((buffering_bounded 1).1 _ _ ht).1⟩
  · have hnew : Trace ResponseLoop.Step (ResponseLoop.initial 1) [] _ := .refl
    have hfed := hnew.tail (.ends (.feed (.more [.frame .empty, .frame .empty] rfl)))
    have hstarted := hfed.tail (.start rfl)
    have hread := hstarted.tail (.of_step? (m := .read) rfl)
    have hsent := hread.tail (.of_step? (m := .send) rfl)
    have ht := hsent.tail (.of_step? (m := .read) rfl)
    exact ⟨_, _, ht, rfl, ((buffering_bounded 1).2.1 _ _ ht).1⟩
  · have hr := Service.run_relaying.run
    exact ⟨_, _, hr, rfl, ((buffering_bounded 1).2.2 _ _ 0 _ hr rfl).1⟩

end GrpcRelay
