/-
  The request loop in its setting — every branch it can take (`Turn`), the
  steps of the loop and of all around it (`Step`), and what every run keeps
  (`Kept`): what has been read is what was put into the channel and, after it,
  at most one item that the position of the loop accounts for.
-/
import GrpcRelay.Proofs.Relay.Setting
import GrpcRelay.Relay.RequestLoop

namespace GrpcRelay

namespace RequestLoop

/-! ## Steps -/

/-- What each branch needs and what it makes of the loop and the abort. -/
inductive Turn (scope : Bool) (u : RequestLoop) (a : Abort) : Move → RequestLoop → Abort → Prop
  | quitReading (hp : u.position = .reading) (hc : a.isCancelled scope = true) :
      Turn scope u a .quit (u.leave .cancelled) a
  | quitHolding (f : Frame) (hp : u.position = .holding f) (hc : a.isCancelled scope = true) :
      Turn scope u a .quit (u.leave .cancelled) a
  | refuse (f : Frame) (hp : u.position = .holding f) (hr : u.sink.receiverOpen = false) :
      Turn scope u a .refuse (u.leave .refused) a
  | readFrame (f : Frame) (s : Source) (hp : u.position = .reading)
      (hn : u.source.next? = some (.item (.frame f), s)) :
      Turn scope u a .read { u with position := .holding f, source := s } a
  | readFailure (e : Status) (s : Source) (hp : u.position = .reading)
      (hn : u.source.next? = some (.item (.failure e), s)) :
      Turn scope u a .read { u with position := .recording e, source := s } a
  | readEnd (s : Source) (hp : u.position = .reading) (hn : u.source.next? = some (.ended, s)) :
      Turn scope u a .read ({ u with source := s }.leave .finished) a
  | send (f : Frame) (hp : u.position = .holding f) (hr : u.sink.receiverOpen = true)
      (hm : u.sink.hasRoom = true) :
      Turn scope u a .send { u with position := .reading, sink := u.sink.put f } a
  | record (e : Status) (hp : u.position = .recording e) :
      Turn scope u a .record { u with position := .signalling } (a.record e)
  | signal (hp : u.position = .signalling) : Turn scope u a .signal (u.leave .failed) a.signal

variable {scope : Bool} {u u' : RequestLoop} {a a' : Abort} {m : Move}

theorem turn_of_step? (h : u.step? scope a m = some (u', a')) : Turn scope u a m u' a' := by
  cases m with
  | quit =>
    simp only [step?] at h
    split at h
    · next hp =>
      split at h
      · next hc => cases h; exact .quitReading hp hc
      · cases h
    · next f hp =>
      split at h
      · next hc => cases h; exact .quitHolding f hp hc
      · cases h
    · cases h
  | refuse =>
    simp only [step?] at h
    split at h
    · next f hp =>
      split at h
      · cases h
      · next hr => cases h; exact .refuse f hp (by simpa using hr)
    · cases h
  | read =>
    simp only [step?] at h
    split at h
    · next hp =>
      obtain ⟨⟨r, s⟩, hn, hr⟩ := Option.map_eq_some_iff.1 h
      rcases r with (f | e) | _ <;> cases hr
      · exact .readFrame f s hp hn
      · exact .readFailure e s hp hn
      · exact .readEnd s hp hn
    · cases h
  | send =>
    simp only [step?] at h
    split at h
    · next f hp =>
      split at h
      · next hs =>
        rw [Bool.and_eq_true] at hs
        cases h; exact .send f hp hs.1 hs.2
      · cases h
    · cases h
  | record =>
    simp only [step?] at h
    split at h
    · next e hp => cases h; exact .record e hp
    · cases h
  | signal =>
    simp only [step?] at h
    split at h
    · next hp => cases h; exact .signal hp
    · cases h

/-- A branch of the loop reads items and puts frames in; all else about the ends stays. -/
structure Leaves (u u' : RequestLoop) : Prop where
  ended : u'.source.ended = u.source.ended
  seen : u'.sink.seen = u.sink.seen

theorem Turn.leaves (h : Turn scope u a m u' a') : Leaves u u' := by
  cases h with
  | readFrame f s hp hn => exact ⟨(Source.yields_of_next? hn).ended, rfl⟩
  | readFailure e s hp hn => exact ⟨(Source.yields_of_next? hn).ended, rfl⟩
  | readEnd s hp hn =>
    obtain ⟨rfl, -⟩ := Source.next?_eq_ended hn
    exact ⟨rfl, rfl⟩
  | send f => exact ⟨rfl, Channel.seen_put u.sink f⟩
  | quitReading | quitHolding | refuse | record | signal => exact ⟨rfl, rfl⟩

/-- What has arrived at the source stays there. -/
theorem Turn.arrived (h : Turn scope u a m u' a') : u'.source.arrived = u.source.arrived := by
  cases h with
  | readFrame f s hp hn => exact (Source.yields_of_next? hn).arrived
  | readFailure e s hp hn => exact (Source.yields_of_next? hn).arrived
  | readEnd s hp hn =>
    obtain ⟨rfl, -⟩ := Source.next?_eq_ended hn
    rfl
  | quitReading | quitHolding | refuse | send | record | signal => rfl

/-- A loop that has returned takes no branch. -/
theorem Turn.not_returned (h : Turn scope u a m u' a') : u.hasReturned = false := by
  cases h <;> simp only [hasReturned, *]

/-- Once started, the loop stays started. -/
theorem Turn.started (h : Turn scope u a m u' a') : u'.position ≠ .idle := by
  cases h <;> nofun

theorem Turn.signalled (h : Turn scope u a m u' a') (ha : a.signalled = true) :
    a'.signalled = true := by
  cases h with
  | signal => rfl
  | quitReading | quitHolding | refuse | readFrame | readFailure | readEnd | send | record =>
    exact ha

/-- The loop leaves its channel when it returns. -/
theorem Turn.senderOpen (h : Turn scope u a m u' a') (hs : u.sink.senderOpen = !u.hasReturned) :
    u'.sink.senderOpen = !u'.hasReturned := by
  rw [h.not_returned] at hs
  cases h with
  | quitReading | quitHolding | refuse | readEnd | signal => rfl
  | readFrame | readFailure | send | record => exact hs

/-- To others a branch of the loop is at most a sign. -/
theorem Turn.signals (h : Turn scope u a m u' a') :
    Relation.ReflTransGen Signals (a, scope) (a', scope) := by
  cases h with
  | record e => exact .single (.record e)
  | signal => exact .single .signal
  | quitReading | quitHolding | refuse | readFrame | readFailure | readEnd | send => exact .refl

/-- The loop takes this branch. -/
def Branch (m : Move) (w w' : Setting RequestLoop) : Prop :=
  w.loop.step? w.scope w.abort m = some (w'.loop, w'.abort) ∧ w'.scope = w.scope

/-- One step of the loop or of something around it. -/
inductive Step : Setting RequestLoop → Setting RequestLoop → Prop
  | start {u : RequestLoop} {a : Abort} {scope : Bool} (hp : u.position = .idle) :
      Step ⟨u, a, scope⟩ ⟨u.start, a, scope⟩
  | branch {w w' : Setting RequestLoop} (m : Move) (h : Branch m w w') : Step w w'
  | ends {u : RequestLoop} {a : Abort} {scope : Bool} {s : Source} {k : Channel Frame}
      (h : Outside (u.source, u.sink) (s, k)) :
      Step ⟨u, a, scope⟩ ⟨{ u with source := s, sink := k }, a, scope⟩
  | signals {u : RequestLoop} {a a' : Abort} {scope scope' : Bool}
      (h : Signals (a, scope) (a', scope')) : Step ⟨u, a, scope⟩ ⟨u, a', scope'⟩

theorem Step.of_step? (h : u.step? scope a m = some (u', a')) :
    Step ⟨u, a, scope⟩ ⟨u', a', scope⟩ :=
  .branch m ⟨h, rfl⟩

/-- Runs of the loop among all that can happen around it. -/
abbrev Run : Setting RequestLoop → Setting RequestLoop → Prop := Relation.ReflTransGen Step

theorem run_of_signals {u : RequestLoop} {a : Abort} {scope : Bool} {p : Abort × Bool}
    (h : Relation.ReflTransGen Signals (a, scope) p) : Run ⟨u, a, scope⟩ ⟨u, p.1, p.2⟩ := by
  induction h with
  | refl => exact .refl
  | tail _ hs ih => exact ih.tail (.signals hs)

/-- A loop that has not been started, with nothing cancelled. -/
def initial (capacity : Nat) : Setting RequestLoop := ⟨.idle .empty capacity, .fresh, false⟩

end RequestLoop

/-! ## What a run keeps -/

/-- The items that a loop at this position may have read and not put into its channel. -/
inductive RequestLoopAt.Owes : RequestLoopAt → List Item → Prop
  | idle : Owes .idle []
  | reading : Owes .reading []
  | holding (f : Frame) : Owes (.holding f) [.frame f]
  | recording (e : Status) : Owes (.recording e) [.failure e]
  | signalling (e : Status) : Owes .signalling [.failure e]
  | finished : Owes (.returned .finished) []
  | refused (f : Frame) : Owes (.returned .refused) [.frame f]
  | quit : Owes (.returned .cancelled) []
  | dropped (f : Frame) : Owes (.returned .cancelled) [.frame f]
  | failed (e : Status) : Owes (.returned .failed) [.failure e]

namespace RequestLoop

variable {scope : Bool} {u u' : RequestLoop} {a a' : Abort} {m : Move}

/-- What holds of a request loop at any moment. -/
structure Kept (u : RequestLoop) : Prop where
  seen : ∃ rest, u.source.seen = u.sink.given.map Item.frame ++ rest ∧ u.position.Owes rest
  senderOpen : u.sink.senderOpen = !u.hasReturned
  finished : u.position = .returned .finished → u.source.ended = true ∧ u.source.queue = []
  refused : u.position = .returned .refused → u.sink.receiverOpen = false

theorem kept_initial (capacity : Nat) : (initial capacity).loop.Kept where
  seen := ⟨[], rfl, .idle⟩
  senderOpen := rfl
  finished h := by cases h
  refused h := by cases h

theorem Kept.start (h : u.Kept) (hp : u.position = .idle) : u.start.Kept where
  seen := by
    obtain ⟨rest, hs, ho⟩ := h.seen
    rw [hp] at ho; cases ho
    exact ⟨[], hs, .reading⟩
  senderOpen := by
    rw [show u.start.sink = u.sink from rfl, h.senderOpen]
    simp [hasReturned, hp, RequestLoop.start]
  finished h := by cases h
  refused h := by cases h

theorem Kept.turn (h : u.Kept) (ht : Turn scope u a m u' a') : u'.Kept := by
  obtain ⟨rest, hs, ho⟩ := h.seen
  have hopen := ht.senderOpen h.senderOpen
  cases ht with
  | quitReading hp | quitHolding f hp =>
    rw [hp] at ho; cases ho
    exact ⟨⟨_, hs, by constructor⟩, hopen, nofun, nofun⟩
  | refuse f hp hr =>
    rw [hp] at ho; cases ho
    exact ⟨⟨_, hs, .refused f⟩, hopen, nofun, fun _ => hr⟩
  | readFrame f s hp hn =>
    rw [hp] at ho; cases ho
    refine ⟨⟨_, ?_, .holding f⟩, hopen, nofun, nofun⟩
    rw [(Source.yields_of_next? hn).seen, hs, List.append_nil]
  | readFailure e s hp hn =>
    rw [hp] at ho; cases ho
    refine ⟨⟨_, ?_, .recording e⟩, hopen, nofun, nofun⟩
    rw [(Source.yields_of_next? hn).seen, hs, List.append_nil]
  | readEnd s hp hn =>
    rw [hp] at ho; cases ho
    obtain ⟨rfl, he, hq⟩ := Source.next?_eq_ended hn
    exact ⟨⟨_, hs, .finished⟩, hopen, fun _ => ⟨he, hq⟩, nofun⟩
  | send f hp hr hm =>
    rw [hp] at ho; cases ho
    refine ⟨⟨[], ?_, .reading⟩, hopen, nofun, nofun⟩
    simp [hs]
  | record e hp =>
    rw [hp] at ho; cases ho
    exact ⟨⟨_, hs, .signalling e⟩, hopen, nofun, nofun⟩
  | signal hp =>
    rw [hp] at ho; cases ho
    exact ⟨⟨_, hs, .failed _⟩, hopen, nofun, nofun⟩

theorem Kept.ends {s : Source} {k : Channel Frame} (h : u.Kept)
    (ho : Outside (u.source, u.sink) (s, k)) :
    ({ u with source := s, sink := k } : RequestLoop).Kept where
  seen := by
    obtain ⟨rest, hs, hr⟩ := h.seen
    exact ⟨rest, by rw [ho.seen, ho.given, hs], hr⟩
  senderOpen := ho.senderOpen.trans h.senderOpen
  finished hp := by
    have hf := h.finished hp
    rw [ho.source_of_ended hf.1]; exact hf
  refused hp := ho.receiverClosed (h.refused hp)

theorem Kept.step {w w' : Setting RequestLoop} (h : w.loop.Kept) (hs : Step w w') :
    w'.loop.Kept := by
  cases hs with
  | start hp => exact h.start hp
  | branch m hb => exact h.turn (turn_of_step? hb.1)
  | ends ho => exact h.ends ho
  | signals => exact h

/-- What a request loop has read and put into its channel accounts for each other in every run. -/
theorem Run.kept {capacity : Nat} {w : Setting RequestLoop} (h : Run (initial capacity) w) :
    w.loop.Kept := by
  induction h with
  | refl => exact kept_initial capacity
  | tail _ hs ih => exact ih.step hs

/-- The frames that were taken are the first of those that have arrived. -/
theorem Kept.carried (h : u.Kept) : u.sink.seen <+: framesOf u.source.arrived := by
  obtain ⟨rest, hs, -⟩ := h.seen
  have hgiven : u.sink.given <+: framesOf u.source.seen := by
    rw [hs, framesOf_append, framesOf_map]
    exact List.prefix_append _ _
  exact u.sink.seen_prefix.trans (hgiven.trans (framesOf_mono u.source.seen_prefix))

/-- A loop that has finished has put in all that has arrived. -/
theorem Kept.complete (h : u.Kept) (hp : u.position = .returned .finished) :
    u.sink.given.map Item.frame = u.source.arrived := by
  obtain ⟨rest, hs, ho⟩ := h.seen
  rw [hp] at ho; cases ho
  rw [← Source.seen_eq_arrived (h.finished hp).2, hs, List.append_nil]

/-! ## Having returned -/

/-- A loop that reads the end returns as finished. -/
theorem finished_of_ended {s : Source} (hn : u.source.next? = some (.ended, s))
    (hs : u.step? scope a .read = some (u', a')) : u'.position = .returned .finished := by
  cases turn_of_step? hs with
  | readFrame _ _ _ hn' => rw [hn] at hn'; cases hn'
  | readFailure _ _ _ hn' => rw [hn] at hn'; cases hn'
  | readEnd => rfl

theorem Step.returned {w w' : Setting RequestLoop} {why : RequestLoopEnd} (hs : Step w w')
    (h : w.loop.position = .returned why) : w'.loop.position = .returned why := by
  cases hs with
  | start hp => exact absurd (hp.symm.trans h) nofun
  | branch m hb =>
    have hn := (turn_of_step? hb.1).not_returned
    rw [hasReturned, h] at hn; cases hn
  | ends => exact h
  | signals => exact h

theorem Run.returned {w w' : Setting RequestLoop} {why : RequestLoopEnd} (hr : Run w w')
    (h : w.loop.position = .returned why) : w'.loop.position = .returned why := by
  induction hr with
  | refl => exact h
  | tail _ hs ih => exact hs.returned ih

end RequestLoop

end GrpcRelay
