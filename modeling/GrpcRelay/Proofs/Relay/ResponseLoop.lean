/-
  The response loop in its setting — every branch it can take (`Turn`), the
  steps of the loop and of all around it (`Step`), and what every run keeps
  (`Kept`): frames first and at most one status after them in the channel, and
  of what has been read at most one item that the position of the loop accounts
  for.
-/
import GrpcRelay.Proofs.Relay.Setting
import GrpcRelay.Relay.ResponseLoop

namespace GrpcRelay

namespace ResponseLoop

/-! ## Steps -/

/-- What each branch needs and what it makes of the loop and the abort. -/
inductive Turn (scope : Bool) (d : ResponseLoop) (a : Abort) : Move → ResponseLoop → Abort → Prop
  | quitReading (hp : d.position = .reading) (hc : a.isCancelled scope = true) :
      Turn scope d a .quit { d with position := .delivering a.reason (.error a.reason) } a
  | quitHolding (f : Frame) (hp : d.position = .holding f) (hc : a.isCancelled scope = true) :
      Turn scope d a .quit { d with position := .delivering a.reason (.error a.reason) } a
  | desertReading (hp : d.position = .reading) (hr : d.sink.receiverOpen = false) :
      Turn scope d a .desert { d with position := .recording callerGone false } a
  | desertHolding (f : Frame) (hp : d.position = .holding f) (hr : d.sink.receiverOpen = false) :
      Turn scope d a .desert { d with position := .recording callerGone false } a
  | readFrame (f : Frame) (s : Source) (hp : d.position = .reading)
      (hn : d.source.next? = some (.item (.frame f), s)) :
      Turn scope d a .read { d with position := .holding f, source := s } a
  | readFailure (e : Status) (s : Source) (hp : d.position = .reading)
      (hn : d.source.next? = some (.item (.failure e), s)) :
      Turn scope d a .read { d with position := .recording e true, source := s } a
  | readEnd (s : Source) (hp : d.position = .reading) (hn : d.source.next? = some (.ended, s)) :
      Turn scope d a .read { d with position := .fetching, source := s } a
  | send (f : Frame) (hp : d.position = .holding f) (hr : d.sink.receiverOpen = true)
      (hm : d.sink.hasRoom = true) :
      Turn scope d a .send { d with position := .reading, sink := d.sink.put (.frame f) } a
  | fetchFailure (e : Status) (hp : d.position = .fetching) (ht : d.source.trailers = .error e) :
      Turn scope d a .fetch { d with position := .recording e true } a
  | fetchNothing (t : Option Metadata) (hp : d.position = .fetching)
      (ht : d.source.trailers = .ok t) (hs : ∀ m, t = some m → m.strip.isEmpty = true) :
      Turn scope d a .fetch (d.leave (.ok ())) a
  | fetchSome (m : Metadata) (hp : d.position = .fetching)
      (ht : d.source.trailers = .ok (some m)) (hs : m.strip.isEmpty = false) :
      Turn scope d a .fetch { d with position := .delivering (.okWith m.strip) (.ok ()) } a
  | record (e : Status) (tell : Bool) (hp : d.position = .recording e tell) :
      Turn scope d a .record { d with position := .signalling e tell } (a.record e)
  | signalLoud (e : Status) (hp : d.position = .signalling e true) :
      Turn scope d a .signal { d with position := .delivering e (.error e) } a.signal
  | signalQuiet (e : Status) (hp : d.position = .signalling e false) :
      Turn scope d a .signal (d.leave (.error e)) a.signal
  | deliver (e : Status) (o : Outcome) (hp : d.position = .delivering e o)
      (hr : d.sink.receiverOpen = true) (hm : d.sink.hasRoom = true) :
      Turn scope d a .deliver ({ d with sink := d.sink.put (.failure e) }.leave o) a
  | drop (e : Status) (o : Outcome) (hp : d.position = .delivering e o)
      (hr : d.sink.receiverOpen = false) : Turn scope d a .drop (d.leave o) a

variable {scope : Bool} {d d' : ResponseLoop} {a a' : Abort} {m : Move}

theorem turn_of_step? (h : d.step? scope a m = some (d', a')) : Turn scope d a m d' a' := by
  cases m with
  | quit =>
    simp only [step?] at h
    split at h
    · next hp =>
      split at h
      · next hc => cases h; exact .quitReading hp hc
      · cases h
    · next f hp =>
      split at h
      · next hc => cases h; exact .quitHolding f hp hc
      · cases h
    · cases h
  | desert =>
    simp only [step?] at h
    split at h
    · next hp =>
      split at h
      · cases h
      · next hr => cases h; exact .desertReading hp (by simpa using hr)
    · next f hp =>
      split at h
      · cases h
      · next hr => cases h; exact .desertHolding f hp (by simpa using hr)
    · cases h
  | read =>
    simp only [step?] at h
    split at h
    · next hp =>
      obtain ⟨⟨r, s⟩, hn, hr⟩ := Option.map_eq_some_iff.1 h
      rcases r with (f | e) | _ <;> cases hr
      · exact .readFrame f s hp hn
      · exact .readFailure e s hp hn
      · exact .readEnd s hp hn
    · cases h
  | send =>
    simp only [step?] at h
    split at h
    · next f hp =>
      split at h
      · next hs =>
        rw [Bool.and_eq_true] at hs
        cases h; exact .send f hp hs.1 hs.2
      · cases h
    · cases h
  | fetch =>
    simp only [step?] at h
    split at h
    · next hp =>
      cases h
      rcases ht : d.source.trailers with e | _ | m
      · exact .fetchFailure e hp ht
      · exact .fetchNothing none hp ht nofun
      · rw [onTrailers]
        split
        · next hs => exact .fetchNothing (some m) hp ht fun _ h => by cases h; exact hs
        · next hs => exact .fetchSome m hp ht (by simpa using hs)
    · cases h
  | record =>
    simp only [step?] at h
    split at h
    · next e tell hp => cases h; exact .record e tell hp
    · cases h
  | signal =>
    simp only [step?] at h
    split at h
    · next e tell hp =>
      split at h
      · next ht => cases h; subst ht; exact .signalLoud e hp
      · next ht => cases h; rw [Bool.not_eq_true] at ht; subst ht; exact .signalQuiet e hp
    · cases h
  | deliver =>
    simp only [step?] at h
    split at h
    · next e o hp =>
      split at h
      · next hs =>
        rw [Bool.and_eq_true] at hs
        cases h; exact .deliver e o hp hs.1 hs.2
      · cases h
    · cases h
  | drop =>
    simp only [step?] at h
    split at h
    · next e o hp =>
      split at h
      · cases h
      · next hr => cases h; exact .drop e o hp (by simpa using hr)
    · cases h

/-- A branch of the loop reads items and puts items in; all else about the ends stays. -/
structure Leaves (d d' : ResponseLoop) : Prop where
  ended : d'.source.ended = d.source.ended
  seen : d'.sink.seen = d.sink.seen
  receiverOpen : d'.sink.receiverOpen = d.sink.receiverOpen

theorem Turn.leaves (h : Turn scope d a m d' a') : Leaves d d' := by
  cases h with
  | readFrame f s hp hn => exact ⟨(Source.yields_of_next? hn).ended, rfl, rfl⟩
  | readFailure e s hp hn => exact ⟨(Source.yields_of_next? hn).ended, rfl, rfl⟩
  | readEnd s hp hn =>
    obtain ⟨rfl, -⟩ := Source.next?_eq_ended hn
    exact ⟨rfl, rfl, rfl⟩
  | send f => exact ⟨rfl, Channel.seen_put d.sink (.frame f), rfl⟩
  | deliver e => exact ⟨rfl, Channel.seen_put d.sink (.failure e), rfl⟩
  | quitReading | quitHolding | desertReading | desertHolding | fetchFailure | fetchNothing
  | fetchSome | record | signalLoud | signalQuiet | drop => exact ⟨rfl, rfl, rfl⟩

/-- What has arrived at the source stays there. -/
theorem Turn.arrived (h : Turn scope d a m d' a') : d'.source.arrived = d.source.arrived := by
  cases h with
  | readFrame f s hp hn => exact (Source.yields_of_next? hn).arrived
  | readFailure e s hp hn => exact (Source.yields_of_next? hn).arrived
  | readEnd s hp hn =>
    obtain ⟨rfl, -⟩ := Source.next?_eq_ended hn
    rfl
  | quitReading | quitHolding | desertReading | desertHolding | send | fetchFailure | fetchNothing
  | fetchSome | record | signalLoud | signalQuiet | deliver | drop => rfl

/-- A loop that has returned takes no branch. -/
theorem Turn.not_returned (h : Turn scope d a m d' a') : d.hasReturned = false := by
  cases h <;> simp only [hasReturned, outcome?, Option.isSome, *]

/-- Once started, the loop stays started. -/
theorem Turn.started (h : Turn scope d a m d' a') : d'.position ≠ .idle := by
  cases h <;> nofun

/-- The loop leaves its channel when it returns. -/
theorem Turn.senderOpen (h : Turn scope d a m d' a') (hs : d.sink.senderOpen = !d.hasReturned) :
    d'.sink.senderOpen = !d'.hasReturned := by
  rw [h.not_returned] at hs
  cases h with
  | fetchNothing | signalQuiet | deliver | drop => rfl
  | quitReading | quitHolding | desertReading | desertHolding | readFrame | readFailure | readEnd
  | send | fetchFailure | fetchSome | record | signalLoud => exact hs

/-- To others a branch of the loop is at most a sign. -/
theorem Turn.signals (h : Turn scope d a m d' a') :
    Relation.ReflTransGen Signals (a, scope) (a', scope) := by
  cases h with
  | record e => exact .single (.record e)
  | signalLoud | signalQuiet => exact .single .signal
  | quitReading | quitHolding | desertReading | desertHolding | readFrame | readFailure | readEnd
  | send | fetchFailure | fetchNothing | fetchSome | deliver | drop => exact .refl

/-- The loop takes this branch. -/
def Branch (m : Move) (w w' : Setting ResponseLoop) : Prop :=
  w.loop.step? w.scope w.abort m = some (w'.loop, w'.abort) ∧ w'.scope = w.scope

/-- One step of the loop or of something around it. -/
inductive Step : Setting ResponseLoop → Setting ResponseLoop → Prop
  | start {d : ResponseLoop} {a : Abort} {scope : Bool} (hp : d.position = .idle) :
      Step ⟨d, a, scope⟩ ⟨d.start, a, scope⟩
  | branch {w w' : Setting ResponseLoop} (m : Move) (h : Branch m w w') : Step w w'
  | ends {d : ResponseLoop} {a : Abort} {scope : Bool} {s : Source} {k : Channel Item}
      (h : Outside (d.source, d.sink) (s, k)) :
      Step ⟨d, a, scope⟩ ⟨{ d with source := s, sink := k }, a, scope⟩
  | signals {d : ResponseLoop} {a a' : Abort} {scope scope' : Bool}
      (h : Signals (a, scope) (a', scope')) : Step ⟨d, a, scope⟩ ⟨d, a', scope'⟩

theorem Step.of_step? (h : d.step? scope a m = some (d', a')) :
    Step ⟨d, a, scope⟩ ⟨d', a', scope⟩ :=
  .branch m ⟨h, rfl⟩

/-- Runs of the loop among all that can happen around it. -/
abbrev Run : Setting ResponseLoop → Setting ResponseLoop → Prop := Relation.ReflTransGen Step

theorem run_of_signals {d : ResponseLoop} {a : Abort} {scope : Bool} {p : Abort × Bool}
    (h : Relation.ReflTransGen Signals (a, scope) p) : Run ⟨d, a, scope⟩ ⟨d, p.1, p.2⟩ := by
  induction h with
  | refl => exact .refl
  | tail _ hs ih => exact ih.tail (.signals hs)

/-- A loop that has not been started, with nothing cancelled. -/
def initial (capacity : Nat) : Setting ResponseLoop := ⟨.idle .empty capacity, .fresh, false⟩

end ResponseLoop

/-! ## What a run keeps -/

/-- The status that trailers make, if there is anything to hand on. -/
def parting : Option Metadata → Option Status
  | none => none
  | some m => if m.strip.isEmpty then none else some (.okWith m.strip)

/-- Why a response loop comes to an outcome: what it has read and not put into its channel, and
    the status that it is to hand on.  The receiver of the channel may still be `here`. -/
inductive Conclusion (s : Source) (here : Bool) : Outcome → List Item → Option Status → Prop
  | failure (e : Status) : Conclusion s here (.error e) [.failure e] (some e)
  | trailers (e : Status) (he : s.ended = true) (hq : s.queue = []) (ht : s.trailers = .error e) :
      Conclusion s here (.error e) [] (some e)
  | quit (e : Status) : Conclusion s here (.error e) [] (some e)
  | dropped (e : Status) (f : Frame) : Conclusion s here (.error e) [.frame f] (some e)
  | gone (hr : here = false) : Conclusion s here (.error ResponseLoop.callerGone) [] none
  | droppedGone (f : Frame) (hr : here = false) :
      Conclusion s here (.error ResponseLoop.callerGone) [.frame f] none
  | clean (t : Option Metadata) (he : s.ended = true) (hq : s.queue = [])
      (ht : s.trailers = .ok t) : Conclusion s here (.ok ()) [] (parting t)

/-- The items that a loop at this position may have read and not put into its channel, and the
    status that it may have put in after the frames. -/
inductive ResponseLoopAt.Owes (s : Source) (here : Bool) :
    ResponseLoopAt → List Item → Option Status → Prop
  | idle : Owes s here .idle [] none
  | reading : Owes s here .reading [] none
  | holding (f : Frame) : Owes s here (.holding f) [.frame f] none
  | fetching (he : s.ended = true) (hq : s.queue = []) : Owes s here .fetching [] none
  | recording {e : Status} {tell : Bool} {rest : List Item}
      (h : Conclusion s here (.error e) rest (bif tell then some e else none)) :
      Owes s here (.recording e tell) rest none
  | signalling {e : Status} {tell : Bool} {rest : List Item}
      (h : Conclusion s here (.error e) rest (bif tell then some e else none)) :
      Owes s here (.signalling e tell) rest none
  | delivering {e : Status} {o : Outcome} {rest : List Item}
      (h : Conclusion s here o rest (some e)) : Owes s here (.delivering e o) rest none
  | told {o : Outcome} {rest : List Item} {last : Option Status}
      (h : Conclusion s here o rest last) : Owes s here (.returned o) rest last
  | untold {o : Outcome} {rest : List Item} {last : Option Status}
      (h : Conclusion s here o rest last) (hr : here = false) : Owes s here (.returned o) rest none

section Outside

variable {s s' : Source} {k k' : Channel Item} {o : Outcome} {p : ResponseLoopAt}
  {rest : List Item} {last : Option Status}

theorem Conclusion.outside (h : Conclusion s k.receiverOpen o rest last)
    (ho : Outside (s, k) (s', k')) : Conclusion s' k'.receiverOpen o rest last := by
  cases h with
  | failure e => exact .failure e
  | trailers e he hq ht =>
    rw [ho.source_of_ended he]; exact .trailers e he hq ht
  | quit e => exact .quit e
  | dropped e f => exact .dropped e f
  | gone hr => exact .gone (ho.receiverClosed hr)
  | droppedGone f hr => exact .droppedGone f (ho.receiverClosed hr)
  | clean t he hq ht =>
    rw [ho.source_of_ended he]; exact .clean t he hq ht

theorem ResponseLoopAt.Owes.outside (h : p.Owes s k.receiverOpen rest last)
    (ho : Outside (s, k) (s', k')) : p.Owes s' k'.receiverOpen rest last := by
  cases h with
  | idle => exact .idle
  | reading => exact .reading
  | holding f => exact .holding f
  | fetching he hq => rw [ho.source_of_ended he]; exact .fetching he hq
  | recording h => exact .recording (h.outside ho)
  | signalling h => exact .signalling (h.outside ho)
  | delivering h => exact .delivering (h.outside ho)
  | told h => exact .told (h.outside ho)
  | untold h hr => exact .untold (h.outside ho) (ho.receiverClosed hr)

end Outside

namespace ResponseLoop

variable {scope : Bool} {d d' : ResponseLoop} {a a' : Abort} {m : Move}

/-- What holds of a response loop at any moment. -/
structure Kept (d : ResponseLoop) : Prop where
  flow : ∃ (fs : List Frame) (rest : List Item) (last : Option Status),
    d.source.seen = fs.map Item.frame ++ rest ∧
    d.sink.given = fs.map Item.frame ++ last.toList.map Item.failure ∧
    d.position.Owes d.source d.sink.receiverOpen rest last
  senderOpen : d.sink.senderOpen = !d.hasReturned

theorem kept_initial (capacity : Nat) : (initial capacity).loop.Kept where
  flow := ⟨[], [], none, rfl, rfl, .idle⟩
  senderOpen := rfl

theorem Kept.start (h : d.Kept) (hp : d.position = .idle) : d.start.Kept where
  flow := by
    obtain ⟨fs, rest, last, hs, hg, ho⟩ := h.flow
    rw [hp] at ho; cases ho
    exact ⟨fs, [], none, hs, hg, .reading⟩
  senderOpen := by
    rw [show d.start.sink = d.sink from rfl, h.senderOpen]
    simp [hasReturned, outcome?, hp, ResponseLoop.start]

theorem Kept.turn (h : d.Kept) (ht : Turn scope d a m d' a') : d'.Kept := by
  obtain ⟨fs, rest, last, hs, hg, ho⟩ := h.flow
  refine ⟨?_, ht.senderOpen h.senderOpen⟩
  cases ht with
  | quitReading hp =>
    rw [hp] at ho; cases ho
    exact ⟨fs, _, _, hs, hg, .delivering (.quit _)⟩
  | quitHolding f hp =>
    rw [hp] at ho; cases ho
    exact ⟨fs, _, _, hs, hg, .delivering (.dropped _ f)⟩
  | desertReading hp hr =>
    rw [hp] at ho; cases ho
    exact ⟨fs, _, _, hs, hg, .recording (.gone hr)⟩
  | desertHolding f hp hr =>
    rw [hp] at ho; cases ho
    exact ⟨fs, _, _, hs, hg, .recording (.droppedGone f hr)⟩
  | readFrame f s hp hn =>
    rw [hp] at ho; cases ho
    refine ⟨fs, _, _, ?_, hg, .holding f⟩
    rw [(Source.yields_of_next? hn).seen, hs, List.append_nil]
  | readFailure e s hp hn =>
    rw [hp] at ho; cases ho
    refine ⟨fs, _, _, ?_, hg, .recording (.failure e)⟩
    rw [(Source.yields_of_next? hn).seen, hs, List.append_nil]
  | readEnd s hp hn =>
    rw [hp] at ho; cases ho
    obtain ⟨rfl, he, hq⟩ := Source.next?_eq_ended hn
    exact ⟨fs, _, _, hs, hg, .fetching he hq⟩
  | send f hp hr hm =>
    rw [hp] at ho; cases ho
    refine ⟨fs ++ [f], [], none, ?_, ?_, .reading⟩
    · simp [hs]
    · simp [hg]
  | fetchFailure e hp ht =>
    rw [hp] at ho; cases ho with
    | fetching he hq => exact ⟨fs, _, _, hs, hg, .recording (.trailers e he hq ht)⟩
  | fetchNothing t hp ht hm =>
    rw [hp] at ho; cases ho with
    | fetching he hq =>
      have hpart : parting t = none := by
        cases t with
        | none => rfl
        | some m => rw [parting, if_pos (hm m rfl)]
      exact ⟨fs, _, _, hs, hg, .told (hpart ▸ .clean t he hq ht)⟩
  | fetchSome m hp ht hm =>
    rw [hp] at ho; cases ho with
    | fetching he hq =>
      have hpart : parting (some m) = some (.okWith m.strip) := by rw [parting, hm]; rfl
      exact ⟨fs, _, _, hs, hg, .delivering (hpart ▸ .clean (some m) he hq ht)⟩
  | record e tell hp =>
    rw [hp] at ho; cases ho with
    | recording h => exact ⟨fs, _, _, hs, hg, .signalling h⟩
  | signalLoud e hp =>
    rw [hp] at ho; cases ho with
    | signalling h => exact ⟨fs, _, _, hs, hg, .delivering h⟩
  | signalQuiet e hp =>
    rw [hp] at ho; cases ho with
    | signalling h => exact ⟨fs, _, _, hs, hg, .told h⟩
  | deliver e o hp hr hm =>
    rw [hp] at ho; cases ho with
    | delivering h => exact ⟨fs, _, some e, hs, by simp [leave, hg], .told h⟩
  | drop e o hp hr =>
    rw [hp] at ho; cases ho with
    | delivering h => exact ⟨fs, _, _, hs, hg, .untold h hr⟩

theorem Kept.ends {s : Source} {k : Channel Item} (h : d.Kept)
    (ho : Outside (d.source, d.sink) (s, k)) :
    ({ d with source := s, sink := k } : ResponseLoop).Kept where
  flow := by
    obtain ⟨fs, rest, last, hs, hg, hr⟩ := h.flow
    exact ⟨fs, rest, last, by rw [ho.seen, hs], by rw [ho.given, hg], hr.outside ho⟩
  senderOpen := ho.senderOpen.trans h.senderOpen

theorem Kept.step {w w' : Setting ResponseLoop} (h : w.loop.Kept) (hs : Step w w') :
    w'.loop.Kept := by
  cases hs with
  | start hp => exact h.start hp
  | branch m hb => exact h.turn (turn_of_step? hb.1)
  | ends ho => exact h.ends ho
  | signals => exact h

/-- What a response loop has read and put into its channel accounts for each other in every run. -/
theorem Run.kept {capacity : Nat} {w : Setting ResponseLoop} (h : Run (initial capacity) w) :
    w.loop.Kept := by
  induction h with
  | refl => exact kept_initial capacity
  | tail _ hs ih => exact ih.step hs

/-- The frames that were taken are the first of those that have arrived. -/
theorem Kept.carried (h : d.Kept) : framesOf d.sink.seen <+: framesOf d.source.arrived := by
  obtain ⟨fs, rest, last, hs, hg, -⟩ := h.flow
  have hgiven : framesOf d.sink.given <+: framesOf d.source.seen := by
    rw [hg, hs, framesOf_append, framesOf_append, framesOf_failures, List.append_nil]
    exact List.prefix_append _ _
  exact (framesOf_mono d.sink.seen_prefix).trans
    (hgiven.trans (framesOf_mono d.source.seen_prefix))

end ResponseLoop

/-! ## Before the start -/

namespace ResponseLoop

variable {w w' : Setting ResponseLoop}

theorem Step.idle (hs : Step w w') (h : w'.loop.position = .idle) :
    w.loop.position = .idle ∧ w'.loop.sink.given = w.loop.sink.given := by
  cases hs with
  | start => cases h
  | branch m hb => exact absurd h (turn_of_step? hb.1).started
  | ends ho => exact ⟨h, ho.given⟩
  | signals => exact ⟨h, rfl⟩

/-- A loop that has not been started has put nothing in. -/
theorem Run.given_of_idle {capacity : Nat} (hr : Run (initial capacity) w)
    (h : w.loop.position = .idle) : w.loop.sink.given = [] := by
  induction hr with
  | refl => rfl
  | tail _ hs ih =>
    obtain ⟨hidle, hgiven⟩ := hs.idle h
    rw [hgiven, ih hidle]

end ResponseLoop

/-! ## After the last read -/

/-- Whether the loop has read all that it will read, and put in all its frames. -/
def ResponseLoopAt.isPast : ResponseLoopAt → Bool
  | idle | reading | holding _ => false
  | fetching | recording _ _ | signalling _ _ | delivering _ _ | returned _ => true

namespace ResponseLoop

variable {scope : Bool} {d d' : ResponseLoop} {a a' : Abort} {m : Move}
  {w w' : Setting ResponseLoop} {fs : List Frame} {stop : Option Status}

/-- The loop has read these frames and after them the failure `stop`, or the end if there is none;
    it reads no more, and has put in the frames. -/
structure HasRead (fs : List Frame) (stop : Option Status) (d : ResponseLoop) : Prop where
  position : d.position.isPast = true
  seen : d.source.seen = fs.map Item.frame ++ stop.toList.map Item.failure
  given : framesOf d.sink.given = fs
  whole : stop = none → d.source.ended = true ∧ d.source.queue = []

theorem HasRead.turn (h : HasRead fs stop d) (ht : Turn scope d a m d' a') :
    HasRead fs stop d' := by
  obtain ⟨hp, hs, hg, hw⟩ := h
  cases ht with
  | quitReading hp' | quitHolding _ hp' | desertReading hp' | desertHolding _ hp'
  | readFrame _ _ hp' | readFailure _ _ hp' | readEnd _ hp' | send _ hp' => rw [hp'] at hp; cases hp
  | fetchFailure | fetchNothing | fetchSome | record | signalLoud | signalQuiet | drop =>
    exact ⟨rfl, hs, hg, hw⟩
  | deliver e =>
    refine ⟨rfl, hs, ?_, hw⟩
    show framesOf (d.sink.given ++ [.failure e]) = fs
    rw [framesOf_append, framesOf_failure, List.append_nil, hg]

theorem HasRead.step (h : HasRead fs stop w.loop) (hs : Step w w') : HasRead fs stop w'.loop := by
  cases hs with
  | @start d a scope hp =>
    have hpast : d.position.isPast = true := h.position
    rw [hp] at hpast; cases hpast
  | branch m hb => exact h.turn (turn_of_step? hb.1)
  | ends ho =>
    refine ⟨h.position, ho.seen.trans h.seen, by rw [← h.given, ← ho.given], fun hw => ?_⟩
    rw [ho.source_of_ended (h.whole hw).1]
    exact h.whole hw
  | signals => exact h

theorem HasRead.run (h : HasRead fs stop w.loop) (hr : Run w w') : HasRead fs stop w'.loop := by
  induction hr with
  | refl => exact h
  | tail _ hs ih => exact ih.step hs

/-- The channel was given these frames, and at most a status after them. -/
theorem HasRead.given_eq (h : HasRead fs stop d) (hk : d.Kept) :
    ∃ last : Option Status,
      d.sink.given = fs.map Item.frame ++ last.toList.map Item.failure := by
  obtain ⟨gs, rest, last, -, hg, -⟩ := hk.flow
  have hfs : fs = gs := by
    rw [← h.given, hg, framesOf_append, framesOf_map, framesOf_failures, List.append_nil]
  exact ⟨last, by rw [hfs, hg]⟩

/-- Reading a failure is the last read of the loop. -/
theorem hasRead_of_failure {e : Status} {s : Source} (h : d.Kept)
    (hn : d.source.next? = some (.item (.failure e), s))
    (hs : d.step? scope a .read = some (d', a')) : ∃ fs, HasRead fs (some e) d' := by
  obtain ⟨fs, rest, last, hseen, hgiven, ho⟩ := h.flow
  cases turn_of_step? hs with
  | readFrame _ _ _ hn' => rw [hn] at hn'; cases hn'
  | readEnd _ _ hn' => rw [hn] at hn'; cases hn'
  | readFailure e' s' hp hn' =>
    rw [hn] at hn'; cases hn'
    rw [hp] at ho; cases ho
    refine ⟨fs, rfl, ?_, ?_, nofun⟩
    · rw [(Source.yields_of_next? hn).seen, hseen, List.append_nil]; rfl
    · rw [hgiven]; simp

/-- So is reading the end, once all that has arrived has been read. -/
theorem hasRead_of_ended {s : Source} (h : d.Kept) (hn : d.source.next? = some (.ended, s))
    (hs : d.step? scope a .read = some (d', a')) : ∃ fs, HasRead fs none d' := by
  obtain ⟨fs, rest, last, hseen, hgiven, ho⟩ := h.flow
  cases turn_of_step? hs with
  | readFrame _ _ _ hn' => rw [hn] at hn'; cases hn'
  | readFailure _ _ _ hn' => rw [hn] at hn'; cases hn'
  | readEnd s' hp hn' =>
    obtain ⟨rfl, he, hq⟩ := Source.next?_eq_ended hn'
    rw [hp] at ho; cases ho
    refine ⟨fs, rfl, hseen, ?_, fun _ => ⟨he, hq⟩⟩
    rw [hgiven]; simp

/-! ## After the return -/

/-- A loop that has returned puts nothing more into its channel. -/
theorem Step.returned {o : Outcome} (hs : Step w w') (h : w.loop.position = .returned o) :
    w'.loop.position = .returned o ∧ w'.loop.sink.given = w.loop.sink.given := by
  cases hs with
  | start hp => exact absurd (hp.symm.trans h) nofun
  | branch m hb =>
    have hn := (turn_of_step? hb.1).not_returned
    rw [hasReturned, outcome?, h] at hn; cases hn
  | ends ho => exact ⟨h, ho.given⟩
  | signals => exact ⟨h, rfl⟩

theorem Run.returned {o : Outcome} (hr : Run w w') (h : w.loop.position = .returned o) :
    w'.loop.position = .returned o ∧ w'.loop.sink.given = w.loop.sink.given := by
  induction hr with
  | refl => exact ⟨h, rfl⟩
  | tail _ hs ih =>
    obtain ⟨hp, hg⟩ := hs.returned ih.1
    exact ⟨hp, hg.trans ih.2⟩

end ResponseLoop

end GrpcRelay
