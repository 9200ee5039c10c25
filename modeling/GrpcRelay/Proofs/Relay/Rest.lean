/-
  Loops at rest — what a loop waits for when none of its branches is ready
  (`RequestLoop.Waits`, `ResponseLoop.Waits`).

  In a run a loop that has been started comes to rest in the documented places
  only: it has returned, or it waits for the next item, for room for a frame
  or, the response loop, for room for its final status (`loops_wait_exactly`).
-/
import GrpcRelay.Proofs.Relay.Outcome
import GrpcRelay.Proofs.Relay.RequestLoop

namespace GrpcRelay

namespace RequestLoop

variable {scope : Bool} {u : RequestLoop} {a : Abort}

theorem Move.mem_all (m : Move) : m ∈ all := by cases m <;> decide

/-- No branch is ready. -/
def Rests (scope : Bool) (a : Abort) (u : RequestLoop) : Prop := ∀ m, u.step? scope a m = none

theorem rests_iff : u.Rests scope a ↔ Move.all.findSome? (u.step? scope a) = none := by
  simp [Rests, List.findSome?_eq_none_iff, Move.mem_all]

/-- What the loop waits for. -/
inductive Waits (scope : Bool) (a : Abort) (u : RequestLoop) : Prop
  | start (hp : u.position = .idle)
  | item (hp : u.position = .reading) (hc : a.isCancelled scope = false)
      (hn : u.source.next? = none)
  | room (f : Frame) (hp : u.position = .holding f) (hc : a.isCancelled scope = false)
      (hr : u.sink.receiverOpen = true) (hm : u.sink.hasRoom = false)
  | nothing (hu : u.hasReturned = true)

theorem Rests.waits (h : u.Rests scope a) : u.Waits scope a := by
  cases hp : u.position with
  | idle => exact .start hp
  | reading =>
    have hquit := h .quit
    have hread := h .read
    simp only [step?, hp] at hquit hread
    exact .item hp (by simpa using hquit) (by simpa using hread)
  | holding f =>
    have hquit := h .quit
    have hrefuse := h .refuse
    have hsend := h .send
    simp only [step?, hp] at hquit hrefuse hsend
    have hr : u.sink.receiverOpen = true := by simpa using hrefuse
    exact .room f hp (by simpa using hquit) hr (by simpa [hr] using hsend)
  | recording e =>
    have hrecord := h .record
    simp [step?, hp] at hrecord
  | signalling =>
    have hsignal := h .signal
    simp [step?, hp] at hsignal
  | returned why => exact .nothing (by rw [hasReturned, hp])

theorem Waits.rests (h : u.Waits scope a) : u.Rests scope a := by
  intro m
  cases h with
  | start hp => cases m <;> simp [step?, hp]
  | item hp hc hn => cases m <;> simp [step?, hp, hc, hn]
  | room f hp hc hr hm => cases m <;> simp [step?, hp, hc, hr, hm]
  | nothing hu =>
    unfold hasReturned at hu
    split at hu
    · next why hp => cases m <;> simp [step?, hp]
    · cases hu

/-- A loop that has been told to stop has returned, if it was ever started. -/
theorem Rests.returned (h : u.Rests scope a) (hc : a.isCancelled scope = true)
    (hp : u.position ≠ .idle) : u.hasReturned = true := by
  cases h.waits with
  | start hp' => exact absurd hp' hp
  | item _ hc' | room _ _ hc' => rw [hc] at hc'; cases hc'
  | nothing hu => exact hu

/-! ### In a run -/

variable {capacity : Nat} {w w' : Setting RequestLoop}

theorem Turn.bounded {u' : RequestLoop} {a' : Abort} {m : Move} (h : Turn scope u a m u' a')
    (hb : u.sink.Bounded capacity) : u'.sink.Bounded capacity := by
  cases h with
  | send f _ _ hm => exact hb.put hm f
  | quitReading | quitHolding | refuse | readEnd | signal => exact hb.closeSender
  | readFrame | readFailure | record => exact hb

theorem Step.bounded (hs : Step w w') (hb : w.loop.sink.Bounded capacity) :
    w'.loop.sink.Bounded capacity := by
  cases hs with
  | start | signals => exact hb
  | branch m h => exact (turn_of_step? h.1).bounded hb
  | ends ho => exact ho.bounded hb

/-- The channel of the loop never holds more than its capacity. -/
theorem Run.bounded (hr : Run (initial capacity) w) : w.loop.sink.Bounded capacity := by
  induction hr with
  | refl => exact Channel.bounded_ofCapacity capacity
  | tail _ hs ih => exact hs.bounded ih

/-- The loop has been started, and nothing of it can move. -/
def AtRest (w : Setting RequestLoop) : Prop :=
  w.loop.position ≠ .idle ∧ w.loop.Rests w.scope w.abort

/-- What a loop that has not returned may wait for. -/
inductive Wait where
  /-- The next item of the caller's stream. -/
  | item
  /-- Room for the frame that it holds. -/
  | room
  deriving DecidableEq

/-- The loop waits for this: its token is not cancelled, and the stream is open and all of it has
    been read, or the channel is full and its receiver is there. -/
def WaitsFor (capacity : Nat) (w : Setting RequestLoop) : Wait → Prop
  | .item =>
    w.isCancelled = false ∧ w.loop.position = .reading ∧ w.loop.source.ended = false ∧
      w.loop.source.queue = []
  | .room =>
    w.isCancelled = false ∧ (∃ f, w.loop.position = .holding f) ∧
      w.loop.sink.receiverOpen = true ∧ w.loop.sink.queue.length = capacity

/-- A loop waits for one thing at a time. -/
theorem WaitsFor.unique {k k' : Wait} (h : WaitsFor capacity w k) (h' : WaitsFor capacity w k') :
    k' = k := by
  cases k <;> cases k' <;> grind [WaitsFor]

theorem atRest_iff (hb : w.loop.sink.Bounded capacity) :
    AtRest w ↔ w.loop.hasReturned = true ∨ ∃! k, WaitsFor capacity w k := by
  constructor
  · rintro ⟨hidle, hrests⟩
    cases hrests.waits with
    | start hp => exact absurd hp hidle
    | item hp hc hn =>
      obtain ⟨he, hq⟩ := Source.next?_eq_none_iff.1 hn
      have hw : WaitsFor capacity w .item := ⟨hc, hp, he, hq⟩
      exact Or.inr ⟨.item, hw, fun _ => hw.unique⟩
    | room f hp hc hr hm =>
      have hw : WaitsFor capacity w .room := ⟨hc, ⟨f, hp⟩, hr, hb.hasRoom_eq_false_iff.1 hm⟩
      exact Or.inr ⟨.room, hw, fun _ => hw.unique⟩
    | nothing hu => exact Or.inl hu
  · rintro (hu | ⟨k, hk, -⟩)
    · refine ⟨fun hp => ?_, (Waits.nothing hu).rests⟩
      rw [hasReturned, hp] at hu; cases hu
    · cases k with
      | item =>
        obtain ⟨hc, hp, hs⟩ := hk
        exact ⟨by simp [hp], (Waits.item hp hc (Source.next?_eq_none_iff.2 hs)).rests⟩
      | room =>
        obtain ⟨hc, ⟨f, hp⟩, hr, hm⟩ := hk
        exact ⟨by simp [hp],
          (Waits.room f hp hc hr (hb.hasRoom_eq_false_iff.2 hm)).rests⟩

end RequestLoop

namespace ResponseLoop

variable {scope : Bool} {d : ResponseLoop} {a : Abort}

theorem Move.mem_all (m : Move) : m ∈ all := by cases m <;> decide

/-- No branch is ready. -/
def Rests (scope : Bool) (a : Abort) (d : ResponseLoop) : Prop := ∀ m, d.step? scope a m = none

theorem rests_iff : d.Rests scope a ↔ Move.all.findSome? (d.step? scope a) = none := by
  simp [Rests, List.findSome?_eq_none_iff, Move.mem_all]

/-- What the loop waits for. -/
inductive Waits (scope : Bool) (a : Abort) (d : ResponseLoop) : Prop
  | start (hp : d.position = .idle)
  | item (hp : d.position = .reading) (hc : a.isCancelled scope = false)
      (hr : d.sink.receiverOpen = true) (hn : d.source.next? = none)
  | room (f : Frame) (hp : d.position = .holding f) (hc : a.isCancelled scope = false)
      (hr : d.sink.receiverOpen = true) (hm : d.sink.hasRoom = false)
  | delivery (e : Status) (o : Outcome) (hp : d.position = .delivering e o)
      (hr : d.sink.receiverOpen = true) (hm : d.sink.hasRoom = false)
  | nothing (o : Outcome) (hp : d.position = .returned o)

theorem Rests.waits (h : d.Rests scope a) : d.Waits scope a := by
  cases hp : d.position with
  | idle => exact .start hp
  | reading =>
    have hquit := h .quit
    have hdesert := h .desert
    have hread := h .read
    simp only [step?, hp] at hquit hdesert hread
    exact .item hp (by simpa using hquit) (by simpa using hdesert) (by simpa using hread)
  | holding f =>
    have hquit := h .quit
    have hdesert := h .desert
    have hsend := h .send
    simp only [step?, hp] at hquit hdesert hsend
    have hr : d.sink.receiverOpen = true := by simpa using hdesert
    exact .room f hp (by simpa using hquit) hr (by simpa [hr] using hsend)
  | fetching =>
    have hfetch := h .fetch
    simp [step?, hp] at hfetch
  | recording e tell =>
    have hrecord := h .record
    simp [step?, hp] at hrecord
  | signalling e tell =>
    have hsignal := h .signal
    simp only [step?, hp] at hsignal
    split at hsignal <;> cases hsignal
  | delivering e o =>
    have hdeliver := h .deliver
    have hdrop := h .drop
    simp only [step?, hp] at hdeliver hdrop
    have hr : d.sink.receiverOpen = true := by simpa using hdrop
    exact .delivery e o hp hr (by simpa [hr] using hdeliver)
  | returned o => exact .nothing o hp

theorem Waits.rests (h : d.Waits scope a) : d.Rests scope a := by
  intro m
  cases h with
  | start hp => cases m <;> simp [step?, hp]
  | item hp hc hr hn => cases m <;> simp [step?, hp, hc, hr, hn]
  | room f hp hc hr hm => cases m <;> simp [step?, hp, hc, hr, hm]
  | delivery e o hp hr hm => cases m <;> simp [step?, hp, hr, hm]
  | nothing o hp => cases m <;> simp [step?, hp]

/-! ### In a run -/

variable {capacity : Nat} {w w' : Setting ResponseLoop}

theorem Turn.bounded {d' : ResponseLoop} {a' : Abort} {m : Move} (h : Turn scope d a m d' a')
    (hb : d.sink.Bounded capacity) : d'.sink.Bounded capacity := by
  cases h with
  | send f _ _ hm => exact hb.put hm (.frame f)
  | deliver e _ _ _ hm => exact (hb.put hm (.failure e)).closeSender
  | fetchNothing | signalQuiet | drop => exact hb.closeSender
  | quitReading | quitHolding | desertReading | desertHolding | readFrame | readFailure | readEnd
  | fetchFailure | fetchSome | record | signalLoud => exact hb

theorem Step.bounded (hs : Step w w') (hb : w.loop.sink.Bounded capacity) :
    w'.loop.sink.Bounded capacity := by
  cases hs with
  | start | signals => exact hb
  | branch m h => exact (turn_of_step? h.1).bounded hb
  | ends ho => exact ho.bounded hb

/-- The channel of the loop never holds more than its capacity. -/
theorem Run.bounded (hr : Run (initial capacity) w) : w.loop.sink.Bounded capacity := by
  induction hr with
  | refl => exact Channel.bounded_ofCapacity capacity
  | tail _ hs ih => exact hs.bounded ih

/-- The loop has been started, and nothing of it can move. -/
def AtRest (w : Setting ResponseLoop) : Prop :=
  w.loop.position ≠ .idle ∧ w.loop.Rests w.scope w.abort

/-- What a loop that has not returned may wait for. -/
inductive Wait where
  /-- The next item of the backend's stream. -/
  | item
  /-- Room for the frame that it holds. -/
  | room
  /-- Room for its final status. -/
  | delivery
  deriving DecidableEq

/-- The loop waits for this.  The receiver of the channel is there, and the stream is open and all
    of it has been read, or the channel is full.  The token is not cancelled, unless the outcome
    is settled: then the loop waits whatever the token says. -/
def WaitsFor (capacity : Nat) (w : Setting ResponseLoop) : Wait → Prop
  | .item =>
    w.isCancelled = false ∧ w.loop.sink.receiverOpen = true ∧ w.loop.position = .reading ∧
      w.loop.source.ended = false ∧ w.loop.source.queue = []
  | .room =>
    w.isCancelled = false ∧ (∃ f, w.loop.position = .holding f) ∧
      w.loop.sink.receiverOpen = true ∧ w.loop.sink.queue.length = capacity
  | .delivery =>
    (∃ e o, w.loop.position = .delivering e o) ∧
      w.loop.sink.receiverOpen = true ∧ w.loop.sink.queue.length = capacity

/-- A loop waits for one thing at a time. -/
theorem WaitsFor.unique {k k' : Wait} (h : WaitsFor capacity w k) (h' : WaitsFor capacity w k') :
    k' = k := by
  cases k <;> cases k' <;> grind [WaitsFor]

theorem atRest_iff (hb : w.loop.sink.Bounded capacity) :
    AtRest w ↔ w.loop.hasReturned = true ∨ ∃! k, WaitsFor capacity w k := by
  constructor
  · rintro ⟨hidle, hrests⟩
    cases hrests.waits with
    | start hp => exact absurd hp hidle
    | item hp hc hr hn =>
      obtain ⟨he, hq⟩ := Source.next?_eq_none_iff.1 hn
      have hw : WaitsFor capacity w .item := ⟨hc, hr, hp, he, hq⟩
      exact Or.inr ⟨.item, hw, fun _ => hw.unique⟩
    | room f hp hc hr hm =>
      have hw : WaitsFor capacity w .room := ⟨hc, ⟨f, hp⟩, hr, hb.hasRoom_eq_false_iff.1 hm⟩
      exact Or.inr ⟨.room, hw, fun _ => hw.unique⟩
    | delivery e o hp hr hm =>
      have hw : WaitsFor capacity w .delivery := ⟨⟨e, o, hp⟩, hr, hb.hasRoom_eq_false_iff.1 hm⟩
      exact Or.inr ⟨.delivery, hw, fun _ => hw.unique⟩
    | nothing o hp => exact Or.inl (by rw [hasReturned, outcome?, hp]; rfl)
  · rintro (hu | ⟨k, hk, -⟩)
    · obtain ⟨o, ho⟩ := Option.isSome_iff_exists.1 hu
      have hp := outcome?_eq_some ho
      exact ⟨by simp [hp], (Waits.nothing o hp).rests⟩
    · cases k with
      | item =>
        obtain ⟨hc, hr, hp, hs⟩ := hk
        exact ⟨by simp [hp], (Waits.item hp hc hr (Source.next?_eq_none_iff.2 hs)).rests⟩
      | room =>
        obtain ⟨hc, ⟨f, hp⟩, hr, hm⟩ := hk
        exact ⟨by simp [hp],
          (Waits.room f hp hc hr (hb.hasRoom_eq_false_iff.2 hm)).rests⟩
      | delivery =>
        obtain ⟨⟨e, o, hp⟩, hr, hm⟩ := hk
        exact ⟨by simp [hp],
          (Waits.delivery e o hp hr (hb.hasRoom_eq_false_iff.2 hm)).rests⟩

end ResponseLoop

/-! ## Both loops -/

/-- **Where the loops wait.**  In every run, nothing of a loop that has been started can move
    exactly if it has returned or is in one of its documented waits, and then in no other. -/
theorem loops_wait_exactly (capacity : Nat) :
    (∀ w, RequestLoop.Run (RequestLoop.initial capacity) w →
      (RequestLoop.AtRest w ↔
        w.loop.hasReturned = true ∨ ∃! k, RequestLoop.WaitsFor capacity w k)) ∧
    (∀ w, ResponseLoop.Run (ResponseLoop.initial capacity) w →
      (ResponseLoop.AtRest w ↔
        w.loop.hasReturned = true ∨ ∃! k, ResponseLoop.WaitsFor capacity w k)) :=
  ⟨fun _ hr => RequestLoop.atRest_iff hr.bounded, fun _ hr => ResponseLoop.atRest_iff hr.bounded⟩

/-- A request loop that holds a second frame beside a full channel, and a response loop whose
    scope is cancelled beside one: both wait. -/
theorem loops_wait_exactly_of_full :
    (∃ w, RequestLoop.Run (RequestLoop.initial 1) w ∧ RequestLoop.WaitsFor 1 w .room ∧
      RequestLoop.AtRest w) ∧
    ∃ w, ResponseLoop.Run (ResponseLoop.initial 1) w ∧ w.isCancelled = true ∧
      ResponseLoop.WaitsFor 1 w .delivery ∧ ResponseLoop.AtRest w := by
  have hup : ∃ w, RequestLoop.Run (RequestLoop.initial 1) w ∧
      RequestLoop.WaitsFor 1 w .room := by
    have hnew : RequestLoop.Run (RequestLoop.initial 1) _ := .refl
    have hfed := hnew.tail (.ends (.feed (.more [.frame .empty, .frame .empty] rfl)))
    have hstarted := hfed.tail (.start rfl)
    have hread := hstarted.tail (.of_step? (m := .read) rfl)
    have hsent := hread.tail (.of_step? (m := .send) rfl)
    exact ⟨_, hsent.tail (.of_step? (m := .read) rfl), rfl, ⟨.empty, rfl⟩, rfl, rfl⟩
  have hdown : ∃ w, ResponseLoop.Run (ResponseLoop.initial 1) w ∧ w.isCancelled = true ∧
      ResponseLoop.WaitsFor 1 w .delivery := by
    have hnew : ResponseLoop.Run (ResponseLoop.initial 1) _ := .refl
    have hfed := hnew.tail (.ends (.feed (.more [.frame .empty] rfl)))
    have hstarted := hfed.tail (.start rfl)
    have hread := hstarted.tail (.of_step? (m := .read) rfl)
    have hsent := hread.tail (.of_step? (m := .send) rfl)
    have hcancelled := hsent.tail (.signals .cancelScope)
    exact ⟨_, hcancelled.tail (.of_step? (m := .quit) rfl), rfl, ⟨_, _, rfl⟩, rfl, rfl⟩
  obtain ⟨u, hu, hwu⟩ := hup
  obtain ⟨d, hd, hc, hwd⟩ := hdown
  exact ⟨⟨u, hu, hwu, ((loops_wait_exactly 1).1 u hu).2 (Or.inr ⟨_, hwu, fun _ => hwu.unique⟩)⟩,
    d, hd, hc, hwd, ((loops_wait_exactly 1).2 d hd).2 (Or.inr ⟨_, hwd, fun _ => hwd.unique⟩)⟩

end GrpcRelay
