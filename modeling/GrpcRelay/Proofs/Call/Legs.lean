/-
  The legs of a call — what the caller, the backend and the connection do
  leaves the handler of the call and the positions of its loops alone
  (`Call.core`), and what the backend does also what the caller reads
  (`Call.front`).
-/
import GrpcRelay.Call.Event
import GrpcRelay.Call.Step

namespace GrpcRelay

/-- The part of a call that only the turns of its tasks change. -/
structure Core where
  arrival : Arrival
  stage : Stage
  context : Option CallContext
  route : Option (Route String Unit)
  guard : Option Guard
  abort : Abort
  answer : Option Answer
  up : RequestLoopAt
  down : ResponseLoopAt
  /-- The path and the metadata of the request. -/
  path : PathQuery
  metadata : Metadata

/-! ## The request on its way -/

namespace RequestLeg

variable {r r' r'' : RequestLeg}

/-- Whether the stream of the request is neither cancelled nor lost. -/
def isIntact (r : RequestLeg) : Bool := !r.cancelled && r.lost.isNone

/-- The connection takes nothing of a request that has not come to its backend, and takes the end of
    a request as it takes a frame. -/
structure Ordered (r : RequestLeg) : Prop where
  ready : r.ready = true → r.reached = true
  ended : r.ended = true → r.isIntact = true → r.ready = true

theorem ordered_unsent : unsent.Ordered := ⟨fun h => absurd h Bool.false_ne_true,
  fun h => absurd h Bool.false_ne_true⟩

/-- The connection is ready to take the next frame. -/
theorem ordered_takes (hl : r.isLive = true) : Ordered { r with ready := true } := by
  simp only [isLive, Bool.and_eq_true] at hl
  exact ⟨fun _ => hl.1.1, fun _ _ => rfl⟩

/-- A request goes on: where it has come to it has come for good, what is lost stays lost, and no
    frame is put on the connection but one that it was ready to take. -/
structure GoesOn (r r' : RequestLeg) : Prop where
  reached : r.reached = true → r'.reached = true
  ready : r'.ready = true → r.ready = true ∧ r'.delivered = r.delivered
  intact : r'.isIntact = true → r.isIntact = true
  ordered : r.Ordered → r'.Ordered

theorem GoesOn.refl (r : RequestLeg) : r.GoesOn r := ⟨id, fun h => ⟨h, rfl⟩, id, id⟩

theorem GoesOn.trans (h : r.GoesOn r') (h' : r'.GoesOn r'') : r.GoesOn r'' where
  reached hr := h'.reached (h.reached hr)
  ready hr := by
    obtain ⟨hr', hd'⟩ := h'.ready hr
    obtain ⟨hr, hd⟩ := h.ready hr'
    exact ⟨hr, hd'.trans hd⟩
  intact hi := h.intact (h'.intact hi)
  ordered ho := h'.ordered (h.ordered ho)

theorem goesOn_lost (r : RequestLeg) (l : Loss) : r.GoesOn { r with lost := some l } := by
  have hbroken : isIntact { r with lost := some l } ≠ true := by simp [isIntact]
  exact ⟨id, fun h => ⟨h, rfl⟩, fun hi => absurd hi hbroken,
    fun h => ⟨h.ready, fun _ hi => absurd hi hbroken⟩⟩

theorem goesOn_cancelled (r : RequestLeg) :
    r.GoesOn { r with ended := true, cancelled := true } := by
  have hbroken : isIntact { r with ended := true, cancelled := true } ≠ true := by simp [isIntact]
  exact ⟨id, fun h => ⟨h, rfl⟩, fun hi => absurd hi hbroken,
    fun h => ⟨h.ready, fun _ hi => absurd hi hbroken⟩⟩

end RequestLeg

namespace Call

/-- The core of a call. -/
def core (c : Call) : Core where
  arrival := c.arrival
  stage := c.stage
  context := c.context
  route := c.route
  guard := c.guard
  abort := c.abort
  answer := c.answer
  up := c.up.position
  down := c.down.position
  path := c.request.path
  metadata := c.request.metadata

/-- The part of a call that its leg to the backend leaves alone: the core, whether the caller has
    left, what it has read, and the channel from which it reads. -/
structure Front where
  core : Core
  left : Bool
  heard : List Heard
  sink : Channel Item

/-- The front of a call. -/
def front (c : Call) : Front := ⟨c.core, c.left, c.heard, c.down.sink⟩

variable {config : Config} {c c' : Call}

/-! ## The request -/

/-- What the delivery of a frame comes to. -/
inductive Forwards (config : Config) (c : Call) : Call → Prop
  | delivered (f : Frame) (sink : Channel Frame) (hl : c.request.isLive = true)
      (hr : c.request.ready = true) (ho : c.up.sink.receiverOpen = true)
      (ht : c.up.sink.take? = some (f, sink)) (hf : f.encodeError? config.maxEncoding = none)
      (ha : c.request.admits f = true) :
      Forwards config c
        { c with
          up := { c.up with sink }
          request := { c.request with delivered := c.request.delivered ++ [f], ready := false } }
  | broken (f : Frame) (sink : Channel Frame) (hl : c.request.isLive = true)
      (hr : c.request.ready = true) (ho : c.up.sink.receiverOpen = true)
      (ht : c.up.sink.take? = some (f, sink))
      (hf : f.encodeError? config.maxEncoding = none → c.request.admits f = false) :
      Forwards config c (Call.breakStream { c with up := { c.up with sink } } .reset)

theorem forwards_of_forward (h : c.forward config = some c') : Forwards config c c' := by
  unfold forward at h
  split at h
  · next hready =>
    simp only [Bool.and_eq_true] at hready
    obtain ⟨⟨hl, hr⟩, ho⟩ := hready
    obtain ⟨⟨f, sink⟩, ht, hc⟩ := Option.map_eq_some_iff.1 h
    dsimp only at hc
    split at hc
    · next hbad =>
      rw [← hc]
      refine .broken f sink hl hr ho ht fun hf => ?_
      simpa [hf] using hbad
    · next hgood =>
      rw [← hc]
      simp only [Bool.or_eq_true, not_or, Bool.not_eq_true, Option.isSome_eq_false_iff,
        Option.isNone_iff_eq_none, Bool.not_eq_false'] at hgood
      exact .delivered f sink hl hr ho ht hgood.1 hgood.2
  · cases h

/-- What the end of the request comes to. -/
inductive Finishes (c : Call) : Call → Prop
  | ended (hl : c.request.isLive = true) (hr : c.request.ready = true)
      (he : c.up.sink.receiverOpen = true →
        c.up.sink.isAtEnd = true ∧ c.request.isComplete = true) :
      Finishes c { c with request := { c.request with ended := true } }
  | short (hl : c.request.isLive = true) (hr : c.request.ready = true)
      (ho : c.up.sink.receiverOpen = true) (he : c.up.sink.isAtEnd = true)
      (hs : c.request.isComplete = false) : Finishes c (c.breakStream .reset)

theorem finishes_of_finishRequest (h : c.finishRequest = some c') : Finishes c c' := by
  unfold finishRequest at h
  split at h
  · next hready =>
    obtain ⟨hl, hr⟩ := Bool.and_eq_true_iff.1 hready
    split at h
    · next ho =>
      cases h
      exact .ended hl hr fun h => by simp [h] at ho
    · next ho =>
      split at h
      · next he =>
        split at h
        · next hs => cases h; exact .ended hl hr fun _ => ⟨he, hs⟩
        · next hs => cases h; exact .short hl hr (by simpa using ho) he (by simpa using hs)
      · cases h
  · cases h

/-! ## The leg to the backend -/

@[simp] theorem front_breakStream (c : Call) (l : Loss) : (c.breakStream l).front = c.front := by
  unfold breakStream
  dsimp only
  split <;> rfl

@[simp] theorem front_rejectEnd (c : Call) : c.rejectEnd.front = c.front := by
  unfold rejectEnd
  split
  · rfl
  · exact front_breakStream c .reset

theorem front_giveUpOpening (c : Call) : c.giveUpOpening.front = c.front := by
  unfold giveUpOpening
  split <;> rfl

theorem front_giveUpResponse (c : Call) : c.giveUpResponse.front = c.front := by
  unfold giveUpResponse
  split <;> rfl

@[simp] theorem front_respondHeaders (config : Config) (http : Nat) (headers : Metadata)
    (c : Call) : (c.respondHeaders config http headers).front = c.front := by
  unfold respondHeaders
  split
  · exact front_breakStream c .reset
  · split
    · rfl
    · split <;> rfl

@[simp] theorem front_respond (c : Call) (bytes : ByteArray) :
    (c.respond bytes).front = c.front := by
  unfold respond
  dsimp only
  split
  · rfl
  · split
    · rfl
    · exact front_breakStream _ .reset

@[simp] theorem front_respondEnd (c : Call) (trailers : Option Metadata) :
    (c.respondEnd trailers).front = c.front := by
  unfold respondEnd
  split
  · rfl
  · exact front_rejectEnd c

@[simp] theorem front_turnAway (config : Config) (c : Call) :
    (c.turnAway config).front = c.front := by
  rw [turnAway, front_breakStream, front_respondHeaders]

theorem front_forward (h : c.forward config = some c') : c'.front = c.front := by
  cases forwards_of_forward h with
  | delivered => rfl
  | broken => rw [front_breakStream]; rfl

theorem front_finishRequest (h : c.finishRequest = some c') : c'.front = c.front := by
  cases finishes_of_finishRequest h with
  | ended => rfl
  | short => exact front_breakStream c .reset

theorem core_cancelRequest (c : Call) : c.cancelRequest.core = c.core := rfl

theorem core_giveUpOpening (c : Call) : c.giveUpOpening.core = c.core :=
  congrArg Front.core (front_giveUpOpening c)

theorem core_giveUpResponse (c : Call) : c.giveUpResponse.core = c.core :=
  congrArg Front.core (front_giveUpResponse c)

theorem core_forward (h : c.forward config = some c') : c'.core = c.core :=
  congrArg Front.core (front_forward h)

theorem core_finishRequest (h : c.finishRequest = some c') : c'.core = c.core :=
  congrArg Front.core (front_finishRequest h)

theorem stage_forward (h : c.forward config = some c') : c'.stage = c.stage :=
  congrArg Core.stage (core_forward h)

theorem stage_finishRequest (h : c.finishRequest = some c') : c'.stage = c.stage :=
  congrArg Core.stage (core_finishRequest h)

/-! ## Events -/

/-- The caller can leave and can read; all else that happens leaves the front alone. -/
theorem front_on {e : CallEvent} (hl : e ≠ .leave) (hh : e ≠ .hear) :
    (c.on config e).front = c.front := by
  cases e with
  | leave => exact absurd rfl hl
  | hear => exact absurd rfl hh
  | send | halfClose | fail | reach | ready | respondNoMore | failOpening =>
    simp only [on]
    split <;> rfl
  | turnAway | respondHeaders | respond | respondEnd | reset | refuseHeaders | refuseTrailers
  | breakDown =>
    simp only [on]
    split <;> simp

theorem core_leave (c : Call) : c.leave.core = c.core := by
  have hend : (if c.listensToCaller then c.receiveEnd else c).core = c.core := by
    split <;> rfl
  unfold leave
  dsimp only
  rw [← hend]
  split <;> rfl

theorem core_hear (config : Config) (c : Call) : (c.hear config).2.core = c.core := by
  unfold hear
  split
  · split <;> rfl
  · rfl
  · split <;> rfl

/-- No event moves the handler or a loop. -/
theorem core_on (config : Config) (c : Call) (e : CallEvent) : (c.on config e).core = c.core := by
  by_cases hl : e = .leave
  · subst hl; exact core_leave c
  · by_cases hh : e = .hear
    · subst hh
      simp only [on]
      split
      · exact core_hear config c
      · rfl
    · exact congrArg Front.core (front_on hl hh)

theorem stage_on (config : Config) (c : Call) (e : CallEvent) :
    (c.on config e).stage = c.stage :=
  congrArg Core.stage (core_on config c e)

theorem left_leave (h : c.left = true) : c.leave.left = true := by
  have hend : (if c.listensToCaller then c.receiveEnd else c).left = true := by
    split <;> exact h
  unfold leave
  dsimp only
  split
  · rfl
  · exact hend

theorem left_hear (config : Config) (c : Call) : (c.hear config).2.left = c.left := by
  unfold hear
  split
  · split <;> rfl
  · rfl
  · split <;> rfl

/-- A caller that has left does not come back. -/
theorem left_on (e : CallEvent) (h : c.left = true) : (c.on config e).left = true := by
  by_cases hl : e = .leave
  · subst hl; exact left_leave h
  · by_cases hh : e = .hear
    · subst hh
      simp only [on]
      split
      · exact (left_hear config c).trans h
      · exact h
    · exact (congrArg Front.left (front_on hl hh)).trans h

/-! ## What becomes of the request -/

theorem goesOn_breakStream {r : RequestLeg} (h : r.GoesOn c.request) (l : Loss) :
    r.GoesOn (c.breakStream l).request := by
  unfold breakStream
  dsimp only
  split <;> exact h.trans (c.request.goesOn_lost l)

theorem goesOn_rejectEnd (c : Call) : c.request.GoesOn c.rejectEnd.request := by
  unfold rejectEnd
  split
  · exact .refl _
  · exact goesOn_breakStream (.refl _) .reset

theorem goesOn_giveUpOpening (c : Call) : c.request.GoesOn c.giveUpOpening.request := by
  unfold giveUpOpening
  split
  · exact .refl _
  · exact c.request.goesOn_cancelled

theorem goesOn_giveUpResponse (c : Call) : c.request.GoesOn c.giveUpResponse.request := by
  unfold giveUpResponse
  split <;> exact .refl _

theorem goesOn_respondHeaders (config : Config) (http : Nat) (headers : Metadata) (c : Call) :
    c.request.GoesOn (c.respondHeaders config http headers).request := by
  unfold respondHeaders
  split
  · exact goesOn_breakStream (.refl _) .reset
  · split
    · exact .refl _
    · split <;> exact .refl _

theorem goesOn_respond (c : Call) (bytes : ByteArray) :
    c.request.GoesOn (c.respond bytes).request := by
  unfold respond
  dsimp only
  split
  · exact .refl _
  · split
    · exact .refl _
    · refine goesOn_breakStream ?_ .reset
      exact .refl _

theorem goesOn_respondEnd (c : Call) (trailers : Option Metadata) :
    c.request.GoesOn (c.respondEnd trailers).request := by
  unfold respondEnd
  split
  · exact .refl _
  · exact c.goesOn_rejectEnd

theorem goesOn_turnAway (config : Config) (c : Call) :
    c.request.GoesOn (c.turnAway config).request :=
  goesOn_breakStream (goesOn_respondHeaders config 431 {} c) .reset

theorem goesOn_forward (h : c.forward config = some c') : c.request.GoesOn c'.request := by
  cases forwards_of_forward h with
  | delivered f sink hl =>
    -- nothing is put on the connection after the end
    simp only [RequestLeg.isLive, Bool.and_eq_true, Bool.not_eq_true'] at hl
    have hready : false ≠ true := Bool.false_ne_true
    exact ⟨id, fun hr => absurd hr hready, id, fun _ => ⟨fun hr => absurd hr hready,
      fun he => absurd (hl.2.symm.trans he) hready⟩⟩
  | broken =>
    refine goesOn_breakStream ?_ .reset
    exact .refl _

theorem goesOn_finishRequest (h : c.finishRequest = some c') : c.request.GoesOn c'.request := by
  cases finishes_of_finishRequest h with
  | ended _ hr => exact ⟨id, fun h => ⟨h, rfl⟩, id, fun h => ⟨h.ready, fun _ _ => hr⟩⟩
  | short => exact goesOn_breakStream (.refl _) .reset

theorem request_leave (c : Call) : c.leave.request = c.request := by
  unfold leave
  dsimp only
  split <;> split <;> rfl

theorem request_hear (config : Config) (c : Call) : (c.hear config).2.request = c.request := by
  unfold hear
  split
  · split <;> rfl
  · rfl
  · split <;> rfl

/-- Whatever happens from outside, the request goes on, but for the next frame of it that the
    connection is ready to take. -/
theorem goesOn_on {e : CallEvent} (he : e ≠ .ready) : c.request.GoesOn (c.on config e).request := by
  cases e with
  | ready => exact absurd rfl he
  | leave =>
    show c.request.GoesOn c.leave.request
    rw [request_leave]
    exact .refl _
  | hear =>
    simp only [on]
    split
    · rw [request_hear]
      exact .refl _
    · exact .refl _
  | reach =>
    simp only [on]
    split
    · exact ⟨fun _ => rfl, fun h => ⟨h, rfl⟩, id, fun h => ⟨fun _ => rfl, h.ended⟩⟩
    · exact .refl _
  | failOpening s =>
    simp only [on]
    split
    · exact c.request.goesOn_cancelled
    · exact .refl _
  | send | halfClose | fail | respondNoMore =>
    simp only [on]
    split <;> exact .refl _
  | turnAway =>
    simp only [on]
    split
    · exact goesOn_turnAway config c
    · exact .refl _
  | respondHeaders =>
    simp only [on]
    split
    · exact goesOn_respondHeaders ..
    · exact .refl _
  | respond =>
    simp only [on]
    split
    · exact goesOn_respond ..
    · exact .refl _
  | respondEnd =>
    simp only [on]
    split
    · exact goesOn_respondEnd ..
    · exact .refl _
  | refuseTrailers =>
    simp only [on]
    split
    · exact c.goesOn_rejectEnd
    · exact .refl _
  | reset | refuseHeaders | breakDown =>
    simp only [on]
    split
    · exact goesOn_breakStream (.refl _) _
    · exact .refl _

/-- A request that has come to its backend has come there for good. -/
theorem reached_on (e : CallEvent) (h : c.request.reached = true) :
    (c.on config e).request.reached = true := by
  by_cases he : e = .ready
  · subst he
    simp only [on]
    split <;> exact h
  · exact (goesOn_on he).reached h

/-- What the connection is ready to take is in order whatever happens. -/
theorem ordered_on (e : CallEvent) (h : c.request.Ordered) : (c.on config e).request.Ordered := by
  by_cases he : e = .ready
  · subst he
    simp only [on]
    split
    · next hl => exact RequestLeg.ordered_takes hl
    · exact h
  · exact (goesOn_on he).ordered h

end Call

end GrpcRelay
