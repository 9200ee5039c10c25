/-
  The work left in a call — a number that every branch makes smaller
  (`Call.Turn.work_lt`), so the tasks of a call come to rest unless something
  happens to it.

  An item weighs more before a loop has read it than afterwards.  A stream that
  can still be lost weighs as much as the failure that its loss would bring.
-/
import GrpcRelay.Proofs.Call.Legs
import GrpcRelay.Proofs.Call.Turn
import GrpcRelay.Proofs.Relay.Outcome
import GrpcRelay.Proofs.Relay.RequestLoop

namespace GrpcRelay

namespace Source

variable {s s' : Source} {i : Item}

theorem length_queue_of_next? (h : s.next? = some (.item i, s')) :
    s.queue.length = s'.queue.length + 1 := by
  have hy := yields_of_next? h
  have hs := congrArg List.length s.seen_append_queue
  have hs' := congrArg List.length s'.seen_append_queue
  rw [hy.arrived, hy.seen] at hs'
  simp only [List.length_append, List.length_singleton] at hs hs'
  omega

theorem length_queue_fault_le (s : Source) (d : Option Decoder) (e : Status) :
    (s.fault d e).queue.length ≤ s.queue.length + 1 := by
  have hpush : (s.push (.failure e)).queue.length = s.queue.length + 1 := by
    have hle := s.read_le
    simp only [queue, push, pushAll, List.length_drop, List.length_append, List.length_singleton]
    omega
  cases d with
  | none => exact Nat.le_succ _
  | some d =>
    simp only [fault]
    split
    · exact Nat.le_succ _
    · exact Nat.le_of_eq hpush

end Source

/-! ## The loops -/

/-- The work of a request loop at a position. -/
def RequestLoopAt.work : RequestLoopAt → Nat
  | holding _ => 4
  | reading | recording _ => 2
  | signalling => 1
  | idle | returned _ => 0

/-- The work of a response loop at a position. -/
def ResponseLoopAt.work : ResponseLoopAt → Nat
  | holding _ => 7
  | reading => 6
  | fetching => 5
  | recording _ _ => 4
  | signalling _ _ => 3
  | delivering _ _ => 2
  | idle | returned _ => 0

/-- The work that is left in a request loop and in its channel. -/
def RequestLoop.work (u : RequestLoop) : Nat :=
  u.position.work + 3 * u.source.queue.length + u.sink.queue.length

/-- The work that is left in a response loop; what is in its channel is the caller's to take. -/
def ResponseLoop.work (d : ResponseLoop) : Nat := d.position.work + 2 * d.source.queue.length

theorem RequestLoop.Turn.work_lt {scope : Bool} {u u' : RequestLoop} {a a' : Abort}
    {m : RequestLoop.Move} (h : Turn scope u a m u' a') : u'.work < u.work := by
  unfold work
  cases h with
  | quitReading hp | quitHolding _ hp | refuse _ hp | record _ hp | signal hp =>
    simp only [hp, leave, RequestLoopAt.work, Channel.closeSender]
    show _ + _ + u.sink.queue.length < _
    omega
  | readFrame f s hp hn | readFailure e s hp hn =>
    have hlen := Source.length_queue_of_next? hn
    simp only [hp, RequestLoopAt.work]
    omega
  | readEnd s hp hn =>
    obtain ⟨rfl, -⟩ := Source.next?_eq_ended hn
    simp only [hp, leave, RequestLoopAt.work]
    show _ + _ + u.sink.queue.length < _
    omega
  | send f hp =>
    simp only [hp, RequestLoopAt.work, Channel.length_queue_put]
    omega

theorem ResponseLoop.Turn.work_lt {scope : Bool} {d d' : ResponseLoop} {a a' : Abort}
    {m : ResponseLoop.Move} (h : Turn scope d a m d' a') : d'.work < d.work := by
  unfold work
  cases h with
  | readFrame f s hp hn | readFailure e s hp hn =>
    have hlen := Source.length_queue_of_next? hn
    simp only [hp, ResponseLoopAt.work]
    omega
  | readEnd s hp hn =>
    obtain ⟨rfl, -⟩ := Source.next?_eq_ended hn
    simp only [hp, ResponseLoopAt.work]
    omega
  | quitReading hp | quitHolding _ hp | desertReading hp | desertHolding _ hp | send _ hp
  | fetchFailure _ hp | fetchNothing _ hp | fetchSome _ hp | record _ _ hp | signalLoud _ hp
  | signalQuiet _ hp | deliver _ _ hp | drop _ _ hp =>
    simp only [hp, leave, ResponseLoopAt.work]
    omega

/-! ## The call -/

/-- The work of the handler at a stage. -/
def Stage.work : Stage → Nat
  | arriving => 2
  | resolving => 1
  | routed => 17
  | tracked => 16
  | opening => 13
  | recording _ | relaying => 6
  | signalling _ | closing _ => 5
  | joining _ | awaiting _ => 4
  | releasing _ .report => 3
  | releasing _ .remove => 2
  | releasing _ .signal => 1
  | .over _ => 0

/-- The work of a request that is still on its way, and may yet be lost. -/
def RequestLeg.work (r : RequestLeg) : Nat := if r.lost.isNone && !r.ended then 4 else 0

namespace Call

variable {config : Config} {scope : Bool} {c c' : Call} {m : CallMove} {e : Option Effect}

/-- The work that is left in a call. -/
def work (c : Call) : Nat := c.stage.work + c.up.work + c.request.work + c.down.work

/-- The legs and the loops have no more work than before. -/
structure Spends (c c' : Call) : Prop where
  up : c'.up.work ≤ c.up.work
  legs : c'.request.work + c'.down.work ≤ c.request.work + c.down.work

theorem Spends.refl (c : Call) : Spends c c := ⟨Nat.le_refl _, Nat.le_refl _⟩

theorem Spends.work_le (h : Spends c c') (hs : c'.stage = c.stage) : c'.work ≤ c.work := by
  obtain ⟨hup, hlegs⟩ := h
  unfold work
  rw [hs]
  omega

theorem spends_stopTaking (c : Call) : Spends c c.stopTaking :=
  ⟨Nat.le_refl _, Nat.le_refl _⟩

theorem spends_cancelRequest (c : Call) : Spends c c.cancelRequest := by
  refine ⟨Nat.le_refl _, Nat.add_le_add_right ?_ _⟩
  simp [RequestLeg.work, cancelRequest]

theorem spends_giveUpOpening (c : Call) : Spends c c.giveUpOpening := by
  unfold giveUpOpening
  split
  · exact .refl c
  · exact spends_cancelRequest c

theorem spends_giveUpResponse (c : Call) : Spends c c.giveUpResponse := by
  unfold giveUpResponse
  split
  · exact spends_stopTaking c
  · exact .refl c

theorem work_of_isLive {r : RequestLeg} (h : r.isLive = true) : r.work = 4 := by
  simp only [RequestLeg.isLive, Bool.and_eq_true] at h
  simp [RequestLeg.work, h]

/-- A stream that is lost brings at most one failure. -/
theorem work_breakStream_le (c : Call) (l : Loss) :
    (c.breakStream l).work + c.request.work ≤ c.work + 2 := by
  have hfault := c.down.source.length_queue_fault_le c.response.decoder Loss.onResponse
  unfold breakStream
  dsimp only
  split
  · show c.stage.work + c.up.work + 0 + c.down.work + _ ≤ _
    unfold work
    omega
  · show c.stage.work + c.up.work + 0 + (c.down.position.work +
      2 * (c.down.source.fault c.response.decoder Loss.onResponse).queue.length) + _ ≤ _
    unfold work ResponseLoop.work
    omega

theorem work_breakStream_lt {l : Loss} (h : c.request.isLive = true) :
    (c.breakStream l).work < c.work := by
  have hle := c.work_breakStream_le l
  rw [work_of_isLive h] at hle
  omega

theorem work_forward_lt (h : c.forward config = some c') : c'.work < c.work := by
  have htaken {f : Frame} {sink : Channel Frame} (ht : c.up.sink.take? = some (f, sink)) :
      ({ c with up := { c.up with sink } } : Call).work < c.work := by
    have hqueue := congrArg List.length (Channel.takes_of_take? ht).queue
    simp only [work, RequestLoop.work, hqueue, List.length_cons]
    omega
  cases forwards_of_forward h with
  | delivered f sink hl hr ho ht => exact htaken ht
  | broken f sink hl hr ho ht => exact Nat.lt_trans (work_breakStream_lt hl) (htaken ht)

theorem work_finishRequest_lt (h : c.finishRequest = some c') : c'.work < c.work := by
  cases finishes_of_finishRequest h with
  | short hl => exact work_breakStream_lt hl
  | ended hl =>
    have hlive := work_of_isLive hl
    have hzero : ({ c.request with ended := true } : RequestLeg).work = 0 := by
      simp [RequestLeg.work]
    simp only [work, hzero]
    omega

/-- Every branch spends work. -/
theorem Turn.work_lt (h : Turn config scope c m c' e) : c'.work < c.work := by
  -- a stage that starts a loop has the work of that loop in its own
  cases h with
  | forsake _ hs | rejectEncoding _ hs | rejectPath _ hs | consult _ hs | track _ hs
  | refuse _ _ _ hs | failOpening _ hs | record _ hs | signal _ hs | join _ hs | close _ hs
  | await _ hs | report _ _ hs | remove _ _ hs | free _ _ _ hs =>
    simp only [work, hs, Stage.work]
    omega
  | abandonOpening _ hs | abandonJoining _ _ hs =>
    obtain ⟨hup, hlegs⟩ := spends_cancelRequest c
    show (Stage.releasing .abandoned .report).work + c.cancelRequest.up.work +
      c.cancelRequest.request.work + c.cancelRequest.down.work < _
    simp only [work, hs, Stage.work]
    omega
  | launch _ _ _ hs =>
    show Stage.opening.work + c.up.start.work + c.request.work + c.down.work < _
    have hstart : c.up.start.work ≤ c.up.work + 2 := by
      simp only [RequestLoop.work, RequestLoop.start, RequestLoopAt.work]
      omega
    simp only [work, hs, Stage.work]
    omega
  | quit hs =>
    obtain ⟨hup, hlegs⟩ := spends_giveUpOpening c
    show (Stage.recording _).work + c.giveUpOpening.up.work + c.giveUpOpening.request.work +
      c.giveUpOpening.down.work < _
    simp only [work, hs, Stage.work]
    omega
  | opened headers hs =>
    show Stage.relaying.work + c.up.work + c.request.work + c.down.start.work < _
    have hstart : c.down.start.work ≤ c.down.work + 6 := by
      simp only [ResponseLoop.work, ResponseLoop.start, ResponseLoopAt.work]
      omega
    simp only [work, hs, Stage.work]
    omega
  | settle o hs =>
    obtain ⟨hup, hlegs⟩ := spends_giveUpResponse c
    show (Stage.closing o).work + c.giveUpResponse.up.work + c.giveUpResponse.request.work +
      c.giveUpResponse.down.work < _
    simp only [work, hs, Stage.work]
    omega
  | down m d a hs hd =>
    have hlt := (ResponseLoop.turn_of_step? hd).work_lt
    simp only [work]
    omega
  | up m u a hu =>
    have hlt := (RequestLoop.turn_of_step? hu).work_lt
    simp only [work]
    omega
  | forward _ h => exact work_forward_lt h
  | finishRequest _ h => exact work_finishRequest_lt h

end Call

end GrpcRelay
