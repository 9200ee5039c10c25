/-
  The flow through a call — all that the caller, the backend and the
  connection do to the loops of a call happens at the ends of these: items arrive
  at a source, items are taken from a channel, a receiver leaves
  (`Call.Reaches`).  What is taken is carried on in the same order, and a source
  that has ended has lost its decoder, so nothing arrives after an end
  (`Call.Wired`).
-/
import GrpcRelay.Proofs.Call.Custody

namespace GrpcRelay

theorem outside_of_fed {α : Type} {s s' : Source} {k : Channel α} (h : s' = s ∨ s.Fed s') :
    Relation.ReflTransGen Outside (s, k) (s', k) := by
  rcases h with rfl | h
  · exact .refl
  · exact .single (.feed h)

/-- Whether the handler of a call at this stage has not taken the backend's answer yet. -/
def Stage.isUnanswered : Stage → Bool
  | opening => true
  | s => s.isUnlaunched

/-! ## What was taken -/

/-- The frame that a caller has read, if it is one. -/
def Heard.frame? : Heard → Option Frame
  | frame f => some f
  | finished _ | failed _ | pending => none

/-- The frames among what a caller has read. -/
def framesHeard (hs : List Heard) : List Frame := hs.filterMap Heard.frame?

@[simp] theorem framesHeard_append (hs hs' : List Heard) :
    framesHeard (hs ++ hs') = framesHeard hs ++ framesHeard hs' := List.filterMap_append

/-- How a status reads to the caller is no frame. -/
@[simp] theorem framesHeard_ofStatus (s : Status) : framesHeard [.ofStatus s] = [] := by
  unfold Heard.ofStatus
  split <;> rfl

/-- What the connection carries of the frames that were taken for it: all of them, unless it has
    lost the stream. -/
structure Carries (delivered seen : List Frame) (lost : Option Loss) : Prop where
  isPrefix : delivered <+: seen
  eq_seen : lost = none → delivered = seen

/-- What the caller has read of the items that it took: all frames, unless it has left. -/
structure Tells (heard : List Heard) (seen : List Item) (here : Bool) : Prop where
  isPrefix : framesHeard heard <+: framesOf seen
  eq_seen : here = true → framesHeard heard = framesOf seen

theorem Carries.lost {delivered seen : List Frame} {lost : Option Loss} {l : Loss}
    (h : Carries delivered seen lost) : Carries delivered seen (some l) := ⟨h.isPrefix, nofun⟩

theorem Tells.left {heard : List Heard} {seen : List Item} {here : Bool}
    (h : Tells heard seen here) : Tells heard seen false := ⟨h.isPrefix, nofun⟩

namespace Call

variable {config : Config} {c c' c'' : Call}

/-- How the legs of a call are joined to its loops. -/
structure Wired (c : Call) : Prop where
  inbound : c.up.source.ended = true → c.inbound = none
  decoder : c.down.source.ended = true → c.response.decoder = none
  body : c.response.result = none → c.response.decoder = none ∧ c.response.live = false
  unanswered : c.stage.isUnanswered = true → c.response.result = none →
    c.down.source.ended = false
  waiting : c.stage.isUnanswered = true → c.down.position = .idle
  carried : Carries c.request.delivered c.up.sink.seen c.request.lost
  told : Tells c.heard c.down.sink.seen c.down.sink.receiverOpen

/-- What others do to the loops of a call, which they leave joined to the legs. -/
structure Reaches (c c' : Call) : Prop where
  up : Relation.ReflTransGen Outside (c.up.source, c.up.sink) (c'.up.source, c'.up.sink)
  down : Relation.ReflTransGen Outside (c.down.source, c.down.sink) (c'.down.source, c'.down.sink)
  wired : c'.Wired

theorem Wired.refl (h : c.Wired) : Reaches c c := ⟨.refl, .refl, h⟩

theorem Reaches.trans (h : Reaches c c') (h' : Reaches c' c'') : Reaches c c'' :=
  ⟨h.up.trans h'.up, h.down.trans h'.down, h'.wired⟩

/-! ## The leg to the backend -/

theorem Wired.stopTaking (h : c.Wired) : Reaches c c.stopTaking :=
  ⟨.single .leave, .refl, h.inbound, h.decoder, h.body, h.unanswered, h.waiting, h.carried, h.told⟩

theorem Wired.failOpening (h : c.Wired) (s : Status) : Reaches c (c.failOpening s) :=
  ⟨.refl, .refl, h.inbound, fun _ => rfl, nofun, nofun, h.waiting, h.carried, h.told⟩

theorem Wired.respondFault (h : c.Wired) (s : Status) (hr : c.response.result ≠ none) :
    Reaches c (c.respondFault s) :=
  ⟨.refl, outside_of_fed (Source.fed_of_fault h.decoder), h.inbound, fun _ => rfl,
    fun hn => absurd hn hr, fun _ hn => absurd hn hr, h.waiting, h.carried, h.told⟩

/-- A stream that is lost is broken off on the other side too. -/
theorem Reaches.breakStream {l : Loss}
    (h : Reaches c { c'.stopTaking with request := { c'.request with lost := some l } }) :
    Reaches c (c'.breakStream l) := by
  unfold Call.breakStream
  dsimp only
  split
  · exact h.trans (h.wired.failOpening _)
  · next hr => exact h.trans (h.wired.respondFault _ fun hn => by rw [hr] at hn; cases hn)

theorem Wired.breakStream (h : c.Wired) (l : Loss) : Reaches c (c.breakStream l) :=
  Reaches.breakStream ⟨.single .leave, .refl, h.inbound, h.decoder, h.body, h.unanswered, h.waiting,
    h.carried.lost, h.told⟩

theorem Wired.rejectEnd (h : c.Wired) (hr : c.response.result ≠ none) : Reaches c c.rejectEnd := by
  unfold Call.rejectEnd
  split
  · exact h.respondFault _ hr
  · exact h.breakStream .reset

theorem Wired.cancelRequest (h : c.Wired) : Reaches c c.cancelRequest :=
  ⟨.single .leave, .refl, h.inbound, h.decoder, h.body, h.unanswered, h.waiting, h.carried, h.told⟩

theorem Wired.giveUpOpening (h : c.Wired) : Reaches c c.giveUpOpening := by
  unfold Call.giveUpOpening
  split
  · exact h.refl
  · exact h.cancelRequest

theorem Wired.giveUpResponse (h : c.Wired) : Reaches c c.giveUpResponse := by
  unfold Call.giveUpResponse
  split
  · exact h.stopTaking
  · exact h.refl

theorem Wired.respondHeaders (h : c.Wired) (config : Config) (http : Nat) (headers : Metadata)
    (hs : c.stage = .opening) (hr : c.response.result = none) :
    Reaches c (c.respondHeaders config http headers) := by
  have hopen : c.down.source.ended = false := h.unanswered (by rw [hs]; rfl) hr
  unfold Call.respondHeaders
  split
  · exact h.breakStream .reset
  · split
    · exact ⟨.refl, .refl, h.inbound, h.decoder, h.body, h.unanswered, h.waiting, h.carried, h.told⟩
    · split
      · exact h.failOpening _
      · exact ⟨.refl, .refl, h.inbound, fun he => absurd (hopen.symm.trans he) nofun, nofun, nofun,
          h.waiting, h.carried, h.told⟩

/-- Bytes of the body that the response loop is to read. -/
theorem Wired.feedDown {bytes : ByteArray} {remaining : Option Nat} (h : c.Wired) :
    Reaches c
      { c with
        response :=
          { c.response with
            decoder := (c.down.source.feed c.response.decoder bytes).2
            remaining }
        down := { c.down with source := (c.down.source.feed c.response.decoder bytes).1 } } := by
  obtain ⟨hfed, hdecoder⟩ := Source.fed_of_feed bytes h.decoder
  refine ⟨.refl, outside_of_fed hfed, h.inbound, hdecoder, fun hr => ⟨?_, (h.body hr).2⟩,
    fun hs hr => ?_, h.waiting, h.carried, h.told⟩
  · show (c.down.source.feed c.response.decoder bytes).2 = none
    rw [(h.body hr).1]; rfl
  · show (c.down.source.feed c.response.decoder bytes).1.ended = false
    rw [(h.body hr).1]; exact h.unanswered hs hr

theorem Wired.respond (h : c.Wired) (bytes : ByteArray) : Reaches c (c.respond bytes) := by
  unfold Call.respond
  dsimp only
  split
  · exact h.feedDown
  · split
    · exact h.feedDown
    · exact h.feedDown.trans (h.feedDown.wired.breakStream .reset)

theorem Wired.respondNoMore (h : c.Wired) : Reaches c c.respondNoMore :=
  ⟨.refl, .refl, h.inbound, h.decoder, fun hr => ⟨(h.body hr).1, rfl⟩, h.unanswered, h.waiting,
    h.carried, h.told⟩

theorem Wired.respondEnd {trailers : Option Metadata} (h : c.Wired)
    (hr : c.response.result ≠ none) : Reaches c (c.respondEnd trailers) := by
  unfold Call.respondEnd
  split
  · exact ⟨.refl, outside_of_fed (Source.fed_of_finish h.decoder), h.inbound, fun _ => rfl,
      fun hn => absurd hn hr, fun _ hn => absurd hn hr, h.waiting, h.carried, h.told⟩
  · exact h.rejectEnd hr

theorem Wired.forward (h : c.Wired) (hf : c.forward config = some c') : Reaches c c' := by
  have hseen {f : Frame} {sink : Channel Frame} (hl : c.request.isLive = true)
      (ht : c.up.sink.take? = some (f, sink)) : sink.seen = c.request.delivered ++ [f] := by
    simp only [RequestLeg.isLive, Bool.and_eq_true, Option.isNone_iff_eq_none] at hl
    rw [(Channel.takes_of_take? ht).seen, h.carried.eq_seen hl.1.2]
  cases forwards_of_forward hf with
  | delivered f sink hl hr ho ht =>
    refine ⟨.single (.take ho ht), .refl, h.inbound, h.decoder, h.body, h.unanswered,
      h.waiting, ?_, h.told⟩
    show Carries (c.request.delivered ++ [f]) sink.seen c.request.lost
    rw [hseen hl ht]; exact ⟨List.prefix_rfl, fun _ => rfl⟩
  | broken f sink hl hr ho ht =>
    refine .breakStream ⟨.tail (.single (.take ho ht)) .leave, .refl, h.inbound, h.decoder,
      h.body, h.unanswered, h.waiting, ⟨?_, (fun hlost => by cases hlost)⟩, h.told⟩
    show c.request.delivered <+: sink.seen
    rw [hseen hl ht]; exact List.prefix_append _ _

theorem Wired.finishRequest (h : c.Wired) (hf : c.finishRequest = some c') : Reaches c c' := by
  cases finishes_of_finishRequest hf with
  | ended =>
    exact ⟨.refl, .refl, h.inbound, h.decoder, h.body, h.unanswered, h.waiting, h.carried, h.told⟩
  | short => exact h.breakStream .reset

/-! ## The leg to the caller -/

theorem Wired.receive (h : c.Wired) (bytes : ByteArray) : Reaches c (c.receive bytes) := by
  obtain ⟨hfed, hinbound⟩ := Source.fed_of_feed bytes h.inbound
  exact ⟨outside_of_fed hfed, .refl, hinbound, h.decoder, h.body, h.unanswered, h.waiting,
    h.carried, h.told⟩

theorem Wired.receiveEnd (h : c.Wired) : Reaches c c.receiveEnd :=
  ⟨outside_of_fed (Source.fed_of_finish h.inbound), .refl, fun _ => rfl, h.decoder, h.body,
    h.unanswered, h.waiting, h.carried, h.told⟩

theorem Wired.receiveFault (h : c.Wired) (s : Status) : Reaches c (c.receiveFault s) :=
  ⟨outside_of_fed (Source.fed_of_fault h.inbound), .refl, fun _ => rfl, h.decoder, h.body,
    h.unanswered, h.waiting, h.carried, h.told⟩

theorem Wired.leave (h : c.Wired) : Reaches c c.leave := by
  have hend : Reaches c (if c.listensToCaller then c.receiveEnd else c) := by
    split
    · exact h.receiveEnd
    · exact h.refl
  unfold Call.leave
  dsimp only
  obtain ⟨hup, hdown, hinbound, hdecoder, hbody, hunanswered, hwaiting, hcarried, htold⟩ := hend
  split
  · exact ⟨hup, hdown, hinbound, hdecoder, hbody, hunanswered, hwaiting, hcarried, htold⟩
  · exact ⟨hup, hdown.tail .leave, hinbound, hdecoder, hbody, hunanswered, hwaiting, hcarried,
      htold.left⟩

theorem Wired.hear (h : c.Wired) (hr : c.down.sink.receiverOpen = true) :
    Reaches c (c.hear config).2 := by
  have hsame := h.told.eq_seen hr
  have hends {i : Item} {sink : Channel Item} (s : Status)
      (ht : c.down.sink.take? = some (i, sink)) :
      Reaches c (c.noteHeard (.ofStatus s) sink.closeReceiver).2 := by
    refine ⟨.refl, .tail (.single (.take hr ht)) .leave, h.inbound, h.decoder, h.body, h.unanswered,
      h.waiting, h.carried, ?_, nofun⟩
    show framesHeard (c.heard ++ [.ofStatus s]) <+: framesOf sink.seen
    rw [(Channel.takes_of_take? ht).seen, framesHeard_append, framesHeard_ofStatus, hsame,
      framesOf_append, List.append_nil]
    exact List.prefix_append _ _
  unfold Call.hear
  split
  · next f sink ht =>
    split
    · refine ⟨.refl, .single (.take hr ht), h.inbound, h.decoder, h.body, h.unanswered, h.waiting,
        h.carried, ?_⟩
      have hseen : framesHeard (c.heard ++ [.frame f]) = framesOf sink.seen := by
        rw [(Channel.takes_of_take? ht).seen, framesHeard_append, hsame, framesOf_append]; rfl
      exact ⟨hseen ▸ List.prefix_rfl, fun _ => hseen⟩
    · exact hends _ ht
  · next s sink ht => exact hends s ht
  · split
    · exact h.refl
    · refine ⟨.refl, .single .leave, h.inbound, h.decoder, h.body, h.unanswered, h.waiting,
        h.carried, ?_, nofun⟩
      have hseen (s : Status) :
          framesHeard (c.heard ++ [.ofStatus s]) = framesOf c.down.sink.seen := by
        rw [framesHeard_append, framesHeard_ofStatus, hsame, List.append_nil]
      exact hseen _ ▸ List.prefix_rfl

/-! ## Events -/

theorem opening_of_awaitsReach (h : c.awaitsReach = true) :
    c.stage = .opening ∧ c.response.result = none := by
  unfold awaitsReach at h
  split at h
  · next hs => simp_all
  · cases h

theorem opening_of_awaitsAnswer (h : c.awaitsAnswer = true) :
    c.stage = .opening ∧ c.response.result = none := by
  unfold awaitsAnswer at h
  split at h
  · next hs => simp_all
  · cases h

theorem Wired.answered (h : c.Wired) (hl : c.listensToBackend = true) :
    c.response.result ≠ none := by
  intro hr
  rw [listensToBackend, (h.body hr).2] at hl
  cases hl

/-- Whatever happens to a call from outside reaches its loops at their ends only. -/
theorem Wired.on (h : c.Wired) (e : CallEvent) : Reaches c (c.on config e) := by
  cases e with
  | leave => exact h.leave
  | send bytes =>
    simp only [Call.on]
    split
    · exact h.receive bytes
    · exact h.refl
  | halfClose =>
    simp only [Call.on]
    split
    · exact h.receiveEnd
    · exact h.refl
  | fail s =>
    simp only [Call.on]
    split
    · exact h.receiveFault s
    · exact h.refl
  | hear =>
    simp only [Call.on]
    split
    · next hr => exact h.hear hr
    · exact h.refl
  | reach | ready =>
    simp only [Call.on]
    split
    · exact ⟨.refl, .refl, h.inbound, h.decoder, h.body, h.unanswered, h.waiting, h.carried, h.told⟩
    · exact h.refl
  | failOpening s =>
    simp only [Call.on]
    split
    · exact (h.failOpening s).trans (h.failOpening s).wired.cancelRequest
    · exact h.refl
  | turnAway =>
    simp only [Call.on]
    split
    · next ha =>
      obtain ⟨hs, hr⟩ := opening_of_awaitsReach ha
      have hheaders := h.respondHeaders config 431 {} hs hr
      exact hheaders.trans (hheaders.wired.breakStream .reset)
    · exact h.refl
  | respondHeaders http headers =>
    simp only [Call.on]
    split
    · next ha =>
      obtain ⟨hs, hr⟩ := opening_of_awaitsAnswer ha
      exact h.respondHeaders config http headers hs hr
    · exact h.refl
  | respond bytes =>
    simp only [Call.on]
    split
    · exact h.respond bytes
    · exact h.refl
  | respondEnd trailers =>
    simp only [Call.on]
    split
    · next hl => exact h.respondEnd (h.answered hl)
    · exact h.refl
  | respondNoMore =>
    simp only [Call.on]
    split
    · exact h.respondNoMore
    · exact h.refl
  | refuseTrailers =>
    simp only [Call.on]
    split
    · next hl => exact h.rejectEnd (h.answered hl)
    · exact h.refl
  | reset | refuseHeaders | breakDown =>
    simp only [Call.on]
    split
    · exact h.breakStream _
    · exact h.refl

end Call

end GrpcRelay
