/-
  Renaming — a call under another identifier.

  A call knows its identifier only from its guard, which tells it to the
  registry and nobody else.  So a call that is known by another identifier does
  what it would have done (`step?_withId`, `on_withId`), and asks for the same
  under the other identifier.
-/
import GrpcRelay.Call.Event
import GrpcRelay.Call.Step
import Mathlib.Tactic.Simps.Basic

namespace GrpcRelay

/-- The same effect of a call that is known by this identifier. -/
def Effect.withId (id : CallId) : Effect → Effect
  | .consult => .consult
  | .track g => .track { g with id }
  | .report error => .report error
  | .remove _ => .remove id
  | .signal scope => .signal scope

namespace Call

/-- The same call, known by this identifier. -/
@[simps]
def withId (id : CallId) (c : Call) : Call :=
  { c with guard := c.guard.map fun g => { g with id } }

/-- What a branch comes to in a call that is known by this identifier. -/
def renamed (id : CallId) (r : Call × Option Effect) : Call × Option Effect :=
  (r.1.withId id, r.2.map (.withId id))

variable {c c' : Call} {id : CallId} {config : Config} {scope : Bool}

/-- A new name takes the place of the last one. -/
@[simp] theorem withId_withId (c : Call) (id id' : CallId) :
    (c.withId id).withId id' = c.withId id' := by
  simp [withId, Function.comp_def]

theorem scope?_withId (c : Call) (id : CallId) : (c.withId id).scope? = c.scope? := rfl

theorem ite_withId {b : Bool} {d d' : Call} (h : d = c.withId id) (h' : d' = c'.withId id) :
    (if b then d else d') = (if b then c else c').withId id := by
  rw [h, h']
  exact (apply_ite (withId id) ..).symm

/-! ## The legs -/

theorem leave_withId : (c.withId id).leave = c.leave.withId id := by
  have hlistens : (c.withId id).listensToCaller = c.listensToCaller := rfl
  unfold leave
  rw [hlistens]
  cases hl : c.listensToCaller <;> cases ha : c.answer <;> simp [receiveEnd, ha, withId]

theorem hear_withId : ((c.withId id).hear config).2 = (c.hear config).2.withId id := by
  unfold hear
  simp only [withId_down]
  split
  · split <;> rfl
  · rfl
  · split <;> rfl

theorem breakStream_withId (l : Loss) :
    (c.withId id).breakStream l = (c.breakStream l).withId id := by
  unfold breakStream
  simp only [stopTaking, withId_response]
  split <;> rfl

theorem rejectEnd_withId : (c.withId id).rejectEnd = c.rejectEnd.withId id := by
  unfold rejectEnd
  rw [breakStream_withId, withId_request]
  split <;> rfl

theorem respondHeaders_withId (http : Nat) (headers : Metadata) :
    (c.withId id).respondHeaders config http headers =
      (c.respondHeaders config http headers).withId id := by
  unfold respondHeaders
  split
  · exact breakStream_withId _
  · split
    · rfl
    · split <;> rfl

theorem respond_withId (bytes : ByteArray) :
    (c.withId id).respond bytes = (c.respond bytes).withId id := by
  unfold respond
  simp only [withId_response]
  split
  · rfl
  · split
    · rfl
    -- the call that takes the whole units is written out, so the lemma is told which one it is
    · exact breakStream_withId (c := { c with response := _, down := _ }) _

theorem respondEnd_withId (trailers : Option Metadata) :
    (c.withId id).respondEnd trailers = (c.respondEnd trailers).withId id := by
  unfold respondEnd
  rw [rejectEnd_withId, withId_response]
  split <;> rfl

theorem forward_withId : (c.withId id).forward config = (c.forward config).map (withId id) := by
  unfold forward
  simp only [withId_request, withId_up]
  split
  · rw [Option.map_map]
    refine congrArg (Option.map · _) (funext fun ⟨f, sink⟩ => ?_)
    dsimp only [Function.comp]
    split
    · exact breakStream_withId (c := { c with up := { c.up with sink } }) _
    · rfl
  · rfl

theorem finishRequest_withId : (c.withId id).finishRequest = c.finishRequest.map (withId id) := by
  unfold finishRequest
  simp only [withId_request, withId_up, breakStream_withId]
  split
  · split
    · rfl
    · split
      · split <;> rfl
      · rfl
  · rfl

/-! ## Events -/

/-- Events do not know a call by its identifier. -/
theorem on_withId (e : CallEvent) : (c.withId id).on config e = (c.on config e).withId id := by
  cases e with
  | leave => exact leave_withId
  | send | halfClose | fail | reach | ready | failOpening | respondNoMore =>
    exact ite_withId rfl rfl
  | hear => exact ite_withId hear_withId rfl
  | turnAway =>
    refine ite_withId ?_ rfl
    rw [turnAway, respondHeaders_withId, breakStream_withId, turnAway]
  | respondHeaders http headers => exact ite_withId (respondHeaders_withId http headers) rfl
  | respond bytes => exact ite_withId (respond_withId bytes) rfl
  | respondEnd trailers => exact ite_withId (respondEnd_withId trailers) rfl
  | reset | refuseHeaders | breakDown => exact ite_withId (breakStream_withId _) rfl
  | refuseTrailers => exact ite_withId rejectEnd_withId rfl

/-! ## Branches -/

theorem giveUpOpening_withId : (c.withId id).giveUpOpening = c.giveUpOpening.withId id :=
  ite_withId rfl rfl

theorem giveUpResponse_withId : (c.withId id).giveUpResponse = c.giveUpResponse.withId id :=
  ite_withId rfl rfl

theorem abandon_withId : (c.withId id).abandon = c.abandon.map (withId id) := by
  unfold abandon
  simp only [withId_left, withId_stage]
  split
  · split <;> rfl
  · rfl

theorem accept_withId : (c.withId id).accept = renamed id c.accept := by
  unfold accept
  simp only [withId_arrival]
  split
  · rfl
  · split <;> rfl

theorem launch_withId (context : CallContext) (route : Route String Unit) :
    (c.withId id).launch config context route = (c.launch config context route).withId id := by
  unfold launch
  split <;> rfl

theorem release_withId (g : Guard) (ending : Ending) (step : Release) :
    (c.withId id).release { g with id } ending step = renamed id (c.release g ending step) := by
  cases step with
  | report => cases hn : g.notifies <;> simp [release, renamed, withId, hn, Effect.withId]
  | remove => rfl
  | signal => cases ending <;> simp [release, renamed, withId, Effect.withId]

/-- Branches know a call by its identifier only where they tell it to the registry. -/
theorem step?_withId (m : CallMove) :
    (c.withId id).step? config scope m = (c.step? config scope m).map (renamed id) := by
  cases m with
  | abandon => simp only [step?, abandon_withId, Option.map_map]; rfl
  | accept =>
    simp only [step?, withId_stage, accept_withId]
    split <;> rfl
  | track =>
    simp only [step?, withId_stage, withId_guard]
    cases c.guard <;> cases c.stage <;> rfl
  | launch =>
    simp only [step?, withId_stage, withId_context, withId_route, launch_withId]
    split <;> rfl
  | quit =>
    simp only [step?, withId_stage, withId_left, withId_abort, giveUpOpening_withId]
    split
    · split <;> rfl
    · rfl
  | opened =>
    simp only [step?, withId_stage, withId_left, withId_response]
    split
    · split <;> rfl
    · split <;> rfl
    · rfl
  | record | signal | close =>
    simp only [step?, withId_stage]
    split <;> rfl
  | join =>
    simp only [step?, withId_stage, withId_left, withId_up]
    split
    · split <;> rfl
    · rfl
  | down m =>
    simp only [step?, withId_stage, withId_abort, withId_down]
    split
    · rw [Option.map_map]; rfl
    · rfl
  | settle =>
    simp only [step?, withId_stage, withId_down, giveUpResponse_withId]
    split
    · rw [Option.map_map]; rfl
    · rfl
  | await =>
    simp only [step?, withId_stage, withId_up]
    split
    · split <;> rfl
    · rfl
  | up m => simp only [step?, withId_abort, withId_up, Option.map_map]; rfl
  | forward => simp only [step?, forward_withId, Option.map_map]; rfl
  | finishRequest => simp only [step?, finishRequest_withId, Option.map_map]; rfl
  | release =>
    simp only [step?, withId_stage, withId_guard]
    cases c.guard with
    | none => cases c.stage <;> rfl
    | some g =>
      match c.stage with
      | .releasing ending step => exact congrArg some (release_withId g ending step)
      | .arriving | .resolving | .routed | .tracked | .opening | .recording _ | .signalling _
      | .joining _ | .relaying | .closing _ | .awaiting _ | .over _ => rfl

end Call

end GrpcRelay
