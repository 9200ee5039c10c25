/-
  The loops of a call — whatever a call goes through, its loops and the abort
  between them go through a run of a relay (`Call.Runs`).
-/
import GrpcRelay.Proofs.Call.Flow
import GrpcRelay.Proofs.Relay.Joint

namespace GrpcRelay

theorem Stage.isUnanswered_of_unlaunched {s : Stage} (h : s.isUnlaunched = true) :
    s.isUnanswered = true := by
  cases s <;> first | exact h | rfl

namespace Call

variable {config : Config} {scope : Bool} {c c' c'' : Call} {m : CallMove} {e : Option Effect}

/-- The loops of a call with their abort. -/
def relay (c : Call) (scope : Bool) : Relay := ⟨c.up, c.down, c.abort, scope⟩

/-- The loops go on by a run of their relay and are left joined to the legs. -/
structure Runs (scope scope' : Bool) (c c' : Call) : Prop where
  relay : Relay.Run (c.relay scope) (c'.relay scope')
  wired : c'.Wired

theorem Runs.up {scope' : Bool} (h : Runs scope scope' c c') :
    RequestLoop.Run ⟨c.up, c.abort, scope⟩ ⟨c'.up, c'.abort, scope'⟩ := h.relay.upper

theorem Runs.down {scope' : Bool} (h : Runs scope scope' c c') :
    ResponseLoop.Run ⟨c.down, c.abort, scope⟩ ⟨c'.down, c'.abort, scope'⟩ := h.relay.lower

theorem Wired.runs (h : c.Wired) : Runs scope scope c c := ⟨.refl, h⟩

/-- What reaches the loops at their ends only. -/
theorem Reaches.runs (h : Reaches c c') (hcore : c'.core = c.core) : Runs scope scope c c' where
  relay := by
    have hup : c'.up.position = c.up.position := congrArg Core.up hcore
    have hdown : c'.down.position = c.down.position := congrArg Core.down hcore
    have hrelay : c'.relay scope =
        ⟨⟨c.up.position, c'.up.source, c'.up.sink⟩,
          ⟨c.down.position, c'.down.source, c'.down.sink⟩, c.abort, scope⟩ := by
      rw [← hup, ← hdown, ← show c'.abort = c.abort from congrArg Core.abort hcore]
      rfl
    rw [hrelay]
    exact (Relay.run_of_outside_up h.up).trans (Relay.run_of_outside_down h.down)
  wired := h.wired

/-- The scope may be cancelled besides. -/
theorem Runs.cancelScope {scope' : Bool} (h : Runs scope scope c c')
    (hs : scope = true → scope' = true) : Runs scope scope' c c' where
  relay := h.relay.trans (Relay.run_of_signals (signals_of_scope hs))
  wired := h.wired

/-- The handler goes on to another stage. -/
theorem Runs.stage {s : Stage} {k : Option CallContext} {g : Option Guard} {a : Option Answer}
    (h : Runs scope scope c c') (hs : s.isUnanswered = true → c'.stage.isUnanswered = true) :
    Runs scope scope c { c' with stage := s, context := k, guard := g, answer := a } := by
  obtain ⟨hrelay, hinbound, hdecoder, hbody, hunanswered, hwaiting, hcarried, htold⟩ := h
  exact ⟨hrelay, hinbound, hdecoder, hbody, fun hu => hunanswered (hs hu),
    fun hu => hwaiting (hs hu), hcarried, htold⟩

/-- The handler gives the response up. -/
theorem Runs.unanswered {s : Stage} (h : Runs scope scope c c') (hs : s.isUnanswered = false) :
    Runs scope scope c { c' with stage := s, response := .unanswered } := by
  obtain ⟨hrelay, hinbound, -, -, -, -, hcarried, htold⟩ := h
  exact ⟨hrelay, hinbound, fun _ => rfl, fun _ => ⟨rfl, rfl⟩,
    fun hu => absurd (hs.symm.trans hu) nofun, fun hu => absurd (hs.symm.trans hu) nofun,
    hcarried, htold⟩

/-- The handler records a reason or gives the signal, which both loops see. -/
theorem Runs.signals {s : Stage} {a : Abort} (h : Runs scope scope c c')
    (hs : s.isUnanswered = true → c'.stage.isUnanswered = true)
    (ha : Relation.ReflTransGen Signals (c'.abort, scope) (a, scope)) :
    Runs scope scope c { c' with stage := s, abort := a } := by
  obtain ⟨hrelay, hinbound, hdecoder, hbody, hunanswered, hwaiting, hcarried, htold⟩ := h
  exact ⟨hrelay.trans (Relay.run_of_signals ha), hinbound, hdecoder, hbody,
    fun hu => hunanswered (hs hu), fun hu => hwaiting (hs hu), hcarried, htold⟩

/-- A branch of the request loop. -/
theorem Wired.up {um : RequestLoop.Move} {u : RequestLoop} {a : Abort} (h : c.Wired)
    (hu : c.up.step? scope c.abort um = some (u, a)) :
    Runs scope scope c { c with up := u, abort := a } := by
  obtain ⟨hended, hseen⟩ := (RequestLoop.turn_of_step? hu).leaves
  refine ⟨.single (.of_up (.of_step? hu)), fun he => ?_, h.decoder, h.body, h.unanswered,
    h.waiting, ?_, h.told⟩
  · exact h.inbound (hended.symm.trans he)
  · show Carries c.request.delivered u.sink.seen c.request.lost
    rw [hseen]; exact h.carried

/-- A branch of the response loop, which only runs once the backend has answered. -/
theorem Wired.down {dm : ResponseLoop.Move} {d : ResponseLoop} {a : Abort} (h : c.Wired)
    (hs : c.stage = .relaying) (hd : c.down.step? scope c.abort dm = some (d, a)) :
    Runs scope scope c { c with down := d, abort := a } := by
  obtain ⟨hended, hseen, hopen⟩ := (ResponseLoop.turn_of_step? hd).leaves
  have hanswered : c.stage.isUnanswered = false := by rw [hs]; rfl
  refine ⟨.single (.of_down (.of_step? hd)), h.inbound, fun he => ?_, h.body,
    fun hu => absurd (hanswered.symm.trans hu) nofun,
    fun hu => absurd (hanswered.symm.trans hu) nofun, h.carried, ?_⟩
  · exact h.decoder (hended.symm.trans he)
  · show Tells c.heard d.sink.seen d.sink.receiverOpen
    rw [hseen, hopen]; exact h.told

/-- Whatever its tasks do, the loops of a call run. -/
theorem Turn.runs (h : Turn config scope c m c' e) (hw : c.Wired)
    (hd : c.stage.isUnlaunched = true → c.Dormant) : Runs scope scope c c' := by
  cases h with
  | forsake _ hs | rejectEncoding _ hs | rejectPath _ hs | consult _ hs | track _ hs =>
    exact hw.runs.stage fun _ => by rw [hs]; rfl
  | report _ _ hs | remove _ _ hs => exact hw.runs.stage fun hu => by rw [hs]; exact hu
  | free _ _ _ hs => exact hw.runs.stage fun hu => by rw [hs]; exact hu
  | refuse | failOpening | join | await => exact hw.runs.stage nofun
  | record s => exact hw.runs.signals nofun (.single (.record s))
  | signal | close => exact hw.runs.signals nofun (.single .signal)
  | abandonOpening | abandonJoining =>
    exact (hw.cancelRequest.runs (core_cancelRequest c)).unanswered rfl
  | quit => exact (hw.giveUpOpening.runs (core_giveUpOpening c)).unanswered rfl
  | settle => exact (hw.giveUpResponse.runs (core_giveUpResponse c)).stage nofun
  | launch _ _ _ hs =>
    have hu : c.stage.isUnlaunched = true := by rw [hs]; rfl
    have hidle := (hd hu).up
    have hunanswered := Stage.isUnanswered_of_unlaunched hu
    exact ⟨.single (.of_up (.start hidle)), hw.inbound, hw.decoder, hw.body,
      fun _ => hw.unanswered hunanswered, fun _ => hw.waiting hunanswered, hw.carried, hw.told⟩
  | opened _ hs =>
    have hidle := hw.waiting (by rw [hs]; rfl)
    exact ⟨.single (.of_down (.start hidle)), hw.inbound, hw.decoder, hw.body, nofun, nofun,
      hw.carried, hw.told⟩
  | down _ _ _ hs hstep => exact hw.down hs hstep
  | up _ _ _ hstep => exact hw.up hstep
  | forward _ h => exact (hw.forward h).runs (core_forward h)
  | finishRequest _ h => exact (hw.finishRequest h).runs (core_finishRequest h)

/-- So they do whatever happens to the call. -/
theorem Wired.runs_on (h : c.Wired) (e : CallEvent) : Runs scope scope c (c.on config e) :=
  (h.on e).runs (core_on config c e)

theorem wired_ofArrival (config : Config) (a : Arrival) : (ofArrival config a).Wired :=
  ⟨nofun, nofun, fun _ => ⟨rfl, rfl⟩, fun _ _ => rfl, fun _ => rfl, ⟨List.prefix_rfl, fun _ => rfl⟩,
    ⟨List.prefix_rfl, fun _ => rfl⟩⟩

end Call

end GrpcRelay
