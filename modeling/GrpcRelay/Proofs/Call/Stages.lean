/-
  Stages — what each stage of a call says of the rest of it: where the two loops
  stand, what the handler has at hand and what the caller has been answered
  (`Call.Poised`).
-/
import GrpcRelay.Proofs.Call.Custody
import GrpcRelay.Proofs.Relay.Outcome

namespace GrpcRelay

namespace Stage

/-- Whether the director is being asked or its route has not been taken yet. -/
def isPending : Stage → Bool
  | resolving | routed | tracked => true
  | _ => false

/-- Whether the handler runs beside the request loop. -/
def isLaunched : Stage → Bool
  | opening | recording _ | signalling _ | joining _ | relaying | closing _ | awaiting _ => true
  | _ => false

/-- Whether the request loop has been told to stop and is awaited. -/
def isStopping : Stage → Bool
  | joining _ | awaiting _ => true
  | _ => false

/-- Where the response loop stands. -/
def Holds (p : ResponseLoopAt) : Stage → Prop
  | relaying => p ≠ .idle
  | closing o | awaiting o | releasing (.relayed o) _ | .over (.relayed o) => p = .returned o
  | _ => p = .idle

/-- What the caller has been answered. -/
def Answers (a : Option Answer) : Stage → Prop
  | relaying | closing _ | awaiting _ | releasing (.relayed _) _ | .over (.relayed _) =>
    ∃ headers, a = some (.opened headers)
  | .over (.rejected s) | .over (.refused s) => a = some (.refused s)
  | _ => a = none

end Stage

namespace Call

variable {config : Config} {scope : Bool} {c c' : Call} {m : CallMove} {e : Option Effect}

/-- The rest of a call is as its stage says. -/
structure Poised (c : Call) : Prop where
  context : c.stage.isPending = true → c.context.isSome = true
  up : c.stage.isLaunched = true → c.up.position ≠ .idle
  abort : c.stage.isStopping = true → c.abort.signalled = true
  down : c.stage.Holds c.down.position
  answer : c.stage.Answers c.answer
  ending : ∀ ending step, c.stage = .releasing ending step → ending.isRouted = true

theorem poised_ofArrival (config : Config) (a : Arrival) : (ofArrival config a).Poised :=
  ⟨nofun, nofun, nofun, rfl, rfl, fun _ _ => nofun⟩

/-- Only what the stage speaks of has to stay with it. -/
theorem Poised.of_core (h : c.Poised) (hcore : c'.core = c.core) : c'.Poised := by
  obtain ⟨hcontext, hup, habort, hdown, hanswer, hending⟩ := h
  obtain ⟨-, hs, hk, -, -, ha, hans, hu, hd, -⟩ := Core.mk.inj hcore
  refine ⟨?_, ?_, ?_, ?_, ?_, ?_⟩ <;> rw [hs]
  · rw [hk]; exact hcontext
  · rw [hu]; exact hup
  · rw [ha]; exact habort
  · rw [hd]; exact hdown
  · rw [hans]; exact hanswer
  · exact hending

theorem Turn.poised (h : Turn config scope c m c' e) (hp : c.Poised) : c'.Poised := by
  have hp' := hp
  obtain ⟨hcontext, hup, habort, hdown, hanswer, hending⟩ := hp
  cases h with
  | forsake _ hs =>
    rw [hs] at hdown hanswer
    exact ⟨nofun, nofun, nofun, hdown, hanswer, fun _ _ => nofun⟩
  | rejectEncoding _ hs | rejectPath _ hs =>
    rw [hs] at hdown
    exact ⟨nofun, nofun, nofun, hdown, rfl, fun _ _ => nofun⟩
  | abandonOpening _ hs | abandonJoining _ _ hs =>
    rw [hs] at hdown hanswer
    exact ⟨nofun, nofun, nofun, hdown, hanswer, fun _ _ h => by cases h; rfl⟩
  | consult _ hs =>
    rw [hs] at hdown hanswer
    exact ⟨fun _ => rfl, nofun, nofun, hdown, hanswer, fun _ _ => nofun⟩
  | track g hs =>
    rw [hs] at hcontext hdown hanswer
    exact ⟨hcontext, nofun, nofun, hdown, hanswer, fun _ _ => nofun⟩
  | refuse _ _ _ hs =>
    rw [hs] at hdown hanswer
    exact ⟨nofun, nofun, nofun, hdown, hanswer, fun _ _ h => by cases h; rfl⟩
  | launch _ _ _ hs =>
    rw [hs] at hdown hanswer
    exact ⟨nofun, fun _ => nofun, nofun, hdown, hanswer, fun _ _ => nofun⟩
  | quit hs =>
    obtain ⟨-, -, -, -, -, -, hans, hu, hd, -⟩ := Core.mk.inj (core_giveUpOpening c)
    rw [hs] at hup hdown hanswer
    refine ⟨nofun, fun _ => ?_, nofun, ?_, ?_, fun _ _ => nofun⟩
    · exact hu ▸ hup rfl
    · exact hd ▸ hdown
    · exact hans ▸ hanswer
  | failOpening _ hs | record _ hs =>
    rw [hs] at hup hdown hanswer
    exact ⟨nofun, hup, nofun, hdown, hanswer, fun _ _ => nofun⟩
  | opened headers hs =>
    rw [hs] at hup
    exact ⟨nofun, hup, nofun, nofun, ⟨_, rfl⟩, fun _ _ => nofun⟩
  | signal s hs | close s hs =>
    rw [hs] at hup hdown hanswer
    exact ⟨nofun, hup, fun _ => rfl, hdown, hanswer, fun _ _ => nofun⟩
  | join s hs | await s hs =>
    rw [hs] at hdown hanswer
    exact ⟨nofun, nofun, nofun, hdown, hanswer, fun _ _ h => by cases h; rfl⟩
  | down m d a hs hd =>
    refine ⟨hcontext, hup, ?_, ?_, hanswer, hending⟩
    · rw [hs]; nofun
    · rw [hs]; exact (ResponseLoop.turn_of_step? hd).started
  | settle o hs ho =>
    obtain ⟨-, -, -, -, -, -, hans, hu, hd, -⟩ := Core.mk.inj (core_giveUpResponse c)
    rw [hs] at hup hanswer
    refine ⟨nofun, fun _ => ?_, nofun, ?_, ?_, fun _ _ => nofun⟩
    · exact hu ▸ hup rfl
    · exact hd.trans (ResponseLoop.outcome?_eq_some ho)
    · exact hans ▸ hanswer
  | up m u a hu =>
    have ht := RequestLoop.turn_of_step? hu
    exact ⟨hcontext, fun _ => ht.started, fun hs => ht.signalled (habort hs), hdown, hanswer,
      hending⟩
  | forward c' h => exact hp'.of_core (core_forward h)
  | finishRequest c' h => exact hp'.of_core (core_finishRequest h)
  | report ending g hs | remove ending g hs =>
    have hr := hending _ _ hs
    rw [hs] at hdown hanswer
    refine ⟨nofun, nofun, nofun, ?_, ?_, fun _ _ h => by cases h; exact hr⟩
    · cases ending <;> exact hdown
    · cases ending <;> exact hanswer
  | free ending g answer hs hg ha =>
    have hr := hending _ _ hs
    rw [hs] at hdown hanswer
    subst ha
    refine ⟨nofun, nofun, nofun, ?_, ?_, fun _ _ => nofun⟩
    · cases ending <;> exact hdown
    · cases ending with
      | refused s => rfl
      | abandoned | relayed => exact hanswer
      | rejected | forsaken => cases hr

end Call

end GrpcRelay
