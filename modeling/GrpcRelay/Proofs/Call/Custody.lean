/-
  Custody — who has to see to the end of a call.

  A call without a route is nobody's.  From its routing on a guard holds it,
  which puts it into the registry and is released in three steps; each turn
  leaves the custody as it is or hands it on by one (`Handover`).  Until a call is
  launched nothing of it runs and nothing goes to a backend (`Dormant`).
-/
import GrpcRelay.Proofs.Call.Legs
import GrpcRelay.Proofs.Call.Turn
import GrpcRelay.Proofs.Relay.RequestLoop

namespace GrpcRelay

/-- How far the guard of a call has come. -/
inductive Custody where
  /-- There is no route, and no guard. -/
  | unrouted
  /-- There is a guard, and the call is not in the registry yet. -/
  | routed
  /-- The call is in the registry. -/
  | tracked
  /-- The callback has run. -/
  | reported
  /-- The call has left the registry. -/
  | removed
  /-- The scope is cancelled and the guard is gone. -/
  | released
  deriving DecidableEq

namespace Custody

/-- Whether the registry contains the call. -/
def isTracked : Custody → Bool
  | tracked | reported => true
  | _ => false

/-- Whether the time of the callback is over. -/
def hasReported : Custody → Bool
  | reported | removed | released => true
  | _ => false

end Custody

/-- Whether a call with this ending had a route. -/
def Ending.isRouted : Ending → Bool
  | rejected _ | forsaken => false
  | refused _ | abandoned | relayed _ => true

namespace Stage

/-- The custody that goes with a stage. -/
def custody : Stage → Custody
  | arriving | resolving => .unrouted
  | routed => .routed
  | tracked | opening | recording _ | signalling _ | joining _ | relaying | closing _
  | awaiting _ => .tracked
  | releasing ending step =>
    if ending.isRouted then
      match step with
      | .report => .tracked
      | .remove => .reported
      | .signal => .removed
    else .unrouted
  | .over ending => if ending.isRouted then .released else .unrouted

/-- Whether a call at this stage has not been launched and will not be without a turn of its
    handler. -/
def isUnlaunched : Stage → Bool
  | arriving | resolving | routed | tracked => true
  | releasing ending _ | .over ending => !ending.isRouted
  | _ => false

theorem isUnlaunched_of_unrouted {s : Stage} (h : s.custody = .unrouted) :
    s.isUnlaunched = true := by
  match s, h with
  | arriving, _ | resolving, _ => rfl
  | releasing ending step, h =>
    simp only [custody] at h
    split at h
    · cases step <;> cases h
    · next hr => simpa [isUnlaunched] using hr
  | .over ending, h =>
    simp only [custody] at h
    split at h
    · cases h
    · next hr => simpa [isUnlaunched] using hr

theorem eq_routed {s : Stage} (h : s.custody = .routed) : s = .routed := by
  match s, h with
  | routed, _ => rfl
  | releasing ending step, h =>
    simp only [custody] at h
    split at h
    · cases step <;> cases h
    · cases h
  | .over ending, h =>
    simp only [custody] at h
    split at h <;> cases h

theorem eq_releasing_of_removed {s : Stage} (h : s.custody = .removed) :
    ∃ ending, s = .releasing ending .signal := by
  match s, h with
  | releasing ending .signal, _ => exact ⟨ending, rfl⟩
  | releasing ending .report, h | releasing ending .remove, h =>
    simp only [custody] at h
    split at h <;> cases h
  | .over ending, h =>
    simp only [custody] at h
    split at h <;> cases h

theorem eq_over_of_released {s : Stage} (h : s.custody = .released) :
    ∃ ending, s = .over ending := by
  match s, h with
  | .over ending, _ => exact ⟨ending, rfl⟩
  | releasing ending step, h =>
    simp only [custody] at h
    split at h
    · cases step <;> cases h
    · cases h

end Stage

/-- The route and the guard of call `i`, by its custody. -/
inductive Papers (i : Nat) : Custody → Option (Route String Unit) → Option Guard → Prop
  | unrouted : Papers i .unrouted none none
  | held {k : Custody} {r : Route String Unit} {g : Guard} (hk : k ≠ .unrouted)
      (hk' : k ≠ .released) (hid : g.id = ⟨i⟩) (hs : r.scope = some g.scope)
      (hn : g.notifies = r.onDone.isSome) : Papers i k (some r) (some g)
  | released {r : Route String Unit} {scope : ScopeId} (hs : r.scope = some scope) :
      Papers i .released (some r) none

section Papers

variable {i : Nat} {k : Custody} {route : Route String Unit} {r : Option (Route String Unit)}
  {g : Guard} {o : Option Guard}

theorem Papers.eq_unrouted (h : Papers i k none o) : k = .unrouted := by
  cases h; rfl

theorem Papers.ne_unrouted (h : Papers i k (some route) o) : k ≠ .unrouted := by
  cases h with
  | held hk => exact hk
  | released => nofun

theorem Papers.of_released (h : Papers i .released (some route) o) :
    ∃ scope, route.scope = some scope := by
  cases h with
  | held _ hk => exact absurd rfl hk
  | released hs => exact ⟨_, hs⟩

theorem Papers.of_guard (h : Papers i k r (some g)) :
    k ≠ .unrouted ∧ k ≠ .released ∧ ∃ route, r = some route ∧ g.id = ⟨i⟩ ∧
      route.scope = some g.scope ∧ g.notifies = route.onDone.isSome := by
  cases h with
  | held hk hk' hid hs hn => exact ⟨hk, hk', _, rfl, hid, hs, hn⟩

theorem Papers.exists_guard (h : Papers i k r o) (hk : k ≠ .unrouted) (hk' : k ≠ .released) :
    ∃ route g, r = some route ∧ o = some g := by
  cases h with
  | unrouted => exact absurd rfl hk
  | held => exact ⟨_, _, rfl, rfl⟩
  | released => exact absurd rfl hk'

end Papers

namespace Call

variable {config : Config} {scope : Bool} {c c' : Call} {m : CallMove} {e : Option Effect} {i : Nat}

/-! ## Handing over -/

/-- What a turn does to the custody of a call, with the effect that it asks for. -/
inductive Handover (c c' : Call) (e : Option Effect) : Prop
  | stays (hk : c'.stage.custody = c.stage.custody) (hg : c'.guard = c.guard) (he : e = none)
  | consults (hk : c.stage.custody = .unrouted) (hk' : c'.stage.custody = .unrouted)
      (hg : c'.guard = c.guard) (he : e = some .consult)
  | tracks (g : Guard) (hk : c.stage.custody = .routed) (hk' : c'.stage.custody = .tracked)
      (hg : c.guard = some g) (hg' : c'.guard = some g) (he : e = some (.track g))
  | reports (g : Guard) (error : Option Status) (hk : c.stage.custody = .tracked)
      (hk' : c'.stage.custody = .reported) (hg : c.guard = some g) (hg' : c'.guard = some g)
      (he : e = if g.notifies then some (.report error) else none)
  | removes (g : Guard) (hk : c.stage.custody = .reported) (hk' : c'.stage.custody = .removed)
      (hg : c.guard = some g) (hg' : c'.guard = some g) (he : e = some (.remove g.id))
  | frees (g : Guard) (hk : c.stage.custody = .removed) (hk' : c'.stage.custody = .released)
      (hg : c.guard = some g) (hg' : c'.guard = none) (he : e = some (.signal g.scope))

/-- What no turn changes of a call: the request that has arrived, the route, and whether the caller
    has left. -/
def Front.lasting (f : Front) : Arrival × Option (Route String Unit) × Bool :=
  (f.core.arrival, f.core.route, f.left)

theorem Turn.lasting (h : Turn config scope c m c' e) : c'.front.lasting = c.front.lasting := by
  cases h with
  | quit =>
    show c.giveUpOpening.front.lasting = _
    rw [front_giveUpOpening]
  | settle =>
    show c.giveUpResponse.front.lasting = _
    rw [front_giveUpResponse]
  | forward _ h => exact congrArg Front.lasting (front_forward h)
  | finishRequest _ h => exact congrArg Front.lasting (front_finishRequest h)
  | forsake | abandonOpening | abandonJoining | rejectEncoding | rejectPath | consult | track
  | refuse | launch | failOpening | opened | record | signal | join | down | close | await | up
  | report | remove | free => rfl

theorem Turn.arrival (h : Turn config scope c m c' e) : c'.arrival = c.arrival :=
  congrArg (fun l => l.1) h.lasting

/-- No turn changes the route of a call. -/
theorem Turn.route (h : Turn config scope c m c' e) : c'.route = c.route :=
  congrArg (fun l => l.2.1) h.lasting

/-- No turn makes a caller leave, or come back. -/
theorem Turn.left (h : Turn config scope c m c' e) : c'.left = c.left :=
  congrArg (fun l => l.2.2) h.lasting

/-- Whatever the tasks of a call do, its request goes on. -/
theorem Turn.goesOn (h : Turn config scope c m c' e) : c.request.GoesOn c'.request := by
  cases h with
  | forward _ hf => exact goesOn_forward hf
  | finishRequest _ hf => exact goesOn_finishRequest hf
  | quit => exact c.goesOn_giveUpOpening
  | settle => exact c.goesOn_giveUpResponse
  | abandonOpening | abandonJoining => exact c.request.goesOn_cancelled
  | launch => exact ⟨id, fun h => ⟨h, rfl⟩, id, fun h => ⟨h.ready, h.ended⟩⟩
  | forsake | rejectEncoding | rejectPath | consult | track | refuse | failOpening | opened
  | record | signal | join | down | close | await | up | report | remove | free => exact .refl _

/-- A guard that is being released is one of a call with a route. -/
theorem isRouted_of_releasing {ending : Ending} {step : Release} {g : Guard}
    (hp : Papers i c.stage.custody c.route c.guard) (hs : c.stage = .releasing ending step)
    (hg : c.guard = some g) : ending.isRouted = true := by
  rw [hs, hg] at hp
  cases hr : ending.isRouted with
  | true => rfl
  | false =>
    simp only [Stage.custody, hr] at hp
    exact absurd rfl hp.of_guard.1

theorem Turn.handover (h : Turn config scope c m c' e)
    (hp : Papers i c.stage.custody c.route c.guard) : Handover c c' e := by
  cases h with
  | forsake _ hs | abandonOpening _ hs | abandonJoining _ _ hs | rejectEncoding _ hs
  | rejectPath _ hs | refuse _ _ _ hs | launch _ _ _ hs | failOpening _ hs | opened _ hs
  | record _ hs | signal _ hs | join _ hs | close _ hs | await _ hs =>
    exact .stays (by rw [hs]; rfl) rfl rfl
  | quit hs =>
    refine .stays (by rw [hs]; rfl) ?_ rfl
    exact congrArg Core.guard (core_giveUpOpening c)
  | settle _ hs =>
    refine .stays (by rw [hs]; rfl) ?_ rfl
    exact congrArg Core.guard (core_giveUpResponse c)
  | down | up => exact .stays rfl rfl rfl
  | forward _ h =>
    have hcore := core_forward h
    exact .stays (congrArg (fun k => k.stage.custody) hcore) (congrArg Core.guard hcore) rfl
  | finishRequest _ h =>
    have hcore := core_finishRequest h
    exact .stays (congrArg (fun k => k.stage.custody) hcore) (congrArg Core.guard hcore) rfl
  | consult _ hs => exact .consults (by rw [hs]; rfl) rfl rfl rfl
  | track g hs hg => exact .tracks g (by rw [hs]; rfl) rfl hg hg rfl
  | report ending g hs hg =>
    have hr := isRouted_of_releasing hp hs hg
    exact .reports g ending.error? (by simp [hs, Stage.custody, hr])
      (by simp [Stage.custody, hr]) hg hg rfl
  | remove ending g hs hg =>
    have hr := isRouted_of_releasing hp hs hg
    exact .removes g (by simp [hs, Stage.custody, hr]) (by simp [Stage.custody, hr]) hg hg rfl
  | free ending g answer hs hg =>
    have hr := isRouted_of_releasing hp hs hg
    exact .frees g (by simp [hs, Stage.custody, hr]) (by simp [Stage.custody, hr]) hg rfl rfl

/-- The papers are in order after every turn. -/
theorem Turn.papers (h : Turn config scope c m c' e)
    (hp : Papers i c.stage.custody c.route c.guard) :
    Papers i c'.stage.custody c'.route c'.guard := by
  rw [h.route]
  cases h.handover hp with
  | stays hk hg => rw [hk, hg]; exact hp
  | consults hk hk' hg => rw [hk', hg]; rw [hk] at hp; exact hp
  | tracks g hk hk' hg hg' | reports g _ hk hk' hg hg' | removes g hk hk' hg hg' =>
    obtain ⟨-, -, r, hr, hid, hs, hn⟩ := (hg ▸ hp).of_guard
    rw [hk', hg', hr]
    exact .held nofun nofun hid hs hn
  | frees g hk hk' hg hg' =>
    obtain ⟨-, -, r, hr, -, hs, -⟩ := (hg ▸ hp).of_guard
    rw [hk', hg', hr]
    exact .released hs

/-- No turn takes a call back from its end. -/
theorem Turn.over {ending : Ending} (h : Turn config scope c m c' e)
    (hs : c.stage = .over ending) : c'.stage = .over ending := by
  cases h with
  | down | up => exact hs
  | forward _ h => exact (stage_forward h).trans hs
  | finishRequest _ h => exact (stage_finishRequest h).trans hs
  | forsake _ h | abandonOpening _ h | abandonJoining _ _ h | rejectEncoding _ h | rejectPath _ h
  | consult _ h | track _ h | refuse _ _ _ h | launch _ _ _ h | quit h | failOpening _ h
  | opened _ h | record _ h | signal _ h | join _ h | settle _ h | close _ h | await _ h
  | report _ _ h | remove _ _ h | free _ _ _ h => rw [hs] at h; cases h

/-! ## Dormant calls -/

/-- Nothing of the call runs, and nothing of it has gone to a backend. -/
structure Dormant (c : Call) : Prop where
  up : c.up.position = .idle
  request : c.request = .unsent
  response : c.response = .unanswered

theorem Dormant.not_isLive (h : c.Dormant) : c.request.isLive = false := by rw [h.request]; rfl

/-- A call that has been launched stays launched. -/
theorem Turn.unlaunched (h : Turn config scope c m c' e) (hu : c'.stage.isUnlaunched = true) :
    c.stage.isUnlaunched = true := by
  cases h with
  | forsake _ hs | rejectEncoding _ hs | rejectPath _ hs | consult _ hs | track _ hs => rw [hs]; rfl
  | report ending g hs | remove ending g hs | free ending g _ hs => rw [hs]; exact hu
  | abandonOpening | abandonJoining | refuse | launch | quit | failOpening | opened | record
  | signal | join | settle | close | await => cases hu
  | down | up => exact hu
  | forward _ h => rw [← stage_forward h]; exact hu
  | finishRequest _ h => rw [← stage_finishRequest h]; exact hu

/-- Until a call is launched it stays dormant, whatever its tasks do. -/
theorem Turn.dormant (h : Turn config scope c m c' e) (hd : c.Dormant)
    (hu : c'.stage.isUnlaunched = true) : c'.Dormant := by
  cases h with
  | forsake | rejectEncoding | rejectPath | consult | track | report | remove | free =>
    exact ⟨hd.up, hd.request, hd.response⟩
  | abandonOpening | abandonJoining | refuse | launch | quit | failOpening | opened | record
  | signal | join | settle | close | await => cases hu
  | down _ _ _ hs => rw [hs] at hu; cases hu
  | up _ _ _ hup =>
    have hidle := hd.up
    cases RequestLoop.turn_of_step? hup <;> simp_all
  | forward _ h => simp [Call.forward, hd.not_isLive] at h
  | finishRequest _ h => simp [Call.finishRequest, hd.not_isLive] at h

/-- Nor does anything from outside wake a call whose stream is not being opened. -/
theorem Dormant.on {e : CallEvent} (hd : c.Dormant) (hstage : c.stage ≠ .opening) :
    (c.on config e).Dormant := by
  have hanswer : c.awaitsAnswer = false := by
    unfold awaitsAnswer
    split
    · next h => exact absurd h hstage
    · rfl
  have hreach : c.awaitsReach = false := by
    unfold awaitsReach
    split
    · next h => exact absurd h hstage
    · rfl
  have hbackend : c.listensToBackend = false := by rw [listensToBackend, hd.response]; rfl
  have hlegs : (c.on config e).request = c.request ∧ (c.on config e).response = c.response := by
    cases e with
    | send | halfClose | fail =>
      simp only [Call.on]
      split <;> exact ⟨rfl, rfl⟩
    | leave =>
      simp only [Call.on, Call.leave]
      split <;> split <;> exact ⟨rfl, rfl⟩
    | hear =>
      simp only [Call.on]
      split
      · unfold Call.hear
        split
        · split <;> exact ⟨rfl, rfl⟩
        · exact ⟨rfl, rfl⟩
        · split <;> exact ⟨rfl, rfl⟩
      · exact ⟨rfl, rfl⟩
    | reach | ready | failOpening | turnAway | respondHeaders | respond | respondEnd
    | respondNoMore | reset | refuseHeaders | refuseTrailers | breakDown =>
      simp [Call.on, hanswer, hreach, hbackend, hd.not_isLive, awaitsOpening, isInterim, hasStream]
  refine ⟨?_, hlegs.1.trans hd.request, hlegs.2.trans hd.response⟩
  exact (congrArg Core.up (core_on config c e)).trans hd.up

end Call

end GrpcRelay
