/-
  Turns of a call — every branch that the tasks of a call can take, what it
  needs, and what it makes of the call.
-/
import GrpcRelay.Call.Step

namespace GrpcRelay

/-- What the caller has been answered at the end, given what it was answered before. -/
def Ending.answered (before : Option Answer) : Ending → Option Answer
  | refused s => some (.refused s)
  | _ => before

namespace Call

/-- What each branch needs, what it makes of the call and what it asks for. -/
inductive Turn (config : Config) (scope : Bool) (c : Call) :
    CallMove → Call → Option Effect → Prop
  | forsake (hl : c.left = true) (hs : c.stage = .resolving) :
      Turn config scope c .abandon { c with stage := .over .forsaken } none
  | abandonOpening (hl : c.left = true) (hs : c.stage = .opening) :
      Turn config scope c .abandon
        { c.cancelRequest with
          stage := .releasing .abandoned .report
          response := .unanswered } none
  | abandonJoining (s : Status) (hl : c.left = true) (hs : c.stage = .joining s) :
      Turn config scope c .abandon
        { c.cancelRequest with
          stage := .releasing .abandoned .report
          response := .unanswered } none
  | rejectEncoding (s : Status) (hs : c.stage = .arriving)
      (he : Status.encodingError? c.arrival.metadata = some s) :
      Turn config scope c .accept
        { c with stage := .over (.rejected s), answer := some (.refused s) } none
  | rejectPath (e : PathError) (hs : c.stage = .arriving)
      (he : Status.encodingError? c.arrival.metadata = none)
      (hp : MethodPath.parse c.arrival.path = .error e) :
      Turn config scope c .accept
        { c with
          stage := .over (.rejected (RouteError.ofPath e).status)
          answer := some (.refused (RouteError.ofPath e).status) } none
  | consult (method : MethodPath) (hs : c.stage = .arriving)
      (he : Status.encodingError? c.arrival.metadata = none)
      (hp : MethodPath.parse c.arrival.path = .ok method) :
      Turn config scope c .accept
        { c with stage := .resolving, context := some (contextOf c.arrival method) } (some .consult)
  | track (g : Guard) (hs : c.stage = .routed) (hg : c.guard = some g) :
      Turn config scope c .track { c with stage := .tracked } (some (.track g))
  | refuse (context : CallContext) (route : Route String Unit) (s : Status)
      (hs : c.stage = .tracked) (hc : c.context = some context) (hr : c.route = some route)
      (hp : backendPath (route.method.getD context.method.text) = .error s) :
      Turn config scope c .launch { c with stage := .releasing (.refused s) .report } none
  | launch (context : CallContext) (route : Route String Unit) (path : PathQuery)
      (hs : c.stage = .tracked) (hc : c.context = some context) (hr : c.route = some route)
      (hp : backendPath (route.method.getD context.method.text) = .ok path) :
      Turn config scope c .launch
        { c with
          stage := .opening
          up := c.up.start
          request := { c.request with
            path
            metadata := (backendMetadata config context route.metadata).sanitize.withoutConnection
            timeout := (backendMetadata config context route.metadata).sanitize.timeout? } } none
  | quit (hs : c.stage = .opening) (hl : c.left = false) (hc : c.abort.isCancelled scope = true) :
      Turn config scope c .quit
        { c.giveUpOpening with stage := .recording c.abort.reason, response := .unanswered } none
  | failOpening (s : Status) (hs : c.stage = .opening) (hr : c.response.result = some (.error s))
      (hl : c.left = false) : Turn config scope c .opened { c with stage := .recording s } none
  | opened (headers : Metadata) (hs : c.stage = .opening)
      (hr : c.response.result = some (.ok headers)) (hl : c.left = false) :
      Turn config scope c .opened
        { c with
          stage := .relaying
          down := c.down.start
          answer := some (.opened headers.strip) } none
  | record (s : Status) (hs : c.stage = .recording s) :
      Turn config scope c .record
        { c with stage := .signalling s, abort := c.abort.record s } none
  | signal (s : Status) (hs : c.stage = .signalling s) :
      Turn config scope c .signal { c with stage := .joining s, abort := c.abort.signal } none
  | join (s : Status) (hs : c.stage = .joining s) (hl : c.left = false)
      (hu : c.up.hasReturned = true) :
      Turn config scope c .join { c with stage := .releasing (.refused s) .report } none
  | down (m : ResponseLoop.Move) (d : ResponseLoop) (a : Abort) (hs : c.stage = .relaying)
      (hd : c.down.step? scope c.abort m = some (d, a)) :
      Turn config scope c (.down m) { c with down := d, abort := a } none
  | settle (o : Outcome) (hs : c.stage = .relaying) (ho : c.down.outcome? = some o) :
      Turn config scope c .settle { c.giveUpResponse with stage := .closing o } none
  | close (o : Outcome) (hs : c.stage = .closing o) :
      Turn config scope c .close { c with stage := .awaiting o, abort := c.abort.signal } none
  | await (o : Outcome) (hs : c.stage = .awaiting o) (hu : c.up.hasReturned = true) :
      Turn config scope c .await { c with stage := .releasing (.relayed o) .report } none
  | up (m : RequestLoop.Move) (u : RequestLoop) (a : Abort)
      (hu : c.up.step? scope c.abort m = some (u, a)) :
      Turn config scope c (.up m) { c with up := u, abort := a } none
  | forward (c' : Call) (h : c.forward config = some c') : Turn config scope c .forward c' none
  | finishRequest (c' : Call) (h : c.finishRequest = some c') :
      Turn config scope c .finishRequest c' none
  | report (ending : Ending) (g : Guard) (hs : c.stage = .releasing ending .report)
      (hg : c.guard = some g) :
      Turn config scope c .release { c with stage := .releasing ending .remove }
        (if g.notifies then some (.report ending.error?) else none)
  | remove (ending : Ending) (g : Guard) (hs : c.stage = .releasing ending .remove)
      (hg : c.guard = some g) :
      Turn config scope c .release { c with stage := .releasing ending .signal }
        (some (.remove g.id))
  | free (ending : Ending) (g : Guard) (answer : Option Answer)
      (hs : c.stage = .releasing ending .signal) (hg : c.guard = some g)
      (ha : answer = ending.answered c.answer) :
      Turn config scope c .release { c with stage := .over ending, guard := none, answer }
        (some (.signal g.scope))

variable {config : Config} {scope : Bool} {c c' : Call} {e : Option Effect}

theorem turn_of_abandon (h : c.abandon = some c') : Turn config scope c .abandon c' none := by
  unfold abandon at h
  split at h
  · next hl =>
    split at h
    · next hs => cases h; exact .forsake hl hs
    · next hs => cases h; exact .abandonOpening hl hs
    · next s hs => cases h; exact .abandonJoining s hl hs
    · cases h
  · cases h

theorem turn_of_accept (hs : c.stage = .arriving) (h : c.accept = (c', e)) :
    Turn config scope c .accept c' e := by
  unfold accept at h
  split at h
  · next s he => cases h; exact .rejectEncoding s hs he
  · next he =>
    split at h
    · next e hp => cases h; exact .rejectPath e hs he hp
    · next method hp => cases h; exact .consult method hs he hp

theorem turn_of_launch {context : CallContext} {route : Route String Unit}
    (hs : c.stage = .tracked) (hc : c.context = some context) (hr : c.route = some route) :
    Turn config scope c .launch (c.launch config context route) none := by
  unfold Call.launch
  split
  · next s hp => exact .refuse context route s hs hc hr hp
  · next path hp => exact .launch context route path hs hc hr hp

theorem turn_of_release {ending : Ending} {step : Release} {g : Guard}
    (hs : c.stage = .releasing ending step) (hg : c.guard = some g) :
    Turn config scope c .release (c.release g ending step).1 (c.release g ending step).2 := by
  cases step with
  | report => exact .report ending g hs hg
  | remove => exact .remove ending g hs hg
  | signal => exact .free ending g _ hs hg rfl

theorem turn_of_step? {m : CallMove} (h : c.step? config scope m = some (c', e)) :
    Turn config scope c m c' e := by
  cases m with
  | abandon =>
    obtain ⟨c₁, hc, hr⟩ := Option.map_eq_some_iff.1 h
    cases hr; exact turn_of_abandon hc
  | accept =>
    simp only [step?] at h
    split at h
    · next hs => exact turn_of_accept hs (Option.some.inj h)
    · cases h
  | track =>
    simp only [step?] at h
    split at h
    · next g hs hg => cases h; exact .track g hs hg
    · cases h
  | launch =>
    simp only [step?] at h
    split at h
    · next context route hs hc hr => cases h; exact turn_of_launch hs hc hr
    · cases h
  | quit =>
    simp only [step?] at h
    split at h
    · next hs =>
      split at h
      · next hq =>
        rw [Bool.and_eq_true, Bool.not_eq_true'] at hq
        cases h; exact .quit hs hq.1 hq.2
      · cases h
    · cases h
  | opened =>
    simp only [step?] at h
    split at h
    · next s hs hr =>
      split at h
      · cases h
      · next hl => cases h; exact .failOpening s hs hr (by simpa using hl)
    · next headers hs hr =>
      split at h
      · cases h
      · next hl => cases h; exact .opened headers hs hr (by simpa using hl)
    · cases h
  | record =>
    simp only [step?] at h
    split at h
    · next s hs => cases h; exact .record s hs
    · cases h
  | signal =>
    simp only [step?] at h
    split at h
    · next s hs => cases h; exact .signal s hs
    · cases h
  | join =>
    simp only [step?] at h
    split at h
    · next s hs =>
      split at h
      · next hj =>
        rw [Bool.and_eq_true, Bool.not_eq_true'] at hj
        cases h; exact .join s hs hj.1 hj.2
      · cases h
    · cases h
  | down m =>
    simp only [step?] at h
    split at h
    · next hs =>
      obtain ⟨⟨d, a⟩, hd, hr⟩ := Option.map_eq_some_iff.1 h
      cases hr; exact .down m d a hs hd
    · cases h
  | settle =>
    simp only [step?] at h
    split at h
    · next hs =>
      obtain ⟨o, ho, hr⟩ := Option.map_eq_some_iff.1 h
      cases hr; exact .settle o hs ho
    · cases h
  | close =>
    simp only [step?] at h
    split at h
    · next o hs => cases h; exact .close o hs
    · cases h
  | await =>
    simp only [step?] at h
    split at h
    · next o hs =>
      split at h
      · next hu => cases h; exact .await o hs hu
      · cases h
    · cases h
  | up m =>
    obtain ⟨⟨u, a⟩, hu, hr⟩ := Option.map_eq_some_iff.1 h
    cases hr; exact .up m u a hu
  | forward =>
    obtain ⟨c₁, hc, hr⟩ := Option.map_eq_some_iff.1 h
    cases hr; exact .forward _ hc
  | finishRequest =>
    obtain ⟨c₁, hc, hr⟩ := Option.map_eq_some_iff.1 h
    cases hr; exact .finishRequest _ hc
  | release =>
    simp only [step?] at h
    split at h
    · next ending step g hs hg =>
      have ht : Turn config scope c .release _ _ := turn_of_release hs hg
      rw [Option.some.inj h] at ht
      exact ht
    · cases h

end Call

end GrpcRelay
