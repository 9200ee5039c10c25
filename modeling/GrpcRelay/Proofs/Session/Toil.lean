/-
  Toil — a number that whatever happens by itself in a session makes smaller
  (`Session.Happens.toil_lt`).

  A call and its stream count for the work of the call, for what has still to happen to
  its request, and for what the stream has still to do.  A branch of a call may leave
  something for the connection to do, but spends work, which counts more
  (`Call.Turn.ahead_le`).
-/
import GrpcRelay.Proofs.Call.Flow
import GrpcRelay.Proofs.Session

namespace GrpcRelay

theorem RequestLeg.GoesOn.toNat_le {r r' : RequestLeg} (h : r.GoesOn r') :
    (!r'.reached).toNat ≤ (!r.reached).toNat := by
  refine Bool.toNat_le_toNat (Bool.le_iff_imp.2 fun hr => ?_)
  rw [Bool.not_eq_true'] at hr ⊢
  exact eq_false_of_ne_true fun hc => Bool.false_ne_true (hr.symm.trans (h.reached hc))

theorem Outflow.Eases.toNat_le {o o' : Outflow} (h : o.Eases o') :
    (!o'.isIdle).toNat ≤ (!o.isIdle).toNat := by
  refine Bool.toNat_le_toNat (Bool.le_iff_imp.2 fun hi => ?_)
  rw [Bool.not_eq_true'] at hi ⊢
  exact eq_false_of_ne_true fun ho => Bool.false_ne_true (hi.symm.trans (h.isIdle ho))

namespace Call

variable {config : Config} {scope : Bool} {c c' : Call} {m : CallMove} {e : Option Effect}
  {o o' : Outflow}

/-! ## Toil -/

/-- Whether opening the stream has come to nothing yet. -/
def isUnanswered (c : Call) : Bool := c.stage.isUnanswered && c.response.result.isNone

/-- Whether frames were put on the connection that the stream has not been given. -/
def owes (c : Call) (o : Outflow) : Bool :=
  c.request.isIntact && decide (o.offered < c.request.bytes)

/-- What lies ahead of a call, apart from what its stream does.  Work counts most, and that there is
    no route and no answer yet counts for the work that these bring. -/
def ahead (c : Call) : Nat :=
  6 * c.work + 101 * c.route.isNone.toNat + 32 * c.isUnanswered.toNat +
    4 * (!c.request.reached).toNat + (!c.request.ready).toNat

/-- What is left to do in a call and on its stream. -/
def toil (c : Call) (o : Outflow) : Nat :=
  c.ahead + 4 * (c.owes o).toNat + 3 * (!o.isIdle).toNat

/-- Whatever a call leaves for the connection to do counts for less than five. -/
theorem toil_lt_of_ahead_le (h : c'.ahead + 5 ≤ c.ahead) (o : Outflow) : c'.toil o < c.toil o := by
  have howes := (c'.owes o).toNat_le
  unfold toil
  omega

/-! ## Branches -/

theorem result_breakStream (c : Call) (l : Loss) :
    (c.breakStream l).response.result.isNone = false := by
  unfold breakStream
  dsimp only
  split
  · rfl
  · next h => exact congrArg Option.isNone h

/-- No turn takes back what opening the stream has come to, but where the handler is past it. -/
theorem Turn.isUnanswered (h : Turn config scope c m c' e) (hu : c'.isUnanswered = true) :
    c.isUnanswered = true := by
  have hbroken {c : Call} {l : Loss} : (c.breakStream l).isUnanswered = false := by
    rw [Call.isUnanswered, result_breakStream, Bool.and_false]
  cases h with
  | forsake _ hs | rejectEncoding _ hs | rejectPath _ hs | consult _ hs | track _ hs
  | launch _ _ _ hs | report _ _ hs | remove _ _ hs | free _ _ _ hs =>
    rw [Call.isUnanswered, hs]
    exact hu
  | down | up => exact hu
  | forward _ h =>
    cases forwards_of_forward h with
    | delivered => exact hu
    | broken => rw [hbroken] at hu; cases hu
  | finishRequest _ h =>
    cases finishes_of_finishRequest h with
    | ended => exact hu
    | short => rw [hbroken] at hu; cases hu
  | abandonOpening | abandonJoining | refuse | quit | failOpening | opened | record | signal
  | join | settle | close | await => cases hu

/-- Every branch spends work. -/
theorem Turn.ahead_le (h : Turn config scope c m c' e) : c'.ahead + 5 ≤ c.ahead := by
  have hwork := h.work_lt
  have hanswer := Bool.toNat_le_toNat (Bool.le_iff_imp.2 h.isUnanswered)
  have hreached := h.goesOn.toNat_le
  have hready := (!c'.request.ready).toNat_le
  unfold ahead
  rw [h.route]
  omega

/-! ## What comes from outside -/

/-- The next frame may come. -/
theorem toil_ready_lt (hl : c.request.isLive = true) (hr : c.request.ready = false) :
    (c.on config .ready).toil o < c.toil o := by
  have hon : c.on config .ready = { c with request := { c.request with ready := true } } :=
    if_pos hl
  have hahead : (c.on config .ready).ahead + 1 = c.ahead := by
    unfold ahead
    rw [hon, hr]
    rfl
  have howes : (c.on config .ready).owes o = c.owes o := by
    rw [hon]
    rfl
  unfold toil
  rw [howes]
  omega

/-- The request comes to its backend, and its stream is opened. -/
theorem toil_reach_lt (ha : c.awaitsReach = true) (ho : o'.offered = o.offered) :
    (c.on config .reach).toil o' < c.toil o := by
  have hon : c.on config .reach = { c with request := { c.request with reached := true } } :=
    if_pos ha
  have hahead : (c.on config .reach).ahead + 4 = c.ahead := by
    rw [hon]
    show 6 * c.work + 101 * c.route.isNone.toNat + 32 * c.isUnanswered.toNat + 4 * 0 +
      (!c.request.ready).toNat + 4 = _
    rw [ahead, not_reached_of_awaitsReach ha, Bool.not_false, Bool.toNat_true]
    omega
  have howes : (c.on config .reach).owes o' = c.owes o := by
    rw [hon, owes, owes, ho]
    rfl
  have hidle := (!o'.isIdle).toNat_le
  unfold toil
  rw [howes]
  omega

/-- Opening the stream comes to something, which brings at most two failures. -/
theorem ahead_le_of_answered (hu : c.isUnanswered = true) (hu' : c'.isUnanswered = false)
    (hw : c'.work ≤ c.work + 4) (hroute : c'.route = c.route)
    (hg : c.request.GoesOn c'.request) : c'.ahead + 5 ≤ c.ahead := by
  have hreached := hg.toNat_le
  have hready := (!c'.request.ready).toNat_le
  unfold ahead
  rw [hroute, hu, hu', Bool.toNat_true, Bool.toNat_false]
  omega

theorem work_respondHeaders_le (config : Config) (http : Nat) (headers : Metadata) (c : Call) :
    (c.respondHeaders config http headers).work ≤ c.work + 2 := by
  unfold respondHeaders
  split
  · exact Nat.le_of_add_right_le (c.work_breakStream_le .reset)
  · split
    · exact Nat.le_add_right ..
    · split <;> exact Nat.le_add_right ..

theorem isUnanswered_of_opening (h : c.stage = .opening ∧ c.response.result = none) :
    c.isUnanswered = true := by
  rw [isUnanswered, h.1, h.2]
  rfl

theorem ahead_failOpening_le {s : Status} (ha : c.awaitsOpening = true) :
    (c.on config (.failOpening s)).ahead + 5 ≤ c.ahead := by
  have hopening :=
    (Bool.or_eq_true_iff.1 ha).elim opening_of_awaitsReach opening_of_awaitsAnswer
  have hon : c.on config (.failOpening s) = (c.failOpening s).cancelRequest := if_pos ha
  have hwork := (spends_cancelRequest (c.failOpening s)).work_le rfl
  rw [hon]
  exact ahead_le_of_answered (isUnanswered_of_opening hopening) (Bool.and_false _)
    (Nat.le_add_right_of_le hwork) rfl c.request.goesOn_cancelled

theorem ahead_turnAway_le (ha : c.awaitsReach = true) :
    (c.on config .turnAway).ahead + 5 ≤ c.ahead := by
  have hon : c.on config .turnAway = c.turnAway config := if_pos ha
  rw [hon]
  refine ahead_le_of_answered (isUnanswered_of_opening (opening_of_awaitsReach ha)) ?_ ?_ ?_
    (c.goesOn_turnAway config)
  · rw [isUnanswered, turnAway, result_breakStream, Bool.and_false]
  · have hbroken := work_breakStream_le (c.respondHeaders config 431 {}) .reset
    have hheaders := work_respondHeaders_le config 431 {} c
    unfold turnAway
    omega
  · exact congrArg (fun f => f.core.route) (front_turnAway config c)

/-- The director is being asked about the call, and its caller waits. -/
structure Asked (c : Call) : Prop where
  stage : c.stage = .resolving
  left : c.left = false
  context : c.context.isSome = true
  route : c.route = none

/-- The director refuses the call. -/
theorem Asked.ahead_rejected_le {s : Status} {answer : Option Answer} (h : c.Asked) :
    ({ c with stage := .over (.rejected s), answer } : Call).ahead + 5 ≤ c.ahead := by
  have hwork : c.work = ({ c with stage := .over (.rejected s), answer } : Call).work + 1 := by
    show c.stage.work + c.up.work + c.request.work + c.down.work =
      0 + c.up.work + c.request.work + c.down.work + 1
    rw [h.stage, Stage.work]
    omega
  have hanswer : c.isUnanswered =
      ({ c with stage := .over (.rejected s), answer } : Call).isUnanswered := by
    rw [isUnanswered, h.stage]
    rfl
  unfold ahead
  rw [hwork, hanswer]
  dsimp only
  omega

/-- The director routes the call, which has all of its work before it. -/
theorem Asked.ahead_routed_le {r : Route String Unit} {guard : Option Guard} (h : c.Asked) :
    ({ c with stage := .routed, route := some r, guard } : Call).ahead + 5 ≤ c.ahead := by
  have hwork : ({ c with stage := .routed, route := some r, guard } : Call).work = c.work + 16 := by
    show 17 + c.up.work + c.request.work + c.down.work =
      c.stage.work + c.up.work + c.request.work + c.down.work + 16
    rw [h.stage, Stage.work]
    omega
  have hanswer : c.isUnanswered =
      ({ c with stage := .routed, route := some r, guard } : Call).isUnanswered := by
    rw [isUnanswered, h.stage]
    rfl
  unfold ahead
  rw [hwork, hanswer, h.route]
  simp only [Option.isNone_none, Option.isNone_some, Bool.toNat_true, Bool.toNat_false]
  omega

/-! ## What the stream does -/

theorem toil_le_of_eases (h : o.Eases o') : c.toil o' ≤ c.toil o := by
  have hidle := h.toNat_le
  have howes : c.owes o' = c.owes o := by rw [owes, owes, h.offered]
  unfold toil
  rw [howes]
  omega

/-- A stream that has had something to do has no more, and is owed nothing new. -/
theorem toil_lt_of_isIdle (hi : o.isIdle = false) (hi' : o'.isIdle = true)
    (ho : c.owes o' = true → c.owes o = true) : c.toil o' < c.toil o := by
  have howes := Bool.toNat_le_toNat (Bool.le_iff_imp.2 ho)
  unfold toil
  rw [hi, hi', Bool.not_false, Bool.not_true, Bool.toNat_true, Bool.toNat_false]
  omega

/-- A stream is given the frames that it is owed. -/
theorem toil_offer_lt (hi : c.request.isIntact = true) (ho : o.offered < c.request.bytes)
    (he : (o.offer c.request.bytes).Eases o') : c.toil o' < c.toil o := by
  have hoffered : o'.offered = c.request.bytes := by
    rw [he.offered]
    unfold Outflow.offered Outflow.offer at *
    dsimp only
    omega
  have howes : c.owes o = true := by simp [owes, hi, ho]
  have howes' : c.owes o' = false := by simp [owes, hoffered]
  have hidle := (!o'.isIdle).toNat_le
  unfold toil
  rw [howes, howes', Bool.toNat_true, Bool.toNat_false]
  omega

end Call

/-- A call whose director is being asked has a context, and no route yet. -/
theorem Service.Run.asked {config : Config} {s : Service} {i : Nat} {c : Call}
    (hr : Run (.ofConfig config) s) (hc : s.calls[i]? = some c) (hs : c.stage = .resolving)
    (hl : c.left = false) : c.Asked where
  stage := hs
  left := hl
  context := (Run.poised hr hc).context (by rw [hs]; rfl)
  route := by
    have hpapers := ((Run.sound hr).calls i c hc).papers
    rw [hs] at hpapers
    cases hroute : c.route with
    | none => rfl
    | some route => rw [hroute] at hpapers; exact absurd rfl hpapers.ne_unrouted

namespace Session

variable {config : Config} {router : Router} {s s' : Session} {c c' : Call} {o : Outflow} {i : Nat}

/-! ## The toil of a session -/

/-- What is left to do in call `i` and on its stream. -/
def toilAt (s : Session) (i : Nat) : Nat :=
  match s.service.calls[i]?, s.connection.streams[i]? with
  | some c, some o => c.toil o
  | _, _ => 0

/-- What is left to do in all calls and on their streams. -/
def toil (s : Session) : Nat := ((List.range s.service.calls.length).map s.toilAt).sum

theorem toilAt_of_getElem? (hc : s.service.calls[i]? = some c)
    (ho : s.connection.streams[i]? = some o) : s.toilAt i = c.toil o := by
  rw [toilAt, hc, ho]

/-- Of all calls and streams only those of call `i` change, but that streams are served then. -/
theorem toil_lt {g : Call → Call} {f : Outflow → Outflow}
    (hcalls : s'.service.calls = s.service.calls.modify i g)
    (hlen : s'.connection.streams.length = s.connection.streams.length)
    (he : (s.connection.update i f).Eases s'.connection) (hc : s.service.calls[i]? = some c)
    (ho : s.connection.streams[i]? = some o)
    (hlt : ∀ o', (f o).Eases o' → (g c).toil o' < c.toil o) : s'.toil < s.toil := by
  have hself : s'.toilAt i < s.toilAt i := by
    have hc' : s'.service.calls[i]? = some (g c) := hcalls ▸ Service.getElem?_modify_self hc
    obtain ⟨o', ho'⟩ : ∃ o', s'.connection.streams[i]? = some o' :=
      ⟨_, List.getElem?_eq_getElem (hlen ▸ (List.getElem?_eq_some_iff.1 ho).1)⟩
    obtain ⟨o₀, ho₀, he₀⟩ := he.exists_of_update ho'
    rw [ho] at ho₀
    cases ho₀
    rw [if_pos rfl] at he₀
    rw [toilAt_of_getElem? hc ho, toilAt_of_getElem? hc' ho']
    exact hlt o' he₀
  have hle (j : Nat) : s'.toilAt j ≤ s.toilAt j := by
    by_cases hji : j = i
    · exact hji ▸ hself.le
    · have hsame : s'.service.calls[j]? = s.service.calls[j]? :=
        hcalls ▸ Service.getElem?_modify_ne (Ne.symm hji)
      unfold toilAt
      rw [hsame]
      split
      · next cj oj hcj hoj =>
        obtain ⟨o₀, ho₀, he₀⟩ := he.exists_of_update hoj
        rw [if_neg fun hij => hji hij.symm] at he₀
        rw [hcj, ho₀]
        exact Call.toil_le_of_eases he₀
      · exact Nat.zero_le _
  have hlength : s'.service.calls.length = s.service.calls.length := by
    rw [hcalls, List.length_modify]
  unfold toil
  rw [hlength]
  exact List.sum_lt_sum _ _ (fun j _ => hle j)
    ⟨i, List.mem_range.2 (List.getElem?_eq_some_iff.1 hc).1, hself⟩

/-- Something happens to call `i` alone. -/
theorem toil_lt_of_call {service : Service} {names : List (String × ScopeId)} {g : Call → Call}
    (h : s.Sound) (hcalls : service.calls = s.service.calls.modify i g)
    (hc : s.service.calls[i]? = some c) (hlt : ∀ o, (g c).toil o < c.toil o) :
    ({ s with service, names } : Session).toil < s.toil := by
  obtain ⟨o, ho⟩ := h.exists_stream hc
  have hstreams : (s.connection.update i id).Eases s.connection :=
    Connection.eases_of_eq (List.modify_id ..).symm
  exact toil_lt hcalls rfl hstreams hc ho fun _ he =>
    Nat.lt_of_le_of_lt (Call.toil_le_of_eases he) (hlt o)

/-- Something happens to stream `i`, and then streams are served. -/
theorem toil_lt_of_update {connection : Connection} {f : Outflow → Outflow}
    (hlen : connection.streams.length = s.connection.streams.length)
    (he : (s.connection.update i f).Eases connection) (hc : s.service.calls[i]? = some c)
    (ho : s.connection.streams[i]? = some o)
    (hlt : ∀ o', (f o).Eases o' → c.toil o' < c.toil o) :
    ({ s with connection } : Session).toil < s.toil :=
  toil_lt (List.modify_id ..).symm hlen he hc ho hlt

/-! ## What happens by itself -/

/-- A call takes a branch. -/
theorem toil_lt_of_works {service : Service} (h : s.Sound)
    (hs : Service.StepOf (fun _ => False) s.service service) :
    ({ s with service } : Session).toil < s.toil := by
  cases hs with
  | event _ _ he => exact he.elim
  | branch i m hb =>
    obtain ⟨c, hc, ht⟩ := Service.branch?_eq_some hb
    exact toil_lt_of_call h (Service.calls_after ..) hc (Call.toil_lt_of_ahead_le ht.ahead_le)

theorem toil_on_lt {e : CallEvent} (h : s.Sound) (hc : s.service.calls[i]? = some c)
    (hle : (c.on s.service.config e).ahead + 5 ≤ c.ahead) : (s.on (.call i e)).toil < s.toil :=
  toil_lt_of_call h (Service.calls_onCall hc) hc (Call.toil_lt_of_ahead_le hle)

/-- The director decides. -/
theorem toil_on_decide_lt (h : s.Sound) (hc : s.service.calls[i]? = some c) (ha : c.Asked)
    (d : Except Status (Route String Unit)) : (s.on (.decide i d)).toil < s.toil := by
  obtain ⟨context, hk⟩ := Option.isSome_iff_exists.1 ha.context
  cases d with
  | error e =>
    have hcalls : (s.service.decide i (.error e)).calls = s.service.calls.modify i fun c =>
        { c with stage := .over (.rejected e), answer := some (.refused e) } := by
      simp [Service.decide, hc, ha.stage, hk, ha.left, Service.update]
    exact toil_lt_of_call h hcalls hc (Call.toil_lt_of_ahead_le ha.ahead_rejected_le)
  | ok route =>
    have hcalls : (s.service.decide i (.ok route)).calls = s.service.calls.modify i fun c =>
        let scope := (route.ensureScope s.service.scopes).2
        { c with
          stage := .routed
          route := some (route.withScope scope)
          guard := some (Service.guardOf i context scope route) } := by
      simp [Service.decide, hc, ha.stage, hk, ha.left, Service.update]
    exact toil_lt_of_call h hcalls hc (Call.toil_lt_of_ahead_le ha.ahead_routed_le)

theorem toil_decide_lt (h : s.Sound) (hc : s.service.calls[i]? = some c) (ha : c.Asked)
    (d : Decision) : (s.decide i d).toil < s.toil := by
  cases d with
  | reject e => exact toil_on_decide_lt h hc ha _
  | route method metadata scope onDone backend =>
    cases scope with
    | none => exact toil_on_decide_lt h hc ha _
    | some name =>
      exact toil_on_decide_lt (s := s.withScopes (s.scopes.ensure name).1)
        (s.leads_ensure name h).sound hc ha _

/-- The request of a call comes to its backend, and its stream is opened. -/
theorem toil_reach_lt (h : s.Sound) (hc : s.service.calls[i]? = some c)
    (ha : c.awaitsReach = true) :
    ((s.on (.call i .reach)).updateConnection (·.openStream i)).toil < s.toil := by
  obtain ⟨o, ho⟩ := h.exists_stream hc
  exact toil_lt (Service.calls_onCall hc) (Connection.length_openStream ..)
    (Connection.eases_assign _ i) hc ho fun _ he => Call.toil_reach_lt ha he.offered

theorem Reacts.toil_lt (h : s.Reacts i c s') (hr : (ofRouter config router).Reaches s)
    (hc : s.service.calls[i]? = some c) : s'.toil < s.toil := by
  have hrun : Service.Run (.ofConfig config) s.service := Service.RunOf.run hr.service
  cases h with
  | decides d hs hl => exact toil_decide_lt hr.sound hc (hrun.asked hc hs hl) d
  | timesOut e hs hl => exact toil_on_decide_lt hr.sound hc (hrun.asked hc hs hl) _
  | fails e ha => exact toil_on_lt hr.sound hc (Call.ahead_failOpening_le ha)
  | turnsAway ha => exact toil_on_lt hr.sound hc (Call.ahead_turnAway_le ha)
  | reaches f ha => exact toil_reach_lt hr.sound hc ha

theorem Carries.toil_lt (h : s.Carries i c o s') (hr : (ofRouter config router).Reaches s)
    (hc : s.service.calls[i]? = some c) (ho : s.connection.streams[i]? = some o) :
    s'.toil < s.toil := by
  cases h with
  | close hb hidle =>
    refine toil_lt_of_update (Connection.length_close ..) (Connection.eases_serve _) hc ho
      fun o' he => Call.toil_lt_of_isIdle hidle (he.isIdle o.isIdle_close) ?_
    simp [Call.owes, hb]
  | offer hi hb =>
    exact toil_lt_of_update (Connection.length_offer ..) (Connection.eases_assign _ i) hc ho
      fun o' he => Call.toil_offer_lt hi hb he
  | finish hi hended hidle =>
    -- the end is taken as a frame is, once all frames have been sent
    have hordered := Service.Run.ordered (Service.RunOf.run hr.service) hc
    obtain ⟨-, hbacklog⟩ := hr.sound.carried i c o hc ho (hordered.ended hended hi) hi
    have hdone : o.finish.isIdle = true := by simp [Outflow.isIdle_iff, Outflow.finish, hbacklog]
    refine toil_lt_of_update (Connection.length_finish ..) (Connection.eases_serve _) hc ho
      fun o' he => Call.toil_lt_of_isIdle hidle (he.isIdle hdone) ?_
    rw [Call.owes, Call.owes, he.offered]
    exact id
  | ready hl hready =>
    exact toil_lt_of_call hr.sound (Service.calls_onCall hc) hc
      fun _ => Call.toil_ready_lt hl hready

/-- **Whatever happens by itself leaves less to do.** -/
theorem Happens.toil_lt (h : s.Happens s') (hr : (ofRouter config router).Reaches s) :
    s'.toil < s.toil := by
  cases h with
  | carries i c o hc ho _ _ h => exact h.toil_lt hr hc ho
  | works h => exact toil_lt_of_works hr.sound h
  | reacts i c hc h => exact h.toil_lt hr hc

end Session

end GrpcRelay
