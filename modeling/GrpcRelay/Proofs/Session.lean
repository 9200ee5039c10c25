/-
  Sessions — whatever a session does, its service and its connection run.

  A session lets callers, a director and backends loose on a service, lets things
  happen one after another and lets time pass.  All that the service gets of this is
  events and branches, each in its turn, and all that the connection gets is what can
  happen to a connection (`Session.Run.reaches`).  So what holds of all runs of a
  service or of a connection holds in every session.
-/
import GrpcRelay.Proofs.CallBook
import GrpcRelay.Proofs.Connection
import GrpcRelay.Proofs.Session.Happening
import GrpcRelay.Session.Backend
import GrpcRelay.Session.Caller

namespace GrpcRelay

/-- Whether an event is the arrival of a request. -/
def ServiceEvent.isArrival : ServiceEvent → Bool
  | arrive _ => true
  | _ => false

/-- Whether an event neither is the arrival of a request nor lets the next frame of one come. -/
def ServiceEvent.isPlain : ServiceEvent → Bool
  | arrive _ | call _ .ready => false
  | _ => true

theorem ServiceEvent.not_isArrival_of_isPlain {e : ServiceEvent} (h : e.isPlain = true) :
    e.isArrival = false := by
  cases e with
  | arrive => cases h
  | decide | call | createScope | cancelScope | shutdown => rfl

/-- Of all requests, only those arrive at the proxy that the router gives to it. -/
def Router.Passes (r : Router) : ServiceEvent → Prop
  | .arrive a => r.dispatch a.path = .proxy
  | _ => True

theorem Router.passes_of_isArrival {r : Router} {e : ServiceEvent} (h : e.isArrival = false) :
    r.Passes e := by
  cases e with
  | arrive => cases h
  | decide | call | createScope | cancelScope | shutdown => trivial

/-! ## Requests and streams -/

/-- Where a request is ready for its next frame, its stream has been given all frames before, and
    has sent them. -/
def RequestLeg.CarriedBy (r : RequestLeg) (o : Outflow) : Prop :=
  r.ready = true → r.isIntact = true → r.bytes ≤ o.offered ∧ o.backlog = 0

section CarriedBy

variable {r r' : RequestLeg} {o o' : Outflow}

theorem RequestLeg.CarriedBy.goesOn (h : r.CarriedBy o) (hg : r.GoesOn r') : r'.CarriedBy o := by
  intro hready hintact
  obtain ⟨hr, hd⟩ := hg.ready hready
  rw [bytes, hd]
  exact h hr (hg.intact hintact)

theorem RequestLeg.CarriedBy.eases (h : r.CarriedBy o) (ho : o'.offered = o.offered)
    (hb : o'.backlog ≤ o.backlog) : r.CarriedBy o' := by
  intro hready hintact
  obtain ⟨hbytes, hbacklog⟩ := h hready hintact
  exact ⟨ho ▸ hbytes, Nat.le_zero.1 (hbacklog ▸ hb)⟩

end CarriedBy

namespace Session

variable {config : Config} {router : Router} {s s' s'' : Session} {c c' : Call} {i j : Nat}

/-! ## Good order -/

/-- The director knows scopes that there are, every call has a plan and a stream, the stream of a
    call has not been opened before its request comes to the backend, and what the request is
    ready for is in step with what the stream has sent. -/
structure Sound (s : Session) : Prop where
  named : ∀ p ∈ s.names, p.2 < s.service.scopes.nodes.length
  plans : s.plans.length = s.service.calls.length
  streams : s.connection.streams.length = s.service.calls.length
  unreached : ∀ i (c : Call), s.service.calls[i]? = some c → c.request.reached = false →
    s.connection.NewAt i
  carried : ∀ (i : Nat) (c : Call) (o : Outflow), s.service.calls[i]? = some c →
    s.connection.streams[i]? = some o → c.request.CarriedBy o

theorem sound_ofRouter (config : Config) (router : Router) : (ofRouter config router).Sound :=
  ⟨fun _ h => absurd h List.not_mem_nil, rfl, rfl, (fun _ _ h => by cases h),
    (fun _ _ _ h => by cases h)⟩

theorem Sound.exists_stream (h : s.Sound) (hc : s.service.calls[i]? = some c) :
    ∃ o, s.connection.streams[i]? = some o :=
  ⟨_, List.getElem?_eq_getElem (h.streams ▸ (List.getElem?_eq_some_iff.1 hc).1)⟩

/-- The service and the connection of a session run on to those of another, which is in good
    order. -/
structure Reaches (s s' : Session) : Prop where
  router : s'.router = s.router
  service : Service.RunOf s.router.Passes s.service s'.service
  connection : Connection.Run s.connection s'.connection
  sound : s'.Sound

theorem Reaches.trans (h : s.Reaches s') (h' : s'.Reaches s'') : s.Reaches s'' where
  router := h'.router.trans h.router
  service := h.service.trans (h.router ▸ h'.service)
  connection := h.connection.trans h'.connection
  sound := h'.sound

/-- A session in good order goes on to another. -/
def Leads (s s' : Session) : Prop := s.Sound → s.Reaches s'

theorem leads_refl (s : Session) : s.Leads s := fun h => ⟨rfl, .refl, .refl, h⟩

theorem Leads.trans (h : s.Leads s') (h' : s'.Leads s'') : s.Leads s'' := fun hs =>
  (h hs).trans (h' (h hs).sound)

/-! ## One thing at a time -/

/-- Callers go on, plans change and time passes. -/
theorem leads_of_eq (hr : s'.router = s.router) (hs : s'.service = s.service)
    (hn : s'.names = s.names) (hp : s'.plans.length = s.plans.length)
    (hc : s'.connection = s.connection) : s.Leads s' := by
  intro h
  refine ⟨hr, hs ▸ .refl, hc ▸ .refl, ?_⟩
  refine ⟨?_, ?_, ?_, ?_, ?_⟩
  · rw [hn, hs]; exact h.named
  · rw [hp, hs]; exact h.plans
  · rw [hc, hs]; exact h.streams
  · rw [hc, hs]; exact h.unreached
  · rw [hc, hs]; exact h.carried

/-- The service takes a step by which no request arrives, and no request gets out of step with its
    stream. -/
theorem Sound.serve {service : Service} {names : List (String × ScopeId)} (h : s.Sound)
    (hs : Service.StepOf (fun e => e.isArrival = false) s.service service)
    (hn : ∀ p ∈ names, p ∈ s.names ∨ p.2 < service.scopes.nodes.length)
    (hc : ∀ (i : Nat) (c : Call) (o : Outflow), service.calls[i]? = some c →
      s.connection.streams[i]? = some o → c.request.CarriedBy o) :
    s.Reaches { s with service, names } := by
  have hE (a : Arrival) : ¬ (ServiceEvent.arrive a).isArrival = false := fun ha => by cases ha
  have hlen := hs.length_calls hE
  refine ⟨rfl, Service.RunOf.mono (fun _ => Router.passes_of_isArrival) (.single hs), .refl, ?_⟩
  refine ⟨fun p hp => ?_, h.plans.trans hlen.symm, h.streams.trans hlen.symm, fun i c hc hr => ?_,
    hc⟩
  · rcases hn p hp with hp | hlt
    · exact Nat.lt_of_lt_of_le (h.named p hp) hs.step.grows.length_le
    · exact hlt
  · obtain ⟨c₀, hc₀, hm⟩ := hs.moves_back hE hc
    exact h.unreached i c₀ hc₀ (eq_false_of_ne_true fun hr₀ => by simp [hm.reached hr₀] at hr)

theorem leads_serve {service : Service} {names : List (String × ScopeId)}
    (hs : Service.StepOf (fun e => e.isPlain = true) s.service service)
    (hn : ∀ p ∈ names, p ∈ s.names ∨ p.2 < service.scopes.nodes.length) :
    s.Leads { s with service, names } := by
  intro h
  have hE (a : Arrival) : ¬ (ServiceEvent.arrive a).isPlain = true := fun ha => by cases ha
  refine h.serve (hs.mono fun _ => ServiceEvent.not_isArrival_of_isPlain) hn fun i c o hc ho => ?_
  obtain ⟨c₀, hc₀, hm⟩ := hs.moves_back hE hc
  exact (h.carried i c₀ o hc₀ ho).goesOn (hm.goesOn fun he => by cases he)

theorem leads_on {e : ServiceEvent} (he : e.isPlain = true) (ha : s.service.Admits e) :
    s.Leads (s.on e) :=
  leads_serve (.event e ha he) fun _ hp => .inl hp

theorem leads_call (s : Session) {e : CallEvent} (he : (ServiceEvent.call i e).isPlain = true) :
    s.Leads (s.on (.call i e)) :=
  leads_on he trivial

theorem leads_onCall (s : Session) (can : Call → Bool) {e : CallEvent}
    (he : (ServiceEvent.call i e).isPlain = true) : s.Leads (s.onCall i can e).2 := by
  unfold onCall
  split
  · exact s.leads_call he
  · exact s.leads_refl

/-- The next frame of a request may come once all before has been sent. -/
theorem leads_ready {o : Outflow} (hc : s.service.calls[i]? = some c)
    (ho : s.connection.streams[i]? = some o) (hb : c.request.bytes ≤ o.offered)
    (hr : o.isReady = true) : s.Leads (s.on (.call i .ready)) := by
  intro h
  refine h.serve (.event (.call i .ready) trivial rfl) (fun _ hp => .inl hp)
    fun j cj oj hcj hoj => ?_
  replace hcj : (s.service.onCall i .ready).calls[j]? = some cj := hcj
  by_cases hij : i = j
  · subst hij
    rw [ho] at hoj
    cases hoj
    rw [Service.getElem?_onCall_self hc] at hcj
    cases hcj
    intro _ _
    simp only [Outflow.isReady, Bool.and_eq_true, beq_iff_eq] at hr
    have hsame : (c.on s.service.config .ready).request.bytes = c.request.bytes := by
      simp only [Call.on]
      split <;> rfl
    exact ⟨hsame ▸ hb, hr.1.2⟩
  · rw [Service.getElem?_onCall_ne hij] at hcj
    exact h.carried j cj oj hcj hoj

/-- Something happens to the connection that leaves the streams unopened whose requests have not
    come to their backend, and by which no stream gets out of step with its request. -/
theorem leads_connect {connection : Connection} (hs : s.connection.Step connection)
    (hlen : connection.streams.length = s.connection.streams.length)
    (hnew : ∀ j (c : Call), s.service.calls[j]? = some c → c.request.reached = false →
      s.connection.NewAt j → connection.NewAt j)
    (hcarried : ∀ (j : Nat) (c : Call) (o' : Outflow), s.service.calls[j]? = some c →
      connection.streams[j]? = some o' →
      (∀ o, s.connection.streams[j]? = some o → c.request.CarriedBy o) → c.request.CarriedBy o') :
    s.Leads { s with connection } := fun h =>
  ⟨rfl, .refl, .single hs, h.named, h.plans, hlen.trans h.streams,
    fun j c hc hr => hnew j c hc hr (h.unreached j c hc hr),
    fun j c o' hc ho' => hcarried j c o' hc ho' fun o ho => h.carried j c o hc ho⟩

/-- Streams are served. -/
theorem leads_ease {connection : Connection} (hs : s.connection.Step connection)
    (hlen : connection.streams.length = s.connection.streams.length)
    (hnew : ∀ j, s.connection.NewAt j → connection.NewAt j)
    (he : s.connection.Eases connection) : s.Leads { s with connection } := by
  refine leads_connect hs hlen (fun j _ _ _ => hnew j) fun j c o' _ ho' hcarried => ?_
  obtain ⟨o, ho, heases⟩ := he j o' ho'
  exact (hcarried o ho).eases heases.offered heases.backlog

theorem leads_updatePlan (s : Session) (i : Nat) (f : Plan → Plan) : s.Leads (s.updatePlan i f) :=
  leads_of_eq rfl rfl rfl (List.length_modify ..) rfl

theorem leads_updateCaller (s : Session) (k : Nat) (f : Caller → Caller) :
    s.Leads (s.updateCaller k f) :=
  leads_of_eq rfl rfl rfl rfl rfl

theorem leads_setClock (s : Session) (now : Nat) : s.Leads { s with now } :=
  leads_of_eq rfl rfl rfl rfl rfl

/-- A call whose request has come to its backend is none of those whose request has not. -/
theorem ne_of_reached (hc : s.service.calls[i]? = some c) (hr : c.request.reached = true)
    (hc' : s.service.calls[j]? = some c') (hr' : c'.request.reached = false) : i ≠ j := by
  rintro rfl
  rw [hc] at hc'
  cases hc'
  exact Bool.false_ne_true (hr'.symm.trans hr)

/-! ## Scopes and the registry -/

theorem leads_shutdown (s : Session) : s.Leads s.shutdown.2 := leads_on rfl trivial

theorem leads_cancelScope (s : Session) (name : String) : s.Leads (s.cancelScope name) := by
  unfold cancelScope NamedScopes.signal
  split
  · next id _ => exact leads_on (e := .cancelScope id) rfl trivial
  · exact s.leads_refl

/-- A scope is made for a name that has none. -/
theorem leads_ensure (s : Session) (name : String) :
    s.Leads (s.withScopes (s.scopes.ensure name).1) := by
  unfold NamedScopes.ensure
  split
  · exact s.leads_refl
  · refine leads_serve (.event (.createScope none) trivial rfl) fun p hp => ?_
    rcases List.mem_append.1 hp with hp | hp
    · exact .inl (List.mem_filter.1 hp).1
    · rw [List.mem_singleton.1 hp]
      exact .inr (by simp [NamedScopes.create, Scopes.create, scopes])

theorem Sound.ensure_lt (h : s.Sound) (name : String) :
    (s.scopes.ensure name).2 < (s.scopes.ensure name).1.scopes.nodes.length := by
  unfold NamedScopes.ensure
  split
  · next id hf =>
    obtain ⟨p, hp, rfl⟩ := NamedScopes.exists_mem_names hf
    exact h.named p hp
  · simp [NamedScopes.create, Scopes.create]

/-! ## Reactions -/

theorem leads_decide (s : Session) (i : Nat) (d : Decision) : s.Leads (s.decide i d) := by
  cases d with
  | reject e => exact leads_on rfl trivial
  | route method metadata scope onDone backend =>
    cases scope with
    | none => exact leads_on (s := s) rfl fun id hid => by cases hid
    | some name =>
      -- the scope of the route is one that there is, known by its name or just made
      intro h
      have hensured := s.leads_ensure name h
      refine hensured.trans (leads_on rfl (fun id hid => ?_) hensured.sound)
      cases hid
      exact h.ensure_lt name

/-- The request of a call comes to its backend, and its stream is opened. -/
theorem leads_reach (hc : s.service.calls[i]? = some c) (ha : c.awaitsReach = true) :
    s.Leads ((s.on (.call i .reach)).updateConnection (·.openStream i)) := by
  intro h
  have hnew := h.unreached i c hc (Call.not_reached_of_awaitsReach ha)
  have hc' : (s.on (.call i .reach)).service.calls[i]? = some (c.on s.service.config .reach) :=
    Service.getElem?_onCall_self hc
  have hr' : (c.on s.service.config .reach).request.reached = true := by
    rw [Call.on, if_pos ha]
  refine (s.leads_call rfl).trans (leads_connect (.openStream i fun o ho => hnew.isNew ho)
    (Connection.length_openStream ..) (fun j cj hj hrj hnewj => ?_)
    fun j cj o' _ ho' hcarried => ?_) h
  · exact hnewj.openStream (ne_of_reached hc' hr' hj hrj)
  · obtain ⟨o, ho, heases⟩ := (Connection.eases_assign _ i).exists_of_update ho'
    refine (hcarried o ho).eases (heases.offered.trans ?_) (Nat.le_trans heases.backlog ?_)
    · split <;> rfl
    · split <;> exact Nat.le_refl _

theorem Reacts.leads (h : s.Reacts i c s') (hc : s.service.calls[i]? = some c) : s.Leads s' := by
  cases h with
  | decides d => exact s.leads_decide i d
  | timesOut e => exact leads_on rfl trivial
  | fails e => exact s.leads_call rfl
  | turnsAway => exact s.leads_call rfl
  | reaches f ha => exact (leads_reach hc ha).trans (leads_updatePlan _ i f)

/-! ## The connection -/

/-- The stream of a request that is cancelled or lost is closed. -/
theorem leads_close (hc : s.service.calls[i]? = some c)
    (hb : c.request.isIntact = false) : s.Leads (s.updateConnection (·.close i)) := by
  refine leads_connect (.close i) (Connection.length_close ..) (fun _ _ _ _ hnew => hnew.close i)
    fun j cj o' hcj ho' hcarried => ?_
  by_cases hij : i = j
  · subst hij
    rw [hc] at hcj
    cases hcj
    exact fun _ hintact => absurd (hb.symm.trans hintact) Bool.false_ne_true
  · obtain ⟨o, ho, heases⟩ := (Connection.eases_serve _).exists_of_update ho'
    rw [if_neg hij] at heases
    exact (hcarried o ho).eases heases.offered heases.backlog

/-- The frames that were put on the connection are given to their stream. -/
theorem leads_offer {o : Outflow} (hc : s.service.calls[i]? = some c)
    (ho : s.connection.streams[i]? = some o) (hr : c.request.reached = true)
    (ha : o.attached = true) (hmore : o.offered < c.request.bytes) :
    s.Leads (s.updateConnection (·.offer i c.request.bytes)) := by
  refine leads_connect (.offer i _ fun o' ho' => ?_) (Connection.length_offer ..)
    (fun j cj hj hrj hnew => hnew.offer (ne_of_reached hc hr hj hrj) _)
    fun j cj o' hcj ho' hcarried => ?_
  · rw [ho] at ho'
    cases ho'
    exact ha
  · by_cases hij : i = j
    · subst hij
      rw [hc] at hcj
      cases hcj
      intro hready hintact
      exact absurd (hcarried o ho hready hintact).1 (Nat.not_le.2 hmore)
    · obtain ⟨o, ho, heases⟩ := (Connection.eases_assign _ i).exists_of_update ho'
      rw [if_neg hij] at heases
      exact (hcarried o ho).eases heases.offered heases.backlog

theorem Carries.leads {o : Outflow} (h : s.Carries i c o s')
    (hc : s.service.calls[i]? = some c) (ho : s.connection.streams[i]? = some o)
    (hr : c.request.reached = true) (ha : o.attached = true) : s.Leads s' := by
  cases h with
  | close hb => exact leads_close hc hb
  | offer _ hb => exact leads_offer hc ho hr ha hb
  | finish =>
    exact leads_ease (.finish i) (Connection.length_finish ..) (fun _ hnew => hnew.finish i)
      (Connection.eases_finish _ i)
  | ready _ _ hb hready => exact leads_ready hc ho hb hready

theorem leads_foldl_call (s : Session) {e : CallEvent} (is : List Nat)
    (he : ∀ i, (ServiceEvent.call i e).isPlain = true) :
    s.Leads (is.foldl (fun s i => s.on (.call i e)) s) := by
  induction is generalizing s with
  | nil => exact s.leads_refl
  | cons i is ih => exact (s.leads_call (he i)).trans (ih _)

theorem leads_breakDown (s : Session) : s.Leads s.breakDown := by
  refine (s.leads_foldl_call _ fun _ => rfl).trans (leads_connect .replace
    (Connection.length_replace _) (fun _ _ _ _ hnew => hnew.replace) ?_)
  intro j c o' _ ho' hcarried
  obtain ⟨o, ho, rfl⟩ := Connection.exists_of_getElem?_replace ho'
  intro hready hintact
  -- what waited is never sent, but nothing waited where the next frame may come
  obtain ⟨hbytes, hbacklog⟩ := hcarried o ho hready hintact
  rw [Outflow.offered, hbacklog] at hbytes
  exact ⟨hbytes, rfl⟩

/-! ## Time -/

theorem Happens.leads (h : s.Happens s') : s.Leads s' := by
  cases h with
  | carries i c o hc ho hr ha h => exact h.leads hc ho hr ha
  | works h => exact leads_serve (h.mono fun _ => False.elim) fun _ hp => .inl hp
  | reacts i c hc h => exact h.leads hc

theorem leads_run (s : Session) (fuel : Nat) : s.Leads (s.run fuel) := by
  induction fuel generalizing s with
  | zero => exact s.leads_refl
  | succ fuel ih =>
    rw [run]
    split
    · exact s.leads_refl
    · next t ht => exact (happens_of_advance? ht).leads.trans (ih t)

theorem leads_settle (s : Session) : s.Leads s.settle := s.leads_run _

theorem leads_passUntil (s : Session) (target fuel : Nat) :
    s.Leads (s.passUntil target fuel) := by
  have hpass (s : Session) (now : Nat) : s.Leads { s with now }.settle :=
    (s.leads_setClock now).trans (leads_settle _)
  induction fuel generalizing s with
  | zero => exact hpass s target
  | succ fuel ih =>
    rw [passUntil]
    split
    · next t _ =>
      split
      · exact (hpass s t).trans (ih _)
      · exact hpass s target
    · exact hpass s target

theorem leads_wait (s : Session) (d : Duration) : s.Leads (s.wait d) := s.leads_passUntil _ _

theorem leads_endStep (s : Session) : s.Leads s.endStep :=
  s.leads_settle.trans (leads_wait _ stepTime)

/-! ## Callers -/

theorem leads_opened (s : Session) (k : Nat) : s.Leads (s.opened k).2 := by
  unfold opened
  split
  · exact s.leads_refl
  · split
    · split
      · exact s.leads_refl
      · exact leads_updateCaller _ k _
      · exact leads_updateCaller _ k _
    · exact s.leads_refl

/-- A request that the router gives to the proxy arrives there, with a plan and a stream; no other
    does. -/
theorem leads_request (s : Session) (uri : Uri) (metadata : Metadata)
    (peer : Option SocketAddress) (decision : Decision) (delay : Duration) :
    s.Leads (s.request uri metadata peer decision delay) := by
  unfold request
  dsimp only
  split
  · exact leads_of_eq rfl rfl rfl rfl rfl
  · exact leads_of_eq rfl rfl rfl rfl rfl
  · next hproxy =>
    intro h
    refine ⟨rfl, .single (.event (.arrive (arrivalOf uri metadata peer)) trivial hproxy),
      .single .addStream, h.named, ?_, ?_, fun i c hc hr => ?_, fun i c o hc ho => ?_⟩
    · simp [on, Service.on, Service.arrive, h.plans]
    · simp [on, Service.on, Service.arrive, Connection.addStream, h.streams]
    · replace hc : (s.service.calls ++ [.ofArrival _ _])[i]? = some c := hc
      by_cases hlt : i < s.service.calls.length
      · rw [List.getElem?_append_left hlt] at hc
        exact (h.unreached i c hc hr).addStream
      · have hi : i = s.service.calls.length := by
          have := (List.getElem?_eq_some_iff.1 hc).1
          rw [List.length_append, List.length_singleton] at this
          omega
        rw [hi, ← h.streams]
        exact s.connection.newAt_addStream
    · replace hc : (s.service.calls ++ [.ofArrival _ _])[i]? = some c := hc
      replace ho : (s.connection.streams ++ [.unopened])[i]? = some o := ho
      by_cases hlt : i < s.service.calls.length
      · rw [List.getElem?_append_left hlt] at hc
        rw [List.getElem?_append_left (h.streams ▸ hlt)] at ho
        exact h.carried i c o hc ho
      · rw [List.getElem?_append_right (Nat.not_lt.1 hlt)] at hc
        obtain rfl := List.mem_singleton.1 (List.mem_of_getElem? hc)
        exact fun hready => absurd hready Bool.false_ne_true

theorem leads_onBody (s : Session) (k : Nat) {e : CallEvent}
    (he : ∀ i, (ServiceEvent.call i e).isPlain = true) : s.Leads (s.onBody k e).2 := by
  unfold onBody
  split
  · exact leads_onCall _ _ (he _)
  · exact s.leads_refl

theorem leads_halfClose (s : Session) (k : Nat) : s.Leads (s.halfClose k) :=
  (s.leads_onBody k fun _ => rfl).trans (leads_updateCaller _ k _)

theorem leads_cancel (s : Session) (k : Nat) : s.Leads (s.cancel k) := by
  have hleft := (s.leads_updateCaller k fun c => { c with sending := false }).trans
    (leads_updateCaller _ k fun c => { c with phase := .finished })
  unfold cancel
  dsimp only
  split
  · exact hleft.trans (leads_call _ rfl)
  · exact hleft

theorem leads_hearNow (s : Session) (k : Nat) : s.Leads (s.hearNow k).2 := by
  unfold hearNow
  split
  · exact s.leads_refl
  · split
    · exact s.leads_refl
    · dsimp only
      split
      · exact s.leads_call rfl
      · exact (s.leads_call rfl).trans (leads_updateCaller _ k _)
    · exact s.leads_refl

theorem leads_hear (s : Session) (k : Nat) : s.Leads (s.hear k).2 := by
  have hnow := s.leads_hearNow k
  unfold hear
  split
  · next t ht =>
    rw [ht] at hnow
    exact ((hnow.trans (t.leads_wait patience)).trans (leads_hearNow _ k)).trans (leads_settle _)
  · next e t _ ht =>
    rw [ht] at hnow
    exact hnow.trans t.leads_settle

theorem leads_hearAll (s : Session) (k fuel : Nat) : s.Leads (s.hearAll k fuel).2 := by
  induction fuel generalizing s with
  | zero => exact s.leads_refl
  | succ fuel ih =>
    rw [hearAll]
    dsimp only
    split
    · exact (s.leads_hear k).trans (ih _)
    · exact s.leads_hear k

/-! ## Backends -/

theorem leads_readBytes (s : Session) (i : Nat) (r : RequestLeg) (heard : Nat) :
    s.Leads (s.readBytes i r heard).2 := by
  unfold readBytes
  split
  · exact s.leads_refl
  · exact leads_ease (.readUpTo i _ _) (Connection.length_readUpTo ..)
      (fun _ hnew => hnew.readUpTo i _ _) (Connection.eases_readUpTo _ i _ _)

theorem leads_backendHearNow (s : Session) (i : Nat) : s.Leads (s.backendHearNow i).2 := by
  unfold backendHearNow
  split
  · next c p _ _ =>
    have hread := s.leads_readBytes i c.request p.heard
    split
    · next f t ht =>
      rw [ht] at hread
      exact hread.trans (leads_updatePlan _ i _)
    · next t ht =>
      rw [ht] at hread
      split
      · split
        · exact hread.trans (leads_updatePlan _ i _)
        · exact hread
      · split
        · exact hread.trans (leads_updatePlan _ i _)
        · exact hread
  · exact s.leads_refl

theorem leads_backendHear (s : Session) (i : Nat) : s.Leads (s.backendHear i).2 := by
  have hnow := s.leads_backendHearNow i
  unfold backendHear
  split
  · next t ht =>
    rw [ht] at hnow
    exact ((hnow.trans t.leads_settle).trans (leads_wait _ patience)).trans
      (leads_backendHearNow _ i)
  · next e t _ ht =>
    rw [ht] at hnow
    exact hnow.trans t.leads_settle

theorem leads_backendHearAll (s : Session) (i fuel : Nat) :
    s.Leads (s.backendHearAll i fuel).2 := by
  induction fuel generalizing s with
  | zero => exact s.leads_refl
  | succ fuel ih =>
    rw [backendHearAll]
    dsimp only
    split
    · exact (s.leads_backendHear i).trans (ih _)
    · exact s.leads_backendHear i

theorem leads_respondHeaders (s : Session) (i http : Nat) (metadata : Metadata) :
    s.Leads (s.respondHeaders i http metadata).2 :=
  leads_onCall _ _ (by split <;> rfl)

theorem leads_respond (s : Session) (i : Nat) (bytes : ByteArray) :
    s.Leads (s.respond i bytes).2 := by
  unfold respond
  split
  · exact s.leads_breakDown
  · exact leads_onCall _ _ rfl

theorem leads_respondEnd (s : Session) (i : Nat) (trailers : Option Metadata) :
    s.Leads (s.respondEnd i trailers).2 := by
  unfold respondEnd
  split
  · split
    · exact s.leads_breakDown
    · split
      · exact (leads_call _ rfl).trans (leads_call _ rfl)
      · exact s.leads_refl
  · refine leads_onCall _ _ ?_
    split
    · rfl
    · split
      · rfl
      · split <;> rfl

theorem leads_respondStatus (s : Session) (i http : Nat) (metadata : Metadata) (e : Status) :
    s.Leads (s.respondStatus i http metadata e).2 := by
  have hheaders := s.leads_respondHeaders i http (e.addTo metadata)
  unfold respondStatus
  dsimp only
  split
  · exact hheaders.trans (leads_respondEnd _ i _)
  · exact hheaders

/-! ## Runs -/

/-- What a script can do to a session. -/
inductive Step (s : Session) : Session → Prop
  | request (uri : Uri) (metadata : Metadata) (peer : Option SocketAddress) (decision : Decision)
      (delay : Duration) : Step s (s.request uri metadata peer decision delay)
  | opened (k : Nat) : Step s (s.opened k).2
  | send (k : Nat) (bytes : ByteArray) : Step s (s.send k bytes).2
  | fail (k : Nat) (e : Status) : Step s (s.fail k e).2
  | halfClose (k : Nat) : Step s (s.halfClose k)
  | cancel (k : Nat) : Step s (s.cancel k)
  | hear (k : Nat) : Step s (s.hear k).2
  | hearAll (k fuel : Nat) : Step s (s.hearAll k fuel).2
  | backendHear (i : Nat) : Step s (s.backendHear i).2
  | backendHearAll (i fuel : Nat) : Step s (s.backendHearAll i fuel).2
  | respondHeaders (i http : Nat) (metadata : Metadata) :
      Step s (s.respondHeaders i http metadata).2
  | respond (i : Nat) (bytes : ByteArray) : Step s (s.respond i bytes).2
  | respondEnd (i : Nat) (trailers : Option Metadata) : Step s (s.respondEnd i trailers).2
  | respondStatus (i http : Nat) (metadata : Metadata) (e : Status) :
      Step s (s.respondStatus i http metadata e).2
  | reset (i : Nat) : Step s (s.reset i).2
  | cancelScope (name : String) : Step s (s.cancelScope name)
  | shutdown : Step s s.shutdown.2
  | settle : Step s s.settle
  | wait (d : Duration) : Step s (s.wait d)
  | endStep : Step s s.endStep

abbrev Run : Session → Session → Prop := Relation.ReflTransGen Step

theorem Step.leads (h : Step s s') : s.Leads s' := by
  cases h with
  | request uri metadata peer decision delay =>
    exact s.leads_request uri metadata peer decision delay
  | opened k => exact s.leads_opened k
  | send k bytes => exact s.leads_onBody k fun _ => rfl
  | fail k e => exact s.leads_onBody k fun _ => rfl
  | halfClose k => exact s.leads_halfClose k
  | cancel k => exact s.leads_cancel k
  | hear k => exact s.leads_hear k
  | hearAll k fuel => exact s.leads_hearAll k fuel
  | backendHear i => exact s.leads_backendHear i
  | backendHearAll i fuel => exact s.leads_backendHearAll i fuel
  | respondHeaders i http metadata => exact s.leads_respondHeaders i http metadata
  | respond i bytes => exact s.leads_respond i bytes
  | respondEnd i trailers => exact s.leads_respondEnd i trailers
  | respondStatus i http metadata e => exact s.leads_respondStatus i http metadata e
  | reset i => exact s.leads_onCall _ rfl
  | cancelScope name => exact s.leads_cancelScope name
  | shutdown => exact s.leads_shutdown
  | settle => exact s.leads_settle
  | wait d => exact s.leads_wait d
  | endStep => exact s.leads_endStep

theorem Run.leads (hr : Run s s') : s.Leads s' := by
  induction hr with
  | refl => exact s.leads_refl
  | tail _ hs ih => exact ih.trans hs.leads

/-- **Whatever a session does, its service and its connection run.**  Of all that a script can do,
    in any order and at any time, and of all that then happens by itself, the service sees branches
    of its calls and events that it admits, and of the requests those that the router gives to the
    proxy; the connection sees what can happen to a connection; and the session stays in good
    order. -/
theorem Run.reaches (hr : Run (ofRouter config router) s) : (ofRouter config router).Reaches s :=
  hr.leads (sound_ofRouter config router)

/-- What holds of all runs of a service holds of the service of every session. -/
theorem Run.service (hr : Run (ofRouter config router) s) :
    Service.Run (.ofConfig config) s.service :=
  Service.RunOf.run hr.reaches.service

/-- Only requests that the router gives to the proxy become calls. -/
theorem Run.dispatch_arrival (hr : Run (ofRouter config router) s)
    (hc : s.service.calls[i]? = some c) : router.dispatch c.arrival.path = .proxy :=
  Service.RunOf.arrival hr.reaches.service hc

/-- What holds of all runs of a connection holds of the connection of every session. -/
theorem Run.connection (hr : Run (ofRouter config router) s) :
    Connection.Run .fresh s.connection :=
  hr.reaches.connection

end Session

end GrpcRelay
