/-
  Policy — which calls the gateway lets through (`Settings.Serves`), and what it
  makes of them.

  Between the path that the director judges and the path that is sent lie two
  readings and two renderings, which change nothing (`backendPath_text`).  So a
  call that is served goes to its backend under the path that it came with, and
  every other call is turned away before anything of it goes anywhere
  (`policy_on_wire`).
-/
import GrpcRelay.Gateway.Director
import GrpcRelay.Proofs.MethodPath
import GrpcRelay.Proofs.Router.Ranking
import GrpcRelay.Proofs.Service.Rest
import GrpcRelay.Proofs.Uri

namespace GrpcRelay

/-! ## The path of a request -/

/-- The path of a method that is the path of a URI is sent as it is. -/
theorem backendPath_text {m : MethodPath} (hm : m.Proper) (hp : PathQuery.IsPath m.text) :
    backendPath m.text = .ok ⟨m.text.toList, none⟩ := by
  rw [backendPath, hm.parse_text]
  dsimp only
  rw [hp.parse]

/-- The path of a URI that names a method is the text of the method. -/
theorem Uri.text_of_parse {text : String} {u : Uri} {m : MethodPath} (hu : Uri.parse text = .ok u)
    (hm : MethodPath.parse u.pathText = .ok m) :
    m.text = u.pathText ∧ PathQuery.IsPath m.text := by
  rcases Uri.isPath_of_parse hu with hnone | hstar | hpath
  · rw [hnone] at hm; cases hm
  · rw [hstar] at hm; cases hm
  · have htext := MethodPath.text_of_parse hm hpath.slash
    exact ⟨htext, htext ▸ hpath⟩

namespace Gateway

/-- The router of the gateway has no routes and sends everything to the proxy. -/
def router : Router := Router.empty.makeTransparent

theorem dispatch_router (path : String) : router.dispatch path = .proxy := by
  have hnone : router.table.lookup path = none := by
    cases h : router.table.lookup path with
    | none => rfl
    | some a =>
      obtain ⟨p, hp⟩ := (RouteTable.find_eq_some_iff RouteTable.sound_empty).1 h
      cases hp.mounted
  rw [Router.dispatch, hnone]
  rfl

/-! ## What is let through -/

/-- The service begins with a blocked prefix. -/
def Settings.Blocks (s : Settings) (service : String) : Prop :=
  ∃ p ∈ s.blockedPrefixes, p.toList <+: service.toList

/-- There is a backend for the host of an authority, or else a default. -/
def Settings.HasBackend (s : Settings) (authority : Option String) : Prop :=
  s.defaultBackend.isSome = true ∨
    ∃ a host uri, authority = some a ∧ hostOfAuthority a.toList = some host ∧
      (Text.lowerString (.ofList host), uri) ∈ s.backends

/-- The path is `/service/method`, no blocked prefix begins the service, and the host has a
    backend. -/
structure Settings.Serves (s : Settings) (path : String) (authority : Option String) : Prop where
  method : ∃ m : MethodPath, m.Proper ∧ path = m.text ∧ ¬ s.Blocks m.service
  backend : s.HasBackend authority

variable {settings : Settings} {d : Director} {context : CallContext}

theorem ofSettings_eq_ok (h : Director.ofSettings settings = .ok d) :
    d = ⟨settings.backends, settings.defaultBackend, settings.blockedPrefixes⟩ := by
  unfold Director.ofSettings at h
  split at h
  · cases h
  · exact (Except.ok.inj h).symm

theorem isBlocked_iff (h : Director.ofSettings settings = .ok d) :
    d.isBlocked context = true ↔ settings.Blocks context.method.service := by
  rw [ofSettings_eq_ok h, Director.isBlocked, List.any_eq_true]
  simp only [Text.after?_isSome_iff]
  rfl

theorem isSome_backendOf?_iff {host : String} :
    (d.backendOf? host).isSome = true ↔ ∃ uri, (Text.lowerString host, uri) ∈ d.backends := by
  rw [Director.backendOf?, Option.isSome_map, List.find?_isSome]
  constructor
  · rintro ⟨⟨name, uri⟩, hmem, hname⟩
    rw [beq_iff_eq] at hname
    exact ⟨uri, hname ▸ List.mem_reverse.1 hmem⟩
  · rintro ⟨uri, hmem⟩
    exact ⟨_, List.mem_reverse.2 hmem, beq_self_eq_true _⟩

theorem isSome_select?_iff (h : Director.ofSettings settings = .ok d) :
    (d.select? context).isSome = true ↔ settings.HasBackend context.authority := by
  have hhost : (context.host?.bind d.backendOf?).isSome = true ↔
      ∃ a host uri, context.authority = some a ∧ hostOfAuthority a.toList = some host ∧
        (Text.lowerString (.ofList host), uri) ∈ settings.backends := by
    have hbackends : d.backends = settings.backends := by rw [ofSettings_eq_ok h]
    unfold CallContext.host?
    cases context.authority with
    | none => simp
    | some a =>
      cases hh : hostOfAuthority a.toList with
      | none => simp [hh]
      | some host => simp [hh, isSome_backendOf?_iff, hbackends]
  have hdefault : d.defaultBackend = settings.defaultBackend := by rw [ofSettings_eq_ok h]
  rw [Director.select?, Option.isSome_or, Bool.or_eq_true, hhost, hdefault, Settings.HasBackend,
    or_comm]

/-- The director sends a call to a backend or refuses it as one of an unknown method. -/
theorem connect_cases (d : Director) (context : CallContext) :
    (∃ b, d.connect context = .ok (.toBackend b) ∧ d.isBlocked context = false ∧
      d.select? context = some b) ∨
    (d.connect context = .error Router.unknownMethod ∧
      (d.isBlocked context = true ∨ d.select? context = none)) := by
  unfold Director.connect
  split
  · next hb => exact .inr ⟨rfl, .inl hb⟩
  · next hb =>
    split
    · next hn => exact .inr ⟨rfl, .inr hn⟩
    · next b hs => exact .inl ⟨b, rfl, Bool.not_eq_true _ ▸ hb, hs⟩

/-- A call whose path names a method is sent to a backend exactly if the settings serve it. -/
theorem connect_eq_ok_iff {a : Arrival} {m : MethodPath} (h : Director.ofSettings settings = .ok d)
    (hm : m.Proper) (ha : a.path = m.text) :
    (∃ b, d.connect (Call.contextOf a m) = .ok (.toBackend b)) ↔
      settings.Serves a.path a.authority := by
  have hblocked : d.isBlocked (Call.contextOf a m) = true ↔ settings.Blocks m.service :=
    isBlocked_iff h
  have hbackend : (d.select? (Call.contextOf a m)).isSome = true ↔
      settings.HasBackend a.authority := isSome_select?_iff h
  rcases connect_cases d (Call.contextOf a m) with ⟨b, hok, hb, hs⟩ | ⟨herr, hwhy⟩
  · have hnot : ¬ settings.Blocks m.service := fun hblocks => by
      rw [hblocked.2 hblocks] at hb; cases hb
    exact ⟨fun _ => ⟨⟨m, hm, ha, hnot⟩, hbackend.1 (by rw [hs]; rfl)⟩, fun _ => ⟨b, hok⟩⟩
  · constructor
    · rintro ⟨b, hok⟩
      rw [herr] at hok; cases hok
    · rintro ⟨⟨m', hm', ha', hnot⟩, hhas⟩
      have heq : m' = m := by
        have hp := hm'.parse_text
        rw [← ha', ha, hm.parse_text] at hp
        exact (Except.ok.inj hp).symm
      subst heq
      rcases hwhy with hb | hn
      · exact absurd (hblocked.1 hb) hnot
      · have hsome := hbackend.2 hhas
        rw [hn] at hsome; cases hsome

/-! ## Runs of the gateway -/

/-- A request has the path of a URI and goes to the proxy, and the director decides by what it is
    shown of the call. -/
def Permits (d : Director) (s : Service) : ServiceEvent → Prop
  | .arrive a =>
    router.dispatch a.path = .proxy ∧ ∃ text u, Uri.parse text = .ok u ∧ a.path = u.pathText
  | .decide i decision =>
    ∀ c context, s.calls[i]? = some c → c.context = some context → decision = d.connect context
  | .call _ _ | .createScope _ | .cancelScope _ | .shutdown => True

/-- One branch of one call, or one event that can happen to the gateway. -/
def Step (d : Director) (s s' : Service) : Prop := s.StepOf (Permits d s) s'

/-- Runs of the gateway, in any order of its steps. -/
abbrev Run (d : Director) : Service → Service → Prop := Relation.ReflTransGen (Step d)

variable {s s' : Service} {i : Nat} {c c' : Call}

theorem Run.run (hr : Run d s s') : Service.Run s s' := hr.lift id fun _ _ h => h.step

/-- The caller has been told that there is no such method. -/
def Unimplemented (c : Call) : Prop :=
  ∃ e, c.answer = some (.refused e) ∧ e.code = .unimplemented

/-- What the gateway knows of a call and has made of it so far. -/
structure Brief where
  arrival : Arrival
  context : Option CallContext
  route : Option (Route String Unit)
  answer : Option Answer
  path : PathQuery

def Brief.ofCore (k : Core) : Brief := ⟨k.arrival, k.context, k.route, k.answer, k.path⟩

/-- A call is what its path and the director's decision make of it. -/
structure Judged (d : Director) (c : Call) : Prop where
  path : ∃ text u, Uri.parse text = .ok u ∧ c.arrival.path = u.pathText
  context : ∀ k, c.context = some k →
    ∃ m, MethodPath.parse c.arrival.path = .ok m ∧ k = Call.contextOf c.arrival m
  route : ∀ r, c.route = some r →
    r.method = none ∧ ∃ k b, c.context = some k ∧ d.connect k = .ok (.toBackend b)
  sent : c.stage.isUnlaunched = false →
    c.request.path = ⟨c.arrival.path.toList, none⟩ ∧ c.route.isSome = true
  answer : c.route = none → c.answer ≠ none → Unimplemented c
  left : c.stage = .over .forsaken → c.left = true

theorem judged_ofArrival {config : Config} {a : Arrival}
    (ha : ∃ text u, Uri.parse text = .ok u ∧ a.path = u.pathText) :
    Judged d (.ofArrival config a) :=
  ⟨ha, nofun, nofun, nofun, fun _ h => absurd rfl h, nofun⟩

/-- Where the brief is the same, only the launch and the leaving have to be looked at. -/
theorem Judged.onward (h : Judged d c) (hb : Brief.ofCore c'.core = Brief.ofCore c.core)
    (hsent : c'.stage.isUnlaunched = false → c.stage.isUnlaunched = false)
    (hleft : c'.stage = .over .forsaken → c'.left = true) : Judged d c' := by
  obtain ⟨ha, hk, hr, hans, hp⟩ := Brief.mk.inj hb
  replace ha : c'.arrival = c.arrival := ha
  replace hk : c'.context = c.context := hk
  replace hr : c'.route = c.route := hr
  replace hans : c'.answer = c.answer := hans
  replace hp : c'.request.path = c.request.path := hp
  refine ⟨?_, ?_, ?_, fun hs => ?_, ?_, hleft⟩
  · rw [ha]; exact h.path
  · rw [ha, hk]; exact h.context
  · rw [hr, hk]; exact h.route
  · rw [hp, ha, hr]; exact h.sent (hsent hs)
  · rw [Unimplemented, hr, hans]; exact h.answer

theorem code_of_encodingError? {m : Metadata} {e : Status}
    (h : Status.encodingError? m = some e) : e.code = .unimplemented := by
  unfold Status.encodingError? at h
  split at h
  · cases h
  · split at h
    · cases h
    · cases h; rfl

/-- What a routed call sends is the path that it came with. -/
theorem Judged.backendPath (h : Judged d c) {r : Route String Unit} (hk : c.context = some context)
    (hr : c.route = some r) :
    backendPath (r.method.getD context.method.text) = .ok ⟨c.arrival.path.toList, none⟩ := by
  obtain ⟨hnone, -⟩ := h.route r hr
  obtain ⟨m, hm, rfl⟩ := h.context context hk
  obtain ⟨text, u, hu, hpath⟩ := h.path
  rw [hpath] at hm ⊢
  obtain ⟨htext, his⟩ := Uri.text_of_parse hu hm
  rw [hnone, ← htext]
  exact backendPath_text (MethodPath.proper_of_parse hm) his

theorem Judged.turn {scope : Bool} {m : CallMove} {e : Option Effect} {config : Config}
    (h : Judged d c) (ht : c.Turn config scope m c' e)
    (hp : Papers i c.stage.custody c.route c.guard) : Judged d c' := by
  have hleft := ht.left
  cases ht with
  | forsake hl => exact h.onward rfl nofun fun _ => hl
  | rejectEncoding e hs he =>
    exact { h with sent := nofun, answer := fun _ _ => ⟨e, rfl, code_of_encodingError? he⟩,
                   left := nofun }
  | rejectPath e hs =>
    exact { h with sent := nofun, answer := fun _ _ => ⟨_, rfl, rfl⟩, left := nofun }
  | consult method hs _ hm =>
    have hnone : c.route = none := by
      cases hr : c.route with
      | none => rfl
      | some r => rw [hs, hr] at hp; exact absurd rfl hp.ne_unrouted
    refine ⟨h.path, fun k hk => ?_, fun r hr => ?_, nofun, h.answer, nofun⟩
    · cases hk; exact ⟨method, hm, rfl⟩
    · rw [hnone] at hr; cases hr
  | track g hs => exact h.onward rfl nofun nofun
  | refuse k r e hs hk hr hb =>
    rw [h.backendPath hk hr] at hb; cases hb
  | launch k r path hs hk hr hb =>
    rw [h.backendPath hk hr] at hb; cases hb
    exact { h with sent := fun _ => ⟨rfl, by rw [hr]; rfl⟩, left := nofun }
  | abandonOpening _ hs | abandonJoining _ _ hs | failOpening _ hs | record _ hs | signal _ hs
  | join _ hs | close _ hs | await _ hs =>
    exact h.onward rfl (fun _ => by rw [hs]; rfl) nofun
  | quit hs =>
    refine h.onward ?_ (fun _ => by rw [hs]; rfl) nofun
    show Brief.ofCore c.giveUpOpening.core = _
    rw [Call.core_giveUpOpening]
  | settle _ hs =>
    refine h.onward ?_ (fun _ => by rw [hs]; rfl) nofun
    show Brief.ofCore c.giveUpResponse.core = _
    rw [Call.core_giveUpResponse]
  | opened headers hs =>
    obtain ⟨hsent, hr⟩ := h.sent (by rw [hs]; rfl)
    refine { h with sent := fun _ => ⟨hsent, hr⟩, answer := fun hn => ?_, left := nofun }
    rw [hn] at hr; cases hr
  | down _ _ _ _ | up => exact h.onward rfl id h.left
  | forward c' hf =>
    have hcore := Call.core_forward hf
    have hstage := Call.stage_forward hf
    exact h.onward (congrArg Brief.ofCore hcore) (hstage ▸ id)
      fun hs => hleft.trans (h.left (hstage ▸ hs))
  | finishRequest c' hf =>
    have hcore := Call.core_finishRequest hf
    have hstage := Call.stage_finishRequest hf
    exact h.onward (congrArg Brief.ofCore hcore) (hstage ▸ id)
      fun hs => hleft.trans (h.left (hstage ▸ hs))
  | report _ _ hs | remove _ _ hs => exact h.onward rfl (fun hu => by rw [hs]; exact hu) nofun
  | free ending g answer hs hg =>
    obtain ⟨-, -, r, hr, -⟩ := (hg ▸ hp).of_guard
    have hrouted := Call.isRouted_of_releasing hp hs hg
    refine { h with sent := fun _ => ?_, answer := fun hn => ?_, left := fun hf => ?_ }
    · exact h.sent (by rw [hs, Stage.isUnlaunched, hrouted]; rfl)
    · rw [hr] at hn; cases hn
    · cases hf; cases hrouted

theorem Judged.moves (h : Judged d c) (hc : s.calls[i]? = some c)
    (hp : Papers i c.stage.custody c.route c.guard) (hpoised : c.Poised)
    (hm : s.MovesOf (Permits d s) i c c') : Judged d c' := by
  have hcontext (hs : c.stage = .resolving) : ∃ k, c.context = some k :=
    Option.isSome_iff_exists.1 (hpoised.context (by rw [hs]; rfl))
  cases hm with
  | rests => exact h
  | turn m e ht => exact h.turn ht hp
  | event e =>
    have hstage := Call.stage_on s.config c e
    exact h.onward (congrArg Brief.ofCore (Call.core_on s.config c e)) (hstage ▸ id)
      fun hs => Call.left_on e (h.left (hstage ▸ hs))
  | rejected e hs he =>
    obtain ⟨k, hk⟩ := hcontext hs
    have hd := he c k hc hk
    refine { h with sent := nofun, answer := fun _ _ => ⟨e, rfl, ?_⟩, left := nofun }
    rcases connect_cases d k with ⟨b, hok, -⟩ | ⟨herr, -⟩
    · rw [hok] at hd; cases hd
    · rw [herr] at hd; cases hd; rfl
  | routed context route scope hs he =>
    obtain ⟨k, hk⟩ := hcontext hs
    have hd := he c k hc hk
    refine { h with route := fun r hr => ?_, sent := nofun, answer := nofun, left := nofun }
    cases hr
    rcases connect_cases d k with ⟨b, hok, -⟩ | ⟨herr, -⟩
    · rw [hok] at hd; cases hd
      exact ⟨rfl, k, b, hk, hok⟩
    · rw [herr] at hd; cases hd

/-- In every run each call is what its path and the director's decision make of it. -/
theorem Run.judged {config : Config} (hr : Run d (.ofConfig config) s) (hc : s.calls[i]? = some c) :
    Judged d c := by
  induction hr generalizing i c with
  | refl => simp [Service.ofConfig] at hc
  | tail hr hs ih =>
    rcases hs.calls_back hc with ⟨c₁, hc₁⟩ | ⟨-, a, ha, -, rfl⟩
    · obtain ⟨c₂, hc₂, hm⟩ := hs.moves hc₁
      rw [hc] at hc₂; cases hc₂
      have hkeeps := (Service.Run.sound (Run.run hr)).calls i c₁ hc₁
      exact (ih hc₁).moves hc₁ hkeeps.papers (Service.Run.poised (Run.run hr) hc₁) hm
    · exact judged_ofArrival ha.2

/-! ## The policy -/

/-- The director sends exactly the calls to a backend that the settings serve. -/
theorem Judged.connect_iff (h : Judged d c) (hd : Director.ofSettings settings = .ok d)
    (hk : c.context = some context) :
    (∃ b, d.connect context = .ok (.toBackend b)) ↔
      settings.Serves c.arrival.path c.arrival.authority := by
  obtain ⟨m, hm, rfl⟩ := h.context context hk
  obtain ⟨text, u, hu, hpath⟩ := h.path
  have htext := (Uri.text_of_parse hu (hpath ▸ hm)).1
  exact connect_eq_ok_iff hd (MethodPath.proper_of_parse hm) (hpath.trans htext.symm)

theorem Judged.serves {r : Route String Unit} (h : Judged d c)
    (hd : Director.ofSettings settings = .ok d) (hr : c.route = some r) :
    settings.Serves c.arrival.path c.arrival.authority := by
  obtain ⟨-, k, b, hk, hok⟩ := h.route r hr
  exact (h.connect_iff hd hk).1 ⟨b, hok⟩

/-- Nothing of a call goes anywhere, and all that its caller is told is that there is no such
    method. -/
structure TurnedAway (d : Director) (s : Service) (i : Nat) (c : Call) : Prop where
  dormant : c.Dormant
  reached : i ∉ s.reached
  registry : s.registry.contains ⟨i⟩ = false
  answer : c.answer ≠ none → Unimplemented c
  /-- When the tasks have come to rest a caller that stays has the answer, or the director is still
      being asked, ... -/
  rest : s.AtRest → c.left = false → c.stage ≠ .resolving → Unimplemented c
  /-- ... and what it decides is the answer. -/
  decided : c.stage = .resolving → c.left = false →
    ∃ context c', c.context = some context ∧
      (s.on (.decide i (d.connect context))).calls[i]? = some c' ∧ Unimplemented c'

theorem Judged.turnedAway (h : Judged d c) (hr : Service.Run (.ofConfig .default) s)
    (hc : s.calls[i]? = some c) (hn : c.route = none)
    (hrefuses : ∀ k, c.context = some k → d.connect k = .error Router.unknownMethod) :
    TurnedAway d s i c := by
  have hkeeps := (Service.Run.sound hr).calls i c hc
  have hk : c.stage.custody = .unrouted := (hn ▸ hkeeps.papers).eq_unrouted
  have hu := Stage.isUnlaunched_of_unrouted hk
  have hpoised := Service.Run.poised hr hc
  refine ⟨hkeeps.dormant hu, hkeeps.reached hu, by rw [hkeeps.registry, hk]; rfl, h.answer hn,
    fun hrest hl hs => ?_, fun hs hl => ?_⟩
  · cases hrest.waits hr hc with
    | decision hs' => exact absurd hs' hs
    | answer hs' | item hs' | room _ hs' | delivery _ _ hs' => rw [hs'] at hu; cases hu
    | nothing ending hs' =>
      have hanswers := hpoised.answer
      rw [hs'] at hanswers hu
      cases ending with
      | rejected e => exact h.answer hn (by rw [hanswers]; nofun)
      | forsaken => rw [h.left hs'] at hl; cases hl
      | refused | abandoned | relayed => cases hu
  · obtain ⟨k, hk⟩ := Option.isSome_iff_exists.1 (hpoised.context (by rw [hs]; rfl))
    let c' : Call :=
      { c with
        stage := .over (.rejected Router.unknownMethod)
        answer := some (.refused Router.unknownMethod) }
    refine ⟨k, c', hk, ?_, Router.unknownMethod, rfl, rfl⟩
    rw [hrefuses k hk, Service.on, Service.decide, hc]
    simp only [hs, hk, hl]
    exact Service.getElem?_modify_self hc

/-- **Policy on the wire.**  The proxy gets every request.  What goes to a backend goes under the
    path of the request, which the settings serve, and the director refuses no other.  A call that
    they do not serve is turned away: nothing of it goes to a backend, it is never in the registry,
    and its caller is told that there is no such method. -/
theorem policy_on_wire {settings : Settings} {d : Director} {s : Service} {i : Nat} {c : Call}
    (hd : Director.ofSettings settings = .ok d) (hr : Run d (.ofConfig .default) s)
    (hc : s.calls[i]? = some c) :
    (∀ path, router.dispatch path = .proxy) ∧
    (¬ c.Dormant ∨ i ∈ s.reached →
      c.request.path.text = c.arrival.path ∧
        settings.Serves c.arrival.path c.arrival.authority) ∧
    (settings.Serves c.arrival.path c.arrival.authority →
      ∀ context, c.context = some context → ∃ b, d.connect context = .ok (.toBackend b)) ∧
    (¬ settings.Serves c.arrival.path c.arrival.authority → TurnedAway d s i c) := by
  have hjudged := hr.judged hc
  have hkeeps := (Service.Run.sound hr.run).calls i c hc
  refine ⟨dispatch_router, fun hopen => ?_, fun hs k hk => (hjudged.connect_iff hd hk).2 hs,
    fun hnot => ?_⟩
  · have hlaunched : c.stage.isUnlaunched = false := by
      rw [← Bool.not_eq_true]
      intro hu
      rcases hopen with hopen | hopen
      · exact hopen (hkeeps.dormant hu)
      · exact hkeeps.reached hu hopen
    obtain ⟨hpath, hroute⟩ := hjudged.sent hlaunched
    obtain ⟨r, hr⟩ := Option.isSome_iff_exists.1 hroute
    exact ⟨by rw [hpath]; exact String.ofList_toList, hjudged.serves hd hr⟩
  · have hn : c.route = none := by
      cases hroute : c.route with
      | none => rfl
      | some r => exact absurd (hjudged.serves hd hroute) hnot
    refine hjudged.turnedAway hr.run hc hn fun k hk => ?_
    rcases connect_cases d k with ⟨b, hok, -⟩ | ⟨herr, -⟩
    · exact absurd ((hjudged.connect_iff hd hk).1 ⟨b, hok⟩) hnot
    · exact herr

/-- One backend, no default, and a prefix that is blocked. -/
def guarded : Settings :=
  ⟨.v4 ⟨127, 0, 0, 1⟩ 50051, [("h", "http://up")], none, ["admin."]⟩

/-- Its director. -/
def guardedDirector : Director := ⟨[("h", "http://up")], none, ["admin."]⟩

theorem not_serves_admin : ¬ guarded.Serves "/admin.A/b" (some "h:80") := by
  rintro ⟨⟨m, hm, hpath, hnot⟩, -⟩
  have hparse := hm.parse_text
  rw [← hpath, show MethodPath.parse "/admin.A/b" = .ok ⟨"admin.A", "b"⟩ from rfl] at hparse
  cases hparse
  exact hnot ⟨"admin.", by decide, by decide⟩

/-- Two calls of one host, one of them to a service with the blocked prefix. -/
theorem policy_on_wire_of_guarded :
    ∃ s c c', Director.ofSettings guarded = .ok guardedDirector ∧
      Run guardedDirector (.ofConfig .default) s ∧
      s.calls[0]? = some c ∧ s.calls[1]? = some c' ∧ 0 ∈ s.reached ∧
      c.request.path.text = "/a/b" ∧ guarded.Serves "/a/b" (some "h:80") ∧
      TurnedAway guardedDirector s 1 c' := by
  have hnew : Run guardedDirector (.ofConfig .default) _ := .refl
  have harrived := hnew.tail (.event (.arrive ⟨"/a/b", some "h:80", {}, none⟩) trivial
    ⟨dispatch_router _, "http://h:80/a/b", _, rfl, rfl⟩)
  have hconsulted := harrived.tail (.branch 0 .accept rfl)
  have hrouted := hconsulted.tail (.event (.decide 0 (.ok (.toBackend "http://up"))) nofun
    (by rintro c k hc hk; cases hc; cases hk; rfl))
  have htracked := hrouted.tail (.branch 0 .track rfl)
  have hlaunched := htracked.tail (.branch 0 .launch rfl)
  have hreached := hlaunched.tail (.event (.call 0 .reach) trivial trivial)
  have hsecond := hreached.tail (.event (.arrive ⟨"/admin.A/b", some "h:80", {}, none⟩) trivial
    ⟨dispatch_router _, "http://h:80/admin.A/b", _, rfl, rfl⟩)
  have hasked := hsecond.tail (.branch 1 .accept rfl)
  have hr := hasked.tail (.event (.decide 1 (.error Router.unknownMethod)) trivial
    (by rintro c k hc hk; cases hc; cases hk; rfl))
  have hd : Director.ofSettings guarded = .ok guardedDirector := rfl
  obtain ⟨-, hopen, -, -⟩ := policy_on_wire hd hr (i := 0) rfl
  obtain ⟨-, -, -, haway⟩ := policy_on_wire hd hr (i := 1) rfl
  obtain ⟨hpath, hserves⟩ := hopen (.inr (.head _))
  exact ⟨_, _, _, hd, hr, rfl, rfl, .head _, hpath, hserves, haway not_serves_admin⟩

end Gateway

end GrpcRelay
