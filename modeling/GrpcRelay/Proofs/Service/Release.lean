/-
  Release — what becomes of the route of every call.

  At any moment the custody of a call tells whether the registry contains it,
  how often its callback has run and whether its scope is cancelled
  (`Service.Keeps`).  So a call without a route has touched nothing, and a
  call with one is released exactly once (`release_exact`).
-/
import GrpcRelay.Proofs.Service.Run

namespace GrpcRelay

/-- Whether the route of a call comes with a callback. -/
def Call.hasCallback (c : Call) : Bool := c.route.any fun r => r.onDone.isSome

namespace Service

variable {config : Config} {s s' : Service} {i j : Nat} {c c' : Call}

/-- How often the callback of a call has run. -/
def reports (s : Service) (i : Nat) : Nat := s.completions.countP fun p => p.1 == i

theorem scope?_of_route {route : Route String Unit} (hr : c.route = some route) :
    c.scope? = route.scope := by rw [Call.scope?, hr]; rfl

/-- What the shared state says of call `i`, by its custody. -/
structure Keeps (s : Service) (i : Nat) (c : Call) : Prop where
  papers : Papers i c.stage.custody c.route c.guard
  dormant : c.stage.isUnlaunched = true → c.Dormant
  registry : s.registry.contains ⟨i⟩ = c.stage.custody.isTracked
  reports : s.reports i = if c.stage.custody.hasReported && c.hasCallback then 1 else 0
  scope : ∀ id, c.scope? = some id → id < s.scopes.nodes.length
  released : c.stage.custody = .released →
    ∀ id, c.scope? = some id → s.scopes.isCancelled id = true
  reached : c.stage.isUnlaunched = true → i ∉ s.reached

/-- All calls are accounted for, and nothing is known of calls that have not arrived. -/
structure Sound (s : Service) : Prop where
  calls : ∀ i c, s.calls[i]? = some c → s.Keeps i c
  absent : ∀ i, s.calls[i]? = none →
    s.registry.contains ⟨i⟩ = false ∧ s.reports i = 0 ∧ i ∉ s.reached

/-! ## What does not concern a call -/

/-- A step that leaves alone what is known of call `i`. -/
structure Spares (s s' : Service) (i : Nat) : Prop where
  registry : s'.registry.contains ⟨i⟩ = s.registry.contains ⟨i⟩
  reports : s'.reports i = s.reports i
  reached : i ∈ s'.reached → i ∈ s.reached
  scopes : s.scopes.Grows s'.scopes

theorem Keeps.spares (h : s.Keeps i c) (hs : Spares s s' i) : s'.Keeps i c where
  papers := h.papers
  dormant := h.dormant
  registry := hs.registry.trans h.registry
  reports := hs.reports.trans h.reports
  scope id hid := Nat.lt_of_lt_of_le (h.scope id hid) hs.scopes.length_le
  released hk id hid := hs.scopes.isCancelled id (h.released hk id hid)
  reached hu hr := h.reached hu (hs.reached hr)

/-- What a branch of call `i` asks for concerns no other call. -/
theorem spares_after {e : Option Effect} (hij : i ≠ j) (ho : Call.Handover c c' e)
    (hp : Papers i c.stage.custody c.route c.guard) : Spares s (s.after i (c', e)) j := by
  have hid : (⟨j⟩ : CallId) ≠ ⟨i⟩ := fun h => hij (CallId.mk.inj h).symm
  cases ho with
  | stays _ _ he | consults _ _ _ he => rw [he]; exact ⟨rfl, rfl, id, .refl _⟩
  | tracks g _ _ hg _ he =>
    obtain ⟨-, -, r, -, hgid, -⟩ := (hg ▸ hp).of_guard
    rw [he]
    refine ⟨?_, rfl, id, .refl _⟩
    show (s.registry.insert g.id g.call).contains ⟨j⟩ = _
    rw [Registry.contains_insert, hgid, beq_eq_false_iff_ne.2 hid, Bool.false_or]
  | reports g error _ _ _ _ he =>
    rw [he]
    split
    · refine ⟨rfl, ?_, id, .refl _⟩
      show (s.completions ++ [(i, error)]).countP _ = _
      simp [Service.reports, List.countP_append, hij]
    · exact ⟨rfl, rfl, id, .refl _⟩
  | removes g _ _ hg _ he =>
    obtain ⟨-, -, r, -, hgid, -⟩ := (hg ▸ hp).of_guard
    rw [he]
    refine ⟨?_, rfl, id, .refl _⟩
    show (s.registry.remove g.id).contains ⟨j⟩ = _
    rw [Registry.contains_remove, hgid, bne, beq_eq_false_iff_ne.2 hid, Bool.not_false,
      Bool.true_and]
  | frees g _ _ _ _ he =>
    rw [he]
    exact ⟨rfl, rfl, id, Scopes.grows_signal s.scopes g.scope⟩

/-! ## What concerns it -/

/-- A branch of the call itself keeps its account. -/
theorem Keeps.turn {scope : Bool} {m : CallMove} {e : Option Effect} (h : s.Keeps i c)
    (ht : c.Turn s.config scope m c' e) : (s.after i (c', e)).Keeps i c' := by
  have hroute := ht.route
  have hscope : c'.scope? = c.scope? := by rw [Call.scope?, Call.scope?, hroute]
  have hcallback : c'.hasCallback = c.hasCallback := by
    rw [Call.hasCallback, Call.hasCallback, hroute]
  have hpapers := ht.papers h.papers
  have hdormant (hu : c'.stage.isUnlaunched = true) : c'.Dormant :=
    ht.dormant (h.dormant (ht.unlaunched hu)) hu
  have hreached (hu : c'.stage.isUnlaunched = true) : i ∉ s.reached := h.reached (ht.unlaunched hu)
  cases ht.handover h.papers with
  | stays hk _ he | consults hk' hk _ he =>
    subst he
    refine ⟨hpapers, hdormant, ?_, ?_, ?_, ?_, hreached⟩
    · exact h.registry.trans (by simp [*])
    · exact h.reports.trans (by simp [*])
    · rw [hscope]; exact h.scope
    · rw [hscope]; intro hrel; exact h.released (by simp_all)
  | tracks g hk hk' hg hg' he =>
    subst he
    obtain ⟨-, -, r, -, hgid, -⟩ := (hg ▸ h.papers).of_guard
    refine ⟨hpapers, hdormant, ?_, ?_, ?_, ?_, hreached⟩
    · show (s.registry.insert g.id g.call).contains ⟨i⟩ = _
      rw [Registry.contains_insert, hgid, hk', beq_self_eq_true]; rfl
    · exact h.reports.trans (by rw [hk, hk']; rfl)
    · rw [hscope]; exact h.scope
    · rw [hk']; nofun
  | reports g error hk hk' hg hg' he =>
    obtain ⟨-, -, r, hr, -, -, hn⟩ := (hg ▸ h.papers).of_guard
    have hnotifies : c.hasCallback = g.notifies := by rw [Call.hasCallback, hr, hn]; rfl
    have hzero : s.reports i = 0 := h.reports.trans (by rw [hk]; rfl)
    have hregistry : s.registry.contains ⟨i⟩ = true := h.registry.trans (by rw [hk]; rfl)
    subst he
    cases hnote : g.notifies with
    | true =>
      refine ⟨hpapers, hdormant, ?_, ?_, ?_, ?_, hreached⟩
      · exact hregistry.trans (by rw [hk']; rfl)
      · show (s.completions ++ [(i, error)]).countP _ = _
        rw [List.countP_append, hcallback, hnotifies, hnote, hk']
        show s.reports i + _ = _
        rw [hzero]; simp [Custody.hasReported]
      · rw [hscope]; exact h.scope
      · rw [hk']; nofun
    | false =>
      refine ⟨hpapers, hdormant, ?_, ?_, ?_, ?_, hreached⟩
      · exact hregistry.trans (by rw [hk']; rfl)
      · rw [hcallback, hnotifies, hnote, Bool.and_false]; exact hzero
      · rw [hscope]; exact h.scope
      · rw [hk']; nofun
  | removes g hk hk' hg hg' he =>
    subst he
    obtain ⟨-, -, r, -, hgid, -⟩ := (hg ▸ h.papers).of_guard
    refine ⟨hpapers, hdormant, ?_, ?_, ?_, ?_, hreached⟩
    · show (s.registry.remove g.id).contains ⟨i⟩ = _
      rw [Registry.contains_remove, hgid, hk', bne, beq_self_eq_true]; rfl
    · exact h.reports.trans (by rw [hk, hk', hcallback]; rfl)
    · rw [hscope]; exact h.scope
    · rw [hk']; nofun
  | frees g hk hk' hg hg' he =>
    subst he
    obtain ⟨-, -, r, hr, -, hs, -⟩ := (hg ▸ h.papers).of_guard
    have hid : c.scope? = some g.scope := by rw [Call.scope?, hr]; exact hs
    refine ⟨hpapers, hdormant, ?_, ?_, ?_, ?_, hreached⟩
    · exact h.registry.trans (by rw [hk, hk']; rfl)
    · exact h.reports.trans (by rw [hk, hk', hcallback]; rfl)
    · rw [hscope]
      intro id hid
      exact Nat.lt_of_lt_of_le (h.scope id hid) (Scopes.grows_signal s.scopes g.scope).length_le
    · rw [hscope, hid]
      rintro - id hsome
      cases hsome
      exact Scopes.isCancelled_signal (h.scope g.scope hid)

/-- An event of the call itself keeps its account. -/
theorem Keeps.event {e : CallEvent} (h : s.Keeps i c) :
    ((s.update i fun _ => c.on s.config e).noteReached i c (c.on s.config e)).Keeps i
      (c.on s.config e) := by
  have hcore := Call.core_on s.config c e
  have hstage : (c.on s.config e).stage = c.stage := Call.stage_on s.config c e
  have hroute : (c.on s.config e).route = c.route := congrArg Core.route hcore
  have hguard : (c.on s.config e).guard = c.guard := congrArg Core.guard hcore
  have hscope : (c.on s.config e).scope? = c.scope? := by rw [Call.scope?, Call.scope?, hroute]
  have hcallback : (c.on s.config e).hasCallback = c.hasCallback := by
    rw [Call.hasCallback, Call.hasCallback, hroute]
  have hdormant (hu : (c.on s.config e).stage.isUnlaunched = true) :
      (c.on s.config e).Dormant := by
    rw [hstage] at hu
    exact (h.dormant hu).on fun ho => by rw [ho] at hu; cases hu
  unfold noteReached
  split
  · next hr =>
    refine ⟨?_, hdormant, ?_, ?_, ?_, ?_, fun hu => ?_⟩
    · rw [hstage, hroute, hguard]; exact h.papers
    · rw [hstage]; exact h.registry
    · rw [hstage, hcallback]; exact h.reports
    · rw [hscope]; exact h.scope
    · rw [hstage, hscope]; exact h.released
    · rw [(hdormant hu).request, Bool.and_eq_true] at hr
      cases hr.2
  · refine ⟨?_, hdormant, ?_, ?_, ?_, ?_, ?_⟩
    · rw [hstage, hroute, hguard]; exact h.papers
    · rw [hstage]; exact h.registry
    · rw [hstage, hcallback]; exact h.reports
    · rw [hscope]; exact h.scope
    · rw [hstage, hscope]; exact h.released
    · rw [hstage]; exact h.reached

/-- So does the director's decision on it. -/
theorem Keeps.decided {decision : Except Status (Route String Unit)} (h : s.Keeps i c)
    (hc : s.calls[i]? = some c) (ha : s.Admits (.decide i decision))
    (hd : s.Decided i decision s') : ∃ c', s'.calls[i]? = some c' ∧ s'.Keeps i c' := by
  cases hd with
  | late => exact ⟨c, hc, h⟩
  | rejected c₁ e hc₁ hs hdec =>
    rw [hc] at hc₁; cases hc₁
    refine ⟨_, getElem?_modify_self hc, ?_⟩
    obtain ⟨hpapers, hdormant, hregistry, hreports, hscope, -, hreached⟩ := h
    rw [hs] at hpapers hdormant hregistry hreports hreached
    obtain ⟨hup, hrequest, hresponse⟩ := hdormant rfl
    exact ⟨hpapers, fun _ => ⟨hup, hrequest, hresponse⟩, hregistry, hreports, hscope, nofun,
      hreached⟩
  | routed c₁ context route hc₁ hs hdec =>
    rw [hc] at hc₁; cases hc₁
    refine ⟨_, getElem?_modify_self hc, ?_⟩
    obtain ⟨-, hdormant, hregistry, hreports, -, -, hreached⟩ := h
    rw [hs] at hdormant hregistry hreports hreached
    obtain ⟨hup, hrequest, hresponse⟩ := hdormant rfl
    refine ⟨.held nofun nofun rfl rfl rfl, fun _ => ⟨hup, hrequest, hresponse⟩, hregistry,
      hreports, ?_, nofun, hreached⟩
    rintro id hid
    cases hid
    subst hdec
    exact Route.ensureScope_lt ha

theorem keeps_arrival (a : Arrival) (h : s.Sound) :
    (s.arrive a).Keeps s.calls.length (.ofArrival s.config a) := by
  obtain ⟨hregistry, hreports, hreached⟩ := h.absent s.calls.length (by simp)
  exact ⟨.unrouted, fun _ => ⟨rfl, rfl, rfl⟩, hregistry, hreports, nofun, nofun, fun _ => hreached⟩

/-- An event spares every call whose own event it is not. -/
theorem spares_on {e : ServiceEvent} (ha : s.Admits e) (he : ∀ ev, e ≠ .call i ev) :
    Spares s (s.on e) i := by
  have h := untouched_on s e
  refine ⟨by rw [h.registry], by rw [reports, reports, h.completions], fun hr => ?_,
    (Step.event e ha).grows⟩
  cases e with
  | arrive | createScope | cancelScope | shutdown => exact hr
  | decide j decision =>
    have hd := decided_decide s j decision
    change i ∈ (s.decide j decision).reached at hr
    generalize s.decide j decision = s₁ at hd hr
    cases hd <;> exact hr
  | call j ev =>
    have hji : i ≠ j := fun h => he ev (by rw [h])
    change i ∈ (s.onCall j ev).reached at hr
    unfold onCall noteReached at hr
    split at hr
    · exact hr
    · split at hr
      · rcases List.mem_append.1 hr with hr | hr
        · exact hr
        · exact absurd (List.mem_singleton.1 hr) hji
      · exact hr

/-! ## Runs -/

theorem Step.keeps (hs : Step s s') (h : s.Sound) (hc : s.calls[i]? = some c) :
    ∃ c', s'.calls[i]? = some c' ∧ s'.Keeps i c' := by
  have hk := h.calls i c hc
  cases hs with
  | @branch j m r hb =>
    obtain ⟨c₁, hc₁, ht⟩ := branch?_eq_some hb
    rw [calls_after]
    by_cases hj : j = i
    · subst hj
      rw [hc] at hc₁; cases hc₁
      exact ⟨r.1, getElem?_modify_self hc, hk.turn ht⟩
    · have hp := (h.calls j c₁ hc₁).papers
      exact ⟨c, (getElem?_modify_ne hj).trans hc, hk.spares (spares_after hj (ht.handover hp) hp)⟩
  | event e ha =>
    cases e with
    | arrive a =>
      refine ⟨c, ?_, hk.spares (spares_on ha nofun)⟩
      exact (List.getElem?_append_left (List.getElem?_eq_some_iff.1 hc).1).trans hc
    | createScope | cancelScope | shutdown => exact ⟨c, hc, hk.spares (spares_on ha nofun)⟩
    | decide j decision =>
      by_cases hj : j = i
      · subst hj
        exact hk.decided hc ha (decided_decide s j decision)
      · exact ⟨c, (getElem?_decide_ne hj).trans hc, hk.spares (spares_on ha nofun)⟩
    | call j ev =>
      by_cases hj : j = i
      · subst hj
        refine ⟨c.on s.config ev, getElem?_onCall_self hc, ?_⟩
        rw [on, onCall_of_getElem? hc]
        exact hk.event
      · refine ⟨c, (getElem?_onCall_ne hj).trans hc, hk.spares (spares_on ha fun ev' h => ?_)⟩
        cases h; exact hj rfl

/-- What is known of calls that have not arrived stays nothing. -/
theorem Step.spares (hs : Step s s') (h : s.Sound) (hi : s.calls[i]? = none) :
    Spares s s' i := by
  cases hs with
  | @branch j m r hb =>
    obtain ⟨c, hc, ht⟩ := branch?_eq_some hb
    have hp := (h.calls j c hc).papers
    have hj : j ≠ i := fun hj => by rw [hj, hi] at hc; cases hc
    exact spares_after hj (ht.handover hp) hp
  | event e ha =>
    by_cases he : ∃ ev, e = .call i ev
    · obtain ⟨ev, rfl⟩ := he
      rw [show s.on (.call i ev) = s by rw [on, onCall, hi]]
      exact ⟨rfl, rfl, id, .refl _⟩
    · exact spares_on ha fun ev h => he ⟨ev, h⟩

theorem Step.sound (hs : Step s s') (h : s.Sound) : s'.Sound where
  calls i c' hc' := by
    rcases hs.calls_back hc' with ⟨c, hc⟩ | ⟨hi, a, rfl, rfl⟩
    · obtain ⟨c₁, hc₁, hk⟩ := hs.keeps h hc
      rw [hc'] at hc₁; cases hc₁
      exact hk
    · rw [← hi]; exact keeps_arrival a h
  absent i hi := by
    have hn : s.calls[i]? = none := by
      cases hc : s.calls[i]? with
      | none => rfl
      | some c =>
        obtain ⟨c', hc', -⟩ := hs.moves hc
        rw [hi] at hc'; cases hc'
    obtain ⟨hregistry, hreports, hreached⟩ := h.absent i hn
    have hspares := hs.spares h hn
    exact ⟨hspares.registry.trans hregistry, hspares.reports.trans hreports,
      fun hr => hreached (hspares.reached hr)⟩

theorem sound_ofConfig (config : Config) : (ofConfig config).Sound where
  calls i c hc := by simp [ofConfig] at hc
  absent i _ := ⟨rfl, rfl, by simp [ofConfig]⟩

/-- The custody of every call accounts for what the shared state says of it, in every run. -/
theorem Run.sound (h : Run (.ofConfig config) s) : s.Sound := by
  induction h with
  | refl => exact sound_ofConfig config
  | tail _ hs ih => exact hs.sound ih

/-! ## Release -/

/-- A call that has a route keeps it, and one that is over stays over. -/
theorem Moves.keeps_route {route : Route String Unit} (hm : s.Moves i c c')
    (hp : Papers i c.stage.custody c.route c.guard) (hr : c.route = some route) :
    c'.route = some route ∧ (c.isOver = true → c'.isOver = true) := by
  have hresolving : c.stage ≠ .resolving := fun hs => by
    rw [hs, hr] at hp
    exact hp.ne_unrouted rfl
  cases hm with
  | rests => exact ⟨hr, id⟩
  | turn m e ht =>
    refine ⟨ht.route.trans hr, fun ho => ?_⟩
    unfold Call.isOver at ho ⊢
    split at ho
    · next ending hs => rw [ht.over hs]
    · cases ho
  | event e =>
    refine ⟨(congrArg Core.route (Call.core_on s.config c e)).trans hr, fun ho => ?_⟩
    rw [Call.isOver, Call.stage_on]
    exact ho
  | rejected _ hs | routed _ _ _ hs => exact absurd hs hresolving

theorem Run.keeps_route {route : Route String Unit} (hr : Run s s') (h : s.Sound)
    (hc : s.calls[i]? = some c) (hroute : c.route = some route) :
    s'.Sound ∧ ∃ c', s'.calls[i]? = some c' ∧ c'.route = some route ∧
      (c.isOver = true → c'.isOver = true) := by
  induction hr with
  | refl => exact ⟨h, c, hc, hroute, id⟩
  | tail _ hs ih =>
    obtain ⟨hsound, c₁, hc₁, hr₁, ho₁⟩ := ih
    obtain ⟨c₂, hc₂, hm⟩ := hs.moves hc₁
    obtain ⟨hr₂, ho₂⟩ := hm.keeps_route (hsound.calls i c₁ hc₁).papers hr₁
    exact ⟨hs.sound hsound, c₂, hc₂, hr₂, fun ho => ho₂ (ho₁ ho)⟩

theorem Keeps.custody_of_over {route : Route String Unit} (h : s.Keeps i c)
    (hr : c.route = some route) (ho : c.isOver = true) : c.stage.custody = .released := by
  have hpapers := h.papers
  unfold Call.isOver at ho
  split at ho
  · next ending hs =>
    rw [hs, hr] at hpapers
    rw [hs, Stage.custody]
    cases he : ending.isRouted with
    | true => rfl
    | false =>
      simp only [Stage.custody, he] at hpapers
      exact absurd rfl hpapers.ne_unrouted
  · cases ho

/-- A call with a route that is over has been released. -/
theorem Keeps.of_over {route : Route String Unit} (h : s.Keeps i c) (hr : c.route = some route)
    (ho : c.isOver = true) :
    s.reports i = (if route.onDone.isSome then 1 else 0) ∧ s.registry.contains ⟨i⟩ = false ∧
      ∃ scope, route.scope = some scope ∧ s.scopes.isCancelled scope = true := by
  have hpapers := h.papers
  have hk := h.custody_of_over hr ho
  have hcallback : c.hasCallback = route.onDone.isSome := by rw [Call.hasCallback, hr]; rfl
  rw [hk, hr] at hpapers
  obtain ⟨scope, hs⟩ := hpapers.of_released
  refine ⟨?_, ?_, scope, hs, h.released hk scope (by rw [Call.scope?, hr]; exact hs)⟩
  · rw [h.reports, hk, hcallback]; rfl
  · rw [h.registry, hk]; rfl

/-- A call without a route asks for nothing but a route. -/
theorem Keeps.asks {e : Effect} (h : s.Keeps i c) (hc : s.calls[i]? = some c)
    (hr : c.route = none) (ha : Asks i e s s') : e = .consult := by
  obtain ⟨m, c', hb, -⟩ := ha
  obtain ⟨c₁, hc₁, ht⟩ := branch?_eq_some hb
  rw [hc] at hc₁; cases hc₁
  have hk : c.stage.custody = .unrouted := (hr ▸ h.papers).eq_unrouted
  cases ht.handover h.papers with
  | stays _ _ he => cases he
  | consults _ _ _ he => cases he; rfl
  | tracks _ hk' | reports _ _ hk' | removes _ hk' | frees _ hk' => rw [hk] at hk'; cases hk'

/-- **Release exactly once.**  As long as a call has no route, it is not in the registry, no
    callback of it runs, nothing of it has gone to a backend and it has asked for nothing but a
    route.  The callback of a call with a route runs at most once; from the end of the call on, it
    has run exactly once, the call is not in the registry and its scope is cancelled. -/
theorem release_exact {config : Config} {t : List (Service × Service)} {s : Service} {i : Nat}
    {c : Call} (ht : Trace Step (.ofConfig config) t s) (hc : s.calls[i]? = some c) :
    (c.route = none →
      s.registry.contains ⟨i⟩ = false ∧ s.reports i = 0 ∧ c.Dormant ∧ i ∉ s.reached ∧
        ∀ e, Along (Asks i e) t → e = .consult) ∧
    (∀ route, c.route = some route →
      s.reports i ≤ (if route.onDone.isSome then 1 else 0) ∧
      (c.isOver = true → ∀ s', Run s s' →
        ∃ c', s'.calls[i]? = some c' ∧ c'.isOver = true ∧ c'.route = some route ∧
          s'.reports i = (if route.onDone.isSome then 1 else 0) ∧
          s'.registry.contains ⟨i⟩ = false ∧
          ∃ scope, route.scope = some scope ∧ s'.scopes.isCancelled scope = true)) := by
  have hsound : s.Sound := Run.sound ht.run
  have hkeeps := hsound.calls i c hc
  refine ⟨fun hr => ?_, fun route hr => ⟨?_, fun ho s' hrun => ?_⟩⟩
  · have hk : c.stage.custody = .unrouted := (hr ▸ hkeeps.papers).eq_unrouted
    have hu := Stage.isUnlaunched_of_unrouted hk
    refine ⟨?_, ?_, hkeeps.dormant hu, hkeeps.reached hu, ?_⟩
    · rw [hkeeps.registry, hk]; rfl
    · rw [hkeeps.reports, hk]; rfl
    · rintro e ⟨⟨u, v⟩, hmem, ha⟩
      obtain ⟨t₁, t₂, -, ht₁, hs, hrun⟩ := ht.split hmem
      have hu : u.Sound := Run.sound ht₁.run
      have ⟨m, c₁', hb, _⟩ := ha
      obtain ⟨c₁, hc₁, -⟩ := branch?_eq_some hb
      refine (hu.calls i c₁ hc₁).asks hc₁ ?_ ha
      cases hr₁ : c₁.route with
      | none => rfl
      | some route =>
        -- a route that the call had then it would still have
        obtain ⟨-, c₂, hc₂, hr₂, -⟩ := Run.keeps_route (.head hs hrun) hu hc₁ hr₁
        rw [hc] at hc₂; cases hc₂
        rw [hr] at hr₂; cases hr₂
  · have hcallback : c.hasCallback = route.onDone.isSome := by rw [Call.hasCallback, hr]; rfl
    rw [hkeeps.reports, hcallback]
    cases c.stage.custody.hasReported <;> cases route.onDone.isSome <;> simp
  · obtain ⟨hsound', c', hc', hr', ho'⟩ := Run.keeps_route hrun hsound hc hr
    have hover := ho' ho
    exact ⟨c', hc', hover, hr', (hsound'.calls i c' hc').of_over hr' hover⟩

/-- A call whose route names a method that cannot be called. -/
theorem release_exact_of_refused :
    ∃ t s c, Trace Step (.ofConfig .default) t s ∧ s.calls[0]? = some c ∧ c.isOver = true ∧
      s.reports 0 = 1 ∧ s.registry.contains ⟨0⟩ = false ∧
      ∃ scope, s.scopes.isCancelled scope = true := by
  have hnew : Trace Step (.ofConfig .default) [] _ := .refl
  have harrived := hnew.tail (.event (.arrive ⟨"/a/b", none, {}, none⟩) trivial)
  have hconsulted := harrived.tail (.branch 0 .accept rfl)
  have hrouted := hconsulted.tail
    (.event (.decide 0 (.ok (((Route.toBackend "up").withMethod "").withCallback ()))) nofun)
  have htracked := hrouted.tail (.branch 0 .track rfl)
  have hrefused := htracked.tail (.branch 0 .launch rfl)
  have hreported := hrefused.tail (.branch 0 .release rfl)
  have hremoved := hreported.tail (.branch 0 .release rfl)
  have ht := hremoved.tail (.branch 0 .release rfl)
  obtain ⟨-, hover⟩ := (release_exact (i := 0) ht rfl).2 _ rfl
  obtain ⟨c', hc', hover', -, hreports, hregistry, scope, -, hscope⟩ := hover rfl _ .refl
  exact ⟨_, _, c', ht, hc', hover', hreports, hregistry, scope, hscope⟩

end Service

end GrpcRelay
