/-
  Draining — what a cancelled scope and a shutdown leave behind once the tasks
  have come to rest.

  Every wait of a call ends when its scope is cancelled but one: the response
  loop that has a final status to hand on waits for room in its channel, and
  only its caller can make room or leave (`Call.Stalled`).
-/
import GrpcRelay.Proofs.Service.Rest

namespace GrpcRelay

/-- The final status waits for room in the channel to a caller that is there and takes nothing. -/
structure Call.Stalled (c : Call) : Prop where
  stage : c.stage = .relaying
  position : ∃ e o, c.down.position = .delivering e o
  receiverOpen : c.down.sink.receiverOpen = true
  full : c.down.sink.hasRoom = false

theorem Scopes.isCancelled_cancelAll {s : Scopes} {r : Registry} {e : CallId × ActiveCall}
    (he : e ∈ r.entries) (h : e.2.scope < s.nodes.length) :
    (r.cancelAll s).1.isCancelled e.2.scope = true := by
  show (r.entries.foldl (fun s e => s.signal e.2.scope) s).isCancelled e.2.scope = true
  generalize r.entries = es at he
  induction es generalizing s with
  | nil => cases he
  | cons e' es ih =>
    -- a scope that was signalled stays so while the others are
    rcases List.mem_cons.1 he with rfl | he
    · exact (Scopes.grows_cancelAll ⟨es⟩ (s.signal e.2.scope)).isCancelled _
        (Scopes.isCancelled_signal h)
    · exact ih (Nat.lt_of_lt_of_le h (Scopes.grows_signal s e'.2.scope).length_le) he

namespace Service

variable {config : Config} {s s' : Service} {i : Nat} {c c' : Call} {e : CallId × ActiveCall}

/-! ## The entries of the registry -/

theorem Step.entries (hs : Step s s') (he : e ∈ s'.registry.entries) :
    e ∈ s.registry.entries ∨ ∃ i g, Asks i (.track g) s s' ∧ e = (g.id, g.call) := by
  cases hs with
  | @branch i m r hb =>
    obtain ⟨c', eff⟩ := r
    cases eff with
    | none => exact .inl he
    | some eff =>
      cases eff with
      | consult | report | signal => exact .inl he
      | track g =>
        rcases List.mem_append.1 he with he | he
        · exact .inl (List.mem_filter.1 he).1
        · exact .inr ⟨i, g, ⟨m, c', hb, rfl⟩, List.mem_singleton.1 he⟩
      | remove id => exact .inl (List.mem_filter.1 he).1
  | event ev => exact .inl ((untouched_on s ev).registry ▸ he)

/-- An entry of the registry is that of a call with its scope. -/
theorem Run.entry (hr : Run (.ofConfig config) s) (he : e ∈ s.registry.entries) :
    ∃ i c, e.1 = ⟨i⟩ ∧ s.calls[i]? = some c ∧ c.scope? = some e.2.scope := by
  induction hr with
  | refl => cases he
  | @tail s₁ s₂ hr hs ih =>
    have hsound := Run.sound hr
    rcases hs.entries he with he₁ | ⟨i, g, ⟨m, c₁, hb, rfl⟩, rfl⟩
    · obtain ⟨i, c, hid, hc, hscope⟩ := ih he₁
      obtain ⟨route, hroute, hrs⟩ := Option.bind_eq_some_iff.1 hscope
      obtain ⟨-, c', hc', hroute', -⟩ := Run.keeps_route (.single hs) hsound hc hroute
      exact ⟨i, c', hid, hc', (scope?_of_route hroute').trans hrs⟩
    · obtain ⟨c, hc, ht⟩ := branch?_eq_some hb
      have hpapers := (hsound.calls i c hc).papers
      cases ht.handover hpapers with
      | tracks g' hk hk' hg hg' heff =>
        cases heff
        obtain ⟨-, -, route, hroute, hid, hscope, -⟩ := (hg ▸ hpapers).of_guard
        refine ⟨i, c₁, hid, ?_, ?_⟩
        · rw [calls_after]; exact getElem?_modify_self hc
        · exact (scope?_of_route (ht.route.trans hroute)).trans hscope
      | stays _ _ heff | consults _ _ _ heff | removes _ _ _ _ _ heff | frees _ _ _ _ _ heff =>
        cases heff
      | reports g' _ _ _ _ _ heff => split at heff <;> cases heff

/-! ## Cancelled scopes -/

theorem Run.grows (hr : Run s s') : s.scopes.Grows s'.scopes := by
  induction hr with
  | refl => exact .refl _
  | tail _ hs ih => exact ih.trans hs.grows

/-- A call whose scope is cancelled has a route, and stays cancelled. -/
theorem Run.isCancelled (hr : Run (.ofConfig config) s) (hc : s.calls[i]? = some c)
    (h : s.isCancelled c = true) (hrun : Run s s') :
    ∃ route c', s'.calls[i]? = some c' ∧ c.route = some route ∧ c'.route = some route ∧
      s'.isCancelled c' = true := by
  unfold Service.isCancelled at h
  split at h
  · next id hscope =>
    obtain ⟨route, hroute, hrs⟩ := Option.bind_eq_some_iff.1 hscope
    obtain ⟨-, c', hc', hroute', -⟩ := Run.keeps_route hrun (Run.sound hr) hc hroute
    refine ⟨route, c', hc', hroute, hroute', ?_⟩
    rw [Service.isCancelled, scope?_of_route hroute', hrs]
    exact (Run.grows hrun).isCancelled id h
  · cases h

/-- Nothing of the call is left: it is over, its loops have returned if they were ever started,
    its callback has run, and the registry does not contain it. -/
structure Drained (s : Service) (i : Nat) (c : Call) : Prop where
  isOver : c.isOver = true
  up : c.up.position ≠ .idle → c.up.hasReturned = true
  down : c.down.position ≠ .idle → c.down.hasReturned = true
  reports : s.reports i = if c.hasCallback then 1 else 0
  registry : s.registry.contains ⟨i⟩ = false

/-- The call is stalled: its response loop has not returned, its callback has not run, and the
    registry contains it. -/
structure Held (s : Service) (i : Nat) (c : Call) : Prop where
  stalled : c.Stalled
  down : c.down.hasReturned = false
  reports : s.reports i = 0
  registry : s.registry.contains ⟨i⟩ = true

theorem Keeps.held (h : s.Keeps i c) (hc : c.Stalled) : s.Held i c := by
  obtain ⟨e, o, hp⟩ := hc.position
  refine ⟨hc, ?_, ?_, ?_⟩
  · rw [ResponseLoop.hasReturned, ResponseLoop.outcome?, hp]; rfl
  · rw [h.reports, hc.stage]; rfl
  · rw [h.registry, hc.stage]; rfl

/-- The loops of a call that is over have returned, if they were ever started. -/
theorem AtRest.drained {route : Route String Unit} (h : s.AtRest)
    (hr : Run (.ofConfig config) s) (hc : s.calls[i]? = some c) (hroute : c.route = some route)
    (hcancel : s.isCancelled c = true) (ho : c.isOver = true) : s.Drained i c := by
  have hcallback : c.hasCallback = route.onDone.isSome := by rw [Call.hasCallback, hroute]; rfl
  obtain ⟨hreports, hregistry, -⟩ := ((Run.sound hr).calls i c hc).of_over hroute ho
  refine ⟨ho, (h.rests hc).up.returned ?_, fun hp => ?_, hcallback ▸ hreports, hregistry⟩
  · rw [Abort.isCancelled, hcancel, Bool.or_true]
  · have hdown := (Run.poised hr hc).down
    unfold Call.isOver at ho
    split at ho
    · next ending hs =>
      rw [hs] at hdown
      cases ending with
      | relayed o =>
        rw [ResponseLoop.hasReturned, ResponseLoop.outcome?, show c.down.position = _ from hdown]
        rfl
      | rejected | forsaken | refused | abandoned => exact absurd hdown hp
    · cases ho

/-- What a call with a cancelled scope has come to when the service is at rest. -/
theorem AtRest.drained_or_held {route : Route String Unit} (h : s.AtRest)
    (hr : Run (.ofConfig config) s) (hc : s.calls[i]? = some c) (hroute : c.route = some route)
    (hcancel : s.isCancelled c = true) : s.Drained i c ∨ s.Held i c := by
  have hkeeps := (Run.sound hr).calls i c hc
  have hcancel' : c.abort.isCancelled (s.isCancelled c) = true := by
    rw [Abort.isCancelled, hcancel, Bool.or_true]
  -- all waits watch the scope but the first, which is over once there is a route, and delivery
  cases h.waits hr hc with
  | decision hs =>
    have hpapers := hkeeps.papers
    rw [hs, hroute] at hpapers
    exact absurd rfl hpapers.ne_unrouted
  | answer _ _ hn | item _ _ hn | room _ _ _ hn => rw [hcancel'] at hn; cases hn
  | delivery e o hs hp ho hm => exact .inr (hkeeps.held ⟨hs, ⟨e, o, hp⟩, ho, hm⟩)
  | nothing ending hs => exact .inl (h.drained hr hc hroute hcancel (by rw [Call.isOver, hs]))

theorem Run.drained_or_held (hr : Run (.ofConfig config) s) (hc : s.calls[i]? = some c)
    (hcancel : s.isCancelled c = true) (hrun : Run s s') (hrest : s'.AtRest) :
    ∃ c', s'.calls[i]? = some c' ∧ c'.route = c.route ∧ (s'.Drained i c' ∨ s'.Held i c') := by
  obtain ⟨route, c', hc', hroute, hroute', hcancel'⟩ := Run.isCancelled hr hc hcancel hrun
  exact ⟨c', hc', hroute'.trans hroute.symm,
    hrest.drained_or_held (hr.trans hrun) hc' hroute' hcancel'⟩

/-! ## Shutdown -/

/-- A call that is tracked has its scope cancelled by a shutdown. -/
theorem Run.isCancelled_shutdown (hr : Run (.ofConfig config) s)
    (h : s.registry.contains ⟨i⟩ = true) :
    ∃ c, s.shutdown.calls[i]? = some c ∧ s.shutdown.isCancelled c = true := by
  rw [Registry.contains_eq_any, List.any_eq_true] at h
  obtain ⟨e, he, hid⟩ := h
  obtain ⟨j, c, hj, hc, hscope⟩ := Run.entry hr he
  obtain rfl : j = i := by rw [beq_iff_eq, hj] at hid; exact CallId.mk.inj hid
  refine ⟨c, hc, ?_⟩
  rw [Service.isCancelled, hscope]
  exact Scopes.isCancelled_cancelAll he (((Run.sound hr).calls j c hc).scope _ hscope)

/-- **Draining.**  A call whose scope is cancelled has been drained once the tasks have come to
    rest, unless its final status waits for room in the channel to a caller that is there and
    takes nothing; such a call is held.  So what a shutdown leaves tracked are the calls that are
    held.  The tasks do come to rest, in whatever order they run. -/
theorem drains_unless_stalled {config : Config} {s : Service} (hr : Run (.ofConfig config) s) :
    (∀ i c, s.calls[i]? = some c → s.isCancelled c = true → ∀ s', Run s s' → s'.AtRest →
      ∃ c', s'.calls[i]? = some c' ∧ c'.route = c.route ∧
        (¬ c'.Stalled → s'.Drained i c') ∧ (c'.Stalled → s'.Held i c')) ∧
    (∀ s', Run s.shutdown s' → s'.AtRest → ∀ i, s.registry.contains ⟨i⟩ = true →
      (s'.registry.contains ⟨i⟩ = true ↔ ∃ c', s'.calls[i]? = some c' ∧ c'.Stalled)) ∧
    (∀ t s', Trace (StepOf fun _ => False) s t s' → t.length + s'.work ≤ s.work) := by
  refine ⟨fun i c hc hcancel s' hrun hrest => ?_, fun s' hrun hrest i hi => ?_,
    fun t s' ht => length_le_work ht⟩
  · obtain ⟨c', hc', hroute, hdrained⟩ := Run.drained_or_held hr hc hcancel hrun hrest
    refine ⟨c', hc', hroute, fun hs => ?_, ((Run.sound (hr.trans hrun)).calls i c' hc').held⟩
    exact hdrained.resolve_right fun hheld => hs hheld.stalled
  · have hshut : Run (.ofConfig config) s.shutdown := hr.tail (.event .shutdown trivial)
    obtain ⟨c, hc, hcancel⟩ := Run.isCancelled_shutdown hr hi
    obtain ⟨c', hc', -, hdrained⟩ := Run.drained_or_held hshut hc hcancel hrun hrest
    constructor
    · intro htracked
      rcases hdrained with hd | hh
      · rw [hd.registry] at htracked; cases htracked
      · exact ⟨c', hc', hh.stalled⟩
    · rintro ⟨c₂, hc₂, hs⟩
      exact (((Run.sound (hshut.trans hrun)).calls i c₂ hc₂).held hs).registry

/-- A call whose caller takes nothing while a frame waits for it. -/
structure Crowded (s : Service) (c : Call) : Prop where
  calls : s.calls = [c]
  scopes : s.scopes = ⟨[⟨none, false⟩]⟩
  scope : c.scope? = some 0
  stage : c.stage = .relaying
  here : c.left = false
  up : c.up.position = .reading
  down : c.down.position = .reading
  request : c.request.ready = false
  receiverOpen : c.down.sink.receiverOpen = true
  full : c.down.sink.hasRoom = false

theorem exists_crowded : ∃ s c, Run (.ofConfig capped) s ∧ Crowded s c := by
  have hfed := (RunOf.run run_relaying).tail
    (.event (.call 0 (.respond (Frame.wire ⟨⟨#[1]⟩⟩))) trivial)
  have hread := hfed.tail (.branch 0 (.down .read) rfl)
  have hsent := hread.tail (.branch 0 (.down .send) rfl)
  exact ⟨_, _, hsent, rfl, rfl, rfl, rfl, rfl, rfl, rfl, rfl, rfl, rfl⟩

theorem Crowded.isCancelled (h : Crowded s c) :
    Service.isCancelled { s with scopes := s.scopes.signal 0 } c = true := by
  rw [Service.isCancelled, h.scope]
  exact Scopes.isCancelled_signal (by rw [h.scopes]; exact Nat.zero_lt_one)

/-- The call once its response loop has seen that its scope is cancelled. -/
def told (c : Call) : Call :=
  { c with down := { c.down with position := .delivering c.abort.reason (.error c.abort.reason) } }

/-- The call once both loops have seen it. -/
def stalled (c : Call) : Call := { told c with up := c.up.leave .cancelled }

theorem Crowded.rests (h : Crowded s c) (config : Config) (scope : Bool) :
    (stalled c).Rests config scope := by
  obtain ⟨-, -, -, hs, hl, -, -, hready, hr, hm⟩ := h
  intro m
  cases m with
  | down m => cases m <;> simp [Call.step?, stalled, told, hs, ResponseLoop.step?, hr, hm]
  | up m => cases m <;> simp [Call.step?, stalled, told, RequestLoop.step?, RequestLoop.leave]
  | abandon => simp [Call.step?, stalled, told, Call.abandon, hl]
  | forward => simp [Call.step?, stalled, told, Call.forward, hready]
  | finishRequest => simp [Call.step?, stalled, told, Call.finishRequest, hready]
  | settle => simp [Call.step?, stalled, told, hs, ResponseLoop.outcome?]
  | accept | track | launch | quit | opened | record | signal | join | close | await | release =>
    simp [Call.step?, stalled, told, hs]

theorem Crowded.run (h : Crowded s c) :
    Run { s with scopes := s.scopes.signal 0 }
      { s with scopes := s.scopes.signal 0, calls := [stalled c] } := by
  have hcancel := h.isCancelled
  have hquit : c.step? s.config true (.down .quit) = some (told c, none) := by
    simp [Call.step?, ResponseLoop.step?, h.stage, h.down, Abort.isCancelled, told]
  have hstop : (told c).step? s.config true (.up .quit) = some (stalled c, none) := by
    simp [Call.step?, RequestLoop.step?, h.up, Abort.isCancelled, told, stalled]
  exact .tail (.single (.alone h.calls (hcancel ▸ hquit))) (.alone rfl (hcancel ▸ hstop))

/-- The scope of this call is cancelled. -/
theorem exists_stalled :
    ∃ s c s' c', Run (.ofConfig capped) s ∧ s.calls[0]? = some c ∧ s.isCancelled c = true ∧
      Run s s' ∧ s'.AtRest ∧ s'.calls[0]? = some c' ∧ c'.Stalled := by
  obtain ⟨s, c, hrun, h⟩ := exists_crowded
  have hcancelled := hrun.tail (.event (.cancelScope 0) trivial)
  refine ⟨_, c, _, _, hcancelled, ?_, h.isCancelled, h.run, ?_, rfl, ?_⟩
  · show s.calls[0]? = some c
    rw [h.calls]; rfl
  · exact atRest_of_alone rfl (h.rests _ _)
  · exact ⟨h.stage, ⟨_, _, rfl⟩, h.receiverOpen, h.full⟩

/-- What is left of a call whose caller takes nothing. -/
theorem drains_unless_stalled_of_crowded :
    ∃ s s' c', Run (.ofConfig capped) s ∧ Run s s' ∧ s'.AtRest ∧ s'.calls[0]? = some c' ∧
      s'.Held 0 c' := by
  obtain ⟨s, c, s', c', hr, hc, hcancel, hrun, hrest, hc', hs⟩ := exists_stalled
  obtain ⟨c₂, hc₂, -, -, hheld⟩ :=
    (drains_unless_stalled hr).1 0 c hc hcancel s' hrun hrest
  rw [hc'] at hc₂; cases hc₂
  exact ⟨s, s', c', hr, hrun, hrest, hc', hheld hs⟩

/-- So a cancelled scope does not drain every call. -/
theorem not_drains :
    ¬ ∀ (config : Config) (s : Service) (i : Nat) (c : Call), Run (.ofConfig config) s →
      s.calls[i]? = some c → s.isCancelled c = true → ∀ s', Run s s' → s'.AtRest →
        ∃ c', s'.calls[i]? = some c' ∧ s'.Drained i c' := by
  intro h
  obtain ⟨s, c, s', c', hr, hc, hcancel, hrun, hrest, hc', hs⟩ := exists_stalled
  obtain ⟨c₂, hc₂, hdrained⟩ := h capped s 0 c hr hc hcancel s' hrun hrest
  rw [hc'] at hc₂; cases hc₂
  have htracked := (((Run.sound (hr.trans hrun)).calls 0 c' hc').held hs).registry
  rw [hdrained.registry] at htracked; cases htracked

end Service

end GrpcRelay
