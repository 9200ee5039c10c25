/-
  Runs of a service — any branch of any call and any event from outside, in any
  order (`Service.Step`), and what one step can do to one call
  (`Service.Moves`).
-/
import GrpcRelay.Proofs.Call.Custody
import GrpcRelay.Proofs.Registry
import GrpcRelay.Proofs.Trace
import GrpcRelay.Service

namespace GrpcRelay.Service

variable {s s' : Service} {i j : Nat} {c c' : Call}

/-! ## Steps -/

/-- A director can only name a scope that there is. -/
def Admits (s : Service) : ServiceEvent → Prop
  | .decide _ (.ok route) => ∀ id, route.scope = some id → id < s.scopes.nodes.length
  | _ => True

/-- One branch of one call, or one event. -/
inductive Step : Service → Service → Prop
  | branch {s : Service} (i : Nat) (m : CallMove) {r : Call × Option Effect}
      (h : s.branch? i m = some r) : Step s (s.after i r)
  | event {s : Service} (e : ServiceEvent) (h : s.Admits e) : Step s (s.on e)

/-- One branch of one call, or one of these events. -/
inductive StepOf (E : ServiceEvent → Prop) : Service → Service → Prop
  | branch {s : Service} (i : Nat) (m : CallMove) {r : Call × Option Effect}
      (h : s.branch? i m = some r) : StepOf E s (s.after i r)
  | event {s : Service} (e : ServiceEvent) (h : s.Admits e) (he : E e) : StepOf E s (s.on e)

theorem StepOf.step {E : ServiceEvent → Prop} (h : StepOf E s s') : Step s s' := by
  cases h with
  | branch i m h => exact .branch i m h
  | event e h => exact .event e h

theorem Step.stepOf (h : Step s s') : StepOf (fun _ => True) s s' := by
  cases h with
  | branch i m h => exact .branch i m h
  | event e h => exact .event e h trivial

/-- Runs of a service, in any order of its steps. -/
abbrev Run : Service → Service → Prop := Relation.ReflTransGen Step

/-- Runs of a service whose events are among these. -/
abbrev RunOf (E : ServiceEvent → Prop) : Service → Service → Prop :=
  Relation.ReflTransGen (StepOf E)

/-- Call `i` takes a branch that asks for this effect. -/
def Asks (i : Nat) (e : Effect) (s s' : Service) : Prop :=
  ∃ m c', s.branch? i m = some (c', some e) ∧ s' = s.after i (c', some e)

theorem branch?_eq_some {m : CallMove} {r : Call × Option Effect} (h : s.branch? i m = some r) :
    ∃ c, s.calls[i]? = some c ∧ c.Turn s.config (s.isCancelled c) m r.1 r.2 := by
  obtain ⟨c, hc, hr⟩ := Option.bind_eq_some_iff.1 h
  exact ⟨c, hc, Call.turn_of_step? hr⟩

/-! ## The calls -/

@[simp] theorem calls_perform (s : Service) (i : Nat) (e : Effect) :
    (s.perform i e).calls = s.calls := by
  cases e <;> rfl

@[simp] theorem calls_after (s : Service) (i : Nat) (r : Call × Option Effect) :
    (s.after i r).calls = s.calls.modify i fun _ => r.1 := by
  unfold after
  split
  · rfl
  · rw [calls_perform]; rfl

@[simp] theorem calls_noteReached (s : Service) (i : Nat) (before after : Call) :
    (s.noteReached i before after).calls = s.calls := by
  unfold noteReached
  split <;> rfl

theorem getElem?_modify_self {f : Call → Call} (h : s.calls[i]? = some c) :
    (s.calls.modify i f)[i]? = some (f c) := by
  simp [h]

theorem getElem?_modify_ne {f : Call → Call} (h : i ≠ j) :
    (s.calls.modify i f)[j]? = s.calls[j]? := by
  simp [h]

/-- What a decision of the director comes to. -/
inductive Decided (s : Service) (i : Nat) (decision : Except Status (Route String Unit)) :
    Service → Prop
  | late : Decided s i decision s
  | rejected (c : Call) (e : Status) (hc : s.calls[i]? = some c) (hs : c.stage = .resolving)
      (hd : decision = .error e) :
      Decided s i decision
        (s.update i fun c => { c with stage := .over (.rejected e), answer := some (.refused e) })
  | routed (c : Call) (context : CallContext) (route : Route String Unit)
      (hc : s.calls[i]? = some c) (hs : c.stage = .resolving) (hd : decision = .ok route) :
      Decided s i decision
        ({ s with scopes := (route.ensureScope s.scopes).1 }.update i fun c =>
          { c with
            stage := .routed
            route := some (route.withScope (route.ensureScope s.scopes).2)
            guard := some (guardOf i context (route.ensureScope s.scopes).2 route) })

theorem decided_decide (s : Service) (i : Nat) (decision : Except Status (Route String Unit)) :
    s.Decided i decision (s.decide i decision) := by
  unfold decide
  split
  · exact .late
  · next c hc =>
    split
    · next context hs hctx =>
      split
      · exact .late
      · split
        · next e => exact .rejected c e hc hs rfl
        · next route => exact .routed c context route hc hs rfl
    · exact .late

theorem getElem?_decide_ne {decision : Except Status (Route String Unit)} (h : j ≠ i) :
    (s.decide j decision).calls[i]? = s.calls[i]? := by
  have hd := decided_decide s j decision
  generalize s.decide j decision = s₁ at hd ⊢
  cases hd with
  | late => rfl
  | rejected | routed => exact getElem?_modify_ne h

theorem onCall_of_getElem? {e : CallEvent} (hc : s.calls[i]? = some c) :
    s.onCall i e =
      (s.update i fun _ => c.on s.config e).noteReached i c (c.on s.config e) := by
  rw [onCall, hc]

theorem calls_onCall {e : CallEvent} (h : s.calls[i]? = some c) :
    (s.onCall i e).calls = s.calls.modify i fun _ => c.on s.config e := by
  rw [onCall_of_getElem? h, calls_noteReached]
  rfl

theorem getElem?_onCall_self {e : CallEvent} (h : s.calls[i]? = some c) :
    (s.onCall i e).calls[i]? = some (c.on s.config e) := by
  rw [calls_onCall h]
  exact getElem?_modify_self h

theorem getElem?_onCall_ne {e : CallEvent} (h : j ≠ i) :
    (s.onCall j e).calls[i]? = s.calls[i]? := by
  unfold onCall
  split
  · rfl
  · rw [calls_noteReached]; exact getElem?_modify_ne h

/-- An event of the only call, by which the request does not come to the backend. -/
theorem on_alone {e : CallEvent} (hcalls : s.calls = [c]) (hon : c.on s.config e = c')
    (hr : c'.request.reached = c.request.reached) :
    s.on (.call 0 e) = { s with calls := [c'] } := by
  show s.onCall 0 e = _
  rw [onCall_of_getElem? (c := c) (by rw [hcalls]; rfl), hon, noteReached, hr, Bool.not_and_self]
  show s.update 0 _ = _
  rw [update, hcalls]
  rfl

/-- What one step of a service can do to its call `i`, if its event is one of these. -/
inductive MovesOf (E : ServiceEvent → Prop) (s : Service) (i : Nat) (c : Call) : Call → Prop
  | rests : MovesOf E s i c c
  | turn {c' : Call} (m : CallMove) (e : Option Effect)
      (h : c.Turn s.config (s.isCancelled c) m c' e) : MovesOf E s i c c'
  | event (e : CallEvent) (he : E (.call i e)) : MovesOf E s i c (c.on s.config e)
  | rejected (e : Status) (hs : c.stage = .resolving) (he : E (.decide i (.error e))) :
      MovesOf E s i c { c with stage := .over (.rejected e), answer := some (.refused e) }
  | routed (context : CallContext) (route : Route String Unit) (scope : ScopeId)
      (hs : c.stage = .resolving) (he : E (.decide i (.ok route))) :
      MovesOf E s i c
        { c with
          stage := .routed
          route := some (route.withScope scope)
          guard := some (guardOf i context scope route) }

theorem StepOf.moves {E : ServiceEvent → Prop} (hs : StepOf E s s') (hc : s.calls[i]? = some c) :
    ∃ c', s'.calls[i]? = some c' ∧ s.MovesOf E i c c' := by
  cases hs with
  | branch j m h =>
    rw [calls_after]
    obtain ⟨c₁, hc₁, ht⟩ := branch?_eq_some h
    by_cases hj : j = i
    · subst hj
      rw [hc] at hc₁; cases hc₁
      exact ⟨_, getElem?_modify_self hc, .turn m _ ht⟩
    · exact ⟨c, (getElem?_modify_ne hj).trans hc, .rests⟩
  | event e _ he =>
    cases e with
    | arrive a =>
      exact ⟨c, (List.getElem?_append_left (List.getElem?_eq_some_iff.1 hc).1).trans hc, .rests⟩
    | decide j decision =>
      by_cases hj : j = i
      · subst hj
        have hd := decided_decide s j decision
        show ∃ c', (s.decide j decision).calls[j]? = some c' ∧ _
        generalize s.decide j decision = s₁ at hd ⊢
        cases hd with
        | late => exact ⟨c, hc, .rests⟩
        | rejected c₁ e hc₁ hst hdec =>
          rw [hc] at hc₁; cases hc₁
          subst hdec
          exact ⟨_, getElem?_modify_self hc, .rejected e hst he⟩
        | routed c₁ context route hc₁ hst hdec =>
          rw [hc] at hc₁; cases hc₁
          subst hdec
          exact ⟨_, getElem?_modify_self hc, .routed context route _ hst he⟩
      · exact ⟨c, (getElem?_decide_ne hj).trans hc, .rests⟩
    | call j e =>
      by_cases hj : j = i
      · subst hj
        exact ⟨c.on s.config e, getElem?_onCall_self hc, .event e he⟩
      · exact ⟨c, (getElem?_onCall_ne hj).trans hc, .rests⟩
    | createScope | cancelScope | shutdown => exact ⟨c, hc, .rests⟩

/-- What one step of a service can do to its call `i`. -/
abbrev Moves : Service → Nat → Call → Call → Prop := MovesOf fun _ => True

theorem Step.moves (hs : Step s s') (hc : s.calls[i]? = some c) :
    ∃ c', s'.calls[i]? = some c' ∧ s.Moves i c c' :=
  hs.stepOf.moves hc

/-- A call that there is has always been there, or has just arrived. -/
theorem StepOf.calls_back {E : ServiceEvent → Prop} (hs : StepOf E s s')
    (hc : s'.calls[i]? = some c') :
    (∃ c, s.calls[i]? = some c) ∨
      s.calls.length = i ∧ ∃ a, E (.arrive a) ∧ s' = s.arrive a ∧ c' = .ofArrival s.config a := by
  by_cases hlt : i < s.calls.length
  · exact Or.inl ⟨_, List.getElem?_eq_getElem hlt⟩
  · refine Or.inr ?_
    have hlen := (List.getElem?_eq_some_iff.1 hc).1
    cases hs with
    | branch j m h => simp at hlen; omega
    | event e _ he =>
      cases e with
      | arrive a =>
        simp only [on, arrive, List.length_append, List.length_singleton] at hlen
        have hi : s.calls.length = i := by omega
        refine ⟨hi, a, he, rfl, ?_⟩
        subst hi
        simpa [on, arrive] using hc.symm
      | decide j decision =>
        have hd := decided_decide s j decision
        change i < (s.decide j decision).calls.length at hlen
        generalize s.decide j decision = s₁ at hd hlen
        cases hd with
        | late => omega
        | rejected | routed => simp [update] at hlen; omega
      | call j e =>
        simp only [on, onCall] at hlen
        split at hlen
        · omega
        · simp [update] at hlen; omega
      | createScope | cancelScope | shutdown => exact absurd hlen hlt

theorem Step.calls_back (hs : Step s s') (hc : s'.calls[i]? = some c') :
    (∃ c, s.calls[i]? = some c) ∨
      s.calls.length = i ∧ ∃ a, s' = s.arrive a ∧ c' = .ofArrival s.config a :=
  (hs.stepOf.calls_back hc).imp_right fun ⟨hi, a, _, h⟩ => ⟨hi, a, h⟩

/-- Where no request arrives, there are as many calls as before. -/
theorem StepOf.length_calls {E : ServiceEvent → Prop} (hE : ∀ a, ¬ E (.arrive a))
    (hs : StepOf E s s') : s'.calls.length = s.calls.length := by
  refine Nat.le_antisymm ?_ ?_
  · by_contra hlt
    obtain ⟨c, hc⟩ | ⟨-, a, he, -⟩ :=
      hs.calls_back (List.getElem?_eq_getElem (Nat.lt_of_not_le hlt))
    · exact Nat.lt_irrefl _ (List.getElem?_eq_some_iff.1 hc).1
    · exact hE a he
  · by_contra hlt
    obtain ⟨c, hc, -⟩ := hs.moves (List.getElem?_eq_getElem (Nat.lt_of_not_le hlt))
    exact Nat.lt_irrefl _ (List.getElem?_eq_some_iff.1 hc).1

theorem MovesOf.arrival {E : ServiceEvent → Prop} (hm : MovesOf E s i c c') :
    c'.arrival = c.arrival := by
  cases hm with
  | rests | rejected | routed => rfl
  | turn m e ht => exact ht.arrival
  | event e => exact congrArg Core.arrival (Call.core_on s.config c e)

/-- The request of a call goes on, but for the next frame that the connection is ready to take. -/
theorem MovesOf.goesOn {E : ServiceEvent → Prop} (hE : ¬ E (.call i .ready))
    (hm : MovesOf E s i c c') : c.request.GoesOn c'.request := by
  cases hm with
  | rests | rejected | routed => exact .refl _
  | turn m e ht => exact ht.goesOn
  | event e he =>
    refine Call.goesOn_on ?_
    rintro rfl
    exact hE he

/-- A request that has come to its backend has come there for good. -/
theorem MovesOf.reached {E : ServiceEvent → Prop} (hm : MovesOf E s i c c')
    (h : c.request.reached = true) : c'.request.reached = true := by
  cases hm with
  | rests | rejected | routed => exact h
  | turn m e ht => exact ht.goesOn.reached h
  | event e => exact Call.reached_on e h

theorem MovesOf.ordered {E : ServiceEvent → Prop} (hm : MovesOf E s i c c')
    (h : c.request.Ordered) : c'.request.Ordered := by
  cases hm with
  | rests | rejected | routed => exact h
  | turn m e ht => exact ht.goesOn.ordered h
  | event e => exact Call.ordered_on e h

/-- Where no request arrives, every call has been there before. -/
theorem StepOf.moves_back {E : ServiceEvent → Prop} (hE : ∀ a, ¬ E (.arrive a))
    (hs : StepOf E s s') (hc : s'.calls[i]? = some c') :
    ∃ c, s.calls[i]? = some c ∧ s.MovesOf E i c c' := by
  obtain ⟨c, hc₁⟩ | ⟨-, a, he, -⟩ := hs.calls_back hc
  · obtain ⟨c₂, hc₂, hm⟩ := hs.moves hc₁
    rw [hc] at hc₂; cases hc₂
    exact ⟨c, hc₁, hm⟩
  · exact absurd he (hE a)

/-! ## The scopes -/

/-- What one step can do to the scopes, if its event is one of these. -/
inductive RescopesOf (E : ServiceEvent → Prop) (s : Service) : Scopes → Prop
  | same : RescopesOf E s s.scopes
  | created (parent : Option ScopeId) : RescopesOf E s (s.scopes.create parent).1
  | signalled (scope : ScopeId) : RescopesOf E s (s.scopes.signal scope)
  | shutdown (he : E .shutdown) : RescopesOf E s (s.registry.cancelAll s.scopes).1

theorem StepOf.rescopes {E : ServiceEvent → Prop} (hs : StepOf E s s') :
    RescopesOf E s s'.scopes := by
  cases hs with
  | @branch i m r h =>
    obtain ⟨c', e⟩ := r
    cases e with
    | none => exact .same
    | some e =>
      cases e with
      | signal scope => exact .signalled scope
      | consult | track | report | remove => exact .same
  | event e _ he =>
    cases e with
    | arrive => exact .same
    | decide i decision =>
      have hd := decided_decide s i decision
      show RescopesOf E s (s.decide i decision).scopes
      generalize s.decide i decision = s₁ at hd ⊢
      cases hd with
      | late | rejected => exact .same
      | routed c context route =>
        show RescopesOf E s (route.ensureScope s.scopes).1
        unfold Route.ensureScope
        split
        · exact .same
        · exact .created none
    | call i e =>
      show RescopesOf E s (s.onCall i e).scopes
      unfold onCall noteReached
      split
      · exact .same
      · split <;> exact .same
    | createScope parent => exact .created parent
    | cancelScope scope => exact .signalled scope
    | shutdown => exact .shutdown he

/-- Scopes only grow. -/
theorem Step.grows (hs : Step s s') : s.scopes.Grows s'.scopes := by
  have h := hs.stepOf.rescopes
  generalize s'.scopes = scopes at h ⊢
  cases h with
  | same => exact .refl _
  | created parent => exact Scopes.grows_create s.scopes parent
  | signalled scope => exact Scopes.grows_signal s.scopes scope
  | shutdown => exact Scopes.grows_cancelAll s.registry s.scopes

/-! ## What the proxy keeps of its calls -/

/-- The books are the same: nothing was entered, removed or reported. -/
structure Untouched (s s' : Service) : Prop where
  config : s'.config = s.config
  registry : s'.registry = s.registry
  completions : s'.completions = s.completions

/-- Only branches of calls write in the books, no event does. -/
theorem untouched_on (s : Service) (e : ServiceEvent) : Untouched s (s.on e) := by
  cases e with
  | arrive | createScope | cancelScope | shutdown => exact ⟨rfl, rfl, rfl⟩
  | decide i decision =>
    have hd := decided_decide s i decision
    show Untouched s (s.decide i decision)
    generalize s.decide i decision = s₁ at hd ⊢
    cases hd <;> exact ⟨rfl, rfl, rfl⟩
  | call i e =>
    show Untouched s (s.onCall i e)
    unfold onCall noteReached
    split
    · exact ⟨rfl, rfl, rfl⟩
    · split <;> exact ⟨rfl, rfl, rfl⟩

theorem Step.config (hs : Step s s') : s'.config = s.config := by
  cases hs with
  | @branch i m r h =>
    unfold after
    split
    · rfl
    · next e _ => cases e <;> rfl
  | event e => exact (untouched_on s e).config

/-! ## What holds of every call -/

theorem RunOf.run {E : ServiceEvent → Prop} (hr : RunOf E s s') : Run s s' :=
  hr.lift id fun _ _ h => h.step

theorem StepOf.mono {E E' : ServiceEvent → Prop} (hE : ∀ e, E e → E' e) (hs : StepOf E s s') :
    StepOf E' s s' := by
  cases hs with
  | branch i m h => exact .branch i m h
  | event e h he => exact .event e h (hE e he)

theorem RunOf.mono {E E' : ServiceEvent → Prop} (hE : ∀ e, E e → E' e) (hr : RunOf E s s') :
    RunOf E' s s' :=
  hr.lift id fun _ _ h => h.mono hE

theorem Run.runOf (hr : Run s s') : RunOf (fun _ => True) s s' :=
  hr.lift id fun _ _ h => h.stepOf

theorem Run.config (hr : Run s s') : s'.config = s.config := by
  induction hr with
  | refl => rfl
  | tail _ hs ih => exact hs.config.trans ih

/-- What holds of a call at its arrival and is kept by all that one step can do to it. -/
theorem RunOf.calls {E : ServiceEvent → Prop} {config : Config} {P : Nat → Call → Prop}
    (hnew : ∀ i a, P i (.ofArrival config a))
    (hmoves : ∀ {s : Service} {i : Nat} {c c' : Call}, Run (.ofConfig config) s →
      s.calls[i]? = some c → s.MovesOf E i c c' → P i c → P i c')
    (hr : RunOf E (.ofConfig config) s) (hc : s.calls[i]? = some c) : P i c := by
  induction hr generalizing i c with
  | refl => simp [ofConfig] at hc
  | @tail s₁ s₂ hr hs ih =>
    rcases hs.step.calls_back hc with ⟨c₁, hc₁⟩ | ⟨-, a, rfl, rfl⟩
    · obtain ⟨c₂, hc₂, hm⟩ := hs.moves hc₁
      rw [hc] at hc₂; cases hc₂
      exact hmoves (RunOf.run hr) hc₁ hm (ih hc₁)
    · rw [Run.config (RunOf.run hr)]
      exact hnew i a

/-- Every call is that of a request that has arrived. -/
theorem RunOf.arrival {E : ServiceEvent → Prop} {config : Config}
    (hr : RunOf E (.ofConfig config) s) (hc : s.calls[i]? = some c) : E (.arrive c.arrival) := by
  induction hr generalizing i c with
  | refl => simp [ofConfig] at hc
  | @tail s₁ s₂ hr hs ih =>
    rcases hs.calls_back hc with ⟨c₁, hc₁⟩ | ⟨-, a, he, -, rfl⟩
    · obtain ⟨c₂, hc₂, hm⟩ := hs.moves hc₁
      rw [hc] at hc₂; cases hc₂
      rw [hm.arrival]
      exact ih hc₁
    · exact he

/-! ## A call that is relayed -/

/-- Frames of more than two bytes are not sent. -/
def capped : Config := { Config.default with maxEncoding := some 2 }

/-- A route with a scope and a callback that carries nothing on. -/
def plainRoute : Route String Unit := ⟨"up", none, some {}, some 0, some ()⟩

/-- A call that the backend has answered, and nothing else. -/
def relayed : Call :=
  { arrival := ⟨"/a/b", none, {}, none⟩
    stage := .relaying
    left := false
    context := some ⟨⟨"a", "b"⟩, none, {}, none⟩
    route := some plainRoute
    guard := some ⟨⟨0⟩, "/a/b", 0, true⟩
    abort := .fresh
    inbound := some (.start .request none)
    up := (RequestLoop.idle .empty Call.capacity).start
    request := { RequestLeg.unsent with path := ⟨"/a/b".toList, none⟩, reached := true }
    response := ⟨some (.ok {}), some (.start (.response 200) none), true, false, none⟩
    down := (ResponseLoop.idle .empty Call.capacity).start
    answer := some (.opened {})
    heard := [] }

/-- A service that relays this call. -/
def relaying : Service where
  config := capped
  scopes := ⟨[⟨none, false⟩]⟩
  registry := ⟨[(⟨0⟩, ⟨"/a/b", 0⟩)]⟩
  calls := [relayed]
  consulted := [0]
  reached := [0]
  completions := []

/-- What has happened to it from outside. -/
def prelude : List ServiceEvent :=
  [.createScope none, .arrive ⟨"/a/b", none, {}, none⟩, .decide 0 (.ok plainRoute), .call 0 .reach,
    .call 0 (.respondHeaders 200 {})]

theorem run_relaying : RunOf (· ∈ prelude) (.ofConfig capped) relaying := by
  have hnew : RunOf (· ∈ prelude) (.ofConfig capped) _ := .refl
  have hscope := hnew.tail (.event (.createScope none) trivial (by simp [prelude]))
  have harrived := hscope.tail
    (.event (.arrive ⟨"/a/b", none, {}, none⟩) trivial (by simp [prelude]))
  have hconsulted := harrived.tail (.branch 0 .accept rfl)
  have hrouted := hconsulted.tail
    (.event (.decide 0 (.ok plainRoute)) (fun _ h => by cases h; exact Nat.zero_lt_one)
      (by simp [prelude]))
  have htracked := hrouted.tail (.branch 0 .track rfl)
  have hlaunched := htracked.tail (.branch 0 .launch rfl)
  have hreached := hlaunched.tail (.event (.call 0 .reach) trivial (by simp [prelude]))
  have hanswered := hreached.tail
    (.event (.call 0 (.respondHeaders 200 {})) trivial (by simp [prelude]))
  have hopened := hanswered.tail (.branch 0 .opened rfl)
  exact hopened

end GrpcRelay.Service
