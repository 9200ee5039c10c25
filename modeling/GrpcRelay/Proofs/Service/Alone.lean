/-
  Calls alone — what there is of a call in a service that has no other.

  Next to a service with many calls we put one in which only call `i` arrives
  (`Service.Alone`).  Each step of the one is a step of the other, or none
  (`Alone.step`): what the call does, what happens to it and what happens to
  scopes happens to both, and what other calls do happens to the first only
  (`Service.Mirrors`).  The two may come apart where other calls cancel their
  scopes, but not where the call could see it, as long as the scopes of all
  calls are apart (`Service.Apart`).
-/
import GrpcRelay.Proofs.Call.Renaming
import GrpcRelay.Proofs.Forest
import GrpcRelay.Proofs.Service.Release

namespace GrpcRelay

/-- The identifier and the scope that an effect names, if it does, are these. -/
def Effect.Names (i : Nat) (scope : Option ScopeId) : Effect → Prop
  | .track g => g.id = ⟨i⟩
  | .remove id => id = ⟨i⟩
  | .signal a => scope = some a
  | .consult | .report _ => True

/-- A call asks for nothing in the name of another. -/
theorem Call.Handover.names {c c' : Call} {e : Effect} {i : Nat} (h : Handover c c' (some e))
    (hp : Papers i c.stage.custody c.route c.guard) : e.Names i c.scope? := by
  cases h with
  | stays _ _ he => cases he
  | consults _ _ _ he => cases he; trivial
  | tracks g _ _ hg _ he | removes g _ _ hg _ he =>
    cases he
    obtain ⟨-, -, -, -, hid, -⟩ := (hg ▸ hp).of_guard
    exact hid
  | reports g error _ _ _ _ he =>
    split at he <;> cases he
    trivial
  | frees g _ _ hg _ he =>
    cases he
    obtain ⟨-, -, route, hr, -, hs, -⟩ := (hg ▸ hp).of_guard
    exact (Service.scope?_of_route hr).trans hs

namespace Service

variable {s s' v : Service} {i j : Nat} {c c' : Call} {a b : ScopeId}

/-! ## Calls apart -/

/-- No call runs in a scope that is that of another call or lies in it. -/
def Apart (s : Service) : Prop :=
  ∀ (i j : Nat) (c c' : Call) (a b : ScopeId), i ≠ j → s.calls[i]? = some c →
    s.calls[j]? = some c' → c.scope? = some a → c'.scope? = some b → ¬ s.scopes.Within a b

/-- Another call than call `i` runs in this scope. -/
def Others (s : Service) (i : Nat) (a : ScopeId) : Prop :=
  ∃ j c, j ≠ i ∧ s.calls[j]? = some c ∧ c.scope? = some a

theorem Step.keeps_scope (hs : Step s s') (h : s.Sound) (hc : s.calls[i]? = some c)
    (ha : c.scope? = some a) : ∃ c', s'.calls[i]? = some c' ∧ c'.scope? = some a := by
  obtain ⟨route, hroute, hrs⟩ := Option.bind_eq_some_iff.1 ha
  obtain ⟨-, c', hc', hroute', -⟩ := Run.keeps_route (.single hs) h hc hroute
  exact ⟨c', hc', (scope?_of_route hroute').trans hrs⟩

/-- Scopes stay where they are. -/
theorem StepOf.parent? {id p : ScopeId} (hs : StepOf (· ≠ .shutdown) s s')
    (h : s.scopes.parent? id = some p) : s'.scopes.parent? id = some p := by
  have hr := hs.rescopes
  generalize s'.scopes = scopes at hr ⊢
  cases hr with
  | same => exact h
  | created parent => exact Scopes.parent?_create_of_some h
  | signalled a => exact (Scopes.parent?_signal s.scopes a id).trans h
  | shutdown he => exact absurd rfl he

theorem StepOf.within (hs : StepOf (· ≠ .shutdown) s s') (h : s.scopes.Within a b) :
    s'.scopes.Within a b := by
  induction h with
  | refl id => exact .refl id
  | inside hp _ ih => exact .inside (hs.parent? hp) ih

/-- Calls that are apart have always been. -/
theorem StepOf.apart (hs : StepOf (· ≠ .shutdown) s s') (h : s.Sound) (ha : s'.Apart) :
    s.Apart := by
  intro i j c c' a b hij hc hc' hca hcb hw
  obtain ⟨d, hd, hda⟩ := hs.step.keeps_scope h hc hca
  obtain ⟨d', hd', hdb⟩ := hs.step.keeps_scope h hc' hcb
  exact ha i j d d' a b hij hd hd' hda hdb (hs.within hw)

theorem RunOf.apart (hr : RunOf (· ≠ .shutdown) s s') (h : s.Sound) (ha : s'.Apart) :
    s.Apart := by
  induction hr using Relation.ReflTransGen.head_induction_on with
  | refl => exact ha
  | head hs _ ih => exact hs.apart h (ih (hs.step.sound h))

/-! ## What there is of a call -/

/-- What the callback of call `i` was told. -/
def notices (s : Service) (i : Nat) : List (Option Status) :=
  (s.completions.filter fun p => p.1 == i).map Prod.snd

theorem notices_report_self (s : Service) (i : Nat) (error : Option Status) :
    (s.perform i (.report error)).notices i = s.notices i ++ [error] := by
  simp [notices, perform, List.filter_append]

theorem notices_report_ne {error : Option Status} (h : j ≠ i) :
    (s.perform j (.report error)).notices i = s.notices i := by
  simp [notices, perform, List.filter_append, h]

/-- All that there is of a call: its own state, whether its scope is cancelled, its entry in the
    registry, and what its callback was told. -/
structure Sight where
  call : Option Call
  cancelled : Bool
  entry : Option ActiveCall
  told : List (Option Status)

/-- All that there is of call `i`, whatever it is known by. -/
def sight (s : Service) (i : Nat) : Sight where
  call := s.calls[i]?.map (Call.withId ⟨0⟩)
  cancelled := s.calls[i]?.any s.isCancelled
  entry := s.registry.get? ⟨i⟩
  told := s.notices i

/-! ## One call alone -/

/-- A step of another call than call `i`. -/
inductive OfAnother (i : Nat) (s : Service) : Service → Prop
  | branch (j : Nat) (m : CallMove) {r : Call × Option Effect} (hj : j ≠ i)
      (h : s.branch? j m = some r) : OfAnother i s (s.after j r)
  | arrive (a : Arrival) (hi : s.calls.length ≠ i) : OfAnother i s (s.on (.arrive a))
  | decide (j : Nat) (d : Except Status (Route String Unit)) (hj : j ≠ i) :
      OfAnother i s (s.on (.decide j d))
  | call (j : Nat) (e : CallEvent) (hj : j ≠ i) : OfAnother i s (s.on (.call j e))

/-- What a step of a service is to a service that has call `i` for its only call, its call `0`:
    what the call does, what happens to it and what happens to scopes, happens there as well, with
    the same decision of the director; what other calls do does not, but for the scopes that are
    made for their routes. -/
inductive Mirrors (i : Nat) : Service × Service → Service × Service → Prop
  | branch {s v : Service} (m : CallMove) {r r' : Call × Option Effect}
      (h : s.branch? i m = some r) (h' : v.branch? 0 m = some r') :
      Mirrors i (s, s.after i r) (v, v.after 0 r')
  | arrive {s v : Service} (a : Arrival) (hi : s.calls.length = i) :
      Mirrors i (s, s.on (.arrive a)) (v, v.on (.arrive a))
  | decide {s v : Service} (d : Except Status (Route String Unit)) :
      Mirrors i (s, s.on (.decide i d)) (v, v.on (.decide 0 d))
  | call {s v : Service} (e : CallEvent) :
      Mirrors i (s, s.on (.call i e)) (v, v.on (.call 0 e))
  | createScope {s v : Service} (parent : Option ScopeId) :
      Mirrors i (s, s.on (.createScope parent)) (v, v.on (.createScope parent))
  | cancelScope {s v : Service} (scope : ScopeId) :
      Mirrors i (s, s.on (.cancelScope scope)) (v, v.on (.cancelScope scope))
  | other {s s' v : Service} (h : OfAnother i s s') : Mirrors i (s, s') (v, v)
  | scope {s s' v : Service} (h : OfAnother i s s') (hn : s'.scopes = (s.scopes.create none).1) :
      Mirrors i (s, s') (v, v.on (.createScope none))

/-- The service `v` has call `i` of the service `s` for its only call, and all that there is of it,
    while the scopes of the other calls may have got signals in `s` alone. -/
structure Alone (i : Nat) (s v : Service) : Prop where
  config : v.config = s.config
  calls : v.calls = (s.calls[i]?.map (Call.withId ⟨0⟩)).toList
  scopes : s.scopes.Alike v.scopes (s.Others i)
  entry : v.registry.get? ⟨0⟩ = s.registry.get? ⟨i⟩
  told : v.notices 0 = s.notices i

theorem alone_ofConfig (config : Config) (i : Nat) :
    Alone i (.ofConfig config) (.ofConfig config) :=
  ⟨rfl, rfl, .refl _ _, rfl, rfl⟩

theorem Alone.getElem? (h : Alone i s v) :
    v.calls[0]? = s.calls[i]?.map (Call.withId ⟨0⟩) := by
  rw [h.calls]
  cases s.calls[i]? <;> rfl

theorem Alone.length_le (h : Alone i s v) : v.calls.length ≤ 1 := by
  rw [h.calls]
  cases s.calls[i]? <;> simp

/-- The scope of the call is cancelled in both services or in neither. -/
theorem Alone.isCancelled (h : Alone i s v) (ha : s.Apart) (hc : s.calls[i]? = some c) :
    v.isCancelled (c.withId ⟨0⟩) = s.isCancelled c := by
  unfold Service.isCancelled
  rw [Call.scope?_withId]
  cases hscope : c.scope? with
  | none => rfl
  | some id =>
    refine h.scopes.isCancelled fun a hw ho => ?_
    obtain ⟨j, c', hj, hc', ha'⟩ := ho
    exact ha i j c c' id a hj.symm hc hc' hscope ha' hw

theorem Alone.sight (h : Alone i s v) (ha : s.Apart) : v.sight 0 = s.sight i := by
  unfold Service.sight
  rw [h.getElem?, h.entry, h.told]
  cases hc : s.calls[i]? with
  | none => rfl
  | some c =>
    rw [Option.map_some, Option.map_some, Call.withId_withId, Option.any_some, Option.any_some,
      h.isCancelled ha hc]

/-! ### What each change is alone -/

theorem Alone.withScopes {scopes scopes' : Scopes} (h : Alone i s v)
    (hs : scopes.Alike scopes' (s.Others i)) :
    Alone i { s with scopes } { v with scopes := scopes' } :=
  ⟨h.config, h.calls, hs, h.entry, h.told⟩

theorem Alone.noteReached (h : Alone i s v) (c c' d d' : Call) (j : Nat) :
    Alone i (s.noteReached j c c') (v.noteReached 0 d d') := by
  unfold Service.noteReached
  split <;> split <;> exact ⟨h.config, h.calls, h.scopes, h.entry, h.told⟩

theorem Alone.update {f g : Call → Call} (h : Alone i s v) (hc : s.calls[i]? = some c)
    (hfg : g (c.withId ⟨0⟩) = (f c).withId ⟨0⟩) : Alone i (s.update i f) (v.update 0 g) where
  config := h.config
  calls := by
    show v.calls.modify 0 g = ((s.calls.modify i f)[i]?.map _).toList
    rw [getElem?_modify_self hc, h.calls, hc]
    exact congrArg (fun c => [c]) hfg
  scopes := h.scopes.mono fun a ⟨j, c', hj, hc', ha⟩ =>
    ⟨j, c', hj, (getElem?_modify_ne hj.symm).trans hc', ha⟩
  entry := h.entry
  told := h.told

theorem Alone.update_other {f : Call → Call} (h : Alone i s v) (hj : j ≠ i)
    (hc : s.calls[j]? = some c) (hf : ∀ a, c.scope? = some a → (f c).scope? = some a) :
    Alone i (s.update j f) v where
  config := h.config
  calls := by
    show v.calls = ((s.calls.modify j f)[i]?.map _).toList
    rw [getElem?_modify_ne hj, h.calls]
  scopes := h.scopes.mono fun a ⟨k, c', hk, hc', ha⟩ => by
    by_cases hjk : j = k
    · subst hjk
      rw [hc] at hc'; cases hc'
      exact ⟨j, f c, hk, getElem?_modify_self hc, hf a ha⟩
    · exact ⟨k, c', hk, (getElem?_modify_ne hjk).trans hc', ha⟩
  entry := h.entry
  told := h.told

theorem Alone.perform {e : Effect} {scope : Option ScopeId} (h : Alone i s v)
    (hn : e.Names i scope) : Alone i (s.perform i e) (v.perform 0 (e.withId ⟨0⟩)) := by
  cases e with
  | consult => exact ⟨h.config, h.calls, h.scopes, h.entry, h.told⟩
  | track g =>
    refine ⟨h.config, h.calls, h.scopes, ?_, h.told⟩
    show (v.registry.insert ⟨0⟩ g.call).get? ⟨0⟩ = (s.registry.insert g.id g.call).get? ⟨i⟩
    rw [show g.id = ⟨i⟩ from hn, Registry.get?_insert_self, Registry.get?_insert_self]
  | report error =>
    refine ⟨h.config, h.calls, h.scopes, h.entry, ?_⟩
    rw [Effect.withId, notices_report_self, notices_report_self, h.told]
  | remove id =>
    refine ⟨h.config, h.calls, h.scopes, ?_, h.told⟩
    show (v.registry.remove ⟨0⟩).get? ⟨0⟩ = (s.registry.remove id).get? ⟨i⟩
    rw [show id = ⟨i⟩ from hn, Registry.get?_remove_self, Registry.get?_remove_self]
  | signal a => exact ⟨h.config, h.calls, h.scopes.signal a, h.entry, h.told⟩

theorem Alone.perform_other {e : Effect} {scope : Option ScopeId} (h : Alone i s v) (hj : j ≠ i)
    (hn : e.Names j scope) (ha : ∀ a, scope = some a → s.Others i a) :
    Alone i (s.perform j e) v := by
  have hid : (⟨j⟩ : CallId) ≠ ⟨i⟩ := fun h => hj (CallId.mk.inj h)
  cases e with
  | consult => exact ⟨h.config, h.calls, h.scopes, h.entry, h.told⟩
  | track g =>
    refine ⟨h.config, h.calls, h.scopes, ?_, h.told⟩
    show _ = (s.registry.insert g.id g.call).get? ⟨i⟩
    rw [show g.id = ⟨j⟩ from hn, Registry.get?_insert_ne hid, h.entry]
  | report error =>
    exact ⟨h.config, h.calls, h.scopes, h.entry, h.told.trans (notices_report_ne hj).symm⟩
  | remove id =>
    refine ⟨h.config, h.calls, h.scopes, ?_, h.told⟩
    show _ = (s.registry.remove id).get? ⟨i⟩
    rw [show id = ⟨j⟩ from hn, Registry.get?_remove_ne hid, h.entry]
  | signal b => exact ⟨h.config, h.calls, h.scopes.signal_left (ha b hn), h.entry, h.told⟩

/-! ### Steps of the call -/

theorem Alone.branch {m : CallMove} {r : Call × Option Effect} (h : Alone i s v) (hk : s.Sound)
    (ha : s.Apart) (hb : s.branch? i m = some r) :
    v.branch? 0 m = some (Call.renamed ⟨0⟩ r) ∧
      Alone i (s.after i r) (v.after 0 (Call.renamed ⟨0⟩ r)) := by
  obtain ⟨c, hc, ht⟩ := branch?_eq_some hb
  have hp := (hk.calls i c hc).papers
  constructor
  · rw [branch?, h.getElem?, hc, Option.map_some, Option.bind_some, h.config,
      h.isCancelled ha hc, Call.step?_withId]
    rw [branch?, hc, Option.bind_some] at hb
    rw [hb, Option.map_some]
  · obtain ⟨c', e⟩ := r
    have hupdate : Alone i (s.update i fun _ => c') (v.update 0 fun _ => c'.withId ⟨0⟩) :=
      h.update hc rfl
    cases e with
    | none => exact hupdate
    | some e => exact hupdate.perform ((ht.handover hp).names hp)

theorem Alone.decide (h : Alone i s v) (d : Except Status (Route String Unit)) :
    Alone i (s.decide i d) (v.decide 0 d) := by
  unfold Service.decide
  rw [h.getElem?]
  cases hc : s.calls[i]? with
  | none => exact h
  | some c =>
    simp only [Option.map_some, Call.withId_stage, Call.withId_context, Call.withId_left]
    split
    · split
      · exact h
      · split
        · exact h.update hc rfl
        · next route =>
          unfold Route.ensureScope
          split
          · exact (h.withScopes h.scopes).update hc rfl
          · simp only [Scopes.create, ← h.scopes.length]
            exact (h.withScopes (h.scopes.create none)).update hc rfl
    · exact h

theorem Alone.onCall (h : Alone i s v) (e : CallEvent) :
    Alone i (s.onCall i e) (v.onCall 0 e) := by
  unfold Service.onCall
  rw [h.getElem?]
  cases hc : s.calls[i]? with
  | none => exact h
  | some c =>
    refine Alone.noteReached (h.update hc ?_) ..
    rw [Call.on_withId, h.config]

theorem Alone.arrive (h : Alone i s v) (a : Arrival) (hi : s.calls.length = i) :
    Alone i (s.arrive a) (v.arrive a) where
  config := h.config
  calls := by
    have hnone : s.calls[i]? = none := List.getElem?_eq_none (Nat.le_of_eq hi)
    have hnew : (s.arrive a).calls[i]? = some (.ofArrival s.config a) := by
      subst hi
      simp [Service.arrive]
    rw [hnew, Service.arrive, h.calls, hnone, h.config]; rfl
  scopes := h.scopes.mono fun b ⟨j, c, hj, hc, hb⟩ =>
    ⟨j, c, hj, (List.getElem?_append_left (List.getElem?_eq_some_iff.1 hc).1).trans hc, hb⟩
  entry := h.entry
  told := h.told

/-! ### Steps of other calls -/

theorem Alone.branch_other {m : CallMove} {r : Call × Option Effect} (h : Alone i s v)
    (hk : s.Sound) (hj : j ≠ i) (hb : s.branch? j m = some r) : Alone i (s.after j r) v := by
  obtain ⟨c, hc, ht⟩ := branch?_eq_some hb
  have hp := (hk.calls j c hc).papers
  obtain ⟨c', e⟩ := r
  have hscope : c'.scope? = c.scope? := by rw [Call.scope?, Call.scope?, ht.route]
  have hupdate : Alone i (s.update j fun _ => c') v :=
    h.update_other hj hc fun a ha => hscope.trans ha
  cases e with
  | none => exact hupdate
  | some e =>
    refine hupdate.perform_other hj ((ht.handover hp).names hp) fun a ha => ?_
    exact ⟨j, c', hj, getElem?_modify_self hc, hscope.trans ha⟩

/-- A call has no scope before the director has decided on it. -/
theorem Sound.scope?_of_resolving (hk : s.Sound) (hc : s.calls[i]? = some c)
    (hs : c.stage = .resolving) : c.scope? = none := by
  have hp := (hk.calls i c hc).papers
  rw [hs] at hp
  cases hr : c.route with
  | none => rw [Call.scope?, hr]; rfl
  | some route => rw [hr] at hp; exact absurd rfl hp.ne_unrouted

/-- A decision on another call makes a scope at most. -/
theorem Alone.decide_other (h : Alone i s v) (hk : s.Sound) (hj : j ≠ i)
    (d : Except Status (Route String Unit)) :
    Alone i (s.decide j d) v ∨
      (s.decide j d).scopes = (s.scopes.create none).1 ∧
        Alone i (s.decide j d) (v.on (.createScope none)) := by
  have hd := decided_decide s j d
  generalize s.decide j d = s₁ at hd ⊢
  cases hd with
  | late => exact .inl h
  | rejected c e hc => exact .inl (h.update_other hj hc fun _ ha => ha)
  | routed c context route hc hs =>
    have hnone : c.scope? = none := hk.scope?_of_resolving hc hs
    unfold Route.ensureScope
    split
    · exact .inl (h.update_other hj hc (by simp [hnone]))
    · have hmade := h.withScopes (h.scopes.create none)
      exact .inr ⟨rfl, hmade.update_other hj hc (by simp [hnone])⟩

theorem Alone.onCall_other (h : Alone i s v) (hj : j ≠ i) (e : CallEvent) :
    Alone i (s.onCall j e) v := by
  unfold Service.onCall
  split
  · exact h
  · next c hc =>
    have hroute : (c.on s.config e).route = c.route :=
      congrArg Core.route (Call.core_on s.config c e)
    have hupdate : Alone i (s.update j fun _ => c.on s.config e) v :=
      h.update_other hj hc fun a ha => by rwa [Call.scope?, hroute]
    unfold Service.noteReached
    split <;> exact ⟨hupdate.config, hupdate.calls, hupdate.scopes, hupdate.entry, hupdate.told⟩

theorem Alone.arrive_other (h : Alone i s v) (a : Arrival) (hi : s.calls.length ≠ i) :
    Alone i (s.arrive a) v where
  config := h.config
  calls := by
    have hsame : (s.arrive a).calls[i]? = s.calls[i]? := by
      rcases Nat.lt_or_gt_of_ne hi with hlt | hgt
      · rw [Service.arrive, List.getElem?_eq_none (Nat.le_of_lt hlt), List.getElem?_eq_none]
        rwa [List.length_append, List.length_singleton]
      · exact List.getElem?_append_left hgt
    rw [hsame, h.calls]
  scopes := h.scopes.mono fun b ⟨j, c, hj, hc, hb⟩ =>
    ⟨j, c, hj, (List.getElem?_append_left (List.getElem?_eq_some_iff.1 hc).1).trans hc, hb⟩
  entry := h.entry
  told := h.told

/-- Each step of the service is one of the call alone, or none. -/
theorem Alone.step (h : Alone i s v) (hk : s.Sound) (ha : s.Apart)
    (hs : StepOf (· ≠ .shutdown) s s') :
    ∃ v', Relation.ReflGen (StepOf (· ≠ .shutdown)) v v' ∧ Mirrors i (s, s') (v, v') ∧
      Alone i s' v' := by
  cases hs with
  | @branch j m r hb =>
    by_cases hj : j = i
    · subst hj
      obtain ⟨hb', h'⟩ := h.branch hk ha hb
      exact ⟨_, .single (.branch 0 m hb'), .branch m hb hb', h'⟩
    · exact ⟨v, .refl, .other (.branch j m hj hb), h.branch_other hk hj hb⟩
  | event e hadmits he =>
    cases e with
    | arrive a =>
      by_cases hi : s.calls.length = i
      · exact ⟨_, .single (.event (.arrive a) trivial nofun), .arrive a hi, h.arrive a hi⟩
      · exact ⟨v, .refl, .other (.arrive a hi), h.arrive_other a hi⟩
    | decide j d =>
      by_cases hj : j = i
      · subst hj
        have hadmits' : v.Admits (.decide 0 d) := by
          cases d with
          | error => trivial
          | ok route =>
            intro id hid
            rw [h.scopes.length]
            exact hadmits id hid
        exact ⟨_, .single (.event (.decide 0 d) hadmits' nofun), .decide d, h.decide d⟩
      · rcases h.decide_other hk hj d with h' | ⟨hn, h'⟩
        · exact ⟨v, .refl, .other (.decide j d hj), h'⟩
        · exact ⟨_, .single (.event (.createScope none) trivial nofun),
            .scope (.decide j d hj) hn, h'⟩
    | call j e =>
      by_cases hj : j = i
      · subst hj
        exact ⟨_, .single (.event (.call 0 e) trivial nofun), .call e, h.onCall e⟩
      · exact ⟨v, .refl, .other (.call j e hj), h.onCall_other hj e⟩
    | createScope parent =>
      exact ⟨_, .single (.event (.createScope parent) trivial nofun), .createScope parent,
        h.withScopes (h.scopes.create parent)⟩
    | cancelScope a =>
      exact ⟨_, .single (.event (.cancelScope a) trivial nofun), .cancelScope a,
        h.withScopes (h.scopes.signal a)⟩
    | shutdown => exact absurd rfl he

end Service

end GrpcRelay
