/-
  The order of a release — the callback of a call runs while the call is in the
  registry and before its guard has cancelled anything; then the call leaves
  the registry; then its scope is cancelled (`release_in_order`).

  The custody of a call only goes on (`Run.rank_le`), and each effect has its
  place in that order (`Effect.before`, `Effect.after`), so a call has asked
  for all that comes earlier and for nothing that comes later.
-/
import GrpcRelay.Proofs.Call.Still
import GrpcRelay.Proofs.Service.Fidelity
import GrpcRelay.Proofs.Service.Isolation
import GrpcRelay.Proofs.Service.Rest

namespace GrpcRelay

/-! ## The custody of a call goes on -/

/-- How far a custody has come. -/
def Custody.rank : Custody → Nat
  | unrouted => 0
  | routed => 1
  | tracked => 2
  | reported => 3
  | removed => 4
  | released => 5

namespace Effect

/-- The custody of a call as one of its branches asks for this. -/
def before : Effect → Custody
  | consult => .unrouted
  | track _ => .routed
  | report _ => .tracked
  | remove _ => .reported
  | signal _ => .removed

/-- The custody of a call once one of its branches has asked for this. -/
def after : Effect → Custody
  | consult => .unrouted
  | track _ => .tracked
  | report _ => .reported
  | remove _ => .removed
  | signal _ => .released

end Effect

namespace Call

variable {c c' : Call}

theorem Handover.custody {e : Effect} (h : Handover c c' (some e)) :
    c.stage.custody = e.before ∧ c'.stage.custody = e.after := by
  cases h with
  | stays _ _ he => cases he
  | consults hk hk' _ he | tracks _ hk hk' _ _ he | removes _ hk hk' _ _ he
  | frees _ hk hk' _ _ he => cases he; exact ⟨hk, hk'⟩
  | reports _ _ hk hk' _ _ he => split at he <;> cases he; exact ⟨hk, hk'⟩

theorem Handover.rank_le {e : Option Effect} (h : Handover c c' e) :
    c.stage.custody.rank ≤ c'.stage.custody.rank := by
  cases h with
  | stays hk => exact Nat.le_of_eq (congrArg Custody.rank hk.symm)
  | consults hk hk' | tracks _ hk hk' | reports _ _ hk hk' | removes _ hk hk' | frees _ hk hk' =>
    simp [hk, hk', Custody.rank]

/-- A call is handed on by one custody at a time. -/
theorem Handover.custody_eq {e : Option Effect} {k : Custody} (h : Handover c c' e)
    (hlt : c.stage.custody.rank < k.rank) (hle : k.rank ≤ c'.stage.custody.rank) :
    c'.stage.custody = k := by
  cases h with
  | stays hk => rw [hk] at hle; omega
  | consults hk hk' | tracks _ hk hk' | reports _ _ hk hk' | removes _ hk hk' | frees _ hk hk' =>
    rw [hk] at hlt
    rw [hk'] at hle ⊢
    revert hlt hle
    cases k <;> decide

end Call

namespace Service

variable {config : Config} {s s' u v : Service} {i j : Nat} {c c' : Call}

/-- Call `i` takes a branch. -/
def Acts (i : Nat) (s s' : Service) : Prop := ∃ m, s.step? i m = some s'

/-- The handler of call `i` is given up. -/
def Abandons (i : Nat) (s s' : Service) : Prop := s.step? i .abandon = some s'

/-- What one step of a service is to its call `i`. -/
inductive Concerns (s : Service) (i : Nat) (c : Call) (s' : Service) : Prop
  | own (m : CallMove) (c' : Call) (e : Option Effect) (hb : s.branch? i m = some (c', e))
      (hs : s' = s.after i (c', e))
  | others (c' : Call) (hc' : s'.calls[i]? = some c') (hcore : c'.core = c.core)
      (hr : s'.registry.get? ⟨i⟩ = s.registry.get? ⟨i⟩)
  | decided (c' : Call) (hc' : s'.calls[i]? = some c') (hs : c.stage = .resolving)
      (hs' : c'.stage = .routed ∨ ∃ e, c'.stage = .over (.rejected e))

/-- What a branch of one call asks for leaves the entries of all others. -/
theorem get?_after_ne {e : Option Effect} (hij : i ≠ j) (ho : Call.Handover c c' e)
    (hp : Papers i c.stage.custody c.route c.guard) :
    (s.after i (c', e)).registry.get? ⟨j⟩ = s.registry.get? ⟨j⟩ := by
  have hid : (⟨i⟩ : CallId) ≠ ⟨j⟩ := fun h => hij (CallId.mk.inj h)
  cases ho with
  | stays _ _ he | consults _ _ _ he | frees _ _ _ _ _ he => rw [he]; rfl
  | reports g error _ _ _ _ he => rw [he]; split <;> rfl
  | tracks g _ _ hg _ he =>
    obtain ⟨-, -, r, -, hgid, -⟩ := (hg ▸ hp).of_guard
    rw [he]
    exact Registry.get?_insert_ne (hgid ▸ hid)
  | removes g _ _ hg _ he =>
    obtain ⟨-, -, r, -, hgid, -⟩ := (hg ▸ hp).of_guard
    rw [he]
    exact Registry.get?_remove_ne (hgid ▸ hid)

theorem Step.concerns (hs : Step s s') (h : s.Sound) (hc : s.calls[i]? = some c) :
    s.Concerns i c s' := by
  cases hs with
  | @branch j m r hb =>
    by_cases hj : j = i
    · subst hj
      exact .own m r.1 r.2 hb rfl
    · obtain ⟨c₁, hc₁, ht⟩ := branch?_eq_some hb
      have hp := (h.calls j c₁ hc₁).papers
      refine .others c ?_ rfl (get?_after_ne hj (ht.handover hp) hp)
      rw [calls_after]
      exact (getElem?_modify_ne hj).trans hc
  | event e ha =>
    have hregistry : (s.on e).registry.get? ⟨i⟩ = s.registry.get? ⟨i⟩ := by
      rw [(untouched_on s e).registry]
    cases e with
    | arrive a =>
      exact .others c ((List.getElem?_append_left (List.getElem?_eq_some_iff.1 hc).1).trans hc) rfl
        hregistry
    | createScope | cancelScope | shutdown => exact .others c hc rfl hregistry
    | decide j decision =>
      by_cases hj : j = i
      · subst hj
        have hd := decided_decide s j decision
        change s.Concerns j c (s.decide j decision)
        change (s.decide j decision).registry.get? _ = _ at hregistry
        generalize s.decide j decision = s₁ at hd hregistry ⊢
        cases hd with
        | late => exact .others c hc rfl rfl
        | rejected c₁ e hc₁ hst =>
          rw [hc] at hc₁; cases hc₁
          exact .decided _ (getElem?_modify_self hc) hst (.inr ⟨e, rfl⟩)
        | routed c₁ context route hc₁ hst =>
          rw [hc] at hc₁; cases hc₁
          exact .decided _ (getElem?_modify_self hc) hst (.inl rfl)
      · exact .others c ((getElem?_decide_ne hj).trans hc) rfl hregistry
    | call j ev =>
      by_cases hj : j = i
      · subst hj
        exact .others (c.on s.config ev) (getElem?_onCall_self hc) (Call.core_on s.config c ev)
          hregistry
      · exact .others c ((getElem?_onCall_ne hj).trans hc) rfl hregistry

/-- A branch of the call hands it on, and leaves the new call in its place. -/
theorem own_handover {m : CallMove} {e : Option Effect} (h : s.Sound) (hc : s.calls[i]? = some c)
    (hb : s.branch? i m = some (c', e)) :
    (s.after i (c', e)).calls[i]? = some c' ∧ Call.Handover c c' e := by
  obtain ⟨c₁, hc₁, ht⟩ := branch?_eq_some hb
  rw [hc] at hc₁; cases hc₁
  rw [calls_after]
  exact ⟨getElem?_modify_self hc, ht.handover (h.calls i c hc).papers⟩

/-! ### In a run -/

theorem Step.rank_le (hs : Step s s') (h : s.Sound) (hc : s.calls[i]? = some c) :
    ∃ c', s'.calls[i]? = some c' ∧ c.stage.custody.rank ≤ c'.stage.custody.rank := by
  cases hs.concerns h hc with
  | own m c' e hb hs' =>
    obtain ⟨hc', ho⟩ := own_handover h hc hb
    exact ⟨c', hs' ▸ hc', ho.rank_le⟩
  | others c' hc' hcore =>
    exact ⟨c', hc', Nat.le_of_eq (congrArg (fun k => k.stage.custody.rank) hcore.symm)⟩
  | decided c' hc' hst => exact ⟨c', hc', by rw [hst]; exact Nat.zero_le _⟩

theorem Run.rank_le (hr : Run s s') (h : s.Sound) (hc : s.calls[i]? = some c) :
    s'.Sound ∧ ∃ c', s'.calls[i]? = some c' ∧ c.stage.custody.rank ≤ c'.stage.custody.rank := by
  induction hr with
  | refl => exact ⟨h, c, hc, Nat.le_refl _⟩
  | tail _ hs ih =>
    obtain ⟨hsound, c₁, hc₁, hle⟩ := ih
    obtain ⟨c₂, hc₂, hle'⟩ := hs.rank_le hsound hc₁
    exact ⟨hs.sound hsound, c₂, hc₂, Nat.le_trans hle hle'⟩

/-- A call in flight has its entry, with its method and its scope. -/
def Enters (s : Service) (i : Nat) (c : Call) : Prop :=
  c.stage.custody.isTracked = true →
    ∃ g, c.guard = some g ∧ s.registry.get? ⟨i⟩ = some g.call

theorem Step.enters (hs : Step s s') (h : s.Sound) (hc : s.calls[i]? = some c)
    (hc' : s'.calls[i]? = some c') (he : s.Enters i c) : s'.Enters i c' := by
  intro hk
  cases hs.concerns h hc with
  | own m c₁ e hb hs' =>
    subst hs'
    obtain ⟨hc₁, ho⟩ := own_handover h hc hb
    rw [hc'] at hc₁; cases hc₁
    cases ho with
    | stays hk' hg heff =>
      obtain ⟨g, hg', hr⟩ := he (hk' ▸ hk)
      exact ⟨g, hg.trans hg', heff ▸ hr⟩
    | tracks g _ _ hg hg' heff =>
      obtain ⟨-, -, r, -, hid, -⟩ := (hg ▸ (h.calls i c hc).papers).of_guard
      refine ⟨g, hg', ?_⟩
      rw [heff, ← hid]
      exact Registry.get?_insert_self s.registry g.id g.call
    | reports g error hk' _ hg hg' heff =>
      obtain ⟨g₁, hg₁, hr⟩ := he (by rw [hk']; rfl)
      rw [hg] at hg₁; cases hg₁
      refine ⟨g, hg', ?_⟩
      rw [heff]
      split <;> exact hr
    | consults _ hk' | removes _ _ hk' | frees _ _ hk' => rw [hk'] at hk; cases hk
  | others c₁ hc₁ hcore hr =>
    rw [hc'] at hc₁; cases hc₁
    have hstage : c'.stage = c.stage := congrArg Core.stage hcore
    obtain ⟨g, hg, hget⟩ := he (hstage ▸ hk)
    exact ⟨g, (congrArg Core.guard hcore).trans hg, hr.trans hget⟩
  | decided c₁ hc₁ _ hst =>
    rw [hc'] at hc₁; cases hc₁
    rcases hst with hst | ⟨e, hst⟩ <;> rw [hst] at hk <;> cases hk

theorem Run.enters (hr : Run (.ofConfig config) s) (hc : s.calls[i]? = some c) :
    s.Enters i c := by
  induction hr generalizing i c with
  | refl => simp [ofConfig] at hc
  | tail hr hs ih =>
    rcases hs.calls_back hc with ⟨c₁, hc₁⟩ | ⟨-, a, -, rfl⟩
    · exact hs.enters (Run.sound hr) hc₁ hc (ih hc₁)
    · intro hk
      cases hk

/-! ## What was asked for before -/

variable {t : List (Service × Service)} {e : Effect}

theorem Asks.custody (ha : Asks i e s s') (h : s.Sound) (hc : s.calls[i]? = some c) :
    c.stage.custody = e.before ∧
      ∃ c', s'.calls[i]? = some c' ∧ c'.stage.custody = e.after := by
  obtain ⟨m, c', hb, rfl⟩ := ha
  obtain ⟨hc', ho⟩ := own_handover h hc hb
  exact ⟨ho.custody.1, c', hc', ho.custody.2⟩

/-- A call that has not come so far has not asked for this yet. -/
theorem not_along_asks (ht : Trace Step (.ofConfig config) t s) (hc : s.calls[i]? = some c)
    (hlt : c.stage.custody.rank < e.after.rank) : ¬ Along (Asks i e) t := by
  rintro ⟨⟨u, v⟩, hmem, ha⟩
  obtain ⟨t₁, t₂, -, ht₁, hs, hrun⟩ := ht.split hmem
  have hu : u.Sound := Run.sound ht₁.run
  have ⟨m, c', hb, _⟩ := ha
  obtain ⟨c₁, hc₁, -⟩ := branch?_eq_some hb
  obtain ⟨-, c₂, hc₂, hafter⟩ := ha.custody hu hc₁
  obtain ⟨-, c₃, hc₃, hle⟩ := Run.rank_le hrun (hs.sound hu) hc₂
  rw [hc] at hc₃; cases hc₃
  rw [hafter] at hle
  omega

/-- What holds of a call, and did not at its arrival, was brought about by a step of the run. -/
theorem along_of_call {P : Call → Prop} {B : Service → Service → Prop}
    (hnew : ∀ config a, ¬ P (.ofArrival config a))
    (hstep : ∀ {u v : Service} {c c' : Call}, u.Sound → u.calls[i]? = some c →
      v.calls[i]? = some c' → u.Concerns i c v → P c' → P c ∨ B u v)
    (ht : Trace Step (.ofConfig config) t s) (hc : s.calls[i]? = some c) (h : P c) :
    Along B t := by
  have hsound : ∀ p ∈ t, p.1.Sound := fun p hp => by
    obtain ⟨t₁, t₂, -, ht₁, -⟩ := ht.split hp
    exact Run.sound ht₁.run
  refine Trace.along_of_not_initially (P := fun s => ∃ c, s.calls[i]? = some c ∧ P c)
    (fun ⟨c, hc, _⟩ => by simp [ofConfig] at hc) ?_ (ht.restrict (B := fun u _ => u.Sound) hsound)
    ⟨c, hc, h⟩
  rintro u v ⟨hs, hu⟩ ⟨c', hc', h'⟩
  rcases hs.calls_back hc' with ⟨c₁, hc₁⟩ | ⟨-, a, -, rfl⟩
  · exact (hstep hu hc₁ hc' (hs.concerns hu hc₁) h').imp_left fun h => ⟨c₁, hc₁, h⟩
  · exact absurd h' (hnew u.config a)

/-- A branch of call `i` hands it on to this custody. -/
inductive HandsOn (i : Nat) (k : Custody) (s s' : Service) : Prop
  | mk {c c' : Call} {e : Option Effect} (m : CallMove) (hb : s.branch? i m = some (c', e))
      (hs : s' = s.after i (c', e)) (hc : s.calls[i]? = some c)
      (hp : Papers i c.stage.custody c.route c.guard) (ho : Call.Handover c c' e)
      (hne : c.stage.custody ≠ k) (hk : c'.stage.custody = k)

/-- A call that has come so far has been handed on to each custody on the way. -/
theorem along_handsOn {k : Custody} (ht : Trace Step (.ofConfig config) t s)
    (hc : s.calls[i]? = some c) (hk : 1 < k.rank) (hle : k.rank ≤ c.stage.custody.rank) :
    Along (HandsOn i k) t := by
  refine along_of_call (P := fun c => k.rank ≤ c.stage.custody.rank) ?_ ?_ ht hc hle
  · intro config a h
    have hzero : k.rank ≤ 0 := h
    omega
  · intro u v c c' hu hc hc' hconcerns hle'
    by_cases hlt : k.rank ≤ c.stage.custody.rank
    · exact .inl hlt
    · refine .inr ?_
      cases hconcerns with
      | own m c₁ e hb hv =>
        obtain ⟨hc₁, ho⟩ := own_handover hu hc hb
        rw [← hv, hc'] at hc₁; cases hc₁
        exact .mk m hb hv hc (hu.calls i c hc).papers ho (fun h => hlt (h ▸ Nat.le_refl _))
          (ho.custody_eq (by omega) hle')
      | others c₁ hc₁ hcore =>
        rw [hc'] at hc₁; cases hc₁
        rw [show c'.stage = c.stage from congrArg Core.stage hcore] at hle'
        exact absurd hle' hlt
      | decided c₁ hc₁ _ hst =>
        rw [hc'] at hc₁; cases hc₁
        rcases hst with hst | ⟨e, hst⟩ <;> rw [hst] at hle'
        · have hone : k.rank ≤ 1 := hle'
          omega
        · have hzero : k.rank ≤ 0 := hle'
          omega

/-- Before a call with a callback leaves the registry, the callback has run. -/
theorem along_report {route : Route String Unit} (ht : Trace Step (.ofConfig config) t s)
    (hc : s.calls[i]? = some c) (hr : c.route = some route) (hcallback : route.onDone.isSome = true)
    (hle : Custody.reported.rank ≤ c.stage.custody.rank) :
    Along (fun u v => ∃ error, Asks i (.report error) u v) t := by
  obtain ⟨⟨u, v⟩, hmem, hhands⟩ := along_handsOn ht hc (by decide) hle
  obtain ⟨t₁, t₂, -, ht₁, hs, hrun⟩ := ht.split hmem
  refine ⟨(u, v), hmem, ?_⟩
  cases hhands with
  | @mk c₁ c₂ e m hb hv hc₁ hp ho hne hk =>
    cases ho with
    | reports g error _ _ hg _ he =>
      obtain ⟨-, -, r, hr₁, -, -, hn⟩ := (hg ▸ hp).of_guard
      -- the route is that of the call now
      obtain ⟨-, c₃, hc₃, hr₃, -⟩ := Run.keeps_route (.head hs hrun) (Run.sound ht₁.run) hc₁ hr₁
      rw [hc] at hc₃; cases hc₃
      rw [hr] at hr₃; cases hr₃
      rw [hn, hcallback, if_pos rfl] at he
      exact ⟨error, m, c₂, he ▸ hb, he ▸ hv⟩
    | stays hk' => exact absurd (hk'.symm.trans hk) hne
    | consults _ hk' | tracks _ _ hk' | removes _ _ hk' | frees _ _ hk' => rw [hk'] at hk; cases hk

/-- Before the scope of a call is cancelled by its guard, the call has left the registry. -/
theorem along_remove (ht : Trace Step (.ofConfig config) t s) (hc : s.calls[i]? = some c)
    (hle : Custody.removed.rank ≤ c.stage.custody.rank) : Along (Asks i (.remove ⟨i⟩)) t := by
  obtain ⟨⟨u, v⟩, hmem, hhands⟩ := along_handsOn ht hc (by decide) hle
  refine ⟨(u, v), hmem, ?_⟩
  cases hhands with
  | @mk c₁ c₂ e m hb hv _ hp ho hne hk =>
    cases ho with
    | removes g _ _ hg _ he =>
      obtain ⟨-, -, r, -, hid, -⟩ := (hg ▸ hp).of_guard
      rw [he, hid] at hb hv
      exact ⟨m, c₂, hb, hv⟩
    | stays hk' => exact absurd (hk'.symm.trans hk) hne
    | consults _ hk' | tracks _ _ hk' | reports _ _ _ hk' | frees _ _ hk' =>
      rw [hk'] at hk; cases hk

/-- A guard is released without waiting for the loops only if the handler was given up. -/
theorem along_abandons (ht : Trace Step (.ofConfig config) t s) (hc : s.calls[i]? = some c)
    (h : c.stage.isAbandoned = true) : Along (Abandons i) t := by
  refine along_of_call (P := fun c => c.stage.isAbandoned = true) (fun _ _ h => by cases h) ?_ ht hc
    h
  intro u v c c' hu hc hc' hconcerns ha
  cases hconcerns with
  | own m c₁ e hb hv =>
    obtain ⟨hc₁, -⟩ := own_handover hu hc hb
    rw [← hv, hc'] at hc₁; cases hc₁
    obtain ⟨c₂, hc₂, hturn⟩ := branch?_eq_some hb
    rw [hc] at hc₂; cases hc₂
    rcases hturn.isAbandoned ha with h | rfl
    · exact .inl h
    · exact .inr (by rw [Abandons, step?, hb, hv]; rfl)
  | others c₁ hc₁ hcore =>
    rw [hc'] at hc₁; cases hc₁
    rw [show c'.stage = c.stage from congrArg Core.stage hcore] at ha
    exact .inl ha
  | decided c₁ hc₁ _ hst =>
    rw [hc'] at hc₁; cases hc₁
    rcases hst with hst | ⟨e, hst⟩ <;> rw [hst] at ha <;> cases ha

/-! ## No traffic -/

theorem MovesOf.isStill {E : ServiceEvent → Prop} (hm : s.MovesOf E i c c')
    (hd : c.stage.isUnlaunched = true → c.Dormant)
    (h : c.stage.isJoined = true → c.up.IsStill) (hj : c'.stage.isJoined = true) :
    c'.up.IsStill := by
  cases hm with
  | rests => exact h hj
  | turn m e ht => exact ht.isStill hd h hj
  | event e =>
    have hcore := Call.core_on s.config c e
    rw [Call.stage_on] at hj
    exact (h hj).congr (congrArg Core.up hcore)
  | rejected e hs => exact .inl (hd (by rw [hs]; rfl)).up
  | routed => cases hj

/-- The loops of a call whose handler has waited are still. -/
theorem Run.still (hr : Run (.ofConfig config) s) (hc : s.calls[i]? = some c)
    (hj : c.stage.isJoined = true) : c.Still :=
  (Run.poised hr hc).still hj <|
    RunOf.calls (P := fun _ c => c.stage.isJoined = true → c.up.IsStill) (fun _ _ => nofun)
      (fun hr hc hm h => hm.isStill ((Run.sound hr).calls _ _ hc).dormant h) (Run.runOf hr) hc hj

/-- And there is no more traffic. -/
theorem Run.traffic (hr : Run (.ofConfig config) s) (hr' : Run s s') (hc : s.calls[i]? = some c)
    (hj : c.stage.isJoined = true) :
    ∃ c', s'.calls[i]? = some c' ∧ c'.stage.isJoined = true ∧ c'.traffic = c.traffic := by
  induction hr' with
  | refl => exact ⟨c, hc, hj, rfl⟩
  | tail hr₁ hs ih =>
    obtain ⟨c₁, hc₁, hj₁, htraffic⟩ := ih
    have hrun := hr.trans hr₁
    have hw := (Run.flows hrun hc₁).wired
    obtain ⟨c₂, hc₂, hm⟩ := hs.moves hc₁
    cases hm with
    | rests => exact ⟨c₁, hc₂, hj₁, htraffic⟩
    | turn m e ht =>
      exact ⟨c₂, hc₂, ht.isJoined hj₁,
        (ht.traffic_of_still hw hj₁ (Run.still hrun hc₁ hj₁)).trans htraffic⟩
    | event e =>
      exact ⟨_, hc₂, (Call.stage_on _ c₁ e).symm ▸ hj₁, (hw.on e).traffic.trans htraffic⟩
    | rejected _ hst | routed _ _ _ hst => rw [hst] at hj₁; cases hj₁

/-! ## The order -/

/-- How things stand as the callback of call `i` is called, in a step from `u` to `v` after the
    steps `t`. -/
structure CallbackInOrder (t : List (Service × Service)) (i : Nat) (u v : Service) (c : Call) :
    Prop where
  /-- The call is found in the registry by its identifier. -/
  found : ∃ g, c.guard = some g ∧ u.registry.get? ⟨i⟩ = some g.call
  /-- The call is counted. -/
  counted : (u.registry.remove ⟨i⟩).size + 1 = u.activeCalls
  /-- The callback neither takes the call out nor cancels anything. -/
  registry : v.registry = u.registry
  scopes : v.scopes = u.scopes
  /-- No branch of the call has cancelled any scope before. -/
  untouched : ∀ p ∈ t, Acts i p.1 p.2 → p.2.scopes = p.1.scopes
  /-- The callback has not run and the guard has not taken the call out before. -/
  first : ∀ p ∈ t, ¬ (∃ error, Asks i (.report error) p.1 p.2) ∧ ¬ ∃ id, Asks i (.remove id) p.1 p.2
  /-- Unless the handler was given up, the loops are still from now on, and there is no traffic. -/
  still : ¬ Along (Abandons i) t → ∀ s, Run u s →
    ∃ c', s.calls[i]? = some c' ∧ c'.Still ∧ c'.traffic = c.traffic

/-- Only the guard of a call cancels a scope for it. -/
theorem Acts.scopes (h : Acts i s s') :
    s'.scopes = s.scopes ∨ ∃ scope, Asks i (.signal scope) s s' := by
  obtain ⟨m, h⟩ := h
  obtain ⟨⟨c', e⟩, hb, rfl⟩ := Option.map_eq_some_iff.1 h
  cases e with
  | none => exact .inl rfl
  | some e =>
    cases e with
    | signal scope => exact .inr ⟨scope, m, c', hb, rfl⟩
    | consult | track | report | remove => exact .inl rfl

theorem callback_in_order {error : Option Status} (ht : Trace Step (.ofConfig config) t u)
    (hc : u.calls[i]? = some c) (ha : Asks i (.report error) u v) :
    CallbackInOrder t i u v c := by
  have hrun := ht.run
  have hsound : u.Sound := Run.sound hrun
  have hkeeps := hsound.calls i c hc
  obtain ⟨hk, -⟩ := ha.custody hsound hc
  have hnot {e : Effect} (he : 2 < e.after.rank) : ¬ Along (Asks i e) t :=
    not_along_asks ht hc (by rw [hk]; exact he)
  have ⟨m, c', hb, hv⟩ := ha
  refine ⟨Run.enters hrun hc (by rw [hk]; rfl), ?_, hv ▸ rfl, hv ▸ rfl, ?_, ?_, ?_⟩
  · exact (Run.isMap hrun).size_remove (hkeeps.registry.trans (by rw [hk]; rfl))
  · intro p hp hacts
    rcases hacts.scopes with h | ⟨scope, h⟩
    · exact h
    · exact absurd ⟨p, hp, h⟩ (hnot (e := .signal scope) (show 2 < 5 by decide))
  · intro p hp
    exact ⟨fun ⟨e, h⟩ => hnot (e := .report e) (show 2 < 3 by decide) ⟨p, hp, h⟩,
      fun ⟨id, h⟩ => hnot (e := .remove id) (show 2 < 4 by decide) ⟨p, hp, h⟩⟩
  · intro hn s hr
    obtain ⟨c₁, hc₁, ht₁⟩ := branch?_eq_some hb
    rw [hc] at hc₁; cases hc₁
    obtain ⟨ending, hs⟩ := ht₁.releasing rfl
    have hj : c.stage.isJoined = true := by
      cases hab : c.stage.isAbandoned with
      | true => exact absurd (along_abandons ht hc hab) hn
      | false => rw [hs] at hab ⊢; rw [Stage.isJoined, show ending.isAbandoned = _ from hab]; rfl
    obtain ⟨c', hc', hj', htraffic⟩ := Run.traffic hrun hr hc hj
    exact ⟨c', hc', Run.still (hrun.trans hr) hc' hj', htraffic⟩

/-- What the guard of call `i` takes out of the registry is the call. -/
theorem Asks.remove_eq {id : CallId} (ha : Asks i (.remove id) u v) (h : u.Sound)
    (hc : u.calls[i]? = some c) : id = ⟨i⟩ ∧ v.registry.contains ⟨i⟩ = false := by
  obtain ⟨m, c', hb, rfl⟩ := ha
  have hp := (h.calls i c hc).papers
  cases (own_handover h hc hb).2 with
  | removes g _ _ hg _ he =>
    cases he
    obtain ⟨-, -, r, -, hid, -⟩ := (hg ▸ hp).of_guard
    refine ⟨hid, ?_⟩
    show (u.registry.remove g.id).contains ⟨i⟩ = false
    rw [hid, Registry.contains_remove, bne_self_eq_false, Bool.false_and]
  | stays _ _ he | consults _ _ _ he | tracks _ _ _ _ _ he | frees _ _ _ _ _ he => cases he
  | reports g _ _ _ _ _ he => split at he <;> cases he

/-- What it cancels is the scope of the route. -/
theorem Asks.signal_eq {scope : ScopeId} {route : Route String Unit}
    (ha : Asks i (.signal scope) u v) (h : u.Sound) (hc : u.calls[i]? = some c)
    (hr : c.route = some route) : route.scope = some scope ∧ v.scopes.isCancelled scope = true := by
  obtain ⟨m, c', hb, rfl⟩ := ha
  have hk := h.calls i c hc
  cases (own_handover h hc hb).2 with
  | frees g _ _ hg _ he =>
    cases he
    obtain ⟨-, -, r, hr', -, hs, -⟩ := (hg ▸ hk.papers).of_guard
    rw [hr] at hr'; cases hr'
    exact ⟨hs, Scopes.isCancelled_signal (hk.scope g.scope ((scope?_of_route hr).trans hs))⟩
  | stays _ _ he | consults _ _ _ he | tracks _ _ _ _ _ he | removes _ _ _ _ _ he => cases he
  | reports g _ _ _ _ _ he => split at he <;> cases he

/-- **Release in order.**  The callback of a call with a route runs while the call is in the
    registry and before its guard has cancelled anything, and unless the handler was given up, no
    loop of the call runs or moves a frame from then on.  The guard takes the call out of the
    registry only after the callback, and cancels the scope only after that; nothing else that the
    call does cancels a scope. -/
theorem release_in_order {config : Config} {t : List (Service × Service)} {u v : Service} {i : Nat}
    {c : Call} {route : Route String Unit} (ht : Trace Step (.ofConfig config) t u)
    (hc : u.calls[i]? = some c) (hr : c.route = some route) :
    (∀ error, Asks i (.report error) u v → CallbackInOrder t i u v c) ∧
    (∀ id, Asks i (.remove id) u v →
      id = ⟨i⟩ ∧ v.registry.contains ⟨i⟩ = false ∧
        (route.onDone.isSome = true → Along (fun u v => ∃ error, Asks i (.report error) u v) t)) ∧
    (∀ scope, Asks i (.signal scope) u v →
      route.scope = some scope ∧ v.scopes.isCancelled scope = true ∧
        Along (Asks i (.remove ⟨i⟩)) t) ∧
    (Acts i u v → v.scopes = u.scopes ∨ ∃ scope, Asks i (.signal scope) u v) := by
  have hsound : u.Sound := Run.sound ht.run
  refine ⟨fun error ha => callback_in_order ht hc ha, fun id ha => ?_, fun scope ha => ?_,
    Acts.scopes⟩
  · obtain ⟨hid, hgone⟩ := ha.remove_eq hsound hc
    obtain ⟨hk, -⟩ := ha.custody hsound hc
    exact ⟨hid, hgone, fun hcallback => along_report ht hc hr hcallback
      (Nat.le_of_eq (congrArg Custody.rank hk.symm))⟩
  · obtain ⟨hscope, hcancelled⟩ := ha.signal_eq hsound hc hr
    obtain ⟨hk, -⟩ := ha.custody hsound hc
    exact ⟨hscope, hcancelled, along_remove ht hc
      (Nat.le_of_eq (congrArg Custody.rank hk.symm))⟩

/-- The callback, and then the scope, of a call whose route names a method that cannot be called. -/
theorem release_in_order_of_refused :
    (∃ t u v c, CallbackInOrder t 0 u v c) ∧
      ∃ t u v scope, Trace Step (.ofConfig .default) t u ∧ Asks 0 (.signal scope) u v ∧
        Along (Asks 0 (.remove ⟨0⟩)) t := by
  have hnew : Trace Step (.ofConfig .default) [] _ := .refl
  have harrived := hnew.tail (.event (.arrive ⟨"/a/b", none, {}, none⟩) trivial)
  have hconsulted := harrived.tail (.branch 0 .accept rfl)
  have hrouted := hconsulted.tail
    (.event (.decide 0 (.ok (((Route.toBackend "up").withMethod "").withCallback ()))) nofun)
  have htracked := hrouted.tail (.branch 0 .track rfl)
  have hrefused := htracked.tail (.branch 0 .launch rfl)
  have hreported := hrefused.tail (.branch 0 .release rfl)
  have hremoved := hreported.tail (.branch 0 .release rfl)
  refine ⟨⟨_, _, _, _, (release_in_order hrefused rfl rfl).1 _ ⟨.release, _, rfl, rfl⟩⟩,
    _, _, _, _, hremoved, ⟨.release, _, rfl, rfl⟩, ?_⟩
  exact ((release_in_order hremoved rfl rfl).2.2.1 _ ⟨.release, _, rfl, rfl⟩).2.2

end Service

end GrpcRelay
