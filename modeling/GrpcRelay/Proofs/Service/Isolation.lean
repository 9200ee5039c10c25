/-
  Isolation — calls whose scopes are apart do not meet: whatever the others do,
  each call goes through what it could go through as the only call of its
  service, and the registry counts them all (`isolated`).
-/
import GrpcRelay.Proofs.Service.Alone
import Mathlib.Data.List.Perm.Basic

namespace GrpcRelay

/-- A call stands neither between its routing and its entry in the registry, nor between its
    removal from there and its end. -/
structure Call.IsSettled (c : Call) : Prop where
  not_routed : c.stage ≠ .routed
  not_removed : ∀ ending, c.stage ≠ .releasing ending .signal

namespace Service

variable {config : Config} {s s' : Service} {i : Nat} {c : Call}

/-! ## The number of calls in flight -/

theorem Step.isMap (hs : Step s s') (h : s.registry.IsMap) : s'.registry.IsMap := by
  cases hs with
  | @branch i m r hb =>
    obtain ⟨c', e⟩ := r
    cases e with
    | none => exact h
    | some e =>
      cases e with
      | track g => exact h.insert g.id g.call
      | remove id => exact h.remove id
      | consult | report | signal => exact h
  | event e => rwa [(untouched_on s e).registry]

theorem Run.isMap (hr : Run (.ofConfig config) s) : s.registry.IsMap := by
  induction hr with
  | refl => exact List.nodup_nil
  | tail _ hs ih => exact hs.isMap ih

theorem Sound.contains_iff (h : s.Sound) (i : Nat) :
    s.registry.contains ⟨i⟩ = true ↔
      ∃ c, s.calls[i]? = some c ∧ c.stage.custody.isTracked = true := by
  cases hc : s.calls[i]? with
  | none => simp [(h.absent i hc).1]
  | some c => simp [(h.calls i c hc).registry]

/-- Elements are counted by their places. -/
theorem countP_eq_length {α : Type} (xs : List α) (p : α → Bool) :
    xs.countP p = ((List.range xs.length).filter fun i => xs[i]?.any p).length := by
  have hmap : xs.map some = (List.range xs.length).map (xs[·]?) :=
    List.ext_getElem (by simp) fun i h h' => by simp
  calc xs.countP p = (xs.map some).countP (Option.any p) := by
        rw [List.countP_map]; rfl
    _ = ((List.range xs.length).map (xs[·]?)).countP (Option.any p) := by rw [hmap]
    _ = _ := by rw [List.countP_map, List.countP_eq_length_filter]; rfl

/-- The calls in flight are those that were put into the registry and not taken out again. -/
theorem Run.activeCalls_eq (hr : Run (.ofConfig config) s) :
    s.activeCalls = s.calls.countP fun c => c.stage.custody.isTracked := by
  have hperm : (s.registry.entries.map Prod.fst).Perm
      (((List.range s.calls.length).filter fun i =>
        s.calls[i]?.any fun c => c.stage.custody.isTracked).map CallId.mk) := by
    refine (List.perm_ext_iff_of_nodup (Run.isMap hr) ?_).2 fun ⟨i⟩ => ?_
    · exact (List.nodup_range.filter _).map fun i j h => CallId.mk.inj h
    · rw [Registry.mem_keys_iff, (Run.sound hr).contains_iff]
      simp only [List.mem_map, List.mem_filter, List.mem_range, Option.any_eq_true]
      constructor
      · rintro ⟨c, hc, hk⟩
        exact ⟨i, ⟨(List.getElem?_eq_some_iff.1 hc).1, c, hc, hk⟩, rfl⟩
      · rintro ⟨j, ⟨-, hc⟩, hj⟩
        rwa [← CallId.mk.inj hj]
  rw [countP_eq_length, activeCalls, Registry.size]
  simpa using hperm.length_eq

/-- A settled call is in the registry if it has a route and is not over. -/
theorem Keeps.isTracked_eq (h : s.Keeps i c) (hs : c.IsSettled) :
    c.stage.custody.isTracked = (c.route.isSome && !c.isOver) := by
  have hp := h.papers
  cases hr : c.route with
  | none =>
    have hk : c.stage.custody = .unrouted := (hr ▸ hp).eq_unrouted
    rw [hk]
    rfl
  | some route =>
    cases ho : c.isOver with
    | true =>
      rw [h.custody_of_over hr ho]
      rfl
    | false =>
      -- of the six kinds of custody two are those of a call in flight
      cases hk : c.stage.custody with
      | tracked | reported => rfl
      | routed => exact absurd (Stage.eq_routed hk) hs.not_routed
      | removed =>
        obtain ⟨ending, hstage⟩ := Stage.eq_releasing_of_removed hk
        exact absurd hstage (hs.not_removed ending)
      | unrouted => exact absurd hk (hr ▸ hp).ne_unrouted
      | released =>
        obtain ⟨ending, hover⟩ := Stage.eq_over_of_released hk
        rw [Call.isOver, hover] at ho
        cases ho

/-! ## Isolation -/

/-- **Isolation.**  Without a shutdown, and as long as no call runs in a scope that is that of
    another call or lies in it, whatever call `i` goes through it could go through as the only call
    of its service, given the same decision of the director, the same events and the same scopes
    from outside; nothing that other calls do shows.  The calls in flight are those that were put
    into the registry and not taken out again, which are the calls with a route that are not over
    wherever no call stands between two of these. -/
theorem isolated {config : Config} {t : List (Service × Service)} {s : Service}
    (ht : Trace (StepOf (· ≠ .shutdown)) (.ofConfig config) t s) (ha : s.Apart) :
    (∀ i, ∃ t' v, Trace (Relation.ReflGen (StepOf (· ≠ .shutdown))) (.ofConfig config) t' v ∧
      v.calls.length ≤ 1 ∧
      List.Forall₂ (fun p q => Mirrors i p q ∧ q.2.sight 0 = p.2.sight i) t t') ∧
    s.activeCalls = s.calls.countP (fun c => c.stage.custody.isTracked) ∧
    ((∀ c ∈ s.calls, c.IsSettled) →
      s.activeCalls = s.calls.countP fun c => c.route.isSome && !c.isOver) := by
  have hrun : Run (.ofConfig config) s := RunOf.run ht.run
  refine ⟨fun i => ?_, Run.activeCalls_eq hrun, fun hsettled => ?_⟩
  · have hsafe := ht.restrict (B := fun u w => u.Sound ∧ u.Apart ∧ w.Apart) fun p hp => by
      obtain ⟨t₁, t₂, -, ht₁, hs, hr⟩ := ht.split hp
      have hk := Run.sound (RunOf.run ht₁.run)
      have hw := RunOf.apart hr (hs.step.sound hk) ha
      exact ⟨hk, hs.apart hk hw, hw⟩
    obtain ⟨t', v, ht', hmirrors, hv⟩ := hsafe.mirror (M := Alone i)
      (N := fun p q => Mirrors i p q ∧ q.2.sight 0 = p.2.sight i)
      (fun hm hs => by
        obtain ⟨v', hs', hmirrors, hm'⟩ := hm.step hs.2.1 hs.2.2.1 hs.1
        exact ⟨v', hs', ⟨hmirrors, hm'.sight hs.2.2.2⟩, hm'⟩) (alone_ofConfig config i)
    exact ⟨t', v, ht', hv.length_le, hmirrors⟩
  · rw [Run.activeCalls_eq hrun]
    refine List.countP_congr fun c hc => ?_
    obtain ⟨i, hi⟩ := List.getElem?_of_mem hc
    rw [((Run.sound hrun).calls i c hi).isTracked_eq (hsettled c hc)]

/-- Two calls in scopes of their own, of which the first is cancelled. -/
structure Parted (s : Service) : Prop where
  calls : ∃ c c', s.calls = [c, c'] ∧ c.scope? = some 0 ∧ c'.scope? = some 1
  scopes : s.scopes = ⟨[⟨none, true⟩, ⟨none, false⟩]⟩

theorem Parted.apart (h : s.Parted) : s.Apart := by
  intro i j c c' a b hij hc hc' ha hb hw
  obtain ⟨c₀, c₁, hcalls, h₀, h₁⟩ := h.calls
  rw [hcalls] at hc hc'
  cases hw with
  | refl =>
    match i, j, hij, hc, hc' with
    | 0, 0, hij, _, _ | 1, 1, hij, _, _ => exact hij rfl
    | 0, 1, _, rfl, rfl => rw [h₀] at ha; rw [h₁, ← ha] at hb; cases hb
    | 1, 0, _, rfl, rfl => rw [h₁] at ha; rw [h₀, ← ha] at hb; cases hb
  | inside hp =>
    rw [h.scopes] at hp
    match a, hp with
    | 0, hp | 1, hp => cases hp

/-- The caller of the first call leaves while the backend's stream is being opened. -/
theorem exists_parted :
    ∃ t s, Trace (StepOf (· ≠ .shutdown)) (.ofConfig capped) t s ∧ s.Parted ∧
      s.activeCalls = 1 := by
  have hnew : Trace (StepOf (· ≠ .shutdown)) (.ofConfig capped) [] _ := .refl
  have hscope := hnew.tail (.event (.createScope none) trivial nofun)
  have hfirst := hscope.tail (.event (.arrive ⟨"/a/b", none, {}, none⟩) trivial nofun)
  have hsecond := hfirst.tail (.event (.arrive ⟨"/a/b", none, {}, none⟩) trivial nofun)
  have hasked := (hsecond.tail (.branch 0 .accept rfl)).tail (.branch 1 .accept rfl)
  have hdecided := hasked.tail
    (.event (.decide 0 (.ok plainRoute)) (fun _ h => by cases h; exact Nat.zero_lt_one) nofun)
  have hrouted := hdecided.tail (.event (.decide 1 (.ok (.toBackend "up"))) nofun nofun)
  have htracked := (hrouted.tail (.branch 0 .track rfl)).tail (.branch 1 .track rfl)
  have hopening := (htracked.tail (.branch 0 .launch rfl)).tail (.branch 1 .launch rfl)
  have hleft := hopening.tail (.event (.call 0 .leave) trivial nofun)
  have habandoned := hleft.tail (.branch 0 .abandon rfl)
  have hreported := habandoned.tail (.branch 0 .release rfl)
  have hremoved := hreported.tail (.branch 0 .release rfl)
  have hreleased := hremoved.tail (.branch 0 .release rfl)
  exact ⟨_, _, hreleased, ⟨⟨_, _, rfl, rfl, rfl⟩, rfl⟩, rfl⟩

/-- What the second call has gone through it could have gone through alone. -/
theorem isolated_of_parted :
    ∃ t s, Trace (StepOf (· ≠ .shutdown)) (.ofConfig capped) t s ∧ s.Parted ∧
      s.calls.countP (fun c => c.stage.custody.isTracked) = 1 ∧
      ∃ t' v, Trace (Relation.ReflGen (StepOf (· ≠ .shutdown))) (.ofConfig capped) t' v ∧
        v.calls.length ≤ 1 ∧
        List.Forall₂ (fun p q => Mirrors 1 p q ∧ q.2.sight 0 = p.2.sight 1) t t' := by
  obtain ⟨t, s, ht, hparted, hactive⟩ := exists_parted
  obtain ⟨halone, hcount, -⟩ := isolated ht hparted.apart
  exact ⟨t, s, ht, hparted, hcount.symm.trans hactive, halone 1⟩

end Service

end GrpcRelay
