/-
  Launching — what goes to a backend.

  A call that has not been launched has sent nothing.  One that has been sends
  under the path and with the metadata that its route and what the director was
  shown came to at the launch, and nothing changes them afterwards
  (`Service.Run.launched`).
-/
import GrpcRelay.Proofs.Service.Rest

namespace GrpcRelay

namespace Call

variable {config : Config} {scope : Bool} {c c' : Call} {m : CallMove} {e : Option Effect}
  {context : CallContext} {route : Route String Unit}

/-- The request of a launched call is the one that the context and the route make. -/
structure Launched (config : Config) (c : Call) (context : CallContext)
    (route : Route String Unit) : Prop where
  path : backendPath (route.method.getD context.method.text) = .ok c.request.path
  metadata : c.request.metadata =
    (backendMetadata config context route.metadata).sanitize.withoutConnection
  context : c.context = some context
  route : c.route = some route
  up : c.up.position ≠ .idle

/-- The context of a call is made of its request. -/
def Shown (c : Call) : Prop :=
  ∀ context, c.context = some context →
    ∃ method, MethodPath.parse c.arrival.path = .ok method ∧ context = contextOf c.arrival method

/-- The director is shown the request, and nothing goes to a backend but what comes of that. -/
structure Addressed (config : Config) (c : Call) : Prop where
  shown : c.Shown
  sends : c.Dormant ∨ ∃ context route, c.Launched config context route

theorem Dormant.not_reading (h : c.Dormant) : c.up.position ≠ .reading := by
  rw [h.up]
  nofun

theorem Shown.of_core (h : c.Shown) (hcore : c'.core = c.core) : c'.Shown := by
  obtain ⟨ha, -, hk, -⟩ := Core.mk.inj hcore
  rw [Shown, ha, hk]
  exact h

theorem Launched.of_core (h : c.Launched config context route) (hcore : c'.core = c.core) :
    c'.Launched config context route := by
  obtain ⟨-, -, hk, hr, -, -, -, hu, -, hpath, hmeta⟩ := Core.mk.inj hcore
  refine ⟨?_, hmeta.trans h.metadata, hk.trans h.context, hr.trans h.route, ?_⟩
  · exact h.path.trans (congrArg Except.ok hpath.symm)
  · exact fun hi => h.up (hu.symm.trans hi)

/-- A call that has been launched keeps its request, whatever its tasks do. -/
theorem Turn.launched (h : Turn config scope c m c' e) (hs : c.stage.isUnlaunched = false)
    (hl : c.Launched config context route) : c'.Launched config context route := by
  have hl' := hl
  obtain ⟨hpath, hmeta, hk, hr, hu⟩ := hl
  cases h with
  | forsake _ h | rejectEncoding _ h | rejectPath _ h | consult _ h | track _ h | refuse _ _ _ h
  | launch _ _ _ h => rw [h] at hs; cases hs
  | abandonOpening | abandonJoining | failOpening | opened | record | signal | join | down | close
  | await | report | remove | free => exact ⟨hpath, hmeta, hk, hr, hu⟩
  | quit =>
    have hgiven := hl'.of_core (core_giveUpOpening c)
    exact ⟨hgiven.path, hgiven.metadata, hgiven.context, hgiven.route, hgiven.up⟩
  | settle =>
    have hgiven := hl'.of_core (core_giveUpResponse c)
    exact ⟨hgiven.path, hgiven.metadata, hgiven.context, hgiven.route, hgiven.up⟩
  | up m u a hup => exact ⟨hpath, hmeta, hk, hr, (RequestLoop.turn_of_step? hup).started⟩
  | forward c' hf => exact hl'.of_core (core_forward hf)
  | finishRequest c' hf => exact hl'.of_core (core_finishRequest hf)

/-- A call of which nothing has gone anywhere stays so, unless it is launched. -/
theorem Turn.sends (h : Turn config scope c m c' e) (hp : c.Poised) (hd : c.Dormant) :
    c'.Dormant ∨ ∃ context route, c'.Launched config context route := by
  have hbusy : c.stage.isLaunched = false := by
    rw [← Bool.not_eq_true]
    exact fun hs => hp.up hs hd.up
  cases h with
  | launch context route path hs hk hr hb =>
    exact .inr ⟨context, route, hb, rfl, hk, hr, nofun⟩
  | forsake | rejectEncoding | rejectPath | consult | track | refuse | report | remove | free =>
    exact .inl ⟨hd.up, hd.request, hd.response⟩
  | abandonOpening _ hs | abandonJoining _ _ hs | quit hs | failOpening _ hs | opened _ hs
  | record _ hs | signal _ hs | join _ hs | down _ _ _ hs | settle _ hs | close _ hs
  | await _ hs => rw [hs] at hbusy; cases hbusy
  | up _ _ _ hup =>
    have hidle := hd.up
    cases RequestLoop.turn_of_step? hup <;> simp_all
  | forward _ h => simp [Call.forward, hd.not_isLive] at h
  | finishRequest _ h => simp [Call.finishRequest, hd.not_isLive] at h

theorem Turn.shown (h : Turn config scope c m c' e) (hs : c.Shown) : c'.Shown := by
  cases h with
  | consult method _ _ hm =>
    rintro context hk
    cases hk
    exact ⟨method, hm, rfl⟩
  | quit =>
    have hgiven := hs.of_core (core_giveUpOpening c)
    exact hgiven
  | settle =>
    have hgiven := hs.of_core (core_giveUpResponse c)
    exact hgiven
  | forward c' hf => exact hs.of_core (core_forward hf)
  | finishRequest c' hf => exact hs.of_core (core_finishRequest hf)
  | forsake | abandonOpening | abandonJoining | rejectEncoding | rejectPath | track | refuse
  | launch | failOpening | opened | record | signal | join | down | close | await | up | report
  | remove | free => exact hs

end Call

namespace Service

variable {E : ServiceEvent → Prop} {config : Config} {s : Service} {i : Nat} {c c' : Call}

theorem MovesOf.addressed (hm : s.MovesOf E i c c') (hp : c.Poised)
    (hdormant : c.stage.isUnlaunched = true → c.Dormant) (h : c.Addressed s.config) :
    c'.Addressed s.config := by
  cases hm with
  | rests => exact h
  | turn m e ht =>
    refine ⟨ht.shown h.shown, ?_⟩
    cases hu : c.stage.isUnlaunched with
    | true => exact ht.sends hp (hdormant hu)
    | false =>
      rcases h.sends with hd | ⟨context, route, hl⟩
      · exact ht.sends hp hd
      · exact Or.inr ⟨context, route, ht.launched hu hl⟩
  | event e =>
    have hcore := Call.core_on s.config c e
    refine ⟨h.shown.of_core hcore, ?_⟩
    rcases h.sends with hd | ⟨context, route, hl⟩
    · exact Or.inl (hd.on fun hs => hp.up (by rw [hs]; rfl) hd.up)
    · exact Or.inr ⟨context, route, hl.of_core hcore⟩
  | rejected e hs | routed context route scope hs =>
    have hd := hdormant (by rw [hs]; rfl)
    exact ⟨h.shown, Or.inl ⟨hd.up, hd.request, hd.response⟩⟩

/-- In every run each call is addressed as its context and its route have it. -/
theorem Run.addressed (hr : Run (.ofConfig config) s) (hc : s.calls[i]? = some c) :
    c.Addressed config := by
  refine RunOf.calls (P := fun _ c => c.Addressed config) (fun i a => ?_) ?_ hr.runOf hc
  · exact ⟨nofun, Or.inl ⟨rfl, rfl, rfl⟩⟩
  · intro s i c c' hr hc hm h
    have hconfig : s.config = config := hr.config
    rw [← hconfig] at h ⊢
    exact hm.addressed (hr.poised hc) ((Run.sound hr).calls i c hc).dormant h

/-- What has gone to a backend was made of the route and the caller's own request. -/
theorem Run.launched (hr : Run (.ofConfig config) s) (hc : s.calls[i]? = some c)
    (hopen : ¬ c.Dormant) :
    ∃ method route, MethodPath.parse c.arrival.path = .ok method ∧
      c.Launched config (Call.contextOf c.arrival method) route := by
  have haddressed := hr.addressed hc
  rcases haddressed.sends with hd | ⟨context, route, hl⟩
  · exact absurd hd hopen
  · obtain ⟨method, hm, rfl⟩ := haddressed.shown context hl.context
    exact ⟨method, route, hm, hl⟩

end Service

end GrpcRelay
