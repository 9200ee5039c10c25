/-
  Fidelity — what comes out of a call on either side is what went in on the
  other, as far as it has come.

  Every run of a service is, for each of its calls, a run of the relay of the
  call among what happens to it (`Run.flows`), so what the loops keep holds of
  every call of every service.
-/
import GrpcRelay.Proofs.Call.Loops
import GrpcRelay.Proofs.Service.Release

namespace GrpcRelay.Service

variable {config : Config} {s s' : Service} {i : Nat} {c c' : Call}

/-! ## The loops of the calls -/

/-- The loops of a call have come to where they are by a run of their relay. -/
structure Flows (s : Service) (c : Call) : Prop where
  relay : Relay.Run (.initial Call.capacity) (c.relay (s.isCancelled c))
  wired : c.Wired

theorem Flows.up (h : s.Flows c) :
    RequestLoop.Run (RequestLoop.initial Call.capacity) ⟨c.up, c.abort, s.isCancelled c⟩ :=
  h.relay.upper

theorem Flows.down (h : s.Flows c) :
    ResponseLoop.Run (ResponseLoop.initial Call.capacity) ⟨c.down, c.abort, s.isCancelled c⟩ :=
  h.relay.lower

/-- A call whose scope is cancelled keeps this scope. -/
theorem Moves.isCancelled (hm : s.Moves i c c') (hg : s.scopes.Grows s'.scopes)
    (hp : Papers i c.stage.custody c.route c.guard) (h : s.isCancelled c = true) :
    s'.isCancelled c' = true := by
  cases hr : c.route with
  | none => simp [Service.isCancelled, Call.scope?, hr] at h
  | some route =>
    obtain ⟨hr', -⟩ := hm.keeps_route hp hr
    have hscope : c.scope? = route.scope := by rw [Call.scope?, hr]; rfl
    have hscope' : c'.scope? = route.scope := by rw [Call.scope?, hr']; rfl
    unfold Service.isCancelled at h ⊢
    rw [hscope] at h
    rw [hscope']
    split at h
    · next id _ => exact hg.isCancelled id h
    · cases h

/-- The loops of a call run, whatever the call does. -/
theorem Moves.runs (hm : s.Moves i c c') (hk : s.Keeps i c) (hw : c.Wired) :
    Call.Runs (s.isCancelled c) (s.isCancelled c) c c' := by
  cases hm with
  | rests => exact hw.runs
  | turn m e ht => exact ht.runs hw hk.dormant
  | event e => exact hw.runs_on e
  | rejected e hs => exact hw.runs.stage fun _ => by rw [hs]; rfl
  | routed context route scope hs =>
    have hu : c.stage.isUnanswered = true := by rw [hs]; rfl
    exact ⟨.refl, hw.inbound, hw.decoder, hw.body, fun _ => hw.unanswered hu,
      fun _ => hw.waiting hu, hw.carried, hw.told⟩

/-- One step of the service takes the loops of a call on by a run of their relay. -/
theorem Step.runs (hs : Step s s') (h : s.Sound) (hc : s.calls[i]? = some c) (hw : c.Wired) :
    ∃ c', s'.calls[i]? = some c' ∧ Call.Runs (s.isCancelled c) (s'.isCancelled c') c c' := by
  obtain ⟨c', hc', hm⟩ := hs.moves hc
  have hk := h.calls i c hc
  exact ⟨c', hc', (hm.runs hk hw).cancelScope (hm.isCancelled hs.grows hk.papers)⟩

theorem flows_ofArrival (s : Service) (a : Arrival) :
    (s.arrive a).Flows (.ofArrival s.config a) :=
  ⟨.refl, Call.wired_ofArrival s.config a⟩

/-- In every run of a service the loops of every call run as a relay. -/
theorem Run.flows (hr : Run (.ofConfig config) s) (hc : s.calls[i]? = some c) : s.Flows c := by
  induction hr generalizing i c with
  | refl => simp [ofConfig] at hc
  | @tail s₁ s₂ hr hs ih =>
    rcases hs.calls_back hc with ⟨c₁, hc₁⟩ | ⟨-, a, rfl, rfl⟩
    · obtain ⟨hrelay₁, hw₁⟩ := ih hc₁
      obtain ⟨c₂, hc₂, hrelay, hw⟩ := hs.runs (Run.sound hr) hc₁ hw₁
      rw [hc] at hc₂; cases hc₂
      exact ⟨hrelay₁.trans hrelay, hw⟩
    · exact flows_ofArrival s₁ a

/-! ## Lasting facts -/

/-- No run of the loops of a call ends this. -/
def Lasts (P : Call → Prop) : Prop :=
  ∀ {c c' : Call} {b b' : Bool}, Call.Runs b b' c c' → P c → P c'

theorem lasts_returned (why : RequestLoopEnd) : Lasts fun c => c.up.position = .returned why :=
  fun h => h.up.returned

theorem lasts_hasRead (stop : Option Status) : Lasts fun c => ∃ fs, c.down.HasRead fs stop := by
  rintro c c' b b' hruns ⟨fs, h⟩
  exact ⟨fs, h.run hruns.down⟩

theorem Run.lasts {P : Call → Prop} (hr : Run (.ofConfig config) s) (hr' : Run s s')
    (hP : Lasts P) (hc : s.calls[i]? = some c) (h : P c) : ∃ c', s'.calls[i]? = some c' ∧ P c' := by
  induction hr' with
  | refl => exact ⟨c, hc, h⟩
  | tail hr₁ hs ih =>
    obtain ⟨c₁, hc₁, h₁⟩ := ih
    have hrun := hr.trans hr₁
    obtain ⟨c₂, hc₂, hruns⟩ := hs.runs (Run.sound hrun) hc₁ (Run.flows hrun hc₁).wired
    exact ⟨c₂, hc₂, hP hruns h₁⟩

/-- What a step of a run brings about in a call still holds at the end of the run. -/
theorem lasts_of_along {t : List (Service × Service)} {B : Service → Service → Prop}
    {P : Call → Prop} (ht : Trace Step (.ofConfig config) t s) (hc : s.calls[i]? = some c)
    (hP : Lasts P)
    (hB : ∀ {u v}, Run (.ofConfig config) u → B u v → ∃ c', v.calls[i]? = some c' ∧ P c')
    (hb : Along B t) : P c := by
  obtain ⟨⟨u, v⟩, hmem, hb⟩ := hb
  obtain ⟨t₁, t₂, -, ht₁, hs, hrun⟩ := ht.split hmem
  obtain ⟨c₁, hc₁, h₁⟩ := hB ht₁.run hb
  obtain ⟨c₂, hc₂, h₂⟩ := Run.lasts (ht₁.run.tail hs) hrun hP hc₁ h₁
  rw [hc] at hc₂; cases hc₂
  exact h₂

/-! ## Reading -/

/-- The request loop of call `i` reads this. -/
def RequestReads (i : Nat) (r : Reads) (s s' : Service) : Prop :=
  ∃ c k, s.calls[i]? = some c ∧ c.up.source.next? = some (r, k) ∧ s.step? i (.up .read) = some s'

/-- The response loop of call `i` reads this. -/
def ResponseReads (i : Nat) (r : Reads) (s s' : Service) : Prop :=
  ∃ c k, s.calls[i]? = some c ∧ c.down.source.next? = some (r, k) ∧
    s.step? i (.down .read) = some s'

theorem turn_of_step? {m : CallMove} (h : s.step? i m = some s') (hc : s.calls[i]? = some c) :
    ∃ c' e, s'.calls[i]? = some c' ∧ c.Turn s.config (s.isCancelled c) m c' e := by
  obtain ⟨r, hb, rfl⟩ := Option.map_eq_some_iff.1 h
  obtain ⟨c₁, hc₁, ht⟩ := branch?_eq_some hb
  rw [hc] at hc₁; cases hc₁
  rw [calls_after]
  exact ⟨r.1, r.2, getElem?_modify_self hc, ht⟩

theorem RequestReads.finished (h : RequestReads i .ended s s') :
    ∃ c', s'.calls[i]? = some c' ∧ c'.up.position = .returned .finished := by
  obtain ⟨c, k, hc, hn, hs⟩ := h
  obtain ⟨c', e, hc', ht⟩ := turn_of_step? hs hc
  cases ht with
  | up _ u a hu => exact ⟨_, hc', RequestLoop.finished_of_ended hn hu⟩

theorem ResponseReads.hasRead_of_failure {e : Status} (hr : Run (.ofConfig config) s)
    (h : ResponseReads i (.item (.failure e)) s s') :
    ∃ c', s'.calls[i]? = some c' ∧ ∃ fs, c'.down.HasRead fs (some e) := by
  obtain ⟨c, k, hc, hn, hs⟩ := h
  obtain ⟨c', _, hc', ht⟩ := turn_of_step? hs hc
  cases ht with
  | down _ d a _ hd =>
    exact ⟨_, hc', ResponseLoop.hasRead_of_failure (Run.flows hr hc).down.kept hn hd⟩

theorem ResponseReads.hasRead_of_ended (hr : Run (.ofConfig config) s)
    (h : ResponseReads i .ended s s') :
    ∃ c', s'.calls[i]? = some c' ∧ ∃ fs, c'.down.HasRead fs none := by
  obtain ⟨c, k, hc, hn, hs⟩ := h
  obtain ⟨c', _, hc', ht⟩ := turn_of_step? hs hc
  cases ht with
  | down _ d a _ hd =>
    exact ⟨_, hc', ResponseLoop.hasRead_of_ended (Run.flows hr hc).down.kept hn hd⟩

/-! ## Fidelity -/

/-- **Fidelity.**  In every run, what the backend has taken of a call's requests and what has
    been sent on to it are first frames of what the caller sent, and what the caller has taken of
    the response and what it has read are first frames of what the backend sent.  Once the
    request loop has read the end, everything that the caller sent has been put in; once the
    response loop has read the end or a failure, every frame before it has been put in, and at
    most a status after them. -/
theorem frames_faithful {config : Config} {t : List (Service × Service)} {s : Service} {i : Nat}
    {c : Call} (ht : Trace Step (.ofConfig config) t s) (hc : s.calls[i]? = some c) :
    (c.up.sink.seen <+: framesOf c.up.source.arrived ∧
      c.request.delivered <+: framesOf c.up.source.arrived) ∧
    (framesOf c.down.sink.seen <+: framesOf c.down.source.arrived ∧
      framesHeard c.heard <+: framesOf c.down.source.arrived) ∧
    (Along (RequestReads i .ended) t →
      c.up.sink.given.map Item.frame = c.up.source.arrived) ∧
    (Along (ResponseReads i .ended) t →
      ∃ last : Option Status,
        c.down.sink.given = c.down.source.arrived ++ last.toList.map Item.failure) ∧
    (∀ e, Along (ResponseReads i (.item (.failure e))) t →
      ∃ (fs : List Frame) (last : Option Status),
        c.down.source.seen = fs.map Item.frame ++ [.failure e] ∧
        c.down.sink.given = fs.map Item.frame ++ last.toList.map Item.failure) := by
  have hflows : s.Flows c := Run.flows ht.run hc
  have hup : c.up.Kept := hflows.up.kept
  have hdown : c.down.Kept := hflows.down.kept
  refine ⟨⟨hup.carried, hflows.wired.carried.isPrefix.trans hup.carried⟩,
    ⟨hdown.carried, hflows.wired.told.isPrefix.trans hdown.carried⟩, fun hb => ?_, fun hb => ?_,
    fun e hb => ?_⟩
  · have hp : c.up.position = .returned .finished :=
      lasts_of_along ht hc (lasts_returned .finished) (fun _ => RequestReads.finished) hb
    exact hup.complete hp
  · obtain ⟨fs, hread⟩ :=
      lasts_of_along ht hc (lasts_hasRead none) ResponseReads.hasRead_of_ended hb
    obtain ⟨last, hgiven⟩ := hread.given_eq hdown
    have harrived : c.down.source.arrived = fs.map Item.frame := by
      rw [← Source.seen_eq_arrived (hread.whole rfl).2, hread.seen]
      exact List.append_nil _
    exact ⟨last, by rw [hgiven, harrived]⟩
  · obtain ⟨fs, hread⟩ :=
      lasts_of_along ht hc (lasts_hasRead (some e)) ResponseReads.hasRead_of_failure hb
    obtain ⟨last, hgiven⟩ := hread.given_eq hdown
    exact ⟨fs, last, hread.seen, hgiven⟩

/-- A caller that sends one frame and half-closes. -/
theorem frames_faithful_of_finished :
    ∃ t s c, Trace Step (.ofConfig .default) t s ∧ s.calls[0]? = some c ∧
      c.up.position = .returned .finished ∧ c.up.source.arrived = [.frame ⟨⟨#[42]⟩⟩] ∧
      c.up.sink.given.map Item.frame = c.up.source.arrived := by
  have hnew : Trace Step (.ofConfig .default) [] _ := .refl
  have harrived := hnew.tail (.event (.arrive ⟨"/a/b", none, {}, none⟩) trivial)
  have hconsulted := harrived.tail (.branch 0 .accept rfl)
  have hrouted := hconsulted.tail (.event (.decide 0 (.ok (Route.toBackend "up"))) nofun)
  have htracked := hrouted.tail (.branch 0 .track rfl)
  have hlaunched := htracked.tail (.branch 0 .launch rfl)
  have hsent := hlaunched.tail (.event (.call 0 (.send (Frame.wire ⟨⟨#[42]⟩⟩))) trivial)
  have hread := hsent.tail (.branch 0 (.up .read) rfl)
  have hput := hread.tail (.branch 0 (.up .send) rfl)
  have hclosed := hput.tail (.event (.call 0 .halfClose) trivial)
  have ht := hclosed.tail (.branch 0 (.up .read) rfl)
  refine ⟨_, _, _, ht, rfl, rfl, by decide +kernel, ?_⟩
  exact (frames_faithful (i := 0) ht rfl).2.2.1
    ⟨_, List.mem_append_right _ List.mem_cons_self, _, _, rfl, rfl, rfl⟩

end GrpcRelay.Service
