/-
  Sessions at rest — the connection carries nothing, no branch of a call is ready, and
  nothing comes from outside (`Session.AtRest`).

  A session that is let run comes to rest, as the fuel that it is given is more than it
  can use (`Session.Run.atRest_settle`).  What its calls wait for then is told by
  `Session.AtRest.waits`.
-/
import GrpcRelay.Proofs.Session.Toil

namespace GrpcRelay

/-- What is left to do is bounded by the items that wait. -/
theorem Call.toil_le_pending (c : Call) (o : Outflow) : c.toil o ≤ Session.pending c := by
  have hstage : c.stage.work ≤ 17 := by
    unfold Stage.work
    split <;> omega
  have hup : c.up.position.work ≤ 4 := by
    unfold RequestLoopAt.work
    split <;> omega
  have hdown : c.down.position.work ≤ 7 := by
    unfold ResponseLoopAt.work
    split <;> omega
  have hrequest : c.request.work ≤ 4 := by
    unfold RequestLeg.work
    split <;> omega
  have hroute := c.route.isNone.toNat_le
  have hanswer := c.isUnanswered.toNat_le
  have hreached := (!c.request.reached).toNat_le
  have hready := (!c.request.ready).toNat_le
  have howes := (c.owes o).toNat_le
  have hidle := (!o.isIdle).toNat_le
  unfold Call.toil Call.ahead Call.work RequestLoop.work ResponseLoop.work Session.pending
  omega

namespace Session

variable {config : Config} {router : Router} {s : Session} {c : Call} {o : Outflow} {i : Nat}

/-! ## Coming to rest -/

/-- Nothing happens by itself. -/
structure AtRest (s : Session) : Prop where
  carry : ∀ i, s.carry i = none
  service : s.service.AtRest
  react : ∀ i, s.react i = none

theorem advance?_eq_none_iff : s.advance? = none ↔ s.AtRest := by
  -- nothing happens to calls that there are not
  have hcarry (i : Nat) (hi : s.service.calls[i]? = none) : s.carry i = none := by
    rw [carry, hi]
    rfl
  have hreact (i : Nat) (hi : s.service.calls[i]? = none) : s.react i = none := by
    rw [react, hi]
    rfl
  have hall {f : Nat → Option Session} (hf : ∀ i, s.service.calls[i]? = none → f i = none) :
      (List.range s.service.calls.length).findSome? f = none ↔ ∀ i, f i = none := by
    rw [List.findSome?_eq_none_iff]
    refine ⟨fun h i => ?_, fun h i _ => h i⟩
    by_cases hi : i < s.service.calls.length
    · exact h i (List.mem_range.2 hi)
    · exact hf i (List.getElem?_eq_none (Nat.le_of_not_lt hi))
  unfold advance?
  dsimp only
  constructor
  · intro h
    split at h
    · cases h
    · next hc =>
      split at h
      · cases h
      · next hs =>
        exact ⟨(hall hcarry).1 hc, Service.advance?_eq_none_iff.1 hs, (hall hreact).1 h⟩
  · intro h
    rw [(hall hcarry).2 h.carry, Service.advance?_eq_none_iff.2 h.service]
    exact (hall hreact).2 h.react

theorem toil_le (s : Session) : s.toil ≤ (s.service.calls.map pending).sum := by
  have hmap : s.service.calls.map pending = (List.range s.service.calls.length).map fun i =>
      (s.service.calls[i]?.map pending).getD 0 :=
    List.ext_getElem (by simp) fun i hi _ => by
      rw [List.length_map] at hi
      simp [List.getElem?_eq_getElem hi]
  rw [hmap]
  refine List.sum_le_sum fun i _ => ?_
  unfold toilAt
  split
  · next c o hc _ =>
    rw [hc]
    exact c.toil_le_pending o
  · exact Nat.zero_le _

theorem atRest_run {fuel : Nat} (hr : (ofRouter config router).Reaches s) (hf : s.toil ≤ fuel) :
    (s.run fuel).AtRest := by
  induction fuel generalizing s with
  | zero =>
    refine advance?_eq_none_iff.1 ?_
    cases h : s.advance? with
    | none => exact h
    | some t =>
      have hlt := (happens_of_advance? h).toil_lt hr
      omega
  | succ fuel ih =>
    rw [run]
    split
    · next h => exact advance?_eq_none_iff.1 h
    · next t h =>
      have hlt := (happens_of_advance? h).toil_lt hr
      exact ih (hr.trans ((happens_of_advance? h).leads hr.sound)) (by omega)

theorem Reaches.atRest_settle (hr : (ofRouter config router).Reaches s) : s.settle.AtRest := by
  refine atRest_run hr ?_
  have hfold (cs : List Call) : (cs.map pending).sum ≤ cs.foldr (fun c n => pending c + n) 1 := by
    induction cs with
    | nil => exact Nat.zero_le 1
    | cons c cs ih => exact Nat.add_le_add_left ih (pending c)
  exact Nat.le_trans s.toil_le (hfold _)

theorem Reaches.atRest_passUntil (hr : (ofRouter config router).Reaches s) (target fuel : Nat) :
    (s.passUntil target fuel).AtRest := by
  have hpass {s : Session} (hr : (ofRouter config router).Reaches s) (now : Nat) :
      (ofRouter config router).Reaches { s with now } := hr.trans (s.leads_setClock now hr.sound)
  induction fuel generalizing s with
  | zero => exact (hpass hr target).atRest_settle
  | succ fuel ih =>
    rw [passUntil]
    split
    · next t _ =>
      split
      · exact ih ((hpass hr t).trans (leads_settle _ (hpass hr t).sound))
      · exact (hpass hr target).atRest_settle
    · exact (hpass hr target).atRest_settle

/-- **A session that is let run comes to rest**, whatever a script has done to it before. -/
theorem Run.atRest_settle (hr : Run (ofRouter config router) s) : s.settle.AtRest :=
  hr.reaches.atRest_settle

/-- So does one that lets time pass, however long. -/
theorem Run.atRest_wait (hr : Run (ofRouter config router) s) (d : Duration) :
    (s.wait d).AtRest :=
  hr.reaches.atRest_passUntil _ _

/-- So does one whose step is ended. -/
theorem Run.atRest_endStep (hr : Run (ofRouter config router) s) : s.endStep.AtRest :=
  Run.atRest_wait (hr.tail .settle) stepTime

/-! ## What is waited for -/

/-- The calls of a session at rest wait in the documented places. -/
theorem AtRest.waits (h : s.AtRest) (hr : Run (ofRouter config router) s)
    (hc : s.service.calls[i]? = some c) : c.Waits (s.service.isCancelled c) :=
  h.service.waits hr.service hc

/-- The director is not late. -/
theorem AtRest.undecided {p : Plan} (h : s.AtRest) (hc : s.service.calls[i]? = some c)
    (hp : s.plans[i]? = some p) (hs : c.stage = .resolving) (hl : c.left = false) :
    s.now < p.decideAt := by
  have hreact := h.react i
  refine Nat.lt_of_not_le fun hle => ?_
  simp [Session.react, hc, hp, hs, hl, hle] at hreact

/-- All frames that were put on the connection have been given to their stream, unless they are lost
    with it. -/
theorem AtRest.given (h : s.AtRest) (hc : s.service.calls[i]? = some c)
    (ho : s.connection.streams[i]? = some o) (hr : c.request.reached = true)
    (ha : o.attached = true) (hi : c.request.isIntact = true) : c.request.bytes ≤ o.offered := by
  have hcarry := h.carry i
  refine Nat.le_of_not_lt fun hlt => ?_
  simp only [RequestLeg.isIntact, Bool.and_eq_true, Bool.not_eq_true', Option.isNone_iff_eq_none]
    at hi
  simp [Session.carry, hc, ho, hr, ha, hi, hlt] at hcarry

end Session

end GrpcRelay
