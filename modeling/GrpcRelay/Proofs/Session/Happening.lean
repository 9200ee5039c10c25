/-
  Happenings — what can happen by itself in a session (`Session.Happens`): the
  connection does something for a call (`Carries`), a call takes a branch, or something
  comes to a call from outside (`Reacts`).
-/
import GrpcRelay.Proofs.Service.Rest
import GrpcRelay.Session.Time

namespace GrpcRelay

theorem Call.not_reached_of_awaitsReach {c : Call} (h : c.awaitsReach = true) :
    c.request.reached = false := by
  unfold awaitsReach at h
  split at h <;> simp_all

namespace Session

variable {s s' : Session} {c : Call} {i : Nat}

/-- What the connection does for call `i` and its stream. -/
inductive Carries (s : Session) (i : Nat) (c : Call) (o : Outflow) : Session → Prop
  | close (hb : c.request.isIntact = false) (ho : o.isIdle = false) :
      Carries s i c o (s.updateConnection (·.close i))
  | offer (hi : c.request.isIntact = true) (hb : o.offered < c.request.bytes) :
      Carries s i c o (s.updateConnection (·.offer i c.request.bytes))
  | finish (hi : c.request.isIntact = true) (he : c.request.ended = true)
      (ho : o.isIdle = false) : Carries s i c o (s.updateConnection (·.finish i))
  | ready (hl : c.request.isLive = true) (hr : c.request.ready = false)
      (hb : c.request.bytes ≤ o.offered) (ho : o.isReady = true) :
      Carries s i c o (s.on (.call i .ready))

theorem carries_of_carry (h : s.carry i = some s') :
    ∃ c o, s.service.calls[i]? = some c ∧ s.connection.streams[i]? = some o ∧
      c.request.reached = true ∧ o.attached = true ∧ s.Carries i c o s' := by
  obtain ⟨c, hc, h⟩ := Option.bind_eq_some_iff.1 h
  obtain ⟨o, ho, h⟩ := Option.bind_eq_some_iff.1 h
  split at h
  · cases h
  · next hthere =>
    simp only [Bool.or_eq_true, Bool.not_eq_true', not_or, Bool.not_eq_false] at hthere
    obtain ⟨hr, ha⟩ := hthere
    refine ⟨c, o, hc, ho, hr, ha, ?_⟩
    have hsame : c.request.isIntact = !(c.request.cancelled || c.request.lost.isSome) := by
      rw [RequestLeg.isIntact, Bool.not_or, Option.not_isSome]
    split at h
    · next hb =>
      split at h
      · cases h
      · next hidle =>
        cases h
        refine .close ?_ (eq_false_of_ne_true hidle)
        rw [hsame, hb, Bool.not_true]
    · next hb =>
      have hi : c.request.isIntact = true := by
        rw [hsame, eq_false_of_ne_true hb, Bool.not_false]
      split at h
      · next hmore => cases h; exact .offer hi hmore
      · next hall =>
        split at h
        · next he =>
          split at h
          · cases h
          · next hidle => cases h; exact .finish hi he (eq_false_of_ne_true hidle)
        · next he =>
          split at h
          · next hready =>
            cases h
            rw [Bool.and_eq_true, Bool.not_eq_true'] at hready
            refine .ready ?_ hready.1 (Nat.not_lt.1 hall) hready.2
            simp_all [RequestLeg.isLive]
          · cases h

/-- What comes to call `i` from outside. -/
inductive Reacts (s : Session) (i : Nat) (c : Call) : Session → Prop
  | decides (d : Decision) (hs : c.stage = .resolving) (hl : c.left = false) :
      Reacts s i c (s.decide i d)
  | timesOut (e : Status) (hs : c.stage = .resolving) (hl : c.left = false) :
      Reacts s i c (s.on (.decide i (.error e)))
  | fails (e : Status) (ha : c.awaitsOpening = true) :
      Reacts s i c (s.on (.call i (.failOpening e)))
  | turnsAway (ha : c.awaitsReach = true) : Reacts s i c (s.on (.call i .turnAway))
  | reaches (f : Plan → Plan) (ha : c.awaitsReach = true) :
      Reacts s i c
        (((s.on (.call i .reach)).updateConnection (·.openStream i)).updatePlan i f)

theorem reacts_deliver (ha : c.awaitsReach = true) : s.Reacts i c (s.deliver i c.request) := by
  unfold deliver
  split
  · exact .fails _ (by rw [Call.awaitsOpening, ha, Bool.true_or])
  · split
    · exact .turnsAway ha
    · exact .reaches _ ha

theorem reacts_of_react (h : s.react i = some s') :
    ∃ c, s.service.calls[i]? = some c ∧ s.Reacts i c s' := by
  obtain ⟨c, hc, h⟩ := Option.bind_eq_some_iff.1 h
  obtain ⟨p, -, h⟩ := Option.bind_eq_some_iff.1 h
  refine ⟨c, hc, ?_⟩
  split at h
  · next hs =>
    split at h
    · cases h
    · next hl =>
      have hleft := eq_false_of_ne_true hl
      split at h
      · cases h; exact .decides p.decision hs hleft
      · split at h
        · split at h
          · cases h; exact .timesOut _ hs hleft
          · cases h
        · cases h
  · split at h
    · next ha =>
      split at h
      · cases h; exact reacts_deliver ha
      · cases h; exact .fails _ (by rw [Call.awaitsOpening, ha, Bool.true_or])
      · cases h
    · split at h
      · next ha =>
        cases h
        refine .fails _ ?_
        rw [Call.awaitsOpening, (Bool.and_eq_true_iff.1 ha).1, Bool.or_true]
      · cases h

/-- What happens by itself. -/
inductive Happens (s : Session) : Session → Prop
  | carries {s' : Session} (i : Nat) (c : Call) (o : Outflow) (hc : s.service.calls[i]? = some c)
      (ho : s.connection.streams[i]? = some o) (hr : c.request.reached = true)
      (ha : o.attached = true) (h : s.Carries i c o s') : Happens s s'
  | works {service : Service} (h : Service.StepOf (fun _ => False) s.service service) :
      Happens s { s with service }
  | reacts {s' : Session} (i : Nat) (c : Call) (hc : s.service.calls[i]? = some c)
      (h : s.Reacts i c s') : Happens s s'

theorem happens_of_advance? (h : s.advance? = some s') : s.Happens s' := by
  unfold advance? at h
  dsimp only at h
  split at h
  · next t ht =>
    cases h
    obtain ⟨i, -, hi⟩ := List.exists_of_findSome?_eq_some ht
    obtain ⟨c, o, hc, ho, hr, ha, hcarries⟩ := carries_of_carry hi
    exact .carries i c o hc ho hr ha hcarries
  · split at h
    · next service hs =>
      cases h
      exact .works (Service.stepOf_of_advance? hs)
    · obtain ⟨i, -, hi⟩ := List.exists_of_findSome?_eq_some h
      obtain ⟨c, hc, hreacts⟩ := reacts_of_react hi
      exact .reacts i c hc hreacts

end Session

end GrpcRelay
