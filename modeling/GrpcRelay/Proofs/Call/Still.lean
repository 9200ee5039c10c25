/-
  Stillness — a call whose handler has waited for the loops, or has never
  started them, is still: no loop of it runs (`Call.Still`), so nothing is read and
  nothing is placed in a channel any more (`Call.traffic`).

  The one handler that comes to the release of its guard without waiting is one
  that was given up (`Stage.isAbandoned`).
-/
import GrpcRelay.Proofs.Call.Flow
import GrpcRelay.Proofs.Call.Stages

namespace GrpcRelay

/-! ## The loops -/

/-- The loop was never started, or has returned. -/
def RequestLoop.IsStill (u : RequestLoop) : Prop := u.position = .idle ∨ u.hasReturned = true

/-- The loop was never started, or has returned. -/
def ResponseLoop.IsStill (d : ResponseLoop) : Prop := d.position = .idle ∨ d.hasReturned = true

theorem RequestLoop.IsStill.congr {u u' : RequestLoop} (h : u.IsStill)
    (hp : u'.position = u.position) : u'.IsStill := by
  unfold IsStill hasReturned at h ⊢
  rwa [hp]

theorem RequestLoop.Turn.not_isStill {scope : Bool} {u u' : RequestLoop} {a a' : Abort} {m : Move}
    (h : Turn scope u a m u' a') : ¬ u.IsStill := by
  rintro (hidle | hreturned)
  · cases h <;> simp_all
  · exact absurd (h.not_returned.symm.trans hreturned) nofun

/-- Others neither read from the source of a loop nor place anything in its channel. -/
theorem history_of_outside {α : Type} {p p' : Source × Channel α}
    (h : Relation.ReflTransGen Outside p p') : p'.1.seen = p.1.seen ∧ p'.2.given = p.2.given := by
  induction h with
  | refl => exact ⟨rfl, rfl⟩
  | tail _ hs ih => exact ⟨hs.seen.trans ih.1, hs.given.trans ih.2⟩

/-! ## The handler -/

/-- Whether the handler was given up after its call was tracked. -/
def Ending.isAbandoned : Ending → Bool
  | abandoned => true
  | _ => false

namespace Stage

/-- Whether the guard is being released, or was, as the handler was given up. -/
def isAbandoned : Stage → Bool
  | releasing ending _ | .over ending => ending.isAbandoned
  | _ => false

/-- Whether the guard is being released, or was, and the handler was not given up. -/
def isJoined : Stage → Bool
  | releasing ending _ | .over ending => !ending.isAbandoned
  | _ => false

end Stage

namespace Call

variable {config : Config} {scope : Bool} {c c' : Call} {m : CallMove} {e : Option Effect}

/-- No loop of the call runs. -/
structure Still (c : Call) : Prop where
  up : c.up.IsStill
  down : c.down.IsStill

/-- What the loops of a call have read from their sources and placed in their channels. -/
structure Traffic where
  requests : List Item
  toBackend : List Frame
  responses : List Item
  toCaller : List Item

/-- The traffic of a call so far. -/
def traffic (c : Call) : Traffic where
  requests := c.up.source.seen
  toBackend := c.up.sink.given
  responses := c.down.source.seen
  toCaller := c.down.sink.given

theorem Reaches.traffic (h : Reaches c c') : c'.traffic = c.traffic := by
  obtain ⟨hread, hgiven⟩ := history_of_outside h.up
  obtain ⟨hread', hgiven'⟩ := history_of_outside h.down
  exact Traffic.mk.injEq .. ▸ ⟨hread, hgiven, hread', hgiven'⟩

/-- Only branches of the loops make traffic. -/
theorem Turn.traffic (h : Turn config scope c m c' e) (hw : c.Wired) (hup : ∀ um, m ≠ .up um)
    (hdown : ∀ dm, m ≠ .down dm) : c'.traffic = c.traffic := by
  cases h with
  | up um => exact absurd rfl (hup um)
  | down dm => exact absurd rfl (hdown dm)
  | quit => exact hw.giveUpOpening.traffic
  | settle => exact hw.giveUpResponse.traffic
  | forward _ h => exact (hw.forward h).traffic
  | finishRequest _ h => exact (hw.finishRequest h).traffic
  | forsake | abandonOpening | abandonJoining | rejectEncoding | rejectPath | consult | track
  | refuse | launch | failOpening | opened | record | signal | join | close | await | report
  | remove | free => rfl

/-- The response loop of a handler that has waited is still, as the stage says where it stands. -/
theorem Poised.still (h : c.Poised) (hj : c.stage.isJoined = true) (hu : c.up.IsStill) :
    c.Still where
  up := hu
  down := by
    have hdown := h.down
    cases hs : c.stage with
    | releasing ending | «over» ending =>
      rw [hs] at hdown
      cases ending with
      | relayed o =>
        exact .inr (by
          rw [ResponseLoop.hasReturned, ResponseLoop.outcome?, show c.down.position = _ from hdown]
          rfl)
      | rejected | forsaken | refused | abandoned => exact .inl hdown
    | arriving | resolving | routed | tracked | opening | recording | signalling | joining
    | relaying | closing | awaiting => rw [hs] at hj; cases hj

/-- Only giving the handler up makes the call one that was given up. -/
theorem Turn.isAbandoned (h : Turn config scope c m c' e) (ha : c'.stage.isAbandoned = true) :
    c.stage.isAbandoned = true ∨ m = .abandon := by
  cases h with
  | abandonOpening | abandonJoining => exact .inr rfl
  | report _ _ hs | remove _ _ hs | free _ _ _ hs => exact .inl (by rw [hs]; exact ha)
  | down | up => exact .inl ha
  | forward _ h => exact .inl (stage_forward h ▸ ha)
  | finishRequest _ h => exact .inl (stage_finishRequest h ▸ ha)
  | forsake | rejectEncoding | rejectPath | consult | track | refuse | launch | quit | failOpening
  | opened | record | signal | join | settle | close | await => cases ha

/-- A handler comes to the release of its guard once the request loop has returned, or before it
    was started. -/
theorem Turn.isStill (h : Turn config scope c m c' e)
    (hd : c.stage.isUnlaunched = true → c.Dormant)
    (hc : c.stage.isJoined = true → c.up.IsStill) (hj : c'.stage.isJoined = true) :
    c'.up.IsStill := by
  cases h with
  | forsake _ hs | rejectEncoding _ hs | rejectPath _ hs | refuse _ _ _ hs =>
    exact .inl (hd (by rw [hs]; rfl)).up
  | join _ _ _ hu | await _ _ hu => exact .inr hu
  | report ending _ hs | remove ending _ hs | free ending _ _ hs =>
    exact hc (by rw [hs]; exact hj)
  | up _ _ _ hu => exact absurd (hc hj) (RequestLoop.turn_of_step? hu).not_isStill
  | down => exact hc hj
  | forward _ h =>
    rw [stage_forward h] at hj
    exact (hc hj).congr (congrArg Core.up (core_forward h))
  | finishRequest _ h =>
    rw [stage_finishRequest h] at hj
    exact (hc hj).congr (congrArg Core.up (core_finishRequest h))
  | abandonOpening | abandonJoining | consult | track | launch | quit | failOpening | opened
  | record | signal | settle | close => cases hj

/-- The callback is called as the first step of a release. -/
theorem Turn.releasing {error : Option Status} (h : Turn config scope c m c' e)
    (he : e = some (.report error)) : ∃ ending, c.stage = .releasing ending .report := by
  cases h with
  | report ending g hs => exact ⟨ending, hs⟩
  | forsake | abandonOpening | abandonJoining | rejectEncoding | rejectPath | consult | track
  | refuse | launch | quit | failOpening | opened | record | signal | join | down | settle | close
  | await | up | forward | finishRequest | remove | free => cases he

/-- A handler that has waited does not start the loops again. -/
theorem Turn.isJoined (h : Turn config scope c m c' e) (hj : c.stage.isJoined = true) :
    c'.stage.isJoined = true := by
  cases h with
  | report _ _ hs | remove _ _ hs | free _ _ _ hs => rw [hs] at hj; exact hj
  | down | up => exact hj
  | forward _ h => rw [stage_forward h]; exact hj
  | finishRequest _ h => rw [stage_finishRequest h]; exact hj
  | forsake _ hs | abandonOpening _ hs | abandonJoining _ _ hs | rejectEncoding _ hs
  | rejectPath _ hs | consult _ hs | track _ hs | refuse _ _ _ hs | launch _ _ _ hs | quit hs
  | failOpening _ hs | opened _ hs | record _ hs | signal _ hs | join _ hs | settle _ hs
  | close _ hs | await _ hs => rw [hs] at hj; cases hj

/-- From then on there is no traffic. -/
theorem Turn.traffic_of_still (h : Turn config scope c m c' e) (hw : c.Wired)
    (hj : c.stage.isJoined = true) (hs : c.Still) : c'.traffic = c.traffic := by
  refine h.traffic hw ?_ ?_
  · rintro um rfl
    cases h with
    | up _ _ _ hu => exact (RequestLoop.turn_of_step? hu).not_isStill hs.up
  · rintro dm rfl
    cases h with
    | down _ _ _ hrelaying => rw [hrelaying] at hj; cases hj

end Call

end GrpcRelay
