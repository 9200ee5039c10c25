/-
  Relays — the two loops of a call, joined by nothing but the abort that they
  share.  To each loop what the other does is at most a sign (`Relay.Run.upper`,
  `Relay.Run.lower`).
-/
import GrpcRelay.Proofs.Relay.RequestLoop
import GrpcRelay.Proofs.Relay.ResponseLoop

namespace GrpcRelay

/-- The two loops of a call and the abort that they share, in a scope. -/
structure Relay where
  up : RequestLoop
  down : ResponseLoop
  abort : Abort
  scope : Bool

namespace Relay

/-- Loops that have not been started, with nothing cancelled. -/
def initial (capacity : Nat) : Relay :=
  ⟨.idle .empty capacity, .idle .empty capacity, .fresh, false⟩

/-- What the request loop sees of a relay. -/
def upper (r : Relay) : Setting RequestLoop := ⟨r.up, r.abort, r.scope⟩

/-- What the response loop sees of it. -/
def lower (r : Relay) : Setting ResponseLoop := ⟨r.down, r.abort, r.scope⟩

/-- A step of one of the loops, or something that happens around it. -/
inductive Step (r r' : Relay) : Prop
  | up (h : RequestLoop.Step r.upper r'.upper) (hd : r'.down = r.down)
  | down (h : ResponseLoop.Step r.lower r'.lower) (hu : r'.up = r.up)

/-- Runs of both loops among all that can happen around them. -/
abbrev Run : Relay → Relay → Prop := Relation.ReflTransGen Step

variable {r r' : Relay} {u u' : RequestLoop} {d d' : ResponseLoop} {a a' : Abort}
  {scope scope' : Bool}

theorem Step.of_up (h : RequestLoop.Step ⟨u, a, scope⟩ ⟨u', a', scope'⟩) :
    Step ⟨u, d, a, scope⟩ ⟨u', d, a', scope'⟩ := .up h rfl

theorem Step.of_down (h : ResponseLoop.Step ⟨d, a, scope⟩ ⟨d', a', scope'⟩) :
    Step ⟨u, d, a, scope⟩ ⟨u, d', a', scope'⟩ := .down h rfl

/-! ## What happens around the loops -/

theorem run_of_outside_up {p : Source × Channel Frame}
    (h : Relation.ReflTransGen Outside (u.source, u.sink) p) :
    Run ⟨u, d, a, scope⟩ ⟨{ u with source := p.1, sink := p.2 }, d, a, scope⟩ := by
  induction h with
  | refl => exact .refl
  | tail _ hs ih => exact ih.tail (.of_up (.ends hs))

theorem run_of_outside_down {p : Source × Channel Item}
    (h : Relation.ReflTransGen Outside (d.source, d.sink) p) :
    Run ⟨u, d, a, scope⟩ ⟨u, { d with source := p.1, sink := p.2 }, a, scope⟩ := by
  induction h with
  | refl => exact .refl
  | tail _ hs ih => exact ih.tail (.of_down (.ends hs))

theorem run_of_signals {p : Abort × Bool} (h : Relation.ReflTransGen Signals (a, scope) p) :
    Run ⟨u, d, a, scope⟩ ⟨u, d, p.1, p.2⟩ := by
  induction h with
  | refl => exact .refl
  | tail _ hs ih => exact ih.tail (.of_up (.signals hs))

/-! ## What each loop sees of the other -/

theorem Step.upper (hs : Step r r') : RequestLoop.Run r.upper r'.upper := by
  obtain ⟨u, d, a, scope⟩ := r
  obtain ⟨u', d', a', scope'⟩ := r'
  cases hs with
  | up h => exact .single h
  | down h hu =>
    cases hu
    cases h with
    | start | ends => exact .refl
    | branch m hb =>
      obtain rfl : scope' = scope := hb.2
      exact RequestLoop.run_of_signals (ResponseLoop.turn_of_step? hb.1).signals
    | signals h => exact .single (.signals h)

theorem Step.lower (hs : Step r r') : ResponseLoop.Run r.lower r'.lower := by
  obtain ⟨u, d, a, scope⟩ := r
  obtain ⟨u', d', a', scope'⟩ := r'
  cases hs with
  | down h => exact .single h
  | up h hd =>
    cases hd
    cases h with
    | start | ends => exact .refl
    | branch m hb =>
      obtain rfl : scope' = scope := hb.2
      exact ResponseLoop.run_of_signals (RequestLoop.turn_of_step? hb.1).signals
    | signals h => exact .single (.signals h)

theorem Run.upper (hr : Run r r') : RequestLoop.Run r.upper r'.upper := by
  induction hr with
  | refl => exact .refl
  | tail _ hs ih => exact ih.trans hs.upper

theorem Run.lower (hr : Run r r') : ResponseLoop.Run r.lower r'.lower := by
  induction hr with
  | refl => exact .refl
  | tail _ hs ih => exact ih.trans hs.lower

end Relay

end GrpcRelay
