/-
  Time — how a session runs.  `Session.settle` lets everything happen that can.

  Time is virtual: it stands still while anything can happen, and passes in
  `Session.wait`, at the end of a step of a script and while a reader waits;
  then it jumps from one timer to the next.
-/
import GrpcRelay.Session.Reaction

namespace GrpcRelay.Session

/-! ## Running -/

/-- The first thing that happens by itself: first what the connection does, then what the calls
    do, then what comes from outside. -/
def advance? (s : Session) : Option Session :=
  let calls := List.range s.service.calls.length
  match calls.findSome? s.carry with
  | some s => some s
  | none =>
    match s.service.advance? with
    | some service => some { s with service }
    | none => calls.findSome? s.react

/-- Lets at most `fuel` things happen. -/
def run (s : Session) : Nat → Session
  | 0 => s
  | fuel + 1 =>
    match s.advance? with
    | none => s
    | some s => s.run fuel

/-- More than can happen to a call by itself: a frame is read, sent, taken and carried at most
    once on its way. -/
def pending (c : Call) : Nat :=
  18 * (c.up.source.queue.length + c.up.sink.queue.length + c.down.source.queue.length) + 340

/-- Lets everything run that can. -/
def settle (s : Session) : Session := s.run (s.service.calls.foldr (fun c n => pending c + n) 1)

/-! ## The clock -/

/-- The next timer after now. -/
def nextTimer (s : Session) : Option Nat :=
  let timers := (List.range s.service.calls.length).flatMap fun i =>
    match s.service.calls[i]?, s.plans[i]? with
    | some c, some p =>
      match c.stage with
      | .resolving => p.decideAt :: p.resolveBy.toList
      | _ => if c.awaitsAnswer then p.answerBy.toList else []
    | _, _ => []
  (timers.filter fun t => s.now < t).min?

/-- Lets time pass up to `target`, from timer to timer, at most `fuel` of them. -/
def passUntil (s : Session) (target : Nat) : Nat → Session
  | 0 => { s with now := target }.settle
  | fuel + 1 =>
    match s.nextTimer with
    | some t => if t < target then { s with now := t }.settle.passUntil target fuel
      else { s with now := target }.settle
    | none => { s with now := target }.settle

/-- Lets time pass. -/
def wait (s : Session) (d : Duration) : Session :=
  s.passUntil (s.now + d.nanos) (3 * s.service.calls.length + 1)

/-- How long a reader waits. -/
def patience : Duration := .ofMillis 1

/-- How long a step of a script takes. -/
def stepTime : Duration := .ofMillis 2

/-- Ends a step of a script: everything runs, and the time of the step passes. -/
def endStep (s : Session) : Session := s.settle.wait stepTime

end GrpcRelay.Session
