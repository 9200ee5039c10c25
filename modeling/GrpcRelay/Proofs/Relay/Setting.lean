/-
  Settings — a loop with its abort and the state of the scope around it, and
  what others do to these: they feed the source, take from the channel or
  leave it (`Outside`), and they record a reason, give the signal or cancel the
  scope (`Signals`).
-/
import GrpcRelay.Abort
import GrpcRelay.Proofs.Channel
import GrpcRelay.Proofs.Source
import GrpcRelay.Proofs.Trace

namespace GrpcRelay

/-- A loop, the abort that it shares and whether the scope is cancelled. -/
structure Setting (L : Type) where
  loop : L
  abort : Abort
  scope : Bool

/-- Whether the token that the loop watches is cancelled. -/
def Setting.isCancelled {L : Type} (w : Setting L) : Bool := w.abort.isCancelled w.scope

variable {α : Type}

/-- What others do to the source and the channel of a loop. -/
inductive Outside : Source × Channel α → Source × Channel α → Prop
  | feed {s s' : Source} {k : Channel α} (h : s.Fed s') : Outside (s, k) (s', k)
  | take {s : Source} {k k' : Channel α} {a : α} (ho : k.receiverOpen = true)
      (h : k.take? = some (a, k')) : Outside (s, k) (s, k')
  | leave {s : Source} {k : Channel α} : Outside (s, k) (s, k.closeReceiver)

/-- What others do to the abort of a loop and to the scope around it. -/
inductive Signals : Abort × Bool → Abort × Bool → Prop
  | record {a : Abort} {scope : Bool} (s : Status) : Signals (a, scope) (a.record s, scope)
  | signal {a : Abort} {scope : Bool} : Signals (a, scope) (a.signal, scope)
  | cancelScope {a : Abort} {scope : Bool} : Signals (a, scope) (a, true)

/-! ## Lasting facts -/

theorem Signals.isCancelled {a a' : Abort} {scope scope' : Bool}
    (h : Signals (a, scope) (a', scope')) (hc : a.isCancelled scope = true) :
    a'.isCancelled scope' = true := by
  cases h with
  | record s => exact hc
  | signal => rfl
  | cancelScope => simp [Abort.isCancelled]

/-- A scope that is cancelled at most now is a sign at most. -/
theorem signals_of_scope {a : Abort} {scope scope' : Bool}
    (h : scope = true → scope' = true) :
    Relation.ReflTransGen Signals (a, scope) (a, scope') := by
  cases scope' with
  | true => exact .single .cancelScope
  | false =>
    cases scope with
    | false => exact .refl
    | true => cases h rfl

variable {s s' : Source} {k k' : Channel α}

theorem Outside.seen (h : Outside (s, k) (s', k')) : s'.seen = s.seen := by
  cases h with
  | feed h => exact h.seen
  | take | leave => rfl

theorem Outside.given (h : Outside (s, k) (s', k')) : k'.given = k.given := by
  cases h with
  | feed | leave => rfl
  | take _ h => exact (Channel.takes_of_take? h).given

theorem Outside.senderOpen (h : Outside (s, k) (s', k')) : k'.senderOpen = k.senderOpen := by
  cases h with
  | feed | leave => rfl
  | take _ h => exact (Channel.takes_of_take? h).senderOpen

theorem Outside.bounded {n : Nat} (h : Outside (s, k) (s', k')) (hk : k.Bounded n) :
    k'.Bounded n := by
  cases h with
  | feed => exact hk
  | take _ h => exact hk.takes (Channel.takes_of_take? h)
  | leave => exact hk.closeReceiver

/-- A receiver that has left stays away. -/
theorem Outside.receiverClosed (h : Outside (s, k) (s', k')) (hk : k.receiverOpen = false) :
    k'.receiverOpen = false := by
  cases h with
  | feed => exact hk
  | take ho => rw [hk] at ho; cases ho
  | leave => rfl

/-- A source that has ended is fed no more. -/
theorem Outside.source_of_ended (h : Outside (s, k) (s', k')) (hs : s.ended = true) : s' = s := by
  cases h with
  | feed h => rw [h.isOpen] at hs; cases hs
  | take | leave => rfl

end GrpcRelay
