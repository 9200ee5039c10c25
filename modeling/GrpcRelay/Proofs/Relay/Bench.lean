/-
  Benches — whatever is done by hand, the loop on the bench runs (`Bench.Run.up`,
  `Bench.Run.down`).  It is let run until nothing moves (`Bench.atRest_settle`), so
  afterwards it has returned or waits in one of the documented places.
-/
import GrpcRelay.Proofs.Call.Work
import GrpcRelay.Proofs.Relay.Rest
import GrpcRelay.Relay.Bench

namespace GrpcRelay

variable {scope scope' : Bool} {a a' : Abort}

/-- An item is taken, or the channel stays as it is. -/
theorem Channel.poll_cases {α : Type} (k : Channel α) (item : α → Item) :
    (k.poll item).2 = k ∨ k.receiverOpen = true ∧ ∃ x, k.take? = some (x, (k.poll item).2) := by
  unfold poll
  split
  · exact .inl rfl
  · next ho =>
    split
    · next x k' ht => exact .inr ⟨by simpa using ho, x, ht⟩
    · exact .inl rfl

/-! ## Rounds -/

/-- How many branches a request loop at a position takes at most, of which nothing is read. -/
def RequestLoopAt.rounds : RequestLoopAt → Nat
  | holding _ => 3
  | reading | recording _ => 2
  | signalling => 1
  | idle | returned _ => 0

/-- How many branches a request loop takes at most. -/
def RequestLoop.rounds (u : RequestLoop) : Nat := u.position.rounds + 2 * u.source.queue.length

theorem RequestLoop.Turn.rounds_lt {u u' : RequestLoop} {m : RequestLoop.Move}
    (h : Turn scope u a m u' a') : u'.rounds < u.rounds := by
  unfold rounds
  cases h with
  | readFrame f s hp hn | readFailure e s hp hn =>
    have hlen := Source.length_queue_of_next? hn
    simp only [hp, RequestLoopAt.rounds]
    omega
  | readEnd s hp hn =>
    obtain ⟨rfl, -⟩ := Source.next?_eq_ended hn
    simp only [hp, leave, RequestLoopAt.rounds]
    omega
  | quitReading hp | quitHolding _ hp | refuse _ hp | send _ hp | record _ hp | signal hp =>
    simp only [hp, leave, RequestLoopAt.rounds]
    omega

namespace Pump

variable {p p' : Pump}

/-- How many branches a loop takes at most. -/
def rounds : Pump → Nat
  | up u => u.rounds
  | down d => d.work

theorem rounds_le (p : Pump) : p.rounds ≤ 2 * p.source.queue.length + 8 := by
  cases p with
  | up u =>
    show u.position.rounds + 2 * u.source.queue.length ≤ 2 * u.source.queue.length + 8
    have hp : u.position.rounds ≤ 3 := by cases u.position <;> simp [RequestLoopAt.rounds]
    omega
  | down d =>
    show d.position.work + 2 * d.source.queue.length ≤ 2 * d.source.queue.length + 8
    have hp : d.position.work ≤ 7 := by cases d.position <;> simp [ResponseLoopAt.work]
    omega

/-- What runs is a branch of the loop. -/
inductive Advances (scope : Bool) (a : Abort) : Pump → Pump → Abort → Prop
  | up {u u' : RequestLoop} {a' : Abort} (m : RequestLoop.Move)
      (h : u.step? scope a m = some (u', a')) : Advances scope a (.up u) (.up u') a'
  | down {d d' : ResponseLoop} {a' : Abort} (m : ResponseLoop.Move)
      (h : d.step? scope a m = some (d', a')) : Advances scope a (.down d) (.down d') a'

theorem advances_of_advance? (h : p.advance? scope a = some (p', a')) :
    Advances scope a p p' a' := by
  cases p with
  | up u =>
    obtain ⟨⟨u', a'⟩, hu, hr⟩ := Option.map_eq_some_iff.1 h
    cases hr
    obtain ⟨m, -, hm⟩ := List.exists_of_findSome?_eq_some hu
    exact .up m hm
  | down d =>
    obtain ⟨⟨d', a'⟩, hd, hr⟩ := Option.map_eq_some_iff.1 h
    cases hr
    obtain ⟨m, -, hm⟩ := List.exists_of_findSome?_eq_some hd
    exact .down m hm

theorem Advances.rounds_lt (h : Advances scope a p p' a') : p'.rounds < p.rounds := by
  cases h with
  | up m h => exact (RequestLoop.turn_of_step? h).rounds_lt
  | down m h => exact (ResponseLoop.turn_of_step? h).work_lt

/-- The loop has not been started. -/
def IsIdle : Pump → Prop
  | up u => u.position = .idle
  | down d => d.position = .idle

theorem Advances.started (h : Advances scope a p p' a') : ¬ p'.IsIdle := by
  cases h with
  | up m h => exact (RequestLoop.turn_of_step? h).started
  | down m h => exact (ResponseLoop.turn_of_step? h).started

end Pump

namespace Bench

variable {b b' b'' : Bench}

/-! ## Coming to rest -/

/-- No branch of the loop is ready. -/
def AtRest (b : Bench) : Prop := b.pump.advance? b.scope b.abort = none

theorem atRest_run {fuel : Nat} (h : b.pump.rounds ≤ fuel) : (b.run fuel).AtRest := by
  induction fuel generalizing b with
  | zero =>
    cases hb : b.pump.advance? b.scope b.abort with
    | none => exact hb
    | some r =>
      have hlt := (Pump.advances_of_advance? hb).rounds_lt
      omega
  | succ fuel ih =>
    rw [run]
    split
    · next hb => exact hb
    · next pump abort hb =>
      have hlt := (Pump.advances_of_advance? hb).rounds_lt
      exact ih (Nat.le_of_lt_succ (Nat.lt_of_lt_of_le hlt h))

/-- **A loop that is let run comes to rest.** -/
theorem atRest_settle (b : Bench) : b.settle.AtRest := atRest_run b.pump.rounds_le

/-! ## What is done by hand -/

/-- A run of the loop, among all that can happen around it, leads from one bench to another. -/
inductive Leads : Bench → Bench → Prop
  | up {u u' : RequestLoop} {a a' : Abort} {scope scope' : Bool} {t : Trailers}
      (h : RequestLoop.Run ⟨u, a, scope⟩ ⟨u', a', scope'⟩) :
      Leads ⟨.up u, a, scope, t⟩ ⟨.up u', a', scope', t⟩
  | down {d d' : ResponseLoop} {a a' : Abort} {scope scope' : Bool} {t : Trailers}
      (h : ResponseLoop.Run ⟨d, a, scope⟩ ⟨d', a', scope'⟩) :
      Leads ⟨.down d, a, scope, t⟩ ⟨.down d', a', scope', t⟩

theorem leads_refl (b : Bench) : b.Leads b := by
  obtain ⟨u | d, a, scope, t⟩ := b
  · exact .up .refl
  · exact .down .refl

theorem Leads.trans (h : b.Leads b') (h' : b'.Leads b'') : b.Leads b'' := by
  cases h with
  | up hu =>
    cases h' with
    | up hu' => exact .up (hu.trans hu')
  | down hd =>
    cases h' with
    | down hd' => exact .down (hd.trans hd')

theorem leads_feed {s : Source} (h : b.pump.source.Fed s) :
    b.Leads { b with pump := b.pump.withSource s } := by
  obtain ⟨u | d, a, scope, t⟩ := b
  · exact .up (.single (.ends (.feed h)))
  · exact .down (.single (.ends (.feed h)))

theorem leads_closeReceiver (b : Bench) : b.Leads { b with pump := b.pump.closeReceiver } := by
  obtain ⟨u | d, a, scope, t⟩ := b
  · exact .up (.single (.ends .leave))
  · exact .down (.single (.ends .leave))

theorem leads_signals (b : Bench) (h : Signals (b.abort, b.scope) (a', scope')) :
    b.Leads { b with abort := a', scope := scope' } := by
  obtain ⟨u | d, a, scope, t⟩ := b
  · exact .up (.single (.signals h))
  · exact .down (.single (.signals h))

theorem leads_poll (b : Bench) : b.Leads { b with pump := (poll b.pump).2 } := by
  obtain ⟨u | d, a, scope, t⟩ := b
  · rcases Channel.poll_cases u.sink Item.frame with hsame | ⟨ho, x, ht⟩
    · show Leads _ ⟨.up { u with sink := (u.sink.poll Item.frame).2 }, a, scope, t⟩
      rw [hsame]
      exact .up .refl
    · exact .up (.single (.ends (.take ho ht)))
  · rcases Channel.poll_cases d.sink id with hsame | ⟨ho, x, ht⟩
    · show Leads _ ⟨.down { d with sink := (d.sink.poll id).2 }, a, scope, t⟩
      rw [hsame]
      exact .down .refl
    · exact .down (.single (.ends (.take ho ht)))

theorem leads_apply (b : Bench) (op : BenchOp) : b.Leads (b.apply op).2 := by
  cases op with
  | push i =>
    unfold apply
    dsimp only
    split
    · next hl =>
      refine leads_feed (.more [i] ?_)
      obtain ⟨u | d, a, scope, t⟩ := b <;>
        simp_all [Pump.listens, RequestLoop.listens, ResponseLoop.listens, Pump.source]
    · exact b.leads_refl
  | finish =>
    unfold apply
    dsimp only
    split
    · exact b.leads_refl
    · next he => exact leads_feed (.close b.trailers (by simpa using he))
  | take => exact b.leads_poll
  | dropSink => exact b.leads_closeReceiver
  | abort s => exact (b.leads_signals (.record s)).trans (leads_signals _ .signal)
  | close => exact b.leads_signals .signal
  | cancelScope => exact b.leads_signals .cancelScope
  | look => exact b.leads_refl

theorem leads_start (h : b.pump.IsIdle) : b.Leads b.start := by
  obtain ⟨u | d, a, scope, t⟩ := b
  · exact .up (.single (.start h))
  · exact .down (.single (.start h))

theorem leads_of_advances {p : Pump} (h : Pump.Advances b.scope b.abort b.pump p a) :
    b.Leads { b with pump := p, abort := a } := by
  obtain ⟨q, a₀, scope, t⟩ := b
  cases h with
  | up m h => exact .up (.single (.of_step? h))
  | down m h => exact .down (.single (.of_step? h))

theorem started_run {fuel : Nat} (h : ¬ b.pump.IsIdle) : ¬ (b.run fuel).pump.IsIdle := by
  induction fuel generalizing b with
  | zero => exact h
  | succ fuel ih =>
    rw [run]
    split
    · exact h
    · next pump abort hb => exact ih (Pump.advances_of_advance? hb).started

theorem leads_run (b : Bench) (fuel : Nat) : b.Leads (b.run fuel) := by
  induction fuel generalizing b with
  | zero => exact b.leads_refl
  | succ fuel ih =>
    rw [run]
    split
    · exact b.leads_refl
    · next pump abort hb =>
      exact (leads_of_advances (Pump.advances_of_advance? hb)).trans (ih _)

/-! ## Runs -/

/-- What is done on a bench. -/
inductive Step (b : Bench) : Bench → Prop
  | apply (op : BenchOp) : Step b (b.apply op).2
  | start (h : b.pump.IsIdle) : Step b b.start
  | settle : Step b b.settle

abbrev Run : Bench → Bench → Prop := Relation.ReflTransGen Step

theorem Step.leads (h : Step b b') : b.Leads b' := by
  cases h with
  | apply op => exact b.leads_apply op
  | start h => exact leads_start h
  | settle => exact b.leads_run _

theorem Run.leads (hr : Run b b') : b.Leads b' := by
  induction hr with
  | refl => exact b.leads_refl
  | tail _ hs ih => exact ih.trans hs.leads

variable {capacity : Nat} {t : Trailers}

/-- **A request loop on a bench runs**, whatever is done by hand. -/
theorem Run.up (hb : ofRequest? capacity = some b) (hr : Run b b') :
    ∃ w, RequestLoop.Run (RequestLoop.initial capacity) w ∧
      b' = ⟨.up w.loop, w.abort, w.scope, .ok none⟩ := by
  unfold ofRequest? at hb
  split at hb
  · cases hb
    generalize hinit : Bench.mk _ _ _ _ = b at hr
    cases hr.leads with
    | up h => cases hinit; exact ⟨⟨_, _, _⟩, h, rfl⟩
    | down => cases hinit
  · cases hb

/-- **A response loop on a bench runs**, whatever is done by hand. -/
theorem Run.down (hb : ofResponse? capacity t = some b) (hr : Run b b') :
    ∃ w, ResponseLoop.Run (ResponseLoop.initial capacity) w ∧
      b' = ⟨.down w.loop, w.abort, w.scope, t⟩ := by
  unfold ofResponse? at hb
  split at hb
  · cases hb
    generalize hinit : Bench.mk _ _ _ _ = b at hr
    cases hr.leads with
    | up => cases hinit
    | down h => cases hinit; exact ⟨⟨_, _, _⟩, h, rfl⟩
  · cases hb

/-- A request loop that was started and let run has returned or waits in one documented place. -/
theorem Run.settled_up (hb : ofRequest? capacity = some b) (hr : Run b b')
    (hstarted : ¬ b'.pump.IsIdle) :
    ∃ w, RequestLoop.Run (RequestLoop.initial capacity) w ∧
      b'.settle = ⟨.up w.loop, w.abort, w.scope, .ok none⟩ ∧
      (w.loop.hasReturned = true ∨ ∃! k, RequestLoop.WaitsFor capacity w k) := by
  obtain ⟨w, hw, heq⟩ := Run.up hb (hr.tail .settle)
  have hrest := b'.atRest_settle
  have hstart : ¬ b'.settle.pump.IsIdle := started_run hstarted
  rw [heq] at hrest hstart
  refine ⟨w, hw, heq, (RequestLoop.atRest_iff hw.bounded).1 ⟨hstart, ?_⟩⟩
  exact RequestLoop.rests_iff.2 (Option.map_eq_none_iff.1 hrest)

/-- A response loop that was started and let run has returned or waits in one documented place. -/
theorem Run.settled_down (hb : ofResponse? capacity t = some b) (hr : Run b b')
    (hstarted : ¬ b'.pump.IsIdle) :
    ∃ w, ResponseLoop.Run (ResponseLoop.initial capacity) w ∧
      b'.settle = ⟨.down w.loop, w.abort, w.scope, t⟩ ∧
      (w.loop.hasReturned = true ∨ ∃! k, ResponseLoop.WaitsFor capacity w k) := by
  obtain ⟨w, hw, heq⟩ := Run.down hb (hr.tail .settle)
  have hrest := b'.atRest_settle
  have hstart : ¬ b'.settle.pump.IsIdle := started_run hstarted
  rw [heq] at hrest hstart
  refine ⟨w, hw, heq, (ResponseLoop.atRest_iff hw.bounded).1 ⟨hstart, ?_⟩⟩
  exact ResponseLoop.rests_iff.2 (Option.map_eq_none_iff.1 hrest)

end Bench

end GrpcRelay
