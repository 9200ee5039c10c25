/-
  Half-close — what the reader of the request loop's channel can conclude from
  its end.

  The loop leaves its channel whenever it returns, so the reader sees the same
  end after the caller's own end, after a failure of the caller's stream and
  after a cancelled abort (`Run.sees_end_iff`).  Only after the first has the
  reader been given all that the caller sent (`end_complete_iff`).
-/
import GrpcRelay.Proofs.Relay.RequestLoop
import GrpcRelay.Relay.Bench

namespace GrpcRelay

theorem Channel.poll_eq_ended_iff {α : Type} (c : Channel α) (item : α → Item) :
    (c.poll item).1 = .ended ↔ c.receiverOpen = true ∧ c.queue = [] ∧ c.senderOpen = false := by
  unfold poll
  cases hr : c.receiverOpen with
  | false => simp
  | true =>
    cases ht : c.take? with
    | some r =>
      obtain ⟨a, k⟩ := r
      simp [(takes_of_take? ht).queue]
    | none =>
      have hq := take?_eq_none_iff.1 ht
      cases hs : c.senderOpen <;> simp [hq]

namespace RequestLoop

variable {w w' : Setting RequestLoop} {t : List (Setting RequestLoop × Setting RequestLoop)}
  {capacity : Nat}

/-- The loop reads the end of the caller's stream. -/
def ReadsEnd (w w' : Setting RequestLoop) : Prop :=
  Branch .read w w' ∧ ∃ s, w.loop.source.next? = some (.ended, s)

/-! ## Why the loop returned -/

theorem ReadsEnd.finished (h : ReadsEnd w w') : w'.loop.position = .returned .finished := by
  obtain ⟨⟨hb, -⟩, s, hn⟩ := h
  exact finished_of_ended hn hb

/-- A loop that has just finished has read the end. -/
theorem Step.finished (hs : Step w w') (h : w'.loop.position = .returned .finished) :
    w.loop.position = .returned .finished ∨ ReadsEnd w w' := by
  obtain ⟨u, a, scope⟩ := w
  obtain ⟨u', a', scope'⟩ := w'
  cases hs with
  | start => cases h
  | branch m hb =>
    cases turn_of_step? hb.1 with
    | readEnd s hp hn => exact Or.inr ⟨hb, s, hn⟩
    | quitReading | quitHolding | refuse | readFrame | readFailure | send | record
    | signal => cases h
  | ends => exact Or.inl h
  | signals => exact Or.inl h

/-- The loop has finished exactly if it has read the end on its way. -/
theorem along_readsEnd_iff (ht : Trace Step (initial capacity) t w) :
    Along ReadsEnd t ↔ w.loop.position = .returned .finished := by
  constructor
  · exact ht.holds_of_along (P := fun w => w.loop.position = .returned .finished)
      (fun _ => ReadsEnd.finished) Step.returned
  · exact ht.along_of_not_initially (P := fun w => w.loop.position = .returned .finished)
      (fun h => by cases h) Step.finished

/-- A token that is cancelled stays cancelled. -/
theorem Turn.isCancelled {scope : Bool} {u u' : RequestLoop} {a a' : Abort} {m : Move}
    (h : Turn scope u a m u' a') (hc : a.isCancelled scope = true) :
    a'.isCancelled scope = true := by
  cases h with
  | signal => rfl
  | quitReading | quitHolding | refuse | readFrame | readFailure | readEnd | send | record =>
    exact hc

theorem Step.isCancelled (hs : Step w w') (h : w.isCancelled = true) : w'.isCancelled = true := by
  cases hs with
  | start => exact h
  | branch m hb =>
    rw [Setting.isCancelled, hb.2]
    exact (turn_of_step? hb.1).isCancelled h
  | ends => exact h
  | signals hc => exact hc.isCancelled h

/-- A loop that has just left for a cancelled token has seen it cancelled. -/
theorem Step.cancelled (hs : Step w w') (h : w'.loop.position = .returned .cancelled) :
    w.loop.position = .returned .cancelled ∨ w.isCancelled = true := by
  obtain ⟨u, a, scope⟩ := w
  obtain ⟨u', a', scope'⟩ := w'
  cases hs with
  | start => cases h
  | branch m hb =>
    cases turn_of_step? hb.1 with
    | quitReading _ hc | quitHolding _ _ hc => exact Or.inr hc
    | refuse | readFrame | readFailure | readEnd | send | record | signal => cases h
  | ends => exact Or.inl h
  | signals => exact Or.inl h

theorem Run.isCancelled (hr : Run (initial capacity) w)
    (h : w.loop.position = .returned .cancelled) : w.isCancelled = true := by
  induction hr with
  | refl => cases h
  | tail _ hs ih =>
    rcases hs.cancelled h with hp | hc
    · exact hs.isCancelled (ih hp)
    · exact hs.isCancelled hc

/-! ## The end of the channel -/

/-- The reader sees the end when it has taken everything and the loop has returned. -/
theorem Run.sees_end_iff (hr : Run (initial capacity) w) :
    (w.loop.sink.poll Item.frame).1 = .ended ↔
      w.loop.sink.receiverOpen = true ∧ w.loop.sink.queue = [] ∧ w.loop.hasReturned = true := by
  rw [Channel.poll_eq_ended_iff, hr.kept.senderOpen, Bool.not_eq_false']

/-- What was read and not put into the channel, by the reason for which the loop returned. -/
theorem Kept.returned {u : RequestLoop} {why : RequestLoopEnd} (h : u.Kept)
    (hp : u.position = .returned why) :
    ∃ rest, u.source.seen = u.sink.given.map Item.frame ++ rest ∧
      (RequestLoopAt.returned why).Owes rest := by
  obtain ⟨rest, hs, ho⟩ := h.seen
  exact ⟨rest, hs, hp ▸ ho⟩

/-- One frame, then a failure of the caller's stream: the reader takes the frame and sees the
    end, although the loop has read a failure and will read no end. -/
theorem exists_trace_failed (f : Frame) (e : Status) :
    ∃ t w, Trace Step (initial 1) t w ∧ (w.loop.sink.poll Item.frame).1 = .ended ∧
      w.loop.position = .returned .failed := by
  have hnew : Trace Step (initial 1) [] _ := .refl
  have hfed := hnew.tail (.ends (.feed (.more [.frame f, .failure e] rfl)))
  have hstarted := hfed.tail (.start rfl)
  have hread := hstarted.tail (.of_step? (m := .read) rfl)
  have hsent := hread.tail (.of_step? (m := .send) rfl)
  have htaken := hsent.tail (.ends (.take rfl rfl))
  have hfailed := htaken.tail (.of_step? (m := .read) rfl)
  have hrecorded := hfailed.tail (.of_step? (m := .record) rfl)
  exact ⟨_, _, hrecorded.tail (.of_step? (m := .signal) rfl), rfl, rfl⟩

/-- **The end of the channel.**  The reader sees it whenever the loop has returned.  The
    caller's stream was then read to its end and taken in full exactly when the loop returned
    as finished; else a failure of the stream or a cancelled abort looks the same. -/
theorem end_complete_iff {capacity : Nat} {t : List (Setting RequestLoop × Setting RequestLoop)}
    {w : Setting RequestLoop} (ht : Trace Step (initial capacity) t w)
    (he : (w.loop.sink.poll Item.frame).1 = .ended) :
    ((Along ReadsEnd t ∧ w.loop.sink.seen.map Item.frame = w.loop.source.arrived) ↔
      w.loop.position = .returned .finished) ∧
    (w.loop.position = .returned .finished ∨
      w.loop.position = .returned .failed ∧
        (∃ e, w.loop.source.seen = w.loop.sink.seen.map Item.frame ++ [.failure e]) ∨
      w.loop.position = .returned .cancelled ∧ w.isCancelled = true ∧
        ∃ lost, lost.length ≤ 1 ∧
          w.loop.source.seen = w.loop.sink.seen.map Item.frame ++ lost) := by
  have hr : Run (initial capacity) w := ht.run
  obtain ⟨ho, hq, hret⟩ := hr.sees_end_iff.1 he
  have hseen := Channel.seen_eq_given hq
  refine ⟨⟨fun h => (along_readsEnd_iff ht).1 h.1, fun hp => ?_⟩, ?_⟩
  · refine ⟨(along_readsEnd_iff ht).2 hp, ?_⟩
    rw [hseen]
    exact hr.kept.complete hp
  · rw [hseen]
    cases hp : w.loop.position with
    | returned why =>
      obtain ⟨rest, hs, howes⟩ := hr.kept.returned hp
      cases why with
      | finished => exact Or.inl rfl
      | refused => rw [hr.kept.refused hp] at ho; cases ho
      | failed =>
        cases howes with
        | failed e => exact Or.inr (Or.inl ⟨rfl, e, hs⟩)
      | cancelled =>
        refine Or.inr (Or.inr ⟨rfl, hr.isCancelled hp, rest, ?_, hs⟩)
        cases howes <;> simp
    | idle | reading | holding | recording | signalling => rw [hasReturned, hp] at hret; cases hret

/-- The end that is seen after a failure, accounted for. -/
theorem end_incomplete_of_failed :
    ∃ t w, Trace Step (initial 1) t w ∧ (w.loop.sink.poll Item.frame).1 = .ended ∧
      ∃ e, w.loop.source.seen = w.loop.sink.seen.map Item.frame ++ [.failure e] := by
  obtain ⟨t, w, ht, he, hp⟩ := exists_trace_failed .empty (.of .unknown "stream reset")
  refine ⟨t, w, ht, he, ?_⟩
  rcases (end_complete_iff ht he).2 with h | ⟨-, h⟩ | ⟨h, -⟩
  · rw [hp] at h; cases h
  · exact h
  · rw [hp] at h; cases h

/-- So the end alone does not tell the reader that it was given everything. -/
theorem not_end_complete :
    ¬ ∀ (capacity : Nat) (t : List (Setting RequestLoop × Setting RequestLoop))
        (w : Setting RequestLoop), Trace Step (initial capacity) t w →
      (w.loop.sink.poll Item.frame).1 = .ended →
        Along ReadsEnd t ∧ w.loop.sink.seen.map Item.frame = w.loop.source.arrived := by
  intro h
  obtain ⟨t, w, ht, he, hp⟩ := exists_trace_failed .empty (.of .unknown "stream reset")
  have hf := (along_readsEnd_iff ht).1 (h 1 t w ht he).1
  rw [hp] at hf; cases hf

end RequestLoop

end GrpcRelay
