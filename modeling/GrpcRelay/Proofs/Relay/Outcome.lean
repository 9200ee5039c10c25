/-
  The outcome of the response loop — where it comes from and what the receiver
  of the channel is told about it.

  An error is one that the backend's stream or its trailers gave, the reason
  of a cancelled abort, or that the caller has left (`Cause`).  A success
  follows on the end of the stream and its trailers (`Fetches`).
-/
import GrpcRelay.Proofs.Relay.ResponseLoop

namespace GrpcRelay

/-- The error that a loop at this position is going to return. -/
def ResponseLoopAt.error? : ResponseLoopAt → Option Status
  | recording e _ | signalling e _ | delivering _ (.error e) | returned (.error e) => some e
  | _ => none

/-- Whether an error is settled and all that comes before it is done. -/
def ResponseLoopAt.hasFailed : ResponseLoopAt → Bool
  | delivering _ (.error _) | returned (.error _) => true
  | _ => false

/-- Whether the loop is going to return a success. -/
def ResponseLoopAt.hasSucceeded : ResponseLoopAt → Bool
  | delivering _ (.ok _) | returned (.ok _) => true
  | _ => false

namespace ResponseLoop

variable {w w' : Setting ResponseLoop} {t : List (Setting ResponseLoop × Setting ResponseLoop)}
  {capacity : Nat} {e : Status}

/-- The loop reads the end of the backend's stream. -/
def ReadsEnd (w w' : Setting ResponseLoop) : Prop :=
  Branch .read w w' ∧ ∃ s, w.loop.source.next? = some (.ended, s)

/-- The loop takes trailers that have not failed. -/
def Fetches (t : Option Metadata) (w w' : Setting ResponseLoop) : Prop :=
  Branch .fetch w w' ∧ w.loop.source.trailers = .ok t

/-- The step in which the loop comes to the error that it will return. -/
inductive Cause (e : Status) (w w' : Setting ResponseLoop) : Prop
  | failure (h : Branch .read w w') (hn : ∃ s, w.loop.source.next? = some (.item (.failure e), s))
  | trailers (h : Branch .fetch w w') (ht : w.loop.source.trailers = .error e)
  | aborted (h : Branch .quit w w') (hc : w.isCancelled = true) (he : e = w.abort.reason)
  | deserted (h : Branch .desert w w') (hr : w.loop.sink.receiverOpen = false)
      (he : e = callerGone)

/-! ## Where an outcome comes from -/

theorem Step.cause (hs : Step w w') (h : w'.loop.position.error? = some e) :
    w.loop.position.error? = some e ∨ Cause e w w' := by
  obtain ⟨d, a, scope⟩ := w
  obtain ⟨d', a', scope'⟩ := w'
  cases hs with
  | start => cases h
  | branch m hb =>
    cases turn_of_step? hb.1 with
    | quitReading _ hc | quitHolding _ _ hc => cases h; exact Or.inr (.aborted hb hc rfl)
    | desertReading _ hr | desertHolding _ _ hr => cases h; exact Or.inr (.deserted hb hr rfl)
    | readFailure _ s _ hn => cases h; exact Or.inr (.failure hb ⟨s, hn⟩)
    | fetchFailure _ _ ht => cases h; exact Or.inr (.trailers hb ht)
    | readFrame | readEnd | send | fetchNothing | fetchSome => cases h
    | record _ _ hp | signalLoud _ hp | signalQuiet _ hp =>
      refine Or.inl ?_
      rw [hp]; exact h
    | deliver _ o hp | drop _ o hp =>
      refine Or.inl ?_
      rw [hp]; cases o <;> exact h
  | ends => exact Or.inl h
  | signals => exact Or.inl h

theorem Step.fetches (hs : Step w w') (h : w'.loop.position.hasSucceeded = true) :
    w.loop.position.hasSucceeded = true ∨ ∃ t, Fetches t w w' := by
  obtain ⟨d, a, scope⟩ := w
  obtain ⟨d', a', scope'⟩ := w'
  cases hs with
  | start => cases h
  | branch m hb =>
    cases turn_of_step? hb.1 with
    | fetchNothing t _ ht => exact Or.inr ⟨t, hb, ht⟩
    | fetchSome m _ ht => exact Or.inr ⟨some m, hb, ht⟩
    | quitReading | quitHolding | desertReading | desertHolding | readFrame | readFailure
    | readEnd | send | fetchFailure | record | signalLoud | signalQuiet => cases h
    | deliver _ o hp | drop _ o hp =>
      refine Or.inl ?_
      rw [hp]; cases o <;> exact h
  | ends => exact Or.inl h
  | signals => exact Or.inl h

theorem Fetches.fetching {m : Option Metadata} (h : Fetches m w w') :
    w.loop.position = .fetching := by
  obtain ⟨d, a, scope⟩ := w
  obtain ⟨d', a', scope'⟩ := w'
  cases turn_of_step? h.1.1 <;> assumption

theorem Step.readsEnd (hs : Step w w') (h : w'.loop.position = .fetching) :
    w.loop.position = .fetching ∨ ReadsEnd w w' := by
  obtain ⟨d, a, scope⟩ := w
  obtain ⟨d', a', scope'⟩ := w'
  cases hs with
  | start => cases h
  | branch m hb =>
    cases turn_of_step? hb.1 with
    | readEnd s _ hn => exact Or.inr ⟨hb, s, hn⟩
    | quitReading | quitHolding | desertReading | desertHolding | readFrame | readFailure | send
    | fetchFailure | fetchNothing | fetchSome | record | signalLoud | signalQuiet | deliver
    | drop => cases h
  | ends => exact Or.inl h
  | signals => exact Or.inl h

theorem along_cause (ht : Trace Step (initial capacity) t w)
    (h : w.loop.position.error? = some e) : Along (Cause e) t :=
  ht.along_of_not_initially (P := fun w => w.loop.position.error? = some e) (fun h => by cases h)
    Step.cause h

theorem along_fetches (ht : Trace Step (initial capacity) t w)
    (h : w.loop.position.hasSucceeded = true) : Along (fun u v => ∃ m, Fetches m u v) t :=
  ht.along_of_not_initially (P := fun w => w.loop.position.hasSucceeded = true)
    (fun h => by cases h) Step.fetches h

/-- Trailers are only taken after the end has been read. -/
theorem along_readsEnd (ht : Trace Step (initial capacity) t w)
    (h : Along (fun u v => ∃ m, Fetches m u v) t) : Along ReadsEnd t := by
  obtain ⟨p, hmem, m, hf⟩ := h
  obtain ⟨t₁, t₂, rfl, ht₁, -, -⟩ := ht.split hmem
  obtain ⟨q, hmem, he⟩ := ht₁.along_of_not_initially
    (P := fun w => w.loop.position = .fetching) (fun h => by cases h) Step.readsEnd hf.fetching
  exact ⟨q, List.mem_append_left _ hmem, he⟩

/-! ## The token -/

theorem Turn.isCancelled {scope : Bool} {d d' : ResponseLoop} {a a' : Abort} {m : Move}
    (h : Turn scope d a m d' a') (hc : a.isCancelled scope = true) :
    a'.isCancelled scope = true := by
  cases h with
  | signalLoud | signalQuiet => rfl
  | quitReading | quitHolding | desertReading | desertHolding | readFrame | readFailure | readEnd
  | send | fetchFailure | fetchNothing | fetchSome | record | deliver | drop => exact hc

/-- A token that is cancelled stays cancelled. -/
theorem Step.isCancelled (hs : Step w w') (h : w.isCancelled = true) : w'.isCancelled = true := by
  cases hs with
  | start => exact h
  | branch m hb =>
    rw [Setting.isCancelled, hb.2]
    exact (turn_of_step? hb.1).isCancelled h
  | ends => exact h
  | signals hc => exact hc.isCancelled h

/-- The token is cancelled before an error is handed on or returned. -/
theorem Step.hasFailed (hs : Step w w') (h : w'.loop.position.hasFailed = true) :
    w.loop.position.hasFailed = true ∨ w'.isCancelled = true := by
  obtain ⟨d, a, scope⟩ := w
  obtain ⟨d', a', scope'⟩ := w'
  cases hs with
  | start => cases h
  | branch m hb =>
    obtain ⟨hb, hscope⟩ := hb
    change scope' = scope at hscope
    subst hscope
    cases turn_of_step? hb with
    | quitReading _ hc | quitHolding _ _ hc => exact Or.inr hc
    | signalLoud | signalQuiet => exact Or.inr rfl
    | desertReading | desertHolding | readFrame | readFailure | readEnd | send | fetchFailure
    | fetchNothing | fetchSome | record => cases h
    | deliver _ o hp | drop _ o hp =>
      refine Or.inl ?_
      rw [hp]; cases o <;> exact h
  | ends => exact Or.inl h
  | signals => exact Or.inl h

theorem Run.isCancelled (hr : Run (initial capacity) w)
    (h : w.loop.position.hasFailed = true) : w.isCancelled = true := by
  induction hr with
  | refl => cases h
  | tail _ hs ih =>
    rcases hs.hasFailed h with hp | hc
    · exact hs.isCancelled (ih hp)
    · exact hc

/-! ## The outcome -/

theorem outcome?_eq_some {d : ResponseLoop} {o : Outcome} (h : d.outcome? = some o) :
    d.position = .returned o := by
  unfold outcome? at h
  split at h
  · next hp => cases h; exact hp
  · cases h

/-- An error that is returned is the last item of the channel, unless the receiver has left. -/
theorem Kept.last_of_error {d : ResponseLoop} (h : d.Kept)
    (hp : d.position = .returned (.error e)) (hr : d.sink.receiverOpen = true) :
    d.sink.given.getLast? = some (.failure e) := by
  obtain ⟨fs, rest, last, -, hg, ho⟩ := h.flow
  rw [hp, hr] at ho
  cases ho with
  | told hc =>
    rw [hg]
    cases hc with
    | failure | trailers | quit | dropped => exact List.getLast?_concat
    | gone hr | droppedGone _ hr => cases hr
  | untold _ hr => cases hr

/-- A success leaves what the trailers have to say as the last item of the channel. -/
theorem Kept.last_of_ok {d : ResponseLoop} (h : d.Kept) (hp : d.position = .returned (.ok ())) :
    ∃ t, d.source.ended = true ∧ d.source.queue = [] ∧ d.source.trailers = .ok t ∧
      (d.sink.receiverOpen = true → ∃ fs : List Frame,
        d.sink.given = fs.map Item.frame ++ (parting t).toList.map Item.failure) := by
  obtain ⟨fs, rest, last, -, hg, ho⟩ := h.flow
  rw [hp] at ho
  cases ho with
  | told hc =>
    cases hc with
    | clean t he hq ht => exact ⟨t, he, hq, ht, fun _ => ⟨fs, hg⟩⟩
  | untold hc hr =>
    cases hc with
    | clean t he hq ht => exact ⟨t, he, hq, ht, fun ho => by rw [hr] at ho; cases ho⟩

/-- A loop that has succeeded has put in all frames of its source. -/
theorem Kept.whole_of_ok {d : ResponseLoop} (h : d.Kept) (hp : d.position = .returned (.ok ())) :
    framesOf d.sink.given = framesOf d.source.arrived := by
  obtain ⟨fs, rest, last, hs, hg, ho⟩ := h.flow
  have hrest : rest = [] := by
    rw [hp] at ho
    cases ho with
    | told hc | untold hc => cases hc; rfl
  obtain ⟨-, -, hq, -⟩ := h.last_of_ok hp
  rw [hg, ← Source.seen_eq_arrived hq, hs, hrest, framesOf_append, framesOf_append,
    framesOf_failures]
  rfl

/-- **The outcome of the response loop.**  The channel is given frames, then at most one status
    and nothing after it.  An error has a cause, comes with a cancelled token and is the last item
    unless the receiver has left.  A success comes after the end of the stream and trailers that
    did not fail, and the last item is what these have to say, if anything. -/
theorem outcome_exact {capacity : Nat} {t : List (Setting ResponseLoop × Setting ResponseLoop)}
    {w : Setting ResponseLoop} (ht : Trace Step (initial capacity) t w) :
    (∃ (fs : List Frame) (last : Option Status),
      w.loop.sink.given = fs.map Item.frame ++ last.toList.map Item.failure ∧
      (last.isSome = true → w.loop.hasReturned = true)) ∧
    (∀ e, w.loop.outcome? = some (.error e) →
      Along (Cause e) t ∧ w.isCancelled = true ∧
      (w.loop.sink.receiverOpen = true → w.loop.sink.given.getLast? = some (.failure e))) ∧
    (w.loop.outcome? = some (.ok ()) →
      Along ReadsEnd t ∧ Along (fun u v => ∃ m, Fetches m u v) t ∧
      ∃ trailers, w.loop.source.trailers = .ok trailers ∧
        (w.loop.sink.receiverOpen = true →
          (∀ m, trailers = some m → m.strip.isEmpty = false →
            w.loop.sink.given.getLast? = some (.failure (.okWith m.strip))) ∧
          ((∀ m, trailers = some m → m.strip.isEmpty = true) →
            ∃ fs : List Frame, w.loop.sink.given = fs.map Item.frame))) := by
  have hr : Run (initial capacity) w := ht.run
  refine ⟨?_, ?_, ?_⟩
  · obtain ⟨fs, rest, last, -, hg, ho⟩ := hr.kept.flow
    refine ⟨fs, last, hg, fun hl => ?_⟩
    rw [hasReturned, outcome?]
    generalize w.loop.position = p at ho ⊢
    cases ho with
    | told | untold => rfl
    | idle | reading | holding | fetching | recording | signalling | delivering => cases hl
  · intro e he
    have hp := outcome?_eq_some he
    refine ⟨along_cause ht (by rw [hp]; rfl), hr.isCancelled (by rw [hp]; rfl), ?_⟩
    exact hr.kept.last_of_error hp
  · intro hok
    have hp := outcome?_eq_some hok
    have hf := along_fetches ht (by rw [hp]; rfl)
    obtain ⟨trailers, -, -, htrailers, hlast⟩ := hr.kept.last_of_ok hp
    refine ⟨along_readsEnd ht hf, hf, trailers, htrailers, fun ho => ?_⟩
    obtain ⟨fs, hg⟩ := hlast ho
    constructor
    · rintro m rfl hm
      rw [hg, parting, hm]
      exact List.getLast?_concat
    · intro hm
      refine ⟨fs, ?_⟩
      cases trailers with
      | none => simpa [parting] using hg
      | some m => simpa [parting, hm m rfl] using hg

/-- A stream that fails after a frame. -/
theorem outcome_exact_of_failure :
    ∃ t w, Trace Step (initial 2) t w ∧
      w.loop.outcome? = some (.error (.of .unavailable "gone")) ∧
      Along (Cause (.of .unavailable "gone")) t ∧ w.isCancelled = true ∧
      w.loop.sink.given.getLast? = some (.failure (.of .unavailable "gone")) := by
  have hnew : Trace Step (initial 2) [] _ := .refl
  have hfed := hnew.tail
    (.ends (.feed (.more [.frame .empty, .failure (.of .unavailable "gone")] rfl)))
  have hstarted := hfed.tail (.start rfl)
  have hread := hstarted.tail (.of_step? (m := .read) rfl)
  have hsent := hread.tail (.of_step? (m := .send) rfl)
  have hfailed := hsent.tail (.of_step? (m := .read) rfl)
  have hrecorded := hfailed.tail (.of_step? (m := .record) rfl)
  have hsignalled := hrecorded.tail (.of_step? (m := .signal) rfl)
  have ht := hsignalled.tail (.of_step? (m := .deliver) rfl)
  obtain ⟨hcause, hc, hlast⟩ := (outcome_exact ht).2.1 _ rfl
  exact ⟨_, _, ht, rfl, hcause, hc, hlast rfl⟩

end ResponseLoop

end GrpcRelay
