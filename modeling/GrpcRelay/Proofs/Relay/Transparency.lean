/-
  Transparency — what the request loop can do to the response loop, with which
  it shares nothing but the abort.

  The two loops and the abort between them are a relay (`Relay`), and all that
  the response loop can see of it is its own setting (`Relay.lower`).  The
  request loop changes that only after it has read a failure of the caller's
  stream; where it returns because that stream has ended or because its channel
  was left, the response loop does what it could do beside a request loop that
  waits on an open stream for ever (`half_close_transparent`).
-/
import GrpcRelay.Proofs.Relay.Joint

namespace GrpcRelay

/-! ## Failures of the caller's stream -/

/-- Whether a request loop here has read a failure. -/
def RequestLoopAt.isFailing : RequestLoopAt → Bool
  | recording _ | signalling | returned .failed => true
  | idle | reading | holding _ | returned .finished | returned .refused | returned .cancelled =>
    false

namespace RequestLoop

variable {scope : Bool} {u u' : RequestLoop} {a a' : Abort} {m : Move}
  {w w' : Setting RequestLoop}

/-- The loop reads a failure. -/
def ReadsFailure (w w' : Setting RequestLoop) : Prop :=
  Branch .read w w' ∧ ∃ e s, w.loop.source.next? = some (.item (.failure e), s)

/-- The loop changes the abort only once it has read a failure. -/
theorem Turn.abort_eq (h : Turn scope u a m u' a') (hf : u.position.isFailing = false) :
    a' = a := by
  cases h with
  | record e hp => rw [hp] at hf; cases hf
  | signal hp => rw [hp] at hf; cases hf
  | quitReading | quitHolding | refuse | readFrame | readFailure | readEnd | send => rfl

theorem ReadsFailure.isFailing (h : ReadsFailure w w') : w'.loop.position.isFailing = true := by
  obtain ⟨u, a, scope⟩ := w
  obtain ⟨u', a', scope'⟩ := w'
  obtain ⟨⟨hb, -⟩, e, s, hn⟩ := h
  cases turn_of_step? hb with
  | readFrame _ _ _ hn' | readEnd _ _ hn' => rw [hn] at hn'; cases hn'
  | readFailure => rfl

/-- A loop that has read a failure goes on to return with it. -/
theorem Step.isFailing (hs : Step w w') (hf : w.loop.position.isFailing = true) :
    w'.loop.position.isFailing = true := by
  obtain ⟨u, a, scope⟩ := w
  obtain ⟨u', a', scope'⟩ := w'
  cases hs with
  | start hp => rw [hp] at hf; cases hf
  | branch m hb =>
    cases turn_of_step? hb.1 with
    | quitReading hp | quitHolding _ hp | refuse _ hp | readFrame _ _ hp | readFailure _ _ hp
    | readEnd _ hp | send _ hp => rw [hp] at hf; cases hf
    | record | signal => rfl
  | ends | signals => exact hf

/-- A loop that is failing now has been so before, or has just read a failure. -/
theorem Step.readsFailure (hs : Step w w') (hf : w'.loop.position.isFailing = true) :
    w.loop.position.isFailing = true ∨ ReadsFailure w w' := by
  obtain ⟨u, a, scope⟩ := w
  obtain ⟨u', a', scope'⟩ := w'
  cases hs with
  | start => cases hf
  | branch m hb =>
    cases turn_of_step? hb.1 with
    | quitReading | quitHolding | refuse | readFrame | readEnd | send => cases hf
    | readFailure e s _ hn => exact .inr ⟨hb, e, s, hn⟩
    | record e hp => exact .inl (by rw [hp]; rfl)
    | signal hp => exact .inl (by rw [hp]; rfl)
  | ends | signals => exact .inl hf

theorem failed_iff (h : u.hasReturned = true) :
    u.position = .returned .failed ↔ u.position.isFailing = true := by
  unfold hasReturned at h
  split at h
  · next why hp =>
    rw [hp]
    cases why <;> simp [RequestLoopAt.isFailing]
  · cases h

/-- The loop waits on an open stream of which it has read all that has arrived. -/
structure Waiting (u : RequestLoop) : Prop where
  position : u.position = .reading
  next? : u.source.next? = none

end RequestLoop

/-! ## Beside another request loop -/

namespace Relay

/-- The same relay with another request loop. -/
def withUp (r : Relay) (u : RequestLoop) : Relay := { r with up := u }

@[simp] theorem lower_withUp (r : Relay) (u : RequestLoop) : (r.withUp u).lower = r.lower := rfl

theorem withUp_eq_of_lower {r r' : Relay} (h : r'.lower = r.lower) (u : RequestLoop) :
    r'.withUp u = r.withUp u := by
  obtain ⟨hd, ha, hs⟩ := Setting.mk.inj h
  rw [withUp, hd, ha, hs, withUp]

/-- A step by which nothing comes to the caller's stream. -/
def Idle (r r' : Relay) : Prop := Step r r' ∧ r'.up.source = r.up.source

/-- The request loop takes this branch. -/
def Branch (m : RequestLoop.Move) (r r' : Relay) : Prop :=
  RequestLoop.Branch m r.upper r'.upper ∧ r'.down = r.down

/-- The request loop reads a failure. -/
def ReadsFailure (r r' : Relay) : Prop :=
  RequestLoop.ReadsFailure r.upper r'.upper ∧ r'.down = r.down

/-- What the response loop has seen after each step. -/
def history (t : List (Relay × Relay)) : List (Setting ResponseLoop) := t.map fun p => p.2.lower

variable {r r' w w' v v' : Relay} {t : List (Relay × Relay)} {u : RequestLoop}
  {m : RequestLoop.Move}

/-- A branch of the request loop does not show below unless it has read a failure. -/
theorem Branch.lower_eq (h : Branch m r r') (hf : r.up.position.isFailing = false) :
    r'.lower = r.lower := by
  have habort : r'.abort = r.abort := (RequestLoop.turn_of_step? h.1.1).abort_eq hf
  have hscope : r'.scope = r.scope := h.1.2
  rw [lower, h.2, habort, hscope, lower]

theorem Step.isFailing (hs : Step r r') (hf : r.up.position.isFailing = true) :
    r'.up.position.isFailing = true := by
  cases hs with
  | up h => exact h.isFailing hf
  | down _ hu => rw [hu]; exact hf

theorem Step.readsFailure (hs : Step r r') (hf : r'.up.position.isFailing = true) :
    r.up.position.isFailing = true ∨ ReadsFailure r r' := by
  cases hs with
  | up h hd => exact (h.readsFailure hf).imp_right fun hr => ⟨hr, hd⟩
  | down _ hu => rw [hu] at hf; exact .inl hf

theorem ReadsFailure.isFailing (h : ReadsFailure r r') : r'.up.position.isFailing = true :=
  RequestLoop.ReadsFailure.isFailing h.1

/-- The request loop has read a failure exactly if its position says so. -/
theorem along_readsFailure_iff (ht : Trace Step w t w') (h₀ : w.up.position = .idle) :
    Along ReadsFailure t ↔ w'.up.position.isFailing = true := by
  constructor
  · exact ht.holds_of_along (P := fun r => r.up.position.isFailing = true)
      (fun _ => ReadsFailure.isFailing) Step.isFailing
  · refine ht.along_of_not_initially (P := fun r => r.up.position.isFailing = true) ?_
      Step.readsFailure
    rw [h₀]; nofun

/-! ## Beside an idle one -/

/-- A step without failures is one beside any other request loop to which nothing happens, or it
    does not show below. -/
theorem Step.withUp (hs : Step r r') (hf : r.up.position.isFailing = false) (u : RequestLoop) :
    Relation.ReflGen Idle (r.withUp u) (r'.withUp u) := by
  have hsame (h : r'.lower = r.lower) : Relation.ReflGen Idle (r.withUp u) (r'.withUp u) := by
    rw [withUp_eq_of_lower h]
  cases hs with
  | down h => exact .single ⟨.down h rfl, rfl⟩
  | up h hd =>
    obtain ⟨up, down, abort, scope⟩ := r
    obtain ⟨up', down', abort', scope'⟩ := r'
    cases hd
    cases h with
    | start | ends => exact hsame rfl
    | branch m hb => exact hsame (Branch.lower_eq (m := m) ⟨hb, rfl⟩ hf)
    | signals h => exact .single ⟨.up (.signals h) rfl, rfl⟩

/-- A request loop to which nothing came since it was `u` and waited: it still waits, or it has
    returned because the abort was cancelled. -/
structure Rests (u v : RequestLoop) : Prop where
  position : v.position = .reading ∨ v.position = .returned .cancelled
  source : v.source = u.source

theorem Rests.quits {scope : Bool} {up up' : RequestLoop} {a a' : Abort} (hv : Rests u up)
    (hu : u.Waiting) (h : RequestLoop.Turn scope up a m up' a') :
    up'.position = .returned .cancelled ∧ a' = a := by
  have hnext : up.source.next? = none := hv.source ▸ hu.next?
  cases h with
  | quitReading | quitHolding => exact ⟨rfl, rfl⟩
  | readFrame _ _ _ hn | readFailure _ _ _ hn | readEnd _ _ hn => rw [hnext] at hn; cases hn
  | refuse _ hp | send _ hp | record _ hp | signal hp =>
    rcases hv.position with hv | hv <;> rw [hv] at hp <;> cases hp

/-- A step beside such a loop is one beside any other request loop to which nothing happens, or it
    does not show below. -/
theorem Rests.step (hv : Rests u v.up) (hu : u.Waiting) (hs : Idle v v') (u₁ : RequestLoop) :
    Rests u v'.up ∧ Relation.ReflGen Step (v.withUp u₁) (v'.withUp u₁) := by
  obtain ⟨hs, hsource⟩ := hs
  have hsame (h : v'.lower = v.lower) : Relation.ReflGen Step (v.withUp u₁) (v'.withUp u₁) := by
    rw [withUp_eq_of_lower h]
  cases hs with
  | down h heq => exact ⟨heq ▸ hv, .single (.down h rfl)⟩
  | up h hd =>
    obtain ⟨up, down, abort, scope⟩ := v
    obtain ⟨up', down', abort', scope'⟩ := v'
    cases hd
    have hrests (hp : up'.position = .reading ∨ up'.position = .returned .cancelled) :
        Rests u up' := ⟨hp, hsource.trans hv.source⟩
    cases h with
    | start hp => rcases hv.position with hv | hv <;> rw [hp] at hv <;> cases hv
    | ends => exact ⟨hrests hv.position, hsame rfl⟩
    | signals h => exact ⟨hv, .single (.up (.signals h) rfl)⟩
    | branch m hb =>
      obtain ⟨hp, ha⟩ := hv.quits hu (RequestLoop.turn_of_step? hb.1)
      obtain rfl : abort' = abort := ha
      obtain rfl : scope' = scope := hb.2
      exact ⟨hrests (.inr hp), hsame rfl⟩

/-! ## Transparency -/

theorem isFailing_of_run (hr : Relation.ReflTransGen Step r r')
    (hf : r.up.position.isFailing = true) : r'.up.position.isFailing = true := by
  induction hr with
  | refl => exact hf
  | tail _ hs ih => exact hs.isFailing ih

/-- Where no failure has been read in the end, none had been on the way. -/
theorem not_isFailing_of_mem {p : Relay × Relay} (ht : Trace Step w t w')
    (hf : w'.up.position.isFailing = false) (hp : p ∈ t) : p.1.up.position.isFailing = false := by
  obtain ⟨-, -, -, -, hs, hr⟩ := ht.split hp
  rw [← Bool.not_eq_true]
  intro hp'
  rw [isFailing_of_run (.head hs hr) hp'] at hf
  cases hf

/-- A run without failures is one beside an idle request loop. -/
theorem exists_idle (ht : Trace Step w t w') (hf : w'.up.position.isFailing = false)
    (u : RequestLoop) :
    ∃ t', Trace (Relation.ReflGen Idle) (w.withUp u) t' (w'.withUp u) ∧ history t' = history t := by
  have hquiet := ht.restrict (B := fun r _ => r.up.position.isFailing = false)
    fun _ => not_isFailing_of_mem ht hf
  obtain ⟨t', v', ht', rfl, hsees⟩ := hquiet.simulate (M := fun r v => v = r.withUp u)
    (f := lower) (g := lower) (fun hm hs => ⟨_, hm ▸ hs.1.withUp hs.2 u, rfl⟩)
    (fun hm => by rw [hm, lower_withUp]) rfl
  exact ⟨t', ht', hsees⟩

theorem isFailing_of_returned {why : RequestLoopEnd} (hp : r.up.position = .returned why)
    (hw : why ≠ .failed) : r.up.position.isFailing = false := by
  rw [hp]
  cases why with
  | failed => exact absurd rfl hw
  | finished | refused | cancelled => rfl

/-- Beside a request loop that has returned without a failure the response loop can do exactly
    what it can do beside an idle one. -/
theorem onward_iff {why : RequestLoopEnd} (hp : w.up.position = .returned why)
    (hw : why ≠ .failed) (hu : u.Waiting) (seen : List (Setting ResponseLoop)) :
    (∃ t w', Trace (Relation.ReflGen Step) w t w' ∧ history t = seen) ↔
      ∃ t w', Trace (Relation.ReflGen Idle) (w.withUp u) t w' ∧ history t = seen := by
  constructor
  · rintro ⟨t, w', ht, rfl⟩
    obtain ⟨t', v', ht', -, hsees⟩ := ht.simulate (S := Idle)
      (M := fun r v => r.up.position = .returned why ∧ v = r.withUp u) (f := lower) (g := lower)
      (fun {r r' v} hm hs => by
        obtain ⟨hr, rfl⟩ := hm
        cases hs with
        | refl => exact ⟨_, .refl, hr, rfl⟩
        | single hs =>
          refine ⟨_, hs.withUp (isFailing_of_returned hr hw) u, ?_, rfl⟩
          cases hs with
          | up h => exact h.returned hr
          | down _ heq => rw [heq]; exact hr)
      (fun hm => by rw [hm.2, lower_withUp]) ⟨hp, rfl⟩
    exact ⟨t', v', ht', hsees⟩
  · rintro ⟨t, w', ht, rfl⟩
    obtain ⟨t', v', ht', -, hsees⟩ := ht.simulate (S := Step)
      (M := fun v r => Rests u v.up ∧ r = v.withUp w.up) (f := lower) (g := lower)
      (fun {v v' r} hm hs => by
        obtain ⟨hv, rfl⟩ := hm
        cases hs with
        | refl => exact ⟨_, .refl, hv, rfl⟩
        | single hs =>
          obtain ⟨hv', hs'⟩ := hv.step hu hs w.up
          exact ⟨_, hs', hv', rfl⟩)
      (fun hm => by rw [hm.2, lower_withUp]) ⟨⟨.inl hu.position, rfl⟩, rfl⟩
    exact ⟨t', v', ht', hsees⟩

/-- **Half-close is transparent.**  A request loop returns as failed exactly if it has read a
    failure of the caller's stream, and before that it does nothing that the response loop could
    see.  When it has returned for another reason, it has left the abort and the scope alone, what
    the response loop has gone through could all have happened beside a request loop `u` that
    waits on an open stream to which nothing comes, and what the response loop can still go through
    is exactly what it could beside `u`. -/
theorem half_close_transparent {w₀ w : Relay} {t : List (Relay × Relay)} {u : RequestLoop}
    (h₀ : w₀.up.position = .idle) (ht : Trace Step w₀ t w) (hu : u.Waiting) :
    (w.up.hasReturned = true → (w.up.position = .returned .failed ↔ Along ReadsFailure t)) ∧
    (∀ p ∈ t, ∀ m, Branch m p.1 p.2 → p.2.lower ≠ p.1.lower →
      ∃ t₁ t₂, t = t₁ ++ p :: t₂ ∧ Along ReadsFailure t₁) ∧
    (∀ why, w.up.position = .returned why → why ≠ .failed →
      (∀ p ∈ t, ∀ m, Branch m p.1 p.2 → p.2.abort = p.1.abort ∧ p.2.scope = p.1.scope) ∧
      (∃ t', Trace (Relation.ReflGen Idle) (w₀.withUp u) t' (w.withUp u) ∧
        history t' = history t) ∧
      ∀ seen, (∃ t' w', Trace (Relation.ReflGen Step) w t' w' ∧ history t' = seen) ↔
        ∃ t' w', Trace (Relation.ReflGen Idle) (w.withUp u) t' w' ∧ history t' = seen) := by
  refine ⟨fun hret => ?_, fun p hmem m hb hne => ?_, fun why hp hw => ?_⟩
  · rw [along_readsFailure_iff ht h₀]
    exact RequestLoop.failed_iff hret
  · obtain ⟨t₁, t₂, rfl, ht₁, -, -⟩ := ht.split hmem
    refine ⟨t₁, t₂, rfl, (along_readsFailure_iff ht₁ h₀).2 ?_⟩
    rw [← Bool.not_eq_false]
    exact fun hf => hne (hb.lower_eq hf)
  · have hf := isFailing_of_returned hp hw
    refine ⟨fun p hmem m hb => ?_, exists_idle ht hf u, onward_iff hp hw hu⟩
    have hlower := hb.lower_eq (not_isFailing_of_mem ht hf hmem)
    exact ⟨congrArg Setting.abort hlower, congrArg Setting.scope hlower⟩

/-- The caller ends its stream, and the request loop returns, before the backend sends anything:
    the response loop goes on to hand over a frame and the end of the response. -/
theorem half_close_transparent_of_finished :
    ∃ t w, Trace Step (initial 1) t w ∧ w.up.position = .returned .finished ∧
      w.down.sink.given = [.frame .empty] ∧ w.down.position = .returned (.ok ()) ∧
      ∃ t', Trace (Relation.ReflGen Idle) ((initial 1).withUp (initial 1).up.start) t'
        (w.withUp (initial 1).up.start) ∧ history t' = history t := by
  have hnew : Trace Step (initial 1) [] _ := .refl
  have hstarted := hnew.tail (.of_up (.start rfl))
  have hopened := hstarted.tail (.of_down (.start rfl))
  have hclosed := hopened.tail (.of_up (.ends (.feed (.close (.ok none) rfl))))
  have hfinished := hclosed.tail (.of_up (.of_step? (m := .read) rfl))
  have hfed := hfinished.tail (.of_down (.ends (.feed (.more [.frame .empty] rfl))))
  have hread := hfed.tail (.of_down (.of_step? (m := .read) rfl))
  have hsent := hread.tail (.of_down (.of_step? (m := .send) rfl))
  have hended := hsent.tail (.of_down (.ends (.feed (.close (.ok none) rfl))))
  have hfetching := hended.tail (.of_down (.of_step? (m := .read) rfl))
  have ht := hfetching.tail (.of_down (.of_step? (m := .fetch) rfl))
  have hwaiting : (initial 1).up.start.Waiting := ⟨rfl, rfl⟩
  obtain ⟨-, -, hclean⟩ := half_close_transparent rfl ht hwaiting
  obtain ⟨-, hidle, -⟩ := hclean .finished rfl nofun
  exact ⟨_, _, ht, rfl, rfl, rfl, hidle⟩

end Relay

end GrpcRelay
