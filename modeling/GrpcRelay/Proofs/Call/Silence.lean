/-
  Silence — a call whose backend cannot send a byte of a response, and never will
  (`Call.Silent`): opening the stream has failed, or the call was refused or given
  up before.  Of the errors of all other calls only the failures of the request
  were given to them (`Call.SilentOrDraws`).
-/
import GrpcRelay.Proofs.Call.Bodies
import GrpcRelay.Proofs.Call.Provenance

namespace GrpcRelay

/-- Whether the handler of a call at this stage has still to take the backend's answer. -/
def Stage.isEarly : Stage → Bool
  | arriving | resolving | routed | tracked | opening => true
  | _ => false

namespace Call

variable {config : Config} {scope : Bool} {c c' : Call} {m : CallMove} {eff : Option Effect}
  {up down : ByteArray}

/-- No byte of a response comes any more. -/
structure Silent (c : Call) : Prop where
  live : c.response.live = false
  result : c.stage.isEarly = true → c.response.result ≠ none

theorem Silent.congr (h : c.Silent) (hr : c'.response = c.response)
    (hs : c'.stage.isEarly = true → c.stage.isEarly = true) : c'.Silent where
  live := hr ▸ h.live
  result hu := hr ▸ h.result (hs hu)

theorem Silent.responsePart (h : c.Silent) (ev : CallEvent) : c.responsePart ev = .empty := by
  cases ev with
  | respond bytes => rw [Call.responsePart, h.live]; rfl
  | _ => rfl

theorem Silent.not_awaitsReach (h : c.Silent) : c.awaitsReach = false := by
  by_contra ha
  obtain ⟨hs, hr⟩ := opening_of_awaitsReach (eq_true_of_ne_false ha)
  exact h.result (by rw [hs]; rfl) hr

theorem Silent.not_awaitsAnswer (h : c.Silent) : c.awaitsAnswer = false := by
  by_contra ha
  obtain ⟨hs, hr⟩ := opening_of_awaitsAnswer (eq_true_of_ne_false ha)
  exact h.result (by rw [hs]; rfl) hr

theorem Silent.not_listensToBackend (h : c.Silent) : c.listensToBackend = false := by
  rw [listensToBackend, h.live, Bool.false_and]

theorem silent_failOpening (c : Call) (s : Status) : (c.failOpening s).Silent :=
  ⟨rfl, fun _ => nofun⟩

theorem Silent.breakStream (h : c.Silent) (l : Loss) : (c.breakStream l).Silent := by
  unfold Call.breakStream
  dsimp only
  split
  · exact silent_failOpening _ _
  · exact ⟨rfl, h.result⟩

theorem Silent.leave (h : c.Silent) : c.leave.Silent := by
  unfold Call.leave
  dsimp only
  split <;> split <;> exact h.congr rfl id

theorem Silent.hear (h : c.Silent) : (c.hear config).2.Silent := by
  unfold Call.hear
  split
  · split <;> exact h.congr rfl id
  · exact h.congr rfl id
  · split
    · exact h
    · exact h.congr rfl id

theorem Silent.on (h : c.Silent) (ev : CallEvent) : (c.on config ev).Silent := by
  have hkeep {p : Prop} [Decidable p] {c₁ : Call} (h₁ : c₁.Silent) :
      (if p then c₁ else c).Silent := by
    split
    · exact h₁
    · exact h
  have hnever {b : Bool} {c₁ : Call} (hb : b = false) : (if b then c₁ else c).Silent := by
    rwa [hb]
  cases ev with
  | leave => exact h.leave
  | hear => exact hkeep h.hear
  | send | halfClose | fail | ready => exact hkeep (h.congr rfl id)
  | reach | turnAway => exact hnever h.not_awaitsReach
  | failOpening => exact hnever (by rw [awaitsOpening, h.not_awaitsReach, h.not_awaitsAnswer]; rfl)
  | respondHeaders | refuseHeaders => exact hnever h.not_awaitsAnswer
  | respond | respondEnd | respondNoMore | refuseTrailers => exact hnever h.not_listensToBackend
  | reset | breakDown => exact hkeep (h.breakStream _)

theorem Turn.silent (h : Turn config scope c m c' eff) (hc : c.Silent) : c'.Silent := by
  cases h with
  | forsake | rejectEncoding | rejectPath | refuse | failOpening | opened | record | signal | join
  | close | await => exact hc.congr rfl nofun
  | consult _ hs | track _ hs | launch _ _ _ hs =>
    exact hc.congr rfl fun _ => by rw [hs]; rfl
  | report _ _ hs | remove _ _ hs | free _ _ _ hs =>
    exact hc.congr rfl fun hu => by rw [hs]; exact hu
  | down | up => exact hc.congr rfl id
  | abandonOpening | abandonJoining | quit => exact ⟨rfl, nofun⟩
  | settle =>
    refine ⟨?_, nofun⟩
    show c.giveUpResponse.response.live = false
    unfold giveUpResponse
    split <;> exact hc.live
  | forward _ h =>
    cases forwards_of_forward h with
    | delivered => exact hc.congr rfl id
    | broken f sink =>
      have htaken : Silent { c with up := { c.up with sink } } := hc.congr rfl id
      exact htaken.breakStream .reset
  | finishRequest _ h =>
    cases finishes_of_finishRequest h with
    | ended => exact hc.congr rfl id
    | short => exact hc.breakStream .reset

/-! ## Errors -/

/-- No byte of the response has come and none will, or all errors of the call are the proxy's, the
    backend's or in `A`. -/
def SilentOrDraws (A : Status → Prop) (down : ByteArray) (c : Call) : Prop :=
  c.Silent ∧ down = .empty ∨ c.Draws (fun _ => True) (fun _ => True) A

theorem silentOrDraws_ofArrival (A : Status → Prop) (config : Config) (a : Arrival) :
    (ofArrival config a).SilentOrDraws A .empty := .inr (draws_ofArrival config a)

theorem SilentOrDraws.turn {A : Status → Prop} (h : c.SilentOrDraws A down)
    (ht : Turn config scope c m c' eff) : c'.SilentOrDraws A down :=
  h.imp (And.imp_left ht.silent) ht.draws

theorem SilentOrDraws.on {A : Status → Prop} {ev : CallEvent} (h : c.SilentOrDraws A down)
    (hb : c.Bodies config up down) (hA : ∀ e, ev = .fail e → A e) :
    (c.on config ev).SilentOrDraws A (down ++ c.responsePart ev) := by
  rcases h with ⟨hsilent, rfl⟩ | hdraws
  · exact .inl ⟨hsilent.on ev, by rw [hsilent.responsePart, ByteArray.empty_append]⟩
  · by_cases hopening : ∃ e, ev = .failOpening e
    · obtain ⟨e, rfl⟩ := hopening
      simp only [Call.on, responsePart, ByteArray.append_empty]
      split
      · next ha =>
        -- nothing has come of a response whose stream is not open
        have hs : c.stage = .opening ∧ c.response.result = none :=
          (Bool.or_eq_true_iff.1 ha).elim opening_of_awaitsReach opening_of_awaitsAnswer
        have hempty := (hb.unanswered (by rw [hs.1]; rfl) hs.2).1
        exact .inl ⟨(silent_failOpening c e).congr rfl id, hempty⟩
      · exact .inr hdraws
    · refine .inr (hdraws.on ?_)
      cases ev with
      | fail e => exact hA e rfl
      | failOpening e => exact absurd ⟨e, rfl⟩ hopening
      | respondEnd t => cases t <;> trivial
      | _ => trivial

end Call

end GrpcRelay
