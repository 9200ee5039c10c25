/-
  Logs — a run of a service with all events that came to it, each beside the
  service that it found (`Service.Logged`), and the bytes that they have brought
  for the two bodies of a call: its frames are the first of these
  (`Service.Logged.bodies`).
-/
import GrpcRelay.Proofs.Call.Bodies
import GrpcRelay.Proofs.Service.Fidelity
import GrpcRelay.Proofs.Service.Rest

namespace GrpcRelay

namespace Service

variable {config : Config} {E : ServiceEvent → Prop} {log : List (Service × ServiceEvent)}
  {s s' : Service} {i : Nat} {c c' : Call} {e : ServiceEvent} {up down : ByteArray}
  {part : Call → CallEvent → ByteArray}

/-- Runs of a service, with the events that came to it. -/
inductive Logged (config : Config) : List (Service × ServiceEvent) → Service → Prop
  | start : Logged config [] (.ofConfig config)
  | branch {log : List (Service × ServiceEvent)} {s : Service} (hl : Logged config log s) (i : Nat)
      (m : CallMove) {r : Call × Option Effect} (h : s.branch? i m = some r) :
      Logged config log (s.after i r)
  | event {log : List (Service × ServiceEvent)} {s : Service} (hl : Logged config log s)
      (e : ServiceEvent) (h : s.Admits e) : Logged config (log ++ [(s, e)]) (s.on e)

theorem Logged.run (hl : Logged config log s) : Run (.ofConfig config) s := by
  induction hl with
  | start => exact .refl
  | branch _ i m h ih => exact ih.tail (.branch i m h)
  | event _ e h ih => exact ih.tail (.event e h)

theorem Logged.config_eq (hl : Logged config log s) : s.config = config := Run.config hl.run

/-- Every run has a log. -/
theorem RunOf.logged (hr : RunOf E (.ofConfig config) s) :
    ∃ log, Logged config log s ∧ ∀ p ∈ log, E p.2 := by
  induction hr with
  | refl => exact ⟨[], .start, fun _ hp => absurd hp List.not_mem_nil⟩
  | tail _ hs ih =>
    obtain ⟨log, hl, hE⟩ := ih
    cases hs with
    | branch i m h => exact ⟨log, hl.branch i m h, hE⟩
    | event e h he =>
      refine ⟨_, hl.event e h, fun p hp => ?_⟩
      rcases List.mem_append.1 hp with hp | hp
      · exact hE p hp
      · rw [List.mem_singleton.1 hp]; exact he

/-! ## Bytes -/

/-- The bytes that an event adds to a body of call `i`. -/
def partOf (part : Call → CallEvent → ByteArray) (i : Nat) : Service × ServiceEvent → ByteArray
  | (s, .call j e) => if j = i then s.calls[i]?.elim .empty fun c => part c e else .empty
  | _ => .empty

/-- The bytes of a body of call `i`. -/
def bytesOf (part : Call → CallEvent → ByteArray) (i : Nat)
    (log : List (Service × ServiceEvent)) : ByteArray :=
  Reading.joined (log.map (partOf part i))

/-- The bytes that the caller of call `i` has sent. -/
abbrev requestBytes : Nat → List (Service × ServiceEvent) → ByteArray := bytesOf Call.requestPart

/-- The bytes that the backend of call `i` has sent. -/
abbrev responseBytes : Nat → List (Service × ServiceEvent) → ByteArray := bytesOf Call.responsePart

theorem bytesOf_concat (p : Service × ServiceEvent) :
    bytesOf part i (log ++ [p]) = bytesOf part i log ++ partOf part i p := by
  induction log with
  | nil =>
    show partOf part i p ++ .empty = .empty ++ partOf part i p
    rw [ByteArray.append_empty, ByteArray.empty_append]
  | cons q log ih =>
    show partOf part i q ++ bytesOf part i (log ++ [p]) = partOf part i q ++ bytesOf part i log ++ _
    rw [ih, ByteArray.append_assoc]

theorem partOf_call {ev : CallEvent} (hc : s.calls[i]? = some c) :
    partOf part i (s, .call i ev) = part c ev := by
  rw [partOf, if_pos rfl, hc]
  rfl

theorem partOf_of_ne (he : ∀ ev, e ≠ .call i ev) : partOf part i (s, e) = .empty := by
  cases e with
  | call j ev => exact if_neg fun hj => he ev (by rw [hj])
  | arrive | decide | createScope | cancelScope | shutdown => rfl

theorem partOf_of_none (hc : s.calls[i]? = none) : partOf part i (s, e) = .empty := by
  cases e with
  | call j ev =>
    rw [partOf, hc]
    exact ite_self _
  | arrive | decide | createScope | cancelScope | shutdown => rfl

theorem Step.calls_none (hs : Step s s') (h : s'.calls[i]? = none) : s.calls[i]? = none := by
  cases hc : s.calls[i]? with
  | none => rfl
  | some c =>
    obtain ⟨c', hc', -⟩ := hs.moves hc
    rw [h] at hc'; cases hc'

/-- Nothing was sent in a call that there is not. -/
theorem Logged.bytesOf_of_none (hl : Logged config log s) (h : s.calls[i]? = none) :
    bytesOf part i log = .empty := by
  induction hl with
  | start => rfl
  | branch _ j m hb ih => exact ih ((Step.branch j m hb).calls_none h)
  | event _ e he ih =>
    have hc := (Step.event e he).calls_none h
    rw [bytesOf_concat, ih hc, partOf_of_none hc, ByteArray.append_empty]

/-! ## Bodies -/

/-- What holds of a call at its arrival, is kept by all steps but its events, and by these with the
    bytes that they add, holds in every run. -/
theorem Logged.calls {L : Service × ServiceEvent → Prop} {P : ByteArray → ByteArray → Call → Prop}
    (hnew : ∀ a, P .empty .empty (.ofArrival config a))
    (hmoves : ∀ {log : List (Service × ServiceEvent)} {s : Service} {c c' : Call},
      Logged config log s → s.calls[i]? = some c →
      s.MovesOf (fun e => ∀ ev, e ≠ .call i ev) i c c' →
      P (requestBytes i log) (responseBytes i log) c →
      P (requestBytes i log) (responseBytes i log) c')
    (hon : ∀ {log : List (Service × ServiceEvent)} {s : Service} {c : Call} {ev : CallEvent},
      Logged config log s → s.calls[i]? = some c → L (s, .call i ev) →
      P (requestBytes i log) (responseBytes i log) c →
      P (requestBytes i log ++ c.requestPart ev) (responseBytes i log ++ c.responsePart ev)
        (c.on config ev))
    (hl : Logged config log s) (hL : ∀ p ∈ log, L p) (hc : s.calls[i]? = some c) :
    P (requestBytes i log) (responseBytes i log) c := by
  -- what happens elsewhere adds no bytes to this call
  have hquiet {log : List (Service × ServiceEvent)} {s s' : Service} {c : Call}
      (hl : Logged config log s)
      (ih : ∀ {c}, s.calls[i]? = some c → P (requestBytes i log) (responseBytes i log) c)
      (hs : StepOf (fun e => ∀ ev, e ≠ .call i ev) s s') (hc : s'.calls[i]? = some c) :
      P (requestBytes i log) (responseBytes i log) c := by
    rcases hs.calls_back hc with ⟨c₁, hc₁⟩ | ⟨hi, a, -, -, rfl⟩
    · obtain ⟨c₂, hc₂, hm⟩ := hs.moves hc₁
      rw [hc] at hc₂; cases hc₂
      exact hmoves hl hc₁ hm (ih hc₁)
    · have hnone : s.calls[i]? = none := List.getElem?_eq_none (Nat.le_of_eq hi)
      rw [requestBytes, responseBytes, hl.bytesOf_of_none hnone, hl.bytesOf_of_none hnone,
        hl.config_eq]
      exact hnew a
  induction hl generalizing c with
  | start => simp [ofConfig] at hc
  | branch hl j m h ih => exact hquiet hl (ih hL) (.branch j m h) hc
  | @event log s hl e h ih =>
    have ih {c : Call} := ih (c := c) fun p hp => hL p (List.mem_append_left _ hp)
    rw [requestBytes, responseBytes, bytesOf_concat, bytesOf_concat]
    by_cases hev : ∃ ev, e = .call i ev
    · obtain ⟨ev, rfl⟩ := hev
      have hs : StepOf (· = .call i ev) s (s.on (.call i ev)) := .event _ h rfl
      rcases hs.calls_back hc with ⟨c₁, hc₁⟩ | ⟨-, a, ha, -⟩
      · have hcall : (s.on (.call i ev)).calls[i]? = some (c₁.on s.config ev) :=
          getElem?_onCall_self hc₁
        rw [hc] at hcall; cases hcall
        rw [partOf_call hc₁, partOf_call hc₁, hl.config_eq]
        exact hon hl hc₁ (hL _ (List.mem_append_right _ List.mem_cons_self)) (ih hc₁)
      · cases ha
    · have hne (ev : CallEvent) : e ≠ .call i ev := fun he => hev ⟨ev, he⟩
      rw [partOf_of_ne hne, partOf_of_ne hne, ByteArray.append_empty, ByteArray.append_empty]
      exact hquiet hl ih (.event e h hne) hc

/-- Where no event comes to a call, its bodies grow no longer. -/
theorem MovesOf.bodies (hm : s.MovesOf E i c c') (hE : ∀ ev, ¬ E (.call i ev))
    (hb : c.Bodies s.config up down) (hp : c.Poised) (hk : s.Keeps i c) :
    c'.Bodies s.config up down := by
  cases hm with
  | rests => exact hb
  | turn m eff ht => exact ht.bodies hb hp hk.dormant
  | event ev he => exact absurd he (hE ev)
  | rejected e hs => exact hb.stage (by rw [Call.isOver, hs]) fun _ => by rw [hs]; rfl
  | routed context route scope hs =>
    have hrouted : Call.Bodies s.config up down { c with stage := .routed } :=
      hb.stage (by rw [Call.isOver, hs]) fun _ => by rw [hs]; rfl
    exact { hrouted with }

/-- In every run the frames of both bodies of every call were made of the bytes that have come. -/
theorem Logged.bodies (hl : Logged config log s) (hc : s.calls[i]? = some c) :
    c.Bodies config (requestBytes i log) (responseBytes i log) :=
  hl.calls (L := fun _ => True) (P := fun up down c => c.Bodies config up down)
    (Call.bodies_ofArrival config)
    (fun hl hc hm hb => by
      have hb' := hm.bodies (fun ev h => h ev rfl) (hl.config_eq.symm ▸ hb) (Run.poised hl.run hc)
        ((Run.sound hl.run).calls i _ hc)
      rwa [hl.config_eq] at hb')
    (fun hl hc _ hb => hb.on (Run.flows hl.run hc).wired _) (fun _ _ => trivial) hc

end Service

end GrpcRelay
