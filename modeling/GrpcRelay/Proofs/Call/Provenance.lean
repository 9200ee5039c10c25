/-
  Provenance — where the statuses and the metadata of a call come from.

  Every error that a call holds is the proxy's own, was read from headers or
  trailers of the backend, or was given to the call as it is (`Origin`).  What is
  handed to the caller is such an error or the status of a success, which
  carries the backend's trailers without transport headers (`Handed`).  Turns
  and events keep this (`Call.Draws`).
-/
import GrpcRelay.Proofs.Call.Legs
import GrpcRelay.Proofs.Call.Turn
import GrpcRelay.Proofs.Channel
import GrpcRelay.Proofs.Relay.Outcome
import GrpcRelay.Proofs.Relay.RequestLoop

namespace GrpcRelay

/-- Where an error of a call comes from, given the headers `H` and the trailers `T` of the
    backend and the statuses `A` from elsewhere. -/
inductive Origin (H T : Metadata → Prop) (A : Status → Prop) : Status → Prop
  | own {code : Code} {message : String} (h : code ≠ .ok) : Origin H T A (.of code message)
  | encoding (name : String) : Origin H T A (.unsupportedEncoding name)
  | headers {m : Metadata} {e : Status} (hm : H m) (he : Status.ofHeaders? m = some e)
      (hok : e.code ≠ .ok) : Origin H T A e
  | trailers {m : Metadata} {e : Status} (hm : T m) (he : Status.ofHeaders? m = some e)
      (hok : e.code ≠ .ok) : Origin H T A e
  | given {e : Status} (h : A e) : Origin H T A e

/-- What may be handed to the caller as the last item of its response. -/
def Handed (H T : Metadata → Prop) (A : Status → Prop) (e : Status) : Prop :=
  Origin H T A e ∨ ∃ m, T m ∧ e = .okWith m.strip

variable {H T : Metadata → Prop} {A : Status → Prop} {e : Status}

/-- No success comes from anywhere else. -/
theorem Origin.given_of_ok (h : Origin H T A e) (hok : e.code = .ok) : A e := by
  cases h with
  | own h | headers _ _ h | trailers _ _ h => exact absurd hok h
  | encoding => cases hok
  | given h => exact h

/-! ## Bodies -/

theorem origin_of_encodingError? {headers : Metadata}
    (h : Status.encodingError? headers = some e) : Origin H T A e := by
  unfold Status.encodingError? at h
  split at h
  · cases h
  · next name _ =>
    split at h
    · cases h
    · cases h; exact .encoding name

section Decoder

variable {d d' : Decoder} {direction : Direction}

theorem origin_of_flagError? {flag : UInt8} (h : Decoder.flagError? direction flag = some e) :
    Origin H T A e := by
  unfold Decoder.flagError? at h
  split at h
  · cases h
  · split at h
    · cases h; exact .own nofun
    · dsimp only at h
      split at h
      · cases h; exact .own nofun
      · cases h; exact .own nofun

theorem origin_of_lengthError? {limit length : Nat}
    (h : Decoder.lengthError? limit length = some e) : Origin H T A e := by
  unfold Decoder.lengthError? at h
  split at h
  · cases h; exact .own nofun
  · cases h

theorem takeFrame_ne_failure {length : Nat} : d.takeFrame length ≠ .failure e d' := by
  unfold Decoder.takeFrame
  split <;> nofun

theorem origin_of_next (h : d.next = .failure e d') : Origin H T A e := by
  unfold Decoder.next at h
  split at h
  · exact absurd h takeFrame_ne_failure
  · split at h
    · cases h
    · dsimp only at h
      split at h
      · next hflag => cases h; exact origin_of_flagError? hflag
      · split at h
        · next hlength => cases h; exact origin_of_lengthError? hlength
        · exact absurd h takeFrame_ne_failure

theorem origin_of_takeFrames {fuel : Nat} (h : (d.takeFrames fuel).2.1 = some e) :
    Origin H T A e := by
  induction fuel generalizing d with
  | zero => cases h
  | succ fuel ih =>
    rw [Decoder.takeFrames] at h
    split at h
    · cases h
    · next hn => cases h; exact origin_of_next hn
    · exact ih h

theorem origin_of_ofHttp (http : Nat) : Origin H T A (.ofHttp http) := by
  unfold Status.ofHttp
  split
  · exact .own nofun
  · refine .own ?_
    split <;> nofun

theorem origin_of_ofEnd {http : Nat} {t : Option Metadata} (ht : ∀ m, t = some m → T m)
    (h : Status.ofEnd http t = some e) : Origin H T A e := by
  unfold Status.ofEnd at h
  split at h
  · next s hs =>
    split at h
    · cases h
    · next hok =>
      cases h
      obtain ⟨m, hm, hs⟩ := Option.bind_eq_some_iff.1 hs
      exact .trailers (ht m hm) hs hok
  · cases h; exact origin_of_ofHttp http

theorem origin_of_verdict {t : Option Metadata} (ht : ∀ m, t = some m → T m)
    (h : d.verdict t = some e) : Origin H T A e := by
  have hjudged : ∀ {t : Option Metadata}, (∀ m, t = some m → T m) →
      Decoder.verdict.judged d t = some e → Origin H T A e := by
    intro t ht h
    unfold Decoder.verdict.judged at h
    split at h
    · exact origin_of_ofEnd ht h
    · cases h
    · cases h
  unfold Decoder.verdict at h
  split at h
  · split at h
    · cases h; exact .own nofun
    · exact hjudged (t := none) nofun h
  · exact hjudged ht h

end Decoder

/-! ## Sources -/

/-- The failures and the trailers that a source brings. -/
structure Source.Draws (H T : Metadata → Prop) (A : Status → Prop) (s : Source) : Prop where
  items : ∀ e, .failure e ∈ s.arrived → Origin H T A e
  trailers : ∃ t, s.trailers = .ok t ∧ ∀ m, t = some m → T m

namespace Source

variable {s s' : Source} {d : Option Decoder}

theorem draws_empty : Source.empty.Draws H T A := ⟨fun _ => nofun, none, rfl, fun _ => nofun⟩

theorem Draws.pushAll {is : List Item} (h : s.Draws H T A)
    (his : ∀ e, .failure e ∈ is → Origin H T A e) : (s.pushAll is).Draws H T A := by
  refine ⟨fun e he => ?_, h.trailers⟩
  rcases List.mem_append.1 he with he | he
  · exact h.items e he
  · exact his e he

theorem Draws.feed (h : s.Draws H T A) (bytes : ByteArray) : (s.feed d bytes).1.Draws H T A := by
  cases d with
  | none => exact h
  | some d =>
    simp only [Source.feed]
    split
    · exact h.pushAll fun e he => by simp at he
    · next fs e₀ d' hpush =>
      refine h.pushAll fun e he => ?_
      have he₀ : e = e₀ := by simpa using he
      exact he₀ ▸ origin_of_takeFrames (congrArg (fun r => r.2.1) hpush)

theorem Draws.finish {t : Option Metadata} (h : s.Draws H T A) (ht : ∀ m, t = some m → T m) :
    (s.finish d t).Draws H T A := by
  cases d with
  | none => exact h
  | some d =>
    simp only [Source.finish]
    split
    · next e₀ hv =>
      refine h.pushAll fun e he => ?_
      have he₀ : e = e₀ := by simpa using he
      exact he₀ ▸ origin_of_verdict ht hv
    · exact ⟨h.items, t, rfl, ht⟩

theorem Draws.fault (h : s.Draws H T A) (he : Origin H T A e) : (s.fault d e).Draws H T A := by
  cases d with
  | none => exact h
  | some d =>
    simp only [Source.fault]
    split
    · exact ⟨h.items, h.trailers⟩
    · refine h.pushAll fun e' he' => ?_
      have heq : e' = e := by simpa using he'
      exact heq ▸ he

theorem Draws.next {r : Reads} (h : s.Draws H T A) (hn : s.next? = some (r, s')) :
    s'.Draws H T A ∧ ∀ e, r = .item (.failure e) → Origin H T A e := by
  unfold next? at hn
  split at hn
  · cases hn
    refine ⟨⟨h.items, h.trailers⟩, fun e he => h.items e ?_⟩
    rw [← Reads.item.inj he]
    exact List.getElem_mem _
  · split at hn
    · cases hn
      refine ⟨h, ?_⟩
      rintro e he
      cases he
    · cases hn

end Source

/-! ## Loops -/

/-- The reason that an abort has recorded. -/
def Abort.Draws (H T : Metadata → Prop) (A : Status → Prop) (a : Abort) : Prop :=
  ∀ e, a.recorded = some e → Origin H T A e

theorem Abort.Draws.reason {a : Abort} (h : a.Draws H T A) : Origin H T A a.reason := by
  unfold Abort.reason
  cases hr : a.recorded with
  | none => exact .own nofun
  | some e => exact h e hr

theorem Abort.Draws.record {a : Abort} (h : a.Draws H T A) (he : Origin H T A e) :
    (a.record e).Draws H T A := by
  intro e' he'
  cases hr : a.recorded with
  | none =>
    rw [Abort.record, hr] at he'
    cases he'; exact he
  | some e₀ =>
    rw [Abort.record, hr] at he'
    cases he'; exact h _ hr

/-- What the request loop reads and what it is about to record. -/
structure RequestLoop.Draws (H T : Metadata → Prop) (A : Status → Prop) (u : RequestLoop) :
    Prop where
  source : u.source.Draws H T A
  recording : ∀ e, u.position = .recording e → Origin H T A e

theorem RequestLoop.Turn.draws {scope : Bool} {u u' : RequestLoop} {a a' : Abort}
    {m : RequestLoop.Move} (h : Turn scope u a m u' a') (hu : u.Draws H T A)
    (ha : a.Draws H T A) : u'.Draws H T A ∧ a'.Draws H T A := by
  cases h with
  | quitReading | quitHolding | refuse | send => exact ⟨⟨hu.source, fun _ => nofun⟩, ha⟩
  | readFrame f s hp hn => exact ⟨⟨(hu.source.next hn).1, fun _ => nofun⟩, ha⟩
  | readFailure e s hp hn =>
    obtain ⟨hs, he⟩ := hu.source.next hn
    exact ⟨⟨hs, fun _ h => by cases h; exact he e rfl⟩, ha⟩
  | readEnd s hp hn => exact ⟨⟨(hu.source.next hn).1, fun _ => nofun⟩, ha⟩
  | record e hp => exact ⟨⟨hu.source, fun _ => nofun⟩, ha.record (hu.recording e hp)⟩
  | signal => exact ⟨⟨hu.source, fun _ => nofun⟩, ha⟩

/-- What the response loop reads, what it is going to return and what it hands on. -/
structure ResponseLoop.Draws (H T : Metadata → Prop) (A : Status → Prop) (d : ResponseLoop) :
    Prop where
  source : d.source.Draws H T A
  error : ∀ e, d.position.error? = some e → Origin H T A e
  delivering : ∀ e o, d.position = .delivering e o → Handed H T A e
  given : ∀ e, .failure e ∈ d.sink.given → Handed H T A e

namespace ResponseLoop

variable {d d' : ResponseLoop}

theorem Draws.move {p : ResponseLoopAt} {s : Source} (hd : d.Draws H T A) (hs : s.Draws H T A)
    (he : ∀ e, p.error? = some e → Origin H T A e)
    (ht : ∀ e o, p = .delivering e o → Handed H T A e) :
    Draws H T A { d with position := p, source := s } :=
  ⟨hs, he, ht, hd.given⟩

theorem Draws.abort {a : Abort} (hd : d.Draws H T A) (ha : a.Draws H T A) :
    Draws H T A { d with position := .delivering a.reason (.error a.reason) } :=
  hd.move hd.source (fun _ h => by cases h; exact ha.reason)
    fun _ _ h => by cases h; exact .inl ha.reason

theorem Draws.leave {o : Outcome} (hd : d.Draws H T A)
    (ho : ∀ e, o = .error e → Origin H T A e) : (d.leave o).Draws H T A := by
  refine ⟨hd.source, fun e he => ?_, fun _ _ => nofun, hd.given⟩
  cases o with
  | ok => cases he
  | error e' => exact ho e (congrArg Except.error (Option.some.inj he))

theorem Draws.put (hd : d.Draws H T A) (he : Handed H T A e) :
    Draws H T A { d with sink := d.sink.put (.failure e) } := by
  refine ⟨hd.source, hd.error, hd.delivering, fun e' he' => ?_⟩
  rcases List.mem_append.1 he' with he' | he'
  · exact hd.given e' he'
  · rw [Item.failure.inj (List.mem_singleton.1 he')]
    exact he

theorem Turn.draws {scope : Bool} {a a' : Abort} {m : ResponseLoop.Move}
    (h : Turn scope d a m d' a') (hd : d.Draws H T A) (ha : a.Draws H T A) :
    d'.Draws H T A ∧ a'.Draws H T A := by
  cases h with
  | quitReading | quitHolding => exact ⟨hd.abort ha, ha⟩
  | desertReading | desertHolding =>
    exact ⟨hd.move hd.source (fun _ h => by cases h; exact .own nofun) fun _ _ => nofun, ha⟩
  | readFrame f s hp hn =>
    exact ⟨hd.move (hd.source.next hn).1 (fun _ => nofun) fun _ _ => nofun, ha⟩
  | readFailure e s hp hn =>
    obtain ⟨hs, he⟩ := hd.source.next hn
    exact ⟨hd.move hs (fun _ h => by cases h; exact he e rfl) fun _ _ => nofun, ha⟩
  | readEnd s hp hn =>
    exact ⟨hd.move (hd.source.next hn).1 (fun _ => nofun) fun _ _ => nofun, ha⟩
  | send f =>
    refine ⟨⟨hd.source, fun _ => nofun, fun _ _ => nofun, fun e he => hd.given e ?_⟩, ha⟩
    simpa using he
  | fetchFailure e hp ht =>
    -- the trailers of a source are never a failure
    obtain ⟨t, ht', -⟩ := hd.source.trailers
    rw [ht] at ht'; cases ht'
  | fetchNothing => exact ⟨hd.leave fun _ => nofun, ha⟩
  | fetchSome m hp ht =>
    obtain ⟨t, ht', hm⟩ := hd.source.trailers
    rw [ht] at ht'; cases ht'
    have hsuccess : Handed H T A (.okWith m.strip) := .inr ⟨m, hm m rfl, rfl⟩
    exact ⟨hd.move hd.source (fun _ => nofun) fun _ _ h => by cases h; exact hsuccess, ha⟩
  | record e tell hp =>
    have he : Origin H T A e := hd.error e (by rw [hp]; rfl)
    exact ⟨hd.move hd.source (fun _ h => by cases h; exact he) fun _ _ => nofun, ha.record he⟩
  | signalLoud e hp =>
    have he : Origin H T A e := hd.error e (by rw [hp]; rfl)
    exact ⟨hd.move hd.source (fun _ h => by cases h; exact he)
      fun _ _ h => by cases h; exact .inl he, ha⟩
  | signalQuiet e hp =>
    have he : Origin H T A e := hd.error e (by rw [hp]; rfl)
    exact ⟨hd.leave fun _ h => by cases h; exact he, ha⟩
  | deliver e o hp =>
    refine ⟨(hd.put (hd.delivering e o hp)).leave fun e' ho => hd.error e' ?_, ha⟩
    rw [hp, ho]; rfl
  | drop e o hp =>
    refine ⟨hd.leave fun e' ho => hd.error e' ?_, ha⟩
    rw [hp, ho]; rfl

end ResponseLoop

/-! ## Calls -/

/-- The error that a call at this stage ends with, once there is one. -/
def Stage.error? : Stage → Option Status
  | recording s | signalling s | joining s => some s
  | closing o | awaiting o => (Ending.relayed o).error?
  | releasing ending _ | .over ending => ending.error?
  | arriving | resolving | routed | tracked | opening | relaying => none

/-- What an event brings into a call. -/
def CallEvent.Brings (H T : Metadata → Prop) (A : Status → Prop) : CallEvent → Prop
  | fail s | failOpening s => A s
  | turnAway => H {}
  | respondHeaders _ m => H m
  | respondEnd (some m) => T m
  | _ => True

namespace Call

variable {config : Config} {scope : Bool} {c c' : Call} {m : CallMove} {eff : Option Effect}

/-- Where all that a call holds of statuses and metadata comes from. -/
structure Draws (H T : Metadata → Prop) (A : Status → Prop) (c : Call) : Prop where
  up : c.up.Draws H T A
  down : c.down.Draws H T A
  abort : c.abort.Draws H T A
  failed : ∀ e, c.response.result = some (.error e) → Origin H T A e
  answered : ∀ m, c.response.result = some (.ok m) → H m
  error : ∀ e, c.stage.error? = some e → Origin H T A e
  refused : ∀ e, c.answer = some (.refused e) → Origin H T A e
  opened : ∀ m, c.answer = some (.opened m) → ∃ sent, H sent ∧ m = sent.strip

theorem draws_ofArrival (config : Config) (a : Arrival) : (ofArrival config a).Draws H T A :=
  ⟨⟨Source.draws_empty, fun _ => nofun⟩,
    ⟨Source.draws_empty, fun _ => nofun, fun _ _ => nofun, fun _ => nofun⟩, fun _ => nofun,
    fun _ => nofun, fun _ => nofun, fun _ => nofun, fun _ => nofun, fun _ => nofun⟩

/-! ### The leg to the backend -/

theorem Draws.failOpening (h : c.Draws H T A) (he : Origin H T A e) :
    (c.failOpening e).Draws H T A :=
  { h with
    failed := fun _ he' => by cases he'; exact he
    answered := fun _ => nofun }

theorem Draws.respondFault (h : c.Draws H T A) (he : Origin H T A e) :
    (c.respondFault e).Draws H T A :=
  { h with down := { h.down with source := h.down.source.fault he } }

theorem Draws.stopTaking (h : c.Draws H T A) : c.stopTaking.Draws H T A :=
  { h with up := ⟨h.up.source, h.up.recording⟩ }

theorem Draws.request {r : RequestLeg} (h : c.Draws H T A) :
    Draws H T A { c with request := r } := { h with }

theorem Draws.breakStream (h : c.Draws H T A) (l : Loss) : (c.breakStream l).Draws H T A := by
  unfold Call.breakStream
  dsimp only
  split
  · exact h.stopTaking.request.failOpening (.own nofun)
  · exact h.stopTaking.request.respondFault (.own nofun)

theorem Draws.rejectEnd (h : c.Draws H T A) : c.rejectEnd.Draws H T A := by
  unfold Call.rejectEnd
  split
  · exact h.respondFault (.own nofun)
  · exact h.breakStream .reset

theorem Draws.cancelRequest (h : c.Draws H T A) : c.cancelRequest.Draws H T A :=
  h.stopTaking.request

theorem Draws.giveUpOpening (h : c.Draws H T A) : c.giveUpOpening.Draws H T A := by
  unfold Call.giveUpOpening
  split
  · exact h
  · exact h.cancelRequest

theorem Draws.giveUpResponse (h : c.Draws H T A) : c.giveUpResponse.Draws H T A := by
  unfold Call.giveUpResponse
  split
  · exact h.stopTaking
  · exact h

theorem origin_of_judgeHeaders {http : Nat} {headers : Metadata} (hm : H headers)
    (h : judgeHeaders config http headers = .error e) : Origin H T A e := by
  unfold judgeHeaders at h
  split at h
  · next he => cases h; exact origin_of_encodingError? he
  · split at h
    · cases h
    · next s hs =>
      split at h
      · cases h
      · next hok => cases h; exact .headers hm hs (by simpa [Status.isOk] using hok)

theorem Draws.respondHeaders {headers : Metadata} (h : c.Draws H T A) (http : Nat)
    (hm : H headers) : (c.respondHeaders config http headers).Draws H T A := by
  unfold Call.respondHeaders
  split
  · exact h.breakStream .reset
  · split
    · exact { h with }
    · split
      · next he => exact h.failOpening (origin_of_judgeHeaders hm he)
      · exact { h with
          failed := fun _ => nofun
          answered := fun _ hr => by cases hr; exact hm }

theorem Draws.respond (h : c.Draws H T A) (bytes : ByteArray) : (c.respond bytes).Draws H T A := by
  unfold Call.respond
  dsimp only
  split
  · exact { h with down := { h.down with source := h.down.source.feed bytes } }
  · split
    · exact { h with down := { h.down with source := h.down.source.feed bytes } }
    · refine Draws.breakStream ?_ .reset
      exact { h with down := { h.down with source := h.down.source.feed _ } }

theorem Draws.respondEnd {t : Option Metadata} (h : c.Draws H T A) (ht : ∀ m, t = some m → T m) :
    (c.respondEnd t).Draws H T A := by
  unfold Call.respondEnd
  split
  · exact { h with down := { h.down with source := h.down.source.finish ht } }
  · exact h.rejectEnd

theorem Draws.forward (h : c.Draws H T A) (hf : c.forward config = some c') :
    c'.Draws H T A := by
  cases forwards_of_forward hf with
  | delivered => exact { h with up := ⟨h.up.source, h.up.recording⟩ }
  | broken =>
    refine Draws.breakStream ?_ .reset
    exact { h with up := ⟨h.up.source, h.up.recording⟩ }

theorem Draws.finishRequest (h : c.Draws H T A) (hf : c.finishRequest = some c') :
    c'.Draws H T A := by
  cases finishes_of_finishRequest hf with
  | ended => exact h.request
  | short => exact h.breakStream .reset

/-! ### The leg to the caller -/

theorem Draws.receive (h : c.Draws H T A) (bytes : ByteArray) : (c.receive bytes).Draws H T A :=
  { h with up := { h.up with source := h.up.source.feed bytes } }

theorem Draws.receiveEnd (h : c.Draws H T A) : c.receiveEnd.Draws H T A :=
  { h with up := { h.up with source := h.up.source.finish nofun } }

theorem Draws.receiveFault (h : c.Draws H T A) (he : Origin H T A e) :
    (c.receiveFault e).Draws H T A :=
  { h with up := { h.up with source := h.up.source.fault he } }

theorem Draws.leave (h : c.Draws H T A) : c.leave.Draws H T A := by
  have hend : (if c.listensToCaller then c.receiveEnd else c).Draws H T A := by
    split
    · exact h.receiveEnd
    · exact h
  unfold Call.leave
  dsimp only
  split
  · exact { hend with }
  · exact { hend with down := { hend.down with } }

theorem Draws.sink {hs : List Heard} {k : Channel Item} (h : c.Draws H T A)
    (hk : k.given = c.down.sink.given) :
    Draws H T A { c with heard := hs, down := { c.down with sink := k } } :=
  { h with down := { h.down with given := fun e he => h.down.given e (hk ▸ he) } }

theorem Draws.hear (h : c.Draws H T A) : (c.hear config).2.Draws H T A := by
  unfold Call.hear
  split
  · next f k ht =>
    split
    · exact h.sink (Channel.takes_of_take? ht).given
    · exact h.sink (Channel.takes_of_take? ht).given
  · next ht => exact h.sink (Channel.takes_of_take? ht).given
  · split
    · exact h
    · exact h.sink rfl

/-! ### Events and turns -/

theorem Draws.on {ev : CallEvent} (h : c.Draws H T A) (hb : ev.Brings H T A) :
    (c.on config ev).Draws H T A := by
  have hkeep {p : Prop} [Decidable p] {c₁ : Call} (h₁ : c₁.Draws H T A) :
      (if p then c₁ else c).Draws H T A := by
    split
    · exact h₁
    · exact h
  cases ev with
  | leave => exact h.leave
  | send bytes => exact hkeep (h.receive bytes)
  | halfClose => exact hkeep h.receiveEnd
  | fail s => exact hkeep (h.receiveFault (.given hb))
  | hear => exact hkeep h.hear
  | reach => exact hkeep h.request
  | ready => exact hkeep h.request
  | failOpening s => exact hkeep (h.failOpening (.given hb)).cancelRequest
  | turnAway => exact hkeep ((h.respondHeaders 431 hb).breakStream .reset)
  | respondHeaders http headers => exact hkeep (h.respondHeaders http hb)
  | respond bytes => exact hkeep (h.respond bytes)
  | respondEnd t =>
    refine hkeep (h.respondEnd fun m hm => ?_)
    subst hm; exact hb
  | respondNoMore => exact hkeep { h with }
  | refuseTrailers => exact hkeep h.rejectEnd
  | reset => exact hkeep (h.breakStream .reset)
  | refuseHeaders => exact hkeep (h.breakStream .reset)
  | breakDown => exact hkeep (h.breakStream .breakdown)

theorem origin_of_ofPath (p : PathError) : Origin H T A (RouteError.ofPath p).status := .own nofun

theorem origin_of_backendPath {method : String} (h : backendPath method = .error e) :
    Origin H T A e := by
  unfold backendPath at h
  split at h
  · cases h; exact .own nofun
  · split at h
    · cases h; exact .own nofun
    · cases h

theorem Turn.draws (h : Turn config scope c m c' eff) (hc : c.Draws H T A) : c'.Draws H T A := by
  cases h with
  | forsake => exact { hc with error := fun _ he => by cases he; exact .own nofun }
  | abandonOpening | abandonJoining =>
    exact { hc.cancelRequest with
      failed := fun _ => nofun
      answered := fun _ => nofun
      error := fun _ he => by cases he; exact .own nofun }
  | rejectEncoding s hs he =>
    have ho : Origin H T A s := origin_of_encodingError? he
    exact { hc with
      error := fun _ he => by cases he; exact ho
      refused := fun _ he => by cases he; exact ho
      opened := fun _ => nofun }
  | rejectPath p =>
    exact { hc with
      error := fun _ he => by cases he; exact origin_of_ofPath p
      refused := fun _ he => by cases he; exact origin_of_ofPath p
      opened := fun _ => nofun }
  | consult | track => exact { hc with error := fun _ => nofun }
  | refuse context route s hs hk hr hp =>
    exact { hc with error := fun _ he => by cases he; exact origin_of_backendPath hp }
  | launch => exact { hc with up := ⟨hc.up.source, fun _ => nofun⟩, error := fun _ => nofun }
  | quit =>
    exact { hc.giveUpOpening with
      failed := fun _ => nofun
      answered := fun _ => nofun
      error := fun _ he => by cases he; exact hc.abort.reason }
  | failOpening s hs hr => exact { hc with error := fun _ he => by cases he; exact hc.failed s hr }
  | opened headers hs hr =>
    exact { hc with
      down := ⟨hc.down.source, fun _ => nofun, fun _ _ => nofun, hc.down.given⟩
      error := fun _ => nofun
      refused := fun _ => nofun
      opened := fun _ ha => by cases ha; exact ⟨headers, hc.answered headers hr, rfl⟩ }
  | record s hs =>
    have ho : Origin H T A s := hc.error s (by rw [hs]; rfl)
    exact { hc with
      abort := hc.abort.record ho
      error := fun _ he => by cases he; exact ho }
  | signal s hs | join s hs =>
    have ho : Origin H T A s := hc.error s (by rw [hs]; rfl)
    exact { hc with error := fun _ he => by cases he; exact ho }
  | down mv d a hs hd =>
    obtain ⟨hdown, habort⟩ := (ResponseLoop.turn_of_step? hd).draws hc.down hc.abort
    exact { hc with down := hdown, abort := habort }
  | settle o hs ho =>
    have hp := ResponseLoop.outcome?_eq_some ho
    refine { hc.giveUpResponse with error := fun e he => hc.down.error e ?_ }
    rw [hp]
    cases o <;> exact he
  | close o hs | await o hs =>
    exact { hc with error := fun e he => hc.error e (by rw [hs]; exact he) }
  | up mv u a hu =>
    obtain ⟨hup, habort⟩ := (RequestLoop.turn_of_step? hu).draws hc.up hc.abort
    exact { hc with up := hup, abort := habort }
  | forward _ h => exact hc.forward h
  | finishRequest _ h => exact hc.finishRequest h
  | report ending g hs | remove ending g hs =>
    exact { hc with error := fun e he => hc.error e (by rw [hs]; exact he) }
  | free ending g answer hs hg ha =>
    subst ha
    refine { hc with
      error := fun e he => hc.error e (by rw [hs]; exact he)
      refused := fun e he => ?_
      opened := fun m hm => ?_ }
    · cases ending with
      | refused => cases he; exact hc.error _ (by rw [hs]; rfl)
      | rejected | forsaken | abandoned | relayed => exact hc.refused e he
    · cases ending with
      | refused => cases hm
      | rejected | forsaken | abandoned | relayed => exact hc.opened m hm

end Call

end GrpcRelay
