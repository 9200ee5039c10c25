/-
  What is handed to a caller — the metadata of its answer and of its final
  status, and what they have left of the metadata that the backend sent.

  The headers of an answer and the trailers of a success are handed on without
  transport headers.  An error that is read from headers or trailers keeps all
  of them that do not make up the status itself.
-/
import GrpcRelay.Proofs.Call.Provenance
import GrpcRelay.Proofs.Service.Run
import GrpcRelay.Proofs.Status

namespace GrpcRelay

/-- What the caller is told at the end: that there is no response, or how it ends. -/
def Call.Hands (c : Call) (e : Status) : Prop :=
  c.answer = some (.refused e) ∨ .failure e ∈ c.down.sink.given

namespace Service

variable {config : Config} {E : ServiceEvent → Prop} {s : Service} {i : Nat} {c c' : Call}

/-! ## What comes into a call -/

/-- The backend answers call `i` with these headers, or turns it away, which says nothing. -/
def Answers (E : ServiceEvent → Prop) (i : Nat) (sent : Metadata) : Prop :=
  (∃ http, E (.call i (.respondHeaders http sent))) ∨ sent = {} ∧ E (.call i .turnAway)

/-- The backend ends its response to call `i` with these trailers. -/
def Ends (E : ServiceEvent → Prop) (i : Nat) (sent : Metadata) : Prop :=
  E (.call i (.respondEnd (some sent)))

/-- Call `i` is given this status: by its caller's transport, by the connection to the backend or
    by the director. -/
def Gives (E : ServiceEvent → Prop) (i : Nat) (e : Status) : Prop :=
  E (.call i (.fail e)) ∨ E (.call i (.failOpening e)) ∨ E (.decide i (.error e))

theorem brings_of_event {ev : CallEvent} (he : E (.call i ev)) :
    ev.Brings (Answers E i) (Ends E i) (Gives E i) := by
  cases ev with
  | fail e => exact .inl he
  | failOpening e => exact .inr (.inl he)
  | turnAway => exact .inr ⟨rfl, he⟩
  | respondHeaders http m => exact .inl ⟨http, he⟩
  | respondEnd t =>
    cases t with
    | none => trivial
    | some m => exact he
  | send | halfClose | leave | hear | reach | ready | respond | respondNoMore | reset
  | refuseHeaders | refuseTrailers | breakDown => trivial

theorem MovesOf.draws (hm : s.MovesOf E i c c')
    (hc : c.Draws (Answers E i) (Ends E i) (Gives E i)) :
    c'.Draws (Answers E i) (Ends E i) (Gives E i) := by
  cases hm with
  | rests => exact hc
  | turn m eff ht => exact ht.draws hc
  | event ev he => exact hc.on (brings_of_event he)
  | rejected e hs he =>
    have ho : Origin (Answers E i) (Ends E i) (Gives E i) e := .given (.inr (.inr he))
    exact { hc with
      error := fun _ h => by cases h; exact ho
      refused := fun _ h => by cases h; exact ho
      opened := nofun }
  | routed => exact { hc with error := nofun }

/-- In every run all that a call holds of statuses and metadata came into it. -/
theorem RunOf.draws (hr : RunOf E (.ofConfig config) s) (hc : s.calls[i]? = some c) :
    c.Draws (Answers E i) (Ends E i) (Gives E i) :=
  RunOf.calls (P := fun i c => c.Draws (Answers E i) (Ends E i) (Gives E i))
    (fun _ a => Call.draws_ofArrival config a) (fun _ _ hm hp => hm.draws hp) hr hc

/-! ## What is handed on -/

/-- A status in headers or trailers of the backend of call `i`. -/
def Shows (E : ServiceEvent → Prop) (i : Nat) (sent : Metadata) (e : Status) : Prop :=
  (Answers E i sent ∨ Ends E i sent) ∧ Status.ofHeaders? sent = some e

/-- A status with the proxy's own words, or the refusal of an encoding. -/
def IsOwn (e : Status) : Prop := e.metadata = {} ∨ ∃ name, e = .unsupportedEncoding name

theorem handed_cases (hr : RunOf E (.ofConfig config) s) (hc : s.calls[i]? = some c) {e : Status}
    (he : c.Hands e) :
    (∃ sent, Ends E i sent ∧ e = .okWith sent.strip) ∨ (∃ sent, Shows E i sent e) ∨ IsOwn e ∨
      Gives E i e := by
  have hd := RunOf.draws hr hc
  have hhanded : Handed (Answers E i) (Ends E i) (Gives E i) e := by
    rcases he with he | he
    · exact .inl (hd.refused e he)
    · exact hd.down.given e he
  rcases hhanded with ho | ⟨sent, hsent, he⟩
  · cases ho with
    | own => exact .inr (.inr (.inl (.inl rfl)))
    | encoding name => exact .inr (.inr (.inl (.inr ⟨name, rfl⟩)))
    | headers hm he => exact .inr (.inl ⟨_, .inl hm, he⟩)
    | trailers hm he => exact .inr (.inl ⟨_, .inr hm, he⟩)
    | given h => exact .inr (.inr (.inr h))
  · exact .inl ⟨sent, hsent, he⟩

/-- **What is handed on.**  In every run, the headers of a caller's answer are those that the
    backend sent without the transport headers, and nothing else is lost of them; so it is with
    the trailers that end a success.  An error that was read from the backend's headers or
    trailers has all of them but the three that make up a status, so it is free of transport
    headers if and only if the backend sent none of the other four.  All other errors are the
    proxy's own or were given to the call. -/
theorem handed_metadata {config : Config} {E : ServiceEvent → Prop} {s : Service} {i : Nat}
    {c : Call} (hr : RunOf E (.ofConfig config) s) (hc : s.calls[i]? = some c) :
    (∀ handed, c.answer = some (.opened handed) →
      ∃ sent, Answers E i sent ∧ Metadata.Passes Metadata.transportKeys sent handed) ∧
    (∀ e, c.Hands e →
      (∃ sent, Ends E i sent ∧ e = .okWith sent.strip ∧
        Metadata.Passes Metadata.transportKeys sent e.metadata) ∨
      (∃ sent, Shows E i sent e ∧ Metadata.Passes Status.headerKeys sent e.metadata ∧
        (sent.IsLower →
          (Metadata.Passes Metadata.transportKeys sent e.metadata ↔
            ∀ key ∈ Status.framingKeys, sent.values key = []))) ∨
      IsOwn e ∨ Gives E i e) := by
  refine ⟨fun handed ha => ?_, fun e he => ?_⟩
  · obtain ⟨sent, hsent, rfl⟩ := (RunOf.draws hr hc).opened handed ha
    exact ⟨sent, hsent, Metadata.passes_strip sent⟩
  · rcases handed_cases hr hc he with ⟨sent, hsent, rfl⟩ | ⟨sent, hread⟩ | ho
    · exact .inl ⟨sent, hsent, rfl, Metadata.passes_strip sent⟩
    · refine .inr (.inl ⟨sent, hread, Status.passes_ofHeaders? hread.2, fun hm => ?_⟩)
      exact Status.passes_transport_iff hread.2 hm
    · exact .inr (.inr ho)

/-- Trailers with a status and the headers of a leg. -/
def fallen : Metadata :=
  ⟨[("grpc-status", .text "14"), ("grpc-encoding", .text "gzip"), ("x", .text "y")]⟩

/-- The status in them. -/
def fall : Status :=
  ⟨.unavailable, "", ⟨[("grpc-encoding", .text "gzip"), ("x", .text "y")]⟩, .empty⟩

theorem ofHeaders?_fallen : Status.ofHeaders? fallen = some fall := by decide +kernel

theorem verdict_fallen (limit : Option Nat) :
    (Decoder.start (.response 200) limit).verdict (some fallen) = some fall := by
  show Status.ofEnd 200 (some fallen) = some fall
  rw [Status.ofEnd, Option.bind_some, ofHeaders?_fallen]
  rfl

/-- The call once its backend has ended with them. -/
def failing : Call :=
  { relayed with
    response := { relayed.response with decoder := none, live := false }
    down := { relayed.down with source := Source.empty.push (.failure fall) } }

theorem on_relaying :
    relaying.on (.call 0 (.respondEnd (some fallen))) = { relaying with calls := [failing] } := by
  have hfinish : Source.empty.finish (some (.start (.response 200) none)) (some fallen) =
      Source.empty.push (.failure fall) := by
    rw [Source.finish, verdict_fallen]
  have hon : relayed.on capped (.respondEnd (some fallen)) = failing := by
    show Call.respondEnd relayed (some fallen) = failing
    unfold Call.respondEnd
    rw [if_pos (show relayed.response.remaining.getD 0 = 0 from rfl)]
    exact congrArg (fun s => { failing with down := { failing.down with source := s } }) hfinish
  exact on_alone rfl hon rfl

/-- A response that ends with these trailers. -/
theorem exists_fallen :
    ∃ s c, RunOf (· = .call 0 (.respondEnd (some fallen))) relaying s ∧
      s.calls[0]? = some c ∧ c.Hands fall := by
  have hended : RunOf (· = .call 0 (.respondEnd (some fallen))) relaying
      { relaying with calls := [failing] } :=
    .single (on_relaying ▸ .event (.call 0 (.respondEnd (some fallen))) trivial rfl)
  have hread := hended.tail (.branch 0 (.down .read) rfl)
  have hrecorded := hread.tail (.branch 0 (.down .record) rfl)
  have hsignalled := hrecorded.tail (.branch 0 (.down .signal) rfl)
  have hdelivered := hsignalled.tail (.branch 0 (.down .deliver) rfl)
  exact ⟨_, _, hdelivered, rfl, .inr List.mem_cons_self⟩

/-- No headers but these show this status to the call. -/
theorem eq_fallen {sent : Metadata}
    (h : Shows (fun e => e ∈ prelude ∨ e = .call 0 (.respondEnd (some fallen))) 0 sent fall) :
    sent = fallen := by
  obtain ⟨(⟨http, hp | he⟩ | ⟨-, hp | he⟩) | (hp | he), hs⟩ := h
  · have hempty : sent = {} := by simp [prelude] at hp; exact hp.2
    rw [hempty] at hs; cases hs
  · cases he
  · simp [prelude] at hp
  · cases he
  · simp [prelude] at hp
  · cases he; rfl

/-- What is left of these trailers is all but the status. -/
theorem handed_metadata_of_fallen :
    ∃ s c, RunOf (fun e => e ∈ prelude ∨ e = .call 0 (.respondEnd (some fallen)))
        (.ofConfig capped) s ∧ s.calls[0]? = some c ∧ c.Hands fall ∧
      Metadata.Passes Status.headerKeys fallen fall.metadata ∧
      ¬ Metadata.Passes Metadata.transportKeys fallen fall.metadata := by
  obtain ⟨s, c, hr, hc, hfall⟩ := exists_fallen
  have hrun : RunOf (fun e => e ∈ prelude ∨ e = .call 0 (.respondEnd (some fallen)))
      (.ofConfig capped) s :=
    (run_relaying.mono fun _ h => .inl h).trans (hr.mono fun _ h => .inr h)
  refine ⟨s, c, hrun, hc, hfall, ?_⟩
  rcases (handed_metadata hrun hc).2 fall hfall with
    ⟨sent, -, he, -⟩ | ⟨sent, hshown, hpasses, hiff⟩ | (hempty | ⟨name, he⟩) | hgiven
  · cases congrArg Status.code he
  -- only these trailers show this status, so it is theirs that the theorem speaks of
  · rw [eq_fallen hshown] at hpasses hiff
    refine ⟨hpasses, fun hstripped => ?_⟩
    have hnone := (hiff (by decide)).1 hstripped "grpc-encoding" (by decide)
    revert hnone; decide
  · cases hempty
  · cases congrArg Status.code he
  · simp [Gives, prelude] at hgiven

/-- So transport headers pass from the backend to the caller. -/
theorem not_passes_transport :
    ¬ ∀ (config : Config) (s s' : Service) (i : Nat) (c : Call) (sent : Metadata) (e : Status),
      Run (.ofConfig config) s → RunOf (· = .call i (.respondEnd (some sent))) s s' →
      s'.calls[i]? = some c → c.Hands e → Status.ofHeaders? sent = some e →
      Metadata.Passes Metadata.transportKeys sent e.metadata := by
  intro h
  obtain ⟨s, c, hr, hc, hfall⟩ := exists_fallen
  have hpasses := h capped relaying s 0 c fallen fall (RunOf.run run_relaying) hr hc hfall
    ofHeaders?_fallen
  have hgone := hpasses.gone (by decide) "grpc-encoding" (by decide)
  revert hgone
  decide

end Service

end GrpcRelay
