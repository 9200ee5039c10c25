/-
  The bodies of a call — what has been made of all bytes of the request and of the
  response (`Call.Bodies`): the frames that have arrived are the first ones of these
  bytes and within the limit of what reads them, and the frames that were passed on
  are within the limit of what writes them.
-/
import GrpcRelay.Proofs.Call.Loops
import GrpcRelay.Proofs.Call.Still
import GrpcRelay.Proofs.Relay.Inflow

namespace GrpcRelay

open GrpcRelay.Frame

namespace Call

variable {config : Config} {scope : Bool} {c c' : Call} {m : CallMove} {eff : Option Effect}
  {up down : ByteArray}

/-! ## Bytes and limits -/

/-- The bytes that an event adds to the body of the request, unless that has ended. -/
def requestPart (c : Call) : CallEvent → ByteArray
  | .send bytes => if c.up.source.ended then .empty else bytes
  | _ => .empty

/-- The bytes that an event adds to the body of the response, as long as the backend can. -/
def responsePart (c : Call) : CallEvent → ByteArray
  | .respond bytes => if c.response.live then bytes else .empty
  | _ => .empty

/-- Whether the backend has answered with headers that hold the status already. -/
def isSettled (c : Call) : Bool :=
  match c.response.result with
  | some (.ok headers) => (Status.ofHeaders? headers).isSome
  | _ => false

/-- The largest frame that is read from the backend. -/
def responseLimit (config : Config) (c : Call) : Nat :=
  if c.isSettled then Decoder.defaultLimit else config.maxDecoding.getD Decoder.defaultLimit

/-- The decoder of a response starts with the limit that is set only if the headers hold no
    status. -/
theorem start_of_judgeHeaders {http : Nat} {headers : Metadata} {d : Decoder}
    (h : judgeHeaders config http headers = .ok d) :
    ∃ direction limit, d = .start direction limit ∧ direction ≠ .request ∧
      limit = if (Status.ofHeaders? headers).isSome then none else config.maxDecoding := by
  unfold judgeHeaders at h
  split at h
  · cases h
  · split at h
    · next hs =>
      cases h
      exact ⟨_, _, rfl, nofun, by rw [hs]; rfl⟩
    · next s hs =>
      split at h
      · cases h
        exact ⟨_, _, rfl, nofun, by rw [hs]; rfl⟩
      · cases h

/-! ## What has been made of them -/

/-- What has been made of the bytes of both bodies of a call. -/
structure Bodies (config : Config) (up down : ByteArray) (c : Call) : Prop where
  request : c.up.source.Parsed (.start .request config.maxDecoding) up
    (c.listensToCaller = true) c.inbound
  delivered : ∀ f ∈ c.request.delivered, f.encodeError? config.maxEncoding = none
  unanswered : c.stage.isUnanswered = true → c.response.result = none →
    down = .empty ∧ c.down.source.arrived = []
  response : ∀ headers, c.response.result = some (.ok headers) →
    ∃ http d₀, judgeHeaders config http headers = .ok d₀ ∧
      c.down.source.Parsed d₀ down (c.down.hasReturned = false) c.response.decoder
  answered : c.down.position ≠ .idle → ∃ headers, c.response.result = some (.ok headers)
  live : c.response.live = true → ∃ headers, c.response.result = some (.ok headers)
  closed : c.down.source.ended = true → c.response.live = false
  heard : ∀ f ∈ framesHeard c.heard, f.encodeError? config.maxEncoding = none

theorem bodies_ofArrival (config : Config) (a : Arrival) :
    (ofArrival config a).Bodies config .empty .empty where
  request := Source.parsed_start .request config.maxDecoding rfl rfl
  delivered := nofun
  unanswered _ _ := ⟨rfl, rfl⟩
  response _ := nofun
  answered h := absurd rfl h
  live := nofun
  closed := nofun
  heard := nofun

/-! ### The leg to the backend -/

theorem Bodies.stopTaking (h : c.Bodies config up down) : c.stopTaking.Bodies config up down :=
  { h with }

theorem Bodies.cancelRequest (h : c.Bodies config up down) :
    c.cancelRequest.Bodies config up down := { h with }

theorem Bodies.giveUpOpening (h : c.Bodies config up down) :
    c.giveUpOpening.Bodies config up down := by
  unfold Call.giveUpOpening
  split
  · exact h
  · exact h.cancelRequest

theorem Bodies.giveUpResponse (h : c.Bodies config up down) :
    c.giveUpResponse.Bodies config up down := by
  unfold Call.giveUpResponse
  split
  · exact h.stopTaking
  · exact h

theorem Bodies.failOpening (h : c.Bodies config up down) (hr : c.response.result = none)
    (s : Status) : (c.failOpening s).Bodies config up down :=
  { h with
    unanswered := fun _ => nofun
    response := fun _ => nofun
    answered := fun hp => by
      obtain ⟨headers, hresult⟩ := h.answered hp
      rw [hr] at hresult
      cases hresult
    live := nofun
    closed := fun _ => rfl }

theorem Bodies.respondFault (h : c.Bodies config up down) (hr : c.response.result ≠ none)
    (s : Status) : (c.respondFault s).Bodies config up down :=
  { h with
    unanswered := fun _ hn => absurd hn hr
    response := fun headers hresult => by
      obtain ⟨http, d₀, hjudge, hparsed⟩ := h.response headers hresult
      obtain ⟨direction, limit, rfl, hdirection, -⟩ := start_of_judgeHeaders hjudge
      exact ⟨http, _, hjudge, hparsed.fault (.inr hdirection) s⟩
    live := nofun
    closed := fun _ => rfl }

theorem Bodies.breakStream (h : c.Bodies config up down) (l : Loss) :
    (c.breakStream l).Bodies config up down := by
  have hlost : Bodies config up down
      { c.stopTaking with request := { c.request with lost := some l } } := { h with }
  unfold Call.breakStream
  dsimp only
  split
  · next hr => exact hlost.failOpening hr _
  · next hr => exact hlost.respondFault (fun hn => by rw [hr] at hn; cases hn) _

theorem Bodies.rejectEnd (h : c.Bodies config up down) (hr : c.response.result ≠ none) :
    c.rejectEnd.Bodies config up down := by
  unfold Call.rejectEnd
  split
  · exact h.respondFault hr _
  · exact h.breakStream .reset

theorem Bodies.respondHeaders (h : c.Bodies config up down) (hw : c.Wired)
    (hs : c.stage = .opening) (hr : c.response.result = none) (http : Nat) (headers : Metadata) :
    (c.respondHeaders config http headers).Bodies config up down := by
  have hunanswered : c.stage.isUnanswered = true := by rw [hs]; rfl
  obtain ⟨rfl, harrived⟩ := h.unanswered hunanswered hr
  have hopen := hw.unanswered hunanswered hr
  unfold Call.respondHeaders
  split
  · exact h.breakStream .reset
  · split
    · exact { h with }
    · split
      · exact h.failOpening hr _
      · next d hjudge =>
        refine { h with
          unanswered := fun _ => nofun
          response := fun headers' hresult => ?_
          answered := fun _ => ⟨headers, rfl⟩
          live := fun _ => ⟨headers, rfl⟩
          closed := fun he => absurd (hopen.symm.trans he) nofun }
        cases hresult
        obtain ⟨direction, limit, rfl, -⟩ := start_of_judgeHeaders hjudge
        exact ⟨http, _, hjudge, Source.parsed_start direction limit harrived hopen⟩

theorem open_of_listensToBackend (h : c.listensToBackend = true) :
    c.response.live = true ∧ c.down.hasReturned = false ∧ c.down.source.ended = false := by
  simpa [listensToBackend, ResponseLoop.listens] using h

/-- Bytes of the body that the response loop is to read. -/
theorem Bodies.feedDown {remaining : Option Nat} (h : c.Bodies config up down)
    (hl : c.listensToBackend = true) (bytes : ByteArray) :
    Bodies config up (down ++ bytes)
      { c with
        response :=
          { c.response with
            decoder := (c.down.source.feed c.response.decoder bytes).2
            remaining }
        down := { c.down with source := (c.down.source.feed c.response.decoder bytes).1 } } := by
  obtain ⟨hlive, hreturned, hopen⟩ := open_of_listensToBackend hl
  obtain ⟨headers, hr⟩ := h.live hlive
  have hended := (Source.ended_feed c.down.source c.response.decoder bytes).trans hopen
  exact { h with
    unanswered := fun _ hn => by rw [show c.response.result = none from hn] at hr; cases hr
    response := fun headers hresult => by
      obtain ⟨http, d₀, hjudge, hparsed⟩ := h.response headers hresult
      exact ⟨http, d₀, hjudge, hparsed.feed hreturned hopen bytes⟩
    closed := fun he => absurd (hended.symm.trans he) nofun }

/-- Bytes of the body that the response loop is not to read. -/
theorem Bodies.missDown (h : c.Bodies config up down) (hr : c.response.result ≠ none)
    (ho : c.down.source.ended = false)
    (hd : c.down.hasReturned = false → c.response.decoder = none) (bytes : ByteArray) :
    c.Bodies config up (down ++ bytes) :=
  { h with
    unanswered := fun _ hn => absurd hn hr
    response := fun headers hresult => by
      obtain ⟨http, d₀, hjudge, hparsed⟩ := h.response headers hresult
      exact ⟨http, d₀, hjudge, hparsed.miss ho hd bytes⟩ }

/-- With the stream the rest of its bytes is lost. -/
theorem Bodies.breakStream_append (h : c.Bodies config up down) (hlive : c.response.live = true)
    (ho : c.down.source.ended = false) (l : Loss) (bytes : ByteArray) :
    (c.breakStream l).Bodies config up (down ++ bytes) := by
  obtain ⟨headers, hr⟩ := h.live hlive
  have hfault : c.breakStream l = Call.respondFault
      { c.stopTaking with request := { c.request with lost := some l } } Loss.onResponse := by
    unfold Call.breakStream
    dsimp only
    split
    · next hn => rw [show c.response.result = none from hn] at hr; cases hr
    · rfl
  have hdirection (d : Decoder) (hd : c.response.decoder = some d) : d.direction ≠ .request := by
    obtain ⟨http, d₀, hjudge, hparsed⟩ := h.response headers hr
    obtain ⟨direction, limit, rfl, hne, -⟩ := start_of_judgeHeaders hjudge
    rw [(hparsed.follows d hd).direction]
    exact hne
  have hbroken := h.breakStream l
  rw [hfault] at hbroken ⊢
  refine hbroken.missDown ?_ ?_ (fun _ => rfl) bytes
  · show c.response.result ≠ none
    rw [hr]; nofun
  · exact (Source.ended_fault hdirection _).trans ho

theorem Bodies.respond (h : c.Bodies config up down) (hl : c.listensToBackend = true)
    (bytes : ByteArray) : (c.respond bytes).Bodies config up (down ++ bytes) := by
  unfold Call.respond
  dsimp only
  split
  · exact h.feedDown hl bytes
  · next n _ =>
    split
    · exact h.feedDown hl bytes
    · next hlong =>
      -- of a body that is too long only whole units are taken
      obtain ⟨hlive, -, hopen⟩ := open_of_listensToBackend hl
      have hle : n / dataSize * dataSize ≤ bytes.size :=
        Nat.le_trans (Nat.div_mul_le_self n dataSize) (Nat.le_of_lt (Nat.not_le.1 hlong))
      have hbytes : bytes = bytes.extract 0 (n / dataSize * dataSize) ++
          bytes.extract (n / dataSize * dataSize) bytes.size := by
        rw [← ByteArray.extract_eq_extract_append_extract _ (Nat.zero_le _) hle,
          ByteArray.extract_zero_size]
      have hsplit : down ++ bytes = down ++ bytes.extract 0 (n / dataSize * dataSize) ++
          bytes.extract (n / dataSize * dataSize) bytes.size := by
        rw [ByteArray.append_assoc, ← hbytes]
      rw [hsplit]
      exact (h.feedDown hl _).breakStream_append hlive ((Source.ended_feed _ _ _).trans hopen)
        .reset _

/-- Bytes of the response that the proxy no longer reads. -/
theorem Bodies.unheard (h : c.Bodies config up down) (hl : c.listensToBackend ≠ true)
    (bytes : ByteArray) : c.Bodies config up (down ++ c.responsePart (.respond bytes)) := by
  rw [responsePart]
  split
  · next hlive =>
    obtain ⟨headers, hr⟩ := h.live hlive
    have hopen : c.down.source.ended = false := by
      rw [← Bool.not_eq_true]
      exact fun he => absurd (hlive.symm.trans (h.closed he)) nofun
    refine h.missDown (by rw [hr]; nofun) hopen (fun hn => ?_) bytes
    simp [listensToBackend, ResponseLoop.listens, hlive, hopen, hn] at hl
  · rwa [ByteArray.append_empty]

theorem Bodies.respondNoMore (h : c.Bodies config up down) :
    c.respondNoMore.Bodies config up down :=
  { h with
    live := nofun
    closed := fun _ => rfl }

theorem Bodies.respondEnd (h : c.Bodies config up down) (hl : c.listensToBackend = true)
    (trailers : Option Metadata) : (c.respondEnd trailers).Bodies config up down := by
  obtain ⟨hlive, hreturned, -⟩ := open_of_listensToBackend hl
  obtain ⟨headers, hr⟩ := h.live hlive
  have hne : c.response.result ≠ none := by rw [hr]; nofun
  unfold Call.respondEnd
  split
  · exact { h with
      unanswered := fun _ hn => absurd hn hne
      response := fun headers hresult => by
        obtain ⟨http, d₀, hjudge, hparsed⟩ := h.response headers hresult
        exact ⟨http, d₀, hjudge, hparsed.finish hreturned trailers⟩
      live := nofun
      closed := fun _ => rfl }
  · exact h.rejectEnd hne

theorem Bodies.forward (h : c.Bodies config up down) (hf : c.forward config = some c') :
    c'.Bodies config up down := by
  cases forwards_of_forward hf with
  | delivered f sink hl hr ho ht hwithin =>
    exact { h with
      delivered := fun g hg => by
        rcases List.mem_append.1 hg with hg | hg
        · exact h.delivered g hg
        · rw [List.mem_singleton.1 hg]; exact hwithin }
  | broken f sink =>
    have htaken : Bodies config up down { c with up := { c.up with sink } } := { h with }
    exact htaken.breakStream .reset

theorem Bodies.finishRequest (h : c.Bodies config up down) (hf : c.finishRequest = some c') :
    c'.Bodies config up down := by
  cases finishes_of_finishRequest hf with
  | ended => exact { h with }
  | short => exact h.breakStream .reset

/-! ### The leg to the caller -/

theorem Bodies.receive (h : c.Bodies config up down) (hl : c.listensToCaller = true)
    (hi : c.up.source.ended = true → c.inbound = none) (bytes : ByteArray) :
    (c.receive bytes).Bodies config (up ++ c.requestPart (.send bytes)) down := by
  rw [requestPart]
  split
  · next he =>
    have hrequest := h.request
    refine { h with request := ?_ }
    show Source.Parsed _ (up ++ .empty) _ (c.up.source.feed c.inbound bytes).1
      (c.up.source.feed c.inbound bytes).2
    rw [ByteArray.append_empty, hi he] at *
    exact hrequest
  · next he => exact { h with request := h.request.feed hl (by simpa using he) bytes }

/-- Bytes of the request that the proxy no longer reads. -/
theorem Bodies.unread (h : c.Bodies config up down) (hl : c.listensToCaller ≠ true)
    (bytes : ByteArray) : c.Bodies config (up ++ c.requestPart (.send bytes)) down := by
  rw [requestPart]
  split
  · rwa [ByteArray.append_empty]
  · next he =>
    exact { h with
      request := h.request.miss (by simpa using he) (fun hread => absurd hread hl) bytes }

theorem Bodies.receiveEnd (h : c.Bodies config up down) (hl : c.listensToCaller = true) :
    c.receiveEnd.Bodies config up down :=
  { h with request := h.request.finish hl none }

theorem Bodies.receiveFault (h : c.Bodies config up down) (hl : c.listensToCaller = true)
    (s : Status) : (c.receiveFault s).Bodies config up down :=
  { h with request := h.request.fault (.inl hl) s }

theorem Bodies.leave (h : c.Bodies config up down) : c.leave.Bodies config up down := by
  have hend : (if c.listensToCaller then c.receiveEnd else c).Bodies config up down := by
    split
    · next hl => exact h.receiveEnd hl
    · exact h
  unfold Call.leave
  dsimp only
  split
  · exact { hend with }
  · exact { hend with }

theorem Bodies.hear (h : c.Bodies config up down) : (c.hear config).2.Bodies config up down := by
  have hstatus (s : Status) (k : Channel Item) :
      (c.noteHeard (.ofStatus s) k).2.Bodies config up down :=
    { h with
      heard := by
        show ∀ f ∈ framesHeard (c.heard ++ [.ofStatus s]), _
        rw [framesHeard_append, framesHeard_ofStatus, List.append_nil]
        exact h.heard }
  unfold Call.hear
  split
  · next f k _ =>
    split
    · next hwithin =>
      refine { h with heard := ?_ }
      show ∀ g ∈ framesHeard (c.heard ++ [.frame f]), _
      rw [framesHeard_append]
      intro g hg
      rcases List.mem_append.1 hg with hg | hg
      · exact h.heard g hg
      · rw [List.mem_singleton.1 hg]; exact hwithin
    · exact hstatus _ _
  · exact hstatus _ _
  · split
    · exact h
    · exact hstatus _ _

/-! ### Events -/

/-- Whatever happens to a call from outside, it makes frames of the bytes of both bodies. -/
theorem Bodies.on (h : c.Bodies config up down) (hw : c.Wired) (ev : CallEvent) :
    (c.on config ev).Bodies config (up ++ c.requestPart ev) (down ++ c.responsePart ev) := by
  have hkeep {p : Prop} [Decidable p] {c₁ : Call} (h₁ : p → c₁.Bodies config up down) :
      (if p then c₁ else c).Bodies config (up ++ .empty) (down ++ .empty) := by
    rw [ByteArray.append_empty, ByteArray.append_empty]
    split
    · next hp => exact h₁ hp
    · exact h
  cases ev with
  | send bytes =>
    simp only [Call.on, responsePart, ByteArray.append_empty]
    split
    · next hl => exact h.receive hl hw.inbound bytes
    · next hl => exact h.unread hl bytes
  | respond bytes =>
    simp only [Call.on, requestPart, ByteArray.append_empty]
    by_cases hl : c.listensToBackend = true
    · rw [if_pos hl, responsePart, if_pos (open_of_listensToBackend hl).1]
      exact h.respond hl bytes
    · rw [if_neg hl]
      exact h.unheard hl bytes
  | leave =>
    simp only [requestPart, responsePart, ByteArray.append_empty]
    exact h.leave
  | halfClose => exact hkeep h.receiveEnd
  | fail s => exact hkeep fun hl => h.receiveFault hl s
  | hear => exact hkeep fun _ => h.hear
  | reach => exact hkeep fun _ => { h with }
  | ready => exact hkeep fun _ => { h with }
  | failOpening s =>
    refine hkeep fun ha => ?_
    have hr : c.response.result = none := by
      rcases Bool.or_eq_true_iff.1 ha with ha | ha
      · exact (opening_of_awaitsReach ha).2
      · exact (opening_of_awaitsAnswer ha).2
    exact (h.failOpening hr s).cancelRequest
  | turnAway =>
    refine hkeep fun ha => ?_
    obtain ⟨hs, hr⟩ := opening_of_awaitsReach ha
    exact (h.respondHeaders hw hs hr 431 {}).breakStream .reset
  | respondHeaders http headers =>
    refine hkeep fun ha => ?_
    obtain ⟨hs, hr⟩ := opening_of_awaitsAnswer ha
    exact h.respondHeaders hw hs hr http headers
  | respondEnd trailers => exact hkeep fun hl => h.respondEnd hl trailers
  | respondNoMore => exact hkeep fun _ => h.respondNoMore
  | refuseTrailers => exact hkeep fun hl => h.rejectEnd (hw.answered hl)
  | reset | refuseHeaders | breakDown => exact hkeep fun _ => h.breakStream _

/-! ### Turns -/

/-- As long as the call is not over, only the loop itself gives the body of the request up. -/
theorem listensToCaller_of_not_isOver (ho : c.isOver = false) (hu : c.up.hasReturned = false) :
    c.listensToCaller = true := by
  rw [listensToCaller, hu, ho]
  rfl

theorem not_hasReturned_of_listensToCaller (h : c.listensToCaller = true) :
    c.up.hasReturned = false := by
  simpa using (Bool.and_eq_true_iff.1 h).1

/-- The handler goes on to another stage. -/
theorem Bodies.stage {s : Stage} {k : Option CallContext} {g : Option Guard} {a : Abort}
    {ans : Option Answer} (h : c.Bodies config up down) (ho : c.isOver = false)
    (hs : s.isUnanswered = true → c.stage.isUnanswered = true) :
    Bodies config up down
      { c with stage := s, context := k, guard := g, abort := a, answer := ans } :=
  { h with
    request := h.request.congr rfl rfl fun hl =>
      listensToCaller_of_not_isOver ho (not_hasReturned_of_listensToCaller hl :)
    unanswered := fun hu => h.unanswered (hs hu) }

/-- The handler gives up a response that has not been read. -/
theorem Bodies.giveUp {s : Stage} (h : c.Bodies config up down) (ho : c.isOver = false)
    (hs : s.isUnanswered = false) (hp : c.down.position = .idle) :
    Bodies config up down { c with stage := s, response := .unanswered } :=
  { h with
    request := h.request.congr rfl rfl fun hl =>
      listensToCaller_of_not_isOver ho (not_hasReturned_of_listensToCaller hl :)
    unanswered := fun hu => absurd (hs.symm.trans hu) nofun
    response := fun _ => nofun
    answered := fun hne => absurd hp hne
    live := nofun
    closed := fun _ => rfl }

/-- So it does whatever its tasks do. -/
theorem Turn.bodies (h : Turn config scope c m c' eff) (hb : c.Bodies config up down)
    (hp : c.Poised) (hd : c.stage.isUnlaunched = true → c.Dormant) :
    c'.Bodies config up down := by
  have hdown := hp.down
  cases h with
  | forsake _ hs | rejectEncoding _ hs | rejectPath _ hs | consult _ hs | track _ hs =>
    exact hb.stage (by rw [isOver, hs]) fun _ => by rw [hs]; rfl
  | report _ _ hs | remove _ _ hs | free _ _ _ hs =>
    exact hb.stage (by rw [isOver, hs]) fun hu => by rw [hs]; exact hu
  | refuse _ _ _ hs | failOpening _ hs | record _ hs | signal _ hs | join _ hs | close _ hs
  | await _ hs => exact hb.stage (by rw [isOver, hs]) fun hu => absurd hu Bool.false_ne_true
  | abandonOpening _ hs | abandonJoining _ _ hs =>
    rw [hs] at hdown
    exact hb.cancelRequest.giveUp (by rw [isOver, cancelRequest, stopTaking, hs]) rfl hdown
  | quit hs =>
    have hstage : c.giveUpOpening.stage = .opening :=
      (congrArg Core.stage (core_giveUpOpening c)).trans hs
    rw [hs] at hdown
    exact hb.giveUpOpening.giveUp (by rw [isOver, hstage]) rfl
      ((congrArg Core.down (core_giveUpOpening c)).trans hdown)
  | settle o hs =>
    have hstage : c.giveUpResponse.stage = .relaying :=
      (congrArg Core.stage (core_giveUpResponse c)).trans hs
    exact hb.giveUpResponse.stage (by rw [isOver, hstage]) fun hu => absurd hu Bool.false_ne_true
  | launch context route path hs =>
    have hidle := (hd (by rw [hs]; rfl)).up
    exact { hb with
      request := hb.request.congr rfl rfl fun _ =>
        listensToCaller_of_not_isOver (by rw [isOver, hs]) (by rw [RequestLoop.hasReturned, hidle])
      unanswered := fun _ => hb.unanswered (by rw [hs]; rfl) }
  | opened headers hs hr =>
    rw [hs] at hdown
    have hidle : c.down.position = .idle := hdown
    exact { hb with
      request := hb.request.congr rfl rfl fun hl =>
        listensToCaller_of_not_isOver (by rw [isOver, hs]) (not_hasReturned_of_listensToCaller hl :)
      unanswered := fun hu => absurd hu Bool.false_ne_true
      response := fun headers hresult => by
        obtain ⟨http, d₀, hjudge, hparsed⟩ := hb.response headers hresult
        refine ⟨http, d₀, hjudge, hparsed.congr rfl rfl fun _ => ?_⟩
        rw [ResponseLoop.hasReturned, ResponseLoop.outcome?, hidle]
        rfl
      answered := fun _ => ⟨headers, hr⟩ }
  | down mv d a hs hstep =>
    have ht := ResponseLoop.turn_of_step? hstep
    obtain ⟨hended, -⟩ := ht.leaves
    rw [hs] at hdown
    exact { hb with
      unanswered := fun hu => by rw [show c.stage = .relaying from hs] at hu; cases hu
      response := fun headers hresult => by
        obtain ⟨http, d₀, hjudge, hparsed⟩ := hb.response headers hresult
        exact ⟨http, d₀, hjudge, hparsed.congr ht.arrived hended fun _ => ht.not_returned⟩
      answered := fun _ => hb.answered hdown
      closed := fun he => hb.closed (hended.symm.trans he) }
  | up mv u a hstep =>
    have ht := RequestLoop.turn_of_step? hstep
    obtain ⟨hended, -⟩ := ht.leaves
    refine { hb with request := hb.request.congr ht.arrived hended fun _ => ?_ }
    have hidle : (c.up.position == .idle) = false :=
      beq_eq_false_iff_ne.2 fun hi => ht.not_isStill (.inl hi)
    rw [listensToCaller, ht.not_returned, hidle, Bool.and_false]
    rfl
  | forward _ h => exact hb.forward h
  | finishRequest _ h => exact hb.finishRequest h

end Call

end GrpcRelay
