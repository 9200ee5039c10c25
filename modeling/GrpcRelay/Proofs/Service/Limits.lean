/-
  Limits — the frames that get through a call are the first ones of the bytes that
  came in on the other side, none of them over a limit, and with a frame that is,
  its direction is over (`Frame.HeldTo`).  A response with such a frame is no success
  to the caller.

  The limit on frames that are read is the one that is set, but for a response whose
  headers hold a status already (`Call.responseLimit`).
-/
import GrpcRelay.Proofs.Call.Silence
import GrpcRelay.Proofs.Service.Log
import GrpcRelay.Proofs.Service.Report

namespace GrpcRelay

namespace Frame

variable {P : Nat → Prop} {sent : ByteArray} {out : List Frame} {n : Nat}

/-- A frame of this size is over neither limit. -/
structure Within (decoding : Nat) (encoding : Option Nat) (n : Nat) : Prop where
  decoded : n ≤ decoding
  encoded : ∀ limit, encoding = some limit → n ≤ limit

/-- What has come out of a body of these bytes, if only frames with a size in `P` get through:
    nothing from a frame of another size on, of which no more need have come than its length. -/
structure HeldTo (P : Nat → Prop) (sent : ByteArray) (out : List Frame) : Prop where
  first : ∃ rest, sent = wireAll out ++ rest
  passes : ∀ f ∈ out, P f.size
  stops : ∀ fs n rest, (∀ f ∈ fs, f.size < 4294967296) → n < 4294967296 →
    sent = wireAll fs ++ (header n ++ rest) → ¬ P n → out <+: fs

theorem heldTo_nil : HeldTo P sent [] where
  first := ⟨sent, ByteArray.empty_append.symm⟩
  passes := nofun
  stops _ _ _ _ _ _ _ := List.nil_prefix

/-- The length that comes after frames is that of the next frame. -/
theorem heldTo_of_first (hfirst : ∃ rest, sent = wireAll out ++ rest)
    (hout : ∀ f ∈ out, f.size < 4294967296) (hP : ∀ f ∈ out, P f.size) : HeldTo P sent out where
  first := hfirst
  passes := hP
  stops fs n rest hfs hn hsent hnot := by
    obtain ⟨r, rfl⟩ := hfirst
    rcases wireAll_append_cases hout hfs hsent with ⟨gs, rfl, -⟩ | ⟨gs, rfl, hgs⟩
    · exact List.prefix_append out gs
    · cases gs with
      | nil => simp
      | cons g gs =>
        have hg : g ∈ fs ++ g :: gs := List.mem_append_right _ List.mem_cons_self
        rw [wireAll_cons, wire_eq, ByteArray.append_assoc, ByteArray.append_assoc] at hgs
        have hread := congrArg Decoder.readPrefix? hgs
        rw [Decoder.readPrefix?_header hn, Decoder.readPrefix?_header (hout g hg)] at hread
        have hsize : n = g.size := congrArg Prod.snd (Option.some.inj hread)
        exact absurd (hP g hg) (hsize ▸ hnot)

end Frame

open GrpcRelay.Frame

namespace Call

variable {config : Config} {c : Call} {up down : ByteArray} {st : Status}
  {H T : Metadata → Prop} {A : Status → Prop}

/-! ## What comes out of a call -/

/-- The decoder of a response has the limit of the response. -/
theorem limit_of_judgeHeaders {http : Nat} {headers : Metadata} {d : Decoder}
    (hr : c.response.result = some (.ok headers)) (h : judgeHeaders config http headers = .ok d) :
    d.limit = c.responseLimit config := by
  obtain ⟨direction, limit, rfl, -, rfl⟩ := start_of_judgeHeaders h
  rw [responseLimit, isSettled, hr]
  show Option.getD (if _ then _ else _) _ = if _ then _ else _
  split <;> rfl

/-- Of the request comes out what both legs let through. -/
theorem Bodies.delivered_heldTo (hb : c.Bodies config up down)
    (hd : c.request.delivered <+: framesOf c.up.source.arrived) :
    HeldTo (Within (config.maxDecoding.getD Decoder.defaultLimit) config.maxEncoding) up
      c.request.delivered := by
  obtain ⟨hfits, hfirst⟩ := hb.request.first hd
  refine heldTo_of_first hfirst (fun f hf => (hfits f hf).size_lt) fun f hf => ?_
  exact ⟨(hfits f hf).size_le, (encodeError?_eq_none_iff.1 (hb.delivered f hf)).2⟩

/-- So does of the response, of which nothing comes out unless the response loop was started. -/
theorem Bodies.heard_heldTo (hb : c.Bodies config up down)
    (hh : framesHeard c.heard <+: framesOf c.down.source.arrived)
    (hidle : c.down.position = .idle → framesHeard c.heard = []) :
    HeldTo (Within (c.responseLimit config) config.maxEncoding) down (framesHeard c.heard) := by
  by_cases hp : c.down.position = .idle
  · rw [hidle hp]
    exact heldTo_nil
  · obtain ⟨headers, hr⟩ := hb.answered hp
    obtain ⟨http, d₀, hjudge, hparsed⟩ := hb.response headers hr
    obtain ⟨hfits, hfirst⟩ := hparsed.first hh
    rw [limit_of_judgeHeaders hr hjudge] at hfits
    refine heldTo_of_first hfirst (fun f hf => (hfits f hf).size_lt) fun f hf => ?_
    exact ⟨(hfits f hf).size_le, (encodeError?_eq_none_iff.1 (hb.heard f hf)).2⟩

/-- A response that has ended has no frames but those that have arrived. -/
theorem Bodies.arrived_of_ended {fs : List Frame} {rest : ByteArray} (hb : c.Bodies config up down)
    (hp : c.down.position ≠ .idle) (he : c.down.source.ended = true)
    (hfs : ∀ f ∈ fs, f.size < 4294967296) (hdown : down = wireAll fs ++ rest) :
    fs <+: framesOf c.down.source.arrived := by
  obtain ⟨headers, hr⟩ := hb.answered hp
  obtain ⟨http, d₀, hjudge, hparsed⟩ := hb.response headers hr
  obtain ⟨r, hrest, -, hend⟩ := hparsed.rest
  exact (hend he).isPrefix (fun f hf => (hparsed.fits f hf).size_lt) hfs (hrest.symm.trans hdown)

/-- A caller is told success by a response loop that has succeeded and all of whose frames it has
    read, or with a status that the call was given. -/
theorem succeeded_of_told (hh : c.Hearing config) (hs : c.Sated)
    (hk : c.down.Kept) (hd : c.Draws H T A) (ht : c.told? = some st) (hok : st.code = .ok) :
    (c.down.position = .returned (.ok ()) ∧
      framesHeard c.heard = framesOf c.down.sink.given) ∨ ∃ e, e.code = .ok ∧ A e := by
  rcases told_cases ht with ⟨e, ha, rfl⟩ | ⟨headers, x, -, hx, hst⟩
  · have hcode : e.code = .ok := e.overHeaders_eq.1.symm.trans hok
    exact .inr ⟨e, hcode, (hd.refused e ha).given_of_ok hcode⟩
  · obtain ⟨o, ho, hall⟩ := hs x st hx hst hok
    cases o with
    | ok => exact .inl ⟨ho, hall⟩
    | error e =>
      -- the last word of a loop that has failed is its error, which is no success of its own
      obtain ⟨-, e', hw, hcode, -⟩ := hh.of_status hx hst
      cases hw with
      | overflow f _ _ he => exact absurd (hcode.symm.trans hok) (code_of_encodeError? he)
      | nothing hp => rw [ho] at hp; cases hp
      | handed _ he =>
        obtain ⟨o, ho', heo⟩ := hk.outcome_of_failure (c.down.sink.seen_prefix.subset he)
        rw [ho] at ho'; cases ho'
        rcases heo with heo | ⟨heo, -⟩
        · cases heo
          have horigin : Origin H T A e := hd.down.error e (by rw [ho]; rfl)
          have hok' : e.code = .ok := hcode.symm.trans hok
          exact .inr ⟨e, hok', horigin.given_of_ok hok'⟩
        · cases heo

end Call

namespace Service

variable {config : Config} {E : ServiceEvent → Prop} {log : List (Service × ServiceEvent)}
  {s s' : Service} {i : Nat} {c c' : Call} {up down : ByteArray}

/-! ## In every run -/

theorem Moves.sated (hm : s.Moves i c c') (hp : c.Poised) (hk : s.Keeps i c) (hf : s.Flows c)
    (hs : c.Sated) : c'.Sated := by
  have hdown := (hm.runs hk hf.wired).down
  have hquiet (hheard : c'.heard = c.heard) : c'.Sated :=
    hs.congr hheard fun o ho => hdown.returned ho
  cases hm with
  | rests => exact hs
  | turn m eff ht => exact hquiet (ht.quiet hp).heard
  | event ev =>
    by_cases hev : ev = .hear
    · subst hev
      simp only [Call.on]
      split
      · next hr => exact hs.hear hf.down.kept hf.wired.told hr
      · exact hs
    · exact hquiet (Call.quiet_on hev).heard
  | rejected | routed => exact hquiet rfl

theorem Run.sated (hr : Run (.ofConfig config) s) (hc : s.calls[i]? = some c) : c.Sated :=
  RunOf.calls (P := fun _ c => c.Sated) (fun _ _ _ _ => nofun)
    (fun hr hc hm hs => Moves.sated hm (Run.poised hr hc) ((Run.sound hr).calls _ _ hc)
      (Run.flows hr hc) hs)
    (Run.runOf hr) hc

/-- A step that is no event of a call. -/
theorem MovesOf.silentOrDraws {A : Status → Prop} (hm : s.MovesOf E i c c')
    (hE : ∀ ev, ¬ E (.call i ev)) (hk : s.Keeps i c) (hb : c.Bodies config up down)
    (h : c.SilentOrDraws A down) : c'.SilentOrDraws A down := by
  cases hm with
  | rests => exact h
  | turn m eff ht => exact h.turn ht
  | event ev he => exact absurd he (hE ev)
  | rejected e hs =>
    -- a call that is refused here has not been opened
    have hresponse := (hk.dormant (by rw [hs]; rfl)).response
    refine .inl ⟨⟨?_, nofun⟩, (hb.unanswered (by rw [hs]; rfl) ?_).1⟩
    · show c.response.live = false
      rw [hresponse]; rfl
    · rw [hresponse]; rfl
  | routed context route scope hs =>
    exact h.imp (And.imp_left fun hc => hc.congr rfl fun _ => by rw [hs]; rfl)
      fun hd => { hd with error := nofun }

/-- In every run: `A` are the statuses with which the body of the request has failed. -/
theorem Logged.silentOrDraws {A : Status → Prop} (hl : Logged config log s)
    (hA : ∀ u e, (u, .call i (.fail e)) ∈ log → A e) (hc : s.calls[i]? = some c) :
    c.SilentOrDraws A (responseBytes i log) :=
  hl.calls (L := (· ∈ log)) (P := fun _ down c => c.SilentOrDraws A down)
    (Call.silentOrDraws_ofArrival A config)
    (fun hl hc hm h => hm.silentOrDraws (fun ev h => h ev rfl) ((Run.sound hl.run).calls i _ hc)
      (hl.bodies hc) h)
    (fun hl hc hmem h => h.on (hl.bodies hc) fun e he => hA _ e (he ▸ hmem)) (fun _ => id) hc

/-- **Size limits.**  In every run, the frames that a call has sent on to its backend are the
    first ones of the bytes that its caller has sent, and the frames that the caller has read are
    the first ones of the bytes that the backend has sent; none of them is over a limit of either
    leg, and where a frame begins that is over one, no more come out.  A caller that is told
    success has read all frames that the backend has sent, so none of these is over a limit,
    unless the body of the request has failed with a status of code `ok`. -/
theorem limits_hold {config : Config} {log : List (Service × ServiceEvent)} {s : Service} {i : Nat}
    {c : Call} (hl : Logged config log s) (hc : s.calls[i]? = some c) :
    HeldTo (Within (config.maxDecoding.getD Decoder.defaultLimit) config.maxEncoding)
      (requestBytes i log) c.request.delivered ∧
    HeldTo (Within (c.responseLimit config) config.maxEncoding)
      (responseBytes i log) (framesHeard c.heard) ∧
    (∀ st, c.told? = some st → st.code = .ok →
      (∀ fs rest, (∀ f ∈ fs, f.size < 4294967296) → responseBytes i log = wireAll fs ++ rest →
        fs <+: framesHeard c.heard ∧
          ∀ f ∈ fs, Within (c.responseLimit config) config.maxEncoding f.size) ∨
      ∃ u e, (u, .call i (.fail e)) ∈ log ∧ e.code = .ok) := by
  have hflows : s.Flows c := Run.flows hl.run hc
  have hkept : c.down.Kept := hflows.down.kept
  have hb := hl.bodies hc
  have hdelivered := hflows.wired.carried.isPrefix.trans hflows.up.kept.carried
  have hheard := hflows.wired.told.isPrefix.trans hkept.carried
  have hidle (hp : c.down.position = .idle) : framesHeard c.heard = [] := by
    have hseen := hflows.wired.told.isPrefix.trans (framesOf_mono c.down.sink.seen_prefix)
    rw [hflows.down.given_of_idle hp] at hseen
    exact List.prefix_nil.1 hseen
  have hheld := hb.heard_heldTo hheard hidle
  refine ⟨hb.delivered_heldTo hdelivered, hheld, fun st ht hok => ?_⟩
  have hall {fs : List Frame} (hfs : fs <+: framesHeard c.heard) :
      fs <+: framesHeard c.heard ∧
        ∀ f ∈ fs, Within (c.responseLimit config) config.maxEncoding f.size :=
    ⟨hfs, fun f hf => hheld.passes f (hfs.subset hf)⟩
  rcases hl.silentOrDraws (A := fun e => ∃ u, (u, .call i (.fail e)) ∈ log)
    (fun u e he => ⟨u, he⟩) hc with ⟨-, hempty⟩ | hdraws
  · refine .inl fun fs rest hfs hdown => hall ?_
    rw [hempty] at hdown
    have hnil : fs <+: [] := incomplete_empty.isPrefix nofun hfs hdown
    exact hnil.trans List.nil_prefix
  · rcases Call.succeeded_of_told (Run.hearing hl.run hc) (Run.sated hl.run hc) hkept hdraws ht hok
      with ⟨hp, hgiven⟩ | ⟨e, hcode, u, he⟩
    · -- the loop has put in all that has arrived, and that is all there is
      obtain ⟨_, hended, -⟩ := hkept.last_of_ok hp
      refine .inl fun fs rest hfs hdown => hall ?_
      rw [hgiven, hkept.whole_of_ok hp]
      exact hb.arrived_of_ended (by rw [hp]; nofun) hended hfs hdown
    · exact .inr ⟨u, e, he, hcode⟩

/-- The response of this call has no bytes yet. -/
theorem responseBytes_of_relaying (hl : Logged capped log relaying) :
    responseBytes 0 log = .empty := by
  have hb : relayed.Bodies capped (requestBytes 0 log) (responseBytes 0 log) := hl.bodies rfl
  obtain ⟨http, d₀, -, hparsed⟩ := hb.response {} rfl
  obtain ⟨r, hr, hd, -⟩ := hparsed.rest
  have hpending : (Decoder.start (.response 200) none).pending = r := (hd rfl _ rfl).1
  rw [hr, ← hpending]
  rfl

/-- A backend that sends a frame over the limit on what is written: its caller reads no frame, and
    is told no success. -/
theorem limits_hold_of_long :
    ∃ log s c st, Logged capped log s ∧ s.calls[0]? = some c ∧ responseBytes 0 log = long.wire ∧
      framesHeard c.heard = [] ∧ c.told? = some st ∧ st.code ≠ .ok := by
  obtain ⟨log, hl, hprelude⟩ := run_relaying.logged
  obtain ⟨d, hd⟩ := on_relaying_long
  have hfed := hl.event (.call 0 (.respond long.wire)) trivial
  rw [hd] at hfed
  have hread := hfed.branch 0 (.down .read) rfl
  have hsent := hread.branch 0 (.down .send) rfl
  have hheard := hsent.event (.call 0 .hear) trivial
  have hbytes (u : Service) : responseBytes 0
      (log ++ [(relaying, .call 0 (.respond long.wire))] ++ [(u, .call 0 .hear)]) = long.wire := by
    have hempty : bytesOf Call.responsePart 0 log = .empty := responseBytes_of_relaying hl
    have hhear : partOf Call.responsePart 0 (u, .call 0 .hear) = .empty := by
      rw [partOf, if_pos rfl]
      cases u.calls[0]? <;> rfl
    rw [responseBytes, bytesOf_concat, bytesOf_concat, hempty, hhear]
    rfl
  have hover : ¬ Within Decoder.defaultLimit (some 2) long.size :=
    fun h => absurd (h.encoded 2 rfl) (by decide)
  have hsize : ∀ f ∈ [long], f.size < 4294967296 := fun f hf => (fits_long f hf).size_lt
  obtain ⟨-, hheld, hok⟩ := limits_hold (i := 0) hheard rfl
  refine ⟨_, _, _, _, hheard, rfl, hbytes _, ?_, rfl, fun hcode => ?_⟩
  · exact List.prefix_nil.1 (hheld.stops [] long.size long.bytes (List.forall_mem_nil _)
      (by decide) (hbytes _) hover)
  · rcases hok _ rfl hcode with hall | ⟨u, e, he, -⟩
    · exact hover ((hall [long] .empty hsize (hbytes _)).2 long List.mem_cons_self)
    · rcases List.mem_append.1 he with he | he
      · rcases List.mem_append.1 he with he | he
        · have hmem := hprelude _ he
          simp [prelude] at hmem
        · cases List.mem_singleton.1 he
      · cases List.mem_singleton.1 he

/-- Frames of more than two bytes are not to be read. -/
def narrow : Config := { Config.default with maxDecoding := some 2 }

/-- Headers that hold a status already. -/
def settling : Metadata := ⟨[("grpc-status", .text "0")]⟩

/-- A call that the backend has answered with these headers. -/
def settled : Call :=
  { relayed with
    inbound := some (.start .request (some 2))
    response := ⟨some (.ok settling), some (.start .settledResponse none), true, false, none⟩ }

/-- The call before that. -/
def opening : Call :=
  { settled with
    stage := .opening
    response := .unanswered
    down := .idle .empty Call.capacity
    answer := none }

/-- A service with one call. -/
def narrowed (c : Call) : Service := { relaying with config := narrow, calls := [c] }

/-- These headers begin a response whose frames are read up to the limit that there is unless one
    is set. -/
theorem exists_settled : ∃ log, Logged narrow log (narrowed settled) := by
  have hnew : Logged narrow [] _ := .start
  have hscope := hnew.event (.createScope none) trivial
  have harrived := hscope.event (.arrive ⟨"/a/b", none, {}, none⟩) trivial
  have hconsulted := harrived.branch 0 .accept rfl
  have hrouted := hconsulted.event (.decide 0 (.ok plainRoute))
    fun _ h => by cases h; exact Nat.zero_lt_one
  have htracked := hrouted.branch 0 .track rfl
  have hlaunched := htracked.branch 0 .launch rfl
  obtain ⟨log, hreached⟩ : ∃ log, Logged narrow log (narrowed opening) :=
    ⟨_, hlaunched.event (.call 0 .reach) trivial⟩
  have hencoding : Status.encodingError? settling = none := rfl
  have hstatus : Status.ofHeaders? settling = some (.of .ok "") := by decide +kernel
  have hlength : settling.bodyLength = .undeclared := rfl
  have hjudge : Call.judgeHeaders narrow 200 settling = .ok (.start .settledResponse none) := by
    rw [Call.judgeHeaders, hencoding, hstatus]
    rfl
  have hon : opening.on narrow (.respondHeaders 200 settling) =
      { opening with response := settled.response } := by
    show Call.respondHeaders narrow 200 settling opening = _
    rw [Call.respondHeaders, hjudge, hlength]
    rfl
  have hanswered := hreached.event (.call 0 (.respondHeaders 200 settling)) trivial
  rw [on_alone (s := narrowed opening) rfl hon rfl] at hanswered
  exact ⟨_, hanswered.branch 0 .opened rfl⟩

/-- So the limit that is set is not kept by such a response. -/
theorem not_limits_hold :
    ¬ ∀ (config : Config) (log : List (Service × ServiceEvent)) (s : Service) (i : Nat) (c : Call),
      Logged config log s → s.calls[i]? = some c →
      HeldTo (Within (config.maxDecoding.getD Decoder.defaultLimit) config.maxEncoding)
        (responseBytes i log) (framesHeard c.heard) := by
  intro h
  obtain ⟨log, hl⟩ := exists_settled
  obtain ⟨d, hon⟩ := Call.on_respond_frames narrow (c := settled) rfl rfl rfl
    (fun _ => nofun) rfl fits_long
  have hfed := hl.event (.call 0 (.respond (wireAll [long]))) trivial
  rw [on_alone (s := narrowed settled) rfl hon rfl] at hfed
  have hread := hfed.branch 0 (.down .read) rfl
  have hsent := hread.branch 0 (.down .send) rfl
  have hheard := hsent.event (.call 0 .hear) trivial
  have hpassed := (h narrow _ _ 0 _ hheard rfl).passes long List.mem_cons_self
  exact absurd hpassed.decoded (by decide)

end Service

end GrpcRelay
