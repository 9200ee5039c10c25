/-
  Reports — what the completion callback of a call is told, beside what its
  caller was told.

  The two are the same outcome but for a frame of the response that is over the
  limit: it ends the response in the leg to the caller, and the response loop
  only sees that its receiver has left.
-/
import GrpcRelay.Proofs.Call.Hearing
import GrpcRelay.Proofs.Relay.Inflow
import GrpcRelay.Proofs.Service.Fidelity
import GrpcRelay.Proofs.Service.Handed
import GrpcRelay.Proofs.Service.Rest

namespace GrpcRelay

/-- The ending that the callback of a call at this stage has been told, if its time is over. -/
def Stage.reported? : Stage → Option Ending
  | releasing ending .remove | releasing ending .signal | .over ending => some ending
  | _ => none

namespace Stage

variable {s : Stage} {ending : Ending}

theorem reported_cases (h : s.reported? = some ending) :
    (∃ step, s = releasing ending step) ∨ s = .over ending := by
  unfold reported? at h
  split at h
  · cases h; exact .inl ⟨.remove, rfl⟩
  · cases h; exact .inl ⟨.signal, rfl⟩
  · cases h; exact .inr rfl
  · cases h

theorem error?_of_reported (h : s.reported? = some ending) : s.error? = ending.error? := by
  rcases reported_cases h with ⟨step, rfl⟩ | rfl
  · rfl
  · rfl

/-- A call that was refused is over. -/
theorem over_of_refused {e : Status} (h : s.Answers (some (.refused e))) :
    s = .over (.rejected e) ∨ s = .over (.refused e) := by
  cases s with
  | «over» ending =>
    cases ending with
    | rejected => cases h; exact .inl rfl
    | refused => cases h; exact .inr rfl
    | forsaken | abandoned => cases h
    | relayed => obtain ⟨_, h⟩ := h; cases h
  | releasing ending =>
    cases ending with
    | relayed => obtain ⟨_, h⟩ := h; cases h
    | rejected | forsaken | refused | abandoned => cases h
  | relaying | closing | awaiting => obtain ⟨_, h⟩ := h; cases h
  | arriving | resolving | routed | tracked | opening | recording | signalling | joining => cases h

/-- A call that was answered and has ended was relayed. -/
theorem relayed_of_opened {headers : Metadata} {p : ResponseLoopAt}
    (h : s.Answers (some (.opened headers))) (hr : s.reported? = some ending) (hp : s.Holds p) :
    ∃ o, ending = .relayed o ∧ p = .returned o := by
  rcases reported_cases hr with ⟨step, rfl⟩ | rfl
  · cases ending with
    | relayed o => exact ⟨o, rfl, hp⟩
    | rejected | forsaken | refused | abandoned => cases h
  · cases ending with
    | relayed o => exact ⟨o, rfl, hp⟩
    | rejected | forsaken | refused | abandoned => cases h

end Stage

/-- A report is the outcome that this status is: success for `ok`, and else an error with its code
    and its message. -/
structure Agrees (report : Option Status) (told : Status) : Prop where
  ok : report = none ↔ told.code = .ok
  error : ∀ e, report = some e → e.code = told.code ∧ e.message = told.message

namespace Call

variable {config : Config} {scope : Bool} {c c' : Call} {m : CallMove} {eff : Option Effect}
  {ending : Ending} {st : Status}

/-- A frame that the caller has taken is over the limit, and its response ends with this status. -/
def Overflows (config : Config) (c : Call) (st : Status) : Prop :=
  ∃ f e, .frame f ∈ c.down.sink.seen ∧ f.encodeError? config.maxEncoding = some e ∧
    st.code = e.code ∧ st.message = e.message

theorem Turn.reported (h : Turn config scope c m c' eff)
    (hs : c.stage.reported? = some ending) : c'.stage.reported? = some ending := by
  cases h with
  | down | up => exact hs
  | forward _ h => rw [stage_forward h]; exact hs
  | finishRequest _ h => rw [stage_finishRequest h]; exact hs
  | remove _ _ h | free _ _ _ h => rw [h] at hs; exact hs
  | forsake _ h | abandonOpening _ h | abandonJoining _ _ h | rejectEncoding _ h | rejectPath _ h
  | consult _ h | track _ h | refuse _ _ _ h | launch _ _ _ h | quit h | failOpening _ h
  | opened _ h | record _ h | signal _ h | join _ h | settle _ h | close _ h | await _ h
  | report _ _ h => rw [h] at hs; cases hs

/-- The callback is called when its time comes, with the error of the ending. -/
theorem Turn.reports {err : Option Status} (h : Turn config scope c m c' eff)
    (he : eff = some (.report err)) :
    ∃ ending, c'.stage.reported? = some ending ∧ err = ending.error? := by
  cases h with
  | report ending g =>
    split at he
    · cases he; exact ⟨ending, rfl, rfl⟩
    · cases he
  | forsake | abandonOpening | abandonJoining | rejectEncoding | rejectPath | consult | track
  | refuse | launch | quit | failOpening | opened | record | signal | join | down | settle | close
  | await | up | forward | finishRequest | remove | free => cases he

theorem agrees_of_error {H T : Metadata → Prop} {A : Status → Prop} {e : Status}
    (ho : Origin H T A e) (hcode : st.code = e.code) (hmessage : st.message = e.message) :
    Agrees (some e) st ∨ e.code = .ok ∧ A e := by
  by_cases hok : e.code = .ok
  · exact .inr ⟨hok, ho.given_of_ok hok⟩
  · refine .inl ⟨⟨nofun, fun h => absurd (hcode.symm.trans h) hok⟩, fun e' he => ?_⟩
    cases he; exact ⟨hcode.symm, hmessage.symm⟩

/-- Frames of a response that is read, sent whole. -/
theorem on_respond_frames (config : Config) {d : Decoder} {fs : List Frame}
    (hl : c.listensToBackend = true) (hr : c.response.remaining = none)
    (hd : c.response.decoder = some d) (hsane : d.IsSane) (hp : d.pending = .empty)
    (hfs : ∀ f ∈ fs, f.Fits d.limit) :
    ∃ d', c.on config (.respond (Frame.wireAll fs)) =
      { c with
        response := { c.response with decoder := some d' }
        down := { c.down with source := c.down.source.pushAll (fs.map .frame) } } := by
  obtain ⟨d', hfeed⟩ := Source.feed_frames hsane hp hfs c.down.source
  refine ⟨d', ?_⟩
  show (if c.listensToBackend = true then c.respond (Frame.wireAll fs) else c) = _
  simp only [if_pos hl, Call.respond, hr, hd, hfeed, Option.map_none]

/-- What the caller and the callback of a call were told. -/
theorem agrees_or {H T : Metadata → Prop} {A : Status → Prop} (hp : c.Poised)
    (hh : c.Hearing config) (hk : c.down.Kept) (hd : c.Draws H T A) (ht : c.told? = some st)
    (hr : c.stage.reported? = some ending) :
    Agrees ending.error? st ∨ c.Overflows config st ∨
      ∃ e, ending.error? = some e ∧ e.code = .ok ∧ A e := by
  have hagrees {e : Status} (he : ending.error? = some e) (hcode : st.code = e.code)
      (hmessage : st.message = e.message) :
      Agrees ending.error? st ∨ c.Overflows config st ∨
        ∃ e, ending.error? = some e ∧ e.code = .ok ∧ A e := by
    have ho : Origin H T A e := hd.error e ((Stage.error?_of_reported hr).trans he)
    rcases agrees_of_error ho hcode hmessage with h | ⟨hok, hA⟩
    · exact .inl (he ▸ h)
    · exact .inr (.inr ⟨e, he, hok, hA⟩)
  rcases told_cases ht with ⟨e, ha, rfl⟩ | ⟨headers, x, ha, hx, hs⟩
  · have hending : ending.error? = some e := by
      rcases Stage.over_of_refused (ha ▸ hp.answer) with hs | hs
      · rw [hs] at hr; cases hr; rfl
      · rw [hs] at hr; cases hr; rfl
    exact hagrees hending e.overHeaders_eq.1 e.overHeaders_eq.2
  · obtain ⟨o, rfl, hreturned⟩ := Stage.relayed_of_opened (ha ▸ hp.answer) hr hp.down
    have hsuccess (hok : st.code = .ok) : Agrees (Ending.relayed (.ok ())).error? st :=
      ⟨⟨fun _ => hok, fun _ => rfl⟩, nofun⟩
    obtain ⟨-, e, hw, hcode, hmessage⟩ := hh.of_status hx hs
    -- the last word is what the loop has returned, unless only the leg to the caller found fault
    cases hw with
    | overflow f _ hf he => exact .inr (.inl ⟨f, e, hf, he, hcode, hmessage⟩)
    | handed _ he =>
      obtain ⟨o', ho', heo⟩ := hk.outcome_of_failure (c.down.sink.seen_prefix.subset he)
      rw [hreturned] at ho'; cases ho'
      rcases heo with rfl | ⟨rfl, hok⟩
      · exact hagrees rfl hcode hmessage
      · exact .inl (hsuccess (hcode.trans hok))
    | nothing ho =>
      rw [hreturned] at ho; cases ho
      exact .inl (hsuccess hcode)

end Call

namespace Service

variable {config : Config} {E : ServiceEvent → Prop} {s s' : Service} {i : Nat} {c c' : Call}
  {st : Status} {err : Option Status}

/-! ## What the callback was told -/

theorem Step.completions (hs : Step s s') (h : (i, err) ∈ s'.completions) :
    (i, err) ∈ s.completions ∨ Asks i (.report err) s s' := by
  cases hs with
  | @branch j m r hb =>
    obtain ⟨c', eff⟩ := r
    cases eff with
    | none => exact .inl h
    | some eff =>
      cases eff with
      | consult | track | remove | signal => exact .inl h
      | report error =>
        rcases List.mem_append.1 h with h | h
        · exact .inl h
        · cases List.mem_singleton.1 h
          exact .inr ⟨m, c', hb, rfl⟩
  | event ev => exact .inl ((untouched_on s ev).completions ▸ h)

theorem MovesOf.reported {ending : Ending} (hm : s.MovesOf E i c c')
    (hs : c.stage.reported? = some ending) : c'.stage.reported? = some ending := by
  cases hm with
  | rests => exact hs
  | turn m eff ht => exact ht.reported hs
  | event ev => rw [Call.stage_on]; exact hs
  | rejected _ h | routed _ _ _ h => rw [h] at hs; cases hs

/-- What a callback was told is the error of how its call ended. -/
theorem Run.completion (hr : Run (.ofConfig config) s) (h : (i, err) ∈ s.completions) :
    ∃ c ending, s.calls[i]? = some c ∧ c.stage.reported? = some ending ∧ err = ending.error? := by
  induction hr with
  | refl => cases h
  | tail hr hs ih =>
    -- an old report is of an ending, which its call keeps
    rcases hs.completions h with h | ⟨m, c', hb, rfl⟩
    · obtain ⟨c, ending, hc, hreported, he⟩ := ih h
      obtain ⟨c', hc', hm⟩ := hs.moves hc
      exact ⟨c', ending, hc', hm.reported hreported, he⟩
    · obtain ⟨c, hc, ht⟩ := branch?_eq_some hb
      obtain ⟨ending, hreported, he⟩ := ht.reports rfl
      refine ⟨c', ending, ?_, hreported, he⟩
      rw [calls_after]
      exact getElem?_modify_self hc

/-! ## What the caller was told -/

theorem MovesOf.hearing (hm : s.MovesOf E i c c') (hp : c.Poised) (hk : c.down.Kept)
    (hh : c.Hearing s.config) : c'.Hearing s.config := by
  cases hm with
  | rests => exact hh
  | turn m eff ht => exact hh.quiet (ht.quiet hp)
  | event ev =>
    by_cases hev : ev = .hear
    · subst hev
      simp only [Call.on]
      split
      · next hr => exact hh.hear hk hr
      · exact hh
    · exact hh.quiet (Call.quiet_on hev)
  | rejected | routed => exact hh.quiet ⟨rfl, rfl, id, fun _ => id⟩

theorem Run.hearing (hr : Run (.ofConfig config) s) (hc : s.calls[i]? = some c) :
    c.Hearing config :=
  RunOf.calls (P := fun _ c => c.Hearing config)
    (fun _ a => Call.hearing_ofArrival config a)
    (fun hr hc hm hh => by
      have hconfig := Run.config hr
      have hh' := hm.hearing (Run.poised hr hc) (Run.flows hr hc).down.kept (hconfig ▸ hh)
      rw [hconfig] at hh'
      exact hh')
    (Run.runOf hr) hc

theorem MovesOf.told (hm : s.MovesOf E i c c') (hp : c.Poised) (hh : c.Hearing s.config)
    (ht : c.told? = some st) : c'.told? = some st ∧ c'.route = c.route := by
  have hunanswered (hs : c.stage = .resolving) : c.told? = none := by
    have hanswer := hp.answer
    rw [hs] at hanswer
    rw [Call.told?, show c.answer = none from hanswer]
  cases hm with
  | rests => exact ⟨ht, rfl⟩
  | turn m eff h => exact ⟨Call.told?_quiet ht (h.quiet hp) fun _ => h.answer hp, h.route⟩
  | event ev => exact ⟨Call.told?_on ht hh, congrArg Core.route (Call.core_on s.config c ev)⟩
  | rejected _ hs | routed _ _ _ hs => rw [hunanswered hs] at ht; cases ht

theorem Run.told (hr : Run (.ofConfig config) s) (hc : s.calls[i]? = some c)
    (ht : c.told? = some st) (hrun : Run s s') :
    ∃ c', s'.calls[i]? = some c' ∧ c'.told? = some st ∧ c'.route = c.route := by
  induction hrun with
  | refl => exact ⟨c, hc, ht, rfl⟩
  | @tail s₁ s₂ hrun hs ih =>
    obtain ⟨c₁, hc₁, ht₁, hroute₁⟩ := ih
    have hr₁ := hr.trans hrun
    have hconfig : s₁.config = config := Run.config hr₁
    obtain ⟨c₂, hc₂, hm⟩ := hs.moves hc₁
    obtain ⟨ht₂, hroute₂⟩ :=
      hm.told (Run.poised hr₁ hc₁) (hconfig.symm ▸ Run.hearing hr₁ hc₁) ht₁
    exact ⟨c₂, hc₂, ht₂, hroute₂.trans hroute₁⟩

/-- A call whose caller was told the end is over once the tasks have come to rest. -/
theorem AtRest.over_of_told (h : s.AtRest) (hr : Run (.ofConfig config) s)
    (hc : s.calls[i]? = some c) (ht : c.told? = some st) : c.isOver = true := by
  have hanswer := (Run.poised hr hc).answer
  have hclosed (hs : c.stage = .relaying) : c.down.sink.receiverOpen = false := by
    rcases Call.told_cases ht with ⟨e, ha, -⟩ | ⟨headers, x, -, hx, hst⟩
    · rw [hs, ha] at hanswer
      obtain ⟨_, hanswer⟩ := hanswer
      cases hanswer
    · exact ((Run.hearing hr hc).of_status hx hst).1
  -- a relayed call only waits for a caller that still listens
  cases h.waits hr hc with
  | decision hs | answer hs =>
    rw [hs] at hanswer
    rw [Call.told?, show c.answer = none from hanswer] at ht
    cases ht
  | item hs _ _ ho | room _ hs _ _ ho | delivery _ _ hs _ ho => rw [hclosed hs] at ho; cases ho
  | nothing ending hs => rw [Call.isOver, hs]

theorem Keeps.reports_of_over (h : s.Keeps i c) (ho : c.isOver = true) :
    s.reports i = if c.hasCallback then 1 else 0 := by
  cases hr : c.route with
  | none =>
    have hcallback : c.hasCallback = false := by rw [Call.hasCallback, hr]; rfl
    rw [h.reports, hcallback, Bool.and_false]
  | some route =>
    have hcallback : c.hasCallback = route.onDone.isSome := by rw [Call.hasCallback, hr]; rfl
    rw [(h.of_over hr ho).1, hcallback]

/-! ## The same -/

/-- **The callback is told what the caller was told.**  Once a caller has read its response to the
    end, all that the callback of its call is told agrees with the status that ended it, unless
    that status is of a frame over the limit, which the response loop knows nothing of, or the
    call was given a failure of code `ok`.  What the caller was told stays.  The tasks come to
    rest, and when they have, the call is over and its callback has been called once, if it has
    one. -/
theorem reports_what_was_told {config : Config} {E : ServiceEvent → Prop} {s : Service} {i : Nat}
    {c : Call} {st : Status} (hr : RunOf E (.ofConfig config) s) (hc : s.calls[i]? = some c)
    (ht : c.told? = some st) :
    (∀ err, (i, err) ∈ s.completions →
      Agrees err st ∨ c.Overflows config st ∨ ∃ e, err = some e ∧ e.code = .ok ∧ Gives E i e) ∧
    (∃ s', Works s s' ∧ s'.AtRest) ∧
    (∀ s', Run s s' → ∃ c', s'.calls[i]? = some c' ∧ c'.told? = some st ∧ c'.route = c.route ∧
      (s'.AtRest → c'.isOver = true ∧ s'.reports i = if c.hasCallback then 1 else 0)) := by
  have hrun : Run (.ofConfig config) s := RunOf.run hr
  refine ⟨fun err herr => ?_, exists_rest s, fun s' hrun' => ?_⟩
  · obtain ⟨c₁, ending, hc₁, hreported, rfl⟩ := Run.completion hrun herr
    rw [hc] at hc₁; cases hc₁
    exact Call.agrees_or (Run.poised hrun hc) (Run.hearing hrun hc)
      (Run.flows hrun hc).down.kept (RunOf.draws hr hc) ht hreported
  · obtain ⟨c', hc', ht', hroute⟩ := Run.told hrun hc ht hrun'
    have hcallback : c'.hasCallback = c.hasCallback := by
      rw [Call.hasCallback, Call.hasCallback, hroute]
    refine ⟨c', hc', ht', hroute, fun hrest => ?_⟩
    have hover := hrest.over_of_told (hrun.trans hrun') hc' ht'
    have hkeeps := (Run.sound (hrun.trans hrun')).calls i c' hc'
    exact ⟨hover, hcallback ▸ hkeeps.reports_of_over hover⟩

/-- A response that fails, read to its end by a caller that stays. -/
theorem reports_what_was_told_of_fallen :
    ∃ s c st, RunOf (fun e => e ∈ prelude ∨ e = .call 0 (.respondEnd (some fallen)) ∨
        e = .call 0 .hear) (.ofConfig capped) s ∧ s.calls[0]? = some c ∧ c.told? = some st ∧
      (0, some fall) ∈ s.completions ∧ Agrees (some fall) st := by
  have hstart : RunOf (fun e => e ∈ prelude ∨ e = .call 0 (.respondEnd (some fallen)) ∨
      e = .call 0 .hear) (.ofConfig capped) relaying := run_relaying.mono fun _ h => .inl h
  have hended := hstart.tail
    (.event (.call 0 (.respondEnd (some fallen))) trivial (.inr (.inl rfl)))
  rw [on_relaying] at hended
  have hread := hended.tail (.branch 0 (.down .read) rfl)
  have hrecorded := hread.tail (.branch 0 (.down .record) rfl)
  have hsignalled := hrecorded.tail (.branch 0 (.down .signal) rfl)
  have hdelivered := hsignalled.tail (.branch 0 (.down .deliver) rfl)
  have hheard := hdelivered.tail (.event (.call 0 .hear) trivial (.inr (.inr rfl)))
  have hsettled := hheard.tail (.branch 0 .settle rfl)
  have hclosed := hsettled.tail (.branch 0 .close rfl)
  have hstopped := hclosed.tail (.branch 0 (.up .quit) rfl)
  have hawaited := hstopped.tail (.branch 0 .await rfl)
  have hrun := hawaited.tail (.branch 0 .release rfl)
  have hmem : (0, some fall) ∈ [((0 : Nat), some fall)] := List.mem_cons_self
  refine ⟨_, _, fall.overHeaders, hrun, rfl, rfl, hmem, ?_⟩
  have htold := reports_what_was_told (i := 0) hrun rfl (show _ = some fall.overHeaders from rfl)
  rcases htold.1 (some fall) hmem with h | ⟨f, e, hf, -⟩ | ⟨e, -, -, hgiven⟩
  · exact h
  · cases List.mem_singleton.1 hf
  · simp [Gives, prelude] at hgiven

/-- A frame over the limit. -/
def long : Frame := ⟨⟨#[1, 2, 3]⟩⟩

theorem wireAll_long : Frame.wireAll [long] = long.wire := ByteArray.append_empty

theorem fits_long : ∀ f ∈ [long], f.Fits Decoder.defaultLimit := by
  intro f hf
  cases List.mem_singleton.1 hf
  exact ⟨by decide, by decide⟩

/-- The call once its backend has sent this frame. -/
def filled (d : Decoder) : Call :=
  { relayed with
    response := { relayed.response with decoder := some d }
    down := { relayed.down with source := Source.empty.pushAll [.frame long] } }

theorem on_relaying_long :
    ∃ d, relaying.on (.call 0 (.respond long.wire)) = { relaying with calls := [filled d] } := by
  obtain ⟨d, hon⟩ := Call.on_respond_frames capped (c := relayed) rfl rfl rfl
    (fun _ => nofun) rfl fits_long
  rw [wireAll_long] at hon
  exact ⟨d, on_alone rfl hon rfl⟩

/-- So the callback of a call can be told another outcome than its caller. -/
theorem not_reports_what_was_told :
    ¬ ∀ (config : Config) (s : Service) (i : Nat) (c : Call) (st : Status) (err : Option Status),
      Run (.ofConfig config) s → s.calls[i]? = some c → c.told? = some st →
      (i, err) ∈ s.completions → Agrees err st := by
  intro h
  obtain ⟨d, hd⟩ := on_relaying_long
  have hfed := (RunOf.run run_relaying).tail (.event (.call 0 (.respond long.wire)) trivial)
  rw [hd] at hfed
  have hread := hfed.tail (.branch 0 (.down .read) rfl)
  have hsent := hread.tail (.branch 0 (.down .send) rfl)
  have hheard := hsent.tail (.event (.call 0 .hear) trivial)
  have hdeserted := hheard.tail (.branch 0 (.down .desert) rfl)
  have hrecorded := hdeserted.tail (.branch 0 (.down .record) rfl)
  have hsignalled := hrecorded.tail (.branch 0 (.down .signal) rfl)
  have hsettled := hsignalled.tail (.branch 0 .settle rfl)
  have hclosed := hsettled.tail (.branch 0 .close rfl)
  have hstopped := hclosed.tail (.branch 0 (.up .quit) rfl)
  have hawaited := hstopped.tail (.branch 0 .await rfl)
  have hrun := hawaited.tail (.branch 0 .release rfl)
  have hagrees := h capped _ 0 _ _ (some ResponseLoop.callerGone) hrun rfl rfl List.mem_cons_self
  have hcode := (hagrees.error _ rfl).1
  rw [(Status.overHeaders_eq _).1] at hcode
  cases hcode

end Service

end GrpcRelay
