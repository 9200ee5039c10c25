/-
  Hearing — what a caller has read of its response, and what its last words stand
  for: a frame over the limit, a status that the response loop handed on, or
  nothing more after a success (`Call.Hearing`).  After them the caller takes
  nothing any more, so what it was told (`Call.told?`) stays.
-/
import GrpcRelay.Proofs.Call.Flow
import GrpcRelay.Proofs.Call.Stages
import GrpcRelay.Proofs.Frame.Wire
import GrpcRelay.Proofs.Status

namespace GrpcRelay

/-- The status that a caller reads at the end of its response. -/
def Heard.status? : Heard → Option Status
  | finished trailers => Status.ofHeaders? trailers
  | failed s => some s
  | frame _ | pending => none

/-- A status reads to the caller with its code and its message. -/
theorem Heard.status?_ofStatus (e : Status) :
    ∃ s, (Heard.ofStatus e).status? = some s ∧ s.code = e.code ∧ s.message = e.message := by
  unfold Heard.ofStatus
  split
  · exact e.ofHeaders?_toHeaders
  · exact ⟨_, rfl, e.overHeaders_eq⟩

namespace ResponseLoop

variable {d : ResponseLoop} {e : Status}

/-- A status is put into the channel last, by a loop that has returned with it, or with success
    and a status that says so. -/
theorem Kept.outcome_of_failure (h : d.Kept) (he : .failure e ∈ d.sink.given) :
    ∃ o, d.position = .returned o ∧ (o = .error e ∨ o = .ok () ∧ e.code = .ok) := by
  obtain ⟨fs, rest, last, -, hg, ho⟩ := h.flow
  have hlast : last = some e := by
    rw [hg] at he
    cases last with
    | none => simp at he
    | some e' =>
      have heq : e = e' := by simpa using he
      rw [heq]
  subst hlast
  generalize d.position = p at ho ⊢
  cases ho with
  | told hc =>
    generalize hl : some e = last at hc
    refine ⟨_, rfl, ?_⟩
    cases hc with
    | failure | trailers | quit | dropped => cases hl; exact .inl rfl
    | gone | droppedGone => cases hl
    | clean t =>
      -- trailers are handed on as a status of their own, which says success
      refine .inr ⟨rfl, ?_⟩
      cases t with
      | none => cases hl
      | some m =>
        rw [parting] at hl
        split at hl
        · cases hl
        · cases hl; rfl

/-- A loop that has left nothing to read but frames has succeeded. -/
theorem Kept.succeeded (h : d.Kept) (hs : d.sink.senderOpen = false) (hq : d.sink.queue = [])
    (hr : d.sink.receiverOpen = true) (hn : ∀ e, .failure e ∉ d.sink.seen) :
    d.position = .returned (.ok ()) := by
  have hreturned : d.hasReturned = true := by simpa [h.senderOpen] using hs
  obtain ⟨o, ho⟩ := Option.isSome_iff_exists.1 hreturned
  have hp := outcome?_eq_some ho
  cases o with
  | ok => exact hp
  | error e =>
    refine absurd ?_ (hn e)
    rw [Channel.seen_eq_given hq]
    exact List.mem_of_getLast? (h.last_of_error hp hr)

/-- No frame waits behind a status. -/
theorem Kept.frames_of_take {sink : Channel Item} (h : d.Kept)
    (ht : d.sink.take? = some (.failure e, sink)) :
    framesOf d.sink.given = framesOf d.sink.seen := by
  obtain ⟨fs, rest, last, -, hg, -⟩ := h.flow
  rw [← d.sink.seen_append_queue, (Channel.takes_of_take? ht).queue] at hg ⊢
  suffices hnone : framesOf (.failure e :: sink.queue) = [] by
    rw [framesOf_append, hnone, List.append_nil]
  have hlast : framesOf (last.toList.map Item.failure) = [] := framesOf_failures _
  rcases List.append_eq_append_iff.1 hg with ⟨is, hframes, hqueue⟩ | ⟨is, -, hqueue⟩
  · cases is with
    | nil => rw [hqueue]; exact hlast
    | cons i is =>
      -- the status would stand among the frames
      have hmem : .failure e ∈ fs.map Item.frame := by
        rw [hframes, (List.cons.inj hqueue).1]
        simp
      simp at hmem
  · rw [hqueue, framesOf_append] at hlast
    exact (List.append_eq_nil_iff.1 hlast).2

end ResponseLoop

namespace Call

variable {config : Config} {scope : Bool} {c c' c'' : Call} {m : CallMove} {eff : Option Effect}
  {st : Status}

/-! ## Turns and events that the caller does not read -/

/-- The caller reads nothing, and the response loop does not return again. -/
structure Quiet (c c' : Call) : Prop where
  heard : c'.heard = c.heard
  seen : c'.down.sink.seen = c.down.sink.seen
  closed : c.down.sink.receiverOpen = false → c'.down.sink.receiverOpen = false
  returned : ∀ o, c.down.position = .returned o → c'.down.position = .returned o

theorem Quiet.trans (h : Quiet c c') (h' : Quiet c' c'') : Quiet c c'' :=
  ⟨h'.heard.trans h.heard, h'.seen.trans h.seen, h'.closed ∘ h.closed,
    fun o => h'.returned o ∘ h.returned o⟩

theorem quiet_of_front (h : c'.front = c.front) : Quiet c c' := by
  obtain ⟨hcore, -, hheard, hsink⟩ := Front.mk.inj h
  have hposition : c'.down.position = c.down.position := congrArg Core.down hcore
  exact ⟨hheard, congrArg Channel.seen hsink,
    fun hc => (congrArg Channel.receiverOpen hsink).trans hc, fun _ ho => hposition.trans ho⟩

theorem quiet_leave (c : Call) : Quiet c c.leave := by
  unfold leave
  dsimp only
  split <;> split <;> first
    | exact ⟨rfl, rfl, id, fun _ => id⟩
    | exact ⟨rfl, rfl, fun _ => rfl, fun _ => id⟩

theorem Turn.quiet (h : Turn config scope c m c' eff) (hp : c.Poised) : Quiet c c' := by
  cases h with
  | forsake | abandonOpening | abandonJoining | rejectEncoding | rejectPath | consult | track
  | refuse | launch | failOpening | record | signal | join | close | await | up | report | remove
  | free => exact ⟨rfl, rfl, id, fun _ => id⟩
  | quit =>
    refine (quiet_of_front (front_giveUpOpening c)).trans ?_
    exact ⟨rfl, rfl, id, fun _ => id⟩
  | opened headers hs =>
    have hidle : c.down.position = .idle := by
      have hdown := hp.down
      rw [hs] at hdown
      exact hdown
    exact ⟨rfl, rfl, id, fun o ho => by rw [hidle] at ho; cases ho⟩
  | down mv d a hs hd =>
    have ht := ResponseLoop.turn_of_step? hd
    obtain ⟨-, hseen, hopen⟩ := ht.leaves
    refine ⟨rfl, hseen, fun hr => hopen.trans hr, fun o ho => ?_⟩
    have hn := ht.not_returned
    rw [ResponseLoop.hasReturned, ResponseLoop.outcome?, ho] at hn
    cases hn
  | settle =>
    refine (quiet_of_front (front_giveUpResponse c)).trans ?_
    exact ⟨rfl, rfl, id, fun _ => id⟩
  | forward _ h => exact quiet_of_front (front_forward h)
  | finishRequest _ h => exact quiet_of_front (front_finishRequest h)

theorem quiet_on {ev : CallEvent} (hev : ev ≠ .hear) : Quiet c (c.on config ev) := by
  by_cases hl : ev = .leave
  · subst hl; exact quiet_leave c
  · exact quiet_of_front (front_on hl hev)

/-! ## Last words -/

/-- What the last event that a caller has read stands for. -/
inductive LastWord (config : Config) (c : Call) : Status → Prop
  | overflow (f : Frame) (e : Status) (hf : .frame f ∈ c.down.sink.seen)
      (he : f.encodeError? config.maxEncoding = some e) : LastWord config c e
  | handed (e : Status) (he : .failure e ∈ c.down.sink.seen) : LastWord config c e
  | nothing (hp : c.down.position = .returned (.ok ())) : LastWord config c (.of .ok "")

/-- Where a caller has come to in its response. -/
structure Hearing (config : Config) (c : Call) : Prop where
  unread : c.down.sink.receiverOpen = true → ∀ e, .failure e ∉ c.down.sink.seen
  last : ∀ h, c.heard.getLast? = some h →
    (∃ f, h = .frame f) ∨
      c.down.sink.receiverOpen = false ∧ ∃ e, LastWord config c e ∧ h = .ofStatus e

theorem hearing_ofArrival (config' : Config) (a : Arrival) :
    (ofArrival config' a).Hearing config := ⟨fun _ _ => nofun, nofun⟩

theorem LastWord.quiet {e : Status} (h : LastWord config c e) (hq : Quiet c c') :
    LastWord config c' e := by
  cases h with
  | overflow f e hf he => exact .overflow f e (hq.seen.symm ▸ hf) he
  | handed e he => exact .handed e (hq.seen.symm ▸ he)
  | nothing hp => exact .nothing (hq.returned _ hp)

theorem Hearing.quiet (h : c.Hearing config) (hq : Quiet c c') : c'.Hearing config := by
  constructor
  · intro hr
    rw [hq.seen]
    refine h.unread ?_
    cases hc : c.down.sink.receiverOpen with
    | true => rfl
    | false => rw [hq.closed hc] at hr; cases hr
  · intro e he
    rw [hq.heard] at he
    rcases h.last e he with hf | ⟨hr, w, hw, hew⟩
    · exact .inl hf
    · exact .inr ⟨hq.closed hr, w, hw.quiet hq, hew⟩

theorem Hearing.hear (h : c.Hearing config) (hk : c.down.Kept)
    (hr : c.down.sink.receiverOpen = true) : (c.hear config).2.Hearing config := by
  -- the last words close the channel, so nothing is said of what is read before them
  have hends {e : Status} {k : Channel Item}
      (hw : LastWord config (c.noteHeard (.ofStatus e) k.closeReceiver).2 e) :
      (c.noteHeard (.ofStatus e) k.closeReceiver).2.Hearing config := by
    refine ⟨nofun, fun x hx => .inr ⟨rfl, e, hw, ?_⟩⟩
    have hlast : (c.heard ++ [Heard.ofStatus e]).getLast? = some x := hx
    rw [List.getLast?_concat] at hlast
    exact (Option.some.inj hlast).symm
  unfold Call.hear
  split
  · next f k ht =>
    have hseen := (Channel.takes_of_take? ht).seen
    split
    · refine ⟨fun _ e he => ?_, fun x hx => .inl ⟨f, ?_⟩⟩
      · have he' : .failure e ∈ k.seen := he
        rw [hseen] at he'
        exact h.unread hr e (by simpa using he')
      · have hlast : (c.heard ++ [Heard.frame f]).getLast? = some x := hx
        rw [List.getLast?_concat] at hlast
        exact (Option.some.inj hlast).symm
    · next e he =>
      refine hends (.overflow f e ?_ he)
      show .frame f ∈ k.seen
      rw [hseen]
      exact List.mem_append_right _ List.mem_cons_self
  · next e k ht =>
    refine hends (.handed e ?_)
    show .failure e ∈ k.seen
    rw [(Channel.takes_of_take? ht).seen]
    exact List.mem_append_right _ List.mem_cons_self
  · next ht =>
    split
    · exact h
    · next hs =>
      refine hends (.nothing ?_)
      exact hk.succeeded (by simpa using hs) (Channel.take?_eq_none_iff.1 ht) hr (h.unread hr)

/-! ## All frames -/

/-- A caller whose last word is a success has read every frame that the response loop has put in,
    which puts in no more. -/
def Sated (c : Call) : Prop :=
  ∀ x s, c.heard.getLast? = some x → x.status? = some s → s.code = .ok →
    ∃ o, c.down.position = .returned o ∧ framesHeard c.heard = framesOf c.down.sink.given

theorem Sated.congr (h : c.Sated) (hheard : c'.heard = c.heard)
    (hd : ∀ o, c.down.position = .returned o →
      c'.down.position = .returned o ∧ c'.down.sink.given = c.down.sink.given) : c'.Sated := by
  intro x s hx hs hok
  rw [hheard] at hx ⊢
  obtain ⟨o, ho, hall⟩ := h x s hx hs hok
  obtain ⟨ho', hgiven⟩ := hd o ho
  exact ⟨o, ho', hgiven ▸ hall⟩

theorem Sated.hear (h : c.Sated) (hk : c.down.Kept)
    (ht : Tells c.heard c.down.sink.seen c.down.sink.receiverOpen)
    (hr : c.down.sink.receiverOpen = true) : (c.hear config).2.Sated := by
  have hsame := ht.eq_seen hr
  have hends {e : Status} {k : Channel Item} (hgiven : k.given = c.down.sink.given)
      (hall : e.code = .ok → (∃ o, c.down.position = .returned o) ∧
        framesOf c.down.sink.given = framesOf c.down.sink.seen) :
      (c.noteHeard (.ofStatus e) k.closeReceiver).2.Sated := by
    intro x s hx hs hok
    have hlast : (c.heard ++ [Heard.ofStatus e]).getLast? = some x := hx
    rw [List.getLast?_concat] at hlast
    cases hlast
    obtain ⟨s', hs', hcode, -⟩ := Heard.status?_ofStatus e
    rw [hs] at hs'; cases hs'
    obtain ⟨⟨o, ho⟩, hseen⟩ := hall (hcode.symm.trans hok)
    refine ⟨o, ho, ?_⟩
    show framesHeard (c.heard ++ [.ofStatus e]) = framesOf k.given
    rw [framesHeard_append, framesHeard_ofStatus, List.append_nil, hsame, hgiven, hseen]
  unfold Call.hear
  split
  · next f k htake =>
    split
    · intro x s hx hs
      have hlast : (c.heard ++ [Heard.frame f]).getLast? = some x := hx
      rw [List.getLast?_concat] at hlast
      cases hlast
      cases hs
    · next e he =>
      exact hends (Channel.takes_of_take? htake).given
        fun hok => absurd hok (Frame.code_of_encodeError? he)
  · next e k htake =>
    have htakes := Channel.takes_of_take? htake
    have hmem : .failure e ∈ c.down.sink.given := by
      rw [← c.down.sink.seen_append_queue, htakes.queue]
      simp
    obtain ⟨o, ho, -⟩ := hk.outcome_of_failure hmem
    exact hends htakes.given fun _ => ⟨⟨o, ho⟩, hk.frames_of_take htake⟩
  · next htake =>
    split
    · exact h
    · next hs =>
      refine hends (k := c.down.sink) rfl fun _ => ?_
      have hreturned : c.down.hasReturned = true := by simpa [hk.senderOpen] using hs
      obtain ⟨o, ho⟩ := Option.isSome_iff_exists.1 hreturned
      refine ⟨⟨o, ResponseLoop.outcome?_eq_some ho⟩, ?_⟩
      rw [Channel.seen_eq_given (Channel.take?_eq_none_iff.1 htake)]

/-! ## What a caller was told -/

/-- The status that a caller was told, if it has read its response to the end. -/
def told? (c : Call) : Option Status :=
  match c.answer with
  | some (.refused s) => some s.overHeaders
  | some (.opened _) => c.heard.getLast?.bind Heard.status?
  | none => none

/-- Either there was no response, or it has been read to its last words. -/
theorem told_cases (h : c.told? = some st) :
    (∃ e, c.answer = some (.refused e) ∧ st = e.overHeaders) ∨
      ∃ headers x, c.answer = some (.opened headers) ∧ c.heard.getLast? = some x ∧
        x.status? = some st := by
  unfold told? at h
  split at h
  · next e he => cases h; exact .inl ⟨e, he, rfl⟩
  · next headers he =>
    obtain ⟨x, hx, hs⟩ := Option.bind_eq_some_iff.1 h
    exact .inr ⟨headers, x, he, hx, hs⟩
  · cases h

theorem Hearing.of_status {x : Heard} (h : c.Hearing config) (hx : c.heard.getLast? = some x)
    (hs : x.status? = some st) :
    c.down.sink.receiverOpen = false ∧
      ∃ e, LastWord config c e ∧ st.code = e.code ∧ st.message = e.message := by
  rcases h.last x hx with ⟨f, rfl⟩ | ⟨hr, e, hw, rfl⟩
  · cases hs
  · obtain ⟨s, hs', hcode, hmessage⟩ := Heard.status?_ofStatus e
    rw [hs] at hs'; cases hs'
    exact ⟨hr, e, hw, hcode, hmessage⟩

/-- A caller is answered once. -/
theorem Turn.answer (h : Turn config scope c m c' eff) (hp : c.Poised) {a : Answer}
    (ha : c.answer = some a) : c'.answer = some a := by
  have hanswer := hp.answer
  cases h with
  | forsake | abandonOpening | abandonJoining | consult | track | refuse | launch | failOpening
  | record | signal | join | down | close | await | up | report | remove => exact ha
  | quit => exact (congrArg Core.answer (core_giveUpOpening c)).trans ha
  | settle => exact (congrArg Core.answer (core_giveUpResponse c)).trans ha
  | forward _ h => exact (congrArg Core.answer (core_forward h)).trans ha
  | finishRequest _ h => exact (congrArg Core.answer (core_finishRequest h)).trans ha
  | rejectEncoding _ hs | rejectPath _ hs | opened _ hs =>
    rw [hs] at hanswer
    cases ha.symm.trans hanswer
  | free ending g answer hs hg hans =>
    subst hans
    rw [hs] at hanswer
    cases ending with
    | refused e => cases ha.symm.trans hanswer
    | rejected | forsaken | abandoned | relayed => exact ha

/-- What was told once is told for good. -/
theorem told?_quiet (h : c.told? = some st) (hq : Quiet c c')
    (ha : ∀ a, c.answer = some a → c'.answer = some a) : c'.told? = some st := by
  rcases told_cases h with ⟨e, he, rfl⟩ | ⟨headers, x, he, hx, hs⟩
  · rw [told?, ha _ he]
  · rw [told?, ha _ he]
    show c'.heard.getLast?.bind Heard.status? = some st
    rw [hq.heard, hx]
    exact hs

theorem told?_on {ev : CallEvent} (h : c.told? = some st) (hh : c.Hearing config) :
    (c.on config ev).told? = some st := by
  have hanswer : (c.on config ev).answer = c.answer := congrArg Core.answer (core_on config c ev)
  by_cases hev : ev = .hear
  · subst hev
    rcases told_cases h with ⟨e, he, rfl⟩ | ⟨headers, x, he, hx, hs⟩
    · rw [told?, hanswer, he]
    · have hclosed := (hh.of_status hx hs).1
      have hon : c.on config .hear = c := if_neg (by simp [hclosed])
      rw [hon]; exact h
  · exact told?_quiet h (quiet_on hev) fun a ha => hanswer.trans ha

end Call

end GrpcRelay
