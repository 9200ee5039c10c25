/-
  Aborts of calls — the tasks of a call use the abort that they share as any
  number of tasks may (`Proofs/Abort`).

  What has become of the abort is told by a history of steps, in which the
  request loop (task 0), the response loop (task 1) and the handler (task 2)
  each abort or close once at most; where each of them stands says which steps it
  has taken (`Call.Aborted`).  So one that finds the signal given before the
  handler closes finds a reason too (`Service.Run.recorded_of_cancelled`).
-/
import GrpcRelay.Proofs.Abort
import GrpcRelay.Proofs.Service.Rest

namespace GrpcRelay

/-! ## What each task has done -/

/-- The steps that the request loop has taken where it stands. -/
def RequestLoopAt.Took (ds : List AbortStep) : RequestLoopAt → Prop
  | signalling => ∃ e, ds = [.record e]
  | returned .failed => ∃ e, ds = [.record e, .signal]
  | _ => ds = []

/-- The steps that the response loop has taken where it stands. -/
def ResponseLoopAt.Took (ds : List AbortStep) : ResponseLoopAt → Prop
  | signalling e _ => ds = [.record e]
  | delivering _ _ | returned _ => ds = [] ∨ ∃ e, ds = [.record e, .signal]
  | _ => ds = []

namespace Stage

/-- Whether the handler has closed the abort. -/
def isClosed : Stage → Bool
  | awaiting _ | releasing (.relayed _) _ | .over (.relayed _) => true
  | _ => false

/-- The steps that the handler has taken at this stage. -/
def Took (ds : List AbortStep) : Stage → Prop
  | signalling e => ds = [.record e]
  | joining e => ds = [.record e, .signal]
  | awaiting _ | releasing (.relayed _) _ | .over (.relayed _) => ds = [.close]
  | releasing _ _ | .over _ => ds = [] ∨ ∃ e, ds = [.record e, .signal]
  | _ => ds = []

end Stage

variable {a a' : Abort} {ds : List AbortStep} {h hist : List (Nat × AbortStep)} {i j : Nat}

/-- The first steps of one operation: of an abort, unless `closed`. -/
inductive OfOneOp (closed : Bool) : List AbortStep → Prop
  | nothing : OfOneOp closed []
  | recorded (e : Status) : OfOneOp closed [.record e]
  | aborted (e : Status) : OfOneOp closed [.record e, .signal]
  | closed (hc : closed = true) : OfOneOp closed [.close]

theorem OfOneOp.exists_prefix {closed : Bool} (ho : OfOneOp closed ds) :
    ∃ op : AbortOp, ds <+: op.steps := by
  cases ho with
  | nothing => exact ⟨.close, List.nil_prefix⟩
  | recorded e => exact ⟨.abort e, List.prefix_append [_] [_]⟩
  | aborted e => exact ⟨.abort e, List.prefix_rfl⟩
  | closed => exact ⟨.close, List.prefix_rfl⟩

theorem RequestLoopAt.Took.ofOneOp {closed : Bool} {p : RequestLoopAt} (ht : p.Took ds) :
    OfOneOp closed ds := by
  unfold Took at ht
  split at ht
  · obtain ⟨e, rfl⟩ := ht
    exact .recorded e
  · obtain ⟨e, rfl⟩ := ht
    exact .aborted e
  · subst ht
    exact .nothing

theorem ResponseLoopAt.Took.ofOneOp {closed : Bool} {p : ResponseLoopAt} (ht : p.Took ds) :
    OfOneOp closed ds := by
  unfold Took at ht
  split at ht
  · subst ht
    exact .recorded _
  · obtain rfl | ⟨e, rfl⟩ := ht
    · exact .nothing
    · exact .aborted e
  · obtain rfl | ⟨e, rfl⟩ := ht
    · exact .nothing
    · exact .aborted e
  · subst ht
    exact .nothing

theorem Stage.Took.ofOneOp {s : Stage} (ht : s.Took ds) : OfOneOp s.isClosed ds := by
  unfold Took at ht
  split at ht
  · subst ht
    exact .recorded _
  · subst ht
    exact .aborted _
  · subst ht
    exact .closed rfl
  · subst ht
    exact .closed rfl
  · subst ht
    exact .closed rfl
  · obtain rfl | ⟨e, rfl⟩ := ht
    · exact .nothing
    · exact .aborted e
  · obtain rfl | ⟨e, rfl⟩ := ht
    · exact .nothing
    · exact .aborted e
  · subst ht
    exact .nothing

/-! ## One step of a task -/

/-- A task takes one step of an operation, or none. -/
inductive AbortTurn (a : Abort) (ds : List AbortStep) : Abort → List AbortStep → Prop
  | rest : AbortTurn a ds a ds
  | step (d : AbortStep) : AbortTurn a ds (d.perform a) (ds ++ [d])

theorem RequestLoop.Turn.took {scope : Bool} {u u' : RequestLoop} {m : Move}
    (h : Turn scope u a m u' a') (ht : u.position.Took ds) :
    ∃ ds', AbortTurn a ds a' ds' ∧ u'.position.Took ds' := by
  cases h with
  | quitReading hp | quitHolding _ hp | refuse _ hp | readFrame _ _ hp | readFailure _ _ hp
  | readEnd _ hp | send _ hp =>
    rw [hp] at ht
    exact ⟨ds, .rest, ht⟩
  | record e hp =>
    rw [hp] at ht
    cases ht
    exact ⟨_, .step (.record e), e, rfl⟩
  | signal hp =>
    rw [hp] at ht
    obtain ⟨e, rfl⟩ := ht
    exact ⟨_, .step .signal, e, rfl⟩

theorem ResponseLoop.Turn.took {scope : Bool} {d d' : ResponseLoop} {m : Move}
    (h : Turn scope d a m d' a') (ht : d.position.Took ds) :
    ∃ ds', AbortTurn a ds a' ds' ∧ d'.position.Took ds' := by
  cases h with
  | desertReading hp | desertHolding _ hp | readFrame _ _ hp | readFailure _ _ hp | readEnd _ hp
  | send _ hp | fetchFailure _ hp | deliver _ _ hp | drop _ _ hp =>
    rw [hp] at ht
    exact ⟨ds, .rest, ht⟩
  | quitReading hp | quitHolding _ hp | fetchNothing _ hp | fetchSome _ hp =>
    rw [hp] at ht
    exact ⟨ds, .rest, .inl ht⟩
  | record e tell hp =>
    rw [hp] at ht
    cases ht
    exact ⟨_, .step (.record e), rfl⟩
  | signalLoud e hp | signalQuiet e hp =>
    rw [hp] at ht
    cases ht
    exact ⟨_, .step .signal, .inr ⟨e, rfl⟩⟩

theorem stepsOf_concat_self (i : Nat) (h : List (Nat × AbortStep)) (d : AbortStep) :
    stepsOf i (h ++ [(i, d)]) = stepsOf i h ++ [d] := by
  simp [stepsOf]

theorem stepsOf_concat_ne (d : AbortStep) (hj : j ≠ i) :
    stepsOf j (h ++ [(i, d)]) = stepsOf j h := by
  simp [stepsOf, hj.symm]

/-- The step of a task goes into the history, at its end. -/
theorem AbortTurn.exists_history (ht : AbortTurn (.after h) (stepsOf i h) a ds) :
    ∃ h', h <+: h' ∧ a = .after h' ∧ stepsOf i h' = ds ∧
      ∀ j, j ≠ i → stepsOf j h' = stepsOf j h := by
  cases ht with
  | rest => exact ⟨h, List.prefix_rfl, rfl, rfl, fun _ _ => rfl⟩
  | step d =>
    exact ⟨h ++ [(i, d)], List.prefix_append _ _, (Abort.after_concat h i d).symm,
      stepsOf_concat_self i h d, fun _ => stepsOf_concat_ne d⟩

namespace Call

variable {config : Config} {scope : Bool} {c c' : Call} {m : CallMove} {eff : Option Effect}

/-- Task `i` of a call has taken these steps: the request loop, the response loop or the handler. -/
def Took (c : Call) : Nat → List AbortStep → Prop
  | 0, ds => c.up.position.Took ds
  | 1, ds => c.down.position.Took ds
  | 2, ds => c.stage.Took ds
  | _, ds => ds = []

/-- The abort of a call is what this history has made of it, and each task has taken the steps that
    go with where it stands. -/
structure Aborted (c : Call) (h : List (Nat × AbortStep)) : Prop where
  abort : c.abort = .after h
  took : ∀ i, c.Took i (stepsOf i h)

theorem aborted_ofArrival (config : Config) (a : Arrival) : (ofArrival config a).Aborted [] where
  abort := rfl
  took i := by rcases i with _ | _ | _ | i <;> rfl

/-- Only the handler has come to where its steps are these. -/
theorem Aborted.of_handler (h : c.Aborted hist) (ha : c'.abort = c.abort)
    (hu : c'.up.position = c.up.position) (hd : c'.down.position = c.down.position)
    (hs : c'.stage.Took (stepsOf 2 hist)) : c'.Aborted hist where
  abort := ha.trans h.abort
  took i := by
    rcases i with _ | _ | _ | i
    · show c'.up.position.Took _
      rw [hu]
      exact h.took 0
    · show c'.down.position.Took _
      rw [hd]
      exact h.took 1
    · exact hs
    · exact h.took (i + 3)

theorem Aborted.of_core (h : c.Aborted hist) (hcore : c'.core = c.core) : c'.Aborted hist := by
  obtain ⟨-, hs, -, -, -, ha, -, hu, hd, -⟩ := Core.mk.inj hcore
  exact h.of_handler ha hu hd (hs ▸ h.took 2)

/-- A step of one task goes into the history. -/
theorem Aborted.turn (i : Nat) (h : c.Aborted hist)
    (ht : AbortTurn c.abort (stepsOf i hist) c'.abort ds)
    (hown : c'.Took i ds) (hothers : ∀ j ds, j ≠ i → c.Took j ds → c'.Took j ds) :
    ∃ hist', hist <+: hist' ∧ c'.Aborted hist' := by
  rw [h.abort] at ht
  obtain ⟨hist', hp, habort, hsteps, hsame⟩ := ht.exists_history
  refine ⟨hist', hp, habort, fun j => ?_⟩
  by_cases hj : j = i
  · subst hj
    rwa [hsteps]
  · rw [hsame j hj]
    exact hothers j _ hj (h.took j)

theorem Aborted.upTurn {um : RequestLoop.Move} {u : RequestLoop} (h : c.Aborted hist)
    (hu : c.up.step? scope c.abort um = some (u, a)) :
    ∃ hist', hist <+: hist' ∧ Aborted { c with up := u, abort := a } hist' := by
  obtain ⟨ds, ha, hown⟩ := (RequestLoop.turn_of_step? hu).took (h.took 0)
  refine h.turn 0 ha hown fun j ds hj ht => ?_
  rcases j with _ | _ | _ | j
  · exact absurd rfl hj
  all_goals exact ht

theorem Aborted.downTurn {dm : ResponseLoop.Move} {d : ResponseLoop} (h : c.Aborted hist)
    (hd : c.down.step? scope c.abort dm = some (d, a)) :
    ∃ hist', hist <+: hist' ∧ Aborted { c with down := d, abort := a } hist' := by
  obtain ⟨ds, ha, hown⟩ := (ResponseLoop.turn_of_step? hd).took (h.took 1)
  refine h.turn 1 ha hown fun j ds hj ht => ?_
  rcases j with _ | _ | _ | j
  · exact ht
  · exact absurd rfl hj
  all_goals exact ht

theorem Aborted.handlerTurn {s : Stage} (d : AbortStep) (h : c.Aborted hist)
    (hs : s.Took (stepsOf 2 hist ++ [d])) :
    ∃ hist', hist <+: hist' ∧ Aborted { c with stage := s, abort := d.perform c.abort } hist' := by
  refine h.turn 2 (.step d) hs fun j ds hj ht => ?_
  rcases j with _ | _ | _ | j
  · exact ht
  · exact ht
  · exact absurd rfl hj
  · exact ht

/-- Whatever the tasks do to the abort goes into the history. -/
theorem Turn.aborted (ht : Turn config scope c m c' eff) (hp : c.Poised)
    (hd : c.stage.isUnlaunched = true → c.Dormant) (h : c.Aborted hist) :
    ∃ hist', hist <+: hist' ∧ c'.Aborted hist' := by
  have hhandler : c.stage.Took (stepsOf 2 hist) := h.took 2
  cases ht with
  | up _ _ _ hu => exact h.upTurn hu
  | down _ _ _ _ hd => exact h.downTurn hd
  | record s hs =>
    rw [hs] at hhandler
    exact h.handlerTurn (.record s) (congrArg (· ++ _) hhandler)
  | signal s hs =>
    rw [hs] at hhandler
    exact h.handlerTurn .signal (congrArg (· ++ _) hhandler)
  | close o hs =>
    rw [hs] at hhandler
    exact h.handlerTurn .close (congrArg (· ++ _) hhandler)
  | forsake _ hs | rejectEncoding _ hs | rejectPath _ hs | refuse _ _ _ hs
  | abandonOpening _ hs =>
    rw [hs] at hhandler
    exact ⟨hist, List.prefix_rfl, h.of_handler rfl rfl rfl (.inl hhandler)⟩
  | join _ hs | abandonJoining _ _ hs =>
    rw [hs] at hhandler
    exact ⟨hist, List.prefix_rfl, h.of_handler rfl rfl rfl (.inr ⟨_, hhandler⟩)⟩
  | consult _ hs | track _ hs | failOpening _ hs | await _ hs =>
    rw [hs] at hhandler
    exact ⟨hist, List.prefix_rfl, h.of_handler rfl rfl rfl hhandler⟩
  | report ending _ hs | remove ending _ hs | free ending _ _ hs =>
    rw [hs] at hhandler
    refine ⟨hist, List.prefix_rfl, h.of_handler rfl rfl rfl ?_⟩
    cases ending <;> exact hhandler
  | launch _ _ _ hs =>
    -- a loop that starts has done nothing yet, and stood idle before
    have hidle := (hd (by rw [hs]; rfl)).up
    have hup : c.up.position.Took (stepsOf 0 hist) := h.took 0
    rw [hidle] at hup
    rw [hs] at hhandler
    refine ⟨hist, List.prefix_rfl, h.abort, fun i => ?_⟩
    rcases i with _ | _ | _ | i
    · exact hup
    · exact h.took 1
    · exact hhandler
    · exact h.took (i + 3)
  | opened _ hs =>
    have hidle := hp.down
    have hdown : c.down.position.Took (stepsOf 1 hist) := h.took 1
    rw [hs] at hhandler hidle
    rw [show c.down.position = .idle from hidle] at hdown
    refine ⟨hist, List.prefix_rfl, h.abort, fun i => ?_⟩
    rcases i with _ | _ | _ | i
    · exact h.took 0
    · exact hdown
    · exact hhandler
    · exact h.took (i + 3)
  | quit hs =>
    rw [hs] at hhandler
    have h' := h.of_core (core_giveUpOpening c)
    exact ⟨hist, List.prefix_rfl, h'.of_handler rfl rfl rfl hhandler⟩
  | settle _ hs =>
    rw [hs] at hhandler
    have h' := h.of_core (core_giveUpResponse c)
    exact ⟨hist, List.prefix_rfl, h'.of_handler rfl rfl rfl hhandler⟩
  | forward _ hf => exact ⟨hist, List.prefix_rfl, h.of_core (core_forward hf)⟩
  | finishRequest _ hf => exact ⟨hist, List.prefix_rfl, h.of_core (core_finishRequest hf)⟩

/-- The steps of each task belong to one operation. -/
theorem Took.ofOneOp (ht : c.Took i ds) : OfOneOp c.stage.isClosed ds := by
  rcases i with _ | _ | _ | i
  · exact (show c.up.position.Took ds from ht).ofOneOp
  · exact (show c.down.position.Took ds from ht).ofOneOp
  · exact (show c.stage.Took ds from ht).ofOneOp
  · obtain rfl : ds = [] := ht
    exact .nothing

/-- The steps of the tasks are interleaved, and each task is in one operation. -/
theorem Aborted.interleaves (h : c.Aborted hist) :
    ∃ op : Nat → AbortOp, Interleaves (fun i => [op i]) hist := by
  have hone (i : Nat) : ∃ op : AbortOp, stepsOf i hist <+: op.steps :=
    (h.took i).ofOneOp.exists_prefix
  choose op hop using hone
  refine ⟨op, fun i => ?_⟩
  rw [List.flatMap_singleton]
  exact hop i

/-- Nobody closes the abort before the handler does. -/
theorem Aborted.not_close_mem (h : c.Aborted hist) (hs : c.stage.isClosed = false) (i : Nat) :
    (i, .close) ∉ hist := by
  intro hmem
  have hone := (h.took i).ofOneOp
  have hclose : AbortStep.close ∈ stepsOf i hist := mem_stepsOf.2 hmem
  generalize stepsOf i hist = ds at hone hclose
  cases hone with
  | nothing => exact absurd hclose List.not_mem_nil
  | recorded | aborted => simp at hclose
  | closed hc => exact absurd (hs.symm.trans hc) Bool.false_ne_true

end Call

/-! ## Runs of a service -/

namespace Service

variable {config : Config} {s s' : Service} {c c' : Call} {e : Status}

theorem Moves.aborted (hm : s.Moves i c c') (hp : c.Poised) (hk : s.Keeps i c)
    (h : c.Aborted hist) : ∃ hist', hist <+: hist' ∧ c'.Aborted hist' := by
  have hhandler : c.stage.Took (stepsOf 2 hist) := h.took 2
  cases hm with
  | rests => exact ⟨hist, List.prefix_rfl, h⟩
  | turn m e ht => exact ht.aborted hp hk.dormant h
  | event e => exact ⟨hist, List.prefix_rfl, h.of_core (Call.core_on s.config c e)⟩
  | rejected e hs =>
    rw [hs] at hhandler
    exact ⟨hist, List.prefix_rfl, h.of_handler rfl rfl rfl (.inl hhandler)⟩
  | routed context route scope hs =>
    rw [hs] at hhandler
    exact ⟨hist, List.prefix_rfl, h.of_handler rfl rfl rfl hhandler⟩

theorem Run.aborted (hr : Run (.ofConfig config) s) (hc : s.calls[i]? = some c) :
    ∃ hist, c.Aborted hist :=
  RunOf.calls (P := fun _ c => ∃ hist, c.Aborted hist)
    (fun _ a => ⟨[], Call.aborted_ofArrival config a⟩)
    (fun hr hc hm ⟨_, h⟩ =>
      have ⟨hist', _, h'⟩ := Moves.aborted hm (Run.poised hr hc) ((Run.sound hr).calls _ _ hc) h
      ⟨hist', h'⟩)
    hr.runOf hc

/-- The history goes on as the run does. -/
theorem Run.aborted_after (hr : Run (.ofConfig config) s) (hc : s.calls[i]? = some c)
    (h : c.Aborted hist) (hr' : Run s s') :
    ∃ c' hist', s'.calls[i]? = some c' ∧ hist <+: hist' ∧ c'.Aborted hist' := by
  induction hr' with
  | refl => exact ⟨c, hist, hc, List.prefix_rfl, h⟩
  | tail hr₁ hs ih =>
    obtain ⟨c₁, hist₁, hc₁, hp₁, h₁⟩ := ih
    have hrun := hr.trans hr₁
    obtain ⟨c₂, hc₂, hm⟩ := hs.moves hc₁
    obtain ⟨hist₂, hp₂, h₂⟩ :=
      hm.aborted (Run.poised hrun hc₁) ((Run.sound hrun).calls i c₁ hc₁) h₁
    exact ⟨c₂, hist₂, hc₂, hp₁.trans hp₂, h₂⟩

/-- **The tasks of a call use its abort as any tasks may.**  At every point of every run the abort
    of a call is what a history has made of it in which each task is in one operation, and the
    history only goes on. -/
theorem aborts_interleave (hr : Run (.ofConfig config) s) (hc : s.calls[i]? = some c)
    (hr' : Run s s') :
    ∃ (c' : Call) (op : Nat → AbortOp) (h h' : List (Nat × AbortStep)),
      s'.calls[i]? = some c' ∧ Interleaves (fun i => [op i]) h' ∧ h <+: h' ∧
        c.abort = .after h ∧ c'.abort = .after h' := by
  obtain ⟨h, hbefore⟩ := Run.aborted hr hc
  obtain ⟨c', h', hc', hp, hafter⟩ := Run.aborted_after hr hc hbefore hr'
  obtain ⟨op, hi⟩ := hafter.interleaves
  exact ⟨c', op, h, h', hc', hi, hp, hbefore.abort, hafter.abort⟩

/-- The reason that a call has recorded stays its reason. -/
theorem Run.reason_lasts (hr : Run (.ofConfig config) s) (hc : s.calls[i]? = some c)
    (hr' : Run s s') (hc' : s'.calls[i]? = some c') (he : c.abort.recorded = some e) :
    c'.abort.reason = e := by
  obtain ⟨c₁, -, h, h', hc₁, -, hp, hbefore, hafter⟩ := aborts_interleave hr hc hr'
  rw [hc'] at hc₁
  cases hc₁
  rw [hbefore] at he
  rw [hafter, Abort.reason, Abort.recorded_of_prefix hp he]
  rfl

/-- A task that finds the abort of its call cancelled, though neither has the handler closed it nor
    is the scope of the call cancelled, finds a reason. -/
theorem Run.recorded_of_cancelled (hr : Run (.ofConfig config) s) (hc : s.calls[i]? = some c)
    (hclosed : c.stage.isClosed = false) (hscope : s.isCancelled c = false)
    (hcancelled : c.abort.isCancelled (s.isCancelled c) = true) :
    ∃ e, c.abort.recorded = some e := by
  obtain ⟨h, ha⟩ := Run.aborted hr hc
  obtain ⟨op, hi⟩ := ha.interleaves
  rw [hscope, Abort.isCancelled, Bool.or_false, ha.abort] at hcancelled
  rw [ha.abort]
  exact Abort.exists_recorded hi (ha.not_close_mem hclosed) hcancelled

end Service

end GrpcRelay
