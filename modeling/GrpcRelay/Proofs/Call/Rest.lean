/-
  Calls at rest — what a call waits for when none of its branches is ready
  (`Call.Waits`): the director's decision, the backend's answer or its next item,
  room in the channel to the caller, or nothing any more.
-/
import GrpcRelay.Proofs.Call.Stages
import GrpcRelay.Proofs.Relay.Rest

namespace GrpcRelay

namespace Call

variable {config : Config} {scope : Bool} {c : Call} {i : Nat}

/-- No branch is ready. -/
def Rests (config : Config) (scope : Bool) (c : Call) : Prop := ∀ m, c.step? config scope m = none

/-- What the handler waits for. -/
inductive Waits (scope : Bool) (c : Call) : Prop
  | decision (hs : c.stage = .resolving) (hl : c.left = false)
  | answer (hs : c.stage = .opening) (hl : c.left = false)
      (hc : c.abort.isCancelled scope = false) (hr : c.response.result = none)
  | item (hs : c.stage = .relaying) (hp : c.down.position = .reading)
      (hc : c.abort.isCancelled scope = false) (hr : c.down.sink.receiverOpen = true)
      (hn : c.down.source.next? = none)
  | room (f : Frame) (hs : c.stage = .relaying) (hp : c.down.position = .holding f)
      (hc : c.abort.isCancelled scope = false) (hr : c.down.sink.receiverOpen = true)
      (hm : c.down.sink.hasRoom = false)
  | delivery (e : Status) (o : Outcome) (hs : c.stage = .relaying)
      (hp : c.down.position = .delivering e o) (hr : c.down.sink.receiverOpen = true)
      (hm : c.down.sink.hasRoom = false)
  | nothing (ending : Ending) (hs : c.stage = .over ending)

theorem Rests.up (h : c.Rests config scope) : c.up.Rests scope c.abort := fun m => by
  simpa [step?] using h (.up m)

theorem Rests.down (h : c.Rests config scope) (hs : c.stage = .relaying) :
    c.down.Rests scope c.abort := fun m => by
  simpa [step?, hs] using h (.down m)

/-- A request loop that is awaited has returned. -/
theorem Rests.stopped (h : c.Rests config scope) (hp : c.Poised)
    (hs : c.stage.isStopping = true) (hl : c.stage.isLaunched = true) :
    c.up.hasReturned = true := by
  refine h.up.returned ?_ (hp.up hl)
  rw [Abort.isCancelled, hp.abort hs, Bool.true_or]

theorem Rests.waits (h : c.Rests config scope) (hp : c.Poised)
    (hpapers : Papers i c.stage.custody c.route c.guard) : c.Waits scope := by
  -- a stage that waits for nothing has a branch that is ready, which the papers show
  cases hs : c.stage with
  | arriving =>
    have haccept := h .accept
    simp [step?, hs] at haccept
  | resolving =>
    have habandon := h .abandon
    cases hl : c.left with
    | false => exact .decision hs hl
    | true => simp [step?, abandon, hs, hl] at habandon
  | routed =>
    have htrack := h .track
    obtain ⟨route, g, -, hg⟩ := hpapers.exists_guard (by simp [hs, Stage.custody])
      (by simp [hs, Stage.custody])
    simp [step?, hs, hg] at htrack
  | tracked =>
    have hlaunch := h .launch
    obtain ⟨route, g, hr, -⟩ := hpapers.exists_guard (by simp [hs, Stage.custody])
      (by simp [hs, Stage.custody])
    obtain ⟨context, hc⟩ := Option.isSome_iff_exists.1 (hp.context (by rw [hs]; rfl))
    simp [step?, hs, hr, hc] at hlaunch
  | opening =>
    have habandon := h .abandon
    have hquit := h .quit
    have hopened := h .opened
    have hl : c.left = false := by simpa [step?, abandon, hs] using habandon
    have hc : c.abort.isCancelled scope = false := by simpa [step?, hs, hl] using hquit
    cases hr : c.response.result with
    | none => exact .answer hs hl hc hr
    | some r => cases r <;> simp [step?, hs, hr, hl] at hopened
  | recording e =>
    have hrecord := h .record
    simp [step?, hs] at hrecord
  | signalling e =>
    have hsignal := h .signal
    simp [step?, hs] at hsignal
  | joining e =>
    have habandon := h .abandon
    have hjoin := h .join
    have hu := h.stopped hp (by rw [hs]; rfl) (by rw [hs]; rfl)
    have hl : c.left = false := by simpa [step?, abandon, hs] using habandon
    simp [step?, hs, hl, hu] at hjoin
  | relaying =>
    have hdown := hp.down
    rw [hs] at hdown
    cases (h.down hs).waits with
    | start hd => exact absurd hd hdown
    | item hd hc hr hn => exact .item hs hd hc hr hn
    | room f hd hc hr hm => exact .room f hs hd hc hr hm
    | delivery e o hd hr hm => exact .delivery e o hs hd hr hm
    | nothing o hd =>
      have hsettle := h .settle
      simp [step?, hs, ResponseLoop.outcome?, hd] at hsettle
  | closing o =>
    have hclose := h .close
    simp [step?, hs] at hclose
  | awaiting o =>
    have hawait := h .await
    have hu := h.stopped hp (by rw [hs]; rfl) (by rw [hs]; rfl)
    simp [step?, hs, hu] at hawait
  | releasing ending step =>
    have hrelease := h .release
    have hr := hp.ending ending step hs
    obtain ⟨route, g, -, hg⟩ := hpapers.exists_guard
      (by cases step <;> simp [hs, Stage.custody, hr])
      (by cases step <;> simp [hs, Stage.custody, hr])
    simp [step?, hs, hg] at hrelease
  | «over» ending => exact .nothing ending hs

end Call

end GrpcRelay
