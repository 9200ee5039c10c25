/-
  Aborts — what becomes of an abort that any number of tasks use at the same
  time, each going through its steps in order (`Interleaves`).

  Aborting takes two steps and closing one, and scopes are cancelled from
  outside meanwhile.  The first reason that is recorded stays, and the signal of
  the abort is that of a scope of its own inside the scope of the call, which it
  therefore never reaches (`Abort.write_once`).
-/
import GrpcRelay.Abort
import GrpcRelay.Proofs.Forest
import Mathlib.Data.List.Induction

namespace GrpcRelay

/-- What a task does with an abort, or with the scopes around it. -/
inductive AbortOp where
  | abort (s : Status)
  | close
  | cancelScope (id : ScopeId)

/-- One step of a task. -/
inductive AbortStep where
  /-- The first step of aborting. -/
  | record (s : Status)
  /-- The second step of aborting. -/
  | signal
  | close
  | cancelScope (id : ScopeId)

/-- The steps of an operation, in order. -/
def AbortOp.steps : AbortOp → List AbortStep
  | abort s => [.record s, .signal]
  | close => [.close]
  | cancelScope id => [.cancelScope id]

/-- What the operation makes of the abort. -/
def AbortOp.perform (a : Abort) : AbortOp → Abort
  | abort s => a.abort s
  | close => a.signal
  | cancelScope _ => a

namespace AbortStep

/-- What the step makes of the abort. -/
def perform (a : Abort) : AbortStep → Abort
  | record s => a.record s
  | signal | close => a.signal
  | cancelScope _ => a

/-- The reason that the step brings. -/
def reason? : AbortStep → Option Status
  | record s => some s
  | signal | close | cancelScope _ => none

/-- Whether the step gives the signal of the abort. -/
def signals : AbortStep → Bool
  | signal | close => true
  | record _ | cancelScope _ => false

/-- The scope that the step signals if the abort has this one for its token. -/
def struck? (token : ScopeId) : AbortStep → Option ScopeId
  | record _ => none
  | signal | close => some token
  | cancelScope id => some id

/-- The step gives the signal of the abort, or cancels a scope that this one lies in. -/
def Cancels (s : Scopes) (scope : ScopeId) : AbortStep → Prop
  | record _ => False
  | signal | close => True
  | cancelScope id => s.Within scope id

end AbortStep

/-- An operation is its steps, taken one after the other. -/
theorem AbortOp.foldl_perform_steps (op : AbortOp) (a : Abort) :
    op.steps.foldl AbortStep.perform a = op.perform a := by
  cases op <;> rfl

/-! ## Interleavings -/

/-- The steps of one task among those of all. -/
def stepsOf (i : Nat) (h : List (Nat × AbortStep)) : List AbortStep :=
  h.filterMap fun p => if p.1 = i then some p.2 else none

/-- Each task has gone through some of the steps of its operations, in order. -/
def Interleaves (programs : Nat → List AbortOp) (h : List (Nat × AbortStep)) : Prop :=
  ∀ i, stepsOf i h <+: (programs i).flatMap AbortOp.steps

variable {h h' : List (Nat × AbortStep)} {i : Nat} {e : Status}

theorem mem_stepsOf {d : AbortStep} : d ∈ stepsOf i h ↔ (i, d) ∈ h := by
  simp only [stepsOf, List.mem_filterMap, Option.ite_none_right_eq_some, Option.some.injEq]
  constructor
  · rintro ⟨⟨j, d⟩, hp, rfl, rfl⟩
    exact hp
  · intro hp
    exact ⟨(i, d), hp, rfl, rfl⟩

/-- A task that has given the signal of an abort has recorded a reason before. -/
theorem record_mem_of_signal_mem {ops : List AbortOp} {ds : List AbortStep}
    (h : ds <+: ops.flatMap AbortOp.steps) (hd : .signal ∈ ds) : ∃ e, .record e ∈ ds := by
  induction ops generalizing ds with
  | nil =>
    rw [List.flatMap_nil, List.prefix_nil] at h
    subst h
    cases hd
  | cons op ops ih =>
    rw [List.flatMap_cons] at h
    cases ds with
    | nil => cases hd
    | cons d ds =>
      cases op with
      | abort e =>
        obtain ⟨rfl, -⟩ := List.cons_prefix_cons.1 h
        exact ⟨e, List.mem_cons_self⟩
      | close | cancelScope =>
        obtain ⟨rfl, hrest⟩ := List.cons_prefix_cons.1 h
        have hd' : AbortStep.signal ∈ ds := by simpa using hd
        obtain ⟨e, he⟩ := ih hrest hd'
        exact ⟨e, List.mem_cons_of_mem _ he⟩

/-! ## The abort -/

namespace Abort

/-- The abort after these steps. -/
def after (h : List (Nat × AbortStep)) : Abort := h.foldl (fun a p => p.2.perform a) .fresh

theorem after_concat (h : List (Nat × AbortStep)) (i : Nat) (d : AbortStep) :
    after (h ++ [(i, d)]) = d.perform (after h) := by
  rw [after, List.foldl_append]
  rfl

/-- An operation that no other task comes into happens as a whole. -/
theorem after_append_steps (h : List (Nat × AbortStep)) (i : Nat) (op : AbortOp) :
    after (h ++ op.steps.map (i, ·)) = op.perform (after h) := by
  rw [← op.foldl_perform_steps, after, List.foldl_append, List.foldl_map]
  rfl

/-- The reason is the first one. -/
theorem recorded_after (h : List (Nat × AbortStep)) :
    (after h).recorded = h.findSome? fun p => p.2.reason? := by
  -- the history grows at its end, so the last step comes off first
  induction h using List.reverseRecOn with
  | nil => rfl
  | append_singleton h p ih =>
    obtain ⟨i, d⟩ := p
    rw [after_concat, List.findSome?_append, ← ih]
    cases d with
    | record s =>
      show some ((after h).recorded.getD s) = (after h).recorded.or (some s)
      cases (after h).recorded <;> rfl
    | signal | close | cancelScope => exact (Option.or_none).symm

theorem signalled_after (h : List (Nat × AbortStep)) :
    (after h).signalled = h.any fun p => p.2.signals := by
  induction h using List.reverseRecOn with
  | nil => rfl
  | append_singleton h p ih =>
    obtain ⟨i, d⟩ := p
    rw [after_concat, List.any_append, ← ih]
    cases d with
    | record | cancelScope => exact (Bool.or_false _).symm
    | signal | close => exact (Bool.or_true _).symm

/-- A reason that was recorded stays. -/
theorem recorded_of_prefix (hp : h <+: h') (hr : (after h).recorded = some e) :
    (after h').recorded = some e := by
  obtain ⟨t, rfl⟩ := hp
  rw [recorded_after] at hr ⊢
  rw [List.findSome?_append, hr]
  rfl

/-- Where each task takes its steps in order, a signal that is not of closing comes after a
    reason. -/
theorem exists_recorded {programs : Nat → List AbortOp} (hi : Interleaves programs h)
    (hclose : ∀ i, (i, .close) ∉ h) (hs : (after h).signalled = true) :
    ∃ e, (after h).recorded = some e := by
  rw [signalled_after, List.any_eq_true] at hs
  obtain ⟨⟨i, d⟩, hp, hd⟩ := hs
  have hsignal : (i, AbortStep.signal) ∈ h := by
    cases d with
    | signal => exact hp
    | close => exact absurd hp (hclose i)
    | record | cancelScope => cases hd
  obtain ⟨e, he⟩ := record_mem_of_signal_mem (hi i) (mem_stepsOf.2 hsignal)
  rw [recorded_after]
  exact Option.isSome_iff_exists.1 (List.findSome?_isSome_iff.2 ⟨_, mem_stepsOf.1 he, rfl⟩)

end Abort

/-! ## The scopes -/

namespace Scopes

variable {s : Scopes} {scope token id : ScopeId}

/-- The scopes after these steps, one of them the token of the abort. -/
def after (token : ScopeId) (s : Scopes) (h : List (Nat × AbortStep)) : Scopes :=
  h.foldl (fun s p => (p.2.struck? token).elim s s.signal) s

theorem signalling_struck (s : Scopes) (a : ScopeId) :
    s.Signalling (s.signal a) fun id => id < s.nodes.length ∧ id = a := by
  by_cases ha : a < s.nodes.length
  · refine (signalling_signal ha).congr fun id => ⟨?_, And.right⟩
    rintro rfl
    exact ⟨ha, rfl⟩
  · have hsame : s.signal a = s := by rw [signal, List.modify_eq_self (Nat.not_lt.1 ha)]
    rw [hsame]
    refine (Signalling.refl s).congr fun id => ⟨False.elim, ?_⟩
    rintro ⟨hid, rfl⟩
    exact ha hid

/-- Signalled are the scopes that a step has struck. -/
theorem signalling_after (token : ScopeId) (s : Scopes) (h : List (Nat × AbortStep)) :
    s.Signalling (s.after token h) fun id =>
      id < s.nodes.length ∧ ∃ p ∈ h, p.2.struck? token = some id := by
  induction h generalizing s with
  | nil => exact (Signalling.refl s).congr fun id => by simp
  | cons p h ih =>
    cases hp : p.2.struck? token with
    | none =>
      have hsame : s.after token (p :: h) = s.after token h := by
        rw [after, List.foldl_cons, hp]; rfl
      rw [hsame]
      exact (ih s).congr fun id => by simp [hp]
    | some a =>
      have hsignal : s.after token (p :: h) = (s.signal a).after token h := by
        rw [after, List.foldl_cons, hp]; rfl
      have hlength : (s.signal a).nodes.length = s.nodes.length := by simp [signal]
      rw [hsignal]
      refine ((signalling_struck s a).trans (ih (s.signal a))).congr fun id => ?_
      simp [hp, hlength, ← and_or_left, eq_comm]

theorem isCancelled_of_prefix (hf : s.IsForest) (hid : id < s.nodes.length) (hp : h <+: h')
    (hc : (s.after token h).isCancelled id = true) :
    (s.after token h').isCancelled id = true := by
  rw [(signalling_after token s h).isCancelled_iff hf hid] at hc
  rw [(signalling_after token s h').isCancelled_iff hf hid]
  refine hc.imp_right ?_
  rintro ⟨a, hw, hlt, p, hmem, hs⟩
  exact ⟨a, hw, hlt, p, hp.subset hmem, hs⟩

/-- A scope lies in older ones only. -/
theorem Within.le (hf : s.IsForest) (hw : s.Within id scope) : scope ≤ id := by
  induction hw with
  | refl => exact Nat.le_refl _
  | inside hp _ ih => exact Nat.le_trans ih (Nat.le_of_lt (hf _ _ hp))

/-- A scope that there is lies in scopes that there are. -/
theorem isCancelled_after_iff (hf : s.IsForest) (hid : id < s.nodes.length)
    (hopen : s.isCancelled id = false) :
    (s.after token h).isCancelled id = true ↔
      ∃ p ∈ h, ∃ a, p.2.struck? token = some a ∧ s.Within id a := by
  rw [(signalling_after token s h).isCancelled_iff hf hid, hopen]
  constructor
  · rintro (hc | ⟨a, hw, -, p, hp, hs⟩)
    · cases hc
    · exact ⟨p, hp, a, hs, hw⟩
  · rintro ⟨p, hp, a, hs, hw⟩
    exact .inr ⟨a, hw, Nat.lt_of_le_of_lt (hw.le hf) hid, p, hp, hs⟩

/-- The scope that a token was made in is cancelled by signals to scopes that it lies in, and not
    by one to the token. -/
theorem isCancelled_scope_iff (hf : s.IsForest) (ht : s.parent? token = some scope)
    (hopen : s.isCancelled scope = false) :
    (s.after token h).isCancelled scope = true ↔
      ∃ i id, (i, .cancelScope id) ∈ h ∧ s.Within scope id := by
  have hlt : scope < token := hf token scope ht
  have hid : scope < s.nodes.length := Nat.lt_trans hlt (lt_length_of_parent? ht)
  rw [isCancelled_after_iff hf hid hopen]
  constructor
  · rintro ⟨⟨i, d⟩, hp, a, hs, hw⟩
    cases d with
    | record => cases hs
    | signal | close =>
      cases hs
      exact absurd (hw.le hf) (Nat.not_le.2 hlt)
    | cancelScope =>
      cases hs
      exact ⟨i, a, hp, hw⟩
  · rintro ⟨i, id, hp, hw⟩
    exact ⟨_, hp, id, rfl, hw⟩

/-- A token lies in itself and in what the scope that it was made in lies in. -/
theorem within_token_iff (ht : s.parent? token = some scope) :
    s.Within token id ↔ id = token ∨ s.Within scope id := by
  constructor
  · intro hw
    cases hw with
    | refl => exact .inl rfl
    | inside hp hw =>
      rw [ht] at hp
      cases hp
      exact .inr hw
  · rintro (rfl | hw)
    · exact .refl _
    · exact .inside ht hw

/-- A token is cancelled by every signal of its abort, and with its scope. -/
theorem isCancelled_token_iff (hf : s.IsForest) (ht : s.parent? token = some scope)
    (hopen : s.isCancelled token = false) (hown : ∀ i, (i, .cancelScope token) ∉ h) :
    (s.after token h).isCancelled token = true ↔ ∃ p ∈ h, p.2.Cancels s scope := by
  rw [isCancelled_after_iff hf (lt_length_of_parent? ht) hopen]
  refine exists_congr fun p => and_congr_right fun hp => ?_
  obtain ⟨i, d⟩ := p
  cases d with
  | record => simp [AbortStep.struck?, AbortStep.Cancels]
  | signal | close =>
    simp [AbortStep.struck?, AbortStep.Cancels, within_token_iff ht]
  | cancelScope id =>
    have hne : id ≠ token := by
      rintro rfl
      exact hown i hp
    simp [AbortStep.struck?, AbortStep.Cancels, within_token_iff ht, hne]

theorem isCancelled_parent (hf : s.IsForest) (ht : s.parent? token = some scope)
    (hopen : s.isCancelled token = false) : s.isCancelled scope = false := by
  rw [isCancelled_eq hf, ht, Bool.or_eq_false_iff] at hopen
  exact hopen.2

end Scopes

/-! ## Any number of tasks -/

namespace Abort

variable {programs : Nat → List AbortOp} {s : Scopes} {scope token : ScopeId}

/-- An abort with the state of the scope around it is as good as a token made in that scope. -/
theorem isCancelled_after (hf : s.IsForest) (ht : s.parent? token = some scope)
    (hopen : s.isCancelled token = false) (hown : ∀ i, (i, .cancelScope token) ∉ h) :
    (after h).isCancelled ((s.after token h).isCancelled scope) =
      (s.after token h).isCancelled token := by
  rw [Bool.eq_iff_iff, isCancelled, Bool.or_eq_true, signalled_after, List.any_eq_true,
    Scopes.isCancelled_scope_iff hf ht (Scopes.isCancelled_parent hf ht hopen),
    Scopes.isCancelled_token_iff hf ht hopen hown]
  constructor
  · rintro (⟨⟨i, d⟩, hp, hd⟩ | ⟨i, id, hp, hw⟩)
    · refine ⟨_, hp, ?_⟩
      cases d with
      | signal | close => trivial
      | record | cancelScope => cases hd
    · exact ⟨_, hp, hw⟩
  · rintro ⟨⟨i, d⟩, hp, hd⟩
    cases d with
    | record => cases hd
    | signal | close => exact .inl ⟨_, hp, rfl⟩
    | cancelScope id => exact .inr ⟨i, id, hp, hd⟩

/-- **An abort is written once, and its signal never reaches the scope.**  Any number of tasks
    abort, close and cancel scopes, each step by step; the token of the abort was made in the scope
    of its call and is known to the abort alone.

    The reason is that of the first abort to be recorded, if there was one, and stays; the token is
    cancelled exactly if one of the operations has cancelled it, and stays so; the scope is
    cancelled exactly if it or one that it lies in was; and if the token is cancelled though nobody
    has closed the abort or cancelled the scope, there is a reason. -/
theorem write_once {programs : Nat → List AbortOp} {h : List (Nat × AbortStep)} {s : Scopes}
    {scope token : ScopeId} (hi : Interleaves programs h) (hf : s.IsForest)
    (ht : s.parent? token = some scope) (hopen : s.isCancelled token = false)
    (hown : ∀ i, (i, .cancelScope token) ∉ h) :
    ((after h).reason = (h.findSome? fun p => p.2.reason?).getD scopeCancelled ∧
      ∀ h' e, h <+: h' → (after h).recorded = some e → (after h').recorded = some e) ∧
    ((after h).isCancelled ((s.after token h).isCancelled scope) =
        (s.after token h).isCancelled token ∧
      ((s.after token h).isCancelled token = true ↔ ∃ p ∈ h, p.2.Cancels s scope) ∧
      ∀ h', h <+: h' → (s.after token h).isCancelled token = true →
        (s.after token h').isCancelled token = true) ∧
    ((s.after token h).isCancelled scope = true ↔
      ∃ i id, (i, .cancelScope id) ∈ h ∧ s.Within scope id) ∧
    ((∀ i, (i, .close) ∉ h) → (s.after token h).isCancelled scope = false →
      (s.after token h).isCancelled token = true → ∃ e, (after h).recorded = some e) := by
  have hopen' := Scopes.isCancelled_parent hf ht hopen
  have hsame := isCancelled_after hf ht hopen hown
  refine ⟨⟨?_, fun h' e => recorded_of_prefix⟩,
    ⟨hsame, Scopes.isCancelled_token_iff hf ht hopen hown, fun h' hp =>
      Scopes.isCancelled_of_prefix hf (Scopes.lt_length_of_parent? ht) hp⟩,
    Scopes.isCancelled_scope_iff hf ht hopen', fun hclose hscope hc => ?_⟩
  · rw [reason, recorded_after]
  · rw [← hsame, hscope, isCancelled, Bool.or_false] at hc
    exact exists_recorded hi hclose hc

/-- Two tasks that abort with reasons of their own. -/
def rivals : Nat → List AbortOp
  | 0 => [.abort (.of .internal "first")]
  | 1 => [.abort (.of .aborted "second")]
  | _ => []

/-- The task that records its reason second gives the signal first. -/
def overtaken : List (Nat × AbortStep) :=
  [(0, .record (.of .internal "first")), (1, .record (.of .aborted "second")), (1, .signal),
    (0, .signal)]

theorem interleaves_overtaken : Interleaves rivals overtaken
  | 0 | 1 => List.prefix_rfl
  | _ + 2 => List.prefix_rfl

/-- The reason is the one recorded first, though the signal of the other abort comes before. -/
theorem write_once_of_overtaken :
    (after overtaken).reason = .of .internal "first" ∧
      ((⟨[⟨none, false⟩, ⟨some 0, false⟩]⟩ : Scopes).after 1 overtaken).isCancelled 1 = true ∧
      ¬ ((⟨[⟨none, false⟩, ⟨some 0, false⟩]⟩ : Scopes).after 1 overtaken).isCancelled 0 = true := by
  have hf : (⟨[⟨none, false⟩, ⟨some 0, false⟩]⟩ : Scopes).IsForest := by
    rintro (_ | _ | id) p hp
    · cases hp
    · cases hp
      exact Nat.zero_lt_one
    · cases hp
  have ht : (⟨[⟨none, false⟩, ⟨some 0, false⟩]⟩ : Scopes).parent? 1 = some 0 := rfl
  obtain ⟨⟨hreason, -⟩, ⟨-, htoken, -⟩, hscope, -⟩ :=
    write_once interleaves_overtaken hf ht (by decide +kernel) (by simp [overtaken])
  refine ⟨hreason, htoken.2 ⟨(1, .signal), by simp [overtaken], trivial⟩, fun hc => ?_⟩
  obtain ⟨i, id, hmem, -⟩ := hscope.1 hc
  simp [overtaken] at hmem

end Abort

end GrpcRelay
