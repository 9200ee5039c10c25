/-
  Services at rest — no branch of any call is ready (`Service.AtRest`), which is
  when a scheduler without choice stops (`advance?_eq_none_iff`); until then it runs
  one branch after another (`stepOf_of_advance?`).  Left to themselves the tasks of a
  service come to rest (`exists_rest`), and what the calls wait for then is told by
  `AtRest.waits`.
-/
import GrpcRelay.Proofs.Call.Rest
import GrpcRelay.Proofs.Call.Work
import GrpcRelay.Proofs.Service.Release
import Mathlib.Algebra.GroupWithZero.Nat

namespace GrpcRelay

theorem CallMove.mem_all (m : CallMove) : m ∈ all := by
  cases m with
  | up m => simp [all, RequestLoop.Move.mem_all m]
  | down m => simp [all, ResponseLoop.Move.mem_all m]
  | abandon | accept | track | launch | quit | opened | record | signal | join | settle | close
  | await | forward | finishRequest | release => simp [all]

namespace Service

variable {config : Config} {E : ServiceEvent → Prop} {s s' : Service} {i : Nat} {c c' : Call}

/-- No branch of any call is ready. -/
def AtRest (s : Service) : Prop := ∀ i m, s.branch? i m = none

theorem branch?_eq_none {m : CallMove} (h : s.calls[i]? = none) : s.branch? i m = none := by
  rw [branch?, h, Option.bind_none]

theorem advanceFrom_eq_none_iff {n : Nat} :
    s.advanceFrom i n = none ↔ ∀ j m, i ≤ j → j < i + n → s.branch? j m = none := by
  induction n generalizing i with
  | zero => simp only [advanceFrom, true_iff]; omega
  | succ n ih =>
    have hfind : CallMove.all.findSome? (s.step? i) = none ↔ ∀ m, s.branch? i m = none := by
      simp [List.findSome?_eq_none_iff, CallMove.mem_all, step?]
    rw [advanceFrom]
    constructor
    · intro h
      split at h
      · cases h
      · next hnone =>
        intro j m hij hj
        rcases Nat.eq_or_lt_of_le hij with rfl | hlt
        · exact hfind.1 hnone m
        · exact ih.1 h j m hlt (by omega)
    · intro h
      rw [hfind.2 fun m => h i m (Nat.le_refl i) (by omega)]
      exact ih.2 fun j m hij hj => h j m (by omega) (by omega)

/-- A scheduler that runs the first branch that is ready stops when the service is at rest. -/
theorem advance?_eq_none_iff : s.advance? = none ↔ s.AtRest := by
  rw [advance?, advanceFrom_eq_none_iff]
  constructor
  · intro h i m
    by_cases hi : i < s.calls.length
    · exact h i m (Nat.zero_le i) (by omega)
    · exact branch?_eq_none (List.getElem?_eq_none (Nat.le_of_not_lt hi))
  · exact fun h j m _ _ => h j m

theorem stepOf_of_advanceFrom {n : Nat} (h : s.advanceFrom i n = some s') : StepOf E s s' := by
  induction n generalizing i with
  | zero => cases h
  | succ n ih =>
    rw [advanceFrom] at h
    split at h
    · next t ht =>
      cases h
      obtain ⟨m, -, hm⟩ := List.exists_of_findSome?_eq_some ht
      obtain ⟨r, hr, rfl⟩ := Option.map_eq_some_iff.1 hm
      exact .branch i m hr
    · exact ih h

/-- Whatever such a scheduler runs is a branch of a call. -/
theorem stepOf_of_advance? (h : s.advance? = some s') : StepOf E s s' := stepOf_of_advanceFrom h

/-! ## Coming to rest -/

/-- The tasks of a service run, and nothing happens to it from outside. -/
abbrev Works : Service → Service → Prop := RunOf fun _ => False

/-- The work that is left in all calls. -/
def work (s : Service) : Nat := (s.calls.map Call.work).sum

theorem sum_modify_lt {calls : List Call} (hc : calls[i]? = some c) (hw : c'.work < c.work) :
    ((calls.modify i fun _ => c').map Call.work).sum < (calls.map Call.work).sum := by
  induction calls generalizing i with
  | nil => simp at hc
  | cons c₀ calls ih =>
    cases i with
    | zero =>
      cases hc
      simp only [List.modify_zero_cons, List.map_cons, List.sum_cons]
      omega
    | succ i =>
      have hlt := ih (by simpa using hc)
      simp only [List.modify_succ_cons, List.map_cons, List.sum_cons]
      omega

theorem work_after_lt {m : CallMove} {r : Call × Option Effect} (h : s.branch? i m = some r) :
    (s.after i r).work < s.work := by
  obtain ⟨c, hc, ht⟩ := branch?_eq_some h
  rw [work, calls_after]
  exact sum_modify_lt hc ht.work_lt

/-- However the tasks run, they take no more branches than there is work. -/
theorem length_le_work {t : List (Service × Service)}
    (ht : Trace (StepOf fun _ => False) s t s') : t.length + s'.work ≤ s.work := by
  induction ht with
  | refl => simp
  | tail ht hs ih =>
    cases hs with
    | branch i m hb =>
      have hlt := work_after_lt hb
      rw [List.length_append, List.length_singleton]
      omega
    | event e _ he => exact he.elim

/-- The tasks of a service come to rest by themselves. -/
theorem exists_rest (s : Service) : ∃ s', Works s s' ∧ s'.AtRest := by
  induction hn : s.work using Nat.strongRecOn generalizing s with
  | ind n ih =>
    by_cases hrest : s.AtRest
    · exact ⟨s, .refl, hrest⟩
    · obtain ⟨i, m, hb⟩ : ∃ i m, s.branch? i m ≠ none := by simpa [AtRest] using hrest
      obtain ⟨r, hr⟩ := Option.ne_none_iff_exists'.1 hb
      obtain ⟨s', hrun, hrest'⟩ := ih _ (hn ▸ work_after_lt hr) _ rfl
      exact ⟨s', .head (.branch i m hr) hrun, hrest'⟩

/-! ## What the calls wait for -/

theorem MovesOf.poised (hm : s.MovesOf E i c c') (hp : c.Poised) : c'.Poised := by
  cases hm with
  | rests => exact hp
  | turn m e ht => exact ht.poised hp
  | event e => exact hp.of_core (Call.core_on s.config c e)
  | rejected e hs =>
    have hdown := hp.down
    rw [hs] at hdown
    exact ⟨nofun, nofun, nofun, hdown, rfl, fun _ _ => nofun⟩
  | routed context route scope hs =>
    obtain ⟨hcontext, -, -, hdown, hanswer, -⟩ := hp
    rw [hs] at hcontext hdown hanswer
    exact ⟨fun _ => hcontext rfl, nofun, nofun, hdown, hanswer, fun _ _ => nofun⟩

theorem Run.poised (hr : Run (.ofConfig config) s) (hc : s.calls[i]? = some c) : c.Poised :=
  RunOf.calls (P := fun _ c => c.Poised) (fun _ a => Call.poised_ofArrival config a)
    (fun _ _ hm hp => hm.poised hp) (Run.runOf hr) hc

theorem Run.ordered (hr : Run (.ofConfig config) s) (hc : s.calls[i]? = some c) :
    c.request.Ordered :=
  RunOf.calls (P := fun _ c => c.request.Ordered) (fun _ _ => RequestLeg.ordered_unsent)
    (fun _ _ hm ho => hm.ordered ho) (Run.runOf hr) hc

theorem AtRest.rests (h : s.AtRest) (hc : s.calls[i]? = some c) :
    c.Rests s.config (s.isCancelled c) := fun m => by
  simpa [branch?, hc] using h i m

theorem AtRest.waits (h : s.AtRest) (hr : Run (.ofConfig config) s) (hc : s.calls[i]? = some c) :
    c.Waits (s.isCancelled c) :=
  (h.rests hc).waits (Run.poised hr hc) ((Run.sound hr).calls i c hc).papers

/-! ## One call alone -/

theorem Step.alone {m : CallMove} (hcalls : s.calls = [c])
    (h : c.step? s.config (s.isCancelled c) m = some (c', none)) :
    Step s { s with calls := [c'] } := by
  have hb : s.branch? 0 m = some (c', none) := by simpa [branch?, hcalls] using h
  have hafter : s.after 0 (c', none) = { s with calls := [c'] } := by
    simp [after, update, hcalls]
  exact hafter ▸ .branch 0 m hb

theorem atRest_of_alone (hcalls : s.calls = [c]) (h : c.Rests s.config (s.isCancelled c)) :
    s.AtRest := by
  intro i m
  cases i with
  | zero => simpa [branch?, hcalls] using h m
  | succ i => simp [branch?, hcalls]

end Service

end GrpcRelay
