/-
  The registry and the scopes — which identifiers a registry contains, each
  with one entry (`Registry.IsMap`), and that scopes only ever grow: no
  operation takes one away or takes a signal back (`Scopes.Grows`).
-/
import GrpcRelay.Registry
import GrpcRelay.Route
import Mathlib.Data.List.Nodup

namespace GrpcRelay

namespace Scopes

variable {s s' s'' : Scopes} {id : ScopeId}

/-- No scope is lost, and none that was cancelled is cancelled no more. -/
structure Grows (s s' : Scopes) : Prop where
  length_le : s.nodes.length ≤ s'.nodes.length
  isCancelled : ∀ id, s.isCancelled id = true → s'.isCancelled id = true

theorem Grows.refl (s : Scopes) : s.Grows s := ⟨Nat.le_refl _, fun _ h => h⟩

theorem Grows.trans (h : s.Grows s') (h' : s'.Grows s'') : s.Grows s'' :=
  ⟨Nat.le_trans h.length_le h'.length_le, fun id hc => h'.isCancelled id (h.isCancelled id hc)⟩

/-- What keeps every scope in its place, with its parent and its signal, makes the scopes grow. -/
theorem grows_of_nodes
    (h : ∀ (id : ScopeId) (n : ScopeNode), s.nodes[id]? = some n →
      ∃ n', s'.nodes[id]? = some n' ∧ n'.parent = n.parent ∧
        (n.signalled = true → n'.signalled = true)) : s.Grows s' where
  length_le := by
    rcases Nat.eq_zero_or_pos s.nodes.length with h₀ | h₀
    · omega
    · obtain ⟨n', hn', -⟩ := h (s.nodes.length - 1) _ (List.getElem?_eq_getElem (by omega))
      have hlt := (List.getElem?_eq_some_iff.1 hn').1
      omega
  isCancelled id := by
    induction id using Nat.strongRecOn with
    | ind id ih =>
      intro hc
      unfold Scopes.isCancelled at hc ⊢
      cases hn : s.nodes[id]? with
      | none => simp [hn] at hc
      | some n =>
        obtain ⟨n', hn', hp, hs⟩ := h id n hn
        simp only [hn] at hc
        simp only [hn', hp]
        rw [Bool.or_eq_true] at hc ⊢
        rcases hc with hc | hc
        · exact Or.inl (hs hc)
        · refine Or.inr ?_
          cases hparent : n.parent with
          | none => simp [hparent] at hc
          | some p =>
            simp only [hparent] at hc ⊢
            split at hc
            · next hlt => rw [if_pos hlt]; exact ih p hlt hc
            · cases hc

theorem grows_create (s : Scopes) (parent : Option ScopeId) : s.Grows (s.create parent).1 := by
  refine grows_of_nodes fun id n hn => ⟨n, ?_, rfl, fun h => h⟩
  exact (List.getElem?_append_left (List.getElem?_eq_some_iff.1 hn).1).trans hn

theorem grows_signal (s : Scopes) (id : ScopeId) : s.Grows (s.signal id) := by
  refine grows_of_nodes fun j n hn => ?_
  by_cases hj : id = j
  · exact ⟨{ n with signalled := true }, by simp [signal, hn, hj], rfl,
      fun _ => rfl⟩
  · exact ⟨n, by simp [signal, hn, hj], rfl, fun h => h⟩

/-- A scope that is signalled is cancelled. -/
theorem isCancelled_signal (h : id < s.nodes.length) : (s.signal id).isCancelled id = true := by
  unfold isCancelled
  simp [signal, List.getElem?_eq_getElem h]

theorem grows_cancelAll (r : Registry) (s : Scopes) : s.Grows (r.cancelAll s).1 := by
  show s.Grows (r.entries.foldl (fun s e => s.signal e.2.scope) s)
  induction r.entries generalizing s with
  | nil => exact .refl s
  | cons e es ih => exact (grows_signal s e.2.scope).trans (ih _)

end Scopes

/-- The scope of a route is one that there is, once it has been ensured. -/
theorem Route.ensureScope_lt {β κ : Type} {r : Route β κ} {scopes : Scopes}
    (h : ∀ id, r.scope = some id → id < scopes.nodes.length) :
    (r.ensureScope scopes).2 < (r.ensureScope scopes).1.nodes.length := by
  unfold ensureScope
  split
  · next id hid => exact h id hid
  · simp [Scopes.create]

/-! ## The registry -/

namespace Registry

theorem contains_eq_any (r : Registry) (id : CallId) :
    r.contains id = r.entries.any fun e => e.1 == id := by
  rw [contains, get?, Option.isSome_map, List.isSome_find?]

theorem get?_remove_self (r : Registry) (id : CallId) : (r.remove id).get? id = none := by
  rw [get?, Option.map_eq_none_iff, List.find?_eq_none]
  intro e he
  simpa using (List.mem_filter.1 he).2

theorem get?_remove_ne {r : Registry} {id id' : CallId} (h : id ≠ id') :
    (r.remove id).get? id' = r.get? id' := by
  rw [get?, get?, remove, List.find?_filter]
  refine congrArg (Option.map Prod.snd) (congrArg (List.find? · _) (funext fun e => ?_))
  by_cases he : e.1 = id'
  · simp [he, h.symm]
  · simp [he]

theorem get?_insert_self (r : Registry) (id : CallId) (c : ActiveCall) :
    (r.insert id c).get? id = some c := by
  have h := get?_remove_self r id
  rw [get?, Option.map_eq_none_iff] at h
  rw [get?, insert, List.find?_append, h]
  simp

theorem get?_insert_ne {r : Registry} {id id' : CallId} {c : ActiveCall} (h : id ≠ id') :
    (r.insert id c).get? id' = r.get? id' := by
  have hr := get?_remove_ne (r := r) h
  rw [get?] at hr
  rw [get?, insert, List.find?_append]
  simpa [h] using hr

@[simp] theorem contains_remove (r : Registry) (id id' : CallId) :
    (r.remove id).contains id' = (id' != id && r.contains id') := by
  rw [contains_eq_any, contains_eq_any, remove, Bool.eq_iff_iff]
  simp only [List.any_filter, List.any_eq_true, Bool.and_eq_true, bne_iff_ne, beq_iff_eq]
  constructor
  · rintro ⟨e, he, hne, rfl⟩
    exact ⟨hne, e, he, rfl⟩
  · rintro ⟨hne, e, he, rfl⟩
    exact ⟨e, he, hne, rfl⟩

@[simp] theorem contains_insert (r : Registry) (id id' : CallId) (c : ActiveCall) :
    (r.insert id c).contains id' = (id' == id || r.contains id') := by
  have h := contains_remove r id id'
  rw [contains_eq_any] at h ⊢
  rw [insert, List.any_append, h, contains_eq_any]
  by_cases he : id' = id
  · simp [he]
  · have hbeq : (id' == id) = false := beq_eq_false_iff_ne.2 he
    have hbeq' : (id == id') = false := beq_eq_false_iff_ne.2 fun h => he h.symm
    simp [bne, hbeq, hbeq']

/-! ### One entry for each -/

/-- No identifier has two entries. -/
def IsMap (r : Registry) : Prop := (r.entries.map Prod.fst).Nodup

theorem mem_keys_iff {r : Registry} {id : CallId} :
    id ∈ r.entries.map Prod.fst ↔ r.contains id = true := by
  rw [contains_eq_any]
  simp

theorem IsMap.remove {r : Registry} (h : r.IsMap) (id : CallId) : (r.remove id).IsMap :=
  h.sublist (List.filter_sublist.map Prod.fst)

theorem IsMap.insert {r : Registry} (h : r.IsMap) (id : CallId) (c : ActiveCall) :
    (r.insert id c).IsMap := by
  have hnew : id ∉ (r.remove id).entries.map Prod.fst := by
    rw [mem_keys_iff, contains_remove]
    simp
  rw [IsMap, Registry.insert, List.map_append]
  exact (h.remove id).append (List.nodup_singleton id) (by simpa using hnew)

/-- What is found is counted, and only once. -/
theorem IsMap.size_remove {r : Registry} {id : CallId} (h : r.IsMap) (hc : r.contains id = true) :
    (r.remove id).size + 1 = r.size := by
  have hone : (r.entries.filter fun e => e.1 == id).length = 1 := by
    rw [← List.countP_eq_length_filter, ← List.count_eq_one_of_mem h (mem_keys_iff.2 hc),
      List.count, List.countP_map]
    rfl
  have hall := List.length_eq_length_filter_add (l := r.entries) fun e => e.1 == id
  rw [hone] at hall
  rw [size, size, hall, Nat.add_comm]
  rfl

end Registry

end GrpcRelay
