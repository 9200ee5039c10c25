/-
  Scopes as a forest — a scope is cancelled exactly if it or one that it lies in
  was signalled (`Scopes.isCancelled_iff`), and what happens to a forest leaves
  every scope where it is and signals some (`Scopes.Signalling`).  A scope sees no
  difference between two forests that differ in signals to scopes that it does
  not lie in (`Scopes.Alike.isCancelled`).
-/
import GrpcRelay.Registry

namespace GrpcRelay.Scopes

variable {s s' s'' : Scopes} {id a p : ScopeId} {A A' : ScopeId → Prop}

/-! ## The forest -/

/-- The scope that a scope was made in. -/
def parent? (s : Scopes) (id : ScopeId) : Option ScopeId := s.nodes[id]?.bind ScopeNode.parent

/-- Whether a scope was signalled itself. -/
def isSignalled (s : Scopes) (id : ScopeId) : Bool := s.nodes[id]?.any ScopeNode.signalled

/-- A scope lies in itself and in all that the scope it was made in lies in. -/
inductive Within (s : Scopes) : ScopeId → ScopeId → Prop
  | refl (id : ScopeId) : Within s id id
  | inside {id p a : ScopeId} (hp : s.parent? id = some p) (h : Within s p a) : Within s id a

/-- A scope is made in an older one. -/
def IsForest (s : Scopes) : Prop := ∀ id p, s.parent? id = some p → p < id

theorem lt_length_of_parent? (h : s.parent? id = some p) : id < s.nodes.length := by
  obtain ⟨n, hn, -⟩ := Option.bind_eq_some_iff.1 h
  exact (List.getElem?_eq_some_iff.1 hn).1

/-- A scope is looked for above another only where it is older. -/
theorem isCancelled_eq_or (s : Scopes) (id : ScopeId) :
    s.isCancelled id =
      (s.isSignalled id || (s.parent? id).any fun p => decide (p < id) && s.isCancelled p) := by
  rw [isCancelled]
  cases hn : s.nodes[id]? with
  | none => simp [isSignalled, parent?, hn]
  | some n =>
    cases hp : n.parent with
    | none => simp [isSignalled, parent?, hn, hp]
    | some p => by_cases hlt : p < id <;> simp [isSignalled, parent?, hn, hp, hlt]

theorem isCancelled_eq (h : s.IsForest) (id : ScopeId) :
    s.isCancelled id = (s.isSignalled id || (s.parent? id).any s.isCancelled) := by
  rw [isCancelled_eq_or]
  cases hp : s.parent? id with
  | none => rfl
  | some p => simp [h id p hp]

/-- **Cancellation reaches descendants only.** -/
theorem isCancelled_iff (h : s.IsForest) (id : ScopeId) :
    s.isCancelled id = true ↔ ∃ a, s.Within id a ∧ s.isSignalled a = true := by
  constructor
  -- a scope is made in an older one, so the induction is on its number
  · induction id using Nat.strongRecOn with
    | ind id ih =>
      intro hc
      rw [isCancelled_eq h, Bool.or_eq_true, Option.any_eq_true] at hc
      rcases hc with hs | ⟨p, hp, hc⟩
      · exact ⟨id, .refl id, hs⟩
      · obtain ⟨a, hw, hs⟩ := ih p (h id p hp) hc
        exact ⟨a, .inside hp hw, hs⟩
  · rintro ⟨a, hw, hs⟩
    induction hw with
    | refl id => rw [isCancelled_eq h, hs, Bool.true_or]
    | inside hp _ ih =>
      rw [isCancelled_eq h, hp, Bool.or_eq_true]
      exact Or.inr (ih hs)

/-! ## What happens to a forest -/

/-- Scopes are made and those of `A` are signalled; where a scope lies stays as it is. -/
structure Signalling (s s' : Scopes) (A : ScopeId → Prop) : Prop where
  length_le : s.nodes.length ≤ s'.nodes.length
  parent : ∀ id, id < s.nodes.length → s'.parent? id = s.parent? id
  signalled : ∀ id, s'.isSignalled id = true ↔ s.isSignalled id = true ∨ A id
  forest : s.IsForest → s'.IsForest

theorem Signalling.refl (s : Scopes) : s.Signalling s fun _ => False :=
  ⟨Nat.le_refl _, fun _ _ => rfl, fun _ => by simp, fun h => h⟩

theorem Signalling.trans (h : s.Signalling s' A) (h' : s'.Signalling s'' A') :
    s.Signalling s'' fun id => A id ∨ A' id where
  length_le := Nat.le_trans h.length_le h'.length_le
  parent id hid := by
    rw [h'.parent id (Nat.lt_of_lt_of_le hid h.length_le), h.parent id hid]
  signalled id := by rw [h'.signalled, h.signalled, or_assoc]
  forest hf := h'.forest (h.forest hf)

theorem Signalling.congr (h : s.Signalling s' A) (hA : ∀ id, A id ↔ A' id) : s.Signalling s' A' :=
  ⟨h.length_le, h.parent, fun id => by rw [h.signalled, hA], h.forest⟩

theorem parent?_create (s : Scopes) (parent : Option ScopeId) (id : ScopeId) :
    (s.create parent).1.parent? id = if id = s.nodes.length then parent else s.parent? id := by
  -- an old scope, the one that is made, or none at all
  rcases Nat.lt_trichotomy id s.nodes.length with hlt | rfl | hgt
  · rw [if_neg (Nat.ne_of_lt hlt), parent?, create, List.getElem?_append_left hlt]; rfl
  · simp [parent?, create]
  · rw [if_neg (Nat.ne_of_gt hgt), parent?, parent?, create,
      List.getElem?_eq_none (by rw [List.length_append, List.length_singleton]; omega),
      List.getElem?_eq_none (Nat.le_of_lt hgt)]

theorem parent?_create_of_some {parent : Option ScopeId} (h : s.parent? id = some p) :
    (s.create parent).1.parent? id = some p := by
  rw [parent?_create, if_neg (Nat.ne_of_lt (lt_length_of_parent? h)), h]

theorem isSignalled_create (s : Scopes) (parent : Option ScopeId) (id : ScopeId) :
    (s.create parent).1.isSignalled id = s.isSignalled id := by
  rcases Nat.lt_trichotomy id s.nodes.length with hlt | rfl | hgt
  · rw [isSignalled, create, List.getElem?_append_left hlt]; rfl
  · simp [isSignalled, create]
  · rw [isSignalled, isSignalled, create,
      List.getElem?_eq_none (by rw [List.length_append, List.length_singleton]; omega),
      List.getElem?_eq_none (Nat.le_of_lt hgt)]

/-- A scope that is made signals nothing. -/
theorem signalling_create {parent : Option ScopeId}
    (h : ∀ p, parent = some p → p < s.nodes.length) :
    s.Signalling (s.create parent).1 fun _ => False where
  length_le := by simp [create]
  parent id hid := by rw [parent?_create, if_neg (Nat.ne_of_lt hid)]
  signalled id := by simp [isSignalled_create]
  forest hf id p hp := by
    rw [parent?_create] at hp
    split at hp
    · next hid => exact hid ▸ h p hp
    · exact hf id p hp

theorem parent?_signal (s : Scopes) (a id : ScopeId) :
    (s.signal a).parent? id = s.parent? id := by
  by_cases ha : a = id
  · subst ha
    cases hn : s.nodes[a]? with
    | none => simp [parent?, signal, hn]
    | some n => simp [parent?, signal, hn]
  · simp [parent?, signal, ha]

theorem isSignalled_signal_ne (h : a ≠ id) : (s.signal a).isSignalled id = s.isSignalled id := by
  simp [isSignalled, signal, h]

theorem isSignalled_signal_self (s : Scopes) (id : ScopeId) :
    (s.signal id).isSignalled id = decide (id < s.nodes.length) := by
  by_cases h : id < s.nodes.length <;> simp [isSignalled, signal, h]

theorem signalling_signal (h : a < s.nodes.length) :
    s.Signalling (s.signal a) fun id => id = a where
  length_le := by simp [signal]
  parent id _ := parent?_signal s a id
  signalled id := by
    by_cases ha : a = id
    · subst ha
      simp [isSignalled_signal_self, h]
    · rw [isSignalled_signal_ne ha, or_iff_left fun h => ha h.symm]
  forest hf id p hp := hf id p (by rw [← parent?_signal s a id]; exact hp)

theorem signalling_cancelAll {r : Registry} (h : ∀ e ∈ r.entries, e.2.scope < s.nodes.length) :
    s.Signalling (r.cancelAll s).1 fun id => ∃ e ∈ r.entries, e.2.scope = id := by
  show s.Signalling (r.entries.foldl (fun s e => s.signal e.2.scope) s) _
  generalize r.entries = es at h
  induction es generalizing s with
  | nil => exact (Signalling.refl s).congr fun id => by simp
  | cons e es ih =>
    have hfirst := signalling_signal (h e List.mem_cons_self)
    have hrest := ih (s := s.signal e.2.scope) fun e' he' =>
      Nat.lt_of_lt_of_le (h e' (List.mem_cons_of_mem e he')) hfirst.length_le
    exact (hfirst.trans hrest).congr fun id => by simp [eq_comm]

/-- Nothing that happens to a forest moves a scope that there was. -/
theorem Signalling.within_iff (h : s.Signalling s' A) (hf : s.IsForest)
    (hid : id < s.nodes.length) : s'.Within id a ↔ s.Within id a := by
  constructor
  · intro hw
    induction hw with
    | refl id => exact .refl id
    | inside hp _ ih =>
      rw [h.parent _ hid] at hp
      exact .inside hp (ih (Nat.lt_trans (hf _ _ hp) hid))
  · intro hw
    induction hw with
    | refl id => exact .refl id
    | inside hp _ ih =>
      exact .inside ((h.parent _ hid).trans hp) (ih (Nat.lt_trans (hf _ _ hp) hid))

/-- A scope that there was is cancelled afterwards if it was before, or lies in one that was
    signalled meanwhile. -/
theorem Signalling.isCancelled_iff (h : s.Signalling s' A) (hf : s.IsForest)
    (hid : id < s.nodes.length) :
    s'.isCancelled id = true ↔ s.isCancelled id = true ∨ ∃ a, s.Within id a ∧ A a := by
  rw [Scopes.isCancelled_iff (h.forest hf), Scopes.isCancelled_iff hf, ← exists_or]
  refine exists_congr fun a => ?_
  rw [h.within_iff hf hid, h.signalled, and_or_left]

/-! ## Signals to some scopes -/

/-- The same scopes in the same places, with the same signals but to those of `A`. -/
structure Alike (s s' : Scopes) (A : ScopeId → Prop) : Prop where
  length : s'.nodes.length = s.nodes.length
  parent : ∀ id, s'.parent? id = s.parent? id
  signalled : ∀ id, ¬ A id → s'.isSignalled id = s.isSignalled id

theorem Alike.refl (s : Scopes) (A : ScopeId → Prop) : s.Alike s A :=
  ⟨rfl, fun _ => rfl, fun _ _ => rfl⟩

theorem Alike.mono (h : s.Alike s' A) (hA : ∀ id, A id → A' id) : s.Alike s' A' :=
  ⟨h.length, h.parent, fun id hid => h.signalled id fun ha => hid (hA id ha)⟩

theorem Alike.create (h : s.Alike s' A) (parent : Option ScopeId) :
    (s.create parent).1.Alike (s'.create parent).1 A where
  length := by simp [Scopes.create, h.length]
  parent id := by rw [parent?_create, parent?_create, h.length, h.parent]
  signalled id hid := by rw [isSignalled_create, isSignalled_create, h.signalled id hid]

theorem Alike.signal (h : s.Alike s' A) (a : ScopeId) : (s.signal a).Alike (s'.signal a) A where
  length := by simp [Scopes.signal, h.length]
  parent id := by rw [parent?_signal, parent?_signal, h.parent]
  signalled id hid := by
    by_cases ha : a = id
    · rw [ha, isSignalled_signal_self, isSignalled_signal_self, h.length]
    · rw [isSignalled_signal_ne ha, isSignalled_signal_ne ha, h.signalled id hid]

/-- A signal to a scope of `A` that only one side sees. -/
theorem Alike.signal_left (h : s.Alike s' A) (ha : A a) : (s.signal a).Alike s' A where
  length := by simp [Scopes.signal, h.length]
  parent id := by rw [parent?_signal, h.parent]
  signalled id hid := by
    have hne : a ≠ id := fun he => hid (he ▸ ha)
    rw [isSignalled_signal_ne hne, h.signalled id hid]

/-- A scope that lies in none of `A` is cancelled on both sides or on neither. -/
theorem Alike.isCancelled (h : s.Alike s' A) (hid : ∀ a, s.Within id a → ¬ A a) :
    s'.isCancelled id = s.isCancelled id := by
  induction id using Nat.strongRecOn with
  | ind id ih =>
    rw [isCancelled_eq_or, isCancelled_eq_or, h.parent, h.signalled id (hid id (.refl id))]
    cases hp : s.parent? id with
    | none => rfl
    | some p =>
      by_cases hlt : p < id
      · rw [Option.any_some, Option.any_some, ih p hlt fun a ha => hid a (.inside hp ha)]
      · simp [hlt]

end GrpcRelay.Scopes
