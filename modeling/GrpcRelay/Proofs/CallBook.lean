/-
  Call books over whole runs — as long as no identifier is tracked while a guard
  with it is live, the registry holds one entry for each live guard, and a scope is
  cancelled exactly if it or one that it lies in was signalled (`run_exact`).
-/
import GrpcRelay.CallBook
import GrpcRelay.Proofs.Forest
import Mathlib.Data.List.Induction
import Mathlib.Data.List.Nodup

namespace GrpcRelay

/-- The entry of a guard in the registry. -/
def Guard.entry (g : Guard) : CallId × ActiveCall := (g.id, g.call)

/-! ## Named scopes -/

namespace NamedScopes

variable {s : NamedScopes} {id : ScopeId} {parent : Option ScopeId}

theorem exists_mem_names {name : String} (hf : s.find? name = some id) :
    ∃ p ∈ s.names, p.2 = id := by
  obtain ⟨p, hp, hid⟩ := Option.map_eq_some_iff.1 hf
  exact ⟨p, List.mem_of_find?_eq_some hp, hid⟩

/-- The scopes are a forest, and every name is that of a scope. -/
structure Orderly (s : NamedScopes) : Prop where
  forest : s.scopes.IsForest
  named : ∀ p ∈ s.names, p.2 < s.scopes.nodes.length

theorem Orderly.find?_lt {name : String} (h : s.Orderly) (hf : s.find? name = some id) :
    id < s.scopes.nodes.length := by
  obtain ⟨p, hp, rfl⟩ := exists_mem_names hf
  exact h.named p hp

/-- The scopes of a book go on, and the names stay. -/
theorem Orderly.signalling {scopes : Scopes} {A : ScopeId → Prop} (h : s.Orderly)
    (hs : s.scopes.Signalling scopes A) : ({ s with scopes } : NamedScopes).Orderly :=
  ⟨hs.forest h.forest, fun p hp => Nat.lt_of_lt_of_le (h.named p hp) hs.length_le⟩

theorem Orderly.create (h : s.Orderly) (name : String)
    (hp : ∀ p, parent = some p → p < s.scopes.nodes.length) :
    (s.create name parent).1.Orderly ∧
      s.scopes.Signalling (s.create name parent).1.scopes (fun _ => False) ∧
      (s.create name parent).2 < (s.create name parent).1.scopes.nodes.length := by
  have hsig := Scopes.signalling_create hp
  have hlt : s.scopes.nodes.length < (s.scopes.create parent).1.nodes.length := by
    simp [Scopes.create]
  refine ⟨⟨hsig.forest h.forest, fun p hp => ?_⟩, hsig, hlt⟩
  rcases List.mem_append.1 hp with hp | hp
  · exact Nat.lt_of_lt_of_le (h.named p (List.mem_filter.1 hp).1) hsig.length_le
  · rw [List.mem_singleton.1 hp]
    exact hlt

theorem Orderly.ensure (h : s.Orderly) (name : String) :
    (s.ensure name).1.Orderly ∧ s.scopes.Signalling (s.ensure name).1.scopes (fun _ => False) ∧
      (s.ensure name).2 < (s.ensure name).1.scopes.nodes.length := by
  unfold NamedScopes.ensure
  split
  · next id hf => exact ⟨h, .refl s.scopes, h.find?_lt hf⟩
  · exact h.create name nofun

theorem Orderly.signal (h : s.Orderly) (name : String) :
    (s.signal name).Orderly ∧
      s.scopes.Signalling (s.signal name).scopes fun id => s.find? name = some id := by
  unfold NamedScopes.signal
  split
  · next id hf =>
    have hsig := Scopes.signalling_signal (h.find?_lt hf)
    exact ⟨h.signalling hsig, hsig.congr fun id' => by rw [hf, Option.some_inj, eq_comm]⟩
  · next hf => exact ⟨h, (Scopes.Signalling.refl _).congr fun id => by simp [hf]⟩

end NamedScopes

theorem Registry.remove_insert {r : Registry} {id id' : CallId} {c : ActiveCall} (h : id ≠ id') :
    (r.insert id c).remove id' = (r.remove id').insert id c := by
  simp [insert, remove, h, Bool.and_comm]

namespace CallBook

variable {b b' : CallBook} {op : BookOp} {ops : List BookOp} {name : String} {g : Guard}
  {id : ScopeId}

/-! ## What an operation ends and signals -/

/-- The operation ends this guard, or lets another take its name. -/
inductive Ends (b : CallBook) : BookOp → Guard → Prop
  | finish {name : String} {g : Guard} (error : Option Status) (h : b.guard? name = some g) :
      Ends b (.finish name error) g
  | drop {name : String} {g : Guard} (h : b.guard? name = some g) : Ends b (.drop name) g
  | replace {name : String} {g : Guard} (id : CallId) (scope method : String) (notifies : Bool)
      (h : b.guard? name = some g) : Ends b (.track name id scope method notifies) g

/-- The operation signals this scope: it cancels it by its name, ends a guard of it or cancels
    all calls in flight, one of which runs in it. -/
inductive Signals (b : CallBook) : BookOp → ScopeId → Prop
  | cancelled {name : String} {id : ScopeId} (h : b.scopes.find? name = some id) :
      Signals b (.cancel name) id
  | ended {op : BookOp} {g : Guard} (h : b.Ends op g) : Signals b op g.scope
  | inFlight {e : CallId × ActiveCall} (h : e ∈ b.registry.entries) :
      Signals b .cancelAll e.2.scope

/-- An identifier is only tracked while no guard with it is live. -/
def Admits (b : CallBook) : BookOp → Prop
  | .track _ id _ _ _ => ∀ e ∈ b.guards, e.2.id ≠ id
  | _ => True

/-! ## The guards -/

/-- The scopes are in order, and the registry and the live guards agree. -/
structure Orderly (b : CallBook) : Prop where
  scopes : b.scopes.Orderly
  entries : b.registry.entries = b.guards.map fun e => e.2.entry
  ids : (b.guards.map fun e => e.2.id).Nodup
  names : (b.guards.map Prod.fst).Nodup
  running : ∀ e ∈ b.guards, e.2.scope < b.scopes.scopes.nodes.length

theorem mem_of_guard? (h : b.guard? name = some g) : (name, g) ∈ b.guards := by
  obtain ⟨e, he, rfl⟩ := Option.map_eq_some_iff.1 h
  obtain rfl : e.1 = name := by simpa using List.find?_some he
  exact List.mem_of_find?_eq_some he

/-- Without the name of a guard the same guards are left as without its identifier. -/
theorem Orderly.filter_name (h : b.Orderly) (hg : (name, g) ∈ b.guards) :
    (b.guards.filter fun e => e.1 != name) = b.guards.filter fun e => e.2.id != g.id := by
  refine List.filter_congr fun e he => ?_
  rw [Bool.eq_iff_iff, bne_iff_ne, bne_iff_ne]
  refine not_congr ⟨fun hn => ?_, fun hid => ?_⟩
  · rw [List.inj_on_of_nodup_map h.names he hg hn]
  · rw [List.inj_on_of_nodup_map h.ids he hg hid]

theorem Orderly.entries_remove (h : b.Orderly) (id : CallId) :
    (b.registry.remove id).entries =
      (b.guards.filter fun e => e.2.id != id).map fun e => e.2.entry := by
  rw [Registry.remove, h.entries, List.filter_map]
  rfl

theorem Orderly.withScopes {scopes : NamedScopes} {A : ScopeId → Prop} (h : b.Orderly)
    (hs : scopes.Orderly) (hsig : b.scopes.scopes.Signalling scopes.scopes A) :
    ({ b with scopes } : CallBook).Orderly :=
  ⟨hs, h.entries, h.ids, h.names,
    fun e he => Nat.lt_of_lt_of_le (h.running e he) hsig.length_le⟩

/-- A guard that is given up takes its entry along. -/
theorem Orderly.release (h : b.Orderly) (hg : (name, g) ∈ b.guards) (error : Option Status) :
    ({ b with guards := b.guards.filter fun e => e.1 != name }.release name g error).1.Orderly := by
  have hsig := Scopes.signalling_signal (h.running _ hg)
  have hkept := List.filter_sublist (l := b.guards) (p := fun e => e.1 != name)
  refine ⟨h.scopes.signalling hsig, ?_, h.ids.sublist (hkept.map _), h.names.sublist (hkept.map _),
    fun e he => Nat.lt_of_lt_of_le (h.running e (hkept.subset he)) hsig.length_le⟩
  show (b.registry.remove g.id).entries = (b.guards.filter fun e => e.1 != name).map _
  rw [h.entries_remove, h.filter_name hg]

/-- A guard of a new name and a new identifier brings its entry. -/
theorem Orderly.insert (h : b.Orderly) (hscope : g.scope < b.scopes.scopes.nodes.length)
    (hid : ∀ e ∈ b.guards, e.2.id ≠ g.id) (hname : ∀ e ∈ b.guards, e.1 ≠ name) :
    Orderly { b with
      registry := b.registry.insert g.id g.call
      guards := b.guards ++ [(name, g)] } where
  scopes := h.scopes
  entries := by
    have hall : (b.guards.filter fun e => e.2.id != g.id) = b.guards :=
      List.filter_eq_self.2 fun e he => bne_iff_ne.2 (hid e he)
    show (b.registry.remove g.id).entries ++ [g.entry] = _
    rw [h.entries_remove, hall, List.map_append, List.map_singleton]
  ids := by
    rw [List.map_append, List.map_singleton, ← List.concat_eq_append]
    refine .concat (fun hm => ?_) h.ids
    obtain ⟨e, he, heq⟩ := List.mem_map.1 hm
    exact hid e he heq
  names := by
    rw [List.map_append, List.map_singleton, ← List.concat_eq_append]
    refine .concat (fun hm => ?_) h.names
    obtain ⟨e, he, heq⟩ := List.mem_map.1 hm
    exact hname e he heq
  running e he := by
    rcases List.mem_append.1 he with he | he
    · exact h.running e he
    · rw [List.mem_singleton.1 he]; exact hscope

/-! ## Operations -/

/-- An operation leaves this book, in order, and signals these scopes. -/
structure Leaves (b b' : CallBook) (A : ScopeId → Prop) : Prop where
  orderly : b'.Orderly
  signalling : b.scopes.scopes.Signalling b'.scopes.scopes A

theorem Orderly.leaves (h : b.Orderly) : Leaves b b fun _ => False := ⟨h, .refl _⟩

theorem Leaves.congr {A A' : ScopeId → Prop} (h : Leaves b b' A) (hA : ∀ id, A id ↔ A' id) :
    Leaves b b' A' := ⟨h.orderly, h.signalling.congr hA⟩

theorem Orderly.releaseNamed (h : b.Orderly) (name : String) (error : Option Status) :
    Leaves b (b.releaseNamed name error).1
      fun id => ∃ g, b.guard? name = some g ∧ g.scope = id := by
  unfold CallBook.releaseNamed
  split
  · next hn => exact h.leaves.congr fun id => by simp [hn]
  · next g hg =>
    have hmem := mem_of_guard? hg
    have hleaves : Leaves b _ _ :=
      ⟨h.release hmem error, Scopes.signalling_signal (h.running _ hmem)⟩
    exact hleaves.congr fun id => by simp [hg, eq_comm]

theorem Orderly.track {cid : CallId} {scope method : String} {notifies : Bool} (h : b.Orderly)
    (hid : ∀ e ∈ b.guards, e.2.id ≠ cid) :
    Leaves b (b.track name cid scope method notifies).1
      fun id => ∃ g, b.guard? name = some g ∧ g.scope = id := by
  have hensure := h.scopes.ensure scope
  unfold CallBook.track
  generalize b.scopes.ensure scope = p at hensure ⊢
  obtain ⟨scopes, scopeId⟩ := p
  obtain ⟨hs, hsig, hscope⟩ := hensure
  have hb := h.withScopes hs hsig
  cases hn : b.guard? name with
  | none =>
    have hname : ∀ e ∈ b.guards, e.1 ≠ name := by
      simpa [CallBook.guard?, List.find?_eq_none] using hn
    have hall : (b.guards.filter fun e => e.1 != name) = b.guards :=
      List.filter_eq_self.2 fun e he => bne_iff_ne.2 (hname e he)
    simp only [hall]
    have hentered := hb.insert (g := ⟨cid, method, scopeId, notifies⟩) hscope hid hname
    exact ⟨hentered, hsig.congr fun id => by simp⟩
  | some old =>
    have hmem := mem_of_guard? hn
    have hsignal := Scopes.signalling_signal (hb.running _ hmem)
    have hne : cid ≠ old.id := fun heq => hid _ hmem heq.symm
    have hreleased := hb.release hmem (some Guard.abandoned)
    refine ⟨?_, (hsig.trans hsignal).congr fun id => by simp [eq_comm]⟩
    -- the new entry comes before the old one goes, which is of another identifier
    simp only [CallBook.release, Registry.remove_insert hne]
    refine hreleased.insert (g := ⟨cid, method, scopeId, notifies⟩)
      (Nat.lt_of_lt_of_le hscope hsignal.length_le) ?_ ?_
    · exact fun e he => hid e (List.mem_filter.1 he).1
    · exact fun e he => bne_iff_ne.1 (List.mem_filter.1 he).2

/-- Every operation keeps the book in order, and signals what it signals. -/
theorem Orderly.apply (h : b.Orderly) (ha : b.Admits op) :
    Leaves b (b.apply op).1 (b.Signals op) := by
  cases op with
  | scope name parent =>
    have hp : ∀ p, parent.bind b.scopes.find? = some p → p < b.scopes.scopes.nodes.length := by
      intro p hp
      obtain ⟨n, -, hn⟩ := Option.bind_eq_some_iff.1 hp
      exact h.scopes.find?_lt hn
    obtain ⟨hs, hsig, -⟩ := h.scopes.create name hp
    have hleaves : Leaves b { b with scopes := (b.scopes.create name _).1 } _ :=
      ⟨h.withScopes hs hsig, hsig⟩
    refine hleaves.congr fun id => ⟨False.elim, ?_⟩
    rintro (⟨-⟩ | ⟨⟨-⟩⟩)
  | cancel name =>
    obtain ⟨hs, hsig⟩ := h.scopes.signal name
    have hleaves : Leaves b { b with scopes := b.scopes.signal name } _ :=
      ⟨h.withScopes hs hsig, hsig⟩
    refine hleaves.congr fun id => ⟨.cancelled, ?_⟩
    rintro (hf | ⟨⟨-⟩⟩)
    exact hf
  | track name cid scope method notifies =>
    refine (h.track ha).congr fun id => ⟨?_, ?_⟩
    · rintro ⟨g, hg, rfl⟩
      exact .ended (.replace _ _ _ _ hg)
    · rintro (_ | ⟨⟨⟩⟩)
      exact ⟨_, ‹_›, rfl⟩
  | finish name error =>
    refine (h.releaseNamed name error).congr fun id => ⟨?_, ?_⟩
    · rintro ⟨g, hg, rfl⟩
      exact .ended (.finish _ hg)
    · rintro (_ | ⟨⟨⟩⟩)
      exact ⟨_, ‹_›, rfl⟩
  | drop name =>
    refine (h.releaseNamed name (some Guard.abandoned)).congr fun id => ⟨?_, ?_⟩
    · rintro ⟨g, hg, rfl⟩
      exact .ended (.drop hg)
    · rintro (_ | ⟨⟨⟩⟩)
      exact ⟨_, ‹_›, rfl⟩
  | cancelAll =>
    have hrunning : ∀ e ∈ b.registry.entries, e.2.scope < b.scopes.scopes.nodes.length := by
      rw [h.entries]
      intro e he
      obtain ⟨g, hg, rfl⟩ := List.mem_map.1 he
      exact h.running g hg
    have hsig := Scopes.signalling_cancelAll hrunning
    have hleaves :
        Leaves b
          { b with
            scopes := { b.scopes with scopes := (b.registry.cancelAll b.scopes.scopes).1 } } _ :=
      ⟨h.withScopes (h.scopes.signalling hsig) hsig, hsig⟩
    refine hleaves.congr fun id => ⟨?_, ?_⟩
    · rintro ⟨e, he, rfl⟩
      exact .inFlight he
    · rintro (_ | ⟨⟨⟩⟩ | he)
      exact ⟨_, he, rfl⟩
  | describe | contains | get =>
    refine h.leaves.congr fun id => ⟨False.elim, ?_⟩
    rintro (⟨-⟩ | ⟨⟨-⟩⟩)

/-! ## Runs -/

/-- The book after these operations. -/
def run (ops : List BookOp) : CallBook := ops.foldl (fun b op => (b.apply op).1) ∅

theorem run_concat (ops : List BookOp) (op : BookOp) :
    run (ops ++ [op]) = ((run ops).apply op).1 := by
  rw [run, List.foldl_append]
  rfl

/-- Every identifier is fresh when it is tracked. -/
def Fresh (ops : List BookOp) : Prop := ∀ pre op, pre ++ [op] <+: ops → (run pre).Admits op

/-- One of the operations signalled this scope. -/
def Signalled (ops : List BookOp) (id : ScopeId) : Prop :=
  ∃ pre op, pre ++ [op] <+: ops ∧ (run pre).Signals op id

theorem Fresh.concat (h : Fresh (ops ++ [op])) : Fresh ops ∧ (run ops).Admits op :=
  ⟨fun pre o hp => h pre o (hp.trans (List.prefix_append ops [op])),
    h ops op List.prefix_rfl⟩

theorem fresh_nil : Fresh [] := fun pre op hp => by simp at hp

theorem Fresh.snoc (h : Fresh ops) (op : BookOp) (ha : (run ops).Admits op) :
    Fresh (ops ++ [op]) := by
  intro pre o hp
  rcases List.prefix_concat_iff.1 hp with heq | hp
  · obtain ⟨rfl, ho⟩ := List.append_inj' heq rfl
    rw [List.singleton_inj.1 ho]
    exact ha
  · exact h pre o hp

theorem signalled_concat :
    Signalled (ops ++ [op]) id ↔ Signalled ops id ∨ (run ops).Signals op id := by
  constructor
  · rintro ⟨pre, o, hp, hs⟩
    rcases List.prefix_concat_iff.1 hp with heq | hp
    · obtain ⟨rfl, ho⟩ := List.append_inj' heq rfl
      rw [List.singleton_inj.1 ho] at hs
      exact .inr hs
    · exact .inl ⟨pre, o, hp, hs⟩
  · rintro (⟨pre, o, hp, hs⟩ | hs)
    · exact ⟨pre, o, hp.trans (List.prefix_append ops [op]), hs⟩
    · exact ⟨ops, op, List.prefix_rfl, hs⟩

theorem orderly_empty : Orderly ∅ := by
  refine ⟨⟨fun id p hp => ?_, fun p hp => ?_⟩, rfl, List.nodup_nil, List.nodup_nil, fun e he => ?_⟩
  · cases hp
  · cases hp
  · cases he

/-- In every run the book is in order, and signalled are the scopes that were. -/
theorem orderly_run (h : Fresh ops) :
    (run ops).Orderly ∧
      ∀ id, (run ops).scopes.scopes.isSignalled id = true ↔ Signalled ops id := by
  -- the history grows at its end, so the last operation comes off first
  induction ops using List.reverseRecOn with
  | nil =>
    refine ⟨orderly_empty, fun id => ⟨fun hs => ?_, fun ⟨pre, op, hp, _⟩ => ?_⟩⟩
    · cases hs
    · simp at hp
  | append_singleton ops op ih =>
    obtain ⟨hf, ha⟩ := h.concat
    obtain ⟨ho, hsig⟩ := ih hf
    obtain ⟨ho', hs⟩ := ho.apply ha
    rw [run_concat]
    exact ⟨ho', fun id => by rw [hs.signalled, hsig, signalled_concat]⟩

/-! ## What the registry answers -/

theorem Orderly.get?_eq_some_iff (h : b.Orderly) (cid : CallId) (call : ActiveCall) :
    b.registry.get? cid = some call ↔ ∃ e ∈ b.guards, e.2.id = cid ∧ e.2.call = call := by
  have hget : b.registry.get? cid =
      (b.guards.find? fun e => e.2.id == cid).map fun e => e.2.call := by
    rw [Registry.get?, h.entries, List.find?_map, Option.map_map]
    rfl
  rw [hget]
  constructor
  · intro hf
    obtain ⟨e, he, rfl⟩ := Option.map_eq_some_iff.1 hf
    exact ⟨e, List.mem_of_find?_eq_some he, by simpa using List.find?_some he, rfl⟩
  · rintro ⟨e, he, rfl, rfl⟩
    obtain ⟨e', he'⟩ := Option.isSome_iff_exists.1
      (List.find?_isSome.2 ⟨e, he, by simp⟩ : (b.guards.find? fun e' => e'.2.id == e.2.id).isSome)
    have hid : e'.2.id = e.2.id := by simpa using List.find?_some he'
    rw [he', List.inj_on_of_nodup_map h.ids (List.mem_of_find?_eq_some he') he hid]
    rfl

theorem Orderly.contains_iff (h : b.Orderly) (cid : CallId) :
    b.registry.contains cid = true ↔ ∃ e ∈ b.guards, e.2.id = cid := by
  rw [Registry.contains, Option.isSome_iff_exists]
  simp only [h.get?_eq_some_iff]
  constructor
  · rintro ⟨_, e, he, hid, -⟩
    exact ⟨e, he, hid⟩
  · rintro ⟨e, he, hid⟩
    exact ⟨_, e, he, hid, rfl⟩

/-- **The registry and the scopes over whole runs.**  The registry holds one entry for each live
    guard, with its method and its scope, and answers accordingly; cancelling all calls counts
    them and changes no entry.  A scope is cancelled exactly if it or one that it lies in was
    signalled, so an operation cancels nothing but what lies in the scopes that it signals, and
    nothing that was cancelled is cancelled no more. -/
theorem run_exact {ops : List BookOp} (h : Fresh ops) :
    ((run ops).registry.entries =
        (run ops).guards.map (fun e => (e.2.id, ⟨e.2.method, e.2.scope⟩)) ∧
      ((run ops).guards.map fun e => e.2.id).Nodup) ∧
    ((run ops).registry.size = (run ops).guards.length ∧
      ((run ops).registry.isEmpty = true ↔ (run ops).guards = []) ∧
      (∀ cid, (run ops).registry.contains cid = true ↔ ∃ e ∈ (run ops).guards, e.2.id = cid) ∧
      ∀ cid call, (run ops).registry.get? cid = some call ↔
        ∃ e ∈ (run ops).guards, e.2.id = cid ∧ e.2.call = call) ∧
    (((run ops).apply .cancelAll).2.1 = .count (run ops).registry.size ∧
      ((run ops).apply .cancelAll).1.registry = (run ops).registry) ∧
    (∀ id, (run ops).scopes.scopes.isCancelled id = true ↔
      ∃ a, (run ops).scopes.scopes.Within id a ∧ Signalled ops a) ∧
    (∀ op id, (run ops).Admits op → id < (run ops).scopes.scopes.nodes.length →
      (((run ops).apply op).1.scopes.scopes.isCancelled id = true ↔
        (run ops).scopes.scopes.isCancelled id = true ∨
          ∃ a, (run ops).scopes.scopes.Within id a ∧ (run ops).Signals op a)) := by
  obtain ⟨ho, hsig⟩ := orderly_run h
  refine ⟨⟨ho.entries, ho.ids⟩, ⟨?_, ?_, ho.contains_iff, ho.get?_eq_some_iff⟩, ⟨rfl, rfl⟩,
    fun id => ?_, fun op id ha hid => ?_⟩
  · rw [Registry.size, ho.entries, List.length_map]
  · rw [Registry.isEmpty, ho.entries, List.isEmpty_iff, List.map_eq_nil_iff]
  · rw [Scopes.isCancelled_iff ho.scopes.forest]
    exact exists_congr fun a => and_congr_right fun _ => hsig a
  · exact (ho.apply ha).signalling.isCancelled_iff ho.scopes.forest hid

/-- Two calls, one in a scope inside that of the other, of which the inner one is given up. -/
theorem run_exact_of_dropped :
    ∃ ops, Fresh ops ∧ (run ops).registry.size = 1 ∧
      (run ops).registry.get? ⟨2⟩ = some ⟨"/a/c", 0⟩ ∧
      (run ops).registry.contains ⟨1⟩ = false ∧
      (run ops).scopes.scopes.isCancelled 1 = true := by
  have houter := fresh_nil.snoc (.scope "outer" none) trivial
  have hinner := houter.snoc (.scope "inner" (some "outer")) trivial
  have hfirst := hinner.snoc (.track "g" ⟨1⟩ "inner" "/a/b" true) nofun
  have hsecond := hfirst.snoc (.track "k" ⟨2⟩ "outer" "/a/c" false)
    (show ∀ e ∈ (run _).guards, _ by decide +kernel)
  have hdropped := hsecond.snoc (.drop "g") trivial
  obtain ⟨-, ⟨hsize, -, hcontains, hget⟩, -, hcancelled, -⟩ := run_exact hdropped
  refine ⟨_, hdropped, hsize.trans (by decide +kernel), (hget _ _).2 (by decide +kernel), ?_,
    (hcancelled 1).2 ⟨1, .refl 1, _, _, List.prefix_rfl, ?_⟩⟩
  · rw [← Bool.not_eq_true, hcontains]
    decide +kernel
  · exact .ended (g := ⟨⟨1⟩, "/a/b", 1, true⟩) (.drop rfl)

end CallBook

end GrpcRelay
