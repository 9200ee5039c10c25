/-
  Ranking — which of several matching patterns answers for a path.

  Of two patterns that match a path the one that is more specific where they
  first differ is preferred (`Pattern.Outranks`).  A look-up, which tries one
  part after the other and takes choices back, finds what is mounted on the
  pattern that is preferred to all others that match
  (`RouteTable.find_eq_some_iff`), provided that the table was built by
  mounting patterns (`RouteTable.Holds.insert`).
-/
import GrpcRelay.Proofs.Router.Matching
import Mathlib.Data.List.Nodup

namespace GrpcRelay

namespace Pattern

variable {p q : Pattern} {c : Char} {s r : List Char}

/-- A pattern is preferred to another one: where they first differ, it goes on with a literal and
    the other one does not, or it goes on with a parameter and the other one with a catch-all. -/
inductive Outranks : Pattern → Pattern → Prop
  | literalParam (c : Char) {p q : Pattern} : Outranks (.literal c :: p) (.param :: q)
  | literalRest (c : Char) {p q : Pattern} : Outranks (.literal c :: p) (.rest :: q)
  | paramRest {p q : Pattern} : Outranks (.param :: p) (.rest :: q)
  | cons (part : PatternPart) {p q : Pattern} (h : Outranks p q) :
      Outranks (part :: p) (part :: q)

theorem Outranks.asymm (h : p.Outranks q) : ¬ q.Outranks p := by
  induction h with
  | literalParam | literalRest | paramRest => intro h'; cases h'
  | cons part _ ih =>
    intro h'
    cases h' with
    | cons _ h' => exact ih h'

/-- Nothing is preferred to a pattern of literals. -/
theorem not_outranks_literals {cs : List Char} : ¬ p.Outranks (cs.map .literal) := by
  induction cs generalizing p with
  | nil => intro h; cases h
  | cons c cs ih =>
    intro h
    cases h with
    | cons _ h => exact ih h

/-- How a pattern matches a path that is not empty. -/
inductive Starts (c : Char) (r : List Char) : Pattern → Prop
  | literal {p : Pattern} (h : p.Matches r) : Starts c r (.literal c :: p)
  | lastParam (hs : '/' ∉ c :: r) : Starts c r [.param]
  | param {p : Pattern} {t : List Char} (hs : RouteTable.afterSegment (c :: r) = '/' :: t)
      (h : p.Matches t) : Starts c r (.param :: .literal '/' :: p)
  | rest {p : Pattern} : Starts c r (.rest :: p)

theorem Matches.starts (h : p.Matches (c :: r)) : Starts c r p := by
  generalize hs : c :: r = s at h
  cases h with
  | nil => cases hs
  | literal d h => cases hs; exact .literal h
  | lastParam hne hslash => exact .lastParam (hs ▸ hslash)
  | param hslash h => exact .param (by rw [hs]; exact RouteTable.afterSegment_append hslash) h
  | rest hne => exact .rest

theorem conflicts_self (p : Pattern) : p.conflicts p = true := by
  induction p with
  | nil => rfl
  | cons part p ih => cases part <;> simp [conflicts, ih]

/-- A pattern of literals can be told apart from every other pattern. -/
theorem eq_literals_of_conflicts {cs : List Char} (h : p.conflicts (cs.map .literal) = true) :
    p = cs.map .literal := by
  induction cs generalizing p with
  | nil => cases p with
    | nil => rfl
    | cons part p => cases part <;> cases h
  | cons c cs ih => cases p with
    | nil => cases h
    | cons part p =>
      cases part with
      | literal d =>
        simp only [List.map_cons, conflicts, Bool.and_eq_true, beq_iff_eq] at h
        rw [List.map_cons, h.1, ih h.2]
      | param | rest => simp [conflicts] at h

end Pattern

namespace RouteTable

variable {α : Type} {routes : List (Pattern × α)} {p q : Pattern} {a b : α} {c : Char}
  {s r t : List Char}

/-! ## The answering pattern -/

/-- A pattern answers for a path: it matches, and is preferred to all others that do. -/
structure Answers (routes : List (Pattern × α)) (s : List Char) (p : Pattern) (a : α) : Prop where
  mounted : (p, a) ∈ routes
  matched : p.Matches s
  preferred : ∀ q b, (q, b) ∈ routes → q.Matches s → q = p ∨ p.Outranks q

/-- Routes whose patterns are well formed and all different. -/
structure Sound (routes : List (Pattern × α)) : Prop where
  closed : ∀ p a, (p, a) ∈ routes → p.Closed
  distinct : (routes.map Prod.fst).Nodup

theorem Sound.eq_of_mem (h : Sound routes) (ha : (p, a) ∈ routes) (hb : (p, b) ∈ routes) :
    a = b :=
  (Prod.mk.inj (List.inj_on_of_nodup_map h.distinct ha hb rfl)).2

/-- One pattern answers for a path at most. -/
theorem Answers.unique (h : Answers routes s p a) (h' : Answers routes s q b) : p = q := by
  rcases h.preferred q b h'.mounted h'.matched with hqp | hpq
  · exact hqp.symm
  · rcases h'.preferred p a h.mounted h.matched with hpq' | hqp
    · exact hpq'
    · exact absurd hqp hpq.asymm

theorem not_matches_of_find (h : find routes s = none) (hmem : (p, a) ∈ routes) :
    ¬ p.Matches s := by
  intro hm
  have hsome := isSome_find hmem hm
  rw [h] at hsome
  cases hsome

/-- No pattern that begins with a parameter matches if nothing is found behind one. -/
theorem not_matches_param
    (hend : afterSegment (c :: r) = [] → (routes.filterMap afterParam).findSome? onEnd = none)
    (hgo : ∀ t, afterSegment (c :: r) = '/' :: t →
      find ((routes.filterMap afterParam).filterMap (afterLiteral '/')) t = none)
    (hmem : (.param :: p, a) ∈ routes) : ¬ Pattern.Matches (.param :: p) (c :: r) := by
  intro hm
  cases hm.starts with
  | lastParam hs =>
    have hsome := isSome_findSome?_onEnd (mem_afterParam.2 hmem)
    rw [hend (afterSegment_eq_nil_iff.2 hs)] at hsome
    cases hsome
  | param hs ht =>
    exact not_matches_of_find (hgo _ hs) (mem_afterLiteral.2 (mem_afterParam.2 hmem)) ht

/-! ## Looking up -/

theorem Answers.nil (h : ([], a) ∈ routes) : Answers routes [] [] a := by
  refine ⟨h, .nil, fun q b _ hm => Or.inl ?_⟩
  generalize hs : ([] : List Char) = s at hm
  cases hm with
  | nil => rfl
  | literal => cases hs
  | lastParam hne => exact absurd hs.symm hne
  | param => simp at hs
  | rest hne => exact absurd hs.symm hne

theorem Answers.literal (h : Answers (routes.filterMap (afterLiteral c)) r p a) :
    Answers routes (c :: r) (.literal c :: p) a := by
  refine ⟨mem_afterLiteral.1 h.mounted, .literal c h.matched, fun q b hq hm => ?_⟩
  cases hm.starts with
  | literal hr =>
    rcases h.preferred _ b (mem_afterLiteral.2 hq) hr with rfl | hpq
    · exact Or.inl rfl
    · exact Or.inr (.cons _ hpq)
  | lastParam _ | param _ _ => exact Or.inr (.literalParam c)
  | rest => exact Or.inr (.literalRest c)

theorem Answers.lastParam (hlit : find (routes.filterMap (afterLiteral c)) r = none)
    (hs : '/' ∉ c :: r) (h : ([.param], a) ∈ routes) : Answers routes (c :: r) [.param] a := by
  refine ⟨h, .lastParam (List.cons_ne_nil c r) hs, fun q b hq hm => ?_⟩
  cases hm.starts with
  | literal hr => exact absurd hr (not_matches_of_find hlit (mem_afterLiteral.2 hq))
  | lastParam _ => exact Or.inl rfl
  | param hseg _ => rw [afterSegment_eq_nil_iff.2 hs] at hseg; cases hseg
  | rest => exact Or.inr .paramRest

theorem Answers.param (hlit : find (routes.filterMap (afterLiteral c)) r = none)
    (hs : afterSegment (c :: r) = '/' :: t)
    (h : Answers ((routes.filterMap afterParam).filterMap (afterLiteral '/')) t p a) :
    Answers routes (c :: r) (.param :: .literal '/' :: p) a := by
  refine ⟨mem_afterParam.1 (mem_afterLiteral.1 h.mounted), ?_, fun q b hq hm => ?_⟩
  · rw [← takeWhile_append_afterSegment (c :: r), hs]
    exact .param (slash_not_mem_takeWhile (c :: r)) h.matched
  · cases hm.starts with
    | literal hr => exact absurd hr (not_matches_of_find hlit (mem_afterLiteral.2 hq))
    | lastParam hslash => rw [afterSegment_eq_nil_iff.2 hslash] at hs; cases hs
    | param hseg ht =>
      rw [hs] at hseg
      cases hseg
      rcases h.preferred _ b (mem_afterLiteral.2 (mem_afterParam.2 hq)) ht with rfl | hpq
      · exact Or.inl rfl
      · exact Or.inr (.cons _ (.cons _ hpq))
    | rest => exact Or.inr .paramRest

theorem Answers.rest (hlit : find (routes.filterMap (afterLiteral c)) r = none)
    (hparam : ∀ q b, (.param :: q, b) ∈ routes → ¬ Pattern.Matches (.param :: q) (c :: r))
    (hc : ∀ p a, (p, a) ∈ routes → p.Closed) (h : (.rest :: p, a) ∈ routes) :
    Answers routes (c :: r) (.rest :: p) a := by
  refine ⟨h, .rest (List.cons_ne_nil c r), fun q b hq hm => Or.inl ?_⟩
  cases hm.starts with
  | literal hr => exact absurd hr (not_matches_of_find hlit (mem_afterLiteral.2 hq))
  | lastParam _ => exact absurd hm (hparam _ b hq)
  | param _ _ => exact absurd hm (hparam _ b hq)
  | rest =>
    -- a catch-all ends its pattern
    cases hc _ a h
    cases hc _ b hq
    rfl

/-- What is found answers. -/
theorem answers_of_find (hc : ∀ p a, (p, a) ∈ routes → p.Closed) (h : find routes s = some a) :
    ∃ p, Answers routes s p a := by
  -- the look-up goes on with a shorter path
  induction hn : s.length using Nat.strongRecOn generalizing routes s with
  | ind n ih =>
    subst hn
    cases s with
    | nil =>
      rw [find] at h
      exact ⟨[], .nil (findSome?_onEnd h)⟩
    | cons c r =>
      rw [find] at h
      rcases Option.or_eq_some_iff.1 h with h | ⟨hlit, h⟩
      · have hc' : ∀ p a, (p, a) ∈ routes.filterMap (afterLiteral c) → p.Closed := by
          intro p a hmem
          cases hc _ a (mem_afterLiteral.1 hmem) with
          | literal _ hclosed => exact hclosed
        obtain ⟨p, hp⟩ := ih r.length (by simp) hc' h rfl
        exact ⟨_, hp.literal⟩
      · rcases Option.or_eq_some_iff.1 h with h | ⟨hparam, h⟩
        · split at h
          · next hseg =>
            have hmem := mem_afterParam.1 (findSome?_onEnd h)
            exact ⟨_, .lastParam hlit (afterSegment_eq_nil_iff.1 hseg) hmem⟩
          · next d t hseg =>
            have hlt : t.length < (c :: r).length := by
              have := afterSegment_length (c :: r)
              rw [hseg] at this
              exact this
            have hc' : ∀ p a, (p, a) ∈ (routes.filterMap afterParam).filterMap
                (afterLiteral '/') → p.Closed := by
              intro p a hmem
              cases hc _ a (mem_afterParam.1 (mem_afterLiteral.1 hmem)) with
              | param hclosed => exact hclosed
            obtain ⟨p, hp⟩ := ih t.length hlt hc' h rfl
            exact ⟨_, .param hlit (eq_slash_of_afterSegment hseg ▸ hseg) hp⟩
        · obtain ⟨p, hmem⟩ := findSome?_onRest h
          refine ⟨_, .rest hlit (fun q b hq => ?_) hc hmem⟩
          split at hparam
          · next hseg => exact not_matches_param (fun _ => hparam) (by simp [hseg]) hq
          · next d u hseg =>
            refine not_matches_param (by simp [hseg]) (fun t ht => ?_) hq
            rw [hseg] at ht
            cases ht
            exact hparam

/-- **A look-up finds what is mounted on the pattern that answers.** -/
theorem find_eq_some_iff (h : Sound routes) :
    find routes s = some a ↔ ∃ p, Answers routes s p a := by
  refine ⟨answers_of_find h.closed, ?_⟩
  rintro ⟨p, hp⟩
  obtain ⟨b, hb⟩ := Option.isSome_iff_exists.1 (isSome_find hp.mounted hp.matched)
  obtain ⟨q, hq⟩ := answers_of_find h.closed hb
  obtain rfl := hp.unique hq
  rw [hb, h.eq_of_mem hp.mounted hq.mounted]

/-- Where a pattern matches, one answers. -/
theorem Sound.exists_answers (h : Sound routes) (hmem : (p, a) ∈ routes) (hm : p.Matches s) :
    ∃ q b, Answers routes s q b := by
  obtain ⟨b, hb⟩ := Option.isSome_iff_exists.1 (isSome_find hmem hm)
  obtain ⟨q, hq⟩ := (find_eq_some_iff h).1 hb
  exact ⟨q, b, hq⟩

/-! ## Mounting -/

/-- The routes of a table are these and, besides, the patterns that these texts spell, with the
    same thing on each. -/
structure Holds (t : RouteTable α) (own : List (Pattern × α)) (a : α) (texts : List String) :
    Prop where
  sound : Sound t.routes
  kept : ∀ route ∈ own, route ∈ t.routes
  mounted : ∀ q ∈ texts, ∃ p, Pattern.parse q = .ok p ∧ (p, a) ∈ t.routes
  routes : ∀ p b, (p, b) ∈ t.routes →
    (p, b) ∈ own ∨ b = a ∧ ∃ q ∈ texts, Pattern.parse q = .ok p

variable {tab tab' : RouteTable α} {own : List (Pattern × α)} {texts : List String}
  {text : String}

/-- A table holds its own routes, and as yet nothing besides. -/
theorem holds_self (h : Sound tab.routes) : tab.Holds tab.routes a [] :=
  ⟨h, fun _ => id, nofun, fun _ _ => Or.inl⟩

theorem sound_empty : Sound (empty : RouteTable α).routes :=
  ⟨nofun, List.nodup_nil⟩

theorem routes_of_insert (h : tab.insert text a = .ok tab') :
    ∃ p, Pattern.parse text = .ok p ∧ tab'.routes = tab.routes ++ [(p, a)] ∧
      p ∉ tab.routes.map Prod.fst := by
  unfold insert at h
  split at h
  · cases h
  · next p hp =>
    split at h
    · cases h
    · next hfree =>
      cases h
      refine ⟨p, hp, rfl, fun hmem => hfree ?_⟩
      obtain ⟨route, hroute, rfl⟩ := List.mem_map.1 hmem
      exact List.any_eq_true.2 ⟨route, hroute, route.1.conflicts_self⟩

theorem Sound.insert (hs : Sound tab.routes) (h : tab.insert text a = .ok tab') :
    Sound tab'.routes := by
  obtain ⟨p, hp, hroutes, hnew⟩ := routes_of_insert h
  rw [hroutes]
  refine ⟨fun q b hmem => ?_, ?_⟩
  · rcases List.mem_append.1 hmem with hmem | hmem
    · exact hs.closed q b hmem
    · cases List.mem_singleton.1 hmem
      exact Pattern.closed_of_readParts (Pattern.parse_eq_ok hp).2
  · rw [List.map_append]
    exact hs.distinct.append (List.nodup_singleton p) (by simpa using hnew)

theorem Holds.insert (ht : tab.Holds own a texts) (h : tab.insert text a = .ok tab') :
    tab'.Holds own a (texts ++ [text]) := by
  have hsound := ht.sound.insert h
  obtain ⟨p, hp, hroutes, -⟩ := routes_of_insert h
  refine ⟨hsound, fun route hroute => ?_, fun q hq => ?_, fun q b hmem => ?_⟩
  · rw [hroutes]
    exact List.mem_append_left _ (ht.kept route hroute)
  · rw [hroutes]
    rcases List.mem_append.1 hq with hq | hq
    · obtain ⟨p', hp', hmem⟩ := ht.mounted q hq
      exact ⟨p', hp', List.mem_append_left _ hmem⟩
    · rw [List.mem_singleton.1 hq]
      exact ⟨p, hp, by simp⟩
  · rw [hroutes] at hmem
    rcases List.mem_append.1 hmem with hmem | hmem
    · rcases ht.routes q b hmem with hown | ⟨hb, q', hq', hp'⟩
      · exact Or.inl hown
      · exact Or.inr ⟨hb, q', List.mem_append_left _ hq', hp'⟩
    · cases List.mem_singleton.1 hmem
      exact Or.inr ⟨rfl, text, by simp, hp⟩

/-- What each step of a fold adds is there at its end. -/
theorem collects_foldlM {ε σ γ β : Type} {P : σ → List β → Prop} {f : σ → γ → Except ε σ}
    {added : γ → List β} {cs : List γ} {s s' : σ} {bs : List β}
    (step : ∀ s s' bs c, P s bs → f s c = .ok s' → P s' (bs ++ added c)) (h : P s bs)
    (hf : cs.foldlM f s = .ok s') : P s' (bs ++ cs.flatMap added) := by
  induction cs generalizing s bs with
  | nil =>
    cases hf
    simpa using h
  | cons c cs ih =>
    rw [List.foldlM_cons] at hf
    cases hc : f s c with
    | error e =>
      rw [hc] at hf
      cases hf
    | ok s₁ =>
      rw [hc] at hf
      simpa using ih (step s s₁ bs c h hc) hf

theorem Holds.foldlM {more : List String} (ht : tab.Holds own a texts)
    (h : more.foldlM (fun (t : RouteTable α) q => t.insert q a) tab = .ok tab') :
    tab'.Holds own a (texts ++ more) := by
  have hall : tab'.Holds own a (texts ++ more.flatMap fun q => [q]) :=
    collects_foldlM (P := fun t qs => t.Holds own a qs) (fun _ _ _ _ ht hq => ht.insert hq) ht h
  rwa [List.flatMap_singleton'] at hall

end RouteTable

end GrpcRelay
