/-
  Dispatch — which requests a router without native routes sends to the proxy.

  A method is registered under its path, and the path is read as a pattern.  So
  a router sends on what a registered path matches as a pattern, which is more
  or less than the registered paths themselves as soon as one of them holds a
  brace (`Router.proxied_exactly`).
-/
import GrpcRelay.Proofs.MethodPath
import GrpcRelay.Proofs.Router.Ranking
import GrpcRelay.Session.Caller

namespace GrpcRelay

/-- What is done to a router before it is used. -/
inductive RouterStep where
  /-- Methods of a service are registered for the proxy. -/
  | register (service : String) (methods : List String)
  | transparent

/-- The paths that a step registers. -/
def RouterStep.paths : RouterStep → List String
  | register service methods => methods.map fun m => MethodPath.text ⟨service, m⟩
  | transparent => []

namespace Router

/-- Carries out a step. -/
def take (r : Router) : RouterStep → Except RegisterError Router
  | .register service methods => r.register service methods
  | .transparent => .ok r.makeTransparent

/-- The router after these steps, if none of them fails. -/
def ofSteps (steps : List RouterStep) : Except RegisterError Router := steps.foldlM take empty

/-- A path matches what is registered under another one. -/
def MatchedBy (path registered : String) : Prop :=
  ∃ p, Pattern.parse registered = .ok p ∧ p.Matches path.toList

variable {r r' : Router} {steps : List RouterStep} {own : List (Pattern × Mounted)}
  {paths : List String} {path service method : String}

/-- A router with routes of its own and the proxy on these paths. -/
structure Proxies (r : Router) (own : List (Pattern × Mounted)) (paths : List String) : Prop where
  registered : r.registered = paths
  proper : ∀ q ∈ paths, ∃ m : MethodPath, m.Proper ∧ m.text = q
  holds : r.table.Holds own .proxy paths

/-! ## Registration -/

theorem proxies_empty : empty.Proxies [] [] :=
  ⟨rfl, nofun, RouteTable.holds_self RouteTable.sound_empty⟩

theorem Proxies.makeTransparent (h : r.Proxies own paths) : r.makeTransparent.Proxies own paths :=
  ⟨h.registered, h.proper, h.holds⟩

theorem registerMethod_eq_ok (h : r.registerMethod service method = .ok r') :
    (⟨service, method⟩ : MethodPath).Proper ∧
      MethodPath.text ⟨service, method⟩ ∉ r.registered ∧
      ∃ table, r.table.insert (MethodPath.text ⟨service, method⟩) .proxy = .ok table ∧
        r' = { r with
          table, registered := r.registered ++ [MethodPath.text ⟨service, method⟩] } := by
  unfold Router.registerMethod at h
  split at h
  · cases h
  · next m hm =>
    obtain ⟨rfl, hproper⟩ := MethodPath.ofParts_eq_ok_iff.1 hm
    split at h
    · cases h
    · next hnew =>
      split at h
      · cases h
      · next table ht =>
        cases h
        exact ⟨hproper, by simpa using hnew, table, ht, rfl⟩

theorem Proxies.registerMethod (h : r.Proxies own paths)
    (hr : r.registerMethod service method = .ok r') :
    r'.Proxies own (paths ++ [MethodPath.text ⟨service, method⟩]) ∧
      r'.transparent = r.transparent := by
  obtain ⟨hproper, -, table, ht, rfl⟩ := registerMethod_eq_ok hr
  refine ⟨⟨by rw [h.registered], fun q hq => ?_, h.holds.insert ht⟩, rfl⟩
  rcases List.mem_append.1 hq with hq | hq
  · exact h.proper q hq
  · exact ⟨_, hproper, (List.mem_singleton.1 hq).symm⟩

theorem Proxies.register {methods : List String} (h : r.Proxies own paths)
    (hr : r.register service methods = .ok r') :
    r'.Proxies own (paths ++ (RouterStep.register service methods).paths) ∧
      r'.transparent = r.transparent := by
  rw [RouterStep.paths, List.map_eq_flatMap]
  refine RouteTable.collects_foldlM
    (P := fun r₁ ps => r₁.Proxies own ps ∧ r₁.transparent = r.transparent) ?_ ⟨h, rfl⟩ hr
  rintro r₁ r₂ ps m ⟨h₁, ht₁⟩ hm
  obtain ⟨h₂, ht₂⟩ := h₁.registerMethod hm
  exact ⟨h₂, ht₂.trans ht₁⟩

theorem Proxies.foldlM (h : r.Proxies own paths) (hr : steps.foldlM take r = .ok r') :
    r'.Proxies own (paths ++ steps.flatMap RouterStep.paths) ∧
      (r'.transparent = true ↔ r.transparent = true ∨ .transparent ∈ steps) := by
  induction steps generalizing r paths with
  | nil => cases hr; exact ⟨by simpa using h, by simp⟩
  | cons step steps ih =>
    rw [List.foldlM_cons] at hr
    cases step with
    | register service methods =>
      cases hm : r.register service methods with
      | error e => rw [take, hm] at hr; cases hr
      | ok r₁ =>
        rw [take, hm] at hr
        obtain ⟨h₁, ht₁⟩ := h.register hm
        obtain ⟨h₂, ht₂⟩ := ih h₁ hr
        refine ⟨by simpa using h₂, ?_⟩
        rw [ht₂, ht₁]; simp
    | transparent =>
      obtain ⟨h₂, ht₂⟩ := ih h.makeTransparent hr
      refine ⟨by simpa [RouterStep.paths] using h₂, ?_⟩
      rw [ht₂]; simp [Router.makeTransparent]

/-! ## Requests -/

theorem Proxies.lookup (h : r.Proxies [] paths) :
    (r.table.lookup path = some .proxy ↔ ∃ q ∈ paths, MatchedBy path q) ∧
      r.table.lookup path ≠ some .native := by
  have hproxy {a : Mounted} (ha : r.table.lookup path = some a) : a = .proxy := by
    obtain ⟨p, hp⟩ := (RouteTable.find_eq_some_iff h.holds.sound).1 ha
    exact ((h.holds.routes p a hp.mounted).resolve_left List.not_mem_nil).1
  refine ⟨⟨fun hl => ?_, ?_⟩, fun hl => nomatch hproxy hl⟩
  · obtain ⟨p, hp⟩ := (RouteTable.find_eq_some_iff h.holds.sound).1 hl
    obtain ⟨-, q, hq, hparse⟩ := (h.holds.routes p _ hp.mounted).resolve_left List.not_mem_nil
    exact ⟨q, hq, p, hparse, hp.matched⟩
  · rintro ⟨q, hq, p, hp, hm⟩
    obtain ⟨p', hp', hmem⟩ := h.holds.mounted q hq
    rw [hp] at hp'; cases hp'
    obtain ⟨a, ha⟩ := Option.isSome_iff_exists.1 (RouteTable.isSome_find hmem hm)
    rw [← hproxy ha]; exact ha

theorem Proxies.dispatch (h : r.Proxies [] paths) :
    (r.dispatch path = .proxy ↔ r.transparent = true ∨ ∃ q ∈ paths, MatchedBy path q) ∧
      r.dispatch path ≠ .native := by
  obtain ⟨hl, hn⟩ : (_ ↔ _) ∧ r.table.lookup path ≠ some .native := h.lookup
  rw [← hl]
  unfold Router.dispatch
  cases hlookup : r.table.lookup path with
  | none => cases r.transparent <;> simp
  | some a =>
    cases a with
    | native => exact absurd hlookup hn
    | proxy => simp

/-- A path with a slash in front is a registered one exactly if it is registered as it is. -/
theorem Proxies.hasRoute_iff (h : r.Proxies own paths) (hs : path.toList.head? = some '/') :
    r.hasRoute path = true ↔ path ∈ paths := by
  unfold Router.hasRoute
  rw [h.registered]
  split
  · next m hm => rw [MethodPath.text_of_parse hm hs, List.contains_iff_mem]
  · next e he =>
    constructor
    · intro hf; cases hf
    · intro hmem
      obtain ⟨m, hm, rfl⟩ := h.proper path hmem
      rw [hm.parse_text] at he; cases he

/-- A registered path without braces matches itself only. -/
theorem Proxies.matchedBy_iff {q : String} (h : r.Proxies own paths) (hq : q ∈ paths)
    (hp : Pattern.IsPlain q.toList) : MatchedBy path q ↔ path = q := by
  obtain ⟨p, hparse, -⟩ := h.holds.mounted q hq
  have hlit := Pattern.parse_of_isPlain hp hparse
  constructor
  · rintro ⟨p', hp', hm⟩
    rw [hparse] at hp'; cases hp'
    rw [hlit, Pattern.matches_literals_iff] at hm
    exact String.toList_inj.1 hm
  · rintro rfl
    exact ⟨p, hparse, hlit ▸ Pattern.matches_literals_iff.2 rfl⟩

theorem Proxies.matched_iff_of_isPlain (h : r.Proxies own paths)
    (hp : ∀ q ∈ paths, Pattern.IsPlain q.toList) :
    (∃ q ∈ paths, MatchedBy path q) ↔ path ∈ paths := by
  constructor
  · rintro ⟨q, hq, hm⟩
    rw [(h.matchedBy_iff hq (hp q hq)).1 hm]; exact hq
  · intro hmem
    exact ⟨path, hmem, (h.matchedBy_iff hmem (hp path hmem)).2 rfl⟩

/-- With a brace in a registered path, a path is matched that is not registered. -/
theorem Proxies.exists_matched (h : r.Proxies own paths) {q : String} (hq : q ∈ paths)
    (hb : ¬ Pattern.IsPlain q.toList) :
    ∃ path : String, path.toList.head? = some '/' ∧ path ∉ paths ∧
      ∃ q ∈ paths, MatchedBy path q := by
  -- a shorter path with a brace may be registered itself, so the induction is on the length
  induction hn : q.toList.length using Nat.strongRecOn generalizing q with
  | ind n ih =>
    subst hn
    obtain ⟨p, hparse, -⟩ := h.holds.mounted q hq
    rcases Pattern.matches_of_not_isPlain hb hparse with hlong | ⟨s, hlt, hs, hbs, hm⟩
    · obtain ⟨s, hlen, hs, hm⟩ := hlong ((paths.map fun q => q.toList.length).max?.getD 0)
      refine ⟨.ofList s, by simpa using hs, fun hmem => ?_, q, hq, p, hparse, by simpa using hm⟩
      have hle : s.length ≤ (paths.map fun q => q.toList.length).max?.getD 0 :=
        List.le_max?_getD_of_mem (List.mem_map.2 ⟨_, hmem, by simp⟩)
      omega
    · by_cases hmem : String.ofList s ∈ paths
      · exact ih s.length hlt hmem (by simpa using hbs) (by simp)
      · exact ⟨.ofList s, by simpa using hs, hmem, q, hq, p, hparse, by simpa using hm⟩

/-- **What is proxied.**  A router sends to the proxy what a registered path matches as a pattern,
    and in transparent mode everything; any other request is told that its method is unknown, and
    the director is not asked.  What is proxied is what is registered, for all paths, exactly if
    the router is transparent or no registered path holds a brace. -/
theorem proxied_exactly {steps : List RouterStep} {r : Router} (h : ofSteps steps = .ok r) :
    (∀ path : String,
      (r.dispatch path = .proxy ↔
        .transparent ∈ steps ∨ ∃ q ∈ steps.flatMap RouterStep.paths, MatchedBy path q) ∧
      (r.dispatch path ≠ .proxy →
        ∀ (s : Session) (uri : Uri) (metadata : Metadata) (peer : Option SocketAddress)
          (decision : Decision) (delay : Duration), s.router = r → uri.pathText = path →
          s.request uri metadata peer decision delay =
            { s with
              callers := s.callers ++
                [⟨none, some (.of .unimplemented "Unknown method"), .waiting, false⟩] })) ∧
    ((∀ path : String, path.toList.head? = some '/' →
        (r.dispatch path = .proxy ↔ .transparent ∈ steps ∨ r.hasRoute path = true)) ↔
      .transparent ∈ steps ∨ ∀ q ∈ steps.flatMap RouterStep.paths, Pattern.IsPlain q.toList) := by
  obtain ⟨hr, ht⟩ := proxies_empty.foldlM h
  have htransparent : r.transparent = true ↔ .transparent ∈ steps := by simpa [empty] using ht
  rw [List.nil_append] at hr
  have hdispatch (path : String) : r.dispatch path = .proxy ↔
      .transparent ∈ steps ∨ ∃ q ∈ steps.flatMap RouterStep.paths, MatchedBy path q := by
    rw [← htransparent]
    exact hr.dispatch.1
  refine ⟨fun path => ⟨hdispatch path, ?_⟩, ⟨fun hall => ?_, ?_⟩⟩
  · intro hne s uri metadata peer decision delay hs hpath
    have hunknown : r.dispatch path = .unknown := by
      cases hd : r.dispatch path with
      | native => exact absurd hd hr.dispatch.2
      | proxy => exact absurd hd hne
      | unknown => rfl
    unfold Session.request
    rw [hs, hpath, hunknown]
    rfl
  · by_contra hnot
    obtain ⟨hclosed, hplain⟩ := not_or.1 hnot
    obtain ⟨q, hq, hb⟩ : ∃ q ∈ steps.flatMap RouterStep.paths, ¬ Pattern.IsPlain q.toList := by
      by_contra hnone
      exact hplain fun q hq => by_contra fun hb => hnone ⟨q, hq, hb⟩
    obtain ⟨path, hslash, hmem, hmatched⟩ := hr.exists_matched hq hb
    rcases (hall path hslash).1 ((hdispatch path).2 (Or.inr hmatched)) with htr | hroute
    · exact hclosed htr
    · exact hmem ((hr.hasRoute_iff hslash).1 hroute)
  · rintro (htr | hplain) path hslash
    · exact ⟨fun _ => Or.inl htr, fun _ => (hdispatch path).2 (Or.inl htr)⟩
    · rw [hdispatch, hr.hasRoute_iff hslash, hr.matched_iff_of_isPlain hplain]

/-! ## A service with braces in its name -/

/-- The path of a method whose service is named like a parameter, as a pattern. -/
def bracedPattern : Pattern := [.literal '/', .param, .literal '/', .literal 'm']

/-- The router with this method only. -/
def braced : Router := ⟨⟨[(bracedPattern, .proxy)]⟩, ["/\x7bs\x7d/m"], false⟩

theorem parse_bracedPattern : Pattern.parse "/\x7bs\x7d/m" = .ok bracedPattern := by
  refine Pattern.parse_of_readParts rfl (by decide) ?_ (by decide)
  simp [Pattern.unescape, Pattern.readParts, Pattern.cutParam, Pattern.afterName, Except.map,
    bracedPattern]

theorem ofSteps_braced : ofSteps [.register "\x7bs\x7d" ["m"]] = .ok braced := by
  have hparts : MethodPath.ofParts "\x7bs\x7d" "m" = .ok ⟨"\x7bs\x7d", "m"⟩ := by decide
  have htext : MethodPath.text ⟨"\x7bs\x7d", "m"⟩ = "/\x7bs\x7d/m" := by decide
  have hinsert : (RouteTable.empty : RouteTable Mounted).insert "/\x7bs\x7d/m" .proxy =
      .ok ⟨[(bracedPattern, .proxy)]⟩ := by
    rw [RouteTable.insert, parse_bracedPattern]
    rfl
  have hmethod : empty.registerMethod "\x7bs\x7d" "m" = .ok braced := by
    simp [registerMethod, hparts, htext, hinsert, empty, braced]
  simp [ofSteps, take, register, hmethod]

theorem matchedBy_braced : MatchedBy "/x/m" "/\x7bs\x7d/m" := by
  refine ⟨bracedPattern, parse_bracedPattern, .literal '/' ?_⟩
  exact .param (s := ['x']) (by decide) (.literal 'm' .nil)

/-- Its only method is `m`, and yet it proxies a method that is not registered. -/
theorem proxied_exactly_of_braced :
    ∃ r, ofSteps [.register "\x7bs\x7d" ["m"]] = .ok r ∧ r.dispatch "/x/m" = .proxy ∧
      r.hasRoute "/x/m" = false := by
  have hproxied := ((proxied_exactly ofSteps_braced).1 "/x/m").1
  refine ⟨braced, ofSteps_braced, hproxied.2 (Or.inr ?_), by decide⟩
  exact ⟨"/\x7bs\x7d/m", by decide, matchedBy_braced⟩

/-- So a router does not proxy exactly what it says is registered. -/
theorem not_proxied_iff_hasRoute :
    ¬ ∀ (steps : List RouterStep) (r : Router) (path : String), ofSteps steps = .ok r →
      path.toList.head? = some '/' →
        (r.dispatch path = .proxy ↔ .transparent ∈ steps ∨ r.hasRoute path = true) := by
  intro h
  have hr := (proxies_empty.foldlM ofSteps_braced).1
  have hproxied : braced.dispatch "/x/m" = .proxy :=
    hr.dispatch.1.2 (Or.inr ⟨"/\x7bs\x7d/m", by decide, matchedBy_braced⟩)
  have hroute : braced.hasRoute "/x/m" = false := by decide
  rcases (h _ _ "/x/m" ofSteps_braced rfl).1 hproxied with ht | ht
  · simp at ht
  · rw [hroute] at ht; cases ht

end Router

end GrpcRelay
