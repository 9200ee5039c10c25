/-
  Precedence — which requests the native routes of a router keep once methods
  are registered for the proxy beside them.

  A registered path is one more pattern, and the most specific pattern answers.
  So a native route loses the requests for which a registered path matches that
  is preferred to it, and only those; transparent mode takes nothing from it
  (`Router.native_unless_taken_over`).
-/
import GrpcRelay.Proofs.Router.Dispatch

namespace GrpcRelay.Router

open RouteTable (Answers Holds)

/-- What is mounted on this pattern does not answer for a path, because a registered path matches
    that is preferred to the pattern. -/
def TakenOver (registered : List String) (path : String) (p : Pattern) : Prop :=
  ∃ q ∈ registered, ∃ p', Pattern.parse q = .ok p' ∧ p'.Matches path.toList ∧ p'.Outranks p

/-- A request for this path gets the answer of a native route, and the proxy is left alone. -/
def AnswersNatively (r : Router) (path : String) : Prop :=
  ∀ (s : Session) (uri : Uri) (metadata : Metadata) (peer : Option SocketAddress)
    (decision : Decision) (delay : Duration), s.router = r → uri.pathText = path →
    s.request uri metadata peer decision delay =
      { s with callers := s.callers ++ [⟨none, some Session.nativeAnswer, .waiting, false⟩] }

variable {r r₀ : Router} {natives paths : List String} {steps : List RouterStep}
  {own : List (Pattern × Mounted)} {path : String} {p : Pattern}

/-! ## Native routes -/

theorem holds_ofNative (h : ofNative natives = .ok r) : r.table.Holds [] .native natives := by
  obtain ⟨table, htable, rfl⟩ := Pattern.map_eq_ok h
  exact (RouteTable.holds_self RouteTable.sound_empty).foldlM htable

theorem proxies_ofNative (h : ofNative natives = .ok r) : r.Proxies r.table.routes [] := by
  have hsound := (holds_ofNative h).sound
  obtain ⟨table, -, rfl⟩ := Pattern.map_eq_ok h
  exact ⟨rfl, nofun, RouteTable.holds_self hsound⟩

/-- Native routes alone answer for the paths that one of them matches. -/
theorem exists_answers (h : r.table.Holds [] .native natives)
    (hm : ∃ n ∈ natives, MatchedBy path n) :
    ∃ n ∈ natives, ∃ p, Pattern.parse n = .ok p ∧
      Answers r.table.routes path.toList p .native := by
  obtain ⟨n, hn, p, hp, hm⟩ := hm
  obtain ⟨p', hp', hmem⟩ := h.mounted n hn
  rw [hp] at hp'
  cases hp'
  obtain ⟨q, a, hq⟩ := h.sound.exists_answers hmem hm
  obtain ⟨rfl, n', hn', hparse⟩ := (h.routes q a hq.mounted).resolve_left List.not_mem_nil
  exact ⟨n', hn', q, hparse, hq⟩

/-! ## Native routes and registered paths -/

/-- What answered before still does, or else the proxy has taken over. -/
theorem Proxies.keeps_or_taken_over (h : r.Proxies own paths)
    (hp : Answers own path.toList p .native) :
    (r.dispatch path = .native ∧ Answers r.table.routes path.toList p .native ∧
        ¬ TakenOver paths path p) ∨
      (r.dispatch path = .proxy ∧ TakenOver paths path p) := by
  have hsound := h.holds.sound
  have hmem := h.holds.kept _ hp.mounted
  obtain ⟨q, a, hq⟩ := hsound.exists_answers hmem hp.matched
  have ha := (RouteTable.find_eq_some_iff hsound).2 ⟨q, hq⟩
  rcases hq.preferred p .native hmem hp.matched with rfl | hqp
  · obtain rfl := hsound.eq_of_mem hmem hq.mounted
    refine Or.inl ⟨by rw [Router.dispatch, RouteTable.lookup, ha], hq, ?_⟩
    rintro ⟨t, ht, p', hparse, hm, hrank⟩
    obtain ⟨p'', hparse', hmem'⟩ := h.holds.mounted t ht
    rw [hparse] at hparse'
    cases hparse'
    rcases hq.preferred p' .proxy hmem' hm with rfl | hrank'
    · exact hrank.asymm hrank
    · exact hrank.asymm hrank'
  · rcases h.holds.routes q a hq.mounted with hown | ⟨rfl, t, ht, hparse⟩
    · rcases hp.preferred q a hown hq.matched with rfl | hpq
      · exact absurd hqp hqp.asymm
      · exact absurd hqp hpq.asymm
    · refine Or.inr ⟨by rw [Router.dispatch, RouteTable.lookup, ha], ?_⟩
      exact ⟨t, ht, q, hparse, hq.matched, hqp⟩

/-- A literal pattern answers for the path that it matches. -/
theorem eq_literals_of_answers {routes : List (Pattern × Mounted)} {cs : List Char} {a b : Mounted}
    (h : Answers routes cs p a) (hmem : (cs.map .literal, b) ∈ routes) : p = cs.map .literal := by
  rcases h.preferred _ b hmem (Pattern.matches_literals_iff.2 rfl) with hp | hp
  · exact hp.symm
  · exact absurd hp Pattern.not_outranks_literals

/-- The path of a literal pattern is not taken over. -/
theorem not_taken_over_of_literals {cs : List Char}
    (hp : Answers own cs p .native) (hmem : (cs.map .literal, .native) ∈ own) :
    ¬ TakenOver paths path p := by
  rintro ⟨q, -, p', -, -, hrank⟩
  rw [eq_literals_of_answers hp hmem] at hrank
  exact Pattern.not_outranks_literals hrank

theorem answersNatively_of_dispatch (h : r.dispatch path = .native) : r.AnswersNatively path := by
  intro s uri metadata peer decision delay hs hpath
  unfold Session.request
  rw [hs, hpath, h]

/-- No native route answers for a registered path without braces. -/
theorem Proxies.not_answers_of_mem (h : r.Proxies own paths) {q : String} (hq : q ∈ paths)
    (hplain : Pattern.IsPlain q.toList) : ¬ Answers r.table.routes q.toList p .native := by
  intro hp
  obtain ⟨p', hparse, hmem⟩ := h.holds.mounted q hq
  rw [Pattern.parse_of_isPlain hplain hparse] at hmem
  obtain rfl := eq_literals_of_answers hp hmem
  cases h.holds.sound.eq_of_mem hmem hp.mounted

/-- **When a native route keeps a request.**  Whatever is registered for the proxy over native
    routes: a path that one of them matches has a native route that answers for it, and this route
    goes on answering, with the proxy left alone, unless a registered path matches that is
    preferred to it; then the request goes to the proxy.  A native route without parameters keeps
    its path.  As long as no registered path holds a brace, the native routes keep all that they
    match exactly if none of them matches a registered path. -/
theorem native_unless_taken_over {natives : List String} {steps : List RouterStep} {r₀ r : Router}
    (h₀ : ofNative natives = .ok r₀) (h : steps.foldlM take r₀ = .ok r) :
    (∀ path : String, (∃ n ∈ natives, MatchedBy path n) →
      ∃ n ∈ natives, ∃ p, Pattern.parse n = .ok p ∧
        Answers r₀.table.routes path.toList p .native ∧
        (r.dispatch path = .native ↔
          ¬ TakenOver (steps.flatMap RouterStep.paths) path p) ∧
        (TakenOver (steps.flatMap RouterStep.paths) path p → r.dispatch path = .proxy) ∧
        (r.dispatch path = .native →
          Answers r.table.routes path.toList p .native ∧ r.AnswersNatively path)) ∧
    (∀ n ∈ natives, Pattern.IsPlain n.toList → r.dispatch n = .native) ∧
    ((∀ q ∈ steps.flatMap RouterStep.paths, Pattern.IsPlain q.toList) →
      ((∀ path : String, (∃ n ∈ natives, MatchedBy path n) → r.dispatch path = .native) ↔
        ∀ q ∈ steps.flatMap RouterStep.paths, ¬ ∃ n ∈ natives, MatchedBy q n)) := by
  have hnative := holds_ofNative h₀
  have hr := ((proxies_ofNative h₀).foldlM h).1
  rw [List.nil_append] at hr
  refine ⟨fun path hm => ?_, fun n hn hplain => ?_, fun hplain => ⟨fun hall q hq hm => ?_, ?_⟩⟩
  · obtain ⟨n, hn, p, hparse, hp⟩ := exists_answers hnative hm
    refine ⟨n, hn, p, hparse, hp, ?_⟩
    rcases hr.keeps_or_taken_over hp with ⟨hd, hanswers, hnot⟩ | ⟨hd, htaken⟩
    · refine ⟨⟨fun _ => hnot, fun _ => hd⟩, fun ht => absurd ht hnot, fun _ => ⟨hanswers, ?_⟩⟩
      exact answersNatively_of_dispatch hd
    · have hne : r.dispatch path ≠ .native := by rw [hd]; nofun
      refine ⟨⟨fun hd' => absurd hd' hne, fun hnot => absurd htaken hnot⟩, fun _ => hd, ?_⟩
      exact fun hd' => absurd hd' hne
  · obtain ⟨p, hparse, hmem⟩ := hnative.mounted n hn
    obtain rfl := Pattern.parse_of_isPlain hplain hparse
    have hself : MatchedBy n n := ⟨_, hparse, Pattern.matches_literals_iff.2 rfl⟩
    obtain ⟨-, -, p, -, hp⟩ := exists_answers hnative ⟨n, hn, hself⟩
    rcases hr.keeps_or_taken_over hp with ⟨hd, -⟩ | ⟨-, htaken⟩
    · exact hd
    · exact absurd htaken (not_taken_over_of_literals hp hmem)
  · obtain ⟨n, hn, p, hparse, hp⟩ := exists_answers hnative hm
    rcases hr.keeps_or_taken_over hp with ⟨-, hanswers, -⟩ | ⟨hd, -⟩
    · exact hr.not_answers_of_mem hq (hplain q hq) hanswers
    · rw [hall q hm] at hd; cases hd
  · intro hnone path hm
    obtain ⟨n, hn, p, hparse, hp⟩ := exists_answers hnative hm
    rcases hr.keeps_or_taken_over hp with ⟨hd, -⟩ | ⟨-, q, hq, p', hparse', hm', -⟩
    · exact hd
    · obtain rfl := (hr.matchedBy_iff hq (hplain q hq)).1 ⟨p', hparse', hm'⟩
      exact absurd hm (hnone path hq)

/-! ## A method of a service that is native -/

/-- The pattern that all methods of a service share. -/
def servicePattern : Pattern :=
  [.literal '/', .literal 's', .literal '/', .rest]

/-- The router over the routes of this service. -/
def serving : Router := ⟨⟨[(servicePattern, .native)]⟩, [], false⟩

/-- The router once one method of the service is registered for the proxy. -/
def servingMixed : Router :=
  ⟨⟨[(servicePattern, .native), ("/s/m".toList.map .literal, .proxy)]⟩, ["/s/m"], false⟩

theorem parse_servicePattern : Pattern.parse "/s/\x7b*rest\x7d" = .ok servicePattern := by
  refine Pattern.parse_of_readParts rfl (by decide) ?_ (by decide)
  simp [Pattern.unescape, Pattern.readParts, Pattern.cutParam, Pattern.afterName, Except.map,
    servicePattern]

theorem ofNative_serving : ofNative ["/s/\x7b*rest\x7d"] = .ok serving := by
  have hinsert : (RouteTable.empty : RouteTable Mounted).insert "/s/\x7b*rest\x7d" .native =
      .ok ⟨[(servicePattern, .native)]⟩ := by
    rw [RouteTable.insert, parse_servicePattern]
    rfl
  simp [ofNative, hinsert, Except.map, serving, empty]

theorem isPlain_method : Pattern.IsPlain "/s/m".toList := by
  have htext : "/s/m".toList = ['/', 's', '/', 'm'] := rfl
  rw [htext]
  simp [Pattern.IsPlain, Pattern.IsBrace]

theorem parse_method : Pattern.parse "/s/m" = .ok ("/s/m".toList.map .literal) := by
  refine Pattern.parse_of_readParts rfl (by decide) ?_ (by decide)
  rw [Pattern.unescape_of_isPlain isPlain_method, Pattern.readParts_of_isPlain isPlain_method]

theorem register_serving :
    [RouterStep.register "s" ["m"]].foldlM take serving = .ok servingMixed := by
  have hparts : MethodPath.ofParts "s" "m" = .ok ⟨"s", "m"⟩ := by decide
  have htext : MethodPath.text ⟨"s", "m"⟩ = "/s/m" := by decide
  have hinsert : serving.table.insert "/s/m" .proxy = .ok servingMixed.table := by
    rw [RouteTable.insert, parse_method]
    rfl
  have hmethod : serving.registerMethod "s" "m" = .ok servingMixed := by
    have hnew : serving.registered.contains "/s/m" = false := rfl
    rw [registerMethod, hparts]
    dsimp only
    rw [htext, hnew, hinsert]
    rfl
  simp [take, register, hmethod]

theorem matches_servicePattern {c : Char} : servicePattern.Matches ['/', 's', '/', c] :=
  .literal '/' (.literal 's' (.literal '/' (.rest (List.cons_ne_nil c []))))

theorem taken_over_method : TakenOver ["/s/m"] "/s/m" servicePattern := by
  refine ⟨"/s/m", by simp, _, parse_method, Pattern.matches_literals_iff.2 rfl, ?_⟩
  exact .cons _ (.cons _ (.cons _ (.literalRest 'm')))

theorem not_taken_over_method : ¬ TakenOver ["/s/m"] "/s/n" servicePattern := by
  rintro ⟨q, hq, p, hparse, hm, -⟩
  rw [List.mem_singleton.1 hq, parse_method] at hparse
  cases hparse
  exact absurd (Pattern.matches_literals_iff.1 hm) (by decide)

/-- So the method goes to the proxy, and the others of the service stay where they were. -/
theorem native_unless_taken_over_of_service :
    ∃ r₀ r, ofNative ["/s/\x7b*rest\x7d"] = .ok r₀ ∧
      [RouterStep.register "s" ["m"]].foldlM take r₀ = .ok r ∧
      r.dispatch "/s/m" = .proxy ∧ r.dispatch "/s/n" = .native := by
  have hall := (native_unless_taken_over ofNative_serving register_serving).1
  refine ⟨serving, servingMixed, ofNative_serving, register_serving, ?_, ?_⟩
  · obtain ⟨n, hn, p, hparse, -, -, hproxy, -⟩ :=
      hall "/s/m" ⟨_, List.mem_singleton_self _, _, parse_servicePattern, matches_servicePattern⟩
    rw [List.mem_singleton.1 hn, parse_servicePattern] at hparse
    cases hparse
    exact hproxy taken_over_method
  · obtain ⟨n, hn, p, hparse, -, hnative, -⟩ :=
      hall "/s/n" ⟨_, List.mem_singleton_self _, _, parse_servicePattern, matches_servicePattern⟩
    rw [List.mem_singleton.1 hn, parse_servicePattern] at hparse
    cases hparse
    exact hnative.2 not_taken_over_method

/-- So native routes do not keep all that they answered alone. -/
theorem not_native_of_native :
    ¬ ∀ (natives : List String) (steps : List RouterStep) (r₀ r : Router) (path : String),
      ofNative natives = .ok r₀ → steps.foldlM take r₀ = .ok r → r₀.dispatch path = .native →
        r.dispatch path = .native := by
  intro h
  have hr := ((proxies_ofNative ofNative_serving).foldlM register_serving).1
  have hp : Answers serving.table.routes "/s/m".toList servicePattern .native := by
    refine ⟨List.mem_singleton_self _, matches_servicePattern, fun q b hq _ => ?_⟩
    cases List.mem_singleton.1 hq
    exact Or.inl rfl
  have hbefore : serving.dispatch "/s/m" = .native := by
    rcases (proxies_ofNative ofNative_serving).keeps_or_taken_over hp with ⟨hd, -⟩ | ⟨-, q, hq, -⟩
    · exact hd
    · exact absurd hq List.not_mem_nil
  have hafter := h _ _ _ _ "/s/m" ofNative_serving register_serving hbefore
  rcases hr.keeps_or_taken_over hp with ⟨-, -, hnot⟩ | ⟨hd, -⟩
  · exact hnot taken_over_method
  · rw [hafter] at hd; cases hd

end GrpcRelay.Router
