/-
  Keys — the text of a method stands for this method alone, so a router may keep
  the texts in place of the methods.

  Whatever is done to a router, the registered paths are the texts of the
  methods that were registered, no method occurs twice (`Router.Keeps`), and a
  look-up by path or a second registration finds a method exactly if it is among
  them (`Router.paths_are_keys`).
-/
import GrpcRelay.Proofs.Router.Registration

namespace GrpcRelay

/-- Methods that come from reading a path or from checking two names. -/
inductive MethodPath.IsMade (p : MethodPath) : Prop
  | read {path : String} (h : parse path = .ok p)
  | built {service method : String} (h : ofParts service method = .ok p)

theorem MethodPath.isMade_iff {p : MethodPath} : p.IsMade ↔ p.Proper := by
  constructor
  · intro h
    cases h with
    | read h => exact proper_of_parse h
    | built h =>
      obtain ⟨rfl, hp⟩ := ofParts_eq_ok_iff.1 h
      exact hp
  · intro h
    exact .read h.parse_text

/-- The methods that a step registers. -/
def RouterStep.methods : RouterStep → List MethodPath
  | register service methods => methods.map fun m => ⟨service, m⟩
  | transparent => []

namespace Router

/-- The router knows these methods, each by its text. -/
structure Keeps (r : Router) (methods : List MethodPath) : Prop where
  registered : r.registered = methods.map MethodPath.text
  proper : ∀ p ∈ methods, p.Proper
  distinct : methods.Nodup

/-- A path finds the method that is read from it, and a method is registered once. -/
structure Finds (r : Router) (methods : List MethodPath) : Prop where
  route : ∀ path, r.hasRoute path = true ↔ ∃ p ∈ methods, MethodPath.parse path = .ok p
  duplicate : ∀ service method path,
    r.registerMethod service method = .error (.route (.duplicateRoute path)) ↔
      ⟨service, method⟩ ∈ methods ∧ path = MethodPath.text ⟨service, method⟩

variable {r r' : Router} {methods : List MethodPath} {p : MethodPath}
  {service method path : String}

/-! ## What a registration adds -/

theorem Keeps.mem_registered_iff (h : r.Keeps methods) (hp : p.Proper) :
    p.text ∈ r.registered ↔ p ∈ methods := by
  rw [h.registered]
  constructor
  · intro hmem
    obtain ⟨q, hq, htext⟩ := List.mem_map.1 hmem
    rwa [(hp.text_inj (h.proper q hq)).2 htext.symm]
  · exact List.mem_map_of_mem

theorem Keeps.registerMethod (h : r.Keeps methods)
    (hr : r.registerMethod service method = .ok r') :
    r'.Keeps (methods ++ [⟨service, method⟩]) := by
  obtain ⟨hp, hnew, table, -, rfl⟩ := registerMethod_eq_ok hr
  refine ⟨?_, ?_, ?_⟩
  · rw [h.registered]
    simp
  · simpa [or_imp, forall_and] using ⟨h.proper, hp⟩
  · refine List.Nodup.append h.distinct (List.nodup_singleton _) ?_
    rw [List.disjoint_singleton]
    exact fun hmem => hnew ((h.mem_registered_iff hp).2 hmem)

theorem Keeps.take {step : RouterStep} (h : r.Keeps methods) (hr : r.take step = .ok r') :
    r'.Keeps (methods ++ step.methods) := by
  cases step with
  | register service names =>
    rw [RouterStep.methods, List.map_eq_flatMap]
    exact RouteTable.collects_foldlM (P := Keeps) (fun _ _ _ _ h hm => h.registerMethod hm) h hr
  | transparent =>
    cases hr
    rw [RouterStep.methods, List.append_nil]
    exact ⟨h.registered, h.proper, h.distinct⟩

theorem keeps_ofNative {natives : List String} (h : ofNative natives = .ok r) : r.Keeps [] :=
  ⟨(proxies_ofNative h).registered, nofun, List.nodup_nil⟩

/-! ## Look-ups -/

theorem Keeps.hasRoute_iff (h : r.Keeps methods) :
    r.hasRoute path = true ↔ ∃ p ∈ methods, MethodPath.parse path = .ok p := by
  rw [hasRoute_eq_true_iff]
  constructor
  · rintro ⟨p, hp, hmem⟩
    exact ⟨p, (h.mem_registered_iff (MethodPath.proper_of_parse hp)).1 hmem, hp⟩
  · rintro ⟨p, hmem, hp⟩
    exact ⟨p, hp, (h.mem_registered_iff (h.proper p hmem)).2 hmem⟩

theorem Keeps.duplicate_iff (h : r.Keeps methods) :
    r.registerMethod service method = .error (.route (.duplicateRoute path)) ↔
      ⟨service, method⟩ ∈ methods ∧ path = MethodPath.text ⟨service, method⟩ := by
  rw [registerMethod_eq_error_iff]
  constructor
  · rintro (⟨e, -, he⟩ | ⟨hp, ⟨hmem, he⟩ | ⟨-, e, -, he⟩⟩)
    · cases e <;> cases he
    · cases he
      exact ⟨(h.mem_registered_iff hp).1 hmem, rfl⟩
    · cases he
  · rintro ⟨hmem, rfl⟩
    have hp := h.proper _ hmem
    exact Or.inr ⟨hp, Or.inl ⟨(h.mem_registered_iff hp).2 hmem, rfl⟩⟩

theorem Keeps.finds (h : r.Keeps methods) : r.Finds methods :=
  ⟨fun _ => h.hasRoute_iff, fun _ _ _ => h.duplicate_iff⟩

/-- **Paths are keys.**  A path is read exactly if it is two parts with a slash between them, and
    maybe one in front; two names make a method exactly if they are such parts.  What is read or
    made is read back from its text, so methods are equal exactly if their texts are, and a path
    is read alike with a slash in front and without, but for the path that an error quotes.  Over
    any native routes and after any steps, a router therefore keeps the methods that were
    registered, none of them twice, and finds just these. -/
theorem paths_are_keys :
    (∀ path service method, MethodPath.parse path = .ok ⟨service, method⟩ ↔
      (path = service ++ "/" ++ method ∨ path = "/" ++ service ++ "/" ++ method) ∧
        MethodPath.IsPart service.toList ∧ MethodPath.IsPart method.toList) ∧
    (∀ service method p, MethodPath.ofParts service method = .ok p ↔
      p = ⟨service, method⟩ ∧
        MethodPath.IsPart service.toList ∧ MethodPath.IsPart method.toList) ∧
    (∀ p : MethodPath, p.IsMade → MethodPath.parse p.text = .ok p) ∧
    (∀ p q : MethodPath, p.IsMade → q.IsMade → (p = q ↔ p.text = q.text)) ∧
    (∀ path : String, path.toList.head? ≠ some '/' →
      MethodPath.parse ("/" ++ path) = MethodPath.parse path ∨
        (MethodPath.parse path = .error (.noSeparator path) ∧
          MethodPath.parse ("/" ++ path) = .error (.noSeparator ("/" ++ path)))) ∧
    (∀ (natives : List String) (steps : List RouterStep) (r₀ r : Router),
      ofNative natives = .ok r₀ → steps.foldlM take r₀ = .ok r →
        r.Keeps (steps.flatMap RouterStep.methods) ∧
          r.Finds (steps.flatMap RouterStep.methods)) := by
  refine ⟨fun _ _ _ => MethodPath.parse_eq_ok_iff_or, fun service method p => ?_,
    fun p hp => (MethodPath.isMade_iff.1 hp).parse_text,
    fun p q hp hq => (MethodPath.isMade_iff.1 hp).text_inj (MethodPath.isMade_iff.1 hq),
    fun _ => MethodPath.parse_slash_append_cases, fun natives steps r₀ r h₀ h => ?_⟩
  · rw [MethodPath.ofParts_eq_ok_iff]
    refine and_congr_right ?_
    rintro rfl
    exact ⟨fun hp => ⟨hp.service, hp.method⟩, fun hp => ⟨hp.1, hp.2⟩⟩
  · have hkeeps : r.Keeps (steps.flatMap RouterStep.methods) := by
      simpa using RouteTable.collects_foldlM (P := Keeps) (fun _ _ _ _ h hr => h.take hr)
        (keeps_ofNative h₀) h
    exact ⟨hkeeps, hkeeps.finds⟩

/-- A method that was registered beside a native route is found without the slash in front, and
    is not registered again; another method of its service has another text. -/
theorem paths_are_keys_of_service :
    MethodPath.parse "/s/m" = .ok ⟨"s", "m"⟩ ∧
      MethodPath.text ⟨"s", "m"⟩ ≠ MethodPath.text ⟨"s", "n"⟩ ∧
      MethodPath.parse ("/" ++ "s/m") = MethodPath.parse "s/m" ∧
      servingMixed.hasRoute "s/m" = true ∧
      servingMixed.registerMethod "s" "m" = .error (.route (.duplicateRoute "/s/m")) := by
  obtain ⟨-, -, hback, htext, hslash, hrouter⟩ := paths_are_keys
  have hm : (⟨"s", "m"⟩ : MethodPath).IsMade := .built (by decide : MethodPath.ofParts "s" "m" = _)
  have hn : (⟨"s", "n"⟩ : MethodPath).IsMade := .read (by decide : MethodPath.parse "s/n" = _)
  have hread : MethodPath.parse "s/m" = .ok ⟨"s", "m"⟩ := by decide
  obtain ⟨-, hfinds⟩ := hrouter _ _ serving servingMixed ofNative_serving register_serving
  refine ⟨hback _ hm, ?_, ?_, (hfinds.route _).2 ⟨_, .head _, hread⟩,
    (hfinds.duplicate _ _ _).2 ⟨.head _, rfl⟩⟩
  · intro heq
    exact absurd ((htext _ _ hm hn).2 heq) (by decide)
  · rcases hslash "s/m" (by decide) with h | ⟨h, -⟩
    · exact h
    · rw [hread] at h
      cases h

end Router

end GrpcRelay
