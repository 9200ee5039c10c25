/-
  Registration — which methods a router takes, and with which error it turns a
  list of them down.

  A method is refused for one reason at most (`Router.Refuses`), and a list of
  methods fails with the error of the first that is refused beside those before
  it.  Good names and new paths are not enough: a path is also read as a
  pattern, and the native routes stand beside it (`Router.Harmless`,
  `Router.registration_exact`).
-/
import GrpcRelay.Proofs.Router.Precedence

namespace GrpcRelay.Router

/-- The path under which a method is registered. -/
def pathOf (service method : String) : String := MethodPath.text ⟨service, method⟩

/-- The patterns that are mounted are those that these texts spell. -/
def Mounts (routes : List (Pattern × Mounted)) (texts : List String) : Prop :=
  ∀ p, p ∈ routes.map Prod.fst ↔ ∃ q ∈ texts, Pattern.parse q = .ok p

/-- Why a method is refused, beside these native routes and registered paths. -/
inductive Refuses (natives registered : List String) (service method : String) :
    RegisterError → Prop
  /-- A name is malformed. -/
  | invalid (e : PathError) (h : MethodPath.ofParts service method = .error e) :
      Refuses natives registered service method (.route (.ofPath e))
  /-- The path was registered before. -/
  | duplicate (hp : (⟨service, method⟩ : MethodPath).Proper)
      (hmem : pathOf service method ∈ registered) :
      Refuses natives registered service method (.route (.duplicateRoute (pathOf service method)))
  /-- The path is no pattern. -/
  | unreadable (e : PatternError) (hp : (⟨service, method⟩ : MethodPath).Proper)
      (hnew : pathOf service method ∉ registered)
      (h : Pattern.parse (pathOf service method) = .error e) :
      Refuses natives registered service method (.pattern e)
  /-- The path cannot be told apart from one that is mounted. -/
  | conflict (p : Pattern) (hp : (⟨service, method⟩ : MethodPath).Proper)
      (hnew : pathOf service method ∉ registered)
      (h : Pattern.parse (pathOf service method) = .ok p)
      (hc : ∃ q ∈ natives ++ registered, ∃ p', Pattern.parse q = .ok p' ∧
        p'.conflicts p = true) :
      Refuses natives registered service method (.pattern .conflict)

/-- No method of a list is refused beside those before it. -/
def Accepts (natives registered : List String) (service : String) (methods : List String) : Prop :=
  ∀ before m after, methods = before ++ m :: after →
    ∀ e, ¬ Refuses natives (registered ++ before.map (pathOf service)) service m e

/-- The names are well formed, and no path occurs twice, in the list or among those that were
    registered before. -/
structure Fits (registered : List String) (service : String) (methods : List String) : Prop where
  proper : ∀ m ∈ methods, (⟨service, m⟩ : MethodPath).Proper
  distinct : (methods.map (pathOf service)).Nodup
  fresh : ∀ m ∈ methods, pathOf service m ∉ registered

/-- A name begins with one of the marks that older patterns gave a meaning to. -/
def BeginsMarked (name : String) : Prop :=
  name.toList.head? = some ':' ∨ name.toList.head? = some '*'

/-- The path is a pattern that matches nothing but itself, and no native route is mounted on it. -/
structure Harmless (natives : List String) (service method : String) : Prop where
  plain : Pattern.IsPlain (pathOf service method).toList
  free : pathOf service method ∉ natives
  service : ¬ BeginsMarked service
  method : ¬ BeginsMarked method

/-- What comes of registering a list of methods beside these native routes and registered paths. -/
structure Registers (r : Router) (natives registered : List String) (service : String)
    (methods : List String) : Prop where
  taken : (∃ r', r.register service methods = .ok r') ↔
    Accepts natives registered service methods
  /-- There are the routes that there were and the new ones; the slash in front may be missing. -/
  routes : ∀ r' path, r.register service methods = .ok r' →
    (r'.hasRoute path = true ↔
      path ∈ registered ++ methods.map (pathOf service) ∨
        "/" ++ path ∈ registered ++ methods.map (pathOf service))
  /-- The error is that of the first method that is refused. -/
  refused : ∀ e, r.register service methods = .error e ↔
    ∃ before m after, methods = before ++ m :: after ∧ Accepts natives registered service before ∧
      Refuses natives (registered ++ before.map (pathOf service)) service m e
  /-- Without braces, good names and new paths are enough only for harmless ones. -/
  plain : (∀ m ∈ methods, (⟨service, m⟩ : MethodPath).Proper →
      Pattern.IsPlain (pathOf service m).toList) →
    ((∃ r', r.register service methods = .ok r') ↔
      Fits registered service methods ∧ ∀ m ∈ methods, Harmless natives service m)
  harmless : (∀ m ∈ methods, (⟨service, m⟩ : MethodPath).Proper → Harmless natives service m) →
    (∀ e, r.register service methods ≠ .error (.pattern e)) ∧
      ((∃ r', r.register service methods = .ok r') ↔ Fits registered service methods)

variable {natives registered texts : List String} {own : List (Pattern × Mounted)}
  {tab : RouteTable Mounted} {a : Mounted} {r r' : Router} {service m path : String}
  {methods : List String} {e : RegisterError}

/-! ## One method -/

theorem mounts_of_holds (h : tab.Holds own a texts) (hown : Mounts own natives) :
    Mounts tab.routes (natives ++ texts) := by
  intro p
  constructor
  · intro hp
    obtain ⟨⟨p, b⟩, hmem, rfl⟩ := List.mem_map.1 hp
    rcases h.routes p b hmem with hb | ⟨-, q, hq, hparse⟩
    · obtain ⟨q, hq, hparse⟩ := (hown p).1 (List.mem_map_of_mem hb)
      exact ⟨q, List.mem_append_left _ hq, hparse⟩
    · exact ⟨q, List.mem_append_right _ hq, hparse⟩
  · rintro ⟨q, hq, hparse⟩
    rcases List.mem_append.1 hq with hq | hq
    · obtain ⟨route, hroute, rfl⟩ := List.mem_map.1 ((hown p).2 ⟨q, hq, hparse⟩)
      exact List.mem_map_of_mem (h.kept route hroute)
    · obtain ⟨p', hparse', hmem⟩ := h.mounted q hq
      rw [hparse] at hparse'
      cases hparse'
      exact List.mem_map_of_mem hmem

theorem mounts_ofNative (h : ofNative natives = .ok r) : Mounts r.table.routes natives := by
  have hnil : Mounts [] [] := by simp [Mounts]
  simpa using mounts_of_holds (holds_ofNative h) hnil

theorem any_conflicts_iff {p : Pattern} (h : Mounts tab.routes texts) :
    (tab.routes.any fun route => route.1.conflicts p) = true ↔
      ∃ q ∈ texts, ∃ p', Pattern.parse q = .ok p' ∧ p'.conflicts p = true := by
  rw [List.any_eq_true]
  constructor
  · rintro ⟨route, hroute, hc⟩
    obtain ⟨q, hq, hparse⟩ := (h route.1).1 (List.mem_map_of_mem hroute)
    exact ⟨q, hq, route.1, hparse, hc⟩
  · rintro ⟨q, hq, p', hparse, hc⟩
    obtain ⟨route, hroute, rfl⟩ := List.mem_map.1 ((h p').2 ⟨q, hq, hparse⟩)
    exact ⟨route, hroute, hc⟩

/-- A text that is not mounted is no pattern, or one that cannot be told apart from another. -/
theorem insert_eq_error_iff {e : PatternError} (h : Mounts tab.routes texts) :
    tab.insert path a = .error e ↔
      Pattern.parse path = .error e ∨ ∃ p, Pattern.parse path = .ok p ∧ e = .conflict ∧
        ∃ q ∈ texts, ∃ p', Pattern.parse q = .ok p' ∧ p'.conflicts p = true := by
  unfold RouteTable.insert
  cases hparse : Pattern.parse path with
  | error e' => simp
  | ok p =>
    dsimp only
    have hconflicts := any_conflicts_iff (p := p) h
    split
    · next hany =>
      constructor
      · intro he
        cases he
        exact Or.inr ⟨p, rfl, rfl, hconflicts.1 hany⟩
      · rintro (he | ⟨p', -, rfl, -⟩)
        · cases he
        · rfl
    · next hnone =>
      constructor
      · intro he
        cases he
      · rintro (he | ⟨p', he, -, hc⟩)
        · cases he
        · cases he
          exact absurd (hconflicts.2 hc) hnone

theorem registerMethod_eq_error_iff :
    r.registerMethod service m = .error e ↔
      (∃ e', MethodPath.ofParts service m = .error e' ∧ e = .route (.ofPath e')) ∨
        (⟨service, m⟩ : MethodPath).Proper ∧
          (pathOf service m ∈ r.registered ∧ e = .route (.duplicateRoute (pathOf service m)) ∨
            pathOf service m ∉ r.registered ∧
              ∃ e', r.table.insert (pathOf service m) .proxy = .error e' ∧ e = .pattern e') := by
  unfold Router.registerMethod
  cases hparts : MethodPath.ofParts service m with
  | error e' =>
    have hp : ¬ (⟨service, m⟩ : MethodPath).Proper := by
      intro hp
      rw [MethodPath.ofParts_eq_ok_iff.2 ⟨rfl, hp⟩] at hparts
      cases hparts
    simp [hp, eq_comm]
  | ok q =>
    obtain ⟨rfl, hp⟩ := MethodPath.ofParts_eq_ok_iff.1 hparts
    dsimp only
    by_cases hmem : pathOf service m ∈ r.registered
    · have hcontains := List.contains_iff_mem.2 hmem
      unfold pathOf at hmem hcontains ⊢
      simp [hp, hmem, eq_comm]
    · cases hinsert : r.table.insert (pathOf service m) .proxy with
      | error e' =>
        unfold pathOf at hmem hinsert ⊢
        simp [hp, hmem, hinsert, eq_comm]
      | ok t =>
        unfold pathOf at hmem hinsert ⊢
        simp [hp, hmem, hinsert]

theorem Proxies.registerMethod_eq_error_iff (h : r.Proxies own registered)
    (hown : Mounts own natives) :
    r.registerMethod service m = .error e ↔ Refuses natives registered service m e := by
  have hinsert {e : PatternError} : r.table.insert (pathOf service m) .proxy = .error e ↔ _ :=
    insert_eq_error_iff (mounts_of_holds h.holds hown)
  rw [Router.registerMethod_eq_error_iff, h.registered]
  constructor
  · rintro (⟨e', hparts, rfl⟩ | ⟨hp, ⟨hmem, rfl⟩ | ⟨hnew, e', he, rfl⟩⟩)
    · exact .invalid e' hparts
    · exact .duplicate hp hmem
    · rcases hinsert.1 he with hparse | ⟨p, hparse, rfl, hc⟩
      · exact .unreadable e' hp hnew hparse
      · exact .conflict p hp hnew hparse hc
  · intro hr
    cases hr with
    | invalid e' hparts => exact Or.inl ⟨e', hparts, rfl⟩
    | duplicate hp hmem => exact Or.inr ⟨hp, Or.inl ⟨hmem, rfl⟩⟩
    | unreadable e' hp hnew hparse =>
      exact Or.inr ⟨hp, Or.inr ⟨hnew, e', hinsert.2 (Or.inl hparse), rfl⟩⟩
    | conflict p hp hnew hparse hc =>
      have he := hinsert.2 (Or.inr ⟨p, hparse, rfl, hc⟩)
      exact Or.inr ⟨hp, Or.inr ⟨hnew, .conflict, he, rfl⟩⟩

theorem Proxies.not_refuses (h : r.Proxies own registered) (hown : Mounts own natives)
    (hm : r.registerMethod service m = .ok r') (e : RegisterError) :
    ¬ Refuses natives registered service m e := by
  intro he
  rw [(h.registerMethod_eq_error_iff hown).2 he] at hm
  cases hm

/-! ## A list of methods -/

theorem accepts_nil : Accepts natives registered service [] := by
  intro before m after heq
  simp at heq

theorem accepts_cons :
    Accepts natives registered service (m :: methods) ↔
      (∀ e, ¬ Refuses natives registered service m e) ∧
        Accepts natives (registered ++ [pathOf service m]) service methods := by
  constructor
  · intro h
    refine ⟨?_, ?_⟩
    · simpa using h [] m methods rfl
    · rintro before m' after rfl
      simpa using h (m :: before) m' after rfl
  · rintro ⟨hm, hall⟩ before m' after heq
    cases before with
    | nil =>
      cases heq
      simpa using hm
    | cons m₁ before =>
      cases heq
      simpa using hall before m' after rfl

theorem Proxies.register_isOk_iff (h : r.Proxies own registered) (hown : Mounts own natives) :
    (∃ r', r.register service methods = .ok r') ↔
      Accepts natives registered service methods := by
  induction methods generalizing r registered with
  | nil => exact ⟨fun _ => accepts_nil, fun _ => ⟨r, rfl⟩⟩
  | cons m methods ih =>
    rw [accepts_cons, Router.register, List.foldlM_cons]
    cases hm : r.registerMethod service m with
    | error e =>
      constructor
      · rintro ⟨r', hr'⟩
        cases hr'
      · rintro ⟨hnone, -⟩
        exact absurd ((h.registerMethod_eq_error_iff hown).1 hm) (hnone e)
    | ok r₁ =>
      have hnone := h.not_refuses hown hm
      have hrest := ih (h.registerMethod hm).1
      exact ⟨fun hr' => ⟨hnone, hrest.1 hr'⟩, fun hall => hrest.2 hall.2⟩

/-- The error is that of the first method that is refused. -/
theorem Proxies.register_eq_error_iff (h : r.Proxies own registered) (hown : Mounts own natives) :
    r.register service methods = .error e ↔
      ∃ before m after, methods = before ++ m :: after ∧
        Accepts natives registered service before ∧
        Refuses natives (registered ++ before.map (pathOf service)) service m e := by
  induction methods generalizing r registered with
  | nil =>
    constructor
    · intro he
      cases he
    · rintro ⟨before, m, after, heq, -⟩
      simp at heq
  | cons m methods ih =>
    rw [Router.register, List.foldlM_cons]
    cases hm : r.registerMethod service m with
    | error e' =>
      have hm' := (h.registerMethod_eq_error_iff hown).1 hm
      constructor
      · intro he
        cases he
        exact ⟨[], m, methods, rfl, accepts_nil, by simpa using hm'⟩
      · rintro ⟨before, m₁, after, heq, hbefore, he⟩
        cases before with
        | nil =>
          cases heq
          rw [List.map_nil, List.append_nil] at he
          rw [(h.registerMethod_eq_error_iff hown).2 he] at hm
          cases hm
          rfl
        | cons m₂ before =>
          cases heq
          exact absurd hm' ((accepts_cons.1 hbefore).1 e')
    | ok r₁ =>
      have hnone := h.not_refuses hown hm
      have hrest := ih (h.registerMethod hm).1
      constructor
      · intro he
        obtain ⟨before, m₁, after, rfl, hbefore, he'⟩ := hrest.1 he
        refine ⟨m :: before, m₁, after, rfl, accepts_cons.2 ⟨hnone, hbefore⟩, ?_⟩
        simpa [pathOf] using he'
      · rintro ⟨before, m₁, after, heq, hbefore, he⟩
        cases before with
        | nil =>
          cases heq
          rw [List.map_nil, List.append_nil] at he
          exact absurd he (hnone e)
        | cons m₂ before =>
          cases heq
          refine hrest.2 ⟨before, m₁, after, rfl, (accepts_cons.1 hbefore).2, ?_⟩
          simpa [pathOf] using he

/-! ## Good names and new paths -/

theorem hasOldSyntax_pathOf (hp : (⟨service, m⟩ : MethodPath).Proper) :
    Pattern.hasOldSyntax (pathOf service m).toList = true ↔
      BeginsMarked service ∨ BeginsMarked m := by
  have hpieces : Text.pieces '/' (pathOf service m).toList = [[], service.toList, m.toList] := by
    rw [pathOf, MethodPath.toList_text, Text.pieces, if_pos rfl,
      Text.pieces_append hp.service.slash_not_mem,
      Text.pieces_of_not_mem hp.method.slash_not_mem]
  simp [Pattern.hasOldSyntax, hpieces, BeginsMarked]

theorem head?_pathOf : (pathOf service m).toList.head? = some '/' := by
  rw [pathOf, MethodPath.toList_text]
  rfl

theorem Harmless.parse (h : Harmless natives service m)
    (hp : (⟨service, m⟩ : MethodPath).Proper) :
    Pattern.parse (pathOf service m) = .ok ((pathOf service m).toList.map .literal) := by
  refine Pattern.parse_literals head?_pathOf ?_ h.plain
  rw [← Bool.not_eq_true, hasOldSyntax_pathOf hp]
  exact not_or.2 ⟨h.service, h.method⟩

/-- A harmless path that is new is not refused. -/
theorem Harmless.not_refuses (h : Harmless natives service m)
    (hp : (⟨service, m⟩ : MethodPath).Proper) (hnew : pathOf service m ∉ registered) :
    ¬ Refuses natives registered service m e := by
  intro he
  cases he with
  | invalid e' hparts =>
    rw [MethodPath.ofParts_eq_ok_iff.2 ⟨rfl, hp⟩] at hparts
    cases hparts
  | duplicate _ hmem => exact hnew hmem
  | unreadable e' _ _ hparse =>
    rw [h.parse hp] at hparse
    cases hparse
  | conflict p _ _ hparse hc =>
    rw [h.parse hp] at hparse
    cases hparse
    obtain ⟨q, hq, p', hparse', hc⟩ := hc
    rw [Pattern.eq_literals_of_conflicts hc] at hparse'
    rw [String.toList_inj.1 (Pattern.eq_of_parse_literals hparse' h.plain)] at hq
    rcases List.mem_append.1 hq with hq | hq
    · exact h.free hq
    · exact hnew hq

/-- Without braces in the path, a method passes exactly if its names are well formed and its path
    is new and harmless. -/
theorem not_refuses_iff
    (hplain : (⟨service, m⟩ : MethodPath).Proper → Pattern.IsPlain (pathOf service m).toList) :
    (∀ e, ¬ Refuses natives registered service m e) ↔
      (⟨service, m⟩ : MethodPath).Proper ∧ pathOf service m ∉ registered ∧
        Harmless natives service m := by
  constructor
  · intro h
    have hp : (⟨service, m⟩ : MethodPath).Proper := by
      cases hparts : MethodPath.ofParts service m with
      | error e => exact absurd (.invalid e hparts) (h _)
      | ok path =>
        obtain ⟨rfl, hp⟩ := MethodPath.ofParts_eq_ok_iff.1 hparts
        exact hp
    have hnew : pathOf service m ∉ registered := fun hmem => h _ (.duplicate hp hmem)
    have hold : ¬ (BeginsMarked service ∨ BeginsMarked m) := by
      rw [← hasOldSyntax_pathOf hp]
      intro hold
      exact h _ (.unreadable _ hp hnew (Pattern.parse_of_hasOldSyntax head?_pathOf hold))
    have hold' := not_or.1 hold
    rw [← hasOldSyntax_pathOf hp, Bool.not_eq_true] at hold
    have hparse := Pattern.parse_literals head?_pathOf hold (hplain hp)
    refine ⟨hp, hnew, hplain hp, fun hmem => ?_, hold'.1, hold'.2⟩
    have hself := Pattern.conflicts_self ((pathOf service m).toList.map .literal)
    exact h _ (.conflict _ hp hnew hparse ⟨_, List.mem_append_left _ hmem, _, hparse, hself⟩)
  · rintro ⟨hp, hnew, hh⟩ e
    exact hh.not_refuses hp hnew

theorem fits_cons :
    Fits registered service (m :: methods) ↔
      (⟨service, m⟩ : MethodPath).Proper ∧ pathOf service m ∉ registered ∧
        Fits (registered ++ [pathOf service m]) service methods := by
  constructor
  · rintro ⟨hproper, hdistinct, hfresh⟩
    rw [List.map_cons, List.nodup_cons] at hdistinct
    obtain ⟨hp, hproper⟩ := List.forall_mem_cons.1 hproper
    obtain ⟨hnew, hfresh⟩ := List.forall_mem_cons.1 hfresh
    refine ⟨hp, hnew, hproper, hdistinct.2, fun m' hm' hmem => ?_⟩
    rcases List.mem_append.1 hmem with hmem | hmem
    · exact hfresh m' hm' hmem
    · exact hdistinct.1 (List.mem_singleton.1 hmem ▸ List.mem_map_of_mem hm')
  · rintro ⟨hp, hnew, hproper, hdistinct, hfresh⟩
    refine ⟨List.forall_mem_cons.2 ⟨hp, hproper⟩, ?_, List.forall_mem_cons.2 ⟨hnew, ?_⟩⟩
    · rw [List.map_cons, List.nodup_cons]
      refine ⟨fun hmem => ?_, hdistinct⟩
      obtain ⟨m', hm', heq⟩ := List.mem_map.1 hmem
      exact hfresh m' hm' (by simp [heq])
    · exact fun m' hm' hmem => hfresh m' hm' (List.mem_append_left _ hmem)

theorem accepts_iff (hplain : ∀ m ∈ methods, (⟨service, m⟩ : MethodPath).Proper →
      Pattern.IsPlain (pathOf service m).toList) :
    Accepts natives registered service methods ↔
      Fits registered service methods ∧ ∀ m ∈ methods, Harmless natives service m := by
  induction methods generalizing registered with
  | nil =>
    exact ⟨fun _ => ⟨⟨nofun, List.nodup_nil, nofun⟩, nofun⟩, fun _ => accepts_nil⟩
  | cons m methods ih =>
    obtain ⟨hm, hrest⟩ := List.forall_mem_cons.1 hplain
    rw [accepts_cons, fits_cons, not_refuses_iff hm, ih hrest, List.forall_mem_cons]
    tauto

/-! ## The registered paths -/

theorem hasRoute_eq_true_iff :
    r.hasRoute path = true ↔ ∃ p, MethodPath.parse path = .ok p ∧ p.text ∈ r.registered := by
  unfold hasRoute
  cases MethodPath.parse path with
  | error e => simp
  | ok p => simp

/-- The slash in front of a path may be missing where it is looked up. -/
theorem Proxies.hasRoute_iff_or (h : r.Proxies own registered) :
    r.hasRoute path = true ↔ path ∈ registered ∨ "/" ++ path ∈ registered := by
  by_cases hs : path.toList.head? = some '/'
  · rw [h.hasRoute_iff hs]
    constructor
    · exact Or.inl
    · rintro (hmem | hmem)
      · exact hmem
      · obtain ⟨p, hp, htext⟩ := h.proper _ hmem
        exact absurd htext (hp.text_ne_slash_append hs)
  · have hslash : ("/" ++ path).toList.head? = some '/' := by simp
    have hsame : r.hasRoute path = true ↔ r.hasRoute ("/" ++ path) = true := by
      simp only [hasRoute_eq_true_iff, MethodPath.parse_slash_append hs]
    rw [hsame, h.hasRoute_iff hslash]
    constructor
    · exact Or.inr
    · rintro (hmem | hmem)
      · obtain ⟨p, hp, rfl⟩ := h.proper _ hmem
        exact absurd (by rw [MethodPath.toList_text]; rfl) hs
      · exact hmem

/-! ## What comes of a registration -/

theorem Proxies.not_pattern (h : r.Proxies own registered) (hown : Mounts own natives)
    (hall : ∀ m ∈ methods, (⟨service, m⟩ : MethodPath).Proper → Harmless natives service m)
    (e : PatternError) : r.register service methods ≠ .error (.pattern e) := by
  intro he
  obtain ⟨before, m, after, rfl, -, he⟩ := (h.register_eq_error_iff hown).1 he
  have hm := hall m (by simp)
  cases he with
  | unreadable _ hp hnew hparse => exact (hm hp).not_refuses hp hnew (.unreadable _ hp hnew hparse)
  | conflict p hp hnew hparse hc =>
    exact (hm hp).not_refuses hp hnew (.conflict p hp hnew hparse hc)

theorem Proxies.registers (h : r.Proxies own registered) (hown : Mounts own natives) :
    r.Registers natives registered service methods where
  taken := h.register_isOk_iff hown
  routes r' path hr' := (h.register hr').1.hasRoute_iff_or
  refused e := h.register_eq_error_iff hown
  plain hplain := (h.register_isOk_iff hown).trans (accepts_iff hplain)
  harmless hall := by
    refine ⟨h.not_pattern hown hall, ?_⟩
    rw [h.register_isOk_iff hown, accepts_iff fun m hm hp => (hall m hm hp).plain]
    constructor
    · exact And.left
    · exact fun hfits => ⟨hfits, fun m hm => hall m hm (hfits.proper m hm)⟩

/-- **Registration.**  Over any native routes and after any steps, a list of methods is taken
    exactly if none is refused beside those before it, and then the router has the routes that it
    had and the new ones.  Otherwise the error is that of the first method that is refused: that a
    name is malformed, that the path was registered before, or else that the path cannot be
    mounted.  Where no path holds a brace, the list is taken exactly if the names are well formed,
    the paths new, and all of them harmless beside the native routes; and where all are harmless,
    no path fails to be mounted. -/
theorem registration_exact {natives : List String} {steps : List RouterStep} {r₀ r : Router}
    (h₀ : ofNative natives = .ok r₀) (h : steps.foldlM take r₀ = .ok r) (service : String)
    (methods : List String) :
    r.Registers natives (steps.flatMap RouterStep.paths) service methods := by
  obtain ⟨hr, -⟩ := (proxies_ofNative h₀).foldlM h
  rw [List.nil_append] at hr
  exact hr.registers (mounts_ofNative h₀)

/-- A method beside the native route of its service, and the same method twice. -/
theorem registration_exact_of_service :
    ∃ r₀ r', ofNative ["/s/\x7b*rest\x7d"] = .ok r₀ ∧ r₀.register "s" ["m"] = .ok r' ∧
      r'.hasRoute "s/m" = true ∧
      r₀.register "s" ["m", "m"] = .error (.route (.duplicateRoute "/s/m")) := by
  have hnone : ([] : List RouterStep).foldlM take serving = .ok serving := rfl
  have hone := registration_exact ofNative_serving hnone "s" ["m"]
  have htwo := registration_exact ofNative_serving hnone "s" ["m", "m"]
  have hparts : MethodPath.ofParts "s" "m" = .ok ⟨"s", "m"⟩ := by decide
  have hp := (MethodPath.ofParts_eq_ok_iff.1 hparts).2
  have hharmless : Harmless ["/s/\x7b*rest\x7d"] "s" "m" :=
    ⟨isPlain_method, by decide, by simp [BeginsMarked], by simp [BeginsMarked]⟩
  have hfits : Fits [] "s" ["m"] := ⟨by simpa using hp, by simp, nofun⟩
  obtain ⟨r', hr'⟩ := (hone.harmless (by simpa using fun _ => hharmless)).2.2 hfits
  refine ⟨serving, r', ofNative_serving, hr', ?_, ?_⟩
  · exact (hone.routes r' "s/m" hr').2 (Or.inr (by decide))
  · refine (htwo.refused _).2 ⟨["m"], "m", [], rfl, hone.taken.1 ⟨r', hr'⟩, ?_⟩
    exact .duplicate hp (by decide)

/-- Good names and new paths are not enough. -/
theorem not_taken_iff_fits :
    ¬ ∀ (natives : List String) (steps : List RouterStep) (r₀ r : Router) (service : String)
      (methods : List String), ofNative natives = .ok r₀ → steps.foldlM take r₀ = .ok r →
        ((∃ r', r.register service methods = .ok r') ↔
          Fits (steps.flatMap RouterStep.paths) service methods) := by
  intro h
  have hparts : MethodPath.ofParts "a" ":b" = .ok ⟨"a", ":b"⟩ := by decide
  have hp := (MethodPath.ofParts_eq_ok_iff.1 hparts).2
  have hfits : Fits [] "a" [":b"] := ⟨by simpa using hp, by simp, nofun⟩
  have herror : empty.register "a" [":b"] = .error (.pattern .oldSyntax) := rfl
  obtain ⟨r', hr'⟩ := (h [] [] empty empty "a" [":b"] rfl rfl).2 hfits
  rw [herror] at hr'
  cases hr'

end GrpcRelay.Router
