/-
  Routing — where the gateway sends a call, by the texts of its environment.

  A host in the list of backends is put in lower case when the list is read,
  and the host of a call when it is looked up, so the two agree exactly if they
  are equal but for their case (`SameHost`).  The last entry that agrees decides,
  then the default (`Directs`).  So calls whose authorities differ in case or in
  their ports go the same way (`routed_by_host`).
-/
import GrpcRelay.Proofs.Authority
import GrpcRelay.Proofs.Gateway.Backends
import GrpcRelay.Proofs.Gateway.Policy

namespace GrpcRelay.Gateway

open Text

/-! ## The environment -/

/-- The text of a variable; one that is not set has none. -/
def textOf (lookup : String → Option String) (name : String) : List Char :=
  ((lookup name).getD "").toList

section Environment

variable (lookup : String → Option String)

/-- A service begins with one of the prefixes that the environment lists. -/
def Bars (service : String) : Prop :=
  ∃ item ∈ (textOf lookup "GATEWAY_BLOCKED_PREFIXES").splitOn ',',
    isBlankText item = false ∧ trim item <+: service.toList

/-- The environment names a default backend. -/
def NamesDefault (uri : String) : Prop :=
  isBlankText (textOf lookup "GATEWAY_DEFAULT_BACKEND") = false ∧
    uri = .ofList (trim (textOf lookup "GATEWAY_DEFAULT_BACKEND"))

/-- The environment lists these backends. -/
def ListsBackends (bs : List (String × String)) : Prop :=
  Settings.Writes (textOf lookup "GATEWAY_BACKENDS") bs

end Environment

variable {lookup : String → Option String} {settings : Settings} {d : Director}
  {bs : List (String × String)} {c c' : CallContext} {host host' service uri : String}

theorem ofLookup_eq_ok (h : Settings.ofLookup lookup = .ok settings) :
    Settings.parseBackends ((lookup "GATEWAY_BACKENDS").getD "") = .ok settings.backends ∧
      settings.defaultBackend = (lookup "GATEWAY_DEFAULT_BACKEND").bind Settings.parseDefault ∧
      settings.blockedPrefixes =
        (Settings.items (textOf lookup "GATEWAY_BLOCKED_PREFIXES")).map .ofList := by
  unfold Settings.ofLookup at h
  dsimp only at h
  split at h
  · cases h
  · split at h
    · cases h
    · next hbackends =>
      cases h
      exact ⟨hbackends, rfl, rfl⟩

theorem blocks_iff (h : Settings.ofLookup lookup = .ok settings) :
    settings.Blocks service ↔ Bars lookup service := by
  obtain ⟨-, -, hprefixes⟩ := ofLookup_eq_ok h
  rw [Settings.Blocks, hprefixes, Settings.items, pieces_eq_splitOn]
  constructor
  · rintro ⟨p, hp, hstart⟩
    obtain ⟨s, hs, rfl⟩ := List.mem_map.1 hp
    obtain ⟨hs, hne⟩ := List.mem_filter.1 hs
    obtain ⟨item, hitem, rfl⟩ := List.mem_map.1 hs
    rw [decide_eq_true_iff, ne_eq, trim_eq_nil_iff, Bool.not_eq_true] at hne
    rw [String.toList_ofList] at hstart
    exact ⟨item, hitem, hne, hstart⟩
  · rintro ⟨item, hitem, hblank, hstart⟩
    have hne : trim item ≠ [] := (tight_trim hblank).ne_nil
    refine ⟨.ofList (trim item), List.mem_map_of_mem ?_, ?_⟩
    · exact List.mem_filter.2 ⟨List.mem_map_of_mem hitem, by simpa using hne⟩
    · rwa [String.toList_ofList]

theorem parseDefault_eq_some_iff {text : String} :
    Settings.parseDefault text = some uri ↔
      isBlankText text.toList = false ∧ uri = .ofList (trim text.toList) := by
  rw [← Bool.not_eq_true, ← trim_eq_nil_iff]
  unfold Settings.parseDefault
  cases trim text.toList with
  | nil => simp
  | cons c r => simp [eq_comm]

theorem defaultBackend_eq_some_iff (h : Settings.ofLookup lookup = .ok settings) :
    settings.defaultBackend = some uri ↔ NamesDefault lookup uri := by
  obtain ⟨-, hdefault, -⟩ := ofLookup_eq_ok h
  rw [hdefault, NamesDefault, textOf]
  cases lookup "GATEWAY_DEFAULT_BACKEND" with
  | none => simp [isBlankText]
  | some text => exact parseDefault_eq_some_iff

theorem backends_eq (h : Settings.ofLookup lookup = .ok settings) (hbs : ListsBackends lookup bs) :
    settings.backends = bs.map Settings.lowered := by
  obtain ⟨hread, -, -⟩ := ofLookup_eq_ok h
  rw [Settings.parseBackends_eq_ok_iff.2 ⟨bs, hbs, rfl⟩] at hread
  exact (Except.ok.inj hread).symm

theorem exists_listsBackends (h : Settings.ofLookup lookup = .ok settings) :
    ∃ bs, ListsBackends lookup bs := by
  obtain ⟨hread, -, -⟩ := ofLookup_eq_ok h
  obtain ⟨bs, hbs, -⟩ := Settings.parseBackends_eq_ok_iff.1 hread
  exact ⟨bs, hbs⟩

/-! ## Hosts -/

/-- Hosts that are equal but for the case of their letters. -/
def SameHost (host host' : String) : Prop := lowerString host = lowerString host'

/-- Where a call to a host goes, or one without a host, if its service is not blocked. -/
inductive Directs (lookup : String → Option String) (bs : List (String × String)) :
    Option String → Except Status (Route String Unit) → Prop
  /-- To the last entry for the host. -/
  | entry {host before b after} (hbs : bs = before ++ b :: after) (h : SameHost b.1 host)
      (hlast : ∀ b' ∈ after, ¬ SameHost b'.1 host) :
      Directs lookup bs (some host) (.ok (.toBackend b.2))
  /-- To the default, where there is no entry. -/
  | default {host? uri} (hnone : ∀ host, host? = some host → ∀ b ∈ bs, ¬ SameHost b.1 host)
      (huri : NamesDefault lookup uri) : Directs lookup bs host? (.ok (.toBackend uri))
  | nowhere {host?} (hnone : ∀ host, host? = some host → ∀ b ∈ bs, ¬ SameHost b.1 host)
      (hdefault : ∀ uri, ¬ NamesDefault lookup uri) :
      Directs lookup bs host? (.error (.of .unimplemented "Unknown method"))

/-- The last entry for a host is found. -/
theorem backendOf?_cases (h : d.backends = bs.map Settings.lowered) (host : String) :
    (∃ before b after, bs = before ++ b :: after ∧ SameHost b.1 host ∧
      (∀ b' ∈ after, ¬ SameHost b'.1 host) ∧ d.backendOf? host = some b.2) ∨
    ((∀ b ∈ bs, ¬ SameHost b.1 host) ∧ d.backendOf? host = none) := by
  have hfind : d.backendOf? host =
      (bs.reverse.find? fun b => lowerString b.1 == lowerString host).map Prod.snd := by
    rw [Director.backendOf?, h, ← List.map_reverse, List.find?_map, Option.map_map]
    rfl
  rw [hfind]
  cases hb : bs.reverse.find? fun b => lowerString b.1 == lowerString host with
  | none =>
    refine Or.inr ⟨fun b hmem hsame => ?_, rfl⟩
    have hnot := List.find?_eq_none.1 hb b (List.mem_reverse.2 hmem)
    exact hnot (beq_iff_eq.2 hsame)
  | some b =>
    obtain ⟨hsame, after, before, hbs, hlast⟩ := List.find?_eq_some_iff_append.1 hb
    refine Or.inl ⟨before.reverse, b, after.reverse, ?_, beq_iff_eq.1 hsame, ?_, rfl⟩
    · rw [← List.reverse_reverse bs, hbs]
      simp
    · intro b' hmem hsame'
      have hnot := hlast b' (List.mem_reverse.1 hmem)
      rw [beq_iff_eq.2 hsame'] at hnot
      cases hnot

theorem select?_cases (hs : Settings.ofLookup lookup = .ok settings)
    (hd : Director.ofSettings settings = .ok d) (hbs : ListsBackends lookup bs) :
    (∃ host before b after, c.host? = some host ∧ bs = before ++ b :: after ∧
      SameHost b.1 host ∧ (∀ b' ∈ after, ¬ SameHost b'.1 host) ∧ d.select? c = some b.2) ∨
    ((∀ host, c.host? = some host → ∀ b ∈ bs, ¬ SameHost b.1 host) ∧
      d.select? c = settings.defaultBackend) := by
  have hbackends : d.backends = bs.map Settings.lowered := by
    rw [ofSettings_eq_ok hd]
    exact backends_eq hs hbs
  have hdefault : d.defaultBackend = settings.defaultBackend := by rw [ofSettings_eq_ok hd]
  cases hh : c.host? with
  | none => exact Or.inr ⟨nofun, by rw [Director.select?, hh, hdefault]; rfl⟩
  | some host =>
    rcases backendOf?_cases hbackends host with ⟨before, b, after, hsplit, hsame, hlast, hfound⟩ |
      ⟨hnone, hfound⟩
    · refine Or.inl ⟨host, before, b, after, rfl, hsplit, hsame, hlast, ?_⟩
      rw [Director.select?, hh, Option.bind_some, hfound]
      rfl
    · refine Or.inr ⟨?_, ?_⟩
      · rintro _ ⟨⟩
        exact hnone
      · rw [Director.select?, hh, Option.bind_some, hfound, hdefault]
        rfl

/-! ## Decisions -/

theorem connect_of_barred (hs : Settings.ofLookup lookup = .ok settings)
    (hd : Director.ofSettings settings = .ok d) (h : Bars lookup c.method.service) :
    d.connect c = .error (.of .unimplemented "Unknown method") := by
  have hblocked : d.isBlocked c = true := (isBlocked_iff hd).2 ((blocks_iff hs).2 h)
  rw [Director.connect, hblocked]
  rfl

theorem directs_connect (hs : Settings.ofLookup lookup = .ok settings)
    (hd : Director.ofSettings settings = .ok d) (hbs : ListsBackends lookup bs)
    (h : ¬ Bars lookup c.method.service) : Directs lookup bs c.host? (d.connect c) := by
  have hblocked : d.isBlocked c = false := by
    rw [← Bool.not_eq_true, isBlocked_iff hd, blocks_iff hs]
    exact h
  rw [Director.connect, hblocked]
  rcases select?_cases hs hd hbs with ⟨host, before, b, after, hh, hsplit, hsame, hlast, hselect⟩ |
    ⟨hnone, hselect⟩
  · rw [hselect, hh]
    exact .entry hsplit hsame hlast
  · rw [hselect]
    cases hdefault : settings.defaultBackend with
    | some uri => exact .default hnone ((defaultBackend_eq_some_iff hs).1 hdefault)
    | none =>
      refine .nowhere hnone fun uri huri => ?_
      rw [(defaultBackend_eq_some_iff hs).2 huri] at hdefault
      cases hdefault

/-! ## Calls that are addressed alike -/

/-- Names, or addresses, that are equal but for the case of their letters. -/
inductive AlikeHosts : Authority.Host → Authority.Host → Prop
  | name {s s'} (h : lowerText s = lowerText s') : AlikeHosts (.name s) (.name s')
  | address {s s'} (h : lowerText s = lowerText s') : AlikeHosts (.address s) (.address s')

/-- Calls to authorities without user information that differ in case and in their ports only. -/
def AddressedAlike (c c' : CallContext) : Prop :=
  ∃ a a' : Authority.Parts, a.Proper ∧ a'.Proper ∧ a.user = none ∧ a'.user = none ∧
    AlikeHosts a.host a'.host ∧ c.authority = some (.ofList a.text) ∧
    c'.authority = some (.ofList a'.text)

theorem sameHost_ofList {s s' : List Char} (h : lowerText s = lowerText s') :
    SameHost (.ofList s) (.ofList s') := by
  rw [SameHost, lowerString, lowerString, String.toList_ofList, String.toList_ofList, h]

theorem AlikeHosts.bare {x y : Authority.Host} (h : AlikeHosts x y) :
    lowerText x.bare = lowerText y.bare := by
  cases h with
  | name h => exact h
  | address h => exact h

theorem AddressedAlike.hosts (h : AddressedAlike c c') :
    ∃ host host', c.host? = some host ∧ c'.host? = some host' ∧ SameHost host host' := by
  obtain ⟨a, a', ha, ha', hu, hu', halike, hc, hc'⟩ := h
  refine ⟨_, _, Authority.host?_of_isPlain ha hc (Or.inr (Or.inl hu)),
    Authority.host?_of_isPlain ha' hc' (Or.inr (Or.inl hu')), sameHost_ofList ?_⟩
  rw [Authority.Parts.hostText, Authority.Parts.hostText, hu, hu']
  exact halike.bare

theorem AddressedAlike.select?_eq (h : AddressedAlike c c') : d.select? c = d.select? c' := by
  obtain ⟨host, host', hh, hh', hsame⟩ := h.hosts
  rw [Director.select?, Director.select?, hh, hh', Option.bind_some, Option.bind_some,
    Director.backendOf?, Director.backendOf?, hsame]

theorem connect_congr (hs : Settings.ofLookup lookup = .ok settings)
    (hd : Director.ofSettings settings = .ok d) (h : AddressedAlike c c')
    (hbars : Bars lookup c.method.service ↔ Bars lookup c'.method.service) :
    d.connect c = d.connect c' := by
  have hblocked : d.isBlocked c = d.isBlocked c' := by
    rw [Bool.eq_iff_iff, isBlocked_iff hd, isBlocked_iff hd, blocks_iff hs, blocks_iff hs]
    exact hbars
  rw [Director.connect, Director.connect, hblocked, h.select?_eq]

/-- **Routing by host.**  A call to a blocked service is refused.  Any other goes to the last
    backend that the environment lists for its host, whatever the case of the two, else to the
    default, and is refused where there is none.  So two calls that are addressed alike go the same
    way, unless the service of one alone is blocked. -/
theorem routed_by_host (hs : Settings.ofLookup lookup = .ok settings)
    (hd : Director.ofSettings settings = .ok d) :
    (∃ bs, ListsBackends lookup bs) ∧
    (∀ c, Bars lookup c.method.service →
      d.connect c = .error (.of .unimplemented "Unknown method")) ∧
    (∀ bs c, ListsBackends lookup bs → ¬ Bars lookup c.method.service →
      Directs lookup bs c.host? (d.connect c)) ∧
    ∀ c c', AddressedAlike c c' →
      (Bars lookup c.method.service ↔ Bars lookup c'.method.service) →
        d.connect c = d.connect c' :=
  ⟨exists_listsBackends hs, fun _ => connect_of_barred hs hd,
    fun _ _ hbs => directs_connect hs hd hbs, fun _ _ => connect_congr hs hd⟩

/-- An environment with two entries for one host, and a prefix that is blocked. -/
def twofold : String → Option String
  | "GATEWAY_LISTEN_ADDR" => some "127.0.0.1:50051"
  | "GATEWAY_BACKENDS" => some "H=http://a, h = http://b,"
  | "GATEWAY_BLOCKED_PREFIXES" => some "admin."
  | _ => none

/-- What is read from it. -/
def twofoldSettings : Settings :=
  ⟨.v4 ⟨127, 0, 0, 1⟩ 50051, [("h", "http://a"), ("h", "http://b")], none, ["admin."]⟩

/-- Its director. -/
def twofoldDirector : Director := ⟨[("h", "http://a"), ("h", "http://b")], none, ["admin."]⟩

/-- A name without user information. -/
def named (name : String) (port : Option (List Char)) : Authority.Parts :=
  ⟨none, .name name.toList, port⟩

theorem proper_named {name : String} {port : Option (List Char)}
    (hname : Authority.IsWhole name.toList)
    (hport : ∀ s, port = some s → Authority.IsWhole s) : (named name port).Proper :=
  ⟨nofun, hname, hport⟩

/-- Both entries are for the host, and the second decides, with a port as well as without; a call
    to a blocked service is refused all the same. -/
theorem routed_by_host_of_twofold :
    Settings.ofLookup twofold = .ok twofoldSettings ∧
      Director.ofSettings twofoldSettings = .ok twofoldDirector ∧
      (∃ bs, ListsBackends twofold bs ∧
        Directs twofold bs (some "H") (twofoldDirector.connect (Authority.callTo "H:80"))) ∧
      twofoldDirector.connect (Authority.callTo "H:80") = .ok (.toBackend "http://b") ∧
      twofoldDirector.connect (Authority.callTo "h") =
        twofoldDirector.connect (Authority.callTo "H:80") ∧
      twofoldDirector.connect { Authority.callTo "h" with method := ⟨"admin.S", "m"⟩ } =
        .error (.of .unimplemented "Unknown method") := by
  have hs : Settings.ofLookup twofold = .ok twofoldSettings := rfl
  have hd : Director.ofSettings twofoldSettings = .ok twofoldDirector := rfl
  obtain ⟨⟨bs, hbs⟩, hrefused, hroutes, halike⟩ := routed_by_host hs hd
  have hfree : ¬ Bars twofold "a" := by
    rw [← blocks_iff hs]
    rintro ⟨p, hp, hstart⟩
    rw [List.mem_singleton.1 hp] at hstart
    exact absurd hstart (by decide)
  have hbarred : Bars twofold "admin.S" := by
    rw [← blocks_iff hs]
    exact ⟨"admin.", .head _, by decide⟩
  have hbare : (named "h" none).Proper :=
    proper_named (by decide) nofun
  have hport : (named "H" (some "80".toList)).Proper := by
    refine proper_named (by decide) ?_
    rintro s ⟨⟩
    decide
  have hsame : AddressedAlike (Authority.callTo "h") (Authority.callTo "H:80") :=
    ⟨_, _, hbare, hport, rfl, rfl, .name rfl, rfl, rfl⟩
  exact ⟨hs, hd, ⟨bs, hbs, hroutes bs (Authority.callTo "H:80") hbs hfree⟩, rfl,
    halike _ _ hsame Iff.rfl, hrefused _ hbarred⟩

end GrpcRelay.Gateway
