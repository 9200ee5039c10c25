/-
  Propagation — what becomes of the metadata of a call from hop to hop.

  Each hop takes the transport headers out, adds the address that it was called
  from to one key, and leaves everything else as it is
  (`Metadata.CarriesOn`), so a chain of hops leaves a trail of addresses in the
  order of the hops.  A request carries just this, or what the director supplied
  in its place (`Metadata.propagation_exact`).
-/
import GrpcRelay.Proofs.Metadata
import GrpcRelay.Proofs.Net
import GrpcRelay.Proofs.Service.Launch

namespace GrpcRelay.Metadata

open Text

variable {m m' m'' : Metadata} {peer : Option SocketAddress} {hops hops' : List SocketAddress}

/-! ## The entry of a hop -/

/-- The entry for the address that a hop was called from. -/
def entry (peer : SocketAddress) : MetadataValue := .text peer.ip.canonical.text

theorem between_of_between {lo hi lo' hi' c : Char} (hlo : lo' ≤ lo) (hhi : hi ≤ hi')
    (h : lo ≤ c ∧ c ≤ hi) : lo' ≤ c ∧ c ≤ hi' :=
  ⟨Char.le_trans hlo h.1, Char.le_trans h.2 hhi⟩

/-- The characters of addresses lie between these two. -/
theorem between_of_hexValue? {c : Char} (h : (hexValue? c).isSome = true) :
    '.' ≤ c ∧ c ≤ 'f' := by
  unfold hexValue? at h
  split at h
  · next hc => exact between_of_between (by decide) (by decide) hc
  · split at h
    · next hc => exact between_of_between (by decide) (by decide) hc
    · split at h
      · next hc => exact between_of_between (by decide) (by decide) hc
      · cases h

theorem isTextValue_of_between {s : String} (h : ∀ c ∈ s.toList, '.' ≤ c ∧ c ≤ 'f') :
    isTextValue s = true := by
  rw [isTextValue, List.all_eq_true]
  intro c hc
  obtain ⟨hlo, hhi⟩ := h c hc
  have hspace : ' ' ≤ c := Char.le_trans (show ' ' ≤ '.' by decide) hlo
  have hdelete : c ≠ '\x7f' := by
    rintro rfl
    exact absurd hhi (by decide)
  simp [hspace, hdelete]

/-- The text of an address is a legal value. -/
theorem isTextValue_of_writes {ip : IpAddress} {s : String} (h : ip.Writes s) :
    isTextValue s = true := by
  refine isTextValue_of_between fun c hc => ?_
  cases h with
  | v4 _ hall =>
    rcases hall c hc with hdigit | rfl
    · simp only [isDigit, Bool.and_eq_true, decide_eq_true_eq] at hdigit
      exact between_of_between (by decide) (by decide) hdigit
    · decide
  | v6 _ hall =>
    rcases hall c hc with hdigit | rfl
    · exact between_of_hexValue? hdigit
    · decide

theorem forwardedValue?_eq (peer : SocketAddress) : forwardedValue? peer = some (entry peer) := by
  rw [forwardedValue?, textValue?, if_pos (isTextValue_of_writes peer.ip.writes_canonical)]
  rfl

theorem propagate_none (m : Metadata) : m.propagate none = m.strip := rfl

theorem propagate_some (m : Metadata) (peer : SocketAddress) :
    m.propagate (some peer) = m.strip.append forwardedFor (entry peer) := by
  rw [propagate, Option.bind_some, forwardedValue?_eq]

/-! ## Hops -/

/-- What comes of metadata on its way over hops that were called from these addresses. -/
structure CarriesOn (hops : List SocketAddress) (m m' : Metadata) : Prop where
  transport : ∀ key ∈ transportKeys, m'.values key = []
  kept : ∀ key, key ∉ transportKeys → key ≠ forwardedFor → m'.values key = m.values key
  forwarded : m'.values forwardedFor = m.values forwardedFor ++ hops.map entry
  /-- No other key appears. -/
  keys : ∀ key, m'.contains key = true ↔
    key ∉ transportKeys ∧ (m.contains key = true ∨ key = forwardedFor ∧ hops ≠ [])
  lower : m.IsLower → m'.IsLower

theorem forwardedFor_not_transport : forwardedFor ∉ transportKeys := by decide

theorem carriesOn_of_values (htransport : ∀ key ∈ transportKeys, m'.values key = [])
    (hkept : ∀ key, key ∉ transportKeys → key ≠ forwardedFor → m'.values key = m.values key)
    (hforwarded : m'.values forwardedFor = m.values forwardedFor ++ hops.map entry)
    (hlower : m.IsLower → m'.IsLower) : CarriesOn hops m m' := by
  refine ⟨htransport, hkept, hforwarded, fun key => ?_, hlower⟩
  rw [contains_iff, contains_iff]
  by_cases ht : key ∈ transportKeys
  · simp [htransport key ht, ht]
  · by_cases hf : key = forwardedFor
    · subst hf
      simp [hforwarded, ht, imp_iff_not_or]
    · simp [hkept key ht hf, ht, hf]

theorem carriesOn_propagate (m : Metadata) (peer : Option SocketAddress) :
    CarriesOn peer.toList m (m.propagate peer) := by
  have hstrip {key : String} (h : key ∉ transportKeys) : m.strip.values key = m.values key :=
    values_eraseAll h
  have hforwarded := hstrip forwardedFor_not_transport
  cases peer with
  | none =>
    rw [propagate_none]
    refine carriesOn_of_values (fun key h => values_eraseAll_of_mem h) (fun key h _ => hstrip h) ?_
      fun h => h.eraseAll transportKeys
    simpa using hforwarded
  | some peer =>
    rw [propagate_some]
    refine carriesOn_of_values (fun key h => ?_) (fun key h hf => ?_) ?_ fun h => ?_
    · have hne : forwardedFor ≠ key := (ne_of_mem_of_not_mem h forwardedFor_not_transport).symm
      rw [values_append_ne hne]
      exact values_eraseAll_of_mem h
    · rw [values_append_ne (Ne.symm hf)]
      exact hstrip h
    · rw [values_append, hforwarded]
      rfl
    · have hkey : lowerString forwardedFor = forwardedFor := by decide
      rw [← hkey]
      exact (h.eraseAll transportKeys).append

theorem CarriesOn.trans (h : CarriesOn hops m m') (h' : CarriesOn hops' m' m'') :
    CarriesOn (hops ++ hops') m m'' := by
  refine carriesOn_of_values h'.transport (fun key ht hf => ?_) ?_ fun hm => h'.lower (h.lower hm)
  · rw [h'.kept key ht hf, h.kept key ht hf]
  · rw [h'.forwarded, h.forwarded, List.append_assoc, List.map_append]

/-- A chain of hops leaves the addresses that are known in the order of the hops. -/
theorem carriesOn_foldl (m : Metadata) (peer : Option SocketAddress)
    (peers : List (Option SocketAddress)) :
    CarriesOn ((peer :: peers).filterMap id) m ((peer :: peers).foldl propagate m) := by
  induction peers generalizing m peer with
  | nil =>
    have h := carriesOn_propagate m peer
    cases peer <;> exact h
  | cons peer' peers ih =>
    have h := (carriesOn_propagate m peer).trans (ih (m.propagate peer) peer')
    cases peer <;> exact h

theorem strip_strip (m : Metadata) : m.strip.strip = m.strip := eraseAll_eraseAll m transportKeys

theorem strip_propagate (m : Metadata) (peer : Option SocketAddress) :
    (m.propagate peer).strip = m.propagate peer := by
  cases peer with
  | none => exact strip_strip m
  | some peer =>
    rw [propagate_some]
    have happend (m : Metadata) (value : MetadataValue) :
        (m.append forwardedFor value).strip = m.strip.append forwardedFor value := by
      simp [strip, eraseAll, append, List.filter_append, forwardedFor_not_transport]
    rw [happend, strip_strip]

/-! ## Requests -/

/-- **Propagation.**  A hop takes the transport headers out, adds one entry for a peer that is known
    and leaves all other keys alone; the entry is the canonical address of the peer as a text that
    reads back as this address and is always a legal value.  So hops leave their entries in order,
    and what has been taken out once is not there to be taken out again.  The request of a call
    carries what its transport leaves of just this metadata, without an entry if peers are not
    forwarded, or of the metadata that the director supplied and nothing else. -/
theorem propagation_exact :
    (∀ (m : Metadata) (peer : Option SocketAddress),
      CarriesOn peer.toList m (m.propagate peer)) ∧
    (∀ peer : SocketAddress, ∃ ip text, entry peer = .text text ∧
      IpAddress.Canonical peer.ip ip ∧ ip.Writes text ∧ isTextValue text = true) ∧
    (∀ (m : Metadata) (peer : Option SocketAddress) (peers : List (Option SocketAddress)),
      CarriesOn ((peer :: peers).filterMap id) m ((peer :: peers).foldl propagate m)) ∧
    (∀ (m : Metadata) (peer : Option SocketAddress),
      m.strip.strip = m.strip ∧ (m.propagate peer).strip = m.propagate peer) ∧
    ∀ (config : Config) (s : Service) (i : Nat) (c : Call),
      Service.Run (.ofConfig config) s → s.calls[i]? = some c → ¬ c.Dormant →
      ∃ route carried, c.route = some route ∧
        c.request.metadata = carried.sanitize.withoutConnection ∧
        (route.metadata = none →
          carried = c.arrival.metadata.propagate
            (if config.forwardPeer then c.arrival.peer else none)) ∧
        ∀ own, route.metadata = some own → carried = own := by
  refine ⟨carriesOn_propagate, fun peer => ?_, carriesOn_foldl, fun m peer => ?_, ?_⟩
  · have hwrites := peer.ip.writes_canonical
    exact ⟨_, _, rfl, peer.ip.canonical_canonical, hwrites, isTextValue_of_writes hwrites⟩
  · exact ⟨strip_strip m, strip_propagate m peer⟩
  · intro config s i c hr hc hopen
    obtain ⟨method, route, -, hl⟩ := hr.launched hc hopen
    refine ⟨route, backendMetadata config (Call.contextOf c.arrival method) route.metadata,
      hl.route, hl.metadata, fun hnone => ?_, fun own hown => ?_⟩
    · rw [hnone]
      rfl
    · rw [hown]
      rfl

/-- A caller at an IPv4 address that its socket shows as an IPv6 one. -/
def mappedArrival : Arrival where
  path := "/a.S/get"
  authority := none
  metadata := ⟨[("te", .text "trailers"), (forwardedFor, .text "198.51.100.7"), ("x", .text "1")]⟩
  peer := some (.v6 ⟨[0, 0, 0, 0, 0, 0xFFFF, 0xCB00, 0x7105], rfl⟩ 2 50051)

/-- The request goes on with the address of the caller added, in the form of its version. -/
theorem propagation_exact_of_mapped :
    ∃ s c, Service.Run (.ofConfig .default) s ∧ s.calls[0]? = some c ∧ ¬ c.Dormant ∧
      c.arrival = mappedArrival ∧
      c.request.metadata.values forwardedFor = [.text "198.51.100.7", .text "203.0.113.5"] ∧
      c.request.metadata.values "x" = [.text "1"] ∧
      c.request.metadata.contains "te" = false := by
  have hnew : Service.Run (.ofConfig .default) _ := .refl
  have harrived := hnew.tail (.event (.arrive mappedArrival) trivial)
  have hconsulted := harrived.tail (.branch 0 .accept rfl)
  have hrouted := hconsulted.tail (.event (.decide 0 (.ok (Route.toBackend "up"))) nofun)
  have htracked := hrouted.tail (.branch 0 .track rfl)
  have hr := htracked.tail (.branch 0 .launch rfl)
  obtain ⟨-, -, -, -, hrequest⟩ := propagation_exact
  obtain ⟨route, carried, hroute, hmetadata, hcarried, -⟩ :=
    hrequest .default _ 0 _ hr rfl fun hd => hd.not_reading rfl
  have hown : route.metadata = none := by
    cases hroute
    rfl
  refine ⟨_, _, hr, rfl, fun hd => hd.not_reading rfl, rfl, ?_⟩
  rw [hmetadata, hcarried hown]
  decide

end GrpcRelay.Metadata
