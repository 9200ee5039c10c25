/-
  Authorities — which host a call addresses, by the parts of its authority:
  user information, a host and a port, of which only the host is always there.

  The host is what stands before the port, and where an address in brackets
  begins the authority, what stands between them.  Only the last colon is looked
  for.  So where there is no port, one in the user information, or in the
  address that follows it, is taken for the beginning of the port
  (`Authority.host_exact`).
-/
import GrpcRelay.CallContext
import GrpcRelay.Proofs.Text.Cut
import GrpcRelay.Uri.Authority

namespace GrpcRelay.Authority

open Text

/-! ## Parts -/

/-- A host as it stands in an authority. -/
inductive Host where
  /-- A name or an IPv4 address. -/
  | name (s : List Char)
  /-- An IPv6 address, which stands in brackets. -/
  | address (s : List Char)

def Host.text : Host → List Char
  | name s => s
  | address s => '[' :: (s ++ [']'])

/-- The text without brackets. -/
def Host.bare : Host → List Char
  | name s | address s => s

/-- The parts of an authority. -/
structure Parts where
  user : Option (List Char)
  host : Host
  port : Option (List Char)

/-- Whether a character divides the parts of a URI. -/
def isDelimiter (c : Char) : Bool := [':', '/', '?', '#', '[', ']', '@'].contains c

/-- No character divides the text. -/
def IsWhole (s : List Char) : Prop := ∀ c ∈ s, isDelimiter c = false

/-- No character but the colon divides the text. -/
def IsWholeButColons (s : List Char) : Prop := ∀ c ∈ s, c ≠ ':' → isDelimiter c = false

instance : DecidablePred IsWhole := fun s => List.decidableBAll _ s

instance : DecidablePred IsWholeButColons := fun s => List.decidableBAll _ s

def Host.Proper : Host → Prop
  | name s => IsWhole s
  | address s => IsWholeButColons s

namespace Parts

/-- The parts do not divide each other. -/
structure Proper (a : Parts) : Prop where
  user : ∀ s, a.user = some s → IsWholeButColons s
  host : a.host.Proper
  port : ∀ s, a.port = some s → IsWhole s

/-- The text before the port. -/
def front (a : Parts) : List Char :=
  match a.user with
  | none => a.host.text
  | some user => user ++ '@' :: a.host.text

/-- The text of an authority. -/
def text (a : Parts) : List Char :=
  match a.port with
  | none => a.front
  | some port => a.front ++ ':' :: port

/-- The text without the port, and without the brackets of an address that begins it. -/
def hostText (a : Parts) : List Char :=
  match a.user with
  | none => a.host.bare
  | some _ => a.front

/-- No colon before the port can be taken for the one that begins it. -/
def IsPlain (a : Parts) : Prop := a.user = none ∨ ':' ∉ a.front

variable {a : Parts} {s : List Char} {c : Char}

/-! ## The last colon -/

theorem not_mem_of_isWhole (h : IsWhole s) (hc : isDelimiter c = true) : c ∉ s := by
  intro hmem
  rw [h c hmem] at hc
  cases hc

theorem not_mem_of_isWholeButColons (h : IsWholeButColons s) (hc : isDelimiter c = true)
    (hne : c ≠ ':') : c ∉ s := by
  intro hmem
  rw [h c hmem hne] at hc
  cases hc

/-- An address in brackets begins the authority, or the host is all that stands before the port. -/
theorem Proper.bracketed_or_front (ha : a.Proper) :
    (a.user = none ∧ ']' ∉ a.hostText ∧ a.front = '[' :: (a.hostText ++ [']'])) ∨
      (a.hostText = a.front ∧ a.front.head? ≠ some '[' ∧ (a.user = none → ':' ∉ a.front)) := by
  obtain ⟨user, host, port⟩ := a
  cases user with
  | none =>
    cases host with
    | name s =>
      refine Or.inr ⟨rfl, ?_, fun _ => not_mem_of_isWhole ha.host rfl⟩
      intro hhead
      exact not_mem_of_isWhole ha.host rfl (List.mem_of_mem_head? hhead)
    | address s => exact Or.inl ⟨rfl, not_mem_of_isWholeButColons ha.host rfl (by decide), rfl⟩
  | some user =>
    refine Or.inr ⟨rfl, ?_, nofun⟩
    cases user with
    | nil => nofun
    | cons c r =>
      intro hhead
      cases hhead
      exact not_mem_of_isWholeButColons (ha.user _ rfl) rfl (by decide) (.head r)

theorem head?_text (h : a.front.head? ≠ some '[') : a.text.head? ≠ some '[' := by
  unfold text
  cases a.port with
  | none => exact h
  | some port =>
    cases hs : a.front with
    | nil => simp
    | cons c r => rwa [hs] at h

theorem hostOfAuthority_bracketed {r : List Char} (h : ']' ∉ s) :
    hostOfAuthority ('[' :: (s ++ [']']) ++ r) = some s := by
  rw [List.cons_append, List.append_assoc, List.singleton_append, hostOfAuthority,
    cutFirst?_append h]
  rfl

theorem hostOfAuthority_of_head (h : s.head? ≠ some '[') :
    hostOfAuthority s = some (((cutLast? ':' s).map Prod.fst).getD s) := by
  unfold hostOfAuthority
  split
  · exact absurd rfl h
  · cases cutLast? ':' s <;> rfl

/-! ## The host -/

theorem Proper.hostOfAuthority_eq (ha : a.Proper) (h : a.port.isSome = true ∨ a.IsPlain) :
    hostOfAuthority a.text = some a.hostText := by
  rcases ha.bracketed_or_front with ⟨-, hnot, hfront⟩ | ⟨hhost, hhead, hcolon⟩
  · unfold text
    cases a.port with
    | some port => rw [hfront, hostOfAuthority_bracketed hnot]
    | none => rw [hfront, ← List.append_nil ('[' :: _), hostOfAuthority_bracketed hnot]
  · rw [hostOfAuthority_of_head (head?_text hhead), hhost]
    unfold text
    cases hp : a.port with
    | some port =>
      have hnot : ':' ∉ port := not_mem_of_isWhole (ha.port port hp) rfl
      simp [cutLast?_append hnot]
    | none =>
      have hnot : ':' ∉ a.front := by
        rcases h with hport | hnone | hnot
        · rw [hp] at hport
          cases hport
        · exact hcolon hnone
        · exact hnot
      simp [cutLast?_eq_none_iff.2 hnot]

/-- Without a port the last colon cuts off the end of the host. -/
theorem Proper.hostOfAuthority_of_not_isPlain (ha : a.Proper) (hp : a.port = none)
    (h : ¬ a.IsPlain) :
    ∃ before after, a.front = before ++ ':' :: after ∧ ':' ∉ after ∧
      hostOfAuthority a.text = some before ∧ before ≠ a.hostText := by
  obtain ⟨huser, hcolon⟩ := not_or.1 h
  rcases ha.bracketed_or_front with ⟨hnone, -, -⟩ | ⟨hhost, hhead, -⟩
  · exact absurd hnone huser
  · have htext : a.text = a.front := by rw [text, hp]
    cases hcut : cutLast? ':' a.front with
    | none => exact absurd (cutLast?_eq_none_iff.1 hcut) hcolon
    | some p =>
      obtain ⟨hfront, hafter⟩ := cutLast?_eq_some hcut
      refine ⟨p.1, p.2, hfront, hafter, ?_, ?_⟩
      · rw [htext, hostOfAuthority_of_head hhead, hcut]
        rfl
      · intro heq
        have hlength := congrArg List.length (heq.trans (hhost.trans hfront))
        simp at hlength

end Parts

/-! ## The host of a call -/

variable {c c' : CallContext} {a : Parts} {port : Option (List Char)}

theorem host?_eq (hc : c.authority = some (.ofList a.text)) :
    c.host? = (hostOfAuthority a.text).map String.ofList := by
  rw [CallContext.host?, hc]
  simp

theorem host?_of_isPlain (ha : a.Proper) (hc : c.authority = some (.ofList a.text))
    (h : a.port.isSome = true ∨ a.IsPlain) : c.host? = some (.ofList a.hostText) := by
  rw [host?_eq hc, ha.hostOfAuthority_eq h]
  rfl

theorem host?_of_not_isPlain (ha : a.Proper) (hc : c.authority = some (.ofList a.text))
    (hp : a.port = none) (h : ¬ a.IsPlain) :
    ∃ before after, a.front = before ++ ':' :: after ∧ ':' ∉ after ∧
      c.host? = some (.ofList before) ∧ c.host? ≠ some (.ofList a.hostText) := by
  obtain ⟨before, after, hfront, hafter, hhost, hne⟩ := ha.hostOfAuthority_of_not_isPlain hp h
  have hh : c.host? = some (.ofList before) := by
    rw [host?_eq hc, hhost]
    rfl
  refine ⟨before, after, hfront, hafter, hh, ?_⟩
  rw [hh]
  intro heq
  exact hne (String.ofList_injective (Option.some.inj heq))

theorem host?_eq_some_iff (ha : a.Proper) (hc : c.authority = some (.ofList a.text)) :
    c.host? = some (.ofList a.hostText) ↔ a.port.isSome = true ∨ a.IsPlain := by
  constructor
  · intro h
    by_contra hnot
    obtain ⟨hport, hplain⟩ := not_or.1 hnot
    rw [Option.isSome_iff_ne_none, not_not] at hport
    obtain ⟨-, -, -, -, -, hne⟩ := host?_of_not_isPlain ha hc hport hplain
    exact hne h
  · exact host?_of_isPlain ha hc

/-- The host changes with the port only where one port is missing. -/
theorem host?_congr_iff (ha : a.Proper) (ha' : Parts.Proper { a with port })
    (hc : c.authority = some (.ofList a.text))
    (hc' : c'.authority = some (.ofList (Parts.text { a with port }))) :
    c'.host? = c.host? ↔ port.isSome = a.port.isSome ∨ a.IsPlain := by
  have hhost := host?_eq_some_iff ha hc
  have hhost' : c'.host? = some (.ofList a.hostText) ↔ port.isSome = true ∨ a.IsPlain :=
    host?_eq_some_iff ha' hc'
  by_cases hplain : a.IsPlain
  · rw [hhost.2 (Or.inr hplain), hhost'.2 (Or.inr hplain)]
    simp [hplain]
  · simp only [hplain, or_false] at hhost hhost' ⊢
    cases hp : a.port with
    | some p =>
      rw [hhost.2 (by rw [hp]; rfl), hhost', Option.isSome_some]
    | none =>
      cases port with
      | some p =>
        rw [hhost'.2 rfl, eq_comm, hhost, hp]
        simp
      | none =>
        have hsame : c'.authority = c.authority := by
          rw [hc', hc, Parts.text, Parts.text, hp]
          rfl
        simp [CallContext.host?, hsame]

/-- **The host of a call.**  It is the authority without its port, and without the brackets of an
    address that begins it, exactly if there is a port, or no user information, or no colon before
    the port.  Otherwise what the last colon cuts off is lost, although it is no port.  So the host
    is the same with any port, and the same without one unless there is a colon in or after user
    information. -/
theorem host_exact (ha : a.Proper) (hc : c.authority = some (.ofList a.text)) :
    (c.host? = some (.ofList a.hostText) ↔ a.port.isSome = true ∨ a.IsPlain) ∧
    (a.port = none → ¬ a.IsPlain →
      ∃ before after, a.front = before ++ ':' :: after ∧ ':' ∉ after ∧
        c.host? = some (.ofList before) ∧ c.host? ≠ some (.ofList a.hostText)) ∧
    ∀ (c' : CallContext) (port : Option (List Char)), Parts.Proper { a with port } →
      c'.authority = some (.ofList (Parts.text { a with port })) →
        (c'.host? = c.host? ↔ port.isSome = a.port.isSome ∨ a.IsPlain) :=
  ⟨host?_eq_some_iff ha hc, host?_of_not_isPlain ha hc,
    fun _ _ ha' hc' => host?_congr_iff ha ha' hc hc'⟩

/-- A call to an authority. -/
def callTo (authority : String) : CallContext := ⟨⟨"a", "b"⟩, some authority, {}, none⟩

/-- A user with a password, before a host with a port or without. -/
def secret (port : Option (List Char)) : Parts := ⟨some "u:p".toList, .name ['h'], port⟩

theorem proper_secret {port : Option (List Char)} (h : ∀ s, port = some s → IsWhole s) :
    (secret port).Proper := by
  have hhost : IsWhole ['h'] := by decide
  refine ⟨?_, hhost, h⟩
  rintro s ⟨⟩
  decide

theorem not_isPlain_secret {port : Option (List Char)} : ¬ (secret port).IsPlain := by
  rintro (h | h)
  · cases h
  · exact h (.tail _ (.head _))

/-- With any port the host is all that stands before the port, and without one it is less. -/
theorem host_exact_of_secret :
    (callTo "u:p@h:80").host? = some "u:p@h" ∧
      (callTo "u:p@h:443").host? = (callTo "u:p@h:80").host? ∧
      (callTo "u:p@h").host? ≠ (callTo "u:p@h:80").host? ∧
      (callTo "u:p@h").host? ≠ some "u:p@h" := by
  have hport {port : String} (h : IsWhole port.toList) : (secret (some port.toList)).Proper := by
    refine proper_secret ?_
    rintro s ⟨⟩
    exact h
  have h80 : (secret (some "80".toList)).Proper := hport (by decide)
  have h443 : (secret (some "443".toList)).Proper := hport (by decide)
  have hbare : (secret none).Proper := proper_secret nofun
  obtain ⟨hiff, -, hports⟩ := host_exact (c := callTo "u:p@h:80") h80 rfl
  obtain ⟨-, hcut, -⟩ := host_exact (c := callTo "u:p@h") hbare rfl
  obtain ⟨-, -, -, -, -, hne⟩ := hcut rfl not_isPlain_secret
  refine ⟨hiff.2 (Or.inl rfl), (hports _ _ h443 rfl).2 (Or.inl rfl), ?_, hne⟩
  intro heq
  rcases (hports _ _ hbare rfl).1 heq with h | h
  · cases h
  · exact not_isPlain_secret h

/-- The host is not always the authority without its port, not even where it is read from a URI. -/
theorem not_host_without_port :
    ¬ ∀ (c : CallContext) (a : Parts), a.Proper → cut a.text = .ok (a.text, []) →
      c.authority = some (.ofList a.text) → c.host? = some (.ofList a.hostText) := by
  intro h
  have hread : cut (secret none).text = .ok ((secret none).text, []) := rfl
  have hhost := h (callTo "u:p@h") (secret none) (proper_secret nofun) hread rfl
  have hcut : (callTo "u:p@h").host? = some "u" := rfl
  rw [hcut] at hhost
  exact absurd hhost (by decide)

end GrpcRelay.Authority
