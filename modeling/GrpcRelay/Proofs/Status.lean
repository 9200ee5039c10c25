/-
  Statuses in headers — a status that is written into headers is read back with
  its code and its message, and one that is read has all the headers that do not
  make it up.
-/
import GrpcRelay.Proofs.Metadata
import GrpcRelay.Status.Headers

namespace GrpcRelay.Status

variable {headers : Metadata} {e : Status}

/-! ## Reading -/

/-- The headers that make up a status. -/
def headerKeys : List String := [codeKey, messageKey, detailsKey]

/-- The transport headers that say nothing about the status. -/
def framingKeys : List String := ["te", "content-type", "grpc-encoding", "grpc-accept-encoding"]

theorem metadata_ofHeaders? (h : ofHeaders? headers = some e) :
    e.metadata = headers.eraseAll headerKeys := by
  obtain ⟨code, -, he⟩ := Option.map_eq_some_iff.1 h
  rw [← he]
  dsimp only
  split <;> rfl

theorem passes_ofHeaders? (h : ofHeaders? headers = some e) :
    Metadata.Passes headerKeys headers e.metadata :=
  metadata_ofHeaders? h ▸ Metadata.passes_eraseAll (by decide)

/-- A status that is read from headers has no transport headers if there were none apart from
    those that make up the status. -/
theorem passes_transport_iff (h : ofHeaders? headers = some e) (hm : headers.IsLower) :
    Metadata.Passes Metadata.transportKeys headers e.metadata ↔
      ∀ key ∈ framingKeys, headers.values key = [] := by
  obtain ⟨hkept, hgone⟩ := passes_ofHeaders? h
  constructor
  · intro hp key hk
    have hlow : ∀ k ∈ framingKeys, Text.lowerString k ∉ headerKeys ∧
        Text.lowerString k ∈ Metadata.transportKeys := by decide
    rw [← hkept key (hlow key hk).1]
    exact hp.gone hm key (hlow key hk).2
  · intro hnone
    have hsub : ∀ k ∈ headerKeys, k ∈ Metadata.transportKeys := by decide
    have hcover : ∀ k ∈ Metadata.transportKeys, k ∈ headerKeys ∨ k ∈ framingKeys := by decide
    refine ⟨fun key hk => hkept key fun hmem => hk (hsub _ hmem), fun _ key hk => ?_⟩
    by_cases hmem : Text.lowerString key ∈ headerKeys
    · exact hgone hm key hmem
    · rw [hkept key hmem]
      by_cases hlow : Text.lowerString key = key
      · exact hnone key (hlow ▸ (hcover _ hk).resolve_left hmem)
      · exact Metadata.values_eq_nil hm hlow

/-! ## Writing and reading back -/

theorem ofText_text (c : Code) : Code.ofText c.text = c := by cases c <;> decide

theorem decodeMessage_encodeMessage (s : String) : decodeMessage (encodeMessage s) = .ok s := by
  rw [decodeMessage, encodeMessage, Text.toUTF8_ofList, Text.percentDecode_percentEncode,
    Text.decodeUtf8_toUTF8]

theorem values_code (e : Status) : e.toHeaders.values codeKey = [.text e.code.text] := by
  have hmessage : messageKey ≠ codeKey := by decide
  have hdetails : detailsKey ≠ codeKey := by decide
  unfold toHeaders addTo
  dsimp only
  split <;> split <;>
    simp only [Metadata.values_insert_ne hmessage, Metadata.values_insert_ne hdetails,
      Metadata.values_insert]

theorem values_message (e : Status) :
    e.toHeaders.values messageKey =
      if e.message = "" then [] else [.text (encodeMessage e.message)] := by
  have hcode : codeKey ≠ messageKey := by decide
  have hdetails : detailsKey ≠ messageKey := by decide
  have hnone : (({} : Metadata).override e.metadata.sanitize).values messageKey = [] := by
    rw [Metadata.override_empty]
    exact Metadata.values_eraseAll_of_mem (by decide)
  unfold toHeaders addTo
  dsimp only
  split <;> split <;>
    simp only [Metadata.values_insert_ne hcode, Metadata.values_insert_ne hdetails,
      Metadata.values_insert, hnone]

/-- Headers that a status was written into hold its code and its message. -/
theorem ofHeaders?_toHeaders (e : Status) :
    ∃ s, ofHeaders? e.toHeaders = some s ∧ s.code = e.code ∧ s.message = e.message := by
  have hcode : e.toHeaders.firstText? codeKey = some e.code.text :=
    Metadata.firstText?_of_values e.values_code
  have hmessage : (e.toHeaders.firstText? messageKey).getD "" = encodeMessage e.message := by
    have hvalues := e.values_message
    split at hvalues
    · next hempty =>
      rw [Metadata.firstText?_of_empty hvalues, hempty, encodeMessage, Text.toUTF8_eq]
      rfl
    · rw [Metadata.firstText?_of_values hvalues]
      rfl
  unfold ofHeaders?
  rw [hcode, hmessage, decodeMessage_encodeMessage]
  exact ⟨_, rfl, ofText_text e.code, rfl⟩

theorem overHeaders_eq (e : Status) :
    e.overHeaders.code = e.code ∧ e.overHeaders.message = e.message := by
  obtain ⟨s, hs, hcode, hmessage⟩ := e.ofHeaders?_toHeaders
  rw [overHeaders, hs]
  exact ⟨hcode, hmessage⟩

end GrpcRelay.Status
