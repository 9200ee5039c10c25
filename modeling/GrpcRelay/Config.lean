/-
  Configuration of a proxy — address forwarding, the time a director may take
  and the largest frames.
-/
import GrpcRelay.Duration

namespace GrpcRelay

/-- How a proxy treats its calls. -/
structure Config where
  /-- Add the caller's address to the metadata that is carried on. -/
  forwardPeer : Bool
  /-- How long a director may take. -/
  resolveTimeout : Option Duration
  /-- The largest frame accepted on either leg. -/
  maxDecoding : Option Nat
  /-- The largest frame sent on either leg. -/
  maxEncoding : Option Nat
  deriving DecidableEq, Repr

namespace Config

/-- Addresses are forwarded and nothing is limited. -/
def default : Config := ⟨true, none, none, none⟩

instance : Inhabited Config := ⟨default⟩

/-- An optional value in a description. -/
def optional : Option String → String
  | none => "None"
  | some s => s!"Some({s})"

/-- The fields by name, as a log shows them. -/
def describe (c : Config) : String :=
  s!"ProxyConfig \x7b forward_peer_address: {c.forwardPeer}, " ++
  s!"resolve_timeout: {optional (c.resolveTimeout.map Duration.text)}, " ++
  s!"max_decoding_message_size: {optional (c.maxDecoding.map toString)}, " ++
  s!"max_encoding_message_size: {optional (c.maxEncoding.map toString)} \x7d"

/-- The description of a proxy with this configuration and so many calls. -/
def describeService (c : Config) (activeCalls : Nat) : String :=
  s!"ProxyService \x7b config: {c.describe}, active_calls: {activeCalls}, .. \x7d"

end Config

end GrpcRelay
