/-
  Running the gateway — what it writes from its start to its end.

  With bad settings it writes the error with its causes and fails.  Otherwise
  it listens until it is interrupted, and writes the events of its log that
  the filter lets through.
-/
import GrpcRelay.Config
import GrpcRelay.Gateway.Director
import GrpcRelay.Gateway.LogFilter
import GrpcRelay.Text.Quoted

namespace GrpcRelay.Gateway

/-- What a run of the gateway leaves behind. -/
structure Transcript where
  exitCode : Nat
  stderr : String
  log : List String
  deriving DecidableEq, Repr

namespace Transcript

/-- The text of an error with its causes, which are numbered if there are several. -/
def errorText : List String → String
  | [] => "Error: \n"
  | [message] => s!"Error: {message}\n"
  | [message, cause] => s!"Error: {message}\n\nCaused by:\n    {cause}\n"
  | message :: causes =>
    causes.zipIdx.foldl (fun s c => s ++ s!"    {c.2}: {c.1}\n")
      s!"Error: {message}\n\nCaused by:\n"

/-- The gateway fails before it listens. -/
def failed (chain : List String) : Transcript := ⟨1, errorText chain, []⟩

/-- The events of a run that is interrupted while no call is in flight. -/
def events (s : Settings) : List LogEvent :=
  [⟨.info, "rpcproxy::router", "Proxying all unhandled methods", []⟩,
    ⟨.info, "gateway", "Gateway listening",
      [("addr", s.listen.text), ("backends", toString s.backends.length),
        ("default_backend", Config.optional (s.defaultBackend.map Text.quoted))]⟩,
    ⟨.info, "gateway", "Shutting down", []⟩,
    ⟨.info, "rpcproxy::handler", "Cancelled in-flight proxied calls", [("calls", "0")]⟩,
    ⟨.trace, "tonic::transport::server", "signal received, shutting down", []⟩,
    ⟨.trace, "tonic::transport::server", "waiting for 0 connections to close", []⟩]

/-- The filter that the environment asks for; an unset or a bad one means level info. -/
def filterOf (lookup : String → Option String) : LogFilter :=
  ((lookup "RUST_LOG").bind LogFilter.parse?).getD (.ofLevel .info)

/-- The run of the gateway in an environment. -/
def ofLookup (lookup : String → Option String) : Transcript :=
  match Settings.ofLookup lookup with
  | .error e => failed e.chain
  | .ok settings =>
    match Director.ofSettings settings with
    | .error e => failed e.chain
    | .ok _ =>
      let filter := filterOf lookup
      ⟨0, "", ((events settings).filter filter.allows).map LogEvent.line⟩

end Transcript

end GrpcRelay.Gateway
