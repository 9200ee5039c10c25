/-
  Command line — shows what the gateway writes with the settings of the
  environment, and ends with its exit code.
-/
import GrpcRelay.Gateway.Startup

/-- The variables that the gateway reads. -/
def environmentNames : List String :=
  ["GATEWAY_LISTEN_ADDR", "GATEWAY_BACKENDS", "GATEWAY_DEFAULT_BACKEND",
    "GATEWAY_BLOCKED_PREFIXES", "RUST_LOG"]

def main : IO UInt32 := do
  let values ← environmentNames.mapM fun name => do pure (name, ← IO.getEnv name)
  let transcript := GrpcRelay.Gateway.Transcript.ofLookup fun name =>
    (values.find? fun v => v.1 == name).bind Prod.snd
  for line in transcript.log do
    IO.println line
  IO.eprint transcript.stderr
  pure (UInt32.ofNat transcript.exitCode)
