/-
  Settings of the gateway — the environment variables that say where to
  listen, which host goes to which backend and which services are blocked.

  `GATEWAY_BACKENDS` is a list of items `host=uri` separated by commas, blank
  items skipped; the first `=` of an item divides it, hosts are read in ASCII
  lower case, and blanks around items, hosts and URIs do not count.
-/
import GrpcRelay.Net.SocketAddress
import GrpcRelay.Text.Blank

namespace GrpcRelay.Gateway

open Text

/-- Where the gateway listens and where it sends calls. -/
structure Settings where
  listen : SocketAddress
  /-- The host and the URI of each backend, in order. -/
  backends : List (String × String)
  defaultBackend : Option String
  /-- A service is blocked if its name begins with one of these. -/
  blockedPrefixes : List String
  deriving DecidableEq, Repr

/-- Why settings are refused. -/
inductive SettingsError where
  | listenAddress (text : String)
  /-- A backend item has no `=`. -/
  | noUri (item : String)
  /-- A backend item has nothing but blanks on one side of its `=`. -/
  | emptyPart (item : String)
  deriving DecidableEq, Repr

/-- The wording of an error: what went wrong, and the causes below it. -/
def SettingsError.chain : SettingsError → List String
  | listenAddress text =>
    [s!"invalid GATEWAY_LISTEN_ADDR '{text}'", "invalid socket address syntax"]
  | noUri item => [s!"backend entry '{item}' is not host=uri"]
  | emptyPart item => [s!"backend entry '{item}' has an empty host or uri"]

namespace Settings

/-- Where the gateway listens unless it is told. -/
def defaultListen : String := "[::1]:50051"

/-- The items of a list: what stands between commas, without blanks around it, if that is
    anything. -/
def items (s : List Char) : List (List Char) :=
  ((pieces ',' s).map trim).filter (· ≠ [])

/-- Reads one backend. -/
def backend (item : List Char) : Except SettingsError (String × String) :=
  match cutFirst? '=' item with
  | none => .error (.noUri (.ofList item))
  | some (host, uri) =>
    if trim host = [] ∨ trim uri = [] then .error (.emptyPart (.ofList item))
    else .ok (.ofList (lowerText (trim host)), .ofList (trim uri))

/-- Reads items in order up to the first bad one. -/
def backendsOf : List (List Char) → Except SettingsError (List (String × String))
  | [] => .ok []
  | item :: r =>
    match backend item with
    | .error e => .error e
    | .ok b => (backendsOf r).map (b :: ·)

/-- Reads a list of backends. -/
def parseBackends (s : String) : Except SettingsError (List (String × String)) :=
  backendsOf (items s.toList)

/-- Reads the default backend; a blank text is none. -/
def parseDefault (s : String) : Option String :=
  match trim s.toList with
  | [] => none
  | uri => some (.ofList uri)

/-- Reads the settings, the address before the backends. -/
def ofLookup (lookup : String → Option String) : Except SettingsError Settings :=
  let listenText := (lookup "GATEWAY_LISTEN_ADDR").getD defaultListen
  match SocketAddress.ofText? listenText with
  | none => .error (.listenAddress listenText)
  | some listen =>
    match parseBackends ((lookup "GATEWAY_BACKENDS").getD "") with
    | .error e => .error e
    | .ok backends =>
      .ok
        { listen
          backends
          defaultBackend := (lookup "GATEWAY_DEFAULT_BACKEND").bind parseDefault
          blockedPrefixes :=
            (items ((lookup "GATEWAY_BLOCKED_PREFIXES").getD "").toList).map .ofList }

end Settings

end GrpcRelay.Gateway
