/-
  Connections — what the requests to the backends share: one window for the
  bytes of all of them, beside the window that each stream has for itself.

  A stream is granted what it lacks as far as the connection's window goes.
  One that is granted less waits its turn; when room comes free, those that
  wait are served in turn.  A stream that its own window holds back does not
  wait in turn.
-/
import GrpcRelay.Connection.Outflow

namespace GrpcRelay

/-- A connection with its streams. -/
structure Connection where
  /-- The window that all streams share. -/
  window : Window
  /-- The streams, by the numbers of their calls. -/
  streams : List Outflow
  /-- The streams that wait for room, in turn. -/
  waiting : List Nat
  deriving DecidableEq, Repr

namespace Connection

/-- A connection without streams. -/
def fresh : Connection := ⟨.fresh, [], []⟩

instance : Inhabited Connection := ⟨fresh⟩

/-- Changes one stream. -/
def update (c : Connection) (i : Nat) (f : Outflow → Outflow) : Connection :=
  { c with streams := c.streams.modify i f }

/-- The room that is not set aside for a stream. -/
def free (c : Connection) : Nat :=
  c.window.room - c.streams.foldr (fun o n => o.granted + n) 0

/-- Grants stream `i` what it lacks, or what there is, and lets it wait for the rest. -/
def assign (c : Connection) (i : Nat) : Connection :=
  match c.streams[i]? with
  | none => c
  | some o =>
    let n := min o.lack c.free
    let after := o.grant n
    { window := c.window.send (o.flow n)
      streams := c.streams.set i after
      waiting := if 0 < after.lack && !c.waiting.contains i then c.waiting ++ [i] else c.waiting }

/-- Serves those of a line while there is room. -/
def serveAll : List Nat → Connection → Connection
  | [], c => c
  | i :: line, c =>
    if c.free = 0 then { c with waiting := i :: line ++ c.waiting } else serveAll line (c.assign i)

/-- Serves the streams that wait. -/
def serve (c : Connection) : Connection := serveAll c.waiting { c with waiting := [] }

/-! ## What happens to a stream -/

/-- A stream for a new call, not opened yet. -/
def addStream (c : Connection) : Connection := { c with streams := c.streams ++ [.unopened] }

/-- Stream `i` is opened, on the connection of today. -/
def openStream (c : Connection) (i : Nat) : Connection :=
  (c.update i fun o => { o with isOpen := true, attached := true }).assign i

/-- Stream `i` is given bytes, `total` of them since its start. -/
def offer (c : Connection) (i total : Nat) : Connection :=
  (c.update i fun o => o.offer total).assign i

/-- No more frames come on stream `i`. -/
def finish (c : Connection) (i : Nat) : Connection := (c.update i .finish).serve

/-- Stream `i` is closed. -/
def close (c : Connection) (i : Nat) : Connection := (c.update i .close).serve

/-- The receiver of stream `i` reads `n` bytes.  Those of a stream of an earlier connection open
    no window. -/
def read (c : Connection) (i n : Nat) : Connection :=
  match c.streams[i]? with
  | none => c
  | some o =>
    let c := c.update i fun o => { o with read := o.read + n }
    if o.attached then
      (({ c with window := c.window.read n }.serve).update i
        fun o => { o with window := o.window.read n }).assign i
    else c

/-- The receiver of stream `i` reads up to byte `stop`, or what there is; each round reads at
    least one byte. -/
def readUpTo (c : Connection) (i stop : Nat) : Nat → Connection
  | 0 => c
  | fuel + 1 =>
    match c.streams[i]? with
    | none => c
    | some o =>
      let n := min stop o.sent - o.read
      if n = 0 then c else (c.read i n).readUpTo i stop fuel

/-- The connection breaks down and a new one takes its place; its streams are over. -/
def replace (c : Connection) : Connection :=
  { fresh with streams := c.streams.map fun o => { o.close with attached := false } }

end Connection

end GrpcRelay
