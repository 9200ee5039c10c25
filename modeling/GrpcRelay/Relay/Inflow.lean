/-
  Inflow — a body that is read into a source: its bytes arrive in chunks of
  any size, and each frame that they complete arrives at the source.

  The decoder of a body is there until the body has failed or ended; what
  arrives afterwards is lost.
-/
import GrpcRelay.Frame.Decoder
import GrpcRelay.Relay.Source

namespace GrpcRelay.Source

/-- Bytes of the body arrive. -/
def feed (s : Source) (d : Option Decoder) (bytes : ByteArray) : Source × Option Decoder :=
  match d with
  | none => (s, none)
  | some d =>
    match d.push bytes with
    | (fs, none, d) => (s.pushAll (fs.map Item.frame), some d)
    | (fs, some e, _) => (s.pushAll (fs.map Item.frame ++ [Item.failure e]), none)

/-- The body ends, with these trailers. -/
def finish (s : Source) (d : Option Decoder) (trailers : Option Metadata) : Source :=
  match d with
  | none => s
  | some d =>
    match d.verdict trailers with
    | some e => s.push (.failure e)
    | none => s.closeWith (.ok trailers)

/-- The body fails. -/
def fault (s : Source) (d : Option Decoder) (e : Status) : Source :=
  match d with
  | none => s
  | some d => if d.isQuiet e then s.close else s.push (.failure e)

end GrpcRelay.Source
