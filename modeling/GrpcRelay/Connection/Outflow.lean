/-
  Outflows — the sending side of one stream of a connection.

  An outflow sends one frame at a time.  It takes the next one as soon as the
  connection has set aside a byte for it beyond what waits to be sent.
-/
import GrpcRelay.Connection.Window

namespace GrpcRelay

/-- The sending side of a stream. -/
structure Outflow where
  /-- The window of the stream alone. -/
  window : Window
  /-- How many bytes of the connection's window are set aside for the stream. -/
  granted : Nat
  /-- How many bytes wait to be sent. -/
  backlog : Nat
  /-- How many bytes have been sent. -/
  sent : Nat
  /-- How many of them the receiver has read. -/
  read : Nat
  /-- Whether more frames may come. -/
  isOpen : Bool
  /-- Whether the stream belongs to the connection of today. -/
  attached : Bool
  deriving DecidableEq, Repr

namespace Outflow

/-- The outflow of a stream that has not been opened. -/
def unopened : Outflow := ⟨.fresh, 0, 0, 0, 0, false, true⟩

instance : Inhabited Outflow := ⟨unopened⟩

/-- How many bytes the stream wants to have set aside. -/
def want (o : Outflow) : Nat := if o.isOpen then o.backlog + 1 else o.backlog

/-- How many more bytes the stream wants and its window allows. -/
def lack (o : Outflow) : Nat := min (o.want - o.granted) (o.window.room - o.granted)

/-- How many bytes the stream has been given to send by now. -/
def offered (o : Outflow) : Nat := o.sent + o.backlog

/-- How many bytes wait to be read. -/
def unread (o : Outflow) : Nat := o.sent - o.read

/-- Whether the next frame can be taken. -/
def isReady (o : Outflow) : Bool := o.isOpen && o.backlog == 0 && 0 < o.granted

/-- Whether the stream needs nothing of its connection. -/
def isIdle (o : Outflow) : Bool := !o.isOpen && o.backlog == 0 && o.granted == 0

/-- How many bytes are sent if `n` more are set aside. -/
def flow (o : Outflow) (n : Nat) : Nat := min (o.granted + n) o.backlog

/-- Sets `n` more bytes aside and sends what can be sent. -/
def grant (o : Outflow) (n : Nat) : Outflow :=
  { o with
    granted := o.granted + n - o.flow n
    backlog := o.backlog - o.flow n
    sent := o.sent + o.flow n
    window := o.window.send (o.flow n) }

/-- The stream is given bytes, `total` of them since its start. -/
def offer (o : Outflow) (total : Nat) : Outflow := { o with backlog := total - o.sent }

/-- No more frames come; what waits is still sent. -/
def finish (o : Outflow) : Outflow :=
  { o with isOpen := false, granted := min o.granted o.backlog }

/-- The stream is closed; what waits is never sent. -/
def close (o : Outflow) : Outflow := { o with isOpen := false, backlog := 0, granted := 0 }

end Outflow

end GrpcRelay
