/-
  The leg to the caller — reads the body of the request for the request loop,
  and writes the response from the channel of the response loop.

  A request that ends inside a frame has failed; one whose transport fails with
  `cancelled` has ended.  A response ends with a status, which goes into its
  trailers; a frame over the limit ends it too.
-/
import GrpcRelay.Call.Basic

namespace GrpcRelay

/-- How a final status reads to the caller. -/
def Heard.ofStatus (s : Status) : Heard :=
  if s.isOk then .finished s.toHeaders else .failed s.overHeaders

/-- Whether the response goes on after an event. -/
def Heard.goesOn : Heard → Bool
  | frame _ | pending => true
  | finished _ | failed _ => false

namespace Call

/-! ## The body of the request -/

/-- Bytes of the request's body arrive. -/
def receive (c : Call) (bytes : ByteArray) : Call :=
  let (source, inbound) := c.up.source.feed c.inbound bytes
  { c with inbound, up := { c.up with source } }

/-- The request's body ends, without trailers. -/
def receiveEnd (c : Call) : Call :=
  { c with inbound := none, up := { c.up with source := c.up.source.finish c.inbound none } }

/-- The request's body fails. -/
def receiveFault (c : Call) (s : Status) : Call :=
  { c with inbound := none, up := { c.up with source := c.up.source.fault c.inbound s } }

/-- The caller leaves: its body ends, and it takes nothing any more. -/
def leave (c : Call) : Call :=
  let c := if c.listensToCaller then c.receiveEnd else c
  match c.answer with
  | none => { c with left := true }
  | some _ => { c with down := { c.down with sink := c.down.sink.closeReceiver } }

/-! ## The response -/

/-- The caller has read an event and left this channel behind. -/
def noteHeard (c : Call) (e : Heard) (sink : Channel Item) : Heard × Call :=
  (e, { c with heard := c.heard ++ [e], down := { c.down with sink } })

/-- The caller takes the next item of its response, if there is one.  A frame over the limit ends
    the response, and after the end the caller takes nothing any more. -/
def hear (config : Config) (c : Call) : Heard × Call :=
  match c.down.sink.take? with
  | some (.frame f, sink) =>
    match f.encodeError? config.maxEncoding with
    | none => c.noteHeard (.frame f) sink
    | some s => c.noteHeard (.ofStatus s) sink.closeReceiver
  | some (.failure s, sink) => c.noteHeard (.ofStatus s) sink.closeReceiver
  | none =>
    if c.down.sink.senderOpen then (.pending, c)
    else c.noteHeard (.ofStatus (.of .ok "")) c.down.sink.closeReceiver

end Call

end GrpcRelay
