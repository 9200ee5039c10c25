/-
  Reading frames — the bytes of a body, in chunks of any size, taken apart
  into frames.

  A decoder keeps the bytes that do not make up a frame yet.  The flag byte of
  a prefix is judged before its length, and the length as soon as it is there.
  The end of a body is judged by its direction: a response needs a status in
  its trailers (unless its headers held one), a request does not, and for a
  request a transport failure of code `cancelled` is a quiet end.
-/
import GrpcRelay.Frame
import GrpcRelay.Frame.Reason
import GrpcRelay.Status.Headers

namespace GrpcRelay

/-- What kind of body is read. -/
inductive Direction where
  /-- The body of a call's request. -/
  | request
  /-- The body of a response with this HTTP status. -/
  | response (http : Nat)
  /-- The body of a response whose headers already held the status. -/
  | settledResponse
  deriving DecidableEq, Repr

/-- One part of a body. -/
inductive BodyPart where
  | data (bytes : ByteArray)
  | failure (s : Status)
  | trailers (m : Metadata)

/-- Reads the frames of a body. -/
structure Decoder where
  direction : Direction
  /-- The largest frame that is accepted. -/
  limit : Nat
  /-- Bytes not taken yet. -/
  buffer : ByteArray
  /-- The length of the frame whose prefix has been taken. -/
  awaited : Option Nat

namespace Decoder

/-- The largest frame that is accepted unless a limit is set: 4 MiB. -/
def defaultLimit : Nat := 4194304

/-- The length of a prefix: a flag byte and four bytes of length. -/
def prefixSize : Nat := 5

/-- A decoder at the start of a body. -/
def start (direction : Direction) (limit : Option Nat) : Decoder :=
  ⟨direction, limit.getD defaultLimit, .empty, none⟩

/-- The failure that a flag byte means, if it is not zero. -/
def flagError? (direction : Direction) (flag : UInt8) : Option Status :=
  if flag = 0 then none
  else if flag = 1 then
    some (.of .internal
      "protocol error: received message with compressed-flag but no grpc-encoding was specified")
  else
    let found := "protocol error: received message with invalid compression flag: " ++
      s!"{flag.toNat} (valid flags are 0 and 1)"
    match direction with
    | .response http =>
      some (.of .internal
        (found ++ " while receiving response with status: " ++ Http.statusLine http))
    | _ => some (.of .internal (found ++ ", while sending request"))

/-- The failure that a length means, if it is over the limit. -/
def lengthError? (limit length : Nat) : Option Status :=
  if limit < length then
    some (.of .outOfRange
      (s!"Error, decoded message length too large: found {length} bytes, " ++
        s!"the limit is: {limit} bytes"))
  else none

/-- The flag byte and the length of the prefix that the bytes begin with, if it is complete. -/
def readPrefix? (b : ByteArray) : Option (UInt8 × Nat) :=
  match (b.extract 0 prefixSize).data.toList with
  | [flag, a, b, c, d] =>
    some (flag, a.toNat * 16777216 + b.toNat * 65536 + c.toNat * 256 + d.toNat)
  | _ => none

/-- What a decoder finds in its buffer. -/
inductive Found where
  /-- Not enough bytes for the next prefix or frame. -/
  | nothing (d : Decoder)
  | frame (f : Frame) (d : Decoder)
  | failure (s : Status) (d : Decoder)

/-- Takes the bytes of the awaited frame, if they are there. -/
def takeFrame (d : Decoder) (length : Nat) : Found :=
  if length ≤ d.buffer.size then
    .frame ⟨d.buffer.extract 0 length⟩
      { d with buffer := d.buffer.extract length d.buffer.size, awaited := none }
  else .nothing { d with awaited := some length }

/-- Takes the next frame out of the buffer. -/
def next (d : Decoder) : Found :=
  match d.awaited with
  | some length => d.takeFrame length
  | none =>
    match readPrefix? d.buffer with
    | none => .nothing d
    | some (flag, length) =>
      let rest := { d with buffer := d.buffer.extract prefixSize d.buffer.size }
      match flagError? d.direction flag with
      | some s => .failure s rest
      | none =>
        match lengthError? d.limit length with
        | some s => .failure s rest
        | none => rest.takeFrame length

/-- Takes at most `fuel` frames: the frames, the failure that stopped them, and what is left. -/
def takeFrames (d : Decoder) : Nat → List Frame × Option Status × Decoder
  | 0 => ([], none, d)
  | fuel + 1 =>
    match d.next with
    | .nothing d => ([], none, d)
    | .failure s d => ([], some s, d)
    | .frame f d =>
      let (fs, s, d) := d.takeFrames fuel
      (f :: fs, s, d)

/-- Adds bytes and takes every frame that they complete; each takes at least one awaited length
    or a prefix of five bytes, so the buffer's size bounds their number. -/
def push (d : Decoder) (bytes : ByteArray) : List Frame × Option Status × Decoder :=
  let d := { d with buffer := d.buffer ++ bytes }
  d.takeFrames (d.buffer.size + 1)

/-- The verdict on a body that ends here with these trailers: a failure, or a clean end. -/
def verdict (d : Decoder) (trailers : Option Metadata) : Option Status :=
  match trailers with
  | none =>
    if d.buffer.size ≠ 0 then some (.of .internal "Unexpected EOF decoding stream.")
    else judged none
  | some _ => judged trailers
where
  /-- What the direction makes of an end. -/
  judged (trailers : Option Metadata) : Option Status :=
    match d.direction with
    | .response http => Status.ofEnd http trailers
    | .request | .settledResponse => none

/-- Whether a transport failure reads as a quiet end. -/
def isQuiet (d : Decoder) (s : Status) : Bool :=
  d.direction == .request && s.code == .cancelled

end Decoder

/-! ## Whole bodies -/

/-- How reading a body came to a stop. -/
inductive Stop where
  /-- At the end of the body or at a quiet end, with the trailers read before it. -/
  | ended (trailers : Option Metadata)
  | failed (s : Status)

/-- A body read to its first stop. -/
structure Reading where
  frames : List Frame
  stop : Stop
  /-- The decoder and the parts after the stop. -/
  decoder : Decoder
  rest : List BodyPart

namespace Reading

/-- Reads parts up to the first stop. -/
def ofParts (d : Decoder) : List BodyPart → Reading
  | [] =>
    match d.verdict none with
    | some s => ⟨[], .failed s, d, []⟩
    | none => ⟨[], .ended none, d, []⟩
  | .data bytes :: rest =>
    match d.push bytes with
    | (fs, some s, d) => ⟨fs, .failed s, d, rest⟩
    | (fs, none, d) =>
      let r := ofParts d rest
      { r with frames := fs ++ r.frames }
  | .failure s :: rest =>
    if d.isQuiet s then ⟨[], .ended none, d, rest⟩ else ⟨[], .failed s, d, rest⟩
  | .trailers m :: rest =>
    match d.verdict (some m) with
    | some s => ⟨[], .failed s, d, rest⟩
    | none => ⟨[], .ended (some m), d, rest⟩

/-- The trailers of a body that was read to an end.  After an end without trailers the rest of
    the body is read for them, its frames ignored. -/
def trailers (r : Reading) : Except Status (Option Metadata) :=
  match r.stop with
  | .failed _ => .ok none
  | .ended (some m) => .ok (some m)
  | .ended none =>
    match (ofParts r.decoder r.rest).stop with
    | .failed s => .error s
    | .ended m => .ok m

end Reading

end GrpcRelay
