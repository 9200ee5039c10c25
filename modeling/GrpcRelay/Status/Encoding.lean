/-
  Message encodings — frames are passed on as they are, so a leg that
  announces an encoding other than `identity` is refused.
-/
import GrpcRelay.Status

namespace GrpcRelay.Status

/-- The refusal of an encoding, which says what is accepted. -/
def unsupportedEncoding (name : String) : Status :=
  { of .unimplemented ("Content is compressed with `" ++ name ++ "` which isn't supported") with
    metadata := ⟨[("grpc-accept-encoding", .text "identity")]⟩ }

/-- The refusal of the encoding that headers announce, if it is not `identity`. -/
def encodingError? (headers : Metadata) : Option Status :=
  match headers.firstText? "grpc-encoding" with
  | none => none
  | some name => if name = "identity" then none else some (unsupportedEncoding name)

end GrpcRelay.Status
